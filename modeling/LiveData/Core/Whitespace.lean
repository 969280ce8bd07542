import LiveData.Core.Text

/-!
# Surrounding whitespace

`str.strip` of Python, which takes the characters of `str.isspace` from both ends.
-/

namespace LiveData

/-- `str.isspace` of one character. -/
def isSpace (c : Nat) : Bool :=
  (9 ≤ c && c ≤ 13) || (28 ≤ c && c ≤ 32) || c == 133 || c == 160 || c == 5760 ||
    (8192 ≤ c && c ≤ 8202) || c == 8232 || c == 8233 || c == 8239 || c == 8287 || c == 12288

/-- `str.strip`. -/
def strip (s : Str) : Str := ((s.dropWhile isSpace).reverse.dropWhile isSpace).reverse

/-- Neither the first nor the last character is whitespace. -/
def Stripped (s : Str) : Prop :=
  (∀ c ∈ s.head?, isSpace c = false) ∧ ∀ c ∈ s.getLast?, isSpace c = false

instance (s : Str) : Decidable (Stripped s) := inferInstanceAs (Decidable (_ ∧ _))

/-- Only whitespace is taken, at both ends. -/
theorem exists_append_strip (s : Str) : ∃ before after, s = before ++ (strip s ++ after) ∧
    (∀ c ∈ before, isSpace c = true) ∧ ∀ c ∈ after, isSpace c = true := by
  refine ⟨s.takeWhile isSpace, ((s.dropWhile isSpace).reverse.takeWhile isSpace).reverse, ?_,
    ?_, ?_⟩
  · rw [strip, ← List.reverse_append, List.takeWhile_append_dropWhile, List.reverse_reverse,
      List.takeWhile_append_dropWhile]
  · exact List.all_eq_true.mp List.all_takeWhile
  · exact fun c hc => List.all_eq_true.mp List.all_takeWhile c (List.mem_reverse.mp hc)

theorem dropWhile_isSpace_append {before s : Str} (hbefore : ∀ c ∈ before, isSpace c = true)
    (hs : ∀ c ∈ s.head?, isSpace c = false) : (before ++ s).dropWhile isSpace = s := by
  rw [List.dropWhile_append_of_pos hbefore]
  cases s with
  | nil => rfl
  | cons c s => exact List.dropWhile_cons_of_neg (by simpa using hs c rfl)

/-- Whitespace around a stripped text is taken. -/
theorem strip_append {before s after : Str} (hbefore : ∀ c ∈ before, isSpace c = true)
    (hafter : ∀ c ∈ after, isSpace c = true) (hne : s ≠ []) (hs : Stripped s) :
    strip (before ++ (s ++ after)) = s := by
  have hhead : ∀ c ∈ (s ++ after).head?, isSpace c = false := by
    cases s with
    | nil => exact absurd rfl hne
    | cons c s => exact hs.1
  have hlast : ∀ c ∈ s.reverse.head?, isSpace c = false := by
    rw [List.head?_reverse]
    exact hs.2
  have hrear : ∀ c ∈ after.reverse, isSpace c = true := fun c hc =>
    hafter c (List.mem_reverse.mp hc)
  rw [strip, dropWhile_isSpace_append hbefore hhead, List.reverse_append,
    dropWhile_isSpace_append hrear hlast, List.reverse_reverse]

theorem stripped_of_forall {s : Str} (h : ∀ c ∈ s, isSpace c = false) : Stripped s :=
  ⟨fun c hc => h c (List.mem_of_head? hc), fun c hc => h c (List.mem_of_getLast? hc)⟩

/-- Stripping gives a stripped text exactly when there is only whitespace around it. -/
theorem strip_eq_iff {text s : Str} (hne : s ≠ []) (hs : Stripped s) :
    strip text = s ↔ ∃ before after, text = before ++ (s ++ after) ∧
      (∀ c ∈ before, isSpace c = true) ∧ ∀ c ∈ after, isSpace c = true := by
  constructor
  · rintro rfl
    exact exists_append_strip text
  · rintro ⟨before, after, rfl, hbefore, hafter⟩
    exact strip_append hbefore hafter hne hs

theorem infix_append_iff {before s w : Str} (hbefore : ∀ c ∈ before, isSpace c = true)
    (hne : w ≠ []) (hw : ∀ c ∈ w.head?, isSpace c = false) : w <:+: before ++ s ↔ w <:+: s := by
  induction before with
  | nil => rfl
  | cons c before ih =>
    obtain ⟨d, w, rfl⟩ := List.exists_cons_of_ne_nil hne
    have hcd : c ≠ d := by
      rintro rfl
      have hspace := hbefore c List.mem_cons_self
      rw [hw c rfl] at hspace
      cases hspace
    rw [List.cons_append, List.infix_cons_iff, List.cons_prefix_cons,
      ih fun e he => hbefore e (List.mem_cons_of_mem _ he)]
    exact ⟨fun h => h.resolve_left fun hd => hcd hd.1.symm, Or.inr⟩

/-- Stripping takes no part of a stripped text that occurs. -/
theorem infix_strip_iff {s w : Str} (hw : Stripped w) : w <:+: strip s ↔ w <:+: s := by
  by_cases hne : w = []
  · simp [hne]
  · obtain ⟨before, after, hs, hbefore, hafter⟩ := exists_append_strip s
    have hlast : ∀ c ∈ w.reverse.head?, isSpace c = false := by
      rw [List.head?_reverse]
      exact hw.2
    have hrear : ∀ c ∈ after.reverse, isSpace c = true := fun c hc =>
      hafter c (List.mem_reverse.mp hc)
    have hflip : w <:+: strip s ++ after ↔ w.reverse <:+: (strip s ++ after).reverse :=
      List.reverse_infix.symm
    conv_rhs => rw [hs]
    rw [infix_append_iff hbefore hne hw.1, hflip, List.reverse_append,
      infix_append_iff hrear (by simpa using hne) hlast, List.reverse_infix]

/-- A stripped text begins with the first character that is no whitespace. -/
theorem head?_strip (s : Str) : (strip s).head? = (s.dropWhile isSpace).head? := by
  rw [strip]
  cases h : s.dropWhile isSpace with
  | nil => rfl
  | cons c rest =>
    have hc : isSpace c = false := by
      have hhead := List.head?_dropWhile_not isSpace s
      rw [h] at hhead
      simpa using hhead
    obtain ⟨kept, hkept⟩ : ∃ kept, (rest.reverse ++ [c]).dropWhile isSpace = kept ++ [c] := by
      rw [List.dropWhile_append]
      split
      · exact ⟨[], by simp [hc]⟩
      · exact ⟨_, rfl⟩
    rw [List.reverse_cons, hkept, List.reverse_append]
    rfl

end LiveData

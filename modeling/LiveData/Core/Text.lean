import Mathlib.Data.List.Basic
import Mathlib.Data.List.Infix
import Mathlib.Data.List.Lex

/-!
# Text as code points

Python text is a list of code points, so that a lone surrogate is a value like any
other. Lists keep the scanners of this development structural, and literals are read
from `String` by `str`.
-/

namespace LiveData

/-- A text: its code points in order, surrogates included. -/
abbrev Str := List Nat

instance : LawfulBEq Str := inferInstance

/-- The code points of a literal. -/
def str (s : String) : Str := s.toList.map Char.toNat

/-- The code points a UTF-8 encoder accepts: everything but the surrogates. -/
def isScalar (c : Nat) : Bool := c < 0xD800 || (0xDFFF < c && c < 0x110000)

/-- Upper-case ASCII letters are moved to lower case, all else is kept. -/
def asciiLowerChar (c : Nat) : Nat := if 65 ≤ c ∧ c ≤ 90 then c + 32 else c

/-- The case folding of unquoted SQL identifiers in the ASCII range. -/
def asciiLower (s : Str) : Str := s.map asciiLowerChar

theorem eq_nil_of_asciiLower (s : Str) (h : asciiLower s = []) : s = [] := List.map_eq_nil_iff.mp h

/-- Decimal digits of the ASCII range. -/
def isDigit (c : Nat) : Bool := 48 ≤ c && c ≤ 57

/-- The longest prefix whose code points satisfy `p`, and the rest. -/
def spanRun (p : Nat → Bool) : Str → Str × Str
  | [] => ([], [])
  | c :: s => if p c then (c :: (spanRun p s).1, (spanRun p s).2) else ([], c :: s)

/-- The text that follows does not continue a run of `p`. -/
def StopsRun (p : Nat → Bool) (s : Str) : Prop := ∀ c ∈ s.head?, p c = false

@[simp] theorem stopsRun_nil (p : Nat → Bool) : StopsRun p [] := by simp [StopsRun]

@[simp] theorem stopsRun_cons (p : Nat → Bool) (c : Nat) (s : Str) :
    StopsRun p (c :: s) ↔ p c = false := by simp [StopsRun]

/-- A run and what follows it make up the text. -/
theorem spanRun_append (p : Nat → Bool) (s : Str) : (spanRun p s).1 ++ (spanRun p s).2 = s := by
  induction s with
  | nil => rfl
  | cons c s ih =>
    by_cases h : p c = true
    · simp [spanRun, h, ih]
    · simp [spanRun, h]

/-- Every code point of the run satisfies the predicate. -/
theorem spanRun_all (p : Nat → Bool) (s : Str) : ∀ c ∈ (spanRun p s).1, p c = true := by
  induction s with
  | nil => simp [spanRun]
  | cons c s ih =>
    by_cases h : p c = true
    · simpa [spanRun, h] using ih
    · simp [spanRun, h]

/-- The run is maximal. -/
theorem spanRun_stops (p : Nat → Bool) (s : Str) : StopsRun p (spanRun p s).2 := by
  induction s with
  | nil => simp [spanRun]
  | cons c s ih =>
    by_cases h : p c = true
    · simpa [spanRun, h] using ih
    · simp [spanRun, h]

/-- A run followed by a stop is split off exactly. -/
theorem spanRun_of_stops {p : Nat → Bool} {w s : Str} (hw : ∀ c ∈ w, p c = true)
    (hs : StopsRun p s) : spanRun p (w ++ s) = (w, s) := by
  induction w with
  | nil =>
    cases s with
    | nil => rfl
    | cons c s => simp [spanRun, (stopsRun_cons p c s).mp hs]
  | cons c w ih =>
    have hc := hw c (by simp)
    have hi := ih fun d hd => hw d (by simp [hd])
    simp [spanRun, hc, hi]

/-- The text before the first occurrence of a separator and the text behind it. -/
def splitOnce (separator : Nat) (s : Str) : Str × Str :=
  ((spanRun (· != separator) s).1, (spanRun (· != separator) s).2.drop 1)

theorem splitOnce_append_cons {separator : Nat} {before : Str} (h : separator ∉ before)
    (after : Str) : splitOnce separator (before ++ separator :: after) = (before, after) := by
  have hspan : spanRun (· != separator) (before ++ separator :: after) =
      (before, separator :: after) := by
    apply spanRun_of_stops
    · intro c hc
      exact bne_iff_ne.mpr fun he => h (he ▸ hc)
    · simp
  rw [splitOnce, hspan]
  rfl

theorem spanRun_length_le (p : Nat → Bool) (s : Str) : (spanRun p s).2.length ≤ s.length := by
  have h := congrArg List.length (spanRun_append p s)
  simp only [List.length_append] at h
  omega

/-- Two texts cut at a separator are equal when the parts are, or when one begins with the
first part of the other, the separator and a rest that the other continues. -/
theorem append_cons_eq_append_cons_iff {s : Nat} {a b x y : Str} :
    a ++ s :: x = b ++ s :: y ↔ (a = b ∧ x = y) ∨ (∃ z, b = a ++ s :: z ∧ x = z ++ s :: y) ∨
      ∃ z, a = b ++ s :: z ∧ y = z ++ s :: x := by
  constructor
  · intro h
    rcases List.append_eq_append_iff.mp h with ⟨z, hb, hx⟩ | ⟨z, ha, hy⟩
    · cases z with
      | nil =>
        rw [List.append_nil] at hb
        exact Or.inl ⟨hb.symm, (List.cons.inj hx).2⟩
      | cons c z =>
        obtain ⟨rfl, htail⟩ := List.cons.inj hx
        exact Or.inr (Or.inl ⟨z, hb, htail⟩)
    · cases z with
      | nil =>
        rw [List.append_nil] at ha
        exact Or.inl ⟨ha, (List.cons.inj hy).2.symm⟩
      | cons c z =>
        obtain ⟨rfl, htail⟩ := List.cons.inj hy
        exact Or.inr (Or.inr ⟨z, ha, htail⟩)
  · rintro (⟨rfl, rfl⟩ | ⟨z, rfl, rfl⟩ | ⟨z, rfl, rfl⟩)
    · rfl
    · rw [List.append_assoc, List.cons_append]
    · rw [List.append_assoc, List.cons_append]

end LiveData

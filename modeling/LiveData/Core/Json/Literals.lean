import LiveData.Core.Json.Encoder
import LiveData.Core.Json.Progress
import Mathlib.Tactic.IntervalCases

/-!
# JSON literals

What the scanner makes of an encoded text, of integer digits, of a plain decimal and of
the constants, each with any text behind it.
-/

namespace LiveData.Json

/-- How the scanner sees an encoded character. -/
def unitOf (c : Nat) : StringUnit :=
  if (shortEscape c).isSome ∨ c < 32 then .escaped c else .literal c

private theorem simpleEscape_of_shortEscape {c e : Nat} (h : shortEscape c = some e) :
    simpleEscape e = some c ∧ e ≠ 117 := by
  have hm := Dict.mem_of_lookup h
  simp only [List.mem_cons, Prod.mk.injEq, List.not_mem_nil, or_false] at hm
  rcases hm with ⟨rfl, rfl⟩ | ⟨rfl, rfl⟩ | ⟨rfl, rfl⟩ | ⟨rfl, rfl⟩ | ⟨rfl, rfl⟩ | ⟨rfl, rfl⟩ |
    ⟨rfl, rfl⟩ <;> decide

private theorem scanUnits_control {c : Nat} (h : c < 32) (rest : Str) :
    scanUnits .plain (92 :: 117 :: 48 :: 48 :: hexDigit (c / 16) :: hexDigit (c % 16) :: rest) =
      pushUnit (.escaped c) (scanUnits .plain rest) := by
  interval_cases c <;> rfl

/-- One encoded character is one unit. -/
theorem scanUnits_encodeChar (c : Nat) (rest : Str) :
    scanUnits .plain (encodeChar c ++ rest) = pushUnit (unitOf c) (scanUnits .plain rest) := by
  unfold encodeChar unitOf
  cases h : shortEscape c with
  | some e =>
    obtain ⟨he, hu⟩ := simpleEscape_of_shortEscape h
    simp [scanUnits, he, hu]
  | none =>
    have h34 : c ≠ 34 := by rintro rfl; exact absurd h (by decide)
    have h92 : c ≠ 92 := by rintro rfl; exact absurd h (by decide)
    by_cases hc : c < 32
    · simpa [hc] using scanUnits_control hc rest
    · simp [scanUnits, hc, h34, h92]

/-- An encoded text is scanned unit by unit up to its closing quote. -/
theorem scanUnits_encode (s rest : Str) :
    scanUnits .plain (s.flatMap encodeChar ++ 34 :: rest) = some (s.map unitOf, rest) := by
  induction s with
  | nil => simp [scanUnits]
  | cons c s ih =>
    rw [List.flatMap_cons, List.append_assoc, scanUnits_encodeChar, ih]
    rfl

private theorem unitOf_eq (c : Nat) :
    unitOf c = .literal c ∨ (unitOf c = .escaped c ∧ isHighSurrogate c = false) := by
  unfold unitOf
  split
  · next h =>
    refine Or.inr ⟨rfl, ?_⟩
    have hlt : c < 128 := by
      rcases h with h | h
      · obtain ⟨e, he⟩ := Option.isSome_iff_exists.mp h
        have hm := Dict.mem_of_lookup he
        simp only [List.mem_cons, Prod.mk.injEq, List.not_mem_nil, or_false] at hm
        omega
      · omega
    simp only [isHighSurrogate, Bool.and_eq_false_iff, decide_eq_false_iff_not]
    omega
  · exact Or.inl rfl

/-- Encoded characters never join. -/
theorem joinSurrogates_map_unitOf (s : Str) : joinSurrogates (s.map unitOf) = s := by
  induction s with
  | nil => rfl
  | cons c s ih =>
    rcases unitOf_eq c with h | ⟨h, hs⟩
    · simp [h, joinSurrogates, ih]
    · cases s with
      | nil => simp [h, joinSurrogates]
      | cons d s =>
        rw [List.map_cons] at ih
        rw [List.map_cons, List.map_cons]
        rcases unitOf_eq d with h' | ⟨h', -⟩
        · rw [h'] at ih ⊢
          simp only [joinSurrogates, List.cons.injEq, true_and] at ih
          simp [h, joinSurrogates, ih]
        · rw [h'] at ih ⊢
          simp [h, joinSurrogates, hs, ih]

/-- A string literal is read back. -/
theorem scanString_encode (s rest : Str) :
    scanString (s.flatMap encodeChar ++ 34 :: rest) = .ok (s, rest) := by
  simp [scanString, scanUnits_encode, joinSurrogates_map_unitOf]

theorem skipWhitespace_cons {c : Nat} (h : isWhitespace c = false) (s : Str) :
    skipWhitespace (c :: s) = c :: s := by simp [skipWhitespace, spanRun, h]

/-- Integer digits without a leading zero. -/
def IntegerText : Str → Prop
  | [] => False
  | c :: rest => isDigit c = true ∧ (∀ d ∈ rest, isDigit d = true) ∧ (c = 48 → rest = [])

/-- A plain decimal: integer digits, a point and fraction digits. -/
def FloatText (t : Str) : Prop :=
  ∃ integer fraction, t = integer ++ 46 :: fraction ∧ IntegerText integer ∧ fraction ≠ [] ∧
    ∀ d ∈ fraction, isDigit d = true

theorem IntegerText.head {t : Str} (h : IntegerText t) :
    ∃ c rest, t = c :: rest ∧ isDigit c = true := by
  cases t with
  | nil => exact absurd h id
  | cons c digits => exact ⟨c, digits, rfl, h.1⟩

/-- What may follow a number without continuing it. -/
def StopsNumber (s : Str) : Prop := ∀ c ∈ s.head?, isDigit c = false ∧ c ≠ 69 ∧ c ≠ 101

theorem scanInteger_append {integer rest : Str} (h : IntegerText integer)
    (hs : StopsRun isDigit rest) : scanInteger (integer ++ rest) = some (integer, rest) := by
  cases integer with
  | nil => exact absurd h id
  | cons c digits =>
    obtain ⟨hc, hd, hz⟩ := h
    by_cases h0 : c = 48
    · simp [scanInteger, h0, hz h0]
    · simp [scanInteger, h0, hc, spanRun_of_stops hd hs]

theorem scanFraction_append {fraction rest : Str} (hne : fraction ≠ [])
    (hd : ∀ d ∈ fraction, isDigit d = true) (hs : StopsRun isDigit rest) :
    scanFraction (46 :: (fraction ++ rest)) = (46 :: fraction, rest) := by
  simp [scanFraction, spanRun_of_stops hd hs, hne]

theorem scanExponent_of_stops {s : Str} (h : StopsNumber s) : scanExponent s = ([], s) := by
  cases s with
  | nil => rfl
  | cons c s =>
    obtain ⟨-, h69, h101⟩ := h c (by simp)
    simp [scanExponent, h69, h101]

/-- A digit is no whitespace. -/
theorem isWhitespace_of_digit {c : Nat} (h : isDigit c = true) : isWhitespace c = false := by
  have hd : 48 ≤ c ∧ c ≤ 57 := by simpa [isDigit] using h
  simp only [isWhitespace, Bool.or_eq_false_iff, beq_eq_false_iff_ne]
  omega

variable {F : Type} {decoder : Decoder F} {floatRepr : F → Str}

/-- A plain decimal is read as one float. -/
theorem scanUnsigned_floatText {t rest : Str} (h : FloatText t) (hs : StopsNumber rest) :
    scanUnsigned decoder false (t ++ rest) = .ok (.float (decoder.parseFloat t), rest) := by
  obtain ⟨integer, fraction, rfl, hi, hne, hd⟩ := h
  have hdot : StopsRun isDigit (46 :: (fraction ++ rest)) := (stopsRun_cons _ _ _).mpr (by decide)
  have hstop : StopsRun isDigit rest := fun c hc => (hs c hc).1
  rw [List.append_assoc, List.cons_append]
  simp only [scanUnsigned, scanInteger_append hi hdot, scanFraction_append hne hd hstop,
    scanExponent_of_stops hs]
  simp

theorem FloatText.head {t : Str} (h : FloatText t) :
    ∃ c rest, t = c :: rest ∧ isDigit c = true := by
  obtain ⟨integer, fraction, rfl, hi, -, -⟩ := h
  obtain ⟨c, rest, rfl, hc⟩ := hi.head
  exact ⟨c, _, rfl, hc⟩

private theorem firstM_eq_none {α β : Type} {f : α → Option β} {items : List α}
    (h : ∀ a ∈ items, f a = none) : items.firstM f = none := by
  induction items with
  | nil => rfl
  | cons a items ih =>
    have ha := h a (by simp)
    have hi := ih fun b hb => h b (by simp [hb])
    simpa [List.firstM, ha] using hi

/-- No constant starts with a digit. -/
theorem scanConstant_of_digit {c : Nat} (h : isDigit c = true) (rest : Str) :
    scanConstant decoder (c :: rest) = none := by
  have hc : 48 ≤ c ∧ c ≤ 57 := by simpa [isDigit] using h
  have hne : ∀ d word, d < 48 ∨ 57 < d → stripPrefix (d :: word) (c :: rest) = none := by
    intro d word hd
    have hn : d ≠ c := by omega
    simp [stripPrefix, hn]
  apply firstM_eq_none
  intro p hp
  simp only [constants, List.mem_cons, List.not_mem_nil, or_false] at hp
  rw [Option.map_eq_none_iff]
  rcases hp with rfl | rfl | rfl | rfl | rfl | rfl
  · exact hne 110 (str "ull") (by decide)
  · exact hne 116 (str "rue") (by decide)
  · exact hne 102 (str "alse") (by decide)
  · exact hne 78 (str "aN") (by decide)
  · exact hne 73 (str "nfinity") (by decide)
  · exact hne 45 (str "Infinity") (by decide)

/-- A text that starts with a digit is scanned as a number. -/
theorem scanTerm_of_digit {c : Nat} (h : isDigit c = true)
    (array object : Str → Except DecodeError (Value F × Str)) (rest : Str) :
    scanTerm decoder array object (c :: rest) = scanUnsigned decoder false (c :: rest) := by
  have hd : 48 ≤ c ∧ c ≤ 57 := by simpa [isDigit] using h
  have hne : c ≠ 34 ∧ c ≠ 123 ∧ c ≠ 91 ∧ c ≠ 45 := by omega
  simp [scanTerm, scanConstant_of_digit h, matchNumber, hne]

theorem scanOnce_of_digit {c : Nat} (h : isDigit c = true) (depth : Nat) (rest : Str) :
    scanOnce decoder depth (c :: rest) = scanUnsigned decoder false (c :: rest) := by
  cases depth with
  | zero => exact scanTerm_of_digit h _ _ rest
  | succ depth => exact scanTerm_of_digit h _ _ rest

theorem stripPrefix_append (word rest : Str) : stripPrefix word (word ++ rest) = some rest := by
  induction word with
  | nil => rfl
  | cons c word ih => simp [stripPrefix, ih]

end LiveData.Json

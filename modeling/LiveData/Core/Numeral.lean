import LiveData.Core.Text
import Mathlib.Data.Nat.Log
import Mathlib.Data.List.Induction
import Mathlib.Tactic.Positivity
import Mathlib.Tactic.Ring

/-!
# Decimal numerals

Numerals of a fixed width, numerals without leading zeros, and the numbers they denote.
-/

namespace LiveData

/-- The number a run of decimal digits denotes. -/
def digitsValue (s : Str) : Nat := s.foldl (fun n c => 10 * n + (c - 48)) 0

/-- The last `k` decimal digits of a number. -/
def padDigits : Nat → Nat → Str
  | 0, _ => []
  | k + 1, n => padDigits k (n / 10) ++ [48 + n % 10]

/-- The decimal numeral without leading zeros. -/
def natText (n : Nat) : Str := padDigits (Nat.log 10 n + 1) n

@[simp] theorem digitsValue_nil : digitsValue [] = 0 := rfl

@[simp] theorem digitsValue_concat (s : Str) (c : Nat) :
    digitsValue (s ++ [c]) = 10 * digitsValue s + (c - 48) := by simp [digitsValue]

/-- Digits in front are shifted by the digits behind them. -/
theorem digitsValue_append (s t : Str) :
    digitsValue (s ++ t) = digitsValue s * 10 ^ t.length + digitsValue t := by
  induction t using List.reverseRecOn with
  | nil => simp
  | append_singleton t c ih =>
    rw [← List.append_assoc, digitsValue_concat, digitsValue_concat, ih, List.length_append,
      List.length_singleton, pow_succ]
    ring

@[simp] theorem length_padDigits (k n : Nat) : (padDigits k n).length = k := by
  induction k generalizing n with
  | zero => rfl
  | succ k ih => simp [padDigits, ih]

/-- A numeral has digits only. -/
theorem isDigit_padDigits (k n : Nat) : ∀ c ∈ padDigits k n, isDigit c = true := by
  induction k generalizing n with
  | zero => simp [padDigits]
  | succ k ih =>
    intro c hc
    rcases List.mem_append.mp hc with hc | hc
    · exact ih _ c hc
    · rw [List.mem_singleton] at hc
      simp only [isDigit, Bool.and_eq_true, decide_eq_true_eq]
      omega

/-- A numeral that is wide enough denotes its number. -/
theorem digitsValue_padDigits {k n : Nat} (h : n < 10 ^ k) : digitsValue (padDigits k n) = n := by
  induction k generalizing n with
  | zero =>
    obtain rfl : n = 0 := by simpa using h
    rfl
  | succ k ih =>
    have hk : n / 10 < 10 ^ k := by
      rw [pow_succ] at h
      omega
    rw [padDigits, digitsValue_concat, ih hk]
    omega

/-- The first digit of a numeral. -/
theorem padDigits_succ (k n : Nat) :
    padDigits (k + 1) n = (48 + n / 10 ^ k % 10) :: padDigits k n := by
  induction k generalizing n with
  | zero => simp [padDigits]
  | succ k ih =>
    rw [padDigits, ih, padDigits, Nat.div_div_eq_div_mul, ← Nat.pow_succ', List.cons_append]

@[simp] theorem digitsValue_natText (n : Nat) : digitsValue (natText n) = n :=
  digitsValue_padDigits (Nat.lt_pow_succ_log_self (by decide) n)

theorem isDigit_natText (n : Nat) : ∀ c ∈ natText n, isDigit c = true :=
  isDigit_padDigits (Nat.log 10 n + 1) n

/-- A numeral is read off what stops it. -/
theorem eq_of_natText_append {m n : Nat} {s t : Str} (hs : StopsRun isDigit s)
    (ht : StopsRun isDigit t) (h : natText m ++ s = natText n ++ t) : m = n := by
  have hspan := congrArg (spanRun isDigit) h
  rw [spanRun_of_stops (isDigit_natText m) hs, spanRun_of_stops (isDigit_natText n) ht] at hspan
  have hvalue := congrArg (fun parts => digitsValue parts.1) hspan
  simpa using hvalue

/-- The first digit of a numeral without leading zeros is a zero only for zero. -/
theorem natText_eq_cons (n : Nat) : ∃ c digits, natText n = c :: digits ∧ isDigit c = true ∧
    (∀ d ∈ digits, isDigit d = true) ∧ (c = 48 → digits = []) := by
  refine ⟨_, _, padDigits_succ _ n, ?_, isDigit_padDigits _ n, ?_⟩
  · simp only [isDigit, Bool.and_eq_true, decide_eq_true_eq]
    omega
  · intro hc
    by_cases hn : n = 0
    · simp [hn, padDigits]
    · have hle : 10 ^ Nat.log 10 n ≤ n := Nat.pow_log_le_self 10 hn
      have hlt : n < 10 ^ (Nat.log 10 n + 1) := Nat.lt_pow_succ_log_self (by decide) n
      have hpos : 0 < 10 ^ Nat.log 10 n := by positivity
      have h1 : 1 ≤ n / 10 ^ Nat.log 10 n := (Nat.one_le_div_iff hpos).mpr hle
      have h10 : n / 10 ^ Nat.log 10 n < 10 := by
        rw [Nat.div_lt_iff_lt_mul hpos, ← Nat.pow_succ']
        exact hlt
      omega

/-- A numeral of `k` digits at the front, as a number. -/
def readDigits (k : Nat) (s : Str) : Option (Nat × Str) :=
  if (s.take k).length = k ∧ (s.take k).all isDigit = true then
    some (digitsValue (s.take k), s.drop k)
  else none

/-- A numeral of fixed width is read back. -/
theorem readDigits_padDigits {k n : Nat} (h : n < 10 ^ k) (rest : Str) :
    readDigits k (padDigits k n ++ rest) = some (n, rest) := by
  have ht : (padDigits k n ++ rest).take k = padDigits k n := by
    rw [List.take_append_of_le_length (by simp), List.take_of_length_le (by simp)]
  have hd : (padDigits k n ++ rest).drop k = rest := by
    rw [List.drop_append_of_le_length (by simp), List.drop_of_length_le (by simp)]
    rfl
  have ha : (padDigits k n).all isDigit = true := List.all_eq_true.mpr (isDigit_padDigits k n)
  simp only [readDigits, ht, hd, ha, length_padDigits, and_self, ite_true, digitsValue_padDigits h]

end LiveData

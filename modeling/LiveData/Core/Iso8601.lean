import LiveData.Core.Calendar
import LiveData.Core.Numeral

/-!
# ISO 8601 timestamps

A UTC moment printed with milliseconds, as `isoformat(timespec="milliseconds")` prints it
with `Z` for the offset, and read back.
-/

namespace LiveData

/-- `YYYY-MM-DDTHH:MM:SS.mmmZ`. -/
def CivilTime.isoText (t : CivilTime) : Str :=
  padDigits 4 t.year ++ 45 :: (padDigits 2 t.month ++ 45 :: (padDigits 2 t.day ++ 84 ::
    (padDigits 2 t.hour ++ 58 :: (padDigits 2 t.minute ++ 58 :: (padDigits 2 t.second ++ 46 ::
      (padDigits 3 (t.microsecond / 1000) ++ [90]))))))

/-- The text behind an expected character. -/
def expectChar (c : Nat) : Str → Option Str
  | [] => none
  | d :: s => if d = c then some s else none

private theorem expectChar_bind {β : Type} (c : Nat) (s : Str) (f : Str → Option β) :
    (expectChar c (c :: s) >>= f) = f s := by simp [expectChar]

private theorem readDigits_bind {β : Type} {k n : Nat} (h : n < 10 ^ k) (rest : Str)
    (f : Nat × Str → Option β) : (readDigits k (padDigits k n ++ rest) >>= f) = f (n, rest) := by
  rw [readDigits_padDigits h]
  rfl

/-- The moment with given fields, when they are in range. -/
def CivilTime.ofFields (year month day hour minute second microsecond : Nat) : Option CivilTime :=
  if h : (1 ≤ year ∧ year ≤ 9999) ∧ (1 ≤ month ∧ month ≤ 12) ∧
      (1 ≤ day ∧ day ≤ daysInMonth year month) ∧ hour < 24 ∧ minute < 60 ∧ second < 60 ∧
      microsecond < 1000000 then
    some ⟨year, month, day, hour, minute, second, microsecond, h.1.1, h.1.2, h.2.1.1, h.2.1.2,
      h.2.2.1.1, h.2.2.1.2, h.2.2.2.1, h.2.2.2.2.1, h.2.2.2.2.2.1, h.2.2.2.2.2.2⟩
  else none

/-- The fields of a moment give it back. -/
@[simp] theorem CivilTime.ofFields_fields (t : CivilTime) :
    ofFields t.year t.month t.day t.hour t.minute t.second t.microsecond = some t := by
  have h : (1 ≤ t.year ∧ t.year ≤ 9999) ∧ (1 ≤ t.month ∧ t.month ≤ 12) ∧
      (1 ≤ t.day ∧ t.day ≤ daysInMonth t.year t.month) ∧ t.hour < 24 ∧ t.minute < 60 ∧
      t.second < 60 ∧ t.microsecond < 1000000 :=
    ⟨⟨t.year_pos, t.year_le⟩, ⟨t.month_pos, t.month_le⟩, ⟨t.day_pos, t.day_le⟩, t.hour_lt,
      t.minute_lt, t.second_lt, t.microsecond_lt⟩
  rw [ofFields, dif_pos h]

/-- Reading a UTC timestamp with milliseconds. -/
def CivilTime.parseIso (s : Str) : Option CivilTime := do
  let (year, s) ← readDigits 4 s
  let s ← expectChar 45 s
  let (month, s) ← readDigits 2 s
  let s ← expectChar 45 s
  let (day, s) ← readDigits 2 s
  let s ← expectChar 84 s
  let (hour, s) ← readDigits 2 s
  let s ← expectChar 58 s
  let (minute, s) ← readDigits 2 s
  let s ← expectChar 58 s
  let (second, s) ← readDigits 2 s
  let s ← expectChar 46 s
  let (millisecond, s) ← readDigits 3 s
  let s ← expectChar 90 s
  if s = [] then ofFields year month day hour minute second (millisecond * 1000) else none

/-- A moment on a whole millisecond is read back from its text. -/
theorem CivilTime.parseIso_isoText (t : CivilTime) (h : t.microsecond % 1000 = 0) :
    parseIso t.isoText = some t := by
  have hyear : t.year < 10 ^ 4 := Nat.lt_of_le_of_lt t.year_le (by decide)
  have hmonth : t.month < 10 ^ 2 := Nat.lt_of_le_of_lt t.month_le (by decide)
  have hday : t.day < 10 ^ 2 :=
    Nat.lt_of_le_of_lt (t.day_le.trans (daysInMonth_le _ _)) (by decide)
  have hhour : t.hour < 10 ^ 2 := Nat.lt_trans t.hour_lt (by decide)
  have hminute : t.minute < 10 ^ 2 := Nat.lt_trans t.minute_lt (by decide)
  have hsecond : t.second < 10 ^ 2 := Nat.lt_trans t.second_lt (by decide)
  have hmilli : t.microsecond / 1000 < 10 ^ 3 :=
    Nat.div_lt_of_lt_mul (Nat.lt_of_lt_of_le t.microsecond_lt (by decide))
  have hmicro : t.microsecond / 1000 * 1000 = t.microsecond := by omega
  refine (readDigits_bind hyear _ _).trans ((expectChar_bind 45 _ _).trans ?_)
  refine (readDigits_bind hmonth _ _).trans ((expectChar_bind 45 _ _).trans ?_)
  refine (readDigits_bind hday _ _).trans ((expectChar_bind 84 _ _).trans ?_)
  refine (readDigits_bind hhour _ _).trans ((expectChar_bind 58 _ _).trans ?_)
  refine (readDigits_bind hminute _ _).trans ((expectChar_bind 58 _ _).trans ?_)
  refine (readDigits_bind hsecond _ _).trans ((expectChar_bind 46 _ _).trans ?_)
  refine (readDigits_bind hmilli _ _).trans ((expectChar_bind 90 _ _).trans ?_)
  simp only [ite_true, hmicro, ofFields_fields]

end LiveData

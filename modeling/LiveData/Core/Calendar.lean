import Mathlib.Tactic.IntervalCases

/-!
# Civil time

Dates of the proleptic Gregorian calendar in the years 1 to 9999, the microseconds they are
away from the first of them, and the conversion of a `datetime` to UTC.
-/

namespace LiveData

/-- Leap years. -/
def isLeapYear (y : Nat) : Bool := y % 4 = 0 ∧ (y % 100 ≠ 0 ∨ y % 400 = 0)

/-- The days before the first of January. -/
def daysBeforeYear (y : Nat) : Nat := (y - 1) * 365 + (y - 1) / 4 - (y - 1) / 100 + (y - 1) / 400

/-- The days of a month. -/
def daysInMonth (y m : Nat) : Nat :=
  match m with
  | 2 => if isLeapYear y then 29 else 28
  | 4 | 6 | 9 | 11 => 30
  | _ => 31

theorem daysInMonth_le (y m : Nat) : daysInMonth y m ≤ 31 := by
  unfold daysInMonth
  split
  · cases isLeapYear y <;> decide
  all_goals decide

/-- The days of a year before the first of a month. -/
def daysBeforeMonth (y m : Nat) : Nat :=
  ((List.range (m - 1)).map fun k => daysInMonth y (k + 1)).sum

/-- The microseconds of a day. -/
def dayMicros : Nat := 86400000000

/-- The end of the range of `datetime`. -/
def datetimeEnd : Nat := daysBeforeYear 10000 * dayMicros

/-- A moment given by its calendar fields. -/
structure CivilTime where
  year : Nat
  month : Nat
  day : Nat
  hour : Nat
  minute : Nat
  second : Nat
  microsecond : Nat
  year_pos : 1 ≤ year
  year_le : year ≤ 9999
  month_pos : 1 ≤ month
  month_le : month ≤ 12
  day_pos : 1 ≤ day
  day_le : day ≤ daysInMonth year month
  hour_lt : hour < 24
  minute_lt : minute < 60
  second_lt : second < 60
  microsecond_lt : microsecond < 1000000
  deriving DecidableEq

/-- The days from the first day of the calendar. -/
def CivilTime.days (t : CivilTime) : Nat :=
  daysBeforeYear t.year + daysBeforeMonth t.year t.month + (t.day - 1)

/-- The microseconds from the first moment of the calendar. -/
def CivilTime.micros (t : CivilTime) : Nat :=
  t.days * dayMicros + (((t.hour * 60 + t.minute) * 60 + t.second) * 1000000 + t.microsecond)

/-- The days of a year up to the end of a month. -/
theorem daysBeforeMonth_add_le (y m : Nat) (h1 : 1 ≤ m) (h12 : m ≤ 12) :
    daysBeforeMonth y m + daysInMonth y m ≤ if isLeapYear y then 366 else 365 := by
  cases hl : isLeapYear y <;> interval_cases m <;>
    simp [daysBeforeMonth, daysInMonth, hl, List.range_succ]

/-- The days before a month are the ones before the month ahead of it and that month's. -/
theorem daysBeforeMonth_succ (y : Nat) {m : Nat} (h1 : 1 ≤ m) :
    daysBeforeMonth y (m + 1) = daysBeforeMonth y m + daysInMonth y m := by
  obtain ⟨k, rfl⟩ : ∃ k, m = k + 1 := ⟨m - 1, by omega⟩
  simp [daysBeforeMonth, List.range_succ]

/-- A month ends before the later ones. -/
theorem daysBeforeMonth_add_le_of_lt (y : Nat) {m m' : Nat} (h1 : 1 ≤ m) (h : m < m') :
    daysBeforeMonth y m + daysInMonth y m ≤ daysBeforeMonth y m' := by
  induction m', h using Nat.le_induction with
  | base => exact (daysBeforeMonth_succ y h1).ge
  | succ m' hlt ih =>
    rw [daysBeforeMonth_succ y (by omega)]
    exact ih.trans (Nat.le_add_right _ _)

/-- The days before a year are the ones before the year ahead of it and that year's. -/
theorem daysBeforeYear_succ {y : Nat} (h1 : 1 ≤ y) :
    daysBeforeYear (y + 1) = daysBeforeYear y + if isLeapYear y then 366 else 365 := by
  obtain ⟨k, rfl⟩ : ∃ k, y = k + 1 := ⟨y - 1, by omega⟩
  have hle : k / 100 ≤ k := Nat.div_le_self k 100
  have h100 : (k + 1) % 100 = 0 → (k + 1) % 4 = 0 := by omega
  have h400 : (k + 1) % 400 = 0 → (k + 1) % 100 = 0 := by omega
  simp only [daysBeforeYear, isLeapYear, Nat.add_sub_cancel, Nat.succ_div,
    Nat.dvd_iff_mod_eq_zero, decide_eq_true_eq]
  generalize k / 4 = fours, k / 100 = centuries, k / 400 = cycles at *
  generalize (k + 1) % 4 = r4, (k + 1) % 100 = r100, (k + 1) % 400 = r400 at *
  split_ifs <;> omega

/-- A year ends before the later ones. -/
theorem daysBeforeYear_add_le_of_lt {y y' : Nat} (h1 : 1 ≤ y) (h : y < y') :
    daysBeforeYear y + (if isLeapYear y then 366 else 365) ≤ daysBeforeYear y' := by
  induction y', h using Nat.le_induction with
  | base => exact (daysBeforeYear_succ h1).ge
  | succ y' hlt ih =>
    rw [daysBeforeYear_succ (by omega)]
    exact ih.trans (Nat.le_add_right _ _)

/-- A day lies in its year. -/
theorem CivilTime.days_lt_year (t : CivilTime) :
    t.days < daysBeforeYear t.year + (if isLeapYear t.year then 366 else 365) := by
  have hm := daysBeforeMonth_add_le t.year t.month t.month_pos t.month_le
  have hd := t.day_pos
  have hd' := t.day_le
  simp only [days]
  omega

/-- No day lies behind the last one of the year 9999. -/
theorem CivilTime.days_lt (t : CivilTime) : t.days < daysBeforeYear 10000 :=
  t.days_lt_year.trans_le (daysBeforeYear_add_le_of_lt t.year_pos (Nat.lt_succ_of_le t.year_le))

/-- The days of an earlier year come first. -/
theorem CivilTime.days_lt_of_year_lt {s t : CivilTime} (h : s.year < t.year) :
    s.days < t.days := by
  have hyear := daysBeforeYear_add_le_of_lt s.year_pos h
  have hs := s.days_lt_year
  have ht : daysBeforeYear t.year ≤ t.days := by
    simp only [days]
    omega
  omega

/-- The days of an earlier month of a year come first. -/
theorem CivilTime.days_lt_of_month_lt {s t : CivilTime} (hy : s.year = t.year)
    (h : s.month < t.month) : s.days < t.days := by
  have hmonth := daysBeforeMonth_add_le_of_lt s.year s.month_pos h
  have hd := s.day_pos
  have hd' := s.day_le
  simp only [days, ← hy]
  omega

/-- The number of a day tells its date. -/
theorem CivilTime.days_inj {s t : CivilTime} :
    s.days = t.days ↔ s.year = t.year ∧ s.month = t.month ∧ s.day = t.day := by
  constructor
  · intro h
    have hy : s.year = t.year := by
      rcases Nat.lt_trichotomy s.year t.year with hlt | heq | hgt
      · exact absurd h (days_lt_of_year_lt hlt).ne
      · exact heq
      · exact absurd h (days_lt_of_year_lt hgt).ne'
    have hm : s.month = t.month := by
      rcases Nat.lt_trichotomy s.month t.month with hlt | heq | hgt
      · exact absurd h (days_lt_of_month_lt hy hlt).ne
      · exact heq
      · exact absurd h (days_lt_of_month_lt hy.symm hgt).ne'
    have hs := s.day_pos
    have ht := t.day_pos
    simp only [days, hy, hm] at h
    exact ⟨hy, hm, by omega⟩
  · rintro ⟨hy, hm, hd⟩
    rw [days, days, hy, hm, hd]

/-- Every moment lies in the range of `datetime`. -/
theorem CivilTime.micros_lt (t : CivilTime) : t.micros < datetimeEnd := by
  have hd := t.days_lt
  have hh := t.hour_lt
  have hm := t.minute_lt
  have hs := t.second_lt
  have hu := t.microsecond_lt
  simp only [micros, datetimeEnd, dayMicros] at *
  omega

/-- A `datetime`: local microseconds and the offset from UTC, when it is aware. A parsed value
has `fold` 0. -/
structure DateTime where
  wall : Nat
  offset : Option Int
  wall_lt : wall < datetimeEnd
  deriving DecidableEq

/-- The offset of the local zone from UTC at a second of UTC, both in seconds. -/
abbrev LocalZone := Int → Int

namespace LocalZone

variable (zone : LocalZone)

/-- `local`: the second the local clock shows, an error outside the range of `datetime`. -/
def clock (u : Int) : Option Int :=
  if 0 ≤ u + zone u ∧ (u + zone u) * 1000000 < datetimeEnd then some (u + zone u) else none

/-- The end of `local_to_seconds`, with the second offset `b` it tries for `t`. -/
def secondGuess (fold : Bool) (t u1 t1 b : Int) : Option Int :=
  (clock zone (t - b)).map fun t2 =>
    if t2 = t then t - b
    else if t1 = t then u1
    else if fold then min u1 (t - b) else max u1 (t - b)

/-- `local_to_seconds`: solve `t = local(u)` for `u`. -/
def toSeconds (fold : Bool) (t : Int) : Option Int :=
  (clock zone t).bind fun lt =>
    let a := lt - t
    let u1 := t - a
    (clock zone u1).bind fun t1 =>
      if t1 = t then
        -- look for another solution a day before or, with `fold`, a day after
        let u2 := if fold then u1 + 86400 else u1 - 86400
        (clock zone u2).bind fun lt2 =>
          if a = lt2 - u2 then some u1 else secondGuess zone fold t u1 t1 (lt2 - u2)
      else secondGuess zone fold t u1 t1 (t1 - u1)

/-- `local_timezone_from_local`: the offset of a naive value, after both folds are solved. -/
def offsetAt (t : Int) : Option Int :=
  (toSeconds zone false t).bind fun secs =>
    (toSeconds zone true t).map fun secs2 => zone (if secs2 < secs then secs2 else secs)

end LocalZone

/-- `astimezone(utc)` in microseconds, if nothing is raised. A naive value is taken in the local
zone, and cannot be when a day around it is outside the range. -/
def DateTime.toUtc (localZone : LocalZone) (t : DateTime) : Option Int :=
  (match t.offset with
    | some offset => some offset
    | none => (localZone.offsetAt (t.wall / 1000000)).map (· * 1000000)).bind fun offset =>
      if 0 ≤ t.wall - offset ∧ t.wall - offset < datetimeEnd then some (t.wall - offset) else none

/-- The value can be converted to UTC. -/
def DateTime.FitsUtc (localZone : LocalZone) (t : DateTime) : Prop :=
  (t.toUtc localZone).isSome = true

instance (localZone : LocalZone) (t : DateTime) : Decidable (t.FitsUtc localZone) :=
  inferInstanceAs (Decidable (_ = true))

/-- The microseconds in UTC of a stored value, which could be converted. -/
def DateTime.utcMicros (localZone : LocalZone) (t : DateTime) : Int :=
  (t.toUtc localZone).getD t.wall

/-- An aware value is taken at its own offset. -/
theorem DateTime.toUtc_of_aware (localZone : LocalZone) {t : DateTime} {offset : Int}
    (h : t.offset = some offset) : t.toUtc localZone =
      if 0 ≤ t.wall - offset ∧ t.wall - offset < datetimeEnd then some (t.wall - offset)
      else none := by
  rw [toUtc, h]
  rfl

/-- A zone that never changes is solved by subtracting its offset, if the day before or after is
in the range too. -/
theorem LocalZone.toSeconds_const (c t : Int) (fold : Bool) :
    LocalZone.toSeconds (fun _ => c) fold t =
      ((LocalZone.clock (fun _ => c) t).bind fun _ =>
        (LocalZone.clock (fun _ => c) (t - c)).bind fun _ =>
          (LocalZone.clock (fun _ => c) (if fold then t - c + 86400 else t - c - 86400)).map
            fun _ => t - c) := by
  have ha : ∀ u v, LocalZone.clock (fun _ => c) u = some v → v - u = c := by
    intro u v h
    rw [LocalZone.clock] at h
    split at h
    · obtain rfl := Option.some.inj h
      omega
    · cases h
  unfold LocalZone.toSeconds
  cases ht : LocalZone.clock (fun _ => c) t with
  | none => rfl
  | some lt =>
    have hlt := ha t lt ht
    simp only [Option.bind_some, hlt]
    cases h1 : LocalZone.clock (fun _ => c) (t - c) with
    | none => rfl
    | some t1 =>
      have ht1 := ha _ t1 h1
      have heq : t1 = t := by omega
      simp only [Option.bind_some, if_pos heq]
      cases h2 : LocalZone.clock (fun _ => c) (if fold then t - c + 86400 else t - c - 86400) with
      | none => rfl
      | some lt2 =>
        have hlt2 := ha _ lt2 h2
        simp [hlt2]

/-- A naive value finds that offset unless it is of the first or the last day. -/
theorem LocalZone.offsetAt_const {c : Int} (hc : |c| < 86400) (t : Int) :
    LocalZone.offsetAt (fun _ => c) t =
      if 86400 ≤ t ∧ (t + 86400) * 1000000 < datetimeEnd then some c else none := by
  obtain ⟨hlo, hhi⟩ := abs_lt.mp hc
  simp only [LocalZone.offsetAt, LocalZone.toSeconds_const, LocalZone.clock,
    Bool.false_eq_true, if_false, if_true]
  split_ifs <;> first | rfl | omega

/-- In such a zone a naive value can be converted unless it is of the first or the last day. -/
theorem DateTime.fitsUtc_naive_iff {c : Int} (hc : |c| < 86400) {t : DateTime}
    (h : t.offset = none) :
    t.FitsUtc (fun _ => c) ↔ dayMicros ≤ t.wall ∧ t.wall + dayMicros < datetimeEnd := by
  obtain ⟨hlo, hhi⟩ := abs_lt.mp hc
  have hday : dayMicros = 86400000000 := rfl
  have hend : datetimeEnd = 3652059 * dayMicros := rfl
  rw [FitsUtc, toUtc, h]
  simp only [LocalZone.offsetAt_const hc]
  split
  · simp only [Option.map_some, Option.bind_some]
    split <;> simp <;> omega
  · simp only [Option.map_none, Option.bind_none, Option.isSome_none, Bool.false_eq_true,
      false_iff]
    omega

/-- Noon of the first day cannot. -/
example : ¬DateTime.FitsUtc (fun _ => 0) ⟨43200000000, none, by decide⟩ := by
  rw [DateTime.fitsUtc_naive_iff (by decide) rfl]
  decide

/-- An aware value in UTC. -/
def CivilTime.utc (t : CivilTime) : DateTime := ⟨t.micros, some 0, t.micros_lt⟩

@[simp] theorem CivilTime.toUtc_utc (localZone : LocalZone) (t : CivilTime) :
    t.utc.toUtc localZone = some (t.micros : Int) := by
  have hwall : (t.utc.wall : Int) - 0 = t.micros := sub_zero _
  have hlt : (t.micros : Int) < datetimeEnd := Int.ofNat_lt.mpr t.micros_lt
  rw [DateTime.toUtc_of_aware localZone rfl, hwall]
  exact if_pos ⟨Int.natCast_nonneg _, hlt⟩

end LiveData

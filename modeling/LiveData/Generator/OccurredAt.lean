import LiveData.Core.Outcome
import LiveData.Core.Sampling
import LiveData.Generator.EventIds

/-!
# The choice of event times

`EventGenerator._choose_occurred_at` with the numbers of its random source as arguments,
from the hours that the traffic phase weights to the checked `datetime`.
-/

namespace LiveData.Generator

/-- `_HOUR_WEIGHTS_BY_PHASE`. -/
def hourWeightsByPhase : TrafficPhase → List Nat
  | .slow => [9, 9, 8, 7, 7, 6, 5, 4, 3, 2, 2, 2, 2, 2, 2, 2, 3, 4, 5, 6, 6, 7, 8, 9]
  | .normal => [2, 1, 1, 1, 1, 2, 4, 6, 8, 9, 10, 10, 9, 9, 9, 9, 10, 10, 9, 8, 7, 6, 4, 3]
  | .burst => [1, 1, 1, 1, 1, 1, 2, 4, 7, 9, 10, 12, 12, 10, 9, 10, 12, 15, 18, 20, 18, 14, 8, 4]

/-- `_DAY_HOURS`. -/
def dayHours : List Nat := List.range 24

/-- `weights[hour]`. -/
def weightOfHour (weights : List Nat) (hour : Nat) : Except BuiltinError Nat :=
  match weights[hour]? with
  | some weight => .ok weight
  | none => .error .indexError

/-! ## Moments -/

/-- A moment by its milliseconds of the day. -/
theorem CivilTime.micros_eq (t : CivilTime) :
    t.micros = t.days * dayMicros +
      ((t.hour * 3600000 + millisecondOfHour t) * 1000 + t.microsecond % 1000) := by
  unfold LiveData.CivilTime.micros millisecondOfHour
  omega

theorem CivilTime.millisecondOfHour_lt (t : CivilTime) : millisecondOfHour t < 3600000 := by
  have hm := t.minute_lt
  have hs := t.second_lt
  have hu := t.microsecond_lt
  unfold millisecondOfHour
  omega

theorem CivilTime.sameDate_iff {s t : CivilTime} : sameDate s t = true ↔ s.days = t.days := by
  simp [sameDate, LiveData.CivilTime.days_inj, and_assoc]

/-- The drawn moment has whole milliseconds. -/
theorem microsecond_chooseOccurredAt (date : CivilTime) (hour : Fin 24) (ms : Fin 3600000) :
    (chooseOccurredAt date hour ms).microsecond % 1000 = 0 :=
  Nat.mul_mod_left _ _

/-- The drawn moment lies at the drawn millisecond of the drawn hour. -/
theorem micros_chooseOccurredAt (date : CivilTime) (hour : Fin 24) (ms : Fin 3600000) :
    (chooseOccurredAt date hour ms).micros =
      date.days * dayMicros + (hour * 3600000 + ms) * 1000 := by
  have hms : CivilTime.millisecondOfHour (chooseOccurredAt date hour ms) = ms := by
    simp only [CivilTime.millisecondOfHour, chooseOccurredAt]
    omega
  have hdays : (chooseOccurredAt date hour ms).days = date.days := rfl
  have hhour : (chooseOccurredAt date hour ms).hour = hour := rfl
  rw [CivilTime.micros_eq, hms, hdays, hhour, microsecond_chooseOccurredAt, Nat.add_zero]

namespace EventGenerator

/-! ## The choice -/

/-- `_hour_distribution_for_phase`. -/
def hourDistributionForPhase (g : EventGenerator) (phase : TrafficPhase) :
    Except BuiltinError (List Nat × List Nat) := do
  let weights := hourWeightsByPhase phase
  let allowedHours := dayHours.filter g.isAllowedHour
  let allowedWeights ← allowedHours.mapM (weightOfHour weights)
  return (allowedHours, allowedWeights)

/-- `_choose_occurred_at`; `point` draws the hour and `draw` the millisecond. -/
def chooseOccurredAt (g : EventGenerator) (phase : TrafficPhase) (point draw : Nat) :
    Except BuiltinError CivilTime := do
  let (hours, weights) ← g.hourDistributionForPhase phase
  let hour ← choices hours weights point
  let (lowerBound, upperBound) := g.millisecondBounds hour
  let millisecondOfHour ← randrange lowerBound (upperBound + 1) draw
  let minute := millisecondOfHour / 60000
  let remainder := millisecondOfHour % 60000
  let second := remainder / 1000
  let millisecond := remainder % 1000
  let eventDate := g.config.startTime
  match CivilTime.ofFields eventDate.year eventDate.month eventDate.day hour minute second
    (millisecond * 1000) with
  | some occurredAt => return occurredAt
  | none => .error .valueError

/-! ## The window -/

/-- The times of day that the generator can draw. -/
structure AllowsTime (g : EventGenerator) (hour : Fin 24) (millisecondOfHour : Fin 3600000) :
    Prop where
  allowed : g.isAllowedHour hour = true
  lower : (g.millisecondBounds hour).1 ≤ millisecondOfHour
  upper : millisecondOfHour ≤ (g.millisecondBounds hour).2

variable {g : EventGenerator} {phase : TrafficPhase} {hour : Fin 24} {ms : Fin 3600000}

/-- The draws of an event take an allowed time. -/
theorem Allows.allowsTime {d : Draws} (h : g.Allows d) :
    g.AllowsTime d.hour d.millisecondOfHour :=
  ⟨h.hour, h.lower, h.upper⟩

theorem isAllowedHour_iff {hour : Nat} : g.isAllowedHour hour = true ↔
    g.config.startTime.hour ≤ hour ∧
      (CivilTime.sameDate g.config.startTime g.config.referenceTime = true →
        hour ≤ g.config.referenceTime.hour) := by
  cases hsame : CivilTime.sameDate g.config.startTime g.config.referenceTime <;>
    simp [isAllowedHour, hsame]

/-- A start on the date of the reference does not lie behind it on the clock. -/
theorem start_le_of_sameDate
    (h : CivilTime.sameDate g.config.startTime g.config.referenceTime = true) :
    g.config.startTime.hour < g.config.referenceTime.hour ∨
      g.config.startTime.hour = g.config.referenceTime.hour ∧
        CivilTime.millisecondOfHour g.config.startTime ≤
          CivilTime.millisecondOfHour g.config.referenceTime := by
  have hle := g.start_le
  have hs := CivilTime.millisecondOfHour_lt g.config.startTime
  have hr := CivilTime.millisecondOfHour_lt g.config.referenceTime
  rw [CivilTime.micros_eq, CivilTime.micros_eq, CivilTime.sameDate_iff.mp h] at hle
  omega

/-- A start on another date than the reference lies a day ahead of it. -/
theorem days_lt_of_not_sameDate
    (h : ¬CivilTime.sameDate g.config.startTime g.config.referenceTime = true) :
    g.config.startTime.days < g.config.referenceTime.days := by
  have hne : g.config.startTime.days ≠ g.config.referenceTime.days :=
    fun he => h (CivilTime.sameDate_iff.mpr he)
  have hle := g.start_le
  have hh := g.config.referenceTime.hour_lt
  have hr := CivilTime.millisecondOfHour_lt g.config.referenceTime
  rw [CivilTime.micros_eq, CivilTime.micros_eq, dayMicros] at hle
  omega

/-- The hour of the start is allowed. -/
theorem isAllowedHour_start (g : EventGenerator) :
    g.isAllowedHour g.config.startTime.hour = true := by
  refine isAllowedHour_iff.mpr ⟨le_rfl, fun h => ?_⟩
  have hstart := start_le_of_sameDate h
  omega

/-- The bounds of an hour leave a millisecond between them. -/
theorem millisecondBounds_le (g : EventGenerator) (hour : Nat) :
    (g.millisecondBounds hour).1 ≤ (g.millisecondBounds hour).2 := by
  have hs := CivilTime.millisecondOfHour_lt g.config.startTime
  simp only [millisecondBounds]
  split_ifs with hstart hreference hreference
  · have hboth := start_le_of_sameDate hreference.1
    omega
  all_goals omega

/-- The bounds of an hour are milliseconds of it. -/
theorem millisecondBounds_lt (g : EventGenerator) (hour : Nat) :
    (g.millisecondBounds hour).2 < 3600000 := by
  have hr := CivilTime.millisecondOfHour_lt g.config.referenceTime
  simp only [millisecondBounds]
  split_ifs <;> omega

/-- The first millisecond that the start leaves can be drawn. -/
theorem allowsTime_start (g : EventGenerator) :
    g.AllowsTime ⟨g.config.startTime.hour, g.config.startTime.hour_lt⟩
      ⟨CivilTime.millisecondOfHour g.config.startTime, CivilTime.millisecondOfHour_lt _⟩ where
  allowed := isAllowedHour_start g
  lower := (if_pos rfl).le
  upper := by
    have hbounds := millisecondBounds_le g g.config.startTime.hour
    rwa [millisecondBounds, if_pos rfl] at hbounds

/-- A drawn moment lies before the start by less than a millisecond. -/
theorem AllowsTime.start_le_add (h : g.AllowsTime hour ms) :
    g.config.startTime.micros ≤
      (Generator.chooseOccurredAt g.config.startTime hour ms).micros +
        g.config.startTime.microsecond % 1000 := by
  have hhour := (isAllowedHour_iff.mp h.allowed).1
  have hlower := h.lower
  have hs := CivilTime.millisecondOfHour_lt g.config.startTime
  rw [micros_chooseOccurredAt, CivilTime.micros_eq]
  simp only [millisecondBounds] at hlower
  split_ifs at hlower <;> omega

/-- A drawn moment does not lie behind the reference. -/
theorem AllowsTime.le_reference (h : g.AllowsTime hour ms) :
    (Generator.chooseOccurredAt g.config.startTime hour ms).micros ≤
      g.config.referenceTime.micros := by
  rw [micros_chooseOccurredAt, CivilTime.micros_eq]
  by_cases hsame : CivilTime.sameDate g.config.startTime g.config.referenceTime = true
  · have hhour := (isAllowedHour_iff.mp h.allowed).2 hsame
    have hupper := h.upper
    have hms := ms.isLt
    rw [CivilTime.sameDate_iff.mp hsame]
    simp only [millisecondBounds, hsame, true_and] at hupper
    split_ifs at hupper <;> omega
  · have hdays := days_lt_of_not_sameDate hsame
    have hh := hour.isLt
    have hms := ms.isLt
    rw [dayMicros]
    omega

/-! ## Totality -/

/-- Every hour of the day has a positive weight in every phase. -/
theorem exists_weightOfHour (phase : TrafficPhase) :
    ∀ hour ∈ dayHours, ∃ weight, weightOfHour (hourWeightsByPhase phase) hour = .ok weight ∧
      0 < weight := by
  have hall : ∀ hour ∈ dayHours, 0 < ((hourWeightsByPhase phase)[hour]?).getD 0 := by
    cases phase <;> decide
  intro hour hhour
  have hpos := hall hour hhour
  unfold weightOfHour
  cases hw : (hourWeightsByPhase phase)[hour]? with
  | none => simp [hw] at hpos
  | some weight => exact ⟨weight, rfl, by simpa [hw] using hpos⟩

theorem mem_allowedHours {hour : Nat} :
    hour ∈ dayHours.filter g.isAllowedHour ↔ hour < 24 ∧ g.isAllowedHour hour = true := by
  simp [dayHours]

/-- The hour of the start is among the allowed ones. -/
theorem start_mem_allowedHours (g : EventGenerator) :
    g.config.startTime.hour ∈ dayHours.filter g.isAllowedHour :=
  mem_allowedHours.mpr ⟨g.config.startTime.hour_lt, isAllowedHour_start g⟩

/-- The distribution of a phase has the allowed hours and a positive weight for each. -/
theorem exists_hourDistribution (g : EventGenerator) (phase : TrafficPhase) :
    ∃ weights, g.hourDistributionForPhase phase =
        .ok (dayHours.filter g.isAllowedHour, weights) ∧
      weights.length = (dayHours.filter g.isAllowedHour).length ∧ (∀ w ∈ weights, 0 < w) ∧
        0 < weights.sum := by
  have hturns : ∀ hour ∈ dayHours.filter g.isAllowedHour,
      ∃ weight, weightOfHour (hourWeightsByPhase phase) hour = .ok weight := by
    intro hour hhour
    obtain ⟨weight, hweight, -⟩ := exists_weightOfHour phase hour (List.mem_of_mem_filter hhour)
    exact ⟨weight, hweight⟩
  obtain ⟨weights, hweights⟩ := exists_mapM_eq_ok.mpr hturns
  have hpairs := mapM_eq_ok.mp hweights
  have hlength := hpairs.length_eq.symm
  have hpos : ∀ w ∈ weights, 0 < w := by
    intro w hw
    obtain ⟨hour, hhour, hweight⟩ := forall₂_exists_of_mem_right hpairs hw
    obtain ⟨weight, hweight', hpos⟩ :=
      exists_weightOfHour phase hour (List.mem_of_mem_filter hhour)
    rw [hweight] at hweight'
    exact Except.ok.inj hweight' ▸ hpos
  have hne : weights ≠ [] := by
    rw [← List.length_pos_iff_ne_nil, hlength]
    exact List.length_pos_of_mem (start_mem_allowedHours g)
  exact ⟨weights, bind_eq_ok.mpr ⟨weights, hweights, rfl⟩, hlength, hpos,
    List.sum_pos weights hpos hne⟩

/-- A choice passes through an hour and a millisecond that were drawn. -/
theorem chooseOccurredAt_eq {weights : List Nat} {point draw : Nat}
    (hdistribution : g.hourDistributionForPhase phase =
      .ok (dayHours.filter g.isAllowedHour, weights))
    (hhour : choices (dayHours.filter g.isAllowedHour) weights point = .ok (hour : Nat))
    (hms : randrange (g.millisecondBounds hour).1 ((g.millisecondBounds hour).2 + 1) draw =
      .ok (ms : Nat)) :
    g.chooseOccurredAt phase point draw =
      .ok (Generator.chooseOccurredAt g.config.startTime hour ms) := by
  have hfields := CivilTime.ofFields_fields
    (Generator.chooseOccurredAt g.config.startTime hour ms)
  simp only [Generator.chooseOccurredAt] at hfields
  simp only [chooseOccurredAt, hdistribution, hhour, hms, ok_bind, hfields]
  rfl

/-- Whatever the random source gives, an allowed time is chosen. -/
theorem exists_chooseOccurredAt_eq (g : EventGenerator) (phase : TrafficPhase)
    (point draw : Nat) : ∃ hour ms, g.AllowsTime hour ms ∧
      g.chooseOccurredAt phase point draw =
        .ok (Generator.chooseOccurredAt g.config.startTime hour ms) := by
  obtain ⟨weights, hdistribution, hlength, -, hsum⟩ := exists_hourDistribution g phase
  obtain ⟨hour, hmem, hhour⟩ := exists_choices_mem hlength hsum point
  obtain ⟨hlt, hallowed⟩ := mem_allowedHours.mp hmem
  obtain ⟨ms, hms⟩ := exists_randrange (Nat.lt_succ_of_le (millisecondBounds_le g hour)) draw
  obtain ⟨hlower, hupper⟩ := exists_randrange_iff.mp ⟨draw, hms⟩
  have hupper' := millisecondBounds_lt g hour
  exact ⟨⟨hour, hlt⟩, ⟨ms, by omega⟩, ⟨hallowed, hlower, Nat.le_of_lt_succ hupper⟩,
    chooseOccurredAt_eq hdistribution hhour hms⟩

/-- Every allowed time is chosen for some numbers of the random source. -/
theorem AllowsTime.exists_draws (h : g.AllowsTime hour ms) (phase : TrafficPhase) :
    ∃ point draw, g.chooseOccurredAt phase point draw =
      .ok (Generator.chooseOccurredAt g.config.startTime hour ms) := by
  obtain ⟨weights, hdistribution, hlength, hpos, -⟩ := exists_hourDistribution g phase
  have hmem : (hour : Nat) ∈ dayHours.filter g.isAllowedHour :=
    mem_allowedHours.mpr ⟨hour.isLt, h.allowed⟩
  obtain ⟨i, hi, hget⟩ := List.getElem_of_mem hmem
  have hw : weights[i]? = some (weights[i]) := List.getElem?_eq_getElem (hlength ▸ hi)
  obtain ⟨point, hhour⟩ := exists_choices_eq hlength
    (List.getElem?_eq_some_iff.mpr ⟨hi, hget⟩) hw (hpos _ (List.getElem_mem _))
  obtain ⟨draw, hms⟩ := exists_randrange_iff.mpr ⟨h.lower, Nat.lt_succ_of_le h.upper⟩
  exact ⟨point, draw, chooseOccurredAt_eq hdistribution hhour hms⟩

/-- The choice of an event time is total and its times lie in the window. -/
structure SelectsInWindow (g : EventGenerator) (phase : TrafficPhase) : Prop where
  distribution : ∃ hours weights, g.hourDistributionForPhase phase = .ok (hours, weights) ∧
    hours ≠ [] ∧ 0 < weights.sum ∧ weights.length = hours.length
  bounds : ∀ hour, (g.millisecondBounds hour).1 ≤ (g.millisecondBounds hour).2
  occurredAt : ∀ point draw, ∃ t, g.chooseOccurredAt phase point draw = .ok t ∧
    t.micros ≤ g.config.referenceTime.micros ∧
      CivilTime.sameDate t g.config.startTime = true ∧ g.config.startTime.hour ≤ t.hour ∧
        t.microsecond % 1000 = 0

/-- An accepted configuration selects event times in its window in every phase. -/
theorem selectsInWindow (g : EventGenerator) (phase : TrafficPhase) : g.SelectsInWindow phase where
  distribution := by
    obtain ⟨weights, hdistribution, hlength, -, hsum⟩ := exists_hourDistribution g phase
    exact ⟨_, weights, hdistribution, List.ne_nil_of_mem (start_mem_allowedHours g), hsum, hlength⟩
  bounds := millisecondBounds_le g
  occurredAt := by
    intro point draw
    obtain ⟨hour, ms, hallows, hchosen⟩ := exists_chooseOccurredAt_eq g phase point draw
    exact ⟨_, hchosen, hallows.le_reference, CivilTime.sameDate_iff.mpr rfl,
      (isAllowedHour_iff.mp hallows.allowed).1, microsecond_chooseOccurredAt _ _ _⟩

/-! ## The start -/

variable {F : Type}

theorem occurredAt_generateOne (ofCents : Nat → F) (g : EventGenerator) (d : Draws) :
    (g.generateOne ofCents d).1.occurredAt =
      Generator.chooseOccurredAt g.config.startTime d.hour d.millisecondOfHour := by
  unfold generateOne
  cases d.eventType <;> rfl

/-- Every generator of a run has the configuration of the run. -/
theorem config_generator (getrandbits : Fin (2 ^ 64) → Fin (2 ^ 32)) (ofCents : Nat → F)
    (run : ProducerRun) (seed : Fin (2 ^ 64)) (n : Nat) :
    (run.generator getrandbits ofCents seed n).config = run.config := by
  induction n with
  | zero => rfl
  | succ n ih => exact ih

/-- No time predates the start, neither one that is chosen nor one of an event in a run with
this configuration. -/
structure NeverPredatesStart (g : EventGenerator) : Prop where
  chosen : ∀ phase point draw t, g.chooseOccurredAt phase point draw = .ok t →
    g.config.startTime.micros ≤ t.micros
  emitted : ∀ (F : Type) (ofCents : Nat → F) (getrandbits : Fin (2 ^ 64) → Fin (2 ^ 32))
    (run : ProducerRun) (seed : Fin (2 ^ 64)), run.config = g.config →
      (∀ n, (run.generator getrandbits ofCents seed n).Allows (run.draws n)) →
        ∀ n, g.config.startTime.micros ≤
          (run.event getrandbits ofCents seed n).occurredAt.micros

/-- The start itself can be chosen, and its milliseconds do not predate it when they are whole. -/
theorem whole_of_neverPredatesStart {g : EventGenerator} (h : g.NeverPredatesStart) :
    g.config.startTime.microsecond % 1000 = 0 := by
  obtain ⟨point, draw, hchosen⟩ := (allowsTime_start g).exists_draws .normal
  have hstart := h.chosen _ _ _ _ hchosen
  rw [micros_chooseOccurredAt, CivilTime.micros_eq] at hstart
  simp only at hstart
  omega

/-- No time predates the start exactly when the start has whole milliseconds. -/
theorem neverPredatesStart_iff (g : EventGenerator) :
    g.NeverPredatesStart ↔ g.config.startTime.microsecond % 1000 = 0 := by
  refine ⟨whole_of_neverPredatesStart, fun hwhole => ?_⟩
  refine ⟨fun phase point draw t ht => ?_,
    fun F ofCents getrandbits run seed hconfig hallows n => ?_⟩
  · obtain ⟨hour, ms, hallows, hchosen⟩ := exists_chooseOccurredAt_eq g phase point draw
    obtain rfl := Except.ok.inj (ht.symm.trans hchosen)
    have hstart := hallows.start_le_add
    omega
  · have hstart := (hallows n).allowsTime.start_le_add
    rw [config_generator, hconfig, hwhole, Nat.add_zero] at hstart
    rwa [ProducerRun.event, occurredAt_generateOne, config_generator, hconfig]

/-- A generator that starts within a millisecond. -/
def submillisecondStart : EventGenerator where
  config :=
    { producerId := str "producer_local"
      startTime := (CivilTime.ofFields 2026 4 24 8 15 30 456789).get (by decide)
      referenceTime := (CivilTime.ofFields 2026 4 24 10 30 15 123000).get (by decide) }
  catalog :=
    { users := [⟨str "user_021", str "cat_laptop"⟩]
      products := [⟨str "prod_laptop_navy", ⟨str "cat_laptop", str "laptop", 79900, 249900⟩, 99900,
        by decide, by decide, by decide⟩]
      pageTargets := [{ path := str "/cart" }] }
  eventIdPrefix := 12
  eventSequence := 0
  start_le := by decide
  prefix_lt := by decide

/-- A start at 08:15:30.456789 can be followed by an event at 08:15:30.456. -/
theorem submillisecondStart_predated : ¬∀ g : EventGenerator, g.NeverPredatesStart := by
  intro h
  have hwhole := whole_of_neverPredatesStart (h submillisecondStart)
  exact absurd hwhole (by decide)

end EventGenerator

end LiveData.Generator

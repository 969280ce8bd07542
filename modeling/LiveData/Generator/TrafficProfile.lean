import LiveData.Core.Outcome
import LiveData.Core.Sampling
import LiveData.Generator.Models
import Mathlib.Algebra.BigOperators.Group.List.Basic
import Mathlib.Algebra.Field.Rat
import Mathlib.Tactic.FieldSimp

/-!
# Traffic phases

`TrafficProfile` with the numbers of its random source as arguments. A window of one phase
is chosen when the events of the last one are used up, so that the phases of a run are
those of complete windows and a beginning of one more.
-/

namespace LiveData.Generator

/-- `PhaseRates` after its checks. -/
structure PhaseRates where
  slow : Int := 1
  normal : Int := 5
  burst : Int := 20
  slow_ge : 1 ≤ slow := by decide
  normal_ge : 1 ≤ normal := by decide
  burst_ge : 1 ≤ burst := by decide

/-- The message of a rate that is too low. -/
def rateMessage (name : String) : Str :=
  str name ++ str " rate must be greater than or equal to 1"

/-- `PhaseRates` with its checks. -/
def PhaseRates.init (slow normal burst : Int) : Except Str PhaseRates :=
  if hs : slow < 1 then .error (rateMessage "slow")
  else if hn : normal < 1 then .error (rateMessage "normal")
  else if hb : burst < 1 then .error (rateMessage "burst")
  else .ok ⟨slow, normal, burst, Int.not_lt.mp hs, Int.not_lt.mp hn, Int.not_lt.mp hb⟩

/-- `PhaseRates.for_phase`. -/
def PhaseRates.forPhase (rates : PhaseRates) : TrafficPhase → Int
  | .slow => rates.slow
  | .normal => rates.normal
  | .burst => rates.burst

/-- `TrafficProfileConfig` after its checks. -/
structure TrafficProfileConfig where
  rates : PhaseRates
  minPhaseSeconds : Int := 10
  maxPhaseSeconds : Int := 30
  min_ge : 1 ≤ minPhaseSeconds := by decide
  max_ge : 1 ≤ maxPhaseSeconds := by decide
  min_le_max : minPhaseSeconds ≤ maxPhaseSeconds := by decide

/-- `TrafficProfileConfig` with its checks. -/
def TrafficProfileConfig.init (rates : PhaseRates) (minPhaseSeconds maxPhaseSeconds : Int) :
    Except Str TrafficProfileConfig :=
  if hmin : minPhaseSeconds < 1 then
    .error (str "min phase seconds must be greater than or equal to 1")
  else if hmax : maxPhaseSeconds < 1 then
    .error (str "max phase seconds must be greater than or equal to 1")
  else if hle : maxPhaseSeconds < minPhaseSeconds then
    .error (str "min phase seconds must be less than or equal to max")
  else .ok ⟨rates, minPhaseSeconds, maxPhaseSeconds, Int.not_lt.mp hmin, Int.not_lt.mp hmax,
    Int.not_lt.mp hle⟩

/-- `PhaseWindow`. -/
structure PhaseWindow where
  phase : TrafficPhase
  durationSeconds : Int
  eventCapacity : Int
  deriving DecidableEq, Repr

/-- What a profile raises. -/
inductive TrafficProfileError where
  | builtin (error : BuiltinError)
  | runtimeError (message : Str)
  deriving DecidableEq, Repr

/-- The fields of `TrafficProfile`. -/
structure TrafficProfile where
  config : TrafficProfileConfig
  currentWindow : Option PhaseWindow := none
  remainingEventsInWindow : Int := 0

/-- `_PHASES`. -/
def trafficPhases : List TrafficPhase := [.normal, .slow, .burst]

/-- `_PHASE_WEIGHTS`. -/
def phaseWeights : List Nat := [60, 25, 15]

namespace TrafficProfile

/-- `_choose_window`; `point` draws the phase and `draw` the duration. -/
def chooseWindow (p : TrafficProfile) (point draw : Nat) : Except BuiltinError PhaseWindow := do
  let phase ← choices trafficPhases phaseWeights point
  let durationSeconds ← randint p.config.minPhaseSeconds p.config.maxPhaseSeconds draw
  let eventCapacity := durationSeconds * p.config.rates.forPhase phase
  return ⟨phase, durationSeconds, eventCapacity⟩

/-- The window and the counter that `next_phase` goes on with. -/
def rotate (p : TrafficProfile) (point draw : Nat) : Except TrafficProfileError TrafficProfile :=
  if p.remainingEventsInWindow ≤ 0 then do
    let window ← (p.chooseWindow point draw).mapError .builtin
    return { p with currentWindow := some window, remainingEventsInWindow := window.eventCapacity }
  else return p

/-- `next_phase`, with the profile after it. -/
def nextPhase (p : TrafficProfile) (point draw : Nat) :
    Except TrafficProfileError (TrafficPhase × TrafficProfile) := do
  let rotated ← p.rotate point draw
  let next := { rotated with remainingEventsInWindow := rotated.remainingEventsInWindow - 1 }
  match next.currentWindow with
  | none => .error (.runtimeError (str "traffic phase window was not initialized"))
  | some window => return (window.phase, next)

/-- The phases of as many calls as there are draws, with the profile after them. -/
def nextPhases (p : TrafficProfile) :
    List (Nat × Nat) → Except TrafficProfileError (List TrafficPhase × TrafficProfile)
  | [] => .ok ([], p)
  | (point, draw) :: draws => do
    let (phase, next) ← p.nextPhase point draw
    let (rest, last) ← next.nextPhases draws
    return (phase :: rest, last)

end TrafficProfile

/-- `seconds_between_events`, as the exact quotient. -/
def TrafficProfileConfig.secondsBetweenEvents (config : TrafficProfileConfig)
    (phase : TrafficPhase) : ℚ := 1 / config.rates.forPhase phase

/-! ## Accepted configurations -/

/-- Rates are accepted exactly when each is positive. -/
theorem PhaseRates.exists_init_iff {slow normal burst : Int} :
    (∃ rates, init slow normal burst = .ok rates) ↔ 1 ≤ slow ∧ 1 ≤ normal ∧ 1 ≤ burst := by
  unfold init
  split_ifs <;> simp <;> omega

/-- Durations are accepted exactly when they are positive and in order. -/
theorem TrafficProfileConfig.exists_init_iff {rates : PhaseRates} {min max : Int} :
    (∃ config, init rates min max = .ok config) ↔ 1 ≤ min ∧ 1 ≤ max ∧ min ≤ max := by
  unfold init
  split_ifs <;> simp <;> omega

theorem PhaseRates.one_le_forPhase (rates : PhaseRates) (phase : TrafficPhase) :
    1 ≤ rates.forPhase phase := by
  cases phase with
  | slow => exact rates.slow_ge
  | normal => exact rates.normal_ge
  | burst => exact rates.burst_ge

/-! ## Windows -/

/-- The phases of the events of a complete window. -/
def PhaseWindow.phases (window : PhaseWindow) : List TrafficPhase :=
  List.replicate window.eventCapacity.toNat window.phase

/-- A window as the configuration allows it. -/
structure PhaseWindow.Honours (window : PhaseWindow) (config : TrafficProfileConfig) : Prop where
  min_le : config.minPhaseSeconds ≤ window.durationSeconds
  le_max : window.durationSeconds ≤ config.maxPhaseSeconds
  capacity : window.eventCapacity = window.durationSeconds * config.rates.forPhase window.phase

namespace PhaseWindow.Honours

variable {config : TrafficProfileConfig} {window : PhaseWindow}

theorem one_le_capacity (h : window.Honours config) : 1 ≤ window.eventCapacity := by
  have hduration : 1 ≤ window.durationSeconds := config.min_ge.trans h.min_le
  have hrate := config.rates.one_le_forPhase window.phase
  have hproduct := Int.mul_le_mul hduration hrate (by omega) (by omega)
  rw [h.capacity]
  omega

/-- The delays over a complete window add up to its duration. -/
theorem sum_seconds (h : window.Honours config) :
    (window.phases.map config.secondsBetweenEvents).sum = window.durationSeconds := by
  have hcapacity := h.one_le_capacity
  have hrate := config.rates.one_le_forPhase window.phase
  have hne : (config.rates.forPhase window.phase : ℚ) ≠ 0 := by
    exact_mod_cast (show config.rates.forPhase window.phase ≠ 0 by omega)
  have hcast : ((window.eventCapacity.toNat : ℤ) : ℚ) =
      window.durationSeconds * config.rates.forPhase window.phase := by
    rw [Int.toNat_of_nonneg (by omega), h.capacity, Int.cast_mul]
  rw [PhaseWindow.phases, List.map_replicate, List.sum_replicate, nsmul_eq_mul,
    TrafficProfileConfig.secondsBetweenEvents, ← Int.cast_natCast, hcast]
  field_simp

end PhaseWindow.Honours

/-- The phases are those of complete windows and of the beginning of one more. -/
def InWindows (config : TrafficProfileConfig) (phases : List TrafficPhase) : Prop :=
  ∃ (complete : List PhaseWindow) (window : PhaseWindow), (∀ w ∈ complete, w.Honours config) ∧
    window.Honours config ∧ ∃ shown, shown <+: window.phases ∧
      phases = complete.flatMap PhaseWindow.phases ++ shown

/-! ## Runs -/

namespace TrafficProfile

variable {p : TrafficProfile} {config : TrafficProfileConfig} {emitted : List TrafficPhase}

/-- Events of the current window are left, and the phases so far are those of complete windows
and of the events of the current one that are gone. -/
structure Running (p : TrafficProfile) (config : TrafficProfileConfig)
    (emitted : List TrafficPhase) (complete : List PhaseWindow) (window : PhaseWindow) :
    Prop where
  config_eq : p.config = config
  honour : ∀ w ∈ complete, w.Honours config
  current : p.currentWindow = some window
  honours : window.Honours config
  pos : 0 < p.remainingEventsInWindow
  le : p.remainingEventsInWindow ≤ window.eventCapacity
  emitted : emitted = complete.flatMap PhaseWindow.phases ++
    List.replicate (window.eventCapacity - p.remainingEventsInWindow).toNat window.phase

/-- The phases so far are those of complete windows. -/
structure AtBoundary (p : TrafficProfile) (config : TrafficProfileConfig)
    (emitted : List TrafficPhase) (complete : List PhaseWindow) : Prop where
  config_eq : p.config = config
  honour : ∀ w ∈ complete, w.Honours config
  remaining : p.remainingEventsInWindow = 0
  emitted : emitted = complete.flatMap PhaseWindow.phases

/-- What holds between two calls. -/
def Between (p : TrafficProfile) (config : TrafficProfileConfig)
    (emitted : List TrafficPhase) : Prop :=
  (∃ complete, p.AtBoundary config emitted complete) ∨
    ∃ complete window, p.Running config emitted complete window

/-- The choice of a window never fails, and it is one the configuration allows. -/
theorem exists_chooseWindow (p : TrafficProfile) (point draw : Nat) :
    ∃ window, p.chooseWindow point draw = .ok window ∧ window.Honours p.config := by
  have hlength : phaseWeights.length = trafficPhases.length := rfl
  have hchoice := exists_choices_mem hlength (by decide) point
  obtain ⟨phase, -, hphase⟩ := hchoice
  obtain ⟨duration, hduration, hmin, hmax⟩ := exists_randint p.config.min_le_max draw
  refine ⟨⟨phase, duration, duration * p.config.rates.forPhase phase⟩, ?_, hmin, hmax, rfl⟩
  simp only [chooseWindow, hphase, hduration, ok_bind]
  rfl

/-- A call goes on with a window that has events left. -/
theorem exists_rotate (h : p.Between config emitted) (point draw : Nat) :
    ∃ rotated complete window, p.rotate point draw = .ok rotated ∧
      rotated.Running config emitted complete window := by
  rcases h with ⟨complete, h⟩ | ⟨complete, window, h⟩
  · obtain ⟨window, hwindow, hhonours⟩ := exists_chooseWindow p point draw
    rw [h.config_eq] at hhonours
    have hcapacity := hhonours.one_le_capacity
    refine ⟨{ p with currentWindow := some window
                     remainingEventsInWindow := window.eventCapacity }, complete, window, ?_, ?_⟩
    · rw [rotate, if_pos h.remaining.le, hwindow]
      rfl
    · refine ⟨h.config_eq, h.honour, rfl, hhonours, hcapacity, le_rfl, ?_⟩
      rw [h.emitted, sub_self, Int.toNat_zero, List.replicate_zero, List.append_nil]
  · exact ⟨p, complete, window, if_neg (not_le.mpr h.pos), h⟩

/-- An event of a window that has events left leads between two calls again. -/
theorem Running.between {complete : List PhaseWindow} {window : PhaseWindow}
    (h : p.Running config emitted complete window) :
    ({ p with remainingEventsInWindow := p.remainingEventsInWindow - 1 } : TrafficProfile).Between
      config (emitted ++ [window.phase]) := by
  have hpos := h.pos
  have hle := h.le
  have hshown : (window.eventCapacity - (p.remainingEventsInWindow - 1)).toNat =
      (window.eventCapacity - p.remainingEventsInWindow).toNat + 1 := by omega
  have hemitted : emitted ++ [window.phase] = complete.flatMap PhaseWindow.phases ++
      List.replicate (window.eventCapacity - (p.remainingEventsInWindow - 1)).toNat
        window.phase := by
    rw [hshown, List.replicate_succ', h.emitted, List.append_assoc]
  by_cases hlast : p.remainingEventsInWindow = 1
  · refine Or.inl ⟨complete ++ [window], h.config_eq, ?_, by simp [hlast], ?_⟩
    · intro w hw
      rcases List.mem_append.mp hw with hw | hw
      · exact h.honour w hw
      · rw [List.mem_singleton.mp hw]
        exact h.honours
    · rw [hemitted, hlast, sub_self, sub_zero, List.flatMap_append, List.flatMap_singleton]
      rfl
  · refine Or.inr ⟨complete, window, h.config_eq, h.honour, h.current, h.honours, ?_, ?_,
      hemitted⟩
    · change 0 < p.remainingEventsInWindow - 1
      omega
    · change p.remainingEventsInWindow - 1 ≤ window.eventCapacity
      omega

/-- A call returns a phase. -/
theorem exists_nextPhase (h : p.Between config emitted) (point draw : Nat) :
    ∃ phase next, p.nextPhase point draw = .ok (phase, next) ∧
      next.Between config (emitted ++ [phase]) := by
  obtain ⟨rotated, complete, window, hrotate, hrunning⟩ := exists_rotate h point draw
  refine ⟨window.phase, _, ?_, hrunning.between⟩
  simp only [nextPhase, hrotate, ok_bind, hrunning.current]
  rfl

/-- So does every run of calls. -/
theorem exists_nextPhases (h : p.Between config emitted) (draws : List (Nat × Nat)) :
    ∃ more last, p.nextPhases draws = .ok (more, last) ∧ more.length = draws.length ∧
      last.Between config (emitted ++ more) := by
  induction draws generalizing p emitted with
  | nil => exact ⟨[], p, rfl, rfl, by rwa [List.append_nil]⟩
  | cons d draws ih =>
    obtain ⟨phase, next, hnext, hbetween⟩ := exists_nextPhase h d.1 d.2
    obtain ⟨more, last, hlast, hlength, hend⟩ := ih hbetween
    refine ⟨phase :: more, last, ?_, by rw [List.length_cons, List.length_cons, hlength], ?_⟩
    · simp only [nextPhases, hnext, hlast, ok_bind]
      rfl
    · rwa [List.append_assoc] at hend

/-- A run of calls returns phases of complete windows and a beginning of one more. -/
structure RunsInWindows (config : TrafficProfileConfig) (draws : List (Nat × Nat)) : Prop where
  returns : ∃ emitted last, (TrafficProfile.mk config none 0).nextPhases draws =
    .ok (emitted, last) ∧ emitted.length = draws.length ∧ 0 ≤ last.remainingEventsInWindow ∧
      InWindows config emitted
  delays : ∀ window : PhaseWindow, window.Honours config →
    (window.phases.map config.secondsBetweenEvents).sum = window.durationSeconds

/-- Between two calls the phases so far are those of complete windows and a beginning of one. -/
theorem Between.windows (h : p.Between config emitted) :
    0 ≤ p.remainingEventsInWindow ∧ InWindows config emitted := by
  rcases h with ⟨complete, h⟩ | ⟨complete, window, h⟩
  · refine ⟨h.remaining.ge, complete, ⟨.slow, config.minPhaseSeconds,
      config.minPhaseSeconds * config.rates.forPhase .slow⟩, h.honour,
      ⟨le_rfl, config.min_le_max, rfl⟩, [], List.nil_prefix, ?_⟩
    rw [h.emitted, List.append_nil]
  · refine ⟨h.pos.le, complete, window, h.honour, h.honours, _, ?_, h.emitted⟩
    refine List.prefix_replicate_iff.mpr ⟨?_, by rw [List.length_replicate]⟩
    have hpos := h.pos
    rw [List.length_replicate]
    omega

/-- For every configuration and all outcomes of the random source, the phases come in windows. -/
theorem runsInWindows (config : TrafficProfileConfig) (draws : List (Nat × Nat)) :
    RunsInWindows config draws where
  returns := by
    have hstart : (TrafficProfile.mk config none 0).Between config [] :=
      Or.inl ⟨[], rfl, by simp, rfl, rfl⟩
    obtain ⟨emitted, last, hrun, hlength, hend⟩ := exists_nextPhases hstart draws
    exact ⟨emitted, last, hrun, hlength, hend.windows⟩
  delays := fun _ h => h.sum_seconds

end TrafficProfile

end LiveData.Generator

import LiveData.Core.Runs
import LiveData.Platform.Lifecycle
import Mathlib.Logic.Function.Basic

/-!
# Readiness during shutdown

The lifespan of the application and any number of readiness requests, interleaved at their
awaits. The status stays running until the last step of a shutdown, so what a request
reports until then depends on the two dependency statuses alone.
-/

namespace LiveData.Platform

/-- Where the lifespan stands between two awaits. `failed` is left by a shutdown step that
raised. -/
inductive LifespanPhase where
  | down
  | openingContainer
  | startingRuntime
  | serving
  | stoppingRuntime
  | closingContainer
  | failed
  | stopped
  deriving DecidableEq, Repr

/-- Where a readiness request stands between two awaits of `refresh_dependency_health`. -/
inductive RequestPhase where
  | idle
  | pingingDatabase
  | pingingRedis
  deriving DecidableEq, Repr

/-- The application: the lifecycle, whether there is a consumer runtime, the lifespan and the
requests, with the snapshots taken between a shutdown and the next startup. -/
structure App (n : Nat) where
  lifecycle : LifecycleState
  runtime : Bool
  lifespan : LifespanPhase
  requests : Fin n → RequestPhase
  reported : List LifecycleSnapshot

/-- What may happen next: a step of the lifespan, or of one request, with the result of the
call it waited for. -/
inductive AppAction (n : Nat) where
  | beginStartup
  | containerOpened (succeeds : Bool)
  | runtimeStarted (succeeds : Bool)
  | beginShutdown
  | runtimeStopped (succeeds : Bool)
  | containerClosed (succeeds : Bool)
  | startRequest (i : Fin n)
  | databasePinged (i : Fin n) (succeeds : Bool)
  | redisPinged (i : Fin n) (succeeds : Bool)
  deriving DecidableEq, Repr

/-- A shutdown has begun and no startup since. -/
def LifespanPhase.InShutdown : LifespanPhase → Prop
  | .stoppingRuntime | .closingContainer | .failed | .stopped => True
  | _ => False

instance (phase : LifespanPhase) : Decidable phase.InShutdown := by
  cases phase <;> unfold LifespanPhase.InShutdown <;> infer_instance

/-- A shutdown has begun and has not marked the process as stopping. -/
def LifespanPhase.Unmarked : LifespanPhase → Prop
  | .stoppingRuntime | .closingContainer | .failed => True
  | _ => False

namespace App

variable {n : Nat}

/-- A new application. -/
def init (n : Nat) (startedAt : Moment) : App n where
  lifecycle := .new startedAt
  runtime := false
  lifespan := .down
  requests := fun _ => .idle
  reported := []

/-- A request moves on. -/
def enter (app : App n) (i : Fin n) (phase : RequestPhase) : App n :=
  { app with requests := Function.update app.requests i phase }

/-- A request takes its snapshot and is done. -/
def answer (app : App n) (i : Fin n) : App n :=
  { app.enter i .idle with
    reported :=
      if app.lifespan.InShutdown then app.reported ++ [app.lifecycle.snapshot] else app.reported }

/-- `refresh_dependency_health` up to its first await, or with its snapshot when there is no
runtime. -/
def startRequest (app : App n) (i : Fin n) : App n :=
  if app.runtime then app.enter i .pingingDatabase
  else { app with lifecycle := app.lifecycle.disableDependencies }.answer i

/-- `_refresh_database_health` after its ping, and the first part of `_refresh_redis_health`:
the runtime is read again, and without one the ping raises at once. -/
def databasePinged (app : App n) (i : Fin n) (succeeds : Bool) : App n :=
  let marked :=
    if succeeds then app.lifecycle.markDatabaseHealthy else app.lifecycle.markDatabaseUnavailable
  if app.runtime then { app with lifecycle := marked }.enter i .pingingRedis
  else { app with lifecycle := marked.markRedisUnavailable }.answer i

/-- `_refresh_redis_health` after its ping, and the snapshot of the request. -/
def redisPinged (app : App n) (i : Fin n) (succeeds : Bool) : App n :=
  let marked :=
    if succeeds then app.lifecycle.markRedisHealthy else app.lifecycle.markRedisUnavailable
  { app with lifecycle := marked }.answer i

/-- The step after `container.init_resources()`; without a consumer startup ends here. -/
def containerOpened (enabled : Bool) (app : App n) (succeeds : Bool) : App n :=
  if succeeds then
    if enabled then
      { app with lifecycle := app.lifecycle.beginStartup enabled, lifespan := .startingRuntime }
    else { app with lifecycle := app.lifecycle.completeStartup enabled, lifespan := .serving }
  else { app with lifespan := .down }

/-- The step after `start_event_consumer_runtime`. -/
def runtimeStarted (enabled : Bool) (app : App n) (succeeds : Bool) : App n :=
  if succeeds then
    { app with
      lifecycle := app.lifecycle.completeStartup enabled
      runtime := true
      lifespan := .serving }
  else { app with lifecycle := app.lifecycle.failStartup, lifespan := .down }

/-- The first step of the `finally` block. -/
def beginShutdown (app : App n) : App n :=
  if app.runtime then
    { app with lifecycle := app.lifecycle.drainDependencies, lifespan := .stoppingRuntime }
  else { app with lifespan := .closingContainer }

/-- The step after `event_consumer_runtime.stop()`. -/
def runtimeStopped (app : App n) (succeeds : Bool) : App n :=
  if succeeds then
    { app with
      lifecycle := app.lifecycle.disableDependencies
      runtime := false
      lifespan := .closingContainer }
  else { app with lifespan := .failed }

/-- The step after the container was shut down. -/
def containerClosed (app : App n) (succeeds : Bool) : App n :=
  if succeeds then { app with lifecycle := app.lifecycle.markStopping, lifespan := .stopped }
  else { app with lifespan := .failed }

/-- One step of the application, when its action is possible. -/
def step (enabled : Bool) (app : App n) : AppAction n → Option (App n)
  | .beginStartup =>
    match app.lifespan with
    | .down | .failed | .stopped => some { app with lifespan := .openingContainer }
    | _ => none
  | .containerOpened succeeds =>
    match app.lifespan with
    | .openingContainer => some (app.containerOpened enabled succeeds)
    | _ => none
  | .runtimeStarted succeeds =>
    match app.lifespan with
    | .startingRuntime => some (app.runtimeStarted enabled succeeds)
    | _ => none
  | .beginShutdown =>
    match app.lifespan with
    | .serving => some app.beginShutdown
    | _ => none
  | .runtimeStopped succeeds =>
    match app.lifespan with
    | .stoppingRuntime => some (app.runtimeStopped succeeds)
    | _ => none
  | .containerClosed succeeds =>
    match app.lifespan with
    | .closingContainer => some (app.containerClosed succeeds)
    | _ => none
  | .startRequest i =>
    match app.requests i with
    | .idle => some (app.startRequest i)
    | _ => none
  | .databasePinged i succeeds =>
    match app.requests i with
    | .pingingDatabase => some (app.databasePinged i succeeds)
    | _ => none
  | .redisPinged i succeeds =>
    match app.requests i with
    | .pingingRedis => some (app.redisPinged i succeeds)
    | _ => none

/-! ## What holds between the steps -/

/-- The status a lifespan phase goes with. -/
structure Sound (app : App n) : Prop where
  not_draining : app.lifecycle.status ≠ .draining
  running : app.lifespan = .serving ∨ app.lifespan.Unmarked → app.lifecycle.status = .running
  stopping : app.lifespan = .stopped → app.lifecycle.status = .stopping

/-- No snapshot taken in a shutdown is ready. -/
def NeverReady (app : App n) : Prop := ∀ snapshot ∈ app.reported, snapshot.ready = false

/-- The condition on a step: until the process is marked as stopping, no request starts
without a runtime, and no ping of Redis succeeds while the database counts as ready. -/
def Meets (app : App n) : AppAction n → Prop
  | .startRequest _ => app.lifespan.Unmarked → app.runtime = true
  | .redisPinged _ true =>
    app.lifespan.Unmarked → dependencyIsReady app.lifecycle.databaseStatus = false
  | _ => True

variable {app : App n}

/-- A shutdown is unmarked until the process is stopped. -/
theorem inShutdown_iff {phase : LifespanPhase} :
    phase.InShutdown ↔ phase.Unmarked ∨ phase = .stopped := by
  cases phase <;> simp [LifespanPhase.InShutdown, LifespanPhase.Unmarked]

/-- A request changes neither the lifespan nor the status. -/
theorem Sound.of_status {other : App n} (h : app.Sound)
    (hs : other.lifecycle.status = app.lifecycle.status) (hl : other.lifespan = app.lifespan) :
    other.Sound := by
  refine ⟨?_, ?_, ?_⟩
  · rw [hs]
    exact h.not_draining
  · rw [hs, hl]
    exact h.running
  · rw [hs, hl]
    exact h.stopping

/-- A snapshot adds one condition. -/
theorem neverReady_answer (app : App n) (i : Fin n) :
    (app.answer i).NeverReady ↔
      app.NeverReady ∧ (app.lifespan.InShutdown → app.lifecycle.isReady = false) := by
  unfold NeverReady answer
  by_cases h : app.lifespan.InShutdown
  · simp only [h, ite_true, List.forall_mem_append, List.forall_mem_singleton,
      LifecycleState.ready_snapshot, true_implies]
  · simp only [h, ite_false, false_implies, and_true]

/-- Outside a shutdown, and once the process is marked as stopping, nothing is ready. -/
theorem ready_only_unmarked (h : app.Sound) {lifecycle : LifecycleState}
    (hs : lifecycle.status = app.lifecycle.status) :
    (app.lifespan.InShutdown → lifecycle.isReady = false) ↔
      (app.lifespan.Unmarked → lifecycle.isReady = false) := by
  rw [inShutdown_iff]
  constructor
  · exact fun hall hu => hall (Or.inl hu)
  · rintro hall (hu | hstop)
    · exact hall hu
    · apply LifecycleState.isReady_of_ne_running
      rw [hs, h.stopping hstop]
      exact nofun

/-- A request without a runtime is answered at once, ready as long as the process runs. -/
theorem neverReady_startRequest (h : app.Sound) (i : Fin n) :
    (app.startRequest i).NeverReady ↔ app.NeverReady ∧ app.Meets (.startRequest i) := by
  unfold startRequest Meets
  by_cases hr : app.runtime = true
  · rw [if_pos hr]
    simp only [hr, implies_true, and_true]
    exact Iff.rfl
  · rw [if_neg hr, neverReady_answer]
    apply and_congr_right
    intro _
    rw [ready_only_unmarked h (LifecycleState.status_disableDependencies app.lifecycle)]
    refine forall_congr' fun hu => ?_
    rw [LifecycleState.isReady_disableDependencies, h.running (Or.inr hu)]
    simp [hr]

/-- The database step of a request answers only to report Redis as unavailable. -/
theorem neverReady_databasePinged (i : Fin n) (succeeds : Bool) :
    (app.databasePinged i succeeds).NeverReady ↔ app.NeverReady := by
  unfold databasePinged
  by_cases hr : app.runtime = true
  · rw [if_pos hr]
    exact Iff.rfl
  · rw [if_neg hr, neverReady_answer]
    apply and_iff_left
    intro _
    exact LifecycleState.isReady_markRedisUnavailable _

/-- The Redis step of a request is ready when its ping succeeded and the database counts as
ready. -/
theorem neverReady_redisPinged (h : app.Sound) (i : Fin n) (succeeds : Bool) :
    (app.redisPinged i succeeds).NeverReady ↔
      app.NeverReady ∧ app.Meets (.redisPinged i succeeds) := by
  unfold redisPinged Meets
  rw [neverReady_answer]
  apply and_congr_right
  intro _
  cases succeeds with
  | false =>
    simp only [iff_true]
    intro _
    exact LifecycleState.isReady_markRedisUnavailable _
  | true =>
    have hs : app.lifecycle.markRedisHealthy.status = app.lifecycle.status := rfl
    simp only [ite_true]
    rw [ready_only_unmarked h hs]
    refine forall_congr' fun hu => ?_
    rw [LifecycleState.isReady_markRedisHealthy (h.running (Or.inr hu))]

/-- The steps of a request keep the status and the lifespan. -/
theorem sound_request (h : app.Sound) (i : Fin n) (succeeds : Bool) :
    (app.startRequest i).Sound ∧ (app.databasePinged i succeeds).Sound ∧
      (app.redisPinged i succeeds).Sound := by
  refine ⟨?_, ?_, ?_⟩
  · unfold startRequest
    split <;> exact h.of_status rfl rfl
  · unfold databasePinged
    dsimp only
    split <;> cases succeeds <;> exact h.of_status rfl rfl
  · cases succeeds <;> exact h.of_status rfl rfl

/-- A step of the lifespan to a phase the status goes with. -/
theorem sound_of_phase {lifecycle : LifecycleState} {runtime : Bool} {phase : LifespanPhase}
    (hd : lifecycle.status ≠ .draining)
    (hr : phase = .serving ∨ phase.Unmarked → lifecycle.status = .running)
    (hs : phase = .stopped → lifecycle.status = .stopping) :
    Sound { app with lifecycle := lifecycle, runtime := runtime, lifespan := phase } :=
  ⟨hd, hr, hs⟩

/-! The steps of the lifespan report nothing. -/

theorem reported_containerOpened (enabled succeeds : Bool) :
    (app.containerOpened enabled succeeds).reported = app.reported := by
  cases succeeds <;> cases enabled <;> rfl

theorem reported_runtimeStarted (enabled succeeds : Bool) :
    (app.runtimeStarted enabled succeeds).reported = app.reported := by
  cases succeeds <;> rfl

theorem reported_beginShutdown : app.beginShutdown.reported = app.reported := by
  unfold beginShutdown
  split <;> rfl

theorem reported_runtimeStopped (succeeds : Bool) :
    (app.runtimeStopped succeeds).reported = app.reported := by
  cases succeeds <;> rfl

theorem reported_containerClosed (succeeds : Bool) :
    (app.containerClosed succeeds).reported = app.reported := by
  cases succeeds <;> rfl

/-- A step that reports nothing meets every condition on what is reported. -/
theorem neverReady_of_reported {other : App n} (h : other.reported = app.reported) :
    other.NeverReady ↔ app.NeverReady ∧ True := by
  rw [NeverReady, h, and_true]
  exact Iff.rfl

theorem sound_containerOpened (h : app.Sound) (enabled succeeds : Bool) :
    (app.containerOpened enabled succeeds).Sound := by
  unfold containerOpened
  split
  · split
    · refine sound_of_phase ?_ (by simp [LifespanPhase.Unmarked]) (by simp)
      rw [LifecycleState.status_beginStartup]
      exact h.not_draining
    · have hrun := LifecycleState.status_completeStartup h.not_draining enabled
      refine sound_of_phase ?_ (fun _ => hrun) (by simp)
      rw [hrun]
      exact nofun
  · exact sound_of_phase h.not_draining (by simp [LifespanPhase.Unmarked]) (by simp)

theorem sound_runtimeStarted (h : app.Sound) (enabled succeeds : Bool) :
    (app.runtimeStarted enabled succeeds).Sound := by
  unfold runtimeStarted
  split
  · have hrun := LifecycleState.status_completeStartup h.not_draining enabled
    refine sound_of_phase ?_ (fun _ => hrun) (by simp)
    rw [hrun]
    exact nofun
  · exact sound_of_phase h.not_draining (by simp [LifespanPhase.Unmarked]) (by simp)

theorem sound_beginShutdown (h : app.Sound) (hl : app.lifespan = .serving) :
    app.beginShutdown.Sound := by
  have hrun := h.running (Or.inl hl)
  unfold beginShutdown
  split <;> exact sound_of_phase h.not_draining (fun _ => hrun) (by simp)

theorem sound_runtimeStopped (h : app.Sound) (hl : app.lifespan = .stoppingRuntime)
    (succeeds : Bool) : (app.runtimeStopped succeeds).Sound := by
  have hrun : app.lifecycle.status = .running := h.running (Or.inr (by rw [hl]; trivial))
  unfold runtimeStopped
  split <;> exact sound_of_phase h.not_draining (fun _ => hrun) (by simp)

theorem sound_containerClosed (h : app.Sound) (hl : app.lifespan = .closingContainer)
    (succeeds : Bool) : (app.containerClosed succeeds).Sound := by
  have hrun : app.lifecycle.status = .running := h.running (Or.inr (by rw [hl]; trivial))
  unfold containerClosed
  split
  · exact sound_of_phase nofun (by simp [LifespanPhase.Unmarked]) fun _ => rfl
  · exact sound_of_phase h.not_draining (fun _ => hrun) (by simp)

/-- Every step keeps status and phase together, and reports nothing ready exactly when it
meets the condition. -/
theorem step_neverReady {enabled : Bool} {a : AppAction n} {other : App n} (h : app.Sound)
    (hs : step enabled app a = some other) :
    other.Sound ∧ (other.NeverReady ↔ app.NeverReady ∧ app.Meets a) := by
  cases a with
  | beginStartup =>
    simp only [step] at hs
    split at hs <;> cases hs <;>
      exact ⟨sound_of_phase h.not_draining (by simp [LifespanPhase.Unmarked]) (by simp),
        neverReady_of_reported rfl⟩
  | containerOpened succeeds =>
    simp only [step] at hs
    split at hs <;> cases hs
    exact ⟨sound_containerOpened h enabled succeeds,
      neverReady_of_reported (reported_containerOpened enabled succeeds)⟩
  | runtimeStarted succeeds =>
    simp only [step] at hs
    split at hs <;> cases hs
    exact ⟨sound_runtimeStarted h enabled succeeds,
      neverReady_of_reported (reported_runtimeStarted enabled succeeds)⟩
  | beginShutdown =>
    simp only [step] at hs
    split at hs <;> cases hs
    next hl => exact ⟨sound_beginShutdown h hl, neverReady_of_reported reported_beginShutdown⟩
  | runtimeStopped succeeds =>
    simp only [step] at hs
    split at hs <;> cases hs
    next hl =>
    exact ⟨sound_runtimeStopped h hl succeeds,
      neverReady_of_reported (reported_runtimeStopped succeeds)⟩
  | containerClosed succeeds =>
    simp only [step] at hs
    split at hs <;> cases hs
    next hl =>
    exact ⟨sound_containerClosed h hl succeeds,
      neverReady_of_reported (reported_containerClosed succeeds)⟩
  | startRequest i =>
    simp only [step] at hs
    split at hs <;> cases hs
    exact ⟨(sound_request h i true).1, neverReady_startRequest h i⟩
  | databasePinged i succeeds =>
    simp only [step] at hs
    split at hs <;> cases hs
    exact ⟨(sound_request h i succeeds).2.1,
      (neverReady_databasePinged i succeeds).trans (and_iff_left trivial).symm⟩
  | redisPinged i succeeds =>
    simp only [step] at hs
    split at hs <;> cases hs
    exact ⟨(sound_request h i succeeds).2.2, neverReady_redisPinged h i succeeds⟩

/-- No snapshot of a shutdown is ready exactly in the runs whose steps all meet the
condition. -/
theorem neverReady_iff (enabled : Bool) (n : Nat) (startedAt : Moment)
    (actions : List (AppAction n)) (app : App n)
    (hr : run (step enabled) (init n startedAt) actions = some app) :
    app.NeverReady ↔ ∀ before a after t, actions = before ++ a :: after →
      run (step enabled) (init n startedAt) before = some t → t.Meets a := by
  have hsound : (init n startedAt).Sound := by
    refine ⟨?_, by simp [init, LifespanPhase.Unmarked], by simp [init]⟩
    change LifecycleStatus.starting ≠ .draining
    exact nofun
  have hnone : (init n startedAt).NeverReady := by
    intro snapshot hs
    exact absurd hs List.not_mem_nil
  rw [iff_of_run (fun _ _ _ h hs => step_neverReady h hs) hsound hr]
  exact and_iff_right hnone

/-- A request whose pings succeed while the consumer is being stopped. -/
def pingedShutdown : List (AppAction 1) :=
  [.beginStartup, .containerOpened true, .runtimeStarted true, .beginShutdown,
    .startRequest ⟨0, Nat.one_pos⟩, .databasePinged ⟨0, Nat.one_pos⟩ true,
    .redisPinged ⟨0, Nat.one_pos⟩ true]

/-- The process that is stopping its consumer is reported ready. -/
theorem stopping_process_reported_ready :
    (run (step true) (init 1 0) pingedShutdown).map
        (fun app => (app.lifespan, app.reported.map LifecycleSnapshot.ready)) =
      some (.stoppingRuntime, [true]) ∧
    ¬∀ (enabled : Bool) (n : Nat) (startedAt : Moment) (actions : List (AppAction n)) (app : App n),
      run (step enabled) (init n startedAt) actions = some app → app.NeverReady := by
  refine ⟨by decide, fun h => ?_⟩
  obtain ⟨app, hr⟩ : ∃ app, run (step true) (init 1 0) pingedShutdown = some app := ⟨_, rfl⟩
  have hready : ∃ snapshot ∈ app.reported, snapshot.ready = true := by
    obtain rfl := Option.some.inj hr
    decide
  obtain ⟨snapshot, hm, ht⟩ := hready
  have hf := h true 1 0 pingedShutdown app hr snapshot hm
  rw [ht] at hf
  cases hf

/-- A shutdown during which the pings of a request fail. -/
def failedShutdown : List (AppAction 1) :=
  [.beginStartup, .containerOpened true, .runtimeStarted true, .startRequest ⟨0, Nat.one_pos⟩,
    .beginShutdown, .databasePinged ⟨0, Nat.one_pos⟩ false, .redisPinged ⟨0, Nat.one_pos⟩ false,
    .runtimeStopped true, .containerClosed true]

/-- The request is answered, and no step of the run reports the process ready. -/
theorem failed_pings_never_ready :
    ∃ app, run (step true) (init 1 0) failedShutdown = some app ∧ app.reported.length = 1 ∧
      app.NeverReady ∧ ∀ before a after t, failedShutdown = before ++ a :: after →
        run (step true) (init 1 0) before = some t → t.Meets a := by
  obtain ⟨app, hr⟩ : ∃ app, run (step true) (init 1 0) failedShutdown = some app := ⟨_, rfl⟩
  obtain ⟨hone, hready⟩ : app.reported.length = 1 ∧
      ∀ snapshot ∈ app.reported, snapshot.ready = false := by
    obtain rfl := Option.some.inj hr
    decide
  exact ⟨app, hr, hone, hready, (neverReady_iff true 1 0 failedShutdown app hr).mp hready⟩

end App

end LiveData.Platform

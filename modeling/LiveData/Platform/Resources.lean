import LiveData.Core.Cleanup

/-!
# The resources of the lifespan

What startup and shutdown acquire and release, for every outcome of what they wait for. A
resource counts as released once its release is called, also when that call then raises.
-/

namespace LiveData.Platform

/-- The engines of the container. -/
inductive ContainerEngine where
  | database
  | analytics
  deriving DecidableEq, Repr

/-- What the lifespan owns. -/
inductive Resource where
  | consumerEngine
  | redisClient
  | consumerTask
  | containerEngine (engine : ContainerEngine)
  deriving DecidableEq, Repr

/-- What the lifespan waits for. `serving` is the `yield`, `cancelledTask` the second wait for
the consumer task. -/
inductive Await where
  | initResources
  | redisPing
  | databasePing
  | ensureGroup
  | serving
  | consumerTask
  | cancelledTask
  | redisAclose
  | engineDispose
  | shutdownResources
  deriving DecidableEq, Repr

/-- The exceptions, as far as the code tells them apart. -/
inductive Raised where
  | timeoutError
  | cancelledError
  | otherError
  deriving DecidableEq, Repr

/-- How the awaits of a lifespan end, with the engines a failing `container.init_resources()`
has made. -/
structure Outcomes where
  raised : Await → Option Raised
  made : ContainerEngine → Bool

namespace Outcomes

open Tracked

/-- A call that is waited for. -/
def wait (o : Outcomes) (call : Await) : Tracked Resource Raised Unit := await (o.raised call)

/-- The engines in the order of their declaration. -/
def engines : List ContainerEngine := [.database, .analytics]

/-- `container.init_resources()`. -/
def initResources (o : Outcomes) : Tracked Resource Raised Unit :=
  match o.raised .initResources with
  | none => ⟨engines.map fun engine => .acquire (.containerEngine engine), .ok ()⟩
  | some e =>
    ⟨(engines.filter o.made).map fun engine => .acquire (.containerEngine engine), .error e⟩

/-- `container.shutdown_resources()`: every engine is disposed of, whether or not that raises. -/
def shutdownResources (o : Outcomes) : Tracked Resource Raised Unit := do
  release (.containerEngine .database)
  release (.containerEngine .analytics)
  o.wait .shutdownResources

/-- `start_event_consumer_runtime`. -/
def startEventConsumerRuntime (o : Outcomes) : Tracked Resource Raised Unit := do
  acquire .consumerEngine
  acquire .redisClient
  o.wait .redisPing
  o.wait .databasePing
  o.wait .ensureGroup
  acquire .consumerTask

/-- `asyncio.wait_for(self.task, …)`, which ends no earlier than the task does. -/
def waitForTask (o : Outcomes) : Tracked Resource Raised Unit :=
  (o.wait .consumerTask).tryFinally (release .consumerTask)

/-- `suppress(asyncio.CancelledError)` around the wait for the cancelled task. -/
def awaitCancelledTask (o : Outcomes) : Tracked Resource Raised Unit :=
  (o.wait .cancelledTask).tryExcept fun
    | .cancelledError => some (pure ())
    | _ => none

/-- The `try` and `except` blocks of `EventConsumerRuntime.stop`. -/
def waitOrCancel (o : Outcomes) : Tracked Resource Raised Unit :=
  o.waitForTask.tryExcept fun
    | .timeoutError => some o.awaitCancelledTask
    | _ => none

/-- `EventConsumerRuntime.stop`. -/
def stop (o : Outcomes) : Tracked Resource Raised Unit :=
  o.waitOrCancel.tryFinally do
    release .redisClient
    o.wait .redisAclose
    release .consumerEngine
    o.wait .engineDispose

/-- `lifespan`, with whether the event consumer is enabled. -/
def lifespan (enabled : Bool) (o : Outcomes) : Tracked Resource Raised Unit := do
  o.initResources
  if enabled then o.startEventConsumerRuntime else pure ()
  (o.wait .serving).tryFinally do
    if enabled then o.stop else pure ()
    o.shutdownResources

/-! ## What each part does -/

variable {o : Outcomes}

/-- Nothing `start_event_consumer_runtime` waits for raises. -/
def Connects (o : Outcomes) : Prop :=
  o.raised .redisPing = none ∧ o.raised .databasePing = none ∧ o.raised .ensureGroup = none

/-- The wait for the consumer task raises nothing, or its timeout, and then the task ends by
its cancellation. -/
def TaskEnds (o : Outcomes) : Prop :=
  o.raised .consumerTask = none ∨
    o.raised .consumerTask = some .timeoutError ∧
      (o.raised .cancelledTask = none ∨ o.raised .cancelledTask = some .cancelledError)

/-- Nothing escapes from `stop`. -/
def Stops (o : Outcomes) : Prop :=
  o.TaskEnds ∧ o.raised .redisAclose = none ∧ o.raised .engineDispose = none

/-- A runtime that starts has acquired an engine, a client and a task. -/
theorem start_of_connects (h : o.Connects) :
    o.startEventConsumerRuntime =
      ⟨[.acquire .consumerEngine, .acquire .redisClient, .acquire .consumerTask], .ok ()⟩ := by
  obtain ⟨hredis, hdatabase, hgroup⟩ := h
  simp only [startEventConsumerRuntime, wait, hredis, hdatabase, hgroup, bind_await_none,
    bind_acquire]
  rfl

/-- A runtime that does not start leaves its engine and its client behind. -/
theorem start_of_not_connects (h : ¬o.Connects) :
    ∃ e, o.startEventConsumerRuntime =
      ⟨[.acquire .consumerEngine, .acquire .redisClient], .error e⟩ := by
  unfold startEventConsumerRuntime wait
  cases hredis : o.raised .redisPing with
  | some e => exact ⟨e, rfl⟩
  | none =>
    cases hdatabase : o.raised .databasePing with
    | some e => exact ⟨e, rfl⟩
    | none =>
      cases hgroup : o.raised .ensureGroup with
      | some e => exact ⟨e, rfl⟩
      | none => exact absurd ⟨hredis, hdatabase, hgroup⟩ h

/-- Whatever happens, the task is over when `stop` goes on to its clean-up. -/
theorem effects_waitOrCancel (o : Outcomes) :
    o.waitOrCancel.effects = [.release .consumerTask] := by
  unfold waitOrCancel waitForTask awaitCancelledTask wait
  cases o.raised .consumerTask with
  | none => rfl
  | some e =>
    cases e with
    | timeoutError =>
      cases o.raised .cancelledTask with
      | none => rfl
      | some e => cases e <;> rfl
    | cancelledError => rfl
    | otherError => rfl

theorem result_waitOrCancel : o.waitOrCancel.result = .ok () ↔ o.TaskEnds := by
  unfold waitOrCancel waitForTask awaitCancelledTask wait TaskEnds
  cases o.raised .consumerTask with
  | none => exact iff_of_true rfl (Or.inl rfl)
  | some e =>
    cases e with
    | timeoutError =>
      cases o.raised .cancelledTask with
      | none => exact iff_of_true rfl (Or.inr ⟨rfl, Or.inl rfl⟩)
      | some e =>
        cases e with
        | cancelledError => exact iff_of_true rfl (Or.inr ⟨rfl, Or.inr rfl⟩)
        | timeoutError => exact iff_of_false nofun (by simp)
        | otherError => exact iff_of_false nofun (by simp)
    | cancelledError => exact iff_of_false nofun (by simp)
    | otherError => exact iff_of_false nofun (by simp)

/-- The engine is disposed of unless closing the client raises. -/
theorem effects_stop (o : Outcomes) :
    o.stop.effects = .release .consumerTask :: .release .redisClient ::
      if o.raised .redisAclose = none then [.release .consumerEngine] else [] := by
  rw [stop, effects_tryFinally, effects_waitOrCancel]
  unfold wait
  cases o.raised .redisAclose with
  | some e => rfl
  | none => cases o.raised .engineDispose <;> rfl

/-- `stop` returns exactly when nothing escapes from it. -/
theorem result_stop : o.stop.result = .ok () ↔ o.Stops := by
  unfold stop Tracked.tryFinally wait Stops
  cases o.raised .redisAclose with
  | some e => exact iff_of_false nofun (by simp)
  | none =>
    cases o.raised .engineDispose with
    | some e => exact iff_of_false nofun (by simp)
    | none => exact result_waitOrCancel.trans (by simp)

/-! ## The lifespan -/

/-- Nothing the lifespan has acquired is left over when it ends. -/
def LeavesNothing (enabled : Bool) (o : Outcomes) : Prop :=
  o.raised .initResources ≠ none ∧ (∀ engine, o.made engine = false) ∨
    o.raised .initResources = none ∧ (enabled = false ∨ o.Connects ∧ o.Stops)

/-- The clean-up of a lifespan whose `stop` returns goes on to the container. -/
theorem effects_shutdownResources (o : Outcomes) :
    o.shutdownResources.effects =
      [.release (.containerEngine .database), .release (.containerEngine .analytics)] := by
  unfold shutdownResources wait
  cases o.raised .shutdownResources <;> rfl

/-- A failing `container.init_resources()` ends the lifespan with the engines it has made. -/
theorem effects_lifespan_of_raises {e : Raised} (h : o.raised .initResources = some e)
    (enabled : Bool) : (lifespan enabled o).effects =
      (engines.filter o.made).map fun engine => .acquire (.containerEngine engine) := by
  have hinit : o.initResources =
      ⟨(engines.filter o.made).map fun engine => .acquire (.containerEngine engine), .error e⟩ := by
    rw [initResources, h]
  rw [lifespan, effects_bind_of_error (congrArg Tracked.result hinit), hinit]

/-- After a container that opened, the lifespan does what follows. -/
theorem effects_lifespan (h : o.raised .initResources = none) (enabled : Bool) :
    (lifespan enabled o).effects =
      .acquire (.containerEngine .database) :: .acquire (.containerEngine .analytics) ::
        (do
          if enabled then o.startEventConsumerRuntime else pure ()
          (o.wait .serving).tryFinally do
            if enabled then o.stop else pure ()
            o.shutdownResources).effects := by
  have hinit : o.initResources =
      ⟨engines.map fun engine => .acquire (.containerEngine engine), .ok ()⟩ := by
    rw [initResources, h]
  rw [lifespan, effects_bind_of_ok (congrArg Tracked.result hinit), hinit]
  rfl

/-- Waiting has no effect on resources. -/
@[simp] theorem effects_wait (o : Outcomes) (call : Await) : (o.wait call).effects = [] := by
  unfold wait
  cases o.raised call <;> rfl

/-- Without a consumer the container is all there is. -/
theorem effects_lifespan_false (h : o.raised .initResources = none) :
    (lifespan false o).effects =
      .acquire (.containerEngine .database) :: .acquire (.containerEngine .analytics) ::
        o.shutdownResources.effects := by
  rw [effects_lifespan h]
  simp

/-- A consumer that does not start ends the lifespan before any clean-up. -/
theorem effects_lifespan_of_not_connects (h : o.raised .initResources = none)
    (hc : ¬o.Connects) : (lifespan true o).effects =
      [.acquire (.containerEngine .database), .acquire (.containerEngine .analytics),
        .acquire .consumerEngine, .acquire .redisClient] := by
  obtain ⟨e, hstart⟩ := start_of_not_connects hc
  rw [effects_lifespan h, if_pos rfl, effects_bind_of_error (congrArg Tracked.result hstart),
    hstart]

/-- A consumer that starts is stopped, and the container is shut down after a `stop` that
returns. -/
theorem effects_lifespan_of_connects (h : o.raised .initResources = none) (hc : o.Connects) :
    (lifespan true o).effects =
      [.acquire (.containerEngine .database), .acquire (.containerEngine .analytics),
        .acquire .consumerEngine, .acquire .redisClient, .acquire .consumerTask] ++
        (o.stop >>= fun _ => o.shutdownResources).effects := by
  have hstart := start_of_connects hc
  rw [effects_lifespan h, if_pos rfl, effects_bind_of_ok (congrArg Tracked.result hstart), hstart]
  simp

/-- A container that fails to open leaves the engines it has made. -/
theorem releasedOnce_of_raises {e : Raised} (h : o.raised .initResources = some e)
    (enabled : Bool) :
    ReleasedOnce (lifespan enabled o).effects ↔ ∀ engine, o.made engine = false := by
  rw [effects_lifespan_of_raises h]
  constructor
  · intro hreleased engine
    by_contra hmade
    refine not_releasedOnce_of_leak (r := .containerEngine engine) ?_ ?_ hreleased
    · apply List.mem_map_of_mem
      rw [List.mem_filter]
      exact ⟨by cases engine <;> decide, by simpa using hmade⟩
    · simp
  · intro hnone
    have hempty : engines.filter o.made = [] := by simp [hnone]
    rw [hempty]
    trivial

/-- Without a consumer the shutdown of the container is enough. -/
theorem releasedOnce_lifespan_false (h : o.raised .initResources = none) :
    ReleasedOnce (lifespan false o).effects := by
  rw [effects_lifespan_false h, effects_shutdownResources]
  decide

/-- With a consumer everything is released when it starts and stops. -/
theorem releasedOnce_of_stops (h : o.raised .initResources = none) (hc : o.Connects)
    (hs : o.Stops) : ReleasedOnce (lifespan true o).effects := by
  rw [effects_lifespan_of_connects h hc, effects_bind_of_ok (result_stop.mpr hs), effects_stop,
    if_pos hs.2.1, effects_shutdownResources]
  decide

/-- A consumer that does not start leaves its client behind. -/
theorem not_releasedOnce_of_not_connects (h : o.raised .initResources = none)
    (hc : ¬o.Connects) : ¬ReleasedOnce (lifespan true o).effects := by
  rw [effects_lifespan_of_not_connects h hc]
  exact not_releasedOnce_of_leak (r := .redisClient) (by decide) (by decide)

/-- A `stop` that raises leaves the container behind. -/
theorem not_releasedOnce_of_not_stops (h : o.raised .initResources = none) (hc : o.Connects)
    (hs : ¬o.Stops) : ¬ReleasedOnce (lifespan true o).effects := by
  obtain ⟨e, hraises⟩ : ∃ e, o.stop.result = .error e := by
    cases hresult : o.stop.result with
    | ok u => exact absurd (result_stop.mp hresult) hs
    | error e => exact ⟨e, rfl⟩
  rw [effects_lifespan_of_connects h hc, effects_bind_of_error hraises, effects_stop]
  apply not_releasedOnce_of_leak (r := .containerEngine .database)
  · simp
  · split <;> simp

/-- Everything acquired is released once exactly when nothing is left over: a failure after
the engines are there, and before the container is shut down, leaves something behind. -/
theorem releasedOnce_lifespan_iff (enabled : Bool) (o : Outcomes) :
    ReleasedOnce (lifespan enabled o).effects ↔ o.LeavesNothing enabled := by
  cases hinit : o.raised .initResources with
  | some e =>
    rw [releasedOnce_of_raises hinit]
    simp [LeavesNothing, hinit]
  | none =>
    have hiff : o.LeavesNothing enabled ↔ enabled = false ∨ o.Connects ∧ o.Stops := by
      simp [LeavesNothing, hinit]
    rw [hiff]
    cases enabled with
    | false => exact iff_of_true (releasedOnce_lifespan_false hinit) (Or.inl rfl)
    | true =>
      rw [or_iff_right (by decide)]
      constructor
      · intro hreleased
        have hconnects : o.Connects := by
          by_contra hc
          exact not_releasedOnce_of_not_connects hinit hc hreleased
        refine ⟨hconnects, ?_⟩
        by_contra hs
        exact not_releasedOnce_of_not_stops hinit hconnects hs hreleased
      · rintro ⟨hconnects, hstops⟩
        exact releasedOnce_of_stops hinit hconnects hstops

/-- A Redis that does not answer at startup leaves the engines and the client open. -/
theorem failed_ping_leaks :
    ¬∀ (enabled : Bool) (o : Outcomes), ReleasedOnce (lifespan enabled o).effects := by
  intro h
  refine absurd (h true ⟨fun call => if call = .redisPing then some .otherError else none,
    fun _ => false⟩) (by decide)

end Outcomes

end LiveData.Platform

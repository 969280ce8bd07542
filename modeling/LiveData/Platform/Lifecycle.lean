import LiveData.Core.Text

/-!
# The process-local lifecycle

`LifecycleState` with its transitions, and the blocks of transitions the lifespan of the
application performs between two awaits.
-/

namespace LiveData.Platform

/-- `LifecycleStatus`. -/
inductive LifecycleStatus where
  | starting
  | running
  | draining
  | stopping
  deriving DecidableEq, Repr

/-- `DependencyHealthStatus`. -/
inductive DependencyHealthStatus where
  | disabled
  | starting
  | ok
  | draining
  | unavailable
  deriving DecidableEq, Repr

/-- The two dependencies whose health is tracked. -/
inductive Dependency where
  | redis
  | database
  deriving DecidableEq, Repr

/-- A point in time, in microseconds. -/
abbrev Moment := Int

/-- `LifecycleSnapshot`. -/
structure LifecycleSnapshot where
  status : LifecycleStatus
  redisStatus : DependencyHealthStatus
  databaseStatus : DependencyHealthStatus
  startedAt : Moment
  drainStartedAt : Option Moment
  drainReason : Option Str
  deriving DecidableEq, Repr

/-- `dependency_is_ready`. -/
def dependencyIsReady (status : DependencyHealthStatus) : Bool :=
  status = .disabled || status = .ok

/-- `LifecycleSnapshot.draining`. -/
def LifecycleSnapshot.draining (snapshot : LifecycleSnapshot) : Bool := snapshot.status = .draining

/-- `LifecycleSnapshot.ready`. -/
def LifecycleSnapshot.ready (snapshot : LifecycleSnapshot) : Bool :=
  snapshot.status = .running && dependencyIsReady snapshot.redisStatus &&
    dependencyIsReady snapshot.databaseStatus

/-- The fields of `LifecycleState`. -/
structure LifecycleState where
  startedAt : Moment
  status : LifecycleStatus := .starting
  redisStatus : DependencyHealthStatus := .disabled
  databaseStatus : DependencyHealthStatus := .disabled
  drainStartedAt : Option Moment := none
  drainReason : Option Str := none
  deriving DecidableEq, Repr

/-- `_drain_dependency`. -/
def drainDependency (status : DependencyHealthStatus) : DependencyHealthStatus :=
  if status = .ok then .draining else status

namespace LifecycleState

/-- A new state. -/
def new (startedAt : Moment) : LifecycleState := { startedAt := startedAt }

/-- The tracked status of a dependency. -/
def dependencyStatus (s : LifecycleState) : Dependency → DependencyHealthStatus
  | .redis => s.redisStatus
  | .database => s.databaseStatus

/-- Assignment to the tracked status of a dependency. -/
def setDependency (s : LifecycleState) (dependency : Dependency)
    (status : DependencyHealthStatus) : LifecycleState :=
  match dependency with
  | .redis => { s with redisStatus := status }
  | .database => { s with databaseStatus := status }

/-- `_healthy_dependency_status`. -/
def healthyDependencyStatus (s : LifecycleState) : DependencyHealthStatus :=
  if s.status = .draining ∨ s.status = .stopping then .draining else .ok

/-- `mark_running`. -/
def markRunning (s : LifecycleState) : LifecycleState :=
  if s.status = .starting ∨ s.status = .stopping then { s with status := .running } else s

/-- `mark_stopping`. -/
def markStopping (s : LifecycleState) : LifecycleState :=
  { s with
    status := .stopping
    redisStatus := drainDependency s.redisStatus
    databaseStatus := drainDependency s.databaseStatus }

/-- The transition of a dependency to starting. -/
def markStarting (dependency : Dependency) (s : LifecycleState) : LifecycleState :=
  s.setDependency dependency .starting

/-- The transition of a dependency to healthy. -/
def markHealthy (dependency : Dependency) (s : LifecycleState) : LifecycleState :=
  s.setDependency dependency s.healthyDependencyStatus

/-- The transition of a dependency to unavailable. -/
def markUnavailable (dependency : Dependency) (s : LifecycleState) : LifecycleState :=
  s.setDependency dependency .unavailable

/-- The transition of a dependency to draining. -/
def markDraining (dependency : Dependency) (s : LifecycleState) : LifecycleState :=
  s.setDependency dependency (drainDependency (s.dependencyStatus dependency))

/-- The transition of a dependency to disabled. -/
def markDisabled (dependency : Dependency) (s : LifecycleState) : LifecycleState :=
  s.setDependency dependency .disabled

/-- `mark_redis_starting`. -/
def markRedisStarting : LifecycleState → LifecycleState := markStarting .redis

/-- `mark_redis_healthy`. -/
def markRedisHealthy : LifecycleState → LifecycleState := markHealthy .redis

/-- `mark_redis_unavailable`. -/
def markRedisUnavailable : LifecycleState → LifecycleState := markUnavailable .redis

/-- `mark_redis_draining`. -/
def markRedisDraining : LifecycleState → LifecycleState := markDraining .redis

/-- `mark_redis_disabled`. -/
def markRedisDisabled : LifecycleState → LifecycleState := markDisabled .redis

/-- `mark_database_starting`. -/
def markDatabaseStarting : LifecycleState → LifecycleState := markStarting .database

/-- `mark_database_healthy`. -/
def markDatabaseHealthy : LifecycleState → LifecycleState := markHealthy .database

/-- `mark_database_unavailable`. -/
def markDatabaseUnavailable : LifecycleState → LifecycleState := markUnavailable .database

/-- `mark_database_draining`. -/
def markDatabaseDraining : LifecycleState → LifecycleState := markDraining .database

/-- `mark_database_disabled`. -/
def markDatabaseDisabled : LifecycleState → LifecycleState := markDisabled .database

/-- `start_draining`, with whether this call started it. -/
def startDraining (reason : Str) (now : Moment) (s : LifecycleState) : Bool × LifecycleState :=
  if s.status = .draining then (false, s)
  else if s.status = .stopping then (false, s)
  else
    (true,
      { s with
        status := .draining
        redisStatus := drainDependency s.redisStatus
        databaseStatus := drainDependency s.databaseStatus
        drainStartedAt := some now
        drainReason := some reason })

/-- `is_ready`. -/
def isReady (s : LifecycleState) : Bool :=
  s.status = .running && dependencyIsReady s.redisStatus && dependencyIsReady s.databaseStatus

/-- `snapshot`. -/
def snapshot (s : LifecycleState) : LifecycleSnapshot where
  status := s.status
  redisStatus := s.redisStatus
  databaseStatus := s.databaseStatus
  startedAt := s.startedAt
  drainStartedAt := s.drainStartedAt
  drainReason := s.drainReason

/-- The snapshot is ready exactly when the state is. -/
@[simp] theorem ready_snapshot (s : LifecycleState) : s.snapshot.ready = s.isReady := rfl

/-! ## What the marks leave alone -/

/-- `mark_running` changes the status at most. -/
theorem markRunning_eq (s : LifecycleState) :
    s.markRunning = { s with status := s.markRunning.status } := by
  unfold markRunning
  split <;> rfl

/-! ## The blocks of the lifespan -/

/-- What startup marks before the consumer runtime is started. -/
def beginStartup (enabled : Bool) (s : LifecycleState) : LifecycleState :=
  if enabled then s.markDatabaseStarting.markRedisStarting else s

/-- What startup marks once the runtime is there. -/
def completeStartup (enabled : Bool) (s : LifecycleState) : LifecycleState :=
  if enabled then s.markDatabaseHealthy.markRedisHealthy.markRunning else s.markRunning

/-- What startup marks when the runtime could not be started. -/
def failStartup (s : LifecycleState) : LifecycleState :=
  s.markDatabaseUnavailable.markRedisUnavailable

/-- What shutdown marks before it stops the runtime. -/
def drainDependencies (s : LifecycleState) : LifecycleState :=
  s.markDatabaseDraining.markRedisDraining

/-- What is marked once there is no runtime. -/
def disableDependencies (s : LifecycleState) : LifecycleState :=
  s.markDatabaseDisabled.markRedisDisabled

@[simp] theorem status_beginStartup (enabled : Bool) (s : LifecycleState) :
    (s.beginStartup enabled).status = s.status := by
  cases enabled <;> rfl

@[simp] theorem status_disableDependencies (s : LifecycleState) :
    s.disableDependencies.status = s.status := rfl

/-- Startup ends running, whatever it started from, unless a drain is going on. -/
theorem status_completeStartup {s : LifecycleState} (h : s.status ≠ .draining) (enabled : Bool) :
    (s.completeStartup enabled).status = .running := by
  have hrun : ∀ t : LifecycleState, t.status ≠ .draining → t.markRunning.status = .running := by
    intro t ht
    unfold markRunning
    split
    · rfl
    · next hn =>
      cases hs : t.status with
      | starting => exact absurd (Or.inl hs) hn
      | running => rfl
      | draining => exact absurd hs ht
      | stopping => exact absurd (Or.inr hs) hn
  cases enabled
  · exact hrun s h
  · exact hrun s.markDatabaseHealthy.markRedisHealthy h

/-- Without dependencies the process is ready as long as it runs. -/
theorem isReady_disableDependencies (s : LifecycleState) :
    s.disableDependencies.isReady = decide (s.status = .running) := by
  rw [isReady, status_disableDependencies]
  exact Bool.and_true _ |>.trans (Bool.and_true _)

/-- An unavailable Redis is not ready. -/
theorem isReady_markRedisUnavailable (s : LifecycleState) :
    s.markRedisUnavailable.isReady = false := by
  change (decide (s.status = .running) && false && dependencyIsReady s.databaseStatus) = false
  rw [Bool.and_false, Bool.false_and]

/-- A running process with a healthy Redis is as ready as its database. -/
theorem isReady_markRedisHealthy {s : LifecycleState} (h : s.status = .running) :
    s.markRedisHealthy.isReady = dependencyIsReady s.databaseStatus := by
  have hok : s.healthyDependencyStatus = .ok := by simp [healthyDependencyStatus, h]
  change (decide (s.status = .running) && dependencyIsReady s.healthyDependencyStatus &&
    dependencyIsReady s.databaseStatus) = _
  rw [hok, h]
  rfl

/-- A process that does not run is not ready. -/
theorem isReady_of_ne_running {s : LifecycleState} (h : s.status ≠ .running) :
    s.isReady = false := by
  rw [isReady, decide_eq_false h, Bool.false_and, Bool.false_and]

end LifecycleState

end LiveData.Platform

import LiveData.Platform.Lifecycle

/-!
# A drain lasts until the process stops

The operations of `LifecycleState` in any order. Once a drain has begun, each of them but
`mark_stopping` leaves its reason, its beginning and the status alone, and none makes a
dependency healthy again.
-/

namespace LiveData.Platform

/-- The operations of `LifecycleState`. -/
inductive LifecycleOperation where
  | markRunning
  | markStopping
  | markRedisStarting
  | markRedisHealthy
  | markRedisUnavailable
  | markRedisDraining
  | markRedisDisabled
  | markDatabaseStarting
  | markDatabaseHealthy
  | markDatabaseUnavailable
  | markDatabaseDraining
  | markDatabaseDisabled
  | startDraining (reason : Str) (now : Moment)
  | isReady
  | snapshot
  deriving DecidableEq, Repr

namespace LifecycleState

/-- The state after an operation. -/
def perform (s : LifecycleState) : LifecycleOperation → LifecycleState
  | .markRunning => s.markRunning
  | .markStopping => s.markStopping
  | .markRedisStarting => s.markRedisStarting
  | .markRedisHealthy => s.markRedisHealthy
  | .markRedisUnavailable => s.markRedisUnavailable
  | .markRedisDraining => s.markRedisDraining
  | .markRedisDisabled => s.markRedisDisabled
  | .markDatabaseStarting => s.markDatabaseStarting
  | .markDatabaseHealthy => s.markDatabaseHealthy
  | .markDatabaseUnavailable => s.markDatabaseUnavailable
  | .markDatabaseDraining => s.markDatabaseDraining
  | .markDatabaseDisabled => s.markDatabaseDisabled
  | .startDraining reason now => (s.startDraining reason now).2
  | .isReady => s
  | .snapshot => s

/-- The state after some operations. -/
def performAll (s : LifecycleState) (operations : List LifecycleOperation) : LifecycleState :=
  operations.foldl perform s

/-- A drain goes on that began for this reason at this moment. -/
structure Drained (reason : Str) (now : Moment) (s : LifecycleState) : Prop where
  status : s.status = .draining
  drainReason : s.drainReason = some reason
  drainStartedAt : s.drainStartedAt = some now
  redis : s.redisStatus ≠ .ok
  database : s.databaseStatus ≠ .ok

theorem drainDependency_ne_ok (status : DependencyHealthStatus) :
    drainDependency status ≠ .ok := by
  cases status <;> decide

variable {reason : Str} {now : Moment} {s : LifecycleState}

/-- A call that starts a drain leads into it. -/
theorem drained_of_startDraining {s' : LifecycleState}
    (h : s.startDraining reason now = (true, s')) : Drained reason now s' := by
  unfold startDraining at h
  split at h
  · simp at h
  · split at h
    · simp at h
    · obtain rfl := (Prod.mk.inj h).2
      exact ⟨rfl, rfl, rfl, drainDependency_ne_ok _, drainDependency_ne_ok _⟩

namespace Drained

/-- A dependency may be marked as anything but healthy. -/
theorem setDependency (h : Drained reason now s) (dependency : Dependency)
    {status : DependencyHealthStatus} (hne : status ≠ .ok) :
    Drained reason now (s.setDependency dependency status) := by
  cases dependency with
  | redis => exact ⟨h.status, h.drainReason, h.drainStartedAt, hne, h.database⟩
  | database => exact ⟨h.status, h.drainReason, h.drainStartedAt, h.redis, hne⟩

/-- A healthy dependency is marked as draining. -/
theorem markHealthy (h : Drained reason now s) (dependency : Dependency) :
    Drained reason now (s.markHealthy dependency) := by
  apply h.setDependency dependency
  rw [healthyDependencyStatus, if_pos (Or.inl h.status)]
  decide

/-- No other drain is started. -/
theorem startDraining (h : Drained reason now s) (reason' : Str) (now' : Moment) :
    s.startDraining reason' now' = (false, s) := if_pos h.status

/-- Every operation but `mark_stopping` keeps the drain. -/
theorem perform (h : Drained reason now s) {operation : LifecycleOperation}
    (hne : operation ≠ .markStopping) : Drained reason now (s.perform operation) := by
  cases operation with
  | markRunning =>
    have hsame : s.markRunning = s := if_neg (by simp [h.status])
    rw [LifecycleState.perform, hsame]
    exact h
  | markStopping => exact absurd rfl hne
  | markRedisStarting => exact h.setDependency .redis (by decide)
  | markRedisHealthy => exact h.markHealthy .redis
  | markRedisUnavailable => exact h.setDependency .redis (by decide)
  | markRedisDraining => exact h.setDependency .redis (drainDependency_ne_ok _)
  | markRedisDisabled => exact h.setDependency .redis (by decide)
  | markDatabaseStarting => exact h.setDependency .database (by decide)
  | markDatabaseHealthy => exact h.markHealthy .database
  | markDatabaseUnavailable => exact h.setDependency .database (by decide)
  | markDatabaseDraining => exact h.setDependency .database (drainDependency_ne_ok _)
  | markDatabaseDisabled => exact h.setDependency .database (by decide)
  | startDraining reason' now' =>
    rw [LifecycleState.perform, h.startDraining]
    exact h
  | isReady => exact h
  | snapshot => exact h

/-- So does every run without it. -/
theorem performAll (h : Drained reason now s) {operations : List LifecycleOperation}
    (hoperations : .markStopping ∉ operations) :
    Drained reason now (s.performAll operations) := by
  induction operations generalizing s with
  | nil => exact h
  | cons operation operations ih =>
    rw [List.mem_cons, not_or] at hoperations
    exact ih (h.perform (Ne.symm hoperations.1)) hoperations.2

end Drained

/-- After a call that started a drain, and any operations but `mark_stopping` since, the process
drains for the reason and from the moment of that call, it is not ready, and no other call
starts a drain. -/
theorem draining_performAll {s' : LifecycleState} (h : s.startDraining reason now = (true, s'))
    {operations : List LifecycleOperation} (hoperations : .markStopping ∉ operations) :
    Drained reason now (s'.performAll operations) ∧
      (s'.performAll operations).isReady = false ∧
      (s'.performAll operations).snapshot.ready = false ∧
      ∀ reason' now', ((s'.performAll operations).startDraining reason' now').1 = false := by
  have hdrained := (drained_of_startDraining h).performAll hoperations
  have hready : (s'.performAll operations).isReady = false :=
    isReady_of_ne_running (by simp [hdrained.status])
  refine ⟨hdrained, hready, hready, fun reason' now' => ?_⟩
  rw [hdrained.startDraining]

/-- A drain after which every dependency is reported healthy. -/
theorem draining_marked :
    let s' := ((new 0).markRunning.startDraining (str "deploy") 5).2
    let operations := [.markRedisHealthy, .startDraining (str "again") 9, .markDatabaseHealthy]
    Drained (str "deploy") 5 (s'.performAll operations) ∧
      (s'.performAll operations).isReady = false ∧
      (s'.performAll operations).snapshot.ready = false ∧
      ∀ reason' now', ((s'.performAll operations).startDraining reason' now').1 = false :=
  draining_performAll (s := (new 0).markRunning) rfl (by decide)

end LifecycleState

end LiveData.Platform

import LiveData.Platform.Lifecycle

/-!
# Restarting the lifespan

A life is a startup, what happens to the lifecycle while the process serves, and a shutdown.
After any number of lives a further startup is compared with the startup of a new state.
-/

namespace LiveData.Platform

/-- What happens to the lifecycle between startup and shutdown: the halves of a health
refresh with a consumer, the whole refresh without one, and calls of `start_draining`. -/
inductive LifeEvent : Bool → Type where
  | databasePinged (succeeds : Bool) : LifeEvent true
  | redisPinged (succeeds : Bool) : LifeEvent true
  | refreshed : LifeEvent false
  | startDraining {enabled : Bool} (reason : Str) (now : Moment) : LifeEvent enabled

namespace LifecycleState

variable {enabled : Bool}

/-- The effect of an event. -/
def occur (s : LifecycleState) : LifeEvent enabled → LifecycleState
  | .databasePinged succeeds =>
    if succeeds then s.markDatabaseHealthy else s.markDatabaseUnavailable
  | .redisPinged succeeds => if succeeds then s.markRedisHealthy else s.markRedisUnavailable
  | .refreshed => s.disableDependencies
  | .startDraining reason now => (s.startDraining reason now).2

/-- The startup sequence with healthy dependencies. -/
def startup (enabled : Bool) (s : LifecycleState) : LifecycleState :=
  (s.beginStartup enabled).completeStartup enabled

/-- The shutdown sequence. -/
def shutdown (enabled : Bool) (s : LifecycleState) : LifecycleState :=
  if enabled then s.drainDependencies.disableDependencies.markStopping else s.markStopping

/-- What happens while the process serves, in order. -/
def serve (s : LifecycleState) (events : List (LifeEvent enabled)) : LifecycleState :=
  events.foldl occur s

/-- One life. -/
def live (s : LifecycleState) (events : List (LifeEvent enabled)) : LifecycleState :=
  ((s.startup enabled).serve events).shutdown enabled

/-- The lives of one process. -/
def history (startedAt : Moment) (lives : List (List (LifeEvent enabled))) : LifecycleState :=
  lives.foldl live (new startedAt)

/-- A further startup gives the snapshot of a first one, the start time apart. -/
def RestartsFresh (startedAt : Moment) (lives : List (List (LifeEvent enabled))) : Prop :=
  ∀ freshAt, { ((history startedAt lives).startup enabled).snapshot with startedAt := freshAt } =
    ((new freshAt).startup enabled).snapshot

/-- Some event of the life is a call of `start_draining`. -/
def Drains (events : List (LifeEvent enabled)) : Prop :=
  ∃ reason now, LifeEvent.startDraining reason now ∈ events

/-! ## What a life leaves behind -/

variable {s : LifecycleState}

/-- Every life ends stopping. -/
theorem status_live (s : LifecycleState) (events : List (LifeEvent enabled)) :
    (s.live events).status = .stopping := by
  cases enabled <;> rfl

/-- A startup leaves the record of a drain alone. -/
theorem drainReason_startup (enabled : Bool) (s : LifecycleState) :
    (s.startup enabled).drainReason = s.drainReason ∧
      (s.startup enabled).drainStartedAt = s.drainStartedAt := by
  cases enabled
  · change s.markRunning.drainReason = _ ∧ s.markRunning.drainStartedAt = _
    rw [markRunning_eq]
    exact ⟨rfl, rfl⟩
  · have hs : s.startup true =
        (s.beginStartup true).markDatabaseHealthy.markRedisHealthy.markRunning := rfl
    rw [hs, markRunning_eq]
    exact ⟨rfl, rfl⟩

theorem drainReason_shutdown (enabled : Bool) (s : LifecycleState) :
    (s.shutdown enabled).drainReason = s.drainReason ∧
      (s.shutdown enabled).drainStartedAt = s.drainStartedAt := by
  cases enabled <;> exact ⟨rfl, rfl⟩

/-- A startup that follows a shutdown, or is the first one, ends running. -/
theorem status_startup (h : s.status ≠ .draining) : (s.startup enabled).status = .running := by
  apply status_completeStartup
  rw [status_beginStartup]
  exact h

/-- What is known while a process serves: it runs, or a drain was recorded. -/
def RunsOrDrained (s : LifecycleState) : Prop :=
  s.status = .running ∨ s.status = .draining ∧ s.drainReason.isSome

/-- An event keeps a recorded drain and what is known of the status; a call of
`start_draining` records one. -/
theorem occur_serving (h : s.RunsOrDrained) (event : LifeEvent enabled) :
    (s.occur event).RunsOrDrained ∧ (s.drainReason.isSome → (s.occur event).drainReason.isSome) ∧
      (∀ reason now, event = .startDraining reason now → (s.occur event).drainReason.isSome) := by
  cases event with
  | databasePinged succeeds => cases succeeds <;> exact ⟨h, id, nofun⟩
  | redisPinged succeeds => cases succeeds <;> exact ⟨h, id, nofun⟩
  | refreshed => exact ⟨h, id, nofun⟩
  | startDraining reason now =>
    rcases h with h | ⟨h, hd⟩
    · have hs : (s.occur (.startDraining reason now : LifeEvent enabled)) =
          (s.startDraining reason now).2 := rfl
      rw [hs]
      simp [startDraining, h, RunsOrDrained]
    · have hs : (s.occur (.startDraining reason now : LifeEvent enabled)) = s := by
        simp [occur, startDraining, h]
      rw [hs]
      exact ⟨Or.inr ⟨h, hd⟩, id, fun _ _ _ => hd⟩

/-- The same over all that happens while the process serves. -/
theorem serve_serving (h : s.RunsOrDrained) (events : List (LifeEvent enabled)) :
    (s.serve events).RunsOrDrained ∧ (s.drainReason.isSome → (s.serve events).drainReason.isSome) ∧
      (Drains events → (s.serve events).drainReason.isSome) := by
  induction events generalizing s with
  | nil => exact ⟨h, id, fun ⟨_, _, hmem⟩ => absurd hmem List.not_mem_nil⟩
  | cons event events ih =>
    obtain ⟨hnext, hkept, hdrained⟩ := occur_serving h event
    obtain ⟨hend, hlater, hrest⟩ := ih hnext
    refine ⟨hend, hlater ∘ hkept, ?_⟩
    rintro ⟨reason, now, hmem⟩
    rcases List.mem_cons.mp hmem with heq | hmem
    · exact hlater (hdrained reason now heq.symm)
    · exact hrest ⟨reason, now, hmem⟩

/-- Without a call of `start_draining` the record of a drain stays what it was. -/
theorem drainReason_serve {events : List (LifeEvent enabled)} (h : ¬Drains events) :
    (s.serve events).drainReason = s.drainReason ∧
      (s.serve events).drainStartedAt = s.drainStartedAt := by
  induction events generalizing s with
  | nil => exact ⟨rfl, rfl⟩
  | cons event events ih =>
    have hrest : ¬Drains events := fun ⟨reason, now, hmem⟩ =>
      h ⟨reason, now, List.mem_cons_of_mem _ hmem⟩
    have hfirst : (s.occur event).drainReason = s.drainReason ∧
        (s.occur event).drainStartedAt = s.drainStartedAt := by
      cases event with
      | databasePinged succeeds => cases succeeds <;> exact ⟨rfl, rfl⟩
      | redisPinged succeeds => cases succeeds <;> exact ⟨rfl, rfl⟩
      | refreshed => exact ⟨rfl, rfl⟩
      | startDraining reason now => exact absurd ⟨reason, now, List.mem_cons_self⟩ h
    obtain ⟨hreason, hat⟩ := ih hrest (s := s.occur event)
    exact ⟨hreason.trans hfirst.1, hat.trans hfirst.2⟩

/-! ## Lives without a consumer -/

/-- Both dependencies are disabled. -/
def Untracked (s : LifecycleState) : Prop :=
  s.redisStatus = .disabled ∧ s.databaseStatus = .disabled

theorem untracked_startup (h : s.Untracked) : (s.startup false).Untracked := by
  have hs : s.startup false = s.markRunning := rfl
  rw [hs, markRunning_eq]
  exact h

theorem untracked_occur (h : s.Untracked) (event : LifeEvent false) :
    (s.occur event).Untracked := by
  obtain ⟨hredis, hdatabase⟩ := h
  cases event with
  | refreshed => exact ⟨rfl, rfl⟩
  | startDraining reason now =>
    have hs : s.occur (.startDraining reason now : LifeEvent false) =
        (s.startDraining reason now).2 := rfl
    rw [hs, startDraining]
    split
    · exact ⟨hredis, hdatabase⟩
    · split
      · exact ⟨hredis, hdatabase⟩
      · simp [Untracked, hredis, hdatabase, drainDependency]

theorem untracked_serve (h : s.Untracked) (events : List (LifeEvent false)) :
    (s.serve events).Untracked := by
  induction events generalizing s with
  | nil => exact h
  | cons event events ih => exact ih (untracked_occur h event)

/-- Without a consumer a life leaves both dependencies disabled. -/
theorem untracked_live (h : s.Untracked) (events : List (LifeEvent false)) :
    (s.live events).Untracked := by
  obtain ⟨hredis, hdatabase⟩ := untracked_serve (untracked_startup h) events
  have hs : s.live events = ((s.startup false).serve events).markStopping := rfl
  rw [hs]
  simp [Untracked, markStopping, hredis, hdatabase, drainDependency]

/-- So do any number of lives. -/
theorem untracked_lives (h : s.Untracked) (lives : List (List (LifeEvent false))) :
    (lives.foldl live s).Untracked := by
  induction lives generalizing s with
  | nil => exact h
  | cons life lives ih => exact ih (untracked_live h life)

/-! ## The next startup -/

variable {startedAt : Moment} {lives : List (List (LifeEvent enabled))}

/-- No life leaves a draining process behind. -/
theorem status_history : (history startedAt lives).status ≠ .draining := by
  rcases List.eq_nil_or_concat lives with rfl | ⟨before, last, rfl⟩
  · simp [history, new]
  · rw [history, List.concat_eq_append, List.foldl_append]
    simp [status_live]

/-- After a life the process is stopping. -/
theorem status_history_of_ne_nil (h : lives ≠ []) :
    (history startedAt lives).status = .stopping := by
  rcases List.eq_nil_or_concat lives with rfl | ⟨before, last, rfl⟩
  · exact absurd rfl h
  · rw [history, List.concat_eq_append, List.foldl_append]
    exact status_live _ _

/-- A drain in some life is still on record after all of them. -/
theorem drainReason_lives (h : s.status ≠ .draining)
    (hd : s.drainReason.isSome ∨ ∃ life ∈ lives, Drains life) :
    (lives.foldl live s).drainReason.isSome := by
  induction lives generalizing s with
  | nil =>
    rcases hd with hd | ⟨life, hlife, -⟩
    · exact hd
    · exact absurd hlife List.not_mem_nil
  | cons life lives ih =>
    have hserving : (s.startup enabled).RunsOrDrained := Or.inl (status_startup h)
    obtain ⟨-, hkept, hdrained⟩ := serve_serving hserving life
    have hrecord : (s.live life).drainReason =
        ((s.startup enabled).serve life).drainReason := (drainReason_shutdown enabled _).1
    apply ih
    · rw [status_live]
      exact nofun
    · rcases hd with hd | ⟨other, hother, hdrains⟩
      · left
        rw [hrecord]
        apply hkept
        rw [(drainReason_startup enabled s).1]
        exact hd
      · rcases List.mem_cons.mp hother with rfl | hother
        · left
          rw [hrecord]
          exact hdrained hdrains
        · exact Or.inr ⟨other, hother, hdrains⟩

/-- Without a drain in any life there is none on record. -/
theorem undrained_lives (h : ∀ life ∈ lives, ¬Drains life) :
    (lives.foldl live s).drainReason = s.drainReason ∧
      (lives.foldl live s).drainStartedAt = s.drainStartedAt := by
  induction lives generalizing s with
  | nil => exact ⟨rfl, rfl⟩
  | cons life lives ih =>
    obtain ⟨hreason, hat⟩ := ih (s := s.live life) fun other hmem =>
      h other (List.mem_cons_of_mem _ hmem)
    obtain ⟨hdown, hdownAt⟩ := drainReason_shutdown enabled ((s.startup enabled).serve life)
    obtain ⟨hserve, hserveAt⟩ :=
      drainReason_serve (s := s.startup enabled) (h life List.mem_cons_self)
    obtain ⟨hup, hupAt⟩ := drainReason_startup enabled s
    exact ⟨hreason.trans (hdown.trans (hserve.trans hup)),
      hat.trans (hdownAt.trans (hserveAt.trans hupAt))⟩

/-- With a consumer a startup after a life marks the dependencies while the process still
counts as stopping, so they end draining. -/
theorem redisStatus_startup_of_stopping (h : s.status = .stopping) :
    (s.startup true).redisStatus = .draining := by
  have hs : s.startup true =
      ((s.beginStartup true).markDatabaseHealthy.markRedisHealthy).markRunning := rfl
  have hstatus : (s.beginStartup true).markDatabaseHealthy.status = .stopping := h
  rw [hs, markRunning_eq]
  change healthyDependencyStatus (s.beginStartup true).markDatabaseHealthy = _
  unfold healthyDependencyStatus
  rw [if_pos (Or.inr hstatus)]

/-- A restart is like a first start exactly when it is one, or when there is no consumer and
no earlier life was drained. -/
theorem restartsFresh_iff :
    RestartsFresh startedAt lives ↔
      lives = [] ∨ enabled = false ∧ ∀ life ∈ lives, ¬Drains life := by
  constructor
  · intro hfresh
    by_cases hnil : lives = []
    · exact Or.inl hnil
    · have hstop : (history startedAt lives).status = .stopping := status_history_of_ne_nil hnil
      right
      cases enabled with
      | true =>
        have hredis := congrArg LifecycleSnapshot.redisStatus (hfresh 0)
        change ((history startedAt lives).startup true).redisStatus = .ok at hredis
        rw [redisStatus_startup_of_stopping hstop] at hredis
        exact absurd hredis nofun
      | false =>
        refine ⟨rfl, fun life hlife hdrains => ?_⟩
        have hreason := congrArg LifecycleSnapshot.drainReason (hfresh 0)
        change ((history startedAt lives).startup false).drainReason = none at hreason
        rw [(drainReason_startup false _).1] at hreason
        have hsome : (history startedAt lives).drainReason.isSome :=
          drainReason_lives nofun (Or.inr ⟨life, hlife, hdrains⟩)
        rw [hreason] at hsome
        exact absurd hsome nofun
  · rintro (rfl | ⟨rfl, hnone⟩) freshAt
    · cases enabled <;> rfl
    · have huntracked : (history startedAt lives).Untracked := untracked_lives ⟨rfl, rfl⟩ lives
      obtain ⟨hredis, hdatabase⟩ := untracked_startup huntracked
      obtain ⟨hreason, hat⟩ := undrained_lives (s := new startedAt) hnone
      obtain ⟨hup, hupAt⟩ := drainReason_startup false (history startedAt lives)
      have hstatus : ((history startedAt lives).startup false).status = .running :=
        status_startup status_history
      have hnew : ((new freshAt).startup false).snapshot =
          ⟨.running, .disabled, .disabled, freshAt, none, none⟩ := rfl
      rw [hnew, snapshot, hstatus, hredis, hdatabase, hup, hupAt, history, hreason, hat]
      rfl

/-- With a consumer the second startup of one process ends with draining dependencies. -/
theorem second_life_not_fresh :
    ¬∀ (enabled : Bool) (startedAt : Moment) (lives : List (List (LifeEvent enabled))),
      RestartsFresh startedAt lives := by
  intro h
  exact absurd (congrArg LifecycleSnapshot.ready (h true 0 [[]] 0)) (by decide)

end LifecycleState

end LiveData.Platform

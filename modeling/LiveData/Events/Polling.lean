import LiveData.Events.NoEventLost

/-!
# Polls without interruption

With Redis and PostgreSQL reachable a poll of one loop runs from its first read to its
result. What it leaves of the stream, the table and the results is stated once here.
-/

namespace LiveData.Events

open Json

variable {F : Type} {n : Nat}

namespace System

/-- The next step of a loop when no service fails. -/
def advance (p : Pipeline F) (s : System F n) (i : Fin n) : System F n :=
  match s.loops i with
  | .idle => s.readPending p i
  | .readingNew => s.readNew p i
  | .read messages => s.ackInvalid p i messages
  | .invalidAcked messages ackedCount =>
    (s.storeCommit p i messages ackedCount).getD (s.storeFail p i messages ackedCount)
  | .stored messages ackedCount insertedCount => s.ackValid p i messages ackedCount insertedCount

/-- The next step of a poll that has not returned. -/
def proceed (p : Pipeline F) (i : Fin n) (s : System F n) : System F n :=
  match s.loops i with
  | .idle => s
  | _ => s.advance p i

/-- `poll_once`: one read, and at most four more steps until it returns. -/
def pollOnce (p : Pipeline F) (i : Fin n) (s : System F n) : System F n :=
  (proceed p i)^[4] (s.advance p i)

/-- What `read_batch` returns. -/
def nextBatch (p : Pipeline F) (s : System F n) : Except ReadError (List (StreamMessage F)) :=
  readBatch p.decoder (groupReply (s.group.readPending StreamEntry.messageId p.batchSize))
    (groupReply (s.group.newEntries p.batchSize))

end System

/-- Every accepted event of a batch has a row in the domain of the table. -/
def RowsInDomain (p : Pipeline F) (messages : List (StreamMessage F)) : Prop :=
  ∀ event ∈ (classify p.pydantic messages).validEvents,
    (eventToRecordValues event).InDomain p.localZone

variable {p : Pipeline F} {s t : System F n} {i : Fin n} {messages : List (StreamMessage F)}

/-- Advancing is a step of the loop. -/
theorem exists_step_advance (p : Pipeline F) (s : System F n) (i : Fin n) :
    ∃ a : Action n, a.IsPolled ∧ System.step p s a = some (s.advance p i) := by
  cases hi : s.loops i with
  | idle =>
    refine ⟨.readPending i, by rintro _ ⟨⟩, ?_⟩
    simp only [System.step, System.advance, hi]
  | readingNew =>
    refine ⟨.readNew i, by rintro _ ⟨⟩, ?_⟩
    simp only [System.step, System.advance, hi]
  | read messages =>
    refine ⟨.ackInvalid i, by rintro _ ⟨⟩, ?_⟩
    simp only [System.step, System.advance, hi]
  | invalidAcked messages ackedCount =>
    cases hs : s.storeCommit p i messages ackedCount with
    | none =>
      refine ⟨.storeFail i, by rintro _ ⟨⟩, ?_⟩
      simp only [System.step, System.advance, hi, hs, Option.getD_none]
    | some t =>
      refine ⟨.storeCommit i, by rintro _ ⟨⟩, ?_⟩
      simp only [System.step, System.advance, hi, hs, Option.getD_some]
  | stored messages ackedCount insertedCount =>
    refine ⟨.ackValid i, by rintro _ ⟨⟩, ?_⟩
    simp only [System.step, System.advance, hi]

theorem System.Reachable.advance (h : s.Reachable p) (i : Fin n) : (s.advance p i).Reachable p := by
  obtain ⟨actions, hr⟩ := h
  obtain ⟨a, -, ha⟩ := exists_step_advance p s i
  exact ⟨actions ++ [a], run_append_eq_some.mpr ⟨s, hr, run_cons_eq_some.mpr ⟨_, ha, rfl⟩⟩⟩

theorem System.Reachable.proceed (h : s.Reachable p) (i : Fin n) : (s.proceed p i).Reachable p := by
  unfold System.proceed
  split
  · exact h
  · exact h.advance i

/-- A poll is a run of the system. -/
theorem System.Reachable.pollOnce (h : s.Reachable p) (i : Fin n) :
    (s.pollOnce p i).Reachable p :=
  ((((h.advance i).proceed i).proceed i).proceed i).proceed i

theorem proceed_of_idle (hi : s.loops i = .idle) : s.proceed p i = s := by
  simp only [System.proceed, hi]

theorem iterate_proceed_of_idle (hi : s.loops i = .idle) (k : Nat) :
    (System.proceed p i)^[k] s = s := Function.iterate_fixed (proceed_of_idle hi) k

theorem proceed_of_ne_idle (hi : s.loops i ≠ .idle) : s.proceed p i = s.advance p i := by
  unfold System.proceed
  split
  · next h => exact absurd h hi
  · rfl

theorem proceed_of_read (hi : s.loops i = .read messages) :
    s.proceed p i = s.ackInvalid p i messages := by simp only [System.proceed, System.advance, hi]

theorem proceed_of_invalidAcked {ackedCount : Nat}
    (hi : s.loops i = .invalidAcked messages ackedCount) : s.proceed p i = s.advance p i :=
  proceed_of_ne_idle (by rw [hi]; exact nofun)

theorem proceed_of_stored {ackedCount insertedCount : Nat}
    (hi : s.loops i = .stored messages ackedCount insertedCount) :
    s.proceed p i = s.ackValid p i messages ackedCount insertedCount := by
  simp only [System.proceed, System.advance, hi]

/-- What the rest of a poll does with the batch it has read: it acknowledges some rejected
ids at once and the accepted ones when they could be stored. -/
structure Settles (p : Pipeline F) (i : Fin n) (messages : List (StreamMessage F))
    (rejected : List Str) (s t : System F n) : Prop where
  idle : t.loops i = .idle
  log : t.group = { s.group with pending := t.group.pending, acked := t.group.acked }
  pending : ∀ id, id ∈ t.group.pending ↔ (id ∈ s.group.pending ∧ id ∉ rejected) ∧
    (RowsInDomain p messages → id ∉ (classify p.pydantic messages).validMessageIds)
  result : ∃ r, t.results = s.results ++ [r] ∧ (r.storeFailed = false ↔ RowsInDomain p messages)
  table : ¬RowsInDomain p messages → t.table = s.table

/-- Without accepted events there are no ids of accepted messages. -/
theorem validMessageIds_of_validEvents (h : (classify p.pydantic messages).validEvents = []) :
    (classify p.pydantic messages).validMessageIds = [] := by
  apply List.eq_nil_iff_forall_not_mem.mpr
  intro id hid
  obtain ⟨m, hm, hc, -⟩ := mem_validMessageIds.mp hid
  obtain ⟨event, he⟩ := Option.isSome_iff_exists.mp hc
  have hmem := mem_validEvents.mpr ⟨m, hm, he⟩
  simp [h] at hmem

/-- A batch without accepted events is settled by one acknowledgement. -/
theorem settles_ackInvalid (hv : (classify p.pydantic messages).validEvents = []) :
    Settles p i messages (classify p.pydantic messages).invalidMessageIds s
      (s.ackInvalid p i messages) := by
  have hrows : RowsInDomain p messages := by
    intro event he
    simp [hv] at he
  have hids := validMessageIds_of_validEvents hv
  simp only [System.ackInvalid, if_pos hv]
  refine ⟨Function.update_self .., rfl, fun id => ?_, ⟨_, rfl, by simp [hrows]⟩,
    fun h => absurd hrows h⟩
  rw [hids]
  simpa [System.finish, System.enter] using
    ConsumerGroup.mem_pending_ack (g := s.group) (i := id)

/-- Rows in the domain are committed. -/
theorem advance_of_rowsInDomain {ackedCount : Nat}
    (hi : s.loops i = .invalidAcked messages ackedCount) (hrows : RowsInDomain p messages) :
    ∃ insertedCount, (s.advance p i).loops i = .stored messages ackedCount insertedCount ∧
      (s.advance p i).group = s.group ∧ (s.advance p i).results = s.results := by
  simp only [System.advance, hi, System.storeCommit, ingest_of_inDomain s.table hrows,
    Option.map_some, Option.getD_some]
  exact ⟨_, Function.update_self .., rfl, rfl⟩

/-- One row outside the domain ends the poll. -/
theorem advance_of_not_rowsInDomain {ackedCount : Nat}
    (hi : s.loops i = .invalidAcked messages ackedCount) (hrows : ¬RowsInDomain p messages) :
    s.advance p i = s.storeFail p i messages ackedCount := by
  simp only [System.advance, hi, System.storeCommit, ingest_of_not_inDomain s.table hrows,
    Option.map_none, Option.getD_none]

/-- Two steps settle the accepted messages of a batch. -/
theorem settles_invalidAcked {ackedCount : Nat}
    (hi : s.loops i = .invalidAcked messages ackedCount) :
    Settles p i messages [] s ((s.proceed p i).proceed p i) := by
  rw [proceed_of_invalidAcked hi]
  by_cases hrows : RowsInDomain p messages
  · obtain ⟨insertedCount, hstored, hgroup, hresults⟩ := advance_of_rowsInDomain hi hrows
    rw [proceed_of_stored hstored]
    have hacked : (System.ackValid p (s.advance p i) i messages ackedCount insertedCount).group =
        s.group.ack (classify p.pydantic messages).validMessageIds := by
      rw [← hgroup]
      rfl
    refine ⟨Function.update_self .., by rw [hacked]; rfl,
      fun id => ?_, ⟨_, congrArg (· ++ _) hresults, by simp [hrows]⟩, fun h => absurd hrows h⟩
    rw [hacked, ConsumerGroup.mem_pending_ack]
    simp [hrows]
  · rw [advance_of_not_rowsInDomain hi hrows, proceed_of_idle (Function.update_self ..)]
    exact ⟨Function.update_self .., rfl, fun id => by
      simp [hrows, System.storeFail, System.finish, System.enter], ⟨_, rfl, by simp [hrows]⟩,
      fun _ => rfl⟩

/-- Three steps settle a batch that was read. -/
theorem settles_read (hi : s.loops i = .read messages) :
    Settles p i messages (classify p.pydantic messages).invalidMessageIds s
      ((System.proceed p i)^[3] s) := by
  change Settles p i messages _ s (((s.proceed p i).proceed p i).proceed p i)
  rw [proceed_of_read hi]
  by_cases hv : (classify p.pydantic messages).validEvents = []
  · have hdone := settles_ackInvalid (s := s) (i := i) hv
    rwa [proceed_of_idle hdone.idle, proceed_of_idle hdone.idle]
  · have hacked : (s.ackInvalid p i messages).loops i = .invalidAcked messages
        (s.group.ackable (classify p.pydantic messages).invalidMessageIds).length := by
      simp only [System.ackInvalid, if_neg hv]
      exact Function.update_self ..
    have hgroup : (s.ackInvalid p i messages).group =
        s.group.ack (classify p.pydantic messages).invalidMessageIds := by
      simp only [System.ackInvalid, if_neg hv]
      rfl
    have hrest := settles_invalidAcked (p := p) hacked
    have hresults : (s.ackInvalid p i messages).results = s.results := by
      simp only [System.ackInvalid, if_neg hv]
      rfl
    have htable : (s.ackInvalid p i messages).table = s.table := by
      simp only [System.ackInvalid, if_neg hv]
      rfl
    refine ⟨hrest.idle, by rw [hrest.log, hgroup]; rfl,
      fun id => ?_, hresults ▸ hrest.result, fun h => (hrest.table h).trans htable⟩
    rw [hrest.pending, hgroup, ConsumerGroup.mem_pending_ack]
    simp

/-- A poll with pending entries settles their batch. -/
theorem pollOnce_pending (hi : s.loops i = .idle) (hc : s.group.created = true)
    (hm : messages ≠ []) (hr : readMessages p.decoder
      (groupReply (s.group.readPending StreamEntry.messageId p.batchSize)) = .ok messages) :
    Settles p i messages (classify p.pydantic messages).invalidMessageIds s (s.pollOnce p i) := by
  obtain ⟨m, ms, rfl⟩ := List.exists_cons_of_ne_nil hm
  have hread : s.advance p i = s.enter i (.read (m :: ms)) := by
    simp only [System.advance, hi, System.readPending, if_pos hc, hr]
  have hrest := settles_read (p := p) (s := s.enter i (.read (m :: ms)))
    (Function.update_self ..)
  have hdone : s.pollOnce p i = (System.proceed p i)^[3] (s.enter i (.read (m :: ms))) := by
    rw [System.pollOnce, hread, Function.iterate_succ_apply', proceed_of_idle hrest.idle]
  rw [hdone]
  exact ⟨hrest.idle, hrest.log, hrest.pending, hrest.result, hrest.table⟩

/-- A poll without pending entries settles the batch of new entries. -/
theorem pollOnce_new (hi : s.loops i = .idle) (hc : s.group.created = true)
    (hp : readMessages p.decoder
      (groupReply (s.group.readPending StreamEntry.messageId p.batchSize)) = .ok [])
    (hr : readMessages p.decoder (groupReply (s.group.newEntries p.batchSize)) = .ok messages) :
    Settles p i messages (classify p.pydantic messages).invalidMessageIds
      { s with group := s.group.readNew StreamEntry.messageId p.batchSize } (s.pollOnce p i) := by
  have hfirst : s.advance p i = s.enter i .readingNew := by
    simp only [System.advance, hi, System.readPending, if_pos hc, hp]
  have hsecond : (s.enter i .readingNew).proceed p i = System.enter
      { s.enter i .readingNew with group := s.group.readNew StreamEntry.messageId p.batchSize } i
        (.read messages) := by
    have hnew : (s.enter i .readingNew).loops i = .readingNew := Function.update_self ..
    simp only [System.proceed, System.advance, hnew, System.readNew]
    rw [show (s.enter i .readingNew).group = s.group from rfl, hr]
  have hrest := settles_read (p := p) (s := System.enter
    { s.enter i .readingNew with group := s.group.readNew StreamEntry.messageId p.batchSize } i
      (.read messages)) (Function.update_self ..)
  rw [System.pollOnce, hfirst, Function.iterate_succ_apply, hsecond]
  exact ⟨hrest.idle, hrest.log, hrest.pending, hrest.result, hrest.table⟩

end LiveData.Events

import LiveData.Events.FirstWrite

/-!
# Acknowledged exactly once

As long as Redis redelivers nothing by itself, every delivered entry is pending or
acknowledged and counted once, however many loops share the consumer. The counts the polls
report then add up to what was acknowledged.
-/

namespace LiveData.Events

open Json

variable {F : Type} {n : Nat} {p : Pipeline F} {s t : System F n}

/-- What a step can do to the group. -/
inductive GroupStep (p : Pipeline F) (g : EventGroup) : Action n → EventGroup → Prop
  | append (entry : StreamEntry) : GroupStep p g (.produce entry) (g.append entry)
  | redeliver (messageId : Str) : GroupStep p g (.redeliver messageId) (g.redeliver messageId)
  | create (a : Action n) : GroupStep p g a g.create
  | stay (a : Action n) : GroupStep p g a g
  | readNew (a : Action n) : GroupStep p g a (g.readNew StreamEntry.messageId p.batchSize)
  | ack (a : Action n) (ids : List Str) : GroupStep p g a (g.ack ids)

/-- Every step does one of these to the group. -/
theorem groupStep_of_step {a : Action n} (h : System.step p s a = some t) :
    GroupStep p s.group a t.group := by
  cases turn_of_step h with
  | append entry hg _ => exact hg ▸ .append entry
  | redeliver messageId hg => exact hg ▸ .redeliver messageId
  | stay _ hg _ => exact hg.elim (fun hg => hg ▸ .stay a) fun hg => hg ▸ .create a
  | readNothing _ hg _ => exact hg ▸ .stay a
  | readNew _ i _ hg _ => exact hg ▸ .readNew a
  | ack _ i ids hg _ => exact hg ▸ .ack a ids
  | leave _ i hg _ => exact hg ▸ .stay a

/-- Every step but a redelivery keeps the delivered entries partitioned. -/
theorem partitioned_step (h : s.group.Partitioned StreamEntry.messageId) {a : Action n}
    (ha : a.IsPolled) (hs : System.step p s a = some t) :
    t.group.Partitioned StreamEntry.messageId := by
  have hg := groupStep_of_step hs
  generalize t.group = g at hg ⊢
  cases hg with
  | append entry => exact h.append entry
  | redeliver messageId => exact absurd rfl (ha messageId)
  | create => exact h.create
  | stay => exact h
  | readNew => exact h.readNew _
  | ack _ ids => exact h.ack ids

/-- What a poll has acknowledged and not yet reported. -/
def Phase.unreportedAcks : Phase F → Nat
  | .invalidAcked _ ackedCount => ackedCount
  | .stored _ ackedCount _ => ackedCount
  | _ => 0

/-- Before the accepted messages are acknowledged a poll has counted rejected ones only. -/
def Phase.AcksBounded (pydantic : Pydantic F) : Phase F → Prop
  | .invalidAcked messages ackedCount =>
    ackedCount ≤ (classify pydantic messages).invalidMessageIds.length
  | .stored messages ackedCount _ =>
    ackedCount ≤ (classify pydantic messages).invalidMessageIds.length
  | _ => True

/-- What the polls in flight have acknowledged. -/
def System.inFlightAcks (loops : Fin n → Phase F) : Nat := ∑ i, (loops i).unreportedAcks

/-- What the polls have reported as acknowledged. -/
def System.reportedAcks (s : System F n) : Nat := (s.results.map PollResult.ackedCount).sum

theorem inFlightAcks_update (loops : Fin n → Phase F) (i : Fin n) (phase : Phase F) :
    System.inFlightAcks (Function.update loops i phase) + (loops i).unreportedAcks =
      System.inFlightAcks loops + phase.unreportedAcks :=
  sum_update_loops Phase.unreportedAcks loops i phase

/-- The invariant of the acknowledged counts. -/
structure System.AcksCounted (p : Pipeline F) (s : System F n) : Prop where
  reported : ∀ r ∈ s.results, r.ackedCount ≤ r.validCount + r.invalidCount
  bounded : ∀ i, (s.loops i).AcksBounded p.pydantic
  total : s.aborted = 0 → s.group.acked.length = s.reportedAcks + System.inFlightAcks s.loops

/-- A loop that moves within its bounds keeps the bounds of all loops. -/
theorem acksBounded_update (h : ∀ i, (s.loops i).AcksBounded p.pydantic) (i : Fin n)
    {phase : Phase F} (hp : phase.AcksBounded p.pydantic) :
    ∀ j, (Function.update s.loops i phase j).AcksBounded p.pydantic :=
  (Function.forall_update_iff s.loops fun _ => Phase.AcksBounded p.pydantic).mpr
    ⟨hp, fun j _ => h j⟩

/-- A loop that moves on carries what it has acknowledged so far. -/
theorem System.AcksCounted.enter (hs : s.AcksCounted p) (i : Fin n) {phase : Phase F}
    (hp : phase.AcksBounded p.pydantic) {g : EventGroup}
    (hg : g.acked.length + (s.loops i).unreportedAcks =
      s.group.acked.length + phase.unreportedAcks) :
    (System.enter { s with group := g } i phase).AcksCounted p where
  reported := hs.reported
  bounded := acksBounded_update hs.bounded i hp
  total := by
    intro ha
    have hsum := inFlightAcks_update s.loops i phase
    have htotal := hs.total ha
    change g.acked.length = s.reportedAcks + System.inFlightAcks (Function.update s.loops i phase)
    omega

/-- A poll that returns reports what it has acknowledged. -/
theorem System.AcksCounted.finish (hs : s.AcksCounted p) (i : Fin n) {result : PollResult}
    (hr : result.ackedCount ≤ result.validCount + result.invalidCount) {g : EventGroup}
    (hg : g.acked.length + (s.loops i).unreportedAcks =
      s.group.acked.length + result.ackedCount) :
    (System.finish { s with group := g } i result).AcksCounted p where
  reported := by
    intro r hm
    rcases List.mem_append.mp hm with hm | hm
    · exact hs.reported r hm
    · obtain rfl := List.mem_singleton.mp hm
      exact hr
  bounded := acksBounded_update hs.bounded i trivial
  total := by
    intro ha
    have hsum := inFlightAcks_update s.loops i .idle
    have hidle : (Phase.idle : Phase F).unreportedAcks = 0 := rfl
    have htotal := hs.total ha
    have hreported : (System.finish { s with group := g } i result).reportedAcks =
        s.reportedAcks + result.ackedCount := by
      simp [System.finish, System.enter, System.reportedAcks]
    rw [hreported]
    change g.acked.length = _ + System.inFlightAcks (Function.update s.loops i .idle)
    omega

/-- A loop has counted no more acknowledgements than its phase allows. -/
theorem System.AcksCounted.bounded_of_eq (hs : s.AcksCounted p) {i : Fin n} {phase : Phase F}
    (hi : s.loops i = phase) : phase.AcksBounded p.pydantic := by
  rw [← hi]
  exact hs.bounded i

/-- There is an id for every accepted event. -/
theorem length_validMessageIds (pydantic : Pydantic F) (messages : List (StreamMessage F)) :
    (classify pydantic messages).validMessageIds.length =
      (classify pydantic messages).validEvents.length := by
  induction messages with
  | nil => rfl
  | cons m messages ih =>
    rw [classify]
    cases coercePayload pydantic m.payload with
    | none => exact ih
    | some event => exact congrArg (· + 1) ih

theorem length_acked_ack (g : EventGroup) (ids : List Str) :
    (g.ack ids).acked.length = g.acked.length + (g.ackable ids).length := List.length_append

/-- Every effect keeps the counts, as long as no id is pending twice. -/
theorem Effect.acksCounted (h : Effect p s t) (hp : s.group.pending.Nodup)
    (hs : s.AcksCounted p) : t.AcksCounted p := by
  cases h with
  | produce entry hf => exact ⟨hs.reported, hs.bounded, hs.total⟩
  | regroup g hg => exact ⟨hs.reported, hs.bounded, hg.acked ▸ hs.total⟩
  | abandon i g hg =>
    refine ⟨hs.reported, acksBounded_update hs.bounded i trivial, fun ha => ?_⟩
    exact absurd ha (Nat.succ_ne_zero _)
  | readNothing i hi =>
    exact hs.enter i (show Phase.AcksBounded p.pydantic .readingNew from trivial) (by rw [hi]; rfl)
  | read i g hg messages hm hi =>
    refine hs.enter i (show Phase.AcksBounded p.pydantic (.read messages) from trivial) ?_
    rw [hg.acked]
    rcases hi with hi | hi <;> rw [hi] <;> rfl
  | ackInvalid i messages hi =>
    have hold : (s.loops i).unreportedAcks = 0 := by rw [hi]; rfl
    have hcount := length_acked_ack s.group (classify p.pydantic messages).invalidMessageIds
    have hbound :=
      ConsumerGroup.length_ackable_le hp (classify p.pydantic messages).invalidMessageIds
    unfold System.ackInvalid
    dsimp only
    split
    · exact hs.finish i (Nat.le_trans hbound (Nat.le_add_left _ _)) (by rw [hold, hcount]; rfl)
    · refine hs.enter i (show Phase.AcksBounded p.pydantic (.invalidAcked messages _) from hbound)
        ?_
      rw [hold, hcount]
      rfl
  | storeCommit i messages ackedCount hi hd =>
    have hbound := hs.bounded_of_eq hi
    have hacks : s.group.acked.length + (s.loops i).unreportedAcks =
        s.group.acked.length + ackedCount := by rw [hi]; rfl
    have hentered := hs.enter i (show Phase.AcksBounded p.pydantic (.stored messages ackedCount
      (insertEvents s.table (classify p.pydantic messages).validEvents).2.length) from hbound) hacks
    exact ⟨hentered.reported, hentered.bounded, hentered.total⟩
  | storeFail i messages ackedCount hi =>
    have hbound : ackedCount ≤ _ := hs.bounded_of_eq hi
    exact hs.finish i (Nat.le_trans hbound (Nat.le_add_left _ _)) (by rw [hi]; rfl)
  | storeUnconfirmed i messages ackedCount hi hd =>
    have hbound : ackedCount ≤ _ := hs.bounded_of_eq hi
    have hfailed : (s.storeFail p i messages ackedCount).AcksCounted p :=
      hs.finish i (Nat.le_trans hbound (Nat.le_add_left _ _)) (by rw [hi]; rfl)
    exact ⟨hfailed.reported, hfailed.bounded, hfailed.total⟩
  | ackValid i messages ackedCount insertedCount hi =>
    have hbound : ackedCount ≤ _ := hs.bounded_of_eq hi
    have hvalid := ConsumerGroup.length_ackable_le hp (classify p.pydantic messages).validMessageIds
    have hlen := length_validMessageIds p.pydantic messages
    have hcount := length_acked_ack s.group (classify p.pydantic messages).validMessageIds
    refine hs.finish i ?_ ?_
    · dsimp only
      omega
    · rw [hi, hcount]
      dsimp only [Phase.unreportedAcks]
      omega

/-- The invariant of a run without redelivery. -/
structure System.Audited (p : Pipeline F) (s : System F n) : Prop where
  safe : s.Safe p
  partitioned : s.group.Partitioned StreamEntry.messageId
  counted : s.AcksCounted p

theorem System.Audited.nodup (hs : s.Audited p) : (s.group.pending ++ s.group.acked).Nodup :=
  hs.partitioned.nodup hs.safe.distinct

/-- Every step without redelivery keeps the invariant. -/
theorem audited_step (hs : s.Audited p) {a : Action n} (ha : a.IsPolled)
    (h : System.step p s a = some t) : t.Audited p where
  safe := (effect_of_step h).safe hs.safe
  partitioned := partitioned_step hs.partitioned ha h
  counted := (effect_of_step h).acksCounted hs.nodup.of_append_left hs.counted

theorem audited_init (p : Pipeline F) (n : Nat) : (System.init F n).Audited p where
  safe := System.Reachable.safe ⟨[], rfl⟩
  partitioned := .empty _
  counted := by
    refine ⟨by simp [System.init], fun _ => trivial, fun _ => ?_⟩
    simp [System.init, ConsumerGroup.empty, System.reportedAcks, System.inFlightAcks,
      Phase.unreportedAcks]

/-- The invariant holds along every run without redelivery. -/
theorem audited_of_run {actions : List (Action n)} (hpolled : ∀ a ∈ actions, a.IsPolled)
    (hr : run (System.step p) (System.init F n) actions = some s) : s.Audited p := by
  refine invariant_of_run_of_forall
    (fun _ a _ h (ha : a.IsPolled) hs => audited_step h ha hs) (audited_init p n) ?_ hr
  rintro before a after t rfl _
  exact hpolled a (by simp)

/-- With all loops idle nothing is in flight. -/
theorem inFlightAcks_of_idle {loops : Fin n → Phase F} (h : ∀ i, loops i = .idle) :
    System.inFlightAcks loops = 0 :=
  Finset.sum_eq_zero fun i _ => by rw [h i]; rfl

/-- Over any number of loops every delivered entry is pending or acknowledged, once; no poll
counts more acknowledgements than it read messages, and the counts of polls that all returned
make up, with what is pending, all that was delivered. -/
theorem acknowledged_exactly_once (p : Pipeline F) (actions : List (Action n)) (s : System F n)
    (hpolled : ∀ a ∈ actions, a.IsPolled)
    (hr : run (System.step p) (System.init F n) actions = some s) :
    (s.group.pending ++ s.group.acked).Perm
        ((s.group.entries.take s.group.delivered).map StreamEntry.messageId) ∧
      (s.group.pending ++ s.group.acked).Nodup ∧
      (∀ r ∈ s.results, r.ackedCount ≤ r.readCount) ∧
      (s.aborted = 0 → (∀ i, s.loops i = .idle) →
        (s.results.map PollResult.ackedCount).sum + s.group.pending.length =
          s.group.delivered) := by
  have hs := audited_of_run hpolled hr
  have hcounted := System.Reachable.counted ⟨actions, hr⟩
  refine ⟨hs.partitioned.perm, hs.nodup, fun r hm => ?_, fun ha hidle => ?_⟩
  · rw [(hcounted.consistent r hm).1]
    exact hs.counted.reported r hm
  · have htotal := hs.counted.total ha
    have hlen := hs.partitioned.perm.length_eq
    rw [List.length_append, List.length_map,
      List.length_take_of_le hs.partitioned.delivered_le] at hlen
    rw [inFlightAcks_of_idle hidle] at htotal
    change s.reportedAcks + _ = _
    omega

/-- In the shared run both loops read the same three entries and acknowledge them once. -/
theorem shared_acknowledged_once :
    (sharedState.group.pending ++ sharedState.group.acked).Perm
        ((sharedState.group.entries.take sharedState.group.delivered).map
          StreamEntry.messageId) ∧
      (sharedState.group.pending ++ sharedState.group.acked).Nodup ∧
      (∀ r ∈ sharedState.results, r.ackedCount ≤ r.readCount) ∧
      (sharedState.aborted = 0 → (∀ i, sharedState.loops i = .idle) →
        (sharedState.results.map PollResult.ackedCount).sum + sharedState.group.pending.length =
          sharedState.group.delivered) :=
  acknowledged_exactly_once exactPipeline sharedRun sharedState
    (by
      intro a ha messageId he
      subst he
      simp [sharedRun] at ha)
    (run_eq_some_getD (by decide +kernel) _)

end LiveData.Events

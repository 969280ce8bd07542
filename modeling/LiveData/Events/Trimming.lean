import LiveData.Events.Accounting

/-!
# A stream of bounded length

The producers cap the stream at a length, and Redis drops its oldest entries. As long as the
consumer has finished everything older than that length, the loops behave as they do on a
stream that keeps all of its entries.
-/

namespace LiveData.Events

variable {F : Type} {n : Nat} {p : Pipeline F}

/-- A pending entry that was trimmed is read again without fields. -/
def StreamEntry.tombstone (entry : StreamEntry) : StreamEntry := { entry with fields := [] }

/-- The system on a stream of bounded length, and what was trimmed so far. -/
structure Bounded (F : Type) (n : Nat) where
  trimmed : List StreamEntry
  system : System F n

/-- The actions of the system, and the trimming that comes with `XADD`. -/
inductive BoundedAction (n : Nat) where
  | act (a : Action n)
  | trim (count : Nat)

/-- The action of the system, if it is one. -/
def BoundedAction.act? : BoundedAction n → Option (Action n)
  | .act a => some a
  | .trim _ => none

/-- Redis never reuses an id, also of a trimmed entry. -/
def Bounded.Fresh (b : Bounded F n) : Action n → Prop
  | .produce entry => entry.messageId ∉ b.trimmed.map StreamEntry.messageId
  | _ => True

instance (b : Bounded F n) (a : Action n) : Decidable (b.Fresh a) := by
  cases a <;> unfold Bounded.Fresh <;> infer_instance

/-- One step; `maxlen` is `EVENT_STREAM_MAXLEN`. `MAXLEN ~` may leave more than the newest
`maxlen` entries and never fewer. -/
def Bounded.step (p : Pipeline F) (maxlen : Nat) (b : Bounded F n) :
    BoundedAction n → Option (Bounded F n)
  | .act a =>
    if b.Fresh a then (b.system.step p a).map fun t => { b with system := t } else none
  | .trim count =>
    if count + maxlen ≤ b.system.group.entries.length then
      some
        { trimmed := b.trimmed ++ b.system.group.entries.take count
          system :=
            { b.system with
              group := b.system.group.trim StreamEntry.messageId StreamEntry.tombstone count } }
    else none

/-- Nothing has happened yet. -/
def Bounded.init (F : Type) (n : Nat) : Bounded F n := ⟨[], System.init F n⟩

/-- The same state on a stream that keeps the given entries in front. -/
def System.prepend (removed : List StreamEntry) (s : System F n) : System F n :=
  { s with group := s.group.prepend removed }

/-- The state on the stream with everything that was trimmed. -/
def Bounded.untrim (b : Bounded F n) : System F n := b.system.prepend b.trimmed

/-- The consumer has finished everything but the newest `maxlen` entries. -/
def Bounded.KeepsUp (maxlen : Nat) (b : Bounded F n) : Prop :=
  b.system.group.entries.length - maxlen ≤ b.system.group.delivered ∧
    ∀ entry ∈ b.system.group.entries.take (b.system.group.entries.length - maxlen),
      entry.messageId ∉ b.system.group.pending

variable {s t : System F n} {removed : List StreamEntry}

/-! ## Every step commutes with putting the trimmed entries back -/

theorem readPending_prepend (h : ∀ entry ∈ removed, entry.messageId ∉ s.group.pending)
    (i : Fin n) : (s.prepend removed).readPending p i = (s.readPending p i).prepend removed := by
  have hread : (s.prepend removed).group.readPending StreamEntry.messageId p.batchSize =
      s.group.readPending StreamEntry.messageId p.batchSize :=
    ConsumerGroup.readPending_prepend h p.batchSize
  have hcreated : (s.prepend removed).group.created = s.group.created := rfl
  unfold System.readPending
  rw [hread, hcreated]
  split
  · split <;> rfl
  · rfl

theorem readNew_prepend (i : Fin n) :
    (s.prepend removed).readNew p i = (s.readNew p i).prepend removed := by
  have hnew : (s.prepend removed).group.newEntries p.batchSize =
      s.group.newEntries p.batchSize := ConsumerGroup.newEntries_prepend removed _ _
  have hread : (s.prepend removed).group.readNew StreamEntry.messageId p.batchSize =
      (s.group.readNew StreamEntry.messageId p.batchSize).prepend removed :=
    ConsumerGroup.readNew_prepend removed _ _ _
  unfold System.readNew
  dsimp only
  rw [hnew, hread]
  split <;> rfl

theorem ackInvalid_prepend (i : Fin n) (messages : List (StreamMessage F)) :
    (s.prepend removed).ackInvalid p i messages = (s.ackInvalid p i messages).prepend removed := by
  unfold System.ackInvalid
  dsimp only
  split <;> rfl

theorem storeUnconfirmed_prepend (i : Fin n) (messages : List (StreamMessage F))
    (ackedCount : Nat) : (s.prepend removed).storeUnconfirmed p i messages ackedCount =
      (s.storeUnconfirmed p i messages ackedCount).map (System.prepend removed) := by
  unfold System.storeUnconfirmed
  rw [Option.map_map]
  rfl

theorem storeCommit_prepend (i : Fin n) (messages : List (StreamMessage F)) (ackedCount : Nat) :
    (s.prepend removed).storeCommit p i messages ackedCount =
      (s.storeCommit p i messages ackedCount).map (System.prepend removed) := by
  unfold System.storeCommit
  rw [Option.map_map]
  rfl

/-- A step of the trimmed system is one of the whole system, as long as no trimmed entry is
pending and no new entry takes the id of a trimmed one. -/
theorem step_prepend (h : ∀ entry ∈ removed, entry.messageId ∉ s.group.pending) {a : Action n}
    (hfresh : ∀ entry, a = .produce entry →
      entry.messageId ∉ removed.map StreamEntry.messageId)
    (hs : System.step p s a = some t) :
    System.step p (s.prepend removed) a = some (t.prepend removed) := by
  cases a with
  | produce entry =>
    obtain ⟨hnew, rfl⟩ := System.step_produce.mp hs
    refine System.step_produce.mpr ⟨?_, ?_⟩
    · change entry.messageId ∉ (removed ++ s.group.entries).map StreamEntry.messageId
      rw [List.map_append, List.mem_append]
      exact not_or_intro (hfresh entry rfl) hnew
    · simp only [System.prepend, ConsumerGroup.append_prepend]
  | redeliver messageId =>
    obtain ⟨hd, rfl⟩ := System.step_redeliver.mp hs
    refine System.step_redeliver.mpr ⟨?_, rfl⟩
    change messageId ∈ ((removed ++ s.group.entries).take
      (removed.length + s.group.delivered)).map StreamEntry.messageId
    rw [List.take_length_add_append, List.map_append]
    exact List.mem_append_right _ hd
  | ensureGroup i =>
    obtain ⟨hi, rfl⟩ := System.step_ensureGroup.mp hs
    exact System.step_ensureGroup.mpr ⟨hi, rfl⟩
  | readPending i =>
    obtain ⟨hi, rfl⟩ := System.step_readPending.mp hs
    exact System.step_readPending.mpr ⟨hi, (readPending_prepend h i).symm⟩
  | readNew i =>
    obtain ⟨hi, rfl⟩ := System.step_readNew.mp hs
    exact System.step_readNew.mpr ⟨hi, (readNew_prepend i).symm⟩
  | ackInvalid i =>
    obtain ⟨messages, hi, rfl⟩ := System.step_ackInvalid.mp hs
    exact System.step_ackInvalid.mpr ⟨messages, hi, (ackInvalid_prepend i messages).symm⟩
  | storeCommit i =>
    obtain ⟨messages, ackedCount, hi, hstore⟩ := System.step_storeCommit.mp hs
    refine System.step_storeCommit.mpr ⟨messages, ackedCount, hi, ?_⟩
    rw [storeCommit_prepend, hstore]
    rfl
  | storeFail i =>
    obtain ⟨messages, ackedCount, hi, rfl⟩ := System.step_storeFail.mp hs
    exact System.step_storeFail.mpr ⟨messages, ackedCount, hi, rfl⟩
  | storeUnconfirmed i =>
    obtain ⟨messages, ackedCount, hi, hstore⟩ := System.step_storeUnconfirmed.mp hs
    refine System.step_storeUnconfirmed.mpr ⟨messages, ackedCount, hi, ?_⟩
    rw [storeUnconfirmed_prepend, hstore]
    rfl
  | ackValid i =>
    obtain ⟨messages, ackedCount, insertedCount, hi, rfl⟩ := System.step_ackValid.mp hs
    exact System.step_ackValid.mpr ⟨messages, ackedCount, insertedCount, hi, rfl⟩
  | crash i =>
    refine System.step_crash.mpr ((System.step_crash.mp hs).imp ?_ ?_)
    · rintro ⟨hi, rfl⟩
      exact ⟨hi, rfl⟩
    · rintro ⟨hi, rfl⟩
      exact ⟨hi, rfl⟩

/-! ## Runs -/

/-- Every delivered entry is pending or acknowledged, whatever Redis redelivers. -/
theorem System.Reachable.settled (h : s.Reachable p) :
    s.group.Settled StreamEntry.messageId := by
  obtain ⟨actions, hr⟩ := h
  refine invariant_of_run (I := fun u : System F n => u.group.Settled StreamEntry.messageId)
    (fun u a v hu hs => ?_) (.empty _) hr
  have hg := groupStep_of_step hs
  generalize v.group = g at hg ⊢
  cases hg with
  | append entry => exact hu.append entry
  | redeliver messageId => exact hu.redeliver messageId
  | create => exact hu.create
  | stay => exact hu
  | readNew => exact hu.readNew _
  | ack _ ids => exact hu.ack ids

/-- The whole system reaches the state, and nothing that was trimmed is pending. -/
structure Bounded.Clean (p : Pipeline F) (b : Bounded F n) : Prop where
  reachable : b.untrim.Reachable p
  unread : ∀ entry ∈ b.trimmed, entry.messageId ∉ b.system.group.pending

/-- What is trimmed shares no id with what is left. -/
theorem Bounded.Clean.disjoint {b : Bounded F n} (hb : b.Clean p) {entry : StreamEntry}
    (he : entry ∈ b.trimmed) :
    entry.messageId ∉ b.system.group.entries.map StreamEntry.messageId := by
  have hd : ((b.trimmed ++ b.system.group.entries).map StreamEntry.messageId).Nodup :=
    hb.reachable.safe.distinct
  rw [List.map_append] at hd
  exact List.disjoint_of_nodup_append hd (List.mem_map_of_mem he)

/-- A step of the loops or of the producers makes no trimmed entry pending. -/
theorem Bounded.Clean.unread_step {b : Bounded F n} (hb : b.Clean p) {a : Action n}
    (hs : System.step p b.system a = some t) :
    ∀ entry ∈ b.trimmed, entry.messageId ∉ t.group.pending := by
  intro entry he hp
  have hunread := hb.unread entry he
  have hother := hb.disjoint he
  have hg := groupStep_of_step hs
  generalize t.group = g at hg hp
  cases hg with
  | append | create | stay => exact hunread hp
  | redeliver messageId =>
    obtain ⟨hd, -⟩ := System.step_redeliver.mp hs
    have hne : entry.messageId ≠ messageId := by
      rintro rfl
      exact hother (List.map_subset _ (List.take_subset _ _) hd)
    unfold ConsumerGroup.redeliver at hp
    dsimp only at hp
    split at hp
    · exact hunread hp
    · simp [hunread, hne] at hp
  | readNew =>
    rcases List.mem_append.mp hp with hp | hp
    · exact hunread hp
    · obtain ⟨other, ho, hid⟩ := List.mem_map.mp hp
      exact hother (hid ▸ List.mem_map_of_mem (ConsumerGroup.mem_of_mem_newEntries ho))
  | ack _ ids => exact hunread (ConsumerGroup.mem_pending_ack.mp hp).1

/-- A step is a step of the whole system. -/
theorem Bounded.Clean.act {b c : Bounded F n} {maxlen : Nat} (hb : b.Clean p) {a : Action n}
    (hs : b.step p maxlen (.act a) = some c) :
    System.step p b.untrim a = some c.untrim ∧ c.Clean p := by
  obtain ⟨hfresh, hstep⟩ := Option.ite_none_right_eq_some.mp hs
  obtain ⟨t, ht, rfl⟩ := Option.map_eq_some_iff.mp hstep
  have hwhole : System.step p b.untrim a = some (t.prepend b.trimmed) := by
    refine step_prepend hb.unread ?_ ht
    rintro entry rfl
    exact hfresh
  obtain ⟨actions, hr⟩ := hb.reachable
  exact ⟨hwhole, ⟨actions ++ [a], run_append_eq_some.mpr ⟨_, hr,
    run_cons_eq_some.mpr ⟨_, hwhole, rfl⟩⟩⟩, hb.unread_step ht⟩

/-- Trimming what is finished leaves the whole system where it is. -/
theorem Bounded.Clean.trim {b c : Bounded F n} {maxlen count : Nat} (hb : b.Clean p)
    (hk : b.KeepsUp maxlen) (hs : b.step p maxlen (.trim count) = some c) :
    c.untrim = b.untrim ∧ c.Clean p := by
  obtain ⟨hle, hc⟩ := Option.ite_none_right_eq_some.mp hs
  obtain rfl := Option.some.inj hc
  have hsub : ∀ entry ∈ b.system.group.entries.take count,
      entry.messageId ∉ b.system.group.pending := by
    intro entry he
    exact hk.2 entry (List.take_subset_take_left _ (by omega) he)
  have hgroup := ConsumerGroup.prepend_trim StreamEntry.messageId
    StreamEntry.tombstone (Nat.le_trans (Nat.le_add_right _ _) hle)
    (Nat.le_trans (by omega) hk.1) hsub
  have hsame : Bounded.untrim ⟨b.trimmed ++ b.system.group.entries.take count,
      { b.system with
        group := b.system.group.trim StreamEntry.messageId StreamEntry.tombstone count }⟩ =
      b.untrim := by
    unfold Bounded.untrim System.prepend
    rw [← ConsumerGroup.prepend_prepend, hgroup]
  refine ⟨hsame, hsame ▸ hb.reachable, fun entry he => ?_⟩
  exact (List.mem_append.mp he).elim (hb.unread entry) (hsub entry)

/-- A run is a run of the whole system without the trimming, as long as the consumer keeps up
whenever the stream is trimmed. -/
theorem Bounded.Clean.run_untrim {maxlen : Nat} {actions : List (BoundedAction n)}
    {b c : Bounded F n} (hb : b.Clean p) (hr : run (Bounded.step p maxlen) b actions = some c)
    (hk : ∀ before count after d, actions = before ++ .trim count :: after →
      run (Bounded.step p maxlen) b before = some d → d.KeepsUp maxlen) :
    run (System.step p) b.untrim (actions.filterMap BoundedAction.act?) = some c.untrim ∧
      c.Clean p := by
  induction actions generalizing b with
  | nil =>
    obtain rfl := Option.some.inj hr
    exact ⟨rfl, hb⟩
  | cons a actions ih =>
    obtain ⟨d, hd, hlater⟩ := run_cons_eq_some.mp hr
    have hrest : ∀ before count after e, actions = before ++ .trim count :: after →
        run (Bounded.step p maxlen) d before = some e → e.KeepsUp maxlen := by
      rintro before count after e rfl he
      exact hk (a :: before) count after e rfl (run_cons_eq_some.mpr ⟨d, hd, he⟩)
    cases a with
    | act a =>
      obtain ⟨hstep, hclean⟩ := hb.act hd
      obtain ⟨hrun, hend⟩ := ih hclean hlater hrest
      exact ⟨run_cons_eq_some.mpr ⟨_, hstep, hrun⟩, hend⟩
    | trim count =>
      obtain ⟨hsame, hclean⟩ := hb.trim (hk [] count actions b rfl rfl) hd
      obtain ⟨hrun, hend⟩ := ih hclean hlater hrest
      exact ⟨hsame ▸ hrun, hend⟩

theorem Bounded.clean_init (p : Pipeline F) (n : Nat) : (Bounded.init F n).Clean p :=
  ⟨⟨[], rfl⟩, fun _ he => absurd he List.not_mem_nil⟩

/-- Nothing is lost to the length limit as long as the consumer has finished everything but the
newest `maxlen` entries whenever the stream is trimmed: the run is then one of the stream that
keeps all entries, ends in the same table, loops and counts, and every entry that was trimmed
was acknowledged and is rejected or stored. -/
theorem trimming_loses_nothing (p : Pipeline F) (maxlen : Nat)
    (actions : List (BoundedAction n)) (b : Bounded F n)
    (hr : run (Bounded.step p maxlen) (Bounded.init F n) actions = some b)
    (hk : ∀ before count after c, actions = before ++ .trim count :: after →
      run (Bounded.step p maxlen) (Bounded.init F n) before = some c → c.KeepsUp maxlen) :
    run (System.step p) (System.init F n) (actions.filterMap BoundedAction.act?) =
        some b.untrim ∧
      ∀ entry ∈ b.trimmed, entry.messageId ∈ b.system.group.acked ∧
        ∃ payload, decodePayload p.decoder entry.fields = .ok payload ∧
          (coercePayload p.pydantic payload = none ∨
            ∃ event row, coercePayload p.pydantic payload = some event ∧ row ∈ b.system.table ∧
              row.eventId = event.eventId) := by
  obtain ⟨hrun, hclean⟩ := (Bounded.clean_init p n).run_untrim hr hk
  refine ⟨hrun, fun entry he => ?_⟩
  have hmem : entry ∈ b.untrim.group.entries := List.mem_append_left _ he
  have hdelivered : entry ∈ b.untrim.group.entries.take b.untrim.group.delivered := by
    change entry ∈ (b.trimmed ++ b.system.group.entries).take
      (b.trimmed.length + b.system.group.delivered)
    rw [List.take_length_add_append]
    exact List.mem_append_left _ he
  have hacked : entry.messageId ∈ b.system.group.acked :=
    (hclean.reachable.settled.settled entry hdelivered).resolve_left (hclean.unread entry he)
  exact ⟨hacked, hclean.reachable.safe.rejected_or_stored hmem hacked⟩

/-- Two page views are produced and stored. -/
def finishedRun : List (BoundedAction 1) :=
  [.act (.ensureGroup ⟨0, Nat.one_pos⟩),
    .act (.produce (pageViewEntry (str "1-0") (str "evt_1") (str "user_1"))),
    .act (.produce (pageViewEntry (str "2-0") (str "evt_2") (str "user_2"))),
    .act (.readPending ⟨0, Nat.one_pos⟩), .act (.readNew ⟨0, Nat.one_pos⟩),
    .act (.ackInvalid ⟨0, Nat.one_pos⟩), .act (.storeCommit ⟨0, Nat.one_pos⟩),
    .act (.ackValid ⟨0, Nat.one_pos⟩)]

/-- The state after that run. -/
def finishedState : Bounded Str 1 :=
  (run (Bounded.step exactPipeline 1) (Bounded.init Str 1) finishedRun).getD (Bounded.init Str 1)

/-- The state on a stream that keeps one of the entries. -/
def trimmedState : Bounded Str 1 :=
  (run (Bounded.step exactPipeline 1) (Bounded.init Str 1)
    (finishedRun ++ [BoundedAction.trim 1])).getD (Bounded.init Str 1)

theorem finishedState_run :
    run (Bounded.step exactPipeline 1) (Bounded.init Str 1) finishedRun = some finishedState :=
  run_eq_some_getD (by decide +kernel) _

theorem trimmedState_run : run (Bounded.step exactPipeline 1) (Bounded.init Str 1)
    (finishedRun ++ [BoundedAction.trim 1]) = some trimmedState :=
  run_eq_some_getD (by decide +kernel) _

theorem finishedState_keepsUp : finishedState.KeepsUp 1 := by
  unfold Bounded.KeepsUp
  decide +kernel

/-- The only trimming of a run is its last action. -/
theorem eq_of_trim_last {actions before after : List (BoundedAction n)} {count count' : Nat}
    (hnone : ∀ k, BoundedAction.trim k ∉ actions)
    (h : actions ++ [.trim count] = before ++ .trim count' :: after) : before = actions := by
  rcases List.append_eq_append_iff.mp h with ⟨extra, rfl, hextra⟩ | ⟨rest, rfl, hrest⟩
  · rcases List.cons_eq_append_iff.mp hextra with ⟨rfl, -⟩ | ⟨extra, rfl, hnil⟩
    · exact List.append_nil _
    · simp at hnil
  · rcases List.cons_eq_append_iff.mp hrest with ⟨rfl, -⟩ | ⟨rest, rfl, -⟩
    · exact (List.append_nil _).symm
    · exact absurd (by simp) (hnone count')

/-- The trimmed page view was stored before. -/
theorem trimmed_page_view :
    run (System.step exactPipeline) (System.init Str 1)
        ((finishedRun ++ [BoundedAction.trim 1]).filterMap BoundedAction.act?) =
          some trimmedState.untrim ∧
      ∀ entry ∈ trimmedState.trimmed, entry.messageId ∈ trimmedState.system.group.acked ∧
        ∃ payload, decodePayload exactPipeline.decoder entry.fields = .ok payload ∧
          (coercePayload exactPipeline.pydantic payload = none ∨
            ∃ event row, coercePayload exactPipeline.pydantic payload = some event ∧
              row ∈ trimmedState.system.table ∧ row.eventId = event.eventId) := by
  refine trimming_loses_nothing exactPipeline 1 (finishedRun ++ [BoundedAction.trim 1])
    trimmedState trimmedState_run fun before count after c hsplit hc => ?_
  rw [eq_of_trim_last (by simp [finishedRun]) hsplit, finishedState_run] at hc
  obtain rfl := Option.some.inj hc
  exact finishedState_keepsUp

/-- A page view that is trimmed before it is read is lost. -/
example : (run (Bounded.step exactPipeline 1) (Bounded.init Str 1)
    (finishedRun.take 3 ++ BoundedAction.trim 1 :: finishedRun.drop 3)).map
      (fun b => b.system.table.map EventRecord.eventId) = some [str "evt_2"] := by
  decide +kernel

end LiveData.Events

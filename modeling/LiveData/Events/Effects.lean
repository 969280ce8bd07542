import LiveData.Events.Ingestion

/-!
# What one step can do

Every step of the system is one of ten effects, and does one of a few things to the consumer
group. Entries are never removed, and the table is only appended to.
-/

namespace LiveData.Events

open Json

variable {F : Type} {n : Nat}

/-- A message the reader makes of an entry of the stream. -/
def System.Decodes (p : Pipeline F) (s : System F n) (message : StreamMessage F) : Prop :=
  ∃ entry ∈ s.group.entries, decodeEntry p.decoder entry = .ok message

/-- The group differs in what was delivered or is pending only. -/
structure SameLog (g h : EventGroup) : Prop where
  entries : h.entries = g.entries
  acked : h.acked = g.acked

/-- The effects of a step, with what holds when they happen. -/
inductive Effect (p : Pipeline F) (s : System F n) : System F n → Prop
  | produce (entry : StreamEntry)
      (hf : entry.messageId ∉ s.group.entries.map StreamEntry.messageId) :
      Effect p s { s with group := s.group.append entry }
  | regroup (g : EventGroup) (hg : SameLog s.group g) : Effect p s { s with group := g }
  | abandon (i : Fin n) (g : EventGroup) (hg : SameLog s.group g) :
      Effect p s (System.abandon { s with group := g } i)
  | readNothing (i : Fin n) (hi : s.loops i = .idle) : Effect p s (s.enter i .readingNew)
  | read (i : Fin n) (g : EventGroup) (hg : SameLog s.group g) (messages : List (StreamMessage F))
      (hm : ∀ message ∈ messages, s.Decodes p message)
      (hi : s.loops i = .idle ∨ s.loops i = .readingNew) :
      Effect p s (System.enter { s with group := g } i (.read messages))
  | ackInvalid (i : Fin n) (messages : List (StreamMessage F))
      (hi : s.loops i = .read messages) : Effect p s (s.ackInvalid p i messages)
  | storeCommit (i : Fin n) (messages : List (StreamMessage F)) (ackedCount : Nat)
      (hi : s.loops i = .invalidAcked messages ackedCount)
      (hd : ∀ event ∈ (classify p.pydantic messages).validEvents,
        (eventToRecordValues event).InDomain p.localZone) :
      Effect p s
        { s.enter i (.stored messages ackedCount
            (insertEvents s.table (classify p.pydantic messages).validEvents).2.length) with
          table := (insertEvents s.table (classify p.pydantic messages).validEvents).1
          committed := s.committed ++ (classify p.pydantic messages).validEvents }
  | storeFail (i : Fin n) (messages : List (StreamMessage F)) (ackedCount : Nat)
      (hi : s.loops i = .invalidAcked messages ackedCount) :
      Effect p s (s.storeFail p i messages ackedCount)
  | storeUnconfirmed (i : Fin n) (messages : List (StreamMessage F)) (ackedCount : Nat)
      (hi : s.loops i = .invalidAcked messages ackedCount)
      (hd : ∀ event ∈ (classify p.pydantic messages).validEvents,
        (eventToRecordValues event).InDomain p.localZone) :
      Effect p s
        { s.storeFail p i messages ackedCount with
          table := (insertEvents s.table (classify p.pydantic messages).validEvents).1
          committed := s.committed ++ (classify p.pydantic messages).validEvents
          unconfirmed := s.unconfirmed +
            (insertEvents s.table (classify p.pydantic messages).validEvents).2.length }
  | ackValid (i : Fin n) (messages : List (StreamMessage F)) (ackedCount insertedCount : Nat)
      (hi : s.loops i = .stored messages ackedCount insertedCount) :
      Effect p s (s.ackValid p i messages ackedCount insertedCount)

variable {p : Pipeline F} {s t : System F n}

/-- The messages of a reply are decoded from its entries. -/
theorem decodes_of_readMessages {entries : List StreamEntry} {messages : List (StreamMessage F)}
    (h : readMessages p.decoder (groupReply entries) = .ok messages)
    (he : ∀ entry ∈ entries, entry ∈ s.group.entries) :
    ∀ message ∈ messages, s.Decodes p message := by
  have hall := mapM_eq_ok.mp h
  rw [replyEntries_groupReply] at hall
  intro message hm
  obtain ⟨entry, hentry, hd⟩ := forall₂_exists_of_mem_right hall hm
  exact ⟨entry, he entry hentry, hd⟩

theorem effect_readPending {i : Fin n} (hi : s.loops i = .idle) :
    Effect p s (s.readPending p i) := by
  unfold System.readPending
  split
  · split
    · exact .abandon i s.group ⟨rfl, rfl⟩
    · exact .readNothing i hi
    · next message messages h =>
      exact .read i s.group ⟨rfl, rfl⟩ _
        (decodes_of_readMessages h fun _ => ConsumerGroup.mem_of_mem_readPending) (Or.inl hi)
  · exact .abandon i s.group ⟨rfl, rfl⟩

theorem effect_readNew {i : Fin n} (hi : s.loops i = .readingNew) :
    Effect p s (s.readNew p i) := by
  unfold System.readNew
  have hg : SameLog s.group (s.group.readNew StreamEntry.messageId p.batchSize) := ⟨rfl, rfl⟩
  dsimp only
  split
  · exact .abandon i _ hg
  · next messages h =>
    exact .read i _ hg _
      (decodes_of_readMessages h fun _ => ConsumerGroup.mem_of_mem_newEntries) (Or.inr hi)

theorem effect_storeCommit {i : Fin n} {messages : List (StreamMessage F)} {ackedCount : Nat}
    (hi : s.loops i = .invalidAcked messages ackedCount)
    (h : s.storeCommit p i messages ackedCount = some t) : Effect p s t := by
  simp only [System.storeCommit] at h
  by_cases hd : ∀ event ∈ (classify p.pydantic messages).validEvents,
      (eventToRecordValues event).InDomain p.localZone
  · rw [ingest_of_inDomain s.table hd] at h
    obtain rfl := Option.some.inj h
    exact .storeCommit i messages ackedCount hi hd
  · rw [ingest_of_not_inDomain s.table hd] at h
    simp at h

theorem effect_storeUnconfirmed {i : Fin n} {messages : List (StreamMessage F)}
    {ackedCount : Nat} (hi : s.loops i = .invalidAcked messages ackedCount)
    (h : s.storeUnconfirmed p i messages ackedCount = some t) : Effect p s t := by
  simp only [System.storeUnconfirmed] at h
  by_cases hd : ∀ event ∈ (classify p.pydantic messages).validEvents,
      (eventToRecordValues event).InDomain p.localZone
  · rw [ingest_of_inDomain s.table hd] at h
    obtain rfl := Option.some.inj h
    exact .storeUnconfirmed i messages ackedCount hi hd
  · rw [ingest_of_not_inDomain s.table hd] at h
    simp at h

/-- Every step has one of the effects. -/
theorem effect_of_step {a : Action n} (h : System.step p s a = some t) : Effect p s t := by
  cases a with
  | produce entry =>
    obtain ⟨hf, rfl⟩ := System.step_produce.mp h
    exact .produce entry hf
  | redeliver messageId =>
    obtain ⟨_, rfl⟩ := System.step_redeliver.mp h
    exact .regroup _ ⟨rfl, rfl⟩
  | ensureGroup i =>
    obtain ⟨_, rfl⟩ := System.step_ensureGroup.mp h
    exact .regroup _ ⟨rfl, rfl⟩
  | readPending i =>
    obtain ⟨hi, rfl⟩ := System.step_readPending.mp h
    exact effect_readPending hi
  | readNew i =>
    obtain ⟨hi, rfl⟩ := System.step_readNew.mp h
    exact effect_readNew hi
  | ackInvalid i =>
    obtain ⟨messages, hi, rfl⟩ := System.step_ackInvalid.mp h
    exact .ackInvalid i messages hi
  | storeCommit i =>
    obtain ⟨messages, ackedCount, hi, hs⟩ := System.step_storeCommit.mp h
    exact effect_storeCommit hi hs
  | storeFail i =>
    obtain ⟨messages, ackedCount, hi, rfl⟩ := System.step_storeFail.mp h
    exact .storeFail i messages ackedCount hi
  | storeUnconfirmed i =>
    obtain ⟨messages, ackedCount, hi, hs⟩ := System.step_storeUnconfirmed.mp h
    exact effect_storeUnconfirmed hi hs
  | ackValid i =>
    obtain ⟨messages, ackedCount, insertedCount, hi, rfl⟩ := System.step_ackValid.mp h
    exact .ackValid i messages ackedCount insertedCount hi
  | crash i =>
    rcases System.step_crash.mp h with ⟨_, rfl⟩ | ⟨_, rfl⟩
    · exact .regroup _ ⟨rfl, rfl⟩
    · exact .abandon i s.group ⟨rfl, rfl⟩

/-! ## The group and the loop -/

/-- What a step can do to the group, and whether its loop then asks for new entries. -/
inductive Turn (p : Pipeline F) (s t : System F n) : Action n → Prop
  | append (entry : StreamEntry) (hg : t.group = s.group.append entry)
      (hl : t.loops = s.loops) : Turn p s t (.produce entry)
  | redeliver (messageId : Str) (hg : t.group = s.group.redeliver messageId) :
      Turn p s t (.redeliver messageId)
  | stay (a : Action n) (hg : t.group = s.group ∨ t.group = s.group.create)
      (hl : t.loops = s.loops) : Turn p s t a
  | readNothing (a : Action n) (hg : t.group = s.group)
      (hr : s.group.readPending StreamEntry.messageId p.batchSize = []) : Turn p s t a
  | readNew (a : Action n) (i : Fin n) (hi : s.loops i = .readingNew)
      (hg : t.group = s.group.readNew StreamEntry.messageId p.batchSize)
      (hl : t.loops i ≠ .readingNew) : Turn p s t a
  | ack (a : Action n) (i : Fin n) (ids : List Str) (hg : t.group = s.group.ack ids)
      (hl : t.loops i ≠ .readingNew) : Turn p s t a
  | leave (a : Action n) (i : Fin n) (hg : t.group = s.group)
      (hl : t.loops i ≠ .readingNew) : Turn p s t a

theorem loops_enter (s : System F n) (i : Fin n) (phase : Phase F) :
    (s.enter i phase).loops i = phase :=
  Function.update_self ..

theorem loops_abandon (s : System F n) (i : Fin n) : (s.abandon i).loops i = .idle :=
  loops_enter s i .idle

theorem loops_finish (s : System F n) (i : Fin n) (result : PollResult) :
    (s.finish i result).loops i = .idle := loops_enter s i .idle

/-- The first read leaves the group alone, and nothing is pending when it finds nothing. -/
theorem turn_readPending (s : System F n) (i : Fin n) (a : Action n) :
    Turn p s (s.readPending p i) a := by
  unfold System.readPending
  split
  · split
    · exact .leave a i rfl (by rw [loops_abandon]; simp)
    · next hr =>
      have hreply := mapM_eq_ok.mp hr
      rw [replyEntries_groupReply, List.forall₂_nil_right_iff] at hreply
      exact .readNothing a rfl hreply
    · exact .leave a i rfl (by rw [loops_enter]; simp)
  · exact .leave a i rfl (by rw [loops_abandon]; simp)

/-- The second read delivers, whatever it then raises. -/
theorem turn_readNew {i : Fin n} (hi : s.loops i = .readingNew) (a : Action n) :
    Turn p s (s.readNew p i) a := by
  unfold System.readNew
  dsimp only
  split
  · exact .readNew a i hi rfl (by rw [loops_abandon]; simp)
  · exact .readNew a i hi rfl (by rw [loops_enter]; simp)

/-- The rejected messages are acknowledged first. -/
theorem turn_ackInvalid (s : System F n) (i : Fin n) (messages : List (StreamMessage F))
    (a : Action n) : Turn p s (s.ackInvalid p i messages) a := by
  unfold System.ackInvalid
  dsimp only
  split
  · exact .ack a i _ rfl (by rw [loops_finish]; simp)
  · exact .ack a i _ rfl (by rw [loops_enter]; simp)

/-- Every step is such a turn. -/
theorem turn_of_step {a : Action n} (hs : System.step p s a = some t) : Turn p s t a := by
  cases a with
  | produce entry =>
    obtain ⟨_, rfl⟩ := System.step_produce.mp hs
    exact .append entry rfl rfl
  | redeliver messageId =>
    obtain ⟨_, rfl⟩ := System.step_redeliver.mp hs
    exact .redeliver messageId rfl
  | ensureGroup i =>
    obtain ⟨_, rfl⟩ := System.step_ensureGroup.mp hs
    exact .stay _ (Or.inr rfl) rfl
  | readPending i =>
    obtain ⟨_, rfl⟩ := System.step_readPending.mp hs
    exact turn_readPending s i _
  | readNew i =>
    obtain ⟨hi, rfl⟩ := System.step_readNew.mp hs
    exact turn_readNew hi _
  | ackInvalid i =>
    obtain ⟨messages, _, rfl⟩ := System.step_ackInvalid.mp hs
    exact turn_ackInvalid s i messages _
  | storeCommit i =>
    obtain ⟨messages, ackedCount, _, hstore⟩ := System.step_storeCommit.mp hs
    obtain ⟨stored, _, rfl⟩ := Option.map_eq_some_iff.mp hstore
    refine .leave _ i rfl ?_
    change (s.enter i _).loops i ≠ _
    rw [loops_enter]
    simp
  | storeFail i =>
    obtain ⟨messages, ackedCount, _, rfl⟩ := System.step_storeFail.mp hs
    exact .leave _ i rfl (by rw [System.storeFail, loops_finish]; simp)
  | storeUnconfirmed i =>
    obtain ⟨messages, ackedCount, _, hstore⟩ := System.step_storeUnconfirmed.mp hs
    obtain ⟨stored, _, rfl⟩ := Option.map_eq_some_iff.mp hstore
    refine .leave _ i rfl ?_
    change (s.storeFail p i messages ackedCount).loops i ≠ _
    rw [System.storeFail, loops_finish]
    simp
  | ackValid i =>
    obtain ⟨messages, ackedCount, insertedCount, _, rfl⟩ := System.step_ackValid.mp hs
    exact .ack _ i _ rfl (by rw [System.ackValid, loops_finish]; simp)
  | crash i =>
    rcases System.step_crash.mp hs with ⟨_, rfl⟩ | ⟨_, rfl⟩
    · exact .stay _ (Or.inl rfl) rfl
    · exact .leave _ i rfl (by rw [loops_abandon]; simp)

/-! ## What was written -/

/-- Nothing that was written is taken back. -/
structure Grows (s t : System F n) : Prop where
  entries : s.group.entries <+: t.group.entries
  table : s.table <+: t.table

theorem Grows.refl (s : System F n) : Grows s s := ⟨List.prefix_rfl, List.prefix_rfl⟩

theorem Grows.trans {u : System F n} (h : Grows s t) (h' : Grows t u) : Grows s u :=
  ⟨h.entries.trans h'.entries, h.table.trans h'.table⟩

/-- Every effect only adds entries and rows. -/
theorem Effect.grows (h : Effect p s t) : Grows s t := by
  have hsame : ∀ {g : EventGroup}, SameLog s.group g → s.group.entries <+: g.entries :=
    fun hg => hg.entries ▸ List.prefix_rfl
  cases h with
  | produce entry => exact ⟨List.prefix_append _ _, List.prefix_rfl⟩
  | regroup g hg => exact ⟨hsame hg, List.prefix_rfl⟩
  | abandon i g hg => exact ⟨hsame hg, List.prefix_rfl⟩
  | readNothing i => exact ⟨List.prefix_rfl, List.prefix_rfl⟩
  | read i g hg => exact ⟨hsame hg, List.prefix_rfl⟩
  | ackInvalid i messages =>
    unfold System.ackInvalid
    dsimp only
    split <;> exact ⟨List.prefix_rfl, List.prefix_rfl⟩
  | storeCommit i messages => exact ⟨List.prefix_rfl, KeyedTable.prefix_insertRows _ _⟩
  | storeFail i => exact ⟨List.prefix_rfl, List.prefix_rfl⟩
  | storeUnconfirmed i messages => exact ⟨List.prefix_rfl, KeyedTable.prefix_insertRows _ _⟩
  | ackValid i => exact ⟨List.prefix_rfl, List.prefix_rfl⟩

/-- What was written before a run is there after it. -/
theorem grows_of_run {actions : List (Action n)}
    (h : run (System.step p) s actions = some t) : Grows s t :=
  rel_of_run Grows.refl (fun _ _ _ => Grows.trans) (fun _ _ _ hs => (effect_of_step hs).grows) h

end LiveData.Events

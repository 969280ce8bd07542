import LiveData.Events.Effects
import LiveData.Events.WireFormat

/-!
# No event is lost

A message is acknowledged only when it was rejected or after its event was stored. What
carries the induction: every message a loop holds comes from the stream, and a loop that
has stored its batch finds every event of it in the table.
-/

namespace LiveData.Events

open Json Generator

variable {F : Type} {n : Nat}

/-- The classification in closed form. -/
theorem classify_eq (pydantic : Pydantic F) (messages : List (StreamMessage F)) :
    classify pydantic messages =
      ⟨messages.filterMap fun m => coercePayload pydantic m.payload,
        (messages.filter fun m => (coercePayload pydantic m.payload).isSome).map
          StreamMessage.messageId,
        (messages.filter fun m => (coercePayload pydantic m.payload).isNone).map
          StreamMessage.messageId⟩ := by
  induction messages with
  | nil => rfl
  | cons m messages ih =>
    rw [classify, ih]
    cases h : coercePayload pydantic m.payload <;> simp [h]

theorem mem_validEvents {pydantic : Pydantic F} {messages : List (StreamMessage F)}
    {event : WebEvent} : event ∈ (classify pydantic messages).validEvents ↔
      ∃ m ∈ messages, coercePayload pydantic m.payload = some event := by
  simp [classify_eq]

theorem mem_validMessageIds {pydantic : Pydantic F} {messages : List (StreamMessage F)} {id : Str} :
    id ∈ (classify pydantic messages).validMessageIds ↔
      ∃ m ∈ messages, (coercePayload pydantic m.payload).isSome ∧ m.messageId = id := by
  simp [classify_eq, and_assoc]

theorem mem_invalidMessageIds {pydantic : Pydantic F} {messages : List (StreamMessage F)}
    {id : Str} : id ∈ (classify pydantic messages).invalidMessageIds ↔
      ∃ m ∈ messages, coercePayload pydantic m.payload = none ∧ m.messageId = id := by
  simp [classify_eq, and_assoc]

variable {p : Pipeline F} {s t : System F n}

/-- The event of a message, when it has one, is in the table. -/
def System.Stored (p : Pipeline F) (s : System F n) (message : StreamMessage F) : Prop :=
  ∀ event, coercePayload p.pydantic message.payload = some event → event.eventId ∈ s.table.ids

/-- The message of an id was rejected, or its event is in the table. -/
def System.Settled (p : Pipeline F) (s : System F n) (messageId : Str) : Prop :=
  ∃ message, s.Decodes p message ∧ message.messageId = messageId ∧ s.Stored p message

/-- What a loop holds in each phase. -/
def System.Holds (p : Pipeline F) (s : System F n) : Phase F → Prop
  | .idle => True
  | .readingNew => True
  | .read messages => ∀ m ∈ messages, s.Decodes p m
  | .invalidAcked messages _ => ∀ m ∈ messages, s.Decodes p m
  | .stored messages _ _ => ∀ m ∈ messages, s.Decodes p m ∧ s.Stored p m

/-- The invariant of the ingestion. -/
structure System.Safe (p : Pipeline F) (s : System F n) : Prop where
  distinct : (s.group.entries.map StreamEntry.messageId).Nodup
  holds : ∀ i, s.Holds p (s.loops i)
  settled : ∀ id ∈ s.group.acked, s.Settled p id

theorem System.Decodes.mono (h : Grows s t) {message : StreamMessage F}
    (hm : s.Decodes p message) : t.Decodes p message := by
  obtain ⟨entry, he, hd⟩ := hm
  exact ⟨entry, h.entries.subset he, hd⟩

theorem System.Stored.mono (h : Grows s t) {message : StreamMessage F}
    (hm : s.Stored p message) : t.Stored p message :=
  fun event he => (h.table.map EventRecord.eventId).subset (hm event he)

theorem System.Settled.mono (h : Grows s t) {id : Str} (hi : s.Settled p id) :
    t.Settled p id := by
  obtain ⟨message, hd, hid, hs⟩ := hi
  exact ⟨message, hd.mono h, hid, hs.mono h⟩

theorem System.Holds.mono (h : Grows s t) {phase : Phase F} (hp : s.Holds p phase) :
    t.Holds p phase := by
  cases phase with
  | idle => trivial
  | readingNew => trivial
  | read messages => exact fun m hm => (hp m hm).mono h
  | invalidAcked messages ackedCount => exact fun m hm => (hp m hm).mono h
  | stored messages ackedCount insertedCount =>
    exact fun m hm => ⟨(hp m hm).1.mono h, (hp m hm).2.mono h⟩

/-- A step that changes one loop keeps the invariant when that loop holds what its new
phase requires and everything newly acknowledged is settled. -/
theorem System.Safe.update (hs : s.Safe p) (hg : Grows s t)
    (hdistinct : t.group.entries = s.group.entries) {i : Fin n} {phase : Phase F}
    (hloops : t.loops = Function.update s.loops i phase) (hphase : t.Holds p phase)
    (hacked : ∀ id ∈ t.group.acked, id ∈ s.group.acked ∨ t.Settled p id) : t.Safe p where
  distinct := hdistinct ▸ hs.distinct
  holds := by
    rw [hloops]
    exact (Function.forall_update_iff s.loops fun _ => t.Holds p).mpr
      ⟨hphase, fun j _ => (hs.holds j).mono hg⟩
  settled := fun id hid => (hacked id hid).elim (fun h => (hs.settled id h).mono hg) fun h => h

/-- A loop holds what its phase requires. -/
theorem System.Safe.holds_of_eq (hs : s.Safe p) {i : Fin n} {phase : Phase F}
    (hi : s.loops i = phase) : s.Holds p phase := by
  rw [← hi]
  exact hs.holds i

/-- Acknowledging what is settled keeps everything acknowledged settled. -/
theorem settled_of_mem_ack {ids : List Str} (h : ∀ id ∈ ids, t.Settled p id) {g : EventGroup} :
    ∀ id ∈ (g.ack ids).acked, id ∈ g.acked ∨ t.Settled p id :=
  fun id hid => (ConsumerGroup.mem_acked_ack hid).imp (fun h => h) (h id)

/-- A batch whose invalid messages are acknowledged settles them. -/
theorem settled_invalid {messages : List (StreamMessage F)} (h : ∀ m ∈ messages, s.Decodes p m) :
    ∀ id ∈ (classify p.pydantic messages).invalidMessageIds, s.Settled p id := by
  intro id hid
  obtain ⟨m, hm, hnone, rfl⟩ := mem_invalidMessageIds.mp hid
  exact ⟨m, h m hm, rfl, fun event he => by simp [hnone] at he⟩

theorem settled_valid {messages : List (StreamMessage F)}
    (h : ∀ m ∈ messages, s.Decodes p m ∧ s.Stored p m) :
    ∀ id ∈ (classify p.pydantic messages).validMessageIds, s.Settled p id := by
  intro id hid
  obtain ⟨m, hm, -, rfl⟩ := mem_validMessageIds.mp hid
  exact ⟨m, (h m hm).1, rfl, (h m hm).2⟩

/-- Every effect keeps the invariant. -/
theorem Effect.safe (h : Effect p s t) (hs : s.Safe p) : t.Safe p := by
  have hg := h.grows
  cases h with
  | produce entry hf =>
    refine ⟨?_, fun i => (hs.holds i).mono hg, fun id hid => (hs.settled id hid).mono hg⟩
    simpa [List.nodup_append] using ⟨hs.distinct, fun e he hid => hf (by
      rw [← hid]
      exact List.mem_map_of_mem he)⟩
  | regroup g hsame =>
    refine ⟨?_, fun i => (hs.holds i).mono hg, ?_⟩
    · rw [hsame.entries]
      exact hs.distinct
    · intro id hid
      rw [hsame.acked] at hid
      exact (hs.settled id hid).mono hg
  | abandon i g hsame =>
    exact hs.update hg hsame.entries rfl trivial fun id hid => Or.inl (hsame.acked ▸ hid)
  | readNothing i hi => exact hs.update hg rfl rfl trivial fun id hid => Or.inl hid
  | read i g hsame messages hm hi =>
    exact hs.update hg hsame.entries rfl (fun m hmem => (hm m hmem).mono hg)
      fun id hid => Or.inl (hsame.acked ▸ hid)
  | ackInvalid i messages hi =>
    have hdec : ∀ m ∈ messages, s.Decodes p m := hs.holds_of_eq hi
    unfold System.ackInvalid at hg ⊢
    dsimp only at hg ⊢
    split at hg <;> rename_i hv
    · rw [if_pos hv]
      refine hs.update hg rfl rfl trivial (settled_of_mem_ack ?_)
      exact fun id hid => (settled_invalid hdec id hid).mono hg
    · rw [if_neg hv]
      refine hs.update hg rfl rfl (fun m hm => (hdec m hm).mono hg) (settled_of_mem_ack ?_)
      exact fun id hid => (settled_invalid hdec id hid).mono hg
  | storeCommit i messages ackedCount hi hd =>
    have hdec : ∀ m ∈ messages, s.Decodes p m := hs.holds_of_eq hi
    refine hs.update hg rfl rfl ?_ fun id hid => Or.inl hid
    intro m hm
    refine ⟨(hdec m hm).mono hg, fun event he => ?_⟩
    refine (KeyedTable.mem_keys_insertRows _ _ _).mpr (Or.inr ?_)
    rw [List.map_map]
    exact List.mem_map_of_mem (f := EventRecord.eventId ∘ eventToRecordValues)
      (mem_validEvents.mpr ⟨m, hm, he⟩)
  | storeFail i messages ackedCount hi =>
    exact hs.update hg rfl rfl trivial fun id hid => Or.inl hid
  | storeUnconfirmed i messages ackedCount hi hd =>
    exact hs.update hg rfl rfl trivial fun id hid => Or.inl hid
  | ackValid i messages ackedCount insertedCount hi =>
    have hheld : ∀ m ∈ messages, s.Decodes p m ∧ s.Stored p m := hs.holds_of_eq hi
    refine hs.update hg rfl rfl trivial (settled_of_mem_ack ?_)
    exact fun id hid => (settled_valid hheld id hid).mono hg

/-- The invariant holds in every reachable state. -/
theorem System.Reachable.safe (h : s.Reachable p) : s.Safe p := by
  obtain ⟨actions, hr⟩ := h
  refine invariant_of_run (fun _ _ _ hs ht => (effect_of_step ht).safe hs) ?_ hr
  exact ⟨by simp [System.init, ConsumerGroup.empty], fun _ => trivial, by
    simp [System.init, ConsumerGroup.empty]⟩

/-- An acknowledged entry was rejected, or its event has a row. -/
theorem System.Safe.rejected_or_stored (hs : s.Safe p) {entry : StreamEntry}
    (hentry : entry ∈ s.group.entries) (hacked : entry.messageId ∈ s.group.acked) :
    ∃ payload, decodePayload p.decoder entry.fields = .ok payload ∧
      (coercePayload p.pydantic payload = none ∨
        ∃ event row, coercePayload p.pydantic payload = some event ∧ row ∈ s.table ∧
          row.eventId = event.eventId) := by
  obtain ⟨message, ⟨other, hother, hd⟩, hid, hstored⟩ := hs.settled _ hacked
  obtain ⟨hmid, hpayload⟩ := decodeEntry_eq_ok.mp hd
  obtain rfl : other = entry :=
    List.inj_on_of_nodup_map hs.distinct hother hentry (hmid.symm.trans hid)
  refine ⟨message.payload, hpayload, ?_⟩
  cases hc : coercePayload p.pydantic message.payload with
  | none => exact Or.inl rfl
  | some event =>
    obtain ⟨row, hrow, hkey⟩ := List.mem_map.mp (hstored event hc)
    exact Or.inr ⟨event, row, rfl, hrow, hkey⟩

/-- Every acknowledged message was rejected or has the row of its event. -/
theorem acked_rejected_or_stored (p : Pipeline F) (s : System F n) (h : s.Reachable p) :
    ∀ entry ∈ s.group.entries, entry.messageId ∈ s.group.acked →
      ∃ payload, decodePayload p.decoder entry.fields = .ok payload ∧
        (coercePayload p.pydantic payload = none ∨
          ∃ event row, coercePayload p.pydantic payload = some event ∧ row ∈ s.table ∧
            row.eventId = event.eventId) :=
  fun _ hentry hacked => h.safe.rejected_or_stored hentry hacked

/-- The runtime that keeps floats as their texts, with the local zone at UTC. -/
def exactPipeline : Pipeline Str where
  decoder := exactHost.decoder
  pydantic := exactHost.pydantic
  localZone := fun _ => 0
  batchSize := 100
  batchSize_pos := by decide

/-- An entry with a payload. -/
def payloadEntry (messageId payload : Str) : StreamEntry where
  rawId := .text messageId
  messageId := messageId
  decodes := rfl
  fields := [(payloadTextKey, .text payload)]

/-- A page view at midnight. -/
def pageView (eventId userId : Str) : GeneratedEvent Str where
  eventId := eventId
  eventType := .pageView
  occurredAt := noonGenerator.config.startTime
  userId := userId
  trafficPhase := .slow
  producerId := str "producer_local"

/-- Its line on the stream. -/
def pageViewEntry (messageId eventId userId : Str) : StreamEntry :=
  payloadEntry messageId (eventToJsonLine exactHost.floatRepr (pageView eventId userId))

/-- One id comes twice and is followed by an empty object. Both loops read the three
entries; the store fails for one of them after the other has committed. -/
def sharedRun : List (Action 2) :=
  [.ensureGroup 0,
    .produce (pageViewEntry (str "1-0") (str "evt_1") (str "user_1")),
    .produce (pageViewEntry (str "2-0") (str "evt_1") (str "user_2")),
    .produce (payloadEntry (str "3-0") (str "\x7b\x7d")),
    .readPending 0, .readNew 0, .readPending 1, .ackInvalid 0, .storeCommit 0, .ackInvalid 1,
    .ackValid 0, .storeFail 1]

/-- The state after that run. -/
def sharedState : System Str 2 :=
  (run (System.step exactPipeline) (System.init Str 2) sharedRun).getD (System.init Str 2)

theorem sharedState_reachable : sharedState.Reachable exactPipeline :=
  ⟨sharedRun, run_eq_some_getD (by decide +kernel) _⟩

example : sharedState.group.acked = [str "3-0", str "1-0", str "2-0"] := by decide +kernel

/-- The second message of a shared id is acknowledged, and the row of that id is there. -/
theorem acked_shared :
    ∃ payload, decodePayload exactPipeline.decoder
        (pageViewEntry (str "2-0") (str "evt_1") (str "user_2")).fields = .ok payload ∧
      (coercePayload exactPipeline.pydantic payload = none ∨
        ∃ event row, coercePayload exactPipeline.pydantic payload = some event ∧
          row ∈ sharedState.table ∧ row.eventId = event.eventId) :=
  acked_rejected_or_stored exactPipeline sharedState sharedState_reachable _ (by decide +kernel)
    (by decide +kernel)

end LiveData.Events

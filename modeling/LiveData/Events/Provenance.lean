import LiveData.Events.FirstWrite

/-!
# Where committed events come from

Every committed event is the event of some entry of the stream and fits the table, and the
event of every acknowledged entry is committed. So an entry whose payload cannot be decoded or
whose event the table cannot hold is never acknowledged.
-/

namespace LiveData.Events

open Json

variable {F : Type} {n : Nat} {p : Pipeline F} {s t : System F n}

/-- An entry that a poll can finish: it is decoded, and its event, when it has one, fits the
table. -/
def Healthy (p : Pipeline F) (entry : StreamEntry) : Prop :=
  ∃ payload, decodePayload p.decoder entry.fields = .ok payload ∧
    ∀ event, coercePayload p.pydantic payload = some event →
      (eventToRecordValues event).InDomain p.localZone

/-- The event of a message, when it has one, is committed. -/
def System.Committed (p : Pipeline F) (s : System F n) (message : StreamMessage F) : Prop :=
  ∀ event, coercePayload p.pydantic message.payload = some event → event ∈ s.committed

/-- What a loop carries in each phase. -/
def System.Carries (p : Pipeline F) (s : System F n) : Phase F → Prop
  | .idle => True
  | .readingNew => True
  | .read messages => ∀ m ∈ messages, s.Decodes p m
  | .invalidAcked messages _ => ∀ m ∈ messages, s.Decodes p m
  | .stored messages _ _ => ∀ m ∈ messages, s.Decodes p m ∧ s.Committed p m

/-- The message of an id is decoded from the stream, and its event is committed. -/
def System.Accounted (p : Pipeline F) (s : System F n) (messageId : Str) : Prop :=
  ∃ message, s.Decodes p message ∧ message.messageId = messageId ∧ s.Committed p message

/-- An event of the stream that fits the table. -/
def System.FromStream (p : Pipeline F) (s : System F n) (event : WebEvent) : Prop :=
  (∃ message, s.Decodes p message ∧ coercePayload p.pydantic message.payload = some event) ∧
    (eventToRecordValues event).InDomain p.localZone

/-- The invariant of the history. -/
structure System.Sourced (p : Pipeline F) (s : System F n) : Prop where
  carries : ∀ i, s.Carries p (s.loops i)
  acked : ∀ id ∈ s.group.acked, s.Accounted p id
  committed : ∀ event ∈ s.committed, s.FromStream p event

/-- Entries and committed events are only added. -/
structure Advances (s t : System F n) : Prop where
  entries : s.group.entries <+: t.group.entries
  committed : s.committed <+: t.committed

theorem System.Decodes.advance (h : Advances s t) {message : StreamMessage F}
    (hm : s.Decodes p message) : t.Decodes p message := by
  obtain ⟨entry, he, hd⟩ := hm
  exact ⟨entry, h.entries.subset he, hd⟩

theorem System.Committed.advance (h : Advances s t) {message : StreamMessage F}
    (hm : s.Committed p message) : t.Committed p message :=
  fun event he => h.committed.subset (hm event he)

theorem System.Accounted.advance (h : Advances s t) {id : Str} (hi : s.Accounted p id) :
    t.Accounted p id := by
  obtain ⟨message, hd, hid, hc⟩ := hi
  exact ⟨message, hd.advance h, hid, hc.advance h⟩

theorem System.FromStream.advance (h : Advances s t) {event : WebEvent}
    (he : s.FromStream p event) : t.FromStream p event := by
  obtain ⟨⟨message, hd, hc⟩, hdomain⟩ := he
  exact ⟨⟨message, hd.advance h, hc⟩, hdomain⟩

theorem System.Carries.advance (h : Advances s t) {phase : Phase F} (hp : s.Carries p phase) :
    t.Carries p phase := by
  cases phase with
  | idle => trivial
  | readingNew => trivial
  | read messages => exact fun m hm => (hp m hm).advance h
  | invalidAcked messages ackedCount => exact fun m hm => (hp m hm).advance h
  | stored messages ackedCount insertedCount =>
    exact fun m hm => ⟨(hp m hm).1.advance h, (hp m hm).2.advance h⟩

/-- Every effect only adds entries and committed events. -/
theorem Effect.advances (h : Effect p s t) : Advances s t := by
  refine ⟨h.grows.entries, ?_⟩
  cases h with
  | ackInvalid i messages =>
    unfold System.ackInvalid
    dsimp only
    split <;> exact List.prefix_rfl
  | storeCommit i messages => exact List.prefix_append _ _
  | produce entry => exact List.prefix_rfl
  | regroup g hg => exact List.prefix_rfl
  | abandon i g hg => exact List.prefix_rfl
  | readNothing i => exact List.prefix_rfl
  | read i g hg => exact List.prefix_rfl
  | storeFail i => exact List.prefix_rfl
  | storeUnconfirmed i messages => exact List.prefix_append _ _
  | ackValid i => exact List.prefix_rfl

/-- A step that moves one loop and commits nothing keeps the invariant when the loop carries
what its new phase requires and everything newly acknowledged is accounted for. -/
theorem System.Sourced.update (hs : s.Sourced p) (ha : Advances s t) {i : Fin n} {phase : Phase F}
    (hloops : t.loops = Function.update s.loops i phase) (hphase : t.Carries p phase)
    (hacked : ∀ id ∈ t.group.acked, id ∈ s.group.acked ∨ t.Accounted p id)
    (hcommitted : ∀ event ∈ t.committed, event ∈ s.committed ∨ t.FromStream p event) :
    t.Sourced p where
  carries := by
    rw [hloops]
    exact (Function.forall_update_iff s.loops fun _ => t.Carries p).mpr
      ⟨hphase, fun j _ => (hs.carries j).advance ha⟩
  acked := fun id hid => (hacked id hid).elim (fun h => (hs.acked id h).advance ha) fun h => h
  committed := fun event he =>
    (hcommitted event he).elim (fun h => (hs.committed event h).advance ha) fun h => h

/-- A loop carries what its phase requires. -/
theorem System.Sourced.carries_of_eq (hs : s.Sourced p) {i : Fin n} {phase : Phase F}
    (hi : s.loops i = phase) : s.Carries p phase := by
  rw [← hi]
  exact hs.carries i

/-- A rejected message has no event to commit. -/
theorem accounted_invalid {messages : List (StreamMessage F)}
    (h : ∀ m ∈ messages, s.Decodes p m) :
    ∀ id ∈ (classify p.pydantic messages).invalidMessageIds, s.Accounted p id := by
  intro id hid
  obtain ⟨m, hm, hnone, rfl⟩ := mem_invalidMessageIds.mp hid
  exact ⟨m, h m hm, rfl, fun event he => by simp [hnone] at he⟩

theorem accounted_valid {messages : List (StreamMessage F)}
    (h : ∀ m ∈ messages, s.Decodes p m ∧ s.Committed p m) :
    ∀ id ∈ (classify p.pydantic messages).validMessageIds, s.Accounted p id := by
  intro id hid
  obtain ⟨m, hm, -, rfl⟩ := mem_validMessageIds.mp hid
  exact ⟨m, (h m hm).1, rfl, (h m hm).2⟩

/-- Acknowledging what is accounted for adds nothing else. -/
theorem accounted_of_mem_ack {ids : List Str} (h : ∀ id ∈ ids, t.Accounted p id)
    {g : EventGroup} : ∀ id ∈ (g.ack ids).acked, id ∈ g.acked ∨ t.Accounted p id :=
  fun id hid => (ConsumerGroup.mem_acked_ack hid).imp_right (h id)

/-- The accepted events of a batch come from the stream. -/
theorem fromStream_of_validEvents {messages : List (StreamMessage F)} {event : WebEvent}
    (hdec : ∀ m ∈ messages, s.Decodes p m)
    (hd : ∀ event ∈ (classify p.pydantic messages).validEvents,
      (eventToRecordValues event).InDomain p.localZone)
    (he : event ∈ (classify p.pydantic messages).validEvents) : s.FromStream p event := by
  obtain ⟨m, hm, hc⟩ := mem_validEvents.mp he
  exact ⟨⟨m, hdec m hm, hc⟩, hd event he⟩

/-- Every effect keeps the history accounted for. -/
theorem Effect.sourced (h : Effect p s t) (hs : s.Sourced p) : t.Sourced p := by
  have ha := h.advances
  cases h with
  | produce entry hf =>
    exact ⟨fun i => (hs.carries i).advance ha, fun id hid => (hs.acked id hid).advance ha,
      fun event he => (hs.committed event he).advance ha⟩
  | regroup g hsame =>
    refine ⟨fun i => (hs.carries i).advance ha, fun id hid => ?_,
      fun event he => (hs.committed event he).advance ha⟩
    rw [hsame.acked] at hid
    exact (hs.acked id hid).advance ha
  | abandon i g hsame =>
    exact hs.update ha rfl trivial (fun id hid => Or.inl (hsame.acked ▸ hid))
      fun event he => Or.inl he
  | readNothing i hi =>
    exact hs.update ha rfl trivial (fun id hid => Or.inl hid) fun event he => Or.inl he
  | read i g hsame messages hm hi =>
    exact hs.update ha rfl (fun m hmem => (hm m hmem).advance ha)
      (fun id hid => Or.inl (hsame.acked ▸ hid)) fun event he => Or.inl he
  | ackInvalid i messages hi =>
    have hdec : ∀ m ∈ messages, s.Decodes p m := hs.carries_of_eq hi
    unfold System.ackInvalid at ha ⊢
    dsimp only at ha ⊢
    split at ha <;> rename_i hv
    · rw [if_pos hv]
      refine hs.update ha rfl trivial (accounted_of_mem_ack ?_) fun event he => Or.inl he
      exact fun id hid => (accounted_invalid hdec id hid).advance ha
    · rw [if_neg hv]
      refine hs.update ha rfl (fun m hm => (hdec m hm).advance ha) (accounted_of_mem_ack ?_)
        fun event he => Or.inl he
      exact fun id hid => (accounted_invalid hdec id hid).advance ha
  | storeCommit i messages ackedCount hi hd =>
    have hdec : ∀ m ∈ messages, s.Decodes p m := hs.carries_of_eq hi
    refine hs.update ha rfl (fun m hm => ⟨(hdec m hm).advance ha, fun event he => ?_⟩)
      (fun id hid => Or.inl hid) fun event he => ?_
    · exact List.mem_append_right _ (mem_validEvents.mpr ⟨m, hm, he⟩)
    · exact (List.mem_append.mp he).imp_right fun hvalid =>
        (fromStream_of_validEvents hdec hd hvalid).advance ha
  | storeFail i messages ackedCount hi =>
    exact hs.update ha rfl trivial (fun id hid => Or.inl hid) fun event he => Or.inl he
  | storeUnconfirmed i messages ackedCount hi hd =>
    have hdec : ∀ m ∈ messages, s.Decodes p m := hs.carries_of_eq hi
    refine hs.update ha rfl trivial (fun id hid => Or.inl hid) fun event he => ?_
    exact (List.mem_append.mp he).imp_right fun hvalid =>
      (fromStream_of_validEvents hdec hd hvalid).advance ha
  | ackValid i messages ackedCount insertedCount hi =>
    have hheld : ∀ m ∈ messages, s.Decodes p m ∧ s.Committed p m := hs.carries_of_eq hi
    refine hs.update ha rfl trivial (accounted_of_mem_ack ?_) fun event he => Or.inl he
    exact fun id hid => (accounted_valid hheld id hid).advance ha

/-- The history is accounted for in every reachable state. -/
theorem System.Reachable.sourced (h : s.Reachable p) : s.Sourced p := by
  obtain ⟨actions, hr⟩ := h
  refine invariant_of_run (fun _ _ _ hs ht => (effect_of_step ht).sourced hs) ?_ hr
  exact ⟨fun _ => trivial, by simp [System.init, ConsumerGroup.empty], by simp [System.init]⟩

/-- The event of an acknowledged entry is committed. -/
theorem System.Reachable.committed_of_acked (h : s.Reachable p) {entry : StreamEntry}
    (hentry : entry ∈ s.group.entries) (hacked : entry.messageId ∈ s.group.acked) :
    ∃ payload, decodePayload p.decoder entry.fields = .ok payload ∧
      ∀ event, coercePayload p.pydantic payload = some event → event ∈ s.committed := by
  obtain ⟨message, ⟨other, hother, hd⟩, hid, hcommitted⟩ := h.sourced.acked _ hacked
  obtain ⟨hmid, hpayload⟩ := decodeEntry_eq_ok.mp hd
  obtain rfl : other = entry :=
    List.inj_on_of_nodup_map h.safe.distinct hother hentry (hmid.symm.trans hid)
  exact ⟨message.payload, hpayload, hcommitted⟩

/-- Only an entry that a poll can finish is ever acknowledged. -/
theorem System.Reachable.healthy_of_acked (h : s.Reachable p) {entry : StreamEntry}
    (hentry : entry ∈ s.group.entries) (hacked : entry.messageId ∈ s.group.acked) :
    Healthy p entry := by
  obtain ⟨payload, hpayload, hcommitted⟩ := h.committed_of_acked hentry hacked
  exact ⟨payload, hpayload, fun event he => (h.sourced.committed event (hcommitted event he)).2⟩

end LiveData.Events

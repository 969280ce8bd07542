import LiveData.Events.Polling

/-!
# What is accepted and what can be stored

The payload schema leaves texts and amounts unbounded; the columns of the table do not.
An accepted payload outside their domain fails its batch at every poll, and new entries
are not read as long as it is pending.
-/

namespace LiveData.Events

open Json Generator

variable {F : Type} {n : Nat}

/-- The fields without a fixed set of texts. -/
def freeTextFields : List Str :=
  [str "event_id", str "user_id", str "producer_id", str "page_path", str "category_id",
    str "product_id", str "currency", str "error_code", str "error_message"]

/-- The table can hold the values of the payload: its texts are UTF-8 without U+0000, its
timestamp can be converted to UTC, and its amount stays half a cent below the bound. -/
structure Storable (p : Pipeline F) (payload : JsonObject F) : Prop where
  texts : ∀ name ∈ freeTextFields, ∀ s, payload.lookup name = some (.string s) → FitsText s
  occurredAt : ∀ t, field payload (str "occurred_at") p.pydantic.datetime = some t →
    t.FitsUtc p.localZone
  amount : ∀ d, field payload (str "amount") (orNull p.pydantic.decimal) = some (some d) →
    |d.value| < 9999999999.995

/-- The fields an accepted event was read from. -/
structure Coerced (pydantic : Pydantic F) (payload : JsonObject F) (event : WebEvent) : Prop where
  eventId : field payload (str "event_id") nonEmptyText = some event.eventId
  occurredAt : field payload (str "occurred_at") pydantic.datetime = some event.occurredAt
  userId : field payload (str "user_id") nonEmptyText = some event.userId
  producerId : field payload (str "producer_id") nonEmptyText = some event.producerId
  pagePath : field payload (str "page_path") (orNull text) = some event.pagePath
  categoryId : field payload (str "category_id") (orNull text) = some event.categoryId
  productId : field payload (str "product_id") (orNull text) = some event.productId
  amount : field payload (str "amount") (orNull pydantic.decimal) = some event.amount
  currency : field payload (str "currency") (orNull text) = some event.currency
  errorCode : field payload (str "error_code") (orNull text) = some event.errorCode
  errorMessage : field payload (str "error_message") (orNull text) = some event.errorMessage

theorem coerced_of_coercePayload {pydantic : Pydantic F} {payload : JsonObject F}
    {event : WebEvent} (h : coercePayload pydantic payload = some event) :
    Coerced pydantic payload event := by
  unfold coercePayload at h
  split at h
  · obtain ⟨_, -, h⟩ := Option.bind_eq_some_iff.mp h
    obtain ⟨eventId, heventId, h⟩ := Option.bind_eq_some_iff.mp h
    obtain ⟨_, -, h⟩ := Option.bind_eq_some_iff.mp h
    obtain ⟨occurredAt, hoccurredAt, h⟩ := Option.bind_eq_some_iff.mp h
    obtain ⟨userId, huserId, h⟩ := Option.bind_eq_some_iff.mp h
    obtain ⟨_, -, h⟩ := Option.bind_eq_some_iff.mp h
    obtain ⟨producerId, hproducerId, h⟩ := Option.bind_eq_some_iff.mp h
    obtain ⟨pagePath, hpagePath, h⟩ := Option.bind_eq_some_iff.mp h
    obtain ⟨categoryId, hcategoryId, h⟩ := Option.bind_eq_some_iff.mp h
    obtain ⟨productId, hproductId, h⟩ := Option.bind_eq_some_iff.mp h
    obtain ⟨amount, hamount, h⟩ := Option.bind_eq_some_iff.mp h
    obtain ⟨currency, hcurrency, h⟩ := Option.bind_eq_some_iff.mp h
    obtain ⟨errorCode, herrorCode, h⟩ := Option.bind_eq_some_iff.mp h
    obtain ⟨errorMessage, herrorMessage, h⟩ := Option.bind_eq_some_iff.mp h
    obtain rfl := Option.some.inj h
    exact ⟨heventId, hoccurredAt, huserId, hproducerId, hpagePath, hcategoryId, hproductId,
      hamount, hcurrency, herrorCode, herrorMessage⟩
  · simp at h

/-- A required text is the string under its key. -/
theorem lookup_of_nonEmptyText {payload : JsonObject F} {name s : Str}
    (h : field payload name nonEmptyText = some s) (t : Str) :
    payload.lookup name = some (.string t) ↔ s = t := by
  obtain ⟨v, hv, hs⟩ := Option.bind_eq_some_iff.mp h
  rw [hv]
  cases v <;> simp [nonEmptyText] at hs ⊢
  rw [hs.2]

/-- An optional text is the string under its key, if there is one. -/
theorem lookup_of_orNull_text {payload : JsonObject F} {name : Str} {o : Option Str}
    (h : field payload name (orNull text) = some o) (t : Str) :
    payload.lookup name = some (.string t) ↔ o = some t := by
  obtain ⟨v, hv, hs⟩ := Option.bind_eq_some_iff.mp h
  rw [hv]
  cases v <;> simp [orNull, text] at hs ⊢ <;> simp [← hs]

theorem forall_mem_filterMap_id {α : Type} {P : α → Prop} {os : List (Option α)} :
    (∀ t ∈ os.filterMap id, P t) ↔ ∀ o ∈ os, ∀ t, o = some t → P t := by
  simp only [List.mem_filterMap, id, forall_exists_index, and_imp]
  exact ⟨fun h o ho t ht => h t o ho ht, fun h t o ho ht => h o ho t ht⟩

/-- The texts of a row fit when the free texts of its event do. -/
theorem texts_fit_iff (event : WebEvent) :
    (∀ t ∈ (eventToRecordValues event).texts, FitsText t) ↔
      FitsText event.eventId ∧ FitsText event.userId ∧ FitsText event.producerId ∧
        ∀ o ∈ [event.pagePath, event.categoryId, event.productId, event.currency,
          event.errorCode, event.errorMessage], ∀ t, o = some t → FitsText t := by
  have hversion := event.schemaVersion.fitsText
  have htype := event.eventType.fitsText
  have hphase := event.trafficPhase.fitsText
  simp only [EventRecord.texts, eventToRecordValues, List.forall_mem_append,
    forall_mem_filterMap_id, List.forall_mem_cons, hversion, htype, hphase, true_and,
    List.not_mem_nil, false_imp_iff, implies_true, and_true, and_assoc]

/-- The row of an accepted payload lies in the domain exactly when the payload is storable. -/
theorem inDomain_iff_storable {p : Pipeline F} {payload : JsonObject F} {event : WebEvent}
    (h : coercePayload p.pydantic payload = some event) :
    (eventToRecordValues event).InDomain p.localZone ↔ Storable p payload := by
  have hc := coerced_of_coercePayload h
  have htexts : (∀ t ∈ (eventToRecordValues event).texts, FitsText t) ↔
      ∀ name ∈ freeTextFields, ∀ s, payload.lookup name = some (.string s) → FitsText s := by
    rw [texts_fit_iff]
    simp only [freeTextFields, List.forall_mem_cons, lookup_of_nonEmptyText hc.eventId,
      lookup_of_nonEmptyText hc.userId, lookup_of_nonEmptyText hc.producerId,
      lookup_of_orNull_text hc.pagePath, lookup_of_orNull_text hc.categoryId,
      lookup_of_orNull_text hc.productId, lookup_of_orNull_text hc.currency,
      lookup_of_orNull_text hc.errorCode, lookup_of_orNull_text hc.errorMessage, forall_eq',
      List.not_mem_nil, false_imp_iff, implies_true]
  constructor
  · rintro ⟨ht, ho, ha⟩
    refine ⟨htexts.mp ht, fun t he => ?_, fun d hd => ?_⟩
    · obtain rfl := Option.some.inj (hc.occurredAt.symm.trans he)
      exact ho
    · have hamount := Option.some.inj (hc.amount.symm.trans hd)
      exact (fitsNumeric12d2_iff _).mp (ha d hamount)
  · rintro ⟨ht, ho, ha⟩
    refine ⟨htexts.mpr ht, ho _ hc.occurredAt, fun d hd => (fitsNumeric12d2_iff _).mpr (ha d ?_)⟩
    exact hc.amount.trans (congrArg some hd)

variable {p : Pipeline F} {s t : System F n} {i : Fin n} {messages : List (StreamMessage F)}

/-- The rows of a batch lie in the domain when its accepted payloads are storable. -/
theorem rowsInDomain_iff : RowsInDomain p messages ↔
    ∀ m ∈ messages, ∀ event, coercePayload p.pydantic m.payload = some event →
      Storable p m.payload := by
  constructor
  · intro h m hm event he
    exact (inDomain_iff_storable he).mp (h event (mem_validEvents.mpr ⟨m, hm, he⟩))
  · intro h event he
    obtain ⟨m, hm, hc⟩ := mem_validEvents.mp he
    exact (inDomain_iff_storable hc).mpr (h m hm event hc)

/-- `read_batch` returns the pending entries, or else the new ones. -/
theorem nextBatch_eq_ok (h : s.nextBatch p = .ok messages) :
    (messages ≠ [] ∧ readMessages p.decoder (groupReply
      (s.group.readPending StreamEntry.messageId p.batchSize)) = .ok messages) ∨
    (readMessages p.decoder (groupReply
      (s.group.readPending StreamEntry.messageId p.batchSize)) = .ok [] ∧
      readMessages p.decoder (groupReply (s.group.newEntries p.batchSize)) = .ok messages) := by
  obtain ⟨pending, hp, h⟩ := bind_eq_ok.mp h
  cases pending with
  | nil => exact Or.inr ⟨hp, h⟩
  | cons m ms =>
    obtain rfl := Except.ok.inj h
    exact Or.inl ⟨List.cons_ne_nil _ _, hp⟩

/-- A poll settles the batch it reads, whichever read returned it. -/
theorem pollOnce_settles (hi : s.loops i = .idle) (hc : s.group.created = true)
    (hb : s.nextBatch p = .ok messages) : ∃ r : System F n, r.results = s.results ∧
      Settles p i messages (classify p.pydantic messages).invalidMessageIds r (s.pollOnce p i) := by
  rcases nextBatch_eq_ok hb with ⟨hm, hr⟩ | ⟨hp, hr⟩
  · exact ⟨s, rfl, pollOnce_pending hi hc hm hr⟩
  · exact ⟨{ s with group := s.group.readNew StreamEntry.messageId p.batchSize }, rfl,
      pollOnce_new hi hc hp hr⟩

/-- The message of an entry is accepted and cannot be stored. -/
def Unstorable (p : Pipeline F) (entry : StreamEntry) : Prop :=
  ∃ m event, decodeEntry p.decoder entry = .ok m ∧
    coercePayload p.pydantic m.payload = some event ∧ ¬Storable p m.payload

/-- An idle loop has an unstorable entry in front of it. -/
structure Poisoned (p : Pipeline F) (i : Fin n) (entry : StreamEntry) (s : System F n) : Prop where
  reachable : s.Reachable p
  idle : s.loops i = .idle
  created : s.group.created = true
  pending : entry ∈ s.group.readPending StreamEntry.messageId p.batchSize
  unstorable : Unstorable p entry

/-- An accepted entry is not acknowledged as rejected. -/
theorem notMem_invalidMessageIds (h : s.Reachable p) {entry : StreamEntry}
    (hu : Unstorable p entry) (he : entry ∈ s.group.entries)
    (hm : ∀ m ∈ messages, s.Decodes p m) :
    entry.messageId ∉ (classify p.pydantic messages).invalidMessageIds := by
  intro hid
  obtain ⟨m, event, hd, hc, -⟩ := hu
  obtain ⟨other, hother, hnone, hmid⟩ := mem_invalidMessageIds.mp hid
  obtain ⟨source, hsource, hsd⟩ := hm other hother
  have hsid := (decodeEntry_eq_ok.mp hsd).1
  obtain rfl : source = entry :=
    List.inj_on_of_nodup_map h.safe.distinct hsource he (hsid.symm.trans hmid)
  obtain rfl := Except.ok.inj (hsd.symm.trans hd)
  rw [hnone] at hc
  simp at hc

/-- A batch with the message of an unstorable entry cannot be stored. -/
theorem not_rowsInDomain {entries : List StreamEntry} {entry : StreamEntry}
    (hu : Unstorable p entry) (he : entry ∈ entries)
    (hr : readMessages p.decoder (groupReply entries) = .ok messages) :
    ¬RowsInDomain p messages := by
  obtain ⟨m, event, hd, hc, hs⟩ := hu
  have hall := mapM_eq_ok.mp hr
  rw [replyEntries_groupReply] at hall
  obtain ⟨m', hm', hd'⟩ := forall₂_exists_of_mem_left hall he
  obtain rfl := Except.ok.inj (hd.symm.trans hd')
  exact fun hrows => hs (rowsInDomain_iff.mp hrows m hm' event hc)

/-- A poll leaves the poison, the table and the position in the stream as they were. -/
theorem Poisoned.pollOnce {entry : StreamEntry} (h : Poisoned p i entry s) :
    Poisoned p i entry (s.pollOnce p i) ∧ (s.pollOnce p i).table = s.table ∧
      (s.pollOnce p i).group.delivered = s.group.delivered := by
  have hreachable := h.reachable.pollOnce i
  cases hr : readMessages p.decoder
      (groupReply (s.group.readPending StreamEntry.messageId p.batchSize)) with
  | error e =>
    have hdone : s.pollOnce p i = s.abandon i := by
      simp only [System.pollOnce, System.advance, h.idle, System.readPending, if_pos h.created, hr]
      exact iterate_proceed_of_idle (Function.update_self ..) 4
    rw [hdone] at hreachable ⊢
    exact ⟨⟨hreachable, Function.update_self .., h.created, h.pending, h.unstorable⟩, rfl, rfl⟩
  | ok messages =>
    have hrows := not_rowsInDomain h.unstorable h.pending hr
    have hm : messages ≠ [] := by
      rintro rfl
      exact hrows fun event he => by simp [classify] at he
    have hsettled := pollOnce_pending h.idle h.created hm hr
    have hentry := ConsumerGroup.mem_of_mem_readPending h.pending
    have hinvalid := notMem_invalidMessageIds h.reachable h.unstorable hentry
      (decodes_of_readMessages hr fun _ => ConsumerGroup.mem_of_mem_readPending)
    have hkept : entry ∈ (s.pollOnce p i).group.readPending StreamEntry.messageId p.batchSize := by
      refine ConsumerGroup.mem_readPending_of_subset (g := s.group) (by rw [hsettled.log])
        (fun id hid => ((hsettled.pending id).mp hid).1.1) h.pending ?_
      exact (hsettled.pending _).mpr
        ⟨⟨ConsumerGroup.mem_pending_of_mem_readPending h.pending, hinvalid⟩,
          fun h' => absurd h' hrows⟩
    refine ⟨⟨hreachable, hsettled.idle, ?_, hkept, h.unstorable⟩, hsettled.table hrows, ?_⟩
    · rw [hsettled.log]
      exact h.created
    · rw [hsettled.log]

/-- However often it polls, the loop stores nothing and reads nothing new. -/
theorem Poisoned.forever {entry : StreamEntry} (h : Poisoned p i entry s) (k : Nat) :
    Poisoned p i entry ((System.pollOnce p i)^[k] s) ∧
      ((System.pollOnce p i)^[k] s).table = s.table ∧
        ((System.pollOnce p i)^[k] s).group.delivered = s.group.delivered := by
  induction k with
  | zero => exact ⟨h, rfl, rfl⟩
  | succ k ih =>
    rw [Function.iterate_succ_apply']
    obtain ⟨hp, ht, hd⟩ := ih.1.pollOnce
    exact ⟨hp, ht.trans ih.2.1, hd.trans ih.2.2⟩

/-- A poll that meets an unstorable message leaves it in front of the loop. -/
theorem poisoned_pollOnce (h : s.Reachable p) (hi : s.loops i = .idle)
    (hc : s.group.created = true) (hb : s.nextBatch p = .ok messages) {m : StreamMessage F}
    (hm : m ∈ messages) {event : WebEvent}
    (he : coercePayload p.pydantic m.payload = some event) (hs : ¬Storable p m.payload) :
    ∃ entry, entry.messageId = m.messageId ∧ Poisoned p i entry (s.pollOnce p i) := by
  rcases nextBatch_eq_ok hb with ⟨-, hr⟩ | ⟨hp, hr⟩
  · have hall := mapM_eq_ok.mp hr
    rw [replyEntries_groupReply] at hall
    obtain ⟨entry, hentry, hd⟩ := forall₂_exists_of_mem_right hall hm
    have hpoison : Poisoned p i entry s := ⟨h, hi, hc, hentry, m, event, hd, he, hs⟩
    exact ⟨entry, (decodeEntry_eq_ok.mp hd).1.symm, hpoison.pollOnce.1⟩
  · have hempty := mapM_eq_ok.mp hp
    have hall := mapM_eq_ok.mp hr
    rw [replyEntries_groupReply] at hempty hall
    obtain ⟨entry, hentry, hd⟩ := forall₂_exists_of_mem_right hall hm
    have hu : Unstorable p entry := ⟨m, event, hd, he, hs⟩
    have hsettled := pollOnce_new hi hc hp hr
    have hread := ConsumerGroup.mem_readPending_readNew h.safe.distinct p.batchSize_pos
      (List.forall₂_nil_right_iff.mp hempty) hentry
    have hinvalid := notMem_invalidMessageIds h hu (ConsumerGroup.mem_of_mem_newEntries hentry)
      (decodes_of_readMessages hr fun _ => ConsumerGroup.mem_of_mem_newEntries)
    refine ⟨entry, (decodeEntry_eq_ok.mp hd).1.symm, h.pollOnce i, hsettled.idle, ?_, ?_, hu⟩
    · rw [hsettled.log]
      exact hc
    · refine ConsumerGroup.mem_readPending_of_subset (by rw [hsettled.log])
        (fun id hid => ((hsettled.pending id).mp hid).1.1) hread ?_
      exact (hsettled.pending _).mpr
        ⟨⟨ConsumerGroup.mem_pending_of_mem_readPending hread, hinvalid⟩,
          fun h' => absurd h' (not_rowsInDomain hu hentry hr)⟩

/-- Every message of a settled batch with rows in the domain is acknowledged. -/
theorem Settles.notMem_pending
    (h : Settles p i messages (classify p.pydantic messages).invalidMessageIds s t)
    (hrows : RowsInDomain p messages) {m : StreamMessage F} (hm : m ∈ messages) :
    m.messageId ∉ t.group.pending := by
  intro hid
  obtain ⟨⟨-, hinvalid⟩, hvalid⟩ := (h.pending _).mp hid
  cases hc : coercePayload p.pydantic m.payload with
  | none => exact hinvalid (mem_invalidMessageIds.mpr ⟨m, hm, hc, rfl⟩)
  | some event => exact hvalid hrows (mem_validMessageIds.mpr ⟨m, hm, by simp [hc], rfl⟩)

/-- The row of an accepted payload lies in the domain, a poll stores and acknowledges its
batch, and a batch is not redelivered forever: each exactly under storable payloads. -/
theorem batch_stored_iff_storable (p : Pipeline F) (s : System F n) (h : s.Reachable p) (i : Fin n)
    (hi : s.loops i = .idle) (hc : s.group.created = true) (messages : List (StreamMessage F))
    (hb : s.nextBatch p = .ok messages) :
    (∀ payload event, coercePayload p.pydantic payload = some event →
      ((eventToRecordValues event).InDomain p.localZone ↔ Storable p payload)) ∧
    (((∃ result, (s.pollOnce p i).results = s.results ++ [result] ∧ result.storeFailed = false) ∧
        ∀ m ∈ messages, m.messageId ∉ (s.pollOnce p i).group.pending) ↔
      ∀ m ∈ messages, ∀ event, coercePayload p.pydantic m.payload = some event →
        Storable p m.payload) ∧
    ((∀ m ∈ messages, ∃ k,
        m.messageId ∉ ((System.pollOnce p i)^[k] (s.pollOnce p i)).group.pending) ↔
      ∀ m ∈ messages, ∀ event, coercePayload p.pydantic m.payload = some event →
        Storable p m.payload) := by
  obtain ⟨r, hr, hsettled⟩ := pollOnce_settles hi hc hb
  refine ⟨fun payload event => inDomain_iff_storable, ?_, ?_⟩
  · rw [← rowsInDomain_iff]
    obtain ⟨result, hresult, hfailed⟩ := hsettled.result
    rw [hr] at hresult
    constructor
    · rintro ⟨⟨result', hresult', hstored⟩, -⟩
      obtain rfl := List.singleton_inj.mp (List.append_cancel_left (hresult'.symm.trans hresult))
      exact hfailed.mp hstored
    · intro hrows
      exact ⟨⟨result, hresult, hfailed.mpr hrows⟩, fun m => hsettled.notMem_pending hrows⟩
  · constructor
    · intro hforever m hm event he
      by_contra hs
      obtain ⟨entry, hid, hpoison⟩ := poisoned_pollOnce h hi hc hb hm he hs
      obtain ⟨k, hk⟩ := hforever m hm
      apply hk
      rw [← hid]
      exact ConsumerGroup.mem_pending_of_mem_readPending (hpoison.forever k).1.pending
    · intro hs m hm
      exact ⟨0, hsettled.notMem_pending (rowsInDomain_iff.mpr hs) hm⟩

theorem wellEmitted_pageView (eventId userId : Str) :
    WellEmitted exactHost.ofCents (pageView eventId userId) := ⟨rfl, Or.inl rfl⟩

/-- A page view is decoded, and accepted when its ids are. -/
theorem decodeEntry_pageViewEntry (messageId eventId userId : Str) :
    decodeEntry exactPipeline.decoder (pageViewEntry messageId eventId userId) =
      .ok ⟨messageId, receivedPayload exactHost (pageView eventId userId)⟩ :=
  decodeEntry_eq_ok.mpr ⟨rfl,
    decodePayload_line exactHost_readsAsDeclared (wellEmitted_pageView _ _) rfl rfl⟩

theorem coercePayload_pageView {eventId userId : Str} (he : NonEmptyText eventId)
    (hu : NonEmptyText userId) :
    coercePayload exactPipeline.pydantic (receivedPayload exactHost (pageView eventId userId)) =
      some (received (pageView eventId userId) none) := by
  have hp : NonEmptyText (pageView eventId userId).producerId := by
    change NonEmptyText (str "producer_local")
    decide
  exact (coercePayload_receivedPayload exactHost_readsAsDeclared (wellEmitted_pageView _ _)
    rfl).trans (if_pos ⟨he, hu, hp⟩)

/-- The id of an event, ending in U+0000. -/
def nulEventId : Str := str "evt_" ++ [0]

/-- A page view with that id is on the stream and the loop is about to poll. -/
def nulRun : List (Action 1) :=
  [.ensureGroup 0, .produce (pageViewEntry (str "1-0") nulEventId (str "user_1"))]

/-- The state after that run. -/
def nulState : System Str 1 :=
  (run (System.step exactPipeline) (System.init Str 1) nulRun).getD (System.init Str 1)

/-- The message the loop reads. -/
def nulMessage : StreamMessage Str :=
  ⟨str "1-0", receivedPayload exactHost (pageView nulEventId (str "user_1"))⟩

theorem nulState_reachable : nulState.Reachable exactPipeline :=
  ⟨nulRun, run_eq_some_getD (by decide +kernel) _⟩

theorem nulState_idle : nulState.loops 0 = .idle := rfl

theorem nulState_created : nulState.group.created = true := rfl

theorem nulState_nextBatch : nulState.nextBatch exactPipeline = .ok [nulMessage] := by
  have hp : nulState.group.readPending StreamEntry.messageId exactPipeline.batchSize = [] := by
    decide +kernel
  have hn : nulState.group.newEntries exactPipeline.batchSize =
      [pageViewEntry (str "1-0") nulEventId (str "user_1")] := by decide +kernel
  rw [System.nextBatch, hp, hn]
  simp only [readBatch, readMessages, replyEntries_groupReply, List.mapM_nil, List.mapM_cons,
    decodeEntry_pageViewEntry]
  rfl

/-- U+0000 in an id is accepted, is outside the domain of its column, fails the store and
comes back at every later poll. -/
theorem nulText_accepted_not_stored :
    nulState.Reachable exactPipeline ∧ nulState.nextBatch exactPipeline = .ok [nulMessage] ∧
      (∃ event, coercePayload exactPipeline.pydantic nulMessage.payload = some event ∧
        ¬(eventToRecordValues event).InDomain exactPipeline.localZone) ∧
      (∃ result, (nulState.pollOnce exactPipeline 0).results = nulState.results ++ [result] ∧
        result.storeFailed = true) ∧
      ∀ k, nulMessage.messageId ∈ ((System.pollOnce exactPipeline 0)^[k]
        (nulState.pollOnce exactPipeline 0)).group.pending := by
  have he : coercePayload exactPipeline.pydantic nulMessage.payload =
      some (received (pageView nulEventId (str "user_1")) none) :=
    coercePayload_pageView (by decide) (by decide)
  have hdomain : ¬(eventToRecordValues (received (pageView nulEventId (str "user_1"))
      none)).InDomain exactPipeline.localZone := by
    intro h
    exact ((texts_fit_iff _).mp h.1).1 0 (by decide) |>.1 rfl
  have hrows : ¬RowsInDomain exactPipeline [nulMessage] := by
    intro h
    exact hdomain (h _ (mem_validEvents.mpr ⟨_, List.mem_singleton_self _, he⟩))
  obtain ⟨r, hr, hsettled⟩ := pollOnce_settles nulState_idle nulState_created nulState_nextBatch
  obtain ⟨result, hresult, hfailed⟩ := hsettled.result
  obtain ⟨entry, hid, hpoison⟩ := poisoned_pollOnce (i := 0) nulState_reachable nulState_idle
    nulState_created nulState_nextBatch (List.mem_singleton_self _) he
    (fun hs => hdomain ((inDomain_iff_storable he).mpr hs))
  refine ⟨nulState_reachable, nulState_nextBatch, ⟨_, he, hdomain⟩, ⟨result, ?_, ?_⟩, ?_⟩
  · rw [hr] at hresult
    exact hresult
  · exact eq_true_of_ne_false fun hstored => hrows (hfailed.mp hstored)
  · intro k
    rw [← hid]
    exact ConsumerGroup.mem_pending_of_mem_readPending (hpoison.forever k).1.pending

/-- The same batch under the condition. -/
theorem nulBatch_stored_iff_storable :
    (∀ payload event, coercePayload exactPipeline.pydantic payload = some event →
      ((eventToRecordValues event).InDomain exactPipeline.localZone ↔
        Storable exactPipeline payload)) ∧
    (((∃ result, (nulState.pollOnce exactPipeline 0).results = nulState.results ++ [result] ∧
          result.storeFailed = false) ∧
        ∀ m ∈ [nulMessage], m.messageId ∉ (nulState.pollOnce exactPipeline 0).group.pending) ↔
      ∀ m ∈ [nulMessage], ∀ event, coercePayload exactPipeline.pydantic m.payload = some event →
        Storable exactPipeline m.payload) ∧
    ((∀ m ∈ [nulMessage], ∃ k, m.messageId ∉ ((System.pollOnce exactPipeline 0)^[k]
        (nulState.pollOnce exactPipeline 0)).group.pending) ↔
      ∀ m ∈ [nulMessage], ∀ event, coercePayload exactPipeline.pydantic m.payload = some event →
        Storable exactPipeline m.payload) :=
  batch_stored_iff_storable exactPipeline nulState nulState_reachable 0 nulState_idle
    nulState_created [nulMessage] nulState_nextBatch

end LiveData.Events

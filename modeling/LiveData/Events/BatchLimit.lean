import LiveData.Events.FirstWrite

/-!
# The size of a batch

One INSERT carries one bind parameter for each value of each row, and the driver takes a
bounded number of them. A poll hands over at most as many events as one read returns, so
the configured batch size decides whether a full batch can be stored.
-/

namespace LiveData.Events

/-- The limit of the PostgreSQL driver. -/
def maxBindParameters : Nat := 32767

/-- `StreamConfig`, with the bounds its fields are declared with. -/
structure StreamConfig where
  batchSize : Int := 100
  blockMs : Int := 1000
  batchSize_ge : 1 ≤ batchSize := by decide
  blockMs_ge : 1 ≤ blockMs := by decide

/-- A value bound to a statement. -/
inductive BindValue where
  | text (value : Str)
  | optionalText (value : Option Str)
  | datetime (value : DateTime)
  | optionalDecimal (value : Option Decimal)
  deriving DecidableEq

/-- The dictionary of a row, in the order of its keys. -/
def EventRecord.values (record : EventRecord) : List (Str × BindValue) :=
  [(str "event_id", .text record.eventId),
    (str "schema_version", .text record.schemaVersion),
    (str "event_type", .text record.eventType),
    (str "occurred_at", .datetime record.occurredAt),
    (str "user_id", .text record.userId),
    (str "traffic_phase", .text record.trafficPhase),
    (str "producer_id", .text record.producerId),
    (str "page_path", .optionalText record.pagePath),
    (str "category_id", .optionalText record.categoryId),
    (str "product_id", .optionalText record.productId),
    (str "amount", .optionalDecimal record.amount),
    (str "currency", .optionalText record.currency),
    (str "error_code", .optionalText record.errorCode),
    (str "error_message", .optionalText record.errorMessage)]

/-- An INSERT of several rows that ignores conflicts. -/
structure InsertStatement where
  rows : List (List (Str × BindValue))
  indexElements : List Str
  returning : List Str

/-- `build_insert_events_statement`. -/
def buildInsertEventsStatement (events : List WebEvent) : InsertStatement where
  rows := events.map fun event => (eventToRecordValues event).values
  indexElements := [str "event_id"]
  returning := [str "event_id"]

/-- The parameters of the compiled statement, one for each key of each row. -/
def InsertStatement.bindParameters (statement : InsertStatement) : List BindValue :=
  statement.rows.flatMap fun row => row.map Prod.snd

/-- `save_batch` over a driver that refuses a statement with too many parameters. -/
def saveBatchOverDriver (localZone : LocalZone) (table : EventTable) (events : List WebEvent) :
    Option (Nat × EventTable) :=
  if maxBindParameters < (buildInsertEventsStatement events).bindParameters.length then none
  else saveBatch localZone table events

/-- A statement has fourteen parameters for each event. -/
theorem length_bindParameters (events : List WebEvent) :
    (buildInsertEventsStatement events).bindParameters.length = 14 * events.length := by
  simp only [InsertStatement.bindParameters, buildInsertEventsStatement]
  induction events with
  | nil => rfl
  | cons event events ih =>
    rw [List.map_cons, List.flatMap_cons, List.length_append, ih, List.length_cons]
    have hrow : ((eventToRecordValues event).values.map Prod.snd).length = 14 := rfl
    omega

theorem saveBatch_of_inDomain {localZone : LocalZone} (table : EventTable)
    {events : List WebEvent}
    (h : ∀ event ∈ events, (eventToRecordValues event).InDomain localZone) :
    (saveBatch localZone table events).isSome = true := by
  unfold saveBatch
  split
  · rfl
  · rfl

section Polls

variable {F : Type} {n : Nat} {p : Pipeline F} {s t : System F n}

/-- The messages a poll holds. -/
def Phase.messages : Phase F → List (StreamMessage F)
  | .read messages | .invalidAcked messages _ | .stored messages _ _ => messages
  | .idle | .readingNew => []

/-- No poll holds more messages than one read returns. -/
def System.WithinBatch (p : Pipeline F) (s : System F n) : Prop :=
  ∀ i, (s.loops i).messages.length ≤ p.batchSize

theorem System.WithinBatch.update (h : s.WithinBatch p) {i : Fin n} (phase : Phase F)
    (hphase : phase.messages.length ≤ p.batchSize)
    (ht : t.loops = Function.update s.loops i phase) : t.WithinBatch p := by
  rw [System.WithinBatch, ht]
  exact (Function.forall_update_iff s.loops fun _ phase =>
    phase.messages.length ≤ p.batchSize).mpr ⟨hphase, fun j _ => h j⟩

theorem System.WithinBatch.congr (h : s.WithinBatch p) (ht : t.loops = s.loops) :
    t.WithinBatch p := fun i => ht ▸ h i

theorem length_readMessages {entries : List StreamEntry} {messages : List (StreamMessage F)}
    (h : readMessages p.decoder (groupReply entries) = .ok messages) :
    messages.length = entries.length := by
  have hall := mapM_eq_ok.mp h
  rw [replyEntries_groupReply] at hall
  exact hall.length_eq.symm

/-- A read returns at most as many messages as it asks for. -/
theorem withinBatch_readPending (h : s.WithinBatch p) (i : Fin n) :
    (s.readPending p i).WithinBatch p := by
  unfold System.readPending
  split
  · split
    · exact h.update .idle (Nat.zero_le _) rfl
    · exact h.update .readingNew (Nat.zero_le _) rfl
    · next message messages hread =>
      refine h.update (.read (message :: messages)) ?_ rfl
      rw [Phase.messages, length_readMessages hread]
      exact List.length_take_le _ _
  · exact h.update .idle (Nat.zero_le _) rfl

theorem withinBatch_readNew (h : s.WithinBatch p) (i : Fin n) :
    (s.readNew p i).WithinBatch p := by
  unfold System.readNew
  dsimp only
  split
  · exact h.update .idle (Nat.zero_le _) rfl
  · next messages hread =>
    refine h.update (.read messages) ?_ rfl
    rw [Phase.messages, length_readMessages hread]
    exact List.length_take_le _ _

/-- Every step keeps the polls within the batch size. -/
theorem withinBatch_step {a : Action n} (h : s.WithinBatch p) (ha : System.step p s a = some t) :
    t.WithinBatch p := by
  cases a with
  | produce entry =>
    obtain ⟨-, rfl⟩ := System.step_produce.mp ha
    exact h.congr rfl
  | redeliver messageId =>
    obtain ⟨-, rfl⟩ := System.step_redeliver.mp ha
    exact h.congr rfl
  | ensureGroup i =>
    obtain ⟨-, rfl⟩ := System.step_ensureGroup.mp ha
    exact h.congr rfl
  | readPending i =>
    obtain ⟨-, rfl⟩ := System.step_readPending.mp ha
    exact withinBatch_readPending h i
  | readNew i =>
    obtain ⟨-, rfl⟩ := System.step_readNew.mp ha
    exact withinBatch_readNew h i
  | ackInvalid i =>
    obtain ⟨messages, hi, rfl⟩ := System.step_ackInvalid.mp ha
    have hm := h i
    rw [hi] at hm
    unfold System.ackInvalid
    dsimp only
    split
    · exact h.update .idle (Nat.zero_le _) rfl
    · exact h.update (.invalidAcked messages _) hm rfl
  | storeCommit i =>
    obtain ⟨messages, ackedCount, hi, hs⟩ := System.step_storeCommit.mp ha
    have hm := h i
    rw [hi] at hm
    obtain ⟨stored, -, rfl⟩ := Option.map_eq_some_iff.mp hs
    exact h.update (.stored messages ackedCount _) hm rfl
  | storeFail i =>
    obtain ⟨_, _, -, rfl⟩ := System.step_storeFail.mp ha
    exact h.update .idle (Nat.zero_le _) rfl
  | storeUnconfirmed i =>
    obtain ⟨_, _, -, hs⟩ := System.step_storeUnconfirmed.mp ha
    obtain ⟨stored, -, rfl⟩ := Option.map_eq_some_iff.mp hs
    exact h.update .idle (Nat.zero_le _) rfl
  | ackValid i =>
    obtain ⟨_, _, _, -, rfl⟩ := System.step_ackValid.mp ha
    exact h.update .idle (Nat.zero_le _) rfl
  | crash i =>
    rcases System.step_crash.mp ha with ⟨-, rfl⟩ | ⟨-, rfl⟩
    · exact h
    · exact h.update .idle (Nat.zero_le _) rfl

/-- In every reachable state no poll holds more messages than the batch size. -/
theorem withinBatch_of_reachable (h : s.Reachable p) : s.WithinBatch p := by
  obtain ⟨actions, hrun⟩ := h
  exact invariant_of_run (fun _ _ _ hs ha => withinBatch_step hs ha)
    (fun _ => Nat.zero_le _) hrun

end Polls

/-- Batches of the configured size fit the driver: in one statement, in every poll of every
run, and so that only the values of the rows can fail the store. -/
structure FullBatchFits (config : StreamConfig) : Prop where
  statement : ∀ events : List WebEvent, (events.length : Int) ≤ config.batchSize →
    (buildInsertEventsStatement events).bindParameters.length ≤ maxBindParameters
  polls : ∀ (F : Type) (p : Pipeline F), (p.batchSize : Int) = config.batchSize →
    ∀ (n : Nat) (s : System F n), s.Reachable p → ∀ i messages ackedCount,
      s.loops i = .invalidAcked messages ackedCount →
        (buildInsertEventsStatement
          (classify p.pydantic messages).validEvents).bindParameters.length ≤ maxBindParameters
  saved : ∀ (localZone : LocalZone) (table : EventTable) (events : List WebEvent),
    (events.length : Int) ≤ config.batchSize →
      (∀ event ∈ events, (eventToRecordValues event).InDomain localZone) →
        (saveBatchOverDriver localZone table events).isSome = true

/-- A page view without optional values. -/
def plainEvent : WebEvent where
  schemaVersion := .webEventV1
  eventId := str "evt_1"
  eventType := .pageView
  occurredAt := ⟨0, some 0, by decide⟩
  userId := str "user_1"
  trafficPhase := .normal
  producerId := str "producer_1"
  pagePath := none
  categoryId := none
  productId := none
  amount := none
  currency := none
  errorCode := none
  errorMessage := none

/-- A full batch of plain events bounds the configured size. -/
theorem batchSize_le_of_fullBatchFits {config : StreamConfig} (h : FullBatchFits config) :
    config.batchSize ≤ 2340 := by
  have hge := config.batchSize_ge
  have hlength : ((List.replicate config.batchSize.toNat plainEvent).length : Int) ≤
      config.batchSize := by
    rw [List.length_replicate]
    omega
  have hfull := h.statement _ hlength
  rw [length_bindParameters, List.length_replicate, maxBindParameters] at hfull
  omega

/-- A full batch fits exactly when the configured size is at most 2340. -/
theorem fullBatchFits_iff (config : StreamConfig) :
    FullBatchFits config ↔ config.batchSize ≤ 2340 := by
  refine ⟨batchSize_le_of_fullBatchFits, fun h => ?_⟩
  have hstatement : ∀ events : List WebEvent, (events.length : Int) ≤ config.batchSize →
      (buildInsertEventsStatement events).bindParameters.length ≤ maxBindParameters := by
    intro events hlength
    rw [length_bindParameters, maxBindParameters]
    omega
  refine ⟨hstatement, fun F p hp n s hs i messages ackedCount hi => ?_,
    fun localZone table events hlength hdomain => ?_⟩
  · have hwithin := withinBatch_of_reachable hs i
    rw [hi, Phase.messages] at hwithin
    have hvalid := length_classify p.pydantic messages
    exact hstatement _ (by omega)
  · rw [saveBatchOverDriver, if_neg (Nat.not_lt.mpr (hstatement events hlength))]
    exact saveBatch_of_inDomain table hdomain

/-- A batch size of 3000 is accepted, and a full batch has 42000 parameters. -/
theorem batchSize_3000_not_fits : ¬∀ config : StreamConfig, FullBatchFits config := by
  intro h
  have hfits := batchSize_le_of_fullBatchFits (h { batchSize := 3000 })
  exact absurd hfits (by decide)

end LiveData.Events

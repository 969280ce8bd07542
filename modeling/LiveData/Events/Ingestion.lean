import LiveData.Core.ConsumerGroup
import LiveData.Core.Runs
import LiveData.Events.EventStore
import LiveData.Events.StreamConsumer
import Mathlib.Logic.Function.Basic

/-!
# The ingestion loops

Any number of loops share one consumer group and one consumer name. A step is what one
loop does between two awaits, a crash, or the stream's own progress. A store that raises has
committed its batch all the same when only the reply to the commit was lost.
-/

namespace LiveData.Events

open Json

/-- The runtime of the loops: decoding, the local zone of the database driver and the
number of entries per read. -/
structure Pipeline (F : Type) where
  decoder : Decoder F
  pydantic : Pydantic F
  localZone : LocalZone
  batchSize : Nat
  batchSize_pos : 1 ≤ batchSize

/-- `EventStreamIngestionPollResult`. -/
structure PollResult where
  readCount : Nat
  validCount : Nat
  invalidCount : Nat
  ackedCount : Nat
  insertedCount : Nat
  storeFailed : Bool := false
  deriving DecidableEq, Repr

/-- The three lists the loop of `poll_once` fills. -/
structure Classified where
  validEvents : List WebEvent
  validMessageIds : List Str
  invalidMessageIds : List Str

variable {F : Type}

/-- The classification of a batch. -/
def classify (pydantic : Pydantic F) : List (StreamMessage F) → Classified
  | [] => ⟨[], [], []⟩
  | message :: messages =>
    let rest := classify pydantic messages
    match coercePayload pydantic message.payload with
    | none => { rest with invalidMessageIds := message.messageId :: rest.invalidMessageIds }
    | some event =>
      { rest with
        validEvents := event :: rest.validEvents
        validMessageIds := message.messageId :: rest.validMessageIds }

/-- Where a loop stands between two awaits of `poll_once`. -/
inductive Phase (F : Type) where
  | idle
  | readingNew
  | read (messages : List (StreamMessage F))
  | invalidAcked (messages : List (StreamMessage F)) (ackedCount : Nat)
  | stored (messages : List (StreamMessage F)) (ackedCount insertedCount : Nat)

/-- The consumer group of the stream. -/
abbrev EventGroup := ConsumerGroup StreamEntry Str

/-- The stream, the table and the loops, with the history of what was committed, of the
poll results, of the polls that ended without one, and of the rows that were inserted by a
store that raised. -/
structure System (F : Type) (n : Nat) where
  group : EventGroup
  table : EventTable
  loops : Fin n → Phase F
  committed : List WebEvent := []
  results : List PollResult := []
  aborted : Nat := 0
  unconfirmed : Nat := 0

/-- What may happen next. -/
inductive Action (n : Nat) where
  | produce (entry : StreamEntry)
  | redeliver (messageId : Str)
  | ensureGroup (i : Fin n)
  | readPending (i : Fin n)
  | readNew (i : Fin n)
  | ackInvalid (i : Fin n)
  | storeCommit (i : Fin n)
  | storeFail (i : Fin n)
  | storeUnconfirmed (i : Fin n)
  | ackValid (i : Fin n)
  | crash (i : Fin n)

/-- An action of the loops or of the producers: Redis redelivers nothing by itself. -/
def Action.IsPolled {n : Nat} (a : Action n) : Prop := ∀ messageId, a ≠ .redeliver messageId

/-- The reply of `xreadgroup` for the one stream that is read. -/
def groupReply (entries : List StreamEntry) : ReadGroupReply :=
  [(.text (str "web.events.raw.v1"), entries)]

@[simp] theorem replyEntries_groupReply (entries : List StreamEntry) :
    replyEntries (groupReply entries) = entries := by simp [replyEntries, groupReply]

namespace System

variable {n : Nat}

/-- An empty stream, an empty table and idle loops. -/
def init (F : Type) (n : Nat) : System F n where
  group := .empty
  table := []
  loops := fun _ => .idle

/-- A loop moves on. -/
def enter (s : System F n) (i : Fin n) (phase : Phase F) : System F n :=
  { s with loops := Function.update s.loops i phase }

/-- A poll returns. -/
def finish (s : System F n) (i : Fin n) (result : PollResult) : System F n :=
  { s.enter i .idle with results := s.results ++ [result] }

/-- A poll ends without a result. -/
def abandon (s : System F n) (i : Fin n) : System F n :=
  { s.enter i .idle with aborted := s.aborted + 1 }

variable (p : Pipeline F)

/-- The first read of `read_batch`; without a group it raises. -/
def readPending (s : System F n) (i : Fin n) : System F n :=
  if s.group.created then
    match readMessages p.decoder
        (groupReply (s.group.readPending StreamEntry.messageId p.batchSize)) with
    | .error _ => s.abandon i
    | .ok [] => s.enter i .readingNew
    | .ok (message :: messages) => s.enter i (.read (message :: messages))
  else s.abandon i

/-- The second read of `read_batch`: the entries are delivered even when decoding raises. -/
def readNew (s : System F n) (i : Fin n) : System F n :=
  let t := { s with group := s.group.readNew StreamEntry.messageId p.batchSize }
  match readMessages p.decoder (groupReply (s.group.newEntries p.batchSize)) with
  | .error _ => t.abandon i
  | .ok messages => t.enter i (.read messages)

/-- The acknowledgement of the invalid messages; without valid ones the poll returns. -/
def ackInvalid (s : System F n) (i : Fin n) (messages : List (StreamMessage F)) : System F n :=
  let batch := classify p.pydantic messages
  let ackedCount := (s.group.ackable batch.invalidMessageIds).length
  let t := { s with group := s.group.ack batch.invalidMessageIds }
  if batch.validEvents = [] then
    t.finish i
      { readCount := messages.length
        validCount := 0
        invalidCount := batch.invalidMessageIds.length
        ackedCount := ackedCount
        insertedCount := 0 }
  else t.enter i (.invalidAcked messages ackedCount)

/-- The transaction of `save_batch` commits, if the table can hold the batch. -/
def storeCommit (s : System F n) (i : Fin n) (messages : List (StreamMessage F))
    (ackedCount : Nat) : Option (System F n) :=
  let batch := classify p.pydantic messages
  (ingest p.localZone s.table batch.validEvents).map fun stored =>
    { s.enter i (.stored messages ackedCount stored.1.insertedCount) with
      table := stored.2
      committed := s.committed ++ batch.validEvents }

/-- The store raises and the poll returns. -/
def storeFail (s : System F n) (i : Fin n) (messages : List (StreamMessage F))
    (ackedCount : Nat) : System F n :=
  let batch := classify p.pydantic messages
  s.finish i
    { readCount := messages.length
      validCount := batch.validEvents.length
      invalidCount := batch.invalidMessageIds.length
      ackedCount := ackedCount
      insertedCount := 0
      storeFailed := true }

/-- The transaction commits, the store raises before it knows, and the poll returns. -/
def storeUnconfirmed (s : System F n) (i : Fin n) (messages : List (StreamMessage F))
    (ackedCount : Nat) : Option (System F n) :=
  let batch := classify p.pydantic messages
  (ingest p.localZone s.table batch.validEvents).map fun stored =>
    { s.storeFail p i messages ackedCount with
      table := stored.2
      committed := s.committed ++ batch.validEvents
      unconfirmed := s.unconfirmed + stored.1.insertedCount }

/-- The acknowledgement of the stored messages, with which the poll returns. -/
def ackValid (s : System F n) (i : Fin n) (messages : List (StreamMessage F))
    (ackedCount insertedCount : Nat) : System F n :=
  let batch := classify p.pydantic messages
  let t := { s with group := s.group.ack batch.validMessageIds }
  t.finish i
    { readCount := messages.length
      validCount := batch.validEvents.length
      invalidCount := batch.invalidMessageIds.length
      ackedCount := ackedCount + (s.group.ackable batch.validMessageIds).length
      insertedCount := insertedCount }

/-- One step of the system, when its action is possible. -/
def step (s : System F n) : Action n → Option (System F n)
  | .produce entry =>
    if entry.messageId ∈ s.group.entries.map StreamEntry.messageId then none
    else some { s with group := s.group.append entry }
  | .redeliver messageId =>
    if messageId ∈ (s.group.entries.take s.group.delivered).map StreamEntry.messageId then
      some { s with group := s.group.redeliver messageId }
    else none
  | .ensureGroup i =>
    match s.loops i with
    | .idle => some { s with group := s.group.create }
    | _ => none
  | .readPending i =>
    match s.loops i with
    | .idle => some (s.readPending p i)
    | _ => none
  | .readNew i =>
    match s.loops i with
    | .readingNew => some (s.readNew p i)
    | _ => none
  | .ackInvalid i =>
    match s.loops i with
    | .read messages => some (s.ackInvalid p i messages)
    | _ => none
  | .storeCommit i =>
    match s.loops i with
    | .invalidAcked messages ackedCount => s.storeCommit p i messages ackedCount
    | _ => none
  | .storeFail i =>
    match s.loops i with
    | .invalidAcked messages ackedCount => some (s.storeFail p i messages ackedCount)
    | _ => none
  | .storeUnconfirmed i =>
    match s.loops i with
    | .invalidAcked messages ackedCount => s.storeUnconfirmed p i messages ackedCount
    | _ => none
  | .ackValid i =>
    match s.loops i with
    | .stored messages ackedCount insertedCount =>
      some (s.ackValid p i messages ackedCount insertedCount)
    | _ => none
  | .crash i =>
    match s.loops i with
    | .idle => some s
    | _ => some (s.abandon i)

/-- A state some run leads to. -/
def Reachable (s : System F n) : Prop := ∃ actions, run (step p) (init F n) actions = some s

/-! ## When a step is possible -/

section Steps

variable {p : Pipeline F} {s t : System F n}

theorem step_produce {entry : StreamEntry} : s.step p (.produce entry) = some t ↔
    entry.messageId ∉ s.group.entries.map StreamEntry.messageId ∧
      t = { s with group := s.group.append entry } := by
  simp only [step, Option.ite_none_left_eq_some, Option.some.injEq]
  exact and_congr_right' eq_comm

theorem step_redeliver {messageId : Str} : s.step p (.redeliver messageId) = some t ↔
    messageId ∈ (s.group.entries.take s.group.delivered).map StreamEntry.messageId ∧
      t = { s with group := s.group.redeliver messageId } := by
  simp only [step, Option.ite_none_right_eq_some, Option.some.injEq]
  exact and_congr_right' eq_comm

theorem step_ensureGroup {i : Fin n} : s.step p (.ensureGroup i) = some t ↔
    s.loops i = .idle ∧ t = { s with group := s.group.create } := by
  cases hi : s.loops i <;> simp [step, hi, eq_comm]

theorem step_readPending {i : Fin n} : s.step p (.readPending i) = some t ↔
    s.loops i = .idle ∧ t = s.readPending p i := by
  cases hi : s.loops i <;> simp [step, hi, eq_comm]

theorem step_readNew {i : Fin n} : s.step p (.readNew i) = some t ↔
    s.loops i = .readingNew ∧ t = s.readNew p i := by
  cases hi : s.loops i <;> simp [step, hi, eq_comm]

theorem step_ackInvalid {i : Fin n} : s.step p (.ackInvalid i) = some t ↔
    ∃ messages, s.loops i = .read messages ∧ t = s.ackInvalid p i messages := by
  cases hi : s.loops i <;> simp [step, hi, eq_comm]

theorem step_storeCommit {i : Fin n} : s.step p (.storeCommit i) = some t ↔
    ∃ messages ackedCount, s.loops i = .invalidAcked messages ackedCount ∧
      s.storeCommit p i messages ackedCount = some t := by
  cases hi : s.loops i <;> simp [step, hi]

theorem step_storeFail {i : Fin n} : s.step p (.storeFail i) = some t ↔
    ∃ messages ackedCount, s.loops i = .invalidAcked messages ackedCount ∧
      t = s.storeFail p i messages ackedCount := by
  cases hi : s.loops i <;> simp [step, hi, eq_comm]

theorem step_storeUnconfirmed {i : Fin n} : s.step p (.storeUnconfirmed i) = some t ↔
    ∃ messages ackedCount, s.loops i = .invalidAcked messages ackedCount ∧
      s.storeUnconfirmed p i messages ackedCount = some t := by
  cases hi : s.loops i <;> simp [step, hi]

theorem step_ackValid {i : Fin n} : s.step p (.ackValid i) = some t ↔
    ∃ messages ackedCount insertedCount, s.loops i = .stored messages ackedCount insertedCount ∧
      t = s.ackValid p i messages ackedCount insertedCount := by
  cases hi : s.loops i <;> simp [step, hi, eq_comm]

theorem step_crash {i : Fin n} : s.step p (.crash i) = some t ↔
    s.loops i = .idle ∧ t = s ∨ s.loops i ≠ .idle ∧ t = s.abandon i := by
  cases hi : s.loops i <;> simp [step, hi, eq_comm]

end Steps

end System

end LiveData.Events

import LiveData.Core.Json.Scanner
import LiveData.Core.Outcome
import LiveData.Events.Payload

/-!
# The stream consumer

Decoding of the entries a read returns. Entries carry ids that decode, as the ids of a
stream do; their fields are arbitrary.
-/

namespace LiveData.Events

open Json

/-- A value as the client returns it. -/
inductive RedisText where
  | bytes (b : List UInt8)
  | text (s : Str)
  deriving DecidableEq, Repr

/-- Exceptions of decoding an entry. -/
inductive ReadError where
  | unicodeDecodeError
  | json (error : DecodeError)
  deriving DecidableEq, Repr

/-- `bytes.decode()`: strict UTF-8. -/
def decodeUtf8 (b : List UInt8) : Option Str :=
  (ByteArray.mk b.toArray).utf8Decode?.map fun cs => cs.toList.map Char.toNat

/-- `_decode_text`. -/
def decodeText : RedisText → Except ReadError Str
  | .bytes b =>
    match decodeUtf8 b with
    | some s => .ok s
    | none => .error .unicodeDecodeError
  | .text s => .ok s

/-- `RedisStreamFields`. -/
abbrev RawFields := List (RedisText × RedisText)

/-- `b"payload"`. -/
def payloadBytesKey : RedisText := .bytes [112, 97, 121, 108, 111, 97, 100]

/-- `"payload"`. -/
def payloadTextKey : RedisText := .text (str "payload")

/-- The truth value of bytes and of a text. -/
def RedisText.isTruthy : RedisText → Bool
  | .bytes b => !b.isEmpty
  | .text s => !s.isEmpty

/-- `raw_fields.get(b"payload") or raw_fields.get("payload")`. -/
def payloadValue (rawFields : RawFields) : Option RedisText :=
  match rawFields.lookup payloadBytesKey with
  | some v => if v.isTruthy then some v else rawFields.lookup payloadTextKey
  | none => rawFields.lookup payloadTextKey

variable {F : Type}

/-- `json.loads(_decode_text(value))`. -/
def parsePayload (decoder : Decoder F) (v : RedisText) : Except ReadError (Value F) := do
  let s ← decodeText v
  (loads decoder s).mapError .json

/-- `_decode_payload`: only two of the exceptions are caught. -/
def decodePayload (decoder : Decoder F) (rawFields : RawFields) :
    Except ReadError (JsonObject F) :=
  match payloadValue rawFields with
  | none => .ok []
  | some v =>
    match parsePayload decoder v with
    | .error .unicodeDecodeError => .ok []
    | .error (.json .jsonDecodeError) => .ok []
    | .error e => .error e
    | .ok (.object items) => .ok items
    | .ok _ => .ok []

/-- An entry of the stream. -/
structure StreamEntry where
  rawId : RedisText
  messageId : Str
  decodes : decodeText rawId = .ok messageId
  fields : RawFields
  deriving DecidableEq

/-- `StreamMessage`. -/
structure StreamMessage (F : Type) where
  messageId : Str
  payload : JsonObject F

/-- The decoding of one entry. -/
def decodeEntry (decoder : Decoder F) (entry : StreamEntry) :
    Except ReadError (StreamMessage F) := do
  let messageId ← decodeText entry.rawId
  let payload ← decodePayload decoder entry.fields
  return ⟨messageId, payload⟩

/-- The reply of `xreadgroup`: entries by stream name. -/
abbrev ReadGroupReply := List (RedisText × List StreamEntry)

/-- The entries of a reply in order. -/
def replyEntries (reply : ReadGroupReply) : List StreamEntry := reply.flatMap Prod.snd

/-- `_read_messages`, decoding entry by entry. -/
def readMessages (decoder : Decoder F) (reply : ReadGroupReply) :
    Except ReadError (List (StreamMessage F)) :=
  (replyEntries reply).mapM (decodeEntry decoder)

/-- `read_batch` on the replies for pending and for new entries. -/
def readBatch (decoder : Decoder F) (pendingReply newReply : ReadGroupReply) :
    Except ReadError (List (StreamMessage F)) := do
  let pendingMessages ← readMessages decoder pendingReply
  if pendingMessages.isEmpty then readMessages decoder newReply else return pendingMessages

/-- The entries `read_batch` returns messages for. -/
def batchEntries (pendingReply newReply : ReadGroupReply) : List StreamEntry :=
  if (replyEntries pendingReply).isEmpty then replyEntries newReply else replyEntries pendingReply

/-- A message has the id of its entry and the payload decoded from its fields. -/
theorem decodeEntry_eq_ok {decoder : Decoder F} {entry : StreamEntry} {message : StreamMessage F} :
    decodeEntry decoder entry = .ok message ↔ message.messageId = entry.messageId ∧
      decodePayload decoder entry.fields = .ok message.payload := by
  obtain ⟨id, payload⟩ := message
  simp only [decodeEntry, entry.decodes, ok_bind]
  cases decodePayload decoder entry.fields <;> simp [pure, Except.pure, bind, Except.bind, eq_comm]

end LiveData.Events

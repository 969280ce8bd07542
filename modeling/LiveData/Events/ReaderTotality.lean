import LiveData.Core.Json.Limits
import LiveData.Events.StreamConsumer

/-!
# Reading a batch

One message per entry, carrying the object the payload denotes, or the empty object.
The reader keeps this exactly for the batches in which no payload makes the JSON scanner
give up at a limit.
-/

namespace LiveData.Events

open Json

variable {F : Type}

/-- The text of the payload, when there is one and it decodes. -/
def payloadText (rawFields : RawFields) : Option Str :=
  (payloadValue rawFields).bind fun v => (decodeText v).toOption

/-- The payload denotes a JSON object. -/
def PayloadDenotes (decoder : Decoder F) (rawFields : RawFields) (items : JsonObject F) : Prop :=
  ∃ s, payloadText rawFields = some s ∧ Denotes decoder s (.object items)

/-- The object an entry carries; an entry without one carries the empty object, which the
validation drops. -/
structure Carries (decoder : Decoder F) (pydantic : Pydantic F) (rawFields : RawFields)
    (payload : JsonObject F) : Prop where
  denoted : ∀ items, PayloadDenotes decoder rawFields items → payload = items
  dropped : (∀ items, ¬PayloadDenotes decoder rawFields items) →
    payload = [] ∧ coercePayload pydantic payload = none

/-- `read_batch` raises nothing and returns one message per entry in order. -/
def ReadsEveryEntry (decoder : Decoder F) (pydantic : Pydantic F)
    (pendingReply newReply : ReadGroupReply) : Prop :=
  ∃ messages, readBatch decoder pendingReply newReply = .ok messages ∧
    List.Forall₂ (fun entry message => message.messageId = entry.messageId ∧
      Carries decoder pydantic entry.fields message.payload)
      (batchEntries pendingReply newReply) messages

variable {decoder : Decoder F} {rawFields : RawFields}

theorem decodePayload_of_none (h : payloadText rawFields = none) :
    decodePayload decoder rawFields = .ok [] := by
  unfold payloadText at h
  unfold decodePayload
  cases hv : payloadValue rawFields with
  | none => rfl
  | some v =>
    rw [hv, Option.bind_some] at h
    cases v with
    | text s => simp [decodeText, Except.toOption] at h
    | bytes b =>
      cases hb : decodeUtf8 b with
      | some s => simp [decodeText, hb, Except.toOption] at h
      | none => simp [parsePayload, decodeText, hb]

/-- On a payload that is text, `_decode_payload` handles what `loads` does with it. -/
theorem decodePayload_of_some {s : Str} (h : payloadText rawFields = some s) :
    decodePayload decoder rawFields =
      match loads decoder s with
      | .error .jsonDecodeError => .ok []
      | .error e => .error (.json e)
      | .ok (.object items) => .ok items
      | .ok _ => .ok [] := by
  unfold payloadText at h
  unfold decodePayload
  cases hv : payloadValue rawFields with
  | none => simp [hv] at h
  | some v =>
    rw [hv, Option.bind_some] at h
    have hd : decodeText v = .ok s := by
      cases hd : decodeText v with
      | error e => simp [hd, Except.toOption] at h
      | ok t => simpa [hd, Except.toOption] using h
    have hp : parsePayload decoder v = (loads decoder s).mapError .json := by
      simp only [parsePayload, hd, ok_bind]
    simp only [hp]
    cases hl : loads decoder s with
    | error e => cases e <;> rfl
    | ok w => cases w <;> rfl

/-- What `_decode_payload` returns is what the payload carries. -/
theorem carries_of_decodePayload (pydantic : Pydantic F) {payload : JsonObject F}
    (h : decodePayload decoder rawFields = .ok payload) :
    Carries decoder pydantic rawFields payload := by
  cases hs : payloadText rawFields with
  | none =>
    rw [decodePayload_of_none hs] at h
    obtain rfl := Except.ok.inj h
    refine ⟨?_, fun _ => ⟨rfl, coercePayload_nil pydantic⟩⟩
    rintro items ⟨s, hs', -⟩
    simp [hs] at hs'
  | some s =>
    have htext : ∀ items, PayloadDenotes decoder rawFields items ↔
        Denotes decoder s (.object items) := by
      intro items
      constructor
      · rintro ⟨t, ht, hd⟩
        obtain rfl := Option.some.inj (hs.symm.trans ht)
        exact hd
      · exact fun hd => ⟨s, hs, hd⟩
    have hdrop : payload = [] → payload = [] ∧ coercePayload pydantic payload = none := by
      rintro rfl
      exact ⟨rfl, coercePayload_nil pydantic⟩
    rw [decodePayload_of_some hs] at h
    cases hl : loads decoder s with
    | error e =>
      rw [hl] at h
      cases e with
      | jsonDecodeError =>
        obtain rfl := Except.ok.inj h
        exact ⟨fun items hi => absurd ((htext items).mp hi) (not_denotes_of_loads hl _),
          fun _ => hdrop rfl⟩
      | valueError => simp at h
      | recursionError => simp at h
    | ok v =>
      rw [hl] at h
      have heq : ∀ items, PayloadDenotes decoder rawFields items → Value.object items = v :=
        fun items hi => ((htext items).mp hi).eq_of_loads hl
      cases v with
      | object found =>
        obtain rfl := Except.ok.inj h
        refine ⟨fun items hi => ?_, fun hn => ?_⟩
        · exact (Value.object.inj (heq items hi)).symm
        · exact absurd ((htext _).mpr (denotes_of_loads hl)) (hn _)
      | null | bool | int | float | string | array =>
        obtain rfl := Except.ok.inj h
        exact ⟨fun items hi => absurd (heq items hi) (by simp), fun _ => hdrop rfl⟩

/-- `_decode_payload` raises exactly when the scanner gives up on the payload. -/
theorem decodePayload_returns_iff : (∃ payload, decodePayload decoder rawFields = .ok payload) ↔
    ∀ s, payloadText rawFields = some s → ¬HitsLimit decoder s := by
  cases hs : payloadText rawFields with
  | none =>
    rw [decodePayload_of_none hs]
    simp
  | some s =>
    rw [decodePayload_of_some hs]
    simp only [Option.some.injEq, forall_eq']
    cases hl : loads decoder s with
    | error e => cases e <;> simp [HitsLimit, hl, DecodeError.IsLimit]
    | ok v => cases v <;> simp [HitsLimit, hl]

/-- A batch is decoded when the payload of each of its entries is. -/
theorem readBatch_eq (pendingReply newReply : ReadGroupReply)
    (messages : List (StreamMessage F)) :
    readBatch decoder pendingReply newReply = .ok messages ↔
      (batchEntries pendingReply newReply).mapM (decodeEntry decoder) = .ok messages := by
  simp only [readBatch, batchEntries, readMessages, bind_eq_ok]
  cases hp : replyEntries pendingReply with
  | nil => simp [pure, Except.pure]
  | cons entry entries =>
    simp only [List.isEmpty_cons, Bool.false_eq_true, ite_false]
    constructor
    · rintro ⟨pending, h, hr⟩
      have hne : pending ≠ [] := by
        rintro rfl
        exact absurd (mapM_eq_ok.mp h) (by simp)
      have he : pending.isEmpty = false := by simpa using hne
      simp only [he, Bool.false_eq_true, ite_false] at hr
      rw [h, ← hr]
      rfl
    · intro h
      have hne : messages ≠ [] := by
        rintro rfl
        exact absurd (mapM_eq_ok.mp h) (by simp)
      have he : messages.isEmpty = false := by simpa using hne
      exact ⟨messages, h, by simp [he, pure, Except.pure]⟩

/-- A batch is read exactly when no payload makes the scanner give up. -/
theorem readBatch_returns_iff {pendingReply newReply : ReadGroupReply} :
    (∃ messages, readBatch decoder pendingReply newReply = .ok messages) ↔
      ∀ entry ∈ batchEntries pendingReply newReply, ∀ s, payloadText entry.fields = some s →
        ¬HitsLimit decoder s := by
  simp only [readBatch_eq, exists_mapM_eq_ok]
  apply forall₂_congr
  intro entry _
  rw [← decodePayload_returns_iff]
  constructor
  · rintro ⟨message, hm⟩
    exact ⟨_, (decodeEntry_eq_ok.mp hm).2⟩
  · rintro ⟨payload, hp⟩
    exact ⟨⟨entry.messageId, payload⟩, decodeEntry_eq_ok.mpr ⟨rfl, hp⟩⟩

/-- Reading keeps its promise on exactly the batches none of whose payloads makes the
scanner give up. -/
theorem readsEveryEntry_iff (decoder : Decoder F) (pydantic : Pydantic F)
    (pendingReply newReply : ReadGroupReply) :
    ReadsEveryEntry decoder pydantic pendingReply newReply ↔
      ∀ entry ∈ batchEntries pendingReply newReply, ∀ s, payloadText entry.fields = some s →
        ¬HitsLimit decoder s := by
  rw [← readBatch_returns_iff]
  constructor
  · rintro ⟨messages, hm, -⟩
    exact ⟨messages, hm⟩
  · rintro ⟨messages, hm⟩
    refine ⟨messages, hm, (mapM_eq_ok.mp ((readBatch_eq _ _ _).mp hm)).imp ?_⟩
    intro entry message hd
    obtain ⟨hid, hp⟩ := decodeEntry_eq_ok.mp hd
    exact ⟨hid, carries_of_decodePayload pydantic hp⟩

/-- An entry whose payload is an integer of 4301 digits. -/
def longIntegerEntry : StreamEntry where
  rawId := .text (str "1-0")
  messageId := str "1-0"
  decodes := rfl
  fields := [(payloadTextKey, .text (List.replicate 4301 49))]

/-- The digit and recursion limits of CPython. -/
def cpythonDecoder : Decoder Str := ⟨id, 4300, 1000⟩

/-- One long integer makes every read of its entry raise. -/
theorem longInteger_not_readsEveryEntry :
    ¬∀ (F : Type) (decoder : Decoder F) (pydantic : Pydantic F)
      (pendingReply newReply : ReadGroupReply),
        ReadsEveryEntry decoder pydantic pendingReply newReply := by
  intro h
  obtain ⟨messages, hm, -⟩ := h Str cpythonDecoder ⟨fun _ => none, fun _ => none⟩ []
    [(.text (str "web.events.raw.v1"), [longIntegerEntry])]
  have hlong : HitsLimit cpythonDecoder (List.replicate 4301 49) := by
    refine hitsLimit_of_long_integer ⟨by decide, fun c hc => ?_, by decide⟩ ?_
    · rw [List.eq_of_mem_replicate hc]
      decide
    · rw [List.length_replicate]
      decide
  exact readBatch_returns_iff.mp ⟨messages, hm⟩ longIntegerEntry
    (by simp [batchEntries, replyEntries]) _ rfl hlong

end LiveData.Events

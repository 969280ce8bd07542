import LiveData.Core.Json.RoundTrip
import LiveData.Events.StreamConsumer
import LiveData.Generator.Generation

/-!
# The wire format between generator and consumer

A generated line decodes to an event with the same fourteen fields unless one of the
required texts is empty or has a lone surrogate. Floats are used through their text only:
amounts are printed with two decimals at most and read back as exact decimals.
-/

namespace LiveData.Events

open Json Generator

/-- The text of a whole number of cents as a float prints it. -/
def centsText (n : Nat) : Str :=
  natText (n / 100) ++
    46 :: if n % 10 = 0 then [48 + n / 10 % 10] else [48 + n / 10 % 10, 48 + n % 10]

/-- Both runtimes: the decoder and Pydantic of the consumer, `float.__repr__` and
`round(n / 100, 2)` of the generator. -/
structure WireHost (F : Type) where
  decoder : Decoder F
  pydantic : Pydantic F
  floatRepr : F → Str
  ofCents : Nat → F

variable {F : Type}

/-- Amounts of up to fifteen digits keep their decimals, ISO 8601 timestamps are parsed,
and a flat object may be read. -/
structure WireHost.ReadsAsDeclared (host : WireHost F) : Prop where
  floatRepr : ∀ n < 10 ^ 15, host.floatRepr (host.ofCents n) = centsText n
  decimal : ∀ n < 10 ^ 15, ∃ d,
    host.pydantic.decimal (.float (host.decoder.parseFloat (centsText n))) = some d ∧
      d.value = n / 100
  datetime : ∀ t : CivilTime, t.microsecond % 1000 = 0 →
    host.pydantic.datetime (.string t.isoText) = some t.utc
  nesting : 0 < host.decoder.recursionLimit

/-- The received event has the fields of the generated one. -/
structure Preserves (host : WireHost F) (event : GeneratedEvent F) (received : WebEvent) :
    Prop where
  schemaVersion : received.schemaVersion.text = eventSchemaVersion
  eventId : received.eventId = event.eventId
  eventType : received.eventType.text = event.eventType.value
  occurredAt : ∀ localZone,
    received.occurredAt.toUtc localZone = some (event.occurredAt.micros : Int)
  userId : received.userId = event.userId
  trafficPhase : received.trafficPhase.text = event.trafficPhase.value
  producerId : received.producerId = event.producerId
  pagePath : received.pagePath = event.pagePath
  categoryId : received.categoryId = event.categoryId
  productId : received.productId = event.productId
  amount : (event.amount = none ∧ received.amount = none) ∨
    ∃ n d, n < 10 ^ 15 ∧ event.amount = some (host.ofCents n) ∧ received.amount = some d ∧
      d.value = n / 100
  currency : received.currency = event.currency
  errorCode : received.errorCode = event.errorCode
  errorMessage : received.errorMessage = event.errorMessage

/-- Emitted events stand on whole milliseconds and have amounts of whole cents. -/
structure WellEmitted (ofCents : Nat → F) (event : GeneratedEvent F) : Prop where
  occurredAt : event.occurredAt.microsecond % 1000 = 0
  amount : event.amount = none ∨ ∃ n < 10 ^ 15, event.amount = some (ofCents n)

theorem wellEmitted_of_emits {ofCents : Nat → F} {g : EventGenerator} {event : GeneratedEvent F}
    (h : Emits ofCents g event) : WellEmitted ofCents event := by
  obtain ⟨d, -, rfl⟩ := h
  have hmilli : (chooseOccurredAt g.config.startTime d.hour d.millisecondOfHour).microsecond %
      1000 = 0 := Nat.mul_mod_left _ _
  have hcents : d.product.priceCents - d.discountCents < 10 ^ 15 := by
    have hle := d.product.priceCents_le
    omega
  constructor
  · simp only [EventGenerator.generateOne]
    split <;> exact hmilli
  · simp only [EventGenerator.generateOne]
    split
    · exact Or.inl rfl
    · exact Or.inl rfl
    · exact Or.inl rfl
    · exact Or.inr ⟨_, hcents, rfl⟩
    · exact Or.inl rfl

/-- Amounts are written as plain decimals. -/
theorem floatText_centsText (n : Nat) : FloatText (centsText n) := by
  have hinteger : IntegerText (natText (n / 100)) := by
    obtain ⟨c, digits, hd, hc⟩ := natText_eq_cons (n / 100)
    rw [hd]
    exact hc
  have hdigit : ∀ k, isDigit (48 + k % 10) = true := by
    intro k
    simp only [isDigit, Bool.and_eq_true, decide_eq_true_eq]
    omega
  refine ⟨_, _, rfl, hinteger, ?_, ?_⟩
  · split <;> simp
  · intro c hc
    split at hc
    · obtain rfl := List.mem_singleton.mp hc
      exact hdigit _
    · rcases List.mem_pair.mp hc with rfl | rfl <;> exact hdigit _

variable {host : WireHost F} {event : GeneratedEvent F}

theorem plain_toJsonDict (h : host.ReadsAsDeclared) (he : WellEmitted host.ofCents event) :
    ∀ m ∈ event.toJsonDict, m.2.Plain host.floatRepr := by
  have htext : ∀ s : Option Str, (textScalar s : Scalar F).Plain host.floatRepr := by
    intro s
    cases s <;> exact trivial
  have hamount : (floatScalar event.amount).Plain host.floatRepr := by
    rcases he.amount with ha | ⟨n, hn, ha⟩
    · rw [ha]
      exact trivial
    · rw [ha]
      change FloatText (host.floatRepr (host.ofCents n))
      rw [h.floatRepr n hn]
      exact floatText_centsText n
  intro m hm
  simp only [GeneratedEvent.toJsonDict, List.mem_cons, List.not_mem_nil, or_false] at hm
  rcases hm with rfl | rfl | rfl | rfl | rfl | rfl | rfl | rfl | rfl | rfl | rfl | rfl | rfl | rfl
  all_goals first | exact trivial | exact htext _ | exact hamount

/-- The object the consumer decodes from the line. -/
def receivedPayload (host : WireHost F) (event : GeneratedEvent F) : JsonObject F :=
  readMembers host.decoder host.floatRepr event.toJsonDict

/-- A line is decoded to the members that were written. -/
theorem decodePayload_line (h : host.ReadsAsDeclared) (he : WellEmitted host.ofCents event)
    {rawFields : RawFields} {v : RedisText} (hv : payloadValue rawFields = some v)
    (hl : decodeText v = .ok (eventToJsonLine host.floatRepr event)) :
    decodePayload host.decoder rawFields = .ok (receivedPayload host event) := by
  have hk : (Dict.keys event.toJsonDict).Nodup := by
    rw [event.keys_toJsonDict]
    decide
  have hloads := loads_dumps_of_nodup h.nesting (plain_toJsonDict h he) hk
  have hparse : parsePayload host.decoder v = .ok (.object (receivedPayload host event)) := by
    simp only [parsePayload, hl, ok_bind, eventToJsonLine, hloads]
    rfl
  simp only [decodePayload, hv, hparse]

/-- The consumer's event type of the same text. -/
def receivedType : Generator.EventType → EventType
  | .pageView => .pageView
  | .productClick => .productClick
  | .addToCart => .addToCart
  | .purchase => .purchase
  | .checkoutError => .checkoutError

/-- The consumer's traffic phase of the same text. -/
def receivedPhase : Generator.TrafficPhase → TrafficPhase
  | .slow => .slow
  | .normal => .normal
  | .burst => .burst

/-- The event the consumer makes of a line, with the amount it reads. -/
def received (event : GeneratedEvent F) (amount : Option Decimal) : WebEvent where
  schemaVersion := .webEventV1
  eventId := event.eventId
  eventType := receivedType event.eventType
  occurredAt := event.occurredAt.utc
  userId := event.userId
  trafficPhase := receivedPhase event.trafficPhase
  producerId := event.producerId
  pagePath := event.pagePath
  categoryId := event.categoryId
  productId := event.productId
  amount := amount
  currency := event.currency
  errorCode := event.errorCode
  errorMessage := event.errorMessage

theorem literal_eventType (t : Generator.EventType) :
    literal eventTypeValues (.string t.value : Value F) = some (receivedType t) := by
  cases t <;> rfl

theorem literal_trafficPhase (p : Generator.TrafficPhase) :
    literal trafficPhaseValues (.string p.value : Value F) = some (receivedPhase p) := by
  cases p <;> rfl

theorem orNull_text (s : Option Str) :
    orNull text ((textScalar s : Scalar F).toValue host.decoder host.floatRepr) = some s := by
  cases s <;> rfl

/-- Reading a member of the decoded object. -/
theorem field_receivedPayload {α : Type} (i : Nat) {name : Str} {x : Value F}
    (hi : (receivedPayload host event)[i]? = some (name, x)) (validate : Value F → Option α) :
    field (receivedPayload host event) name validate = validate x := by
  have hk : (Dict.keys (receivedPayload host event)).Nodup := by
    change payloadFields.Nodup
    decide
  have hm := (Dict.lookup_eq_some_iff hk).mpr (List.mem_of_getElem? hi)
  rw [field, hm]
  rfl

/-- The amount of an emitted event is read as the same number of cents. -/
theorem exists_received_amount (h : host.ReadsAsDeclared) (he : WellEmitted host.ofCents event) :
    ∃ amount, orNull host.pydantic.decimal
        ((floatScalar event.amount).toValue host.decoder host.floatRepr) = some amount ∧
      ((event.amount = none ∧ amount = none) ∨ ∃ n d, n < 10 ^ 15 ∧
        event.amount = some (host.ofCents n) ∧ amount = some d ∧ d.value = n / 100) := by
  rcases he.amount with ha | ⟨n, hn, ha⟩
  · exact ⟨none, by rw [ha]; rfl, Or.inl ⟨ha, rfl⟩⟩
  · obtain ⟨d, hd, hvalue⟩ := h.decimal n hn
    refine ⟨some d, ?_, Or.inr ⟨n, d, hn, ha, rfl, hvalue⟩⟩
    rw [ha]
    change (host.pydantic.decimal
      (.float (host.decoder.parseFloat (host.floatRepr (host.ofCents n))))).map some = _
    rw [h.floatRepr n hn, hd]
    rfl

/-- The decoded object is an event when its required texts are `NonEmptyText`. -/
theorem coercePayload_receivedPayload (h : host.ReadsAsDeclared)
    (he : WellEmitted host.ofCents event) {amount : Option Decimal}
    (ha : orNull host.pydantic.decimal
      ((floatScalar event.amount).toValue host.decoder host.floatRepr) = some amount) :
    coercePayload host.pydantic (receivedPayload host event) =
      if NonEmptyText event.eventId ∧ NonEmptyText event.userId ∧
          NonEmptyText event.producerId then
        some (received event amount)
      else none := by
  have hkeys : ∀ name ∈ Dict.keys (receivedPayload host event), name ∈ payloadFields :=
    fun _ hname => hname
  have hv : literal schemaVersionValues (.string eventSchemaVersion : Value F) =
      some .webEventV1 := rfl
  have hd := h.datetime event.occurredAt he.occurredAt
  unfold coercePayload
  rw [if_pos hkeys, field_receivedPayload 0 rfl, field_receivedPayload 1 rfl,
    field_receivedPayload 2 rfl, field_receivedPayload 3 rfl, field_receivedPayload 4 rfl,
    field_receivedPayload 5 rfl, field_receivedPayload 6 rfl, field_receivedPayload 7 rfl,
    field_receivedPayload 8 rfl, field_receivedPayload 9 rfl, field_receivedPayload 10 rfl,
    field_receivedPayload 11 rfl, field_receivedPayload 12 rfl, field_receivedPayload 13 rfl]
  simp only [Scalar.toValue_string, hv, hd, ha, literal_eventType, literal_trafficPhase,
    orNull_text, nonEmptyText, Option.bind_eq_bind, Option.bind_some]
  by_cases hid : NonEmptyText event.eventId
  swap
  · simp [hid]
  by_cases hu : NonEmptyText event.userId
  swap
  · simp [hid, hu]
  by_cases hp : NonEmptyText event.producerId
  swap
  · simp [hid, hu, hp]
  simp [hid, hu, hp, received]

/-- The received event preserves the generated one. -/
theorem preserves_received {amount : Option Decimal}
    (ha : (event.amount = none ∧ amount = none) ∨ ∃ n d, n < 10 ^ 15 ∧
      event.amount = some (host.ofCents n) ∧ amount = some d ∧ d.value = n / 100) :
    Preserves host event (received event amount) where
  schemaVersion := rfl
  eventId := rfl
  eventType := by
    change (receivedType event.eventType).text = event.eventType.value
    cases event.eventType <;> rfl
  occurredAt := event.occurredAt.toUtc_utc
  userId := rfl
  trafficPhase := by
    change (receivedPhase event.trafficPhase).text = event.trafficPhase.value
    cases event.trafficPhase <;> rfl
  producerId := rfl
  pagePath := rfl
  categoryId := rfl
  productId := rfl
  amount := ha
  currency := rfl
  errorCode := rfl
  errorMessage := rfl

/-- A generated line is received as an event exactly when its required texts are not
empty and encodable as UTF-8, and then every field is preserved. -/
theorem coercePayload_line_iff (host : WireHost F) (h : host.ReadsAsDeclared) (g : EventGenerator)
    (event : GeneratedEvent F) (he : Emits host.ofCents g event) (rawFields : RawFields)
    (v : RedisText) (hv : payloadValue rawFields = some v)
    (hl : decodeText v = .ok (eventToJsonLine host.floatRepr event)) :
    ∃ payload, decodePayload host.decoder rawFields = .ok payload ∧
      ((∃ e, coercePayload host.pydantic payload = some e) ↔
        NonEmptyText event.eventId ∧ NonEmptyText event.userId ∧
          NonEmptyText event.producerId) ∧
      ∀ e, coercePayload host.pydantic payload = some e → Preserves host event e := by
  have hw := wellEmitted_of_emits he
  obtain ⟨amount, ha, hamount⟩ := exists_received_amount h hw
  refine ⟨receivedPayload host event, decodePayload_line h hw hv hl, ?_, ?_⟩
  · rw [coercePayload_receivedPayload h hw ha]
    by_cases hc : NonEmptyText event.eventId ∧ NonEmptyText event.userId ∧
        NonEmptyText event.producerId
    · simp [hc]
    · simp [hc]
  · intro e hr
    rw [coercePayload_receivedPayload h hw ha] at hr
    split at hr
    · obtain rfl := Option.some.inj hr
      exact preserves_received hamount
    · simp at hr

/-- The decimal a plain text denotes. -/
def decimalOfText (t : Str) : Decimal :=
  let parts := spanRun isDigit t
  ⟨digitsValue (parts.1 ++ parts.2.tail), -(parts.2.tail.length : Int)⟩

/-- Floats kept as their texts, with exact decimals and ISO 8601 timestamps. -/
def exactHost : WireHost Str where
  decoder := ⟨id, 4300, 1000⟩
  pydantic :=
    { datetime := fun
        | .string s => (CivilTime.parseIso s).map CivilTime.utc
        | _ => none
      decimal := fun
        | .float t => some (decimalOfText t)
        | _ => none }
  floatRepr := id
  ofCents := centsText

theorem value_decimalOfText_centsText (n : Nat) :
    (decimalOfText (centsText n)).value = n / 100 := by
  obtain ⟨c, digits, hd, hc⟩ := natText_eq_cons (n / 100)
  have hall : ∀ d ∈ natText (n / 100), isDigit d = true := by
    rw [hd]
    exact List.forall_mem_cons.mpr ⟨hc.1, hc.2.1⟩
  have hspan := fun rest => spanRun_of_stops hall ((stopsRun_cons isDigit 46 rest).mpr rfl)
  simp only [decimalOfText, centsText, hspan, List.tail_cons, digitsValue_append,
    digitsValue_natText, Decimal.value]
  split
  · next h0 =>
    have hd1 : digitsValue [48 + n / 10 % 10] = n / 10 % 10 := by simp [digitsValue]
    have hn : n = 10 * (n / 100 * 10 + n / 10 % 10) := by omega
    have hq : (n : ℚ) = 10 * (((n / 100 * 10 + n / 10 % 10 : ℕ) : ℤ) : ℚ) := by
      exact_mod_cast congrArg (Nat.cast : ℕ → ℚ) hn
    rw [hd1, hq, List.length_singleton, pow_one, Nat.cast_one, zpow_neg_one]
    ring
  · have hd2 : digitsValue [48 + n / 10 % 10, 48 + n % 10] = 10 * (n / 10 % 10) + n % 10 := by
      simp [digitsValue]
    have hn : n = n / 100 * 10 ^ 2 + (10 * (n / 10 % 10) + n % 10) := by omega
    have hlen : [48 + n / 10 % 10, 48 + n % 10].length = 2 := rfl
    rw [hd2, hlen, ← hn, Int.cast_natCast]
    norm_num [zpow_neg]
    ring

theorem exactHost_readsAsDeclared : exactHost.ReadsAsDeclared where
  floatRepr := fun _ _ => rfl
  decimal := fun n _ => ⟨_, rfl, value_decimalOfText_centsText n⟩
  datetime := fun t ht => by
    change (CivilTime.parseIso t.isoText).map CivilTime.utc = some t.utc
    rw [t.parseIso_isoText ht]
    rfl
  nesting := by decide

/-- A generator that started at midnight, twelve hours before its reference. -/
def noonGenerator : EventGenerator where
  config :=
    { producerId := str "producer_local"
      startTime := ⟨2026, 4, 24, 0, 0, 0, 0, by decide, by decide, by decide, by decide, by decide,
        by decide, by decide, by decide, by decide, by decide⟩
      referenceTime := ⟨2026, 4, 24, 12, 0, 0, 0, by decide, by decide, by decide, by decide,
        by decide, by decide, by decide, by decide, by decide, by decide⟩ }
  catalog :=
    { users := [⟨str "user_013", str "cat_audio"⟩]
      products := [⟨str "prod_audio_teal", ⟨str "cat_audio", str "audio", 4900, 49900⟩, 9900,
        by decide, by decide, by decide⟩]
      pageTargets := [{ path := str "/" }] }
  eventIdPrefix := 7
  eventSequence := 0
  start_le := by decide
  prefix_lt := by decide

/-- A purchase at ten with one dollar off. -/
def purchaseDraws : Draws where
  phase := .burst
  eventType := .purchase
  userProfile := ⟨str "user_013", str "cat_audio"⟩
  pageTarget := { path := str "/" }
  product := ⟨str "prod_audio_teal", ⟨str "cat_audio", str "audio", 4900, 49900⟩, 9900,
    by decide, by decide, by decide⟩
  discountCents := 105
  error := (str "TIMEOUT", [])
  hour := 10
  millisecondOfHour := 61001

theorem noonGenerator_allows : noonGenerator.Allows purchaseDraws where
  user := by simp [noonGenerator, purchaseDraws]
  target := fun h => by cases h
  product := fun _ => by simp [noonGenerator, purchaseDraws]
  discount := fun _ => by decide
  error := fun h => by cases h
  hour := by decide
  lower := by decide
  upper := by decide

/-- A purchase for 97.95 goes over the wire. -/
theorem coercePayload_purchase_line :
    ∃ payload, decodePayload exactHost.decoder [(payloadTextKey, .text (eventToJsonLine
        exactHost.floatRepr (noonGenerator.generateOne exactHost.ofCents purchaseDraws).1))] =
        .ok payload ∧
      ((∃ e, coercePayload exactHost.pydantic payload = some e) ↔
        NonEmptyText (noonGenerator.generateOne exactHost.ofCents purchaseDraws).1.eventId ∧
        NonEmptyText (noonGenerator.generateOne exactHost.ofCents purchaseDraws).1.userId ∧
        NonEmptyText (noonGenerator.generateOne exactHost.ofCents purchaseDraws).1.producerId) ∧
      ∀ e, coercePayload exactHost.pydantic payload = some e →
        Preserves exactHost (noonGenerator.generateOne exactHost.ofCents purchaseDraws).1 e :=
  coercePayload_line_iff exactHost exactHost_readsAsDeclared noonGenerator _
    ⟨purchaseDraws, noonGenerator_allows, rfl⟩ _ _ rfl rfl

/-- The same generator under a name that was not UTF-8 on the command line. -/
def surrogateGenerator : EventGenerator :=
  { noonGenerator with
    config := { noonGenerator.config with producerId := str "producer_" ++ [0xDCFF] } }

/-- Its purchase has ids that are not empty, and is rejected all the same. -/
theorem surrogate_purchase_rejected :
    ∃ event payload, Emits exactHost.ofCents surrogateGenerator event ∧
      decodePayload exactHost.decoder [(payloadTextKey, .text (eventToJsonLine
        exactHost.floatRepr event))] = .ok payload ∧
      (event.eventId ≠ [] ∧ event.userId ≠ [] ∧ event.producerId ≠ []) ∧
      ¬∃ e, coercePayload exactHost.pydantic payload = some e := by
  have hallows : surrogateGenerator.Allows purchaseDraws :=
    ⟨noonGenerator_allows.user, noonGenerator_allows.target, noonGenerator_allows.product,
      noonGenerator_allows.discount, noonGenerator_allows.error, noonGenerator_allows.hour,
      noonGenerator_allows.lower, noonGenerator_allows.upper⟩
  have he : Emits exactHost.ofCents surrogateGenerator
      (surrogateGenerator.generateOne exactHost.ofCents purchaseDraws).1 := ⟨_, hallows, rfl⟩
  have hw := wellEmitted_of_emits he
  obtain ⟨amount, ha, -⟩ := exists_received_amount exactHost_readsAsDeclared hw
  refine ⟨_, _, he, decodePayload_line exactHost_readsAsDeclared hw rfl rfl, by decide, ?_⟩
  rw [coercePayload_receivedPayload exactHost_readsAsDeclared hw ha, if_neg (by decide)]
  rintro ⟨_, ⟨⟩⟩

end LiveData.Events

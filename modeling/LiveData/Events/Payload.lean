import LiveData.Core.Json.Scanner
import LiveData.Events.Domain

/-!
# The stream payload schema

`WebEventPayload` validated as declared, field by field, and its conversion to an event.
How Pydantic reads a timestamp and a decimal from a JSON value is a parameter.
-/

namespace LiveData.Events

open Json

/-- A JSON object decoded from the stream. -/
abbrev JsonObject (F : Type) := List (Str × Value F)

/-- How Pydantic reads the values of the two parsed field types. -/
structure Pydantic (F : Type) where
  datetime : Value F → Option DateTime
  decimal : Value F → Option Decimal

/-- The fields of `WebEventPayload`; every other key is forbidden. -/
def payloadFields : List Str :=
  [str "schema_version", str "event_id", str "event_type", str "occurred_at", str "user_id",
    str "traffic_phase", str "producer_id", str "page_path", str "category_id", str "product_id",
    str "amount", str "currency", str "error_code", str "error_message"]

/-- The values of `EventSchemaVersion`. -/
def schemaVersionValues : List (Str × EventSchemaVersion) := [(str "web_event.v1", .webEventV1)]

/-- The values of `EventType`. -/
def eventTypeValues : List (Str × EventType) :=
  [(str "page_view", .pageView), (str "product_click", .productClick),
    (str "add_to_cart", .addToCart), (str "purchase", .purchase),
    (str "checkout_error", .checkoutError)]

/-- The values of `TrafficPhase`. -/
def trafficPhaseValues : List (Str × TrafficPhase) :=
  [(str "slow", .slow), (str "normal", .normal), (str "burst", .burst)]

/-- `NonEmptyText`. The length is taken of the UTF-8 form, so a text with a lone surrogate
fails too, which a `str` field without bounds accepts. -/
def NonEmptyText (s : Str) : Prop := s ≠ [] ∧ ∀ c ∈ s, isScalar c = true

instance (s : Str) : Decidable (NonEmptyText s) := inferInstanceAs (Decidable (_ ∧ ∀ c ∈ s, _))

section

variable {F α : Type}

/-- A `Literal` field: one of the listed texts. -/
def literal (values : List (Str × α)) : Value F → Option α
  | .string s => values.lookup s
  | _ => none

/-- A `str` field. -/
def text : Value F → Option Str
  | .string s => some s
  | _ => none

/-- A `NonEmptyText` field. -/
def nonEmptyText : Value F → Option Str
  | .string s => if NonEmptyText s then some s else none
  | _ => none

/-- A field that may also be null. -/
def orNull (validate : Value F → Option α) : Value F → Option (Option α)
  | .null => some none
  | v => (validate v).map some

/-- A required field. -/
def field (payload : JsonObject F) (name : Str) (validate : Value F → Option α) : Option α :=
  (payload.lookup name).bind validate

/-- `_coerce_payload`. -/
def coercePayload (pydantic : Pydantic F) (payload : JsonObject F) : Option WebEvent :=
  if ∀ name ∈ Dict.keys payload, name ∈ payloadFields then do
    let schemaVersion ← field payload (str "schema_version") (literal schemaVersionValues)
    let eventId ← field payload (str "event_id") nonEmptyText
    let eventType ← field payload (str "event_type") (literal eventTypeValues)
    let occurredAt ← field payload (str "occurred_at") pydantic.datetime
    let userId ← field payload (str "user_id") nonEmptyText
    let trafficPhase ← field payload (str "traffic_phase") (literal trafficPhaseValues)
    let producerId ← field payload (str "producer_id") nonEmptyText
    let pagePath ← field payload (str "page_path") (orNull text)
    let categoryId ← field payload (str "category_id") (orNull text)
    let productId ← field payload (str "product_id") (orNull text)
    let amount ← field payload (str "amount") (orNull pydantic.decimal)
    let currency ← field payload (str "currency") (orNull text)
    let errorCode ← field payload (str "error_code") (orNull text)
    let errorMessage ← field payload (str "error_message") (orNull text)
    some ⟨schemaVersion, eventId, eventType, occurredAt, userId, trafficPhase, producerId,
      pagePath, categoryId, productId, amount, currency, errorCode, errorMessage⟩
  else none

/-- The empty object is no event. -/
@[simp] theorem coercePayload_nil (pydantic : Pydantic F) : coercePayload pydantic [] = none := by
  simp [coercePayload, field]

end

end LiveData.Events

import LiveData.Core.Iso8601
import LiveData.Core.Json.Encoder

/-!
# Generated events and their lines

`GeneratedEvent` with its dictionary in field order, and its JSON line. Amounts are
floats of which only their text is used.
-/

namespace LiveData.Generator

open Json

/-- `EventType` of the generator. -/
inductive EventType where
  | pageView
  | productClick
  | addToCart
  | purchase
  | checkoutError
  deriving DecidableEq, Repr

/-- The value of an event type. -/
def EventType.value : EventType → Str
  | .pageView => str "page_view"
  | .productClick => str "product_click"
  | .addToCart => str "add_to_cart"
  | .purchase => str "purchase"
  | .checkoutError => str "checkout_error"

/-- `TrafficPhase` of the generator. -/
inductive TrafficPhase where
  | slow
  | normal
  | burst
  deriving DecidableEq, Repr

/-- The value of a traffic phase. -/
def TrafficPhase.value : TrafficPhase → Str
  | .slow => str "slow"
  | .normal => str "normal"
  | .burst => str "burst"

/-- `EVENT_SCHEMA_VERSION`. -/
def eventSchemaVersion : Str := str "web_event.v1"

/-- A generated event; its moment is aware and in UTC. -/
structure GeneratedEvent (F : Type) where
  eventId : Str
  eventType : EventType
  occurredAt : CivilTime
  userId : Str
  trafficPhase : TrafficPhase
  producerId : Str
  pagePath : Option Str := none
  categoryId : Option Str := none
  productId : Option Str := none
  amount : Option F := none
  currency : Option Str := none
  errorCode : Option Str := none
  errorMessage : Option Str := none

variable {F : Type}

/-- A text or null. -/
def textScalar : Option Str → Scalar F
  | some s => .string s
  | none => .null

/-- A float or null. -/
def floatScalar : Option F → Scalar F
  | some x => .float x
  | none => .null

/-- `GeneratedEvent.to_json_dict`. -/
def GeneratedEvent.toJsonDict (event : GeneratedEvent F) : List (Str × Scalar F) :=
  [(str "schema_version", .string eventSchemaVersion),
    (str "event_id", .string event.eventId),
    (str "event_type", .string event.eventType.value),
    (str "occurred_at", .string event.occurredAt.isoText),
    (str "user_id", .string event.userId),
    (str "traffic_phase", .string event.trafficPhase.value),
    (str "producer_id", .string event.producerId),
    (str "page_path", textScalar event.pagePath),
    (str "category_id", textScalar event.categoryId),
    (str "product_id", textScalar event.productId),
    (str "amount", floatScalar event.amount),
    (str "currency", textScalar event.currency),
    (str "error_code", textScalar event.errorCode),
    (str "error_message", textScalar event.errorMessage)]

/-- `event_to_json_line`, with `float.__repr__` as a parameter. -/
def eventToJsonLine (floatRepr : F → Str) (event : GeneratedEvent F) : Str :=
  dumps floatRepr event.toJsonDict

/-- The keys of the dictionary are the same for every event. -/
theorem GeneratedEvent.keys_toJsonDict (event : GeneratedEvent F) :
    Dict.keys event.toJsonDict =
      [str "schema_version", str "event_id", str "event_type", str "occurred_at", str "user_id",
        str "traffic_phase", str "producer_id", str "page_path", str "category_id",
        str "product_id", str "amount", str "currency", str "error_code", str "error_message"] :=
  rfl

end LiveData.Generator

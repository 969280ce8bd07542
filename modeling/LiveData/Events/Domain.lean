import LiveData.Core.Calendar
import LiveData.Core.Decimal
import LiveData.Core.Text

/-!
# Web events and their rows

The validated event of the ingestion pipeline, the row it is stored as, and the values
the columns of the events table can hold.
-/

namespace LiveData.Events

/-- `EventSchemaVersion`. -/
inductive EventSchemaVersion where
  | webEventV1
  deriving DecidableEq, Repr

/-- `EventType`. -/
inductive EventType where
  | pageView
  | productClick
  | addToCart
  | purchase
  | checkoutError
  deriving DecidableEq, Repr

/-- `TrafficPhase`. -/
inductive TrafficPhase where
  | slow
  | normal
  | burst
  deriving DecidableEq, Repr

/-- The text of a schema version. -/
def EventSchemaVersion.text : EventSchemaVersion → Str
  | .webEventV1 => str "web_event.v1"

/-- The text of an event type. -/
def EventType.text : EventType → Str
  | .pageView => str "page_view"
  | .productClick => str "product_click"
  | .addToCart => str "add_to_cart"
  | .purchase => str "purchase"
  | .checkoutError => str "checkout_error"

/-- The text of a traffic phase. -/
def TrafficPhase.text : TrafficPhase → Str
  | .slow => str "slow"
  | .normal => str "normal"
  | .burst => str "burst"

/-- Internal validated event. -/
structure WebEvent where
  schemaVersion : EventSchemaVersion
  eventId : Str
  eventType : EventType
  occurredAt : DateTime
  userId : Str
  trafficPhase : TrafficPhase
  producerId : Str
  pagePath : Option Str
  categoryId : Option Str
  productId : Option Str
  amount : Option Decimal
  currency : Option Str
  errorCode : Option Str
  errorMessage : Option Str
  deriving DecidableEq

/-- The inserted values of one row, keyed by `event_id`. -/
structure EventRecord where
  eventId : Str
  schemaVersion : Str
  eventType : Str
  occurredAt : DateTime
  userId : Str
  trafficPhase : Str
  producerId : Str
  pagePath : Option Str
  categoryId : Option Str
  productId : Option Str
  amount : Option Decimal
  currency : Option Str
  errorCode : Option Str
  errorMessage : Option Str
  deriving DecidableEq

/-- `event_to_record_values`. -/
def eventToRecordValues (event : WebEvent) : EventRecord where
  eventId := event.eventId
  schemaVersion := event.schemaVersion.text
  eventType := event.eventType.text
  occurredAt := event.occurredAt
  userId := event.userId
  trafficPhase := event.trafficPhase.text
  producerId := event.producerId
  pagePath := event.pagePath
  categoryId := event.categoryId
  productId := event.productId
  amount := event.amount
  currency := event.currency
  errorCode := event.errorCode
  errorMessage := event.errorMessage

/-- A `TEXT` value: encodable as UTF-8 and without U+0000. -/
def FitsText (s : Str) : Prop := ∀ c ∈ s, c ≠ 0 ∧ isScalar c = true

instance (s : Str) : Decidable (FitsText s) := inferInstanceAs (Decidable (∀ c ∈ s, _))

/-- The texts of a row. -/
def EventRecord.texts (r : EventRecord) : List Str :=
  [r.eventId, r.schemaVersion, r.eventType, r.userId, r.trafficPhase, r.producerId] ++
    [r.pagePath, r.categoryId, r.productId, r.currency, r.errorCode, r.errorMessage].filterMap id

/-- The row lies in the value domain of the events table. -/
def EventRecord.InDomain (localZone : LocalZone) (r : EventRecord) : Prop :=
  (∀ t ∈ r.texts, FitsText t) ∧ r.occurredAt.FitsUtc localZone ∧
    ∀ d ∈ r.amount, FitsNumeric12d2 d.value

instance (localZone : LocalZone) (r : EventRecord) : Decidable (r.InDomain localZone) :=
  inferInstanceAs (Decidable (_ ∧ _ ∧ _))

theorem EventSchemaVersion.fitsText (v : EventSchemaVersion) : FitsText v.text := by
  cases v
  decide

theorem EventType.fitsText (t : EventType) : FitsText t.text := by cases t <;> decide

theorem TrafficPhase.fitsText (p : TrafficPhase) : FitsText p.text := by cases p <;> decide

end LiveData.Events

import LiveData.Generator.Models

/-!
# Event generation

`EventGenerator.generate_one` with its random draws as arguments. The constructor takes
its times normalised to UTC and rejects a start after the reference; the catalog holds
any texts, and prices within the bounds of the category templates.
-/

namespace LiveData.Generator

/-- Category generation template. -/
structure CategoryTemplate where
  categoryId : Str
  slug : Str
  minPriceCents : Nat
  maxPriceCents : Nat
  deriving DecidableEq, Repr

/-- `_CATEGORY_TEMPLATES`. -/
def categoryTemplates : List CategoryTemplate :=
  [⟨str "cat_smartphone", str "smartphone", 39900, 129900⟩,
    ⟨str "cat_laptop", str "laptop", 79900, 249900⟩,
    ⟨str "cat_audio", str "audio", 4900, 49900⟩,
    ⟨str "cat_accessory", str "accessory", 900, 19900⟩]

/-- Page path and optional category of a page view. -/
structure PageTarget where
  path : Str
  categoryId : Option Str := none
  deriving DecidableEq, Repr

/-- Catalog product with a price its category template allows. -/
structure Product where
  productId : Str
  template : CategoryTemplate
  priceCents : Nat
  template_mem : template ∈ categoryTemplates
  price_ge : template.minPriceCents ≤ priceCents
  price_le : priceCents ≤ template.maxPriceCents
  deriving DecidableEq

/-- The category of a product. -/
def Product.categoryId (product : Product) : Str := product.template.categoryId

/-- No product costs more than the dearest template allows. -/
theorem Product.priceCents_le (product : Product) : product.priceCents ≤ 249900 := by
  have hall : ∀ t ∈ categoryTemplates, t.maxPriceCents ≤ 249900 := by decide
  exact product.price_le.trans (hall _ product.template_mem)

/-- Fake user profile. -/
structure UserProfile where
  userId : Str
  preferredCategoryId : Str
  deriving DecidableEq, Repr

/-- The pools built from Faker. -/
structure FakerDataCatalog where
  users : List UserProfile
  products : List Product
  pageTargets : List PageTarget

/-- The configuration, its times normalised to UTC. -/
structure EventGeneratorConfig where
  producerId : Str
  startTime : CivilTime
  referenceTime : CivilTime

/-- A generator whose constructor accepted its configuration. -/
structure EventGenerator where
  config : EventGeneratorConfig
  catalog : FakerDataCatalog
  eventIdPrefix : Nat
  eventSequence : Nat
  start_le : config.startTime.micros ≤ config.referenceTime.micros
  prefix_lt : eventIdPrefix < 2 ^ 32

/-- `_FUTURE_START_TIME_ERROR`. -/
def futureStartTimeError : Str := str "start time must not be in the future"

/-- `EventGenerator.__init__` with `_ensure_start_time_is_not_future`, the prefix drawn. -/
def EventGenerator.init (config : EventGeneratorConfig) (catalog : FakerDataCatalog)
    (eventIdPrefix : Fin (2 ^ 32)) : Except Str EventGenerator :=
  if h : config.referenceTime.micros < config.startTime.micros then .error futureStartTimeError
  else .ok ⟨config, catalog, eventIdPrefix, 0, Nat.le_of_not_lt h, eventIdPrefix.isLt⟩

/-- The constructor accepts what starts no later than its reference. -/
theorem EventGenerator.init_eq_ok_iff {config : EventGeneratorConfig} {catalog : FakerDataCatalog}
    {eventIdPrefix : Fin (2 ^ 32)} {g : EventGenerator} :
    init config catalog eventIdPrefix = .ok g ↔ g.config = config ∧ g.catalog = catalog ∧
      g.eventIdPrefix = eventIdPrefix ∧ g.eventSequence = 0 := by
  unfold init
  constructor
  · intro h
    split at h
    · cases h
    · obtain rfl := Except.ok.inj h
      exact ⟨rfl, rfl, rfl, rfl⟩
  · obtain ⟨config', catalog', prefix', sequence, hle, hlt⟩ := g
    rintro ⟨rfl, rfl, rfl, rfl⟩
    rw [dif_neg (Nat.not_lt.mpr hle)]

/-- `_ERROR_MESSAGES`. -/
def errorMessages : List (Str × Str) :=
  [(str "PAYMENT_DECLINED", str "Payment was declined by the card issuer."),
    (str "TIMEOUT", str "Checkout request timed out while waiting for the payment gateway."),
    (str "INVALID_COUPON", str "The submitted coupon cannot be applied to this order."),
    (str "PG_UNAVAILABLE", str "Payment gateway is temporarily unavailable.")]

/-- One event's random choices. -/
structure Draws where
  phase : TrafficPhase
  eventType : EventType
  userProfile : UserProfile
  pageTarget : PageTarget
  product : Product
  discountCents : Nat
  error : Str × Str
  hour : Fin 24
  millisecondOfHour : Fin 3600000

/-- Two dates are the same. -/
def CivilTime.sameDate (s t : CivilTime) : Bool :=
  s.year == t.year && s.month == t.month && s.day == t.day

/-- The milliseconds of a moment since its hour began. -/
def CivilTime.millisecondOfHour (t : CivilTime) : Nat :=
  t.minute * 60000 + t.second * 1000 + t.microsecond / 1000

/-- `_is_allowed_hour`; the event date is the date of the start. -/
def EventGenerator.isAllowedHour (g : EventGenerator) (hour : Nat) : Bool :=
  let start := g.config.startTime
  let reference := g.config.referenceTime
  !(decide (hour < start.hour) ||
    (CivilTime.sameDate start reference && decide (reference.hour < hour)))

/-- `_millisecond_bounds`. -/
def EventGenerator.millisecondBounds (g : EventGenerator) (hour : Nat) : Nat × Nat :=
  let start := g.config.startTime
  let reference := g.config.referenceTime
  (if hour = start.hour then CivilTime.millisecondOfHour start else 0,
    if CivilTime.sameDate start reference ∧ hour = reference.hour then
      CivilTime.millisecondOfHour reference
    else 3599999)

/-- The choices that the generator can draw. -/
structure EventGenerator.Allows (g : EventGenerator) (d : Draws) : Prop where
  user : d.userProfile ∈ g.catalog.users
  target : d.eventType = .pageView → d.pageTarget ∈ g.catalog.pageTargets
  product : d.eventType ≠ .pageView → d.product ∈ g.catalog.products
  discount : d.eventType = .purchase → d.discountCents ≤ d.product.priceCents / 5
  error : d.eventType = .checkoutError → d.error ∈ errorMessages
  hour : g.isAllowedHour d.hour = true
  lower : (g.millisecondBounds d.hour).1 ≤ d.millisecondOfHour
  upper : d.millisecondOfHour ≤ (g.millisecondBounds d.hour).2

/-- A lower-case hexadecimal numeral of `k` digits. -/
def padHex : Nat → Nat → Str
  | 0, _ => []
  | k + 1, n => padHex k (n / 16) ++ [Json.hexDigit (n % 16)]

/-- `_EVENT_ID_COUNTER_MULTIPLIER`. -/
def eventIdCounterMultiplier : Nat := 0x9E3779B97F4A7C15

/-- `_choose_event_id`, after the sequence was advanced. -/
def chooseEventId (eventIdPrefix eventSequence : Nat) : Str :=
  str "evt_" ++ padHex 8 eventIdPrefix ++
    padHex 16 (eventSequence * eventIdCounterMultiplier % 2 ^ 64)

/-- `_choose_occurred_at` with its hour and millisecond drawn. -/
def chooseOccurredAt (eventDate : CivilTime) (hour : Fin 24) (millisecondOfHour : Fin 3600000) :
    CivilTime where
  year := eventDate.year
  month := eventDate.month
  day := eventDate.day
  hour := hour
  minute := millisecondOfHour / 60000
  second := millisecondOfHour % 60000 / 1000
  microsecond := millisecondOfHour % 60000 % 1000 * 1000
  year_pos := eventDate.year_pos
  year_le := eventDate.year_le
  month_pos := eventDate.month_pos
  month_le := eventDate.month_le
  day_pos := eventDate.day_pos
  day_le := eventDate.day_le
  hour_lt := hour.isLt
  minute_lt := by have h := millisecondOfHour.isLt; omega
  second_lt := by omega
  microsecond_lt := by omega

variable {F : Type}

/-- `_choose_amount`: `ofCents n` is `round(n / 100, 2)`. -/
def chooseAmount (ofCents : Nat → F) (product : Product) (discountCents : Nat) : F :=
  ofCents (product.priceCents - discountCents)

/-- `_base_event` with the fields every event type sets. -/
def EventGenerator.baseEvent (g : EventGenerator) (d : Draws) : GeneratedEvent F where
  eventId := chooseEventId g.eventIdPrefix (g.eventSequence + 1)
  eventType := d.eventType
  occurredAt := chooseOccurredAt g.config.startTime d.hour d.millisecondOfHour
  userId := d.userProfile.userId
  trafficPhase := d.phase
  producerId := g.config.producerId

/-- `generate_one`: the event and the generator after it. -/
def EventGenerator.generateOne (ofCents : Nat → F) (g : EventGenerator) (d : Draws) :
    GeneratedEvent F × EventGenerator :=
  let base : GeneratedEvent F := g.baseEvent d
  let event :=
    match d.eventType with
    | .pageView =>
      { base with
        pagePath := some d.pageTarget.path
        categoryId := d.pageTarget.categoryId }
    | .productClick =>
      { base with
        pagePath := some (str "/products/" ++ d.product.productId)
        categoryId := some d.product.categoryId
        productId := some d.product.productId }
    | .addToCart =>
      { base with
        categoryId := some d.product.categoryId
        productId := some d.product.productId }
    | .purchase =>
      { base with
        categoryId := some d.product.categoryId
        productId := some d.product.productId
        amount := some (chooseAmount ofCents d.product d.discountCents)
        currency := some (str "USD") }
    | .checkoutError =>
      { base with
        categoryId := some d.product.categoryId
        productId := some d.product.productId
        errorCode := some d.error.1
        errorMessage := some d.error.2 }
  (event, { g with eventSequence := g.eventSequence + 1 })

/-- An event a generator can emit. -/
def Emits (ofCents : Nat → F) (g : EventGenerator) (event : GeneratedEvent F) : Prop :=
  ∃ d, g.Allows d ∧ (g.generateOne ofCents d).1 = event

end LiveData.Generator

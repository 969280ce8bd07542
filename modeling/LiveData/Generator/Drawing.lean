import LiveData.Core.Runs
import LiveData.Generator.CatalogShape
import LiveData.Generator.OccurredAt
import LiveData.Generator.TrafficProfile

/-!
# The draws of a generator

`EventGenerator.iter_events` with all that the two random sources give as arguments: the
traffic phase, the event type, the pools a user prefers, the discount and the moment. From
pools that are not empty the code always returns, and its events are those of a producer run.
-/

namespace LiveData.Generator

/-- `_EVENT_TYPES`. -/
def eventTypes : List EventType :=
  [.pageView, .productClick, .addToCart, .purchase, .checkoutError]

/-- `_EVENT_WEIGHTS`. -/
def eventWeights : List Nat := [45, 25, 15, 8, 7]

/-- What the random sources give for one event. -/
structure Outcomes where
  phasePoint : Nat
  phaseDraw : Nat
  typePoint : Nat
  userDraw : Nat
  belowPreference : Bool
  poolDraw : Nat
  discountDraw : Nat
  errorDraw : Nat
  hourPoint : Nat
  millisecondDraw : Nat

/-- What `generate_one` raises. -/
inductive GenerationError where
  | builtin (error : BuiltinError)
  | keyError (key : Str)
  | trafficProfile (error : TrafficProfileError)
  deriving DecidableEq, Repr

/-- The keyword arguments of `_base_event` that only some event types set. -/
structure EventDetails (F : Type) where
  pagePath : Option Str := none
  categoryId : Option Str := none
  productId : Option Str := none
  amount : Option F := none
  currency : Option Str := none
  errorCode : Option Str := none
  errorMessage : Option Str := none

/-- An event with these keyword arguments. -/
def GeneratedEvent.withDetails {F : Type} (base : GeneratedEvent F) (details : EventDetails F) :
    GeneratedEvent F :=
  { base with
    pagePath := details.pagePath
    categoryId := details.categoryId
    productId := details.productId
    amount := details.amount
    currency := details.currency
    errorCode := details.errorCode
    errorMessage := details.errorMessage }

/-- `_choose_event_type`. -/
def drawEventType (o : Outcomes) : Except BuiltinError EventType :=
  choices eventTypes eventWeights o.typePoint

/-- The choice of `_choose_page_target` and of `_choose_product`: from the preferred pool when
it has members and `random() < 0.7`, else from all. -/
def drawPreferred {α : Type} (preferred all : List α) (o : Outcomes) : Except BuiltinError α :=
  if preferred ≠ [] ∧ o.belowPreference = true then choice preferred o.poolDraw
  else choice all o.poolDraw

/-- `_choose_error_code`. -/
def drawErrorCode (o : Outcomes) : Except BuiltinError Str :=
  choice (Dict.keys errorMessages) o.errorDraw

/-- `_ERROR_MESSAGES[error_code]`. -/
def errorMessageOf (code : Str) : Except GenerationError Str :=
  match errorMessages.lookup code with
  | some message => .ok message
  | none => .error (.keyError code)

namespace EventGenerator

variable {F : Type} (ofCents : Nat → F) (g : EventGenerator) (o : Outcomes)

/-- `_choose_user_profile`. -/
def drawUserProfile : Except BuiltinError UserProfile := choice g.catalog.users o.userDraw

/-- `_choose_page_target`. -/
def drawPageTarget (userProfile : UserProfile) : Except BuiltinError PageTarget :=
  drawPreferred (g.catalog.pageTargetsForCategory userProfile.preferredCategoryId)
    g.catalog.pageTargets o

/-- `_choose_product`. -/
def drawProduct (userProfile : UserProfile) : Except BuiltinError Product :=
  drawPreferred (g.catalog.productsForCategory userProfile.preferredCategoryId)
    g.catalog.products o

/-- `_choose_amount`; `randint(0, n)` is `randrange(0, n + 1)`. -/
def drawAmount (product : Product) : Except BuiltinError F := do
  let discountCents ← randrange 0 (product.priceCents / 5 + 1) o.discountDraw
  return chooseAmount ofCents product discountCents

/-- `_base_event`. -/
def drawBaseEvent (eventId : Str) (eventType : EventType) (userProfile : UserProfile)
    (phase : TrafficPhase) (details : EventDetails F) :
    Except GenerationError (GeneratedEvent F) := do
  let occurredAt ← (g.chooseOccurredAt phase o.hourPoint o.millisecondDraw).mapError .builtin
  let base : GeneratedEvent F :=
    { eventId := eventId
      eventType := eventType
      occurredAt := occurredAt
      userId := userProfile.userId
      trafficPhase := phase
      producerId := g.config.producerId }
  return base.withDetails details

/-- The keyword arguments that `_build_event` passes for an event type. -/
def drawDetails (eventType : EventType) (userProfile : UserProfile) :
    Except GenerationError (EventDetails F) :=
  match eventType with
  | .pageView => do
    let pageTarget ← (g.drawPageTarget o userProfile).mapError .builtin
    return { pagePath := some pageTarget.path, categoryId := pageTarget.categoryId }
  | .productClick => do
    let product ← (g.drawProduct o userProfile).mapError .builtin
    return {
      pagePath := some (str "/products/" ++ product.productId)
      categoryId := some product.categoryId
      productId := some product.productId }
  | .addToCart => do
    let product ← (g.drawProduct o userProfile).mapError .builtin
    return { categoryId := some product.categoryId, productId := some product.productId }
  | .purchase => do
    let product ← (g.drawProduct o userProfile).mapError .builtin
    let amount ← (drawAmount ofCents o product).mapError .builtin
    return {
      categoryId := some product.categoryId
      productId := some product.productId
      amount := some amount
      currency := some (str "USD") }
  | .checkoutError => do
    let product ← (g.drawProduct o userProfile).mapError .builtin
    let errorCode ← (drawErrorCode o).mapError .builtin
    let errorMessage ← errorMessageOf errorCode
    return {
      categoryId := some product.categoryId
      productId := some product.productId
      errorCode := some errorCode
      errorMessage := some errorMessage }

/-- `_build_event`, with the generator after the sequence was advanced. -/
def buildEvent (eventType : EventType) (phase : TrafficPhase) :
    Except GenerationError (GeneratedEvent F × EventGenerator) := do
  let eventId := chooseEventId g.eventIdPrefix (g.eventSequence + 1)
  let userProfile ← (g.drawUserProfile o).mapError .builtin
  let details ← g.drawDetails ofCents o eventType userProfile
  let event ← g.drawBaseEvent o eventId eventType userProfile phase details
  return (event, { g with eventSequence := g.eventSequence + 1 })

/-- `generate_one`: the event, the generator and the traffic profile after it. -/
def drawOne (p : TrafficProfile) :
    Except GenerationError (GeneratedEvent F × EventGenerator × TrafficProfile) := do
  let (phase, p) ← (p.nextPhase o.phasePoint o.phaseDraw).mapError .trafficProfile
  let eventType ← (drawEventType o).mapError .builtin
  let (event, g) ← g.buildEvent ofCents o eventType phase
  return (event, g, p)

/-- What `iter_events` has yielded after so many turns, with the generator and the traffic
profile after them. -/
def iterEvents (p : TrafficProfile) (outcomes : Nat → Outcomes) :
    Nat → Except GenerationError (List (GeneratedEvent F) × EventGenerator × TrafficProfile)
  | 0 => .ok ([], g, p)
  | n + 1 => do
    let (events, g, p) ← iterEvents p outcomes n
    let (event, g, p) ← g.drawOne ofCents (outcomes n) p
    return (events ++ [event], g, p)

end EventGenerator

/-! ## One event -/

variable {F : Type} {ofCents : Nat → F} {g : EventGenerator} {o : Outcomes}

/-- The keyword arguments of `_base_event` for the choices of an event. -/
def Draws.details (ofCents : Nat → F) (d : Draws) : EventDetails F :=
  match d.eventType with
  | .pageView => { pagePath := some d.pageTarget.path, categoryId := d.pageTarget.categoryId }
  | .productClick =>
    { pagePath := some (str "/products/" ++ d.product.productId)
      categoryId := some d.product.categoryId
      productId := some d.product.productId }
  | .addToCart =>
    { categoryId := some d.product.categoryId, productId := some d.product.productId }
  | .purchase =>
    { categoryId := some d.product.categoryId
      productId := some d.product.productId
      amount := some (chooseAmount ofCents d.product d.discountCents)
      currency := some (str "USD") }
  | .checkoutError =>
    { categoryId := some d.product.categoryId
      productId := some d.product.productId
      errorCode := some d.error.1
      errorMessage := some d.error.2 }

/-- Every error code has its message. -/
theorem errorMessageOf_eq {error : Str × Str} (h : error ∈ errorMessages) :
    errorMessageOf error.1 = .ok error.2 := by
  have hall : ∀ e ∈ errorMessages, errorMessageOf e.1 = .ok e.2 := by decide
  exact hall error h

/-- The random source gives the choices of the event, as far as its type takes them. -/
structure EventGenerator.Drawn (g : EventGenerator) (o : Outcomes) (d : Draws) : Prop where
  eventType : drawEventType o = .ok d.eventType
  user : g.drawUserProfile o = .ok d.userProfile
  target : d.eventType = .pageView → g.drawPageTarget o d.userProfile = .ok d.pageTarget
  product : d.eventType ≠ .pageView → g.drawProduct o d.userProfile = .ok d.product
  discount : d.eventType = .purchase →
    randrange 0 (d.product.priceCents / 5 + 1) o.discountDraw = .ok d.discountCents
  error : d.eventType = .checkoutError →
    drawErrorCode o = .ok d.error.1 ∧ errorMessageOf d.error.1 = .ok d.error.2
  occurredAt : g.chooseOccurredAt d.phase o.hourPoint o.millisecondDraw =
    .ok (Generator.chooseOccurredAt g.config.startTime d.hour d.millisecondOfHour)

namespace EventGenerator

theorem Drawn.drawDetails_eq {d : Draws} (h : g.Drawn o d) :
    g.drawDetails ofCents o d.eventType d.userProfile = .ok (d.details ofCents) := by
  unfold drawDetails Draws.details
  cases htype : d.eventType with
  | pageView =>
    rw [h.target htype]
    rfl
  | productClick | addToCart =>
    rw [h.product (by simp [htype])]
    rfl
  | purchase =>
    rw [h.product (by simp [htype])]
    simp only [Except.mapError, ok_bind, drawAmount, h.discount htype]
    rfl
  | checkoutError =>
    obtain ⟨hcode, hmessage⟩ := h.error htype
    rw [h.product (by simp [htype])]
    simp only [Except.mapError, ok_bind, hcode, hmessage]
    rfl

theorem generateOne_eq_withDetails (d : Draws) :
    (g.generateOne ofCents d).1 = (g.baseEvent d).withDetails (d.details ofCents) := by
  obtain ⟨phase, eventType, user, target, product, discount, error, hour, ms⟩ := d
  cases eventType <;> rfl

theorem Drawn.drawBaseEvent_eq {d : Draws} (h : g.Drawn o d) :
    g.drawBaseEvent o (chooseEventId g.eventIdPrefix (g.eventSequence + 1)) d.eventType
      d.userProfile d.phase (d.details ofCents) = .ok (g.generateOne ofCents d).1 := by
  rw [drawBaseEvent, h.occurredAt, generateOne_eq_withDetails]
  rfl

/-- Given its choices, an event is built as they say. -/
theorem Drawn.buildEvent_eq {d : Draws} (h : g.Drawn o d) :
    g.buildEvent ofCents o d.eventType d.phase = .ok (g.generateOne ofCents d) := by
  simp only [buildEvent, h.user, Except.mapError, ok_bind, h.drawDetails_eq, h.drawBaseEvent_eq]
  rfl

/-- Given its choices and its phase, so is the event of a turn. -/
theorem Drawn.drawOne_eq {d : Draws} {p q : TrafficProfile} (h : g.Drawn o d)
    (hphase : p.nextPhase o.phasePoint o.phaseDraw = .ok (d.phase, q)) :
    g.drawOne ofCents o p =
      .ok ((g.generateOne ofCents d).1, (g.generateOne ofCents d).2, q) := by
  simp only [drawOne, hphase, h.eventType, Except.mapError, ok_bind, h.buildEvent_eq]
  rfl

end EventGenerator

/-! ## What can be drawn -/

/-- No pool of the catalog is empty. -/
structure FakerDataCatalog.Drawable (catalog : FakerDataCatalog) : Prop where
  users : catalog.users ≠ []
  products : catalog.products ≠ []
  pageTargets : catalog.pageTargets ≠ []

/-- A choice that prefers some members returns a member. -/
theorem exists_drawPreferred_mem {α : Type} {preferred all : List α} (hsub : preferred ⊆ all)
    (hne : all ≠ []) (o : Outcomes) :
    ∃ element ∈ all, drawPreferred preferred all o = .ok element := by
  unfold drawPreferred
  split_ifs with hpreferred
  · obtain ⟨element, hmem, hchoice⟩ := exists_choice_mem hpreferred.1 o.poolDraw
    exact ⟨element, hsub hmem, hchoice⟩
  · exact exists_choice_mem hne o.poolDraw

/-- Whatever the random source gives, it gives choices that are allowed. -/
theorem EventGenerator.exists_drawn (hcatalog : g.catalog.Drawable) (o : Outcomes)
    (phase : TrafficPhase) : ∃ d : Draws, d.phase = phase ∧ g.Allows d ∧ g.Drawn o d := by
  have hweights : eventWeights.length = eventTypes.length := rfl
  obtain ⟨eventType, -, htype⟩ := exists_choices_mem hweights (by decide) o.typePoint
  obtain ⟨user, huser, hdrawUser⟩ := exists_choice_mem hcatalog.users o.userDraw
  obtain ⟨target, htarget, hdrawTarget⟩ := exists_drawPreferred_mem
    (show g.catalog.pageTargetsForCategory user.preferredCategoryId ⊆ g.catalog.pageTargets from
      List.filter_subset_self _) hcatalog.pageTargets o
  obtain ⟨product, hproduct, hdrawProduct⟩ := exists_drawPreferred_mem
    (show g.catalog.productsForCategory user.preferredCategoryId ⊆ g.catalog.products from
      List.filter_subset_self _) hcatalog.products o
  obtain ⟨discount, hdiscount⟩ := exists_randrange (Nat.succ_pos (product.priceCents / 5))
    o.discountDraw
  obtain ⟨code, hcode, hdrawCode⟩ := exists_choice_mem
    (show Dict.keys errorMessages ≠ [] by decide) o.errorDraw
  obtain ⟨error, herror, rfl⟩ := List.mem_map.mp hcode
  obtain ⟨hour, ms, hallows, htime⟩ := exists_chooseOccurredAt_eq g phase o.hourPoint
    o.millisecondDraw
  refine ⟨⟨phase, eventType, user, target, product, discount, error, hour, ms⟩, rfl, ?_, ?_⟩
  · exact ⟨huser, fun _ => htarget, fun _ => hproduct,
      fun _ => Nat.le_of_lt_succ (exists_randrange_iff.mp ⟨_, hdiscount⟩).2, fun _ => herror,
      hallows.allowed, hallows.lower, hallows.upper⟩
  · exact ⟨htype, hdrawUser, fun _ => hdrawTarget, fun _ => hdrawProduct, fun _ => hdiscount,
      fun _ => ⟨hdrawCode, errorMessageOf_eq herror⟩, htime⟩

/-- Some numbers lead to each event type. -/
theorem exists_typePoint (eventType : EventType) :
    ∃ point, choices eventTypes eventWeights point = .ok eventType := by
  cases eventType with
  | pageView => exact ⟨0, by decide⟩
  | productClick => exact ⟨45, by decide⟩
  | addToCart => exact ⟨70, by decide⟩
  | purchase => exact ⟨85, by decide⟩
  | checkoutError => exact ⟨93, by decide⟩

/-- Some numbers lead from a fresh profile to each phase. -/
theorem exists_phasePoint (config : TrafficProfileConfig) (phase : TrafficPhase) :
    ∃ point q, (TrafficProfile.mk config none 0).nextPhase point 0 = .ok (phase, q) := by
  have hpoint : ∃ point, choices trafficPhases phaseWeights point = .ok phase := by
    cases phase with
    | slow => exact ⟨60, by decide⟩
    | normal => exact ⟨0, by decide⟩
    | burst => exact ⟨85, by decide⟩
  obtain ⟨point, hpoint⟩ := hpoint
  obtain ⟨duration, hduration, -⟩ := exists_randint config.min_le_max 0
  have hwindow : (TrafficProfile.mk config none 0).chooseWindow point 0 =
      .ok ⟨phase, duration, duration * config.rates.forPhase phase⟩ := by
    simp only [TrafficProfile.chooseWindow, hpoint, hduration, ok_bind]
    rfl
  let capacity := duration * config.rates.forPhase phase
  refine ⟨point, ⟨config, some ⟨phase, duration, capacity⟩, capacity - 1⟩, ?_⟩
  rw [TrafficProfile.nextPhase, TrafficProfile.rotate, if_pos le_rfl, hwindow]
  rfl

/-- Allowed choices are given by some numbers of the random sources. -/
theorem EventGenerator.Allows.exists_outcomes {d : Draws} (h : g.Allows d)
    (config : TrafficProfileConfig) : ∃ o q, g.Drawn o d ∧
      (TrafficProfile.mk config none 0).nextPhase o.phasePoint o.phaseDraw =
        .ok (d.phase, q) := by
  obtain ⟨phasePoint, q, hphase⟩ := exists_phasePoint config d.phase
  obtain ⟨typePoint, htype⟩ := exists_typePoint d.eventType
  obtain ⟨userDraw, huser⟩ := exists_choice_iff.mpr h.user
  obtain ⟨hourPoint, millisecondDraw, htime⟩ := h.allowsTime.exists_draws d.phase
  obtain ⟨targetDraw, htarget⟩ : ∃ draw, d.eventType = .pageView →
      choice g.catalog.pageTargets draw = .ok d.pageTarget := by
    by_cases htype : d.eventType = .pageView
    · obtain ⟨draw, hdraw⟩ := exists_choice_iff.mpr (h.target htype)
      exact ⟨draw, fun _ => hdraw⟩
    · exact ⟨0, fun hview => absurd hview htype⟩
  obtain ⟨productDraw, hproduct⟩ : ∃ draw, d.eventType ≠ .pageView →
      choice g.catalog.products draw = .ok d.product := by
    by_cases htype : d.eventType = .pageView
    · exact ⟨0, fun hview => absurd htype hview⟩
    · obtain ⟨draw, hdraw⟩ := exists_choice_iff.mpr (h.product htype)
      exact ⟨draw, fun _ => hdraw⟩
  obtain ⟨discountDraw, hdiscount⟩ : ∃ draw, d.eventType = .purchase →
      randrange 0 (d.product.priceCents / 5 + 1) draw = .ok d.discountCents := by
    by_cases htype : d.eventType = .purchase
    · obtain ⟨draw, hdraw⟩ := exists_randrange_iff.mpr
        ⟨Nat.zero_le _, Nat.lt_succ_of_le (h.discount htype)⟩
      exact ⟨draw, fun _ => hdraw⟩
    · exact ⟨0, fun hbuy => absurd hbuy htype⟩
  obtain ⟨errorDraw, herror⟩ : ∃ draw, d.eventType = .checkoutError →
      choice (Dict.keys errorMessages) draw = .ok d.error.1 ∧
        errorMessageOf d.error.1 = .ok d.error.2 := by
    by_cases htype : d.eventType = .checkoutError
    · have hmem := h.error htype
      obtain ⟨draw, hdraw⟩ := exists_choice_iff.mpr (Dict.mem_keys_of_mem hmem)
      exact ⟨draw, fun _ => ⟨hdraw, errorMessageOf_eq hmem⟩⟩
    · exact ⟨0, fun hfail => absurd hfail htype⟩
  -- One number draws from the pool that the event type takes.
  refine ⟨⟨phasePoint, 0, typePoint, userDraw, false,
    if d.eventType = .pageView then targetDraw else productDraw, discountDraw, errorDraw,
    hourPoint, millisecondDraw⟩, q, ⟨htype, huser, fun hview => ?_, fun hview => ?_, hdiscount,
    herror, htime⟩, hphase⟩
  · rw [drawPageTarget, drawPreferred, if_neg (by simp), if_pos hview]
    exact htarget hview
  · rw [drawProduct, drawPreferred, if_neg (by simp), if_neg hview]
    exact hproduct hview

/-! ## The catalog -/

theorem length_buildUsers {lower : Str → Str} {faker : Faker} {fuel turns : Nat}
    {userIds : List Str} {users all : List UserProfile}
    (h : buildUsers lower faker fuel turns userIds users = some all) :
    userPoolSize ≤ all.length := by
  induction turns generalizing userIds users with
  | zero => simp [buildUsers] at h
  | succ turns ih =>
    unfold buildUsers at h
    split at h
    · obtain ⟨found, -, h⟩ := Option.bind_eq_some_iff.mp h
      exact ih h
    · next hlength =>
      obtain rfl := Option.some.inj h
      exact Nat.le_of_not_lt hlength

/-- The pools of a catalog that was built are not empty. -/
theorem drawable_of_build {lower : Str → Str} {faker : Faker} {fuel : Nat}
    {catalog : FakerDataCatalog} (hfuel : userPoolSize < fuel)
    (h : FakerDataCatalog.build lower faker fuel = some catalog) : catalog.Drawable := by
  obtain ⟨built, hwell, hbuilt⟩ := FakerDataCatalog.exists_build lower faker
  obtain rfl := Option.some.inj (h.symm.trans (hbuilt fuel hfuel))
  have hsmartphone : categoryTemplates[0] ∈ categoryTemplates := List.getElem_mem _
  obtain ⟨users, husers, h⟩ := Option.bind_eq_some_iff.mp h
  obtain ⟨products, -, h⟩ := Option.bind_eq_some_iff.mp h
  refine ⟨?_, ?_, ?_⟩
  · obtain rfl := Option.some.inj h
    exact List.ne_nil_of_length_pos (Nat.lt_of_lt_of_le (by decide) (length_buildUsers husers))
  · intro hnil
    have hfour := hwell.four_products _ hsmartphone
    rw [FakerDataCatalog.productsForCategory, hnil] at hfour
    exact absurd hfour (by simp)
  · intro hnil
    have hone := hwell.page_targets _ hsmartphone
    rw [FakerDataCatalog.pageTargetsForCategory, hnil] at hone
    exact absurd hone (by simp)

/-- With a catalog that was built, the first turn of `iter_events` can yield the events of
`Emits`, and nothing else. -/
theorem drawOne_iff_emits (ofCents : Nat → F) {lower : Str → Str} {faker : Faker} {fuel : Nat}
    (hfuel : userPoolSize < fuel)
    (hb : FakerDataCatalog.build lower faker fuel = some g.catalog)
    (config : TrafficProfileConfig) (event : GeneratedEvent F) :
    (∃ o rest, g.drawOne ofCents o ⟨config, none, 0⟩ = .ok (event, rest)) ↔
      Emits ofCents g event := by
  constructor
  · rintro ⟨o, rest, hdraw⟩
    have hstart : (TrafficProfile.mk config none 0).Between config [] :=
      Or.inl ⟨[], rfl, by simp, rfl, rfl⟩
    obtain ⟨phase, q, hphase, -⟩ := TrafficProfile.exists_nextPhase hstart o.phasePoint o.phaseDraw
    obtain ⟨d, rfl, hallows, hdrawn⟩ :=
      EventGenerator.exists_drawn (drawable_of_build hfuel hb) o phase
    have hevent := Except.ok.inj ((hdrawn.drawOne_eq hphase).symm.trans hdraw)
    exact ⟨d, hallows, congrArg Prod.fst hevent⟩
  · rintro ⟨d, hallows, rfl⟩
    obtain ⟨o, q, hdrawn, hphase⟩ := hallows.exists_outcomes config
    exact ⟨o, _, hdrawn.drawOne_eq hphase⟩

/-- The rates and the durations that the command line has by default. -/
def defaultProfileConfig : TrafficProfileConfig := { rates := {} }

/-- A Faker that returns the same texts on every call. -/
def constantFaker : Faker where
  uuid4 := fun _ => str "9f86d081-884c-4d65-9a2f-eaa0c55ad015"
  randomElement := fun _ => str "cat_laptop"
  colorName := fun _ => str "navy"
  word := fun _ => str "desk"
  randomInt := fun _ => 7
  slug := fun _ => str "new-desk"
  domainWord := fun _ => str "smith"

/-- Its catalog, in a generator that starts within a millisecond. -/
theorem constantFaker_draws : ∃ g : EventGenerator,
    FakerDataCatalog.build id constantFaker 161 = some g.catalog ∧
      ∀ event : GeneratedEvent Nat, (∃ o rest, g.drawOne id o
          ⟨defaultProfileConfig, none, 0⟩ = .ok (event, rest)) ↔ Emits id g event := by
  obtain ⟨catalog, -, hbuild⟩ := FakerDataCatalog.exists_build id constantFaker
  have hb := hbuild 161 (by decide)
  let g : EventGenerator := { EventGenerator.submillisecondStart with catalog := catalog }
  exact ⟨g, hb, fun event => drawOne_iff_emits (g := g) id (by decide) hb _ event⟩

/-! ## Runs -/

/-- A turn takes allowed choices and leads to the state that they say. -/
def Turn (ofCents : Nat → F) (o : Outcomes) (d : Draws)
    (s t : EventGenerator × TrafficProfile × List TrafficPhase) : Prop :=
  s.1.Allows d ∧ t.1 = (s.1.generateOne ofCents d).2 ∧ t.2.2 = s.2.2 ++ [d.phase] ∧
    s.1.drawOne ofCents o s.2.1 = .ok ((s.1.generateOne ofCents d).1, t.1, t.2.1)

/-- A turn is always possible. -/
theorem exists_turn (ofCents : Nat → F) {config : EventGeneratorConfig}
    {catalog : FakerDataCatalog} {profileConfig : TrafficProfileConfig}
    (hcatalog : catalog.Drawable) (o : Outcomes)
    (s : EventGenerator × TrafficProfile × List TrafficPhase)
    (hs : s.1.config = config ∧ s.1.catalog = catalog ∧ s.2.1.Between profileConfig s.2.2) :
    ∃ t, (∃ d, Turn ofCents o d s t) ∧
      t.1.config = config ∧ t.1.catalog = catalog ∧ t.2.1.Between profileConfig t.2.2 := by
  obtain ⟨g, p, phases⟩ := s
  obtain ⟨rfl, rfl, hbetween⟩ := hs
  obtain ⟨phase, q, hphase, hnext⟩ :=
    TrafficProfile.exists_nextPhase hbetween o.phasePoint o.phaseDraw
  obtain ⟨d, rfl, hallows, hdrawn⟩ := EventGenerator.exists_drawn hcatalog o phase
  exact ⟨⟨(g.generateOne ofCents d).2, q, phases ++ [d.phase]⟩,
    ⟨d, hallows, rfl, rfl, hdrawn.drawOne_eq hphase⟩, rfl, rfl, hnext⟩

theorem EventGenerator.iterEvents_succ {p q r : TrafficProfile} {outcomes : Nat → Outcomes}
    {n : Nat} {events : List (GeneratedEvent F)} {event : GeneratedEvent F}
    {g' g'' : EventGenerator} (h : g.iterEvents ofCents p outcomes n = .ok (events, g', q))
    (hdraw : g'.drawOne ofCents (outcomes n) q = .ok (event, g'', r)) :
    g.iterEvents ofCents p outcomes (n + 1) = .ok (events ++ [event], g'', r) := by
  simp only [iterEvents, h, ok_bind, hdraw]
  rfl

theorem ProducerRun.start_eq {getrandbits : Fin (2 ^ 64) → Fin (2 ^ 32)} {seed : Fin (2 ^ 64)}
    {run : ProducerRun}
    (hg : EventGenerator.init run.config run.catalog (getrandbits seed) = .ok g) :
    run.start getrandbits seed = g := by
  obtain ⟨hconfig, hcatalog, hprefix, hsequence⟩ := EventGenerator.init_eq_ok_iff.mp hg
  obtain ⟨config, catalog, eventIdPrefix, eventSequence, hle, hlt⟩ := g
  simp only at hconfig hcatalog hprefix hsequence
  subst hconfig hcatalog hprefix hsequence
  rfl

theorem TrafficProfile.Between.config_eq {p : TrafficProfile} {config : TrafficProfileConfig}
    {phases : List TrafficPhase} (h : p.Between config phases) : p.config = config := by
  rcases h with ⟨complete, h⟩ | ⟨complete, window, h⟩
  · exact h.config_eq
  · exact h.config_eq

/-- What `iter_events` yields are the events of a producer run with allowed choices, and its
traffic profile keeps the phases so far in windows. -/
theorem exists_producerRun (getrandbits : Fin (2 ^ 64) → Fin (2 ^ 32)) (ofCents : Nat → F)
    (seed : Fin (2 ^ 64)) {catalog : FakerDataCatalog} {config : EventGeneratorConfig}
    {g : EventGenerator} (hcatalog : catalog.Drawable)
    (hg : EventGenerator.init config catalog (getrandbits seed) = .ok g)
    (profileConfig : TrafficProfileConfig) (outcomes : Nat → Outcomes) :
    ∃ (run : ProducerRun) (profiles : Nat → TrafficProfile), run.config = config ∧
      run.catalog = catalog ∧
        ∀ n, (run.generator getrandbits ofCents seed n).Allows (run.draws n) ∧
          (profiles n).Between profileConfig
            ((List.range n).map fun i => (run.event getrandbits ofCents seed i).trafficPhase) ∧
          g.iterEvents ofCents ⟨profileConfig, none, 0⟩ outcomes n =
            .ok ((List.range n).map (run.event getrandbits ofCents seed),
              run.generator getrandbits ofCents seed n, profiles n) ∧
          (run.generator getrandbits ofCents seed n).drawOne ofCents (outcomes n) (profiles n) =
            .ok (run.event getrandbits ofCents seed n,
              run.generator getrandbits ofCents seed (n + 1), profiles (n + 1)) := by
  obtain ⟨hconfig, hcat, -⟩ := EventGenerator.init_eq_ok_iff.mp hg
  have hstart : (TrafficProfile.mk profileConfig none 0).Between profileConfig [] :=
    Or.inl ⟨[], rfl, by simp, rfl, rfl⟩
  obtain ⟨states, h0, hstates⟩ := exists_seq_of_step
    (fun n s hs => exists_turn ofCents hcatalog (outcomes n) s hs)
    (s := (g, ⟨profileConfig, none, 0⟩, [])) ⟨hconfig, hcat, hstart⟩
  choose draws hturn using fun n => (hstates n).2
  let run : ProducerRun := ⟨config, catalog, draws, hconfig ▸ g.start_le⟩
  have hrun : run.start getrandbits seed = g := ProducerRun.start_eq hg
  have hgenerator : ∀ n, (states n).1 = run.generator getrandbits ofCents seed n := by
    intro n
    induction n with
    | zero => rw [h0, ProducerRun.generator, hrun]
    | succ n ih => rw [(hturn n).2.1, ih, ProducerRun.generator]
  have hphases : ∀ n, (states n).2.2 =
      (List.range n).map fun i => (run.event getrandbits ofCents seed i).trafficPhase := by
    intro n
    induction n with
    | zero => rw [h0]; rfl
    | succ n ih =>
      rw [(hturn n).2.2.1, ih, List.range_succ, List.map_append, List.map_singleton,
        ProducerRun.event, EventGenerator.generateOne_eq_withDetails]
      rfl
  have hdraw : ∀ n, (run.generator getrandbits ofCents seed n).drawOne ofCents (outcomes n)
      (states n).2.1 = .ok (run.event getrandbits ofCents seed n,
        run.generator getrandbits ofCents seed (n + 1), (states (n + 1)).2.1) := by
    intro n
    rw [← hgenerator n, (hturn n).2.2.2, hgenerator (n + 1), hgenerator n, ProducerRun.event]
  have hyield : ∀ n, g.iterEvents ofCents ⟨profileConfig, none, 0⟩ outcomes n =
      .ok ((List.range n).map (run.event getrandbits ofCents seed),
        run.generator getrandbits ofCents seed n, (states n).2.1) := by
    intro n
    induction n with
    | zero => rw [h0, ProducerRun.generator, hrun]; rfl
    | succ n ih =>
      rw [EventGenerator.iterEvents_succ ih (hdraw n), List.range_succ, List.map_append,
        List.map_singleton]
  exact ⟨run, fun n => (states n).2.1, rfl, rfl, fun n => ⟨hgenerator n ▸ (hturn n).1,
    hphases n ▸ (hstates n).1.2.2, hyield n, hdraw n⟩⟩

/-- Whatever the random sources give to a generator that was accepted, with a catalog that was
built, `iter_events` never raises: what it yields are the first events of a producer run with
allowed choices, and their phases come in windows. -/
theorem iterEvents_eq_run (getrandbits : Fin (2 ^ 64) → Fin (2 ^ 32)) (ofCents : Nat → F)
    (seed : Fin (2 ^ 64)) {lower : Str → Str} {faker : Faker} {fuel : Nat}
    {catalog : FakerDataCatalog} {config : EventGeneratorConfig} {g : EventGenerator}
    (hfuel : userPoolSize < fuel) (hb : FakerDataCatalog.build lower faker fuel = some catalog)
    (hg : EventGenerator.init config catalog (getrandbits seed) = .ok g)
    (profileConfig : TrafficProfileConfig) (outcomes : Nat → Outcomes) :
    ∃ run : ProducerRun, run.config = config ∧ run.catalog = catalog ∧
      ∀ n, (run.generator getrandbits ofCents seed n).Allows (run.draws n) ∧
        InWindows profileConfig
          ((List.range n).map fun i => (run.event getrandbits ofCents seed i).trafficPhase) ∧
        ∃ p, g.iterEvents ofCents ⟨profileConfig, none, 0⟩ outcomes n =
          .ok ((List.range n).map (run.event getrandbits ofCents seed),
            run.generator getrandbits ofCents seed n, p) := by
  obtain ⟨run, profiles, hconfig, hcatalog, hrun⟩ := exists_producerRun getrandbits ofCents seed
    (drawable_of_build hfuel hb) hg profileConfig outcomes
  refine ⟨run, hconfig, hcatalog, fun n => ?_⟩
  obtain ⟨hallows, hbetween, hyield, -⟩ := hrun n
  exact ⟨hallows, hbetween.windows.2, _, hyield⟩

/-- The generator with that catalog runs, whatever the sources give. -/
theorem constantFaker_runs : ∃ (catalog : FakerDataCatalog) (g : EventGenerator),
    FakerDataCatalog.build id constantFaker 161 = some catalog ∧
      EventGenerator.init EventGenerator.submillisecondStart.config catalog 12 = .ok g ∧
        ∀ outcomes : Nat → Outcomes, ∃ run : ProducerRun,
          run.config = EventGenerator.submillisecondStart.config ∧ run.catalog = catalog ∧
            ∀ n, (run.generator (fun _ => 12) id 3 n).Allows (run.draws n) ∧
              InWindows defaultProfileConfig
                ((List.range n).map fun i => (run.event (fun _ => 12) id 3 i).trafficPhase) ∧
              ∃ p, g.iterEvents (id : Nat → Nat) ⟨defaultProfileConfig, none, 0⟩ outcomes n =
                .ok ((List.range n).map (run.event (fun _ => 12) id 3),
                  run.generator (fun _ => 12) id 3 n, p) := by
  obtain ⟨catalog, -, hbuild⟩ := FakerDataCatalog.exists_build id constantFaker
  have hb := hbuild 161 (by decide)
  let g : EventGenerator := { EventGenerator.submillisecondStart with catalog := catalog }
  have hg : EventGenerator.init EventGenerator.submillisecondStart.config catalog 12 = .ok g :=
    EventGenerator.init_eq_ok_iff.mpr ⟨rfl, rfl, rfl, rfl⟩
  exact ⟨catalog, g, hb, hg, fun outcomes => iterEvents_eq_run (fun _ => 12) id 3 (by decide) hb hg
    _ outcomes⟩

end LiveData.Generator

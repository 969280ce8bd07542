import LiveData.Events.Quiescence
import LiveData.Generator.CatalogShape
import LiveData.Generator.EventIds

/-!
# What a producer emits can be stored

Whatever Faker returns, every text of an emitted event but the path of a search page is made of
identifier characters. So a poll can finish the entry of every event that a generator emits, as
long as the producer has a name and those paths are texts the table can hold.
-/

namespace LiveData.Events

open Json Generator

variable {F : Type}

/-! ## The texts of a catalog -/

theorem FitsText.append {s t : Str} (hs : FitsText s) (ht : FitsText t) : FitsText (s ++ t) :=
  fun c hc => (List.mem_append.mp hc).elim (hs c) (ht c)

theorem fitsText_of_isIdentifierChar {s : Str} (h : ∀ c ∈ s, isIdentifierChar c = true) :
    FitsText s := by
  intro c hc
  have hchar := h c hc
  simp only [isIdentifierChar, isSlugChar, isDigit, Bool.or_eq_true, Bool.and_eq_true,
    decide_eq_true_eq, beq_iff_eq] at hchar
  have hlow : 48 ≤ c ∧ c ≤ 122 := by omega
  refine ⟨by omega, ?_⟩
  simp only [isScalar, Bool.or_eq_true, Bool.and_eq_true, decide_eq_true_eq]
  omega

theorem fitsText_of_isIdentifier {idPrefix s : Str} (hp : FitsText idPrefix)
    (h : IsIdentifier idPrefix s) : FitsText s := by
  obtain ⟨rest, rfl, -, hrest⟩ := h
  exact (hp.append (by decide)).append (fitsText_of_isIdentifierChar hrest)

theorem ne_nil_of_isIdentifier {idPrefix s : Str} (h : IsIdentifier idPrefix s) : s ≠ [] := by
  obtain ⟨rest, rfl, hne, -⟩ := h
  simp [hne]

/-- The texts of a catalog are texts the table can hold. -/
structure StorableCatalog (catalog : FakerDataCatalog) : Prop where
  userId : ∀ user ∈ catalog.users, user.userId ≠ [] ∧ FitsText user.userId
  productId : ∀ product ∈ catalog.products, FitsText product.productId
  path : ∀ target ∈ catalog.pageTargets, FitsText target.path
  categoryId : ∀ target ∈ catalog.pageTargets, ∀ c, target.categoryId = some c → FitsText c

section Catalog

variable {lower : Str → Str} {faker : Faker}

theorem isIdentifier_buildUsers {fuel turns : Nat} {userIds : List Str}
    {users all : List UserProfile} (h : buildUsers lower faker fuel turns userIds users = some all)
    (hu : ∀ user ∈ users, IsIdentifier (str "user") user.userId) :
    ∀ user ∈ all, IsIdentifier (str "user") user.userId := by
  induction turns generalizing userIds users with
  | zero => simp [buildUsers] at h
  | succ turns ih =>
    unfold buildUsers at h
    split at h
    · obtain ⟨found, hfound, h⟩ := Option.bind_eq_some_iff.mp h
      refine ih h fun user hm => ?_
      rcases List.mem_append.mp hm with hm | hm
      · exact hu user hm
      · rw [List.mem_singleton.mp hm]
        exact isIdentifier_of_uniqueIdentifier hfound
    · obtain rfl := Option.some.inj h
      exact hu

theorem isIdentifier_buildProducts {fuel : Nat} {products : List Product}
    (h : buildProducts lower faker fuel = some products) :
    ∀ product ∈ products, IsIdentifier (str "prod") product.productId := by
  obtain ⟨state, hr, rfl⟩ := Option.map_eq_some_iff.mp h
  refine invariant_of_run (I := fun u : List Str × List Product =>
    ∀ product ∈ u.2, IsIdentifier (str "prod") product.productId)
    (fun u category v hu hs => ?_) (by simp) hr
  obtain ⟨found, hfound, hv⟩ := Option.bind_eq_some_iff.mp hs
  obtain rfl := Option.some.inj hv
  intro product hm
  rcases List.mem_append.mp hm with hm | hm
  · exact hu product hm
  · rw [List.mem_singleton.mp hm]
    exact isIdentifier_of_uniqueIdentifier hfound

theorem dedupePageTargets_subset (seenPaths : List Str) (targets : List PageTarget) :
    dedupePageTargets seenPaths targets ⊆ targets := by
  induction targets generalizing seenPaths with
  | nil => exact List.Subset.refl _
  | cons target targets ih =>
    unfold dedupePageTargets
    split
    · exact List.cons_subset_cons _ (ih _)
    · split
      · exact List.cons_subset_cons _ (ih _)
      · exact List.subset_cons_of_subset _ (ih _)

/-- Only the paths of the search pages are not made of identifiers. -/
theorem storable_buildPageTargets (hslug : ∀ n, FitsText (faker.slug n)) :
    ∀ target ∈ buildPageTargets lower faker,
      FitsText target.path ∧ ∀ c, target.categoryId = some c → FitsText c := by
  have hcategories : ∀ category ∈ categoryTemplates,
      FitsText category.slug ∧ FitsText category.categoryId := by decide
  have hlanding : ∀ path ∈ landingPagePaths, FitsText path := by decide
  intro target ht
  rcases List.mem_append.mp (dedupePageTargets_subset _ _ ht) with hm | hm
  · obtain ⟨path, hpath, rfl⟩ := List.mem_map.mp hm
    exact ⟨hlanding path hpath, nofun⟩
  · obtain ⟨item, hitem, hm⟩ := List.mem_flatMap.mp hm
    obtain ⟨hcslug, hcid⟩ := hcategories item.1 (List.fst_mem_of_mem_zipIdx hitem)
    have hid : ∀ c, some item.1.categoryId = some c → FitsText c := by
      intro c hc
      exact Option.some.inj hc ▸ hcid
    simp only [categoryTargets, List.mem_cons, List.not_mem_nil, or_false] at hm
    rcases hm with rfl | rfl | rfl
    · exact ⟨FitsText.append (by decide) hcslug, hid⟩
    · exact ⟨FitsText.append (by decide) (hslug _), hid⟩
    · exact ⟨FitsText.append (by decide)
        (fitsText_of_isIdentifierChar (isIdentifierChar_identifierSlug _)), hid⟩

/-- Every catalog that is built from storable slugs is storable. -/
theorem storableCatalog_of_build {fuel : Nat} {catalog : FakerDataCatalog}
    (h : FakerDataCatalog.build lower faker fuel = some catalog)
    (hslug : ∀ n, FitsText (faker.slug n)) : StorableCatalog catalog := by
  obtain ⟨users, husers, h⟩ := Option.bind_eq_some_iff.mp h
  obtain ⟨products, hproducts, h⟩ := Option.bind_eq_some_iff.mp h
  obtain rfl := Option.some.inj h
  have hu := isIdentifier_buildUsers husers (by simp)
  have ht : ∀ target ∈ buildPageTargets lower faker, _ := storable_buildPageTargets hslug
  exact ⟨fun user hm => ⟨ne_nil_of_isIdentifier (hu user hm),
      fitsText_of_isIdentifier (by decide) (hu user hm)⟩,
    fun product hm => fitsText_of_isIdentifier (by decide)
      (isIdentifier_buildProducts hproducts product hm),
    fun target hm => (ht target hm).1, fun target hm => (ht target hm).2⟩

end Catalog

/-! ## The events of a generator -/

/-- The runtimes of a producer and of the consumer. -/
def Pipeline.host (p : Pipeline F) (floatRepr : F → Str) (ofCents : Nat → F) : WireHost F where
  decoder := p.decoder
  pydantic := p.pydantic
  floatRepr := floatRepr
  ofCents := ofCents

/-- The amount the consumer reads of an event. -/
def receivedAmount (host : WireHost F) (event : GeneratedEvent F) : Option Decimal :=
  (orNull host.pydantic.decimal
    ((floatScalar event.amount).toValue host.decoder host.floatRepr)).getD none

/-- The event the consumer makes of the line of an event. -/
def receive (host : WireHost F) (event : GeneratedEvent F) : WebEvent :=
  received event (receivedAmount host event)

/-- The entry carries the line of the event. -/
def SendsLine (host : WireHost F) (entry : StreamEntry) (event : GeneratedEvent F) : Prop :=
  ∃ v, payloadValue entry.fields = some v ∧
    decodeText v = .ok (eventToJsonLine host.floatRepr event)

/-- What `RedisStreamEventSink.emit` appends carries the line. -/
theorem sendsLine_payloadEntry (host : WireHost F) (messageId : Str) (event : GeneratedEvent F) :
    SendsLine host (payloadEntry messageId (eventToJsonLine host.floatRepr event)) event :=
  ⟨_, rfl, rfl⟩

/-- The generator has a name and a catalog the table can hold. -/
structure StorableGenerator (g : EventGenerator) : Prop where
  producerId : g.config.producerId ≠ [] ∧ FitsText g.config.producerId
  catalog : StorableCatalog g.catalog

variable {host : WireHost F} {ofCents : Nat → F} {g : EventGenerator} {event : GeneratedEvent F}

/-- An emitted amount is at most the price of the dearest product. -/
theorem amount_of_emits (he : Emits ofCents g event) :
    event.amount = none ∨ ∃ n ≤ 249900, event.amount = some (ofCents n) := by
  obtain ⟨d, -, rfl⟩ := he
  unfold EventGenerator.generateOne
  cases d.eventType with
  | purchase =>
    exact Or.inr ⟨_, Nat.le_trans (Nat.sub_le _ _) d.product.priceCents_le, rfl⟩
  | pageView | productClick | addToCart | checkoutError => exact Or.inl rfl

/-- The amount is read, and is a number of cents the column takes. -/
theorem receivedAmount_of_emits (h : host.ReadsAsDeclared) (he : Emits host.ofCents g event) :
    orNull host.pydantic.decimal
        ((floatScalar event.amount).toValue host.decoder host.floatRepr) =
      some (receivedAmount host event) ∧
    ∀ d ∈ receivedAmount host event, FitsNumeric12d2 d.value := by
  unfold receivedAmount
  rcases amount_of_emits he with ha | ⟨n, hn, ha⟩
  · rw [ha]
    exact ⟨rfl, nofun⟩
  · obtain ⟨d, hd, hvalue⟩ := h.decimal n (Nat.lt_of_le_of_lt hn (by norm_num))
    have hread : orNull host.pydantic.decimal
        ((floatScalar event.amount).toValue host.decoder host.floatRepr) = some (some d) := by
      rw [ha]
      change (host.pydantic.decimal
        (.float (host.decoder.parseFloat (host.floatRepr (host.ofCents n))))).map some = _
      rw [h.floatRepr n (Nat.lt_of_le_of_lt hn (by norm_num)), hd]
      rfl
    rw [hread]
    refine ⟨rfl, fun d' hd' => ?_⟩
    obtain rfl : d = d' := Option.some.inj hd'
    have hcents : (n : ℚ) ≤ 249900 := by exact_mod_cast hn
    have hnonneg : (0 : ℚ) ≤ n := Nat.cast_nonneg n
    rw [fitsNumeric12d2_iff, hvalue, abs_of_nonneg (by positivity)]
    linarith

theorem fitsText_chooseEventId (eventIdPrefix eventSequence : Nat) :
    chooseEventId eventIdPrefix eventSequence ≠ [] ∧
      FitsText (chooseEventId eventIdPrefix eventSequence) := by
  obtain ⟨digits, hid, -, hdigits⟩ := isEventId_chooseEventId eventIdPrefix eventSequence
  have hlower : FitsText lowerHexDigits := by decide
  rw [hid]
  exact ⟨by simp [str], FitsText.append (by decide) fun c hc => hlower c (hdigits c hc)⟩

theorem FitsText.nonEmptyText {s : Str} (hs : s ≠ [] ∧ FitsText s) : NonEmptyText s :=
  ⟨hs.1, fun c hc => (hs.2 c hc).2⟩

/-- The ids of an emitted event are accepted. -/
theorem named_of_emits (hg : StorableGenerator g) (he : Emits ofCents g event) :
    NonEmptyText event.eventId ∧ NonEmptyText event.userId ∧ NonEmptyText event.producerId := by
  obtain ⟨d, hd, rfl⟩ := he
  have huser := FitsText.nonEmptyText (hg.catalog.userId _ hd.user)
  have hid := FitsText.nonEmptyText (fitsText_chooseEventId g.eventIdPrefix (g.eventSequence + 1))
  have hproducer := FitsText.nonEmptyText hg.producerId
  unfold EventGenerator.generateOne
  cases d.eventType <;> exact ⟨hid, huser, hproducer⟩

/-- The optional texts of an event. -/
def optionalTexts (event : GeneratedEvent F) : List (Option Str) :=
  [event.pagePath, event.categoryId, event.productId, event.currency, event.errorCode,
    event.errorMessage]

theorem fitsText_categoryId (product : Product) : FitsText product.categoryId := by
  have hall : ∀ template ∈ categoryTemplates, FitsText template.categoryId := by decide
  exact hall _ product.template_mem

/-- The texts of an emitted event are texts the table can hold. -/
theorem texts_of_emits (hg : StorableGenerator g) (he : Emits ofCents g event) :
    FitsText event.eventId ∧ FitsText event.userId ∧ FitsText event.producerId ∧
      ∀ o ∈ optionalTexts event, ∀ t, o = some t → FitsText t := by
  obtain ⟨d, hd, rfl⟩ := he
  have huser := (hg.catalog.userId _ hd.user).2
  have hid := (fitsText_chooseEventId g.eventIdPrefix (g.eventSequence + 1)).2
  have hcategory := fitsText_categoryId d.product
  have herrors : ∀ error ∈ errorMessages, FitsText error.1 ∧ FitsText error.2 := by decide
  have husd : FitsText (str "USD") := by decide
  have hproduct := fun h => hg.catalog.productId _ (hd.product h)
  unfold EventGenerator.generateOne
  cases htype : d.eventType with
  | pageView =>
    have htarget := hd.target htype
    refine ⟨hid, huser, hg.producerId.2, ?_⟩
    simpa [optionalTexts, EventGenerator.baseEvent] using
      ⟨hg.catalog.path _ htarget, hg.catalog.categoryId _ htarget⟩
  | productClick =>
    have hpath : FitsText (str "/products/") := by decide
    refine ⟨hid, huser, hg.producerId.2, ?_⟩
    simpa [optionalTexts, EventGenerator.baseEvent] using
      ⟨hpath.append (hproduct (by simp [htype])), hcategory, hproduct (by simp [htype])⟩
  | addToCart =>
    refine ⟨hid, huser, hg.producerId.2, ?_⟩
    simpa [optionalTexts, EventGenerator.baseEvent] using
      ⟨hcategory, hproduct (by simp [htype])⟩
  | purchase =>
    refine ⟨hid, huser, hg.producerId.2, ?_⟩
    simpa [optionalTexts, EventGenerator.baseEvent] using
      ⟨hcategory, hproduct (by simp [htype]), husd⟩
  | checkoutError =>
    have herror := herrors _ (hd.error htype)
    refine ⟨hid, huser, hg.producerId.2, ?_⟩
    simpa [optionalTexts, EventGenerator.baseEvent] using
      ⟨hcategory, hproduct (by simp [htype]), herror.1, herror.2⟩

/-- The row of an emitted event lies in the domain of the table. -/
theorem inDomain_of_emits (h : host.ReadsAsDeclared) (hg : StorableGenerator g)
    (he : Emits host.ofCents g event) (localZone : LocalZone) :
    (eventToRecordValues (receive host event)).InDomain localZone := by
  refine ⟨(texts_fit_iff _).mpr (texts_of_emits hg he), ?_, (receivedAmount_of_emits h he).2⟩
  change event.occurredAt.utc.FitsUtc localZone
  rw [DateTime.FitsUtc, CivilTime.toUtc_utc]
  rfl

/-- The line of an emitted event is read back as the event, with its content. -/
theorem entryEvent_of_emits {p : Pipeline F} {floatRepr : F → Str}
    (h : (p.host floatRepr ofCents).ReadsAsDeclared) (hg : StorableGenerator g)
    (he : Emits ofCents g event) {entry : StreamEntry}
    (hs : SendsLine (p.host floatRepr ofCents) entry event) :
    entryEvent p entry = some (receive (p.host floatRepr ofCents) event) := by
  obtain ⟨v, hv, hl⟩ := hs
  have hwell : WellEmitted (p.host floatRepr ofCents).ofCents event := wellEmitted_of_emits he
  refine entryEvent_eq_some.mpr ⟨_, decodePayload_line h hwell hv hl, ?_⟩
  exact (coercePayload_receivedPayload h hwell (receivedAmount_of_emits h he).1).trans
    (if_pos (named_of_emits hg he))

/-- A poll can finish the entry of every event that a generator emits, if the generator has a
name and a catalog of texts the table can hold. -/
theorem healthy_of_emits {p : Pipeline F} {floatRepr : F → Str}
    (h : (p.host floatRepr ofCents).ReadsAsDeclared) (hg : StorableGenerator g)
    (he : Emits ofCents g event) {entry : StreamEntry}
    (hs : SendsLine (p.host floatRepr ofCents) entry event) : Healthy p entry := by
  obtain ⟨payload, hp, hc⟩ := entryEvent_eq_some.mp (entryEvent_of_emits h hg he hs)
  refine ⟨payload, hp, fun other ho => ?_⟩
  obtain rfl := Option.some.inj (hc.symm.trans ho)
  exact inDomain_of_emits h hg he p.localZone

/-- The received event has the content of the emitted one. -/
theorem preserves_receive (h : host.ReadsAsDeclared) (he : Emits host.ofCents g event) :
    Preserves host event (receive host event) := by
  obtain ⟨amount, hread, ha⟩ := exists_received_amount h (wellEmitted_of_emits he)
  obtain rfl := Option.some.inj ((receivedAmount_of_emits h he).1.symm.trans hread)
  exact preserves_received ha

/-- Every catalog that is built from storable slugs is storable, and a poll can finish the entry
of every event that a generator with such a catalog and with a name emits: the entry is read as
an event of the same content, and its row fits the table. -/
theorem emitted_events_fit (p : Pipeline F) (floatRepr : F → Str) (ofCents : Nat → F)
    (h : (p.host floatRepr ofCents).ReadsAsDeclared) :
    (∀ (lower : Str → Str) (faker : Faker) (fuel : Nat) (catalog : FakerDataCatalog),
      FakerDataCatalog.build lower faker fuel = some catalog →
        (∀ n, FitsText (faker.slug n)) → StorableCatalog catalog) ∧
    ∀ g, StorableGenerator g → ∀ event, Emits ofCents g event →
      ∀ entry, SendsLine (p.host floatRepr ofCents) entry event →
        Healthy p entry ∧ ∃ received, entryEvent p entry = some received ∧
          Preserves (p.host floatRepr ofCents) event received :=
  ⟨fun _ _ _ _ hb hslug => storableCatalog_of_build hb hslug, fun _ hg _ he _ hs =>
    ⟨healthy_of_emits h hg he hs, _, entryEvent_of_emits h hg he hs, preserves_receive h he⟩⟩

theorem noonGenerator_storable : StorableGenerator noonGenerator where
  producerId := by decide
  catalog := by constructor <;> simp [noonGenerator] <;> decide

/-- The purchase that the noon generator emits is read and fits. -/
theorem noon_purchase_fits :
    Healthy exactPipeline (payloadEntry (str "1-0") (eventToJsonLine exactHost.floatRepr
        (noonGenerator.generateOne exactHost.ofCents purchaseDraws).1)) ∧
      ∃ received, entryEvent exactPipeline (payloadEntry (str "1-0")
          (eventToJsonLine exactHost.floatRepr
            (noonGenerator.generateOne exactHost.ofCents purchaseDraws).1)) = some received ∧
        Preserves (exactPipeline.host exactHost.floatRepr exactHost.ofCents)
          (noonGenerator.generateOne exactHost.ofCents purchaseDraws).1 received :=
  (emitted_events_fit exactPipeline exactHost.floatRepr exactHost.ofCents
    exactHost_readsAsDeclared).2 noonGenerator noonGenerator_storable _
      ⟨purchaseDraws, noonGenerator_allows, rfl⟩ _ (sendsLine_payloadEntry _ _ _)

end LiveData.Events

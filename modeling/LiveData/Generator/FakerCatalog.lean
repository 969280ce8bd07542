import LiveData.Core.FreshNames
import LiveData.Core.Numeral
import LiveData.Core.Runs
import LiveData.Generator.Generation

/-!
# The catalog built from Faker

`FakerDataCatalog.__init__` with what Faker returns as an argument. Identifiers are made
fresh by a counter behind them, and page targets go through a deduplication that lets the
landing paths pass.
-/

namespace LiveData.Generator

/-- What Faker returns, call by call. -/
structure Faker where
  uuid4 : Nat → Str
  randomElement : Nat → Str
  colorName : Nat → Str
  word : Nat → Str
  randomInt : Nat → Nat
  slug : Nat → Str
  domainWord : Nat → Str

/-- `_USER_POOL_SIZE`. -/
def userPoolSize : Nat := 160

/-- `_PRODUCTS_PER_CATEGORY`. -/
def productsPerCategory : Nat := 4

/-- `_LANDING_PAGE_PATHS`. -/
def landingPagePaths : List Str :=
  [str "/", str "/products", str "/products/new", str "/products/best", str "/cart",
    str "/checkout", str "/account/orders", str "/support/returns"]

/-! ## Identifiers -/

/-- The characters that a slug keeps. -/
def isSlugChar (c : Nat) : Bool := isDigit c || (97 ≤ c && c ≤ 122)

/-- `_IDENTIFIER_SEPARATOR_PATTERN.sub("_", value)`: every run of other characters becomes one
underscore. -/
def replaceSeparators (inRun : Bool) : Str → Str
  | [] => []
  | c :: s =>
    if isSlugChar c then c :: replaceSeparators false s
    else if inRun then replaceSeparators true s
    else 95 :: replaceSeparators true s

/-- `strip("_")`. -/
def stripUnderscores (s : Str) : Str :=
  ((s.dropWhile (· == 95)).reverse.dropWhile (· == 95)).reverse

section

variable (lower : Str → Str)

/-- `_identifier_slug`; `lower` is `str.lower`. -/
def identifierSlug (value : Str) : Str := stripUnderscores (replaceSeparators false (lower value))

/-- The slug of the parts that have one. -/
def joinedSlug (parts : List Str) (maxSlugLength : Nat) : Str :=
  stripUnderscores (((str "_").intercalate
    ((parts.map (identifierSlug lower)).filter (· ≠ []))).take maxSlugLength)

/-- The candidates of an identifier: without a number, then counted from two on. -/
def identifierCandidate (base : Str) : Nat → Str
  | 0 => base
  | n + 1 => base ++ str "_" ++ natText (n + 2)

/-- `_unique_identifier`, with the identifiers that exist after it. -/
def uniqueIdentifier (fuel : Nat) (idPrefix : Str) (parts existing : List Str)
    (maxSlugLength : Nat) : Option (Str × List Str) :=
  let slug := joinedSlug lower parts maxSlugLength
  let base := idPrefix ++ str "_" ++ if slug = [] then str "item" else slug
  (firstFresh existing (identifierCandidate base) fuel 0).map fun candidate =>
    (candidate, existing ++ [candidate])

variable (faker : Faker)

/-! ## Pools -/

/-- The loop of `_build_users`, with the identifiers that exist. -/
def buildUsers (fuel : Nat) : Nat → List Str → List UserProfile → Option (List UserProfile)
  | 0, _, _ => none
  | turns + 1, userIds, users =>
    if users.length < userPoolSize then do
      let (userId, userIds) ← uniqueIdentifier lower fuel (str "user")
        [(faker.uuid4 users.length).filter (· ≠ 45)] userIds 12
      buildUsers fuel turns userIds (users ++ [⟨userId, faker.randomElement users.length⟩])
    else some users

/-- `random_int` between the prices of a template, in steps of 100. -/
def randomPrice (template : CategoryTemplate) (draw : Nat) : Nat :=
  template.minPriceCents +
    100 * (draw % ((template.maxPriceCents - template.minPriceCents) / 100 + 1))

theorem min_le_max_of_mem {template : CategoryTemplate} (h : template ∈ categoryTemplates) :
    template.minPriceCents ≤ template.maxPriceCents := by
  have hall : ∀ t ∈ categoryTemplates, t.minPriceCents ≤ t.maxPriceCents := by decide
  exact hall template h

theorem randomPrice_le {template : CategoryTemplate} (h : template ∈ categoryTemplates)
    (draw : Nat) : randomPrice template draw ≤ template.maxPriceCents := by
  have hle := min_le_max_of_mem h
  have hmod : draw % ((template.maxPriceCents - template.minPriceCents) / 100 + 1) <
      (template.maxPriceCents - template.minPriceCents) / 100 + 1 := Nat.mod_lt _ (by omega)
  unfold randomPrice
  omega

/-- One turn of the loops of `_build_products`: the identifiers and the products after it. -/
def buildProduct (fuel : Nat) (state : List Str × List Product)
    (category : { template // template ∈ categoryTemplates }) :
    Option (List Str × List Product) := do
  let (productIds, products) := state
  let (productId, productIds) ← uniqueIdentifier lower fuel (str "prod")
    [category.1.slug, faker.colorName products.length, faker.word products.length] productIds 44
  some (productIds, products ++ [
    { productId := productId
      template := category.1
      priceCents := randomPrice category.1 (faker.randomInt products.length)
      template_mem := category.2
      price_ge := Nat.le_add_right _ _
      price_le := randomPrice_le category.2 _ }])

/-- The turns of those loops. -/
def productTurns : List { template // template ∈ categoryTemplates } :=
  categoryTemplates.attach.flatMap (List.replicate productsPerCategory)

/-- `_build_products`. -/
def buildProducts (fuel : Nat) : Option (List Product) :=
  (run (buildProduct lower faker fuel) ([], []) productTurns).map Prod.snd

/-- `_dedupe_page_targets`. -/
def dedupePageTargets (seenPaths : List Str) : List PageTarget → List PageTarget
  | [] => []
  | target :: targets =>
    if target.path ∉ seenPaths then
      target :: dedupePageTargets (seenPaths ++ [target.path]) targets
    else if target.path ∈ landingPagePaths then target :: dedupePageTargets seenPaths targets
    else dedupePageTargets seenPaths targets

/-- The page targets of the `n`th category. -/
def categoryTargets (category : CategoryTemplate) (n : Nat) : List PageTarget :=
  [⟨str "/categories/" ++ category.slug, some category.categoryId⟩,
    ⟨str "/search/" ++ faker.slug n, some category.categoryId⟩,
    ⟨str "/collections/" ++ identifierSlug lower (faker.domainWord n), some category.categoryId⟩]

/-- `_build_page_targets`. -/
def buildPageTargets : List PageTarget :=
  dedupePageTargets landingPagePaths (landingPagePaths.map (⟨·, none⟩) ++
    categoryTemplates.zipIdx.flatMap fun item => categoryTargets lower faker item.1 item.2)

/-- `FakerDataCatalog.__init__`, with fuel for its `while` loops. -/
def FakerDataCatalog.build (fuel : Nat) : Option FakerDataCatalog := do
  let users ← buildUsers lower faker fuel fuel [] []
  let products ← buildProducts lower faker fuel
  some ⟨users, products, buildPageTargets lower faker⟩

end

end LiveData.Generator

import LiveData.Generator.FakerCatalog

/-!
# The catalog is well formed whatever Faker returns

Identifiers are fresh in front of those that exist, and an identifier always exists because
its numbered candidates differ. Page targets keep the landing paths in front and one path
each behind them.
-/

namespace LiveData.Generator

/-! ## Identifiers -/

/-- The characters of an identifier. -/
def isIdentifierChar (c : Nat) : Bool := isSlugChar c || c == 95

/-- A prefix, an underscore and at least one more character, all of them allowed. -/
def IsIdentifier (idPrefix identifier : Str) : Prop :=
  ∃ rest, identifier = idPrefix ++ str "_" ++ rest ∧ rest ≠ [] ∧
    ∀ c ∈ rest, isIdentifierChar c = true

theorem natText_injective : Function.Injective natText := fun n m h => by
  rw [← digitsValue_natText n, ← digitsValue_natText m, h]

/-- No two candidates of an identifier are the same. -/
theorem identifierCandidate_injective (base : Str) :
    Function.Injective (identifierCandidate base) := by
  have hlonger : ∀ n, base ≠ identifierCandidate base (n + 1) := by
    intro n h
    have hlength := congrArg List.length h
    simp only [identifierCandidate, List.length_append] at hlength
    have hone : (str "_").length = 1 := rfl
    omega
  intro n m h
  cases n with
  | zero =>
    cases m with
    | zero => rfl
    | succ m => exact absurd h (hlonger m)
  | succ n =>
    cases m with
    | zero => exact absurd h.symm (hlonger n)
    | succ m =>
      have htext : natText (n + 2) = natText (m + 2) := List.append_cancel_left h
      have hnum := natText_injective htext
      omega

/-- Separators become underscores. -/
theorem isIdentifierChar_replaceSeparators (inRun : Bool) (s : Str) :
    ∀ c ∈ replaceSeparators inRun s, isIdentifierChar c = true := by
  induction s generalizing inRun with
  | nil => simp [replaceSeparators]
  | cons d s ih =>
    intro c hc
    unfold replaceSeparators at hc
    split at hc
    · next hd =>
      rcases List.mem_cons.mp hc with rfl | hc
      · simp [isIdentifierChar, hd]
      · exact ih _ c hc
    · split at hc
      · exact ih _ c hc
      · rcases List.mem_cons.mp hc with rfl | hc
        · rfl
        · exact ih _ c hc

/-- Stripping keeps a part of the text. -/
theorem stripUnderscores_subset (s : Str) : stripUnderscores s ⊆ s := by
  intro c hc
  have hrear := (List.dropWhile_suffix _).subset (List.mem_reverse.mp hc)
  exact (List.dropWhile_suffix _).subset (List.mem_reverse.mp hrear)

/-- What stands in a joined text stands in a piece or in the separator. -/
theorem mem_intercalate {separator : Str} {pieces : List Str} {c : Nat}
    (h : c ∈ separator.intercalate pieces) : c ∈ separator ∨ ∃ piece ∈ pieces, c ∈ piece := by
  induction pieces with
  | nil => simp at h
  | cons piece pieces ih =>
    cases pieces with
    | nil =>
      rw [List.intercalate_singleton] at h
      exact Or.inr ⟨piece, List.mem_singleton_self _, h⟩
    | cons next pieces =>
      rw [List.intercalate_cons_cons, List.mem_append, List.mem_append] at h
      rcases h with (h | h) | h
      · exact Or.inr ⟨piece, List.mem_cons_self, h⟩
      · exact Or.inl h
      · rcases ih h with h | ⟨q, hq, h⟩
        · exact Or.inl h
        · exact Or.inr ⟨q, List.mem_cons_of_mem _ hq, h⟩

section

variable {lower : Str → Str}

/-- A slug has allowed characters only. -/
theorem isIdentifierChar_identifierSlug (value : Str) :
    ∀ c ∈ identifierSlug lower value, isIdentifierChar c = true := fun c hc =>
  isIdentifierChar_replaceSeparators _ _ c (stripUnderscores_subset _ hc)

theorem isIdentifierChar_joinedSlug (parts : List Str) (maxSlugLength : Nat) :
    ∀ c ∈ joinedSlug lower parts maxSlugLength, isIdentifierChar c = true := by
  intro c hc
  rcases mem_intercalate (List.mem_of_mem_take (stripUnderscores_subset _ hc)) with h | ⟨p, hp, h⟩
  · rw [List.mem_singleton.mp h]
    rfl
  · obtain ⟨value, -, rfl⟩ := List.mem_map.mp (List.mem_of_mem_filter hp)
    exact isIdentifierChar_identifierSlug value c h

/-- Every candidate is an identifier. -/
theorem isIdentifier_identifierCandidate {idPrefix slug : Str} (hne : slug ≠ [])
    (hslug : ∀ c ∈ slug, isIdentifierChar c = true) (n : Nat) :
    IsIdentifier idPrefix (identifierCandidate (idPrefix ++ str "_" ++ slug) n) := by
  cases n with
  | zero => exact ⟨slug, rfl, hne, hslug⟩
  | succ n =>
    refine ⟨slug ++ str "_" ++ natText (n + 2), ?_, by simp [hne], ?_⟩
    · simp only [identifierCandidate, List.append_assoc]
    · intro c hc
      rcases List.mem_append.mp hc with hc | hc
      · rcases List.mem_append.mp hc with hc | hc
        · exact hslug c hc
        · rw [List.mem_singleton.mp hc]
          rfl
      · have hdigit : isDigit c = true := isDigit_padDigits _ _ c hc
        simp [isIdentifierChar, isSlugChar, hdigit]

/-- Whatever is found is an identifier. -/
theorem isIdentifier_of_uniqueIdentifier {fuel : Nat} {idPrefix : Str} {parts existing : List Str}
    {maxSlugLength : Nat} {found : Str × List Str}
    (h : uniqueIdentifier lower fuel idPrefix parts existing maxSlugLength = some found) :
    IsIdentifier idPrefix found.1 := by
  obtain ⟨identifier, hfound, rfl⟩ := Option.map_eq_some_iff.mp h
  obtain ⟨-, n, rfl⟩ := firstFresh_eq_some hfound
  refine isIdentifier_identifierCandidate ?_ ?_ n
  · split
    · decide
    · assumption
  · split
    · decide
    · exact isIdentifierChar_joinedSlug parts maxSlugLength

variable (lower) in
/-- An identifier is found when there are more tries than identifiers, and it is fresh. -/
theorem exists_uniqueIdentifier {fuel : Nat} {existing : List Str} (hfuel : existing.length < fuel)
    (idPrefix : Str) (parts : List Str) (maxSlugLength : Nat) :
    ∃ identifier, uniqueIdentifier lower fuel idPrefix parts existing maxSlugLength =
      some (identifier, existing ++ [identifier]) ∧ identifier ∉ existing ∧
        IsIdentifier idPrefix identifier := by
  let slug := if joinedSlug lower parts maxSlugLength = [] then str "item"
    else joinedSlug lower parts maxSlugLength
  obtain ⟨identifier, hfirst⟩ := exists_firstFresh
    (identifierCandidate_injective (idPrefix ++ str "_" ++ slug)) hfuel 0
  have hfound : uniqueIdentifier lower fuel idPrefix parts existing maxSlugLength =
      some (identifier, existing ++ [identifier]) :=
    Option.map_eq_some_iff.mpr ⟨identifier, hfirst, rfl⟩
  exact ⟨identifier, hfound, (firstFresh_eq_some hfirst).1,
    isIdentifier_of_uniqueIdentifier hfound⟩

/-- More fuel finds the same identifier. -/
theorem uniqueIdentifier_mono {fuel fuel' : Nat} (hle : fuel ≤ fuel') {idPrefix : Str}
    {parts existing : List Str} {maxSlugLength : Nat} {found : Str × List Str}
    (h : uniqueIdentifier lower fuel idPrefix parts existing maxSlugLength = some found) :
    uniqueIdentifier lower fuel' idPrefix parts existing maxSlugLength = some found := by
  obtain ⟨identifier, hfound, rfl⟩ := Option.map_eq_some_iff.mp h
  exact Option.map_eq_some_iff.mpr ⟨identifier, firstFresh_mono hle hfound, rfl⟩

variable {faker : Faker}

/-! ## Users -/

/-- The loop of the users ends with distinct identifiers. -/
theorem exists_buildUsers {fuel turns : Nat} {userIds : List Str} {users : List UserProfile}
    (hturns : userPoolSize - users.length < turns) (hfuel : userPoolSize ≤ fuel)
    (hids : users.map UserProfile.userId = userIds) (hnodup : userIds.Nodup) :
    ∃ all, buildUsers lower faker fuel turns userIds users = some all ∧
      (all.map UserProfile.userId).Nodup := by
  induction turns generalizing userIds users with
  | zero => omega
  | succ turns ih =>
    unfold buildUsers
    split
    · next hlt =>
      have hlength : userIds.length < fuel := by
        rw [← hids, List.length_map]
        omega
      obtain ⟨userId, hfound, hfresh, -⟩ := exists_uniqueIdentifier lower hlength
        (str "user") [(faker.uuid4 users.length).filter (· ≠ 45)] 12
      rw [hfound]
      refine ih ?_ ?_ ?_
      · rw [List.length_append, List.length_singleton]
        omega
      · rw [List.map_append, hids]
        rfl
      · exact List.concat_eq_append ▸ hnodup.concat hfresh
    · exact ⟨users, rfl, hids ▸ hnodup⟩

/-- More fuel builds the same users. -/
theorem buildUsers_mono {fuel fuel' turns turns' : Nat} (hfuel : fuel ≤ fuel')
    (hturns : turns ≤ turns') {userIds : List Str} {users all : List UserProfile}
    (h : buildUsers lower faker fuel turns userIds users = some all) :
    buildUsers lower faker fuel' turns' userIds users = some all := by
  induction turns generalizing turns' userIds users with
  | zero => simp [buildUsers] at h
  | succ turns ih =>
    obtain ⟨extra, rfl⟩ := Nat.exists_eq_add_of_le' (show 1 ≤ turns' by omega)
    unfold buildUsers at h ⊢
    split at h
    · next hlt =>
      obtain ⟨found, hfound, h⟩ := Option.bind_eq_some_iff.mp h
      rw [if_pos hlt, uniqueIdentifier_mono hfuel hfound]
      exact ih (by omega) h
    · next hge => rw [if_neg hge, h]

/-! ## Products -/

/-- The products so far, with the identifiers that exist. -/
structure ProductsSoFar (categories : List { template // template ∈ categoryTemplates })
    (state : List Str × List Product) : Prop where
  ids : state.2.map Product.productId = state.1
  nodup : state.1.Nodup
  isIdentifier : ∀ product ∈ state.2, IsIdentifier (str "prod") product.productId
  templates : state.2.map Product.template = categories.map Subtype.val

/-- A turn adds one product of its category. -/
theorem exists_buildProduct {fuel : Nat}
    {before : List { template // template ∈ categoryTemplates }}
    {state : List Str × List Product} (h : ProductsSoFar before state)
    (hfuel : before.length < fuel) (category : { template // template ∈ categoryTemplates }) :
    ∃ next, buildProduct lower faker fuel state category = some next ∧
      ProductsSoFar (before ++ [category]) next := by
  have hlength : state.1.length < fuel := by
    have htemplates := congrArg List.length h.templates
    rw [List.length_map, List.length_map] at htemplates
    rw [← h.ids, List.length_map]
    omega
  obtain ⟨productId, hfound, hfresh, hshape⟩ := exists_uniqueIdentifier lower hlength
    (str "prod") [category.1.slug, faker.colorName state.2.length, faker.word state.2.length] 44
  let product : Product :=
    { productId := productId
      template := category.1
      priceCents := randomPrice category.1 (faker.randomInt state.2.length)
      template_mem := category.2
      price_ge := Nat.le_add_right _ _
      price_le := randomPrice_le category.2 _ }
  refine ⟨(state.1 ++ [productId], state.2 ++ [product]), ?_, ?_, ?_, ?_, ?_⟩
  · rw [buildProduct, hfound]
    rfl
  · simp only [List.map_append, h.ids, List.map_singleton, product]
  · exact List.concat_eq_append ▸ h.nodup.concat hfresh
  · intro p hp
    rcases List.mem_append.mp hp with hp | hp
    · exact h.isIdentifier p hp
    · rw [List.mem_singleton.mp hp]
      exact hshape
  · simp only [List.map_append, h.templates, List.map_singleton, product]

variable (lower faker) in
/-- The loops of the products end. -/
theorem exists_buildProducts {fuel : Nat} (hfuel : productTurns.length ≤ fuel) :
    ∃ state, run (buildProduct lower faker fuel) ([], []) productTurns = some state ∧
      ProductsSoFar productTurns state := by
  refine exists_run ⟨rfl, List.nodup_nil, by simp, rfl⟩ fun before category after state hbefore h =>
    exists_buildProduct h ?_ category
  rw [hbefore, List.length_append, List.length_cons] at hfuel
  omega

/-- The turns of the loops give four products to each category. -/
theorem countP_template_of_productsSoFar {state : List Str × List Product}
    (h : ProductsSoFar productTurns state) {category : CategoryTemplate}
    (hcategory : category ∈ categoryTemplates) :
    state.2.countP (fun product => product.template.categoryId = category.categoryId) = 4 := by
  have hturns : ∀ c ∈ categoryTemplates, (productTurns.map Subtype.val).countP
      (fun template => template.categoryId = c.categoryId) = 4 := by decide
  have hcount := hturns category hcategory
  rw [← h.templates, List.countP_map] at hcount
  exact hcount

variable (lower faker) in
/-- More fuel builds the same products. -/
theorem buildProduct_mono {fuel fuel' : Nat} (hfuel : fuel ≤ fuel')
    (state : List Str × List Product) (category : { template // template ∈ categoryTemplates })
    (next : List Str × List Product)
    (h : buildProduct lower faker fuel state category = some next) :
    buildProduct lower faker fuel' state category = some next := by
  obtain ⟨found, hfound, h⟩ := Option.bind_eq_some_iff.mp h
  exact Option.bind_eq_some_iff.mpr ⟨found, uniqueIdentifier_mono hfuel hfound, h⟩

/-! ## Page targets -/

/-- Landing paths pass in front. -/
theorem dedupePageTargets_append {seenPaths : List Str} {front : List PageTarget}
    (hfront : ∀ target ∈ front, target.path ∈ landingPagePaths)
    (hseen : landingPagePaths ⊆ seenPaths) (rest : List PageTarget) :
    dedupePageTargets seenPaths (front ++ rest) = front ++ dedupePageTargets seenPaths rest := by
  induction front with
  | nil => rfl
  | cons target front ih =>
    have hlanding := hfront target List.mem_cons_self
    rw [List.cons_append, dedupePageTargets, if_neg (not_not.mpr (hseen hlanding)),
      if_pos hlanding, ih fun u hu => hfront u (List.mem_cons_of_mem _ hu), List.cons_append]

/-- The other paths stay once each. -/
theorem nodup_dedupePageTargets (seenPaths : List Str) {targets : List PageTarget}
    (htargets : ∀ target ∈ targets, target.path ∉ landingPagePaths) :
    ((dedupePageTargets seenPaths targets).map PageTarget.path).Nodup ∧
      ∀ target ∈ dedupePageTargets seenPaths targets, target.path ∉ seenPaths := by
  induction targets generalizing seenPaths with
  | nil => simp [dedupePageTargets]
  | cons target targets ih =>
    have hrest : ∀ u ∈ targets, u.path ∉ landingPagePaths := fun u hu =>
      htargets u (List.mem_cons_of_mem _ hu)
    unfold dedupePageTargets
    split
    · next hfresh =>
      obtain ⟨hnodup, hdisjoint⟩ := ih (seenPaths ++ [target.path]) hrest
      constructor
      · refine List.nodup_cons.mpr ⟨fun hmem => ?_, hnodup⟩
        obtain ⟨u, hu, hpath⟩ := List.mem_map.mp hmem
        exact hdisjoint u hu (by simp [hpath])
      · intro u hu
        rcases List.mem_cons.mp hu with rfl | hu
        · exact hfresh
        · exact fun hmem => hdisjoint u hu (List.mem_append_left _ hmem)
    · rw [if_neg (htargets target List.mem_cons_self)]
      exact ih seenPaths hrest

/-- A target is kept when its path is new and no other target has it. -/
theorem mem_dedupePageTargets {seenPaths : List Str} {targets : List PageTarget}
    {target : PageTarget} (hmem : target ∈ targets) (hnew : target.path ∉ seenPaths)
    (hsame : ∀ u ∈ targets, u.path = target.path → u = target) :
    target ∈ dedupePageTargets seenPaths targets := by
  induction targets generalizing seenPaths with
  | nil => simp at hmem
  | cons first targets ih =>
    have hrest : ∀ u ∈ targets, u.path = target.path → u = target := fun u hu =>
      hsame u (List.mem_cons_of_mem _ hu)
    by_cases hfirst : first = target
    · rw [hfirst, dedupePageTargets, if_pos hnew]
      exact List.mem_cons_self
    · have hlater : target ∈ targets := by
        rcases List.mem_cons.mp hmem with h | h
        · exact absurd h.symm hfirst
        · exact h
      have hpath : target.path ≠ first.path := fun h =>
        hfirst (hsame first List.mem_cons_self h.symm)
      unfold dedupePageTargets
      split
      · exact List.mem_cons_of_mem _ (ih hlater (by simp [hnew, hpath]) hrest)
      · split
        · exact List.mem_cons_of_mem _ (ih hlater hnew hrest)
        · exact ih hlater hnew hrest

/-- The target that every category has. -/
def categoryTarget (category : CategoryTemplate) : PageTarget :=
  ⟨str "/categories/" ++ category.slug, some category.categoryId⟩

/-- The targets of all categories, before the deduplication. -/
def allCategoryTargets (lower : Str → Str) (faker : Faker) : List PageTarget :=
  categoryTemplates.zipIdx.flatMap fun item => categoryTargets lower faker item.1 item.2

/-- Such a target is the one of a category, or its path begins differently. -/
theorem eq_categoryTarget_or {target : PageTarget}
    (h : target ∈ allCategoryTargets lower faker) :
    (∃ category ∈ categoryTemplates, target = categoryTarget category) ∨
      target.path.take 4 = str "/sea" ∨ target.path.take 4 = str "/col" := by
  obtain ⟨⟨category, n⟩, hitem, htarget⟩ := List.mem_flatMap.mp h
  have hcategory : category ∈ categoryTemplates := List.fst_mem_of_mem_zipIdx hitem
  simp only [categoryTargets, List.mem_cons, List.not_mem_nil, or_false] at htarget
  rcases htarget with rfl | rfl | rfl
  · exact Or.inl ⟨category, hcategory, rfl⟩
  · exact Or.inr (Or.inl rfl)
  · exact Or.inr (Or.inr rfl)

/-- No path of a category is a landing path. -/
theorem not_mem_landingPagePaths {target : PageTarget}
    (h : target ∈ allCategoryTargets lower faker) : target.path ∉ landingPagePaths := by
  have hlanding : ∀ path ∈ landingPagePaths, path.take 4 ≠ str "/cat" ∧
      path.take 4 ≠ str "/sea" ∧ path.take 4 ≠ str "/col" := by decide
  intro hmem
  obtain ⟨hcat, hsea, hcol⟩ := hlanding _ hmem
  rcases eq_categoryTarget_or h with ⟨category, -, rfl⟩ | h | h
  · exact hcat rfl
  · exact hsea h
  · exact hcol h

/-- Only the target of a category has its path. -/
theorem eq_categoryTarget {category : CategoryTemplate} (hcategory : category ∈ categoryTemplates)
    {target : PageTarget} (h : target ∈ allCategoryTargets lower faker)
    (hpath : target.path = (categoryTarget category).path) : target = categoryTarget category := by
  have hslugs : ∀ c ∈ categoryTemplates, ∀ d ∈ categoryTemplates, c.slug = d.slug → c = d := by
    decide
  have htake : target.path.take 4 = str "/cat" := by
    rw [hpath]
    rfl
  rcases eq_categoryTarget_or h with ⟨other, hother, rfl⟩ | h | h
  · rw [hslugs other hother category hcategory (List.append_cancel_left hpath)]
  · exact absurd (htake.symm.trans h) (by decide)
  · exact absurd (htake.symm.trans h) (by decide)

variable (lower faker) in
/-- Every category has a page target. -/
theorem categoryTarget_mem {category : CategoryTemplate}
    (hcategory : category ∈ categoryTemplates) :
    categoryTarget category ∈
      dedupePageTargets landingPagePaths (allCategoryTargets lower faker) := by
  have hmem : categoryTarget category ∈ allCategoryTargets lower faker := by
    obtain ⟨n, hn⟩ := List.mem_iff_getElem?.mp hcategory
    have hitem : (category, n) ∈ categoryTemplates.zipIdx :=
      List.mem_zipIdx_iff_getElem?.mpr hn
    exact List.mem_flatMap.mpr ⟨(category, n), hitem, List.mem_cons_self⟩
  exact mem_dedupePageTargets hmem (not_mem_landingPagePaths hmem) fun u hu =>
    eq_categoryTarget hcategory hu

/-- The page targets are the landing paths and then the others once each. -/
theorem buildPageTargets_eq : buildPageTargets lower faker =
    landingPagePaths.map (⟨·, none⟩) ++
      dedupePageTargets landingPagePaths (allCategoryTargets lower faker) := by
  refine dedupePageTargets_append ?_ (List.Subset.refl _) _
  intro target htarget
  obtain ⟨path, hpath, rfl⟩ := List.mem_map.mp htarget
  exact hpath

theorem map_path_buildPageTargets : (buildPageTargets lower faker).map PageTarget.path =
    landingPagePaths ++
      (dedupePageTargets landingPagePaths (allCategoryTargets lower faker)).map
        PageTarget.path := by
  rw [buildPageTargets_eq, List.map_append, List.map_map]
  rfl

/-- No two page targets have one path. -/
theorem nodup_path_buildPageTargets :
    ((buildPageTargets lower faker).map PageTarget.path).Nodup := by
  have hlanding : landingPagePaths.Nodup := by decide
  obtain ⟨hnodup, hnew⟩ := nodup_dedupePageTargets landingPagePaths fun target
    (htarget : target ∈ allCategoryTargets lower faker) => not_mem_landingPagePaths htarget
  rw [map_path_buildPageTargets]
  refine hlanding.append hnodup fun path hpath hmem => ?_
  obtain ⟨target, htarget, rfl⟩ := List.mem_map.mp hmem
  exact hnew target htarget hpath

variable (lower faker) in
theorem categoryTarget_mem_buildPageTargets {category : CategoryTemplate}
    (hcategory : category ∈ categoryTemplates) :
    categoryTarget category ∈ buildPageTargets lower faker := by
  rw [buildPageTargets_eq]
  exact List.mem_append_right _ (categoryTarget_mem lower faker hcategory)

end

/-! ## The catalog -/

/-- `products_for_category`. -/
def FakerDataCatalog.productsForCategory (catalog : FakerDataCatalog) (categoryId : Str) :
    List Product :=
  catalog.products.filter (·.categoryId = categoryId)

/-- `page_targets_for_category`. -/
def FakerDataCatalog.pageTargetsForCategory (catalog : FakerDataCatalog) (categoryId : Str) :
    List PageTarget :=
  catalog.pageTargets.filter (·.categoryId = some categoryId)

/-- What generation and the dashboards expect of a catalog. -/
structure FakerDataCatalog.WellFormed (catalog : FakerDataCatalog) : Prop where
  users_nodup : (catalog.users.map UserProfile.userId).Nodup
  products_nodup : (catalog.products.map Product.productId).Nodup
  products_isIdentifier : ∀ product ∈ catalog.products,
    IsIdentifier (str "prod") product.productId
  four_products : ∀ category ∈ categoryTemplates,
    (catalog.productsForCategory category.categoryId).length = 4
  page_targets : ∀ category ∈ categoryTemplates,
    1 ≤ (catalog.pageTargetsForCategory category.categoryId).length
  paths_nodup : (catalog.pageTargets.map PageTarget.path).Nodup
  landing_prefix : landingPagePaths <+: catalog.pageTargets.map PageTarget.path

/-- The construction of a catalog ends, and its catalog is well formed. -/
theorem FakerDataCatalog.exists_build (lower : Str → Str) (faker : Faker) :
    ∃ catalog : FakerDataCatalog, catalog.WellFormed ∧
      ∀ fuel > userPoolSize, FakerDataCatalog.build lower faker fuel = some catalog := by
  obtain ⟨users, husers, husersNodup⟩ : ∃ users, buildUsers lower faker (userPoolSize + 1)
      (userPoolSize + 1) [] [] = some users ∧ (users.map UserProfile.userId).Nodup :=
    exists_buildUsers (by simp) (Nat.le_succ _) rfl List.nodup_nil
  obtain ⟨⟨ids, products⟩, hproducts, hsofar⟩ := exists_buildProducts lower faker
    (show productTurns.length ≤ userPoolSize + 1 by decide)
  refine ⟨⟨users, products, buildPageTargets lower faker⟩, ?_, ?_⟩
  · refine ⟨husersNodup, hsofar.ids ▸ hsofar.nodup, hsofar.isIdentifier, ?_, ?_,
      nodup_path_buildPageTargets, ?_⟩
    · intro category hcategory
      rw [productsForCategory, ← List.countP_eq_length_filter]
      exact countP_template_of_productsSoFar hsofar hcategory
    · intro category hcategory
      have hmem := categoryTarget_mem_buildPageTargets lower faker hcategory
      have hfound : categoryTarget category ∈ (buildPageTargets lower faker).filter
          (·.categoryId = some category.categoryId) :=
        List.mem_filter.mpr ⟨hmem, by simp [categoryTarget]⟩
      exact List.length_pos_of_mem hfound
    · rw [map_path_buildPageTargets]
      exact List.prefix_append _ _
  · intro fuel hfuel
    have husers' := buildUsers_mono hfuel hfuel husers
    have hproducts' := run_mono (buildProduct_mono lower faker hfuel) hproducts
    simp only [FakerDataCatalog.build, buildProducts, husers', hproducts', Option.map_some]
    rfl

end LiveData.Generator

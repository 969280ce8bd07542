import LiveData.Core.Dict
import LiveData.Frontend.Proxy

/-!
# What the analytics proxy forwards

The allowlist is stated without the order of the two route sources. The handlers agree
with it except where the item pattern shadows a key of the table, which happens for one
segment list and one method only.
-/

namespace LiveData.Proxy

open Uri

/-- The allowlist: a table key with one of its methods, or the deletion of one view table. -/
def Allowed (method : AnalyticsProxyMethod) (path : List (List Char)) : Prop :=
  (∃ route, (joinSlash path, route) ∈ analyticsProxyRoutes ∧ method ∈ route.methods) ∨
    (method = .delete ∧ ∃ name, path = ["view-tables".toList, name])

/-- The answer a request gets is the one the allowlist prescribes. -/
structure ForwardsExactly (backendApiBaseUrl : List Char) (path : List (List Char))
    (method : AnalyticsProxyMethod) (request : Request) : Prop where
  forwarded : (handle backendApiBaseUrl path method request).IsForwarded ↔ Allowed method path
  methodNotAllowed : (handle backendApiBaseUrl path method request).IsMethodNotAllowed ↔
    ¬Allowed method path ∧ ∃ other, Allowed other path
  unknownRoute : (handle backendApiBaseUrl path method request).IsUnknownRoute ↔
    ¬∃ other, Allowed other path

/-- The segment list whose table entry the item pattern hides. -/
def previewPath : List (List Char) := ["view-tables".toList, "preview".toList]

/-- Table keys are distinct, so membership is lookup. -/
theorem mem_analyticsProxyRoutes {routeName : List Char} {route : AnalyticsProxyRoute} :
    (routeName, route) ∈ analyticsProxyRoutes ↔ routeNamed routeName = some route := by
  have hn : (Dict.keys analyticsProxyRoutes).Nodup := by decide
  exact (Dict.lookup_eq_some_iff hn).symm

/-- Every entry of the table has a method. -/
theorem methods_ne_nil {routeName : List Char} {route : AnalyticsProxyRoute}
    (h : routeNamed routeName = some route) : route.methods ≠ [] := by
  have hall : ∀ p ∈ analyticsProxyRoutes, p.2.methods ≠ [] := by decide
  exact hall _ (mem_analyticsProxyRoutes.mpr h)

/-- The only key below `view-tables` is its preview. -/
theorem routeNamed_item (name : List Char) :
    routeNamed (joinSlash ["view-tables".toList, name]) =
      if name = "preview".toList then some ⟨"view-tables/preview".toList, [.post]⟩ else none := by
  rw [joinSlash_pair]
  by_cases h : name = "preview".toList
  · subst h
    decide
  · rw [if_neg h, routeNamed, Dict.lookup_eq_none_iff]
    intro hk
    have hall : ∀ k ∈ Dict.keys analyticsProxyRoutes, k.take 12 = "view-tables/".toList →
        k.drop 12 = "preview".toList := by decide
    exact h (hall _ hk rfl)

/-- Two segments under `view-tables` are always taken by the item pattern. -/
theorem analyticsRoute_item (name : List Char) :
    analyticsRoute ["view-tables".toList, name] =
      some ⟨"view-tables/".toList ++ name, [.delete]⟩ := rfl

/-- Every other segment list is looked up in the table. -/
theorem analyticsRoute_table {path : List (List Char)}
    (h : ¬∃ name, path = ["view-tables".toList, name]) :
    analyticsRoute path = routeNamed (joinSlash path) := by
  by_cases hn : path = []
  · subst hn
    decide
  · have hi : analyticsViewTableItemRoute path = none := by
      unfold analyticsViewTableItemRoute
      split
      · next first name =>
        have hf : first ≠ "view-tables".toList := fun he => h ⟨name, by rw [he]⟩
        simp only [hf, ite_false]
      · rfl
    simp only [analyticsRoute, hn, ite_false, hi]

/-- Outside the item pattern the allowlist is the method list of the route found. -/
theorem allowed_table_iff {path : List (List Char)} (method : AnalyticsProxyMethod)
    (h : ¬∃ name, path = ["view-tables".toList, name]) :
    Allowed method path ↔ ∃ route, analyticsRoute path = some route ∧ method ∈ route.methods := by
  simp only [Allowed, mem_analyticsProxyRoutes, analyticsRoute_table h, h, and_false, or_false]

/-- On the item pattern the allowlist adds the preview entry to deletion. -/
theorem allowed_item_iff (method : AnalyticsProxyMethod) (name : List Char) :
    Allowed method ["view-tables".toList, name] ↔
      method = .delete ∨ (method = .post ∧ name = "preview".toList) := by
  have hx : ∃ other, ["view-tables".toList, name] = ["view-tables".toList, other] := ⟨name, rfl⟩
  simp only [Allowed, mem_analyticsProxyRoutes, routeNamed_item, hx, and_true]
  by_cases h : name = "preview".toList
  · simp only [h, ite_true, Option.some.injEq, exists_eq_left', List.mem_singleton, and_true,
      or_comm]
  · simp only [h, ite_false, reduceCtorEq, false_and, exists_false, false_or, and_false, or_false]

/-- The allowlist and the route found permit the same methods, the shadowed pair apart. -/
theorem allowed_iff_route {path : List (List Char)} {method : AnalyticsProxyMethod}
    (h : ¬(method = .post ∧ path = previewPath)) :
    Allowed method path ↔ ∃ route, analyticsRoute path = some route ∧ method ∈ route.methods := by
  by_cases hi : ∃ name, path = ["view-tables".toList, name]
  · obtain ⟨name, rfl⟩ := hi
    have hn : ¬(method = .post ∧ name = "preview".toList) := by
      rintro ⟨hm, rfl⟩
      exact h ⟨hm, rfl⟩
    rw [allowed_item_iff, analyticsRoute_item]
    simp only [hn, or_false, Option.some.injEq, exists_eq_left', List.mem_singleton]
  · exact allowed_table_iff method hi

/-- Some method is allowed exactly where a route is found. -/
theorem exists_allowed_iff_route (path : List (List Char)) :
    (∃ other, Allowed other path) ↔ ∃ route, analyticsRoute path = some route := by
  constructor
  · rintro ⟨other, ho⟩
    by_cases hi : ∃ name, path = ["view-tables".toList, name]
    · obtain ⟨name, rfl⟩ := hi
      exact ⟨_, analyticsRoute_item name⟩
    · obtain ⟨route, hr, _⟩ := (allowed_table_iff other hi).mp ho
      exact ⟨route, hr⟩
  · rintro ⟨route, hr⟩
    by_cases hi : ∃ name, path = ["view-tables".toList, name]
    · obtain ⟨name, rfl⟩ := hi
      exact ⟨.delete, (allowed_item_iff .delete name).mpr (Or.inl rfl)⟩
    · have ht := hr
      rw [analyticsRoute_table hi] at ht
      obtain ⟨other, ho⟩ := List.exists_mem_of_ne_nil _ (methods_ne_nil ht)
      exact ⟨other, (allowed_table_iff other hi).mpr ⟨route, hr, ho⟩⟩

/-- Where route and allowlist permit the same methods, the answers are the prescribed ones. -/
theorem forwardsExactly_of_allowed_iff {path : List (List Char)} {method : AnalyticsProxyMethod}
    (h : Allowed method path ↔ ∃ route, analyticsRoute path = some route ∧ method ∈ route.methods)
    (backendApiBaseUrl : List Char) {request : Request}
    (hr : method = .post → exceedsLimit request = false) :
    ForwardsExactly backendApiBaseUrl path method request := by
  rcases handle_cases backendApiBaseUrl path method hr with
    ⟨hn, ha⟩ | ⟨route, hroute, ⟨hm, init, ha⟩ | ⟨hm, ha⟩⟩
  · constructor <;> rw [ha] <;> simp [h, exists_allowed_iff_route, hn]
  · constructor <;> rw [ha] <;> simp [h, exists_allowed_iff_route, hroute, hm]
  · constructor <;> rw [ha] <;> simp [h, exists_allowed_iff_route, hroute, hm]

/-- The proxy forwards exactly its allowlist for every method and segment list but the
preview of a view table, which the item pattern answers with a refused method. -/
theorem forwardsExactly_iff (backendApiBaseUrl : List Char) (path : List (List Char))
    (method : AnalyticsProxyMethod) :
    (∀ request, (method = .post → exceedsLimit request = false) →
      ForwardsExactly backendApiBaseUrl path method request) ↔
        ¬(method = .post ∧ path = previewPath) := by
  constructor
  · rintro h ⟨rfl, rfl⟩
    have hf := (h {} fun _ => by decide +kernel).forwarded
    have ha : Allowed .post previewPath :=
      (allowed_item_iff .post "preview".toList).mpr (Or.inr ⟨rfl, rfl⟩)
    exact hf.mpr ha
  · intro h request hr
    exact forwardsExactly_of_allowed_iff (allowed_iff_route h) backendApiBaseUrl hr

/-- A table entry is refused: the preview request of the view table page gets status 405. -/
theorem preview_not_forwarded :
    ¬∀ (backendApiBaseUrl : List Char) (path : List (List Char)) (method : AnalyticsProxyMethod)
      (request : Request), (method = .post → exceedsLimit request = false) →
        ForwardsExactly backendApiBaseUrl path method request := by
  intro h
  have hf := (h [] previewPath .post {} fun _ => by decide +kernel).forwarded
  have ha : Allowed .post previewPath :=
    (allowed_item_iff .post "preview".toList).mpr (Or.inr ⟨rfl, rfl⟩)
  exact hf.mpr ha

end LiveData.Proxy

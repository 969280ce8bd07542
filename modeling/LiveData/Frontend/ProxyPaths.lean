import LiveData.Core.UrlPath
import LiveData.Frontend.ProxyRoutes

/-!
# The backend paths the proxy reaches

The item pattern puts a decoded name into the backend path before that path is split and
escaped, so a slash inside the name becomes a separator and a dot segment behind it is
resolved by the fetch. Where a request leads is what the parts of the name resolve to.
-/

namespace LiveData.Proxy

open Uri

/-- A forwarded request asks for a route of the table, or for one segment below the view
tables that decodes to the name given. -/
def StaysInside (origin : Origin) (path : List (List Char)) (method : AnalyticsProxyMethod)
    (request : Request) : Prop :=
  ∀ url init, handle origin.text path method request = .forwarded url init →
    (∃ routeName route, (routeName, route) ∈ analyticsProxyRoutes ∧
      fetchPath url = "/analytics/".toList ++ routeName) ∨
    ∃ name segment, path = ["view-tables".toList, name] ∧
      fetchPath url = "/analytics/view-tables/".toList ++ segment ∧ '/' ∉ segment ∧
      percentDecode segment = utf8Bytes name

/-- The parts of a backend path below the root of the backend. -/
def backendNames (backendPath : List Char) : List (List Char) :=
  "analytics".toList :: backendPath.splitOn '/'

/-- The name has more than one part or is a dot segment, and its parts resolve to no route
of the table. -/
def Escapes (name : List Char) : Prop :=
  ('/' ∈ name ∨ name = ".".toList ∨ name = "..".toList) ∧
    ∀ p ∈ analyticsProxyRoutes,
      resolveDots (backendNames ("view-tables/".toList ++ name)) ≠ backendNames p.1

theorem joinSlash_cons {segments : List (List Char)} (s : List Char) (h : segments ≠ []) :
    joinSlash (s :: segments) = s ++ '/' :: joinSlash segments := by
  simp [joinSlash, List.intercalate_cons_of_ne_nil h]

theorem not_mem_of_mem_splitOn {c : Char} {s part : List Char} (h : part ∈ s.splitOn c) :
    c ∉ part := by
  induction s generalizing part with
  | nil =>
    rw [List.mem_singleton.mp h]
    exact List.not_mem_nil
  | cons d s ih =>
    rw [List.splitOn_cons_eq_if_modifyHead] at h
    split at h
    · rcases List.mem_cons.mp h with rfl | h
      · exact List.not_mem_nil
      · exact ih h
    · next hne =>
      obtain ⟨first, rest, hs⟩ := List.exists_cons_of_ne_nil (List.splitOn_ne_nil c s)
      rw [hs, List.modifyHead_cons] at h
      rcases List.mem_cons.mp h with rfl | h
      · have hf : c ∉ first := ih (by simp [hs])
        have hd : c ≠ d := fun he => hne (by simp [he])
        simp [hf, hd]
      · exact ih (by simp [hs, h])

/-- The part of a forwarded answer that depends on the route found. -/
theorem url_of_forwarded {backendApiBaseUrl : List Char} {path : List (List Char)}
    {method : AnalyticsProxyMethod} {request : Request} {url : List Char} {init : RequestInit}
    (h : handle backendApiBaseUrl path method request = .forwarded url init) :
    ∃ route, analyticsRoute path = some route ∧ method ∈ route.methods ∧
      url = analyticsUrl backendApiBaseUrl route.backendPath := by
  cases ha : analyticsRoute path with
  | none =>
    cases method <;> simp [handle, handleGet, handlePost, handleDelete, routed, ha] at h
  | some route =>
    by_cases hm : method ∈ route.methods
    · refine ⟨route, rfl, hm, ?_⟩
      cases method with
      | get =>
        simp only [handle, handleGet, routed, ha, hm, ite_true, Answer.forwarded.injEq] at h
        exact h.1.symm
      | delete =>
        simp only [handle, handleDelete, routed, ha, hm, ite_true, Answer.forwarded.injEq] at h
        exact h.1.symm
      | post =>
        simp only [handle, handlePost, routed, ha, hm, ite_true] at h
        split at h
        · cases h
        · rw [Answer.forwarded.injEq] at h
          exact h.1.symm
    · cases method <;> simp [handle, handleGet, handlePost, handleDelete, routed, ha, hm] at h

/-- The fetch of a backend URL asks for what the parts of the backend path resolve to. -/
theorem fetchPath_analyticsUrl (origin : Origin) (backendPath : List Char) :
    fetchPath (analyticsUrl origin.text backendPath) =
      '/' :: joinSlash ((resolveDots (backendNames backendPath)).map encodeURIComponent) := by
  have hp : (backendPath.splitOn '/').map encodeURIComponent ≠ [] := by simp
  have hj : '/' :: joinSlash ((backendNames backendPath).map encodeURIComponent) =
      "/analytics/".toList ++ joinSlash ((backendPath.splitOn '/').map encodeURIComponent) := by
    rw [backendNames, List.map_cons, joinSlash_cons _ hp]
    rfl
  rw [← fetchPath_origin origin (by simp [backendNames]), hj, analyticsUrl, List.append_assoc]

/-- A route of the table has no dot segment and needs no escape. -/
theorem backendNames_table {p : List Char × AnalyticsProxyRoute} (h : p ∈ analyticsProxyRoutes) :
    resolveDots (backendNames p.2.backendPath) = backendNames p.1 ∧
      '/' :: joinSlash ((backendNames p.1).map encodeURIComponent) =
        "/analytics/".toList ++ p.1 := by
  have hall : ∀ q ∈ analyticsProxyRoutes,
      resolveDots (backendNames q.2.backendPath) = backendNames q.1 ∧
        '/' :: joinSlash ((backendNames q.1).map encodeURIComponent) =
          "/analytics/".toList ++ q.1 := by decide +kernel
  exact hall p h

/-- The item pattern splits the name it is given. -/
theorem backendNames_item (name : List Char) :
    backendNames ("view-tables/".toList ++ name) =
      "analytics".toList :: "view-tables".toList :: name.splitOn '/' := by
  have hs : '/' ∉ "view-tables".toList := by decide
  exact congrArg (List.cons "analytics".toList)
    (List.splitOn_append_cons_self_of_not_mem hs name)

/-- A request for a route of the table stays inside. -/
theorem staysInside_table (origin : Origin) {path : List (List Char)}
    (h : ¬∃ name, path = ["view-tables".toList, name]) (method : AnalyticsProxyMethod)
    (request : Request) : StaysInside origin path method request := by
  intro url init hf
  obtain ⟨route, hr, _, rfl⟩ := url_of_forwarded hf
  rw [analyticsRoute_table h] at hr
  have hm := mem_analyticsProxyRoutes.mpr hr
  obtain ⟨hnames, hpath⟩ := backendNames_table hm
  refine Or.inl ⟨_, route, hm, ?_⟩
  rw [fetchPath_analyticsUrl, hnames, hpath]

/-- A name of one part that is no dot segment stays the last segment of its path. -/
theorem fetchPath_plain_name (origin : Origin) {name : List Char} (hs : '/' ∉ name)
    (hd : name ≠ ".".toList) (hdd : name ≠ "..".toList) :
    fetchPath (analyticsUrl origin.text ("view-tables/".toList ++ name)) =
      "/analytics/view-tables/".toList ++ encodeURIComponent name := by
  have hr : resolveDots ["analytics".toList, "view-tables".toList, name] =
      ["analytics".toList, "view-tables".toList, name] := by
    apply removeDots_of_forall
    intro s hm
    simp only [List.mem_cons, List.not_mem_nil, or_false] at hm
    rcases hm with rfl | rfl | rfl
    · decide
    · decide
    · exact ⟨decide_eq_false hd, decide_eq_false hdd⟩
  rw [fetchPath_analyticsUrl, backendNames_item, List.splitOn_eq_singleton hs, hr]
  simp only [List.map_cons, List.map_nil]
  rw [joinSlash_cons _ (by simp), joinSlash_pair]
  rfl

/-- The deletion of a name that does not escape stays inside. -/
theorem staysInside_item (origin : Origin) {name : List Char} (h : ¬Escapes name)
    (method : AnalyticsProxyMethod) (request : Request) :
    StaysInside origin ["view-tables".toList, name] method request := by
  intro url init hf
  obtain ⟨route, hr, _, rfl⟩ := url_of_forwarded hf
  rw [analyticsRoute_item, Option.some.injEq] at hr
  subst hr
  by_cases hname : '/' ∈ name ∨ name = ".".toList ∨ name = "..".toList
  · have ht : ∃ p ∈ analyticsProxyRoutes,
        resolveDots (backendNames ("view-tables/".toList ++ name)) = backendNames p.1 := by
      by_contra hn
      exact h ⟨hname, fun p hp he => hn ⟨p, hp, he⟩⟩
    obtain ⟨p, hp, he⟩ := ht
    refine Or.inl ⟨p.1, p.2, hp, ?_⟩
    rw [fetchPath_analyticsUrl, he, (backendNames_table hp).2]
  · simp only [not_or] at hname
    obtain ⟨hs, hd, hdd⟩ := hname
    refine Or.inr ⟨name, encodeURIComponent name, rfl, fetchPath_plain_name origin hs hd hdd,
      ?_, ?_⟩
    · exact not_mem_encodeURIComponent (by decide) (by decide) name
    · exact percentDecode_encodeURIComponent name

/-- A segment that decodes to the name is what one of its parts resolves to, so the name has
one part and is no dot segment. -/
theorem plain_of_fetchPath (origin : Origin) {name segment : List Char} (hs : '/' ∉ segment)
    (hd : percentDecode segment = utf8Bytes name)
    (hf : fetchPath (analyticsUrl origin.text ("view-tables/".toList ++ name)) =
      "/analytics/view-tables/".toList ++ segment) :
    '/' ∉ name ∧ name ≠ ".".toList ∧ name ≠ "..".toList := by
  have hne : resolveDots (backendNames ("view-tables/".toList ++ name)) ≠ [] :=
    removeDots_ne_nil _ _ _ (by simp [backendNames])
  have hsplit : (resolveDots (backendNames ("view-tables/".toList ++ name))).map
      encodeURIComponent = ["analytics".toList, "view-tables".toList, segment] := by
    have ha : '/' ∉ "analytics".toList := by decide
    have hv : '/' ∉ "view-tables".toList := by decide
    rw [fetchPath_analyticsUrl] at hf
    have ht : joinSlash ((resolveDots (backendNames ("view-tables/".toList ++ name))).map
        encodeURIComponent) =
          "analytics".toList ++ '/' :: ("view-tables".toList ++ '/' :: segment) :=
      List.cons.inj hf |>.2
    rw [← splitOn_joinSlash hne, ht, List.splitOn_append_cons_self_of_not_mem ha,
      List.splitOn_append_cons_self_of_not_mem hv, List.splitOn_eq_singleton hs]
  have hlast : segment ∈ (resolveDots (backendNames ("view-tables/".toList ++ name))).map
      encodeURIComponent := by
    rw [hsplit]
    simp
  obtain ⟨part, hpart, rfl⟩ := List.mem_map.mp hlast
  rw [percentDecode_encodeURIComponent] at hd
  have hname : part = name := utf8Bytes_injective hd
  subst hname
  rcases mem_removeDots hpart with hp | rfl | ⟨hp, hsingle, hdouble⟩
  · exact absurd hp List.not_mem_nil
  · decide
  · refine ⟨?_, of_decide_eq_false hsingle, of_decide_eq_false hdouble⟩
    rw [backendNames_item] at hp
    simp only [List.mem_cons] at hp
    rcases hp with rfl | rfl | hp
    · decide
    · decide
    · exact not_mem_of_mem_splitOn hp

/-- The deletion of a name that escapes is forwarded to a path outside. -/
theorem not_staysInside_of_escapes (origin : Origin) {name : List Char} (h : Escapes name)
    (request : Request) :
    ¬StaysInside origin ["view-tables".toList, name] .delete request := by
  intro hin
  obtain ⟨hname, htable⟩ := h
  rcases hin _ _ rfl with ⟨routeName, route, hm, hf⟩ | ⟨other, segment, hp, hf, hs, hd⟩
  · have hj := (backendNames_table hm).2
    rw [fetchPath_analyticsUrl, ← hj] at hf
    apply htable _ hm
    apply joinSlash_map_injective ?_ ?_ (List.cons.inj hf).2
    · exact removeDots_ne_nil _ _ _ (by simp [backendNames])
    · simp [backendNames]
  · have ho : other = name := by simpa using hp.symm
    subst ho
    obtain ⟨hslash, hdot, hdots⟩ := plain_of_fetchPath origin hs hd hf
    rcases hname with hn | hn | hn
    · exact hslash hn
    · exact hdot hn
    · exact hdots hn

/-- Every request stays inside the analytics API but the deletion of a name whose parts lead
out of it. -/
theorem staysInside_iff (origin : Origin) (path : List (List Char))
    (method : AnalyticsProxyMethod) (request : Request) :
    StaysInside origin path method request ↔
      ¬(method = .delete ∧ ∃ name, path = ["view-tables".toList, name] ∧ Escapes name) := by
  constructor
  · rintro h ⟨rfl, name, rfl, he⟩
    exact not_staysInside_of_escapes origin he request h
  · intro h
    by_cases hi : ∃ name, path = ["view-tables".toList, name]
    · obtain ⟨name, rfl⟩ := hi
      by_cases he : Escapes name
      · intro url init hf
        obtain ⟨route, hr, hm, _⟩ := url_of_forwarded hf
        rw [analyticsRoute_item, Option.some.injEq] at hr
        subst hr
        exact absurd ⟨List.mem_singleton.mp hm, name, rfl, he⟩ h
      · exact staysInside_item origin he method request
    · exact staysInside_table origin hi method request

/-- The backend address used when none is configured. -/
def localBackend : Origin where
  scheme := "http".toList
  authority := "localhost:8000".toList
  scheme_special := Or.inl rfl
  authority_ne_nil := by decide
  authority_plain := by
    have hall : ("localhost:8000".toList.all fun c =>
        !isSlash c && !endsPath c && !isControlOrSpace c) = true := by decide
    intro c hc
    simpa [and_assoc] using List.all_eq_true.mp hall c hc

/-- One segment with encoded slashes and dots reaches the health check of the backend. -/
theorem item_name_leaves_analytics :
    (∃ url init, handle localBackend.text ["view-tables".toList, "../../health/live".toList]
        .delete {} = .forwarded url init ∧ fetchPath url = "/health/live".toList) ∧
      ¬∀ (origin : Origin) (path : List (List Char)) (method : AnalyticsProxyMethod)
        (request : Request), StaysInside origin path method request := by
  refine ⟨⟨_, _, rfl, by decide +kernel⟩, fun h => ?_⟩
  have he : Escapes "../../health/live".toList := ⟨Or.inl (by decide), by decide +kernel⟩
  exact not_staysInside_of_escapes localBackend he {} (h _ _ _ _)

end LiveData.Proxy

import LiveData.Core.Uri
import Mathlib.Data.Rat.Defs
import Mathlib.Algebra.GroupWithZero.Nat
import Mathlib.Algebra.Order.Ring.Rat

/-!
# The analytics proxy of the frontend

The catch-all route handler as its source writes it: the item pattern for saved view
tables is tried before the table of routes, the method is checked against the route
found, and only then is the backend fetched.
-/

namespace LiveData.Proxy

open Uri

/-- Methods the proxy exports handlers for. -/
inductive AnalyticsProxyMethod where
  | delete
  | get
  | post
  deriving DecidableEq, Repr

/-- A route to the backend and the methods it may be used with. -/
structure AnalyticsProxyRoute where
  /-- Path below the analytics prefix of the backend. -/
  backendPath : List Char
  /-- Allowed methods, in the order of the `allow` header. -/
  methods : List AnalyticsProxyMethod
  deriving DecidableEq, Repr

/-- The keys and values of `ANALYTICS_PROXY_ROUTES`. -/
def analyticsProxyRoutes : List (List Char × AnalyticsProxyRoute) :=
  [("datasets".toList, ⟨"datasets".toList, [.get]⟩),
   ("explore-query".toList, ⟨"explore-query".toList, [.post]⟩),
   ("presets".toList, ⟨"presets".toList, [.get]⟩),
   ("query".toList, ⟨"query".toList, [.post]⟩),
   ("view-tables".toList, ⟨"view-tables".toList, [.get, .post]⟩),
   ("view-tables/preview".toList, ⟨"view-tables/preview".toList, [.post]⟩)]

/-- Largest body the proxy forwards, in bytes. -/
def maxAnalyticsProxyBodyBytes : Nat := 16384

/-- What the handlers read of a request. A length header is its numeric value, absent
inside when that value is not finite. -/
structure Request where
  contentLength : Option (Option ℚ) := none
  contentType : Option (List Char) := none
  body : List Char := []

/-- What is handed to `fetch` beside the URL. -/
structure RequestInit where
  method : AnalyticsProxyMethod
  contentType : Option (List Char) := none
  body : Option (List Char) := none
  deriving DecidableEq, Repr

/-- The answer of a handler before the backend speaks. -/
inductive Answer where
  /-- The backend is fetched. -/
  | forwarded (url : List Char) (init : RequestInit)
  /-- Status 404. -/
  | unknownRoute
  /-- Status 405, with the `allow` header. -/
  | methodNotAllowed (allow : List AnalyticsProxyMethod)
  /-- Status 413. -/
  | payloadTooLarge
  deriving DecidableEq, Repr

/-- `Object.hasOwn` and the lookup that follows it. -/
def routeNamed (routeName : List Char) : Option AnalyticsProxyRoute :=
  analyticsProxyRoutes.lookup routeName

/-- The pattern for one saved view table, which ignores its name. -/
def analyticsViewTableItemRoute (path : List (List Char)) : Option AnalyticsProxyRoute :=
  match path with
  | [first, name] =>
    if first = "view-tables".toList then
      some ⟨"view-tables/".toList ++ name, [.delete]⟩
    else none
  | _ => none

/-- The route of a segment list: the item pattern first, then the table. -/
def analyticsRoute (path : List (List Char)) : Option AnalyticsProxyRoute :=
  if path = [] then none
  else
    match analyticsViewTableItemRoute path with
    | some route => some route
    | none => routeNamed (joinSlash path)

/-- The backend URL, each slash-separated part escaped again. -/
def analyticsUrl (backendApiBaseUrl backendPath : List Char) : List Char :=
  backendApiBaseUrl ++ "/analytics/".toList ++
    joinSlash ((backendPath.splitOn '/').map encodeURIComponent)

/-- A finite declared length beyond the limit. -/
def contentLengthExceedsLimit (request : Request) : Bool :=
  match request.contentLength with
  | some (some n) => decide ((maxAnalyticsProxyBodyBytes : ℚ) < n)
  | _ => false

/-- Bytes of the UTF-8 encoding. -/
def encodedLength (body : List Char) : Nat := (body.map Char.utf8Size).sum

/-- Either of the two size checks of the POST handler fires. -/
def exceedsLimit (request : Request) : Bool :=
  contentLengthExceedsLimit request ||
    decide (maxAnalyticsProxyBodyBytes < encodedLength request.body)

/-- The part of the three handlers they share: route lookup and method check. -/
def routed (path : List (List Char)) (method : AnalyticsProxyMethod)
    (next : AnalyticsProxyRoute → Answer) : Answer :=
  match analyticsRoute path with
  | none => .unknownRoute
  | some route => if method ∈ route.methods then next route else .methodNotAllowed route.methods

section Handlers

variable (backendApiBaseUrl : List Char) (path : List (List Char))

/-- The exported handler `GET`. -/
def handleGet (_request : Request) : Answer :=
  routed path .get fun route =>
    .forwarded (analyticsUrl backendApiBaseUrl route.backendPath) { method := .get }

/-- The exported handler `POST`, with the size limit between check and fetch. -/
def handlePost (request : Request) : Answer :=
  routed path .post fun route =>
    if exceedsLimit request then .payloadTooLarge
    else
      .forwarded (analyticsUrl backendApiBaseUrl route.backendPath)
        { method := .post
          contentType := some (request.contentType.getD "application/json".toList)
          body := some request.body }

/-- The exported handler `DELETE`. -/
def handleDelete (_request : Request) : Answer :=
  routed path .delete fun route =>
    .forwarded (analyticsUrl backendApiBaseUrl route.backendPath) { method := .delete }

/-- The handler the framework calls for a method. -/
def handle (method : AnalyticsProxyMethod) (request : Request) : Answer :=
  match method with
  | .get => handleGet backendApiBaseUrl path request
  | .post => handlePost backendApiBaseUrl path request
  | .delete => handleDelete backendApiBaseUrl path request

end Handlers

/-- The backend is contacted. -/
@[simp] def Answer.IsForwarded : Answer → Prop
  | .forwarded _ _ => True
  | _ => False

/-- Status 404. -/
@[simp] def Answer.IsUnknownRoute : Answer → Prop
  | .unknownRoute => True
  | _ => False

/-- Status 405. -/
@[simp] def Answer.IsMethodNotAllowed : Answer → Prop
  | .methodNotAllowed _ => True
  | _ => False

/-- A handler forwards, rejects the method or rejects the route by the one route found,
whenever the body of a `POST` passes the size checks. -/
theorem handle_cases (backendApiBaseUrl : List Char) (path : List (List Char))
    (method : AnalyticsProxyMethod) {request : Request}
    (hr : method = .post → exceedsLimit request = false) :
    (analyticsRoute path = none ∧ handle backendApiBaseUrl path method request = .unknownRoute) ∨
      ∃ route, analyticsRoute path = some route ∧
        ((method ∈ route.methods ∧ ∃ init, handle backendApiBaseUrl path method request =
            .forwarded (analyticsUrl backendApiBaseUrl route.backendPath) init) ∨
          (method ∉ route.methods ∧ handle backendApiBaseUrl path method request =
            .methodNotAllowed route.methods)) := by
  cases ha : analyticsRoute path with
  | none =>
    left
    cases method <;> simp [handle, handleGet, handlePost, handleDelete, routed, ha]
  | some route =>
    right
    refine ⟨route, rfl, ?_⟩
    by_cases hm : method ∈ route.methods
    · left
      cases method with
      | get => simp [handle, handleGet, routed, ha, hm]
      | post => simp [handle, handlePost, routed, ha, hm, hr rfl]
      | delete => simp [handle, handleDelete, routed, ha, hm]
    · right
      cases method <;>
        simp [handle, handleGet, handlePost, handleDelete, routed, ha, hm]

end LiveData.Proxy

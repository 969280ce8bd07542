import LiveData.Core.Numeral
import LiveData.Guardrails.Justification
import LiveData.Guardrails.SyntaxTree

/-!
# The guard against lazy imports

`LazyImportVisitor` keeps a counter of the enclosing definitions and one of the enclosing
bodies under `TYPE_CHECKING`. What it reports depends on the path of a node alone: a visit of
a tree equals a loop over those of its imports and calls that the counters and the paths let
pass, and it leaves the counters alone.
-/

namespace LiveData.Guardrails

/-! ## The visitor -/

/-- `LAZY_IMPORT_JUSTIFICATION_MARKERS`. -/
def lazyImportJustificationMarkers : List Str :=
  [str "lazy import justified:", str "local import justified:"]

/-- `LazyImportVisitor`. -/
structure LazyImportVisitor where
  path : Str
  lines : List Str
  scopeDepth : Int
  typeCheckingDepth : Int
  failures : List Str
  deriving DecidableEq

/-- `LazyImportVisitor.__init__`. -/
def LazyImportVisitor.init (path : Str) (lines : List Str) : LazyImportVisitor :=
  ⟨path, lines, 0, 0, []⟩

/-- A method of the visitor. -/
abbrev Visit := LazyImportVisitor → Except BuiltinError LazyImportVisitor

/-- The text of a failure. -/
def failureMessage (path : Str) (lineno : Nat) (label : Str) : Str :=
  path ++ str ":" ++ natText lineno ++ str ": " ++ label ++ str " without justification"

/-- `_add_failure_if_unjustified`. -/
def addFailureIfUnjustified (lineno : Nat) (label : Str) : Visit := fun v => do
  let justified ← hasJustification lazyImportJustificationMarkers v.lines lineno
  if justified then .ok v
  else .ok { v with failures := v.failures ++ [failureMessage v.path lineno label] }

/-- `_check_local_import`. -/
def checkLocalImport (lineno : Nat) (label : Str) : Visit := fun v =>
  if v.typeCheckingDepth > 0 then .ok v
  else if v.scopeDepth = 0 then .ok v
  else addFailureIfUnjustified lineno label v

/-- `_is_type_checking_guard`. -/
def isTypeCheckingGuard : Expr → Bool
  | .name id => id.val = str "TYPE_CHECKING"
  | .attribute _ attr => attr.val = str "TYPE_CHECKING"
  | _ => false

/-- `_call_name`. -/
def callName : Expr → Option Str
  | .name id => some id.val
  | .attribute (.name id) attr => some (id.val ++ str "." ++ attr.val)
  | _ => none

/-- `_DYNAMIC_IMPORT_CALLS`. -/
def dynamicImportCalls : List Str := [str "__import__"]

/-- The test of `visit_Call`. -/
def isDynamicImportName (callName : Option Str) : Bool :=
  callName.any fun name =>
    decide (name ∈ dynamicImportCalls ∨ name = str "importlib.import_module")

/-- The label of `visit_Call`. -/
def dynamicImportLabel (callName : Option Str) : Str :=
  str "dynamic import call `" ++ callName.getD (str "None") ++ str "`"

/-- `visit_Call` before it descends. -/
def checkCall (lineno : Nat) (func : Expr) : Visit := fun v =>
  if isDynamicImportName (callName func) then
    addFailureIfUnjustified lineno (dynamicImportLabel (callName func)) v
  else .ok v

/-- `visit_Call`. -/
def visitCall (lineno : Nat) (func : Expr) (genericVisit : Visit) : Visit := fun v => do
  let v ← checkCall lineno func v
  genericVisit v

/-- `visit_Import`. -/
def visitImport (lineno : Nat) (genericVisit : Visit) : Visit := fun v => do
  let v ← checkLocalImport lineno (str "local import") v
  genericVisit v

/-- `visit_ImportFrom`. -/
def visitImportFrom (lineno : Nat) (genericVisit : Visit) : Visit := fun v => do
  let v ← checkLocalImport lineno (str "local import-from") v
  genericVisit v

/-- A visit with the counter of definitions raised. -/
def inScope (genericVisit : Visit) : Visit := fun v => do
  let v ← genericVisit { v with scopeDepth := v.scopeDepth + 1 }
  .ok { v with scopeDepth := v.scopeDepth - 1 }

/-- `visit_FunctionDef`. -/
def visitFunctionDef (genericVisit : Visit) : Visit := inScope genericVisit

/-- `visit_AsyncFunctionDef`. -/
def visitAsyncFunctionDef (genericVisit : Visit) : Visit := inScope genericVisit

/-- `visit_ClassDef`. -/
def visitClassDef (genericVisit : Visit) : Visit := inScope genericVisit

/-- `visit_If`; the test of a guard is not visited. -/
def visitIf (test : Expr) (visitTest visitBody visitOrelse : Visit) : Visit := fun v =>
  if isTypeCheckingGuard test then do
    let v ← visitBody { v with typeCheckingDepth := v.typeCheckingDepth + 1 }
    visitOrelse { v with typeCheckingDepth := v.typeCheckingDepth - 1 }
  else do
    let v ← visitTest v
    let v ← visitBody v
    visitOrelse v

mutual

/-- `visit` of an expression. -/
def visitExpr : Expr → Visit
  | .name _ => .ok
  | .attribute value _ => visitExpr value
  | .call lineno func args =>
    visitCall lineno func fun v => do
      let v ← visitExpr func v
      visitExprs args v
  | .other children => visitExprs children

/-- `visit` of expressions one after the other. -/
def visitExprs : List Expr → Visit
  | [] => .ok
  | e :: es => fun v => do
    let v ← visitExpr e v
    visitExprs es v

end

mutual

/-- `visit` of a statement. -/
def visitNode : Node → Visit
  | .expr e => visitExpr e
  | .ifStmt test body orelse =>
    visitIf test (visitExpr test) (visitNodes body) (visitNodes orelse)
  | .functionDef children => visitFunctionDef (visitNodes children)
  | .asyncFunctionDef children => visitAsyncFunctionDef (visitNodes children)
  | .classDef children => visitClassDef (visitNodes children)
  | .importStmt lineno names => visitImport lineno (visitExprs names)
  | .importFrom lineno names => visitImportFrom lineno (visitExprs names)
  | .other children => visitNodes children

/-- `visit` of statements one after the other. -/
def visitNodes : List Node → Visit
  | [] => .ok
  | node :: nodes => fun v => do
    let v ← visitNode node v
    visitNodes nodes v

end

/-! ## Reports -/

/-- The label that an import or a call is reported with. -/
def Site.label (site : Site) : Str :=
  match site.kind with
  | .importStmt => str "local import"
  | .importFrom => str "local import-from"
  | .call func => dynamicImportLabel (callName func)

/-- The message for an import or a call. -/
def Site.message (path : Str) (site : Site) : Str := failureMessage path site.lineno site.label

/-- The messages for the sites that the lookup does not justify. -/
def failuresOf (path : Str) (lines : List Str) : List Site → Except BuiltinError (List Str)
  | [] => .ok []
  | site :: sites => do
    let justified ← hasJustification lazyImportJustificationMarkers lines site.lineno
    let remaining ← failuresOf path lines sites
    .ok (if justified then remaining else site.message path :: remaining)

/-- Failures behind those of a visitor. -/
def LazyImportVisitor.withFailures (v : LazyImportVisitor) (failures : List Str) :
    LazyImportVisitor :=
  { v with failures := v.failures ++ failures }

/-- A visitor that looks up sites one after the other. -/
def LazyImportVisitor.reports (v : LazyImportVisitor) (sites : List Site) :
    Except BuiltinError LazyImportVisitor :=
  (failuresOf v.path v.lines sites).map v.withFailures

theorem failuresOf_append (path : Str) (lines : List Str) (sites remaining : List Site) :
    failuresOf path lines (sites ++ remaining) =
      failuresOf path lines sites >>= fun first =>
        (failuresOf path lines remaining).map (first ++ ·) := by
  induction sites with
  | nil =>
    rw [List.nil_append, failuresOf, ok_bind]
    cases failuresOf path lines remaining <;> rfl
  | cons site sites ih =>
    rw [List.cons_append, failuresOf, failuresOf, ih]
    cases hasJustification lazyImportJustificationMarkers lines site.lineno with
    | error e => rfl
    | ok justified =>
      cases failuresOf path lines sites with
      | error e => rfl
      | ok first =>
        cases failuresOf path lines remaining with
        | error e => rfl
        | ok second => cases justified <;> rfl

@[simp] theorem reports_nil (v : LazyImportVisitor) : v.reports [] = .ok v := by
  simp [LazyImportVisitor.reports, failuresOf, Except.map, LazyImportVisitor.withFailures]

theorem reports_append (v : LazyImportVisitor) (sites remaining : List Site) :
    v.reports (sites ++ remaining) = v.reports sites >>= fun w => w.reports remaining := by
  simp only [LazyImportVisitor.reports, failuresOf_append]
  cases failuresOf v.path v.lines sites with
  | error e => rfl
  | ok first =>
    change Except.map _ (Except.map _ _) = Except.map _ (failuresOf v.path v.lines remaining)
    cases failuresOf v.path v.lines remaining with
    | error e => rfl
    | ok second => simp [Except.map, LazyImportVisitor.withFailures]

/-- A report leaves the counters alone. -/
theorem eq_withFailures_of_reports {v w : LazyImportVisitor} {sites : List Site}
    (h : v.reports sites = .ok w) : ∃ failures, w = v.withFailures failures := by
  rw [LazyImportVisitor.reports] at h
  cases hfailures : failuresOf v.path v.lines sites with
  | error e =>
    rw [hfailures] at h
    cases h
  | ok failures =>
    rw [hfailures] at h
    exact ⟨failures, (Except.ok.inj h).symm⟩

theorem addFailureIfUnjustified_eq (v : LazyImportVisitor) (site : Site) :
    addFailureIfUnjustified site.lineno site.label v = v.reports [site] := by
  rw [addFailureIfUnjustified, LazyImportVisitor.reports, failuresOf]
  cases hasJustification lazyImportJustificationMarkers v.lines site.lineno with
  | error e => rfl
  | ok justified =>
    cases justified with
    | false => rfl
    | true => simp [failuresOf, Except.map, LazyImportVisitor.withFailures]

/-! ## What a visit reaches -/

/-- The step into the test of a guard. -/
def Step.isGuardTest : Step → Bool
  | .ifTest test => isTypeCheckingGuard test
  | _ => false

/-- The step into the body of a guard. -/
def Step.isGuardBody : Step → Bool
  | .ifBody test => isTypeCheckingGuard test
  | _ => false

/-- The step into a definition. -/
def Step.isDefinition : Step → Bool
  | .definition => true
  | _ => false

/-- A visit that begins with the counters looks up the occurrence. -/
def Occurrence.reached (scopeDepth typeCheckingDepth : Int) (o : Occurrence) : Bool :=
  !o.path.any Step.isGuardTest &&
    match o.site.kind with
    | .call func => isDynamicImportName (callName func)
    | _ => decide (typeCheckingDepth + o.path.countP Step.isGuardBody ≤ 0 ∧
        scopeDepth + o.path.countP Step.isDefinition ≠ 0)

/-- The occurrences that a visit looks up. -/
def reachedSites (scopeDepth typeCheckingDepth : Int) (occurrences : List Occurrence) :
    List Site :=
  (occurrences.filter (Occurrence.reached scopeDepth typeCheckingDepth)).map Occurrence.site

section

variable {d t : Int} {occurrences remaining : List Occurrence} {step : Step}

theorem reachedSites_append : reachedSites d t (occurrences ++ remaining) =
    reachedSites d t occurrences ++ reachedSites d t remaining := by
  rw [reachedSites, List.filter_append, List.map_append]
  rfl

/-- A count goes on below a further step. -/
theorem add_countP_under (n : Int) (p : Step → Bool) (o : Occurrence) :
    n + (o.under step).path.countP p = n + (p step).toNat + o.path.countP p := by
  rw [Occurrence.under, List.countP_cons]
  cases p step with
  | true =>
    rw [if_pos rfl, Bool.toNat_true]
    omega
  | false =>
    rw [if_neg Bool.false_ne_true, Bool.toNat_false]
    omega

/-- A step closes the way or changes the counters for what is below it. -/
theorem reached_under (d t : Int) (step : Step) (o : Occurrence) : (o.under step).reached d t =
    (!step.isGuardTest && o.reached (d + step.isDefinition.toNat)
      (t + step.isGuardBody.toNat)) := by
  rw [Occurrence.reached, Occurrence.reached, add_countP_under, add_countP_under,
    ← Bool.and_assoc, ← Bool.not_or]
  rfl

theorem reachedSites_map_under (d t : Int) (step : Step) (occurrences : List Occurrence) :
    reachedSites d t (occurrences.map (Occurrence.under step)) =
      if step.isGuardTest then []
      else reachedSites (d + step.isDefinition.toNat) (t + step.isGuardBody.toNat) occurrences := by
  have hreached : Occurrence.reached d t ∘ Occurrence.under step = fun o =>
      !step.isGuardTest && o.reached (d + step.isDefinition.toNat) (t + step.isGuardBody.toNat) :=
    funext (reached_under d t step)
  have hsite : Occurrence.site ∘ Occurrence.under step = Occurrence.site := rfl
  rw [reachedSites, List.filter_map, hreached, List.map_map, hsite]
  cases step.isGuardTest with
  | true => simp
  | false => rfl

variable (test : Expr)

theorem reachedSites_definition :
    reachedSites d t (occurrences.map (Occurrence.under .definition)) =
      reachedSites (d + 1) t occurrences := by
  have hbody : t + (Step.isGuardBody .definition).toNat = t := add_zero t
  rw [reachedSites_map_under, hbody]
  rfl

theorem reachedSites_ifOrelse :
    reachedSites d t (occurrences.map (Occurrence.under (.ifOrelse test))) =
      reachedSites d t occurrences := by
  have hscope : d + (Step.isDefinition (.ifOrelse test)).toNat = d := add_zero d
  have hbody : t + (Step.isGuardBody (.ifOrelse test)).toNat = t := add_zero t
  rw [reachedSites_map_under, hscope, hbody]
  rfl

theorem reachedSites_ifBody :
    reachedSites d t (occurrences.map (Occurrence.under (.ifBody test))) =
      reachedSites d (t + (isTypeCheckingGuard test).toNat) occurrences := by
  have hscope : d + (Step.isDefinition (.ifBody test)).toNat = d := add_zero d
  rw [reachedSites_map_under, hscope]
  rfl

theorem reachedSites_ifTest :
    reachedSites d t (occurrences.map (Occurrence.under (.ifTest test))) =
      if isTypeCheckingGuard test then [] else reachedSites d t occurrences := by
  have hscope : d + (Step.isDefinition (.ifTest test)).toNat = d := add_zero d
  have hbody : t + (Step.isGuardBody (.ifTest test)).toNat = t := add_zero t
  rw [reachedSites_map_under, hscope, hbody]
  rfl

end

/-! ## Visits as loops -/

/-- The visit is the loop over the occurrences that it reaches. -/
def Reports (visit : Visit) (occurrences : List Occurrence) : Prop :=
  ∀ v : LazyImportVisitor,
    visit v = v.reports (reachedSites v.scopeDepth v.typeCheckingDepth occurrences)

namespace Reports

variable {visit next : Visit} {occurrences remaining : List Occurrence}

theorem nil : Reports .ok [] := fun v => (reports_nil v).symm

theorem seq (h : Reports visit occurrences) (hnext : Reports next remaining) :
    Reports (fun v => visit v >>= next) (occurrences ++ remaining) := by
  intro v
  change visit v >>= next = _
  rw [reachedSites_append, reports_append, h v]
  refine bind_congr_ok fun w hw => ?_
  obtain ⟨failures, rfl⟩ := eq_withFailures_of_reports hw
  exact hnext _

/-- A definition counts for what is in it. -/
theorem inScope (h : Reports visit occurrences) :
    Reports (inScope visit) (occurrences.map (Occurrence.under .definition)) := by
  intro v
  rw [reachedSites_definition, Guardrails.inScope, h]
  simp only [LazyImportVisitor.reports]
  cases failuresOf v.path v.lines (reachedSites (v.scopeDepth + 1) v.typeCheckingDepth
      occurrences) with
  | error e => rfl
  | ok failures =>
    change Except.ok _ = Except.ok _
    simp [LazyImportVisitor.withFailures]

/-- The body of a guard counts for what is in it, and its test is left out. -/
theorem visitIf {test : Expr} {visitTest visitBody visitOrelse : Visit}
    {inTest inBody inOrelse : List Occurrence} (htest : Reports visitTest inTest)
    (hbody : Reports visitBody inBody) (horelse : Reports visitOrelse inOrelse) :
    Reports (visitIf test visitTest visitBody visitOrelse)
      (inTest.map (Occurrence.under (.ifTest test)) ++
        (inBody.map (Occurrence.under (.ifBody test)) ++
          inOrelse.map (Occurrence.under (.ifOrelse test)))) := by
  intro v
  rw [Guardrails.visitIf, reachedSites_append, reachedSites_append, reachedSites_ifTest,
    reachedSites_ifBody, reachedSites_ifOrelse]
  cases isTypeCheckingGuard test with
  | true =>
    rw [if_pos rfl, if_pos rfl, List.nil_append, reports_append, hbody, Bool.toNat_true,
      Nat.cast_one]
    simp only [LazyImportVisitor.reports]
    cases failuresOf v.path v.lines (reachedSites v.scopeDepth (v.typeCheckingDepth + 1)
        inBody) with
    | error e => rfl
    | ok failures =>
      change visitOrelse _ = LazyImportVisitor.reports (v.withFailures failures) _
      rw [horelse]
      simp [LazyImportVisitor.withFailures]
  | false =>
    rw [if_neg Bool.false_ne_true, if_neg Bool.false_ne_true, Bool.toNat_false, Nat.cast_zero,
      add_zero, ← reachedSites_append, ← reachedSites_append]
    exact (htest.seq (hbody.seq horelse)) v

/-- An import is looked up when both counters let it pass. -/
theorem checkLocalImport (site : Site) (hkind : ∀ func, site.kind ≠ .call func) :
    Reports (checkLocalImport site.lineno site.label) [⟨[], site⟩] := by
  intro v
  have hreached : Occurrence.reached v.scopeDepth v.typeCheckingDepth ⟨[], site⟩ =
      decide (v.typeCheckingDepth ≤ 0 ∧ v.scopeDepth ≠ 0) := by
    obtain ⟨lineno, kind⟩ := site
    cases kind with
    | importStmt => simp [Occurrence.reached]
    | importFrom => simp [Occurrence.reached]
    | call func => exact absurd rfl (hkind func)
  rw [Guardrails.checkLocalImport, reachedSites, List.filter_singleton, hreached]
  split
  · next hchecking => simp [not_le.mpr hchecking]
  · next hchecking =>
    split
    · next hscope => simp [hscope]
    · next hscope =>
      rw [addFailureIfUnjustified_eq]
      simp [not_lt.mp hchecking, hscope]

/-- A call is looked up by the name of what it calls. -/
theorem visitCall {lineno : Nat} {func : Expr} (h : Reports visit occurrences) :
    Reports (visitCall lineno func visit) (⟨[], lineno, .call func⟩ :: occurrences) := by
  have hcheck : Reports (checkCall lineno func) [⟨[], lineno, .call func⟩] := by
    intro v
    have hreached : Occurrence.reached v.scopeDepth v.typeCheckingDepth
        ⟨[], lineno, .call func⟩ = isDynamicImportName (callName func) := rfl
    rw [checkCall, reachedSites, List.filter_singleton, hreached]
    cases isDynamicImportName (callName func) with
    | false => exact (reports_nil v).symm
    | true => exact addFailureIfUnjustified_eq v ⟨lineno, .call func⟩
  exact hcheck.seq h

theorem visitImport {lineno : Nat} (h : Reports visit occurrences) :
    Reports (visitImport lineno visit) (⟨[], lineno, .importStmt⟩ :: occurrences) :=
  (checkLocalImport ⟨lineno, .importStmt⟩ fun _ h => by cases h).seq h

theorem visitImportFrom {lineno : Nat} (h : Reports visit occurrences) :
    Reports (visitImportFrom lineno visit) (⟨[], lineno, .importFrom⟩ :: occurrences) :=
  (checkLocalImport ⟨lineno, .importFrom⟩ fun _ h => by cases h).seq h

end Reports

mutual

theorem reports_visitExpr : ∀ e : Expr, Reports (visitExpr e) (bare e.calls)
  | .name _ => Reports.nil
  | .attribute value _ => reports_visitExpr value
  | .call lineno func args => by
    rw [visitExpr, Expr.calls, bare, List.map_cons, List.map_append]
    exact ((reports_visitExpr func).seq (reports_visitExprs args)).visitCall
  | .other children => reports_visitExprs children

theorem reports_visitExprs : ∀ es : List Expr, Reports (visitExprs es) (bare (Expr.callsOfAll es))
  | [] => Reports.nil
  | e :: es => by
    rw [visitExprs, Expr.callsOfAll, bare, List.map_append]
    exact (reports_visitExpr e).seq (reports_visitExprs es)

end

mutual

/-- A visit of a tree is the loop over the imports and calls that it reaches. -/
theorem reports_visitNode : ∀ node : Node, Reports (visitNode node) node.occurrences
  | .expr e => reports_visitExpr e
  | .ifStmt test body orelse =>
    (reports_visitExpr test).visitIf (reports_visitNodes body) (reports_visitNodes orelse)
  | .functionDef children => (reports_visitNodes children).inScope
  | .asyncFunctionDef children => (reports_visitNodes children).inScope
  | .classDef children => (reports_visitNodes children).inScope
  | .importStmt _ names => (reports_visitExprs names).visitImport
  | .importFrom _ names => (reports_visitExprs names).visitImportFrom
  | .other children => reports_visitNodes children

theorem reports_visitNodes : ∀ nodes : List Node,
    Reports (visitNodes nodes) (Node.occurrencesOfAll nodes)
  | [] => Reports.nil
  | node :: nodes => (reports_visitNode node).seq (reports_visitNodes nodes)

end

end LiveData.Guardrails

import LiveData.Guardrails.LazyImportReports

/-!
# The guard against dynamic attributes

`DynamicAttributeVisitor` goes through a whole tree. It reports the calls of `getattr` and
`hasattr` by name, in their order, that the lines of `str.splitlines` do not justify. The gate
raises with the first twenty of them.
-/

namespace LiveData.Guardrails

/-! ## The visitor -/

/-- `DYNAMIC_ATTRIBUTE_JUSTIFICATION_MARKERS`. -/
def dynamicAttributeJustificationMarkers : List Str :=
  [str "getattr justified:", str "hasattr justified:", str "dynamic attribute justified:"]

/-- `FORBIDDEN_DYNAMIC_ATTRIBUTE_CALLS`. -/
def forbiddenDynamicAttributeCalls : List Str := [str "getattr", str "hasattr"]

/-- `DynamicAttributeVisitor`. -/
structure DynamicAttributeVisitor where
  path : Str
  lines : List Str
  failures : List Str
  deriving DecidableEq

namespace DynamicAttributeVisitor

/-- `DynamicAttributeVisitor.__init__`. -/
def init (path : Str) (lines : List Str) : DynamicAttributeVisitor := ⟨path, lines, []⟩

/-- A method of the visitor. -/
abbrev Method := DynamicAttributeVisitor → Except BuiltinError DynamicAttributeVisitor

/-- `visit_Call`. -/
def visitCall (lineno : Nat) (func : Expr) (genericVisit : Method) : Method := fun v =>
  match func with
  | .name id =>
    if id.val ∉ forbiddenDynamicAttributeCalls then genericVisit v
    else do
      let justified ← hasJustification dynamicAttributeJustificationMarkers v.lines lineno
      if justified then genericVisit v
      else
        genericVisit { v with
          failures := v.failures ++ [failureMessage v.path lineno (id.val ++ str " usage")] }
  | _ => genericVisit v

mutual

/-- `visit` of an expression. -/
def visitExpr : Expr → Method
  | .name _ => .ok
  | .attribute value _ => visitExpr value
  | .call lineno func args =>
    visitCall lineno func fun v => do
      let v ← visitExpr func v
      visitExprs args v
  | .other children => visitExprs children

/-- `visit` of expressions one after the other. -/
def visitExprs : List Expr → Method
  | [] => .ok
  | e :: es => fun v => do
    let v ← visitExpr e v
    visitExprs es v

end

mutual

/-- `visit` of a statement, which is generic. -/
def visitNode : Node → Method
  | .expr e => visitExpr e
  | .ifStmt test body orelse => fun v => do
    let v ← visitExpr test v
    let v ← visitNodes body v
    visitNodes orelse v
  | .functionDef children => visitNodes children
  | .asyncFunctionDef children => visitNodes children
  | .classDef children => visitNodes children
  | .importStmt _ names => visitExprs names
  | .importFrom _ names => visitExprs names
  | .other children => visitNodes children

/-- `visit` of statements one after the other. -/
def visitNodes : List Node → Method
  | [] => .ok
  | node :: nodes => fun v => do
    let v ← visitNode node v
    visitNodes nodes v

end

/-! ## A visit as a loop -/

/-- What a visit does at an import or a call. -/
def look (v : DynamicAttributeVisitor) (site : Site) :
    Except BuiltinError DynamicAttributeVisitor :=
  match site.kind with
  | .call func => visitCall site.lineno func .ok v
  | _ => .ok v

theorem visitCall_eq (lineno : Nat) (func : Expr) (genericVisit : Method)
    (v : DynamicAttributeVisitor) :
    visitCall lineno func genericVisit v = v.look ⟨lineno, .call func⟩ >>= genericVisit := by
  cases func with
  | name id =>
    by_cases hid : id.val ∈ forbiddenDynamicAttributeCalls
    · simp only [look, visitCall, hid, not_true_eq_false, if_false]
      cases hasJustification dynamicAttributeJustificationMarkers v.lines lineno with
      | error e => rfl
      | ok justified => cases justified <;> rfl
    · simp only [look, visitCall, hid, not_false_eq_true, if_true]
      rfl
  | _ => rfl

mutual

theorem visitExpr_eq : ∀ (e : Expr) (v : DynamicAttributeVisitor),
    visitExpr e v = e.calls.foldlM look v
  | .name _, _ => rfl
  | .attribute value _, v => visitExpr_eq value v
  | .call lineno func args, v => by
    have hrest : (fun v => visitExpr func v >>= visitExprs args) =
        (func.calls ++ Expr.callsOfAll args).foldlM look := by
      funext w
      rw [List.foldlM_append, visitExpr_eq func w]
      exact bind_congr fun u => visitExprs_eq args u
    rw [visitExpr, visitCall_eq, Expr.calls, List.foldlM_cons]
    exact bind_congr fun w => congrFun hrest w
  | .other children, v => visitExprs_eq children v

theorem visitExprs_eq : ∀ (es : List Expr) (v : DynamicAttributeVisitor),
    visitExprs es v = (Expr.callsOfAll es).foldlM look v
  | [], _ => rfl
  | e :: es, v => by
    rw [Expr.callsOfAll, List.foldlM_append, ← visitExpr_eq e v]
    exact bind_congr fun w => visitExprs_eq es w

end

theorem foldlM_look_map_under (step : Step) (occurrences : List Occurrence)
    (v : DynamicAttributeVisitor) :
    ((occurrences.map (Occurrence.under step)).map Occurrence.site).foldlM look v =
      (occurrences.map Occurrence.site).foldlM look v := by
  rw [List.map_map]
  rfl

theorem map_site_bare (sites : List Site) : (bare sites).map Occurrence.site = sites := by
  rw [bare, List.map_map]
  exact List.map_id sites

mutual

/-- A visit looks at the imports and calls of a tree one after the other. -/
theorem visitNode_eq : ∀ (node : Node) (v : DynamicAttributeVisitor),
    visitNode node v = (node.occurrences.map Occurrence.site).foldlM look v
  | .expr e, v => by
    rw [Node.occurrences, map_site_bare]
    exact visitExpr_eq e v
  | .ifStmt test body orelse, v => by
    rw [Node.occurrences, List.map_append, List.map_append, List.foldlM_append,
      foldlM_look_map_under, map_site_bare, ← visitExpr_eq test v]
    refine bind_congr fun w => ?_
    rw [List.foldlM_append, foldlM_look_map_under, ← visitNodes_eq body w]
    refine bind_congr fun u => ?_
    rw [foldlM_look_map_under]
    exact visitNodes_eq orelse u
  | .functionDef children, v => by
    rw [Node.occurrences, foldlM_look_map_under]
    exact visitNodes_eq children v
  | .asyncFunctionDef children, v => by
    rw [Node.occurrences, foldlM_look_map_under]
    exact visitNodes_eq children v
  | .classDef children, v => by
    rw [Node.occurrences, foldlM_look_map_under]
    exact visitNodes_eq children v
  | .importStmt lineno names, v => by
    rw [Node.occurrences, List.map_cons, map_site_bare, List.foldlM_cons]
    exact visitExprs_eq names v
  | .importFrom lineno names, v => by
    rw [Node.occurrences, List.map_cons, map_site_bare, List.foldlM_cons]
    exact visitExprs_eq names v
  | .other children, v => visitNodes_eq children v

theorem visitNodes_eq : ∀ (nodes : List Node) (v : DynamicAttributeVisitor),
    visitNodes nodes v = ((Node.occurrencesOfAll nodes).map Occurrence.site).foldlM look v
  | [], _ => rfl
  | node :: nodes, v => by
    rw [Node.occurrencesOfAll, List.map_append, List.foldlM_append, ← visitNode_eq node v]
    exact bind_congr fun w => visitNodes_eq nodes w

end

end DynamicAttributeVisitor

/-! ## Reports -/

/-- The name that a call calls directly. -/
def Site.calledName (site : Site) : Option Str :=
  match site.kind with
  | .call (.name id) => some id.val
  | _ => none

/-- A call of `getattr` or `hasattr` by name. -/
def Site.IsDynamicAttribute (site : Site) : Prop :=
  ∃ name ∈ site.calledName, name = str "getattr" ∨ name = str "hasattr"

instance (site : Site) : Decidable site.IsDynamicAttribute :=
  inferInstanceAs (Decidable (∃ name ∈ site.calledName, _))

/-- The message for such a call. -/
def Site.dynamicMessage (path : Str) (site : Site) : Str :=
  failureMessage path site.lineno (site.calledName.getD [] ++ str " usage")

namespace DynamicAttributeVisitor

theorem dynamicAttributeJustificationMarkers_stripped :
    ∀ marker ∈ dynamicAttributeJustificationMarkers, marker ≠ [] ∧ Stripped marker := by
  decide

/-- Failures behind those of a visitor. -/
def withFailures (v : DynamicAttributeVisitor) (failures : List Str) : DynamicAttributeVisitor :=
  { v with failures := v.failures ++ failures }

theorem withFailures_nil (v : DynamicAttributeVisitor) : v.withFailures [] = v := by
  rw [withFailures, List.append_nil]

theorem withFailures_append (v : DynamicAttributeVisitor) (first second : List Str) :
    (v.withFailures first).withFailures second = v.withFailures (first ++ second) := by
  simp [withFailures]

/-- The messages for the sites that are not justified. -/
def messagesFor (v : DynamicAttributeVisitor) (sites : List Site) : List Str :=
  (sites.filter fun site => site.IsDynamicAttribute ∧
    ¬Justified dynamicAttributeJustificationMarkers v.lines site.lineno).map
      (Site.dynamicMessage v.path)

/-- A site whose line there is. -/
def Placed (v : DynamicAttributeVisitor) (site : Site) : Prop :=
  1 ≤ site.lineno ∧ site.lineno ≤ v.lines.length

/-- A visit reports a site that is not justified. -/
theorem look_eq (v : DynamicAttributeVisitor) {site : Site} (h : v.Placed site) :
    v.look site = .ok (v.withFailures (v.messagesFor [site])) := by
  have hnone : ¬site.IsDynamicAttribute →
      v.withFailures (v.messagesFor [site]) = v := by
    intro hother
    simp [messagesFor, hother, withFailures_nil]
  obtain ⟨lineno, kind⟩ := site
  cases kind with
  | importStmt | importFrom =>
    rw [hnone (by simp [Site.IsDynamicAttribute, Site.calledName])]
    rfl
  | call func =>
    cases func with
    | name id =>
      by_cases hid : id.val ∈ forbiddenDynamicAttributeCalls
      · have hdynamic : Site.IsDynamicAttribute ⟨lineno, .call (.name id)⟩ := by
          simpa [Site.IsDynamicAttribute, Site.calledName, forbiddenDynamicAttributeCalls] using hid
        simp only [look, visitCall, hid, not_true_eq_false, if_false,
          hasJustification_eq dynamicAttributeJustificationMarkers_stripped h.1 h.2, ok_bind]
        by_cases hjustified : Justified dynamicAttributeJustificationMarkers v.lines lineno
        · simp [messagesFor, hjustified, withFailures_nil]
        · simp [messagesFor, hjustified, hdynamic, withFailures, Site.dynamicMessage,
            Site.calledName]
      · have hother : ¬Site.IsDynamicAttribute ⟨lineno, .call (.name id)⟩ := by
          simpa [Site.IsDynamicAttribute, Site.calledName, forbiddenDynamicAttributeCalls] using hid
        rw [hnone hother]
        simp only [look, visitCall, hid, not_false_eq_true, if_true]
    | _ =>
      rw [hnone (by simp [Site.IsDynamicAttribute, Site.calledName])]
      rfl

/-- The failures behind those of a visitor that looks at some sites. -/
theorem foldlM_look_eq (v : DynamicAttributeVisitor) {sites : List Site}
    (h : ∀ site ∈ sites, v.Placed site) :
    sites.foldlM look v = .ok (v.withFailures (v.messagesFor sites)) := by
  induction sites generalizing v with
  | nil => exact congrArg Except.ok (withFailures_nil v).symm
  | cons site sites ih =>
    obtain ⟨hsite, hsites⟩ := List.forall_mem_cons.mp h
    have hsplit : v.messagesFor (site :: sites) = v.messagesFor [site] ++ v.messagesFor sites := by
      rw [messagesFor, ← List.singleton_append, List.filter_append, List.map_append]
      rfl
    rw [List.foldlM_cons, look_eq v hsite, ok_bind,
      ih (v.withFailures (v.messagesFor [site])) hsites, withFailures_append, hsplit]
    rfl

end DynamicAttributeVisitor

/-! ## Files -/

namespace SourceFile

variable (file : SourceFile)

/-- The visit of `collect_failures`. -/
def visitDynamic : Except BuiltinError DynamicAttributeVisitor :=
  DynamicAttributeVisitor.visitNode file.tree (.init file.path (splitlines file.text))

/-- The imports and calls of the file. -/
def sites : List Site := file.tree.occurrences.map Occurrence.site

/-- A marker justifies the line of the source. -/
def DynamicJustified (site : Site) : Prop :=
  Justified dynamicAttributeJustificationMarkers (sourceLines file.text) site.lineno

/-- A marker justifies the line of `str.splitlines` with the same number. -/
def DynamicFoundJustified (site : Site) : Prop :=
  Justified dynamicAttributeJustificationMarkers (splitlines file.text) site.lineno

instance (site : Site) : Decidable (file.DynamicJustified site) :=
  inferInstanceAs (Decidable (Justified _ _ _))

instance (site : Site) : Decidable (file.DynamicFoundJustified site) :=
  inferInstanceAs (Decidable (Justified _ _ _))

/-- The messages for the calls without a justification. -/
def dynamicViolations : List Str :=
  (file.sites.filter fun site => site.IsDynamicAttribute ∧ ¬file.DynamicJustified site).map
    (Site.dynamicMessage file.path)

/-- The messages for the calls without a justification in `str.splitlines`. -/
def dynamicReports : List Str :=
  (file.sites.filter fun site => site.IsDynamicAttribute ∧ ¬file.DynamicFoundJustified site).map
    (Site.dynamicMessage file.path)

/-- The lines of `str.splitlines` justify the calls that the lines of the source do. -/
def DynamicLinesAgree : Prop :=
  ∀ site ∈ file.sites, site.IsDynamicAttribute →
    (file.DynamicFoundJustified site ↔ file.DynamicJustified site)

end SourceFile

/-- A visit returns, with what it finds unjustified. -/
theorem visitDynamic_eq (file : SourceFile) : file.visitDynamic =
    .ok ⟨file.path, splitlines file.text, file.dynamicReports⟩ := by
  have hplaced : ∀ site ∈ file.sites,
      (DynamicAttributeVisitor.init file.path (splitlines file.text)).Placed site := by
    intro site hsite
    obtain ⟨o, ho, rfl⟩ := List.mem_map.mp hsite
    obtain ⟨hfirst, hlast⟩ := file.placed o ho
    exact ⟨hfirst, hlast.trans (length_sourceLines_le file.text)⟩
  rw [SourceFile.visitDynamic, DynamicAttributeVisitor.visitNode_eq]
  exact DynamicAttributeVisitor.foldlM_look_eq _ hplaced

theorem lineno_eq_of_dynamicMessage_eq {path : Str} {first second : Site}
    (h : first.dynamicMessage path = second.dynamicMessage path) :
    first.lineno = second.lineno := by
  simp only [Site.dynamicMessage, failureMessage, List.append_assoc,
    List.append_cancel_left_eq] at h
  exact eq_of_natText_append ((stopsRun_cons isDigit 58 _).mpr rfl)
    ((stopsRun_cons isDigit 58 _).mpr rfl) h

/-- What is reported are the violations if and only if the lines agree. -/
theorem dynamicReports_eq_iff (file : SourceFile) :
    file.dynamicReports = file.dynamicViolations ↔ file.DynamicLinesAgree := by
  constructor
  · intro h site hsite hdynamic
    have hjustified : ∀ {first second : Site},
        first.dynamicMessage file.path = second.dynamicMessage file.path →
          (file.DynamicJustified first ↔ file.DynamicJustified second) := by
      intro first second hmessage
      rw [SourceFile.DynamicJustified, SourceFile.DynamicJustified,
        lineno_eq_of_dynamicMessage_eq hmessage]
    have hiff := unjustified_iff_of_map_eq (fun _ hfound => hfound) hjustified h hsite
    rw [and_iff_right hdynamic, and_iff_right hdynamic] at hiff
    exact not_iff_not.mp hiff
  · intro h
    refine congrArg _ (List.filter_congr fun site hsite => ?_)
    rw [decide_eq_decide]
    exact and_congr_right fun hdynamic => not_congr (h site hsite hdynamic)

/-! ## The gate -/

/-- `collect_failures`. -/
def collectDynamicFailures : List SourceFile → Except BuiltinError (List Str) :=
  collectFailuresOf fun file => file.visitDynamic.map DynamicAttributeVisitor.failures

/-- `ensure_clean`. -/
def ensureDynamicClean : List SourceFile → Except BuiltinError (Option Str) :=
  ensureCleanOf (str "dynamic attribute usage check failed:\n")
    fun file => file.visitDynamic.map DynamicAttributeVisitor.failures

/-- `main`: what it prints and its exit status. -/
def dynamicMain (files : List SourceFile) : Except BuiltinError (List Str × Nat) := do
  let failures ← collectDynamicFailures files
  if failures = [] then .ok ([str "dynamic attribute usage check passed"], 0)
  else .ok (str "dynamic attribute usage check failed:\n" :: failures, 1)

/-- The failures of a visit are what it reports. -/
theorem failures_visitDynamic (file : SourceFile) :
    file.visitDynamic.map DynamicAttributeVisitor.failures = .ok file.dynamicReports :=
  congrArg _ (visitDynamic_eq file)

/-- Every call of `getattr` or `hasattr` by name is justified. -/
def DynamicClean (files : List SourceFile) : Prop :=
  ∀ file ∈ files, ∀ site ∈ file.sites, site.IsDynamicAttribute → file.DynamicFoundJustified site

theorem flatMap_dynamicReports_eq_nil_iff {files : List SourceFile} :
    files.flatMap SourceFile.dynamicReports = [] ↔ DynamicClean files := by
  simp [SourceFile.dynamicReports, DynamicClean]

/-- The guard goes through every tree of every file. Its gate lets them pass and its exit status
is zero if and only if each call of `getattr` or `hasattr` by name, at any depth, is justified in
the lines of `str.splitlines`; else it prints what it reports. Of a file these are the violations
of the source, each in its place, if and only if its lines justify what the lines of the source
do. -/
theorem dynamic_gate (files : List SourceFile) :
    (∀ file ∈ files, ∃ v, file.visitDynamic = .ok v ∧
      (v.failures = file.dynamicViolations ↔ file.DynamicLinesAgree)) ∧
    (ensureDynamicClean files = .ok none ↔ DynamicClean files) ∧
    ∃ printed status, dynamicMain files = .ok (printed, status) ∧
      (status = 0 ↔ DynamicClean files) ∧
      (status ≠ 0 → printed = str "dynamic attribute usage check failed:\n" ::
        files.flatMap SourceFile.dynamicReports) := by
  refine ⟨fun file _ => ⟨_, visitDynamic_eq file, dynamicReports_eq_iff file⟩, ?_, ?_⟩
  · rw [ensureDynamicClean, ensureCleanOf_eq_none_iff failures_visitDynamic,
      flatMap_dynamicReports_eq_nil_iff]
  · rw [dynamicMain, collectDynamicFailures, collectFailuresOf_eq failures_visitDynamic, ok_bind,
      ← flatMap_dynamicReports_eq_nil_iff]
    split_ifs with hclean
    · exact ⟨_, _, rfl, by simp [hclean], by simp⟩
    · exact ⟨_, _, rfl, by simp [hclean], fun _ => rfl⟩

/-- A call in an argument is reported after the call around it. -/
example :
    let file : SourceFile :=
      { path := str "app/main.py"
        text := str "getattr(hasattr(x))\n"
        tree := .other [.expr (.call 1 (.name ⟨str "getattr", by decide⟩)
          [.call 1 (.name ⟨str "hasattr", by decide⟩) [.other []]])]
        placed := by decide }
    file.dynamicReports = [str "app/main.py:1: getattr usage without justification",
      str "app/main.py:1: hasattr usage without justification"] := by
  decide

end LiveData.Guardrails

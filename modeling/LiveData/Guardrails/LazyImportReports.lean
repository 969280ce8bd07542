import LiveData.Guardrails.LazyImports

/-!
# What the guard against lazy imports reports

An import inside a definition and outside the bodies under `TYPE_CHECKING` is lazy, and so is
every dynamic import. The failures of a visit are those of the lazy imports without a
justification if and only if the tests of the guards hold no unjustified dynamic import and
the lines of `str.splitlines` justify what the lines of the parser justify.
-/

namespace LiveData.Guardrails

/-! ## Lazy imports -/

/-- The expression is `__import__` or `importlib.import_module`. -/
def IsDynamicImport : Expr → Prop
  | .name id => id.val = str "__import__"
  | .attribute (.name id) attr => id.val = str "importlib" ∧ attr.val = str "import_module"
  | _ => False

theorem isDynamicImportName_name (id : Identifier) :
    isDynamicImportName (some id.val) = true ↔ id.val = str "__import__" := by
  have hdotted : id.val ≠ str "importlib.import_module" := fun h =>
    id.property (h ▸ by decide)
  simp [isDynamicImportName, dynamicImportCalls, hdotted]

theorem isDynamicImportName_dotted (id attr : Identifier) :
    isDynamicImportName (some (id.val ++ str "." ++ attr.val)) = true ↔
      id.val = str "importlib" ∧ attr.val = str "import_module" := by
  have hdotted : id.val ++ str "." ++ attr.val = id.val ++ 46 :: attr.val := by
    rw [List.append_assoc]
    rfl
  have hbare : id.val ++ 46 :: attr.val ≠ str "__import__" := fun h =>
    absurd (h ▸ List.mem_append_right id.val List.mem_cons_self) (by decide)
  have hmodule : str "importlib.import_module" = str "importlib" ++ 46 :: str "import_module" := by
    decide
  rw [isDynamicImportName, Option.any_some, decide_eq_true_iff, hdotted, dynamicImportCalls,
    List.mem_singleton, or_iff_right hbare, hmodule,
    List.append_cons_inj_of_notMem id.property attr.property]
  exact and_congr_right fun _ => and_iff_right rfl

/-- The dotted name of a call tells what it calls. -/
theorem isDynamicImportName_iff : ∀ func : Expr,
    isDynamicImportName (callName func) = true ↔ IsDynamicImport func
  | .name id => isDynamicImportName_name id
  | .attribute (.name id) attr => isDynamicImportName_dotted id attr
  | .attribute (.attribute _ _) _ => by simp [isDynamicImportName, callName, IsDynamicImport]
  | .attribute (.call _ _ _) _ => by simp [isDynamicImportName, callName, IsDynamicImport]
  | .attribute (.other _) _ => by simp [isDynamicImportName, callName, IsDynamicImport]
  | .call _ _ _ => by simp [isDynamicImportName, callName, IsDynamicImport]
  | .other _ => by simp [isDynamicImportName, callName, IsDynamicImport]

instance (func : Expr) : Decidable (IsDynamicImport func) :=
  decidable_of_iff _ (isDynamicImportName_iff func)

namespace Occurrence

/-- A function, an async function or a class encloses it. -/
def InDefinition (o : Occurrence) : Prop := Step.definition ∈ o.path

/-- It is in the body of an `if` whose test is `TYPE_CHECKING`. -/
def InGuardBody (o : Occurrence) : Prop :=
  ∃ test, Step.ifBody test ∈ o.path ∧ isTypeCheckingGuard test = true

/-- It is in the test itself. -/
def InGuardTest (o : Occurrence) : Prop :=
  ∃ test, Step.ifTest test ∈ o.path ∧ isTypeCheckingGuard test = true

/-- A lazy import, justified or not. -/
def IsLazyImport (o : Occurrence) : Prop :=
  match o.site.kind with
  | .call func => IsDynamicImport func
  | _ => o.InDefinition ∧ ¬o.InGuardBody

theorem any_isDefinition_iff (o : Occurrence) :
    o.path.any Step.isDefinition = true ↔ o.InDefinition := by
  have hstep : ∀ step : Step, step.isDefinition = true ↔ step = .definition := by
    intro step
    cases step <;> simp [Step.isDefinition]
  simp [hstep, InDefinition]

/-- The path leads into the given part of a guard. -/
theorem any_iff_exists_guard {p : Step → Bool} {part : Expr → Step}
    (h : ∀ step, p step = true ↔ ∃ test, step = part test ∧ isTypeCheckingGuard test = true)
    (path : List Step) : path.any p = true ↔
      ∃ test, part test ∈ path ∧ isTypeCheckingGuard test = true := by
  rw [List.any_eq_true]
  constructor
  · rintro ⟨step, hstep, hp⟩
    obtain ⟨test, rfl, hguard⟩ := (h step).mp hp
    exact ⟨test, hstep, hguard⟩
  · rintro ⟨test, hstep, hguard⟩
    exact ⟨part test, hstep, (h _).mpr ⟨test, rfl, hguard⟩⟩

theorem any_isGuardBody_iff (o : Occurrence) :
    o.path.any Step.isGuardBody = true ↔ o.InGuardBody :=
  any_iff_exists_guard (fun step => by cases step <;> simp [Step.isGuardBody]) o.path

theorem any_isGuardTest_iff (o : Occurrence) :
    o.path.any Step.isGuardTest = true ↔ o.InGuardTest :=
  any_iff_exists_guard (fun step => by cases step <;> simp [Step.isGuardTest]) o.path

instance (o : Occurrence) : Decidable o.InDefinition :=
  decidable_of_iff _ o.any_isDefinition_iff

instance (o : Occurrence) : Decidable o.InGuardBody :=
  decidable_of_iff _ o.any_isGuardBody_iff

instance (o : Occurrence) : Decidable o.InGuardTest :=
  decidable_of_iff _ o.any_isGuardTest_iff

instance (o : Occurrence) : Decidable o.IsLazyImport :=
  match h : o.site.kind with
  | .call func => decidable_of_iff (IsDynamicImport func) (by rw [IsLazyImport, h])
  | .importStmt => decidable_of_iff (o.InDefinition ∧ ¬o.InGuardBody) (by rw [IsLazyImport, h])
  | .importFrom => decidable_of_iff (o.InDefinition ∧ ¬o.InGuardBody) (by rw [IsLazyImport, h])

/-- A visit looks up the lazy imports outside the tests of guards. -/
theorem reached_iff (o : Occurrence) :
    o.reached 0 0 = true ↔ o.IsLazyImport ∧ ¬o.InGuardTest := by
  have hbody : (0 : Int) + o.path.countP Step.isGuardBody ≤ 0 ↔ ¬o.InGuardBody := by
    rw [← any_isGuardBody_iff, List.any_eq_true, ← List.countP_pos_iff]
    omega
  have hscope : (0 : Int) + o.path.countP Step.isDefinition ≠ 0 ↔ o.InDefinition := by
    rw [← any_isDefinition_iff, List.any_eq_true, ← List.countP_pos_iff]
    omega
  rw [reached, Bool.and_eq_true, Bool.not_eq_true', ← Bool.not_eq_true, any_isGuardTest_iff,
    and_comm, IsLazyImport]
  refine and_congr_left fun _ => ?_
  cases o.site.kind with
  | call func => exact isDynamicImportName_iff func
  | importStmt => rw [decide_eq_true_iff, hbody, hscope, and_comm]
  | importFrom => rw [decide_eq_true_iff, hbody, hscope, and_comm]

end Occurrence

/-! ## Files -/

/-- A file and the tree that the parser makes of its text. -/
structure SourceFile where
  path : Str
  text : Str
  tree : Node
  /-- The parser numbers the lines of the text. -/
  placed : ∀ o ∈ tree.occurrences,
    1 ≤ o.site.lineno ∧ o.site.lineno ≤ (sourceLines text).length

namespace SourceFile

variable (file : SourceFile)

/-- The visit of `collect_failures`. -/
def visit : Except BuiltinError LazyImportVisitor :=
  visitNode file.tree (.init file.path (splitlines file.text))

/-- A marker justifies the line of the source. -/
def IsJustified (o : Occurrence) : Prop :=
  Justified lazyImportJustificationMarkers (sourceLines file.text) o.site.lineno

/-- A marker justifies the line of `str.splitlines` with the same number. -/
def IsFoundJustified (o : Occurrence) : Prop :=
  Justified lazyImportJustificationMarkers (splitlines file.text) o.site.lineno

instance (o : Occurrence) : Decidable (file.IsJustified o) :=
  inferInstanceAs (Decidable (Justified _ _ _))

instance (o : Occurrence) : Decidable (file.IsFoundJustified o) :=
  inferInstanceAs (Decidable (Justified _ _ _))

/-- The lazy imports without a justification. -/
def violations : List Occurrence :=
  file.tree.occurrences.filter fun o => o.IsLazyImport ∧ ¬file.IsJustified o

/-- The lazy imports that a visit reaches and finds no justification for. -/
def reported : List Occurrence :=
  file.tree.occurrences.filter fun o =>
    (o.IsLazyImport ∧ ¬o.InGuardTest) ∧ ¬file.IsFoundJustified o

/-- The messages for imports and calls. -/
def messages (occurrences : List Occurrence) : List Str :=
  occurrences.map fun o => o.site.message file.path

/-- The failures of a visit are those of the violations, and a visit restores the counters. -/
structure ReportsViolations : Prop where
  failures : ∃ v, file.visit = .ok v ∧ v.failures = file.messages file.violations
  restored : ∀ {node v w}, visitNode node v = .ok w →
    w.scopeDepth = v.scopeDepth ∧ w.typeCheckingDepth = v.typeCheckingDepth

/-- Every dynamic import in the test of a guard is justified. -/
def GuardTestsJustified : Prop :=
  ∀ o ∈ file.tree.occurrences, o.IsLazyImport → o.InGuardTest → file.IsJustified o

/-- The lines of `str.splitlines` justify the lazy imports that the lines of the source do. -/
def LinesAgree : Prop :=
  ∀ o ∈ file.tree.occurrences, o.IsLazyImport → ¬o.InGuardTest →
    (file.IsFoundJustified o ↔ file.IsJustified o)

instance : Decidable file.GuardTestsJustified :=
  inferInstanceAs (Decidable (∀ o ∈ file.tree.occurrences, _))

instance : Decidable file.LinesAgree :=
  inferInstanceAs (Decidable (∀ o ∈ file.tree.occurrences, _))

end SourceFile

/-! ## The failures of a visit -/

theorem lazyImportJustificationMarkers_stripped :
    ∀ marker ∈ lazyImportJustificationMarkers, marker ≠ [] ∧ Stripped marker := by
  decide

/-- The failures are those of the sites that are not justified. -/
theorem failuresOf_eq (path : Str) {lines : List Str} {sites : List Site}
    (h : ∀ site ∈ sites, 1 ≤ site.lineno ∧ site.lineno ≤ lines.length) :
    failuresOf path lines sites = .ok ((sites.filter fun site =>
      ¬Justified lazyImportJustificationMarkers lines site.lineno).map (Site.message path)) := by
  induction sites with
  | nil => rfl
  | cons site sites ih =>
    obtain ⟨⟨hfirst, hlast⟩, hsites⟩ := List.forall_mem_cons.mp h
    rw [failuresOf, hasJustification_eq lazyImportJustificationMarkers_stripped hfirst hlast,
      ok_bind, ih hsites, ok_bind, List.filter_cons]
    by_cases hjustified : Justified lazyImportJustificationMarkers lines site.lineno
    · simp [hjustified]
    · simp [hjustified]

/-- The sites that a visit reaches and does not find justified. -/
theorem filter_reachedSites (file : SourceFile) :
    (reachedSites 0 0 file.tree.occurrences).filter (fun site =>
      ¬Justified lazyImportJustificationMarkers (splitlines file.text) site.lineno) =
      file.reported.map Occurrence.site := by
  rw [reachedSites, List.filter_map, List.filter_filter]
  refine congrArg _ (List.filter_congr fun o _ => ?_)
  rw [Bool.eq_iff_iff, Bool.and_eq_true, Occurrence.reached_iff, decide_eq_true_iff, and_comm]
  simp [SourceFile.IsFoundJustified]

/-- A visit of a file returns, and its failures are those of what it finds unjustified. -/
theorem visit_eq (file : SourceFile) : file.visit =
    .ok ⟨file.path, splitlines file.text, 0, 0, file.messages file.reported⟩ := by
  have hplaced : ∀ site ∈ reachedSites 0 0 file.tree.occurrences,
      1 ≤ site.lineno ∧ site.lineno ≤ (splitlines file.text).length := by
    intro site hsite
    obtain ⟨o, ho, rfl⟩ := List.mem_map.mp hsite
    obtain ⟨hfirst, hlast⟩ := file.placed o (List.mem_filter.mp ho).1
    exact ⟨hfirst, hlast.trans (length_sourceLines_le file.text)⟩
  have hfailures := failuresOf_eq file.path hplaced
  rw [filter_reachedSites, List.map_map] at hfailures
  rw [SourceFile.visit, reports_visitNode, LazyImportVisitor.reports, LazyImportVisitor.init,
    hfailures]
  rfl

/-- A visit leaves the counters as they were. -/
theorem counters_of_visitNode {node : Node} {v w : LazyImportVisitor}
    (h : visitNode node v = .ok w) :
    w.scopeDepth = v.scopeDepth ∧ w.typeCheckingDepth = v.typeCheckingDepth := by
  rw [reports_visitNode] at h
  obtain ⟨failures, rfl⟩ := eq_withFailures_of_reports h
  exact ⟨rfl, rfl⟩

/-! ## The violations -/

/-- A message names the line. -/
theorem lineno_eq_of_message_eq {path : Str} {first second : Site}
    (h : first.message path = second.message path) : first.lineno = second.lineno := by
  simp only [Site.message, failureMessage, List.append_assoc, List.append_cancel_left_eq] at h
  exact eq_of_natText_append ((stopsRun_cons isDigit 58 _).mpr rfl)
    ((stopsRun_cons isDigit 58 _).mpr rfl) h

/-- A selection with the values of one that it lies in is all of it. -/
theorem forall_of_map_filter_eq {α β : Type} {l : List α} {m : α → β} {p q : α → Bool}
    (h : (l.filter p).map m = (l.filter q).map m) (hsub : ∀ a ∈ l, p a = true → q a = true) :
    ∀ a ∈ l, q a = true → p a = true := by
  have hnested : (l.filter q).filter p = l.filter p := by
    rw [List.filter_filter]
    refine List.filter_congr fun a ha => ?_
    cases hp : p a with
    | false => rfl
    | true => rw [hsub a ha hp, Bool.and_self]
  have hlength : ((l.filter q).filter p).length = (l.filter q).length := by
    rw [hnested, ← List.length_map m, h, List.length_map]
  have hall := List.length_filter_eq_length_iff.mp hlength
  exact fun a ha hq => hall a (List.mem_filter.mpr ⟨ha, hq⟩)

/-- Let what is found lie in what is looked for, and let equal messages be justified together.
If then the messages for what is found without a justification are those for what is looked for
and has none, these are the same. -/
theorem unjustified_iff_of_map_eq {α : Type} {l : List α} {message : α → Str}
    {Found FoundJustified Sought Justified : α → Prop} [DecidablePred Found]
    [DecidablePred FoundJustified] [DecidablePred Sought] [DecidablePred Justified]
    (hfound : ∀ a, Found a → Sought a)
    (hmessage : ∀ {a b}, message a = message b → (Justified a ↔ Justified b))
    (h : (l.filter fun a => Found a ∧ ¬FoundJustified a).map message =
      (l.filter fun a => Sought a ∧ ¬Justified a).map message) {a : α} (ha : a ∈ l) :
    Found a ∧ ¬FoundJustified a ↔ Sought a ∧ ¬Justified a := by
  have hsub : ∀ a ∈ l, decide (Found a ∧ ¬FoundJustified a) = true →
      decide (Sought a ∧ ¬Justified a) = true := by
    intro a ha hreported
    have hmem : message a ∈ (l.filter fun a => Sought a ∧ ¬Justified a).map message := by
      rw [← h]
      exact List.mem_map_of_mem (List.mem_filter.mpr ⟨ha, hreported⟩)
    obtain ⟨violation, hviolation, hsame⟩ := List.mem_map.mp hmem
    have hunjustified := (of_decide_eq_true (List.mem_filter.mp hviolation).2).2
    exact decide_eq_true ⟨hfound a (of_decide_eq_true hreported).1,
      fun hjustified => hunjustified ((hmessage hsame).mpr hjustified)⟩
  exact ⟨fun hreported => of_decide_eq_true (hsub a ha (decide_eq_true hreported)),
    fun hviolation => of_decide_eq_true
      (forall_of_map_filter_eq h hsub a ha (decide_eq_true hviolation))⟩

/-- Imports and calls with the same message are justified together. -/
theorem isJustified_congr {file : SourceFile} {o other : Occurrence}
    (h : o.site.message file.path = other.site.message file.path) :
    file.IsJustified o ↔ file.IsJustified other := by
  rw [SourceFile.IsJustified, SourceFile.IsJustified, lineno_eq_of_message_eq h]

/-- Under the two conditions what is reported are the violations. -/
theorem reported_eq_violations {file : SourceFile} (hguard : file.GuardTestsJustified)
    (hlines : file.LinesAgree) : file.reported = file.violations := by
  refine List.filter_congr fun o ho => ?_
  rw [decide_eq_decide]
  constructor
  · rintro ⟨⟨hlazy, htest⟩, hfound⟩
    exact ⟨hlazy, (hlines o ho hlazy htest).not.mp hfound⟩
  · rintro ⟨hlazy, hjustified⟩
    have htest : ¬o.InGuardTest := fun htest => hjustified (hguard o ho hlazy htest)
    exact ⟨⟨hlazy, htest⟩, (hlines o ho hlazy htest).not.mpr hjustified⟩

/-- Equal messages are messages of the same lazy imports. -/
theorem reported_iff_of_messages_eq {file : SourceFile}
    (h : file.messages file.reported = file.messages file.violations) {o : Occurrence}
    (ho : o ∈ file.tree.occurrences) :
    (o.IsLazyImport ∧ ¬o.InGuardTest) ∧ ¬file.IsFoundJustified o ↔
      o.IsLazyImport ∧ ¬file.IsJustified o := by
  have hsought : ∀ o : Occurrence, o.IsLazyImport ∧ ¬o.InGuardTest → o.IsLazyImport :=
    fun _ hfound => hfound.1
  exact unjustified_iff_of_map_eq hsought isJustified_congr h ho

/-- The two conditions hold when the messages are those of the violations. -/
theorem conditions_of_messages_eq {file : SourceFile}
    (h : file.messages file.reported = file.messages file.violations) :
    file.GuardTestsJustified ∧ file.LinesAgree := by
  constructor
  · intro o ho hlazy htest
    by_contra hjustified
    exact ((reported_iff_of_messages_eq h ho).mpr ⟨hlazy, hjustified⟩).1.2 htest
  · intro o ho hlazy htest
    have hiff := reported_iff_of_messages_eq h ho
    rw [and_iff_right ⟨hlazy, htest⟩, and_iff_right hlazy] at hiff
    exact not_iff_not.mp hiff

theorem SourceFile.ReportsViolations.messages_eq {file : SourceFile}
    (h : file.ReportsViolations) :
    file.messages file.reported = file.messages file.violations := by
  obtain ⟨v, hvisit, hfailures⟩ := h.failures
  rw [visit_eq] at hvisit
  obtain rfl := Except.ok.inj hvisit
  exact hfailures

/-- The guard reports the violations of a file if and only if no test of a guard holds one and
the two ways of counting lines agree on what is justified. -/
theorem reportsViolations_iff (file : SourceFile) :
    file.ReportsViolations ↔ file.GuardTestsJustified ∧ file.LinesAgree := by
  constructor
  · exact fun h => conditions_of_messages_eq h.messages_eq
  · rintro ⟨hguard, hlines⟩
    exact ⟨⟨_, visit_eq file, congrArg file.messages (reported_eq_violations hguard hlines)⟩,
      counters_of_visitNode⟩

/-- A module that imports `typing` in the test of its guard. -/
def dynamicGuardFile : SourceFile where
  path := str "app/main.py"
  text := str "if __import__(\"typing\").TYPE_CHECKING:\n    pass\n"
  tree := .other [.ifStmt
    (.attribute (.call 1 (.name ⟨str "__import__", by decide⟩) [.other []])
      ⟨str "TYPE_CHECKING", by decide⟩) [.other []] []]
  placed := by decide

theorem not_reportsViolations_dynamicGuardFile : ¬dynamicGuardFile.ReportsViolations := by
  intro h
  exact absurd h.messages_eq (by decide)

/-- The lines agree when none of those that count has a line end of `str.splitlines` alone. -/
theorem linesAgree_of_lineEnds {file : SourceFile}
    (h : ∀ o ∈ file.tree.occurrences, o.IsLazyImport →
      ∀ line ∈ (sourceLines file.text).take o.site.lineno, ∀ c ∈ line,
        isFurtherLineEnd c = false) : file.LinesAgree :=
  fun o ho hlazy _ => justified_congr (file.placed o ho).1 (take_splitlines_eq (h o ho hlazy))

example :
    let text := str "def f():\n    x = '\x0c'\n    import os  # local import justified: x\n"
    Justified lazyImportJustificationMarkers (sourceLines text) 3 ∧
      ¬Justified lazyImportJustificationMarkers (splitlines text) 3 := by decide

/-! ## The gate -/

section

variable (title : Str) (failuresOf : SourceFile → Except BuiltinError (List Str))

/-- `collect_failures` of a guard, over the files that it reads. -/
def collectFailuresOf : List SourceFile → Except BuiltinError (List Str)
  | [] => .ok []
  | file :: files => do
    let found ← failuresOf file
    let failures ← collectFailuresOf files
    .ok (found ++ failures)

/-- The message that `ensure_clean` of a guard raises. -/
def failedMessageOf (failures : List Str) : Str :=
  let rendered := List.intercalate (str "\n") (failures.take 20)
  let rendered :=
    if failures.length > 20 then
      rendered ++ str "\n... and " ++ natText (failures.length - 20) ++ str " more"
    else rendered
  title ++ rendered

/-- `ensure_clean` of a guard: the message of the `RuntimeError` it raises, if it raises one. -/
def ensureCleanOf (files : List SourceFile) : Except BuiltinError (Option Str) := do
  let failures ← collectFailuresOf failuresOf files
  if failures = [] then .ok none else .ok (some (failedMessageOf title failures))

end

/-- `collect_failures`. -/
def collectFailures : List SourceFile → Except BuiltinError (List Str) :=
  collectFailuresOf fun file => file.visit.map LazyImportVisitor.failures

/-- `ensure_clean`. -/
def ensureClean : List SourceFile → Except BuiltinError (Option Str) :=
  ensureCleanOf (str "lazy import usage check failed:\n")
    fun file => file.visit.map LazyImportVisitor.failures

section

variable {title : Str} {failuresOf : SourceFile → Except BuiltinError (List Str)}
  {reports : SourceFile → List Str} (h : ∀ file, failuresOf file = .ok (reports file))
include h

/-- A guard collects what it reports, file by file. -/
theorem collectFailuresOf_eq (files : List SourceFile) :
    collectFailuresOf failuresOf files = .ok (files.flatMap reports) := by
  induction files with
  | nil => rfl
  | cons file files ih => rw [collectFailuresOf, h, ok_bind, ih, ok_bind, List.flatMap_cons]

/-- Its gate lets files pass if and only if it reports nothing. -/
theorem ensureCleanOf_eq_none_iff {files : List SourceFile} :
    ensureCleanOf title failuresOf files = .ok none ↔ files.flatMap reports = [] := by
  rw [ensureCleanOf, collectFailuresOf_eq h, ok_bind]
  split
  · next hnil => exact iff_of_true rfl hnil
  · next hne => exact iff_of_false (by simp) hne

end

/-- The gate lets files pass if and only if every lazy import outside the tests of guards is
justified in the lines of `str.splitlines`. Where the visitor reports the violations, this is so
if and only if every lazy import is justified. -/
theorem lazy_import_gate (files : List SourceFile) :
    (ensureClean files = .ok none ↔ ∀ file ∈ files, ∀ o ∈ file.tree.occurrences,
      o.IsLazyImport → ¬o.InGuardTest → file.IsFoundJustified o) ∧
    ((∀ file ∈ files, file.GuardTestsJustified ∧ file.LinesAgree) →
      (ensureClean files = .ok none ↔ ∀ file ∈ files, ∀ o ∈ file.tree.occurrences,
        o.IsLazyImport → file.IsJustified o)) := by
  have hvisit : ∀ file : SourceFile, file.visit.map LazyImportVisitor.failures =
      .ok (file.messages file.reported) := fun file => congrArg _ (visit_eq file)
  rw [ensureClean, ensureCleanOf_eq_none_iff hvisit, List.flatMap_eq_nil_iff]
  constructor
  · refine forall₂_congr fun file _ => ?_
    simp [SourceFile.messages, SourceFile.reported]
  · intro h
    refine forall₂_congr fun file hfile => ?_
    obtain ⟨hguard, hlines⟩ := h file hfile
    rw [reported_eq_violations hguard hlines]
    simp [SourceFile.messages, SourceFile.violations]

/-- A module with a justified import in a function. -/
def deferredImportFile : SourceFile where
  path := str "app/main.py"
  text := str "def f():\n    import os  # local import justified: x\n"
  tree := .other [.functionDef [.importStmt 2 [.other []]]]
  placed := by decide

/-- It passes the gate with one that imports nothing. -/
theorem deferredImportFile_passes :
    ensureClean [deferredImportFile, ⟨str "app/empty.py", [], .other [], by decide⟩] =
      .ok none := by
  refine ((lazy_import_gate _).2 ?_).mpr ?_
  · simp only [List.forall_mem_cons, List.not_mem_nil, false_implies, implies_true, and_true]
    refine ⟨⟨by decide, linesAgree_of_lineEnds (by decide)⟩, by decide, by decide⟩
  · decide

end LiveData.Guardrails

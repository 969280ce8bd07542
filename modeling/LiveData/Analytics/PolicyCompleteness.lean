import LiveData.Analytics.PolicySoundness

/-!
# What the policy has to accept

A read-only SELECT over allowlisted relations is accepted, with the relations it reads as
the audited set, exactly when no stored relation it reads has the name of a common table
expression anywhere in the statement and every one is lowered to the name it denotes.
-/

namespace LiveData.Analytics

open Sql

/-- How `str.lower` treats texts: lowering twice, or after the ASCII letters were folded,
changes nothing. -/
structure LowersText (lower : Str → Str) : Prop where
  nil : lower [] = []
  folded : ∀ s, lower (asciiLower s) = lower s
  idempotent : ∀ s, lower (lower s) = lower s

/-- The node is none of the kinds the policy rejects wherever they stand. -/
def isPlain : Node → Bool
  | .mutation _ | .into | .lock | .tableSample => false
  | _ => true

/-- The statements the policy promises to accept: a read-only SELECT within the length limit
whose references are allowlisted names or common table expressions in scope. -/
structure Promised (sqlglot : Sqlglot) (allowed : List Str) (sql : Str)
    (expression : Expression) : Prop where
  length : sql.length ≤ maxQueryTextLength
  single : parsedTree sqlglot sql = some expression
  select : expression.label = .select
  plain : ∀ s, Tree.Subtree s expression → isPlain s.label = true
  functions : ∀ s call, Tree.Subtree s expression → s.label = .func call →
    normalizedFunctionName sqlglot call ∈ allowedFunctionNames
  tables : ∀ r ∈ references expression, r.reference.Unqualified ∧
    ∃ i, r.reference.name = some i ∧ i.text ≠ [] ∧ (i.folded ∈ r.scope ∨ i.folded ∈ allowed)
  reads : ∃ r ∈ references expression, ∃ i, r.ReadsRelation i ∧ i.folded ∈ allowed

section Validate

variable (policy : AnalyticsSqlPolicy) (sqlglot : Sqlglot) (sql : Str) (requestedRowLimit : Int)
  (allowedRelations : Option (List Str))

/-- A promised statement is accepted, and what is reported is what it reads. -/
def AcceptsPromised : Prop :=
  policy.givenRelations allowedRelations ≠ [] → ∀ expression,
    Promised sqlglot (policy.givenRelations allowedRelations) sql expression →
      ∃ query, policy.validate sqlglot sql requestedRowLimit allowedRelations = .ok query ∧
        ∀ name, name ∈ query.referencedRelations ↔ name ∈ relationsRead expression

end Validate

/-- Every stored relation a statement reads is lowered to the name it denotes, which is the
lowered name of no common table expression of the statement. -/
def NamesApart (sqlglot : Sqlglot) (expression : Expression) : Prop :=
  ∀ r ∈ references expression, ∀ i, r.ReadsRelation i →
    sqlglot.lower i.text ∉ cteNames sqlglot expression ∧ sqlglot.lower i.text = i.folded

/-- The lowered names the loop collects from a list of references. -/
def CollectedFrom (sqlglot : Sqlglot) (names : List Str) (tables : List TableReference)
    (name : Str) : Prop :=
  ∃ table ∈ tables, sqlglot.lower table.nameText ∉ names ∧ sqlglot.lower table.nameText = name

theorem mem_addRelation {relations : List Str} {name other : Str} :
    other ∈ addRelation relations name ↔ other ∈ relations ∨ other = name := by
  unfold addRelation
  split
  · next h =>
    constructor
    · exact Or.inl
    · rintro (h' | rfl)
      · exact h'
      · exact h
  · simp

/-- Over unqualified references the loop collects every name that is not skipped. -/
theorem extractRelations_of_unqualified {sqlglot : Sqlglot} (hlower : LowersText sqlglot.lower)
    (names : List Str) (tables : List TableReference) (relations : List Str)
    (h : ∀ table ∈ tables, table.Unqualified) :
    ∃ out, tables.foldlM (extractRelation sqlglot names) relations = .ok out ∧
      ∀ name, name ∈ out ↔ name ∈ relations ∨ CollectedFrom sqlglot names tables name := by
  induction tables generalizing relations with
  | nil => exact ⟨relations, rfl, by simp [CollectedFrom]⟩
  | cons table tables ih =>
    obtain ⟨⟨hdb, hcatalog⟩, htables⟩ := List.forall_mem_cons.mp h
    rw [List.foldlM_cons]
    by_cases hn : sqlglot.lower table.nameText ∈ names
    · obtain ⟨out, hout, hmem⟩ := ih relations htables
      refine ⟨out, ?_, fun name => ?_⟩
      · rw [extractRelation, if_pos hn, ok_bind, hout]
      · rw [hmem]
        simp [CollectedFrom, hn]
    · obtain ⟨out, hout, hmem⟩ := ih (addRelation relations (sqlglot.lower table.nameText)) htables
      refine ⟨out, ?_, fun name => ?_⟩
      · rw [extractRelation, if_neg hn, hdb, hcatalog, hlower.nil, if_neg (by decide),
          if_neg (by simp), ok_bind, hout]
      · rw [hmem, mem_addRelation]
        simp [CollectedFrom, hn, or_assoc, eq_comm]

theorem anyNode_eq_false {test : Node → Bool} {expression : Expression} :
    anyNode test expression = false ↔
      ∀ s, Tree.Subtree s expression → test s.label = false := by
  simp only [anyNode, List.any_eq_false, Tree.mem_walk, Bool.not_eq_true]

namespace Promised

variable {sqlglot : Sqlglot} {allowed : List Str} {sql : Str} {expression : Expression}

theorem ensureSelectOnly (h : Promised sqlglot allowed sql expression) :
    ensureSelectOnly expression = .ok () := by
  have hmutation : anyNode isMutation expression = false := by
    refine anyNode_eq_false.mpr fun s hs => ?_
    have hp := h.plain s hs
    cases hl : s.label <;> simp [hl, isPlain] at hp <;> rfl
  simp only [Analytics.ensureSelectOnly, bind_eq_ok, rejectIf_eq_ok]
  exact ⟨(), by simp [h.select], hmutation⟩

theorem ensureBoundedSelectShape (h : Promised sqlglot allowed sql expression) :
    ensureBoundedSelectShape sqlglot expression = .ok () := by
  have hnode : ∀ node, isPlain node = false → anyNode (· == node) expression = false := by
    refine fun node hn => anyNode_eq_false.mpr fun s hs => ?_
    refine beq_eq_false_iff_ne.mpr fun he => ?_
    have hp := h.plain s hs
    rw [he, hn] at hp
    cases hp
  have hfunctions : ensureFunctionSurfaceIsAllowlisted sqlglot expression = .ok () := by
    refine forM_eq_ok.mpr fun call hcall => ?_
    obtain ⟨s, hs, hl⟩ := (Tree.mem_findAll _ _ _).mp hcall
    refine rejectIf_eq_ok.mpr ?_
    have hlabel : s.label = .func call := by
      cases hs' : s.label <;> simp_all [functionCall]
    simpa using h.functions s call hs hlabel
  simp only [Analytics.ensureBoundedSelectShape, bind_eq_ok, rejectIf_eq_ok]
  exact ⟨(), hnode _ rfl, (), hnode _ rfl, (), hnode _ rfl, hfunctions⟩

theorem label_of_tableReference {node : Node} {table : TableReference}
    (h : tableReference node = some table) : node = .table table := by
  cases node <;> simp_all [tableReference]

/-- Every reference of a promised statement is unqualified. -/
theorem unqualified (h : Promised sqlglot allowed sql expression) :
    ∀ table ∈ expression.findAll tableReference, table.Unqualified := by
  intro table ht
  obtain ⟨s, hs, hl⟩ := (Tree.mem_findAll _ _ _).mp ht
  obtain ⟨scope, hm⟩ := mem_scopedTables_of_subtree expression [] [] s table hs
    (label_of_tableReference hl)
  exact (h.tables _ hm).1

/-- What a promised statement reads. -/
theorem mem_relationsRead (h : Promised sqlglot allowed sql expression) (name : Str) :
    name ∈ relationsRead expression ↔
      ∃ r ∈ references expression, ∃ i, r.ReadsRelation i ∧ i.folded = name := by
  simp only [relationsRead, List.mem_filterMap]
  refine exists_congr fun r => and_congr_right fun hr => ?_
  obtain ⟨⟨hdb, -⟩, i, hi, -⟩ := h.tables r hr
  by_cases hd : r.DenotesCte
  · simp [ScopedTable.relationRead, ScopedTable.ReadsRelation, hd]
  · simp [ScopedTable.relationRead, ScopedTable.ReadsRelation, hd, hi, hdb, asciiLower]

/-- What a promised statement reads is allowlisted. -/
theorem folded_mem (h : Promised sqlglot allowed sql expression) {r : ScopedTable}
    (hr : r ∈ references expression) {i : Identifier} (hi : r.ReadsRelation i) :
    i.folded ∈ allowed := by
  obtain ⟨hu, j, hj, -, hscope⟩ := h.tables r hr
  obtain ⟨hname, hnot⟩ := (r.readsRelation_iff i).mp hi
  obtain rfl : j = i := Option.some.inj (hj.symm.trans hname)
  exact hscope.resolve_left fun hs => hnot ⟨hu, hs⟩

end Promised

/-- Names that fold alike are lowered alike. -/
theorem LowersText.lower_folded {lower : Str → Str} (h : LowersText lower) (i : Identifier) :
    lower i.folded = lower i.text := by
  unfold Identifier.folded
  split
  · rfl
  · exact h.folded i.text

/-- A declared name that is not empty is among the flat names. -/
theorem lower_mem_cteNames {sqlglot : Sqlglot} (hlower : LowersText sqlglot.lower)
    {expression : Expression} {i : Identifier} (hi : i.text ≠ [])
    (h : DeclaresName expression i.folded) :
    sqlglot.lower i.text ∈ cteNames sqlglot expression := by
  obtain ⟨s, j, hs, hl, hj⟩ := h
  have hlowered : sqlglot.lower j.text = sqlglot.lower i.text := by
    rw [← hlower.lower_folded, ← hlower.lower_folded, hj]
  have hne : j.text ≠ [] := by
    intro he
    rw [he, hlower.nil] at hlowered
    exact hi (sqlglot.eq_nil_of_lower _ hlowered.symm)
  refine List.mem_map.mpr ⟨j.text, (Tree.mem_findAll _ _ _).mpr ⟨s, hs, ?_⟩, hlowered⟩
  rw [hl, cteAlias, if_neg hne]

namespace Promised

variable {sqlglot : Sqlglot} {allowed : List Str} {sql : Str} {expression : Expression}

/-- The audited set of a promised statement: the lowered names that are not skipped. -/
theorem exists_names (h : Promised sqlglot allowed sql expression)
    (hlower : LowersText sqlglot.lower) :
    ∃ names, extractReferencedRelations sqlglot expression = .ok names ∧
      ∀ name, name ∈ names ↔ ∃ r ∈ references expression, ∃ i, r.reference.name = some i ∧
        sqlglot.lower i.text ∉ cteNames sqlglot expression ∧ sqlglot.lower i.text = name := by
  obtain ⟨names, hnames, hmem⟩ := extractRelations_of_unqualified hlower
    (cteNames sqlglot expression) _ [] h.unqualified
  refine ⟨names, hnames, fun name => ?_⟩
  simp only [hmem, List.not_mem_nil, false_or, CollectedFrom]
  constructor
  · rintro ⟨table, ht, hn, he⟩
    obtain ⟨s, hs, hl⟩ := (Tree.mem_findAll _ _ _).mp ht
    obtain ⟨scope, hm⟩ := mem_scopedTables_of_subtree expression [] [] s table hs
      (label_of_tableReference hl)
    obtain ⟨-, i, hi, -⟩ := h.tables _ hm
    have htext : table.nameText = i.text := by rw [TableReference.nameText, hi]
    exact ⟨_, hm, i, hi, htext ▸ hn, htext ▸ he⟩
  · rintro ⟨r, hr, i, hi, hn, he⟩
    obtain ⟨s, hs, hl⟩ := subtree_of_mem_scopedTables expression [] [] r hr
    have htext : r.reference.nameText = i.text := by rw [TableReference.nameText, hi]
    exact ⟨r.reference, (Tree.mem_findAll _ _ _).mpr ⟨s, hs, by rw [hl]; rfl⟩, htext ▸ hn,
      htext ▸ he⟩

/-- The audited set is what the statement reads exactly when the names stand apart. -/
theorem names_iff (h : Promised sqlglot allowed sql expression)
    (hlower : LowersText sqlglot.lower) {names : List Str}
    (hnames : ∀ name, name ∈ names ↔ ∃ r ∈ references expression, ∃ i,
      r.reference.name = some i ∧ sqlglot.lower i.text ∉ cteNames sqlglot expression ∧
        sqlglot.lower i.text = name) :
    (∀ name, name ∈ names ↔ name ∈ relationsRead expression) ↔
      NamesApart sqlglot expression := by
  constructor
  · intro heq r hr i hi
    have hread : i.folded ∈ relationsRead expression :=
      (h.mem_relationsRead _).mpr ⟨r, hr, i, hi, rfl⟩
    obtain ⟨-, -, j, -, hn, hj⟩ := (hnames _).mp ((heq _).mpr hread)
    have hlowered : sqlglot.lower i.text = i.folded := by
      rw [← hlower.lower_folded, ← hj, hlower.idempotent]
    exact ⟨by rw [hlowered, ← hj]; exact hn, hlowered⟩
  · intro hapart name
    rw [hnames, h.mem_relationsRead]
    constructor
    · rintro ⟨r, hr, i, hi, hn, rfl⟩
      obtain ⟨hu, j, hj, hne, hscope⟩ := h.tables r hr
      obtain rfl : j = i := Option.some.inj (hj.symm.trans hi)
      have hread : r.ReadsRelation j := (r.readsRelation_iff j).mpr ⟨hj, fun hc =>
        hn (lower_mem_cteNames hlower hne (declares_of_mem_references hr hc.2))⟩
      exact ⟨r, hr, j, hread, (hapart r hr j hread).2.symm⟩
    · rintro ⟨r, hr, i, hi, rfl⟩
      obtain ⟨hn, he⟩ := hapart r hr i hi
      exact ⟨r, hr, i, hi.1, hn, he⟩

end Promised

/-- An accepted query reports the names the loop collected. -/
theorem referencedRelations_of_validate {policy : AnalyticsSqlPolicy} {sqlglot : Sqlglot}
    {sql : Str} {requestedRowLimit : Int} {allowedRelations : Option (List Str)}
    {query : ValidatedSqlQuery} {expression : Expression}
    (h : policy.validate sqlglot sql requestedRowLimit allowedRelations = .ok query)
    (hp : parsedTree sqlglot sql = some expression) :
    extractReferencedRelations sqlglot expression = .ok query.referencedRelations ∧
      ∃ text, sqlglot.generate expression = .ok text := by
  simp only [AnalyticsSqlPolicy.validate, bind_eq_ok, mapError_eq_ok, pure, Except.pure,
    Except.ok.injEq] at h
  obtain ⟨⟨⟩, -, other, ho, ⟨⟩, -, ⟨⟩, -, names, hr, ⟨⟩, -, text, hg, rfl⟩ := h
  obtain rfl : other = expression := by
    rw [parsedTree, ho] at hp
    exact Option.some.inj hp
  exact ⟨hr, text, hg⟩

theorem AnalyticsSqlPolicy.effectiveRelations_of_ne_nil (policy : AnalyticsSqlPolicy)
    {allowedRelations : Option (List Str)} (h : policy.givenRelations allowedRelations ≠ []) :
    policy.effectiveRelations allowedRelations = policy.givenRelations allowedRelations := by
  refine policy.effectiveRelations_eq ?_
  rintro rfl
  exact h rfl

/-- Names that are allowlisted, one at least, pass the last check. -/
theorem ensureRelationsAreAllowlisted_of_subset {names allowed : List Str} (hne : names ≠ [])
    (h : ∀ name ∈ names, name ∈ allowed) :
    ensureRelationsAreAllowlisted names allowed = .ok () := by
  have hfilter : names.filter (· ∉ allowed) = [] := by
    simpa [List.filter_eq_nil_iff] using h
  simp only [ensureRelationsAreAllowlisted, bind_eq_ok, rejectIf_eq_ok, hfilter]
  exact ⟨(), by simpa using hne, rfl⟩

/-- Promised statements are accepted, and audited with what they read, exactly when they can
be regenerated and the names of the relations they read stand apart from those of their
common table expressions. -/
theorem acceptsPromised_iff (policy : AnalyticsSqlPolicy) (sqlglot : Sqlglot)
    (hlower : LowersText sqlglot.lower) (sql : Str) (requestedRowLimit : Int)
    (allowedRelations : Option (List Str)) :
    AcceptsPromised policy sqlglot sql requestedRowLimit allowedRelations ↔
      (policy.givenRelations allowedRelations ≠ [] → ∀ expression,
        Promised sqlglot (policy.givenRelations allowedRelations) sql expression →
          (∃ text, sqlglot.generate expression = .ok text) ∧ NamesApart sqlglot expression) := by
  refine imp_congr_right fun hgiven => forall_congr' fun expression => imp_congr_right fun h => ?_
  obtain ⟨names, hextract, hnames⟩ := h.exists_names hlower
  constructor
  · rintro ⟨query, hquery, heq⟩
    obtain ⟨hr, hg⟩ := referencedRelations_of_validate hquery h.single
    obtain rfl : names = query.referencedRelations := Except.ok.inj (hextract.symm.trans hr)
    exact ⟨hg, (h.names_iff hlower hnames).mp heq⟩
  · rintro ⟨hg, hapart⟩
    have heq := (h.names_iff hlower hnames).mpr hapart
    have hallowed : ∀ name ∈ names, name ∈ policy.givenRelations allowedRelations := by
      intro name hn
      obtain ⟨r, hr, i, hi, rfl⟩ := (h.mem_relationsRead name).mp ((heq name).mp hn)
      exact h.folded_mem hr hi
    have hne : names ≠ [] := by
      obtain ⟨r, hr, i, hi, -⟩ := h.reads
      exact List.ne_nil_of_mem ((heq _).mpr ((h.mem_relationsRead _).mpr ⟨r, hr, i, hi, rfl⟩))
    have hadmitted : Admitted policy sqlglot sql allowedRelations expression := by
      refine ⟨by simpa [ensureQueryLength] using h.length, h.ensureSelectOnly,
        h.ensureBoundedSelectShape, ⟨names, hextract, ?_⟩, hg⟩
      rw [policy.effectiveRelations_of_ne_nil hgiven]
      exact ensureRelationsAreAllowlisted_of_subset hne hallowed
    obtain ⟨query, hquery⟩ := (exists_validate_iff policy sqlglot sql requestedRowLimit
      allowedRelations).mpr ⟨expression, h.single, hadmitted⟩
    obtain ⟨hr, -⟩ := referencedRelations_of_validate hquery h.single
    obtain rfl : names = query.referencedRelations := Except.ok.inj (hextract.symm.trans hr)
    exact ⟨query, hquery, heq⟩

theorem asciiLowerChar_asciiLowerChar (c : Nat) :
    asciiLowerChar (asciiLowerChar c) = asciiLowerChar c := by
  unfold asciiLowerChar
  split_ifs <;> omega

theorem lowersText_asciiLower : LowersText asciiLower where
  nil := rfl
  folded := fun s => by simp [asciiLower, Function.comp_def, asciiLowerChar_asciiLowerChar]
  idempotent := fun s => by simp [asciiLower, Function.comp_def, asciiLowerChar_asciiLowerChar]

private def viewNode : Expression :=
  .node (.table { name := some ⟨str "event_type_counts", false⟩ }) [.node .other []]

/-- `SELECT * FROM event_type_counts`. -/
def plainSelect : Str := str "SELECT * FROM event_type_counts"

/-- Its tree. -/
def plainSelectTree : Expression :=
  .node .select [.node .other [], .node .other [viewNode]]

/-- A common table expression that carries the name of the view it wraps. -/
def wrappedView : Str :=
  str "WITH event_type_counts AS (SELECT * FROM event_type_counts) SELECT * FROM event_type_counts"

/-- Its tree. -/
def wrappedViewTree : Expression :=
  .node .select
    [.node .other [], .node .other [viewNode],
      .node (.withClause false)
        [.node (.cte ⟨str "event_type_counts", false⟩)
          [plainSelectTree, .node .other [.node .other []]]]]

/-- The parser and generator on the two texts. -/
def wrappedViewSqlglot : Sqlglot where
  lower := asciiLower
  eq_nil_of_lower := eq_nil_of_asciiLower
  parse := fun sql =>
    if sql = plainSelect then .ok [some plainSelectTree]
    else if sql = wrappedView then .ok [some wrappedViewTree]
    else .error .parseError
  generate := fun _ => .ok plainSelect

/-- The plain query is accepted and audited with its view. -/
theorem acceptsPromised_plainSelect :
    AcceptsPromised {} wrappedViewSqlglot plainSelect 100 none := by
  refine (acceptsPromised_iff {} wrappedViewSqlglot lowersText_asciiLower plainSelect 100
    none).mpr ?_
  intro _ expression h
  obtain rfl : plainSelectTree = expression := Option.some.inj h.single
  refine ⟨⟨plainSelect, rfl⟩, ?_⟩
  intro r hr i hi
  have hall : ∀ r ∈ references plainSelectTree, ∀ i ∈ r.reference.name,
      asciiLower i.text ∉ cteNames wrappedViewSqlglot plainSelectTree ∧
        asciiLower i.text = i.folded := by decide
  exact hall r hr i hi.1

theorem promised_wrappedView :
    Promised wrappedViewSqlglot allowedDatasetNames wrappedView wrappedViewTree where
  length := by decide
  single := rfl
  select := rfl
  plain := by
    have h : ∀ s ∈ wrappedViewTree.walk, isPlain s.label = true := by decide
    exact fun s hs => h s ((Tree.mem_walk s _).mpr hs)
  functions := by
    have h : ∀ s ∈ wrappedViewTree.walk, functionCall s.label = none := by decide
    intro s call hs hl
    have hnone := h s ((Tree.mem_walk s _).mpr hs)
    rw [hl] at hnone
    cases hnone
  tables := by
    have h : ∀ r ∈ references wrappedViewTree, r.reference.Unqualified ∧
        ∃ i ∈ r.reference.name, i.text ≠ [] ∧
          (i.folded ∈ r.scope ∨ i.folded ∈ allowedDatasetNames) := by decide
    exact h
  reads := ⟨⟨[], { name := some ⟨str "event_type_counts", false⟩ }⟩, by decide,
    ⟨str "event_type_counts", false⟩, (ScopedTable.readsRelation_iff _ _).mpr (by decide),
    by decide⟩

/-- The view is read in the body of a common table expression of its name, and the query is
rejected for reading no relation. -/
theorem wrappedView_is_rejected :
    ¬∀ (policy : AnalyticsSqlPolicy) (sqlglot : Sqlglot), LowersText sqlglot.lower →
      (∀ expression, ∃ text, sqlglot.generate expression = .ok text) →
        ∀ (sql : Str) (requestedRowLimit : Int) (allowedRelations : Option (List Str)),
          AcceptsPromised policy sqlglot sql requestedRowLimit allowedRelations := by
  intro h
  obtain ⟨query, hquery, heq⟩ := h {} wrappedViewSqlglot lowersText_asciiLower
    (fun _ => ⟨plainSelect, rfl⟩) wrappedView 100 none (by decide) wrappedViewTree
    promised_wrappedView
  have hr := (referencedRelations_of_validate hquery rfl).1
  have hempty : [] = query.referencedRelations :=
    Except.ok.inj (Eq.trans (by decide) hr)
  have hread : str "event_type_counts" ∈ query.referencedRelations :=
    (heq _).mpr (by decide)
  rw [← hempty] at hread
  cases hread

end LiveData.Analytics

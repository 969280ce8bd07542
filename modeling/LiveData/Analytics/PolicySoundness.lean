import LiveData.Analytics.QueryPolicy
import LiveData.Core.Outcome
import LiveData.Sql.Scope

/-!
# What an accepted query reads

The flat set of names the policy excludes is compared with real scopes. An accepted
query reads allowlisted relations only, provided that no stored relation hides behind
the name of a common table expression, that the allowlist was not given as the empty
set, and that PostgreSQL folds the names as the policy lowers them.
-/

namespace LiveData.Analytics

open Sql

/-- The one statement of a text. -/
def parsedTree (sqlglot : Sqlglot) (sql : Str) : Option Expression :=
  (parseOneStatement sqlglot sql).toOption

/-- The allowlist given to `validate`, or the default when none is given. -/
def AnalyticsSqlPolicy.givenRelations (policy : AnalyticsSqlPolicy)
    (allowedRelations : Option (List Str)) : List Str :=
  allowedRelations.getD policy.allowedRelations

/-- Every stored relation the statement reads is unqualified and has its name in the list. -/
def ReadsOnly (relations : List Str) (expression : Expression) : Prop :=
  ∀ r ∈ references expression, ∀ i, r.ReadsRelation i →
    r.reference.Unqualified ∧ i.folded ∈ relations

/-- What is promised of one call of `validate`. -/
def Sound (policy : AnalyticsSqlPolicy) (sqlglot : Sqlglot) (sql : Str)
    (requestedRowLimit : Int) (allowedRelations : Option (List Str)) : Prop :=
  ∀ query expression,
    policy.validate sqlglot sql requestedRowLimit allowedRelations = .ok query →
    parsedTree sqlglot sql = some expression →
      ReadsOnly (policy.givenRelations allowedRelations) expression

/-- The checks of the policy let a statement pass. -/
structure Admitted (policy : AnalyticsSqlPolicy) (sqlglot : Sqlglot) (sql : Str)
    (allowedRelations : Option (List Str)) (expression : Expression) : Prop where
  length : ensureQueryLength sql = .ok ()
  selectOnly : ensureSelectOnly expression = .ok ()
  bounded : ensureBoundedSelectShape sqlglot expression = .ok ()
  relations : ∃ names, extractReferencedRelations sqlglot expression = .ok names ∧
    ensureRelationsAreAllowlisted names (policy.effectiveRelations allowedRelations) = .ok ()
  generated : ∃ text, sqlglot.generate expression = .ok text

/-- No stored relation is read under a name the flat exclusion hides or misreads. -/
def NamesResolve (policy : AnalyticsSqlPolicy) (sqlglot : Sqlglot)
    (allowedRelations : Option (List Str)) (expression : Expression) : Prop :=
  ∀ r ∈ references expression, ∀ i, r.ReadsRelation i →
    if sqlglot.lower i.text ∈ cteNames sqlglot expression then
      r.reference.Unqualified ∧ i.folded ∈ policy.givenRelations allowedRelations
    else
      allowedRelations ≠ some [] ∧ (i.folded = sqlglot.lower i.text ∨
        i.folded ∈ policy.givenRelations allowedRelations)

/-- A text is accepted exactly when it is one statement that passes every check. -/
theorem exists_validate_iff (policy : AnalyticsSqlPolicy) (sqlglot : Sqlglot) (sql : Str)
    (requestedRowLimit : Int) (allowedRelations : Option (List Str)) :
    (∃ query, policy.validate sqlglot sql requestedRowLimit allowedRelations = .ok query) ↔
      ∃ expression, parsedTree sqlglot sql = some expression ∧
        Admitted policy sqlglot sql allowedRelations expression := by
  simp only [AnalyticsSqlPolicy.validate, bind_eq_ok, mapError_eq_ok, pure, Except.pure]
  constructor
  · rintro ⟨query, ⟨⟩, hl, expression, hp, ⟨⟩, hs, ⟨⟩, hb, names, hr, ⟨⟩, ha, text, hg, _⟩
    exact ⟨expression, by rw [parsedTree, hp]; rfl, hl, hs, hb, ⟨names, hr, ha⟩, text, hg⟩
  · rintro ⟨expression, hp, hl, hs, hb, ⟨names, hr, ha⟩, text, hg⟩
    have hparse : parseOneStatement sqlglot sql = .ok expression := by
      unfold parsedTree at hp
      cases he : parseOneStatement sqlglot sql with
      | error e => simp [he, Except.toOption] at hp
      | ok t => simpa [he, Except.toOption] using hp
    exact ⟨_, (), hl, expression, hparse, (), hs, (), hb, names, hr, (), ha, text, hg, rfl⟩

/-- What is accepted is the regenerated text of the one statement. -/
theorem generate_of_validate {policy : AnalyticsSqlPolicy} {sqlglot : Sqlglot} {sql : Str}
    {requestedRowLimit : Int} {allowedRelations : Option (List Str)} {query : ValidatedSqlQuery}
    (h : policy.validate sqlglot sql requestedRowLimit allowedRelations = .ok query) :
    ∃ expression, sqlglot.generate expression = .ok query.sql := by
  simp only [AnalyticsSqlPolicy.validate, bind_eq_ok, mapError_eq_ok, pure, Except.pure,
    Except.ok.injEq] at h
  obtain ⟨⟨⟩, -, expression, -, ⟨⟩, -, ⟨⟩, -, _, -, ⟨⟩, -, _, hg, rfl⟩ := h
  exact ⟨expression, hg⟩

/-- One turn of the loop keeps what was collected and either skips the reference under a
flat name or collects an unqualified one. -/
theorem extractRelation_spec {sqlglot : Sqlglot} {names relations out : List Str}
    {table : TableReference} (h : extractRelation sqlglot names relations table = .ok out) :
    relations ⊆ out ∧ (sqlglot.lower table.nameText ∈ names ∨
      (table.Unqualified ∧ sqlglot.lower table.nameText ∈ out)) := by
  simp only [extractRelation] at h
  split at h
  · next hn =>
    obtain rfl := Except.ok.inj h
    exact ⟨fun _ hx => hx, Or.inl hn⟩
  split at h
  · simp at h
  split at h
  · simp at h
  · next hq =>
    rw [not_or, not_not, not_not] at hq
    obtain rfl := Except.ok.inj h
    have hu : table.Unqualified :=
      ⟨sqlglot.eq_nil_of_lower _ hq.1, sqlglot.eq_nil_of_lower _ hq.2⟩
    unfold addRelation
    split
    · next hm => exact ⟨fun _ hx => hx, Or.inr ⟨hu, hm⟩⟩
    · exact ⟨fun _ hx => List.mem_append_left _ hx, Or.inr ⟨hu, by simp⟩⟩

private theorem extractRelations_spec {sqlglot : Sqlglot} {names : List Str}
    (tables : List TableReference) {relations out : List Str}
    (h : tables.foldlM (extractRelation sqlglot names) relations = .ok out) :
    relations ⊆ out ∧ ∀ table ∈ tables, sqlglot.lower table.nameText ∈ names ∨
      (table.Unqualified ∧ sqlglot.lower table.nameText ∈ out) := by
  induction tables generalizing relations with
  | nil =>
    obtain rfl := Except.ok.inj h
    exact ⟨fun _ hx => hx, by simp⟩
  | cons table tables ih =>
    rw [List.foldlM_cons, bind_eq_ok] at h
    obtain ⟨middle, hm, hrest⟩ := h
    obtain ⟨hsub, htable⟩ := extractRelation_spec hm
    obtain ⟨hsub', htables⟩ := ih hrest
    refine ⟨fun _ hx => hsub' (hsub hx), ?_⟩
    intro t ht
    rcases List.mem_cons.mp ht with rfl | ht
    · exact htable.imp id fun hx => ⟨hx.1, hsub' hx.2⟩
    · exact htables t ht

/-- The collected names: every reference not skipped under a flat name is unqualified
and has its lower-cased name among them. -/
theorem extractReferencedRelations_spec {sqlglot : Sqlglot} {expression : Expression}
    {names : List Str} (h : extractReferencedRelations sqlglot expression = .ok names)
    {r : ScopedTable} (hr : r ∈ references expression) :
    sqlglot.lower r.reference.nameText ∈ cteNames sqlglot expression ∨
      (r.reference.Unqualified ∧ sqlglot.lower r.reference.nameText ∈ names) := by
  apply (extractRelations_spec _ h).2
  obtain ⟨s, hs, hl⟩ := subtree_of_mem_scopedTables expression [] [] r hr
  exact (Tree.mem_findAll _ _ _).mpr ⟨s, hs, by rw [hl]; rfl⟩

/-- The allowlist check passes only names of the allowlist, and at least one. -/
theorem ensureRelationsAreAllowlisted_spec {names allowed : List Str}
    (h : ensureRelationsAreAllowlisted names allowed = .ok ()) :
    names ≠ [] ∧ ∀ name ∈ names, name ∈ allowed := by
  simp only [ensureRelationsAreAllowlisted, bind_eq_ok, rejectIf_eq_ok] at h
  obtain ⟨⟨⟩, hne, hall⟩ := h
  refine ⟨by simpa using hne, fun name hn => ?_⟩
  by_contra ha
  have hm : name ∈ names.filter (· ∉ allowed) := by simp [hn, ha]
  simp only [Bool.not_eq_false', List.isEmpty_iff] at hall
  rw [hall] at hm
  exact absurd hm (by simp)

/-- An allowlist other than the explicit empty set is used as given. -/
theorem AnalyticsSqlPolicy.effectiveRelations_eq (policy : AnalyticsSqlPolicy)
    {allowedRelations : Option (List Str)} (h : allowedRelations ≠ some []) :
    policy.effectiveRelations allowedRelations = policy.givenRelations allowedRelations := by
  match allowedRelations, h with
  | none, _ => rfl
  | some (_ :: _), _ => rfl
  | some [], h => exact absurd rfl h

/-- For an admitted statement, reading only given relations is resolving every name. -/
theorem Admitted.readsOnly_iff {policy : AnalyticsSqlPolicy} {sqlglot : Sqlglot} {sql : Str}
    {allowedRelations : Option (List Str)} {expression : Expression}
    (h : Admitted policy sqlglot sql allowedRelations expression) :
    ReadsOnly (policy.givenRelations allowedRelations) expression ↔
      NamesResolve policy sqlglot allowedRelations expression := by
  obtain ⟨names, hnames, hallow⟩ := h.relations
  have hmem := (ensureRelationsAreAllowlisted_spec hallow).2
  have hnot : ∀ r ∈ references expression, ∀ i, r.ReadsRelation i →
      sqlglot.lower i.text ∉ cteNames sqlglot expression → r.reference.Unqualified ∧
        sqlglot.lower i.text ∈ policy.effectiveRelations allowedRelations := by
    intro r hr i hi hn
    have hname : r.reference.nameText = i.text := by rw [TableReference.nameText, hi.1]
    rcases extractReferencedRelations_spec hnames hr with hc | ⟨hu, hin⟩
    · exact absurd (hname ▸ hc) hn
    · exact ⟨hu, hmem _ (hname ▸ hin)⟩
  constructor
  · intro hreads r hr i hi
    obtain ⟨hu, hf⟩ := hreads r hr i hi
    split
    · exact ⟨hu, hf⟩
    · refine ⟨?_, Or.inr hf⟩
      rintro rfl
      simp [AnalyticsSqlPolicy.givenRelations] at hf
  · intro hresolve r hr i hi
    have hc := hresolve r hr i hi
    split at hc
    · exact hc
    · next hn =>
      obtain ⟨hu, hin⟩ := hnot r hr i hi hn
      obtain ⟨hne, hf | hf⟩ := hc
      · rw [policy.effectiveRelations_eq hne] at hin
        exact ⟨hu, hf ▸ hin⟩
      · exact ⟨hu, hf⟩

/-- Validation is sound on exactly the inputs whose statement, once admitted, reads no
stored relation under a hidden or misread name. -/
theorem sound_iff (policy : AnalyticsSqlPolicy) (sqlglot : Sqlglot) (sql : Str)
    (requestedRowLimit : Int) (allowedRelations : Option (List Str)) :
    Sound policy sqlglot sql requestedRowLimit allowedRelations ↔
      ∀ expression, parsedTree sqlglot sql = some expression →
        Admitted policy sqlglot sql allowedRelations expression →
          NamesResolve policy sqlglot allowedRelations expression := by
  constructor
  · intro h expression hp ha
    obtain ⟨query, hq⟩ := (exists_validate_iff policy sqlglot sql requestedRowLimit
      allowedRelations).mpr ⟨expression, hp, ha⟩
    exact ha.readsOnly_iff.mp (h query expression hq hp)
  · intro h query expression hq hp
    obtain ⟨other, ho, ha⟩ := (exists_validate_iff policy sqlglot sql requestedRowLimit
      allowedRelations).mp ⟨query, hq⟩
    obtain rfl : other = expression := Option.some.inj (ho.symm.trans hp)
    exact ha.readsOnly_iff.mpr (h other hp ha)

/-- `WITH events AS (SELECT * FROM events) SELECT * FROM events, event_type_counts`. -/
def selfNamedCte : Str :=
  str "WITH events AS (SELECT * FROM events) SELECT * FROM events, event_type_counts"

private def tableNode (name : String) : Expression :=
  .node (.table { name := some ⟨str name, false⟩ }) [.node .other []]

/-- Its tree: the body of the common table expression reads the stored table. -/
def selfNamedCteTree : Expression :=
  .node .select
    [.node .other [], .node .other [tableNode "events"],
      .node .other [tableNode "event_type_counts"],
      .node (.withClause false)
        [.node (.cte ⟨str "events", false⟩)
          [.node .select [.node .other [], .node .other [tableNode "events"]],
            .node .other [.node .other []]]]]

/-- The parser and generator on that text. -/
def selfNamedSqlglot : Sqlglot where
  lower := asciiLower
  eq_nil_of_lower := eq_nil_of_asciiLower
  parse := fun sql => if sql = selfNamedCte then .ok [some selfNamedCteTree] else .error .parseError
  generate := fun _ => .ok selfNamedCte

/-- The raw events table leaks through a common table expression of its name. -/
theorem selfNamedCte_reads_events :
    ¬∀ (policy : AnalyticsSqlPolicy) (sqlglot : Sqlglot) (sql : Str) (requestedRowLimit : Int)
      (allowedRelations : Option (List Str)),
        Sound policy sqlglot sql requestedRowLimit allowedRelations := by
  intro h
  have hr := h {} selfNamedSqlglot selfNamedCte 100 none _ selfNamedCteTree rfl rfl
    ⟨[], { name := some ⟨str "events", false⟩ }⟩ (by decide) ⟨str "events", false⟩
    ((ScopedTable.readsRelation_iff _ _).mpr (by decide))
  exact absurd hr.2 (by decide)

end LiveData.Analytics

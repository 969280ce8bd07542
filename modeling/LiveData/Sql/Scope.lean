import LiveData.Sql.Syntax

/-!
# Scopes of common table expressions

Every table reference of a tree is paired with the names of the common table
expressions visible at it. The query that carries a WITH clause and its subqueries see
all names of the clause; a body sees the earlier names of its list, and all of them,
its own included, when the clause is recursive.
-/

namespace LiveData.Sql

/-- The name a node declares inside a WITH clause. -/
def cteName : Expression → List Str
  | .node (.cte i) _ => [i.folded]
  | _ => []

/-- All names a WITH clause declares, in order. -/
def declaredNames (ctes : List Expression) : List Str := ctes.flatMap cteName

/-- The names declared by the WITH clauses among the children of a query. -/
def carriedNames (children : List Expression) : List Str :=
  children.flatMap fun
    | .node (.withClause _) ctes => declaredNames ctes
    | _ => []

/-- A table reference with the names visible at it. -/
structure ScopedTable where
  scope : List Str
  reference : TableReference
  deriving DecidableEq, Repr

/-- The reference at a node, if it is one. -/
def tableAt (scope : List Str) : Node → List ScopedTable
  | .table r => [⟨scope, r⟩]
  | _ => []

mutual

/-- References below a child, visited with the scope around its query and the scope
inside it. Only a WITH clause is visited with the former. -/
def scopedTables (outer inner : List Str) : Expression → List ScopedTable
  | .node a cs =>
    match a with
    | .withClause recursive =>
      scopedCtes recursive (if recursive then declaredNames cs ++ outer else outer) cs
    | a => tableAt inner a ++ scopedChildren inner (carriedNames cs ++ inner) cs

/-- References below each child in turn. -/
def scopedChildren (outer inner : List Str) : List Expression → List ScopedTable
  | [] => []
  | c :: cs => scopedTables outer inner c ++ scopedChildren outer inner cs

/-- References in the bodies of a WITH list; a plain list extends the scope as it goes. -/
def scopedCtes (recursive : Bool) (scope : List Str) : List Expression → List ScopedTable
  | [] => []
  | c :: cs =>
    scopedTables scope scope c ++
      scopedCtes recursive (if recursive then scope else cteName c ++ scope) cs

end

/-- Every table reference of a statement with the names visible at it. -/
def references (t : Expression) : List ScopedTable := scopedTables [] [] t

/-- The reference denotes a common table expression: it is unqualified and in scope. -/
def ScopedTable.DenotesCte (r : ScopedTable) : Prop :=
  r.reference.Unqualified ∧ ∃ i ∈ r.reference.name, i.folded ∈ r.scope

instance (r : ScopedTable) : Decidable r.DenotesCte :=
  inferInstanceAs (Decidable (_ ∧ ∃ i ∈ r.reference.name, _))

/-- The name of the stored relation a reference reads; relations outside the public schema
keep their qualifier. -/
def ScopedTable.relationRead (r : ScopedTable) : Option Str :=
  if r.DenotesCte then none
  else
    r.reference.name.map fun i =>
      let schema := asciiLower r.reference.db
      if schema = [] ∨ schema = str "public" then i.folded else schema ++ 46 :: i.folded

/-- The stored relations a statement reads. -/
def relationsRead (t : Expression) : List Str :=
  (references t).filterMap ScopedTable.relationRead

/-- The reference denotes the stored relation `i`. -/
def ScopedTable.ReadsRelation (r : ScopedTable) (i : Identifier) : Prop :=
  r.reference.name = some i ∧ ¬r.DenotesCte

/-- A reference reads a relation exactly when it is named and does not denote a common
table expression. -/
theorem ScopedTable.readsRelation_iff (r : ScopedTable) (i : Identifier) :
    r.ReadsRelation i ↔
      r.reference.name = some i ∧ ¬(r.reference.Unqualified ∧ i.folded ∈ r.scope) := by
  unfold ScopedTable.ReadsRelation ScopedTable.DenotesCte
  constructor
  · rintro ⟨hn, hd⟩
    exact ⟨hn, fun h => hd ⟨h.1, i, hn, h.2⟩⟩
  · rintro ⟨hn, hd⟩
    refine ⟨hn, ?_⟩
    rintro ⟨hu, j, hj, hs⟩
    have he : i = j := Option.some.inj (hn.symm.trans hj)
    exact hd ⟨hu, he ▸ hs⟩

private theorem mem_scopedChildren (outer inner : List Str) (cs : List Expression)
    (r : ScopedTable) : r ∈ scopedChildren outer inner cs ↔
      ∃ c ∈ cs, r ∈ scopedTables outer inner c := by
  induction cs with
  | nil => simp [scopedChildren]
  | cons c cs ih => simp [scopedChildren, ih]

private theorem mem_scopedCtes_of (recursive : Bool) (cs : List Expression)
    (scope : List Str) (r : ScopedTable) (h : r ∈ scopedCtes recursive scope cs) :
    ∃ c ∈ cs, ∃ visible, r ∈ scopedTables visible visible c ∧
      ∀ name ∈ visible, name ∈ scope ∨ name ∈ declaredNames cs := by
  induction cs generalizing scope with
  | nil => simp [scopedCtes] at h
  | cons c cs ih =>
    rw [scopedCtes, List.mem_append] at h
    rcases h with h | h
    · exact ⟨c, by simp, scope, h, fun _ hn => Or.inl hn⟩
    · obtain ⟨d, hd, visible, hv, hnames⟩ := ih _ h
      refine ⟨d, by simp [hd], visible, hv, fun name hn => ?_⟩
      rcases hnames name hn with hs | hs
      · cases recursive with
        | true => exact Or.inl hs
        | false =>
          rcases List.mem_append.mp hs with hc | hs
          · exact Or.inr (List.mem_append_left _ hc)
          · exact Or.inl hs
      · exact Or.inr (List.mem_append_right _ hs)

private theorem mem_scopedCtes_mk (recursive : Bool) (cs : List Expression)
    (scope : List Str) {c : Expression} (hc : c ∈ cs) :
    ∃ visible, ∀ r ∈ scopedTables visible visible c, r ∈ scopedCtes recursive scope cs := by
  induction cs generalizing scope with
  | nil => simp at hc
  | cons d cs ih =>
    rcases List.mem_cons.mp hc with rfl | hc
    · exact ⟨scope, fun r hr => by simp [scopedCtes, hr]⟩
    · obtain ⟨visible, hv⟩ := ih (if recursive then scope else cteName d ++ scope) hc
      exact ⟨visible, fun r hr => by simp [scopedCtes, hv r hr]⟩

/-- A scoped reference is a table node of the tree. -/
theorem subtree_of_mem_scopedTables (t : Expression) : ∀ (outer inner : List Str)
    (r : ScopedTable), r ∈ scopedTables outer inner t →
      ∃ s, Tree.Subtree s t ∧ s.label = .table r.reference := by
  induction t using Tree.ind with
  | node a cs ih =>
    intro outer inner r hr
    have below : ∀ outer inner c, c ∈ cs → r ∈ scopedTables outer inner c →
        ∃ s, Tree.Subtree s (.node a cs) ∧ s.label = .table r.reference := by
      intro outer inner c hc hm
      obtain ⟨s, hs, hl⟩ := ih c hc outer inner r hm
      exact ⟨s, .child hc hs, hl⟩
    have other : r ∈ tableAt inner a ++ scopedChildren inner (carriedNames cs ++ inner) cs →
        ∃ s, Tree.Subtree s (.node a cs) ∧ s.label = .table r.reference := by
      intro h
      rcases List.mem_append.mp h with h | h
      · cases a with
        | table q =>
          simp only [tableAt, List.mem_singleton] at h
          exact ⟨_, .refl _, by rw [h]; rfl⟩
        | _ => simp [tableAt] at h
      · obtain ⟨c, hc, hm⟩ := (mem_scopedChildren _ _ _ _).mp h
        exact below _ _ c hc hm
    cases a with
    | withClause recursive =>
      obtain ⟨c, hc, visible, hm, -⟩ := mem_scopedCtes_of _ _ _ _ hr
      exact below _ _ c hc hm
    | _ => exact other hr

/-- Every table node of the tree is visited with some scope. -/
theorem mem_scopedTables_of_subtree (t : Expression) : ∀ (outer inner : List Str)
    (s : Expression) (r : TableReference), Tree.Subtree s t → s.label = .table r →
      ∃ scope, ⟨scope, r⟩ ∈ scopedTables outer inner t := by
  induction t using Tree.ind with
  | node a cs ih =>
    intro outer inner s r hs hl
    have below : ∀ outer inner c, c ∈ cs → Tree.Subtree s c →
        ∃ scope, ⟨scope, r⟩ ∈ scopedTables outer inner c :=
      fun outer inner c hc hsc => ih c hc outer inner s r hsc hl
    have other : s.label = .table r → Tree.Subtree s (.node a cs) →
        ∃ scope, ⟨scope, r⟩ ∈
          tableAt inner a ++ scopedChildren inner (carriedNames cs ++ inner) cs := by
      intro hl hs
      rcases (Tree.subtree_iff _ _).mp hs with rfl | ⟨c, hc, hsc⟩
      · rw [Tree.label_node] at hl
        subst hl
        exact ⟨inner, by simp [tableAt]⟩
      · obtain ⟨scope, hm⟩ := below inner (carriedNames cs ++ inner) c hc hsc
        exact ⟨scope, List.mem_append_right _ ((mem_scopedChildren _ _ _ _).mpr ⟨c, hc, hm⟩)⟩
    cases a with
    | withClause recursive =>
      rcases (Tree.subtree_iff _ _).mp hs with rfl | ⟨c, hc, hsc⟩
      · simp at hl
      · obtain ⟨visible, hv⟩ := mem_scopedCtes_mk recursive cs
          (if recursive then declaredNames cs ++ outer else outer) hc
        obtain ⟨scope, hm⟩ := below visible visible c hc hsc
        exact ⟨scope, hv _ hm⟩
    | _ => exact other hl hs

/-- Some common table expression of the tree has the name. -/
def DeclaresName (t : Expression) (name : Str) : Prop :=
  ∃ s i, Tree.Subtree s t ∧ s.label = .cte i ∧ i.folded = name

theorem DeclaresName.of_child {a : Node} {c : Expression} {cs : List Expression} {name : Str}
    (hc : c ∈ cs) (h : DeclaresName c name) : DeclaresName (.node a cs) name := by
  obtain ⟨s, i, hs, hl, hn⟩ := h
  exact ⟨s, i, .child hc hs, hl, hn⟩

private theorem declares_of_mem_declaredNames {a : Node} {cs : List Expression} {name : Str}
    (h : name ∈ declaredNames cs) : DeclaresName (.node a cs) name := by
  obtain ⟨c, hc, hn⟩ := List.mem_flatMap.mp h
  refine DeclaresName.of_child hc ?_
  obtain ⟨b, ds⟩ := c
  cases b with
  | cte i => exact ⟨_, i, .refl _, rfl, (List.mem_singleton.mp hn).symm⟩
  | _ => simp [cteName] at hn

private theorem declares_of_mem_carriedNames {a : Node} {cs : List Expression} {name : Str}
    (h : name ∈ carriedNames cs) : DeclaresName (.node a cs) name := by
  obtain ⟨c, hc, hn⟩ := List.mem_flatMap.mp h
  refine DeclaresName.of_child hc ?_
  obtain ⟨b, ds⟩ := c
  cases b with
  | withClause recursive => exact declares_of_mem_declaredNames hn
  | _ => simp at hn

/-- What a reference sees is visible around the tree or declared inside it. -/
theorem declares_of_mem_scope (t : Expression) : ∀ (outer inner : List Str) (r : ScopedTable),
    r ∈ scopedTables outer inner t → ∀ name ∈ r.scope,
      name ∈ outer ∨ name ∈ inner ∨ DeclaresName t name := by
  induction t using Tree.ind with
  | node a cs ih =>
    intro outer inner r hr name hn
    have other : r ∈ tableAt inner a ++ scopedChildren inner (carriedNames cs ++ inner) cs →
        name ∈ outer ∨ name ∈ inner ∨ DeclaresName (.node a cs) name := by
      intro h
      rcases List.mem_append.mp h with h | h
      · cases a with
        | table q =>
          obtain rfl := List.mem_singleton.mp h
          exact Or.inr (Or.inl hn)
        | _ => simp [tableAt] at h
      · obtain ⟨c, hc, hm⟩ := (mem_scopedChildren _ _ _ _).mp h
        rcases ih c hc _ _ r hm name hn with hi | hi | hd
        · exact Or.inr (Or.inl hi)
        · rcases List.mem_append.mp hi with hi | hi
          · exact Or.inr (Or.inr (declares_of_mem_carriedNames hi))
          · exact Or.inr (Or.inl hi)
        · exact Or.inr (Or.inr (hd.of_child hc))
    cases a with
    | withClause recursive =>
      obtain ⟨c, hc, visible, hm, hvisible⟩ := mem_scopedCtes_of _ _ _ _ hr
      have hv : name ∈ visible → name ∈ outer ∨ name ∈ inner ∨
          DeclaresName (.node (.withClause recursive) cs) name := by
        intro hv
        rcases hvisible name hv with hs | hd
        · cases recursive with
          | false => exact Or.inl hs
          | true =>
            rcases List.mem_append.mp hs with hd | ho
            · exact Or.inr (Or.inr (declares_of_mem_declaredNames hd))
            · exact Or.inl ho
        · exact Or.inr (Or.inr (declares_of_mem_declaredNames hd))
      rcases ih c hc _ _ r hm name hn with h | h | h
      · exact hv h
      · exact hv h
      · exact Or.inr (Or.inr (h.of_child hc))
    | _ => exact other hr

/-- What a reference of a statement sees is declared in the statement. -/
theorem declares_of_mem_references {t : Expression} {r : ScopedTable} (hr : r ∈ references t)
    {name : Str} (hn : name ∈ r.scope) : DeclaresName t name := by
  simpa using declares_of_mem_scope t [] [] r hr name hn

end LiveData.Sql

import Mathlib.Logic.Relation

/-!
# Directed graphs whose nodes are redefined

A node may get new outgoing edges or be removed. Redefining a node keeps a graph acyclic
exactly when no new target reaches the node, and what could be expanded down to leaves
can still be expanded.
-/

namespace LiveData.Rewiring

open Relation

variable {α : Type*}

/-- No path of at least one edge returns to its start. -/
def Acyclic (edge : α → α → Prop) : Prop := ∀ a, ¬TransGen edge a a

/-- The graph in which `v` has the given targets instead of its old ones. -/
def redirect (edge : α → α → Prop) (v : α) (targets : α → Prop) (a b : α) : Prop :=
  (a = v ∧ targets b) ∨ (a ≠ v ∧ edge a b)

variable {edge : α → α → Prop} {v : α} {targets : α → Prop}

theorem redirect_self {b : α} : redirect edge v targets v b ↔ targets b := by simp [redirect]

theorem redirect_of_ne {a b : α} (h : a ≠ v) : redirect edge v targets a b ↔ edge a b := by
  simp [redirect, h]

/-- A graph with fewer edges stays acyclic. -/
theorem Acyclic.mono (h : Acyclic edge) {edge' : α → α → Prop}
    (hsub : ∀ a b, edge' a b → edge a b) : Acyclic edge' :=
  fun a ha => h a (TransGen.mono hsub _ _ ha)

/-- The redefined node is reached from the same nodes: a path to it needs none of its
own edges. -/
theorem reaches_redirect_iff {a : α} :
    ReflTransGen (redirect edge v targets) a v ↔ ReflTransGen edge a v := by
  constructor
  · intro h
    induction h using ReflTransGen.head_induction_on with
    | refl => exact .refl
    | head hab _ ih =>
      rcases hab with ⟨rfl, -⟩ | ⟨-, hab⟩
      · exact .refl
      · exact .head hab ih
  · intro h
    induction h using ReflTransGen.head_induction_on with
    | refl => exact .refl
    | @head a b hab _ ih =>
      by_cases ha : a = v
      · subst ha
        exact .refl
      · exact .head ((redirect_of_ne ha).mpr hab) ih

/-- A path of the redefined graph is an old one, or it goes through the redefined node. -/
theorem path_or_through {a b : α} (h : TransGen (redirect edge v targets) a b) :
    TransGen edge a b ∨ ReflTransGen (redirect edge v targets) a v ∧
      ∃ c, targets c ∧ ReflTransGen (redirect edge v targets) c b := by
  induction h with
  | single hab =>
    rcases hab with ⟨rfl, hb⟩ | ⟨-, hab⟩
    · exact Or.inr ⟨.refl, _, hb, .refl⟩
    · exact Or.inl (.single hab)
  | tail hpath hbc ih =>
    rcases ih with hold | ⟨hv, c, hc, hcb⟩
    · rcases hbc with ⟨rfl, hb⟩ | ⟨-, hold'⟩
      · exact Or.inr ⟨hpath.to_reflTransGen, _, hb, .refl⟩
      · exact Or.inl (hold.tail hold')
    · exact Or.inr ⟨hv, c, hc, hcb.tail hbc⟩

/-- Redefining a node keeps the graph acyclic exactly when no new target reaches it. -/
theorem acyclic_redirect_iff (h : Acyclic edge) :
    Acyclic (redirect edge v targets) ↔ ∀ b, targets b → ¬ReflTransGen edge b v := by
  constructor
  · intro hacyclic b hb hreach
    exact hacyclic v (.head' (redirect_self.mpr hb) (reaches_redirect_iff.mpr hreach))
  · intro htargets a ha
    rcases path_or_through ha with hold | ⟨hav, c, hc, hca⟩
    · exact h a hold
    · exact htargets c hc (reaches_redirect_iff.mp (hca.trans hav))

/-- A node that is a leaf, or an inner node all of whose edges lead to such nodes. -/
inductive Expands (inner leaf : α → Prop) (edge : α → α → Prop) : α → Prop
  | leaf {a : α} (h : leaf a) : Expands inner leaf edge a
  | node {a : α} (h : inner a) (hs : ∀ b, edge a b → Expands inner leaf edge b) :
      Expands inner leaf edge a

variable {inner inner' leaf : α → Prop}

/-- What does not reach the redefined node is expanded as before. -/
theorem Expands.redirect_of_not_reaches (hinner : ∀ a, inner a → inner' a) {a : α}
    (h : Expands inner leaf edge a) (hr : ¬ReflTransGen edge a v) :
    Expands inner' leaf (redirect edge v targets) a := by
  induction h with
  | leaf h => exact .leaf h
  | @node a h hs ih =>
    have ha : a ≠ v := by
      rintro rfl
      exact hr .refl
    apply Expands.node (hinner a h)
    intro b hb
    have hab := (redirect_of_ne ha).mp hb
    exact ih b hab fun hbv => hr (.head hab hbv)

/-- With new targets that expand without the redefined node, every node still expands. -/
theorem Expands.redirect (hinner : ∀ a, inner a → inner' a) (hv : inner' v)
    (htargets : ∀ b, targets b → Expands inner leaf edge b ∧ ¬ReflTransGen edge b v) {a : α}
    (h : Expands inner leaf edge a) : Expands inner' leaf (redirect edge v targets) a := by
  induction h with
  | leaf h => exact .leaf h
  | @node a h hs ih =>
    by_cases ha : a = v
    · subst ha
      apply Expands.node hv
      intro b hb
      obtain ⟨hexpands, hreach⟩ := htargets b (redirect_self.mp hb)
      exact hexpands.redirect_of_not_reaches hinner hreach
    · exact .node (hinner a h) fun b hb => ih b ((redirect_of_ne ha).mp hb)

/-- The redefined node expands itself. -/
theorem expands_redirect_self (hinner : ∀ a, inner a → inner' a) (hv : inner' v)
    (htargets : ∀ b, targets b → Expands inner leaf edge b ∧ ¬ReflTransGen edge b v) :
    Expands inner' leaf (redirect edge v targets) v :=
  .node hv fun b hb =>
    (htargets b (redirect_self.mp hb)).1.redirect hinner hv htargets

/-- Removing a node to which no other inner node has an edge leaves the others expandable. -/
theorem Expands.remove {edge' : α → α → Prop} (hinner : ∀ a, inner a → a ≠ v → inner' a)
    (hedge : ∀ a b, a ≠ v → edge' a b → edge a b) (hno : ∀ a, inner a → a ≠ v → ¬edge a v) {a : α}
    (h : Expands inner leaf edge a) (ha : a ≠ v) : Expands inner' leaf edge' a := by
  induction h with
  | leaf h => exact .leaf h
  | @node a h hs ih =>
    apply Expands.node (hinner a h ha)
    intro b hb
    have hab := hedge a b ha hb
    apply ih b hab
    rintro rfl
    exact hno a h ha hab

end LiveData.Rewiring

import Mathlib.Data.List.Basic

/-!
# Labelled rose trees and their breadth-first walk

A syntax tree is a label with the list of its children. The walk keeps a queue, yields
its front and appends that node's children; it visits every subtree and nothing else.
-/

namespace LiveData

/-- A label and the subtrees below it. -/
inductive Tree (α : Type*) where
  | node (label : α) (children : List (Tree α))

namespace Tree

variable {α : Type*}

/-- The label at the root. -/
def label : Tree α → α
  | node a _ => a

/-- The subtrees directly below the root. -/
def children : Tree α → List (Tree α)
  | node _ cs => cs

@[simp] theorem label_node (a : α) (cs : List (Tree α)) : (node a cs).label = a := rfl

/-- Induction with a hypothesis for each child. -/
@[elab_as_elim]
theorem ind {motive : Tree α → Prop}
    (node : ∀ a cs, (∀ c ∈ cs, motive c) → motive (.node a cs)) : ∀ t, motive t
  | .node a cs => node a cs fun c _hc => ind node c
decreasing_by
  have h := List.sizeOf_lt_of_mem _hc
  simp only [Tree.node.sizeOf_spec]
  omega

mutual

/-- The number of nodes. -/
def size : Tree α → Nat
  | node _ cs => 1 + sizeList cs

/-- The number of nodes of a forest. -/
def sizeList : List (Tree α) → Nat
  | [] => 0
  | c :: cs => c.size + sizeList cs

end

@[simp] theorem sizeList_nil : sizeList ([] : List (Tree α)) = 0 := rfl
@[simp] theorem sizeList_cons (c : Tree α) (cs : List (Tree α)) :
    sizeList (c :: cs) = c.size + sizeList cs := rfl

theorem size_eq (t : Tree α) : t.size = 1 + sizeList t.children := by
  cases t
  rfl

theorem sizeList_append (cs ds : List (Tree α)) :
    sizeList (cs ++ ds) = sizeList cs + sizeList ds := by
  induction cs with
  | nil => simp
  | cons c cs ih => simp only [List.cons_append, sizeList_cons, ih]; omega

/-- A subtree of a tree: the tree itself or a subtree of a child. -/
inductive Subtree : Tree α → Tree α → Prop
  | refl (t : Tree α) : Subtree t t
  | child {s c : Tree α} {a : α} {cs : List (Tree α)} : c ∈ cs → Subtree s c →
      Subtree s (node a cs)

theorem subtree_iff (s t : Tree α) : Subtree s t ↔ s = t ∨ ∃ c ∈ t.children, Subtree s c := by
  constructor
  · rintro (_ | ⟨hc, hs⟩)
    · exact Or.inl rfl
    · exact Or.inr ⟨_, hc, hs⟩
  · rintro (rfl | ⟨c, hc, hs⟩)
    · exact .refl s
    · cases t
      exact .child hc hs

/-- The breadth-first queue: yield the front, append its children. -/
def walkQueue : Nat → List (Tree α) → List (Tree α)
  | 0, _ => []
  | _ + 1, [] => []
  | n + 1, t :: queue => t :: walkQueue n (queue ++ t.children)

/-- Every node in breadth-first order, the root included. -/
def walk (t : Tree α) : List (Tree α) := walkQueue t.size [t]

/-- A queue with enough steps left yields exactly the subtrees of its trees. -/
theorem mem_walkQueue {n : Nat} {queue : List (Tree α)} (hn : sizeList queue ≤ n) (s : Tree α) :
    s ∈ walkQueue n queue ↔ ∃ t ∈ queue, Subtree s t := by
  induction n generalizing queue with
  | zero =>
    cases queue with
    | nil => simp [walkQueue]
    | cons t queue =>
      have h := t.size_eq
      simp only [sizeList_cons] at hn
      omega
  | succ n ih =>
    cases queue with
    | nil => simp [walkQueue]
    | cons t queue =>
      have hq : sizeList (queue ++ t.children) ≤ n := by
        have h := t.size_eq
        rw [sizeList_append]
        simp only [sizeList_cons] at hn
        omega
      simp only [walkQueue, List.mem_cons, ih hq, List.mem_append, or_and_right, exists_or,
        exists_eq_left, subtree_iff s t, or_assoc]
      exact or_congr_right or_comm

/-- The walk visits exactly the subtrees. -/
theorem mem_walk (s t : Tree α) : s ∈ t.walk ↔ Subtree s t := by
  have h : sizeList [t] ≤ t.size := by simp
  rw [walk, mem_walkQueue h]
  simp

/-- The nodes a query selects, in the order of the walk. -/
def findAll {β : Type*} (select : α → Option β) (t : Tree α) : List β :=
  t.walk.filterMap fun s => select s.label

/-- A query finds what it selects at some subtree. -/
theorem mem_findAll {β : Type*} (select : α → Option β) (t : Tree α) (b : β) :
    b ∈ t.findAll select ↔ ∃ s, Subtree s t ∧ select s.label = some b := by
  simp only [findAll, List.mem_filterMap, mem_walk]

end Tree

end LiveData

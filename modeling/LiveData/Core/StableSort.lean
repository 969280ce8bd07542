import Mathlib.Order.Basic
import Mathlib.Data.List.Basic
import Mathlib.Data.List.Sort

/-!
# Stable descending sorts

A stable sort by a value puts larger values first and leaves the items of one value in the
order in which they stood. Merge sort gives such a list.
-/

namespace LiveData.StableSort

variable {α β : Type*} [LinearOrder β] {value : α → β} {items sorted : List α}

/-- The lists hold the same items of every value in the same order. -/
def SameTies (value : α → β) (first second : List α) : Prop :=
  ∀ v, (first.filter fun item => value item = v) = second.filter fun item => value item = v

/-- The list is the items in stable descending order. -/
structure StableDescending (value : α → β) (items sorted : List α) : Prop where
  perm : sorted.Perm items
  ordered : sorted.Pairwise fun first second => value second ≤ value first
  ties : SameTies value sorted items

/-- The first of two items stays ahead of the second when its value is no smaller. -/
def notBehind (value : α → β) (first second : α) : Bool := value second ≤ value first

theorem notBehind_trans (a b c : α) :
    notBehind value a b = true → notBehind value b c = true → notBehind value a c = true := by
  simp only [notBehind, decide_eq_true_eq]
  exact fun hab hbc => hbc.trans hab

theorem notBehind_total (a b : α) : (notBehind value a b || notBehind value b a) = true := by
  simp only [notBehind, Bool.or_eq_true, decide_eq_true_eq]
  exact le_total _ _

/-- Merge sort is a stable sort. -/
theorem stableDescending_mergeSort (value : α → β) (items : List α) :
    StableDescending value items (items.mergeSort (notBehind value)) where
  perm := List.mergeSort_perm _ _
  ordered :=
    (List.pairwise_mergeSort notBehind_trans notBehind_total items).imp fun h => by
      simpa [notBehind] using h
  ties := by
    intro v
    have hties : (items.filter fun item => value item = v).Pairwise
        (fun first second => notBehind value first second = true) := by
      refine List.pairwise_of_forall_mem_list fun first hfirst second hsecond => ?_
      have hsame : value first = value second := by
        simp only [List.mem_filter, decide_eq_true_eq] at hfirst hsecond
        exact hfirst.2.trans hsecond.2.symm
      simp [notBehind, hsame]
    have hsublist := List.sublist_mergeSort notBehind_trans notBehind_total hties
      List.filter_sublist
    have hkept := hsublist.filter fun item => decide (value item = v)
    rw [List.filter_filter] at hkept
    simp only [Bool.and_self] at hkept
    have hlength := ((List.mergeSort_perm items (notBehind value)).filter
      fun item => decide (value item = v)).length_eq
    exact (hkept.eq_of_length hlength.symm).symm

/-- What is cut off a descending list is no larger than what stays. -/
theorem StableDescending.le_of_mem_drop (h : StableDescending value items sorted) (n : Nat)
    {first second : α} (hfirst : first ∈ sorted.take n) (hsecond : second ∈ sorted.drop n) :
    value second ≤ value first := by
  have hordered := h.ordered
  rw [← List.take_append_drop n sorted] at hordered
  exact (List.pairwise_append.mp hordered).2.2 first hfirst second hsecond

end LiveData.StableSort

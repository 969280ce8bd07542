import Mathlib.Algebra.BigOperators.Group.List.Lemmas
import Mathlib.Algebra.GroupWithZero.Nat
import Mathlib.Data.List.Dedup

/-!
# Grouping, counting and outer joins

A grouping lists the keys that occur with the rows of each. Counts over the groups add up
to the count over the rows, and a left join against distinct rows counts for each of them
the rows that match it.
-/

namespace LiveData.Aggregate

variable {α β κ : Type*} [DecidableEq κ]

/-- `GROUP BY`: every key that occurs, with its rows. -/
def groupBy (key : α → κ) (rows : List α) : List (κ × List α) :=
  (rows.map key).dedup.map fun k => (k, rows.filter fun row => key row = k)

/-- `LEFT JOIN`: every left row with each match, or once without. -/
def leftJoin (left : List α) (right : List β) (on : α → β → Bool) : List (α × Option β) :=
  left.flatMap fun a =>
    if right.filter (on a) = [] then [(a, none)] else (right.filter (on a)).map fun b => (a, some b)

@[simp] theorem map_fst_groupBy (key : α → κ) (rows : List α) :
    (groupBy key rows).map Prod.fst = (rows.map key).dedup := by
  simp [groupBy, Function.comp_def]

/-- No key is listed twice. -/
theorem nodup_groupBy (key : α → κ) (rows : List α) :
    ((groupBy key rows).map Prod.fst).Nodup := by
  rw [map_fst_groupBy]
  exact List.nodup_dedup _

/-- The rows of a listed group are the rows with its key. -/
theorem mem_groupBy {key : α → κ} {rows : List α} {group : κ × List α} :
    group ∈ groupBy key rows ↔
      group.1 ∈ rows.map key ∧ group.2 = rows.filter fun row => key row = group.1 := by
  obtain ⟨k, g⟩ := group
  simp only [groupBy, List.mem_map, List.mem_dedup, Prod.mk.injEq]
  constructor
  · rintro ⟨l, hl, rfl, rfl⟩
    exact ⟨hl, rfl⟩
  · rintro ⟨hl, hg⟩
    exact ⟨k, hl, rfl, hg.symm⟩

/-- Exactly one of distinct keys is the given one. -/
theorem sum_indicator {ks : List κ} (hn : ks.Nodup) {k : κ} (hk : k ∈ ks) (c : Nat) :
    (ks.map fun l => if k = l then c else 0).sum = c := by
  induction ks with
  | nil => simp at hk
  | cons l ks ih =>
    obtain ⟨hl, hn⟩ := List.nodup_cons.mp hn
    rw [List.map_cons, List.sum_cons]
    rcases List.mem_cons.mp hk with rfl | hk
    · have hzero : (ks.map fun l => if k = l then c else 0).sum = 0 := by
        apply List.sum_eq_zero
        intro x hx
        obtain ⟨l, hm, rfl⟩ := List.mem_map.mp hx
        have hne : k ≠ l := fun he => hl (he ▸ hm)
        exact if_neg hne
      rw [hzero, if_pos rfl, Nat.add_zero]
    · have hne : k ≠ l := fun he => hl (he ▸ hk)
      rw [if_neg hne, ih hn hk, Nat.zero_add]

/-- Counting key by key over distinct keys counts every row whose key is among them once. -/
theorem sum_countP_key (key : α → κ) (q : α → Bool) {ks : List κ} (hn : ks.Nodup)
    {rows : List α} (h : ∀ row ∈ rows, q row = true → key row ∈ ks) :
    (ks.map fun k => rows.countP fun row => decide (key row = k) && q row).sum = rows.countP q := by
  induction rows with
  | nil => simp
  | cons row rows ih =>
    have hrest := ih fun r hr => h r (List.mem_cons_of_mem row hr)
    simp only [List.countP_cons, List.sum_map_add, hrest]
    congr 1
    by_cases hq : q row = true
    · simpa [hq] using sum_indicator hn (h row (by simp) hq) 1
    · simp [hq]

/-- Counts of a property over the groups whose key satisfies `p` add up to the count over
the rows whose key does. -/
theorem sum_countP_groupBy (key : α → κ) (p : κ → Bool) (q : α → Bool) (rows : List α) :
    (((groupBy key rows).filter fun group => p group.1).map fun group => group.2.countP q).sum =
      rows.countP fun row => p (key row) && q row := by
  have hfilter : ((groupBy key rows).filter fun group => p group.1).map
      (fun group => group.2.countP q) =
      ((rows.map key).dedup.filter p).map fun k =>
        rows.countP fun row => decide (key row = k) && (p (key row) && q row) := by
    rw [groupBy, List.filter_map, List.map_map]
    apply List.map_congr_left
    intro k hk
    have hp : p k = true := (List.mem_filter.mp hk).2
    simp only [Function.comp_apply, List.countP_filter]
    apply List.countP_congr
    intro row _
    by_cases hrow : key row = k
    · simp [hrow, hp]
    · simp [hrow]
  rw [hfilter]
  apply sum_countP_key key _ ((List.nodup_dedup _).filter _)
  intro row hr hq
  apply List.mem_filter.mpr
  refine ⟨List.mem_dedup.mpr (List.mem_map_of_mem hr), ?_⟩
  exact (Bool.and_eq_true_iff.mp hq).1

/-- The sizes of the groups add up to the number of rows. -/
theorem sum_length_groupBy (key : α → κ) (rows : List α) :
    ((groupBy key rows).map fun group => group.2.length).sum = rows.length := by
  have h := sum_countP_groupBy key (fun _ => true) (fun _ => true) rows
  simpa using h

/-- The sizes of the groups with a key in `p` add up to the rows with such a key. -/
theorem sum_length_filter_groupBy (key : α → κ) (p : κ → Bool) (rows : List α) :
    (((groupBy key rows).filter fun group => p group.1).map fun group => group.2.length).sum =
      rows.countP fun row => p (key row) := by
  have h := sum_countP_groupBy key p (fun _ => true) rows
  simpa using h

/-- Rows in another order make the same groups in another order. -/
theorem perm_map_groupBy {γ : Type*} (key : α → κ) {rows rows' : List α} (h : rows.Perm rows')
    {f : κ × List α → γ} (hf : ∀ k (g g' : List α), g.Perm g' → f (k, g) = f (k, g')) :
    ((groupBy key rows).map f).Perm ((groupBy key rows').map f) := by
  have hgroups : (groupBy key rows).map f =
      (rows.map key).dedup.map fun k => f (k, rows'.filter fun row => key row = k) := by
    rw [groupBy, List.map_map]
    exact List.map_congr_left fun k _ => hf k _ _ (h.filter _)
  rw [hgroups, groupBy, List.map_map]
  exact (h.map key).dedup.map _

/-! ## Left joins -/

/-- The matches of one left row, or the row alone. -/
theorem countP_block (right : List β) (on : α → β → Bool) (a : α) (q : α → Bool) :
    (if right.filter (on a) = [] then [(a, (none : Option β))]
      else (right.filter (on a)).map fun b => (a, some b)).countP
        (fun joined => q joined.1 && joined.2.isSome) = if q a then right.countP (on a) else 0 := by
  by_cases hf : right.filter (on a) = []
  · have hz : right.countP (on a) = 0 := by rw [List.countP_eq_length_filter, hf, List.length_nil]
    simp [hf, hz]
  · rw [if_neg hf, List.countP_map]
    by_cases hq : q a = true
    · simp [Function.comp_def, hq, List.countP_eq_length_filter]
    · simp [Function.comp_def, hq]

variable [DecidableEq α]

/-- A distinct left row is joined with each row that matches it, once. -/
theorem countP_leftJoin {left : List α} (hn : left.Nodup) (right : List β) (on : α → β → Bool)
    {a : α} (ha : a ∈ left) :
    (leftJoin left right on).countP (fun joined => decide (joined.1 = a) && joined.2.isSome) =
      right.countP (on a) := by
  rw [leftJoin, List.countP_flatMap]
  have hblock : left.map (List.countP (fun joined => decide (joined.1 = a) && joined.2.isSome) ∘
      fun b => if right.filter (on b) = [] then [(b, none)]
        else (right.filter (on b)).map fun c => (b, some c)) =
      left.map fun b => if a = b then right.countP (on a) else 0 := by
    apply List.map_congr_left
    intro b _
    rw [Function.comp_apply, countP_block right on b fun c => decide (c = a)]
    by_cases hb : b = a
    · subst hb
      simp
    · simp [hb, Ne.symm hb]
  rw [hblock, sum_indicator hn ha]

omit [DecidableEq α] in
/-- Every left row occurs in the join. -/
theorem mem_map_fst_leftJoin {left : List α} {right : List β} {on : α → β → Bool} {a : α} :
    a ∈ (leftJoin left right on).map Prod.fst ↔ a ∈ left := by
  simp only [leftJoin, List.map_flatMap, List.mem_flatMap]
  constructor
  · rintro ⟨b, hb, hm⟩
    split_ifs at hm
    · have he : a = b := by simpa using hm
      exact he ▸ hb
    · obtain ⟨joined, hj, rfl⟩ := List.mem_map.mp hm
      obtain ⟨c, _, rfl⟩ := List.mem_map.mp hj
      exact hb
  · intro ha
    refine ⟨a, ha, ?_⟩
    split_ifs with hf
    · simp
    · obtain ⟨b, hb⟩ := List.exists_mem_of_ne_nil _ hf
      rw [List.map_map]
      exact List.mem_map.mpr ⟨b, hb, rfl⟩

/-- Grouping a left join by its distinct left rows gives one group per left row. -/
theorem perm_groupBy_leftJoin {left : List α} (hn : left.Nodup) (right : List β)
    (on : α → β → Bool) :
    ((groupBy Prod.fst (leftJoin left right on)).map Prod.fst).Perm left := by
  apply (List.perm_ext_iff_of_nodup (nodup_groupBy _ _) hn).mpr
  intro a
  rw [map_fst_groupBy, List.mem_dedup, mem_map_fst_leftJoin]

/-- The matched rows of such a group are the rows that match its left row. -/
theorem countP_groupBy_leftJoin {left : List α} (hn : left.Nodup) {right : List β}
    {on : α → β → Bool} {group : α × List (α × Option β)}
    (h : group ∈ groupBy Prod.fst (leftJoin left right on)) :
    group.2.countP (fun joined => joined.2.isSome) = right.countP (on group.1) := by
  obtain ⟨hk, hg⟩ := mem_groupBy.mp h
  rw [hg, List.countP_filter, ← countP_leftJoin hn right on (mem_map_fst_leftJoin.mp hk)]
  apply List.countP_congr
  intro joined _
  rw [Bool.and_comm]

end LiveData.Aggregate

import LiveData.Core.Dict
import Mathlib.Data.List.Induction

/-!
# Grouping by a key

A loop over rows keeps a dictionary with an entry for each key, made at the first row of the
key and extended by each of its rows. The keys come in order of first appearance, and an
entry depends on the rows of its key alone.
-/

namespace LiveData.Dict

variable {κ ν ρ : Type*} [BEq κ] [LawfulBEq κ] [DecidableEq κ] {key : ρ → κ} {start : ρ → ν}
  {add : ν → ρ → ν}

/-- A row is added to the entry of its key. -/
def addRow (key : ρ → κ) (start : ρ → ν) (add : ν → ρ → ν) (d : List (κ × ν)) (row : ρ) :
    List (κ × ν) :=
  set d (key row) (add ((d.lookup (key row)).getD (start row)) row)

/-- The entries after all rows. -/
def groupRows (key : ρ → κ) (start : ρ → ν) (add : ν → ρ → ν) (rows : List ρ) : List (κ × ν) :=
  rows.foldl (addRow key start add) []

omit [LawfulBEq κ] in
theorem groupRows_concat (rows : List ρ) (row : ρ) :
    groupRows key start add (rows ++ [row]) =
      addRow key start add (groupRows key start add rows) row := by
  rw [groupRows, List.foldl_append]
  rfl

omit [DecidableEq κ] in
/-- A key behind others counts when it is new. -/
theorem eraseDups_concat (ks : List κ) (k : κ) :
    (ks ++ [k]).eraseDups = if k ∈ ks then ks.eraseDups else ks.eraseDups ++ [k] := by
  rw [List.eraseDups_append]
  by_cases hk : k ∈ ks
  · simp [List.removeAll, hk]
  · simp [List.removeAll, hk, List.eraseDups_cons]

omit [DecidableEq κ] in
theorem nodup_eraseDups (ks : List κ) : ks.eraseDups.Nodup := by
  induction ks using List.reverseRecOn with
  | nil => exact List.nodup_nil
  | append_singleton ks k ih =>
    rw [eraseDups_concat]
    split
    · exact ih
    · next hk =>
      refine List.nodup_append.mpr ⟨ih, List.nodup_singleton k, fun other hother last hlast => ?_⟩
      rw [List.mem_singleton.mp hlast]
      exact fun h => hk (List.mem_eraseDups.mp (h ▸ hother))

omit [DecidableEq κ] in
/-- One key repeated counts once. -/
theorem eraseDups_of_forall_eq {ks : List κ} {k : κ} (hne : ks ≠ []) (h : ∀ l ∈ ks, l = k) :
    ks.eraseDups = [k] := by
  cases ks with
  | nil => exact absurd rfl hne
  | cons first ks =>
    have hfirst := h first List.mem_cons_self
    have hothers : (ks.filter fun l => !l == first) = [] :=
      List.filter_eq_nil_iff.mpr fun l hl => by
        simp [hfirst, h l (List.mem_cons_of_mem _ hl)]
    rw [List.eraseDups_cons, hothers, List.eraseDups_nil, hfirst]

/-- The keys are those of the rows, in order of first appearance. -/
theorem keys_groupRows (rows : List ρ) :
    keys (groupRows key start add rows) = (rows.map key).eraseDups := by
  induction rows using List.reverseRecOn with
  | nil => rfl
  | append_singleton rows row ih =>
    rw [groupRows_concat, addRow, keys_set, List.map_append, List.map_singleton, eraseDups_concat,
      ih]
    simp only [List.mem_eraseDups]

theorem nodup_keys_groupRows (rows : List ρ) : (keys (groupRows key start add rows)).Nodup := by
  induction rows using List.reverseRecOn with
  | nil => exact List.nodup_nil
  | append_singleton rows row ih =>
    rw [groupRows_concat]
    exact nodup_keys_set ih _ _

/-- The entry of a key is built from its rows in order. -/
theorem lookup_groupRows (rows : List ρ) (k : κ) :
    (groupRows key start add rows).lookup k =
      (rows.filter fun row => key row = k).head?.map fun first =>
        (rows.filter fun row => key row = k).foldl add (start first) := by
  induction rows using List.reverseRecOn with
  | nil => rfl
  | append_singleton rows row ih =>
    rw [groupRows_concat, addRow, lookup_set, List.filter_append]
    by_cases hk : k = key row
    · subst hk
      have hlast : ([row].filter fun other => key other = key row) = [row] := by simp
      rw [if_pos rfl, ih, hlast]
      cases rows.filter fun other => key other = key row with
      | nil => rfl
      | cons first rest => simp
    · have hlast : ([row].filter fun other => key other = k) = [] := by simp [Ne.symm hk]
      rw [if_neg hk, ih, hlast, List.append_nil]

/-- A dictionary is given by its keys and what is read for them. -/
theorem eq_map_keys {d : List (κ × ν)} (hd : (keys d).Nodup) {value : κ → ν}
    (h : ∀ k ∈ keys d, d.lookup k = some (value k)) : d = (keys d).map fun k => (k, value k) := by
  rw [keys, List.map_map]
  conv_lhs => rw [← List.map_id d]
  refine List.map_congr_left fun item hitem => ?_
  have hread := h item.1 (mem_keys_of_mem hitem)
  have hitem' := (lookup_eq_some_iff hd).mpr hitem
  rw [Function.comp_apply, ← Option.some.inj (hitem'.symm.trans hread)]
  rfl

/-- The entries after all rows, when those of each key make up a value of the key. -/
theorem groupRows_eq_map {rows : List ρ} {value : κ → ν}
    (h : ∀ k first rest, (rows.filter fun row => key row = k) = first :: rest →
      (first :: rest).foldl add (start first) = value k) :
    groupRows key start add rows = (rows.map key).eraseDups.map fun k => (k, value k) := by
  rw [← keys_groupRows]
  refine eq_map_keys (nodup_keys_groupRows rows) fun k hk => ?_
  rw [lookup_groupRows]
  cases hrows : rows.filter fun row => key row = k with
  | nil =>
    rw [keys_groupRows, List.mem_eraseDups] at hk
    obtain ⟨row, hrow, hkey⟩ := List.mem_map.mp hk
    have hmem : row ∈ rows.filter fun row => key row = k := by simp [hrow, hkey]
    simp [hrows] at hmem
  | cons first rest => rw [List.head?_cons, Option.map_some, h k first rest hrows]

/-! ## Collected rows -/

variable (key) in
/-- The rows of each key in order, when an entry collects its rows. -/
theorem groupRows_collect (rows : List ρ) :
    groupRows key (fun _ => []) (fun group row => group ++ [row]) rows =
      (rows.map key).eraseDups.map fun k => (k, rows.filter fun row => key row = k) := by
  have hcollect : ∀ (group rows : List ρ),
      rows.foldl (fun group row => group ++ [row]) group = group ++ rows := by
    intro group rows
    induction rows generalizing group with
    | nil => simp
    | cons row rows ih => rw [List.foldl_cons, ih, List.append_assoc, List.singleton_append]
  refine groupRows_eq_map fun k first rest hrows => ?_
  rw [hcollect, List.nil_append, hrows]

omit [BEq κ] [LawfulBEq κ] in
/-- Every row stands in the group of exactly one of the keys. -/
theorem flatMap_filter_perm {ks : List κ} (hks : ks.Nodup) {rows : List ρ}
    (hrows : ∀ row ∈ rows, key row ∈ ks) :
    (ks.flatMap fun k => rows.filter fun row => key row = k).Perm rows := by
  induction ks generalizing rows with
  | nil =>
    have hnone : rows = [] := List.eq_nil_iff_forall_not_mem.mpr fun row hrow => by
      simpa using hrows row hrow
    rw [hnone, List.flatMap_nil]
  | cons first ks ih =>
    obtain ⟨hfirst, hrest⟩ := List.nodup_cons.mp hks
    have hothers : (ks.flatMap fun k => rows.filter fun row => key row = k) =
        ks.flatMap fun k => (rows.filter fun row => !decide (key row = first)).filter
          fun row => key row = k := by
      refine List.flatMap_congr fun k hk => ?_
      rw [List.filter_filter]
      refine List.filter_congr fun row _ => ?_
      have hne : k ≠ first := fun h => hfirst (h ▸ hk)
      by_cases hrow : key row = k <;> simp [hrow, hne]
    have hcover : ∀ row ∈ rows.filter (fun row => !decide (key row = first)), key row ∈ ks := by
      intro row hrow
      obtain ⟨hmem, hne⟩ := List.mem_filter.mp hrow
      exact (List.mem_cons.mp (hrows row hmem)).resolve_left (by simpa using hne)
    rw [List.flatMap_cons, hothers]
    exact ((ih hrest hcover).append_left _).trans (List.filter_append_perm _ rows)

/-! ## Rows that come in blocks -/

section

variable {ι : Type*} {items : List ι} {itemKey : ι → κ} {block : ι → List ρ}
  (hkey : ∀ item, ∀ row ∈ block item, key row = itemKey item)
include hkey

omit [BEq κ] [LawfulBEq κ] in
/-- The rows of a key are the block of its item. -/
theorem filter_flatMap_of_nodup (hitems : (items.map itemKey).Nodup) {item : ι}
    (hitem : item ∈ items) :
    ((items.flatMap block).filter fun row => key row = itemKey item) = block item := by
  have hsame : ∀ other, ((block other).filter fun row => key row = itemKey item) =
      if itemKey other = itemKey item then block other else [] := by
    intro other
    split
    · next h => exact List.filter_eq_self.mpr fun row hrow => by simp [hkey other row hrow, h]
    · next h => exact List.filter_eq_nil_iff.mpr fun row hrow => by simp [hkey other row hrow, h]
  induction items with
  | nil => simp at hitem
  | cons first items ih =>
    obtain ⟨hfirst, hrest⟩ := List.nodup_cons.mp hitems
    rw [List.flatMap_cons, List.filter_append, hsame]
    rcases List.mem_cons.mp hitem with rfl | hmem
    · have hnone : ((items.flatMap block).filter fun row => key row = itemKey item) = [] := by
        refine List.filter_eq_nil_iff.mpr fun row hrow => ?_
        obtain ⟨other, hother, hrow⟩ := List.mem_flatMap.mp hrow
        rw [decide_eq_true_eq, hkey other row hrow]
        exact fun h => hfirst (h ▸ List.mem_map_of_mem hother)
      rw [if_pos rfl, hnone, List.append_nil]
    · have hne : itemKey first ≠ itemKey item := fun h =>
        hfirst (h ▸ List.mem_map_of_mem hmem)
      rw [if_neg hne, ih hrest hmem, List.nil_append]

/-- The keys of the rows are those of the items when no block is empty. -/
theorem eraseDups_flatMap_of_nodup (hitems : (items.map itemKey).Nodup)
    (hblock : ∀ item, block item ≠ []) :
    ((items.flatMap block).map key).eraseDups = items.map itemKey := by
  induction items with
  | nil => rfl
  | cons first items ih =>
    obtain ⟨hfirst, hrest⟩ := List.nodup_cons.mp hitems
    have hfirstKeys : ((block first).map key).eraseDups = [itemKey first] := by
      obtain ⟨row, rows, hrows⟩ := List.exists_cons_of_ne_nil (hblock first)
      have hrow := hkey first row (hrows ▸ List.mem_cons_self)
      have hothers : ((rows.map key).filter fun k => !k == itemKey first) = [] := by
        refine List.filter_eq_nil_iff.mpr fun k hk => ?_
        obtain ⟨other, hother, rfl⟩ := List.mem_map.mp hk
        simp [hkey first other (hrows ▸ List.mem_cons_of_mem _ hother)]
      rw [hrows, List.map_cons, List.eraseDups_cons, hrow, hothers, List.eraseDups_nil]
    have hnew : ((items.flatMap block).map key).removeAll ((block first).map key) =
        (items.flatMap block).map key := by
      refine List.filter_eq_self.mpr fun k hk => ?_
      obtain ⟨row, hrow, rfl⟩ := List.mem_map.mp hk
      obtain ⟨other, hother, hrow⟩ := List.mem_flatMap.mp hrow
      have hne : key row ∉ (block first).map key := by
        intro hmem
        obtain ⟨row', hrow', hsame⟩ := List.mem_map.mp hmem
        rw [hkey first row' hrow', hkey other row hrow] at hsame
        exact hfirst (hsame ▸ List.mem_map_of_mem hother)
      simpa using hne
    rw [List.flatMap_cons, List.map_append, List.eraseDups_append, hfirstKeys, hnew, ih hrest,
      List.map_cons]
    rfl

end

end LiveData.Dict

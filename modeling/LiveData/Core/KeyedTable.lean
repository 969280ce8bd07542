import Mathlib.Data.List.Nodup
import Mathlib.Data.List.Perm.Basic

/-!
# Tables with a key

Insertion that ignores rows of a present key. Rows are applied in order, so that the
table of a history holds the first row of every key.
-/

namespace LiveData.KeyedTable

variable {ρ κ : Type*} [DecidableEq κ] (key : ρ → κ)

/-- `INSERT ... ON CONFLICT DO NOTHING RETURNING`: the table and the inserted rows. -/
def insertRows (table : List ρ) : List ρ → List ρ × List ρ
  | [] => (table, [])
  | row :: rows =>
    if key row ∈ table.map key then insertRows table rows
    else
      let inserted := insertRows (table ++ [row]) rows
      (inserted.1, row :: inserted.2)

variable {key}

theorem insertRows_of_mem {table : List ρ} {row : ρ} (h : key row ∈ table.map key)
    (rows : List ρ) : insertRows key table (row :: rows) = insertRows key table rows := if_pos h

theorem insertRows_of_notMem {table : List ρ} {row : ρ} (h : key row ∉ table.map key)
    (rows : List ρ) : insertRows key table (row :: rows) =
      ((insertRows key (table ++ [row]) rows).1, row :: (insertRows key (table ++ [row]) rows).2) :=
  if_neg h

/-- The inserted rows are appended. -/
theorem insertRows_fst (table rows : List ρ) :
    (insertRows key table rows).1 = table ++ (insertRows key table rows).2 := by
  induction rows generalizing table with
  | nil => simp [insertRows]
  | cons row rows ih =>
    by_cases hr : key row ∈ table.map key
    · rw [insertRows_of_mem hr]
      exact ih table
    · rw [insertRows_of_notMem hr, ih]
      simp

/-- No present row is touched. -/
theorem prefix_insertRows (table rows : List ρ) : table <+: (insertRows key table rows).1 :=
  ⟨_, (insertRows_fst table rows).symm⟩

/-- Inserted rows are among the given ones. -/
theorem sublist_insertRows (table rows : List ρ) :
    List.Sublist (insertRows key table rows).2 rows := by
  induction rows generalizing table with
  | nil => exact .slnil
  | cons row rows ih =>
    by_cases hr : key row ∈ table.map key
    · rw [insertRows_of_mem hr]
      exact (ih table).cons row
    · rw [insertRows_of_notMem hr]
      exact (ih _).cons_cons row

/-- Keys stay distinct. -/
theorem nodup_insertRows {table : List ρ} (h : (table.map key).Nodup) (rows : List ρ) :
    ((insertRows key table rows).1.map key).Nodup := by
  induction rows generalizing table with
  | nil => exact h
  | cons row rows ih =>
    by_cases hr : key row ∈ table.map key
    · rw [insertRows_of_mem hr]
      exact ih h
    · rw [insertRows_of_notMem hr]
      apply ih
      rw [List.map_append, List.map_singleton]
      exact h.append (by simp) (by simpa using hr)

/-- The keys after an insertion are the old ones and those of the given rows. -/
theorem mem_keys_insertRows (table rows : List ρ) (k : κ) :
    k ∈ (insertRows key table rows).1.map key ↔ k ∈ table.map key ∨ k ∈ rows.map key := by
  induction rows generalizing table with
  | nil => simp [insertRows]
  | cons row rows ih =>
    rw [List.map_cons, List.mem_cons]
    by_cases hr : key row ∈ table.map key
    · rw [insertRows_of_mem hr, ih]
      constructor
      · exact fun h => h.imp id Or.inr
      · rintro (h | rfl | h)
        · exact Or.inl h
        · exact Or.inl hr
        · exact Or.inr h
    · rw [insertRows_of_notMem hr, ih, List.map_append, List.mem_append, List.map_singleton,
        List.mem_singleton, or_assoc]

/-- Inserting one batch after another is inserting both. -/
theorem insertRows_append (table rows rows' : List ρ) :
    (insertRows key table (rows ++ rows')).1 =
      (insertRows key (insertRows key table rows).1 rows').1 := by
  induction rows generalizing table with
  | nil => rfl
  | cons row rows ih =>
    rw [List.cons_append]
    by_cases hr : key row ∈ table.map key
    · rw [insertRows_of_mem hr, insertRows_of_mem hr]
      exact ih table
    · rw [insertRows_of_notMem hr, insertRows_of_notMem hr]
      exact ih _

/-- Rows whose keys are not in a table are inserted as if its rows were not there. -/
theorem insertRows_append_left {table other rows : List ρ}
    (h : ∀ row ∈ rows, key row ∉ table.map key) :
    (insertRows key (table ++ other) rows).2 = (insertRows key other rows).2 := by
  induction rows generalizing other with
  | nil => rfl
  | cons row rows ih =>
    have hrow : key row ∉ table.map key := h row List.mem_cons_self
    have hrest : ∀ r ∈ rows, key r ∉ table.map key := fun r hr => h r (List.mem_cons_of_mem row hr)
    by_cases hr : key row ∈ other.map key
    · have hboth : key row ∈ (table ++ other).map key := by
        rw [List.map_append]
        exact List.mem_append_right _ hr
      rw [insertRows_of_mem hr, insertRows_of_mem hboth]
      exact ih hrest
    · have hboth : key row ∉ (table ++ other).map key := by
        rw [List.map_append, List.mem_append]
        exact fun hm => hm.elim hrow hr
      rw [insertRows_of_notMem hr, insertRows_of_notMem hboth, List.append_assoc]
      exact congrArg (row :: ·) (ih hrest)

/-- The row of a key is the one the table had, or else the first one given. -/
theorem find?_insertRows (table rows : List ρ) (k : κ) :
    (insertRows key table rows).1.find? (fun row => key row = k) =
      (table ++ rows).find? fun row => key row = k := by
  induction rows generalizing table with
  | nil => simp [insertRows]
  | cons row rows ih =>
    by_cases hr : key row ∈ table.map key
    · rw [insertRows_of_mem hr, ih, List.find?_append, List.find?_append, List.find?_cons]
      by_cases hk : key row = k
      · have hs : (table.find? fun row => key row = k).isSome := by
          obtain ⟨r, hm, he⟩ := List.mem_map.mp hr
          exact List.find?_isSome.mpr ⟨r, hm, by simp [he, hk]⟩
        obtain ⟨r, he⟩ := Option.isSome_iff_exists.mp hs
        simp [he]
      · simp [hk]
    · rw [insertRows_of_notMem hr, ih]
      simp

/-- With distinct keys a row is found under its key. -/
theorem find?_eq_of_mem {table : List ρ} (h : (table.map key).Nodup) {row : ρ}
    (hr : row ∈ table) : table.find? (fun r => key r = key row) = some row := by
  induction table with
  | nil => simp at hr
  | cons r table ih =>
    rw [List.map_cons, List.nodup_cons] at h
    rcases List.mem_cons.mp hr with rfl | hr
    · simp
    · have hne : key r ≠ key row := fun he => h.1 (he ▸ List.mem_map_of_mem hr)
      simp [hne, ih h.2 hr]

/-- Rows with new and distinct keys are all inserted. -/
theorem insertRows_of_nodup {table rows : List ρ} (h : ((table ++ rows).map key).Nodup) :
    (insertRows key table rows).1 = table ++ rows := by
  induction rows generalizing table with
  | nil => rw [List.append_nil]; rfl
  | cons row rows ih =>
    have hrow : key row ∉ table.map key := by
      rw [List.map_append, List.map_cons] at h
      exact fun hm => List.disjoint_of_nodup_append h hm List.mem_cons_self
    rw [insertRows_of_notMem hrow]
    have hrest : table ++ row :: rows = (table ++ [row]) ++ rows := by simp
    rw [hrest] at h ⊢
    exact ih h

omit [DecidableEq κ] in
/-- Two tables with the same keys are the same up to order when rows of one key are equal. -/
theorem perm_of_mem_keys_iff {table table' : List ρ} (h : (table.map key).Nodup)
    (h' : (table'.map key).Nodup) (hk : ∀ k, k ∈ table.map key ↔ k ∈ table'.map key)
    (heq : ∀ row ∈ table, ∀ row' ∈ table', key row = key row' → row = row') :
    table.Perm table' := by
  refine (List.perm_ext_iff_of_nodup h.of_map h'.of_map).mpr fun row => ⟨fun hr => ?_, fun hr => ?_⟩
  · obtain ⟨row', hr', hkey⟩ := List.mem_map.mp ((hk _).mp (List.mem_map_of_mem hr))
    rwa [heq row hr row' hr' hkey.symm]
  · obtain ⟨row', hr', hkey⟩ := List.mem_map.mp ((hk _).mpr (List.mem_map_of_mem hr))
    rwa [← heq row' hr' row hr hkey]

end LiveData.KeyedTable

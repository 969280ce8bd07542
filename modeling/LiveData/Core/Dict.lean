import Mathlib.Data.List.Basic
import Mathlib.Data.List.Nodup

/-!
# Insertion-ordered dictionaries

A dictionary is its list of items in insertion order. Assigning to a present key keeps
its position, assigning to a new key appends it; reading is `List.lookup`.
-/

namespace LiveData.Dict

variable {κ ν : Type*}

/-- The keys in order. -/
def keys (d : List (κ × ν)) : List κ := d.map Prod.fst

@[simp] theorem keys_nil : keys ([] : List (κ × ν)) = [] := rfl
@[simp] theorem keys_cons (p : κ × ν) (d : List (κ × ν)) : keys (p :: d) = p.1 :: keys d := rfl
@[simp] theorem keys_append (d e : List (κ × ν)) : keys (d ++ e) = keys d ++ keys e := by
  simp [keys]

theorem mem_keys_of_mem {d : List (κ × ν)} {k : κ} {v : ν} (h : (k, v) ∈ d) : k ∈ keys d :=
  List.mem_map_of_mem h

variable [BEq κ] [LawfulBEq κ] [DecidableEq κ]

theorem lookup_cons_eq (d : List (κ × ν)) (k l : κ) (v : ν) :
    List.lookup k ((l, v) :: d) = if k = l then some v else d.lookup k := by
  rw [List.lookup_cons]
  by_cases h : k = l
  · simp [h]
  · have hb : (k == l) = false := by simp [h]
    simp [h, hb]

/-- A key is absent exactly when reading it gives nothing. -/
theorem lookup_eq_none_iff (d : List (κ × ν)) (k : κ) : d.lookup k = none ↔ k ∉ keys d := by
  induction d with
  | nil => simp
  | cons p d ih =>
    obtain ⟨l, v⟩ := p
    rw [lookup_cons_eq]
    by_cases h : k = l <;> simp [h, ih]

theorem mem_keys_iff {d : List (κ × ν)} {k : κ} : k ∈ keys d ↔ ∃ v, d.lookup k = some v := by
  rw [← Option.isSome_iff_exists, ← Option.ne_none_iff_isSome, ne_eq, lookup_eq_none_iff, not_not]

/-- A value that is read is an item. -/
theorem mem_of_lookup {d : List (κ × ν)} {k : κ} {v : ν} (h : d.lookup k = some v) :
    (k, v) ∈ d := by
  induction d with
  | nil => simp at h
  | cons p d ih =>
    obtain ⟨l, w⟩ := p
    rw [lookup_cons_eq] at h
    by_cases hk : k = l
    · simp only [hk, ite_true, Option.some.injEq] at h
      simp [hk, h]
    · simp only [hk, ite_false] at h
      exact List.mem_cons_of_mem _ (ih h)

/-- With distinct keys, items and reads are the same facts. -/
theorem lookup_eq_some_iff {d : List (κ × ν)} (hd : (keys d).Nodup) {k : κ} {v : ν} :
    d.lookup k = some v ↔ (k, v) ∈ d := by
  refine ⟨mem_of_lookup, ?_⟩
  induction d with
  | nil => simp
  | cons p d ih =>
    obtain ⟨l, w⟩ := p
    rw [keys_cons, List.nodup_cons] at hd
    intro h
    rw [lookup_cons_eq]
    rcases List.mem_cons.mp h with h | h
    · obtain ⟨rfl, rfl⟩ := Prod.mk.inj h
      simp
    · have hne : k ≠ l := fun he => hd.1 (he ▸ mem_keys_of_mem h)
      simp only [hne, ite_false]
      exact ih hd.2 h

/-- Assignment: the position of a present key is kept. -/
def set (d : List (κ × ν)) (k : κ) (v : ν) : List (κ × ν) :=
  match d with
  | [] => [(k, v)]
  | (l, w) :: d => if l = k then (k, v) :: d else (l, w) :: set d k v

/-- Reading after an assignment. -/
theorem lookup_set (d : List (κ × ν)) (k l : κ) (v : ν) :
    (set d k v).lookup l = if l = k then some v else d.lookup l := by
  induction d with
  | nil => simp [set, lookup_cons_eq]
  | cons p d ih =>
    obtain ⟨m, w⟩ := p
    unfold set
    by_cases hm : m = k
    · subst hm
      by_cases hl : l = m <;> simp [lookup_cons_eq, hl]
    · simp only [hm, ite_false, lookup_cons_eq, ih]
      by_cases hl : l = m
      · subst hl
        simp [hm]
      · simp [hl]

/-- The keys after an assignment. -/
theorem keys_set (d : List (κ × ν)) (k : κ) (v : ν) :
    keys (set d k v) = if k ∈ keys d then keys d else keys d ++ [k] := by
  induction d with
  | nil => simp [set]
  | cons p d ih =>
    obtain ⟨m, w⟩ := p
    unfold set
    by_cases hm : m = k
    · simp [hm]
    · have hk : k ≠ m := Ne.symm hm
      by_cases hd : k ∈ keys d <;> simp [hm, hk, ih, hd]

/-- Assignment keeps keys distinct. -/
theorem nodup_keys_set {d : List (κ × ν)} (hd : (keys d).Nodup) (k : κ) (v : ν) :
    (keys (set d k v)).Nodup := by
  rw [keys_set]
  by_cases h : k ∈ keys d
  · simpa [h] using hd
  · simp only [h, ite_false]
    exact List.nodup_append.mpr ⟨hd, by simp, by
      intro a ha b hb he
      rw [List.mem_singleton] at hb
      exact h (by rw [← hb, ← he]; exact ha)⟩

omit [BEq κ] [LawfulBEq κ] in
/-- Assigning a new key appends it. -/
theorem set_of_notMem {d : List (κ × ν)} {k : κ} (h : k ∉ keys d) (v : ν) :
    set d k v = d ++ [(k, v)] := by
  induction d with
  | nil => rfl
  | cons p d ih =>
    obtain ⟨m, w⟩ := p
    rw [keys_cons, List.mem_cons, not_or] at h
    have hm : ¬m = k := fun he => h.1 he.symm
    simp [set, hm, ih h.2]

omit [BEq κ] [LawfulBEq κ] in
/-- The keys after an assignment are the old ones and the assigned one. -/
theorem mem_keys_set {d : List (κ × ν)} {k l : κ} {v : ν} :
    l ∈ keys (set d k v) ↔ l = k ∨ l ∈ keys d := by
  rw [keys_set]
  by_cases hk : k ∈ keys d
  · rw [if_pos hk]
    exact ⟨Or.inr, fun h => h.elim (fun he => he ▸ hk) id⟩
  · rw [if_neg hk, List.mem_append, List.mem_singleton, or_comm]

omit [BEq κ] [LawfulBEq κ] in
/-- The last of two assignments to a key counts. -/
theorem set_set (d : List (κ × ν)) (k : κ) (v w : ν) : set (set d k v) k w = set d k w := by
  induction d with
  | nil => simp [set]
  | cons p d ih =>
    obtain ⟨l, u⟩ := p
    by_cases hl : l = k
    · simp [set, hl]
    · simp [set, hl, ih]

/-- Assigning the value that is read changes nothing. -/
theorem set_of_lookup {d : List (κ × ν)} {k : κ} {v : ν} (h : d.lookup k = some v) :
    set d k v = d := by
  induction d with
  | nil => simp at h
  | cons p d ih =>
    obtain ⟨l, u⟩ := p
    rw [lookup_cons_eq] at h
    by_cases hl : l = k
    · obtain rfl : u = v := by simpa [hl] using h
      simp [set, hl]
    · rw [if_neg (Ne.symm hl)] at h
      simp [set, hl, ih h]

/-- Assignment of a default: a present key keeps its value. -/
def setDefault (d : List (κ × ν)) (k : κ) (v : ν) : List (κ × ν) :=
  match d.lookup k with
  | some _ => d
  | none => set d k v

omit [LawfulBEq κ] in
theorem setDefault_of_some {d : List (κ × ν)} {k : κ} {w : ν} (h : d.lookup k = some w) (v : ν) :
    setDefault d k v = d := by
  simp only [setDefault, h]

/-- Reading after a default was assigned. -/
theorem lookup_setDefault (d : List (κ × ν)) (k l : κ) (v : ν) :
    (setDefault d k v).lookup l = if l = k then some ((d.lookup k).getD v) else d.lookup l := by
  cases hk : d.lookup k with
  | some w =>
    rw [setDefault_of_some hk]
    by_cases hl : l = k
    · simp [hl, hk]
    · simp [hl]
  | none =>
    simp only [setDefault, hk, lookup_set]
    rfl

/-- Reading a dictionary whose values were converted. -/
theorem lookup_map_value {ω : Type*} (f : κ → ν → ω) (d : List (κ × ν)) (k : κ) :
    (d.map fun item => (item.1, f item.1 item.2)).lookup k = (d.lookup k).map (f k) := by
  induction d with
  | nil => rfl
  | cons item d ih =>
    obtain ⟨l, v⟩ := item
    rw [List.map_cons, lookup_cons_eq, lookup_cons_eq, ih]
    by_cases hk : k = l
    · simp [hk]
    · simp [hk]

/-- Removal of a key. -/
def erase (d : List (κ × ν)) (k : κ) : List (κ × ν) := d.filter fun item => item.1 ≠ k

omit [BEq κ] [LawfulBEq κ] in
theorem mem_keys_erase {d : List (κ × ν)} {k l : κ} :
    l ∈ keys (erase d k) ↔ l ∈ keys d ∧ l ≠ k := by
  simp only [keys, erase, List.mem_map, List.mem_filter, decide_eq_true_eq]
  constructor
  · rintro ⟨item, ⟨hm, hk⟩, rfl⟩
    exact ⟨⟨item, hm, rfl⟩, hk⟩
  · rintro ⟨⟨item, hm, rfl⟩, hk⟩
    exact ⟨item, ⟨hm, hk⟩, rfl⟩

/-- Reading after a removal. -/
theorem lookup_erase (d : List (κ × ν)) (k l : κ) :
    (erase d k).lookup l = if l = k then none else d.lookup l := by
  induction d with
  | nil => simp [erase]
  | cons item d ih =>
    obtain ⟨m, v⟩ := item
    rw [erase] at ih ⊢
    by_cases hm : m = k
    · rw [List.filter_cons_of_neg (by simp [hm]), ih, lookup_cons_eq]
      by_cases hl : l = k <;> simp [hl, hm]
    · rw [List.filter_cons_of_pos (by simp [hm]), lookup_cons_eq, lookup_cons_eq, ih]
      by_cases hl : l = m
      · simp [hl, hm]
      · simp [hl]

/-- Reading after a selection of keys. -/
theorem lookup_filter_key (keep : κ → Bool) (d : List (κ × ν)) (k : κ) :
    (d.filter fun item => keep item.1).lookup k = if keep k = true then d.lookup k else none := by
  induction d with
  | nil => simp
  | cons item d ih =>
    obtain ⟨l, v⟩ := item
    rw [List.filter_cons, lookup_cons_eq]
    by_cases hk : k = l
    · subst hk
      by_cases hl : keep k = true <;> simp [hl, ih]
    · by_cases hl : keep l = true <;> simp [hl, ih, lookup_cons_eq, hk]

omit [BEq κ] [LawfulBEq κ] in
/-- Removal keeps keys distinct. -/
theorem nodup_keys_erase {d : List (κ × ν)} (hd : (keys d).Nodup) (k : κ) :
    (keys (erase d k)).Nodup := hd.sublist (List.filter_sublist.map Prod.fst)

/-- The dictionary of a list of items, later items overwriting earlier ones. -/
def ofItems (items : List (κ × ν)) : List (κ × ν) :=
  items.foldl (fun d p => set d p.1 p.2) []

omit [BEq κ] [LawfulBEq κ] in
private theorem foldl_set_of_nodup (items d : List (κ × ν)) (h : (keys (d ++ items)).Nodup) :
    items.foldl (fun d p => set d p.1 p.2) d = d ++ items := by
  induction items generalizing d with
  | nil => simp
  | cons p items ih =>
    have hp : p.1 ∉ keys d := by
      rw [keys_append, keys_cons, List.nodup_append] at h
      exact fun hk => h.2.2 p.1 hk p.1 (by simp) rfl
    rw [List.foldl_cons, set_of_notMem hp]
    have hd : d ++ [(p.1, p.2)] ++ items = d ++ p :: items := by simp
    rw [ih _ (by rw [hd]; exact h), hd]

omit [BEq κ] [LawfulBEq κ] in
/-- Items with distinct keys are already their dictionary. -/
theorem ofItems_of_nodup {items : List (κ × ν)} (h : (keys items).Nodup) :
    ofItems items = items := foldl_set_of_nodup items [] h

/-- Whatever the dictionary of a list of items holds is one of them. -/
theorem mem_of_lookup_ofItems {items : List (κ × ν)} {k : κ} {v : ν}
    (h : (ofItems items).lookup k = some v) : (k, v) ∈ items := by
  have hfold : ∀ d : List (κ × ν), (items.foldl (fun d p => set d p.1 p.2) d).lookup k = some v →
      d.lookup k = some v ∨ (k, v) ∈ items := by
    clear h
    induction items with
    | nil => exact fun d hd => Or.inl hd
    | cons p items ih =>
      intro d hd
      rcases ih _ hd with hd | hd
      · rw [lookup_set] at hd
        split at hd
        · next hk =>
          obtain rfl := Option.some.inj hd
          exact Or.inr (by simp [hk])
        · exact Or.inl hd
      · exact Or.inr (List.mem_cons_of_mem p hd)
  rcases hfold [] h with h | h
  · exact absurd h nofun
  · exact h

/-- Reading the dictionary of the items a partial function gives for a list of keys. -/
theorem lookup_ofItems_filterMap (f : κ → Option ν) (ks : List κ) (k : κ) :
    (ofItems (ks.filterMap fun l => (f l).map (l, ·))).lookup k =
      if k ∈ ks then f k else none := by
  have hfold : ∀ d : List (κ × ν),
      ((ks.filterMap fun l => (f l).map (l, ·)).foldl (fun d p => set d p.1 p.2) d).lookup k =
        if k ∈ ks then (f k).or (d.lookup k) else d.lookup k := by
    induction ks with
    | nil => simp
    | cons l ks ih =>
      intro d
      cases hl : f l with
      | none =>
        rw [List.filterMap_cons_none (by simp [hl]), ih]
        by_cases hk : k = l
        · subst hk
          simp [hl]
        · simp [hk]
      | some v =>
        rw [List.filterMap_cons_some (by simp [hl]; rfl), List.foldl_cons, ih, lookup_set]
        by_cases hk : k = l
        · subst hk
          simp [hl]
        · simp [hk]
  rw [ofItems, hfold]
  simp

end LiveData.Dict

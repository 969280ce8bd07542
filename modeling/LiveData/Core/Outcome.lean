import Mathlib.Data.List.Forall2

/-!
# Computations that may raise

Inversion of sequenced computations over `Except`, one after the other or over a list.
-/

namespace LiveData

variable {ε δ α β : Type}

@[simp] theorem ok_bind (a : α) (f : α → Except ε β) : (Except.ok a >>= f) = f a := rfl
@[simp] theorem error_bind (e : ε) (f : α → Except ε β) :
    ((Except.error e : Except ε α) >>= f) = .error e := rfl

/-- A sequence returns when its first part does and the second does on what it returned. -/
theorem bind_eq_ok {x : Except ε α} {f : α → Except ε β} {b : β} :
    (x >>= f) = .ok b ↔ ∃ a, x = .ok a ∧ f a = .ok b := by
  cases x <;> simp [bind, Except.bind]

/-- What follows a part matters for what the part returns. -/
theorem bind_congr_ok {x : Except ε α} {f g : α → Except ε β}
    (h : ∀ a, x = .ok a → f a = g a) : (x >>= f) = x >>= g := by
  cases x with
  | error e => rfl
  | ok a => exact h a rfl

/-- A sequence fails when its first part does, or its second on what the first returned. -/
theorem bind_eq_error {x : Except ε α} {f : α → Except ε β} {e : ε} :
    (x >>= f) = .error e ↔ x = .error e ∨ ∃ a, x = .ok a ∧ f a = .error e := by
  cases x <;> simp [bind, Except.bind]

/-- A sequence fails only as one of its parts does. -/
theorem bind_ne_error {x : Except ε α} {f : α → Except ε β} {e : ε} (hx : x ≠ .error e)
    (hf : ∀ a, x = .ok a → f a ≠ .error e) : (x >>= f) ≠ .error e := by
  cases x with
  | error e' => exact fun h => hx (congrArg Except.error (Except.error.inj h))
  | ok a => exact hf a rfl

theorem map_eq_ok {x : Except ε α} {f : α → β} {b : β} :
    x.map f = .ok b ↔ ∃ a, x = .ok a ∧ f a = b := by
  cases x <;> simp [Except.map]

/-- Converting exceptions keeps what is returned. -/
theorem mapError_eq_ok {x : Except ε α} {f : ε → δ} {a : α} :
    x.mapError f = .ok a ↔ x = .ok a := by
  cases x <;> simp [Except.mapError]

/-- Converting exceptions converts what is raised. -/
theorem mapError_eq_error {x : Except ε α} {f : ε → δ} {e : δ} :
    x.mapError f = .error e ↔ ∃ e', x = .error e' ∧ f e' = e := by
  cases x <;> simp [Except.mapError]

/-- A related element stands on the left for every one on the right. -/
theorem forall₂_exists_of_mem_right {R : α → β → Prop} {as : List α} {bs : List β}
    (h : List.Forall₂ R as bs) {b : β} (hb : b ∈ bs) : ∃ a ∈ as, R a b := by
  induction h with
  | nil => simp at hb
  | cons hr _ ih =>
    rcases List.mem_cons.mp hb with rfl | hb
    · exact ⟨_, by simp, hr⟩
    · obtain ⟨a, ha, hab⟩ := ih hb
      exact ⟨a, by simp [ha], hab⟩

theorem forall₂_exists_of_mem_left {R : α → β → Prop} {as : List α} {bs : List β}
    (h : List.Forall₂ R as bs) {a : α} (ha : a ∈ as) : ∃ b ∈ bs, R a b :=
  forall₂_exists_of_mem_right (R := flip R) h.flip ha

/-- A loop returns when every turn does, with the results in order. -/
theorem mapM_eq_ok {f : α → Except ε β} {items : List α} {results : List β} :
    items.mapM f = .ok results ↔ List.Forall₂ (fun a b => f a = .ok b) items results := by
  induction items generalizing results with
  | nil => simp [pure, Except.pure, eq_comm]
  | cons a items ih =>
    rw [List.mapM_cons, bind_eq_ok]
    constructor
    · rintro ⟨b, hb, h⟩
      obtain ⟨bs, hbs, h⟩ := bind_eq_ok.mp h
      obtain rfl := Except.ok.inj h
      exact .cons hb (ih.mp hbs)
    · rintro (_ | ⟨hb, hbs⟩)
      exact ⟨_, hb, bind_eq_ok.mpr ⟨_, ih.mpr hbs, rfl⟩⟩

/-- A loop returns exactly when every turn does. -/
theorem exists_mapM_eq_ok {f : α → Except ε β} {items : List α} :
    (∃ results, items.mapM f = .ok results) ↔ ∀ a ∈ items, ∃ b, f a = .ok b := by
  simp only [mapM_eq_ok]
  induction items with
  | nil => simp
  | cons a items ih =>
    rw [List.forall_mem_cons, ← ih]
    constructor
    · rintro ⟨_, hb | ⟨hb, hbs⟩⟩
      exact ⟨⟨_, hb⟩, ⟨_, hbs⟩⟩
    · rintro ⟨⟨b, hb⟩, ⟨bs, hbs⟩⟩
      exact ⟨_, .cons hb hbs⟩

/-- A loop run for its checks passes exactly when every turn does. -/
theorem forM_eq_ok {f : α → Except ε Unit} {items : List α} :
    forM items f = .ok () ↔ ∀ a ∈ items, f a = .ok () := by
  induction items with
  | nil => simp [pure, Except.pure]
  | cons a items ih =>
    rw [List.forM_cons, bind_eq_ok, List.forall_mem_cons, ← ih]
    constructor
    · rintro ⟨_, ha, h⟩
      exact ⟨ha, h⟩
    · rintro ⟨ha, h⟩
      exact ⟨(), ha, h⟩

/-- A loop with an accumulator fails in no way in which no turn does. -/
theorem foldlM_ne_error {f : β → α → Except ε β} {items : List α} {e : ε}
    (h : ∀ b, ∀ a ∈ items, f b a ≠ .error e) (b : β) : items.foldlM f b ≠ .error e := by
  induction items generalizing b with
  | nil => simp [pure, Except.pure]
  | cons a items ih =>
    rw [List.foldlM_cons]
    refine bind_ne_error (h b a (by simp)) fun b' _ => ih ?_ b'
    exact fun b a ha => h b a (List.mem_cons_of_mem _ ha)

/-- A failure of a loop is a failure of one of its turns. -/
theorem exists_of_forM_eq_error {f : α → Except ε Unit} {items : List α} {e : ε}
    (h : forM items f = .error e) : ∃ a ∈ items, f a = .error e := by
  induction items with
  | nil => cases h
  | cons a items ih =>
    rw [List.forM_cons] at h
    cases ha : f a with
    | error e' =>
      rw [ha, error_bind] at h
      exact ⟨a, by simp, by rw [ha, Except.error.inj h]⟩
    | ok u =>
      rw [ha, ok_bind] at h
      obtain ⟨b, hb, he⟩ := ih h
      exact ⟨b, List.mem_cons_of_mem a hb, he⟩

end LiveData

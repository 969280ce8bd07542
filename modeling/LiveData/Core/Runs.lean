import Mathlib.Data.Option.Basic
import Mathlib.Tactic.Choose

/-!
# Runs of a partial step function

A run folds a list of actions over a state; an action that is not possible ends it. What
every step keeps, every run keeps.
-/

namespace LiveData

variable {σ α : Type*} {step : σ → α → Option σ}

/-- The state after a list of actions, when each of them is possible. -/
def run (step : σ → α → Option σ) (s : σ) : List α → Option σ
  | [] => some s
  | a :: actions => (step s a).bind fun t => run step t actions

@[simp] theorem run_nil (s : σ) : run step s [] = some s := rfl

theorem run_cons_eq_some {s u : σ} {a : α} {actions : List α} :
    run step s (a :: actions) = some u ↔ ∃ t, step s a = some t ∧ run step t actions = some u :=
  Option.bind_eq_some_iff

theorem run_append {s : σ} {actions actions' : List α} :
    run step s (actions ++ actions') = (run step s actions).bind fun t => run step t actions' := by
  induction actions generalizing s with
  | nil => rfl
  | cons a actions ih => simp only [List.cons_append, run, ih, Option.bind_assoc]

/-- Runs compose. -/
theorem run_append_eq_some {s u : σ} {actions actions' : List α} :
    run step s (actions ++ actions') = some u ↔
      ∃ t, run step s actions = some t ∧ run step t actions' = some u := by
  induction actions generalizing s with
  | nil => simp
  | cons a actions ih =>
    rw [List.cons_append, run_cons_eq_some]
    constructor
    · rintro ⟨t, ht, hu⟩
      obtain ⟨r, hr, hu⟩ := ih.mp hu
      exact ⟨r, run_cons_eq_some.mpr ⟨t, ht, hr⟩, hu⟩
    · rintro ⟨r, hr, hu⟩
      obtain ⟨t, ht, hr⟩ := run_cons_eq_some.mp hr
      exact ⟨t, ht, ih.mpr ⟨r, hr, hu⟩⟩

/-- A possible run leads to the state it evaluates to. -/
theorem run_eq_some_getD {s : σ} {actions : List α} (h : (run step s actions).isSome = true)
    (default : σ) : run step s actions = some ((run step s actions).getD default) := by
  obtain ⟨t, ht⟩ := Option.isSome_iff_exists.mp h
  rw [ht, Option.getD_some]

/-- Steps that are possible in more states allow the same runs. -/
theorem run_mono {step' : σ → α → Option σ}
    (hstep : ∀ s a t, step s a = some t → step' s a = some t) {actions : List α} {s u : σ}
    (h : run step s actions = some u) : run step' s actions = some u := by
  induction actions generalizing s with
  | nil => exact h
  | cons a actions ih =>
    obtain ⟨t, ht, hu⟩ := run_cons_eq_some.mp h
    exact run_cons_eq_some.mpr ⟨t, hstep s a t ht, ih hu⟩

/-- A run whose steps are all possible leads to a state for all its actions. -/
theorem exists_run {J : List α → σ → Prop} {actions : List α} {s : σ} (hs : J [] s)
    (hstep : ∀ before a after t, actions = before ++ a :: after → J before t →
      ∃ u, step t a = some u ∧ J (before ++ [a]) u) :
    ∃ u, run step s actions = some u ∧ J actions u := by
  induction actions generalizing s J with
  | nil => exact ⟨s, rfl, hs⟩
  | cons a actions ih =>
    obtain ⟨t, ht, hj⟩ := hstep [] a actions s rfl hs
    have hrest : ∃ u, run step t actions = some u ∧ J (a :: actions) u :=
      ih (J := fun before u => J (a :: before) u) hj fun before b after r hb hr =>
        hstep (a :: before) b after r (by rw [hb]; rfl) hr
    obtain ⟨u, hu, hend⟩ := hrest
    exact ⟨u, run_cons_eq_some.mpr ⟨t, ht, hu⟩, hend⟩

/-- An invariant of the steps is one of the runs. -/
theorem invariant_of_run {I : σ → Prop} (hstep : ∀ s a t, I s → step s a = some t → I t)
    {actions : List α} {s u : σ} (hs : I s) (h : run step s actions = some u) : I u := by
  induction actions generalizing s with
  | nil =>
    obtain rfl := Option.some.inj h
    exact hs
  | cons a actions ih =>
    obtain ⟨t, ht, hu⟩ := run_cons_eq_some.mp h
    exact ih (hstep s a t hs ht) hu

/-- An invariant of the steps whose actions are all allowed is one of such runs. -/
theorem invariant_of_run_of_forall {I : σ → Prop} {Allowed : σ → α → Prop}
    (hstep : ∀ s a t, I s → Allowed s a → step s a = some t → I t) {actions : List α} {s u : σ}
    (hs : I s) (ha : ∀ before a after t, actions = before ++ a :: after →
      run step s before = some t → Allowed t a)
    (h : run step s actions = some u) : I u := by
  induction actions generalizing s with
  | nil =>
    obtain rfl := Option.some.inj h
    exact hs
  | cons a actions ih =>
    obtain ⟨t, ht, hu⟩ := run_cons_eq_some.mp h
    refine ih (hstep s a t hs (ha [] a actions s rfl rfl) ht) ?_ hu
    intro before b after r hb hr
    apply ha (a :: before) b after r (by rw [hb]; rfl)
    exact run_cons_eq_some.mpr ⟨t, ht, hr⟩

/-- When a property survives exactly the steps that meet a condition, it holds at the end of
a run exactly when it held at its start and every step met the condition. -/
theorem iff_of_run {I P : σ → Prop} {Meets : σ → α → Prop}
    (hstep : ∀ s a t, I s → step s a = some t → I t ∧ (P t ↔ P s ∧ Meets s a))
    {actions : List α} {s u : σ} (hs : I s) (h : run step s actions = some u) :
    P u ↔ P s ∧ ∀ before a after t, actions = before ++ a :: after →
      run step s before = some t → Meets t a := by
  induction actions generalizing s with
  | nil =>
    obtain rfl := Option.some.inj h
    simp
  | cons a actions ih =>
    obtain ⟨t, ht, hu⟩ := run_cons_eq_some.mp h
    obtain ⟨hi, hp⟩ := hstep s a t hs ht
    rw [ih hi hu, hp, and_assoc]
    apply and_congr_right
    intro _
    constructor
    · rintro ⟨hfirst, hrest⟩ before b after r hb hr
      rcases before with _ | ⟨c, before⟩
      · obtain ⟨rfl, rfl⟩ := List.cons.inj hb
        obtain rfl := Option.some.inj hr
        exact hfirst
      · obtain ⟨rfl, rfl⟩ := List.cons.inj hb
        obtain ⟨t', ht', hr⟩ := run_cons_eq_some.mp hr
        obtain rfl := Option.some.inj (ht.symm.trans ht')
        exact hrest before b after r rfl hr
    · intro hall
      refine ⟨hall [] a actions s rfl rfl, fun before b after r hb hr => ?_⟩
      exact hall (a :: before) b after r (by rw [hb]; rfl) (run_cons_eq_some.mpr ⟨t, ht, hr⟩)

/-- A reflexive and transitive relation between the states of every step relates the ends
of every run. -/
theorem rel_of_run {R : σ → σ → Prop} (hrefl : ∀ s, R s s)
    (htrans : ∀ s t u, R s t → R t u → R s u) (hstep : ∀ s a t, step s a = some t → R s t)
    {actions : List α} {s u : σ} (h : run step s actions = some u) : R s u := by
  induction actions generalizing s with
  | nil =>
    obtain rfl := Option.some.inj h
    exact hrefl s
  | cons a actions ih =>
    obtain ⟨t, ht, hu⟩ := run_cons_eq_some.mp h
    exact htrans s t u (hstep s a t ht) (ih hu)

/-- Steps that can always be taken, numbered and keeping an invariant, are taken one after
another. -/
theorem exists_seq_of_step {I : σ → Prop} {R : Nat → σ → σ → Prop}
    (hstep : ∀ n s, I s → ∃ t, R n s t ∧ I t) {s : σ} (hs : I s) :
    ∃ states : Nat → σ, states 0 = s ∧
      ∀ n, I (states n) ∧ R n (states n) (states (n + 1)) := by
  choose next hnext hkeeps using hstep
  let states : Nat → {s // I s} :=
    Nat.rec ⟨s, hs⟩ fun n s => ⟨next n s.1 s.2, hkeeps n s.1 s.2⟩
  exact ⟨fun n => (states n).1, rfl, fun n => ⟨(states n).2, hnext n _ (states n).2⟩⟩

/-! ## Loops that end -/

variable {ω : Type*} {body : Nat → σ → σ × Option ω} {states : Nat → σ}

/-- A loop whose turns say whether they were the last, from its `n`th turn on. -/
def runUntil (body : Nat → σ → σ × Option ω) : Nat → Nat → σ → Option (σ × ω)
  | 0, _, _ => none
  | fuel + 1, n, s =>
    match body n s with
    | (t, some w) => some (t, w)
    | (t, none) => runUntil body fuel (n + 1) t

/-- A loop goes on as long as no turn was the last. -/
theorem runUntil_eq_none {n fuel : Nat}
    (h : ∀ j, n ≤ j → j < n + fuel → body j (states j) = (states (j + 1), none)) :
    runUntil body fuel n (states n) = none := by
  induction fuel generalizing n with
  | zero => rfl
  | succ fuel ih =>
    rw [runUntil, h n (Nat.le_refl n) (by omega)]
    exact ih fun j hn hj => h j (by omega) (by omega)

/-- A loop ends with the first turn that was the last. -/
theorem runUntil_eq_some {n k fuel : Nat} {last : σ} {w : ω}
    (h : ∀ j, n ≤ j → j < k → body j (states j) = (states (j + 1), none))
    (hlast : body k (states k) = (last, some w)) (hk : n ≤ k) (hfuel : k < n + fuel) :
    runUntil body fuel n (states n) = some (last, w) := by
  induction fuel generalizing n with
  | zero => omega
  | succ fuel ih =>
    rw [runUntil]
    rcases Nat.eq_or_lt_of_le hk with rfl | hlt
    · rw [hlast]
    · rw [h n (Nat.le_refl n) hlt]
      exact ih (fun j hn hj => h j (by omega) hj) hlt (by omega)

end LiveData

import Mathlib.Data.List.Count

/-!
# Resources and clean-up

Computations that may raise and that record what they acquire and release, with the
sequencing and the `try` blocks of a language with exceptions.
-/

namespace LiveData

/-- What a computation does to a resource. -/
inductive ResourceEffect (ρ : Type) where
  | acquire (r : ρ)
  | release (r : ρ)
  deriving DecidableEq, Repr

/-- A computation with the record of its effects. -/
structure Tracked (ρ ε α : Type) where
  effects : List (ResourceEffect ρ)
  result : Except ε α

namespace Tracked

variable {ρ ε α β : Type}

instance : Monad (Tracked ρ ε) where
  pure a := ⟨[], .ok a⟩
  bind x f :=
    match x.result with
    | .ok a => ⟨x.effects ++ (f a).effects, (f a).result⟩
    | .error e => ⟨x.effects, .error e⟩

/-- The acquisition of a resource. -/
def acquire (r : ρ) : Tracked ρ ε Unit := ⟨[.acquire r], .ok ()⟩

/-- The release of a resource. -/
def release (r : ρ) : Tracked ρ ε Unit := ⟨[.release r], .ok ()⟩

/-- An exception. -/
def throw (e : ε) : Tracked ρ ε α := ⟨[], .error e⟩

/-- A call without effects on resources, which raises what it is given. -/
def await (raised : Option ε) : Tracked ρ ε Unit :=
  match raised with
  | none => pure ()
  | some e => throw e

/-- `try … finally`: the clean-up is run in any case, and what it raises prevails. -/
def tryFinally (body : Tracked ρ ε α) (cleanup : Tracked ρ ε Unit) : Tracked ρ ε α where
  effects := body.effects ++ cleanup.effects
  result :=
    match cleanup.result with
    | .ok () => body.result
    | .error e => .error e

/-- `try … except`: an exception the handler does not take passes through. -/
def tryExcept (body : Tracked ρ ε α) (handler : ε → Option (Tracked ρ ε α)) : Tracked ρ ε α :=
  match body.result with
  | .ok _ => body
  | .error e =>
    match handler e with
    | none => body
    | some handled => ⟨body.effects ++ handled.effects, handled.result⟩

/-! ## Sequences -/

@[simp] theorem effects_tryFinally (body : Tracked ρ ε α) (cleanup : Tracked ρ ε Unit) :
    (body.tryFinally cleanup).effects = body.effects ++ cleanup.effects := rfl

/-- A sequence goes on after a part that returns. -/
theorem effects_bind_of_ok {x : Tracked ρ ε α} {f : α → Tracked ρ ε β} {a : α}
    (h : x.result = .ok a) : (x >>= f).effects = x.effects ++ (f a).effects := by
  change (match x.result with
    | .ok a => (⟨x.effects ++ (f a).effects, (f a).result⟩ : Tracked ρ ε β)
    | .error e => ⟨x.effects, .error e⟩).effects = _
  rw [h]

/-- A sequence ends with a part that raises. -/
theorem effects_bind_of_error {x : Tracked ρ ε α} {f : α → Tracked ρ ε β} {e : ε}
    (h : x.result = .error e) : (x >>= f).effects = x.effects := by
  change (match x.result with
    | .ok a => (⟨x.effects ++ (f a).effects, (f a).result⟩ : Tracked ρ ε β)
    | .error e => ⟨x.effects, .error e⟩).effects = _
  rw [h]

@[simp] theorem bind_acquire (r : ρ) (f : Unit → Tracked ρ ε β) :
    (acquire r >>= f) = ⟨.acquire r :: (f ()).effects, (f ()).result⟩ := rfl

@[simp] theorem bind_await_none (f : Unit → Tracked ρ ε β) : (await none >>= f) = f () := rfl

end Tracked

/-! ## Balanced records -/

variable {ρ : Type} [DecidableEq ρ]

/-- Whatever is acquired is released once afterwards. -/
def ReleasedOnce : List (ResourceEffect ρ) → Prop
  | [] => True
  | .acquire r :: effects => effects.count (.release r) = 1 ∧ ReleasedOnce effects
  | .release _ :: effects => ReleasedOnce effects

instance decidableReleasedOnce :
    (effects : List (ResourceEffect ρ)) → Decidable (ReleasedOnce effects)
  | [] => isTrue trivial
  | .acquire r :: effects =>
    haveI := decidableReleasedOnce effects
    inferInstanceAs (Decidable (effects.count (.release r) = 1 ∧ ReleasedOnce effects))
  | .release _ :: effects => decidableReleasedOnce effects

/-- Every acquisition of a balanced record is followed by one release. -/
theorem releasedOnce_iff {effects : List (ResourceEffect ρ)} :
    ReleasedOnce effects ↔ ∀ before r after, effects = before ++ .acquire r :: after →
      after.count (.release r) = 1 := by
  induction effects with
  | nil => simp [ReleasedOnce]
  | cons effect effects ih =>
    constructor
    · intro h before r after heq
      rcases before with _ | ⟨first, before⟩
      · obtain ⟨rfl, rfl⟩ := List.cons.inj heq
        exact h.1
      · obtain ⟨rfl, rfl⟩ := List.cons.inj heq
        have hrest : ReleasedOnce (before ++ .acquire r :: after) := by
          cases effect with
          | acquire s => exact h.2
          | release s => exact h
        exact ih.mp hrest before r after rfl
    · intro h
      have hrest : ReleasedOnce effects := by
        apply ih.mpr
        intro before r after heq
        exact h (effect :: before) r after (by rw [heq, List.cons_append])
      cases effect with
      | acquire r => exact ⟨h [] r effects rfl, hrest⟩
      | release r => exact hrest

/-- What is acquired and never released is left over. -/
theorem not_releasedOnce_of_leak {effects : List (ResourceEffect ρ)} {r : ρ}
    (ha : .acquire r ∈ effects) (hr : .release r ∉ effects) : ¬ReleasedOnce effects := by
  intro h
  obtain ⟨before, after, rfl⟩ := List.append_of_mem ha
  have hone := releasedOnce_iff.mp h before r after rfl
  rw [List.count_eq_zero_of_not_mem] at hone
  · exact absurd hone (by decide)
  · exact fun hmem => hr (List.mem_append_right _ (List.mem_cons_of_mem _ hmem))

end LiveData

import Mathlib.Data.List.Nodup
import Mathlib.Data.List.Perm.Subperm

/-!
# Fresh names

A loop tries the candidates of a sequence until one of them is not taken. It ends when the
candidates are distinct, since only finitely many of them are taken.
-/

namespace LiveData

variable {α : Type*} [DecidableEq α] {taken : List α} {candidate : Nat → α}

/-- The first candidate from the `k`th on that is not taken, unless the fuel runs out. -/
def firstFresh (taken : List α) (candidate : Nat → α) : Nat → Nat → Option α
  | 0, _ => none
  | fuel + 1, k =>
    if candidate k ∈ taken then firstFresh taken candidate fuel (k + 1) else some (candidate k)

/-- What is found is a candidate that is not taken. -/
theorem firstFresh_eq_some {fuel k : Nat} {a : α}
    (h : firstFresh taken candidate fuel k = some a) : a ∉ taken ∧ ∃ n, a = candidate n := by
  induction fuel generalizing k with
  | zero => simp [firstFresh] at h
  | succ fuel ih =>
    unfold firstFresh at h
    split at h
    · exact ih h
    · next hk =>
      obtain rfl := Option.some.inj h
      exact ⟨hk, k, rfl⟩

/-- More fuel finds the same. -/
theorem firstFresh_mono {fuel fuel' k : Nat} {a : α} (hle : fuel ≤ fuel')
    (h : firstFresh taken candidate fuel k = some a) :
    firstFresh taken candidate fuel' k = some a := by
  induction fuel generalizing fuel' k with
  | zero => simp [firstFresh] at h
  | succ fuel ih =>
    obtain ⟨extra, rfl⟩ := Nat.exists_eq_add_of_le' (show 1 ≤ fuel' by omega)
    unfold firstFresh at h ⊢
    split at h
    · next hk =>
      rw [if_pos hk]
      exact ih (by omega) h
    · next hk => rw [if_neg hk, h]

/-- When the fuel runs out, every candidate that was tried is taken. -/
theorem mem_of_firstFresh_eq_none {fuel k : Nat} (h : firstFresh taken candidate fuel k = none) :
    ∀ i < fuel, candidate (k + i) ∈ taken := by
  induction fuel generalizing k with
  | zero => simp
  | succ fuel ih =>
    unfold firstFresh at h
    split at h
    · next hk =>
      intro i hi
      cases i with
      | zero => exact hk
      | succ i =>
        have hmem := ih h i (by omega)
        rwa [Nat.add_right_comm] at hmem
    · simp at h

/-- The loop ends once there are more tries than names taken. -/
theorem exists_firstFresh (hc : Function.Injective candidate) {fuel : Nat}
    (hfuel : taken.length < fuel) (k : Nat) :
    ∃ a, firstFresh taken candidate fuel k = some a := by
  cases hfound : firstFresh taken candidate fuel k with
  | some a => exact ⟨a, rfl⟩
  | none =>
    have hmem := mem_of_firstFresh_eq_none hfound
    have hdistinct : ((List.range fuel).map fun i => candidate (k + i)).Nodup :=
      List.nodup_range.map fun i j hij => Nat.add_left_cancel (hc hij)
    have hsubset : (List.range fuel).map (fun i => candidate (k + i)) ⊆ taken := by
      intro a ha
      obtain ⟨i, hi, rfl⟩ := List.mem_map.mp ha
      exact hmem i (List.mem_range.mp hi)
    have hlength := (List.subperm_of_subset hdistinct hsubset).length_le
    rw [List.length_map, List.length_range] at hlength
    omega

end LiveData

import Mathlib.Algebra.Order.BigOperators.Group.List
import Mathlib.Algebra.Order.Ring.Nat

/-!
# Draws from a random source

`Random.choices` for one element and `Random.randrange`, with the number that the source
gives as an argument, and the values that some number leads to.
-/

namespace LiveData

/-- The exceptions of indexing, of draws and of constructors. -/
inductive BuiltinError where
  | indexError
  | valueError
  deriving DecidableEq, Repr

/-- `accumulate` of the weights behind a total. -/
def accumulate (total : Nat) : List Nat → List Nat
  | [] => []
  | weight :: weights => (total + weight) :: accumulate (total + weight) weights

/-- `bisect` for a value in the first entries of a sorted list. -/
def bisect (sorted : List Nat) (value hi : Nat) : Nat :=
  (sorted.take hi).countP fun entry => entry ≤ value

variable {α : Type}

/-- `choices` for one element; `point` is the integer part of `random() * total`. -/
def choices (population : List α) (weights : List Nat) (point : Nat) : Except BuiltinError α :=
  let cumWeights := accumulate 0 weights
  if cumWeights.length ≠ population.length then .error .valueError
  else
    match cumWeights.getLast? with
    | none => .error .indexError
    | some total =>
      if total = 0 then .error .valueError
      else
        match population[bisect cumWeights point (population.length - 1)]? with
        | some element => .ok element
        | none => .error .indexError

/-- `choice`; the remainder of `draw` is the index below the length. -/
def choice (population : List α) (draw : Nat) : Except BuiltinError α :=
  match population[draw % population.length]? with
  | some element => .ok element
  | none => .error .indexError

/-- `randrange`; the remainder of `draw` is the number below the width. -/
def randrange (start stop draw : Nat) : Except BuiltinError Nat :=
  if stop ≤ start then .error .valueError else .ok (start + draw % (stop - start))

/-- `randint`, both ends included. -/
def randint (first last : Int) (draw : Nat) : Except BuiltinError Int :=
  if last < first then .error .valueError else .ok (first + draw % (last + 1 - first))

@[simp] theorem length_accumulate (total : Nat) (weights : List Nat) :
    (accumulate total weights).length = weights.length := by
  induction weights generalizing total with
  | nil => rfl
  | cons weight weights ih => simp [accumulate, ih]

/-- The last running total is the sum. -/
theorem getLast?_accumulate (total : Nat) {weights : List Nat} (h : weights ≠ []) :
    (accumulate total weights).getLast? = some (total + weights.sum) := by
  induction weights generalizing total with
  | nil => exact absurd rfl h
  | cons weight weights ih =>
    cases weights with
    | nil => simp [accumulate]
    | cons next weights =>
      rw [accumulate, List.getLast?_cons, ih _ (by simp)]
      simp [Nat.add_assoc]

/-- The running totals do not fall below their first. -/
theorem le_of_mem_accumulate {total : Nat} {weights : List Nat} {t : Nat}
    (h : t ∈ accumulate total weights) : total ≤ t := by
  induction weights generalizing total with
  | nil => simp [accumulate] at h
  | cons weight weights ih =>
    rcases List.mem_cons.mp h with rfl | h
    · omega
    · exact (Nat.le_add_right _ _).trans (ih h)

/-- The sum of the weights before a position with a positive one leads to that position. -/
theorem bisect_accumulate (total : Nat) {weights : List Nat} {i w : Nat}
    (hw : weights[i]? = some w) (hpos : 0 < w) :
    bisect (accumulate total weights) (total + (weights.take i).sum) (weights.length - 1) = i := by
  unfold bisect
  induction weights generalizing total i with
  | nil => simp at hw
  | cons weight weights ih =>
    cases i with
    | zero =>
      have hweight : weight = w := by simpa using hw
      rw [List.countP_eq_zero]
      intro t ht
      have hle : total + weight ≤ t := by
        rcases List.mem_cons.mp (List.mem_of_mem_take ht) with rfl | hmem
        · exact le_rfl
        · exact le_of_mem_accumulate hmem
      have hlt : total < t := by omega
      simpa using hlt
    | succ i =>
      have hw' : weights[i]? = some w := by simpa using hw
      have hi : i < weights.length := (List.getElem?_eq_some_iff.mp hw').1
      have hrest := ih (total + weight) hw'
      obtain ⟨k, hk⟩ : ∃ k, weights.length = k + 1 := ⟨weights.length - 1, by omega⟩
      rw [hk, Nat.add_sub_cancel] at hrest
      have hsum : total + ((weight :: weights).take (i + 1)).sum =
          total + weight + (weights.take i).sum := by
        rw [List.take_succ_cons, List.sum_cons, Nat.add_assoc]
      rw [hsum, accumulate, List.length_cons, Nat.add_sub_cancel, hk, List.take_succ_cons,
        List.countP_cons, hrest]
      simp

/-- A choice from matching weights with a positive total returns a member. -/
theorem exists_choices_mem {population : List α} {weights : List Nat}
    (hlength : weights.length = population.length) (hpos : 0 < weights.sum) (point : Nat) :
    ∃ element ∈ population, choices population weights point = .ok element := by
  have hne : weights ≠ [] := by
    rintro rfl
    simp at hpos
  have hsize : 0 < population.length := hlength ▸ List.length_pos_of_ne_nil hne
  have hbisect : bisect (accumulate 0 weights) point (population.length - 1) <
      population.length := by
    have hcount : bisect (accumulate 0 weights) point (population.length - 1) ≤
        ((accumulate 0 weights).take (population.length - 1)).length := List.countP_le_length
    rw [List.length_take] at hcount
    omega
  refine ⟨population[bisect (accumulate 0 weights) point (population.length - 1)],
    List.getElem_mem _, ?_⟩
  simp only [choices, length_accumulate, ne_eq, hlength, not_true_eq_false, ite_false,
    getLast?_accumulate 0 hne, Nat.zero_add, if_neg (Nat.ne_of_gt hpos),
    List.getElem?_eq_getElem hbisect]

/-- Some number leads to each member with a positive weight. -/
theorem exists_choices_eq {population : List α} {weights : List Nat} {i w : Nat} {element : α}
    (hlength : weights.length = population.length) (helement : population[i]? = some element)
    (hw : weights[i]? = some w) (hpos : 0 < w) :
    ∃ point, choices population weights point = .ok element := by
  have hmem : w ∈ weights := List.mem_of_getElem? hw
  have hsum : 0 < weights.sum := hpos.trans_le (List.le_sum_of_mem hmem)
  have hbisect := bisect_accumulate 0 hw hpos
  rw [Nat.zero_add, hlength] at hbisect
  refine ⟨(weights.take i).sum, ?_⟩
  simp only [choices, length_accumulate, ne_eq, hlength, not_true_eq_false, ite_false,
    getLast?_accumulate 0 (List.ne_nil_of_mem hmem), Nat.zero_add, if_neg (Nat.ne_of_gt hsum),
    hbisect, helement]

/-- A choice from a population that is not empty returns a member. -/
theorem exists_choice_mem {population : List α} (h : population ≠ []) (draw : Nat) :
    ∃ element ∈ population, choice population draw = .ok element := by
  have hlt : draw % population.length < population.length :=
    Nat.mod_lt _ (List.length_pos_of_ne_nil h)
  refine ⟨population[draw % population.length], List.getElem_mem hlt, ?_⟩
  rw [choice, List.getElem?_eq_getElem hlt]

/-- Every member is chosen for some number, and nothing else is. -/
theorem exists_choice_iff {population : List α} {element : α} :
    (∃ draw, choice population draw = .ok element) ↔ element ∈ population := by
  constructor
  · rintro ⟨draw, h⟩
    unfold choice at h
    split at h
    · next hget => exact Except.ok.inj h ▸ List.mem_of_getElem? hget
    · exact absurd h (by simp)
  · intro h
    obtain ⟨i, hi, rfl⟩ := List.getElem_of_mem h
    exact ⟨i, by rw [choice, Nat.mod_eq_of_lt hi, List.getElem?_eq_getElem hi]⟩

/-- The numbers of a range are the ones that a draw from it can return. -/
theorem exists_randrange_iff {start stop k : Nat} :
    (∃ draw, randrange start stop draw = .ok k) ↔ start ≤ k ∧ k < stop := by
  constructor
  · rintro ⟨draw, h⟩
    unfold randrange at h
    split at h
    · exact absurd h (by simp)
    · next hlt =>
      have hmod : draw % (stop - start) < stop - start := Nat.mod_lt _ (by omega)
      have hk := Except.ok.inj h
      omega
  · intro h
    refine ⟨k - start, ?_⟩
    rw [randrange, if_neg (by omega), Nat.mod_eq_of_lt (by omega), Nat.add_sub_cancel' h.1]

/-- A draw from a range that is not empty returns. -/
theorem exists_randrange {start stop : Nat} (h : start < stop) (draw : Nat) :
    ∃ k, randrange start stop draw = .ok k :=
  ⟨_, if_neg (Nat.not_le.mpr h)⟩

/-- A draw of an integer between two ends in order returns one between them. -/
theorem exists_randint {first last : Int} (h : first ≤ last) (draw : Nat) :
    ∃ k, randint first last draw = .ok k ∧ first ≤ k ∧ k ≤ last := by
  have hwidth : 0 < last + 1 - first := by omega
  have hnonneg := Int.emod_nonneg (draw : Int) hwidth.ne'
  have hlt := Int.emod_lt_of_pos (draw : Int) hwidth
  exact ⟨_, if_neg (by omega), by omega, by omega⟩

end LiveData

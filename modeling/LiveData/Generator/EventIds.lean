import LiveData.Generator.Generation
import Mathlib.Algebra.Ring.Periodic
import Mathlib.Data.Fintype.Pigeonhole
import Mathlib.Data.Nat.ModEq

/-!
# The event ids of producer runs

A run draws the prefix of its ids from its seed and numbers its events with a permuted
counter that is the same in every run.
-/

namespace LiveData.Generator

/-! ## Numerals of ids -/

theorem hexDigit_inj {m n : Nat} (hm : m < 16) (hn : n < 16)
    (h : Json.hexDigit m = Json.hexDigit n) : m = n := by
  unfold Json.hexDigit at h
  split at h <;> split at h <;> omega

@[simp] theorem length_padHex (k n : Nat) : (padHex k n).length = k := by
  induction k generalizing n with
  | zero => rfl
  | succ k ih => simp [padHex, ih]

/-- Numerals that are wide enough are told apart. -/
theorem padHex_inj {k m n : Nat} (hm : m < 16 ^ k) (hn : n < 16 ^ k)
    (h : padHex k m = padHex k n) : m = n := by
  induction k generalizing m n with
  | zero =>
    rw [pow_zero] at hm hn
    omega
  | succ k ih =>
    rw [pow_succ] at hm hn
    rw [padHex, padHex] at h
    obtain ⟨hinit, hlast⟩ := List.append_inj' h rfl
    have hdiv : m / 16 = n / 16 := ih (by omega) (by omega) hinit
    have hmod : m % 16 = n % 16 :=
      hexDigit_inj (by omega) (by omega) (List.cons.inj hlast).1
    omega

/-- Two ids are the same when their prefixes and their permuted counters are. -/
theorem chooseEventId_eq_iff {p q s t : Nat} (hp : p < 2 ^ 32) (hq : q < 2 ^ 32) :
    chooseEventId p s = chooseEventId q t ↔ p = q ∧
      s * eventIdCounterMultiplier % 2 ^ 64 = t * eventIdCounterMultiplier % 2 ^ 64 := by
  constructor
  · intro h
    unfold chooseEventId at h
    obtain ⟨hfront, hcounter⟩ := List.append_inj' h (by simp)
    obtain ⟨-, hprefix⟩ := List.append_inj' hfront (by simp)
    exact ⟨padHex_inj (by omega) (by omega) hprefix, padHex_inj (by omega) (by omega) hcounter⟩
  · rintro ⟨rfl, h⟩
    rw [chooseEventId, chooseEventId, h]

/-- The multiplier permutes the counters of 64 bits. -/
theorem mul_multiplier_mod_eq_iff {s t : Nat} :
    s * eventIdCounterMultiplier % 2 ^ 64 = t * eventIdCounterMultiplier % 2 ^ 64 ↔
      s % 2 ^ 64 = t % 2 ^ 64 := by
  have hcoprime : Nat.gcd (2 ^ 64) eventIdCounterMultiplier = 1 := by decide
  constructor
  · intro h
    have hproducts : s * eventIdCounterMultiplier ≡ t * eventIdCounterMultiplier [MOD 2 ^ 64] := h
    exact hproducts.cancel_right_of_coprime hcoprime
  · intro h
    have hcounters : s ≡ t [MOD 2 ^ 64] := h
    exact hcounters.mul_right _

/-- With one prefix, ids are the same when their counters agree in the low 64 bits. -/
theorem chooseEventId_eq_iff_mod {p s t : Nat} (hp : p < 2 ^ 32) :
    chooseEventId p s = chooseEventId p t ↔ s % 2 ^ 64 = t % 2 ^ 64 := by
  rw [chooseEventId_eq_iff hp hp, mul_multiplier_mod_eq_iff]
  exact and_iff_right rfl

/-- The lower-case hexadecimal digits. -/
def lowerHexDigits : Str := str "0123456789abcdef"

theorem hexDigit_mem {n : Nat} (h : n < 16) : Json.hexDigit n ∈ lowerHexDigits := by
  have hall : ∀ n < 16, Json.hexDigit n ∈ lowerHexDigits := by decide
  exact hall n h

/-- A numeral consists of lower-case hexadecimal digits. -/
theorem mem_lowerHexDigits_of_mem_padHex {k n c : Nat} (h : c ∈ padHex k n) :
    c ∈ lowerHexDigits := by
  induction k generalizing n with
  | zero => simp [padHex] at h
  | succ k ih =>
    rcases List.mem_append.mp h with hinit | hlast
    · exact ih hinit
    · obtain rfl := List.mem_singleton.mp hlast
      exact hexDigit_mem (Nat.mod_lt _ (by decide))

/-- A text that is `evt_` and 24 lower-case hexadecimal digits. -/
def IsEventId (id : Str) : Prop :=
  ∃ digits : Str, id = str "evt_" ++ digits ∧ digits.length = 24 ∧ ∀ c ∈ digits, c ∈ lowerHexDigits

theorem isEventId_chooseEventId (p s : Nat) : IsEventId (chooseEventId p s) := by
  refine ⟨padHex 8 p ++ padHex 16 (s * eventIdCounterMultiplier % 2 ^ 64), ?_, by simp, ?_⟩
  · rw [chooseEventId, List.append_assoc]
  · intro c hc
    rcases List.mem_append.mp hc with hprefix | hcounter
    · exact mem_lowerHexDigits_of_mem_padHex hprefix
    · exact mem_lowerHexDigits_of_mem_padHex hcounter

/-! ## Runs -/

variable {F : Type}

theorem eventId_generateOne (ofCents : Nat → F) (g : EventGenerator) (d : Draws) :
    (g.generateOne ofCents d).1.eventId = chooseEventId g.eventIdPrefix (g.eventSequence + 1) := by
  unfold EventGenerator.generateOne
  cases d.eventType <;> rfl

/-- What a producer run is given besides its seed, and what it draws for its events. -/
structure ProducerRun where
  config : EventGeneratorConfig
  catalog : FakerDataCatalog
  draws : Nat → Draws
  start_le : config.startTime.micros ≤ config.referenceTime.micros

namespace ProducerRun

variable (getrandbits : Fin (2 ^ 64) → Fin (2 ^ 32)) (ofCents : Nat → F) (run : ProducerRun)
  (seed : Fin (2 ^ 64))

/-- `EventGenerator.__init__`, where `getrandbits` gives what `Random(seed).getrandbits(32)`
draws. -/
def start : EventGenerator where
  config := run.config
  catalog := run.catalog
  eventIdPrefix := getrandbits seed
  eventSequence := 0
  start_le := run.start_le
  prefix_lt := (getrandbits seed).isLt

/-- The generator after so many events. -/
def generator : Nat → EventGenerator
  | 0 => run.start getrandbits seed
  | n + 1 => ((generator n).generateOne ofCents (run.draws n)).2

/-- The events of `iter_events`. -/
def event (n : Nat) : GeneratedEvent F :=
  ((run.generator getrandbits ofCents seed n).generateOne ofCents (run.draws n)).1

variable {getrandbits ofCents run seed}

/-- The prefix stays and the sequence counts the events. -/
theorem generator_counts (n : Nat) :
    (run.generator getrandbits ofCents seed n).eventIdPrefix = getrandbits seed ∧
      (run.generator getrandbits ofCents seed n).eventSequence = n := by
  induction n with
  | zero => exact ⟨rfl, rfl⟩
  | succ n ih => exact ⟨ih.1, congrArg (· + 1) ih.2⟩

/-- The id of an event is made of the prefix of its run and its number. -/
theorem eventId_event (n : Nat) : (run.event getrandbits ofCents seed n).eventId =
    chooseEventId (getrandbits seed) (n + 1) := by
  have hcounts : (run.generator getrandbits ofCents seed n).eventIdPrefix = getrandbits seed ∧
      (run.generator getrandbits ofCents seed n).eventSequence = n := generator_counts n
  rw [event, eventId_generateOne, hcounts.1, hcounts.2]

/-- Two runs have no id in common exactly when their seeds draw different prefixes. -/
theorem eventIds_ne_iff {run' : ProducerRun} {seed' : Fin (2 ^ 64)} :
    (∀ i j, (run.event getrandbits ofCents seed i).eventId ≠
        (run'.event getrandbits ofCents seed' j).eventId) ↔
      getrandbits seed ≠ getrandbits seed' := by
  simp only [eventId_event]
  constructor
  · intro h he
    exact h 0 0 (by rw [he])
  · intro hne i j hid
    have hprefix := ((chooseEventId_eq_iff (getrandbits seed).isLt (getrandbits seed').isLt).mp
      hid).1
    exact hne (Fin.ext hprefix)

/-- The ids of a run repeat no earlier than they must, in a fixed form. -/
structure IdsUnique (ids : Nat → Str) : Prop where
  distinct : ∀ n ≤ 2 ^ 64, ((List.range n).map ids).Nodup
  form : ∀ n, IsEventId (ids n)
  period : ∀ k, Function.Periodic ids k ↔ 2 ^ 64 ∣ k

/-- The ids of a run of at most `2 ^ 64` events are distinct, and then they repeat. -/
theorem idsUnique (getrandbits : Fin (2 ^ 64) → Fin (2 ^ 32)) (ofCents : Nat → F)
    (run : ProducerRun) (seed : Fin (2 ^ 64)) :
    IdsUnique fun n => (run.event getrandbits ofCents seed n).eventId where
  distinct := by
    intro n hn
    refine List.Nodup.map_on ?_ List.nodup_range
    intro i hi j hj hid
    rw [eventId_event, eventId_event, chooseEventId_eq_iff_mod (getrandbits seed).isLt] at hid
    have hi' := List.mem_range.mp hi
    have hj' := List.mem_range.mp hj
    omega
  form := by
    intro n
    rw [eventId_event]
    exact isEventId_chooseEventId _ _
  period := by
    intro k
    simp only [Function.Periodic, eventId_event, chooseEventId_eq_iff_mod (getrandbits seed).isLt]
    constructor
    · intro h
      have h0 := h 0
      omega
    · intro h n
      omega

end ProducerRun

/-- Whatever is drawn, two seeds draw the same prefix. -/
theorem exists_same_prefix (getrandbits : Fin (2 ^ 64) → Fin (2 ^ 32)) :
    ∃ seed seed', seed ≠ seed' ∧ getrandbits seed = getrandbits seed' := by
  apply Fintype.exists_ne_map_eq_of_card_lt
  rw [Fintype.card_fin, Fintype.card_fin]
  norm_num

end LiveData.Generator

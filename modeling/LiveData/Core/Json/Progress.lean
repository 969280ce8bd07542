import LiveData.Core.Json.Scanner
import LiveData.Core.Outcome

/-!
# Progress of the JSON scanner

Every value takes at least one character. The loops over elements and items therefore
give the same result under every fuel that covers the text.
-/

namespace LiveData.Json

variable {F α : Type}

/-- A scanner leaves a shorter text behind whatever it returns. -/
def Consumes (scan : Str → Except DecodeError (α × Str)) : Prop :=
  ∀ s v rest, scan s = .ok (v, rest) → rest.length < s.length

theorem length_skipWhitespace_le (s : Str) : (skipWhitespace s).length ≤ s.length :=
  spanRun_length_le _ s

private theorem pushUnit_eq_some {u : StringUnit} {scanned : Option (List StringUnit × Str)}
    {units : List StringUnit} {rest : Str} (h : pushUnit u scanned = some (units, rest)) :
    ∃ tail, scanned = some (tail, rest) ∧ units = u :: tail := by
  simp only [pushUnit, Option.map_eq_some_iff, Prod.exists, Prod.mk.injEq] at h
  obtain ⟨tail, r, h, rfl, rfl⟩ := h
  exact ⟨tail, h, rfl⟩

/-- A string literal takes its closing quote at least. -/
theorem length_scanUnits_lt (s : Str) : ∀ mode units rest,
    scanUnits mode s = some (units, rest) → rest.length < s.length := by
  induction s with
  | nil => intro mode units rest h; cases mode <;> simp [scanUnits] at h
  | cons c s ih =>
    intro mode units rest h
    have hstep : ∀ mode' units', scanUnits mode' s = some (units', rest) →
        rest.length < (c :: s).length := fun mode' units' h' =>
      Nat.lt_succ_of_lt (ih mode' units' rest h')
    have hpush : ∀ u, pushUnit u (scanUnits .plain s) = some (units, rest) →
        rest.length < (c :: s).length := by
      intro u hu
      obtain ⟨tail, ht, -⟩ := pushUnit_eq_some hu
      exact hstep _ _ ht
    cases mode with
    | plain =>
      simp only [scanUnits] at h
      split at h
      · obtain ⟨-, rfl⟩ := Prod.mk.inj (Option.some.inj h)
        simp
      split at h
      · exact hstep _ _ h
      split at h
      · simp at h
      · exact hpush _ h
    | escape =>
      simp only [scanUnits] at h
      split at h
      · exact hstep _ _ h
      split at h
      · exact hpush _ h
      · simp at h
    | unicode more value =>
      simp only [scanUnits] at h
      split at h
      · simp at h
      split at h
      · exact hpush _ h
      · exact hstep _ _ h

theorem scanString_consumes : Consumes scanString := by
  intro s text rest h
  simp only [scanString] at h
  split at h
  · next units r hu =>
    obtain ⟨-, rfl⟩ := Prod.mk.inj (Except.ok.inj h)
    exact length_scanUnits_lt s _ _ _ hu
  · simp at h

private theorem length_scanInteger_lt {s digits rest : Str}
    (h : scanInteger s = some (digits, rest)) : rest.length < s.length := by
  cases s with
  | nil => simp [scanInteger] at h
  | cons c s =>
    simp only [scanInteger] at h
    split at h
    · obtain ⟨-, rfl⟩ := Prod.mk.inj (Option.some.inj h)
      simp
    split at h
    · obtain ⟨-, rfl⟩ := Prod.mk.inj (Option.some.inj h)
      exact Nat.lt_succ_of_le (spanRun_length_le _ _)
    · simp at h

private theorem length_scanFraction_le (s : Str) : (scanFraction s).2.length ≤ s.length := by
  cases s with
  | nil => simp [scanFraction]
  | cons c s =>
    have h := spanRun_length_le isDigit s
    simp only [scanFraction]
    split <;> simp only [List.length_cons] <;> omega

private theorem length_scanSign_le (s : Str) : (scanSign s).2.length ≤ s.length := by
  cases s with
  | nil => simp [scanSign]
  | cons c s =>
    simp only [scanSign]
    split <;> simp

private theorem length_scanExponent_le (s : Str) : (scanExponent s).2.length ≤ s.length := by
  cases s with
  | nil => simp [scanExponent]
  | cons c s =>
    have h := spanRun_length_le isDigit (scanSign s).2
    have hs := length_scanSign_le s
    simp only [scanExponent]
    split <;> simp only [List.length_cons] <;> omega

variable {decoder : Decoder F}

theorem scanUnsigned_consumes (negative : Bool) : Consumes (scanUnsigned decoder negative) := by
  intro s v rest h
  simp only [scanUnsigned] at h
  split at h
  · simp at h
  next integer afterInteger hi =>
  have hlt := length_scanInteger_lt hi
  have hf := length_scanFraction_le afterInteger
  have he := length_scanExponent_le (scanFraction afterInteger).2
  have hrest : rest = (scanExponent (scanFraction afterInteger).2).2 := by
    split at h
    · split at h
      · simp at h
      · exact (Prod.mk.inj (Except.ok.inj h)).2.symm
    · exact (Prod.mk.inj (Except.ok.inj h)).2.symm
  rw [hrest]
  omega

theorem matchNumber_consumes : Consumes (matchNumber decoder) := by
  intro s v rest h
  cases s with
  | nil => simp [matchNumber] at h
  | cons c s =>
    simp only [matchNumber] at h
    split at h
    · exact Nat.lt_succ_of_lt (scanUnsigned_consumes true _ _ _ h)
    · exact scanUnsigned_consumes false _ _ _ h

private theorem length_stripPrefix {word : Str} : ∀ {s rest : Str},
    stripPrefix word s = some rest → rest.length + word.length = s.length := by
  induction word with
  | nil => intro s rest h; simp [stripPrefix] at h; simp [h]
  | cons c word ih =>
    intro s rest h
    cases s with
    | nil => simp [stripPrefix] at h
    | cons d s =>
      simp only [stripPrefix] at h
      split at h
      · have hi := ih h
        simp only [List.length_cons]
        omega
      · simp at h

private theorem exists_of_firstM {β : Type} {f : α → Option β} {items : List α} {b : β}
    (h : items.firstM f = some b) : ∃ a ∈ items, f a = some b := by
  induction items with
  | nil => simp [List.firstM] at h
  | cons a items ih =>
    cases ha : f a with
    | some x =>
      have hx : x = b := by simpa [List.firstM, ha] using h
      exact ⟨a, by simp, hx ▸ ha⟩
    | none =>
      have hi : items.firstM f = some b := by simpa [List.firstM, ha] using h
      obtain ⟨a', hm, hb⟩ := ih hi
      exact ⟨a', by simp [hm], hb⟩

theorem length_scanConstant_lt {s rest : Str} {v : Value F}
    (h : scanConstant decoder s = some (v, rest)) : rest.length < s.length := by
  obtain ⟨p, hp, h⟩ := exists_of_firstM h
  simp only [Option.map_eq_some_iff, Prod.mk.injEq] at h
  obtain ⟨r, hr, -, rfl⟩ := h
  have hlen := length_stripPrefix hr
  have hpos : 0 < p.1.length := by
    have hall : ∀ q ∈ constants decoder, 0 < q.1.length := by
      intro q hq
      simp only [constants, List.mem_cons, List.not_mem_nil, or_false] at hq
      rcases hq with rfl | rfl | rfl | rfl | rfl | rfl <;> exact Nat.succ_pos _
    exact hall p hp
  omega

section

variable {item : Str → Except DecodeError (α × Str)} {close : Nat}

theorem parseItems_consumes (h : Consumes item) (fuel : Nat) :
    Consumes (parseItems close item fuel) := by
  induction fuel with
  | zero => intro s v rest hs; simp [parseItems] at hs
  | succ fuel ih =>
    intro s v rest hs
    obtain ⟨⟨a, t⟩, ha, hs⟩ := bind_eq_ok.mp hs
    have hval := h _ _ _ ha
    have hskip := length_skipWhitespace_le t
    dsimp only at hs
    split at hs
    · simp at hs
    next c r hc =>
    simp only [hc, List.length_cons] at hskip
    split at hs
    · obtain ⟨-, rfl⟩ := Prod.mk.inj (Except.ok.inj hs)
      omega
    split at hs
    · obtain ⟨⟨items, u⟩, hr, hs⟩ := bind_eq_ok.mp hs
      obtain ⟨-, rfl⟩ := Prod.mk.inj (Except.ok.inj hs)
      have hrest := ih _ _ _ hr
      have hskip' := length_skipWhitespace_le r
      dsimp only
      omega
    · simp at hs

/-- Any fuel that covers the text gives the same items. -/
theorem parseItems_fuel (h : Consumes item) (n : Nat) : ∀ (m : Nat) (s : Str), s.length < n →
    s.length < m → parseItems close item n s = parseItems close item m s := by
  induction n with
  | zero => intro m s hn; omega
  | succ n ih =>
    intro m s hn hm
    obtain ⟨m, rfl⟩ : ∃ k, m = k + 1 := ⟨m - 1, by omega⟩
    simp only [parseItems]
    cases ha : item s with
    | error e => rfl
    | ok p =>
      obtain ⟨a, t⟩ := p
      have hval := h _ _ _ ha
      have hskip := length_skipWhitespace_le t
      simp only [ok_bind]
      cases hc : skipWhitespace t with
      | nil => rfl
      | cons c r =>
        have hskip' := length_skipWhitespace_le r
        simp only [hc, List.length_cons] at hskip
        simp only [ih m (skipWhitespace r) (by omega) (by omega)]

/-- The loop of a container reads the same items under every larger fuel. -/
theorem parseContainer_eq (h : Consumes item) {s rest : Str} {c : Nat}
    (hs : skipWhitespace s = c :: rest) (hc : c ≠ close) {fuel : Nat} (hf : s.length < fuel) :
    parseContainer close item s = parseItems close item fuel (c :: rest) := by
  have hskip := length_skipWhitespace_le s
  rw [hs] at hskip
  simp only [parseContainer, hs]
  rw [if_neg hc]
  exact parseItems_fuel h _ _ _ (by omega) (by omega)

theorem parseContainer_consumes (h : Consumes item) : Consumes (parseContainer close item) := by
  intro s v rest hs
  have hskip := length_skipWhitespace_le s
  simp only [parseContainer] at hs
  split at hs
  · simp at hs
  next c r hc =>
  simp only [hc, List.length_cons] at hskip
  split at hs
  · obtain ⟨-, rfl⟩ := Prod.mk.inj (Except.ok.inj hs)
    omega
  · have hlt := parseItems_consumes h _ _ _ _ hs
    simp only [List.length_cons] at hlt
    omega

end

section

variable {scan : Str → Except DecodeError (Value F × Str)}

theorem parseMember_consumes (h : Consumes scan) : Consumes (parseMember scan) := by
  intro s v rest hs
  cases s with
  | nil => simp [parseMember] at hs
  | cons c s =>
    simp only [parseMember] at hs
    split at hs
    · obtain ⟨⟨key, t⟩, hk, hs⟩ := bind_eq_ok.mp hs
      have hkey := scanString_consumes _ _ _ hk
      have hskip := length_skipWhitespace_le t
      dsimp only at hs
      split at hs
      · simp at hs
      next d r hd =>
      split at hs
      · obtain ⟨⟨w, u⟩, hw, hs⟩ := bind_eq_ok.mp hs
        obtain ⟨-, rfl⟩ := Prod.mk.inj (Except.ok.inj hs)
        have hval := h _ _ _ hw
        have hskip' := length_skipWhitespace_le r
        simp only [hd, List.length_cons] at hskip ⊢
        omega
      · simp at hs
    · simp at hs

theorem parseArray_consumes (h : Consumes scan) : Consumes (parseArray scan) := by
  intro s v rest hs
  obtain ⟨⟨items, t⟩, ht, hs⟩ := bind_eq_ok.mp hs
  obtain ⟨-, rfl⟩ := Prod.mk.inj (Except.ok.inj hs)
  exact parseContainer_consumes h _ _ _ ht

theorem parseObject_consumes (h : Consumes scan) : Consumes (parseObject scan) := by
  intro s v rest hs
  obtain ⟨⟨items, t⟩, ht, hs⟩ := bind_eq_ok.mp hs
  obtain ⟨-, rfl⟩ := Prod.mk.inj (Except.ok.inj hs)
  exact parseContainer_consumes (parseMember_consumes h) _ _ _ ht

theorem scanTerm_consumes {array object : Str → Except DecodeError (Value F × Str)}
    (ha : Consumes array) (ho : Consumes object) : Consumes (scanTerm decoder array object) := by
  intro s v rest hs
  cases s with
  | nil => simp [scanTerm] at hs
  | cons c s =>
    simp only [scanTerm] at hs
    split at hs
    · obtain ⟨⟨text, t⟩, ht, hs⟩ := bind_eq_ok.mp hs
      obtain ⟨-, rfl⟩ := Prod.mk.inj (Except.ok.inj hs)
      exact Nat.lt_succ_of_lt (scanString_consumes _ _ _ ht)
    split at hs
    · exact Nat.lt_succ_of_lt (ho _ _ _ hs)
    split at hs
    · exact Nat.lt_succ_of_lt (ha _ _ _ hs)
    split at hs
    · next p hp =>
      obtain rfl := Except.ok.inj hs
      exact length_scanConstant_lt hp
    · exact matchNumber_consumes _ _ _ hs

/-- Every value takes at least one character. -/
theorem scanOnce_consumes (depth : Nat) : Consumes (scanOnce decoder depth) := by
  have hlimit : Consumes (fun _ : Str =>
      (.error .recursionError : Except DecodeError (Value F × Str))) :=
    fun s v rest hs => by simp at hs
  induction depth with
  | zero => exact scanTerm_consumes hlimit hlimit
  | succ depth ih => exact scanTerm_consumes (parseArray_consumes ih) (parseObject_consumes ih)

end

end LiveData.Json

import LiveData.Core.Json.Literals

/-!
# The limits of the JSON scanner

Raising a limit changes no result but the failures that hit it. What a text denotes is
therefore independent of the limits.
-/

namespace LiveData.Json

variable {F α β : Type}

/-- A failure of a limit. -/
def DecodeError.IsLimit : DecodeError → Prop
  | .jsonDecodeError => False
  | .valueError => True
  | .recursionError => True

/-- The same result, unless the first one fails at a limit. -/
def Agrees (x y : Except DecodeError α) : Prop := x = y ∨ ∃ e, e.IsLimit ∧ x = .error e

theorem Agrees.refl (x : Except DecodeError α) : Agrees x x := Or.inl rfl

/-- Agreement passes through sequencing. -/
theorem Agrees.bind {x y : Except DecodeError α} {f g : α → Except DecodeError β}
    (h : Agrees x y) (hf : ∀ a, Agrees (f a) (g a)) : Agrees (x >>= f) (y >>= g) := by
  rcases h with rfl | ⟨e, he, rfl⟩
  · cases x with
    | error e => exact .refl _
    | ok a => exact hf a
  · exact Or.inr ⟨e, he, rfl⟩

theorem Agrees.ok {x y : Except DecodeError α} {a : α} (h : Agrees x y) (hx : x = .ok a) :
    y = .ok a := by
  rcases h with rfl | ⟨e, -, rfl⟩
  · exact hx
  · simp at hx

theorem Agrees.jsonDecodeError {x y : Except DecodeError α} (h : Agrees x y)
    (hx : x = .error .jsonDecodeError) : y = .error .jsonDecodeError := by
  rcases h with rfl | ⟨e, he, rfl⟩
  · exact hx
  · obtain rfl := Except.error.inj hx
    exact absurd he id

/-- Scanners whose results agree on every text. -/
def ScansAgree (scan scan' : Str → Except DecodeError (α × Str)) : Prop :=
  ∀ s, Agrees (scan s) (scan' s)

theorem parseItems_agrees {item item' : Str → Except DecodeError (α × Str)}
    (h : ScansAgree item item') (close fuel : Nat) :
    ScansAgree (parseItems close item fuel) (parseItems close item' fuel) := by
  induction fuel with
  | zero => exact fun _ => .refl _
  | succ fuel ih =>
    intro s
    apply (h s).bind
    intro p
    obtain ⟨a, rest⟩ := p
    dsimp only
    split
    · exact .refl _
    · split
      · exact .refl _
      · split
        · exact (ih _).bind fun _ => .refl _
        · exact .refl _

theorem parseContainer_agrees {item item' : Str → Except DecodeError (α × Str)}
    (h : ScansAgree item item') (close : Nat) :
    ScansAgree (parseContainer close item) (parseContainer close item') := by
  intro s
  simp only [parseContainer]
  split
  · exact .refl _
  · split
    · exact .refl _
    · exact parseItems_agrees h _ _ _

section

variable {scan scan' : Str → Except DecodeError (Value F × Str)}

theorem parseMember_agrees (h : ScansAgree scan scan') :
    ScansAgree (parseMember scan) (parseMember scan') := by
  intro s
  cases s with
  | nil => exact .refl _
  | cons c rest =>
    simp only [parseMember]
    split
    · apply (Agrees.refl _).bind
      intro p
      split
      · exact .refl _
      · split
        · exact (h _).bind fun _ => .refl _
        · exact .refl _
    · exact .refl _

theorem parseArray_agrees (h : ScansAgree scan scan') :
    ScansAgree (parseArray scan) (parseArray scan') :=
  fun s => (parseContainer_agrees h _ s).bind fun _ => .refl _

theorem parseObject_agrees (h : ScansAgree scan scan') :
    ScansAgree (parseObject scan) (parseObject scan') :=
  fun s => (parseContainer_agrees (parseMember_agrees h) _ s).bind fun _ => .refl _

end

/-- The same float reader under limits at least as high. -/
structure Decoder.Le (d d' : Decoder F) : Prop where
  parseFloat : d.parseFloat = d'.parseFloat
  maxStrDigits : d.maxStrDigits ≤ d'.maxStrDigits
  recursionLimit : d.recursionLimit ≤ d'.recursionLimit

variable {d d' : Decoder F}

theorem scanUnsigned_agrees (h : d.Le d') (negative : Bool) :
    ScansAgree (scanUnsigned d negative) (scanUnsigned d' negative) := by
  intro s
  simp only [scanUnsigned, h.parseFloat]
  split
  · exact .refl _
  · next integer afterInteger _ =>
    split
    · have hle := h.maxStrDigits
      by_cases hl : d.maxStrDigits < integer.length
      · exact Or.inr ⟨.valueError, trivial, by rw [if_pos hl]⟩
      · have hl' : ¬d'.maxStrDigits < integer.length := by omega
        rw [if_neg hl, if_neg hl']
        exact .refl _
    · exact .refl _

theorem matchNumber_agrees (h : d.Le d') : ScansAgree (matchNumber d) (matchNumber d') := by
  intro s
  cases s with
  | nil => exact .refl _
  | cons c rest =>
    simp only [matchNumber]
    split
    · exact scanUnsigned_agrees h true rest
    · exact scanUnsigned_agrees h false (c :: rest)

theorem scanTerm_agrees (h : d.Le d') {array array' object object' :
      Str → Except DecodeError (Value F × Str)} (ha : ScansAgree array array')
    (ho : ScansAgree object object') :
    ScansAgree (scanTerm d array object) (scanTerm d' array' object') := by
  intro s
  cases s with
  | nil => exact .refl _
  | cons c rest =>
    have hc : scanConstant d (c :: rest) = scanConstant d' (c :: rest) := by
      simp only [scanConstant, constants, h.parseFloat]
    simp only [scanTerm, hc]
    split
    · exact .refl _
    · split
      · exact ho rest
      · split
        · exact ha rest
        · split
          · exact .refl _
          · exact matchNumber_agrees h (c :: rest)

/-- Deeper nesting and longer integers only turn limit failures into results. -/
theorem scanOnce_agrees (h : d.Le d') (depth : Nat) :
    ∀ depth', depth ≤ depth' → ScansAgree (scanOnce d depth) (scanOnce d' depth') := by
  induction depth with
  | zero =>
    intro depth' _
    have hlimit : ∀ scan : Str → Except DecodeError (Value F × Str),
        ScansAgree (fun _ => .error .recursionError) scan :=
      fun scan s => Or.inr ⟨.recursionError, trivial, rfl⟩
    cases depth' with
    | zero => exact scanTerm_agrees h (hlimit _) (hlimit _)
    | succ depth' => exact scanTerm_agrees h (hlimit _) (hlimit _)
  | succ depth ih =>
    intro depth' hle
    obtain ⟨depth', rfl⟩ : ∃ k, depth' = k + 1 := ⟨depth' - 1, by omega⟩
    have hi := ih depth' (by omega)
    exact scanTerm_agrees h (parseArray_agrees hi) (parseObject_agrees hi)

/-- Raising limits keeps every result of `loads` but the failures that hit them. -/
theorem loads_agrees (h : d.Le d') (s : Str) : Agrees (loads d s) (loads d' s) := by
  simp only [loads]
  split
  · exact .refl _
  · exact (scanOnce_agrees h _ _ h.recursionLimit _).bind fun _ => .refl _

/-- The decoder of a float reader with given limits. -/
def Decoder.withLimits (d : Decoder F) (maxStrDigits recursionLimit : Nat) : Decoder F :=
  { d with maxStrDigits := maxStrDigits, recursionLimit := recursionLimit }

/-- What a text denotes: its value under limits that suffice for it. -/
def Denotes (d : Decoder F) (s : Str) (v : Value F) : Prop :=
  ∃ maxStrDigits recursionLimit, loads (d.withLimits maxStrDigits recursionLimit) s = .ok v

private theorem le_max_left (d : Decoder F) (n k : Nat) :
    d.Le (d.withLimits (max d.maxStrDigits n) (max d.recursionLimit k)) :=
  ⟨rfl, Nat.le_max_left _ _, Nat.le_max_left _ _⟩

private theorem le_max_right (d : Decoder F) (n k : Nat) :
    (d.withLimits n k).Le (d.withLimits (max d.maxStrDigits n) (max d.recursionLimit k)) :=
  ⟨rfl, Nat.le_max_right _ _, Nat.le_max_right _ _⟩

/-- What `loads` returns is what the text denotes. -/
theorem denotes_of_loads {s : Str} {v : Value F} (h : loads d s = .ok v) : Denotes d s v :=
  ⟨d.maxStrDigits, d.recursionLimit, h⟩

/-- A text denotes what `loads` returns and nothing else. -/
theorem Denotes.eq_of_loads {s : Str} {v w : Value F} (hv : Denotes d s v)
    (hw : loads d s = .ok w) : v = w := by
  obtain ⟨n, k, hv⟩ := hv
  have h := (loads_agrees (le_max_right d n k) s).ok hv
  rw [(loads_agrees (le_max_left d n k) s).ok hw] at h
  exact (Except.ok.inj h).symm

/-- A text that is rejected as bad JSON denotes nothing under any limits. -/
theorem not_denotes_of_loads {s : Str} (h : loads d s = .error .jsonDecodeError) (v : Value F) :
    ¬Denotes d s v := by
  rintro ⟨n, k, hv⟩
  have h' := (loads_agrees (le_max_right d n k) s).ok hv
  rw [(loads_agrees (le_max_left d n k) s).jsonDecodeError h] at h'
  simp at h'

/-- The scan of a text gives up at a limit. -/
def HitsLimit (d : Decoder F) (s : Str) : Prop :=
  ∃ e : DecodeError, e.IsLimit ∧ loads d s = .error e

/-- An integer with more digits than allowed is not read. -/
theorem hitsLimit_of_long_integer {t : Str} (ht : IntegerText t)
    (h : d.maxStrDigits < t.length) : HitsLimit d t := by
  obtain ⟨c, rest, rfl, hc⟩ := ht.head
  have hi : scanInteger (c :: rest) = some (c :: rest, []) := by
    simpa using scanInteger_append ht (stopsRun_nil isDigit)
  have hb : c ≠ 0xFEFF := by
    have hd : 48 ≤ c ∧ c ≤ 57 := by simpa [isDigit] using hc
    omega
  have hs : scanUnsigned d false (c :: rest) = .error .valueError := by
    simp only [scanUnsigned, hi]
    exact if_pos h
  refine ⟨.valueError, trivial, ?_⟩
  simp only [loads, List.head?_cons, Option.some.injEq, hb, ite_false,
    skipWhitespace_cons (isWhitespace_of_digit hc), scanOnce_of_digit hc, hs]
  rfl

end LiveData.Json

import LiveData.Core.Whitespace

/-!
# Trace contexts of requests

`_parse_traceparent` with its field validators, and the order in which `resolve_trace_context`
looks for a trace. The parser accepts exactly the texts of the grammar.
-/

namespace LiveData.Platform

/-! ## The parser -/

/-- `_LOWER_HEX_DIGITS`. -/
def lowerHexDigitSet : Str := asciiLower (str "0123456789abcdefABCDEF")

/-- `_is_lower_hex`. -/
def isLowerHex (value : Str) (length : Nat) : Bool :=
  value.length = length && value.all fun char => char ∈ lowerHexDigitSet

/-- `_is_all_zero`: the set of the characters is the set of a zero. -/
def isAllZero (value : Str) : Bool := value.all (· = 48) && value.contains 48

/-- `_traceparent_hex_validator`. -/
def traceparentHexValidator (length : Nat) (allowAllZero : Bool) (forbiddenValues : List Str)
    (value : Str) : Bool :=
  isLowerHex value length && value ∉ forbiddenValues && !(!allowAllZero && isAllZero value)

/-- `_TRACEPARENT_FIELD_VALIDATORS`. -/
def traceparentFieldValidators : List (Str → Bool) :=
  [traceparentHexValidator 2 true [str "ff"],
    traceparentHexValidator 32 false [],
    traceparentHexValidator 16 false [],
    traceparentHexValidator 2 true []]

/-- `_parse_traceparent`. -/
def parseTraceparent : Option Str → Option Str × Option Str
  | none => (none, none)
  | some value =>
    match (strip value).splitOn 45 with
    | [version, traceId, parentId, traceFlags] =>
      if (traceparentFieldValidators.zip [version, traceId, parentId, traceFlags]).all
          fun item => item.1 item.2 then
        (some traceId, some parentId)
      else (none, none)
    | _ => (none, none)

/-- What the tracer gives for the current span; a valid one with its formatted ids. -/
inductive CurrentSpan where
  | valid (traceId spanId : Str)
  | invalid
  | failed (error : Str)
  deriving DecidableEq, Repr

/-- `current_trace_context`. -/
def currentTraceContext : CurrentSpan → Option Str × Option Str × Option Str
  | .valid traceId spanId => (some traceId, some spanId, none)
  | .invalid => (none, none, none)
  | .failed error => (none, none, some error)

/-- `resolve_trace_context`, from the two headers and the current span. -/
def resolveTraceContext (traceparent : Option Str) (currentSpan : CurrentSpan)
    (xTraceId : Option Str) : Option Str × Option Str × Option Str :=
  match parseTraceparent traceparent with
  | (some parsedTraceId, parsedSpanId) => (some parsedTraceId, parsedSpanId, none)
  | (none, _) =>
    match currentTraceContext currentSpan with
    | (some activeTraceId, activeSpanId, tracerError) =>
      (some activeTraceId, activeSpanId, tracerError)
    | (none, _, tracerError) =>
      match xTraceId with
      | some traceIdHeader =>
        if traceIdHeader = [] then (none, none, tracerError)
        else (some traceIdHeader, none, tracerError)
      | none => (none, none, tracerError)

/-! ## The grammar -/

/-- Exactly `n` lower-case hexadecimal digits. -/
def HexDigits (n : Nat) (field : Str) : Prop :=
  field.length = n ∧ ∀ c ∈ field, (48 ≤ c ∧ c ≤ 57) ∨ (97 ≤ c ∧ c ≤ 102)

/-- The four fields of a header. -/
structure Traceparent where
  version : Str
  traceId : Str
  parentId : Str
  traceFlags : Str

/-- The header of four fields. -/
def Traceparent.text (fields : Traceparent) : Str :=
  fields.version ++ str "-" ++ fields.traceId ++ str "-" ++ fields.parentId ++ str "-" ++
    fields.traceFlags

/-- Fields that the grammar allows. -/
structure Traceparent.Valid (fields : Traceparent) : Prop where
  version : HexDigits 2 fields.version
  version_ne : fields.version ≠ str "ff"
  traceId : HexDigits 32 fields.traceId
  traceId_ne : fields.traceId ≠ List.replicate 32 48
  parentId : HexDigits 16 fields.parentId
  parentId_ne : fields.parentId ≠ List.replicate 16 48
  traceFlags : HexDigits 2 fields.traceFlags

/-- A text is a header of the grammar, but for whitespace around it. -/
def IsTraceparent (text : Str) (fields : Traceparent) : Prop :=
  fields.Valid ∧ ∃ before after, text = before ++ (fields.text ++ after) ∧
    (∀ c ∈ before, isSpace c = true) ∧ ∀ c ∈ after, isSpace c = true

theorem isLowerHex_iff {value : Str} {n : Nat} : isLowerHex value n = true ↔ HexDigits n value := by
  have hset : ∀ c, c ∈ lowerHexDigitSet ↔ (48 ≤ c ∧ c ≤ 57) ∨ (97 ≤ c ∧ c ≤ 102) := by
    intro c
    have hdigits : lowerHexDigitSet = [48, 49, 50, 51, 52, 53, 54, 55, 56, 57, 97, 98, 99, 100, 101,
      102, 97, 98, 99, 100, 101, 102] := by decide
    rw [hdigits]
    simp only [List.mem_cons, List.not_mem_nil, or_false]
    omega
  simp [isLowerHex, HexDigits, hset]

theorem isAllZero_iff {value : Str} {n : Nat} (hn : 0 < n) (h : value.length = n) :
    isAllZero value = true ↔ value = List.replicate n 48 := by
  rw [List.eq_replicate_iff, isAllZero, Bool.and_eq_true, List.all_eq_true, List.contains_iff_mem]
  constructor
  · rintro ⟨hall, -⟩
    exact ⟨h, fun c hc => of_decide_eq_true (hall c hc)⟩
  · rintro ⟨-, hall⟩
    obtain ⟨c, hc⟩ := List.exists_mem_of_length_pos (h ▸ hn)
    exact ⟨fun d hd => decide_eq_true (hall d hd), hall c hc ▸ hc⟩

/-- A validator accepts the digits of its length, but for the values it forbids. -/
theorem traceparentHexValidator_iff {n : Nat} (hn : 0 < n) (allowAllZero : Bool)
    (forbiddenValues : List Str) (value : Str) :
    traceparentHexValidator n allowAllZero forbiddenValues value = true ↔
      HexDigits n value ∧ value ∉ forbiddenValues ∧
        (allowAllZero = false → value ≠ List.replicate n 48) := by
  rw [traceparentHexValidator, Bool.and_eq_true, Bool.and_eq_true, isLowerHex_iff, and_assoc,
    decide_eq_true_eq]
  refine and_congr_right fun hdigits => and_congr_right fun _ => ?_
  rw [ne_eq, ← isAllZero_iff hn hdigits.1]
  cases allowAllZero <;> simp

theorem HexDigits.no_dash {n : Nat} {field : Str} (h : HexDigits n field) : 45 ∉ field := by
  intro hmem
  have hdigit := h.2 45 hmem
  omega

/-- The validators accept the fields that the grammar allows. -/
theorem all_validators_iff (fields : Traceparent) :
    (traceparentFieldValidators.zip
      [fields.version, fields.traceId, fields.parentId, fields.traceFlags]).all
        (fun item => item.1 item.2) = true ↔ fields.Valid := by
  simp only [traceparentFieldValidators, List.zip_cons_cons, List.zip_nil_right, List.all_cons,
    List.all_nil, Bool.and_true, Bool.and_eq_true, traceparentHexValidator_iff Nat.zero_lt_two,
    traceparentHexValidator_iff (show 0 < 32 by decide),
    traceparentHexValidator_iff (show 0 < 16 by decide)]
  constructor
  · rintro ⟨⟨hversion, hne, -⟩, ⟨htrace, -, htraceNe⟩, ⟨hparent, -, hparentNe⟩, hflags, -⟩
    exact ⟨hversion, by simpa using hne, htrace, htraceNe trivial, hparent,
      hparentNe trivial, hflags⟩
  · intro h
    exact ⟨⟨h.version, by simpa using h.version_ne, nofun⟩,
      ⟨h.traceId, List.not_mem_nil, fun _ => h.traceId_ne⟩,
      ⟨h.parentId, List.not_mem_nil, fun _ => h.parentId_ne⟩, h.traceFlags, List.not_mem_nil, nofun⟩

theorem Traceparent.text_eq (fields : Traceparent) : fields.text =
    [45].intercalate [fields.version, fields.traceId, fields.parentId, fields.traceFlags] := by
  have hdash : str "-" = [45] := rfl
  simp [Traceparent.text, hdash, List.intercalate]

/-- The header of fields without dashes is split into them. -/
theorem Traceparent.Valid.splitOn {fields : Traceparent} (h : fields.Valid) :
    fields.text.splitOn 45 =
      [fields.version, fields.traceId, fields.parentId, fields.traceFlags] := by
  rw [Traceparent.text_eq]
  refine List.splitOn_intercalate 45 ?_ (List.cons_ne_nil _ _)
  simp only [List.mem_cons, List.not_mem_nil, or_false]
  rintro field (rfl | rfl | rfl | rfl)
  · exact h.version.no_dash
  · exact h.traceId.no_dash
  · exact h.parentId.no_dash
  · exact h.traceFlags.no_dash

/-- Neither digits nor dashes are whitespace. -/
theorem Traceparent.Valid.stripped {fields : Traceparent} (h : fields.Valid) :
    Stripped fields.text := by
  have hdigits : ∀ {n : Nat} {field : Str}, HexDigits n field → ∀ c ∈ field, isSpace c = false := by
    intro n field hfield c hc
    have hdigit := hfield.2 c hc
    simp only [isSpace, Bool.or_eq_false_iff, Bool.and_eq_false_iff, decide_eq_false_iff_not,
      beq_eq_false_iff_ne]
    omega
  have hdash : ∀ c ∈ str "-", isSpace c = false := by decide
  apply stripped_of_forall
  simp only [Traceparent.text, List.forall_mem_append]
  exact ⟨⟨⟨⟨⟨⟨hdigits h.version, hdash⟩, hdigits h.traceId⟩, hdash⟩, hdigits h.parentId⟩, hdash⟩,
    hdigits h.traceFlags⟩

theorem isTraceparent_iff {text : Str} {fields : Traceparent} :
    IsTraceparent text fields ↔ fields.Valid ∧ strip text = fields.text := by
  refine and_congr_right fun h => ?_
  have hne : fields.text ≠ [] := by simp [Traceparent.text, str]
  exact (strip_eq_iff hne h.stripped).symm

/-- A header of the grammar is parsed. -/
theorem parseTraceparent_of_isTraceparent {text : Str} {fields : Traceparent}
    (h : IsTraceparent text fields) :
    parseTraceparent (some text) = (some fields.traceId, some fields.parentId) := by
  obtain ⟨hvalid, hstrip⟩ := isTraceparent_iff.mp h
  have hall := (all_validators_iff fields).mpr hvalid
  simp only [parseTraceparent, hstrip, hvalid.splitOn, hall, if_true]

/-- Everything else is not. -/
theorem parseTraceparent_cases (text : Str) : (∃ fields, IsTraceparent text fields) ∨
    parseTraceparent (some text) = (none, none) := by
  simp only [parseTraceparent]
  split
  · next version traceId parentId traceFlags hsplit =>
    split
    · next hall =>
      have hvalid : Traceparent.Valid ⟨version, traceId, parentId, traceFlags⟩ :=
        (all_validators_iff _).mp hall
      refine Or.inl ⟨⟨version, traceId, parentId, traceFlags⟩, isTraceparent_iff.mpr ⟨hvalid, ?_⟩⟩
      rw [Traceparent.text_eq, ← hsplit, List.intercalate_splitOn]
    · exact Or.inr rfl
  · exact Or.inr rfl

/-- Where a trace comes from without a header of the grammar: the active span, and then
`x-trace-id`. -/
structure FallsThrough (traceparent : Option Str) : Prop where
  span : ∀ traceId spanId xTraceId, resolveTraceContext traceparent (.valid traceId spanId)
    xTraceId = (some traceId, some spanId, none)
  header : ∀ currentSpan xTraceId, (currentTraceContext currentSpan).1 = none → xTraceId ≠ [] →
    resolveTraceContext traceparent currentSpan (some xTraceId) =
      (some xTraceId, none, (currentTraceContext currentSpan).2.2)
  nothing : ∀ currentSpan, (currentTraceContext currentSpan).1 = none →
    ∀ xTraceId ∈ [none, some []], resolveTraceContext traceparent currentSpan xTraceId =
      (none, none, (currentTraceContext currentSpan).2.2)

/-- A header that is not parsed is passed over. -/
theorem fallsThrough_of_parse {traceparent : Option Str}
    (h : parseTraceparent traceparent = (none, none)) : FallsThrough traceparent := by
  constructor
  · intro traceId spanId xTraceId
    simp only [resolveTraceContext, h, currentTraceContext]
  · intro currentSpan xTraceId hnone hne
    cases currentSpan with
    | valid traceId spanId => simp [currentTraceContext] at hnone
    | invalid => simp only [resolveTraceContext, h, currentTraceContext, if_neg hne]
    | failed error => simp only [resolveTraceContext, h, currentTraceContext, if_neg hne]
  · intro currentSpan hnone xTraceId hempty
    simp only [List.mem_cons, List.not_mem_nil, or_false] at hempty
    cases currentSpan with
    | valid traceId spanId => simp [currentTraceContext] at hnone
    | invalid => rcases hempty with rfl | rfl <;> simp [resolveTraceContext, h, currentTraceContext]
    | failed error =>
      rcases hempty with rfl | rfl <;> simp [resolveTraceContext, h, currentTraceContext]

/-- What a parser of the grammar does with a text. -/
structure ParsesGrammar (text : Str) : Prop where
  parsed_iff : ∀ traceId spanId, parseTraceparent (some text) = (some traceId, some spanId) ↔
    ∃ version traceFlags, IsTraceparent text ⟨version, traceId, spanId, traceFlags⟩
  otherwise : (¬∃ fields, IsTraceparent text fields) →
    parseTraceparent (some text) = (none, none) ∧ FallsThrough (some text)

/-- The parser accepts exactly the texts of the grammar and gives back the ids of every valid
header. -/
theorem parsesGrammar : (∀ text, ParsesGrammar text) ∧ ∀ fields : Traceparent, fields.Valid →
    parseTraceparent (some fields.text) = (some fields.traceId, some fields.parentId) := by
  constructor
  · intro text
    constructor
    · intro traceId spanId
      constructor
      · intro h
        rcases parseTraceparent_cases text with ⟨fields, hfields⟩ | hnone
        · have hsame := (parseTraceparent_of_isTraceparent hfields).symm.trans h
          obtain ⟨htrace, hspan⟩ := Prod.mk.inj hsame
          obtain rfl := Option.some.inj htrace
          obtain rfl := Option.some.inj hspan
          exact ⟨fields.version, fields.traceFlags, hfields⟩
        · simp [hnone] at h
      · rintro ⟨version, traceFlags, h⟩
        exact parseTraceparent_of_isTraceparent h
    · intro h
      have hnone := (parseTraceparent_cases text).resolve_left h
      exact ⟨hnone, fallsThrough_of_parse hnone⟩
  · intro fields h
    refine parseTraceparent_of_isTraceparent ⟨h, [], [], ?_, by simp, by simp⟩
    rw [List.nil_append, List.append_nil]

end LiveData.Platform

import LiveData.Core.Lines
import LiveData.Core.Outcome
import LiveData.Core.Sampling
import LiveData.Core.Whitespace

/-!
# Justified lines

`has_justification` of the guards. It looks for a marker in the line of a node and in the
comments above it, and the lines are those of `str.splitlines`, which end at more characters
than the lines that the parser counts.
-/

namespace LiveData.Guardrails

/-! ## Lines -/

/-- The characters that end a line for `str.splitlines` and for no parser. -/
def isFurtherLineEnd (c : Nat) : Bool :=
  c == 11 || c == 12 || (28 ≤ c && c ≤ 30) || c == 133 || c == 8232 || c == 8233

/-- `str.splitlines`. -/
def splitlines (text : Str) : List Str := splitLines isFurtherLineEnd text

/-- The lines that the parser numbers. -/
def sourceLines (text : Str) : List Str := splitLines (fun _ => false) text

/-- Every line of the parser has a number of `str.splitlines`. -/
theorem length_sourceLines_le (text : Str) :
    (sourceLines text).length ≤ (splitlines text).length :=
  length_splitLines_le (by simp) text

/-- The first lines are the same when none of them has a further line end. -/
theorem take_splitlines_eq {text : Str} {n : Nat}
    (h : ∀ line ∈ (sourceLines text).take n, ∀ c ∈ line, isFurtherLineEnd c = false) :
    (splitlines text).take n = (sourceLines text).take n :=
  take_splitLines_eq h (by simp)

/-! ## The lookup -/

/-- `items[index]` of a list; a negative index counts from the end. -/
def item {α : Type} (items : List α) (index : Int) : Except BuiltinError α :=
  let position := if index < 0 then index + items.length else index
  if position < 0 then .error .indexError
  else
    match items[position.toNat]? with
    | some found => .ok found
    | none => .error .indexError

section

variable (markers : List Str)

/-- `any(marker in text for marker in markers)`. -/
def anyMarkerIn (text : Str) : Bool := markers.any fun marker => marker <:+: text

/-- The loop of `has_justification` over the lines above, the nearest first. -/
def markedAbove : List Str → Bool
  | [] => false
  | line :: above =>
    let stripped := strip line
    if stripped = [] then markedAbove above
    else if stripped.head? = some 35 then
      if anyMarkerIn markers stripped then true else markedAbove above
    else false

/-- `has_justification`. -/
def hasJustification (lines : List Str) (lineno : Nat) : Except BuiltinError Bool := do
  let currentLine ← item lines ((lineno : Int) - 1)
  if anyMarkerIn markers currentLine then .ok true
  else .ok (markedAbove markers (lines.take (lineno - 1)).reverse)

/-! ## Justified lines -/

/-- A marker stands in the line. -/
def HasMarker (line : Str) : Prop := ∃ marker ∈ markers, marker <:+: line

/-- There is nothing but whitespace in front of a comment or of the end of the line. -/
def isCommentOrBlank (line : Str) : Bool := (line.dropWhile isSpace).head?.all (· == 35)

/-- The comments and blank lines directly above a line, the nearest first. -/
def blockAbove (lines : List Str) (lineno : Nat) : List Str :=
  (lines.take (lineno - 1)).reverse.takeWhile isCommentOrBlank

/-- A marker stands in the line or in the comments directly above it. -/
def Justified (lines : List Str) (lineno : Nat) : Prop :=
  (∃ line ∈ lines[lineno - 1]?, HasMarker markers line) ∨
    ∃ line ∈ blockAbove lines lineno, HasMarker markers line

instance (line : Str) : Decidable (HasMarker markers line) :=
  inferInstanceAs (Decidable (∃ marker ∈ markers, marker <:+: line))

instance (lines : List Str) (lineno : Nat) : Decidable (Justified markers lines lineno) :=
  inferInstanceAs (Decidable (_ ∨ _))

variable {markers}

theorem anyMarkerIn_iff {text : Str} :
    anyMarkerIn markers text = true ↔ HasMarker markers text := by
  simp [anyMarkerIn, HasMarker]

/-- A position counted from one is an index. -/
theorem item_pred {α : Type} {items : List α} {n : Nat} (hfirst : 1 ≤ n)
    (hlast : n ≤ items.length) :
    ∃ found, items[n - 1]? = some found ∧ item items ((n : Int) - 1) = .ok found := by
  have hlt : n - 1 < items.length := by omega
  have hindex : ((n : Int) - 1).toNat = n - 1 := by omega
  refine ⟨items[n - 1], List.getElem?_eq_getElem hlt, ?_⟩
  unfold item
  dsimp only
  rw [if_neg (by omega), if_neg (by omega), hindex, List.getElem?_eq_getElem hlt]

section

variable (hmarkers : ∀ marker ∈ markers, marker ≠ [] ∧ Stripped marker)
include hmarkers

theorem hasMarker_strip_iff {line : Str} :
    HasMarker markers (strip line) ↔ HasMarker markers line :=
  exists_congr fun marker => and_congr_right fun hmarker =>
    infix_strip_iff (hmarkers marker hmarker).2

theorem not_hasMarker_nil : ¬HasMarker markers [] := by
  rintro ⟨marker, hmarker, hinfix⟩
  exact (hmarkers marker hmarker).1 (List.infix_nil.mp hinfix)

/-- The loop finds the markers of the comments directly above. -/
theorem markedAbove_iff (above : List Str) : markedAbove markers above = true ↔
    ∃ line ∈ above.takeWhile isCommentOrBlank, HasMarker markers line := by
  induction above with
  | nil => simp [markedAbove]
  | cons line above ih =>
    rw [markedAbove]
    by_cases hblank : strip line = []
    · have hcomment : isCommentOrBlank line = true := by
        rw [isCommentOrBlank, ← head?_strip, hblank]
        rfl
      have hnone : ¬HasMarker markers line := by
        rw [← hasMarker_strip_iff hmarkers, hblank]
        exact not_hasMarker_nil hmarkers
      rw [if_pos hblank, ih, List.takeWhile_cons_of_pos hcomment, List.exists_mem_cons_iff]
      exact ⟨Or.inr, fun h => h.resolve_left hnone⟩
    · rw [if_neg hblank]
      by_cases hhash : (strip line).head? = some 35
      · have hcomment : isCommentOrBlank line = true := by
          rw [isCommentOrBlank, ← head?_strip, hhash]
          rfl
        rw [if_pos hhash, List.takeWhile_cons_of_pos hcomment, List.exists_mem_cons_iff, ← ih,
          ← hasMarker_strip_iff hmarkers, ← anyMarkerIn_iff]
        cases anyMarkerIn markers (strip line) <;> simp
      · have hcode : ¬isCommentOrBlank line = true := by
          rw [isCommentOrBlank, ← head?_strip]
          obtain ⟨c, rest, hstrip⟩ := List.exists_cons_of_ne_nil hblank
          rw [hstrip] at hhash ⊢
          simpa using hhash
        rw [if_neg hhash, List.takeWhile_cons_of_neg hcode]
        simp

/-- The lookup decides whether a line is justified. -/
theorem hasJustification_eq {lines : List Str} {lineno : Nat} (hfirst : 1 ≤ lineno)
    (hlast : lineno ≤ lines.length) :
    hasJustification markers lines lineno = .ok (decide (Justified markers lines lineno)) := by
  obtain ⟨line, hline, hitem⟩ := item_pred hfirst hlast
  have hown : (∃ own ∈ lines[lineno - 1]?, HasMarker markers own) ↔
      anyMarkerIn markers line = true := by
    rw [hline, anyMarkerIn_iff]
    simp
  have habove := markedAbove_iff hmarkers (lines.take (lineno - 1)).reverse
  rw [hasJustification, hitem, ok_bind]
  split
  · next hmarker =>
    have hjustified : Justified markers lines lineno := Or.inl (hown.mpr hmarker)
    rw [decide_eq_true hjustified]
  · next hmarker =>
    congr 1
    rw [Bool.eq_iff_iff, decide_eq_true_iff, habove, Justified, hown, or_iff_right hmarker]
    rfl

end

/-- A justification depends on the lines up to its own. -/
theorem justified_congr {lines others : List Str} {lineno : Nat} (hfirst : 1 ≤ lineno)
    (h : lines.take lineno = others.take lineno) :
    Justified markers lines lineno ↔ Justified markers others lineno := by
  have hown : lines[lineno - 1]? = others[lineno - 1]? := by
    rw [← List.getElem?_take_of_lt (by omega : lineno - 1 < lineno), h,
      List.getElem?_take_of_lt (by omega)]
  have habove : lines.take (lineno - 1) = others.take (lineno - 1) := by
    have htake := congrArg (List.take (lineno - 1)) h
    rwa [List.take_take, List.take_take, min_eq_left (by omega)] at htake
  rw [Justified, Justified, hown, blockAbove, blockAbove, habove]

end

end LiveData.Guardrails

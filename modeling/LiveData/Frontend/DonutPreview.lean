import LiveData.Core.Numeral
import LiveData.Core.StableSort
import LiveData.Frontend.ChartPreview
import Mathlib.Algebra.BigOperators.Group.List.Basic
import Mathlib.Algebra.Order.BigOperators.Group.List

/-!
# Donut preview

The donut chart of a query result. The rows with a value above zero are its slices, all but
the six largest are folded into one when there are more than seven, and the arcs of the slices
close a full turn.
-/

namespace LiveData.Chart

open StableSort

/-- `ChartDatum`. -/
structure ChartDatum where
  label : Str
  value : ℚ
  deriving DecidableEq

/-- The sum of the values. -/
def totalValue (slices : List ChartDatum) : ℚ := (slices.map ChartDatum.value).sum

/-! ## Compaction -/

/-- `DONUT_PREVIEW_SLICE_LIMIT`. -/
def donutPreviewSliceLimit : Nat := 7

/-- What `compactDonutSlices` sorts by; a negative number keeps `left` first. -/
def compareSlices (left right : ChartDatum) : ℚ := right.value - left.value

/-- `[...slices].sort` by the comparison. -/
def sortSlices (slices : List ChartDatum) : List ChartDatum :=
  slices.mergeSort fun left right => compareSlices left right ≤ 0

/-- `slices.reduce((sum, slice) => sum + slice.value, 0)`. -/
def reduceValues (slices : List ChartDatum) : ℚ :=
  slices.foldl (fun sum slice => sum + slice.value) 0

/-- The slice that the hidden ones are folded into. -/
def otherSlice (hiddenSlices : List ChartDatum) : ChartDatum :=
  { label := str "Other (" ++ natText hiddenSlices.length ++ str ")"
    value := reduceValues hiddenSlices }

/-- `compactDonutSlices`. -/
def compactDonutSlices (slices : List ChartDatum) : List ChartDatum :=
  if slices.length ≤ donutPreviewSliceLimit then slices
  else
    let visibleSliceLimit := donutPreviewSliceLimit - 1
    let sortedSlices := sortSlices slices
    sortedSlices.take visibleSliceLimit ++ [otherSlice (sortedSlices.drop visibleSliceLimit)]

theorem stableDescending_sortSlices (slices : List ChartDatum) :
    StableDescending ChartDatum.value slices (sortSlices slices) := by
  have hcompare : (fun left right => decide (compareSlices left right ≤ 0)) =
      notBehind ChartDatum.value := by
    funext left right
    simp only [compareSlices, notBehind, sub_nonpos]
  rw [sortSlices, hcompare]
  exact stableDescending_mergeSort _ _

theorem reduceValues_eq (slices : List ChartDatum) : reduceValues slices = totalValue slices := by
  rw [reduceValues, totalValue, List.sum_eq_foldl, List.foldl_map]

theorem totalValue_append (first second : List ChartDatum) :
    totalValue (first ++ second) = totalValue first + totalValue second := by
  simp only [totalValue, List.map_append, List.sum_append]

theorem totalValue_eq_of_perm {first second : List ChartDatum} (h : first.Perm second) :
    totalValue first = totalValue second :=
  (h.map ChartDatum.value).sum_eq

theorem totalValue_otherSlice (hidden : List ChartDatum) :
    totalValue [otherSlice hidden] = totalValue hidden := by
  rw [← reduceValues_eq hidden]
  simp only [totalValue, otherSlice, List.map_cons, List.map_nil, List.sum_singleton]

/-- Slices are folded behind a cut without a change of the total. -/
theorem totalValue_fold (n : Nat) (slices : List ChartDatum) :
    totalValue (slices.take n ++ [otherSlice (slices.drop n)]) = totalValue slices := by
  rw [totalValue_append, totalValue_otherSlice, ← totalValue_append, List.take_append_drop]

theorem totalValue_compactDonutSlices (slices : List ChartDatum) :
    totalValue (compactDonutSlices slices) = totalValue slices := by
  rw [compactDonutSlices]
  split
  · rfl
  · exact (totalValue_fold _ _).trans
      (totalValue_eq_of_perm (stableDescending_sortSlices slices).perm)

/-- The last slice of a compacted list stands for the hidden ones. -/
structure Folds (slices visible hidden : List ChartDatum) (other : ChartDatum) : Prop where
  six : visible.length = 6
  /-- The visible and the hidden slices are those of the list, the largest first. -/
  sorted : StableDescending ChartDatum.value slices (visible ++ hidden)
  smaller : ∀ slice ∈ hidden, ∀ shown ∈ visible, slice.value ≤ shown.value
  hiddenCount : hidden.length = slices.length - 6
  otherLabel : other.label = str "Other (" ++ natText hidden.length ++ str ")"
  otherValue : other.value = totalValue hidden

/-- A list of slices and its compaction. -/
structure Compacts (slices compacted : List ChartDatum) : Prop where
  atMostSeven : compacted.length ≤ 7
  sameTotal : totalValue compacted = totalValue slices
  unchanged : slices.length ≤ 7 → compacted = slices
  folded : 7 < slices.length →
    ∃ visible hidden other, compacted = visible ++ [other] ∧ Folds slices visible hidden other

theorem folds_sortSlices {slices : List ChartDatum} (h : 7 < slices.length) :
    Folds slices ((sortSlices slices).take 6) ((sortSlices slices).drop 6)
      (otherSlice ((sortSlices slices).drop 6)) := by
  have hsorted := stableDescending_sortSlices slices
  have hlength := hsorted.perm.length_eq
  constructor
  · rw [List.length_take, hlength]
    omega
  · rw [List.take_append_drop]
    exact hsorted
  · exact fun slice hslice shown hshown => hsorted.le_of_mem_drop 6 hshown hslice
  · rw [List.length_drop, hlength]
  · rfl
  · exact reduceValues_eq _

/-- Compaction keeps the total and shows the six largest of more than seven slices. -/
theorem compacts_compactDonutSlices (slices : List ChartDatum) :
    Compacts slices (compactDonutSlices slices) := by
  by_cases hlength : slices.length ≤ 7
  · have hsame : compactDonutSlices slices = slices := if_pos hlength
    refine ⟨by rwa [hsame], by rw [hsame], fun _ => hsame, fun h => ?_⟩
    exact absurd hlength (not_le.mpr h)
  · have hmany := not_le.mp hlength
    have hfolds := folds_sortSlices hmany
    have hcut : compactDonutSlices slices =
        (sortSlices slices).take 6 ++ [otherSlice ((sortSlices slices).drop 6)] := if_neg hlength
    refine ⟨?_, totalValue_compactDonutSlices slices, fun h => absurd h hlength, fun _ => ?_⟩
    · rw [hcut, List.length_append, hfolds.six]
      rfl
    · exact ⟨_, _, _, hcut, hfolds⟩

/-! ## Slices of the rows -/

section

variable (numberText : ℚ → Str)

/-- `seriesValue`. -/
def seriesValue (row : QueryRow) : Option Str → Option Str
  | none => none
  | some seriesAxis => some (textOr numberText (str "unknown") row seriesAxis)

/-- A row as a slice of `PiePreview`. -/
def rowSlice (xAxis yAxis : Str) (seriesAxis : Option Str) (row : QueryRow) : ChartDatum :=
  let baseLabel := textOr numberText (str "-") row xAxis
  { label :=
      match seriesValue numberText row seriesAxis with
      | none => baseLabel
      | some seriesLabel => baseLabel ++ str " · " ++ seriesLabel
    value := max (numericValue row yAxis) 0 }

/-- `rawSlices` of `PiePreview`. -/
def rawSlices (rows : List QueryRow) (xAxis yAxis : Str) (seriesAxis : Option Str) :
    List ChartDatum :=
  (rows.map (rowSlice numberText xAxis yAxis seriesAxis)).filter fun slice => 0 < slice.value

/-- The arcs of the slices from `startAngle` on, in turns. -/
def donutArcs (total : ℚ) : ℚ → List ChartDatum → List (ℚ × ℚ)
  | _, [] => []
  | startAngle, slice :: slices =>
    let endAngle := startAngle + slice.value / total
    (startAngle, endAngle) :: donutArcs total endAngle slices

/-- What `PiePreview` draws; one slice alone is a circle without arcs. -/
structure DonutChart where
  slices : List ChartDatum
  total : ℚ
  arcs : Option (List (ℚ × ℚ))
  deriving DecidableEq

/-- `PiePreview`; there is a note and no chart without both axes, a row and a value above
zero. -/
def piePreview (result : QueryResult) : Option DonutChart :=
  match result.chart.xAxis, result.chart.yAxis, result.rows with
  | some xAxis, some yAxis, _ :: _ =>
    let slices :=
      compactDonutSlices (rawSlices numberText result.rows xAxis yAxis result.chart.seriesAxis)
    let total := reduceValues slices
    if total ≤ 0 then none
    else
      some
        { slices := slices
          total := total
          arcs := if slices.length = 1 then none else some (donutArcs total (-1 / 4) slices) }
  | _, _, _ => none

variable {numberText} {rows : List QueryRow} {xAxis yAxis : Str} {seriesAxis : Option Str}

theorem rawSlices_pos {slice : ChartDatum}
    (h : slice ∈ rawSlices numberText rows xAxis yAxis seriesAxis) : 0 < slice.value := by
  simpa using (List.mem_filter.mp h).2

/-- Values from zero on add up to zero only when there is none above. -/
theorem totalValue_pos {slices : List ChartDatum} (hne : slices ≠ [])
    (h : ∀ slice ∈ slices, 0 < slice.value) : 0 < totalValue slices := by
  refine List.sum_pos _ (fun value hvalue => ?_) (by simpa using hne)
  obtain ⟨slice, hslice, rfl⟩ := List.mem_map.mp hvalue
  exact h slice hslice

/-- Folding keeps values above zero. -/
theorem compactDonutSlices_pos {slices : List ChartDatum}
    (h : ∀ slice ∈ slices, 0 < slice.value) :
    ∀ slice ∈ compactDonutSlices slices, 0 < slice.value := by
  rw [compactDonutSlices]
  split
  · exact h
  · next hmany =>
    have hperm := (stableDescending_sortSlices slices).perm
    have hsorted : ∀ slice ∈ sortSlices slices, 0 < slice.value :=
      fun slice hslice => h slice (hperm.mem_iff.mp hslice)
    have hhidden : (sortSlices slices).drop (donutPreviewSliceLimit - 1) ≠ [] := by
      rw [donutPreviewSliceLimit] at hmany
      rw [Ne, List.drop_eq_nil_iff, hperm.length_eq, donutPreviewSliceLimit]
      omega
    intro slice hslice
    rcases List.mem_append.mp hslice with hvisible | hother
    · exact hsorted slice (List.mem_of_mem_take hvisible)
    · rw [List.mem_singleton.mp hother, otherSlice, reduceValues_eq]
      exact totalValue_pos hhidden fun slice hslice => hsorted slice (List.mem_of_mem_drop hslice)

/-- The slices of the rows add up to their values above zero. -/
theorem totalValue_rawSlices :
    totalValue (rawSlices numberText rows xAxis yAxis seriesAxis) =
      (rows.map fun row => max (numericValue row yAxis) 0).sum := by
  induction rows with
  | nil => rfl
  | cons row rows ih =>
    rw [rawSlices, List.map_cons, List.filter_cons, List.map_cons, List.sum_cons, ← ih]
    split
    · rfl
    · next h =>
      have hzero : max (numericValue row yAxis) 0 = 0 :=
        le_antisymm (by simpa [rowSlice] using h) (le_max_right _ _)
      rw [hzero, zero_add]
      rfl

/-- What is drawn, and when: the compacted slices with their total, which is above zero. -/
theorem piePreview_eq_some {result : QueryResult} {chart : DonutChart}
    (h : piePreview numberText result = some chart) :
    ∃ xAxis yAxis, result.chart.xAxis = some xAxis ∧ result.chart.yAxis = some yAxis ∧
      chart.slices = compactDonutSlices
        (rawSlices numberText result.rows xAxis yAxis result.chart.seriesAxis) ∧
      chart.total = totalValue chart.slices ∧ 0 < chart.total ∧
      chart.arcs = if chart.slices.length = 1 then none
        else some (donutArcs chart.total (-1 / 4) chart.slices) := by
  rw [piePreview] at h
  split at h
  · next xAxis yAxis _ _ hxAxis hyAxis _ =>
    dsimp only at h
    split at h
    · cases h
    · next htotal =>
      refine ⟨xAxis, yAxis, hxAxis, hyAxis, ?_⟩
      rw [← Option.some.inj h]
      exact ⟨rfl, reduceValues_eq _, not_le.mp htotal, rfl⟩
  · cases h

/-! ## Arcs -/

/-- Each arc begins where the one before ends. -/
theorem isChain_donutArcs (total startAngle : ℚ) (slices : List ChartDatum) :
    (donutArcs total startAngle slices).IsChain fun arc next => arc.2 = next.1 := by
  induction slices generalizing startAngle with
  | nil => exact List.isChain_nil
  | cons slice slices ih =>
    cases slices with
    | nil => exact List.isChain_singleton _
    | cons next slices => exact List.isChain_cons_cons.mpr ⟨rfl, ih _⟩

/-- The last arc ends after the share that the slices have in the total. -/
theorem getLast?_donutArcs (total startAngle : ℚ) (slices : List ChartDatum) (hne : slices ≠ []) :
    (donutArcs total startAngle slices).getLast?.map Prod.snd =
      some (startAngle + totalValue slices / total) := by
  induction slices generalizing startAngle with
  | nil => exact absurd rfl hne
  | cons slice slices ih =>
    have hsum : totalValue (slice :: slices) = slice.value + totalValue slices := by
      simp only [totalValue, List.map_cons, List.sum_cons]
    cases slices with
    | nil => simp [donutArcs, totalValue]
    | cons next slices =>
      rw [donutArcs, hsum, add_div, ← add_assoc, ← ih _ (List.cons_ne_nil _ _)]
      rfl

/-- Each arc has the share of its slice. -/
theorem widths_donutArcs (total startAngle : ℚ) (slices : List ChartDatum) :
    (donutArcs total startAngle slices).map (fun arc => arc.2 - arc.1) =
      slices.map fun slice => slice.value / total := by
  induction slices generalizing startAngle with
  | nil => rfl
  | cons slice slices ih =>
    rw [donutArcs, List.map_cons, List.map_cons, ih, add_sub_cancel_left]

end

end LiveData.Chart

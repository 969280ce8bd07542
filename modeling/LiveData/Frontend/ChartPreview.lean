import LiveData.Core.Grouping
import LiveData.Core.Text
import LiveData.Analytics.ChartSuggestion
import Mathlib.Algebra.Order.Field.Rat
import Mathlib.Tactic.Linarith
import Mathlib.Tactic.NormNum
import Mathlib.Tactic.Positivity
import Mathlib.Tactic.FieldSimp

/-!
# Line preview

The line chart of a query result. Rows are grouped by their series, labels are spread evenly
over the x axis, and values are scaled against the largest of them and one. A value below
zero is drawn under the axes.
-/

namespace LiveData.Chart

open Analytics (ChartSuggestion)

/-! ## Cells -/

/-- A number of JavaScript, the finite ones exact. -/
inductive Number where
  | finite (value : ℚ)
  | infinite (negative : Bool)
  | nan
  deriving DecidableEq

/-- `QueryCell`. -/
inductive QueryCell where
  | text (value : Str)
  | number (value : Number)
  | boolean (value : Bool)
  | null
  deriving DecidableEq

/-- `QueryRow`. -/
abbrev QueryRow := List (Str × QueryCell)

/-- `QueryResult`, without its columns. -/
structure QueryResult where
  rows : List QueryRow
  chart : ChartSuggestion

/-- `numericValue` of `row[column]`. -/
def numericValue (row : QueryRow) (column : Str) : ℚ :=
  match row.lookup column with
  | some (.number (.finite value)) => value
  | _ => 0

section

variable (numberText : ℚ → Str)

/-- `String(value)`; `numberText` writes a finite number. -/
def cellText : QueryCell → Str
  | .text value => value
  | .number (.finite value) => numberText value
  | .number (.infinite false) => str "Infinity"
  | .number (.infinite true) => str "-Infinity"
  | .number .nan => str "NaN"
  | .boolean true => str "true"
  | .boolean false => str "false"
  | .null => str "null"

/-- `String(row[column] ?? fallback)`. -/
def textOr (fallback : Str) (row : QueryRow) (column : Str) : Str :=
  match row.lookup column with
  | none | some .null => fallback
  | some value => cellText numberText value

/-! ## Series -/

/-- A group of `groupRowsBySeries`. -/
structure SeriesGroup where
  name : Str
  rows : List QueryRow
  deriving DecidableEq

/-- The body of the loop of `groupRowsBySeries`. -/
def groupRow (seriesAxis : Str) (grouped : List (Str × List QueryRow)) (row : QueryRow) :
    List (Str × List QueryRow) :=
  let name := textOr numberText (str "unknown") row seriesAxis
  match grouped.lookup name with
  | none => Dict.set grouped name [row]
  | some groupRows => Dict.set grouped name (groupRows ++ [row])

/-- `groupRowsBySeries`. -/
def groupRowsBySeries (rows : List QueryRow) : Option Str → List SeriesGroup
  | none => [⟨str "result", rows⟩]
  | some seriesAxis =>
    (rows.foldl (groupRow numberText seriesAxis) []).map fun item => ⟨item.1, item.2⟩

/-- The name of the group that a row belongs to. -/
def seriesName (seriesAxis : Option Str) (row : QueryRow) : Str :=
  match seriesAxis with
  | none => str "result"
  | some seriesAxis => textOr numberText (str "unknown") row seriesAxis

/-! ## Points -/

/-- `uniqueLabels`. -/
def uniqueLabels (labels : List Str) : List Str := labels.eraseDups

/-- `labels.indexOf(label)`. -/
def indexOf (labels : List Str) (label : Str) : Int :=
  match labels.idxOf? label with
  | some index => index
  | none => -1

/-- `ChartPoint`. -/
structure ChartPoint where
  x : ℚ
  y : ℚ
  label : Str
  deriving DecidableEq

/-- The width between two neighbouring labels. -/
def labelStep (xLabels : List Str) : ℚ :=
  if xLabels.length ≤ 1 then 0 else 580 / ((xLabels.length : ℚ) - 1)

/-- The point of a row in `buildLinePoints`. -/
def linePoint (xAxis yAxis : Str) (xLabels : List Str) (maxValue : ℚ) (row : QueryRow) :
    ChartPoint :=
  let label := textOr numberText (str "-") row xAxis
  let xIndex := max (indexOf xLabels label) 0
  { label := label
    x := 30 + labelStep xLabels * xIndex
    y := 190 - numericValue row yAxis / maxValue * 160 }

/-- `buildLinePoints`. -/
def buildLinePoints (rows : List QueryRow) (xAxis yAxis : Str) (xLabels : List Str)
    (maxValue : ℚ) : List ChartPoint :=
  rows.map (linePoint numberText xAxis yAxis xLabels maxValue)

/-- `xLabels` of `LinePreview`. -/
def lineLabels (rows : List QueryRow) (xAxis : Str) : List Str :=
  uniqueLabels (rows.map fun row => textOr numberText (str "-") row xAxis)

/-- `maxValue` of `LinePreview`. -/
def lineMaximum (rows : List QueryRow) (yAxis : Str) : ℚ :=
  (rows.map fun row => numericValue row yAxis).foldr max 1

/-- `LINE_PREVIEW_SERIES_LIMIT`. -/
def linePreviewSeriesLimit : Nat := 6

/-- What `LinePreview` draws. -/
structure LineChart where
  series : List (Str × List ChartPoint)
  hiddenSeriesCount : Nat
  xLabels : List Str
  deriving DecidableEq

/-- `LinePreview`; without both axes and a row there is a note and no chart. -/
def linePreview (result : QueryResult) : Option LineChart :=
  match result.chart.xAxis, result.chart.yAxis, result.rows with
  | some xAxis, some yAxis, _ :: _ =>
    let rows := result.rows
    let seriesGroups := groupRowsBySeries numberText rows result.chart.seriesAxis
    let visibleSeriesGroups := seriesGroups.take linePreviewSeriesLimit
    let xLabels := lineLabels numberText rows xAxis
    let maxValue := lineMaximum rows yAxis
    some
      { series := visibleSeriesGroups.map fun group =>
          (group.name, buildLinePoints numberText group.rows xAxis yAxis xLabels maxValue)
        hiddenSeriesCount := seriesGroups.length - visibleSeriesGroups.length
        xLabels := xLabels }
  | _, _, _ => none

/-! ## What a line chart shows -/

/-- The groups are a partition of the rows by the name of the series. -/
structure PartitionsRows (name : QueryRow → Str) (rows : List QueryRow)
    (groups : List SeriesGroup) : Prop where
  /-- Groups stand in order of first appearance, -/
  firstAppearance : groups.map SeriesGroup.name = (rows.map name).eraseDups
  /-- no two of them have one name, -/
  namesDistinct : (groups.map SeriesGroup.name).Nodup
  /-- together they hold every row as often as the result does, -/
  everyRow : (groups.flatMap SeriesGroup.rows).Perm rows
  /-- no row stands in two of them, -/
  oneGroup : ∀ row ∈ rows, ∃! group, group ∈ groups ∧ row ∈ group.rows
  /-- and the rows of one are those of its name in the order of the result. -/
  orderKept : ∀ group ∈ groups, group.rows = rows.filter fun row => name row = group.name

/-- A point inside the drawn axes. -/
def ChartPoint.InAxes (point : ChartPoint) : Prop :=
  30 ≤ point.x ∧ point.x ≤ 610 ∧ 20 ≤ point.y ∧ point.y ≤ 190

instance (point : ChartPoint) : Decidable point.InAxes :=
  inferInstanceAs (Decidable (_ ∧ _ ∧ _ ∧ _))

variable (rows : List QueryRow) (xAxis yAxis : Str) (seriesAxis : Option Str)

/-- `buildLinePoints` of a group with the labels and the maximum of the result. -/
def groupPoints (group : SeriesGroup) : List ChartPoint :=
  buildLinePoints numberText group.rows xAxis yAxis (lineLabels numberText rows xAxis)
    (lineMaximum rows yAxis)

/-- The point of a row among the rows of the result. -/
def rowPoint (row : QueryRow) : ChartPoint :=
  linePoint numberText xAxis yAxis (lineLabels numberText rows xAxis) (lineMaximum rows yAxis) row

/-- The rows of all groups with their points. -/
def drawnRows : List (QueryRow × ChartPoint) :=
  (groupRowsBySeries numberText rows seriesAxis).flatMap fun group =>
    group.rows.zip (groupPoints numberText rows xAxis yAxis group)

/-- The line chart shows the rows. -/
structure ShowsData : Prop where
  partitions : PartitionsRows (seriesName numberText seriesAxis) rows
    (groupRowsBySeries numberText rows seriesAxis)
  pointPerRow : ∀ group ∈ groupRowsBySeries numberText rows seriesAxis,
    (groupPoints numberText rows xAxis yAxis group).length = group.rows.length
  inAxes : ∀ group ∈ groupRowsBySeries numberText rows seriesAxis,
    ∀ point ∈ groupPoints numberText rows xAxis yAxis group, point.InAxes
  equalLabels : ∀ first ∈ drawnRows numberText rows xAxis yAxis seriesAxis,
    ∀ second ∈ drawnRows numberText rows xAxis yAxis seriesAxis,
      textOr numberText (str "-") first.1 xAxis = textOr numberText (str "-") second.1 xAxis →
        first.2.x = second.2.x
  largerNotBelow : ∀ first ∈ drawnRows numberText rows xAxis yAxis seriesAxis,
    ∀ second ∈ drawnRows numberText rows xAxis yAxis seriesAxis,
      numericValue first.1 yAxis < numericValue second.1 yAxis → second.2.y ≤ first.2.y

variable {numberText rows xAxis yAxis seriesAxis}

/-! ## Groups -/

/-- A row is added to the group of its name. -/
theorem groupRow_eq_addRow (axis : Str) :
    groupRow numberText axis =
      Dict.addRow (seriesName numberText (some axis)) (fun _ => [])
        fun group row => group ++ [row] := by
  funext grouped row
  simp only [groupRow, Dict.addRow, seriesName]
  cases grouped.lookup (textOr numberText (str "unknown") row axis) <;> rfl

/-- Each group holds the rows of its name, and names come in order of first appearance. -/
theorem groupRowsBySeries_eq (hrows : rows ≠ []) :
    groupRowsBySeries numberText rows seriesAxis =
      (rows.map (seriesName numberText seriesAxis)).eraseDups.map fun name =>
        ⟨name, rows.filter fun row => seriesName numberText seriesAxis row = name⟩ := by
  cases seriesAxis with
  | none =>
    have hone : (rows.map (seriesName numberText none)).eraseDups = [str "result"] :=
      Dict.eraseDups_of_forall_eq (by simpa using hrows) fun name hname => by
        obtain ⟨row, -, rfl⟩ := List.mem_map.mp hname
        rfl
    have hall : (rows.filter fun row => seriesName numberText none row = str "result") = rows :=
      List.filter_eq_self.mpr fun _ _ => decide_eq_true rfl
    rw [hone, List.map_singleton, hall]
    rfl
  | some axis =>
    have hcollect := Dict.groupRows_collect (seriesName numberText (some axis)) rows
    rw [Dict.groupRows, ← groupRow_eq_addRow] at hcollect
    rw [groupRowsBySeries, hcollect, List.map_map]
    rfl

theorem map_name_groupRowsBySeries (hrows : rows ≠ []) :
    (groupRowsBySeries numberText rows seriesAxis).map SeriesGroup.name =
      (rows.map (seriesName numberText seriesAxis)).eraseDups := by
  rw [groupRowsBySeries_eq hrows, List.map_map]
  exact List.map_id _

theorem mem_groupRowsBySeries (hrows : rows ≠ []) {group : SeriesGroup} :
    group ∈ groupRowsBySeries numberText rows seriesAxis ↔
      group.name ∈ rows.map (seriesName numberText seriesAxis) ∧
        group.rows = rows.filter fun row => seriesName numberText seriesAxis row = group.name := by
  rw [groupRowsBySeries_eq hrows, List.mem_map]
  constructor
  · rintro ⟨name, hname, rfl⟩
    exact ⟨List.mem_eraseDups.mp hname, rfl⟩
  · rintro ⟨hname, hgroup⟩
    exact ⟨group.name, List.mem_eraseDups.mpr hname, by rw [← hgroup]⟩

theorem groupRowsBySeries_perm (hrows : rows ≠ []) :
    ((groupRowsBySeries numberText rows seriesAxis).flatMap SeriesGroup.rows).Perm rows := by
  rw [groupRowsBySeries_eq hrows, List.flatMap_map]
  exact Dict.flatMap_filter_perm (Dict.nodup_eraseDups _) fun row hrow =>
    List.mem_eraseDups.mpr (List.mem_map_of_mem hrow)

/-- Grouping is a partition, whatever the values. -/
theorem partitionsRows_groupRowsBySeries (hrows : rows ≠ []) :
    PartitionsRows (seriesName numberText seriesAxis) rows
      (groupRowsBySeries numberText rows seriesAxis) where
  firstAppearance := map_name_groupRowsBySeries hrows
  namesDistinct := by
    rw [map_name_groupRowsBySeries hrows]
    exact Dict.nodup_eraseDups _
  everyRow := groupRowsBySeries_perm hrows
  oneGroup := by
    intro row hrow
    refine ⟨⟨seriesName numberText seriesAxis row, rows.filter fun other =>
      seriesName numberText seriesAxis other = seriesName numberText seriesAxis row⟩,
      ⟨(mem_groupRowsBySeries hrows).mpr ⟨List.mem_map_of_mem hrow, rfl⟩, by simp [hrow]⟩, ?_⟩
    rintro ⟨name, groupRows⟩ ⟨hgroup, hmem⟩
    have hgroupRows : groupRows = _ := ((mem_groupRowsBySeries hrows).mp hgroup).2
    have hname : seriesName numberText seriesAxis row = name := by
      simpa [hgroupRows, hrow] using hmem
    rw [hgroupRows, hname]
  orderKept := fun _ hgroup => ((mem_groupRowsBySeries hrows).mp hgroup).2

/-! ## Labels -/

variable (numberText xAxis) in
theorem textOr_mem_lineLabels {row : QueryRow} (hrow : row ∈ rows) :
    textOr numberText (str "-") row xAxis ∈ lineLabels numberText rows xAxis :=
  List.mem_eraseDups.mpr (List.mem_map_of_mem hrow)

/-- A label of the axis is found on it. -/
theorem indexOf_lt {labels : List Str} {label : Str} (h : label ∈ labels) :
    0 ≤ indexOf labels label ∧ indexOf labels label ≤ (labels.length : Int) - 1 := by
  rw [indexOf]
  cases hindex : labels.idxOf? label with
  | none => exact absurd h (List.idxOf?_eq_none_iff.mp hindex)
  | some index =>
    obtain ⟨hlt, -⟩ := List.idxOf?_eq_some_iff.mp hindex
    change (0 : Int) ≤ index ∧ (index : Int) ≤ labels.length - 1
    omega

/-- The last label stands at the end of the axis. -/
theorem labelStep_mul_le {labels : List Str} {index : Int} (hfirst : 0 ≤ index)
    (hlast : index ≤ (labels.length : Int) - 1) :
    0 ≤ labelStep labels * index ∧ labelStep labels * index ≤ 580 := by
  have hindex : (0 : ℚ) ≤ index := by exact_mod_cast hfirst
  have hbound : (index : ℚ) ≤ labels.length - 1 := by exact_mod_cast hlast
  rw [labelStep]
  split
  · norm_num
  · next hlabels =>
    have hlength : (1 : ℚ) < labels.length := by exact_mod_cast not_le.mp hlabels
    have hpos : (0 : ℚ) < labels.length - 1 := by linarith
    refine ⟨by positivity, ?_⟩
    rw [div_mul_eq_mul_div, div_le_iff₀ hpos]
    linarith

variable (yAxis) in
theorem rowPoint_x_mem {row : QueryRow} (hrow : row ∈ rows) :
    30 ≤ (rowPoint numberText rows xAxis yAxis row).x ∧
      (rowPoint numberText rows xAxis yAxis row).x ≤ 610 := by
  obtain ⟨hfirst, hlast⟩ := indexOf_lt (textOr_mem_lineLabels numberText xAxis hrow)
  obtain ⟨hleft, hright⟩ := labelStep_mul_le hfirst hlast
  rw [rowPoint, linePoint]
  simp only [max_eq_left hfirst]
  constructor <;> linarith

/-! ## Values -/

variable (rows yAxis) in
theorem one_le_lineMaximum : 1 ≤ lineMaximum rows yAxis := by
  rw [lineMaximum]
  induction rows.map fun row => numericValue row yAxis with
  | nil => exact le_refl 1
  | cons value values ih => exact le_max_of_le_right ih

theorem numericValue_le_lineMaximum {row : QueryRow} (hrow : row ∈ rows) :
    numericValue row yAxis ≤ lineMaximum rows yAxis := by
  rw [lineMaximum]
  induction rows with
  | nil => simp at hrow
  | cons first rows ih =>
    rw [List.map_cons, List.foldr_cons]
    rcases List.mem_cons.mp hrow with rfl | hmem
    · exact le_max_left _ _
    · exact le_max_of_le_right (ih hmem)

theorem lineMaximum_pos : 0 < lineMaximum rows yAxis :=
  lt_of_lt_of_le one_pos (one_le_lineMaximum rows yAxis)

/-- No value stands above the axis of the values. -/
theorem rowPoint_y_ge {row : QueryRow} (hrow : row ∈ rows) :
    20 ≤ (rowPoint numberText rows xAxis yAxis row).y := by
  have hshare : numericValue row yAxis / lineMaximum rows yAxis ≤ 1 :=
    (div_le_one lineMaximum_pos).mpr (numericValue_le_lineMaximum hrow)
  rw [rowPoint, linePoint]
  linarith

/-- The values from zero on stand on the axis of the labels or above it. -/
theorem rowPoint_y_le_iff {row : QueryRow} :
    (rowPoint numberText rows xAxis yAxis row).y ≤ 190 ↔ 0 ≤ numericValue row yAxis := by
  have hshare : 0 ≤ numericValue row yAxis / lineMaximum rows yAxis ↔
      0 ≤ numericValue row yAxis := by
    rw [le_div_iff₀ lineMaximum_pos, zero_mul]
  rw [← hshare, rowPoint, linePoint]
  constructor <;> intro h <;> linarith

/-- A larger value is drawn no lower. -/
theorem rowPoint_y_le_of_le {row other : QueryRow}
    (h : numericValue row yAxis ≤ numericValue other yAxis) :
    (rowPoint numberText rows xAxis yAxis other).y ≤
      (rowPoint numberText rows xAxis yAxis row).y := by
  have hshare : numericValue row yAxis / lineMaximum rows yAxis ≤
      numericValue other yAxis / lineMaximum rows yAxis :=
    div_le_div_of_nonneg_right h lineMaximum_pos.le
  simp only [rowPoint, linePoint]
  linarith

/-- A point of a row leaves the axes at the bottom alone, and there by a value below zero. -/
theorem inAxes_rowPoint_iff {row : QueryRow} (hrow : row ∈ rows) :
    (rowPoint numberText rows xAxis yAxis row).InAxes ↔ 0 ≤ numericValue row yAxis := by
  obtain ⟨hleft, hright⟩ := rowPoint_x_mem yAxis hrow
  rw [← rowPoint_y_le_iff, ChartPoint.InAxes]
  exact ⟨fun h => h.2.2.2, fun h => ⟨hleft, hright, rowPoint_y_ge hrow, h⟩⟩

/-- A cell counts as a value below zero when it holds one. -/
theorem numericValue_nonneg_iff {row : QueryRow} :
    0 ≤ numericValue row yAxis ↔
      ∀ value, row.lookup yAxis = some (.number (.finite value)) → 0 ≤ value := by
  rw [numericValue]
  split
  · next value hcell => simp [hcell]
  · next hcell => exact ⟨fun _ value hvalue => absurd hvalue (hcell value), fun _ => le_refl 0⟩

/-! ## The drawn rows -/

theorem groupPoints_eq (group : SeriesGroup) :
    groupPoints numberText rows xAxis yAxis group =
      group.rows.map (rowPoint numberText rows xAxis yAxis) :=
  rfl

/-- Every row is drawn once, by its own point. -/
theorem drawnRows_perm (hrows : rows ≠ []) :
    (drawnRows numberText rows xAxis yAxis seriesAxis).Perm
      (rows.map fun row => (row, rowPoint numberText rows xAxis yAxis row)) := by
  simp only [drawnRows, groupPoints_eq, ← List.map_prod_left_eq_zip]
  rw [← List.map_flatMap]
  exact (groupRowsBySeries_perm hrows).map _

theorem mem_drawnRows (hrows : rows ≠ []) {drawn : QueryRow × ChartPoint}
    (h : drawn ∈ drawnRows numberText rows xAxis yAxis seriesAxis) :
    drawn.2 = rowPoint numberText rows xAxis yAxis drawn.1 := by
  obtain ⟨row, -, rfl⟩ := List.mem_map.mp ((drawnRows_perm hrows).mem_iff.mp h)
  rfl

variable (numberText rows xAxis yAxis seriesAxis) in
/-- The points of the groups are those of the rows. -/
theorem mem_groupPoints_iff (hrows : rows ≠ []) {point : ChartPoint} :
    (∃ group ∈ groupRowsBySeries numberText rows seriesAxis,
      point ∈ groupPoints numberText rows xAxis yAxis group) ↔
        ∃ row ∈ rows, rowPoint numberText rows xAxis yAxis row = point := by
  have hmem : ∀ row, (∃ group ∈ groupRowsBySeries numberText rows seriesAxis,
      row ∈ group.rows) ↔ row ∈ rows := by
    intro row
    rw [← List.mem_flatMap]
    exact (groupRowsBySeries_perm hrows).mem_iff
  simp only [groupPoints_eq, List.mem_map, ← hmem]
  constructor
  · rintro ⟨group, hgroup, row, hrow, rfl⟩
    exact ⟨row, ⟨group, hgroup, hrow⟩, rfl⟩
  · rintro ⟨row, ⟨group, hgroup, hrow⟩, rfl⟩
    exact ⟨group, hgroup, row, hrow, rfl⟩

/-- Without a value below zero every point of a group stands inside the axes. -/
theorem inAxes_of_mem_groupPoints (hrows : rows ≠ [])
    (hvalues : ∀ row ∈ rows, 0 ≤ numericValue row yAxis) {group : SeriesGroup}
    (hgroup : group ∈ groupRowsBySeries numberText rows seriesAxis) {point : ChartPoint}
    (hpoint : point ∈ groupPoints numberText rows xAxis yAxis group) : point.InAxes := by
  obtain ⟨row, hrow, rfl⟩ := (mem_groupPoints_iff numberText rows xAxis yAxis seriesAxis hrows).mp
    ⟨group, hgroup, hpoint⟩
  exact (inAxes_rowPoint_iff hrow).mpr (hvalues row hrow)

/-- The line chart shows the rows exactly when no row has a value below zero. -/
theorem showsData_iff (numberText : ℚ → Str) (rows : List QueryRow) (xAxis yAxis : Str)
    (seriesAxis : Option Str) (hrows : rows ≠ []) :
    ShowsData numberText rows xAxis yAxis seriesAxis ↔
      ∀ row ∈ rows, ∀ value, row.lookup yAxis = some (.number (.finite value)) → 0 ≤ value := by
  simp only [← numericValue_nonneg_iff]
  constructor
  · intro h row hrow
    obtain ⟨group, hgroup, hpoint⟩ :=
      (mem_groupPoints_iff numberText rows xAxis yAxis seriesAxis hrows).mpr ⟨row, hrow, rfl⟩
    exact (inAxes_rowPoint_iff hrow).mp (h.inAxes group hgroup _ hpoint)
  · intro h
    refine ⟨partitionsRows_groupRowsBySeries hrows, ?_, ?_, ?_, ?_⟩
    · intro group _
      rw [groupPoints_eq, List.length_map]
    · intro group hgroup point hpoint
      exact inAxes_of_mem_groupPoints hrows h hgroup hpoint
    · intro first hfirst second hsecond hlabel
      rw [mem_drawnRows hrows hfirst, mem_drawnRows hrows hsecond]
      simp only [rowPoint, linePoint, hlabel]
    · intro first hfirst second hsecond hvalue
      rw [mem_drawnRows hrows hfirst, mem_drawnRows hrows hsecond]
      exact rowPoint_y_le_of_le hvalue.le

/-- A row of a label, a series and a value. -/
def seriesRow (label series : Str) (value : ℚ) : QueryRow :=
  [(str "label", .text label), (str "series", .text series),
    (str "value", .number (.finite value))]

/-- Two series over two labels. -/
def twoSeries : List QueryRow :=
  [seriesRow (str "mon") (str "web") 3, seriesRow (str "mon") (str "app") 0,
    seriesRow (str "tue") (str "web") 5]

/-- Both series are shown. -/
theorem showsData_twoSeries :
    ShowsData (fun _ => str "1") twoSeries (str "label") (str "value") (some (str "series")) ∧
      (groupRowsBySeries (fun _ => str "1") twoSeries (some (str "series"))).map
        SeriesGroup.name = [str "web", str "app"] := by
  refine ⟨(showsData_iff _ twoSeries _ _ _ (List.cons_ne_nil _ _)).mpr ?_, by decide⟩
  have hvalue : ∀ label series : Str, ∀ given shown : ℚ, 0 ≤ given →
      (seriesRow label series given).lookup (str "value") = some (.number (.finite shown)) →
        0 ≤ shown := by
    intro label series given shown hgiven hshown
    obtain rfl : given = shown := Number.finite.inj (QueryCell.number.inj (Option.some.inj hshown))
    exact hgiven
  simp only [twoSeries, List.forall_mem_cons, List.not_mem_nil, false_implies, implies_true,
    and_true]
  exact ⟨fun _ => hvalue _ _ _ _ (by norm_num), fun _ => hvalue _ _ _ _ (le_refl 0),
    fun _ => hvalue _ _ _ _ (by norm_num)⟩

/-- One row with the value. -/
def singleRow (value : ℚ) : QueryRow :=
  [(str "label", .text (str "a")), (str "value", .number (.finite value))]

/-- A value of minus one is drawn at a height of 350, below the axis at 190. -/
theorem singleRow_not_showsData :
    ¬ShowsData (fun _ => str "-1") [singleRow (-1)] (str "label") (str "value") none := by
  intro h
  have hgroup : ⟨str "result", [singleRow (-1)]⟩ ∈
      groupRowsBySeries (fun _ => str "-1") [singleRow (-1)] none := List.mem_singleton_self _
  have hpoint := h.inAxes _ hgroup _ List.mem_cons_self
  have hvalue : numericValue (singleRow (-1)) (str "value") = -1 := rfl
  have hbottom := (inAxes_rowPoint_iff (List.mem_singleton_self _)).mp hpoint
  rw [hvalue] at hbottom
  norm_num at hbottom

/-! ## The drawn chart -/

/-- What is drawn are the first groups of the result, and the others are counted. -/
theorem linePreview_eq {result : QueryResult} {chart : LineChart}
    (h : linePreview numberText result = some chart) :
    ∃ xAxis yAxis, result.chart.xAxis = some xAxis ∧ result.chart.yAxis = some yAxis ∧
      result.rows ≠ [] ∧
      chart.series = ((groupRowsBySeries numberText result.rows result.chart.seriesAxis).take
        linePreviewSeriesLimit).map (fun group =>
          (group.name, groupPoints numberText result.rows xAxis yAxis group)) ∧
      chart.series.length + chart.hiddenSeriesCount =
        (groupRowsBySeries numberText result.rows result.chart.seriesAxis).length := by
  rw [linePreview] at h
  split at h
  · next xAxis yAxis row rows hx hy hrows =>
    refine ⟨xAxis, yAxis, hx, hy, by simp [hrows], ?_⟩
    rw [← Option.some.inj h]
    refine ⟨rfl, ?_⟩
    simp only [List.length_map, List.length_take]
    omega
  · cases h

end

end LiveData.Chart

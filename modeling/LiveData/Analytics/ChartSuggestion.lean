import LiveData.Core.Json.Scanner

/-!
# Chart suggestions

`suggest_chart` over the columns and rows of a result. A column is numeric when every row
holds a number in it, and what is suggested can be plotted.
-/

namespace LiveData.Analytics

open Json

/-- `ChartKind`. -/
inductive ChartKind where
  | bar
  | line
  | metric
  | table
  | pie
  deriving DecidableEq, Repr

/-- `ChartSuggestion`. -/
structure ChartSuggestion where
  chartKind : ChartKind
  xAxis : Option Str
  yAxis : Option Str
  seriesAxis : Option Str
  deriving DecidableEq, Repr

/-- `_TIME_COLUMN_HINTS`. -/
def timeColumnHints : List Str := [str "hour", str "time", str "date", str "occurred"]

section

variable {F : Type}

/-- `row.get(column)`. -/
def rowValue (row : List (Str × Value F)) (column : Str) : Value F :=
  (row.lookup column).getD .null

/-- `_is_numeric`: a boolean is no number. -/
def isNumeric : Value F → Bool
  | .int _ => true
  | .float _ => true
  | _ => false

/-- Every row holds a number in the column. -/
def HoldsNumbers (rows : List (List (Str × Value F))) (column : Str) : Prop :=
  ∀ row ∈ rows, isNumeric (rowValue row column) = true

/-- `_numeric_columns`. -/
def numericColumns (columns : List Str) (rows : List (List (Str × Value F))) : List Str :=
  columns.filter fun column =>
    !rows.isEmpty && rows.all fun row => isNumeric (rowValue row column)

/-- `_first_non_numeric_column`; `first` is the first column. -/
def firstNonNumericColumn (first : Str) (columns numericColumns : List Str) : Str :=
  (columns.find? fun column => column ∉ numericColumns).getD first

/-- `_series_axis`. -/
def seriesAxis (columns : List Str) (xAxis yAxis : Str) : Option Str :=
  columns.find? fun column => column ∉ [xAxis, yAxis]

variable (lower : Str → Str)

/-- `_looks_temporal`; `lower` is `str.lower`. -/
def looksTemporal (column : Str) : Bool := timeColumnHints.any fun hint => hint <:+: lower column

/-- `suggest_chart`. -/
def suggestChart (columns : List Str) (rows : List (List (Str × Value F))) : ChartSuggestion :=
  match columns with
  | [] => ⟨.table, none, none, none⟩
  | first :: _ =>
    let numeric := numericColumns columns rows
    if columns.length = 1 ∨ numeric.length = columns.length then
      ⟨.metric, none, some (numeric.head?.getD first), none⟩
    else
      match numeric with
      | [] => ⟨.table, none, none, none⟩
      | yAxis :: _ =>
        let xAxis := firstNonNumericColumn first columns numeric
        ⟨if looksTemporal lower xAxis then .line else .bar, some xAxis, some yAxis,
          seriesAxis columns xAxis yAxis⟩

/-- What the preview relies on for a bar or a line chart. -/
structure PlottedAs (columns : List Str) (rows : List (List (Str × Value F)))
    (chart : ChartSuggestion) (xAxis yAxis : Str) : Prop where
  x : chart.xAxis = some xAxis
  y : chart.yAxis = some yAxis
  distinct : xAxis ≠ yAxis
  numbers : HoldsNumbers rows yAxis
  labels : ¬HoldsNumbers rows xAxis
  series : ∀ column ∈ chart.seriesAxis, column ≠ xAxis ∧ column ≠ yAxis
  series_none : chart.seriesAxis = none ↔ ∀ column ∈ columns, column = xAxis ∨ column = yAxis
  line : chart.chartKind = .line ↔ looksTemporal lower xAxis = true

/-- A suggestion that can be plotted. -/
structure Plottable (columns : List Str) (rows : List (List (Str × Value F)))
    (chart : ChartSuggestion) : Prop where
  kind : chart.chartKind ≠ .pie
  axes : ∀ axis ∈ [chart.xAxis, chart.yAxis, chart.seriesAxis], ∀ column ∈ axis, column ∈ columns
  plotted : chart.chartKind = .bar ∨ chart.chartKind = .line →
    rows ≠ [] ∧ ∃ xAxis yAxis, PlottedAs lower columns rows chart xAxis yAxis
  metric : chart.chartKind = .metric →
    chart.yAxis ≠ none ∧ chart.xAxis = none ∧ chart.seriesAxis = none
  table : chart.chartKind = .table →
    chart.xAxis = none ∧ chart.yAxis = none ∧ chart.seriesAxis = none

variable {lower} {columns : List Str} {rows : List (List (Str × Value F))}

/-- The numeric columns of a result with rows hold numbers. -/
theorem mem_numericColumns {column : Str} : column ∈ numericColumns columns rows ↔
    column ∈ columns ∧ rows ≠ [] ∧ HoldsNumbers rows column := by
  simp [numericColumns, HoldsNumbers]

/-- When not every column is numeric there is one that is not. -/
theorem firstNonNumericColumn_spec (first : Str)
    (h : (numericColumns columns rows).length ≠ columns.length) :
    firstNonNumericColumn first columns (numericColumns columns rows) ∈ columns ∧
      firstNonNumericColumn first columns (numericColumns columns rows) ∉
        numericColumns columns rows := by
  cases hfound : columns.find? fun column => column ∉ numericColumns columns rows with
  | some column =>
    rw [firstNonNumericColumn, hfound, Option.getD_some]
    exact ⟨List.mem_of_find?_eq_some hfound, by simpa using List.find?_some hfound⟩
  | none =>
    refine absurd (congrArg List.length ?_) h
    rw [List.find?_eq_none] at hfound
    refine List.filter_eq_self.mpr fun column hcolumn => ?_
    have hmem : column ∈ numericColumns columns rows := by simpa using hfound column hcolumn
    exact (List.mem_filter.mp hmem).2

/-- The series column is one of the others, if there is one. -/
theorem seriesAxis_spec (columns : List Str) (xAxis yAxis : Str) :
    (∀ column ∈ seriesAxis columns xAxis yAxis,
      column ∈ columns ∧ column ≠ xAxis ∧ column ≠ yAxis) ∧
    (seriesAxis columns xAxis yAxis = none ↔
      ∀ column ∈ columns, column = xAxis ∨ column = yAxis) := by
  constructor
  · intro column hcolumn
    exact ⟨List.mem_of_find?_eq_some hcolumn, by simpa using List.find?_some hcolumn⟩
  · simp [seriesAxis, or_iff_not_imp_left]

/-- A bar or line chart of a numeric column over one that is not. -/
theorem plottable_of_axes {xAxis yAxis : Str} (hx : xAxis ∈ columns)
    (hxn : xAxis ∉ numericColumns columns rows) (hy : yAxis ∈ numericColumns columns rows) :
    Plottable lower columns rows ⟨if looksTemporal lower xAxis then .line else .bar, some xAxis,
      some yAxis, seriesAxis columns xAxis yAxis⟩ := by
  obtain ⟨hyc, hrows, hnumbers⟩ := mem_numericColumns.mp hy
  obtain ⟨hseries, hnone⟩ := seriesAxis_spec columns xAxis yAxis
  constructor
  · cases looksTemporal lower xAxis <;> simp
  · simp only [List.mem_cons, List.not_mem_nil, or_false]
    rintro axis (rfl | rfl | rfl) column hcolumn
    · rwa [← Option.some.inj hcolumn]
    · rwa [← Option.some.inj hcolumn]
    · exact (hseries column hcolumn).1
  · intro _
    refine ⟨hrows, xAxis, yAxis, rfl, rfl, ?_, hnumbers, ?_, ?_, hnone, ?_⟩
    · rintro rfl
      exact hxn hy
    · exact fun h => hxn (mem_numericColumns.mpr ⟨hx, hrows, h⟩)
    · exact fun column hcolumn => (hseries column hcolumn).2
    · cases looksTemporal lower xAxis <;> simp
  · cases looksTemporal lower xAxis <;> simp
  · cases looksTemporal lower xAxis <;> simp

/-- A metric of one column. -/
theorem plottable_metric {column : Str} (h : column ∈ columns) :
    Plottable lower columns rows ⟨.metric, none, some column, none⟩ := by
  constructor
  · simp
  · simpa using h
  · simp
  · simp
  · simp

theorem plottable_table : Plottable lower columns rows ⟨.table, none, none, none⟩ := by
  constructor <;> simp

/-- What is suggested can be plotted. -/
theorem plottable_of_suggestChart (lower : Str → Str) (columns : List Str)
    (rows : List (List (Str × Value F))) :
    Plottable lower columns rows (suggestChart lower columns rows) := by
  unfold suggestChart
  split
  · exact plottable_table
  · next first rest =>
    have hnumeric : ∀ column ∈ numericColumns (first :: rest) rows, column ∈ first :: rest :=
      fun column hcolumn => (mem_numericColumns.mp hcolumn).1
    dsimp only
    split
    · apply plottable_metric
      cases hhead : (numericColumns (first :: rest) rows).head? with
      | none => exact List.mem_cons_self
      | some column => exact hnumeric column (List.mem_of_head? hhead)
    · next hmany =>
      obtain ⟨hx, hxn⟩ := firstNonNumericColumn_spec first (not_or.mp hmany).2
      split
      · exact plottable_table
      · next yAxis others heq =>
        refine plottable_of_axes hx hxn ?_
        rw [heq]
        exact List.mem_cons_self

/-- The suggestion does not depend on the order of the rows. -/
theorem suggestChart_perm (lower : Str → Str) (columns : List Str)
    {rows rows' : List (List (Str × Value F))} (h : rows.Perm rows') :
    suggestChart lower columns rows = suggestChart lower columns rows' := by
  have hsame : numericColumns columns rows = numericColumns columns rows' := by
    refine List.filter_congr fun column _ => ?_
    rw [h.all_eq, h.isEmpty_eq]
  simp only [suggestChart, hsame]

/-- For all columns and rows the suggestion can be plotted, and it is the same in every order of
the rows. -/
theorem plottable_suggestChart (lower : Str → Str) (columns : List Str)
    (rows : List (List (Str × Value F))) :
    Plottable lower columns rows (suggestChart lower columns rows) ∧
      ∀ rows' : List (List (Str × Value F)), rows.Perm rows' →
        suggestChart lower columns rows' = suggestChart lower columns rows :=
  ⟨plottable_of_suggestChart lower columns rows, fun _ h =>
    (suggestChart_perm lower columns h).symm⟩

end

end LiveData.Analytics

import LiveData.Frontend.DonutPreview

/-!
# Previews of a result

What the line and the donut preview draw of a result, and when there is a note instead. A result
of the backend is drawn as a line exactly when a bar or a line chart was suggested for it.
-/

namespace LiveData.Chart

open Analytics (suggestChart)

/-! ## What is shown -/

/-- A result with both axes and a row. -/
def QueryResult.IsCharted (result : QueryResult) : Prop :=
  result.chart.xAxis ≠ none ∧ result.chart.yAxis ≠ none ∧ result.rows ≠ []

section

variable (numberText : ℚ → Str) (result : QueryResult)

/-- The names of the series of a result, in order of first appearance. -/
def seriesNames : List Str :=
  (result.rows.map (seriesName numberText result.chart.seriesAxis)).eraseDups

/-- The line chart shows the result. -/
structure LineChart.Shows (chart : LineChart) : Prop where
  /-- The first six series are drawn, -/
  names : chart.series.map Prod.fst = (seriesNames numberText result).take 6
  /-- the others are counted, -/
  counted : chart.series.length + chart.hiddenSeriesCount = (seriesNames numberText result).length
  /-- every row of a drawn series has its point, in the order of the result, -/
  labels : ∀ xAxis ∈ result.chart.xAxis, ∀ series ∈ chart.series,
    series.2.map ChartPoint.label =
      (result.rows.filter fun row =>
        seriesName numberText result.chart.seriesAxis row = series.1).map
          fun row => textOr numberText (str "-") row xAxis
  /-- and the points stay inside the axes exactly when none of these rows has a value below
  zero. -/
  inAxes : ∀ yAxis ∈ result.chart.yAxis,
    ((∀ series ∈ chart.series, ∀ point ∈ series.2, point.InAxes) ↔
      ∀ row ∈ result.rows,
        seriesName numberText result.chart.seriesAxis row ∈ chart.series.map Prod.fst →
          ∀ value, row.lookup yAxis = some (.number (.finite value)) → 0 ≤ value)

/-- The donut chart shows the result. -/
structure DonutChart.Shows (chart : DonutChart) : Prop where
  atMostSeven : chart.slices.length ≤ 7
  positive : ∀ slice ∈ chart.slices, 0 < slice.value
  /-- The total is that of the values above zero, and the slices have it. -/
  total : ∀ yAxis ∈ result.chart.yAxis,
    chart.total = (result.rows.map fun row => max (numericValue row yAxis) 0).sum
  sameTotal : totalValue chart.slices = chart.total
  circle : chart.arcs = none ↔ chart.slices.length = 1
  /-- Each slice has the arc of its share, and the arcs close a full turn from the top. -/
  shares : ∀ arcs ∈ chart.arcs,
    arcs.map (fun arc => arc.2 - arc.1) = chart.slices.map fun slice => slice.value / chart.total
  turn : ∀ arcs ∈ chart.arcs, arcs.head?.map Prod.fst = some (-1 / 4) ∧
    arcs.IsChain (fun arc next => arc.2 = next.1) ∧
      arcs.getLast?.map Prod.snd = some (-1 / 4 + 1)

end

variable {numberText : ℚ → Str} {result : QueryResult}

/-! ## The line preview -/

theorem isSome_linePreview :
    (linePreview numberText result).isSome = true ↔ result.IsCharted := by
  unfold linePreview QueryResult.IsCharted
  cases result.chart.xAxis <;> cases result.chart.yAxis <;> cases result.rows <;> simp

/-- The drawn series are groups of the rows. -/
theorem exists_of_mem_series {chart : LineChart} (h : linePreview numberText result = some chart)
    {yAxis : Str} (hyAxis : result.chart.yAxis = some yAxis) {xAxis : Str}
    (hxAxis : result.chart.xAxis = some xAxis) {series : Str × List ChartPoint}
    (hseries : series ∈ chart.series) :
    series.2 = (result.rows.filter fun row =>
      seriesName numberText result.chart.seriesAxis row = series.1).map
        (rowPoint numberText result.rows xAxis yAxis) := by
  obtain ⟨shownX, shownY, hx, hy, hrows, hdrawn, -⟩ := linePreview_eq h
  obtain rfl := Option.some.inj (hx.symm.trans hxAxis)
  obtain rfl := Option.some.inj (hy.symm.trans hyAxis)
  rw [hdrawn] at hseries
  obtain ⟨group, hgroup, rfl⟩ := List.mem_map.mp hseries
  rw [groupPoints_eq, ((mem_groupRowsBySeries hrows).mp (List.mem_of_mem_take hgroup)).2]

theorem shows_linePreview {chart : LineChart} (h : linePreview numberText result = some chart) :
    chart.Shows numberText result := by
  obtain ⟨xAxis, yAxis, hx, hy, hrows, hdrawn, hcounted⟩ := linePreview_eq h
  have hnames : (groupRowsBySeries numberText result.rows result.chart.seriesAxis).map
      SeriesGroup.name = seriesNames numberText result := map_name_groupRowsBySeries hrows
  constructor
  · rw [hdrawn, List.map_map, ← hnames, ← List.map_take]
    rfl
  · rw [hcounted, ← hnames, List.length_map]
  · intro axis haxis series hseries
    obtain rfl := Option.some.inj (hx.symm.trans haxis)
    rw [exists_of_mem_series h hy hx hseries, List.map_map]
    rfl
  · intro axis haxis
    obtain rfl := Option.some.inj (hy.symm.trans haxis)
    constructor
    · intro hall row hrow hname
      obtain ⟨series, hseries, hsame⟩ := List.mem_map.mp hname
      have hpoint : rowPoint numberText result.rows xAxis yAxis row ∈ series.2 := by
        rw [exists_of_mem_series h hy hx hseries]
        exact List.mem_map_of_mem (by simp [hrow, hsame])
      exact numericValue_nonneg_iff.mp
        ((inAxes_rowPoint_iff hrow).mp (hall series hseries _ hpoint))
    · intro hvalues series hseries point hpoint
      rw [exists_of_mem_series h hy hx hseries] at hpoint
      obtain ⟨row, hrow, rfl⟩ := List.mem_map.mp hpoint
      obtain ⟨hmem, hname⟩ := List.mem_filter.mp hrow
      have hshown : seriesName numberText result.chart.seriesAxis row ∈
          chart.series.map Prod.fst := by
        rw [of_decide_eq_true hname]
        exact List.mem_map_of_mem hseries
      exact (inAxes_rowPoint_iff hmem).mpr
        (numericValue_nonneg_iff.mpr (hvalues row hmem hshown))

/-! ## The donut preview -/

/-- There are slices exactly when there is a value above zero. -/
theorem rawSlices_ne_nil_iff {rows : List QueryRow} {xAxis yAxis : Str}
    {seriesAxis : Option Str} :
    rawSlices numberText rows xAxis yAxis seriesAxis ≠ [] ↔
      ∃ row ∈ rows, 0 < numericValue row yAxis := by
  rw [Ne, List.eq_nil_iff_forall_not_mem, not_forall_not]
  constructor
  · rintro ⟨slice, hslice⟩
    obtain ⟨hmem, hpos⟩ := List.mem_filter.mp hslice
    obtain ⟨row, hrow, rfl⟩ := List.mem_map.mp hmem
    exact ⟨row, hrow, by simpa [rowSlice] using hpos⟩
  · rintro ⟨row, hrow, hpos⟩
    exact ⟨_, List.mem_filter.mpr ⟨List.mem_map_of_mem hrow, by simpa [rowSlice] using hpos⟩⟩

/-- Their total is above zero exactly when there are some. -/
theorem totalValue_rawSlices_pos_iff {rows : List QueryRow} {xAxis yAxis : Str}
    {seriesAxis : Option Str} :
    0 < totalValue (rawSlices numberText rows xAxis yAxis seriesAxis) ↔
      ∃ row ∈ rows, 0 < numericValue row yAxis := by
  have hslices : rawSlices numberText rows xAxis yAxis seriesAxis ≠ [] ↔ _ := rawSlices_ne_nil_iff
  rw [← hslices]
  constructor
  · intro hpos hnil
    rw [hnil] at hpos
    exact lt_irrefl 0 hpos
  · exact fun hne => totalValue_pos hne fun slice => rawSlices_pos

theorem isSome_piePreview : (piePreview numberText result).isSome = true ↔
    result.IsCharted ∧ ∃ yAxis ∈ result.chart.yAxis, ∃ row ∈ result.rows,
      0 < numericValue row yAxis := by
  unfold piePreview QueryResult.IsCharted
  cases hx : result.chart.xAxis with
  | none => simp
  | some xAxis =>
    cases hy : result.chart.yAxis with
    | none => simp
    | some yAxis =>
      cases hrows : result.rows with
      | nil => simp
      | cons first rows =>
        have htotal : 0 < totalValue (rawSlices numberText (first :: rows) xAxis yAxis
            result.chart.seriesAxis) ↔ _ := totalValue_rawSlices_pos_iff
        rw [← totalValue_compactDonutSlices, ← reduceValues_eq] at htotal
        dsimp only
        split
        · next hle =>
          have hnone := htotal.not.mp (not_lt.mpr hle)
          simpa using hnone
        · next hlt =>
          have hsome := htotal.mp (not_le.mp hlt)
          simpa using hsome

/-- The first arc begins where the turn does. -/
theorem head?_donutArcs (total startAngle : ℚ) {slices : List ChartDatum} (hne : slices ≠ []) :
    (donutArcs total startAngle slices).head?.map Prod.fst = some startAngle := by
  cases slices with
  | nil => exact absurd rfl hne
  | cons slice slices => rfl

theorem shows_piePreview {chart : DonutChart} (h : piePreview numberText result = some chart) :
    chart.Shows result := by
  obtain ⟨xAxis, yAxis, hx, hy, hslices, htotal, hpos, harcs⟩ := piePreview_eq_some h
  have hvalues : ∀ slice ∈ chart.slices, 0 < slice.value := by
    rw [hslices]
    exact compactDonutSlices_pos fun slice => rawSlices_pos
  have hne : chart.slices ≠ [] := by
    intro hnil
    rw [htotal, hnil] at hpos
    exact lt_irrefl 0 hpos
  have hdrawn : ∀ arcs ∈ chart.arcs, arcs = donutArcs chart.total (-1 / 4) chart.slices := by
    intro arcs hmem
    rw [harcs] at hmem
    split at hmem
    · cases hmem
    · exact (Option.some.inj hmem).symm
  constructor
  · rw [hslices]
    exact (compacts_compactDonutSlices _).atMostSeven
  · exact hvalues
  · intro axis haxis
    obtain rfl := Option.some.inj (hy.symm.trans haxis)
    rw [htotal, hslices, totalValue_compactDonutSlices, totalValue_rawSlices]
  · exact htotal.symm
  · rw [harcs]
    by_cases hone : chart.slices.length = 1 <;> simp [hone]
  · intro arcs hmem
    rw [hdrawn arcs hmem, widths_donutArcs]
  · intro arcs hmem
    rw [hdrawn arcs hmem, head?_donutArcs _ _ hne, getLast?_donutArcs _ _ _ hne, ← htotal,
      div_self hpos.ne']
    exact ⟨rfl, isChain_donutArcs _ _ _, rfl⟩

/-! ## Results of the backend -/

section

variable {F : Type} (cell : Json.Value F → QueryCell) (lower : Str → Str) (columns : List Str)
  (rows : List (List (Str × Json.Value F)))

/-- The result that the frontend receives; `cell` is how it reads a value. -/
def receivedResult : QueryResult where
  rows := rows.map fun row => row.map fun item => (item.1, cell item.2)
  chart := suggestChart lower columns rows

variable {cell lower columns rows}

/-- It has its axes and rows exactly when a bar or a line chart is suggested. -/
theorem isCharted_receivedResult : (receivedResult cell lower columns rows).IsCharted ↔
    (suggestChart lower columns rows).chartKind = .bar ∨
      (suggestChart lower columns rows).chartKind = .line := by
  have hplottable := Analytics.plottable_of_suggestChart lower columns rows
  constructor
  · rintro ⟨hx, hy, -⟩
    cases hkind : (suggestChart lower columns rows).chartKind with
    | bar => exact Or.inl rfl
    | line => exact Or.inr rfl
    | metric => exact absurd (hplottable.metric hkind).2.1 hx
    | table => exact absurd (hplottable.table hkind).1 hx
    | pie => exact absurd hkind hplottable.kind
  · intro hkind
    obtain ⟨hrows, xAxis, yAxis, hplotted⟩ := hplottable.plotted hkind
    refine ⟨?_, ?_, fun hnil => hrows (List.map_eq_nil_iff.mp hnil)⟩
    · exact Option.ne_none_iff_exists'.mpr ⟨xAxis, hplotted.x⟩
    · exact Option.ne_none_iff_exists'.mpr ⟨yAxis, hplotted.y⟩

end

/-- A preview draws a chart of a result with axes and rows, the donut if a value is above zero,
and what it draws shows the result. The results of the backend for which a bar or a line chart is
suggested are those that the line preview draws. -/
theorem previews_show (numberText : ℚ → Str) (result : QueryResult) {F : Type}
    (cell : Json.Value F → QueryCell) (lower : Str → Str) (columns : List Str)
    (rows : List (List (Str × Json.Value F))) :
    ((linePreview numberText result).isSome = true ↔ result.IsCharted) ∧
    (∀ chart ∈ linePreview numberText result, chart.Shows numberText result) ∧
    ((piePreview numberText result).isSome = true ↔ result.IsCharted ∧
      ∃ yAxis ∈ result.chart.yAxis, ∃ row ∈ result.rows, 0 < numericValue row yAxis) ∧
    (∀ chart ∈ piePreview numberText result, chart.Shows result) ∧
    ((linePreview numberText (receivedResult cell lower columns rows)).isSome = true ↔
      (suggestChart lower columns rows).chartKind = .bar ∨
        (suggestChart lower columns rows).chartKind = .line) :=
  ⟨isSome_linePreview, fun _ h => shows_linePreview h, isSome_piePreview,
    fun _ h => shows_piePreview h, isSome_linePreview.trans isCharted_receivedResult⟩

end LiveData.Chart

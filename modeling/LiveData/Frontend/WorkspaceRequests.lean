import LiveData.Frontend.WorkspaceRuns

/-!
# The requests of the chart builder

Whatever a user chooses, and whenever the metadata is loaded again, the controls fit the loaded
catalog: the backend accepts each request they make, and an order that is set is shown.
-/

namespace LiveData.Workspace

open Analytics

/-! ## Catalogs -/

/-- Columns that a selector can name, one of which is shown by default. -/
structure PlainColumns (dataset : AnalyticsDataset) : Prop where
  nodup : (datasetColumnNames dataset).Nodup
  named : ∀ columnName ∈ datasetColumnNames dataset, columnName ≠ [] ∧ 46 ∉ columnName
  shown : ∃ columnName ∈ datasetColumnNames dataset, columnName ≠ str "sort_order"
  sorted : dataset.name = str "commerce_funnel_counts" →
    str "sort_order" ∈ datasetColumnNames dataset

/-- A catalog that is loaded: it is not empty, and its names are distinct identifiers. -/
structure Plain (datasets : List AnalyticsDataset) : Prop where
  ne_nil : datasets ≠ []
  nodup : (datasets.map AnalyticsDataset.name).Nodup
  identifiers : ∀ dataset ∈ datasets, isIdentifier dataset.name = true
  columns : ∀ dataset ∈ datasets, PlainColumns dataset

/-- The generated catalog is one. -/
theorem plain_getDatasets : Plain getDatasets := by
  refine ⟨by decide, by decide, by decide, fun dataset hd => ⟨?_, ?_, ?_, ?_⟩⟩ <;>
    revert dataset <;> decide

section Columns

variable {dataset joined : AnalyticsDataset}

theorem firstColumnName_mem (h : PlainColumns dataset) :
    firstColumnName dataset ∈ datasetColumnNames dataset := by
  obtain ⟨columnName, hmem, -⟩ := h.shown
  unfold firstColumnName datasetColumnNames at *
  cases hc : dataset.columns with
  | nil => simp [hc] at hmem
  | cons first rest => simp

/-- The default order is a column. -/
theorem defaultOrderFor_mem (h : PlainColumns dataset) :
    defaultOrderFor dataset ∈ datasetColumnNames dataset := by
  unfold defaultOrderFor
  split_ifs with hname
  · exact h.sorted hname
  · split
    · next metric hfound => exact List.mem_map_of_mem (List.mem_of_find?_eq_some hfound)
    · exact firstColumnName_mem h

/-- The columns that are shown by default, before their names are taken: each once, and one at
least unless there is nothing to show. -/
theorem exists_defaultColumns (dataset : AnalyticsDataset) :
    ∃ columns shown, defaultColumnsFor dataset = columns.map AnalyticsDatasetColumn.name ∧
      columns.Sublist shown ∧
        shown.Perm (dataset.columns.filter fun column => column.name ≠ str "sort_order") ∧
          (columns = [] → shown = []) := by
  unfold defaultColumnsFor
  dsimp only
  split_ifs
  · exact ⟨_, _, rfl, List.Sublist.refl _, List.Perm.refl _, id⟩
  · refine ⟨_, _, rfl, (List.take_sublist 2 _).append (List.take_sublist 1 _), ?_, fun hnil => ?_⟩
    · have hnot : (fun column : AnalyticsDatasetColumn => decide (column.kind ≠ .metric)) =
          fun column => !decide (column.kind = .metric) := by
        funext column
        exact decide_not
      rw [hnot]
      exact List.perm_append_comm.trans (List.filter_append_perm _ _)
    · simpa using hnil

/-- The default columns are columns, each once, and there is one. -/
theorem defaultColumnsFor_spec (h : PlainColumns dataset) :
    defaultColumnsFor dataset ≠ [] ∧ (defaultColumnsFor dataset).Nodup ∧
      defaultColumnsFor dataset ⊆ datasetColumnNames dataset := by
  obtain ⟨columns, shown, heq, hsub, hperm, hnil⟩ := exists_defaultColumns dataset
  have hnames : (columns.map AnalyticsDatasetColumn.name).Sublist
      (shown.map AnalyticsDatasetColumn.name) := hsub.map _
  have hshown : (shown.map AnalyticsDatasetColumn.name).Perm
      ((dataset.columns.filter fun column => column.name ≠ str "sort_order").map
        AnalyticsDatasetColumn.name) := hperm.map _
  have hall : ((dataset.columns.filter fun column => column.name ≠ str "sort_order").map
      AnalyticsDatasetColumn.name).Sublist (datasetColumnNames dataset) :=
    List.filter_sublist.map _
  rw [heq]
  refine ⟨fun hempty => ?_, (hshown.nodup_iff.mpr (h.nodup.sublist hall)).sublist hnames,
    fun columnName hc => hall.subset (hshown.subset (hnames.subset hc))⟩
  obtain ⟨columnName, hmem, hne⟩ := h.shown
  obtain ⟨column, hcolumn, rfl⟩ := List.mem_map.mp hmem
  have hkept : column ∈ dataset.columns.filter fun column => column.name ≠ str "sort_order" :=
    List.mem_filter.mpr ⟨hcolumn, by simpa using hne⟩
  have hshown := hperm.mem_iff.mpr hkept
  rw [hnil (List.map_eq_nil_iff.mp hempty)] at hshown
  exact List.not_mem_nil hshown

/-- The recommended keys are columns of either side. -/
theorem defaultJoinColumns_mem (h : PlainColumns dataset) (hj : PlainColumns joined) :
    (defaultJoinColumns dataset joined).1 ∈ datasetColumnNames dataset ∧
      (defaultJoinColumns dataset joined).2 ∈ datasetColumnNames joined := by
  unfold defaultJoinColumns
  split
  · next shared hfound =>
    refine ⟨List.mem_map_of_mem (List.mem_of_find?_eq_some hfound), ?_⟩
    simpa using List.find?_some hfound
  · exact ⟨firstColumnName_mem h, firstColumnName_mem hj⟩

end Columns

/-! ## Controls -/

namespace ExploreControls

variable {datasets : List AnalyticsDataset} {controls : ExploreControls}

/-- The controls fit a catalog. -/
structure Fits (datasets : List AnalyticsDataset) (controls : ExploreControls) : Prop where
  dataset : controls.dataset ∈ datasets
  join : ∀ join ∈ controls.activeJoin, join.dataset ∈ datasets ∧
    join.dataset.name ≠ controls.dataset.name ∧
      join.leftColumn ∈ datasetColumnNames controls.dataset ∧
        join.rightColumn ∈ datasetColumnNames join.dataset
  columns : controls.selectedColumns.Nodup
  order : controls.orderBy = [] ∨ controls.orderBy ∈ controls.offered
  limit : 1 ≤ controls.rowLimit

/-- The joins of the request. -/
def joins (controls : ExploreControls) : List ExploreJoin :=
  controls.activeJoin.toList.map fun join =>
    ⟨join.dataset.name, join.leftColumn, join.rightColumn, join.joinType⟩

/-- The selector of a column. -/
def selectorOf (controls : ExploreControls) (columnRef : ExploreColumnRef) : Str :=
  match controls.activeJoin with
  | none => columnRef.columnName
  | some _ => qualifiedColumnName columnRef.datasetName columnRef.columnName

theorem offered_of_none (hj : controls.activeJoin = none) :
    controls.offered = datasetColumnNames controls.dataset := by
  simp [offered, validColumnNames, joinDataset, hj, chartColumnsFor, datasetColumnNames,
    Function.comp_def]

theorem offered_of_some {join : ActiveJoin} (hj : controls.activeJoin = some join) :
    controls.offered =
      (datasetColumnNames controls.dataset).map (qualifiedColumnName controls.dataset.name) ++
        (datasetColumnNames join.dataset).map (qualifiedColumnName join.dataset.name) := by
  simp [offered, validColumnNames, joinDataset, hj, chartColumnsFor, datasetColumnNames,
    Function.comp_def]

theorem dot_notMem_name (hp : Plain datasets) {dataset : AnalyticsDataset}
    (hd : dataset ∈ datasets) : 46 ∉ dataset.name :=
  dot_notMem_of_isIdentifier (hp.identifiers dataset hd)

/-- A selector on offer stands for a column in scope, and for no other. -/
theorem Fits.decode (hp : Plain datasets) (h : controls.Fits datasets) {selector : Str}
    (hs : selector ∈ controls.offered) :
    InScope controls.dataset.name datasets controls.joins
        (columnSelectorToRef controls.dataset.name (.text selector)) ∧
      controls.selectorOf (columnSelectorToRef controls.dataset.name (.text selector)) =
        selector := by
  cases hj : controls.activeJoin with
  | none =>
    rw [offered_of_none hj] at hs
    have hdot := ((hp.columns _ h.dataset).named selector hs).2
    rw [columnSelectorToRef_of_notMem hdot, selectorOf, hj]
    exact ⟨⟨Or.inl rfl, controls.dataset, h.dataset, rfl, hs⟩, rfl⟩
  | some join =>
    obtain ⟨hjoined, -⟩ := h.join join hj
    rw [offered_of_some hj] at hs
    rcases List.mem_append.mp hs with hs | hs
    · obtain ⟨columnName, hc, rfl⟩ := List.mem_map.mp hs
      rw [qualifiedColumnName, columnSelectorToRef_append_cons (dot_notMem_name hp h.dataset),
        selectorOf, hj]
      exact ⟨⟨Or.inl rfl, controls.dataset, h.dataset, rfl, hc⟩, rfl⟩
    · obtain ⟨columnName, hc, rfl⟩ := List.mem_map.mp hs
      rw [qualifiedColumnName, columnSelectorToRef_append_cons (dot_notMem_name hp hjoined),
        selectorOf, hj]
      refine ⟨⟨Or.inr ⟨⟨join.dataset.name, join.leftColumn, join.rightColumn, join.joinType⟩, ?_,
        rfl⟩, join.dataset, hjoined, rfl, hc⟩, rfl⟩
      rw [joins, hj]
      exact List.mem_singleton_self _

/-- The default selectors are on offer, each once, and there is one. -/
theorem Fits.defaults_spec (hp : Plain datasets) (h : controls.Fits datasets) :
    controls.defaults ≠ [] ∧ controls.defaults.Nodup ∧ controls.defaults ⊆ controls.offered := by
  obtain ⟨hne, hnodup, hsub⟩ := defaultColumnsFor_spec (hp.columns _ h.dataset)
  cases hj : controls.activeJoin with
  | none =>
    rw [offered_of_none hj, defaults, joinDataset, hj]
    exact ⟨hne, hnodup, hsub⟩
  | some join =>
    obtain ⟨hjoined, hother, -, -⟩ := h.join join hj
    obtain ⟨-, hnodup', hsub'⟩ := defaultColumnsFor_spec (hp.columns _ hjoined)
    have hinj : ∀ name, Function.Injective (qualifiedColumnName name) := fun name a b hab =>
      (List.cons.inj (List.append_cancel_left hab)).2
    rw [offered_of_some hj, defaults, joinDataset, hj]
    refine ⟨by simp [defaultColumnsForJoinedDatasets, hne], ?_, ?_⟩
    · refine List.nodup_append.mpr ⟨(hnodup.sublist (List.take_sublist _ _)).map (hinj _),
        (hnodup'.sublist (List.take_sublist _ _)).map (hinj _), ?_⟩
      rintro a ha b hb rfl
      obtain ⟨left, -, rfl⟩ := List.mem_map.mp ha
      obtain ⟨right, -, heq⟩ := List.mem_map.mp hb
      have hdecoded := congrArg (fun selector => columnSelectorToRef [] (.text selector)) heq
      simp only [qualifiedColumnName] at hdecoded
      rw [columnSelectorToRef_append_cons (dot_notMem_name hp hjoined),
        columnSelectorToRef_append_cons (dot_notMem_name hp h.dataset)] at hdecoded
      exact hother (ExploreColumnRef.mk.inj hdecoded).1
    · exact List.append_subset.mpr
        ⟨List.subset_append_of_subset_left _ (List.map_subset _ fun c hc =>
          hsub (List.mem_of_mem_take hc)),
        List.subset_append_of_subset_right _ (List.map_subset _ fun c hc =>
          hsub' (List.mem_of_mem_take hc))⟩

/-- So are the selectors in use. -/
theorem Fits.projection_spec (hp : Plain datasets) (h : controls.Fits datasets) :
    controls.projection ≠ [] ∧ controls.projection.Nodup ∧
      controls.projection ⊆ controls.offered := by
  have hprojection : controls.projection =
      if 0 < (controls.selectedColumns.filter (· ∈ controls.offered)).length then
        controls.selectedColumns.filter (· ∈ controls.offered)
      else controls.defaults := rfl
  rw [hprojection]
  split_ifs with hlength
  · refine ⟨List.ne_nil_of_length_pos hlength, h.columns.filter _, fun selector hs => ?_⟩
    simpa using (List.mem_filter.mp hs).2
  · exact h.defaults_spec hp

/-- The controls make a request that the backend accepts, and an order that is set is shown. -/
def Accepted (datasets : List AnalyticsDataset) (controls : ExploreControls) : Prop :=
  (∃ request query, controls.runExplore = some request ∧ request.query datasets = .ok query) ∧
    (controls.orderBy = [] ∨ controls.ShowsOrder)

/-- Controls that fit a catalog are accepted. -/
theorem Fits.accepted (hp : Plain datasets) (h : controls.Fits datasets) :
    controls.Accepted datasets := by
  have hshown : controls.orderBy = [] ∨ controls.ShowsOrder := by
    by_cases horder : controls.orderBy = []
    · exact Or.inl horder
    · exact Or.inr ⟨horder, h.order.resolve_left horder⟩
  refine ⟨?_, hshown⟩
  obtain ⟨hne, hnodup, hsub⟩ := h.projection_spec hp
  have hjoins : controls.joins.length ≤ 1 ∧ ∀ join ∈ controls.joins,
      (∃ dataset ∈ datasets, dataset.name = join.datasetName) ∧
        join.datasetName ≠ controls.dataset.name ∧
          OwnsColumn datasets ⟨controls.dataset.name, join.leftColumn⟩ ∧
            OwnsColumn datasets ⟨join.datasetName, join.rightColumn⟩ := by
    unfold joins
    cases hj : controls.activeJoin with
    | none => simp
    | some join =>
      obtain ⟨hjoined, hother, hleft, hright⟩ := h.join join hj
      simp only [Option.toList_some, List.map_cons, List.map_nil, List.length_singleton,
        le_refl, List.forall_mem_singleton, true_and]
      exact ⟨⟨join.dataset, hjoined, rfl⟩, hother, ⟨controls.dataset, h.dataset, rfl, hleft⟩,
        join.dataset, hjoined, rfl, hright⟩
  have hacceptable : Acceptable controls.dataset.name datasets
      (controls.projection.map fun selector =>
        columnSelectorToRef controls.dataset.name (.text selector)) controls.joins
      (if controls.orderBy ≠ [] then
        some (columnSelectorToRef controls.dataset.name (.text controls.orderBy)) else none) :=
    { base_known := ⟨controls.dataset, h.dataset, rfl⟩
      one_join := hjoins.1
      join_known := fun join hj => (hjoins.2 join hj).1
      join_other := fun join hj => (hjoins.2 join hj).2.1
      join_left := fun join hj => (hjoins.2 join hj).2.2.1
      join_right := fun join hj => (hjoins.2 join hj).2.2.2
      columns_ne_nil := by simpa using hne
      columns_nodup := by
        refine List.Nodup.map_on (fun a ha b hb hab => ?_) hnodup
        rw [← (h.decode hp (hsub ha)).2, ← (h.decode hp (hsub hb)).2, hab]
      columns_inScope := by
        intro columnRef hc
        obtain ⟨selector, hs, rfl⟩ := List.mem_map.mp hc
        exact (h.decode hp (hsub hs)).1
      order_inScope := by
        intro columnRef hc
        split_ifs at hc with horder
        · obtain rfl := Option.some.inj hc
          exact (h.decode hp (h.order.resolve_left horder)).1
        · cases hc }
  have hrequest : controls.projection ≠ [] ∧ 1 ≤ controls.rowLimit := ⟨hne, h.limit⟩
  refine ⟨_, _, dif_pos hrequest, (buildExploreQuery_eq_ok hp.nodup).mpr ⟨?_, rfl⟩⟩
  have horder : (if controls.orderBy ≠ [] then some (ExploreColumnSelector.text controls.orderBy)
        else none).map (columnSelectorToRef controls.dataset.name) =
      if controls.orderBy ≠ [] then
        some (columnSelectorToRef controls.dataset.name (.text controls.orderBy)) else none := by
    split_ifs <;> rfl
  rw [ExploreQueryRequest.columnRefs, ExploreQueryRequest.orderByRef, List.map_map, horder]
  exact hacceptable

end ExploreControls

/-! ## States -/

namespace AnalyticsWorkspace

variable {R : Type} {s t : AnalyticsWorkspace R} {dataset joined : AnalyticsDataset}

/-- The dataset that an enabled join names. -/
def joinedDataset (s : AnalyticsWorkspace R) : Option AnalyticsDataset :=
  if s.joinEnabled then s.datasetNamed s.joinDatasetName else none

/-- The choices fit the selected dataset. -/
structure Consistent (s : AnalyticsWorkspace R) (dataset : AnalyticsDataset) : Prop where
  selected : s.selectedDataset = some dataset
  join : s.joinEnabled = true → ∃ joined, s.datasetNamed s.joinDatasetName = some joined ∧
    joined.name ≠ dataset.name ∧ s.joinLeftColumn ∈ datasetColumnNames dataset ∧
      s.joinRightColumn ∈ datasetColumnNames joined
  columns : s.selectedColumns.Nodup
  order : s.orderBy = [] ∨ s.orderBy ∈ validColumnNames dataset s.joinedDataset

/-- What is chosen, and what it is chosen from. -/
def choices (s : AnalyticsWorkspace R) :=
  (s.datasets, s.viewTables, s.selectedDatasetName, s.selectedColumns, s.orderBy, s.rowLimit,
    s.joinEnabled, s.joinDatasetName, s.joinLeftColumn, s.joinRightColumn)

theorem Consistent.of_choices (hs : s.Consistent dataset) (h : t.choices = s.choices) :
    t.Consistent dataset := by
  simp only [choices, Prod.mk.injEq] at h
  obtain ⟨hdatasets, -, hname, hcolumns, horder, -, henabled, hjoined, hleft, hright⟩ := h
  obtain ⟨h1, h2, h3, h4⟩ := hs
  constructor
  · rwa [selectedDataset, datasetNamed, hdatasets, hname]
  · rwa [henabled, datasetNamed, hdatasets, hjoined, hleft, hright]
  · rwa [hcolumns]
  · rwa [horder, joinedDataset, datasetNamed, hdatasets, henabled, hjoined]

theorem joinedDataset_of_enabled (he : s.joinEnabled = true)
    (hj : s.datasetNamed s.joinDatasetName = some joined) : s.joinedDataset = some joined := by
  rw [joinedDataset, if_pos he, hj]

theorem activeJoin_of_not (h : s.joinEnabled = false) : s.activeJoin = none := by
  unfold activeJoin
  cases s.datasetNamed s.joinDatasetName <;> simp [h]

/-- An enabled join is active. -/
theorem Consistent.activeJoin (hp : Plain s.datasets) (h : s.Consistent dataset)
    (he : s.joinEnabled = true) (hj : s.datasetNamed s.joinDatasetName = some joined) :
    s.activeJoin = some ⟨joined, s.joinLeftColumn, s.joinRightColumn, s.joinType⟩ := by
  obtain ⟨found, hfound, -, hl, hr⟩ := h.join he
  obtain rfl := Option.some.inj (hj.symm.trans hfound)
  have hdataset := hp.columns dataset (mem_of_datasetNamed h.selected).1
  have hjoined := hp.columns joined (mem_of_datasetNamed hj).1
  have hleft := List.length_pos_iff.mpr (hdataset.named _ hl).1
  have hright := List.length_pos_iff.mpr (hjoined.named _ hr).1
  simp [AnalyticsWorkspace.activeJoin, hj, he, h.selected, hleft, hright]

/-- The columns of the dataset that the join names are on offer. -/
theorem Consistent.options (hp : Plain s.datasets) (h : s.Consistent dataset) :
    chartColumnsFor (some dataset) (s.activeJoin.map ActiveJoin.dataset) =
      chartColumnsFor (some dataset) s.joinedDataset := by
  unfold joinedDataset
  by_cases he : s.joinEnabled = true
  · obtain ⟨joined, hj, -⟩ := h.join he
    rw [h.activeJoin hp he hj, if_pos he, hj, Option.map_some]
  · rw [activeJoin_of_not (by simpa using he), if_neg he, Option.map_none]

/-- With distinct names a dataset is found by its own. -/
theorem datasetNamed_of_mem (hp : Plain s.datasets) (h : dataset ∈ s.datasets) :
    s.datasetNamed dataset.name = some dataset := by
  obtain ⟨found, hfound⟩ := exists_datasetNamed h
  obtain ⟨hmem, hname⟩ := mem_of_datasetNamed hfound
  rw [hfound, List.inj_on_of_nodup_map hp.nodup hmem h hname]

/-- The controls of a consistent state fit the catalog. -/
theorem Consistent.fits (hp : Plain s.datasets) (h : s.Consistent dataset)
    (hl : s.rowLimit ∈ rowLimitOptions) :
    ∃ controls, s.controls = some controls ∧ controls.Fits s.datasets := by
  have hpos : ∀ limit ∈ rowLimitOptions, 1 ≤ limit := by decide
  refine ⟨_, by rw [controls, h.selected, Option.map_some],
    (mem_of_datasetNamed h.selected).1, ?_, h.columns, ?_, hpos _ hl⟩
  · intro join hjoin
    have he : s.joinEnabled = true := by
      by_contra he
      rw [activeJoin_of_not (by simpa using he)] at hjoin
      cases hjoin
    obtain ⟨joined, hj, hother, hleft, hright⟩ := h.join he
    rw [h.activeJoin hp he hj] at hjoin
    obtain rfl := Option.some.inj hjoin
    exact ⟨(mem_of_datasetNamed hj).1, hother, hleft, hright⟩
  · have horder := h.order
    rw [validColumnNames, ← h.options hp] at horder
    exact horder

/-- The default order is on offer without a join. -/
theorem defaultOrderFor_mem_validColumnNames (h : PlainColumns dataset) :
    defaultOrderFor dataset ∈ validColumnNames dataset none := by
  simpa [validColumnNames, chartColumnsFor, datasetColumnNames, Function.comp_def] using
    defaultOrderFor_mem h

/-- With a join every column of the dataset is on offer under its qualified name. -/
theorem qualified_mem_validColumnNames {columnName : Str}
    (h : columnName ∈ datasetColumnNames dataset) :
    qualifiedColumnName dataset.name columnName ∈ validColumnNames dataset (some joined) := by
  obtain ⟨column, hcolumn, rfl⟩ := List.mem_map.mp h
  exact List.mem_map.mpr ⟨⟨_, dataset.name ++ 46 :: column.name, column.kind⟩,
    List.mem_flatMap.mpr ⟨dataset, List.mem_cons_self, List.mem_map.mpr ⟨column, hcolumn, rfl⟩⟩,
    rfl⟩

/-- The defaults of a dataset fit it. -/
theorem consistent_applyDatasetDefaults (hp : Plain s.datasets) (h : dataset ∈ s.datasets) :
    (s.applyDatasetDefaults dataset).Consistent dataset where
  selected := datasetNamed_of_mem hp h
  join := nofun
  columns := (defaultColumnsFor_spec (hp.columns dataset h)).2.1
  order := Or.inr (defaultOrderFor_mem_validColumnNames (hp.columns dataset h))

/-- So they do once its join is reset. -/
theorem consistent_resetJoinControls (hp : Plain s.datasets)
    (h : s.selectedDataset = some dataset) :
    (s.resetJoinControls (some dataset)).Consistent dataset where
  selected := h
  join := nofun
  columns := (defaultColumnsFor_spec (hp.columns dataset (mem_of_datasetNamed h).1)).2.1
  order := Or.inr
    (defaultOrderFor_mem_validColumnNames (hp.columns dataset (mem_of_datasetNamed h).1))

/-- The columns that are shown of two datasets differ. -/
theorem nodup_defaultColumnsForJoinedDatasets {datasets : List AnalyticsDataset}
    (hp : Plain datasets) (hd : dataset ∈ datasets) (hj : joined ∈ datasets)
    (hne : joined.name ≠ dataset.name) :
    (defaultColumnsForJoinedDatasets dataset joined).Nodup := by
  have hkeys := defaultJoinColumns_mem (hp.columns dataset hd) (hp.columns joined hj)
  let join : ActiveJoin := ⟨joined, (defaultJoinColumns dataset joined).1,
    (defaultJoinColumns dataset joined).2, .inner⟩
  have hfits : ExploreControls.Fits datasets ⟨dataset, some join, [], [], .desc, 1⟩ := by
    refine ⟨hd, fun other hother => ?_, List.nodup_nil, Or.inl rfl, le_refl 1⟩
    obtain rfl := Option.some.inj hother
    exact ⟨hj, hne, hkeys⟩
  exact (hfits.defaults_spec hp).2.1

/-- A join target brings its keys, the columns of either side and an order. -/
theorem consistent_applyJoinTarget (hp : Plain s.datasets)
    (h : s.selectedDataset = some dataset) (hj : joined ∈ s.joinTargetOptions) :
    (s.applyJoinTarget joined).Consistent dataset := by
  obtain ⟨hjoined, hother⟩ := List.mem_filter.mp hj
  obtain ⟨hd, hname⟩ := mem_of_datasetNamed h
  have hne : joined.name ≠ dataset.name := by
    rw [hname]
    simpa using hother
  have hfound : s.datasetNamed joined.name = some joined := datasetNamed_of_mem hp hjoined
  have happly : s.applyJoinTarget joined =
      { s with
        joinEnabled := true
        joinDatasetName := joined.name
        joinLeftColumn := (defaultJoinColumns dataset joined).1
        joinRightColumn := (defaultJoinColumns dataset joined).2
        selectedColumns := defaultColumnsForJoinedDatasets dataset joined
        orderBy := qualifiedColumnName dataset.name (defaultOrderFor dataset) } := by
    simp only [applyJoinTarget, h]
  rw [happly]
  refine ⟨h, fun _ => ⟨joined, hfound, hne,
      defaultJoinColumns_mem (hp.columns dataset hd) (hp.columns joined hjoined)⟩,
    nodup_defaultColumnsForJoinedDatasets hp hd hjoined hne, Or.inr ?_⟩
  rw [joinedDataset_of_enabled rfl hfound]
  exact qualified_mem_validColumnNames (defaultOrderFor_mem (hp.columns dataset hd))

/-- A control keeps the choices consistent, with the dataset it selects. -/
theorem Edit.consistent (h : Edit s t) (hp : Plain s.datasets) (hs : s.Consistent dataset) :
    ∃ dataset, t.Consistent dataset := by
  cases h with
  | mode | joinType | chartKind | direction | limit =>
    exact ⟨dataset, hs.selected, hs.join, hs.columns, hs.order⟩
  | dataset chosen mode hmem =>
    have hchosen := consistent_applyDatasetDefaults hp hmem
    exact ⟨chosen, hchosen.selected, hchosen.join, hchosen.columns, hchosen.order⟩
  | column value =>
    refine ⟨dataset, hs.selected, hs.join, ?_, hs.order⟩
    unfold handleColumnToggle
    dsimp only
    split_ifs with hmem
    · exact hs.columns.filter _
    · exact List.nodup_append.mpr ⟨hs.columns, List.nodup_singleton value, by grind⟩
  | resetJoin =>
    rw [hs.selected]
    exact ⟨dataset, consistent_resetJoinControls hp hs.selected⟩
  | enableJoin =>
    unfold enableDefaultJoin
    rw [hs.selected]
    cases htarget : s.joinTargetOptions.head? with
    | none => exact ⟨dataset, hs.selected, hs.join, hs.columns, hs.order⟩
    | some joined =>
      exact ⟨dataset, consistent_applyJoinTarget hp hs.selected (List.mem_of_head? htarget)⟩
  | joinDataset joined hmem =>
    exact ⟨dataset, consistent_applyJoinTarget (s := { s with joinDatasetName := joined.name })
      hp hs.selected hmem⟩
  | joinLeft columnName found hd hc =>
    obtain rfl := Option.some.inj (hs.selected.symm.trans hd)
    refine ⟨dataset, hs.selected, fun he => ?_, hs.columns, hs.order⟩
    obtain ⟨joined, hj, hne, -, hr⟩ := hs.join he
    exact ⟨joined, hj, hne, hc, hr⟩
  | joinRight columnName found hd hc =>
    refine ⟨dataset, hs.selected, fun he => ?_, hs.columns, hs.order⟩
    obtain ⟨joined, hj, hne, hl, -⟩ := hs.join he
    obtain rfl := Option.some.inj (hj.symm.trans hd)
    exact ⟨joined, hj, hne, hl, hc⟩
  | recommendedKeys =>
    unfold applyRecommendedJoinKeys
    rw [hs.selected]
    cases hj : s.datasetNamed s.joinDatasetName with
    | none => exact ⟨dataset, hs⟩
    | some joined =>
      refine ⟨dataset, hs.selected, fun he => ?_, hs.columns, hs.order⟩
      obtain ⟨found, hfound, hne, -⟩ := hs.join he
      obtain rfl := Option.some.inj (hj.symm.trans hfound)
      exact ⟨joined, hj, hne, defaultJoinColumns_mem
        (hp.columns dataset (mem_of_datasetNamed hs.selected).1)
        (hp.columns joined (mem_of_datasetNamed hj).1)⟩
  | order value hvalue =>
    rw [chartColumnOptions, hs.selected, hs.options hp] at hvalue
    exact ⟨dataset, hs.selected, hs.join, hs.columns, hvalue⟩

/-! ## Loading -/

/-- What a handler that is awaited was started with. -/
def Resumable (s : AnalyticsWorkspace R) : Awaited → Prop
  | .query (.explore controls) => Plain s.datasets ∧ controls.Fits s.datasets
  | .delete name closure =>
    closure.selectedDatasetName ≠ [] ∧ s.deletingViewTableName = some name
  | .reload preferred closure false =>
    closure.selectedDatasetName ≠ [] ∧ (preferred = some closure.selectedDatasetName ∨
      s.deletingViewTableName = some closure.selectedDatasetName)
  | .reload preferred _ true => preferred.isSome = true
  | _ => True

/-- A reply shows the writes: a dataset that was saved is loaded, and one that was deleted is
not. -/
def ShowsWrites (s : AnalyticsWorkspace R) : Reply R → Prop
  | .loaded datasets _ => Plain datasets ∧
    (∀ name closure, Awaited.reload (some name) closure true ∈ s.awaited →
      name ∈ datasets.map AnalyticsDataset.name) ∧
      ∀ name ∈ s.deletingViewTableName, name ∉ datasets.map AnalyticsDataset.name
  | _ => True

/-- Once a catalog is loaded, the choices fit it. -/
structure Fitting (s : AnalyticsWorkspace R) : Prop where
  serial : s.Serial
  loaded : s.datasets = [] ∧ s.viewTables = [] ∨
    Plain s.datasets ∧ ∃ dataset, s.Consistent dataset
  limit : s.rowLimit ∈ rowLimitOptions
  resumable : ∀ awaited ∈ s.awaited, s.Resumable awaited

theorem preferredDataset_mem {datasets : List AnalyticsDataset} (h : datasets ≠ []) :
    ∃ dataset ∈ datasets, preferredDataset datasets = some dataset := by
  unfold preferredDataset
  cases hfound : datasets.find? (·.name = str "event_type_counts") with
  | some dataset => exact ⟨dataset, List.mem_of_find?_eq_some hfound, rfl⟩
  | none => exact ⟨datasets.head h, List.head_mem h, by simp [List.head?_eq_some_head h]⟩

theorem datasetNamed_eq_none {name : Str} (h : name ∉ s.datasets.map AnalyticsDataset.name) :
    s.datasetNamed name = none := by
  refine List.find?_eq_none.mpr fun dataset hd heq => h ?_
  exact of_decide_eq_true heq ▸ List.mem_map_of_mem hd

/-- Metadata that is loaded again brings choices that fit it. -/
theorem consistent_reloadMetadata {datasets : List AnalyticsDataset} {viewTables : List Str}
    {preferred : Option Str} {closure : Closure} (hp : Plain datasets)
    (h : (∃ name ∈ preferred, name ∈ datasets.map AnalyticsDataset.name) ∨
      closure.selectedDatasetName ≠ [] ∧ (preferred = some closure.selectedDatasetName ∨
        closure.selectedDatasetName ∉ datasets.map AnalyticsDataset.name)) :
    ∃ dataset, (s.reloadMetadata datasets viewTables preferred closure).Consistent dataset := by
  let t : AnalyticsWorkspace R := { s with datasets := datasets, viewTables := viewTables }
  -- Whichever dataset is chosen, its defaults are applied, and a join is reset to them.
  have hchosen : ∃ dataset ∈ datasets,
      (preferred.bind t.datasetNamed).or ((t.datasetNamed closure.selectedDatasetName).or
        (preferredDataset datasets)) = some dataset ∧
      t.chooseReloaded closure (preferred.bind t.datasetNamed)
        (t.datasetNamed closure.selectedDatasetName) (some dataset) =
          t.applyDatasetDefaults dataset := by
    cases hfound : preferred.bind t.datasetNamed with
    | some dataset =>
      obtain ⟨name, -, hname⟩ := Option.bind_eq_some_iff.mp hfound
      exact ⟨dataset, (mem_of_datasetNamed hname).1, rfl, rfl⟩
    | none =>
      have habsent : ∀ name ∈ preferred, name ∉ datasets.map AnalyticsDataset.name := by
        rintro name rfl hmem
        obtain ⟨dataset, hd, rfl⟩ := List.mem_map.mp hmem
        obtain ⟨found, hnamed⟩ := exists_datasetNamed (s := t) hd
        exact absurd (hnamed.symm.trans hfound) nofun
      obtain ⟨hname, hgone⟩ := h.resolve_left fun ⟨name, hname, hmem⟩ => habsent name hname hmem
      have hcurrent : t.datasetNamed closure.selectedDatasetName = none :=
        datasetNamed_eq_none (s := t) (hgone.elim (habsent _) id)
      obtain ⟨dataset, hd, hpreferred⟩ := preferredDataset_mem hp.ne_nil
      refine ⟨dataset, hd, by rw [hcurrent, hpreferred]; rfl, ?_⟩
      rw [hcurrent]
      exact if_pos ⟨List.length_pos_iff.mpr hname, rfl⟩
  obtain ⟨dataset, hd, hactive, hchoose⟩ := hchosen
  refine ⟨dataset, ?_⟩
  have hdefaults := consistent_applyDatasetDefaults (s := t) hp hd
  have hreload : s.reloadMetadata datasets viewTables preferred closure =
      if 0 < closure.joinDatasetName.length ∧
          ∀ dataset ∈ datasets, dataset.name ≠ closure.joinDatasetName then
        (t.applyDatasetDefaults dataset).resetJoinControls (some dataset)
      else t.applyDatasetDefaults dataset := by
    unfold reloadMetadata
    dsimp only
    rw [hactive, hchoose]
  rw [hreload]
  split_ifs
  · exact consistent_resetJoinControls hp hdefaults.selected
  · exact hdefaults

/-! ## Runs -/

theorem Edit.rowLimit_mem (h : Edit s t) (hl : s.rowLimit ∈ rowLimitOptions) :
    t.rowLimit ∈ rowLimitOptions := by
  cases h with
  | limit limit hlimit => exact hlimit
  | resetJoin =>
    unfold resetJoinControls
    split <;> exact hl
  | enableJoin =>
    unfold enableDefaultJoin applyJoinTarget
    split <;> (try split) <;> exact hl
  | joinDataset =>
    unfold applyJoinTarget
    split <;> exact hl
  | recommendedKeys =>
    unfold applyRecommendedJoinKeys
    split <;> exact hl
  | mode | dataset _ _ _ | column | joinType | joinLeft | joinRight | chartKind | order
  | direction => exact hl

theorem rowLimit_reloadMetadata (s : AnalyticsWorkspace R) (datasets : List AnalyticsDataset)
    (viewTables : List Str) (preferred : Option Str) (closure : Closure) :
    (s.reloadMetadata datasets viewTables preferred closure).rowLimit = s.rowLimit := by
  have hreset : ∀ (t : AnalyticsWorkspace R) (dataset : Option AnalyticsDataset),
      (t.resetJoinControls dataset).rowLimit = t.rowLimit := by
    intro t dataset
    cases dataset <;> rfl
  have hchoose : ∀ (t : AnalyticsWorkspace R) (preferred current active : Option AnalyticsDataset),
      (t.chooseReloaded closure preferred current active).rowLimit = t.rowLimit := by
    intro t preferred current active
    unfold chooseReloaded
    split
    · rfl
    · split_ifs
      · split
        · rfl
        · exact hreset t none
      · rfl
  unfold reloadMetadata
  dsimp only
  split_ifs
  · rw [hreset, hchoose]
  · rw [hchoose]

/-- A control keeps the choices fitting. -/
theorem Edit.fitting (h : Edit s t) (hs : s.Fitting) : t.Fitting := by
  have hsame := h.sameHandlers
  refine ⟨hsame.serial hs.serial, ?_, h.rowLimit_mem hs.limit, ?_⟩
  · rw [hsame.datasets, hsame.viewTables]
    rcases hs.loaded with hempty | ⟨hp, chosen, hchosen⟩
    · exact Or.inl hempty
    · exact Or.inr ⟨hp, h.consistent hp hchosen⟩
  · rw [hsame.awaited]
    intro awaited ha
    have hresumable := hs.resumable awaited ha
    unfold Resumable at hresumable ⊢
    rwa [hsame.deleting, hsame.datasets]

/-- Choices that are left still fit. -/
theorem Fitting.of_choices (hs : s.Fitting) (h : t.choices = s.choices) (hserial : t.Serial)
    (hr : ∀ awaited ∈ t.awaited, t.Resumable awaited) : t.Fitting := by
  have hfields := h
  simp only [choices, Prod.mk.injEq] at hfields
  obtain ⟨hdatasets, hviews, -, -, -, hlimit, -⟩ := hfields
  refine ⟨hserial, ?_, hlimit ▸ hs.limit, hr⟩
  rw [hdatasets, hviews]
  rcases hs.loaded with hempty | ⟨hp, chosen, hchosen⟩
  · exact Or.inl hempty
  · exact Or.inr ⟨hp, chosen, hchosen.of_choices h⟩

/-- The promise of a handler that starts is the only one. -/
theorem resumable_start (hnil : s.awaited = []) {awaited : Awaited} (h : t.Resumable awaited) :
    ∀ other ∈ (s.start awaited).awaited, t.Resumable other := by
  intro other hother
  rw [start, hnil] at hother
  obtain rfl := List.mem_singleton.mp hother
  exact h

/-- A handler that starts leaves the choices, and closes over them. -/
theorem Started.fitting (h : Started s t) (hs : s.Fitting) : t.Fitting := by
  have hserial := h.serial hs.serial
  cases h with
  | refused hr hc =>
    unfold AnalyticsWorkspace.runExplore at hserial ⊢
    rw [hc] at hserial ⊢
    exact hs.of_choices rfl hserial hs.resumable
  | explore hr controls hc =>
    refine hs.of_choices rfl hserial (resumable_start (hs.serial.awaited_eq_nil hr) ?_)
    rcases hs.loaded with ⟨hempty, -⟩ | ⟨hp, chosen, hchosen⟩
    · simp [AnalyticsWorkspace.controls, selectedDataset, datasetNamed, hempty] at hc
    · obtain ⟨found, hfound, hfits⟩ := hchosen.fits hp hs.limit
      obtain rfl := Option.some.inj (hfound.symm.trans hc)
      exact ⟨hp, hfits⟩
  | sql hr | preview hr | create hr =>
    exact hs.of_choices rfl hserial (resumable_start (hs.serial.awaited_eq_nil hr) trivial)
  | delete name hv hd hq =>
    refine hs.of_choices rfl hserial
      (resumable_start (hs.serial.awaited_eq_nil_of_delete hv hq) ⟨?_, rfl⟩)
    rcases hs.loaded with ⟨-, hnone⟩ | ⟨hp, chosen, hchosen⟩
    · rw [hnone] at hv
      cases hv
    · obtain ⟨hmem, hname⟩ := mem_of_datasetNamed hchosen.selected
      have hidentifier := hp.identifiers chosen hmem
      intro hempty
      rw [hname, show s.selectedDatasetName = [] from hempty] at hidentifier
      cases hidentifier

/-- A reply leaves the choices, or brings a catalog and choices that fit it. -/
theorem Settled.fitting {reply : Reply R} (h : Settled s reply t) (hs : s.Fitting)
    (hw : s.ShowsWrites reply) : t.Fitting := by
  have hserial := h.serial hs.serial
  obtain ⟨index, awaited, t, ha, h⟩ := h
  obtain ⟨honly, hnone⟩ := hs.serial.awaited_eq ha
  have hresumable := hs.resumable awaited (by rw [honly]; exact List.mem_singleton_self _)
  rw [hnone] at h
  unfold resume at h
  split at h
  · next datasets viewTables =>
    obtain rfl := Option.some.inj h
    obtain ⟨hp, -⟩ := hw
    obtain ⟨dataset, hd, hpreferred⟩ := preferredDataset_mem hp.ne_nil
    rw [hpreferred] at hserial ⊢
    exact ⟨hserial, Or.inr ⟨hp, dataset, consistent_applyDatasetDefaults hp hd⟩, hs.limit, nofun⟩
  · exact hs.of_choices (Option.some.inj h ▸ rfl) hserial (Option.some.inj h ▸ nofun)
  · exact hs.of_choices (Option.some.inj h ▸ rfl) hserial (Option.some.inj h ▸ nofun)
  · exact hs.of_choices (Option.some.inj h ▸ rfl) hserial (Option.some.inj h ▸ nofun)
  · next closure name =>
    obtain rfl := Option.some.inj h
    refine hs.of_choices rfl hserial fun other hother => ?_
    obtain rfl := List.mem_singleton.mp hother
    exact rfl
  · exact hs.of_choices (Option.some.inj h ▸ rfl) hserial (Option.some.inj h ▸ nofun)
  · next name closure =>
    obtain rfl := Option.some.inj h
    refine hs.of_choices rfl hserial fun other hother => ?_
    obtain rfl := List.mem_singleton.mp hother
    refine ⟨hresumable.1, ?_⟩
    split_ifs with hsame
    · exact Or.inr (hsame ▸ hresumable.2)
    · exact Or.inl rfl
  · exact hs.of_choices (Option.some.inj h ▸ rfl) hserial (Option.some.inj h ▸ nofun)
  · next preferred closure saved datasets viewTables =>
    obtain ⟨hp, hsaved, hdeleted⟩ := hw
    have hsame := sameHandlers_reloadMetadata ({ s with awaited := [] } : AnalyticsWorkspace R)
      datasets viewTables preferred closure
    have hlimit := rowLimit_reloadMetadata ({ s with awaited := [] } : AnalyticsWorkspace R)
      datasets viewTables preferred closure
    have hfound : (∃ name ∈ preferred, name ∈ datasets.map AnalyticsDataset.name) ∨
        closure.selectedDatasetName ≠ [] ∧ (preferred = some closure.selectedDatasetName ∨
          closure.selectedDatasetName ∉ datasets.map AnalyticsDataset.name) := by
      cases saved with
      | true =>
        obtain ⟨name, rfl⟩ := Option.isSome_iff_exists.mp hresumable
        refine Or.inl ⟨name, rfl, hsaved name closure ?_⟩
        rw [honly]
        exact List.mem_singleton_self _
      | false => exact Or.inr ⟨hresumable.1, hresumable.2.imp id (hdeleted _)⟩
    obtain ⟨chosen, hchosen⟩ : ∃ dataset, (reloadMetadata { s with awaited := [] } datasets
        viewTables preferred closure).Consistent dataset := consistent_reloadMetadata hp hfound
    generalize reloadMetadata { s with awaited := [] } datasets viewTables preferred closure = u
      at h hsame hlimit hchosen
    obtain rfl := Option.some.inj h
    have hplain : Plain u.datasets := hsame.datasets ▸ hp
    have hnil : u.awaited = [] := hsame.awaited
    cases saved with
    | true =>
      refine ⟨hserial, Or.inr ⟨hplain, chosen, hchosen.of_choices rfl⟩, hlimit ▸ hs.limit, ?_⟩
      exact fun other hother => absurd (hnil ▸ hother) List.not_mem_nil
    | false =>
      refine ⟨hserial, Or.inr ⟨hplain, chosen, hchosen.of_choices rfl⟩, hlimit ▸ hs.limit, ?_⟩
      exact fun other hother => absurd (hnil ▸ hother) List.not_mem_nil
  · exact hs.of_choices (Option.some.inj h ▸ rfl) hserial (Option.some.inj h ▸ nofun)
  · exact hs.of_choices (Option.some.inj h ▸ rfl) hserial (Option.some.inj h ▸ nofun)
  · cases h

theorem fitting_init : Fitting ({} : AnalyticsWorkspace R) :=
  ⟨serial_init, Or.inl ⟨rfl, rfl⟩, (by decide : (100 : Int) ∈ rowLimitOptions),
    by simp [Resumable]⟩

/-- In every run whose replies show the writes, the request that a loaded workspace would send
is accepted for the catalog it shows, and so is the one it awaits; an order that is set is
shown. -/
theorem requests_accepted {actions : List (WorkspaceAction R)}
    (hw : ∀ before index reply after t, actions = before ++ .settle index reply :: after →
      run step ({} : AnalyticsWorkspace R) before = some t → t.ShowsWrites reply)
    (h : run step ({} : AnalyticsWorkspace R) actions = some s) :
    (s.datasets ≠ [] → ∃ controls, s.controls = some controls ∧ controls.Accepted s.datasets) ∧
      ∀ controls, .query (.explore controls) ∈ s.awaited → controls.Accepted s.datasets := by
  have hs : s.Fitting := by
    refine @invariant_of_run_of_forall _ _ step Fitting
      (fun s a => ∀ index reply, a = .settle index reply → s.ShowsWrites reply)
      ?_ _ _ _ fitting_init ?_ h
    · intro s a t hs hallowed ht
      rcases step_cases ht with ⟨-, hedit | hstart⟩ | ⟨index, reply, ha, hsettled⟩
      · exact hedit.fitting hs
      · exact hstart.fitting hs
      · exact hsettled.fitting hs (hallowed index reply ha)
    · rintro before a after t hactions hrun index reply rfl
      exact hw before index reply after t hactions hrun
  constructor
  · intro hne
    obtain ⟨hp, chosen, hchosen⟩ := hs.loaded.resolve_left fun hempty => hne hempty.1
    obtain ⟨controls, hcontrols, hfits⟩ := hchosen.fits hp hs.limit
    exact ⟨controls, hcontrols, hfits.accepted hp⟩
  · intro controls ha
    obtain ⟨hp, hfits⟩ := hs.resumable _ ha
    exact hfits.accepted hp

/-- A selected view table is deleted, and a joined chart is sent. -/
def deleteRun : List (WorkspaceAction Nat) :=
  [.settle 0 (.loaded (getDatasets ++ [totalsDataset]) [str "totals"]),
    .selectDataset (str "totals"), .setMode .viewTables, .deleteSavedViewTable (str "totals"),
    .settle 0 .deleted, .settle 0 (.loaded getDatasets []), .setMode .explore, .toggleJoin,
    .runExplore]

/-- Where it leads. -/
def deleteState : AnalyticsWorkspace Nat := (run step {} deleteRun).getD {}

theorem run_deleteRun : run step ({} : AnalyticsWorkspace Nat) deleteRun = some deleteState :=
  run_eq_some_getD (by decide +kernel) _

theorem plain_totals : Plain (getDatasets ++ [totalsDataset]) := by
  refine ⟨by decide, by decide, by decide, fun dataset hd => ⟨?_, ?_, ?_, ?_⟩⟩ <;>
    revert dataset <;> decide

/-- Its replies show the writes: the view table is not loaded again. -/
theorem deleteRun_showsWrites (before : List (WorkspaceAction Nat)) (index : Nat)
    (reply : Reply Nat) (after : List (WorkspaceAction Nat)) (t : AnalyticsWorkspace Nat)
    (h : deleteRun = before ++ .settle index reply :: after)
    (hr : run step ({} : AnalyticsWorkspace Nat) before = some t) : t.ShowsWrites reply := by
  have hcases : before = [] ∧ reply = .loaded (getDatasets ++ [totalsDataset]) [str "totals"] ∨
      reply = .deleted ∨ before = deleteRun.take 5 ∧ reply = .loaded getDatasets [] := by
    simp [deleteRun, List.cons_eq_append_iff] at h
    rcases h with ⟨rfl, ⟨-, rfl⟩, -⟩ | ⟨_, rfl, ⟨rfl, ⟨-, rfl⟩, -⟩ | ⟨rfl, ⟨-, rfl⟩, -⟩⟩
    · exact Or.inl ⟨rfl, rfl⟩
    · exact Or.inr (Or.inl rfl)
    · exact Or.inr (Or.inr ⟨rfl, rfl⟩)
  rcases hcases with ⟨rfl, rfl⟩ | rfl | ⟨rfl, rfl⟩
  · obtain rfl := Option.some.inj hr
    exact ⟨plain_totals, by simp, nofun⟩
  · trivial
  · have hstate : t.awaited = [.reload none ⟨str "totals", []⟩ false] ∧
        t.deletingViewTableName = some (str "totals") := by
      have hfields : (run step ({} : AnalyticsWorkspace Nat) (deleteRun.take 5)).map
          (fun u => (u.awaited, u.deletingViewTableName)) =
            some ([.reload none ⟨str "totals", []⟩ false], some (str "totals")) := by
        decide +kernel
      rw [hr] at hfields
      exact Prod.mk.inj (Option.some.inj hfields)
    refine ⟨plain_getDatasets, by simp [hstate.1], fun name hname => ?_⟩
    obtain rfl := Option.some.inj (hstate.2.symm.trans hname)
    decide

/-- The joined chart is awaited, and its request was accepted. -/
theorem deleteState_accepted : deleteState.awaited.length = 1 ∧
    (deleteState.datasets ≠ [] → ∃ controls, deleteState.controls = some controls ∧
      controls.Accepted deleteState.datasets) ∧
      ∀ controls, .query (.explore controls) ∈ deleteState.awaited →
        controls.Accepted deleteState.datasets :=
  ⟨by decide +kernel, requests_accepted deleteRun_showsWrites run_deleteRun⟩

end AnalyticsWorkspace

end LiveData.Workspace

import LiveData.Analytics.ExploreRequest
import LiveData.Analytics.Lockstep

/-!
# Column selectors of the chart builder

The text `dataset.column` that stands for a column between the controls of the workspace,
the generated SQL and the explore request, with no escape for a dot in a column name.
-/

namespace LiveData.Workspace

open Analytics

/-- The test of `formatIdentifier`. -/
def isIdentifier : Str → Bool
  | [] => false
  | c :: rest => (97 ≤ c && c ≤ 122) && rest.all isViewTableNameChar

/-- `formatIdentifier`, with the message of what it throws. -/
def formatIdentifier (identifier : Str) : Except Str Str :=
  if isIdentifier identifier then .ok identifier
  else .error (str "Invalid analytics identifier: " ++ identifier)

/-- `formatColumnSelector`; two parts of the split text are used. -/
def formatColumnSelector (selector : Str) : Except Str Str :=
  if 46 ∉ selector then formatIdentifier selector
  else do
    let parts := selector.splitOn 46
    let datasetName ← formatIdentifier (parts.getD 0 [])
    let columnName ← formatIdentifier (parts.getD 1 [])
    .ok (datasetName ++ 46 :: columnName)

/-- `qualifiedColumnName`. -/
def qualifiedColumnName (datasetName columnName : Str) : Str := datasetName ++ 46 :: columnName

/-- An option of `chartColumnsFor`. -/
structure ChartColumn where
  value : Str
  label : Str
  kind : ColumnKind
  deriving DecidableEq, Repr

/-- `chartColumnsFor`. -/
def chartColumnsFor (dataset joinDataset : Option AnalyticsDataset) : List ChartColumn :=
  match dataset, joinDataset with
  | none, _ => []
  | some dataset, none =>
    dataset.columns.map fun column => ⟨column.name, column.label, column.kind⟩
  | some dataset, some joinDataset =>
    [dataset, joinDataset].flatMap fun item =>
      item.columns.map fun column =>
        ⟨qualifiedColumnName item.name column.name, item.name ++ 46 :: column.name, column.kind⟩

/-- The columns the options are for, in their order. -/
def selectableColumns (dataset : AnalyticsDataset) (joinDataset : Option AnalyticsDataset) :
    List ExploreColumnRef :=
  (dataset :: joinDataset.toList).flatMap fun item =>
    item.columns.map fun column => ⟨item.name, column.name⟩

/-- The column a formatted selector spells: a bare name is one of the base dataset. -/
def spelledColumn (base text : Str) : Option ExploreColumnRef :=
  match text.splitOn 46 with
  | [columnName] => some ⟨base, columnName⟩
  | [datasetName, columnName] => some ⟨datasetName, columnName⟩
  | _ => none

/-- The selector stands for the column in the request and in the generated SQL. -/
structure StandsFor (base : Str) (columnRef : ExploreColumnRef) (selector : Str) : Prop where
  decoded : columnSelectorToRef base (.text selector) = columnRef
  formatted : ∃ text, formatColumnSelector selector = .ok text ∧
    spelledColumn base text = some columnRef

/-- What is so of the selectors on offer: with a join every name is decoded, without one every
name that has no dot, and a name that has none is formatted if it is an identifier and
refused if it is not. -/
structure Represents (base : Str) (joined : Bool) (columnRef : ExploreColumnRef)
    (selector : Str) : Prop where
  decoded : joined = true ∨ 46 ∉ columnRef.columnName →
    columnSelectorToRef base (.text selector) = columnRef
  formatted : isIdentifier columnRef.columnName = true →
    ∃ text, formatColumnSelector selector = .ok text ∧ spelledColumn base text = some columnRef
  refused : isIdentifier columnRef.columnName = false → 46 ∉ columnRef.columnName →
    formatColumnSelector selector =
      .error (str "Invalid analytics identifier: " ++ columnRef.columnName)

/-! ## Identifiers -/

theorem isIdentifier_of_isViewTableName {name : Str} (h : isViewTableName name = true) :
    isIdentifier name = true := by
  cases name with
  | nil => exact h
  | cons c rest =>
    simp only [isViewTableName, Bool.and_eq_true] at h
    simp only [isIdentifier, Bool.and_eq_true]
    exact h.1.1

theorem isViewTableNameChar_of_isIdentifier {name : Str} (h : isIdentifier name = true) :
    ∀ c ∈ name, isViewTableNameChar c = true := by
  cases name with
  | nil => exact fun c hc => absurd hc List.not_mem_nil
  | cons c rest =>
    simp only [isIdentifier, Bool.and_eq_true, List.all_eq_true] at h
    intro d hd
    rcases List.mem_cons.mp hd with rfl | hd
    · simp [isViewTableNameChar, h.1]
    · exact h.2 d hd

/-- An identifier has no dot. -/
theorem dot_notMem_of_isIdentifier {name : Str} (h : isIdentifier name = true) : 46 ∉ name := by
  intro hdot
  exact absurd (isViewTableNameChar_of_isIdentifier h 46 hdot) (by decide)

theorem formatIdentifier_of_isIdentifier {name : Str} (h : isIdentifier name = true) :
    formatIdentifier name = .ok name := if_pos h

/-! ## Formatting -/

theorem formatColumnSelector_of_notMem {selector : Str} (h : 46 ∉ selector) :
    formatColumnSelector selector = formatIdentifier selector := if_pos h

/-- A selector is formatted from its first two parts. -/
theorem formatColumnSelector_append_cons {datasetName : Str} (h : isIdentifier datasetName = true)
    (rest : Str) : formatColumnSelector (datasetName ++ 46 :: rest) =
      (formatIdentifier ((rest.splitOn 46).getD 0 [])).map fun columnName =>
        datasetName ++ 46 :: columnName := by
  have hdot : ¬46 ∉ datasetName ++ 46 :: rest := by simp
  rw [formatColumnSelector, if_neg hdot,
    List.splitOn_append_cons_self_of_not_mem (dot_notMem_of_isIdentifier h)]
  simp only [List.getD_cons_zero, List.getD_cons_succ, formatIdentifier_of_isIdentifier h, ok_bind]
  cases formatIdentifier ((rest.splitOn 46).getD 0 []) <;> rfl

/-- A qualified name without a dot in its column is formatted like its column. -/
theorem formatColumnSelector_qualifiedColumnName {datasetName columnName : Str}
    (hd : isIdentifier datasetName = true) (hc : 46 ∉ columnName) :
    formatColumnSelector (qualifiedColumnName datasetName columnName) =
      (formatIdentifier columnName).map fun columnName => datasetName ++ 46 :: columnName := by
  rw [qualifiedColumnName, formatColumnSelector_append_cons hd, List.splitOn_eq_singleton hc]
  rfl

theorem spelledColumn_of_notMem {columnName : Str} (h : 46 ∉ columnName) (base : Str) :
    spelledColumn base columnName = some ⟨base, columnName⟩ := by
  rw [spelledColumn, List.splitOn_eq_singleton h]

theorem spelledColumn_append_cons {datasetName columnName : Str} (hd : 46 ∉ datasetName)
    (hc : 46 ∉ columnName) (base : Str) :
    spelledColumn base (datasetName ++ 46 :: columnName) = some ⟨datasetName, columnName⟩ := by
  rw [spelledColumn, List.splitOn_append_cons_self_of_not_mem hd, List.splitOn_eq_singleton hc]

/-- Without a join a selector is the name of its column. -/
theorem represents_name (base columnName : Str) :
    Represents base false ⟨base, columnName⟩ columnName where
  decoded := by
    rintro (h | h)
    · exact absurd h nofun
    · exact columnSelectorToRef_of_notMem h base
  formatted := by
    intro h
    have hdot := dot_notMem_of_isIdentifier h
    refine ⟨columnName, ?_, spelledColumn_of_notMem hdot base⟩
    rw [formatColumnSelector_of_notMem hdot, formatIdentifier_of_isIdentifier h]
  refused := by
    intro h hdot
    rw [formatColumnSelector_of_notMem hdot, formatIdentifier, h]
    rfl

/-- With a join a selector is the qualified name of its column. -/
theorem represents_qualifiedColumnName {datasetName : Str} (hd : isIdentifier datasetName = true)
    (base columnName : Str) : Represents base true ⟨datasetName, columnName⟩
      (qualifiedColumnName datasetName columnName) where
  decoded _ := columnSelectorToRef_append_cons (dot_notMem_of_isIdentifier hd) base columnName
  formatted := by
    intro h
    have hdot := dot_notMem_of_isIdentifier h
    refine ⟨datasetName ++ 46 :: columnName, ?_,
      spelledColumn_append_cons (dot_notMem_of_isIdentifier hd) hdot base⟩
    rw [formatColumnSelector_qualifiedColumnName hd hdot, formatIdentifier_of_isIdentifier h]
    rfl
  refused := by
    intro h hdot
    rw [formatColumnSelector_qualifiedColumnName hd hdot, formatIdentifier, h]
    rfl

/-! ## The catalogs the backend lists -/

section

open ViewTableService

/-- Every dataset of a catalog has an identifier for its name. -/
theorem isIdentifier_of_mem_listDatasets {host : ViewTableHost} {initial db : Database}
    (hm : Migrated initial) {calls : List Call} (hr : run (step host) initial calls = some db)
    {faults : Faults} {dataset : AnalyticsDataset}
    (h : dataset ∈ AnalyticsCatalogService.listDatasets host faults db) :
    isIdentifier dataset.name = true := by
  have hbuiltin : ∀ name ∈ Analytics.allowedDatasetNames, isIdentifier name = true := by decide
  have hname : dataset.name ∈ AnalyticsCatalogService.allowedDatasetNames host faults db :=
    List.mem_map_of_mem h
  rcases mem_allowedDatasetNames hname with hname | hname
  · exact hbuiltin _ hname
  · exact isIdentifier_of_isViewTableName (wellNamed_of_run hm hr _ hname)

/-- Without a join the columns are those of the base dataset. -/
theorem represents_base (dataset : AnalyticsDataset) :
    List.Forall₂ (Represents dataset.name false) (selectableColumns dataset none)
      ((chartColumnsFor (some dataset) none).map ChartColumn.value) := by
  have hrefs : selectableColumns dataset none =
      dataset.columns.map fun column => ⟨dataset.name, column.name⟩ := by
    simp [selectableColumns]
  rw [hrefs, chartColumnsFor, List.map_map, List.forall₂_map_left_iff,
    List.forall₂_map_right_iff, List.forall₂_same]
  exact fun column _ => represents_name dataset.name column.name

/-- With a join they are those of either dataset. -/
theorem represents_joined {dataset joined : AnalyticsDataset}
    (hname : isIdentifier dataset.name = true) (hjoined : isIdentifier joined.name = true) :
    List.Forall₂ (Represents dataset.name true) (selectableColumns dataset (some joined))
      ((chartColumnsFor (some dataset) (some joined)).map ChartColumn.value) := by
  have hitem : ∀ item : AnalyticsDataset, isIdentifier item.name = true →
      List.Forall₂ (Represents dataset.name true)
        (item.columns.map fun column => ⟨item.name, column.name⟩)
        (item.columns.map fun column => qualifiedColumnName item.name column.name) := by
    intro item hi
    rw [List.forall₂_map_left_iff, List.forall₂_map_right_iff, List.forall₂_same]
    exact fun column _ => represents_qualifiedColumnName hi dataset.name column.name
  have hvalues : (chartColumnsFor (some dataset) (some joined)).map ChartColumn.value =
      (dataset.columns.map fun column => qualifiedColumnName dataset.name column.name) ++
        joined.columns.map fun column => qualifiedColumnName joined.name column.name := by
    simp [chartColumnsFor, Function.comp_def]
  have hrefs : selectableColumns dataset (some joined) =
      (dataset.columns.map fun column => ⟨dataset.name, column.name⟩) ++
        joined.columns.map fun column => ⟨joined.name, column.name⟩ := by
    simp [selectableColumns]
  rw [hvalues, hrefs]
  exact List.rel_append (hitem dataset hname) (hitem joined hjoined)

/-- In every catalog, with and without a join, the selectors on offer represent the columns
they are offered for. -/
theorem selectors_represent (host : ViewTableHost) (initial : Database) (hm : Migrated initial)
    (calls : List Call) (db : Database) (hr : run (step host) initial calls = some db)
    (faults : Faults) (dataset : AnalyticsDataset) (joinDataset : Option AnalyticsDataset)
    (hd : dataset ∈ AnalyticsCatalogService.listDatasets host faults db)
    (hj : ∀ joined ∈ joinDataset, joined ∈ AnalyticsCatalogService.listDatasets host faults db) :
    List.Forall₂ (Represents dataset.name joinDataset.isSome)
      (selectableColumns dataset joinDataset)
      ((chartColumnsFor (some dataset) joinDataset).map ChartColumn.value) := by
  cases joinDataset with
  | none => exact represents_base dataset
  | some joined =>
    exact represents_joined (isIdentifier_of_mem_listDatasets hm hr hd)
      (isIdentifier_of_mem_listDatasets hm hr (hj joined rfl))

/-- A dot in a name is taken for the separator. -/
example : columnSelectorToRef (str "totals") (.text (str "net.total")) =
    ⟨str "net", str "total"⟩ := by
  decide

/-- A host whose saved view has a column with an upper-case letter in its name. -/
def totalsHost : ViewTableHost :=
  { eventsHost (str "SELECT COUNT(*) AS \"Total\" FROM events") with
    outputColumns := fun _ _ => some [(str "Total", str "bigint")] }

/-- The call that saves the view. -/
def saveTotals : Call :=
  .create (str "totals") [] (str "SELECT COUNT(*) AS \"Total\" FROM events") fun _ => false

/-- The dataset of the view. -/
def totalsDataset : AnalyticsDataset where
  name := str "totals"
  label := str "totals"
  description := []
  columns := [⟨str "Total", str "Total", .metric⟩]
  origin := .viewTable

/-- The database with the view. -/
def totalsDatabase : Database := (execute totalsHost migratedDatabase saveTotals).2

theorem totalsDataset_mem :
    totalsDataset ∈ AnalyticsCatalogService.listDatasets totalsHost (fun _ => false)
      totalsDatabase := by
  decide +kernel

/-- The selectors on offer represent the columns of the view joined to a built-in dataset. -/
theorem totals_selectors_represent : List.Forall₂ (Represents (str "event_type_counts") true)
    [⟨str "event_type_counts", str "event_type"⟩, ⟨str "event_type_counts", str "event_count"⟩,
      ⟨str "totals", str "Total"⟩]
    [str "event_type_counts.event_type", str "event_type_counts.event_count",
      str "totals.Total"] := by
  have hd : (getDatasets.head (by decide)) ∈ AnalyticsCatalogService.listDatasets totalsHost
      (fun _ => false) totalsDatabase := by
    decide +kernel
  refine selectors_represent totalsHost migratedDatabase migrated_migratedDatabase [saveTotals]
    totalsDatabase rfl (fun _ => false) (getDatasets.head (by decide)) (some totalsDataset) hd ?_
  intro joined hj
  obtain rfl := Option.some.inj hj
  exact totalsDataset_mem

/-- The generated SQL refuses a column that is no identifier. -/
theorem capital_column_refused :
    ¬∀ (host : ViewTableHost) (initial : Database) (calls : List Call) (db : Database),
      Migrated initial → run (step host) initial calls = some db →
      ∀ (faults : Faults) (dataset : AnalyticsDataset) (joinDataset : Option AnalyticsDataset),
        dataset ∈ AnalyticsCatalogService.listDatasets host faults db →
        (∀ joined ∈ joinDataset, joined ∈ AnalyticsCatalogService.listDatasets host faults db) →
        List.Forall₂ (StandsFor dataset.name) (selectableColumns dataset joinDataset)
          ((chartColumnsFor (some dataset) joinDataset).map ChartColumn.value) := by
  intro h
  have hall := h totalsHost migratedDatabase [saveTotals] totalsDatabase migrated_migratedDatabase
    rfl (fun _ => false) totalsDataset none totalsDataset_mem nofun
  obtain ⟨-, text, htext, -⟩ := (List.forall₂_cons.mp hall).1
  have hthrows : formatColumnSelector (str "Total") =
      .error (str "Invalid analytics identifier: Total") := by
    decide
  exact absurd (htext.symm.trans hthrows) nofun

end

end LiveData.Workspace

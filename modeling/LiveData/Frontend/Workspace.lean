import LiveData.Analytics.ChartSuggestion
import LiveData.Core.Runs
import LiveData.Frontend.PreviewTotality

/-!
# The workspace

`AnalyticsWorkspace` as a state machine: the state of its hooks, the controls it renders, and
the promises of its handlers, which go on with the values of the render that started them. The
texts of the editors are arguments of the actions, and the workspace stays mounted.
-/

namespace LiveData.Workspace

open Analytics

/-- `ROW_LIMIT_OPTIONS`. -/
def rowLimitOptions : List Int := [20, 50, 100, 500]

/-- `WorkspaceMode`. -/
inductive WorkspaceMode where
  | explore
  | sqlLab
  | viewTables
  deriving DecidableEq, Repr

/-- `QueryStatus`. -/
inductive QueryStatus where
  | idle
  | loading
  | success
  | error
  deriving DecidableEq, Repr

/-- The values of a render that a handler reads again after an `await`. -/
structure Closure where
  selectedDatasetName : Str
  joinDatasetName : Str
  deriving DecidableEq, Repr

/-- A query that is sent; the one of the chart builder is made of its controls. -/
inductive Query where
  | explore (controls : ExploreControls)
  | sql (text : Str)
  | preview (sourceSql : Str)
  deriving DecidableEq, Repr

/-- What a handler awaits. -/
inductive Awaited where
  | initialData
  | query (query : Query)
  | create (closure : Closure)
  | delete (name : Str) (closure : Closure)
  | reload (preferredDatasetName : Option Str) (closure : Closure) (saved : Bool)
  deriving DecidableEq, Repr

/-- How a promise is settled; only an `Error` has a message. -/
inductive Reply (R : Type) where
  | loaded (datasets : List AnalyticsDataset) (viewTables : List Str)
  | result (result : R)
  | saved (name : Str)
  | deleted
  | rejected (message : Option Str)

/-- The state of the workspace, with the promises its handlers await. View tables are given by
name. -/
structure AnalyticsWorkspace (R : Type) where
  datasets : List AnalyticsDataset := []
  viewTables : List Str := []
  mode : WorkspaceMode := .explore
  selectedDatasetName : Str := []
  selectedColumns : List Str := []
  selectedChartKind : ChartKind := .bar
  orderBy : Str := []
  orderDirection : ExploreSortDirection := .desc
  rowLimit : Int := 100
  joinEnabled : Bool := false
  joinDatasetName : Str := []
  joinType : ExploreJoinType := .inner
  joinLeftColumn : Str := []
  joinRightColumn : Str := []
  result : Option R := none
  error : Option Str := none
  queryStatus : QueryStatus := .idle
  bootLoading : Bool := true
  deletingViewTableName : Option Str := none
  awaited : List Awaited := [.initialData]

/-- `preferredDataset`. -/
def preferredDataset (datasets : List AnalyticsDataset) : Option AnalyticsDataset :=
  (datasets.find? (·.name = str "event_type_counts")).or datasets.head?

/-- `defaultChartFor`. -/
def defaultChartFor (dataset : AnalyticsDataset) : ChartKind :=
  if dataset.name = str "hourly_event_counts" then .line
  else if dataset.name = str "error_event_ratio" then .metric
  else if dataset.name = str "event_type_counts" then .pie
  else .bar

/-- `dataset.columns[0]?.name ?? ""`. -/
def firstColumnName (dataset : AnalyticsDataset) : Str :=
  (dataset.columns.head?.map AnalyticsDatasetColumn.name).getD []

/-- `defaultJoinColumns`. -/
def defaultJoinColumns (dataset joinDataset : AnalyticsDataset) : Str × Str :=
  match dataset.columns.find? fun column => column.name ∈ datasetColumnNames joinDataset with
  | some sharedColumn => (sharedColumn.name, sharedColumn.name)
  | none => (firstColumnName dataset, firstColumnName joinDataset)

/-- The text that stands for an error without a message. -/
def Query.failureText : Query → Str
  | .explore _ => str "Chart query 실행에 실패했습니다."
  | .sql _ => str "SQL 실행에 실패했습니다."
  | .preview _ => str "View table preview에 실패했습니다."

namespace AnalyticsWorkspace

variable {R : Type} (s : AnalyticsWorkspace R)

/-! ## What is rendered -/

/-- `datasets.find((dataset) => dataset.name === name)`. -/
def datasetNamed (name : Str) : Option AnalyticsDataset := s.datasets.find? (·.name = name)

/-- `selectedDataset`. -/
def selectedDataset : Option AnalyticsDataset := s.datasetNamed s.selectedDatasetName

/-- `activeJoin`. -/
def activeJoin : Option ActiveJoin := do
  let joined ← s.datasetNamed s.joinDatasetName
  if s.joinEnabled ∧ s.selectedDataset.isSome ∧ 0 < s.joinLeftColumn.length ∧
      0 < s.joinRightColumn.length then
    some ⟨joined, s.joinLeftColumn, s.joinRightColumn, s.joinType⟩
  else none

/-- `chartColumnOptions`. -/
def chartColumnOptions : List ChartColumn :=
  chartColumnsFor s.selectedDataset (s.activeJoin.map ActiveJoin.dataset)

/-- `joinTargetOptions`. -/
def joinTargetOptions : List AnalyticsDataset :=
  s.datasets.filter (·.name ≠ s.selectedDatasetName)

/-- `canJoin`. -/
def canJoin : Bool := s.selectedDataset.isSome && !s.joinTargetOptions.isEmpty

/-- The controls that the generated SQL and the request are built from. -/
def controls : Option ExploreControls :=
  s.selectedDataset.map fun dataset =>
    { dataset := dataset
      activeJoin := s.activeJoin
      selectedColumns := s.selectedColumns
      orderBy := s.orderBy
      orderDirection := s.orderDirection
      rowLimit := s.rowLimit }

/-- The buttons that send something are enabled. -/
def ready : Bool := !s.bootLoading && s.queryStatus ≠ .loading

/-- What the handlers close over. -/
def closure : Closure := ⟨s.selectedDatasetName, s.joinDatasetName⟩

/-! ## Controls -/

/-- `applyDatasetDefaults`. -/
def applyDatasetDefaults (dataset : AnalyticsDataset) : AnalyticsWorkspace R :=
  { s with
    selectedDatasetName := dataset.name
    selectedColumns := defaultColumnsFor dataset
    orderBy := defaultOrderFor dataset
    orderDirection := defaultOrderDirectionFor dataset
    selectedChartKind := defaultChartFor dataset
    joinEnabled := false
    joinDatasetName := []
    joinLeftColumn := []
    joinRightColumn := [] }

/-- `handleColumnToggle`. -/
def handleColumnToggle (columnName : Str) : AnalyticsWorkspace R :=
  { s with
    selectedColumns :=
      if columnName ∈ s.selectedColumns then s.selectedColumns.filter (· ≠ columnName)
      else s.selectedColumns ++ [columnName] }

/-- `resetJoinControls`. -/
def resetJoinControls (dataset : Option AnalyticsDataset) : AnalyticsWorkspace R :=
  let s : AnalyticsWorkspace R :=
    { s with
      joinEnabled := false
      joinDatasetName := []
      joinLeftColumn := []
      joinRightColumn := [] }
  match dataset with
  | none => { s with selectedColumns := [], orderBy := [] }
  | some dataset =>
    { s with
      selectedColumns := defaultColumnsFor dataset
      orderBy := defaultOrderFor dataset }

/-- `applyJoinTarget`. -/
def applyJoinTarget (joinDataset : AnalyticsDataset) : AnalyticsWorkspace R :=
  match s.selectedDataset with
  | none => s
  | some dataset =>
    { s with
      joinEnabled := true
      joinDatasetName := joinDataset.name
      joinLeftColumn := (defaultJoinColumns dataset joinDataset).1
      joinRightColumn := (defaultJoinColumns dataset joinDataset).2
      selectedColumns := defaultColumnsForJoinedDatasets dataset joinDataset
      orderBy := qualifiedColumnName dataset.name (defaultOrderFor dataset) }

/-- `enableDefaultJoin`. -/
def enableDefaultJoin : AnalyticsWorkspace R :=
  match s.selectedDataset, s.joinTargetOptions.head? with
  | none, _ => s
  | some _, none =>
    { s with
      error := some (str "JOIN을 구성하려면 기준 table 외에 다른 dataset이 필요합니다.") }
  | some _, some joinDataset => s.applyJoinTarget joinDataset

/-- `applyRecommendedJoinKeys`. -/
def applyRecommendedJoinKeys : AnalyticsWorkspace R :=
  match s.selectedDataset, s.datasetNamed s.joinDatasetName with
  | some dataset, some joinDataset =>
    { s with
      joinLeftColumn := (defaultJoinColumns dataset joinDataset).1
      joinRightColumn := (defaultJoinColumns dataset joinDataset).2 }
  | _, _ => s

/-! ## Handlers -/

/-- A handler sets the status and awaits its first promise. -/
def start (awaited : Awaited) : AnalyticsWorkspace R :=
  { s with queryStatus := .loading, error := none, awaited := s.awaited ++ [awaited] }

/-- `runExplore` up to its promise. -/
def runExplore : AnalyticsWorkspace R :=
  match s.controls with
  | none =>
    { s with
      result := none
      error := some (str "실행할 table을 먼저 선택해주세요.")
      queryStatus := .error }
  | some controls => s.start (.query (.explore controls))

/-- `deleteSavedViewTable` up to its promise, once confirmed. -/
def deleteSavedViewTable (name : Str) : AnalyticsWorkspace R :=
  { s.start (.delete name s.closure) with deletingViewTableName := some name }

/-- The end of an action that succeeded. -/
def succeed (result : Option R) : AnalyticsWorkspace R :=
  { s with result := result, queryStatus := .success }

/-- The end of an action that failed. -/
def fail (result : Option R) (message : Option Str) (otherwise : Str) : AnalyticsWorkspace R :=
  { s with result := result, error := some (message.getD otherwise), queryStatus := .error }

/-- The part of `reloadMetadata` that chooses a dataset. -/
def chooseReloaded (closure : Closure)
    (preferred currentDataset activeDataset : Option AnalyticsDataset) : AnalyticsWorkspace R :=
  match preferred with
  | some dataset => s.applyDatasetDefaults dataset
  | none =>
    if 0 < closure.selectedDatasetName.length ∧ currentDataset = none then
      match activeDataset with
      | some dataset => s.applyDatasetDefaults dataset
      | none => s.resetJoinControls none
    else s

/-- `reloadMetadata` after its promise. -/
def reloadMetadata (loadedDatasets : List AnalyticsDataset) (loadedViewTables : List Str)
    (preferredDatasetName : Option Str) (closure : Closure) : AnalyticsWorkspace R :=
  let s : AnalyticsWorkspace R :=
    { s with datasets := loadedDatasets, viewTables := loadedViewTables }
  let preferred := preferredDatasetName.bind s.datasetNamed
  let currentDataset := s.datasetNamed closure.selectedDatasetName
  let activeDataset := preferred.or (currentDataset.or (preferredDataset loadedDatasets))
  let s := s.chooseReloaded closure preferred currentDataset activeDataset
  if 0 < closure.joinDatasetName.length ∧
      ∀ dataset ∈ loadedDatasets, dataset.name ≠ closure.joinDatasetName then
    s.resetJoinControls activeDataset
  else s

/-- A handler goes on after its promise; the state no longer has the promise. -/
def resume (awaited : Awaited) (reply : Reply R) : Option (AnalyticsWorkspace R) :=
  match awaited, reply with
  | .initialData, .loaded datasets viewTables =>
    let s : AnalyticsWorkspace R :=
      { s with datasets := datasets, viewTables := viewTables, bootLoading := false }
    some (((preferredDataset datasets).map s.applyDatasetDefaults).getD s)
  | .initialData, .rejected message =>
    let s := s.fail s.result message (str "초기 데이터를 불러오지 못했습니다.")
    some { s with bootLoading := false }
  | .query _, .result result => some (s.succeed (some result))
  | .query query, .rejected message => some (s.fail none message query.failureText)
  | .create closure, .saved name =>
    some { s with awaited := s.awaited ++ [.reload (some name) closure true] }
  | .create _, .rejected message =>
    some (s.fail none message (str "View table 저장에 실패했습니다."))
  | .delete name closure, .deleted =>
    let preferred :=
      if closure.selectedDatasetName = name then none else some closure.selectedDatasetName
    some { s with awaited := s.awaited ++ [.reload preferred closure false] }
  | .delete _ _, .rejected message =>
    let s := s.fail s.result message (str "View table 삭제에 실패했습니다.")
    some { s with deletingViewTableName := none }
  | .reload preferred closure saved, .loaded datasets viewTables =>
    let s := (s.reloadMetadata datasets viewTables preferred closure).succeed none
    some (if saved then { s with mode := .explore } else { s with deletingViewTableName := none })
  | .reload _ _ true, .rejected message =>
    some (s.fail none message (str "View table 저장에 실패했습니다."))
  | .reload _ _ false, .rejected message =>
    let s := s.fail s.result message (str "View table 삭제에 실패했습니다.")
    some { s with deletingViewTableName := none }
  | _, _ => none

end AnalyticsWorkspace

/-! ## Actions -/

/-- What a user does, and the settlement of a promise. -/
inductive WorkspaceAction (R : Type) where
  | setMode (mode : WorkspaceMode)
  | selectDataset (name : Str)
  | toggleColumn (value : Str)
  | toggleJoin
  | selectJoinDataset (name : Str)
  | selectJoinType (joinType : ExploreJoinType)
  | selectJoinLeft (columnName : Str)
  | selectJoinRight (columnName : Str)
  | useRecommendedKeys
  | selectChartKind (chartKind : ChartKind)
  | selectOrderBy (value : Str)
  | selectOrderDirection (direction : ExploreSortDirection)
  | selectRowLimit (limit : Int)
  | runExplore
  | runSql (text : Str)
  | runViewTablePreview (sourceSql : Str)
  | saveViewTable
  | deleteSavedViewTable (name : Str)
  | openInCharts (name : Str)
  | settle (index : Nat) (reply : Reply R)

namespace AnalyticsWorkspace

variable {R : Type}

/-- An action, when its control is shown and enabled and has the chosen option. -/
def step (s : AnalyticsWorkspace R) : WorkspaceAction R → Option (AnalyticsWorkspace R)
  | .setMode mode => some { s with mode := mode }
  | .selectDataset name =>
    if s.mode = .explore then (s.datasetNamed name).map s.applyDatasetDefaults else none
  | .toggleColumn value =>
    if s.mode = .explore ∧ value ∈ s.chartColumnOptions.map ChartColumn.value then
      some (s.handleColumnToggle value)
    else none
  | .toggleJoin =>
    if s.mode = .explore ∧ s.canJoin then
      some (if s.joinEnabled then s.resetJoinControls s.selectedDataset else s.enableDefaultJoin)
    else none
  | .selectJoinDataset name =>
    if s.mode = .explore ∧ s.joinEnabled ∧
        name ∈ s.joinTargetOptions.map AnalyticsDataset.name then
      let t : AnalyticsWorkspace R := { s with joinDatasetName := name }
      some (((s.datasetNamed name).map t.applyJoinTarget).getD t)
    else none
  | .selectJoinType joinType =>
    if s.mode = .explore ∧ s.joinEnabled then some { s with joinType := joinType } else none
  | .selectJoinLeft columnName =>
    if s.mode = .explore ∧ s.joinEnabled ∧
        ∃ dataset ∈ s.selectedDataset, columnName ∈ datasetColumnNames dataset then
      some { s with joinLeftColumn := columnName }
    else none
  | .selectJoinRight columnName =>
    if s.mode = .explore ∧ s.joinEnabled ∧
        ∃ dataset ∈ s.datasetNamed s.joinDatasetName,
          columnName ∈ datasetColumnNames dataset then
      some { s with joinRightColumn := columnName }
    else none
  | .useRecommendedKeys =>
    if s.mode = .explore ∧ s.joinEnabled then some s.applyRecommendedJoinKeys else none
  | .selectChartKind chartKind =>
    if s.mode = .explore then some { s with selectedChartKind := chartKind } else none
  | .selectOrderBy value =>
    if s.mode = .explore ∧ (value = [] ∨ value ∈ s.chartColumnOptions.map ChartColumn.value) then
      some { s with orderBy := value }
    else none
  | .selectOrderDirection direction =>
    if s.mode = .explore ∧ s.orderBy ≠ [] then some { s with orderDirection := direction }
    else none
  | .selectRowLimit limit =>
    if s.mode = .explore ∧ limit ∈ rowLimitOptions then some { s with rowLimit := limit } else none
  | .runExplore => if s.mode = .explore ∧ s.ready then some s.runExplore else none
  | .runSql text =>
    if s.mode = .sqlLab ∧ s.ready then some (s.start (.query (.sql text))) else none
  | .runViewTablePreview sourceSql =>
    if s.mode = .viewTables ∧ s.ready then some (s.start (.query (.preview sourceSql))) else none
  | .saveViewTable =>
    if s.mode = .viewTables ∧ s.ready then some (s.start (.create s.closure)) else none
  | .deleteSavedViewTable name =>
    if s.mode = .viewTables ∧ name ∈ s.viewTables ∧ s.deletingViewTableName = none ∧
        s.queryStatus ≠ .loading then
      some (s.deleteSavedViewTable name)
    else none
  | .openInCharts name =>
    if s.mode = .viewTables ∧ name ∈ s.viewTables then
      some (((s.datasetNamed name).map fun dataset =>
        { s.applyDatasetDefaults dataset with mode := .explore }).getD s)
    else none
  | .settle index reply => do
    let awaited ← s.awaited[index]?
    resume { s with awaited := s.awaited.eraseIdx index } awaited reply

end AnalyticsWorkspace

end LiveData.Workspace

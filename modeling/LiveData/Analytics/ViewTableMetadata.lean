import LiveData.Analytics.Database
import LiveData.Core.Grouping

/-!
# The joined metadata of view tables

`load_view_tables` groups the rows of a join by their names. The metadata query joins the saved
view tables with the columns of their relations, and grouping its rows gives back what the
database holds.
-/

namespace LiveData.Analytics

/-- A row of the metadata query. A view table without columns has one row without a column. -/
structure MetadataRow where
  name : Str
  description : Str
  sourceSql : Str
  columnName : Option Str
  dataType : Option Str
  deriving DecidableEq, Repr

/-- `ViewTableAccumulator`. -/
structure ViewTableAccumulator where
  description : Str
  sourceSql : Str
  columns : List AnalyticsDatasetColumn
  deriving DecidableEq, Repr

/-- `str` of a text or of `None`. -/
def pyStr (value : Option Str) : Str := value.getD (str "None")

section

variable (lower : Str → Str)

/-- The column of a row, if it has one. -/
def MetadataRow.column (row : MetadataRow) : Option AnalyticsDatasetColumn :=
  row.columnName.map fun columnName =>
    ⟨columnName, columnName, columnKindFromPostgresType lower (pyStr row.dataType)⟩

/-- The accumulator that the first row of a name makes. -/
def MetadataRow.accumulator (row : MetadataRow) : ViewTableAccumulator :=
  ⟨row.description, row.sourceSql, []⟩

/-- The body of the loop of `load_view_tables`; what `setdefault` returns is the entry that the
column is appended to. -/
def groupMetadataRow (groupedViewTables : List (Str × ViewTableAccumulator))
    (row : MetadataRow) : List (Str × ViewTableAccumulator) :=
  let viewTable := (groupedViewTables.lookup row.name).getD row.accumulator
  let groupedViewTables := Dict.setDefault groupedViewTables row.name row.accumulator
  match row.column lower with
  | none => groupedViewTables
  | some column =>
    Dict.set groupedViewTables row.name { viewTable with columns := viewTable.columns ++ [column] }

/-- `load_view_tables`, from the rows of its query. -/
def loadViewTables (rows : List MetadataRow) : List AnalyticsViewTable :=
  (rows.foldl (groupMetadataRow lower) []).map fun item =>
    { name := item.1
      description := item.2.description
      sourceSql := item.2.sourceSql
      columns := item.2.columns }

/-- What a row adds to the entry of its name. -/
def addColumn (viewTable : ViewTableAccumulator) (row : MetadataRow) : ViewTableAccumulator :=
  { viewTable with columns := viewTable.columns ++ (row.column lower).toList }

variable {lower}

/-- The loop adds each row to the entry of its name. -/
theorem groupMetadataRow_eq (groupedViewTables : List (Str × ViewTableAccumulator))
    (row : MetadataRow) : groupMetadataRow lower groupedViewTables row =
      Dict.addRow MetadataRow.name MetadataRow.accumulator (addColumn lower) groupedViewTables
        row := by
  unfold groupMetadataRow Dict.addRow addColumn
  cases hl : groupedViewTables.lookup row.name with
  | some viewTable =>
    rw [Dict.setDefault_of_some hl, Option.getD_some]
    cases hc : row.column lower with
    | some column => rfl
    | none =>
      simp only [Option.toList_none, List.append_nil]
      exact (Dict.set_of_lookup hl).symm
  | none =>
    simp only [Dict.setDefault, hl, Option.getD_none]
    cases hc : row.column lower with
    | some column => exact Dict.set_set _ _ _ _
    | none => simp

/-- The columns of some rows are appended in their order. -/
theorem foldl_addColumn (rows : List MetadataRow) (viewTable : ViewTableAccumulator) :
    rows.foldl (addColumn lower) viewTable =
      { viewTable with
        columns := viewTable.columns ++ rows.filterMap (MetadataRow.column lower) } := by
  induction rows generalizing viewTable with
  | nil => simp
  | cons row rows ih =>
    rw [List.foldl_cons, ih]
    cases hrow : row.column lower <;> simp [addColumn, hrow]

/-- The loop groups the rows by their names. -/
theorem loadViewTables_eq_groupRows (rows : List MetadataRow) :
    loadViewTables lower rows =
      (Dict.groupRows MetadataRow.name MetadataRow.accumulator (addColumn lower) rows).map
        fun item => ⟨item.1, item.2.description, item.2.sourceSql, item.2.columns⟩ := by
  have hstep : groupMetadataRow lower =
      Dict.addRow MetadataRow.name MetadataRow.accumulator (addColumn lower) :=
    funext₂ groupMetadataRow_eq
  rw [loadViewTables, hstep, Dict.groupRows]

variable (lower) in
/-- Each name has one view table, with the columns of its rows. -/
theorem loadViewTables_eq_map {rows : List MetadataRow} (description sourceSql : Str → Str)
    (h : ∀ row ∈ rows, row.description = description row.name ∧
      row.sourceSql = sourceSql row.name) :
    loadViewTables lower rows = (rows.map MetadataRow.name).eraseDups.map fun name =>
      { name := name
        description := description name
        sourceSql := sourceSql name
        columns := (rows.filter fun row => row.name = name).filterMap
          (MetadataRow.column lower) } := by
  have hgroups : Dict.groupRows MetadataRow.name MetadataRow.accumulator (addColumn lower) rows =
      (rows.map MetadataRow.name).eraseDups.map fun name =>
        (name, ⟨description name, sourceSql name,
          (rows.filter fun row => row.name = name).filterMap (MetadataRow.column lower)⟩) := by
    refine Dict.groupRows_eq_map fun name first rest hrows => ?_
    have hfirst : first ∈ rows.filter fun row => row.name = name := by
      rw [hrows]
      exact List.mem_cons_self
    obtain ⟨hmem, hname⟩ := List.mem_filter.mp hfirst
    have hsame : first.name = name := of_decide_eq_true hname
    rw [foldl_addColumn, hrows, MetadataRow.accumulator, (h first hmem).1, (h first hmem).2, hsame,
      List.nil_append]
  rw [loadViewTables_eq_groupRows, hgroups, List.map_map]
  rfl

/-- No two view tables have one name. -/
theorem nodup_names_loadViewTables (rows : List MetadataRow) :
    ((loadViewTables lower rows).map AnalyticsViewTable.name).Nodup := by
  rw [loadViewTables_eq_groupRows, List.map_map]
  exact Dict.nodup_keys_groupRows rows

variable (lower) in
/-- The rows of each name become one view table, in the order in which the names appear first,
with the columns of its rows. -/
theorem loadViewTables_eq {rows : List MetadataRow} (description sourceSql : Str → Str)
    (h : ∀ row ∈ rows, row.description = description row.name ∧
      row.sourceSql = sourceSql row.name) :
    loadViewTables lower rows = ((rows.map MetadataRow.name).eraseDups.map fun name =>
      { name := name
        description := description name
        sourceSql := sourceSql name
        columns := (rows.filter fun row => row.name = name).filterMap
          (MetadataRow.column lower) }) ∧
      ((loadViewTables lower rows).map AnalyticsViewTable.name).Nodup :=
  ⟨loadViewTables_eq_map lower description sourceSql h, nodup_names_loadViewTables rows⟩

/-- Two view tables whose rows are interleaved, one of them without columns. -/
def interleavedRows : List MetadataRow :=
  [⟨str "daily", str "per day", str "SELECT 1", some (str "day"), some (str "date")⟩,
    ⟨str "empty", str "none", str "SELECT 2", none, none⟩,
    ⟨str "daily", str "per day", str "SELECT 1", some (str "total"), some (str "bigint")⟩]

/-- The description of each of them. -/
def interleavedDescription (name : Str) : Str :=
  if name = str "daily" then str "per day" else str "none"

/-- The text of each of them. -/
def interleavedSourceSql (name : Str) : Str :=
  if name = str "daily" then str "SELECT 1" else str "SELECT 2"

/-- The rows of each are found again. -/
theorem loadViewTables_interleavedRows :
    loadViewTables asciiLower interleavedRows =
        ((interleavedRows.map MetadataRow.name).eraseDups.map fun name =>
          ({ name := name
             description := interleavedDescription name
             sourceSql := interleavedSourceSql name
             columns := (interleavedRows.filter fun row => row.name = name).filterMap
               (MetadataRow.column asciiLower) } : AnalyticsViewTable)) ∧
      ((loadViewTables asciiLower interleavedRows).map AnalyticsViewTable.name).Nodup :=
  loadViewTables_eq asciiLower interleavedDescription interleavedSourceSql (by decide)

end

/-! ## The rows of a database -/

namespace Database

variable {lower : Str → Str} {db : Database}

/-- The rows of a saved view table: one for each column of its relation, or one without. -/
def metadataRowsOf (db : Database) (item : Str × AnalyticsViewTableRecord) : List MetadataRow :=
  let columns := ((db.relations.lookup item.1).map StoredRelation.columns).getD []
  if columns = [] then [⟨item.1, item.2.description, item.2.sourceSql, none, none⟩]
  else columns.map fun c => ⟨item.1, item.2.description, item.2.sourceSql, some c.1, some c.2⟩

/-- `build_view_table_metadata_select_statement`, executed. -/
def metadataRows (db : Database) (name : Option Str) : List MetadataRow :=
  ((db.viewTables.filter fun item => ∀ n ∈ name, item.1 = n).insertionSort
    fun a b => a.1 ≤ b.1).flatMap db.metadataRowsOf

theorem metadataRowsOf_ne_nil (item : Str × AnalyticsViewTableRecord) :
    db.metadataRowsOf item ≠ [] := by
  unfold metadataRowsOf
  dsimp only
  split
  · exact List.cons_ne_nil _ _
  · next h => simpa using h

/-- The rows of a view table have its metadata. -/
theorem of_mem_metadataRowsOf {item : Str × AnalyticsViewTableRecord} {row : MetadataRow}
    (h : row ∈ db.metadataRowsOf item) : row.name = item.1 ∧
      row.description = item.2.description ∧ row.sourceSql = item.2.sourceSql := by
  unfold metadataRowsOf at h
  dsimp only at h
  split at h
  · rw [List.mem_singleton.mp h]
    exact ⟨rfl, rfl, rfl⟩
  · obtain ⟨c, -, rfl⟩ := List.mem_map.mp h
    exact ⟨rfl, rfl, rfl⟩

/-- And the columns of its relation. -/
theorem filterMap_metadataRowsOf (item : Str × AnalyticsViewTableRecord) :
    (db.metadataRowsOf item).filterMap (MetadataRow.column lower) = db.columnsOf lower item.1 := by
  unfold metadataRowsOf columnsOf
  cases hrelation : db.relations.lookup item.1 with
  | none => rfl
  | some relation =>
    dsimp only [Option.map_some, Option.getD_some]
    split
    · next h =>
      rw [h]
      rfl
    · rw [List.filterMap_map, ← List.filterMap_eq_map]
      rfl

/-- Grouping the rows of the query gives the saved view tables with their columns. -/
theorem loadViewTables_metadataRows (h : (Dict.keys db.viewTables).Nodup) (name : Option Str) :
    Analytics.loadViewTables lower (db.metadataRows name) = db.loadViewTables lower name := by
  let items := (db.viewTables.filter fun item => ∀ n ∈ name, item.1 = n).insertionSort
    fun a b => a.1 ≤ b.1
  have hperm : items.Perm (db.viewTables.filter fun item => ∀ n ∈ name, item.1 = n) :=
    List.perm_insertionSort _ _
  have hitems : (items.map Prod.fst).Nodup :=
    (hperm.map Prod.fst).nodup_iff.mpr (h.sublist ((List.filter_sublist).map _))
  have hrecord : ∀ item ∈ items, db.viewTables.lookup item.1 = some item.2 := fun item hitem =>
    (Dict.lookup_eq_some_iff h).mpr (List.mem_of_mem_filter (hperm.mem_iff.mp hitem))
  have hkey : ∀ item, ∀ row ∈ db.metadataRowsOf item, row.name = item.1 := fun item row hrow =>
    (of_mem_metadataRowsOf hrow).1
  let record (key : Str) := (db.viewTables.lookup key).getD ⟨[], []⟩
  have hrows : ∀ row ∈ items.flatMap db.metadataRowsOf,
      row.description = (record row.name).description ∧
        row.sourceSql = (record row.name).sourceSql := by
    intro row hrow
    obtain ⟨item, hitem, hrow⟩ := List.mem_flatMap.mp hrow
    obtain ⟨hname, hdescription, hsource⟩ := of_mem_metadataRowsOf hrow
    simp only [record, hname, hrecord item hitem, Option.getD_some]
    exact ⟨hdescription, hsource⟩
  have hload := loadViewTables_eq_map lower (fun key => (record key).description)
    (fun key => (record key).sourceSql) hrows
  have hnames : ((items.flatMap db.metadataRowsOf).map MetadataRow.name).eraseDups =
      items.map Prod.fst :=
    Dict.eraseDups_flatMap_of_nodup hkey hitems metadataRowsOf_ne_nil
  change Analytics.loadViewTables lower (items.flatMap db.metadataRowsOf) = _
  rw [hload, hnames, List.map_map]
  refine List.map_congr_left fun item hitem => ?_
  have hblock := Dict.filter_flatMap_of_nodup hkey hitems hitem
  simp only [Function.comp_apply, hblock, filterMap_metadataRowsOf, record, hrecord item hitem,
    Option.getD_some]

end Database

end LiveData.Analytics

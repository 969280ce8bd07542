import LiveData.Analytics.Explore

/-!
# The statement built for an Explore query

`build_explore_select_statement` reads tables and columns from dictionaries that a separate
pass fills with the columns the query needs. The pass covers every read, so the statement
exists for every query and means what the query asks for.
-/

namespace LiveData.Analytics

/-- A table clause with the columns declared for it. -/
structure TableClause where
  name : Str
  columns : List Str
  deriving DecidableEq, Repr

/-- What rows are selected from: a table, or a join with one more table. -/
inductive Selectable where
  | table (clause : TableClause)
  | join (left : Selectable) (right : TableClause) (leftKey rightKey : ExploreColumnRef)
    (isouter : Bool)
  deriving DecidableEq, Repr

/-- A projected column with its label, if it has one. -/
structure ColumnElement where
  column : ExploreColumnRef
  label : Option Str
  deriving DecidableEq, Repr

/-- `AnalyticsSelectStatement`. -/
structure SelectStatement where
  columns : List ColumnElement
  selectFrom : Selectable
  orderBy : Option (ExploreColumnRef × ExploreSortDirection)
  limit : Int
  deriving DecidableEq, Repr

/-- `append_unique_column`. -/
def appendUniqueColumn (columnNamesByDataset : List (Str × List Str))
    (columnRef : ExploreColumnRef) : List (Str × List Str) :=
  let withDataset := Dict.setDefault columnNamesByDataset columnRef.datasetName []
  let columnNames := (withDataset.lookup columnRef.datasetName).getD []
  if columnRef.columnName ∈ columnNames then withDataset
  else Dict.set withDataset columnRef.datasetName (columnNames ++ [columnRef.columnName])

/-- The references the pass goes through, in its order. -/
def requiredColumnRefs (query : ExploreQuery) : List ExploreColumnRef :=
  query.columnRefs ++ query.orderBy.toList ++ query.joins.flatMap fun join =>
    [⟨query.datasetName, join.leftColumn⟩, ⟨join.datasetName, join.rightColumn⟩]

/-- `_required_columns_by_dataset`. -/
def requiredColumnsByDataset (query : ExploreQuery) : List (Str × List Str) :=
  (requiredColumnRefs query).foldl appendUniqueColumn [(query.datasetName, [])]

/-- `dataset_tables`. -/
def datasetTables (query : ExploreQuery) : List (Str × TableClause) :=
  (requiredColumnsByDataset query).map fun item => (item.1, TableClause.mk item.1 item.2)

/-- A column of a table clause: `table.c[name]`. -/
def TableClause.c (clause : TableClause) (columnName : Str) :
    Except ExploreError ExploreColumnRef :=
  if columnName ∈ clause.columns then .ok ⟨clause.name, columnName⟩
  else .error (.keyError columnName)

/-- `output_column_name`. -/
def outputColumnName (columnRef : ExploreColumnRef) : Str :=
  columnRef.datasetName ++ str "_" ++ columnRef.columnName

/-- `selected_column_expression`. -/
def selectedColumnExpression (tables : List (Str × TableClause)) (useQualifiedLabel : Bool)
    (columnRef : ExploreColumnRef) : Except ExploreError ColumnElement := do
  let datasetTable ← readKey tables columnRef.datasetName
  let expression ← datasetTable.c columnRef.columnName
  .ok ⟨expression, if useQualifiedLabel then some (outputColumnName columnRef) else none⟩

/-- One turn of the join loop. -/
def joinSelectable (tables : List (Str × TableClause)) (datasetTable : TableClause)
    (selectable : Selectable) (join : ExploreJoin) : Except ExploreError Selectable := do
  let joinTable ← readKey tables join.datasetName
  let leftKey ← datasetTable.c join.leftColumn
  let rightKey ← joinTable.c join.rightColumn
  .ok (.join selectable joinTable leftKey rightKey (join.joinType = .left))

/-- The ordering of the statement. -/
def orderExpression (tables : List (Str × TableClause)) (orderBy : Option ExploreColumnRef)
    (orderDirection : ExploreSortDirection) :
    Except ExploreError (Option (ExploreColumnRef × ExploreSortDirection)) :=
  match orderBy with
  | none => .ok none
  | some columnRef => do
    let orderTable ← readKey tables columnRef.datasetName
    let orderColumn ← orderTable.c columnRef.columnName
    .ok (some (orderColumn, if orderDirection = .desc then .desc else .asc))

/-- `build_explore_select_statement`. -/
def buildExploreSelectStatement (query : ExploreQuery) : Except ExploreError SelectStatement := do
  let tables := datasetTables query
  let datasetTable ← readKey tables query.datasetName
  let selectable ← query.joins.foldlM (joinSelectable tables datasetTable) (.table datasetTable)
  let columns ← query.columnRefs.mapM (selectedColumnExpression tables !query.joins.isEmpty)
  let orderBy ← orderExpression tables query.orderBy query.orderDirection
  .ok { columns := columns, selectFrom := selectable, orderBy := orderBy, limit := query.rowLimit }

/-! ## What queries and statements ask for -/

/-- A join by its table, its two keys and its kind. -/
structure JoinMeaning where
  datasetName : Str
  leftKey : ExploreColumnRef
  rightKey : ExploreColumnRef
  joinType : ExploreJoinType
  deriving DecidableEq, Repr

/-- A query up to the names of its output columns. -/
structure QueryMeaning where
  base : Str
  joins : List JoinMeaning
  projection : List ExploreColumnRef
  orderBy : Option (ExploreColumnRef × ExploreSortDirection)
  limit : Int
  deriving DecidableEq, Repr

/-- The relation the joins start from. -/
def Selectable.base : Selectable → Str
  | .table clause => clause.name
  | .join left _ _ _ _ => left.base

/-- The joins from the inside out. -/
def Selectable.joins : Selectable → List JoinMeaning
  | .table _ => []
  | .join left right leftKey rightKey isouter =>
    left.joins ++ [⟨right.name, leftKey, rightKey, if isouter then .left else .inner⟩]

/-- What the statement asks for. -/
def SelectStatement.meaning (statement : SelectStatement) : QueryMeaning where
  base := statement.selectFrom.base
  joins := statement.selectFrom.joins
  projection := statement.columns.map ColumnElement.column
  orderBy := statement.orderBy
  limit := statement.limit

/-- The join a request describes. -/
def ExploreJoin.meaning (datasetName : Str) (join : ExploreJoin) : JoinMeaning :=
  ⟨join.datasetName, ⟨datasetName, join.leftColumn⟩, ⟨join.datasetName, join.rightColumn⟩,
    join.joinType⟩

/-- What the query asks for. -/
def ExploreQuery.meaning (query : ExploreQuery) : QueryMeaning where
  base := query.datasetName
  joins := query.joins.map (ExploreJoin.meaning query.datasetName)
  projection := query.columnRefs
  orderBy := query.orderBy.map fun columnRef => (columnRef, query.orderDirection)
  limit := query.rowLimit

/-! ## The columns the pass declares -/

/-- The dictionary declares the column for its dataset. -/
def Declares (columnNamesByDataset : List (Str × List Str)) (columnRef : ExploreColumnRef) : Prop :=
  ∃ columnNames, columnNamesByDataset.lookup columnRef.datasetName = some columnNames ∧
    columnRef.columnName ∈ columnNames

/-- Reading after a column was appended. -/
theorem lookup_appendUniqueColumn (d : List (Str × List Str)) (ref : ExploreColumnRef)
    (name : Str) :
    (appendUniqueColumn d ref).lookup name =
      if name = ref.datasetName then
        if ref.columnName ∈ (d.lookup ref.datasetName).getD [] then
          some ((d.lookup ref.datasetName).getD [])
        else some ((d.lookup ref.datasetName).getD [] ++ [ref.columnName])
      else d.lookup name := by
  have hl : (Dict.setDefault d ref.datasetName []).lookup ref.datasetName =
      some ((d.lookup ref.datasetName).getD []) := by
    rw [Dict.lookup_setDefault, if_pos rfl]
  by_cases hc : ref.columnName ∈ (d.lookup ref.datasetName).getD []
  · simp only [appendUniqueColumn, hl, Option.getD_some, hc, ite_true, Dict.lookup_setDefault]
  · simp only [appendUniqueColumn, hl, Option.getD_some, hc, ite_false, Dict.lookup_set,
      Dict.lookup_setDefault]
    by_cases hn : name = ref.datasetName <;> simp [hn]

/-- The column appended is declared. -/
theorem declares_appendUniqueColumn (d : List (Str × List Str)) (ref : ExploreColumnRef) :
    Declares (appendUniqueColumn d ref) ref := by
  unfold Declares
  rw [lookup_appendUniqueColumn, if_pos rfl]
  by_cases hc : ref.columnName ∈ (d.lookup ref.datasetName).getD []
  · exact ⟨_, if_pos hc, hc⟩
  · exact ⟨_, if_neg hc, by simp⟩

/-- Appending a column keeps every dataset, with the columns it had. -/
theorem exists_lookup_appendUniqueColumn {d : List (Str × List Str)} {name : Str}
    {columnNames : List Str} (h : d.lookup name = some columnNames) (ref : ExploreColumnRef) :
    ∃ more, (appendUniqueColumn d ref).lookup name = some more ∧ columnNames ⊆ more := by
  rw [lookup_appendUniqueColumn]
  by_cases hn : name = ref.datasetName
  · subst hn
    rw [if_pos rfl, h, Option.getD_some]
    by_cases hc : ref.columnName ∈ columnNames
    · exact ⟨columnNames, if_pos hc, List.Subset.refl _⟩
    · exact ⟨_, if_neg hc, List.subset_append_left _ _⟩
  · exact ⟨columnNames, by rw [if_neg hn, h], List.Subset.refl _⟩

theorem exists_lookup_foldl (refs : List ExploreColumnRef) {d : List (Str × List Str)} {name : Str}
    {columnNames : List Str} (h : d.lookup name = some columnNames) :
    ∃ more, (refs.foldl appendUniqueColumn d).lookup name = some more ∧ columnNames ⊆ more := by
  induction refs generalizing d columnNames with
  | nil => exact ⟨columnNames, h, List.Subset.refl _⟩
  | cons ref refs ih =>
    obtain ⟨more, hl, hs⟩ := exists_lookup_appendUniqueColumn h ref
    obtain ⟨all, hl', hs'⟩ := ih hl
    exact ⟨all, hl', fun _ hm => hs' (hs hm)⟩

/-- The pass declares every column it goes through. -/
theorem declares_foldl {refs : List ExploreColumnRef} {d : List (Str × List Str)}
    {ref : ExploreColumnRef} (h : ref ∈ refs) : Declares (refs.foldl appendUniqueColumn d) ref := by
  induction refs generalizing d with
  | nil => simp at h
  | cons other refs ih =>
    rcases List.mem_cons.mp h with rfl | h
    · obtain ⟨columnNames, hl, hc⟩ := declares_appendUniqueColumn d ref
      obtain ⟨all, hl', hs⟩ := exists_lookup_foldl refs hl
      exact ⟨all, hl', hs hc⟩
    · exact ih h

/-! ## The reads of the builder -/

section Reads

variable (query : ExploreQuery)

/-- The table of a dataset the pass declares carries the dataset's name. -/
theorem readKey_datasetTables {name : Str} {columnNames : List Str}
    (h : (requiredColumnsByDataset query).lookup name = some columnNames) :
    readKey (datasetTables query) name = .ok ⟨name, columnNames⟩ := by
  have hl : (datasetTables query).lookup name = some ⟨name, columnNames⟩ := by
    rw [datasetTables, Dict.lookup_map_value TableClause.mk, h]
    rfl
  simp only [readKey, hl]

/-- The base dataset has a table. -/
theorem readKey_base : ∃ clause, readKey (datasetTables query) query.datasetName = .ok clause ∧
    clause.name = query.datasetName := by
  have hstart : [(query.datasetName, ([] : List Str))].lookup query.datasetName = some [] := by simp
  obtain ⟨columnNames, hl, _⟩ := exists_lookup_foldl (requiredColumnRefs query) hstart
  exact ⟨_, readKey_datasetTables query hl, rfl⟩

/-- A required column is read from the table of its dataset. -/
theorem read_required {ref : ExploreColumnRef} (h : ref ∈ requiredColumnRefs query) :
    ∃ clause, readKey (datasetTables query) ref.datasetName = .ok clause ∧
      clause.name = ref.datasetName ∧ clause.c ref.columnName = .ok ref := by
  obtain ⟨columnNames, hl, hc⟩ := declares_foldl (d := [(query.datasetName, [])]) h
  exact ⟨_, readKey_datasetTables query hl, rfl, if_pos hc⟩

/-- The projections are the requested columns, labelled when there is a join. -/
theorem mapM_selectedColumnExpression (useQualifiedLabel : Bool) :
    query.columnRefs.mapM (selectedColumnExpression (datasetTables query) useQualifiedLabel) =
      .ok (query.columnRefs.map fun ref =>
        ⟨ref, if useQualifiedLabel then some (outputColumnName ref) else none⟩) := by
  rw [mapM_eq_ok, List.forall₂_map_right_iff, List.forall₂_same]
  intro ref hm
  have hrequired : ref ∈ requiredColumnRefs query :=
    List.mem_append_left _ (List.mem_append_left _ hm)
  obtain ⟨clause, hl, _, hc⟩ := read_required query hrequired
  simp only [selectedColumnExpression, hl, hc, ok_bind]

/-- The ordering is the requested column with the requested direction. -/
theorem orderExpression_eq (orderDirection : ExploreSortDirection) :
    orderExpression (datasetTables query) query.orderBy orderDirection =
      .ok (query.orderBy.map fun ref => (ref, orderDirection)) := by
  cases ho : query.orderBy with
  | none => rfl
  | some ref =>
    have hm : ref ∈ requiredColumnRefs query := by simp [requiredColumnRefs, ho]
    obtain ⟨clause, hl, _, hc⟩ := read_required query hm
    cases orderDirection <;> simp [orderExpression, hl, hc]

/-- Both keys of a requested join are required columns. -/
theorem mem_requiredColumnRefs_of_join {join : ExploreJoin} (h : join ∈ query.joins) :
    ⟨query.datasetName, join.leftColumn⟩ ∈ requiredColumnRefs query ∧
      ⟨join.datasetName, join.rightColumn⟩ ∈ requiredColumnRefs query := by
  constructor <;> exact List.mem_append_right _ (List.mem_flatMap.mpr ⟨join, h, by simp⟩)

/-- The join loop adds the requested joins, in order, to what it starts from. -/
theorem foldlM_joinSelectable {clause : TableClause}
    (hb : readKey (datasetTables query) query.datasetName = .ok clause)
    {joins : List ExploreJoin} (h : ∀ join ∈ joins, join ∈ query.joins) (start : Selectable) :
    ∃ selectable,
      joins.foldlM (joinSelectable (datasetTables query) clause) start = .ok selectable ∧
      selectable.base = start.base ∧
      selectable.joins = start.joins ++ joins.map (ExploreJoin.meaning query.datasetName) := by
  induction joins generalizing start with
  | nil => exact ⟨start, rfl, rfl, (List.append_nil _).symm⟩
  | cons join joins ih =>
    obtain ⟨hleft, hright⟩ := mem_requiredColumnRefs_of_join query (h join (by simp))
    obtain ⟨base, hl, _, hc⟩ := read_required query hleft
    obtain ⟨joined, hj, hname, hr⟩ := read_required query hright
    have hbase : base = clause := Except.ok.inj (hl.symm.trans hb)
    subst hbase
    have hstep : joinSelectable (datasetTables query) base start join =
        .ok (.join start joined ⟨query.datasetName, join.leftColumn⟩
          ⟨join.datasetName, join.rightColumn⟩ (join.joinType = .left)) := by
      simp only [joinSelectable, hj, hc, hr, ok_bind]
    obtain ⟨selectable, hs, hsb, hsj⟩ :=
      ih (fun j hm => h j (List.mem_cons_of_mem join hm)) (.join start joined
        ⟨query.datasetName, join.leftColumn⟩ ⟨join.datasetName, join.rightColumn⟩
        (join.joinType = .left))
    have hkind : (if decide (join.joinType = .left) = true then ExploreJoinType.left
        else .inner) = join.joinType := by
      cases join.joinType <;> rfl
    refine ⟨selectable, ?_, hsb, ?_⟩
    · rw [List.foldlM_cons, hstep, ok_bind, hs]
    · rw [hsj, Selectable.joins, hkind, hname, List.append_assoc]
      rfl

/-- The builder returns a statement for every query, and the statement asks for what the
query does. -/
theorem buildExploreSelectStatement_meaning :
    ∃ statement, buildExploreSelectStatement query = .ok statement ∧
      statement.meaning = query.meaning := by
  obtain ⟨clause, hb, hname⟩ := readKey_base query
  obtain ⟨selectable, hs, hsb, hsj⟩ :=
    foldlM_joinSelectable query hb (fun join h => (h : join ∈ query.joins)) (.table clause)
  refine ⟨{ columns := query.columnRefs.map fun ref =>
              ⟨ref, if !query.joins.isEmpty then some (outputColumnName ref) else none⟩
            selectFrom := selectable
            orderBy := query.orderBy.map fun ref => (ref, query.orderDirection)
            limit := query.rowLimit }, ?_, ?_⟩
  · simp only [buildExploreSelectStatement, hb, hs, mapM_selectedColumnExpression,
      orderExpression_eq, ok_bind]
  · simp only [SelectStatement.meaning, ExploreQuery.meaning, hsb, hsj, Selectable.base,
      Selectable.joins, hname, List.nil_append, List.map_map, Function.comp_def, List.map_id']

end Reads

/-- Requests are accepted exactly when the catalog covers them, and an accepted query becomes
the statement that was requested, with the row limit capped. -/
theorem explore_closed_over_catalog (datasetName : Str) (datasets : List AnalyticsDataset)
    (columnRefs : List ExploreColumnRef) (joins : List ExploreJoin)
    (orderBy : Option ExploreColumnRef) (orderDirection : ExploreSortDirection) (rowLimit : Int)
    (hn : (datasets.map AnalyticsDataset.name).Nodup) :
    ((∃ query, buildExploreQuery datasetName datasets columnRefs joins orderBy orderDirection
        rowLimit = .ok query) ↔ Acceptable datasetName datasets columnRefs joins orderBy) ∧
      ∀ query, buildExploreQuery datasetName datasets columnRefs joins orderBy orderDirection
          rowLimit = .ok query →
        ∃ statement, buildExploreSelectStatement query = .ok statement ∧
          statement.meaning =
            { base := datasetName
              joins := joins.map (ExploreJoin.meaning datasetName)
              projection := columnRefs
              orderBy := orderBy.map fun columnRef => (columnRef, orderDirection)
              limit := min rowLimit 500 } := by
  constructor
  · constructor
    · rintro ⟨query, hq⟩
      exact ((buildExploreQuery_eq_ok hn).mp hq).1
    · intro h
      exact ⟨_, (buildExploreQuery_eq_ok hn).mpr ⟨h, rfl⟩⟩
  · intro query hq
    obtain ⟨_, rfl⟩ := (buildExploreQuery_eq_ok hn).mp hq
    exact buildExploreSelectStatement_meaning _

/-- A left join of two built-in datasets is accepted and built as requested. -/
theorem explore_builtin_join :
    ∃ query, buildExploreQuery (str "event_type_counts") datasets
        [⟨str "product_event_counts", str "product_id"⟩]
        [⟨str "product_event_counts", str "event_type", str "event_type", .left⟩]
        (some ⟨str "event_type_counts", str "event_count"⟩) .asc 900 = .ok query ∧
      ∃ statement, buildExploreSelectStatement query = .ok statement ∧ statement.meaning =
        { base := str "event_type_counts"
          joins := [⟨str "product_event_counts", ⟨str "event_type_counts", str "event_type"⟩,
            ⟨str "product_event_counts", str "event_type"⟩, .left⟩]
          projection := [⟨str "product_event_counts", str "product_id"⟩]
          orderBy := some (⟨str "event_type_counts", str "event_count"⟩, .asc)
          limit := 500 } := by
  have h := explore_closed_over_catalog (str "event_type_counts") datasets
    [⟨str "product_event_counts", str "product_id"⟩]
    [⟨str "product_event_counts", str "event_type", str "event_type", .left⟩]
    (some ⟨str "event_type_counts", str "event_count"⟩) .asc 900 allowedDatasetNames_nodup
  exact ⟨_, rfl, h.2 _ rfl⟩

end LiveData.Analytics

import LiveData.Analytics.ExploreStatement
import LiveData.Analytics.ResultRows

/-!
# The output columns of Explore queries

Without a join a column keeps its name, with one it is labelled with its dataset and its
name. The labels are distinct, and the rows of a result complete, exactly when no selected
column hides a part of another dataset's name in its own.
-/

namespace LiveData.Analytics

/-- The name of a projected column in the result. -/
def ColumnElement.outputName (element : ColumnElement) : Str :=
  element.label.getD element.column.columnName

/-- The names of the projected columns. -/
def SelectStatement.outputNames (statement : SelectStatement) : List Str :=
  statement.columns.map ColumnElement.outputName

/-- The statement of a query names its columns apart, so that every row of a result has one
value for each of them. -/
def ColumnsApart (query : ExploreQuery) : Prop :=
  ∃ statement, buildExploreSelectStatement query = .ok statement ∧ statement.outputNames.Nodup ∧
    ∀ (host : ScalarHost) (position : RowKeys), position.OneOfTheName →
      ∀ result : ResultSet host, result.columns = statement.outputNames →
        PositionallyFaithful position result

/-- One dataset's name continues the other's, and the column of the shorter one makes up for
the difference. -/
def LabelClash (a b : ExploreColumnRef) : Prop :=
  ∃ rest, b.datasetName = a.datasetName ++ str "_" ++ rest ∧
    a.columnName = rest ++ str "_" ++ b.columnName

/-- Labels are equal for equal columns and where they clash. -/
theorem outputColumnName_eq_iff (a b : ExploreColumnRef) :
    outputColumnName a = outputColumnName b ↔ a = b ∨ LabelClash a b ∨ LabelClash b a := by
  have hlabel : ∀ ref : ExploreColumnRef,
      outputColumnName ref = ref.datasetName ++ 95 :: ref.columnName := by
    intro ref
    rw [outputColumnName, List.append_assoc]
    rfl
  have hclash : ∀ a b : ExploreColumnRef, LabelClash a b ↔
      ∃ z, b.datasetName = a.datasetName ++ 95 :: z ∧ a.columnName = z ++ 95 :: b.columnName := by
    intro a b
    simp only [LabelClash, List.append_assoc]
    rfl
  rw [hlabel, hlabel, append_cons_eq_append_cons_iff, hclash, hclash]
  obtain ⟨aDataset, aColumn⟩ := a
  obtain ⟨bDataset, bColumn⟩ := b
  simp only [ExploreColumnRef.mk.injEq]

section Request

variable {datasetName : Str} {datasets : List AnalyticsDataset}
  {columnRefs : List ExploreColumnRef} {joins : List ExploreJoin}
  {orderBy : Option ExploreColumnRef} {orderDirection : ExploreSortDirection} {rowLimit : Int}

/-- The projected names of a query. -/
theorem outputNames_buildExploreSelectStatement {query : ExploreQuery} {statement : SelectStatement}
    (h : buildExploreSelectStatement query = .ok statement) :
    statement.outputNames = query.columnRefs.map fun ref =>
      if query.joins = [] then ref.columnName else outputColumnName ref := by
  unfold buildExploreSelectStatement at h
  simp only [bind_eq_ok, mapM_selectedColumnExpression, Except.ok.injEq] at h
  obtain ⟨_, -, _, -, _, rfl, _, -, rfl⟩ := h
  cases hj : query.joins <;> simp [SelectStatement.outputNames, ColumnElement.outputName]

/-- An accepted request selects distinct columns, without a join all of the base dataset. -/
theorem columnRefs_of_buildExploreQuery {query : ExploreQuery}
    (h : buildExploreQuery datasetName datasets columnRefs joins orderBy orderDirection rowLimit =
      .ok query) :
    columnRefs.Nodup ∧ (joins = [] → ∀ ref ∈ columnRefs, ref.datasetName = datasetName) := by
  obtain rfl := eq_of_buildExploreQuery h
  unfold buildExploreQuery at h
  simp only [bind_eq_ok, Except.ok.injEq, ExploreQuery.mk.injEq] at h
  obtain ⟨dataset, -, _, -, _, hcolumns, _, -, hname, -⟩ := h
  obtain ⟨-, hnodup, hall⟩ := ensureSelectedColumnsAreAllowed_eq_ok.mp hcolumns
  refine ⟨hnodup, fun hj ref hm => ?_⟩
  have hselectable := (ensureColumnRefIsSelectable_eq_ok.mp (hall ref hm)).1
  rw [hj, List.map_nil, List.mem_singleton] at hselectable
  rw [hselectable, hname]

/-- A query's columns are apart exactly when their names are. -/
theorem columnsApart_iff_nodup {query : ExploreQuery} :
    ColumnsApart query ↔ (query.columnRefs.map fun ref =>
      if query.joins = [] then ref.columnName else outputColumnName ref).Nodup := by
  constructor
  · rintro ⟨statement, hs, hnodup, -⟩
    rwa [outputNames_buildExploreSelectStatement hs] at hnodup
  · intro h
    obtain ⟨statement, hs, -⟩ := buildExploreSelectStatement_meaning query
    have hnodup : statement.outputNames.Nodup := by
      rwa [outputNames_buildExploreSelectStatement hs]
    refine ⟨statement, hs, hnodup, fun host position hposition result hresult => ?_⟩
    exact positionallyFaithful_of_nodup hposition (hresult ▸ hnodup)

/-- Distinct references have distinct names exactly when no two labels of a join clash. -/
theorem nodup_outputNames_iff (hnodup : columnRefs.Nodup)
    (hbase : joins = [] → ∀ ref ∈ columnRefs, ref.datasetName = datasetName) :
    (columnRefs.map fun ref => if joins = [] then ref.columnName else outputColumnName ref).Nodup ↔
      (joins ≠ [] → ∀ a ∈ columnRefs, ∀ b ∈ columnRefs, ¬LabelClash a b) := by
  rw [List.nodup_map_iff_inj_on hnodup]
  by_cases hj : joins = []
  · refine iff_of_true ?_ fun h => absurd hj h
    intro a ha b hb he
    rw [if_pos hj, if_pos hj] at he
    obtain ⟨aDataset, aColumn⟩ := a
    obtain ⟨bDataset, bColumn⟩ := b
    rw [ExploreColumnRef.mk.injEq]
    exact ⟨(hbase hj _ ha).trans (hbase hj _ hb).symm, he⟩
  · simp only [if_neg hj, outputColumnName_eq_iff]
    constructor
    · intro h _ a ha b hb hclash
      have hab := h a ha b hb (Or.inr (Or.inl hclash))
      obtain ⟨rest, hname, -⟩ := hclash
      rw [hab] at hname
      simp [str] at hname
    · rintro h a ha b hb (he | hclash | hclash)
      · exact he
      · exact absurd hclash (h hj a ha b hb)
      · exact absurd hclash (h hj b hb a ha)

end Request

/-- The columns of every accepted request are apart exactly when no two selected columns of a
join clash. -/
theorem exploreColumnsApart_iff (datasetName : Str) (datasets : List AnalyticsDataset)
    (columnRefs : List ExploreColumnRef) (joins : List ExploreJoin)
    (orderBy : Option ExploreColumnRef) (orderDirection : ExploreSortDirection) (rowLimit : Int) :
    (∀ query, buildExploreQuery datasetName datasets columnRefs joins orderBy orderDirection
        rowLimit = .ok query → ColumnsApart query) ↔
      ((∃ query, buildExploreQuery datasetName datasets columnRefs joins orderBy orderDirection
          rowLimit = .ok query) → joins ≠ [] →
        ∀ a ∈ columnRefs, ∀ b ∈ columnRefs, ¬LabelClash a b) := by
  rw [exists_imp]
  refine forall_congr' fun query => imp_congr_right fun h => ?_
  obtain ⟨hnodup, hbase⟩ := columnRefs_of_buildExploreQuery h
  obtain rfl := eq_of_buildExploreQuery h
  rw [columnsApart_iff_nodup]
  exact nodup_outputNames_iff hnodup hbase

/-- A saved view over users. -/
def userView : AnalyticsDataset where
  name := str "user_event_counts_user"
  label := str "user_event_counts_user"
  description := []
  columns := [column "id" "id" .dimension]
  origin := .viewTable

/-- A built-in dataset and the saved view give two columns of one name. -/
theorem userView_columns_not_apart :
    ¬∀ (datasetName : Str) (datasets : List AnalyticsDataset) (columnRefs : List ExploreColumnRef)
      (joins : List ExploreJoin) (orderBy : Option ExploreColumnRef)
      (orderDirection : ExploreSortDirection) (rowLimit : Int),
      (∀ dataset ∈ datasets, isViewTableName dataset.name = true ∨
        dataset.name ∈ allowedDatasetNames) →
      ∀ query, buildExploreQuery datasetName datasets columnRefs joins orderBy orderDirection
        rowLimit = .ok query → ColumnsApart query := by
  intro h
  have hcatalog : ∀ dataset ∈ datasets ++ [userView], isViewTableName dataset.name = true ∨
      dataset.name ∈ allowedDatasetNames := by decide
  have hapart := h (str "user_event_counts") (datasets ++ [userView])
    [⟨str "user_event_counts", str "user_id"⟩, ⟨str "user_event_counts_user", str "id"⟩]
    [⟨str "user_event_counts_user", str "user_id", str "id", .inner⟩] none .asc 100 hcatalog _ rfl
  exact absurd (columnsApart_iff_nodup.mp hapart) (by decide)

end LiveData.Analytics

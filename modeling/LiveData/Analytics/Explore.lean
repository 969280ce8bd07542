import LiveData.Core.Dict
import LiveData.Core.Outcome
import LiveData.Analytics.Catalog
import Mathlib.Data.List.Dedup

/-!
# Validation of structured Explore requests

`build_explore_query` with its checks in source order. What it accepts is stated over the
catalog alone, with no dictionary and no order of checks, and both are shown to agree.
-/

namespace LiveData.Analytics

/-- `ExploreSortDirection`. -/
inductive ExploreSortDirection where
  | asc
  | desc
  deriving DecidableEq, Repr

/-- `ExploreJoinType`. -/
inductive ExploreJoinType where
  | inner
  | left
  deriving DecidableEq, Repr

/-- Column reference selected from one dataset. -/
structure ExploreColumnRef where
  datasetName : Str
  columnName : Str
  deriving DecidableEq, Repr

/-- Join from the base dataset to another dataset. -/
structure ExploreJoin where
  datasetName : Str
  leftColumn : Str
  rightColumn : Str
  joinType : ExploreJoinType
  deriving DecidableEq, Repr

/-- Structured query over the catalog. -/
structure ExploreQuery where
  datasetName : Str
  columnRefs : List ExploreColumnRef
  joins : List ExploreJoin
  orderBy : Option ExploreColumnRef
  orderDirection : ExploreSortDirection
  rowLimit : Int
  deriving DecidableEq, Repr

/-- `MAX_EXPLORE_QUERY_ROW_LIMIT`. -/
def maxExploreQueryRowLimit : Int := 500

/-- `MAX_EXPLORE_JOIN_COUNT`. -/
def maxExploreJoinCount : Nat := 1

/-- How building a query fails: a validation error, or a dictionary read at a missing key. -/
inductive ExploreError where
  | violation (reason message : Str)
  | keyError (key : Str)
  deriving DecidableEq, Repr

/-- Items read by key: `dictionary[key]`. -/
def readKey {ν : Type} (dictionary : List (Str × ν)) (key : Str) : Except ExploreError ν :=
  match dictionary.lookup key with
  | none => .error (.keyError key)
  | some value => .ok value

/-- `dataset_by_name`. -/
def datasetByName (datasets : List AnalyticsDataset) : List (Str × AnalyticsDataset) :=
  Dict.ofItems (datasets.map fun dataset => (dataset.name, dataset))

/-- `_dataset_column_names`. -/
def datasetColumnNames (dataset : AnalyticsDataset) : List Str :=
  dataset.columns.map AnalyticsDatasetColumn.name

/-- `_find_dataset`. -/
def findDataset (datasetName : Str) (byName : List (Str × AnalyticsDataset)) :
    Except ExploreError AnalyticsDataset :=
  match byName.lookup datasetName with
  | some dataset => .ok dataset
  | none => .error (.violation (str "unknown_dataset") (str "알 수 없는 analytics dataset입니다."))

/-- The loop of `_ensure_join_shape_is_allowed`, with the join datasets seen so far. -/
def ensureJoins (baseDataset : AnalyticsDataset) (byName : List (Str × AnalyticsDataset)) :
    List Str → List ExploreJoin → Except ExploreError Unit
  | _, [] => .ok ()
  | seen, join :: joins =>
    match byName.lookup join.datasetName with
    | none =>
      .error (.violation (str "unknown_join_dataset") (str "JOIN할 수 없는 dataset입니다."))
    | some joinDataset =>
      if join.datasetName = baseDataset.name then
        .error (.violation (str "self_join_not_supported")
          (str "같은 dataset self join은 현재 Chart Builder에서 지원하지 않습니다."))
      else if join.datasetName ∈ seen then
        .error (.violation (str "duplicate_join_dataset")
          (str "같은 dataset은 한 번만 JOIN할 수 있습니다."))
      else if join.leftColumn ∉ datasetColumnNames baseDataset then
        .error (.violation (str "unknown_join_left_column")
          (str "base dataset에 없는 column으로 JOIN할 수 없습니다."))
      else if join.rightColumn ∉ datasetColumnNames joinDataset then
        .error (.violation (str "unknown_join_right_column")
          (str "JOIN dataset에 없는 column으로 JOIN할 수 없습니다."))
      else ensureJoins baseDataset byName (join.datasetName :: seen) joins

/-- `_ensure_join_shape_is_allowed`. -/
def ensureJoinShapeIsAllowed (joins : List ExploreJoin) (baseDataset : AnalyticsDataset)
    (byName : List (Str × AnalyticsDataset)) : Except ExploreError Unit :=
  if maxExploreJoinCount < joins.length then
    .error (.violation (str "too_many_joins") (str "Chart Builder JOIN은 최대 " ++
      str (toString maxExploreJoinCount) ++ str "개만 허용합니다."))
  else ensureJoins baseDataset byName [] joins

/-- `_ensure_column_ref_is_selectable`. -/
def ensureColumnRefIsSelectable (selectableDatasetNames : List Str)
    (byName : List (Str × AnalyticsDataset)) (columnRef : ExploreColumnRef) :
    Except ExploreError Unit :=
  if columnRef.datasetName ∉ selectableDatasetNames then
    .error (.violation (str "unknown_column_dataset")
      (str "JOIN되지 않은 dataset column은 조회할 수 없습니다."))
  else do
    let dataset ← readKey byName columnRef.datasetName
    if columnRef.columnName ∉ datasetColumnNames dataset then
      .error (.violation (str "unknown_column") (str "dataset에 없는 column은 조회할 수 없습니다."))
    else .ok ()

/-- `_ensure_selected_columns_are_allowed`. -/
def ensureSelectedColumnsAreAllowed (selectedColumns : List ExploreColumnRef)
    (selectableDatasetNames : List Str) (byName : List (Str × AnalyticsDataset)) :
    Except ExploreError Unit :=
  if selectedColumns = [] then
    .error (.violation (str "missing_columns")
      (str "Explore query에는 최소 1개 이상의 column이 필요합니다."))
  else if selectedColumns.length ≠ selectedColumns.dedup.length then
    .error (.violation (str "duplicate_columns") (str "Explore query column은 중복될 수 없습니다."))
  else forM selectedColumns (ensureColumnRefIsSelectable selectableDatasetNames byName)

/-- `_ensure_order_column_is_allowed`, which rewrites validation errors only. -/
def ensureOrderColumnIsAllowed (orderBy : Option ExploreColumnRef)
    (selectableDatasetNames : List Str) (byName : List (Str × AnalyticsDataset)) :
    Except ExploreError Unit :=
  match orderBy with
  | none => .ok ()
  | some columnRef =>
    match ensureColumnRefIsSelectable selectableDatasetNames byName columnRef with
    | .error (.violation _ _) =>
      .error (.violation (str "unknown_order_column")
        (str "dataset에 없는 column으로 정렬할 수 없습니다."))
    | result => result

section Build

variable (datasetName : Str) (datasets : List AnalyticsDataset)
  (columnRefs : List ExploreColumnRef) (joins : List ExploreJoin)
  (orderBy : Option ExploreColumnRef) (orderDirection : ExploreSortDirection) (rowLimit : Int)

/-- `build_explore_query`. -/
def buildExploreQuery : Except ExploreError ExploreQuery := do
  let byName := datasetByName datasets
  let dataset ← findDataset datasetName byName
  ensureJoinShapeIsAllowed joins dataset byName
  let joinDatasetNames := joins.map ExploreJoin.datasetName
  let selectableDatasetNames := dataset.name :: joinDatasetNames
  ensureSelectedColumnsAreAllowed columnRefs selectableDatasetNames byName
  ensureOrderColumnIsAllowed orderBy selectableDatasetNames byName
  .ok
    { datasetName := dataset.name
      columnRefs := columnRefs
      joins := joins
      orderBy := orderBy
      orderDirection := orderDirection
      rowLimit := min rowLimit maxExploreQueryRowLimit }

/-- The catalog has a dataset of that name with that column. -/
def OwnsColumn (columnRef : ExploreColumnRef) : Prop :=
  ∃ dataset ∈ datasets, dataset.name = columnRef.datasetName ∧
    columnRef.columnName ∈ datasetColumnNames dataset

/-- The column belongs to the base dataset or to a joined one. -/
def InScope (columnRef : ExploreColumnRef) : Prop :=
  (columnRef.datasetName = datasetName ∨ ∃ join ∈ joins, columnRef.datasetName = join.datasetName) ∧
    OwnsColumn datasets columnRef

/-- What a request has to satisfy, said of the catalog. -/
structure Acceptable : Prop where
  base_known : ∃ dataset ∈ datasets, dataset.name = datasetName
  one_join : joins.length ≤ 1
  join_known : ∀ join ∈ joins, ∃ dataset ∈ datasets, dataset.name = join.datasetName
  join_other : ∀ join ∈ joins, join.datasetName ≠ datasetName
  join_left : ∀ join ∈ joins, OwnsColumn datasets ⟨datasetName, join.leftColumn⟩
  join_right : ∀ join ∈ joins, OwnsColumn datasets ⟨join.datasetName, join.rightColumn⟩
  columns_ne_nil : columnRefs ≠ []
  columns_nodup : columnRefs.Nodup
  columns_inScope : ∀ columnRef ∈ columnRefs, InScope datasetName datasets joins columnRef
  order_inScope : ∀ columnRef ∈ orderBy, InScope datasetName datasets joins columnRef

end Build

/-! ## What each check requires -/

section Checks

variable {datasets : List AnalyticsDataset} {byName : List (Str × AnalyticsDataset)}

/-- With distinct names the dictionary is the catalog. -/
theorem lookup_datasetByName (hn : (datasets.map AnalyticsDataset.name).Nodup) {name : Str}
    {dataset : AnalyticsDataset} :
    (datasetByName datasets).lookup name = some dataset ↔
      dataset ∈ datasets ∧ dataset.name = name := by
  have hk : (Dict.keys (datasets.map fun d => (d.name, d))).Nodup := by
    simpa [Dict.keys, Function.comp_def] using hn
  rw [datasetByName, Dict.ofItems_of_nodup hk, Dict.lookup_eq_some_iff hk]
  constructor
  · intro h
    obtain ⟨d, hd, he⟩ := List.mem_map.mp h
    obtain ⟨rfl, rfl⟩ := Prod.mk.inj he
    exact ⟨hd, rfl⟩
  · rintro ⟨hd, rfl⟩
    exact List.mem_map_of_mem hd

theorem findDataset_eq_ok {name : Str} {dataset : AnalyticsDataset} :
    findDataset name byName = .ok dataset ↔ byName.lookup name = some dataset := by
  unfold findDataset
  split <;> simp [*]

/-- What one turn of the join loop requires, the repetition apart. -/
structure JoinAllowed (baseDataset : AnalyticsDataset) (byName : List (Str × AnalyticsDataset))
    (join : ExploreJoin) : Prop where
  other : join.datasetName ≠ baseDataset.name
  left : join.leftColumn ∈ datasetColumnNames baseDataset
  right : ∃ joinDataset, byName.lookup join.datasetName = some joinDataset ∧
    join.rightColumn ∈ datasetColumnNames joinDataset

/-- The loop passes when every join is allowed and no dataset is joined twice. -/
theorem ensureJoins_eq_ok {baseDataset : AnalyticsDataset} {seen : List Str}
    {joins : List ExploreJoin} :
    ensureJoins baseDataset byName seen joins = .ok () ↔
      (∀ join ∈ joins, JoinAllowed baseDataset byName join ∧ join.datasetName ∉ seen) ∧
        (joins.map ExploreJoin.datasetName).Nodup := by
  induction joins generalizing seen with
  | nil => simp [ensureJoins]
  | cons join joins ih =>
    rw [List.forall_mem_cons, List.map_cons, List.nodup_cons]
    constructor
    · intro h
      unfold ensureJoins at h
      split at h
      · cases h
      · next joinDataset hj =>
        split_ifs at h with ho hs hl hr
        obtain ⟨hall, hnodup⟩ := ih.mp h
        refine ⟨⟨⟨⟨ho, hl, joinDataset, hj, hr⟩, hs⟩, fun j hm => ?_⟩, ?_,
          hnodup⟩
        · exact ⟨(hall j hm).1, fun hj => (hall j hm).2 (List.mem_cons_of_mem _ hj)⟩
        · intro hm
          obtain ⟨j, hj, he⟩ := List.mem_map.mp hm
          exact (hall j hj).2 (he ▸ List.mem_cons_self)
    · rintro ⟨⟨⟨⟨ho, hl, joinDataset, hj, hr⟩, hs⟩, hall⟩, hnew, hnodup⟩
      have hrest : ensureJoins baseDataset byName (join.datasetName :: seen) joins = .ok () := by
        apply ih.mpr
        refine ⟨fun j hm => ⟨(hall j hm).1, fun he => ?_⟩, hnodup⟩
        rcases List.mem_cons.mp he with he | he
        · exact hnew (he ▸ List.mem_map_of_mem hm)
        · exact (hall j hm).2 he
      simp only [ensureJoins, hj, ho, hs, hl, hr, not_true_eq_false, ite_false, hrest]

theorem ensureJoinShapeIsAllowed_eq_ok {baseDataset : AnalyticsDataset}
    {joins : List ExploreJoin} :
    ensureJoinShapeIsAllowed joins baseDataset byName = .ok () ↔
      joins.length ≤ 1 ∧ ∀ join ∈ joins, JoinAllowed baseDataset byName join := by
  unfold ensureJoinShapeIsAllowed
  by_cases hlen : maxExploreJoinCount < joins.length
  · have hn : ¬joins.length ≤ 1 := by
      unfold maxExploreJoinCount at hlen
      omega
    simp [hlen, hn]
  · have hle : joins.length ≤ 1 := by
      unfold maxExploreJoinCount at hlen
      omega
    have hnodup : (joins.map ExploreJoin.datasetName).Nodup := by
      rcases joins with _ | ⟨join, _ | ⟨other, rest⟩⟩
      · exact List.nodup_nil
      · exact List.nodup_singleton _
      · simp at hle
    simp [hlen, hle, ensureJoins_eq_ok, hnodup]

/-- A column reference passes when its dataset is selectable and has the column. -/
theorem ensureColumnRefIsSelectable_eq_ok {names : List Str} {columnRef : ExploreColumnRef} :
    ensureColumnRefIsSelectable names byName columnRef = .ok () ↔
      columnRef.datasetName ∈ names ∧ ∃ dataset,
        byName.lookup columnRef.datasetName = some dataset ∧
          columnRef.columnName ∈ datasetColumnNames dataset := by
  unfold ensureColumnRefIsSelectable readKey
  by_cases hm : columnRef.datasetName ∈ names
  · cases hl : byName.lookup columnRef.datasetName with
    | none => simp [hm]
    | some dataset =>
      by_cases hc : columnRef.columnName ∈ datasetColumnNames dataset <;> simp [hm, hc]
  · simp [hm]

theorem length_dedup_iff {refs : List ExploreColumnRef} :
    refs.length = refs.dedup.length ↔ refs.Nodup := by
  constructor
  · intro h
    exact List.dedup_eq_self.mp ((List.dedup_sublist refs).eq_of_length h.symm)
  · intro h
    rw [h.dedup]

theorem ensureSelectedColumnsAreAllowed_eq_ok {names : List Str} {refs : List ExploreColumnRef} :
    ensureSelectedColumnsAreAllowed refs names byName = .ok () ↔
      refs ≠ [] ∧ refs.Nodup ∧
        ∀ ref ∈ refs, ensureColumnRefIsSelectable names byName ref = .ok () := by
  unfold ensureSelectedColumnsAreAllowed
  by_cases hn : refs = []
  · simp [hn]
  · by_cases hd : refs.Nodup
    · simp [hn, hd, length_dedup_iff.mpr hd, forM_eq_ok]
    · have hl : refs.length ≠ refs.dedup.length := fun he => hd (length_dedup_iff.mp he)
      simp [hn, hd, hl]

theorem ensureOrderColumnIsAllowed_eq_ok {names : List Str} {orderBy : Option ExploreColumnRef} :
    ensureOrderColumnIsAllowed orderBy names byName = .ok () ↔
      ∀ ref ∈ orderBy, ensureColumnRefIsSelectable names byName ref = .ok () := by
  cases orderBy with
  | none => simp [ensureOrderColumnIsAllowed]
  | some ref =>
    simp only [ensureOrderColumnIsAllowed, Option.mem_def, Option.some.injEq, forall_eq']
    split <;> simp_all

/-- A missing key is read only where a selectable name is missing from the dictionary. -/
theorem ensureColumnRefIsSelectable_ne_keyError {names : List Str}
    (h : ∀ name ∈ names, ∃ dataset, byName.lookup name = some dataset)
    (columnRef : ExploreColumnRef) (key : Str) :
    ensureColumnRefIsSelectable names byName columnRef ≠ .error (.keyError key) := by
  unfold ensureColumnRefIsSelectable readKey
  by_cases hm : columnRef.datasetName ∈ names
  · obtain ⟨dataset, hl⟩ := h _ hm
    by_cases hc : columnRef.columnName ∈ datasetColumnNames dataset <;> simp [hm, hl, hc]
  · simp [hm]

theorem ensureJoinShapeIsAllowed_ne_keyError (baseDataset : AnalyticsDataset)
    (joins : List ExploreJoin) (key : Str) :
    ensureJoinShapeIsAllowed joins baseDataset byName ≠ .error (.keyError key) := by
  have hloop : ∀ seen, ensureJoins baseDataset byName seen joins ≠ .error (.keyError key) := by
    induction joins with
    | nil => simp [ensureJoins]
    | cons join joins ih =>
      intro seen
      unfold ensureJoins
      split
      · simp
      · split_ifs <;> simp [ih]
  unfold ensureJoinShapeIsAllowed
  split
  · simp
  · exact hloop []

theorem ensureSelectedColumnsAreAllowed_ne_keyError {names : List Str}
    (h : ∀ name ∈ names, ∃ dataset, byName.lookup name = some dataset)
    (refs : List ExploreColumnRef) (key : Str) :
    ensureSelectedColumnsAreAllowed refs names byName ≠ .error (.keyError key) := by
  unfold ensureSelectedColumnsAreAllowed
  split_ifs with hn hd
  · simp
  · simp
  · intro he
    obtain ⟨ref, _, href⟩ := exists_of_forM_eq_error he
    exact ensureColumnRefIsSelectable_ne_keyError h ref key href

theorem ensureOrderColumnIsAllowed_ne_keyError {names : List Str}
    (h : ∀ name ∈ names, ∃ dataset, byName.lookup name = some dataset)
    (orderBy : Option ExploreColumnRef) (key : Str) :
    ensureOrderColumnIsAllowed orderBy names byName ≠ .error (.keyError key) := by
  cases orderBy with
  | none => simp [ensureOrderColumnIsAllowed]
  | some ref =>
    have hr := ensureColumnRefIsSelectable_ne_keyError h ref key
    simp only [ensureOrderColumnIsAllowed]
    split
    · simp
    · exact hr

end Checks

/-! ## The whole validation -/

section Request

variable {datasetName : Str} {datasets : List AnalyticsDataset}
  {columnRefs : List ExploreColumnRef} {joins : List ExploreJoin}
  {orderBy : Option ExploreColumnRef} {orderDirection : ExploreSortDirection} {rowLimit : Int}

/-- Each check passes with the base dataset found. -/
structure Passes (datasetName : Str) (datasets : List AnalyticsDataset)
    (columnRefs : List ExploreColumnRef) (joins : List ExploreJoin)
    (orderBy : Option ExploreColumnRef) (dataset : AnalyticsDataset) : Prop where
  base : dataset ∈ datasets ∧ dataset.name = datasetName
  join_shape : ensureJoinShapeIsAllowed joins dataset (datasetByName datasets) = .ok ()
  columns : ensureSelectedColumnsAreAllowed columnRefs
    (datasetName :: joins.map ExploreJoin.datasetName) (datasetByName datasets) = .ok ()
  order : ensureOrderColumnIsAllowed orderBy
    (datasetName :: joins.map ExploreJoin.datasetName) (datasetByName datasets) = .ok ()

theorem buildExploreQuery_eq_ok_iff_passes (hn : (datasets.map AnalyticsDataset.name).Nodup)
    {query : ExploreQuery} :
    buildExploreQuery datasetName datasets columnRefs joins orderBy orderDirection rowLimit =
        .ok query ↔
      (∃ dataset, Passes datasetName datasets columnRefs joins orderBy dataset) ∧
        query = ⟨datasetName, columnRefs, joins, orderBy, orderDirection, min rowLimit 500⟩ := by
  unfold buildExploreQuery
  simp only [bind_eq_ok, findDataset_eq_ok, lookup_datasetByName hn, Except.ok.injEq]
  constructor
  · rintro ⟨dataset, ⟨hd, rfl⟩, _, hjoin, _, hcolumns, _, horder, rfl⟩
    exact ⟨⟨dataset, ⟨hd, rfl⟩, hjoin, hcolumns, horder⟩, rfl⟩
  · rintro ⟨⟨dataset, ⟨hd, rfl⟩, hjoin, hcolumns, horder⟩, rfl⟩
    exact ⟨dataset, ⟨hd, rfl⟩, (), hjoin, (), hcolumns, (), horder, rfl⟩

/-- A column reference is selectable in scope exactly when its check passes. -/
theorem ensureColumnRefIsSelectable_iff_inScope
    (hn : (datasets.map AnalyticsDataset.name).Nodup) {columnRef : ExploreColumnRef} :
    ensureColumnRefIsSelectable (datasetName :: joins.map ExploreJoin.datasetName)
        (datasetByName datasets) columnRef = .ok () ↔
      InScope datasetName datasets joins columnRef := by
  have hm : columnRef.datasetName ∈ datasetName :: joins.map ExploreJoin.datasetName ↔
      columnRef.datasetName = datasetName ∨
        ∃ join ∈ joins, columnRef.datasetName = join.datasetName := by
    simp [eq_comm]
  rw [ensureColumnRefIsSelectable_eq_ok, InScope, hm]
  simp only [lookup_datasetByName hn, OwnsColumn, and_assoc]

theorem ownsColumn_iff_lookup (hn : (datasets.map AnalyticsDataset.name).Nodup)
    {columnRef : ExploreColumnRef} :
    OwnsColumn datasets columnRef ↔
      ∃ dataset, (datasetByName datasets).lookup columnRef.datasetName = some dataset ∧
        columnRef.columnName ∈ datasetColumnNames dataset := by
  simp only [lookup_datasetByName hn, OwnsColumn, and_assoc]

/-- A join is allowed exactly when the catalog owns both of its columns and the datasets
differ. -/
theorem joinAllowed_iff (hn : (datasets.map AnalyticsDataset.name).Nodup)
    {dataset : AnalyticsDataset} (hd : dataset ∈ datasets) {join : ExploreJoin} :
    JoinAllowed dataset (datasetByName datasets) join ↔
      join.datasetName ≠ dataset.name ∧ OwnsColumn datasets ⟨dataset.name, join.leftColumn⟩ ∧
        OwnsColumn datasets ⟨join.datasetName, join.rightColumn⟩ := by
  have hbase : (datasetByName datasets).lookup dataset.name = some dataset :=
    (lookup_datasetByName hn).mpr ⟨hd, rfl⟩
  simp only [ownsColumn_iff_lookup hn, hbase, Option.some.injEq, exists_eq_left']
  exact ⟨fun h => ⟨h.other, h.left, h.right⟩, fun ⟨ho, hl, hr⟩ => ⟨ho, hl, hr⟩⟩

/-- The checks in their order require what the catalog says, no more and no less. -/
theorem exists_passes_iff_acceptable (hn : (datasets.map AnalyticsDataset.name).Nodup) :
    (∃ dataset, Passes datasetName datasets columnRefs joins orderBy dataset) ↔
      Acceptable datasetName datasets columnRefs joins orderBy := by
  constructor
  · rintro ⟨dataset, ⟨hd, rfl⟩, hjoin, hcolumns, horder⟩
    obtain ⟨hone, hjoins⟩ := ensureJoinShapeIsAllowed_eq_ok.mp hjoin
    obtain ⟨hne, hnodup, hall⟩ := ensureSelectedColumnsAreAllowed_eq_ok.mp hcolumns
    have hall' := ensureOrderColumnIsAllowed_eq_ok.mp horder
    have hj := fun join hm => (joinAllowed_iff hn hd).mp (hjoins join hm)
    exact
      { base_known := ⟨dataset, hd, rfl⟩
        one_join := hone
        join_known := by
          intro join hm
          obtain ⟨joined, hmem, hname, _⟩ := (hj join hm).2.2
          exact ⟨joined, hmem, hname⟩
        join_other := fun join hm => (hj join hm).1
        join_left := fun join hm => (hj join hm).2.1
        join_right := fun join hm => (hj join hm).2.2
        columns_ne_nil := hne
        columns_nodup := hnodup
        columns_inScope := fun ref hm =>
          (ensureColumnRefIsSelectable_iff_inScope hn).mp (hall ref hm)
        order_inScope := fun ref hm =>
          (ensureColumnRefIsSelectable_iff_inScope hn).mp (hall' ref hm) }
  · intro h
    obtain ⟨dataset, hd, rfl⟩ := h.base_known
    refine ⟨dataset, ⟨hd, rfl⟩, ?_, ?_, ?_⟩
    · apply ensureJoinShapeIsAllowed_eq_ok.mpr
      refine ⟨h.one_join, fun join hm => (joinAllowed_iff hn hd).mpr ?_⟩
      exact ⟨h.join_other join hm, h.join_left join hm, h.join_right join hm⟩
    · apply ensureSelectedColumnsAreAllowed_eq_ok.mpr
      refine ⟨h.columns_ne_nil, h.columns_nodup, fun ref hm => ?_⟩
      exact (ensureColumnRefIsSelectable_iff_inScope hn).mpr (h.columns_inScope ref hm)
    · apply ensureOrderColumnIsAllowed_eq_ok.mpr
      intro ref hm
      exact (ensureColumnRefIsSelectable_iff_inScope hn).mpr (h.order_inScope ref hm)

/-- Building a query succeeds exactly on the acceptable requests, with the limit capped. -/
theorem buildExploreQuery_eq_ok (hn : (datasets.map AnalyticsDataset.name).Nodup)
    {query : ExploreQuery} :
    buildExploreQuery datasetName datasets columnRefs joins orderBy orderDirection rowLimit =
        .ok query ↔
      Acceptable datasetName datasets columnRefs joins orderBy ∧
        query = ⟨datasetName, columnRefs, joins, orderBy, orderDirection, min rowLimit 500⟩ := by
  rw [buildExploreQuery_eq_ok_iff_passes hn, exists_passes_iff_acceptable hn]

/-- A query is what was requested of it, with the limit capped. -/
theorem eq_of_buildExploreQuery {query : ExploreQuery}
    (h : buildExploreQuery datasetName datasets columnRefs joins orderBy orderDirection rowLimit =
      .ok query) :
    query = ⟨datasetName, columnRefs, joins, orderBy, orderDirection, min rowLimit 500⟩ := by
  unfold buildExploreQuery at h
  simp only [bind_eq_ok, findDataset_eq_ok, Except.ok.injEq] at h
  obtain ⟨dataset, hd, _, -, _, -, _, -, rfl⟩ := h
  obtain ⟨d, -, hname⟩ := List.mem_map.mp (Dict.mem_of_lookup_ofItems hd)
  obtain ⟨rfl, rfl⟩ := Prod.mk.inj hname
  rfl

/-- Validation reads no missing key: whatever it refuses, it refuses with a reason. -/
theorem buildExploreQuery_ne_keyError (hn : (datasets.map AnalyticsDataset.name).Nodup)
    (key : Str) :
    buildExploreQuery datasetName datasets columnRefs joins orderBy orderDirection rowLimit ≠
      .error (.keyError key) := by
  apply bind_ne_error
  · unfold findDataset
    split <;> simp
  intro dataset hbase
  have hd := (lookup_datasetByName hn).mp (findDataset_eq_ok.mp hbase)
  apply bind_ne_error
  · exact ensureJoinShapeIsAllowed_ne_keyError dataset joins key
  intro _ hjoin
  have hknown : ∀ name ∈ dataset.name :: joins.map ExploreJoin.datasetName,
      ∃ found, (datasetByName datasets).lookup name = some found := by
    intro name hm
    rcases List.mem_cons.mp hm with rfl | hm
    · exact ⟨dataset, (lookup_datasetByName hn).mpr ⟨hd.1, rfl⟩⟩
    · obtain ⟨join, hj, rfl⟩ := List.mem_map.mp hm
      obtain ⟨joined, hl, _⟩ := ((ensureJoinShapeIsAllowed_eq_ok.mp hjoin).2 join hj).right
      exact ⟨joined, hl⟩
  apply bind_ne_error
  · exact ensureSelectedColumnsAreAllowed_ne_keyError hknown columnRefs key
  intro _ _
  apply bind_ne_error
  · exact ensureOrderColumnIsAllowed_ne_keyError hknown orderBy key
  intro _ _ h
  cases h

/-- What is not acceptable is refused with a reason. -/
theorem exists_violation_iff (hn : (datasets.map AnalyticsDataset.name).Nodup) :
    (∃ reason message, buildExploreQuery datasetName datasets columnRefs joins orderBy
      orderDirection rowLimit = .error (.violation reason message)) ↔
        ¬Acceptable datasetName datasets columnRefs joins orderBy := by
  constructor
  · rintro ⟨reason, message, h⟩ haccepted
    rw [(buildExploreQuery_eq_ok hn).mpr ⟨haccepted, rfl⟩] at h
    cases h
  · intro hrefused
    cases h : buildExploreQuery datasetName datasets columnRefs joins orderBy orderDirection
        rowLimit with
    | ok query => exact absurd ((buildExploreQuery_eq_ok hn).mp h).1 hrefused
    | error error =>
      cases error with
      | violation reason message => exact ⟨reason, message, rfl⟩
      | keyError key => exact absurd h (buildExploreQuery_ne_keyError hn key)

end Request

end LiveData.Analytics

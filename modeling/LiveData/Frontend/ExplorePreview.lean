import LiveData.Analytics.TextMeaning
import LiveData.Frontend.ColumnSelectors

/-!
# The generated SQL and the query that runs

The chart builder shows a query text and sends a request. The text is read as SQL and
compared with the statement the backend builds for the request.
-/

namespace LiveData.Workspace

open Analytics Sql

/-- The active join of the chart builder. -/
structure ActiveJoin where
  dataset : AnalyticsDataset
  leftColumn : Str
  rightColumn : Str
  joinType : ExploreJoinType
  deriving DecidableEq, Repr

/-- The controls both the text and the request are built from. -/
structure ExploreControls where
  dataset : AnalyticsDataset
  activeJoin : Option ActiveJoin
  selectedColumns : List Str
  orderBy : Str
  orderDirection : ExploreSortDirection
  rowLimit : Int
  deriving DecidableEq, Repr

/-- `defaultColumnsFor`. -/
def defaultColumnsFor (dataset : AnalyticsDataset) : List Str :=
  let displayColumns := dataset.columns.filter fun column => column.name ≠ str "sort_order"
  if dataset.name = str "error_event_ratio" then displayColumns.map AnalyticsDatasetColumn.name
  else
    let dimensions := displayColumns.filter fun column => column.kind ≠ .metric
    let metrics := displayColumns.filter fun column => column.kind = .metric
    (dimensions.take 2 ++ metrics.take 1).map AnalyticsDatasetColumn.name

/-- `defaultColumnsForJoinedDatasets`. -/
def defaultColumnsForJoinedDatasets (dataset joinDataset : AnalyticsDataset) : List Str :=
  ((defaultColumnsFor dataset).take 2).map (qualifiedColumnName dataset.name) ++
    ((defaultColumnsFor joinDataset).take 2).map (qualifiedColumnName joinDataset.name)

/-- `validColumnNames`. -/
def validColumnNames (dataset : AnalyticsDataset) (joinDataset : Option AnalyticsDataset) :
    List Str :=
  (chartColumnsFor (some dataset) joinDataset).map ChartColumn.value

/-- `selectedExploreColumns`. -/
def selectedExploreColumns (dataset : AnalyticsDataset) (joinDataset : Option AnalyticsDataset)
    (selectedColumns : List Str) : List Str :=
  let columns := selectedColumns.filter fun column => column ∈ validColumnNames dataset joinDataset
  if 0 < columns.length then columns
  else
    match joinDataset with
    | none => defaultColumnsFor dataset
    | some joinDataset => defaultColumnsForJoinedDatasets dataset joinDataset

/-- `joinType.toUpperCase()`. -/
def joinTypeText : ExploreJoinType → Str
  | .inner => str "INNER"
  | .left => str "LEFT"

/-- `orderDirection.toUpperCase()`. -/
def orderDirectionText : ExploreSortDirection → Str
  | .asc => str "ASC"
  | .desc => str "DESC"

/-- The text of an integer. -/
def integerText (n : Int) : Str := if n < 0 then 45 :: natText n.natAbs else natText n.natAbs

namespace ExploreControls

/-- `join?.dataset`. -/
def joinDataset (controls : ExploreControls) : Option AnalyticsDataset :=
  controls.activeJoin.map ActiveJoin.dataset

/-- The selectors of the columns to show. -/
def projection (controls : ExploreControls) : List Str :=
  selectedExploreColumns controls.dataset controls.joinDataset controls.selectedColumns

/-- The selectors the controls offer. -/
def offered (controls : ExploreControls) : List Str :=
  validColumnNames controls.dataset controls.joinDataset

/-- The lines of the join. -/
def joinLines (controls : ExploreControls) : Except Str (List Str) :=
  match controls.activeJoin with
  | none => .ok []
  | some join => do
    let joined ← formatIdentifier join.dataset.name
    let base ← formatIdentifier controls.dataset.name
    let left ← formatIdentifier join.leftColumn
    let right ← formatIdentifier join.rightColumn
    .ok [joinTypeText join.joinType ++ str " JOIN " ++ joined,
      str "  ON " ++ base ++ str "." ++ left ++ (str " = " ++ joined ++ str "." ++ right)]

/-- The line of the order. -/
def orderLines (controls : ExploreControls) : Except Str (List Str) :=
  if controls.orderBy ≠ [] ∧ controls.orderBy ∈ controls.offered then do
    let column ← formatColumnSelector controls.orderBy
    .ok [str "ORDER BY " ++ column ++ str " " ++ orderDirectionText controls.orderDirection]
  else .ok []

/-- `buildExploreSql`, or the message of what it throws. -/
def buildExploreSql (controls : ExploreControls) : Except Str Str := do
  let columns ← controls.projection.mapM formatColumnSelector
  let base ← formatIdentifier controls.dataset.name
  let joinLines ← controls.joinLines
  let orderLines ← controls.orderLines
  .ok ((str "\n").intercalate
    ([str "SELECT " ++ (str ", ").intercalate columns, str "FROM " ++ base] ++ joinLines ++
      orderLines ++ [str "LIMIT " ++ integerText controls.rowLimit]))

/-- The request of `runExplore`, when its fields are what the endpoint requires. -/
def runExplore (controls : ExploreControls) : Option ExploreQueryRequest :=
  if h : controls.projection ≠ [] ∧ 1 ≤ controls.rowLimit then
    some
      { dataset := controls.dataset.name
        columns := controls.projection.map ExploreColumnSelector.text
        joins := controls.activeJoin.toList.map fun join =>
          ⟨join.dataset.name, join.leftColumn, join.rightColumn, join.joinType⟩
        orderBy := if controls.orderBy ≠ [] then some (.text controls.orderBy) else none
        orderDirection := controls.orderDirection
        rowLimit := controls.rowLimit
        columns_ne_nil := by simpa using h.1
        one_le_rowLimit := h.2 }
  else none

end ExploreControls

/-! ## The text as a query -/

/-- The parts of a selector that are formatted. -/
def columnText (selector : Str) : ColumnText :=
  if 46 ∉ selector then ⟨none, selector⟩
  else ⟨some ((selector.splitOn 46).getD 0 []), (selector.splitOn 46).getD 1 []⟩

/-- The word of a join kind. -/
def joinWord : ExploreJoinType → JoinWord
  | .inner => .inner
  | .left => .left

/-- The word of a direction. -/
def orderWord : ExploreSortDirection → OrderWord
  | .asc => .asc
  | .desc => .desc

theorem isName_of_isIdentifier {name : Str} (h : isIdentifier name = true) :
    isName name = true := by
  cases name with
  | nil => exact h
  | cons c rest =>
    simp only [isIdentifier, Bool.and_eq_true, List.all_eq_true, decide_eq_true_eq] at h
    obtain ⟨hc, hrest⟩ := h
    refine isName_iff.mpr ⟨c, rest, rfl, Or.inl hc, fun d hd => ?_⟩
    have hchar := hrest d hd
    simpa [isViewTableNameChar, or_assoc] using hchar

theorem formatIdentifier_eq_ok {name text : Str} :
    formatIdentifier name = .ok text ↔ isIdentifier name = true ∧ text = name := by
  unfold formatIdentifier
  split
  · next h => simp [h, eq_comm]
  · next h => simp [h]

/-- A formatted selector is the spelling of its parts. -/
theorem formatColumnSelector_eq_ok {selector text : Str}
    (h : formatColumnSelector selector = .ok text) :
    (columnText selector).Named ∧ text = (columnText selector).spell := by
  unfold formatColumnSelector at h
  unfold columnText
  split at h
  · next hdot =>
    obtain ⟨hname, rfl⟩ := formatIdentifier_eq_ok.mp h
    rw [if_pos hdot]
    exact ⟨⟨isName_of_isIdentifier hname, nofun⟩, rfl⟩
  · next hdot =>
    simp only [bind_eq_ok, formatIdentifier_eq_ok, Except.ok.injEq] at h
    obtain ⟨_, ⟨hfirst, rfl⟩, _, ⟨hsecond, rfl⟩, rfl⟩ := h
    rw [if_neg hdot]
    refine ⟨⟨isName_of_isIdentifier hsecond, fun qualifier hq => ?_⟩, rfl⟩
    obtain rfl := Option.some.inj hq
    exact isName_of_isIdentifier hfirst

/-- So are formatted selectors, one by one. -/
theorem spelled_of_formatted {selectors texts : List Str}
    (h : List.Forall₂ (fun selector text => formatColumnSelector selector = .ok text)
      selectors texts) :
    (∀ column ∈ selectors.map columnText, column.Named) ∧
      texts = (selectors.map columnText).map ColumnText.spell := by
  induction h with
  | nil => simp
  | cons hf _ ih =>
    obtain ⟨hnamed, rfl⟩ := formatColumnSelector_eq_ok hf
    obtain ⟨hrest, rfl⟩ := ih
    exact ⟨List.forall_mem_cons.mpr ⟨hnamed, hrest⟩, rfl⟩

namespace ExploreControls

variable {controls : ExploreControls}

/-- The order is shown. -/
def ShowsOrder (controls : ExploreControls) : Prop :=
  controls.orderBy ≠ [] ∧ controls.orderBy ∈ controls.offered

instance (controls : ExploreControls) : Decidable controls.ShowsOrder :=
  inferInstanceAs (Decidable (_ ∧ _))

/-- The query whose text is shown. -/
def selectText (controls : ExploreControls) : SelectText where
  columns := controls.projection.map columnText
  table := controls.dataset.name
  join := controls.activeJoin.map fun join =>
    ⟨joinWord join.joinType, join.dataset.name, ⟨some controls.dataset.name, join.leftColumn⟩,
      ⟨some join.dataset.name, join.rightColumn⟩⟩
  orderBy :=
    if controls.ShowsOrder then
      some (columnText controls.orderBy, orderWord controls.orderDirection)
    else none
  limit := controls.rowLimit.toNat

/-- The query has the order of the controls where it is shown. -/
theorem orderBy_selectText (h : controls.ShowsOrder) : controls.selectText.orderBy =
    some (columnText controls.orderBy, orderWord controls.orderDirection) := if_pos h

theorem orderBy_selectText_of_not (h : ¬controls.ShowsOrder) :
    controls.selectText.orderBy = none := if_neg h

/-- The lines of the join are those of the query. -/
theorem joinLines_eq_ok {lines : List Str} (h : controls.joinLines = .ok lines) :
    lines = (controls.selectText.join.map JoinText.lines).getD [] ∧
      ∀ join ∈ controls.selectText.join,
        isName join.table = true ∧ join.left.Named ∧ join.right.Named := by
  unfold joinLines at h
  split at h
  · next hnone =>
    obtain rfl := Except.ok.inj h
    simp [selectText, hnone]
  · next join hsome =>
    simp only [bind_eq_ok, formatIdentifier_eq_ok, Except.ok.injEq] at h
    obtain ⟨_, ⟨hjoined, rfl⟩, _, ⟨hbase, rfl⟩, _, ⟨hleft, rfl⟩, _, ⟨hright, rfl⟩, rfl⟩ := h
    have hjoin : controls.selectText.join = some ⟨joinWord join.joinType, join.dataset.name,
        ⟨some controls.dataset.name, join.leftColumn⟩,
        ⟨some join.dataset.name, join.rightColumn⟩⟩ := by
      simp [selectText, hsome]
    rw [hjoin]
    constructor
    · have hkind : joinTypeText join.joinType = (joinWord join.joinType).spell := by
        cases join.joinType <;> rfl
      simp [JoinText.lines, ColumnText.spell, hkind, str]
    · intro text htext
      obtain rfl := Option.some.inj htext
      refine ⟨isName_of_isIdentifier hjoined,
        ⟨isName_of_isIdentifier hleft, fun qualifier hq => ?_⟩,
        ⟨isName_of_isIdentifier hright, fun qualifier hq => ?_⟩⟩
      · obtain rfl := Option.some.inj hq
        exact isName_of_isIdentifier hbase
      · obtain rfl := Option.some.inj hq
        exact isName_of_isIdentifier hjoined

/-- The line of the order is that of the query. -/
theorem orderLines_eq_ok {lines : List Str} (h : controls.orderLines = .ok lines) :
    lines = (controls.selectText.orderBy.map orderLine).toList ∧
      ∀ order ∈ controls.selectText.orderBy, order.1.Named := by
  unfold orderLines at h
  split at h
  · next hshown =>
    simp only [bind_eq_ok, Except.ok.injEq] at h
    obtain ⟨column, hcolumn, rfl⟩ := h
    obtain ⟨hnamed, rfl⟩ := formatColumnSelector_eq_ok hcolumn
    rw [orderBy_selectText hshown]
    constructor
    · have hword : orderDirectionText controls.orderDirection =
          (orderWord controls.orderDirection).spell := by
        cases controls.orderDirection <;> rfl
      simp [orderLine, hword]
    · intro order ho
      obtain rfl := Option.some.inj ho
      exact hnamed
  · next hshown =>
    obtain rfl := Except.ok.inj h
    simp [orderBy_selectText_of_not hshown]

/-- The generated text spells the query. -/
theorem buildExploreSql_eq_ok {text : Str} (hne : controls.projection ≠ [])
    (hlimit : 1 ≤ controls.rowLimit) (h : controls.buildExploreSql = .ok text) :
    text = controls.selectText.spell ∧ controls.selectText.Named := by
  unfold buildExploreSql at h
  simp only [bind_eq_ok, mapM_eq_ok, formatIdentifier_eq_ok, Except.ok.injEq] at h
  obtain ⟨columns, hcolumns, _, ⟨hbase, rfl⟩, joinLines, hjoin, orderLines, horder, rfl⟩ := h
  obtain ⟨rfl, hjoined⟩ := joinLines_eq_ok hjoin
  obtain ⟨rfl, hordered⟩ := orderLines_eq_ok horder
  obtain ⟨hnamed, hspelled⟩ := spelled_of_formatted hcolumns
  have htext : integerText controls.rowLimit = natText controls.rowLimit.toNat := by
    have habs : controls.rowLimit.natAbs = controls.rowLimit.toNat := by omega
    rw [integerText, if_neg (by omega), habs]
  constructor
  · rw [hspelled, htext]
    rfl
  · exact ⟨by simpa [selectText] using hne, hnamed, isName_of_isIdentifier hbase, hjoined,
      hordered⟩

/-! ## The text and the statement -/

/-- The reference the text makes of a selector. -/
def shownRef (base selector : Str) : ExploreColumnRef :=
  if 46 ∉ selector then ⟨base, selector⟩
  else ⟨(selector.splitOn 46).getD 0 [], (selector.splitOn 46).getD 1 []⟩

/-- The parts of a selector up to its first dot. -/
def firstPart (selector : Str) : Str := (selector.splitOn 46).getD 0 []

/-- The words of the text that stand for a table or a column without a dot before them. -/
def leadingNames (controls : ExploreControls) : List Str :=
  controls.dataset.name :: controls.joinDataset.toList.map AnalyticsDataset.name ++
    (controls.projection ++ if controls.orderBy = [] then [] else [controls.orderBy]).map firstPart

/-- No used selector has a second dot, an order is one of the offered columns, and no leading
name is reserved. -/
structure ShownAsRun (reserved : Str → Bool) (controls : ExploreControls) : Prop where
  columns : ∀ selector ∈ controls.projection, selector.count 46 ≤ 1
  order : controls.orderBy = [] ∨
    controls.orderBy ∈ controls.offered ∧ controls.orderBy.count 46 ≤ 1
  names : ∀ name ∈ controls.leadingNames, reserved name = false

/-- The text and the request mean the same by a selector exactly when it has no second dot. -/
theorem shownRef_eq_iff {base selector : Str} :
    shownRef base selector = columnSelectorToRef base (.text selector) ↔ selector.count 46 ≤ 1 := by
  by_cases hdot : 46 ∈ selector
  · obtain ⟨before, after, rfl, hbefore⟩ := List.eq_append_cons_of_mem hdot
    rw [shownRef, if_neg (by simp), columnSelectorToRef_append_cons hbefore,
      List.splitOn_append_cons_self_of_not_mem hbefore]
    have hcount : (before ++ 46 :: after).count 46 = after.count 46 + 1 := by
      simp [List.count_eq_zero_of_not_mem hbefore]
    rw [hcount]
    simp only [List.getD_cons_zero, List.getD_cons_succ, ExploreColumnRef.mk.injEq, true_and]
    by_cases hafter : 46 ∈ after
    · obtain ⟨second, rest, rfl, hsecond⟩ := List.eq_append_cons_of_mem hafter
      rw [List.splitOn_append_cons_self_of_not_mem hsecond, List.getD_cons_zero]
      simp
    · rw [List.splitOn_eq_singleton hafter, List.count_eq_zero_of_not_mem hafter]
      simp
  · rw [shownRef, if_pos hdot, columnSelectorToRef_of_notMem hdot,
      List.count_eq_zero_of_not_mem hdot]
    simp

/-- With a join every selector on offer is qualified. -/
theorem dot_mem_of_mem_offered {join : ActiveJoin} (hj : controls.activeJoin = some join)
    {selector : Str} (h : selector ∈ controls.offered) : 46 ∈ selector := by
  simp only [offered, validColumnNames, joinDataset, hj, Option.map_some, chartColumnsFor,
    List.mem_map, List.mem_flatMap] at h
  obtain ⟨_, ⟨item, -, column, -, rfl⟩, rfl⟩ := h
  simp [qualifiedColumnName]

/-- So is every selected one. -/
theorem dot_mem_of_mem_projection {join : ActiveJoin} (hj : controls.activeJoin = some join)
    {selector : Str} (h : selector ∈ controls.projection) : 46 ∈ selector := by
  have hjoined : controls.joinDataset = some join.dataset := by simp [joinDataset, hj]
  unfold projection selectedExploreColumns at h
  simp only at h
  split at h
  · apply dot_mem_of_mem_offered hj
    rw [List.mem_filter] at h
    simpa [offered] using h.2
  · rw [hjoined] at h
    simp only [defaultColumnsForJoinedDatasets, List.mem_append, List.mem_map] at h
    rcases h with ⟨name, -, rfl⟩ | ⟨name, -, rfl⟩ <;> simp [qualifiedColumnName]

/-- A selector is resolved as the text has it, provided it is qualified when there is a join. -/
theorem resolve_columnText {selector : Str}
    (h : ∀ join, controls.activeJoin = some join → 46 ∈ selector) :
    controls.selectText.resolve (columnText selector) =
      some (shownRef controls.dataset.name selector) := by
  by_cases hdot : 46 ∈ selector
  · have htext : columnText selector =
        ⟨some ((selector.splitOn 46).getD 0 []), (selector.splitOn 46).getD 1 []⟩ :=
      if_neg (by simpa using hdot)
    rw [htext, shownRef, if_neg (by simpa using hdot)]
    rfl
  · have hnone : controls.activeJoin = none := by
      cases hj : controls.activeJoin with
      | none => rfl
      | some join => exact absurd (h join hj) hdot
    have hjoin : controls.selectText.join = none := by simp [selectText, hnone]
    rw [columnText, if_pos hdot, shownRef, if_pos hdot, SelectText.resolve, hjoin]
    rfl

theorem mapM_map_eq_some {α β γ : Type} {f : α → β} {g : β → Option γ} {k : α → γ}
    {items : List α} (h : ∀ a ∈ items, g (f a) = some (k a)) :
    (items.map f).mapM g = some (items.map k) := by
  induction items with
  | nil => rfl
  | cons a items ih =>
    rw [List.map_cons, List.mapM_cons, h a List.mem_cons_self,
      ih fun b hb => h b (List.mem_cons_of_mem a hb)]
    rfl

/-- What the generated text asks for. -/
theorem meaning_selectText (hlimit : 1 ≤ controls.rowLimit) :
    controls.selectText.meaning = some
      { base := controls.dataset.name
        joins := controls.activeJoin.toList.map fun join =>
          ⟨join.dataset.name, ⟨controls.dataset.name, join.leftColumn⟩,
            ⟨join.dataset.name, join.rightColumn⟩, join.joinType⟩
        projection := controls.projection.map (shownRef controls.dataset.name)
        orderBy := if controls.ShowsOrder then
          some (shownRef controls.dataset.name controls.orderBy, controls.orderDirection) else none
        limit := controls.rowLimit } := by
  have hprojection : controls.selectText.columns.mapM controls.selectText.resolve =
      some (controls.projection.map (shownRef controls.dataset.name)) :=
    mapM_map_eq_some fun selector hs =>
      resolve_columnText fun join hj => dot_mem_of_mem_projection hj hs
  have hjoins : controls.selectText.joinMeaning = some (controls.activeJoin.toList.map fun join =>
      ⟨join.dataset.name, ⟨controls.dataset.name, join.leftColumn⟩,
        ⟨join.dataset.name, join.rightColumn⟩, join.joinType⟩) := by
    cases hj : controls.activeJoin with
    | none => simp [SelectText.joinMeaning, selectText, hj]
    | some join =>
      have hkind : (joinWord join.joinType).joinType = join.joinType := by
        cases join.joinType <;> rfl
      simp [SelectText.joinMeaning, selectText, hj, SelectText.resolve, hkind]
  have horder : controls.selectText.orderMeaning = some (if controls.ShowsOrder then
      some (shownRef controls.dataset.name controls.orderBy, controls.orderDirection)
      else none) := by
    by_cases hshown : controls.ShowsOrder
    · have hresolve : controls.selectText.resolve (columnText controls.orderBy) =
          some (shownRef controls.dataset.name controls.orderBy) :=
        resolve_columnText fun join hj => dot_mem_of_mem_offered hj hshown.2
      have hword : (orderWord controls.orderDirection).direction = controls.orderDirection := by
        cases controls.orderDirection <;> rfl
      rw [SelectText.orderMeaning, orderBy_selectText hshown, if_pos hshown]
      simp only [hresolve, hword, Option.bind_eq_bind, Option.bind_some]
    · rw [SelectText.orderMeaning, orderBy_selectText_of_not hshown, if_neg hshown]
  have hrows : (controls.selectText.limit : Int) = controls.rowLimit :=
    Int.toNat_of_nonneg (by omega)
  simp only [SelectText.meaning, hprojection, hjoins, horder, hrows, Option.bind_eq_bind,
    Option.bind_some]
  rfl

/-- What the statement of an accepted request asks for. -/
theorem meaning_of_accepted {datasets : List AnalyticsDataset} {request : ExploreQueryRequest}
    {query : ExploreQuery} {statement : SelectStatement}
    (hrequest : controls.runExplore = some request) (hquery : request.query datasets = .ok query)
    (hstatement : buildExploreSelectStatement query = .ok statement) :
    controls.projection ≠ [] ∧ 1 ≤ controls.rowLimit ∧ statement.meaning =
      { base := controls.dataset.name
        joins := controls.activeJoin.toList.map fun join =>
          ⟨join.dataset.name, ⟨controls.dataset.name, join.leftColumn⟩,
            ⟨join.dataset.name, join.rightColumn⟩, join.joinType⟩
        projection := controls.projection.map fun selector =>
          columnSelectorToRef controls.dataset.name (.text selector)
        orderBy := if controls.orderBy ≠ [] then
          some (columnSelectorToRef controls.dataset.name (.text controls.orderBy),
            controls.orderDirection) else none
        limit := min controls.rowLimit 500 } := by
  unfold runExplore at hrequest
  split at hrequest
  · next h =>
    obtain rfl := Option.some.inj hrequest
    obtain rfl := eq_of_buildExploreQuery hquery
    obtain ⟨built, hbuilt, hmeaning⟩ := buildExploreSelectStatement_meaning _
    obtain rfl := Except.ok.inj (hbuilt.symm.trans hstatement)
    refine ⟨h.1, h.2, hmeaning.trans ?_⟩
    simp only [ExploreQuery.meaning, ExploreQueryRequest.columnRefs,
      ExploreQueryRequest.orderByRef, List.map_map, QueryMeaning.mk.injEq, true_and, and_true]
    refine ⟨rfl, rfl, ?_⟩
    split <;> rfl
  · cases hrequest

/-- The order shown is the order sent exactly when there is none, or it is one of the offered
columns and has no second dot. -/
theorem order_eq_iff :
    (if controls.ShowsOrder then
        some (shownRef controls.dataset.name controls.orderBy, controls.orderDirection)
      else none) =
      (if controls.orderBy ≠ [] then
        some (columnSelectorToRef controls.dataset.name (.text controls.orderBy),
          controls.orderDirection)
      else none) ↔
      controls.orderBy = [] ∨
        controls.orderBy ∈ controls.offered ∧ controls.orderBy.count 46 ≤ 1 := by
  by_cases hnil : controls.orderBy = []
  · have hshown : ¬controls.ShowsOrder := fun h => h.1 hnil
    rw [if_neg hshown, if_neg (not_not.mpr hnil)]
    exact iff_of_true rfl (Or.inl hnil)
  · by_cases hoffered : controls.orderBy ∈ controls.offered
    · have hsame : shownRef controls.dataset.name controls.orderBy =
          columnSelectorToRef controls.dataset.name (.text controls.orderBy) ↔
            controls.orderBy.count 46 ≤ 1 := shownRef_eq_iff
      rw [if_pos ⟨hnil, hoffered⟩, if_pos hnil, ← hsame]
      simp [hnil, hoffered]
    · have hshown : ¬controls.ShowsOrder := fun h => hoffered h.2
      rw [if_neg hshown, if_pos hnil]
      exact iff_of_false nofun (by simp [hnil, hoffered])

theorem first_columnText (selector : Str) : (columnText selector).first = firstPart selector := by
  unfold columnText firstPart
  split
  · next h => rw [List.splitOn_eq_singleton h]; rfl
  · rfl

/-- When an order is one of the offered columns, the leading names are those of the text. -/
theorem leadingNames_selectText (h : controls.orderBy = [] ∨ controls.orderBy ∈ controls.offered) :
    ∀ name, name ∈ controls.selectText.leadingNames ↔ name ∈ controls.leadingNames := by
  intro name
  have horder : controls.selectText.orderBy.toList.map (fun order => order.1.first) =
      (if controls.orderBy = [] then [] else [controls.orderBy]).map firstPart := by
    by_cases hnil : controls.orderBy = []
    · rw [orderBy_selectText_of_not fun hshown => hshown.1 hnil, if_pos hnil]
      rfl
    · rw [orderBy_selectText ⟨hnil, h.resolve_left hnil⟩, if_neg hnil]
      simp [first_columnText]
  have hcolumns : controls.selectText.columns.map ColumnText.first =
      controls.projection.map firstPart := by
    simp [selectText, Function.comp_def, first_columnText]
  rw [SelectText.leadingNames, leadingNames, horder, hcolumns]
  cases hj : controls.activeJoin with
  | none => simp [selectText, joinDataset, hj]
  | some join =>
    simp only [selectText, joinDataset, hj, ColumnText.first, Option.map_some,
      Option.toList_some, Option.getD_some, List.flatMap_cons, List.flatMap_nil, List.append_nil,
      List.map_cons, List.map_nil, List.cons_append, List.nil_append, List.mem_cons]
    constructor
    · rintro (h | h | h | h | h)
      · exact Or.inl h
      · exact Or.inr (Or.inl h)
      · exact Or.inl h
      · exact Or.inr (Or.inl h)
      · exact Or.inr (Or.inr (by simpa using h))
    · rintro (h | h | h)
      · exact Or.inl h
      · exact Or.inr (Or.inl h)
      · exact Or.inr (Or.inr (Or.inr (Or.inr (by simpa using h))))

/-- The generated SQL is the query that runs exactly when no used selector has a second dot,
the order is one of the offered columns, and no leading name is reserved. -/
theorem textMeaning_eq_iff (reserved : Str → Bool) (datasets : List AnalyticsDataset)
    (controls : ExploreControls) (text : Str) (request : ExploreQueryRequest)
    (query : ExploreQuery) (statement : SelectStatement) (hlimit : controls.rowLimit ≤ 500)
    (htext : controls.buildExploreSql = .ok text) (hrequest : controls.runExplore = some request)
    (hquery : request.query datasets = .ok query)
    (hstatement : buildExploreSelectStatement query = .ok statement) :
    textMeaning reserved text = some statement.meaning ↔ ShownAsRun reserved controls := by
  obtain ⟨hne, hpos, hmeaning⟩ := meaning_of_accepted hrequest hquery hstatement
  obtain ⟨rfl, hnamed⟩ := buildExploreSql_eq_ok hne hpos htext
  have hshown := meaning_selectText hpos
  have hmin : min controls.rowLimit 500 = controls.rowLimit := min_eq_left hlimit
  have hread : textMeaning reserved controls.selectText.spell =
      if ∀ name ∈ controls.selectText.leadingNames, reserved name = false then
        controls.selectText.meaning else none := by
    rw [textMeaning, readSelect_spell hnamed, Option.bind_some]
  have hsame : controls.selectText.meaning = some statement.meaning ↔
      (∀ selector ∈ controls.projection, selector.count 46 ≤ 1) ∧
        (controls.orderBy = [] ∨
          controls.orderBy ∈ controls.offered ∧ controls.orderBy.count 46 ≤ 1) := by
    rw [hshown, hmeaning, hmin, ← order_eq_iff]
    simp only [Option.some.injEq, QueryMeaning.mk.injEq, true_and, and_true, List.map_inj_left,
      shownRef_eq_iff]
  rw [hread]
  constructor
  · intro h
    split at h
    · next hnames =>
      obtain ⟨hcolumns, horder⟩ := hsame.mp h
      refine ⟨hcolumns, horder, fun name hn => hnames name ?_⟩
      exact (leadingNames_selectText (horder.imp id And.left) name).mpr hn
    · cases h
  · rintro ⟨hcolumns, horder, hnames⟩
    rw [if_pos]
    · exact hsame.mpr ⟨hcolumns, horder⟩
    · intro name hn
      exact hnames name ((leadingNames_selectText (horder.imp id And.left) name).mp hn)

/-- The controls of a left join of two built-in datasets. -/
def joinedControls : ExploreControls where
  dataset := datasets.head (by decide)
  activeJoin := some ⟨datasets.getLast (by decide), str "event_type", str "event_type", .left⟩
  selectedColumns := [str "event_type_counts.event_type", str "product_event_counts.product_id"]
  orderBy := str "event_type_counts.event_count"
  orderDirection := .desc
  rowLimit := 100

/-- Their text. -/
def joinedText : Str :=
  str "SELECT event_type_counts.event_type, product_event_counts.product_id\n" ++
    str "FROM event_type_counts\nLEFT JOIN product_event_counts\n" ++
    str "  ON event_type_counts.event_type = product_event_counts.event_type\n" ++
    str "ORDER BY event_type_counts.event_count DESC\nLIMIT 100"

/-- The text of the join asks for what its statement does. -/
theorem joined_text_is_run : ∃ request query statement,
    joinedControls.runExplore = some request ∧ request.query datasets = .ok query ∧
      buildExploreSelectStatement query = .ok statement ∧
      textMeaning (fun _ => false) joinedText = some statement.meaning := by
  have htext : joinedControls.buildExploreSql = .ok joinedText := by decide +kernel
  refine ⟨_, _, _, rfl, rfl, rfl, ?_⟩
  refine (textMeaning_eq_iff (fun _ => false) datasets joinedControls joinedText _ _ _ (by decide)
    htext rfl rfl rfl).mpr ⟨by decide, by decide, fun _ _ => rfl⟩

/-- A saved view with a dot in the name of its second column. -/
def totalsView : AnalyticsDataset where
  name := str "totals"
  label := str "totals"
  description := []
  columns := [⟨str "event_type", str "event_type", .dimension⟩,
    ⟨str "net.total", str "net.total", .metric⟩]
  origin := .viewTable

/-- Controls that select the column of the view next to one of a built-in dataset. -/
def totalsControls : ExploreControls where
  dataset := datasets.head (by decide)
  activeJoin := some ⟨totalsView, str "event_type", str "event_type", .inner⟩
  selectedColumns := [str "event_type_counts.event_type", str "totals.net.total"]
  orderBy := []
  orderDirection := .desc
  rowLimit := 20

/-- The text shows another column than the statement selects. -/
theorem dotted_column_cut_short :
    ¬∀ (datasets : List AnalyticsDataset) (controls : ExploreControls) (text : Str)
      (request : ExploreQueryRequest) (query : ExploreQuery) (statement : SelectStatement),
      controls.rowLimit ≤ 500 → controls.buildExploreSql = .ok text →
      controls.runExplore = some request → request.query datasets = .ok query →
      buildExploreSelectStatement query = .ok statement →
      textMeaning (fun _ => false) text = some statement.meaning := by
  intro h
  have htext : totalsControls.buildExploreSql =
      .ok (str "SELECT event_type_counts.event_type, totals.net\nFROM event_type_counts\n" ++
        str "INNER JOIN totals\n  ON event_type_counts.event_type = totals.event_type\n" ++
        str "LIMIT 20") := by
    decide +kernel
  have hmeaning := h (datasets ++ [totalsView]) totalsControls _ _ _ _ (by decide) htext rfl rfl rfl
  exact absurd hmeaning (by decide +kernel)

end ExploreControls

end LiveData.Workspace

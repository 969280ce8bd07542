import LiveData.Frontend.ExplorePreview

/-!
# When the generated SQL throws

`buildExploreSql` runs while the workspace renders and throws at the first name that is no
identifier. It returns a text exactly when the names of the tables and of the join columns
are identifiers and the selectors in use have no other parts.
-/

namespace LiveData.Workspace

open Analytics

/-- `defaultOrderFor`. -/
def defaultOrderFor (dataset : AnalyticsDataset) : Str :=
  if dataset.name = str "commerce_funnel_counts" then str "sort_order"
  else
    match dataset.columns.find? fun column => column.kind = .metric with
    | some metric => metric.name
    | none => (dataset.columns.head?.map AnalyticsDatasetColumn.name).getD []

/-- `defaultOrderDirectionFor`. -/
def defaultOrderDirectionFor (dataset : AnalyticsDataset) : ExploreSortDirection :=
  if dataset.name = str "commerce_funnel_counts" then .asc else .desc

/-- The arguments of `exampleSqlForDataset`. -/
def exampleControls (dataset : AnalyticsDataset) : ExploreControls where
  dataset := dataset
  activeJoin := none
  selectedColumns := defaultColumnsFor dataset
  orderBy := defaultOrderFor dataset
  orderDirection := defaultOrderDirectionFor dataset
  rowLimit := 100

/-- `exampleSqlForDataset`. -/
def exampleSqlForDataset (dataset : AnalyticsDataset) : Except Str Str :=
  (exampleControls dataset).buildExploreSql

/-- The parts of a selector that are formatted are identifiers. -/
def HasIdentifierParts (selector : Str) : Prop :=
  ∀ part ∈ (selector.splitOn 46).take 2, isIdentifier part = true

/-- A name is formatted exactly when it is an identifier. -/
theorem exists_formatIdentifier {name : Str} :
    (∃ text, formatIdentifier name = .ok text) ↔ isIdentifier name = true := by
  simp only [formatIdentifier_eq_ok, exists_and_left, exists_eq, and_true]

/-- A selector is formatted exactly when its first two parts are identifiers. -/
theorem exists_formatColumnSelector {selector : Str} :
    (∃ text, formatColumnSelector selector = .ok text) ↔ HasIdentifierParts selector := by
  unfold HasIdentifierParts
  by_cases hdot : 46 ∈ selector
  · obtain ⟨before, after, rfl, hbefore⟩ := List.eq_append_cons_of_mem hdot
    rw [formatColumnSelector, if_neg (by simp),
      List.splitOn_append_cons_self_of_not_mem hbefore]
    obtain ⟨second, rest, hparts⟩ := List.exists_cons_of_ne_nil (List.splitOn_ne_nil 46 after)
    rw [hparts]
    simp only [bind_eq_ok, formatIdentifier_eq_ok, List.getD_cons_zero, List.getD_cons_succ,
      List.take_succ_cons, List.take_zero, List.forall_mem_cons]
    constructor
    · rintro ⟨_, _, ⟨hfirst, rfl⟩, _, ⟨hsecond, rfl⟩, -⟩
      exact ⟨hfirst, hsecond, by simp⟩
    · rintro ⟨hfirst, hsecond, -⟩
      exact ⟨_, _, ⟨hfirst, rfl⟩, _, ⟨hsecond, rfl⟩, rfl⟩
  · rw [formatColumnSelector_of_notMem hdot, List.splitOn_eq_singleton hdot,
      exists_formatIdentifier]
    simp

namespace ExploreControls

variable (controls : ExploreControls)

/-- The selectors taken when none of the selected ones is offered. -/
def defaults : List Str :=
  match controls.joinDataset with
  | none => defaultColumnsFor controls.dataset
  | some joinDataset => defaultColumnsForJoinedDatasets controls.dataset joinDataset

/-- What the text is made of can be formatted. -/
structure Formattable : Prop where
  base : isIdentifier controls.dataset.name = true
  join : ∀ join ∈ controls.activeJoin, isIdentifier join.dataset.name = true ∧
    isIdentifier join.leftColumn = true ∧ isIdentifier join.rightColumn = true
  selected : ∀ selector ∈ controls.selectedColumns, selector ∈ controls.offered →
    HasIdentifierParts selector
  defaults : (∀ selector ∈ controls.selectedColumns, selector ∉ controls.offered) →
    ∀ selector ∈ controls.defaults, HasIdentifierParts selector
  order : controls.orderBy ≠ [] → controls.orderBy ∈ controls.offered →
    HasIdentifierParts controls.orderBy

variable {controls}

/-- The selectors in use are the offered ones of the selection, or else the defaults. -/
theorem forall_projection {P : Str → Prop} :
    (∀ selector ∈ controls.projection, P selector) ↔
      (∀ selector ∈ controls.selectedColumns, selector ∈ controls.offered → P selector) ∧
        ((∀ selector ∈ controls.selectedColumns, selector ∉ controls.offered) →
          ∀ selector ∈ controls.defaults, P selector) := by
  have hprojection : controls.projection =
      if 0 < (controls.selectedColumns.filter (· ∈ controls.offered)).length then
        controls.selectedColumns.filter (· ∈ controls.offered)
      else controls.defaults := rfl
  rw [hprojection]
  split
  · next hlength =>
    obtain ⟨used, hused⟩ := List.exists_mem_of_length_pos hlength
    obtain ⟨hselected, hoffered⟩ := List.mem_filter.mp hused
    have hused : ¬∀ selector ∈ controls.selectedColumns, selector ∉ controls.offered :=
      fun h => h used hselected (of_decide_eq_true hoffered)
    simp [hused]
  · next hlength =>
    have hnone : ∀ selector ∈ controls.selectedColumns, selector ∉ controls.offered := by
      intro selector hs ho
      exact hlength (List.length_pos_of_mem (List.mem_filter.mpr ⟨hs, decide_eq_true ho⟩))
    constructor
    · exact fun h => ⟨fun selector hs ho => absurd ho (hnone selector hs), fun _ => h⟩
    · exact fun h => h.2 hnone

theorem exists_joinLines :
    (∃ lines, controls.joinLines = .ok lines) ↔ ∀ join ∈ controls.activeJoin,
      isIdentifier controls.dataset.name = true ∧ isIdentifier join.dataset.name = true ∧
        isIdentifier join.leftColumn = true ∧ isIdentifier join.rightColumn = true := by
  unfold joinLines
  cases controls.activeJoin with
  | none => simp
  | some join =>
    simp only [bind_eq_ok, formatIdentifier_eq_ok, Option.mem_some_iff, forall_eq']
    constructor
    · rintro ⟨_, _, ⟨hjoined, rfl⟩, _, ⟨hbase, rfl⟩, _, ⟨hleft, rfl⟩, _, ⟨hright, rfl⟩, -⟩
      exact ⟨hbase, hjoined, hleft, hright⟩
    · rintro ⟨hbase, hjoined, hleft, hright⟩
      exact ⟨_, _, ⟨hjoined, rfl⟩, _, ⟨hbase, rfl⟩, _, ⟨hleft, rfl⟩, _, ⟨hright, rfl⟩, rfl⟩

theorem exists_orderLines :
    (∃ lines, controls.orderLines = .ok lines) ↔
      (controls.orderBy ≠ [] → controls.orderBy ∈ controls.offered →
        HasIdentifierParts controls.orderBy) := by
  unfold orderLines
  rw [← and_imp, ← exists_formatColumnSelector]
  split
  · next hshown =>
    simp only [bind_eq_ok]
    constructor
    · rintro ⟨_, text, htext, -⟩ -
      exact ⟨text, htext⟩
    · intro h
      obtain ⟨text, htext⟩ := h hshown
      exact ⟨_, text, htext, rfl⟩
  · next hshown => exact iff_of_true ⟨[], rfl⟩ fun h => absurd h hshown

/-- The generated text exists exactly when everything it is made of can be formatted. -/
theorem exists_buildExploreSql :
    (∃ text, controls.buildExploreSql = .ok text) ↔ controls.Formattable := by
  have hcolumns : (∃ columns, controls.projection.mapM formatColumnSelector = .ok columns) ↔
      ∀ selector ∈ controls.projection, ∃ text, formatColumnSelector selector = .ok text :=
    exists_mapM_eq_ok
  simp only [exists_formatColumnSelector, forall_projection] at hcolumns
  unfold buildExploreSql
  simp only [bind_eq_ok]
  constructor
  · rintro ⟨_, columns, hc, base, hb, joinLines, hj, orderLines, ho, -⟩
    have hbase := exists_formatIdentifier.mp ⟨base, hb⟩
    obtain ⟨hselected, hdefaults⟩ := hcolumns.mp ⟨columns, hc⟩
    have hjoin := exists_joinLines.mp ⟨joinLines, hj⟩
    exact ⟨hbase, fun join hm => (hjoin join hm).2, hselected, hdefaults,
      exists_orderLines.mp ⟨orderLines, ho⟩⟩
  · intro h
    obtain ⟨columns, hc⟩ := hcolumns.mpr ⟨h.selected, h.defaults⟩
    obtain ⟨base, hb⟩ := exists_formatIdentifier.mpr h.base
    obtain ⟨joinLines, hj⟩ := exists_joinLines.mpr fun join hm => ⟨h.base, h.join join hm⟩
    obtain ⟨orderLines, ho⟩ := exists_orderLines.mpr h.order
    exact ⟨_, columns, hc, base, hb, joinLines, hj, orderLines, ho, rfl⟩

variable (controls)

/-- Neither the text of the controls nor the example of their dataset throws. -/
structure NeverThrows : Prop where
  preview : ∃ text, controls.buildExploreSql = .ok text
  example_sql : ∃ text, exampleSqlForDataset controls.dataset = .ok text

/-- The page renders exactly when the controls and the defaults of the dataset name
identifiers only. -/
theorem neverThrows_iff :
    controls.NeverThrows ↔
      controls.Formattable ∧ (exampleControls controls.dataset).Formattable := by
  rw [← exists_buildExploreSql, ← exists_buildExploreSql]
  exact ⟨fun h => ⟨h.preview, h.example_sql⟩, fun h => ⟨h.1, h.2⟩⟩

/-- A saved view whose column was given an upper-case alias takes the page down. -/
theorem capital_alias_throws :
    ¬∀ (host : ViewTableHost) (initial : Database) (calls : List ViewTableService.Call)
      (db : Database), Migrated initial → run (ViewTableService.step host) initial calls = some db →
      ∀ (faults : Faults) (controls : ExploreControls),
        controls.dataset ∈ AnalyticsCatalogService.listDatasets host faults db →
        (∀ joined ∈ controls.joinDataset,
          joined ∈ AnalyticsCatalogService.listDatasets host faults db) →
        controls.NeverThrows := by
  intro h
  have hnever := h totalsHost migratedDatabase [saveTotals] totalsDatabase migrated_migratedDatabase
    rfl (fun _ => false) (exampleControls totalsDataset) totalsDataset_mem nofun
  obtain ⟨text, htext⟩ := hnever.preview
  have hthrows : (exampleControls totalsDataset).buildExploreSql =
      .error (str "Invalid analytics identifier: Total") := by
    decide
  exact absurd (htext.symm.trans hthrows) nofun

end ExploreControls

end LiveData.Workspace

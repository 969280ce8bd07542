import LiveData.Analytics.Deployment
import LiveData.Analytics.ExploreStatement

/-!
# The names of an Explore statement

The catalog is read from the database that the statement is sent to, so that an accepted request
names relations and columns that exist. This is so from the second revision on, and not before.
-/

namespace LiveData.Analytics

/-- The database has a relation of that name with that column. -/
def Database.HasColumn (db : Database) (columnRef : ExploreColumnRef) : Prop :=
  ∃ relation, db.relations.lookup columnRef.datasetName = some relation ∧
    columnRef.columnName ∈ relation.columns.map Prod.fst

namespace QueryMeaning

/-- The relation is the base of the query or joined to it. -/
def Selects (meaning : QueryMeaning) (name : Str) : Prop :=
  name = meaning.base ∨ ∃ join ∈ meaning.joins, name = join.datasetName

/-- Every relation of the query exists, and every column exists in a relation that is selected
from. -/
structure Resolves (meaning : QueryMeaning) (db : Database) : Prop where
  relations : ∀ name, meaning.Selects name → name ∈ Dict.keys db.relations
  keys : ∀ join ∈ meaning.joins, join.leftKey.datasetName = meaning.base ∧
    db.HasColumn join.leftKey ∧ join.rightKey.datasetName = join.datasetName ∧
      db.HasColumn join.rightKey
  projection : ∀ columnRef ∈ meaning.projection,
    meaning.Selects columnRef.datasetName ∧ db.HasColumn columnRef
  orderBy : ∀ order ∈ meaning.orderBy,
    meaning.Selects order.1.datasetName ∧ db.HasColumn order.1

end QueryMeaning

/-! ## The catalog of a deployment -/

open ViewTableService

variable {service : ViewTableHost} {s : Schema} {faults : Faults}

/-- A listed dataset is built in, or a saved view with the columns it has. -/
theorem mem_listDatasets {db : Database} {dataset : AnalyticsDataset}
    (h : dataset ∈ AnalyticsCatalogService.listDatasets service faults db) :
    dataset ∈ datasets ∨ dataset.name ∈ Dict.keys db.viewTables ∧
      dataset.columns = db.columnsOf service.sqlglot.lower dataset.name := by
  unfold AnalyticsCatalogService.listDatasets at h
  split at h
  · next viewTables hl =>
    obtain rfl := Option.some.inj (attempt_eq_ok.mp hl).2
    rcases List.mem_append.mp h with h | h
    · exact Or.inl h
    · obtain ⟨viewTable, hv, rfl⟩ := List.mem_map.mp h
      have hname := Database.mem_names_loadViewTables.mp (List.mem_map_of_mem hv)
      obtain ⟨item, -, rfl⟩ := List.mem_map.mp hv
      exact Or.inr ⟨hname, rfl⟩
  · exact Or.inl h

/-- The listed datasets have different names. -/
theorem Deployed.nodup_listDatasets (hs : Deployed s) :
    ((AnalyticsCatalogService.listDatasets service faults s.database).map
      AnalyticsDataset.name).Nodup := by
  unfold AnalyticsCatalogService.listDatasets
  split
  · next viewTables hl =>
    obtain rfl := Option.some.inj (attempt_eq_ok.mp hl).2
    have hnames : (s.database.loadViewTables service.sqlglot.lower none).map
        AnalyticsViewTable.name =
          (s.database.viewTables.insertionSort fun a b => a.1 ≤ b.1).map Prod.fst := by
      simp [Database.loadViewTables, Function.comp_def]
    have hperm := (List.perm_insertionSort (fun a b => a.1 ≤ b.1) s.database.viewTables).map
      Prod.fst
    rw [List.map_append, List.map_map]
    refine List.nodup_append'.mpr ⟨allowedDatasetNames_nodup, ?_, fun name ha hv => ?_⟩
    · change (List.map AnalyticsViewTable.name _).Nodup
      rw [hnames]
      exact hperm.nodup_iff.mpr hs.distinct
    · have hsaved := hs.saved name (Database.mem_names_loadViewTables.mp hv)
      exact hsaved.1 (List.mem_append_right _ ha)
  · exact allowedDatasetNames_nodup

theorem mem_listDatasets_of_builtin {db : Database} {dataset : AnalyticsDataset}
    (h : dataset ∈ datasets) :
    dataset ∈ AnalyticsCatalogService.listDatasets service faults db := by
  unfold AnalyticsCatalogService.listDatasets
  split
  · exact List.mem_append_left _ h
  · exact h

/-- From the second revision on, every listed dataset is a relation with the listed columns. -/
theorem Deployed.relation_of_listed (hs : Deployed s) (hr : 2 ≤ s.revision)
    {dataset : AnalyticsDataset}
    (hd : dataset ∈ AnalyticsCatalogService.listDatasets service faults s.database) :
    ∃ relation, s.database.relations.lookup dataset.name = some relation ∧
      relation.columns.map Prod.fst = datasetColumnNames dataset := by
  rcases mem_listDatasets hd with hd | ⟨hname, hcolumns⟩
  · obtain ⟨shape, hl, -, hnames⟩ := catalog_of_applied hr hs.revision_le hd
    have hprotected : dataset.name ∈ protectedRelations :=
      List.mem_append_right _ (List.mem_map_of_mem hd)
    have hshape := (hs.shapes dataset.name hprotected).trans hl
    rw [lookup_outline, Option.map_eq_some_iff] at hshape
    obtain ⟨relation, hrelation, rfl⟩ := hshape
    have hfirst := congrArg (List.map Prod.fst) hnames
    rw [List.map_map, List.map_map] at hfirst
    exact ⟨relation, hrelation, hfirst⟩
  · obtain ⟨relation, hrelation⟩ := Dict.mem_keys_iff.mp (hs.saved dataset.name hname).2
    refine ⟨relation, hrelation, ?_⟩
    rw [datasetColumnNames, hcolumns, Database.columnsOf, hrelation, List.map_map]
    rfl

theorem Deployed.hasColumn_of_owns (hs : Deployed s) (hr : 2 ≤ s.revision)
    {columnRef : ExploreColumnRef}
    (h : OwnsColumn (AnalyticsCatalogService.listDatasets service faults s.database) columnRef) :
    s.database.HasColumn columnRef := by
  obtain ⟨dataset, hd, hname, hc⟩ := h
  obtain ⟨relation, hrelation, hcolumns⟩ := hs.relation_of_listed hr hd
  exact ⟨relation, hname ▸ hrelation, hcolumns ▸ hc⟩

/-- An acceptable request resolves from the second revision on. -/
theorem Deployed.resolves (hs : Deployed s) (hr : 2 ≤ s.revision) {query : ExploreQuery}
    (h : Acceptable query.datasetName
      (AnalyticsCatalogService.listDatasets service faults s.database) query.columnRefs
        query.joins query.orderBy) : query.meaning.Resolves s.database := by
  have hselects : ∀ name, query.meaning.Selects name ↔
      name = query.datasetName ∨ ∃ join ∈ query.joins, name = join.datasetName := by
    intro name
    simp [QueryMeaning.Selects, ExploreQuery.meaning, ExploreJoin.meaning]
  have hknown : ∀ name, (∃ dataset ∈ AnalyticsCatalogService.listDatasets service faults
      s.database, dataset.name = name) → name ∈ Dict.keys s.database.relations := by
    rintro name ⟨dataset, hd, rfl⟩
    obtain ⟨relation, hrelation, -⟩ := hs.relation_of_listed hr hd
    exact Dict.mem_keys_iff.mpr ⟨relation, hrelation⟩
  refine ⟨fun name hn => ?_, fun join hj => ?_, fun columnRef hc => ?_, fun order ho => ?_⟩
  · rcases (hselects name).mp hn with rfl | ⟨join, hj, rfl⟩
    · exact hknown _ h.base_known
    · exact hknown _ (h.join_known join hj)
  · obtain ⟨requested, hq, rfl⟩ := List.mem_map.mp hj
    exact ⟨rfl, hs.hasColumn_of_owns hr (h.join_left requested hq), rfl,
      hs.hasColumn_of_owns hr (h.join_right requested hq)⟩
  · have hscope := h.columns_inScope columnRef hc
    exact ⟨(hselects _).mpr hscope.1, hs.hasColumn_of_owns hr hscope.2⟩
  · obtain ⟨columnRef, hc, rfl⟩ := Option.map_eq_some_iff.mp ho
    have hscope := h.order_inScope columnRef hc
    exact ⟨(hselects _).mpr hscope.1, hs.hasColumn_of_owns hr hscope.2⟩

/-- A request of one column of a built-in dataset. -/
theorem builtin_accepted (hs : Deployed s) :
    buildExploreQuery (str "event_type_counts")
        (AnalyticsCatalogService.listDatasets service faults s.database)
        [⟨str "event_type_counts", str "event_type"⟩] [] none .asc 1 =
      .ok ⟨str "event_type_counts", [⟨str "event_type_counts", str "event_type"⟩], [], none, .asc,
        1⟩ := by
  have hbuiltin : ∃ dataset ∈ datasets, dataset.name = str "event_type_counts" ∧
      str "event_type" ∈ datasetColumnNames dataset := by decide
  obtain ⟨dataset, hd, hname, hc⟩ := hbuiltin
  have hlisted : dataset ∈ AnalyticsCatalogService.listDatasets service faults s.database :=
    mem_listDatasets_of_builtin hd
  refine (buildExploreQuery_eq_ok hs.nodup_listDatasets).mpr ⟨?_, rfl⟩
  exact
    { base_known := ⟨dataset, hlisted, hname⟩
      one_join := Nat.zero_le 1
      join_known := nofun
      join_other := nofun
      join_left := nofun
      join_right := nofun
      columns_ne_nil := List.cons_ne_nil _ _
      columns_nodup := List.nodup_singleton _
      columns_inScope := List.forall_mem_singleton.mpr ⟨Or.inl rfl, dataset, hlisted, hname, hc⟩
      order_inScope := nofun }

/-- After every run, accepted requests become statements whose relations and columns all exist,
whatever was saved, exactly from the second revision on. -/
theorem explore_resolves_iff (host : MigrationHost) (service : ViewTableHost)
    (actions : List DeploymentAction) (s : Schema)
    (h : run (deploymentStep host service) {} actions = some s) (faults : Faults) :
    (∀ datasetName columnRefs joins orderBy orderDirection rowLimit query,
      buildExploreQuery datasetName
          (AnalyticsCatalogService.listDatasets service faults s.database) columnRefs joins orderBy
          orderDirection rowLimit = .ok query →
        ∃ statement, buildExploreSelectStatement query = .ok statement ∧
          statement.meaning.Resolves s.database) ↔ 2 ≤ s.revision := by
  have hs := deployed_of_run h
  constructor
  · intro hall
    obtain ⟨statement, hstatement, hresolves⟩ := hall _ _ _ _ _ _ _ (builtin_accepted hs)
    obtain ⟨statement', hstatement', hmeaning⟩ := buildExploreSelectStatement_meaning
      ⟨str "event_type_counts", [⟨str "event_type_counts", str "event_type"⟩], [], none, .asc, 1⟩
    obtain rfl := Except.ok.inj (hstatement.symm.trans hstatement')
    rw [hmeaning] at hresolves
    have hmem := hresolves.relations (str "event_type_counts") (Or.inl rfl)
    have hnone : ∀ revision < 2,
        (outline (applied revision)).lookup (str "event_type_counts") = none := by decide
    by_contra hr
    have hshape := hs.shapes (str "event_type_counts") (by decide)
    rw [hnone s.revision (Nat.lt_of_not_le hr), Dict.lookup_eq_none_iff, keys_outline] at hshape
    exact hshape hmem
  · intro hr datasetName columnRefs joins orderBy orderDirection rowLimit query hq
    obtain ⟨haccepted, rfl⟩ := (buildExploreQuery_eq_ok hs.nodup_listDatasets).mp hq
    obtain ⟨statement, hstatement, hmeaning⟩ := buildExploreSelectStatement_meaning _
    exact ⟨statement, hstatement, hmeaning ▸ hs.resolves hr haccepted⟩

/-- With the view of the run, a join of it with a built-in view resolves. -/
theorem labelled_join_resolves :
    ∃ statement, buildExploreSelectStatement
        ⟨labelledName, [⟨labelledName, str "c"⟩], [⟨str "event_type_counts", str "event_type",
          str "event_type", .left⟩], none, .asc, 10⟩ = .ok statement ∧
      statement.meaning.Resolves labelledSchema.database := by
  refine (explore_resolves_iff plainMigrationHost (eventsHost plainSource) labelledActions
    labelledSchema run_labelledActions fun _ => false).mpr (by decide +kernel) labelledName
      [⟨labelledName, str "c"⟩] [⟨str "event_type_counts", str "event_type", str "event_type",
        .left⟩] none .asc 10 _ ?_
  decide +kernel

/-- After every run a request becomes a statement exactly when it is acceptable, and is refused
with a reason otherwise: no dictionary is read at a missing key. -/
theorem explore_answered (host : MigrationHost) (service : ViewTableHost)
    (actions : List DeploymentAction) (s : Schema)
    (h : run (deploymentStep host service) {} actions = some s) (faults : Faults)
    (datasetName : Str) (columnRefs : List ExploreColumnRef) (joins : List ExploreJoin)
    (orderBy : Option ExploreColumnRef) (orderDirection : ExploreSortDirection) (rowLimit : Int) :
    ((∃ query statement, buildExploreQuery datasetName
        (AnalyticsCatalogService.listDatasets service faults s.database) columnRefs joins orderBy
        orderDirection rowLimit = .ok query ∧ buildExploreSelectStatement query = .ok statement) ↔
      Acceptable datasetName (AnalyticsCatalogService.listDatasets service faults s.database)
        columnRefs joins orderBy) ∧
    ((∃ reason message, buildExploreQuery datasetName
        (AnalyticsCatalogService.listDatasets service faults s.database) columnRefs joins orderBy
        orderDirection rowLimit = .error (.violation reason message)) ↔
      ¬Acceptable datasetName (AnalyticsCatalogService.listDatasets service faults s.database)
        columnRefs joins orderBy) := by
  have hn : ((AnalyticsCatalogService.listDatasets service faults s.database).map
      AnalyticsDataset.name).Nodup := (deployed_of_run h).nodup_listDatasets
  refine ⟨?_, exists_violation_iff hn⟩
  constructor
  · rintro ⟨query, -, hquery, -⟩
    exact ((buildExploreQuery_eq_ok hn).mp hquery).1
  · intro haccepted
    obtain ⟨statement, hstatement, -⟩ := buildExploreSelectStatement_meaning
      ⟨datasetName, columnRefs, joins, orderBy, orderDirection, min rowLimit 500⟩
    exact ⟨_, statement, (buildExploreQuery_eq_ok hn).mpr ⟨haccepted, rfl⟩, hstatement⟩

/-- With the view of the run, the events are not explored, and a join of the view is refused for
a column it does not have. -/
theorem labelled_requests_refused :
    (∃ reason message, buildExploreQuery (str "events")
      (AnalyticsCatalogService.listDatasets (eventsHost plainSource) (fun _ => false)
        labelledSchema.database) [⟨str "events", str "user_id"⟩] [] none .asc 10 =
          .error (.violation reason message)) ∧
    ∃ reason message, buildExploreQuery labelledName
      (AnalyticsCatalogService.listDatasets (eventsHost plainSource) (fun _ => false)
        labelledSchema.database) [⟨labelledName, str "c"⟩]
        [⟨str "event_type_counts", str "user_id", str "event_type", .left⟩] none .asc 10 =
          .error (.violation reason message) := by
  have hanswered := explore_answered plainMigrationHost (eventsHost plainSource) labelledActions
    labelledSchema run_labelledActions fun _ => false
  constructor
  · refine (hanswered _ _ _ _ _ _).2.mpr fun haccepted => ?_
    obtain ⟨dataset, hdataset, hname⟩ := haccepted.base_known
    have hnone : ∀ dataset ∈ AnalyticsCatalogService.listDatasets (eventsHost plainSource)
        (fun _ => false) labelledSchema.database, dataset.name ≠ str "events" := by decide +kernel
    exact hnone dataset hdataset hname
  · refine (hanswered _ _ _ _ _ _).2.mpr fun haccepted => ?_
    obtain ⟨dataset, hdataset, hname, hcolumn⟩ := haccepted.join_left _ (List.mem_singleton_self _)
    have hnone : ∀ dataset ∈ AnalyticsCatalogService.listDatasets (eventsHost plainSource)
        (fun _ => false) labelledSchema.database, dataset.name = labelledName →
          str "user_id" ∉ datasetColumnNames dataset := by decide +kernel
    exact hnone dataset hdataset hname hcolumn

end LiveData.Analytics

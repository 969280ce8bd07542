import LiveData.Analytics.ViewTableService
import LiveData.Core.Runs

/-!
# What one call of the view table service can do

A call leaves the database alone, or it saves one view with its row, or it removes one
view with its row. Everything else about a call is read off from this inversion.
-/

namespace LiveData.Analytics

open Sql

variable {host : ViewTableHost}

/-- The view template passes the text of its source on. -/
theorem sentText_buildCreateViewTableSql {name : Str} (h : isViewTableName name = true)
    (sourceSql : Str) : sentText host.wide (buildCreateViewTableSql name sourceSql) =
      (sentText host.wide sourceSql).map (buildCreateViewTableSql name) := by
  have hpercent : 37 ∉ str "CREATE OR REPLACE VIEW " ++ name ++ str " AS " :=
    notMem_around_name h rfl (by decide) (by decide)
  exact sentText_append hpercent (textClause_buildCreateViewTableSql h sourceSql)

/-- The grant passes the quoted role on. -/
theorem sentText_buildGrantViewTableSql {name : Str} (h : isViewTableName name = true)
    (roleName : Str) : sentText host.wide (buildGrantViewTableSql name roleName) =
      (sentText host.wide (quotedIdentifier roleName)).map fun grantee =>
        str "GRANT SELECT ON TABLE " ++ name ++ str " TO " ++ grantee := by
  have hpercent : 37 ∉ str "GRANT SELECT ON TABLE " ++ name ++ str " TO " :=
    notMem_around_name h rfl (by decide) (by decide)
  have hjoin : str " TO " = str " TO" ++ [32] := rfl
  refine sentText_append hpercent ?_
  rw [hjoin, textClause_template h (by decide) (by decide)]

namespace PostgresAnalyticsQueryRepository

@[simp] theorem definitionOf_buildCreateViewTableSql (name definition : Str) :
    definitionOf name (buildCreateViewTableSql name definition) = definition := by
  have hsplit : buildCreateViewTableSql name definition =
      buildCreateViewTableSql name [] ++ definition := by simp [buildCreateViewTableSql]
  rw [definitionOf, hsplit, List.drop_left]

@[simp] theorem granteeOf_append (name grantee : Str) :
    granteeOf name (str "GRANT SELECT ON TABLE " ++ name ++ str " TO " ++ grantee) = grantee :=
  List.drop_left

variable {db t : Database} {name : Str}

/-- The view is defined by the executed form of its source. -/
theorem createView_eq_some (hname : isViewTableName name = true) {sourceSql : Str}
    (h : createView host db name sourceSql = some t) :
    ∃ definition columns, sentText host.wide sourceSql = some definition ∧
      db.createOrReplaceView name ⟨definition, sourceRelations host.sqlglot definition⟩ columns =
        some t := by
  obtain ⟨sent, hsent, h⟩ := Option.bind_eq_some_iff.mp h
  rw [sentText_buildCreateViewTableSql hname, Option.map_eq_some_iff] at hsent
  obtain ⟨definition, hd, rfl⟩ := hsent
  obtain ⟨columns, -, h⟩ := Option.bind_eq_some_iff.mp h
  rw [definitionOf_buildCreateViewTableSql] at h
  exact ⟨definition, columns, hd, h⟩

/-- The grant goes to the executed form of the quoted role. -/
theorem grantView_eq_some (hname : isViewTableName name = true)
    (h : grantView host db name = some t) :
    ∃ grantee, sentText host.wide (quotedIdentifier host.readerRole) = some grantee ∧
      db.grantSelect name grantee = some t := by
  obtain ⟨sent, hsent, h⟩ := Option.bind_eq_some_iff.mp h
  rw [sentText_buildGrantViewTableSql hname, Option.map_eq_some_iff] at hsent
  obtain ⟨grantee, hg, rfl⟩ := hsent
  rw [granteeOf_append] at h
  exact ⟨grantee, hg, h⟩

end PostgresAnalyticsQueryRepository

namespace ViewTableService

open PostgresAnalyticsQueryRepository

/-- The name is neither a built-in dataset nor a source relation. -/
def Unreserved (name : Str) : Prop :=
  name ∉ Analytics.allowedDatasetNames ∧ name ∉ viewTableSourceRelationNames

theorem ensureNameIsNotReserved_eq_ok {name : Str} {u : Unit} :
    ensureNameIsNotReserved name = .ok u ↔ Unreserved name := by
  unfold ensureNameIsNotReserved Unreserved
  split
  · next h => simpa [← not_or] using h
  · next h => simpa [← not_or] using h

theorem isViewTableName_of_normalized {raw name : Str}
    (h : normalizedViewTableName host raw = .ok name) : isViewTableName name = true := by
  simp only [normalizedViewTableName] at h
  split at h
  · next hn => exact Except.ok.inj h ▸ hn
  · simp at h

/-- The effects of a call, with what holds when they happen. -/
inductive Effect (host : ViewTableHost) (db : Database) : Call → Database → Prop
  | created {rawName rawDescription rawSql : Str} {faults : Faults} {name description : Str}
      {query : ValidatedSqlQuery} {definition grantee : Str} {saved : StoredRelation}
      {t : Database}
      (hchecked : checkedCreate host faults db rawName rawDescription rawSql =
        .ok (name, description, query))
      (hdefinition : sentText host.wide query.sql = some definition)
      (hgrantee : sentText host.wide (quotedIdentifier host.readerRole) = some grantee)
      (hreads : ∀ relation ∈ sourceRelations host.sqlglot definition,
        relation ∈ Dict.keys db.relations)
      (hview : ∀ relation, db.relations.lookup name = some relation → relation.body.isSome)
      (hbody : saved.body = some ⟨definition, sourceRelations host.sqlglot definition⟩)
      (hgranted : grantee ∈ saved.grantees)
      (hrelations : ∀ other, t.relations.lookup other =
        if other = name then some saved else db.relations.lookup other)
      (hrows : t.viewTables = Dict.set db.viewTables name ⟨description, query.sql⟩) :
      Effect host db (.create rawName rawDescription rawSql faults) t
  | deleted {rawName : Str} {faults : Faults} {name : Str} {t : Database}
      (hchecked : checkedDelete host rawName = .ok name)
      (hview : ∀ relation, db.relations.lookup name = some relation →
        relation.body.isSome ∧ ¬db.HasDependents name)
      (hrelations : ∀ other, t.relations.lookup other =
        if other = name then none else db.relations.lookup other)
      (hrows : t.viewTables = Dict.erase db.viewTables name) :
      Effect host db (.delete rawName faults) t

variable {db t : Database} {name : Str}

/-- A name that passed the checks is well formed and unreserved. -/
theorem checkedCreate_eq_ok {faults : Faults} {rawName rawDescription rawSql description : Str}
    {query : ValidatedSqlQuery} (h : checkedCreate host faults db rawName rawDescription rawSql =
      .ok (name, description, query)) : normalizedViewTableName host rawName = .ok name ∧
        Unreserved name ∧ validateSourceSql host faults db rawSql 1 = .ok query := by
  simp only [checkedCreate, bind_eq_ok, pure, Except.pure, Except.ok.injEq, Prod.mk.injEq] at h
  obtain ⟨name', hn, description', -, ⟨⟩, hr, query', hq, rfl, rfl, rfl⟩ := h
  exact ⟨hn, ensureNameIsNotReserved_eq_ok.mp hr, hq⟩

theorem checkedDelete_eq_ok {rawName : Str} (h : checkedDelete host rawName = .ok name) :
    normalizedViewTableName host rawName = .ok name ∧ Unreserved name := by
  simp only [checkedDelete, bind_eq_ok, pure, Except.pure, Except.ok.injEq] at h
  obtain ⟨name', hn, ⟨⟩, hr, rfl⟩ := h
  exact ⟨hn, ensureNameIsNotReserved_eq_ok.mp hr⟩

/-- A committed creation returns a row and has its effect. -/
theorem effect_createTransaction {faults : Faults}
    {rawName rawDescription rawSql description : Str} {query : ValidatedSqlQuery}
    (hchecked : checkedCreate host faults db rawName rawDescription rawSql =
      .ok (name, description, query)) {viewTables : List AnalyticsViewTable}
    (h : createTransaction host faults db name description query.sql = .ok (viewTables, t)) :
    viewTables ≠ [] ∧ Effect host db (.create rawName rawDescription rawSql faults) t := by
  have hname := isViewTableName_of_normalized (checkedCreate_eq_ok hchecked).1
  simp only [createTransaction, bind_eq_ok, attempt_eq_ok, Option.some.injEq] at h
  obtain ⟨created, ⟨-, hcreated⟩, granted, ⟨-, hgranted⟩, saved, ⟨-, rfl⟩, loaded, ⟨-, rfl⟩, -,
      h⟩ :=
    h
  obtain ⟨rfl, rfl⟩ := Prod.mk.inj h
  refine ⟨Database.loadViewTables_upsertViewTable_ne_nil _ _ _, ?_⟩
  obtain ⟨definition, columns, hdefinition, hcreated⟩ := createView_eq_some hname hcreated
  obtain ⟨grantee, hgrantee, hgranted⟩ := grantView_eq_some hname hgranted
  obtain ⟨hreads, hview, hrows, view, hbody, hrelations⟩ :=
    Database.createOrReplaceView_eq_some hcreated
  obtain ⟨hrows', relation, hrelation, hrelations'⟩ := Database.grantSelect_eq_some hgranted
  rw [hrelations, if_pos rfl] at hrelation
  obtain rfl := Option.some.inj hrelation
  have hsaved : ({ view with grantees := view.grantees.insert grantee } : StoredRelation).body =
      some ⟨definition, sourceRelations host.sqlglot definition⟩ := hbody
  refine .created hchecked hdefinition hgrantee hreads hview hsaved List.mem_insert_self
    (fun other => ?_) ?_
  · rw [Database.relations_upsertViewTable, hrelations', hrelations]
    split <;> rfl
  · rw [Database.viewTables_upsertViewTable, hrows', hrows]

/-- A committed deletion has its effect. -/
theorem effect_deleteTransaction {faults : Faults} {rawName : Str}
    (hchecked : checkedDelete host rawName = .ok name)
    (h : deleteTransaction host faults db name = .ok t) :
    Effect host db (.delete rawName faults) t := by
  simp only [deleteTransaction, bind_eq_ok, attempt_eq_ok, Option.some.injEq] at h
  obtain ⟨dropped, ⟨-, hdropped⟩, deleted, ⟨-, rfl⟩, -, rfl⟩ := h
  obtain ⟨sent, -, hdropped⟩ := Option.bind_eq_some_iff.mp hdropped
  obtain ⟨hview, hrows, hrelations⟩ := Database.dropViewIfExists_eq_some hdropped
  refine .deleted hchecked hview hrelations ?_
  rw [Database.viewTables_deleteViewTable, hrows]

/-- A call raises and leaves the database alone, or it returns and has an effect. -/
theorem execute_cases (host : ViewTableHost) (db : Database) (call : Call) :
    (∃ e, execute host db call = (some e, db)) ∨
      (execute host db call).1 = none ∧ Effect host db call (execute host db call).2 := by
  cases call with
  | create rawName rawDescription rawSql faults =>
    simp only [execute, create]
    cases hc : checkedCreate host faults db rawName rawDescription rawSql with
    | error e => exact Or.inl ⟨_, rfl⟩
    | ok checked =>
      obtain ⟨name, description, query⟩ := checked
      simp only [createOrReplaceViewTable]
      cases attempt faults .selectCurrentUser (some ()) with
      | error e => exact Or.inl ⟨_, rfl⟩
      | ok u =>
        cases ht : createTransaction host faults db name description query.sql with
        | error e => exact Or.inl ⟨_, rfl⟩
        | ok committed =>
          obtain ⟨viewTables, t⟩ := committed
          obtain ⟨hne, heffect⟩ := effect_createTransaction hc ht
          cases viewTables with
          | nil => exact absurd rfl hne
          | cons viewTable viewTables => exact Or.inr ⟨rfl, heffect⟩
  | delete rawName faults =>
    simp only [execute, delete]
    cases hc : checkedDelete host rawName with
    | error e => exact Or.inl ⟨_, rfl⟩
    | ok name =>
      simp only [deleteViewTable]
      cases ht : deleteTransaction host faults db name with
      | error e => exact Or.inl ⟨_, rfl⟩
      | ok t => exact Or.inr ⟨rfl, effect_deleteTransaction hc ht⟩

/-- A call that raises leaves the database as it was. -/
theorem execute_of_raises {call : Call} {e : ServiceError}
    (h : (execute host db call).1 = some e) : (execute host db call).2 = db := by
  rcases execute_cases host db call with ⟨e, he⟩ | ⟨hnone, -⟩
  · rw [he]
  · simp [hnone] at h

/-- What the effect of a returning call keeps, every step keeps. -/
theorem step_induct {I : Database → Prop} {call : Call} (hs : I db)
    (heffect : ∀ t, (execute host db call).1 = none → Effect host db call t → I t)
    (h : step host db call = some t) : I t := by
  obtain rfl := Option.some.inj h
  rcases execute_cases host db call with ⟨e, he⟩ | ⟨hnone, he⟩
  · rwa [he]
  · exact heffect _ hnone he

/-- The catalog lists the built-in views and saved views. -/
theorem mem_allowedDatasetNames {faults : Faults}
    (h : name ∈ AnalyticsCatalogService.allowedDatasetNames host faults db) :
    name ∈ Analytics.allowedDatasetNames ∨ name ∈ Dict.keys db.viewTables := by
  unfold AnalyticsCatalogService.allowedDatasetNames AnalyticsCatalogService.listDatasets at h
  split at h
  · next viewTables hl =>
    obtain rfl := Option.some.inj (attempt_eq_ok.mp hl).2
    rw [List.map_append, List.mem_append, List.map_map] at h
    exact h.imp id fun h => Database.mem_names_loadViewTables.mp h
  · exact Or.inl h

/-- The rows are named as the checks require. -/
def WellNamed (db : Database) : Prop :=
  ∀ name ∈ Dict.keys db.viewTables, isViewTableName name = true

theorem Effect.wellNamed {call : Call} (h : Effect host db call t) (hs : WellNamed db) :
    WellNamed t := by
  intro other hother
  cases h with
  | created hchecked _ _ _ _ _ _ _ hrows =>
    rw [hrows, Dict.mem_keys_set] at hother
    rcases hother with rfl | hother
    · exact isViewTableName_of_normalized (checkedCreate_eq_ok hchecked).1
    · exact hs other hother
  | deleted _ _ _ hrows =>
    rw [hrows, Dict.mem_keys_erase] at hother
    exact hs other hother.1

/-- The rows are well named after every sequence of calls. -/
theorem wellNamed_of_run {initial : Database} (hm : Migrated initial) {calls : List Call}
    (hr : run (step host) initial calls = some db) : WellNamed db := by
  refine invariant_of_run (fun s call t hs ht => ?_) ?_ hr
  · exact step_induct hs (fun t _ he => he.wellNamed hs) ht
  · intro name hname
    rw [hm.rows] at hname
    exact absurd hname List.not_mem_nil

end ViewTableService

end LiveData.Analytics

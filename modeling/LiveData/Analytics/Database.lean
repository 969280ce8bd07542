import LiveData.Analytics.PolicySoundness
import LiveData.Analytics.SqlText
import LiveData.Core.Dict

/-!
# The analytics database

The relations of the public schema and the rows of `analytics_view_tables`, with the
statements the repository executes on them. A statement that fails returns nothing.
-/

namespace LiveData.Analytics

open Sql

/-- What a view selects: its text and the relations it was bound to. -/
structure ViewBody where
  definition : Str
  reads : List Str
  deriving DecidableEq, Repr

/-- A relation with the names and types of its columns and the roles that may read it, as
quoted in the grants. Only a view has a body. -/
structure StoredRelation where
  columns : List (Str × Str)
  grantees : List Str := []
  body : Option ViewBody := none
  deriving DecidableEq, Repr

/-- `AnalyticsViewTableRecord`, keyed by `name`. -/
structure AnalyticsViewTableRecord where
  description : Str
  sourceSql : Str
  deriving DecidableEq, Repr

/-- The relations and the rows of `analytics_view_tables`. -/
structure Database where
  relations : List (Str × StoredRelation)
  viewTables : List (Str × AnalyticsViewTableRecord)
  deriving DecidableEq

/-- The relations a query text reads. -/
def sourceRelations (sqlglot : Sqlglot) (sql : Str) : List Str :=
  ((parsedTree sqlglot sql).map relationsRead).getD []

/-- `column_kind_from_postgres_type`. -/
def columnKindFromPostgresType (lower : Str → Str) (dataType : Str) : ColumnKind :=
  let normalizedType := lower dataType
  if normalizedType ∈ [str "bigint", str "double precision", str "integer", str "numeric",
      str "real", str "smallint"] then .metric
  else if str "timestamp" <:+: normalizedType ∨ normalizedType ∈ [str "date", str "time"] then
    .temporal
  else .dimension

namespace Database

/-- `CREATE OR REPLACE VIEW`: every relation it reads exists, an old view is replaced when
its columns are extended, and its grants are kept. Cycles are not looked for. -/
def createOrReplaceView (db : Database) (name : Str) (body : ViewBody)
    (columns : List (Str × Str)) : Option Database :=
  if ∀ relation ∈ body.reads, relation ∈ Dict.keys db.relations then
    match db.relations.lookup name with
    | none => some { db with relations := Dict.set db.relations name ⟨columns, [], some body⟩ }
    | some ⟨_, _, none⟩ => none
    | some ⟨old, grantees, some _⟩ =>
      if old <+: columns then
        some { db with relations := Dict.set db.relations name ⟨columns, grantees, some body⟩ }
      else none
  else none

/-- `GRANT SELECT ON TABLE`. -/
def grantSelect (db : Database) (name grantee : Str) : Option Database :=
  (db.relations.lookup name).map fun relation =>
    { db with
      relations := Dict.set db.relations name
        { relation with grantees := relation.grantees.insert grantee } }

/-- Another view than `name` itself reads the relation. -/
def HasDependents (db : Database) (name : Str) : Prop :=
  ∃ item ∈ db.relations, item.1 ≠ name ∧ ∃ body ∈ item.2.body, name ∈ body.reads

instance (db : Database) (name : Str) : Decidable (db.HasDependents name) :=
  inferInstanceAs (Decidable (∃ item ∈ db.relations, _))

/-- `DROP VIEW IF EXISTS` without `CASCADE`. -/
def dropViewIfExists (db : Database) (name : Str) : Option Database :=
  match db.relations.lookup name with
  | none => some db
  | some ⟨_, _, none⟩ => none
  | some ⟨_, _, some _⟩ =>
    if db.HasDependents name then none
    else some { db with relations := Dict.erase db.relations name }

/-- `build_upsert_view_table_metadata_statement`, executed. -/
def upsertViewTable (db : Database) (name description sourceSql : Str) : Database :=
  { db with viewTables := Dict.set db.viewTables name ⟨description, sourceSql⟩ }

/-- `build_delete_view_table_metadata_statement`, executed. -/
def deleteViewTable (db : Database) (name : Str) : Database :=
  { db with viewTables := Dict.erase db.viewTables name }

/-- The columns `information_schema` lists for a name. -/
def columnsOf (lower : Str → Str) (db : Database) (name : Str) : List AnalyticsDatasetColumn :=
  match db.relations.lookup name with
  | some relation =>
    relation.columns.map fun c => ⟨c.1, c.1, columnKindFromPostgresType lower c.2⟩
  | none => []

/-- `load_view_tables`: one of the saved view tables, or all in the order of their names. -/
def loadViewTables (lower : Str → Str) (db : Database) (name : Option Str) :
    List AnalyticsViewTable :=
  ((db.viewTables.filter fun item => ∀ n ∈ name, item.1 = n).insertionSort
      fun a b => a.1 ≤ b.1).map fun item =>
    { name := item.1
      description := item.2.description
      sourceSql := item.2.sourceSql
      columns := db.columnsOf lower item.1 }

variable {db t : Database} {name : Str}

@[simp] theorem relations_upsertViewTable (description sourceSql : Str) :
    (db.upsertViewTable name description sourceSql).relations = db.relations := rfl
@[simp] theorem viewTables_upsertViewTable (description sourceSql : Str) :
    (db.upsertViewTable name description sourceSql).viewTables =
      Dict.set db.viewTables name ⟨description, sourceSql⟩ := rfl
@[simp] theorem viewTables_deleteViewTable :
    (db.deleteViewTable name).viewTables = Dict.erase db.viewTables name := rfl

/-- A view that was created reads relations that exist, and what it replaced was a view. -/
theorem createOrReplaceView_eq_some {body : ViewBody} {columns : List (Str × Str)}
    (h : db.createOrReplaceView name body columns = some t) :
    (∀ relation ∈ body.reads, relation ∈ Dict.keys db.relations) ∧
      (∀ relation, db.relations.lookup name = some relation → relation.body.isSome) ∧
      t.viewTables = db.viewTables ∧ ∃ created, created.body = some body ∧
        ∀ other, t.relations.lookup other =
          if other = name then some created else db.relations.lookup other := by
  unfold createOrReplaceView at h
  split at h
  · next hreads =>
    refine ⟨hreads, ?_⟩
    split at h
    · next hl =>
      obtain rfl := Option.some.inj h
      exact ⟨fun _ hr => by simp [hl] at hr, rfl, _, rfl, fun _ => Dict.lookup_set _ _ _ _⟩
    · simp at h
    · next old grantees previous hl =>
      split at h
      · obtain rfl := Option.some.inj h
        refine ⟨fun relation hr => ?_, rfl, _, rfl, fun _ => Dict.lookup_set _ _ _ _⟩
        obtain rfl := Option.some.inj (hl.symm.trans hr)
        rfl
      · simp at h
  · simp at h

/-- A grant adds its grantee to a relation that exists. -/
theorem grantSelect_eq_some {grantee : Str} (h : db.grantSelect name grantee = some t) :
    t.viewTables = db.viewTables ∧ ∃ relation, db.relations.lookup name = some relation ∧
      ∀ other, t.relations.lookup other =
        if other = name then some { relation with grantees := relation.grantees.insert grantee }
        else db.relations.lookup other := by
  obtain ⟨relation, hr, rfl⟩ := Option.map_eq_some_iff.mp h
  exact ⟨rfl, relation, hr, fun _ => Dict.lookup_set _ _ _ _⟩

/-- A view that was dropped was a view that no other view reads. -/
theorem dropViewIfExists_eq_some (h : db.dropViewIfExists name = some t) :
    (∀ relation, db.relations.lookup name = some relation →
      relation.body.isSome ∧ ¬db.HasDependents name) ∧
      t.viewTables = db.viewTables ∧ ∀ other, t.relations.lookup other =
        if other = name then none else db.relations.lookup other := by
  unfold dropViewIfExists at h
  split at h
  · next hl =>
    obtain rfl := Option.some.inj h
    refine ⟨fun _ hr => by simp [hl] at hr, rfl, fun other => ?_⟩
    by_cases ho : other = name <;> simp [ho, hl]
  · simp at h
  · next hl =>
    split at h
    · simp at h
    · next hd =>
      obtain rfl := Option.some.inj h
      refine ⟨fun relation hr => ?_, rfl, Dict.lookup_erase _ _⟩
      obtain rfl := Option.some.inj (hl.symm.trans hr)
      exact ⟨rfl, hd⟩

/-- The saved view tables, as loaded, have the names of the rows. -/
theorem mem_names_loadViewTables {lower : Str → Str} :
    name ∈ (db.loadViewTables lower none).map AnalyticsViewTable.name ↔
      name ∈ Dict.keys db.viewTables := by
  simp [loadViewTables, Dict.keys]

/-- Each row that is asked for is loaded with the columns of its relation. -/
theorem mem_loadViewTables {lower : Str → Str} (h : (Dict.keys db.viewTables).Nodup)
    {asked : Option Str} {viewTable : AnalyticsViewTable} :
    viewTable ∈ db.loadViewTables lower asked ↔ (∀ n ∈ asked, viewTable.name = n) ∧
      ∃ record, db.viewTables.lookup viewTable.name = some record ∧
        viewTable = ⟨viewTable.name, record.description, record.sourceSql,
          db.columnsOf lower viewTable.name⟩ := by
  simp only [loadViewTables, List.mem_map, List.mem_insertionSort, List.mem_filter,
    decide_eq_true_eq]
  constructor
  · rintro ⟨item, ⟨hitem, hasked⟩, rfl⟩
    exact ⟨hasked, item.2, (Dict.lookup_eq_some_iff h).mpr hitem, rfl⟩
  · rintro ⟨hasked, record, hrecord, hviewTable⟩
    exact ⟨(viewTable.name, record), ⟨Dict.mem_of_lookup hrecord, hasked⟩, hviewTable.symm⟩

/-- A row that was just written is loaded. -/
theorem loadViewTables_upsertViewTable_ne_nil (lower : Str → Str) (description sourceSql : Str) :
    (db.upsertViewTable name description sourceSql).loadViewTables lower (some name) ≠ [] := by
  have hrow := Dict.lookup_set db.viewTables name name
    (⟨description, sourceSql⟩ : AnalyticsViewTableRecord)
  rw [if_pos rfl] at hrow
  apply List.ne_nil_of_length_pos
  rw [loadViewTables, List.length_map, List.length_insertionSort]
  refine List.length_pos_of_mem (List.mem_filter.mpr ⟨Dict.mem_of_lookup hrow, ?_⟩)
  simp

end Database

/-- The relations no call may change. -/
def protectedRelations : List Str :=
  [str "events", str "analytics_view_tables"] ++ allowedDatasetNames

/-- The database after the migrations: the protected relations are there, exactly the
built-in ones are views, and no view table is saved. -/
structure Migrated (db : Database) : Prop where
  rows : db.viewTables = []
  present : ∀ name ∈ protectedRelations, name ∈ Dict.keys db.relations
  views : ∀ name relation, db.relations.lookup name = some relation →
    (relation.body.isSome ↔ name ∈ allowedDatasetNames)

/-- The tree of a query over one relation. -/
def selectTree (relation : Str) : Expression :=
  .node .select [.node .other [],
    .node .other [.node (.table { name := some ⟨relation, false⟩ }) [.node .other []]]]

/-- The type the migrations give a column of a built-in view. -/
def builtinColumnType : ColumnKind → Str
  | .dimension => str "text"
  | .metric => str "bigint"
  | .temporal => str "timestamptz"

/-- A migrated database; the texts of the built-in views and the columns of the two tables
are left out. -/
def migratedDatabase : Database where
  relations :=
    (str "events", { columns := [] }) :: (str "analytics_view_tables", { columns := [] }) ::
      datasets.map fun dataset =>
        (dataset.name,
          { columns := dataset.columns.map fun c => (c.name, builtinColumnType c.kind)
            body := some ⟨[], [str "events"]⟩ })
  viewTables := []

theorem migrated_migratedDatabase : Migrated migratedDatabase where
  rows := rfl
  present := by decide
  views := by
    intro name relation h
    have hall : ∀ item ∈ migratedDatabase.relations,
        item.2.body.isSome ↔ item.1 ∈ allowedDatasetNames := by decide
    exact hall (name, relation) (Dict.mem_of_lookup h)

end LiveData.Analytics

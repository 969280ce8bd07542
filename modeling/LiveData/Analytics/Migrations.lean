import LiveData.Analytics.ReaderGrants
import LiveData.Analytics.ViewTableEffects

/-!
# The migrations

The four revisions as lists of statements. A command runs the statements of several revisions,
up or down, in one transaction.
-/

namespace LiveData.Analytics

open Sql

/-! ## Statements -/

/-- A statement of a migration. -/
inductive MigrationStatement where
  | createTable (name : Str) (columns : List (Str × Str))
  | createIndex (name table : Str)
  | dropIndex (name : Str)
  | dropTable (name : Str)
  | createOrReplaceView (name : Str) (body : ViewBody) (columns : List (Str × Str))
  | dropViewIfExists (name : Str)
  /-- The `DO` statement that creates or hardens a role, and sets its password if there is one. -/
  | createOrUpdateRole (role : Str) (password : Option Str)
  /-- `ALTER ROLE`, and grants on the schema. -/
  | alterRole (role clause : Str)
  /-- `REVOKE CREATE ON SCHEMA public FROM PUBLIC`. -/
  | revokeCreate
  | revokeAllFromPublic (table : Str)
  | revokeAll (table role : Str)
  | grantSelect (tables : List Str) (role : Str)
  | revokeSelect (tables : List Str) (role : Str)
  deriving DecidableEq, Repr

/-- The database that the migrations run on, with the number of applied revisions, the indexes
with their tables and the roles, as quoted. -/
structure Schema where
  revision : Nat := 0
  database : Database := ⟨[], []⟩
  indexes : List (Str × Str) := []
  roles : List Str := []
  deriving DecidableEq

namespace Schema

/-- The relations with others in their place. -/
def withRelations (s : Schema) (relations : List (Str × StoredRelation)) : Schema :=
  { s with database := { s.database with relations := relations } }

/-- Change the grantees of relations, all of which exist. -/
def mapGrantees (s : Schema) (f : List Str → List Str) (names : List Str) : Option Schema :=
  if ∀ name ∈ names, name ∈ Dict.keys s.database.relations then
    some (s.withRelations (s.database.relations.map fun item =>
      if item.1 ∈ names then (item.1, { item.2 with grantees := f item.2.grantees }) else item))
  else none

/-- The schema without a table, its rows and its indexes. -/
def withoutTable (s : Schema) (name : Str) : Schema :=
  { s with
    database :=
      { relations := Dict.erase s.database.relations name
        viewTables := if name = str "analytics_view_tables" then [] else s.database.viewTables }
    indexes := s.indexes.filter fun index => index.2 ≠ name }

/-- `DROP TABLE` without `CASCADE`. -/
def dropTable (s : Schema) (name : Str) : Option Schema :=
  match s.database.relations.lookup name with
  | some ⟨_, _, none⟩ =>
    if s.database.HasDependents name then none else some (s.withoutTable name)
  | _ => none

/-- A statement, unless it fails. -/
def execute (s : Schema) : MigrationStatement → Option Schema
  | .createTable name columns =>
    if name ∈ Dict.keys s.database.relations then none
    else some (s.withRelations (Dict.set s.database.relations name { columns := columns }))
  | .createIndex name table =>
    if name ∈ Dict.keys s.indexes ∨ table ∉ Dict.keys s.database.relations then none
    else some { s with indexes := s.indexes ++ [(name, table)] }
  | .dropIndex name =>
    if name ∈ Dict.keys s.indexes then some { s with indexes := Dict.erase s.indexes name }
    else none
  | .dropTable name => s.dropTable name
  | .createOrReplaceView name body columns =>
    (s.database.createOrReplaceView name body columns).map fun database =>
      { s with database := database }
  | .dropViewIfExists name =>
    (s.database.dropViewIfExists name).map fun database => { s with database := database }
  | .createOrUpdateRole role _ => some { s with roles := s.roles.insert role }
  | .alterRole role _ => if role ∈ s.roles then some s else none
  | .revokeCreate => some s
  | .revokeAllFromPublic table =>
    if table ∈ Dict.keys s.database.relations then some s else none
  | .revokeAll table role =>
    if role ∈ s.roles then s.mapGrantees (·.erase role) [table] else none
  | .grantSelect tables role =>
    if role ∈ s.roles then s.mapGrantees (·.insert role) tables else none
  | .revokeSelect tables role =>
    if role ∈ s.roles then s.mapGrantees (·.erase role) tables else none

/-- A statement, unless it fails or the server refuses it for another reason. -/
def perform (refuses : MigrationStatement → Bool) (s : Schema) (statement : MigrationStatement) :
    Option Schema :=
  if refuses statement then none else s.execute statement

end Schema

/-! ## Revisions -/

/-- The columns of the events table. -/
def eventsColumns : List (Str × Str) :=
  [(str "event_id", str "text"), (str "schema_version", str "text"),
    (str "event_type", str "text"), (str "occurred_at", str "timestamp with time zone"),
    (str "user_id", str "text"), (str "traffic_phase", str "text"),
    (str "producer_id", str "text"), (str "page_path", str "text"),
    (str "category_id", str "text"), (str "product_id", str "text"),
    (str "amount", str "numeric"), (str "currency", str "text"), (str "error_code", str "text"),
    (str "error_message", str "text"), (str "ingested_at", str "timestamp with time zone")]

/-- The indexes of the events table, in the order of their creation. -/
def eventsIndexes : List Str :=
  [str "idx_events_occurred_at", str "idx_events_event_type", str "idx_events_user_id",
    str "idx_events_product_id"]

/-- The views with their columns, in the order of their creation. -/
def generatedViews : List (Str × List (Str × Str)) :=
  [(str "event_type_counts", [(str "event_type", str "text"), (str "event_count", str "bigint")]),
    (str "user_event_counts", [(str "user_id", str "text"), (str "event_count", str "bigint")]),
    (str "hourly_event_counts", [(str "event_hour", str "timestamp with time zone"),
      (str "event_type", str "text"), (str "event_count", str "bigint")]),
    (str "error_event_ratio", [(str "error_events", str "bigint"),
      (str "total_events", str "bigint"), (str "error_ratio", str "numeric")]),
    (str "commerce_funnel_counts", [(str "sort_order", str "integer"),
      (str "funnel_step", str "text"), (str "event_type", str "text"),
      (str "event_count", str "bigint")]),
    (str "product_event_counts", [(str "product_id", str "text"), (str "event_type", str "text"),
      (str "event_count", str "bigint")])]

/-- `VIEW_NAMES`. -/
def viewNames : List Str :=
  [str "product_event_counts", str "commerce_funnel_counts", str "error_event_ratio",
    str "hourly_event_counts", str "user_event_counts", str "event_type_counts"]

/-- `ANALYTICS_VIEW_NAMES`. -/
def analyticsViewNames : List Str :=
  [str "event_type_counts", str "user_event_counts", str "hourly_event_counts",
    str "error_event_ratio", str "commerce_funnel_counts", str "product_event_counts"]

/-- The columns of the table of saved views. -/
def viewTablesColumns : List (Str × Str) :=
  [(str "name", str "text"), (str "description", str "text"), (str "source_sql", str "text"),
    (str "created_at", str "timestamp with time zone"),
    (str "updated_at", str "timestamp with time zone")]

/-- The parameters that are set for the role, and reset. -/
def roleParameters : List (Str × Str) :=
  [(str "default_transaction_read_only", str "on"), (str "statement_timeout", str "'3s'"),
    (str "idle_in_transaction_session_timeout", str "'5s'")]

/-- `make_url`, and the keywords that `quote_ident` quotes. -/
structure MigrationHost where
  makeUrl : Str → Option DatabaseUrl
  keyword : Str → Bool

/-- The statements that prepare the reader role. -/
def readerRoleStatements (host : MigrationHost) (role : AnalyticsReaderRole) :
    List MigrationStatement :=
  let quotedRole := quoteIdent host.keyword role.name
  .createOrUpdateRole quotedRole role.password ::
    (roleParameters.map fun parameter =>
      .alterRole quotedRole (str "SET " ++ parameter.1 ++ str " = " ++ parameter.2)) ++
    [.revokeCreate, .alterRole quotedRole (str "GRANT USAGE ON SCHEMA public"),
      .revokeAllFromPublic (str "events"), .revokeAll (str "events") quotedRole,
      .grantSelect analyticsViewNames quotedRole]

/-- The statements that undo the grants of the reader role. -/
def revokeStatements (host : MigrationHost) (role : AnalyticsReaderRole) :
    List MigrationStatement :=
  let quotedRole := quoteIdent host.keyword role.name
  [.revokeSelect analyticsViewNames quotedRole,
      .alterRole quotedRole (str "REVOKE USAGE ON SCHEMA public")] ++
    roleParameters.map fun parameter => .alterRole quotedRole (str "RESET " ++ parameter.1)

variable (host : MigrationHost)

/-- The statements of the next revision. -/
def upgradeStatements (rawUrl : Option Str) : Nat → Except Str (List MigrationStatement)
  | 0 =>
    .ok (.createTable (str "events") eventsColumns ::
      eventsIndexes.map fun index => .createIndex index (str "events"))
  | 1 =>
    .ok (generatedViews.map fun view => .createOrReplaceView view.1 ⟨[], [str "events"]⟩ view.2)
  | 2 => (analyticsReaderRoleFromEnv host.makeUrl rawUrl).map fun role =>
    (role.map (readerRoleStatements host)).getD []
  | _ => .ok [.createTable (str "analytics_view_tables") viewTablesColumns]

/-- The statements that undo a revision. -/
def downgradeStatements (rawUrl : Option Str) : Nat → Except Str (List MigrationStatement)
  | 0 => .ok (eventsIndexes.reverse.map .dropIndex ++ [.dropTable (str "events")])
  | 1 => .ok (viewNames.map .dropViewIfExists)
  | 2 => (analyticsReaderRoleFromEnv host.makeUrl rawUrl).map fun role =>
    (role.map (revokeStatements host)).getD []
  | _ => .ok [.dropTable (str "analytics_view_tables")]

/-! ## Commands -/

/-- The environment of a command: the address of the analytics database, and the statements that
do not get through to the server or that it refuses. -/
structure MigrationEnvironment where
  rawUrl : Option Str
  refuses : MigrationStatement → Bool

namespace Schema

/-- Run the statements of a revision, if there are any to run, and record where it leads. -/
def migrateTo (env : MigrationEnvironment) (revision : Nat)
    (statements : Except Str (List MigrationStatement)) (s : Schema) : Option Schema :=
  match statements with
  | .error _ => none
  | .ok statements =>
    (run (perform env.refuses) s statements).map fun t => { t with revision := revision }

/-- One revision up. -/
def upgradeOnce (env : MigrationEnvironment) (s : Schema) : Option Schema :=
  if s.revision < 4 then
    s.migrateTo env (s.revision + 1) (upgradeStatements host env.rawUrl s.revision)
  else none

/-- One revision down. -/
def downgradeOnce (env : MigrationEnvironment) (s : Schema) : Option Schema :=
  match s.revision with
  | 0 => none
  | revision + 1 => s.migrateTo env revision (downgradeStatements host env.rawUrl revision)

/-- `alembic upgrade` by a number of revisions, in one transaction. -/
def upgrade (env : MigrationEnvironment) : Nat → Schema → Option Schema
  | 0, s => some s
  | count + 1, s => (s.upgradeOnce host env).bind (upgrade env count)

/-- `alembic downgrade` by a number of revisions, in one transaction. -/
def downgrade (env : MigrationEnvironment) : Nat → Schema → Option Schema
  | 0, s => some s
  | count + 1, s => (s.downgradeOnce host env).bind (downgrade env count)

end Schema

end LiveData.Analytics

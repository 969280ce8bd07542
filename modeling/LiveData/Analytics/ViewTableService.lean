import LiveData.Analytics.Database

/-!
# The view table service

`ViewTableService.create` and `delete` over the repository, statement by statement. Each
call comes with the statements that fail during it; a transaction commits all of its
statements or none.
-/

namespace LiveData.Analytics

open Sql

/-- What the service calls besides the database: sqlglot with `str.lower`, `str.strip`, the
word characters of `text()`, the policy, the role of the read session and the columns
PostgreSQL derives for a query text, if it accepts it. -/
structure ViewTableHost where
  sqlglot : Sqlglot
  strip : Str → Str
  wide : Nat → Bool
  policy : AnalyticsSqlPolicy
  readerRole : Str
  outputColumns : Database → Str → Option (List (Str × Str))

/-- The statements that can fail. -/
inductive Statement where
  | listViewTables
  | selectCurrentUser
  | createView
  | grant
  | upsertMetadata
  | reload
  | dropView
  | deleteMetadata
  | commit
  deriving DecidableEq, Repr

/-- The statements that fail during one call. -/
abbrev Faults := Statement → Bool

/-- `EventAnalyticsDatabaseExecutionError`. -/
inductive DatabaseError where
  | executionError
  deriving DecidableEq, Repr

/-- The reasons of `EventAnalyticsViewTableValidationError`. -/
inductive ViewTableRejectionReason where
  | invalidViewTableName
  | viewTableDescriptionTooLong
  | reservedViewTableName
  | policy (reason : SqlPolicyRejectionReason)
  deriving DecidableEq, Repr

/-- What a call raises. -/
inductive ServiceError where
  | viewTableValidation (reason : ViewTableRejectionReason) (message : Str)
  | viewTableExecutionUnavailable
  | escaped (error : EscapedError)
  | indexError
  deriving DecidableEq, Repr

/-- Execute a statement, which fails by itself or by a fault. -/
def attempt {α : Type} (faults : Faults) (statement : Statement) (outcome : Option α) :
    Except DatabaseError α :=
  if faults statement then .error .executionError
  else
    match outcome with
    | some a => .ok a
    | none => .error .executionError

theorem attempt_eq_ok {α : Type} {faults : Faults} {statement : Statement} {outcome : Option α}
    {a : α} : attempt faults statement outcome = .ok a ↔
      faults statement = false ∧ outcome = some a := by
  unfold attempt
  cases faults statement <;> cases outcome <;> simp

variable (host : ViewTableHost)

namespace PostgresAnalyticsQueryRepository

/-- `list_view_tables`. -/
def listViewTables (faults : Faults) (db : Database) :
    Except DatabaseError (List AnalyticsViewTable) :=
  attempt faults .listViewTables (some (db.loadViewTables host.sqlglot.lower none))

/-- The view definition in an executed `CREATE OR REPLACE VIEW` statement. -/
def definitionOf (name sent : Str) : Str := sent.drop (buildCreateViewTableSql name []).length

/-- The grantee in an executed `GRANT` statement. -/
def granteeOf (name sent : Str) : Str :=
  sent.drop (str "GRANT SELECT ON TABLE " ++ name ++ str " TO ").length

/-- The first statement of the transaction: a parameter in the text raises. -/
def createView (db : Database) (name sourceSql : Str) : Option Database := do
  let sent ← sentText host.wide (buildCreateViewTableSql name sourceSql)
  let definition := definitionOf name sent
  let columns ← host.outputColumns db definition
  db.createOrReplaceView name ⟨definition, sourceRelations host.sqlglot definition⟩ columns

/-- The second statement of the transaction. -/
def grantView (db : Database) (name : Str) : Option Database := do
  let sent ← sentText host.wide (buildGrantViewTableSql name host.readerRole)
  db.grantSelect name (granteeOf name sent)

/-- The transaction of `create_or_replace_view_table`. -/
def createTransaction (faults : Faults) (db : Database) (name description sourceSql : Str) :
    Except DatabaseError (List AnalyticsViewTable × Database) := do
  let created ← attempt faults .createView (createView host db name sourceSql)
  let granted ← attempt faults .grant (grantView host created name)
  let saved ← attempt faults .upsertMetadata
    (some (granted.upsertViewTable name description sourceSql))
  let viewTables ← attempt faults .reload
    (some (saved.loadViewTables host.sqlglot.lower (some name)))
  attempt faults .commit (some (viewTables, saved))

/-- `create_or_replace_view_table`; the first reloaded row is taken after the commit. -/
def createOrReplaceViewTable (faults : Faults) (db : Database) (name description sourceSql : Str) :
    Except ServiceError AnalyticsViewTable × Database :=
  match attempt faults .selectCurrentUser (some ()) with
  | .error _ => (.error .viewTableExecutionUnavailable, db)
  | .ok () =>
    match createTransaction host faults db name description sourceSql with
    | .error _ => (.error .viewTableExecutionUnavailable, db)
    | .ok (viewTable :: _, committed) => (.ok viewTable, committed)
    | .ok ([], committed) => (.error .indexError, committed)

/-- The transaction of `delete_view_table`. -/
def deleteTransaction (faults : Faults) (db : Database) (name : Str) :
    Except DatabaseError Database := do
  let dropped ← attempt faults .dropView
    ((sentText host.wide (buildDropViewTableSql name)).bind fun _ => db.dropViewIfExists name)
  let deleted ← attempt faults .deleteMetadata (some (dropped.deleteViewTable name))
  attempt faults .commit (some deleted)

/-- `delete_view_table`. -/
def deleteViewTable (faults : Faults) (db : Database) (name : Str) :
    Except ServiceError Unit × Database :=
  match deleteTransaction host faults db name with
  | .error _ => (.error .viewTableExecutionUnavailable, db)
  | .ok committed => (.ok (), committed)

end PostgresAnalyticsQueryRepository

open PostgresAnalyticsQueryRepository

/-- `dataset_from_view_table`. -/
def datasetFromViewTable (viewTable : AnalyticsViewTable) : AnalyticsDataset where
  name := viewTable.name
  label := viewTable.name
  description := viewTable.description
  columns := viewTable.columns
  origin := .viewTable

namespace AnalyticsCatalogService

/-- `list_datasets`: without the database there are the built-in datasets. -/
def listDatasets (faults : Faults) (db : Database) : List AnalyticsDataset :=
  match listViewTables host faults db with
  | .ok viewTables => getDatasets ++ viewTables.map datasetFromViewTable
  | .error _ => getDatasets

/-- `allowed_dataset_names`. -/
def allowedDatasetNames (faults : Faults) (db : Database) : List Str :=
  (listDatasets host faults db).map AnalyticsDataset.name

end AnalyticsCatalogService

/-- `MAX_VIEW_TABLE_ROW_LIMIT`. -/
def maxViewTableRowLimit : Int := 100

/-- `MAX_VIEW_TABLE_DESCRIPTION_LENGTH`. -/
def maxViewTableDescriptionLength : Nat := 240

/-- `VIEW_TABLE_SOURCE_RELATION_NAMES`. -/
def viewTableSourceRelationNames : List Str := [str "events"]

/-- `normalized_view_table_name`. -/
def normalizedViewTableName (name : Str) : Except ServiceError Str :=
  let normalizedName := host.sqlglot.lower (host.strip name)
  if isViewTableName normalizedName then .ok normalizedName
  else
    .error (.viewTableValidation .invalidViewTableName
      (str "view table 이름은 소문자/숫자/underscore만 사용할 수 있습니다."))

/-- `normalized_view_table_description`. -/
def normalizedViewTableDescription (description : Str) : Except ServiceError Str :=
  let normalizedDescription := host.strip description
  if maxViewTableDescriptionLength < normalizedDescription.length then
    .error (.viewTableValidation .viewTableDescriptionTooLong
      (str "view table 설명은 240자 이하만 허용합니다."))
  else .ok normalizedDescription

namespace ViewTableService

/-- `_ensure_name_is_not_reserved`. -/
def ensureNameIsNotReserved (name : Str) : Except ServiceError Unit :=
  if name ∈ Analytics.allowedDatasetNames ∨ name ∈ viewTableSourceRelationNames then
    .error (.viewTableValidation .reservedViewTableName
      (str "built-in dataset이나 원본 table 이름은 view table 이름으로 사용할 수 없습니다."))
  else .ok ()

/-- `_view_table_source_relations`. -/
def viewTableSourceRelations (faults : Faults) (db : Database) : List Str :=
  AnalyticsCatalogService.allowedDatasetNames host faults db ++ viewTableSourceRelationNames

/-- The error a policy error is raised as. -/
def raisedAs : ValidateError → ServiceError
  | .violation reason message => .viewTableValidation (.policy reason) message
  | .escaped error => .escaped error

/-- `_validate_source_sql`. -/
def validateSourceSql (faults : Faults) (db : Database) (sourceSql : Str)
    (requestedRowLimit : Int) : Except ServiceError ValidatedSqlQuery :=
  (host.policy.validate host.sqlglot sourceSql (min requestedRowLimit maxViewTableRowLimit)
    (some (viewTableSourceRelations host faults db))).mapError raisedAs

/-- What `create` checks before it writes. -/
def checkedCreate (faults : Faults) (db : Database) (name description sourceSql : Str) :
    Except ServiceError (Str × Str × ValidatedSqlQuery) := do
  let normalizedName ← normalizedViewTableName host name
  let normalizedDescription ← normalizedViewTableDescription host description
  ensureNameIsNotReserved normalizedName
  let validated ← validateSourceSql host faults db sourceSql 1
  return (normalizedName, normalizedDescription, validated)

/-- `create`. -/
def create (faults : Faults) (db : Database) (name description sourceSql : Str) :
    Except ServiceError AnalyticsDataset × Database :=
  match checkedCreate host faults db name description sourceSql with
  | .error e => (.error e, db)
  | .ok (normalizedName, normalizedDescription, validated) =>
    let saved := createOrReplaceViewTable host faults db normalizedName normalizedDescription
      validated.sql
    (saved.1.map datasetFromViewTable, saved.2)

/-- What `delete` checks before it writes. -/
def checkedDelete (name : Str) : Except ServiceError Str := do
  let normalizedName ← normalizedViewTableName host name
  ensureNameIsNotReserved normalizedName
  return normalizedName

/-- `delete`. -/
def delete (faults : Faults) (db : Database) (name : Str) : Except ServiceError Unit × Database :=
  match checkedDelete host name with
  | .error e => (.error e, db)
  | .ok normalizedName => deleteViewTable host faults db normalizedName

/-- A call of the service with the statements that fail during it. -/
inductive Call where
  | create (name description sourceSql : Str) (faults : Faults)
  | delete (name : Str) (faults : Faults)

/-- What a call raises, if it does, and the database after it. -/
def execute (db : Database) : Call → Option ServiceError × Database
  | .create name description sourceSql faults =>
    match create host faults db name description sourceSql with
    | (.error e, after) => (some e, after)
    | (.ok _, after) => (none, after)
  | .delete name faults =>
    match delete host faults db name with
    | (.error e, after) => (some e, after)
    | (.ok _, after) => (none, after)

/-- The database after a call. -/
def step (db : Database) (call : Call) : Option Database := some (execute host db call).2

end ViewTableService

end LiveData.Analytics

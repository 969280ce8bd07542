import LiveData.Analytics.Catalog
import LiveData.Sql.Syntax
import Mathlib.Data.List.Sort

/-!
# The SQL policy

`AnalyticsSqlPolicy.validate` with its checks in source order. What the policy takes
from outside is a parameter: the lower-casing of `str`, and the parser and the generator
of sqlglot with the exceptions they may raise.
-/

namespace LiveData.Analytics

open Sql

/-- Exceptions that are not policy violations. -/
inductive EscapedError where
  | tokenError
  | recursionError
  deriving DecidableEq, Repr

/-- How parsing fails. -/
inductive ParserFailure where
  | parseError
  | escaped (error : EscapedError)
  deriving DecidableEq, Repr

/-- What the policy calls: `str.lower`, which never loses a character, `sqlglot.parse`
and `Expression.sql`. -/
structure Sqlglot where
  lower : Str → Str
  eq_nil_of_lower : ∀ s, lower s = [] → s = []
  parse : Str → Except ParserFailure (List (Option Expression))
  generate : Expression → Except EscapedError Str

/-- `SqlPolicyRejectionReason`. -/
inductive SqlPolicyRejectionReason where
  | queryTooLong
  | parseError
  | multipleStatements
  | nonSelectStatement
  | unsafeCte
  | disallowedFunction
  | disallowedSelectInto
  | disallowedLockingRead
  | disallowedTableSample
  | disallowedSystemCatalog
  | crossSchemaRelation
  | unknownRelation
  | missingRelation
  deriving DecidableEq, Repr

/-- How validation fails: a policy violation, or an exception it does not convert. -/
inductive ValidateError where
  | violation (reason : SqlPolicyRejectionReason) (message : Str)
  | escaped (error : EscapedError)
  deriving DecidableEq, Repr

/-- `MAX_QUERY_ROW_LIMIT`. -/
def maxQueryRowLimit : Int := 500

/-- `MAX_QUERY_TEXT_LENGTH`. -/
def maxQueryTextLength : Nat := 4000

/-- `ALLOWED_FUNCTION_NAMES`. -/
def allowedFunctionNames : List Str :=
  [str "avg", str "count", str "date_trunc", str "max", str "min", str "round", str "sum",
    str "timestamp_trunc"]

/-- `SYSTEM_CATALOG_NAMES`. -/
def systemCatalogNames : List Str := [str "information_schema", str "pg_catalog"]

/-- SQL query accepted by the analytics policy. -/
structure ValidatedSqlQuery where
  sql : Str
  /-- The elements of the frozen set, without repetition. -/
  referencedRelations : List Str
  rowLimit : Int
  deriving DecidableEq, Repr

/-- The constructor arguments of the policy. -/
structure AnalyticsSqlPolicy where
  allowedRelations : List Str := allowedDatasetNames
  maxRowLimit : Int := maxQueryRowLimit

/-- Reject with a reason and a message when the condition holds. -/
def rejectIf (condition : Bool) (reason : SqlPolicyRejectionReason) (message : Str) :
    Except ValidateError Unit :=
  if condition then .error (.violation reason message) else .ok ()

@[simp] theorem rejectIf_eq_ok {condition : Bool} {reason : SqlPolicyRejectionReason}
    {message : Str} {u : Unit} : rejectIf condition reason message = .ok u ↔ condition = false := by
  cases condition <;> simp [rejectIf]

/-- `_ensure_query_length`. -/
def ensureQueryLength (sql : Str) : Except ValidateError Unit :=
  rejectIf (decide (maxQueryTextLength < sql.length)) .queryTooLong
    (str "analytics SQL은 4000자 이하만 허용합니다.")

/-- The statements of a text that are not empty. -/
def parsedExpressions (expressions : List (Option Expression)) : List Expression :=
  expressions.filterMap id

/-- `_parse_one_statement`, giving the one statement it requires. -/
def parseOneStatement (sqlglot : Sqlglot) (sql : Str) : Except ValidateError Expression :=
  match sqlglot.parse sql with
  | .error .parseError =>
    .error (.violation .parseError (str "SQL을 PostgreSQL SELECT 문으로 해석할 수 없습니다."))
  | .error (.escaped e) => .error (.escaped e)
  | .ok expressions =>
    match parsedExpressions expressions with
    | [expression] => .ok expression
    | _ =>
      .error (.violation .multipleStatements
        (str "SQL은 한 번에 하나의 SELECT 문만 실행할 수 있습니다."))

/-- Some node of the tree satisfies the test. -/
def anyNode (test : Node → Bool) (expression : Expression) : Bool :=
  expression.walk.any fun s => test s.label

/-- `isinstance(node, _MUTATING_EXPRESSIONS)`. -/
def isMutation : Node → Bool
  | .mutation _ => true
  | _ => false

/-- `_ensure_select_only`. -/
def ensureSelectOnly (expression : Expression) : Except ValidateError Unit := do
  rejectIf (expression.label ≠ .select) .nonSelectStatement
    (str "analytics SQL은 SELECT 문만 허용합니다.")
  rejectIf (anyNode isMutation expression) .unsafeCte
    (str "SELECT 내부에서도 데이터 변경 구문은 허용하지 않습니다.")

/-- The function call of a node. -/
def functionCall : Node → Option FunctionCall
  | .func call => some call
  | _ => none

/-- `_normalized_function_name`. -/
def normalizedFunctionName (sqlglot : Sqlglot) : FunctionCall → Str
  | .anonymous name => sqlglot.lower name
  | .known sqlName => sqlglot.lower sqlName

/-- `_ensure_function_surface_is_allowlisted`, stopping at the first bad call. -/
def ensureFunctionSurfaceIsAllowlisted (sqlglot : Sqlglot) (expression : Expression) :
    Except ValidateError Unit :=
  (expression.findAll functionCall).forM fun call =>
    rejectIf (normalizedFunctionName sqlglot call ∉ allowedFunctionNames) .disallowedFunction
      (str "analytics SQL에서는 허용되지 않은 함수입니다: " ++ normalizedFunctionName sqlglot call)

/-- `_ensure_bounded_select_shape`. -/
def ensureBoundedSelectShape (sqlglot : Sqlglot) (expression : Expression) :
    Except ValidateError Unit := do
  rejectIf (anyNode (· == .into) expression) .disallowedSelectInto
    (str "analytics SQL에서는 SELECT INTO를 허용하지 않습니다.")
  rejectIf (anyNode (· == .lock) expression) .disallowedLockingRead
    (str "analytics SQL에서는 locking read를 허용하지 않습니다.")
  rejectIf (anyNode (· == .tableSample) expression) .disallowedTableSample
    (str "analytics SQL에서는 TABLESAMPLE을 허용하지 않습니다.")
  ensureFunctionSurfaceIsAllowlisted sqlglot expression

/-- The alias of a common table expression, when it has one. -/
def cteAlias : Node → Option Str
  | .cte i => if i.text = [] then none else some i.text
  | _ => none

/-- The table reference of a node. -/
def tableReference : Node → Option TableReference
  | .table r => some r
  | _ => none

/-- The flat set of lower-cased names of all common table expressions of a tree. -/
def cteNames (sqlglot : Sqlglot) (expression : Expression) : List Str :=
  (expression.findAll cteAlias).map sqlglot.lower

/-- Add to a set kept as a list. -/
def addRelation (relations : List Str) (name : Str) : List Str :=
  if name ∈ relations then relations else relations ++ [name]

/-- One turn of the loop of `_extract_referenced_relations`. -/
def extractRelation (sqlglot : Sqlglot) (names relations : List Str) (table : TableReference) :
    Except ValidateError (List Str) :=
  let relationName := sqlglot.lower table.nameText
  if relationName ∈ names then .ok relations
  else
    let schemaName := sqlglot.lower table.db
    let catalogName := sqlglot.lower table.catalog
    if schemaName ∈ systemCatalogNames ∨ catalogName ∈ systemCatalogNames then
      .error (.violation .disallowedSystemCatalog
        (str "system catalog/schema relation은 허용하지 않습니다."))
    else if schemaName ≠ [] ∨ catalogName ≠ [] then
      .error (.violation .crossSchemaRelation
        (str "schema/catalog qualified relation은 허용하지 않습니다."))
    else .ok (addRelation relations relationName)

/-- `_extract_referenced_relations`. -/
def extractReferencedRelations (sqlglot : Sqlglot) (expression : Expression) :
    Except ValidateError (List Str) :=
  (expression.findAll tableReference).foldlM
    (extractRelation sqlglot (cteNames sqlglot expression)) []

/-- `", ".join(sorted(names))`. -/
def joinSorted (names : List Str) : Str :=
  List.intercalate (str ", ") (names.insertionSort (· ≤ ·))

/-- `_ensure_relations_are_allowlisted`. -/
def ensureRelationsAreAllowlisted (referencedRelations allowedRelations : List Str) :
    Except ValidateError Unit := do
  rejectIf referencedRelations.isEmpty .missingRelation
    (str "allowlist에 등록된 generated view를 하나 이상 조회해야 합니다.")
  let unknownRelations := referencedRelations.filter (· ∉ allowedRelations)
  rejectIf (!unknownRelations.isEmpty) .unknownRelation
    (str "허용되지 않은 relation입니다: " ++ joinSorted unknownRelations)

/-- `allowed_relations or self._allowed_relations`: an empty set is replaced like `None`. -/
def AnalyticsSqlPolicy.effectiveRelations (policy : AnalyticsSqlPolicy)
    (allowedRelations : Option (List Str)) : List Str :=
  match allowedRelations with
  | some (r :: rs) => r :: rs
  | _ => policy.allowedRelations

/-- `AnalyticsSqlPolicy.validate`. -/
def AnalyticsSqlPolicy.validate (policy : AnalyticsSqlPolicy) (sqlglot : Sqlglot) (sql : Str)
    (requestedRowLimit : Int) (allowedRelations : Option (List Str)) :
    Except ValidateError ValidatedSqlQuery := do
  ensureQueryLength sql
  let expression ← parseOneStatement sqlglot sql
  ensureSelectOnly expression
  ensureBoundedSelectShape sqlglot expression
  let referencedRelations ← extractReferencedRelations sqlglot expression
  ensureRelationsAreAllowlisted referencedRelations (policy.effectiveRelations allowedRelations)
  let generated ← (sqlglot.generate expression).mapError .escaped
  return { sql := generated
           referencedRelations := referencedRelations
           rowLimit := min requestedRowLimit policy.maxRowLimit }

end LiveData.Analytics

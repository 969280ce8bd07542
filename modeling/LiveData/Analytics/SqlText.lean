import LiveData.Analytics.QueryPolicy
import LiveData.Sql.Placeholders

/-!
# The statements of the analytics repository

The repository splices validated SQL into templates and hands the result to `text()`.
An accepted text reaches the database unchanged inside its wrapper exactly when it has
no colon that starts a parameter, no escaped colon and no placeholder.
-/

namespace LiveData.Analytics

open Sql

/-- One statement of a session: its compiled text, which is missing when compiling it raises,
and the parameter values given with it. -/
structure SentStatement where
  pieces : Option (List Piece)
  parameters : List (Str × Int) := []
  deriving DecidableEq, Repr

/-- Characters of a view table name after its first letter. -/
def isViewTableNameChar (c : Nat) : Bool := (97 ≤ c && c ≤ 122) || isDigit c || c == 95

/-- `VIEW_TABLE_NAME_PATTERN.fullmatch`. -/
def isViewTableName : Str → Bool
  | [] => false
  | c :: rest =>
    (97 ≤ c && c ≤ 122) && rest.all isViewTableNameChar && 2 ≤ rest.length && rest.length ≤ 50

/-- `build_limited_select_sql`. -/
def buildLimitedSelectSql (sql : Str) : Str :=
  str "SELECT * FROM (" ++ sql ++ str ") AS analytics_query LIMIT :row_limit"

/-- `build_create_view_table_sql`. -/
def buildCreateViewTableSql (name sourceSql : Str) : Str :=
  str "CREATE OR REPLACE VIEW " ++ name ++ str " AS " ++ sourceSql

/-- `quoted_identifier`. -/
def quotedIdentifier (identifier : Str) : Str :=
  34 :: identifier.flatMap (fun c => if c = 34 then [34, 34] else [c]) ++ [34]

/-- `build_grant_view_table_sql`. -/
def buildGrantViewTableSql (name roleName : Str) : Str :=
  str "GRANT SELECT ON TABLE " ++ name ++ str " TO " ++ quotedIdentifier roleName

/-- `build_drop_view_table_sql`. -/
def buildDropViewTableSql (name : Str) : Str := str "DROP VIEW IF EXISTS " ++ name

/-- `build_analytics_runtime_guard_sql`. -/
def buildAnalyticsRuntimeGuardSql : List Str :=
  [str "SET TRANSACTION READ ONLY",
    str "SET LOCAL search_path = public, pg_catalog",
    str "SET LOCAL statement_timeout = '3000ms'",
    str "SET LOCAL lock_timeout = '500ms'",
    str "SET LOCAL idle_in_transaction_session_timeout = '5000ms'"]

section

variable (wide : Nat → Bool)

/-- The statements of `_execute_statement`: the guards, then the statement itself. -/
def executeStatement (statement : Option (List Piece)) (parameters : List (Str × Int)) :
    List SentStatement :=
  buildAnalyticsRuntimeGuardSql.map (fun guardSql => { pieces := compiled wide guardSql }) ++
    [{ pieces := statement, parameters := parameters }]

/-- The statements of `execute_select`. -/
def executeSelect (sql : Str) (rowLimit : Int) : List SentStatement :=
  executeStatement wide (compiled wide (buildLimitedSelectSql sql))
    [(str "row_limit", rowLimit)]

/-- The statements of `preview_view_table_sql`, on the management session. -/
def previewViewTableSql (sourceSql : Str) (rowLimit : Int) : List SentStatement :=
  executeStatement wide (compiled wide (buildLimitedSelectSql sourceSql))
    [(str "row_limit", rowLimit)]

/-- The statement with which `create_or_replace_view_table` defines the view. -/
def createViewStatement (name sourceSql : Str) : SentStatement :=
  { pieces := compiled wide (buildCreateViewTableSql name sourceSql) }

/-- The wrapper around an unchanged text: its only parameter is the outer limit. -/
def limitedPieces (sql : Str) : List Piece :=
  chars (str "SELECT * FROM (") ++ chars sql ++ chars (str ") AS analytics_query LIMIT ") ++
    [.bind (str "row_limit")]

/-- The read of an accepted query: the compiled guards, then the unchanged text in its
wrapper with the value of the limit. -/
def limitedRead (query : ValidatedSqlQuery) : List SentStatement :=
  executeStatement wide (some (limitedPieces query.sql)) [(str "row_limit", query.rowLimit)]

/-- Whatever is accepted is sent unchanged by every statement built from it. -/
def SentAsValidated (policy : AnalyticsSqlPolicy) (sqlglot : Sqlglot) (sql : Str)
    (requestedRowLimit : Int) (allowedRelations : Option (List Str)) : Prop :=
  ∀ query, policy.validate sqlglot sql requestedRowLimit allowedRelations = .ok query →
    executeSelect wide query.sql query.rowLimit = limitedRead wide query ∧
      previewViewTableSql wide query.sql query.rowLimit = limitedRead wide query ∧
      ∀ name, isViewTableName name = true → createViewStatement wide name query.sql =
        { pieces := some (chars (buildCreateViewTableSql name query.sql)) }

end

variable {wide : Nat → Bool}

theorem isViewTableName_chars {name : Str} (h : isViewTableName name = true) :
    ∀ c ∈ name, isViewTableNameChar c = true := by
  cases name with
  | nil => simp [isViewTableName] at h
  | cons c rest =>
    simp only [isViewTableName, Bool.and_eq_true, List.all_eq_true] at h
    intro d hd
    rcases List.mem_cons.mp hd with rfl | hd
    · simp [isViewTableNameChar, h.1.1.1]
    · exact h.1.1.2 d hd

/-- Between two texts a view table name adds none but its own characters. -/
theorem notMem_around_name {name : Str} (h : isViewTableName name = true) {c : Nat}
    (hc : isViewTableNameChar c = false) {front back : Str} (hfront : c ∉ front)
    (hback : c ∉ back) : c ∉ front ++ name ++ back := by
  have hname : c ∉ name := by
    intro hmem
    rw [isViewTableName_chars h c hmem] at hc
    cases hc
  simp [hfront, hname, hback]

/-- A template with a view table name leaves the scan of what stands behind its last space
alone. -/
theorem textClause_template {name : Str} (h : isViewTableName name = true) {front back : Str}
    (hfront : 58 ∉ front) (hback : 58 ∉ back) (s : Str) :
    textClause wide (front ++ name ++ (back ++ [32]) ++ s) =
      chars (front ++ name ++ (back ++ [32])) ++ textClause wide s := by
  have hsplit : front ++ name ++ (back ++ [32]) ++ s = (front ++ name ++ back) ++ 32 :: s := by
    simp only [List.append_assoc, List.singleton_append]
  rw [hsplit, textClause_splice rfl (by decide) (by decide)
    (notMem_around_name h rfl hfront hback), List.append_assoc (front ++ name)]

/-- The wrapper leaves the scan of the text it wraps alone. -/
theorem textClause_buildLimitedSelectSql (sql : Str) :
    textClause wide (buildLimitedSelectSql sql) =
      chars (str "SELECT * FROM (") ++ textClause wide sql ++
        chars (str ") AS analytics_query LIMIT ") ++ [.bind (str "row_limit")] := by
  have hsplit : buildLimitedSelectSql sql = str "SELECT * FROM " ++
      40 :: (sql ++ 41 :: str " AS analytics_query LIMIT :row_limit") := by
    change (str "SELECT * FROM " ++ [40]) ++ sql ++ _ = _
    simp only [List.append_assoc, List.singleton_append]
    rfl
  have hopen : str "SELECT * FROM " ++ [40] = str "SELECT * FROM (" := rfl
  have htail : chars [41] ++ textClause wide (str " AS analytics_query LIMIT :row_limit") =
      chars (str ") AS analytics_query LIMIT ") ++ [.bind (str "row_limit")] := rfl
  rw [hsplit, textClause_splice rfl (by decide) (by decide) (by decide), hopen,
    textClause_before rfl (by decide) (by decide), htail]
  simp only [List.append_assoc]

/-- The view template leaves the scan of its source alone. -/
theorem textClause_buildCreateViewTableSql {name : Str} (h : isViewTableName name = true)
    (sourceSql : Str) : textClause wide (buildCreateViewTableSql name sourceSql) =
      chars (str "CREATE OR REPLACE VIEW " ++ name ++ str " AS ") ++ textClause wide sourceSql := by
  have hjoin : str " AS " = str " AS" ++ [32] := rfl
  rw [buildCreateViewTableSql, hjoin, textClause_template h (by decide) (by decide)]

/-- The parameter behind a text without placeholders is the only one that is found. -/
theorem numbered_limit {sql : Str} (h : ¬HasPlaceholder sql) :
    numbered [str "row_limit"] 0 (str "SELECT * FROM (" ++ (sql ++
      (str ") AS analytics_query LIMIT " ++ placeholder (str "row_limit")))) =
        some (limitedPieces sql) := by
  have hsplit : str ") AS analytics_query LIMIT " ++ placeholder (str "row_limit") =
      41 :: 32 :: (str "AS analytics_query LIMIT " ++ placeholder (str "row_limit")) := rfl
  have htail : numbered [str "row_limit"] 0
      (41 :: 32 :: (str "AS analytics_query LIMIT " ++ placeholder (str "row_limit"))) =
        some (chars (str ") AS analytics_query LIMIT ") ++ [.bind (str "row_limit")]) := rfl
  rw [numbered_append (by decide), hsplit, numbered_append_parenthesis (by decide) _ h, htail,
    limitedPieces]
  simp only [Option.map_some, List.append_assoc]

/-- The limited read is the unchanged text in its wrapper exactly when the scan keeps it and no
placeholder stands in it. -/
theorem compiled_buildLimitedSelectSql_iff (sql : Str) :
    compiled wide (buildLimitedSelectSql sql) = some (limitedPieces sql) ↔
      textClause wide sql = chars sql ∧ ¬HasPlaceholder sql := by
  constructor
  · intro h
    have hrendered : rendered (textClause wide (buildLimitedSelectSql sql)) =
        rendered (limitedPieces sql) := (rendered_numbered h).symm
    have hsql : rendered (textClause wide sql) = sql := by
      rw [textClause_buildLimitedSelectSql, limitedPieces] at hrendered
      simpa only [rendered_append, rendered_chars, List.append_cancel_left_eq,
        List.append_cancel_right_eq] using hrendered
    have hpieces : limitedPieces sql = chars (str "SELECT * FROM (" ++ sql) ++
        (chars (str ") AS analytics_query LIMIT ") ++ [.bind (str "row_limit")]) := by
      simp only [limitedPieces, chars_append, List.append_assoc]
    rw [compiled, hrendered, hpieces, rendered_append, rendered_chars] at h
    have hnone := not_hasPlaceholder_of_numbered h
    rw [hasPlaceholder_append_iff (by decide)] at hnone
    exact ⟨scan_eq_chars_of_rendered hsql, hnone⟩
  · rintro ⟨hleft, hnone⟩
    rw [compiled, textClause_buildLimitedSelectSql, hleft, ← numbered_limit hnone]
    simp only [rendered_append, rendered_chars, List.append_assoc, knownNames, bindNames_append,
      bindNames_chars]
    rfl

/-- The view is defined by the unchanged text exactly when the scan keeps it and no placeholder
stands in it. -/
theorem compiled_buildCreateViewTableSql_iff {name : Str} (h : isViewTableName name = true)
    (sourceSql : Str) : compiled wide (buildCreateViewTableSql name sourceSql) =
      some (chars (buildCreateViewTableSql name sourceSql)) ↔
        textClause wide sourceSql = chars sourceSql ∧ ¬HasPlaceholder sourceSql := by
  have hpercent : 37 ∉ str "CREATE OR REPLACE VIEW " ++ name ++ str " AS " :=
    notMem_around_name h rfl (by decide) (by decide)
  rw [compiled_eq_chars_iff, textClause_buildCreateViewTableSql h]
  change _ = chars (_ ++ sourceSql) ∧ ¬HasPlaceholder (_ ++ sourceSql) ↔ _
  rw [chars_append _ sourceSql, List.append_cancel_left_eq, hasPlaceholder_append_iff hpercent]

theorem executeStatement_inj {p q : Option (List Piece)} {parameters : List (Str × Int)} :
    executeStatement wide p parameters = executeStatement wide q parameters ↔ p = q := by
  simp [executeStatement]

/-- An accepted text is sent as validated on exactly the inputs whose regenerated SQL has
no parameter, no escaped colon and no placeholder. -/
theorem sentAsValidated_iff (wide : Nat → Bool) (policy : AnalyticsSqlPolicy) (sqlglot : Sqlglot)
    (sql : Str) (requestedRowLimit : Int) (allowedRelations : Option (List Str)) :
    SentAsValidated wide policy sqlglot sql requestedRowLimit allowedRelations ↔
      ∀ query, policy.validate sqlglot sql requestedRowLimit allowedRelations = .ok query →
        (¬HasBind wide query.sql ∧ ¬HasEscape wide query.sql) ∧ ¬HasPlaceholder query.sql := by
  apply forall_congr'
  intro query
  apply imp_congr_right
  intro _
  rw [← textClause_eq_chars_iff, executeSelect, previewViewTableSql, limitedRead,
    executeStatement_inj, compiled_buildLimitedSelectSql_iff]
  constructor
  · exact fun h => h.1
  · intro h
    refine ⟨h, h, fun name hn => ?_⟩
    rw [createViewStatement, (compiled_buildCreateViewTableSql_iff hn query.sql).mpr h]

/-- `SELECT event_type FROM event_type_counts WHERE event_type = '/users/:id'`. -/
def colonLiteral : Str :=
  str "SELECT event_type FROM event_type_counts WHERE event_type = '/users/:id'"

/-- The parser and generator on that text. -/
def colonLiteralSqlglot : Sqlglot where
  lower := asciiLower
  eq_nil_of_lower := eq_nil_of_asciiLower
  parse := fun sql =>
    if sql = colonLiteral then
      .ok [some (.node .select [.node .other [],
        .node .other [.node (.table { name := some ⟨str "event_type_counts", false⟩ })
          [.node .other []]],
        .node .other [.node .other [.node .other [.node .other []], .node .other []]]])]
    else .error .parseError
  generate := fun _ => .ok colonLiteral

/-- A path in a literal becomes a parameter of the executed statement. -/
theorem colonLiteral_not_sentAsValidated :
    ¬∀ (wide : Nat → Bool) (policy : AnalyticsSqlPolicy) (sqlglot : Sqlglot) (sql : Str)
      (requestedRowLimit : Int) (allowedRelations : Option (List Str)),
        SentAsValidated wide policy sqlglot sql requestedRowLimit allowedRelations := by
  intro h
  have hs := h (fun _ => false) {} colonLiteralSqlglot colonLiteral 100 none
    ⟨colonLiteral, [str "event_type_counts"], 100⟩ (by rfl)
  have hb := congrArg
    (fun sent => sent.map fun s : SentStatement => s.pieces.map (List.length ∘ bindNames)) hs.1
  exact absurd hb (by decide +kernel)

end LiveData.Analytics

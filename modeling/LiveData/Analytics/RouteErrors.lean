import LiveData.Analytics.PolicySoundness
import LiveData.Analytics.ViewTableService

/-!
# Answers to texts that fail validation

The services raise what the policy raises, as an exception of their own or unchanged; the
decorator of the routes turns the exceptions it knows into JSON answers. A text that is
not accepted gets a structured answer exactly when nothing but a policy violation leaves
the parser and the generator.
-/

namespace LiveData.Analytics

open Sql

/-- `EventAnalyticsRouteError`. -/
structure EventAnalyticsRouteError where
  statusCode : Nat
  errorCode : Str
  message : Str
  rejectedReason : Option Str
  deriving DecidableEq, Repr

/-- Exceptions no route maps. -/
inductive UnmappedError where
  | sqlglot (error : EscapedError)
  | indexError
  deriving DecidableEq, Repr

/-- What a service raises. -/
inductive RaisedError where
  | route (error : EventAnalyticsRouteError)
  | unmapped (error : UnmappedError)
  deriving DecidableEq, Repr

/-- The text of a rejection reason. -/
def SqlPolicyRejectionReason.text : SqlPolicyRejectionReason → Str
  | .queryTooLong => str "query_too_long"
  | .parseError => str "parse_error"
  | .multipleStatements => str "multiple_statements"
  | .nonSelectStatement => str "non_select_statement"
  | .unsafeCte => str "unsafe_cte"
  | .disallowedFunction => str "disallowed_function"
  | .disallowedSelectInto => str "disallowed_select_into"
  | .disallowedLockingRead => str "disallowed_locking_read"
  | .disallowedTableSample => str "disallowed_table_sample"
  | .disallowedSystemCatalog => str "disallowed_system_catalog"
  | .crossSchemaRelation => str "cross_schema_relation"
  | .unknownRelation => str "unknown_relation"
  | .missingRelation => str "missing_relation"

/-- The text of a reason of the view table service. -/
def ViewTableRejectionReason.text : ViewTableRejectionReason → Str
  | .invalidViewTableName => str "invalid_view_table_name"
  | .viewTableDescriptionTooLong => str "view_table_description_too_long"
  | .reservedViewTableName => str "reserved_view_table_name"
  | .policy reason => reason.text

/-- `EventAnalyticsSqlPolicyViolationError`. -/
def eventAnalyticsSqlPolicyViolationError (reason message : Str) : EventAnalyticsRouteError :=
  ⟨400, str "sql_policy_violation", message, some reason⟩

/-- `EventAnalyticsViewTableValidationError`. -/
def eventAnalyticsViewTableValidationError (reason message : Str) : EventAnalyticsRouteError :=
  ⟨400, str "view_table_violation", message, some reason⟩

/-- `EventAnalyticsViewTableExecutionUnavailableError`. -/
def eventAnalyticsViewTableExecutionUnavailableError : EventAnalyticsRouteError :=
  ⟨503, str "analytics_database_unavailable", str "analytics view table 요청을 실행할 수 없습니다.",
    none⟩

/-- A policy exception as the SQL Lab service raises it again. -/
def ValidateError.raised : ValidateError → RaisedError
  | .violation reason message =>
    .route (eventAnalyticsSqlPolicyViolationError reason.text message)
  | .escaped error => .unmapped (.sqlglot error)

/-- An exception of the view table service. -/
def ServiceError.raised : ServiceError → RaisedError
  | .viewTableValidation reason message =>
    .route (eventAnalyticsViewTableValidationError reason.text message)
  | .viewTableExecutionUnavailable => .route eventAnalyticsViewTableExecutionUnavailableError
  | .escaped error => .unmapped (.sqlglot error)
  | .indexError => .unmapped .indexError

/-- `AnalyticsErrorPayload`. -/
structure AnalyticsErrorPayload where
  errorCode : Str
  message : Str
  rejectedReason : Option Str
  deriving DecidableEq, Repr

/-- `AnalyticsErrorPayload.from_exception`. -/
def AnalyticsErrorPayload.fromException (error : EventAnalyticsRouteError) :
    AnalyticsErrorPayload :=
  ⟨error.errorCode, error.message, error.rejectedReason⟩

/-- How a route answers. -/
inductive RouteAnswer (α : Type) where
  | result (value : α)
  | json (statusCode : Nat) (content : AnalyticsErrorPayload)
  | serverError

/-- `map_event_analytics_route_errors` around a handler. -/
def mapEventAnalyticsRouteErrors {α : Type} : Except RaisedError α → RouteAnswer α
  | .ok value => .result value
  | .error (.route error) => .json error.statusCode (.fromException error)
  | .error (.unmapped _) => .serverError

/-- A structured answer 400 with a reason. -/
def RouteAnswer.IsRejection {α : Type} (answer : RouteAnswer α) : Prop :=
  ∃ errorCode message reason, answer = .json 400 ⟨errorCode, message, some reason⟩

/-- The answer to an exception. -/
abbrev RaisedError.answer (error : RaisedError) : RouteAnswer Unit :=
  mapEventAnalyticsRouteErrors (.error error)

section Validate

variable (policy : AnalyticsSqlPolicy) (sqlglot : Sqlglot) (sql : Str) (requestedRowLimit : Int)
  (allowedRelations : Option (List Str))

/-- Validation returns or raises a policy violation, which every route answers as one. -/
structure FailsByPolicyOnly : Prop where
  outcome : (∃ query, policy.validate sqlglot sql requestedRowLimit allowedRelations = .ok query) ∨
    ∃ reason message, policy.validate sqlglot sql requestedRowLimit allowedRelations =
      .error (.violation reason message)
  sqlLab : ∀ error, policy.validate sqlglot sql requestedRowLimit allowedRelations =
    .error error → error.raised.answer.IsRejection
  viewTable : ∀ error, policy.validate sqlglot sql requestedRowLimit allowedRelations =
    .error error → (ViewTableService.raisedAs error).raised.answer.IsRejection

/-- The statement passes the checks made before it is regenerated. -/
structure PassesChecks (expression : Expression) : Prop where
  selectOnly : ensureSelectOnly expression = .ok ()
  bounded : ensureBoundedSelectShape sqlglot expression = .ok ()
  relations : ∃ names, extractReferencedRelations sqlglot expression = .ok names ∧
    ensureRelationsAreAllowlisted names (policy.effectiveRelations allowedRelations) = .ok ()

/-- The text is too long to be parsed, or neither parsing it nor regenerating the accepted
statement raises an exception of its own. -/
def NothingEscapes : Prop :=
  maxQueryTextLength < sql.length ∨
    ((∀ error, sqlglot.parse sql ≠ .error (.escaped error)) ∧
      ∀ expression, parsedTree sqlglot sql = some expression →
        PassesChecks policy sqlglot allowedRelations expression →
          ∃ text, sqlglot.generate expression = .ok text)

end Validate

/-- An exception no route maps is not answered with a rejection. -/
theorem not_isRejection_unmapped (error : UnmappedError) :
    ¬(RaisedError.unmapped error).answer.IsRejection := by
  rintro ⟨_, _, _, h⟩
  cases h

/-- SQL Lab is answered with a rejection exactly for policy violations. -/
theorem ValidateError.isRejection_answer (error : ValidateError) :
    error.raised.answer.IsRejection ↔ ∃ reason message, error = .violation reason message := by
  cases error with
  | violation reason message => exact iff_of_true ⟨_, _, _, rfl⟩ ⟨reason, message, rfl⟩
  | escaped error => exact iff_of_false (not_isRejection_unmapped _) (by simp)

/-- So is the view table service. -/
theorem ViewTableService.isRejection_answer (error : ValidateError) :
    (raisedAs error).raised.answer.IsRejection ↔
      ∃ reason message, error = .violation reason message := by
  cases error with
  | violation reason message => exact iff_of_true ⟨_, _, _, rfl⟩ ⟨reason, message, rfl⟩
  | escaped error => exact iff_of_false (not_isRejection_unmapped _) (by simp)

theorem rejectIf_ne_escaped {condition : Bool} {reason : SqlPolicyRejectionReason}
    {message : Str} {e : EscapedError} :
    rejectIf condition reason message ≠ .error (.escaped e) := by
  cases condition <;> simp [rejectIf]

/-- Only the parser makes the second check raise anything else. -/
theorem parseOneStatement_eq_escaped {sqlglot : Sqlglot} {sql : Str} {e : EscapedError} :
    parseOneStatement sqlglot sql = .error (.escaped e) ↔
      sqlglot.parse sql = .error (.escaped e) := by
  unfold parseOneStatement
  cases sqlglot.parse sql with
  | error failure => cases failure <;> simp
  | ok expressions => dsimp only; split <;> simp

theorem ensureSelectOnly_ne_escaped {expression : Expression} {e : EscapedError} :
    ensureSelectOnly expression ≠ .error (.escaped e) :=
  bind_ne_error rejectIf_ne_escaped fun _ _ => rejectIf_ne_escaped

theorem ensureBoundedSelectShape_ne_escaped {sqlglot : Sqlglot} {expression : Expression}
    {e : EscapedError} : ensureBoundedSelectShape sqlglot expression ≠ .error (.escaped e) := by
  refine bind_ne_error rejectIf_ne_escaped fun _ _ => bind_ne_error rejectIf_ne_escaped fun _ _ =>
    bind_ne_error rejectIf_ne_escaped fun _ _ h => ?_
  obtain ⟨_, -, hcall⟩ := exists_of_forM_eq_error h
  exact rejectIf_ne_escaped hcall

theorem extractRelation_ne_escaped {sqlglot : Sqlglot} {names relations : List Str}
    {table : TableReference} {e : EscapedError} :
    extractRelation sqlglot names relations table ≠ .error (.escaped e) := by
  unfold extractRelation
  dsimp only
  split_ifs <;> simp

theorem extractReferencedRelations_ne_escaped {sqlglot : Sqlglot} {expression : Expression}
    {e : EscapedError} : extractReferencedRelations sqlglot expression ≠ .error (.escaped e) :=
  foldlM_ne_error (fun _ _ _ => extractRelation_ne_escaped) []

theorem ensureRelationsAreAllowlisted_ne_escaped {names allowed : List Str} {e : EscapedError} :
    ensureRelationsAreAllowlisted names allowed ≠ .error (.escaped e) :=
  bind_ne_error rejectIf_ne_escaped fun _ _ => rejectIf_ne_escaped

theorem ensureQueryLength_ne_escaped {sql : Str} {e : EscapedError} :
    ensureQueryLength sql ≠ .error (.escaped e) := rejectIf_ne_escaped

section Validate

variable {policy : AnalyticsSqlPolicy} {sqlglot : Sqlglot} {sql : Str} {requestedRowLimit : Int}
  {allowedRelations : Option (List Str)}

theorem parseOneStatement_eq_ok {expression : Expression} :
    parseOneStatement sqlglot sql = .ok expression ↔ parsedTree sqlglot sql = some expression := by
  unfold parsedTree
  cases parseOneStatement sqlglot sql <;> simp [Except.toOption]

/-- An exception leaves validation from the parser, or from the generator once the statement
has passed all checks. -/
theorem validate_eq_escaped {e : EscapedError} :
    policy.validate sqlglot sql requestedRowLimit allowedRelations = .error (.escaped e) ↔
      ensureQueryLength sql = .ok () ∧ (sqlglot.parse sql = .error (.escaped e) ∨
        ∃ expression, parsedTree sqlglot sql = some expression ∧
          PassesChecks policy sqlglot allowedRelations expression ∧
            sqlglot.generate expression = .error e) := by
  simp only [AnalyticsSqlPolicy.validate, bind_eq_error, ensureQueryLength_ne_escaped,
    ensureSelectOnly_ne_escaped, ensureBoundedSelectShape_ne_escaped,
    extractReferencedRelations_ne_escaped, ensureRelationsAreAllowlisted_ne_escaped,
    parseOneStatement_eq_escaped, parseOneStatement_eq_ok, mapError_eq_error, false_or, pure,
    Except.pure, reduceCtorEq, and_false, exists_false, or_false, ValidateError.escaped.injEq,
    exists_eq_right]
  constructor
  · rintro ⟨⟨⟩, hl, hp | ⟨expression, hp, ⟨⟩, hs, ⟨⟩, hb, names, hr, ⟨⟩, ha, hg⟩⟩
    · exact ⟨hl, Or.inl hp⟩
    · exact ⟨hl, Or.inr ⟨expression, hp, ⟨hs, hb, names, hr, ha⟩, hg⟩⟩
  · rintro ⟨hl, hp | ⟨expression, hp, ⟨hs, hb, names, hr, ha⟩, hg⟩⟩
    · exact ⟨(), hl, Or.inl hp⟩
    · exact ⟨(), hl, Or.inr ⟨expression, hp, (), hs, (), hb, names, hr, (), ha, hg⟩⟩

/-- A call fails by policy only when no other exception leaves it. -/
theorem failsByPolicyOnly_iff_ne_escaped :
    FailsByPolicyOnly policy sqlglot sql requestedRowLimit allowedRelations ↔
      ∀ e, policy.validate sqlglot sql requestedRowLimit allowedRelations ≠
        .error (.escaped e) := by
  constructor
  · intro h e he
    rcases h.outcome with ⟨query, hq⟩ | ⟨reason, message, hv⟩
    · simp [he] at hq
    · simp [he] at hv
  · intro h
    have hviolation : ∀ error, policy.validate sqlglot sql requestedRowLimit allowedRelations =
        .error error → ∃ reason message, error = .violation reason message := by
      rintro (⟨reason, message⟩ | e) he
      · exact ⟨reason, message, rfl⟩
      · exact absurd he (h e)
    refine ⟨?_, fun error he => error.isRejection_answer.mpr (hviolation error he),
      fun error he => (ViewTableService.isRejection_answer error).mpr (hviolation error he)⟩
    cases hv : policy.validate sqlglot sql requestedRowLimit allowedRelations with
    | ok query => exact Or.inl ⟨query, rfl⟩
    | error error =>
      obtain ⟨reason, message, rfl⟩ := hviolation error hv
      exact Or.inr ⟨reason, message, rfl⟩

theorem ensureQueryLength_eq_ok :
    ensureQueryLength sql = .ok () ↔ ¬maxQueryTextLength < sql.length := by
  simp [ensureQueryLength]

end Validate

/-- Validation fails by policy only on exactly the texts that are too long or make neither the
parser nor, once accepted, the generator raise an exception of its own. -/
theorem failsByPolicyOnly_iff (policy : AnalyticsSqlPolicy) (sqlglot : Sqlglot) (sql : Str)
    (requestedRowLimit : Int) (allowedRelations : Option (List Str)) :
    FailsByPolicyOnly policy sqlglot sql requestedRowLimit allowedRelations ↔
      NothingEscapes policy sqlglot sql allowedRelations := by
  simp only [failsByPolicyOnly_iff_ne_escaped, Ne, validate_eq_escaped, ensureQueryLength_eq_ok,
    NothingEscapes]
  constructor
  · intro h
    refine or_iff_not_imp_left.mpr fun hl => ⟨fun e he => h e ⟨hl, Or.inl he⟩, ?_⟩
    intro expression hp hc
    cases hg : sqlglot.generate expression with
    | ok text => exact ⟨text, rfl⟩
    | error e => exact absurd ⟨hl, Or.inr ⟨expression, hp, hc, hg⟩⟩ (h e)
  · rintro (hl | ⟨hparse, hgenerate⟩) e ⟨hle, he⟩
    · exact hle hl
    · rcases he with he | ⟨expression, hp, hc, hg⟩
      · exact hparse e he
      · obtain ⟨text, ht⟩ := hgenerate expression hp hc
        rw [hg] at ht
        cases ht

/-- `SELECT 'a`. -/
def unterminatedLiteral : Str := str "SELECT 'a"

/-- The tokenizer on that text. -/
def unterminatedSqlglot : Sqlglot where
  lower := asciiLower
  eq_nil_of_lower := eq_nil_of_asciiLower
  parse := fun sql =>
    if sql = unterminatedLiteral then .error (.escaped .tokenError) else .error .parseError
  generate := fun _ => .ok []

/-- An unterminated literal leaves validation as a `TokenError`. -/
theorem unterminatedLiteral_escapes :
    ¬∀ (policy : AnalyticsSqlPolicy) (sqlglot : Sqlglot) (sql : Str) (requestedRowLimit : Int)
      (allowedRelations : Option (List Str)),
        FailsByPolicyOnly policy sqlglot sql requestedRowLimit allowedRelations := by
  intro h
  have hf := h {} unterminatedSqlglot unterminatedLiteral 100 none
  exact failsByPolicyOnly_iff_ne_escaped.mp hf .tokenError rfl

end LiveData.Analytics

import LiveData.Analytics.SqlText
import LiveData.Core.Whitespace
import LiveData.Sql.PlaceholderSearch
import LiveData.Sql.QuotedClause

/-!
# The role that reads the analytics views

The migration creates or hardens the reader role with one `DO` statement, and a saved view is
granted to the role by its quoted name. The statement of the migration reaches the database as
it is meant exactly when neither the name nor the password has two dollar signs in a row, a
colon that starts a parameter, or an escaped colon, and no placeholder stands in them.
-/

namespace LiveData.Analytics

open Sql

/-! ## The migration -/

/-- The parts of a parsed database URL. -/
structure DatabaseUrl where
  username : Option Str
  password : Option Str

/-- `AnalyticsReaderRole`. -/
@[ext] structure AnalyticsReaderRole where
  name : Str
  password : Option Str
  nonblank : strip name ≠ []

theorem AnalyticsReaderRole.name_ne_nil (role : AnalyticsReaderRole) : role.name ≠ [] := by
  intro h
  exact role.nonblank (by rw [h]; rfl)

/-- `INVALID_ANALYTICS_DATABASE_URL_MESSAGE`. -/
def invalidAnalyticsDatabaseUrlMessage : Str :=
  str "ANALYTICS_DATABASE_DB_ADDRESS must be a valid database URL"

/-- `MISSING_ANALYTICS_DATABASE_USERNAME_MESSAGE`. -/
def missingAnalyticsDatabaseUsernameMessage : Str :=
  str "ANALYTICS_DATABASE_DB_ADDRESS must include a username"

/-- `analytics_reader_role_from_env`, with `make_url` as a parameter. -/
def analyticsReaderRoleFromEnv (makeUrl : Str → Option DatabaseUrl) :
    Option Str → Except Str (Option AnalyticsReaderRole)
  | none => .ok none
  | some rawUrl =>
    if strip rawUrl = [] then .ok none
    else
      match makeUrl rawUrl with
      | none => .error invalidAnalyticsDatabaseUrlMessage
      | some url =>
        match url.username with
        | none => .error missingAnalyticsDatabaseUsernameMessage
        | some name =>
          if h : strip name = [] then .error missingAnalyticsDatabaseUsernameMessage
          else .ok (some ⟨name, url.password, h⟩)

/-- `password_ddl_clause`. -/
def passwordDdlClause : Option Str → Str
  | none => []
  | some password => str " PASSWORD " ++ quoteLiteral password

/-- `password_alter_statement`. -/
def passwordAlterStatement (quotedRole : Str) : Option Str → Str
  | none => []
  | some password =>
    str "ALTER ROLE " ++ quotedRole ++ str " WITH PASSWORD " ++ quoteLiteral password ++ str ";"

/-! The fixed parts of the body, in order. -/

/-- Up to the literal of the name. -/
def roleExists : Str :=
  str "\n        BEGIN\n          IF NOT EXISTS (SELECT 1 FROM pg_roles WHERE rolname = "

/-- Up to the name that is created. -/
def createRole : Str := str ") THEN\n            CREATE ROLE "

/-- Up to the password that is created. -/
def createOptions : Str :=
  str "\n              LOGIN\n              NOSUPERUSER\n              NOCREATEDB" ++
    str "\n              NOCREATEROLE\n              NOREPLICATION"

/-- Up to the name that is altered. -/
def alterRole : Str := str ";\n          ELSE\n            ALTER ROLE "

/-- Up to the statement for the password. -/
def alterOptions : Str :=
  str "\n              WITH LOGIN\n              NOSUPERUSER\n              NOCREATEDB" ++
    str "\n              NOCREATEROLE\n              NOREPLICATION;\n            "

/-- Up to the end of the body. -/
def bodyEnd : Str := str "\n          END IF;\n        END\n        "

section

variable (keyword : Str → Bool)

/-- The body of the `DO` statement. -/
def roleBody (name : Str) (password : Option Str) : Str :=
  roleExists ++ quoteLiteral name ++ createRole ++ quoteIdent keyword name ++ createOptions ++
    passwordDdlClause password ++ alterRole ++ quoteIdent keyword name ++ alterOptions ++
    passwordAlterStatement (quoteIdent keyword name) password ++ bodyEnd

/-- `role_sql`. -/
def roleSql (name : Str) (password : Option Str) : Str :=
  str "\n        DO $$" ++ roleBody keyword name password ++ str "$$;\n        "

/-- `create_or_update_analytics_reader_role`: the texts it executes. -/
def createOrUpdateAnalyticsReaderRole (role : AnalyticsReaderRole) : List Str :=
  let quotedRole := quoteIdent keyword role.name
  [roleSql keyword role.name role.password,
    str "ALTER ROLE " ++ quotedRole ++ str " SET default_transaction_read_only = on",
    str "ALTER ROLE " ++ quotedRole ++ str " SET statement_timeout = '3s'",
    str "ALTER ROLE " ++ quotedRole ++ str " SET idle_in_transaction_session_timeout = '5s'"]

/-! ## Reading the statement -/

/-- The name and the password at each place of the statement. -/
structure RoleStatement where
  wanted : Str
  created : Str
  createdPassword : Option Str
  altered : Str
  alteredPassword : Option (Str × Str)
  deriving DecidableEq, Repr

/-- The statement for a role. -/
def RoleStatement.ofRole (name : Str) (password : Option Str) : RoleStatement :=
  ⟨name, name, password, name, password.map (name, ·)⟩

/-- The password of `CREATE ROLE`, if there is one. -/
def readPasswordClause (text : Str) : Option (Option Str × Str) :=
  match text.dropPrefix? (str " PASSWORD ") with
  | none => some (none, text)
  | some rest => (readLiteral rest).map fun r => (some r.1, r.2)

/-- The second `ALTER ROLE`, if there is one. -/
def readPasswordStatement (text : Str) : Option (Option (Str × Str) × Str) :=
  match text.dropPrefix? (str "ALTER ROLE ") with
  | none => some (none, text)
  | some rest => do
    let (name, rest) ← readIdent keyword rest
    let rest ← rest.dropPrefix? (str " WITH PASSWORD ")
    let (password, rest) ← readLiteral rest
    let rest ← rest.dropPrefix? (str ";")
    some (some (name, password), rest)

/-- The body of the statement, read from its front. -/
def readRoleBody (text : Str) : Option RoleStatement := do
  let text ← text.dropPrefix? roleExists
  let (wanted, text) ← readLiteral text
  let text ← text.dropPrefix? createRole
  let (created, text) ← readIdent keyword text
  let text ← text.dropPrefix? createOptions
  let (createdPassword, text) ← readPasswordClause text
  let text ← text.dropPrefix? alterRole
  let (altered, text) ← readIdent keyword text
  let text ← text.dropPrefix? alterOptions
  let (alteredPassword, text) ← readPasswordStatement keyword text
  if text = bodyEnd then some ⟨wanted, created, createdPassword, altered, alteredPassword⟩ else none

/-- One `DO` statement, whose body ends at the first two dollar signs. -/
def readRoleSql (text : Str) : Option RoleStatement := do
  let text ← text.dropPrefix? (str "\n        DO $$")
  let (body, rest) ← splitDollars text
  if rest = str ";\n        " then readRoleBody keyword body else none

/-- The statement that reaches the database has no parameter and is read as it is meant, and
no text of the migration is changed on the way. -/
structure SentAsIntended (wide : Nat → Bool) (role : AnalyticsReaderRole) : Prop where
  no_parameter : bindNames (textClause wide (roleSql keyword role.name role.password)) = []
  read : (sentText wide (roleSql keyword role.name role.password)).bind (readRoleSql keyword) =
    some (RoleStatement.ofRole role.name role.password)
  unchanged : ∀ text ∈ createOrUpdateAnalyticsReaderRole keyword role,
    sentText wide text = some text

/-- A text that neither ends the body nor is changed on the way. -/
def PassesThrough (wide : Nat → Bool) (s : Str) : Prop :=
  ¬str "$$" <:+: s ∧ ¬HasBind wide s ∧ ¬HasEscape wide s

/-- The name and the password in the order in which the statement has them. -/
def credentials (name : Str) : Option Str → Str
  | none => name ++ 32 :: name
  | some password => name ++ 32 :: (password ++ 32 :: (name ++ 32 :: (name ++ 32 :: password)))

/-! ## The body as a template -/

/-- The names and passwords of the body behind the fixed parts. -/
def roleHoles (name : Str) : Option Str → List (Str × Str)
  | none => [(roleExists, quoteLiteral name), (createRole, quoteIdent keyword name),
      (createOptions ++ alterRole, quoteIdent keyword name)]
  | some password => [(roleExists, quoteLiteral name), (createRole, quoteIdent keyword name),
      (createOptions ++ str " PASSWORD ", quoteLiteral password),
      (alterRole, quoteIdent keyword name),
      (alterOptions ++ str "ALTER ROLE ", quoteIdent keyword name),
      (str " WITH PASSWORD ", quoteLiteral password)]

/-- The rest of the body. -/
def roleEnd : Option Str → Str
  | none => alterOptions ++ bodyEnd
  | some _ => str ";" ++ bodyEnd

theorem roleBody_eq_filled (name : Str) (password : Option Str) :
    roleBody keyword name password =
      filled (roleHoles keyword name password) (roleEnd password) := by
  cases password with
  | none => simp only [roleBody, roleHoles, roleEnd, filled, passwordDdlClause,
      passwordAlterStatement, List.append_assoc, List.nil_append]
  | some password => simp only [roleBody, roleHoles, roleEnd, filled, passwordDdlClause,
      passwordAlterStatement, List.append_assoc]

theorem isFrame_createOptions_append {t : Str}
    (ht : (t.getLast?.any isBreak && !t.contains 58 && !t.contains 36) = true) :
    isFrame (createOptions ++ t) = true :=
  isFrame_append (by decide) ht

theorem isFrame_alterOptions_append {t : Str}
    (ht : (t.getLast?.any isBreak && !t.contains 58 && !t.contains 36) = true) :
    isFrame (alterOptions ++ t) = true :=
  isFrame_append (by decide) ht

theorem isFrame_roleHoles (name : Str) (password : Option Str) :
    ∀ hole ∈ roleHoles keyword name password, isFrame hole.1 = true := by
  have hexists : isFrame roleExists = true := by decide
  have hcreate : isFrame createRole = true := by decide
  have halter : isFrame alterRole = true := by decide
  cases password with
  | none =>
    simp only [roleHoles, List.forall_mem_cons, List.not_mem_nil, false_implies, implies_true]
    exact ⟨hexists, hcreate, isFrame_createOptions_append (by decide), trivial⟩
  | some password =>
    simp only [roleHoles, List.forall_mem_cons, List.not_mem_nil, false_implies, implies_true]
    exact ⟨hexists, hcreate, isFrame_createOptions_append (by decide), halter,
      isFrame_alterOptions_append (by decide), by decide, trivial⟩

theorem isFrame_roleEnd (password : Option Str) : isFrame (roleEnd password) = true := by
  cases password with
  | none => exact isFrame_alterOptions_append (by decide)
  | some password => exact isFrame_append (by decide) (by decide)

/-- The holes are filled with literals for the name and the password and with the identifier. -/
theorem exists_mem_roleHoles {P : Str → Prop} {name : Str} {password : Option Str} :
    (∃ hole ∈ roleHoles keyword name password, P hole.2) ↔
      P (quoteLiteral name) ∨ P (quoteIdent keyword name) ∨
        ∃ s ∈ password, P (quoteLiteral s) := by
  cases password with
  | none => simp only [roleHoles, List.exists_mem_cons_iff, List.not_mem_nil, false_and,
      exists_false, or_false, or_self, Option.mem_def, reduceCtorEq]
  | some password =>
    simp only [roleHoles, List.exists_mem_cons_iff, List.not_mem_nil, false_and, exists_false,
      or_false, Option.mem_def, Option.some.injEq, exists_eq_left']
    tauto

/-! ## Reading what is sent -/

/-- In front of a break, `u` is a literal for `v`. -/
def ReadsLiteral (u v : Str) : Prop := ∀ front rest : Str, front.head?.any isBreak = true →
  readLiteral (u ++ (front ++ rest)) = some (v, front ++ rest)

/-- In front of a break, `u` is an identifier for `v`. -/
def ReadsIdent (u v : Str) : Prop := ∀ front rest : Str, front.head?.any isBreak = true →
  readIdent keyword (u ++ (front ++ rest)) = some (v, front ++ rest)

theorem exists_cons_of_break {front : Str} (h : front.head?.any isBreak = true) (rest : Str) :
    ∃ c tail, front ++ rest = c :: tail ∧ isBreak c = true := by
  obtain ⟨c, hc, hbreak⟩ := (Option.any_eq_true _ _).mp h
  obtain ⟨tail, rfl⟩ := List.head?_eq_some_iff.mp hc
  exact ⟨c, tail ++ rest, rfl, hbreak⟩

variable {wide : Nat → Bool}

/-- What is left of a literal is read. -/
theorem exists_readsLiteral {s u : Str} (h : textClause wide (quoteLiteral s) = chars u) :
    ∃ v, textClause wide s = chars v ∧ ReadsLiteral u v := by
  obtain ⟨v, hv, hread⟩ := exists_of_quoteLiteral h
  refine ⟨v, hv, fun front rest hfront => hread _ ?_⟩
  obtain ⟨c, tail, htext, hc⟩ := exists_cons_of_break hfront rest
  rw [htext]
  rcases isBreak_cases hc with rfl | rfl | rfl | rfl <;> simp

/-- What is left of an identifier is read. -/
theorem exists_readsIdent {name u : Str} (hname : name ≠ [])
    (h : textClause wide (quoteIdent keyword name) = chars u) :
    ∃ v, textClause wide name = chars v ∧ ReadsIdent keyword u v := by
  obtain ⟨v, hv, hread⟩ := exists_of_quoteIdent hname h
  refine ⟨v, hv, fun front rest hfront => ?_⟩
  obtain ⟨c, tail, htext, hc⟩ := exists_cons_of_break hfront rest
  rw [htext, hread c tail hc]

theorem dropPrefix?_append (front rest : Str) : (front ++ rest).dropPrefix? front = some rest :=
  List.dropPrefix?_append_of_beq rest (beq_self_eq_true front)

theorem createRole_break : createRole.head?.any isBreak = true := by decide

theorem createOptions_break : createOptions.head?.any isBreak = true := by decide

theorem alterOptions_break : alterOptions.head?.any isBreak = true := by decide

variable {keyword} {u₁ u₂ u₃ u₄ u₅ u₆ n₁ n₂ n₃ n₄ p₁ p₂ : Str}

/-- The body without a password is read. -/
theorem readRoleBody_none (h₁ : ReadsLiteral u₁ n₁) (h₂ : ReadsIdent keyword u₂ n₂)
    (h₃ : ReadsIdent keyword u₃ n₃) :
    readRoleBody keyword (filled [(roleExists, u₁), (createRole, u₂),
      (createOptions ++ alterRole, u₃)] (roleEnd none)) = some ⟨n₁, n₂, none, n₃, none⟩ := by
  have hclause : ∀ rest, readPasswordClause (alterRole ++ rest) = some (none, alterRole ++ rest) :=
    fun _ => rfl
  have hstatement : readPasswordStatement keyword bodyEnd = some (none, bodyEnd) := rfl
  have hwanted := fun rest => h₁ createRole rest createRole_break
  have hcreated := fun rest => h₂ createOptions rest createOptions_break
  have haltered := fun rest => h₃ alterOptions rest alterOptions_break
  simp only [filled, roleEnd, List.append_assoc, readRoleBody, dropPrefix?_append,
    Option.bind_eq_bind, Option.bind_some, hwanted, hcreated, haltered, hclause, hstatement,
    if_true]

/-- The body with a password is read. -/
theorem readRoleBody_some (h₁ : ReadsLiteral u₁ n₁) (h₂ : ReadsIdent keyword u₂ n₂)
    (h₃ : ReadsLiteral u₃ p₁) (h₄ : ReadsIdent keyword u₄ n₃) (h₅ : ReadsIdent keyword u₅ n₄)
    (h₆ : ReadsLiteral u₆ p₂) (password : Str) :
    readRoleBody keyword (filled [(roleExists, u₁), (createRole, u₂),
      (createOptions ++ str " PASSWORD ", u₃), (alterRole, u₄),
      (alterOptions ++ str "ALTER ROLE ", u₅), (str " WITH PASSWORD ", u₆)]
      (roleEnd (some password))) = some ⟨n₁, n₂, some p₁, n₃, some (n₄, p₂)⟩ := by
  have hwanted := fun rest => h₁ createRole rest createRole_break
  have hcreated := fun rest => h₂ createOptions rest createOptions_break
  have hcreatedPassword := fun rest => h₃ alterRole rest (by decide)
  have haltered := fun rest => h₄ alterOptions rest alterOptions_break
  have hnamed := fun rest => h₅ (str " WITH PASSWORD ") rest (by decide)
  have hpassword := fun rest => h₆ (str ";") rest (by decide)
  simp only [filled, roleEnd, List.append_assoc, readRoleBody, readPasswordClause,
    readPasswordStatement, dropPrefix?_append, Option.bind_eq_bind, Option.bind_some,
    Option.map_some, hwanted, hcreated, hcreatedPassword, haltered, hnamed, hpassword, if_true]

/-- What a scan leaves of the body is read as the statement for what it leaves of the name and
the password. -/
theorem exists_of_roleBody {name t : Str} {password : Option Str} (hname : name ≠ [])
    (h : textClause wide (roleBody keyword name password) = chars t) :
    ∃ n p, textClause wide name = chars n ∧
      Option.Rel (fun s v => textClause wide s = chars v) password p ∧
      readRoleBody keyword t = some (RoleStatement.ofRole n p) := by
  rw [roleBody_eq_filled, textClause_filled_iff (isFrame_roleHoles keyword name password)
    (isFrame_roleEnd password)] at h
  obtain ⟨left, hleft, rfl⟩ := h
  cases password with
  | none =>
    simp only [roleHoles, leftOf_cons_iff, leftOf_nil_iff] at hleft
    obtain ⟨u₁, h₁, -, ⟨u₂, h₂, -, ⟨u₃, h₃, -, rfl, rfl⟩, rfl⟩, rfl⟩ := hleft
    obtain ⟨n, hn, hread₁⟩ := exists_readsLiteral h₁
    obtain ⟨n₂, hn₂, hread₂⟩ := exists_readsIdent keyword hname h₂
    obtain ⟨n₃, hn₃, hread₃⟩ := exists_readsIdent keyword hname h₃
    obtain rfl := chars_injective (hn.symm.trans hn₂)
    obtain rfl := chars_injective (hn.symm.trans hn₃)
    exact ⟨n, none, hn, Option.Rel.none, readRoleBody_none hread₁ hread₂ hread₃⟩
  | some password =>
    simp only [roleHoles, leftOf_cons_iff, leftOf_nil_iff] at hleft
    obtain ⟨u₁, h₁, -, ⟨u₂, h₂, -, ⟨u₃, h₃, -, ⟨u₄, h₄, -, ⟨u₅, h₅, -, ⟨u₆, h₆, -, rfl, rfl⟩, rfl⟩,
      rfl⟩, rfl⟩, rfl⟩, rfl⟩ := hleft
    obtain ⟨n, hn, hread₁⟩ := exists_readsLiteral h₁
    obtain ⟨n₂, hn₂, hread₂⟩ := exists_readsIdent keyword hname h₂
    obtain ⟨p, hp, hread₃⟩ := exists_readsLiteral h₃
    obtain ⟨n₄, hn₄, hread₄⟩ := exists_readsIdent keyword hname h₄
    obtain ⟨n₅, hn₅, hread₅⟩ := exists_readsIdent keyword hname h₅
    obtain ⟨p₆, hp₆, hread₆⟩ := exists_readsLiteral h₆
    obtain rfl := chars_injective (hn.symm.trans hn₂)
    obtain rfl := chars_injective (hn.symm.trans hn₄)
    obtain rfl := chars_injective (hn.symm.trans hn₅)
    obtain rfl := chars_injective (hp.symm.trans hp₆)
    exact ⟨n, some p, hn, Option.Rel.some hp,
      readRoleBody_some hread₁ hread₂ hread₃ hread₄ hread₅ hread₆ password⟩

/-- The body is left when the name and the password are. -/
theorem textClause_roleBody {name : Str} {password : Option Str}
    (hname : textClause wide name = chars name)
    (hpassword : ∀ s ∈ password, textClause wide s = chars s) :
    textClause wide (roleBody keyword name password) = chars (roleBody keyword name password) := by
  rw [roleBody_eq_filled]
  refine textClause_filled (isFrame_roleHoles keyword name password) (isFrame_roleEnd password) ?_
  intro hole hhole
  by_contra hchanged
  have hplaces := (exists_mem_roleHoles keyword (P := fun s => textClause wide s ≠ chars s)).mp
    ⟨hole, hhole, hchanged⟩
  rcases hplaces with h | h | ⟨s, hs, h⟩
  · exact h (textClause_quoteLiteral hname)
  · exact h (textClause_quoteIdent hname)
  · exact h (textClause_quoteLiteral (hpassword s hs))

/-- Two dollar signs of the body stand in the name or in the password. -/
theorem dollars_infix_roleBody {name : Str} {password : Option Str} :
    [36, 36] <:+: roleBody keyword name password ++ [36] ↔
      [36, 36] <:+: name ∨ ∃ s ∈ password, [36, 36] <:+: s := by
  rw [roleBody_eq_filled, dollars_infix_filled (isFrame_roleHoles keyword name password)
    (isFrame_roleEnd password), exists_mem_roleHoles]
  simp only [dollars_infix_quoteLiteral, dollars_infix_quoteIdent, or_self_left]

/-- The body begins and ends with a break. -/
theorem exists_roleBody_eq_cons (name : Str) (password : Option Str) :
    ∃ c rest, roleBody keyword name password = c :: rest ∧ isBreak c = true := by
  rw [roleBody_eq_filled]
  exact exists_filled_eq_cons (isFrame_roleHoles keyword name password) (isFrame_roleEnd password)

theorem exists_roleBody_eq_concat (name : Str) (password : Option Str) :
    ∃ rest c, roleBody keyword name password = rest ++ [c] ∧ isBreak c = true := by
  have hend : bodyEnd = str "\n          END IF;\n        END\n       " ++ [32] := rfl
  rw [roleBody, hend, ← List.append_assoc]
  exact ⟨_, _, rfl, rfl⟩

/-- The scan of the statement goes into its body only. -/
theorem textClause_roleSql (name : Str) (password : Option Str) :
    textClause wide (roleSql keyword name password) = chars (str "\n        DO $$") ++
      (textClause wide (roleBody keyword name password) ++ chars (str "$$;\n        ")) := by
  have hrear : textClause wide (str "$$;\n        ") = chars (str "$$;\n        ") :=
    textClause_of_no_colon (by decide)
  have hfront : textClause wide (str "\n        DO $$") = chars (str "\n        DO $$") :=
    textClause_of_no_colon (by decide)
  obtain ⟨c, rest, hbody, hc⟩ := exists_roleBody_eq_cons name password
  rw [roleSql, List.append_assoc, textClause_append ⟨c, rest ++ _, by rw [hbody]; rfl, hc⟩, hfront,
    textClause_append_right (exists_roleBody_eq_concat name password), hrear]

/-- The statement is read when its body is, unless the body ends early. -/
theorem readRoleSql_eq_some_iff {body : Str} {statement : RoleStatement} :
    readRoleSql keyword (str "\n        DO $$" ++ (body ++ str "$$;\n        ")) = some statement ↔
      ¬[36, 36] <:+: body ++ [36] ∧ readRoleBody keyword body = some statement := by
  have hrear : body ++ str "$$;\n        " = body ++ 36 :: 36 :: str ";\n        " := rfl
  have hunread : readRoleSql keyword (str "\n        DO $$" ++ (body ++ str "$$;\n        ")) =
      (splitDollars (body ++ 36 :: 36 :: str ";\n        ")).bind fun r =>
        if r.2 = str ";\n        " then readRoleBody keyword r.1 else none := by
    rw [readRoleSql, dropPrefix?_append, hrear]
    rfl
  rw [hunread, Option.bind_eq_some_iff]
  constructor
  · rintro ⟨⟨first, rest⟩, hsplit, hread⟩
    obtain ⟨hrest, hread⟩ := Option.ite_none_right_eq_some.mp hread
    have happend : first ++ 36 :: 36 :: rest = body ++ 36 :: 36 :: str ";\n        " :=
      append_of_splitDollars hsplit
    obtain rfl : rest = str ";\n        " := hrest
    obtain rfl := List.append_cancel_right happend
    exact ⟨splitDollars_append_iff.mp hsplit, hread⟩
  · rintro ⟨hdollars, hread⟩
    exact ⟨(body, str ";\n        "), splitDollars_append_iff.mpr hdollars,
      by rw [if_pos rfl, hread]⟩

theorem eq_of_rel {password p : Option Str}
    (hp : Option.Rel (fun s v => textClause wide s = chars v) password p)
    (hpassword : ∀ s ∈ password, textClause wide s = chars s) : p = password := by
  cases hp with
  | none => rfl
  | some h => rw [chars_injective (h.symm.trans (hpassword _ rfl))]

/-- When the statement is read as intended, so is what a scan leaves of its body. -/
theorem SentAsIntended.exists_body {role : AnalyticsReaderRole}
    (h : SentAsIntended keyword wide role) :
    ∃ body, textClause wide (roleBody keyword role.name role.password) = chars body ∧
      ¬[36, 36] <:+: body ++ [36] ∧
        readRoleBody keyword body = some (RoleStatement.ofRole role.name role.password) := by
  obtain ⟨t, ht, hread⟩ := Option.bind_eq_some_iff.mp h.read
  rw [sentText_eq_some_iff, textClause_roleSql] at ht
  obtain ⟨front, r, hfront, hr, rfl⟩ := append_eq_chars_iff.mp ht.1
  obtain ⟨body, rear, hbody, hrear, rfl⟩ := append_eq_chars_iff.mp hr
  obtain rfl := chars_injective hfront
  obtain rfl := chars_injective hrear
  exact ⟨body, hbody, readRoleSql_eq_some_iff.mp hread⟩

/-- What is sent as intended passes through. -/
theorem passesThrough_of_sentAsIntended {role : AnalyticsReaderRole}
    (h : SentAsIntended keyword wide role) :
    PassesThrough wide role.name ∧ ∀ s ∈ role.password, PassesThrough wide s := by
  obtain ⟨body, hbody, hdollars, hread⟩ := h.exists_body
  obtain ⟨n, p, hn, hp, hreads⟩ := exists_of_roleBody role.name_ne_nil hbody
  have heq : RoleStatement.ofRole n p = RoleStatement.ofRole role.name role.password :=
    Option.some.inj (hreads.symm.trans hread)
  obtain ⟨rfl, -, rfl, -⟩ := RoleStatement.mk.inj heq
  have hpassword : ∀ s ∈ role.password, textClause wide s = chars s := by
    intro s hs
    rw [hs] at hp
    cases hp with
    | some h => exact h
  rw [chars_injective (hbody.symm.trans (textClause_roleBody hn hpassword)),
    dollars_infix_roleBody, not_or] at hdollars
  refine ⟨⟨hdollars.1, (textClause_eq_chars_iff _).mp hn⟩, fun s hs => ⟨fun h => ?_, ?_⟩⟩
  · exact hdollars.2 ⟨s, hs, h⟩
  · exact (textClause_eq_chars_iff s).mp (hpassword s hs)

/-- A body whose name and password pass through is left. -/
theorem PassesThrough.textClause_roleBody {name : Str} {password : Option Str}
    (hname : PassesThrough wide name) (hpassword : ∀ s ∈ password, PassesThrough wide s) :
    textClause wide (roleBody keyword name password) = chars (roleBody keyword name password) :=
  Analytics.textClause_roleBody ((textClause_eq_chars_iff name).mpr hname.2) fun s hs =>
    (textClause_eq_chars_iff s).mpr (hpassword s hs).2

/-! ## Placeholders -/

open Reading in
/-- A placeholder of an option text stands in the name. -/
theorem hasPlaceholder_alterRole {name options : Str}
    (hoptions : ∀ q : Reading, q.read options = q.settle) :
    HasPlaceholder (str "ALTER ROLE " ++ quoteIdent keyword name ++ options) ↔
      HasPlaceholder name := by
  have hfront : outside.read (str "ALTER ROLE ") = outside.settle := by decide
  have houtside : outside.settle = outside := rfl
  rw [hasPlaceholder_iff, hasPlaceholder_iff, read_append, read_append, hfront, hoptions,
    settle_read_quoteIdent, settle_eq_found, houtside]

/-! The fixed parts are searched like a space, but for the one with a parenthesis. -/

theorem read_createOptions (q : Reading) : q.read createOptions = q.settle :=
  Reading.read_of_isSpaceLike (by decide +kernel) q

theorem read_alterRole (q : Reading) : q.read alterRole = q.settle :=
  Reading.read_of_isSpaceLike (by decide +kernel) q

theorem read_alterOptions (q : Reading) : q.read alterOptions = q.settle :=
  Reading.read_of_isSpaceLike (by decide +kernel) q

theorem read_bodyEnd (q : Reading) : q.read bodyEnd = q.settle :=
  Reading.read_of_isSpaceLike (by decide +kernel) q

theorem read_statementEnd (q : Reading) : q.read (str "$$;\n        ") = q.settle :=
  Reading.read_of_isSpaceLike (by decide +kernel) q

theorem read_createRole {q : Reading} (h : q ≠ .found) : q.read createRole = .outside := by
  cases q with
  | found => exact absurd rfl h
  | _ => rfl

theorem read_passwordDdlClause (q : Reading) (password : Str) :
    q.read (passwordDdlClause (some password)) = (q.settle.read password).settle := by
  have hclause : q.read (str " PASSWORD ") = q.settle :=
    Reading.read_of_isSpaceLike (by decide) q
  rw [passwordDdlClause, Reading.read_append, hclause, Reading.read_quoteLiteral,
    Reading.settle_settle]

theorem read_passwordAlterStatement (q : Reading) (name password : Str) :
    q.read (passwordAlterStatement (quoteIdent keyword name) (some password)) =
      ((q.settle.read name).settle.read password).settle := by
  have halter : q.read (str "ALTER ROLE ") = q.settle :=
    Reading.read_of_isSpaceLike (by decide) q
  have hwith : ∀ r : Reading, r.read (str " WITH PASSWORD ") = r.settle :=
    Reading.read_of_isSpaceLike (by decide)
  have hend : ∀ r : Reading, r.read (str ";") = r.settle :=
    Reading.read_of_isSpaceLike (by decide)
  simp only [passwordAlterStatement, Reading.read_append, halter, hwith, hend,
    Reading.settle_read_quoteIdent, Reading.read_quoteLiteral, Reading.settle_settle]

/-- The search of the statement up to the name that is created. -/
theorem read_created (name : Str) :
    (Reading.outside.read (str "\n        DO $$" ++ (roleExists ++ (quoteLiteral name ++
      (createRole ++ (quoteIdent keyword name ++ createOptions)))))) =
        (Reading.outside.read name).settle := by
  have hexists : (Reading.outside.read (str "\n        DO $$")).read roleExists = .outside := by
    decide
  have houtside : Reading.outside.settle = .outside := rfl
  simp only [Reading.read_append, hexists, Reading.read_quoteLiteral, houtside, read_createOptions]
  by_cases hfound : Reading.outside.read name = .found
  · have hsettle : Reading.found.settle = .found := rfl
    simp only [hfound, hsettle, Reading.read_found]
  · have hident := Reading.settle_read_quoteIdent keyword .outside name
    rw [read_createRole fun h => hfound (Reading.settle_eq_found.mp h)]
    rwa [houtside] at hident

/-- A placeholder of the statement stands in the name and the password. -/
theorem hasPlaceholder_roleSql {name : Str} {password : Option Str} :
    HasPlaceholder (roleSql keyword name password) ↔
      HasPlaceholder (credentials name password) := by
  have hspace : ∀ q : Reading, q.next 32 = q.settle := fun _ => rfl
  have hsplit : roleSql keyword name password =
      (str "\n        DO $$" ++ (roleExists ++ (quoteLiteral name ++
        (createRole ++ (quoteIdent keyword name ++ createOptions))))) ++
      (passwordDdlClause password ++ (alterRole ++ (quoteIdent keyword name ++ (alterOptions ++
        (passwordAlterStatement (quoteIdent keyword name) password ++
          (bodyEnd ++ str "$$;\n        ")))))) := by
    simp only [roleSql, roleBody, List.append_assoc]
  rw [hasPlaceholder_iff, hasPlaceholder_iff, hsplit, Reading.read_append, read_created]
  cases password with
  | none =>
    simp only [credentials, Reading.read_append, passwordDdlClause, passwordAlterStatement,
      Reading.read_cons, Reading.read_nil, read_alterRole, read_alterOptions, read_bodyEnd,
      read_statementEnd, Reading.settle_settle, Reading.settle_read_quoteIdent, hspace,
      Reading.settle_eq_found]
  | some password =>
    simp only [credentials, Reading.read_append, read_passwordDdlClause,
      read_passwordAlterStatement, Reading.read_cons, read_alterRole, read_alterOptions,
      read_bodyEnd, read_statementEnd, Reading.settle_settle, Reading.settle_read_quoteIdent,
      hspace, Reading.settle_eq_found]

/-! ## The condition -/

/-- An option set for the role is left. -/
theorem textClause_alterRole {name options : Str} (hname : PassesThrough wide name)
    (hbreak : ∃ c rest, options = c :: rest ∧ isBreak c = true) (hcolon : 58 ∉ options) :
    textClause wide (str "ALTER ROLE " ++ quoteIdent keyword name ++ options) =
      chars (str "ALTER ROLE " ++ quoteIdent keyword name ++ options) := by
  have hident : textClause wide (quoteIdent keyword name) = chars (quoteIdent keyword name) :=
    textClause_quoteIdent ((textClause_eq_chars_iff name).mpr hname.2)
  have hspace : str "ALTER ROLE " = str "ALTER ROLE" ++ [32] := rfl
  rw [textClause_append hbreak, textClause_of_no_colon hcolon, hspace, List.append_assoc,
    List.singleton_append, textClause_splice rfl (by decide) (by decide) (by decide), hident]
  simp only [chars, List.map_append, List.map_cons, List.map_nil, List.append_assoc,
    List.cons_append, List.nil_append]

/-- The statement is left when the name and the password pass through. -/
theorem PassesThrough.textClause_roleSql {name : Str} {password : Option Str}
    (hname : PassesThrough wide name) (hpassword : ∀ s ∈ password, PassesThrough wide s) :
    textClause wide (roleSql keyword name password) = chars (roleSql keyword name password) := by
  rw [Analytics.textClause_roleSql, hname.textClause_roleBody hpassword, roleSql,
    List.append_assoc, chars_append, chars_append]

/-- No text of the migration is changed on the way when the name and the password pass through
and no placeholder stands in them. -/
theorem sentText_createOrUpdateAnalyticsReaderRole {role : AnalyticsReaderRole}
    (hname : PassesThrough wide role.name)
    (hpassword : ∀ s ∈ role.password, PassesThrough wide s)
    (hnone : ¬HasPlaceholder (credentials role.name role.password)) :
    ∀ text ∈ createOrUpdateAnalyticsReaderRole keyword role, sentText wide text = some text := by
  have hnamed : ¬HasPlaceholder role.name := by
    intro h
    refine hnone ?_
    cases role.password with
    | none => exact h.append_right _
    | some password => exact h.append_right _
  simp only [createOrUpdateAnalyticsReaderRole, List.forall_mem_cons, List.not_mem_nil,
    false_implies, implies_true, and_true, sentText_eq_some_iff]
  refine ⟨⟨hname.textClause_roleSql hpassword, hasPlaceholder_roleSql.not.mpr hnone⟩, ?_, ?_, ?_⟩
  all_goals
    refine ⟨textClause_alterRole hname ⟨_, _, rfl, rfl⟩ (by decide), ?_⟩
    rwa [hasPlaceholder_alterRole (Reading.read_of_isSpaceLike (by decide))]

/-- The statement is sent as intended exactly when the name and the password pass through and
no placeholder stands in them. -/
theorem sentAsIntended_iff (keyword : Str → Bool) (wide : Nat → Bool) (role : AnalyticsReaderRole) :
    SentAsIntended keyword wide role ↔
      (PassesThrough wide role.name ∧ ∀ s ∈ role.password, PassesThrough wide s) ∧
        ¬HasPlaceholder (credentials role.name role.password) := by
  constructor
  · intro h
    have hsent := h.unchanged _ List.mem_cons_self
    rw [sentText_eq_some_iff, hasPlaceholder_roleSql] at hsent
    exact ⟨passesThrough_of_sentAsIntended h, hsent.2⟩
  rintro ⟨⟨hname, hpassword⟩, hnone⟩
  have hunchanged : ∀ text ∈ createOrUpdateAnalyticsReaderRole keyword role,
      sentText wide text = some text :=
    sentText_createOrUpdateAnalyticsReaderRole hname hpassword hnone
  refine ⟨by rw [hname.textClause_roleSql hpassword, bindNames_chars], ?_, hunchanged⟩
  have hbody : textClause wide (roleBody keyword role.name role.password) =
      chars (roleBody keyword role.name role.password) := hname.textClause_roleBody hpassword
  obtain ⟨n, p, hn, hp, hread⟩ := exists_of_roleBody role.name_ne_nil hbody
  have hsame : n = role.name :=
    chars_injective (hn.symm.trans ((textClause_eq_chars_iff role.name).mpr hname.2))
  rw [hsame, eq_of_rel hp fun s hs => (textClause_eq_chars_iff s).mpr (hpassword s hs).2] at hread
  rw [hunchanged _ List.mem_cons_self, Option.bind_some, roleSql, List.append_assoc,
    readRoleSql_eq_some_iff]
  refine ⟨?_, hread⟩
  rw [dollars_infix_roleBody]
  rintro (h | ⟨s, hs, h⟩)
  · exact hname.1 h
  · exact (hpassword s hs).1 h

end

/-- A reader whose password has two dollar signs. -/
def dollarReader : AnalyticsReaderRole where
  name := str "analytics_reader"
  password := some (str "pa$$word")
  nonblank := by decide

/-- Its password ends the body of the statement. -/
theorem dollarReader_not_sentAsIntended :
    ¬∀ role : AnalyticsReaderRole, SentAsIntended (fun _ => false) (fun _ => false) role := by
  intro h
  have hpasses := passesThrough_of_sentAsIntended (h dollarReader)
  exact (hpasses.2 _ rfl).1 (by decide)

/-! ## The grant of a saved view -/

/-- The view and the role of a grant, and what follows the role. -/
def readGrantee (text : Str) : Option (Str × Str × Str) := do
  let text ← text.dropPrefix? (str "GRANT SELECT ON TABLE ")
  let word := spanRun isViewTableNameChar text
  let text ← word.2.dropPrefix? (str " TO ")
  let (role, rest) ← readDelimitedIdentifier text
  some (word.1, role, rest)

theorem quotedIdentifier_eq (identifier : Str) :
    quotedIdentifier identifier = 34 :: (doubled (· == 34) identifier ++ [34]) := by
  have hsame : (fun c => if c = 34 then [34, 34] else [c]) =
      fun c : Nat => if (c == 34) = true then [c, c] else [c] := by
    funext c
    by_cases hc : c = 34
    · simp [hc]
    · simp [hc]
  rw [quotedIdentifier, hsame, doubled, List.cons_append]

/-- At the place of the role the grant has exactly its name, and nothing follows. -/
theorem readGrantee_buildGrantViewTableSql {name role : Str} (hname : isViewTableName name = true)
    (hrole : role ≠ []) :
    readGrantee (buildGrantViewTableSql name role) = some (name, role, []) := by
  have hstop : StopsRun isViewTableNameChar (str " TO " ++ quotedIdentifier role) :=
    (stopsRun_cons isViewTableNameChar 32 _).mpr rfl
  have hread : readDelimitedIdentifier (quotedIdentifier role) = some (role, []) := by
    rw [quotedIdentifier_eq]
    exact readDelimitedIdentifier_doubled hrole (by simp)
  simp only [readGrantee, buildGrantViewTableSql, List.append_assoc, dropPrefix?_append,
    Option.bind_eq_bind, Option.bind_some, spanRun_of_stops (isViewTableName_chars hname) hstop,
    hread]

/-- A role with a quote in its name. -/
theorem readGrantee_quote :
    readGrantee (buildGrantViewTableSql (str "daily_orders") (str "read\"er")) =
      some (str "daily_orders", str "read\"er", []) :=
  readGrantee_buildGrantViewTableSql (by decide) (by decide)

end LiveData.Analytics

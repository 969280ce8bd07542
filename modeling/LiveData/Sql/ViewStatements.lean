import LiveData.Sql.Words

/-!
# Statements about views

The statements that define, grant and drop a view, as the server reads their texts: an
unquoted name that is a reserved key word is no identifier, and an unqualified relation is
looked up along the search path. A new view goes to the public schema.
-/

namespace LiveData.Sql

/-- A statement about one view. -/
inductive ViewStatement where
  | createOrReplaceView (name query : Str)
  | grantSelect (name role : Str)
  | dropViewIfExists (name : Str)
  deriving DecidableEq, Repr

/-- The schemas of a search path. -/
inductive SchemaName where
  | pgCatalog
  | publicSchema
  deriving DecidableEq, Repr

/-- What depends on the server: its reserved key words and the relations of its catalog. -/
structure Server where
  reserved : Str → Bool
  catalogRelations : List Str

/-- The search path of a session that sets none: the catalog comes first. -/
def defaultSearchPath : List SchemaName := [.pgCatalog, .publicSchema]

/-- A quoted identifier after its opening quote, up to the end of the text. -/
def readQuoted : Str → Option Str
  | [] => none
  | c :: s =>
    if c = 34 then
      match s with
      | [] => some []
      | d :: s => if d = 34 then (readQuoted s).map (34 :: ·) else none
    else (readQuoted s).map (c :: ·)

namespace Server

variable (server : Server)

/-- An unquoted identifier and what follows it. -/
def readIdentifier (s : Str) : Option (Str × Str) :=
  let word := spanRun isWordPart s
  let name := asciiLower word.1
  if isName name ∧ server.reserved name = false then some (name, word.2) else none

/-- The name after a keyword text, and what follows it. -/
def readNameAfter (keywords text : Str) : Option (Str × Str) :=
  (text.dropPrefix? keywords).bind server.readIdentifier

/-- `CREATE OR REPLACE VIEW name AS query`. -/
def readCreate (text : Str) : Option ViewStatement := do
  let (name, rest) ← server.readNameAfter (str "CREATE OR REPLACE VIEW ") text
  let query ← rest.dropPrefix? (str " AS ")
  some (.createOrReplaceView name query)

/-- `GRANT SELECT ON TABLE name TO "role"`. -/
def readGrant (text : Str) : Option ViewStatement := do
  let (name, rest) ← server.readNameAfter (str "GRANT SELECT ON TABLE ") text
  let quoted ← rest.dropPrefix? (str " TO \"")
  let role ← readQuoted quoted
  some (.grantSelect name role)

/-- `DROP VIEW IF EXISTS name`. -/
def readDrop (text : Str) : Option ViewStatement := do
  let (name, rest) ← server.readNameAfter (str "DROP VIEW IF EXISTS ") text
  if rest = [] then some (.dropViewIfExists name) else none

/-- The statement a text is. -/
def readStatement (text : Str) : Option ViewStatement :=
  ((server.readCreate text).or (server.readGrant text)).or (server.readDrop text)

/-- The relations of a schema. -/
def relations (publicRelations : List Str) : SchemaName → List Str
  | .pgCatalog => server.catalogRelations
  | .publicSchema => publicRelations

/-- The schema in which an unqualified relation is found. -/
def resolve (path : List SchemaName) (publicRelations : List Str) (name : Str) :
    Option SchemaName :=
  path.find? fun schema => name ∈ server.relations publicRelations schema

/-- The schema of the relation a statement is about, on a session that sets no search path. -/
def target (publicRelations : List Str) : ViewStatement → Option SchemaName
  | .createOrReplaceView _ _ => some .publicSchema
  | .grantSelect name _ | .dropViewIfExists name =>
    server.resolve defaultSearchPath publicRelations name

/-- What a text does: its statement and the schema of the relation it is about. -/
def understands (publicRelations : List Str) (text : Str) : Option (ViewStatement × SchemaName) :=
  (server.readStatement text).bind fun statement =>
    (server.target publicRelations statement).map (statement, ·)

end Server

variable {server : Server} {name rest : Str}

/-- A relation of both schemas is found in the catalog. -/
theorem Server.resolve_default {publicRelations : List Str} (h : name ∈ publicRelations) :
    server.resolve defaultSearchPath publicRelations name = some .publicSchema ↔
      name ∉ server.catalogRelations := by
  by_cases hc : name ∈ server.catalogRelations <;>
    simp [resolve, defaultSearchPath, relations, h, hc]

/-- A name is read back unless it is reserved. -/
theorem Server.readIdentifier_append (hname : isName name = true) (hs : StopsRun isWordPart rest) :
    server.readIdentifier (name ++ rest) =
      if server.reserved name then none else some (name, rest) := by
  unfold readIdentifier
  rw [spanRun_of_stops (isWordPart_of_isName hname) hs]
  dsimp only
  rw [asciiLower_of_isName hname]
  cases server.reserved name <;> simp [hname]

theorem Server.readNameAfter_append (keywords : Str) (hname : isName name = true)
    (hs : StopsRun isWordPart rest) : server.readNameAfter keywords (keywords ++ (name ++ rest)) =
      if server.reserved name then none else some (name, rest) := by
  rw [readNameAfter, List.dropPrefix?_append_of_beq _ (beq_self_eq_true _), Option.bind_some,
    readIdentifier_append hname hs]

theorem readQuoted_cons {c : Nat} (h : c ≠ 34) (s : Str) :
    readQuoted (c :: s) = (readQuoted s).map (c :: ·) := by
  cases s <;> simp [readQuoted, h]

/-- A quoted identifier is read back. -/
theorem readQuoted_escaped (s : Str) :
    readQuoted (s.flatMap (fun c => if c = 34 then [34, 34] else [c]) ++ [34]) = some s := by
  induction s with
  | nil => rfl
  | cons c s ih =>
    by_cases hc : c = 34
    · subst hc
      simp only [List.flatMap_cons, if_true, List.cons_append, List.nil_append, readQuoted, ih]
      rfl
    · rw [List.flatMap_cons, if_neg hc, List.singleton_append, List.cons_append,
        readQuoted_cons hc, ih]
      rfl

/-- A text that does not begin with the keywords has no name after them. -/
theorem Server.readNameAfter_eq_none {keywords text : Str} (h : ¬keywords <+: text) :
    server.readNameAfter keywords text = none := by
  have hdrop : text.dropPrefix? keywords = none := by
    cases hd : text.dropPrefix? keywords with
    | none => rfl
    | some rest =>
      obtain ⟨p, hp, he⟩ := List.dropPrefix?_eq_some_iff.mp hd
      exact absurd ⟨rest, by rw [hp, eq_of_beq he]⟩ h
  rw [readNameAfter, hdrop, Option.bind_none]

namespace Server

variable (rest)

/-- Texts that begin otherwise are other statements. -/
theorem readCreate_eq_none (h : ¬str "CREATE OR REPLACE VIEW " <+: rest) :
    server.readCreate rest = none := by
  rw [readCreate, readNameAfter_eq_none h]
  rfl

theorem readGrant_eq_none (h : ¬str "GRANT SELECT ON TABLE " <+: rest) :
    server.readGrant rest = none := by
  rw [readGrant, readNameAfter_eq_none h]
  rfl

theorem readDrop_eq_none (h : ¬str "DROP VIEW IF EXISTS " <+: rest) :
    server.readDrop rest = none := by
  rw [readDrop, readNameAfter_eq_none h]
  rfl

variable {rest}

/-- A definition is read back unless the name is reserved. -/
theorem readStatement_create (hname : isName name = true) (query : Str) :
    server.readStatement (str "CREATE OR REPLACE VIEW " ++ (name ++ (str " AS " ++ query))) =
      if server.reserved name then none else some (.createOrReplaceView name query) := by
  have hstop : StopsRun isWordPart (str " AS " ++ query) :=
    (stopsRun_cons isWordPart 32 _).mpr rfl
  rw [readStatement, readGrant_eq_none _ (by simp [str]), readDrop_eq_none _ (by simp [str]),
    Option.or_none, Option.or_none, readCreate, readNameAfter_append _ hname hstop]
  cases server.reserved name
  · simp [List.dropPrefix?_append_of_beq]
  · rfl

/-- So is a grant. -/
theorem readStatement_grant (hname : isName name = true) {quoted role : Str}
    (hrole : readQuoted quoted = some role) :
    server.readStatement (str "GRANT SELECT ON TABLE " ++ (name ++ (str " TO \"" ++ quoted))) =
      if server.reserved name then none else some (.grantSelect name role) := by
  have hstop : StopsRun isWordPart (str " TO \"" ++ quoted) :=
    (stopsRun_cons isWordPart 32 _).mpr rfl
  rw [readStatement, readCreate_eq_none _ (by simp [str]), readDrop_eq_none _ (by simp [str]),
    Option.none_or, Option.or_none, readGrant, readNameAfter_append _ hname hstop]
  cases server.reserved name
  · simp [List.dropPrefix?_append_of_beq, hrole]
  · rfl

/-- And the removal of a view. -/
theorem readStatement_drop (hname : isName name = true) :
    server.readStatement (str "DROP VIEW IF EXISTS " ++ name) =
      if server.reserved name then none else some (.dropViewIfExists name) := by
  have hread : server.readNameAfter (str "DROP VIEW IF EXISTS ")
      (str "DROP VIEW IF EXISTS " ++ (name ++ [])) =
        if server.reserved name then none else some (name, []) :=
    readNameAfter_append _ hname (stopsRun_nil isWordPart)
  rw [List.append_nil] at hread
  rw [readStatement, readCreate_eq_none _ (by simp [str]), readGrant_eq_none _ (by simp [str]),
    Option.none_or, Option.none_or, readDrop, hread]
  cases server.reserved name <;> rfl

end Server

end LiveData.Sql

import LiveData.Core.Text
import LiveData.Core.Tree

/-!
# Parsed SQL

The syntax trees a SQL parser returns, reduced to what a policy over them reads: the
statement kinds, function calls, WITH clauses, common table expressions and table
references. Everything else is a node of its own kind with its children.
-/

namespace LiveData.Sql

/-- An identifier as written. -/
structure Identifier where
  /-- The text without its quotes. -/
  text : Str
  /-- Whether it was delimited by double quotes. -/
  quoted : Bool := false
  deriving DecidableEq, Repr

/-- The name an identifier denotes: unquoted text is folded to lower case. -/
def Identifier.folded (i : Identifier) : Str := if i.quoted then i.text else asciiLower i.text

/-- Statements that change data or definitions. -/
inductive Mutation where
  | alter
  | command
  | create
  | delete
  | drop
  | insert
  | merge
  | truncateTable
  | update
  deriving DecidableEq, Repr

/-- A table reference. A table function has no name; absent qualifiers are empty. -/
structure TableReference where
  name : Option Identifier
  db : Str := []
  catalog : Str := []
  deriving DecidableEq, Repr

/-- A function call: one the parser does not know, or a known one. -/
inductive FunctionCall where
  | anonymous (name : Str)
  | known (sqlName : Str)
  deriving DecidableEq, Repr

/-- What a node of the tree is. -/
inductive Node where
  | select
  | mutation (kind : Mutation)
  | into
  | lock
  | tableSample
  | func (call : FunctionCall)
  | withClause (recursive : Bool)
  | cte (name : Identifier)
  | table (reference : TableReference)
  /-- Any node a policy does not ask for. -/
  | other
  deriving DecidableEq, Repr

/-- A parsed statement. -/
abbrev Expression := Tree Node

/-- Neither a schema nor a catalog is written. -/
def TableReference.Unqualified (r : TableReference) : Prop := r.db = [] ∧ r.catalog = []

instance (r : TableReference) : Decidable r.Unqualified :=
  inferInstanceAs (Decidable (_ ∧ _))

/-- The text of the name, empty for a table function. -/
def TableReference.nameText (r : TableReference) : Str :=
  match r.name with
  | some i => i.text
  | none => []

end LiveData.Sql

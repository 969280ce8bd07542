import LiveData.Core.Text

/-!
# Python syntax trees

The nodes of `ast` with what the guards read of them. Every other node stands for its fields
in order, as `generic_visit` descends into them. The imports and calls of a tree are listed in
this order, each with the definitions and the branches that enclose it.
-/

namespace LiveData.Guardrails

/-- An identifier has no dot. -/
abbrev Identifier := { name : Str // 46 ∉ name }

/-- An expression, or another node without statements below it. -/
inductive Expr where
  /-- `ast.Name`. -/
  | name (id : Identifier)
  /-- `ast.Attribute`. -/
  | attribute (value : Expr) (attr : Identifier)
  /-- `ast.Call`; the arguments are the positional ones and then the keywords. -/
  | call (lineno : Nat) (func : Expr) (args : List Expr)
  | other (children : List Expr)

/-- A statement, or another node with statements below it. -/
inductive Node where
  | expr (expr : Expr)
  /-- `ast.If`; an `elif` is an `if` in `orelse`. -/
  | ifStmt (test : Expr) (body orelse : List Node)
  /-- `ast.FunctionDef`. -/
  | functionDef (children : List Node)
  /-- `ast.AsyncFunctionDef`. -/
  | asyncFunctionDef (children : List Node)
  /-- `ast.ClassDef`. -/
  | classDef (children : List Node)
  /-- `ast.Import`. -/
  | importStmt (lineno : Nat) (names : List Expr)
  /-- `ast.ImportFrom`. -/
  | importFrom (lineno : Nat) (names : List Expr)
  | other (children : List Node)

/-! ## Imports and calls -/

/-- A kind of node with a line number. -/
inductive SiteKind where
  | importStmt
  | importFrom
  | call (func : Expr)

/-- An import or a call. -/
structure Site where
  lineno : Nat
  kind : SiteKind

/-- What encloses a node: a definition or a part of an `if`. -/
inductive Step where
  | definition
  | ifTest (test : Expr)
  | ifBody (test : Expr)
  | ifOrelse (test : Expr)

/-- An import or a call with what encloses it, the outermost first. -/
structure Occurrence where
  path : List Step
  site : Site

/-- The occurrence below a further step. -/
def Occurrence.under (step : Step) (o : Occurrence) : Occurrence :=
  { o with path := step :: o.path }

mutual

/-- The calls of an expression. -/
def Expr.calls : Expr → List Site
  | .name _ => []
  | .attribute value _ => value.calls
  | .call lineno func args => ⟨lineno, .call func⟩ :: (func.calls ++ Expr.callsOfAll args)
  | .other children => Expr.callsOfAll children

/-- The calls of expressions one after the other. -/
def Expr.callsOfAll : List Expr → List Site
  | [] => []
  | e :: es => e.calls ++ Expr.callsOfAll es

end

/-- Calls that nothing encloses. -/
def bare (sites : List Site) : List Occurrence := sites.map fun site => ⟨[], site⟩

mutual

/-- The imports and calls of a tree. -/
def Node.occurrences : Node → List Occurrence
  | .expr e => bare e.calls
  | .ifStmt test body orelse =>
    (bare test.calls).map (Occurrence.under (.ifTest test)) ++
      ((Node.occurrencesOfAll body).map (Occurrence.under (.ifBody test)) ++
        (Node.occurrencesOfAll orelse).map (Occurrence.under (.ifOrelse test)))
  | .functionDef children =>
    (Node.occurrencesOfAll children).map (Occurrence.under .definition)
  | .asyncFunctionDef children =>
    (Node.occurrencesOfAll children).map (Occurrence.under .definition)
  | .classDef children => (Node.occurrencesOfAll children).map (Occurrence.under .definition)
  | .importStmt lineno names => ⟨[], lineno, .importStmt⟩ :: bare (Expr.callsOfAll names)
  | .importFrom lineno names => ⟨[], lineno, .importFrom⟩ :: bare (Expr.callsOfAll names)
  | .other children => Node.occurrencesOfAll children

/-- The imports and calls of trees one after the other. -/
def Node.occurrencesOfAll : List Node → List Occurrence
  | [] => []
  | node :: nodes => node.occurrences ++ Node.occurrencesOfAll nodes

end

end LiveData.Guardrails

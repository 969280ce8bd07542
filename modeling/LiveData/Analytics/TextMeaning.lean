import LiveData.Analytics.ExploreStatement
import LiveData.Sql.SelectText

/-!
# What a query text asks for

The meaning of a simple query text, in the terms explore queries and their statements have.
-/

namespace LiveData.Sql

open Analytics

/-- The kind of a join. -/
def JoinWord.joinType : JoinWord → ExploreJoinType
  | .inner => .inner
  | .left => .left

/-- The direction of an order. -/
def OrderWord.direction : OrderWord → ExploreSortDirection
  | .asc => .asc
  | .desc => .desc

/-- The first word of a column. -/
def ColumnText.first (column : ColumnText) : Str := column.qualifier.getD column.name

namespace SelectText

variable (query : SelectText)

/-- The column a reference denotes: a bare name is one of the only table. -/
def resolve (column : ColumnText) : Option ExploreColumnRef :=
  match column.qualifier, query.join with
  | some qualifier, _ => some ⟨qualifier, column.name⟩
  | none, none => some ⟨query.table, column.name⟩
  | none, some _ => none

/-- The join a query asks for. -/
def joinMeaning : Option (List JoinMeaning) :=
  match query.join with
  | none => some []
  | some join => do
    let left ← query.resolve join.left
    let right ← query.resolve join.right
    some [⟨join.table, left, right, join.kind.joinType⟩]

/-- The order a query asks for. -/
def orderMeaning : Option (Option (ExploreColumnRef × ExploreSortDirection)) :=
  match query.orderBy with
  | none => some none
  | some (column, direction) => do
    let column ← query.resolve column
    some (some (column, direction.direction))

/-- What a query asks for, when every bare name can be resolved. -/
def meaning : Option QueryMeaning := do
  let projection ← query.columns.mapM query.resolve
  let joins ← query.joinMeaning
  let orderBy ← query.orderMeaning
  some ⟨query.table, joins, projection, orderBy, query.limit⟩

/-- The words that stand for a table or a column without a dot before them. -/
def leadingNames : List Str :=
  query.table :: (query.join.toList.flatMap fun join =>
    [join.table, join.left.first, join.right.first]) ++ query.columns.map ColumnText.first ++
    query.orderBy.toList.map fun order => order.1.first

end SelectText

/-- What a text asks for, where the reserved words are no names unless a dot comes before
them. -/
def textMeaning (reserved : Str → Bool) (text : Str) : Option QueryMeaning :=
  (readSelect text).bind fun query =>
    if ∀ name ∈ query.leadingNames, reserved name = false then query.meaning else none

end LiveData.Sql

import LiveData.Analytics.SqlText
import LiveData.Core.Dict

/-!
# Rows of a result

`_execute_statement` turns each row into a dictionary with one value for each distinct
column name. The dictionaries give back the values of the row, position by position, exactly
when columns of one name have the same JSON form in every row.
-/

namespace LiveData.Analytics

open Sql

/-- Numbers and times as Python has them, with the conversions of `json_safe_value`. -/
structure ScalarHost where
  Number : Type
  DecimalNumber : Type
  Time : Type
  OtherValue : Type
  float : DecimalNumber → Number
  isoformat : Time → Str
  text : OtherValue → Str

/-- `DatabaseScalar`, and the values of other types a driver returns. -/
inductive DatabaseScalar (host : ScalarHost) where
  | null
  | text (value : Str)
  | int (value : Int)
  | float (value : host.Number)
  | bool (value : Bool)
  | decimal (value : host.DecimalNumber)
  | time (value : host.Time)
  | other (value : host.OtherValue)

/-- The JSON values of a row. -/
inductive JsonScalar (host : ScalarHost) where
  | null
  | text (value : Str)
  | int (value : Int)
  | float (value : host.Number)
  | bool (value : Bool)

/-- `json_safe_value`. -/
def jsonSafeValue {host : ScalarHost} : DatabaseScalar host → JsonScalar host
  | .null => .null
  | .text s => .text s
  | .int n => .int n
  | .float x => .float x
  | .bool b => .bool b
  | .decimal d => .float (host.float d)
  | .time t => .text (host.isoformat t)
  | .other o => .text (host.text o)

/-- A result set: every row has a value for each column. -/
structure ResultSet (host : ScalarHost) where
  columns : List Str
  rows : List (List (DatabaseScalar host))
  shape : ∀ row ∈ rows, row.length = columns.length

/-- `AnalyticsRows`. -/
structure AnalyticsRows (host : ScalarHost) where
  columns : List Str
  rows : List (List (Str × JsonScalar host))

/-- Which position a row mapping reads for a column name. -/
abbrev RowKeys := List Str → Str → Nat

/-- The position read for a column name is one of a column with that name. -/
def RowKeys.OneOfTheName (position : RowKeys) : Prop :=
  ∀ columns : List Str, ∀ name ∈ columns, columns[position columns name]? = some name

section

variable {host : ScalarHost} (position : RowKeys)

/-- `dict(row)` of a row mapping. -/
def dictRow (columns : List Str) (row : List (DatabaseScalar host)) :
    List (Str × DatabaseScalar host) :=
  Dict.ofItems (columns.filterMap fun name => row[position columns name]?.map (name, ·))

/-- `row_mapping_to_json`. -/
def rowMappingToJson (row : List (Str × DatabaseScalar host)) : List (Str × JsonScalar host) :=
  row.map fun item => (item.1, jsonSafeValue item.2)

/-- What `_execute_statement` builds from a result set. -/
def analyticsRows (result : ResultSet host) : AnalyticsRows host where
  columns := result.columns
  rows := result.rows.map fun row => rowMappingToJson (dictRow position result.columns row)

/-- Every row gives back, under the name of each position, the value of that position. -/
def PositionallyFaithful (result : ResultSet host) : Prop :=
  ∀ (r : Nat) (row : List (DatabaseScalar host)), result.rows[r]? = some row →
    ∃ out, (analyticsRows position result).rows[r]? = some out ∧
      ∀ (i : Nat) (name : Str) (value : DatabaseScalar host),
        (analyticsRows position result).columns[i]? = some name → row[i]? = some value →
          List.lookup name out = some (jsonSafeValue value)

/-- In every row, columns of one name have values of the same JSON form. -/
def EqualNamesAgree (result : ResultSet host) : Prop :=
  ∀ row ∈ result.rows, ∀ (i j : Nat) (name : Str) (v w : DatabaseScalar host),
    result.columns[i]? = some name → result.columns[j]? = some name → row[i]? = some v →
      row[j]? = some w → jsonSafeValue v = jsonSafeValue w

variable {position}

/-- A row dictionary has, under each column name, the JSON form of the value its mapping reads. -/
theorem lookup_rowMappingToJson (columns : List Str) (row : List (DatabaseScalar host))
    {name : Str} (h : name ∈ columns) :
    (rowMappingToJson (dictRow position columns row)).lookup name =
      row[position columns name]?.map jsonSafeValue := by
  rw [rowMappingToJson, Dict.lookup_map_value (fun _ => jsonSafeValue), dictRow,
    Dict.lookup_ofItems_filterMap fun name => row[position columns name]?, if_pos h]

theorem rows_analyticsRows (result : ResultSet host) (r : Nat) :
    (analyticsRows position result).rows[r]? =
      result.rows[r]?.map fun row => rowMappingToJson (dictRow position result.columns row) :=
  List.getElem?_map

/-- The rows are faithful exactly when columns of one name agree in every row. -/
theorem positionallyFaithful_iff (hposition : position.OneOfTheName) (result : ResultSet host) :
    PositionallyFaithful position result ↔ EqualNamesAgree result := by
  constructor
  · intro h row hrow i j name v w hi hj hv hw
    obtain ⟨r, hr⟩ := List.mem_iff_getElem?.mp hrow
    obtain ⟨out, -, hout⟩ := h r row hr
    have hsame := (hout i name v hi hv).symm.trans (hout j name w hj hw)
    exact Option.some.inj hsame
  · intro h r row hr
    refine ⟨_, by rw [rows_analyticsRows, hr]; rfl, fun i name value hi hv => ?_⟩
    have hname : name ∈ result.columns := List.mem_of_getElem? hi
    have hread := hposition result.columns name hname
    have hlength := result.shape row (List.mem_of_getElem? hr)
    have hlt : position result.columns name < row.length := by
      rw [hlength]
      exact (List.getElem?_eq_some_iff.mp hread).1
    obtain ⟨read, hw⟩ : ∃ read, row[position result.columns name]? = some read :=
      ⟨_, List.getElem?_eq_getElem hlt⟩
    rw [lookup_rowMappingToJson _ _ hname, hw, Option.map_some,
      h row (List.mem_of_getElem? hr) i _ name value read hi hread hv hw]

/-- With distinct column names the rows are faithful. -/
theorem positionallyFaithful_of_nodup (hposition : position.OneOfTheName)
    {result : ResultSet host} (h : result.columns.Nodup) :
    PositionallyFaithful position result := by
  refine (positionallyFaithful_iff hposition result).mpr ?_
  intro row _ i j name v w hi hj hv hw
  obtain ⟨hlt, hname⟩ := List.getElem?_eq_some_iff.mp hi
  have hij : i = j := (List.getElem?_inj hlt h).mp (hi.trans hj.symm)
  subst hij
  rw [Option.some.inj (hv.symm.trans hw)]

end

section SqlLab

variable {host : ScalarHost} (position : RowKeys) (wide : Nat → Bool) (policy : AnalyticsSqlPolicy)
  (sqlglot : Sqlglot) (sql : Str) (requestedRowLimit : Int) (allowedRelations : Option (List Str))
  (returns : List SentStatement → ResultSet host → Prop)

/-- Whatever the database returns for the statements of an accepted text is reported
faithfully. -/
def SqlLabFaithful : Prop :=
  ∀ query, policy.validate sqlglot sql requestedRowLimit allowedRelations = .ok query →
    ∀ result, returns (executeSelect wide query.sql query.rowLimit) result →
      PositionallyFaithful position result

/-- SQL Lab is faithful to exactly the result sets in which columns of one name agree. -/
theorem sqlLabFaithful_iff (hposition : position.OneOfTheName) :
    SqlLabFaithful position wide policy sqlglot sql requestedRowLimit allowedRelations returns ↔
      ∀ query, policy.validate sqlglot sql requestedRowLimit allowedRelations = .ok query →
        ∀ result, returns (executeSelect wide query.sql query.rowLimit) result →
          EqualNamesAgree result := by
  refine forall_congr' fun query => imp_congr_right fun _ => ?_
  exact forall_congr' fun result => imp_congr_right fun _ =>
    positionallyFaithful_iff hposition result

end SqlLab

/-- The first position of a name. -/
def firstPosition : RowKeys := fun columns name => columns.idxOf name

theorem firstPosition_oneOfTheName : firstPosition.OneOfTheName := by
  intro columns name h
  exact List.getElem?_idxOf h

/-- Texts are all that the results below hold. -/
def textHost : ScalarHost where
  Number := Int
  DecimalNumber := Int
  Time := Str
  OtherValue := Str
  float := id
  isoformat := id
  text := id

/-- A query over two views that both have a column `event_type`. -/
def joinedViews : Str :=
  str ("SELECT e.event_type, p.event_type FROM event_type_counts AS e " ++
    "JOIN product_event_counts AS p ON e.event_count = p.event_count")

private def aliasedTable (name : String) : Expression :=
  .node (.table { name := some ⟨str name, false⟩ })
    [.node .other [], .node .other [.node .other []]]

private def columnNode : Expression := .node .other [.node .other [], .node .other []]

/-- Its tree. -/
def joinedViewsTree : Expression :=
  .node .select
    [columnNode, columnNode, .node .other [aliasedTable "event_type_counts"],
      .node .other [aliasedTable "product_event_counts", .node .other [columnNode, columnNode]]]

/-- The parser and generator on that text. -/
def joinedViewsSqlglot : Sqlglot where
  lower := asciiLower
  eq_nil_of_lower := eq_nil_of_asciiLower
  parse := fun sql => if sql = joinedViews then .ok [some joinedViewsTree] else .error .parseError
  generate := fun _ => .ok joinedViews

/-- A row of the join: two event types, under names that PostgreSQL does not tell apart. -/
def joinedViewsResult : ResultSet textHost where
  columns := [str "event_type", str "event_type"]
  rows := [[.text (str "page_view"), .text (str "purchase")]]
  shape := by simp

/-- The same row under distinct names. -/
def distinctResult : ResultSet textHost where
  columns := [str "event_type", str "product_event_type"]
  rows := [[.text (str "page_view"), .text (str "purchase")]]
  shape := by simp

/-- With distinct names the row is reported as it is. -/
theorem sqlLabFaithful_distinct :
    SqlLabFaithful firstPosition (fun _ => false) {} joinedViewsSqlglot joinedViews 100 none
      (fun _ result => result = distinctResult) := by
  refine (sqlLabFaithful_iff firstPosition (fun _ => false) {} joinedViewsSqlglot joinedViews 100
    none _ firstPosition_oneOfTheName).mpr ?_
  rintro query - result rfl
  have hnodup : distinctResult.columns.Nodup := by decide
  exact (positionallyFaithful_iff firstPosition_oneOfTheName distinctResult).mp
    (positionallyFaithful_of_nodup firstPosition_oneOfTheName hnodup)

/-- Both columns of the join show the value of the first. -/
theorem joinedViews_not_faithful :
    ¬∀ (host : ScalarHost) (position : RowKeys), position.OneOfTheName →
      ∀ (wide : Nat → Bool) (policy : AnalyticsSqlPolicy) (sqlglot : Sqlglot) (sql : Str)
        (requestedRowLimit : Int) (allowedRelations : Option (List Str))
        (returns : List SentStatement → ResultSet host → Prop),
        SqlLabFaithful position wide policy sqlglot sql requestedRowLimit allowedRelations
          returns := by
  intro h
  have haccepted : AnalyticsSqlPolicy.validate {} joinedViewsSqlglot joinedViews 100 none =
      .ok ⟨joinedViews, [str "event_type_counts", str "product_event_counts"], 100⟩ := by
    decide +kernel
  have hf := h textHost firstPosition firstPosition_oneOfTheName (fun _ => false) {}
    joinedViewsSqlglot joinedViews 100 none (fun _ result => result = joinedViewsResult) _
    haccepted joinedViewsResult rfl
  have hagree := (positionallyFaithful_iff firstPosition_oneOfTheName joinedViewsResult).mp hf
    _ (List.mem_singleton_self _) 0 1 (str "event_type") _ _ rfl rfl rfl rfl
  have htext : str "page_view" = str "purchase" := by
    simpa [jsonSafeValue] using hagree
  exact absurd htext (by decide)

end LiveData.Analytics

import LiveData.Analytics.ExploreStatement

/-!
# Explore requests

The request body of the explore endpoint and the query it asks for.
-/

namespace LiveData.Analytics

/-- `ExploreColumnSelectorPayload`: a text, or the payload of a qualified column. -/
inductive ExploreColumnSelector where
  | text (selector : Str)
  | columnRef (payload : ExploreColumnRef)
  deriving DecidableEq, Repr

/-- `column_selector_to_ref`. -/
def columnSelectorToRef (baseDataset : Str) : ExploreColumnSelector → ExploreColumnRef
  | .columnRef payload => payload
  | .text selector =>
    if 46 ∉ selector then ⟨baseDataset, selector⟩
    else ⟨(splitOnce 46 selector).1, (splitOnce 46 selector).2⟩

/-- `ExploreQueryRequest`, with what its fields require. -/
structure ExploreQueryRequest where
  dataset : Str
  columns : List ExploreColumnSelector
  joins : List ExploreJoin := []
  orderBy : Option ExploreColumnSelector := none
  orderDirection : ExploreSortDirection := .desc
  rowLimit : Int := 100
  columns_ne_nil : columns ≠ []
  one_le_rowLimit : 1 ≤ rowLimit

namespace ExploreQueryRequest

variable (request : ExploreQueryRequest)

/-- `column_refs`. -/
def columnRefs : List ExploreColumnRef := request.columns.map (columnSelectorToRef request.dataset)

/-- `order_by_ref`. -/
def orderByRef : Option ExploreColumnRef :=
  request.orderBy.map (columnSelectorToRef request.dataset)

/-- The query the endpoint builds for a request over the catalog. -/
def query (datasets : List AnalyticsDataset) : Except ExploreError ExploreQuery :=
  buildExploreQuery request.dataset datasets request.columnRefs request.joins request.orderByRef
    request.orderDirection request.rowLimit

end ExploreQueryRequest

/-! ## Decoding -/

@[simp] theorem columnSelectorToRef_of_notMem {selector : Str} (h : 46 ∉ selector) (base : Str) :
    columnSelectorToRef base (.text selector) = ⟨base, selector⟩ := if_pos h

/-- A selector is cut at its first dot. -/
theorem columnSelectorToRef_append_cons {datasetName : Str} (h : 46 ∉ datasetName)
    (base columnName : Str) :
    columnSelectorToRef base (.text (datasetName ++ 46 :: columnName)) =
      ⟨datasetName, columnName⟩ := by
  have hdot : ¬46 ∉ datasetName ++ 46 :: columnName := by simp
  rw [columnSelectorToRef, if_neg hdot, splitOnce_append_cons h]

end LiveData.Analytics

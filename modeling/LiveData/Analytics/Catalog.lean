import LiveData.Core.Text

/-!
# The built-in dataset catalog

The six generated views exposed to SQL Lab and the chart builder, with the descriptors
the catalog returns for them.
-/

namespace LiveData.Analytics

/-- Semantic role of a column. -/
inductive ColumnKind where
  | dimension
  | metric
  | temporal
  deriving DecidableEq, Repr

/-- Where a dataset comes from. -/
inductive DatasetOrigin where
  | builtin
  | viewTable
  deriving DecidableEq, Repr

/-- Column exposed by a dataset. -/
structure AnalyticsDatasetColumn where
  name : Str
  label : Str
  kind : ColumnKind
  deriving DecidableEq, Repr

/-- Dataset exposed to the SQL UI. -/
structure AnalyticsDataset where
  name : Str
  label : Str
  description : Str
  columns : List AnalyticsDatasetColumn
  origin : DatasetOrigin := .builtin
  deriving DecidableEq, Repr

/-- Saved view table with its current columns. -/
structure AnalyticsViewTable where
  name : Str
  description : Str
  sourceSql : Str
  columns : List AnalyticsDatasetColumn
  deriving DecidableEq, Repr

/-- Build a column descriptor from literals. -/
def column (name label : String) (kind : ColumnKind) : AnalyticsDatasetColumn :=
  ⟨str name, str label, kind⟩

/-- The generated datasets in catalog order. -/
def datasets : List AnalyticsDataset :=
  [{ name := str "event_type_counts"
     label := str "Event type counts"
     description := str "이벤트 타입별 발생 횟수를 집계한 generated view입니다."
     columns := [column "event_type" "Event type" .dimension,
       column "event_count" "Event count" .metric] },
   { name := str "user_event_counts"
     label := str "User event counts"
     description := str "유저별 총 이벤트 수를 집계한 generated view입니다."
     columns := [column "user_id" "User" .dimension,
       column "event_count" "Event count" .metric] },
   { name := str "hourly_event_counts"
     label := str "Hourly event counts"
     description := str "시간대와 이벤트 타입별 이벤트 추이를 집계한 generated view입니다."
     columns := [column "event_hour" "Event hour" .temporal,
       column "event_type" "Event type" .dimension,
       column "event_count" "Event count" .metric] },
   { name := str "error_event_ratio"
     label := str "Error event ratio"
     description := str "checkout_error 비율을 계산한 generated view입니다."
     columns := [column "error_events" "Error events" .metric,
       column "total_events" "Total events" .metric,
       column "error_ratio" "Error ratio" .metric] },
   { name := str "commerce_funnel_counts"
     label := str "Commerce funnel counts"
     description := str "조회부터 결제 오류까지 커머스 funnel 단계를 집계한 generated view입니다."
     columns := [column "sort_order" "Sort order" .metric,
       column "funnel_step" "Funnel step" .dimension,
       column "event_type" "Event type" .dimension,
       column "event_count" "Event count" .metric] },
   { name := str "product_event_counts"
     label := str "Product event counts"
     description := str "상품별 클릭/장바구니/구매 이벤트를 집계한 generated view입니다."
     columns := [column "product_id" "Product" .dimension,
       column "event_type" "Event type" .dimension,
       column "event_count" "Event count" .metric] }]

/-- `ALLOWED_DATASET_NAMES`. -/
def allowedDatasetNames : List Str := datasets.map AnalyticsDataset.name

/-- `get_datasets`. -/
def getDatasets : List AnalyticsDataset := datasets

/-- No two generated datasets share a name. -/
theorem allowedDatasetNames_nodup : allowedDatasetNames.Nodup := by decide

end LiveData.Analytics

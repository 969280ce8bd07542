import LiveData.Core.Aggregate
import LiveData.Events.Quiescence

/-!
# The built-in views agree

The six generated views as queries over the rows of the events table. Each of them counts
every event once, so their totals and their counts by event type coincide on every table
that ingestion can fill.
-/

namespace LiveData.Analytics

open Aggregate Events

/-- A row of `event_type_counts`. -/
structure EventTypeCount where
  eventType : Str
  eventCount : Nat
  deriving DecidableEq, Repr

/-- A row of `user_event_counts`. -/
structure UserEventCount where
  userId : Str
  eventCount : Nat
  deriving DecidableEq, Repr

/-- A row of `hourly_event_counts`, its hour in microseconds of UTC. -/
structure HourlyEventCount where
  eventHour : Int
  eventType : Str
  eventCount : Nat
  deriving DecidableEq, Repr

/-- The row of `error_event_ratio`. -/
structure ErrorEventRatio where
  errorEvents : Nat
  totalEvents : Nat
  errorRatio : Option ℚ
  deriving DecidableEq, Repr

/-- A literal row of the funnel. -/
structure FunnelStep where
  sortOrder : Nat
  funnelStep : Str
  eventType : Str
  deriving DecidableEq, Repr

/-- A row of `commerce_funnel_counts`. -/
structure CommerceFunnelCount extends FunnelStep where
  eventCount : Nat
  deriving DecidableEq, Repr

/-- A row of `product_event_counts`. -/
structure ProductEventCount where
  productId : Option Str
  eventType : Str
  eventCount : Nat
  deriving DecidableEq, Repr

/-- `event_type_counts`. -/
def eventTypeCounts (table : EventTable) : List EventTypeCount :=
  (groupBy EventRecord.eventType table).map fun group => ⟨group.1, group.2.length⟩

/-- `user_event_counts`. -/
def userEventCounts (table : EventTable) : List UserEventCount :=
  (groupBy EventRecord.userId table).map fun group => ⟨group.1, group.2.length⟩

/-- `date_trunc('hour', moment)` in a session whose offset from UTC is `zone`. -/
def dateTruncHour (zone : Int → Int) (moment : Int) : Int :=
  moment - (moment + zone moment) % 3600000000

section Views

variable (localZone : LocalZone) (zone : Int → Int)

/-- The key of `hourly_event_counts`. -/
def hourlyKey (row : EventRecord) : Int × Str :=
  (dateTruncHour zone (row.occurredAt.utcMicros localZone), row.eventType)

/-- `hourly_event_counts`. -/
def hourlyEventCounts (table : EventTable) : List HourlyEventCount :=
  (groupBy (hourlyKey localZone zone) table).map fun group =>
    ⟨group.1.1, group.1.2, group.2.length⟩

end Views

/-- `NULLIF(value, 0)`. -/
def nullifZero (value : Nat) : Option Nat := if value = 0 then none else some value

/-- `error_event_ratio`. -/
def errorEventRatio (table : EventTable) : ErrorEventRatio :=
  let errorEvents := table.countP fun row => row.eventType = str "checkout_error"
  let totalEvents := table.length
  { errorEvents := errorEvents
    totalEvents := totalEvents
    errorRatio := (nullifZero totalEvents).map fun total : Nat =>
      roundTo 4 ((errorEvents : ℚ) / (total : ℚ)) }

/-- The literal list of `commerce_funnel_counts`. -/
def funnel : List FunnelStep :=
  [⟨1, str "Page view", str "page_view"⟩, ⟨2, str "Product click", str "product_click"⟩,
    ⟨3, str "Add to cart", str "add_to_cart"⟩, ⟨4, str "Purchase", str "purchase"⟩,
    ⟨5, str "Checkout error", str "checkout_error"⟩]

/-- `commerce_funnel_counts`: the count is of the joined rows that are not null. -/
def commerceFunnelCounts (table : EventTable) : List CommerceFunnelCount :=
  (groupBy Prod.fst (leftJoin funnel table fun step row => row.eventType = step.eventType)).map
    fun group => ⟨group.1, group.2.countP fun joined => joined.2.isSome⟩

/-- `product_event_counts`. -/
def productEventCounts (table : EventTable) : List ProductEventCount :=
  (groupBy (fun row : EventRecord => (row.productId, row.eventType))
    (table.filter fun row => row.productId.isSome)).map fun group =>
      ⟨group.1.1, group.1.2, group.2.length⟩

/-! ## Each view counts the events -/

/-- The count a view gives for an event type, none when no row has it. -/
def countFor {ρ : Type} (eventType : ρ → Str) (eventCount : ρ → Nat) (rows : List ρ) (name : Str) :
    Nat :=
  ((rows.filter fun row => eventType row = name).map eventCount).sum

/-- The events of one type. -/
def eventsOfType (table : EventTable) (name : Str) : Nat :=
  table.countP fun row => row.eventType = name

theorem sum_eventTypeCounts (table : EventTable) :
    ((eventTypeCounts table).map EventTypeCount.eventCount).sum = table.length := by
  rw [eventTypeCounts, List.map_map]
  exact sum_length_groupBy _ table

theorem sum_userEventCounts (table : EventTable) :
    ((userEventCounts table).map UserEventCount.eventCount).sum = table.length := by
  rw [userEventCounts, List.map_map]
  exact sum_length_groupBy _ table

theorem sum_hourlyEventCounts (localZone : LocalZone) (zone : Int → Int) (table : EventTable) :
    ((hourlyEventCounts localZone zone table).map HourlyEventCount.eventCount).sum =
      table.length := by
  rw [hourlyEventCounts, List.map_map]
  exact sum_length_groupBy _ table

/-- Products are counted where there is one. -/
theorem sum_productEventCounts (table : EventTable) :
    ((productEventCounts table).map ProductEventCount.eventCount).sum =
      table.countP fun row => row.productId.isSome := by
  rw [productEventCounts, List.map_map, List.countP_eq_length_filter]
  exact sum_length_groupBy _ _

/-- A type has one row in `event_type_counts`, with the number of its events. -/
theorem countFor_eventTypeCounts (table : EventTable) (name : Str) :
    countFor EventTypeCount.eventType EventTypeCount.eventCount (eventTypeCounts table) name =
      eventsOfType table name := by
  rw [countFor, eventTypeCounts, List.filter_map, List.map_map]
  exact sum_length_filter_groupBy EventRecord.eventType (fun key => decide (key = name)) table

/-- The hours of a type add up to its events. -/
theorem countFor_hourlyEventCounts (localZone : LocalZone) (zone : Int → Int)
    (table : EventTable) (name : Str) :
    countFor HourlyEventCount.eventType HourlyEventCount.eventCount
        (hourlyEventCounts localZone zone table) name = eventsOfType table name := by
  rw [countFor, hourlyEventCounts, List.filter_map, List.map_map]
  exact sum_length_filter_groupBy (hourlyKey localZone zone)
    (fun key => decide (key.2 = name)) table

theorem funnel_nodup : funnel.Nodup := by decide

/-- The funnel has one row per step, with the number of events of its type. -/
theorem perm_commerceFunnelCounts (table : EventTable) :
    (commerceFunnelCounts table).Perm
      (funnel.map fun step => ⟨step, eventsOfType table step.eventType⟩) := by
  have hcounts : commerceFunnelCounts table =
      ((groupBy Prod.fst (leftJoin funnel table
        fun step row => row.eventType = step.eventType)).map Prod.fst).map
          fun step => ⟨step, eventsOfType table step.eventType⟩ := by
    rw [commerceFunnelCounts, List.map_map]
    apply List.map_congr_left
    intro group hg
    exact congrArg (CommerceFunnelCount.mk group.1) (countP_groupBy_leftJoin funnel_nodup hg)
  rw [hcounts]
  exact (perm_groupBy_leftJoin funnel_nodup table _).map _

theorem countFor_commerceFunnelCounts (table : EventTable) (t : EventType) :
    countFor (fun row => row.eventType) CommerceFunnelCount.eventCount (commerceFunnelCounts table)
        t.text = eventsOfType table t.text := by
  have hstep : ∃ step, funnel.filter (fun step => step.eventType = t.text) = [step] ∧
      step.eventType = t.text := by
    cases t <;> exact ⟨_, rfl, rfl⟩
  obtain ⟨step, hf, hn⟩ := hstep
  rw [countFor, (((perm_commerceFunnelCounts table).filter _).map _).sum_eq, List.filter_map,
    List.map_map]
  have hf' : funnel.filter ((fun row : CommerceFunnelCount => decide (row.eventType = t.text)) ∘
      fun step => ⟨step, eventsOfType table step.eventType⟩) = [step] := hf
  rw [hf', List.map_singleton, List.sum_singleton, Function.comp_apply, hn]

/-! ## What ingestion can fill -/

/-- The tables ingestion fills: every type is an accepted one and no id occurs twice. -/
structure AcceptedTable (table : EventTable) : Prop where
  event_type : ∀ row ∈ table, ∃ t : EventType, row.eventType = t.text
  event_id : table.ids.Nodup

/-- Every state of the ingestion has such a table. -/
theorem acceptedTable_of_reachable {F : Type} {n : Nat} {p : Pipeline F} {s : System F n}
    (h : s.Reachable p) : AcceptedTable s.table where
  event_type := by
    intro row hr
    obtain ⟨event, _, rfl⟩ := h.counted.row_of_first hr
    exact ⟨event.eventType, rfl⟩
  event_id := h.counted.nodup

/-- Every accepted type is a step of the funnel, so the steps count every event. -/
theorem sum_commerceFunnelCounts {table : EventTable} (h : AcceptedTable table) :
    ((commerceFunnelCounts table).map CommerceFunnelCount.eventCount).sum = table.length := by
  have hkeys : (funnel.map FunnelStep.eventType).Nodup := by decide
  have hall : ∀ t : EventType, t.text ∈ funnel.map FunnelStep.eventType := by
    intro t
    cases t <;> decide
  have hcovered : ∀ row ∈ table, true = true → row.eventType ∈ funnel.map FunnelStep.eventType := by
    intro row hr _
    obtain ⟨t, ht⟩ := h.event_type row hr
    exact ht ▸ hall t
  have hsum := sum_countP_key EventRecord.eventType (fun _ => true) hkeys hcovered
  rw [((perm_commerceFunnelCounts table).map _).sum_eq, List.map_map]
  rw [List.map_map] at hsum
  simpa [eventsOfType, Function.comp_def] using hsum

/-! ## The agreement -/

/-- The views over one table agree with each other and with the table. -/
structure ViewsAgree (localZone : LocalZone) (zone : Int → Int) (table : EventTable) : Prop where
  eventTypeCounts_total :
    ((eventTypeCounts table).map EventTypeCount.eventCount).sum = table.length
  userEventCounts_total :
    ((userEventCounts table).map UserEventCount.eventCount).sum = table.length
  hourlyEventCounts_total :
    ((hourlyEventCounts localZone zone table).map HourlyEventCount.eventCount).sum = table.length
  commerceFunnelCounts_total :
    ((commerceFunnelCounts table).map CommerceFunnelCount.eventCount).sum = table.length
  totalEvents : (errorEventRatio table).totalEvents = table.length
  eventTypeCounts_once : ((eventTypeCounts table).map EventTypeCount.eventType).Nodup
  commerceFunnelCounts_once :
    ((commerceFunnelCounts table).map fun row => row.eventType).Perm
      ([.pageView, .productClick, .addToCart, .purchase, .checkoutError].map EventType.text)
  eventTypeCounts_byType : ∀ t : EventType,
    countFor EventTypeCount.eventType EventTypeCount.eventCount (eventTypeCounts table) t.text =
      countFor (fun row => row.eventType) CommerceFunnelCount.eventCount
        (commerceFunnelCounts table) t.text
  hourlyEventCounts_byType : ∀ t : EventType,
    countFor HourlyEventCount.eventType HourlyEventCount.eventCount
        (hourlyEventCounts localZone zone table) t.text =
      countFor (fun row => row.eventType) CommerceFunnelCount.eventCount
        (commerceFunnelCounts table) t.text
  errorEvents : (errorEventRatio table).errorEvents =
    countFor (fun row => row.eventType) CommerceFunnelCount.eventCount
      (commerceFunnelCounts table) EventType.checkoutError.text
  errorRatio_null : (errorEventRatio table).errorRatio = none ↔ table = []
  errorRatio_value : table ≠ [] → (errorEventRatio table).errorRatio =
    some (roundTo 4 ((errorEventRatio table).errorEvents / (errorEventRatio table).totalEvents))
  productEventCounts_total :
    ((productEventCounts table).map ProductEventCount.eventCount).sum =
      table.countP fun row => row.productId.isSome

theorem nullifZero_eq_none {value : Nat} : nullifZero value = none ↔ value = 0 := by
  unfold nullifZero
  split <;> simp [*]

/-- The views agree over every table of accepted events. -/
theorem viewsAgree_of_accepted (localZone : LocalZone) (zone : Int → Int) {table : EventTable}
    (h : AcceptedTable table) : ViewsAgree localZone zone table where
  eventTypeCounts_total := sum_eventTypeCounts table
  userEventCounts_total := sum_userEventCounts table
  hourlyEventCounts_total := sum_hourlyEventCounts localZone zone table
  commerceFunnelCounts_total := sum_commerceFunnelCounts h
  totalEvents := rfl
  eventTypeCounts_once := by
    rw [eventTypeCounts, List.map_map]
    exact nodup_groupBy EventRecord.eventType table
  commerceFunnelCounts_once := by
    have hp := (perm_commerceFunnelCounts table).map fun row => row.eventType
    rw [List.map_map] at hp
    exact hp
  eventTypeCounts_byType := by
    intro t
    rw [countFor_eventTypeCounts, countFor_commerceFunnelCounts]
  hourlyEventCounts_byType := by
    intro t
    rw [countFor_hourlyEventCounts, countFor_commerceFunnelCounts]
  errorEvents := (countFor_commerceFunnelCounts table .checkoutError).symm
  errorRatio_null := by
    rw [errorEventRatio, Option.map_eq_none_iff, nullifZero_eq_none, List.length_eq_zero_iff]
  errorRatio_value := by
    intro hne
    have hlen : table.length ≠ 0 := fun he => hne (List.length_eq_zero_iff.mp he)
    simp only [errorEventRatio, nullifZero, hlen, ite_false, Option.map_some]
  productEventCounts_total := sum_productEventCounts table

/-- The six views agree over every table of accepted events, and so in every state the
ingestion reaches. -/
theorem builtin_views_agree (localZone : LocalZone) (zone : Int → Int) :
    (∀ table : EventTable, AcceptedTable table → ViewsAgree localZone zone table) ∧
      ∀ (F : Type) (n : Nat) (p : Pipeline F) (s : System F n), s.Reachable p →
        ViewsAgree localZone zone s.table :=
  ⟨fun _ h => viewsAgree_of_accepted localZone zone h,
    fun _ _ _ _ h => viewsAgree_of_accepted localZone zone (acceptedTable_of_reachable h)⟩

/-- The views over the table of two page views of two users. -/
theorem builtin_views_agree_pair :
    ViewsAgree (fun _ => 0) (fun _ => 0) pairDrained.table ∧
      (userEventCounts pairDrained.table).length = 2 ∧
      (errorEventRatio pairDrained.table).totalEvents = 2 :=
  ⟨(builtin_views_agree (fun _ => 0) fun _ => 0).2 Str 1 exactPipeline pairDrained
    pairDrained_reachable, by decide +kernel, by decide +kernel⟩

end LiveData.Analytics

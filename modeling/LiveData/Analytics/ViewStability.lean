import LiveData.Analytics.BuiltinViews
import LiveData.Events.Quiescence

/-!
# The built-in views over a drained stream

The six views depend on the rows of the table and not on their order, so that what they
show of a drained stream depends on the events of the stream only.
-/

namespace LiveData.Analytics

open Aggregate Events

/-- The views over two tables show the same rows. -/
structure SameViews (localZone : LocalZone) (zone : Int → Int) (table table' : EventTable) :
    Prop where
  eventTypeCounts : (eventTypeCounts table).Perm (eventTypeCounts table')
  userEventCounts : (userEventCounts table).Perm (userEventCounts table')
  hourlyEventCounts :
    (hourlyEventCounts localZone zone table).Perm (hourlyEventCounts localZone zone table')
  errorEventRatio : errorEventRatio table = errorEventRatio table'
  commerceFunnelCounts : (commerceFunnelCounts table).Perm (commerceFunnelCounts table')
  productEventCounts : (productEventCounts table).Perm (productEventCounts table')

theorem eventsOfType_perm {table table' : EventTable} (h : table.Perm table') (name : Str) :
    eventsOfType table name = eventsOfType table' name := h.countP_eq _

theorem errorEventRatio_perm {table table' : EventTable} (h : table.Perm table') :
    errorEventRatio table = errorEventRatio table' := by
  unfold errorEventRatio
  rw [h.countP_eq, h.length_eq]

theorem perm_commerceFunnelCounts_perm {table table' : EventTable} (h : table.Perm table') :
    (commerceFunnelCounts table).Perm (commerceFunnelCounts table') := by
  refine (perm_commerceFunnelCounts table).trans ?_
  simp only [eventsOfType_perm h]
  exact (perm_commerceFunnelCounts table').symm

/-- The order of the rows does not matter to the views. -/
theorem sameViews_of_perm (localZone : LocalZone) (zone : Int → Int)
    {table table' : EventTable} (h : table.Perm table') :
    SameViews localZone zone table table' where
  eventTypeCounts := perm_map_groupBy _ h fun k g g' hg => by rw [hg.length_eq]
  userEventCounts := perm_map_groupBy _ h fun k g g' hg => by rw [hg.length_eq]
  hourlyEventCounts := perm_map_groupBy _ h fun k g g' hg => by rw [hg.length_eq]
  errorEventRatio := errorEventRatio_perm h
  commerceFunnelCounts := perm_commerceFunnelCounts_perm h
  productEventCounts := perm_map_groupBy _ (h.filter _) fun k g g' hg => by rw [hg.length_eq]

/-- The views over the table of a drained stream are those over a load of its events, whose
ids are unambiguous, in any order and with any repetition. -/
theorem views_of_drained {F : Type} {n : Nat} (localZone : LocalZone) (zone : Int → Int)
    (p : Pipeline F) (s : System F n) (h : s.Reachable p) (hd : s.Drained)
    (events : List WebEvent) (hu : Unambiguous events)
    (hsame : ∀ event, event ∈ events ↔ event ∈ streamEvents p s.group.entries) :
    SameViews localZone zone s.table (insertEvents [] events).1 := by
  have hu' : Unambiguous (streamEvents p s.group.entries) := fun event he event' he' =>
    hu event ((hsame event).mpr he) event' ((hsame event').mpr he')
  exact sameViews_of_perm localZone zone
    ((h.perm_load hd hu').trans (perm_insertEvents hu hsame).symm)

/-- The views over two page views, loaded in the other order. -/
theorem views_of_pairDrained :
    SameViews (fun _ => 0) (fun _ => 0) pairDrained.table
      (insertEvents [] [received (pageView (str "evt_2") (str "user_2")) none,
        received (pageView (str "evt_1") (str "user_1")) none]).1 := by
  refine views_of_drained (fun _ => 0) (fun _ => 0) exactPipeline pairDrained
    pairDrained_reachable pairDrained_drained _ ?_ ?_
  · intro event he event' he' hid
    rcases List.mem_pair.mp he with rfl | rfl <;> rcases List.mem_pair.mp he' with rfl | rfl
    · rfl
    · exact absurd hid (by decide +kernel)
    · exact absurd hid (by decide +kernel)
    · rfl
  · intro event
    rw [streamEvents_pairDrained]
    simp [or_comm]

end LiveData.Analytics

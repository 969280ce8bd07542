import LiveData.Events.EventStore
import LiveData.Events.WireFormat
import LiveData.Generator.EventIds

/-!
# Producer runs in the event store

The events of one run are stored before those of another. Rows of present ids are ignored, so
the earlier run drops events of the later one as far as they share ids.
-/

namespace LiveData.Events

open Generator

variable {F : Type}

/-- The consumer receives the event from the run. -/
def SentBy (getrandbits : Fin (2 ^ 64) → Fin (2 ^ 32)) (ofCents : Nat → F) (seed : Fin (2 ^ 64))
    (run : ProducerRun) (event : WebEvent) : Prop :=
  ∃ i amount, event = received (run.event getrandbits ofCents seed i) amount

/-- Whatever is stored of the first kind of events, those of the second kind are inserted as
into an empty table. -/
def DropsNothing (Earlier Later : WebEvent → Prop) : Prop :=
  ∀ stored sent : List WebEvent, (∀ event ∈ stored, Earlier event) →
    (∀ event ∈ sent, Later event) →
    (insertEvents (insertEvents [] stored).1 sent).2 = (insertEvents [] sent).2

/-- Events without a common id drop none of each other. -/
theorem dropsNothing_of_ids_ne {Earlier Later : WebEvent → Prop}
    (h : ∀ event other, Earlier event → Later other → event.eventId ≠ other.eventId) :
    DropsNothing Earlier Later := by
  intro stored sent hstored hsent
  have hids : ∀ row ∈ sent.map eventToRecordValues,
      row.eventId ∉ (insertEvents [] stored).1.map EventRecord.eventId := by
    intro row hrow hmem
    obtain ⟨other, hother, rfl⟩ := List.mem_map.mp hrow
    rw [insertEvents, KeyedTable.mem_keys_insertRows] at hmem
    rcases hmem with hmem | hmem
    · exact absurd hmem List.not_mem_nil
    · obtain ⟨stored, hs, hid⟩ := List.mem_map.mp hmem
      obtain ⟨event, he, rfl⟩ := List.mem_map.mp hs
      exact h event other (hstored event he) (hsent other hother) hid
  have hrows : (KeyedTable.insertRows EventRecord.eventId ((insertEvents [] stored).1 ++ [])
      (sent.map eventToRecordValues)).2 =
        (KeyedTable.insertRows EventRecord.eventId [] (sent.map eventToRecordValues)).2 :=
    KeyedTable.insertRows_append_left hids
  rw [List.append_nil] at hrows
  exact hrows

/-- An event whose id is stored is dropped. -/
theorem not_dropsNothing_of_same_id {Earlier Later : WebEvent → Prop} {event other : WebEvent}
    (he : Earlier event) (ho : Later other) (hid : event.eventId = other.eventId) :
    ¬DropsNothing Earlier Later := by
  intro h
  have hrows := h [event] [other] (by simpa using he) (by simpa using ho)
  have hstored : (insertEvents [] [event]).1 = [eventToRecordValues event] := rfl
  have hmem : (eventToRecordValues other).eventId ∈
      [eventToRecordValues event].map EventRecord.eventId := by
    rw [List.map_singleton, List.mem_singleton]
    exact hid.symm
  have hdropped : (insertEvents [eventToRecordValues event] [other]).2 = [] := by
    rw [insertEvents, List.map_singleton, KeyedTable.insertRows_of_mem hmem]
    rfl
  rw [hstored, hdropped] at hrows
  exact absurd hrows nofun

/-- Two runs share no id, and the earlier one drops nothing of the later one, exactly when
their seeds draw different prefixes. -/
theorem runs_apart_iff (getrandbits : Fin (2 ^ 64) → Fin (2 ^ 32)) (ofCents : Nat → F)
    (seed seed' : Fin (2 ^ 64)) (run run' : ProducerRun) :
    ((∀ i j, (run.event getrandbits ofCents seed i).eventId ≠
        (run'.event getrandbits ofCents seed' j).eventId) ↔
      getrandbits seed ≠ getrandbits seed') ∧
    (DropsNothing (SentBy getrandbits ofCents seed run) (SentBy getrandbits ofCents seed' run') ↔
      getrandbits seed ≠ getrandbits seed') := by
  refine ⟨ProducerRun.eventIds_ne_iff, fun h he => ?_, fun hne => ?_⟩
  · have hid : (run.event getrandbits ofCents seed 0).eventId =
        (run'.event getrandbits ofCents seed' 0).eventId := by
      rw [ProducerRun.eventId_event, ProducerRun.eventId_event, he]
    have hearlier : SentBy getrandbits ofCents seed run
        (received (run.event getrandbits ofCents seed 0) none) := ⟨0, none, rfl⟩
    have hlater : SentBy getrandbits ofCents seed' run'
        (received (run'.event getrandbits ofCents seed' 0) none) := ⟨0, none, rfl⟩
    exact not_dropsNothing_of_same_id hearlier hlater hid h
  · apply dropsNothing_of_ids_ne
    rintro _ _ ⟨i, amount, rfl⟩ ⟨j, amount', rfl⟩
    exact ProducerRun.eventIds_ne_iff.mpr hne i j

/-- A run of purchases. -/
def purchaseRun : ProducerRun where
  config := noonGenerator.config
  catalog := noonGenerator.catalog
  draws := fun _ => purchaseDraws
  start_le := noonGenerator.start_le

/-- No function of the seed keeps the runs of all seeds apart. -/
theorem no_prefix_keeps_runs_apart :
    ¬∃ getrandbits : Fin (2 ^ 64) → Fin (2 ^ 32), ∀ (seed seed' : Fin (2 ^ 64)), seed ≠ seed' →
      ∀ (run run' : ProducerRun) (i j : Nat),
        (run.event getrandbits exactHost.ofCents seed i).eventId ≠
          (run'.event getrandbits exactHost.ofCents seed' j).eventId := by
  rintro ⟨getrandbits, h⟩
  obtain ⟨seed, seed', hne, hsame⟩ := exists_same_prefix getrandbits
  exact ProducerRun.eventIds_ne_iff.mp (h seed seed' hne purchaseRun purchaseRun) hsame

end LiveData.Events

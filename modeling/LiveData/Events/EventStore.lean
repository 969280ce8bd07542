import LiveData.Core.KeyedTable
import LiveData.Events.Domain

/-!
# The event store

`save_batch` inserts a batch in one statement: all of its rows in order, ignoring present
ids, or none when a row lies outside the domain of the table.
-/

namespace LiveData.Events

/-- The rows of the events table in insertion order. -/
abbrev EventTable := List EventRecord

/-- The ids of the rows. -/
def EventTable.ids (table : EventTable) : List Str := table.map EventRecord.eventId

/-- `build_insert_events_statement`, executed: the table and the inserted rows. -/
def insertEvents (table : EventTable) (events : List WebEvent) : EventTable × List EventRecord :=
  KeyedTable.insertRows EventRecord.eventId table (events.map eventToRecordValues)

/-- `PostgresEventRepository.save_batch`: the number of new rows and the table. -/
def saveBatch (localZone : LocalZone) (table : EventTable) (events : List WebEvent) :
    Option (Nat × EventTable) :=
  if events = [] then some (0, table)
  else if ∀ event ∈ events, (eventToRecordValues event).InDomain localZone then
    let inserted := insertEvents table events
    some (inserted.2.length, inserted.1)
  else none

/-- `IngestEventsResult`. -/
structure IngestEventsResult where
  receivedCount : Nat
  insertedCount : Nat
  deriving DecidableEq, Repr

/-- `IngestEventsUseCase.ingest`. -/
def ingest (localZone : LocalZone) (table : EventTable) (events : List WebEvent) :
    Option (IngestEventsResult × EventTable) :=
  let receivedCount := events.length
  if receivedCount = 0 then some (⟨0, 0⟩, table)
  else
    (saveBatch localZone table events).map fun saved => (⟨receivedCount, saved.1⟩, saved.2)

/-- A batch whose rows lie in the domain is stored. -/
theorem ingest_of_inDomain {localZone : LocalZone} (table : EventTable) {events : List WebEvent}
    (h : ∀ event ∈ events, (eventToRecordValues event).InDomain localZone) :
    ingest localZone table events = some (⟨events.length, (insertEvents table events).2.length⟩,
      (insertEvents table events).1) := by
  cases events with
  | nil => rfl
  | cons event events =>
    simp only [ingest, saveBatch, List.length_cons, Nat.add_one_ne_zero, ite_false, reduceCtorEq]
    rw [if_pos h]
    rfl

/-- One row outside the domain fails the whole batch. -/
theorem ingest_of_not_inDomain {localZone : LocalZone} (table : EventTable)
    {events : List WebEvent}
    (h : ¬∀ event ∈ events, (eventToRecordValues event).InDomain localZone) :
    ingest localZone table events = none := by
  cases events with
  | nil => exact absurd (by simp) h
  | cons event events =>
    simp only [ingest, saveBatch, List.length_cons, Nat.add_one_ne_zero, ite_false, reduceCtorEq]
    rw [if_neg h]
    rfl

end LiveData.Events

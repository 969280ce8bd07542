import LiveData.Events.Backlog

/-!
# Drained streams

When every entry is acknowledged, the table holds what a load of the stream in its order
would have put there, whatever the loops did. How many of them there were, their batches,
their crashes and what Redis redelivered leaves no trace but the order of the rows.
-/

namespace LiveData.Events

open Json

variable {F : Type} {n : Nat} {p : Pipeline F} {s : System F n}

/-- The event of an entry, when it is decoded and accepted. -/
def entryEvent (p : Pipeline F) (entry : StreamEntry) : Option WebEvent :=
  (decodePayload p.decoder entry.fields).toOption.bind (coercePayload p.pydantic)

/-- The events of a stream in its order. -/
def streamEvents (p : Pipeline F) (entries : List StreamEntry) : List WebEvent :=
  entries.filterMap (entryEvent p)

/-- Events with one id make one row. -/
def Unambiguous (events : List WebEvent) : Prop :=
  ∀ event ∈ events, ∀ event' ∈ events, event.eventId = event'.eventId →
    eventToRecordValues event = eventToRecordValues event'

theorem entryEvent_eq_some {entry : StreamEntry} {event : WebEvent} :
    entryEvent p entry = some event ↔ ∃ payload,
      decodePayload p.decoder entry.fields = .ok payload ∧
        coercePayload p.pydantic payload = some event := by
  unfold entryEvent
  cases decodePayload p.decoder entry.fields <;> simp [Except.toOption]

/-- Committed events are events of the stream. -/
theorem System.Reachable.mem_streamEvents (h : s.Reachable p) {event : WebEvent}
    (he : event ∈ s.committed) : event ∈ streamEvents p s.group.entries := by
  obtain ⟨⟨message, ⟨entry, hentry, hd⟩, hc⟩, -⟩ := h.sourced.committed event he
  exact List.mem_filterMap.mpr
    ⟨entry, hentry, entryEvent_eq_some.mpr ⟨_, (decodeEntry_eq_ok.mp hd).2, hc⟩⟩

/-- Once every entry is acknowledged, every event of the stream is committed. -/
theorem System.Reachable.mem_committed_iff (h : s.Reachable p) (hd : s.Drained)
    (event : WebEvent) : event ∈ s.committed ↔ event ∈ streamEvents p s.group.entries := by
  refine ⟨h.mem_streamEvents, fun he => ?_⟩
  obtain ⟨entry, hentry, he⟩ := List.mem_filterMap.mp he
  obtain ⟨payload, hpayload, hc⟩ := entryEvent_eq_some.mp he
  obtain ⟨payload', hpayload', hcommitted⟩ := h.committed_of_acked hentry (hd entry hentry)
  obtain rfl := Except.ok.inj (hpayload.symm.trans hpayload')
  exact hcommitted event hc

/-- The ids after a load are the ids of its events. -/
theorem mem_ids_insertEvents (events : List WebEvent) (id : Str) :
    id ∈ (insertEvents [] events).1.ids ↔ id ∈ events.map WebEvent.eventId := by
  refine (KeyedTable.mem_keys_insertRows _ _ _).trans ?_
  simp [eventToRecordValues]

/-- The rows after a load are rows of its events. -/
theorem exists_of_mem_insertEvents {events : List WebEvent} {row : EventRecord}
    (hr : row ∈ (insertEvents [] events).1) :
    ∃ event ∈ events, row = eventToRecordValues event := by
  rw [insertEvents, KeyedTable.insertRows_fst, List.nil_append] at hr
  obtain ⟨event, he, rfl⟩ := List.mem_map.mp ((KeyedTable.sublist_insertRows _ _).subset hr)
  exact ⟨event, he, rfl⟩

/-- Loads of the same events leave the same rows, in whatever order and how often the events
come, as long as they are unambiguous. -/
theorem perm_insertEvents {events events' : List WebEvent} (hu : Unambiguous events)
    (hsame : ∀ event, event ∈ events ↔ event ∈ events') :
    (insertEvents [] events).1.Perm (insertEvents [] events').1 := by
  refine KeyedTable.perm_of_mem_keys_iff (KeyedTable.nodup_insertRows (by simp) _)
    (KeyedTable.nodup_insertRows (by simp) _) (fun id => ?_) fun row hr row' hr' hkey => ?_
  · refine (mem_ids_insertEvents events id).trans
      (Iff.trans ?_ (mem_ids_insertEvents events' id).symm)
    simp [hsame]
  · obtain ⟨event, he, rfl⟩ := exists_of_mem_insertEvents hr
    obtain ⟨event', he', rfl⟩ := exists_of_mem_insertEvents hr'
    exact hu event he event' ((hsame event').mpr he') hkey

/-- A drained table is a load of its stream, up to order. -/
theorem System.Reachable.perm_load (h : s.Reachable p) (hd : s.Drained)
    (hu : Unambiguous (streamEvents p s.group.entries)) :
    s.table.Perm (insertEvents [] (streamEvents p s.group.entries)).1 := by
  have hsame := h.mem_committed_iff hd
  rw [h.counted.table]
  refine perm_insertEvents (fun event he event' he' => ?_) hsame
  exact hu event ((hsame event).mp he) event' ((hsame event').mp he')

/-- A drained stream leaves the ids of its events, and when these are unambiguous, the rows of
a load in stream order. Two systems that drained streams of the same events hold the same rows,
whatever their loops, batch sizes and redeliveries. -/
theorem drained_tables_agree (p : Pipeline F) (s : System F n) (h : s.Reachable p)
    (hd : s.Drained) :
    (∀ id, id ∈ s.table.ids ↔ ∃ event ∈ streamEvents p s.group.entries, event.eventId = id) ∧
    (Unambiguous (streamEvents p s.group.entries) →
      s.table.Perm (insertEvents [] (streamEvents p s.group.entries)).1 ∧
      ∀ (q : Pipeline F) (m : Nat) (t : System F m), t.Reachable q → t.Drained →
        (∀ event, event ∈ streamEvents q t.group.entries ↔
          event ∈ streamEvents p s.group.entries) →
        s.table.Perm t.table) := by
  refine ⟨fun id => ?_, fun hu => ⟨h.perm_load hd hu, fun q m t ht htd hevents => ?_⟩⟩
  · rw [h.counted.table, mem_ids_insertEvents]
    simp [h.mem_committed_iff hd]
  · have hload := perm_insertEvents hu fun event => (hevents event).symm
    have hu' : Unambiguous (streamEvents q t.group.entries) := fun event he event' he' =>
      hu event ((hevents event).mp he) event' ((hevents event').mp he')
    exact (h.perm_load hd hu).trans (hload.trans (ht.perm_load htd hu').symm)

/-- The pair of page views after one poll. -/
def pairDrained : System Str 1 :=
  (System.pollOnce exactPipeline ⟨0, Nat.one_pos⟩)^[1] pairBacklog

theorem pairDrained_eq : pairDrained = (System.pollOnce exactPipeline 0)^[1] pairBacklog := rfl

theorem pairDrained_reachable : pairDrained.Reachable exactPipeline := by
  rw [pairDrained_eq]
  exact (pairBacklog_resting.iterate pairBacklog_allHealthy 1).1.reachable

theorem pairDrained_drained : pairDrained.Drained := by
  rw [pairDrained_eq, pairBacklog_resting.drained_iterate_iff pairBacklog_allHealthy]
  decide +kernel

theorem entryEvent_pageViewEntry (messageId eventId userId : Str) (he : NonEmptyText eventId)
    (hu : NonEmptyText userId) : entryEvent exactPipeline (pageViewEntry messageId eventId userId) =
      some (received (pageView eventId userId) none) :=
  entryEvent_eq_some.mpr ⟨_, (decodeEntry_eq_ok.mp (decodeEntry_pageViewEntry _ _ _)).2,
    coercePayload_pageView he hu⟩

theorem streamEvents_pairDrained : streamEvents exactPipeline pairDrained.group.entries =
    [received (pageView (str "evt_1") (str "user_1")) none,
      received (pageView (str "evt_2") (str "user_2")) none] := by
  have hfirst := entryEvent_pageViewEntry (str "1-0") (str "evt_1") (str "user_1")
    (by decide) (by decide)
  have hsecond := entryEvent_pageViewEntry (str "2-0") (str "evt_2") (str "user_2")
    (by decide) (by decide)
  rw [pairDrained_eq, (pairBacklog_resting.iterate pairBacklog_allHealthy 1).2,
    pairBacklog_entries]
  simp only [streamEvents, List.filterMap_cons, hfirst, hsecond, List.filterMap_nil]

/-- The table after one poll is the load of the two page views. -/
theorem pairDrained_load : pairDrained.table.Perm
    (insertEvents [] (streamEvents exactPipeline pairDrained.group.entries)).1 := by
  refine ((drained_tables_agree exactPipeline pairDrained pairDrained_reachable
    pairDrained_drained).2 ?_).1
  rw [streamEvents_pairDrained]
  intro event he event' he' hid
  rcases List.mem_pair.mp he with rfl | rfl <;> rcases List.mem_pair.mp he' with rfl | rfl
  · rfl
  · exact absurd hid (by decide +kernel)
  · exact absurd hid (by decide +kernel)
  · rfl

end LiveData.Events

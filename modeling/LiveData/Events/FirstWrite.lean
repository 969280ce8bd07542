import LiveData.Events.NoEventLost
import Mathlib.Algebra.BigOperators.Fin

/-!
# First write wins

The table is the fold of everything committed over the empty table, whatever was
delivered how often. As long as every poll returns, the counts of the polls and the rows of
stores that raised after their commit add up to the table: what the polls in flight have
inserted is carried along.
-/

namespace LiveData.Events

open Json

variable {F : Type} {n : Nat} {p : Pipeline F} {s t : System F n}

/-- The rows a poll has inserted and not yet reported. -/
def Phase.unreported : Phase F → Nat
  | .stored _ _ insertedCount => insertedCount
  | _ => 0

/-- A poll inserts no more rows than it has valid events. -/
def Phase.Bounded (pydantic : Pydantic F) : Phase F → Prop
  | .stored messages _ insertedCount =>
    insertedCount ≤ (classify pydantic messages).validEvents.length
  | _ => True

/-- The counts of a poll result fit together. -/
def PollResult.Consistent (r : PollResult) : Prop :=
  r.readCount = r.validCount + r.invalidCount ∧ r.insertedCount ≤ r.validCount

/-- Every message of a batch is valid or invalid. -/
theorem length_classify (pydantic : Pydantic F) (messages : List (StreamMessage F)) :
    messages.length = (classify pydantic messages).validEvents.length +
      (classify pydantic messages).invalidMessageIds.length := by
  induction messages with
  | nil => rfl
  | cons m messages ih =>
    rw [classify, List.length_cons]
    cases coercePayload pydantic m.payload <;> simp only [List.length_cons] <;> omega

/-- The rows reported and those in flight. -/
def System.reported (s : System F n) : Nat := (s.results.map PollResult.insertedCount).sum

/-- The rows inserted by the polls in flight. -/
def System.inFlight (loops : Fin n → Phase F) : Nat := ∑ i, (loops i).unreported

/-- When one loop moves, a sum over the loops changes by what that loop contributes. -/
theorem sum_update_loops (f : Phase F → Nat) (loops : Fin n → Phase F) (i : Fin n)
    (phase : Phase F) :
    ∑ j, f (Function.update loops i phase j) + f (loops i) = ∑ j, f (loops j) + f phase := by
  have hphases : (fun j => f (Function.update loops i phase j)) =
      Function.update (fun j => f (loops j)) i (f phase) := by
    funext j
    exact Function.apply_update (fun _ => f) loops i phase j
  have hsplit := Finset.add_sum_erase Finset.univ (fun j => f (loops j)) (Finset.mem_univ i)
  rw [hphases, Finset.sum_update_of_mem (Finset.mem_univ i), Finset.sdiff_singleton_eq_erase]
  omega

theorem inFlight_update (loops : Fin n → Phase F) (i : Fin n) (phase : Phase F) :
    System.inFlight (Function.update loops i phase) + (loops i).unreported =
      System.inFlight loops + phase.unreported :=
  sum_update_loops Phase.unreported loops i phase

/-- The invariant of the counts. -/
structure System.Counted (p : Pipeline F) (s : System F n) : Prop where
  table : s.table = (insertEvents [] s.committed).1
  consistent : ∀ r ∈ s.results, r.Consistent
  bounded : ∀ i, (s.loops i).Bounded p.pydantic
  total : s.aborted = 0 →
    s.table.length = s.reported + System.inFlight s.loops + s.unconfirmed

/-- A loop that moves within its bounds keeps the bounds of all loops. -/
theorem bounded_update (h : ∀ i, (s.loops i).Bounded p.pydantic) (i : Fin n) {phase : Phase F}
    (hp : phase.Bounded p.pydantic) :
    ∀ j, (Function.update s.loops i phase j).Bounded p.pydantic :=
  (Function.forall_update_iff s.loops fun _ => Phase.Bounded p.pydantic).mpr
    ⟨hp, fun j _ => h j⟩

/-- Entering a phase without inserting anything keeps the counts. -/
theorem System.Counted.enter (hs : s.Counted p) (i : Fin n) {phase : Phase F}
    (hp : phase.Bounded p.pydantic) (hold : (s.loops i).unreported = 0)
    (hnew : phase.unreported = 0) (g : EventGroup) :
    (System.enter { s with group := g } i phase).Counted p where
  table := hs.table
  consistent := hs.consistent
  bounded := bounded_update hs.bounded i hp
  total := by
    intro ha
    have hsum := inFlight_update s.loops i phase
    have htotal := hs.total ha
    change s.table.length =
      s.reported + System.inFlight (Function.update s.loops i phase) + s.unconfirmed
    omega

/-- A poll that returns reports what it has inserted. -/
theorem System.Counted.finish (hs : s.Counted p) (i : Fin n) {result : PollResult}
    (hr : result.Consistent) (hold : (s.loops i).unreported = result.insertedCount)
    (g : EventGroup) : (System.finish { s with group := g } i result).Counted p where
  table := hs.table
  consistent := by
    intro r hm
    rcases List.mem_append.mp hm with hm | hm
    · exact hs.consistent r hm
    · obtain rfl := List.mem_singleton.mp hm
      exact hr
  bounded := bounded_update hs.bounded i trivial
  total := by
    intro ha
    have hsum := inFlight_update s.loops i .idle
    have hidle : (Phase.idle : Phase F).unreported = 0 := rfl
    have htotal := hs.total ha
    have hreported : (System.finish { s with group := g } i result).reported =
        s.reported + result.insertedCount := by
      simp [System.finish, System.enter, System.reported]
    rw [hreported]
    change s.table.length = _ + System.inFlight (Function.update s.loops i .idle) + s.unconfirmed
    omega

/-- A statement inserts no more rows than it has events. -/
theorem length_inserted_le (table : EventTable) (events : List WebEvent) :
    (insertEvents table events).2.length ≤ events.length := by
  have hsub : List.Sublist (insertEvents table events).2 (events.map eventToRecordValues) :=
    KeyedTable.sublist_insertRows _ _
  simpa only [List.length_map] using hsub.length_le

/-- The table grows by the rows that a statement inserts. -/
theorem length_insertEvents (table : EventTable) (events : List WebEvent) :
    (insertEvents table events).1.length = table.length + (insertEvents table events).2.length := by
  rw [← List.length_append]
  exact congrArg List.length (KeyedTable.insertRows_fst table _)

/-- What is committed is folded into the table. -/
theorem System.Counted.table_append (hs : s.Counted p) (events : List WebEvent) :
    (insertEvents s.table events).1 = (insertEvents [] (s.committed ++ events)).1 := by
  rw [insertEvents, insertEvents, List.map_append, KeyedTable.insertRows_append]
  exact congrArg (fun table => (insertEvents table _).1) hs.table

/-- Committing a batch keeps the counts. -/
theorem System.Counted.commit (hs : s.Counted p) (i : Fin n) (messages : List (StreamMessage F))
    (ackedCount : Nat) (hold : (s.loops i).unreported = 0) :
    System.Counted p
      { s.enter i (.stored messages ackedCount
          (insertEvents s.table (classify p.pydantic messages).validEvents).2.length) with
        table := (insertEvents s.table (classify p.pydantic messages).validEvents).1
        committed := s.committed ++ (classify p.pydantic messages).validEvents } where
  table := hs.table_append _
  consistent := hs.consistent
  bounded := bounded_update hs.bounded i (length_inserted_le s.table _)
  total := by
    intro ha
    have hsum := inFlight_update s.loops i (.stored messages ackedCount
      (insertEvents s.table (classify p.pydantic messages).validEvents).2.length)
    have htotal := hs.total ha
    have hrows := length_insertEvents s.table (classify p.pydantic messages).validEvents
    rw [hold, Phase.unreported] at hsum
    change (insertEvents s.table _).1.length =
      s.reported + System.inFlight (Function.update _ _ _) + s.unconfirmed
    omega

/-- Committing a batch that no poll reports keeps the counts too. -/
theorem System.Counted.commitUnconfirmed (hs : s.Counted p) (events : List WebEvent) :
    System.Counted p
      { s with
        table := (insertEvents s.table events).1
        committed := s.committed ++ events
        unconfirmed := s.unconfirmed + (insertEvents s.table events).2.length } where
  table := hs.table_append _
  consistent := hs.consistent
  bounded := hs.bounded
  total := by
    intro ha
    have htotal := hs.total ha
    have hrows := length_insertEvents s.table events
    change (insertEvents s.table events).1.length =
      s.reported + System.inFlight s.loops + (s.unconfirmed + _)
    omega

/-- Every effect keeps the counts. -/
theorem Effect.counted (h : Effect p s t) (hs : s.Counted p) : t.Counted p := by
  cases h with
  | produce entry hf => exact ⟨hs.table, hs.consistent, hs.bounded, hs.total⟩
  | regroup g hg => exact ⟨hs.table, hs.consistent, hs.bounded, hs.total⟩
  | abandon i g hg =>
    refine ⟨hs.table, hs.consistent, bounded_update hs.bounded i trivial, fun ha => ?_⟩
    exact absurd ha (Nat.succ_ne_zero _)
  | readNothing i hi =>
    exact hs.enter i (show Phase.Bounded p.pydantic .readingNew from trivial) (by rw [hi]; rfl) rfl
      s.group
  | read i g hg messages hm hi =>
    refine hs.enter i (show Phase.Bounded p.pydantic (.read messages) from trivial) ?_ rfl g
    rcases hi with hi | hi <;> rw [hi] <;> rfl
  | ackInvalid i messages hi =>
    have hlen := length_classify p.pydantic messages
    have hold : (s.loops i).unreported = 0 := by rw [hi]; rfl
    unfold System.ackInvalid
    dsimp only
    split
    · next hv =>
      refine hs.finish i ⟨?_, Nat.le_refl 0⟩ hold _
      simpa [hv] using hlen
    · exact hs.enter i (show Phase.Bounded p.pydantic (.invalidAcked messages _) from trivial)
        hold rfl _
  | storeCommit i messages ackedCount hi hd =>
    exact hs.commit i messages ackedCount (by rw [hi]; rfl)
  | storeFail i messages ackedCount hi =>
    have hold : (s.loops i).unreported = 0 := by rw [hi]; rfl
    exact hs.finish i ⟨length_classify _ _, Nat.zero_le _⟩ hold s.group
  | storeUnconfirmed i messages ackedCount hi hd =>
    have hold : (s.loops i).unreported = 0 := by rw [hi]; rfl
    have hfailed : (s.storeFail p i messages ackedCount).Counted p :=
      hs.finish i ⟨length_classify _ _, Nat.zero_le _⟩ hold s.group
    exact hfailed.commitUnconfirmed _
  | ackValid i messages ackedCount insertedCount hi =>
    have hold : (s.loops i).unreported = insertedCount := by rw [hi]; rfl
    have hbound : insertedCount ≤ (classify p.pydantic messages).validEvents.length := by
      have hb := hs.bounded i
      rwa [hi] at hb
    exact hs.finish i ⟨length_classify _ _, hbound⟩ hold _

/-- The ids of the table are distinct. -/
theorem System.Counted.nodup (hs : s.Counted p) : s.table.ids.Nodup := by
  rw [hs.table]
  exact KeyedTable.nodup_insertRows (by simp) _

/-- The counts hold in every reachable state. -/
theorem System.Reachable.counted (h : s.Reachable p) : s.Counted p := by
  obtain ⟨actions, hr⟩ := h
  refine invariant_of_run (fun _ _ _ hs ht => (effect_of_step ht).counted hs) ?_ hr
  refine ⟨rfl, by simp [System.init], fun _ => trivial, fun _ => ?_⟩
  simp [System.init, System.reported, System.inFlight, Phase.unreported]

/-- The row of an id is that of the first committed event with it. -/
theorem System.Counted.row_of_first (hs : s.Counted p) {row : EventRecord}
    (hrow : row ∈ s.table) :
    ∃ event, s.committed.find? (fun e => e.eventId = row.eventId) = some event ∧
      row = eventToRecordValues event := by
  have hfind := KeyedTable.find?_eq_of_mem hs.nodup hrow
  rw [hs.table, insertEvents, KeyedTable.find?_insertRows, List.nil_append, List.find?_map,
    Option.map_eq_some_iff] at hfind
  obtain ⟨event, he, hr⟩ := hfind
  exact ⟨event, he, hr.symm⟩

/-- Every committed event has a row. -/
theorem System.Counted.mem_ids (hs : s.Counted p) {event : WebEvent}
    (he : event ∈ s.committed) : event.eventId ∈ s.table.ids := by
  rw [hs.table]
  refine (KeyedTable.mem_keys_insertRows _ _ _).mpr (Or.inr ?_)
  rw [List.map_map]
  exact List.mem_map_of_mem (f := EventRecord.eventId ∘ eventToRecordValues) he

/-- With all loops idle nothing is in flight. -/
theorem inFlight_of_idle {loops : Fin n → Phase F} (h : ∀ i, loops i = .idle) :
    System.inFlight loops = 0 :=
  Finset.sum_eq_zero fun i _ => by rw [h i]; rfl

/-- Ingestion is idempotent and the first write wins. The polls report every row but those of
stores that raised after their commit. -/
theorem ingestion_first_write_wins (p : Pipeline F) (s : System F n) (h : s.Reachable p) :
    s.table.ids.Nodup ∧
      (∀ row ∈ s.table, ∃ event,
        s.committed.find? (fun e => e.eventId = row.eventId) = some event ∧
          row = eventToRecordValues event) ∧
      (∀ event ∈ s.committed, event.eventId ∈ s.table.ids) ∧
      (∀ actions t, run (System.step p) s actions = some t → s.table <+: t.table) ∧
      (∀ r ∈ s.results, r.readCount = r.validCount + r.invalidCount ∧
        r.insertedCount ≤ r.validCount) ∧
      (s.aborted = 0 → (∀ i, s.loops i = .idle) →
        (s.results.map PollResult.insertedCount).sum + s.unconfirmed = s.table.length) := by
  have hs := h.counted
  refine ⟨hs.nodup, fun row => hs.row_of_first, fun event => hs.mem_ids,
    fun actions t ht => (grows_of_run ht).table, hs.consistent, fun ha hidle => ?_⟩
  have htotal := hs.total ha
  rw [inFlight_of_idle hidle, Nat.add_zero] at htotal
  exact htotal.symm

/-- The first of two messages with one id has the row. -/
example : sharedState.table.map EventRecord.userId = [str "user_1"] ∧ sharedState.aborted = 0 := by
  decide +kernel

/-- One row is counted once over both loops. -/
theorem shared_first_write_wins :
    sharedState.table.ids.Nodup ∧
      (∀ row ∈ sharedState.table, ∃ event,
        sharedState.committed.find? (fun e => e.eventId = row.eventId) = some event ∧
          row = eventToRecordValues event) ∧
      (∀ event ∈ sharedState.committed, event.eventId ∈ sharedState.table.ids) ∧
      (∀ actions t, run (System.step exactPipeline) sharedState actions = some t →
        sharedState.table <+: t.table) ∧
      (∀ r ∈ sharedState.results, r.readCount = r.validCount + r.invalidCount ∧
        r.insertedCount ≤ r.validCount) ∧
      (sharedState.aborted = 0 → (∀ i, sharedState.loops i = .idle) →
        (sharedState.results.map PollResult.insertedCount).sum + sharedState.unconfirmed =
          sharedState.table.length) :=
  ingestion_first_write_wins exactPipeline sharedState sharedState_reachable

/-- The reply to the commit of a batch is lost, and the batch is read and stored again. -/
def unconfirmedRun : List (Action 1) :=
  [.ensureGroup ⟨0, Nat.one_pos⟩,
    .produce (pageViewEntry (str "1-0") (str "evt_1") (str "user_1")),
    .readPending ⟨0, Nat.one_pos⟩, .readNew ⟨0, Nat.one_pos⟩, .ackInvalid ⟨0, Nat.one_pos⟩,
    .storeUnconfirmed ⟨0, Nat.one_pos⟩, .readPending ⟨0, Nat.one_pos⟩,
    .ackInvalid ⟨0, Nat.one_pos⟩, .storeCommit ⟨0, Nat.one_pos⟩, .ackValid ⟨0, Nat.one_pos⟩]

/-- The state after that run. -/
def unconfirmedState : System Str 1 :=
  (run (System.step exactPipeline) (System.init Str 1) unconfirmedRun).getD (System.init Str 1)

/-- With the last acknowledgement the only loop is idle. -/
theorem idle_of_run_ackValid {s t : System F 1} {actions : List (Action 1)} {i : Fin 1}
    (h : run (System.step p) s (actions ++ [.ackValid i]) = some t) : ∀ j, t.loops j = .idle := by
  obtain ⟨u, _, hlast⟩ := run_append_eq_some.mp h
  obtain ⟨v, hstep, hv⟩ := run_cons_eq_some.mp hlast
  obtain rfl := Option.some.inj hv
  obtain ⟨messages, ackedCount, insertedCount, _, rfl⟩ := System.step_ackValid.mp hstep
  intro j
  obtain rfl := Subsingleton.elim i j
  exact Function.update_self ..

/-- Both polls return, and neither has counted the row. -/
theorem unconfirmed_row_not_counted :
    ¬∀ (p : Pipeline Str) (s : System Str 1), s.Reachable p → s.aborted = 0 →
      (∀ i, s.loops i = .idle) →
        (s.results.map PollResult.insertedCount).sum = s.table.length := by
  intro h
  have hrun : run (System.step exactPipeline) (System.init Str 1)
      (unconfirmedRun.dropLast ++ [.ackValid ⟨0, Nat.one_pos⟩]) = some unconfirmedState :=
    run_eq_some_getD (by decide +kernel) _
  have hreachable : unconfirmedState.Reachable exactPipeline := ⟨_, hrun⟩
  have hidle := idle_of_run_ackValid hrun
  have hsum := h exactPipeline unconfirmedState hreachable (by decide +kernel) hidle
  revert hsum
  decide +kernel

end LiveData.Events

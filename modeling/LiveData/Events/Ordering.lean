import LiveData.Events.NoEventLost

/-!
# Ordered and bounded consumption

A single loop asks for new entries only when its first read came back empty, and nothing
but that second read delivers an entry. So every entry before the batch being delivered is
acknowledged by then; within one batch the entries arrive together.
-/

namespace LiveData.Events

open Json

variable {F : Type} {p : Pipeline F} {s t : System F 1}

/-- The entry at the position is delivered by the step and was not before. -/
def FirstDelivered (s t : System F 1) (k : Nat) : Prop :=
  s.group.delivered ≤ k ∧ k < t.group.delivered

/-- The entry at the position is acknowledged, and was rejected or has a row. -/
def System.Done (p : Pipeline F) (s : System F 1) (j : Nat) : Prop :=
  ∃ entry, s.group.entries[j]? = some entry ∧ entry.messageId ∈ s.group.acked ∧
    ∃ payload, decodePayload p.decoder entry.fields = .ok payload ∧
      (coercePayload p.pydantic payload = none ∨
        ∃ event row, coercePayload p.pydantic payload = some event ∧ row ∈ s.table ∧
          row.eventId = event.eventId)

/-- The group is in order, and nothing is pending between the two reads. -/
structure System.Ordered (p : Pipeline F) (s : System F 1) : Prop where
  group : s.group.InOrder StreamEntry.messageId p.batchSize
  reading : s.loops 0 = .readingNew → s.group.pending = []

/-- A step that leaves the loop outside the second read only has to keep the group in order. -/
theorem System.Ordered.of_group (h : t.group.InOrder StreamEntry.messageId p.batchSize)
    (hl : t.loops 0 ≠ .readingNew) : t.Ordered p := ⟨h, fun he => absurd he hl⟩

/-- Every step of the loop and of its producers keeps the order. -/
theorem ordered_step (h : s.Ordered p) {a : Action 1} (ha : a.IsPolled)
    (hs : System.step p s a = some t) : t.Ordered p := by
  have hzero : ∀ {i : Fin 1}, t.loops i ≠ .readingNew → t.loops 0 ≠ .readingNew :=
    fun {i} hl => Fin.fin_one_eq_zero i ▸ hl
  cases turn_of_step hs with
  | append entry hg hl => exact ⟨hg ▸ h.group.append entry, fun ht => hg ▸ h.reading (hl ▸ ht)⟩
  | redeliver messageId hg => exact absurd rfl (ha messageId)
  | stay _ hg hl =>
    rcases hg with hg | hg
    · exact ⟨hg ▸ h.group, fun ht => hg ▸ h.reading (hl ▸ ht)⟩
    · exact ⟨hg ▸ h.group.create, fun ht => hg ▸ h.reading (hl ▸ ht)⟩
  | readNothing _ hg hr =>
    exact ⟨hg ▸ h.group, fun _ => hg ▸ h.group.pending_eq_nil p.batchSize_pos hr⟩
  | readNew _ i hi hg hl =>
    rw [Fin.fin_one_eq_zero i] at hi
    exact .of_group (hg ▸ h.group.readNew (h.reading hi)) (hzero hl)
  | ack _ i ids hg hl => exact .of_group (hg ▸ h.group.ack ids) (hzero hl)
  | leave _ i hg hl => exact .of_group (hg ▸ h.group) (hzero hl)

/-- The order holds along every run in which Redis redelivers nothing by itself. -/
theorem ordered_of_run {actions : List (Action 1)} (hown : ∀ a ∈ actions, a.IsPolled)
    (hr : run (System.step p) (System.init F 1) actions = some s) : s.Ordered p := by
  refine invariant_of_run_of_forall
    (fun _ a _ h (ha : a.IsPolled) hs => ordered_step h ha hs) ?_ ?_ hr
  · exact ⟨.empty _ _, fun h => nomatch h⟩
  · rintro before a after t rfl _
    exact hown a (by simp)

/-- Only the second read delivers. -/
theorem reading_of_delivered {a : Action 1} (hs : System.step p s a = some t)
    (hd : s.group.delivered < t.group.delivered) : s.loops 0 = .readingNew := by
  have hne : ∀ g : EventGroup, g.delivered = s.group.delivered → t.group ≠ g := by
    intro g hg he
    rw [he, hg] at hd
    exact Nat.lt_irrefl _ hd
  cases turn_of_step hs with
  | append entry hg _ => exact absurd hg (hne _ rfl)
  | redeliver messageId hg => exact absurd hg (hne _ rfl)
  | stay _ hg _ => exact absurd hg (not_or_intro (hne _ rfl) (hne _ rfl))
  | readNothing _ hg _ => exact absurd hg (hne _ rfl)
  | readNew _ i hi _ _ => exact Fin.fin_one_eq_zero i ▸ hi
  | ack _ i ids hg _ => exact absurd hg (hne _ rfl)
  | leave _ i hg _ => exact absurd hg (hne _ rfl)

/-- With nothing pending, every entry delivered before is done with. -/
theorem done_of_pending_eq_nil (h : s.Ordered p) (hsafe : s.Safe p) (hp : s.group.pending = [])
    {j : Nat} (hj : j < s.group.delivered) : s.Done p j := by
  have hlen : j < s.group.entries.length := Nat.lt_of_lt_of_le hj h.group.delivered_le
  have hentry : s.group.entries[j]? = some s.group.entries[j] := List.getElem?_eq_getElem hlen
  have hmem : s.group.entries[j] ∈ s.group.entries.take s.group.delivered :=
    List.mem_take_iff_getElem.mpr ⟨j, by omega, rfl⟩
  have hacked := h.group.acked_of_pending_eq_nil hp hmem
  exact ⟨_, hentry, hacked, hsafe.rejected_or_stored (List.getElem_mem hlen) hacked⟩

/-- At most a batch is pending, new entries are requested with nothing pending, and when an
entry is first delivered every earlier one outside its own batch is done with. -/
theorem consumption_ordered_and_bounded (p : Pipeline F) (actions : List (Action 1))
    (s : System F 1) (hown : ∀ a ∈ actions, a.IsPolled)
    (hr : run (System.step p) (System.init F 1) actions = some s) :
    s.group.pending.length ≤ p.batchSize ∧
      (∀ i t, System.step p s (.readNew i) = some t → s.group.pending = []) ∧
      ∀ a t, System.step p s a = some t → ∀ k, FirstDelivered s t k →
        ∀ j < k, ¬FirstDelivered s t j → s.Done p j := by
  have h := ordered_of_run hown hr
  have hsafe := System.Reachable.safe ⟨actions, hr⟩
  refine ⟨h.group.pending_le, fun i t hs => ?_, ?_⟩
  · obtain ⟨hi, _⟩ := System.step_readNew.mp hs
    exact h.reading (Fin.fin_one_eq_zero i ▸ hi)
  intro a t hs k ⟨hlow, hhigh⟩ j hjk hj
  have hread : s.loops 0 = .readingNew := reading_of_delivered hs (Nat.lt_of_le_of_lt hlow hhigh)
  have hbefore : j < s.group.delivered := by
    by_contra hge
    exact hj ⟨Nat.le_of_not_lt hge, Nat.lt_trans hjk hhigh⟩
  exact done_of_pending_eq_nil h hsafe (h.reading hread) hbefore

/-- Two entries arrive and are about to be read. -/
def pairRun : List (Action 1) :=
  [.ensureGroup ⟨0, Nat.one_pos⟩,
    .produce (pageViewEntry (str "1-0") (str "evt_1") (str "user_1")),
    .produce (pageViewEntry (str "2-0") (str "evt_2") (str "user_2")),
    .readPending ⟨0, Nat.one_pos⟩]

/-- The state after that run. -/
def pairState : System Str 1 :=
  (run (System.step exactPipeline) (System.init Str 1) pairRun).getD (System.init Str 1)

theorem pairState_run :
    run (System.step exactPipeline) (System.init Str 1) pairRun = some pairState :=
  run_eq_some_getD (by decide +kernel) _

theorem isPolled_pairRun : ∀ a ∈ pairRun, a.IsPolled := by
  intro a ha messageId he
  subst he
  simp [pairRun] at ha

/-- The state after the second read. -/
def pairDelivered : System Str 1 := pairState.readNew exactPipeline ⟨0, Nat.one_pos⟩

theorem pairDelivered_step :
    System.step exactPipeline pairState (.readNew 0) = some pairDelivered := by
  have hi : pairState.loops 0 = .readingNew := rfl
  simp only [System.step, hi]
  rfl

/-- The first of two entries delivered together is not done with when the second arrives. -/
theorem batch_is_delivered_together :
    ¬∀ (p : Pipeline Str) (actions : List (Action 1)) (s : System Str 1),
      (∀ a ∈ actions, a.IsPolled) →
      run (System.step p) (System.init Str 1) actions = some s →
        ∀ a t, System.step p s a = some t → ∀ k, FirstDelivered s t k → ∀ j < k, t.Done p j := by
  intro h
  have hfirst : FirstDelivered pairState pairDelivered 1 := by
    constructor <;> decide +kernel
  obtain ⟨entry, _, hacked, _⟩ := h exactPipeline pairRun pairState isPolled_pairRun pairState_run
    (.readNew 0) pairDelivered pairDelivered_step 1 hfirst 0 (by decide)
  have hnone : pairDelivered.group.acked = [] := by decide +kernel
  rw [hnone] at hacked
  exact absurd hacked List.not_mem_nil

/-- A first entry is read, stored and acknowledged before the second one arrives. -/
def turnsRun : List (Action 1) :=
  [.ensureGroup ⟨0, Nat.one_pos⟩,
    .produce (pageViewEntry (str "1-0") (str "evt_1") (str "user_1")),
    .readPending ⟨0, Nat.one_pos⟩, .readNew ⟨0, Nat.one_pos⟩, .ackInvalid ⟨0, Nat.one_pos⟩,
    .storeCommit ⟨0, Nat.one_pos⟩, .ackValid ⟨0, Nat.one_pos⟩,
    .produce (pageViewEntry (str "2-0") (str "evt_2") (str "user_2")),
    .readPending ⟨0, Nat.one_pos⟩]

/-- The state before the second entry is read. -/
def turnsState : System Str 1 :=
  (run (System.step exactPipeline) (System.init Str 1) turnsRun).getD (System.init Str 1)

theorem turnsState_run :
    run (System.step exactPipeline) (System.init Str 1) turnsRun = some turnsState :=
  run_eq_some_getD (by decide +kernel) _

theorem isPolled_turnsRun : ∀ a ∈ turnsRun, a.IsPolled := by
  intro a ha messageId he
  subst he
  simp [turnsRun] at ha

/-- The state after it is read. -/
def turnsDelivered : System Str 1 :=
  (System.step exactPipeline turnsState (.readNew ⟨0, Nat.one_pos⟩)).getD turnsState

theorem turnsDelivered_step :
    System.step exactPipeline turnsState (.readNew 0) = some turnsDelivered := by
  have hsome : (System.step exactPipeline turnsState (.readNew 0)).isSome = true := by
    decide +kernel
  obtain ⟨t, ht⟩ := Option.isSome_iff_exists.mp hsome
  exact ht.trans (congrArg (fun step => some (step.getD turnsState)) ht).symm

/-- When the second entry is delivered the first one is done with. -/
theorem turns_ordered_and_bounded :
    turnsState.group.pending.length ≤ 100 ∧ turnsState.group.pending = [] ∧
      FirstDelivered turnsState turnsDelivered 1 ∧ ¬FirstDelivered turnsState turnsDelivered 0 ∧
      turnsState.Done exactPipeline 0 := by
  obtain ⟨hbounded, hpending, hdone⟩ :=
    consumption_ordered_and_bounded exactPipeline turnsRun turnsState isPolled_turnsRun
      turnsState_run
  have hsecond : FirstDelivered turnsState turnsDelivered 1 := by
    constructor <;> decide +kernel
  have hfirst : ¬FirstDelivered turnsState turnsDelivered 0 := by
    rintro ⟨hnone, -⟩
    exact absurd hnone (by decide +kernel)
  exact ⟨hbounded, hpending 0 _ turnsDelivered_step, hsecond, hfirst,
    hdone _ _ turnsDelivered_step 1 hsecond 0 Nat.one_pos hfirst⟩

end LiveData.Events

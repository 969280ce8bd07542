import LiveData.Events.Accounting
import LiveData.Events.Ordering
import LiveData.Events.Provenance
import LiveData.Events.Storability

/-!
# Backlogs drain

A single loop acknowledges a stream whose entries it can all finish, in a number of polls
that is known beforehand. One delivered entry that it cannot finish stops the delivery for
good, however many loops there are.
-/

namespace LiveData.Events

open Json

variable {F : Type} {n : Nat} {p : Pipeline F}

/-- A run without redelivery leads from the one state to the other. -/
def System.Polls (p : Pipeline F) (s t : System F n) : Prop :=
  ∃ actions : List (Action n), (∀ a ∈ actions, a.IsPolled) ∧
    run (System.step p) s actions = some t

section Polls

variable {s t u : System F n}

theorem System.Polls.refl (s : System F n) : s.Polls p s := ⟨[], by simp, rfl⟩

theorem System.Polls.trans (h : s.Polls p t) (h' : t.Polls p u) : s.Polls p u := by
  obtain ⟨actions, hp, hr⟩ := h
  obtain ⟨actions', hp', hr'⟩ := h'
  refine ⟨actions ++ actions', fun a ha => ?_, run_append_eq_some.mpr ⟨t, hr, hr'⟩⟩
  exact (List.mem_append.mp ha).elim (hp a) (hp' a)

theorem System.Polls.advance (p : Pipeline F) (s : System F n) (i : Fin n) :
    s.Polls p (s.advance p i) := by
  obtain ⟨a, ha, hs⟩ := exists_step_advance p s i
  exact ⟨[a], by simpa using ha, run_cons_eq_some.mpr ⟨_, hs, rfl⟩⟩

theorem System.Polls.proceed (p : Pipeline F) (s : System F n) (i : Fin n) :
    s.Polls p (s.proceed p i) := by
  unfold System.proceed
  split
  · exact .refl s
  · exact .advance p s i

/-- A poll is a run without redelivery. -/
theorem System.Polls.pollOnce (p : Pipeline F) (s : System F n) (i : Fin n) :
    s.Polls p (s.pollOnce p i) :=
  ((((System.Polls.advance p s i).trans (.proceed p _ i)).trans (.proceed p _ i)).trans
    (.proceed p _ i)).trans (.proceed p _ i)

/-- So are any number of polls. -/
theorem System.Polls.iterate (p : Pipeline F) (s : System F n) (i : Fin n) (k : Nat) :
    s.Polls p ((System.pollOnce p i)^[k] s) := by
  induction k generalizing s with
  | zero => exact .refl s
  | succ k ih => exact (System.Polls.pollOnce p s i).trans (ih _)

end Polls

/-! ## Healthy entries -/

/-- A batch of healthy entries is decoded, and its rows lie in the domain. -/
theorem exists_readMessages (entries : List StreamEntry)
    (h : ∀ entry ∈ entries, Healthy p entry) :
    ∃ messages, readMessages p.decoder (groupReply entries) = .ok messages ∧
      messages.map StreamMessage.messageId = entries.map StreamEntry.messageId ∧
      RowsInDomain p messages := by
  have hdecoded : ∀ entry ∈ entries, ∃ message, decodeEntry p.decoder entry = .ok message := by
    intro entry hentry
    obtain ⟨payload, hp, -⟩ := h entry hentry
    exact ⟨⟨entry.messageId, payload⟩, decodeEntry_eq_ok.mpr ⟨rfl, hp⟩⟩
  obtain ⟨messages, hr⟩ := exists_mapM_eq_ok.mpr hdecoded
  have hm := mapM_eq_ok.mp hr
  refine ⟨messages, by rwa [readMessages, replyEntries_groupReply], ?_, ?_⟩
  · refine (List.forall₂_eq_eq_eq ▸ List.forall₂_map_left_iff.mpr
      (List.forall₂_map_right_iff.mpr (hm.imp fun entry message hd => ?_)) : _ = _).symm
    exact (decodeEntry_eq_ok.mp hd).1.symm
  · intro event he
    obtain ⟨m, hmem, hc⟩ := mem_validEvents.mp he
    obtain ⟨entry, hentry, hd⟩ := forall₂_exists_of_mem_right hm hmem
    obtain ⟨payload, hp, hdomain⟩ := h entry hentry
    obtain rfl := Except.ok.inj (hp.symm.trans (decodeEntry_eq_ok.mp hd).2)
    exact hdomain event hc

/-! ## A single loop between two polls -/

/-- The loop is idle and has its group, and Redis has redelivered nothing. -/
structure System.Resting (p : Pipeline F) (s : System F 1) : Prop where
  polls : (System.init F 1).Polls p s
  idle : s.loops 0 = .idle
  created : s.group.created = true

/-- Every entry of the stream is healthy. -/
def System.AllHealthy (p : Pipeline F) (s : System F n) : Prop :=
  ∀ entry ∈ s.group.entries, Healthy p entry

/-- The number of polls a healthy backlog takes. -/
def System.rounds (p : Pipeline F) (s : System F n) : Nat :=
  (if s.group.pending = [] then 0 else 1) +
    (s.group.entries.length - s.group.delivered + p.batchSize - 1) / p.batchSize

/-- Every entry of the stream is acknowledged. -/
def System.Drained (s : System F n) : Prop :=
  ∀ entry ∈ s.group.entries, entry.messageId ∈ s.group.acked

variable {s t : System F 1}

theorem System.Resting.reachable (h : s.Resting p) : s.Reachable p := by
  obtain ⟨actions, -, hr⟩ := h.polls
  exact ⟨actions, hr⟩

theorem System.Resting.ordered (h : s.Resting p) : s.Ordered p := by
  obtain ⟨actions, hpolled, hr⟩ := h.polls
  exact ordered_of_run hpolled hr

theorem System.Resting.audited (h : s.Resting p) : s.Audited p := by
  obtain ⟨actions, hpolled, hr⟩ := h.polls
  exact audited_of_run hpolled hr

/-- Settling a batch of rows in the domain that covers what is pending leaves nothing
pending. -/
theorem Settles.pending_eq_nil {messages : List (StreamMessage F)} {i : Fin n}
    {r u : System F n}
    (h : Settles p i messages (classify p.pydantic messages).invalidMessageIds r u)
    (hrows : RowsInDomain p messages)
    (hcover : ∀ id ∈ r.group.pending, id ∈ messages.map StreamMessage.messageId) :
    u.group.pending = [] := by
  refine List.eq_nil_iff_forall_not_mem.mpr fun id hid => ?_
  obtain ⟨m, hm, rfl⟩ := List.mem_map.mp (hcover id ((h.pending id).mp hid).1.1)
  exact h.notMem_pending hrows hm hid

/-- What a poll of a healthy backlog leaves. -/
structure Progresses (p : Pipeline F) (s t : System F 1) : Prop where
  resting : t.Resting p
  entries : t.group.entries = s.group.entries
  pending : t.group.pending = []
  delivered : t.group.delivered = if s.group.pending = [] then
    s.group.delivered + (s.group.newEntries p.batchSize).length else s.group.delivered

/-- A poll with pending entries finishes them. -/
theorem progresses_pending (h : s.Resting p) (hh : s.AllHealthy p) (hp : s.group.pending ≠ []) :
    Progresses p s (s.pollOnce p 0) := by
  have hgroup := h.ordered.group
  have hfilter := ConsumerGroup.readPending_eq_filter h.audited.safe.distinct hgroup.pending_le
  obtain ⟨messages, hr, hids, hrows⟩ := exists_readMessages
    (s.group.readPending StreamEntry.messageId p.batchSize)
    fun entry he => hh entry (ConsumerGroup.mem_of_mem_readPending he)
  have hm : messages ≠ [] := by
    rintro rfl
    rw [List.map_nil, eq_comm, List.map_eq_nil_iff] at hids
    exact hp (hgroup.pending_eq_nil p.batchSize_pos hids)
  have hsettled := pollOnce_pending h.idle h.created hm hr
  refine ⟨⟨h.polls.trans (.pollOnce p s 0), hsettled.idle, by rw [hsettled.log]; exact h.created⟩,
    by rw [hsettled.log], hsettled.pending_eq_nil hrows fun id hid => ?_, ?_⟩
  · obtain ⟨entry, he, rfl⟩ := List.mem_map.mp (hgroup.pending_known id hid)
    rw [hids, hfilter]
    exact List.mem_map_of_mem (List.mem_filter.mpr ⟨he, by simpa using hid⟩)
  · rw [if_neg hp, hsettled.log]

/-- A poll without pending entries delivers and finishes the next ones. -/
theorem progresses_new (h : s.Resting p) (hh : s.AllHealthy p) (hp : s.group.pending = []) :
    Progresses p s (s.pollOnce p 0) := by
  have hnone : readMessages p.decoder
      (groupReply (s.group.readPending StreamEntry.messageId p.batchSize)) = .ok [] := by
    simp [ConsumerGroup.readPending, hp, readMessages, pure, Except.pure]
  obtain ⟨messages, hr, hids, hrows⟩ := exists_readMessages
    (s.group.newEntries p.batchSize)
    fun entry he => hh entry (ConsumerGroup.mem_of_mem_newEntries he)
  have hsettled := pollOnce_new h.idle h.created hnone hr
  refine ⟨⟨h.polls.trans (.pollOnce p s 0), hsettled.idle, by rw [hsettled.log]; exact h.created⟩,
    by rw [hsettled.log]; rfl, hsettled.pending_eq_nil hrows fun id hid => ?_, ?_⟩
  · rw [hids]
    change id ∈ s.group.pending ++ _ at hid
    rwa [hp, List.nil_append] at hid
  · rw [if_pos hp, hsettled.log]
    rfl

/-- A poll of a healthy backlog finishes what is pending, or else the next entries. -/
theorem System.Resting.progresses (h : s.Resting p) (hh : s.AllHealthy p) :
    Progresses p s (s.pollOnce p 0) := by
  by_cases hp : s.group.pending = []
  · exact progresses_new h hh hp
  · exact progresses_pending h hh hp

theorem Progresses.allHealthy (h : Progresses p s t) (hh : s.AllHealthy p) : t.AllHealthy p :=
  fun entry he => hh entry (h.entries ▸ he)

/-- A read takes a batch off the rest of the stream. -/
theorem ceil_sub_min (rest : Nat) {size : Nat} (hsize : 1 ≤ size) :
    (rest - min size rest + size - 1) / size = (rest + size - 1) / size - 1 := by
  rcases Nat.le_total rest size with hle | hle
  · rw [Nat.min_eq_right hle, Nat.sub_self, Nat.zero_add]
    have hzero : (size - 1) / size = 0 := Nat.div_eq_of_lt (by omega)
    have hone : (rest + size - 1) / size ≤ 1 :=
      Nat.le_of_lt_succ ((Nat.div_lt_iff_lt_mul (by omega)).mpr (by omega))
    omega
  · have hsplit : rest + size - 1 = (rest - size + size - 1) + size := by omega
    rw [Nat.min_eq_left hle, hsplit, Nat.add_div_right _ (by omega)]
    rfl

/-- A poll of a healthy backlog leaves one poll less. -/
theorem Progresses.rounds (h : Progresses p s t) : t.rounds p = s.rounds p - 1 := by
  unfold System.rounds
  rw [h.pending, h.entries, h.delivered, if_pos rfl]
  by_cases hp : s.group.pending = []
  · have hlen : (s.group.newEntries p.batchSize).length =
        min p.batchSize (s.group.entries.length - s.group.delivered) := by
      rw [ConsumerGroup.newEntries, List.length_take, List.length_drop]
    rw [if_pos hp, if_pos hp, hlen, ← Nat.sub_sub, ceil_sub_min _ p.batchSize_pos]
    omega
  · rw [if_neg hp, if_neg hp, Nat.zero_add, Nat.add_sub_cancel_left]

/-- Nothing is left to poll when every entry is acknowledged, and only then. -/
theorem System.Resting.drained_iff (h : s.Resting p) : s.Drained ↔ s.rounds p = 0 := by
  have ha := h.audited
  have hle := ha.partitioned.delivered_le
  have hperm := ha.partitioned.perm
  have hpos := p.batchSize_pos
  have hrounds : s.rounds p = 0 ↔
      s.group.pending = [] ∧ s.group.entries.length ≤ s.group.delivered := by
    rw [System.rounds, Nat.add_eq_zero_iff, Nat.div_eq_zero_iff]
    refine and_congr ?_ (by omega)
    split <;> simp_all
  rw [hrounds]
  constructor
  · intro hd
    refine ⟨List.eq_nil_iff_forall_not_mem.mpr fun id hid => ?_, ?_⟩
    · obtain ⟨entry, he, rfl⟩ := List.mem_map.mp (h.ordered.group.pending_known id hid)
      exact List.disjoint_of_nodup_append ha.nodup hid (hd entry he)
    · have hsub : s.group.entries.map StreamEntry.messageId ⊆ s.group.acked := by
        intro id hid
        obtain ⟨entry, he, rfl⟩ := List.mem_map.mp hid
        exact hd entry he
      have hids := ha.safe.distinct.length_le_of_subset hsub
      have hlen := hperm.length_eq
      rw [List.length_map] at hids
      rw [List.length_append, List.length_map, List.length_take_of_le hle] at hlen
      omega
  · rintro ⟨hp, hall⟩ entry he
    rw [hp, List.nil_append, List.take_of_length_le hall] at hperm
    exact hperm.mem_iff.mpr (List.mem_map_of_mem he)

/-- A healthy backlog is drained by its number of polls and by no fewer. -/
theorem System.Resting.drained_iterate_iff (h : s.Resting p) (hh : s.AllHealthy p) (k : Nat) :
    ((System.pollOnce p 0)^[k] s).Drained ↔ s.rounds p ≤ k := by
  induction k generalizing s with
  | zero => rw [Function.iterate_zero_apply, h.drained_iff, Nat.le_zero]
  | succ k ih =>
    have hstep := h.progresses hh
    rw [Function.iterate_succ_apply, ih hstep.resting (hstep.allHealthy hh), hstep.rounds]
    omega

/-- Polls of a healthy backlog keep its entries. -/
theorem System.Resting.iterate (h : s.Resting p) (hh : s.AllHealthy p) (k : Nat) :
    ((System.pollOnce p 0)^[k] s).Resting p ∧
      ((System.pollOnce p 0)^[k] s).group.entries = s.group.entries := by
  induction k generalizing s with
  | zero => exact ⟨h, rfl⟩
  | succ k ih =>
    have hstep := h.progresses hh
    obtain ⟨hresting, hentries⟩ := ih hstep.resting (hstep.allHealthy hh)
    exact ⟨hresting, hentries.trans hstep.entries⟩

/-- A page view with ids fits the table. -/
theorem healthy_pageViewEntry {eventId userId : Str} (messageId : Str)
    (he : NonEmptyText eventId) (hu : NonEmptyText userId) (hd : (eventToRecordValues
      (received (pageView eventId userId) none)).InDomain exactPipeline.localZone) :
    Healthy exactPipeline (pageViewEntry messageId eventId userId) := by
  refine ⟨_, (decodeEntry_eq_ok.mp (decodeEntry_pageViewEntry messageId eventId userId)).2, ?_⟩
  intro event hc
  obtain rfl := Option.some.inj ((coercePayload_pageView he hu).symm.trans hc)
  exact hd

/-- Two page views are on the stream and the loop is about to poll. -/
def pairBacklogRun : List (Action 1) :=
  [.ensureGroup ⟨0, Nat.one_pos⟩,
    .produce (pageViewEntry (str "1-0") (str "evt_1") (str "user_1")),
    .produce (pageViewEntry (str "2-0") (str "evt_2") (str "user_2"))]

/-- The state after that run. -/
def pairBacklog : System Str 1 :=
  (run (System.step exactPipeline) (System.init Str 1) pairBacklogRun).getD (System.init Str 1)

theorem pairBacklog_resting : pairBacklog.Resting exactPipeline := by
  refine ⟨⟨pairBacklogRun, ?_, run_eq_some_getD (by decide +kernel) _⟩, rfl, rfl⟩
  intro a ha messageId he
  subst he
  simp [pairBacklogRun] at ha

theorem pairBacklog_entries : pairBacklog.group.entries =
    [pageViewEntry (str "1-0") (str "evt_1") (str "user_1"),
      pageViewEntry (str "2-0") (str "evt_2") (str "user_2")] := by decide +kernel

theorem pairBacklog_allHealthy : pairBacklog.AllHealthy exactPipeline := by
  intro entry he
  rw [pairBacklog_entries] at he
  rcases List.mem_pair.mp he with rfl | rfl
  · exact healthy_pageViewEntry _ (by decide) (by decide) (by decide +kernel)
  · exact healthy_pageViewEntry _ (by decide) (by decide) (by decide +kernel)

section Blocking

variable {n : Nat} {s t : System F n} {entry : StreamEntry}

/-- Whether a loop stands before the read that delivers. -/
def Phase.deliversNext : Phase F → Nat
  | .readingNew => 1
  | _ => 0

/-- The loops that stand before the read that delivers. -/
def System.deliverers (s : System F n) : Nat := ∑ i, (s.loops i).deliversNext

/-- An entry that no poll can finish is pending. -/
structure System.Blocked (p : Pipeline F) (entry : StreamEntry) (s : System F n) : Prop where
  reachable : s.Reachable p
  mem : entry ∈ s.group.entries
  pending : entry.messageId ∈ s.group.pending
  unhealthy : ¬Healthy p entry

/-- What loops that already stand before a delivery may still deliver. -/
def System.reach (p : Pipeline F) (s : System F n) : Nat :=
  s.group.delivered + p.batchSize * s.deliverers

theorem deliverers_update (loops : Fin n → Phase F) (i : Fin n) (phase : Phase F) :
    ∑ j, (Function.update loops i phase j).deliversNext + (loops i).deliversNext =
      ∑ j, (loops j).deliversNext + phase.deliversNext :=
  sum_update_loops Phase.deliversNext loops i phase

/-- A loop that moves on delivers only what its phase allowed, if it does not ask again. -/
theorem reach_enter {g : EventGroup} (i : Fin n) {phase : Phase F}
    (hphase : phase.deliversNext = 0) (hg : g.delivered ≤
      s.group.delivered + p.batchSize * (s.loops i).deliversNext) :
    (System.enter { s with group := g } i phase).reach p ≤ s.reach p := by
  have hsum := deliverers_update s.loops i phase
  change g.delivered + p.batchSize * ∑ j, (Function.update s.loops i phase j).deliversNext ≤
    s.group.delivered + p.batchSize * ∑ j, (s.loops j).deliversNext
  rw [hphase, Nat.add_zero] at hsum
  rw [← hsum, Nat.mul_add]
  omega

/-- An id leaves the pending list only when it is acknowledged. -/
theorem pending_or_acked_of_step {a : Action n} (h : System.step p s a = some t) {id : Str}
    (hid : id ∈ s.group.pending) : id ∈ t.group.pending ∨ id ∈ t.group.acked := by
  have hg := groupStep_of_step h
  generalize t.group = g at hg ⊢
  cases hg with
  | append | create | stay => exact Or.inl hid
  | redeliver messageId =>
    left
    unfold ConsumerGroup.redeliver
    dsimp only
    split
    · exact hid
    · exact List.mem_append_left _ hid
  | readNew => exact Or.inl (List.mem_append_left _ hid)
  | ack _ ids =>
    by_cases hi : id ∈ ids
    · exact Or.inr (List.mem_append_right _ (List.mem_filter.mpr ⟨hid, by simpa using hi⟩))
    · exact Or.inl (ConsumerGroup.mem_pending_ack.mpr ⟨hid, hi⟩)

theorem System.Reachable.step {a : Action n} (hs : s.Reachable p)
    (h : System.step p s a = some t) : t.Reachable p := by
  obtain ⟨actions, hr⟩ := hs
  exact ⟨actions ++ [a], run_append_eq_some.mpr ⟨s, hr, run_cons_eq_some.mpr ⟨_, h, rfl⟩⟩⟩

/-- The entry stays pending, as it is never acknowledged. -/
theorem System.Blocked.step {a : Action n} (hb : s.Blocked p entry)
    (h : System.step p s a = some t) : t.Blocked p entry := by
  have ht := hb.reachable.step h
  have hmem := (effect_of_step h).grows.entries.subset hb.mem
  refine ⟨ht, hmem, (pending_or_acked_of_step h hb.pending).resolve_right ?_, hb.unhealthy⟩
  exact fun hacked => hb.unhealthy (ht.healthy_of_acked hmem hacked)

/-- The first read of a loop is not empty, so that no loop asks for new entries again. -/
theorem System.Blocked.reach_readPending (hb : s.Blocked p entry) (i : Fin n) :
    (s.readPending p i).reach p ≤ s.reach p := by
  unfold System.readPending
  split
  · split
    · exact reach_enter (g := s.group) i rfl (Nat.le_add_right _ _)
    · next h =>
      have hreply := mapM_eq_ok.mp h
      rw [replyEntries_groupReply, List.forall₂_nil_right_iff] at hreply
      rcases List.take_eq_nil_iff.mp hreply with hzero | hnil
      · exact absurd hzero (Nat.one_le_iff_ne_zero.mp p.batchSize_pos)
      · exact absurd (by simpa using hb.pending) (List.filter_eq_nil_iff.mp hnil entry hb.mem)
    · exact reach_enter (g := s.group) i rfl (Nat.le_add_right _ _)
  · exact reach_enter (g := s.group) i rfl (Nat.le_add_right _ _)

/-- A loop that was about to deliver does so at most once more. -/
theorem reach_readNew {i : Fin n} (hi : s.loops i = .readingNew) :
    (s.readNew p i).reach p ≤ s.reach p := by
  have hlen : (s.group.newEntries p.batchSize).length ≤ p.batchSize := List.length_take_le _ _
  have hdelivered : (s.group.readNew StreamEntry.messageId p.batchSize).delivered ≤
      s.group.delivered + p.batchSize * (s.loops i).deliversNext := by
    rw [hi]
    change s.group.delivered + _ ≤ s.group.delivered + p.batchSize * 1
    omega
  unfold System.readNew
  dsimp only
  split <;> exact reach_enter i rfl hdelivered

theorem reach_ackInvalid (i : Fin n) (messages : List (StreamMessage F)) :
    (s.ackInvalid p i messages).reach p ≤ s.reach p := by
  unfold System.ackInvalid
  dsimp only
  split
  · exact reach_enter (g := s.group.ack _) i rfl (Nat.le_add_right _ _)
  · exact reach_enter (g := s.group.ack _) i rfl (Nat.le_add_right _ _)

/-- No step of a blocked system extends its reach. -/
theorem System.Blocked.reach_step {a : Action n} (hb : s.Blocked p entry)
    (h : System.step p s a = some t) : t.reach p ≤ s.reach p := by
  cases a with
  | produce entry =>
    obtain ⟨_, rfl⟩ := System.step_produce.mp h
    exact Nat.le_refl _
  | redeliver messageId =>
    obtain ⟨_, rfl⟩ := System.step_redeliver.mp h
    exact Nat.le_refl _
  | ensureGroup i =>
    obtain ⟨_, rfl⟩ := System.step_ensureGroup.mp h
    exact Nat.le_refl _
  | readPending i =>
    obtain ⟨_, rfl⟩ := System.step_readPending.mp h
    exact hb.reach_readPending i
  | readNew i =>
    obtain ⟨hi, rfl⟩ := System.step_readNew.mp h
    exact reach_readNew hi
  | ackInvalid i =>
    obtain ⟨messages, _, rfl⟩ := System.step_ackInvalid.mp h
    exact reach_ackInvalid i messages
  | storeCommit i =>
    obtain ⟨messages, ackedCount, _, hstore⟩ := System.step_storeCommit.mp h
    obtain ⟨stored, _, rfl⟩ := Option.map_eq_some_iff.mp hstore
    exact reach_enter (g := s.group) i rfl (Nat.le_add_right _ _)
  | storeFail i =>
    obtain ⟨messages, ackedCount, _, rfl⟩ := System.step_storeFail.mp h
    exact reach_enter (g := s.group) i rfl (Nat.le_add_right _ _)
  | storeUnconfirmed i =>
    obtain ⟨messages, ackedCount, _, hstore⟩ := System.step_storeUnconfirmed.mp h
    obtain ⟨stored, _, rfl⟩ := Option.map_eq_some_iff.mp hstore
    exact reach_enter (g := s.group) i rfl (Nat.le_add_right _ _)
  | ackValid i =>
    obtain ⟨messages, ackedCount, insertedCount, _, rfl⟩ := System.step_ackValid.mp h
    exact reach_enter (g := s.group.ack _) i rfl (Nat.le_add_right _ _)
  | crash i =>
    rcases System.step_crash.mp h with ⟨_, rfl⟩ | ⟨_, rfl⟩
    · exact Nat.le_refl _
    · exact reach_enter (g := s.group) i rfl (Nat.le_add_right _ _)

/-- An entry that cannot be finished stays pending once it is delivered, whatever the loops, the
producers and Redis do. From then on each loop that was already about to ask for new entries
delivers at most one more batch, and the others none. -/
theorem delivery_stops_at_unhealthy (p : Pipeline F) (s : System F n) (h : s.Reachable p)
    (entry : StreamEntry) (hentry : entry ∈ s.group.entries)
    (hpending : entry.messageId ∈ s.group.pending) (hu : ¬Healthy p entry) :
    ∀ actions t, run (System.step p) s actions = some t →
      entry.messageId ∈ t.group.pending ∧
        t.group.delivered ≤ s.group.delivered + p.batchSize * s.deliverers := by
  intro actions t hr
  have hinv : t.Blocked p entry ∧ t.reach p ≤ s.reach p := by
    refine invariant_of_run (I := fun u => u.Blocked p entry ∧ u.reach p ≤ s.reach p)
      (fun u a v hu' hs => ?_) ⟨⟨h, hentry, hpending, hu⟩, Nat.le_refl _⟩ hr
    exact ⟨hu'.1.step hs, Nat.le_trans (hu'.1.reach_step hs) hu'.2⟩
  exact ⟨hinv.1.pending, Nat.le_trans (Nat.le_add_right _ _) hinv.2⟩

/-- A page view with U+0000 in its id is delivered to one loop while another one has just found
nothing pending. -/
def nulPairRun : List (Action 2) :=
  [.ensureGroup ⟨0, Nat.two_pos⟩,
    .produce (pageViewEntry (str "1-0") nulEventId (str "user_1")),
    .readPending ⟨0, Nat.two_pos⟩, .readPending ⟨1, Nat.one_lt_two⟩,
    .readNew ⟨0, Nat.two_pos⟩]

/-- The state after that run. -/
def nulPairState : System Str 2 :=
  (run (System.step exactPipeline) (System.init Str 2) nulPairRun).getD (System.init Str 2)

theorem not_healthy_nul :
    ¬Healthy exactPipeline (pageViewEntry (str "1-0") nulEventId (str "user_1")) := by
  rintro ⟨payload, hp, hdomain⟩
  obtain rfl := Except.ok.inj
    ((decodeEntry_eq_ok.mp (decodeEntry_pageViewEntry _ _ _)).2.symm.trans hp)
  have hd := hdomain _ (coercePayload_pageView (by decide) (by decide))
  exact ((texts_fit_iff _).mp hd.1).1 0 (by decide) |>.1 rfl

/-- Another page view arrives, and the other loop asks for new entries. -/
def nulPairRest : List (Action 2) :=
  [.produce (pageViewEntry (str "2-0") (str "evt_2") (str "user_2")),
    .readNew ⟨1, Nat.one_lt_two⟩]

/-- The state after that. -/
def nulPairLater : System Str 2 :=
  (run (System.step exactPipeline) nulPairState nulPairRest).getD nulPairState

/-- The entry stays pending, and one batch was still delivered. -/
theorem nulPair_delivery_stops :
    (pageViewEntry (str "1-0") nulEventId (str "user_1")).messageId ∈ nulPairLater.group.pending ∧
      nulPairLater.group.delivered ≤
        nulPairState.group.delivered + exactPipeline.batchSize * nulPairState.deliverers :=
  delivery_stops_at_unhealthy exactPipeline nulPairState
    ⟨nulPairRun, run_eq_some_getD (by decide +kernel) _⟩
    (pageViewEntry (str "1-0") nulEventId (str "user_1")) (by decide +kernel) (by decide +kernel)
    not_healthy_nul nulPairRest nulPairLater (run_eq_some_getD (by decide +kernel) _)

example : nulPairLater.group.delivered = 2 := by decide +kernel

end Blocking

end LiveData.Events

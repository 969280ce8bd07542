import Mathlib.Data.List.Nodup

/-!
# A stream read by a consumer group with one consumer

Entries are appended in order. Reading new entries puts them on the pending list of the
consumer; pending entries are read again until they are acknowledged.
-/

namespace LiveData

/-- The stream, how many of its entries were delivered, the pending list and the
acknowledged ids. -/
structure ConsumerGroup (ε ι : Type*) where
  entries : List ε
  created : Bool
  delivered : Nat
  pending : List ι
  acked : List ι

namespace ConsumerGroup

variable {ε ι : Type*}

/-- An empty stream without the group. -/
def empty : ConsumerGroup ε ι := ⟨[], false, 0, [], []⟩

/-- `XADD`. -/
def append (g : ConsumerGroup ε ι) (entry : ε) : ConsumerGroup ε ι :=
  { g with entries := g.entries ++ [entry] }

/-- `XGROUP CREATE` from the start of the stream; an existing group is left alone. -/
def create (g : ConsumerGroup ε ι) : ConsumerGroup ε ι := { g with created := true }

/-- The entries after the last delivered one. -/
def newEntries (count : Nat) (g : ConsumerGroup ε ι) : List ε :=
  (g.entries.drop g.delivered).take count

/-- `XREADGROUP` for new entries: they become pending. -/
def readNew (id : ε → ι) (count : Nat) (g : ConsumerGroup ε ι) : ConsumerGroup ε ι :=
  { g with
    delivered := g.delivered + (g.newEntries count).length
    pending := g.pending ++ (g.newEntries count).map id }

@[simp] theorem entries_append (g : ConsumerGroup ε ι) (entry : ε) :
    (g.append entry).entries = g.entries ++ [entry] := rfl
@[simp] theorem entries_readNew (id : ε → ι) (count : Nat) (g : ConsumerGroup ε ι) :
    (g.readNew id count).entries = g.entries := rfl

theorem mem_of_mem_newEntries {count : Nat} {g : ConsumerGroup ε ι} {entry : ε}
    (h : entry ∈ g.newEntries count) : entry ∈ g.entries :=
  List.mem_of_mem_drop (List.mem_of_mem_take h)

/-- Every delivered entry is pending or acknowledged. -/
structure Settled (id : ε → ι) (g : ConsumerGroup ε ι) : Prop where
  delivered_le : g.delivered ≤ g.entries.length
  settled : ∀ entry ∈ g.entries.take g.delivered, id entry ∈ g.pending ∨ id entry ∈ g.acked

/-- At most `count` entries are pending, and every delivered entry is pending or
acknowledged. -/
structure InOrder (id : ε → ι) (count : Nat) (g : ConsumerGroup ε ι) : Prop
    extends g.Settled id where
  pending_le : g.pending.length ≤ count
  pending_known : ∀ i ∈ g.pending, i ∈ g.entries.map id

/-- Every delivered entry is pending or acknowledged, and counted once. -/
structure Partitioned (id : ε → ι) (g : ConsumerGroup ε ι) : Prop where
  delivered_le : g.delivered ≤ g.entries.length
  perm : (g.pending ++ g.acked).Perm ((g.entries.take g.delivered).map id)

variable [DecidableEq ι]

/-- The pending entries in stream order. -/
def readPending (id : ε → ι) (count : Nat) (g : ConsumerGroup ε ι) : List ε :=
  (g.entries.filter fun entry => id entry ∈ g.pending).take count

/-- The pending ones among given ids, each once. -/
def ackable (g : ConsumerGroup ε ι) (ids : List ι) : List ι := g.pending.filter (· ∈ ids)

/-- `XACK`. -/
def ack (g : ConsumerGroup ε ι) (ids : List ι) : ConsumerGroup ε ι :=
  { g with
    pending := g.pending.filter (· ∉ ids)
    acked := g.acked ++ g.ackable ids }

/-- A delivered entry comes back to the pending list. -/
def redeliver (g : ConsumerGroup ε ι) (i : ι) : ConsumerGroup ε ι :=
  { g with pending := if i ∈ g.pending then g.pending else g.pending ++ [i] }

/-- Acknowledging adds given ids only. -/
theorem mem_acked_ack {g : ConsumerGroup ε ι} {ids : List ι} {i : ι}
    (h : i ∈ (g.ack ids).acked) : i ∈ g.acked ∨ i ∈ ids := by
  rcases List.mem_append.mp h with h | h
  · exact Or.inl h
  · exact Or.inr (by simpa using (List.mem_filter.mp h).2)

theorem mem_pending_ack {g : ConsumerGroup ε ι} {ids : List ι} {i : ι} :
    i ∈ (g.ack ids).pending ↔ i ∈ g.pending ∧ i ∉ ids := by simp [ack]

theorem mem_of_mem_readPending {id : ε → ι} {count : Nat} {g : ConsumerGroup ε ι} {entry : ε}
    (h : entry ∈ g.readPending id count) : entry ∈ g.entries :=
  List.mem_of_mem_filter (List.mem_of_mem_take h)

theorem mem_pending_of_mem_readPending {id : ε → ι} {count : Nat} {g : ConsumerGroup ε ι}
    {entry : ε} (h : entry ∈ g.readPending id count) : id entry ∈ g.pending := by
  simpa using (List.mem_filter.mp (List.mem_of_mem_take h)).2

/-- A stronger filter moves what it keeps to the front only. -/
theorem mem_take_filter {q r : ε → Bool} (hqr : ∀ a, r a → q a) {l : List ε} {count : Nat} {a : ε}
    (h : a ∈ (l.filter q).take count) (hr : r a) : a ∈ (l.filter r).take count := by
  induction l generalizing count with
  | nil => simp at h
  | cons b l ih =>
    by_cases hq : q b
    · rw [List.filter_cons_of_pos hq] at h
      cases count with
      | zero => simp at h
      | succ count =>
        rw [List.take_succ_cons, List.mem_cons] at h
        by_cases hb : r b
        · rw [List.filter_cons_of_pos hb, List.take_succ_cons]
          exact List.mem_cons.mpr (h.imp id ih)
        · rw [List.filter_cons_of_neg hb]
          rcases h with rfl | h
          · exact absurd hr hb
          · exact List.take_subset_take_left _ (Nat.le_succ count) (ih h)
    · rw [List.filter_cons_of_neg hq] at h
      rw [List.filter_cons_of_neg fun hb => hq (hqr b hb)]
      exact ih h

/-- A pending entry among the first ones stays there as long as it is pending. -/
theorem mem_readPending_of_subset {id : ε → ι} {count : Nat} {g h : ConsumerGroup ε ι}
    (hentries : h.entries = g.entries) (hsub : ∀ i ∈ h.pending, i ∈ g.pending) {entry : ε}
    (hm : entry ∈ g.readPending id count) (hk : id entry ∈ h.pending) :
    entry ∈ h.readPending id count := by
  rw [readPending, hentries]
  refine mem_take_filter (fun e he => ?_) hm (by simpa using hk)
  simp only [decide_eq_true_eq] at he ⊢
  exact hsub _ he

/-- With nothing pending, new entries are among the first pending ones once read. -/
theorem mem_readPending_readNew {id : ε → ι} {count : Nat} {g : ConsumerGroup ε ι}
    (hd : (g.entries.map id).Nodup) (hcount : 1 ≤ count) (hempty : g.readPending id count = [])
    {entry : ε} (hm : entry ∈ g.newEntries count) :
    entry ∈ (g.readNew id count).readPending id count := by
  have hnone : ∀ e ∈ g.entries, id e ∉ g.pending := by
    have hfilter : g.entries.filter (fun e => id e ∈ g.pending) = [] := by
      rcases List.take_eq_nil_iff.mp hempty with h0 | hnil
      · omega
      · exact hnil
    simpa [List.filter_eq_nil_iff] using hfilter
  have hnew : g.entries.filter (fun e => id e ∈ (g.readNew id count).pending) =
      g.entries.filter fun e => id e ∈ (g.newEntries count).map id := by
    apply List.filter_congr
    intro e he
    simp only [readNew, List.mem_append, hnone e he, false_or]
  have hlen : (g.entries.filter fun e => id e ∈ (g.newEntries count).map id).length ≤ count := by
    have hsub : (g.entries.filter fun e => id e ∈ (g.newEntries count).map id).map id ⊆
        (g.newEntries count).map id := by
      intro i hi
      obtain ⟨e, he, rfl⟩ := List.mem_map.mp hi
      simpa using (List.mem_filter.mp he).2
    have hle := (hd.sublist (List.filter_sublist.map id)).length_le_of_subset hsub
    rw [List.length_map, List.length_map] at hle
    exact Nat.le_trans hle (List.length_take_le _ _)
  rw [readPending, entries_readNew, hnew, List.take_of_length_le hlen]
  exact List.mem_filter.mpr ⟨mem_of_mem_newEntries hm, by
    simpa using List.mem_map_of_mem (f := id) hm⟩

/-! ## The delivered entries -/

section

omit [DecidableEq ι]

variable {id : ε → ι} {count : Nat} {g : ConsumerGroup ε ι} (h : g.delivered ≤ g.entries.length)
include h

theorem delivered_append_le (entry : ε) :
    (g.append entry).delivered ≤ (g.append entry).entries.length := by
  rw [entries_append, List.length_append]
  exact Nat.le_trans h (Nat.le_add_right _ _)

/-- A new entry is not delivered yet. -/
theorem take_delivered_append (entry : ε) :
    (g.append entry).entries.take (g.append entry).delivered = g.entries.take g.delivered :=
  List.take_append_of_le_length h

theorem delivered_readNew_le :
    (g.readNew id count).delivered ≤ (g.readNew id count).entries.length := by
  have hlen : (g.newEntries count).length ≤ (g.entries.drop g.delivered).length :=
    List.length_take_le' _ _
  rw [List.length_drop] at hlen
  change g.delivered + (g.newEntries count).length ≤ g.entries.length
  omega

end

omit [DecidableEq ι] in
/-- The entries a read delivers are the next ones of the stream. -/
theorem take_delivered_readNew (id : ε → ι) (count : Nat) (g : ConsumerGroup ε ι) :
    (g.readNew id count).entries.take (g.readNew id count).delivered =
      g.entries.take g.delivered ++ g.newEntries count := by
  change g.entries.take (g.delivered + (g.newEntries count).length) = _
  rw [List.take_add, newEntries, List.length_take, ← List.take_eq_take_min]

/-! ## With redelivery -/

omit [DecidableEq ι] in
theorem Settled.empty (id : ε → ι) : (ConsumerGroup.empty : ConsumerGroup ε ι).Settled id :=
  ⟨Nat.le_refl 0, by simp [ConsumerGroup.empty]⟩

omit [DecidableEq ι] in
theorem Settled.create {id : ε → ι} {g : ConsumerGroup ε ι} (h : g.Settled id) :
    g.create.Settled id := ⟨h.1, h.2⟩

omit [DecidableEq ι] in
theorem Settled.append {id : ε → ι} {g : ConsumerGroup ε ι} (h : g.Settled id) (entry : ε) :
    (g.append entry).Settled id where
  delivered_le := delivered_append_le h.delivered_le entry
  settled := by
    rw [take_delivered_append h.delivered_le]
    exact h.settled

omit [DecidableEq ι] in
theorem Settled.readNew {id : ε → ι} {g : ConsumerGroup ε ι} (h : g.Settled id) (count : Nat) :
    (g.readNew id count).Settled id where
  delivered_le := delivered_readNew_le h.delivered_le
  settled := by
    intro e he
    rw [take_delivered_readNew, List.mem_append] at he
    rcases he with he | he
    · exact (h.settled e he).imp_left (List.mem_append_left _)
    · exact Or.inl (List.mem_append_right _ (List.mem_map_of_mem he))

/-- Acknowledging moves entries from pending to acknowledged. -/
theorem Settled.ack {id : ε → ι} {g : ConsumerGroup ε ι} (h : g.Settled id) (ids : List ι) :
    (g.ack ids).Settled id where
  delivered_le := h.delivered_le
  settled := by
    intro e he
    rcases h.settled e he with hp | ha
    · by_cases hi : id e ∈ ids
      · exact Or.inr (List.mem_append_right _ (List.mem_filter.mpr ⟨hp, by simpa using hi⟩))
      · exact Or.inl (mem_pending_ack.mpr ⟨hp, hi⟩)
    · exact Or.inr (List.mem_append_left _ ha)

theorem Settled.redeliver {id : ε → ι} {g : ConsumerGroup ε ι} (h : g.Settled id) (i : ι) :
    (g.redeliver i).Settled id where
  delivered_le := h.delivered_le
  settled := by
    intro e he
    refine (h.settled e he).imp_left fun hp => ?_
    unfold ConsumerGroup.redeliver
    dsimp only
    split
    · exact hp
    · exact List.mem_append_left _ hp

/-! ## One consumer that asks for new entries only with nothing pending -/

omit [DecidableEq ι] in
theorem InOrder.empty (id : ε → ι) (count : Nat) :
    (ConsumerGroup.empty : ConsumerGroup ε ι).InOrder id count where
  toSettled := .empty id
  pending_le := Nat.zero_le count
  pending_known := by simp [ConsumerGroup.empty]

omit [DecidableEq ι] in
theorem InOrder.create {id : ε → ι} {count : Nat} {g : ConsumerGroup ε ι}
    (h : g.InOrder id count) : g.create.InOrder id count :=
  ⟨h.toSettled.create, h.pending_le, h.pending_known⟩

omit [DecidableEq ι] in
theorem InOrder.append {id : ε → ι} {count : Nat} {g : ConsumerGroup ε ι}
    (h : g.InOrder id count) (entry : ε) : (g.append entry).InOrder id count where
  toSettled := h.toSettled.append entry
  pending_le := h.pending_le
  pending_known := by
    intro i hi
    rw [entries_append, List.map_append]
    exact List.mem_append_left _ (h.pending_known i hi)

theorem InOrder.ack {id : ε → ι} {count : Nat} {g : ConsumerGroup ε ι} (h : g.InOrder id count)
    (ids : List ι) : (g.ack ids).InOrder id count where
  toSettled := h.toSettled.ack ids
  pending_le := Nat.le_trans (List.length_filter_le _ _) h.pending_le
  pending_known := fun i hi => h.pending_known i (mem_pending_ack.mp hi).1

omit [DecidableEq ι] in
/-- With nothing pending, a read of new entries makes exactly these pending. -/
theorem InOrder.readNew {id : ε → ι} {count : Nat} {g : ConsumerGroup ε ι}
    (h : g.InOrder id count) (hp : g.pending = []) : (g.readNew id count).InOrder id count where
  toSettled := h.toSettled.readNew count
  pending_le := by
    change (g.pending ++ (g.newEntries count).map id).length ≤ count
    rw [hp, List.nil_append, List.length_map]
    exact List.length_take_le _ _
  pending_known := by
    intro i hi
    change i ∈ g.pending ++ (g.newEntries count).map id at hi
    rw [hp, List.nil_append] at hi
    obtain ⟨e, he, rfl⟩ := List.mem_map.mp hi
    rw [entries_readNew]
    exact List.mem_map_of_mem (mem_of_mem_newEntries he)

/-- An empty read of pending entries means that nothing is pending. -/
theorem InOrder.pending_eq_nil {id : ε → ι} {count : Nat} {g : ConsumerGroup ε ι}
    (h : g.InOrder id count) (hc : 1 ≤ count) (hr : g.readPending id count = []) :
    g.pending = [] := by
  apply List.eq_nil_iff_forall_not_mem.mpr
  intro i hi
  obtain ⟨e, he, rfl⟩ := List.mem_map.mp (h.pending_known i hi)
  have hm : e ∈ g.entries.filter fun entry => id entry ∈ g.pending :=
    List.mem_filter.mpr ⟨he, by simpa using hi⟩
  rcases List.take_eq_nil_iff.mp hr with h0 | hnil
  · omega
  · rw [hnil] at hm
    exact absurd hm List.not_mem_nil

omit [DecidableEq ι] in
/-- With nothing pending, every delivered entry is acknowledged. -/
theorem InOrder.acked_of_pending_eq_nil {id : ε → ι} {count : Nat} {g : ConsumerGroup ε ι}
    (h : g.InOrder id count) (hp : g.pending = []) {entry : ε}
    (he : entry ∈ g.entries.take g.delivered) : id entry ∈ g.acked := by
  rcases h.settled entry he with hi | ha
  · rw [hp] at hi
    exact absurd hi List.not_mem_nil
  · exact ha

/-! ## Without redelivery -/

omit [DecidableEq ι] in
theorem Partitioned.empty (id : ε → ι) :
    (ConsumerGroup.empty : ConsumerGroup ε ι).Partitioned id :=
  ⟨Nat.le_refl 0, by simp [ConsumerGroup.empty]⟩

omit [DecidableEq ι] in
theorem Partitioned.create {id : ε → ι} {g : ConsumerGroup ε ι} (h : g.Partitioned id) :
    g.create.Partitioned id := ⟨h.1, h.2⟩

omit [DecidableEq ι] in
theorem Partitioned.append {id : ε → ι} {g : ConsumerGroup ε ι} (h : g.Partitioned id)
    (entry : ε) : (g.append entry).Partitioned id where
  delivered_le := delivered_append_le h.delivered_le entry
  perm := by
    rw [take_delivered_append h.delivered_le]
    exact h.perm

omit [DecidableEq ι] in
theorem Partitioned.readNew {id : ε → ι} {g : ConsumerGroup ε ι} (h : g.Partitioned id)
    (count : Nat) : (g.readNew id count).Partitioned id where
  delivered_le := delivered_readNew_le h.delivered_le
  perm := by
    rw [take_delivered_readNew, List.map_append]
    change ((g.pending ++ (g.newEntries count).map id) ++ g.acked).Perm _
    rw [List.append_assoc]
    refine (List.perm_append_comm.append_left g.pending).trans ?_
    rw [← List.append_assoc]
    exact h.perm.append_right _

/-- Acknowledging moves ids from the one list to the other. -/
theorem Partitioned.ack {id : ε → ι} {g : ConsumerGroup ε ι} (h : g.Partitioned id)
    (ids : List ι) : (g.ack ids).Partitioned id where
  delivered_le := h.delivered_le
  perm := by
    refine List.Perm.trans ?_ h.perm
    change (g.pending.filter (· ∉ ids) ++ (g.acked ++ g.pending.filter (· ∈ ids))).Perm _
    have hsplit : (g.pending.filter (· ∉ ids) ++ g.pending.filter (· ∈ ids)).Perm g.pending := by
      refine List.perm_append_comm.trans ?_
      simpa only [decide_not] using List.filter_append_perm (fun i => decide (i ∈ ids)) g.pending
    refine (List.perm_append_comm.append_left _).trans ?_
    rw [← List.append_assoc]
    exact hsplit.append_right _

omit [DecidableEq ι] in
/-- With distinct ids no id is listed twice. -/
theorem Partitioned.nodup {id : ε → ι} {g : ConsumerGroup ε ι} (h : g.Partitioned id)
    (hd : (g.entries.map id).Nodup) : (g.pending ++ g.acked).Nodup :=
  h.perm.nodup_iff.mpr (hd.sublist ((List.take_sublist _ _).map id))

/-- An acknowledgement counts at most the given ids. -/
theorem length_ackable_le {g : ConsumerGroup ε ι} (h : g.pending.Nodup) (ids : List ι) :
    (g.ackable ids).length ≤ ids.length := by
  refine (h.filter _).length_le_of_subset fun i hi => ?_
  simpa using (List.mem_filter.mp hi).2

/-- A read of pending entries returns all of them when there are no more than it asks for. -/
theorem readPending_eq_filter {id : ε → ι} {count : Nat} {g : ConsumerGroup ε ι}
    (hd : (g.entries.map id).Nodup) (hle : g.pending.length ≤ count) :
    g.readPending id count = g.entries.filter fun entry => id entry ∈ g.pending := by
  apply List.take_of_length_le
  have hsub : (g.entries.filter fun entry => id entry ∈ g.pending).map id ⊆ g.pending := by
    intro i hi
    obtain ⟨e, he, rfl⟩ := List.mem_map.mp hi
    simpa using (List.mem_filter.mp he).2
  have hlen := (hd.sublist (List.filter_sublist.map id)).length_le_of_subset hsub
  rw [List.length_map] at hlen
  exact Nat.le_trans hlen hle

/-! ## A stream that lost its oldest entries -/

/-- The group with delivered entries put back in front of the stream. -/
def prepend (removed : List ε) (g : ConsumerGroup ε ι) : ConsumerGroup ε ι :=
  { g with entries := removed ++ g.entries, delivered := removed.length + g.delivered }

/-- Trimming the oldest entries. A pending entry leaves a tombstone to be read again, an
entry that was not delivered never is. -/
def trim (id : ε → ι) (tombstone : ε → ε) (count : Nat) (g : ConsumerGroup ε ι) :
    ConsumerGroup ε ι :=
  let kept := (g.entries.take (min count g.delivered)).filter fun entry => id entry ∈ g.pending
  { g with
    entries := kept.map tombstone ++ g.entries.drop count
    delivered := kept.length + (g.delivered - count) }

omit [DecidableEq ι] in
theorem prepend_prepend (removed removed' : List ε) (g : ConsumerGroup ε ι) :
    (g.prepend removed').prepend removed = g.prepend (removed ++ removed') := by
  simp only [prepend, List.append_assoc, List.length_append, Nat.add_assoc]

omit [DecidableEq ι] in
theorem newEntries_prepend (removed : List ε) (count : Nat) (g : ConsumerGroup ε ι) :
    (g.prepend removed).newEntries count = g.newEntries count := by
  simp only [newEntries, prepend, List.drop_length_add_append]

omit [DecidableEq ι] in
theorem readNew_prepend (removed : List ε) (id : ε → ι) (count : Nat) (g : ConsumerGroup ε ι) :
    (g.prepend removed).readNew id count = (g.readNew id count).prepend removed := by
  unfold readNew
  rw [newEntries_prepend]
  simp only [prepend, Nat.add_assoc]

omit [DecidableEq ι] in
theorem append_prepend (removed : List ε) (entry : ε) (g : ConsumerGroup ε ι) :
    (g.prepend removed).append entry = (g.append entry).prepend removed := by
  simp only [append, prepend, List.append_assoc]

/-- Entries that are not pending are not read again. -/
theorem readPending_prepend {removed : List ε} {id : ε → ι} {g : ConsumerGroup ε ι}
    (h : ∀ entry ∈ removed, id entry ∉ g.pending) (count : Nat) :
    (g.prepend removed).readPending id count = g.readPending id count := by
  have hnone : removed.filter (fun entry => id entry ∈ g.pending) = [] :=
    List.filter_eq_nil_iff.mpr fun entry he => by simpa using h entry he
  change ((removed ++ g.entries).filter fun entry => id entry ∈ g.pending).take count = _
  rw [List.filter_append, hnone, List.nil_append]
  rfl

/-- Putting back what was trimmed restores the group when all of it was delivered and none of
it is pending. -/
theorem prepend_trim (id : ε → ι) (tombstone : ε → ε) {count : Nat} {g : ConsumerGroup ε ι}
    (hlen : count ≤ g.entries.length) (hd : count ≤ g.delivered)
    (hp : ∀ entry ∈ g.entries.take count, id entry ∉ g.pending) :
    (g.trim id tombstone count).prepend (g.entries.take count) = g := by
  have hkept : (g.entries.take (min count g.delivered)).filter
      (fun entry => id entry ∈ g.pending) = [] := by
    rw [Nat.min_eq_left hd]
    exact List.filter_eq_nil_iff.mpr fun entry he => by simpa using hp entry he
  simp only [trim, hkept, prepend, List.map_nil, List.nil_append, List.length_nil, Nat.zero_add,
    List.take_append_drop, List.length_take, Nat.min_eq_left hlen, Nat.add_sub_cancel' hd]

end ConsumerGroup

end LiveData

import LiveData.Events.EmittedEvents
import LiveData.Events.ProducerRuns

/-!
# From the producers to the table

Any number of producers whose seeds draw different prefixes write to one stream, in any order
and as often as they like. Every row of the table is then one of their events, no event has
two rows, and once the stream is drained each of them has its row.
-/

namespace LiveData.Events

open Json Generator

variable {F : Type}

/-- Producers that write to one stream, each with its run and its seed. -/
structure Fleet where
  size : Nat
  run : Fin size → ProducerRun
  seed : Fin size → Fin (2 ^ 64)

/-- An event of the fleet, given by its producer and its number. -/
abbrev Fleet.Sent (fleet : Fleet) := Fin fleet.size × Nat

section Fleet

variable (fleet : Fleet) (getrandbits : Fin (2 ^ 64) → Fin (2 ^ 32)) (ofCents : Nat → F)

/-- The generator of a producer before one of its events. -/
def Fleet.generator (q : fleet.Sent) : EventGenerator :=
  (fleet.run q.1).generator getrandbits ofCents (fleet.seed q.1) q.2

/-- The event that is sent. -/
def Fleet.event (q : fleet.Sent) : GeneratedEvent F :=
  (fleet.run q.1).event getrandbits ofCents (fleet.seed q.1) q.2

/-- The seeds draw different prefixes, and every producer draws what its catalog and its times
allow, with a name and a catalog of texts the table can hold. -/
structure Fleet.Sound : Prop where
  apart : Function.Injective fun k => getrandbits (fleet.seed k)
  allows : ∀ k i, (fleet.generator getrandbits ofCents (k, i)).Allows ((fleet.run k).draws i)
  producerId : ∀ k, (fleet.run k).config.producerId ≠ [] ∧
    FitsText (fleet.run k).config.producerId
  catalog : ∀ k, StorableCatalog (fleet.run k).catalog

/-- The entries carry the lines of the sent events, in this order. -/
def Fleet.Carried (host : WireHost F) (entries : List StreamEntry) (sent : List fleet.Sent) :
    Prop :=
  List.Forall₂ (fun entry q => SendsLine host entry (fleet.event getrandbits host.ofCents q))
    entries sent

end Fleet

variable {fleet : Fleet} {getrandbits : Fin (2 ^ 64) → Fin (2 ^ 32)} {ofCents : Nat → F}

/-- A run changes only the sequence of its generator. -/
theorem generator_config_catalog (getrandbits : Fin (2 ^ 64) → Fin (2 ^ 32)) (ofCents : Nat → F)
    (producer : ProducerRun) (seed : Fin (2 ^ 64)) (n : Nat) :
    (producer.generator getrandbits ofCents seed n).config = producer.config ∧
      (producer.generator getrandbits ofCents seed n).catalog = producer.catalog := by
  induction n with
  | zero => exact ⟨rfl, rfl⟩
  | succ n ih => exact ih

theorem Fleet.Sound.emits (hf : fleet.Sound getrandbits ofCents) (q : fleet.Sent) :
    Emits ofCents (fleet.generator getrandbits ofCents q) (fleet.event getrandbits ofCents q) :=
  ⟨_, hf.allows q.1 q.2, rfl⟩

theorem Fleet.Sound.storable (hf : fleet.Sound getrandbits ofCents) (q : fleet.Sent) :
    StorableGenerator (fleet.generator getrandbits ofCents q) := by
  obtain ⟨hconfig, hcatalog⟩ :=
    generator_config_catalog getrandbits ofCents (fleet.run q.1) (fleet.seed q.1) q.2
  exact ⟨hconfig ▸ hf.producerId q.1, hcatalog ▸ hf.catalog q.1⟩

/-- No two events of the fleet share an id before a counter wraps around. -/
theorem Fleet.Sound.eq_of_eventId (hf : fleet.Sound getrandbits ofCents) {q r : fleet.Sent}
    (hq : q.2 < 2 ^ 64) (hr : r.2 < 2 ^ 64)
    (h : (fleet.event getrandbits ofCents q).eventId =
      (fleet.event getrandbits ofCents r).eventId) : q = r := by
  rw [Fleet.event, Fleet.event, ProducerRun.eventId_event, ProducerRun.eventId_event,
    chooseEventId_eq_iff (getrandbits _).isLt (getrandbits _).isLt, mul_multiplier_mod_eq_iff] at h
  exact Prod.ext (hf.apart (Fin.ext h.1)) (by omega)

/-- The row of an event of the fleet. -/
def Fleet.row (fleet : Fleet) (getrandbits : Fin (2 ^ 64) → Fin (2 ^ 32)) (host : WireHost F)
    (q : fleet.Sent) : EventRecord :=
  eventToRecordValues (receive host (fleet.event getrandbits host.ofCents q))

section Stream

variable {p : Pipeline F} {floatRepr : F → Str} {entries : List StreamEntry}
  {sent : List fleet.Sent}

/-- The events of the stream are the sent ones. -/
theorem streamEvents_of_carried (h : (p.host floatRepr ofCents).ReadsAsDeclared)
    (hf : fleet.Sound getrandbits ofCents)
    (hc : fleet.Carried getrandbits (p.host floatRepr ofCents) entries sent) :
    streamEvents p entries = sent.map fun q =>
      receive (p.host floatRepr ofCents) (fleet.event getrandbits ofCents q) := by
  induction hc with
  | nil => rfl
  | @cons entry q entries sent hs _ ih =>
    have he : entryEvent p entry =
        some (receive (p.host floatRepr ofCents) (fleet.event getrandbits ofCents q)) :=
      entryEvent_of_emits h (hf.storable q) (hf.emits q) hs
    rw [streamEvents, List.filterMap_cons_some he, List.map_cons]
    exact congrArg _ ih

/-- Rows of different events of the fleet have different ids. -/
theorem map_row_nodup (hf : fleet.Sound getrandbits ofCents) {stored : List fleet.Sent}
    (hidx : ∀ q ∈ stored, q.2 < 2 ^ 64) (hn : stored.Nodup) :
    ((stored.map (fleet.row getrandbits (p.host floatRepr ofCents))).map
      EventRecord.eventId).Nodup := by
  rw [List.map_map]
  exact hn.map_on fun q hq r hr hid => hf.eq_of_eventId (hidx q hq) (hidx r hr) hid

variable {n : Nat} {s : System F n}

/-- The rows of the table are rows of different sent events: those whose ids it holds. -/
theorem table_perm_stored (h : (p.host floatRepr ofCents).ReadsAsDeclared)
    (hf : fleet.Sound getrandbits ofCents) (hs : s.Reachable p)
    (hidx : ∀ q ∈ sent, q.2 < 2 ^ 64)
    (hc : fleet.Carried getrandbits (p.host floatRepr ofCents) s.group.entries sent) :
    s.table.Perm ((sent.dedup.filter fun q =>
      (fleet.event getrandbits ofCents q).eventId ∈ s.table.ids).map
        (fleet.row getrandbits (p.host floatRepr ofCents))) := by
  let made := fun q => receive (p.host floatRepr ofCents) (fleet.event getrandbits ofCents q)
  let stored := sent.dedup.filter fun q =>
    (fleet.event getrandbits ofCents q).eventId ∈ s.table.ids
  have hstored : ∀ q ∈ stored, q ∈ sent := fun q hq =>
    List.mem_dedup.mp (List.mem_of_mem_filter hq)
  have hcommitted : ∀ event ∈ s.committed, ∃ q ∈ sent, event = made q := by
    intro event he
    have hm := hs.mem_streamEvents he
    rw [streamEvents_of_carried h hf hc] at hm
    obtain ⟨q, hq, rfl⟩ := List.mem_map.mp hm
    exact ⟨q, hq, rfl⟩
  have hunambiguous : Unambiguous s.committed := by
    intro event he event' he' hid
    obtain ⟨q, hq, rfl⟩ := hcommitted event he
    obtain ⟨r, hr, rfl⟩ := hcommitted event' he'
    rw [hf.eq_of_eventId (hidx q hq) (hidx r hr) hid]
  have hsame : ∀ event, event ∈ s.committed ↔ event ∈ stored.map made := by
    intro event
    constructor
    · intro he
      obtain ⟨q, hq, rfl⟩ := hcommitted event he
      exact List.mem_map_of_mem (List.mem_filter.mpr
        ⟨List.mem_dedup.mpr hq, decide_eq_true (hs.counted.mem_ids he)⟩)
    · intro he
      obtain ⟨q, hq, rfl⟩ := List.mem_map.mp he
      have hid := (List.mem_filter.mp hq).2
      rw [decide_eq_true_eq, hs.counted.table, mem_ids_insertEvents] at hid
      obtain ⟨other, ho, hsameId⟩ := List.mem_map.mp hid
      obtain ⟨r, hr, rfl⟩ := hcommitted other ho
      rwa [← hf.eq_of_eventId (hidx r hr) (hidx q (hstored q hq)) hsameId]
  have hload := perm_insertEvents hunambiguous hsame
  rw [← hs.counted.table] at hload
  refine hload.trans (List.Perm.of_eq ?_)
  rw [insertEvents, List.map_map]
  exact (KeyedTable.insertRows_of_nodup (map_row_nodup hf (fun q hq => hidx q (hstored q hq))
    ((List.nodup_dedup _).filter _))).trans (List.nil_append _)

/-- A drained stream has a row for each event that was sent, once. -/
theorem table_perm_sent (h : (p.host floatRepr ofCents).ReadsAsDeclared)
    (hf : fleet.Sound getrandbits ofCents) (hs : s.Reachable p) (hd : s.Drained)
    (hidx : ∀ q ∈ sent, q.2 < 2 ^ 64)
    (hc : fleet.Carried getrandbits (p.host floatRepr ofCents) s.group.entries sent) :
    s.table.Perm (sent.dedup.map (fleet.row getrandbits (p.host floatRepr ofCents))) := by
  have hall : (sent.dedup.filter fun q =>
      (fleet.event getrandbits ofCents q).eventId ∈ s.table.ids) = sent.dedup := by
    refine List.filter_eq_self.mpr fun q hq => ?_
    rw [decide_eq_true_eq, hs.counted.table, mem_ids_insertEvents]
    refine List.mem_map.mpr ⟨receive (p.host floatRepr ofCents)
      (fleet.event getrandbits ofCents q), ?_, rfl⟩
    rw [hs.mem_committed_iff hd, streamEvents_of_carried h hf hc]
    exact List.mem_map_of_mem (List.mem_dedup.mp hq)
  exact hall ▸ table_perm_stored h hf hs hidx hc

end Stream

/-- In every state any number of loops reach, the rows of the table are those of different sent
events, with the content that was emitted, whatever was sent twice, redelivered or stored again.
Once the stream is drained, every sent event has its row. -/
theorem fleet_events_stored_once (p : Pipeline F) (floatRepr : F → Str) (ofCents : Nat → F)
    (h : (p.host floatRepr ofCents).ReadsAsDeclared) (fleet : Fleet)
    (getrandbits : Fin (2 ^ 64) → Fin (2 ^ 32)) (hf : fleet.Sound getrandbits ofCents)
    {n : Nat} (s : System F n) (hs : s.Reachable p) (sent : List fleet.Sent)
    (hidx : ∀ q ∈ sent, q.2 < 2 ^ 64)
    (hc : fleet.Carried getrandbits (p.host floatRepr ofCents) s.group.entries sent) :
    (∀ q, Preserves (p.host floatRepr ofCents) (fleet.event getrandbits ofCents q)
      (receive (p.host floatRepr ofCents) (fleet.event getrandbits ofCents q))) ∧
    ∃ stored : List fleet.Sent, stored.Nodup ∧ stored ⊆ sent ∧
      s.table.Perm (stored.map (fleet.row getrandbits (p.host floatRepr ofCents))) ∧
      (s.Drained → ∀ q ∈ sent, q ∈ stored) := by
  refine ⟨fun q => preserves_receive h (hf.emits q), ?_⟩
  by_cases hd : s.Drained
  · exact ⟨sent.dedup, List.nodup_dedup _, fun q hq => List.mem_dedup.mp hq,
      table_perm_sent h hf hs hd hidx hc, fun _ q hq => List.mem_dedup.mpr hq⟩
  · exact ⟨_, (List.nodup_dedup _).filter _, fun q hq =>
      List.mem_dedup.mp (List.mem_of_mem_filter hq), table_perm_stored h hf hs hidx hc,
      fun hdrained => absurd hdrained hd⟩

theorem allows_of_eq {g g' : EventGenerator} (hconfig : g'.config = g.config)
    (hcatalog : g'.catalog = g.catalog) {d : Draws} (h : g.Allows d) : g'.Allows d := by
  obtain ⟨config, catalog, _, _, _, _⟩ := g
  obtain ⟨config', catalog', _, _, _, _⟩ := g'
  obtain rfl : config' = config := hconfig
  obtain rfl : catalog' = catalog := hcatalog
  exact ⟨h.user, h.target, h.product, h.discount, h.error, h.hour, h.lower, h.upper⟩

/-- Two runs of purchases. -/
def purchaseFleet : Fleet where
  size := 2
  run := fun _ => purchaseRun
  seed := fun k => Fin.ofNat _ k

/-- The low bits of a seed. -/
def lowBits (seed : Fin (2 ^ 64)) : Fin (2 ^ 32) := Fin.ofNat _ seed

theorem purchaseFleet_sound : purchaseFleet.Sound lowBits exactHost.ofCents where
  apart := by
    intro k l hkl
    have hval := congrArg Fin.val hkl
    have hk : k.val < 2 := k.isLt
    have hl : l.val < 2 := l.isLt
    simp only [purchaseFleet, lowBits, Fin.ofNat] at hval
    exact Fin.ext (by omega)
  allows := fun k i => by
    obtain ⟨hconfig, hcatalog⟩ := generator_config_catalog lowBits exactHost.ofCents purchaseRun
      (purchaseFleet.seed k) i
    exact allows_of_eq hconfig hcatalog noonGenerator_allows
  producerId := fun _ => noonGenerator_storable.producerId
  catalog := fun _ => noonGenerator_storable.catalog

/-- The first event of a producer. -/
def firstSent (k : Fin 2) : purchaseFleet.Sent := (k, 0)

/-- The entry of that event. -/
def purchaseEntry (messageId : Str) (k : Fin 2) : StreamEntry :=
  payloadEntry messageId (eventToJsonLine exactHost.floatRepr
    (purchaseFleet.event lowBits exactHost.ofCents (firstSent k)))

/-- Each producer sends its first event, and one of them sends it again. -/
def purchaseBacklogRun : List (Action 1) :=
  [.ensureGroup ⟨0, Nat.one_pos⟩, .produce (purchaseEntry (str "1-0") ⟨0, Nat.two_pos⟩),
    .produce (purchaseEntry (str "2-0") ⟨1, Nat.one_lt_two⟩),
    .produce (purchaseEntry (str "3-0") ⟨0, Nat.two_pos⟩)]

/-- The state after that run. -/
def purchaseBacklog : System Str 1 :=
  (run (System.step exactPipeline) (System.init Str 1) purchaseBacklogRun).getD
    (System.init Str 1)

theorem purchaseBacklog_resting : purchaseBacklog.Resting exactPipeline := by
  refine ⟨⟨purchaseBacklogRun, ?_, run_eq_some_getD (by decide +kernel) _⟩, rfl, rfl⟩
  intro a ha messageId he
  subst he
  simp [purchaseBacklogRun] at ha

theorem purchaseBacklog_carried : purchaseFleet.Carried lowBits
    (exactPipeline.host exactHost.floatRepr exactHost.ofCents) purchaseBacklog.group.entries
      [firstSent 0, firstSent 1, firstSent 0] := by
  have hentries : purchaseBacklog.group.entries = [purchaseEntry (str "1-0") 0,
      purchaseEntry (str "2-0") 1, purchaseEntry (str "3-0") 0] := by decide +kernel
  rw [hentries]
  exact .cons (sendsLine_payloadEntry _ _ _) (.cons (sendsLine_payloadEntry _ _ _)
    (.cons (sendsLine_payloadEntry _ _ _) .nil))

theorem firstSent_lt : ∀ q ∈ [firstSent 0, firstSent 1, firstSent 0], q.2 < 2 ^ 64 := by
  simp [firstSent]

/-- The rows so far are those of different events. -/
theorem purchases_stored_once :
    (∀ q, Preserves (exactPipeline.host exactHost.floatRepr exactHost.ofCents)
      (purchaseFleet.event lowBits exactHost.ofCents q)
      (receive (exactPipeline.host exactHost.floatRepr exactHost.ofCents)
        (purchaseFleet.event lowBits exactHost.ofCents q))) ∧
    ∃ stored : List purchaseFleet.Sent, stored.Nodup ∧
      stored ⊆ [firstSent 0, firstSent 1, firstSent 0] ∧
      purchaseBacklog.table.Perm (stored.map (purchaseFleet.row lowBits
        (exactPipeline.host exactHost.floatRepr exactHost.ofCents))) ∧
      (purchaseBacklog.Drained → ∀ q ∈ [firstSent 0, firstSent 1, firstSent 0], q ∈ stored) :=
  fleet_events_stored_once exactPipeline exactHost.floatRepr exactHost.ofCents
    exactHost_readsAsDeclared purchaseFleet lowBits purchaseFleet_sound purchaseBacklog
    purchaseBacklog_resting.reachable _ firstSent_lt purchaseBacklog_carried

end LiveData.Events

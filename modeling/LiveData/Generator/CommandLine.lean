import LiveData.Core.Grouping
import LiveData.Generator.Drawing

/-!
# The command line of the generator

`main` after its arguments were parsed: the configuration, the loop that sends lines to the
sink until a limit, a signal or an exception, and the summary. Signals and the sink are
arguments, turn by turn.
-/

namespace LiveData.Generator

/-- The parsed arguments; integers passed `positive_int`. -/
structure CommandLineArgs where
  maxEvents : Option {n : Nat // 1 ≤ n}
  producerId : Str
  startTime : CivilTime
  slowRate : {n : Int // 1 ≤ n}
  normalRate : {n : Int // 1 ≤ n}
  burstRate : {n : Int // 1 ≤ n}
  minPhaseSeconds : {n : Int // 1 ≤ n}
  maxPhaseSeconds : {n : Int // 1 ≤ n}
  noSleep : Bool

/-- What the sink does with a line; one that it raises for may have been sent. -/
inductive EmitOutcome (ε : Type) where
  | accepted
  | raised (sent : Bool) (error : ε)

/-- What a turn of the loop meets. -/
structure LoopTurn (ε : Type) where
  shutdownRequested : Bool
  emit : EmitOutcome ε

/-- What `main` does outside. -/
inductive MainEffect where
  | emit (line : Str)
  | sleep (seconds : ℚ)
  | close
  deriving DecidableEq

/-- The variables of the loop; `yielded` counts in `iter_events`. -/
structure LoopState (F : Type) where
  generator : EventGenerator
  profile : TrafficProfile
  yielded : Nat
  emitted : Nat
  eventCounts : List (Str × Nat)
  effects : List MainEffect

/-- How the loop is left. -/
inductive LoopEnd (ε : Type) where
  | finished
  | generation (error : GenerationError)
  | sink (error : ε)
  | overflowError

/-- The least rate that is rounded to no finite float, so that `1.0 / rate` raises. -/
def floatOverflow : Nat := 2 ^ 1024 - 2 ^ 970

/-- The rate of the phase is too large for `1.0 / rate`. -/
def TrafficProfileConfig.Overflows (config : TrafficProfileConfig) (phase : TrafficPhase) : Prop :=
  floatOverflow ≤ config.rates.forPhase phase

instance (config : TrafficProfileConfig) (phase : TrafficPhase) :
    Decidable (config.Overflows phase) := inferInstanceAs (Decidable (_ ≤ _))

/-- The members of `EventType`. -/
def EventType.members : List EventType :=
  [.pageView, .productClick, .addToCart, .purchase, .checkoutError]

/-- The arguments of `print_summary`, its counts ordered. -/
structure Summary where
  emitted : Nat
  orderedCounts : List (Str × Nat)
  deriving DecidableEq

/-- `print_summary`. -/
def printSummary (emitted : Nat) (eventCounts : List (Str × Nat)) : Summary where
  emitted := emitted
  orderedCounts := EventType.members.map fun eventType =>
    (eventType.value, (eventCounts.lookup eventType.value).getD 0)

/-- `event_counts[value] += 1` for every event. -/
def countEvents {F : Type} (events : List (GeneratedEvent F)) : List (Str × Nat) :=
  Dict.groupRows (·.eventType.value) (fun _ => 0) (fun n _ => n + 1) events

section

variable {F ε : Type} (floatRepr : F → Str) (ofCents : Nat → F) (args : CommandLineArgs)

/-- The configuration of `main`; `parser.error` gets the message of a `ValueError`. -/
def configure (referenceTime : CivilTime) (catalog : FakerDataCatalog)
    (eventIdPrefix : Fin (2 ^ 32)) : Except Str (EventGenerator × TrafficProfile) := do
  let rates ← PhaseRates.init args.slowRate args.normalRate args.burstRate
  let trafficConfig ← TrafficProfileConfig.init rates args.minPhaseSeconds args.maxPhaseSeconds
  let generator ← EventGenerator.init ⟨args.producerId, args.startTime, referenceTime⟩ catalog
    eventIdPrefix
  return (generator, ⟨trafficConfig, none, 0⟩)

/-- The events reached the limit. -/
def CommandLineArgs.reached (emitted : Nat) : Bool :=
  match args.maxEvents with
  | none => false
  | some maxEvents => maxEvents.val ≤ emitted

/-- One turn of the `for` loop. -/
def loopTurn (turn : LoopTurn ε) (o : Outcomes) (s : LoopState F) :
    LoopState F × Option (LoopEnd ε) :=
  if args.reached s.yielded then (s, some .finished)
  else
    match s.generator.drawOne ofCents o s.profile with
    | .error e => (s, some (.generation e))
    | .ok (event, generator, profile) =>
      let s := { s with generator := generator, profile := profile, yielded := s.yielded + 1 }
      if turn.shutdownRequested then (s, some .finished)
      else
        let line := eventToJsonLine floatRepr event
        match turn.emit with
        | .raised sent e =>
          ({ s with effects := s.effects ++ if sent then [.emit line] else [] }, some (.sink e))
        | .accepted =>
          let s := { s with
            effects := s.effects ++ [.emit line]
            emitted := s.emitted + 1
            eventCounts := Dict.addRow (·.eventType.value) (fun _ => 0) (fun n _ => n + 1)
              s.eventCounts event }
          if args.reached s.emitted then (s, some .finished)
          else if args.noSleep then (s, none)
          else if s.profile.config.Overflows event.trafficPhase then (s, some .overflowError)
          else
            let seconds := s.profile.config.secondsBetweenEvents event.trafficPhase
            ({ s with effects := s.effects ++ [.sleep seconds] }, none)

/-- What `main` returns or raises. -/
inductive MainResult (ε : Type) where
  | returned (summary : Summary)
  | generation (error : GenerationError)
  | sink (error : ε)
  | overflowError

/-- The end of `main` behind its `finally`: what `close` raises prevails. -/
def mainResult (closeRaises : Option ε) (loopEnd : LoopEnd ε) (summary : Summary) :
    MainResult ε :=
  match closeRaises, loopEnd with
  | some e, _ => .sink e
  | none, .finished => .returned summary
  | none, .generation e => .generation e
  | none, .sink e => .sink e
  | none, .overflowError => .overflowError

/-- `main` from the loop on; `close` is called in any case. -/
def runMain (turns : Nat → LoopTurn ε) (outcomes : Nat → Outcomes) (closeRaises : Option ε)
    (generator : EventGenerator) (profile : TrafficProfile) (fuel : Nat) :
    Option (List MainEffect × MainResult ε) :=
  (runUntil (fun n => loopTurn floatRepr ofCents args (turns n) (outcomes n)) fuel 0
    ⟨generator, profile, 0, 0, [], []⟩).map fun (s, loopEnd) =>
      (s.effects ++ [.close],
        mainResult closeRaises loopEnd (printSummary s.emitted s.eventCounts))

end

/-! ## The configuration -/

variable {F ε : Type} {floatRepr : F → Str} {ofCents : Nat → F} {args : CommandLineArgs}

/-- The configuration fails for durations in the wrong order, then for a start in the future. -/
theorem configure_eq (args : CommandLineArgs) (referenceTime : CivilTime)
    (catalog : FakerDataCatalog) (eventIdPrefix : Fin (2 ^ 32)) :
    (args.maxPhaseSeconds.val < args.minPhaseSeconds.val →
      configure args referenceTime catalog eventIdPrefix =
        .error (str "min phase seconds must be less than or equal to max")) ∧
    (args.minPhaseSeconds.val ≤ args.maxPhaseSeconds.val →
      referenceTime.micros < args.startTime.micros →
        configure args referenceTime catalog eventIdPrefix = .error futureStartTimeError) ∧
    (args.minPhaseSeconds.val ≤ args.maxPhaseSeconds.val →
      args.startTime.micros ≤ referenceTime.micros →
        ∃ generator config, configure args referenceTime catalog eventIdPrefix =
            .ok (generator, ⟨config, none, 0⟩) ∧
          EventGenerator.init ⟨args.producerId, args.startTime, referenceTime⟩ catalog
            eventIdPrefix = .ok generator) := by
  obtain ⟨rates, hrates⟩ := PhaseRates.exists_init_iff.mpr
    ⟨args.slowRate.property, args.normalRate.property, args.burstRate.property⟩
  have hmin := args.minPhaseSeconds.property
  have hmax := args.maxPhaseSeconds.property
  refine ⟨fun horder => ?_, fun horder hfuture => ?_, fun horder hpast => ?_⟩
  · have hconfig : TrafficProfileConfig.init rates args.minPhaseSeconds args.maxPhaseSeconds =
        .error (str "min phase seconds must be less than or equal to max") := by
      rw [TrafficProfileConfig.init, dif_neg (by omega), dif_neg (by omega), dif_pos horder]
    rw [configure, hrates, ok_bind, hconfig, error_bind]
  · obtain ⟨config, hconfig⟩ := TrafficProfileConfig.exists_init_iff.mpr ⟨hmin, hmax, horder⟩
    have hinit : EventGenerator.init ⟨args.producerId, args.startTime, referenceTime⟩ catalog
        eventIdPrefix = .error futureStartTimeError := dif_pos hfuture
    rw [configure, hrates, ok_bind, hconfig, ok_bind, hinit, error_bind]
  · obtain ⟨config, hconfig⟩ := TrafficProfileConfig.exists_init_iff.mpr ⟨hmin, hmax, horder⟩
    let generator : EventGenerator := ⟨⟨args.producerId, args.startTime, referenceTime⟩, catalog,
      eventIdPrefix.val, 0, hpast, eventIdPrefix.isLt⟩
    have hinit : EventGenerator.init ⟨args.producerId, args.startTime, referenceTime⟩ catalog
        eventIdPrefix = .ok generator := EventGenerator.init_eq_ok_iff.mpr ⟨rfl, rfl, rfl, rfl⟩
    refine ⟨generator, config, ?_, hinit⟩
    rw [configure, hrates, ok_bind, hconfig, ok_bind, hinit, ok_bind]
    rfl

/-! ## The loop -/

/-- A turn is the last when it meets a signal or an exception of the sink, reaches the limit, or
would sleep at a rate beyond the floats. -/
def LoopTurn.Stops (args : CommandLineArgs) (config : TrafficProfileConfig) (turn : LoopTurn ε)
    (event : GeneratedEvent F) (n : Nat) : Prop :=
  turn.shutdownRequested = true ∨ turn.emit ≠ .accepted ∨ args.reached (n + 1) = true ∨
    (args.noSleep = false ∧ config.Overflows event.trafficPhase)

@[simp] theorem CommandLineArgs.reached_zero : args.reached 0 = false := by
  unfold reached
  cases args.maxEvents with
  | none => rfl
  | some maxEvents =>
    have hpos := maxEvents.property
    simp only [decide_eq_false_iff_not]
    omega

/-- What a turn that is not the last does outside. -/
def turnEffects (floatRepr : F → Str) (args : CommandLineArgs) (config : TrafficProfileConfig)
    (event : GeneratedEvent F) : List MainEffect :=
  .emit (eventToJsonLine floatRepr event) ::
    if args.noSleep then [] else [.sleep (config.secondsBetweenEvents event.trafficPhase)]

/-- What the last turn does outside. -/
def LoopTurn.lastEffects (floatRepr : F → Str) (turn : LoopTurn ε) (event : GeneratedEvent F) :
    List MainEffect :=
  if turn.shutdownRequested then []
  else
    match turn.emit with
    | .raised false _ => []
    | .raised true _ | .accepted => [.emit (eventToJsonLine floatRepr event)]

/-- The events that are counted when the `n`th turn is the last. -/
def LoopTurn.counted (turn : LoopTurn ε) (n : Nat) : Nat :=
  if turn.shutdownRequested then n
  else
    match turn.emit with
    | .raised _ _ => n
    | .accepted => n + 1

/-- How the loop is left by its last turn. -/
def LoopTurn.loopEnd (args : CommandLineArgs) (turn : LoopTurn ε) (n : Nat) : LoopEnd ε :=
  if turn.shutdownRequested then .finished
  else
    match turn.emit with
    | .raised _ e => .sink e
    | .accepted => if args.reached (n + 1) then .finished else .overflowError

/-- The state of the loop before a turn, when the events and the profiles are these. -/
def loopState (floatRepr : F → Str) (args : CommandLineArgs) (config : TrafficProfileConfig)
    (generator : Nat → EventGenerator) (profile : Nat → TrafficProfile)
    (event : Nat → GeneratedEvent F) (n : Nat) : LoopState F where
  generator := generator n
  profile := profile n
  yielded := n
  emitted := n
  eventCounts := countEvents ((List.range n).map event)
  effects := (List.range n).flatMap fun i => turnEffects floatRepr args config (event i)

section Turns

variable {config : TrafficProfileConfig} {generator : Nat → EventGenerator}
  {profile : Nat → TrafficProfile} {event : Nat → GeneratedEvent F} {turn : LoopTurn ε}
  {o : Outcomes} {n : Nat}

theorem countEvents_concat (events : List (GeneratedEvent F)) (last : GeneratedEvent F) :
    countEvents (events ++ [last]) =
      Dict.addRow (·.eventType.value) (fun _ => 0) (fun n _ => n + 1) (countEvents events) last :=
  Dict.groupRows_concat events last

/-- A turn that is not the last leads to the next state. -/
theorem loopTurn_of_not_stops
    (hdraw : (generator n).drawOne ofCents o (profile n) =
      .ok (event n, generator (n + 1), profile (n + 1)))
    (hconfig : (profile (n + 1)).config = config) (hreached : args.reached n = false)
    (hstops : ¬turn.Stops args config (event n) n) :
    loopTurn floatRepr ofCents args turn o
        (loopState floatRepr args config generator profile event n) =
      (loopState floatRepr args config generator profile event (n + 1), none) := by
  obtain ⟨hshutdown, hemit, hlimit, hrate⟩ : turn.shutdownRequested = false ∧
      turn.emit = .accepted ∧ args.reached (n + 1) = false ∧
        (args.noSleep = false → ¬config.Overflows (event n).trafficPhase) := by
    simpa [LoopTurn.Stops, not_or] using hstops
  simp only [loopTurn, loopState, hreached, hdraw, hshutdown, hemit, hlimit, hconfig,
    List.range_succ, List.map_append, List.map_singleton, countEvents_concat,
    List.flatMap_append, List.flatMap_singleton, turnEffects]
  cases hsleep : args.noSleep with
  | true => simp
  | false => simp [hrate hsleep]

/-- The last turn leaves the loop. -/
theorem loopTurn_of_stops
    (hdraw : (generator n).drawOne ofCents o (profile n) =
      .ok (event n, generator (n + 1), profile (n + 1)))
    (hconfig : (profile (n + 1)).config = config) (hreached : args.reached n = false)
    (hstops : turn.Stops args config (event n) n) :
    ∃ s : LoopState F, loopTurn floatRepr ofCents args turn o
        (loopState floatRepr args config generator profile event n) =
          (s, some (turn.loopEnd args n)) ∧
      s.emitted = turn.counted n ∧
        s.eventCounts = countEvents ((List.range (turn.counted n)).map event) ∧
          s.effects = ((List.range n).flatMap fun i =>
            turnEffects floatRepr args config (event i)) ++
              turn.lastEffects floatRepr (event n) := by
  unfold LoopTurn.loopEnd LoopTurn.counted LoopTurn.lastEffects
  cases hshutdown : turn.shutdownRequested with
  | true => simp [loopTurn, loopState, hreached, hdraw, hshutdown]
  | false =>
    cases hemit : turn.emit with
    | raised sent e => cases sent <;> simp [loopTurn, loopState, hreached, hdraw, hshutdown, hemit]
    | accepted =>
      cases hlimit : args.reached (n + 1) with
      | true =>
        simp [loopTurn, loopState, hreached, hdraw, hshutdown, hemit, hlimit, List.range_succ,
          countEvents_concat]
      | false =>
        obtain ⟨hsleep, hrate⟩ : args.noSleep = false ∧
            config.Overflows (event n).trafficPhase := by
          simpa [LoopTurn.Stops, hshutdown, hemit, hlimit] using hstops
        simp [loopTurn, loopState, hreached, hdraw, hshutdown, hemit, hlimit, hsleep, hconfig,
          hrate, List.range_succ, countEvents_concat]

end Turns

/-! ## The summary -/

theorem EventType.value_injective : Function.Injective EventType.value := by
  intro s t h
  cases s <;> cases t <;> first | rfl | exact absurd h (by decide)

/-- The counter of a type is the number of its events. -/
theorem lookup_countEvents (events : List (GeneratedEvent F)) (eventType : EventType) :
    ((countEvents events).lookup eventType.value).getD 0 =
      events.countP (·.eventType = eventType) := by
  have hfilter : (events.filter fun event => event.eventType.value = eventType.value) =
      events.filter fun event => event.eventType = eventType := by
    simp only [EventType.value_injective.eq_iff]
  rw [countEvents, Dict.lookup_groupRows, hfilter, List.countP_eq_length_filter]
  cases events.filter fun event => event.eventType = eventType with
  | nil => rfl
  | cons first rest =>
    rw [List.head?_cons, Option.map_some, Option.getD_some, List.foldl_add_const, Nat.zero_add,
      Nat.one_mul]

/-- The summary of events. -/
def summaryOf (events : List (GeneratedEvent F)) : Summary where
  emitted := events.length
  orderedCounts := EventType.members.map fun eventType =>
    (eventType.value, events.countP (·.eventType = eventType))

theorem printSummary_range (event : Nat → GeneratedEvent F) (n : Nat) :
    printSummary n (countEvents ((List.range n).map event)) =
      summaryOf ((List.range n).map event) := by
  simp only [printSummary, summaryOf, lookup_countEvents, List.length_map, List.length_range]

/-! ## `main` -/

/-- The limit is not reached before a turn when no turn before it was the last. -/
theorem reached_eq_false {config : TrafficProfileConfig} {event : Nat → GeneratedEvent F}
    {turns : Nat → LoopTurn ε} {n : Nat}
    (h : ∀ i < n, ¬(turns i).Stops args config (event i) i) : args.reached n = false := by
  cases n with
  | zero => exact CommandLineArgs.reached_zero
  | succ i =>
    have hstops := h i (Nat.lt_succ_self i)
    simp only [LoopTurn.Stops, not_or, Bool.not_eq_true] at hstops
    exact hstops.2.2.1

/-- A configuration that is accepted starts a generator and a fresh traffic profile. -/
theorem init_of_configure {referenceTime : CivilTime} {catalog : FakerDataCatalog}
    {eventIdPrefix : Fin (2 ^ 32)} {generator : EventGenerator} {profile : TrafficProfile}
    (h : configure args referenceTime catalog eventIdPrefix = .ok (generator, profile)) :
    EventGenerator.init ⟨args.producerId, args.startTime, referenceTime⟩ catalog eventIdPrefix =
        .ok generator ∧
      profile = ⟨profile.config, none, 0⟩ := by
  obtain ⟨rates, -, h⟩ := bind_eq_ok.mp h
  obtain ⟨config, -, h⟩ := bind_eq_ok.mp h
  obtain ⟨started, hstarted, h⟩ := bind_eq_ok.mp h
  obtain ⟨rfl, rfl⟩ := Prod.mk.inj (Except.ok.inj h)
  exact ⟨hstarted, rfl⟩

/-- Once its arguments are accepted and its sink is there, `main` sends the lines of a producer
run, whatever the random sources, the signals and the sink do. It goes on until a turn meets a
signal, an exception of the sink, the limit or a rate it cannot sleep at. Then it has sent the
lines of the turns before that one, and that turn's when neither a signal nor the sink kept it
back; it closes the sink once, last of all, and the counts of its summary are those of the lines
the sink took. -/
theorem runMain_eq (floatRepr : F → Str) (getrandbits : Fin (2 ^ 64) → Fin (2 ^ 32))
    (ofCents : Nat → F) (seed : Fin (2 ^ 64)) {lower : Str → Str} {faker : Faker}
    {buildFuel : Nat} {catalog : FakerDataCatalog} {referenceTime : CivilTime}
    {generator : EventGenerator} {profile : TrafficProfile} (hfuel : userPoolSize < buildFuel)
    (hb : FakerDataCatalog.build lower faker buildFuel = some catalog)
    (hc : configure args referenceTime catalog (getrandbits seed) = .ok (generator, profile))
    (turns : Nat → LoopTurn ε) (outcomes : Nat → Outcomes) (closeRaises : Option ε) :
    ∃ run : ProducerRun, run.config = ⟨args.producerId, args.startTime, referenceTime⟩ ∧
      run.catalog = catalog ∧
        (∀ n, (run.generator getrandbits ofCents seed n).Allows (run.draws n)) ∧
        (∀ fuel, (∀ n < fuel, ¬(turns n).Stops args profile.config
            (run.event getrandbits ofCents seed n) n) →
          runMain floatRepr ofCents args turns outcomes closeRaises generator profile fuel =
            none) ∧
        ∀ n, (∀ i < n, ¬(turns i).Stops args profile.config
            (run.event getrandbits ofCents seed i) i) →
          (turns n).Stops args profile.config (run.event getrandbits ofCents seed n) n →
            ∀ fuel > n,
              runMain floatRepr ofCents args turns outcomes closeRaises generator profile fuel =
                some (((List.range n).flatMap fun i => turnEffects floatRepr args profile.config
                    (run.event getrandbits ofCents seed i)) ++
                    (turns n).lastEffects floatRepr (run.event getrandbits ofCents seed n) ++
                    [.close],
                  mainResult closeRaises ((turns n).loopEnd args n) (summaryOf
                    ((List.range ((turns n).counted n)).map
                      (run.event getrandbits ofCents seed)))) := by
  obtain ⟨hinit, hprofile⟩ := init_of_configure hc
  obtain ⟨run, profiles, hconfig, hcatalog, hrun⟩ := exists_producerRun getrandbits ofCents seed
    (drawable_of_build hfuel hb) hinit profile.config outcomes
  let body : Nat → LoopState F → LoopState F × Option (LoopEnd ε) := fun n =>
    loopTurn floatRepr ofCents args (turns n) (outcomes n)
  let states := loopState floatRepr args profile.config (run.generator getrandbits ofCents seed)
    profiles (run.event getrandbits ofCents seed)
  have hstart : (⟨generator, profile, 0, 0, [], []⟩ : LoopState F) = states 0 := by
    obtain ⟨-, -, hyield, -⟩ := hrun 0
    obtain ⟨-, h⟩ := Prod.mk.inj (Except.ok.inj hyield)
    obtain ⟨hgenerator, hprofile0⟩ := Prod.mk.inj h
    simp only [states, loopState, ← hgenerator, ← hprofile0, ← hprofile]
    rfl
  have hstep : ∀ j, (∀ i < j + 1, ¬(turns i).Stops args profile.config
      (run.event getrandbits ofCents seed i) i) →
        body j (states j) = (states (j + 1), none) := fun j hj =>
    loopTurn_of_not_stops (hrun j).2.2.2 (hrun (j + 1)).2.1.config_eq
      (reached_eq_false fun i hi => hj i (Nat.lt_succ_of_lt hi)) (hj j (Nat.lt_succ_self j))
  refine ⟨run, hconfig, hcatalog, fun n => (hrun n).1, fun fuel hfuel => ?_,
    fun n hbefore hstops fuel hfuel => ?_⟩
  · have hnone : runUntil body fuel 0 (states 0) = none :=
      runUntil_eq_none fun j _ hj => hstep j fun i hi => hfuel i (by omega)
    rw [runMain, hstart, hnone, Option.map_none]
  · obtain ⟨last, hlast, hemitted, hcounts, heffects⟩ := loopTurn_of_stops (hrun n).2.2.2
      (hrun (n + 1)).2.1.config_eq (reached_eq_false hbefore) hstops
    have hsome : runUntil body fuel 0 (states 0) = some (last, (turns n).loopEnd args n) :=
      runUntil_eq_some (fun j _ hj => hstep j fun i hi => hbefore i (by omega)) hlast
        (Nat.zero_le n) (by omega)
    have hsummary : printSummary last.emitted last.eventCounts = summaryOf
        ((List.range ((turns n).counted n)).map (run.event getrandbits ofCents seed)) := by
      rw [hemitted, hcounts, printSummary_range]
    rw [runMain, hstart, hsome, Option.map_some]
    simp only [heffects, hsummary]

/-- `--max-events 3 --no-sleep` with a start within a millisecond. -/
def threeEventArgs : CommandLineArgs where
  maxEvents := some ⟨3, by decide⟩
  producerId := str "producer_local"
  startTime := EventGenerator.submillisecondStart.config.startTime
  slowRate := ⟨defaultProfileConfig.rates.slow, defaultProfileConfig.rates.slow_ge⟩
  normalRate := ⟨defaultProfileConfig.rates.normal, defaultProfileConfig.rates.normal_ge⟩
  burstRate := ⟨defaultProfileConfig.rates.burst, defaultProfileConfig.rates.burst_ge⟩
  minPhaseSeconds := ⟨defaultProfileConfig.minPhaseSeconds, defaultProfileConfig.min_ge⟩
  maxPhaseSeconds := ⟨defaultProfileConfig.maxPhaseSeconds, defaultProfileConfig.max_ge⟩
  noSleep := true

/-- No signal comes, and the sink takes every line. -/
def quietTurns (_ : Nat) : LoopTurn Str := ⟨false, .accepted⟩

/-- Without a signal and with a sink that takes every line, three lines are sent. -/
theorem threeEvents_sent : ∃ (catalog : FakerDataCatalog) (generator : EventGenerator)
    (profile : TrafficProfile), FakerDataCatalog.build id constantFaker 161 = some catalog ∧
      configure threeEventArgs EventGenerator.submillisecondStart.config.referenceTime catalog 12 =
        .ok (generator, profile) ∧
      ∀ outcomes : Nat → Outcomes, ∃ run : ProducerRun,
        let event : Nat → GeneratedEvent Nat := run.event (fun _ => 12) id 3
        let line := fun n => eventToJsonLine natText (event n)
        runMain natText id threeEventArgs quietTurns outcomes none generator profile 3 =
          some ([.emit (line 0), .emit (line 1), .emit (line 2), .close],
            .returned (summaryOf [event 0, event 1, event 2])) := by
  obtain ⟨catalog, -, hbuild⟩ := FakerDataCatalog.exists_build id constantFaker
  have hb := hbuild 161 (by decide)
  obtain ⟨generator, config, hc, -⟩ := (configure_eq threeEventArgs
    EventGenerator.submillisecondStart.config.referenceTime catalog 12).2.2 (by decide)
      EventGenerator.submillisecondStart.start_le
  refine ⟨catalog, generator, _, hb, hc, fun outcomes => ?_⟩
  obtain ⟨run, -, -, -, -, hmain⟩ := runMain_eq natText (fun _ => 12) (id : Nat → Nat) 3
    (by decide) hb hc quietTurns outcomes none
  have hsleep : threeEventArgs.noSleep = true := rfl
  exact ⟨run, hmain 2 (by simp [LoopTurn.Stops, quietTurns, hsleep]; decide)
    (Or.inr (Or.inr (Or.inl (by decide)))) 3 (by decide)⟩

end LiveData.Generator

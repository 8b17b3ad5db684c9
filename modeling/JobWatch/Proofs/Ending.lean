import JobWatch.Proofs.Frame

/-!
# How a job ends

The outcomes of its fetches alone settle how a job ends. They are scanned with a count of
consecutive failures, and the first outcome that decides is the last one that is fetched: a payload
that reports completion or failure, a definitive error, or the transient error that fills the count
to the limit. Clocks, delays and whatever happens to the other kind have no part in it.
-/

set_option autoImplicit false

namespace JobWatch

/-! ## The scan -/

inductive Ending where
  | completed (payload : Json)
  | rejected (message : String)
  | exhausted (message : String)

namespace Ending

def failures (count : Nat) : FetchOutcome → Nat
  | .ok _ => 0
  | .error _ => count + 1

/-- What an outcome decides after a number of consecutive failures. -/
def decided? (kind : Kind) (limit : UInt32) (count : Nat) : FetchOutcome → Option Ending
  | .ok payload =>
    match Completion.detect kind payload with
    | .pending => none
    | .complete => some (.completed payload)
    | .failed message => some (.rejected message)
  | .error error =>
    if !error.isTransient then some (.rejected error.message)
    else if (max limit 1).toNat ≤ count + 1 then some (.exhausted error.message)
    else none

def reached? (kind : Kind) (limit : UInt32) : Nat → List FetchOutcome → Option Ending
  | _, [] => none
  | count, outcome :: rest =>
    (decided? kind limit count outcome).or (reached? kind limit (failures count outcome) rest)

/-- How many outcomes are asked for: those up to the deciding one, or all if none decides. -/
def needed (kind : Kind) (limit : UInt32) : Nat → List FetchOutcome → Nat
  | _, [] => 0
  | count, outcome :: rest =>
    match decided? kind limit count outcome with
    | some _ => 1
    | none => needed kind limit (failures count outcome) rest + 1

def event (limit : UInt32) (kind : Kind) (id : JobId) : Ending → Event
  | .completed payload => .jobCompleted kind id payload
  | .rejected message => .jobFailed kind id ⟨.rejected, message⟩
  | .exhausted message => .jobFailed kind id ⟨.budgetExhausted (max limit 1), message⟩

/-- What an ending leaves behind: the slot, the live result and the cached one, which only a
completion replaces. -/
def Shows (engine : Engine) (kind : Kind) (id : JobId) (cached : Option Snapshot) :
    Ending → Prop
  | .completed payload =>
    engine.record? kind = none ∧ engine.results.live? kind = none ∧
      (engine.results.cached? kind).map Snapshot.payload = some payload
  | .rejected message =>
    (∃ record, engine.record? kind = some record ∧ record.id = id ∧ record.status = .failed ∧
      record.lastError = some message) ∧
      engine.results.live? kind = none ∧ engine.results.cached? kind = cached
  | .exhausted _ =>
    engine.record? kind = none ∧ engine.results.live? kind = none ∧
      engine.results.cached? kind = cached

theorem Shows.of_spares {ending : Ending} {engine later : Engine} {kind : Kind} {id : JobId}
    {cached : Option Snapshot} {events : List Event}
    (left : ending.Shows engine kind id cached)
    (spares : Engine.Spares kind engine later events) : ending.Shows later kind id cached := by
  cases ending <;>
    simpa only [Shows, Engine.record?, ResultBoard.live?, ResultBoard.cached?, spares.slot,
      spares.results] using left

theorem Shows.inactive {ending : Ending} {engine : Engine} {kind : Kind} {id : JobId}
    {cached : Option Snapshot} (left : ending.Shows engine kind id cached) :
    engine.store.active? kind = none := by
  rw [Store.active?_eq_none_iff]
  intro record held
  cases ending with
  | completed payload =>
      have empty := left.1
      rw [Engine.record?, held] at empty
      cases empty
  | exhausted message =>
      have empty := left.1
      rw [Engine.record?, held] at empty
      cases empty
  | rejected message =>
      obtain ⟨⟨kept, same, _, failed, _⟩, _⟩ := left
      rw [Engine.record?, held] at same
      cases same
      rw [Record.isActive, failed]
      rfl

end Ending

/-! ## The retry budget in natural numbers -/

theorem RetryPolicy.limit_ofLimit (limit : UInt32) : (ofLimit limit).limit = max limit 1 := by
  have unfolded : max limit 1 = if limit ≤ 1 then 1 else limit := rfl
  rw [ofLimit, unfolded]
  by_cases zero : limit = 0
  · rw [if_pos zero, if_pos (by rw [zero]; decide)]
  · rw [if_neg zero]
    split
    · next small =>
        have positive : limit.toNat ≠ 0 := fun none => zero (UInt32.toNat_inj.mp none)
        have atMost : limit.toNat ≤ 1 := UInt32.le_iff_toNat_le.mp small
        exact UInt32.toNat_inj.mp (by simp; omega)
    · rfl

theorem RetryPolicy.one_le_limit (limit : UInt32) : 1 ≤ (max limit 1).toNat := by
  rw [← limit_ofLimit, ofLimit]
  split
  · decide
  · next nonzero => exact Nat.one_le_iff_ne_zero.mpr fun none => nonzero (UInt32.toNat_inj.mp none)

theorem RetryBudget.consumed_recordFailure {budget : RetryBudget} {limit : UInt32}
    (below : budget.consumed.toNat < limit.toNat) :
    budget.recordFailure.consumed.toNat = budget.consumed.toNat + 1 := by
  have bound := limit.toNat_lt
  rw [recordFailure]
  split
  · next full => simp [full] at below; omega
  · simp [UInt32.toNat_add]
    omega

/-- A loop in this phase takes its next tick. -/
def Phase.IsIdle (phase : Phase) : Prop := phase = .spawned ∨ ∃ due, phase = .waiting due

namespace Engine

/-! ## What a run does for a kind -/

/-- The fetch for a kind that a move begins: its time and its job. -/
def fetch? (engine : Engine) (settings : EngineSettings) (kind : Kind) :
    Move → Option (Nat × JobId)
  | .tick time n =>
    if (engine.poller.session? n).any fun s => s.kind = kind then
      (engine.perform settings (.tick time n)).reply.fetched?.map fun job => (time, job)
    else none
  | _ => none

def fetches (engine : Engine) (settings : EngineSettings) (kind : Kind) :
    List Move → List (Nat × JobId)
  | [] => []
  | move :: rest =>
    (engine.fetch? settings kind move).toList ++
      (engine.perform settings move).engine.fetches settings kind rest

/-- Where a run leads, what it fetches for a kind, and what it tells of the jobs of the kind. -/
structure Leads (settings : EngineSettings) (kind : Kind) (engine : Engine) (moves : List Move)
    (later : Engine) (fetched : List (Nat × JobId)) (told : List Event) : Prop where
  reached : engine.after settings moves = later
  fetched : engine.fetches settings kind moves = fetched
  told : (engine.emitted settings moves).filter (fun event => event.kind? = some kind) = told

section

variable {settings : EngineSettings} {kind : Kind} {engine middle later : Engine}

theorem fetches_append (moves rest : List Move) :
    engine.fetches settings kind (moves ++ rest) = engine.fetches settings kind moves ++
      (engine.after settings moves).fetches settings kind rest := by
  induction moves generalizing engine with
  | nil => rfl
  | cons move moves ih => rw [List.cons_append, fetches, fetches, ih, after_cons, List.append_assoc]

theorem leads_nil : Leads settings kind engine [] engine [] [] := ⟨rfl, rfl, rfl⟩

theorem leads_move (settings : EngineSettings) (kind : Kind) (engine : Engine) (move : Move) :
    Leads settings kind engine [move] (engine.perform settings move).engine
      (engine.fetch? settings kind move).toList
      ((engine.perform settings move).events.filter fun event => event.kind? = some kind) := by
  refine ⟨rfl, ?_, ?_⟩
  · rw [fetches, fetches, List.append_nil]
  · rw [emitted_cons, emitted_nil, List.append_nil]

theorem Leads.append {moves rest : List Move} {fetched fetched' : List (Nat × JobId)}
    {told told' : List Event} (first : Leads settings kind engine moves middle fetched told)
    (second : Leads settings kind middle rest later fetched' told') :
    Leads settings kind engine (moves ++ rest) later (fetched ++ fetched') (told ++ told') := by
  obtain ⟨rfl, rfl, rfl⟩ := first
  obtain ⟨rfl, rfl, rfl⟩ := second
  exact ⟨after_append .., fetches_append .., by rw [emitted_append, List.filter_append]⟩

theorem Leads.cons {move : Move} {rest : List Move} {fetched : List (Nat × JobId)}
    {told : List Event} (unfetched : engine.fetch? settings kind move = none)
    (silent : ∀ event ∈ (engine.perform settings move).events, event.kind? ≠ some kind)
    (leads : Leads settings kind (engine.perform settings move).engine rest later fetched told) :
    Leads settings kind engine (move :: rest) later fetched told := by
  refine ⟨leads.reached, ?_, ?_⟩
  · rw [fetches, unfetched, leads.fetched]
    rfl
  · have none : (engine.perform settings move).events.filter
        (fun event => event.kind? = some kind) = [] := by
      rw [List.filter_eq_nil_iff]
      exact fun event member => by simpa using silent event member
    rw [emitted_cons, List.filter_append, none, leads.told]
    rfl

theorem fetch?_eq_some {move : Move} {time : Nat} {job : JobId}
    (fetched : engine.fetch? settings kind move = some (time, job)) :
    ∃ n s record, move = .tick time n ∧ engine.poller.session? n = some s ∧ s.kind = kind ∧
      s.cancelled = false ∧ engine.store.get? kind = some record ∧ record.isActive = true := by
  unfold fetch? at fetched
  split at fetched
  · next at_ n =>
      split at fetched
      · next ofKind =>
          obtain ⟨s, found, same⟩ := (Option.any_eq_true _ _).mp ofKind
          have same : s.kind = kind := by simpa using same
          obtain ⟨_, ticked⟩ | ⟨_, _, _, _, _, ticked⟩ |
              ⟨t, _, held, _, uncancelled, _, current, _⟩ :=
            engine.poller.tick_cases settings.pollInterval at_ n engine.store.isCurrent
          · simp [perform, tick, ticked, Upshot.fetched?] at fetched
          · simp [perform, tick, ticked, Upshot.fetched?] at fetched
          · rw [found] at held
            cases held
            obtain ⟨record, slot, _, active⟩ := Store.isCurrent_iff.mp current
            obtain ⟨_, _, pair⟩ := Option.map_eq_some_iff.mp fetched
            cases pair
            exact ⟨n, s, record, rfl, found, same, uncancelled, same ▸ slot, active⟩
      · cases fetched
  · cases fetched

end

/-! ## Jobs under way and jobs that have ended -/

/-- A run in which nothing ends the sessions of a kind from outside and nothing refreshes its
cached result. -/
def Undisturbed (settings : EngineSettings) (kind : Kind) : Engine → List Move → Prop
  | _, [] => True
  | engine, move :: rest =>
    (¬ Ends settings engine kind move ∧ ¬ move.Refreshes kind) ∧
      Undisturbed settings kind (engine.perform settings move).engine rest

theorem undisturbed_append {settings : EngineSettings} {kind : Kind} {engine : Engine}
    {moves rest : List Move} : Undisturbed settings kind engine (moves ++ rest) ↔
      Undisturbed settings kind engine moves ∧
        Undisturbed settings kind (engine.after settings moves) rest := by
  induction moves generalizing engine with
  | nil => simp [Undisturbed]
  | cons move moves ih =>
      rw [List.cons_append, Undisturbed, Undisturbed, ih, after_cons]
      simp only [and_assoc]

/-- A job is tracked by a session, after so many consecutive failures, with the cached result
untouched. -/
structure Underway (engine : Engine) (kind : Kind) (id : JobId) (n : Nat)
    (cached : Option Snapshot) (count : Nat) (phase : Phase) : Prop where
  coherent : engine.Coherent
  session : engine.poller.session? n = some ⟨kind, id, false, phase⟩
  held : ∃ record, engine.store.get? kind = some record ∧ record.id = id ∧
    record.isActive = true ∧ record.retryBudget.consumed.toNat = count
  cached : engine.results.cached? kind = cached

/-- Where a job stands after its fetches: at its end, or between two fetches. -/
def Stands (engine : Engine) (kind : Kind) (id : JobId) (n : Nat) (cached : Option Snapshot)
    (count : Nat) : Option Ending → Prop
  | some ending => ending.Shows engine kind id cached
  | none => ∃ phase : Phase, phase.IsIdle ∧ engine.Underway kind id n cached count phase

section

variable {settings : EngineSettings} {engine : Engine} {kind : Kind} {id : JobId} {n : Nat}
  {cached : Option Snapshot} {count : Nat} {phase : Phase}

theorem Underway.sole (underway : engine.Underway kind id n cached count phase) {m : Nat}
    {s : Session} (found : engine.poller.session? m = some s) (same : s.kind = kind)
    (uncancelled : s.cancelled = false) : m = n :=
  underway.coherent.poller.unique found underway.session same uncancelled rfl

/-- A job under way is left alone by the moves that are not of its session. -/
theorem Underway.perform (underway : engine.Underway kind id n cached count phase) {move : Move}
    (unended : ¬ Ends settings engine kind move) (unrefreshed : ¬ move.Refreshes kind)
    (foreign : move.isOf n = false) :
    (engine.perform settings move).engine.Underway kind id n cached count phase ∧
      engine.fetch? settings kind move = none ∧
      ∀ event ∈ (engine.perform settings move).events, event.kind? ≠ some kind := by
  have effect := perform_effect engine settings move
  have spares := effect.spares unended unrefreshed (by
    intro m s record own awaited same
    rw [underway.sole awaited.session same awaited.uncancelled, foreign] at own
    cases own)
  refine ⟨⟨effect.coherent underway.coherent, ?_, ?_, ?_⟩, ?_, spares.silent⟩
  · exact effect.keeps_session underway.coherent underway.session unended foreign
  · rw [spares.slot]
    exact underway.held
  · rw [ResultBoard.cached?, spares.results]
    exact underway.cached
  · cases fetched : engine.fetch? settings kind move with
    | none => rfl
    | some fetch =>
        obtain ⟨time, job⟩ := fetch
        obtain ⟨m, s, _, rfl, found, same, uncancelled, _⟩ := fetch?_eq_some fetched
        rw [underway.sole found same uncancelled] at foreign
        simp [Move.isOf] at foreign

theorem Underway.quiet (underway : engine.Underway kind id n cached count phase)
    {moves : List Move} (undisturbed : Undisturbed settings kind engine moves)
    (foreign : ∀ move ∈ moves, move.isOf n = false) :
    ∃ later, Leads settings kind engine moves later [] [] ∧
      later.Underway kind id n cached count phase := by
  induction moves generalizing engine with
  | nil => exact ⟨engine, leads_nil, underway⟩
  | cons move rest ih =>
      obtain ⟨⟨unended, unrefreshed⟩, undisturbed⟩ := undisturbed
      obtain ⟨still, unfetched, silent⟩ :=
        underway.perform unended unrefreshed (foreign move List.mem_cons_self)
      obtain ⟨later, leads, reached⟩ :=
        ih still undisturbed fun other member => foreign other (List.mem_cons_of_mem _ member)
      exact ⟨later, leads.cons unfetched silent, reached⟩

theorem quiet_of_shows {ending : Ending} (left : ending.Shows engine kind id cached)
    {moves : List Move} (undisturbed : Undisturbed settings kind engine moves) :
    ∃ later, Leads settings kind engine moves later [] [] ∧
      ending.Shows later kind id cached := by
  induction moves generalizing engine with
  | nil => exact ⟨engine, leads_nil, left⟩
  | cons move rest ih =>
      obtain ⟨⟨unended, unrefreshed⟩, undisturbed⟩ := undisturbed
      have inactive := Store.active?_eq_none_iff.mp left.inactive
      have spares := (perform_effect engine settings move).spares unended unrefreshed (by
        intro m s record _ awaited same
        have active := awaited.active
        rw [inactive record (same ▸ awaited.held)] at active
        cases active)
      have unfetched : engine.fetch? settings kind move = none := by
        cases fetched : engine.fetch? settings kind move with
        | none => rfl
        | some fetch =>
            obtain ⟨_, _, record, _, _, _, _, held, active⟩ := fetch?_eq_some fetched
            rw [inactive record held] at active
            cases active
      obtain ⟨later, leads, reached⟩ := ih (left.of_spares spares) undisturbed
      exact ⟨later, leads.cons unfetched spares.silent, reached⟩

theorem Stands.quiet {ending? : Option Ending}
    (stands : engine.Stands kind id n cached count ending?) {moves : List Move}
    (undisturbed : Undisturbed settings kind engine moves)
    (foreign : ∀ move ∈ moves, move.isOf n = false) :
    ∃ later, Leads settings kind engine moves later [] [] ∧
      later.Stands kind id n cached count ending? := by
  cases ending? with
  | some ending => exact quiet_of_shows stands undisturbed
  | none =>
      obtain ⟨phase, idle, underway⟩ := stands
      obtain ⟨later, leads, underway⟩ := underway.quiet undisturbed foreign
      exact ⟨later, leads, phase, idle, underway⟩

/-! ## One fetch -/

theorem Underway.tick (underway : engine.Underway kind id n cached count phase)
    (nonzero : settings.pollInterval ≠ 0)
    (idle : phase.IsIdle) (time : Nat) :
    ∃ later due, Leads settings kind engine [.tick time n] later [(time, id)] [] ∧
      later.Underway kind id n cached count (.fetching due) := by
  obtain ⟨record, held, same, active, consumed⟩ := underway.held
  have session := underway.session
  have current : engine.store.isCurrent kind id = true :=
    Store.isCurrent_iff.mpr ⟨record, held, same, active⟩
  obtain ⟨due, awaited⟩ : ∃ due, Session.due? ⟨kind, id, false, phase⟩ time = some due := by
    rcases idle with rfl | ⟨due, rfl⟩
    · exact ⟨time, rfl⟩
    · exact ⟨due, rfl⟩
  have ticked : engine.poller.tick settings.pollInterval time n engine.store.isCurrent =
      (some id, engine.poller.setPhase n
        (.fetching (Cadence.next settings.pollInterval due time))) := by
    simp [Poller.tick, session, awaited, nonzero, current]
  refine ⟨(engine.perform settings (.tick time n)).engine,
    Cadence.next settings.pollInterval due time, ⟨rfl, ?_, rfl⟩, ?_⟩
  · simp [fetches, fetch?, session, Engine.perform, Engine.tick, ticked, Upshot.fetched?]
  · refine ⟨underway.coherent.perform settings _, ?_, underway.held, underway.cached⟩
    simp only [Engine.perform, Engine.tick, ticked, Poller.session?_setPhase, session]
    rfl

theorem filter_completionEvents (kind : Kind) (id : JobId) (payload : Json) :
    (completionEvents kind id payload).filter (fun event => event.kind? = some kind) =
      [.jobCompleted kind id payload] := by
  simp [completionEvents, List.filter_append, List.filter_map, Function.comp_def, Event.kind?]

private theorem shows_rejected (now : Timestamp) (record : Record) (message : String)
    (verdict : Verdict) :
    (Ending.rejected message).Shows ((engine.rejected now kind record message).settled n verdict)
      kind record.id (engine.results.cached? kind) :=
  ⟨⟨_, Store.get?_put_self .., rfl, rfl, rfl⟩, ResultBoard.live?_clearLive ..,
    ResultBoard.cached?_clearLive ..⟩

/-- What the response to a fetch does is what its outcome decides. -/
theorem Effect.stands {due : Nat} {now : Timestamp} {outcome : FetchOutcome} {later : Engine}
    {events : List Event} (effect : Effect settings engine (.respond now n outcome) later events)
    (underway : engine.Underway kind id n cached count (.fetching due))
    (below : count < (max settings.retryLimit 1).toNat) :
    events.filter (fun event => event.kind? = some kind) =
        (Ending.decided? kind settings.retryLimit count outcome).toList.map
          (Ending.event settings.retryLimit kind id) ∧
      later.Stands kind id n cached (Ending.failures count outcome)
        (Ending.decided? kind settings.retryLimit count outcome) := by
  obtain ⟨held, slot, rfl, active, rfl⟩ := underway.held
  have session := underway.session
  have coherent := effect.coherent underway.coherent
  have own : ∀ {s : Session} {record : Record}, engine.Awaited n s record →
      s = ⟨kind, held.id, false, .fetching due⟩ ∧ record = held := by
    intro s record awaited
    have sessions := awaited.session
    rw [session] at sessions
    cases sessions
    have records := awaited.held
    rw [slot] at records
    cases records
    exact ⟨rfl, rfl⟩
  have waiting : (engine.poller.settle n .goOn).session? n =
      some ⟨kind, held.id, false, .waiting due⟩ := by
    rw [Poller.session?_settle, if_pos rfl, session]
    rfl
  -- The count is below the limit, so it does not stop at its greatest value.
  have counted : held.retryBudget.recordFailure.consumed.toNat =
      held.retryBudget.consumed.toNat + 1 := RetryBudget.consumed_recordFailure below
  cases effect with
  | idle request => cases request
  | opened tracks _ => cases tracks
  | dropped late =>
      rw [awaits_eq_some_iff.mpr ⟨held, session, rfl, ⟨due, rfl⟩, slot, rfl, active⟩] at late
      cases late
  | progressed awaited pending =>
      obtain ⟨rfl, rfl⟩ := own awaited
      simp only [Ending.decided?, pending]
      refine ⟨rfl, .waiting due, .inr ⟨due, rfl⟩, coherent, waiting, ?_, ?_⟩
      · exact ⟨_, Store.get?_put_self .., rfl, rfl, rfl⟩
      · exact (ResultBoard.cached?_setLive ..).trans underway.cached
  | completed awaited complete _ =>
      obtain ⟨rfl, rfl⟩ := own awaited
      simp only [Ending.decided?, complete]
      refine ⟨filter_completionEvents .., Store.get?_clear_self .., ?_, ?_⟩
      · simp [Engine.settled, Engine.completed]
      · simp [Engine.settled, Engine.completed]
  | suppressed awaited _ published =>
      rw [underway.coherent.hasPublished_of_awaited awaited] at published
      cases published
  | failed awaited failed =>
      obtain ⟨rfl, rfl⟩ := own awaited
      simp only [Ending.decided?, failed, ← underway.cached]
      exact ⟨by simp [Event.kind?, Ending.event], shows_rejected ..⟩
  | retried awaited transient kept =>
      obtain ⟨rfl, rfl⟩ := own awaited
      rw [RetryPolicy.limit_ofLimit, UInt32.lt_iff_toNat_lt, counted] at kept
      simp only [Ending.decided?, transient, if_neg (Nat.not_le.mpr kept)]
      refine ⟨rfl, .waiting due, .inr ⟨due, rfl⟩, coherent, waiting, ?_, underway.cached⟩
      exact ⟨_, Store.get?_put_self .., rfl, active, counted⟩
  | @exhausted _ _ _ record _ awaited transient reached =>
      obtain ⟨rfl, rfl⟩ := own awaited
      rw [RetryPolicy.limit_ofLimit, UInt32.le_iff_toNat_le, counted] at reached
      -- The count reaches the limit in steps of one, so it does not pass it.
      have full : record.retryBudget.recordFailure.consumed = max settings.retryLimit 1 :=
        UInt32.toNat_inj.mp (counted.trans (Nat.le_antisymm below reached))
      simp only [Ending.decided?, transient, if_pos reached]
      refine ⟨by simp [Event.kind?, Ending.event, full], Store.get?_clear_self .., ?_, ?_⟩
      · exact ResultBoard.live?_clearLive ..
      · exact (ResultBoard.cached?_clearLive ..).trans underway.cached
  | aborted awaited definitive =>
      obtain ⟨rfl, rfl⟩ := own awaited
      simp only [Ending.decided?, definitive, ← underway.cached]
      exact ⟨by simp [Event.kind?, Ending.event], shows_rejected ..⟩

end

end Engine

/-! ## Sequences of fetches -/

/-- One turn of a poll loop in the midst of other moves: a tick, and the response to its fetch. -/
structure Round where
  before : List Move
  time : Nat
  during : List Move
  now : Timestamp
  outcome : FetchOutcome

namespace Round

def moves (n : Nat) (round : Round) : List Move :=
  round.before ++ ([.tick round.time n] ++ (round.during ++ [.respond round.now n round.outcome]))

/-- What comes in between is not of the session. -/
def Foreign (n : Nat) (round : Round) : Prop :=
  ∀ move ∈ round.before ++ round.during, move.isOf n = false

end Round

namespace Engine

section

variable {settings : EngineSettings} {engine : Engine} {kind : Kind} {id : JobId} {n : Nat}
  {cached : Option Snapshot} {count : Nat} {phase : Phase}

theorem Underway.round (underway : engine.Underway kind id n cached count phase)
    (nonzero : settings.pollInterval ≠ 0)
    (idle : phase.IsIdle)
    (below : count < (max settings.retryLimit 1).toNat) {round : Round}
    (foreign : round.Foreign n) (undisturbed : Undisturbed settings kind engine (round.moves n)) :
    ∃ later, Leads settings kind engine (round.moves n) later [(round.time, id)]
        ((Ending.decided? kind settings.retryLimit count round.outcome).toList.map
          (Ending.event settings.retryLimit kind id)) ∧
      later.Stands kind id n cached (Ending.failures count round.outcome)
        (Ending.decided? kind settings.retryLimit count round.outcome) := by
  rw [Round.moves, undisturbed_append, undisturbed_append, undisturbed_append] at undisturbed
  obtain ⟨before, _, during, _⟩ := undisturbed
  obtain ⟨first, waits, underway⟩ := underway.quiet before fun move member =>
    foreign move (List.mem_append_left _ member)
  rw [waits.reached] at during
  obtain ⟨second, due, fetches, underway⟩ := underway.tick nonzero idle round.time
  rw [fetches.reached] at during
  obtain ⟨third, proceeds, underway⟩ := underway.quiet during fun move member =>
    foreign move (List.mem_append_right _ member)
  have effect := perform_effect third settings (.respond round.now n round.outcome)
  obtain ⟨told, stands⟩ := effect.stands underway below
  have responds := leads_move settings kind third (.respond round.now n round.outcome)
  rw [told] at responds
  exact ⟨_, waits.append (fetches.append (proceeds.append responds)), stands⟩

theorem failures_lt {limit : UInt32} {outcome : FetchOutcome}
    (undecided : Ending.decided? kind limit count outcome = none) :
    Ending.failures count outcome < (max limit 1).toNat := by
  cases outcome with
  | ok payload => exact RetryPolicy.one_le_limit limit
  | error error =>
      simp only [Ending.decided?] at undecided
      split at undecided
      · cases undecided
      · split at undecided
        · cases undecided
        · next below => exact Nat.not_le.mp below

/-- Turns of a loop lead where the scan of their outcomes leads. -/
theorem Underway.rounds (underway : engine.Underway kind id n cached count phase)
    (nonzero : settings.pollInterval ≠ 0)
    (idle : phase.IsIdle)
    (below : count < (max settings.retryLimit 1).toNat) {rounds : List Round}
    (foreign : ∀ round ∈ rounds, round.Foreign n)
    (undisturbed : Undisturbed settings kind engine (rounds.flatMap (Round.moves n))) :
    ∃ later, Leads settings kind engine (rounds.flatMap (Round.moves n)) later
        ((rounds.take (Ending.needed kind settings.retryLimit count
          (rounds.map Round.outcome))).map fun round => (round.time, id))
        ((Ending.reached? kind settings.retryLimit count (rounds.map Round.outcome)).toList.map
          (Ending.event settings.retryLimit kind id)) ∧
      later.Stands kind id n cached ((rounds.map Round.outcome).foldl Ending.failures count)
        (Ending.reached? kind settings.retryLimit count (rounds.map Round.outcome)) := by
  induction rounds generalizing engine count phase with
  | nil => exact ⟨engine, leads_nil, phase, idle, underway⟩
  | cons round rest ih =>
      rw [List.flatMap_cons, undisturbed_append] at undisturbed
      obtain ⟨here, later⟩ := undisturbed
      obtain ⟨middle, leads, stands⟩ :=
        underway.round nonzero idle below (foreign round List.mem_cons_self) here
      rw [leads.reached] at later
      have others : ∀ next ∈ rest, next.Foreign n := fun next member =>
        foreign next (List.mem_cons_of_mem _ member)
      simp only [List.flatMap_cons, List.map_cons, Ending.needed, Ending.reached?, List.foldl_cons]
      cases decided : Ending.decided? kind settings.retryLimit count round.outcome with
      -- The loop is at its end, and the turns that follow find it so.
      | some ending =>
          rw [decided] at leads stands
          obtain ⟨last, silence, left⟩ := quiet_of_shows stands later
          refine ⟨last, ?_, left⟩
          simpa using leads.append silence
      | none =>
          rw [decided] at leads stands
          obtain ⟨phase, idle, underway⟩ := stands
          obtain ⟨last, continues, stands⟩ := ih underway idle (failures_lt decided) others later
          refine ⟨last, ?_, stands⟩
          simpa using leads.append continues

end

/-- The outcomes of its fetches settle how a job ends, whatever the engine has been through and
whatever is on show when the job is taken up. A fetch is made for each outcome up to the deciding
one and for none behind it; subscribers are told of the start and of the ending; and the engine is
left as the ending says. As long as no outcome decides, the job is active and polled. -/
theorem ending_of_outcomes (settings : EngineSettings) (nonzero : settings.pollInterval ≠ 0)
    (earlier : List Move) (board : ResultBoard) {opening : Move} {now : Timestamp} {kind : Kind}
    {id : JobId} (tracks : opening.Tracks now kind id)
    (free : (initial.after settings earlier).store.active? kind = none) (rounds : List Round)
    (rest : List Move) :
    let start : Engine := { initial.after settings earlier with results := board }
    let n := start.poller.sessions.length
    let moves := rounds.flatMap (Round.moves n) ++ rest
    let outcomes := rounds.map Round.outcome
    let ending? := Ending.reached? kind settings.retryLimit 0 outcomes
    (∀ round ∈ rounds, round.Foreign n) → (∀ move ∈ rest, move.isOf n = false) →
    Undisturbed settings kind (start.perform settings opening).engine moves →
    start.fetches settings kind (opening :: moves) =
        (rounds.take (Ending.needed kind settings.retryLimit 0 outcomes)).map
          (fun round => (round.time, id)) ∧
      (start.emitted settings (opening :: moves)).filter (fun event => event.kind? = some kind) =
        .jobStarted kind id :: ending?.toList.map (Ending.event settings.retryLimit kind id) ∧
      (start.after settings (opening :: moves)).Stands kind id n (board.cached? kind)
        (outcomes.foldl Ending.failures 0) ending? := by
  intro start n moves outcomes ending? foreign foreignRest undisturbed
  have coherent : start.Coherent := by
    obtain ⟨poller, live, unpublished⟩ := coherent_after settings earlier
    exact ⟨poller, live, unpublished⟩
  have begins : Begins settings start opening kind id := begins_of_tracks tracks free
  obtain ⟨_, now, tracks, opened, told⟩ := begins_iff.mp begins
  have underway : (start.perform settings opening).engine.Underway kind id n (board.cached? kind) 0
      .spawned := by
    refine ⟨coherent.perform settings opening, ?_, ?_, ?_⟩ <;> rw [opened]
    · exact Poller.session?_attach_self ..
    · exact ⟨_, Store.get?_put_self .., rfl, rfl, rfl⟩
    · exact ResultBoard.cached?_clearLive ..
  have begun := leads_move settings kind start opening
  have unfetched : start.fetch? settings kind opening = none := by
    cases tracks <;> rfl
  rw [unfetched, told] at begun
  rw [undisturbed_append] at undisturbed
  obtain ⟨during, remaining⟩ := undisturbed
  obtain ⟨middle, leads, stands⟩ := underway.rounds nonzero (.inl rfl)
    (RetryPolicy.one_le_limit settings.retryLimit) foreign during
  rw [leads.reached] at remaining
  obtain ⟨later, silence, stands⟩ := stands.quiet remaining foreignRest
  have run := begun.append (leads.append silence)
  refine ⟨run.fetched.trans ?_, run.told.trans ?_, ?_⟩
  · simp only [Option.toList_none, List.nil_append, List.append_nil]
    rfl
  · simp [Event.kind?, ending?, outcomes]
  · have reached : start.after settings (opening :: moves) = later := run.reached
    rw [reached]
    exact stands

/-- With a limit of zero, the first transient error that follows a payload uses the budget up, a
request for another job is refused in between, and the completion behind is not fetched. -/
theorem ending_of_first_error :
    let settings : EngineSettings := ⟨3000, 0, 300000⟩
    let rounds : List Round := [
      ⟨[], 0, [.begin (.ofMillis 1) (.track .findIssues ⟨"J2"⟩)], .ofMillis 2, .ok .null⟩,
      ⟨[], 3000, [], .ofMillis 3001, .error (.network "refused")⟩,
      ⟨[], 6000, [], .ofMillis 6001, .ok (.obj [("report", .obj [])])⟩]
    let opening : Move := .begin (.ofMillis 0) (.track .findIssues ⟨"J1"⟩)
    let moves := opening :: (rounds.flatMap (Round.moves 0) ++ [])
    Undisturbed settings .findIssues (initial.perform settings opening).engine
        (rounds.flatMap (Round.moves 0) ++ []) ∧
      initial.fetches settings .findIssues moves = [(0, ⟨"J1"⟩), (3000, ⟨"J1"⟩)] ∧
      (initial.emitted settings moves).filter (fun event => event.kind? = some .findIssues) =
        [.jobStarted .findIssues ⟨"J1"⟩, .jobFailed .findIssues ⟨"J1"⟩
          ⟨.budgetExhausted 1, "network error: refused"⟩] := by
  intro settings rounds opening moves
  have turn : ∀ (engine : Engine) (time : Nat), ¬ Ends settings engine .findIssues (.tick time 0) ∧
      ¬ Move.Refreshes .findIssues (.tick time 0) := by
    refine fun engine time => ⟨?_, nofun⟩
    rintro (_ | _ | _ | ⟨_, tracked, _⟩)
    cases tracked
  have answer : ∀ (engine : Engine) (now : Timestamp) (outcome : FetchOutcome),
      ¬ Ends settings engine .findIssues (.respond now 0 outcome) ∧
        ¬ Move.Refreshes .findIssues (.respond now 0 outcome) := by
    refine fun engine now outcome => ⟨?_, nofun⟩
    rintro (_ | _ | _ | ⟨_, tracked, _⟩)
    cases tracked
  have undisturbed : Undisturbed settings .findIssues (initial.perform settings opening).engine
      (rounds.flatMap (Round.moves 0) ++ []) := by
    refine ⟨turn _ _, ⟨?_, nofun⟩, answer _ _ _, turn _ _, answer _ _ _, turn _ _, answer _ _ _,
      trivial⟩
    -- A job is active, so the request is refused and begins no session.
    rintro (_ | _ | _ | ⟨_, tracked, _⟩)
    cases tracked
  have foreign : ∀ round ∈ rounds, round.Foreign 0 := by
    simp [rounds, Round.Foreign, Move.isOf]
  have ending := @ending_of_outcomes settings (by decide) [] initial.results opening (.ofMillis 0)
    .findIssues ⟨"J1"⟩ .directly rfl rounds [] foreign (by simp) undisturbed
  exact ⟨undisturbed, ending.1, ending.2.1⟩

end Engine

end JobWatch

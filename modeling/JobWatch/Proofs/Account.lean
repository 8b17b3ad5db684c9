import JobWatch.Proofs.Ending
import JobWatch.Proofs.Requests

/-!
# The account of a session

What the slot of a kind holds is settled by what has happened since its job was taken up: the
outcomes of the session's fetches and what subscribers were told of the job. A run keeps this
account for each kind and begins it anew with every session. An outcome enters the account if
nothing has ended the session when it comes, and that is exactly when the engine takes it in.
-/

set_option autoImplicit false

namespace JobWatch

/-- What a move brings for a kind. -/
structure Report where
  begun : Bool
  outcome : Option FetchOutcome
  told : List Event

/-- What has happened in the latest session of a kind. -/
structure Account where
  outcomes : List FetchOutcome
  told : List Event

namespace Account

def empty : Account := ⟨[], []⟩

def next (account : Account) (report : Report) : Account :=
  if report.begun then ⟨[], report.told⟩
  else ⟨account.outcomes ++ report.outcome.toList, account.told ++ report.told⟩

def payloads (account : Account) : List Json := account.outcomes.filterMap Except.toOption

/-- The number of failures behind the latest payload, or since the session began. -/
def failures (account : Account) : Nat :=
  (account.outcomes.reverse.takeWhile fun outcome => !outcome.isOk).length

variable (account : Account) (told : List Event)

@[simp] theorem next_silent : account.next ⟨false, none, []⟩ = account := by
  simp [next]

@[simp] theorem told_next (outcome : Option FetchOutcome) :
    (account.next ⟨false, outcome, told⟩).told = account.told ++ told := rfl

@[simp] theorem payloads_next_payload (payload : Json) :
    (account.next ⟨false, some (.ok payload), told⟩).payloads = account.payloads ++ [payload] := by
  simp [next, payloads, Except.toOption]

@[simp] theorem payloads_next_error (error : TransportError) :
    (account.next ⟨false, some (.error error), told⟩).payloads = account.payloads := by
  simp [next, payloads, Except.toOption]

@[simp] theorem failures_next_payload (payload : Json) :
    (account.next ⟨false, some (.ok payload), told⟩).failures = 0 := by
  simp [next, failures, Except.isOk, Except.toBool]

@[simp] theorem failures_next_error (error : TransportError) :
    (account.next ⟨false, some (.error error), told⟩).failures = account.failures + 1 := by
  simp [next, failures, Except.isOk, Except.toBool]

end Account

def Session.isFetching (s : Session) : Bool :=
  match s.phase with
  | .fetching _ => true
  | _ => false

theorem Session.isFetching_iff {s : Session} :
    s.isFetching = true ↔ ∃ due, s.phase = .fetching due := by
  cases phase : s.phase <;> simp [isFetching, phase]

namespace Engine

/-- The outcome that a move brings for a kind: the response to a fetch of a session of the kind
that nothing has ended. -/
def outcome? (engine : Engine) (kind : Kind) : Move → Option FetchOutcome
  | .respond _ n outcome =>
    if (engine.poller.session? n).any fun s => s.kind = kind && !s.cancelled && s.isFetching then
      some outcome
    else none
  | _ => none

def report (engine : Engine) (settings : EngineSettings) (kind : Kind) (move : Move) : Report :=
  let step := engine.perform settings move
  { begun := step.reply.tracked?.any fun record => record.kind = kind
    outcome := engine.outcome? kind move
    told := step.events.filter fun event => event.kind? = some kind }

/-- The account of the latest session of a kind after a run, continued from an earlier one. -/
def account (engine : Engine) (settings : EngineSettings) (kind : Kind) :
    Account → List Move → Account
  | earlier, [] => earlier
  | earlier, move :: rest =>
    (engine.perform settings move).engine.account settings kind
      (earlier.next (engine.report settings kind move)) rest

end Engine

/-! ## What a move does to a slot -/

/-- Everything that a move can do to the slot and the live result of a kind, with what it brings
for the kind. -/
inductive SlotChange (settings : EngineSettings) (kind : Kind) (move : Move)
    (slot : Option Record) (live : Option Snapshot) :
    Report → Option Record → Option Snapshot → Prop where
  | kept : SlotChange settings kind move slot live ⟨false, none, []⟩ slot live
  | opened {now id} : move.Tracks now kind id →
      SlotChange settings kind move slot live ⟨true, none, [.jobStarted kind id]⟩
        (some (.start now kind id)) none
  | stopped {now record} : slot = some record → record.isActive = true →
      SlotChange settings kind move slot live ⟨false, none, [.jobStopped kind record.id]⟩
        (some (record.ended now .stopped none)) none
  | vacated : SlotChange settings kind move slot live ⟨false, none, []⟩ none none
  | progressed {now record payload} : slot = some record → record.isActive = true →
      Completion.detect kind payload = .pending →
      SlotChange settings kind move slot live ⟨false, some (.ok payload), []⟩
        (some (record.succeeded now)) (some ⟨kind, payload, now, .live⟩)
  | completed {record payload} : slot = some record → record.isActive = true →
      SlotChange settings kind move slot live
        ⟨false, some (.ok payload), [.jobCompleted kind record.id payload]⟩ none none
  | failed {now record payload message} : slot = some record → record.isActive = true →
      SlotChange settings kind move slot live
        ⟨false, some (.ok payload), [.jobFailed kind record.id ⟨.rejected, message⟩]⟩
        (some ((record.succeeded now).ended now .failed (some message))) none
  | retried {now record error} : slot = some record → record.isActive = true →
      record.retryBudget.recordFailure.consumed < (RetryPolicy.ofLimit settings.retryLimit).limit →
      SlotChange settings kind move slot live ⟨false, some (.error error), []⟩
        (some (record.faltered now error.message)) live
  | exhausted {record error failure} : slot = some record → record.isActive = true →
      SlotChange settings kind move slot live
        ⟨false, some (.error error), [.jobFailed kind record.id failure]⟩ none none
  | aborted {now record error} : slot = some record → record.isActive = true →
      SlotChange settings kind move slot live
        ⟨false, some (.error error), [.jobFailed kind record.id ⟨.rejected, error.message⟩]⟩
        (some ((record.faltered now error.message).ended now .failed (some error.message))) none

@[simp] theorem ResultBoard.live?_setLive (board : ResultBoard) (now : Timestamp) (kind : Kind)
    (payload : Json) :
    (board.setLive now kind payload).live? kind = some ⟨kind, payload, now, .live⟩ := by
  simp [setLive, live?]

theorem ResultBoard.live?_applyRefresh (board : ResultBoard) (now : Timestamp) (kind : Kind)
    (ticket : Nat) (answer : LastResult) :
    (board.applyRefresh now kind ticket answer).live? kind = board.live? kind := by
  simp only [applyRefresh]
  split
  · rfl
  · split <;> simp [live?]

namespace Engine

section

variable {settings : EngineSettings} {engine later : Engine} {move : Move} {events : List Event}
  {kind : Kind}

theorem outcome?_of_isRequest (request : move.isRequest = true) :
    engine.outcome? kind move = none := by
  cases move with
  | respond => cases request
  | _ => rfl

theorem Awaited.unique {n : Nat} {s t : Session} {record other : Record}
    (first : engine.Awaited n s record) (second : engine.Awaited n t other) :
    s = t ∧ record = other := by
  have sessions := first.session
  rw [second.session] at sessions
  cases sessions
  have records := first.held
  rw [second.held] at records
  cases records
  exact ⟨rfl, rfl⟩

theorem Awaited.outcome? {n : Nat} {s : Session} {record : Record}
    (awaited : engine.Awaited n s record) (now : Timestamp) (outcome : FetchOutcome) :
    engine.outcome? kind (.respond now n outcome) =
      if s.kind = kind then some outcome else none := by
  obtain ⟨due, phase⟩ := awaited.fetching
  simp [Engine.outcome?, awaited.session, awaited.uncancelled, Session.isFetching, phase]

/-- An outcome that enters the account is one that the engine awaits: while nothing has ended a
session, its job is current. -/
theorem Coherent.awaited_of_outcome? (coherent : engine.Coherent) {outcome : FetchOutcome}
    (heard : engine.outcome? kind move = some outcome) :
    ∃ now n s record, move = .respond now n outcome ∧ engine.Awaited n s record ∧
      s.kind = kind := by
  unfold Engine.outcome? at heard
  split at heard
  · next now n _ =>
      split at heard
      · next goesOn =>
          cases heard
          obtain ⟨s, found, running⟩ := (Option.any_eq_true _ _).mp goesOn
          simp only [Bool.and_eq_true, Bool.not_eq_true', decide_eq_true_eq] at running
          obtain ⟨⟨ofKind, uncancelled⟩, fetching⟩ := running
          obtain ⟨due, phase⟩ := Session.isFetching_iff.mp fetching
          have live : s.isLive = true := Session.isLive_iff.mpr ⟨uncancelled, by simp [phase]⟩
          obtain ⟨record, held, same, active⟩ :=
            Store.isCurrent_iff.mp (coherent.live n s found live)
          exact ⟨now, n, s, record, rfl,
            ⟨found, uncancelled, ⟨due, phase⟩, held, same, active⟩, ofKind⟩
      · cases heard
  · cases heard

theorem Effect.slotChange_of_awaited {now : Timestamp} {n : Nat} {outcome : FetchOutcome}
    (effect : Effect settings engine (.respond now n outcome) later events)
    (coherent : engine.Coherent) {s : Session} {record : Record}
    (awaited : engine.Awaited n s record) :
    SlotChange settings s.kind (.respond now n outcome) (engine.store.get? s.kind)
      (engine.results.live? s.kind)
      ⟨false, some outcome, events.filter fun event => event.kind? = some s.kind⟩
      (later.store.get? s.kind) (later.results.live? s.kind) := by
  have held := awaited.held
  have active := awaited.active
  cases effect with
  | idle request => cases request
  | opened tracks _ => cases tracks
  | dropped late =>
      rw [awaits_eq_some_iff.mpr ⟨record, awaited⟩] at late
      cases late
  | progressed other pending =>
      obtain ⟨rfl, rfl⟩ := awaited.unique other
      simpa [Engine.settled] using SlotChange.progressed held active pending
  | completed other _ _ =>
      obtain ⟨rfl, rfl⟩ := awaited.unique other
      simpa [Engine.settled, Engine.completed, filter_completionEvents, ← awaited.same] using
        SlotChange.completed held active
  | suppressed other _ published =>
      rw [coherent.hasPublished_of_awaited other] at published
      cases published
  | failed other _ =>
      obtain ⟨rfl, rfl⟩ := awaited.unique other
      simpa [Engine.settled, Engine.rejected, Event.kind?, ← awaited.same] using
        SlotChange.failed held active
  | retried other _ below =>
      obtain ⟨rfl, rfl⟩ := awaited.unique other
      simpa [Engine.settled] using SlotChange.retried held active below
  | exhausted other _ _ =>
      obtain ⟨rfl, rfl⟩ := awaited.unique other
      simpa [Engine.settled, Engine.exhausted, Event.kind?, ← awaited.same] using
        SlotChange.exhausted held active
  | aborted other _ =>
      obtain ⟨rfl, rfl⟩ := awaited.unique other
      simpa [Engine.settled, Engine.rejected, Event.kind?, ← awaited.same] using
        SlotChange.aborted held active

theorem Effect.slotChange_of_ends (effect : Effect settings engine move later events)
    (ends : Ends settings engine kind move)
    (unbegun : ∀ id, ¬ Begins settings engine move kind id) :
    SlotChange settings kind move (engine.store.get? kind) (engine.results.live? kind)
      ⟨false, none, events.filter fun event => event.kind? = some kind⟩
      (later.store.get? kind) (later.results.live? kind) := by
  cases ends with
  | stop =>
      cases effect with
      | idle request => cases request
      | opened tracks _ => cases tracks
      | unstopped => exact .kept
      | stopped held active =>
          simpa [Engine.stopped, Event.kind?] using SlotChange.stopped held active
  | reset =>
      cases effect with
      | idle request => cases request
      | opened tracks _ => cases tracks
      | vacated => simpa [Engine.vacated] using SlotChange.vacated
  | shutdown =>
      cases effect with
      | idle request => cases request
      | opened tracks _ => cases tracks
      | shutdown => exact .kept
  | replaced begins => exact absurd begins (unbegun _)

theorem Effect.slotChange_of_unheard (effect : Effect settings engine move later events)
    (unended : ¬ Ends settings engine kind move) (unheard : engine.outcome? kind move = none) :
    SlotChange settings kind move (engine.store.get? kind) (engine.results.live? kind)
      ⟨false, none, events.filter fun event => event.kind? = some kind⟩
      (later.store.get? kind) (later.results.live? kind) := by
  have spared : ¬ move.Refreshes kind → (∀ n s record, move.isOf n = true →
      engine.Awaited n s record → s.kind ≠ kind) →
      SlotChange settings kind move (engine.store.get? kind) (engine.results.live? kind)
        ⟨false, none, events.filter fun event => event.kind? = some kind⟩
        (later.store.get? kind) (later.results.live? kind) := by
    intro unrefreshed unanswered
    have spares := effect.spares unended unrefreshed unanswered
    have untold : (events.filter fun event => event.kind? = some kind) = [] := by
      rw [List.filter_eq_nil_iff]
      intro event member
      simpa using spares.silent event member
    rw [untold, spares.slot, ResultBoard.live?, ResultBoard.live?, spares.results]
    exact .kept
  cases move with
  | begin =>
      apply spared
      · intro refreshes
        cases refreshes
      · intro n s record own
        cases own
  | shutdown => exact absurd .shutdown unended
  | tick =>
      cases effect with
      | idle request => cases request
      | opened tracks _ => cases tracks
      | ticked => exact .kept
  | respond now m outcome =>
      apply spared
      · intro refreshes
        cases refreshes
      · intro n s record own awaited ofKind
        have same : m = n := by simpa [Move.isOf] using own
        rw [same, awaited.outcome?, if_pos ofKind] at unheard
        cases unheard
  | resume now answer =>
      by_cases refreshes : Move.Refreshes kind (.resume now answer)
      · cases refreshes
        cases effect with
        | idle request => cases request
        | opened tracks _ => cases tracks
        | refreshed =>
            simp only [Engine.refreshed, ResultBoard.live?_applyRefresh]
            exact .kept
      · exact spared refreshes (by intro n s record own; cases own)

theorem report_begun_iff : (engine.report settings kind move).begun = true ↔
    ∃ id, Begins settings engine move kind id := by
  simp only [report, Begins, Option.any_eq_true, decide_eq_true_eq]
  constructor
  · rintro ⟨record, tracked, ofKind⟩
    exact ⟨record.id, record, tracked, ofKind, rfl⟩
  · rintro ⟨id, record, tracked, ofKind, _⟩
    exact ⟨record, tracked, ofKind⟩

theorem Coherent.slotChange (coherent : engine.Coherent) (settings : EngineSettings)
    (kind : Kind) (move : Move) :
    SlotChange settings kind move (engine.store.get? kind) (engine.results.live? kind)
      (engine.report settings kind move) ((engine.perform settings move).engine.store.get? kind)
      ((engine.perform settings move).engine.results.live? kind) := by
  have effect := perform_effect engine settings move
  cases begun : (engine.report settings kind move).begun with
  | true =>
      obtain ⟨id, begins⟩ := report_begun_iff.mp begun
      obtain ⟨_, now, tracks, opened, told⟩ := begins_iff.mp begins
      have unheard : engine.outcome? kind move = none := outcome?_of_isRequest tracks.isRequest
      have report : engine.report settings kind move = ⟨true, none, [.jobStarted kind id]⟩ := by
        rw [← begun, ← unheard]
        simp [Engine.report, told, Event.kind?]
      rw [report, opened]
      simpa [Engine.opened] using SlotChange.opened tracks
  | false =>
      have unbegun : ∀ id, ¬ Begins settings engine move kind id := by
        intro id begins
        rw [report_begun_iff.mpr ⟨id, begins⟩] at begun
        cases begun
      have report : engine.report settings kind move = ⟨false, engine.outcome? kind move,
          (engine.perform settings move).events.filter fun event => event.kind? = some kind⟩ :=
        congrArg (Report.mk · _ _) begun
      rw [report]
      cases heard : engine.outcome? kind move with
      | some outcome =>
          obtain ⟨now, n, s, record, rfl, awaited, rfl⟩ := coherent.awaited_of_outcome? heard
          exact effect.slotChange_of_awaited coherent awaited
      | none =>
          by_cases ends : Ends settings engine kind move
          · exact effect.slotChange_of_ends ends unbegun
          · exact effect.slotChange_of_unheard ends heard

end

end Engine

/-! ## Records -/

/-- How a record in the slot of a kind agrees with the account of its session. -/
structure Record.Accounted (record : Record) (limit : UInt32) (kind : Kind) (account : Account) :
    Prop where
  ofKind : record.kind = kind
  status : record.status = .starting ∨ record.status = .running ∨ record.status = .failed ∨
    record.status = .stopped
  starting : record.status = .starting → account.payloads = []
  running : record.status = .running → account.payloads ≠ []
  budget : record.isActive = true → record.retryBudget.consumed.toNat = account.failures ∧
    account.failures < (max limit 1).toNat
  opened : record.isActive = true → account.told = [.jobStarted kind record.id]
  failed : record.status = .failed → ∃ message, record.lastError = some message ∧
    account.told = [.jobStarted kind record.id, .jobFailed kind record.id ⟨.rejected, message⟩]

namespace Record.Accounted

theorem start (limit : UInt32) (now : Timestamp) (kind : Kind) (id : JobId) :
    (Record.start now kind id).Accounted limit kind ⟨[], [.jobStarted kind id]⟩ where
  ofKind := rfl
  status := .inl rfl
  starting _ := rfl
  running := nofun
  budget _ := ⟨rfl, RetryPolicy.one_le_limit limit⟩
  opened _ := rfl
  failed := nofun

variable {record : Record} {limit : UInt32} {kind : Kind} {account : Account}
  (accounted : record.Accounted limit kind account) (active : record.isActive = true)

include accounted

theorem stopped (now : Timestamp) :
    (record.ended now .stopped none).Accounted limit kind
      (account.next ⟨false, none, [.jobStopped kind record.id]⟩) where
  ofKind := accounted.ofKind
  status := .inr (.inr (.inr rfl))
  starting := nofun
  running := nofun
  budget := nofun
  opened := nofun
  failed := nofun

include active

theorem succeeded (now : Timestamp) (payload : Json) :
    (record.succeeded now).Accounted limit kind
      (account.next ⟨false, some (.ok payload), []⟩) where
  ofKind := accounted.ofKind
  status := .inr (.inl rfl)
  starting := nofun
  running _ := by simp
  budget _ := by
    rw [Account.failures_next_payload]
    exact ⟨rfl, RetryPolicy.one_le_limit limit⟩
  opened _ := by simpa using accounted.opened active
  failed := nofun

theorem faltered (now : Timestamp) (error : TransportError)
    (below : record.retryBudget.recordFailure.consumed.toNat < (max limit 1).toNat) :
    (record.faltered now error.message).Accounted limit kind
      (account.next ⟨false, some (.error error), []⟩) where
  ofKind := accounted.ofKind
  status := accounted.status
  starting status := by simpa using accounted.starting status
  running status := by simpa using accounted.running status
  budget _ := by
    obtain ⟨counted, bounded⟩ := accounted.budget active
    have step := RetryBudget.consumed_recordFailure (counted ▸ bounded)
    rw [Account.failures_next_error, ← counted, ← step]
    exact ⟨rfl, below⟩
  opened _ := by simpa using accounted.opened active
  failed status := by
    rw [isActive, show record.status = .failed from status] at active
    cases active

/-- A rejected job leaves the message of its failure, whatever its last outcome did to the
record first. -/
theorem rejected (last : Record) (ofKind : last.kind = record.kind) (same : last.id = record.id)
    (now : Timestamp) (outcome : FetchOutcome) (message : String) :
    (last.ended now .failed (some message)).Accounted limit kind
      (account.next ⟨false, some outcome, [.jobFailed kind record.id ⟨.rejected, message⟩]⟩) where
  ofKind := ofKind.trans accounted.ofKind
  status := .inr (.inr (.inl rfl))
  starting := nofun
  running := nofun
  budget := nofun
  opened := nofun
  failed _ := ⟨message, rfl, by simp [accounted.opened active, same]⟩

end Record.Accounted

theorem SlotChange.accounted {settings : EngineSettings} {kind : Kind} {move : Move}
    {slot slot' : Option Record} {live live' : Option Snapshot} {report : Report}
    (change : SlotChange settings kind move slot live report slot' live') {account : Account}
    (accounted : ∀ record, slot = some record →
      record.Accounted settings.retryLimit kind account)
    (record : Record) (held : slot' = some record) :
    record.Accounted settings.retryLimit kind (account.next report) := by
  cases change with
  | kept =>
      rw [Account.next_silent]
      exact accounted record held
  | opened =>
      cases held
      exact .start ..
  | stopped before active =>
      cases held
      exact (accounted _ before).stopped _
  | vacated => cases held
  | progressed before active =>
      cases held
      exact (accounted _ before).succeeded active _ _
  | completed => cases held
  | @failed now last payload message before active =>
      cases held
      exact (accounted last before).rejected active (last.succeeded now) rfl rfl now _ message
  | retried before active below =>
      cases held
      rw [RetryPolicy.limit_ofLimit, UInt32.lt_iff_toNat_lt] at below
      exact (accounted _ before).faltered active _ _ below
  | exhausted => cases held
  | @aborted now last error before active =>
      cases held
      exact (accounted last before).rejected active (last.faltered now error.message) rfl rfl now _
        error.message

/-- A job that gets into the slot of a kind was asked for. -/
theorem SlotChange.id_cases {settings : EngineSettings} {kind : Kind} {move : Move}
    {slot slot' : Option Record} {live live' : Option Snapshot} {report : Report}
    (change : SlotChange settings kind move slot live report slot' live') {record : Record}
    (held : slot' = some record) :
    (∃ before, slot = some before ∧ before.id = record.id) ∨
      ∃ now, move.Tracks now kind record.id := by
  cases change with
  | kept => exact .inl ⟨record, held, rfl⟩
  | opened tracks =>
      cases held
      exact .inr ⟨_, tracks⟩
  | stopped before _ =>
      cases held
      exact .inl ⟨_, before, rfl⟩
  | vacated => cases held
  | progressed before _ _ =>
      cases held
      exact .inl ⟨_, before, rfl⟩
  | completed => cases held
  | failed before _ =>
      cases held
      exact .inl ⟨_, before, rfl⟩
  | retried before _ _ =>
      cases held
      exact .inl ⟨_, before, rfl⟩
  | exhausted => cases held
  | aborted before _ =>
      cases held
      exact .inl ⟨_, before, rfl⟩

/-! ## Runs -/

/-- Jobs are tracked on demand of requests only. -/
def TrackedByRequests (moves : List Move) : Prop :=
  ∀ now kind id, .begin now (.track kind id) ∈ moves →
    ∃ request : Http.Request, request.service = .ok (.perform (.track kind id))

theorem TrackedByRequests.named {moves : List Move} (requested : TrackedByRequests moves)
    {move : Move} (made : move ∈ moves) {now : Timestamp} {kind : Kind} {id : JobId}
    (tracks : move.Tracks now kind id) : Text.isBlankText id.text = false := by
  cases tracks with
  | directly =>
      obtain ⟨request, served⟩ := requested now kind id made
      exact request.isBlankText_of_service served
  | started named =>
      apply eq_false_of_ne_true
      intro blank
      rw [Text.trim_of_isBlankText blank] at named
      cases named

namespace Engine

/-- What holds of an empty slot with an empty account and is kept by every change of the slot
holds after every run. -/
theorem account_invariant (settings : EngineSettings) (kind : Kind) (moves : List Move)
    {motive : Option Record → Option Snapshot → Account → Prop} (start : motive none none .empty)
    (step : ∀ move ∈ moves, ∀ slot live report slot' live' account,
      SlotChange settings kind move slot live report slot' live' → motive slot live account →
      motive slot' live' (account.next report)) :
    motive ((initial.after settings moves).store.get? kind)
      ((initial.after settings moves).results.live? kind)
      (initial.account settings kind .empty moves) := by
  have continued : ∀ (rest : List Move) (engine : Engine) (account : Account),
      (∀ move ∈ rest, move ∈ moves) → engine.Coherent →
      motive (engine.store.get? kind) (engine.results.live? kind) account →
      motive ((engine.after settings rest).store.get? kind)
        ((engine.after settings rest).results.live? kind)
        (engine.account settings kind account rest) := by
    intro rest
    induction rest with
    | nil => exact fun _ _ _ _ holds => holds
    | cons move rest ih =>
        intro engine account made coherent holds
        refine ih _ _ (fun next member => made next (List.mem_cons_of_mem _ member))
          (coherent.perform settings move) ?_
        exact step move (made move List.mem_cons_self) _ _ _ _ _ _
          (coherent.slotChange settings kind move) holds
  refine continued moves initial .empty (fun _ member => member) coherent_initial ?_
  cases kind <;> exact start

theorem accounted_after {settings : EngineSettings} {moves : List Move} {kind : Kind}
    {record : Record} (held : (initial.after settings moves).record? kind = some record) :
    record.Accounted settings.retryLimit kind (initial.account settings kind .empty moves) := by
  revert record
  apply account_invariant settings kind moves (motive := fun slot _ account =>
    ∀ record, slot = some record → record.Accounted settings.retryLimit kind account)
  · intro record none
    cases none
  · intro move _ slot live report slot' live' account change accounted
    exact change.accounted accounted

/-- Whatever record the slot of a kind holds between two moves, it agrees with the account of its
session: its status with the payloads, its budget with the failures behind them, and its error
with the failure that was told. If jobs are tracked on demand of requests only, its job has a name
that is not blank. -/
theorem record_accounted (settings : EngineSettings) (moves : List Move) (kind : Kind)
    (record : Record) (held : (initial.after settings moves).record? kind = some record) :
    record.Accounted settings.retryLimit kind (initial.account settings kind .empty moves) ∧
      (TrackedByRequests moves → ∃ c ∈ record.id.text.toList, Text.isBlank c = false) := by
  refine ⟨accounted_after held, ?_⟩
  intro requested
  have named : Text.isBlankText record.id.text = false := by
    revert record
    apply account_invariant settings kind moves (motive := fun slot _ _ =>
      ∀ record, slot = some record → Text.isBlankText record.id.text = false)
    · intro record none
      cases none
    · intro move made slot live report slot' live' account change named record held
      obtain ⟨before, found, same⟩ | ⟨now, tracks⟩ := change.id_cases held
      · exact same ▸ named before found
      · exact requested.named made tracks
  simpa [Text.isBlankText] using named

/-- A request for a job by name, with the array form of the body. -/
def requestByName : Http.Request where
  method := "POST"
  target := "/v1/jobs/find_issues/track"
  headers := [("content-type", "application/json")]
  body := [91, 34, 74, 49, 34, 93]

theorem service_requestByName :
    requestByName.service = .ok (.perform (.track .findIssues ⟨"J1"⟩)) := by
  have read : requestByName.service.toOption.bind Http.Service.tracked? =
      some (.findIssues, ⟨"J1"⟩) := by decide +kernel
  obtain ⟨service, served, tracked⟩ := Option.bind_eq_some_iff.mp read
  cases outcome : requestByName.service with
  | error response =>
      rw [outcome] at served
      cases served
  | ok found =>
      rw [outcome] at served
      cases served
      rw [Http.Service.eq_of_tracked? tracked]

/-- A job that shows a payload, falters once and is then rejected. -/
def faltersThenRejected : List Move := [
  .begin (.ofMillis 0) (.track .findIssues ⟨"J1"⟩),
  .tick 0 0, .respond (.ofMillis 1) 0 (.ok .null),
  .tick 3000 0, .respond (.ofMillis 3001) 0 (.error (.network "refused")),
  .tick 6000 0, .respond (.ofMillis 6001) 0 (.error (.decode "cut short"))]

theorem record_of_rejected_job :
    let account : Account := {
      outcomes := [.ok .null, .error (.network "refused"), .error (.decode "cut short")]
      told := [.jobStarted .findIssues ⟨"J1"⟩,
        .jobFailed .findIssues ⟨"J1"⟩ ⟨.rejected, "malformed response: cut short"⟩] }
    ∃ record, (initial.after .standard faltersThenRejected).record? .findIssues = some record ∧
      record.status = .failed ∧ record.Accounted 3 .findIssues account ∧
      ∃ c ∈ record.id.text.toList, Text.isBlank c = false := by
  intro account
  have kept : initial.account .standard .findIssues .empty faltersThenRejected = account := by rfl
  have requested : TrackedByRequests faltersThenRejected := by
    intro now kind id made
    simp only [faltersThenRejected, List.mem_cons, Move.begin.injEq, Action.track.injEq,
      reduceCtorEq, List.not_mem_nil, or_false] at made
    obtain ⟨_, rfl, rfl⟩ := made
    exact ⟨requestByName, service_requestByName⟩
  obtain ⟨accounted, named⟩ :=
    record_accounted .standard faltersThenRejected .findIssues _ rfl
  exact ⟨_, rfl, rfl, kept ▸ accounted, named requested⟩

end Engine

end JobWatch

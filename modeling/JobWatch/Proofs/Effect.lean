import JobWatch.Proofs.Current
import JobWatch.Proofs.Run
import JobWatch.Proofs.Sessions

/-!
# Effects of moves

Everything that a move can do to the engine and tell subscribers, with the condition under which
it does so. The list is complete: every move has one of these effects. So a property of runs is
proved by going through the list, and nothing else opens the definition of a move.
-/

set_option autoImplicit false

namespace JobWatch

/-- A move that asks for a job to be tracked: directly, or with the server's answer to a start
request, which names a job that is not blank. -/
inductive Move.Tracks : Move → Timestamp → Kind → JobId → Prop where
  | directly {now kind id} : Tracks (.begin now (.track kind id)) now kind id
  | started {now kind id} : (Text.trim id.text).isEmpty = false →
      Tracks (.resume now (.start kind (.ok ⟨some id⟩))) now kind id

/-- A move that leaves the engine alone unless it begins to track a job. -/
def Move.isRequest : Move → Bool
  | .begin _ (.view _) => true
  | .begin _ (.start ..) => true
  | .begin _ (.track ..) => true
  | .resume _ (.start ..) => true
  | _ => false

theorem Move.Tracks.isRequest {move : Move} {now : Timestamp} {kind : Kind} {id : JobId}
    (tracks : move.Tracks now kind id) : move.isRequest = true := by
  cases tracks <;> rfl

namespace Engine

/-- A session waits for the response to its fetch and its job is current, with this record. -/
structure Awaited (engine : Engine) (n : Nat) (s : Session) (record : Record) : Prop where
  session : engine.poller.session? n = some s
  uncancelled : s.cancelled = false
  fetching : ∃ due, s.phase = .fetching due
  held : engine.store.get? s.kind = some record
  same : record.id = s.job
  active : record.isActive = true

theorem awaits_eq_some_iff {engine : Engine} {n : Nat} {s : Session} :
    engine.poller.awaits n engine.store.isCurrent = some s ↔
      ∃ record, engine.Awaited n s record := by
  rw [Poller.awaits, Option.filter_eq_some_iff]
  constructor
  · rintro ⟨found, counts⟩
    simp only [Bool.and_eq_true, Bool.not_eq_true'] at counts
    obtain ⟨⟨uncancelled, current⟩, fetching⟩ := counts
    obtain ⟨record, held, same, active⟩ := Store.isCurrent_iff.mp current
    refine ⟨record, found, uncancelled, ?_, held, same, active⟩
    split at fetching
    · next due phase => exact ⟨due, phase⟩
    · cases fetching
  · rintro ⟨record, awaited⟩
    obtain ⟨due, phase⟩ := awaited.fetching
    have current := Store.isCurrent_iff.mpr ⟨record, awaited.held, awaited.same, awaited.active⟩
    exact ⟨awaited.session, by simp [awaited.uncancelled, current, phase]⟩

def opened (engine : Engine) (now : Timestamp) (kind : Kind) (id : JobId) : Engine where
  store := engine.store.put kind (.start now kind id)
  results := engine.results.clearLive kind
  bus := engine.bus.forget kind
  poller := engine.poller.attach kind id

def stopped (engine : Engine) (now : Timestamp) (kind : Kind) (record : Record) : Engine :=
  { engine with
    store := engine.store.put kind (record.ended now .stopped none)
    results := engine.results.clearLive kind
    poller := (engine.poller.detach kind).2 }

/-- The engine after the slot of a kind was emptied on demand. -/
def vacated (engine : Engine) (kind : Kind) : Engine :=
  { engine with
    store := engine.store.clear kind
    results := engine.results.clearLive kind
    poller := (engine.poller.detach kind).2 }

def settled (engine : Engine) (n : Nat) (verdict : Verdict) : Engine :=
  { engine with poller := engine.poller.settle n verdict }

/-- What a move does: the engine after it and the events it emits. -/
inductive Effect (settings : EngineSettings) (engine : Engine) :
    Move → Engine → List Event → Prop where
  | idle {move} : move.isRequest = true → Effect settings engine move engine []
  | opened {move now kind id} : move.Tracks now kind id → engine.store.active? kind = none →
      Effect settings engine move (engine.opened now kind id) [.jobStarted kind id]
  | unstopped {now kind} : engine.store.active? kind = none →
      Effect settings engine (.begin now (.stop kind))
        { engine with poller := (engine.poller.detach kind).2 } []
  | stopped {now kind record} : engine.store.get? kind = some record → record.isActive = true →
      Effect settings engine (.begin now (.stop kind)) (engine.stopped now kind record)
        [.jobStopped kind record.id]
  | vacated {now kind} :
      Effect settings engine (.begin now (.reset kind)) (engine.vacated kind) []
  | shutdown : Effect settings engine .shutdown engine.shutdown []
  | refreshed {now kind ticket answer} :
      Effect settings engine (.resume now (.lastResult kind ticket answer))
        (engine.refreshed now kind ticket answer) []
  | ticked {time n} :
      Effect settings engine (.tick time n) (engine.tick settings time n).2 []
  | dropped {now n outcome} : engine.poller.awaits n engine.store.isCurrent = none →
      Effect settings engine (.respond now n outcome) (engine.settled n .stop) []
  | progressed {now n s record payload} : engine.Awaited n s record →
      Completion.detect s.kind payload = .pending →
      Effect settings engine (.respond now n (.ok payload))
        ({ engine with
          store := engine.store.put s.kind (record.succeeded now)
          results := engine.results.setLive now s.kind payload }.settled n .goOn) []
  | completed {now n s record payload} : engine.Awaited n s record →
      Completion.detect s.kind payload = .complete →
      engine.bus.hasPublished s.kind s.job = false →
      Effect settings engine (.respond now n (.ok payload))
        ((engine.completed now s.kind s.job payload).settled n .stop)
        (completionEvents s.kind s.job payload)
  | suppressed {now n s record payload} : engine.Awaited n s record →
      Completion.detect s.kind payload = .complete →
      engine.bus.hasPublished s.kind s.job = true →
      Effect settings engine (.respond now n (.ok payload))
        ({ engine with
          store := engine.store.clear s.kind
          results := engine.results.promote now s.kind payload }.settled n .stop) []
  | failed {now n s record payload message} : engine.Awaited n s record →
      Completion.detect s.kind payload = .failed message →
      Effect settings engine (.respond now n (.ok payload))
        ((engine.rejected now s.kind (record.succeeded now) message).settled n .stop)
        [.jobFailed s.kind s.job ⟨.rejected, message⟩]
  | retried {now n s record error} : engine.Awaited n s record → error.isTransient = true →
      record.retryBudget.recordFailure.consumed <
        (RetryPolicy.ofLimit settings.retryLimit).limit →
      Effect settings engine (.respond now n (.error error))
        ({ engine with
          store := engine.store.put s.kind (record.faltered now error.message) }.settled n .goOn) []
  | exhausted {now n s record error} : engine.Awaited n s record → error.isTransient = true →
      (RetryPolicy.ofLimit settings.retryLimit).limit ≤
        record.retryBudget.recordFailure.consumed →
      Effect settings engine (.respond now n (.error error))
        ((engine.exhausted s.kind).settled n .stop)
        [.jobFailed s.kind s.job
          ⟨.budgetExhausted record.retryBudget.recordFailure.consumed, error.message⟩]
  | aborted {now n s record error} : engine.Awaited n s record → error.isTransient = false →
      Effect settings engine (.respond now n (.error error))
        ((engine.rejected now s.kind (record.faltered now error.message) error.message).settled n
          .stop)
        [.jobFailed s.kind s.job ⟨.rejected, error.message⟩]

variable (engine : Engine) (settings : EngineSettings)

theorem track_of_free (now : Timestamp) {kind : Kind} (id : JobId)
    (free : engine.store.active? kind = none) :
    engine.track now kind id =
      ⟨engine.opened now kind id, [.jobStarted kind id], .ok (.start now kind id)⟩ := by
  simp [track, Store.start, free, opened]

theorem track_of_active (now : Timestamp) {kind : Kind} (id : JobId) {record : Record}
    (active : engine.store.active? kind = some record) :
    engine.track now kind id = ⟨engine, [], .error (.alreadyActive record)⟩ := by
  simp [track, Store.start, active]

theorem stop_of_active (now : Timestamp) {kind : Kind} {record : Record}
    (held : engine.store.get? kind = some record) (active : record.isActive = true) :
    engine.stop now kind =
      ⟨engine.stopped now kind record, [.jobStopped kind record.id],
        .ok (record.ended now .stopped none)⟩ := by
  simp [stop, Store.transition_of_active held active now .stopped rfl, stopped]

theorem stop_of_inactive (now : Timestamp) {kind : Kind}
    (inactive : engine.store.active? kind = none) :
    ∃ source, engine.stop now kind =
      ⟨{ engine with poller := (engine.poller.detach kind).2 }, [], .error (.store source)⟩ := by
  obtain ⟨source, refused⟩ := Store.transition_of_inactive inactive now .stopped none
  exact ⟨source, by simp [stop, refused]⟩

private theorem track_effect {move : Move} {now : Timestamp} {kind : Kind} {id : JobId}
    (tracks : move.Tracks now kind id) :
    Effect settings engine move (engine.track now kind id).engine
      (engine.track now kind id).events := by
  cases found : engine.store.active? kind with
  | none =>
      rw [track_of_free engine now id found]
      exact .opened tracks found
  | some record =>
      rw [track_of_active engine now id found]
      exact .idle tracks.isRequest

private theorem startAnswered_effect (now : Timestamp) (kind : Kind) (answer : StartAnswer) :
    Effect settings engine (.resume now (.start kind answer))
      (engine.startAnswered now kind answer).engine
      (engine.startAnswered now kind answer).events := by
  cases answer with
  | error source => exact .idle rfl
  | ok started =>
      obtain ⟨named⟩ := started
      cases named with
      | none => exact .idle rfl
      | some id =>
          by_cases blank : (Text.trim id.text).isEmpty = true
          · simpa [startAnswered, Option.filter, blank] using Effect.idle rfl
          · have named := eq_false_of_ne_true blank
            have tracks : Move.Tracks (.resume now (.start kind (.ok ⟨some id⟩))) now kind id :=
              .started named
            simpa [startAnswered, Option.filter, named] using track_effect engine settings tracks

private theorem stop_effect (now : Timestamp) (kind : Kind) :
    Effect settings engine (.begin now (.stop kind)) (engine.stop now kind).engine
      (engine.stop now kind).events := by
  cases found : engine.store.active? kind with
  | none =>
      obtain ⟨source, refused⟩ := stop_of_inactive engine now found
      rw [refused]
      exact .unstopped found
  | some record =>
      obtain ⟨held, active⟩ := Store.active?_eq_some_iff.mp found
      rw [stop_of_active engine now held active]
      exact .stopped held active

private theorem begin_effect (now : Timestamp) (action : Action) :
    Effect settings engine (.begin now action) (engine.begin settings now action).engine
      (engine.begin settings now action).events := by
  cases action with
  | view kind =>
      simp only [begin]
      split <;> exact .idle rfl
  | start kind request =>
      simp only [begin]
      split <;> exact .idle rfl
  | track kind id => exact track_effect engine settings .directly
  | stop kind => exact stop_effect engine settings now kind
  | reset kind => exact .vacated

private theorem respond_effect (now : Timestamp) (n : Nat) (outcome : FetchOutcome) :
    Effect settings engine (.respond now n outcome)
      (engine.respond settings now n outcome).engine
      (engine.respond settings now n outcome).events := by
  cases found : engine.poller.awaits n engine.store.isCurrent with
  | none =>
      simp only [respond, found]
      exact .dropped found
  | some s =>
      obtain ⟨record, awaited⟩ := awaits_eq_some_iff.mp found
      have held := awaited.held
      have active := awaited.active
      simp only [respond, found, ← awaited.same]
      cases outcome with
      | ok payload =>
          cases detected : Completion.detect s.kind payload with
          | pending =>
              rw [accept_pending held active _ now detected]
              exact .progressed awaited detected
          | complete =>
              cases published : engine.bus.hasPublished s.kind record.id with
              | false =>
                  rw [accept_complete held active _ now detected published, awaited.same]
                  exact .completed awaited detected (awaited.same ▸ published)
              | true =>
                  rw [accept_duplicate held active _ now detected published]
                  exact .suppressed awaited detected (awaited.same ▸ published)
          | failed message =>
              rw [accept_failed held active _ now detected, awaited.same]
              exact .failed awaited detected
      | error error =>
          cases transient : error.isTransient with
          | false =>
              rw [accept_definitive held active _ now transient, awaited.same]
              exact .aborted awaited transient
          | true =>
              by_cases reached : (RetryPolicy.ofLimit settings.retryLimit).limit ≤
                  record.retryBudget.recordFailure.consumed
              · rw [accept_exhausted held active _ now transient reached, awaited.same]
                exact .exhausted awaited transient reached
              · rw [accept_retry held active _ now transient (UInt32.not_le.mp reached)]
                exact .retried awaited transient (UInt32.not_le.mp reached)

theorem perform_effect (move : Move) :
    Effect settings engine move (engine.perform settings move).engine
      (engine.perform settings move).events := by
  cases move with
  | begin now action => exact begin_effect engine settings now action
  | resume now answer =>
      cases answer with
      | start kind answer => exact startAnswered_effect engine settings now kind answer
      | lastResult kind ticket answer => exact .refreshed
  | shutdown => exact .shutdown
  | tick time n => exact .ticked
  | respond now n outcome => exact respond_effect engine settings now n outcome

end Engine

end JobWatch

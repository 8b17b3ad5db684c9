import JobWatch.Completion
import JobWatch.Config.Basic
import JobWatch.Event
import JobWatch.Invalidation
import JobWatch.Polling.Poller
import JobWatch.ResultBoard
import JobWatch.Retry
import JobWatch.Store

/-!
# The job engine

The engine tracks at most one job of each kind, polls it to its end, keeps the results on show
and tells subscribers what happens, once. It moves in steps that nothing interrupts: an operation
that has to wait for the server is two steps, one before the request and one after the answer,
and anything may happen in between. Each step gives the engine afterwards, the events it emits in
order, and its reply.
-/

set_option autoImplicit false

namespace JobWatch

inductive EngineError where
  | alreadyActive (record : Record)
  | noJobStarted (kind : Kind)
  | start (kind : Kind) (source : TransportError)
  | store (source : StoreError)
  deriving DecidableEq, Repr

def EngineError.message : EngineError → String
  | .alreadyActive record =>
    "a " ++ record.kind.name ++ " job is already active (" ++ record.id.text ++ ")"
  | .noJobStarted kind => "the server did not start a " ++ kind.name ++ " job"
  | .start kind source => "failed to start " ++ kind.name ++ " job: " ++ source.message
  | .store source => source.message

abbrev StartAnswer := Except TransportError StartedJob

abbrev FetchOutcome := Except TransportError Json

structure Engine where
  store : Store
  results : ResultBoard
  bus : InvalidationBus
  poller : Poller

namespace Engine

def initial : Engine := ⟨.empty, .empty, .empty, .empty⟩

structure Step (α : Type) where
  engine : Engine
  events : List Event
  reply : α

def record? (engine : Engine) (kind : Kind) : Option Record := engine.store.get? kind

def status (engine : Engine) (kind : Kind) : Status := engine.store.status kind

def isPolling (engine : Engine) (kind : Kind) : Bool := engine.poller.isPolling kind

/-! ## Operations -/

/-- Begins to track a job: a session of its own, with the live result and the completion marker
of earlier jobs gone. -/
def track (engine : Engine) (now : Timestamp) (kind : Kind) (id : JobId) :
    Step (Except EngineError Record) :=
  match engine.store.start now kind id with
  | (.alreadyActive record, _) => ⟨engine, [], .error (.alreadyActive record)⟩
  | (.started record, store) =>
    { engine := {
        store
        results := engine.results.clearLive kind
        bus := engine.bus.forget kind
        poller := engine.poller.attach kind id }
      events := [.jobStarted kind record.id]
      reply := .ok record }

def startRefusal? (engine : Engine) (kind : Kind) : Option EngineError :=
  (engine.store.active? kind).map .alreadyActive

/-- Takes in the server's answer to a start request: the job it names is tracked, unless the
server failed or named none. -/
def startAnswered (engine : Engine) (now : Timestamp) (kind : Kind) (answer : StartAnswer) :
    Step (Except EngineError Record) :=
  match answer with
  | .error source => ⟨engine, [], .error (.start kind source)⟩
  | .ok started =>
    match started.id.filter fun id => !(Text.trim id.text).isEmpty with
    | none => ⟨engine, [], .error (.noJobStarted kind)⟩
    | some id => engine.track now kind id

/-- Stops the active job of a kind. Its record stays until it is reset or replaced. Polling ends
even if there is nothing to stop. -/
def stop (engine : Engine) (now : Timestamp) (kind : Kind) : Step (Except EngineError Record) :=
  let engine := { engine with poller := (engine.poller.detach kind).2 }
  match engine.store.transition now kind .stopped none with
  | .error source => ⟨engine, [], .error (.store source)⟩
  | .ok (record, store) =>
    { engine := { engine with store, results := engine.results.clearLive kind }
      events := [.jobStopped kind record.id]
      reply := .ok record }

def reset (engine : Engine) (kind : Kind) : Step (Option Record) :=
  let (record, store) := engine.store.reset kind
  { engine := { engine with
      store
      results := engine.results.clearLive kind
      poller := (engine.poller.detach kind).2 }
    events := []
    reply := record }

def shutdown (engine : Engine) : Engine :=
  { engine with poller := engine.poller.detachAll }

/-! ## Views -/

def view (engine : Engine) (kind : Kind) : View :=
  let record := engine.record? kind
  let status := engine.status kind
  { kind, status, processing := status.isActive, record
    result := engine.results.shown? kind status }

/-- Whether a view has to ask the server for the last result first, and if so in which
generation: no job is active and the cached result is not fresh. -/
def refreshTicket? (engine : Engine) (settings : EngineSettings) (now : Timestamp) (kind : Kind) :
    Option Nat :=
  if !(engine.status kind).isActive &&
      engine.results.needsRefresh now settings.lastResultTtl kind then
    some (engine.results.generation kind)
  else none

/-- Takes in the last result that was asked for in a generation. -/
def refreshed (engine : Engine) (now : Timestamp) (kind : Kind) (ticket : Nat)
    (answer : LastResult) : Engine :=
  { engine with results := engine.results.applyRefresh now kind ticket answer }

/-! ## Outcomes of polls -/

/-- The sink that passes cache keys on to subscribers. -/
def subscriberSink : Nat := 0

/-- The sink that marks cached results stale. -/
def resultSink : Nat := 1

def sinkCount : Nat := 2

/-- Completes a job: its payload becomes the cached result, subscribers are told, and its record
is consumed. -/
def complete (engine : Engine) (now : Timestamp) (kind : Kind) (id : JobId) (payload : Json) :
    Step Verdict :=
  match engine.store.transitionJob now kind id .completed none with
  | .error _ => ⟨engine, [], .stop⟩
  | .ok (_, store) =>
    let (accepted, deliveries, bus) := engine.bus.complete sinkCount kind id
    let promoted := engine.results.promote now kind payload
    let results := (Delivery.receivedBy resultSink deliveries).foldl
      (fun board key => board.invalidate Invalidation.lastResultKey key) promoted
    let notices := (Delivery.receivedBy subscriberSink deliveries).map Event.cacheInvalidated
    let told := if accepted then [Event.jobCompleted kind id payload] else []
    { engine := { engine with store := (store.resetJob kind id).2, results, bus }
      events := notices ++ told
      reply := .stop }

/-- Fails a job. Its record is kept, or consumed when the job may simply be tried again. -/
def fail (engine : Engine) (now : Timestamp) (kind : Kind) (id : JobId) (failure : Failure)
    (consume : Bool) : Step Verdict :=
  match engine.store.transitionJob now kind id .failed (some failure.message) with
  | .error _ => ⟨engine, [], .stop⟩
  | .ok (_, store) =>
    { engine := { engine with
        store := if consume then (store.resetJob kind id).2 else store
        results := engine.results.clearLive kind }
      events := [.jobFailed kind id failure]
      reply := .stop }

def acceptPayload (engine : Engine) (now : Timestamp) (kind : Kind) (id : JobId)
    (payload : Json) : Step Verdict :=
  match engine.store.recordSuccess now kind id with
  | .error _ => ⟨engine, [], .stop⟩
  | .ok (_, store) =>
    let engine := { engine with store }
    match Completion.detect kind payload with
    | .pending =>
      ⟨{ engine with results := engine.results.setLive now kind payload }, [], .goOn⟩
    | .complete => engine.complete now kind id payload
    | .failed message => engine.fail now kind id ⟨.rejected, message⟩ false

def acceptError (engine : Engine) (policy : RetryPolicy) (now : Timestamp) (kind : Kind)
    (id : JobId) (error : TransportError) : Step Verdict :=
  match engine.store.recordFailure now kind id error.message with
  | .error _ => ⟨engine, [], .stop⟩
  | .ok (attempts, store) =>
    let engine := { engine with store }
    match policy.decide error attempts with
    | .retry _ => ⟨engine, [], .goOn⟩
    | .exhausted attempts =>
      engine.fail now kind id ⟨.budgetExhausted attempts, error.message⟩ true
    | .abort => engine.fail now kind id ⟨.rejected, error.message⟩ false

def accept (engine : Engine) (policy : RetryPolicy) (now : Timestamp) (kind : Kind) (id : JobId)
    (outcome : FetchOutcome) : Step Verdict :=
  match outcome with
  | .ok payload => engine.acceptPayload now kind id payload
  | .error error => engine.acceptError policy now kind id error

/-! ## Steps of poll loops -/

/-- Takes a tick of a session's loop; gives the job whose result is fetched now, if the loop
goes on. -/
def tick (engine : Engine) (settings : EngineSettings) (time : Nat) (session : Nat) :
    Option JobId × Engine :=
  let (job, poller) :=
    engine.poller.tick settings.pollInterval time session engine.store.isCurrent
  (job, { engine with poller })

/-- Takes in the response to a session's fetch. A response that comes too late changes nothing
but that its loop ends. -/
def respond (engine : Engine) (settings : EngineSettings) (now : Timestamp) (session : Nat)
    (outcome : FetchOutcome) : Step Unit :=
  match engine.poller.awaits session engine.store.isCurrent with
  | none => ⟨{ engine with poller := engine.poller.settle session .stop }, [], ()⟩
  | some s =>
    let step := engine.accept (.ofLimit settings.retryLimit) now s.kind s.job outcome
    { engine := { step.engine with poller := step.engine.poller.settle session step.reply }
      events := step.events
      reply := () }

end Engine

end JobWatch

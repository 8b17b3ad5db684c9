import JobWatch.Engine

/-!
# Actions

What a caller can ask of the tracker. An action either gets its reply at once, or it asks the
server a question first and goes on when the answer is there.
-/

set_option autoImplicit false

namespace JobWatch

inductive Action where
  | view (kind : Kind)
  | start (kind : Kind) (request : StartRequest)
  | track (kind : Kind) (job : JobId)
  | stop (kind : Kind)
  | reset (kind : Kind)

inductive Reply where
  | view (view : View)
  | tracked (result : Except EngineError Record)
  | stopped (result : Except EngineError Record)
  | reset (kind : Kind) (previous : Option Record)

/-- What the server is asked on behalf of an action. -/
inductive Question where
  | start (kind : Kind) (request : StartRequest)
  | lastResult (kind : Kind) (ticket : Nat)

inductive Answer where
  | start (kind : Kind) (answer : StartAnswer)
  | lastResult (kind : Kind) (ticket : Nat) (answer : LastResult)

/-- How far an action comes at once. -/
inductive Progress where
  | replied (reply : Reply)
  | asks (question : Question)

def Action.kind : Action → Kind
  | .view kind => kind
  | .start kind _ => kind
  | .track kind _ => kind
  | .stop kind => kind
  | .reset kind => kind

def Answer.kind : Answer → Kind
  | .start kind _ => kind
  | .lastResult kind _ _ => kind

namespace Engine

def Step.map {α β : Type} (f : α → β) (step : Step α) : Step β :=
  ⟨step.engine, step.events, f step.reply⟩

def begin (engine : Engine) (settings : EngineSettings) (now : Timestamp) (action : Action) :
    Step Progress :=
  match action with
  | .view kind =>
    match engine.refreshTicket? settings now kind with
    | none => ⟨engine, [], .replied (.view (engine.view kind))⟩
    | some ticket => ⟨engine, [], .asks (.lastResult kind ticket)⟩
  | .start kind request =>
    match engine.startRefusal? kind with
    | some error => ⟨engine, [], .replied (.tracked (.error error))⟩
    | none => ⟨engine, [], .asks (.start kind request)⟩
  | .track kind job => (engine.track now kind job).map fun result => .replied (.tracked result)
  | .stop kind => (engine.stop now kind).map fun result => .replied (.stopped result)
  | .reset kind => (engine.reset kind).map fun previous => .replied (.reset kind previous)

def resume (engine : Engine) (now : Timestamp) (answer : Answer) : Step Reply :=
  match answer with
  | .start kind answer => (engine.startAnswered now kind answer).map .tracked
  | .lastResult kind ticket answer =>
    let engine := engine.refreshed now kind ticket answer
    ⟨engine, [], .view (engine.view kind)⟩

end Engine

end JobWatch

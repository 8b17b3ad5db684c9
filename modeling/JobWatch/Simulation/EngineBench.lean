import JobWatch.Http.Router
import JobWatch.Simulation.Clock
import JobWatch.Simulation.PollLoop
import JobWatch.Stream.EventStream

/-!
# A bench for the engine

The whole tracker with a scripted server, in virtual time: the engine, the channel that events
are published on, and the calls that come in directly or over HTTP. A call runs to its end at
once, or in the background, where it takes as long as the server does.
-/

set_option autoImplicit false

namespace JobWatch.Simulation

inductive Call where
  | direct (action : Action)
  | http (request : Http.Request)

inductive Caller where
  | direct
  | http (request : Http.Request)

inductive CallResult where
  | reply (reply : Reply)
  | response (response : Http.Response)

inductive Note where
  /-- An event, with the kind whose job brought it about. -/
  | event (owner : Kind) (event : Event)
  | fetch (job : JobId)
  | lastCall (kind : Kind)
  | startCall (kind : Kind) (request : StartRequest)
  | ended (label : String) (result : CallResult)

structure Noted where
  time : Nat
  note : Note

/-- The tracker with its server, and what happened, the latest first. -/
structure EngineBench where
  settings : EngineSettings
  skew : Int
  engine : Engine
  channel : Channel Notice
  server : Server
  notes : List Noted

/-- How far a call comes at once: to its end, or to the answer that the server is going to
give. -/
inductive CallProgress where
  | ended (result : CallResult)
  | awaits (caller : Caller) (scripted : Scripted Answer)

inductive EngineTask where
  | poll (task : PollTask)
  | call (label : String) (call : Call)
  | resume (label : String) (caller : Caller) (answer : Answer)

def Caller.result (caller : Caller) (reply : Reply) : CallResult :=
  match caller with
  | .direct => .reply reply
  | .http request => .response (request.deliver (.ofReply reply))

def Server.answer (server : Server) : Question → Scripted Answer
  | .start kind _ => ⟨.start kind server.starting.answer, server.starting.delay⟩
  | .lastResult kind ticket =>
    let scripted := server.lastResults.get kind
    ⟨.lastResult kind ticket scripted.answer, scripted.delay⟩

def Note.ofQuestion : Question → Note
  | .start kind request => .startCall kind request
  | .lastResult kind _ => .lastCall kind

namespace EngineBench

/-- A bench with settings, whose poll interval is one that timers keep, and a channel of some
capacity. -/
def ofSettings (settings : EngineSettings) (capacity : Nat) : EngineBench :=
  ⟨{ settings with pollInterval := timerPeriod settings.pollInterval }, 0, .initial,
    .ofCapacity capacity, .unscripted, []⟩

def wall (bench : EngineBench) (now : Nat) : Timestamp := Clock.wallAt bench.skew now

def jot (bench : EngineBench) (now : Nat) (note : Note) : EngineBench :=
  { bench with notes := ⟨now, note⟩ :: bench.notes }

/-- Takes over a step of the engine: its events are published, and noted for the kind whose job
brought them about. -/
def take {α : Type} (bench : EngineBench) (now : Nat) (owner : Kind) (step : Engine.Step α) :
    α × EngineBench :=
  let notices := step.events.map (Notice.mk (bench.wall now))
  let changed := { bench with
    engine := step.engine
    channel := bench.channel.publishAll notices }
  (step.reply, step.events.foldl (fun bench event => bench.jot now (.event owner event)) changed)

/-! ## Calls -/

def act (bench : EngineBench) (now : Nat) (caller : Caller) (action : Action) :
    CallProgress × EngineBench :=
  let step := bench.engine.begin bench.settings (bench.wall now) action
  match bench.take now action.kind step with
  | (.replied reply, bench) => (.ended (caller.result reply), bench)
  | (.asks question, bench) =>
    (.awaits caller (bench.server.answer question), bench.jot now (.ofQuestion question))

def begin (bench : EngineBench) (now : Nat) (call : Call) : CallProgress × EngineBench :=
  match call with
  | .direct action => bench.act now .direct action
  | .http request =>
    match request.service with
    | .error response => (.ended (.response (request.deliver response)), bench)
    | .ok .health => (.ended (.response (request.deliver (.health (bench.wall now)))), bench)
    | .ok .events => (.ended (.response (request.deliver .eventStream)), bench)
    | .ok (.perform action) => bench.act now (.http request) action

def resume (bench : EngineBench) (now : Nat) (caller : Caller) (answer : Answer) :
    CallResult × EngineBench :=
  let (reply, bench) :=
    bench.take now answer.kind (bench.engine.resume (bench.wall now) answer)
  (caller.result reply, bench)

/-- Runs a call to its end at once, however long the server takes. -/
def perform (bench : EngineBench) (now : Nat) (call : Call) : CallResult × EngineBench :=
  match bench.begin now call with
  | (.ended result, bench) => (result, bench)
  | (.awaits caller scripted, bench) => bench.resume now caller scripted.answer

/-! ## Tasks -/

def host : PollHost EngineBench where
  poller bench := bench.engine.poller
  tick now session bench :=
    let (job, engine) := bench.engine.tick bench.settings now session
    (job, { bench with engine })
  fetch now job bench :=
    let (scripted, server) := bench.server.takeOutcome job
    (scripted, { bench with server }.jot now (.fetch job))
  respond now session outcome bench :=
    let owner := ((bench.engine.poller.session? session).map Session.kind).getD .findIssues
    (bench.take now owner
      (bench.engine.respond bench.settings (bench.wall now) session outcome)).2

def loopsSince (earlier later : EngineBench) : List EngineTask :=
  (sessionsSince earlier.engine.poller later.engine.poller).map fun session =>
    .poll (.wake session)

/-- Notes the end of a call in the background. The loop of a session it began is spawned. -/
def conclude (earlier : EngineBench) (now : Nat) (label : String) (result : CallResult)
    (bench : EngineBench) : Effect EngineBench EngineTask :=
  ⟨bench.jot now (.ended label result), loopsSince earlier bench, []⟩

def program : Program EngineBench EngineTask := fun now task bench =>
  match task with
  | .poll task =>
    let effect := host.run now task bench
    ⟨effect.state, effect.spawned.map .poll,
      effect.timers.map fun timer => ⟨timer.deadline, .poll timer.task⟩⟩
  | .call label call =>
    match bench.begin now call with
    | (.ended result, after) => bench.conclude now label result after
    | (.awaits caller scripted, asked) =>
      if scripted.delay = 0 then
        let (result, after) := asked.resume now caller scripted.answer
        bench.conclude now label result after
      else ⟨asked, [], [⟨now + scripted.delay, .resume label caller scripted.answer⟩]⟩
  | .resume label caller answer =>
    let (result, after) := bench.resume now caller answer
    bench.conclude now label result after

def history (bench : EngineBench) : List Noted := bench.notes.reverse

def clearNotes (bench : EngineBench) : EngineBench := { bench with notes := [] }

end EngineBench

abbrev EngineWorld := World EngineBench EngineTask

namespace EngineWorld

def advance (world : EngineWorld) (millis : Nat) : EngineWorld :=
  World.advance EngineBench.program millis world

def settle (world : EngineWorld) : EngineWorld := World.settle EngineBench.program world

/-- Takes over another state of the bench; the loops of new sessions become ready. -/
def change (world : EngineWorld) (bench : EngineBench) : EngineWorld :=
  (EngineBench.loopsSince world.state bench).foldl World.spawn { world with state := bench }

def perform (world : EngineWorld) (call : Call) : CallResult × EngineWorld :=
  let (result, bench) := world.state.perform world.now call
  (result, world.change bench)

def spawnCall (world : EngineWorld) (label : String) (call : Call) : EngineWorld :=
  world.spawn (.call label call)

def shutdown (world : EngineWorld) : EngineWorld :=
  { world with state := { world.state with engine := world.state.engine.shutdown } }

def adjustClock (world : EngineWorld) (millis : Int) : EngineWorld :=
  { world with state := { world.state with skew := world.state.skew + millis } }

def changeServer (world : EngineWorld) (f : Server → Server) : EngineWorld :=
  { world with state := { world.state with server := f world.state.server } }

end EngineWorld

end JobWatch.Simulation

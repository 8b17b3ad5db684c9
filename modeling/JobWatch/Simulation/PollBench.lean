import JobWatch.Simulation.Clock
import JobWatch.Simulation.PollLoop

/-!
# A bench for the poller

The poller alone, with a scripted server and a target that is told which jobs are current and
after how many outcomes it stops.
-/

set_option autoImplicit false

namespace JobWatch.Simulation

structure FetchNote where
  time : Nat
  job : JobId

structure AppliedNote where
  time : Nat
  kind : Kind
  job : JobId
  outcome : FetchOutcome
  stopped : Bool

structure TargetRule where
  current : Bool
  stopAfter : Option Nat
  applied : Nat

/-- The poller with its target, and what happened, the latest first. -/
structure PollBench where
  interval : Nat
  poller : Poller
  server : Server
  rules : PerKind TargetRule
  fetches : List FetchNote
  applied : List AppliedNote

namespace PollBench

def ofPeriod (period : Nat) : PollBench :=
  ⟨period, .empty, .unscripted, .both ⟨true, none, 0⟩, [], []⟩

/-- A bench with a poll interval, as far as timers keep it. -/
def ofInterval (interval : Nat) : PollBench := ofPeriod (timerPeriod interval)

def isCurrent (bench : PollBench) (kind : Kind) (_ : JobId) : Bool := (bench.rules.get kind).current

def apply (bench : PollBench) (now : Nat) (s : Session) (outcome : FetchOutcome) :
    Verdict × PollBench :=
  let rule := bench.rules.get s.kind
  let count := rule.applied + 1
  let stopped := rule.stopAfter.any (· ≤ count)
  (if stopped then .stop else .goOn,
    { bench with
      rules := bench.rules.set s.kind { rule with applied := count }
      applied := ⟨now, s.kind, s.job, outcome, stopped⟩ :: bench.applied })

def host : PollHost PollBench where
  poller := poller
  tick now session bench :=
    let (job, poller) := bench.poller.tick bench.interval now session bench.isCurrent
    (job, { bench with poller })
  fetch now job bench :=
    let (scripted, server) := bench.server.takeOutcome job
    (scripted, { bench with server, fetches := ⟨now, job⟩ :: bench.fetches })
  respond now session outcome bench :=
    match bench.poller.awaits session bench.isCurrent with
    | none => { bench with poller := bench.poller.settle session .stop }
    | some s =>
      let (verdict, bench) := bench.apply now s outcome
      { bench with poller := bench.poller.settle session verdict }

end PollBench

abbrev PollWorld := World PollBench PollTask

namespace PollWorld

/-- Changes the poller; the loops of new sessions become ready. -/
def changePoller (world : PollWorld) (poller : Poller) : PollWorld :=
  let begun := sessionsSince world.state.poller poller
  begun.foldl (fun world session => world.spawn (.wake session))
    { world with state := { world.state with poller } }

def advance (world : PollWorld) (millis : Nat) : PollWorld :=
  World.advance PollBench.host.run millis world

def clearNotes (world : PollWorld) : PollWorld :=
  { world with state := { world.state with fetches := [], applied := [] } }

end PollWorld

end JobWatch.Simulation

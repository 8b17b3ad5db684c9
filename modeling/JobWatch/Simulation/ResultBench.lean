import JobWatch.Simulation.Agenda
import JobWatch.Simulation.Clock
import JobWatch.Simulation.Server

/-!
# A bench for the result board

The result board alone, with a scripted server. A refresh asks the server for the last result and
takes its answer in; in the background it takes as long as the server does.
-/

set_option autoImplicit false

namespace JobWatch.Simulation

structure KindNote where
  time : Nat
  kind : Kind

structure ResultBench where
  ttl : Nat
  skew : Int
  board : ResultBoard
  server : Server
  lastCalls : List KindNote
  finished : List String

inductive RefreshTask where
  | ask (label : String) (kind : Kind)
  | answer (label : String) (kind : Kind) (issuedIn : Nat) (answer : LastResult)

namespace ResultBench

def ofTtl (ttl : Nat) : ResultBench := ⟨ttl, 0, .empty, .unscripted, [], []⟩

def wall (bench : ResultBench) (now : Nat) : Timestamp := Clock.wallAt bench.skew now

def needsRefresh (bench : ResultBench) (now : Nat) (kind : Kind) : Bool :=
  bench.board.needsRefresh (bench.wall now) bench.ttl kind

/-- Asks the server: what it is going to answer, and the bench with the request noted. -/
def ask (bench : ResultBench) (now : Nat) (kind : Kind) : Scripted LastResult × ResultBench :=
  (bench.server.lastResults.get kind, { bench with lastCalls := bench.lastCalls ++ [⟨now, kind⟩] })

def receive (bench : ResultBench) (now : Nat) (kind : Kind) (issuedIn : Nat)
    (answer : LastResult) : ResultBench :=
  { bench with board := bench.board.applyRefresh (bench.wall now) kind issuedIn answer }

def finish (bench : ResultBench) (label : String) : ResultBench :=
  { bench with finished := bench.finished ++ [label] }

def refresh (bench : ResultBench) (now : Nat) (kind : Kind) : ResultBench :=
  let (scripted, asked) := bench.ask now kind
  asked.receive now kind (bench.board.generation kind) scripted.answer

def program : Program ResultBench RefreshTask := fun now task bench =>
  match task with
  | .ask label kind =>
    let (scripted, asked) := bench.ask now kind
    let issuedIn := bench.board.generation kind
    if scripted.delay = 0 then
      .quiet ((asked.receive now kind issuedIn scripted.answer).finish label)
    else ⟨asked, [], [⟨now + scripted.delay, .answer label kind issuedIn scripted.answer⟩]⟩
  | .answer label kind issuedIn answer =>
    .quiet ((bench.receive now kind issuedIn answer).finish label)

def clearNotes (bench : ResultBench) : ResultBench := { bench with lastCalls := [], finished := [] }

end ResultBench

end JobWatch.Simulation

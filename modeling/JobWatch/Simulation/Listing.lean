import JobWatch.Simulation.EngineBench
import JobWatch.Simulation.PollBench
import JobWatch.Simulation.ResultBench

/-!
# What happened on a bench

Notes are listed by time. At one time those of the first kind come before those of the second,
and fetches stand in the order of their jobs' identities; otherwise the order in which things
happened is kept.
-/

set_option autoImplicit false

namespace JobWatch.Simulation

def kindRank : Kind → Nat
  | .findIssues => 0
  | .catalogAi => 1

/-- Lists things by time, then by kind. -/
def listByKind {α : Type} (time : α → Nat) (kind : α → Kind) (things : List α) : List α :=
  things.mergeSort fun a b =>
    time a < time b || (time a == time b && kindRank (kind a) ≤ kindRank (kind b))

def listFetches (fetches : List FetchNote) : List FetchNote :=
  fetches.mergeSort fun a b =>
    a.time < b.time || (a.time == b.time && a.job.text ≤ b.job.text)

def PollBench.listApplied (bench : PollBench) : List AppliedNote :=
  listByKind AppliedNote.time AppliedNote.kind bench.applied.reverse

def PollBench.listFetched (bench : PollBench) : List FetchNote := listFetches bench.fetches.reverse

def ResultBench.listLastCalls (bench : ResultBench) : List KindNote :=
  listByKind KindNote.time KindNote.kind bench.lastCalls

namespace EngineBench

def listEvents (bench : EngineBench) : List (Nat × Event) :=
  let events := bench.history.filterMap fun noted =>
    match noted.note with
    | .event owner event => some (noted.time, owner, event)
    | _ => none
  (listByKind (·.1) (·.2.1) events).map fun (time, _, event) => (time, event)

def listFetched (bench : EngineBench) : List FetchNote :=
  listFetches (bench.history.filterMap fun noted =>
    match noted.note with
    | .fetch job => some ⟨noted.time, job⟩
    | _ => none)

def listLastCalls (bench : EngineBench) : List KindNote :=
  listByKind KindNote.time KindNote.kind (bench.history.filterMap fun noted =>
    match noted.note with
    | .lastCall kind => some ⟨noted.time, kind⟩
    | _ => none)

def listStartCalls (bench : EngineBench) : List (Nat × Kind × StartRequest) :=
  listByKind (·.1) (·.2.1) (bench.history.filterMap fun noted =>
    match noted.note with
    | .startCall kind request => some (noted.time, kind, request)
    | _ => none)

def listEnded (bench : EngineBench) : List (String × CallResult) :=
  bench.history.filterMap fun noted =>
    match noted.note with
    | .ended label result => some (label, result)
    | _ => none

end EngineBench

end JobWatch.Simulation

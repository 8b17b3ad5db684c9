import JobWatch.Simulation.Agenda
import JobWatch.Simulation.Server

/-!
# Poll loops in virtual time

The loop of a poll session waits for its tick, fetches, hands the outcome over, and waits again.
A loop that is late takes the ticks it missed at once, as far as the cadence still counts them.

The cadence knows no longest period, but the timers of a simulation do not sleep for longer than
thirty years. So a bench is set up with a period that its timers can keep.
-/

set_option autoImplicit false

namespace JobWatch.Simulation

/-- The longest that a timer sleeps: thirty years of 365 days, in milliseconds. -/
def longestSleep : Nat := 30 * 365 * 86400000

/-- The period that timers keep for a loop. -/
def timerPeriod (period : Nat) : Nat := min period longestSleep

inductive PollTask where
  /-- It looks whether its tick is due. -/
  | wake (session : Nat)
  | answer (session : Nat) (outcome : FetchOutcome)

/-- What a poll loop needs of the state it runs in: the poller, what a tick and an outcome do,
and where fetches go. -/
structure PollHost (σ : Type) where
  poller : σ → Poller
  tick : (now session : Nat) → σ → Option JobId × σ
  fetch : (now : Nat) → JobId → σ → Scripted FetchOutcome × σ
  respond : (now session : Nat) → FetchOutcome → σ → σ

def sessionsSince (earlier later : Poller) : List Nat :=
  (List.range later.sessions.length).drop earlier.sessions.length

namespace PollHost

variable {σ : Type} (host : PollHost σ)

def nextDue? (now session : Nat) (state : σ) : Option Nat :=
  ((host.poller state).session? session).bind fun s => s.due? now

/-- The most ticks that a loop takes at one time: one for each millisecond that still counts as
on time, the one that is due now, and the one after. -/
def mostTicks : Nat := Cadence.tolerance + 2

/-- Goes on with the loop of a session while ticks are due and outcomes come at once. -/
def goOn (now session : Nat) : Nat → σ → Effect σ PollTask
  | 0, state => .quiet state
  | fuel + 1, state =>
    match host.nextDue? now session state with
    | none => .quiet state
    | some due =>
      if now < due then ⟨state, [], [⟨due, .wake session⟩]⟩
      else
        match host.tick now session state with
        | (none, state) => .quiet state
        | (some job, state) =>
          let (scripted, state) := host.fetch now job state
          if scripted.delay = 0 then
            goOn now session fuel (host.respond now session scripted.answer state)
          else ⟨state, [], [⟨now + scripted.delay, .answer session scripted.answer⟩]⟩

def run : Program σ PollTask := fun now task state =>
  match task with
  | .wake session => host.goOn now session mostTicks state
  | .answer session outcome =>
    host.goOn now session mostTicks (host.respond now session outcome state)

end PollHost

end JobWatch.Simulation

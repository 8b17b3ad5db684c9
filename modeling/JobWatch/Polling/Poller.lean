import JobWatch.Job.Record
import JobWatch.Polling.Cadence

/-!
# Poll sessions

Attaching a job to its kind begins a session, whose loop fetches the job's result tick by tick.
A later session of the kind cancels the earlier one; so does detaching. A fetch that is under way
when its session is cancelled runs to its end, and its outcome is dropped.
-/

set_option autoImplicit false

namespace JobWatch

inductive Phase where
  | spawned
  /-- It waits for the tick that is due at this time. -/
  | waiting (due : Nat)
  /-- Its fetch is under way; the next tick is due at this time. -/
  | fetching (due : Nat)
  | finished
  deriving DecidableEq, Repr

structure Session where
  kind : Kind
  job : JobId
  cancelled : Bool
  phase : Phase
  deriving DecidableEq, Repr

inductive Verdict where
  | goOn
  | stop
  deriving DecidableEq, Repr

/-- Every session so far, numbered from zero, and the one attached to each kind. -/
structure Poller where
  sessions : List Session
  attached : PerKind (Option Nat)
  deriving DecidableEq, Repr

namespace Session

def isLive (s : Session) : Bool := !s.cancelled && s.phase ≠ .finished

def due? (s : Session) (now : Nat) : Option Nat :=
  match s.phase with
  | .spawned => some now
  | .waiting due => some due
  | _ => none

end Session

namespace Poller

def empty : Poller := ⟨[], .both none⟩

def session? (poller : Poller) (n : Nat) : Option Session := poller.sessions[n]?

def modifySession (poller : Poller) (n : Nat) (f : Session → Session) : Poller :=
  { poller with sessions := poller.sessions.modify n f }

def setPhase (poller : Poller) (n : Nat) (phase : Phase) : Poller :=
  poller.modifySession n fun s => { s with phase }

def cancelAttached (poller : Poller) (kind : Kind) : Poller :=
  match poller.attached.get kind with
  | none => poller
  | some n => poller.modifySession n fun s => { s with cancelled := true }

/-- Begins a session for a job and cancels the one before it. Its number is the number of
sessions so far. -/
def attach (poller : Poller) (kind : Kind) (job : JobId) : Poller :=
  let cancelled := poller.cancelAttached kind
  { sessions := cancelled.sessions ++ [⟨kind, job, false, .spawned⟩]
    attached := cancelled.attached.set kind (some cancelled.sessions.length) }

def detach (poller : Poller) (kind : Kind) : Option JobId × Poller :=
  let job := ((poller.attached.get kind).bind poller.session?).map Session.job
  let cancelled := poller.cancelAttached kind
  (job, { cancelled with attached := cancelled.attached.set kind none })

def detachAll (poller : Poller) : Poller :=
  Kind.all.foldl (fun poller kind => (poller.detach kind).2) poller

def isPolling (poller : Poller) (kind : Kind) : Bool :=
  ((poller.attached.get kind).bind poller.session?).any Session.isLive

def fetchesUnderWay (poller : Poller) : Nat :=
  poller.sessions.countP fun s => match s.phase with
    | .fetching _ => true
    | _ => false

/-- Takes a tick of a session's loop at a time. The loop ends if the session is cancelled, if
its period is zero, or if its job is no longer current; otherwise a fetch of the job begins. -/
def tick (poller : Poller) (period now n : Nat) (isCurrent : Kind → JobId → Bool) :
    Option JobId × Poller :=
  match poller.session? n with
  | none => (none, poller)
  | some s =>
    match s.due? now with
    | none => (none, poller)
    | some due =>
      if s.cancelled || period = 0 || !isCurrent s.kind s.job then
        (none, poller.setPhase n .finished)
      else (some s.job, poller.setPhase n (.fetching (Cadence.next period due now)))

/-- Whether the outcome of a session's fetch counts: the session is not cancelled and its job
is still current. -/
def awaits (poller : Poller) (n : Nat) (isCurrent : Kind → JobId → Bool) : Option Session :=
  (poller.session? n).filter fun s =>
    !s.cancelled && isCurrent s.kind s.job && match s.phase with
      | .fetching _ => true
      | _ => false

def settle (poller : Poller) (n : Nat) (verdict : Verdict) : Poller :=
  poller.modifySession n fun s =>
    match s.phase, verdict with
    | .fetching due, .goOn => { s with phase := .waiting due }
    | .fetching _, .stop => { s with phase := .finished }
    | _, _ => s

end Poller

end JobWatch

/-!
# Status of a job

A tracked job starts, runs and ends in one of three ways. `pending` is what a kind shows while
nothing is tracked, and no move leads to it.
-/

set_option autoImplicit false

namespace JobWatch

inductive Status where
  | pending
  | starting
  | running
  | completed
  | failed
  | stopped
  deriving DecidableEq, Repr

namespace Status

def all : List Status := [.pending, .starting, .running, .completed, .failed, .stopped]

def name : Status → String
  | .pending => "pending"
  | .starting => "starting"
  | .running => "running"
  | .completed => "completed"
  | .failed => "failed"
  | .stopped => "stopped"

def ofName? (name : String) : Option Status :=
  all.find? fun status => status.name == name

def isActive : Status → Bool
  | .starting | .running => true
  | _ => false

def isTerminal : Status → Bool
  | .completed | .failed | .stopped => true
  | _ => false

/-- The moves of the lifecycle: a starting job may begin to run, and an active job may end. -/
def canBecome : Status → Status → Bool
  | .starting, .running => true
  | .starting, next => next.isTerminal
  | .running, next => next.isTerminal
  | _, _ => false

@[simp] theorem ofName?_name (s : Status) : ofName? s.name = some s := by
  cases s <;> decide

/-- Whatever has ended stays as it is. -/
theorem canBecome_of_isTerminal {s : Status} (ended : s.isTerminal = true) (next : Status) :
    s.canBecome next = false := by
  cases s <;> first | rfl | simp [isTerminal] at ended

theorem not_pending_of_canBecome {s next : Status} (move : s.canBecome next = true) :
    next ≠ .pending := by
  rintro rfl
  cases s <;> simp [canBecome, isTerminal] at move

end Status

end JobWatch

/-!
# Tasks in virtual time

A simulated world consists of a state and an agenda: the tasks that can run at once, in the
order they were spawned, and those that wait for a time. Running a task changes the state and
puts further tasks on the agenda. Time passes from one deadline to the next, and between two
deadlines every task that can run does.
-/

set_option autoImplicit false

namespace JobWatch.Simulation

structure Timer (τ : Type) where
  deadline : Nat
  task : τ

/-- The tasks that can run, and those that wait, each in the order they came. -/
structure Agenda (τ : Type) where
  ready : List τ
  timers : List (Timer τ)

/-- What a task does: the state after it, the tasks it spawns and the timers it sets. -/
structure Effect (σ τ : Type) where
  state : σ
  spawned : List τ
  timers : List (Timer τ)

structure World (σ τ : Type) where
  now : Nat
  state : σ
  agenda : Agenda τ

abbrev Program (σ τ : Type) := (now : Nat) → τ → σ → Effect σ τ

namespace Agenda

variable {τ : Type}

def empty : Agenda τ := ⟨[], []⟩

/-- The earliest deadline after one time and not after another. -/
def next? (agenda : Agenda τ) (now target : Nat) : Option Nat :=
  ((agenda.timers.map Timer.deadline).filter fun deadline =>
    decide (now < deadline) && decide (deadline ≤ target)).min?

def takeDue (agenda : Agenda τ) (deadline : Nat) : List τ × Agenda τ :=
  let (due, later) := agenda.timers.partition fun timer => timer.deadline == deadline
  (due.map Timer.task, { agenda with timers := later })

theorem next?_bounds {agenda : Agenda τ} {now target deadline : Nat}
    (found : agenda.next? now target = some deadline) :
    now < deadline ∧ deadline ≤ target := by
  have member := List.min?_mem found
  simp only [List.mem_filter, Bool.and_eq_true, decide_eq_true_eq] at member
  exact member.2

end Agenda

namespace Effect

variable {σ τ : Type}

def quiet (state : σ) : Effect σ τ := ⟨state, [], []⟩

end Effect

namespace World

variable {σ τ : Type}

def idle (state : σ) : World σ τ := ⟨0, state, .empty⟩

def spawn (world : World σ τ) (task : τ) : World σ τ :=
  { world with agenda := { world.agenda with ready := world.agenda.ready ++ [task] } }

def absorb (world : World σ τ) (effect : Effect σ τ) : World σ τ :=
  { world with
    state := effect.state
    agenda := {
      ready := world.agenda.ready ++ effect.spawned
      timers := world.agenda.timers ++ effect.timers } }

def run (program : Program σ τ) (world : World σ τ) (task : τ) : World σ τ :=
  world.absorb (program world.now task world.state)

def runAll (program : Program σ τ) (world : World σ τ) (tasks : List τ) : World σ τ :=
  tasks.foldl (run program) world

def round (program : Program σ τ) (world : World σ τ) : World σ τ :=
  let waiting := { world with agenda := { world.agenda with ready := [] } }
  waiting.runAll program world.agenda.ready

/-- Runs the ready tasks and those that they spawn. A spawned task spawns none. -/
def settle (program : Program σ τ) (world : World σ τ) : World σ τ :=
  (world.round program).round program

/-- Goes to a deadline, runs what waits for it, and all that it makes ready. -/
def fire (program : Program σ τ) (deadline : Nat) (world : World σ τ) : World σ τ :=
  let (tasks, agenda) := world.agenda.takeDue deadline
  (({ world with now := deadline, agenda }).runAll program tasks).settle program

theorem now_runAll (program : Program σ τ) (world : World σ τ) (tasks : List τ) :
    (world.runAll program tasks).now = world.now := by
  induction tasks generalizing world with
  | nil => rfl
  | cons task tasks ih => exact (ih _).trans rfl

theorem now_settle (program : Program σ τ) (world : World σ τ) :
    (world.settle program).now = world.now :=
  (now_runAll ..).trans (now_runAll ..)

theorem now_fire (program : Program σ τ) (deadline : Nat) (world : World σ τ) :
    (world.fire program deadline).now = deadline :=
  (now_settle ..).trans (now_runAll ..)

def runUntil (program : Program σ τ) (target : Nat) (world : World σ τ) : World σ τ :=
  match _found : world.agenda.next? world.now target with
  | none => { world with now := max world.now target }
  | some deadline => runUntil program target (world.fire program deadline)
termination_by target - world.now
decreasing_by
  have bounds := Agenda.next?_bounds _found
  rw [now_fire]
  omega

def advance (program : Program σ τ) (millis : Nat) (world : World σ τ) : World σ τ :=
  (world.settle program).runUntil program (world.now + millis)

end World

end JobWatch.Simulation

import JobWatch.Engine

/-!
# The scripted server

In a simulation the server that runs the jobs follows a script: what it answers to the fetches of
each job, one after another, what it says of the last result of each kind, and what it says to a
start request. Each answer may take some time.
-/

set_option autoImplicit false

namespace JobWatch.Simulation

/-- An answer and the milliseconds it takes. -/
structure Scripted (α : Type) where
  answer : α
  delay : Nat

structure Server where
  outcomes : List (JobId × Scripted FetchOutcome)
  lastResults : PerKind (Scripted LastResult)
  starting : Scripted StartAnswer

namespace Server

/-- The server without a script: no job ends, there are no last results, and no job starts. -/
def unscripted : Server := ⟨[], .both ⟨.ok none, 0⟩, ⟨.ok ⟨none⟩, 0⟩⟩

/-- What a fetch gives when the script has nothing for the job. -/
def pendingOutcome : Scripted FetchOutcome :=
  ⟨.ok (.obj [("status", .str "pending")]), 0⟩

def script (server : Server) (job : JobId) (outcomes : List (Scripted FetchOutcome)) : Server :=
  { server with outcomes := server.outcomes ++ outcomes.map (job, ·) }

def takeOutcome (server : Server) (job : JobId) : Scripted FetchOutcome × Server :=
  match server.outcomes.find? fun entry => entry.1 = job with
  | none => (pendingOutcome, server)
  | some (_, outcome) =>
    (outcome, { server with outcomes := server.outcomes.eraseP fun entry => entry.1 = job })

def setLastResult (server : Server) (kind : Kind) (answer : Scripted LastResult) : Server :=
  { server with lastResults := server.lastResults.set kind answer }

def setStarting (server : Server) (answer : Scripted StartAnswer) : Server :=
  { server with starting := answer }

end Server

end JobWatch.Simulation

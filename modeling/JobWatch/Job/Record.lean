import JobWatch.Job.Kind
import JobWatch.Job.Status
import JobWatch.Json.Basic
import JobWatch.Time.Timestamp

/-!
# Jobs, results and requests

The data that the tracker holds and shows: the record of the tracked job, the snapshots of its
result, how a job failed, what a caller asks for, and what a consumer is shown.
-/

set_option autoImplicit false

namespace JobWatch

structure JobId where
  text : String
  deriving DecidableEq, Repr

/-- Consecutive transient failures of one tracked job. The count stops at its greatest value. -/
structure RetryBudget where
  consumed : UInt32
  deriving DecidableEq, Repr

namespace RetryBudget

def fresh : RetryBudget := ⟨0⟩

def recordFailure (b : RetryBudget) : RetryBudget :=
  if b.consumed = 0xffffffff then b else ⟨b.consumed + 1⟩

def isExhausted (b : RetryBudget) (limit : UInt32) : Bool := decide (limit ≤ b.consumed)

end RetryBudget

structure Record where
  id : JobId
  kind : Kind
  status : Status
  startedAt : Timestamp
  updatedAt : Timestamp
  lastError : Option String
  retryBudget : RetryBudget
  deriving DecidableEq, Repr

namespace Record

def start (now : Timestamp) (kind : Kind) (id : JobId) : Record :=
  ⟨id, kind, .starting, now, now, none, .fresh⟩

def isActive (r : Record) : Bool := r.status.isActive

end Record

inductive SnapshotSource where
  | live
  | cached
  deriving DecidableEq, Repr

def SnapshotSource.name : SnapshotSource → String
  | .live => "live"
  | .cached => "cached"

structure Snapshot where
  kind : Kind
  payload : Json
  capturedAt : Timestamp
  source : SnapshotSource

inductive FailureReason where
  /-- The server gave a definitive answer. -/
  | rejected
  /-- Polling gave up after this many consecutive transient failures. -/
  | budgetExhausted (attempts : UInt32)
  deriving DecidableEq, Repr

structure Failure where
  reason : FailureReason
  message : String
  deriving DecidableEq, Repr

structure StartRequest where
  path : Option String
  depth : Option UInt32
  logLevel : Option String
  deriving DecidableEq, Repr

def StartRequest.empty : StartRequest := ⟨none, none, none⟩

structure StartedJob where
  id : Option JobId
  deriving DecidableEq, Repr

/-- A request to track a job that was started elsewhere. -/
structure TrackRequest where
  jobId : JobId
  deriving DecidableEq, Repr

structure View where
  kind : Kind
  status : Status
  processing : Bool
  record : Option Record
  result : Option Snapshot

end JobWatch

import JobWatch.Job.Record
import JobWatch.Uuid

/-!
# Events

What subscribers are told: the lifecycle of jobs, and cache keys that have become stale. An
event that is published carries an identifier of its own and the moment of its publication.
-/

set_option autoImplicit false

namespace JobWatch

inductive Event where
  | jobStarted (kind : Kind) (job : JobId)
  | jobCompleted (kind : Kind) (job : JobId) (payload : Json)
  | jobFailed (kind : Kind) (job : JobId) (failure : Failure)
  | jobStopped (kind : Kind) (job : JobId)
  | cacheInvalidated (key : String)

/-- The name of an event on the stream. -/
def Event.name : Event → String
  | .jobStarted .. => "job_started"
  | .jobCompleted .. => "job_completed"
  | .jobFailed .. => "job_failed"
  | .jobStopped .. => "job_stopped"
  | .cacheInvalidated .. => "cache_invalidated"

def Event.kind? : Event → Option Kind
  | .jobStarted kind _ => some kind
  | .jobCompleted kind .. => some kind
  | .jobFailed kind .. => some kind
  | .jobStopped kind _ => some kind
  | .cacheInvalidated _ => none

structure Notice where
  publishedAt : Timestamp
  event : Event

structure Envelope where
  id : Uuid
  notice : Notice

end JobWatch

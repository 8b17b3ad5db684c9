import JobWatch.Transport.Error

/-!
# Retrying failed polls

A definitive failure ends the job at once. Transient failures are retried until as many as the
limit have followed one another; a limit of zero counts as one.
-/

set_option autoImplicit false

namespace JobWatch

inductive RetryDecision where
  /-- Poll again; this many consecutive failures so far. -/
  | retry (attempts : UInt32)
  /-- Give up; this many consecutive failures used up the budget. -/
  | exhausted (attempts : UInt32)
  | abort
  deriving DecidableEq, Repr

structure RetryPolicy where
  limit : UInt32
  deriving DecidableEq, Repr

namespace RetryPolicy

def standard : RetryPolicy := ⟨3⟩

/-- The policy with a limit, at least one. -/
def ofLimit (limit : UInt32) : RetryPolicy := ⟨if limit = 0 then 1 else limit⟩

/-- Decides after the given number of consecutive failures, this one included. -/
def decide (policy : RetryPolicy) (error : TransportError) (attempts : UInt32) :
    RetryDecision :=
  if error.isTransient then
    if policy.limit ≤ attempts then .exhausted attempts else .retry attempts
  else .abort

end RetryPolicy

end JobWatch

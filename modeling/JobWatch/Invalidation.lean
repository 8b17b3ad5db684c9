import JobWatch.Job.Record

/-!
# Cache invalidation

A completed job makes three cache keys stale. The bus tells every sink of them once per job: it
remembers the last job of each kind whose completion it published, until a new session of the
kind begins.
-/

set_option autoImplicit false

namespace JobWatch

namespace Invalidation

def historyKey : String := "history"

def lastResultKey (kind : Kind) : String := "last-result:" ++ kind.name

def historyPartitionKey (kind : Kind) : String := historyKey ++ ":" ++ kind.historyPartition

/-- The keys that a completed job of a kind makes stale, in the order they are published. -/
def keys (kind : Kind) : List String :=
  [lastResultKey kind, historyKey, historyPartitionKey kind]

end Invalidation

/-- The job of each kind whose completion was published last. -/
structure InvalidationBus where
  lastCompleted : PerKind (Option JobId)
  deriving DecidableEq, Repr

/-- A key that reaches a sink, sinks being numbered from zero. -/
structure Delivery where
  sink : Nat
  key : String
  deriving DecidableEq, Repr

namespace InvalidationBus

def empty : InvalidationBus := ⟨.both none⟩

/-- One round of deliveries: each key goes to every sink before the next key goes out. -/
def deliveries (sinks : Nat) (kind : Kind) : List Delivery :=
  (Invalidation.keys kind).flatMap fun key => (List.range sinks).map fun sink => ⟨sink, key⟩

/-- Whether the completion of a job was the last one published for its kind. -/
def hasPublished (bus : InvalidationBus) (kind : Kind) (id : JobId) : Bool :=
  bus.lastCompleted.get kind == some id

/-- Publishes the completion of a job: whether it was accepted, what was delivered, and the bus
afterwards. -/
def complete (bus : InvalidationBus) (sinks : Nat) (kind : Kind) (id : JobId) :
    Bool × List Delivery × InvalidationBus :=
  if bus.hasPublished kind id then (false, [], bus)
  else (true, deliveries sinks kind, ⟨bus.lastCompleted.set kind (some id)⟩)

def forget (bus : InvalidationBus) (kind : Kind) : InvalidationBus :=
  ⟨bus.lastCompleted.set kind none⟩

end InvalidationBus

def Delivery.receivedBy (sink : Nat) (deliveries : List Delivery) : List String :=
  deliveries.filterMap fun delivery => if delivery.sink = sink then some delivery.key else none

end JobWatch

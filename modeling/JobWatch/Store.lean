import JobWatch.Job.Record

/-!
# The store of tracked jobs

The store has one slot for each kind. A slot that holds an active job refuses another one; a job
that has ended is replaced. Every change to a record follows a move of the lifecycle, and a
refused operation leaves the store as it was.
-/

set_option autoImplicit false

namespace JobWatch

inductive StoreError where
  | notTracked (kind : Kind)
  | identityMismatch (kind : Kind) (expected current : JobId)
  | invalidTransition (kind : Kind) (status next : Status)
  deriving DecidableEq, Repr

def StoreError.message : StoreError → String
  | .notTracked kind => "no job is tracked for " ++ kind.name
  | .identityMismatch kind expected current =>
    "tracked " ++ kind.name ++ " job is " ++ current.text ++ ", not " ++ expected.text
  | .invalidTransition kind status next =>
    "cannot move " ++ kind.name ++ " job from " ++ status.name ++ " to " ++ next.name

structure Store where
  slots : PerKind (Option Record)
  deriving DecidableEq, Repr

inductive StartOutcome where
  | started (record : Record)
  | alreadyActive (record : Record)
  deriving DecidableEq, Repr

/-- Moves a record to another status, if the lifecycle allows it. An error text replaces the
last one; without one the last one stays. -/
def Record.moveTo (record : Record) (now : Timestamp) (status : Status)
    (error : Option String) : Except StoreError Record :=
  if record.status.canBecome status then
    .ok { record with status, updatedAt := now, lastError := error.or record.lastError }
  else .error (.invalidTransition record.kind record.status status)

namespace Store

def empty : Store := ⟨.both none⟩

def get? (store : Store) (kind : Kind) : Option Record := store.slots.get kind

def put (store : Store) (kind : Kind) (record : Record) : Store :=
  ⟨store.slots.set kind (some record)⟩

def clear (store : Store) (kind : Kind) : Store := ⟨store.slots.set kind none⟩

/-- The status of a kind: that of its record, `pending` without one. -/
def status (store : Store) (kind : Kind) : Status :=
  ((store.get? kind).map Record.status).getD .pending

def active? (store : Store) (kind : Kind) : Option Record :=
  (store.get? kind).filter Record.isActive

def isCurrent (store : Store) (kind : Kind) (id : JobId) : Bool :=
  (store.get? kind).any fun record => record.id = id && record.isActive

def start (store : Store) (now : Timestamp) (kind : Kind) (id : JobId) : StartOutcome × Store :=
  match store.active? kind with
  | some record => (.alreadyActive record, store)
  | none =>
    let record := Record.start now kind id
    (.started record, store.put kind record)

def tracked (store : Store) (kind : Kind) : Except StoreError Record :=
  match store.get? kind with
  | none => .error (.notTracked kind)
  | some record => .ok record

def trackedJob (store : Store) (kind : Kind) (id : JobId) : Except StoreError Record :=
  match store.get? kind with
  | none => .error (.notTracked kind)
  | some record =>
    if record.id = id then .ok record
    else .error (.identityMismatch kind id record.id)

def transition (store : Store) (now : Timestamp) (kind : Kind) (status : Status)
    (error : Option String) : Except StoreError (Record × Store) := do
  let record ← (← store.tracked kind).moveTo now status error
  return (record, store.put kind record)

def transitionJob (store : Store) (now : Timestamp) (kind : Kind) (id : JobId)
    (status : Status) (error : Option String) : Except StoreError (Record × Store) := do
  let record ← (← store.trackedJob kind id).moveTo now status error
  return (record, store.put kind record)

/-- Notes a successful poll: the retry budget is full again, and a starting job runs. -/
def recordSuccess (store : Store) (now : Timestamp) (kind : Kind) (id : JobId) :
    Except StoreError (Record × Store) := do
  let record ← store.trackedJob kind id
  if !record.isActive then throw (.invalidTransition kind record.status .running)
  let refilled := { record with retryBudget := .fresh }
  let record ←
    if refilled.status = .starting then refilled.moveTo now .running none else pure refilled
  return (record, store.put kind record)

def recordFailure (store : Store) (now : Timestamp) (kind : Kind) (id : JobId)
    (error : String) : Except StoreError (UInt32 × Store) := do
  let record ← store.trackedJob kind id
  if !record.isActive then throw (.invalidTransition kind record.status .failed)
  let budget := record.retryBudget.recordFailure
  let record := { record with lastError := some error, updatedAt := now, retryBudget := budget }
  return (budget.consumed, store.put kind record)

def reset (store : Store) (kind : Kind) : Option Record × Store :=
  (store.get? kind, store.clear kind)

def resetJob (store : Store) (kind : Kind) (id : JobId) : Option Record × Store :=
  match store.get? kind with
  | some record => if record.id = id then (some record, store.clear kind) else (none, store)
  | none => (none, store)

@[simp] theorem get?_put_self (store : Store) (kind : Kind) (record : Record) :
    (store.put kind record).get? kind = some record := PerKind.get_set_self ..

@[simp] theorem get?_clear_self (store : Store) (kind : Kind) :
    (store.clear kind).get? kind = none := PerKind.get_set_self ..

theorem get?_put_of_ne (store : Store) {kind other : Kind} (record : Record)
    (different : other ≠ kind) : (store.put kind record).get? other = store.get? other :=
  PerKind.get_set_of_ne _ _ different

theorem get?_clear_of_ne (store : Store) {kind other : Kind} (different : other ≠ kind) :
    (store.clear kind).get? other = store.get? other :=
  PerKind.get_set_of_ne _ _ different

end Store

end JobWatch

import JobWatch.Engine

/-!
# Outcomes of a current job

A job is current while the slot of its kind holds it and it is active. On a current job no store
operation is refused, so what an outcome does to the engine is settled by the record and the
outcome alone. There is one equation for each way an outcome can turn out.
-/

set_option autoImplicit false

namespace JobWatch

/-! ## Kinds apart -/

namespace PerKind

variable {α : Type}

@[simp] theorem set_set (p : PerKind α) (kind : Kind) (first second : α) :
    (p.set kind first).set kind second = p.set kind second := by
  cases kind <;> rfl

end PerKind

namespace Store

theorem get?_put (store : Store) (kind other : Kind) (record : Record) :
    (store.put kind record).get? other = if other = kind then some record else store.get? other :=
  PerKind.get_set ..

theorem get?_clear (store : Store) (kind other : Kind) :
    (store.clear kind).get? other = if other = kind then none else store.get? other :=
  PerKind.get_set ..

@[simp] theorem put_put (store : Store) (kind : Kind) (first second : Record) :
    (store.put kind first).put kind second = store.put kind second :=
  congrArg Store.mk (PerKind.set_set ..)

@[simp] theorem clear_put (store : Store) (kind : Kind) (record : Record) :
    (store.put kind record).clear kind = store.clear kind :=
  congrArg Store.mk (PerKind.set_set ..)

theorem isCurrent_iff {store : Store} {kind : Kind} {id : JobId} :
    store.isCurrent kind id = true ↔
      ∃ record, store.get? kind = some record ∧ record.id = id ∧ record.isActive = true := by
  simp [isCurrent, Option.any_eq_true]

theorem active?_eq_some_iff {store : Store} {kind : Kind} {record : Record} :
    store.active? kind = some record ↔
      store.get? kind = some record ∧ record.isActive = true := by
  simp [active?, Option.filter_eq_some_iff]

theorem active?_eq_none_iff {store : Store} {kind : Kind} :
    store.active? kind = none ↔
      ∀ record, store.get? kind = some record → record.isActive = false := by
  simp [active?, Option.filter_eq_none_iff]

end Store

namespace Status

theorem canBecome_of_isActive {s next : Status} (active : s.isActive = true)
    (ended : next.isTerminal = true) : s.canBecome next = true := by
  cases s <;> cases next <;> simp_all [isActive, isTerminal, canBecome]

theorem not_canBecome_of_not_isActive {s next : Status} (inactive : s.isActive = false) :
    s.canBecome next = false := by
  cases s <;> first | rfl | cases inactive

end Status

/-! ## Records -/

namespace Record

def succeeded (record : Record) (now : Timestamp) : Record :=
  { record with
    status := .running
    updatedAt := if record.status = .starting then now else record.updatedAt
    retryBudget := .fresh }

def faltered (record : Record) (now : Timestamp) (error : String) : Record :=
  { record with
    updatedAt := now
    lastError := some error
    retryBudget := record.retryBudget.recordFailure }

def ended (record : Record) (now : Timestamp) (status : Status) (error : Option String) :
    Record :=
  { record with status, updatedAt := now, lastError := error.or record.lastError }

@[simp] theorem id_succeeded (record : Record) (now : Timestamp) :
    (record.succeeded now).id = record.id := rfl

@[simp] theorem isActive_succeeded (record : Record) (now : Timestamp) :
    (record.succeeded now).isActive = true := rfl

@[simp] theorem id_faltered (record : Record) (now : Timestamp) (error : String) :
    (record.faltered now error).id = record.id := rfl

@[simp] theorem isActive_faltered (record : Record) (now : Timestamp) (error : String) :
    (record.faltered now error).isActive = record.isActive := rfl

@[simp] theorem id_ended (record : Record) (now : Timestamp) (status : Status)
    (error : Option String) : (record.ended now status error).id = record.id := rfl

@[simp] theorem isActive_ended (record : Record) (now : Timestamp) (status : Status)
    (error : Option String) : (record.ended now status error).isActive = status.isActive := rfl

@[simp] theorem isActive_start (now : Timestamp) (kind : Kind) (id : JobId) :
    (Record.start now kind id).isActive = true := rfl

@[simp] theorem id_start (now : Timestamp) (kind : Kind) (id : JobId) :
    (Record.start now kind id).id = id := rfl

theorem moveTo_of_active {record : Record} (active : record.isActive = true) (now : Timestamp)
    {status : Status} (ending : status.isTerminal = true) (error : Option String) :
    record.moveTo now status error = .ok (record.ended now status error) := by
  rw [moveTo, if_pos (Status.canBecome_of_isActive active ending)]
  rfl

theorem moveTo_of_inactive {record : Record} (inactive : record.isActive = false)
    (now : Timestamp) (status : Status) (error : Option String) :
    record.moveTo now status error =
      .error (.invalidTransition record.kind record.status status) := by
  rw [moveTo, Status.not_canBecome_of_not_isActive inactive]
  rfl

end Record

/-! ## Store operations -/

namespace Store

variable {store : Store} {kind : Kind} {record : Record}

theorem trackedJob_of_held (held : store.get? kind = some record) :
    store.trackedJob kind record.id = .ok record := by
  simp [trackedJob, held]

theorem recordSuccess_of_current (held : store.get? kind = some record)
    (active : record.isActive = true) (now : Timestamp) :
    store.recordSuccess now kind record.id =
      .ok (record.succeeded now, store.put kind (record.succeeded now)) := by
  rw [recordSuccess, trackedJob_of_held held]
  cases status : record.status <;>
    simp_all [Record.isActive, Status.isActive, Record.succeeded, Record.moveTo,
      Status.canBecome, bind, Except.bind, pure, Except.pure]

theorem recordFailure_of_current (held : store.get? kind = some record)
    (active : record.isActive = true) (now : Timestamp) (error : String) :
    store.recordFailure now kind record.id error =
      .ok (record.retryBudget.recordFailure.consumed,
        store.put kind (record.faltered now error)) := by
  rw [recordFailure, trackedJob_of_held held]
  simp [active, Record.faltered, bind, Except.bind, pure, Except.pure]

theorem transitionJob_of_current (held : store.get? kind = some record)
    (active : record.isActive = true) (now : Timestamp) (status : Status)
    (ending : status.isTerminal = true) (error : Option String) :
    store.transitionJob now kind record.id status error =
      .ok (record.ended now status error, store.put kind (record.ended now status error)) := by
  rw [transitionJob, trackedJob_of_held held]
  simp [Record.moveTo_of_active active now ending error, bind, Except.bind, pure, Except.pure]

theorem transition_of_active (held : store.get? kind = some record)
    (active : record.isActive = true) (now : Timestamp) (status : Status)
    (ending : status.isTerminal = true) (error : Option String) :
    store.transition now kind status error =
      .ok (record.ended now status error, store.put kind (record.ended now status error)) := by
  simp [transition, tracked, held, Record.moveTo_of_active active now ending error, bind,
    Except.bind, pure, Except.pure]

theorem transition_of_inactive (inactive : store.active? kind = none) (now : Timestamp)
    (status : Status) (error : Option String) :
    ∃ source, store.transition now kind status error = .error source := by
  cases found : store.get? kind with
  | none => exact ⟨.notTracked kind, by simp [transition, tracked, found, bind, Except.bind]⟩
  | some record =>
      have ended := active?_eq_none_iff.mp inactive record found
      refine ⟨.invalidTransition record.kind record.status status, ?_⟩
      simp [transition, tracked, found, Record.moveTo_of_inactive ended, bind, Except.bind]

theorem resetJob_put (store : Store) (kind : Kind) (record : Record) :
    ((store.put kind record).resetJob kind record.id).2 = store.clear kind := by
  simp [resetJob]

end Store

/-! ## Invalidation -/

/-- Every sink of the bus receives the same keys, each once. -/
theorem Delivery.receivedBy_deliveries {sink sinks : Nat} (present : sink < sinks) (kind : Kind) :
    Delivery.receivedBy sink (InvalidationBus.deliveries sinks kind) = Invalidation.keys kind := by
  have once : ∀ (key : String) (count : Nat), (List.range count).filterMap
      (fun i => if i = sink then some key else none) = if sink < count then [key] else [] := by
    intro key count
    induction count with
    | zero => rfl
    | succ count ih =>
        rw [List.range_succ, List.filterMap_append, ih]
        rcases Nat.lt_trichotomy sink count with below | same | above
        · simp [below, Nat.lt_succ_of_lt below, Nat.ne_of_gt below]
        · simp [same]
        · simp [Nat.not_lt_of_lt above, Nat.not_lt.mpr above, Nat.ne_of_lt above]
  have received : ∀ key, receivedBy sink ((List.range sinks).map fun i => ⟨i, key⟩) = [key] := by
    intro key
    rw [receivedBy, List.filterMap_map]
    exact (once key sinks).trans (if_pos present)
  calc receivedBy sink (InvalidationBus.deliveries sinks kind)
      = (Invalidation.keys kind).flatMap fun key =>
          receivedBy sink ((List.range sinks).map fun i => ⟨i, key⟩) := List.filterMap_flatMap
    _ = (Invalidation.keys kind).flatMap fun key => [key] := by simp only [received]
    _ = Invalidation.keys kind := List.flatMap_singleton' _

theorem Invalidation.lastResultKey_inj {first second : Kind} :
    lastResultKey first = lastResultKey second ↔ first = second := by
  cases first <;> cases second <;> decide

theorem Invalidation.historyKey_ne_lastResultKey (kind : Kind) :
    historyKey ≠ lastResultKey kind := by
  cases kind <;> decide

theorem Invalidation.historyPartitionKey_ne_lastResultKey (kind other : Kind) :
    historyPartitionKey kind ≠ lastResultKey other := by
  cases kind <;> cases other <;> decide

namespace ResultBoard

theorem invalidate_of_foreign (board : ResultBoard) {key : String}
    (foreign : ∀ kind, key ≠ Invalidation.lastResultKey kind) :
    board.invalidate Invalidation.lastResultKey key = board := by
  simp only [invalidate, Kind.all, List.foldl_cons, List.foldl_nil, if_neg (foreign _)]

theorem invalidate_lastResultKey (board : ResultBoard) (kind : Kind) :
    board.invalidate Invalidation.lastResultKey (Invalidation.lastResultKey kind) =
      board.markStale kind := by
  cases kind <;>
    simp [invalidate, Kind.all, Invalidation.lastResultKey_inj]

/-- Of the keys that a completed job makes stale, the board knows one: that of its own kind. -/
theorem foldl_invalidate_keys (board : ResultBoard) (kind : Kind) :
    (Invalidation.keys kind).foldl
      (fun board key => board.invalidate Invalidation.lastResultKey key) board =
      board.markStale kind := by
  simp only [Invalidation.keys, List.foldl_cons, List.foldl_nil]
  rw [invalidate_lastResultKey, invalidate_of_foreign _ Invalidation.historyKey_ne_lastResultKey,
    invalidate_of_foreign _ (Invalidation.historyPartitionKey_ne_lastResultKey kind)]

end ResultBoard

/-! ## Outcomes -/

namespace Engine

variable {engine : Engine} {kind : Kind} {record : Record}

/-- The engine after the completion of a job that the bus has not published yet. -/
def completed (engine : Engine) (now : Timestamp) (kind : Kind) (id : JobId) (payload : Json) :
    Engine :=
  { engine with
    store := engine.store.clear kind
    results := (engine.results.promote now kind payload).markStale kind
    bus := ⟨engine.bus.lastCompleted.set kind (some id)⟩ }

/-- What subscribers are told of a completion: the stale keys, then the completion itself. -/
def completionEvents (kind : Kind) (id : JobId) (payload : Json) : List Event :=
  (Invalidation.keys kind).map .cacheInvalidated ++ [.jobCompleted kind id payload]

theorem complete_of_current (engine : Engine) (held : engine.store.get? kind = some record)
    (active : record.isActive = true)
    (fresh : engine.bus.hasPublished kind record.id = false) (now : Timestamp) (payload : Json) :
    engine.complete now kind record.id payload =
      ⟨engine.completed now kind record.id payload, completionEvents kind record.id payload,
        .stop⟩ := by
  have cleared := Store.resetJob_put engine.store kind (record.ended now .completed none)
  simp only [Record.id_ended] at cleared
  simp [complete, Store.transitionJob_of_current held active now .completed rfl,
    InvalidationBus.complete, fresh, Delivery.receivedBy_deliveries, resultSink, subscriberSink,
    sinkCount, ResultBoard.foldl_invalidate_keys, cleared, completed, completionEvents]

/-- A completion that the bus takes for a duplicate is kept from subscribers. -/
theorem complete_of_published (engine : Engine) (held : engine.store.get? kind = some record)
    (active : record.isActive = true)
    (published : engine.bus.hasPublished kind record.id = true) (now : Timestamp)
    (payload : Json) :
    engine.complete now kind record.id payload =
      ⟨{ engine with
          store := engine.store.clear kind
          results := engine.results.promote now kind payload }, [], .stop⟩ := by
  have cleared := Store.resetJob_put engine.store kind (record.ended now .completed none)
  simp only [Record.id_ended] at cleared
  simp [complete, Store.transitionJob_of_current held active now .completed rfl,
    InvalidationBus.complete, published, Delivery.receivedBy, cleared]

def rejected (engine : Engine) (now : Timestamp) (kind : Kind) (record : Record)
    (message : String) : Engine :=
  { engine with
    store := engine.store.put kind (record.ended now .failed (some message))
    results := engine.results.clearLive kind }

def exhausted (engine : Engine) (kind : Kind) : Engine :=
  { engine with
    store := engine.store.clear kind
    results := engine.results.clearLive kind }

theorem fail_keeping_of_current (engine : Engine) (held : engine.store.get? kind = some record)
    (active : record.isActive = true) (now : Timestamp) (failure : Failure) :
    engine.fail now kind record.id failure false =
      ⟨engine.rejected now kind record failure.message, [.jobFailed kind record.id failure],
        .stop⟩ := by
  simp [fail, Store.transitionJob_of_current held active now .failed rfl, rejected]

theorem fail_consuming_of_current (engine : Engine) (held : engine.store.get? kind = some record)
    (active : record.isActive = true) (now : Timestamp) (failure : Failure) :
    engine.fail now kind record.id failure true =
      ⟨engine.exhausted kind, [.jobFailed kind record.id failure], .stop⟩ := by
  have cleared := Store.resetJob_put engine.store kind
    (record.ended now .failed (some failure.message))
  simp only [Record.id_ended] at cleared
  simp [fail, Store.transitionJob_of_current held active now .failed rfl, exhausted,
    cleared]

section

variable (held : engine.store.get? kind = some record) (active : record.isActive = true)
  (policy : RetryPolicy) (now : Timestamp)

include held active

theorem accept_pending {payload : Json} (pending : Completion.detect kind payload = .pending) :
    engine.accept policy now kind record.id (.ok payload) =
      ⟨{ engine with
          store := engine.store.put kind (record.succeeded now)
          results := engine.results.setLive now kind payload }, [], .goOn⟩ := by
  simp [accept, acceptPayload, Store.recordSuccess_of_current held active, pending]

theorem accept_complete {payload : Json} (complete : Completion.detect kind payload = .complete)
    (fresh : engine.bus.hasPublished kind record.id = false) :
    engine.accept policy now kind record.id (.ok payload) =
      ⟨engine.completed now kind record.id payload, completionEvents kind record.id payload,
        .stop⟩ := by
  have step := complete_of_current
    { engine with store := engine.store.put kind (record.succeeded now) }
    (Store.get?_put_self ..) (Record.isActive_succeeded ..) fresh now payload
  simpa [accept, acceptPayload, Store.recordSuccess_of_current held active, complete, completed]
    using step

theorem accept_duplicate {payload : Json} (complete : Completion.detect kind payload = .complete)
    (published : engine.bus.hasPublished kind record.id = true) :
    engine.accept policy now kind record.id (.ok payload) =
      ⟨{ engine with
          store := engine.store.clear kind
          results := engine.results.promote now kind payload }, [], .stop⟩ := by
  have step := complete_of_published
    { engine with store := engine.store.put kind (record.succeeded now) }
    (Store.get?_put_self ..) (Record.isActive_succeeded ..) published now payload
  simpa [accept, acceptPayload, Store.recordSuccess_of_current held active, complete] using step

theorem accept_failed {payload : Json} {message : String}
    (failed : Completion.detect kind payload = .failed message) :
    engine.accept policy now kind record.id (.ok payload) =
      ⟨engine.rejected now kind (record.succeeded now) message,
        [.jobFailed kind record.id ⟨.rejected, message⟩], .stop⟩ := by
  have step := fail_keeping_of_current
    { engine with store := engine.store.put kind (record.succeeded now) }
    (Store.get?_put_self ..) (Record.isActive_succeeded ..) now ⟨.rejected, message⟩
  simpa [accept, acceptPayload, Store.recordSuccess_of_current held active, failed, rejected]
    using step

theorem accept_retry {error : TransportError} (transient : error.isTransient = true)
    (below : record.retryBudget.recordFailure.consumed < policy.limit) :
    engine.accept policy now kind record.id (.error error) =
      ⟨{ engine with store := engine.store.put kind (record.faltered now error.message) }, [],
        .goOn⟩ := by
  have kept : ¬ policy.limit ≤ record.retryBudget.recordFailure.consumed :=
    UInt32.not_le.mpr below
  simp [accept, acceptError, Store.recordFailure_of_current held active, RetryPolicy.decide,
    transient, kept]

theorem accept_exhausted {error : TransportError} (transient : error.isTransient = true)
    (reached : policy.limit ≤ record.retryBudget.recordFailure.consumed) :
    engine.accept policy now kind record.id (.error error) =
      ⟨engine.exhausted kind, [.jobFailed kind record.id
        ⟨.budgetExhausted record.retryBudget.recordFailure.consumed, error.message⟩], .stop⟩ := by
  have step := fail_consuming_of_current
    { engine with store := engine.store.put kind (record.faltered now error.message) }
    (Store.get?_put_self ..) ((Record.isActive_faltered ..).trans active) now
    ⟨.budgetExhausted record.retryBudget.recordFailure.consumed, error.message⟩
  simpa [accept, acceptError, Store.recordFailure_of_current held active, RetryPolicy.decide,
    transient, reached, exhausted] using step

theorem accept_definitive {error : TransportError} (definitive : error.isTransient = false) :
    engine.accept policy now kind record.id (.error error) =
      ⟨engine.rejected now kind (record.faltered now error.message) error.message,
        [.jobFailed kind record.id ⟨.rejected, error.message⟩], .stop⟩ := by
  have step := fail_keeping_of_current
    { engine with store := engine.store.put kind (record.faltered now error.message) }
    (Store.get?_put_self ..) ((Record.isActive_faltered ..).trans active) now
    ⟨.rejected, error.message⟩
  simpa [accept, acceptError, Store.recordFailure_of_current held active, RetryPolicy.decide,
    definitive, rejected] using step

end

end Engine

end JobWatch

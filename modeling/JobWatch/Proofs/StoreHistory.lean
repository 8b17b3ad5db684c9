import JobWatch.Proofs.Current
import JobWatch.Proofs.Guards

/-!
# Histories of the store

The store by itself, under operations of any callers in any order. A record only moves forward
along the lifecycle until a new job takes its slot or the slot is emptied, and an operation that
is refused leaves no mark.
-/

set_option autoImplicit false

namespace JobWatch

/-- One operation on the store, with what its caller passes. -/
inductive StoreOperation where
  | start (now : Timestamp) (kind : Kind) (id : JobId)
  | transition (now : Timestamp) (kind : Kind) (status : Status) (error : Option String)
  | transitionJob (now : Timestamp) (kind : Kind) (id : JobId) (status : Status)
      (error : Option String)
  | recordSuccess (now : Timestamp) (kind : Kind) (id : JobId)
  | recordFailure (now : Timestamp) (kind : Kind) (id : JobId) (error : String)
  | reset (kind : Kind)
  | resetJob (kind : Kind) (id : JobId)

def StoreOperation.kind : StoreOperation → Kind
  | .start _ kind _ => kind
  | .transition _ kind _ _ => kind
  | .transitionJob _ kind _ _ _ => kind
  | .recordSuccess _ kind _ => kind
  | .recordFailure _ kind _ _ => kind
  | .reset kind => kind
  | .resetJob kind _ => kind

inductive StoreReply where
  | start (outcome : StartOutcome)
  | record (result : Except StoreError Record)
  | count (result : Except StoreError UInt32)
  | removed (record : Option Record)

namespace StoreReply

def isRefusal : StoreReply → Bool
  | .start (.alreadyActive _) => true
  | .record (.error _) => true
  | .count (.error _) => true
  | .removed none => true
  | _ => false

/-- A job has taken the slot, or the slot was emptied. -/
def isTurnover : StoreReply → Bool
  | .start (.started _) => true
  | .removed (some _) => true
  | _ => false

end StoreReply

/-! ## Moving forward -/

theorem Status.canBecome_trans {first middle last : Status}
    (earlier : first.canBecome middle = true) (later : middle.canBecome last = true) :
    first.canBecome last = true := by
  cases first <;> cases middle <;> cases last <;> simp_all [canBecome, isTerminal]

namespace Record

/-- How a record may look later on: it is still that of the same job, its status is the same or
can be reached from what it was, and what has ended is not touched. -/
structure Forward (record later : Record) : Prop where
  id : later.id = record.id
  kind : later.kind = record.kind
  startedAt : later.startedAt = record.startedAt
  status : later.status = record.status ∨ record.status.canBecome later.status = true
  ended : record.status.isTerminal = true → later = record

namespace Forward

theorem refl (record : Record) : record.Forward record :=
  ⟨rfl, rfl, rfl, .inl rfl, fun _ => rfl⟩

theorem trans {first middle last : Record} (earlier : first.Forward middle)
    (later : middle.Forward last) : first.Forward last where
  id := later.id.trans earlier.id
  kind := later.kind.trans earlier.kind
  startedAt := later.startedAt.trans earlier.startedAt
  status := by
    rcases earlier.status with same | move
    · rw [← same]
      exact later.status
    · rcases later.status with same' | move'
      · exact .inr (same' ▸ move)
      · exact .inr (Status.canBecome_trans move move')
  ended terminal := by
    have untouched := earlier.ended terminal
    subst untouched
    exact later.ended terminal

theorem status_ne_pending {record later : Record} (forward : record.Forward later)
    (tracked : record.status ≠ .pending) : later.status ≠ .pending := by
  rcases forward.status with same | move
  · rwa [same]
  · exact Status.not_pending_of_canBecome move

end Forward

theorem forward_ended {record : Record} {status : Status}
    (move : record.status.canBecome status = true) (now : Timestamp) (error : Option String) :
    record.Forward (record.ended now status error) where
  id := rfl
  kind := rfl
  startedAt := rfl
  status := .inr move
  ended terminal := by
    rw [Status.canBecome_of_isTerminal terminal] at move
    cases move

theorem not_isTerminal_of_isActive {record : Record} (active : record.isActive = true) :
    record.status.isTerminal ≠ true := by
  cases status : record.status <;> simp_all [isActive, Status.isActive, Status.isTerminal]

theorem forward_succeeded {record : Record} (active : record.isActive = true)
    (now : Timestamp) : record.Forward (record.succeeded now) where
  id := rfl
  kind := rfl
  startedAt := rfl
  status := by
    cases status : record.status <;>
      simp_all [isActive, Status.isActive, succeeded, Status.canBecome]
  ended terminal := absurd terminal (not_isTerminal_of_isActive active)

theorem forward_faltered {record : Record} (active : record.isActive = true) (now : Timestamp)
    (error : String) : record.Forward (record.faltered now error) where
  id := rfl
  kind := rfl
  startedAt := rfl
  status := .inl rfl
  ended terminal := absurd terminal (not_isTerminal_of_isActive active)

end Record

namespace Store

/-! ## Running operations -/

/-- An answer with the store, which is the old one if the operation was refused. -/
def answered {α : Type} (store : Store) (reply : Except StoreError α → StoreReply) :
    Except StoreError (α × Store) → StoreReply × Store
  | .ok (value, later) => (reply (.ok value), later)
  | .error error => (reply (.error error), store)

def run (store : Store) : StoreOperation → StoreReply × Store
  | .start now kind id =>
    let (outcome, later) := store.start now kind id
    (.start outcome, later)
  | .transition now kind status error =>
    store.answered .record (store.transition now kind status error)
  | .transitionJob now kind id status error =>
    store.answered .record (store.transitionJob now kind id status error)
  | .recordSuccess now kind id => store.answered .record (store.recordSuccess now kind id)
  | .recordFailure now kind id error =>
    store.answered .count (store.recordFailure now kind id error)
  | .reset kind =>
    let (record, later) := store.reset kind
    (.removed record, later)
  | .resetJob kind id =>
    let (record, later) := store.resetJob kind id
    (.removed record, later)

def afterAll (store : Store) : List StoreOperation → Store
  | [] => store
  | operation :: rest => (store.run operation).2.afterAll rest

/-- The store when the first operations of a history have been made. -/
def storeAt (operations : List StoreOperation) (count : Nat) : Store :=
  empty.afterAll (operations.take count)

theorem afterAll_append (store : Store) (earlier later : List StoreOperation) :
    store.afterAll (earlier ++ later) = (store.afterAll earlier).afterAll later := by
  induction earlier generalizing store with
  | nil => rfl
  | cons operation rest ih => exact ih _

theorem storeAt_succ {operations : List StoreOperation} {index : Nat}
    {operation : StoreOperation} (made : operations[index]? = some operation) :
    storeAt operations (index + 1) = ((storeAt operations index).run operation).2 := by
  rw [storeAt, List.take_add_one, made, afterAll_append]
  rfl

/-! ## What an operation does -/

/-- What an operation does to the store and tells its caller. -/
inductive Result (store : Store) (operation : StoreOperation) : StoreReply × Store → Prop where
  | refused {reply} : reply.isRefusal = true → Result store operation (reply, store)
  | begun {now kind id} : operation = .start now kind id → store.active? kind = none →
      Result store operation
        (.start (.started (.start now kind id)), store.put kind (.start now kind id))
  | changed {reply record next} : store.get? operation.kind = some record →
      record.Forward next → reply.isRefusal = false → reply.isTurnover = false →
      Result store operation (reply, store.put operation.kind next)
  | removed {record} : store.get? operation.kind = some record →
      Result store operation (.removed (some record), store.clear operation.kind)

variable {store : Store} {operation : StoreOperation}

theorem tracked_eq_ok {kind : Kind} {record : Record} (found : store.tracked kind = .ok record) :
    store.get? kind = some record := by
  unfold tracked at found
  split at found
  · cases found
  · next held =>
      cases found
      exact held

theorem trackedJob_eq_ok {kind : Kind} {id : JobId} {record : Record}
    (found : store.trackedJob kind id = .ok record) :
    store.get? kind = some record ∧ record.id = id := by
  unfold trackedJob at found
  split at found
  · cases found
  · next held =>
      split at found
      · next same =>
          cases found
          exact ⟨held, same⟩
      · cases found

theorem moveTo_eq_ok {record next : Record} {now : Timestamp} {status : Status}
    {error : Option String} (moved : record.moveTo now status error = .ok next) :
    record.status.canBecome status = true ∧ next = record.ended now status error := by
  unfold Record.moveTo at moved
  split at moved
  · next move =>
      cases moved
      exact ⟨move, rfl⟩
  · cases moved

/-- A refusal is passed on, and a change is one that the record of the kind allows. -/
private theorem result_answered {α : Type} {reply : Except StoreError α → StoreReply}
    {outcome : Except StoreError (α × Store)}
    (refuses : ∀ error, (reply (.error error)).isRefusal = true)
    (accepts : ∀ value, (reply (.ok value)).isRefusal = false)
    (stays : ∀ value, (reply (.ok value)).isTurnover = false)
    (changes : ∀ value later, outcome = .ok (value, later) → ∃ record next,
      store.get? operation.kind = some record ∧ record.Forward next ∧
        later = store.put operation.kind next) :
    Result store operation (store.answered reply outcome) := by
  cases outcome with
  | error error => exact .refused (refuses error)
  | ok answer =>
      obtain ⟨value, later⟩ := answer
      obtain ⟨record, next, held, forward, rfl⟩ := changes value later rfl
      exact .changed held forward (accepts value) (stays value)

private theorem transition_changes {now : Timestamp} {kind : Kind} {status : Status}
    {error : Option String} {value : Record} {later : Store}
    (done : store.transition now kind status error = .ok (value, later)) :
    ∃ record next, store.get? kind = some record ∧ record.Forward next ∧
      later = store.put kind next := by
  obtain ⟨record, found, done⟩ := Guards.bind_eq_ok.mp done
  obtain ⟨next, moved, done⟩ := Guards.bind_eq_ok.mp done
  obtain ⟨move, rfl⟩ := moveTo_eq_ok moved
  cases done
  exact ⟨record, _, tracked_eq_ok found, Record.forward_ended move now error, rfl⟩

private theorem transitionJob_changes {now : Timestamp} {kind : Kind} {id : JobId}
    {status : Status} {error : Option String} {value : Record} {later : Store}
    (done : store.transitionJob now kind id status error = .ok (value, later)) :
    ∃ record next, store.get? kind = some record ∧ record.Forward next ∧
      later = store.put kind next := by
  obtain ⟨record, found, done⟩ := Guards.bind_eq_ok.mp done
  obtain ⟨next, moved, done⟩ := Guards.bind_eq_ok.mp done
  obtain ⟨move, rfl⟩ := moveTo_eq_ok moved
  cases done
  exact ⟨record, _, (trackedJob_eq_ok found).1, Record.forward_ended move now error, rfl⟩

/-- A note on a poll is taken for an active job only. -/
theorem trackedJob_cases (store : Store) (kind : Kind) (id : JobId) :
    (∃ error, store.trackedJob kind id = .error error) ∨
    (∃ record, store.trackedJob kind id = .ok record ∧ record.isActive = false) ∨
    ∃ record, store.get? kind = some record ∧ record.id = id ∧ record.isActive = true := by
  cases found : store.trackedJob kind id with
  | error error => exact .inl ⟨error, rfl⟩
  | ok record =>
      obtain ⟨held, same⟩ := trackedJob_eq_ok found
      cases active : record.isActive with
      | false => exact .inr (.inl ⟨record, rfl, active⟩)
      | true => exact .inr (.inr ⟨record, held, same, active⟩)

private theorem recordSuccess_changes {now : Timestamp} {kind : Kind} {id : JobId}
    {value : Record} {later : Store}
    (done : store.recordSuccess now kind id = .ok (value, later)) :
    ∃ record next, store.get? kind = some record ∧ record.Forward next ∧
      later = store.put kind next := by
  obtain ⟨error, failed⟩ | ⟨record, found, inactive⟩ | ⟨record, held, rfl, active⟩ :=
    store.trackedJob_cases kind id
  · rw [recordSuccess, failed] at done
    cases done
  · rw [recordSuccess, found] at done
    simp [inactive, bind, Except.bind, throw, throwThe, MonadExceptOf.throw] at done
  · rw [recordSuccess_of_current held active] at done
    cases done
    exact ⟨record, _, held, Record.forward_succeeded active now, rfl⟩

private theorem recordFailure_changes {now : Timestamp} {kind : Kind} {id : JobId}
    {error : String} {value : UInt32} {later : Store}
    (done : store.recordFailure now kind id error = .ok (value, later)) :
    ∃ record next, store.get? kind = some record ∧ record.Forward next ∧
      later = store.put kind next := by
  obtain ⟨error', failed⟩ | ⟨record, found, inactive⟩ | ⟨record, held, rfl, active⟩ :=
    store.trackedJob_cases kind id
  · rw [recordFailure, failed] at done
    cases done
  · rw [recordFailure, found] at done
    simp [inactive, bind, Except.bind, throw, throwThe, MonadExceptOf.throw] at done
  · rw [recordFailure_of_current held active] at done
    cases done
    exact ⟨record, _, held, Record.forward_faltered active now error, rfl⟩

theorem clear_of_vacant {kind : Kind} (vacant : store.get? kind = none) :
    store.clear kind = store := by
  have same : store.slots.set kind none = store.slots := by
    rw [← vacant]
    exact PerKind.set_get ..
  exact congrArg Store.mk same

theorem run_result (store : Store) (operation : StoreOperation) :
    Result store operation (store.run operation) := by
  cases operation with
  | start now kind id =>
      simp only [run, start]
      cases found : store.active? kind with
      | none => exact .begun rfl found
      | some record => exact .refused rfl
  | transition now kind status error =>
      exact result_answered (fun _ => rfl) (fun _ => rfl) (fun _ => rfl)
        fun _ _ => transition_changes
  | transitionJob now kind id status error =>
      exact result_answered (fun _ => rfl) (fun _ => rfl) (fun _ => rfl)
        fun _ _ => transitionJob_changes
  | recordSuccess now kind id =>
      exact result_answered (fun _ => rfl) (fun _ => rfl) (fun _ => rfl)
        fun _ _ => recordSuccess_changes
  | recordFailure now kind id error =>
      exact result_answered (fun _ => rfl) (fun _ => rfl) (fun _ => rfl)
        fun _ _ => recordFailure_changes
  | reset kind =>
      simp only [run, reset]
      cases found : store.get? kind with
      | none =>
          rw [clear_of_vacant found]
          exact .refused rfl
      | some record => exact .removed found
  | resetJob kind id =>
      simp only [run, resetJob]
      cases found : store.get? kind with
      | none => exact .refused rfl
      | some record =>
          by_cases same : record.id = id
          · simp only [same, if_true]
            exact .removed found
          · simp only [same, if_false]
            exact .refused rfl

/-! ## Whole histories -/

/-- Every slot holds a record of its own kind, and of a job that is tracked. -/
def Tidy (store : Store) : Prop :=
  ∀ kind record, store.get? kind = some record → record.kind = kind ∧ record.status ≠ .pending

theorem tidy_empty : empty.Tidy := by
  intro kind record held
  simp [empty, get?] at held

theorem Tidy.put {kind : Kind} {record : Record} (tidy : store.Tidy) (own : record.kind = kind)
    (tracked : record.status ≠ .pending) : (store.put kind record).Tidy := by
  intro other later held
  rw [get?_put] at held
  split at held
  · next same =>
      cases held
      exact ⟨same ▸ own, tracked⟩
  · exact tidy other later held

theorem Tidy.clear (tidy : store.Tidy) (kind : Kind) : (store.clear kind).Tidy := by
  intro other later held
  rw [get?_clear] at held
  split at held
  · cases held
  · exact tidy other later held

theorem Result.tidy {outcome : StoreReply × Store} (result : Result store operation outcome)
    (tidy : store.Tidy) : outcome.2.Tidy := by
  cases result with
  | refused => exact tidy
  | begun => exact tidy.put rfl (by simp [Record.start])
  | changed held forward =>
      obtain ⟨own, tracked⟩ := tidy _ _ held
      exact tidy.put (forward.kind.trans own) (forward.status_ne_pending tracked)
  | removed => exact tidy.clear _

theorem tidy_afterAll (operations : List StoreOperation) (tidy : store.Tidy) :
    (store.afterAll operations).Tidy := by
  induction operations generalizing store with
  | nil => exact tidy
  | cons operation rest ih => exact ih ((store.run_result operation).tidy tidy)

/-- An operation after which the slot of a kind holds another record, or none. -/
def Turnover (store : Store) (operation : StoreOperation) (kind : Kind) : Prop :=
  operation.kind = kind ∧ (store.run operation).1.isTurnover = true

theorem Result.forward {outcome : StoreReply × Store} (result : Result store operation outcome)
    {kind : Kind} (stays : ¬ (operation.kind = kind ∧ outcome.1.isTurnover = true))
    {record : Record} (held : store.get? kind = some record) :
    ∃ later, outcome.2.get? kind = some later ∧ record.Forward later := by
  have elsewhere : outcome.1.isTurnover = true → kind ≠ operation.kind := by
    rintro turnover rfl
    exact stays ⟨rfl, turnover⟩
  cases result with
  | refused => exact ⟨record, held, .refl record⟩
  | begun same _ =>
      subst same
      exact ⟨record, (get?_put_of_ne _ _ (elsewhere rfl)).trans held, .refl record⟩
  | @changed _ before next found forward =>
      by_cases same : kind = operation.kind
      · subst same
        rw [found] at held
        cases held
        exact ⟨next, get?_put_self .., forward⟩
      · exact ⟨record, (get?_put_of_ne _ _ same).trans held, .refl record⟩
  | removed _ =>
      exact ⟨record, (get?_clear_of_ne _ (elsewhere rfl)).trans held, .refl record⟩

theorem Result.eq_of_isRefusal {outcome : StoreReply × Store}
    (result : Result store operation outcome) (refused : outcome.1.isRefusal = true) :
    outcome.2 = store := by
  cases result with
  | refused => rfl
  | begun => cases refused
  | changed _ _ accepted _ =>
      rw [accepted] at refused
      cases refused
  | removed => cases refused

/-- From one point of a history to another with no turnover of a kind in between, its record
moves forward. -/
theorem forward_between {operations : List StoreOperation} {kind : Kind} {first last : Nat}
    (order : first ≤ last)
    (stays : ∀ index operation, first ≤ index → index < last →
      operations[index]? = some operation → ¬ Turnover (storeAt operations index) operation kind)
    {record : Record} (held : (storeAt operations first).get? kind = some record) :
    ∃ later, (storeAt operations last).get? kind = some later ∧ record.Forward later := by
  induction order with
  | refl => exact ⟨record, held, .refl record⟩
  | @step last since ih =>
      obtain ⟨middle, found, earlier⟩ := ih fun index operation above below =>
        stays index operation above (Nat.lt_succ_of_lt below)
      cases made : operations[last]? with
      | none =>
          refine ⟨middle, ?_, earlier⟩
          rwa [storeAt, List.take_add_one, made, Option.toList_none, List.append_nil]
      | some operation =>
          obtain ⟨later, still, forward⟩ := (run_result _ operation).forward
            (stays last operation since (Nat.lt_succ_self last) made) found
          exact ⟨later, storeAt_succ made ▸ still, earlier.trans forward⟩

/-- A successful poll noted in two writes: the full budget first and then the status, so that a
refusal of the second would leave the first behind. -/
def recordSuccessInPlace (store : Store) (now : Timestamp) (kind : Kind) (id : JobId) :
    StoreReply × Store :=
  match store.trackedJob kind id with
  | .error error => (.record (.error error), store)
  | .ok record =>
    if record.isActive then
      let refilled := { record with retryBudget := .fresh }
      let written := store.put kind refilled
      if refilled.status = .starting then
        match refilled.moveTo now .running none with
        | .error error => (.record (.error error), written)
        | .ok running => (.record (.ok running), written.put kind running)
      else (.record (.ok refilled), written)
    else (.record (.error (.invalidTransition kind record.status .running)), store)

/-- The second write is never refused. -/
theorem recordSuccessInPlace_eq (store : Store) (now : Timestamp) (kind : Kind) (id : JobId) :
    store.recordSuccessInPlace now kind id = store.run (.recordSuccess now kind id) := by
  obtain ⟨error, failed⟩ | ⟨record, found, inactive⟩ | ⟨record, held, rfl, active⟩ :=
    store.trackedJob_cases kind id
  · simp [recordSuccessInPlace, run, recordSuccess, failed, answered, bind, Except.bind]
  · simp [recordSuccessInPlace, run, recordSuccess, found, inactive, answered, bind, Except.bind,
      throw, throwThe, MonadExceptOf.throw]
  · simp only [run, recordSuccess_of_current held active, answered]
    rw [recordSuccessInPlace, trackedJob_of_held held]
    cases status : record.status <;>
      simp_all [Record.isActive, Status.isActive, Record.succeeded, Record.moveTo,
        Status.canBecome]

/-- In every history a slot holds a tracked job of its own kind; from the start of a job to the
next turnover of its slot the record moves forward only, and what has ended stays as it is; and
whatever is refused leaves both slots as they were, however many writes it takes. -/
theorem records_move_forward_only (operations : List StoreOperation) (kind : Kind) :
    (∀ count record, (storeAt operations count).get? kind = some record →
      record.kind = kind ∧ record.status ≠ .pending) ∧
    (∀ began now id record, operations[began]? = some (.start now kind id) →
      ((storeAt operations began).run (.start now kind id)).1 = .start (.started record) →
      ∀ first last, began < first → first ≤ last →
        (∀ index operation, began < index → index < last →
          operations[index]? = some operation →
          ¬ Turnover (storeAt operations index) operation kind) →
        ∃ earlier later, (storeAt operations first).get? kind = some earlier ∧
          (storeAt operations last).get? kind = some later ∧
          record.Forward earlier ∧ earlier.Forward later) ∧
    (∀ index operation, operations[index]? = some operation →
      ((storeAt operations index).run operation).1.isRefusal = true →
      storeAt operations (index + 1) = storeAt operations index) ∧
    ∀ count now id, (storeAt operations count).recordSuccessInPlace now kind id =
      (storeAt operations count).run (.recordSuccess now kind id) := by
  refine ⟨fun count => tidy_afterAll _ tidy_empty kind, ?_, ?_, fun _ _ _ =>
    recordSuccessInPlace_eq ..⟩
  · intro began now id record made started first last after order stays
    have held : (storeAt operations (began + 1)).get? kind = some record := by
      rw [storeAt_succ made]
      simp only [run, start] at started ⊢
      split at started
      · cases started
      · next free =>
          cases started
          exact get?_put_self ..
    obtain ⟨earlier, found, forward⟩ := forward_between after
      (fun index operation since below => stays index operation since (by omega)) held
    obtain ⟨later, still, further⟩ := forward_between order
      (fun index operation since below => stays index operation (by omega) below) found
    exact ⟨earlier, later, found, still, forward, further⟩
  · intro index operation made refused
    rw [storeAt_succ made]
    exact (run_result _ operation).eq_of_isRefusal refused

/-- A job that falters, runs and is stopped, with late notes and a second start refused. -/
def stoppedJob : List StoreOperation := [
  .start (.ofMillis 0) .findIssues ⟨"J1"⟩,
  .recordFailure (.ofMillis 1) .findIssues ⟨"J1"⟩ "timeout",
  .recordSuccess (.ofMillis 2) .findIssues ⟨"J1"⟩,
  .start (.ofMillis 3) .findIssues ⟨"J2"⟩,
  .transition (.ofMillis 4) .findIssues .stopped none,
  .recordFailure (.ofMillis 5) .findIssues ⟨"J1"⟩ "late",
  .transitionJob (.ofMillis 6) .findIssues ⟨"J1"⟩ .completed none]

theorem stoppedJob_stays_stopped :
    storeAt stoppedJob 4 = storeAt stoppedJob 3 ∧
    ∃ running stopped, (storeAt stoppedJob 3).get? .findIssues = some running ∧
      (storeAt stoppedJob 7).get? .findIssues = some stopped ∧
      running.Forward stopped ∧ running.status.canBecome .stopped = true ∧
      stopped.lastError = some "timeout" := by
  obtain ⟨_, forward, refused, _⟩ := records_move_forward_only stoppedJob .findIssues
  obtain ⟨running, stopped, found, held, _, further⟩ :=
    forward 0 (.ofMillis 0) ⟨"J1"⟩ (.start (.ofMillis 0) .findIssues ⟨"J1"⟩) rfl rfl 3 7
      (by decide) (by decide) (by
        intro index operation since below made
        rcases index with _ | _ | _ | _ | _ | _ | _ | index
        · cases since
        all_goals cases made <;> rintro ⟨_, turnover⟩ <;> cases turnover)
  refine ⟨refused 3 _ rfl rfl, running, stopped, found, held, further, ?_, ?_⟩
  · cases found
    rfl
  · cases held
    rfl

end Store

end JobWatch

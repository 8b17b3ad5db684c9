import JobWatch.Proofs.Coherence
import Mathlib.Data.List.Induction

/-!
# The lifecycle in the events of a run

The events of a kind follow a grammar: a session opens with `jobStarted`, and it closes with one
terminal event of its job, or with none when the slot is emptied on demand. A completion stands
right behind the three invalidations of its kind, and invalidations stand nowhere else. What ties
the events to the engine is that a session is open in the history exactly while its job is active.
-/

set_option autoImplicit false

namespace JobWatch

/-- What the history of a run shows: an event, or that the slot of a kind was emptied on demand,
of which subscribers are not told. -/
inductive Occurrence where
  | event (event : Event)
  | reset (kind : Kind)

namespace Occurrence

def event? : Occurrence → Option Event
  | .event told => some told
  | .reset _ => none

/-- The job whose session of a kind an occurrence opens. -/
def opening? (kind : Kind) : Occurrence → Option JobId
  | .event (.jobStarted other job) => if other = kind then some job else none
  | _ => none

/-- The job whose end a terminal event of a kind tells. -/
def ending? (kind : Kind) : Occurrence → Option JobId
  | .event (.jobCompleted other job _) => if other = kind then some job else none
  | .event (.jobFailed other job _) => if other = kind then some job else none
  | .event (.jobStopped other job) => if other = kind then some job else none
  | _ => none

def isReset (kind : Kind) : Occurrence → Bool
  | .reset other => other = kind
  | _ => false

/-- The job of the open session of a kind after an occurrence. -/
def session? (kind : Kind) (current : Option JobId) (occurrence : Occurrence) : Option JobId :=
  if (occurrence.ending? kind).isSome || occurrence.isReset kind then none
  else (occurrence.opening? kind).or current

/-- An occurrence has nothing to do with the sessions of a kind. -/
structure Foreign (kind : Kind) (occurrence : Occurrence) : Prop where
  opening : occurrence.opening? kind = none
  ending : occurrence.ending? kind = none
  reset : occurrence.isReset kind = false

theorem Foreign.session? {kind : Kind} {occurrence : Occurrence}
    (foreign : occurrence.Foreign kind) (current : Option JobId) :
    occurrence.session? kind current = current := by
  simp [Occurrence.session?, foreign.ending, foreign.reset, foreign.opening]

end Occurrence

/-! ## The grammar -/

/-- The grammar of a history: a session opens only when none is open, and a terminal event tells
the end of the open session's job. -/
def Lawful (kind : Kind) : Option JobId → List Occurrence → Prop
  | _, [] => True
  | current, occurrence :: rest =>
    (∀ job, occurrence.opening? kind = some job → current = none) ∧
    (∀ job, occurrence.ending? kind = some job → current = some job) ∧
    Lawful kind (occurrence.session? kind current) rest

theorem lawful_append {kind : Kind} {current : Option JobId} {earlier later : List Occurrence} :
    Lawful kind current (earlier ++ later) ↔ Lawful kind current earlier ∧
      Lawful kind (earlier.foldl (Occurrence.session? kind) current) later := by
  induction earlier generalizing current with
  | nil => simp [Lawful]
  | cons occurrence rest ih =>
      rw [List.cons_append, Lawful, Lawful, ih, List.foldl_cons]
      constructor
      · rintro ⟨opens, ends, front, back⟩
        exact ⟨⟨opens, ends, front⟩, back⟩
      · rintro ⟨⟨opens, ends, front⟩, back⟩
        exact ⟨opens, ends, front, back⟩

/-- Until the next session opens there is at most one terminal event, that of the open one. -/
theorem Lawful.endings {kind : Kind} {current : Option JobId} {history : List Occurrence}
    (lawful : Lawful kind current history)
    (unopened : ∀ occurrence ∈ history, occurrence.opening? kind = none) :
    history.filterMap (Occurrence.ending? kind) = [] ∨
      ∃ job, current = some job ∧ history.filterMap (Occurrence.ending? kind) = [job] := by
  induction history generalizing current with
  | nil => exact .inl rfl
  | cons occurrence rest ih =>
      obtain ⟨_, ends, lawful⟩ := lawful
      have later := ih lawful fun next member => unopened next (List.mem_cons_of_mem _ member)
      have here := unopened occurrence List.mem_cons_self
      cases ending : occurrence.ending? kind with
      | some job =>
          have closed : occurrence.session? kind current = none := by
            simp [Occurrence.session?, ending]
          rcases later with none | ⟨other, opened, _⟩
          · exact .inr ⟨job, ends job ending, by simp [ending, none]⟩
          · rw [closed] at opened
            cases opened
      | none =>
          rcases later with none | ⟨other, opened, one⟩
          · exact .inl (by simp [ending, none])
          · refine .inr ⟨other, ?_, by simp [ending, one]⟩
            simp only [Occurrence.session?, ending, here] at opened
            split at opened
            · cases opened
            · exact opened

/-- An open session was opened by a `jobStarted` of its job, and nothing has happened to the kind
since. -/
theorem opened_of_session {kind : Kind} {job : JobId} {history : List Occurrence}
    (opened : history.foldl (Occurrence.session? kind) none = some job) :
    ∃ earlier middle, history = earlier ++ .event (.jobStarted kind job) :: middle ∧
      ∀ occurrence ∈ middle, occurrence.Foreign kind := by
  induction history using List.reverseRecOn with
  | nil => cases opened
  | append_singleton rest last ih =>
      rw [List.foldl_append, List.foldl_cons, List.foldl_nil, Occurrence.session?] at opened
      split at opened
      · cases opened
      · next open? =>
          rw [Bool.or_eq_true, not_or] at open?
          obtain ⟨unended, unreset⟩ := open?
          cases opening : last.opening? kind with
          | some other =>
              refine ⟨rest, [], ?_, by simp⟩
              rw [opening, Option.some_or] at opened
              cases opened
              unfold Occurrence.opening? at opening
              split at opening
              · split at opening
                · next same => simp_all
                · cases opening
              · cases opening
          | none =>
              rw [opening, Option.none_or] at opened
              obtain ⟨earlier, middle, rfl, foreign⟩ := ih opened
              refine ⟨earlier, middle ++ [last], by simp, ?_⟩
              intro occurrence member
              rcases List.mem_append.mp member with old | new
              · exact foreign occurrence old
              · rw [List.mem_singleton.mp new]
                exact ⟨opening, by simpa using unended, by simpa using unreset⟩

/-! ## Histories -/

def Move.occurrences : Move → List Event → List Occurrence
  | .begin _ (.reset kind), events => .reset kind :: events.map .event
  | _, events => events.map .event

theorem Move.occurrences_of_isRequest {move : Move} (request : move.isRequest = true)
    (events : List Event) : move.occurrences events = events.map .event := by
  unfold occurrences
  split
  · cases request
  · rfl

theorem Move.events_occurrences (move : Move) (events : List Event) :
    (move.occurrences events).filterMap Occurrence.event? = events := by
  have told : (events.map Occurrence.event).filterMap Occurrence.event? = events := by
    simp [List.filterMap_map, Function.comp_def, Occurrence.event?]
  unfold occurrences
  split
  · exact told
  · exact told

namespace Store

theorem active?_put (store : Store) (kind other : Kind) (record : Record) :
    (store.put kind record).active? other =
      if other = kind then (some record).filter Record.isActive else store.active? other := by
  rw [active?, get?_put]
  split <;> rfl

theorem active?_clear (store : Store) (kind other : Kind) :
    (store.clear kind).active? other = if other = kind then none else store.active? other := by
  rw [active?, get?_clear]
  split <;> rfl

end Store

namespace Engine

def history (engine : Engine) (settings : EngineSettings) : List Move → List Occurrence
  | [] => []
  | move :: rest =>
    let step := engine.perform settings move
    move.occurrences step.events ++ step.engine.history settings rest

def activeJob? (engine : Engine) (kind : Kind) : Option JobId :=
  (engine.store.active? kind).map Record.id

theorem activeJob?_of_held {engine : Engine} {kind : Kind} {record : Record}
    (held : engine.store.get? kind = some record) (active : record.isActive = true) :
    engine.activeJob? kind = some record.id := by
  rw [activeJob?, Store.active?_eq_some_iff.mpr ⟨held, active⟩, Option.map_some]

/-- Occurrences that obey the grammar and lead from the active job of a kind to the active job
after a move. -/
def Follows (engine later : Engine) (kind : Kind) (occurrences : List Occurrence) : Prop :=
  Lawful kind (engine.activeJob? kind) occurrences ∧
    occurrences.foldl (Occurrence.session? kind) (engine.activeJob? kind) = later.activeJob? kind

private theorem follows_of_silence {engine later : Engine} {kind : Kind}
    (same : later.activeJob? kind = engine.activeJob? kind) : Follows engine later kind [] :=
  ⟨trivial, same.symm⟩

private theorem follows_of_start {engine later : Engine} {kind other : Kind} {id : JobId}
    (free : engine.activeJob? other = none) (opened : later.activeJob? other = some id)
    (frame : kind ≠ other → later.activeJob? kind = engine.activeJob? kind) :
    Follows engine later kind [.event (.jobStarted other id)] := by
  by_cases same : kind = other
  · subst kind
    simp [Follows, Lawful, Occurrence.opening?, Occurrence.ending?, Occurrence.session?,
      Occurrence.isReset, free, opened]
  · simp [Follows, Lawful, Occurrence.opening?, Occurrence.ending?, Occurrence.session?,
      Occurrence.isReset, Ne.symm same, frame same]

private theorem follows_of_end {engine later : Engine} {kind other : Kind} {id : JobId}
    {event : Event}
    (ending : ∀ kind, Occurrence.ending? kind (.event event) =
      if other = kind then some id else none)
    (opening : ∀ kind, Occurrence.opening? kind (.event event) = none)
    (current : engine.activeJob? other = some id) (closed : later.activeJob? other = none)
    (frame : kind ≠ other → later.activeJob? kind = engine.activeJob? kind) :
    Follows engine later kind [.event event] := by
  by_cases same : kind = other
  · subst kind
    simp [Follows, Lawful, opening, ending, Occurrence.session?, Occurrence.isReset, current,
      closed]
  · simp [Follows, Lawful, opening, ending, Occurrence.session?, Occurrence.isReset,
      Ne.symm same, frame same]

private theorem follows_of_failure {engine later : Engine} {n : Nat} {s : Session}
    {record : Record} (awaited : engine.Awaited n s record) {kind : Kind} (failure : Failure)
    (closed : later.activeJob? s.kind = none)
    (frame : kind ≠ s.kind → later.activeJob? kind = engine.activeJob? kind) :
    Follows engine later kind [.event (.jobFailed s.kind s.job failure)] :=
  follows_of_end (fun _ => rfl) (fun _ => rfl)
    (awaited.same ▸ activeJob?_of_held awaited.held awaited.active) closed frame

private theorem follows_of_reset {engine later : Engine} {kind other : Kind}
    (closed : later.activeJob? other = none)
    (frame : kind ≠ other → later.activeJob? kind = engine.activeJob? kind) :
    Follows engine later kind [.reset other] := by
  by_cases same : kind = other
  · subst kind
    simp [Follows, Lawful, Occurrence.opening?, Occurrence.ending?, Occurrence.session?,
      Occurrence.isReset, closed]
  · simp [Follows, Lawful, Occurrence.opening?, Occurrence.ending?, Occurrence.session?,
      Occurrence.isReset, Ne.symm same, frame same]

private theorem follows_of_completion {engine later : Engine} {n : Nat} {s : Session}
    {record : Record} (awaited : engine.Awaited n s record) {kind : Kind} (payload : Json)
    (closed : later.activeJob? s.kind = none)
    (frame : kind ≠ s.kind → later.activeJob? kind = engine.activeJob? kind) :
    Follows engine later kind ((completionEvents s.kind s.job payload).map .event) := by
  have told : Follows engine later kind [.event (.jobCompleted s.kind s.job payload)] :=
    follows_of_end (fun _ => rfl) (fun _ => rfl)
      (awaited.same ▸ activeJob?_of_held awaited.held awaited.active) closed frame
  have silent : ∀ (keys : List String) (rest : List Occurrence), Follows engine later kind rest →
      Follows engine later kind (keys.map (fun key => .event (.cacheInvalidated key)) ++ rest) := by
    intro keys rest follows
    induction keys with
    | nil => exact follows
    | cons key keys ih =>
        refine ⟨⟨?_, ?_, ih.1⟩, ih.2⟩
        · intro job opened
          cases opened
        · intro job ended
          cases ended
  have events := silent (Invalidation.keys s.kind) _ told
  simpa [completionEvents, Function.comp_def] using events

/-- What a move adds to the history obeys the grammar, and keeps the open session of each kind
in step with its active job. -/
theorem Effect.follows {settings : EngineSettings} {engine later : Engine} {move : Move}
    {events : List Event} (effect : Effect settings engine move later events)
    (coherent : engine.Coherent) (kind : Kind) :
    Follows engine later kind (move.occurrences events) := by
  have frame_put : ∀ {other : Kind} {record : Record}, kind ≠ other →
      ((engine.store.put other record).active? kind).map Record.id = engine.activeJob? kind := by
    intro other record different
    rw [Store.active?_put, if_neg different]
    rfl
  have frame_clear : ∀ {other : Kind}, kind ≠ other →
      ((engine.store.clear other).active? kind).map Record.id = engine.activeJob? kind := by
    intro other different
    rw [Store.active?_clear, if_neg different]
    rfl
  have closed_put : ∀ {other : Kind} {record : Record}, record.isActive = false →
      ((engine.store.put other record).active? other).map Record.id = none := by
    intro other record ended
    rw [Store.active?_put, if_pos rfl, Option.filter_some_neg ended]
    rfl
  have closed_clear : ∀ {other : Kind},
      ((engine.store.clear other).active? other).map Record.id = none := by
    intro other
    rw [Store.active?_clear, if_pos rfl]
    rfl
  have kept : ∀ {s : Session} {n : Nat} {record next : Record}, engine.Awaited n s record →
      next.id = record.id → next.isActive = true →
      ((engine.store.put s.kind next).active? kind).map Record.id = engine.activeJob? kind := by
    intro s n record next awaited same active
    by_cases here : kind = s.kind
    · subst kind
      rw [activeJob?_of_held awaited.held awaited.active, Store.active?_put, if_pos rfl]
      simp [Option.filter, active, same]
    · exact frame_put here
  cases effect with
  | idle request =>
      rw [Move.occurrences_of_isRequest request]
      exact follows_of_silence rfl
  | @opened _ now other id tracks free =>
      rw [Move.occurrences_of_isRequest tracks.isRequest]
      refine follows_of_start ?_ ?_ frame_put
      · rw [activeJob?, free, Option.map_none]
      · simp [activeJob?, Engine.opened, Store.active?_put, Option.filter]
  | unstopped _ => exact follows_of_silence rfl
  | stopped held active =>
      exact follows_of_end (fun _ => rfl) (fun _ => rfl) (activeJob?_of_held held active)
        (closed_put rfl) frame_put
  | vacated => exact follows_of_reset closed_clear frame_clear
  | shutdown => exact follows_of_silence rfl
  | refreshed => exact follows_of_silence rfl
  | ticked => exact follows_of_silence rfl
  | dropped _ => exact follows_of_silence rfl
  | progressed awaited _ => exact follows_of_silence (kept awaited rfl rfl)
  | completed awaited _ _ => exact follows_of_completion awaited _ closed_clear frame_clear
  | suppressed awaited _ published =>
      rw [coherent.hasPublished_of_awaited awaited] at published
      cases published
  | failed awaited _ => exact follows_of_failure awaited _ (closed_put rfl) frame_put
  | retried awaited _ _ => exact follows_of_silence (kept awaited rfl awaited.active)
  | exhausted awaited _ _ => exact follows_of_failure awaited _ closed_clear frame_clear
  | aborted awaited _ => exact follows_of_failure awaited _ (closed_put rfl) frame_put

/-- Along a run the grammar is obeyed, and a session is open exactly while its job is active. -/
theorem follows_history {engine : Engine} (coherent : engine.Coherent) (settings : EngineSettings)
    (moves : List Move) (kind : Kind) :
    Follows engine (engine.after settings moves) kind (engine.history settings moves) := by
  induction moves generalizing engine with
  | nil => exact ⟨trivial, rfl⟩
  | cons move rest ih =>
      have effect := perform_effect engine settings move
      obtain ⟨lawful, open?⟩ := effect.follows coherent kind
      obtain ⟨later, ended⟩ := ih (effect.coherent coherent)
      refine ⟨lawful_append.mpr ⟨lawful, open? ▸ later⟩, ?_⟩
      rw [history, List.foldl_append, open?]
      exact ended

/-! ## Completions and their invalidations -/

/-- Events that are told together: a start, a failure or a stop alone, and a completion behind
the invalidations of its kind. -/
inductive Told : List Event → Prop where
  | started {kind job} : Told [.jobStarted kind job]
  | failed {kind job failure} : Told [.jobFailed kind job failure]
  | stopped {kind job} : Told [.jobStopped kind job]
  | completed {kind job payload} : Told (completionEvents kind job payload)

inductive Composed : List Event → Prop where
  | nil : Composed []
  | cons {group rest} : Told group → Composed rest → Composed (group ++ rest)

theorem Composed.append {earlier later : List Event} (front : Composed earlier)
    (back : Composed later) : Composed (earlier ++ later) := by
  induction front with
  | nil => exact back
  | cons told _ ih =>
      rw [List.append_assoc]
      exact .cons told ih

theorem Told.composed {group : List Event} (told : Told group) : Composed group :=
  List.append_nil group ▸ .cons told .nil

theorem Effect.composed {settings : EngineSettings} {engine later : Engine} {move : Move}
    {events : List Event} (effect : Effect settings engine move later events) :
    Composed events := by
  cases effect with
  | opened _ _ => exact Told.started.composed
  | stopped _ _ => exact Told.stopped.composed
  | completed _ _ _ => exact Told.completed.composed
  | failed _ _ => exact Told.failed.composed
  | exhausted _ _ _ => exact Told.failed.composed
  | aborted _ _ => exact Told.failed.composed
  | _ => exact .nil

theorem composed_emitted (engine : Engine) (settings : EngineSettings) (moves : List Move) :
    Composed (engine.emitted settings moves) := by
  induction moves generalizing engine with
  | nil => exact .nil
  | cons move rest ih => exact (perform_effect engine settings move).composed.append (ih _)

theorem Composed.split {events before after : List Event} {event : Event}
    (composed : Composed events) (split : events = before ++ event :: after) :
    ∃ earlier front back later, Told (front ++ event :: back) ∧
      before = earlier ++ front ∧ after = back ++ later := by
  induction composed generalizing before with
  | nil => simp at split
  | @cons group rest told _ ih =>
      rcases List.append_eq_append_iff.mp split with ⟨middle, rfl, shape⟩ | ⟨middle, shape, tail⟩
      · obtain ⟨earlier, front, back, later, here, rfl, rfl⟩ := ih shape
        exact ⟨group ++ earlier, front, back, later, here, by simp, rfl⟩
      · cases middle with
        | nil =>
            obtain ⟨earlier, front, back, later, here, empty, rfl⟩ := @ih [] tail.symm
            obtain ⟨rfl, rfl⟩ := List.append_eq_nil_iff.mp empty.symm
            exact ⟨group, [], back, later, here, by simpa using shape.symm, rfl⟩
        | cons first middle =>
            obtain ⟨rfl, rfl⟩ := List.cons.inj tail
            exact ⟨[], before, middle, rest, shape ▸ told, rfl, rfl⟩

private theorem split_before_last {α : Type} {items front back : List α} {item last : α}
    (split : items ++ [last] = front ++ item :: back) :
    (front = items ∧ item = last ∧ back = []) ∨
      ∃ middle, items = front ++ item :: middle ∧ back = middle ++ [last] := by
  rcases List.eq_nil_or_concat back with rfl | ⟨middle, other, rfl⟩
  · obtain ⟨rfl, same⟩ := List.append_inj' split rfl
    exact .inl ⟨rfl, (List.singleton_inj.mp same).symm, rfl⟩
  · rw [List.concat_eq_append, ← List.cons_append, ← List.append_assoc] at split
    obtain ⟨rfl, same⟩ := List.append_inj' split rfl
    exact .inr ⟨middle, rfl, by rw [List.concat_eq_append, List.singleton_inj.mp same]⟩

theorem Told.of_completed {kind : Kind} {job : JobId} {payload : Json} {front back : List Event}
    (told : Told (front ++ .jobCompleted kind job payload :: back)) :
    front = (Invalidation.keys kind).map .cacheInvalidated := by
  generalize shape : front ++ .jobCompleted kind job payload :: back = group at told
  cases told with
  | completed =>
      rcases split_before_last shape.symm with ⟨rfl, same, _⟩ | ⟨middle, inside, _⟩
      · cases same
        rfl
      · obtain ⟨_, _, _, _, tail⟩ := List.map_eq_append_iff.mp inside
        obtain ⟨_, _, _, impossible, _⟩ := List.map_eq_cons_iff.mp tail
        cases impossible
  | _ => simp [List.append_eq_singleton_iff] at shape

/-- A list that is told together and invalidates a key is the completion of a job. -/
theorem Told.of_invalidated {key : String} {front back : List Event}
    (told : Told (front ++ .cacheInvalidated key :: back)) :
    ∃ kind job payload earlier later, Invalidation.keys kind = earlier ++ key :: later ∧
      front = earlier.map .cacheInvalidated ∧
      back = later.map .cacheInvalidated ++ [.jobCompleted kind job payload] := by
  generalize shape : front ++ .cacheInvalidated key :: back = group at told
  cases told with
  | @completed kind job payload =>
      rcases split_before_last shape.symm with ⟨_, impossible, _⟩ | ⟨middle, inside, rfl⟩
      · cases impossible
      · obtain ⟨earlier, rest, keys, rfl, tail⟩ := List.map_eq_append_iff.mp inside
        obtain ⟨other, later, rfl, same, rfl⟩ := List.map_eq_cons_iff.mp tail
        cases same
        exact ⟨kind, job, payload, earlier, later, keys, rfl, rfl⟩
  | _ => simp [List.append_eq_singleton_iff] at shape

theorem events_history (engine : Engine) (settings : EngineSettings) (moves : List Move) :
    (engine.history settings moves).filterMap Occurrence.event? =
      engine.emitted settings moves := by
  induction moves generalizing engine with
  | nil => rfl
  | cons move rest ih =>
      rw [history, emitted_cons, List.filterMap_append, move.events_occurrences, ih]

/-! ## The grammar of runs -/

/-- A response that is taken in and completes its job is always published in full. -/
theorem Coherent.completion_published {engine : Engine} (coherent : engine.Coherent)
    (settings : EngineSettings) (now : Timestamp) {n : Nat} {s : Session} {payload : Json}
    (awaited : engine.poller.awaits n engine.store.isCurrent = some s)
    (complete : Completion.detect s.kind payload = .complete) :
    (engine.perform settings (.respond now n (.ok payload))).events =
      completionEvents s.kind s.job payload := by
  obtain ⟨record, current⟩ := awaits_eq_some_iff.mp awaited
  have fresh := coherent.hasPublished_of_awaited current record.id
  simp only [Engine.perform, Step.map, respond, awaited, ← current.same]
  rw [accept_complete current.held current.active _ now complete fresh]

/-- The events of every run obey the lifecycle. Between two starts of a kind there is at most one
terminal event, of the job that was started; a terminal event stands in an open session, and
after a reset there is none until the next start. A completion stands right behind its three
invalidations, invalidations stand nowhere else, and no completion is taken for a duplicate. -/
theorem lifecycle_of_run (settings : EngineSettings) (moves : List Move) (kind : Kind) :
    let engine := initial.after settings moves
    let history := initial.history settings moves
    let events := initial.emitted settings moves
    history.filterMap Occurrence.event? = events ∧
    (∀ (before : List Occurrence) (job : JobId) (middle after : List Occurrence),
      history = before ++ .event (.jobStarted kind job) :: (middle ++ after) →
      (∀ occurrence ∈ middle, occurrence.opening? kind = none) →
      middle.filterMap (Occurrence.ending? kind) = [] ∨
        middle.filterMap (Occurrence.ending? kind) = [job]) ∧
    (∀ (before : List Occurrence) (occurrence : Occurrence) (job : JobId)
      (after : List Occurrence), history = before ++ occurrence :: after →
      occurrence.ending? kind = some job →
      ∃ earlier middle : List Occurrence,
        before = earlier ++ .event (.jobStarted kind job) :: middle ∧
        ∀ between ∈ middle, between.Foreign kind) ∧
    (∀ before middle after : List Occurrence, history = before ++ .reset kind :: (middle ++ after) →
      (∀ occurrence ∈ middle, occurrence.opening? kind = none) →
      middle.filterMap (Occurrence.ending? kind) = []) ∧
    (∀ (before : List Event) (job : JobId) (payload : Json) (after : List Event),
      events = before ++ .jobCompleted kind job payload :: after →
      ∃ earlier : List Event, before = earlier ++ [
        .cacheInvalidated (Invalidation.lastResultKey kind),
        .cacheInvalidated Invalidation.historyKey,
        .cacheInvalidated (Invalidation.historyPartitionKey kind)]) ∧
    (∀ (before : List Event) (key : String) (after : List Event),
      events = before ++ .cacheInvalidated key :: after →
      ∃ (other : Kind) (job : JobId) (payload : Json) (front back : List String)
        (earlier later : List Event),
        Invalidation.keys other = front ++ key :: back ∧
        before = earlier ++ front.map .cacheInvalidated ∧
        after = back.map .cacheInvalidated ++ .jobCompleted other job payload :: later) ∧
    (∀ (now : Timestamp) (n : Nat) (s : Session) (payload : Json),
      engine.poller.awaits n engine.store.isCurrent = some s →
      Completion.detect s.kind payload = .complete →
      (engine.perform settings (.respond now n (.ok payload))).events =
        completionEvents s.kind s.job payload) := by
  intro engine history events
  have closed : initial.activeJob? kind = none := by cases kind <;> rfl
  have lawful : Lawful kind none history :=
    closed ▸ (follows_history coherent_initial settings moves kind).1
  have composed : Composed events := composed_emitted ..
  refine ⟨events_history .., ?_, ?_, ?_, ?_, ?_, ?_⟩
  · intro before job middle after split unopened
    rw [split, lawful_append] at lawful
    obtain ⟨_, _, _, rest⟩ := lawful
    rcases (lawful_append.mp rest).1.endings unopened with none | ⟨other, opened, one⟩
    · exact .inl none
    · simp [Occurrence.session?, Occurrence.ending?, Occurrence.isReset, Occurrence.opening?]
        at opened
      exact .inr (opened ▸ one)
  · intro before occurrence job after split ends
    rw [split, lawful_append] at lawful
    obtain ⟨_, _, closes, _⟩ := lawful
    exact opened_of_session (closes job ends)
  · intro before middle after split unopened
    rw [split, lawful_append] at lawful
    obtain ⟨_, _, _, rest⟩ := lawful
    rcases (lawful_append.mp rest).1.endings unopened with none | ⟨other, opened, _⟩
    · exact none
    · simp [Occurrence.session?, Occurrence.isReset] at opened
  · intro before job payload after split
    obtain ⟨earlier, front, _, _, told, rfl, _⟩ := composed.split split
    exact ⟨earlier, by rw [told.of_completed]; rfl⟩
  · intro before key after split
    obtain ⟨earlier, front, back, later, told, rfl, rfl⟩ := composed.split split
    obtain ⟨other, job, payload, first, last, keys, rfl, rfl⟩ := told.of_invalidated
    exact ⟨other, job, payload, first, last, earlier, later, keys, rfl, by simp⟩
  · intro now n s payload awaited complete
    exact (coherent_after settings moves).completion_published settings now awaited complete

/-- A job that is tracked and completed twice under one name is told twice in full. -/
theorem lifecycle_of_retracked_job :
    let moves : List Move := [.begin (.ofMillis 0) (.track .catalogAi ⟨"J1"⟩), .tick 0 0,
      .respond (.ofMillis 1) 0 (.ok (.obj [("report", .obj [])])),
      .begin (.ofMillis 2) (.track .catalogAi ⟨"J1"⟩), .tick 3 1,
      .respond (.ofMillis 4) 1 (.ok (.obj [("report", .obj [])]))]
    let told : List Event := .jobStarted .catalogAi ⟨"J1"⟩ ::
      completionEvents .catalogAi ⟨"J1"⟩ (.obj [("report", .obj [])])
    initial.emitted .standard moves = told ++ told ∧
      ∃ earlier, told ++ told.dropLast = earlier ++ [
        .cacheInvalidated (Invalidation.lastResultKey .catalogAi),
        .cacheInvalidated Invalidation.historyKey,
        .cacheInvalidated (Invalidation.historyPartitionKey .catalogAi)] := by
  intro moves told
  have events : initial.emitted .standard moves = told ++ told := by rfl
  obtain ⟨_, _, _, _, preceded, _⟩ := lifecycle_of_run .standard moves .catalogAi
  exact ⟨events, preceded (told ++ told.dropLast) ⟨"J1"⟩ _ [] events⟩

end Engine

end JobWatch

import JobWatch.Proofs.Isolation

/-!
# Questions to the server

An action that needs the server asks a question in one move and goes on in a later one, when the
answer is there. Which question an answer of a run belongs to is not written in the answer, so a
run comes with a dialogue that says so.

A start request is made only while no job of its kind is active, but the request does not hold the
slot. So the job that the server names is tracked, unless another job of the kind was taken up in
between.
-/

set_option autoImplicit false

namespace JobWatch

inductive Answer.Fits : Answer → Question → Prop where
  | start {kind request answer} : Fits (.start kind answer) (.start kind request)
  | lastResult {kind ticket answer} :
      Fits (.lastResult kind ticket answer) (.lastResult kind ticket)

namespace Engine

def Asks (settings : EngineSettings) (moves : List Move) (index : Nat) (question : Question) :
    Prop :=
  ∃ move, moves[index]? = some move ∧
    ((stateAt settings moves index).perform settings move).reply = .progress (.asks question)

/-- Which question each answer of a run belongs to: one that was asked earlier, that the answer
fits, and that no other answer belongs to. -/
structure Dialogue (settings : EngineSettings) (moves : List Move) (asked : Nat → Nat) : Prop where
  fits : ∀ answered now answer, moves[answered]? = some (.resume now answer) →
    asked answered < answered ∧
      ∃ question, Asks settings moves (asked answered) question ∧ answer.Fits question
  once : ∀ first second now now' answer answer', moves[first]? = some (.resume now answer) →
    moves[second]? = some (.resume now' answer') → asked first = asked second → first = second

section

variable {settings : EngineSettings} {engine : Engine} {moves : List Move} {kind : Kind}

/-- Only a view and a start ask, and each under its own condition. -/
theorem asks_cases {move : Move} {question : Question}
    (asks : (engine.perform settings move).reply = .progress (.asks question)) :
    (∃ now kind ticket, move = .begin now (.view kind) ∧ question = .lastResult kind ticket ∧
      engine.refreshTicket? settings now kind = some ticket) ∨
    (∃ now kind request, move = .begin now (.start kind request) ∧
      question = .start kind request ∧ engine.store.active? kind = none) := by
  cases move with
  | begin now action =>
      cases action with
      | view kind =>
          simp only [perform, begin, Step.map] at asks
          split at asks
          · cases asks
          · next ticket found =>
              cases asks
              exact .inl ⟨now, kind, ticket, rfl, rfl, found⟩
      | start kind request =>
          simp only [perform, begin, Step.map] at asks
          split at asks
          · cases asks
          · next unrefused =>
              cases asks
              exact .inr ⟨now, kind, request, rfl, rfl, Option.map_eq_none_iff.mp unrefused⟩
      | track kind id => cases asks
      | stop kind => cases asks
      | reset kind => cases asks
  | resume now answer => cases asks
  | shutdown => cases asks
  | tick time n => cases asks
  | respond now n outcome => cases asks

theorem Asks.generation {index ticket : Nat}
    (asks : Asks settings moves index (.lastResult kind ticket)) :
    (stateAt settings moves index).results.generation kind = ticket := by
  obtain ⟨move, _, asks⟩ := asks
  obtain ⟨now, _, _, _, same, issued⟩ | ⟨_, _, _, _, impossible, _⟩ := asks_cases asks
  · cases same
    unfold refreshTicket? at issued
    split at issued
    · exact Option.some.inj issued
    · cases issued
  · cases impossible

theorem Asks.free {index : Nat} {request : StartRequest}
    (asks : Asks settings moves index (.start kind request)) :
    (stateAt settings moves index).store.active? kind = none := by
  obtain ⟨move, _, asks⟩ := asks
  obtain ⟨_, _, _, _, impossible, _⟩ | ⟨_, _, _, _, same, free⟩ := asks_cases asks
  · cases impossible
  · cases same
    exact free

theorem Dialogue.asks_lastResult {asked : Nat → Nat} (dialogue : Dialogue settings moves asked)
    {answered ticket : Nat} {now : Timestamp} {answer : LastResult}
    (response : moves[answered]? = some (.resume now (.lastResult kind ticket answer))) :
    asked answered < answered ∧ Asks settings moves (asked answered) (.lastResult kind ticket) := by
  obtain ⟨order, question, asks, fits⟩ := dialogue.fits answered now _ response
  cases fits
  exact ⟨order, asks⟩

theorem Dialogue.asks_start {asked : Nat → Nat} (dialogue : Dialogue settings moves asked)
    {answered : Nat} {now : Timestamp} {answer : StartAnswer}
    (response : moves[answered]? = some (.resume now (.start kind answer))) :
    asked answered < answered ∧
      ∃ request, Asks settings moves (asked answered) (.start kind request) := by
  obtain ⟨order, question, asks, fits⟩ := dialogue.fits answered now _ response
  cases fits with
  | @start _ request _ => exact ⟨order, request, asks⟩

theorem dialogue_of_two_answers {asked : Nat → Nat} (one other : Nat)
    (only : ∀ index now answer, moves[index]? = some (.resume now answer) →
      index = one ∨ index = other)
    (fits : ∀ answered now answer, moves[answered]? = some (.resume now answer) →
      asked answered < answered ∧
        ∃ question, Asks settings moves (asked answered) question ∧ answer.Fits question)
    (apart : asked one ≠ asked other) : Dialogue settings moves asked := by
  refine ⟨fits, ?_⟩
  intro first second now now' answer answer' earlier later same
  rcases only first now answer earlier with rfl | rfl <;>
    rcases only second now' answer' later with rfl | rfl
  · rfl
  · exact absurd same apart
  · exact absurd same.symm apart
  · rfl

/-! ## Starts -/

theorem Effect.begins_of_active {later : Engine} {move : Move} {events : List Event}
    (effect : Effect settings engine move later events) (free : engine.store.active? kind = none)
    (active : later.store.active? kind ≠ none) : ∃ id, Begins settings engine move kind id := by
  have kept : later.store.get? kind = engine.store.get? kind →
      ∃ id, Begins settings engine move kind id := by
    intro same
    rw [Store.active?, same] at active
    exact absurd free active
  have inactive := Store.active?_eq_none_iff.mp free
  have different : ∀ {other : Kind} {record : Record}, engine.store.get? other = some record →
      record.isActive = true → kind ≠ other := by
    rintro other record held isActive rfl
    rw [inactive record held] at isActive
    cases isActive
  cases effect with
  | idle => exact kept rfl
  | @opened _ now other id tracks vacant =>
      by_cases same : kind = other
      · subst other
        exact ⟨id, begins_of_tracks tracks vacant⟩
      · exact kept (Store.get?_put_of_ne _ _ same)
  | unstopped => exact kept rfl
  | stopped held isActive => exact kept (Store.get?_put_of_ne _ _ (different held isActive))
  | @vacated _ other =>
      by_cases same : kind = other
      · subst other
        simp [Engine.vacated, Store.active?] at active
      · exact kept (Store.get?_clear_of_ne _ same)
  | shutdown => exact kept rfl
  | refreshed => exact kept rfl
  | ticked => exact kept rfl
  | dropped => exact kept rfl
  | progressed awaited _ =>
      exact kept (Store.get?_put_of_ne _ _ (different awaited.held awaited.active))
  | completed awaited _ _ =>
      exact kept (Store.get?_clear_of_ne _ (different awaited.held awaited.active))
  | suppressed awaited _ _ =>
      exact kept (Store.get?_clear_of_ne _ (different awaited.held awaited.active))
  | failed awaited _ =>
      exact kept (Store.get?_put_of_ne _ _ (different awaited.held awaited.active))
  | retried awaited _ _ =>
      exact kept (Store.get?_put_of_ne _ _ (different awaited.held awaited.active))
  | exhausted awaited _ _ =>
      exact kept (Store.get?_clear_of_ne _ (different awaited.held awaited.active))
  | aborted awaited _ =>
      exact kept (Store.get?_put_of_ne _ _ (different awaited.held awaited.active))

theorem opened_of_active {first last : Nat} (order : first ≤ last)
    (free : (stateAt settings moves first).store.active? kind = none)
    (active : (stateAt settings moves last).store.active? kind ≠ none) :
    ∃ opened n id, first ≤ opened ∧ opened < last ∧ Opened settings moves opened n kind id := by
  apply Classical.byContradiction
  intro none
  refine active (stateAt_between settings (motive := fun engine => engine.store.active? kind = _)
    order free ?_)
  intro index move since below made stillFree
  apply Classical.byContradiction
  intro taken
  obtain ⟨id, begins⟩ := (perform_effect _ settings move).begins_of_active stillFree taken
  exact none ⟨index, _, id, since, below, ⟨move, made, begins⟩, rfl⟩

end

/-- The job that the server names in answer to a start request is tracked, unless a session of the
kind began between the request and the answer. In that case the caller is told of the job that is
active, and nothing of the job that the server has started is kept. -/
theorem started_job_tracked_or_overtaken (settings : EngineSettings) (moves : List Move)
    (asked : Nat → Nat) (dialogue : Dialogue settings moves asked) (answered : Nat)
    (now : Timestamp) (kind : Kind) (id : JobId)
    (named : (Text.trim id.text).isEmpty = false)
    (response : moves[answered]? = some (.resume now (.start kind (.ok ⟨some id⟩)))) :
    let engine := stateAt settings moves answered
    let step := engine.perform settings (.resume now (.start kind (.ok ⟨some id⟩)))
    step.reply = .reply (.tracked (.ok (.start now kind id))) ∨
      ∃ opened n other record, asked answered < opened ∧ opened < answered ∧
        Opened settings moves opened n kind other ∧
        engine.record? kind = some record ∧ record.isActive = true ∧
        step.reply = .reply (.tracked (.error (.alreadyActive record))) ∧
        step.engine = engine ∧ step.events = [] := by
  intro engine step
  obtain ⟨order, request, asks⟩ := dialogue.asks_start response
  have performed : step = (engine.track now kind id).map fun result => .reply (.tracked result) := by
    simp [step, perform, resume, startAnswered, Option.filter, named, Step.map]
  cases found : engine.store.active? kind with
  | none =>
      rw [performed, track_of_free engine now id found]
      exact .inl rfl
  | some record =>
      obtain ⟨held, active⟩ := Store.active?_eq_some_iff.mp found
      obtain ⟨opened, n, other, since, before, session⟩ :=
        opened_of_active (Nat.le_of_lt order) asks.free (by rw [found]; simp)
      -- The move of the request is no move that begins a session.
      have later : opened ≠ asked answered := by
        rintro rfl
        obtain ⟨move, made, begins⟩ := session.begins
        obtain ⟨asking, same, asks⟩ := asks
        rw [made] at same
        cases same
        obtain ⟨record, tracked, _⟩ := begins
        rw [asks] at tracked
        cases tracked
      rw [performed, track_of_active engine now id found]
      exact .inr ⟨opened, n, other, record, Nat.lt_of_le_of_ne since (Ne.symm later), before,
        session, held, active, rfl, rfl, rfl⟩

/-- Two starts that overlap: both requests are made before the server answers the first. -/
def overlappingStarts : List Move := [
  .begin (.ofMillis 0) (.start .findIssues .empty),
  .begin (.ofMillis 0) (.start .findIssues .empty),
  .resume (.ofMillis 1000) (.start .findIssues (.ok ⟨some ⟨"J1"⟩⟩)),
  .resume (.ofMillis 2000) (.start .findIssues (.ok ⟨some ⟨"J2"⟩⟩))]

theorem dialogue_overlappingStarts : Dialogue .standard overlappingStarts (· - 2) := by
  refine dialogue_of_two_answers 2 3 ?_ ?_ (by decide)
  · intro index now answer response
    rcases index with _ | _ | _ | _ | _ <;> cases response
    · exact .inl rfl
    · exact .inr rfl
  · intro index now answer response
    rcases index with _ | _ | _ | _ | _ <;> cases response
    · exact ⟨by decide, _, ⟨_, rfl, rfl⟩, .start⟩
    · exact ⟨by decide, _, ⟨_, rfl, rfl⟩, .start⟩

/-- The job of the second request was started and is not tracked. -/
theorem started_job_lost :
    let answer : Answer := .start .findIssues (.ok ⟨some ⟨"J2"⟩⟩)
    Dialogue .standard overlappingStarts (· - 2) ∧
    overlappingStarts[3]? = some (.resume (.ofMillis 2000) answer) ∧
    (Text.trim "J2").isEmpty = false ∧
    ((stateAt .standard overlappingStarts 3).perform .standard
      (.resume (.ofMillis 2000) answer)).reply =
      .reply (.tracked (.error (.alreadyActive (.start (.ofMillis 1000) .findIssues ⟨"J1"⟩)))) :=
  ⟨dialogue_overlappingStarts, rfl, by decide, by rfl⟩

theorem started_job_overtaken_by_start :
    ∃ opened n other record, 1 < opened ∧ opened < 3 ∧
      Opened .standard overlappingStarts opened n .findIssues other ∧
      (stateAt .standard overlappingStarts 3).record? .findIssues = some record ∧
      record.isActive = true := by
  rcases started_job_tracked_or_overtaken .standard overlappingStarts (· - 2)
      dialogue_overlappingStarts 3 (.ofMillis 2000) .findIssues ⟨"J2"⟩ (by decide) rfl with
    tracked | ⟨opened, n, other, record, since, before, session, held, active, _⟩
  · cases tracked
  · exact ⟨opened, n, other, record, since, before, session, held, active⟩

end Engine

end JobWatch

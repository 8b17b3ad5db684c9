import JobWatch.Proofs.Dialogue
import JobWatch.Proofs.Frame

/-!
# The cached result and the answers that refresh it

The cached result of a kind changes in two ways only: a job of the kind completes, or the server
answers a request for the last result. A request carries the generation in which it was made, and
every completion starts new generations, so an answer counts exactly if no job of the kind has
completed since its request. Among requests of one generation the answers count in the order in
which they come, whichever request was made first.
-/

set_option autoImplicit false

namespace JobWatch

def Event.completes (kind : Kind) : Event → Bool
  | .jobCompleted other _ _ => other = kind
  | _ => false

/-- The number of jobs of a kind whose completion is told. -/
def completions (kind : Kind) (events : List Event) : Nat := events.countP (Event.completes kind)

theorem completions_append (kind : Kind) (earlier later : List Event) :
    completions kind (earlier ++ later) = completions kind earlier + completions kind later :=
  List.countP_append ..

theorem completions_pos_iff {kind : Kind} {events : List Event} :
    0 < completions kind events ↔ ∃ job payload, .jobCompleted kind job payload ∈ events := by
  rw [completions, List.countP_pos_iff]
  constructor
  · rintro ⟨event, member, completes⟩
    cases event with
    | jobCompleted other job payload =>
        have same : other = kind := by simpa [Event.completes] using completes
        exact ⟨job, payload, same ▸ member⟩
    | _ => cases completes
  · rintro ⟨job, payload, member⟩
    exact ⟨_, member, by simp [Event.completes]⟩

theorem completions_completionEvents (kind other : Kind) (job : JobId) (payload : Json) :
    completions kind (Engine.completionEvents other job payload) = if other = kind then 1 else 0 := by
  simp [Engine.completionEvents, completions, Invalidation.keys, Event.completes]

theorem Json.isNull_iff {payload : Json} : payload.isNull = true ↔ payload = .null := by
  cases payload <;> simp [isNull]

theorem Move.not_refreshes_of_isRequest {move : Move} (request : move.isRequest = true)
    (kind : Kind) : ¬ move.Refreshes kind := by
  rintro ⟨⟩
  cases request

/-! ## Changes -/

/-- Everything that a move can do to the results of a kind, with the events it emits. A move that
leaves the cached result alone may still change the live one. -/
inductive ResultChange (kind : Kind) (entry : ResultEntry) :
    Move → List Event → ResultEntry → Prop where
  | kept {move events live} : ¬ move.Refreshes kind → completions kind events = 0 →
      ResultChange kind entry move events { entry with live }
  | completed {now n job payload} :
      ResultChange kind entry (.respond now n (.ok payload))
        (Engine.completionEvents kind job payload)
        ⟨none, some ⟨kind, payload, now, .cached⟩, some now, true, entry.generation + 2⟩
  | overtaken {now ticket answer} : entry.generation ≠ ticket →
      ResultChange kind entry (.resume now (.lastResult kind ticket answer)) [] entry
  | replaced {now payload} : payload ≠ .null →
      ResultChange kind entry
        (.resume now (.lastResult kind entry.generation (.ok (some payload)))) []
        { entry with
          cached := some ⟨kind, payload, now, .cached⟩, refreshedAt := some now, stale := false }
  | confirmed {now answer} : answer = .ok none ∨ answer = .ok (some .null) →
      ResultChange kind entry (.resume now (.lastResult kind entry.generation answer)) []
        { entry with refreshedAt := some now, stale := false }
  | unanswered {now error} :
      ResultChange kind entry (.resume now (.lastResult kind entry.generation (.error error))) []
        entry

namespace ResultChange

variable {kind : Kind} {entry next : ResultEntry} {move : Move} {events : List Event}
  {now : Timestamp} {ticket : Nat}

/-- A completion starts two generations, one with the new result and one with its invalidation;
nothing else starts any. -/
theorem generation (change : ResultChange kind entry move events next) :
    next.generation = entry.generation + 2 * completions kind events := by
  cases change with
  | kept _ silent => rw [silent]; rfl
  | completed => rw [completions_completionEvents, if_pos rfl]
  | overtaken => rfl
  | replaced => rfl
  | confirmed => rfl
  | unanswered => rfl

theorem of_overtaken {answer : LastResult}
    (change : ResultChange kind entry (.resume now (.lastResult kind ticket answer)) events next)
    (overtaken : entry.generation ≠ ticket) : next = entry := by
  cases change with
  | kept foreign => exact absurd .answered foreign
  | overtaken => rfl
  | replaced => exact absurd rfl overtaken
  | confirmed => exact absurd rfl overtaken
  | unanswered => rfl

theorem of_payload {payload : Json}
    (change : ResultChange kind entry
      (.resume now (.lastResult kind ticket (.ok (some payload)))) events next)
    (current : entry.generation = ticket) (present : payload ≠ .null) :
    next = { entry with
      cached := some ⟨kind, payload, now, .cached⟩, refreshedAt := some now, stale := false } := by
  cases change with
  | kept foreign => exact absurd .answered foreign
  | overtaken different => exact absurd current different
  | replaced => rfl
  | confirmed empty =>
      rcases empty with none | null
      · cases none
      · cases null
        exact absurd rfl present

theorem of_empty {answer : LastResult}
    (change : ResultChange kind entry (.resume now (.lastResult kind ticket answer)) events next)
    (current : entry.generation = ticket)
    (empty : answer = .ok none ∨ answer = .ok (some .null)) :
    next = { entry with refreshedAt := some now, stale := false } := by
  cases change with
  | kept foreign => exact absurd .answered foreign
  | overtaken different => exact absurd current different
  | replaced present =>
      rcases empty with none | null
      · cases none
      · cases null
        exact absurd rfl present
  | confirmed => rfl
  | unanswered =>
      rcases empty with none | null
      · cases none
      · cases null

theorem of_error {error : TransportError}
    (change : ResultChange kind entry
      (.resume now (.lastResult kind ticket (.error error))) events next) : next = entry := by
  cases change with
  | kept foreign => exact absurd .answered foreign
  | overtaken => rfl
  | confirmed empty =>
      rcases empty with none | null
      · cases none
      · cases null
  | unanswered => rfl

/-- What changes the cached result: a completion, or an answer of the current generation that
holds a payload. -/
theorem cached_cases (change : ResultChange kind entry move events next) :
    next.cached = entry.cached ∨
    (∃ job payload, .jobCompleted kind job payload ∈ events) ∨
    (∃ now payload, payload ≠ .null ∧
      move = .resume now (.lastResult kind entry.generation (.ok (some payload)))) := by
  cases change with
  | kept => exact .inl rfl
  | @completed _ _ job payload =>
      exact .inr (.inl ⟨job, payload, List.mem_append_right _ (List.mem_singleton.mpr rfl)⟩)
  | overtaken => exact .inl rfl
  | @replaced now payload present => exact .inr (.inr ⟨now, payload, present, rfl⟩)
  | confirmed => exact .inl rfl
  | unanswered => exact .inl rfl

theorem of_completed {job : JobId} {payload : Json}
    (change : ResultChange kind entry move events next)
    (told : .jobCompleted kind job payload ∈ events) :
    ∃ now n, move = .respond now n (.ok payload) ∧
      next.cached = some ⟨kind, payload, now, .cached⟩ := by
  cases change with
  | kept _ silent =>
      exact absurd (completions_pos_iff.mpr ⟨job, payload, told⟩) (by rw [silent]; simp)
  | @completed now n _ _ =>
      have same := told
      simp [Engine.completionEvents] at same
      obtain ⟨_, rfl⟩ := same
      exact ⟨now, n, rfl, rfl⟩
  | overtaken => cases told
  | replaced => cases told
  | confirmed => cases told
  | unanswered => cases told

end ResultChange

namespace ResultBoard

variable (board : ResultBoard) (kind other : Kind)

theorem entry_clearLive :
    ∃ live, (board.clearLive other).entry kind = { board.entry kind with live } := by
  by_cases same : kind = other
  · subst other
    exact ⟨none, by simp [clearLive]⟩
  · exact ⟨(board.entry kind).live, board.entry_clearLive_of_ne same⟩

theorem entry_setLive (now : Timestamp) (payload : Json) :
    ∃ live, (board.setLive now other payload).entry kind = { board.entry kind with live } := by
  by_cases same : kind = other
  · subst other
    exact ⟨some ⟨kind, payload, now, .live⟩, by simp [setLive]⟩
  · exact ⟨(board.entry kind).live, board.entry_setLive_of_ne now payload same⟩

theorem resultChange_applyRefresh (now : Timestamp) (ticket : Nat) (answer : LastResult) :
    ResultChange kind (board.entry kind) (.resume now (.lastResult kind ticket answer)) []
      ((board.applyRefresh now kind ticket answer).entry kind) := by
  by_cases current : (board.entry kind).generation = ticket
  · subst ticket
    rcases answer with error | _ | payload
    · simpa [applyRefresh] using .unanswered
    · simpa [applyRefresh] using .confirmed (.inl rfl)
    · by_cases null : payload = .null
      · subst null
        simpa [applyRefresh, Json.isNull] using .confirmed (.inr rfl)
      · have present : payload.isNull = false :=
          Bool.eq_false_iff.mpr fun isNull => null (Json.isNull_iff.mp isNull)
        simpa [applyRefresh, present] using .replaced null
  · simpa [applyRefresh, current] using .overtaken current

end ResultBoard

namespace Engine

section

variable {settings : EngineSettings} {engine later : Engine} {move : Move} {events : List Event}

theorem Effect.resultChange (effect : Effect settings engine move later events)
    (coherent : engine.Coherent) (kind : Kind) :
    ResultChange kind (engine.results.entry kind) move events (later.results.entry kind) := by
  have relived : ¬ move.Refreshes kind → completions kind events = 0 →
      (∃ live, later.results.entry kind = { engine.results.entry kind with live }) →
      ResultChange kind (engine.results.entry kind) move events (later.results.entry kind) := by
    intro foreign silent kept
    obtain ⟨live, same⟩ := kept
    rw [same]
    exact .kept foreign silent
  have untouched : ¬ move.Refreshes kind → completions kind events = 0 →
      later.results.entry kind = engine.results.entry kind →
      ResultChange kind (engine.results.entry kind) move events (later.results.entry kind) :=
    fun foreign silent same => relived foreign silent ⟨(engine.results.entry kind).live, same⟩
  cases effect with
  | idle request => exact untouched (Move.not_refreshes_of_isRequest request kind) rfl rfl
  | opened tracks _ =>
      exact relived (Move.not_refreshes_of_isRequest tracks.isRequest kind) rfl
        (ResultBoard.entry_clearLive ..)
  | unstopped => exact untouched (by rintro ⟨⟩) rfl rfl
  | stopped => exact relived (by rintro ⟨⟩) rfl (ResultBoard.entry_clearLive ..)
  | vacated => exact relived (by rintro ⟨⟩) rfl (ResultBoard.entry_clearLive ..)
  | shutdown => exact untouched (by rintro ⟨⟩) rfl rfl
  | @refreshed now other ticket answer =>
      by_cases same : kind = other
      · subst other
        exact ResultBoard.resultChange_applyRefresh ..
      · refine untouched ?_ rfl (ResultBoard.entry_applyRefresh_of_ne _ _ _ _ same)
        rintro ⟨⟩
        exact same rfl
  | ticked => exact untouched (by rintro ⟨⟩) rfl rfl
  | dropped => exact untouched (by rintro ⟨⟩) rfl rfl
  | progressed => exact relived (by rintro ⟨⟩) rfl (ResultBoard.entry_setLive ..)
  | @completed now n s record payload awaited _ _ =>
      by_cases same : kind = s.kind
      · subst kind
        have entry : ((engine.results.promote now s.kind payload).markStale s.kind).entry s.kind =
            ⟨none, some ⟨s.kind, payload, now, .cached⟩, some now, true,
              (engine.results.entry s.kind).generation + 2⟩ := by
          simp [ResultBoard.markStale, ResultBoard.promote, ResultBoard.generation]
        simp only [Engine.settled, Engine.completed, entry]
        exact .completed
      · refine untouched (by rintro ⟨⟩) ?_ ?_
        · rw [completions_completionEvents, if_neg (Ne.symm same)]
        · exact (ResultBoard.entry_markStale_of_ne _ same).trans
            (ResultBoard.entry_promote_of_ne _ _ _ same)
  | suppressed awaited _ published =>
      rw [coherent.hasPublished_of_awaited awaited] at published
      cases published
  | failed => exact relived (by rintro ⟨⟩) rfl (ResultBoard.entry_clearLive ..)
  | retried => exact untouched (by rintro ⟨⟩) rfl rfl
  | exhausted => exact relived (by rintro ⟨⟩) rfl (ResultBoard.entry_clearLive ..)
  | aborted => exact relived (by rintro ⟨⟩) rfl (ResultBoard.entry_clearLive ..)

end

/-! ## Generations of a run -/

def CompletesAt (settings : EngineSettings) (moves : List Move) (kind : Kind) (payload : Json)
    (index : Nat) : Prop :=
  ∃ move job, moves[index]? = some move ∧
    .jobCompleted kind job payload ∈ ((stateAt settings moves index).perform settings move).events

section

variable {settings : EngineSettings} {moves : List Move} {kind : Kind}

theorem resultChange_stateAt (settings : EngineSettings) {index : Nat} {move : Move}
    (made : moves[index]? = some move) (kind : Kind) :
    ResultChange kind ((stateAt settings moves index).results.entry kind) move
      ((stateAt settings moves index).perform settings move).events
      ((stateAt settings moves (index + 1)).results.entry kind) := by
  rw [stateAt_succ settings made]
  exact (perform_effect _ settings move).resultChange (coherent_stateAt settings moves index) kind

theorem Coherent.generation_perform {engine : Engine} (coherent : engine.Coherent)
    (settings : EngineSettings) (move : Move) (kind : Kind) :
    (engine.perform settings move).engine.results.generation kind =
      engine.results.generation kind +
        2 * completions kind (engine.perform settings move).events :=
  ((perform_effect engine settings move).resultChange coherent kind).generation

theorem CompletesAt.cached {index : Nat} {payload : Json}
    (completes : CompletesAt settings moves kind payload index) :
    ∃ now n, moves[index]? = some (.respond now n (.ok payload)) ∧
      (stateAt settings moves (index + 1)).results.cached? kind =
        some ⟨kind, payload, now, .cached⟩ := by
  obtain ⟨move, job, made, told⟩ := completes
  obtain ⟨now, n, rfl, cached⟩ := (resultChange_stateAt settings made kind).of_completed told
  exact ⟨now, n, made, cached⟩

theorem generation_stateAt_le (settings : EngineSettings) (moves : List Move) (kind : Kind)
    {first last : Nat} (order : first ≤ last) :
    (stateAt settings moves first).results.generation kind ≤
      (stateAt settings moves last).results.generation kind := by
  refine stateAt_between settings (motive := fun engine =>
    (stateAt settings moves first).results.generation kind ≤ engine.results.generation kind)
    order (Nat.le_refl _) ?_
  intro index move _ _ _ below
  rw [(coherent_stateAt settings moves index).generation_perform settings move kind]
  exact Nat.le_trans below (Nat.le_add_right ..)

theorem generation_stateAt_of_uncompleted {first last : Nat} (order : first ≤ last)
    (uncompleted : ∀ index payload, first ≤ index → index < last →
      ¬ CompletesAt settings moves kind payload index) :
    (stateAt settings moves last).results.generation kind =
      (stateAt settings moves first).results.generation kind := by
  refine stateAt_between settings (motive := fun engine => engine.results.generation kind =
    (stateAt settings moves first).results.generation kind) order rfl ?_
  intro index move since below made same
  have silent : completions kind
      ((stateAt settings moves index).perform settings move).events = 0 := by
    refine Nat.eq_zero_of_not_pos fun told => ?_
    obtain ⟨job, payload, member⟩ := completions_pos_iff.mp told
    exact uncompleted index payload since below ⟨move, job, made, member⟩
  rw [(coherent_stateAt settings moves index).generation_perform settings move kind, silent]
  exact same

theorem CompletesAt.generation_lt {first index last : Nat} {payload : Json}
    (completes : CompletesAt settings moves kind payload index) (since : first ≤ index)
    (before : index < last) :
    (stateAt settings moves first).results.generation kind <
      (stateAt settings moves last).results.generation kind := by
  obtain ⟨move, job, made, told⟩ := completes
  have step := (coherent_stateAt settings moves index).generation_perform settings move kind
  rw [← stateAt_succ settings made] at step
  have counted := completions_pos_iff.mpr ⟨job, payload, told⟩
  calc (stateAt settings moves first).results.generation kind
      ≤ (stateAt settings moves index).results.generation kind :=
        generation_stateAt_le settings moves kind since
    _ < (stateAt settings moves (index + 1)).results.generation kind := by omega
    _ ≤ (stateAt settings moves last).results.generation kind :=
        generation_stateAt_le settings moves kind before

theorem generation_after (settings : EngineSettings) {engine : Engine}
    (coherent : engine.Coherent) (kind : Kind) (moves : List Move) :
    (engine.after settings moves).results.generation kind =
      engine.results.generation kind + 2 * completions kind (engine.emitted settings moves) := by
  induction moves generalizing engine with
  | nil => rfl
  | cons move rest ih =>
      rw [after_cons, emitted_cons, completions_append, ih (coherent.perform settings move),
        coherent.generation_perform]
      omega

theorem generation_lt_size (count : Nat)
    (few : completions kind (initial.emitted settings moves) < Nat.pow 2 62) :
    (stateAt settings moves count).results.generation kind < UInt64.size := by
  have generation := generation_after settings coherent_initial kind (moves.take count)
  have told := emitted_append initial settings (moves.take count) (moves.drop count)
  rw [List.take_append_drop] at told
  rw [told, completions_append] at few
  have room : 2 * Nat.pow 2 62 ≤ UInt64.size := by decide
  have begin : initial.results.generation kind = 0 := by cases kind <;> rfl
  rw [stateAt, generation, begin]
  omega

/-! ## Answers of a run -/

variable {asked : Nat → Nat} {answered ticket : Nat} {now : Timestamp} {answer : LastResult}

theorem Asks.not_completesAt {index : Nat} {question : Question}
    (asks : Asks settings moves index question) (payload : Json) :
    ¬ CompletesAt settings moves kind payload index := by
  intro completes
  obtain ⟨now, n, made, _⟩ := completes.cached
  obtain ⟨move, same, asks⟩ := asks
  rw [made] at same
  cases same
  cases asks

theorem Dialogue.current (dialogue : Dialogue settings moves asked)
    (response : moves[answered]? = some (.resume now (.lastResult kind ticket answer)))
    (uncompleted : ∀ index payload, asked answered < index → index < answered →
      ¬ CompletesAt settings moves kind payload index) :
    ((stateAt settings moves answered).results.entry kind).generation = ticket := by
  obtain ⟨order, asks⟩ := dialogue.asks_lastResult response
  rw [← asks.generation]
  refine generation_stateAt_of_uncompleted (Nat.le_of_lt order) ?_
  intro index payload since before
  rcases Nat.eq_or_lt_of_le since with rfl | after
  · exact asks.not_completesAt payload
  · exact uncompleted index payload after before

theorem Dialogue.overtaken (dialogue : Dialogue settings moves asked)
    (response : moves[answered]? = some (.resume now (.lastResult kind ticket answer)))
    {index : Nat} {payload : Json} (since : asked answered < index) (before : index < answered)
    (completes : CompletesAt settings moves kind payload index) :
    ((stateAt settings moves answered).results.entry kind).generation ≠ ticket := by
  obtain ⟨_, asks⟩ := dialogue.asks_lastResult response
  have later := completes.generation_lt (Nat.le_of_lt since) before
  rw [asks.generation] at later
  exact Nat.ne_of_gt later

/-- An answer of the current generation belongs to a request that was made after every completion
of the kind so far. -/
theorem Dialogue.asked_after (dialogue : Dialogue settings moves asked)
    (response : moves[answered]? = some (.resume now (.lastResult kind ticket answer)))
    (current : ((stateAt settings moves answered).results.entry kind).generation = ticket)
    {index : Nat} {payload : Json} (before : index < answered)
    (completes : CompletesAt settings moves kind payload index) : index < asked answered := by
  apply Nat.lt_of_not_le
  intro earlier
  rcases Nat.eq_or_lt_of_le earlier with same | since
  · obtain ⟨_, asks⟩ := dialogue.asks_lastResult response
    rw [same] at asks
    exact asks.not_completesAt payload completes
  · exact dialogue.overtaken response since before completes current

/-- Between two points of a run the cached result stays, if no job of the kind completes and no
answer of its generation brings a payload. -/
theorem cached_stateAt_of_unchanged {first last : Nat} (order : first ≤ last)
    (uncompleted : ∀ index payload, first ≤ index → index < last →
      ¬ CompletesAt settings moves kind payload index)
    (unanswered : ∀ index now payload, first ≤ index → index < last → payload ≠ .null →
      moves[index]? ≠ some (.resume now (.lastResult kind
        ((stateAt settings moves index).results.entry kind).generation (.ok (some payload))))) :
    (stateAt settings moves last).results.cached? kind =
      (stateAt settings moves first).results.cached? kind := by
  refine stateAt_between settings (motive := fun engine => engine.results.cached? kind =
    (stateAt settings moves first).results.cached? kind) order rfl ?_
  intro index move since below made same
  rw [← stateAt_succ settings made]
  obtain kept | ⟨job, payload, told⟩ | ⟨now, payload, present, rfl⟩ :=
    (resultChange_stateAt settings made kind).cached_cases
  · exact kept.trans same
  · exact absurd ⟨move, job, made, told⟩ (uncompleted index payload since below)
  · exact absurd made (unanswered index now payload since below present)

end

/-- An answer to a request for the last result counts exactly if no job of the kind has completed
since the request. So the payload of a completed job stays the cached one until another job of the
kind completes or a request that was made after the completion is answered with a payload. The
generation by which this is told stays within 64 bits. -/
theorem last_result_counts_in_its_generation (settings : EngineSettings) (moves : List Move)
    (asked : Nat → Nat) (dialogue : Dialogue settings moves asked) (kind : Kind) :
    (completions kind (initial.emitted settings moves) < Nat.pow 2 62 →
      ∀ count, (stateAt settings moves count).results.generation kind < UInt64.size) ∧
    (∀ answered now ticket answer,
      moves[answered]? = some (.resume now (.lastResult kind ticket answer)) →
      let before := (stateAt settings moves answered).results.entry kind
      let after := (stateAt settings moves (answered + 1)).results.entry kind
      ((∃ index payload, asked answered < index ∧ index < answered ∧
          CompletesAt settings moves kind payload index) → after = before) ∧
      ((∀ index payload, asked answered < index → index < answered →
          ¬ CompletesAt settings moves kind payload index) →
        (∀ payload, answer = .ok (some payload) → payload ≠ .null →
          after = { before with
            cached := some ⟨kind, payload, now, .cached⟩
            refreshedAt := some now
            stale := false }) ∧
        (answer = .ok none ∨ answer = .ok (some .null) →
          after = { before with refreshedAt := some now, stale := false }) ∧
        (∀ error, answer = .error error → after = before))) ∧
    (∀ completed payload later, CompletesAt settings moves kind payload completed →
      completed < later →
      ((stateAt settings moves later).results.cached? kind).map Snapshot.payload = some payload ∨
      (∃ index other, completed < index ∧ index < later ∧
        CompletesAt settings moves kind other index) ∨
      (∃ answered now ticket other, completed < asked answered ∧ answered < later ∧
        moves[answered]? = some (.resume now (.lastResult kind ticket (.ok (some other)))) ∧
        other ≠ .null)) := by
  refine ⟨fun few count => generation_lt_size count few, ?_, ?_⟩
  · intro answered now ticket answer response before after
    have change := resultChange_stateAt settings response kind
    constructor
    · rintro ⟨index, payload, since, upTo, completes⟩
      exact change.of_overtaken (dialogue.overtaken response since upTo completes)
    · intro uncompleted
      have current := dialogue.current response uncompleted
      refine ⟨?_, change.of_empty current, ?_⟩
      · rintro payload rfl present
        exact change.of_payload current present
      · rintro error rfl
        exact change.of_error
  · intro completed payload later completes order
    obtain ⟨now, n, _, cached⟩ := completes.cached
    by_cases again : ∃ index other, completed < index ∧ index < later ∧
        CompletesAt settings moves kind other index
    · exact .inr (.inl again)
    by_cases refreshed : ∃ answered now ticket other, completed < asked answered ∧
        answered < later ∧
        moves[answered]? = some (.resume now (.lastResult kind ticket (.ok (some other)))) ∧
        other ≠ .null
    · exact .inr (.inr refreshed)
    refine .inl ?_
    rw [cached_stateAt_of_unchanged order, cached]
    · rfl
    · intro index other since before completes
      exact again ⟨index, other, since, before, completes⟩
    · intro index now other since before present response
      have after := dialogue.asked_after response rfl since completes
      exact refreshed ⟨index, now, _, other, after, before, response, present⟩

/-- A request that is answered only after a job has completed, and one that is made after it. -/
def overtakenRefresh : List Move := [
  .begin (.ofMillis 0) (.view .findIssues),
  .begin (.ofMillis 1000) (.track .findIssues ⟨"J1"⟩),
  .tick 1000 0,
  .respond (.ofMillis 2000) 0 (.ok (.obj [("report", .obj [])])),
  .resume (.ofMillis 3000) (.lastResult .findIssues 0 (.ok (some (.str "first")))),
  .begin (.ofMillis 4000) (.view .findIssues),
  .resume (.ofMillis 5000) (.lastResult .findIssues 2 (.ok (some (.str "third"))))]

theorem dialogue_overtakenRefresh :
    Dialogue .standard overtakenRefresh fun answered => if answered = 4 then 0 else 5 := by
  refine dialogue_of_two_answers 4 6 ?_ ?_ (by decide)
  · intro index now answer response
    rcases index with _ | _ | _ | _ | _ | _ | _ | _ <;> cases response
    · exact .inl rfl
    · exact .inr rfl
  · intro index now answer response
    rcases index with _ | _ | _ | _ | _ | _ | _ | _ <;> cases response
    · exact ⟨by decide, _, ⟨_, rfl, by rfl⟩, .lastResult⟩
    · exact ⟨by decide, _, ⟨_, rfl, by rfl⟩, .lastResult⟩

/-- The answer to the first request is dropped, the answer to the second one replaces the payload
of the completed job. -/
theorem last_result_overtaken_by_completion :
    let completed := (stateAt .standard overtakenRefresh 4).results.entry .findIssues
    CompletesAt .standard overtakenRefresh .findIssues (.obj [("report", .obj [])]) 3 ∧
    (stateAt .standard overtakenRefresh 5).results.entry .findIssues = completed ∧
    (stateAt .standard overtakenRefresh 7).results.entry .findIssues = { completed with
      cached := some ⟨.findIssues, .str "third", .ofMillis 5000, .cached⟩
      refreshedAt := some (.ofMillis 5000)
      stale := false } := by
  have completes : CompletesAt .standard overtakenRefresh .findIssues
      (.obj [("report", .obj [])]) 3 :=
    ⟨_, ⟨"J1"⟩, rfl, .tail _ (.tail _ (.tail _ (.head _)))⟩
  obtain ⟨_, answers, _⟩ := last_result_counts_in_its_generation .standard overtakenRefresh _
    dialogue_overtakenRefresh .findIssues
  refine ⟨completes, ?_, ?_⟩
  · exact (answers 4 _ _ _ rfl).1 ⟨3, _, by decide, by decide, completes⟩
  · refine ((answers 6 _ _ _ rfl).2 ?_).1 _ rfl (by simp)
    intro index payload since before
    exact absurd before (Nat.not_lt.mpr since)

/-- Of two answers of one generation the one that comes last is shown, whichever was asked for
first. The payload of the newer request is stored, and it stays until another payload comes; the
answer to the older request, if it comes later, replaces it exactly if it holds a payload. -/
theorem last_arrival_wins (settings : EngineSettings) (moves : List Move) (asked : Nat → Nat)
    (dialogue : Dialogue settings moves asked) (kind : Kind) (first second : Nat)
    (order : first < second)
    (uncompleted : ∀ index payload, first < index →
      ¬ CompletesAt settings moves kind payload index)
    (newer ticket : Nat) (now : Timestamp) (payload : Json) (present : payload ≠ .null)
    (response : moves[newer]? = some (.resume now (.lastResult kind ticket (.ok (some payload)))))
    (isSecond : asked newer = second) :
    let stored : Snapshot := ⟨kind, payload, now, .cached⟩
    (stateAt settings moves (newer + 1)).results.cached? kind = some stored ∧
    (∀ later, newer < later →
      (∀ index now ticket other, newer < index → index < later → other ≠ .null →
        moves[index]? ≠ some (.resume now (.lastResult kind ticket (.ok (some other))))) →
      (stateAt settings moves later).results.cached? kind = some stored) ∧
    (∀ older now ticket answer, newer < older → asked older = first →
      moves[older]? = some (.resume now (.lastResult kind ticket answer)) →
      (∀ other, answer = .ok (some other) → other ≠ .null →
        (stateAt settings moves (older + 1)).results.cached? kind =
          some ⟨kind, other, now, .cached⟩) ∧
      ((answer = .ok none ∨ answer = .ok (some .null) ∨ ∃ error, answer = .error error) →
        (stateAt settings moves (older + 1)).results.cached? kind =
          (stateAt settings moves older).results.cached? kind)) := by
  intro stored
  have applied : (stateAt settings moves (newer + 1)).results.cached? kind = some stored := by
    have current := dialogue.current response fun index payload since _ =>
      uncompleted index payload (Nat.lt_trans order (isSecond ▸ since))
    have change := (resultChange_stateAt settings response kind).of_payload current present
    rw [ResultBoard.cached?, change]
  refine ⟨applied, ?_, ?_⟩
  · intro later after unanswered
    obtain ⟨asking, _⟩ := dialogue.asks_lastResult response
    rw [cached_stateAt_of_unchanged after, applied]
    · intro index payload since _
      exact uncompleted index payload (by omega)
    · intro index now other since before
      exact unanswered index now _ other since before
  · intro older now ticket answer after isFirst response
    have current := dialogue.current response fun index payload since _ =>
      uncompleted index payload (isFirst ▸ since)
    have change := resultChange_stateAt settings response kind
    constructor
    · intro other payload present
      subst payload
      rw [ResultBoard.cached?, change.of_payload current present]
    · intro without
      rcases without with none | null | ⟨error, failed⟩
      · rw [ResultBoard.cached?, change.of_empty current (.inl none)]
        rfl
      · rw [ResultBoard.cached?, change.of_empty current (.inr null)]
        rfl
      · subst failed
        rw [ResultBoard.cached?, change.of_error]
        rfl

/-- Two requests that overlap, the second of which is answered first. -/
def crossedRefreshes : List Move := [
  .begin (.ofMillis 0) (.view .findIssues),
  .begin (.ofMillis 1000) (.view .findIssues),
  .resume (.ofMillis 2000) (.lastResult .findIssues 0 (.ok (some (.str "new")))),
  .resume (.ofMillis 5000) (.lastResult .findIssues 0 (.ok (some (.str "old"))))]

theorem dialogue_crossedRefreshes : Dialogue .standard crossedRefreshes (3 - ·) := by
  refine dialogue_of_two_answers 2 3 ?_ ?_ (by decide)
  · intro index now answer response
    rcases index with _ | _ | _ | _ | _ <;> cases response
    · exact .inl rfl
    · exact .inr rfl
  · intro index now answer response
    rcases index with _ | _ | _ | _ | _ <;> cases response
    · exact ⟨by decide, _, ⟨_, rfl, rfl⟩, .lastResult⟩
    · exact ⟨by decide, _, ⟨_, rfl, rfl⟩, .lastResult⟩

theorem crossedRefreshes_uncompleted (index : Nat) (payload : Json) :
    ¬ CompletesAt .standard crossedRefreshes .findIssues payload index := by
  intro completes
  obtain ⟨now, n, made, _⟩ := completes.cached
  rcases index with _ | _ | _ | _ | _ <;> cases made

/-- The answer to the older request replaces the payload of the newer one, which was stored
before. -/
theorem older_last_result_replaces_newer :
    Dialogue .standard crossedRefreshes (3 - ·) ∧
    Asks .standard crossedRefreshes 0 (.lastResult .findIssues 0) ∧
    Asks .standard crossedRefreshes 1 (.lastResult .findIssues 0) ∧
    (∀ index payload, ¬ CompletesAt .standard crossedRefreshes .findIssues payload index) ∧
    (stateAt .standard crossedRefreshes 3).results.cached? .findIssues =
      some ⟨.findIssues, .str "new", .ofMillis 2000, .cached⟩ ∧
    (stateAt .standard crossedRefreshes 4).results.cached? .findIssues =
      some ⟨.findIssues, .str "old", .ofMillis 5000, .cached⟩ :=
  ⟨dialogue_crossedRefreshes, ⟨_, rfl, rfl⟩, ⟨_, rfl, rfl⟩, crossedRefreshes_uncompleted, rfl, rfl⟩

theorem last_arrival_wins_of_crossed :
    (stateAt .standard crossedRefreshes 3).results.cached? .findIssues =
      some ⟨.findIssues, .str "new", .ofMillis 2000, .cached⟩ ∧
    (stateAt .standard crossedRefreshes 4).results.cached? .findIssues =
      some ⟨.findIssues, .str "old", .ofMillis 5000, .cached⟩ := by
  obtain ⟨stored, _, replaced⟩ := last_arrival_wins .standard crossedRefreshes (3 - ·)
    dialogue_crossedRefreshes .findIssues 0 1 (by decide)
    (fun index payload _ => crossedRefreshes_uncompleted index payload) 2 0 (.ofMillis 2000)
    (.str "new") (by simp) rfl rfl
  exact ⟨stored, (replaced 3 _ _ _ (by decide) rfl rfl).1 (.str "old") rfl (by simp)⟩

end Engine

end JobWatch

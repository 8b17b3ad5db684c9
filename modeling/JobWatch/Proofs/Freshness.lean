import JobWatch.Proofs.Refresh

/-!
# How long a cached result is fresh

A view asks the server for the last result only while no job of the kind is active and the cached
result is not fresh. An answer that counts makes it fresh for the time that the settings give, and
a clock that runs backwards does not shorten that time. A completion makes it stale, and stale it
stays until a request that was made after the completion has its answer: neither a failure nor the
answer to an earlier request makes it fresh.
-/

set_option autoImplicit false

namespace JobWatch

theorem Timestamp.le_elapsedSince_iff {now earlier : Timestamp} {span : Nat}
    (positive : 0 < span) :
    span ≤ now.elapsedSince earlier ↔ earlier.toNanos + span ≤ now.toNanos := by
  unfold elapsedSince
  omega

theorem Store.active?_eq_none_iff_status {store : Store} {kind : Kind} :
    store.active? kind = none ↔ (store.status kind).isActive = false := by
  rw [active?_eq_none_iff, status]
  cases store.get? kind with
  | none => exact ⟨fun _ => rfl, fun _ _ held => nomatch held⟩
  | some record => simp [Record.isActive]

namespace ResultBoard

variable {board : ResultBoard} {now : Timestamp} {ttl : Nat} {kind : Kind}

theorem needsRefresh_of_stale (stale : (board.entry kind).stale = true) (now : Timestamp)
    (ttl : Nat) : board.needsRefresh now ttl kind = true := by
  simp [needsRefresh, stale]

theorem needsRefresh_iff_of_loaded {loadedAt : Timestamp} (lasting : 0 < ttl)
    (fresh : (board.entry kind).stale = false)
    (loaded : (board.entry kind).refreshedAt = some loadedAt) :
    board.needsRefresh now ttl kind = true ↔
      loadedAt.toNanos + (ttl * 1000000 : Nat) ≤ now.toNanos := by
  simp only [needsRefresh, fresh, loaded, Bool.false_or, decide_eq_true_eq]
  exact Timestamp.le_elapsedSince_iff (by omega)

end ResultBoard

namespace ResultChange

variable {kind : Kind} {entry next : ResultEntry} {move : Move} {events : List Event}
  {now : Timestamp}

/-- What changes whether the cached result is fresh: a completion, or an answer of the current
generation that is no failure. -/
theorem freshness_cases (change : ResultChange kind entry move events next) :
    (next.refreshedAt = entry.refreshedAt ∧ next.stale = entry.stale) ∨
    ((∃ job payload, .jobCompleted kind job payload ∈ events) ∧ next.stale = true) ∨
    (∃ now last, move = .resume now (.lastResult kind entry.generation (.ok last))) := by
  cases change with
  | kept => exact .inl ⟨rfl, rfl⟩
  | @completed now n job payload =>
      exact .inr (.inl ⟨⟨job, payload, List.mem_append_right _ (List.mem_singleton.mpr rfl)⟩, rfl⟩)
  | overtaken => exact .inl ⟨rfl, rfl⟩
  | @replaced now payload _ => exact .inr (.inr ⟨now, some payload, rfl⟩)
  | @confirmed now answer empty =>
      rcases empty with absent | null
      · exact .inr (.inr ⟨now, none, by rw [absent]⟩)
      · exact .inr (.inr ⟨now, some .null, by rw [null]⟩)
  | unanswered => exact .inl ⟨rfl, rfl⟩

theorem fresh_of_answer {ticket : Nat} {last : Option Json}
    (change : ResultChange kind entry (.resume now (.lastResult kind ticket (.ok last))) events
      next) (current : entry.generation = ticket) :
    next.refreshedAt = some now ∧ next.stale = false := by
  cases change with
  | kept foreign => exact absurd .answered foreign
  | overtaken different => exact absurd current different
  | replaced => exact ⟨rfl, rfl⟩
  | confirmed => exact ⟨rfl, rfl⟩

theorem stale_of_completed {job : JobId} {payload : Json}
    (change : ResultChange kind entry move events next)
    (told : .jobCompleted kind job payload ∈ events) : next.stale = true := by
  cases change with
  | kept _ silent =>
      have counted := completions_pos_iff.mpr ⟨job, payload, told⟩
      rw [silent] at counted
      cases counted
  | completed => rfl
  | overtaken => cases told
  | replaced => cases told
  | confirmed => cases told
  | unanswered => cases told

end ResultChange

namespace Engine

/-- An answer of a run that makes the cached result of a kind fresh: it is no failure, and no job
of the kind has completed since the request. -/
def RefreshedAt (settings : EngineSettings) (moves : List Move) (asked : Nat → Nat) (kind : Kind)
    (now : Timestamp) (answered : Nat) : Prop :=
  (∃ ticket last, moves[answered]? = some (.resume now (.lastResult kind ticket (.ok last)))) ∧
    ∀ index payload, asked answered < index → index < answered →
      ¬ CompletesAt settings moves kind payload index

section

variable {settings : EngineSettings} {moves : List Move} {asked : Nat → Nat} {kind : Kind}

theorem asks_lastResult_iff {index ticket : Nat} :
    Asks settings moves index (.lastResult kind ticket) ↔
      ∃ now, moves[index]? = some (.begin now (.view kind)) ∧
        (stateAt settings moves index).store.active? kind = none ∧
        (stateAt settings moves index).results.needsRefresh now settings.lastResultTtl kind = true ∧
        (stateAt settings moves index).results.generation kind = ticket := by
  constructor
  · intro asks
    have generation := asks.generation
    obtain ⟨move, made, asks⟩ := asks
    obtain ⟨now, _, _, begun, same, issued⟩ | ⟨_, _, _, _, impossible, _⟩ := asks_cases asks
    · cases same
      unfold refreshTicket? at issued
      split at issued
      · next due =>
          simp only [Bool.and_eq_true, Bool.not_eq_true'] at due
          exact ⟨now, begun ▸ made, Store.active?_eq_none_iff_status.mpr due.1, due.2, generation⟩
      · cases issued
    · cases impossible
  · intro ⟨now, made, idle, due, generation⟩
    have inactive := Store.active?_eq_none_iff_status.mp idle
    refine ⟨_, made, ?_⟩
    simp [perform, begin, refreshTicket?, status, inactive, due, generation, Step.map]

theorem RefreshedAt.entry (dialogue : Dialogue settings moves asked) {now : Timestamp}
    {answered : Nat} (refreshed : RefreshedAt settings moves asked kind now answered) :
    ((stateAt settings moves (answered + 1)).results.entry kind).refreshedAt = some now ∧
      ((stateAt settings moves (answered + 1)).results.entry kind).stale = false := by
  obtain ⟨⟨ticket, last, response⟩, uncompleted⟩ := refreshed
  have current := dialogue.current response uncompleted
  exact (resultChange_stateAt settings response kind).fresh_of_answer current

/-- An answer of the current generation that is no failure makes the cached result fresh. -/
theorem Dialogue.refreshedAt (dialogue : Dialogue settings moves asked) {now : Timestamp}
    {answered : Nat} {last : Option Json}
    (response : moves[answered]? = some (.resume now (.lastResult kind
      ((stateAt settings moves answered).results.entry kind).generation (.ok last)))) :
    RefreshedAt settings moves asked kind now answered := by
  refine ⟨⟨_, last, response⟩, ?_⟩
  intro index payload since before completes
  exact dialogue.overtaken response since before completes rfl

theorem CompletesAt.stale {index : Nat} {payload : Json}
    (completes : CompletesAt settings moves kind payload index) :
    ((stateAt settings moves (index + 1)).results.entry kind).stale = true := by
  obtain ⟨move, job, made, told⟩ := completes
  exact (resultChange_stateAt settings made kind).stale_of_completed told

/-- Between two points of a run the cached result is as fresh as it was, if no job of the kind
completes and no answer makes it fresh again. -/
theorem freshness_stateAt_of_unchanged (dialogue : Dialogue settings moves asked)
    {first last : Nat} (order : first ≤ last)
    (uncompleted : ∀ index payload, first ≤ index → index < last →
      ¬ CompletesAt settings moves kind payload index)
    (unrefreshed : ∀ index now, first ≤ index → index < last →
      ¬ RefreshedAt settings moves asked kind now index) :
    ((stateAt settings moves last).results.entry kind).refreshedAt =
        ((stateAt settings moves first).results.entry kind).refreshedAt ∧
      ((stateAt settings moves last).results.entry kind).stale =
        ((stateAt settings moves first).results.entry kind).stale := by
  refine stateAt_between settings (motive := fun engine =>
    (engine.results.entry kind).refreshedAt = _ ∧ (engine.results.entry kind).stale = _)
    order ⟨rfl, rfl⟩ ?_
  intro index move since below made same
  rw [← stateAt_succ settings made]
  obtain ⟨loaded, stale⟩ | ⟨⟨job, payload, told⟩, _⟩ | ⟨now, answer, rfl⟩ :=
    (resultChange_stateAt settings made kind).freshness_cases
  · exact ⟨loaded.trans same.1, stale.trans same.2⟩
  · exact absurd ⟨move, job, made, told⟩ (uncompleted index payload since below)
  · exact absurd (dialogue.refreshedAt made) (unrefreshed index now since below)

/-- After a completion the cached result is stale until an answer to a later request makes it
fresh. Further completions leave it stale. -/
theorem CompletesAt.stale_until (dialogue : Dialogue settings moves asked) {completed last : Nat}
    {payload : Json} (completes : CompletesAt settings moves kind payload completed)
    (order : completed < last)
    (unrefreshed : ∀ answered now, completed < asked answered → answered < last →
      ¬ RefreshedAt settings moves asked kind now answered) :
    ((stateAt settings moves last).results.entry kind).stale = true := by
  apply stateAt_between settings (motive := fun engine => (engine.results.entry kind).stale = true)
    order completes.stale
  intro index move since below made stale
  rw [← stateAt_succ settings made]
  obtain ⟨_, kept⟩ | ⟨_, again⟩ | ⟨now, answer, rfl⟩ :=
    (resultChange_stateAt settings made kind).freshness_cases
  · exact kept.trans stale
  · exact again
  · have later := dialogue.asked_after made rfl since completes
    exact absurd (dialogue.refreshedAt made) (unrefreshed index now later below)

end

/-- A last result is asked for only while no job of the kind is active. Once an answer that is no
failure has been taken in, the next request comes when its time to live is over, unless another
such answer or a completion comes first. And after a completion every view of an idle kind asks,
until a request that was made after the completion has brought such an answer. -/
theorem last_result_requests_bounded (settings : EngineSettings) (moves : List Move)
    (asked : Nat → Nat) (dialogue : Dialogue settings moves asked)
    (lasting : 0 < settings.lastResultTtl) (kind : Kind) :
    (∀ index ticket, Asks settings moves index (.lastResult kind ticket) →
      (stateAt settings moves index).store.active? kind = none) ∧
    (∀ answered loadedAt index ticket, RefreshedAt settings moves asked kind loadedAt answered →
      answered < index → Asks settings moves index (.lastResult kind ticket) →
      (∃ now, moves[index]? = some (.begin now (.view kind)) ∧
        loadedAt.toNanos + (settings.lastResultTtl * 1000000 : Nat) ≤ now.toNanos) ∨
      (∃ again now, answered < again ∧ again < index ∧
        RefreshedAt settings moves asked kind now again) ∨
      (∃ completed payload, answered < completed ∧ completed < index ∧
        CompletesAt settings moves kind payload completed)) ∧
    (∀ completed payload index now, CompletesAt settings moves kind payload completed →
      completed < index → moves[index]? = some (.begin now (.view kind)) →
      (stateAt settings moves index).store.active? kind = none →
      (∃ ticket, Asks settings moves index (.lastResult kind ticket)) ∨
      (∃ answered loadedAt, completed < asked answered ∧ answered < index ∧
        RefreshedAt settings moves asked kind loadedAt answered)) := by
  refine ⟨?_, ?_, ?_⟩
  · intro index ticket asks
    obtain ⟨_, _, idle, _⟩ := asks_lastResult_iff.mp asks
    exact idle
  · intro answered loadedAt index ticket refreshed order asks
    by_cases again : ∃ again now, answered < again ∧ again < index ∧
        RefreshedAt settings moves asked kind now again
    · exact .inr (.inl again)
    by_cases completed : ∃ completed payload, answered < completed ∧ completed < index ∧
        CompletesAt settings moves kind payload completed
    · exact .inr (.inr completed)
    obtain ⟨now, made, _, due, _⟩ := asks_lastResult_iff.mp asks
    have unchanged := freshness_stateAt_of_unchanged dialogue order
      (fun index payload since before completes =>
        completed ⟨index, payload, since, before, completes⟩)
      (fun index now since before refreshed => again ⟨index, now, since, before, refreshed⟩)
    obtain ⟨loaded, fresh⟩ := refreshed.entry dialogue
    rw [loaded, fresh] at unchanged
    refine .inl ⟨now, made, ?_⟩
    exact (ResultBoard.needsRefresh_iff_of_loaded lasting unchanged.2 unchanged.1).mp due
  · intro completed payload index now completes order made idle
    by_cases refreshed : ∃ answered loadedAt, completed < asked answered ∧ answered < index ∧
        RefreshedAt settings moves asked kind loadedAt answered
    · exact .inr refreshed
    have stale := completes.stale_until dialogue order fun answered loadedAt later before fresh =>
      refreshed ⟨answered, loadedAt, later, before, fresh⟩
    refine .inl ⟨_, asks_lastResult_iff.mpr ⟨now, made, idle, ?_, rfl⟩⟩
    exact ResultBoard.needsRefresh_of_stale stale now settings.lastResultTtl

/-- The answer of `overtakenRefresh` lasts for five minutes: a view just before they are over asks
nothing, the one after it asks. -/
def agedRefresh : List Move := overtakenRefresh ++ [
  .begin (.ofMillis 304999) (.view .findIssues),
  .begin (.ofMillis 305000) (.view .findIssues)]

theorem dialogue_agedRefresh :
    Dialogue .standard agedRefresh fun answered => if answered = 4 then 0 else 5 := by
  refine dialogue_of_two_answers 4 6 ?_ ?_ (by decide)
  · intro index now answer response
    rcases index with _ | _ | _ | _ | _ | _ | _ | _ | _ | _ <;> cases response
    · exact .inl rfl
    · exact .inr rfl
  · intro index now answer response
    rcases index with _ | _ | _ | _ | _ | _ | _ | _ | _ | _ <;> cases response
    · exact ⟨by decide, _, ⟨_, rfl, by rfl⟩, .lastResult⟩
    · exact ⟨by decide, _, ⟨_, rfl, by rfl⟩, .lastResult⟩

theorem requests_of_agedRefresh :
    (∃ ticket, Asks .standard agedRefresh 5 (.lastResult .findIssues ticket)) ∧
    ¬ (∃ ticket, Asks .standard agedRefresh 7 (.lastResult .findIssues ticket)) ∧
    Asks .standard agedRefresh 8 (.lastResult .findIssues 2) := by
  obtain ⟨_, early, stale⟩ := last_result_requests_bounded .standard agedRefresh _
    dialogue_agedRefresh (by decide) .findIssues
  have completes : CompletesAt .standard agedRefresh .findIssues (.obj [("report", .obj [])]) 3 :=
    ⟨_, ⟨"J1"⟩, rfl, .tail _ (.tail _ (.tail _ (.head _)))⟩
  have refreshed : RefreshedAt .standard agedRefresh (fun answered => if answered = 4 then 0 else 5)
      .findIssues (.ofMillis 5000) 6 :=
    ⟨⟨2, _, rfl⟩, fun index _ since before => absurd before (Nat.not_lt.mpr since)⟩
  refine ⟨?_, ?_, ⟨_, rfl, by rfl⟩⟩
  · rcases stale 3 _ 5 _ completes (by decide) rfl rfl with
      asks | ⟨answered, _, later, before, ⟨_, _, response⟩, _⟩
    · exact asks
    · obtain ⟨earlier, _⟩ := dialogue_agedRefresh.asks_lastResult response
      split at later
      · cases later
      · next other =>
          rw [if_neg other] at earlier
          exact absurd before (Nat.not_lt.mpr (Nat.le_of_lt earlier))
  · intro ⟨ticket, asks⟩
    rcases early 6 _ 7 ticket refreshed (by decide) asks with
      ⟨now, made, due⟩ | ⟨again, _, after, before, _⟩ | ⟨completed, _, after, before, _⟩
    · cases made
      exact absurd due (by decide)
    · exact absurd before (Nat.not_lt.mpr after)
    · exact absurd before (Nat.not_lt.mpr after)

end Engine

end JobWatch

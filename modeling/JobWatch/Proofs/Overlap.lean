import JobWatch.Proofs.Ending

/-!
# Fetches that overlap

The loop of a session has one fetch under way at a time. A fetch that is under way when its session
is cancelled runs to its end, and when a job has been stopped or reset, the next session of the kind
may fetch before that. There is no other way for two fetches of a kind to overlap.
-/

set_option autoImplicit false

namespace JobWatch

/-- A move that frees the slot of a kind on demand. -/
inductive Move.Frees (kind : Kind) : Move → Prop where
  | stop {now} : Frees kind (.begin now (.stop kind))
  | reset {now} : Frees kind (.begin now (.reset kind))

namespace Engine

section

variable {settings : EngineSettings} {engine later : Engine} {move : Move} {events : List Event}
  {kind : Kind} {n : Nat} {s : Session}

/-! ## What a move can do to sessions and jobs -/

theorem Effect.length_sessions (effect : Effect settings engine move later events) :
    later.poller.sessions.length = engine.poller.sessions.length ∨
      ∃ kind id, Begins settings engine move kind id ∧
        later.poller = engine.poller.attach kind id := by
  have settled : ∀ (m : Nat) (verdict : Verdict),
      (engine.poller.settle m verdict).sessions.length = engine.poller.sessions.length :=
    fun _ _ => List.length_modify ..
  have detached : ∀ (poller : Poller) (kind : Kind),
      (poller.detach kind).2.sessions.length = poller.sessions.length :=
    fun poller kind => poller.length_cancelAttached kind
  cases effect with
  | idle => exact .inl rfl
  | @opened _ now kind id tracks free => exact .inr ⟨kind, id, begins_of_tracks tracks free, rfl⟩
  | unstopped => exact .inl (detached ..)
  | stopped => exact .inl (detached ..)
  | vacated => exact .inl (detached ..)
  | shutdown => exact .inl ((detached ..).trans (detached ..))
  | refreshed => exact .inl rfl
  | @ticked time m =>
      left
      obtain ⟨_, same⟩ | ⟨_, _, _, _, _, same⟩ | ⟨_, _, _, _, _, _, _, same⟩ :=
        engine.poller.tick_cases settings.pollInterval time m engine.store.isCurrent <;>
        simp [tick, same, Poller.setPhase, Poller.modifySession]
  | dropped => exact .inl (settled ..)
  | progressed => exact .inl (settled ..)
  | completed => exact .inl (settled ..)
  | suppressed => exact .inl (settled ..)
  | failed => exact .inl (settled ..)
  | retried => exact .inl (settled ..)
  | exhausted => exact .inl (settled ..)
  | aborted => exact .inl (settled ..)

theorem Effect.session_origin (effect : Effect settings engine move later events)
    (found : later.poller.session? n = some s) :
    (∃ t, engine.poller.session? n = some t ∧ t.Succeeds s) ∨
      ∃ id, Begins settings engine move s.kind id := by
  cases before : engine.poller.session? n with
  | some t =>
      obtain ⟨u, same, succeeds⟩ := effect.grows n t before
      rw [found] at same
      cases same
      exact .inl ⟨t, rfl, succeeds⟩
  | none =>
      have above : engine.poller.sessions.length ≤ n := List.getElem?_eq_none_iff.mp before
      have below := Poller.session?_eq_some_lt found
      obtain same | ⟨kind, id, begins, attached⟩ := effect.length_sessions
      · omega
      · have last : n = engine.poller.sessions.length := by
          simp only [attached, Poller.attach, List.length_append, Poller.length_cancelAttached,
            List.length_singleton] at below
          omega
        rw [attached, last, Poller.session?_attach_self] at found
        cases found
        exact .inr ⟨id, begins⟩

theorem not_begins_of_active {record : Record} (held : engine.store.get? kind = some record)
    (active : record.isActive = true) (id : JobId) : ¬ Begins settings engine move kind id := by
  intro begins
  obtain ⟨free, _⟩ := begins_iff.mp begins
  rw [Store.active?_eq_none_iff.mp free record held] at active
  cases active

/-- A job stays active unless it is stopped or reset or a response that counts for it comes. -/
theorem active_perform {record : Record} (held : engine.store.get? kind = some record)
    (active : record.isActive = true) (unfreed : ¬ move.Frees kind)
    (uncounted : ∀ now m outcome t record, move = .respond now m outcome →
      engine.Awaited m t record → t.kind ≠ kind) :
    (engine.perform settings move).engine.store.get? kind = some record := by
  -- The end of all polling ends sessions too, but it leaves the store as it is.
  by_cases same : (engine.perform settings move).engine.store = engine.store
  · rw [same]
    exact held
  have spares : Spares kind engine (engine.perform settings move).engine
      (engine.perform settings move).events := by
    refine (perform_effect engine settings move).spares ?_ ?_ ?_
    · intro ends
      cases ends with
      | stop => exact unfreed .stop
      | reset => exact unfreed .reset
      | shutdown => exact same rfl
      | replaced begins => exact not_begins_of_active held active _ begins
    · intro refreshes
      cases refreshes
      exact same rfl
    · intro m t other own awaited
      cases move with
      | respond now k outcome =>
          have same : k = m := by simpa [Move.isOf] using own
          exact uncounted now m outcome t other (same ▸ rfl) awaited
      | tick time k => exact absurd rfl same
      | begin => cases own
      | resume => cases own
      | shutdown => cases own
  exact spares.slot.trans held

/-- The job of a kind is active, and of the sessions of the kind only one can be uncancelled. -/
structure Sole (engine : Engine) (kind : Kind) (n : Nat) : Prop where
  active : ∃ record, engine.store.get? kind = some record ∧ record.isActive = true
  only : ∀ m t, engine.poller.session? m = some t → t.kind = kind → t.cancelled = false → m = n

theorem Sole.perform (sole : engine.Sole kind n) (unfreed : ¬ move.Frees kind)
    (unanswered : ∀ now outcome, move ≠ .respond now n outcome) :
    (engine.perform settings move).engine.Sole kind n := by
  obtain ⟨record, held, active⟩ := sole.active
  constructor
  · refine ⟨record, active_perform held active unfreed ?_, active⟩
    intro now m outcome t other made awaited ofKind
    have same := sole.only m t awaited.session ofKind awaited.uncancelled
    exact unanswered now outcome (same ▸ made)
  · intro m t found ofKind uncancelled
    obtain ⟨earlier, before, succeeds⟩ | ⟨id, begins⟩ :=
      (perform_effect engine settings move).session_origin found
    · refine sole.only m earlier before (succeeds.kind.symm.trans ofKind) ?_
      cases ended : earlier.cancelled with
      | false => rfl
      | true => exact absurd (succeeds.cancelled ended) (by simp [uncancelled])
    · rw [ofKind] at begins
      exact absurd begins (not_begins_of_active held active id)

/-! ## Fetches under way -/

theorem fetching_of_fetch? {time : Nat} {job : JobId}
    (fetched : engine.fetch? settings kind (.tick time n) = some (time, job)) :
    ∃ s due, engine.poller.session? n = some s ∧ s.kind = kind ∧ s.cancelled = false ∧
      s.due? time ≠ none ∧
      (engine.perform settings (.tick time n)).engine.poller.session? n =
        some { s with phase := .fetching due } := by
  obtain ⟨_, s, _, same, found, ofKind, uncancelled, _⟩ := fetch?_eq_some fetched
  cases same
  obtain ⟨_, ticked⟩ | ⟨_, _, _, _, _, ticked⟩ | ⟨t, due, held, awaited, _, _, _, ticked⟩ :=
    engine.poller.tick_cases settings.pollInterval time n engine.store.isCurrent
  · simp [fetch?, Engine.perform, tick, ticked, Upshot.fetched?] at fetched
  · simp [fetch?, Engine.perform, tick, ticked, Upshot.fetched?] at fetched
  · rw [found] at held
    cases held
    refine ⟨s, Cadence.next settings.pollInterval due time, found, ofKind, uncancelled,
      by simp [awaited], ?_⟩
    simp only [Engine.perform, tick, ticked, Poller.session?_setPhase, if_pos, found,
      Option.map_some]

/-- A session whose fetch is under way is left alone until the response comes or it is ended. -/
theorem fetching_perform (coherent : engine.Coherent) (found : engine.poller.session? n = some s)
    {due : Nat} (fetching : s.phase = .fetching due)
    (unended : ¬ Ends settings engine s.kind move)
    (unanswered : ∀ now outcome, move ≠ .respond now n outcome) :
    (engine.perform settings move).engine.poller.session? n = some s := by
  cases own : move.isOf n with
  | false => exact (perform_effect engine settings move).keeps_session coherent found unended own
  | true =>
      cases move with
      | tick time m =>
          have same : m = n := by simpa [Move.isOf] using own
          have idle : s.due? time = none := by simp [Session.due?, fetching]
          simp [Engine.perform, tick, Poller.tick, same, found, idle]
      | respond now m outcome =>
          have same : m = n := by simpa [Move.isOf] using own
          exact absurd (same ▸ rfl) (unanswered now outcome)
      | begin => cases own
      | resume => cases own
      | shutdown => cases own

end

def FetchesAt (settings : EngineSettings) (moves : List Move) (kind : Kind) (n index : Nat) :
    Prop :=
  ∃ time job, moves[index]? = some (.tick time n) ∧
    (stateAt settings moves index).fetch? settings kind (.tick time n) = some (time, job)

/-- A fetch that was begun earlier in a run and has no response up to some point. -/
structure Outstanding (settings : EngineSettings) (moves : List Move) (kind : Kind)
    (n issued index : Nat) : Prop where
  fetch : FetchesAt settings moves kind n issued
  order : issued < index
  unanswered : ∀ between now outcome, issued < between → between < index →
    moves[between]? ≠ some (.respond now n outcome)

section

variable {settings : EngineSettings} {moves : List Move} {kind : Kind} {n issued index : Nat}

theorem FetchesAt.session (fetches : FetchesAt settings moves kind n index) :
    ∃ s, (stateAt settings moves index).poller.session? n = some s ∧ s.kind = kind ∧
      s.cancelled = false ∧ ∀ due, s.phase ≠ .fetching due := by
  obtain ⟨time, job, _, fetched⟩ := fetches
  obtain ⟨s, _, found, ofKind, uncancelled, awaited, _⟩ := fetching_of_fetch? fetched
  refine ⟨s, found, ofKind, uncancelled, ?_⟩
  intro due fetching
  exact awaited (by simp [Session.due?, fetching])

theorem FetchesAt.fetching (fetches : FetchesAt settings moves kind n index) :
    ∃ s due, (stateAt settings moves (index + 1)).poller.session? n = some s ∧ s.kind = kind ∧
      s.cancelled = false ∧ s.phase = .fetching due := by
  obtain ⟨time, job, made, fetched⟩ := fetches
  obtain ⟨s, due, _, ofKind, uncancelled, _, fetching⟩ := fetching_of_fetch? fetched
  rw [← stateAt_succ settings made] at fetching
  exact ⟨_, due, fetching, ofKind, uncancelled, rfl⟩

theorem FetchesAt.sole (fetches : FetchesAt settings moves kind n index) :
    (stateAt settings moves (index + 1)).Sole kind n := by
  have coherent := coherent_stateAt settings moves (index + 1)
  obtain ⟨s, _, found, ofKind, uncancelled, _⟩ := fetches.fetching
  constructor
  · obtain ⟨time, job, made, fetched⟩ := fetches
    obtain ⟨_, _, record, _, _, _, _, held, active⟩ := fetch?_eq_some fetched
    rw [stateAt_succ settings made]
    exact ⟨record, held, active⟩
  · intro m t other sameKind running
    exact coherent.poller.unique other found (sameKind.trans ofKind.symm) running uncancelled

/-- Whatever ends the sessions of the kind during a fetch cancels the session of the fetch. -/
theorem Outstanding.cancelled (outstanding : Outstanding settings moves kind n issued index)
    {ended : Nat} {move : Move} (since : issued < ended) (before : ended < index)
    (made : moves[ended]? = some move)
    (ends : Ends settings (stateAt settings moves ended) kind move) :
    ∃ s, (stateAt settings moves index).poller.session? n = some s ∧ s.cancelled = true := by
  obtain ⟨s, _, found, ofKind, _⟩ := outstanding.fetch.fetching
  obtain ⟨t, running, succeeds⟩ := grows_stateAt settings moves since n s found
  rw [← ofKind, ← succeeds.kind] at ends
  obtain ⟨u, still, cancelled⟩ := ends.cancelled (coherent_stateAt settings moves ended) running
  rw [← stateAt_succ settings made] at still
  obtain ⟨v, kept, succeeds⟩ := grows_stateAt settings moves before n u still
  exact ⟨v, kept, succeeds.cancelled cancelled⟩

/-- Within one session the next fetch is begun only when the fetch before it has its response. -/
theorem Outstanding.not_fetchesAt (outstanding : Outstanding settings moves kind n issued index) :
    ¬ FetchesAt settings moves kind n index := by
  intro fetches
  obtain ⟨s, due, found, ofKind, _, fetching⟩ := outstanding.fetch.fetching
  obtain ⟨t, atIndex, _, uncancelled, idle⟩ := fetches.session
  -- A session that fetches is uncancelled, so nothing has ended it since the fetch before.
  have unended : ∀ between move, issued < between → between < index →
      moves[between]? = some move → ¬ Ends settings (stateAt settings moves between) kind move := by
    intro between move since before made ends
    obtain ⟨u, same, cancelled⟩ := outstanding.cancelled since before made ends
    rw [atIndex] at same
    cases same
    rw [uncancelled] at cancelled
    cases cancelled
  have still : (stateAt settings moves index).poller.session? n = some s := by
    refine stateAt_between settings (motive := fun engine => engine.poller.session? n = some s)
      outstanding.order found ?_
    intro between move since before made found
    refine fetching_perform (coherent_stateAt settings moves between) found fetching ?_ ?_
    · rw [ofKind]
      exact unended between move since before made
    · rintro now outcome rfl
      exact outstanding.unanswered between now outcome since before made
  rw [atIndex] at still
  cases still
  exact idle due fetching

theorem Outstanding.sole (outstanding : Outstanding settings moves kind n issued index)
    (unfreed : ∀ between move, issued < between → between < index →
      moves[between]? = some move → ¬ move.Frees kind) :
    (stateAt settings moves index).Sole kind n := by
  refine stateAt_between settings (motive := fun engine => engine.Sole kind n)
    outstanding.order outstanding.fetch.sole ?_
  intro between move since before made sole
  refine sole.perform (unfreed between move since before made) ?_
  rintro now outcome rfl
  exact outstanding.unanswered between now outcome since before made

end

/-- A fetch of a kind that is begun while another one is outstanding belongs to another session.
The job of the outstanding one was stopped or reset in between, and its session is cancelled, so
that its response, whenever it comes, settles the fetch and does nothing else. -/
theorem overlap_only_after_stop_or_reset (settings : EngineSettings) (moves : List Move)
    (kind : Kind) (m n issued index : Nat)
    (outstanding : Outstanding settings moves kind m issued index)
    (fetches : FetchesAt settings moves kind n index) :
    m ≠ n ∧
    (∃ ended move, issued < ended ∧ ended < index ∧ moves[ended]? = some move ∧
      move.Frees kind) ∧
    ∀ later now outcome, index ≤ later →
      let engine := stateAt settings moves later
      let step := engine.perform settings (.respond now m outcome)
      step.engine = engine.settled m .stop ∧ step.events = [] := by
  have different : m ≠ n := by
    rintro rfl
    exact outstanding.not_fetchesAt fetches
  obtain ⟨t, running, ofKind, uncancelled, _⟩ := fetches.session
  refine ⟨different, ?_, ?_⟩
  · apply Classical.byContradiction
    intro unfreed
    have sole := outstanding.sole fun between move since before made frees =>
      unfreed ⟨between, move, since, before, made, frees⟩
    exact different (sole.only n t running ofKind uncancelled).symm
  · intro later now outcome order
    obtain ⟨s, _, found, sameKind, _⟩ := outstanding.fetch.fetching
    obtain ⟨u, atIndex, early⟩ := grows_stateAt settings moves outstanding.order m s found
    have cancelled : u.cancelled = true := by
      apply eq_true_of_ne_false
      intro unended
      have kinds : u.kind = t.kind := early.kind.trans (sameKind.trans ofKind.symm)
      exact different ((coherent_stateAt settings moves index).poller.unique atIndex running kinds
        unended uncancelled)
    obtain ⟨v, still, late⟩ := grows_stateAt settings moves order m u atIndex
    exact respond_of_cancelled still (late.cancelled cancelled) settings now outcome

/-- A job is reset while its first fetch is under way, and the next job is tracked. -/
def replacedDuringFetch : List Move := [
  .begin (.ofMillis 0) (.track .findIssues ⟨"J1"⟩),
  .tick 0 0,
  .begin (.ofMillis 0) (.reset .findIssues),
  .begin (.ofMillis 0) (.track .findIssues ⟨"J2"⟩),
  .tick 0 1]

theorem outstanding_replacedDuringFetch :
    Outstanding .standard replacedDuringFetch .findIssues 0 1 4 := by
  refine ⟨⟨0, ⟨"J1"⟩, rfl, rfl⟩, by decide, ?_⟩
  intro between now outcome _ _ response
  rcases between with _ | _ | _ | _ | _ | _ <;> cases response

theorem fetches_overlap_after_reset :
    Outstanding .standard replacedDuringFetch .findIssues 0 1 4 ∧
    FetchesAt .standard replacedDuringFetch .findIssues 1 4 ∧
    (stateAt .standard replacedDuringFetch 5).poller.fetchesUnderWay = 2 :=
  ⟨outstanding_replacedDuringFetch, ⟨0, ⟨"J2"⟩, rfl, rfl⟩, rfl⟩

theorem overlap_of_replaced_job :
    ∃ ended move, 1 < ended ∧ ended < 4 ∧ replacedDuringFetch[ended]? = some move ∧
      move.Frees .findIssues :=
  (overlap_only_after_stop_or_reset .standard replacedDuringFetch .findIssues 0 1 1 4
    outstanding_replacedDuringFetch ⟨0, ⟨"J2"⟩, rfl, rfl⟩).2.1

end Engine

end JobWatch

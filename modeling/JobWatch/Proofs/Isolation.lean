import JobWatch.Proofs.Coherence

/-!
# Isolation of sessions

Every job that is taken up is polled in a session of its own. A session that was ended by a stop,
a reset, the end of all polling or a later session of its kind stays ended: its loop fetches
nothing more, and the response to a fetch that was under way is dropped, also when the job tracked
by then has the same name. So the responses that count for a kind count in the order of their
fetches.
-/

set_option autoImplicit false

namespace JobWatch

namespace Engine

/-! ## The beginning and the end of sessions -/

/-- A move that begins to track a job of a kind, and with it a session. -/
def Begins (settings : EngineSettings) (engine : Engine) (move : Move) (kind : Kind)
    (id : JobId) : Prop :=
  ∃ record, (engine.perform settings move).reply.tracked? = some record ∧
    record.kind = kind ∧ record.id = id

/-- A move that ends the sessions of a kind from outside. -/
inductive Ends (settings : EngineSettings) (engine : Engine) (kind : Kind) : Move → Prop where
  | stop {now} : Ends settings engine kind (.begin now (.stop kind))
  | reset {now} : Ends settings engine kind (.begin now (.reset kind))
  | shutdown : Ends settings engine kind .shutdown
  | replaced {move id} : Begins settings engine move kind id → Ends settings engine kind move

section

variable {settings : EngineSettings} {engine : Engine} {move : Move} {kind : Kind} {id : JobId}

theorem perform_of_tracks (settings : EngineSettings) (engine : Engine) {now : Timestamp}
    (tracks : move.Tracks now kind id) :
    ∃ wrap : Except EngineError Record → Upshot,
      engine.perform settings move = (engine.track now kind id).map wrap ∧
      ∀ result, (wrap result).tracked? = result.toOption := by
  cases tracks with
  | directly =>
      refine ⟨fun result => .progress (.replied (.tracked result)), rfl, ?_⟩
      intro result
      cases result <;> rfl
  | started named =>
      refine ⟨fun result => .reply (.tracked result), ?_, ?_⟩
      · simp [perform, resume, startAnswered, Option.filter, named, Step.map]
      · intro result
        cases result <;> rfl

theorem tracks_of_tracked? {record : Record}
    (tracked : (engine.perform settings move).reply.tracked? = some record) :
    ∃ now kind id, move.Tracks now kind id := by
  cases move with
  | begin now action =>
      cases action with
      | track kind id => exact ⟨now, kind, id, .directly⟩
      | view kind =>
          simp only [perform, begin, Step.map] at tracked
          split at tracked <;> cases tracked
      | start kind request =>
          simp only [perform, begin, Step.map] at tracked
          split at tracked <;> cases tracked
      | stop kind => cases tracked
      | reset kind => cases tracked
  | resume now answer =>
      cases answer with
      | lastResult kind ticket answer => cases tracked
      | start kind answer =>
          rcases answer with source | ⟨_ | named⟩
          · cases tracked
          · cases tracked
          · cases blank : (Text.trim named.text).isEmpty with
            | false => exact ⟨now, kind, named, .started blank⟩
            | true =>
                simp [perform, resume, startAnswered, Option.filter, blank, Step.map,
                  Upshot.tracked?] at tracked
  | shutdown => cases tracked
  | tick time n => cases tracked
  | respond now n outcome => cases tracked

theorem begins_of_tracks {now : Timestamp} {id : JobId} (tracks : move.Tracks now kind id)
    (free : engine.store.active? kind = none) : Begins settings engine move kind id := by
  obtain ⟨wrap, performed, reply⟩ := perform_of_tracks settings engine tracks
  refine ⟨.start now kind id, ?_, rfl, rfl⟩
  rw [performed, track_of_free engine now id free]
  exact reply _

/-- A session begins when a job is asked for and no job of its kind is active, and then the
engine has taken the job up and tells so. -/
theorem begins_iff : Begins settings engine move kind id ↔
    engine.store.active? kind = none ∧ ∃ now, move.Tracks now kind id ∧
      (engine.perform settings move).engine = engine.opened now kind id ∧
      (engine.perform settings move).events = [.jobStarted kind id] := by
  constructor
  · rintro ⟨record, tracked, ofKind, named⟩
    obtain ⟨now, asked, job, tracks⟩ := tracks_of_tracked? tracked
    obtain ⟨wrap, performed, reply⟩ := perform_of_tracks settings engine tracks
    cases found : engine.store.active? asked with
    | some other =>
        rw [performed, track_of_active engine now job found] at tracked
        simp [Step.map, reply, Except.toOption] at tracked
    | none =>
        rw [performed, track_of_free engine now job found] at tracked ⊢
        simp only [Step.map, reply, Except.toOption, Option.some.injEq] at tracked
        subst tracked
        cases ofKind
        cases named
        exact ⟨found, now, tracks, rfl, rfl⟩
  · rintro ⟨free, now, tracks, _, _⟩
    exact begins_of_tracks tracks free

end

/-! ## What has ended stays ended -/

theorem Effect.grows {settings : EngineSettings} {engine later : Engine} {move : Move}
    {events : List Event} (effect : Effect settings engine move later events) :
    engine.poller.Grows later.poller := by
  cases effect with
  | idle => exact .refl _
  | opened => exact engine.poller.grows_attach _ _
  | unstopped => exact engine.poller.grows_detach _
  | stopped => exact engine.poller.grows_detach _
  | vacated => exact engine.poller.grows_detach _
  | shutdown => exact engine.poller.grows_detachAll
  | refreshed => exact .refl _
  | ticked => exact engine.poller.grows_tick _ _ _ _
  | dropped => exact engine.poller.grows_settle _ _
  | progressed => exact engine.poller.grows_settle _ _
  | completed => exact engine.poller.grows_settle _ _
  | suppressed => exact engine.poller.grows_settle _ _
  | failed => exact engine.poller.grows_settle _ _
  | retried => exact engine.poller.grows_settle _ _
  | exhausted => exact engine.poller.grows_settle _ _
  | aborted => exact engine.poller.grows_settle _ _

/-- Along a run no session disappears, and none that has ended begins again. -/
theorem grows_stateAt (settings : EngineSettings) (moves : List Move) {first last : Nat}
    (order : first ≤ last) :
    (stateAt settings moves first).poller.Grows (stateAt settings moves last).poller := by
  rw [stateAt_later settings moves order]
  exact @after_related _ settings (fun earlier later => earlier.poller.Grows later.poller)
    (fun engine => .refl engine.poller) (fun early late => early.trans late)
    (fun engine move => (perform_effect engine settings move).grows) _

theorem coherent_stateAt (settings : EngineSettings) (moves : List Move) (count : Nat) :
    (stateAt settings moves count).Coherent :=
  coherent_after settings (moves.take count)

section

variable {settings : EngineSettings} {engine : Engine} {n : Nat} {s : Session}

theorem poller_stop (engine : Engine) (now : Timestamp) (kind : Kind) :
    (engine.stop now kind).engine.poller = (engine.poller.detach kind).2 := by
  simp only [stop]
  split <;> rfl

private theorem cancelled_after_detach {poller : Poller} (coherent : poller.Coherent)
    (found : poller.session? n = some s) :
    ∃ t, (poller.cancelAttached s.kind).session? n = some t ∧ t.cancelled = true := by
  obtain ⟨t, still, succeeds⟩ := poller.grows_cancelAttached s.kind n s found
  exact ⟨t, still, coherent.cancelled_cancelAttached still succeeds.kind⟩

theorem Ends.cancelled {move : Move} (ends : Ends settings engine s.kind move)
    (coherent : engine.Coherent) (found : engine.poller.session? n = some s) :
    ∃ t, (engine.perform settings move).engine.poller.session? n = some t ∧
      t.cancelled = true := by
  have detached := cancelled_after_detach coherent.poller found
  cases ends with
  | @stop now =>
      have same : (engine.perform settings (.begin now (.stop s.kind))).engine.poller =
          (engine.poller.detach s.kind).2 := poller_stop engine now s.kind
      rw [same]
      exact detached
  | reset => exact detached
  | shutdown =>
      obtain ⟨t, still, succeeds⟩ := engine.poller.grows_detachAll n s found
      refine ⟨t, still, ?_⟩
      -- Whatever is uncancelled is attached to its kind, and nothing is attached any more.
      cases uncancelled : t.cancelled with
      | true => rfl
      | false =>
          have attached := coherent.poller.detachAll.owned n t still uncancelled
          rw [Poller.attached_detachAll] at attached
          cases attached
  | replaced begins =>
      obtain ⟨_, now, _, opened, _⟩ := begins_iff.mp begins
      rw [opened]
      simp only [Engine.opened]
      rw [Poller.session?_attach_of_ne _ _ _ (Nat.ne_of_lt (Poller.session?_eq_some_lt found))]
      exact detached

variable (found : engine.poller.session? n = some s) (cancelled : s.cancelled = true)

include found cancelled

theorem awaits_of_cancelled : engine.poller.awaits n engine.store.isCurrent = none := by
  simp [Poller.awaits, found, Option.filter, cancelled]

/-- The response to a fetch of a cancelled session settles the fetch and does nothing else. -/
theorem respond_of_cancelled (settings : EngineSettings) (now : Timestamp)
    (outcome : FetchOutcome) :
    (engine.perform settings (.respond now n outcome)).engine = engine.settled n .stop ∧
      (engine.perform settings (.respond now n outcome)).events = [] := by
  simp [perform, respond, awaits_of_cancelled found cancelled, Step.map, settled]

theorem tick_of_cancelled (time : Nat) :
    (engine.perform settings (.tick time n)).reply.fetched? = none := by
  obtain ⟨_, same⟩ | ⟨_, _, _, _, _, same⟩ | ⟨t, _, held, _, uncancelled, _⟩ :=
    engine.poller.tick_cases settings.pollInterval time n engine.store.isCurrent
  · simp [perform, tick, same, Upshot.fetched?]
  · simp [perform, tick, same, Upshot.fetched?]
  · rw [found] at held
    cases held
    rw [cancelled] at uncancelled
    cases uncancelled

end

/-! ## Sessions of a run -/

/-- A session of a run: the move that began it, and its number. -/
structure Opened (settings : EngineSettings) (moves : List Move) (opened n : Nat) (kind : Kind)
    (id : JobId) : Prop where
  begins : ∃ move, moves[opened]? = some move ∧
    Begins settings (stateAt settings moves opened) move kind id
  number : (stateAt settings moves opened).poller.sessions.length = n

/-- A fetch in a run and the response to it, which is the next one of its session, and which
counts for its kind: it is awaited when it comes. -/
structure Exchange (settings : EngineSettings) (moves : List Move) (kind : Kind)
    (n issued answered : Nat) : Prop where
  fetch : ∃ time job, moves[issued]? = some (.tick time n) ∧
    ((stateAt settings moves issued).perform settings (.tick time n)).reply.fetched? = some job
  response : ∃ now outcome, moves[answered]? = some (.respond now n outcome)
  order : issued < answered
  next : ∀ index now outcome, issued < index → index < answered →
    moves[index]? ≠ some (.respond now n outcome)
  counts : ∃ s, s.kind = kind ∧ (stateAt settings moves answered).poller.awaits n
    (stateAt settings moves answered).store.isCurrent = some s

section

variable {settings : EngineSettings} {moves : List Move} {kind : Kind} {id : JobId} {n : Nat}

theorem Opened.session? {opened : Nat} (session : Opened settings moves opened n kind id) :
    (stateAt settings moves (opened + 1)).poller.session? n = some ⟨kind, id, false, .spawned⟩ := by
  obtain ⟨move, made, begins⟩ := session.begins
  obtain ⟨_, now, _, performed, _⟩ := begins_iff.mp begins
  rw [stateAt_succ settings made, performed, ← session.number]
  exact Poller.session?_attach_self ..

theorem Opened.cancelled {opened ended index : Nat}
    (session : Opened settings moves opened n kind id) (order : opened < ended) {move : Move}
    (made : moves[ended]? = some move)
    (ends : Ends settings (stateAt settings moves ended) kind move) (later : ended < index) :
    ∃ s, (stateAt settings moves index).poller.session? n = some s ∧ s.cancelled = true := by
  obtain ⟨s, found, succeeds⟩ := grows_stateAt settings moves order n _ session.session?
  have ofKind : s.kind = kind := succeeds.kind
  subst ofKind
  obtain ⟨t, still, cancelled⟩ := ends.cancelled (coherent_stateAt settings moves ended) found
  rw [← stateAt_succ settings made] at still
  obtain ⟨u, kept, succeeds⟩ := grows_stateAt settings moves later n t still
  exact ⟨u, kept, succeeds.cancelled cancelled⟩

theorem Exchange.session? {issued answered : Nat}
    (exchange : Exchange settings moves kind n issued answered) :
    ∃ s, (stateAt settings moves issued).poller.session? n = some s := by
  obtain ⟨time, job, _, fetched⟩ := exchange.fetch
  cases found : (stateAt settings moves issued).poller.session? n with
  | some s => exact ⟨s, rfl⟩
  | none => simp [perform, tick, Poller.tick, found, Upshot.fetched?] at fetched

/-- From its fetch to the response that counts, a session is uncancelled and so attached. -/
theorem Exchange.attached {issued answered : Nat}
    (exchange : Exchange settings moves kind n issued answered) {index : Nat}
    (since : issued ≤ index) (upTo : index ≤ answered) :
    (stateAt settings moves index).poller.attached.get kind = some n := by
  obtain ⟨s, found⟩ := exchange.session?
  obtain ⟨t, between, _⟩ := grows_stateAt settings moves since n s found
  obtain ⟨u, atEnd, succeeds⟩ := grows_stateAt settings moves upTo n t between
  obtain ⟨v, ofKind, counts⟩ := exchange.counts
  obtain ⟨record, awaited⟩ := awaits_eq_some_iff.mp counts
  have same := awaited.session
  rw [atEnd] at same
  cases same
  have uncancelled : t.cancelled = false := by
    cases cancelled : t.cancelled with
    | false => rfl
    | true =>
        have late := awaited.uncancelled
        rw [succeeds.cancelled cancelled] at late
        cases late
  have owned := (coherent_stateAt settings moves index).poller.owned n t between uncancelled
  rwa [← succeeds.kind, ofKind] at owned

theorem Exchange.in_order {m issued answered issued' answered' : Nat}
    (first : Exchange settings moves kind m issued answered)
    (second : Exchange settings moves kind n issued' answered') (order : answered < answered') :
    issued < issued' := by
  rcases Nat.lt_or_ge issued issued' with done | overtaken
  · exact done
  have early : issued' < answered := Nat.lt_of_le_of_lt overtaken first.order
  -- Both sessions are attached when the first response comes, so they are one session, and then
  -- the first response answers the second fetch.
  have theirs := second.attached (Nat.le_of_lt early) (Nat.le_of_lt order)
  rw [first.attached (Nat.le_of_lt first.order) (Nat.le_refl _)] at theirs
  cases theirs
  obtain ⟨now, outcome, made⟩ := first.response
  exact absurd made (second.next answered now outcome early order)

end

/-- A session has no effect beyond its end: when a session of a kind was ended by a stop, a reset,
the end of all polling or a later session of the kind, every response that comes for it leaves
records, results and completion marks as they are and tells subscribers nothing, and its loop
fetches nothing. So responses that count for a kind count in the order of their fetches. -/
theorem sessions_isolated (settings : EngineSettings) (moves : List Move) (kind : Kind) :
    (∀ id opened ended n ending, Opened settings moves opened n kind id → opened < ended →
      moves[ended]? = some ending → Ends settings (stateAt settings moves ended) kind ending →
      ∀ index, ended < index →
        (∀ now outcome, moves[index]? = some (.respond now n outcome) →
          (stateAt settings moves (index + 1)).store = (stateAt settings moves index).store ∧
          (stateAt settings moves (index + 1)).results = (stateAt settings moves index).results ∧
          (stateAt settings moves (index + 1)).bus = (stateAt settings moves index).bus ∧
          ((stateAt settings moves index).perform settings (.respond now n outcome)).events = []) ∧
        (∀ time, moves[index]? = some (.tick time n) →
          ((stateAt settings moves index).perform settings (.tick time n)).reply.fetched? =
            none)) ∧
    (∀ m n issued answered issued' answered', Exchange settings moves kind m issued answered →
      Exchange settings moves kind n issued' answered' → answered < answered' →
      issued < issued') := by
  refine ⟨?_, fun _ _ _ _ _ _ => Exchange.in_order⟩
  intro id opened ended n ending session order made ends index later
  obtain ⟨s, found, cancelled⟩ := session.cancelled order made ends later
  constructor
  · intro now outcome response
    obtain ⟨settled, silent⟩ := respond_of_cancelled found cancelled settings now outcome
    rw [stateAt_succ settings response, settled]
    exact ⟨rfl, rfl, rfl, silent⟩
  · intro time _
    exact tick_of_cancelled found cancelled time

/-- A job is reset while its fetch is under way and tracked again under the same name: the first
response, which reports completion, changes nothing, and the next two count in order. -/
theorem sessions_isolated_of_retracked_job :
    let moves : List Move := [.begin (.ofMillis 0) (.track .findIssues ⟨"J1"⟩), .tick 0 0,
      .begin (.ofMillis 1) (.reset .findIssues), .begin (.ofMillis 2) (.track .findIssues ⟨"J1"⟩),
      .respond (.ofMillis 3) 0 (.ok (.obj [("report", .obj [])])),
      .tick 4 1, .respond (.ofMillis 5) 1 (.ok .null), .tick 10000 1,
      .respond (.ofMillis 10001) 1 (.ok (.obj [("report", .obj [])]))]
    Opened .standard moves 0 0 .findIssues ⟨"J1"⟩ ∧
    Ends .standard (stateAt .standard moves 2) .findIssues
      (.begin (.ofMillis 1) (.reset .findIssues)) ∧
    (stateAt .standard moves 5).store = (stateAt .standard moves 4).store ∧
    Exchange .standard moves .findIssues 1 5 6 ∧ Exchange .standard moves .findIssues 1 7 8 := by
  intro moves
  have opened : Opened .standard moves 0 0 .findIssues ⟨"J1"⟩ :=
    ⟨⟨_, rfl, .start (.ofMillis 0) .findIssues ⟨"J1"⟩, rfl, rfl, rfl⟩, rfl⟩
  have ends : Ends .standard (stateAt .standard moves 2) .findIssues
      (.begin (.ofMillis 1) (.reset .findIssues)) := .reset
  have between : ∀ {first index : Nat}, first < index → index < first + 1 → False := by
    intro first index above below
    exact Nat.not_le.mpr below above
  have isolated := sessions_isolated .standard moves .findIssues
  refine ⟨opened, ends, ?_, ?_, ?_⟩
  · exact ((isolated.1 _ 0 2 0 _ opened (by decide) rfl ends 4 (by decide)).1 _ _ rfl).1
  · exact ⟨⟨4, ⟨"J1"⟩, rfl, by rfl⟩, ⟨_, _, rfl⟩, by decide,
      fun _ _ _ above below => (between above below).elim, ⟨_, rfl, by rfl⟩⟩
  · exact ⟨⟨10000, ⟨"J1"⟩, rfl, by rfl⟩, ⟨_, _, rfl⟩, by decide,
      fun _ _ _ above below => (between above below).elim, ⟨_, rfl, by rfl⟩⟩

end Engine

end JobWatch

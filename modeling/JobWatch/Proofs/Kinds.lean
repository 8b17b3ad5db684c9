import JobWatch.Proofs.Dialogue
import JobWatch.Proofs.Projection

/-!
# Kinds do not interfere

From a run one can delete every move that concerns only the other kind. Nothing changes for the
kind that is left: the run that remains can happen if the whole one can, and at each of its points
the kind stands as it does in the whole run.

Sessions are numbered in the order in which they begin, so the sessions that remain get new
numbers. All else, clock readings and what the server says, stays as it is.
-/

set_option autoImplicit false

namespace JobWatch

def Question.kind : Question → Kind
  | .start kind _ => kind
  | .lastResult kind _ => kind

def Question.isOf (kind : Kind) (question : Question) : Bool := question.kind = kind

theorem Answer.Fits.kind {answer : Answer} {question : Question} (fits : answer.Fits question) :
    question.kind = answer.kind := by
  cases fits <;> rfl

def Upshot.question? : Upshot → Option Question
  | .progress (.asks question) => some question
  | _ => none

/-- An event of a kind: of the lifecycle of its jobs, or with a cache key that only its jobs make
stale. The key of the whole history belongs to both kinds. -/
def Event.isOf (kind : Kind) : Event → Bool
  | .cacheInvalidated key =>
    key = Invalidation.lastResultKey kind || key = Invalidation.historyPartitionKey kind
  | event => event.kind? = some kind

theorem Event.isOf_of_kind? {event : Event} {kind other : Kind}
    (about : event.kind? = some other) (different : kind ≠ other) : event.isOf kind = false := by
  cases event with
  | cacheInvalidated key => cases about
  | _ =>
      cases about
      exact decide_eq_false fun same => different (Option.some.inj same).symm

theorem Event.isOf_of_key {kind other : Kind} (different : kind ≠ other) :
    ∀ key ∈ Invalidation.keys other, (Event.cacheInvalidated key).isOf kind = false := by
  revert different
  cases kind <;> cases other <;> decide

namespace Engine

/-! ## Deleting the other kind -/

/-- Whether a move concerns a kind. A tick and a response concern the kind of their session, and
the end of all polling concerns both kinds. -/
def concerns (engine : Engine) (kind : Kind) : Move → Bool
  | .begin _ action => action.kind = kind
  | .resume _ answer => answer.kind = kind
  | .shutdown => true
  | .tick _ n => (engine.poller.session? n).any (Session.isOf kind)
  | .respond _ n _ => (engine.poller.session? n).any (Session.isOf kind)

/-- A move with the number that its session has among those of the kind. -/
def renumbered (engine : Engine) (kind : Kind) : Move → Move
  | .tick time n => .tick time (engine.poller.rank kind n)
  | .respond now n outcome => .respond now (engine.poller.rank kind n) outcome
  | move => move

/-- What is left of a run when every move that does not concern a kind is deleted. -/
def restrict (engine : Engine) (settings : EngineSettings) (kind : Kind) : List Move → List Move
  | [] => []
  | move :: rest =>
    let left := (engine.perform settings move).engine.restrict settings kind rest
    if engine.concerns kind move then engine.renumbered kind move :: left else left

section

variable {settings : EngineSettings} {engine : Engine} {move : Move} {kind : Kind}

theorem restrict_of_concerns (concerned : engine.concerns kind move = true) (rest : List Move) :
    engine.restrict settings kind (move :: rest) = engine.renumbered kind move ::
      (engine.perform settings move).engine.restrict settings kind rest := by
  rw [restrict, if_pos concerned]

theorem restrict_of_foreign (foreign : engine.concerns kind move = false) (rest : List Move) :
    engine.restrict settings kind (move :: rest) =
      (engine.perform settings move).engine.restrict settings kind rest := by
  rw [restrict, if_neg (Bool.eq_false_iff.mp foreign)]

theorem restrict_append (engine : Engine) (earlier later : List Move) :
    engine.restrict settings kind (earlier ++ later) = engine.restrict settings kind earlier ++
      (engine.after settings earlier).restrict settings kind later := by
  induction earlier generalizing engine with
  | nil => rfl
  | cons move rest ih =>
      rw [List.cons_append, after_cons]
      cases concerned : engine.concerns kind move with
      | true =>
          rw [restrict_of_concerns concerned, restrict_of_concerns concerned, ih, List.cons_append]
      | false => rw [restrict_of_foreign concerned, restrict_of_foreign concerned, ih]

private theorem begin_only (coherent : engine.Coherent) (now : Timestamp) {action : Action}
    (ofKind : action.kind = kind) :
    (engine.only kind).begin settings now action =
      (engine.begin settings now action).only kind := by
  subst kind
  cases action with
  | view kind =>
      simp only [begin, Action.kind, refreshTicket?_only, view_only]
      split <;> rfl
  | start kind request =>
      simp only [begin, Action.kind, startRefusal?_only]
      split <;> rfl
  | track kind id =>
      simp only [begin, Action.kind, track_only coherent.poller]
      rfl
  | stop kind =>
      simp only [begin, Action.kind, stop_only coherent.poller]
      rfl
  | reset kind =>
      simp only [begin, Action.kind, reset_only coherent.poller]
      rfl

private theorem resume_only (coherent : engine.Coherent) (now : Timestamp) {answer : Answer}
    (ofKind : answer.kind = kind) :
    (engine.only kind).resume now answer = (engine.resume now answer).only kind := by
  subst kind
  cases answer with
  | start kind answer =>
      simp only [resume, Answer.kind, startAnswered_only coherent.poller]
      rfl
  | lastResult kind ticket answer =>
      simp only [resume, Answer.kind, ← only_refreshed, view_only]
      rfl

/-- A move that concerns a kind does to the part of the kind what it does to the whole engine, and
it tells and replies the same. -/
theorem perform_only (coherent : engine.Coherent) (concerned : engine.concerns kind move = true) :
    (engine.only kind).perform settings (engine.renumbered kind move) =
      (engine.perform settings move).only kind := by
  cases move with
  | begin now action =>
      simp only [concerns, decide_eq_true_eq] at concerned
      simp only [perform, renumbered, begin_only coherent now concerned]
      rfl
  | resume now answer =>
      simp only [concerns, decide_eq_true_eq] at concerned
      simp only [perform, renumbered, resume_only coherent now concerned]
      rfl
  | shutdown => simp only [perform, renumbered, Step.only, only_shutdown coherent.poller]
  | tick time n =>
      obtain ⟨s, found, ofKind⟩ := (Option.any_eq_true ..).mp concerned
      simp only [perform, renumbered, tick_only found (Session.isOf_iff.mp ofKind)]
      rfl
  | respond now n outcome =>
      obtain ⟨s, found, ofKind⟩ := (Option.any_eq_true ..).mp concerned
      simp only [perform, renumbered, respond_only found (Session.isOf_iff.mp ofKind)]
      rfl

theorem concerns_of_tracks {now : Timestamp} {other : Kind} {id : JobId}
    (tracks : move.Tracks now other id) : engine.concerns kind move = decide (other = kind) := by
  cases tracks <;> rfl

theorem isOf_completionEvents {other : Kind} (different : kind ≠ other) (id : JobId)
    (payload : Json) : ∀ event ∈ completionEvents other id payload, event.isOf kind = false := by
  intro event member
  rw [completionEvents, List.mem_append, List.mem_map, List.mem_singleton] at member
  rcases member with ⟨key, published, rfl⟩ | rfl
  · exact Event.isOf_of_key different key published
  · exact Event.isOf_of_kind? rfl different

theorem only_congr {later : Engine} (store : later.store.only kind = engine.store.only kind)
    (results : later.results.only kind = engine.results.only kind)
    (bus : later.bus.only kind = engine.bus.only kind)
    (poller : later.poller.only kind = engine.poller.only kind) :
    later.only kind = engine.only kind := by
  rw [only, store, results, bus, poller, only]

theorem Effect.foreign {later : Engine} {events : List Event}
    (effect : Effect settings engine move later events) (coherent : engine.Coherent)
    (foreign : engine.concerns kind move = false) :
    later.only kind = engine.only kind ∧ ∀ event ∈ events, event.isOf kind = false := by
  have silence : ∀ event ∈ ([] : List Event), event.isOf kind = false := by simp
  have silent_of_ne : ∀ {other : Kind} {event : Event}, event.kind? = some other →
      kind ≠ other → ∀ told ∈ [event], told.isOf kind = false := by
    intro other event about different told member
    rw [List.mem_singleton.mp member]
    exact Event.isOf_of_kind? about different
  have session : ∀ {n : Nat}, (engine.poller.session? n).any (Session.isOf kind) = false →
      ∀ s, engine.poller.session? n = some s → s.kind ≠ kind := by
    intro n absent s found ofKind
    rw [found, Option.any_some, Session.isOf_iff.mpr ofKind] at absent
    cases absent
  cases effect with
  | idle => exact ⟨rfl, silence⟩
  | @opened _ now other id tracks _ =>
      have different : kind ≠ other := by
        rw [concerns_of_tracks tracks, decide_eq_false_iff_not] at foreign
        exact Ne.symm foreign
      refine ⟨only_congr (Store.only_put_of_ne _ _ different) ?_
        (InvalidationBus.only_mark_of_ne _ _ different)
        (coherent.poller.only_attach_of_ne different id), silent_of_ne rfl different⟩
      exact ResultBoard.only_congr (ResultBoard.entry_clearLive_of_ne _ different)
  | @unstopped _ other _ =>
      have different : kind ≠ other := Ne.symm (of_decide_eq_false foreign)
      exact ⟨only_congr rfl rfl rfl (coherent.poller.only_detach_of_ne different), silence⟩
  | @stopped _ other record _ _ =>
      have different : kind ≠ other := Ne.symm (of_decide_eq_false foreign)
      refine ⟨only_congr (Store.only_put_of_ne _ _ different) ?_ rfl
        (coherent.poller.only_detach_of_ne different), silent_of_ne rfl different⟩
      exact ResultBoard.only_congr (ResultBoard.entry_clearLive_of_ne _ different)
  | @vacated _ other =>
      have different : kind ≠ other := Ne.symm (of_decide_eq_false foreign)
      refine ⟨only_congr (Store.only_clear_of_ne _ different) ?_ rfl
        (coherent.poller.only_detach_of_ne different), silence⟩
      exact ResultBoard.only_congr (ResultBoard.entry_clearLive_of_ne _ different)
  | shutdown => cases foreign
  | @refreshed _ other _ _ =>
      have different : kind ≠ other := Ne.symm (of_decide_eq_false foreign)
      refine ⟨only_congr rfl ?_ rfl rfl, silence⟩
      exact ResultBoard.only_congr (ResultBoard.entry_applyRefresh_of_ne _ _ _ _ different)
  | ticked =>
      exact ⟨only_congr rfl rfl rfl (Poller.only_tick_of_ne (session foreign) ..), silence⟩
  | dropped =>
      exact ⟨only_congr rfl rfl rfl (Poller.only_settle_of_ne (session foreign) _), silence⟩
  | progressed awaited _ =>
      have different := Ne.symm (session foreign _ awaited.session)
      refine ⟨only_congr (Store.only_put_of_ne _ _ different) ?_ rfl
        (Poller.only_settle_of_ne (session foreign) _), silence⟩
      exact ResultBoard.only_congr (ResultBoard.entry_setLive_of_ne _ _ _ different)
  | completed awaited _ _ =>
      have different := Ne.symm (session foreign _ awaited.session)
      refine ⟨only_congr (Store.only_clear_of_ne _ different) ?_
        (InvalidationBus.only_mark_of_ne _ _ different)
        (Poller.only_settle_of_ne (session foreign) _), isOf_completionEvents different _ _⟩
      exact ResultBoard.only_congr ((ResultBoard.entry_markStale_of_ne _ different).trans
        (ResultBoard.entry_promote_of_ne _ _ _ different))
  | suppressed awaited _ _ =>
      have different := Ne.symm (session foreign _ awaited.session)
      refine ⟨only_congr (Store.only_clear_of_ne _ different) ?_ rfl
        (Poller.only_settle_of_ne (session foreign) _), silence⟩
      exact ResultBoard.only_congr (ResultBoard.entry_promote_of_ne _ _ _ different)
  | failed awaited _ =>
      have different := Ne.symm (session foreign _ awaited.session)
      refine ⟨only_congr (Store.only_put_of_ne _ _ different) ?_ rfl
        (Poller.only_settle_of_ne (session foreign) _), silent_of_ne rfl different⟩
      exact ResultBoard.only_congr (ResultBoard.entry_clearLive_of_ne _ different)
  | retried awaited _ _ =>
      have different := Ne.symm (session foreign _ awaited.session)
      exact ⟨only_congr (Store.only_put_of_ne _ _ different) rfl rfl
        (Poller.only_settle_of_ne (session foreign) _), silence⟩
  | exhausted awaited _ _ =>
      have different := Ne.symm (session foreign _ awaited.session)
      refine ⟨only_congr (Store.only_clear_of_ne _ different) ?_ rfl
        (Poller.only_settle_of_ne (session foreign) _), silent_of_ne rfl different⟩
      exact ResultBoard.only_congr (ResultBoard.entry_clearLive_of_ne _ different)
  | aborted awaited _ =>
      have different := Ne.symm (session foreign _ awaited.session)
      refine ⟨only_congr (Store.only_put_of_ne _ _ different) ?_ rfl
        (Poller.only_settle_of_ne (session foreign) _), silent_of_ne rfl different⟩
      exact ResultBoard.only_congr (ResultBoard.entry_clearLive_of_ne _ different)

/-- A move that does not concern a kind leaves its part of the engine as it is and tells nothing
of it. -/
theorem perform_foreign (settings : EngineSettings) (coherent : engine.Coherent)
    (foreign : engine.concerns kind move = false) :
    (engine.perform settings move).engine.only kind = engine.only kind ∧
      ∀ event ∈ (engine.perform settings move).events, event.isOf kind = false :=
  (perform_effect engine settings move).foreign coherent foreign

/-! ## Runs -/

theorem after_restrict (coherent : engine.Coherent) (moves : List Move) :
    (engine.only kind).after settings (engine.restrict settings kind moves) =
      (engine.after settings moves).only kind := by
  induction moves generalizing engine with
  | nil => rfl
  | cons move rest ih =>
      have next := ih (coherent.perform settings move)
      cases concerned : engine.concerns kind move with
      | true =>
          rw [restrict_of_concerns concerned, after_cons, perform_only coherent concerned]
          exact next
      | false =>
          rw [restrict_of_foreign concerned,
            ← (perform_foreign settings coherent concerned).1]
          exact next

/-- The engine that a run of one kind alone leads to is the part of that kind. -/
theorem after_restrict_initial (settings : EngineSettings) (moves : List Move) (kind : Kind) :
    initial.after settings (initial.restrict settings kind moves) =
      (initial.after settings moves).only kind := by
  have alone := @after_restrict settings initial kind coherent_initial moves
  rwa [only_initial] at alone

/-- How two engines agree on a kind. -/
structure AgreeOn (kind : Kind) (engine alone : Engine) : Prop where
  record : alone.record? kind = engine.record? kind
  live : alone.results.live? kind = engine.results.live? kind
  cached : alone.results.cached? kind = engine.results.cached? kind
  refreshedAt : (alone.results.entry kind).refreshedAt = (engine.results.entry kind).refreshedAt
  stale : (alone.results.entry kind).stale = (engine.results.entry kind).stale
  published : alone.bus.lastCompleted.get kind = engine.bus.lastCompleted.get kind
  polling : alone.isPolling kind = engine.isPolling kind

theorem agreeOn_only (coherent : engine.Coherent) (kind : Kind) :
    AgreeOn kind engine (engine.only kind) := by
  have results : (engine.only kind).results.entry kind = engine.results.entry kind :=
    ResultBoard.entry_only ..
  exact {
    record := Store.get?_only ..
    live := congrArg ResultEntry.live results
    cached := congrArg ResultEntry.cached results
    refreshedAt := congrArg ResultEntry.refreshedAt results
    stale := congrArg ResultEntry.stale results
    published := InvalidationBus.lastCompleted_only ..
    polling := Poller.isPolling_only coherent.poller kind }

end

/-! ## Runs that can happen -/

/-- The runs that can happen, from an engine at a time and with the questions that the server has
still to answer. A question is answered once. A loop takes a tick when it waits for one that is
due, or when its session is cancelled, and it gets a response when its fetch is under way; time
does not run backwards. -/
inductive Possible (settings : EngineSettings) :
    Engine → Nat → List Question → List Move → Prop where
  | nil {engine time pending} : Possible settings engine time pending []
  | begin {engine time pending now action rest} :
      Possible settings (engine.perform settings (.begin now action)).engine time
        (pending ++ (engine.perform settings (.begin now action)).reply.question?.toList) rest →
      Possible settings engine time pending (.begin now action :: rest)
  | resume {engine time front question back now answer rest} : answer.Fits question →
      Possible settings (engine.perform settings (.resume now answer)).engine time (front ++ back)
        rest →
      Possible settings engine time (front ++ question :: back) (.resume now answer :: rest)
  | shutdown {engine time pending rest} :
      Possible settings (engine.perform settings .shutdown).engine time pending rest →
      Possible settings engine time pending (.shutdown :: rest)
  | tick {engine time pending later n s due rest} : engine.poller.session? n = some s →
      s.due? later = some due → due ≤ later ∨ s.cancelled = true → time ≤ later →
      Possible settings (engine.perform settings (.tick later n)).engine later pending rest →
      Possible settings engine time pending (.tick later n :: rest)
  | respond {engine time pending now n s due outcome rest} : engine.poller.session? n = some s →
      s.phase = .fetching due →
      Possible settings (engine.perform settings (.respond now n outcome)).engine time pending
        rest →
      Possible settings engine time pending (.respond now n outcome :: rest)

section

variable {settings : EngineSettings} {engine : Engine} {kind : Kind}

/-- A question is asked on behalf of the kind of its action. -/
theorem isOf_question? {now : Timestamp} {action : Action} {question : Question}
    (asked : (engine.perform settings (.begin now action)).reply.question? = some question) :
    question.isOf kind = engine.concerns kind (.begin now action) := by
  have asks : (engine.perform settings (.begin now action)).reply = .progress (.asks question) := by
    unfold Upshot.question? at asked
    split at asked
    · next same => rw [same, Option.some.inj asked]
    · cases asked
  obtain ⟨_, _, _, same, rfl, _⟩ | ⟨_, _, _, same, rfl, _⟩ := asks_cases asks
  · cases same
    rfl
  · cases same
    rfl

theorem filter_question? (now : Timestamp) (action : Action) :
    (engine.perform settings (.begin now action)).reply.question?.toList.filter
        (Question.isOf kind) =
      if engine.concerns kind (.begin now action) then
        (engine.perform settings (.begin now action)).reply.question?.toList
      else [] := by
  cases asked : (engine.perform settings (.begin now action)).reply.question? with
  | none => simp
  | some question => simp [List.filter_cons, isOf_question? asked]

/-- A run that can happen can happen without the other kind. What was asked of the server on
behalf of the other kind is not asked, and the clock may stand further back. -/
theorem Possible.restrict {time : Nat} {pending : List Question} {moves : List Move}
    (possible : Possible settings engine time pending moves) (coherent : engine.Coherent)
    (kind : Kind) {start : Nat} (early : start ≤ time) :
    Possible settings (engine.only kind) start (pending.filter (Question.isOf kind))
      (engine.restrict settings kind moves) := by
  -- A move that is kept is made by the part of the kind; one that is deleted leaves it alone.
  have kept : ∀ {engine : Engine} {move : Move}, engine.Coherent →
      engine.concerns kind move = true →
      ((engine.only kind).perform settings (engine.renumbered kind move)).engine =
        (engine.perform settings move).engine.only kind := by
    intro engine move coherent concerned
    rw [perform_only coherent concerned, Step.only]
  have skipped : ∀ {engine : Engine} {move : Move} {rest : List Move} {start : Nat}
      {pending : List Question}, engine.Coherent → engine.concerns kind move = false →
      Possible settings ((engine.perform settings move).engine.only kind) start pending
        ((engine.perform settings move).engine.restrict settings kind rest) →
      Possible settings (engine.only kind) start pending
        (engine.restrict settings kind (move :: rest)) := by
    intro engine move rest start pending coherent foreign possible
    rw [restrict_of_foreign foreign, ← (perform_foreign settings coherent foreign).1]
    exact possible
  induction possible generalizing start with
  | nil => exact .nil
  | @begin engine time pending now action rest _ ih =>
      have rest := ih (coherent.perform settings _) early
      rw [List.filter_append, filter_question?] at rest
      cases concerned : engine.concerns kind (.begin now action) with
      | true =>
          have same := @perform_only settings engine (.begin now action) kind coherent concerned
          simp only [renumbered] at same
          rw [if_pos concerned] at rest
          rw [restrict_of_concerns concerned]
          refine .begin ?_
          rw [same]
          exact rest
      | false =>
          rw [if_neg (Bool.eq_false_iff.mp concerned), List.append_nil] at rest
          exact skipped coherent concerned rest
  | @resume engine time front question back now answer rest fits _ ih =>
      have rest := ih (coherent.perform settings _) early
      rw [List.filter_append] at rest ⊢
      have same : question.isOf kind = engine.concerns kind (.resume now answer) := by
        rw [Question.isOf, fits.kind, concerns]
      cases concerned : engine.concerns kind (.resume now answer) with
      | true =>
          rw [concerned] at same
          rw [restrict_of_concerns concerned, List.filter_cons_of_pos same]
          exact .resume fits (kept coherent concerned ▸ rest)
      | false =>
          rw [concerned] at same
          rw [List.filter_cons_of_neg (Bool.eq_false_iff.mp same)]
          exact skipped coherent concerned rest
  | @shutdown engine time pending rest _ ih =>
      have rest := ih (coherent.perform settings _) early
      rw [restrict_of_concerns rfl]
      exact .shutdown (@kept engine .shutdown coherent rfl ▸ rest)
  | @tick engine time pending later n s due rest found awaited ready forward _ ih =>
      cases concerned : engine.concerns kind (.tick later n) with
      | true =>
          have rest := ih (coherent.perform settings _) (Nat.le_refl later)
          have ofKind : s.kind = kind := by
            simpa [concerns, found, Session.isOf] using concerned
          rw [restrict_of_concerns concerned]
          exact .tick (Poller.session?_only found ofKind) awaited ready
            (Nat.le_trans early forward) (kept coherent concerned ▸ rest)
      | false =>
          have rest := ih (coherent.perform settings _) (Nat.le_trans early forward)
          exact skipped coherent concerned rest
  | @respond engine time pending now n s due outcome rest found fetching _ ih =>
      have rest := ih (coherent.perform settings _) early
      cases concerned : engine.concerns kind (.respond now n outcome) with
      | true =>
          have ofKind : s.kind = kind := by
            simpa [concerns, found, Session.isOf] using concerned
          rw [restrict_of_concerns concerned]
          exact .respond (Poller.session?_only found ofKind) fetching
            (kept coherent concerned ▸ rest)
      | false => exact skipped coherent concerned rest

end

/-- Kinds do not interfere. When every move that concerns only the other kind is deleted from a
run, the run that remains can happen if the whole one can. Each point of the run has its point in
what remains, and there the records, results, completion marks and polling of the kind are the
same. A move that remains tells the same events, with the cache keys among them, and gives the same
reply; a move that is deleted told nothing of the kind. -/
theorem kinds_do_not_interfere (settings : EngineSettings) (moves : List Move) (kind : Kind) :
    let remaining := initial.restrict settings kind
    (Possible settings initial 0 [] moves → Possible settings initial 0 [] (remaining moves)) ∧
    ∀ count,
      let engine := stateAt settings moves count
      let before := remaining (moves.take count)
      let alone := initial.after settings before
      before <+: remaining moves ∧ AgreeOn kind engine alone ∧
      ∀ move, moves[count]? = some move →
        (engine.concerns kind move = true →
          remaining (moves.take (count + 1)) = before ++ [engine.renumbered kind move] ∧
          (alone.perform settings (engine.renumbered kind move)).events =
            (engine.perform settings move).events ∧
          (alone.perform settings (engine.renumbered kind move)).reply =
            (engine.perform settings move).reply) ∧
        (engine.concerns kind move = false →
          remaining (moves.take (count + 1)) = before ∧
          ∀ event ∈ (engine.perform settings move).events, event.isOf kind = false) := by
  intro remaining
  constructor
  · intro possible
    have restricted := possible.restrict coherent_initial kind (Nat.le_refl 0)
    rwa [only_initial] at restricted
  intro count engine before alone
  have coherent : engine.Coherent := coherent_stateAt settings moves count
  have part : alone = engine.only kind := after_restrict_initial settings (moves.take count) kind
  refine ⟨?_, part ▸ agreeOn_only coherent kind, ?_⟩
  · have split := @restrict_append settings kind initial (moves.take count) (moves.drop count)
    rw [List.take_append_drop] at split
    exact ⟨_, split.symm⟩
  · intro move made
    have next : remaining (moves.take (count + 1)) =
        before ++ engine.restrict settings kind [move] := by
      rw [List.take_add_one, made]
      exact restrict_append ..
    constructor
    · intro concerned
      rw [next, restrict_of_concerns concerned, part, perform_only coherent concerned]
      exact ⟨rfl, rfl, rfl⟩
    · intro foreign
      rw [next, restrict_of_foreign foreign]
      exact ⟨List.append_nil _, (perform_foreign settings coherent foreign).2⟩

/-- Jobs of both kinds complete in turn, and then both results are asked for. -/
def interleavedKinds : List Move := [
  .begin (.ofMillis 0) (.track .catalogAi ⟨"C1"⟩),
  .begin (.ofMillis 1) (.track .findIssues ⟨"J1"⟩),
  .tick 2 0, .tick 3 1,
  .respond (.ofMillis 4) 0 (.ok (.obj [("report", .obj [])])),
  .respond (.ofMillis 5) 1 (.ok (.obj [("report", .obj [])])),
  .begin (.ofMillis 6) (.view .catalogAi),
  .begin (.ofMillis 7) (.view .findIssues),
  .resume (.ofMillis 8) (.lastResult .findIssues 2 (.ok none))]

/-- Without the other kind, the session of the job has the first number. -/
theorem interleavedKinds_without_catalogAi :
    let alone : List Move := [
      .begin (.ofMillis 1) (.track .findIssues ⟨"J1"⟩), .tick 3 0,
      .respond (.ofMillis 5) 0 (.ok (.obj [("report", .obj [])])),
      .begin (.ofMillis 7) (.view .findIssues),
      .resume (.ofMillis 8) (.lastResult .findIssues 2 (.ok none))]
    Possible .standard initial 0 [] interleavedKinds ∧
    initial.restrict .standard .findIssues interleavedKinds = alone ∧
    Possible .standard initial 0 [] alone ∧
    AgreeOn .findIssues (stateAt .standard interleavedKinds 9) (initial.after .standard alone) := by
  intro alone
  have remaining : initial.restrict .standard .findIssues interleavedKinds = alone := by rfl
  have possible : Possible .standard initial 0 [] interleavedKinds := by
    refine .begin (.begin (.tick rfl rfl (.inl (by decide)) (by decide)
      (.tick rfl rfl (.inl (by decide)) (by decide) (.respond rfl rfl (.respond rfl rfl
      (.begin (.begin ?_)))))))
    exact @Possible.resume _ _ _ [.lastResult .catalogAi 2] (.lastResult .findIssues 2) [] _ _ _
      .lastResult .nil
  obtain ⟨carried, points⟩ := kinds_do_not_interfere .standard interleavedKinds .findIssues
  refine ⟨possible, remaining, remaining ▸ carried possible, ?_⟩
  exact remaining ▸ (points 9).2.1

end Engine

end JobWatch

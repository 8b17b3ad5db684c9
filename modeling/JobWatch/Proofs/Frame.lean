import JobWatch.Proofs.Isolation

/-!
# Moves that leave a kind alone

A move that neither ends the sessions of a kind nor refreshes its cached result, and that brings
no response that counts for the kind, leaves the record and the results of the kind as they are
and tells nothing of its jobs. A session is left alone by all moves but those of its own loop and
those that end it.
-/

set_option autoImplicit false

namespace JobWatch

namespace ResultBoard

variable (board : ResultBoard) {kind other : Kind}

theorem entry_setEntry (kind other : Kind) (entry : ResultEntry) :
    (board.setEntry kind entry).entry other = if other = kind then entry else board.entry other :=
  PerKind.get_set ..

theorem entry_setEntry_of_ne (entry : ResultEntry) (different : other ≠ kind) :
    (board.setEntry kind entry).entry other = board.entry other := by
  rw [entry_setEntry, if_neg different]

@[simp] theorem entry_setEntry_self (kind : Kind) (entry : ResultEntry) :
    (board.setEntry kind entry).entry kind = entry := PerKind.get_set_self ..

@[simp] theorem live?_clearLive (kind : Kind) : (board.clearLive kind).live? kind = none := by
  simp [clearLive, live?]

@[simp] theorem cached?_clearLive (kind : Kind) :
    (board.clearLive kind).cached? kind = board.cached? kind := by
  simp [clearLive, cached?]

@[simp] theorem cached?_setLive (now : Timestamp) (kind : Kind) (payload : Json) :
    (board.setLive now kind payload).cached? kind = board.cached? kind := by
  simp [setLive, cached?]

@[simp] theorem live?_promote (now : Timestamp) (kind : Kind) (payload : Json) :
    (board.promote now kind payload).live? kind = none := by
  simp [promote, live?]

@[simp] theorem cached?_promote (now : Timestamp) (kind : Kind) (payload : Json) :
    (board.promote now kind payload).cached? kind = some ⟨kind, payload, now, .cached⟩ := by
  simp [promote, cached?]

@[simp] theorem live?_markStale (kind : Kind) :
    (board.markStale kind).live? kind = board.live? kind := by
  simp [markStale, live?]

@[simp] theorem cached?_markStale (kind : Kind) :
    (board.markStale kind).cached? kind = board.cached? kind := by
  simp [markStale, cached?]

theorem entry_clearLive_of_ne (different : other ≠ kind) :
    (board.clearLive kind).entry other = board.entry other :=
  board.entry_setEntry_of_ne _ different

theorem entry_setLive_of_ne (now : Timestamp) (payload : Json) (different : other ≠ kind) :
    (board.setLive now kind payload).entry other = board.entry other :=
  board.entry_setEntry_of_ne _ different

theorem entry_promote_of_ne (now : Timestamp) (payload : Json) (different : other ≠ kind) :
    (board.promote now kind payload).entry other = board.entry other :=
  board.entry_setEntry_of_ne _ different

theorem entry_markStale_of_ne (different : other ≠ kind) :
    (board.markStale kind).entry other = board.entry other :=
  board.entry_setEntry_of_ne _ different

theorem entry_applyRefresh_of_ne (now : Timestamp) (issuedIn : Nat) (answer : LastResult)
    (different : other ≠ kind) :
    (board.applyRefresh now kind issuedIn answer).entry other = board.entry other := by
  simp only [applyRefresh]
  split
  · rfl
  · split
    · rfl
    · exact board.entry_setEntry_of_ne _ different
    · exact board.entry_setEntry_of_ne _ different

end ResultBoard

namespace Move

/-- A move that brings the last result of a kind for the cache. -/
inductive Refreshes (kind : Kind) : Move → Prop where
  | answered {now ticket answer} : Refreshes kind (.resume now (.lastResult kind ticket answer))

def isOf (n : Nat) : Move → Bool
  | .tick _ m => m = n
  | .respond _ m _ => m = n
  | _ => false

end Move

namespace Engine

/-- Nothing that concerns a kind has changed, and nothing was told of its jobs. -/
structure Spares (kind : Kind) (engine later : Engine) (events : List Event) : Prop where
  slot : later.store.get? kind = engine.store.get? kind
  results : later.results.entry kind = engine.results.entry kind
  silent : ∀ event ∈ events, event.kind? ≠ some kind

section

variable {settings : EngineSettings} {engine later : Engine} {move : Move} {events : List Event}
  {kind : Kind}

theorem silent_completionEvents {other : Kind} (different : kind ≠ other) (id : JobId)
    (payload : Json) : ∀ event ∈ completionEvents other id payload, event.kind? ≠ some kind := by
  intro event member
  rw [completionEvents, List.mem_append, List.mem_map, List.mem_singleton] at member
  rcases member with ⟨key, _, rfl⟩ | rfl
  · intro told
    cases told
  · intro told
    exact different (Option.some.inj told).symm

theorem Effect.spares (effect : Effect settings engine move later events)
    (unended : ¬ Ends settings engine kind move) (unrefreshed : ¬ move.Refreshes kind)
    (unanswered : ∀ n s record, move.isOf n = true → engine.Awaited n s record → s.kind ≠ kind) :
    Spares kind engine later events := by
  have silence : ∀ event ∈ ([] : List Event), event.kind? ≠ some kind := by simp
  have silent_of_ne : ∀ {other : Kind} {event : Event}, event.kind? = some other →
      kind ≠ other → ∀ told ∈ [event], told.kind? ≠ some kind := by
    intro other event about different told member same
    rw [List.mem_singleton.mp member, about] at same
    exact different (Option.some.inj same).symm
  have answered : ∀ {now : Timestamp} {n : Nat} {s : Session} {record : Record}
      {outcome : FetchOutcome}, move = .respond now n outcome → engine.Awaited n s record →
      kind ≠ s.kind := by
    intro now n s record outcome made awaited
    refine Ne.symm (unanswered n s record ?_ awaited)
    simp [made, Move.isOf]
  cases effect with
  | idle => exact ⟨rfl, rfl, silence⟩
  | @opened _ now other id tracks free =>
      have different : kind ≠ other := by
        rintro rfl
        exact unended (.replaced (begins_of_tracks tracks free))
      exact ⟨Store.get?_put_of_ne _ _ different,
        ResultBoard.entry_clearLive_of_ne _ different, silent_of_ne rfl different⟩
  | unstopped => exact ⟨rfl, rfl, silence⟩
  | @stopped _ other record _ _ =>
      have different : kind ≠ other := by
        rintro rfl
        exact unended .stop
      exact ⟨Store.get?_put_of_ne _ _ different,
        ResultBoard.entry_clearLive_of_ne _ different, silent_of_ne rfl different⟩
  | @vacated _ other =>
      have different : kind ≠ other := by
        rintro rfl
        exact unended .reset
      exact ⟨Store.get?_clear_of_ne _ different,
        ResultBoard.entry_clearLive_of_ne _ different, silence⟩
  | shutdown => exact absurd .shutdown unended
  | @refreshed _ other _ _ =>
      have different : kind ≠ other := by
        rintro rfl
        exact unrefreshed .answered
      exact ⟨rfl, ResultBoard.entry_applyRefresh_of_ne _ _ _ _ different, silence⟩
  | ticked => exact ⟨rfl, rfl, silence⟩
  | dropped => exact ⟨rfl, rfl, silence⟩
  | progressed awaited _ =>
      have different := answered rfl awaited
      exact ⟨Store.get?_put_of_ne _ _ different,
        ResultBoard.entry_setLive_of_ne _ _ _ different, silence⟩
  | completed awaited _ _ =>
      have different := answered rfl awaited
      refine ⟨Store.get?_clear_of_ne _ different, ?_, silent_completionEvents different _ _⟩
      exact (ResultBoard.entry_markStale_of_ne _ different).trans
        (ResultBoard.entry_promote_of_ne _ _ _ different)
  | suppressed awaited _ _ =>
      have different := answered rfl awaited
      exact ⟨Store.get?_clear_of_ne _ different,
        ResultBoard.entry_promote_of_ne _ _ _ different, silence⟩
  | failed awaited _ =>
      have different := answered rfl awaited
      exact ⟨Store.get?_put_of_ne _ _ different,
        ResultBoard.entry_clearLive_of_ne _ different, silent_of_ne rfl different⟩
  | retried awaited _ _ =>
      have different := answered rfl awaited
      exact ⟨Store.get?_put_of_ne _ _ different, rfl, silence⟩
  | exhausted awaited _ _ =>
      have different := answered rfl awaited
      exact ⟨Store.get?_clear_of_ne _ different,
        ResultBoard.entry_clearLive_of_ne _ different, silent_of_ne rfl different⟩
  | aborted awaited _ =>
      have different := answered rfl awaited
      exact ⟨Store.get?_put_of_ne _ _ different,
        ResultBoard.entry_clearLive_of_ne _ different, silent_of_ne rfl different⟩

theorem Effect.keeps_session (effect : Effect settings engine move later events)
    (coherent : engine.Coherent) {n : Nat} {s : Session}
    (found : engine.poller.session? n = some s) (unended : ¬ Ends settings engine s.kind move)
    (foreign : move.isOf n = false) : later.poller.session? n = some s := by
  have detached : ∀ {other : Kind}, s.kind ≠ other →
      (engine.poller.cancelAttached other).session? n = some s :=
    fun different => coherent.poller.session?_cancelAttached_of_ne found different
  have settled : ∀ {now : Timestamp} {m : Nat} {outcome : FetchOutcome} (verdict : Verdict),
      move = .respond now m outcome → (engine.poller.settle m verdict).session? n = some s := by
    intro now m outcome verdict made
    rw [made, Move.isOf, decide_eq_false_iff_not] at foreign
    rw [Poller.session?_settle, if_neg foreign, found]
  cases effect with
  | idle => exact found
  | @opened _ now other id tracks free =>
      have different : s.kind ≠ other := by
        rintro rfl
        exact unended (.replaced (begins_of_tracks tracks free))
      simp only [Engine.opened]
      rw [Poller.session?_attach_of_ne _ _ _ (Nat.ne_of_lt (Poller.session?_eq_some_lt found))]
      exact detached different
  | unstopped =>
      refine detached ?_
      rintro rfl
      exact unended .stop
  | stopped =>
      refine detached ?_
      rintro rfl
      exact unended .stop
  | vacated =>
      refine detached ?_
      rintro rfl
      exact unended .reset
  | shutdown => exact absurd .shutdown unended
  | refreshed => exact found
  | @ticked time m =>
      have different : m ≠ n := by simpa [Move.isOf] using foreign
      obtain ⟨_, same⟩ | ⟨_, _, _, _, _, same⟩ | ⟨_, _, _, _, _, _, _, same⟩ :=
        engine.poller.tick_cases settings.pollInterval time m engine.store.isCurrent
      · simpa only [tick, same] using found
      · simp only [tick, same, Poller.session?_setPhase, if_neg different, found]
      · simp only [tick, same, Poller.session?_setPhase, if_neg different, found]
  | dropped => exact settled _ rfl
  | progressed => exact settled _ rfl
  | completed => exact settled _ rfl
  | suppressed => exact settled _ rfl
  | failed => exact settled _ rfl
  | retried => exact settled _ rfl
  | exhausted => exact settled _ rfl
  | aborted => exact settled _ rfl

end

end Engine

end JobWatch

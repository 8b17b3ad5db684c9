import JobWatch.Proofs.Coherence

/-!
# Polling and activity

Unless polling was ended for good, every active job has a live session of its own. With
coherence this makes activity and polling one and the same.
-/

set_option autoImplicit false

namespace JobWatch

namespace Engine

/-- Every active job is polled by a live session of its own. -/
def Polled (engine : Engine) : Prop :=
  ∀ kind record, engine.store.get? kind = some record → record.isActive = true →
    ∃ n s, engine.poller.attached.get kind = some n ∧ engine.poller.session? n = some s ∧
      s.isLive = true ∧ s.job = record.id

theorem polled_initial : initial.Polled := by
  intro kind record held
  simp [initial, Store.empty, Store.get?] at held

section

variable {engine : Engine} (coherent : engine.Coherent) (polled : engine.Polled)

include coherent polled

private theorem polled_after_detach {kind other : Kind} (different : other ≠ kind)
    {record : Record} (held : engine.store.get? other = some record)
    (active : record.isActive = true) :
    ∃ n s, (engine.poller.detach kind).2.attached.get other = some n ∧
      (engine.poller.detach kind).2.session? n = some s ∧ s.isLive = true ∧ s.job = record.id := by
  obtain ⟨n, s, attached, found, live, job⟩ := polled other record held active
  obtain ⟨t, same, kinds, _⟩ := coherent.poller.held other n attached
  rw [found] at same
  cases same
  refine ⟨n, s, ?_, ?_, live, job⟩
  · rw [Poller.attached_detach, if_neg different]
    exact attached
  · rw [Poller.session?_detach]
    exact coherent.poller.session?_cancelAttached_of_ne found (kinds ▸ different)

private theorem polled_after_attach {kind : Kind} {id : JobId} {other : Kind} {record : Record}
    (different : other ≠ kind) (held : engine.store.get? other = some record)
    (active : record.isActive = true) :
    ∃ n s, (engine.poller.attach kind id).attached.get other = some n ∧
      (engine.poller.attach kind id).session? n = some s ∧ s.isLive = true ∧
      s.job = record.id := by
  obtain ⟨n, s, attached, found, live, job⟩ :=
    polled_after_detach coherent polled different held active
  have older : n < engine.poller.sessions.length := by
    have bound := Poller.session?_eq_some_lt found
    rwa [Poller.detach, Poller.length_cancelAttached] at bound
  refine ⟨n, s, ?_, ?_, live, job⟩
  · rw [Poller.attached_attach, if_neg different]
    rwa [Poller.attached_detach, if_neg different] at attached
  · rw [Poller.session?_attach_of_ne _ _ _ (Nat.ne_of_lt older)]
    exact found

private theorem polled_after_settle {n : Nat} {s : Session} {ended : Record}
    (awaited : engine.Awaited n s ended) (verdict : Verdict) {other : Kind} {record : Record}
    (different : other ≠ s.kind) (held : engine.store.get? other = some record)
    (active : record.isActive = true) :
    ∃ m t, engine.poller.attached.get other = some m ∧
      (engine.poller.settle n verdict).session? m = some t ∧ t.isLive = true ∧
      t.job = record.id := by
  obtain ⟨m, t, attached, found, live, job⟩ := polled other record held active
  refine ⟨m, t, attached, ?_, live, job⟩
  rw [Poller.session?_settle, if_neg]
  · exact found
  · rintro rfl
    obtain ⟨u, same, kinds, _⟩ := coherent.poller.held other n attached
    rw [awaited.session] at same
    cases same
    exact different kinds.symm

private theorem polled_of_put {n : Nat} {s : Session} {before : Record}
    (awaited : engine.Awaited n s before) {next : Record} (same : next.id = before.id)
    {results : ResultBoard} :
    Polled ({ engine with store := engine.store.put s.kind next, results }.settled n .goOn) := by
  intro kind record held active
  simp only [Engine.settled, Store.get?_put] at held
  split at held
  · next here =>
      subst kind
      cases held
      refine ⟨n, s.settled .goOn, ?_, ?_, awaited.settled_goOn, ?_⟩
      · exact coherent.poller.owned n s awaited.session awaited.uncancelled
      · simp [Engine.settled, Poller.session?_settle, awaited.session]
      · rw [Session.job_settled, same, awaited.same]
  · next different => exact polled_after_settle coherent polled awaited .goOn different held active

private theorem polled_of_ended {n : Nat} {s : Session} {before : Record}
    (awaited : engine.Awaited n s before) {later : Engine}
    (poller : later.poller = engine.poller.settle n .stop)
    (inactive : ∀ record, later.store.get? s.kind = some record → record.isActive = false)
    (frame : ∀ kind, kind ≠ s.kind → later.store.get? kind = engine.store.get? kind) :
    later.Polled := by
  intro kind record held active
  have different : kind ≠ s.kind := by
    rintro rfl
    rw [inactive record held] at active
    cases active
  rw [poller]
  exact polled_after_settle coherent polled awaited .stop different (frame kind different ▸ held)
    active

private theorem polled_of_tick {settings : EngineSettings} (nonzero : settings.pollInterval ≠ 0)
    (time n : Nat) : (engine.tick settings time n).2.Polled := by
  intro kind record held active
  obtain ⟨m, t, attached, found, live, job⟩ := polled kind record held active
  obtain ⟨_, same⟩ | ⟨s, due, here, _, ceased, same⟩ | ⟨s, due, here, _, _, _, _, same⟩ :=
    engine.poller.tick_cases settings.pollInterval time n engine.store.isCurrent <;>
    simp only [tick, same]
  · exact ⟨m, t, attached, found, live, job⟩
  · refine ⟨m, t, attached, ?_, live, job⟩
    rw [Poller.session?_setPhase, if_neg]
    · exact found
    -- The loop that ends is not the one that polls this kind: that one has no reason to end.
    · rintro rfl
      rw [found] at here
      cases here
      rcases ceased with cancelled | zero | stale
      · rw [(Session.isLive_iff.mp live).1] at cancelled
        cases cancelled
      · exact nonzero zero
      · rw [coherent.live n t found live] at stale
        cases stale
  · by_cases mine : n = m
    · subst m
      rw [found] at here
      cases here
      refine ⟨n, { t with phase := .fetching (Cadence.next settings.pollInterval due time) },
        attached, ?_, ?_, job⟩
      · rw [Poller.session?_setPhase, if_pos rfl, found]
        rfl
      · exact Session.isLive_iff.mpr ⟨(Session.isLive_iff.mp live).1, by simp⟩
    · exact ⟨m, t, attached, by rw [Poller.session?_setPhase, if_neg mine, found], live, job⟩

end

theorem Effect.polled {settings : EngineSettings} (nonzero : settings.pollInterval ≠ 0)
    {engine later : Engine} {move : Move} {events : List Event}
    (effect : Effect settings engine move later events) (lasting : move ≠ .shutdown)
    (coherent : engine.Coherent) (polled : engine.Polled) : later.Polled := by
  cases effect with
  | idle => exact polled
  | @opened _ now kind id _ free =>
      intro other record held active
      simp only [Engine.opened, Store.get?_put] at held
      split at held
      · next same =>
          subst other
          cases held
          exact ⟨_, _, by simp [Engine.opened, Poller.attached_attach],
            engine.poller.session?_attach_self kind id, rfl, rfl⟩
      · next different => exact polled_after_attach coherent polled different held active
  | @unstopped _ kind idle =>
      intro other record held active
      have different : other ≠ kind := by
        rintro rfl
        rw [Store.active?_eq_none_iff.mp idle record held] at active
        cases active
      exact polled_after_detach coherent polled different held active
  | stopped _ _ =>
      intro other record held active
      simp only [Engine.stopped, Store.get?_put] at held
      split at held
      · cases held
        cases active
      · next different => exact polled_after_detach coherent polled different held active
  | vacated =>
      intro other record held active
      simp only [Engine.vacated, Store.get?_clear] at held
      split at held
      · cases held
      · next different => exact polled_after_detach coherent polled different held active
  | shutdown => exact absurd rfl lasting
  | refreshed => exact polled
  | ticked => exact polled_of_tick coherent polled nonzero _ _
  | @dropped _ n _ late =>
      intro kind record held active
      obtain ⟨m, t, attached, found, live, job⟩ := polled kind record held active
      refine ⟨m, t, attached, ?_, live, job⟩
      simp only [Engine.settled, Poller.session?_settle]
      split
      -- A live session whose response is not awaited has no fetch under way.
      · next same =>
          subst m
          have idle : ∀ due, t.phase ≠ .fetching due := by
            intro due phase
            obtain ⟨before, slot, id, active⟩ :=
              Store.isCurrent_iff.mp (coherent.live n t found live)
            have awaited : engine.Awaited n t before :=
              ⟨found, (Session.isLive_iff.mp live).1, ⟨due, phase⟩, slot, id, active⟩
            rw [awaits_eq_some_iff.mpr ⟨before, awaited⟩] at late
            cases late
          rw [found, Option.map_some, Session.settled_of_idle idle]
      · exact found
  | progressed awaited _ => exact polled_of_put coherent polled awaited (Record.id_succeeded ..)
  | completed awaited _ _ =>
      exact polled_of_ended coherent polled awaited rfl (by simp [Engine.settled, Engine.completed])
        fun _ => Store.get?_clear_of_ne _
  | suppressed awaited _ _ =>
      exact polled_of_ended coherent polled awaited rfl (by simp [Engine.settled])
        fun _ => Store.get?_clear_of_ne _
  | failed awaited _ =>
      exact polled_of_ended coherent polled awaited rfl
        (by simp [Engine.settled, Engine.rejected, Status.isActive])
        fun _ => Store.get?_put_of_ne _ _
  | retried awaited _ _ => exact polled_of_put coherent polled awaited (Record.id_faltered ..)
  | exhausted awaited _ _ =>
      exact polled_of_ended coherent polled awaited rfl (by simp [Engine.settled, Engine.exhausted])
        fun _ => Store.get?_clear_of_ne _
  | aborted awaited _ =>
      exact polled_of_ended coherent polled awaited rfl
        (by simp [Engine.settled, Engine.rejected, Status.isActive])
        fun _ => Store.get?_put_of_ne _ _

theorem polled_after {settings : EngineSettings} (nonzero : settings.pollInterval ≠ 0)
    {engine : Engine} (coherent : engine.Coherent) (polled : engine.Polled) (moves : List Move)
    (lasting : Move.shutdown ∉ moves) : (engine.after settings moves).Polled := by
  induction moves generalizing engine with
  | nil => exact polled
  | cons move rest ih =>
      rw [List.mem_cons, not_or] at lasting
      have effect := perform_effect engine settings move
      exact ih (effect.coherent coherent)
        (effect.polled nonzero (Ne.symm lasting.1) coherent polled) lasting.2

theorem isPolling_iff {engine : Engine} {kind : Kind} :
    engine.isPolling kind = true ↔ ∃ n s, engine.poller.attached.get kind = some n ∧
      engine.poller.session? n = some s ∧ s.isLive = true := by
  simp only [isPolling, Poller.isPolling, Option.any_eq_true, Option.bind_eq_some_iff]
  constructor
  · rintro ⟨s, ⟨n, attached, found⟩, live⟩
    exact ⟨n, s, attached, found, live⟩
  · rintro ⟨n, s, attached, found, live⟩
    exact ⟨s, ⟨n, attached, found⟩, live⟩

theorem Coherent.live_unique {engine : Engine} (coherent : engine.Coherent) {kind : Kind}
    {m n : Nat} {s t : Session} (first : engine.poller.session? m = some s)
    (second : engine.poller.session? n = some t) (kinds : s.kind = kind ∧ t.kind = kind)
    (live : s.isLive = true ∧ t.isLive = true) : m = n :=
  coherent.poller.unique first second (kinds.1.trans kinds.2.symm) (Session.isLive_iff.mp live.1).1
    (Session.isLive_iff.mp live.2).1

/-- There is no ghost and no orphan: a kind has at most one live session, a live session polls
the active job of its kind, and unless all polling was ended, a job is active exactly while its
kind is polled, by a session of that very job. -/
theorem polling_matches_activity (settings : EngineSettings)
    (nonzero : settings.pollInterval ≠ 0) (moves : List Move) (kind : Kind) :
    let engine := initial.after settings moves
    (∀ m n s t, engine.poller.session? m = some s → engine.poller.session? n = some t →
      s.kind = kind ∧ t.kind = kind → s.isLive = true ∧ t.isLive = true → m = n) ∧
    (∀ n s, engine.poller.session? n = some s → s.kind = kind → s.isLive = true →
      ∃ record, engine.record? kind = some record ∧ record.isActive = true ∧
        record.id = s.job) ∧
    (Move.shutdown ∉ moves →
      ((∃ record, engine.record? kind = some record ∧ record.isActive = true) ↔
        engine.isPolling kind = true) ∧
      ∀ record, engine.record? kind = some record → record.isActive = true →
        ∃ n s, engine.poller.attached.get kind = some n ∧ engine.poller.session? n = some s ∧
          s.kind = kind ∧ s.isLive = true ∧ s.job = record.id) := by
  intro engine
  have coherent : engine.Coherent := coherent_after settings moves
  have ofKind : ∀ n s, engine.poller.attached.get kind = some n →
      engine.poller.session? n = some s → s.kind = kind := by
    intro n s attached found
    obtain ⟨t, same, kinds, _⟩ := coherent.poller.held kind n attached
    rw [found] at same
    cases same
    exact kinds
  have active_of_live : ∀ n s, engine.poller.session? n = some s → s.kind = kind →
      s.isLive = true → ∃ record, engine.record? kind = some record ∧ record.isActive = true ∧
        record.id = s.job := by
    intro n s found same live
    obtain ⟨record, held, id, active⟩ := Store.isCurrent_iff.mp (coherent.live n s found live)
    exact ⟨record, same ▸ held, active, id⟩
  refine ⟨fun _ _ _ _ => coherent.live_unique, active_of_live, fun lasting => ?_⟩
  have polled : engine.Polled :=
    polled_after nonzero coherent_initial polled_initial moves lasting
  refine ⟨⟨?_, ?_⟩, ?_⟩
  · rintro ⟨record, held, active⟩
    obtain ⟨n, s, attached, found, live, _⟩ := polled kind record held active
    exact isPolling_iff.mpr ⟨n, s, attached, found, live⟩
  · intro polling
    obtain ⟨n, s, attached, found, live⟩ := isPolling_iff.mp polling
    obtain ⟨record, held, active, _⟩ := active_of_live n s found (ofKind n s attached found) live
    exact ⟨record, held, active⟩
  · intro record held active
    obtain ⟨n, s, attached, found, live, job⟩ := polled kind record held active
    exact ⟨n, s, attached, found, ofKind n s attached found, live, job⟩

/-- A job that was tracked while its predecessor's fetch is still under way is polled, and by a
session of its own. -/
theorem polling_of_replaced_job :
    EngineSettings.standard.pollInterval ≠ 0 ∧
    Move.shutdown ∉ [Move.begin (.ofMillis 0) (.track .findIssues ⟨"J1"⟩), .tick 0 0,
      .begin (.ofMillis 1) (.stop .findIssues), .begin (.ofMillis 2) (.track .findIssues ⟨"J1"⟩),
      .respond (.ofMillis 3) 0 (.ok .null)] ∧
    (initial.after .standard [Move.begin (.ofMillis 0) (.track .findIssues ⟨"J1"⟩), .tick 0 0,
      .begin (.ofMillis 1) (.stop .findIssues), .begin (.ofMillis 2) (.track .findIssues ⟨"J1"⟩),
      .respond (.ofMillis 3) 0 (.ok .null)]).isPolling .findIssues = true :=
  ⟨by decide, by simp,
    ((polling_matches_activity .standard (by decide) _ .findIssues).2.2 (by simp)).1.mp
      ⟨.start (.ofMillis 2) .findIssues ⟨"J1"⟩, by rfl, by rfl⟩⟩

end Engine

end JobWatch

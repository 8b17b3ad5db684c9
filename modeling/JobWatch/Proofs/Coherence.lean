import JobWatch.Proofs.Effect

/-!
# Coherence

The store, the poller and the bus are changed by different operations in different orders, and
still they agree between moves: a live session polls the active job of its kind, and the bus
holds no completion against an active job.
-/

set_option autoImplicit false

namespace JobWatch

theorem Store.isCurrent_congr {first second : Store} {kind : Kind} (id : JobId)
    (same : first.get? kind = second.get? kind) :
    first.isCurrent kind id = second.isCurrent kind id := by
  rw [isCurrent, isCurrent, same]

namespace Engine

/-- How the parts of the engine agree between moves. Nothing is said of an active job whose
polling has been ended, so this survives `shutdown`. -/
structure Coherent (engine : Engine) : Prop where
  poller : engine.poller.Coherent
  live : ∀ n s, engine.poller.session? n = some s → s.isLive = true →
    engine.store.isCurrent s.kind s.job = true
  unpublished : ∀ kind record, engine.store.get? kind = some record → record.isActive = true →
    engine.bus.lastCompleted.get kind = none

theorem coherent_initial : initial.Coherent := by
  refine ⟨Poller.coherent_empty, ?_, ?_⟩
  · intro n s found
    simp [initial, Poller.empty, Poller.session?] at found
  · intro kind record held
    simp [initial, Store.empty, Store.get?] at held

section

variable {engine : Engine} {n : Nat} {s : Session} {record : Record}

theorem Awaited.isLive (awaited : engine.Awaited n s record) : s.isLive = true := by
  obtain ⟨due, phase⟩ := awaited.fetching
  exact Session.isLive_iff.mpr ⟨awaited.uncancelled, by simp [phase]⟩

theorem Awaited.isCurrent (awaited : engine.Awaited n s record) :
    engine.store.isCurrent s.kind s.job = true :=
  Store.isCurrent_iff.mpr ⟨record, awaited.held, awaited.same, awaited.active⟩

theorem Awaited.settled_stop (awaited : engine.Awaited n s record) :
    (s.settled .stop).isLive = false := by
  obtain ⟨due, phase⟩ := awaited.fetching
  simp [Session.settled, phase, Session.isLive]

theorem Awaited.settled_goOn (awaited : engine.Awaited n s record) :
    (s.settled .goOn).isLive = true := by
  obtain ⟨due, phase⟩ := awaited.fetching
  simp [Session.settled, phase, Session.isLive, awaited.uncancelled]

/-- While a response is awaited, no other session of its kind is live. -/
theorem Coherent.kind_ne_of_awaited (coherent : engine.Coherent)
    (awaited : engine.Awaited n s record) {m : Nat} {t : Session}
    (found : engine.poller.session? m = some t) (live : t.isLive = true) (other : m ≠ n) :
    t.kind ≠ s.kind := by
  intro same
  exact other (coherent.poller.unique found awaited.session same (Session.isLive_iff.mp live).1
    awaited.uncancelled)

theorem Coherent.hasPublished_of_awaited (coherent : engine.Coherent)
    (awaited : engine.Awaited n s record) (id : JobId) :
    engine.bus.hasPublished s.kind id = false := by
  simp [InvalidationBus.hasPublished,
    coherent.unpublished s.kind record awaited.held awaited.active]

private theorem Coherent.live_after_stop (coherent : engine.Coherent)
    (awaited : engine.Awaited n s record) {store : Store}
    (frame : ∀ kind, kind ≠ s.kind → store.get? kind = engine.store.get? kind)
    (m : Nat) (t : Session) (found : (engine.poller.settle n .stop).session? m = some t)
    (live : t.isLive = true) : store.isCurrent t.kind t.job = true := by
  rw [Poller.session?_settle] at found
  split at found
  · next same =>
      subst m
      rw [awaited.session] at found
      cases found
      rw [awaited.settled_stop] at live
      cases live
  · next other =>
      have different := coherent.kind_ne_of_awaited awaited found live (Ne.symm other)
      rw [Store.isCurrent_congr t.job (frame t.kind different)]
      exact coherent.live m t found live

private theorem Coherent.live_after_goOn (coherent : engine.Coherent)
    (awaited : engine.Awaited n s record) {next : Record} (same : next.id = record.id)
    (active : next.isActive = true)
    (m : Nat) (t : Session) (found : (engine.poller.settle n .goOn).session? m = some t)
    (live : t.isLive = true) : (engine.store.put s.kind next).isCurrent t.kind t.job = true := by
  rw [Poller.session?_settle] at found
  split at found
  · next here =>
      subst m
      rw [awaited.session] at found
      cases found
      rw [Store.isCurrent_iff, Session.kind_settled, Session.job_settled]
      exact ⟨next, Store.get?_put_self .., same.trans awaited.same, active⟩
  · next other =>
      have different := coherent.kind_ne_of_awaited awaited found live (Ne.symm other)
      rw [Store.isCurrent_congr t.job (Store.get?_put_of_ne _ next different)]
      exact coherent.live m t found live

private theorem Coherent.live_after_detach (coherent : engine.Coherent) (kind : Kind)
    {store : Store} (frame : ∀ other, other ≠ kind → store.get? other = engine.store.get? other)
    (m : Nat) (t : Session) (found : (engine.poller.detach kind).2.session? m = some t)
    (live : t.isLive = true) : store.isCurrent t.kind t.job = true := by
  rw [Poller.session?_detach] at found
  obtain ⟨held, different⟩ :=
    coherent.poller.uncancelled_cancelAttached found (Session.isLive_iff.mp live).1
  rw [Store.isCurrent_congr t.job (frame t.kind different)]
  exact coherent.live m t held live

private theorem Coherent.live_after_attach (coherent : engine.Coherent) (now : Timestamp)
    (kind : Kind) (id : JobId)
    (m : Nat) (t : Session) (found : (engine.poller.attach kind id).session? m = some t)
    (live : t.isLive = true) :
    (engine.store.put kind (.start now kind id)).isCurrent t.kind t.job = true := by
  by_cases new : m = engine.poller.sessions.length
  · subst m
    rw [Poller.session?_attach_self] at found
    cases found
    exact Store.isCurrent_iff.mpr ⟨_, Store.get?_put_self .., rfl, rfl⟩
  · rw [Poller.session?_attach_of_ne _ _ _ new] at found
    exact coherent.live_after_detach kind (fun _ => Store.get?_put_of_ne _ _) m t found live

private theorem Coherent.live_after_tick (coherent : engine.Coherent) (period now n m : Nat)
    (t : Session)
    (found : (engine.poller.tick period now n engine.store.isCurrent).2.session? m = some t)
    (live : t.isLive = true) : engine.store.isCurrent t.kind t.job = true := by
  obtain ⟨_, same⟩ | ⟨s, _, _, _, _, same⟩ | ⟨s, due, held, awaited, uncancelled, _, _, same⟩ :=
    engine.poller.tick_cases period now n engine.store.isCurrent <;> rw [same] at found
  · exact coherent.live m t found live
  · rw [Poller.session?_setPhase] at found
    split at found
    · obtain ⟨u, _, rfl⟩ := Option.map_eq_some_iff.mp found
      simp [Session.isLive] at live
    · exact coherent.live m t found live
  · rw [Poller.session?_setPhase] at found
    split at found
    · next here =>
        subst m
        rw [held] at found
        cases found
        exact coherent.live n s held
          (Session.isLive_iff.mpr ⟨uncancelled, Poller.phase_ne_finished_of_due? awaited⟩)
    · exact coherent.live m t found live

end

/-! ## Coherence of runs -/

private theorem unpublished_of_put {engine : Engine} (coherent : engine.Coherent) {kind : Kind}
    {next : Record} (active : next.isActive = true →
      ∃ record, engine.store.get? kind = some record ∧ record.isActive = true)
    (other : Kind) (record : Record)
    (held : (engine.store.put kind next).get? other = some record)
    (isActive : record.isActive = true) : engine.bus.lastCompleted.get other = none := by
  rw [Store.get?_put] at held
  split at held
  · next same =>
      subst other
      cases held
      obtain ⟨before, found, wasActive⟩ := active isActive
      exact coherent.unpublished kind before found wasActive
  · exact coherent.unpublished other record held isActive

private theorem unpublished_of_clear {engine : Engine} (coherent : engine.Coherent) {kind : Kind}
    (other : Kind) (record : Record)
    (held : (engine.store.clear kind).get? other = some record)
    (isActive : record.isActive = true) : engine.bus.lastCompleted.get other = none := by
  rw [Store.get?_clear] at held
  split at held
  · cases held
  · exact coherent.unpublished other record held isActive

theorem Effect.coherent {settings : EngineSettings} {engine later : Engine} {move : Move}
    {events : List Event} (effect : Effect settings engine move later events)
    (coherent : engine.Coherent) : later.Coherent := by
  have poller := coherent.poller
  cases effect with
  | idle => exact coherent
  | @opened _ now kind id _ free =>
      refine ⟨poller.attach _ _, coherent.live_after_attach _ _ _, ?_⟩
      intro other record held active
      simp only [Engine.opened, Store.get?_put, InvalidationBus.forget, PerKind.get_set] at held ⊢
      split
      · rfl
      · next different =>
          rw [if_neg different] at held
          exact coherent.unpublished other record held active
  | @unstopped _ kind _ =>
      exact ⟨poller.detach _, coherent.live_after_detach kind fun _ _ => rfl, coherent.unpublished⟩
  | stopped held active =>
      exact ⟨poller.detach _, coherent.live_after_detach _ fun _ => Store.get?_put_of_ne _ _,
        unpublished_of_put coherent fun _ => ⟨_, held, active⟩⟩
  | @vacated _ kind =>
      exact ⟨poller.detach _, coherent.live_after_detach kind fun _ => Store.get?_clear_of_ne _,
        unpublished_of_clear coherent⟩
  | shutdown =>
      have first : Coherent { engine with poller := (engine.poller.detach .findIssues).2 } :=
        ⟨poller.detach _, coherent.live_after_detach _ fun _ _ => rfl, coherent.unpublished⟩
      exact ⟨poller.detachAll, first.live_after_detach .catalogAi fun _ _ => rfl,
        coherent.unpublished⟩
  | refreshed => exact ⟨poller, coherent.live, coherent.unpublished⟩
  | ticked =>
      exact ⟨poller.tick .., coherent.live_after_tick _ _ _, coherent.unpublished⟩
  | @dropped _ n _ late =>
      refine ⟨poller.settle .., ?_, coherent.unpublished⟩
      intro m t found live
      simp only [Engine.settled, Poller.session?_settle] at found
      split at found
      · obtain ⟨u, held, rfl⟩ := Option.map_eq_some_iff.mp found
        rw [Session.kind_settled, Session.job_settled]
        exact coherent.live m u held (Session.isLive_of_isLive_settled live)
      · exact coherent.live m t found live
  | progressed awaited _ =>
      exact ⟨poller.settle .., coherent.live_after_goOn awaited rfl rfl,
        unpublished_of_put coherent fun _ => ⟨_, awaited.held, awaited.active⟩⟩
  | @completed now n s record payload awaited _ _ =>
      refine ⟨poller.settle .., coherent.live_after_stop awaited fun _ =>
        Store.get?_clear_of_ne _, ?_⟩
      intro other record held active
      simp only [Engine.settled, Engine.completed, Store.get?_clear, PerKind.get_set] at held ⊢
      split at held
      · cases held
      · next different =>
          rw [if_neg different]
          exact coherent.unpublished other record held active
  | suppressed awaited _ _ =>
      exact ⟨poller.settle .., coherent.live_after_stop awaited fun _ =>
        Store.get?_clear_of_ne _, unpublished_of_clear coherent⟩
  | failed awaited _ =>
      exact ⟨poller.settle .., coherent.live_after_stop awaited fun _ => Store.get?_put_of_ne _ _,
        unpublished_of_put coherent fun _ => ⟨_, awaited.held, awaited.active⟩⟩
  | retried awaited _ _ =>
      exact ⟨poller.settle .., coherent.live_after_goOn awaited rfl awaited.active,
        unpublished_of_put coherent fun _ => ⟨_, awaited.held, awaited.active⟩⟩
  | exhausted awaited _ _ =>
      exact ⟨poller.settle .., coherent.live_after_stop awaited fun _ =>
        Store.get?_clear_of_ne _, unpublished_of_clear coherent⟩
  | aborted awaited _ =>
      exact ⟨poller.settle .., coherent.live_after_stop awaited fun _ => Store.get?_put_of_ne _ _,
        unpublished_of_put coherent fun _ => ⟨_, awaited.held, awaited.active⟩⟩

theorem Coherent.perform {engine : Engine} (coherent : engine.Coherent)
    (settings : EngineSettings) (move : Move) :
    (engine.perform settings move).engine.Coherent :=
  (perform_effect engine settings move).coherent coherent

/-- The parts of the engine agree at every point of every run. -/
theorem coherent_after (settings : EngineSettings) (moves : List Move) :
    (initial.after settings moves).Coherent :=
  after_invariant _ settings coherent_initial
    (fun _ move coherent => coherent.perform settings move) moves

end Engine

end JobWatch

import JobWatch.Proofs.Coherence
import JobWatch.Proofs.Frame

/-!
# The part of one kind

The engine keeps records, results, completion marks and sessions of both kinds side by side. What
concerns one kind can be cut out of it: an engine in which the other kind has never been used. The
sessions that are left are numbered anew, in the order in which they began. Every operation on a
kind does the same to the part of the kind as to the whole engine.
-/

set_option autoImplicit false

namespace JobWatch

namespace PerKind

variable {α : Type} (p : PerKind α) (kind : Kind) (blank : α)

/-- The value for a kind, and a blank one for the other kind. -/
def only : PerKind α := (both blank).set kind (p.get kind)

@[simp] theorem get_only : (p.only kind blank).get kind = p.get kind := get_set_self ..

@[simp] theorem only_set (a : α) :
    (p.set kind a).only kind blank = (p.only kind blank).set kind a := by
  simp [only]

theorem only_set_of_ne {other : Kind} (a : α) (different : kind ≠ other) :
    (p.set other a).only kind blank = p.only kind blank := by
  rw [only, get_set_of_ne _ _ different, only]

end PerKind

namespace Store

variable (store : Store) (kind : Kind)

def only : Store := ⟨store.slots.only kind none⟩

@[simp] theorem get?_only : (store.only kind).get? kind = store.get? kind := PerKind.get_only ..

@[simp] theorem only_put (record : Record) :
    (store.put kind record).only kind = (store.only kind).put kind record :=
  congrArg Store.mk (PerKind.only_set ..)

@[simp] theorem only_clear : (store.clear kind).only kind = (store.only kind).clear kind :=
  congrArg Store.mk (PerKind.only_set ..)

@[simp] theorem status_only : (store.only kind).status kind = store.status kind := by
  rw [status, get?_only, status]

@[simp] theorem active?_only : (store.only kind).active? kind = store.active? kind := by
  rw [active?, get?_only, active?]

@[simp] theorem isCurrent_only (id : JobId) :
    (store.only kind).isCurrent kind id = store.isCurrent kind id :=
  isCurrent_congr id (get?_only ..)

theorem transition_only (now : Timestamp) (status : Status) (error : Option String) :
    (store.only kind).transition now kind status error =
      (store.transition now kind status error).map fun moved => (moved.1, moved.2.only kind) := by
  simp only [transition, tracked, get?_only]
  cases store.get? kind with
  | none => rfl
  | some record =>
      simp only [bind, Except.bind]
      cases record.moveTo now status error with
      | error refusal => rfl
      | ok moved => simp [Except.map, pure, Except.pure]

variable {kind} {other : Kind}

theorem only_put_of_ne (record : Record) (different : kind ≠ other) :
    (store.put other record).only kind = store.only kind :=
  congrArg Store.mk (PerKind.only_set_of_ne _ _ _ _ different)

theorem only_clear_of_ne (different : kind ≠ other) :
    (store.clear other).only kind = store.only kind :=
  congrArg Store.mk (PerKind.only_set_of_ne _ _ _ _ different)

end Store

namespace ResultBoard

variable (board : ResultBoard) (kind : Kind)

def only : ResultBoard := ⟨board.entries.only kind .blank⟩

@[simp] theorem entry_only : (board.only kind).entry kind = board.entry kind :=
  PerKind.get_only ..

@[simp] theorem only_setEntry (entry : ResultEntry) :
    (board.setEntry kind entry).only kind = (board.only kind).setEntry kind entry :=
  congrArg ResultBoard.mk (PerKind.only_set ..)

@[simp] theorem only_clearLive :
    (board.clearLive kind).only kind = (board.only kind).clearLive kind := by
  simp [clearLive]

@[simp] theorem only_setLive (now : Timestamp) (payload : Json) :
    (board.setLive now kind payload).only kind = (board.only kind).setLive now kind payload := by
  simp [setLive]

@[simp] theorem only_promote (now : Timestamp) (payload : Json) :
    (board.promote now kind payload).only kind = (board.only kind).promote now kind payload := by
  simp [promote, generation]

@[simp] theorem only_markStale :
    (board.markStale kind).only kind = (board.only kind).markStale kind := by
  simp [markStale]

@[simp] theorem only_applyRefresh (now : Timestamp) (ticket : Nat) (answer : LastResult) :
    (board.applyRefresh now kind ticket answer).only kind =
      (board.only kind).applyRefresh now kind ticket answer := by
  simp only [applyRefresh, entry_only]
  split
  · rfl
  · split
    · rfl
    · exact only_setEntry ..
    · exact only_setEntry ..

theorem only_congr {board board' : ResultBoard} {kind : Kind}
    (same : board'.entry kind = board.entry kind) : board'.only kind = board.only kind :=
  congrArg ResultBoard.mk (congrArg ((PerKind.both ResultEntry.blank).set kind) same)

end ResultBoard

namespace InvalidationBus

variable (bus : InvalidationBus) (kind : Kind)

def only : InvalidationBus := ⟨bus.lastCompleted.only kind none⟩

@[simp] theorem lastCompleted_only :
    (bus.only kind).lastCompleted.get kind = bus.lastCompleted.get kind := PerKind.get_only ..

@[simp] theorem hasPublished_only (id : JobId) :
    (bus.only kind).hasPublished kind id = bus.hasPublished kind id := by
  rw [hasPublished, lastCompleted_only, hasPublished]

@[simp] theorem only_mark (last : Option JobId) :
    (mk (bus.lastCompleted.set kind last)).only kind =
      ⟨(bus.only kind).lastCompleted.set kind last⟩ :=
  congrArg InvalidationBus.mk (PerKind.only_set ..)

@[simp] theorem only_forget : (bus.forget kind).only kind = (bus.only kind).forget kind :=
  only_mark ..

variable {kind} {other : Kind}

theorem only_mark_of_ne (last : Option JobId) (different : kind ≠ other) :
    (mk (bus.lastCompleted.set other last)).only kind = bus.only kind :=
  congrArg InvalidationBus.mk (PerKind.only_set_of_ne _ _ _ _ different)

end InvalidationBus

/-! ## Sessions -/

section

variable {α : Type} (p : α → Bool)

private theorem getElem?_filter_countP {l : List α} {n : Nat} {a : α} (found : l[n]? = some a)
    (holds : p a = true) : (l.filter p)[(l.take n).countP p]? = some a := by
  induction l generalizing n with
  | nil => cases found
  | cons b l ih =>
      cases n with
      | zero =>
          cases found
          simp [holds]
      | succ n =>
          have rest := ih found
          by_cases first : p b = true <;> simp [first, rest]

private theorem filter_modify {f : α → α} (keeps : ∀ a, p (f a) = p a) (l : List α) (n : Nat) :
    (l.modify n f).filter p =
      if l[n]?.any p then (l.filter p).modify ((l.take n).countP p) f else l.filter p := by
  induction l generalizing n with
  | nil => simp
  | cons b l ih =>
      cases n with
      | zero => by_cases first : p b = true <;> simp [first, keeps]
      | succ n =>
          by_cases first : p b = true
          · simp only [List.modify_succ_cons, List.filter_cons_of_pos first, ih,
              List.getElem?_cons_succ, List.take_succ_cons, List.countP_cons_of_pos first]
            split <;> rfl
          · simp [first, ih]

private theorem countP_take_modify {f : α → α} (keeps : ∀ a, p (f a) = p a) (l : List α)
    (n m : Nat) : ((l.modify n f).take m).countP p = (l.take m).countP p := by
  rw [List.take_modify, List.countP_eq_length_filter, filter_modify p keeps,
    @List.countP_eq_length_filter _ p (l.take m)]
  split
  · exact List.length_modify ..
  · rfl

end

def Session.isOf (kind : Kind) (s : Session) : Bool := s.kind = kind

theorem Session.isOf_iff {kind : Kind} {s : Session} : s.isOf kind = true ↔ s.kind = kind :=
  decide_eq_true_iff

theorem Session.isOf_congr (kind : Kind) {f : Session → Session}
    (keeps : ∀ s, (f s).kind = s.kind) (s : Session) : (f s).isOf kind = s.isOf kind := by
  rw [isOf, keeps, isOf]

namespace Poller

variable (poller : Poller) (kind : Kind)

/-- The number that a session has among those of a kind: how many of them began before it. -/
def rank (n : Nat) : Nat := (poller.sessions.take n).countP (Session.isOf kind)

/-- The sessions of a kind, numbered anew. -/
def only : Poller where
  sessions := poller.sessions.filter (Session.isOf kind)
  attached := (PerKind.both none).set kind ((poller.attached.get kind).map (poller.rank kind))

@[simp] theorem attached_only : (poller.only kind).attached.get kind =
    (poller.attached.get kind).map (poller.rank kind) := PerKind.get_set_self ..

variable {poller kind}

theorem session?_only {n : Nat} {s : Session} (found : poller.session? n = some s)
    (ofKind : s.kind = kind) : (poller.only kind).session? (poller.rank kind n) = some s :=
  getElem?_filter_countP _ found (Session.isOf_iff.mpr ofKind)

private theorem only_modify {f : Session → Session} (keeps : ∀ s, (f s).isOf kind = s.isOf kind)
    (n : Nat) : (poller.modifySession n f).only kind =
      { poller.only kind with
        sessions := (poller.sessions.modify n f).filter (Session.isOf kind) } := by
  have ranks : (poller.modifySession n f).rank kind = poller.rank kind :=
    funext (countP_take_modify _ keeps poller.sessions n)
  simp only [only, attached_modifySession, ranks]
  rfl

/-- A session is changed in the part of its kind as it is in the whole. -/
theorem only_modifySession {n : Nat} {s : Session} (found : poller.session? n = some s)
    (ofKind : s.kind = kind) {f : Session → Session} (keeps : ∀ s, (f s).kind = s.kind) :
    (poller.modifySession n f).only kind =
      (poller.only kind).modifySession (poller.rank kind n) f := by
  have keeps := Session.isOf_congr kind keeps
  have member : poller.sessions[n]?.any (Session.isOf kind) = true := by
    rw [session?] at found
    rw [found]
    exact Session.isOf_iff.mpr ofKind
  rw [only_modify keeps, filter_modify _ keeps, if_pos member]
  rfl

/-- The part of a kind does not have the sessions of the other one. -/
theorem only_modifySession_of_ne {n : Nat}
    (foreign : ∀ s, poller.session? n = some s → s.kind ≠ kind) {f : Session → Session}
    (keeps : ∀ s, (f s).kind = s.kind) :
    (poller.modifySession n f).only kind = poller.only kind := by
  have keeps := Session.isOf_congr kind keeps
  have absent : ¬ poller.sessions[n]?.any (Session.isOf kind) = true := by
    intro member
    obtain ⟨s, found, ofKind⟩ := (Option.any_eq_true ..).mp member
    exact foreign s found (Session.isOf_iff.mp ofKind)
  rw [only_modify keeps, filter_modify _ keeps, if_neg absent]
  rfl

theorem only_setPhase {n : Nat} {s : Session} (found : poller.session? n = some s)
    (ofKind : s.kind = kind) (phase : Phase) :
    (poller.setPhase n phase).only kind = (poller.only kind).setPhase (poller.rank kind n) phase :=
  only_modifySession found ofKind fun _ => rfl

theorem only_settle {n : Nat} {s : Session} (found : poller.session? n = some s)
    (ofKind : s.kind = kind) (verdict : Verdict) :
    (poller.settle n verdict).only kind =
      (poller.only kind).settle (poller.rank kind n) verdict :=
  only_modifySession found ofKind (Session.kind_settled verdict)

theorem only_settle_of_ne {n : Nat}
    (foreign : ∀ s, poller.session? n = some s → s.kind ≠ kind) (verdict : Verdict) :
    (poller.settle n verdict).only kind = poller.only kind :=
  only_modifySession_of_ne foreign (Session.kind_settled verdict)

theorem only_tick_of_ne {n : Nat} (foreign : ∀ s, poller.session? n = some s → s.kind ≠ kind)
    (period now : Nat) (isCurrent : Kind → JobId → Bool) :
    (poller.tick period now n isCurrent).2.only kind = poller.only kind := by
  obtain ⟨_, same⟩ | ⟨_, _, _, _, _, same⟩ | ⟨_, _, _, _, _, _, _, same⟩ :=
    poller.tick_cases period now n isCurrent <;> rw [same]
  · exact only_modifySession_of_ne foreign fun _ => rfl
  · exact only_modifySession_of_ne foreign fun _ => rfl

theorem detach_of_unattached (idle : poller.attached.get kind = none) :
    (poller.detach kind).2 = poller := by
  simp only [detach, cancelAttached, idle]
  rw [← idle, PerKind.set_get]

namespace Coherent

variable (coherent : poller.Coherent)

include coherent

theorem only_cancelAttached (kind : Kind) :
    (poller.cancelAttached kind).only kind = (poller.only kind).cancelAttached kind := by
  unfold cancelAttached
  rw [attached_only]
  cases attached : poller.attached.get kind with
  | none => rfl
  | some n =>
      obtain ⟨s, found, ofKind, _⟩ := coherent.held kind n attached
      exact only_modifySession found ofKind fun _ => rfl

theorem only_cancelAttached_of_ne {kind other : Kind} (different : kind ≠ other) :
    (poller.cancelAttached other).only kind = poller.only kind := by
  unfold cancelAttached
  cases attached : poller.attached.get other with
  | none => rfl
  | some n =>
      obtain ⟨s, found, ofKind, _⟩ := coherent.held other n attached
      refine only_modifySession_of_ne ?_ fun _ => rfl
      intro t held same
      rw [found] at held
      cases held
      exact different (same.symm.trans ofKind)

theorem only_attach (kind : Kind) (job : JobId) :
    (poller.attach kind job).only kind = (poller.only kind).attach kind job := by
  unfold Poller.attach
  rw [← coherent.only_cancelAttached kind]
  generalize poller.cancelAttached kind = cancelled
  have added : (⟨kind, job, false, .spawned⟩ : Session).isOf kind = true :=
    Session.isOf_iff.mpr rfl
  simp only [only, rank, PerKind.get_set_self, PerKind.set_set, Option.map_some, List.filter_append,
    List.filter_cons_of_pos added, List.filter_nil, List.take_left, List.countP_eq_length_filter]

theorem only_attach_of_ne {kind other : Kind} (different : kind ≠ other) (job : JobId) :
    (poller.attach other job).only kind = poller.only kind := by
  rw [← coherent.only_cancelAttached_of_ne different]
  have added : ¬ (⟨other, job, false, .spawned⟩ : Session).isOf kind = true :=
    fun ofKind => different (Session.isOf_iff.mp ofKind).symm
  have ranks : (poller.attached.get kind).map ((poller.attach other job).rank kind) =
      (poller.attached.get kind).map ((poller.cancelAttached other).rank kind) := by
    cases attached : poller.attached.get kind with
    | none => rfl
    | some n =>
        obtain ⟨s, found, _⟩ := coherent.held kind n attached
        have older := session?_eq_some_lt found
        rw [← length_cancelAttached poller other] at older
        simp only [rank, Poller.attach, Option.map_some,
          List.take_append_of_le_length (Nat.le_of_lt older)]
  simp only [only, ranks, attached_attach, if_neg different, attached_cancelAttached]
  simp only [Poller.attach, List.filter_append, List.filter_cons_of_neg added, List.filter_nil,
    List.append_nil]

theorem only_detach (kind : Kind) :
    (poller.detach kind).2.only kind = ((poller.only kind).detach kind).2 := by
  unfold Poller.detach
  rw [← coherent.only_cancelAttached kind]
  simp only [only, PerKind.get_set_self, PerKind.set_set, Option.map_none]

theorem only_detach_of_ne {kind other : Kind} (different : kind ≠ other) :
    (poller.detach other).2.only kind = poller.only kind := by
  rw [← coherent.only_cancelAttached_of_ne different]
  simp only [only, Poller.detach, PerKind.get_set_of_ne _ _ different]
  rfl

theorem only_detachAll (kind : Kind) :
    poller.detachAll.only kind = (poller.only kind).detachAll := by
  change (((poller.detach .findIssues).2.detach .catalogAi).2).only kind =
    (((poller.only kind).detach .findIssues).2.detach .catalogAi).2
  cases kind with
  | findIssues =>
      have idle : ((poller.only .findIssues).detach .findIssues).2.attached.get .catalogAi =
          none := by
        rw [attached_detach, if_neg (by decide)]
        rfl
      rw [(coherent.detach .findIssues).only_detach_of_ne (by decide), coherent.only_detach,
        detach_of_unattached idle]
  | catalogAi =>
      have idle : (poller.only .catalogAi).attached.get .findIssues = none := rfl
      rw [(coherent.detach .findIssues).only_detach, coherent.only_detach_of_ne (by decide),
        detach_of_unattached idle]

end Coherent

/-! ## Loops -/

theorem only_tick {n : Nat} {s : Session} (found : poller.session? n = some s)
    (ofKind : s.kind = kind) {isCurrent isCurrent' : Kind → JobId → Bool}
    (same : ∀ id, isCurrent' kind id = isCurrent kind id) (period now : Nat) :
    (poller.only kind).tick period now (poller.rank kind n) isCurrent' =
      ((poller.tick period now n isCurrent).1,
        (poller.tick period now n isCurrent).2.only kind) := by
  subst kind
  unfold tick
  rw [session?_only found rfl, found]
  simp only [same]
  split
  · rfl
  · split
    · rw [only_setPhase found rfl]
    · rw [only_setPhase found rfl]

theorem awaits_only {n : Nat} {s : Session} (found : poller.session? n = some s)
    (ofKind : s.kind = kind) {isCurrent isCurrent' : Kind → JobId → Bool}
    (same : ∀ id, isCurrent' kind id = isCurrent kind id) :
    (poller.only kind).awaits (poller.rank kind n) isCurrent' = poller.awaits n isCurrent := by
  subst kind
  simp only [awaits, session?_only found rfl, found, Option.filter_some, same]

theorem isPolling_only (coherent : poller.Coherent) (kind : Kind) :
    (poller.only kind).isPolling kind = poller.isPolling kind := by
  unfold isPolling
  rw [attached_only]
  cases attached : poller.attached.get kind with
  | none => rfl
  | some n =>
      obtain ⟨s, found, ofKind, _⟩ := coherent.held kind n attached
      rw [Option.map_some, Option.bind_some, Option.bind_some, session?_only found ofKind, found]

end Poller

/-! ## The engine -/

namespace Engine

def only (engine : Engine) (kind : Kind) : Engine where
  store := engine.store.only kind
  results := engine.results.only kind
  bus := engine.bus.only kind
  poller := engine.poller.only kind

def Step.only {α : Type} (step : Step α) (kind : Kind) : Step α :=
  { step with engine := step.engine.only kind }

theorem only_initial (kind : Kind) : initial.only kind = initial := by
  cases kind <;> rfl

section

variable (engine : Engine) (kind : Kind)

theorem view_only : (engine.only kind).view kind = engine.view kind := by
  have shown (status : Status) : (engine.results.only kind).shown? kind status =
      engine.results.shown? kind status := by
    simp only [ResultBoard.shown?, ResultBoard.live?, ResultBoard.cached?, ResultBoard.entry_only]
  simp only [view, record?, status, only, Store.get?_only, Store.status_only, shown]

theorem refreshTicket?_only (settings : EngineSettings) (now : Timestamp) :
    (engine.only kind).refreshTicket? settings now kind =
      engine.refreshTicket? settings now kind := by
  have status : (engine.only kind).status kind = engine.status kind := Store.status_only ..
  have due : (engine.only kind).results.needsRefresh now settings.lastResultTtl kind =
      engine.results.needsRefresh now settings.lastResultTtl kind := by
    simp only [only, ResultBoard.needsRefresh, ResultBoard.entry_only]
  have generation : (engine.only kind).results.generation kind =
      engine.results.generation kind := by
    simp only [only, ResultBoard.generation, ResultBoard.entry_only]
  rw [refreshTicket?, status, due, generation, refreshTicket?]

theorem startRefusal?_only : (engine.only kind).startRefusal? kind = engine.startRefusal? kind := by
  simp only [startRefusal?, only, Store.active?_only]

theorem only_refreshed (now : Timestamp) (ticket : Nat) (answer : LastResult) :
    (engine.refreshed now kind ticket answer).only kind =
      (engine.only kind).refreshed now kind ticket answer := by
  simp only [refreshed, only, ResultBoard.only_applyRefresh]

end

section

variable {engine : Engine} (coherent : engine.poller.Coherent) (kind : Kind)

include coherent

theorem track_only (now : Timestamp) (id : JobId) :
    (engine.only kind).track now kind id = (engine.track now kind id).only kind := by
  have same : (engine.only kind).store.active? kind = engine.store.active? kind :=
    Store.active?_only ..
  cases found : engine.store.active? kind with
  | some record =>
      rw [track_of_active engine now id found, track_of_active _ now id (same.trans found)]
      rfl
  | none =>
      rw [track_of_free engine now id found, track_of_free _ now id (same.trans found)]
      simp only [Step.only, opened, only, Store.only_put, ResultBoard.only_clearLive,
        InvalidationBus.only_forget, coherent.only_attach]

theorem startAnswered_only (now : Timestamp) (answer : StartAnswer) :
    (engine.only kind).startAnswered now kind answer =
      (engine.startAnswered now kind answer).only kind := by
  cases answer with
  | error source => rfl
  | ok started =>
      simp only [startAnswered]
      split
      · rfl
      · exact track_only coherent kind now _

theorem stop_only (now : Timestamp) :
    (engine.only kind).stop now kind = (engine.stop now kind).only kind := by
  simp only [stop, only, Store.transition_only]
  cases engine.store.transition now kind .stopped none with
  | error source => simp only [Except.map, Step.only, only, coherent.only_detach]
  | ok moved =>
      simp only [Except.map, Step.only, only, coherent.only_detach, ResultBoard.only_clearLive]

theorem reset_only : (engine.only kind).reset kind = (engine.reset kind).only kind := by
  simp only [reset, Store.reset, Step.only, only, Store.get?_only, Store.only_clear,
    ResultBoard.only_clearLive, coherent.only_detach]

theorem only_shutdown : engine.shutdown.only kind = (engine.only kind).shutdown := by
  simp only [shutdown, only, coherent.only_detachAll]

end

/-! ## Outcomes -/

section

variable {engine : Engine} {kind : Kind} {record : Record}

theorem poller_complete (engine : Engine) (now : Timestamp) (kind : Kind) (id : JobId)
    (payload : Json) : (engine.complete now kind id payload).engine.poller = engine.poller := by
  unfold complete
  split <;> rfl

theorem poller_fail (engine : Engine) (now : Timestamp) (kind : Kind) (id : JobId)
    (failure : Failure) (consume : Bool) :
    (engine.fail now kind id failure consume).engine.poller = engine.poller := by
  unfold fail
  split <;> rfl

theorem poller_accept (engine : Engine) (policy : RetryPolicy) (now : Timestamp) (kind : Kind)
    (id : JobId) (outcome : FetchOutcome) :
    (engine.accept policy now kind id outcome).engine.poller = engine.poller := by
  cases outcome with
  | ok payload =>
      simp only [accept, acceptPayload]
      split
      · rfl
      · split
        · rfl
        · exact poller_complete ..
        · exact poller_fail ..
  | error error =>
      simp only [accept, acceptError]
      split
      · rfl
      · split
        · rfl
        · exact poller_fail ..
        · exact poller_fail ..

theorem accept_only (held : engine.store.get? kind = some record) (active : record.isActive = true)
    (policy : RetryPolicy) (now : Timestamp) (outcome : FetchOutcome) :
    (engine.only kind).accept policy now kind record.id outcome =
      (engine.accept policy now kind record.id outcome).only kind := by
  have held' : (engine.only kind).store.get? kind = some record := (Store.get?_only ..).trans held
  cases outcome with
  | ok payload =>
      cases detected : Completion.detect kind payload with
      | pending =>
          rw [accept_pending held active policy now detected,
            accept_pending held' active policy now detected]
          simp only [Step.only, only, Store.only_put, ResultBoard.only_setLive]
      | complete =>
          have same : (engine.only kind).bus.hasPublished kind record.id =
              engine.bus.hasPublished kind record.id := InvalidationBus.hasPublished_only ..
          cases published : engine.bus.hasPublished kind record.id with
          | false =>
              rw [accept_complete held active policy now detected published,
                accept_complete held' active policy now detected (same.trans published)]
              simp only [Step.only, only, completed, Store.only_clear, ResultBoard.only_promote,
                ResultBoard.only_markStale, InvalidationBus.only_mark]
          | true =>
              rw [accept_duplicate held active policy now detected published,
                accept_duplicate held' active policy now detected (same.trans published)]
              simp only [Step.only, only, Store.only_clear, ResultBoard.only_promote]
      | failed message =>
          rw [accept_failed held active policy now detected,
            accept_failed held' active policy now detected]
          simp only [Step.only, only, rejected, Store.only_put, ResultBoard.only_clearLive]
  | error error =>
      cases transient : error.isTransient with
      | false =>
          rw [accept_definitive held active policy now transient,
            accept_definitive held' active policy now transient]
          simp only [Step.only, only, rejected, Store.only_put, ResultBoard.only_clearLive]
      | true =>
          by_cases reached : policy.limit ≤ record.retryBudget.recordFailure.consumed
          · rw [accept_exhausted held active policy now transient reached,
              accept_exhausted held' active policy now transient reached]
            simp only [Step.only, only, exhausted, Store.only_clear, ResultBoard.only_clearLive]
          · rw [accept_retry held active policy now transient (UInt32.not_le.mp reached),
              accept_retry held' active policy now transient (UInt32.not_le.mp reached)]
            simp only [Step.only, only, Store.only_put]

variable {n : Nat} {s : Session} (found : engine.poller.session? n = some s)
  (ofKind : s.kind = kind)

include found ofKind

theorem tick_only (settings : EngineSettings) (time : Nat) :
    (engine.only kind).tick settings time (engine.poller.rank kind n) =
      ((engine.tick settings time n).1, (engine.tick settings time n).2.only kind) := by
  simp only [tick, only, Poller.only_tick found ofKind (engine.store.isCurrent_only kind)]

theorem respond_only (settings : EngineSettings) (now : Timestamp) (outcome : FetchOutcome) :
    (engine.only kind).respond settings now (engine.poller.rank kind n) outcome =
      (engine.respond settings now n outcome).only kind := by
  have same : (engine.only kind).poller.awaits (engine.poller.rank kind n)
      (engine.only kind).store.isCurrent = engine.poller.awaits n engine.store.isCurrent :=
    Poller.awaits_only found ofKind (engine.store.isCurrent_only kind)
  unfold respond
  rw [same]
  cases awaits : engine.poller.awaits n engine.store.isCurrent with
  | none => simp only [Step.only, only, Poller.only_settle found ofKind]
  | some t =>
      obtain ⟨record, awaited⟩ := awaits_eq_some_iff.mp awaits
      have ofSession := awaited.session
      rw [found] at ofSession
      cases ofSession
      subst ofKind
      have accepted := accept_only awaited.held awaited.active (.ofLimit settings.retryLimit) now
        outcome
      rw [awaited.same] at accepted
      have kept := poller_accept engine (.ofLimit settings.retryLimit) now s.kind s.job outcome
      simp only [accepted]
      simp only [Step.only, only, kept, Poller.only_settle found rfl]

end

end Engine

end JobWatch

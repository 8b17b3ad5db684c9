import JobWatch.Polling.Poller

/-!
# Sessions of the poller

What each operation of the poller does to the sessions and to the ones attached, and what all
operations keep: of the sessions of a kind only the attached one is uncancelled, a session keeps
its kind and its job, and neither a cancellation nor the end of its loop is undone.
-/

set_option autoImplicit false

namespace JobWatch

/-- What can become of a session: its job stays, and what has ended does not begin again. -/
structure Session.Succeeds (earlier later : Session) : Prop where
  kind : later.kind = earlier.kind
  job : later.job = earlier.job
  cancelled : earlier.cancelled = true → later.cancelled = true
  finished : earlier.phase = .finished → later.phase = .finished

namespace Session

theorem Succeeds.refl (s : Session) : s.Succeeds s := ⟨rfl, rfl, id, id⟩

theorem Succeeds.trans {first middle last : Session} (early : first.Succeeds middle)
    (late : middle.Succeeds last) : first.Succeeds last :=
  ⟨late.kind.trans early.kind, late.job.trans early.job,
    fun ended => late.cancelled (early.cancelled ended),
    fun ended => late.finished (early.finished ended)⟩

def cancel (s : Session) : Session := { s with cancelled := true }

def settled (verdict : Verdict) (s : Session) : Session :=
  match s.phase, verdict with
  | .fetching due, .goOn => { s with phase := .waiting due }
  | .fetching _, .stop => { s with phase := .finished }
  | _, _ => s

theorem succeeds_cancel (s : Session) : s.Succeeds s.cancel := ⟨rfl, rfl, fun _ => rfl, id⟩

theorem succeeds_settled (verdict : Verdict) (s : Session) : s.Succeeds (s.settled verdict) := by
  unfold settled
  split
  · next _ _ due fetching => exact ⟨rfl, rfl, id, fun ended => by simp [fetching] at ended⟩
  · exact ⟨rfl, rfl, id, fun _ => rfl⟩
  · exact .refl s

@[simp] theorem kind_settled (verdict : Verdict) (s : Session) :
    (s.settled verdict).kind = s.kind := (s.succeeds_settled verdict).kind

@[simp] theorem job_settled (verdict : Verdict) (s : Session) :
    (s.settled verdict).job = s.job := (s.succeeds_settled verdict).job

@[simp] theorem cancelled_settled (verdict : Verdict) (s : Session) :
    (s.settled verdict).cancelled = s.cancelled := by
  unfold settled
  split <;> rfl

theorem settled_of_idle {s : Session} (idle : ∀ due, s.phase ≠ .fetching due) (verdict : Verdict) :
    s.settled verdict = s := by
  unfold settled
  split
  · next _ _ due phase => exact absurd phase (idle due)
  · next _ _ due phase => exact absurd phase (idle due)
  · rfl

theorem isLive_iff {s : Session} : s.isLive = true ↔ s.cancelled = false ∧ s.phase ≠ .finished := by
  simp [isLive]

theorem isLive_of_isLive_settled {verdict : Verdict} {s : Session}
    (live : (s.settled verdict).isLive = true) : s.isLive = true := by
  rw [isLive_iff] at live ⊢
  exact ⟨(cancelled_settled verdict s).symm.trans live.1,
    fun ended => live.2 ((succeeds_settled verdict s).finished ended)⟩

end Session

namespace Poller

/-! ## Operations -/

theorem session?_modifySession (poller : Poller) (n m : Nat) (f : Session → Session) :
    (poller.modifySession n f).session? m =
      if n = m then (poller.session? m).map f else poller.session? m := by
  simp only [session?, modifySession, List.getElem?_modify]
  split <;> simp

@[simp] theorem attached_modifySession (poller : Poller) (n : Nat) (f : Session → Session) :
    (poller.modifySession n f).attached = poller.attached := rfl

theorem session?_settle (poller : Poller) (n m : Nat) (verdict : Verdict) :
    (poller.settle n verdict).session? m =
      if n = m then (poller.session? m).map (Session.settled verdict) else poller.session? m :=
  session?_modifySession ..

@[simp] theorem attached_cancelAttached (poller : Poller) (kind : Kind) :
    (poller.cancelAttached kind).attached = poller.attached := by
  unfold cancelAttached
  split <;> rfl

theorem session?_cancelAttached (poller : Poller) (kind : Kind) (m : Nat) :
    (poller.cancelAttached kind).session? m =
      if poller.attached.get kind = some m then (poller.session? m).map Session.cancel
      else poller.session? m := by
  unfold cancelAttached
  cases found : poller.attached.get kind with
  | none => simp
  | some n =>
      rw [session?_modifySession]
      simp only [Option.some.injEq]
      rfl

theorem length_cancelAttached (poller : Poller) (kind : Kind) :
    (poller.cancelAttached kind).sessions.length = poller.sessions.length := by
  unfold cancelAttached
  split
  · rfl
  · exact List.length_modify ..

theorem attached_attach (poller : Poller) (kind other : Kind) (job : JobId) :
    (poller.attach kind job).attached.get other =
      if other = kind then some poller.sessions.length else poller.attached.get other := by
  simp only [attach, PerKind.get_set, length_cancelAttached, attached_cancelAttached]

theorem session?_attach_self (poller : Poller) (kind : Kind) (job : JobId) :
    (poller.attach kind job).session? poller.sessions.length =
      some ⟨kind, job, false, .spawned⟩ := by
  simp [attach, session?, ← length_cancelAttached poller kind]

theorem session?_eq_some_lt {poller : Poller} {n : Nat} {s : Session}
    (found : poller.session? n = some s) : n < poller.sessions.length :=
  (List.getElem?_eq_some_iff.mp found).choose

theorem session?_attach_of_ne (poller : Poller) (kind : Kind) (job : JobId) {m : Nat}
    (older : m ≠ poller.sessions.length) :
    (poller.attach kind job).session? m = (poller.cancelAttached kind).session? m := by
  simp only [attach, session?]
  rcases Nat.lt_or_gt_of_ne older with below | above
  · exact List.getElem?_append_left (by rw [length_cancelAttached]; exact below)
  · rw [List.getElem?_eq_none, List.getElem?_eq_none]
    · rw [length_cancelAttached]; exact Nat.le_of_lt above
    · simp only [List.length_append, length_cancelAttached, List.length_singleton]; exact above

theorem attached_detach (poller : Poller) (kind other : Kind) :
    (poller.detach kind).2.attached.get other =
      if other = kind then none else poller.attached.get other := by
  simp only [detach, PerKind.get_set, attached_cancelAttached]

theorem attached_detachAll (poller : Poller) (kind : Kind) :
    poller.detachAll.attached.get kind = none := by
  cases kind <;> simp [detachAll, Kind.all, attached_detach]

theorem session?_detach (poller : Poller) (kind : Kind) (m : Nat) :
    (poller.detach kind).2.session? m = (poller.cancelAttached kind).session? m := rfl

theorem session?_setPhase (poller : Poller) (n m : Nat) (phase : Phase) :
    (poller.setPhase n phase).session? m =
      if n = m then (poller.session? m).map fun s => { s with phase } else poller.session? m :=
  session?_modifySession ..

/-- What a tick can do: nothing, if the loop waits for none; end the loop, if the session is
cancelled, the period is zero or the job is no longer current; else begin a fetch. -/
theorem tick_cases (poller : Poller) (period now n : Nat) (isCurrent : Kind → JobId → Bool) :
    ((∀ s, poller.session? n = some s → s.due? now = none) ∧
      poller.tick period now n isCurrent = (none, poller)) ∨
    (∃ s due, poller.session? n = some s ∧ s.due? now = some due ∧
      (s.cancelled = true ∨ period = 0 ∨ isCurrent s.kind s.job = false) ∧
      poller.tick period now n isCurrent = (none, poller.setPhase n .finished)) ∨
    (∃ s due, poller.session? n = some s ∧ s.due? now = some due ∧ s.cancelled = false ∧
      period ≠ 0 ∧ isCurrent s.kind s.job = true ∧
      poller.tick period now n isCurrent =
        (some s.job, poller.setPhase n (.fetching (Cadence.next period due now)))) := by
  unfold tick
  cases found : poller.session? n with
  | none => exact .inl ⟨by simp, rfl⟩
  | some s =>
      cases awaited : s.due? now with
      | none =>
          refine .inl ⟨fun t same => ?_, by simp [awaited]⟩
          rwa [← Option.some.inj same]
      | some due =>
          by_cases ceased : (s.cancelled || period = 0 || !isCurrent s.kind s.job) = true
          · refine .inr (.inl ⟨s, due, rfl, awaited, ?_, by simp [awaited, ceased]⟩)
            simpa [or_assoc] using ceased
          · refine .inr (.inr ⟨s, due, rfl, awaited, ?_, ?_, ?_, by simp [awaited, ceased]⟩) <;>
              simp_all

theorem phase_ne_finished_of_due? {s : Session} {now due : Nat} (awaited : s.due? now = some due) :
    s.phase ≠ .finished := by
  intro ended
  simp [Session.due?, ended] at awaited

/-! ## Growth -/

/-- What can become of a poller: every session is still there, and what has ended stays so. -/
def Grows (earlier later : Poller) : Prop :=
  ∀ n s, earlier.session? n = some s → ∃ t, later.session? n = some t ∧ s.Succeeds t

theorem Grows.refl (poller : Poller) : poller.Grows poller :=
  fun _ s found => ⟨s, found, .refl s⟩

theorem Grows.trans {first middle last : Poller} (early : first.Grows middle)
    (late : middle.Grows last) : first.Grows last := by
  intro n s found
  obtain ⟨t, kept, first⟩ := early n s found
  obtain ⟨u, still, second⟩ := late n t kept
  exact ⟨u, still, first.trans second⟩

theorem grows_modifySession {poller : Poller} {n : Nat} {f : Session → Session}
    (proper : ∀ s, poller.session? n = some s → s.Succeeds (f s)) :
    poller.Grows (poller.modifySession n f) := by
  intro m s found
  rw [session?_modifySession]
  split
  · next same =>
      subst m
      exact ⟨f s, by simp [found], proper s found⟩
  · exact ⟨s, found, .refl s⟩

theorem grows_settle (poller : Poller) (n : Nat) (verdict : Verdict) :
    poller.Grows (poller.settle n verdict) :=
  grows_modifySession fun s _ => s.succeeds_settled verdict

theorem grows_cancelAttached (poller : Poller) (kind : Kind) :
    poller.Grows (poller.cancelAttached kind) := by
  unfold cancelAttached
  split
  · exact .refl poller
  · exact grows_modifySession fun s _ => s.succeeds_cancel

theorem grows_detach (poller : Poller) (kind : Kind) : poller.Grows (poller.detach kind).2 :=
  poller.grows_cancelAttached kind

theorem grows_detachAll (poller : Poller) : poller.Grows poller.detachAll :=
  (poller.grows_detach _).trans (grows_detach _ _)

theorem grows_attach (poller : Poller) (kind : Kind) (job : JobId) :
    poller.Grows (poller.attach kind job) := by
  intro m s found
  rw [session?_attach_of_ne poller kind job (Nat.ne_of_lt (session?_eq_some_lt found))]
  exact poller.grows_cancelAttached kind m s found

theorem grows_tick (poller : Poller) (period now n : Nat) (isCurrent : Kind → JobId → Bool) :
    poller.Grows (poller.tick period now n isCurrent).2 := by
  obtain ⟨_, same⟩ | ⟨s, _, found, _, _, same⟩ | ⟨s, _, found, awaited, _, _, _, same⟩ :=
    poller.tick_cases period now n isCurrent <;> rw [same]
  · exact .refl poller
  · exact grows_modifySession fun _ _ => ⟨rfl, rfl, id, fun _ => rfl⟩
  · refine grows_modifySession fun t held => ⟨rfl, rfl, id, fun ended => ?_⟩
    rw [found] at held
    cases held
    exact absurd ended (phase_ne_finished_of_due? awaited)

/-! ## Ownership -/

/-- How sessions and kinds belong together: an uncancelled session is the one attached to its
kind, and what is attached to a kind is a session of that kind and uncancelled. -/
structure Coherent (poller : Poller) : Prop where
  owned : ∀ n s, poller.session? n = some s → s.cancelled = false →
    poller.attached.get s.kind = some n
  held : ∀ kind n, poller.attached.get kind = some n →
    ∃ s, poller.session? n = some s ∧ s.kind = kind ∧ s.cancelled = false

theorem coherent_empty : empty.Coherent := by
  constructor
  · intro n s found
    simp [empty, session?] at found
  · intro kind n attached
    simp [empty] at attached

namespace Coherent

variable {poller : Poller} (coherent : poller.Coherent)

include coherent

theorem cancelled_of_ne {n : Nat} {s : Session} (found : poller.session? n = some s)
    (other : poller.attached.get s.kind ≠ some n) : s.cancelled = true := by
  cases uncancelled : s.cancelled with
  | true => rfl
  | false => exact absurd (coherent.owned n s found uncancelled) other

/-- Two uncancelled sessions of a kind are one. -/
theorem unique {m n : Nat} {s t : Session} (first : poller.session? m = some s)
    (second : poller.session? n = some t) (same : s.kind = t.kind)
    (unended : s.cancelled = false) (uncancelled : t.cancelled = false) : m = n := by
  have mine := coherent.owned m s first unended
  have theirs := coherent.owned n t second uncancelled
  rw [same, theirs] at mine
  exact (Option.some.inj mine).symm

/-- Cancelling the attached session cancels every session of the kind. -/
theorem cancelled_cancelAttached {kind : Kind} {n : Nat} {s : Session}
    (found : (poller.cancelAttached kind).session? n = some s) (same : s.kind = kind) :
    s.cancelled = true := by
  rw [session?_cancelAttached] at found
  split at found
  · obtain ⟨t, _, rfl⟩ := Option.map_eq_some_iff.mp found
    rfl
  · next other => exact coherent.cancelled_of_ne found (by rw [same]; exact other)

/-- A session that is uncancelled after a cancellation is untouched by it. -/
theorem uncancelled_cancelAttached {kind : Kind} {n : Nat} {s : Session}
    (found : (poller.cancelAttached kind).session? n = some s) (uncancelled : s.cancelled = false) :
    poller.session? n = some s ∧ s.kind ≠ kind := by
  have different : s.kind ≠ kind := by
    intro same
    simp [coherent.cancelled_cancelAttached found same] at uncancelled
  rw [session?_cancelAttached] at found
  split at found
  · obtain ⟨t, _, rfl⟩ := Option.map_eq_some_iff.mp found
    cases uncancelled
  · exact ⟨found, different⟩

theorem session?_cancelAttached_of_ne {kind : Kind} {n : Nat} {s : Session}
    (found : poller.session? n = some s) (different : s.kind ≠ kind) :
    (poller.cancelAttached kind).session? n = some s := by
  rw [session?_cancelAttached]
  split
  · next attached =>
      obtain ⟨t, held, same, _⟩ := coherent.held kind n attached
      rw [found] at held
      cases held
      exact absurd same different
  · exact found

theorem modifySession {n : Nat} {f : Session → Session} (kind : ∀ s, (f s).kind = s.kind)
    (cancelled : ∀ s, (f s).cancelled = s.cancelled) : (poller.modifySession n f).Coherent := by
  have origin : ∀ m t, (poller.modifySession n f).session? m = some t →
      ∃ s, poller.session? m = some s ∧ t.kind = s.kind ∧ t.cancelled = s.cancelled := by
    intro m t found
    rw [session?_modifySession] at found
    split at found
    · obtain ⟨s, held, rfl⟩ := Option.map_eq_some_iff.mp found
      exact ⟨s, held, kind s, cancelled s⟩
    · exact ⟨t, found, rfl, rfl⟩
  constructor
  · intro m t found uncancelled
    obtain ⟨s, held, sameKind, sameToken⟩ := origin m t found
    rw [attached_modifySession, sameKind]
    exact coherent.owned m s held (sameToken ▸ uncancelled)
  · intro other m attached
    obtain ⟨s, held, same, uncancelled⟩ := coherent.held other m attached
    rw [session?_modifySession]
    split
    · exact ⟨f s, by simp [held], (kind s).trans same, (cancelled s).trans uncancelled⟩
    · exact ⟨s, held, same, uncancelled⟩

theorem settle (n : Nat) (verdict : Verdict) : (poller.settle n verdict).Coherent :=
  coherent.modifySession (Session.kind_settled verdict) (Session.cancelled_settled verdict)

theorem tick (period now n : Nat) (isCurrent : Kind → JobId → Bool) :
    (poller.tick period now n isCurrent).2.Coherent := by
  obtain ⟨_, same⟩ | ⟨_, _, _, _, _, same⟩ | ⟨_, _, _, _, _, _, _, same⟩ :=
    poller.tick_cases period now n isCurrent <;> rw [same]
  · exact coherent
  · exact coherent.modifySession (fun _ => rfl) (fun _ => rfl)
  · exact coherent.modifySession (fun _ => rfl) (fun _ => rfl)

theorem detach (kind : Kind) : (poller.detach kind).2.Coherent := by
  constructor
  · intro n s found uncancelled
    rw [session?_detach] at found
    obtain ⟨held, different⟩ := coherent.uncancelled_cancelAttached found uncancelled
    rw [attached_detach, if_neg different]
    exact coherent.owned n s held uncancelled
  · intro other n attached
    rw [attached_detach] at attached
    split at attached
    · cases attached
    · next different =>
        obtain ⟨s, held, same, uncancelled⟩ := coherent.held other n attached
        exact ⟨s, coherent.session?_cancelAttached_of_ne held (same ▸ different), same,
          uncancelled⟩

theorem detachAll : poller.detachAll.Coherent := (coherent.detach _).detach _

theorem attach (kind : Kind) (job : JobId) : (poller.attach kind job).Coherent := by
  have older : ∀ {n : Nat} {s : Session}, (poller.attach kind job).session? n = some s →
      n ≠ poller.sessions.length → (poller.cancelAttached kind).session? n = some s :=
    fun found different => session?_attach_of_ne poller kind job different ▸ found
  constructor
  · intro n s found uncancelled
    rw [attached_attach]
    by_cases new : n = poller.sessions.length
    · subst n
      rw [session?_attach_self] at found
      cases found
      simp
    · obtain ⟨held, different⟩ := coherent.uncancelled_cancelAttached (older found new) uncancelled
      rw [if_neg different]
      exact coherent.owned n s held uncancelled
  · intro other n attached
    rw [attached_attach] at attached
    split at attached
    · next same =>
        cases attached
        exact ⟨_, session?_attach_self poller kind job, same.symm, rfl⟩
    · next different =>
        obtain ⟨s, held, same, uncancelled⟩ := coherent.held other n attached
        refine ⟨s, ?_, same, uncancelled⟩
        rw [session?_attach_of_ne poller kind job (Nat.ne_of_lt (session?_eq_some_lt held))]
        exact coherent.session?_cancelAttached_of_ne held (same ▸ different)

end Coherent

end Poller

end JobWatch

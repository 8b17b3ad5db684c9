import JobWatch.Proofs.LiveResult
import JobWatch.Proofs.Refresh

/-!
# Views

A call for a view gets its reply at once or with the server's answer to a request for the last
result, and anything may happen in between. Either way the view describes the engine as it is when
the call returns. The cached result of a kind never disappears again, so once there is one, no view
of the kind comes without a result.
-/

set_option autoImplicit false

namespace JobWatch

def Upshot.view? : Upshot → Option View
  | .progress (.replied (.view view)) => some view
  | .reply (.view view) => some view
  | _ => none

/-- How a view of a kind agrees with the engine. -/
structure View.Describes (view : View) (engine : Engine) (kind : Kind) : Prop where
  ofKind : view.kind = kind
  record : view.record = engine.record? kind
  tracked : ∀ record, view.record = some record → view.status = record.status
  untracked : view.record = none → view.status = .pending
  processing : view.processing = true ↔ view.status = .starting ∨ view.status = .running
  result : view.result =
    if view.status = .running then engine.results.live? kind else engine.results.cached? kind

namespace Status

theorem isActive_iff {status : Status} :
    status.isActive = true ↔ status = .starting ∨ status = .running := by
  cases status <;> simp [isActive]

end Status

namespace Store

variable {store : Store} {kind : Kind}

theorem status_of_get?_eq_some {record : Record} (held : store.get? kind = some record) :
    store.status kind = record.status := by
  rw [status, held]
  rfl

theorem status_of_get?_eq_none (empty : store.get? kind = none) :
    store.status kind = .pending := by
  rw [status, empty]
  rfl

theorem status_eq_running_iff : store.status kind = .running ↔
    ∃ record, store.get? kind = some record ∧ record.status = .running := by
  cases held : store.get? kind with
  | none => simp [status_of_get?_eq_none held]
  | some record => simp [status_of_get?_eq_some held]

end Store

namespace ResultBoard

variable {board : ResultBoard} {kind : Kind}

/-- The live result comes before the cached one only while a job runs: before the first payload of
a job there is none. -/
theorem shown?_eq {status : Status}
    (running : (board.live? kind).isSome = true ↔ status = .running) :
    board.shown? kind status =
      if status = .running then board.live? kind else board.cached? kind := by
  unfold shown?
  cases live : board.live? kind with
  | some snapshot =>
      have runs : status = .running := running.mp (by rw [live]; rfl)
      rw [runs]
      rfl
  | none =>
      have idle : status ≠ .running := by
        intro runs
        have shown := running.mpr runs
        rw [live] at shown
        cases shown
      rw [if_neg idle, Option.none_or, ite_self]

theorem shown?_isSome (present : (board.cached? kind).isSome = true) (status : Status) :
    (board.shown? kind status).isSome = true := by
  unfold shown?
  split
  · rw [Option.isSome_or, present, Bool.or_true]
  · exact present

end ResultBoard

/-! ## The cached result -/

/-- A cached result is a cached snapshot of its kind and holds something. -/
def ResultEntry.Proper (kind : Kind) (entry : ResultEntry) : Prop :=
  ∀ snapshot, entry.cached = some snapshot →
    snapshot.kind = kind ∧ snapshot.source = .cached ∧ snapshot.payload ≠ .null

namespace ResultChange

variable {kind : Kind} {entry next : ResultEntry} {move : Move} {events : List Event}

theorem cached_isSome (change : ResultChange kind entry move events next)
    (present : entry.cached.isSome = true) : next.cached.isSome = true := by
  cases change with
  | kept => exact present
  | completed => rfl
  | overtaken => exact present
  | replaced => rfl
  | confirmed => exact present
  | unanswered => exact present

theorem proper (change : ResultChange kind entry move events next)
    (filled : ∀ job payload, .jobCompleted kind job payload ∈ events → payload ≠ .null)
    (before : entry.Proper kind) : next.Proper kind := by
  cases change with
  | kept => exact before
  | @completed now n job payload =>
      intro snapshot cached
      cases cached
      exact ⟨rfl, rfl, filled job payload (by simp [Engine.completionEvents])⟩
  | overtaken => exact before
  | replaced present =>
      intro snapshot cached
      cases cached
      exact ⟨rfl, rfl, present⟩
  | confirmed => exact before
  | unanswered => exact before

end ResultChange

namespace Engine

section

variable {settings : EngineSettings} {engine later : Engine} {move : Move} {events : List Event}
  {moves : List Move} {kind : Kind}

theorem Effect.detect_of_completed (effect : Effect settings engine move later events)
    {job : JobId} {payload : Json} (told : .jobCompleted kind job payload ∈ events) :
    Completion.detect kind payload = .complete := by
  cases effect with
  | completed _ detected _ =>
      simp only [completionEvents, List.mem_append, List.mem_map, List.mem_singleton, reduceCtorEq,
        and_false, exists_false, false_or, Event.jobCompleted.injEq] at told
      obtain ⟨rfl, _, rfl⟩ := told
      exact detected
  | _ => simp at told

theorem cached_isSome_stateAt {first last : Nat} (order : first ≤ last)
    (present : ((stateAt settings moves first).results.cached? kind).isSome = true) :
    ((stateAt settings moves last).results.cached? kind).isSome = true := by
  apply stateAt_between settings
    (motive := fun engine => (engine.results.cached? kind).isSome = true) order present
  intro index move _ _ made present
  rw [← stateAt_succ settings made]
  exact (resultChange_stateAt settings made kind).cached_isSome present

theorem proper_stateAt (settings : EngineSettings) (moves : List Move) (kind : Kind)
    (count : Nat) : ((stateAt settings moves count).results.entry kind).Proper kind := by
  apply stateAt_between settings (motive := fun engine => (engine.results.entry kind).Proper kind)
    (Nat.zero_le count)
  · intro snapshot cached
    cases kind <;> cases cached
  · intro index move _ _ made proper
    rw [← stateAt_succ settings made]
    apply (resultChange_stateAt settings made kind).proper _ proper
    rintro job payload told rfl
    have detected := (perform_effect _ settings move).detect_of_completed told
    simp [Completion.detect] at detected

/-! ## Replies -/

theorem view_of_reply {view : View}
    (replied : (engine.perform settings move).reply.view? = some view) :
    view = (engine.perform settings move).engine.view view.kind := by
  cases move with
  | begin now action =>
      cases action with
      | view kind =>
          simp only [perform, begin, Step.map] at replied ⊢
          split at replied
          · cases replied
            rfl
          · cases replied
      | start kind request =>
          simp only [perform, begin, Step.map] at replied
          split at replied <;> cases replied
      | track kind id => cases replied
      | stop kind => cases replied
      | reset kind => cases replied
  | resume now answer =>
      cases answer with
      | start kind answer => cases replied
      | lastResult kind ticket answer =>
          cases replied
          rfl
  | shutdown => cases replied
  | tick time n => cases replied
  | respond now n outcome => cases replied

end

/-- A move of a run that ends a call for the view of a kind, and the view it replies with. -/
def Returns (settings : EngineSettings) (moves : List Move) (index : Nat) (kind : Kind)
    (view : View) : Prop :=
  ∃ move, moves[index]? = some move ∧
    ((stateAt settings moves index).perform settings move).reply.view? = some view ∧
    view.kind = kind

section

variable {settings : EngineSettings} {moves : List Move} {index : Nat} {kind : Kind} {view : View}

/-- The view that a call returns is the one of the moment at which it returns. -/
theorem Returns.eq_view (returns : Returns settings moves index kind view) :
    view = (stateAt settings moves (index + 1)).view kind := by
  obtain ⟨move, made, replied, rfl⟩ := returns
  rw [stateAt_succ settings made]
  exact view_of_reply replied

theorem view_describes (settings : EngineSettings) (moves : List Move) (count : Nat)
    (kind : Kind) :
    ((stateAt settings moves count).view kind).Describes (stateAt settings moves count) kind := by
  have running := (liveShown_after settings (moves.take count) kind).running
  change ((stateAt settings moves count).results.live? kind).isSome = true ↔
    ∃ record, (stateAt settings moves count).store.get? kind = some record ∧ _ at running
  generalize stateAt settings moves count = engine at running
  exact {
    ofKind := rfl
    record := rfl
    tracked := fun _ => Store.status_of_get?_eq_some
    untracked := Store.status_of_get?_eq_none
    processing := Status.isActive_iff
    result := ResultBoard.shown?_eq (running.trans Store.status_eq_running_iff.symm) }

/-- A call for a view returns one, at once or with the answer of the server, and the view
describes the engine as it is then: whatever happened since the call was made, the status is that
of the record, the result is the live one of a running job and else the cached one. The cached
result of a kind never disappears, and so from then on every view of the kind holds a result. -/
theorem views_describe_and_never_blank (settings : EngineSettings) (moves : List Move)
    (kind : Kind) :
    (∀ index view, Returns settings moves index kind view →
      view.Describes (stateAt settings moves (index + 1)) kind) ∧
    (∀ index now, moves[index]? = some (.begin now (.view kind)) →
      (∃ ticket, Asks settings moves index (.lastResult kind ticket)) ∨
        ∃ view, Returns settings moves index kind view) ∧
    (∀ index now ticket answer,
      moves[index]? = some (.resume now (.lastResult kind ticket answer)) →
      ∃ view, Returns settings moves index kind view) ∧
    (∀ first, ((stateAt settings moves first).results.cached? kind).isSome = true →
      (∀ last, first ≤ last →
        ((stateAt settings moves last).results.cached? kind).isSome = true) ∧
      ∀ index view, first ≤ index + 1 → Returns settings moves index kind view →
        view.result.isSome = true) ∧
    (∀ count snapshot, (stateAt settings moves count).results.cached? kind = some snapshot →
      snapshot.kind = kind ∧ snapshot.source = .cached ∧ snapshot.payload ≠ .null) := by
  refine ⟨?_, ?_, ?_, ?_, ?_⟩
  · intro index view returns
    rw [returns.eq_view]
    exact view_describes settings moves (index + 1) kind
  · intro index now made
    cases found : (stateAt settings moves index).refreshTicket? settings now kind with
    | some ticket =>
        refine .inl ⟨ticket, _, made, ?_⟩
        simp only [perform, begin, found, Step.map]
    | none =>
        refine .inr ⟨(stateAt settings moves index).view kind, _, made, ?_, rfl⟩
        simp only [perform, begin, found, Step.map, Upshot.view?]
  · intro index now ticket answer made
    exact ⟨_, _, made, rfl, rfl⟩
  · intro first present
    refine ⟨fun last order => cached_isSome_stateAt order present, ?_⟩
    intro index view order returns
    rw [returns.eq_view]
    exact ResultBoard.shown?_isSome (cached_isSome_stateAt order present) _
  · intro count
    exact proper_stateAt settings moves kind count

end

/-- The view that was asked for before the job was tracked returns after the job has completed,
with an answer that comes too late: it shows the payload of the job. A later view has a result
too. -/
theorem view_overtaken_by_completion :
    ∃ view later, Asks .standard overtakenRefresh 0 (.lastResult .findIssues 0) ∧
      Returns .standard overtakenRefresh 4 .findIssues view ∧ view.status = .pending ∧
      view.result = some ⟨.findIssues, .obj [("report", .obj [])], .ofMillis 2000, .cached⟩ ∧
      Returns .standard overtakenRefresh 6 .findIssues later ∧ later.result.isSome = true := by
  obtain ⟨describes, _, returns, present, _⟩ :=
    views_describe_and_never_blank .standard overtakenRefresh .findIssues
  obtain ⟨view, returned⟩ := returns 4 _ _ _ rfl
  obtain ⟨later, returnedLater⟩ := returns 6 _ _ _ rfl
  have described := describes 4 view returned
  have pending : view.status = .pending := described.untracked described.record
  refine ⟨view, later, ⟨_, rfl, by rfl⟩, returned, pending, ?_, returnedLater, ?_⟩
  · rw [described.result, pending]
    rfl
  · exact (present 4 rfl).2 6 later (by decide) returnedLater

end Engine

end JobWatch

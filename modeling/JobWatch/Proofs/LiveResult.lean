import JobWatch.Proofs.Account

/-!
# The live result

A live result is on show exactly while its job runs. It is put up in one place and has to be taken
down on every way out of the session, and the account of the session tells which payload it holds.
-/

set_option autoImplicit false

namespace JobWatch

/-- How the live result of a kind agrees with its slot and with the account of its session. -/
structure LiveShown (kind : Kind) (slot : Option Record) (live : Option Snapshot)
    (account : Account) : Prop where
  running : live.isSome = true ↔ ∃ record, slot = some record ∧ record.status = .running
  latest : ∀ snapshot, live = some snapshot → snapshot.kind = kind ∧ snapshot.source = .live ∧
    account.payloads.getLast? = some snapshot.payload ∧
    Completion.detect kind snapshot.payload = .pending

namespace LiveShown

variable {kind : Kind} {slot : Option Record} {live : Option Snapshot} {account : Account}

/-- Nothing is shown of a job that does not run. -/
theorem taken_down (idle : ∀ record, slot = some record → record.status ≠ .running) :
    LiveShown kind slot none account := by
  constructor
  · constructor
    · intro shown
      cases shown
    · rintro ⟨record, held, runs⟩
      exact absurd runs (idle record held)
  · intro snapshot shown
    cases shown

theorem put_up {record : Record} {payload : Json} (runs : record.status = .running)
    (latest : account.payloads.getLast? = some payload)
    (pending : Completion.detect kind payload = .pending) (now : Timestamp) :
    LiveShown kind (some record) (some ⟨kind, payload, now, .live⟩) account := by
  constructor
  · constructor
    · exact fun _ => ⟨record, rfl, runs⟩
    · exact fun _ => rfl
  · intro snapshot shown
    cases shown
    exact ⟨rfl, rfl, latest, pending⟩

theorem carried_on {record next : Record} {later : Account}
    (shown : LiveShown kind (some record) live account) (status : next.status = record.status)
    (payloads : later.payloads = account.payloads) :
    LiveShown kind (some next) live later := by
  constructor
  · rw [shown.running]
    constructor
    · rintro ⟨_, ⟨⟩, runs⟩
      exact ⟨next, rfl, status.trans runs⟩
    · rintro ⟨_, ⟨⟩, runs⟩
      exact ⟨record, rfl, status.symm.trans runs⟩
  · rw [payloads]
    exact shown.latest

end LiveShown

theorem SlotChange.liveShown {settings : EngineSettings} {kind : Kind} {move : Move}
    {slot slot' : Option Record} {live live' : Option Snapshot} {report : Report}
    (change : SlotChange settings kind move slot live report slot' live') {account : Account}
    (shown : LiveShown kind slot live account) :
    LiveShown kind slot' live' (account.next report) := by
  -- Every change but a payload of a job that goes on and a failure that is retried takes the live
  -- result down, and leaves a slot that is empty or holds a job that does not run.
  have down : (∀ record, slot' = some record → record.status ≠ .running) →
      LiveShown kind slot' none (account.next report) := LiveShown.taken_down
  cases change with
  | kept => rwa [Account.next_silent]
  | opened =>
      apply down
      rintro _ ⟨⟩ ⟨⟩
  | stopped =>
      apply down
      rintro _ ⟨⟩ ⟨⟩
  | vacated => exact down (by rintro _ ⟨⟩)
  | progressed _ _ pending => exact .put_up rfl (by simp) pending _
  | completed => exact down (by rintro _ ⟨⟩)
  | failed =>
      apply down
      rintro _ ⟨⟩ ⟨⟩
  | retried held =>
      subst held
      exact shown.carried_on rfl (by simp)
  | exhausted => exact down (by rintro _ ⟨⟩)
  | aborted =>
      apply down
      rintro _ ⟨⟩ ⟨⟩

namespace Engine

theorem liveShown_after (settings : EngineSettings) (moves : List Move) (kind : Kind) :
    LiveShown kind ((initial.after settings moves).store.get? kind)
      ((initial.after settings moves).results.live? kind)
      (initial.account settings kind .empty moves) := by
  apply account_invariant
  · exact .taken_down (by rintro _ ⟨⟩)
  · intro move _ slot live report slot' live' account change shown
    exact change.liveShown shown

/-- Between two moves a live result is there exactly if the slot holds a running job. It is a live
snapshot of the kind, and it holds the latest payload of the current session, which says neither
that the job is done nor that it failed. -/
theorem live_iff_running (settings : EngineSettings) (moves : List Move) (kind : Kind) :
    let engine := initial.after settings moves
    let account := initial.account settings kind .empty moves
    ((engine.results.live? kind).isSome = true ↔
      ∃ record, engine.record? kind = some record ∧ record.status = .running) ∧
    ∀ snapshot, engine.results.live? kind = some snapshot →
      snapshot.kind = kind ∧ snapshot.source = .live ∧
        account.payloads.getLast? = some snapshot.payload ∧
        Completion.detect kind snapshot.payload = .pending := by
  intro engine account
  have shown := liveShown_after settings moves kind
  exact ⟨shown.running, shown.latest⟩

/-- A job is reset during its second fetch and tracked again under the same name. -/
def retrackedDuringFetch : List Move := [
  .begin (.ofMillis 0) (.track .catalogAi ⟨"J1"⟩),
  .tick 0 0, .respond (.ofMillis 1) 0 (.ok (.str "first")), .tick 3000 0,
  .begin (.ofMillis 3001) (.reset .catalogAi),
  .begin (.ofMillis 3002) (.track .catalogAi ⟨"J1"⟩),
  .tick 3002 1, .respond (.ofMillis 3003) 1 (.ok (.str "second")),
  .respond (.ofMillis 3004) 0 (.ok (.str "third"))]

theorem live_of_retracked_job :
    ∃ snapshot, (initial.after .standard retrackedDuringFetch).results.live? .catalogAi =
        some snapshot ∧ snapshot.payload = .str "second" ∧
      (initial.account .standard .catalogAi .empty retrackedDuringFetch).payloads.getLast? =
        some snapshot.payload := by
  refine ⟨⟨.catalogAi, .str "second", .ofMillis 3003, .live⟩, by rfl, rfl, ?_⟩
  exact ((live_iff_running .standard retrackedDuringFetch .catalogAi).2 _ rfl).2.2.1

end Engine

end JobWatch

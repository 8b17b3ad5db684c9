import JobWatch.Proofs.TimestampText
import JobWatch.Proofs.UuidText
import JobWatch.Proofs.WireReading

/-!
# Data across the wire

Whatever crosses the wire is read back from its own JSON form, in whatever order the members of
the objects in it stand. Payloads are passed on as they are, so no key inside one is mistaken for
a field.
-/

set_option autoImplicit false

namespace JobWatch

/-! ## Moments and payloads -/

def Record.moments (record : Record) : List Timestamp := [record.startedAt, record.updatedAt]

def View.moments (view : View) : List Timestamp :=
  view.record.toList.flatMap Record.moments ++ view.result.toList.map Snapshot.capturedAt

def View.payloads (view : View) : List Json := view.result.toList.map Snapshot.payload

def Event.payloads : Event → List Json
  | .jobCompleted _ _ payload => [payload]
  | _ => []

namespace Wire

/-- Data is read back from its form in an order of members, also where it was held back. -/
def ReadsBack {α : Type} [Wire α] (order : Arrangement) (x : α) : Prop :=
  ∀ held, read? ⟨none, held⟩ (Raw.ofJson (order.arrange (toJson x))) = some x

variable (order : Arrangement)

/-! ## Fields -/

section

variable {order} {held : Bool}

theorem ReadsBack.required {α : Type} [Wire α] {x : α} (readsBack : ReadsBack order x) :
    Raw.required? (read? ⟨none, held⟩) (some (Raw.ofJson (order.arrange (toJson x)))) = some x :=
  readsBack held

theorem text?_arrange (s : String) :
    Raw.text? (Raw.ofJson (order.arrange (.str s))) = some s := by
  rw [order.str]
  rfl

theorem required_text (s : String) :
    Raw.required? Raw.text? (some (Raw.ofJson (order.arrange (.str s)))) = some s :=
  text?_arrange s

theorem required_bool (b : Bool) :
    Raw.required? Raw.bool? (some (Raw.ofJson (order.arrange (.bool b)))) = some b := by
  rw [order.bool]
  rfl

theorem word?_arrange (w : UInt32) :
    Raw.word? (Raw.ofJson (order.arrange (.ofNat w.toNat))) = some w := by
  have small : w.toNat < UInt32.size := w.toNat_lt
  rw [Json.ofNat, order.num]
  simp [Raw.ofJson, Raw.word?, Raw.below?, small]

theorem required_word (w : UInt32) :
    Raw.required? Raw.word? (some (Raw.ofJson (order.arrange (.ofNat w.toNat)))) = some w :=
  word?_arrange w

/-- An optional field is read back if nothing that is present is written as `null`. -/
theorem optionalField?_arrange {α : Type} {read : Raw → Option α} {write : α → Json}
    {field : Option α}
    (reads : ∀ a ∈ field, read (Raw.ofJson (order.arrange (write a))) = some a)
    (present : ∀ a ∈ field, Raw.ofJson (order.arrange (write a)) ≠ .null) :
    Raw.optionalField? read (some (Raw.ofJson (order.arrange (.ofOption write field)))) =
      some field := by
  cases field with
  | none =>
      rw [Json.ofOption, order.null]
      rfl
  | some a =>
      rw [Json.ofOption, Raw.optionalField?, Raw.optional?.eq_def]
      split
      · next absent => exact absurd absent (present a rfl)
      · rw [reads a rfl]
        rfl

theorem optionalText (field : Option String) :
    Raw.optionalField? Raw.text? (some (Raw.ofJson (order.arrange (.ofOption .str field)))) =
      some field := by
  apply optionalField?_arrange
  · exact fun s _ => text?_arrange s
  · intro s _
    rw [order.str]
    exact nofun

theorem optionalWord (field : Option UInt32) :
    Raw.optionalField? Raw.word?
      (some (Raw.ofJson (order.arrange (.ofOption (fun w => .ofNat w.toNat) field)))) =
        some field := by
  apply optionalField?_arrange
  · exact fun w _ => word?_arrange w
  · intro w _
    rw [Json.ofNat, order.num]
    exact nofun

/-- A record is never written as `null`. -/
theorem ReadsBack.optional {α : Type} [Wire α] {field : Option α}
    (readsBack : ∀ x ∈ field, ReadsBack order x)
    (isRecord : ∀ x ∈ field, ∃ members, toJson x = .obj members ∧
      (members.map Prod.fst).Nodup) :
    Raw.optionalField? (read? ⟨none, held⟩)
      (some (Raw.ofJson (order.arrange (.ofOption toJson field)))) = some field := by
  apply optionalField?_arrange
  · exact fun x member => readsBack x member held
  · intro x member
    obtain ⟨members, written, distinct⟩ := isRecord x member
    obtain ⟨others, arranged, _⟩ := order.obj members distinct
    rw [written, arranged]
    exact nofun

end

/-! ## Names, identities and moments -/

theorem readsBack_kind (kind : Kind) : ReadsBack order kind := by
  intro held
  simp only [toJson, order.str]
  exact Kind.ofName?_name kind

theorem readsBack_status (status : Status) : ReadsBack order status := by
  intro held
  simp only [toJson, order.str]
  exact Status.ofName?_name status

theorem readsBack_source (source : SnapshotSource) : ReadsBack order source := by
  intro held
  simp only [toJson, order.str]
  cases source <;> rfl

theorem readsBack_jobId (id : JobId) : ReadsBack order id := by
  intro held
  simp only [toJson, order.str]
  rfl

theorem readsBack_timestamp {t : Timestamp} (common : t.Common) : ReadsBack order t := by
  intro held
  simp only [toJson, order.str, read?, Raw.ofJson, Raw.text?, Option.bind_some]
  exact Timestamp.parse?_text common

theorem readsBack_uuid (id : Uuid) : ReadsBack order id := by
  intro held
  simp only [toJson, order.str, read?, Raw.ofJson, Raw.text?, Option.bind_some]
  exact Uuid.parse?_text id

theorem required_payload {payload : Json} (ordered : order.arrange payload = payload)
    {held : Bool} :
    Raw.required? (read? ⟨none, held⟩) (some (Raw.ofJson (order.arrange payload))) =
      some payload := by
  rw [ordered]
  cases held
  · exact Raw.value?_ofJson payload
  · exact Raw.value?_ofJson payload

/-! ## Records -/

theorem readsBack_retryBudget (budget : RetryBudget) : ReadsBack order budget := by
  intro held
  have fields := order.fields?_arrange held (rfl : toJson budget = _) (by simp)
  refine (congrArg (Option.bind · _) fields).trans ?_
  simp [required_word]

theorem readsBack_record {record : Record} (started : record.startedAt.Common)
    (updated : record.updatedAt.Common) : ReadsBack order record := by
  intro held
  have fields := order.fields?_arrange held (rfl : toJson record = _) (by simp)
  -- Every reader of records looks its fields up first and then reads them one by one.
  refine (congrArg (Option.bind · _) fields).trans ?_
  simp [(readsBack_jobId order record.id).required, (readsBack_kind order record.kind).required,
    (readsBack_status order record.status).required,
    (readsBack_timestamp order started).required, (readsBack_timestamp order updated).required,
    optionalText, (readsBack_retryBudget order record.retryBudget).required]

theorem readsBack_snapshot {snapshot : Snapshot} (captured : snapshot.capturedAt.Common)
    (ordered : order.arrange snapshot.payload = snapshot.payload) : ReadsBack order snapshot := by
  intro held
  have fields := order.fields?_arrange held (rfl : toJson snapshot = _) (by simp)
  refine (congrArg (Option.bind · _) fields).trans ?_
  simp [(readsBack_kind order snapshot.kind).required, required_payload order ordered,
    (readsBack_timestamp order captured).required,
    (readsBack_source order snapshot.source).required]

theorem readsBack_view {view : View} (record : ∀ record ∈ view.record, ReadsBack order record)
    (result : ∀ snapshot ∈ view.result, ReadsBack order snapshot) : ReadsBack order view := by
  intro held
  have fields := order.fields?_arrange held (rfl : toJson view = _) (by simp)
  refine (congrArg (Option.bind · _) fields).trans ?_
  simp [(readsBack_kind order view.kind).required, (readsBack_status order view.status).required,
    required_bool, ReadsBack.optional record fun record _ => ⟨_, rfl, by simp⟩,
    ReadsBack.optional result fun snapshot _ => ⟨_, rfl, by simp⟩]

theorem readsBack_startRequest (request : StartRequest) : ReadsBack order request := by
  intro held
  have fields := order.fields?_arrange held (rfl : toJson request = _) (by simp)
  refine (congrArg (Option.bind · _) fields).trans ?_
  simp [optionalText, optionalWord]

theorem readsBack_trackRequest (request : TrackRequest) : ReadsBack order request := by
  intro held
  have fields := order.fields?_arrange held (rfl : toJson request = _) (by simp)
  refine (congrArg (Option.bind · _) fields).trans ?_
  simp [(readsBack_jobId order request.jobId).required]

theorem readsBack_startedJob (started : StartedJob) : ReadsBack order started := by
  intro held
  have fields := order.fields?_arrange held (rfl : toJson started = _) (by simp)
  have id : Raw.optionalField? (read? ⟨none, held⟩)
      (some (Raw.ofJson (order.arrange (.ofOption toJson started.id)))) = some started.id := by
    apply optionalField?_arrange
    · exact fun id _ => readsBack_jobId order id held
    · intro id _
      simp only [toJson, order.str]
      exact nofun
  refine (congrArg (Option.bind · _) fields).trans ?_
  simp [id]

/-! ## Choices -/

theorem readsBack_failureReason (reason : FailureReason) : ReadsBack order reason := by
  intro held
  cases reason with
  | rejected =>
      have known : reasonNames.findIdx? (· == "rejected") = some 0 := by decide
      obtain ⟨others, changed, arranged⟩ := order.obj [("type", .str "rejected")] (by simp)
      obtain ⟨rest, tagged, _⟩ := Arrangement.Arranges.tagged? arranged (by simp) known held
      simp only [toJson, changed, read?, Raw.hold?_ofJson, Option.bind_eq_bind, Option.bind_some,
        tagged]
      rfl
  | budgetExhausted attempts =>
      have known : reasonNames.findIdx? (· == "budget_exhausted") = some 1 := by decide
      obtain ⟨others, changed, arranged⟩ := order.obj
        [("type", .str "budget_exhausted"), ("attempts", .ofNat attempts.toNat)] (by simp)
      obtain ⟨rest, tagged, fields⟩ :=
        Arrangement.Arranges.tagged? arranged (by simp [Raw.tagKey]) known held
      simp only [List.map_cons, List.map_nil] at fields
      simp [toJson, changed, read?, tagged, fields, required_word]

theorem readsBack_failure (failure : Failure) : ReadsBack order failure := by
  intro held
  have fields := order.fields?_arrange held (rfl : toJson failure = _) (by simp)
  refine (congrArg (Option.bind · _) fields).trans ?_
  simp [(readsBack_failureReason order failure.reason).required, required_text]

theorem distinct_eventMembers (event : Event) : ((eventMembers event).map Prod.fst).Nodup := by
  cases event <;> simp [eventMembers]

/-- An event is read back from its members, in whatever order they stand. -/
theorem readHeldEvent?_of_arranges {order : Arrangement} {event : Event}
    {others : List (String × Json)} (arranged : order.Arranges (eventMembers event) others)
    (ordered : ∀ payload ∈ event.payloads, order.arrange payload = payload) (tagHeld : Bool) :
    readHeldEvent? tagHeld (Raw.ofJson (.obj others)) = some event := by
  have distinct := distinct_eventMembers event
  -- The tag selects what the remaining members are read as.
  cases event with
  | jobStarted kind job =>
      have known : eventNames.findIdx? (· == "job_started") = some 0 := by decide
      obtain ⟨rest, tagged, fields⟩ :=
        Arrangement.Arranges.tagged? arranged distinct known tagHeld
      simp only [List.map_cons, List.map_nil] at fields
      simp [readHeldEvent?, tagged, fields, (readsBack_kind order kind).required,
        (readsBack_jobId order job).required]
  | jobCompleted kind job payload =>
      have known : eventNames.findIdx? (· == "job_completed") = some 1 := by decide
      obtain ⟨rest, tagged, fields⟩ :=
        Arrangement.Arranges.tagged? arranged distinct known tagHeld
      have kept := ordered payload List.mem_cons_self
      simp only [List.map_cons, List.map_nil] at fields
      simp [readHeldEvent?, tagged, fields, (readsBack_kind order kind).required,
        (readsBack_jobId order job).required, required_payload order kept]
  | jobFailed kind job failure =>
      have known : eventNames.findIdx? (· == "job_failed") = some 2 := by decide
      obtain ⟨rest, tagged, fields⟩ :=
        Arrangement.Arranges.tagged? arranged distinct known tagHeld
      simp only [List.map_cons, List.map_nil] at fields
      simp [readHeldEvent?, tagged, fields, (readsBack_kind order kind).required,
        (readsBack_jobId order job).required, (readsBack_failure order failure).required]
  | jobStopped kind job =>
      have known : eventNames.findIdx? (· == "job_stopped") = some 3 := by decide
      obtain ⟨rest, tagged, fields⟩ :=
        Arrangement.Arranges.tagged? arranged distinct known tagHeld
      simp only [List.map_cons, List.map_nil] at fields
      simp [readHeldEvent?, tagged, fields, (readsBack_kind order kind).required,
        (readsBack_jobId order job).required]
  | cacheInvalidated key =>
      have known : eventNames.findIdx? (· == "cache_invalidated") = some 4 := by decide
      obtain ⟨rest, tagged, fields⟩ :=
        Arrangement.Arranges.tagged? arranged distinct known tagHeld
      simp only [List.map_cons, List.map_nil] at fields
      simp [readHeldEvent?, tagged, fields, required_text]

theorem readsBack_event {event : Event}
    (ordered : ∀ payload ∈ event.payloads, order.arrange payload = payload) :
    ReadsBack order event := by
  intro held
  obtain ⟨others, changed, arranged⟩ := order.obj (eventMembers event) (distinct_eventMembers event)
  simp only [toJson, changed, read?, Raw.hold?_ofJson, Option.bind_some]
  exact readHeldEvent?_of_arranges arranged ordered held

theorem distinct_noticeMembers (id : String) (notice : Notice) :
    ((noticeMembers id notice).map Prod.fst).Nodup := by
  obtain ⟨publishedAt, event⟩ := notice
  cases event <;> simp [noticeMembers, eventMembers]

/-- The members of an envelope that are not its own are those of its event. -/
theorem arranges_of_envelope {order : Arrangement} {id : String} {notice : Notice}
    {others : List (String × Json)} (arranged : order.Arranges (noticeMembers id notice) others) :
    order.Arranges (eventMembers notice.event)
      (others.filter fun member => belongsToEvent (some member.1, .null)) := by
  have filtered := List.Perm.filter (fun member => belongsToEvent (some member.1, .null)) arranged
  obtain ⟨publishedAt, event⟩ := notice
  cases event <;>
    simpa [noticeMembers, eventMembers, belongsToEvent, Arrangement.Arranges] using filtered

theorem readsBack_envelope {envelope : Envelope} (published : envelope.notice.publishedAt.Common)
    (ordered : ∀ payload ∈ envelope.notice.event.payloads, order.arrange payload = payload) :
    ReadsBack order envelope := by
  intro held
  have distinct := distinct_noticeMembers envelope.id.text envelope.notice
  obtain ⟨others, changed, arranged⟩ := order.obj _ distinct
  have own : [("id", order.arrange (toJson envelope.id)),
      ("ts", order.arrange (toJson envelope.notice.publishedAt))] ⊆ others := by
    refine List.Subset.trans ?_ arranged.symm.subset
    simp [noticeMembers, toJson]
  have fields := Raw.fields?_ofJson (Arrangement.Arranges.distinct arranged distinct) own held
  -- The event gets what is left when the members of the envelope are taken out.
  have event := readHeldEvent?_of_arranges (arranges_of_envelope arranged) ordered true
  have theirs : Raw.obj ((Raw.ofMembers others).filter belongsToEvent) =
      Raw.ofJson (.obj (others.filter fun member => belongsToEvent (some member.1, .null))) :=
    congrArg Raw.obj (Raw.filter_ofMembers (fun key => key != some "id" && key != some "ts") others)
  simp only [toJson, changed]
  refine (congrArg (Option.bind · _) fields).trans ?_
  simp [theirs, event, (readsBack_uuid order envelope.id).required,
    (readsBack_timestamp order published).required]

/-! ## Round trips -/

/-- Data is read back from its JSON form, as it is written and with all members in key order. A
payload that is in key order already is not changed by the latter. -/
structure Survives {α : Type} [Wire α] (payloads : List Json) (x : α) : Prop where
  asWritten : ofJson? α (toJson x) = some x
  byKey : (∀ payload ∈ payloads, payload.canonical = payload) →
    ofJson? α (toJson x).canonical = some x

theorem survives_of_readsBack {α : Type} [Wire α] {payloads : List Json} {x : α}
    (readsBack : ∀ order : Arrangement,
      (∀ payload ∈ payloads, order.arrange payload = payload) → ReadsBack order x) :
    Survives payloads x where
  asWritten := readsBack .asWritten (fun _ _ => rfl) false
  byKey ordered := readsBack .byKey ordered false

/-- Everything that crosses the wire survives it, and the tag of an event is its name. -/
theorem data_survives_the_wire :
    (∀ record : Record, (∀ t ∈ record.moments, t.Common) → Survives [] record) ∧
    (∀ snapshot : Snapshot, snapshot.capturedAt.Common → Survives [snapshot.payload] snapshot) ∧
    (∀ view : View, (∀ t ∈ view.moments, t.Common) → Survives view.payloads view) ∧
    (∀ failure : Failure, Survives [] failure) ∧
    (∀ reason : FailureReason, Survives [] reason) ∧
    (∀ request : StartRequest, Survives [] request) ∧
    (∀ request : TrackRequest, Survives [] request) ∧
    (∀ started : StartedJob, Survives [] started) ∧
    (∀ event : Event, Survives event.payloads event) ∧
    (∀ envelope : Envelope, envelope.notice.publishedAt.Common →
      Survives envelope.notice.event.payloads envelope) ∧
    (∀ event : Event, (toJson event).get? "type" = some (.str event.name)) ∧
    (∀ envelope : Envelope,
      (toJson envelope).get? "type" = some (.str envelope.notice.event.name)) := by
  refine ⟨?_, ?_, ?_, ?_, ?_, ?_, ?_, ?_, ?_, ?_, ?_, ?_⟩
  · intro record common
    exact survives_of_readsBack fun order _ =>
      readsBack_record order (common _ (by simp [Record.moments]))
        (common _ (by simp [Record.moments]))
  · intro snapshot common
    exact survives_of_readsBack fun order ordered =>
      readsBack_snapshot order common (ordered _ (by simp))
  · intro view common
    refine survives_of_readsBack fun order ordered => readsBack_view order ?_ ?_
    · intro record shown
      rw [Option.mem_def] at shown
      exact readsBack_record order (common _ (by simp [View.moments, Record.moments, shown]))
        (common _ (by simp [View.moments, Record.moments, shown]))
    · intro snapshot shown
      rw [Option.mem_def] at shown
      exact readsBack_snapshot order (common _ (by simp [View.moments, shown]))
        (ordered _ (by simp [View.payloads, shown]))
  · exact fun failure => survives_of_readsBack fun order _ => readsBack_failure order failure
  · exact fun reason => survives_of_readsBack fun order _ => readsBack_failureReason order reason
  · exact fun request => survives_of_readsBack fun order _ => readsBack_startRequest order request
  · exact fun request => survives_of_readsBack fun order _ => readsBack_trackRequest order request
  · exact fun started => survives_of_readsBack fun order _ => readsBack_startedJob order started
  · exact fun event => survives_of_readsBack fun order => readsBack_event order
  · exact fun envelope common => survives_of_readsBack fun order =>
      readsBack_envelope order common
  · intro event
    cases event <;> rfl
  · intro envelope
    obtain ⟨id, publishedAt, event⟩ := envelope
    cases event <;> rfl

/-- Half a second before the end of a leap day. -/
def leapDay : Timestamp := ⟨1709251199, 500000000⟩

/-- An envelope whose payload has the keys of the envelope itself. -/
def lookalike : Envelope where
  id := ⟨7⟩
  notice := {
    publishedAt := leapDay
    event := .jobCompleted .findIssues ⟨"J1"⟩ (.obj [("id", .null), ("kind", .str "catalog_ai"),
      ("ts", .bool true), ("type", .str "job_failed")]) }

theorem lookalike_survives :
    ofJson? Envelope (toJson lookalike) = some lookalike ∧
      ofJson? Envelope (toJson lookalike).canonical = some lookalike ∧
      (toJson lookalike).get? "type" = some (.str "job_completed") := by
  obtain ⟨_, _, _, _, _, _, _, _, _, envelopes, _, tags⟩ := data_survives_the_wire
  have common : leapDay.Common := ⟨by decide, by decide, by decide⟩
  have survives := envelopes lookalike common
  have ordered : ∀ payload ∈ lookalike.notice.event.payloads, payload.canonical = payload := by
    intro payload listed
    rw [List.mem_singleton.mp listed]
    rfl
  exact ⟨survives.asWritten, survives.byKey ordered, tags lookalike⟩

end Wire

end JobWatch

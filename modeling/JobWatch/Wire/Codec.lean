import JobWatch.Event
import JobWatch.Wire.Reading

/-!
# The wire forms of the tracker's data

Every type that crosses the wire has a JSON form and a reader for it. Fields are named in camel
case, except inside events, and stand in a fixed order. `Wire.ofText?` reads a text,
`Wire.ofJson?` a value.
-/

set_option autoImplicit false

namespace JobWatch

class Wire (α : Type) where
  toJson : α → Json
  read? : Reading → Raw → Option α

namespace Wire

def ofText? (α : Type) [Wire α] (text : String) : Option α :=
  (Raw.ofText? text).bind (read? Reading.ofText)

def ofJson? (α : Type) [Wire α] (value : Json) : Option α :=
  read? Reading.ofValue (Raw.ofJson value)

instance : Wire Kind where
  toJson kind := .str kind.name
  read? r raw := (raw.choice? r).bind Kind.ofName?

instance : Wire Status where
  toJson status := .str status.name
  read? r raw := (raw.choice? r).bind Status.ofName?

instance : Wire SnapshotSource where
  toJson source := .str source.name
  read? r raw := (raw.choice? r).bind fun name =>
    [SnapshotSource.live, .cached].find? fun source => source.name == name

instance : Wire JobId where
  toJson id := .str id.text
  read? _ raw := raw.text?.map JobId.mk

instance : Wire Timestamp where
  toJson t := .str t.text
  read? _ raw := raw.text?.bind Timestamp.parse?

instance : Wire Uuid where
  toJson id := .str id.text
  read? _ raw := raw.text?.bind Uuid.parse?

/-- A payload is any value, passed on as it is. -/
instance : Wire Json where
  toJson v := v
  read? r raw := raw.value? (if r.held then none else r.limit)

instance : Wire RetryBudget where
  toJson budget := .obj [("consumed", .ofNat budget.consumed.toNat)]
  read? r raw := do
    let (_, [consumed]) ← raw.fields? r ["consumed"] | none
    return ⟨← Raw.required? Raw.word? consumed⟩

instance : Wire Record where
  toJson record := .obj [
    ("id", toJson record.id),
    ("kind", toJson record.kind),
    ("status", toJson record.status),
    ("startedAt", toJson record.startedAt),
    ("updatedAt", toJson record.updatedAt),
    ("lastError", .ofOption .str record.lastError),
    ("retryBudget", toJson record.retryBudget)]
  read? r raw := do
    let (inner, [id, kind, status, startedAt, updatedAt, lastError, retryBudget]) ←
      raw.fields? r
        ["id", "kind", "status", "startedAt", "updatedAt", "lastError", "retryBudget"] | none
    return {
      id := ← Raw.required? (read? inner) id
      kind := ← Raw.required? (read? inner) kind
      status := ← Raw.required? (read? inner) status
      startedAt := ← Raw.required? (read? inner) startedAt
      updatedAt := ← Raw.required? (read? inner) updatedAt
      lastError := ← Raw.optionalField? Raw.text? lastError
      retryBudget := ← Raw.required? (read? inner) retryBudget }

instance : Wire Snapshot where
  toJson snapshot := .obj [
    ("kind", toJson snapshot.kind),
    ("payload", snapshot.payload),
    ("capturedAt", toJson snapshot.capturedAt),
    ("source", toJson snapshot.source)]
  read? r raw := do
    let (inner, [kind, payload, capturedAt, source]) ←
      raw.fields? r ["kind", "payload", "capturedAt", "source"] | none
    return {
      kind := ← Raw.required? (read? inner) kind
      payload := ← Raw.required? (read? inner) payload
      capturedAt := ← Raw.required? (read? inner) capturedAt
      source := ← Raw.required? (read? inner) source }

instance : Wire View where
  toJson view := .obj [
    ("kind", toJson view.kind),
    ("status", toJson view.status),
    ("processing", .bool view.processing),
    ("record", .ofOption toJson view.record),
    ("result", .ofOption toJson view.result)]
  read? r raw := do
    let (inner, [kind, status, processing, record, result]) ←
      raw.fields? r ["kind", "status", "processing", "record", "result"] | none
    return {
      kind := ← Raw.required? (read? inner) kind
      status := ← Raw.required? (read? inner) status
      processing := ← Raw.required? Raw.bool? processing
      record := ← Raw.optionalField? (read? inner) record
      result := ← Raw.optionalField? (read? inner) result }

def reasonNames : List String := ["rejected", "budget_exhausted"]

instance : Wire FailureReason where
  toJson
    | .rejected => .obj [("type", .str "rejected")]
    | .budgetExhausted attempts =>
      .obj [("type", .str "budget_exhausted"), ("attempts", .ofNat attempts.toNat)]
  read? r raw := do
    let (index, rest) ← (← raw.hold? r).tagged? r.held reasonNames
    match index with
    | 0 => return ← rest.noFields?.map fun _ => .rejected
    | _ =>
      let (_, [attempts]) ← rest.fields? ⟨none, true⟩ ["attempts"] | none
      return .budgetExhausted (← Raw.required? Raw.word? attempts)

instance : Wire Failure where
  toJson failure := .obj [
    ("reason", toJson failure.reason),
    ("message", .str failure.message)]
  read? r raw := do
    let (inner, [reason, message]) ← raw.fields? r ["reason", "message"] | none
    return {
      reason := ← Raw.required? (read? inner) reason
      message := ← Raw.required? Raw.text? message }

instance : Wire StartRequest where
  toJson request := .obj [
    ("path", .ofOption .str request.path),
    ("depth", .ofOption (fun depth => .ofNat depth.toNat) request.depth),
    ("logLevel", .ofOption .str request.logLevel)]
  read? r raw := do
    let (_, [path, depth, logLevel]) ← raw.fields? r ["path", "depth", "logLevel"] | none
    return {
      path := ← Raw.optionalField? Raw.text? path
      depth := ← Raw.optionalField? Raw.word? depth
      logLevel := ← Raw.optionalField? Raw.text? logLevel }

instance : Wire StartedJob where
  toJson started := .obj [("id", .ofOption toJson started.id)]
  read? r raw := do
    let (inner, [id]) ← raw.fields? r ["id"] | none
    return ⟨← Raw.optionalField? (read? inner) id⟩

instance : Wire TrackRequest where
  toJson request := .obj [("jobId", toJson request.jobId)]
  read? r raw := do
    let (inner, [jobId]) ← raw.fields? r ["jobId"] | none
    return ⟨← Raw.required? (read? inner) jobId⟩

/-- The members of an event, its tag first. -/
def eventMembers : Event → List (String × Json)
  | .jobStarted kind job =>
    [("type", .str "job_started"), ("kind", toJson kind), ("job_id", toJson job)]
  | .jobCompleted kind job payload =>
    [("type", .str "job_completed"), ("kind", toJson kind), ("job_id", toJson job),
      ("payload", payload)]
  | .jobFailed kind job failure =>
    [("type", .str "job_failed"), ("kind", toJson kind), ("job_id", toJson job),
      ("failure", toJson failure)]
  | .jobStopped kind job =>
    [("type", .str "job_stopped"), ("kind", toJson kind), ("job_id", toJson job)]
  | .cacheInvalidated key => [("type", .str "cache_invalidated"), ("key", .str key)]

def eventNames : List String :=
  ["job_started", "job_completed", "job_failed", "job_stopped", "cache_invalidated"]

/-- Reads an event that has been held back. -/
def readHeldEvent? (tagHeld : Bool) (raw : Raw) : Option Event := do
  let (index, rest) ← raw.tagged? tagHeld eventNames
  let held : Reading := ⟨none, true⟩
  match index with
  | 0 =>
    let (_, [kind, job]) ← rest.fields? held ["kind", "job_id"] | none
    return .jobStarted (← Raw.required? (read? held) kind) (← Raw.required? (read? held) job)
  | 1 =>
    let (_, [kind, job, payload]) ← rest.fields? held ["kind", "job_id", "payload"] | none
    return .jobCompleted (← Raw.required? (read? held) kind) (← Raw.required? (read? held) job)
      (← Raw.required? (read? held) payload)
  | 2 =>
    let (_, [kind, job, failure]) ← rest.fields? held ["kind", "job_id", "failure"] | none
    return .jobFailed (← Raw.required? (read? held) kind) (← Raw.required? (read? held) job)
      (← Raw.required? (read? held) failure)
  | 3 =>
    let (_, [kind, job]) ← rest.fields? held ["kind", "job_id"] | none
    return .jobStopped (← Raw.required? (read? held) kind) (← Raw.required? (read? held) job)
  | _ =>
    let (_, [key]) ← rest.fields? held ["key"] | none
    return .cacheInvalidated (← Raw.required? Raw.text? key)

instance : Wire Event where
  toJson event := .obj (eventMembers event)
  read? r raw := (raw.hold? r).bind (readHeldEvent? r.held)

def noticeMembers (id : String) (notice : Notice) : List (String × Json) :=
  ("id", .str id) :: ("ts", toJson notice.publishedAt) :: eventMembers notice.event

/-- Whether a member of an envelope belongs to its event. -/
def belongsToEvent (member : Option String × Raw) : Bool :=
  member.1 != some "id" && member.1 != some "ts"

instance : Wire Envelope where
  toJson envelope := .obj (noticeMembers envelope.id.text envelope.notice)
  read? r raw := do
    let .obj members := raw | none
    let (inner, [id, ts]) ← raw.fields? r ["id", "ts"] | none
    let event := Raw.obj (members.filter belongsToEvent)
    let event ← event.hold? { inner with limit := r.limit }
    return {
      id := ← Raw.required? (read? inner) id
      notice := {
        publishedAt := ← Raw.required? (read? inner) ts
        event := ← readHeldEvent? true event } }

end Wire

end JobWatch

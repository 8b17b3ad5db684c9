import JobWatch.Http.Router
import JobWatch.Proofs.Coherence
import JobWatch.Proofs.Dialogue
import JobWatch.Proofs.Guards
import JobWatch.Simulation.EngineBench

/-!
# Refused requests

A request is refused before it reaches the engine, or by one of the moves that the engine makes
for it. Either way nothing that anybody can see is changed. A stop is the delicate case: it ends
polling before it is known whether there is a job to stop, and nothing is lost because only an
active job is polled.
-/

set_option autoImplicit false

namespace JobWatch

def Upshot.reply? : Upshot → Option Reply
  | .progress (.replied said) => some said
  | .reply said => some said
  | _ => none

def Reply.error? : Reply → Option EngineError
  | .tracked (.error error) => some error
  | .stopped (.error error) => some error
  | _ => none

theorem Reply.error_of_tracked {result : Except EngineError Record}
    (refused : (Reply.tracked result).error?.isSome = true) : ∃ error, result = .error error := by
  cases result with
  | ok record => cases refused
  | error error => exact ⟨error, rfl⟩

theorem Reply.error_of_stopped {result : Except EngineError Record}
    (refused : (Reply.stopped result).error?.isSome = true) : ∃ error, result = .error error := by
  cases result with
  | ok record => cases refused
  | error error => exact ⟨error, rfl⟩

namespace Engine

/-- A step of which nothing is left: records, results, completion markers and live sessions are
as they were, and nobody is told anything. -/
structure Traceless {α : Type} (engine : Engine) (step : Step α) : Prop where
  record : ∀ kind, step.engine.record? kind = engine.record? kind
  results : ∀ kind, step.engine.results.entry kind = engine.results.entry kind
  marker : ∀ kind,
    step.engine.bus.lastCompleted.get kind = engine.bus.lastCompleted.get kind
  sessions : ∀ n s, s.isLive = true →
    (step.engine.poller.session? n = some s ↔ engine.poller.session? n = some s)
  events : step.events = []

theorem traceless_of_eq {α : Type} {engine : Engine} {step : Step α}
    (same : step.engine = engine) (silent : step.events = []) : Traceless engine step := by
  subst same
  exact ⟨fun _ => rfl, fun _ => rfl, fun _ => rfl, fun _ _ _ => .rfl, silent⟩

theorem Traceless.map {α β : Type} {engine : Engine} {step : Step α}
    (traceless : Traceless engine step) (f : α → β) : Traceless engine (step.map f) :=
  ⟨traceless.record, traceless.results, traceless.marker, traceless.sessions, traceless.events⟩

variable {engine : Engine} {settings : EngineSettings} {kind : Kind}

/-- Without an active job of a kind there is no live session of the kind to detach. -/
theorem live_detach_iff (coherent : engine.Coherent)
    (inactive : engine.store.active? kind = none) (n : Nat) {s : Session}
    (live : s.isLive = true) :
    (engine.poller.detach kind).2.session? n = some s ↔ engine.poller.session? n = some s := by
  rw [Poller.session?_detach, Poller.session?_cancelAttached]
  split
  · next attached =>
      constructor
      · intro found
        obtain ⟨t, _, same⟩ := Option.map_eq_some_iff.mp found
        subst same
        cases (Session.isLive_iff.mp live).1
      · intro found
        obtain ⟨t, held, own, _⟩ := coherent.poller.held kind n attached
        rw [found] at held
        cases held
        -- The session in the slot is live, so its job would be the active one.
        obtain ⟨record, slot, _, active⟩ := Store.isCurrent_iff.mp (coherent.live n s found live)
        rw [own] at slot
        rw [Store.active?_eq_none_iff.mp inactive record slot] at active
        cases active
  · exact Iff.rfl

theorem traceless_stop (coherent : engine.Coherent) (now : Timestamp)
    (refused : ∃ error, (engine.stop now kind).reply = .error error) :
    Traceless engine (engine.stop now kind) := by
  obtain ⟨error, refused⟩ := refused
  cases found : engine.store.active? kind with
  | some record =>
      obtain ⟨held, active⟩ := Store.active?_eq_some_iff.mp found
      rw [stop_of_active engine now held active] at refused
      cases refused
  | none =>
      obtain ⟨source, stopped⟩ := stop_of_inactive engine now found
      rw [stopped]
      exact ⟨fun _ => rfl, fun _ => rfl, fun _ => rfl, fun n _ => live_detach_iff coherent found n,
        rfl⟩

theorem traceless_track (now : Timestamp) (id : JobId)
    (refused : ∃ error, (engine.track now kind id).reply = .error error) :
    Traceless engine (engine.track now kind id) := by
  obtain ⟨error, refused⟩ := refused
  cases found : engine.store.active? kind with
  | none =>
      rw [track_of_free engine now id found] at refused
      cases refused
  | some record =>
      rw [track_of_active engine now id found]
      exact traceless_of_eq rfl rfl

theorem traceless_startAnswered (now : Timestamp) (answer : StartAnswer)
    (refused : ∃ error, (engine.startAnswered now kind answer).reply = .error error) :
    Traceless engine (engine.startAnswered now kind answer) := by
  unfold startAnswered at refused ⊢
  split
  · exact traceless_of_eq rfl rfl
  · next started =>
      simp only at refused
      split
      · exact traceless_of_eq rfl rfl
      · next id named =>
          simp only [named] at refused
          exact traceless_track now id refused

/-- A move that asks the server a question does nothing else. -/
theorem traceless_of_asks {move : Move} {question : Question}
    (asks : (engine.perform settings move).reply = .progress (.asks question)) :
    Traceless engine (engine.perform settings move) := by
  obtain ⟨now, kind, ticket, rfl, _, issued⟩ | ⟨now, kind, request, rfl, _, free⟩ :=
    asks_cases asks
  · simp only [perform, begin, issued]
    exact traceless_of_eq rfl rfl
  · simp only [perform, begin, startRefusal?, free]
    exact traceless_of_eq rfl rfl

theorem traceless_of_refusal (coherent : engine.Coherent) {move : Move} {reply : Reply}
    (replied : (engine.perform settings move).reply.reply? = some reply)
    (refused : reply.error?.isSome = true) : Traceless engine (engine.perform settings move) := by
  cases move with
  | begin now action =>
      cases action with
      | view kind =>
          simp only [perform, begin, Step.map] at replied
          split at replied <;> cases replied
          cases refused
      | start kind request =>
          simp only [perform, begin]
          split <;> exact traceless_of_eq rfl rfl
      | track kind id =>
          cases replied
          exact (traceless_track now id (Reply.error_of_tracked refused)).map _ |>.map _
      | stop kind =>
          cases replied
          exact (traceless_stop coherent now (Reply.error_of_stopped refused)).map _ |>.map _
      | reset kind =>
          cases replied
          cases refused
  | resume now answer =>
      cases answer with
      | start kind answer =>
          cases replied
          exact (traceless_startAnswered now answer (Reply.error_of_tracked refused)).map _ |>.map _
      | lastResult kind ticket answer =>
          cases replied
          cases refused
  | shutdown => cases replied
  | tick time n => cases replied
  | respond now n outcome => cases replied

/-! ## Conflicts -/

theorem active_of_track_error {now : Timestamp} {id : JobId} {record : Record}
    (refused : (engine.track now kind id).reply = .error (.alreadyActive record)) :
    engine.store.active? kind = some record := by
  cases found : engine.store.active? kind with
  | none =>
      rw [track_of_free engine now id found] at refused
      cases refused
  | some other =>
      rw [track_of_active engine now id found] at refused
      cases refused
      rfl

theorem active_of_startAnswered_error {now : Timestamp} {answer : StartAnswer} {record : Record}
    (refused : (engine.startAnswered now kind answer).reply = .error (.alreadyActive record)) :
    engine.store.active? kind = some record := by
  unfold startAnswered at refused
  split at refused
  · cases refused
  · split at refused
    · cases refused
    · exact active_of_track_error refused

/-- Whoever is told that a job is already active is told of the one that is. -/
theorem active_of_begin {action : Action} {now : Timestamp} {reply : Reply} {record : Record}
    (replied : (engine.perform settings (.begin now action)).reply = .progress (.replied reply))
    (conflict : reply.error? = some (.alreadyActive record)) :
    engine.store.active? action.kind = some record := by
  cases action with
  | view kind =>
      simp only [perform, begin, Step.map] at replied
      split at replied <;> cases replied
      cases conflict
  | start kind request =>
      simp only [perform, begin, Step.map] at replied
      split at replied
      · next error refused =>
          cases replied
          cases conflict
          obtain ⟨active, found, same⟩ := Option.map_eq_some_iff.mp refused
          cases same
          exact found
      · cases replied
  | track kind id =>
      cases replied
      obtain ⟨error, refused⟩ := Reply.error_of_tracked (by rw [conflict]; rfl)
      rw [refused] at conflict
      cases conflict
      exact active_of_track_error refused
  | stop kind =>
      cases replied
      cases found : engine.store.active? kind with
      | none =>
          obtain ⟨source, stopped⟩ := stop_of_inactive engine now found
          rw [stopped] at conflict
          cases conflict
      | some other =>
          obtain ⟨held, active⟩ := Store.active?_eq_some_iff.mp found
          rw [stop_of_active engine now held active] at conflict
          cases conflict
  | reset kind =>
      cases replied
      cases conflict

theorem active_of_resume {answer : Answer} {now : Timestamp} {reply : Reply} {record : Record}
    (replied : (engine.perform settings (.resume now answer)).reply = .reply reply)
    (conflict : reply.error? = some (.alreadyActive record)) :
    engine.store.active? answer.kind = some record := by
  cases answer with
  | lastResult kind ticket answer =>
      cases replied
      cases conflict
  | start kind answer =>
      cases replied
      change (Reply.tracked (engine.startAnswered now kind answer).reply).error? = _ at conflict
      obtain ⟨error, refused⟩ := Reply.error_of_tracked (by rw [conflict]; rfl)
      rw [refused] at conflict
      cases conflict
      exact active_of_startAnswered_error refused

theorem kind_of_asks {action : Action} {now : Timestamp} {question : Question}
    {answer : Answer}
    (asks : (engine.perform settings (.begin now action)).reply = .progress (.asks question))
    (fits : answer.Fits question) : answer.kind = action.kind := by
  obtain ⟨_, kind, ticket, same, rfl, _⟩ | ⟨_, kind, request, same, rfl, _⟩ :=
    asks_cases asks
  · cases same
    cases fits
    rfl
  · cases same
    cases fits
    rfl

end Engine

/-! ## Requests -/

namespace Http

namespace Response

def member? (response : Response) (name : String) : Option Json :=
  match response.body with
  | .json value => value.get? name
  | _ => none

def code? (response : Response) : Option String :=
  ((response.member? "error").bind (·.get? "code")).bind Json.text?

/-- A reply is responded to with its error, or with a status that is none. -/
theorem ofReply_cases (reply : Reply) :
    (∃ error, reply.error? = some error ∧ ofReply reply = ofError error) ∨
      (ofReply reply).status < 400 := by
  cases reply with
  | view view => exact .inr (by simp [ofReply, json])
  | tracked result =>
      cases result with
      | ok record => exact .inr (by simp [ofReply, ofRecord, json])
      | error error => exact .inl ⟨error, rfl, rfl⟩
  | stopped result =>
      cases result with
      | ok record => exact .inr (by simp [ofReply, ofRecord, json])
      | error error => exact .inl ⟨error, rfl, rfl⟩
  | reset kind previous => exact .inr (by simp [ofReply, json])

theorem isRefusal_of_status {reply : Reply} (refused : 400 ≤ (ofReply reply).status) :
    reply.error?.isSome = true := by
  rcases ofReply_cases reply with ⟨error, failed, _⟩ | accepted
  · rw [failed]
    rfl
  · omega

theorem code?_refusal (status : Nat) (code message : String) :
    (refusal status code message).code? = some code := by
  simp [refusal, code?, member?, json, errorMember, Json.lookup?, Json.text?]

theorem conflict_of_ofError {error : EngineError}
    (code : (ofError error).code? = some "JOB_ALREADY_ACTIVE") :
    ∃ record, error = .alreadyActive record ∧
      (ofError error).member? "job" = some (Wire.toJson record) := by
  cases error with
  | alreadyActive record =>
      exact ⟨record, rfl, by simp [ofError, member?, json, Json.lookup?]⟩
  | noJobStarted kind =>
      rw [ofError, code?_refusal] at code
      simp at code
  | start kind source =>
      rw [ofError, code?_refusal] at code
      simp at code
  | store source =>
      rw [ofError, code?_refusal] at code
      simp at code

theorem conflict_of_ofReply {reply : Reply} (status : (ofReply reply).status = 409)
    (code : (ofReply reply).code? = some "JOB_ALREADY_ACTIVE") :
    ∃ record, reply.error? = some (.alreadyActive record) ∧
      (ofReply reply).member? "job" = some (Wire.toJson record) := by
  rcases ofReply_cases reply with ⟨error, failed, shown⟩ | accepted
  · rw [shown] at code ⊢
    obtain ⟨record, rfl, carried⟩ := conflict_of_ofError code
    exact ⟨record, failed, carried⟩
  · omega

end Response

/-! ## Refusals before the engine is reached -/

/-- The statuses of requests that cannot be read or are not served. -/
def unreadStatuses : List Nat := [400, 404, 405, 413, 415, 422]

theorem status_of_segmentText {segment : String} {response : Response}
    (refused : segmentText segment = .error response) : response.status ∈ unreadStatuses := by
  unfold segmentText at refused
  split at refused
  · cases refused
  · cases refused
    simp [Response.plain, unreadStatuses]

theorem status_of_kindNamed {raw : String} {response : Response}
    (refused : kindNamed raw = .error response) : response.status ∈ unreadStatuses := by
  unfold kindNamed at refused
  split at refused
  · cases refused
  · cases refused
    simp [Response.unknownKind, Response.refusal, Response.json, unreadStatuses]

theorem status_of_kindOf {segment : String} {response : Response}
    (refused : kindOf segment = .error response) : response.status ∈ unreadStatuses := by
  rcases Guards.bind_eq_error.mp refused with unread | ⟨raw, _, unnamed⟩
  · exact status_of_segmentText unread
  · exact status_of_kindNamed unnamed

theorem status_of_readBody {α : Type} {request : Request}
    {read : Json.Bytes → Except BodyFault α} {response : Response}
    (refused : request.readBody read = .error response) : response.status ∈ unreadStatuses := by
  unfold Request.readBody at refused
  split at refused
  · cases refused
    simp [Response.plain, unreadStatuses]
  · split at refused
    · cases refused
      simp [Response.plain, unreadStatuses]
    · obtain ⟨fault, _, same⟩ := Guards.mapError_eq_error.mp refused
      subst same
      unfold bodyRefusal
      split <;> simp [Response.plain, unreadStatuses]

theorem status_of_jobAction {segment : String} {request : Request} {response : Response}
    (refused : jobAction segment request = .error response) :
    response.status ∈ unreadStatuses := by
  unfold jobAction at refused
  split at refused
  · rcases Guards.bind_eq_error.mp refused with unread | ⟨raw, _, refused⟩
    · exact status_of_segmentText unread
    · rcases Guards.bind_eq_error.mp refused with unread | ⟨body, _, refused⟩
      · exact status_of_readBody unread
      · rcases Guards.bind_eq_error.mp refused with unnamed | ⟨kind, _, done⟩
        · exact status_of_kindNamed unnamed
        · cases done
  · split at refused
    · rcases Guards.bind_eq_error.mp refused with unnamed | ⟨kind, _, done⟩
      · exact status_of_kindOf unnamed
      · cases done
    · rcases Guards.bind_eq_error.mp refused with unnamed | ⟨kind, _, done⟩
      · exact status_of_kindOf unnamed
      · cases done

theorem status_of_trackAction {segment : String} {request : Request} {response : Response}
    (refused : trackAction segment request = .error response) :
    response.status ∈ unreadStatuses := by
  rcases Guards.bind_eq_error.mp refused with unread | ⟨raw, _, refused⟩
  · exact status_of_segmentText unread
  · rcases Guards.bind_eq_error.mp refused with unread | ⟨body, _, refused⟩
    · exact status_of_readBody unread
    · rcases Guards.bind_eq_error.mp refused with unnamed | ⟨kind, _, refused⟩
      · exact status_of_kindNamed unnamed
      · split at refused
        · cases refused
          simp [Response.missingJobId, Response.refusal, Response.json, unreadStatuses]
        · cases refused

/-- A request that does not reach the engine is refused for what it is, never for the state that
the engine is in. -/
theorem Request.status_of_service {request : Request} {response : Response}
    (refused : request.service = .error response) : response.status ∈ unreadStatuses := by
  unfold Request.service at refused
  split at refused
  · cases refused
    simp [Response.notFound, unreadStatuses]
  · next route _ =>
      split at refused
      · cases route with
        | health => cases refused
        | events => cases refused
        | job segment => exact status_of_jobAction (Guards.map_eq_error.mp refused)
        | track segment => exact status_of_trackAction (Guards.map_eq_error.mp refused)
        | reset segment => exact status_of_kindOf (Guards.map_eq_error.mp refused)
      · cases refused
        simp [Response.methodNotAllowed, unreadStatuses]

/-! ## Handling -/

/-- A move that the engine makes for a request, with the run before it. -/
structure Segment where
  run : List Move
  move : Move

def Segment.engine (segment : Segment) (settings : EngineSettings) : Engine :=
  Engine.initial.after settings segment.run

def Segment.step (segment : Segment) (settings : EngineSettings) : Engine.Step Upshot :=
  (segment.engine settings).perform settings segment.move

/-- How a request is handled: the moves that the engine makes for it, one or one on each side of
a question to the server, and the response. Anything may happen while the server is asked. -/
inductive Handled (settings : EngineSettings) (request : Request) :
    List Segment → Response → Prop where
  | refused {response} : request.service = .error response →
      Handled settings request [] (request.deliver response)
  | health {now} : request.service = .ok .health →
      Handled settings request [] (request.deliver (.health now))
  | events : request.service = .ok .events →
      Handled settings request [] (request.deliver .eventStream)
  | replied {action run now reply} : request.service = .ok (.perform action) →
      (Segment.step ⟨run, .begin now action⟩ settings).reply = .progress (.replied reply) →
      Handled settings request [⟨run, .begin now action⟩] (request.deliver (.ofReply reply))
  | answered {action run now question between later answer reply} :
      request.service = .ok (.perform action) →
      (Segment.step ⟨run, .begin now action⟩ settings).reply = .progress (.asks question) →
      answer.Fits question →
      (Segment.step ⟨run ++ .begin now action :: between, .resume later answer⟩ settings).reply =
        .reply reply →
      Handled settings request
        [⟨run, .begin now action⟩, ⟨run ++ .begin now action :: between, .resume later answer⟩]
        (request.deliver (.ofReply reply))

@[simp] theorem Request.status_deliver (request : Request) (response : Response) :
    (request.deliver response).status = response.status := by
  unfold Request.deliver
  split <;> rfl

/-- Only the head of a response is delivered without the code of a refusal. -/
theorem Request.deliver_of_code? {request : Request} {response : Response} {code : String}
    (coded : (request.deliver response).code? = some code) :
    request.deliver response = response := by
  unfold Request.deliver at coded ⊢
  split
  · next headless =>
      rw [if_pos headless] at coded
      cases coded
  · rfl

/-- A request that is answered with an error has left nothing behind, neither before nor after a
question to the server. One that is answered with a conflict is told of the job that is active
when it is refused. -/
theorem refused_requests_leave_no_trace (settings : EngineSettings) (request : Request)
    (segments : List Segment) (response : Response)
    (handled : Handled settings request segments response) :
    (400 ≤ response.status → ∀ segment ∈ segments,
      Engine.Traceless (segment.engine settings) (segment.step settings)) ∧
    (response.status = 409 → response.code? = some "JOB_ALREADY_ACTIVE" →
      ∃ action segment record, request.service = .ok (.perform action) ∧
        segments.getLast? = some segment ∧
        (segment.engine settings).record? action.kind = some record ∧ record.isActive = true ∧
        response.member? "job" = some (Wire.toJson record)) := by
  cases handled with
  | @refused unread refused =>
      refine ⟨by simp, fun status _ => ?_⟩
      have known := Request.status_of_service refused
      rw [Request.status_deliver] at status
      rw [status] at known
      simp [unreadStatuses] at known
  | health _ => exact ⟨by simp, fun status => by simp [Response.health, Response.json] at status⟩
  | events _ => exact ⟨by simp, fun status => by simp [Response.eventStream] at status⟩
  | @replied action run now reply served replied =>
      rw [Request.status_deliver]
      constructor
      · intro refused segment member
        rw [List.mem_singleton] at member
        subst member
        exact Engine.traceless_of_refusal (Engine.coherent_after settings run)
          (congrArg Upshot.reply? replied) (Response.isRefusal_of_status refused)
      · intro status code
        have whole := Request.deliver_of_code? code
        rw [whole] at code ⊢
        obtain ⟨record, conflict, carried⟩ := Response.conflict_of_ofReply status code
        obtain ⟨held, active⟩ :=
          Store.active?_eq_some_iff.mp (Engine.active_of_begin replied conflict)
        exact ⟨action, _, record, served, rfl, held, active, carried⟩
  | @answered action run now question between later answer reply served asks fits replied =>
      rw [Request.status_deliver]
      constructor
      · intro refused segment member
        rcases List.mem_cons.mp member with same | member
        · subst same
          exact Engine.traceless_of_asks asks
        · rw [List.mem_singleton] at member
          subst member
          exact Engine.traceless_of_refusal (Engine.coherent_after settings _)
            (congrArg Upshot.reply? replied) (Response.isRefusal_of_status refused)
      · intro status code
        have whole := Request.deliver_of_code? code
        rw [whole] at code ⊢
        obtain ⟨record, conflict, carried⟩ := Response.conflict_of_ofReply status code
        obtain ⟨held, active⟩ :=
          Store.active?_eq_some_iff.mp (Engine.active_of_resume replied conflict)
        rw [Engine.kind_of_asks asks fits] at held
        exact ⟨action, _, record, served, rfl, held, active, carried⟩

deriving instance DecidableEq for Action

def Service.action? : Service → Option Action
  | .perform action => some action
  | _ => none

theorem Request.service_of_action? {request : Request} {action : Action}
    (read : request.service.toOption.bind Service.action? = some action) :
    request.service = .ok (.perform action) := by
  cases served : request.service with
  | error response =>
      rw [served] at read
      cases read
  | ok service =>
      rw [served] at read
      cases service with
      | health => cases read
      | events => cases read
      | perform found =>
          cases read
          rfl

def stopRequest : Request where
  method := "DELETE"
  target := "/v1/jobs/find_issues"
  headers := []
  body := []

def startRequest : Request where
  method := "POST"
  target := "/v1/jobs/find_issues"
  headers := [("content-type", "application/json")]
  body := [123, 125]

theorem service_stopRequest : stopRequest.service = .ok (.perform (.stop .findIssues)) :=
  Request.service_of_action? (by decide +kernel)

theorem service_startRequest :
    startRequest.service = .ok (.perform (.start .findIssues .empty)) :=
  Request.service_of_action? (by decide +kernel)

/-- A job that is rejected at once. -/
def rejectedJob : List Move := [
  .begin (.ofMillis 0) (.track .findIssues ⟨"J1"⟩),
  .tick 0 0, .respond (.ofMillis 1) 0 (.error (.decode "cut short"))]

def lateStop : Segment := ⟨rejectedJob, .begin (.ofMillis 2) (.stop .findIssues)⟩

def firstHalf : Segment := ⟨[], .begin (.ofMillis 0) (.start .findIssues .empty)⟩

/-- Another job is tracked while the server starts one. -/
def secondHalf : Segment :=
  ⟨[firstHalf.move, .begin (.ofMillis 5) (.track .findIssues ⟨"J1"⟩)],
    .resume (.ofMillis 9) (.start .findIssues (.ok ⟨some ⟨"J2"⟩⟩))⟩

theorem lateStop_and_overtakenStart_leave_no_trace :
    (∃ response, Handled .standard stopRequest [lateStop] response ∧ response.status = 409 ∧
      Engine.Traceless (lateStop.engine .standard) (lateStop.step .standard)) ∧
    ∃ response, Handled .standard startRequest [firstHalf, secondHalf] response ∧
      Engine.Traceless (firstHalf.engine .standard) (firstHalf.step .standard) ∧
      Engine.Traceless (secondHalf.engine .standard) (secondHalf.step .standard) ∧
      response.member? "job" =
        some (Wire.toJson (Record.start (.ofMillis 5) .findIssues ⟨"J1"⟩)) := by
  constructor
  · have handled : Handled .standard stopRequest [lateStop] _ := .replied service_stopRequest rfl
    have untraced := (refused_requests_leave_no_trace _ _ _ _ handled).1 (by decide)
    exact ⟨_, handled, rfl, untraced lateStop (by simp)⟩
  · have handled : Handled .standard startRequest [firstHalf, secondHalf] _ :=
      .answered service_startRequest rfl .start rfl
    obtain ⟨untraced, told⟩ := refused_requests_leave_no_trace _ _ _ _ handled
    have untraced := untraced (by decide)
    obtain ⟨action, segment, record, served, last, held, _, carried⟩ := told rfl rfl
    cases last
    rw [service_startRequest] at served
    cases served
    cases held
    exact ⟨_, handled, untraced firstHalf (by simp), untraced secondHalf (by simp), carried⟩

/-! ## The requests of the tracker -/

section

open Simulation

variable {bench asked later : EngineBench} {run between : List Move} {request : Request}

theorem fits_answer (server : Server) (question : Question) :
    (server.answer question).answer.Fits question := by
  cases question with
  | start kind asked => exact .start
  | lastResult kind ticket => exact .lastResult

theorem engine_take {α : Type} (bench : EngineBench) (now : Nat) (owner : Kind)
    (step : Engine.Step α) : (bench.take now owner step).2.engine = step.engine := by
  have jotted : ∀ (events : List Event) (bench : EngineBench),
      (events.foldl (fun bench event => bench.jot now (.event owner event)) bench).engine =
        bench.engine := by
    intro events
    induction events with
    | nil => exact fun _ => rfl
    | cons event rest ih => exact fun _ => ih _
  exact jotted step.events _

/-- A request that the tracker responds to at once is handled. -/
theorem handled_of_begin (reached : bench.engine = Engine.initial.after bench.settings run)
    {now : Nat} {result : CallResult}
    (ended : bench.begin now (.http request) = (.ended result, later)) :
    ∃ segments response, result = .response response ∧
      Handled bench.settings request segments response := by
  simp only [EngineBench.begin] at ended
  split at ended
  · next refused =>
      cases ended
      exact ⟨[], _, rfl, .refused refused⟩
  · next served =>
      cases ended
      exact ⟨[], _, rfl, .health served⟩
  · next served =>
      cases ended
      exact ⟨[], _, rfl, .events served⟩
  · next action served =>
      simp only [EngineBench.act] at ended
      split at ended
      · next reply _ taken =>
          cases ended
          have replied : (Segment.step ⟨run, .begin (bench.wall now) action⟩ bench.settings).reply =
              .progress (.replied reply) := by
            rw [Segment.step, Segment.engine, ← reached]
            exact congrArg Upshot.progress (congrArg Prod.fst taken)
          exact ⟨_, _, rfl, .replied served replied⟩
      · cases ended

/-- A request that waits for the server is handled when it is answered, whatever the engine has
done in the meantime. -/
theorem handled_of_resume (reached : bench.engine = Engine.initial.after bench.settings run)
    {now time : Nat} {caller : Caller} {scripted : Scripted Answer}
    (awaits : bench.begin now (.http request) = (.awaits caller scripted, asked))
    (continued : later.engine = asked.engine.after bench.settings between) :
    ∃ segments response,
      (later.resume time caller scripted.answer).1 = .response response ∧
        Handled bench.settings request segments response := by
  simp only [EngineBench.begin] at awaits
  split at awaits
  · cases awaits
  · cases awaits
  · cases awaits
  · next action served =>
      simp only [EngineBench.act] at awaits
      split at awaits
      · cases awaits
      · next question after taken =>
          cases awaits
          have asks : (Segment.step ⟨run, .begin (bench.wall now) action⟩ bench.settings).reply =
              .progress (.asks question) := by
            rw [Segment.step, Segment.engine, ← reached]
            exact congrArg Upshot.progress (congrArg Prod.fst taken)
          have begun : after.engine =
              (bench.engine.perform bench.settings (.begin (bench.wall now) action)).engine := by
            have moved := engine_take bench now action.kind
              (bench.engine.begin bench.settings (bench.wall now) action)
            rw [taken] at moved
            exact moved
          have resumed : Engine.initial.after bench.settings
              (run ++ .begin (bench.wall now) action :: between) = later.engine := by
            rw [Engine.after_append, Engine.after_cons, ← reached, ← begun]
            exact continued.symm
          have replied : (Segment.step ⟨run ++ .begin (bench.wall now) action :: between,
              .resume (later.wall time) (after.server.answer question).answer⟩
                bench.settings).reply = .reply (later.engine.resume (later.wall time)
                  (after.server.answer question).answer).reply := by
            rw [Segment.step, Segment.engine, resumed]
            rfl
          exact ⟨_, _, rfl, .answered served asks (fits_answer after.server question) replied⟩

end

end Http

end JobWatch

import JobWatch.Action
import JobWatch.Wire.Codec

/-!
# Responses

What the tracker answers over HTTP. Success and refusals by the engine are JSON; requests that
cannot be read are refused in plain text; a path or a method that is not served gets no body.
-/

set_option autoImplicit false

namespace JobWatch.Http

inductive ResponseBody where
  | json (value : Json)
  | text (content : String)
  /-- The events from now on, without end. -/
  | stream

structure Response where
  status : Nat
  contentType : Option String
  allow : Option String
  body : ResponseBody

namespace Response

def jsonType : String := "application/json"

def textType : String := "text/plain; charset=utf-8"

def streamType : String := "text/event-stream"

def json (status : Nat) (value : Json) : Response := ⟨status, some jsonType, none, .json value⟩

def plain (status : Nat) (content : String) : Response :=
  ⟨status, some textType, none, .text content⟩

def notFound : Response := ⟨404, none, none, .text ""⟩

/-- The answer to a method that is not served; it names those that are. -/
def methodNotAllowed (methods : List String) : Response :=
  ⟨405, none, some (",".intercalate methods), .text ""⟩

def eventStream : Response := ⟨200, some streamType, none, .stream⟩

def headOnly (response : Response) : Response := { response with body := .text "" }

def errorMember (code message : String) : String × Json :=
  ("error", .obj [("code", .str code), ("message", .str message)])

def refusal (status : Nat) (code message : String) : Response :=
  json status (.obj [errorMember code message])

def unknownKind (raw : String) : Response :=
  refusal 404 "UNKNOWN_JOB_KIND" (Kind.unknownMessage raw)

def missingJobId : Response :=
  refusal 400 "INVALID_TRACK_REQUEST" "Request must include a job id."

def ofError : EngineError → Response
  | .alreadyActive record =>
    json 409 (.obj [
      errorMember "JOB_ALREADY_ACTIVE" ("A " ++ record.kind.name ++ " job is already running."),
      ("job", Wire.toJson record)])
  | .noJobStarted kind =>
    refusal 422 "NO_JOB_STARTED" ("The server did not start a " ++ kind.name ++ " job.")
  | .start _ source => refusal 502 "START_FAILED" source.message
  | .store source => refusal 409 "JOB_NOT_ACTIVE" source.message

def ofRecord (status : Nat) : Except EngineError Record → Response
  | .ok record => json status (Wire.toJson record)
  | .error error => ofError error

/-- The response to an action. A reset tells that the kind is free, and what its slot held. -/
def ofReply : Reply → Response
  | .view view => json 200 (Wire.toJson view)
  | .tracked result => ofRecord 202 result
  | .stopped result => ofRecord 200 result
  | .reset kind previous =>
    json 200 (.obj [
      ("kind", Wire.toJson kind),
      ("status", Wire.toJson Status.pending),
      ("previous", .ofOption Wire.toJson previous)])

def health (now : Timestamp) : Response :=
  json 200 (.obj [("ok", .bool true), ("timestamp", Wire.toJson now)])

end Response

end JobWatch.Http

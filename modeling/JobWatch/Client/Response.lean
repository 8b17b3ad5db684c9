import JobWatch.Client.Request
import JobWatch.Json.Printer
import JobWatch.Json.Reader
import JobWatch.Text.Blank
import JobWatch.Text.Numeral
import JobWatch.Text.Quoted
import JobWatch.Transport.Error

/-!
# Responses of the server

What the one `curl` process of a request leaves behind becomes a result or a transport error.
The process writes the body, a marker and the HTTP status; the last marker counts, so a body may
hold the marker itself.
-/

set_option autoImplicit false

namespace JobWatch.Client

inductive ProcessResult where
  | notRun (reason : String)
  /-- It ended with an exit code, or with none when a signal killed it. -/
  | ended (exitCode : Option Nat) (output errorOutput : List UInt8)

/-- What a system says that refuses an argument with a zero character. -/
def zeroCharacterReason : String := "nul byte found in provided data"

/-- A process whose arguments hold a zero character is not run. -/
def launch (arguments : List String) (result : ProcessResult) : ProcessResult :=
  if arguments.any fun argument => argument.toList.contains (Char.ofNat 0) then
    .notRun zeroCharacterReason
  else result

def networkExitCodes : List Nat := [5, 6, 7, 35, 52, 55, 56]

def timeoutExitCode : Nat := 28

def exitCodeText : Option Nat → String
  | some code => "Some(" ++ toString code ++ ")"
  | none => "None"

def processFailure (exitCode : Option Nat) (errorText : String) : TransportError :=
  let detail := if errorText.isEmpty then "curl exited with " ++ exitCodeText exitCode else errorText
  match exitCode with
  | none => .network detail
  | some code =>
    if code = timeoutExitCode then .timeout detail
    else if networkExitCodes.contains code then .network detail
    else .client detail

structure Response where
  status : UInt16
  body : String
  deriving DecidableEq, Repr

def splitLast? (marker : List Char) : List Char → Option (List Char × List Char)
  | [] => none
  | c :: rest =>
    match splitLast? marker rest with
    | some (before, after) => some (c :: before, after)
    | none =>
      if marker.isPrefixOf (c :: rest) then some ([], (c :: rest).drop marker.length) else none

def splitStatus (output : String) : Except TransportError Response :=
  match splitLast? statusMarker.toList output.toList with
  | none => .error (.decode "missing HTTP status from curl")
  | some (body, status) =>
    let statusText := String.ofList status
    match Text.unsigned? UInt16.size (Text.trim statusText) with
    | none => .error (.decode ("invalid HTTP status " ++ Text.quoted statusText))
    | some 0 => .error (.network "no HTTP response received")
    | some n => .ok ⟨UInt16.ofNat n, String.ofList body⟩

def receive (request : Request) : ProcessResult → Except TransportError Response
  | .notRun reason =>
    .error (.client ("failed to execute curl for " ++ request.url ++ ": " ++ reason))
  | .ended (some 0) output _ =>
    match Text.Utf8.ofBytes? output with
    | none => .error (.decode "response was not valid UTF-8")
    | some text => splitStatus text
  | .ended exitCode _ errorOutput =>
    .error (processFailure exitCode (Text.trim (Text.Utf8.decodeLossy errorOutput)))

/-- A text that is not blank or a number, as a text. -/
def scalarText? : Json → Option String
  | .str text => if (Text.trim text).isEmpty then none else some text
  | .num n => some n.text
  | _ => none

def firstOf (candidates : List (Option Json)) : Option Json := candidates.findSome? id

/-- A message: a text as it is, any other value in writing. -/
def messageText : Json → String
  | .str text => text
  | v => v.compact

def errorCode? (body : Json) : Option String :=
  let nested := (body.get? "error").filter Json.isObject
  (firstOf [body.get? "code", nested.bind (·.get? "code")]).bind scalarText?

def errorMessage? (body : Json) : Option String :=
  let nested := (body.get? "error").filter Json.isObject
  let direct := (body.get? "error").filter fun v => v.text?.isSome
  (firstOf [body.get? "detail", body.get? "message", nested.bind (·.get? "message"), direct]).map
    messageText

/-- The application code and the message in the body of an error response. A body that is no
JSON is itself the message, if it is not blank. -/
def errorBody (body : String) : Option String × Option String :=
  match Json.parse body with
  | .ok v => (errorCode? v, errorMessage? v)
  | .error _ =>
    let trimmed := Text.trim body
    (none, if trimmed.isEmpty then none else some trimmed)

def successBody (response : Response) : Except TransportError String :=
  if response.status < 400 then .ok response.body
  else
    let (code, message) := errorBody response.body
    .error (.http response.status code
      (message.getD ("HTTP " ++ toString response.status.toNat)))

/-- How much of a malformed body a message quotes. -/
def excerptLength : Nat := 200

def bodyValue (body : String) : Except TransportError Json :=
  match Json.parse body with
  | .ok v => .ok v
  | .error fault =>
    .error (.decode (fault ++ ": " ++ String.ofList (body.toList.take excerptLength)))

def startedId? (answer : Json) : Option JobId :=
  ((firstOf [answer.get? "run_id", answer.get? "id"]).bind scalarText?).map JobId.mk

def startAnswer (request : Request) (result : ProcessResult) :
    Except TransportError StartedJob := do
  let response ← receive request result
  let v ← bodyValue (← successBody response)
  return ⟨startedId? v⟩

def resultAnswer (request : Request) (result : ProcessResult) : Except TransportError Json := do
  let response ← receive request result
  bodyValue (← successBody response)

/-- The answer to a request for the last result of a kind: none if the server has none. -/
def lastResultAnswer (request : Request) (result : ProcessResult) :
    Except TransportError (Option Json) := do
  let response ← receive request result
  if response.status = 404 then return none
  let v ← bodyValue (← successBody response)
  return if v.isNull then none else some v

end JobWatch.Client

import JobWatch.Http.Body
import JobWatch.Http.ContentType
import JobWatch.Http.Response
import JobWatch.Text.Percent

/-!
# Requests and routes

A request is routed by its path, then by its method, and becomes an action of the tracker or a
refusal. What can be wrong with a request is checked in a fixed order: the path, the method, the
bytes of the kind, the type, length and form of the body, the kind, and the job to track.
-/

set_option autoImplicit false

namespace JobWatch.Http

open Json (Bytes)

structure Request where
  method : String
  target : String
  headers : List (String × String)
  body : Bytes

/-- A path that is served; the kind is still as it was written. -/
inductive Route where
  | health
  | events
  | job (segment : String)
  | track (segment : String)
  | reset (segment : String)
  deriving DecidableEq, Repr

inductive Service where
  | health
  | events
  | perform (action : Action)

def splitAt (mark : Char) : List Char → List (List Char)
  | [] => [[]]
  | c :: rest =>
    if c = mark then [] :: splitAt mark rest
    else
      match splitAt mark rest with
      | part :: parts => (c :: part) :: parts
      | [] => [[c]]

namespace Request

def isSchemeChar (c : Char) : Bool := c.isAlphanum || c == '+' || c == '-' || c == '.'

def endsPath (c : Char) : Bool := c == '?' || c == '#'

/-- A target without the scheme and the authority in front of its path, if it has them. -/
def withoutAuthority (target : List Char) : List Char :=
  match target.dropWhile isSchemeChar with
  | ':' :: '/' :: '/' :: rest => rest.dropWhile fun c => c != '/' && !endsPath c
  | _ => target

/-- The path of a request: its target from behind the authority up to the query. -/
def path (request : Request) : List Char :=
  (withoutAuthority request.target.toList).takeWhile fun c => !endsPath c

/-- The first header with a name; the case of its letters does not count. -/
def header? (request : Request) (name : String) : Option String :=
  (request.headers.find? fun header => Text.asciiLower header.1 == name).map Prod.snd

def saysJson (request : Request) : Bool :=
  ((request.header? "content-type").bind ContentType.parse?).any ContentType.isJson

end Request

namespace Route

/-- The route of a path. The kind at the end of a path may not be empty; the kind in front of
`/track` or `/reset` may, though no kind has that name. -/
def ofPath? (path : List Char) : Option Route :=
  match (splitAt '/' path).map String.ofList with
  | ["", "healthz"] => some .health
  | ["", "v1", "events"] => some .events
  | ["", "v1", "jobs", segment] => if segment.isEmpty then none else some (.job segment)
  | ["", "v1", "jobs", segment, "track"] => some (.track segment)
  | ["", "v1", "jobs", segment, "reset"] => some (.reset segment)
  | _ => none

def methods : Route → List String
  | .health => ["GET", "HEAD"]
  | .events => ["GET", "HEAD"]
  | .job _ => ["GET", "HEAD", "POST", "DELETE"]
  | .track _ => ["POST"]
  | .reset _ => ["POST"]

end Route

/-- The greatest length of a body, in bytes. -/
def bodyLimit : Nat := 2097152

def segmentText (segment : String) : Except Response String :=
  match Text.Percent.decode? segment with
  | some text => .ok text
  | none => .error (.plain 400 "Invalid URL: Invalid UTF-8 in `kind`")

def kindNamed (raw : String) : Except Response Kind :=
  match Kind.parse? raw with
  | some kind => .ok kind
  | none => .error (.unknownKind raw)

def kindOf (segment : String) : Except Response Kind := do
  kindNamed (← segmentText segment)

def bodyRefusal (body : Bytes) (fault : BodyFault) : Response :=
  if fault.cause.isMalformed then
    .plain 400 ("Failed to parse the request body as JSON: " ++ fault.message body)
  else
    .plain 422
      ("Failed to deserialize the JSON body into the target type: " ++ fault.message body)

def Request.readBody {α : Type} (request : Request) (read : Bytes → Except BodyFault α) :
    Except Response α :=
  if !request.saysJson then
    .error (.plain 415 "Expected request with `Content-Type: application/json`")
  else if bodyLimit < request.body.length then
    .error (.plain 413 "Failed to buffer the request body: length limit exceeded")
  else (read request.body).mapError (bodyRefusal request.body)

def jobAction (segment : String) (request : Request) : Except Response Action := do
  if request.method = "POST" then
    let raw ← segmentText segment
    let body ← request.readBody readStartRequest
    return .start (← kindNamed raw) body
  else if request.method = "DELETE" then
    return .stop (← kindOf segment)
  else
    return .view (← kindOf segment)

def trackAction (segment : String) (request : Request) : Except Response Action := do
  let raw ← segmentText segment
  let body ← request.readBody readTrackRequest
  let kind ← kindNamed raw
  if Text.isBlankText body.jobId.text then throw .missingJobId
  return .track kind body.jobId

def Route.service (route : Route) (request : Request) : Except Response Service :=
  match route with
  | .health => .ok .health
  | .events => .ok .events
  | .job segment => (jobAction segment request).map .perform
  | .track segment => (trackAction segment request).map .perform
  | .reset segment => (kindOf segment).map fun kind => .perform (.reset kind)

def Request.service (request : Request) : Except Response Service :=
  match Route.ofPath? request.path with
  | none => .error .notFound
  | some route =>
    if route.methods.contains request.method then route.service request
    else .error (.methodNotAllowed route.methods)

/-- The response as the client gets it: a `HEAD` request gets no body. -/
def Request.deliver (request : Request) (response : Response) : Response :=
  if request.method = "HEAD" then response.headOnly else response

end JobWatch.Http

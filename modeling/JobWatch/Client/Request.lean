import JobWatch.Job.Record
import JobWatch.Text.Percent

/-!
# Requests to the server

The client talks to the server by running `curl` once per request. This module builds the URLs
and the arguments of that one process.
-/

set_option autoImplicit false

namespace JobWatch

structure Client where
  baseUrl : String
  token : Option String
  timeoutSeconds : Nat
  deriving DecidableEq, Repr

namespace Client

/-- A client of a server; slashes at the end of its address do not count. -/
def ofAddress (baseUrl : String) (token : Option String) (timeoutSeconds : Nat) : Client :=
  ⟨String.ofList (Text.dropEndWhile (· == '/') baseUrl.toList), token, timeoutSeconds⟩

structure Request where
  method : String
  url : String
  form : List (String × String)
  deriving DecidableEq, Repr

/-- The parameters that a query names: those that are present and not empty. -/
def presentParameters (parameters : List (String × Option String)) : List (String × String) :=
  parameters.filterMap fun (name, value) =>
    value.bind fun text => if text.isEmpty then none else some (name, text)

/-- A query with its question mark; nothing if no parameter is present. -/
def query (parameters : List (String × Option String)) : String :=
  match presentParameters parameters with
  | [] => ""
  | present =>
    "?" ++ String.intercalate "&"
      (present.map fun (name, text) => name ++ "=" ++ Text.Percent.encode text)

def depthText (depth : UInt32) : String := toString depth.toNat

def urlParameters (kind : Kind) (request : StartRequest) : List (String × Option String) :=
  match kind with
  | .findIssues => [("path", request.path)]
  | .catalogAi =>
    [("path", request.path), ("depth", request.depth.map depthText),
      ("log_level", request.logLevel)]

def formFields (kind : Kind) (request : StartRequest) : List (String × String) :=
  match kind with
  | .findIssues =>
    (request.depth.map fun depth => ("depth", depthText depth)).toList ++
      (request.logLevel.map fun level => ("log_level", level)).toList
  | .catalogAi => []

def startPath : Kind → String
  | .findIssues => "/api/find-issues"
  | .catalogAi => "/api/catalog-ai"

def startUrl (client : Client) (kind : Kind) (request : StartRequest) : String :=
  client.baseUrl ++ startPath kind ++ query (urlParameters kind request)

def resultsUrl (client : Client) (job : JobId) : String :=
  client.baseUrl ++ "/api/results/" ++ Text.Percent.encode job.text

def lastResultUrl (client : Client) (kind : Kind) : String :=
  client.baseUrl ++ "/api/last-result/" ++ kind.name

def startRequest (client : Client) (kind : Kind) (request : StartRequest) : Request :=
  ⟨"POST", client.startUrl kind request, formFields kind request⟩

def resultRequest (client : Client) (job : JobId) : Request :=
  ⟨"GET", client.resultsUrl job, []⟩

def lastResultRequest (client : Client) (kind : Kind) : Request :=
  ⟨"GET", client.lastResultUrl kind, []⟩

/-- What separates the body of a response from its status. -/
def statusMarker : String := "\n__http_status:"

def arguments (client : Client) (request : Request) : List String :=
  ["-sS", "-X", request.method, request.url,
    "--max-time", toString client.timeoutSeconds,
    "-H", "Accept: application/json",
    "-w", statusMarker ++ "%\x7bhttp_code\x7d"] ++
  (match client.token with
    | some token => ["-H", "Authorization: Bearer " ++ token]
    | none => []) ++
  request.form.flatMap fun (name, value) => ["-F", name ++ "=" ++ value]

end Client

end JobWatch

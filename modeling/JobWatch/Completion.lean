import JobWatch.Job.Kind
import JobWatch.Json.Basic

/-!
# Completion of a job

The server gives no sign of its own that a job is done: while the job runs it answers with a
placeholder or a progress object, and afterwards with the result itself. So whether a job is done
is read off the payload's shape. A failure status decides first; then a populated list of the
kind; then a result container without a status that says otherwise.
-/

set_option autoImplicit false

namespace JobWatch

inductive Completion where
  | pending
  | complete
  | failed (message : String)
  deriving DecidableEq, Repr

namespace Completion

/-- The keys under which a result may be wrapped, the first object among them counts. -/
def containerKeys : List String := ["report", "data"]

def successStatuses : List String := ["completed", "done"]

def failureStatuses : List String := ["failed", "error"]

/-- The keys under which a failure is explained, in the order they are asked. -/
def explanationKeys : List String := ["error", "message", "detail"]

def listKeys : Kind → List String
  | .findIssues => ["findings", "findings_by_file"]
  | .catalogAi => ["inventory_by_file"]

/-- Whether a value is an array or an object with something in it. -/
def isPopulated : Json → Bool
  | .arr items => !items.isEmpty
  | .obj members => !members.isEmpty
  | _ => false

def hasPopulatedList (kind : Kind) (members : List (String × Json)) : Bool :=
  (listKeys kind).any fun key => (Json.lookup? key members).any isPopulated

/-- The status a payload gives, trimmed and in small letters. -/
def status? (members : List (String × Json)) : Option String :=
  ((Json.lookup? "status" members).bind Json.text?).map fun text =>
    Text.asciiLower (Text.trim text)

def container? (members : List (String × Json)) : Option (List (String × Json)) :=
  containerKeys.findSome? fun key => (Json.lookup? key members).bind Json.members?

/-- What a value says about a failure: a text that is not blank, or the text under `message` of
an object. -/
def explanation? : Json → Option String
  | .str text => if (Text.trim text).isEmpty then none else some (Text.trim text)
  | .obj members => (Json.lookup? "message" members).bind Json.text?
  | _ => none

def failureMessage (members : List (String × Json)) (status : String) : String :=
  let explained := explanationKeys.findSome? fun key =>
    (Json.lookup? key members).bind explanation?
  explained.getD ("job reported status " ++ status)

/-- What an object says of its job, if its status does not say that the job failed. -/
def ofMembers (kind : Kind) (members : List (String × Json)) : Completion :=
  let container := container? members
  if hasPopulatedList kind members || container.any (hasPopulatedList kind) then .complete
  else
    match container, status? members with
    | some _, none => .complete
    | some _, some status => if successStatuses.contains status then .complete else .pending
    | none, _ => .pending

def detect (kind : Kind) (payload : Json) : Completion :=
  match payload with
  | .obj members =>
    match status? members with
    | some status =>
      if failureStatuses.contains status then .failed (failureMessage members status)
      else ofMembers kind members
    | none => ofMembers kind members
  | _ => .pending

def isComplete (kind : Kind) (payload : Json) : Bool := detect kind payload == .complete

end Completion

end JobWatch

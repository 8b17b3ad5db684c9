/-!
# Transport errors

How a request to the server can fail, and which failures may pass by themselves. Trouble on the
way to the server is transient; what the server definitively answered is not. An answer with one
of a few gateway statuses counts as trouble on the way, unless it carries an application code.
-/

set_option autoImplicit false

namespace JobWatch

inductive TransportError where
  | network (detail : String)
  | timeout (detail : String)
  | http (status : UInt16) (code : Option String) (detail : String)
  | decode (detail : String)
  | client (detail : String)
  deriving DecidableEq, Repr

namespace TransportError

def message : TransportError → String
  | .network detail => "network error: " ++ detail
  | .timeout detail => "request timed out: " ++ detail
  | .http status _ detail => "server responded " ++ toString status.toNat ++ ": " ++ detail
  | .decode detail => "malformed response: " ++ detail
  | .client detail => "transport client error: " ++ detail

/-- The statuses of an overloaded or unreachable server. -/
def transientStatuses : List UInt16 := [408, 429, 502, 503, 504]

def isTransient : TransportError → Bool
  | .network _ => true
  | .timeout _ => true
  | .http status code _ => code.isNone && transientStatuses.contains status
  | .decode _ => false
  | .client _ => false

end TransportError

end JobWatch

import JobWatch.Config.SocketAddress
import JobWatch.Text.Blank
import JobWatch.Text.Numeral

/-!
# Configuration

Every setting has a variable and a default. A value that cannot be read, or that the tracker
could not work with, counts as absent, so every set of variables gives a configuration.
-/

set_option autoImplicit false

namespace JobWatch

/-- How the engine works: poll period and lifetime of a cached result in milliseconds, and the
number of consecutive failures that end a job. -/
structure EngineSettings where
  pollInterval : Nat
  retryLimit : UInt32
  lastResultTtl : Nat
  deriving DecidableEq, Repr

def EngineSettings.standard : EngineSettings := ⟨3000, 3, 300000⟩

structure Config where
  bindAddress : SocketAddress
  apiBaseUrl : String
  apiToken : Option String
  pollIntervalMillis : Nat
  retryLimit : UInt32
  lastResultTtlSeconds : Nat
  requestTimeoutSeconds : Nat
  eventCapacity : Nat
  deriving DecidableEq, Repr

namespace Config

def defaultBindAddress : SocketAddress := .v4 [127, 0, 0, 1] 8600

/-- An address, with blanks, then double quotes, then single quotes around it taken off. -/
def bindAddressOf (raw : String) : SocketAddress :=
  let bare := Text.trimWhile (· == '\'')
    (Text.trimWhile (· == '"') (Text.trimWhile Text.isBlank raw.toList))
  (SocketAddress.parse? (String.ofList bare)).getD defaultBindAddress

/-- A text without blanks around it and slashes at its end. -/
def baseUrlOf (raw : String) : String :=
  String.ofList (Text.dropEndWhile (· == '/') (Text.trimWhile Text.isBlank raw.toList))

def nonEmpty? (s : String) : Option String := if s.isEmpty then none else some s

/-- A number below a bound, with blanks around it. -/
def numberOf? (bound : Nat) (raw : String) : Option Nat :=
  Text.unsigned? bound (Text.trim raw)

def positiveOf? (bound : Nat) (raw : String) : Option Nat :=
  (numberOf? bound raw).filter (0 < ·)

def ofLookup (lookup : String → Option String) : Config where
  bindAddress := ((lookup "LINTAI_TRACKER_BIND_ADDR").map bindAddressOf).getD defaultBindAddress
  apiBaseUrl :=
    ((lookup "LINTAI_API_BASE_URL").bind fun raw => nonEmpty? (baseUrlOf raw)).getD
      "http://127.0.0.1:8501"
  apiToken := (lookup "LINTAI_API_TOKEN").bind fun raw => nonEmpty? (Text.trim raw)
  pollIntervalMillis := ((lookup "LINTAI_POLL_INTERVAL_MS").bind (positiveOf? UInt64.size)).getD 3000
  retryLimit :=
    UInt32.ofNat (((lookup "LINTAI_RETRY_LIMIT").bind (positiveOf? UInt32.size)).getD 3)
  lastResultTtlSeconds :=
    ((lookup "LINTAI_LAST_RESULT_TTL_SECONDS").bind (numberOf? UInt64.size)).getD 300
  requestTimeoutSeconds :=
    ((lookup "LINTAI_REQUEST_TIMEOUT_SECONDS").bind (positiveOf? UInt64.size)).getD 30
  eventCapacity := ((lookup "LINTAI_EVENT_CAPACITY").bind (positiveOf? UInt64.size)).getD 64

def engineSettings (config : Config) : EngineSettings where
  pollInterval := config.pollIntervalMillis
  retryLimit := config.retryLimit
  lastResultTtl := config.lastResultTtlSeconds * 1000

end Config

end JobWatch

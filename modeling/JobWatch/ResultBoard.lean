import JobWatch.Job.Record
import JobWatch.Transport.Error

/-!
# Live and cached results

For each kind the board shows the latest payload of the job under way and the result of the last
finished one. The cached result is reloaded from the server when it is stale or too old. Each
completion and each invalidation starts a new generation, and an answer that was asked for in an
earlier generation is dropped.
-/

set_option autoImplicit false

namespace JobWatch

structure ResultEntry where
  live : Option Snapshot
  cached : Option Snapshot
  refreshedAt : Option Timestamp
  stale : Bool
  generation : Nat

def ResultEntry.blank : ResultEntry := ⟨none, none, none, false, 0⟩

structure ResultBoard where
  entries : PerKind ResultEntry

/-- What the server says about the last result of a kind: a payload, none, or a failure. -/
abbrev LastResult := Except TransportError (Option Json)

namespace ResultBoard

def empty : ResultBoard := ⟨.both .blank⟩

def entry (board : ResultBoard) (kind : Kind) : ResultEntry := board.entries.get kind

def setEntry (board : ResultBoard) (kind : Kind) (entry : ResultEntry) : ResultBoard :=
  ⟨board.entries.set kind entry⟩

def live? (board : ResultBoard) (kind : Kind) : Option Snapshot := (board.entry kind).live

def cached? (board : ResultBoard) (kind : Kind) : Option Snapshot := (board.entry kind).cached

def generation (board : ResultBoard) (kind : Kind) : Nat := (board.entry kind).generation

def setLive (board : ResultBoard) (now : Timestamp) (kind : Kind) (payload : Json) :
    ResultBoard :=
  board.setEntry kind { board.entry kind with live := some ⟨kind, payload, now, .live⟩ }

def clearLive (board : ResultBoard) (kind : Kind) : ResultBoard :=
  board.setEntry kind { board.entry kind with live := none }

def promote (board : ResultBoard) (now : Timestamp) (kind : Kind) (payload : Json) :
    ResultBoard :=
  board.setEntry kind {
    live := none
    cached := some ⟨kind, payload, now, .cached⟩
    refreshedAt := some now
    stale := false
    generation := board.generation kind + 1 }

/-- Asks for the cached result to be reloaded. It stays on show until then. -/
def markStale (board : ResultBoard) (kind : Kind) : ResultBoard :=
  let entry := board.entry kind
  board.setEntry kind { entry with stale := true, generation := entry.generation + 1 }

/-- Marks the cached result of the kind whose last-result key this is. -/
def invalidate (board : ResultBoard) (lastResultKey : Kind → String) (key : String) :
    ResultBoard :=
  Kind.all.foldl (fun board kind => if key = lastResultKey kind then board.markStale kind else board)
    board

/-- Whether the cached result has to be reloaded: it is stale, was never loaded, or is at least
`ttl` milliseconds old. A clock that runs backwards makes it no older. -/
def needsRefresh (board : ResultBoard) (now : Timestamp) (ttl : Nat) (kind : Kind) : Bool :=
  let entry := board.entry kind
  entry.stale ||
    match entry.refreshedAt with
    | none => true
    | some loadedAt => decide (ttl * 1000000 ≤ now.elapsedSince loadedAt)

/-- Takes in the server's answer to a request that was made in a generation. An answer of an
earlier generation is dropped, a payload replaces the cached result, no payload only makes it
fresh, and a failure changes nothing. -/
def applyRefresh (board : ResultBoard) (now : Timestamp) (kind : Kind) (issuedIn : Nat)
    (answer : LastResult) : ResultBoard :=
  let entry := board.entry kind
  if entry.generation ≠ issuedIn then board
  else
    match answer with
    | .error _ => board
    | .ok (some payload) =>
      let cached := if payload.isNull then entry.cached else some ⟨kind, payload, now, .cached⟩
      board.setEntry kind { entry with cached, refreshedAt := some now, stale := false }
    | .ok none => board.setEntry kind { entry with refreshedAt := some now, stale := false }

/-- The result to show: while a job is active its live snapshot, before the first one and
otherwise the cached snapshot. -/
def shown? (board : ResultBoard) (kind : Kind) (status : Status) : Option Snapshot :=
  if status.isActive then (board.live? kind).or (board.cached? kind) else board.cached? kind

end ResultBoard

end JobWatch

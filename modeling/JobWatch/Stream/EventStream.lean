import JobWatch.Json.Printer
import JobWatch.Stream.Channel
import JobWatch.Wire.Codec

/-!
# The event stream

A client of the event stream reads each published event as a block of three lines: the event's
name, its identifier and its JSON form. Events that were lost are silently skipped. A stream that
has been silent for a while yields a comment line, so that the connection stays open.
-/

set_option autoImplicit false

namespace JobWatch

/-- One open stream: the position in the channel and when the next comment line is due. -/
structure EventStream where
  position : Nat
  keepAliveDue : Nat

namespace EventStream

/-- How long a stream may be silent, in milliseconds. -/
def keepAliveInterval : Nat := 15000

def keepAliveText : String := ":\n\n"

def block (id : String) (notice : Notice) : String :=
  "event: " ++ notice.event.name ++ "\nid: " ++ id ++ "\ndata: " ++
    (Json.obj (Wire.noticeMembers id notice)).compact ++ "\n\n"

def openAt (channel : Channel Notice) (now : Nat) : EventStream :=
  ⟨channel.subscribe, now + keepAliveInterval⟩

/-- The messages that wait at a position, in order, and the position after them. Every receipt
moves the position forward, so the number of messages behind it and one are fuel enough. -/
def waiting (channel : Channel Notice) (position : Nat) : Nat → List Notice × Nat
  | 0 => ([], position)
  | fuel + 1 =>
    match channel.receive position with
    | (.empty, next) => ([], next)
    | (.lagged _, next) => waiting channel next fuel
    | (.message notice, next) =>
      let (rest, final) := waiting channel next fuel
      (notice :: rest, final)

/-- What a stream holds at a time, with an identifier for each event, and the stream afterwards.
A comment line comes only when no event waits. -/
def drain (stream : EventStream) (channel : Channel Notice) (now : Nat) (id : String) :
    String × EventStream :=
  let (notices, position) := waiting channel stream.position (channel.sent - stream.position + 2)
  match notices with
  | [] =>
    if stream.keepAliveDue ≤ now then (keepAliveText, ⟨position, now + keepAliveInterval⟩)
    else ("", { stream with position })
  | _ => (String.join (notices.map (block id)), ⟨position, now + keepAliveInterval⟩)

end EventStream

end JobWatch

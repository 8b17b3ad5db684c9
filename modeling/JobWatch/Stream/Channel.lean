/-!
# Broadcast channels

A channel keeps its latest messages for all subscribers. A subscriber is a position: the number
of messages published before the one it reads next. A subscriber that has fallen behind what is
kept is told how many messages it lost and goes on with the oldest kept one.
-/

set_option autoImplicit false

namespace JobWatch

/-- A channel: how many messages it keeps, how many were published, and the latest of them in
order. -/
structure Channel (α : Type) where
  capacity : Nat
  sent : Nat
  kept : List α

inductive Receipt (α : Type) where
  | empty
  | lagged (lost : Nat)
  | message (value : α)

namespace Channel

variable {α : Type}

/-- A channel that keeps at least the requested number of messages, rounded up to a power of
two. -/
def ofCapacity (requested : Nat) : Channel α := ⟨(max requested 1).nextPowerOfTwo, 0, []⟩

def publish (channel : Channel α) (message : α) : Channel α :=
  let all := channel.kept ++ [message]
  { channel with sent := channel.sent + 1, kept := all.drop (all.length - channel.capacity) }

def publishAll (channel : Channel α) (messages : List α) : Channel α :=
  messages.foldl publish channel

/-- The position of a new subscriber: it sees what is published from now on. -/
def subscribe (channel : Channel α) : Nat := channel.sent

def oldest (channel : Channel α) : Nat := channel.sent - channel.kept.length

/-- Reads at a position, and gives the position to read at next. -/
def receive (channel : Channel α) (position : Nat) : Receipt α × Nat :=
  if channel.sent ≤ position then (.empty, position)
  else if position < channel.oldest then
    (.lagged (channel.oldest - position), channel.oldest)
  else
    match channel.kept[position - channel.oldest]? with
    | some message => (.message message, position + 1)
    | none => (.empty, position)

end Channel

end JobWatch

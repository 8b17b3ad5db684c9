import JobWatch.Event
import JobWatch.Stream.Channel
import Mathlib.Logic.Function.Basic

/-!
# Delivery to subscribers

Subscribers of a channel come, go and read when they like, and messages are published in between.
A subscriber that stays has a place in the list of what was published since it came: the number of
messages it received and of those it was told it lost. The place says what its next read gives: the
message there, as long as the channel keeps it, else how many are gone. So whatever is published is
received in its order or counted as lost, and what others do makes no difference.
-/

set_option autoImplicit false

namespace JobWatch

variable {α : Type}

/-! ## One read -/

namespace Receipt

def value? : Receipt α → Option α
  | .message value => some value
  | _ => none

def lost : Receipt α → Nat
  | .lagged count => count
  | _ => 0

def advance (receipt : Receipt α) : Nat := receipt.value?.toList.length + receipt.lost

/-- What a reader is due that has come to a place in what was published since it came, from a
channel that keeps so many messages. -/
inductive Due (capacity : Nat) (published : List α) (place : Nat) : Receipt α → Prop where
  | empty : place = published.length → Due capacity published place .empty
  | lagged {count : Nat} : 0 < count → place + count + capacity = published.length →
      Due capacity published place (.lagged count)
  | message {value : α} : published[place]? = some value → published.length ≤ place + capacity →
      Due capacity published place (.message value)

theorem Due.advance_le {capacity place : Nat} {published : List α} {receipt : Receipt α}
    (due : receipt.Due capacity published place) :
    place + receipt.advance ≤ published.length := by
  cases due with
  | empty all => simp [advance, value?, lost, all]
  | @lagged count _ behind =>
      have advanced : (Receipt.lagged count : Receipt α).advance = count := Nat.zero_add count
      omega
  | message present =>
      obtain ⟨below, _⟩ := List.getElem?_eq_some_iff.mp present
      exact below

theorem Due.eq_message {capacity : Nat} {published : List α} {message : α} {receipt : Receipt α}
    (room : 0 < capacity)
    (due : receipt.Due capacity (published ++ [message]) published.length) :
    receipt = .message message := by
  have length : (published ++ [message]).length = published.length + 1 := List.length_append
  cases due with
  | empty all => omega
  | lagged some behind => omega
  | message present =>
      rw [List.getElem?_concat_length] at present
      rw [Option.some.inj present]

end Receipt

namespace Channel

variable {channel : Channel α} {capacity : Nat} {messages : List α}

/-- The channel is as these messages leave it, of which it keeps the latest. -/
structure Stands (channel : Channel α) (capacity : Nat) (messages : List α) : Prop where
  keeps : channel.capacity = capacity
  sent : channel.sent = messages.length
  kept : channel.kept = messages.drop (messages.length - capacity)

theorem stands_ofCapacity (requested : Nat) :
    (ofCapacity requested : Channel α).Stands (max requested 1).nextPowerOfTwo [] :=
  ⟨rfl, rfl, List.drop_nil.symm⟩

theorem Stands.publish (stands : channel.Stands capacity messages) (message : α) :
    (channel.publish message).Stands capacity (messages ++ [message]) := by
  refine ⟨stands.keeps, by simp [Channel.publish, stands.sent], ?_⟩
  have within : messages.length - capacity ≤ messages.length := Nat.sub_le ..
  have kept : channel.kept ++ [message] =
      (messages ++ [message]).drop (messages.length - capacity) := by
    rw [stands.kept, List.drop_append_of_le_length within]
  simp only [Channel.publish, stands.keeps, kept, List.drop_drop, List.length_drop,
    List.length_append, List.length_singleton]
  congr 1
  omega

theorem Stands.oldest (stands : channel.Stands capacity messages) :
    channel.oldest = messages.length - capacity := by
  rw [Channel.oldest, stands.sent, stands.kept, List.length_drop]
  omega

theorem Stands.receive {before published : List α} {start : Nat}
    (stands : channel.Stands capacity (before ++ published)) (within : start ≤ published.length) :
    ∃ receipt : Receipt α, receipt.Due capacity published start ∧
      channel.receive (before.length + start) =
        (receipt, before.length + (start + receipt.advance)) := by
  have sent : channel.sent = before.length + published.length := by
    rw [stands.sent, List.length_append]
  have oldest : channel.oldest = before.length + published.length - capacity := by
    rw [stands.oldest, List.length_append]
  unfold Channel.receive
  split
  · next all => exact ⟨.empty, .empty (by omega), rfl⟩
  · next some =>
      split
      · next behind =>
          refine ⟨.lagged (channel.oldest - (before.length + start)), .lagged ?_ ?_, ?_⟩
          · omega
          · omega
          · simp only [Receipt.advance, Receipt.value?, Receipt.lost, Option.toList_none,
              List.length_nil, Prod.mk.injEq, true_and]
            omega
      · next kept =>
          have start_lt : start < published.length := by omega
          have found : channel.kept[before.length + start - channel.oldest]? =
              published[start]? := by
            rw [stands.kept, ← stands.oldest, List.getElem?_drop,
              Nat.add_sub_cancel' (Nat.not_lt.mp kept),
              List.getElem?_append_right (Nat.le_add_right ..), Nat.add_sub_cancel_left]
          rw [found, List.getElem?_eq_getElem start_lt]
          refine ⟨.message published[start], .message (List.getElem?_eq_getElem start_lt) ?_, rfl⟩
          omega

end Channel

/-! ## Turns -/

inductive Turn (α : Type) where
  | subscribe (subscriber : Nat)
  | unsubscribe (subscriber : Nat)
  | publish (message : α)
  | receive (subscriber : Nat)

namespace Turn

def message? : Turn α → Option α
  | .publish message => some message
  | _ => none

def rejoins (reader : Nat) : Turn α → Bool
  | .subscribe subscriber => subscriber = reader
  | .unsubscribe subscriber => subscriber = reader
  | _ => false

def readBy (reader : Nat) : Turn α → Bool
  | .receive subscriber => subscriber = reader
  | _ => false

def concerns (reader : Nat) (turn : Turn α) : Bool :=
  turn.message?.isSome || turn.rejoins reader || turn.readBy reader

theorem eq_receive_of_readBy {reader : Nat} {turn : Turn α} (read : turn.readBy reader = true) :
    turn = .receive reader := by
  cases turn with
  | receive subscriber => rw [of_decide_eq_true read]
  | _ => cases read

end Turn

structure Audience (α : Type) where
  channel : Channel α
  position? : Nat → Option Nat

namespace Audience

def ofCapacity (requested : Nat) : Audience α := ⟨.ofCapacity requested, fun _ => none⟩

/-- Takes a turn; a read gives a receipt to whoever is subscribed. -/
def take (audience : Audience α) : Turn α → Option (Receipt α) × Audience α
  | .subscribe subscriber => (none, { audience with
      position? := Function.update audience.position? subscriber audience.channel.subscribe })
  | .unsubscribe subscriber => (none, { audience with
      position? := Function.update audience.position? subscriber none })
  | .publish message => (none, { audience with channel := audience.channel.publish message })
  | .receive subscriber =>
    match audience.position? subscriber with
    | none => (none, audience)
    | some position =>
      let (receipt, next) := audience.channel.receive position
      (some receipt, { audience with
        position? := Function.update audience.position? subscriber next })

def after (audience : Audience α) : List (Turn α) → Audience α
  | [] => audience
  | turn :: rest => (audience.take turn).2.after rest

def heard (audience : Audience α) (reader : Nat) (turn : Turn α) : List (Receipt α) :=
  if turn.readBy reader then (audience.take turn).1.toList else []

def receipts (audience : Audience α) (reader : Nat) : List (Turn α) → List (Receipt α)
  | [] => []
  | turn :: rest => audience.heard reader turn ++ (audience.take turn).2.receipts reader rest

end Audience

/-! ## Sessions of one reader -/

def received (receipts : List (Receipt α)) : List α := receipts.filterMap Receipt.value?

def lost : List (Receipt α) → Nat
  | [] => 0
  | receipt :: rest => receipt.lost + lost rest

def place (receipts : List (Receipt α)) : Nat := (received receipts).length + lost receipts

theorem received_cons (receipt : Receipt α) (rest : List (Receipt α)) :
    received (receipt :: rest) = receipt.value?.toList ++ received rest := by
  cases receipt <;> rfl

theorem place_cons (receipt : Receipt α) (rest : List (Receipt α)) :
    place (receipt :: rest) = receipt.advance + place rest := by
  simp only [place, received_cons, lost, List.length_append, Receipt.advance]
  omega

/-- How receipts account for what was published, from a place on: `places` are those of the
messages received. -/
structure Delivered (capacity : Nat) (published : List α) (start : Nat)
    (receipts : List (Receipt α)) (places : List Nat) : Prop where
  increasing : places.Pairwise (· < ·)
  within : ∀ n ∈ places, start ≤ n ∧ n < start + place receipts
  received : (received receipts).map some = places.map (published[·]?)
  skipped : ∀ n, start ≤ n → n < start + place receipts → n ∉ places →
    n + capacity < published.length

namespace Delivered

variable {capacity start : Nat} {published earlier : List α} {receipts : List (Receipt α)}
  {places : List Nat}

theorem nil : Delivered capacity published start [] [] where
  increasing := .nil
  within := fun _ member => nomatch member
  received := rfl
  skipped := fun _ above below => absurd below (Nat.not_lt.mpr above)

theorem cons {receipt : Receipt α} (due : receipt.Due capacity earlier start)
    (more : earlier <+: published)
    (rest : Delivered capacity published (start + receipt.advance) receipts places) :
    ∃ all, Delivered capacity published start (receipt :: receipts) all := by
  have reach : start + place (receipt :: receipts) = start + receipt.advance + place receipts := by
    rw [place_cons, Nat.add_assoc]
  have longer := more.length_le
  cases due with
  | empty all =>
      refine ⟨places, rest.increasing, ?_, rest.received, ?_⟩
      · rw [reach]
        exact rest.within
      · rw [reach]
        exact rest.skipped
  | @lagged count some behind =>
      have advanced : (Receipt.lagged count : Receipt α).advance = count := Nat.zero_add count
      rw [advanced] at rest reach
      refine ⟨places, rest.increasing, ?_, rest.received, ?_⟩
      · intro n member
        have bounds := rest.within n member
        omega
      · intro n above below absent
        -- What is skipped now lies at the front, what is skipped later behind it.
        by_cases now : n < start + count
        · omega
        · exact rest.skipped n (Nat.not_lt.mp now) (by omega) absent
  | @message value present kept =>
      have advanced : (Receipt.message value).advance = 1 := rfl
      rw [advanced] at rest reach
      refine ⟨start :: places, ?_, ?_, ?_, ?_⟩
      · exact .cons (fun n member => (rest.within n member).1) rest.increasing
      · intro n member
        rcases List.mem_cons.mp member with rfl | later
        · omega
        · have bounds := rest.within n later
          omega
      · obtain ⟨tail, rfl⟩ := more
        obtain ⟨below, _⟩ := List.getElem?_eq_some_iff.mp present
        have here : (earlier ++ tail)[start]? = some value := by
          rw [List.getElem?_append_left below, present]
        rw [received_cons, List.map_append, rest.received, List.map_cons, here]
        rfl
      · intro n above below absent
        rw [List.mem_cons, not_or] at absent
        exact rest.skipped n (by omega) (by omega) absent.2

end Delivered

namespace Audience

variable {audience : Audience α} {reader capacity : Nat} {before published : List α}

theorem after_append (audience : Audience α) (earlier later : List (Turn α)) :
    audience.after (earlier ++ later) = (audience.after earlier).after later := by
  induction earlier generalizing audience with
  | nil => rfl
  | cons turn rest ih => exact ih _

theorem channel_take (audience : Audience α) (turn : Turn α) :
    (audience.take turn).2.channel =
      turn.message?.toList.foldl Channel.publish audience.channel := by
  cases turn with
  | subscribe subscriber => rfl
  | unsubscribe subscriber => rfl
  | publish message => rfl
  | receive subscriber =>
      simp only [take]
      split <;> rfl

/-- Only its own turns move a reader. -/
theorem position?_take_of_foreign (audience : Audience α) {turn : Turn α}
    (stays : turn.rejoins reader = false) (unread : turn.readBy reader = false) :
    (audience.take turn).2.position? reader = audience.position? reader := by
  cases turn with
  | subscribe subscriber =>
      exact Function.update_of_ne (Ne.symm (by simpa [Turn.rejoins] using stays)) ..
  | unsubscribe subscriber =>
      exact Function.update_of_ne (Ne.symm (by simpa [Turn.rejoins] using stays)) ..
  | publish message => rfl
  | receive subscriber =>
      simp only [take]
      split
      · rfl
      · exact Function.update_of_ne (Ne.symm (by simpa [Turn.readBy] using unread)) ..

theorem stands_take {messages : List α} (stands : audience.channel.Stands capacity messages)
    (turn : Turn α) :
    (audience.take turn).2.channel.Stands capacity (messages ++ turn.message?.toList) := by
  rw [channel_take]
  cases turn.message? with
  | none => simpa using stands
  | some message => exact stands.publish message

theorem filterMap_message?_cons (turn : Turn α) (rest : List (Turn α)) :
    (turn :: rest).filterMap Turn.message? =
      turn.message?.toList ++ rest.filterMap Turn.message? := by
  cases turn <;> rfl

theorem stands_after {messages : List α} (stands : audience.channel.Stands capacity messages)
    (turns : List (Turn α)) :
    (audience.after turns).channel.Stands capacity
      (messages ++ turns.filterMap Turn.message?) := by
  induction turns generalizing audience messages with
  | nil =>
      rw [List.filterMap_nil, List.append_nil]
      exact stands
  | cons turn rest ih =>
      rw [filterMap_message?_cons, ← List.append_assoc]
      exact ih (stands_take stands turn)

/-- A reader at a place of what was published since it came. -/
structure Follows (audience : Audience α) (reader capacity : Nat) (before published : List α)
    (start : Nat) : Prop where
  channel : audience.channel.Stands capacity (before ++ published)
  position : audience.position? reader = some (before.length + start)
  within : start ≤ published.length

theorem Follows.receive {start : Nat}
    (follows : Follows audience reader capacity before published start) :
    ∃ receipt, (audience.take (.receive reader)).1 = some receipt ∧
      receipt.Due capacity published start ∧
      Follows (audience.take (.receive reader)).2 reader capacity before published
        (start + receipt.advance) := by
  obtain ⟨receipt, due, read⟩ := follows.channel.receive follows.within
  have taken : audience.take (.receive reader) = (some receipt, { audience with
      position? := Function.update audience.position? reader
        (before.length + (start + receipt.advance)) }) := by
    simp [take, follows.position, read]
  rw [taken]
  exact ⟨receipt, rfl, due, follows.channel, Function.update_self .., due.advance_le⟩

/-- A turn of another subscriber leaves a reader where it is, and so does a publication, which
makes the list longer. -/
theorem Follows.take_of_foreign {start : Nat}
    (follows : Follows audience reader capacity before published start) {turn : Turn α}
    (stays : turn.rejoins reader = false) (unread : turn.readBy reader = false) :
    Follows (audience.take turn).2 reader capacity before (published ++ turn.message?.toList)
      start where
  channel := by
    rw [← List.append_assoc]
    exact stands_take follows.channel turn
  position := (position?_take_of_foreign audience stays unread).trans follows.position
  within := by
    rw [List.length_append]
    exact Nat.le_add_right_of_le follows.within

theorem Follows.run {start : Nat}
    (follows : Follows audience reader capacity before published start) {turns : List (Turn α)}
    (stays : ∀ turn ∈ turns, turn.rejoins reader = false) :
    Follows (audience.after turns) reader capacity before
        (published ++ turns.filterMap Turn.message?)
        (start + place (audience.receipts reader turns)) ∧
      ∃ places, Delivered capacity (published ++ turns.filterMap Turn.message?) start
        (audience.receipts reader turns) places := by
  induction turns generalizing audience published start with
  | nil =>
      rw [List.filterMap_nil, List.append_nil]
      exact ⟨follows, [], .nil⟩
  | cons turn rest ih =>
      have restStays := fun next member => stays next (List.mem_cons_of_mem turn member)
      rw [receipts, filterMap_message?_cons, ← List.append_assoc, heard]
      cases read : turn.readBy reader with
      | false =>
          have next := follows.take_of_foreign (stays turn List.mem_cons_self) read
          exact ih next restStays
      | true =>
          obtain rfl : turn = .receive reader := Turn.eq_receive_of_readBy read
          obtain ⟨receipt, heard, due, next⟩ := follows.receive
          obtain ⟨follows, places, delivered⟩ := ih next restStays
          have silent : (Turn.receive reader : Turn α).message? = none := rfl
          rw [if_pos rfl, heard, Option.toList_some, List.singleton_append, place_cons,
            ← Nat.add_assoc, silent, Option.toList_none, List.append_nil]
          exact ⟨follows, delivered.cons due (List.prefix_append ..)⟩

/-- Two audiences that a reader cannot tell apart. -/
structure Alike (reader : Nat) (one other : Audience α) : Prop where
  channel : one.channel = other.channel
  position : one.position? reader = other.position? reader

namespace Alike

variable {one other : Audience α} {turn : Turn α}

theorem heard (alike : Alike reader one other) (turn : Turn α) :
    one.heard reader turn = other.heard reader turn := by
  cases read : turn.readBy reader with
  | false => simp [Audience.heard, read]
  | true =>
      obtain rfl := Turn.eq_receive_of_readBy read
      simp only [Audience.heard, take, alike.channel, alike.position]
      cases other.position? reader <;> rfl

theorem take (alike : Alike reader one other) (turn : Turn α) :
    Alike reader (one.take turn).2 (other.take turn).2 := by
  refine ⟨by rw [channel_take, channel_take, alike.channel], ?_⟩
  cases turn with
  | subscribe subscriber =>
      simp only [Audience.take, Function.update_apply, alike.channel, alike.position]
  | unsubscribe subscriber => simp only [Audience.take, Function.update_apply, alike.position]
  | publish message => exact alike.position
  | receive subscriber =>
      by_cases own : subscriber = reader
      · subst own
        simp only [Audience.take, alike.channel, alike.position]
        cases held : other.position? subscriber with
        | none => exact alike.position
        | some position => simp
      · have unread : (Turn.receive subscriber : Turn α).readBy reader = false :=
          decide_eq_false own
        rw [position?_take_of_foreign one rfl unread, position?_take_of_foreign other rfl unread,
          alike.position]

theorem take_of_foreign (alike : Alike reader one other) (foreign : turn.concerns reader = false) :
    Alike reader (one.take turn).2 other := by
  simp only [Turn.concerns, Bool.or_eq_false_iff, Option.isSome_eq_false_iff,
    Option.isNone_iff_eq_none] at foreign
  obtain ⟨⟨silent, stays⟩, unread⟩ := foreign
  refine ⟨?_, ?_⟩
  · rw [channel_take, silent]
    exact alike.channel
  · exact (position?_take_of_foreign one stays unread).trans alike.position

end Alike

/-- What others do makes no difference to the receipts of a reader. -/
theorem Alike.receipts {one other : Audience α} (alike : Alike reader one other)
    (turns : List (Turn α)) :
    one.receipts reader turns = other.receipts reader (turns.filter (Turn.concerns reader)) := by
  induction turns generalizing one other with
  | nil => rfl
  | cons turn rest ih =>
      cases concerns : turn.concerns reader with
      | true =>
          rw [List.filter_cons_of_pos concerns, Audience.receipts, Audience.receipts,
            alike.heard turn, ih (alike.take turn)]
      | false =>
          have unread : turn.readBy reader = false := (Bool.or_eq_false_iff.mp concerns).2
          rw [List.filter_cons_of_neg (by simp [concerns]), Audience.receipts, Audience.heard,
            unread, ih (alike.take_of_foreign concerns)]
          rfl

theorem follows_of_subscribe {messages : List α}
    (stands : audience.channel.Stands capacity messages) :
    Follows (audience.take (.subscribe reader)).2 reader capacity messages [] 0 where
  channel := by simpa [take] using stands
  position := by simp [take, Channel.subscribe, stands.sent]
  within := Nat.le_refl 0

/-- A subscriber that stays receives what is published after it came, in order and each message
once. It misses a message only when as many later ones as the channel keeps were published before
its read, and then it is told how many it missed; when it finds nothing to read, it has received or
been told of everything. A reader that has come to the end gets whatever is published next, and
what other subscribers do makes no difference to it. -/
theorem deliveries_accounted (requested reader : Nat) (earlier later : List (Turn α))
    (stays : ∀ turn ∈ later, turn.rejoins reader = false) :
    let capacity := (max requested 1).nextPowerOfTwo
    let joined := (ofCapacity requested).after (earlier ++ [.subscribe reader])
    let receipts := joined.receipts reader later
    let published := later.filterMap Turn.message?
    (∃ places, Delivered capacity published 0 receipts places) ∧
    (∃ receipt, ((joined.after later).take (.receive reader)).1 = some receipt ∧
      receipt.Due capacity published (place receipts)) ∧
    (∀ message, place receipts = published.length →
      ((joined.after (later ++ [.publish message])).take (.receive reader)).1 =
        some (.message message)) ∧
    (∀ turns : List (Turn α), (ofCapacity requested).receipts reader turns =
      (ofCapacity requested).receipts reader (turns.filter (Turn.concerns reader))) := by
  intro capacity joined receipts published
  have start : Follows joined reader capacity (earlier.filterMap Turn.message?) [] 0 := by
    have stands : ((ofCapacity requested).after earlier).channel.Stands capacity
        ([] ++ earlier.filterMap Turn.message?) :=
      stands_after (Channel.stands_ofCapacity requested) earlier
    simp only [joined, after_append]
    exact follows_of_subscribe stands
  obtain ⟨follows, places, delivered⟩ := start.run stays
  rw [List.nil_append] at follows delivered
  rw [Nat.zero_add] at follows
  refine ⟨⟨places, delivered⟩, ?_, ?_, ?_⟩
  · obtain ⟨receipt, taken, due, _⟩ := follows.receive
    exact ⟨receipt, taken, due⟩
  · intro message all
    have next : Follows ((joined.after later).take (.publish message)).2 reader capacity _
        (published ++ [message]) _ := follows.take_of_foreign rfl rfl
    obtain ⟨receipt, taken, due, _⟩ := next.receive
    have room : 0 < capacity := Nat.pos_of_isPowerOfTwo (Nat.isPowerOfTwo_nextPowerOfTwo _)
    rw [all] at due
    rw [after_append, after, after, taken, due.eq_message room]
  · intro turns
    exact Alike.receipts ⟨rfl, rfl⟩ turns

/-- A reader that reads only when three events are published, beside one that reads at once. -/
def lateReader : List (Turn Event) := [
  .publish (.jobStarted .findIssues ⟨"J1"⟩),
  .receive 1,
  .publish (.cacheInvalidated "history"),
  .publish (.jobStopped .findIssues ⟨"J1"⟩),
  .receive 0]

/-- A channel for which no room was asked keeps one message: the late reader is told that it lost
two, and then receives the third. -/
theorem deliveries_to_lateReader :
    let joined := (ofCapacity 0).after [.subscribe 1, .subscribe 0]
    (∀ turn ∈ lateReader, turn.rejoins 0 = false) ∧
    joined.receipts 0 lateReader = [.lagged 2] ∧
    ((joined.after lateReader).take (.receive 0)).1 =
      some (.message (.jobStopped .findIssues ⟨"J1"⟩)) := by
  intro joined
  have stays : ∀ turn ∈ lateReader, turn.rejoins 0 = false := by decide
  have capacity : (max 0 1).nextPowerOfTwo = 1 := by cbv
  have late : joined.receipts 0 lateReader = [.lagged 2] := by
    simp only [joined, ofCapacity, Channel.ofCapacity, capacity]
    rfl
  obtain ⟨_, ⟨receipt, taken, due⟩, _⟩ := deliveries_accounted 0 0 [.subscribe 1] lateReader stays
  refine ⟨stays, late, taken.trans (congrArg some ?_)⟩
  change receipt.Due _ _ (place (joined.receipts 0 lateReader)) at due
  rw [late, capacity] at due
  cases due with
  | empty all => cases all
  | @lagged count some behind =>
      change 2 + count + 1 = 3 at behind
      omega
  | message present =>
      cases present
      rfl

end Audience

end JobWatch

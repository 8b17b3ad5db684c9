import JobWatch.Action

/-!
# Runs of the engine

A run is a list of moves, each of which is one step that nothing interrupts: the first half of an
action, its second half when the server has answered, the end of all polling, a tick of a poll
loop, and the response to a fetch. The order of moves is arbitrary, and so are times, clock
readings and answers. A run may hold answers to questions that nobody asked and responses to
fetches that are not under way, so what holds of all runs holds of those that can happen.
-/

set_option autoImplicit false

namespace JobWatch

/-- One step of the tracker, with what comes from outside. -/
inductive Move where
  | begin (now : Timestamp) (action : Action)
  | resume (now : Timestamp) (answer : Answer)
  | shutdown
  | tick (time session : Nat)
  | respond (now : Timestamp) (session : Nat) (outcome : FetchOutcome)

inductive Upshot where
  | progress (progress : Progress)
  | reply (reply : Reply)
  | fetch (job : Option JobId)
  | done

def Upshot.tracked? : Upshot → Option Record
  | .progress (.replied (.tracked (.ok record))) => some record
  | .reply (.tracked (.ok record)) => some record
  | _ => none

def Upshot.fetched? : Upshot → Option JobId
  | .fetch job => job
  | _ => none

namespace Engine

def perform (engine : Engine) (settings : EngineSettings) : Move → Step Upshot
  | .begin now action => (engine.begin settings now action).map .progress
  | .resume now answer => (engine.resume now answer).map .reply
  | .shutdown => ⟨engine.shutdown, [], .done⟩
  | .tick time session =>
    let (job, ticked) := engine.tick settings time session
    ⟨ticked, [], .fetch job⟩
  | .respond now session outcome =>
    (engine.respond settings now session outcome).map fun _ => .done

def after (engine : Engine) (settings : EngineSettings) : List Move → Engine
  | [] => engine
  | move :: rest => (engine.perform settings move).engine.after settings rest

def emitted (engine : Engine) (settings : EngineSettings) : List Move → List Event
  | [] => []
  | move :: rest =>
    let step := engine.perform settings move
    step.events ++ step.engine.emitted settings rest

/-- The engine when the first moves of a run have been made. -/
def stateAt (settings : EngineSettings) (moves : List Move) (count : Nat) : Engine :=
  initial.after settings (moves.take count)

variable (engine : Engine) (settings : EngineSettings)

@[simp] theorem after_nil : engine.after settings [] = engine := rfl

@[simp] theorem after_cons (move : Move) (rest : List Move) :
    engine.after settings (move :: rest) =
      (engine.perform settings move).engine.after settings rest := rfl

@[simp] theorem emitted_nil : engine.emitted settings [] = [] := rfl

@[simp] theorem emitted_cons (move : Move) (rest : List Move) :
    engine.emitted settings (move :: rest) =
      (engine.perform settings move).events ++
        (engine.perform settings move).engine.emitted settings rest := rfl

theorem after_append (earlier later : List Move) :
    engine.after settings (earlier ++ later) =
      (engine.after settings earlier).after settings later := by
  induction earlier generalizing engine with
  | nil => rfl
  | cons move rest ih => exact ih _

theorem emitted_append (earlier later : List Move) :
    engine.emitted settings (earlier ++ later) = engine.emitted settings earlier ++
      (engine.after settings earlier).emitted settings later := by
  induction earlier generalizing engine with
  | nil => rfl
  | cons move rest ih =>
      rw [List.cons_append, emitted_cons, emitted_cons, after_cons, ih, List.append_assoc]

/-- Whatever a run tells is told by one of its moves. -/
theorem exists_move_of_mem_emitted {moves : List Move} {event : Event}
    (told : event ∈ engine.emitted settings moves) :
    ∃ index move, moves[index]? = some move ∧
      event ∈ ((engine.after settings (moves.take index)).perform settings move).events := by
  induction moves generalizing engine with
  | nil => cases told
  | cons move rest ih =>
      rcases List.mem_append.mp told with here | later
      · exact ⟨0, move, rfl, here⟩
      · obtain ⟨index, next, made, told⟩ := ih _ later
        exact ⟨index + 1, next, made, told⟩

/-- What holds at the beginning and is kept by every move holds after every run. -/
theorem after_invariant {motive : Engine → Prop} (start : motive engine)
    (step : ∀ engine move, motive engine → motive (engine.perform settings move).engine)
    (moves : List Move) : motive (engine.after settings moves) := by
  induction moves generalizing engine with
  | nil => exact start
  | cons move rest ih => exact ih _ (step engine move start)

/-- A reflexive and transitive relation that holds across every move holds across every run. -/
theorem after_related {related : Engine → Engine → Prop} (refl : ∀ engine, related engine engine)
    (trans : ∀ {first middle last}, related first middle → related middle last →
      related first last)
    (step : ∀ engine move, related engine (engine.perform settings move).engine)
    (moves : List Move) : related engine (engine.after settings moves) := by
  induction moves generalizing engine with
  | nil => exact refl engine
  | cons move rest ih => exact trans (step engine move) (ih _)

theorem stateAt_succ {moves : List Move} {index : Nat} {move : Move}
    (made : moves[index]? = some move) :
    stateAt settings moves (index + 1) =
      ((stateAt settings moves index).perform settings move).engine := by
  rw [stateAt, List.take_add_one, made, after_append]
  rfl

/-- What holds at one point of a run and is kept by every move up to another holds there. -/
theorem stateAt_between {motive : Engine → Prop} {moves : List Move} {first last : Nat}
    (order : first ≤ last) (start : motive (stateAt settings moves first))
    (step : ∀ index move, first ≤ index → index < last → moves[index]? = some move →
      motive (stateAt settings moves index) →
      motive ((stateAt settings moves index).perform settings move).engine) :
    motive (stateAt settings moves last) := by
  induction order with
  | refl => exact start
  | @step last since ih =>
      have before := ih fun index move above below =>
        step index move above (Nat.lt_succ_of_lt below)
      cases made : moves[last]? with
      | some move =>
          rw [stateAt_succ settings made]
          exact step last move since (Nat.lt_succ_self last) made before
      | none =>
          rwa [stateAt, List.take_add_one, made, Option.toList_none, List.append_nil]

theorem stateAt_later (moves : List Move) {first last : Nat} (order : first ≤ last) :
    stateAt settings moves last =
      (stateAt settings moves first).after settings ((moves.take last).drop first) := by
  have split := List.take_append_drop first (moves.take last)
  rw [List.take_take, Nat.min_eq_left order] at split
  calc stateAt settings moves last
      = initial.after settings (moves.take first ++ (moves.take last).drop first) := by
        rw [split]; rfl
    _ = (stateAt settings moves first).after settings ((moves.take last).drop first) :=
        after_append ..

end Engine

end JobWatch

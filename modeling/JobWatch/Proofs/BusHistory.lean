import JobWatch.Proofs.Current
import Mathlib.Data.List.Induction

/-!
# Histories of the invalidation bus

For each kind the bus remembers one job, the last whose completion it was told of. So it refuses a
completion exactly if the same job was completed before and nothing has displaced it since: no new
session of the kind and no completion of another job of the kind. What it accepts goes to every
sink, and what it refuses to none.
-/

set_option autoImplicit false

namespace JobWatch

inductive BusCall where
  | completed (kind : Kind) (id : JobId)
  | forget (kind : Kind)

/-- A call after which the bus no longer remembers a job as the last completed one. -/
inductive BusCall.Displaces (kind : Kind) (id : JobId) : BusCall → Prop where
  | forget : Displaces kind id (.forget kind)
  | completed {other : JobId} : other ≠ id → Displaces kind id (.completed kind other)

theorem Delivery.receivedBy_append (sink : Nat) (earlier later : List Delivery) :
    receivedBy sink (earlier ++ later) = receivedBy sink earlier ++ receivedBy sink later :=
  List.filterMap_append

namespace InvalidationBus

/-- Whether a call is an accepted completion, what it delivers, and the bus after it. -/
def call (bus : InvalidationBus) (sinks : Nat) : BusCall → Bool × List Delivery × InvalidationBus
  | .completed kind id => bus.complete sinks kind id
  | .forget kind => (false, [], bus.forget kind)

def after (bus : InvalidationBus) (sinks : Nat) : List BusCall → InvalidationBus
  | [] => bus
  | call :: rest => (bus.call sinks call).2.2.after sinks rest

def delivered (bus : InvalidationBus) (sinks : Nat) : List BusCall → List Delivery
  | [] => []
  | call :: rest =>
    let (_, deliveries, later) := bus.call sinks call
    deliveries ++ later.delivered sinks rest

/-- The kinds of the completions that are accepted in the course of calls. -/
def accepted (bus : InvalidationBus) (sinks : Nat) : List BusCall → List Kind
  | [] => []
  | .forget kind :: rest => (bus.forget kind).accepted sinks rest
  | .completed kind id :: rest =>
    let (accepts, _, later) := bus.complete sinks kind id
    if accepts then kind :: later.accepted sinks rest else later.accepted sinks rest

section

variable {bus : InvalidationBus} {sinks : Nat} {kind : Kind} {id : JobId}

theorem after_append (earlier later : List BusCall) :
    bus.after sinks (earlier ++ later) = (bus.after sinks earlier).after sinks later := by
  induction earlier generalizing bus with
  | nil => rfl
  | cons call rest ih => exact ih

theorem hasPublished_iff : bus.hasPublished kind id = true ↔
    bus.lastCompleted.get kind = some id := beq_iff_eq

theorem complete_of_published (published : bus.hasPublished kind id = true) :
    bus.complete sinks kind id = (false, [], bus) := by
  rw [complete, if_pos published]

theorem complete_of_unpublished (unpublished : bus.hasPublished kind id = false) :
    bus.complete sinks kind id =
      (true, deliveries sinks kind, ⟨bus.lastCompleted.set kind (some id)⟩) := by
  rw [complete, unpublished]
  rfl

/-! ## What the bus remembers -/

/-- A completion is remembered whether it is accepted or refused. -/
theorem lastCompleted_completed :
    (bus.complete sinks kind id).2.2.lastCompleted = bus.lastCompleted.set kind (some id) := by
  cases published : bus.hasPublished kind id with
  | false => rw [complete_of_unpublished published]
  | true =>
      rw [complete_of_published published, ← hasPublished_iff.mp published, PerKind.set_get]

theorem hasPublished_of_completed :
    (bus.call sinks (.completed kind id)).2.2.hasPublished kind id = true := by
  rw [hasPublished_iff, call, lastCompleted_completed, PerKind.get_set_self]

theorem hasPublished_of_displaced {next : BusCall} (displaces : next.Displaces kind id) :
    (bus.call sinks next).2.2.hasPublished kind id = false := by
  cases displaces with
  | forget => simp [call, forget, hasPublished]
  | @completed other different =>
      rw [hasPublished, call, lastCompleted_completed, PerKind.get_set_self]
      simpa using different

theorem hasPublished_of_spared {next : BusCall} (other : next ≠ .completed kind id)
    (spares : ¬ next.Displaces kind id) :
    (bus.call sinks next).2.2.hasPublished kind id = bus.hasPublished kind id := by
  cases next with
  | completed otherKind otherId =>
      have different : kind ≠ otherKind := by
        intro same
        subst otherKind
        by_cases sameId : otherId = id
        · exact other (by rw [sameId])
        · exact spares (.completed sameId)
      rw [hasPublished, call, lastCompleted_completed, PerKind.get_set_of_ne _ _ different]
      rfl
  | forget otherKind =>
      have different : kind ≠ otherKind := by
        intro same
        subst otherKind
        exact spares .forget
      rw [hasPublished, call, forget, PerKind.get_set_of_ne _ _ different]
      rfl

theorem hasPublished_after_of_undisplaced (published : bus.hasPublished kind id = true)
    {calls : List BusCall} (undisplaced : ∀ call ∈ calls, ¬ call.Displaces kind id) :
    (bus.after sinks calls).hasPublished kind id = true := by
  induction calls generalizing bus with
  | nil => exact published
  | cons next rest ih =>
      refine ih ?_ fun call member => undisplaced call (List.mem_cons_of_mem next member)
      by_cases same : next = .completed kind id
      · rw [same]
        exact hasPublished_of_completed
      · rw [hasPublished_of_spared same (undisplaced next List.mem_cons_self)]
        exact published

/-- The bus remembers a job exactly if it was completed and not displaced since. -/
theorem hasPublished_after_iff {history : List BusCall} :
    (empty.after sinks history).hasPublished kind id = true ↔
      ∃ before between, history = before ++ .completed kind id :: between ∧
        ∀ call ∈ between, ¬ call.Displaces kind id := by
  constructor
  · intro published
    induction history using List.reverseRecOn with
    | nil => cases kind <;> cases published
    | append_singleton history next ih =>
        rw [after_append, after, after] at published
        by_cases same : next = .completed kind id
        · exact ⟨history, [], by rw [same], fun _ member => nomatch member⟩
        by_cases displaces : next.Displaces kind id
        · rw [hasPublished_of_displaced displaces] at published
          cases published
        rw [hasPublished_of_spared same displaces] at published
        obtain ⟨before, between, split, undisplaced⟩ := ih published
        refine ⟨before, between ++ [next], by simp [split], ?_⟩
        intro call member
        rcases List.mem_append.mp member with earlier | last
        · exact undisplaced call earlier
        · rw [List.mem_singleton.mp last]
          exact displaces
  · intro ⟨before, between, split, undisplaced⟩
    rw [split, after_append, after]
    exact hasPublished_after_of_undisplaced hasPublished_of_completed undisplaced

/-! ## What the sinks receive -/

theorem receivedBy_delivered {sink : Nat} (present : sink < sinks) (calls : List BusCall) :
    Delivery.receivedBy sink (bus.delivered sinks calls) =
      (bus.accepted sinks calls).flatMap Invalidation.keys := by
  induction calls generalizing bus with
  | nil => rfl
  | cons next rest ih =>
      rw [delivered, Delivery.receivedBy_append, ih]
      cases next with
      | forget kind => rfl
      | completed kind id =>
          cases published : bus.hasPublished kind id with
          | true =>
              rw [accepted, call, complete_of_published published]
              rfl
          | false =>
              rw [accepted, call, complete_of_unpublished published,
                Delivery.receivedBy_deliveries present]
              rfl

end

/-- A completion is accepted exactly if since each earlier completion of the same job a session of
the kind has begun or another job of the kind was completed. Every sink receives the keys of what
is accepted, in order, and nothing of what is refused; so all sinks see the same keys. -/
theorem completions_published_once_unless_displaced (sinks : Nat) (history : List BusCall)
    (kind : Kind) (id : JobId) :
    let answer := (empty.after sinks history).complete sinks kind id
    (answer.1 = true ↔ ∀ before between, history = before ++ .completed kind id :: between →
      ∃ call ∈ between, call.Displaces kind id) ∧
    (answer.1 = true → ∀ sink < sinks,
      Delivery.receivedBy sink answer.2.1 = Invalidation.keys kind) ∧
    (answer.1 = false → answer.2.1 = []) ∧
    (∀ sink < sinks, Delivery.receivedBy sink (empty.delivered sinks history) =
      (empty.accepted sinks history).flatMap Invalidation.keys) := by
  intro answer
  have spread : ∀ sink < sinks, Delivery.receivedBy sink (empty.delivered sinks history) =
      (empty.accepted sinks history).flatMap Invalidation.keys :=
    fun _ present => receivedBy_delivered present history
  cases published : (empty.after sinks history).hasPublished kind id with
  | true =>
      have refused : answer = (false, [], empty.after sinks history) :=
        complete_of_published published
      obtain ⟨before, between, split, undisplaced⟩ := hasPublished_after_iff.mp published
      rw [refused]
      refine ⟨⟨(nomatch ·), fun displaced => ?_⟩, (nomatch ·), fun _ => rfl, spread⟩
      obtain ⟨call, member, displaces⟩ := displaced before between split
      exact absurd displaces (undisplaced call member)
  | false =>
      have accepted : answer = (true, deliveries sinks kind, _) :=
        complete_of_unpublished published
      rw [accepted]
      refine ⟨⟨fun _ before between split => ?_, fun _ => rfl⟩,
        fun _ sink present => Delivery.receivedBy_deliveries present kind,
        (nomatch ·), spread⟩
      by_contra undisplaced
      push Not at undisplaced
      have remembered : (empty.after sinks history).hasPublished kind id = true :=
        hasPublished_after_iff.mpr ⟨before, between, split, undisplaced⟩
      rw [published] at remembered
      cases remembered

/-- The completion of another job makes the bus publish an earlier one again, although no session
of the kind began in between. -/
theorem completion_published_again :
    let history : List BusCall :=
      [.completed .findIssues ⟨"J1"⟩, .completed .findIssues ⟨"J2"⟩]
    .forget .findIssues ∉ history ∧
    (empty.complete 1 .findIssues ⟨"J1"⟩).1 = true ∧
    ((empty.after 1 history).complete 1 .findIssues ⟨"J1"⟩).1 = true ∧
    Delivery.receivedBy 0 ((empty.after 1 history).complete 1 .findIssues ⟨"J1"⟩).2.1 =
      Invalidation.keys .findIssues := by
  refine ⟨by simp, rfl, rfl, rfl⟩

end InvalidationBus

end JobWatch

import JobWatch.Proofs.Current
import JobWatch.Simulation.PollBench

/-!
# Polls on time

The loop of a session takes each tick when it is due, or when the fetch before it has ended if that
is later. From this follow bounds on the time between two fetches, for fetches that take any time,
and fetches that never take longer than the period begin at the multiples of the period. The loop
that runs on the bench takes its ticks at just these times.
-/

set_option autoImplicit false

namespace JobWatch

namespace Cadence

/-! ## Ticks -/

theorem taken_add_period_le_next (period due taken : Nat) :
    taken + period ≤ next period due taken + tolerance := by
  unfold next
  split <;> omega

/-- Every tick that is taken uses up one of the ticks that can still be taken at the time. -/
theorem room_of_next {period due taken fuel : Nat} (positive : 0 < period) (arrived : ¬ taken < due)
    (room : min (taken + 1 - due) (tolerance + 1) < fuel + 1) :
    min (taken + 1 - next period due taken) (tolerance + 1) < fuel := by
  unfold next
  split <;> omega

structure Tick where
  due : Nat
  taken : Nat

section

variable (period begun : Nat) (duration : Nat → Nat)

/-- The ticks of a loop that begins at a time, with a fetch after each tick that takes some time. -/
def tickAt : Nat → Tick
  | 0 => ⟨begun, begun⟩
  | i + 1 =>
    let last := tickAt i
    let due := next period last.due last.taken
    ⟨due, max due (last.taken + duration i)⟩

variable {period begun duration}

theorem due_le_taken (i : Nat) :
    (tickAt period begun duration i).due ≤ (tickAt period begun duration i).taken := by
  cases i with
  | zero => exact Nat.le_refl begun
  | succ i => exact Nat.le_max_left ..

theorem settled_le_taken (i : Nat) :
    (tickAt period begun duration i).taken + duration i ≤
      (tickAt period begun duration (i + 1)).taken :=
  Nat.le_max_right ..

theorem due_succ_le (i : Nat) :
    (tickAt period begun duration (i + 1)).due ≤
      (tickAt period begun duration i).taken + period :=
  next_le_taken_add_period _ _ _ (due_le_taken i)

theorem taken_add_period_le (i : Nat) :
    (tickAt period begun duration i).taken + period ≤
      (tickAt period begun duration (i + 1)).taken + tolerance := by
  have early := taken_add_period_le_next period (tickAt period begun duration i).due
    (tickAt period begun duration i).taken
  have late := @due_le_taken period begun duration (i + 1)
  exact Nat.le_trans early (Nat.add_le_add_right late tolerance)

theorem taken_succ_le (i : Nat) :
    (tickAt period begun duration (i + 1)).taken ≤
      max ((tickAt period begun duration i).taken + duration i)
        ((tickAt period begun duration i).taken + period) := by
  have due := @due_succ_le period begun duration i
  show max (tickAt period begun duration (i + 1)).due _ ≤ _
  omega

theorem tickAt_of_prompt {i : Nat} (prompt : ∀ j < i, duration j ≤ period) :
    tickAt period begun duration i = ⟨begun + i * period, begun + i * period⟩ := by
  induction i with
  | zero => simp [tickAt]
  | succ i ih =>
      have earlier := ih fun j before => prompt j (Nat.lt_succ_of_lt before)
      have last := prompt i (Nat.lt_succ_self i)
      rw [tickAt, earlier]
      simp only [next, Nat.le_add_right, if_true, Nat.succ_mul, Tick.mk.injEq]
      omega

end

end Cadence

namespace Simulation

/-! ## The bench -/

/-- A job that the bench polls: with which period, since when, after how many outcomes the target
stops, and what the server answers. -/
structure PolledJob where
  period : Nat
  begun : Nat
  kind : Kind
  job : JobId
  stopAfter : Option Nat
  outcomes : List (Scripted FetchOutcome)

namespace PolledJob

/-- The bench when the job has been attached and nothing has run. -/
def world (polled : PolledJob) : PollWorld :=
  let bench : PollBench := { PollBench.ofPeriod polled.period with
    server := Server.unscripted.script polled.job polled.outcomes
    rules := (PerKind.both ⟨true, none, 0⟩).set polled.kind ⟨true, polled.stopAfter, 0⟩ }
  PollWorld.changePoller ⟨polled.begun, bench, .empty⟩
    (bench.poller.attach polled.kind polled.job)

variable (polled : PolledJob)

def outcome (i : Nat) : Scripted FetchOutcome := polled.outcomes[i]?.getD Server.pendingOutcome

def stops (i : Nat) : Bool := polled.stopAfter.any (· ≤ i + 1)

def tick (i : Nat) : Cadence.Tick :=
  Cadence.tickAt polled.period polled.begun (fun j => (polled.outcome j).delay) i

def settled (i : Nat) : Nat := (polled.tick i).taken + (polled.outcome i).delay

def fetchNote (i : Nat) : FetchNote := ⟨(polled.tick i).taken, polled.job⟩

def appliedNote (i : Nat) : AppliedNote :=
  ⟨polled.settled i, polled.kind, polled.job, (polled.outcome i).answer, polled.stops i⟩

/-- The bench when some fetches have begun and some outcomes have been applied. -/
def bench (fetched applied : Nat) (phase : Phase) : PollBench where
  interval := polled.period
  poller :=
    ⟨[⟨polled.kind, polled.job, false, phase⟩], (PerKind.both none).set polled.kind (some 0)⟩
  server := Server.unscripted.script polled.job (polled.outcomes.drop fetched)
  rules := (PerKind.both ⟨true, none, 0⟩).set polled.kind ⟨true, polled.stopAfter, applied⟩
  fetches := ((List.range fetched).map polled.fetchNote).reverse
  applied := ((List.range applied).map polled.appliedNote).reverse

theorem world_eq : polled.world = ⟨polled.begun, polled.bench 0 0 .spawned, ⟨[.wake 0], []⟩⟩ := by
  obtain ⟨period, begun, kind, job, stopAfter, outcomes⟩ := polled
  cases kind <;> rfl

section

variable {polled} {fetched applied now : Nat} {phase : Phase}

theorem nextDue?_bench :
    PollBench.host.nextDue? now 0 (polled.bench fetched applied phase) =
      Session.due? ⟨polled.kind, polled.job, false, phase⟩ now := rfl

theorem tick_bench {due : Nat} (positive : 0 < polled.period)
    (awaits : Session.due? ⟨polled.kind, polled.job, false, phase⟩ now = some due) :
    PollBench.host.tick now 0 (polled.bench fetched applied phase) =
      (some polled.job,
        polled.bench fetched applied (.fetching (Cadence.next polled.period due now))) := by
  have nonzero : polled.period ≠ 0 := by omega
  simp [PollBench.host, Poller.tick, Poller.session?, bench, awaits, nonzero, PollBench.isCurrent,
    Poller.setPhase, Poller.modifySession]

theorem takeOutcome_script :
    (Server.unscripted.script polled.job (polled.outcomes.drop fetched)).takeOutcome polled.job =
      (polled.outcome fetched,
        Server.unscripted.script polled.job (polled.outcomes.drop (fetched + 1))) := by
  cases left : polled.outcomes.drop fetched with
  | nil =>
      have short : polled.outcomes.length ≤ fetched := List.drop_eq_nil_iff.mp left
      simp [Server.takeOutcome, Server.script, Server.unscripted, outcome,
        List.drop_of_length_le (Nat.le_succ_of_le short), List.getElem?_eq_none short]
  | cons first rest =>
      have next : polled.outcomes[fetched]? = some first := by
        rw [← Nat.add_zero fetched, ← List.getElem?_drop, left]
        rfl
      have behind : polled.outcomes.drop (fetched + 1) = rest := by
        rw [← List.drop_drop, left]
        rfl
      simp [Server.takeOutcome, Server.script, Server.unscripted, outcome, next, behind]

theorem fetch_bench (taken : (polled.tick fetched).taken = now) :
    PollBench.host.fetch now polled.job (polled.bench fetched applied phase) =
      (polled.outcome fetched, polled.bench (fetched + 1) applied phase) := by
  have noted : ((List.range (fetched + 1)).map polled.fetchNote).reverse =
      ⟨now, polled.job⟩ :: ((List.range fetched).map polled.fetchNote).reverse := by
    simp [List.range_succ, fetchNote, taken]
  simp only [PollBench.host, bench, takeOutcome_script, noted]

def phaseAfter (polled : PolledJob) (i due : Nat) : Phase :=
  if polled.stops i then .finished else .waiting due

theorem respond_bench {due : Nat} (settled : polled.settled applied = now) :
    PollBench.host.respond now 0 (polled.outcome applied).answer
        (polled.bench fetched applied (.fetching due)) =
      polled.bench fetched (applied + 1) (polled.phaseAfter applied due) := by
  have noted : ((List.range (applied + 1)).map polled.appliedNote).reverse =
      polled.appliedNote applied :: ((List.range applied).map polled.appliedNote).reverse := by
    simp [List.range_succ]
  have note : polled.appliedNote applied =
      ⟨now, polled.kind, polled.job, (polled.outcome applied).answer, polled.stops applied⟩ := by
    rw [appliedNote, settled]
  have awaited : (polled.bench fetched applied (.fetching due)).poller.awaits 0
      (polled.bench fetched applied (.fetching due)).isCurrent =
        some ⟨polled.kind, polled.job, false, .fetching due⟩ := by
    simp [Poller.awaits, Poller.session?, bench, PollBench.isCurrent]
  simp only [PollBench.host, awaited]
  cases stopped : polled.stops applied <;>
    simp_all [PollBench.apply, bench, stops, phaseAfter, Poller.settle, Poller.modifySession]

/-! ## Where the loop rests -/

theorem due_succ (i : Nat) : (polled.tick (i + 1)).due =
    Cadence.next polled.period (polled.tick i).due (polled.tick i).taken := rfl

theorem taken_succ (i : Nat) : (polled.tick (i + 1)).taken =
    max (polled.tick (i + 1)).due (polled.settled i) := rfl

/-- Where the loop can rest at a time: with what on the bench, and waiting for what. -/
inductive Rests (polled : PolledJob) (now : Nat) : PollBench → List (Timer PollTask) → Prop where
  /-- The next tick is not due yet, and will be taken when it is. -/
  | waiting {i} : 0 < i → now < (polled.tick i).due → (polled.tick i).taken = (polled.tick i).due →
      Rests polled now (polled.bench i i (.waiting (polled.tick i).due))
        [⟨(polled.tick i).due, .wake 0⟩]
  /-- A fetch is under way. -/
  | fetching {i} : now < polled.settled i →
      Rests polled now (polled.bench (i + 1) i (.fetching (polled.tick (i + 1)).due))
        [⟨polled.settled i, .answer 0 (polled.outcome i).answer⟩]
  /-- The target has stopped the loop. -/
  | ended {i} : polled.stops i = true →
      Rests polled now (polled.bench (i + 1) (i + 1) .finished) []

theorem goOn_finished {fuel : Nat} :
    PollBench.host.goOn now 0 fuel (polled.bench fetched applied .finished) =
      ⟨polled.bench fetched applied .finished, [], []⟩ := by
  cases fuel with
  | zero => rfl
  | succ fuel => rfl

/-- The loop comes to rest before the ticks that it may take at one time are used up. -/
theorem goOn_rests (positive : 0 < polled.period) {fuel i : Nat}
    (awaits : Session.due? ⟨polled.kind, polled.job, false, phase⟩ now = some (polled.tick i).due)
    (prompt : (polled.tick i).taken = max (polled.tick i).due now)
    (begun : 0 < i ∨ (polled.tick i).due ≤ now)
    (enough : min (now + 1 - (polled.tick i).due) (Cadence.tolerance + 1) < fuel) :
    ∃ state timers,
      PollBench.host.goOn now 0 fuel (polled.bench i i phase) = ⟨state, [], timers⟩ ∧
        Rests polled now state timers := by
  -- Each tick that is taken on time brings the next one nearer to the present, and one that is
  -- taken late brings it past the present.
  induction fuel generalizing i phase with
  | zero => omega
  | succ fuel ih =>
      rw [PollHost.goOn, nextDue?_bench, awaits]
      by_cases early : now < (polled.tick i).due
      · have waiting : phase = .waiting (polled.tick i).due := by
          cases phase with
          | spawned =>
              cases awaits
              omega
          | waiting due =>
              cases awaits
              rfl
          | fetching due => cases awaits
          | finished => cases awaits
        subst waiting
        simp only [if_pos early]
        exact ⟨_, _, rfl, .waiting (by omega) early (by omega)⟩
      · have taken : (polled.tick i).taken = now := by omega
        simp only [if_neg early, tick_bench positive awaits, fetch_bench taken]
        subst taken
        rw [← due_succ]
        by_cases instant : (polled.outcome i).delay = 0
        · have settled : polled.settled i = (polled.tick i).taken := by
            rw [settled, instant, Nat.add_zero]
          rw [if_pos instant, respond_bench settled, phaseAfter]
          split
          · next stopped => exact ⟨_, _, goOn_finished, .ended stopped⟩
          · have sooner := Cadence.room_of_next positive early enough
            rw [← due_succ] at sooner
            exact ih rfl (by rw [taken_succ, settled]) (.inl (Nat.succ_pos i)) sooner
        · rw [if_neg instant]
          refine ⟨_, _, rfl, .fetching ?_⟩
          rw [settled]
          omega

theorem mostTicks_enough (due : Nat) :
    min (now + 1 - due) (Cadence.tolerance + 1) < PollHost.mostTicks :=
  Nat.lt_succ_of_le (Nat.min_le_right ..)

theorem wake_rests (positive : 0 < polled.period) {i : Nat}
    (awaits : Session.due? ⟨polled.kind, polled.job, false, phase⟩ (polled.tick i).due =
      some (polled.tick i).due)
    (prompt : (polled.tick i).taken = (polled.tick i).due) :
    ∃ state timers,
      PollBench.host.run (polled.tick i).due (.wake 0) (polled.bench i i phase) =
          ⟨state, [], timers⟩ ∧
        Rests polled (polled.tick i).due state timers :=
  goOn_rests positive awaits (by omega) (.inr (Nat.le_refl _)) (mostTicks_enough _)

theorem answer_rests (positive : 0 < polled.period) (i : Nat) :
    ∃ state timers,
      PollBench.host.run (polled.settled i) (.answer 0 (polled.outcome i).answer)
          (polled.bench (i + 1) i (.fetching (polled.tick (i + 1)).due)) =
          ⟨state, [], timers⟩ ∧
        Rests polled (polled.settled i) state timers := by
  simp only [PollHost.run]
  rw [respond_bench rfl, phaseAfter]
  split
  · next stopped => exact ⟨_, _, goOn_finished, .ended stopped⟩
  · exact goOn_rests positive rfl (taken_succ i) (.inl (Nat.succ_pos i)) (mostTicks_enough _)

/-! ## Worlds -/

/-- The world rests: nothing is ready, and the loop rests. -/
structure Resting (polled : PolledJob) (world : PollWorld) : Prop where
  idle : world.agenda.ready = []
  rests : Rests polled world.now world.state world.agenda.timers

section

variable {world : PollWorld}

theorem round_of_idle (idle : world.agenda.ready = []) :
    world.round PollBench.host.run = world := by
  obtain ⟨time, state, ready, timers⟩ := world
  cases idle
  rfl

theorem settle_of_idle (idle : world.agenda.ready = []) :
    world.settle PollBench.host.run = world := by
  rw [World.settle, round_of_idle idle, round_of_idle idle]

theorem resting_of_task {time : Nat} {state : PollBench} {task : PollTask}
    (acts : ∃ after timers, PollBench.host.run time task state = ⟨after, [], timers⟩ ∧
      Rests polled time after timers) :
    Resting polled (World.run PollBench.host.run ⟨time, state, .empty⟩ task) := by
  obtain ⟨after, timers, done, rests⟩ := acts
  rw [World.run, done]
  exact ⟨rfl, rests⟩

theorem deadline_of_next? {timer : Timer PollTask} {time target deadline : Nat}
    (found : Agenda.next? ⟨[], [timer]⟩ time target = some deadline) :
    deadline = timer.deadline := by
  have member := List.min?_mem found
  simp only [List.map_cons, List.map_nil, List.mem_filter, List.mem_singleton] at member
  exact member.1

theorem resting_fire {time target deadline due : Nat} {state : PollBench} {task : PollTask}
    (found : Agenda.next? ⟨[], [⟨due, task⟩]⟩ time target = some deadline)
    (acts : ∃ after timers, PollBench.host.run due task state = ⟨after, [], timers⟩ ∧
      Rests polled due after timers) :
    Resting polled
      (World.fire PollBench.host.run deadline ⟨time, state, ⟨[], [⟨due, task⟩]⟩⟩) := by
  have resting := resting_of_task acts
  have only : Agenda.takeDue ⟨[], [⟨due, task⟩]⟩ due = ([task], .empty) := by
    simp [Agenda.takeDue, Agenda.empty]
  cases deadline_of_next? found
  simp only [World.fire, only]
  show Resting polled ((World.run PollBench.host.run ⟨due, state, .empty⟩ task).settle _)
  rwa [settle_of_idle resting.idle]

theorem Resting.fire (positive : 0 < polled.period) {target deadline : Nat}
    (resting : Resting polled world)
    (found : world.agenda.next? world.now target = some deadline) :
    Resting polled (world.fire PollBench.host.run deadline) := by
  obtain ⟨time, state, ready, timers⟩ := world
  obtain ⟨idle, rests⟩ := resting
  cases idle
  cases rests with
  | @waiting i later early prompt => exact resting_fire found (wake_rests positive rfl prompt)
  | @fetching i early => exact resting_fire found (answer_rests positive i)
  | ended stopped => cases found

theorem Resting.pass {target : Nat} (resting : Resting polled world)
    (nothing : world.agenda.next? world.now target = none) :
    Resting polled { world with now := max world.now target } := by
  obtain ⟨time, state, ready, timers⟩ := world
  obtain ⟨idle, rests⟩ := resting
  cases idle
  refine ⟨rfl, ?_⟩
  have far : ∀ timer ∈ timers, time < timer.deadline → max time target < timer.deadline := by
    intro timer member ahead
    have none := List.filter_eq_nil_iff.mp (List.min?_eq_none_iff.mp nothing) timer.deadline
      (List.mem_map_of_mem member)
    simp only [Bool.and_eq_true, decide_eq_true_eq] at none
    omega
  cases rests with
  | waiting later early prompt => exact .waiting later (far _ List.mem_cons_self early) prompt
  | fetching early => exact .fetching (far _ List.mem_cons_self early)
  | ended stopped => exact .ended stopped

theorem Resting.runUntil (positive : 0 < polled.period) {target : Nat}
    (resting : Resting polled world) :
    Resting polled (world.runUntil PollBench.host.run target) := by
  fun_induction World.runUntil with
  | case1 world nothing => exact resting.pass nothing
  | case2 world deadline found ih => exact ih (resting.fire positive found)

theorem Resting.advance (positive : 0 < polled.period) (resting : Resting polled world)
    (millis : Nat) : Resting polled (PollWorld.advance world millis) := by
  rw [PollWorld.advance, World.advance, settle_of_idle resting.idle]
  exact resting.runUntil positive

/-- The first time that passes lets the loop begin. -/
theorem resting_of_world (positive : 0 < polled.period) (millis : Nat) :
    Resting polled (PollWorld.advance polled.world millis) := by
  have begins : Resting polled
      (World.run PollBench.host.run ⟨polled.begun, polled.bench 0 0 .spawned, .empty⟩ (.wake 0)) :=
    resting_of_task (wake_rests positive (i := 0) rfl rfl)
  have first : polled.world.round PollBench.host.run =
      World.run PollBench.host.run ⟨polled.begun, polled.bench 0 0 .spawned, .empty⟩ (.wake 0) := by
    rw [world_eq]
    rfl
  rw [PollWorld.advance, World.advance, World.settle, first, round_of_idle begins.idle]
  exact begins.runUntil positive

theorem now_runUntil {target : Nat} (ahead : world.now ≤ target) :
    (world.runUntil PollBench.host.run target).now = target := by
  fun_induction World.runUntil with
  | case1 world nothing => exact Nat.max_eq_right ahead
  | case2 world deadline found ih =>
      apply ih
      rw [World.now_fire]
      exact (Agenda.next?_bounds found).2

theorem now_advance (millis : Nat) : (PollWorld.advance world millis).now = world.now + millis := by
  rw [PollWorld.advance, World.advance]
  exact now_runUntil (by rw [World.now_settle]; exact Nat.le_add_right ..)

/-! ## The pace of the loop -/

/-- When the fetches of a bench began, and when their outcomes were applied, the first first. -/
def starts (world : PollWorld) : List Nat := world.state.fetches.reverse.map FetchNote.time

def settles (world : PollWorld) : List Nat := world.state.applied.reverse.map AppliedNote.time

/-- What is noted on the bench: the fetches that have begun and those that have ended, and how long
the loop goes on waiting. -/
theorem Resting.noted (resting : Resting polled world) : ∃ fetched applied,
    starts world = (List.range fetched).map (fun i => (polled.tick i).taken) ∧
      settles world = (List.range applied).map polled.settled ∧
      0 < fetched ∧ applied ≤ fetched ∧ fetched ≤ applied + 1 ∧
      (applied < fetched → world.now < polled.settled applied) ∧
      ∀ i, i + 1 = fetched → fetched = applied → polled.stops i = false →
        world.now < (polled.tick fetched).due := by
  obtain ⟨time, state, ready, timers⟩ := world
  obtain ⟨_, rests⟩ := resting
  have times : ∀ fetched applied phase timers,
      starts ⟨time, polled.bench fetched applied phase, ready, timers⟩ =
          (List.range fetched).map (fun i => (polled.tick i).taken) ∧
        settles ⟨time, polled.bench fetched applied phase, ready, timers⟩ =
          (List.range applied).map polled.settled := by
    intro fetched applied phase timers
    simp [starts, settles, bench, fetchNote, appliedNote, Function.comp_def]
  cases rests with
  | @waiting i later early prompt =>
      obtain ⟨first, second⟩ := times i i (.waiting (polled.tick i).due) _
      exact ⟨i, i, first, second, later, Nat.le_refl i, Nat.le_succ i, by omega,
        fun _ _ _ _ => early⟩
  | @fetching i early =>
      obtain ⟨first, second⟩ := times (i + 1) i (.fetching (polled.tick (i + 1)).due) _
      exact ⟨i + 1, i, first, second, Nat.succ_pos i, Nat.le_succ i, Nat.le_refl _,
        fun _ => early, by omega⟩
  | @ended i stopped =>
      obtain ⟨first, second⟩ := times (i + 1) (i + 1) .finished _
      refine ⟨i + 1, i + 1, first, second, Nat.succ_pos i, Nat.le_refl _, Nat.le_succ _, by omega,
        ?_⟩
      intro j same _ goesOn
      cases same
      rw [stopped] at goesOn
      cases goesOn

/-- The pace of a loop, as its notes show it. The next fetch begins when the one before has ended,
not sooner than a period after it began, up to five milliseconds, and not later than both; and
where no fetch takes longer than the period, they begin at the multiples of the period. -/
structure KeepsPace (polled : PolledJob) (world : PollWorld) : Prop where
  first : (starts world)[0]? = some polled.begun
  settles_of_start : ∀ i start, (starts world)[i]? = some start →
    start + (polled.outcome i).delay ≤ world.now →
      (settles world)[i]? = some (start + (polled.outcome i).delay)
  start_of_settles : ∀ i settle, (settles world)[i]? = some settle →
    ∃ start, (starts world)[i]? = some start ∧ settle = start + (polled.outcome i).delay
  next : ∀ i later, (starts world)[i + 1]? = some later →
    ∃ start settle, (starts world)[i]? = some start ∧ (settles world)[i]? = some settle ∧
      settle ≤ later ∧ start + polled.period ≤ later + 5 ∧
        later ≤ max settle (start + polled.period)
  goesOn : ∀ i start settle, (starts world)[i]? = some start →
    (settles world)[i]? = some settle → polled.stops i = false →
      max settle (start + polled.period) ≤ world.now → ∃ later, (starts world)[i + 1]? = some later
  steady : (∀ (i : Nat) start settle, (starts world)[i]? = some start →
      (settles world)[i]? = some settle → settle ≤ start + polled.period) →
    ∀ (i : Nat) start, (starts world)[i]? = some start → start = polled.begun + i * polled.period

theorem getElem?_map_range_eq_some {count i time : Nat} {timeOf : Nat → Nat} :
    ((List.range count).map timeOf)[i]? = some time ↔ i < count ∧ timeOf i = time := by
  by_cases before : i < count <;> simp [before]

theorem Resting.keepsPace (resting : Resting polled world) : KeepsPace polled world := by
  obtain ⟨fetched, applied, started, ended, nonempty, inTurn, single, underWay, waits⟩ :=
    resting.noted
  have start_iff : ∀ i time, (starts world)[i]? = some time ↔
      i < fetched ∧ (polled.tick i).taken = time := by
    intro i time
    rw [started, getElem?_map_range_eq_some]
  have settle_iff : ∀ i time, (settles world)[i]? = some time ↔
      i < applied ∧ polled.settled i = time := by
    intro i time
    rw [ended, getElem?_map_range_eq_some]
  constructor
  · exact (start_iff 0 _).mpr ⟨nonempty, rfl⟩
  · intro i start begun elapsed
    obtain ⟨before, rfl⟩ := (start_iff i start).mp begun
    refine (settle_iff i _).mpr ⟨?_, rfl⟩
    apply Nat.lt_of_not_le
    intro running
    have last : i = applied := by omega
    subst last
    exact absurd elapsed (Nat.not_le.mpr (underWay before))
  · intro i settle done
    obtain ⟨before, rfl⟩ := (settle_iff i settle).mp done
    exact ⟨_, (start_iff i _).mpr ⟨by omega, rfl⟩, rfl⟩
  · intro i later begun
    obtain ⟨before, rfl⟩ := (start_iff (i + 1) later).mp begun
    refine ⟨_, _, (start_iff i _).mpr ⟨by omega, rfl⟩, (settle_iff i _).mpr ⟨by omega, rfl⟩, ?_⟩
    exact ⟨Cadence.settled_le_taken i, Cadence.taken_add_period_le i, Cadence.taken_succ_le i⟩
  · intro i start settle begun done goesOn elapsed
    obtain ⟨_, rfl⟩ := (start_iff i start).mp begun
    obtain ⟨before, rfl⟩ := (settle_iff i settle).mp done
    refine ⟨_, (start_iff (i + 1) _).mpr ⟨?_, rfl⟩⟩
    apply Nat.lt_of_not_le
    intro none
    have last : i + 1 = fetched := by omega
    have early := waits i last (by omega) goesOn
    subst last
    have due : (polled.tick (i + 1)).due ≤ _ := Cadence.due_succ_le i
    have late := Nat.le_trans (Nat.le_max_right _ _) elapsed
    exact absurd (Nat.le_trans due late) (Nat.not_le.mpr early)
  · intro within i start begun
    obtain ⟨before, rfl⟩ := (start_iff i start).mp begun
    have prompt : ∀ j < i, (polled.outcome j).delay ≤ polled.period := by
      intro j earlier
      have short := within j _ _ ((start_iff j _).mpr ⟨by omega, rfl⟩)
        ((settle_iff j _).mpr ⟨by omega, rfl⟩)
      exact Nat.le_of_add_le_add_left short
    exact congrArg Cadence.Tick.taken (Cadence.tickAt_of_prompt prompt)

theorem keepsPace_of_advances (positive : 0 < polled.period) (span : Nat) (spans : List Nat) :
    KeepsPace polled ((span :: spans).foldl PollWorld.advance polled.world) := by
  have rests : ∀ world, Resting polled world →
      Resting polled (spans.foldl PollWorld.advance world) := by
    induction spans with
    | nil => exact fun _ resting => resting
    | cons more spans ih => exact fun world resting => ih _ (resting.advance positive more)
  exact (rests _ (resting_of_world positive span)).keepsPace

theorem now_advances (world : PollWorld) (spans : List Nat) :
    (spans.foldl PollWorld.advance world).now = spans.foldl (· + ·) world.now := by
  induction spans generalizing world with
  | nil => rfl
  | cons span spans ih => rw [List.foldl_cons, List.foldl_cons, ih, now_advance]

/-- A loop keeps the pace of its period, whatever that is and whatever time its fetches take. -/
theorem polls_keep_cadence (polled : PolledJob) (span : Nat) (spans : List Nat)
    (positive : 0 < polled.period) :
    ((span :: spans).foldl PollWorld.advance polled.world).now =
        (span :: spans).foldl (· + ·) polled.begun ∧
      KeepsPace polled ((span :: spans).foldl PollWorld.advance polled.world) := by
  refine ⟨?_, keepsPace_of_advances positive span spans⟩
  rw [now_advances, world_eq]

/-- A job whose first fetch takes half as long again as the period. -/
def slowJob : PolledJob := ⟨1000, 0, .findIssues, ⟨"J1"⟩, none, [⟨.ok .null, 1500⟩]⟩

theorem slowJob_polled_when_settled :
    0 < slowJob.period ∧
      ∃ world, world = [100, 1400, 2500].foldl PollWorld.advance slowJob.world ∧
        world.now = 4000 ∧ (starts world)[0]? = some 0 ∧ (settles world)[0]? = some 1500 ∧
          (starts world)[1]? = some 1500 := by
  refine ⟨by decide, _, rfl, ?_⟩
  obtain ⟨now, keeps⟩ := polls_keep_cadence slowJob 100 [1400, 2500] (by decide)
  have now : ([100, 1400, 2500].foldl PollWorld.advance slowJob.world).now = 4000 := now
  have settled := keeps.settles_of_start 0 0 keeps.first (by rw [now]; decide)
  obtain ⟨later, second⟩ := keeps.goesOn 0 0 1500 keeps.first settled rfl (by rw [now]; decide)
  refine ⟨now, keeps.first, settled, ?_⟩
  obtain ⟨start, settle, begun, ended, inTurn, _, notLate⟩ := keeps.next 0 later second
  cases Option.some.inj (begun.symm.trans keeps.first)
  cases Option.some.inj (ended.symm.trans settled)
  have same : later = 1500 := Nat.le_antisymm notLate inTurn
  rw [second, same]

end

end

end PolledJob

end Simulation

end JobWatch

import JobWatch.Proofs.Account
import JobWatch.Proofs.Evidence

/-!
# The texts of failures

A failure is told with a text for people to read. The text of a transport error always says
something, and so does the status of a payload that explains nothing. What a payload gives as
explanation is passed on: a text of its own only if it is not blank, but the text inside an object
as it is, and that may be blank.
-/

set_option autoImplicit false

namespace JobWatch

theorem TransportError.isBlankText_message (error : TransportError) :
    Text.isBlankText error.message = false := by
  cases error with
  | http status code detail =>
      have lead : Text.isBlankText "server responded " = false := by decide +kernel
      have numbered := Text.isBlankText_append_of_left lead (toString status.toNat)
      exact Text.isBlankText_append_of_left (Text.isBlankText_append_of_left numbered ": ") detail
  | _ => exact Text.isBlankText_append_of_left (by decide +kernel) _

namespace Completion

/-- What a value gives as explanation of a failure. -/
inductive Explains : Json → String → Prop where
  | text {text} : Text.isBlankText text = false → Explains (.str text) (Text.trim text)
  | nested {members text} : Json.lookup? "message" members = some (.str text) →
      Explains (.obj members) text

/-- The first of the explanatory keys whose value explains a failure, and the explanation. -/
def Explained (members : List (String × Json)) (key message : String) : Prop :=
  ∃ earlier later, ["error", "message", "detail"] = earlier ++ key :: later ∧
    (∃ value, Json.lookup? key members = some value ∧ Explains value message) ∧
    ∀ before ∈ earlier, ∀ value other, Json.lookup? before members = some value →
      ¬ Explains value other

/-- The explanation of a failure is the text inside an object, and that text is blank. -/
def Mute (members : List (String × Json)) : Prop :=
  ∃ key inner message, Explained members key message ∧ Wraps members key inner ∧
    Text.isBlankText message = true

section

variable {members : List (String × Json)} {message : String}

theorem explanation?_eq_some_iff {value : Json} :
    explanation? value = some message ↔ Explains value message := by
  constructor
  · intro read
    unfold explanation? at read
    split at read
    · split at read
      · cases read
      · next solid =>
          cases read
          exact .text (by simpa using solid)
    · obtain ⟨inner, found, isText⟩ := Option.bind_eq_some_iff.mp read
      cases inner <;> cases isText
      exact .nested found
    · cases read
  · intro explains
    cases explains with
    | text solid => simp [explanation?, solid]
    | nested found => simp [explanation?, found, Json.text?]

theorem bind_explanation?_eq_some_iff {key : String} :
    (Json.lookup? key members).bind explanation? = some message ↔
      ∃ value, Json.lookup? key members = some value ∧ Explains value message := by
  simp only [Option.bind_eq_some_iff, explanation?_eq_some_iff]

theorem bind_explanation?_eq_none_iff {key : String} :
    (Json.lookup? key members).bind explanation? = none ↔
      ∀ value other, Json.lookup? key members = some value → ¬ Explains value other := by
  rw [Option.eq_none_iff_forall_ne_some]
  simp only [ne_eq, bind_explanation?_eq_some_iff]
  constructor
  · intro unexplained value other found explains
    exact unexplained other ⟨value, found, explains⟩
  · intro unexplained other ⟨value, found, explains⟩
    exact unexplained value other found explains

theorem findSome?_explanation?_eq_some_iff :
    (explanationKeys.findSome? fun key => (Json.lookup? key members).bind explanation?) =
      some message ↔ ∃ key, Explained members key message := by
  rw [List.findSome?_eq_some_iff]
  simp only [bind_explanation?_eq_some_iff, bind_explanation?_eq_none_iff]
  constructor
  · intro ⟨earlier, key, later, split, explained, first⟩
    exact ⟨key, earlier, later, split, explained, first⟩
  · intro ⟨key, earlier, later, split, explained, first⟩
    exact ⟨earlier, key, later, split, explained, first⟩

theorem failureMessage_of_explained {key : String} (explained : Explained members key message)
    (status : String) : failureMessage members status = message := by
  simp only [failureMessage, findSome?_explanation?_eq_some_iff.mpr ⟨key, explained⟩,
    Option.getD_some]

/-- The text of a failure that a payload reports is blank just when its explanation is mute. -/
theorem isBlankText_failureMessage_iff {status : String} :
    Text.isBlankText (failureMessage members status) = true ↔ Mute members := by
  constructor
  · intro blank
    cases found : explanationKeys.findSome? fun key =>
        (Json.lookup? key members).bind explanation? with
    | none =>
        simp only [failureMessage, found, Option.getD_none] at blank
        rw [Text.isBlankText_append_of_left (by decide +kernel)] at blank
        cases blank
    | some message =>
        obtain ⟨key, explained⟩ := findSome?_explanation?_eq_some_iff.mp found
        rw [failureMessage_of_explained explained] at blank
        obtain ⟨_, _, _, ⟨value, stands, explains⟩, _⟩ := id explained
        -- A text of its own is passed on only if it is not blank, so an object must explain.
        cases explains with
        | text solid =>
            rw [Text.isBlankText_trim, solid] at blank
            cases blank
        | @nested inner _ _ => exact ⟨key, inner, message, explained, stands, blank⟩
  · intro mute
    obtain ⟨key, inner, message, explained, _, blank⟩ := mute
    rwa [failureMessage_of_explained explained]

end

end Completion

/-- An outcome that ends a job without a word: the payload says that the job failed, and its
explanation is mute. -/
def FetchOutcome.Wordless (outcome : FetchOutcome) : Prop :=
  ∃ members, outcome = .ok (.obj members) ∧ Completion.Fails members ∧ Completion.Mute members

theorem isBlankText_iff_wordless {kind : Kind} {payload : Json} {message : String}
    (failed : Completion.detect kind payload = .failed message) :
    Text.isBlankText message = true ↔ FetchOutcome.Wordless (.ok payload) := by
  obtain ⟨members, rfl, fails⟩ := Completion.detect_eq_failed_iff.mp ⟨message, failed⟩
  obtain ⟨status, _, told⟩ := Completion.detect_of_fails kind fails
  rw [told] at failed
  cases failed
  rw [Completion.isBlankText_failureMessage_iff]
  constructor
  · intro mute
    exact ⟨members, rfl, fails, mute⟩
  · intro ⟨_, same, _, mute⟩
    cases same
    exact mute

theorem not_wordless_error (error : TransportError) : ¬ FetchOutcome.Wordless (.error error) := by
  intro ⟨_, same, _⟩
  cases same

theorem Account.mem_told_of_next {account : Account} {report : Report} {event : Event}
    (told : event ∈ (account.next report).told) : event ∈ account.told ∨ event ∈ report.told := by
  unfold next at told
  split at told
  · exact .inr told
  · exact List.mem_append.mp told

namespace Engine

/-- A failure is told in answer to an outcome, and its text is blank just when the outcome is
wordless. -/
theorem Effect.failure_of_outcome {settings : EngineSettings} {engine later : Engine} {move : Move}
    {events : List Event} (effect : Effect settings engine move later events) {kind : Kind}
    {id : JobId} {failure : Failure} (told : .jobFailed kind id failure ∈ events) :
    ∃ now n outcome, move = .respond now n outcome ∧
      (Text.isBlankText failure.message = true ↔ outcome.Wordless) := by
  cases effect with
  | failed _ detected =>
      cases List.mem_singleton.mp told
      exact ⟨_, _, _, rfl, isBlankText_iff_wordless detected⟩
  | @exhausted now n s record error =>
      cases List.mem_singleton.mp told
      refine ⟨_, _, _, rfl, ?_⟩
      simp [TransportError.isBlankText_message, not_wordless_error]
  | @aborted now n s record error =>
      cases List.mem_singleton.mp told
      refine ⟨_, _, _, rfl, ?_⟩
      simp [TransportError.isBlankText_message, not_wordless_error]
  | completed => simp [completionEvents] at told
  | opened => cases List.mem_singleton.mp told
  | stopped => cases List.mem_singleton.mp told
  | _ => cases told

/-- A text that holds a character that is not blank. -/
def Readable (text : String) : Prop := ∃ c ∈ text.toList, Text.isBlank c = false

/-- A move of a run takes in an outcome and tells with a message that a job of a kind failed. -/
def TellsFailure (settings : EngineSettings) (moves : List Move) (kind : Kind) (message : String)
    (outcome : FetchOutcome) : Prop :=
  ∃ index now n id reason, moves[index]? = some (.respond now n outcome) ∧
    .jobFailed kind id ⟨reason, message⟩ ∈
      ((stateAt settings moves index).perform settings (.respond now n outcome)).events

theorem readable_iff {text : String} : Readable text ↔ ¬ Text.isBlankText text = true := by
  simp [Readable, Text.isBlankText]

section

variable {settings : EngineSettings} {moves : List Move} {kind : Kind}

theorem tellsFailure_of_emitted {id : JobId} {failure : Failure}
    (told : .jobFailed kind id failure ∈ initial.emitted settings moves) :
    ∃ outcome, TellsFailure settings moves kind failure.message outcome ∧
      (Readable failure.message ↔ ¬ outcome.Wordless) := by
  obtain ⟨index, move, made, told⟩ := exists_move_of_mem_emitted initial settings told
  obtain ⟨now, n, outcome, rfl, blank⟩ :=
    (perform_effect (stateAt settings moves index) settings move).failure_of_outcome told
  refine ⟨outcome, ⟨index, now, n, id, failure.reason, made, told⟩, ?_⟩
  rw [readable_iff, blank]

/-- What the account of a session says was told has been told in the run. -/
theorem mem_emitted_of_account {engine : Engine} {earlier : Account} {event : Event}
    (told : event ∈ (engine.account settings kind earlier moves).told) :
    event ∈ earlier.told ∨ event ∈ engine.emitted settings moves := by
  induction moves generalizing engine earlier with
  | nil => exact .inl told
  | cons move rest ih =>
      rw [emitted_cons, List.mem_append]
      rcases ih told with soon | later
      · rcases Account.mem_told_of_next soon with before | here
        · exact .inl before
        · exact .inr (.inl (List.mem_filter.mp here).1)
      · exact .inr (.inr later)

theorem failure_of_failed_record {record : Record}
    (held : (initial.after settings moves).record? kind = some record)
    (failed : record.status = .failed) :
    ∃ message, record.lastError = some message ∧
      .jobFailed kind record.id ⟨.rejected, message⟩ ∈ initial.emitted settings moves := by
  obtain ⟨message, lastError, told⟩ := (accounted_after held).failed failed
  refine ⟨message, lastError, ?_⟩
  have member : .jobFailed kind record.id ⟨.rejected, message⟩ ∈
      (initial.account settings kind .empty moves).told := by simp [told]
  exact (mem_emitted_of_account member).resolve_left (by simp [Account.empty])

end

/-- Every failure that is told, and the error of every failed record, comes from an outcome that
the run has taken in, and it can be read unless that outcome is wordless. -/
theorem failures_readable_unless_wordless (settings : EngineSettings) (moves : List Move)
    (kind : Kind) :
    (∀ id failure, .jobFailed kind id failure ∈ initial.emitted settings moves →
      ∃ outcome, TellsFailure settings moves kind failure.message outcome ∧
        (Readable failure.message ↔ ¬ outcome.Wordless)) ∧
    (∀ record, (initial.after settings moves).record? kind = some record →
      record.status = .failed → ∃ message outcome, record.lastError = some message ∧
        TellsFailure settings moves kind message outcome ∧
        (Readable message ↔ ¬ outcome.Wordless)) := by
  constructor
  · intro id failure told
    exact tellsFailure_of_emitted told
  · intro record held failed
    obtain ⟨message, lastError, told⟩ := failure_of_failed_record held failed
    obtain ⟨outcome, tells, readable⟩ := tellsFailure_of_emitted told
    exact ⟨message, outcome, lastError, tells, readable⟩

/-- A job whose failure the server explains with an object that has the given text in it. -/
def failsExplained (text : String) : List Move := [
  .begin (.ofMillis 0) (.track .findIssues ⟨"J1"⟩), .tick 0 0,
  .respond (.ofMillis 1) 0 (.ok (.obj [
    ("status", .str "failed"), ("error", .obj [("message", .str text)])]))]

/-- Subscribers are told of the failure with a blank, and the record keeps it as its error. -/
theorem blank_failure_told :
    .jobFailed .findIssues ⟨"J1"⟩ ⟨.rejected, " "⟩ ∈
      initial.emitted .standard (failsExplained " ") ∧
    (∃ record, (initial.after .standard (failsExplained " ")).record? .findIssues = some record ∧
      record.status = .failed ∧ record.lastError = some " ") ∧
    ¬ Readable " " := by
  have told : initial.emitted .standard (failsExplained " ") =
      [.jobStarted .findIssues ⟨"J1"⟩, .jobFailed .findIssues ⟨"J1"⟩ ⟨.rejected, " "⟩] := by rfl
  refine ⟨by simp [told], ⟨_, rfl, rfl, rfl⟩, ?_⟩
  rw [readable_iff, not_not]
  decide +kernel

/-- With words in its place the failure and the record can be read. -/
theorem explained_failure_told :
    (∃ outcome, TellsFailure .standard (failsExplained "boom") .findIssues "boom" outcome ∧
      (Readable "boom" ↔ ¬ outcome.Wordless)) ∧
    ∃ record message outcome,
      (initial.after .standard (failsExplained "boom")).record? .findIssues = some record ∧
      record.status = .failed ∧ record.lastError = some message ∧
      TellsFailure .standard (failsExplained "boom") .findIssues message outcome ∧
      (Readable message ↔ ¬ outcome.Wordless) := by
  have told : initial.emitted .standard (failsExplained "boom") =
      [.jobStarted .findIssues ⟨"J1"⟩, .jobFailed .findIssues ⟨"J1"⟩ ⟨.rejected, "boom"⟩] := by rfl
  obtain ⟨failures, records⟩ :=
    failures_readable_unless_wordless .standard (failsExplained "boom") .findIssues
  obtain ⟨message, outcome, lastError, tells, readable⟩ := records _ rfl rfl
  exact ⟨failures ⟨"J1"⟩ ⟨.rejected, "boom"⟩ (by simp [told]),
    _, message, outcome, rfl, rfl, lastError, tells, readable⟩

end Engine

end JobWatch

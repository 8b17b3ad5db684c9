import JobWatch.Proofs.BlankText
import JobWatch.Proofs.PollAnswer

/-!
# Fields of the server's answers

An application code and the name of a started job are each looked for in two places, one before
the other. What is there has to be of use, a number or a text that is not blank. The first place
gives way only when nothing stands there: a value that is of no use hides the second place.
-/

set_option autoImplicit false

namespace JobWatch.Client

/-- A value that can serve as a code or a name, and the text it gives. -/
inductive Usable : Json → String → Prop where
  | number {n} : Usable (.num n) n.text
  | text {text} : Text.isBlankText text = false → Usable (.str text) text

def Serves (place : Option Json) : Prop := ∃ value text, place = some value ∧ Usable value text

def Useless (place : Option Json) : Prop :=
  ∃ value, place = some value ∧ ∀ text, ¬ Usable value text

/-- What two places give: the text of the first, and of the second where the first is empty. -/
inductive Gives (first second : Option Json) : String → Prop where
  | first {value text} : first = some value → Usable value text → Gives first second text
  | second {value text} : first = none → second = some value → Usable value text →
      Gives first second text

theorem scalarText?_eq_some_iff {value : Json} {text : String} :
    scalarText? value = some text ↔ Usable value text := by
  constructor
  · intro read
    unfold scalarText? at read
    split at read
    · split at read
      · cases read
      · next solid =>
          cases read
          exact .text (by simpa using solid)
    · cases read
      exact .number
    · cases read
  · intro usable
    cases usable with
    | number => rfl
    | text solid => simp [scalarText?, solid]

section

variable {first second : Option Json} {text : String}

theorem firstOf_pair : firstOf [first, second] = first.or second := by
  cases first <;> cases second <;> rfl

theorem bind_firstOf_eq_some_iff :
    (firstOf [first, second]).bind scalarText? = some text ↔ Gives first second text := by
  rw [firstOf_pair]
  cases first with
  | some value =>
      rw [Option.some_or, Option.bind_some, scalarText?_eq_some_iff]
      constructor
      · exact .first rfl
      · intro gives
        cases gives with
        | first found usable =>
            cases found
            exact usable
        | second absent => cases absent
  | none =>
      rw [Option.none_or, Option.bind_eq_some_iff]
      constructor
      · intro ⟨value, found, read⟩
        exact .second rfl found (scalarText?_eq_some_iff.mp read)
      · intro gives
        cases gives with
        | first found => cases found
        | second _ found usable => exact ⟨_, found, scalarText?_eq_some_iff.mpr usable⟩

/-- If one of two places serves, something is found exactly if the first is not useless. -/
theorem gives_iff_of_serves (serves : Serves first ∨ Serves second) :
    (∃ text, Gives first second text) ↔ ¬ Useless first := by
  constructor
  · intro ⟨text, gives⟩ ⟨value, present, useless⟩
    cases gives with
    | first found usable =>
        rw [present] at found
        cases found
        exact useless text usable
    | second absent =>
        rw [present] at absent
        cases absent
  · intro notUseless
    cases first with
    | some value =>
        have usable : ∃ text, Usable value text :=
          Classical.byContradiction fun none => notUseless ⟨value, rfl, not_exists.mp none⟩
        obtain ⟨text, usable⟩ := usable
        exact ⟨text, .first rfl usable⟩
    | none =>
        rcases serves with ⟨_, _, absent, _⟩ | ⟨value, text, found, usable⟩
        · cases absent
        · exact ⟨text, .second rfl found usable⟩

end

def nestedCode? (body : Json) : Option Json := (body.get? "error").bind (·.get? "code")

theorem nested_filter_isObject (body : Json) :
    ((body.get? "error").filter Json.isObject).bind (·.get? "code") = nestedCode? body := by
  rw [nestedCode?]
  cases found : body.get? "error" with
  | none => rfl
  | some value => cases value <;> rfl

theorem errorBody_code_iff {body code : String} {value : Json}
    (reads : Json.parse body = .ok value) :
    (errorBody body).1 = some code ↔ Gives (value.get? "code") (nestedCode? value) code := by
  simp only [errorBody, reads, errorCode?]
  rw [nested_filter_isObject, bind_firstOf_eq_some_iff]

theorem startedId?_eq_some_iff {answer : Json} {id : JobId} :
    startedId? answer = some id ↔ Gives (answer.get? "run_id") (answer.get? "id") id.text := by
  rw [startedId?, Option.map_eq_some_iff]
  constructor
  · intro ⟨text, read, named⟩
    cases named
    exact bind_firstOf_eq_some_iff.mp read
  · intro gives
    exact ⟨id.text, bind_firstOf_eq_some_iff.mpr gives, rfl⟩

/-- An error response that carries an application code has failed for good. -/
theorem successBody_definitive {response : Response} {code : String}
    (refused : 400 ≤ response.status) (coded : (errorBody response.body).1 = some code) :
    ∃ error, successBody response = .error error ∧ error.isTransient = false := by
  cases answered : successBody response with
  | ok body => exact absurd (successBody_eq_ok_iff.mp answered).1 (UInt16.not_lt.mpr refused)
  | error error =>
      refine ⟨error, rfl, eq_false_of_ne_true fun transient => ?_⟩
      obtain ⟨_, uncoded⟩ := successBody_transient_iff.mp ⟨error, answered, transient⟩
      rw [coded] at uncoded
      cases uncoded

theorem serves_iff {place : Option Json} :
    Serves place ↔ (place.bind scalarText?).isSome = true := by
  simp only [Serves, Option.isSome_iff_exists, Option.bind_eq_some_iff, scalarText?_eq_some_iff]
  constructor
  · intro ⟨value, text, found, usable⟩
    exact ⟨text, value, found, usable⟩
  · intro ⟨text, value, found, usable⟩
    exact ⟨value, text, found, usable⟩

instance (place : Option Json) : Decidable (Serves place) := decidable_of_iff _ serves_iff.symm

/-- What can be checked of the value of a text is checked by reading the text. -/
theorem exists_parse (body : String) (holds : Json → Prop) [DecidablePred holds]
    (checked : (Json.parse body).toOption.any (fun value => decide (holds value)) = true) :
    ∃ value, Json.parse body = .ok value ∧ holds value := by
  cases parsed : Json.parse body with
  | error fault =>
      rw [parsed] at checked
      cases checked
  | ok value =>
      rw [parsed] at checked
      exact ⟨value, rfl, of_decide_eq_true checked⟩

/-- If a usable code or a usable name stands in either of its places, it is found unless a useless
value stands in the first of them. The code that is found makes every error response with this
body definitive. -/
theorem usable_field_found_unless_hidden (body : String) (value : Json)
    (reads : Json.parse body = .ok value) :
    (Serves (value.get? "code") ∨ Serves (nestedCode? value) →
      ((∃ code, (errorBody body).1 = some code) ↔ ¬ Useless (value.get? "code"))) ∧
    (∀ code, (errorBody body).1 = some code →
      Gives (value.get? "code") (nestedCode? value) code ∧
      ∀ response : Response, response.body = body → 400 ≤ response.status →
        ∃ error, successBody response = .error error ∧ error.isTransient = false) ∧
    (Serves (value.get? "run_id") ∨ Serves (value.get? "id") →
      ((∃ id, startedId? value = some id) ↔ ¬ Useless (value.get? "run_id"))) ∧
    (∀ id, startedId? value = some id →
      Gives (value.get? "run_id") (value.get? "id") id.text) := by
  refine ⟨?_, ?_, ?_, fun id => startedId?_eq_some_iff.mp⟩
  · intro serves
    simp only [errorBody_code_iff reads]
    exact gives_iff_of_serves serves
  · intro code coded
    refine ⟨(errorBody_code_iff reads).mp coded, ?_⟩
    intro response same refused
    exact successBody_definitive refused (same ▸ coded)
  · intro serves
    rw [← gives_iff_of_serves serves]
    constructor
    · intro ⟨id, named⟩
      exact ⟨id.text, startedId?_eq_some_iff.mp named⟩
    · intro ⟨text, gives⟩
      exact ⟨⟨text⟩, startedId?_eq_some_iff.mpr gives⟩

/-- A code and a name that are of use, each behind a `null`. -/
def hiddenFields : String :=
  "\x7b\"code\":null,\"error\":\x7b\"code\":\"SCAN_FAILED\"\x7d,\"run_id\":null,\"id\":\"J1\"\x7d"

/-- Neither is found, so a request that was refused with a code is made again, and a job that was
started is lost. -/
theorem null_hides_usable_fields :
    ∃ value, Json.parse hiddenFields = .ok value ∧
      (Serves (nestedCode? value) ∧ Serves (value.get? "id") ∧ startedId? value = none) ∧
      (errorBody hiddenFields).1 = none ∧
      ∃ error, successBody ⟨503, hiddenFields⟩ = .error error ∧ error.isTransient = true := by
  have uncoded : (errorBody hiddenFields).1 = none := by decide +kernel
  obtain ⟨value, parsed, hidden⟩ := exists_parse hiddenFields
    (fun value => Serves (nestedCode? value) ∧ Serves (value.get? "id") ∧ startedId? value = none)
    (by decide +kernel)
  exact ⟨value, parsed, hidden, uncoded, successBody_transient_iff.mpr ⟨by decide, uncoded⟩⟩

/-- A code and a name in the second places, with nothing in the first. -/
def nestedFields : String := "\x7b\"error\":\x7b\"code\":\"SCAN_FAILED\"\x7d,\"id\":7\x7d"

theorem nested_fields_found :
    ∃ value code id, Json.parse nestedFields = .ok value ∧ Serves (nestedCode? value) ∧
      Serves (value.get? "id") ∧ (errorBody nestedFields).1 = some code ∧
      startedId? value = some id ∧
      ∃ error, successBody ⟨503, nestedFields⟩ = .error error ∧ error.isTransient = false := by
  obtain ⟨value, parsed, nested, named, codeless, nameless⟩ := exists_parse nestedFields
    (fun value => Serves (nestedCode? value) ∧ Serves (value.get? "id") ∧
      value.get? "code" = none ∧ value.get? "run_id" = none)
    (by decide +kernel)
  obtain ⟨coded, definitive, started, _⟩ :=
    usable_field_found_unless_hidden nestedFields value parsed
  obtain ⟨code, found⟩ := (coded (.inr nested)).mpr (by simp [Useless, codeless])
  obtain ⟨id, known⟩ := (started (.inr named)).mpr (by simp [Useless, nameless])
  exact ⟨value, code, id, parsed, nested, named, found, known,
    (definitive code found).2 ⟨503, nestedFields⟩ rfl (by decide)⟩

end JobWatch.Client

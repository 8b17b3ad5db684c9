import JobWatch.Client.Response
import JobWatch.Proofs.Guards

/-!
# Answers to polls

What the process of a poll leaves behind decides whether the poll has a result, whether it is
worth repeating, or whether the job has failed. The decision is taken in stages, by the exit code,
by the status behind the last marker and by the body in front of it, and is put together here.
-/

set_option autoImplicit false

namespace JobWatch

theorem Text.Utf8.ofBytes?_eq_some_iff {bytes : List UInt8} {text : String} :
    ofBytes? bytes = some text ↔ bytesOf text = bytes := by
  unfold ofBytes? String.fromUTF8? bytesOf
  constructor
  · intro read
    split at read
    · cases read
      rfl
    · cases read
  · intro written
    subst written
    rw [Array.toArray_toList]
    exact dif_pos text.isValidUTF8

namespace Client

/-- A text is cut in two at the last place where a marker stands in it. -/
structure CutAtLast (marker text before after : List Char) : Prop where
  whole : before ++ marker ++ after = text
  last : ∀ earlier rest, earlier ++ marker ++ rest = text → earlier.length ≤ before.length

section

variable {marker text before after : List Char}

theorem CutAtLast.unique {before' after' : List Char} (cut : CutAtLast marker text before after)
    (cut' : CutAtLast marker text before' after') : before = before' ∧ after = after' := by
  have length := Nat.le_antisymm (cut'.last _ _ cut.whole) (cut.last _ _ cut'.whole)
  have same := cut.whole.trans cut'.whole.symm
  simp only [List.append_assoc] at same
  obtain ⟨first, rest⟩ := List.append_inj same length
  exact ⟨first, List.append_cancel_left rest⟩

theorem absent_of_splitLast? (solid : marker ≠ []) (absent : splitLast? marker text = none) :
    before ++ marker ++ after ≠ text := by
  induction text generalizing before with
  | nil => simp [solid]
  | cons c rest ih =>
      intro whole
      rw [splitLast?] at absent
      split at absent
      · cases absent
      · next none =>
          split at absent
          · cases absent
          · next differs =>
              cases before with
              | nil =>
                  apply differs
                  rw [List.isPrefixOf_iff_prefix]
                  exact ⟨after, whole⟩
              | cons d before =>
                  cases whole
                  exact ih none rfl

theorem cutAtLast_of_splitLast? (solid : marker ≠ [])
    (found : splitLast? marker text = some (before, after)) :
    CutAtLast marker text before after := by
  induction text generalizing before with
  | nil => cases found
  | cons c rest ih =>
      rw [splitLast?] at found
      split at found
      · next before' after' later =>
          -- The marker stands in the rest, so a place at the front is not the last.
          cases found
          obtain ⟨whole, last⟩ := ih later
          refine ⟨congrArg (c :: ·) whole, fun earlier behind stands => ?_⟩
          cases earlier with
          | nil => simp
          | cons d earlier =>
              have nearer := last earlier behind (List.tail_eq_of_cons_eq stands)
              simpa using nearer
      · next none =>
          split at found
          · next leads =>
              cases found
              refine ⟨?_, fun earlier behind stands => ?_⟩
              · exact List.prefix_iff_eq_append.mp (List.isPrefixOf_iff_prefix.mp leads)
              · cases earlier with
                | nil => simp
                | cons d earlier =>
                    exact absurd (List.tail_eq_of_cons_eq stands)
                      (absent_of_splitLast? solid none)
          · cases found

theorem splitLast?_eq_some_iff (solid : marker ≠ []) :
    splitLast? marker text = some (before, after) ↔ CutAtLast marker text before after := by
  constructor
  · exact cutAtLast_of_splitLast? solid
  · intro cut
    cases found : splitLast? marker text with
    | none => exact absurd cut.whole (absent_of_splitLast? solid found)
    | some parts =>
        obtain ⟨first, second⟩ := cut.unique (cutAtLast_of_splitLast? solid found)
        rw [first, second]

end

/-! ## Status and body -/

/-- A text ends with a status, and a body stands in front of it. -/
def HoldsStatus (text : String) (status : Nat) (body : String) : Prop :=
  ∃ statusText : String,
    CutAtLast statusMarker.toList text.toList body.toList statusText.toList ∧
      Text.unsigned? UInt16.size (Text.trim statusText) = some status

theorem statusMarker_ne_nil : statusMarker.toList ≠ [] := by decide

theorem splitStatus_of_holds {text body : String} {status : Nat}
    (holds : HoldsStatus text status body) :
    splitStatus text =
      if status = 0 then .error (.network "no HTTP response received")
      else .ok ⟨UInt16.ofNat status, body⟩ := by
  obtain ⟨statusText, cut, read⟩ := holds
  rw [splitStatus, (splitLast?_eq_some_iff statusMarker_ne_nil).mpr cut]
  simp only [String.ofList_toList, read]
  cases status with
  | zero => rfl
  | succ n => rfl

theorem holds_of_splitStatus {text : String} {response : Response}
    (split : splitStatus text = .ok response) :
    HoldsStatus text response.status.toNat response.body ∧ response.status ≠ 0 := by
  unfold splitStatus at split
  split at split
  · cases split
  · next body status found =>
      simp only at split
      split at split
      · cases split
      · cases split
      · next n nonzero read =>
          cases split
          have small := Text.lt_of_unsigned?_eq_some read
          have value : (UInt16.ofNat n).toNat = n := UInt16.toNat_ofNat_of_lt small
          refine ⟨⟨String.ofList status, ?_, value.symm ▸ read⟩, ?_⟩
          · simpa using (splitLast?_eq_some_iff statusMarker_ne_nil).mp found
          · intro zero
            have := congrArg UInt16.toNat zero
            rw [value] at this
            exact nonzero this

theorem holds_of_splitStatus_error {text : String} {error : TransportError}
    (split : splitStatus text = .error error) (transient : error.isTransient = true) :
    ∃ body, HoldsStatus text 0 body := by
  unfold splitStatus at split
  split at split
  · cases split
    cases transient
  · next body status found =>
      simp only at split
      split at split
      · cases split
        cases transient
      · next read =>
          refine ⟨String.ofList body, String.ofList status, ?_, read⟩
          simpa using (splitLast?_eq_some_iff statusMarker_ne_nil).mp found
      · cases split

/-! ## Processes -/

/-- A process ended well and has written a status with the body in front of it. -/
inductive Writes : ProcessResult → Nat → String → Prop where
  | ended {text errorOutput status body} : HoldsStatus text status body →
      Writes (.ended (some 0) (Text.Utf8.bytesOf text) errorOutput) status body

/-- A process got no response: a signal killed it, the network failed it, or the status that it
wrote is zero. -/
inductive Unanswered : ProcessResult → Prop where
  | killed {output errorOutput} : Unanswered (.ended none output errorOutput)
  | failed {code output errorOutput} : code ∈ [5, 6, 7, 28, 35, 52, 55, 56] →
      Unanswered (.ended (some code) output errorOutput)
  | unwritten {result body} : Writes result 0 body → Unanswered result

section

variable {request : Request} {result : ProcessResult}

theorem isTransient_processFailure {code : Nat} {errorText : String} :
    (processFailure (some code) errorText).isTransient = true ↔
      code ∈ [5, 6, 7, 28, 35, 52, 55, 56] := by
  simp only [processFailure]
  by_cases late : code = timeoutExitCode
  · rw [if_pos late, late]
    simp [timeoutExitCode, TransportError.isTransient]
  · rw [if_neg late]
    by_cases known : networkExitCodes.contains code
    · rw [if_pos known]
      simp [networkExitCodes, TransportError.isTransient] at known ⊢
      omega
    · rw [if_neg known]
      simp [networkExitCodes, timeoutExitCode, TransportError.isTransient] at late known ⊢
      omega

theorem receive_of_exit {code : Nat} {output errorOutput : List UInt8} (nonzero : code ≠ 0) :
    receive request (.ended (some code) output errorOutput) =
      .error (processFailure (some code) (Text.trim (Text.Utf8.decodeLossy errorOutput))) := by
  cases code with
  | zero => exact absurd rfl nonzero
  | succ n => rfl

theorem receive_of_writes {status : Nat} {body : String} (writes : Writes result status body) :
    receive request result =
      if status = 0 then .error (.network "no HTTP response received")
      else .ok ⟨UInt16.ofNat status, body⟩ := by
  cases writes with
  | @ended text _ _ _ holds =>
      simp only [receive, Text.Utf8.ofBytes?_eq_some_iff.mpr (rfl : Text.Utf8.bytesOf text = _)]
      exact splitStatus_of_holds holds

theorem receive_eq_ok_iff {response : Response} :
    receive request result = .ok response ↔
      Writes result response.status.toNat response.body ∧ response.status ≠ 0 := by
  constructor
  · intro received
    unfold receive at received
    split at received
    · cases received
    · split at received
      · cases received
      · next text read =>
          obtain ⟨holds, nonzero⟩ := holds_of_splitStatus received
          rw [← Text.Utf8.ofBytes?_eq_some_iff.mp read]
          exact ⟨.ended holds, nonzero⟩
    · cases received
  · intro ⟨writes, nonzero⟩
    have positive : response.status.toNat ≠ 0 := fun zero => nonzero (UInt16.toNat_inj.mp zero)
    rw [receive_of_writes writes, if_neg positive, UInt16.ofNat_toNat]

theorem receive_transient_iff :
    (∃ error, receive request result = .error error ∧ error.isTransient = true) ↔
      Unanswered result := by
  constructor
  · intro ⟨error, received, transient⟩
    unfold receive at received
    split at received
    · cases received
      cases transient
    · split at received
      · cases received
        cases transient
      · next text read =>
          obtain ⟨body, holds⟩ := holds_of_splitStatus_error received transient
          rw [← Text.Utf8.ofBytes?_eq_some_iff.mp read]
          exact .unwritten (.ended holds)
    · next exitCode _ _ _ =>
        cases received
        cases exitCode with
        | none => exact .killed
        | some code => exact .failed (isTransient_processFailure.mp transient)
  · intro unanswered
    cases unanswered with
    | killed => exact ⟨_, rfl, rfl⟩
    | @failed code output errorOutput listed =>
        have nonzero : code ≠ 0 := by
          intro zero
          subst zero
          simp at listed
        exact ⟨_, receive_of_exit nonzero, isTransient_processFailure.mpr listed⟩
    | unwritten writes =>
        rw [receive_of_writes writes]
        exact ⟨_, rfl, rfl⟩

end

/-! ## Bodies -/

theorem successBody_eq_ok_iff {response : Response} {body : String} :
    successBody response = .ok body ↔ response.status < 400 ∧ response.body = body := by
  unfold successBody
  split
  · next accepted => simp [accepted]
  · next refused => simp [refused]

theorem contains_transientStatuses {status : UInt16} :
    TransportError.transientStatuses.contains status = true ↔
      status.toNat ∈ [408, 429, 502, 503, 504] := by
  simp [TransportError.transientStatuses, ← UInt16.toNat_inj]

theorem successBody_transient_iff {response : Response} :
    (∃ error, successBody response = .error error ∧ error.isTransient = true) ↔
      response.status.toNat ∈ [408, 429, 502, 503, 504] ∧ (errorBody response.body).1 = none := by
  unfold successBody
  split
  · next accepted =>
      have low : response.status.toNat < 400 := UInt16.lt_iff_toNat_lt.mp accepted
      simp
      omega
  · simp only [Except.error.injEq, exists_eq_left', TransportError.isTransient, Bool.and_eq_true,
      contains_transientStatuses, Option.isNone_iff_eq_none]
    exact and_comm

theorem bodyValue_eq_ok_iff {body : String} {value : Json} :
    bodyValue body = .ok value ↔ Json.parse body = .ok value := by
  unfold bodyValue
  split
  · next parsed => simp [parsed]
  · next fault parsed => simp [parsed]

theorem bodyValue_definitive {body : String} {error : TransportError}
    (read : bodyValue body = .error error) : error.isTransient = false := by
  unfold bodyValue at read
  split at read
  · cases read
  · cases read
    rfl

/-! ## Polls -/

/-- A poll failed in a way that may pass by itself. -/
inductive Passing : ProcessResult → Prop where
  | unanswered {result} : Unanswered result → Passing result
  | refused {result status body} : Writes result status body →
      status ∈ [408, 429, 502, 503, 504] → (errorBody body).1 = none → Passing result

/-- A poll brought a value. -/
inductive Delivers : ProcessResult → Json → Prop where
  | written {result status body value} : Writes result status body →
      1 ≤ status → status ≤ 399 → Json.parse body = .ok value → Delivers result value

section

variable {request : Request} {result : ProcessResult}

/-- A status that is written as a number is the status of the response. -/
theorem receive_of_status {status : Nat} {body : String} (writes : Writes result status body)
    (positive : 1 ≤ status) (small : status < UInt16.size) :
    ∃ response : Response, receive request result = .ok response ∧
      response.status.toNat = status ∧ response.body = body := by
  refine ⟨_, (receive_of_writes writes).trans (if_neg (by omega)), ?_, rfl⟩
  exact UInt16.toNat_ofNat_of_lt small

theorem resultAnswer_transient_iff :
    (∃ error, resultAnswer request result = .error error ∧ error.isTransient = true) ↔
      Passing result := by
  constructor
  · intro ⟨error, answered, transient⟩
    rcases Guards.bind_eq_error.mp answered with unreceived | ⟨response, received, answered⟩
    · exact .unanswered (receive_transient_iff.mp ⟨error, unreceived, transient⟩)
    · rcases Guards.bind_eq_error.mp answered with refused | ⟨body, _, unread⟩
      · obtain ⟨listed, uncoded⟩ := successBody_transient_iff.mp ⟨error, refused, transient⟩
        exact .refused (receive_eq_ok_iff.mp received).1 listed uncoded
      · rw [bodyValue_definitive unread] at transient
        cases transient
  · intro passing
    cases passing with
    | unanswered unanswered =>
        obtain ⟨error, unreceived, transient⟩ := receive_transient_iff.mpr unanswered
        exact ⟨error, Guards.bind_eq_error.mpr (.inl unreceived), transient⟩
    | @refused status body writes listed uncoded =>
        have bounds : 1 ≤ status ∧ status < UInt16.size := by
          simp [UInt16.size] at listed ⊢
          omega
        obtain ⟨response, received, rfl, rfl⟩ := receive_of_status writes bounds.1 bounds.2
        obtain ⟨error, refused, transient⟩ := successBody_transient_iff.mpr ⟨listed, uncoded⟩
        refine ⟨error, Guards.bind_eq_error.mpr (.inr ⟨response, received, ?_⟩), transient⟩
        exact Guards.bind_eq_error.mpr (.inl refused)

theorem resultAnswer_eq_ok_iff {value : Json} :
    resultAnswer request result = .ok value ↔ Delivers result value := by
  constructor
  · intro answered
    obtain ⟨response, received, answered⟩ := Guards.bind_eq_ok.mp answered
    obtain ⟨body, accepted, read⟩ := Guards.bind_eq_ok.mp answered
    obtain ⟨writes, nonzero⟩ := receive_eq_ok_iff.mp received
    obtain ⟨low, rfl⟩ := successBody_eq_ok_iff.mp accepted
    have positive : response.status.toNat ≠ 0 := fun zero => nonzero (UInt16.toNat_inj.mp zero)
    have below : response.status.toNat < 400 := UInt16.lt_iff_toNat_lt.mp low
    exact .written writes (by omega) (by omega) (bodyValue_eq_ok_iff.mp read)
  · intro delivers
    cases delivers with
    | @written status body _ writes positive low parsed =>
        have small : status < UInt16.size := by
          simp [UInt16.size]
          omega
        obtain ⟨response, received, rfl, rfl⟩ := receive_of_status writes positive small
        have accepted : response.status < 400 := by
          rw [UInt16.lt_iff_toNat_lt]
          exact Nat.lt_succ_of_le low
        refine Guards.bind_eq_ok.mpr ⟨response, received, ?_⟩
        refine Guards.bind_eq_ok.mpr ⟨response.body, ?_, ?_⟩
        · exact successBody_eq_ok_iff.mpr ⟨accepted, rfl⟩
        · exact bodyValue_eq_ok_iff.mpr parsed

end

/-- Whatever becomes of the process of a poll, the poll is worth repeating just when it failed in
passing, it has a value just when one was delivered, and otherwise it has failed for good. -/
theorem polls_classified (client : Client) (job : JobId) (result : ProcessResult) :
    ((∃ error, resultAnswer (client.resultRequest job) result = .error error ∧
      error.isTransient = true) ↔ Passing result) ∧
    (∀ value, resultAnswer (client.resultRequest job) result = .ok value ↔
      Delivers result value) ∧
    ((∃ error, resultAnswer (client.resultRequest job) result = .error error ∧
      error.isTransient = false) ↔ ¬ Passing result ∧ ∀ value, ¬ Delivers result value) := by
  refine ⟨resultAnswer_transient_iff, fun value => resultAnswer_eq_ok_iff, ?_⟩
  simp only [← @resultAnswer_transient_iff (client.resultRequest job),
    ← @resultAnswer_eq_ok_iff (client.resultRequest job)]
  cases resultAnswer (client.resultRequest job) result with
  | ok value => simp
  | error error => simp

end Client

end JobWatch

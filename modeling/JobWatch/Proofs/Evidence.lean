import JobWatch.Completion

/-!
# Evidence of completion

What a payload has to show before its job counts as done, in terms of the values under its keys.
A failure status speaks against everything else. Otherwise a populated list of the kind is
evidence, and so is a container when no status speaks against it. Only one container is looked
into: behind an object under `report`, a list under `data` is not seen.
-/

set_option autoImplicit false

namespace JobWatch.Completion

inductive ListKey : Kind → String → Prop where
  | findings : ListKey .findIssues "findings"
  | findingsByFile : ListKey .findIssues "findings_by_file"
  | inventoryByFile : ListKey .catalogAi "inventory_by_file"

inductive ContainerKey : String → Prop where
  | report : ContainerKey "report"
  | data : ContainerKey "data"

/-- An array or an object with something in it. -/
inductive Populated : Json → Prop where
  | arr {item items} : Populated (.arr (item :: items))
  | obj {member members} : Populated (.obj (member :: members))

def Lists (kind : Kind) (members : List (String × Json)) : Prop :=
  ∃ key value, ListKey kind key ∧ Json.lookup? key members = some value ∧ Populated value

def Wraps (members : List (String × Json)) (key : String) (inner : List (String × Json)) : Prop :=
  Json.lookup? key members = some (.obj inner)

/-- A populated list of a kind stands in an object or in one of its containers. -/
inductive Holds (kind : Kind) (members : List (String × Json)) : Prop where
  | bare : Lists kind members → Holds kind members
  | wrapped {key inner} : ContainerKey key → Wraps members key inner → Lists kind inner →
      Holds kind members

/-- The status of an object, when it is a text: without the blanks around it and in small
letters. -/
def Says (members : List (String × Json)) (status : String) : Prop :=
  ∃ text, Json.lookup? "status" members = some (.str text) ∧
    Text.asciiLower (Text.trim text) = status

def Fails (members : List (String × Json)) : Prop := Says members "failed" ∨ Says members "error"

/-- No status says that the job is still going: it is absent, no text, or that of a finished
job. -/
def Rests (members : List (String × Json)) : Prop :=
  ∀ status, Says members status → status = "completed" ∨ status = "done"

/-- There is a container, and no status says that the job is still going. -/
def Finished (members : List (String × Json)) : Prop :=
  (∃ key inner, ContainerKey key ∧ Wraps members key inner) ∧ Rests members

/-- Whatever list stands under `data` is out of sight: the object under `report` is the container
that counts, no list of the kind is in it or beside it, and the status says that the job is still
going. -/
structure Shaded (kind : Kind) (members : List (String × Json)) : Prop where
  bare : ¬ Lists kind members
  report : ∃ inner, Wraps members "report" inner ∧ ¬ Lists kind inner
  going : ¬ Rests members

/-! ## Lists and containers -/

section

variable {kind : Kind} {members inner : List (String × Json)} {status : String}

theorem mem_listKeys_iff {key : String} : key ∈ listKeys kind ↔ ListKey kind key := by
  constructor
  · intro member
    cases kind with
    | findIssues =>
        simp only [listKeys, List.mem_cons, List.not_mem_nil, or_false] at member
        rcases member with rfl | rfl
        · exact .findings
        · exact .findingsByFile
    | catalogAi =>
        simp only [listKeys, List.mem_cons, List.not_mem_nil, or_false] at member
        cases member
        exact .inventoryByFile
  · intro key
    cases key <;> simp [listKeys]

theorem isPopulated_iff {value : Json} : isPopulated value = true ↔ Populated value := by
  constructor
  · intro populated
    unfold isPopulated at populated
    split at populated
    · next items =>
        cases items with
        | nil => cases populated
        | cons => exact .arr
    · next members =>
        cases members with
        | nil => cases populated
        | cons => exact .obj
    · cases populated
  · intro populated
    cases populated <;> rfl

theorem hasPopulatedList_iff : hasPopulatedList kind members = true ↔ Lists kind members := by
  simp only [hasPopulatedList, List.any_eq_true, Option.any_eq_true, mem_listKeys_iff,
    isPopulated_iff]
  constructor
  · intro ⟨key, ofKind, value, found, populated⟩
    exact ⟨key, value, ofKind, found, populated⟩
  · intro ⟨key, value, ofKind, found, populated⟩
    exact ⟨key, ofKind, value, found, populated⟩

theorem bind_members?_eq_some_iff {key : String} :
    (Json.lookup? key members).bind Json.members? = some inner ↔ Wraps members key inner := by
  rw [Option.bind_eq_some_iff, Wraps]
  constructor
  · intro ⟨value, found, object⟩
    cases value <;> cases object
    exact found
  · intro found
    exact ⟨_, found, rfl⟩

/-- The container that counts is the object under `report`, and without one that under `data`. -/
theorem container?_eq_some_iff : container? members = some inner ↔
    Wraps members "report" inner ∨
      (∀ other, ¬ Wraps members "report" other) ∧ Wraps members "data" inner := by
  have either : container? members =
      ((Json.lookup? "report" members).bind Json.members?).or
        ((Json.lookup? "data" members).bind Json.members?) := by
    simp only [container?, containerKeys, List.findSome?_cons, List.findSome?_nil]
    cases (Json.lookup? "report" members).bind Json.members? with
    | some _ => rfl
    | none => cases (Json.lookup? "data" members).bind Json.members? <;> rfl
  rw [either, Option.or_eq_some_iff, bind_members?_eq_some_iff, bind_members?_eq_some_iff,
    Option.eq_none_iff_forall_ne_some]
  simp only [ne_eq, bind_members?_eq_some_iff]

/-! ## Statuses -/

theorem status?_eq_some_iff : status? members = some status ↔ Says members status := by
  simp only [status?, Option.map_eq_some_iff, Option.bind_eq_some_iff]
  constructor
  · intro read
    obtain ⟨text, ⟨value, found, isText⟩, rfl⟩ := read
    cases value <;> cases isText
    exact ⟨_, found, rfl⟩
  · intro ⟨text, found, lowered⟩
    exact ⟨text, ⟨_, found, rfl⟩, lowered⟩

theorem fails_iff : Fails members ↔ ∃ status ∈ failureStatuses, status? members = some status := by
  simp [Fails, failureStatuses, status?_eq_some_iff]

theorem rests_iff :
    Rests members ↔ ∀ status, status? members = some status → status ∈ successStatuses := by
  simp [Rests, successStatuses, status?_eq_some_iff]

theorem detect_of_fails (kind : Kind) (fails : Fails members) :
    ∃ status ∈ failureStatuses,
      detect kind (.obj members) = .failed (failureMessage members status) := by
  obtain ⟨status, failure, said⟩ := fails_iff.mp fails
  exact ⟨status, failure, by simp [detect, said, failure]⟩

theorem detect_of_not_fails (kind : Kind) (intact : ¬ Fails members) :
    detect kind (.obj members) = ofMembers kind members := by
  simp only [detect]
  split
  · next status said =>
      have other : ¬ failureStatuses.contains status = true := by
        intro failure
        exact intact (fails_iff.mpr ⟨status, List.contains_iff_mem.mp failure, said⟩)
      rw [if_neg other]
  · rfl

theorem ofMembers_ne_failed (message : String) : ofMembers kind members ≠ .failed message := by
  simp only [ofMembers]
  split
  · simp
  · split
    · simp
    · split <;> simp
    · simp

/-! ## Verdicts -/

/-- A payload says that its job failed just when its status does. -/
theorem detect_eq_failed_iff {payload : Json} :
    (∃ message, detect kind payload = .failed message) ↔
      ∃ members, payload = .obj members ∧ Fails members := by
  constructor
  · intro reported
    obtain ⟨message, failed⟩ := reported
    cases payload with
    | obj members =>
        refine ⟨members, rfl, Classical.byContradiction fun intact => ?_⟩
        rw [detect_of_not_fails kind intact] at failed
        exact ofMembers_ne_failed message failed
    | _ => cases failed
  · intro ⟨members, same, fails⟩
    obtain ⟨status, _, failed⟩ := detect_of_fails kind fails
    exact ⟨_, same ▸ failed⟩

theorem listed_iff :
    (hasPopulatedList kind members || (container? members).any (hasPopulatedList kind)) = true ↔
      Lists kind members ∨ ∃ inner, container? members = some inner ∧ Lists kind inner := by
  simp only [Bool.or_eq_true, Option.any_eq_true, hasPopulatedList_iff]

/-- The evidence that is looked for: a list of the kind in sight, or a container and no status that
says otherwise. -/
def Shows (kind : Kind) (members : List (String × Json)) : Prop :=
  Lists kind members ∨
    ∃ inner, container? members = some inner ∧ (Lists kind inner ∨ Rests members)

theorem ofMembers_eq_complete_iff : ofMembers kind members = .complete ↔ Shows kind members := by
  simp only [ofMembers]
  split
  · next shown =>
      simp only [true_iff]
      rcases listed_iff.mp shown with bare | ⟨inner, found, listed⟩
      · exact .inl bare
      · exact .inr ⟨inner, found, .inl listed⟩
  · next unshown =>
      rw [listed_iff, not_or, not_exists] at unshown
      obtain ⟨unlisted, unwrapped⟩ := unshown
      -- Without a list in sight the container and the status decide.
      split
      · next inner found silent =>
          have rests : Rests members := rests_iff.mpr (by simp [silent])
          simp only [true_iff]
          exact .inr ⟨inner, found, .inr rests⟩
      · next inner status found said =>
          have rests : Rests members ↔ successStatuses.contains status = true := by
            simp [rests_iff, said]
          have unlistedInner : ¬ Lists kind inner := fun listed => unwrapped inner ⟨found, listed⟩
          split
          · next success =>
              simp only [true_iff]
              exact .inr ⟨inner, found, .inr (rests.mpr success)⟩
          · next going =>
              have unrested : ¬ Rests members := mt rests.mp going
              simp [Shows, unlisted, found, unlistedInner, unrested]
      · next none => simp [Shows, unlisted, none]

theorem detect_eq_complete_iff :
    detect kind (.obj members) = .complete ↔ ¬ Fails members ∧ Shows kind members := by
  rw [← ofMembers_eq_complete_iff]
  constructor
  · intro complete
    have intact : ¬ Fails members := by
      intro fails
      obtain ⟨status, _, failed⟩ := detect_of_fails kind fails
      rw [failed] at complete
      cases complete
    exact ⟨intact, detect_of_not_fails kind intact ▸ complete⟩
  · intro evidence
    obtain ⟨intact, complete⟩ := evidence
    rw [detect_of_not_fails kind intact, complete]

theorem detect_eq_pending_of (intact : ¬ Fails members)
    (incomplete : detect kind (.obj members) ≠ .complete) :
    detect kind (.obj members) = .pending := by
  cases verdict : detect kind (.obj members) with
  | pending => rfl
  | complete => exact absurd verdict incomplete
  | failed message =>
      obtain ⟨_, same, fails⟩ := detect_eq_failed_iff.mp ⟨message, verdict⟩
      cases same
      exact absurd fails intact

theorem containerKey_of_container? (found : container? members = some inner) :
    ∃ key, ContainerKey key ∧ Wraps members key inner := by
  rcases container?_eq_some_iff.mp found with wraps | ⟨_, wraps⟩
  · exact ⟨_, .report, wraps⟩
  · exact ⟨_, .data, wraps⟩

/-- A payload that says its job is done shows a populated list of the kind, or a container and
no status that says otherwise. -/
theorem evidence_of_complete {payload : Json} (complete : detect kind payload = .complete) :
    ∃ members, payload = .obj members ∧ ¬ Fails members ∧
      (Holds kind members ∨ Finished members) := by
  cases payload with
  | obj members =>
      obtain ⟨intact, bare | ⟨inner, found, listed | rests⟩⟩ := detect_eq_complete_iff.mp complete
      · exact ⟨members, rfl, intact, .inl (.bare bare)⟩
      · obtain ⟨key, container, wraps⟩ := containerKey_of_container? found
        exact ⟨members, rfl, intact, .inl (.wrapped container wraps listed)⟩
      · obtain ⟨key, container, wraps⟩ := containerKey_of_container? found
        exact ⟨members, rfl, intact, .inr ⟨⟨key, inner, container, wraps⟩, rests⟩⟩
  | _ => cases complete

/-- A list of the kind is seen unless it is shaded. -/
theorem Holds.shows_or_shaded (holds : Holds kind members) :
    Shows kind members ∨ Shaded kind members := by
  cases holds with
  | bare bare => exact .inl (.inl bare)
  | @wrapped key inner container wraps listed =>
      -- The list may stand in a container that does not count, so what decides is `report`.
      by_cases report : ∃ other, Wraps members "report" other
      · obtain ⟨other, wrapsOther⟩ := report
        have found : container? members = some other := container?_eq_some_iff.mpr (.inl wrapsOther)
        by_cases shown : Lists kind members ∨ Lists kind other ∨ Rests members
        · rcases shown with bare | inside
          · exact .inl (.inl bare)
          · exact .inl (.inr ⟨other, found, inside⟩)
        · simp only [not_or] at shown
          obtain ⟨bare, unlisted, going⟩ := shown
          exact .inr ⟨bare, ⟨other, wrapsOther, unlisted⟩, going⟩
      · rw [not_exists] at report
        cases container with
        | report => exact absurd wraps (report inner)
        | data =>
            have found := container?_eq_some_iff.mpr (.inr ⟨report, wraps⟩)
            exact .inl (.inr ⟨inner, found, .inl listed⟩)

theorem Shaded.not_shows (shaded : Shaded kind members) : ¬ Shows kind members := by
  obtain ⟨unlisted, ⟨report, wraps, empty⟩, going⟩ := shaded
  have counts : container? members = some report := container?_eq_some_iff.mpr (.inl wraps)
  intro shows
  rcases shows with bare | ⟨inner, found, shown⟩
  · exact unlisted bare
  · rw [counts] at found
    cases found
    exact shown.elim empty going

/-- A populated list of the kind completes its job whatever else the payload holds, unless it
stands under `data` in the shade of an object under `report`: then the job goes on. -/
theorem populated_list_completes_unless_shaded (kind : Kind) (members : List (String × Json))
    (intact : ¬ Fails members) (holds : Holds kind members) :
    (¬ Shaded kind members → detect kind (.obj members) = .complete) ∧
      (Shaded kind members → detect kind (.obj members) = .pending) := by
  constructor
  · intro unshaded
    have shows := holds.shows_or_shaded.resolve_right unshaded
    exact detect_eq_complete_iff.mpr ⟨intact, shows⟩
  · intro shaded
    apply detect_eq_pending_of intact
    intro complete
    exact shaded.not_shows (detect_eq_complete_iff.mp complete).2

end

instance (members : List (String × Json)) : Decidable (Fails members) :=
  decidable_of_iff _ fails_iff.symm

instance (kind : Kind) (members : List (String × Json)) : Decidable (Lists kind members) :=
  decidable_of_iff _ hasPopulatedList_iff

/-- A list under `data`, behind an empty object under `report`, of a job that is said to run. -/
def listBehindReport : List (String × Json) := [
  ("status", .str "running"), ("report", .obj []), ("data", .obj [("findings", .arr [.null])])]

theorem holds_listBehindReport : Holds .findIssues listBehindReport :=
  .wrapped .data rfl ⟨"findings", _, .findings, rfl, .arr⟩

/-- The job goes on although its payload holds a populated list of its kind. -/
theorem list_behind_report_overlooked :
    ¬ Fails listBehindReport ∧ Holds .findIssues listBehindReport ∧
      detect .findIssues (.obj listBehindReport) = .pending :=
  ⟨by decide +kernel, holds_listBehindReport, by decide +kernel⟩

/-- The same list is seen once no object stands under `report`. -/
theorem list_behind_null_seen :
    let members : List (String × Json) := [
      ("status", .str "running"), ("report", .null), ("data", .obj [("findings", .arr [.null])])]
    ¬ Fails members ∧ Holds .findIssues members ∧ detect .findIssues (.obj members) = .complete ∧
      detect .findIssues (.obj listBehindReport) = .pending := by
  intro members
  have holds : Holds .findIssues members :=
    .wrapped .data rfl ⟨"findings", _, .findings, rfl, .arr⟩
  have unshaded : ¬ Shaded .findIssues members := by
    intro shaded
    obtain ⟨inner, wraps, _⟩ := shaded.report
    cases wraps
  have intact : ¬ Fails members := by decide +kernel
  have shaded : Shaded .findIssues listBehindReport := {
    bare := by decide +kernel
    report := ⟨[], rfl, by decide +kernel⟩
    going := fun rests => by simpa using rests "running" ⟨"running", rfl, by decide +kernel⟩ }
  refine ⟨intact, holds, ?_, ?_⟩
  · exact (populated_list_completes_unless_shaded _ _ intact holds).1 unshaded
  · exact (populated_list_completes_unless_shaded _ _ (by decide +kernel)
      holds_listBehindReport).2 shaded

/-! ## What a verdict depends on -/

inductive Decisive (kind : Kind) : String → Prop where
  | status : Decisive kind "status"
  | report : Decisive kind "report"
  | data : Decisive kind "data"
  | list {key} : ListKey kind key → Decisive kind key

inductive Explanatory : String → Prop where
  | error : Explanatory "error"
  | message : Explanatory "message"
  | detail : Explanatory "detail"

/-- Two objects hold the same values under some keys. -/
def Agree (keys : String → Prop) (first second : List (String × Json)) : Prop :=
  ∀ key, keys key → Json.lookup? key first = Json.lookup? key second

/-- Two verdicts are the same but for the message of a failure. -/
inductive SameVerdict : Completion → Completion → Prop where
  | same {verdict} : SameVerdict verdict verdict
  | failed {message other} : SameVerdict (.failed message) (.failed other)

section

variable {kind : Kind} {first second : List (String × Json)}

theorem failureMessage_eq_of_agree (agree : Agree Explanatory first second) (status : String) :
    failureMessage first status = failureMessage second status := by
  simp only [failureMessage, explanationKeys, List.findSome?_cons, List.findSome?_nil,
    agree _ .error, agree _ .message, agree _ .detail]

variable (agree : Agree (Decisive kind) first second)

include agree

theorem status?_eq_of_agree : status? first = status? second := by
  rw [status?, status?, agree _ .status]

theorem container?_eq_of_agree : container? first = container? second := by
  simp only [container?, containerKeys, List.findSome?_cons, List.findSome?_nil,
    agree _ .report, agree _ .data]

theorem hasPopulatedList_eq_of_agree :
    hasPopulatedList kind first = hasPopulatedList kind second := by
  rw [Bool.eq_iff_iff, hasPopulatedList_iff, hasPopulatedList_iff]
  constructor
  · intro ⟨key, value, ofKind, found, populated⟩
    exact ⟨key, value, ofKind, (agree _ (.list ofKind)).symm.trans found, populated⟩
  · intro ⟨key, value, ofKind, found, populated⟩
    exact ⟨key, value, ofKind, (agree _ (.list ofKind)).trans found, populated⟩

theorem ofMembers_eq_of_agree : ofMembers kind first = ofMembers kind second := by
  simp only [ofMembers, status?_eq_of_agree agree, container?_eq_of_agree agree,
    hasPopulatedList_eq_of_agree agree]

theorem sameVerdict_of_agree :
    SameVerdict (detect kind (.obj first)) (detect kind (.obj second)) := by
  simp only [detect, status?_eq_of_agree agree, ofMembers_eq_of_agree agree]
  split
  · split
    · exact .failed
    · exact .same
  · exact .same

theorem detect_eq_of_agree (explained : Agree Explanatory first second) :
    detect kind (.obj first) = detect kind (.obj second) := by
  simp only [detect, status?_eq_of_agree agree, ofMembers_eq_of_agree agree,
    failureMessage_eq_of_agree explained]

end

/-- A payload says that its job failed just when its status does, and says that its job is done
only with evidence: a populated list of the kind, or a container that no status contradicts. So
under another status the lists of other kinds complete nothing. Nothing but the decisive keys
enters the verdict, and nothing but the explanatory keys the message of a failure. -/
theorem completion_needs_evidence (kind : Kind) :
    (∀ payload, (∃ message, detect kind payload = .failed message) ↔
      ∃ members, payload = .obj members ∧ Fails members) ∧
    (∀ payload, detect kind payload = .complete →
      ∃ members, payload = .obj members ∧ ¬ Fails members ∧
        (Holds kind members ∨ Finished members)) ∧
    (∀ members status, Says members status → status ≠ "completed" → status ≠ "done" →
      ¬ Holds kind members → detect kind (.obj members) ≠ .complete) ∧
    (∀ first second, Agree (Decisive kind) first second →
      SameVerdict (detect kind (.obj first)) (detect kind (.obj second)) ∧
      (Agree Explanatory first second →
        detect kind (.obj first) = detect kind (.obj second))) := by
  refine ⟨fun payload => detect_eq_failed_iff, fun payload => evidence_of_complete, ?_, ?_⟩
  · intro members status said uncompleted undone without complete
    obtain ⟨_, same, _, holds | ⟨_, rests⟩⟩ := evidence_of_complete complete
    · cases same
      exact without holds
    · cases same
      exact (rests status said).elim uncompleted undone
  · intro first second agree
    exact ⟨sameVerdict_of_agree agree, detect_eq_of_agree agree⟩

/-- A finding completes a job of its own kind that is said to run. For a job of the other kind
it is as good as absent. -/
theorem finding_completes_own_kind_only :
    let bare : List (String × Json) := [("status", .str " Running"), ("report", .obj [])]
    let finding : List (String × Json) := ("findings", .arr [.null]) :: bare
    detect .findIssues (.obj finding) = .complete ∧
      (∃ members, Json.obj finding = .obj members ∧ ¬ Fails members ∧
        (Holds .findIssues members ∨ Finished members)) ∧
      detect .catalogAi (.obj finding) ≠ .complete ∧
      detect .catalogAi (.obj finding) = detect .catalogAi (.obj bare) := by
  intro bare finding
  have complete : detect .findIssues (.obj finding) = .complete := by decide +kernel
  have without : ¬ Holds .catalogAi finding := by
    intro holds
    cases holds with
    | bare lists => exact absurd lists (by decide +kernel)
    | wrapped container wraps lists =>
        cases container <;> cases wraps
        exact absurd lists (by decide +kernel)
  have agree : Agree (Decisive .catalogAi) finding bare := by
    intro key decisive
    cases decisive with
    | list inventory => cases inventory; rfl
    | _ => rfl
  have explained : Agree Explanatory finding bare := by
    intro key explanatory
    cases explanatory <;> rfl
  obtain ⟨_, evidence, _, _⟩ := completion_needs_evidence .findIssues
  obtain ⟨_, _, others, dependence⟩ := completion_needs_evidence .catalogAi
  have said : Says finding "running" := ⟨" Running", rfl, by decide +kernel⟩
  refine ⟨complete, evidence _ complete, ?_, (dependence _ _ agree).2 explained⟩
  exact others finding "running" said (by decide) (by decide) without

end JobWatch.Completion

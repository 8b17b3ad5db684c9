import JobWatch.Proofs.PollAnswer

/-!
# URLs and what they say

A URL component is read back from its percent encoding, and the encoding holds no character that
separates the parts of a URL. So a query gives back its parameters, whatever they hold, and jobs
with different names have their results at different addresses.
-/

set_option autoImplicit false

namespace JobWatch

namespace Text

theorem Utf8.bytesOf_ofList (cs : List Char) :
    bytesOf (String.ofList cs) = cs.flatMap String.utf8EncodeChar := by
  show (String.ofList cs).toByteArray.data.toList = _
  rw [String.toByteArray_ofList]
  exact List.toList_data_toByteArray

namespace Percent

/-! ## Escapes -/

def isUpperHex (c : Char) : Bool := "0123456789ABCDEF".toList.contains c

/-- Unreserved characters, and escapes of two capital hexadecimal digits. -/
inductive IsComponent : List Char → Prop where
  | nil : IsComponent []
  | plain {c rest} : isUnreserved c = true → IsComponent rest → IsComponent (c :: rest)
  | escape {high low rest} : isUpperHex high = true → isUpperHex low = true → IsComponent rest →
      IsComponent ('%' :: high :: low :: rest)

theorem high_lt (b : UInt8) : b.toNat / 16 < 16 := by
  have := b.toNat_lt
  omega

theorem low_lt (b : UInt8) : b.toNat % 16 < 16 := Nat.mod_lt _ (by decide)

theorem isUpperHex_upperHexDigit {n : Nat} (small : n < 16) :
    isUpperHex (upperHexDigit n) = true := by
  have all : ∀ n < 16, isUpperHex (upperHexDigit n) = true := by decide
  exact all n small

/-- A digit is one byte, from which its value is read back. -/
theorem hexByte?_upperHexDigit {n : Nat} (small : n < 16) : ∃ byte,
    String.utf8EncodeChar (upperHexDigit n) = [byte] ∧ hexByte? byte = some n := by
  have all : ∀ n < 16,
      String.utf8EncodeChar (upperHexDigit n) = [(upperHexDigit n).val.toUInt8] ∧
        hexByte? (upperHexDigit n).val.toUInt8 = some n := by decide
  exact ⟨_, all n small⟩

theorem isUnreserved_of_isUpperHex {c : Char} (hex : isUpperHex c = true) :
    isUnreserved c = true := by
  have all : "0123456789ABCDEF".toList.all isUnreserved = true := by decide
  exact List.all_eq_true.mp all c (List.contains_iff_mem.mp hex)

theorem le_of_isUnreserved {c : Char} (unreserved : isUnreserved c = true) : c.val ≤ 127 := by
  have bounded : ∀ {low high : UInt32}, (decide (low ≤ c.val) && decide (c.val ≤ high)) = true →
      high ≤ 127 → c.val ≤ 127 := by
    intro low high within small
    rw [Bool.and_eq_true, decide_eq_true_eq, decide_eq_true_eq] at within
    exact UInt32.le_trans within.2 small
  simp only [isUnreserved, Bool.or_eq_true, beq_iff_eq] at unreserved
  rcases unreserved with (((alphanumeric | rfl) | rfl) | rfl) | rfl
  · have classes : (c.isUpper || c.isLower || c.isDigit) = true := alphanumeric
    rw [Bool.or_eq_true, Bool.or_eq_true] at classes
    rcases classes with (upper | lower) | digit
    · have range : 'A'.val ≤ c.val ∧ c.val ≤ 'Z'.val := of_decide_eq_true upper
      exact UInt32.le_trans range.2 (by decide)
    · exact bounded lower (by decide)
    · exact bounded digit (by decide)
  all_goals decide

/-- A component holds unreserved characters and percent signs only, and so none of the characters
that separate the parts of a URL. -/
theorem IsComponent.not_mem {cs : List Char} (component : IsComponent cs) {c : Char}
    (reserved : isUnreserved c = false) (other : c ≠ '%') : c ∉ cs := by
  have unlike : ∀ {d : Char}, isUnreserved d = true → c ≠ d := fun unreserved same => by
    rw [same, unreserved] at reserved
    cases reserved
  induction component with
  | nil => exact List.not_mem_nil
  | plain unreserved _ ih =>
      intro member
      rcases List.mem_cons.mp member with same | later
      · exact unlike unreserved same
      · exact ih later
  | escape high low _ ih =>
      intro member
      rcases List.mem_cons.mp member with same | member
      · exact other same
      rcases List.mem_cons.mp member with same | member
      · exact unlike (isUnreserved_of_isUpperHex high) same
      rcases List.mem_cons.mp member with same | later
      · exact unlike (isUnreserved_of_isUpperHex low) same
      · exact ih later

theorem isComponent_of_unreserved {cs : List Char}
    (unreserved : ∀ c ∈ cs, isUnreserved c = true) : IsComponent cs := by
  induction cs with
  | nil => exact .nil
  | cons c rest ih =>
      exact .plain (unreserved c List.mem_cons_self)
        (ih fun d member => unreserved d (List.mem_cons_of_mem c member))

theorem isComponent_escapes (bytes : List UInt8) {rest : List Char} (component : IsComponent rest) :
    IsComponent (bytes.flatMap escapeByte ++ rest) := by
  induction bytes with
  | nil => exact component
  | cons b bytes ih =>
      exact .escape (isUpperHex_upperHexDigit (high_lt b)) (isUpperHex_upperHexDigit (low_lt b)) ih

theorem isComponent_encode (s : String) : IsComponent (encode s).toList := by
  rw [encode, String.toList_ofList]
  induction s.toList with
  | nil => exact .nil
  | cons c rest ih =>
      rw [List.flatMap_cons, encodeChar]
      split
      · next unreserved => exact .plain unreserved ih
      · exact isComponent_escapes _ ih

/-! ## Decoding -/

theorem decodeBytes_cons {b : UInt8} (plain : b ≠ 37) (rest : List UInt8) :
    decodeBytes (b :: rest) = b :: decodeBytes rest := by
  rw [decodeBytes.eq_def]
  exact if_neg plain

theorem decodeBytes_escapeByte (b : UInt8) (rest : List UInt8) :
    decodeBytes ((escapeByte b).flatMap String.utf8EncodeChar ++ rest) = b :: decodeBytes rest := by
  obtain ⟨high, written, readHigh⟩ := hexByte?_upperHexDigit (high_lt b)
  obtain ⟨low, written', readLow⟩ := hexByte?_upperHexDigit (low_lt b)
  have bytes : (escapeByte b).flatMap String.utf8EncodeChar = [37, high, low] := by
    simp only [escapeByte, List.flatMap_cons, List.flatMap_nil, written, written']
    rfl
  have value : b.toNat / 16 * 16 + b.toNat % 16 = b.toNat := by omega
  rw [bytes]
  show decodeBytes (37 :: high :: low :: rest) = _
  rw [decodeBytes.eq_def]
  simp only [if_pos, readHigh, readLow, value, UInt8.ofNat_toNat]

theorem decodeBytes_escapes (bytes rest : List UInt8) :
    decodeBytes ((bytes.flatMap escapeByte).flatMap String.utf8EncodeChar ++ rest) =
      bytes ++ decodeBytes rest := by
  induction bytes with
  | nil => rfl
  | cons b bytes ih =>
      rw [List.flatMap_cons, List.flatMap_append, List.append_assoc, decodeBytes_escapeByte, ih,
        List.cons_append]

theorem decodeBytes_encodeChar (c : Char) (rest : List UInt8) :
    decodeBytes ((encodeChar c).flatMap String.utf8EncodeChar ++ rest) =
      String.utf8EncodeChar c ++ decodeBytes rest := by
  rw [encodeChar]
  split
  · next unreserved =>
      have small := le_of_isUnreserved unreserved
      have single := String.utf8EncodeChar_eq_singleton (Char.utf8Size_eq_one_iff.mpr small)
      have plain : c.val.toUInt8 ≠ 37 := by
        intro percent
        have value : c.val.toNat % 256 = 37 := congrArg UInt8.toNat percent
        have low : c.val.toNat ≤ 127 := small
        have same : c = '%' := by
          apply Char.ext
          apply UInt32.toNat_inj.mp
          show c.val.toNat = 37
          omega
        rw [same] at unreserved
        cases unreserved
      rw [List.flatMap_cons, List.flatMap_nil, List.append_nil, single]
      exact decodeBytes_cons plain rest
  · exact decodeBytes_escapes _ rest

theorem decodeBytes_encode (cs : List Char) :
    decodeBytes ((cs.flatMap encodeChar).flatMap String.utf8EncodeChar) =
      cs.flatMap String.utf8EncodeChar := by
  induction cs with
  | nil => rfl
  | cons c rest ih =>
      rw [List.flatMap_cons, List.flatMap_append, decodeBytes_encodeChar, ih, List.flatMap_cons]

theorem decode?_encode (s : String) : decode? (encode s) = some s := by
  rw [decode?, Utf8.ofBytes?_eq_some_iff, encode, Utf8.bytesOf_ofList, decodeBytes_encode,
    ← Utf8.bytesOf_ofList, String.ofList_toList]

theorem flatMap_encodeChar_of_unreserved {cs : List Char}
    (unreserved : ∀ c ∈ cs, isUnreserved c = true) : cs.flatMap encodeChar = cs := by
  induction cs with
  | nil => rfl
  | cons c rest ih =>
      have others := ih fun d member => unreserved d (List.mem_cons_of_mem c member)
      rw [List.flatMap_cons, others, encodeChar, if_pos (unreserved c List.mem_cons_self)]
      rfl

theorem decode?_of_unreserved {s : String} (unreserved : ∀ c ∈ s.toList, isUnreserved c = true) :
    decode? s = some s := by
  have same : encode s = s := by
    rw [encode, flatMap_encodeChar_of_unreserved unreserved, String.ofList_toList]
  rw [← decode?_encode s, same]

end Percent

end Text

namespace Client

open Text.Percent

/-! ## Queries -/

/-- What stands in front of the first separator in a text, and what stands behind it. -/
def splitFirst? (separator : Char) (text : List Char) : Option (List Char × List Char) :=
  match text.dropWhile (· != separator) with
  | [] => none
  | _ :: after => some (text.takeWhile (· != separator), after)

section

variable {separator : Char} {text before : List Char}

theorem bne_of_absent (absent : separator ∉ text) : ∀ c ∈ text, (c != separator) = true := by
  intro c member
  rw [bne_iff_ne]
  rintro rfl
  exact absent member

theorem splitFirst?_of_absent (absent : separator ∉ text) : splitFirst? separator text = none := by
  have nothing : (text ++ []).dropWhile (· != separator) = [] :=
    List.dropWhile_append_of_pos (bne_of_absent absent)
  rw [List.append_nil] at nothing
  rw [splitFirst?, nothing]

theorem splitFirst?_append (absent : separator ∉ before) (after : List Char) :
    splitFirst? separator (before ++ separator :: after) = some (before, after) := by
  rw [splitFirst?, List.dropWhile_append_of_pos (bne_of_absent absent),
    List.takeWhile_append_of_pos (bne_of_absent absent)]
  simp

end

/-- What is written part by part is read part by part. -/
theorem mapM_of_reads {α β γ : Type} {write : α → β} {read : β → Option γ} {value : α → γ}
    {parts : List α} (reads : ∀ part ∈ parts, read (write part) = some (value part)) :
    (parts.map write).mapM read = some (parts.map value) := by
  induction parts with
  | nil => rfl
  | cons part rest ih =>
      have first := reads part List.mem_cons_self
      have others := ih fun other member => reads other (List.mem_cons_of_mem part member)
      rw [List.map_cons, List.mapM_cons, first, others]
      rfl

/-- Reads a parameter: what stands in front of the first equals sign and what stands behind it,
both decoded. -/
def readParameter? (written : List Char) : Option (String × String) := do
  let (name, value) ← splitFirst? '=' written
  return (← decode? (String.ofList name), ← decode? (String.ofList value))

/-- Reads what follows the path of a URL: nothing, or a question mark and parameters with
ampersands between them. -/
def readQuery? (suffix : String) : Option (List (String × String)) :=
  match suffix.toList with
  | [] => some []
  | mark :: rest => if mark = '?' then (rest.splitOn '&').mapM readParameter? else none

/-- A suffix gives these parameters, and is empty only where there are none. -/
def Says (suffix : String) (parameters : List (String × String)) : Prop :=
  (suffix = "" ↔ parameters = []) ∧ readQuery? suffix = some parameters

def writtenParameter (parameter : String × String) : List Char :=
  parameter.1.toList ++ '=' :: (encode parameter.2).toList

/-- The name of a parameter needs no encoding. -/
def PlainName (parameter : String × String) : Prop :=
  ∀ c ∈ parameter.1.toList, isUnreserved c = true

section

variable {parameter : String × String} {parameters : List (String × String)}

theorem not_mem_writtenParameter (plain : PlainName parameter) :
    '&' ∉ writtenParameter parameter := by
  intro member
  rcases List.mem_append.mp member with named | valued
  · exact (isComponent_of_unreserved plain).not_mem (by decide) (by decide) named
  · rcases List.mem_cons.mp valued with sign | inside
    · cases sign
    · exact (isComponent_encode parameter.2).not_mem (by decide) (by decide) inside

theorem readParameter?_written (plain : PlainName parameter) :
    readParameter? (writtenParameter parameter) = some parameter := by
  have named : '=' ∉ parameter.1.toList :=
    (isComponent_of_unreserved plain).not_mem (by decide) (by decide)
  rw [readParameter?, writtenParameter, splitFirst?_append named]
  simp [decode?_encode, decode?_of_unreserved plain]

theorem mapM_readParameter? (plain : ∀ parameter ∈ parameters, PlainName parameter) :
    (parameters.map writtenParameter).mapM readParameter? = some parameters := by
  have read := mapM_of_reads fun parameter listed => readParameter?_written (plain parameter listed)
  rwa [List.map_id'] at read

end

theorem query_of_present {parameters : List (String × Option String)} {first : String × String}
    {rest : List (String × String)} (present : presentParameters parameters = first :: rest) :
    (query parameters).toList =
      '?' :: ['&'].intercalate ((first :: rest).map writtenParameter) := by
  have written : (String.toList ∘ fun parameter : String × String =>
      parameter.1 ++ "=" ++ encode parameter.2) = writtenParameter := by
    funext parameter
    simp [writtenParameter]
  unfold query
  rw [present]
  simp only [String.toList_append, String.toList_intercalate, List.map_map, written]
  rfl

theorem says_query {parameters : List (String × Option String)}
    (plain : ∀ parameter ∈ presentParameters parameters, PlainName parameter) :
    Says (query parameters) (presentParameters parameters) := by
  cases present : presentParameters parameters with
  | nil =>
      have nothing : query parameters = "" := by
        unfold query
        rw [present]
      rw [nothing]
      exact ⟨by simp, rfl⟩
  | cons first rest =>
      have written := query_of_present present
      rw [present] at plain
      have separate : ∀ part ∈ (first :: rest).map writtenParameter, '&' ∉ part := by
        intro part member
        obtain ⟨parameter, listed, rfl⟩ := List.mem_map.mp member
        exact not_mem_writtenParameter (plain parameter listed)
      refine ⟨?_, ?_⟩
      · simp [← String.toList_inj, written]
      · rw [readQuery?, written]
        simp only [if_pos]
        rw [List.splitOn_intercalate '&' separate (by simp), mapM_readParameter? plain]

/-! ## Addresses -/

/-- A parameter that is given: it is present and not empty. -/
def given (name : String) : Option String → List (String × String)
  | some text => if text = "" then [] else [(name, text)]
  | none => []

theorem presentParameters_cons (name : String) (value : Option String)
    (rest : List (String × Option String)) :
    presentParameters ((name, value) :: rest) = given name value ++ presentParameters rest := by
  cases value with
  | none => rfl
  | some text =>
      by_cases empty : text = ""
      · simp [presentParameters, given, empty]
      · simp [presentParameters, given, empty]

theorem mem_of_mem_presentParameters {parameters : List (String × Option String)}
    {parameter : String × String} (member : parameter ∈ presentParameters parameters) :
    ∃ value, (parameter.1, value) ∈ parameters := by
  obtain ⟨⟨name, value⟩, listed, kept⟩ := List.mem_filterMap.mp member
  obtain ⟨text, _, chosen⟩ := Option.bind_eq_some_iff.mp kept
  split at chosen
  · cases chosen
  · cases chosen
    exact ⟨value, listed⟩

theorem presentParameters_findIssues (request : StartRequest) :
    presentParameters (urlParameters .findIssues request) = given "path" request.path := by
  rw [urlParameters, presentParameters_cons]
  exact List.append_nil _

theorem presentParameters_catalogAi (request : StartRequest) :
    presentParameters (urlParameters .catalogAi request) =
      given "path" request.path ++
        given "depth" (request.depth.map fun depth => toString depth.toNat) ++
        given "log_level" request.logLevel := by
  rw [urlParameters, presentParameters_cons, presentParameters_cons, presentParameters_cons,
    ← List.append_assoc, ← List.append_assoc]
  exact List.append_nil _

theorem plainName_urlParameters (kind : Kind) (request : StartRequest) :
    ∀ parameter ∈ presentParameters (urlParameters kind request), PlainName parameter := by
  have plain : ∀ name ∈ ["path", "depth", "log_level"], name.toList.all isUnreserved = true := by
    decide
  intro parameter member
  obtain ⟨value, listed⟩ := mem_of_mem_presentParameters member
  apply List.all_eq_true.mp
  apply plain
  cases kind with
  | findIssues =>
      simp only [urlParameters, List.mem_singleton, Prod.mk.injEq] at listed
      simp [listed]
  | catalogAi =>
      simp only [urlParameters, List.mem_cons, List.not_mem_nil, Prod.mk.injEq] at listed
      grind

/-- The URL at which a job is started says the parameters that are given and belong there, in
order and with their exact text. The URL of a result ends in one component that says the job, so
that different jobs have different ones. -/
theorem urls_say_their_parameters (client : Client) :
    (∀ request : StartRequest, ∃ suffix,
      client.startUrl .findIssues request = client.baseUrl ++ "/api/find-issues" ++ suffix ∧
      Says suffix (given "path" request.path)) ∧
    (∀ request : StartRequest, ∃ suffix,
      client.startUrl .catalogAi request = client.baseUrl ++ "/api/catalog-ai" ++ suffix ∧
      Says suffix (given "path" request.path ++
        given "depth" (request.depth.map fun depth => toString depth.toNat) ++
        given "log_level" request.logLevel)) ∧
    (∀ job : JobId, ∃ component,
      client.resultsUrl job = client.baseUrl ++ "/api/results/" ++ component ∧
      IsComponent component.toList ∧ (∀ c ∈ component.toList, c ∉ ['/', '?', '#', '&']) ∧
      decode? component = some job.text) ∧
    (∀ job other : JobId, client.resultsUrl job = client.resultsUrl other ↔ job = other) := by
  refine ⟨fun request => ?_, fun request => ?_, fun job => ?_, fun job other => ?_⟩
  · refine ⟨query (urlParameters .findIssues request), rfl, ?_⟩
    rw [← presentParameters_findIssues]
    exact says_query (plainName_urlParameters .findIssues request)
  · refine ⟨query (urlParameters .catalogAi request), rfl, ?_⟩
    rw [← presentParameters_catalogAi]
    exact says_query (plainName_urlParameters .catalogAi request)
  · have component := isComponent_encode job.text
    refine ⟨encode job.text, rfl, component, fun c member separator => ?_, decode?_encode job.text⟩
    have separators : ['/', '?', '#', '&'].all (fun c => !isUnreserved c && c != '%') = true := by
      decide
    have unlike := List.all_eq_true.mp separators c separator
    simp only [Bool.and_eq_true, Bool.not_eq_true', bne_iff_ne] at unlike
    exact component.not_mem unlike.1 unlike.2 member
  · constructor
    · intro same
      have encoded : encode job.text = encode other.text := String.append_right_inj _ |>.mp same
      have read := congrArg decode? encoded
      rw [decode?_encode, decode?_encode] at read
      cases job
      cases other
      cases read
      rfl
    · rintro rfl
      rfl

end Client

end JobWatch

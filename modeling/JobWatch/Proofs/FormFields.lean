import JobWatch.Proofs.Refusals
import JobWatch.Proofs.Urls

/-!
# Fields of a form

The form of a start request is sent by a process that reads each field in a way of its own. The
reader of that process is a parameter here, and no more is assumed of it than its manual says. A
content that begins with `@` or `<` names a local file, whose contents are sent in its place. A
semicolon ends the content and begins attributes. Blanks around a content are dropped, a quote in
front of it quotes it, and a parenthesis begins a form of its own.

The caller's text reaches the reader as it is. So it arrives as it was given if it holds none of
these marks; with the sign of a file or a semicolon in it, it does not arrive.
-/

set_option autoImplicit false

namespace JobWatch.Client

/-! ## What a process sends -/

inductive Content where
  | text (text : String)
  /-- The contents of a file, as a text. -/
  | fileText (path : String)
  /-- The contents of files, as files. -/
  | upload (paths : List String)
  | multipart
  deriving DecidableEq, Repr

/-- A field of a form as it is sent, with the attributes that were given for it. -/
structure Part where
  name : String
  content : Content
  attributes : Option String
  deriving DecidableEq, Repr

/-- The local files that are read for a field. -/
def Part.paths (part : Part) : List String :=
  match part.content with
  | .text _ => []
  | .fileText path => [path]
  | .upload paths => paths
  | .multipart => []

/-- The options that take the argument behind them as their value. -/
def valueOptions : List String := ["-X", "--max-time", "-H", "-w"]

def isOption (argument : String) : Bool := argument.toList.head? == some '-'

/-- The fields among the arguments of a process. What is no option is an address, and what options
other than these do is left open. -/
def formArguments? : List String → Option (List String)
  | [] => some []
  | [argument] => if isOption argument then none else some []
  | argument :: value :: rest =>
    if argument = "-F" then (formArguments? rest).map (value :: ·)
    else if valueOptions.contains argument then formArguments? rest
    else if argument = "-sS" || !isOption argument then formArguments? (value :: rest)
    else none

/-- The parts that a process with these arguments sends, where `read` says what it makes of a
field. It may refuse one, and then it sends nothing. -/
def sentParts? (read : String → Option Part) (arguments : List String) : Option (List Part) :=
  (formArguments? arguments).bind fun fields => fields.mapM read

def fieldArgument (field : String × String) : String := field.1 ++ "=" ++ field.2

/-! ## The manual -/

def blanks : List Char := [' ', '\t', '\n', '\x0b', '\x0c', '\r']

/-- The signs of a file and of a form in front of a content. -/
def signs : List Char := ['@', '<', '(']

/-- A word that is read as it stands: it has no blank at its ends, no quote in front and no
semicolon in it, and it can be an argument. -/
def isUnmarked (word : String) : Bool :=
  (word.toList.head?.all fun c => c != '"' && !blanks.contains c) &&
    (word.toList.getLast?.all fun c => !blanks.contains c) &&
    !word.toList.contains ';' && !word.toList.contains '\x00'

/-- A text without any of the marks that the manual gives a meaning. -/
def isPlain (text : String) : Bool :=
  isUnmarked text && text.toList.head?.all fun c => !signs.contains c

/-- A word that names one file, and not the standard input. -/
def namesFile (path : String) : Bool :=
  isUnmarked path && !path.toList.contains ',' && path != "" && path != "-"

def isFieldName (name : String) : Bool :=
  name != "" && name.toList.all fun c => c.isAlphanum || c == '_'

/-- What the manual of the process says about the way it reads a field. -/
structure Documented (read : String → Option Part) : Prop where
  plain : ∀ name text, isFieldName name = true → isPlain text = true →
    read (fieldArgument (name, text)) = some ⟨name, .text text, none⟩
  upload : ∀ name path, isFieldName name = true → namesFile path = true →
    read (fieldArgument (name, "@" ++ path)) = some ⟨name, .upload [path], none⟩
  fileText : ∀ name path, isFieldName name = true → namesFile path = true →
    read (fieldArgument (name, "<" ++ path)) = some ⟨name, .fileText path, none⟩
  /-- Behind the sign of a file stands nothing that is sent as a text. -/
  signed : ∀ name text part literal, isFieldName name = true →
    text.toList.head? = some '@' ∨ text.toList.head? = some '<' →
    read (fieldArgument (name, text)) = some part → part.content ≠ .text literal
  /-- A semicolon ends the content, whatever the attributes behind it are. -/
  attributes : ∀ name text rest part, isFieldName name = true → isPlain text = true →
    read (fieldArgument (name, text ++ ";" ++ rest)) = some part → part.content = .text text

/-! ## The arguments of a start request -/

theorem formArguments?_fields (fields : List (String × String)) :
    formArguments? (fields.flatMap fun field => ["-F", fieldArgument field]) =
      some (fields.map fieldArgument) := by
  induction fields with
  | nil => rfl
  | cons field rest ih =>
      rw [List.flatMap_cons, List.map_cons, ← Option.map_some, ← ih]
      rfl

theorem formArguments?_of_address {address value : String} {rest : List String}
    (plain : isOption address = false) :
    formArguments? (address :: value :: rest) = formArguments? (value :: rest) := by
  have options : ∀ option ∈ "-F" :: valueOptions, isOption option = true := by decide
  have other : address ∉ "-F" :: valueOptions := by
    intro listed
    rw [options address listed] at plain
    cases plain
  rw [List.mem_cons, not_or] at other
  rw [formArguments?, if_neg other.1, if_neg (by simpa using other.2), plain]
  simp

theorem formArguments?_arguments {client : Client} {request : Request}
    (plain : isOption request.url = false) :
    formArguments? (client.arguments request) = some (request.form.map fieldArgument) := by
  rw [← formArguments?_fields]
  unfold arguments
  cases client.token with
  | none => exact formArguments?_of_address plain
  | some token => exact formArguments?_of_address plain

theorem isOption_startUrl {client : Client} (addressed : isOption client.baseUrl = false)
    (kind : Kind) (request : StartRequest) :
    isOption (client.startUrl kind request) = false := by
  have path : (startPath kind).toList.head? = some '/' := by
    cases kind with
    | findIssues => decide
    | catalogAi => decide
  simp only [isOption, startUrl, String.toList_append, List.head?_append, path] at addressed ⊢
  cases start : client.baseUrl.toList.head? with
  | none => rfl
  | some c =>
      rw [start] at addressed
      exact addressed

/-! ## The parts of a start request -/

def depthParts (request : StartRequest) : List Part :=
  (request.depth.map fun depth => ⟨"depth", .text (toString depth.toNat), none⟩).toList

/-- The fields of a request as its caller gave them. -/
def literalParts (request : StartRequest) : List Part :=
  depthParts request ++ (request.logLevel.map fun level => ⟨"log_level", .text level, none⟩).toList

theorem isFieldName_depth : isFieldName "depth" = true := by decide

theorem isFieldName_logLevel : isFieldName "log_level" = true := by decide

theorem paths_depthParts (request : StartRequest) :
    (depthParts request).flatMap Part.paths = [] := by
  rw [depthParts]
  cases request.depth <;> rfl

theorem isPlain_of_digits {text : String} (digits : ∀ c ∈ text.toList, c.isDigit = true) :
    isPlain text = true := by
  have unlike : ∀ c ∈ text.toList, ∀ mark : Char, mark.isDigit = false → c ≠ mark := by
    intro c member mark other same
    rw [← same, digits c member] at other
    cases other
  have solid : ∀ c ∈ text.toList, c ∉ blanks := by
    intro c member
    simp [blanks, unlike c member]
  have absent : ∀ mark : Char, mark.isDigit = false → mark ∉ text.toList :=
    fun mark other member => unlike mark member mark other rfl
  have first : text.toList.head?.all (fun c => c != '"' && !blanks.contains c) = true := by
    rw [Option.all_eq_true]
    intro c start
    have member := List.mem_of_mem_head? start
    simp [solid c member, unlike c member]
  have last : text.toList.getLast?.all (fun c => !blanks.contains c) = true := by
    rw [Option.all_eq_true]
    intro c finish
    simp [solid c (List.mem_of_mem_getLast? finish)]
  have unsigned : text.toList.head?.all (fun c => !signs.contains c) = true := by
    rw [Option.all_eq_true]
    intro c start
    simp [signs, unlike c (List.mem_of_mem_head? start)]
  have single : text.toList.contains ';' = false := by simp [absent]
  have unended : text.toList.contains '\x00' = false := by simp [absent]
  rw [isPlain, isUnmarked, first, last, single, unended, unsigned]
  rfl

theorem isPlain_depthText (depth : UInt32) : isPlain (depthText depth) = true := by
  apply isPlain_of_digits
  intro c member
  rw [depthText, Nat.toString_eq_repr, Nat.toList_repr] at member
  exact Nat.isDigit_of_mem_toDigits (by decide) (by decide) member

section

variable {read : String → Option Part} {client : Client} {request : StartRequest}

theorem mapM_depthFields (documented : Documented read) :
    ((request.depth.map fun depth => ("depth", depthText depth)).toList.map fieldArgument).mapM
      read = some (depthParts request) := by
  rw [depthParts]
  cases request.depth with
  | none => rfl
  | some depth =>
      have decimal := documented.plain "depth" _ isFieldName_depth (isPlain_depthText depth)
      simp only [Option.map_some, Option.toList_some, List.map_cons, List.map_nil, List.mapM_cons,
        decimal]
      rfl

theorem sentParts?_startRequest (documented : Documented read)
    (addressed : isOption client.baseUrl = false) :
    sentParts? read (client.arguments (client.startRequest .findIssues request)) =
      ((request.logLevel.map fun level => fieldArgument ("log_level", level)).toList.mapM read).map
        (depthParts request ++ ·) := by
  have fields : formArguments? (client.arguments (client.startRequest .findIssues request)) =
      some ((formFields .findIssues request).map fieldArgument) :=
    formArguments?_arguments (isOption_startUrl addressed .findIssues request)
  rw [sentParts?, fields, Option.bind_some, formFields, List.map_append, List.mapM_append,
    mapM_depthFields documented]
  cases request.logLevel with
  | none => rfl
  | some level => cases sent : read (fieldArgument ("log_level", level)) <;> simp [sent]

theorem sentParts?_of_no_level (documented : Documented read)
    (addressed : isOption client.baseUrl = false) (missing : request.logLevel = none) :
    sentParts? read (client.arguments (client.startRequest .findIssues request)) =
      some (depthParts request) := by
  rw [sentParts?_startRequest documented addressed, missing]
  simp

theorem sentParts?_of_level (documented : Documented read)
    (addressed : isOption client.baseUrl = false) {level : String}
    (given : request.logLevel = some level) :
    sentParts? read (client.arguments (client.startRequest .findIssues request)) =
      (read (fieldArgument ("log_level", level))).map (depthParts request ++ [·]) := by
  rw [sentParts?_startRequest documented addressed, given]
  cases sent : read (fieldArgument ("log_level", level)) <;> simp [sent]

theorem literalParts_of_level {level : String} (given : request.logLevel = some level) :
    literalParts request = depthParts request ++ [⟨"log_level", .text level, none⟩] := by
  rw [literalParts, given]
  rfl

/-! ## Literal forms -/

/-- A text that begins with the sign of a file, or in which a semicolon stands behind a plain
text. -/
inductive Marked : String → Prop where
  | file {text : String} : text.toList.head? = some '@' ∨ text.toList.head? = some '<' → Marked text
  | attributes {text rest : String} : isPlain text = true → Marked (text ++ ";" ++ rest)

theorem Documented.content_ne_of_marked (documented : Documented read) {name level : String}
    {part : Part} (named : isFieldName name = true) (marked : Marked level)
    (sent : read (fieldArgument (name, level)) = some part) : part.content ≠ .text level := by
  cases marked with
  | file signed => exact documented.signed name level part level named signed sent
  | @attributes text rest plain =>
      rw [documented.attributes name text rest part named plain sent]
      intro same
      have longer := congrArg String.length (Content.text.inj same)
      simp only [String.length_append] at longer
      have semicolon : ";".length = 1 := by decide
      omega

theorem sentParts?_of_plain (documented : Documented read)
    (addressed : isOption client.baseUrl = false)
    (plain : ∀ level ∈ request.logLevel, isPlain level = true) :
    sentParts? read (client.arguments (client.startRequest .findIssues request)) =
      some (literalParts request) := by
  cases given : request.logLevel with
  | none =>
      rw [sentParts?_of_no_level documented addressed given, literalParts, given]
      simp
  | some level =>
      rw [sentParts?_of_level documented addressed given, literalParts_of_level given,
        documented.plain "log_level" level isFieldName_logLevel (plain level given)]
      rfl

theorem sentParts?_of_marked (documented : Documented read)
    (addressed : isOption client.baseUrl = false) {level : String}
    (given : request.logLevel = some level) (marked : Marked level) :
    sentParts? read (client.arguments (client.startRequest .findIssues request)) ≠
      some (literalParts request) := by
  rw [sentParts?_of_level documented addressed given, literalParts_of_level given]
  intro literal
  obtain ⟨part, sends, same⟩ := Option.map_eq_some_iff.mp literal
  have last : part = ⟨"log_level", .text level, none⟩ :=
    List.singleton_inj.mp (List.append_cancel_left same)
  exact documented.content_ne_of_marked isFieldName_logLevel marked sends (by rw [last])

theorem paths_of_read (documented : Documented read)
    (addressed : isOption client.baseUrl = false) {level : String} {part : Part}
    (given : request.logLevel = some level)
    (sent : read (fieldArgument ("log_level", level)) = some part) :
    ∃ parts, sentParts? read (client.arguments (client.startRequest .findIssues request)) =
      some parts ∧ parts.flatMap Part.paths = part.paths := by
  refine ⟨depthParts request ++ [part], ?_, ?_⟩
  · rw [sentParts?_of_level documented addressed given, sent, Option.map_some]
  · rw [List.flatMap_append, paths_depthParts, List.nil_append, List.flatMap_singleton]

theorem sentParts?_of_file (documented : Documented read)
    (addressed : isOption client.baseUrl = false) {path : String} (file : namesFile path = true)
    (names : request.logLevel = some ("@" ++ path) ∨ request.logLevel = some ("<" ++ path)) :
    ∃ parts, sentParts? read (client.arguments (client.startRequest .findIssues request)) =
      some parts ∧ parts.flatMap Part.paths = [path] := by
  obtain given | given := names
  · have sent := documented.upload "log_level" path isFieldName_logLevel file
    exact paths_of_read documented addressed given sent
  · have sent := documented.fileText "log_level" path isFieldName_logLevel file
    exact paths_of_read documented addressed given sent

theorem paths_literalParts (request : StartRequest) :
    (literalParts request).flatMap Part.paths = [] := by
  rw [literalParts, List.flatMap_append, paths_depthParts]
  cases request.logLevel <;> rfl

/-- The form that is sent for a request always holds the depth. It holds the log level as it was
given, and no file is read, if that is plain; it does not if that is marked, and a file that the log
level names is read. -/
theorem form_literal_unless_marked {read : String → Option Part} (documented : Documented read)
    (client : Client) (addressed : isOption client.baseUrl = false) (request : StartRequest) :
    let sent := sentParts? read (client.arguments (client.startRequest .findIssues request))
    (∀ parts, sent = some parts → ∃ level : Option Part,
      parts = depthParts request ++ level.toList) ∧
    ((∀ level ∈ request.logLevel, isPlain level = true) →
      sent = some (literalParts request) ∧ (literalParts request).flatMap Part.paths = []) ∧
    (∀ level ∈ request.logLevel, Marked level → sent ≠ some (literalParts request)) ∧
    (∀ path, namesFile path = true →
      request.logLevel = some ("@" ++ path) ∨ request.logLevel = some ("<" ++ path) →
      ∃ parts, sent = some parts ∧ parts.flatMap Part.paths = [path]) := by
  intro sent
  refine ⟨?_, ?_, ?_, ?_⟩
  · intro parts sends
    cases given : request.logLevel with
    | none =>
        have alone := sends.symm.trans (sentParts?_of_no_level documented addressed given)
        exact ⟨none, by rw [Option.some.inj alone]; simp⟩
    | some level =>
        have heard := sends.symm.trans (sentParts?_of_level documented addressed given)
        obtain ⟨part, _, same⟩ := Option.map_eq_some_iff.mp heard.symm
        exact ⟨some part, same.symm⟩
  · intro plain
    exact ⟨sentParts?_of_plain documented addressed plain, paths_literalParts request⟩
  · intro level given marked
    exact sentParts?_of_marked documented addressed given marked
  · intro path file names
    exact sentParts?_of_file documented addressed file names

end

/-! ## A reader -/

def contentOf : List Char → Content
  | '@' :: path => .upload [String.ofList path]
  | '<' :: path => .fileText (String.ofList path)
  | text => .text (String.ofList text)

/-- A reader that knows the signs of files and the semicolon, and no other marks. -/
def readBySigns (argument : String) : Option Part :=
  (splitFirst? '=' argument.toList).map fun (name, value) =>
    match splitFirst? ';' value with
    | none => ⟨String.ofList name, contentOf value, none⟩
    | some (content, attributes) =>
        ⟨String.ofList name, contentOf content, some (String.ofList attributes)⟩

theorem readBySigns_unattributed {name value : String} (named : '=' ∉ name.toList)
    (single : ';' ∉ value.toList) :
    readBySigns (fieldArgument (name, value)) = some ⟨name, contentOf value.toList, none⟩ := by
  have whole : (fieldArgument (name, value)).toList = name.toList ++ '=' :: value.toList := by
    simp [fieldArgument]
  simp [readBySigns, whole, splitFirst?_append named, splitFirst?_of_absent single]

theorem readBySigns_attributed {name text rest : String} (named : '=' ∉ name.toList)
    (single : ';' ∉ text.toList) :
    readBySigns (fieldArgument (name, text ++ ";" ++ rest)) =
      some ⟨name, contentOf text.toList, some rest⟩ := by
  have whole : (fieldArgument (name, text ++ ";" ++ rest)).toList =
      name.toList ++ '=' :: (text.toList ++ ';' :: rest.toList) := by
    simp [fieldArgument]
  simp [readBySigns, whole, splitFirst?_append named, splitFirst?_append single]

theorem semicolon_of_isUnmarked {word : String} (unmarked : isUnmarked word = true) :
    ';' ∉ word.toList := by
  simp only [isUnmarked, Bool.and_eq_true, Bool.not_eq_true', List.contains_eq_mem,
    decide_eq_false_iff_not] at unmarked
  exact unmarked.1.2

theorem isUnmarked_of_isPlain {text : String} (plain : isPlain text = true) :
    isUnmarked text = true := (Bool.and_eq_true_iff.mp plain).1

theorem isUnmarked_of_namesFile {path : String} (file : namesFile path = true) :
    isUnmarked path = true := by
  simp only [namesFile, Bool.and_eq_true] at file
  exact file.1.1.1

theorem equals_of_isFieldName {name : String} (named : isFieldName name = true) :
    '=' ∉ name.toList := by
  intro member
  have listed := List.all_eq_true.mp (Bool.and_eq_true_iff.mp named).2 '=' member
  revert listed
  decide

theorem contentOf_of_plain {text : String} (plain : isPlain text = true) :
    contentOf text.toList = .text text := by
  unfold contentOf
  split
  · next path begins => simp [isPlain, signs, begins] at plain
  · next path begins => simp [isPlain, signs, begins] at plain
  · rw [String.ofList_toList]

theorem contentOf_of_sign {content : List Char} {literal : String}
    (sign : content.head? = some '@' ∨ content.head? = some '<') :
    contentOf content ≠ .text literal := by
  cases content with
  | nil => simp at sign
  | cons c rest =>
      simp only [List.head?_cons, Option.some.injEq] at sign
      obtain rfl | rfl := sign
      · simp [contentOf]
      · simp [contentOf]

theorem documented_readBySigns : Documented readBySigns where
  plain name text named plain := by
    have single := semicolon_of_isUnmarked (isUnmarked_of_isPlain plain)
    rw [readBySigns_unattributed (equals_of_isFieldName named) single, contentOf_of_plain plain]
  upload name path named file := by
    have single : ';' ∉ ("@" ++ path).toList := by
      simp [semicolon_of_isUnmarked (isUnmarked_of_namesFile file)]
    rw [readBySigns_unattributed (equals_of_isFieldName named) single]
    simp [contentOf]
  fileText name path named file := by
    have single : ';' ∉ ("<" ++ path).toList := by
      simp [semicolon_of_isUnmarked (isUnmarked_of_namesFile file)]
    rw [readBySigns_unattributed (equals_of_isFieldName named) single]
    simp [contentOf]
  signed name text part literal named sign sent := by
    by_cases attributed : ';' ∈ text.toList
    · obtain ⟨content, attributes, whole, single⟩ := List.eq_append_cons_of_mem attributed
      have halves : text = String.ofList content ++ ";" ++ String.ofList attributes := by
        rw [← String.toList_inj, whole]
        simp
      have begins : content.head? = some '@' ∨ content.head? = some '<' := by
        rw [whole] at sign
        cases content with
        | nil => simp at sign
        | cons c rest => exact sign
      have first : ';' ∉ (String.ofList content).toList := by simpa using single
      rw [halves, readBySigns_attributed (equals_of_isFieldName named) first] at sent
      rw [← Option.some.inj sent, String.toList_ofList]
      exact contentOf_of_sign begins
    · rw [readBySigns_unattributed (equals_of_isFieldName named) attributed] at sent
      rw [← Option.some.inj sent]
      exact contentOf_of_sign sign
  attributes name text rest part named plain sent := by
    have single := semicolon_of_isUnmarked (isUnmarked_of_isPlain plain)
    rw [readBySigns_attributed (equals_of_isFieldName named) single,
      contentOf_of_plain plain] at sent
    rw [← Option.some.inj sent]

/-! ## Requests to the tracker -/

def scanRequest (body : String) : Http.Request where
  method := "POST"
  target := "/v1/jobs/find_issues"
  headers := [("content-type", "application/json")]
  body := Text.Utf8.bytesOf body

def localClient : Client := .ofAddress "http://127.0.0.1:8501" none 30

theorem forms_of_plain_and_named_level :
    Documented readBySigns ∧ isOption localClient.baseUrl = false ∧ isPlain "INFO" = true ∧
    sentParts? readBySigns
        (localClient.arguments (localClient.startRequest .findIssues ⟨none, some 3, some "INFO"⟩)) =
      some [⟨"depth", .text "3", none⟩, ⟨"log_level", .text "INFO", none⟩] ∧
    namesFile "/etc/passwd" = true ∧
    ∃ parts, sentParts? readBySigns (localClient.arguments
        (localClient.startRequest .findIssues ⟨none, some 3, some "@/etc/passwd"⟩)) = some parts ∧
      parts.flatMap Part.paths = ["/etc/passwd"] := by
  have addressed : isOption localClient.baseUrl = false := by decide
  have plain : isPlain "INFO" = true := by decide
  have only : ∀ level ∈ some "INFO", isPlain level = true := by simp [plain]
  have file : namesFile "/etc/passwd" = true := by decide
  have signed : some "@/etc/passwd" = some ("@" ++ "/etc/passwd") := by decide
  obtain ⟨_, literal, _⟩ := form_literal_unless_marked documented_readBySigns localClient addressed
    ⟨none, some 3, some "INFO"⟩
  obtain ⟨_, _, _, named⟩ := form_literal_unless_marked documented_readBySigns localClient addressed
    ⟨none, some 3, some "@/etc/passwd"⟩
  refine ⟨documented_readBySigns, addressed, plain, (literal only).1.trans ?_, file,
    named "/etc/passwd" file (.inl signed)⟩
  decide

/-- A request to the tracker makes the process send a local file that its caller names, whatever
else its reader does. A log level with a semicolon does not arrive either. -/
theorem named_file_sent :
    (∃ request,
      (scanRequest "\x7b\"logLevel\":\"@/etc/passwd\"\x7d").service =
        .ok (.perform (.start .findIssues request)) ∧
      ∀ read, Documented read → ∃ parts,
        sentParts? read (localClient.arguments (localClient.startRequest .findIssues request)) =
          some parts ∧
        parts ≠ literalParts request ∧ parts.flatMap Part.paths = ["/etc/passwd"]) ∧
    (∃ request,
      (scanRequest "\x7b\"logLevel\":\"INFO;type=text/html\"\x7d").service =
        .ok (.perform (.start .findIssues request)) ∧
      ∀ read, Documented read →
        sentParts? read (localClient.arguments (localClient.startRequest .findIssues request)) ≠
          some (literalParts request)) ∧
    Documented readBySigns := by
  have addressed : isOption localClient.baseUrl = false := by decide
  refine ⟨⟨⟨none, none, some "@/etc/passwd"⟩, ?_, ?_⟩,
    ⟨⟨none, none, some "INFO;type=text/html"⟩, ?_, ?_⟩, documented_readBySigns⟩
  · exact Http.Request.service_of_action? (by decide +kernel)
  · intro read documented
    have file : namesFile "/etc/passwd" = true := by decide
    have signed : (StartRequest.mk none none (some "@/etc/passwd")).logLevel =
        some ("@" ++ "/etc/passwd") := by decide
    obtain ⟨parts, sent, paths⟩ := sentParts?_of_file documented addressed file (.inl signed)
    refine ⟨parts, sent, ?_, paths⟩
    intro literal
    rw [literal, paths_literalParts] at paths
    cases paths
  · exact Http.Request.service_of_action? (by decide +kernel)
  · intro read documented
    have plain : isPlain "INFO" = true := by decide
    have split : "INFO;type=text/html" = "INFO" ++ ";" ++ "type=text/html" := by decide
    exact sentParts?_of_marked documented addressed rfl (split ▸ .attributes plain)

end JobWatch.Client

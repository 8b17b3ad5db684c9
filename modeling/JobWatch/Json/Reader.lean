import JobWatch.Json.Scan

/-!
# Reading JSON texts

A text holds one value, with blanks around it. Arrays and objects nest to a limit, and the
first fault from the left is reported. `Json.parse` gives the canonical form of the value.
-/

set_option autoImplicit false

namespace JobWatch.Json

/-- How many arrays and objects may stand inside one another, counting the one refused. -/
def nestingLimit : Nat := 128

mutual

/-- Reads a value with `depth` levels of nesting left. Every call reads at least one byte, so
the number of bytes is fuel enough. -/
def scanValue (fuel depth : Nat) (bytes : Bytes) : Scan Json :=
  match fuel with
  | 0 => faultAt .expectedValue bytes
  | fuel + 1 =>
    let bytes := skipSpace bytes
    match bytes with
    | [] => faultOn .endInValue []
    | b :: rest =>
      if b = 110 then (scanWord nullTail rest).map (.null, ·)
      else if b = 116 then (scanWord trueTail rest).map (.bool true, ·)
      else if b = 102 then (scanWord falseTail rest).map (.bool false, ·)
      else if b = 45 then (scanNumber true rest).map fun (n, rest) => (.num n, rest)
      else if isDigitByte b then (scanNumber false bytes).map fun (n, rest) => (.num n, rest)
      else if b = 34 then (scanString rest).map fun (s, rest) => (.str s, rest)
      else if b = 91 ∨ b = 123 then
        match depth with
        | 0 => faultOn .tooDeep bytes
        | depth + 1 =>
          if b = 91 then scanItems fuel depth [] rest else scanMembers fuel depth [] rest
      else faultOn .expectedValue bytes

/-- Reads the items of an array up to its end; `reversed` holds those before. -/
def scanItems (fuel depth : Nat) (reversed : List Json) (bytes : Bytes) : Scan Json :=
  match fuel with
  | 0 => faultAt .expectedValue bytes
  | fuel + 1 =>
    let bytes := skipSpace bytes
    match bytes with
    | [] => faultOn .endInList []
    | b :: rest =>
      if b = 93 then .ok (.arr reversed.reverse, rest)
      else if reversed.isEmpty then
        match scanValue fuel depth bytes with
        | .error e => .error e
        | .ok (v, rest) => scanItems fuel depth [v] rest
      else if b = 44 then
        let next := skipSpace rest
        match next with
        | [] => faultOn .endInValue []
        | c :: _ =>
          if c = 93 then faultOn .trailingComma next
          else
            match scanValue fuel depth next with
            | .error e => .error e
            | .ok (v, rest) => scanItems fuel depth (v :: reversed) rest
      else faultOn .expectedListEnd bytes

def scanMembers (fuel depth : Nat) (reversed : List (String × Json)) (bytes : Bytes) :
    Scan Json :=
  match fuel with
  | 0 => faultAt .expectedValue bytes
  | fuel + 1 =>
    let bytes := skipSpace bytes
    match bytes with
    | [] => faultOn .endInObject []
    | b :: rest =>
      if b = 125 then .ok (.obj reversed.reverse, rest)
      else if reversed.isEmpty then
        if b = 34 then
          match scanMember fuel depth rest with
          | .error e => .error e
          | .ok (member, rest) => scanMembers fuel depth [member] rest
        else faultOn .keyNotString bytes
      else if b = 44 then
        let next := skipSpace rest
        match next with
        | [] => faultOn .endInValue []
        | c :: after =>
          if c = 34 then
            match scanMember fuel depth after with
            | .error e => .error e
            | .ok (member, rest) => scanMembers fuel depth (member :: reversed) rest
          else if c = 125 then faultOn .trailingComma next
          else faultOn .keyNotString next
      else faultOn .expectedObjectEnd bytes

/-- Reads a member from after the opening quote of its key. -/
def scanMember (fuel depth : Nat) (bytes : Bytes) : Scan (String × Json) :=
  match fuel with
  | 0 => faultAt .expectedValue bytes
  | fuel + 1 =>
    match scanString bytes with
    | .error e => .error e
    | .ok (key, rest) =>
      match skipSpace rest with
      | [] => faultOn .endInObject []
      | colon :: rest' =>
        if colon = 58 then
          match scanValue fuel depth rest' with
          | .error e => .error e
          | .ok (v, rest) => .ok ((key, v), rest)
        else faultOn .expectedColon (colon :: rest')

end

/-- Nothing but blanks may follow the value of a text. -/
def scanEnd (bytes : Bytes) : Except Fault Unit :=
  match skipSpace bytes with
  | [] => .ok ()
  | rest => faultOn .trailingCharacters rest

def readWithin (limit : Nat) (bytes : Bytes) : Except Fault Json := do
  let (v, rest) ← scanValue (2 * bytes.length + 2) (limit - 1) bytes
  scanEnd rest
  return v

def parse (text : String) : Except String Json :=
  let bytes := Text.Utf8.bytesOf text
  match readWithin nestingLimit bytes with
  | .ok v => .ok v.canonical
  | .error fault => .error (fault.message bytes)

end JobWatch.Json

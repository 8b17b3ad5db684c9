import JobWatch.Json.Scan

/-!
# Passing over JSON values

The value of a member that nobody asked for is passed over: its grammar is checked, but not
what its strings and numbers stand for, and it may nest to any depth. The open arrays and
objects are kept on a stack, so depth costs no recursion.
-/

set_option autoImplicit false

namespace JobWatch.Json

def skimString : Bytes → Except Fault Bytes
  | [] => faultAt .endInString []
  | b :: rest =>
    if b = 34 then .ok rest
    else if b = 92 then
      match rest with
      | [] => faultAt .endInString []
      | letter :: rest =>
        if (shortEscape? letter).isSome then skimString rest
        else if letter ≠ 117 then faultAt .invalidEscape rest
        else match rest with
          | a :: b :: c :: d :: rest =>
            if (fourHex? a b c d).isSome then skimString rest else faultAt .invalidEscape rest
          | _ => faultAt .endInString []
    else if b < 32 then faultAt .controlCharacter (b :: rest)
    else skimString rest

def skimExponent (bytes : Bytes) : Except Fault Bytes :=
  let bytes := match bytes with
    | 43 :: rest => rest
    | 45 :: rest => rest
    | other => other
  match bytes with
  | [] => faultAt .invalidNumber []
  | b :: rest =>
    if isDigitByte b then .ok (rest.dropWhile isDigitByte) else faultAt .invalidNumber rest

def skimOptionalExponent (bytes : Bytes) : Except Fault Bytes :=
  match bytes with
  | b :: rest => if b = 101 ∨ b = 69 then skimExponent rest else .ok bytes
  | [] => .ok []

def skimNumberEnd (bytes : Bytes) : Except Fault Bytes :=
  match bytes with
  | 46 :: rest =>
    if startsWithDigit rest then skimOptionalExponent (rest.dropWhile isDigitByte)
    else faultOn .invalidNumber rest
  | _ => skimOptionalExponent bytes

def skimNumber (bytes : Bytes) : Except Fault Bytes :=
  match bytes with
  | [] => faultAt .invalidNumber []
  | b :: rest =>
    if b = 48 then
      if startsWithDigit rest then faultOn .invalidNumber rest else skimNumberEnd rest
    else if isDigitByte b then skimNumberEnd (rest.dropWhile isDigitByte)
    else faultAt .invalidNumber rest

/-- An array or an object that has been opened and not closed. -/
inductive Frame where
  | list
  | object
  deriving DecidableEq

/-- What may come next while a value is passed over. -/
inductive Stage where
  | value
  /-- The first item or member of the innermost frame, or its end. -/
  | opened
  /-- A comma or the end of the innermost frame. -/
  | continued
  | key
  deriving DecidableEq

def Frame.closedBy : Frame → UInt8 → Bool
  | .list, b => b == 93
  | .object, b => b == 125

def Frame.itemStage : Frame → Stage
  | .list => .value
  | .object => .key

/-- Passes over the rest of a value. Each step reads at least one byte or turns to a stage that
does, so twice the number of bytes is fuel enough. -/
def skim (fuel : Nat) (stage : Stage) (frames : List Frame) (bytes : Bytes) :
    Except Fault Bytes :=
  match fuel with
  | 0 => faultAt .expectedValue bytes
  | fuel + 1 =>
    let bytes := skipSpace bytes
    match stage with
    | .value =>
      match bytes with
      | [] => faultOn .endInValue []
      | b :: rest =>
        if b = 91 then skim fuel .opened (.list :: frames) rest
        else if b = 123 then skim fuel .opened (.object :: frames) rest
        else do
          let rest ←
            if b = 110 then scanWord nullTail rest
            else if b = 116 then scanWord trueTail rest
            else if b = 102 then scanWord falseTail rest
            else if b = 45 then skimNumber rest
            else if isDigitByte b then skimNumber bytes
            else if b = 34 then skimString rest
            else faultOn .expectedValue bytes
          match frames with
          | [] => .ok rest
          | _ => skim fuel .continued frames rest
    | .opened =>
      match frames with
      | [] => .ok bytes
      | frame :: outer =>
        match bytes with
        | [] => faultOn (if frame = .list then .endInList else .endInObject) []
        | b :: rest =>
          if frame.closedBy b then
            match outer with
            | [] => .ok rest
            | _ => skim fuel .continued outer rest
          else skim fuel frame.itemStage frames bytes
    | .continued =>
      match frames with
      | [] => .ok bytes
      | frame :: outer =>
        match bytes with
        | [] => faultOn (if frame = .list then .endInList else .endInObject) []
        | b :: rest =>
          if b = 44 then skim fuel frame.itemStage frames rest
          else if frame.closedBy b then
            match outer with
            | [] => .ok rest
            | _ => skim fuel .continued outer rest
          else faultOn (if frame = .list then .expectedListEnd else .expectedObjectEnd) bytes
    | .key =>
      match bytes with
      | [] => faultOn .endInObject []
      | b :: rest =>
        if b = 34 then do
          let rest ← skimString rest
          match skipSpace rest with
          | [] => faultOn .endInObject []
          | colon :: rest' =>
            if colon = 58 then skim fuel .value frames rest'
            else faultOn .expectedColon (colon :: rest')
        else faultOn .keyNotString bytes

def skimValue (bytes : Bytes) : Except Fault Bytes :=
  skim (2 * bytes.length + 2) .value [] bytes

end JobWatch.Json

import JobWatch.Job.Record
import JobWatch.Json.Printer
import JobWatch.Json.Reader
import JobWatch.Json.Skim
import JobWatch.Text.Quoted

/-!
# Bodies of requests

A body is read straight into the fields of a record, from an object or from an array that holds
every field in order. The first fault from the left is reported, with its place and, where it
arose inside a field, with the field. A body that is no JSON and a body that is JSON of another
shape are told apart.
-/

set_option autoImplicit false

namespace JobWatch.Http

open Json (Bytes Flaw Fault skipSpace)

inductive FieldShape where
  | text
  | optionalText
  | optionalWord
  deriving DecidableEq, Repr

inductive FieldValue where
  | absent
  | text (value : String)
  | word (value : UInt32)
  deriving DecidableEq, Repr

structure RecordShape where
  name : String
  fields : List (String × FieldShape)

inductive BodyCause where
  | malformed (flaw : Flaw)
  | wrongType (found expected : String)
  | outOfRange (number : Int) (expected : String)
  | missingField (name : String)
  | duplicateField (name : String)
  | wrongLength (length : Nat) (shape : RecordShape)

/-- A refusal: its cause, the field it arose in, and the bytes unread when it was reported. -/
structure BodyFault where
  field : Option String
  cause : BodyCause
  rest : Bytes

def countOf (n : Nat) (thing : String) : String :=
  toString n ++ " " ++ thing ++ (if n = 1 then "" else "s")

def BodyCause.message : BodyCause → String
  | .malformed flaw => flaw.message
  | .wrongType found expected => "invalid type: " ++ found ++ ", expected " ++ expected
  | .outOfRange n expected =>
    "invalid value: integer `" ++ toString n ++ "`, expected " ++ expected
  | .missingField name => "missing field `" ++ name ++ "`"
  | .duplicateField name => "duplicate field `" ++ name ++ "`"
  | .wrongLength length shape =>
    "invalid length " ++ toString length ++ ", expected struct " ++ shape.name ++ " with " ++
      countOf shape.fields.length "element"

/-- Whether the body is no JSON at all. -/
def BodyCause.isMalformed : BodyCause → Bool
  | .malformed _ => true
  | _ => false

def BodyFault.message (fault : BodyFault) (body : Bytes) : String :=
  let located := (Json.Position.before body fault.rest).locate fault.cause.message
  match fault.field with
  | none => located
  | some name => name ++ ": " ++ located

def refuse {α : Type} (cause : BodyCause) (rest : Bytes) : Except BodyFault α :=
  .error ⟨none, cause, rest⟩

/-- A refusal that points at the next byte. -/
def refuseOn {α : Type} (flaw : Flaw) (rest : Bytes) : Except BodyFault α :=
  .error ⟨none, .malformed flaw, rest.tail⟩

def ofFault {α : Type} : Except Fault α → Except BodyFault α
  | .ok a => .ok a
  | .error fault => .error ⟨none, .malformed fault.flaw, fault.rest⟩

def inField {α : Type} (name : String) : Except BodyFault α → Except BodyFault α
  | .ok a => .ok a
  | .error fault => .error { fault with field := some (fault.field.getD name) }

/-! ## Values of fields -/

def foundNumber : Number → String
  | .int n => "integer `" ++ toString n ++ "`"
  | .float x => "floating point `" ++ x.text ++ "`"

/-- Refuses the value at the front, whatever it is, because another type was expected. A scalar
is read to its end; an array or an object is not entered. -/
def refuseType {α : Type} (expected : String) (bytes : Bytes) : Except BodyFault α :=
  match bytes with
  | [] => refuseOn .endInValue []
  | b :: rest =>
    if b = 110 then do
      let rest ← ofFault (Json.scanWord Json.nullTail rest)
      refuse (.wrongType "null" expected) rest
    else if b = 116 then do
      let rest ← ofFault (Json.scanWord Json.trueTail rest)
      refuse (.wrongType "boolean `true`" expected) rest
    else if b = 102 then do
      let rest ← ofFault (Json.scanWord Json.falseTail rest)
      refuse (.wrongType "boolean `false`" expected) rest
    else if b = 45 then do
      let (n, rest) ← ofFault (Json.scanNumber true rest)
      refuse (.wrongType (foundNumber n) expected) rest
    else if Json.isDigitByte b then do
      let (n, rest) ← ofFault (Json.scanNumber false bytes)
      refuse (.wrongType (foundNumber n) expected) rest
    else if b = 34 then do
      let (s, rest) ← ofFault (Json.scanString rest)
      refuse (.wrongType ("string " ++ Text.quoted s) expected) rest
    else if b = 91 then refuse (.wrongType "sequence" expected) bytes
    else if b = 123 then refuse (.wrongType "map" expected) bytes
    else refuseOn .expectedValue bytes

def readText (bytes : Bytes) : Except BodyFault (FieldValue × Bytes) :=
  match bytes with
  | 34 :: rest => (ofFault (Json.scanString rest)).map fun (s, rest) => (.text s, rest)
  | _ => refuseType "a string" bytes

def wordOf (n : Number) (rest : Bytes) : Except BodyFault (FieldValue × Bytes) :=
  match n with
  | .int value =>
    if 0 ≤ value ∧ value < UInt32.size then .ok (.word (UInt32.ofNat value.toNat), rest)
    else refuse (.outOfRange value "u32") rest
  | .float _ => refuse (.wrongType (foundNumber n) "u32") rest

def readWord (bytes : Bytes) : Except BodyFault (FieldValue × Bytes) :=
  match bytes with
  | [] => refuseOn .endInValue []
  | b :: rest =>
    if b = 45 then do
      let (n, rest) ← ofFault (Json.scanNumber true rest)
      wordOf n rest
    else if Json.isDigitByte b then do
      let (n, rest) ← ofFault (Json.scanNumber false bytes)
      wordOf n rest
    else refuseType "u32" bytes

def readOptional (read : Bytes → Except BodyFault (FieldValue × Bytes)) (bytes : Bytes) :
    Except BodyFault (FieldValue × Bytes) :=
  match bytes with
  | 110 :: rest => (ofFault (Json.scanWord Json.nullTail rest)).map (.absent, ·)
  | _ => read bytes

def FieldShape.read (shape : FieldShape) (bytes : Bytes) :
    Except BodyFault (FieldValue × Bytes) :=
  let bytes := skipSpace bytes
  match shape with
  | .text => readText bytes
  | .optionalText => readOptional readText bytes
  | .optionalWord => readOptional readWord bytes

/-- What a field is when it is left out of an object. -/
def FieldShape.missing? : FieldShape → Option FieldValue
  | .text => none
  | .optionalText => some .absent
  | .optionalWord => some .absent

/-! ## Records -/

/-- The values of a record's fields, in the order of its shape. -/
abbrev Fields := List FieldValue

/-- Closes an array. Whatever stands where its end was expected is reported. -/
def closeList (bytes : Bytes) : Except BodyFault Bytes :=
  match skipSpace bytes with
  | [] => refuseOn .endInList []
  | b :: rest =>
    if b = 93 then .ok rest
    else if b = 44 then
      match skipSpace rest with
      | 93 :: after => refuseOn .trailingComma (93 :: after)
      | other => refuseOn .trailingCharacters other
    else refuseOn .trailingCharacters (b :: rest)

/-- Reads the items of an array as the fields of a record, one after another. -/
def readItems (shape : RecordShape) (index : Nat) (bytes : Bytes) :
    List (String × FieldShape) → Except BodyFault (Fields × Bytes)
  | [] => (closeList bytes).map fun rest => ([], rest)
  | (_, field) :: fields =>
    match skipSpace bytes with
    | [] => refuseOn .endInList []
    | b :: rest =>
      if b = 93 then refuse (.wrongLength index shape) rest
      else do
        let item ←
          if index = 0 then pure (b :: rest)
          else if b = 44 then
            match skipSpace rest with
            | [] => refuseOn .endInValue []
            | 93 :: after => refuseOn .trailingComma (93 :: after)
            | next => pure next
          else refuseOn .expectedListEnd (b :: rest)
        let (value, rest) ← inField ("[" ++ toString index ++ "]") (field.read item)
        let (values, rest) ← readItems shape (index + 1) rest fields
        return (value :: values, rest)

/-- The bytes that are left after trying to close an object. -/
def afterClosing (bytes : Bytes) : Bytes :=
  match skipSpace bytes with
  | 125 :: rest => rest
  | rest => rest

def completeFields (shape : RecordShape) (named : List (String × FieldValue)) (rest : Bytes) :
    Except BodyFault Fields :=
  shape.fields.mapM fun (name, field) =>
    match (named.lookup name).or field.missing? with
    | some value => .ok value
    | none => refuse (.missingField name) rest

/-- Reads the key that comes next in an object, if one does: the key and the bytes after it. -/
def nextKey (isFirst : Bool) (bytes : Bytes) : Except BodyFault (Option String × Bytes) :=
  match skipSpace bytes with
  | [] => refuseOn .endInObject []
  | b :: rest =>
    if b = 125 then .ok (none, rest)
    else if isFirst then
      if b = 34 then (ofFault (Json.scanString rest)).map fun (key, rest) => (some key, rest)
      else refuseOn .keyNotString (b :: rest)
    else if b = 44 then
      match skipSpace rest with
      | [] => refuseOn .endInValue []
      | 34 :: after => (ofFault (Json.scanString after)).map fun (key, rest) => (some key, rest)
      | 125 :: after => refuseOn .trailingComma (125 :: after)
      | other => refuseOn .keyNotString other
    else refuseOn .expectedObjectEnd (b :: rest)

def passColon (bytes : Bytes) : Except BodyFault Bytes :=
  match skipSpace bytes with
  | 58 :: rest => .ok rest
  | [] => refuseOn .endInObject []
  | other => refuseOn .expectedColon other

/-- Reads the members of an object as the fields of a record. Every call reads at least one
byte, so the number of bytes is fuel enough. -/
def readMembers (shape : RecordShape) (fuel : Nat) (named : List (String × FieldValue))
    (isFirst : Bool) (bytes : Bytes) : Except BodyFault (Fields × Bytes) :=
  match fuel with
  | 0 => refuse (.malformed .expectedValue) bytes
  | fuel + 1 =>
    match nextKey isFirst bytes with
    | .error fault => .error fault
    | .ok (none, rest) => (completeFields shape named rest).map (·, rest)
    | .ok (some key, rest) =>
      match shape.fields.lookup key with
      | some field =>
        if (named.lookup key).isSome then refuse (.duplicateField key) (afterClosing rest)
        else
          match passColon rest >>= fun rest => inField key (field.read rest) with
          | .error fault => .error fault
          | .ok (value, rest) => readMembers shape fuel ((key, value) :: named) false rest
      | none =>
        match passColon rest >>= fun rest => inField key (ofFault (Json.skimValue rest)) with
        | .error fault => .error fault
        | .ok rest => readMembers shape fuel named false rest

def readRecord (shape : RecordShape) (body : Bytes) : Except BodyFault Fields := do
  let start := skipSpace body
  let (fields, rest) ← match start with
    | 91 :: rest => readItems shape 0 rest shape.fields
    | 123 :: rest => readMembers shape (body.length + 1) [] true rest
    | other => refuseType ("struct " ++ shape.name) other
  ofFault (Json.scanEnd rest)
  return fields

/-! ## The requests -/

def startShape : RecordShape :=
  ⟨"StartRequest", [("path", .optionalText), ("depth", .optionalWord), ("logLevel", .optionalText)]⟩

def trackShape : RecordShape := ⟨"TrackRequest", [("jobId", .text)]⟩

def FieldValue.text? : FieldValue → Option String
  | .text s => some s
  | _ => none

def FieldValue.word? : FieldValue → Option UInt32
  | .word n => some n
  | _ => none

def readStartRequest (body : Bytes) : Except BodyFault StartRequest := do
  match ← readRecord startShape body with
  | [path, depth, logLevel] => return ⟨path.text?, depth.word?, logLevel.text?⟩
  | _ => return .empty

def readTrackRequest (body : Bytes) : Except BodyFault TrackRequest := do
  match ← readRecord trackShape body with
  | [jobId] => return ⟨⟨jobId.text?.getD ""⟩⟩
  | _ => return ⟨⟨""⟩⟩

end JobWatch.Http

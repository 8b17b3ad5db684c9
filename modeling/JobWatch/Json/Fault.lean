/-!
# Faults of JSON texts

A fault says what is wrong and which bytes were still unread when it was reported. The line and
the column follow from the number of bytes read: lines count from one, and the column is the
number of bytes read on the current line, so it is zero right after a line feed.
-/

set_option autoImplicit false

namespace JobWatch.Json

abbrev Bytes := List UInt8

inductive Flaw where
  | endInValue
  | endInList
  | endInObject
  | endInString
  | expectedValue
  | expectedWord
  | expectedColon
  | expectedListEnd
  | expectedObjectEnd
  | keyNotString
  | trailingComma
  | trailingCharacters
  | invalidNumber
  | numberOutOfRange
  | invalidEscape
  | controlCharacter
  | unfinishedEscape
  | loneSurrogate
  | invalidUnicode
  | tooDeep
  deriving DecidableEq, Repr

def Flaw.message : Flaw → String
  | .endInValue => "EOF while parsing a value"
  | .endInList => "EOF while parsing a list"
  | .endInObject => "EOF while parsing an object"
  | .endInString => "EOF while parsing a string"
  | .expectedValue => "expected value"
  | .expectedWord => "expected ident"
  | .expectedColon => "expected `:`"
  | .expectedListEnd => "expected `,` or `]`"
  | .expectedObjectEnd => "expected `,` or `\x7d`"
  | .keyNotString => "key must be a string"
  | .trailingComma => "trailing comma"
  | .trailingCharacters => "trailing characters"
  | .invalidNumber => "invalid number"
  | .numberOutOfRange => "number out of range"
  | .invalidEscape => "invalid escape"
  | .controlCharacter =>
    "control character (\\u0000-\\u001F) found while parsing a string"
  | .unfinishedEscape => "unexpected end of hex escape"
  | .loneSurrogate => "lone leading surrogate in hex escape"
  | .invalidUnicode => "invalid unicode code point"
  | .tooDeep => "recursion limit exceeded"

/-- A flaw with the bytes that were unread when it was reported. -/
structure Fault where
  flaw : Flaw
  rest : Bytes

/-- The result of reading a part of a text: its value and the bytes after it. -/
abbrev Scan (α : Type) := Except Fault (α × Bytes)

/-- A fault reported once everything before `rest` has been read. -/
def faultAt {α : Type} (flaw : Flaw) (rest : Bytes) : Except Fault α :=
  .error ⟨flaw, rest⟩

/-- A fault that points at the first byte of `rest`, or at the last byte of a text that ends
there. -/
def faultOn {α : Type} (flaw : Flaw) (rest : Bytes) : Except Fault α :=
  .error ⟨flaw, rest.tail⟩

structure Position where
  line : Nat
  column : Nat
  deriving DecidableEq, Repr

def Position.after (p : Position) (byte : UInt8) : Position :=
  if byte = 10 then ⟨p.line + 1, 0⟩ else ⟨p.line, p.column + 1⟩

/-- The place reached in a text when `rest` is still unread. -/
def Position.before (text rest : Bytes) : Position :=
  (text.take (text.length - rest.length)).foldl Position.after ⟨1, 0⟩

def Position.locate (p : Position) (message : String) : String :=
  message ++ " at line " ++ toString p.line ++ " column " ++ toString p.column

def Fault.message (fault : Fault) (text : Bytes) : String :=
  (Position.before text fault.rest).locate fault.flaw.message

end JobWatch.Json

/-!
# Bytes as text

A run of bytes is read one character at a time. A lead byte fixes how many continuation bytes
follow and the range of the first of them, so overlong forms, surrogates and values above
U+10FFFF break off at the earliest byte that rules them out. Lossy reading writes one
replacement character for each sequence that breaks off.
-/

set_option autoImplicit false

namespace JobWatch.Text.Utf8

def bytesOf (s : String) : List UInt8 := s.toUTF8.data.toList

def ofBytes? (bytes : List UInt8) : Option String := String.fromUTF8? ⟨bytes.toArray⟩

/-- A character that has begun: its bits so far, the continuation bytes it still needs, and
the range in which the next of them must lie. -/
structure Begun where
  bits : Nat
  needed : Nat
  low : Nat
  high : Nat

/-- What a byte means where a character may begin. -/
inductive Opening where
  | char (c : Char)
  | begun (b : Begun)
  | stray

def opening (byte : UInt8) : Opening :=
  let n := byte.toNat
  if n < 0x80 then .char (Char.ofNat n)
  else if n < 0xc2 then .stray
  else if n < 0xe0 then .begun ⟨n - 0xc0, 1, 0x80, 0xbf⟩
  else if n < 0xf0 then
    .begun ⟨n - 0xe0, 2, if n = 0xe0 then 0xa0 else 0x80, if n = 0xed then 0x9f else 0xbf⟩
  else if n < 0xf5 then
    .begun ⟨n - 0xf0, 3, if n = 0xf0 then 0x90 else 0x80, if n = 0xf4 then 0x8f else 0xbf⟩
  else .stray

/-- Reads a byte inside a character: the finished character or the longer beginning, and
nothing if the byte cannot stand there. -/
def Begun.extend? (b : Begun) (byte : UInt8) : Option Opening :=
  let n := byte.toNat
  if b.low ≤ n ∧ n ≤ b.high then
    let bits := b.bits * 64 + (n - 0x80)
    if b.needed ≤ 1 then some (.char (Char.ofNat bits))
    else some (.begun ⟨bits, b.needed - 1, 0x80, 0xbf⟩)
  else none

def replacement : Char := '\ufffd'

def decodeLossyFrom : Option Begun → List UInt8 → List Char
  | none, [] => []
  | some _, [] => [replacement]
  | begun, byte :: rest =>
    match begun.bind (·.extend? byte) with
    | some (.char c) => c :: decodeLossyFrom none rest
    | some (.begun b) => decodeLossyFrom (some b) rest
    | some .stray => replacement :: decodeLossyFrom none rest
    | none =>
      let broken := if begun.isSome then [replacement] else []
      match opening byte with
      | .char c => broken ++ c :: decodeLossyFrom none rest
      | .begun b => broken ++ decodeLossyFrom (some b) rest
      | .stray => broken ++ replacement :: decodeLossyFrom none rest

/-- Decodes bytes, writing one replacement character for each sequence that breaks off. -/
def decodeLossy (bytes : List UInt8) : String :=
  String.ofList (decodeLossyFrom none bytes)

/-- The number of bytes before the first sequence that breaks off, where `whole` bytes form
whole characters already and `inside` bytes belong to the unfinished one. -/
def wellFormedFrom (whole inside : Nat) : Option Begun → List UInt8 → Nat
  | _, [] => whole
  | begun, byte :: rest =>
    let step := match begun with
      | some b => b.extend? byte
      | none => some (opening byte)
    match step with
    | some (.char _) => wellFormedFrom (whole + inside + 1) 0 none rest
    | some (.begun b) => wellFormedFrom whole (inside + 1) (some b) rest
    | some .stray => whole
    | none => whole

/-- The length of the longest well-formed run of whole characters at the beginning. -/
def wellFormedLength (bytes : List UInt8) : Nat :=
  wellFormedFrom 0 0 none bytes

end JobWatch.Text.Utf8

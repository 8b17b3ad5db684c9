import JobWatch.Json.Basic
import JobWatch.Json.Fault
import JobWatch.Text.Hex
import JobWatch.Text.Utf8

/-!
# Scalars of JSON texts

Blanks, words, strings and numbers, each read from the front of a run of bytes. A number is
whole when it is written without point and exponent, is not negative zero and fits into 64
bits, signed or unsigned; any other number is a floating-point number. Only as many digits as
fit into 64 bits count; further digits before the point raise the exponent, and further digits
behind it are passed over.
-/

set_option autoImplicit false

namespace JobWatch.Json

def isSpace (b : UInt8) : Bool := b == 32 || b == 9 || b == 10 || b == 13

def skipSpace (bytes : Bytes) : Bytes := bytes.dropWhile isSpace

def isDigitByte (b : UInt8) : Bool := 48 ≤ b && b ≤ 57

def digitValue (b : UInt8) : Nat := b.toNat - 48

def startsWithDigit : Bytes → Bool
  | [] => false
  | b :: _ => isDigitByte b

/-- The letters of `null` after the first. -/
def nullTail : Bytes := [117, 108, 108]

def trueTail : Bytes := [114, 117, 101]

def falseTail : Bytes := [97, 108, 115, 101]

def scanWord : Bytes → Bytes → Except Fault Bytes
  | [], bytes => .ok bytes
  | _ :: _, [] => faultAt .endInValue []
  | letter :: letters, b :: rest =>
    if b = letter then scanWord letters rest else faultAt .expectedWord rest

/-! ## Strings -/

def shortEscape? (b : UInt8) : Option UInt8 :=
  if b = 34 then some 34
  else if b = 92 then some 92
  else if b = 47 then some 47
  else if b = 98 then some 8
  else if b = 102 then some 12
  else if b = 110 then some 10
  else if b = 114 then some 13
  else if b = 116 then some 9
  else none

def fourHex? (a b c d : UInt8) : Option Nat := do
  let a ← Text.hexByte? a
  let b ← Text.hexByte? b
  let c ← Text.hexByte? c
  let d ← Text.hexByte? d
  return ((a * 16 + b) * 16 + c) * 16 + d

/-- Whether a code unit is the first half of a pair. -/
def isLeadingHalf (n : Nat) : Bool := 0xd800 ≤ n && n ≤ 0xdbff

def isTrailingHalf (n : Nat) : Bool := 0xdc00 ≤ n && n ≤ 0xdfff

def joinHalves (leading trailing : Nat) : Nat :=
  0x10000 + (leading - 0xd800) * 0x400 + (trailing - 0xdc00)

/-- Puts the bytes of a code point in front of bytes kept in reverse. -/
def pushCodePoint (n : Nat) (reversed : Bytes) : Bytes :=
  (String.utf8EncodeChar (Char.ofNat n)).reverse ++ reversed

/-- Reads a string up to its closing quote; `reversed` holds the bytes of the text so far. -/
def scanStringBytes (reversed : Bytes) : Bytes → Scan Bytes
  | [] => faultAt .endInString []
  | b :: rest =>
    if b = 34 then .ok (reversed, rest)
    else if b = 92 then
      match rest with
      | [] => faultAt .endInString []
      | letter :: rest =>
        match shortEscape? letter with
        | some value => scanStringBytes (value :: reversed) rest
        | none =>
          if letter ≠ 117 then faultAt .invalidEscape rest
          else match rest with
            | a :: b :: c :: d :: rest =>
              match fourHex? a b c d with
              | none => faultAt .invalidEscape rest
              | some first =>
                if isTrailingHalf first then faultAt .loneSurrogate rest
                else if isLeadingHalf first then
                  match rest with
                  | [] => faultAt .endInString []
                  | slash :: rest =>
                    if slash ≠ 92 then faultAt .unfinishedEscape rest
                    else match rest with
                      | [] => faultAt .endInString []
                      | letter :: rest =>
                        if letter ≠ 117 then faultAt .unfinishedEscape rest
                        else match rest with
                          | a :: b :: c :: d :: rest =>
                            match fourHex? a b c d with
                            | none => faultAt .invalidEscape rest
                            | some second =>
                              if isTrailingHalf second then
                                scanStringBytes (pushCodePoint (joinHalves first second) reversed)
                                  rest
                              else faultAt .loneSurrogate rest
                          | _ => faultAt .endInString []
                else scanStringBytes (pushCodePoint first reversed) rest
            | _ => faultAt .endInString []
    else if b < 32 then faultAt .controlCharacter rest
    else scanStringBytes (b :: reversed) rest

/-- Reads a string from after its opening quote. When its bytes are no text, the fault lies as
far before the end of the string as the unescaped bytes reach from the first wrong one on. -/
def scanString (bytes : Bytes) : Scan String :=
  match scanStringBytes [] bytes with
  | .error fault => .error fault
  | .ok (reversed, rest) =>
    let unescaped := reversed.reverse
    match Text.Utf8.ofBytes? unescaped with
    | some text => .ok (text, rest)
    | none =>
      let wrong := unescaped.length - Text.Utf8.wellFormedLength unescaped
      faultAt .invalidUnicode (bytes.drop (bytes.length - rest.length - wrong))

/-! ## Numbers -/

/-- A significand must stay below this bound to take another digit. -/
def significandBound : Nat := UInt64.size

/-- Takes digits as long as the significand fits, and counts them. -/
def takeDigits (significand count : Nat) : Bytes → Nat × Nat × Bytes
  | [] => (significand, count, [])
  | b :: rest =>
    if isDigitByte b then
      let longer := significand * 10 + digitValue b
      if longer < significandBound then takeDigits longer (count + 1) rest
      else (significand, count, b :: rest)
    else (significand, count, b :: rest)

def scanFloat (negative : Bool) (significand : Nat) (exponent : Int) (rest : Bytes) :
    Scan Number :=
  match Binary64.ofDecimal? significand exponent with
  | none => faultAt .numberOutOfRange rest
  | some x => .ok (.float (if negative then x.negated else x), rest)

/-- A written exponent must stay within this bound to take another digit. -/
def exponentBound : Nat := 2147483647

def clampExponent (e : Int) : Int := max (-2147483648) (min e 2147483647)

/-- Reads the further digits of an exponent. An exponent that is too large makes the number
zero if it is negative or the significand is zero. -/
def scanExponentDigits (negative : Bool) (significand : Nat) (start : Int) (shrinks : Bool)
    (exponent : Nat) : Bytes → Scan Number
  | [] => finish []
  | b :: rest =>
    if isDigitByte b then
      let longer := exponent * 10 + digitValue b
      if longer ≤ exponentBound then
        scanExponentDigits negative significand start shrinks longer rest
      else if significand ≠ 0 ∧ !shrinks then faultAt .numberOutOfRange rest
      else
        .ok (.float (if negative then Binary64.zero.negated else .zero),
          rest.dropWhile isDigitByte)
    else finish (b :: rest)
where
  finish (rest : Bytes) : Scan Number :=
    let total := clampExponent (if shrinks then start - exponent else start + exponent)
    scanFloat negative significand total rest

def scanExponent (negative : Bool) (significand : Nat) (start : Int) (bytes : Bytes) :
    Scan Number :=
  let (shrinks, bytes) := match bytes with
    | 43 :: rest => (false, rest)
    | 45 :: rest => (true, rest)
    | other => (false, other)
  match bytes with
  | [] => faultAt .endInValue []
  | b :: rest =>
    if isDigitByte b then
      scanExponentDigits negative significand start shrinks (digitValue b) rest
    else faultAt .invalidNumber rest

def scanFractionEnd (negative : Bool) (significand : Nat) (exponent : Int) (bytes : Bytes) :
    Scan Number :=
  match bytes with
  | b :: rest =>
    if b = 101 ∨ b = 69 then scanExponent negative significand exponent rest
    else scanFloat negative significand exponent bytes
  | [] => scanFloat negative significand exponent []

def scanFraction (negative : Bool) (significand : Nat) (exponent : Int) (bytes : Bytes) :
    Scan Number :=
  let (longer, count, rest) := takeDigits significand 0 bytes
  if startsWithDigit rest then
    scanFractionEnd negative longer (exponent - count) (rest.dropWhile isDigitByte)
  else if count = 0 then
    match rest with
    | [] => faultOn .endInValue []
    | _ => faultOn .invalidNumber rest
  else scanFractionEnd negative longer (exponent - count) rest

/-- A whole number, or the floating-point number that stands for one that does not fit. -/
def wholeNumber (negative : Bool) (significand : Nat) : Number :=
  if !negative then .int significand
  else if significand = 0 ∨ Nat.pow 2 63 < significand then
    .float (Binary64.ofRatio significand 1).negated
  else .int (-(significand : Int))

def scanIntegerEnd (negative : Bool) (significand : Nat) (bytes : Bytes) : Scan Number :=
  match bytes with
  | b :: rest =>
    if b = 46 then scanFraction negative significand 0 rest
    else if b = 101 ∨ b = 69 then scanExponent negative significand 0 rest
    else .ok (wholeNumber negative significand, bytes)
  | [] => .ok (wholeNumber negative significand, [])

def scanNumber (negative : Bool) (bytes : Bytes) : Scan Number :=
  match bytes with
  | [] => faultAt .endInValue []
  | b :: rest =>
    if b = 48 then
      if startsWithDigit rest then faultOn .invalidNumber rest
      else scanIntegerEnd negative 0 rest
    else if isDigitByte b then
      let (significand, _, rest) := takeDigits (digitValue b) 0 rest
      if startsWithDigit rest then
        let surplus := rest.takeWhile isDigitByte
        let rest := rest.dropWhile isDigitByte
        match rest with
        | 46 :: fraction => scanFraction negative significand surplus.length fraction
        | _ => scanFractionEnd negative significand surplus.length rest
      else scanIntegerEnd negative significand rest
    else faultAt .invalidNumber rest

end JobWatch.Json

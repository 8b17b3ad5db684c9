import JobWatch.Text.Hex
import JobWatch.Text.Utf8

/-!
# Percent encoding

In a URL component the unreserved characters (ASCII letters and digits and `-`, `_`, `.`,
`~`) stand for themselves, and every other byte of a character's UTF-8 form is written as a
percent sign and two capital hexadecimal digits. Decoding leaves a percent sign that is not
followed by two hexadecimal digits as it is.
-/

set_option autoImplicit false

namespace JobWatch.Text.Percent

def isUnreserved (c : Char) : Bool :=
  c.isAlphanum || c == '-' || c == '_' || c == '.' || c == '~'

def escapeByte (b : UInt8) : List Char :=
  ['%', upperHexDigit (b.toNat / 16), upperHexDigit (b.toNat % 16)]

def encodeChar (c : Char) : List Char :=
  if isUnreserved c then [c] else (String.utf8EncodeChar c).flatMap escapeByte

def encode (s : String) : String :=
  String.ofList (s.toList.flatMap encodeChar)

def decodeBytes : List UInt8 → List UInt8
  | [] => []
  | b :: rest =>
    if b = 37 then
      match rest with
      | high :: low :: tail =>
        match hexByte? high, hexByte? low with
        | some h, some l => UInt8.ofNat (h * 16 + l) :: decodeBytes tail
        | _, _ => b :: decodeBytes (high :: low :: tail)
      | short => b :: short
    else b :: decodeBytes rest

/-- The text of a percent-encoded component, if its bytes are UTF-8. -/
def decode? (s : String) : Option String :=
  Utf8.ofBytes? (decodeBytes (Utf8.bytesOf s))

end JobWatch.Text.Percent

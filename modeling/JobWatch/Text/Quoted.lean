import JobWatch.Text.Graphic
import JobWatch.Text.Hex

/-!
# Quoted texts

A text shown inside a message stands in double quotes. The quote and the backslash are escaped,
four controls have short escapes, and every other hidden character is written by its code point
in braces. A single quote stays.
-/

set_option autoImplicit false

namespace JobWatch.Text

/-- The hexadecimal digits of a number without leading zeros. -/
def codePointHex (n : Nat) : List Char :=
  match (lowerHex 6 n).dropWhile (· == '0') with
  | [] => ['0']
  | digits => digits

def quotedChar (c : Char) : List Char :=
  match c with
  | '"' => ['\\', '"']
  | '\\' => ['\\', '\\']
  | '\t' => ['\\', 't']
  | '\r' => ['\\', 'r']
  | '\n' => ['\\', 'n']
  | c =>
    if c.toNat = 0 then ['\\', '0']
    else if Graphic.isHidden c then
      ['\\', 'u', '\x7b'] ++ codePointHex c.toNat ++ ['\x7d']
    else [c]

def quoted (s : String) : String :=
  String.ofList ('"' :: s.toList.flatMap quotedChar ++ ['"'])

end JobWatch.Text

import JobWatch.Json.Basic
import JobWatch.Number.Shortest
import JobWatch.Text.Hex

/-!
# JSON text

The compact text of a value has no blanks. A floating-point number has the fewest digits that
read back, and always a point or an exponent, so that it is read back as one: it is written
positionally from `10 ^ -5` up to below `10 ^ 16`, and with a signed exponent elsewhere. In a
string the quote, the backslash and the controls below U+0020 are escaped, and nothing else.
-/

set_option autoImplicit false

namespace JobWatch

namespace Binary64

def Decimal.text (d : Decimal) : String :=
  let digits := Nat.toDigits 10 d.digits
  let length := digits.length
  -- the place of the point, counted from before the first digit
  let point : Int := d.exponent + length
  if 0 < point ∧ point ≤ 16 then
    let before := point.toNat
    if length ≤ before then
      String.ofList (digits ++ List.replicate (before - length) '0' ++ ['.', '0'])
    else String.ofList (digits.take before ++ '.' :: digits.drop before)
  else if -5 < point ∧ point ≤ 0 then
    String.ofList ('0' :: '.' :: List.replicate point.natAbs '0' ++ digits)
  else
    let fraction := match digits.drop 1 with
      | [] => []
      | rest => '.' :: rest
    let sign := if 0 < point then '+' else '-'
    String.ofList (digits.take 1 ++ fraction ++ 'e' :: sign :: (point - 1).natAbs.repr.toList)

def text (x : Binary64) : String :=
  let magnitude := if x.isZero then "0.0" else x.shortest.text
  if x.isNegative then "-" ++ magnitude else magnitude

end Binary64

def Number.text : Number → String
  | .int n => toString n
  | .float x => x.text

namespace Json

def escapedChar (c : Char) : List Char :=
  match c with
  | '"' => ['\\', '"']
  | '\\' => ['\\', '\\']
  | '\n' => ['\\', 'n']
  | '\r' => ['\\', 'r']
  | '\t' => ['\\', 't']
  | c =>
    if c.toNat = 8 then ['\\', 'b']
    else if c.toNat = 12 then ['\\', 'f']
    else if c.toNat < 32 then '\\' :: 'u' :: Text.lowerHex 4 c.toNat
    else [c]

def stringText (s : String) : String :=
  String.ofList ('"' :: s.toList.flatMap escapedChar ++ ['"'])

mutual

/-- The compact text of a value, members in the order they stand. -/
def compact : Json → String
  | .null => "null"
  | .bool true => "true"
  | .bool false => "false"
  | .num n => n.text
  | .str s => stringText s
  | .arr items => "[" ++ String.intercalate "," (compactItems items) ++ "]"
  | .obj members => "\x7b" ++ String.intercalate "," (compactMembers members) ++ "\x7d"

def compactItems : List Json → List String
  | [] => []
  | v :: rest => v.compact :: compactItems rest

def compactMembers : List (String × Json) → List String
  | [] => []
  | (key, v) :: rest => (stringText key ++ ":" ++ v.compact) :: compactMembers rest

end

end Json

end JobWatch

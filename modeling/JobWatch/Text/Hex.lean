/-!
# Hexadecimal digits

Reading takes either case. Writing takes the case the format asks for.
-/

set_option autoImplicit false

namespace JobWatch.Text

def hexDigit? (c : Char) : Option Nat :=
  if '0' ≤ c ∧ c ≤ '9' then some (c.toNat - '0'.toNat)
  else if 'a' ≤ c ∧ c ≤ 'f' then some (c.toNat - 'a'.toNat + 10)
  else if 'A' ≤ c ∧ c ≤ 'F' then some (c.toNat - 'A'.toNat + 10)
  else none

/-- The value of a byte that is the code of a hexadecimal digit. -/
def hexByte? (b : UInt8) : Option Nat :=
  hexDigit? (Char.ofNat b.toNat)

def lowerHexDigit (n : Nat) : Char :=
  if n < 10 then Char.ofNat ('0'.toNat + n) else Char.ofNat ('a'.toNat + (n - 10))

def upperHexDigit (n : Nat) : Char :=
  if n < 10 then Char.ofNat ('0'.toNat + n) else Char.ofNat ('A'.toNat + (n - 10))

/-- The last `width` hexadecimal digits of a number, most significant first. -/
def lowerHex (width n : Nat) : List Char :=
  (List.range width).reverse.map fun i => lowerHexDigit (n / Nat.pow 16 i % 16)

end JobWatch.Text

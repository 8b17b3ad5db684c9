import JobWatch.Text.Hex

/-!
# Identifiers of events

An identifier has 128 bits. It is written as 32 small hexadecimal digits in groups of 8, 4, 4,
4 and 12. Reading takes either case, the digits without groups, and the grouped form in braces
or behind `urn:uuid:`.
-/

set_option autoImplicit false

namespace JobWatch

structure Uuid where
  value : BitVec 128
  deriving DecidableEq, Repr

namespace Uuid

def text (u : Uuid) : String :=
  let digits := Text.lowerHex 32 u.value.toNat
  let group := fun (start size : Nat) => (digits.drop start).take size
  String.ofList <|
    group 0 8 ++ '-' :: group 8 4 ++ '-' :: group 12 4 ++ '-' :: group 16 4 ++ '-' :: group 20 12

def ofDigits? (digits : List Char) : Option Uuid :=
  if digits.length = 32 then
    (digits.mapM Text.hexDigit?).map fun values =>
      ⟨BitVec.ofNat 128 (values.foldl (fun n d => n * 16 + d) 0)⟩
  else none

def ofGroups? (cs : List Char) : Option Uuid :=
  if cs.length = 36 ∧ cs[8]? = some '-' ∧ cs[13]? = some '-' ∧ cs[18]? = some '-' ∧
      cs[23]? = some '-' then
    let group := fun (start size : Nat) => (cs.drop start).take size
    ofDigits? (group 0 8 ++ group 9 4 ++ group 14 4 ++ group 19 4 ++ group 24 12)
  else none

/-- What stands before an identifier that is written as a name, in letters of either case. -/
def nameScheme : String := "urn:uuid:"

/-- Reads an identifier: its digits alone, or its groups, alone, in braces or as a name. -/
def parse? (s : String) : Option Uuid :=
  let cs := s.toList
  if cs.length = 32 then ofDigits? cs
  else if cs.length = 36 then ofGroups? cs
  else if cs.length = 38 ∧ cs.head? = some '\x7b' ∧ cs.getLast? = some '\x7d' then
    ofGroups? ((cs.drop 1).take 36)
  else if cs.length = 45 ∧ (cs.take 9).map Char.toLower = nameScheme.toList then ofGroups? (cs.drop 9)
  else none

end Uuid

end JobWatch

import JobWatch.Text.Hex

/-!
# Socket addresses

An address and a port. Four octets are decimal without leading zeros; eight groups are
hexadecimal, stand in brackets, may leave out one run of zero groups and may end in four octets.
In writing, the longest run of at least two zero groups is left out, the first one of several.
-/

set_option autoImplicit false

namespace JobWatch

inductive SocketAddress where
  | v4 (octets : List Nat) (port : Nat)
  | v6 (groups : List Nat) (scope : Nat) (port : Nat)
  deriving DecidableEq, Repr

namespace SocketAddress

/-! ## Reading -/

def digitIn? (base : Nat) (c : Char) : Option Nat :=
  (Text.hexDigit? c).filter (· < base)

def digitRun (base : Nat) (cs : List Char) : List Nat × List Char :=
  let run := cs.takeWhile fun c => (digitIn? base c).isSome
  (run.filterMap (digitIn? base), cs.drop run.length)

def digitsValue (base : Nat) (digits : List Nat) : Nat :=
  digits.foldl (fun n d => n * base + d) 0

/-- A number below a bound, of any length. -/
def number? (base bound : Nat) (cs : List Char) : Option (Nat × List Char) :=
  let (digits, rest) := digitRun base cs
  let value := digitsValue base digits
  if digits.isEmpty ∨ bound ≤ value then none else some (value, rest)

/-- An octet: at most three decimal digits, no leading zero. -/
def octet? (cs : List Char) : Option (Nat × List Char) :=
  let (digits, _) := digitRun 10 cs
  if 3 < digits.length ∨ (digits.head? = some 0 ∧ 1 < digits.length) then none
  else number? 10 256 cs

/-- A group: at most four hexadecimal digits. -/
def group? (cs : List Char) : Option (Nat × List Char) :=
  let (digits, _) := digitRun 16 cs
  if 4 < digits.length then none else number? 16 65536 cs

def mark? (c : Char) : List Char → Option (List Char)
  | head :: rest => if head = c then some rest else none
  | [] => none

def octets? (cs : List Char) : Option (List Nat × List Char) := do
  let (a, rest) ← octet? cs
  let rest ← mark? '.' rest
  let (b, rest) ← octet? rest
  let rest ← mark? '.' rest
  let (c, rest) ← octet? rest
  let rest ← mark? '.' rest
  let (d, rest) ← octet? rest
  return ([a, b, c, d], rest)

/-- The groups at the front, read up to the first place where no group follows. -/
structure Groups where
  groups : List Nat
  endsInOctets : Bool
  rest : List Char

/-- Reads up to `room` groups with colons between them; the last two may be four octets. -/
def takeGroups (isFirst : Bool) (cs : List Char) : Nat → Groups
  | 0 => ⟨[], false, cs⟩
  | room + 1 =>
    let start := if isFirst then some cs else mark? ':' cs
    let octets := if 0 < room then start.bind octets? else none
    match octets with
    | some ([a, b, c, d], rest) => ⟨[a * 256 + b, c * 256 + d], true, rest⟩
    | _ =>
      match start.bind group? with
      | none => ⟨[], false, cs⟩
      | some (group, rest) =>
        let more := takeGroups false rest room
        ⟨group :: more.groups, more.endsInOctets, more.rest⟩

/-- Eight groups, a run of them left out or not. -/
def groups? (cs : List Char) : Option (List Nat × List Char) :=
  let head := takeGroups true cs 8
  if head.groups.length = 8 then some (head.groups, head.rest)
  else if head.endsInOctets then none
  else do
    let rest ← mark? ':' head.rest
    let rest ← mark? ':' rest
    let tail := takeGroups true rest (7 - head.groups.length)
    let left := 8 - head.groups.length - tail.groups.length
    return (head.groups ++ List.replicate left 0 ++ tail.groups, tail.rest)

def port? (cs : List Char) : Option Nat := do
  let rest ← mark? ':' cs
  let (port, rest) ← number? 10 65536 rest
  if rest.isEmpty then return port else none

def parseV4? (cs : List Char) : Option SocketAddress := do
  let (octets, rest) ← octets? cs
  return .v4 octets (← port? rest)

/-- Eight groups in brackets, with an optional scope, and a port. -/
def parseV6? (cs : List Char) : Option SocketAddress := do
  let rest ← mark? '[' cs
  let (groups, rest) ← groups? rest
  let (scope, rest) ← match rest with
    | '%' :: digits => number? 10 UInt32.size digits
    | other => some (0, other)
  let rest ← mark? ']' rest
  return .v6 groups scope (← port? rest)

def parse? (s : String) : Option SocketAddress :=
  (parseV4? s.toList).or (parseV6? s.toList)

/-! ## Writing -/

def octetsText (octets : List Nat) : String :=
  String.intercalate "." (octets.map toString)

def groupText (group : Nat) : String :=
  match (Text.lowerHex 4 group).dropWhile (· == '0') with
  | [] => "0"
  | digits => String.ofList digits

def groupsText (groups : List Nat) : String :=
  String.intercalate ":" (groups.map groupText)

def leadingZeros (groups : List Nat) : Nat := (groups.takeWhile (· == 0)).length

/-- The start and the length of the longest run of zero groups, the first one of several. -/
def longestZeros (groups : List Nat) : Nat × Nat :=
  (List.range groups.length).foldl
    (fun best start =>
      let length := leadingZeros (groups.drop start)
      if best.2 < length then (start, length) else best)
    (0, 0)

def addressText (groups : List Nat) : String :=
  match groups with
  | [0, 0, 0, 0, 0, 0xffff, high, low] =>
    "::ffff:" ++ octetsText [high / 256, high % 256, low / 256, low % 256]
  | _ =>
    let (start, length) := longestZeros groups
    if 1 < length then
      groupsText (groups.take start) ++ "::" ++ groupsText (groups.drop (start + length))
    else groupsText groups

def text : SocketAddress → String
  | .v4 octets port => octetsText octets ++ ":" ++ toString port
  | .v6 groups scope port =>
    let zone := if scope = 0 then "" else "%" ++ toString scope
    "[" ++ addressText groups ++ zone ++ "]:" ++ toString port

end SocketAddress

end JobWatch

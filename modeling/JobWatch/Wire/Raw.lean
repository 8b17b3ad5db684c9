import JobWatch.Json.Reader
import JobWatch.Json.Skim

/-!
# JSON as it was written

A typed reader looks only at the members it knows and passes over the rest. So a text is first
taken as a tree in which a string or a number that stands for nothing (half a surrogate pair, an
exponent out of range) is a hole, and in which nesting has no limit. Where a value itself is
wanted, the tree must be free of holes and within the limit.
-/

set_option autoImplicit false

namespace JobWatch

/-- A JSON text as a tree, with holes for strings and numbers that stand for nothing. -/
inductive Raw where
  | null
  | bool (value : Bool)
  | num (value : Option Number)
  | str (value : Option String)
  | arr (items : List Raw)
  | obj (members : List (Option String × Raw))
  deriving Inhabited

namespace Raw

open Json (Bytes Scan faultAt faultOn skipSpace)

def scanned? {α : Type} : Scan α → Option α
  | .ok (a, _) => some a
  | .error _ => none

mutual

/-- Reads a tree. Every call reads at least one byte, so the number of bytes is fuel enough. -/
def scan (fuel : Nat) (bytes : Bytes) : Scan Raw :=
  match fuel with
  | 0 => faultAt .expectedValue bytes
  | fuel + 1 =>
    let bytes := skipSpace bytes
    match bytes with
    | [] => faultOn .endInValue []
    | b :: rest =>
      if b = 110 then (Json.scanWord Json.nullTail rest).map (.null, ·)
      else if b = 116 then (Json.scanWord Json.trueTail rest).map (.bool true, ·)
      else if b = 102 then (Json.scanWord Json.falseTail rest).map (.bool false, ·)
      else if b = 45 then
        (Json.skimNumber rest).map (.num (scanned? (Json.scanNumber true rest)), ·)
      else if Json.isDigitByte b then
        (Json.skimNumber bytes).map (.num (scanned? (Json.scanNumber false bytes)), ·)
      else if b = 34 then
        (Json.skimString rest).map (.str (scanned? (Json.scanString rest)), ·)
      else if b = 91 then scanItems fuel [] rest
      else if b = 123 then scanMembers fuel [] rest
      else faultOn .expectedValue bytes

/-- Reads the items of an array up to its end; `reversed` holds those before. -/
def scanItems (fuel : Nat) (reversed : List Raw) (bytes : Bytes) : Scan Raw :=
  match fuel with
  | 0 => faultAt .expectedValue bytes
  | fuel + 1 =>
    match skipSpace bytes with
    | [] => faultOn .endInList []
    | b :: rest =>
      if b = 93 then .ok (.arr reversed.reverse, rest)
      else if b = 44 ∧ !reversed.isEmpty then
        match scan fuel rest with
        | .error e => .error e
        | .ok (v, rest) => scanItems fuel (v :: reversed) rest
      else if reversed.isEmpty then
        match scan fuel (b :: rest) with
        | .error e => .error e
        | .ok (v, rest) => scanItems fuel [v] rest
      else faultOn .expectedListEnd (b :: rest)

def scanMembers (fuel : Nat) (reversed : List (Option String × Raw)) (bytes : Bytes) :
    Scan Raw :=
  match fuel with
  | 0 => faultAt .expectedValue bytes
  | fuel + 1 =>
    match skipSpace bytes with
    | [] => faultOn .endInObject []
    | b :: rest =>
      if b = 125 then .ok (.obj reversed.reverse, rest)
      else if b = 44 ∧ !reversed.isEmpty then
        match scanMember fuel rest with
        | .error e => .error e
        | .ok (member, rest) => scanMembers fuel (member :: reversed) rest
      else if reversed.isEmpty then
        match scanMember fuel (b :: rest) with
        | .error e => .error e
        | .ok (member, rest) => scanMembers fuel [member] rest
      else faultOn .expectedObjectEnd (b :: rest)

def scanMember (fuel : Nat) (bytes : Bytes) : Scan (Option String × Raw) :=
  match fuel with
  | 0 => faultAt .expectedValue bytes
  | fuel + 1 =>
    match skipSpace bytes with
    | 34 :: rest =>
      match Json.skimString rest with
      | .error e => .error e
      | .ok after =>
        match skipSpace after with
        | 58 :: value =>
          match scan fuel value with
          | .error e => .error e
          | .ok (v, rest') => .ok ((scanned? (Json.scanString rest), v), rest')
        | other => faultOn .expectedColon other
    | other => faultOn .keyNotString other

end

def ofText? (text : String) : Option Raw :=
  let bytes := Text.Utf8.bytesOf text
  match scan (2 * bytes.length + 2) bytes with
  | .error _ => none
  | .ok (tree, rest) =>
    match Json.scanEnd rest with
    | .error _ => none
    | .ok _ => some tree

mutual

def ofJson : Json → Raw
  | .null => .null
  | .bool b => .bool b
  | .num n => .num (some n)
  | .str s => .str (some s)
  | .arr items => .arr (ofItems items)
  | .obj members => .obj (ofMembers members)

def ofItems : List Json → List Raw
  | [] => []
  | v :: rest => ofJson v :: ofItems rest

def ofMembers : List (String × Json) → List (Option String × Raw)
  | [] => []
  | (key, v) :: rest => (some key, ofJson v) :: ofMembers rest

end

abbrev Limit := Option Nat

def deeper? : Limit → Option Limit
  | none => some none
  | some 0 => none
  | some (n + 1) => some (some n)

mutual

/-- The value of a tree without holes that nests within a limit. -/
def value? (limit : Limit) : Raw → Option Json
  | .null => some .null
  | .bool b => some (.bool b)
  | .num n => n.map .num
  | .str s => s.map .str
  | .arr items => (deeper? limit).bind fun inner => (itemValues? inner items).map .arr
  | .obj members => (deeper? limit).bind fun inner => (memberValues? inner members).map .obj

def itemValues? (limit : Limit) : List Raw → Option (List Json)
  | [] => some []
  | v :: rest =>
    (value? limit v).bind fun head => (itemValues? limit rest).map (head :: ·)

def memberValues? (limit : Limit) : List (Option String × Raw) → Option (List (String × Json))
  | [] => some []
  | (key, v) :: rest =>
    key.bind fun key => (value? limit v).bind fun head =>
      (memberValues? limit rest).map ((key, head) :: ·)

end

mutual

/-- Every value is recovered from the tree it is written by. -/
@[simp] theorem value?_ofJson : ∀ v : Json, value? none (ofJson v) = some v
  | .null => rfl
  | .bool _ => rfl
  | .num _ => rfl
  | .str _ => rfl
  | .arr items => by simp [ofJson, value?, deeper?, itemValues?_ofItems items]
  | .obj members => by simp [ofJson, value?, deeper?, memberValues?_ofMembers members]

theorem itemValues?_ofItems : ∀ items : List Json,
    itemValues? none (ofItems items) = some items
  | [] => rfl
  | v :: rest => by simp [ofItems, itemValues?, value?_ofJson v, itemValues?_ofItems rest]

theorem memberValues?_ofMembers : ∀ members : List (String × Json),
    memberValues? none (ofMembers members) = some members
  | [] => rfl
  | (_, v) :: rest => by
    simp [ofMembers, memberValues?, value?_ofJson v, memberValues?_ofMembers rest]

end

end Raw

end JobWatch

import JobWatch.Number.Binary64

/-!
# JSON values

Payloads are arbitrary JSON and are passed on as they came. A number is a whole number or a
binary floating-point number, and the two are never confused: `1` and `1.0` differ. An object
keeps its members in the order they came; where a key is repeated the last member counts.
-/

set_option autoImplicit false

namespace JobWatch

/-- A JSON number: a whole number, or a floating-point number of 64 bits. -/
inductive Number where
  | int (value : Int)
  | float (value : Binary64)
  deriving DecidableEq, Repr

inductive Json where
  | null
  | bool (value : Bool)
  | num (value : Number)
  | str (value : String)
  | arr (items : List Json)
  | obj (members : List (String × Json))
  deriving Repr, Inhabited

namespace Json

/-- The value under a key, the last one if the key is repeated. -/
def lookup? (key : String) (members : List (String × Json)) : Option Json :=
  (members.findRev? fun member => member.1 == key).map Prod.snd

def members? : Json → Option (List (String × Json))
  | .obj members => some members
  | _ => none

def text? : Json → Option String
  | .str s => some s
  | _ => none

/-- The value under a key of an object; a value of another kind has none. -/
def get? (v : Json) (key : String) : Option Json :=
  v.members?.bind (lookup? key)

def isNull : Json → Bool
  | .null => true
  | _ => false

def isObject : Json → Bool
  | .obj _ => true
  | _ => false

def ofNat (n : Nat) : Json := .num (.int n)

def ofOption {α : Type} (f : α → Json) : Option α → Json
  | none => .null
  | some a => f a

@[simp] theorem get?_obj (members : List (String × Json)) (key : String) :
    (Json.obj members).get? key = lookup? key members := rfl

/-- Replaces the member with this key, or puts the member where it belongs in key order. -/
def insertMember (member : String × Json) : List (String × Json) → List (String × Json)
  | [] => [member]
  | head :: tail =>
    if member.1 = head.1 then member :: tail
    else if member.1 < head.1 then member :: head :: tail
    else head :: insertMember member tail

/-- Members in ascending key order with the last of each repeated key. -/
def sortMembers (members : List (String × Json)) : List (String × Json) :=
  members.foldl (fun sorted member => insertMember member sorted) []

mutual

/-- A value with the members of every object in key order and without repeated keys. -/
def canonical : Json → Json
  | .arr items => .arr (canonicalItems items)
  | .obj members => .obj (sortMembers (canonicalMembers members))
  | v => v

def canonicalItems : List Json → List Json
  | [] => []
  | v :: rest => v.canonical :: canonicalItems rest

def canonicalMembers : List (String × Json) → List (String × Json)
  | [] => []
  | (key, v) :: rest => (key, v.canonical) :: canonicalMembers rest

end

end Json

end JobWatch

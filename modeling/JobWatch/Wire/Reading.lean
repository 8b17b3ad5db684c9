import JobWatch.Wire.Raw

/-!
# Reading typed data

Records are read from objects by the names of their fields, or from arrays that hold every field
in order. A field that is named twice refuses the record; a member with another name is passed
over. A choice without data is read from its name, or from an object with that name and `null`.
A choice with a tag is held back as a whole until its tag is known, so no part of it may be a
hole.
-/

set_option autoImplicit false

namespace JobWatch

/-- How a tree is read: the nesting that is left, and whether the tree was held back until a tag
was known. -/
structure Reading where
  limit : Raw.Limit
  held : Bool

namespace Reading

def ofText : Reading := ⟨some (Json.nestingLimit - 1), false⟩

def ofValue : Reading := ⟨none, false⟩

def deeper? (r : Reading) : Option Reading :=
  (Raw.deeper? r.limit).map fun limit => { r with limit }

@[simp] theorem deeper?_unlimited (held : Bool) :
    deeper? ⟨none, held⟩ = some ⟨none, held⟩ := rfl

end Reading

namespace Raw

def text? : Raw → Option String
  | .str s => s
  | _ => none

def bool? : Raw → Option Bool
  | .bool b => some b
  | _ => none

def below? (bound : Nat) : Raw → Option Nat
  | .num (some (.int (.ofNat n))) => if n < bound then some n else none
  | _ => none

def word? (raw : Raw) : Option UInt32 := (raw.below? UInt32.size).map UInt32.ofNat

def optional? {α : Type} (read : Raw → Option α) : Raw → Option (Option α)
  | .null => some none
  | raw => (read raw).map some

def choice? (r : Reading) : Raw → Option String
  | .str s => s
  | .obj [(some name, value)] =>
    r.deeper?.bind fun _ =>
      match value with
      | .null => some name
      | .obj [] => if r.held then some name else none
      | _ => none
  | _ => none

/-- The one member with a name: nothing inside if there is none, a refusal if there are two. -/
def member? (name : String) (members : List (Option String × Raw)) : Option (Option Raw) :=
  match members.filter fun member => member.1 == some name with
  | [] => some none
  | [member] => some (some member.2)
  | _ => none

def fields? (r : Reading) (names : List String) (raw : Raw) :
    Option (Reading × List (Option Raw)) :=
  match raw with
  | .obj members =>
    r.deeper?.bind fun inner =>
      if members.all fun member => member.1.isSome then
        (names.mapM fun name => member? name members).map (inner, ·)
      else none
  | .arr items =>
    r.deeper?.bind fun inner =>
      if items.length = names.length then some (inner, items.map some) else none
  | _ => none

def required? {α : Type} (read : Raw → Option α) (field : Option Raw) : Option α :=
  field.bind read

def optionalField? {α : Type} (read : Raw → Option α) : Option Raw → Option (Option α)
  | none => some none
  | some raw => raw.optional? read

def tagKey : String := "type"

/-- The number of the choice that a tag names. A tag that was itself held back may also give the
number. -/
def tagIndex? (held : Bool) (names : List String) : Raw → Option Nat
  | .str (some name) => names.findIdx? (· == name)
  | .num (some (.int (.ofNat n))) => if held ∧ n < names.length then some n else none
  | _ => none

/-- Splits a tagged choice into the number of its tag and the rest of its members or items. -/
def tagged? (held : Bool) (names : List String) : Raw → Option (Nat × Raw)
  | .obj members =>
    (member? tagKey members).bind fun tag =>
      (tag.bind (tagIndex? held names)).map fun index =>
        (index, .obj (members.filter fun member => member.1 != some tagKey))
  | .arr (tag :: rest) => (tagIndex? held names tag).map fun index => (index, .arr rest)
  | _ => none

/-- A tagged choice is held back as a whole: it must have a value. -/
def hold? (r : Reading) (raw : Raw) : Option Raw :=
  if r.held then some raw else (raw.value? r.limit).map fun _ => raw

/-- A choice without data takes members that nobody asked for, but no items. -/
def noFields? : Raw → Option Unit
  | .obj _ => some ()
  | .arr [] => some ()
  | _ => none

end Raw

end JobWatch

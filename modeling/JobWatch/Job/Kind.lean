import JobWatch.Text.Blank

/-!
# Kinds of jobs

The tracker watches two kinds of jobs, at most one job of each at a time. What is kept apart by
kind is a pair with one part for each, so a change to one part leaves the other alone.
-/

set_option autoImplicit false

namespace JobWatch

inductive Kind where
  | findIssues
  | catalogAi
  deriving DecidableEq, Repr

namespace Kind

/-- Every kind, in the order in which kinds are visited. -/
def all : List Kind := [.findIssues, .catalogAi]

/-- The name of a kind on the wire, in URLs and in cache keys. -/
def name : Kind → String
  | .findIssues => "find_issues"
  | .catalogAi => "catalog_ai"

def historyPartition : Kind → String
  | .findIssues => "findings"
  | .catalogAi => "catalog"

def other : Kind → Kind
  | .findIssues => .catalogAi
  | .catalogAi => .findIssues

def ofName? (name : String) : Option Kind :=
  if name = "find_issues" then some .findIssues
  else if name = "catalog_ai" then some .catalogAi
  else none

/-- Reads a kind as people write it: blanks around it and the case of letters do not count, and
a hyphen stands for an underscore. -/
def parse? (raw : String) : Option Kind :=
  let letters := (Text.asciiLower (Text.trim raw)).toList
  ofName? (String.ofList (letters.map fun c => if c = '-' then '_' else c))

def unknownMessage (raw : String) : String := "unknown job kind: " ++ raw

@[simp] theorem ofName?_name (k : Kind) : ofName? k.name = some k := by
  cases k <;> decide

@[simp] theorem other_other (k : Kind) : k.other.other = k := by cases k <;> rfl

end Kind

structure PerKind (α : Type) where
  findIssues : α
  catalogAi : α
  deriving DecidableEq, Repr

namespace PerKind

variable {α : Type}

def both (a : α) : PerKind α := ⟨a, a⟩

def get (p : PerKind α) : Kind → α
  | .findIssues => p.findIssues
  | .catalogAi => p.catalogAi

def set (p : PerKind α) (k : Kind) (a : α) : PerKind α :=
  match k with
  | .findIssues => { p with findIssues := a }
  | .catalogAi => { p with catalogAi := a }

def modify (p : PerKind α) (k : Kind) (f : α → α) : PerKind α := p.set k (f (p.get k))

@[simp] theorem get_both (a : α) (k : Kind) : (both a).get k = a := by cases k <;> rfl

@[simp] theorem get_set_self (p : PerKind α) (k : Kind) (a : α) : (p.set k a).get k = a := by
  cases k <;> rfl

theorem get_set_of_ne (p : PerKind α) {k l : Kind} (a : α) (different : l ≠ k) :
    (p.set k a).get l = p.get l := by
  cases k <;> cases l <;> first | rfl | exact absurd rfl different

theorem get_set (p : PerKind α) (k l : Kind) (a : α) :
    (p.set k a).get l = if l = k then a else p.get l := by
  cases k <;> cases l <;> rfl

@[simp] theorem get_modify_self (p : PerKind α) (k : Kind) (f : α → α) :
    (p.modify k f).get k = f (p.get k) := get_set_self ..

@[simp] theorem set_get (p : PerKind α) (k : Kind) : p.set k (p.get k) = p := by
  cases k <;> rfl

end PerKind

end JobWatch

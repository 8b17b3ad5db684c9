/-!
# Content types

A content type is a type, a subtype with an optional suffix behind a plus sign, and parameters.
Bodies of requests must be JSON: `application/json`, or an application type with the suffix
`json`. The case of letters does not count.
-/

set_option autoImplicit false

namespace JobWatch.Http

def isTokenChar (c : Char) : Bool :=
  c.isAlphanum || "!#$%&'*+-.^_`|~".toList.contains c

def isQuotedChar (c : Char) : Bool := 31 < c.toNat && c.toNat < 127

/-- Checks the parameters of a content type, from after a semicolon. Each call reads at least
one character, so the number of characters is fuel enough. -/
def areParameters (fuel : Nat) (cs : List Char) : Bool :=
  match fuel with
  | 0 => false
  | fuel + 1 =>
    match cs with
    | [] => true
    | ' ' :: rest => areParameters fuel rest
    | _ =>
      let name := cs.takeWhile isTokenChar
      match cs.drop name.length with
      | '=' :: value =>
        if name.isEmpty then false
        else
          match value with
          | '"' :: first :: inside =>
            -- a quoted value has at least one character, whichever it is
            let text := inside.takeWhile fun c => isQuotedChar c && c != '"'
            match inside.drop text.length with
            | '"' :: after =>
              match after.dropWhile (· == ' ') with
              | [] => isQuotedChar first
              | ';' :: rest => isQuotedChar first && areParameters fuel rest
              | _ => false
            | _ => false
          | _ =>
            let text := value.takeWhile isTokenChar
            match value.drop text.length with
            | [] => true
            | ';' :: rest => !text.isEmpty && areParameters fuel rest
            | _ => false
      | _ => false

/-- A content type without its parameters, in small letters. -/
structure ContentType where
  type : String
  subtype : String
  suffix : Option String
  deriving DecidableEq, Repr

/-- A subtype and the suffix behind its last plus sign. -/
def splitSuffix (subtype : List Char) : List Char × Option (List Char) :=
  let suffix := (subtype.reverse.takeWhile (· != '+')).reverse
  let before := subtype.take (subtype.length - suffix.length - 1)
  if suffix.length < subtype.length && !before.isEmpty then (before, some suffix)
  else (subtype, none)

def ContentType.parse? (s : String) : Option ContentType :=
  let cs := s.toList.map Char.toLower
  let type := cs.takeWhile isTokenChar
  match cs.drop type.length with
  | '/' :: rest =>
    let subtype := rest.takeWhile isTokenChar
    let parameters := rest.drop subtype.length
    let isWhole := match parameters with
      | [] => true
      | ';' :: after => !subtype.isEmpty && areParameters (after.length + 1) after
      | _ => false
    if type.isEmpty || !isWhole then none
    else
      let (name, suffix) := splitSuffix subtype
      some ⟨String.ofList type, String.ofList name, suffix.map String.ofList⟩
  | _ => none

def ContentType.isJson (t : ContentType) : Bool :=
  t.type == "application" && (t.subtype == "json" || t.suffix == some "json")

end JobWatch.Http

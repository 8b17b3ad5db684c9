/-!
# Blank characters and trimming

A character is blank when Unicode gives it the property `White_Space`. Names, tokens and
status texts are trimmed of blanks on both sides before they are read, and letters are compared
without regard to case in the ASCII range only.
-/

set_option autoImplicit false

namespace JobWatch.Text

/-- The characters that Unicode calls white space. -/
def isBlank (c : Char) : Bool :=
  let n := c.toNat
  (0x09 ≤ n && n ≤ 0x0d) || n == 0x20 || n == 0x85 || n == 0xa0 || n == 0x1680 ||
    (0x2000 ≤ n && n ≤ 0x200a) || n == 0x2028 || n == 0x2029 || n == 0x202f ||
    n == 0x205f || n == 0x3000

def dropEndWhile (p : Char → Bool) (cs : List Char) : List Char :=
  (cs.reverse.dropWhile p).reverse

def trimWhile (p : Char → Bool) (cs : List Char) : List Char :=
  dropEndWhile p (cs.dropWhile p)

def trim (s : String) : String :=
  String.ofList (trimWhile isBlank s.toList)

/-- A text in which every character is blank; the empty text is one. -/
def isBlankText (s : String) : Bool :=
  s.toList.all isBlank

/-- A text with its ASCII capitals made small; other letters stay. -/
def asciiLower (s : String) : String :=
  String.ofList (s.toList.map Char.toLower)

@[simp] theorem dropEndWhile_nil (p : Char → Bool) : dropEndWhile p [] = [] := rfl

@[simp] theorem trim_empty : trim "" = "" := by decide

end JobWatch.Text

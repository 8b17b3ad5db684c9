import JobWatch.Text.Blank
import JobWatch.Time.Calendar

/-!
# Timestamps

A timestamp is a moment in UTC to the nanosecond. It is written as a date, `T`, a time of day
with as many fractional digits as it needs in groups of three, and `Z`. Reading is generous:
blanks may stand before numbers and signs, numbers may be short, and any offset is taken and
converted. A leap second is kept as the second before it with a full extra second of
nanoseconds.
-/

set_option autoImplicit false

namespace JobWatch

/-- A moment: whole seconds since the first of January 1970 and nanoseconds on top. In a leap
second the nanoseconds are `10 ^ 9` or more. -/
structure Timestamp where
  seconds : Int
  nanos : Nat
  deriving DecidableEq, Repr

namespace Timestamp

def ofMillis (millis : Int) : Timestamp :=
  ⟨millis / 1000, (millis % 1000).toNat * 1000000⟩

def toNanos (t : Timestamp) : Int := t.seconds * 1000000000 + t.nanos

/-- The nanoseconds that have passed since an earlier moment; none if it is not earlier. -/
def elapsedSince (now earlier : Timestamp) : Nat := (now.toNanos - earlier.toNanos).toNat

/-! ## Writing -/

def padded (width n : Nat) : List Char :=
  let digits := Nat.toDigits 10 n
  List.replicate (width - digits.length) '0' ++ digits

/-- A year: four digits, and with a sign outside the years 0 to 9999. -/
def yearText (year : Int) : List Char :=
  if 0 ≤ year ∧ year ≤ 9999 then padded 4 year.natAbs
  else (if year < 0 then '-' else '+') :: padded 4 year.natAbs

/-- A fraction of a second: none, or three, six or nine digits. -/
def fractionText (nanos : Nat) : List Char :=
  if nanos = 0 then []
  else if nanos % 1000000 = 0 then '.' :: padded 3 (nanos / 1000000)
  else if nanos % 1000 = 0 then '.' :: padded 6 (nanos / 1000)
  else '.' :: padded 9 nanos

def text (t : Timestamp) : String :=
  let date := Date.ofDays (t.seconds / 86400)
  let second := (t.seconds % 86400).toNat
  let leap := 1000000000 ≤ t.nanos
  let shown := second % 60 + (if leap then 1 else 0)
  let nanos := if leap then t.nanos - 1000000000 else t.nanos
  String.ofList <|
    yearText date.year ++ '-' :: padded 2 date.month ++ '-' :: padded 2 date.day ++
      'T' :: padded 2 (second / 3600) ++ ':' :: padded 2 (second / 60 % 60) ++
      ':' :: padded 2 shown ++ fractionText nanos ++ ['Z']

/-! ## Reading -/

abbrev Part (α : Type) := Option (α × List Char)

def skipBlanks (cs : List Char) : List Char := cs.dropWhile Text.isBlank

/-- Takes up to `limit` digits; at least one is needed. -/
def digits? (limit : Nat) (cs : List Char) : Part Nat :=
  let taken := (cs.take limit).takeWhile Char.isDigit
  if taken.isEmpty then none
  else
    some (taken.foldl (fun n c => n * 10 + (c.toNat - '0'.toNat)) 0, cs.drop taken.length)

def pair? (cs : List Char) : Part Nat := digits? 2 (skipBlanks cs)

/-- A year after blanks: with a sign it may have any number of digits, else at most four. -/
def year? (cs : List Char) : Part Int :=
  match skipBlanks cs with
  | '-' :: rest => (digits? rest.length rest).map fun (n, rest) => (-(n : Int), rest)
  | '+' :: rest => (digits? rest.length rest).map fun (n, rest) => ((n : Int), rest)
  | cs => (digits? 4 cs).map fun (n, rest) => ((n : Int), rest)

def separator? (c : Char) (cs : List Char) : Option (List Char) :=
  match skipBlanks cs with
  | head :: rest => if head = c then some rest else none
  | [] => none

/-- An optional fraction of a second in nanoseconds; digits after the ninth do not count. -/
def fraction? (cs : List Char) : Part Nat :=
  match cs with
  | '.' :: rest =>
    let taken := (rest.take 9).takeWhile Char.isDigit
    (digits? 9 rest).map fun (n, after) =>
      (n * Nat.pow 10 (9 - taken.length), after.dropWhile Char.isDigit)
  | _ => some (0, cs)

def twoDigits? : List Char → Part Nat
  | a :: b :: rest =>
    if a.isDigit && b.isDigit then
      some ((a.toNat - '0'.toNat) * 10 + (b.toNat - '0'.toNat), rest)
    else none
  | _ => none

/-- The seconds of an offset of hours and minutes, from after its sign. -/
def clockOffset? (cs : List Char) : Option (Nat × List Char) := do
  let (hours, rest) ← twoDigits? cs
  let (minutes, rest) ← twoDigits? (rest.dropWhile fun c => c == ':' || Text.isBlank c)
  if 60 ≤ minutes then none
  else if 24 ≤ hours then none
  else some (hours * 3600 + minutes * 60, rest)

def offset? (cs : List Char) : Part Int :=
  match cs with
  | '+' :: rest => (clockOffset? rest).map fun (n, rest) => ((n : Int), rest)
  | '-' :: rest => (clockOffset? rest).map fun (n, rest) => (-(n : Int), rest)
  | '\u2212' :: rest => (clockOffset? rest).map fun (n, rest) => (-(n : Int), rest)
  | 'Z' :: rest => some (0, rest)
  | 'z' :: rest => some (0, rest)
  | a :: b :: c :: rest =>
    if a.toLower = 'u' ∧ b.toLower = 't' ∧ c.toLower = 'c' then some (0, rest) else none
  | _ => none

def dateEnd? : List Char → Option (List Char)
  | 'T' :: rest => some rest
  | 't' :: rest => some rest
  | ' ' :: rest => some rest
  | _ => none

/-- The first and the last day that timestamps reach. -/
def dayRange : Int × Int :=
  (Date.toDays ⟨-262143, 1, 1⟩, Date.toDays ⟨262142, 12, 31⟩)

def dayInRange (day : Int) : Bool := dayRange.1 ≤ day && day ≤ dayRange.2

def ofParts? (date : Date) (hour minute second nanos : Nat) (offset : Int) :
    Option Timestamp :=
  if !date.isValid || !dayInRange date.toDays then none
  else if 24 ≤ hour ∨ 60 ≤ minute ∨ 61 ≤ second then none
  else
    let localSeconds := date.toDays * 86400 + (hour * 3600 + minute * 60 + min second 59 : Nat)
    let seconds := localSeconds - offset
    let nanos := if second = 60 then nanos + 1000000000 else nanos
    if dayInRange (seconds / 86400) then some ⟨seconds, nanos⟩ else none

def parse? (s : String) : Option Timestamp := do
  let (year, rest) ← year? s.toList
  let rest ← separator? '-' rest
  let (month, rest) ← pair? rest
  let rest ← separator? '-' rest
  let (day, rest) ← pair? rest
  let rest ← dateEnd? rest
  let (hour, rest) ← pair? rest
  let rest ← separator? ':' rest
  let (minute, rest) ← pair? rest
  let rest ← separator? ':' rest
  let (second, rest) ← pair? rest
  let (nanos, rest) ← fraction? rest
  let (offset, rest) ← offset? (skipBlanks rest)
  if (skipBlanks rest).isEmpty then
    ofParts? ⟨year, month, day⟩ hour minute second nanos offset
  else none

end Timestamp

end JobWatch

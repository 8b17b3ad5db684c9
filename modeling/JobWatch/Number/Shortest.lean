import JobWatch.Number.Binary64

/-!
# Shortest decimal digits

The digits of a finite number are the fewest that read back as it, and of those the nearest to
it. Every decimal between the midpoints to the two neighbouring numbers reads back; the
midpoints themselves do when the significand is even.
-/

set_option autoImplicit false

namespace JobWatch.Binary64

structure Decimal where
  digits : Nat
  exponent : Int
  deriving DecidableEq, Repr

/-- The decimals that read back as a number, as quarter units between two bounds. -/
structure Neighbourhood where
  low : Nat
  value : Nat
  high : Nat
  closed : Bool

/-- The neighbourhood of a finite number, in quarters of `2 ^ -1074`. Below a power of two the
gap is half as wide. -/
def neighbourhood (x : Binary64) : Neighbourhood :=
  let step := Nat.pow 2 x.scale
  let value := 4 * x.units
  let below := if x.significand = Nat.pow 2 52 ∧ 0 < x.scale then step else 2 * step
  ⟨value - below, value, value + 2 * step, x.significand % 2 = 0⟩

structure Ratio where
  num : Nat
  den : Nat

/-- The value of `digits · 10 ^ exponent`, in quarters of `2 ^ -1074`. -/
def Decimal.quarterUnits (d : Decimal) : Ratio :=
  match d.exponent with
  | .ofNat e => ⟨d.digits * Nat.pow 10 e * Nat.pow 2 1076, 1⟩
  | .negSucc e => ⟨d.digits * Nat.pow 2 1076, Nat.pow 10 (e + 1)⟩

def Neighbourhood.holds (n : Neighbourhood) (d : Decimal) : Bool :=
  let r := d.quarterUnits
  if n.closed then n.low * r.den ≤ r.num && r.num ≤ n.high * r.den
  else n.low * r.den < r.num && r.num < n.high * r.den

def Neighbourhood.distance (n : Neighbourhood) (d : Decimal) : Ratio :=
  let r := d.quarterUnits
  ⟨(r.num - n.value * r.den) + (n.value * r.den - r.num), r.den⟩

/-- The decimals of one exponent next to a value, the greatest below and the one above it. -/
def Neighbourhood.candidates (n : Neighbourhood) (exponent : Int) : List Decimal :=
  let floor := match exponent with
    | .ofNat e => n.value / (Nat.pow 10 e * Nat.pow 2 1076)
    | .negSucc e => n.value * Nat.pow 10 (e + 1) / Nat.pow 2 1076
  [⟨floor, exponent⟩, ⟨floor + 1, exponent⟩]

/-- The better of two decimals of one exponent: the nearer one, of two equally near the one
with an even last digit. -/
def Neighbourhood.nearer (n : Neighbourhood) (a b : Decimal) : Decimal :=
  let da := n.distance a
  let db := n.distance b
  if da.num < db.num then a
  else if db.num < da.num then b
  else if a.digits % 2 = 0 then a else b

def Neighbourhood.best? (n : Neighbourhood) (exponent : Int) : Option Decimal :=
  match (n.candidates exponent).filter n.holds with
  | [] => none
  | d :: rest => some (rest.foldl n.nearer d)

/-- The first exponent from the given one downwards at which a decimal reads back. -/
def Neighbourhood.search (n : Neighbourhood) (exponent : Int) : Nat → Option Decimal
  | 0 => none
  | steps + 1 => (n.best? exponent).or (n.search (exponent - 1) steps)

def decimalLength (n : Nat) : Nat := if n = 0 then 0 else (Nat.toDigits 10 n).length

/-- An exponent at which a magnitude in units of `2 ^ -1074` has at most one digit. -/
def leadingExponent (units : Nat) : Int :=
  if Nat.pow 2 1074 ≤ units then decimalLength (units / Nat.pow 2 1074)
  else
    let inverse := decimalLength (Nat.pow 2 1074 / max units 1)
    1 - (inverse : Int)

def Decimal.stripped (d : Decimal) : Nat → Decimal
  | 0 => d
  | steps + 1 =>
    if d.digits ≠ 0 ∧ d.digits % 10 = 0 then
      Decimal.stripped ⟨d.digits / 10, d.exponent + 1⟩ steps
    else d

/-- The shortest digits of a finite number other than zero. Seventeen digits always read back,
so the search ends within twenty exponents. -/
def shortest (x : Binary64) : Decimal :=
  match x.neighbourhood.search (leadingExponent x.units) 20 with
  | some d => d.stripped 20
  | none => ⟨0, 0⟩

end JobWatch.Binary64

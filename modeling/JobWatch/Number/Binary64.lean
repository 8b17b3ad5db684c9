/-!
# Binary floating-point numbers of 64 bits

A number is held by its bits. A finite number has the magnitude `significand · 2 ^ scale` in
units of `2 ^ -1074`, so every magnitude is a ratio of natural numbers and rounding is exact
integer arithmetic. Only the operations that reading a decimal needs are given: rounding a
natural number, and multiplying or dividing by a rounded power of ten.
-/

set_option autoImplicit false

namespace JobWatch

structure Binary64 where
  bits : UInt64
  deriving DecidableEq, Repr

namespace Binary64

/-- The quotient of two natural numbers rounded to the nearest one, a half to the even one. -/
def roundQuotient (num den : Nat) : Nat :=
  let quotient := num / den
  let rest := num % den
  if 2 * rest < den then quotient
  else if den < 2 * rest then quotient + 1
  else quotient + quotient % 2

/-- The bits of the magnitude nearest to a ratio. They are `scale · 2 ^ 52 + significand`, where
a significand that rounds up to `2 ^ 53` carries into the scale by itself. -/
def magnitudeBits (num den : Nat) : Nat :=
  let units := num * Nat.pow 2 1074
  let scale := (units / den).log2 - 52
  scale * Nat.pow 2 52 + roundQuotient units (den * Nat.pow 2 scale)

/-- The least bits that stand for no finite magnitude. -/
def infiniteBits : Nat := 2047 * Nat.pow 2 52

/-- The number with the given magnitude bits, infinite if they are too large. -/
def ofMagnitudeBits (bits : Nat) : Binary64 :=
  ⟨UInt64.ofNat (min bits infiniteBits)⟩

def ofRatio (num den : Nat) : Binary64 :=
  ofMagnitudeBits (magnitudeBits num den)

def magnitude (x : Binary64) : Nat := x.bits.toNat % Nat.pow 2 63

/-- Whether the sign bit is set; negative zero has it. -/
def isNegative (x : Binary64) : Bool := decide (Nat.pow 2 63 ≤ x.bits.toNat)

def isFinite (x : Binary64) : Bool := decide (x.magnitude < infiniteBits)

def isZero (x : Binary64) : Bool := x.magnitude == 0

/-- The whole-number part of a magnitude in units of `2 ^ scale`. -/
def significand (x : Binary64) : Nat :=
  let fraction := x.magnitude % Nat.pow 2 52
  if x.magnitude < Nat.pow 2 52 then fraction else Nat.pow 2 52 + fraction

/-- The binary scale of a magnitude, counted from `2 ^ -1074`. -/
def scale (x : Binary64) : Nat := x.magnitude / Nat.pow 2 52 - 1

/-- The magnitude in units of `2 ^ -1074`. -/
def units (x : Binary64) : Nat := x.significand * Nat.pow 2 x.scale

def negated (x : Binary64) : Binary64 := ⟨UInt64.ofNat (x.magnitude + Nat.pow 2 63)⟩

def zero : Binary64 := ⟨0⟩

def powerOfTen (exponent : Nat) : Binary64 := ofRatio (Nat.pow 10 exponent) 1

/-- A magnitude times the number nearest to a power of ten, rounded once more. -/
def timesPowerOfTen (x : Binary64) (exponent : Nat) : Binary64 :=
  ofRatio (x.units * (powerOfTen exponent).units) (Nat.pow 2 2148)

def overPowerOfTen (x : Binary64) (exponent : Nat) : Binary64 :=
  ofRatio x.units (powerOfTen exponent).units

def greatestExponent : Nat := 308

/-- Divides by a power of ten of any exponent, at most `10 ^ 308` at a time. -/
def shrink (x : Binary64) (exponent : Nat) : Binary64 :=
  if exponent ≤ greatestExponent then x.overPowerOfTen exponent
  else if x.isZero then x
  else shrink (x.overPowerOfTen greatestExponent) (exponent - greatestExponent)
termination_by exponent
decreasing_by simp [greatestExponent] at *; omega

/-- The number that the decimal `significand · 10 ^ exponent` is read as. Its significand is
rounded first and then scaled, so the result may be off the nearest number in the last bit.
Nothing if the magnitude is too large. -/
def ofDecimal? (significand : Nat) (exponent : Int) : Option Binary64 :=
  let start := ofRatio significand 1
  if exponent < 0 then some (start.shrink exponent.natAbs)
  else if exponent.natAbs ≤ greatestExponent then
    let scaled := start.timesPowerOfTen exponent.natAbs
    if scaled.isFinite then some scaled else none
  else if start.isZero then some start
  else none

end Binary64

end JobWatch

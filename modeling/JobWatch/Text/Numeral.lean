/-!
# Decimal numerals

An unsigned numeral is one or more ASCII digits, with one plus sign allowed in front. Leading
zeros are allowed; any other sign, blank or separator refuses the whole text.
-/

set_option autoImplicit false

namespace JobWatch.Text

def digit? (c : Char) : Option Nat :=
  if c.isDigit then some (c.toNat - '0'.toNat) else none

/-- The value of a run of ASCII digits read after a prefix of value `value`. -/
def digitsFrom? (value : Nat) : List Char → Option Nat
  | [] => some value
  | c :: rest => (digit? c).bind fun d => digitsFrom? (value * 10 + d) rest

/-- The value of a non-empty run of ASCII digits. -/
def natural? : List Char → Option Nat
  | [] => none
  | cs => digitsFrom? 0 cs

def unsigned? (bound : Nat) (s : String) : Option Nat :=
  let value := match s.toList with
    | '+' :: rest => natural? rest
    | cs => natural? cs
  value.filter (· < bound)

theorem lt_of_unsigned?_eq_some {bound n : Nat} {s : String}
    (read : unsigned? bound s = some n) : n < bound := by
  simp only [unsigned?, Option.filter_eq_some_iff, decide_eq_true_eq] at read
  exact read.2

end JobWatch.Text

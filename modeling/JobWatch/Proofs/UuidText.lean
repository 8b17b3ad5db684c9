import JobWatch.Uuid
import Mathlib.Algebra.Group.Nat.Defs

/-!
# Identifiers in writing

An identifier is read back from the digits that it is written with.
-/

set_option autoImplicit false

namespace JobWatch

namespace Text

theorem hexDigit?_lowerHexDigit {digit : Nat} (small : digit < 16) :
    hexDigit? (lowerHexDigit digit) = some digit := by
  have all : ∀ digit < 16, hexDigit? (lowerHexDigit digit) = some digit := by decide
  exact all digit small

@[simp] theorem length_lowerHex (width n : Nat) : (lowerHex width n).length = width := by
  simp [lowerHex]

theorem lowerHex_succ (width n : Nat) :
    lowerHex (width + 1) n = lowerHexDigit (n / 16 ^ width % 16) :: lowerHex width n := by
  simp [lowerHex, List.range_succ]

/-- The digits of a number are read back, and their value is the number without what does not fit
the width. -/
theorem mapM_hexDigit?_lowerHex (width n : Nat) : ∃ values : List Nat,
    (lowerHex width n).mapM hexDigit? = some values ∧
      ∀ start, values.foldl (fun n d => n * 16 + d) start =
        start * 16 ^ width + n % 16 ^ width := by
  induction width with
  | zero => exact ⟨[], rfl, fun start => by simp [Nat.mod_one]⟩
  | succ width ih =>
      obtain ⟨values, read, value⟩ := ih
      have digit := hexDigit?_lowerHexDigit (Nat.mod_lt (n / 16 ^ width) (by decide))
      refine ⟨n / 16 ^ width % 16 :: values, ?_, fun start => ?_⟩
      · simp [lowerHex_succ, List.mapM_cons, digit, read]
      · rw [List.foldl_cons, value, Nat.pow_succ, Nat.mod_mul, Nat.add_mul, Nat.mul_assoc,
          Nat.mul_comm 16 (16 ^ width), Nat.mul_comm (n / 16 ^ width % 16)]
        omega

end Text

namespace Uuid

theorem ofDigits?_lowerHex (u : Uuid) : ofDigits? (Text.lowerHex 32 u.value.toNat) = some u := by
  obtain ⟨values, read, value⟩ := Text.mapM_hexDigit?_lowerHex 32 u.value.toNat
  have whole : u.value.toNat % 16 ^ 32 = u.value.toNat := Nat.mod_eq_of_lt u.value.isLt
  rw [ofDigits?, if_pos (Text.length_lowerHex ..), read, Option.map_some, value, whole,
    Nat.zero_mul, Nat.zero_add, BitVec.ofNat_toNat, BitVec.setWidth_eq]

theorem ofGroups?_append {a b c d e : List Char} (first : a.length = 8) (second : b.length = 4)
    (third : c.length = 4) (fourth : d.length = 4) (fifth : e.length = 12) :
    ofGroups? (a ++ '-' :: b ++ '-' :: c ++ '-' :: d ++ '-' :: e) =
      ofDigits? (a ++ b ++ c ++ d ++ e) := by
  simp [ofGroups?, List.drop_append, List.drop_of_length_le, List.take_of_length_le,
    first, second, third, fourth, fifth]

theorem groups_append {digits : List Char} (length : digits.length = 32) :
    (digits.drop 0).take 8 ++ (digits.drop 8).take 4 ++ (digits.drop 12).take 4 ++
      (digits.drop 16).take 4 ++ (digits.drop 20).take 12 = digits := by
  have cut : ∀ start size,
      (digits.drop start).take size ++ digits.drop (start + size) = digits.drop start := by
    intro start size
    rw [← List.drop_drop]
    exact List.take_append_drop size (digits.drop start)
  have last : (digits.drop 20).take 12 = digits.drop 20 := by
    apply List.take_of_length_le
    simp [length]
  rw [last, List.append_assoc, cut 16 4, List.append_assoc, cut 12 4, List.append_assoc, cut 8 4,
    cut 0 8, List.drop_zero]

theorem parse?_text (u : Uuid) : parse? u.text = some u := by
  have digits := ofDigits?_lowerHex u
  have length : (Text.lowerHex 32 u.value.toNat).length = 32 := Text.length_lowerHex ..
  rw [← groups_append length, ← ofGroups?_append (by simp) (by simp) (by simp) (by simp)
    (by simp)] at digits
  have written : u.text.toList.length = 36 := by simp [text]
  rw [parse?, if_neg (by omega), if_pos written]
  exact (congrArg ofGroups? String.toList_ofList).trans digits

end Uuid

end JobWatch

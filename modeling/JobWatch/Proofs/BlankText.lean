import JobWatch.Text.Blank
import Mathlib.Data.List.TakeWhile

/-!
# Blank texts

Trimming takes blanks away and nothing else. So it leaves a text blank or not blank as it was, and
nothing remains of a text exactly when it was blank.
-/

set_option autoImplicit false

namespace JobWatch.Text

theorem all_dropWhile (p : Char → Bool) (cs : List Char) : (cs.dropWhile p).all p = cs.all p := by
  induction cs with
  | nil => rfl
  | cons c rest ih =>
      rw [List.dropWhile_cons]
      split
      · next holds => simp [ih, holds]
      · rfl

theorem all_trimWhile (p : Char → Bool) (cs : List Char) : (trimWhile p cs).all p = cs.all p := by
  rw [trimWhile, dropEndWhile, List.all_reverse, all_dropWhile, List.all_reverse, all_dropWhile]

@[simp] theorem isBlankText_trim (text : String) : isBlankText (trim text) = isBlankText text := by
  simp [isBlankText, trim, all_trimWhile]

theorem isBlankText_append (first second : String) :
    isBlankText (first ++ second) = (isBlankText first && isBlankText second) := by
  simp [isBlankText]

theorem isBlankText_append_of_left {first : String} (solid : isBlankText first = false)
    (second : String) : isBlankText (first ++ second) = false := by
  rw [isBlankText_append, solid, Bool.false_and]

theorem trim_of_isBlankText {text : String} (blank : isBlankText text = true) :
    trim text = "" := by
  have nothing : text.toList.dropWhile isBlank = [] :=
    List.dropWhile_eq_nil_iff.mpr (List.all_eq_true.mp blank)
  rw [trim, trimWhile, nothing]
  rfl

@[simp] theorem isEmpty_trim (text : String) : (trim text).isEmpty = isBlankText text := by
  rw [Bool.eq_iff_iff]
  constructor
  · intro empty
    rw [← isBlankText_trim, String.isEmpty_iff.mp empty]
    rfl
  · intro blank
    rw [trim_of_isBlankText blank]
    rfl

theorem isBlank_of_isDigit {c : Char} (digit : c.isDigit = true) : isBlank c = false := by
  simp only [Char.isDigit, Bool.and_eq_true, decide_eq_true_eq, UInt32.le_iff_toNat_le] at digit
  have low : 48 ≤ c.toNat := digit.1
  have high : c.toNat ≤ 57 := digit.2
  simp only [isBlank, Bool.or_eq_false_iff, Bool.and_eq_false_iff, decide_eq_false_iff_not,
    beq_eq_false_iff_ne]
  omega

/-- A text without blanks is trimmed already. -/
theorem trim_of_solid {cs : List Char} (solid : ∀ c ∈ cs, isBlank c = false) :
    trim (String.ofList cs) = String.ofList cs := by
  have leading : cs.dropWhile isBlank = cs := by
    cases cs with
    | nil => rfl
    | cons c rest => rw [List.dropWhile_cons, solid c List.mem_cons_self]; rfl
  have trailing : cs.reverse.dropWhile isBlank = cs.reverse := by
    cases reversed : cs.reverse with
    | nil => rfl
    | cons c rest =>
        have member : c ∈ cs := List.mem_reverse.mp (reversed ▸ List.mem_cons_self)
        rw [List.dropWhile_cons, solid c member]
        rfl
  rw [trim, String.toList_ofList, trimWhile, dropEndWhile, leading, trailing, List.reverse_reverse]

end JobWatch.Text

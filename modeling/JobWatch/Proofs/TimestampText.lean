import JobWatch.Proofs.BlankText
import JobWatch.Proofs.Calendar
import Mathlib.Algebra.Group.Nat.Defs

/-!
# Timestamps in writing

A moment of a year with four digits, outside leap seconds, is read back from the text that it is
written as.
-/

set_option autoImplicit false

namespace JobWatch

namespace Timestamp

/-! ## Numbers -/

section

variable {width n : Nat} {rest : List Char}

theorem isDigit_of_mem_padded {c : Char} (member : c ∈ padded width n) : c.isDigit = true := by
  rcases List.mem_append.mp member with zero | digit
  · rw [List.eq_of_mem_replicate zero]
    rfl
  · exact Nat.isDigit_of_mem_toDigits (by decide) (by decide) digit

theorem length_padded (positive : 0 < width) (fits : n < 10 ^ width) :
    (padded width n).length = width := by
  have short := (Nat.length_toDigits_le_iff (by decide) positive).mpr fits
  simp only [padded, List.length_append, List.length_replicate]
  omega

theorem value_padded :
    (padded width n).foldl (fun n c => n * 10 + (c.toNat - '0'.toNat)) 0 = n := by
  have value := @Nat.ofDigitChars_ten_toDigits n
  simp only [Nat.ofDigitChars_eq_foldl, Nat.mul_comm 10] at value
  have zeros := @Nat.ofDigitChars_replicate_zero 10 0 (width - (Nat.toDigits 10 n).length)
  simp only [Nat.ofDigitChars_eq_foldl, Nat.mul_comm 10, Nat.mul_zero] at zeros
  rw [padded, List.foldl_append, zeros, value]

/-- A number ends where no digit follows. -/
theorem takeWhile_padded {limit : Nat} (positive : 0 < width) (fits : n < 10 ^ width)
    (room : width ≤ limit) (ends : ∀ c ∈ rest.head?, c.isDigit = false) :
    ((padded width n ++ rest).take limit).takeWhile Char.isDigit = padded width n := by
  have none : (rest.take (limit - width)).takeWhile Char.isDigit = [] := by
    cases rest with
    | nil => simp
    | cons c rest =>
        cases limit - width with
        | zero => rfl
        | succ k => simp [ends c rfl]
  rw [List.take_append, length_padded positive fits,
    List.take_of_length_le (by rw [length_padded positive fits]; exact room),
    List.takeWhile_append_of_pos (fun c => isDigit_of_mem_padded), none, List.append_nil]

theorem digits?_padded {limit : Nat} (positive : 0 < width) (fits : n < 10 ^ width)
    (room : width ≤ limit) (ends : ∀ c ∈ rest.head?, c.isDigit = false) :
    digits? limit (padded width n ++ rest) = some (n, rest) := by
  have length := length_padded positive fits
  have solid : (padded width n).isEmpty = false := by
    cases shown : padded width n with
    | nil =>
        rw [shown] at length
        simp at length
        omega
    | cons c cs => rfl
  simp only [digits?, takeWhile_padded positive fits room ends, solid, value_padded,
    List.drop_left, Bool.false_eq_true, if_false]

theorem skipBlanks_padded (positive : 0 < width) (fits : n < 10 ^ width) :
    skipBlanks (padded width n ++ rest) = padded width n ++ rest := by
  have length := length_padded positive fits
  cases shown : padded width n with
  | nil =>
      rw [shown] at length
      simp at length
      omega
  | cons c cs =>
      have digit := isDigit_of_mem_padded (c := c) (shown ▸ List.mem_cons_self)
      simp [skipBlanks, Text.isBlank_of_isDigit digit]

theorem pair?_padded (fits : n < 100) (ends : ∀ c ∈ rest.head?, c.isDigit = false) :
    pair? (padded 2 n ++ rest) = some (n, rest) := by
  rw [pair?, skipBlanks_padded (by decide) fits]
  exact digits?_padded (by decide) fits (by decide) ends

end

/-! ## Parts -/

section

variable {rest : List Char}

theorem year?_yearText {year : Int} (low : 0 ≤ year) (high : year ≤ 9999)
    (ends : ∀ c ∈ rest.head?, c.isDigit = false) :
    year? (yearText year ++ rest) = some (year, rest) := by
  have fits : year.natAbs < 10 ^ 4 := by omega
  have digits := digits?_padded (by decide) fits (Nat.le_refl 4) ends
  rw [yearText, if_pos ⟨low, high⟩, year?, skipBlanks_padded (by decide) fits]
  split
  · next signed =>
      rw [signed] at digits
      cases digits
  · next signed =>
      rw [signed] at digits
      cases digits
  · rw [digits]
    simp [Int.natAbs_of_nonneg low]

theorem separator?_cons {c : Char} (solid : Text.isBlank c = false) :
    separator? c (c :: rest) = some rest := by
  simp [separator?, skipBlanks, solid]

theorem fraction?_padded {width n : Nat} (positive : 0 < width) (fits : n < 10 ^ width)
    (room : width ≤ 9) (ends : ∀ c ∈ rest.head?, c.isDigit = false) :
    fraction? ('.' :: padded width n ++ rest) = some (n * 10 ^ (9 - width), rest) := by
  have stop : rest.dropWhile Char.isDigit = rest := by
    cases rest with
    | nil => rfl
    | cons c rest => simp [ends c rfl]
  simp only [List.cons_append, fraction?, digits?_padded positive fits room ends,
    takeWhile_padded positive fits room ends, length_padded positive fits, Option.map_some, stop]
  rfl

theorem head?_fractionText {nanos : Nat} :
    ∀ c ∈ (fractionText nanos ++ ['Z']).head?, c.isDigit = false := by
  unfold fractionText
  split
  · simp
  · split
    · simp
    · split <;> simp

theorem fraction?_fractionText {nanos : Nat} (fits : nanos < 1000000000) :
    fraction? (fractionText nanos ++ ['Z']) = some (nanos, ['Z']) := by
  have ends : ∀ c ∈ ['Z'].head?, c.isDigit = false := by simp
  unfold fractionText
  split
  · next zero =>
      rw [zero]
      rfl
  · split
    · rw [fraction?_padded (by decide) (by omega) (by decide) ends]
      congr 2
      omega
    · split
      · rw [fraction?_padded (by decide) (by omega) (by decide) ends]
        congr 2
        omega
      · rw [fraction?_padded (by decide) fits (by decide) ends]
        simp

end

/-! ## Moments -/

def year (t : Timestamp) : Int := (Date.ofDays (t.seconds / 86400)).year

/-- A moment of a year with four digits, outside leap seconds. -/
structure Common (t : Timestamp) : Prop where
  year_nonneg : 0 ≤ t.year
  year_le : t.year ≤ 9999
  nanos_lt : t.nanos < 1000000000

theorem dayInRange_of_year {day : Int} (low : 0 ≤ (Date.ofDays day).year)
    (high : (Date.ofDays day).year ≤ 9999) : dayInRange day = true := by
  obtain ⟨place, cycle, same, counted⟩ := Date.exists_place day
  have years := place.yearOfCycle_range
  have days := place.dayOfCycle_range
  rw [same] at low high
  have shown := place.countedYear_date cycle
  have range : dayRange = (-96465292, 95026236) := by decide
  simp only [dayInRange, range, Bool.and_eq_true, decide_eq_true_eq]
  simp only [Date.epochShift] at counted
  split at shown <;> omega

theorem ofParts?_of_common {t : Timestamp} (common : t.Common) {second : Nat}
    (inDay : second = (t.seconds % 86400).toNat) :
    ofParts? (Date.ofDays (t.seconds / 86400)) (second / 3600) (second / 60 % 60) (second % 60)
      t.nanos 0 = some t := by
  have range := dayInRange_of_year common.year_nonneg common.year_le
  have clock : ¬ (24 ≤ second / 3600 ∨ 60 ≤ second / 60 % 60 ∨ 61 ≤ second % 60) := by omega
  have unleaped : second % 60 ≠ 60 := by omega
  have whole : t.seconds / 86400 * 86400 +
      (second / 3600 * 3600 + second / 60 % 60 * 60 + min (second % 60) 59 : Nat) - 0 =
        t.seconds := by omega
  simp only [ofParts?, Date.isValid_ofDays, Date.toDays_ofDays, range, whole, if_neg clock,
    if_neg unleaped, Bool.not_true, Bool.or_self, Bool.false_eq_true, if_false, if_true]

theorem parse?_text {t : Timestamp} (common : t.Common) : parse? t.text = some t := by
  generalize inDay : (t.seconds % 86400).toNat = second
  -- Each part is read up to the separator after it, which is neither a digit nor blank.
  have year : ∀ rest, year? (yearText (Date.ofDays (t.seconds / 86400)).year ++ '-' :: rest) =
      some ((Date.ofDays (t.seconds / 86400)).year, '-' :: rest) := fun rest =>
    year?_yearText common.year_nonneg common.year_le (by simp)
  have month : ∀ rest, pair? (padded 2 (Date.ofDays (t.seconds / 86400)).month ++ '-' :: rest) =
      some ((Date.ofDays (t.seconds / 86400)).month, '-' :: rest) := fun rest =>
    pair?_padded (Date.month_ofDays_lt _) (by simp)
  have day : ∀ rest, pair? (padded 2 (Date.ofDays (t.seconds / 86400)).day ++ 'T' :: rest) =
      some ((Date.ofDays (t.seconds / 86400)).day, 'T' :: rest) := fun rest =>
    pair?_padded (Date.day_ofDays_lt _) (by simp)
  have clock : ∀ n rest, n < 60 → pair? (padded 2 n ++ ':' :: rest) = some (n, ':' :: rest) :=
    fun n rest small => pair?_padded (by omega) (by simp)
  have last : pair? (padded 2 (second % 60) ++ (fractionText t.nanos ++ ['Z'])) =
      some (second % 60, fractionText t.nanos ++ ['Z']) :=
    pair?_padded (by omega) head?_fractionText
  have hyphen : ∀ rest, separator? '-' ('-' :: rest) = some rest := fun rest =>
    separator?_cons (by decide)
  have colon : ∀ rest, separator? ':' (':' :: rest) = some rest := fun rest =>
    separator?_cons (by decide)
  have unleaped : ¬ 1000000000 ≤ t.nanos := Nat.not_le.mpr common.nanos_lt
  have zone : offset? (skipBlanks ['Z']) = some (0, []) := by decide
  simp only [parse?, text, inDay, if_neg unleaped, String.toList_ofList, List.append_assoc,
    List.cons_append, Nat.add_zero, Option.bind_eq_bind, Option.bind_some, year, hyphen, month, day,
    dateEnd?, clock (second / 3600) _ (by omega), clock (second / 60 % 60) _ (by omega), colon,
    last, fraction?_fractionText common.nanos_lt, zone]
  exact ofParts?_of_common common inDay.symm

end Timestamp

end JobWatch

import JobWatch.Proofs.BlankText
import JobWatch.Proofs.PollAnswer

/-!
# The status behind a body

The output of a process holds a body and, behind a marker, a status. The body may be any text and
may hold the marker itself. The first character of the marker does not come again inside it, so the
marker never overlaps itself, and its last place is the one behind which it does not stand again.
-/

set_option autoImplicit false

namespace JobWatch

namespace Text

/-! ## Numerals -/

/-- A number in decimal, with zeros in front. -/
def numeral (zeros n : Nat) : String := String.ofList (List.replicate zeros '0') ++ toString n

theorem toList_numeral (zeros n : Nat) :
    (numeral zeros n).toList = List.replicate zeros '0' ++ Nat.toDigits 10 n := by
  rw [numeral, String.toList_append, String.toList_ofList, Nat.toString_eq_repr, Nat.toList_repr]

theorem isDigit_of_mem_numeral {zeros n : Nat} {c : Char} (member : c ∈ (numeral zeros n).toList) :
    c.isDigit = true := by
  rw [toList_numeral] at member
  rcases List.mem_append.mp member with zero | digit
  · rw [List.eq_of_mem_replicate zero]
    rfl
  · exact Nat.isDigit_of_mem_toDigits (by decide) (by decide) digit

theorem digitsFrom?_of_digits {cs : List Char} (digits : ∀ c ∈ cs, c.isDigit = true) (value : Nat) :
    digitsFrom? value cs = some (Nat.ofDigitChars 10 cs value) := by
  induction cs generalizing value with
  | nil => rfl
  | cons c rest ih =>
      have others : ∀ d ∈ rest, d.isDigit = true := fun d member =>
        digits d (List.mem_cons_of_mem c member)
      rw [digitsFrom?, digit?, if_pos (digits c List.mem_cons_self), Option.bind_some, ih others,
        Nat.ofDigitChars_cons, Nat.mul_comm]

/-- A number is read back from its numeral, however many zeros stand in front. -/
theorem unsigned?_numeral {bound n : Nat} (small : n < bound) (zeros : Nat) :
    unsigned? bound (numeral zeros n) = some n := by
  have digits : ∀ c ∈ (numeral zeros n).toList, c.isDigit = true := fun c =>
    isDigit_of_mem_numeral
  have value : Nat.ofDigitChars 10 (numeral zeros n).toList 0 = n := by
    rw [toList_numeral, Nat.ofDigitChars_append, Nat.ofDigitChars_replicate_zero, Nat.mul_zero,
      Nat.ofDigitChars_ten_toDigits]
  have read : natural? (numeral zeros n).toList = some n := by
    have solid : (numeral zeros n).toList ≠ [] := by
      rw [toList_numeral]
      exact List.append_ne_nil_of_right_ne_nil _ Nat.toDigits_ne_nil
    unfold natural?
    split
    · next empty => exact absurd empty solid
    · rw [digitsFrom?_of_digits digits, value]
  unfold unsigned?
  split
  · next rest signed =>
      -- A numeral has no sign.
      have sign := digits '+' (signed ▸ List.mem_cons_self)
      cases sign
  · simp [read, small]

theorem trim_numeral (zeros n : Nat) : trim (numeral zeros n) = numeral zeros n := by
  have trimmed := trim_of_solid fun c (member : c ∈ (numeral zeros n).toList) =>
    isBlank_of_isDigit (isDigit_of_mem_numeral member)
  rwa [String.ofList_toList] at trimmed

end Text

namespace Client

/-! ## The last marker -/

section

variable {c : Char} {tail text before after : List Char}

/-- A marker whose first character does not come again in it stands for the last time where it
does not stand again behind. -/
theorem cutAtLast_iff (once : c ∉ tail) :
    CutAtLast (c :: tail) text before after ↔
      before ++ (c :: tail) ++ after = text ∧ ¬ (c :: tail) <:+: after := by
  constructor
  · intro cut
    refine ⟨cut.whole, fun ⟨between, rest, again⟩ => ?_⟩
    have stands : before ++ (c :: tail) ++ between ++ (c :: tail) ++ rest = text := by
      rw [← cut.whole, ← again]
      simp only [List.append_assoc]
    have later := cut.last _ _ stands
    simp only [List.length_append, List.length_cons] at later
    omega
  · intro ⟨whole, alone⟩
    refine ⟨whole, fun earlier rest stands => ?_⟩
    have same : before ++ (c :: tail ++ after) = earlier ++ (c :: tail ++ rest) := by
      rw [← List.append_assoc, ← List.append_assoc, whole, stands]
    rcases List.append_eq_append_iff.mp same with ⟨gap, rfl, behind⟩ | ⟨gap, rfl, _⟩
    · cases gap with
      | nil => simp
      | cons d gap =>
          -- The other place begins inside the marker or behind it.
          have inner : tail ++ after = gap ++ (c :: tail ++ rest) := (List.cons_eq_cons.mp behind).2
          rcases List.append_eq_append_iff.mp inner with
            ⟨between, rfl, again⟩ | ⟨between, split, again⟩
          · exact absurd ⟨between, rest, by rw [again, List.append_assoc]⟩ alone
          · cases between with
            | nil => exact absurd ⟨[], rest, again⟩ alone
            | cons e between =>
                have first : c = e := (List.cons_eq_cons.mp again).1
                have inside : c ∈ tail := by
                  rw [split, first]
                  exact List.mem_append_right gap List.mem_cons_self
                exact absurd inside once
    · simp

end

/-- A text without the first character of the marker does not hold the marker. -/
theorem marker_absent {cs : List Char} (absent : '\n' ∉ cs) : ¬ statusMarker.toList <:+: cs :=
  fun stands => absent (stands.subset (by decide))

theorem cutAtLast_statusMarker_iff {text before after : List Char} :
    CutAtLast statusMarker.toList text before after ↔
      before ++ statusMarker.toList ++ after = text ∧ ¬ statusMarker.toList <:+: after := by
  have once : '\n' ∉ "__http_status:".toList := by decide
  exact cutAtLast_iff once

theorem holdsStatus_iff {text body : String} {status : Nat} :
    HoldsStatus text status body ↔
      ∃ statusText : String, text = body ++ statusMarker ++ statusText ∧
        ¬ statusMarker.toList <:+: statusText.toList ∧
        Text.unsigned? UInt16.size (Text.trim statusText) = some status := by
  simp only [HoldsStatus, cutAtLast_statusMarker_iff, ← String.toList_append, String.toList_inj,
    and_assoc, eq_comm (a := text)]

/-- Every body is recovered with the status written behind it, and a status that is zero means that
there was no response. What is recovered was written in just this way: the body, the marker, and
behind it a status that is not zero, with no marker after. -/
theorem status_recovered_behind_any_body :
    (∀ (body : String) (zeros : Nat) (status : UInt16),
      splitStatus (body ++ statusMarker ++ Text.numeral zeros status.toNat) =
        if status = 0 then .error (.network "no HTTP response received")
        else .ok ⟨status, body⟩) ∧
    (∀ (output : String) (response : Response),
      splitStatus output = .ok response ↔
        response.status ≠ 0 ∧ ∃ statusText : String,
          output = response.body ++ statusMarker ++ statusText ∧
          ¬ statusMarker.toList <:+: statusText.toList ∧
          Text.unsigned? UInt16.size (Text.trim statusText) = some response.status.toNat) := by
  refine ⟨fun body zeros status => ?_, fun output response => ?_⟩
  · have read := Text.unsigned?_numeral status.toNat_lt_size zeros
    have alone : ¬ statusMarker.toList <:+: (Text.numeral zeros status.toNat).toList :=
      marker_absent fun broken => by cases Text.isDigit_of_mem_numeral broken
    have holds : HoldsStatus (body ++ statusMarker ++ Text.numeral zeros status.toNat)
        status.toNat body :=
      holdsStatus_iff.mpr ⟨_, rfl, alone, by rw [Text.trim_numeral, read]⟩
    rw [splitStatus_of_holds holds, UInt16.ofNat_toNat]
    simp only [← UInt16.toNat_inj, UInt16.toNat_zero]
  · rw [← holdsStatus_iff]
    constructor
    · intro split
      exact (holds_of_splitStatus split).symm
    · intro ⟨nonzero, holds⟩
      have positive : response.status.toNat ≠ 0 := fun zero => nonzero (UInt16.toNat_inj.mp zero)
      rw [splitStatus_of_holds holds, if_neg positive, UInt16.ofNat_toNat]

end Client

end JobWatch

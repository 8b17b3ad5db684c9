/-!
# Sequences of guards

What can be refused is written as a sequence of steps, each of which may refuse. These facts take
such a sequence apart at its first step.
-/

set_option autoImplicit false

namespace JobWatch.Guards

variable {ε α β : Type} {first : Except ε α}

theorem bind_eq_ok {next : α → Except ε β} {result : β} :
    (first >>= next) = .ok result ↔ ∃ value, first = .ok value ∧ next value = .ok result := by
  cases first <;> simp [bind, Except.bind]

theorem bind_eq_error {next : α → Except ε β} {error : ε} :
    (first >>= next) = .error error ↔
      first = .error error ∨ ∃ value, first = .ok value ∧ next value = .error error := by
  cases first <;> simp [bind, Except.bind]

theorem map_eq_ok {f : α → β} {result : β} :
    first.map f = .ok result ↔ ∃ value, first = .ok value ∧ f value = result := by
  cases first <;> simp [Except.map]

theorem map_eq_error {f : α → β} {error : ε} :
    first.map f = .error error ↔ first = .error error := by
  cases first <;> simp [Except.map]

theorem mapError_eq_error {η : Type} {f : ε → η} {error : η} :
    first.mapError f = .error error ↔ ∃ cause, first = .error cause ∧ f cause = error := by
  cases first with
  | ok value =>
      constructor
      · intro failed
        cases failed
      · intro ⟨_, failed, _⟩
        cases failed
  | error cause =>
      constructor
      · intro failed
        exact ⟨cause, rfl, Except.error.inj failed⟩
      · intro ⟨_, same, mapped⟩
        cases same
        exact congrArg Except.error mapped

end JobWatch.Guards

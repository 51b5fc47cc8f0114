import Mathlib.Tactic.Common

/-!
# Computations that may fail

A computation that returns has returned in each of its parts.
-/

namespace MessagingStack

universe u

variable {ε α β : Type u}

theorem bind_eq_ok {first : Except ε α} {next : α → Except ε β} {result : β} :
    (first >>= next) = .ok result ↔ ∃ value, first = .ok value ∧ next value = .ok result := by
  cases first with
  | error =>
    constructor
    · nofun
    · rintro ⟨_, ⟨⟩, _⟩
  | ok value =>
    constructor
    · exact fun returned => ⟨value, rfl, returned⟩
    · rintro ⟨_, ⟨⟩, returned⟩
      exact returned

end MessagingStack

import Mathlib.Data.List.Basic
import Mathlib.Tactic.Common

/-!
# Runs of a step function

A system is a state type with a total step function over inputs; an input that is not
enabled leaves the state alone.  A run is a list of inputs, and the state it reaches is
`inputs.foldl step start`.  Every prefix of a run is a run, so a fact about the last
state of every run is a fact about every state a run goes through.

`Along step Good start inputs` says that each input of a run satisfies a side condition
in the state in which it is taken; `Along.invariant` is the rule by which every
invariant of the development is proved: it holds at the start, and each step that meets
the condition preserves it.
-/

namespace MessagingStack

universe u v

variable {σ : Type u} {ι : Type v}

/-- Every input of the run meets `Good` in the state in which it is taken. -/
def Along (step : σ → ι → σ) (Good : σ → ι → Prop) : σ → List ι → Prop
  | _, [] => True
  | state, input :: rest => Good state input ∧ Along step Good (step state input) rest

namespace Along

variable {step : σ → ι → σ} {Good : σ → ι → Prop}

@[simp] theorem nil (state : σ) : Along step Good state [] := trivial

@[simp] theorem cons (state : σ) (input : ι) (rest : List ι) :
    Along step Good state (input :: rest) ↔
      Good state input ∧ Along step Good (step state input) rest := Iff.rfl

/-- A condition along a run splits at every point of the run. -/
theorem append (state : σ) (first second : List ι) :
    Along step Good state (first ++ second) ↔
      Along step Good state first ∧ Along step Good (first.foldl step state) second := by
  induction first generalizing state with
  | nil => simp
  | cons input rest ih => simp [ih, and_assoc]

instance [∀ state input, Decidable (Good state input)] :
    ∀ (state : σ) (inputs : List ι), Decidable (Along step Good state inputs)
  | _, [] => .isTrue trivial
  | state, input :: rest =>
    have := instDecidable (step state input) rest
    inferInstanceAs (Decidable (Good state input ∧ Along step Good (step state input) rest))

/-- **The invariant rule.**  What holds at the start and is preserved by every step that
meets the condition holds after the run. -/
theorem invariant {Inv : σ → Prop}
    (preserved : ∀ state input, Inv state → Good state input → Inv (step state input))
    {state : σ} {inputs : List ι}
    (along : Along step Good state inputs)
    (start : Inv state) :
    Inv (inputs.foldl step state) := by
  induction inputs generalizing state with
  | nil => exact start
  | cons input rest ih =>
    obtain ⟨good, goodRest⟩ := along
    exact ih goodRest (preserved state input start good)

theorem invariant_reached {Inv : σ → Prop}
    (preserved : ∀ state input, Inv state → Inv (step state input)) {state : σ}
    (start : Inv state) (inputs : List ι) : Inv (inputs.foldl step state) := by
  induction inputs generalizing state with
  | nil => exact start
  | cons input rest ih => exact ih (preserved state input start)

/-- A step taken inside a run is taken from a state that satisfies the invariant, under
the condition. -/
theorem at_step {Inv : σ → Prop}
    (preserved : ∀ state input, Inv state → Good state input → Inv (step state input))
    {state : σ} {before after : List ι} {input : ι}
    (along : Along step Good state (before ++ input :: after))
    (start : Inv state) :
    Inv (before.foldl step state) ∧ Good (before.foldl step state) input := by
  obtain ⟨first, second⟩ := (append state before (input :: after)).mp along
  exact ⟨invariant preserved first start, second.1⟩

/-- **What an invariant makes of a condition.**  A step that meets the condition keeps the
invariant and meets another one, so a run along the first is one along the second. -/
theorem imp {Good' : σ → ι → Prop} {Inv : σ → Prop}
    (preserved : ∀ state input, Inv state → Good state input → Inv (step state input))
    (meets : ∀ state input, Inv state → Good state input → Good' state input)
    {state : σ} {inputs : List ι} (along : Along step Good state inputs) (start : Inv state) :
    Along step Good' state inputs := by
  induction inputs generalizing state with
  | nil => trivial
  | cons input rest ih =>
    obtain ⟨good, goodRest⟩ := along
    exact ⟨meets state input start good, ih goodRest (preserved state input start good)⟩

theorem and {Good' : σ → ι → Prop} {state : σ} {inputs : List ι}
    (first : Along step Good state inputs) (second : Along step Good' state inputs) :
    Along step (fun state input => Good state input ∧ Good' state input) state inputs := by
  induction inputs generalizing state with
  | nil => trivial
  | cons input rest ih => exact ⟨⟨first.1, second.1⟩, ih first.2 second.2⟩

theorem congr {Good' : σ → ι → Prop} {Inv : σ → Prop}
    (preserved : ∀ state input, Inv state → Inv (step state input))
    (agree : ∀ state input, Inv state → (Good state input ↔ Good' state input))
    {state : σ} (start : Inv state) (inputs : List ι) :
    Along step Good state inputs ↔ Along step Good' state inputs := by
  induction inputs generalizing state with
  | nil => exact Iff.rfl
  | cons input rest ih =>
    exact and_congr (agree state input start) (ih (preserved state input start))

theorem exists_first_failure {state : σ} {inputs : List ι}
    (fails : ¬Along step Good state inputs) :
    ∃ before input after, inputs = before ++ input :: after ∧
      Along step Good state before ∧ ¬Good (before.foldl step state) input := by
  induction inputs generalizing state with
  | nil => exact absurd trivial fails
  | cons input rest ih =>
    by_cases good : Good state input
    · have later : ¬Along step Good (step state input) rest := fun along => fails ⟨good, along⟩
      obtain ⟨before, bad, after, rfl, along, isBad⟩ := ih later
      exact ⟨input :: before, bad, after, rfl, ⟨good, along⟩, isBad⟩
    · exact ⟨[], input, rest, rfl, trivial, good⟩

end Along

end MessagingStack

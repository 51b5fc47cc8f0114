import Mathlib.Order.Interval.Set.Basic
import Mathlib.Tactic.Order

/-!
# Sets without a gap

A reader holds a set `held` of positions of a log, of which the positions in `wanted`
matter.  The set has no gap if it holds every wanted position between two of its own
(`Gapless`), and a position `c` is *reached* if nothing wanted is missing from the oldest
held position up to `c` (`Reached`): a reader that asks for what lies beyond `c` then
misses nothing.

A piece that continues the set beyond a reached position, or in front of a held one, leaves
it without a gap and every reached position reached (`Gapless.above`, `Gapless.below`); so
does a new position of the log beyond all of this (`Gapless.grow`, `Reached.grow`), and the
part of the set from some position on (`Gapless.tail`).
-/

namespace MessagingStack

universe u

variable {α : Type u} [LinearOrder α]

/-- Every wanted position between two held ones is held. -/
def Gapless (wanted held : Set α) : Prop :=
  ∀ p ∈ held, ∀ q ∈ held, ∀ o ∈ wanted, p ≤ o → o ≤ q → o ∈ held

/-- **Reached**: from some held position on, nothing wanted is missing up to `c`. -/
structure Reached (wanted held : Set α) (c : α) : Prop where
  starts : ∃ p ∈ held, p ≤ c
  filled : ∀ p ∈ held, ∀ o ∈ wanted, p ≤ o → o ≤ c → o ∈ held

/-- A piece of a log above `c` that leaves out no wanted position. -/
structure Continues (wanted : Set α) (c : α) (piece : Set α) : Prop where
  above : ∀ n ∈ piece, c < n
  whole : ∀ n ∈ piece, ∀ o ∈ wanted, c < o → o ≤ n → o ∈ piece

/-- A piece of a log below `b` that leaves out no wanted position. -/
structure Precedes (wanted : Set α) (b : α) (piece : Set α) : Prop where
  below : ∀ n ∈ piece, n < b
  whole : ∀ n ∈ piece, ∀ o ∈ wanted, n ≤ o → o < b → o ∈ piece

variable {wanted held piece : Set α} {b c : α}

theorem Gapless.reached (gapless : Gapless wanted held) {p q : α} (isHeld : p ∈ held)
    (isHeld' : q ∈ held) (lower : p ≤ c) (upper : c ≤ q) : Reached wanted held c where
  starts := ⟨p, isHeld, lower⟩
  filled start isStart o isWanted after before :=
    gapless start isStart q isHeld' o isWanted after (before.trans upper)

theorem Gapless.reached_self (gapless : Gapless wanted held) (isHeld : c ∈ held) :
    Reached wanted held c :=
  gapless.reached isHeld isHeld le_rfl le_rfl

section Above

variable (continues : Continues wanted c piece) (reached : Reached wanted held c)
include continues reached

theorem Reached.above {d : α} (other : Reached wanted held d) :
    Reached wanted (held ∪ piece) d where
  starts := by
    obtain ⟨p, isHeld, lower⟩ := other.starts
    exact ⟨p, Or.inl isHeld, lower⟩
  filled p isStart o isWanted after before := by
    rcases isStart with isHeld | isNew
    · exact Or.inl (other.filled p isHeld o isWanted after before)
    -- The new position lies above an old one, from which the way to `d` is filled.
    obtain ⟨first, isFirst, lower⟩ := reached.starts
    have higher : first ≤ o := lower.trans ((continues.above p isNew).le.trans after)
    exact Or.inl (other.filled first isFirst o isWanted higher before)

theorem Gapless.above (gapless : Gapless wanted held) : Gapless wanted (held ∪ piece) := by
  intro p isStart q isEnd o isWanted after before
  rcases isEnd with isHeld | isNew
  · exact (Reached.above continues reached (gapless.reached_self isHeld)).filled p isStart o
      isWanted after before
  rcases le_or_gt o c with within | beyond
  · rcases isStart with isHeld | startsNew
    · exact Or.inl (reached.filled p isHeld o isWanted after within)
    · exact absurd (continues.above p startsNew) (not_lt.mpr (after.trans within))
  · exact Or.inr (continues.whole q isNew o isWanted beyond before)

end Above

section Below

variable (precedes : Precedes wanted b piece) (joins : Reached wanted held b)
include precedes joins

theorem Reached.below {d : α} (other : Reached wanted held d) :
    Reached wanted (held ∪ piece) d where
  starts := by
    obtain ⟨p, isHeld, lower⟩ := other.starts
    exact ⟨p, Or.inl isHeld, lower⟩
  filled p isStart o isWanted after before := by
    rcases isStart with isHeld | isNew
    · exact Or.inl (other.filled p isHeld o isWanted after before)
    rcases lt_or_ge o b with within | beyond
    · exact Or.inr (precedes.whole p isNew o isWanted after within)
    · obtain ⟨first, isFirst, lower⟩ := joins.starts
      exact Or.inl (other.filled first isFirst o isWanted (lower.trans beyond) before)

theorem Gapless.below (gapless : Gapless wanted held) : Gapless wanted (held ∪ piece) := by
  intro p isStart q isEnd o isWanted after before
  rcases isEnd with isHeld | isNew
  · exact (Reached.below precedes joins (gapless.reached_self isHeld)).filled p isStart o
      isWanted after before
  have within : o < b := before.trans_lt (precedes.below q isNew)
  rcases isStart with isHeld | startsNew
  · exact Or.inl (joins.filled p isHeld o isWanted after within.le)
  · exact Or.inr (precedes.whole p startsNew o isWanted after within)

end Below

section Grow

variable {wanted' : Set α} {last : α}

/-- New positions of the log beyond `last` do not make a gap below it. -/
theorem Gapless.grow (gapless : Gapless wanted held) (within : ∀ p ∈ held, p ≤ last)
    (old : ∀ o ∈ wanted', o ≤ last → o ∈ wanted) : Gapless wanted' held := by
  intro p isStart q isEnd o isWanted after before
  exact gapless p isStart q isEnd o (old o isWanted (before.trans (within q isEnd))) after before

theorem Reached.grow (reached : Reached wanted held c) (within : c ≤ last)
    (old : ∀ o ∈ wanted', o ≤ last → o ∈ wanted) : Reached wanted' held c where
  starts := reached.starts
  filled p isStart o isWanted after before :=
    reached.filled p isStart o (old o isWanted (before.trans within)) after before

end Grow

theorem Gapless.tail (gapless : Gapless wanted held) {part : Set α} (isPart : part ⊆ held)
    (upper : ∀ p ∈ part, ∀ q ∈ held, p ≤ q → q ∈ part) : Gapless wanted part := by
  intro p isStart q isEnd o isWanted after before
  have isHeld := gapless p (isPart isStart) q (isPart isEnd) o isWanted after before
  exact upper p isStart o isHeld after

theorem Reached.replace (reached : Reached wanted held c) {other : Set α}
    (contains : held ⊆ other) (later : ∀ p ∈ other, ∃ p' ∈ held, p' ≤ p) :
    Reached wanted other c where
  starts := by
    obtain ⟨p, isHeld, lower⟩ := reached.starts
    exact ⟨p, contains isHeld, lower⟩
  filled p isStart o isWanted after before := by
    obtain ⟨first, isFirst, lower⟩ := later p isStart
    exact contains (reached.filled first isFirst o isWanted (lower.trans after) before)

end MessagingStack

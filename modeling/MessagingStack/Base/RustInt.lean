import Mathlib.Algebra.Group.Int.Defs
import Mathlib.Tactic.Common

/-!
# `i64` arithmetic in debug and release builds

The operators on `i64` panic on overflow in a debug build and wrap in a release build.  An
operation gives `none` where it panics.  Wherever it gives the true result in a debug build it
does so in both (`sub_debug_iff`, `abs_debug_iff`), and a release build never panics.
-/

namespace MessagingStack.RustInt

/-- A build: whether overflow is checked. -/
inductive Build where
  | debug
  | release
  deriving DecidableEq

/-- The result of an operator: the machine's, unless an overflow is checked and found. -/
def checked (build : Build) (exact : Int) (wrapped : Int64) : Option Int64 :=
  if build = .debug ∧ wrapped.toInt ≠ exact then none else some wrapped

def sub (build : Build) (a b : Int64) : Option Int64 := checked build (a.toInt - b.toInt) (a - b)

/-- `-a` -/
def neg (build : Build) (a : Int64) : Option Int64 := checked build (-a.toInt) (-a)

/-- `a.abs()`: the negation of a negative number. -/
def abs (build : Build) (a : Int64) : Option Int64 := if a < 0 then neg build a else some a

variable {a b result : Int64} {build : Build}

theorem checked_release (exact : Int) : checked .release exact result = some result := by
  rw [checked, if_neg (by simp)]

theorem checked_debug_iff {exact : Int} {wrapped : Int64} :
    checked .debug exact wrapped = some result ↔ wrapped = result ∧ wrapped.toInt = exact := by
  rw [checked]
  split
  · next overflow => simp [overflow.2]
  next fits =>
  have same : wrapped.toInt = exact := by
    by_contra differs
    exact fits ⟨rfl, differs⟩
  simp [same]

/-- **Subtraction** is exact, without a panic, exactly if the difference is an `i64`. -/
theorem toInt_sub_iff :
    (a - b).toInt = a.toInt - b.toInt ↔
      -2 ^ 63 ≤ a.toInt - b.toInt ∧ a.toInt - b.toInt < 2 ^ 63 := by
  constructor
  · intro same
    rw [← same]
    exact ⟨Int64.le_toInt _, Int64.toInt_lt _⟩
  · rintro ⟨lower, upper⟩
    rw [Int64.toInt_sub]
    exact Int.bmod_eq_of_le (by omega) (by omega)

/-- **Negation** is exact, without a panic, except at the least `i64`. -/
theorem toInt_neg_iff : (-a).toInt = -a.toInt ↔ a.toInt ≠ -2 ^ 63 := by
  have lower := Int64.le_toInt a
  have upper := Int64.toInt_lt a
  constructor
  · intro same least
    have bound := Int64.toInt_lt (-a)
    rw [same, least] at bound
    omega
  · intro notLeast
    rw [Int64.toInt_neg]
    exact Int.bmod_eq_of_le (by omega) (by omega)

theorem sub_debug_iff : sub .debug a b = some result ↔
    a - b = result ∧ -2 ^ 63 ≤ a.toInt - b.toInt ∧ a.toInt - b.toInt < 2 ^ 63 := by
  rw [sub, checked_debug_iff, toInt_sub_iff]

theorem sub_release : sub .release a b = some (a - b) := checked_release _

/-- A negative number by its integer. -/
theorem neg_iff : a < 0 ↔ a.toInt < 0 := by
  rw [Int64.lt_iff_toInt_lt]
  rfl

/-- **The absolute value** is exact, without a panic, except at the least `i64`. -/
theorem abs_debug_iff : abs .debug a = some result ↔
    a.toInt ≠ -2 ^ 63 ∧ abs .release a = some result ∧ result.toInt = a.toInt.natAbs := by
  rw [abs, abs]
  by_cases negative : a < 0
  · have below := neg_iff.mp negative
    rw [if_pos negative, if_pos negative, neg, neg, checked_debug_iff, checked_release,
      toInt_neg_iff, Option.some.injEq]
    constructor
    · rintro ⟨rfl, notLeast⟩
      refine ⟨notLeast, rfl, ?_⟩
      rw [toInt_neg_iff.mpr notLeast]
      omega
    · rintro ⟨notLeast, same, -⟩
      exact ⟨same, notLeast⟩
  have above : 0 ≤ a.toInt := Int.not_lt.mp (mt neg_iff.mpr negative)
  rw [if_neg negative, if_neg negative, Option.some.injEq]
  constructor
  · rintro rfl
    exact ⟨by omega, rfl, by omega⟩
  · rintro ⟨-, same, -⟩
    exact same

end MessagingStack.RustInt

import MessagingStack.Base.RustInt
import MessagingStack.Relayer.Authentication

/-!
# The age of a request, in machine integers

`validate_timestamp` of `auth/signature.rs`, which all authenticators call: `auth_middleware` and
`wallet_auth_middleware` with the `i64` of a header or of the body, the WebSocket upgrades with
that of a query or of a header.  The age is the absolute value of a difference of `i64`s.

`exact_iff` says when the check is what it is meant to be, in every build: exactly if the true
distance of the timestamp from the clock is an `i64`.  There it is the check that the models of
the authenticators have (`validateTimestamp_near`).  A release build accepts the timestamp that
lies `2^63` seconds before the clock, whatever the time to live (`wrapped_age_accepted`).
-/

namespace MessagingStack.Relayer.TimestampCheck

open RustInt

/-- `(now - timestamp).abs()`; `none` where it panics. -/
def age (build : Build) (now timestamp : Int64) : Option Int64 := do
  let diff ← sub build now timestamp
  RustInt.abs build diff

/-- `validate_timestamp`; `none` where it panics. -/
def validateTimestamp (build : Build) (now timestamp ttlSeconds : Int64) :
    Option (Except AuthError Unit) := do
  let diff ← age build now timestamp
  if diff > ttlSeconds then
    return .error (.requestExpired timestamp.toInt now.toInt ttlSeconds.toInt)
  return .ok ()

def distance (now timestamp : Int64) : Nat := (now.toInt - timestamp.toInt).natAbs

/-- **An exact check**: it does not panic, the age does not wrap, and it accepts only a timestamp
within the time to live. -/
structure Exact (build : Build) (now timestamp ttlSeconds : Int64) : Prop where
  returns : validateTimestamp build now timestamp ttlSeconds ≠ none
  unwrapped : ∀ diff, age build now timestamp = some diff → diff.toInt = distance now timestamp
  accepts : validateTimestamp build now timestamp ttlSeconds = some (.ok ()) →
    distance now timestamp ≤ ttlSeconds.toInt

variable {build : Build} {now timestamp ttlSeconds : Int64}

theorem age_release : age .release now timestamp = RustInt.abs .release (now - timestamp) := by
  rw [age, sub_release]
  rfl

theorem age_debug_iff {diff : Int64} : age .debug now timestamp = some diff ↔
    distance now timestamp < 2 ^ 63 ∧ age .release now timestamp = some diff ∧
      diff.toInt = distance now timestamp := by
  rw [age_release, age, distance]
  constructor
  · intro computed
    obtain ⟨difference, isDifference, isAge⟩ := Option.bind_eq_some_iff.mp computed
    obtain ⟨rfl, lower, upper⟩ := sub_debug_iff.mp isDifference
    obtain ⟨notLeast, released, value⟩ := abs_debug_iff.mp isAge
    rw [toInt_sub_iff.mpr ⟨lower, upper⟩] at notLeast value
    exact ⟨by omega, released, value⟩
  rintro ⟨near, released, value⟩
  have within : -2 ^ 63 ≤ now.toInt - timestamp.toInt ∧
      now.toInt - timestamp.toInt < 2 ^ 63 := by omega
  refine Option.bind_eq_some_iff.mpr ⟨_, sub_debug_iff.mpr ⟨rfl, within⟩, ?_⟩
  refine abs_debug_iff.mpr ⟨?_, released, ?_⟩
  · rw [toInt_sub_iff.mpr within]
    omega
  · rw [toInt_sub_iff.mpr within, value]

theorem age_near (near : distance now timestamp < 2 ^ 63) (build : Build) :
    ∃ diff, age build now timestamp = some diff ∧ diff.toInt = distance now timestamp := by
  have within : -2 ^ 63 ≤ now.toInt - timestamp.toInt ∧
      now.toInt - timestamp.toInt < 2 ^ 63 := by
    unfold distance at near
    omega
  have notLeast : (now - timestamp).toInt ≠ -2 ^ 63 := by
    rw [toInt_sub_iff.mpr within]
    unfold distance at near
    omega
  -- The release build never panics; its age is the one of the debug build.
  have released : ∃ diff, age .release now timestamp = some diff := by
    rw [age_release, RustInt.abs]
    split
    · exact ⟨_, checked_release _⟩
    · exact ⟨_, rfl⟩
  obtain ⟨diff, isAge⟩ := released
  have value : diff.toInt = distance now timestamp := by
    rw [age_release, RustInt.abs] at isAge
    have exact := toInt_sub_iff.mpr within
    split at isAge
    · next negative =>
      rw [neg, checked_release] at isAge
      have below := neg_iff.mp negative
      rw [← Option.some.inj isAge, toInt_neg_iff.mpr notLeast, distance]
      omega
    next notNegative =>
    have above : 0 ≤ (now - timestamp).toInt := Int.not_lt.mp (mt neg_iff.mpr notNegative)
    rw [← Option.some.inj isAge, distance]
    omega
  cases build with
  | debug => exact ⟨diff, age_debug_iff.mpr ⟨near, isAge, value⟩, value⟩
  | release => exact ⟨diff, isAge, value⟩

theorem validateTimestamp_near (near : distance now timestamp < 2 ^ 63) :
    validateTimestamp build now timestamp ttlSeconds =
      some (Relayer.validateTimestamp now.toInt timestamp.toInt ttlSeconds.toInt) := by
  obtain ⟨diff, isAge, value⟩ := age_near near build
  have compare : diff > ttlSeconds ↔
      ttlSeconds.toInt < (now.toInt - timestamp.toInt).natAbs := by
    rw [gt_iff_lt, Int64.lt_iff_toInt_lt, value, distance]
  rw [validateTimestamp, isAge, Relayer.validateTimestamp]
  by_cases expired : diff > ttlSeconds
  · rw [if_pos (compare.mp expired)]
    simp [expired]
  · rw [if_neg (mt compare.mpr expired)]
    simp [expired]

/-- **When the request-age check is exact** in debug and release builds: exactly if the timestamp
is less than `2^63` seconds away from the clock. -/
theorem exact_iff : (∀ build, Exact build now timestamp ttlSeconds) ↔
    distance now timestamp < 2 ^ 63 := by
  constructor
  · intro exact
    have returns := (exact .debug).returns
    cases computed : age .debug now timestamp with
    | none =>
      refine absurd ?_ returns
      rw [validateTimestamp, computed]
      rfl
    | some => exact (age_debug_iff.mp computed).1
  intro near build
  have sameCheck : validateTimestamp build now timestamp ttlSeconds =
      some (Relayer.validateTimestamp now.toInt timestamp.toInt ttlSeconds.toInt) :=
    validateTimestamp_near near
  obtain ⟨diff, isAge, value⟩ := age_near near build
  refine ⟨by simp [sameCheck], ?_, ?_⟩
  · intro other isOther
    rw [← Option.some.inj (isAge.symm.trans isOther)]
    exact value
  intro accepted
  rw [sameCheck, Option.some.injEq, Relayer.validateTimestamp] at accepted
  split at accepted
  · cases accepted
  · next notExpired => exact Int.not_lt.mp notExpired

/-- **A wrapped age**: on 14 November 2023 a release build accepts a timestamp of about
292 billion years ago. -/
theorem wrapped_age_accepted :
    validateTimestamp .release 1700000000 (-9223372035154775808) 900 = some (.ok ()) ∧
      ¬∀ build, Exact build 1700000000 (-9223372035154775808) 900 := by
  refine ⟨by decide, fun exact => ?_⟩
  have accepts := (exact .release).accepts (by decide)
  revert accepts
  decide

end MessagingStack.Relayer.TimestampCheck

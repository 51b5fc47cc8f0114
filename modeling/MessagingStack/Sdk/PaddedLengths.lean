import Mathlib.Data.Set.Card
import Mathlib.Order.Interval.Finset.Nat
import MessagingStack.Sdk.ContentEnvelope

/-!
# What the length of an envelope gives away

`padme` and `paddedEnvelopeLength` of `content/envelope.ts`, and the formula of the protocol
document.  The padded lengths that share the exponent `E` are the multiples of one unit between
two powers of two (`sizeClasses_eq`), so there are `2 ^ S` of them.  That is `O(log log)` bits, not
`O(log log)` classes (`classes_not_log_log`).
-/

namespace MessagingStack.Sdk.Content

open PaddedFrame

/-- The padded lengths with one exponent. -/
def sizeClasses (e : Nat) : Set Nat :=
  {size | (∃ jsonLength, paddedEnvelopeLength jsonLength = size) ∧ Nat.log2 size = e}

theorem paddedEnvelopeLength_mono : Monotone paddedEnvelopeLength := fun _ _ shorter =>
  max_le_max (le_refl contentEnvelopeMinLength) (padme_mono (Nat.add_le_add_left shorter _))

theorem exists_paddedEnvelopeLength {size : Nat} :
    (∃ jsonLength, paddedEnvelopeLength jsonLength = size) ↔ 256 ≤ size ∧ padme size = size := by
  constructor
  · rintro ⟨jsonLength, rfl⟩
    refine ⟨le_max_left 256 _, ?_⟩
    rcases le_total 256 (padme (headerLength + jsonLength)) with larger | smaller
    · rw [show paddedEnvelopeLength jsonLength = _ from max_eq_right larger, padme_padme]
    · rw [show paddedEnvelopeLength jsonLength = 2 ^ 8 from max_eq_left smaller, padme_two_pow]
  rintro ⟨large, padded⟩
  have header : headerLength = 5 := rfl
  have whole : headerLength + (size - headerLength) = size := by omega
  refine ⟨size - headerLength, ?_⟩
  unfold paddedEnvelopeLength
  rw [whole, padded]
  exact max_eq_right large

/-- **The sizes of one power of two** are the multiples of its unit. -/
theorem sizeClasses_eq {e : Nat} (large : 8 ≤ e) :
    sizeClasses e = (· * 2 ^ (e - (Nat.log2 e + 1))) ''
      Finset.Ico (2 ^ (Nat.log2 e + 1)) (2 ^ (Nat.log2 e + 2)) := by
  have width : Nat.log2 e + 1 ≤ e := (Nat.log2_lt (by omega)).mpr Nat.lt_two_pow_self
  have positive : 0 < 2 ^ (e - (Nat.log2 e + 1)) := Nat.two_pow_pos _
  have low : 2 ^ (Nat.log2 e + 1) * 2 ^ (e - (Nat.log2 e + 1)) = 2 ^ e := by
    rw [← Nat.pow_add, Nat.add_sub_cancel' width]
  have high : 2 ^ (Nat.log2 e + 2) * 2 ^ (e - (Nat.log2 e + 1)) = 2 ^ (e + 1) := by
    rw [Nat.pow_succ, Nat.mul_right_comm, low, Nat.pow_succ]
  have least : 2 ^ 8 ≤ 2 ^ e := Nat.pow_le_pow_right (by decide) large
  ext size
  rw [Finset.coe_Ico, sizeClasses, Set.mem_ofPred_eq, exists_paddedEnvelopeLength]
  constructor
  · rintro ⟨⟨minimal, padded⟩, rfl⟩
    have long : 1 < size := by omega
    obtain ⟨count, isCount⟩ := unit_dvd_padme long
    rw [padded, Nat.mul_comm] at isCount
    have lower : 2 ^ (Nat.log2 (Nat.log2 size) + 1) * unit size ≤ count * unit size := by
      rw [← isCount]
      exact low.trans_le (Nat.log2_self_le (by omega))
    have upper : count * unit size < 2 ^ (Nat.log2 (Nat.log2 size) + 2) * unit size := by
      rw [← isCount]
      exact Nat.lt_log2_self.trans_eq high.symm
    exact ⟨count, ⟨Nat.le_of_mul_le_mul_right lower positive, Nat.lt_of_mul_lt_mul_right upper⟩,
      isCount.symm⟩
  rintro ⟨count, ⟨lower, upper⟩, rfl⟩
  dsimp only
  have above := Nat.mul_le_mul_right (2 ^ (e - (Nat.log2 e + 1))) lower
  have below := Nat.mul_lt_mul_of_pos_right upper positive
  rw [low] at above
  rw [high] at below
  have exponent : Nat.log2 (count * 2 ^ (e - (Nat.log2 e + 1))) = e :=
    (Nat.log2_eq_iff (by omega)).mpr ⟨above, below⟩
  refine ⟨⟨by omega, padme_eq_self (by omega) ?_⟩, exponent⟩
  rw [unit, exponent]
  exact Nat.dvd_mul_left _ _

theorem ncard_sizeClasses {e : Nat} (large : 8 ≤ e) :
    (sizeClasses e).ncard = 2 ^ (Nat.log2 e + 1) := by
  rw [sizeClasses_eq large,
    Set.ncard_image_of_injective _ fun _ _ => Nat.eq_of_mul_eq_mul_right (Nat.two_pow_pos _),
    Set.ncard_coe_finset, Nat.card_Ico, Nat.pow_succ _ (Nat.log2 e + 1)]
  omega

theorem sizeClasses_empty {e : Nat} (small : e < 8) : sizeClasses e = ∅ := by
  refine Set.eq_empty_of_forall_notMem fun size isSize => ?_
  obtain ⟨isLength, rfl⟩ := isSize
  have minimal := (exists_paddedEnvelopeLength.mp isLength).1
  have := (Nat.le_log2 (k := 8) (by omega : size ≠ 0)).mpr minimal
  omega

/-- **Padmé is sound**: the padded length has room, is at most 12 percent larger, is padded as it
is, grows with the length, and is what the protocol document says; the exponent of its unit is not
negative.  The padded lengths of envelopes grow with the JSON, and those with the same `E` are at
most `2 ^ S`, that is, at most `2 * E`. -/
theorem padme_sound :
    (∀ length, length ≤ padme length ∧ 25 * padme length ≤ 28 * length ∧
      padme (padme length) = padme length ∧ padmeBits length = padme length ∧
      (1 < length → 0 ≤ roundingExponent length)) ∧
    Monotone padme ∧ Monotone paddedEnvelopeLength ∧
    ∀ e, (sizeClasses e).ncard ≤ 2 ^ (Nat.log2 e + 1) ∧ (sizeClasses e).ncard ≤ 2 * e := by
  refine ⟨fun length => ?_, padme_mono, paddedEnvelopeLength_mono, fun e => ?_⟩
  · refine ⟨le_padme length, padme_overhead length, padme_padme length, padmeBits_eq length, ?_⟩
    intro long
    have := width_le long
    unfold roundingExponent
    omega
  by_cases large : 8 ≤ e
  · have power := Nat.log2_self_le (n := e) (by omega)
    rw [ncard_sizeClasses large]
    exact ⟨le_rfl, by omega⟩
  · rw [sizeClasses_empty (Nat.lt_of_not_le large), Set.ncard_empty]
    exact ⟨Nat.zero_le _, Nat.zero_le _⟩

/-- **The classes of a power of two are not `O(log log)` many**, and the lengths from 256 to 511
fall into 17 of them, the first of the next power of two among them. -/
theorem classes_not_log_log :
    (¬ ∃ bound, ∀ e, (sizeClasses e).ncard ≤ bound * Nat.log2 e) ∧
    ((Finset.Ico 256 512).image fun length => paddedEnvelopeLength (length - 5)).card = 17 := by
  constructor
  · rintro ⟨bound, bounded⟩
    -- the exponent `2 ^ (2 * half)` has more than `half * half` classes
    obtain ⟨half, isHalf⟩ : ∃ half, half = 2 * bound + 3 := ⟨_, rfl⟩
    have below : half < 2 ^ half := Nat.lt_two_pow_self
    have large : 2 ^ 3 ≤ 2 ^ (2 * half) := Nat.pow_le_pow_right (by decide) (by omega)
    have few := bounded (2 ^ (2 * half))
    rw [ncard_sizeClasses large, Nat.log2_two_pow, Nat.pow_succ, Nat.mul_left_comm, Nat.two_mul half,
      Nat.pow_add] at few
    have square : half * half < 2 ^ half * 2 ^ half := Nat.mul_self_lt_mul_self below
    have share : 2 * bound * half ≤ half * half := Nat.mul_le_mul_right half (by omega)
    rw [Nat.mul_assoc] at share
    omega
  · decide +kernel

end MessagingStack.Sdk.Content

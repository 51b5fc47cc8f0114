import Mathlib.Data.List.Flatten
import Mathlib.Data.UInt
import Mathlib.Tactic.IntervalCases
import MessagingStack.Base.Text

/-!
# The hex codec

`hex::decode` undoes `hex::encode`, so two byte strings with one encoding are equal
(`Hex.encode_injective`).  An encoding has no character beside the sixteen digits
(`Hex.mem_encode`), which is what the searches in texts built from addresses rest on.
-/

namespace MessagingStack.Hex

/-- The sixteen digits `hex::encode` writes. -/
def digits : List Char :=
  ['0', '1', '2', '3', '4', '5', '6', '7', '8', '9', 'a', 'b', 'c', 'd', 'e', 'f']

theorem digit_spec : ∀ value < 16,
    digit (UInt8.ofNat value) ∈ digits ∧
      String.utf8EncodeChar (digit (UInt8.ofNat value)) =
        [UInt8.ofNat (digit (UInt8.ofNat value)).toNat] ∧
      ∀ index, val (UInt8.ofNat (digit (UInt8.ofNat value)).toNat) index =
        .ok (UInt8.ofNat value) := by
  intro value small
  interval_cases value <;> exact ⟨by decide, by decide, fun _ => rfl⟩

theorem digit_mem_digits {value : UInt8} (small : value < 16) : digit value ∈ digits := by
  have spec := (digit_spec value.toNat (UInt8.lt_iff_toNat_lt.mp small)).1
  rwa [UInt8.ofNat_toNat] at spec

theorem high_lt (byte : UInt8) : byte / 16 < 16 := by
  rw [UInt8.lt_iff_toNat_lt, UInt8.toNat_div]
  have := byte.toNat_lt
  simp only [UInt8.reduceToNat]
  omega

theorem low_lt (byte : UInt8) : byte % 16 < 16 := by
  rw [UInt8.lt_iff_toNat_lt, UInt8.toNat_mod]
  simp only [UInt8.reduceToNat]
  omega

theorem mem_encode {bytes : Bytes} {c : Char} (member : c ∈ (encode bytes).toList) :
    c ∈ digits := by
  rw [encode, String.toList_ofList, List.mem_flatMap] at member
  obtain ⟨byte, -, isDigit⟩ := member
  rcases List.mem_cons.mp isDigit with rfl | isLow
  · exact digit_mem_digits (high_lt byte)
  · rw [List.mem_singleton.mp isLow]
    exact digit_mem_digits (low_lt byte)

/-- The bytes of one encoded byte. -/
theorem utf8_pair {value : UInt8} (small : value < 16) :
    String.utf8EncodeChar (digit value) = [UInt8.ofNat (digit value).toNat] := by
  have spec := (digit_spec value.toNat (UInt8.lt_iff_toNat_lt.mp small)).2.1
  rwa [UInt8.ofNat_toNat] at spec

theorem val_digit {value : UInt8} (small : value < 16) (index : Nat) :
    val (UInt8.ofNat (digit value).toNat) index = .ok value := by
  have spec := (digit_spec value.toNat (UInt8.lt_iff_toNat_lt.mp small)).2.2 index
  rwa [UInt8.ofNat_toNat] at spec

theorem utf8_encode_cons (byte : UInt8) (rest : Bytes) :
    Text.utf8 (encode (byte :: rest)) =
      UInt8.ofNat (digit (byte / 16)).toNat :: UInt8.ofNat (digit (byte % 16)).toNat ::
        Text.utf8 (encode rest) := by
  simp only [Text.utf8, encode, String.toList_ofList, List.flatMap_cons, List.cons_append,
    List.nil_append, utf8_pair (high_lt byte), utf8_pair (low_lt byte)]

theorem length_utf8_encode (bytes : Bytes) :
    (Text.utf8 (encode bytes)).length = 2 * bytes.length := by
  induction bytes with
  | nil => rfl
  | cons byte rest ih =>
    rw [utf8_encode_cons, List.length_cons, List.length_cons, ih, List.length_cons]
    omega

theorem high_low (byte : UInt8) : byte / 16 * 16 + byte % 16 = byte := by
  rw [← UInt8.toNat_inj]
  have := byte.toNat_lt
  simp only [UInt8.toNat_add, UInt8.toNat_mul, UInt8.toNat_div, UInt8.toNat_mod, UInt8.reduceToNat]
  omega

theorem decodePairs_encode (bytes : Bytes) (index : Nat) :
    decodePairs (Text.utf8 (encode bytes)) index = .ok bytes := by
  induction bytes generalizing index with
  | nil => rfl
  | cons byte rest ih =>
    rw [utf8_encode_cons, decodePairs, val_digit (high_lt byte), val_digit (low_lt byte), ih]
    exact congrArg (fun first => Except.ok (first :: rest)) (high_low byte)

/-- **The round trip of the codec.** -/
theorem decode_encode (bytes : Bytes) : decode (encode bytes) = .ok bytes := by
  have even : ¬(2 * bytes.length) % 2 ≠ 0 := by omega
  rw [decode, length_utf8_encode, if_neg even, decodePairs_encode]

/-- An encoding is in lower case. -/
theorem toAsciiLowercase_encode (bytes : Bytes) :
    Text.toAsciiLowercase (encode bytes) = encode bytes := by
  have lower : ∀ c ∈ digits, c.toLower = c := by
    have each : digits.all (fun c => c.toLower == c) = true := by decide
    simpa only [List.all_eq_true, beq_iff_eq] using each
  have chars : (encode bytes).toList.map Char.toLower = (encode bytes).toList.map id :=
    List.map_congr_left fun c isIn => lower c (mem_encode isIn)
  rw [Text.toAsciiLowercase, chars, List.map_id, String.ofList_toList]

theorem encode_injective : Function.Injective encode := by
  intro left right same
  have decoded := decode_encode left
  rw [same, decode_encode] at decoded
  exact (Except.ok.inj decoded).symm

end MessagingStack.Hex

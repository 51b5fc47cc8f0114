import Mathlib.Data.Int.Bitwise
import Mathlib.Data.Nat.Log
import MessagingStack.Base.Text

/-!
# Padded frames

A frame is a version byte, the length of a body in four bytes, the body, and zeros up to a size
that depends on the length of the body only.  A reader that checks all of it accepts exactly the
frames (`read_eq_some_iff`), whatever the size function is, as long as the frame has room for its
body.

Padmé is such a size function: `padme_mono`, `padme_padme` and `padme_overhead` say that it is sound.
A UTF-8 body is read by the inverse of `Text.utf8` (`fromUtf8_eq_some_iff`).
-/

namespace MessagingStack

namespace PaddedFrame

/-! ## Four-byte lengths -/

/-- `setUint32`, big endian: a number modulo `2 ^ 32`. -/
def u32 (value : Nat) : Bytes :=
  [UInt8.ofNat (value / 2 ^ 24), UInt8.ofNat (value / 2 ^ 16), UInt8.ofNat (value / 2 ^ 8),
    UInt8.ofNat value]

/-- `getUint32`, big endian. -/
def readU32 : Bytes → Nat
  | [a, b, c, d] => a.toNat * 2 ^ 24 + b.toNat * 2 ^ 16 + c.toNat * 2 ^ 8 + d.toNat
  | _ => 0

@[simp] theorem length_u32 (value : Nat) : (u32 value).length = 4 := rfl

theorem readU32_u32 (value : Nat) : readU32 (u32 value) = value % 2 ^ 32 := by
  simp only [readU32, u32, UInt8.toNat_ofNat']
  omega

theorem readU32_lt (bytes : Bytes) : readU32 bytes < 2 ^ 32 := by
  unfold readU32
  split
  · next a b c d =>
    have := a.toNat_lt
    have := b.toNat_lt
    have := c.toNat_lt
    have := d.toNat_lt
    omega
  · decide

theorem u32_readU32 (a b c d : UInt8) : u32 (readU32 [a, b, c, d]) = [a, b, c, d] := by
  have boundA := a.toNat_lt
  have boundB := b.toNat_lt
  have boundC := c.toNat_lt
  have boundD := d.toNat_lt
  have same : ∀ (byte : UInt8) (value : Nat), value % 256 = byte.toNat →
      UInt8.ofNat value = byte := by
    intro byte value isByte
    rw [← UInt8.toNat_inj, UInt8.toNat_ofNat']
    exact isByte
  simp only [u32, readU32, List.cons.injEq, and_true]
  refine ⟨same a _ ?_, same b _ ?_, same c _ ?_, same d _ ?_⟩ <;> omega

/-! ## Frames -/

section Frames

variable (version : UInt8) (size : Nat → Nat)

/-- The number of bytes before the body. -/
def headerLength : Nat := 5

def frame (body : Bytes) : Bytes :=
  version :: u32 body.length ++ body ++
    List.replicate (size body.length - (headerLength + body.length)) 0

/-- The body of a frame: the version, the length, the size and the padding are checked in turn. -/
def read (bytes : Bytes) : Option Bytes :=
  if bytes.length < headerLength ∨ bytes.head? ≠ some version then none
  else
    let length := readU32 ((bytes.drop 1).take 4)
    if bytes.length < headerLength + length then none
    else if bytes.length ≠ size length then none
    else if (bytes.drop (headerLength + length)).all (· == 0) then
      some ((bytes.drop headerLength).take length)
    else none

variable {version size}

theorem length_frame (room : ∀ length, headerLength + length ≤ size length) (body : Bytes) :
    (frame version size body).length = size body.length := by
  have enough := room body.length
  simp only [frame, headerLength, List.length_append, List.length_cons, length_u32,
    List.length_replicate] at enough ⊢
  omega

theorem read_frame (room : ∀ length, headerLength + length ≤ size length) {body : Bytes}
    (fits : body.length < 2 ^ 32) : read version size (frame version size body) = some body := by
  have enough := room body.length
  have isLength : readU32 (((frame version size body).drop 1).take 4) = body.length := by
    have isHeader : ((frame version size body).drop 1).take 4 = u32 body.length := by
      rw [frame, List.cons_append, List.cons_append, List.drop_succ_cons, List.drop_zero,
        List.append_assoc, List.take_left' (length_u32 _)]
    rw [isHeader, readU32_u32, Nat.mod_eq_of_lt fits]
  have isHead : (frame version size body).head? = some version := rfl
  have isRest : (frame version size body).drop headerLength =
      body ++ List.replicate (size body.length - (headerLength + body.length)) 0 := by
    rw [frame, List.append_assoc]
    exact List.drop_left' rfl
  have isPadding : (frame version size body).drop (headerLength + body.length) =
      List.replicate (size body.length - (headerLength + body.length)) 0 := by
    rw [← List.drop_drop, isRest]
    exact List.drop_left' rfl
  unfold read
  have isLong : ¬(size body.length < headerLength ∨ some version ≠ some version) := by
    rintro (isShort | differs)
    · rw [headerLength] at enough isShort
      omega
    · exact differs rfl
  rw [isHead, length_frame room, if_neg isLong]
  dsimp only
  rw [isLength]
  rw [if_neg (not_lt.mpr enough), if_neg (by simp), isPadding, isRest, if_pos (by simp),
    List.take_left' rfl]

theorem eq_frame_of_read {a b c d : UInt8} {rest body : Bytes}
    (isSize : rest.length + 5 = size (readU32 [a, b, c, d]))
    (isLong : readU32 [a, b, c, d] ≤ rest.length)
    (isZero : ∀ byte ∈ rest.drop (readU32 [a, b, c, d]), byte = 0)
    (isBody : body = rest.take (readU32 [a, b, c, d])) :
    body.length < 2 ^ 32 ∧ version :: a :: b :: c :: d :: rest = frame version size body := by
  have isLength : body.length = readU32 [a, b, c, d] := by
    rw [isBody, List.length_take, Nat.min_eq_left isLong]
  refine ⟨isLength ▸ readU32_lt _, ?_⟩
  have isPadding : rest.drop (readU32 [a, b, c, d]) =
      List.replicate (size body.length - (headerLength + body.length)) 0 := by
    refine List.eq_replicate_iff.mpr ⟨?_, isZero⟩
    rw [List.length_drop, isLength, ← isSize, headerLength]
    omega
  rw [frame, ← isPadding, isLength, u32_readU32, isBody, List.append_assoc, List.take_append_drop]
  rfl

/-- **What is read is exactly the frames**: of bodies whose length fits in four bytes. -/
theorem read_eq_some_iff (room : ∀ length, headerLength + length ≤ size length)
    {bytes body : Bytes} :
    read version size bytes = some body ↔
      body.length < 2 ^ 32 ∧ bytes = frame version size body := by
  refine ⟨fun isBody => ?_, fun ⟨fits, isFrame⟩ => isFrame ▸ read_frame room fits⟩
  unfold read at isBody
  by_cases isShort : bytes.length < headerLength ∨ bytes.head? ≠ some version
  · cases if_pos isShort ▸ isBody
  rw [if_neg isShort] at isBody
  rw [not_or, not_lt, not_not] at isShort
  obtain ⟨long, isHead⟩ := isShort
  -- the header is five bytes, and the rest is the body and the padding
  obtain ⟨a, b, c, d, rest, rfl⟩ : ∃ a b c d rest, bytes = version :: a :: b :: c :: d :: rest := by
    match bytes, long, isHead with
    | e :: a :: b :: c :: d :: rest, _, isHead =>
      cases isHead
      exact ⟨a, b, c, d, rest, rfl⟩
  have isHeader : ((version :: a :: b :: c :: d :: rest).drop 1).take 4 = [a, b, c, d] := rfl
  have skipped : ∀ count, (version :: a :: b :: c :: d :: rest).drop (headerLength + count) =
      rest.drop count := by
    intro count
    rw [← List.drop_drop]
    rfl
  rw [isHeader] at isBody
  dsimp only at isBody
  have isDrop := skipped 0
  rw [Nat.add_zero, List.drop_zero] at isDrop
  rw [skipped, isDrop] at isBody
  have isWhole : (version :: a :: b :: c :: d :: rest).length = rest.length + 5 := by simp
  rw [isWhole] at isBody
  split_ifs at isBody with isCut isSize isZero
  rw [headerLength] at isCut
  refine eq_frame_of_read (not_not.mp isSize) (by omega) ?_ (Option.some.inj isBody).symm
  simpa using isZero

theorem read_frame_of_long (room : ∀ length, headerLength + length ≤ size length) {body : Bytes}
    (long : size body.length ≠ size (body.length % 2 ^ 32)) :
    read version size (frame version size body) = none := by
  cases isRead : read version size (frame version size body) with
  | none => rfl
  | some other =>
    obtain ⟨fits, same⟩ := (read_eq_some_iff room).mp isRead
    have sizes := congrArg List.length same
    rw [length_frame room, length_frame room] at sizes
    have headers : u32 body.length = u32 other.length := by
      have first : ∀ body : Bytes, ((frame version size body).drop 1).take 4 = u32 body.length :=
        fun _ => rfl
      rw [← first body, same, first other]
    have lengths := congrArg readU32 headers
    rw [readU32_u32, readU32_u32, Nat.mod_eq_of_lt fits] at lengths
    rw [lengths] at long
    exact absurd sizes long

end Frames

/-! ## Padmé -/

/-- Rounds a length up: its lowest bits are zero, but for about `log log` of the highest. -/
def padme (length : Nat) : Nat :=
  if length ≤ 1 then length
  else
    let e := Nat.log2 length
    let s := Nat.log2 e + 1
    let lastBits := e - s
    let mask := 2 ^ lastBits - 1
    -- `Math.ceil(length / (mask + 1)) * (mask + 1)`
    (length + mask) / (mask + 1) * (mask + 1)

theorem le_padme (length : Nat) : length ≤ padme length := by
  unfold padme
  split_ifs
  · exact le_refl _
  dsimp only
  generalize 2 ^ (Nat.log2 length - (Nat.log2 (Nat.log2 length) + 1)) - 1 = mask
  have whole := Nat.div_add_mod (length + mask) (mask + 1)
  have part := Nat.mod_lt (length + mask) (Nat.succ_pos mask)
  rw [Nat.mul_comm] at whole
  rw [Nat.succ_eq_add_one] at part
  omega

variable {length : Nat}

/-- What the padded size of a length is a multiple of. -/
def unit (length : Nat) : Nat :=
  2 ^ (Nat.log2 length - (Nat.log2 (Nat.log2 length) + 1))

theorem padme_eq (long : 1 < length) :
    padme length = (length + (unit length - 1)) / unit length * unit length := by
  have positive : 0 < unit length := Nat.two_pow_pos _
  unfold padme
  rw [if_neg (by omega)]
  change (length + (unit length - 1)) / (unit length - 1 + 1) * (unit length - 1 + 1) = _
  rw [Nat.sub_add_cancel positive]

theorem unit_dvd_padme (long : 1 < length) : unit length ∣ padme length := by
  rw [padme_eq long]
  exact Nat.dvd_mul_left _ _

/-- **The padded size is the least one** of those that have room. -/
theorem padme_le_iff {size : Nat} (long : 1 < length) (divides : unit length ∣ size) :
    padme length ≤ size ↔ length ≤ size := by
  have positive : 0 < unit length := Nat.two_pow_pos _
  obtain ⟨count, rfl⟩ := divides
  rw [padme_eq long, Nat.mul_comm, Nat.mul_le_mul_left_iff positive,
    Nat.div_le_iff_le_mul_add_pred positive]
  omega

theorem padme_eq_self (long : 1 < length) (divides : unit length ∣ length) :
    padme length = length :=
  le_antisymm ((padme_le_iff long divides).mpr le_rfl) (le_padme length)

theorem padme_lt (long : 1 < length) : padme length < length + unit length := by
  have positive : 0 < unit length := Nat.two_pow_pos _
  have rounded := Nat.div_mul_le_self (length + (unit length - 1)) (unit length)
  rw [padme_eq long]
  omega

/-- **The exponent of the unit is a difference of naturals.** -/
theorem width_le (long : 1 < length) :
    Nat.log2 (Nat.log2 length) + 1 ≤ Nat.log2 length := by
  have positive : Nat.log2 length ≠ 0 := by
    have := (Nat.le_log2 (k := 1) (by omega : length ≠ 0)).mpr long
    omega
  exact (Nat.log2_lt positive).mpr Nat.lt_two_pow_self

theorem unit_eq_of_log2 {other : Nat} (same : Nat.log2 length = Nat.log2 other) :
    unit length = unit other := by
  unfold unit
  rw [same]

theorem unit_dvd_two_pow {exponent : Nat} (above : Nat.log2 length ≤ exponent) :
    unit length ∣ 2 ^ exponent :=
  Nat.pow_dvd_pow 2 (le_trans (Nat.sub_le _ _) above)

/-- **A padded size does not pass the next power of two.** -/
theorem padme_le_two_pow (long : 1 < length) : padme length ≤ 2 ^ (Nat.log2 length + 1) :=
  (padme_le_iff long (unit_dvd_two_pow (Nat.le_succ _))).mpr (le_of_lt Nat.lt_log2_self)

theorem padme_two_pow (exponent : Nat) : padme (2 ^ exponent) = 2 ^ exponent := by
  cases exponent with
  | zero => rfl
  | succ lower =>
    refine padme_eq_self (Nat.one_lt_two_pow (Nat.succ_ne_zero lower)) (unit_dvd_two_pow ?_)
    rw [Nat.log2_two_pow]

/-- **A padded size is padded as it is.** -/
theorem padme_padme (length : Nat) : padme (padme length) = padme length := by
  by_cases short : length ≤ 1
  · have same : padme length = length := if_pos short
    rw [same, same]
  have long : 1 < length := Nat.lt_of_not_le short
  have above := le_padme length
  rcases (padme_le_two_pow long).lt_or_eq with below | isPower
  · -- the size is in the same power of two as the length
    have same : Nat.log2 (padme length) = Nat.log2 length := by
      rw [Nat.log2_eq_iff (by omega)]
      exact ⟨le_trans (Nat.log2_self_le (by omega)) above, below⟩
    refine padme_eq_self (lt_of_lt_of_le long above) ?_
    rw [unit_eq_of_log2 same]
    exact unit_dvd_padme long
  · rw [isPower, padme_two_pow]

/-- **Longer bodies do not get smaller frames.** -/
theorem padme_mono : Monotone padme := by
  intro length other shorter
  by_cases short : length ≤ 1
  · have same : padme length = length := if_pos short
    rw [same]
    exact le_trans shorter (le_padme other)
  have long : 1 < length := Nat.lt_of_not_le short
  have powers : Nat.log2 length ≤ Nat.log2 other :=
    (Nat.le_log2 (by omega)).mpr (le_trans (Nat.log2_self_le (by omega)) shorter)
  rcases powers.lt_or_eq with below | same
  · calc
      padme length ≤ 2 ^ (Nat.log2 length + 1) := padme_le_two_pow long
      _ ≤ 2 ^ Nat.log2 other := Nat.pow_le_pow_right (by decide) below
      _ ≤ other := Nat.log2_self_le (by omega)
      _ ≤ padme other := le_padme other
  have divides : unit length ∣ padme other := by
    rw [unit_eq_of_log2 same]
    exact unit_dvd_padme (by omega)
  exact (padme_le_iff long divides).mpr (le_trans shorter (le_padme other))

/-- **At most 12 percent are added.** -/
theorem padme_overhead (length : Nat) : 25 * padme length ≤ 28 * length := by
  by_cases short : length ≤ 1
  · have same : padme length = length := if_pos short
    omega
  have long : 1 < length := Nat.lt_of_not_le short
  have added := padme_lt long
  have below := Nat.log2_self_le (n := length) (by omega)
  have split : unit length * 2 ^ (Nat.log2 (Nat.log2 length) + 1) = 2 ^ Nat.log2 length := by
    rw [unit, ← Nat.pow_add, Nat.sub_add_cancel (width_le long)]
  by_cases wide : 8 ≤ Nat.log2 length
  · -- the unit is at most a sixteenth of the power of two
    have sixteen : 2 ^ 4 ≤ 2 ^ (Nat.log2 (Nat.log2 length) + 1) :=
      Nat.pow_le_pow_right (by decide)
        (Nat.succ_le_succ ((Nat.le_log2 (by omega)).mpr wide))
    have share := Nat.mul_le_mul_left (unit length) sixteen
    omega
  -- up to 255 the worst length of each power of two is the one after it
  have small : ∀ exponent < 8,
      100 * (2 ^ (exponent - (Nat.log2 exponent + 1)) - 1) ≤ 12 * (2 ^ exponent + 1) := by
    decide
  have worst := small (Nat.log2 length) (by omega)
  change 100 * (unit length - 1) ≤ _ at worst
  rcases below.lt_or_eq with later | isPower
  · omega
  · have same : padme length = length := by rw [← isPower, padme_two_pow]
    omega

/-- `E - S`, which may be negative as far as its type goes. -/
def roundingExponent (length : Nat) : Int :=
  Nat.log2 length - (Nat.log2 (Nat.log2 length) + 1)

/-- The formula of the protocol document: `(L + mask) & ~mask`. -/
def padmeBits (length : Nat) : Int :=
  if length ≤ 1 then length
  else
    let e := Nat.log2 length
    let s := Nat.log2 e + 1
    let mask := 1 <<< (e - s) - 1
    Int.land (length + mask : Nat) (Int.lnot mask)

theorem ldiff_mask (value bits : Nat) :
    Nat.ldiff value (2 ^ bits - 1) = value / 2 ^ bits * 2 ^ bits := by
  refine Nat.eq_of_testBit_eq fun bit => ?_
  rw [Nat.testBit_ldiff, Nat.testBit_two_pow_sub_one, Nat.testBit_mul_two_pow,
    Nat.testBit_div_two_pow]
  by_cases low : bit < bits
  · simp [low]
  · simp [low, Nat.le_of_not_lt low]

/-- **Rounding up by division is rounding up by masking.** -/
theorem padmeBits_eq (length : Nat) : padmeBits length = padme length := by
  unfold padmeBits
  split_ifs with short
  · rw [padme, if_pos short]
  rw [padme_eq (Nat.lt_of_not_le short), unit, ← ldiff_mask]
  dsimp only
  rw [Nat.one_shiftLeft]
  rfl

end PaddedFrame

/-! ## UTF-8 -/

namespace Text

def fromUtf8 (bytes : Bytes) : Option String :=
  bytes.toByteArray.utf8Decode?.map fun chars => String.ofList chars.toList

/-- **UTF-8 is read by the inverse of writing it.** -/
theorem fromUtf8_eq_some_iff {bytes : Bytes} {text : String} :
    fromUtf8 bytes = some text ↔ utf8 text = bytes := by
  constructor
  · intro isText
    obtain ⟨chars, isChars, isOf⟩ := Option.map_eq_some_iff.mp isText
    have decoded : bytes.toByteArray.utf8Decode?.isSome := by rw [isChars]; rfl
    have encoded := ByteArray.utf8Encode_get_utf8Decode? (h := decoded)
    have isGet : bytes.toByteArray.utf8Decode?.get decoded = chars := by
      simp only [isChars, Option.get_some]
    rw [isGet] at encoded
    have same := congrArg (fun array => array.data.toList) encoded
    simp only [List.utf8Encode, List.toList_data_toByteArray] at same
    rw [← isOf, utf8, String.toList_ofList, same]
  rintro rfl
  have decoded := List.utf8Decode?_utf8Encode (l := text.toList)
  rw [List.utf8Encode] at decoded
  rw [fromUtf8, utf8, decoded, Option.map_some, List.toList_toArray, String.ofList_toList]

end Text

end MessagingStack

import Mathlib.Data.UInt
import MessagingStack.Base.Text

/-!
# UTF-16

The strings of the language are sequences of 16-bit code units.  A sequence is well-formed
when it is the code of a text; the conversion to a text replaces every surrogate that is not
one half of a pair, which is what an encoder to UTF-8 does first.
-/

namespace MessagingStack.Utf16

/-- The code units of a character. -/
def units (c : Char) : List UInt16 :=
  if c.toNat < 0x10000 then [UInt16.ofNat c.toNat]
  else
    [UInt16.ofNat (0xD800 + (c.toNat - 0x10000) / 0x400),
      UInt16.ofNat (0xDC00 + (c.toNat - 0x10000) % 0x400)]

def encode (text : List Char) : List UInt16 := text.flatMap units

def isLeading (unit : UInt16) : Bool := 0xD800 ≤ unit.toNat && unit.toNat < 0xDC00

def isTrailing (unit : UInt16) : Bool := 0xDC00 ≤ unit.toNat && unit.toNat < 0xE000

/-- The character of a surrogate pair. -/
def pair (leading trailing : UInt16) : Char :=
  Char.ofNat (0x10000 + (leading.toNat - 0xD800) * 0x400 + (trailing.toNat - 0xDC00))

/-- The text of some code units, with U+FFFD for every lone surrogate. -/
def decode : List UInt16 → List Char
  | [] => []
  | [unit] => if isLeading unit || isTrailing unit then ['\uFFFD'] else [Char.ofNat unit.toNat]
  | unit :: next :: rest =>
    if isLeading unit then
      if isTrailing next then pair unit next :: decode rest
      else '\uFFFD' :: decode (next :: rest)
    else if isTrailing unit then '\uFFFD' :: decode (next :: rest)
    else Char.ofNat unit.toNat :: decode (next :: rest)

/-- The code of some text. -/
def WellFormed (text : List UInt16) : Prop := encode (decode text) = text

instance (text : List UInt16) : Decidable (WellFormed text) :=
  inferInstanceAs (Decidable (encode (decode text) = text))

/-- The number of a character: below the surrogates or above them. -/
theorem toNat_char (c : Char) :
    c.toNat < 0xD800 ∨ 0xE000 ≤ c.toNat ∧ c.toNat < 0x110000 := by
  rcases c.valid with low | ⟨high, small⟩
  · exact .inl low
  · exact .inr ⟨high, small⟩

/-- A character that is one code unit is read back from it. -/
theorem decode_single {c : Char} (small : c.toNat < 0x10000) (rest : List UInt16) :
    decode (UInt16.ofNat c.toNat :: rest) = c :: decode rest := by
  have valid := toNat_char c
  have isNumber : (UInt16.ofNat c.toNat).toNat = c.toNat := by
    rw [UInt16.toNat_ofNat']
    omega
  have notLeading : isLeading (UInt16.ofNat c.toNat) = false := by
    rw [isLeading, isNumber, Bool.and_eq_false_iff, decide_eq_false_iff_not,
      decide_eq_false_iff_not]
    omega
  have notTrailing : isTrailing (UInt16.ofNat c.toNat) = false := by
    rw [isTrailing, isNumber, Bool.and_eq_false_iff, decide_eq_false_iff_not,
      decide_eq_false_iff_not]
    omega
  have isChar : Char.ofNat (UInt16.ofNat c.toNat).toNat = c := by rw [isNumber, Char.ofNat_toNat]
  cases rest with
  | nil =>
    simp only [decode, notLeading, notTrailing, isChar, Bool.or_self, Bool.false_eq_true, if_false]
  | cons => simp only [decode, notLeading, notTrailing, isChar, Bool.false_eq_true, if_false]

theorem decode_pair {c : Char} (large : 0x10000 ≤ c.toNat) (rest : List UInt16) :
    decode (UInt16.ofNat (0xD800 + (c.toNat - 0x10000) / 0x400) ::
      UInt16.ofNat (0xDC00 + (c.toNat - 0x10000) % 0x400) :: rest) = c :: decode rest := by
  have valid := toNat_char c
  have leads : (UInt16.ofNat (0xD800 + (c.toNat - 0x10000) / 0x400)).toNat =
      0xD800 + (c.toNat - 0x10000) / 0x400 := by
    rw [UInt16.toNat_ofNat']
    omega
  have trails : (UInt16.ofNat (0xDC00 + (c.toNat - 0x10000) % 0x400)).toNat =
      0xDC00 + (c.toNat - 0x10000) % 0x400 := by
    rw [UInt16.toNat_ofNat']
    omega
  have leading : isLeading (UInt16.ofNat (0xD800 + (c.toNat - 0x10000) / 0x400)) = true := by
    rw [isLeading, leads, Bool.and_eq_true, decide_eq_true_eq, decide_eq_true_eq]
    omega
  have trailing : isTrailing (UInt16.ofNat (0xDC00 + (c.toNat - 0x10000) % 0x400)) = true := by
    rw [isTrailing, trails, Bool.and_eq_true, decide_eq_true_eq, decide_eq_true_eq]
    omega
  have number : 0x10000 + (0xD800 + (c.toNat - 0x10000) / 0x400 - 0xD800) * 0x400 +
      (0xDC00 + (c.toNat - 0x10000) % 0x400 - 0xDC00) = c.toNat := by
    omega
  rw [decode, leading, trailing, if_pos rfl, if_pos rfl, pair, leads, trails, number,
    Char.ofNat_toNat]

/-- **The code of a text is read back.** -/
@[simp] theorem decode_encode (text : List Char) : decode (encode text) = text := by
  induction text with
  | nil => rfl
  | cons c rest ih =>
    rw [encode, List.flatMap_cons]
    by_cases small : c.toNat < 0x10000
    · rw [units, if_pos small, List.singleton_append, decode_single small]
      exact congrArg (c :: ·) ih
    · rw [units, if_neg small]
      refine (decode_pair (not_lt.mp small) _).trans ?_
      exact congrArg (c :: ·) ih

end MessagingStack.Utf16

import MessagingStack.Base.Text

/-!
# Base64

`btoa` and `atob` of the language, on bytes.  The writer turns three bytes into four digits and
fills the last group up with `=`.  The reader is the lenient one of the standard: it skips white
space, takes off at most two `=` from a text whose length is a multiple of four, and drops the
bits that are left over.

What is written is read back (`decode_encode`), and its length depends on the number of bytes only
(`length_encode`).
-/

namespace MessagingStack.Base64

def digit (number : Nat) : Char :=
  if number < 26 then Char.ofNat (65 + number)
  else if number < 52 then Char.ofNat (71 + number)
  else if number < 62 then Char.ofNat (number - 4)
  else if number = 62 then '+'
  else '/'

/-- The number of a digit. -/
def value (c : Char) : Option Nat :=
  if 'A' ≤ c && c ≤ 'Z' then some (c.toNat - 65)
  else if 'a' ≤ c && c ≤ 'z' then some (c.toNat - 71)
  else if '0' ≤ c && c ≤ '9' then some (c.toNat + 4)
  else if c = '+' then some 62
  else if c = '/' then some 63
  else none

/-- Bytes in groups of six bits. -/
def sextets : Bytes → List Nat
  | a :: b :: c :: rest =>
    a.toNat / 4 :: (a.toNat % 4 * 16 + b.toNat / 16) :: (b.toNat % 16 * 4 + c.toNat / 64) ::
      c.toNat % 64 :: sextets rest
  | [a, b] => [a.toNat / 4, a.toNat % 4 * 16 + b.toNat / 16, b.toNat % 16 * 4]
  | [a] => [a.toNat / 4, a.toNat % 4 * 16]
  | [] => []

/-- Groups of six bits in bytes; what does not fill a byte is dropped. -/
def ofSextets : List Nat → Bytes
  | p :: q :: r :: s :: rest =>
    UInt8.ofNat (p * 4 + q / 16) :: UInt8.ofNat (q % 16 * 16 + r / 4) ::
      UInt8.ofNat (r % 4 * 64 + s) :: ofSextets rest
  | [p, q, r] => [UInt8.ofNat (p * 4 + q / 16), UInt8.ofNat (q % 16 * 16 + r / 4)]
  | [p, q] => [UInt8.ofNat (p * 4 + q / 16)]
  | _ => []

/-- How many `=` follow the digits of so many bytes. -/
def padding (length : Nat) : Nat := (3 - length % 3) % 3

/-- `btoa`. -/
def encode (data : Bytes) : List Char :=
  (sextets data).map digit ++ List.replicate (padding data.length) '='

/-- ASCII white space. -/
def isSpace (c : Char) : Bool := c == ' ' || c == '\t' || c == '\n' || c == '\r' || c.toNat == 12

def withoutPadding (text : List Char) : List Char :=
  if text.length % 4 = 0 then
    match text.reverse with
    | '=' :: '=' :: rest => rest.reverse
    | '=' :: rest => rest.reverse
    | _ => text
  else text

/-- `atob`; none where it throws. -/
def decode (text : List Char) : Option Bytes :=
  let digits := withoutPadding (text.filter fun c => !isSpace c)
  if digits.length % 4 = 1 then none else (digits.mapM value).map ofSextets

/-! ## The digits -/

theorem digit_spec : ∀ number < 64,
    value (digit number) = some number ∧ digit number ≠ '=' ∧ isSpace (digit number) = false ∧
      (digit number).toNat < 128 := by
  decide +kernel

theorem sextets_lt (data : Bytes) : ∀ number ∈ sextets data, number < 64 := by
  fun_induction sextets data with
  | case1 a b c rest ih =>
    have := a.toNat_lt
    have := b.toNat_lt
    have := c.toNat_lt
    intro number isIn
    simp only [List.mem_cons] at isIn
    rcases isIn with rfl | rfl | rfl | rfl | isIn
    · omega
    · omega
    · omega
    · omega
    · exact ih number isIn
  | case2 a b =>
    have := a.toNat_lt
    have := b.toNat_lt
    intro number isIn
    simp only [List.mem_cons, List.not_mem_nil, or_false] at isIn
    omega
  | case3 a =>
    have := a.toNat_lt
    intro number isIn
    simp only [List.mem_cons, List.not_mem_nil, or_false] at isIn
    omega
  | case4 => nofun

theorem mem_digits {data : Bytes} {c : Char} (isIn : c ∈ (sextets data).map digit) :
    ∃ number < 64, digit number = c := by
  obtain ⟨number, inGroups, isDigit⟩ := List.mem_map.mp isIn
  exact ⟨number, sextets_lt data number inGroups, isDigit⟩

theorem length_sextets (data : Bytes) :
    (sextets data).length + padding data.length = (data.length + 2) / 3 * 4 := by
  fun_induction sextets data with
  | case1 a b c rest ih =>
    simp only [padding, List.length_cons] at ih ⊢
    omega
  | case2 | case3 | case4 => simp [padding]

/-- **The length of the text**: four characters for three bytes. -/
theorem length_encode (data : Bytes) : (encode data).length = (data.length + 2) / 3 * 4 := by
  rw [encode, List.length_append, List.length_map, List.length_replicate, length_sextets]

theorem ascii_encode {data : Bytes} {c : Char} (isIn : c ∈ encode data) : c.toNat < 128 := by
  rcases List.mem_append.mp isIn with ofDigits | ofPadding
  · obtain ⟨number, small, rfl⟩ := mem_digits ofDigits
    exact (digit_spec number small).2.2.2
  · rw [List.eq_of_mem_replicate ofPadding]
    decide

/-! ## Reading back -/

theorem ofSextets_sextets (data : Bytes) : ofSextets (sextets data) = data := by
  fun_induction sextets data with
  | case1 a b c rest ih =>
    have := a.toNat_lt
    have := b.toNat_lt
    have := c.toNat_lt
    have first : a.toNat / 4 * 4 + (a.toNat % 4 * 16 + b.toNat / 16) / 16 = a.toNat := by omega
    have second : (a.toNat % 4 * 16 + b.toNat / 16) % 16 * 16 +
        (b.toNat % 16 * 4 + c.toNat / 64) / 4 = b.toNat := by omega
    have third : (b.toNat % 16 * 4 + c.toNat / 64) % 4 * 64 + c.toNat % 64 = c.toNat := by omega
    rw [ofSextets, first, second, third, ih, UInt8.ofNat_toNat, UInt8.ofNat_toNat,
      UInt8.ofNat_toNat]
  | case2 a b =>
    have := a.toNat_lt
    have := b.toNat_lt
    have first : a.toNat / 4 * 4 + (a.toNat % 4 * 16 + b.toNat / 16) / 16 = a.toNat := by omega
    have second : (a.toNat % 4 * 16 + b.toNat / 16) % 16 * 16 + b.toNat % 16 * 4 / 4 =
        b.toNat := by omega
    rw [ofSextets, first, second, UInt8.ofNat_toNat, UInt8.ofNat_toNat]
  | case3 a =>
    have := a.toNat_lt
    have first : a.toNat / 4 * 4 + a.toNat % 4 * 16 / 16 = a.toNat := by omega
    rw [ofSextets, first, UInt8.ofNat_toNat]
  | case4 => rfl

theorem withoutPadding_append {digits : List Char} {count : Nat} (few : count ≤ 2)
    (whole : (digits.length + count) % 4 = 0) (plain : '=' ∉ digits) :
    withoutPadding (digits ++ List.replicate count '=') = digits := by
  have notLast : ∀ rest, digits.reverse ≠ '=' :: rest := by
    intro rest same
    exact plain (List.mem_reverse.mp (same ▸ List.mem_cons_self))
  have isWhole : (digits ++ List.replicate count '=').length % 4 = 0 := by
    rw [List.length_append, List.length_replicate, whole]
  rw [withoutPadding, if_pos isWhole, List.reverse_append, List.reverse_replicate]
  obtain rfl | rfl | rfl : count = 0 ∨ count = 1 ∨ count = 2 := by omega
  · simp only [List.replicate_zero, List.nil_append, List.append_nil]
    split
    · next rest same => exact absurd same (notLast _)
    · next rest _ same => exact absurd same (notLast _)
    · rfl
  · simp only [List.replicate_one, List.singleton_append]
    exact List.reverse_reverse digits
  · show List.reverse (digits.reverse) = digits
    exact List.reverse_reverse digits

/-- **What is written is read back.** -/
theorem decode_encode (data : Bytes) : decode (encode data) = some data := by
  have noSpace : (encode data).filter (fun c => !isSpace c) = encode data := by
    refine List.filter_eq_self.mpr fun c isIn => ?_
    rcases List.mem_append.mp isIn with ofDigits | ofPadding
    · obtain ⟨number, small, rfl⟩ := mem_digits ofDigits
      rw [(digit_spec number small).2.2.1]
      rfl
    · rw [List.eq_of_mem_replicate ofPadding]
      decide
  have plain : '=' ∉ (sextets data).map digit := by
    intro isIn
    obtain ⟨number, small, isPadding⟩ := mem_digits isIn
    exact (digit_spec number small).2.1 isPadding
  have lengths := length_sextets data
  have few : padding data.length ≤ 2 := by
    rw [padding]
    omega
  have whole : (((sextets data).map digit).length + padding data.length) % 4 = 0 := by
    rw [List.length_map, lengths]
    omega
  have digits : withoutPadding (encode data) = (sextets data).map digit :=
    withoutPadding_append few whole plain
  have complete : ¬((sextets data).map digit).length % 4 = 1 := by
    rw [padding] at lengths
    rw [List.length_map]
    omega
  have values : ((sextets data).map digit).mapM value = some (sextets data) := by
    have each := sextets_lt data
    generalize sextets data = numbers at each
    induction numbers with
    | nil => rfl
    | cons number rest ih =>
      obtain ⟨small, others⟩ := List.forall_mem_cons.mp each
      rw [List.map_cons, List.mapM_cons, (digit_spec number small).1, ih others]
      rfl
  rw [decode, noSpace, digits, if_neg complete, values, Option.map_some, ofSextets_sextets]

end MessagingStack.Base64

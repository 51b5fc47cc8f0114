import Mathlib.Data.List.DropRight
import MessagingStack.Base.Text

/-!
# Prefix codes

A canonical text that is signed has to be readable in one way only: two values with the same
text must be the same value.  A code is a *prefix code* when a text that starts with the code
of one value starts with the code of no other; the rest of the text is then determined too, so
prefix codes may be repeated up to a terminator (`PrefixCode.flatMap`) and listed between
separators (`PrefixCode.listed`).  A text of fields between separators is read from both ends
(`first_field`, `last_field`), also when the fields in the middle contain the separator.

The last part applies this to JSON: a string literal is a prefix code (`quote_prefixCode`),
and so is an array of such items (`array_prefixCode`).
-/

namespace MessagingStack

universe u v

/-- Where two texts start with the code of a value, the values and the rests agree. -/
def PrefixCode {α : Type u} {σ : Type v} (code : α → List σ) : Prop :=
  ∀ a b rest rest', code a ++ rest = code b ++ rest' → a = b ∧ rest = rest'

namespace PrefixCode

variable {α : Type u} {σ : Type v} {code : α → List σ}

theorem of_isPrefix (free : ∀ a b, code a <+: code b → a = b) : PrefixCode code := by
  intro a b rest rest' same
  have first : code a <+: code b ++ rest' := same ▸ List.prefix_append _ _
  have second : code b <+: code b ++ rest' := List.prefix_append _ _
  have equal : a = b := by
    rcases List.prefix_or_prefix_of_prefix first second with below | above
    · exact free a b below
    · exact (free b a above).symm
  subst equal
  exact ⟨rfl, List.append_cancel_left same⟩

theorem flatMap (free : PrefixCode code) {stop : σ}
    (starts : ∀ a, ∃ first tail, code a = first :: tail ∧ first ≠ stop) :
    PrefixCode fun values : List α => values.flatMap code ++ [stop] := by
  intro values
  induction values with
  | nil =>
    intro values' rest rest' same
    cases values' with
    | nil => exact ⟨rfl, by simpa using same⟩
    | cons a =>
      obtain ⟨first, tail, isCode, differs⟩ := starts a
      simp [isCode, Ne.symm differs] at same
  | cons a values ih =>
    intro values' rest rest' same
    cases values' with
    | nil =>
      obtain ⟨first, tail, isCode, differs⟩ := starts a
      simp [isCode, differs] at same
    | cons b values' =>
      simp only [List.flatMap_cons, List.append_assoc] at same
      obtain ⟨rfl, tails⟩ := free a b _ _ same
      have again : values.flatMap code ++ [stop] ++ rest =
          values'.flatMap code ++ [stop] ++ rest' := by
        simpa only [List.append_assoc] using tails
      obtain ⟨rfl, rests⟩ := ih values' rest rest' again
      exact ⟨rfl, rests⟩

/-- Each value behind a separator, up to a closing symbol. -/
theorem listed (free : PrefixCode code) {separator close : σ} (differs : separator ≠ close) :
    PrefixCode fun values : List α => values.flatMap (fun a => separator :: code a) ++ [close] := by
  have longer : PrefixCode fun a => separator :: code a := by
    intro a b rest rest' same
    exact free a b rest rest' (List.cons.inj same).2
  exact longer.flatMap fun a => ⟨_, _, rfl, differs⟩

end PrefixCode

/-! ## Fields between separators -/

section Fields

variable {σ : Type v} {separator : σ} {a b : List σ}

theorem first_field (plain : separator ∉ a) (plain' : separator ∉ b) {rest rest' : List σ}
    (same : a ++ separator :: rest = b ++ separator :: rest') : a = b ∧ rest = rest' := by
  induction a generalizing b with
  | nil =>
    cases b with
    | nil => exact ⟨rfl, (List.cons.inj same).2⟩
    | cons => exact absurd ((List.cons.inj same).1 ▸ List.mem_cons_self) plain'
  | cons first a ih =>
    cases b with
    | nil => exact absurd ((List.cons.inj same).1 ▸ List.mem_cons_self) plain
    | cons =>
      obtain ⟨rfl, tails⟩ := List.cons.inj same
      obtain ⟨rfl, rests⟩ := ih (fun isIn => plain (List.mem_cons_of_mem _ isIn))
        (fun isIn => plain' (List.mem_cons_of_mem _ isIn)) tails
      exact ⟨rfl, rests⟩

/-- And off the back. -/
theorem last_field (plain : separator ∉ a) (plain' : separator ∉ b) {rest rest' : List σ}
    (same : rest ++ separator :: a = rest' ++ separator :: b) : rest = rest' ∧ a = b := by
  have reversed : a.reverse ++ separator :: rest.reverse =
      b.reverse ++ separator :: rest'.reverse := by
    simpa using congrArg List.reverse same
  obtain ⟨fields, rests⟩ := first_field (by simpa using plain) (by simpa using plain') reversed
  exact ⟨List.reverse_injective rests, List.reverse_injective fields⟩

end Fields

/-! ## Numbers and bytes -/

/-- The decimal text of an integer. -/
theorem toList_toString_int (value : Int) :
    (toString value).toList =
      if 0 ≤ value then Nat.toDigits 10 value.toNat
      else '-' :: Nat.toDigits 10 (-value).toNat := by
  rw [Int.toString_eq_repr, Int.repr_eq_if]
  split_ifs with sign
  · rw [Nat.toList_repr]
  · rw [String.toList_append, Nat.toList_repr]
    rfl

theorem mem_toString_int {value : Int} {c : Char} (isIn : c ∈ (toString value).toList) :
    c.isDigit = true ∨ c = '-' := by
  rw [toList_toString_int] at isIn
  split_ifs at isIn
  · exact .inl (Nat.isDigit_of_mem_toDigits (by decide) (by decide) isIn)
  · rcases List.mem_cons.mp isIn with sign | isDigit
    · exact .inr sign
    · exact .inl (Nat.isDigit_of_mem_toDigits (by decide) (by decide) isDigit)

theorem toDigits_injective {left right : Nat}
    (same : Nat.toDigits 10 left = Nat.toDigits 10 right) :
    left = right := by
  rw [← Nat.ofDigitChars_ten_toDigits (n := left), same, Nat.ofDigitChars_ten_toDigits]

theorem toString_int_injective : Function.Injective fun value : Int => toString value := by
  intro left right same
  have texts : (toString left).toList = (toString right).toList := congrArg String.toList same
  have noSign : ∀ n, '-' ∉ Nat.toDigits 10 n := by
    intro n isIn
    exact absurd (Nat.isDigit_of_mem_toDigits (by decide) (by decide) isIn) (by decide)
  rw [toList_toString_int, toList_toString_int] at texts
  split_ifs at texts with leftSign rightSign
  · have numbers := toDigits_injective texts
    omega
  · exact absurd (texts ▸ List.mem_cons_self) (noSign left.toNat)
  · exact absurd (texts ▸ List.mem_cons_self) (noSign right.toNat)
  · have numbers := toDigits_injective (List.cons.inj texts).2
    omega

theorem utf8_injective : Function.Injective Text.utf8 := by
  intro text text' same
  have bytes : text.toList.utf8Encode = text'.toList.utf8Encode := by
    unfold List.utf8Encode
    exact congrArg List.toByteArray same
  have chars : String.ofList text.toList = String.ofList text'.toList := by
    rw [← String.toByteArray_inj, String.toByteArray_ofList, String.toByteArray_ofList]
    exact bytes
  simpa using chars

/-- What is taken off both ends is taken off once. -/
theorem trimmed_twice (white : Char → Bool) (chars : List Char) :
    (((chars.dropWhile white).rdropWhile white).dropWhile white).rdropWhile white =
      (chars.dropWhile white).rdropWhile white := by
  -- what is left of a text that does not start with white space does not either
  have start : ((chars.dropWhile white).rdropWhile white).dropWhile white =
      (chars.dropWhile white).rdropWhile white := by
    have isTrimmed := List.dropWhile_eq_self_iff.mp (List.dropWhile_idempotent white chars)
    rw [List.dropWhile_eq_self_iff]
    intro nonempty
    have isPrefix := List.rdropWhile_prefix white (chars.dropWhile white)
    rw [isPrefix.getElem nonempty]
    exact isTrimmed (nonempty.trans_le isPrefix.length_le)
  rw [start, List.rdropWhile_idempotent]

theorem trim_trim (text : String) : Text.trim (Text.trim text) = Text.trim text := by
  have trimmed : ∀ text, Text.trim text = String.ofList
      ((text.toList.dropWhile Text.isWhitespace).rdropWhile Text.isWhitespace) := fun _ => rfl
  rw [trimmed, trimmed, String.toList_ofList, trimmed_twice]

theorem toLower_twice (c : Char) : c.toLower.toLower = c.toLower := by
  unfold Char.toLower
  by_cases isUpper : c.val ≥ 'A'.val ∧ c.val ≤ 'Z'.val
  · rw [dif_pos isUpper]
    refine dif_neg ?_
    have isA : 'A'.val.toNat = 65 := rfl
    have isZ : 'Z'.val.toNat = 90 := rfl
    have isGap : ('a'.val - 'A'.val).toNat = 32 := rfl
    have above := UInt32.le_iff_toNat_le.mp isUpper.1
    have below := UInt32.le_iff_toNat_le.mp isUpper.2
    have isSum : (c.val + ('a'.val - 'A'.val)).toNat = c.val.toNat + 32 := by
      rw [UInt32.toNat_add, isGap]
      omega
    rintro ⟨-, isSmall⟩
    have small := UInt32.le_iff_toNat_le.mp isSmall
    rw [isSum] at small
    omega
  · rw [dif_neg isUpper, dif_neg isUpper]

theorem toAsciiLowercase_twice (text : String) :
    Text.toAsciiLowercase (Text.toAsciiLowercase text) = Text.toAsciiLowercase text := by
  unfold Text.toAsciiLowercase
  rw [String.toList_ofList, List.map_map]
  congr 1
  exact List.map_congr_left fun c _ => toLower_twice c

/-! ## JSON texts -/

namespace Json

/-- The characters that have an escape. -/
def escaped : List Char := '"' :: '\\' :: (List.range 32).map Char.ofNat

theorem escapeChar_of_not_mem {c : Char} (plain : c ∉ escaped) : escapeChar c = [c] := by
  have large : 32 ≤ c.toNat := by
    by_contra small
    refine plain (List.mem_cons_of_mem _ (List.mem_cons_of_mem _ ?_))
    exact List.mem_map.mpr ⟨c.toNat, List.mem_range.mpr (by omega), Char.ofNat_toNat c⟩
  have noQuote : c ≠ '"' := fun same => plain (same ▸ List.mem_cons_self)
  have noBackslash : c ≠ '\\' := fun same =>
    plain (same ▸ List.mem_cons_of_mem _ List.mem_cons_self)
  unfold escapeChar
  split
  · exact absurd rfl noQuote
  · exact absurd rfl noBackslash
  · exact absurd large (by decide)
  · exact absurd large (by decide)
  · exact absurd large (by decide)
  have noBackspace : c.toNat ≠ 8 := by omega
  have noFormFeed : c.toNat ≠ 12 := by omega
  have noControl : ¬c.toNat < 32 := by omega
  simp [noBackspace, noFormFeed, noControl]

theorem escapeChar_of_mem : ∀ c ∈ escaped, (escapeChar c).head? = some '\\' := by
  have each : escaped.all (fun c => (escapeChar c).head? == some '\\') = true := by decide
  simpa only [List.all_eq_true, beq_iff_eq] using each

theorem escapes_free : ∀ c ∈ escaped, ∀ d ∈ escaped,
    (escapeChar c).isPrefixOf (escapeChar d) = true → c = d := by
  have each : (escaped.all fun c => escaped.all fun d =>
      !(escapeChar c).isPrefixOf (escapeChar d) || c == d) = true := by
    decide +kernel
  simp only [List.all_eq_true, Bool.or_eq_true, Bool.not_eq_true', beq_iff_eq] at each
  intro c isIn d isIn' below
  exact (each c isIn d isIn').resolve_left (by simp [below])

theorem escapeChar_prefixCode : PrefixCode escapeChar := by
  refine .of_isPrefix fun c d below => ?_
  by_cases isEscaped : c ∈ escaped
  · by_cases isEscaped' : d ∈ escaped
    · exact escapes_free c isEscaped d isEscaped' (List.isPrefixOf_iff_prefix.mpr below)
    -- a backslash would be a plain character
    rw [escapeChar_of_not_mem isEscaped'] at below
    have head := escapeChar_of_mem c isEscaped
    obtain ⟨tail, isTail⟩ := below
    cases isCode : escapeChar c with
    | nil => simp [isCode] at head
    | cons =>
      rw [isCode] at head isTail
      cases head
      obtain ⟨rfl, -⟩ := List.cons.inj isTail
      exact absurd (by decide) isEscaped'
  rw [escapeChar_of_not_mem isEscaped] at below
  obtain ⟨tail, isTail⟩ := below
  by_cases isEscaped' : d ∈ escaped
  · have head := escapeChar_of_mem d isEscaped'
    rw [← isTail] at head
    cases head
    exact absurd (by decide) isEscaped
  · rw [escapeChar_of_not_mem isEscaped'] at isTail
    exact (List.cons.inj isTail).1

/-- No code of a character starts with the quote that ends the literal. -/
theorem escapeChar_starts (c : Char) :
    ∃ first tail, escapeChar c = first :: tail ∧ first ≠ '"' := by
  by_cases isEscaped : c ∈ escaped
  · have head := escapeChar_of_mem c isEscaped
    cases isCode : escapeChar c with
    | nil => simp [isCode] at head
    | cons =>
      cases isCode ▸ head
      exact ⟨_, _, rfl, by decide⟩
  · exact ⟨c, [], escapeChar_of_not_mem isEscaped, fun same =>
      isEscaped (same ▸ List.mem_cons_self)⟩

theorem quote_toList (text : String) :
    (quote text).toList = '"' :: (text.toList.flatMap escapeChar ++ ['"']) := by
  simp [quote]

theorem quote_prefixCode : PrefixCode fun text : String => (quote text).toList := by
  intro text text' rest rest' same
  simp only [quote_toList, List.cons_append] at same
  obtain ⟨chars, rests⟩ := escapeChar_prefixCode.flatMap escapeChar_starts _ _ rest rest'
    (List.cons.inj same).2
  exact ⟨String.toList_inj.mp chars, rests⟩

/-! ### Arrays -/

/-- The items of an array after its first, with the closing bracket. -/
def arrayTail (items : List String) : List Char :=
  items.flatMap (fun item => ',' :: item.toList) ++ [']']

theorem array_nil : (array []).toList = ['[', ']'] := by decide

theorem intercalate_toList (item : String) (items : List String) :
    (String.intercalate "," (item :: items)).toList =
      item.toList ++ items.flatMap (fun item => ',' :: item.toList) := by
  induction items generalizing item with
  | nil => simp
  | cons next rest ih =>
    rw [String.intercalate_cons_cons]
    simp [ih]

theorem array_cons (item : String) (items : List String) :
    (array (item :: items)).toList = '[' :: (item.toList ++ arrayTail items) := by
  rw [array, String.toList_append, String.toList_append, intercalate_toList, arrayTail,
    List.append_assoc, List.append_assoc]
  rfl

section Items

variable {α : Type} {code : α → String}

theorem array_cons_inj (free : PrefixCode fun a => (code a).toList) {a b : α}
    {items items' : List String} (same : array (code a :: items) = array (code b :: items')) :
    a = b ∧ arrayTail items = arrayTail items' := by
  have texts := congrArg String.toList same
  rw [array_cons, array_cons] at texts
  exact free a b _ _ (List.cons.inj texts).2

/-- And so is every further one. -/
theorem arrayTail_cons_inj (free : PrefixCode fun a => (code a).toList) {a b : α}
    {items items' : List String}
    (same : arrayTail (code a :: items) = arrayTail (code b :: items')) :
    a = b ∧ arrayTail items = arrayTail items' := by
  have split : ∀ (a : α) (items : List String),
      arrayTail (code a :: items) = ',' :: ((code a).toList ++ arrayTail items) := by
    intro a items
    simp [arrayTail]
  rw [split, split] at same
  exact free a b _ _ (List.cons.inj same).2

/-- The last one needs no code: the bracket comes right after it. -/
theorem arrayTail_singleton_inj {item item' : String}
    (same : arrayTail [item] = arrayTail [item']) : item = item' := by
  simp only [arrayTail, List.flatMap_cons, List.flatMap_nil, List.append_nil,
    List.cons_append] at same
  exact String.toList_inj.mp (List.append_cancel_right (List.cons.inj same).2)

theorem array_prefixCode (free : PrefixCode fun a => (code a).toList)
    (starts : ∀ a, ∃ first tail, (code a).toList = first :: tail ∧ first ≠ ']') :
    PrefixCode fun values : List α => (array (values.map code)).toList := by
  have tails : PrefixCode fun values : List α => arrayTail (values.map code) := by
    have listed : PrefixCode fun values : List α =>
        values.flatMap (fun a => ',' :: (code a).toList) ++ [']'] := free.listed (by decide)
    intro values values' rest rest' same
    refine listed values values' rest rest' ?_
    simpa only [arrayTail, List.flatMap_map] using same
  intro values values' rest rest' same
  cases values with
  | nil =>
    cases values' with
    | nil => exact ⟨rfl, by simpa using same⟩
    | cons b =>
      obtain ⟨first, tail, isCode, differs⟩ := starts b
      simp only [List.map_nil, List.map_cons, array_nil, array_cons, isCode,
        List.cons_append] at same
      exact absurd (List.cons.inj (List.cons.inj same).2).1.symm differs
  | cons a values =>
    cases values' with
    | nil =>
      obtain ⟨first, tail, isCode, differs⟩ := starts a
      simp only [List.map_nil, List.map_cons, array_nil, array_cons, isCode,
        List.cons_append] at same
      exact absurd (List.cons.inj (List.cons.inj same).2).1 differs
    | cons b values' =>
      simp only [List.map_cons, array_cons, List.cons_append, List.append_assoc] at same
      obtain ⟨rfl, rests⟩ := free a b _ _ (List.cons.inj same).2
      obtain ⟨rfl, rests'⟩ := tails values values' rest rest' rests
      exact ⟨rfl, rests'⟩

end Items

theorem quote_starts (text : String) :
    ∃ first tail, (quote text).toList = first :: tail ∧ first ≠ ']' :=
  ⟨_, _, quote_toList text, by decide⟩

theorem array_starts (items : List String) :
    ∃ first tail, (array items).toList = first :: tail ∧ first ≠ ']' := by
  cases items with
  | nil => exact ⟨_, _, array_nil, by decide⟩
  | cons item items => exact ⟨_, _, array_cons item items, by decide⟩

def quotes (texts : List String) : String := array (texts.map quote)

theorem quotes_prefixCode : PrefixCode fun texts : List String => (quotes texts).toList :=
  array_prefixCode quote_prefixCode quote_starts

end Json

end MessagingStack

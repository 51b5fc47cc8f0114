import MessagingStack.Base.PrefixCode
import MessagingStack.Sdk.RowsJson

/-!
# The JSON codec of the browser store

`encode` and `decode` of `chat-app/src/lib/mls/mls-store.ts`, on the strings of JavaScript and any
kind of numbers.  A byte array becomes `{ $b: hex }` and a bigint `{ $n: decimal }`, and the reviver
turns every object with such a field back.  A value survives if its numbers are finite and no object
of it has a reserved field (`decode_encode`).
-/

namespace MessagingStack.App

/-! ## Strings -/

abbrev CodeUnit := Fin 65536

instance neZero_size : NeZero 65536 := ⟨by decide⟩

abbrev JsString := List CodeUnit

/-- The code units of a text, one for each character. -/
def ascii (text : String) : JsString := text.toList.map fun c => Fin.ofNat 65536 c.toNat

def chars (text : JsString) : List Char := text.map fun unit => Char.ofNat unit.val

theorem chars_ascii {text : String} (small : ∀ c ∈ text.toList, c.toNat < 128) :
    chars (ascii text) = text.toList := by
  rw [chars, ascii, List.map_map]
  refine (List.map_congr_left fun c isIn => ?_).trans (List.map_id _)
  have below : c.toNat < 65536 := (small c isIn).trans (by decide)
  simp only [Function.comp_apply, Fin.ofNat, Nat.mod_eq_of_lt below, Char.ofNat_toNat, id]

theorem hex_small (bytes : Bytes) : ∀ c ∈ (Hex.encode bytes).toList, c.toNat < 128 := by
  intro c isIn
  have small : (Hex.digits.all fun digit => digit.toNat < 128) = true := by decide
  exact of_decide_eq_true (List.all_eq_true.mp small c (Hex.mem_encode isIn))

theorem decimal_small (value : Int) : ∀ c ∈ (toString value).toList, c.toNat < 128 := by
  intro c isIn
  rcases mem_toString_int isIn with isDigit | rfl
  · have digit := Char.isDigit_iff_toNat.mp isDigit
    exact digit.2.trans_lt (by decide)
  · decide

/-! ## Values -/

/-- A value that the store keeps; what `JSON.parse` reads is one without byte arrays and
bigints. -/
inductive JsValue (Number : Type) where
  | null
  | bool (value : Bool)
  | num (value : Number)
  | str (value : JsString)
  | arr (items : List (JsValue Number))
  | obj (fields : List (JsString × JsValue Number))
  | bytes (value : Bytes)
  | bigint (value : Int)

def JsValue.truthy {Number : Type} [DecidableEq Number] (zero : Number) : JsValue Number → Bool
  | .null => false
  | .bool value => value
  | .num value => value ≠ zero
  | .str value => value ≠ []
  | .bigint value => value ≠ 0
  | .arr _ | .obj _ | .bytes _ => true

/-- What the codec uses of the language: `Number.isFinite`, and `BigInt`, which throws where it
gives nothing here. -/
structure JsonLibrary (Number : Type) where
  finite : Number → Bool
  bigInt : JsValue Number → Option Int
  bigInt_decimal : ∀ value : Int, bigInt (.str (ascii (toString value))) = some value

namespace JsonCodec

variable {Number : Type} (library : JsonLibrary Number)

mutual

/-- `encode`: the replacer, and what `JSON.stringify` makes of numbers. -/
def encode : JsValue Number → JsValue Number
  | .num value => if library.finite value then .num value else .null
  | .arr items => .arr (encodeItems items)
  | .obj fields => .obj (encodeFields fields)
  | .bytes value => .obj [(ascii "$b", .str (ascii (Hex.encode value)))]
  | .bigint value => .obj [(ascii "$n", .str (ascii (toString value)))]
  | .null => .null
  | .bool value => .bool value
  | .str value => .str value

def encodeItems : List (JsValue Number) → List (JsValue Number)
  | [] => []
  | item :: rest => encode item :: encodeItems rest

def encodeFields : List (JsString × JsValue Number) → List (JsString × JsValue Number)
  | [] => []
  | (name, value) :: rest => (name, encode value) :: encodeFields rest

end

/-- The reviver on an object whose fields it has been through; `none` where it throws. -/
def revive (fields : List (JsString × JsValue Number)) : Option (JsValue Number) :=
  match fields.lookup (ascii "$b"), fields.lookup (ascii "$n") with
  | some (.str text), _ => some (.bytes (Sdk.RowsJson.unhexPairs (chars text)))
  | some _, _ => none
  | none, some value => (library.bigInt value).map .bigint
  | none, none => some (.obj fields)

mutual

/-- `decode`, from what `JSON.parse` has read. -/
def decode : JsValue Number → Option (JsValue Number)
  | .arr items => (decodeItems items).map .arr
  | .obj fields => (decodeFields fields).bind (revive library)
  | .null => some .null
  | .bool value => some (.bool value)
  | .num value => some (.num value)
  | .str value => some (.str value)
  | .bytes _ | .bigint _ => none

def decodeItems : List (JsValue Number) → Option (List (JsValue Number))
  | [] => some []
  | item :: rest => do
    let value ← decode item
    let values ← decodeItems rest
    return value :: values

def decodeFields : List (JsString × JsValue Number) → Option (List (JsString × JsValue Number))
  | [] => some []
  | (name, field) :: rest => do
    let value ← decode field
    let values ← decodeFields rest
    return (name, value) :: values

end

/-! ## What survives -/

/-- The names of fields that the reviver takes for its own. -/
def reserved (name : JsString) : Bool := name == ascii "$b" || name == ascii "$n"

mutual

/-- The numbers of the value are finite, and no object of it has a reserved field. -/
def survives : JsValue Number → Bool
  | .num value => library.finite value
  | .arr items => survivesItems items
  | .obj fields => survivesFields fields
  | _ => true

def survivesItems : List (JsValue Number) → Bool
  | [] => true
  | item :: rest => survives item && survivesItems rest

def survivesFields : List (JsString × JsValue Number) → Bool
  | [] => true
  | (name, value) :: rest => !reserved name && survives value && survivesFields rest

end

variable {library}

theorem lookup_of_survives {fields : List (JsString × JsValue Number)} {name : JsString}
    (isReserved : reserved name = true) (survive : survivesFields library fields = true) :
    fields.lookup name = none := by
  induction fields with
  | nil => rfl
  | cons field rest ih =>
    obtain ⟨other, value⟩ := field
    rw [survivesFields, Bool.and_eq_true, Bool.and_eq_true, Bool.not_eq_true'] at survive
    obtain ⟨⟨notReserved, -⟩, restSurvives⟩ := survive
    have differs : (name == other) = false := by
      rw [beq_eq_false_iff_ne]
      rintro rfl
      cases isReserved ▸ notReserved
    rw [List.lookup_cons, differs]
    exact ih restSurvives

theorem revive_of_survives {fields : List (JsString × JsValue Number)}
    (survive : survivesFields library fields = true) :
    revive library fields = some (.obj fields) := by
  rw [revive, lookup_of_survives (by decide) survive, lookup_of_survives (by decide) survive]

/-- A byte array comes back from its object. -/
theorem decode_bytes (value : Bytes) :
    decode library (.obj [(ascii "$b", .str (ascii (Hex.encode value)))] : JsValue Number) =
      some (.bytes value) := by
  have fields : decodeFields library [(ascii "$b",
        (.str (ascii (Hex.encode value)) : JsValue Number))] =
      some [(ascii "$b", .str (ascii (Hex.encode value)))] := by
    simp only [decodeFields, decode, Option.bind_eq_bind, Option.bind_some, Option.pure_def]
  have revived : revive library [(ascii "$b", (.str (ascii (Hex.encode value)) : JsValue Number))] =
      some (.bytes (Sdk.RowsJson.unhexPairs (chars (ascii (Hex.encode value))))) := rfl
  rw [decode, fields, Option.bind_some, revived, chars_ascii (hex_small value)]
  exact congrArg (fun bytes => some (JsValue.bytes bytes)) (Sdk.RowsJson.unhex_encode value)

theorem decode_bigint (value : Int) :
    decode library (.obj [(ascii "$n", .str (ascii (toString value)))] : JsValue Number) =
      some (.bigint value) := by
  have fields : decodeFields library [(ascii "$n",
        (.str (ascii (toString value)) : JsValue Number))] =
      some [(ascii "$n", .str (ascii (toString value)))] := by
    simp only [decodeFields, decode, Option.bind_eq_bind, Option.bind_some, Option.pure_def]
  have revived : revive library [(ascii "$n", (.str (ascii (toString value)) : JsValue Number))] =
      (library.bigInt (.str (ascii (toString value)))).map .bigint := rfl
  rw [decode, fields, Option.bind_some, revived, library.bigInt_decimal, Option.map_some]

mutual

/-- **The round trip of the codec.** -/
theorem decode_encode :
    ∀ value : JsValue Number, survives library value = true →
      decode library (encode library value) = some value
  | .null, _ => by rw [encode, decode]
  | .bool _, _ => by rw [encode, decode]
  | .num value, survive => by
    rw [survives] at survive
    rw [encode, if_pos survive, decode]
  | .str _, _ => by rw [encode, decode]
  | .arr items, survive => by
    rw [survives] at survive
    rw [encode, decode, decodeItems_encodeItems items survive, Option.map_some]
  | .obj fields, survive => by
    rw [survives] at survive
    rw [encode, decode, decodeFields_encodeFields fields survive, Option.bind_some,
      revive_of_survives survive]
  | .bytes value, _ => by rw [encode, decode_bytes]
  | .bigint value, _ => by rw [encode, decode_bigint]

theorem decodeItems_encodeItems :
    ∀ items : List (JsValue Number), survivesItems library items = true →
      decodeItems library (encodeItems library items) = some items
  | [], _ => by rw [encodeItems, decodeItems]
  | item :: rest, survive => by
    rw [survivesItems, Bool.and_eq_true] at survive
    simp only [encodeItems, decodeItems, decode_encode item survive.1,
      decodeItems_encodeItems rest survive.2, Option.bind_eq_bind, Option.bind_some,
      Option.pure_def]

theorem decodeFields_encodeFields :
    ∀ fields : List (JsString × JsValue Number), survivesFields library fields = true →
      decodeFields library (encodeFields library fields) = some fields
  | [], _ => by rw [encodeFields, decodeFields]
  | (name, value) :: rest, survive => by
    rw [survivesFields, Bool.and_eq_true, Bool.and_eq_true] at survive
    simp only [encodeFields, decodeFields, decode_encode value survive.1.2,
      decodeFields_encodeFields rest survive.2, Option.bind_eq_bind, Option.bind_some,
      Option.pure_def]

end

/-! ## Integers

A library whose numbers are integers. -/

def digitsValue (digits : List Char) : Option Nat :=
  if digits.all Char.isDigit then some (Nat.ofDigitChars 10 digits 0) else none

/-- `BigInt` of an integer, of a truth value and of a plain decimal. -/
def bigInt : JsValue Int → Option Int
  | .str text =>
    match chars text with
    | '-' :: digits => (digitsValue digits).map fun value : Nat => -(value : Int)
    | digits => (digitsValue digits).map Int.ofNat
  | .num value => some value
  | .bool value => some value.toInt
  | .bigint value => some value
  | _ => none

theorem digitsValue_toDigits (value : Nat) : digitsValue (Nat.toDigits 10 value) = some value := by
  have digits : (Nat.toDigits 10 value).all Char.isDigit = true :=
    List.all_eq_true.mpr fun c isIn => Nat.isDigit_of_mem_toDigits (by decide) (by decide) isIn
  rw [digitsValue, if_pos digits, Nat.ofDigitChars_ten_toDigits]

theorem bigInt_toString (value : Int) :
    bigInt (.str (ascii (toString value))) = some value := by
  rw [bigInt, chars_ascii (decimal_small value), toList_toString_int]
  by_cases sign : 0 ≤ value
  · rw [if_pos sign]
    split
    · next digits isText =>
      have minus : '-' ∈ Nat.toDigits 10 value.toNat := isText ▸ List.mem_cons_self
      exact absurd (Nat.isDigit_of_mem_toDigits (by decide) (by decide) minus) (by decide)
    · rw [digitsValue_toDigits, Option.map_some]
      exact congrArg some (Int.toNat_of_nonneg sign)
  rw [if_neg sign]
  show (digitsValue (Nat.toDigits 10 (-value).toNat)).map (fun value : Nat => -(value : Int)) = _
  rw [digitsValue_toDigits, Option.map_some]
  congr 1
  omega

def integers : JsonLibrary Int where
  finite _ := true
  bigInt := bigInt
  bigInt_decimal := bigInt_toString

end JsonCodec

end MessagingStack.App

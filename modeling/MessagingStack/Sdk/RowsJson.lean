import MessagingStack.Base.HexCodec

/-!
# The JSON codec of rows and stores

`encodeRowsJson` and `decodeRowsJson` of `mls/types.ts` carry byte arrays and bigints through
JSON: a byte array becomes the object `{ $b: hex }`, a bigint the object `{ $n: decimal }`, and the
reviver turns every object with such a field back.

Nothing marks the objects that the replacer made, so an object of the value itself that has a field
`$b` or `$n` does not survive.  A value without these fields does (`decode_encode`), and whatever
the decoder returns is without them (`plain_of_decode`).
-/

namespace MessagingStack.Sdk

/-- A value with byte arrays and bigints in it. -/
inductive RowsValue where
  | null
  | bool (value : Bool)
  | num (value : Int)
  | str (value : String)
  | arr (items : List RowsValue)
  | obj (fields : List (String × RowsValue))
  | bytes (value : Bytes)
  | bigint (value : Nat)

namespace RowsJson

/-! ## Texts of bytes and bigints -/

/-- The value of a hexadecimal digit. -/
def hexValue (c : Char) : Option Nat :=
  if '0' ≤ c ∧ c ≤ '9' then some (c.toNat - '0'.toNat)
  else if 'a' ≤ c ∧ c ≤ 'f' then some (c.toNat - 'a'.toNat + 10)
  else if 'A' ≤ c ∧ c ≤ 'F' then some (c.toNat - 'A'.toNat + 10)
  else none

/-- `parseInt(h, 16)` of two characters, in a byte array: what follows a digit is cut off, and
without one it is `NaN`, that is zero. -/
def hexByte (high low : Char) : UInt8 :=
  match hexValue high, hexValue low with
  | some high, some low => UInt8.ofNat (high * 16 + low)
  | some high, none => UInt8.ofNat high
  | none, _ => 0

/-- The pairs of `s.match(/../g)`. -/
def unhexPairs : List Char → Bytes
  | high :: low :: rest => hexByte high low :: unhexPairs rest
  | _ => []

def unhex (text : String) : Bytes := unhexPairs text.toList

/-- `BigInt(v)`, without the texts that are not plain decimals: the codec writes none of them. -/
def bigInt : RowsValue → Option Nat
  | .str text =>
    if text.toList.all Char.isDigit then some (Nat.ofDigitChars 10 text.toList 0) else none
  | .num value => if 0 ≤ value then some value.toNat else none
  | .bool value => some value.toNat
  | .bigint value => some value
  | _ => none

theorem hexValue_digit : ∀ value < 16, hexValue (Hex.digit (UInt8.ofNat value)) = some value := by
  decide

theorem hexByte_digits (byte : UInt8) :
    hexByte (Hex.digit (byte / 16)) (Hex.digit (byte % 16)) = byte := by
  have high := hexValue_digit (byte / 16).toNat (UInt8.lt_iff_toNat_lt.mp (Hex.high_lt byte))
  have low := hexValue_digit (byte % 16).toNat (UInt8.lt_iff_toNat_lt.mp (Hex.low_lt byte))
  rw [UInt8.ofNat_toNat] at high low
  rw [hexByte, high, low]
  rw [← UInt8.toNat_inj]
  have := byte.toNat_lt
  simp only [UInt8.toNat_div, UInt8.toNat_mod, UInt8.reduceToNat, UInt8.toNat_ofNat']
  omega

theorem unhex_encode (bytes : Bytes) : unhex (Hex.encode bytes) = bytes := by
  rw [unhex, Hex.encode, String.toList_ofList]
  induction bytes with
  | nil => rfl
  | cons byte rest ih =>
    rw [List.flatMap_cons, List.cons_append, List.cons_append, List.nil_append, unhexPairs, ih,
      hexByte_digits]

/-- The decimal of a bigint gives it back. -/
theorem bigInt_toString (value : Nat) : bigInt (.str (toString value)) = some value := by
  have written : (toString value).toList = Nat.toDigits 10 value := String.toList_ofList
  have digits : (toString value).toList.all Char.isDigit = true := by
    rw [written, List.all_eq_true]
    exact fun c isIn => Nat.isDigit_of_mem_toDigits (by decide) (by decide) isIn
  rw [bigInt, if_pos digits, written, Nat.ofDigitChars_ten_toDigits]

/-! ## The codec -/

mutual

/-- `encodeRowsJson`: the replacer, before `JSON.stringify` writes the text. -/
def encode : RowsValue → Json
  | .null => .null
  | .bool value => .bool value
  | .num value => .num value
  | .str value => .str value
  | .arr items => .arr (encodeItems items)
  | .obj fields => .obj (encodeFields fields)
  | .bytes value => .obj [("$b", .str (Hex.encode value))]
  | .bigint value => .obj [("$n", .str (toString value))]

def encodeItems : List RowsValue → List Json
  | [] => []
  | item :: rest => encode item :: encodeItems rest

def encodeFields : List (String × RowsValue) → List (String × Json)
  | [] => []
  | (name, value) :: rest => (name, encode value) :: encodeFields rest

end

/-- The reviver on an object whose fields it has been through; `none` where it throws. -/
def revive (fields : List (String × RowsValue)) : Option RowsValue :=
  match fields.lookup "$b", fields.lookup "$n" with
  | some (.str text), _ => some (.bytes (unhex text))
  | some _, _ => none
  | none, some value => (bigInt value).map .bigint
  | none, none => some (.obj fields)

mutual

def decode : Json → Option RowsValue
  | .null => some .null
  | .bool value => some (.bool value)
  | .num value => some (.num value)
  | .str value => some (.str value)
  | .arr items => (decodeItems items).map .arr
  | .obj fields => (decodeFields fields).bind revive

def decodeItems : List Json → Option (List RowsValue)
  | [] => some []
  | item :: rest => do
    let value ← decode item
    let values ← decodeItems rest
    return value :: values

def decodeFields : List (String × Json) → Option (List (String × RowsValue))
  | [] => some []
  | (name, field) :: rest => do
    let value ← decode field
    let values ← decodeFields rest
    return (name, value) :: values

end

/-! ## Values that survive -/

/-- The names of fields that the reviver takes for its own. -/
def reserved (name : String) : Bool := name == "$b" || name == "$n"

mutual

/-- No object of the value has a field with a reserved name. -/
def plain : RowsValue → Bool
  | .arr items => plainItems items
  | .obj fields => plainFields fields
  | _ => true

def plainItems : List RowsValue → Bool
  | [] => true
  | item :: rest => plain item && plainItems rest

def plainFields : List (String × RowsValue) → Bool
  | [] => true
  | (name, value) :: rest => !reserved name && plain value && plainFields rest

end

variable {fields : List (String × RowsValue)} {name : String}

theorem plainFields_iff :
    plainFields fields = true ↔
      ∀ field ∈ fields, reserved field.1 = false ∧ plain field.2 = true := by
  induction fields with
  | nil => exact ⟨fun _ _ isIn => absurd isIn List.not_mem_nil, fun _ => rfl⟩
  | cons field rest ih =>
    rw [plainFields, Bool.and_eq_true, Bool.and_eq_true, Bool.not_eq_true', ih,
      List.forall_mem_cons]

theorem plainItems_iff {items : List RowsValue} :
    plainItems items = true ↔ ∀ item ∈ items, plain item = true := by
  induction items with
  | nil => exact ⟨fun _ _ isIn => absurd isIn List.not_mem_nil, fun _ => rfl⟩
  | cons item rest ih => rw [plainItems, Bool.and_eq_true, ih, List.forall_mem_cons]

theorem lookup_of_plainFields (isReserved : reserved name = true)
    (arePlain : plainFields fields = true) :
    fields.lookup name = none := by
  induction fields with
  | nil => rfl
  | cons field rest ih =>
    obtain ⟨other, value⟩ := field
    rw [plainFields, Bool.and_eq_true, Bool.and_eq_true, Bool.not_eq_true'] at arePlain
    obtain ⟨⟨notReserved, -⟩, restPlain⟩ := arePlain
    have differs : (name == other) = false := by
      rw [beq_eq_false_iff_ne]
      rintro rfl
      cases isReserved ▸ notReserved
    rw [List.lookup_cons, differs]
    exact ih restPlain

theorem plain_of_lookup {value : RowsValue} (arePlain : plainFields fields = true)
    (found : fields.lookup name = some value) :
    plain value = true := by
  induction fields with
  | nil => cases found
  | cons field rest ih =>
    obtain ⟨other, first⟩ := field
    rw [plainFields, Bool.and_eq_true, Bool.and_eq_true] at arePlain
    rw [List.lookup_cons] at found
    split at found
    · cases found
      exact arePlain.1.2
    · exact ih arePlain.2 found

/-- The reviver leaves an object without reserved fields as it is. -/
theorem revive_plain (arePlain : plainFields fields = true) :
    revive fields = some (.obj fields) := by
  rw [revive, lookup_of_plainFields (by decide) arePlain,
    lookup_of_plainFields (by decide) arePlain]

mutual

/-- **The round trip of the codec**, for values without reserved fields. -/
theorem decode_encode : ∀ value, plain value = true → decode (encode value) = some value
  | .null, _ => by rw [encode, decode]
  | .bool _, _ => by rw [encode, decode]
  | .num _, _ => by rw [encode, decode]
  | .str _, _ => by rw [encode, decode]
  | .arr items, isPlain => by
    rw [plain] at isPlain
    rw [encode, decode, decodeItems_encodeItems items isPlain, Option.map_some]
  | .obj fields, isPlain => by
    rw [plain] at isPlain
    rw [encode, decode, decodeFields_encodeFields fields isPlain, Option.bind_some,
      revive_plain isPlain]
  | .bytes value, _ => by
    have text : decodeFields [("$b", .str (Hex.encode value))] =
        some [("$b", .str (Hex.encode value))] := by
      simp only [decodeFields, decode, Option.bind_eq_bind, Option.bind_some, Option.pure_def]
    have revived : revive [("$b", .str (Hex.encode value))] =
        some (.bytes (unhex (Hex.encode value))) := rfl
    rw [encode, decode, text, Option.bind_some, revived, unhex_encode]
  | .bigint value, _ => by
    have text : decodeFields [("$n", .str (toString value))] =
        some [("$n", .str (toString value))] := by
      simp only [decodeFields, decode, Option.bind_eq_bind, Option.bind_some, Option.pure_def]
    have revived : revive [("$n", .str (toString value))] =
        (bigInt (.str (toString value))).map .bigint := rfl
    rw [encode, decode, text, Option.bind_some, revived, bigInt_toString, Option.map_some]

theorem decodeItems_encodeItems :
    ∀ items, plainItems items = true → decodeItems (encodeItems items) = some items
  | [], _ => by rw [encodeItems, decodeItems]
  | item :: rest, arePlain => by
    rw [plainItems, Bool.and_eq_true] at arePlain
    simp only [encodeItems, decodeItems, decode_encode item arePlain.1,
      decodeItems_encodeItems rest arePlain.2, Option.bind_eq_bind, Option.bind_some,
      Option.pure_def]

theorem decodeFields_encodeFields :
    ∀ fields, plainFields fields = true → decodeFields (encodeFields fields) = some fields
  | [], _ => by rw [encodeFields, decodeFields]
  | (name, value) :: rest, arePlain => by
    rw [plainFields, Bool.and_eq_true, Bool.and_eq_true] at arePlain
    simp only [encodeFields, decodeFields, decode_encode value arePlain.1.2,
      decodeFields_encodeFields rest arePlain.2, Option.bind_eq_bind, Option.bind_some,
      Option.pure_def]

end

theorem ne_of_lookup_eq_none (missing : fields.lookup name = none) {field : String × RowsValue}
    (isIn : field ∈ fields) :
    field.1 ≠ name := by
  induction fields with
  | nil => exact absurd isIn List.not_mem_nil
  | cons first rest ih =>
    rw [List.lookup_cons] at missing
    split at missing
    · cases missing
    rename_i differs
    rw [beq_eq_false_iff_ne] at differs
    rcases List.mem_cons.mp isIn with rfl | isLater
    · exact differs.symm
    · exact ih missing isLater

theorem plain_of_revive {value : RowsValue} (values : ∀ field ∈ fields, plain field.2 = true)
    (revived : revive fields = some value) :
    plain value = true := by
  rw [revive] at revived
  split at revived
  · cases revived
    rfl
  · cases revived
  · obtain ⟨bigint, -, rfl⟩ := Option.map_eq_some_iff.mp revived
    rfl
  rename_i noBytes noBigint
  cases revived
  refine plainFields_iff.mpr fun field isIn => ⟨?_, values field isIn⟩
  rw [reserved, Bool.or_eq_false_iff, beq_eq_false_iff_ne, beq_eq_false_iff_ne]
  exact ⟨ne_of_lookup_eq_none noBytes isIn, ne_of_lookup_eq_none noBigint isIn⟩

mutual

/-- **What the decoder returns is plain**: the reviver has taken every reserved field. -/
theorem plain_of_decode : ∀ (text : Json) {value}, decode text = some value → plain value = true
  | .null, _, decoded => by
    rw [decode] at decoded
    cases decoded
    rfl
  | .bool _, _, decoded => by
    rw [decode] at decoded
    cases decoded
    rfl
  | .num _, _, decoded => by
    rw [decode] at decoded
    cases decoded
    rfl
  | .str _, _, decoded => by
    rw [decode] at decoded
    cases decoded
    rfl
  | .arr items, _, decoded => by
    rw [decode] at decoded
    obtain ⟨values, decodedItems, rfl⟩ := Option.map_eq_some_iff.mp decoded
    exact plain_of_decodeItems items decodedItems
  | .obj fields, _, decoded => by
    rw [decode] at decoded
    obtain ⟨values, decodedFields, revived⟩ := Option.bind_eq_some_iff.mp decoded
    exact plain_of_revive (plain_of_decodeFields fields decodedFields) revived

theorem plain_of_decodeItems :
    ∀ (texts : List Json) {items}, decodeItems texts = some items → plainItems items = true
  | [], _, decoded => by
    rw [decodeItems] at decoded
    cases decoded
    rfl
  | text :: rest, _, decoded => by
    simp only [decodeItems, Option.bind_eq_bind, Option.pure_def, Option.bind_eq_some_iff,
      Option.some.injEq] at decoded
    obtain ⟨value, decodedItem, values, decodedRest, rfl⟩ := decoded
    rw [plainItems, plain_of_decode text decodedItem, plain_of_decodeItems rest decodedRest]
    rfl

theorem plain_of_decodeFields :
    ∀ (texts : List (String × Json)) {fields}, decodeFields texts = some fields →
      ∀ field ∈ fields, plain field.2 = true
  | [], _, decoded => by
    rw [decodeFields] at decoded
    cases decoded
    exact fun _ isIn => absurd isIn List.not_mem_nil
  | (name, text) :: rest, _, decoded => by
    simp only [decodeFields, Option.bind_eq_bind, Option.pure_def, Option.bind_eq_some_iff,
      Option.some.injEq] at decoded
    obtain ⟨value, decodedField, values, decodedRest, rfl⟩ := decoded
    intro field isIn
    rcases List.mem_cons.mp isIn with rfl | isLater
    · exact plain_of_decode text decodedField
    · exact plain_of_decodeFields rest decodedRest field isLater

end

end RowsJson

end MessagingStack.Sdk

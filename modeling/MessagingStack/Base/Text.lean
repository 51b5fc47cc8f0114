import Mathlib.Data.List.Basic
import Mathlib.Tactic.Common

/-!
# Bytes, text and JSON values

The wire formats of the relayer are hex strings, trimmed strings and JSON values.
This module has the few operations of them that the sources use, with the
behaviour of the Rust standard library and of the `hex` and `serde_json` crates:
`str::trim` removes Unicode white space, `to_ascii_lowercase` touches ASCII only,
`hex::decode` works on the UTF-8 bytes and reports the first bad position, and a
JSON object is a map with one value for each key.
-/

namespace MessagingStack

/-- A byte string. -/
abbrev Bytes := List UInt8

/-! ## Text -/

namespace Text

/-- The characters with the Unicode property `White_Space`. -/
def isWhitespace (c : Char) : Bool :=
  let n := c.toNat
  (9 ≤ n && n ≤ 13) || n == 32 || n == 133 || n == 160 || n == 5760 ||
    (8192 ≤ n && n ≤ 8202) || n == 8232 || n == 8233 || n == 8239 || n == 8287 || n == 12288

def trim (text : String) : String :=
  String.ofList ((text.toList.dropWhile isWhitespace).reverse.dropWhile isWhitespace).reverse

def toAsciiLowercase (text : String) : String := String.ofList (text.toList.map Char.toLower)

def eqIgnoreAsciiCase (left right : String) : Bool :=
  toAsciiLowercase left == toAsciiLowercase right

def utf8 (text : String) : Bytes := text.toList.flatMap String.utf8EncodeChar

def isAsciiHexdigit (c : Char) : Bool :=
  ('0' ≤ c && c ≤ '9') || ('a' ≤ c && c ≤ 'f') || ('A' ≤ c && c ≤ 'F')

/-- An address of the form `0x…`, lower-cased and left-padded to 64 hex digits. -/
def normalizeHexAddress (raw : String) : Option String :=
  match (toAsciiLowercase (trim raw)).toList with
  | '0' :: 'x' :: digits =>
    if digits.isEmpty || 64 < digits.length || !digits.all isAsciiHexdigit then none
    else some (String.ofList ('0' :: 'x' :: (List.replicate (64 - digits.length) '0' ++ digits)))
  | _ => none

end Text

/-! ## Hexadecimal -/

namespace Hex

inductive FromHexError where
  | invalidHexCharacter (c : Char) (index : Nat)
  | oddLength
  deriving DecidableEq

def FromHexError.display : FromHexError → String
  | .invalidHexCharacter c index =>
    "Invalid character " ++ c.quote ++ " at position " ++ toString index
  | .oddLength => "Odd number of digits"

/-- The value of one hex digit, given as a byte. -/
def val (digit : UInt8) (index : Nat) : Except FromHexError UInt8 :=
  if 65 ≤ digit && digit ≤ 70 then .ok (digit - 55)
  else if 97 ≤ digit && digit ≤ 102 then .ok (digit - 87)
  else if 48 ≤ digit && digit ≤ 57 then .ok (digit - 48)
  else .error (.invalidHexCharacter (Char.ofNat digit.toNat) index)

/-- Decode digit pairs, `index` being the position of the first one. -/
def decodePairs : Bytes → Nat → Except FromHexError Bytes
  | high :: low :: rest, index => do
    let highValue ← val high index
    let lowValue ← val low (index + 1)
    let decoded ← decodePairs rest (index + 2)
    return (highValue * 16 + lowValue) :: decoded
  | _, _ => .ok []

def decode (text : String) : Except FromHexError Bytes :=
  let digits := Text.utf8 text
  if digits.length % 2 ≠ 0 then .error .oddLength else decodePairs digits 0

def digit (value : UInt8) : Char :=
  Char.ofNat (if value < 10 then 48 + value.toNat else 87 + value.toNat)

def encode (bytes : Bytes) : String :=
  String.ofList (bytes.flatMap fun byte => [digit (byte / 16), digit (byte % 16)])

end Hex

/-! ## JSON values -/

/-- `serde_json::Value`, with the integers as the only numbers: no modelled
function reads any other. -/
inductive Json where
  | null
  | bool (value : Bool)
  | num (value : Int)
  | str (value : String)
  | arr (items : List Json)
  | obj (fields : List (String × Json))
  deriving Repr

namespace Json

def get (value : Json) (key : String) : Option Json :=
  match value with
  | .obj fields => fields.lookup key
  | _ => none

def asStr : Json → Option String
  | .str value => some value
  | _ => none

def insertField (fields : List (String × Json)) (key : String) (value : Json) :
    List (String × Json) :=
  fields.filter (fun field => field.1 ≠ key) ++ [(key, value)]

/-- Copy every field of `patch` over `value`, when both are objects. -/
def merge (value patch : Json) : Json :=
  match value, patch with
  | .obj fields, .obj changes =>
    .obj (changes.foldl (fun merged change => insertField merged change.1 change.2) fields)
  | _, _ => value

theorem lookup_insertField (fields : List (String × Json)) (inserted key : String)
    (value : Json) :
    (insertField fields inserted value).lookup key =
      if key = inserted then some value else fields.lookup key := by
  unfold insertField
  induction fields with
  | nil =>
    by_cases same : key = inserted
    · simp [same]
    · simp [List.lookup_cons, beq_eq_false_iff_ne.mpr same, same]
  | cons field rest ih =>
    obtain ⟨name, held⟩ := field
    by_cases sameName : name = inserted
    · have dropped : ((name, held) :: rest).filter (fun field => field.1 ≠ inserted) =
          rest.filter (fun field => field.1 ≠ inserted) := by
        simp [sameName]
      rw [dropped, ih]
      by_cases same : key = inserted
      · simp [same]
      · have other : (key == name) = false := by simpa [sameName] using same
        simp [same, List.lookup_cons, other]
    have kept : ((name, held) :: rest).filter (fun field => field.1 ≠ inserted) =
        (name, held) :: rest.filter (fun field => field.1 ≠ inserted) := by
      simp [sameName]
    rw [kept, List.cons_append, List.lookup_cons, ih]
    by_cases isName : key = name
    · have differs : key ≠ inserted := isName ▸ sameName
      simp [isName, sameName]
    · have other : (key == name) = false := by simpa using isName
      simp only [other, List.lookup_cons]

/-- A field of an object after a merge: the last change of it, or what it was. -/
theorem get_merge (fields changes : List (String × Json)) (key : String) :
    ((obj fields).merge (obj changes)).get key =
      (changes.reverse.lookup key).or (fields.lookup key) := by
  simp only [merge, get]
  induction changes generalizing fields with
  | nil => simp
  | cons change rest ih =>
    obtain ⟨name, value⟩ := change
    rw [List.foldl_cons, ih, lookup_insertField, List.reverse_cons, List.lookup_append]
    by_cases same : key = name
    · simp [same]
    · have other : (key == name) = false := by simpa using same
      simp [same, List.lookup_cons, other]

/-- One character inside a JSON string, escaped as `serde_json` writes it. -/
def escapeChar (c : Char) : List Char :=
  match c with
  | '"' => ['\\', '"']
  | '\\' => ['\\', '\\']
  | '\n' => ['\\', 'n']
  | '\r' => ['\\', 'r']
  | '\t' => ['\\', 't']
  | c =>
    if c.toNat = 8 then ['\\', 'b']
    else if c.toNat = 12 then ['\\', 'f']
    else if c.toNat < 32 then
      ['\\', 'u', '0', '0', Hex.digit (UInt8.ofNat (c.toNat / 16)),
        Hex.digit (UInt8.ofNat (c.toNat % 16))]
    else [c]

/-- A JSON string literal. -/
def quote (text : String) : String := "\"" ++ String.ofList (text.toList.flatMap escapeChar) ++ "\""

def array (items : List String) : String := "[" ++ String.intercalate "," items ++ "]"

end Json

end MessagingStack

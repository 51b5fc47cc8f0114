import MessagingStack.Base.PaddedFrame

/-!
# Content envelopes

The plaintext of a v2 row (`content/envelope.ts`): a padded frame whose body is the JSON of a
message or of an event.  A plaintext that is not decoded falls through to the v1 path, so what the
decoder accepts has to be exact.

It is exact in the frame (`PaddedFrame.read_eq_some_iff`) and lenient in the JSON: a byte order mark
before the text is dropped, a message needs no text, an attachment that is not well typed is left
out and its optional fields get defaults.  `Describes` is what the validator asks of a JSON value.
Its answers are envelopes in a normal form (`Normal`), on which the encoder and the decoder are
inverse to each other (`decode_encode`).
-/

namespace MessagingStack.Sdk.Content

/-! ## Values -/

abbrev JsString := List UInt16

/-- A literal. -/
def js (text : String) : JsString := text.toList.map fun c => UInt16.ofNat c.toNat

/-- What `JSON.parse` returns; an object has one value for each key.  Keys that are not well-formed
Unicode are left out: nothing reads them. -/
inductive JsValue (Number : Type) where
  | null
  | bool (value : Bool)
  | num (value : Number)
  | str (value : JsString)
  | arr (items : List (JsValue Number))
  | obj (fields : List (String × JsValue Number))

namespace JsValue

variable {Number : Type}

/-- A property, undefined where there is none. -/
def get (value : JsValue Number) (key : String) : Option (JsValue Number) :=
  match value with
  | .obj fields => fields.lookup key
  | _ => none

def asString : JsValue Number → Option JsString
  | .str value => some value
  | _ => none

def asNumber : JsValue Number → Option Number
  | .num value => some value
  | _ => none

def asBoolean : JsValue Number → Option Bool
  | .bool value => some value
  | _ => none

def string (value : JsValue Number) (key : String) : Option JsString :=
  (value.get key).bind asString

def number (value : JsValue Number) (key : String) : Option Number := (value.get key).bind asNumber

end JsValue

/-- What the code takes from the language. -/
structure Runtime (Number : Type) where
  /-- The literal `0`. -/
  zero : Number
  isInteger : Number → Bool
  /-- `JSON.parse`, none where it throws. -/
  parse : String → Option (JsValue Number)
  /-- `JSON.stringify`, whose result is well-formed Unicode. -/
  stringify : JsValue Number → String
  /-- `normalize('NFC')`. -/
  nfc : JsString → JsString

/-! ## Envelopes -/

/-- Storage id, key and nonce of an encrypted file. -/
structure FileRef where
  id : JsString
  k : JsString
  n : JsString
  deriving DecidableEq

/-- Attachment reference carried inside the envelope. -/
structure EnvelopeAttachment (Number : Type) where
  file : FileRef
  name : JsString
  mime : JsString
  size : Number
  poster : Option FileRef
  dur : Option Number
  w : Option Number
  h : Option Number

inductive EnvelopeMessageType where
  | text
  | poll
  | post
  | tokenTransfer
  | requestPayment
  deriving DecidableEq

namespace EnvelopeMessageType

def asStr : EnvelopeMessageType → JsString
  | .text => js "text"
  | .poll => js "poll"
  | .post => js "post"
  | .tokenTransfer => js "token_transfer"
  | .requestPayment => js "request_payment"

/-- `MESSAGE_TYPES`. -/
def all : List EnvelopeMessageType := [.text, .poll, .post, .tokenTransfer, .requestPayment]

def ofStr (text : JsString) : Option EnvelopeMessageType := all.find? (·.asStr == text)

end EnvelopeMessageType

inductive EventType where
  | reaction
  | edit
  | delete
  | pin
  | pollVote
  deriving DecidableEq

namespace EventType

def asStr : EventType → JsString
  | .reaction => js "reaction"
  | .edit => js "edit"
  | .delete => js "delete"
  | .pin => js "pin"
  | .pollVote => js "poll_vote"

/-- `EVENT_TYPES`. -/
def all : List EventType := [.reaction, .edit, .delete, .pin, .pollVote]

def ofStr (text : JsString) : Option EventType := all.find? (·.asStr == text)

end EventType

inductive MessageEvent (Number : Type) where
  | reaction (target emoji : JsString) (add : Bool)
  | edit (target text : JsString) (att : Option (List (EnvelopeAttachment Number)))
  | delete (target : JsString)
  | pin (target : JsString) (pinned : Bool)
  | pollVote (target : JsString) (options : List Number)

inductive ContentEnvelope (Number : Type) where
  | message (t : EnvelopeMessageType) (text : JsString)
      (att : Option (List (EnvelopeAttachment Number)))
  | event (e : MessageEvent Number)

/-! ## Encoding -/

section Encoding

variable {Number : Type}

/-- An optional property: an undefined one is left out. -/
def field (key : String) (value : Option (JsValue Number)) :
    List (String × JsValue Number) :=
  (value.map fun value => (key, value)).toList

def FileRef.fields (ref : FileRef) : List (String × JsValue Number) :=
  [("id", .str ref.id), ("k", .str ref.k), ("n", .str ref.n)]

def EnvelopeAttachment.value (a : EnvelopeAttachment Number) : JsValue Number :=
  .obj (a.file.fields ++
    [("name", .str a.name), ("mime", .str a.mime), ("size", .num a.size)] ++
    field "poster" (a.poster.map fun poster => .obj poster.fields) ++
    field "dur" (a.dur.map .num) ++ field "w" (a.w.map .num) ++ field "h" (a.h.map .num))

def attachmentsValue (att : List (EnvelopeAttachment Number)) : JsValue Number :=
  .arr (att.map EnvelopeAttachment.value)

def MessageEvent.value : MessageEvent Number → JsValue Number
  | .reaction target emoji add =>
    .obj [("type", .str EventType.reaction.asStr), ("target", .str target), ("emoji", .str emoji),
      ("add", .bool add)]
  | .edit target text att =>
    .obj ([("type", .str EventType.edit.asStr), ("target", .str target), ("text", .str text)] ++
      field "att" (att.map attachmentsValue))
  | .delete target => .obj [("type", .str EventType.delete.asStr), ("target", .str target)]
  | .pin target pinned =>
    .obj [("type", .str EventType.pin.asStr), ("target", .str target), ("pinned", .bool pinned)]
  | .pollVote target options =>
    .obj [("type", .str EventType.pollVote.asStr), ("target", .str target),
      ("options", .arr (options.map .num))]

def ContentEnvelope.value : ContentEnvelope Number → JsValue Number
  | .message t text att =>
    .obj ([("t", .str t.asStr), ("text", .str text)] ++ field "att" (att.map attachmentsValue))
  | .event e => .obj [("t", .str (js "event")), ("e", e.value)]

end Encoding

def contentEnvelopeVersion : UInt8 := 0x02

def contentEnvelopeMinLength : Nat := 256

def paddedEnvelopeLength (jsonLength : Nat) : Nat :=
  max contentEnvelopeMinLength (PaddedFrame.padme (PaddedFrame.headerLength + jsonLength))

variable {Number : Type} (runtime : Runtime Number)

/-- The JSON of an envelope: `new TextEncoder().encode(JSON.stringify(envelope))`. -/
def envelopeJson (envelope : ContentEnvelope Number) : Bytes :=
  Text.utf8 (runtime.stringify envelope.value)

def encodeContentEnvelope (envelope : ContentEnvelope Number) : Bytes :=
  PaddedFrame.frame contentEnvelopeVersion paddedEnvelopeLength (envelopeJson runtime envelope)

/-! ## Decoding -/

/-- A code unit of `[0-9a-f]`, in either case. -/
def hexUnit (unit : UInt16) : Bool :=
  (48 ≤ unit && unit ≤ 57) || (97 ≤ unit && unit ≤ 102) || (65 ≤ unit && unit ≤ 70)

/-- `/^[0-9a-f]{length}$/i`. -/
def matchesHex (length : Nat) (text : JsString) : Bool := text.length == length && text.all hexUnit

def toLowerCase (text : JsString) : JsString :=
  text.map fun unit => if 65 ≤ unit && unit ≤ 90 then unit + 32 else unit

/-- The three strings of a file reference, with a key of 32 and a nonce of 12 bytes. -/
def readFileRef (value : JsValue Number) : Option FileRef := do
  let id ← value.string "id"
  let k ← value.string "k"
  let n ← value.string "n"
  if matchesHex 64 k && matchesHex 24 n then some { id, k := toLowerCase k, n := toLowerCase n }
  else none

def validateAttachment (a : JsValue Number) : Option (EnvelopeAttachment Number) :=
  (readFileRef a).map fun file =>
    { file
      name := (a.string "name").getD (js "file")
      mime := (a.string "mime").getD (js "application/octet-stream")
      size := (a.number "size").getD runtime.zero
      poster := (a.get "poster").bind readFileRef
      dur := a.number "dur"
      w := a.number "w"
      h := a.number "h" }

/-- `validateAttachments`: what is not an array is no list, what is no attachment is left out. -/
def validateAttachments (raw : Option (JsValue Number)) :
    Option (List (EnvelopeAttachment Number)) :=
  match raw with
  | some (.arr items) => some (items.filterMap (validateAttachment runtime))
  | _ => none

def integers (value : JsValue Number) : Option (List Number) :=
  match value with
  | .arr items => items.mapM fun item => item.asNumber.filter runtime.isInteger
  | _ => none

def validateEvent (raw : JsValue Number) : Option (MessageEvent Number) := do
  let type ← (raw.string "type").bind EventType.ofStr
  let target ← raw.string "target"
  match type with
  | .reaction =>
    let emoji ← raw.string "emoji"
    let add ← (raw.get "add").bind JsValue.asBoolean
    some (.reaction target (runtime.nfc emoji) add)
  | .edit =>
    let text ← raw.string "text"
    some (.edit target text (validateAttachments runtime (raw.get "att")))
  | .delete => some (.delete target)
  | .pin =>
    let pinned ← (raw.get "pinned").bind JsValue.asBoolean
    some (.pin target pinned)
  | .pollVote =>
    let options ← (raw.get "options").bind (integers runtime)
    some (.pollVote target options)

def validateEnvelope (raw : JsValue Number) : Option (ContentEnvelope Number) :=
  match raw.string "t" with
  | none => none
  | some t =>
    if t = js "event" then (raw.get "e").bind fun e => (validateEvent runtime e).map .event
    else
      (EnvelopeMessageType.ofStr t).map fun t =>
        .message t ((raw.string "text").getD [])
          ((validateAttachments runtime (raw.get "att")).filter fun att => !att.isEmpty)

def withoutByteOrderMark (text : String) : String :=
  match text.toList with
  | '\uFEFF' :: rest => String.ofList rest
  | _ => text

def decodeContentEnvelope (plaintext : Bytes) : Option (ContentEnvelope Number) := do
  let json ← PaddedFrame.read contentEnvelopeVersion paddedEnvelopeLength plaintext
  let text ← Text.fromUtf8 json
  let parsed ← runtime.parse (withoutByteOrderMark text)
  validateEnvelope runtime parsed

/-! ## Envelopes in normal form -/

/-- So many hexadecimal digits in lower case. -/
def LowerHex (length : Nat) (text : JsString) : Prop :=
  text.length = length ∧ ∀ unit ∈ text, 48 ≤ unit ∧ unit ≤ 57 ∨ 97 ≤ unit ∧ unit ≤ 102

/-- A key of 32 and a nonce of 12 bytes. -/
structure FileRef.Normal (ref : FileRef) : Prop where
  key : LowerHex 64 ref.k
  nonce : LowerHex 24 ref.n

structure EnvelopeAttachment.Normal (a : EnvelopeAttachment Number) : Prop where
  file : a.file.Normal
  poster : ∀ poster, a.poster = some poster → poster.Normal

/-- Emoji in NFC, file references in lower case, and options that are integers. -/
def MessageEvent.Normal : MessageEvent Number → Prop
  | .reaction _ emoji _ => runtime.nfc emoji = emoji
  | .edit _ _ att => ∀ items, att = some items → ∀ a ∈ items, a.Normal
  | .delete _ | .pin _ _ => True
  | .pollVote _ options => ∀ option ∈ options, runtime.isInteger option = true

def ContentEnvelope.Normal : ContentEnvelope Number → Prop
  | .message _ _ att => ∀ items, att = some items → ∀ a ∈ items, a.Normal
  | .event e => e.Normal runtime

/-- An empty attachment list of a message is left out. -/
def ContentEnvelope.trimmed : ContentEnvelope Number → ContentEnvelope Number
  | .message t text att => .message t text (att.filter fun items => !items.isEmpty)
  | .event e => .event e

/-! ### What the validator makes of the value of an envelope -/

section Values

theorem lookup_entry (key name : String) (value : JsValue Number)
    (rest : List (String × JsValue Number)) :
    ((name, value) :: rest).lookup key = if key = name then some value else rest.lookup key := by
  by_cases same : key = name
  · subst same
    simp
  · simp [same, List.lookup_cons, beq_eq_false_iff_ne.mpr same]

theorem lookup_field (key name : String) (value : Option (JsValue Number))
    (rest : List (String × JsValue Number)) :
    (field name value ++ rest).lookup key =
      if key = name then value.or (rest.lookup key) else rest.lookup key := by
  unfold field
  cases value with
  | none => simp
  | some =>
    by_cases same : key = name
    · subst same
      simp
    · simp [same, List.lookup_cons, beq_eq_false_iff_ne.mpr same]

theorem lookup_last (key name : String) (value : Option (JsValue Number)) :
    (field name value).lookup key = if key = name then value else none := by
  have looked := lookup_field key name value []
  rw [List.append_nil] at looked
  rw [looked]
  cases value <;> simp

variable {length : Nat} {text : JsString} {value : JsValue Number}

theorem toLowerCase_eq (lower : LowerHex length text) :
    toLowerCase text = text := by
  unfold toLowerCase
  conv_rhs => rw [← List.map_id text]
  refine List.map_congr_left fun unit isUnit => if_neg ?_
  have digits := lower.2 unit isUnit
  simp only [UInt16.le_iff_toNat_le, Bool.and_eq_true, decide_eq_true_eq] at digits ⊢
  simp only [UInt16.reduceToNat] at digits ⊢
  omega

theorem matchesHex_of_lowerHex (lower : LowerHex length text) :
    matchesHex length text = true := by
  simp only [matchesHex, Bool.and_eq_true, beq_iff_eq, List.all_eq_true]
  refine ⟨lower.1, fun unit isUnit => ?_⟩
  rcases lower.2 unit isUnit with isDigit | isLetter
  · simp [hexUnit, isDigit]
  · simp [hexUnit, isLetter]

theorem lowerHex_toLowerCase (isHex : matchesHex length text = true) :
    LowerHex length (toLowerCase text) := by
  simp only [matchesHex, Bool.and_eq_true, beq_iff_eq, List.all_eq_true] at isHex
  refine ⟨by rw [toLowerCase, List.length_map]; exact isHex.1, fun unit isUnit => ?_⟩
  obtain ⟨raw, isRaw, rfl⟩ := List.mem_map.mp isUnit
  have isDigit := isHex.2 raw isRaw
  simp only [hexUnit, Bool.or_eq_true, Bool.and_eq_true, decide_eq_true_eq] at isDigit ⊢
  split_ifs with isUpper
  · right
    simp only [UInt16.le_iff_toNat_le, UInt16.toNat_add, UInt16.reduceToNat] at isUpper isDigit ⊢
    omega
  · simp only [UInt16.le_iff_toNat_le, UInt16.reduceToNat] at isUpper isDigit ⊢
    omega

variable {ref : FileRef} {a : EnvelopeAttachment Number}

theorem readFileRef_fields (normal : ref.Normal) (rest : List (String × JsValue Number)) :
    readFileRef (.obj (ref.fields ++ rest)) = some ref := by
  have isKey := matchesHex_of_lowerHex normal.key
  have isNonce := matchesHex_of_lowerHex normal.nonce
  simp [readFileRef, FileRef.fields, lookup_entry, JsValue.string, JsValue.get, JsValue.asString,
    isKey, isNonce, toLowerCase_eq normal.key, toLowerCase_eq normal.nonce]

theorem normal_of_readFileRef (isRef : readFileRef value = some ref) :
    ref.Normal := by
  simp only [readFileRef, Option.bind_eq_bind, Option.bind_eq_some_iff] at isRef
  obtain ⟨id, -, k, -, n, -, checked⟩ := isRef
  split_ifs at checked with isHex
  rw [Bool.and_eq_true] at isHex
  cases checked
  exact ⟨lowerHex_toLowerCase isHex.1, lowerHex_toLowerCase isHex.2⟩

theorem asNumber_num (value : Option Number) :
    (value.map JsValue.num).bind JsValue.asNumber = value := by
  cases value <;> rfl

theorem validateAttachment_value (normal : a.Normal) :
    validateAttachment runtime a.value = some a := by
  have isFile : readFileRef a.value = some a.file := by
    unfold EnvelopeAttachment.value
    simp only [List.append_assoc]
    exact readFileRef_fields normal.file _
  have isPoster : (a.poster.map fun poster => (JsValue.obj poster.fields : JsValue Number)).bind
      readFileRef = a.poster := by
    cases isPoster : a.poster with
    | none => rfl
    | some poster =>
      have isRef := readFileRef_fields (normal.poster poster isPoster)
        ([] : List (String × JsValue Number))
      rw [List.append_nil] at isRef
      exact isRef
  -- a property is looked up in the fixed ones and then in the optional ones
  have lookups : ∀ key, a.value.get key =
      List.lookup key (a.file.fields ++ (("name", JsValue.str a.name) ::
        ("mime", JsValue.str a.mime) :: ("size", JsValue.num a.size) ::
          (field "poster" (a.poster.map fun poster => JsValue.obj poster.fields) ++
            (field "dur" (a.dur.map JsValue.num) ++ (field "w" (a.w.map JsValue.num) ++
              (field "h" (a.h.map JsValue.num) ++ [])))))) := by
    intro key
    simp only [EnvelopeAttachment.value, JsValue.get, List.append_assoc, List.append_nil,
      List.cons_append, List.nil_append]
  have isName : a.value.string "name" = some a.name := by
    rw [JsValue.string, lookups]
    simp [FileRef.fields, lookup_entry, JsValue.asString]
  have isMime : a.value.string "mime" = some a.mime := by
    rw [JsValue.string, lookups]
    simp [FileRef.fields, lookup_entry, JsValue.asString]
  have isSize : a.value.number "size" = some a.size := by
    rw [JsValue.number, lookups]
    simp [FileRef.fields, lookup_entry, JsValue.asNumber]
  have hasPoster : (a.value.get "poster").bind readFileRef = a.poster := by
    rw [lookups]
    simpa [FileRef.fields, lookup_entry, lookup_field, lookup_last] using isPoster
  have isDur : a.value.number "dur" = a.dur := by
    rw [JsValue.number, lookups]
    simpa [FileRef.fields, lookup_entry, lookup_field, lookup_last] using asNumber_num a.dur
  have isW : a.value.number "w" = a.w := by
    rw [JsValue.number, lookups]
    simpa [FileRef.fields, lookup_entry, lookup_field, lookup_last] using asNumber_num a.w
  have isH : a.value.number "h" = a.h := by
    rw [JsValue.number, lookups]
    simpa [FileRef.fields, lookup_entry, lookup_field, lookup_last] using asNumber_num a.h
  rw [validateAttachment, isFile, isName, isMime, isSize, hasPoster, isDur, isW, isH]
  rfl

theorem normal_of_validateAttachment (isAttachment : validateAttachment runtime value = some a) :
    a.Normal := by
  obtain ⟨file, isFile, rfl⟩ := Option.map_eq_some_iff.mp isAttachment
  refine ⟨normal_of_readFileRef isFile, fun poster isPoster => ?_⟩
  obtain ⟨raw, -, isRef⟩ := Option.bind_eq_some_iff.mp isPoster
  exact normal_of_readFileRef isRef

theorem validateAttachments_value {att : Option (List (EnvelopeAttachment Number))}
    (normal : ∀ items, att = some items → ∀ a ∈ items, a.Normal) :
    validateAttachments runtime (att.map attachmentsValue) = att := by
  cases att with
  | none => rfl
  | some items =>
    show some ((items.map EnvelopeAttachment.value).filterMap (validateAttachment runtime)) =
      some items
    rw [List.filterMap_map]
    have each : ∀ a ∈ items,
        (validateAttachment runtime ∘ EnvelopeAttachment.value) a = some a :=
      fun a isItem => validateAttachment_value runtime (normal items rfl a isItem)
    rw [List.filterMap_congr each, List.filterMap_some]

theorem normal_of_validateAttachments {raw : Option (JsValue Number)}
    {items : List (EnvelopeAttachment Number)}
    (validated : validateAttachments runtime raw = some items) : ∀ a ∈ items, a.Normal := by
  unfold validateAttachments at validated
  split at validated
  · cases validated
    intro a isItem
    obtain ⟨value, -, isAttachment⟩ := List.mem_filterMap.mp isItem
    exact normal_of_validateAttachment runtime isAttachment
  · cases validated

theorem integers_eq_some_iff {options : List Number} :
    integers runtime value = some options ↔
      value = .arr (options.map .num) ∧ ∀ option ∈ options, runtime.isInteger option = true := by
  have oneItem : ∀ (item : JsValue Number) (option : Number),
      item.asNumber.filter runtime.isInteger = some option ↔
        item = .num option ∧ runtime.isInteger option = true := by
    intro item option
    cases item <;> simp [JsValue.asNumber, Option.filter_eq_some_iff]
  cases value with
  | arr items =>
    simp only [integers, JsValue.arr.injEq]
    induction items generalizing options with
    | nil => cases options <;> simp
    | cons item items ih =>
      rw [List.mapM_cons]
      simp only [Option.bind_eq_bind, Option.bind_eq_some_iff, oneItem, ih, Option.pure_def,
        Option.some.injEq]
      constructor
      · rintro ⟨option, ⟨rfl, isInteger⟩, rest, ⟨rfl, areIntegers⟩, rfl⟩
        exact ⟨rfl, List.forall_mem_cons.mpr ⟨isInteger, areIntegers⟩⟩
      rintro ⟨same, areIntegers⟩
      cases options with
      | nil => cases same
      | cons option options =>
        obtain ⟨rfl, rfl⟩ := List.cons.inj same
        obtain ⟨isInteger, areRest⟩ := List.forall_mem_cons.mp areIntegers
        exact ⟨option, ⟨rfl, isInteger⟩, options, ⟨rfl, areRest⟩, rfl⟩
  | null | bool | num | str | obj => simp [integers]

@[simp] theorem eventType_ofStr (type : EventType) : EventType.ofStr type.asStr = some type := by
  cases type <;> decide +kernel

@[simp] theorem messageType_ofStr (type : EnvelopeMessageType) :
    EnvelopeMessageType.ofStr type.asStr = some type := by
  cases type <;> decide +kernel

theorem asStr_ne_event (type : EnvelopeMessageType) : type.asStr ≠ js "event" := by
  cases type <;> decide +kernel

theorem validateEvent_value {e : MessageEvent Number} (normal : e.Normal runtime) :
    validateEvent runtime e.value = some e := by
  cases e with
  | reaction target emoji =>
    have isNfc : runtime.nfc emoji = emoji := normal
    simp [validateEvent, MessageEvent.value, lookup_entry, JsValue.string, JsValue.get,
      JsValue.asString,
      JsValue.asBoolean, isNfc]
  | edit target text att =>
    have isList := validateAttachments_value runtime normal
    have isAtt : (MessageEvent.edit target text att).value.get "att" =
        att.map attachmentsValue := by
      simp [MessageEvent.value, lookup_entry, lookup_last, JsValue.get]
    simp only [validateEvent, isAtt, isList]
    simp [MessageEvent.value, lookup_entry, JsValue.string, JsValue.get, JsValue.asString]
  | delete =>
    simp [validateEvent, MessageEvent.value, lookup_entry, JsValue.string, JsValue.get,
      JsValue.asString]
  | pin =>
    simp [validateEvent, MessageEvent.value, lookup_entry, JsValue.string, JsValue.get,
      JsValue.asString,
      JsValue.asBoolean]
  | pollVote =>
    have isVote := (integers_eq_some_iff runtime).mpr ⟨rfl, normal⟩
    simp [validateEvent, MessageEvent.value, lookup_entry, JsValue.string, JsValue.get,
      JsValue.asString, isVote]

/-- **The validator reads an envelope in normal form back.** -/
theorem validateEnvelope_value {e : ContentEnvelope Number} (normal : e.Normal runtime) :
    validateEnvelope runtime e.value = some e.trimmed := by
  cases e with
  | message t text att =>
    have isList := validateAttachments_value runtime normal
    have isAtt : (ContentEnvelope.message t text att).value.get "att" =
        att.map attachmentsValue := by
      simp [ContentEnvelope.value, lookup_entry, lookup_last, JsValue.get]
    have isType : (ContentEnvelope.message t text att).value.string "t" = some t.asStr := by
      simp [ContentEnvelope.value, JsValue.string, JsValue.get, JsValue.asString]
    have isText : (ContentEnvelope.message t text att).value.string "text" = some text := by
      simp [ContentEnvelope.value, lookup_entry, JsValue.string, JsValue.get, JsValue.asString]
    simp [validateEnvelope, isType, asStr_ne_event, isText, isAtt, isList, ContentEnvelope.trimmed]
  | event =>
    have isEvent := validateEvent_value runtime normal
    simp [validateEnvelope, ContentEnvelope.value, lookup_entry, JsValue.string, JsValue.get,
      JsValue.asString,
      isEvent, ContentEnvelope.trimmed]

end Values

/-! ### What the validator accepts -/

/-- **A JSON value describes an event**: it has a known type, a target, and what its type needs. -/
inductive DescribesEvent (value : JsValue Number) : Prop
  | reaction {target emoji : JsString} {add : Bool}
      (isType : value.string "type" = some EventType.reaction.asStr)
      (hasTarget : value.string "target" = some target)
      (hasEmoji : value.string "emoji" = some emoji) (hasAdd : value.get "add" = some (.bool add))
  | edit {target text : JsString} (isType : value.string "type" = some EventType.edit.asStr)
      (hasTarget : value.string "target" = some target) (hasText : value.string "text" = some text)
  | delete {target : JsString} (isType : value.string "type" = some EventType.delete.asStr)
      (hasTarget : value.string "target" = some target)
  | pin {target : JsString} {pinned : Bool}
      (isType : value.string "type" = some EventType.pin.asStr)
      (hasTarget : value.string "target" = some target)
      (hasPinned : value.get "pinned" = some (.bool pinned))
  | pollVote {target : JsString} {options : List Number}
      (isType : value.string "type" = some EventType.pollVote.asStr)
      (hasTarget : value.string "target" = some target)
      (hasOptions : value.get "options" = some (.arr (options.map .num)))
      (areIntegers : ∀ option ∈ options, runtime.isInteger option = true)

/-- **A JSON value describes an envelope**: it is an object with a known message type, or one of
type `event` with an event. -/
inductive Describes (value : JsValue Number) : Prop
  | message (t : EnvelopeMessageType) (isType : value.string "t" = some t.asStr)
  | event {e : JsValue Number} (isType : value.string "t" = some (js "event"))
      (hasEvent : value.get "e" = some e) (describes : DescribesEvent runtime e)

section Acceptance

theorem ofStr_eq_some_iff {text : JsString} {type : EventType} :
    EventType.ofStr text = some type ↔ text = type.asStr := by
  constructor
  · intro isType
    have same := List.find?_some isType
    exact (beq_iff_eq.mp same).symm
  · rintro rfl
    exact eventType_ofStr type

theorem messageType_eq_some_iff {text : JsString} {type : EnvelopeMessageType} :
    EnvelopeMessageType.ofStr text = some type ↔ text = type.asStr := by
  constructor
  · intro isType
    have same := List.find?_some isType
    exact (beq_iff_eq.mp same).symm
  · rintro rfl
    exact messageType_ofStr type

theorem bind_asBoolean {value : Option (JsValue Number)} {flag : Bool} :
    value.bind JsValue.asBoolean = some flag ↔ value = some (.bool flag) := by
  cases value with
  | none => simp
  | some value => cases value <;> simp [JsValue.asBoolean]

variable {value : JsValue Number}

theorem validateEvent_spec {e : MessageEvent Number}
    (idempotent : ∀ text, runtime.nfc (runtime.nfc text) = runtime.nfc text)
    (validated : validateEvent runtime value = some e) :
    DescribesEvent runtime value ∧ e.Normal runtime := by
  simp only [validateEvent, Option.bind_eq_bind, Option.bind_eq_some_iff] at validated
  obtain ⟨type, ⟨text, isText, isType⟩, target, hasTarget, accepted⟩ := validated
  obtain rfl := ofStr_eq_some_iff.mp isType
  cases type with
  | reaction =>
    simp only [Option.bind_eq_some_iff] at accepted
    obtain ⟨emoji, hasEmoji, add, hasAdd, returned⟩ := accepted
    cases returned
    exact ⟨.reaction isText hasTarget hasEmoji
      (bind_asBoolean.mp (Option.bind_eq_some_iff.mpr hasAdd)),
      idempotent emoji⟩
  | edit =>
    simp only [Option.bind_eq_some_iff] at accepted
    obtain ⟨text, hasText, returned⟩ := accepted
    cases returned
    exact ⟨.edit isText hasTarget hasText, fun items isList =>
      normal_of_validateAttachments runtime isList⟩
  | delete =>
    cases accepted
    exact ⟨.delete isText hasTarget, trivial⟩
  | pin =>
    simp only [Option.bind_eq_some_iff] at accepted
    obtain ⟨pinned, hasPinned, returned⟩ := accepted
    cases returned
    exact ⟨.pin isText hasTarget (bind_asBoolean.mp (Option.bind_eq_some_iff.mpr hasPinned)),
      trivial⟩
  | pollVote =>
    simp only [Option.bind_eq_some_iff] at accepted
    obtain ⟨options, ⟨raw, isRaw, isVote⟩, returned⟩ := accepted
    cases returned
    obtain ⟨rfl, areIntegers⟩ := (integers_eq_some_iff runtime).mp isVote
    exact ⟨.pollVote isText hasTarget isRaw areIntegers, areIntegers⟩

theorem validateEvent_of_describes (describes : DescribesEvent runtime value) :
    (validateEvent runtime value).isSome := by
  cases describes with
  | reaction isType hasTarget hasEmoji hasAdd =>
    simp [validateEvent, isType, hasTarget, hasEmoji, hasAdd, JsValue.asBoolean]
  | edit isType hasTarget hasText => simp [validateEvent, isType, hasTarget, hasText]
  | delete isType hasTarget => simp [validateEvent, isType, hasTarget]
  | pin isType hasTarget hasPinned =>
    simp [validateEvent, isType, hasTarget, hasPinned, JsValue.asBoolean]
  | pollVote isType hasTarget hasOptions areIntegers =>
    have isVote := (integers_eq_some_iff runtime).mpr ⟨rfl, areIntegers⟩
    simp [validateEvent, isType, hasTarget, hasOptions, isVote]

/-- **What is accepted is described by its value, is in normal form and has no empty list.** -/
theorem validateEnvelope_spec {e : ContentEnvelope Number}
    (idempotent : ∀ text, runtime.nfc (runtime.nfc text) = runtime.nfc text)
    (validated : validateEnvelope runtime value = some e) :
    Describes runtime value ∧ e.Normal runtime ∧ e.trimmed = e := by
  unfold validateEnvelope at validated
  cases isText : value.string "t" with
  | none => cases isText ▸ validated
  | some =>
    rw [isText] at validated
    dsimp only at validated
    split_ifs at validated with isEvent
    · simp only [Option.bind_eq_some_iff, Option.map_eq_some_iff] at validated
      obtain ⟨raw, hasEvent, event, accepted, rfl⟩ := validated
      obtain ⟨describes, normal⟩ := validateEvent_spec runtime idempotent accepted
      exact ⟨.event (isEvent ▸ isText) hasEvent describes, normal, rfl⟩
    obtain ⟨t, isType, rfl⟩ := Option.map_eq_some_iff.mp validated
    refine ⟨.message t (messageType_eq_some_iff.mp isType ▸ isText), ?_, ?_⟩
    · intro items isList
      obtain ⟨isList, -⟩ := Option.filter_eq_some_iff.mp isList
      exact normal_of_validateAttachments runtime isList
    · simp only [ContentEnvelope.trimmed, Option.filter_filter, Bool.and_self]

theorem validateEnvelope_of_describes (describes : Describes runtime value) :
    (validateEnvelope runtime value).isSome := by
  cases describes with
  | message t isType => simp [validateEnvelope, isType, asStr_ne_event]
  | event isType hasEvent describes =>
    have isEvent := validateEvent_of_describes runtime describes
    simp [validateEnvelope, isType, hasEvent, isEvent]

end Acceptance

/-! ## The format -/

/-- `JSON.stringify` writes an object, and `JSON.parse` undoes it. -/
structure Undone (e : ContentEnvelope Number) : Prop where
  opens : (runtime.stringify e.value).toList.head? = some '{'
  undone : runtime.parse (runtime.stringify e.value) = some e.value

/-- **The byte strings that are envelopes**: the version, the length of the JSON, the JSON, and
zeros up to the padded length; the JSON is UTF-8, and without a byte order mark it parses to a value
that describes an envelope. -/
def IsEnvelope (plaintext : Bytes) : Prop :=
  ∃ json text value, json.length < 2 ^ 32 ∧
    plaintext = 0x02 :: PaddedFrame.u32 json.length ++ json ++ List.replicate
      (max 256 (PaddedFrame.padme (5 + json.length)) - (5 + json.length)) 0 ∧
    Text.utf8 text = json ∧ runtime.parse (withoutByteOrderMark text) = some value ∧
    Describes runtime value

section Format

theorem room (length : Nat) :
    PaddedFrame.headerLength + length ≤ paddedEnvelopeLength length :=
  le_trans (PaddedFrame.le_padme _) (le_max_right _ _)

theorem withoutByteOrderMark_eq {text : String} (opens : text.toList.head? = some '{') :
    withoutByteOrderMark text = text := by
  unfold withoutByteOrderMark
  split
  · next rest isText =>
    cases isText ▸ opens
  · rfl

theorem decode_eq_some_iff {plaintext : Bytes} {e : ContentEnvelope Number} :
    decodeContentEnvelope runtime plaintext = some e ↔
      ∃ json text value, json.length < 2 ^ 32 ∧
        plaintext = PaddedFrame.frame contentEnvelopeVersion paddedEnvelopeLength json ∧
        Text.utf8 text = json ∧ runtime.parse (withoutByteOrderMark text) = some value ∧
        validateEnvelope runtime value = some e := by
  simp only [decodeContentEnvelope, Option.bind_eq_bind, Option.bind_eq_some_iff,
    PaddedFrame.read_eq_some_iff room, Text.fromUtf8_eq_some_iff]
  constructor
  · rintro ⟨json, ⟨fits, isFrame⟩, text, isText, value, parsed, validated⟩
    exact ⟨json, text, value, fits, isFrame, isText, parsed, validated⟩
  · rintro ⟨json, text, value, fits, isFrame, isText, parsed, validated⟩
    exact ⟨json, ⟨fits, isFrame⟩, text, isText, value, parsed, validated⟩

theorem decode_frame {text : String} (fits : (Text.utf8 text).length < 2 ^ 32) :
    decodeContentEnvelope runtime
        (PaddedFrame.frame contentEnvelopeVersion paddedEnvelopeLength (Text.utf8 text)) =
      (runtime.parse (withoutByteOrderMark text)).bind (validateEnvelope runtime) := by
  have isText : Text.fromUtf8 (Text.utf8 text) = some text := Text.fromUtf8_eq_some_iff.mpr rfl
  rw [decodeContentEnvelope, PaddedFrame.read_frame room fits]
  simp only [Option.bind_eq_bind, Option.bind_some, isText]

theorem decode_encode {e : ContentEnvelope Number} (normal : e.Normal runtime)
    (undone : Undone runtime e) (fits : (envelopeJson runtime e).length < 2 ^ 32) :
    decodeContentEnvelope runtime (encodeContentEnvelope runtime e) = some e.trimmed := by
  refine (decode_eq_some_iff runtime).mpr ⟨_, _, _, fits, rfl, rfl, ?_,
    validateEnvelope_value runtime normal⟩
  rw [withoutByteOrderMark_eq undone.opens]
  exact undone.undone

theorem decode_isSome_iff (idempotent : ∀ text, runtime.nfc (runtime.nfc text) = runtime.nfc text)
    (plaintext : Bytes) :
    (decodeContentEnvelope runtime plaintext).isSome ↔ IsEnvelope runtime plaintext := by
  rw [Option.isSome_iff_exists]
  constructor
  · rintro ⟨e, decoded⟩
    obtain ⟨json, text, value, fits, isFrame, isText, parsed, validated⟩ :=
      (decode_eq_some_iff runtime).mp decoded
    exact ⟨json, text, value, fits, isFrame, isText, parsed,
      (validateEnvelope_spec runtime idempotent validated).1⟩
  rintro ⟨json, text, value, fits, isFrame, isText, parsed, describes⟩
  obtain ⟨e, validated⟩ :=
    Option.isSome_iff_exists.mp (validateEnvelope_of_describes runtime describes)
  exact ⟨e, (decode_eq_some_iff runtime).mpr
    ⟨json, text, value, fits, isFrame, isText, parsed, validated⟩⟩

/-- **The content envelope is one exact format**: an envelope in normal form is read back, the
accepted byte strings are the envelopes, and what is decoded is decoded again from its encoding. -/
theorem contentEnvelope_exact
    (idempotent : ∀ text, runtime.nfc (runtime.nfc text) = runtime.nfc text) :
    (∀ e : ContentEnvelope Number, e.Normal runtime → Undone runtime e →
      (envelopeJson runtime e).length < 2 ^ 32 →
      decodeContentEnvelope runtime (encodeContentEnvelope runtime e) = some e.trimmed) ∧
    (∀ plaintext, (decodeContentEnvelope runtime plaintext).isSome ↔ IsEnvelope runtime plaintext) ∧
    (∀ plaintext e, decodeContentEnvelope runtime plaintext = some e → Undone runtime e →
      (envelopeJson runtime e).length < 2 ^ 32 →
      decodeContentEnvelope runtime (encodeContentEnvelope runtime e) = some e) := by
  refine ⟨fun e normal undone fits => decode_encode runtime normal undone fits,
    decode_isSome_iff runtime idempotent, fun plaintext e decoded undone fits => ?_⟩
  obtain ⟨json, text, value, -, -, -, -, validated⟩ := (decode_eq_some_iff runtime).mp decoded
  obtain ⟨-, normal, isTrimmed⟩ := validateEnvelope_spec runtime idempotent validated
  rw [decode_encode runtime normal undone fits, isTrimmed]

end Format

/-! ## What the types of the source say

The interfaces ask for more than the validator: a message has a text, and every entry of a list is
an attachment with all of its fields.  What has the types is accepted
(`describes_of_wellTyped`).
-/

/-- A property that is undefined or a number. -/
def OptionalNumber (value : JsValue Number) (key : String) : Prop :=
  value.get key = none ∨ (value.number key).isSome

/-- The interface `EnvelopeAttachment`. -/
structure WellTypedAttachment (a : JsValue Number) : Prop where
  file : (readFileRef a).isSome
  name : (a.string "name").isSome
  mime : (a.string "mime").isSome
  size : (a.number "size").isSome
  poster : ∀ poster, a.get "poster" = some poster → (readFileRef poster).isSome
  dur : OptionalNumber a "dur"
  w : OptionalNumber a "w"
  h : OptionalNumber a "h"

/-- `att?: EnvelopeAttachment[]`. -/
def WellTypedList (value : JsValue Number) : Prop :=
  ∀ att, value.get "att" = some att → ∃ items, att = .arr items ∧ ∀ a ∈ items, WellTypedAttachment a

/-- The type `ContentEnvelope`. -/
inductive WellTyped (value : JsValue Number) : Prop
  | message (t : EnvelopeMessageType) {text : JsString}
      (isType : value.string "t" = some t.asStr) (hasText : value.string "text" = some text)
      (hasList : WellTypedList value)
  | event {e : JsValue Number} (isType : value.string "t" = some (js "event"))
      (hasEvent : value.get "e" = some e) (describes : DescribesEvent runtime e)
      (hasList : WellTypedList e)

/-! ## Sample envelopes -/

section Samples

/-- Numbers are integers and one half. -/
def renderNumber (value : Rat) : List Char :=
  if value = 1 / 2 then "0.5".toList else (toString value.num).toList

def renderString (text : JsString) : List Char :=
  '"' :: text.map (fun unit => Char.ofNat unit.toNat) ++ ['"']

mutual

/-- `JSON.stringify`, for ASCII strings with nothing to escape. -/
def render : JsValue Rat → List Char
  | .null => "null".toList
  | .bool value => (toString value).toList
  | .num value => renderNumber value
  | .str value => renderString value
  | .arr [] => "[]".toList
  | .arr (item :: items) => '[' :: render item ++ renderItems items ++ [']']
  | .obj [] => "{}".toList
  | .obj ((key, value) :: fields) =>
    '{' :: renderString (js key) ++ ':' :: render value ++ renderFields fields ++ ['}']

def renderItems : List (JsValue Rat) → List Char
  | [] => []
  | item :: items => ',' :: render item ++ renderItems items

def renderFields : List (String × JsValue Rat) → List Char
  | [] => []
  | (key, value) :: fields =>
    ',' :: renderString (js key) ++ ':' :: render value ++ renderFields fields

end

/-- The language, with a parser for the given texts. -/
def sampleRuntime (texts : List (String × JsValue Rat)) : Runtime Rat where
  zero := 0
  isInteger := fun value => value.den == 1
  parse := fun text => texts.lookup text
  stringify := fun value => String.ofList (render value)
  nfc := id

def halfVote : ContentEnvelope Rat := .event (.pollVote (js "m") [1 / 2])

def hello : ContentEnvelope Rat := .message .text (js "hi") (some [])

/-- A message without a text. -/
def textless : JsValue Rat := .obj [("t", .str (js "text"))]

def samples : Runtime Rat :=
  sampleRuntime
    [(String.ofList (render halfVote.value), halfVote.value),
      (String.ofList (render hello.value), hello.value), ("\x7b\"t\":\"text\"\x7d", textless)]

theorem undone_halfVote : Undone samples halfVote where
  opens := by decide +kernel
  undone := List.lookup_cons_self

theorem undone_hello : Undone samples hello where
  opens := by decide +kernel
  undone := by
    have differs : (String.ofList (render hello.value) == String.ofList (render halfVote.value)) =
        false := by decide +kernel
    show List.lookup (String.ofList (render hello.value)) _ = _
    rw [List.lookup_cons, differs]
    exact List.lookup_cons_self

/-- **A message is sent and read, without its empty list of attachments.** -/
theorem hello_is_read :
    decodeContentEnvelope samples (encodeContentEnvelope samples hello) =
      some (.message .text (js "hi") none) := by
  refine (contentEnvelope_exact samples fun _ => rfl).1 hello ?_ undone_hello (by decide +kernel)
  intro items isList a isItem
  cases isList
  cases isItem

/-! ### Many votes -/

/-- A hundred billion billion. -/
def huge : Rat := 100000000000000000000

/-- A vote for so many options. -/
def votes (count : Nat) : ContentEnvelope Rat :=
  .event (.pollVote [] (List.replicate (count + 1) huge))

def shortStart : List Char :=
  "\x7b\"t\":\"event\",\"e\":\x7b\"type\":\"poll_vote\",\"target\":\"\",\"options\":[1e20".toList

def shortNumber : List Char := ",1e20".toList

def shortEnd : List Char := "]\x7d\x7d".toList

/-- Its JSON, with the numbers in scientific notation. -/
def shortText (count : Nat) : List Char :=
  shortStart ++ (List.replicate count shortNumber).flatten ++ shortEnd

/-- The relayer's JSON and the one that is written again, whose numbers have twenty-one digits. -/
def voteRuntime (count : Nat) : Runtime Rat :=
  sampleRuntime
    [(String.ofList (shortText count), (votes count).value),
      (String.ofList (render (votes count).value), (votes count).value)]

def utf8Length (text : List Char) : Nat := (text.flatMap String.utf8EncodeChar).length

theorem length_utf8 (text : List Char) :
    (Text.utf8 (String.ofList text)).length = utf8Length text := by
  rw [Text.utf8, String.toList_ofList, utf8Length]

theorem utf8Length_append (left right : List Char) :
    utf8Length (left ++ right) = utf8Length left + utf8Length right := by
  rw [utf8Length, List.flatMap_append, List.length_append]
  rfl

variable (count : Nat)

theorem utf8Length_replicate (block : List Char) :
    utf8Length (List.replicate count block).flatten = count * utf8Length block := by
  induction count with
  | zero => rw [Nat.zero_mul]; rfl
  | succ count ih =>
    rw [List.replicate_succ, List.flatten_cons, utf8Length_append, ih, Nat.succ_mul, Nat.add_comm]

theorem renderItems_replicate (value : JsValue Rat) (count : Nat) :
    renderItems (List.replicate count value) =
      (List.replicate count (',' :: render value)).flatten := by
  induction count with
  | zero => rfl
  | succ count ih =>
    rw [List.replicate_succ, renderItems, ih, List.replicate_succ, List.flatten_cons]

theorem utf8Length_cons (c : Char) (text : List Char) :
    utf8Length (c :: text) = (String.utf8EncodeChar c).length + utf8Length text := by
  rw [utf8Length, List.flatMap_cons, List.length_append]
  rfl

theorem utf8Length_options :
    utf8Length (render (.arr ((List.replicate (count + 1) huge).map .num))) = 22 * count + 23 := by
  have isHuge : utf8Length (render (.num huge)) = 21 := by decide +kernel
  have isBlock : utf8Length (',' :: render (.num huge)) = 22 := by decide +kernel
  have isOpen : (String.utf8EncodeChar '[').length = 1 := by decide +kernel
  have isClose : utf8Length [']'] = 1 := by decide +kernel
  rw [List.replicate_succ, List.map_cons, List.map_replicate, render, renderItems_replicate,
    utf8Length_append, utf8Length_append, utf8Length_cons, utf8Length_replicate, isHuge, isBlock,
    isOpen, isClose]
  omega

theorem utf8Length_votes :
    utf8Length (render (votes count).value) = 22 * count + 84 := by
  have around : ∀ options : JsValue Rat, utf8Length (render (.obj [("t", .str (js "event")),
      ("e", .obj [("type", .str EventType.pollVote.asStr), ("target", .str []),
        ("options", options)])])) = utf8Length (render options) + 61 := by
    intro options
    have isBrace : (String.utf8EncodeChar '{').length = 1 := by decide +kernel
    have isColon : (String.utf8EncodeChar ':').length = 1 := by decide +kernel
    have isComma : (String.utf8EncodeChar ',').length = 1 := by decide +kernel
    have isClose : (String.utf8EncodeChar '}').length = 1 := by decide +kernel
    have isEmpty : utf8Length [] = 0 := rfl
    have isT : utf8Length (renderString (js "t")) = 3 := by decide +kernel
    have isEvent : utf8Length (renderString (js "event")) = 7 := by decide +kernel
    have isE : utf8Length (renderString (js "e")) = 3 := by decide +kernel
    have isType : utf8Length (renderString (js "type")) = 6 := by decide +kernel
    have isVote : utf8Length (renderString EventType.pollVote.asStr) = 11 := by decide +kernel
    have isTarget : utf8Length (renderString (js "target")) = 8 := by decide +kernel
    have isNone : utf8Length (renderString []) = 2 := by decide +kernel
    have isOptions : utf8Length (renderString (js "options")) = 9 := by decide +kernel
    simp only [render, renderFields, List.append_nil, List.cons_append, utf8Length_append,
      utf8Length_cons, isBrace, isColon, isComma, isClose, isEmpty, isT, isEvent, isE, isType,
      isVote, isTarget, isNone, isOptions]
    omega
  have isOptions := utf8Length_options count
  rw [votes, ContentEnvelope.value, MessageEvent.value, around, isOptions]

theorem undone_votes : Undone (voteRuntime count) (votes count) where
  opens := by
    show (String.ofList (render (votes count).value)).toList.head? = some '{'
    rw [String.toList_ofList, votes, ContentEnvelope.value, render]
    rfl
  undone := by
    show List.lookup (String.ofList (render (votes count).value)) _ = some (votes count).value
    rw [List.lookup_cons]
    split
    · rfl
    · exact List.lookup_cons_self

theorem decode_votes (fits : 5 * count + 67 < 2 ^ 32) :
    decodeContentEnvelope (voteRuntime count) (PaddedFrame.frame contentEnvelopeVersion
      paddedEnvelopeLength (Text.utf8 (String.ofList (shortText count)))) = some (votes count) := by
  have isLength : (Text.utf8 (String.ofList (shortText count))).length < 2 ^ 32 := by
    have isStart : utf8Length shortStart = 64 := by decide +kernel
    have isBlock : utf8Length shortNumber = 5 := by decide +kernel
    have isEnd : utf8Length shortEnd = 3 := by decide +kernel
    rw [length_utf8, shortText, utf8Length_append, utf8Length_append, utf8Length_replicate,
      isStart, isBlock, isEnd]
    omega
  have isBrace : shortStart.head? = some '{' := by decide +kernel
  have opens : (String.ofList (shortText count)).toList.head? = some '{' := by
    rw [String.toList_ofList, shortText, List.append_assoc, List.head?_append, isBrace,
      Option.some_or]
  have parsed : (voteRuntime count).parse (String.ofList (shortText count)) =
      some (votes count).value := List.lookup_cons_self
  have normal : (votes count).Normal (voteRuntime count) := by
    intro option isOption
    have isInteger : (voteRuntime count).isInteger huge = true := by
      show (huge.den == 1) = true
      decide +kernel
    rw [List.eq_of_mem_replicate isOption]
    exact isInteger
  rw [decode_frame _ isLength, withoutByteOrderMark_eq opens, parsed, Option.bind_some,
    validateEnvelope_value _ normal, votes, ContentEnvelope.trimmed]

theorem decode_votes_again
    (outgrown : paddedEnvelopeLength (22 * count + 84) ≠
      paddedEnvelopeLength ((22 * count + 84) % 2 ^ 32))
    :
    decodeContentEnvelope (voteRuntime count)
      (encodeContentEnvelope (voteRuntime count) (votes count)) = none := by
  have isLength : (envelopeJson (voteRuntime count) (votes count)).length = 22 * count + 84 := by
    show (Text.utf8 (String.ofList (render (votes count).value))).length = _
    rw [length_utf8, utf8Length_votes]
  rw [decodeContentEnvelope, encodeContentEnvelope, PaddedFrame.read_frame_of_long room]
  · rfl
  · rw [isLength]
    exact outgrown

/-- **The code is not the type**: a vote for an option that is not an integer is not read back, a
message without a text is accepted, and so is a text with a byte order mark before it; and votes for
eight hundred million options are decoded, but not from their own encoding: the numbers are written
longer than they were read, and the length of the JSON no longer fits in four bytes. -/
theorem envelope_lenient :
    (Undone samples halfVote ∧ (envelopeJson samples halfVote).length < 2 ^ 32 ∧
        decodeContentEnvelope samples (encodeContentEnvelope samples halfVote) = none) ∧
      (samples.parse "\x7b\"t\":\"text\"\x7d" = some textless ∧ ¬WellTyped samples textless ∧
        (decodeContentEnvelope samples (PaddedFrame.frame contentEnvelopeVersion
          paddedEnvelopeLength (Text.utf8 "\x7b\"t\":\"text\"\x7d"))).isSome) ∧
      (samples.parse "\uFEFF\x7b\"t\":\"text\"\x7d" = none ∧
        (decodeContentEnvelope samples (PaddedFrame.frame contentEnvelopeVersion
          paddedEnvelopeLength (Text.utf8 "\uFEFF\x7b\"t\":\"text\"\x7d"))).isSome) ∧
      (decodeContentEnvelope (voteRuntime 800000000) (PaddedFrame.frame contentEnvelopeVersion
          paddedEnvelopeLength (Text.utf8 (String.ofList (shortText 800000000)))) =
            some (votes 800000000) ∧
        Undone (voteRuntime 800000000) (votes 800000000) ∧
        decodeContentEnvelope (voteRuntime 800000000)
          (encodeContentEnvelope (voteRuntime 800000000) (votes 800000000)) = none) := by
  have isTextless : samples.parse "\x7b\"t\":\"text\"\x7d" = some textless := by
    have isOther : ("\x7b\"t\":\"text\"\x7d" == String.ofList (render halfVote.value)) = false := by
      decide +kernel
    have isOther' : ("\x7b\"t\":\"text\"\x7d" == String.ofList (render hello.value)) = false := by
      decide +kernel
    show List.lookup "\x7b\"t\":\"text\"\x7d" _ = _
    rw [List.lookup_cons, isOther]
    show List.lookup "\x7b\"t\":\"text\"\x7d" _ = _
    rw [List.lookup_cons, isOther']
    exact List.lookup_cons_self
  have accepted : (validateEnvelope samples textless).isSome := by decide +kernel
  refine ⟨⟨undone_halfVote, by decide +kernel, ?_⟩, ⟨isTextless, ?_, ?_⟩, ⟨by decide +kernel, ?_⟩,
    decode_votes _ (by decide), undone_votes _, decode_votes_again _ (by decide +kernel)⟩
  · have refused : (validateEnvelope samples halfVote.value).isNone := by decide +kernel
    have isFrame : encodeContentEnvelope samples halfVote = PaddedFrame.frame contentEnvelopeVersion
        paddedEnvelopeLength (Text.utf8 (samples.stringify halfVote.value)) := rfl
    rw [isFrame, decode_frame _ (by decide +kernel),
      withoutByteOrderMark_eq undone_halfVote.opens, undone_halfVote.undone, Option.bind_some]
    exact Option.isNone_iff_eq_none.mp refused
  · intro typed
    cases typed with
    | message t isType hasText | event _ hasText => cases hasText
  · rw [decode_frame _ (by decide +kernel), withoutByteOrderMark_eq (by decide +kernel),
      isTextless, Option.bind_some]
    exact accepted
  have isText : withoutByteOrderMark "\uFEFF\x7b\"t\":\"text\"\x7d" =
    "\x7b\"t\":\"text\"\x7d" := by
    decide +kernel
  rw [decode_frame _ (by decide +kernel), isText, isTextless, Option.bind_some]
  exact accepted

end Samples

end MessagingStack.Sdk.Content

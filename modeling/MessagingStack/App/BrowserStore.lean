import Mathlib.Order.Fin.Basic
import MessagingStack.App.JsonCodec
import MessagingStack.Base.KeyRanges
import MessagingStack.Base.MapWrites
import MessagingStack.Base.Runs

/-!
# The two MLS stores

`MemoryMlsStateStore` of `mls/types.ts` and `IndexedDbMlsStore` of the chat app's `mls-store.ts`,
called one call after another.  After every run the table holds what the maps hold (`Mirrors`).
Three calls can tell the stores apart: `getCursor`, `listRows` and `groupIds`; a run that asks none
of their bad questions (`Clean`) gets the same answers from both (`answers_alike`).
-/

namespace MessagingStack.App.BrowserStore

/-! ## Numbers, keys and rows -/

/-- `:` -/
def colon : CodeUnit := 58

def semicolon : CodeUnit := 59

/-- `text.padStart(16, '0')`. -/
def padded (text : JsString) : JsString := List.replicate (16 - text.length) 48 ++ text

/-- The numbers of the language, and `String` of them. -/
structure Numbers (Number : Type) extends JsonLibrary Number where
  zero : Number
  text : Number → JsString
  text_plain : ∀ number, colon ∉ text number
  padded_injective : Function.Injective fun number => padded (text number)

theorem Numbers.text_injective {Number : Type} (numbers : Numbers Number) :
    Function.Injective numbers.text := by
  intro left right same
  exact numbers.padded_injective (congrArg padded same)

theorem Numbers.colon_not_mem_padded {Number : Type} (numbers : Numbers Number)
    (number : Number) : colon ∉ padded (numbers.text number) := by
  intro isIn
  rcases List.mem_append.mp isIn with zero | isText
  · exact absurd (List.eq_of_mem_replicate zero) (by decide)
  · exact numbers.text_plain number isText

/-- The id of a group, a hex address; used is that it has no colon. -/
structure GroupId where
  text : JsString
  plain : colon ∉ text
  deriving DecidableEq

/-- What names a row within its group. -/
structure RowRef (Number : Type) where
  order : Number
  messageId : JsString
  deriving DecidableEq

/-- An `UnwrappedRow`; the further fields are any. -/
structure Row (Number : Type) extends RowRef Number where
  fields : List (JsString × JsValue Number)

def Row.value {Number : Type} (row : Row Number) : JsValue Number :=
  .obj ((ascii "order", .num row.order) :: (ascii "messageId", .str row.messageId) :: row.fields)

/-- What `loadDevice` gives. -/
structure Device where
  snapshot : Bytes
  deviceId : JsString

def Device.value {Number : Type} (device : Device) : JsValue Number :=
  .obj [(ascii "snapshot", .bytes device.snapshot), (ascii "deviceId", .str device.deviceId)]

/-- A `limit`: a whole number, or one between this one and the next. -/
inductive Limit where
  | whole (value : Int)
  | broken (floor : Int)

/-- Where `slice(Math.max(0, count - limit))` begins: it cuts off a fraction. -/
def Limit.skipped : Limit → Nat → Nat
  | .whole value, count => (count - value).toNat
  | .broken floor, count => (count - floor - 1).toNat

/-- Where the loop of the browser store begins; `none` where it counts broken numbers, which are
no indices. -/
def Limit.firstRead : Limit → Nat → Option Nat
  | .whole value, count => some (count - value).toNat
  | .broken floor, count => if (count : Int) ≤ floor then some 0 else none

/-- The calls of `MlsStateStore`. -/
inductive Call (Number : Type) where
  | loadDevice
  | saveDevice (device : Device)
  | getCursor (group : GroupId)
  | setCursor (group : GroupId) (order : Number)
  | putRows (group : GroupId) (rows : List (Row Number))
  | listRows (group : GroupId) (before : Option Number) (limit : Limit)
  | hasRows (group : GroupId) (refs : List (RowRef Number))
  | groupIds
  | getMeta (key : JsString)
  | setMeta (key : JsString) (value : Option JsString)
  | clear

/-- What a call gives back. -/
inductive Answer (Number : Type) where
  | done
  | value (value : JsValue Number)
  | rows (values : List (JsValue Number))
  | names (values : List JsString)

/-- Answers that a caller cannot tell apart: names are a set. -/
def Answer.Same {Number : Type} : Answer Number → Answer Number → Prop
  | .names left, .names right => ∀ name, name ∈ left ↔ name ∈ right
  | left, right => left = right

theorem Answer.Same.of_eq {Number : Type} {left right : Answer Number} (same : left = right) :
    left.Same right := by
  subst same
  cases left <;> simp [Answer.Same]

/-! ## Keys -/

variable {Number : Type} (numbers : Numbers Number)

def rowName (ref : RowRef Number) : JsString := numbers.text ref.order ++ colon :: ref.messageId

/-- The end of the key of a row, by which the rows of a group rank in the table. -/
def rank (ref : RowRef Number) : JsString :=
  padded (numbers.text ref.order) ++ colon :: ref.messageId

inductive RecordId (Number : Type) where
  | deviceKey
  | device
  | cursor (group : GroupId)
  | metaValue (key : JsString)
  | row (group : GroupId) (ref : RowRef Number)

def rowPrefix (group : GroupId) : JsString := ascii "row:" ++ group.text ++ [colon]

/-- The key of a record in the table. -/
def RecordId.text : RecordId Number → JsString
  | .deviceKey => ascii "__device_key__"
  | .device => ascii "device"
  | .cursor group => ascii "cursor:" ++ group.text
  | .metaValue key => ascii "meta:" ++ key
  | .row group ref => rowPrefix group ++ rank numbers ref

section Keys

variable {numbers}

theorem rowName_injective : Function.Injective (rowName numbers) := by
  rintro ⟨order, messageId⟩ ⟨order', messageId'⟩ same
  obtain ⟨sameText, rfl⟩ := first_field (numbers.text_plain order) (numbers.text_plain order') same
  rw [numbers.text_injective sameText]

theorem rank_injective : Function.Injective (rank numbers) := by
  rintro ⟨order, messageId⟩ ⟨order', messageId'⟩ same
  obtain ⟨sameText, rfl⟩ :=
    first_field (numbers.colon_not_mem_padded order) (numbers.colon_not_mem_padded order') same
  rw [numbers.padded_injective sameText]

theorem rowPrefix_append_inj {group group' : GroupId} {rest rest' : JsString}
    (same : rowPrefix group ++ rest = rowPrefix group' ++ rest') :
    group = group' ∧ rest = rest' := by
  rw [rowPrefix, rowPrefix, List.append_assoc, List.append_assoc, List.append_assoc,
    List.append_assoc] at same
  obtain ⟨sameText, sameRest⟩ := first_field group.plain group'.plain (List.append_cancel_left same)
  cases group
  cases group'
  cases sameText
  exact ⟨rfl, sameRest⟩

/-- The first two characters of a key tell what it is about. -/
theorem RecordId.text_injective : Function.Injective (RecordId.text numbers) := by
  have deviceKey : ascii "__device_key__" = 95 :: 95 :: ascii "device_key__" := by decide
  have device : ascii "device" = 100 :: 101 :: ascii "vice" := by decide
  have cursor : ascii "cursor:" = 99 :: 117 :: ascii "rsor:" := by decide
  have metaValue : ascii "meta:" = 109 :: 101 :: ascii "ta:" := by decide
  have row : ascii "row:" = 114 :: 111 :: ascii "w:" := by decide
  intro left right same
  cases left <;> cases right <;>
    simp only [RecordId.text, rowPrefix, deviceKey, device, cursor, metaValue, row,
      List.cons_append, List.cons.injEq] at same
  case deviceKey.deviceKey => rfl
  case device.device => rfl
  case cursor.cursor group group' =>
    have sameText := List.append_cancel_left same.2.2
    cases group
    cases group'
    cases sameText
    rfl
  case metaValue.metaValue key key' => rw [List.append_cancel_left same.2.2]
  case row.row group ref group' ref' =>
    have whole : rowPrefix group ++ rank numbers ref = rowPrefix group' ++ rank numbers ref' := by
      simpa only [rowPrefix, row, List.cons_append, List.cons.injEq] using same
    obtain ⟨rfl, sameRank⟩ := rowPrefix_append_inj whole
    rw [rank_injective sameRank]
  all_goals exact absurd same.1 (by decide)

theorem RecordId.exists_row {id : RecordId Number} {rest : JsString}
    (starts : id.text numbers = ascii "row:" ++ rest) :
    ∃ (group : GroupId) (ref : RowRef Number), id = .row group ref := by
  have deviceKey : ascii "__device_key__" = 95 :: ascii "_device_key__" := by decide
  have device : ascii "device" = 100 :: ascii "evice" := by decide
  have cursor : ascii "cursor:" = 99 :: ascii "ursor:" := by decide
  have metaValue : ascii "meta:" = 109 :: ascii "eta:" := by decide
  have row : ascii "row:" = 114 :: ascii "ow:" := by decide
  cases id with
  | row group ref => exact ⟨group, ref, rfl⟩
  | _ =>
    simp only [RecordId.text, deviceKey, device, cursor, metaValue, row, List.cons_append,
      List.cons.injEq] at starts
    exact absurd starts.1 (by decide)

end Keys

/-! ## Sealed records -/

/-- A record of the table: a device key, by a serial number, or a plaintext that is sealed under
a device key with associated data. -/
inductive Record (Number : Type) where
  | deviceKey (serial : Nat)
  | sealed (serial : Nat) (additionalData : JsString) (plain : JsValue Number)

/-- `IndexedDbMlsStore`, with its table and the number of keys that were generated. -/
structure Browser (Number : Type) where
  db : OrderedMap JsString (Record Number)
  key : Option Nat
  generated : Nat

namespace Browser

def new : Browser Number := ⟨∅, none, 0⟩

variable (browser : Browser Number)

def deviceKey : Nat × Browser Number :=
  match browser.key with
  | some serial => (serial, browser)
  | none =>
    match browser.db.get (RecordId.deviceKey.text numbers) with
    | some (.deviceKey serial) => (serial, { browser with key := some serial })
    | _ =>
      (browser.generated,
        { db := browser.db.insert (RecordId.deviceKey.text numbers)
            (.deviceKey browser.generated),
          key := some browser.generated
          generated := browser.generated + 1 })

def put (id : JsString) (value : JsValue Number) : Browser Number :=
  let (serial, browser) := browser.deviceKey numbers
  { browser with
    db := browser.db.insert id (.sealed serial id (JsonCodec.encode numbers.toJsonLibrary value)) }

/-- `#open1`: `null` where there is no sealed record and where opening or reading it fails. -/
def open1 (id : JsString) : Option (Record Number) → JsValue Number × Browser Number
  | some (.sealed serial additionalData plain) =>
    let (mine, browser) := browser.deviceKey numbers
    (if serial = mine ∧ additionalData = id then
      (JsonCodec.decode numbers.toJsonLibrary plain).getD .null
    else .null, browser)
  | _ => (.null, browser)

def get (id : JsString) : JsValue Number × Browser Number :=
  browser.open1 numbers id (browser.db.get id)

end Browser

/-! ## What the table holds -/

namespace Browser

variable {numbers} {browser : Browser Number} {key : JsString}

/-- The plaintext of a record. -/
def stored (browser : Browser Number) (key : JsString) : Option (JsValue Number) :=
  match browser.db.get key with
  | some (.sealed _ _ plain) => some plain
  | _ => none

/-- What reading a record gives. -/
def opened (numbers : Numbers Number) (browser : Browser Number) (key : JsString) :
    JsValue Number :=
  ((browser.stored key).bind (JsonCodec.decode numbers.toJsonLibrary)).getD .null

/-- **The device key.**  It stands in the table before any record is sealed under it, every
record is bound to its own key, and the cached key is the one in the table. -/
structure Sound (numbers : Numbers Number) (browser : Browser Number) : Prop where
  cached : ∀ serial, browser.key = some serial →
    browser.db.get (RecordId.deviceKey.text numbers) = some (.deviceKey serial)
  held : ∀ record, browser.db.get (RecordId.deviceKey.text numbers) = some record →
    ∃ serial, record = .deviceKey serial
  bound : ∀ key record, browser.db.get key = some record →
    key ≠ RecordId.deviceKey.text numbers → ∃ serial plain,
      browser.db.get (RecordId.deviceKey.text numbers) = some (.deviceKey serial) ∧
        record = .sealed serial key plain

theorem Sound.new : Sound numbers new where
  cached _ held := by cases held
  held _ held := by cases held
  bound _ _ held := by cases held

theorem Sound.cache (sound : Sound numbers browser) {serial : Nat}
    (held : browser.db.get (RecordId.deviceKey.text numbers) = some (.deviceKey serial)) :
    Sound numbers { browser with key := some serial } where
  cached _ same := Option.some.inj same ▸ held
  held := sound.held
  bound := sound.bound

/-- What `#deviceKey` does: the key it gives is in the table and in the cache, and nothing else
changes. -/
structure Keyed (numbers : Numbers Number) (browser : Browser Number) (serial : Nat)
    (next : Browser Number) : Prop where
  sound : Sound numbers next
  held : next.db.get (RecordId.deviceKey.text numbers) = some (.deviceKey serial)
  kept : ∀ key ≠ RecordId.deviceKey.text numbers, next.db.get key = browser.db.get key

theorem deviceKey_of_held (sound : Sound numbers browser) {serial : Nat}
    (held : browser.db.get (RecordId.deviceKey.text numbers) = some (.deviceKey serial)) :
    browser.deviceKey numbers = (serial, { browser with key := some serial }) := by
  rw [deviceKey]
  cases cache : browser.key with
  | some mine =>
    have same := (sound.cached mine cache).symm.trans held
    simp only [Option.some.injEq, Record.deviceKey.injEq] at same
    subst same
    show (mine, browser) = (mine, { browser with key := some mine })
    rw [← cache]
  | none => simp only [held]

theorem deviceKey_spec (sound : Sound numbers browser) :
    Keyed numbers browser (browser.deviceKey numbers).1 (browser.deviceKey numbers).2 := by
  cases present : browser.db.get (RecordId.deviceKey.text numbers) with
  | some record =>
    obtain ⟨serial, rfl⟩ := sound.held record present
    rw [deviceKey_of_held sound present]
    exact ⟨sound.cache present, present, fun _ _ => rfl⟩
  | none =>
    -- Without a device key there is no record at all: a new one is written first.
    have uncached : browser.key = none := by
      cases cache : browser.key with
      | none => rfl
      | some serial =>
        have held := sound.cached serial cache
        cases present ▸ held
    have generated : browser.deviceKey numbers = (browser.generated,
        { db := browser.db.insert (RecordId.deviceKey.text numbers)
            (.deviceKey browser.generated),
          key := some browser.generated
          generated := browser.generated + 1 }) := by
      rw [deviceKey]
      simp only [uncached, present]
    rw [generated]
    have held : (browser.db.insert (RecordId.deviceKey.text numbers)
        (.deviceKey browser.generated)).get (RecordId.deviceKey.text numbers) =
          some (.deviceKey browser.generated) := by
      rw [OrderedMap.get_insert, if_pos rfl]
    have kept : ∀ key ≠ RecordId.deviceKey.text numbers,
        (browser.db.insert (RecordId.deviceKey.text numbers)
          (.deviceKey browser.generated)).get key = browser.db.get key := by
      intro key differs
      rw [OrderedMap.get_insert, if_neg differs]
    refine ⟨⟨?_, ?_, ?_⟩, held, kept⟩
    · intro serial same
      rw [← Option.some.inj same]
      exact held
    · intro record found
      exact ⟨browser.generated, Option.some.inj (found.symm.trans held)⟩
    intro key record found differs
    obtain ⟨serial, plain, isHeld, -⟩ :=
      sound.bound key record ((kept key differs).symm.trans found) differs
    cases present ▸ isHeld

theorem stored_of_get {serial : Nat} {data : JsString} {plain : JsValue Number}
    (found : browser.db.get key = some (.sealed serial data plain)) :
    browser.stored key = some plain := by
  rw [stored, found]

theorem stored_congr (next browser : Browser Number) (same : next.db.get key = browser.db.get key) :
    next.stored key = browser.stored key := by
  rw [stored, stored, same]

theorem isSome_stored (sound : Sound numbers browser)
    (differs : key ≠ RecordId.deviceKey.text numbers) :
    (browser.stored key).isSome = (browser.db.get key).isSome := by
  cases found : browser.db.get key with
  | none => rw [stored, found]; rfl
  | some record =>
    obtain ⟨serial, plain, -, rfl⟩ := sound.bound key record found differs
    rw [stored_of_get found]
    rfl

theorem put_db (value : JsValue Number) : (browser.put numbers key value).db =
    (browser.deviceKey numbers).2.db.insert key
      (.sealed (browser.deviceKey numbers).1 key
        (JsonCodec.encode numbers.toJsonLibrary value)) := rfl

theorem put_key (value : JsValue Number) :
    (browser.put numbers key value).key = (browser.deviceKey numbers).2.key := rfl

theorem get_put (sound : Sound numbers browser) {other : JsString}
    (notKey : other ≠ RecordId.deviceKey.text numbers) (differs : other ≠ key)
    (value : JsValue Number) :
    (browser.put numbers key value).db.get other = browser.db.get other := by
  rw [put_db, OrderedMap.get_insert, if_neg differs, (deviceKey_spec sound).kept other notKey]

theorem stored_put (value : JsValue Number) : (browser.put numbers key value).stored key =
    some (JsonCodec.encode numbers.toJsonLibrary value) := by
  have found : (browser.put numbers key value).db.get key =
      some (.sealed (browser.deviceKey numbers).1 key
        (JsonCodec.encode numbers.toJsonLibrary value)) := by
    rw [put_db, OrderedMap.get_insert, if_pos rfl]
  exact stored_of_get found

theorem Sound.put (sound : Sound numbers browser)
    (differs : key ≠ RecordId.deviceKey.text numbers) (value : JsValue Number) :
    Sound numbers (browser.put numbers key value) := by
  have spec := deviceKey_spec sound
  have held : (browser.put numbers key value).db.get (RecordId.deviceKey.text numbers) =
      some (.deviceKey (browser.deviceKey numbers).1) := by
    rw [put_db, OrderedMap.get_insert, if_neg differs.symm, spec.held]
  constructor
  · intro serial cache
    rw [put_key] at cache
    rw [held, ← spec.held, spec.sound.cached serial cache]
  · intro record found
    exact ⟨_, Option.some.inj (found.symm.trans held)⟩
  intro other record found notKey
  rw [put_db, OrderedMap.get_insert] at found
  split at found
  · next same => exact ⟨_, _, held, by rw [← Option.some.inj found, same]⟩
  · obtain ⟨serial, plain, isHeld, rfl⟩ := spec.sound.bound other record found notKey
    rw [spec.held] at isHeld
    exact ⟨serial, plain, held.trans isHeld, rfl⟩

/-- **Reading a record** of the table gives its plaintext, and changes nothing but the cache. -/
theorem open1_spec (sound : Sound numbers browser) {record : Record Number}
    (found : browser.db.get key = some record)
    (differs : key ≠ RecordId.deviceKey.text numbers) :
    (browser.open1 numbers key (some record)).1 = browser.opened numbers key ∧
      (browser.open1 numbers key (some record)).2.db = browser.db ∧
      Sound numbers (browser.open1 numbers key (some record)).2 := by
  obtain ⟨serial, plain, held, rfl⟩ := sound.bound key record found differs
  have read : browser.open1 numbers key (some (.sealed serial key plain)) =
      ((JsonCodec.decode numbers.toJsonLibrary plain).getD .null,
        { browser with key := some serial }) := by
    rw [open1, deviceKey_of_held sound held]
    simp only [and_self, if_true]
  rw [read]
  refine ⟨?_, rfl, sound.cache held⟩
  rw [opened, stored_of_get found, Option.bind_some]

theorem get_spec (sound : Sound numbers browser)
    (differs : key ≠ RecordId.deviceKey.text numbers) :
    (browser.get numbers key).1 = browser.opened numbers key ∧
      (browser.get numbers key).2.db = browser.db ∧
      Sound numbers (browser.get numbers key).2 := by
  cases found : browser.db.get key with
  | some =>
    rw [get, found]
    exact open1_spec sound found differs
  | none =>
    have nothing : browser.get numbers key = (.null, browser) := by rw [get, found]; rfl
    rw [nothing]
    refine ⟨?_, rfl, sound⟩
    rw [opened, stored, found]
    rfl

end Browser

/-! ## The memory store -/

/-- `MemoryMlsStateStore`. -/
structure Memory (Number : Type) where
  device : Option Device
  cursors : OrderedMap GroupId Number
  rows : OrderedMap GroupId (OrderedMap JsString (Row Number))
  metaValues : OrderedMap JsString JsString

namespace Memory

def new : Memory Number := ⟨none, ∅, ∅, ∅⟩

variable (memory : Memory Number)

/-- The stored rows of a group, in the order of their first writing. -/
def group (group : GroupId) : OrderedMap JsString (Row Number) := (memory.rows.get group).getD ∅

def putRows (group : GroupId) (rows : List (Row Number)) : Memory Number :=
  { memory with
    rows := memory.rows.insert group
      (OrderedMap.insertAll (fun row => rowName numbers row.toRowRef) (memory.group group) rows) }

end Memory

/-- The two stores, after the same calls. -/
structure Stores (Number : Type) where
  memory : Memory Number
  browser : Browser Number

def Stores.new : Stores Number := ⟨Memory.new, Browser.new⟩

/-! ## One table for all maps -/

section Mirror

variable {numbers}

/-- What the memory store holds, by the key under which the browser store holds it. -/
def Memory.plain (numbers : Numbers Number) (memory : Memory Number) :
    RecordId Number → Option (JsValue Number)
  | .deviceKey => none
  | .device => memory.device.map Device.value
  | .cursor group => (memory.cursors.get group).map .num
  | .metaValue key => (memory.metaValues.get key).map .str
  | .row group ref => ((memory.group group).get (rowName numbers ref)).map Row.value

/-- **The table holds what the maps hold**, and nothing else. -/
structure Mirrors (numbers : Numbers Number) (stores : Stores Number) : Prop where
  sound : stores.browser.Sound numbers
  /-- Every row stands under its own name. -/
  keyed : ∀ group, OrderedMap.Keyed (fun row : Row Number => rowName numbers row.toRowRef)
    (stores.memory.group group)
  stored : ∀ id, id ≠ RecordId.deviceKey → stores.browser.stored (id.text numbers) =
    (stores.memory.plain numbers id).map (JsonCodec.encode numbers.toJsonLibrary)
  named : ∀ key ∈ stores.browser.db.keys, ∃ id : RecordId Number, key = id.text numbers

theorem text_ne {id other : RecordId Number} (differs : id ≠ other) :
    id.text numbers ≠ other.text numbers := fun same =>
  differs (RecordId.text_injective same)

theorem Mirrors.new : Mirrors numbers Stores.new where
  sound := Browser.Sound.new
  keyed _ _ isIn := by cases isIn
  stored id differs := by
    cases id with
    | deviceKey => exact absurd rfl differs
    | _ => rfl
  named _ isIn := by cases isIn

variable {stores : Stores Number}

/-- A call that reads. -/
theorem Mirrors.read (mirrors : Mirrors numbers stores) {browser : Browser Number}
    (sound : browser.Sound numbers) (sameDb : browser.db = stores.browser.db) :
    Mirrors numbers ⟨stores.memory, browser⟩ where
  sound := sound
  keyed := mirrors.keyed
  stored id differs := by
    have same := Browser.stored_congr browser stores.browser
      (congrArg (·.get (id.text numbers)) sameDb)
    exact same.trans (mirrors.stored id differs)
  named key isIn := mirrors.named key (sameDb ▸ isIn)

theorem Mirrors.put (mirrors : Mirrors numbers stores) {memory : Memory Number}
    (id : RecordId Number) {value : JsValue Number} (notKey : id ≠ RecordId.deviceKey)
    (keyed : ∀ group, OrderedMap.Keyed (fun row : Row Number => rowName numbers row.toRowRef)
      (memory.group group))
    (written : memory.plain numbers id = some value)
    (kept : ∀ other, other ≠ id → memory.plain numbers other = stores.memory.plain numbers other) :
    Mirrors numbers ⟨memory, stores.browser.put numbers (id.text numbers) value⟩ where
  sound := mirrors.sound.put (text_ne notKey) value
  keyed := keyed
  stored other differs := by
    by_cases same : other = id
    · subst same
      rw [Browser.stored_put, written, Option.map_some]
    · rw [Browser.stored_congr _ stores.browser
          (Browser.get_put mirrors.sound (text_ne differs) (text_ne same) value),
        mirrors.stored other differs, kept other same]
  named key isIn := by
    by_cases notDevice : key = RecordId.deviceKey.text numbers
    · exact ⟨.deviceKey, notDevice⟩
    by_cases same : key = id.text numbers
    · exact ⟨id, same⟩
    refine mirrors.named key ?_
    by_contra fresh
    rw [← OrderedMap.get_eq_none_iff,
      ← Browser.get_put mirrors.sound notDevice same value] at fresh
    exact (OrderedMap.get_eq_none_iff _ key).mp fresh isIn

theorem Memory.group_putRows (numbers : Numbers Number) (memory : Memory Number)
    (group other : GroupId)
    (rows : List (Row Number)) : (memory.putRows numbers group rows).group other =
      if other = group then OrderedMap.insertAll (fun row => rowName numbers row.toRowRef)
        (memory.group group) rows else memory.group other := by
  rw [Memory.group, Memory.putRows, OrderedMap.get_insert]
  split
  · rfl
  · rfl

theorem Memory.putRows_cons (memory : Memory Number) (group : GroupId) (row : Row Number)
    (rows : List (Row Number)) : memory.putRows numbers group (row :: rows) =
      (memory.putRows numbers group [row]).putRows numbers group rows := by
  have first := memory.group_putRows numbers group group [row]
  rw [if_pos rfl] at first
  rw [Memory.putRows, Memory.putRows, first, Memory.putRows, OrderedMap.insert_insert]
  rfl

theorem Memory.plain_putRows_nil (memory : Memory Number) (group : GroupId)
    (id : RecordId Number) :
    (memory.putRows numbers group []).plain numbers id = memory.plain numbers id := by
  cases id with
  | row other =>
    show (((memory.putRows numbers group []).group other).get _).map _ =
      ((memory.group other).get _).map _
    rw [memory.group_putRows]
    split
    · next same => rw [same]; rfl
    · rfl
  | _ => rfl

theorem Mirrors.putRow (mirrors : Mirrors numbers stores) (group : GroupId) (row : Row Number) :
    Mirrors numbers ⟨stores.memory.putRows numbers group [row],
      stores.browser.put numbers ((RecordId.row group row.toRowRef).text numbers) row.value⟩ := by
  have written : ∀ other, (stores.memory.putRows numbers group [row]).group other =
      if other = group then (stores.memory.group group).insert (rowName numbers row.toRowRef) row
      else stores.memory.group other := fun other =>
        stores.memory.group_putRows numbers group other [row]
  refine mirrors.put (.row group row.toRowRef) (by simp) ?_ ?_ ?_
  · intro other
    rw [written other]
    split
    · exact (mirrors.keyed group).insertAll [row]
    · exact mirrors.keyed other
  · show (((stores.memory.putRows numbers group [row]).group group).get _).map _ = _
    rw [written group, if_pos rfl, OrderedMap.get_insert, if_pos rfl]
    rfl
  intro other differs
  cases other with
  | row group' ref =>
    show (((stores.memory.putRows numbers group [row]).group group').get _).map _ =
      ((stores.memory.group group').get _).map _
    rw [written group']
    split
    · next same =>
      subst same
      have otherName : rowName numbers ref ≠ rowName numbers row.toRowRef := fun sameName =>
        differs (by rw [rowName_injective sameName])
      rw [OrderedMap.get_insert, if_neg otherName]
    · rfl
  | _ => rfl

theorem Mirrors.putRows (mirrors : Mirrors numbers stores) (group : GroupId)
    (rows : List (Row Number)) :
    Mirrors numbers ⟨stores.memory.putRows numbers group rows,
      rows.foldl (fun browser row => browser.put numbers
        ((RecordId.row group row.toRowRef).text numbers) row.value) stores.browser⟩ := by
  induction rows generalizing stores with
  | nil =>
    refine ⟨mirrors.sound, ?_, ?_, mirrors.named⟩
    · intro other
      rw [stores.memory.group_putRows]
      split
      · exact mirrors.keyed group
      · exact mirrors.keyed other
    · intro id differs
      rw [stores.memory.plain_putRows_nil]
      exact mirrors.stored id differs
  | cons row rest ih =>
    rw [stores.memory.putRows_cons]
    exact ih (mirrors.putRow group row)

theorem Mirrors.erase (mirrors : Mirrors numbers stores) (key : JsString) :
    Mirrors numbers
      ⟨{ stores.memory with metaValues := stores.memory.metaValues.erase key },
        { stores.browser with
          db := stores.browser.db.erase ((RecordId.metaValue key).text numbers) }⟩ := by
  have kept : ∀ other, other ≠ (RecordId.metaValue key).text numbers →
      (stores.browser.db.erase ((RecordId.metaValue key).text numbers)).get other =
        stores.browser.db.get other := by
    intro other differs
    rw [OrderedMap.get_erase, if_neg differs]
  have notKey : RecordId.deviceKey.text numbers ≠ (RecordId.metaValue key).text numbers :=
    text_ne (by simp)
  have stays : ∀ other record,
      (stores.browser.db.erase ((RecordId.metaValue key).text numbers)).get other = some record →
        stores.browser.db.get other = some record := by
    intro other record found
    rw [OrderedMap.get_erase] at found
    split at found
    · cases found
    · exact found
  refine ⟨⟨?_, ?_, ?_⟩, mirrors.keyed, ?_, ?_⟩
  · intro serial cache
    exact (kept _ notKey).trans (mirrors.sound.cached serial cache)
  · intro record found
    exact mirrors.sound.held record (stays _ record found)
  · intro other record found differs
    obtain ⟨serial, plain, held, same⟩ :=
      mirrors.sound.bound other record (stays other record found) differs
    exact ⟨serial, plain, (kept _ notKey).trans held, same⟩
  · intro id differs
    by_cases same : id = RecordId.metaValue key
    · subst same
      show Browser.stored _ _ = (((stores.memory.metaValues.erase key).get key).map _).map _
      rw [OrderedMap.get_erase, if_pos rfl, Browser.stored, OrderedMap.get_erase, if_pos rfl]
      rfl
    rw [Browser.stored_congr _ stores.browser (kept _ (text_ne same)), mirrors.stored id differs]
    cases id with
    | metaValue other =>
      show ((stores.memory.metaValues.get other).map _).map _ =
        (((stores.memory.metaValues.erase key).get other).map _).map _
      have otherKey : other ≠ key := fun sameKey => same (by rw [sameKey])
      rw [OrderedMap.get_erase, if_neg otherKey]
    | _ => rfl
  intro other isIn
  refine mirrors.named other ?_
  by_contra fresh
  rw [← OrderedMap.get_eq_none_iff] at fresh
  refine (OrderedMap.get_eq_none_iff (stores.browser.db.erase _) other).mp ?_ isIn
  rw [OrderedMap.get_erase, fresh, ite_self]

variable {group : GroupId}

section

variable (mirrors : Mirrors numbers stores)
include mirrors

theorem Mirrors.ref_of_get {ref : RowRef Number} {row : Row Number}
    (found : (stores.memory.group group).get (rowName numbers ref) = some row) :
    row.toRowRef = ref := by
  have isIn := (stores.memory.group group).mem_entries_of_get found
  exact (rowName_injective (mirrors.keyed group _ isIn)).symm

theorem Mirrors.get_of_mem (group : GroupId) {entry : JsString × Row Number}
    (isIn : entry ∈ (stores.memory.group group).entries) :
    (stores.memory.group group).get (rowName numbers entry.2.toRowRef) = some entry.2 := by
  have name := mirrors.keyed group entry isIn
  rw [← (show entry.1 = rowName numbers entry.2.toRowRef from name)]
  exact (stores.memory.group group).get_of_mem_entries isIn

theorem Mirrors.isSome_row (group : GroupId) (ref : RowRef Number) :
    (stores.browser.db.get ((RecordId.row group ref).text numbers)).isSome =
      ((stores.memory.group group).get (rowName numbers ref)).isSome := by
  rw [← Browser.isSome_stored mirrors.sound (text_ne (by simp)), mirrors.stored _ (by simp),
    Option.isSome_map]
  exact Option.isSome_map

theorem Mirrors.row_mem_keys {ref : RowRef Number} :
    (RecordId.row group ref).text numbers ∈ stores.browser.db.keys ↔
      ∃ row, (stores.memory.group group).get (rowName numbers ref) = some row := by
  rw [← Option.isSome_iff_exists, ← mirrors.isSome_row, Option.isSome_iff_ne_none, ne_eq,
    OrderedMap.get_eq_none_iff, not_not]

end

end Mirror

/-! ## The calls of the memory store -/

variable [LinearOrder Number]

namespace Memory

variable (memory : Memory Number)

/-- `options.before === undefined || r.order < options.before`. -/
def passes (before : Option Number) (row : Row Number) : Bool :=
  match before with
  | none => true
  | some bound => row.order < bound

/-- The rows of a group before a bound, not yet sorted. -/
def rowsBefore (group : GroupId) (before : Option Number) : List (Row Number) :=
  ((memory.group group).entries.map Prod.snd).filter (passes before)

def listRows (group : GroupId) (before : Option Number) (limit : Limit) : List (Row Number) :=
  let all := (memory.rowsBefore group before).insertionSort fun a b => a.order ≤ b.order
  all.drop (limit.skipped all.length)

def call : Call Number → Answer Number × Memory Number
  | .loadDevice => (.value ((memory.device.map Device.value).getD .null), memory)
  | .saveDevice device => (.done, { memory with device := some device })
  | .getCursor group => (.value (.num ((memory.cursors.get group).getD numbers.zero)), memory)
  | .setCursor group order => (.done, { memory with cursors := memory.cursors.insert group order })
  | .putRows group rows => (.done, memory.putRows numbers group rows)
  | .listRows group before limit =>
    (.rows ((memory.listRows group before limit).map Row.value), memory)
  | .hasRows group refs =>
    (.names ((refs.map (rowName numbers)).filter fun name =>
      ((memory.group group).get name).isSome), memory)
  | .groupIds => (.names (memory.rows.keys.map GroupId.text), memory)
  | .getMeta key => (.value (((memory.metaValues.get key).map .str).getD .null), memory)
  | .setMeta key none => (.done, { memory with metaValues := memory.metaValues.erase key })
  | .setMeta key (some value) =>
    (.done, { memory with metaValues := memory.metaValues.insert key value })
  | .clear => (.done, new)

end Memory

/-! ## The calls of the browser store -/

namespace Browser

variable (browser : Browser Number)

/-- `getAllKeys` and `getAll` of `IDBKeyRange.bound(lower, upper, false, true)`. -/
def range (lower upper : JsString) : List (JsString × Record Number) :=
  (browser.db.entries.filter fun entry => lower ≤ entry.1 ∧ entry.1 < upper).insertionSort
    fun a b => a.1 ≤ b.1

/-- The loop of `listRows`: the records that open, as far as they are not falsy. -/
def openAll : List (JsString × Record Number) → Browser Number →
    List (JsValue Number) × Browser Number
  | [], browser => ([], browser)
  | (id, record) :: rest, browser =>
    let (row, browser) := browser.open1 numbers id (some record)
    let (rows, browser) := openAll rest browser
    (if row.truthy numbers.zero then row :: rows else rows, browser)

/-- The bound of the range of `listRows`. -/
def upperKey (group : GroupId) : Option Number → JsString
  | none => ascii "row:" ++ group.text ++ [semicolon]
  | some before => rowPrefix group ++ padded (numbers.text before)

def listRows (group : GroupId) (before : Option Number) (limit : Limit) :
    List (JsValue Number) × Browser Number :=
  let entries := browser.range (rowPrefix group) (upperKey numbers group before)
  match limit.firstRead entries.length with
  | none => ([], browser)
  | some start => openAll numbers (entries.drop start) browser

/-- `String(k).split(':').slice(1, -2).join(':')`. -/
def groupOf (key : JsString) : JsString :=
  let parts := key.splitOn colon
  [colon].intercalate ((parts.take (parts.length - 2)).drop 1)

def call : Call Number → Answer Number × Browser Number
  | .loadDevice =>
    let (value, browser) := browser.get numbers (RecordId.device.text numbers)
    (.value value, browser)
  | .saveDevice device => (.done, browser.put numbers (RecordId.device.text numbers) device.value)
  | .getCursor group =>
    let (value, browser) := browser.get numbers ((RecordId.cursor group).text numbers)
    (.value (match value with | .null => .num numbers.zero | value => value), browser)
  | .setCursor group order =>
    (.done, browser.put numbers ((RecordId.cursor group).text numbers) (.num order))
  | .putRows group rows =>
    (.done, rows.foldl (fun browser row =>
      browser.put numbers ((RecordId.row group row.toRowRef).text numbers) row.value) browser)
  | .listRows group before limit =>
    let (values, browser) := browser.listRows numbers group before limit
    (.rows values, browser)
  | .hasRows group refs =>
    (.names ((refs.filter fun ref =>
      (browser.db.get ((RecordId.row group ref).text numbers)).isSome).map (rowName numbers)),
      browser)
  | .groupIds =>
    (.names ((browser.range (ascii "row:") (ascii "row;")).map fun entry => groupOf entry.1),
      browser)
  | .getMeta key =>
    let (value, browser) := browser.get numbers ((RecordId.metaValue key).text numbers)
    (.value value, browser)
  | .setMeta key none =>
    (.done, { browser with db := browser.db.erase ((RecordId.metaValue key).text numbers) })
  | .setMeta key (some value) =>
    (.done, browser.put numbers ((RecordId.metaValue key).text numbers) (.str value))
  | .clear => (.done, { browser with db := ∅, key := none })

end Browser

/-! ## Runs of both stores -/

def Stores.step (stores : Stores Number) (call : Call Number) : Stores Number :=
  ⟨(stores.memory.call numbers call).2, (stores.browser.call numbers call).2⟩

def AnswersAlike (stores : Stores Number) (call : Call Number) : Prop :=
  ((stores.memory.call numbers call).1).Same (stores.browser.call numbers call).1

structure ListsAlike (memory : Memory Number) (group : GroupId) (before : Option Number)
    (limit : Limit) : Prop where
  /-- The bound divides the keys of the rows as it divides their numbers. -/
  bounded : ∀ entry ∈ (memory.group group).entries, ∀ bound, before = some bound →
    (entry.2.order < bound ↔ rank numbers entry.2.toRowRef < padded (numbers.text bound))
  /-- Of two rows, the one that was first written first has the smaller key exactly if it has not
  the greater number. -/
  ordered : (memory.rowsBefore group before).Pairwise fun a b =>
    (a.order ≤ b.order ↔ rank numbers a.toRowRef ≤ rank numbers b.toRowRef)
  whole : limit.firstRead (memory.rowsBefore group before).length = none →
    (memory.rowsBefore group before).length ≤ limit.skipped (memory.rowsBefore group before).length
  survive : ∀ row ∈ memory.listRows group before limit,
    JsonCodec.survives numbers.toJsonLibrary row.value = true

/-- **A call that cannot tell the stores apart**, by what the memory store holds. -/
def Clean (stores : Stores Number) : Call Number → Prop
  | .getCursor group =>
    ∀ order, stores.memory.cursors.get group = some order → numbers.finite order = true
  | .listRows group before limit => ListsAlike numbers stores.memory group before limit
  | .groupIds =>
    ∀ entry ∈ stores.memory.rows.entries, entry.2.entries ≠ [] ∧
      ∀ row ∈ entry.2.entries, colon ∉ row.2.messageId
  | _ => True

/-! ## Reading rows -/

namespace Browser

variable {numbers} {browser : Browser Number}

/-- **Reading records one after the other.** -/
theorem openAll_spec {entries : List (JsString × Record Number)}
    (sound : Sound numbers browser) (isIn : ∀ entry ∈ entries, entry ∈ browser.db.entries)
    (differ : ∀ entry ∈ entries, entry.1 ≠ RecordId.deviceKey.text numbers) :
    (openAll numbers entries browser).1 =
        ((entries.map Prod.fst).map (browser.opened numbers)).filter (JsValue.truthy numbers.zero) ∧
      (openAll numbers entries browser).2.db = browser.db ∧
      Sound numbers (openAll numbers entries browser).2 := by
  induction entries generalizing browser with
  | nil => exact ⟨rfl, rfl, sound⟩
  | cons entry rest ih =>
    obtain ⟨key, record⟩ := entry
    have found : browser.db.get key = some record :=
      browser.db.get_of_mem_entries (isIn (key, record) List.mem_cons_self)
    obtain ⟨read, sameDb, nextSound⟩ :=
      open1_spec sound found (differ (key, record) List.mem_cons_self)
    obtain ⟨later, laterDb, laterSound⟩ := ih nextSound
      (fun entry isRest => sameDb ▸ isIn entry (List.mem_cons_of_mem _ isRest))
      (fun entry isRest => differ entry (List.mem_cons_of_mem _ isRest))
    have alike : (browser.open1 numbers key (some record)).2.opened numbers =
        browser.opened numbers := by
      funext other
      rw [opened, opened, stored_congr _ browser (congrArg (·.get other) sameDb)]
    refine ⟨?_, laterDb.trans sameDb, laterSound⟩
    rw [alike] at later
    rw [List.map_cons, List.map_cons, List.filter_cons, ← later, ← read]
    rfl

end Browser

/-! ## Rows and their keys -/

section Rows

variable {numbers} {stores : Stores Number} {group : GroupId} {before : Option Number}

theorem colon_next (c : CodeUnit) (large : colon ≤ c) (small : c < semicolon) : c = colon := by
  have isColon : colon.val = 58 := rfl
  have isSemicolon : semicolon.val = 59 := rfl
  rw [Fin.le_def] at large
  rw [Fin.lt_def] at small
  exact Fin.ext (by omega)

omit [LinearOrder Number] in
theorem between_rowPrefix_iff {key : JsString} :
    rowPrefix group ≤ key ∧ key < Browser.upperKey numbers group before ↔
      ∃ rest, key = rowPrefix group ++ rest ∧
        ∀ bound, before = some bound → rest < padded (numbers.text bound) := by
  cases before with
  | none =>
    rw [rowPrefix, Browser.upperKey, KeyRanges.between_next_iff (by decide) colon_next]
    simp
  | some =>
    rw [Browser.upperKey, KeyRanges.between_append_iff]
    simp

theorem Mirrors.mem_range_iff (mirrors : Mirrors numbers stores)
    (bounded : ∀ entry ∈ (stores.memory.group group).entries, ∀ bound, before = some bound →
      (entry.2.order < bound ↔ rank numbers entry.2.toRowRef < padded (numbers.text bound)))
    {key : JsString} :
    (key ∈ stores.browser.db.keys ∧ rowPrefix group ≤ key ∧
        key < Browser.upperKey numbers group before) ↔
      ∃ row ∈ stores.memory.rowsBefore group before,
        (RecordId.row group row.toRowRef).text numbers = key := by
  have passes_iff : ∀ entry ∈ (stores.memory.group group).entries,
      (Memory.passes before entry.2 = true ↔ ∀ bound, before = some bound →
        rank numbers entry.2.toRowRef < padded (numbers.text bound)) := by
    intro entry isIn
    cases before with
    | none => simp [Memory.passes]
    | some bound =>
      simp only [Memory.passes, decide_eq_true_eq, bounded entry isIn bound rfl,
        Option.some.injEq, forall_eq']
  rw [between_rowPrefix_iff]
  constructor
  · rintro ⟨isKey, rest, rfl, below⟩
    obtain ⟨id, same⟩ := mirrors.named _ isKey
    have starts : id.text numbers = ascii "row:" ++ (group.text ++ [colon] ++ rest) := by
      rw [← same, rowPrefix]
      simp
    obtain ⟨group', ref, rfl⟩ := RecordId.exists_row starts
    obtain ⟨rfl, rfl⟩ := rowPrefix_append_inj same
    obtain ⟨row, found⟩ := mirrors.row_mem_keys.mp isKey
    have isIn := (stores.memory.group group).mem_entries_of_get found
    have sameRef := mirrors.ref_of_get found
    refine ⟨row, List.mem_filter.mpr ⟨List.mem_map_of_mem isIn, ?_⟩, by rw [sameRef]; rfl⟩
    refine (passes_iff _ isIn).mpr fun bound isBound => ?_
    rw [sameRef]
    exact below bound isBound
  rintro ⟨row, isRow, rfl⟩
  obtain ⟨isValue, pass⟩ := List.mem_filter.mp isRow
  obtain ⟨entry, isIn, rfl⟩ := List.mem_map.mp isValue
  exact ⟨mirrors.row_mem_keys.mpr ⟨_, mirrors.get_of_mem group isIn⟩, _, rfl,
    (passes_iff entry isIn).mp pass⟩

theorem Mirrors.range_keys (mirrors : Mirrors numbers stores) {limit : Limit}
    (alike : ListsAlike numbers stores.memory group before limit) :
    (stores.browser.range (rowPrefix group) (Browser.upperKey numbers group before)).map Prod.fst =
      ((stores.memory.rowsBefore group before).insertionSort fun a b => a.order ≤ b.order).map
        fun row => (RecordId.row group row.toRowRef).text numbers := by
  have ranks : (stores.memory.rowsBefore group before).Pairwise fun a b =>
      (a.order ≤ b.order ↔ (RecordId.row group a.toRowRef).text numbers ≤
        (RecordId.row group b.toRowRef).text numbers) :=
    alike.ordered.imp fun same => same.trans KeyRanges.append_le_append_iff.symm
  rw [KeyRanges.map_insertionSort_of_pairwise _ ranks, Browser.range,
    List.map_insertionSort (fun a b : JsString × Record Number => a.1 ≤ b.1) (· ≤ ·) Prod.fst _
      fun _ _ _ _ => Iff.rfl]
  refine List.Perm.eq_of_pairwise' (List.pairwise_insertionSort _ _)
    (List.pairwise_insertionSort _ _) ?_
  refine (List.perm_insertionSort _ _).trans (List.Perm.trans ?_ (List.perm_insertionSort _ _).symm)
  refine (List.perm_ext_iff_of_nodup ?_ ?_).mpr fun key => ?_
  · exact stores.browser.db.nodup.sublist (List.filter_sublist.map Prod.fst)
  · -- The rows stand under different names, so their keys differ.
    have names : ((stores.memory.group group).entries.map Prod.snd).Pairwise fun a b =>
        rowName numbers a.toRowRef ≠ rowName numbers b.toRowRef := by
      refine List.pairwise_map.mpr ?_
      refine (List.pairwise_map.mp (stores.memory.group group).nodup).imp_of_mem ?_
      intro a b aIn bIn differ
      have aName := mirrors.keyed group a aIn
      have bName := mirrors.keyed group b bIn
      rwa [aName, bName] at differ
    refine List.pairwise_map.mpr ((names.sublist List.filter_sublist).imp ?_)
    intro a b differ same
    have sameRef := RecordId.text_injective same
    simp only [RecordId.row.injEq, true_and] at sameRef
    exact differ (congrArg _ sameRef)
  rw [List.mem_map, List.mem_map, ← mirrors.mem_range_iff alike.bounded]
  constructor
  · rintro ⟨entry, isIn, rfl⟩
    obtain ⟨isEntry, within⟩ := List.mem_filter.mp isIn
    exact ⟨List.mem_map_of_mem isEntry, of_decide_eq_true within⟩
  · rintro ⟨isKey, within⟩
    obtain ⟨entry, isEntry, rfl⟩ := List.mem_map.mp isKey
    exact ⟨entry, List.mem_filter.mpr ⟨isEntry, decide_eq_true within⟩, rfl⟩

end Rows

/-! ## The same answers -/

section Alike

variable {numbers} {stores : Stores Number}

omit [LinearOrder Number] in
theorem Mirrors.opened_eq (mirrors : Mirrors numbers stores) (id : RecordId Number)
    (differs : id ≠ RecordId.deviceKey) {value : Option (JsValue Number)}
    (plain : stores.memory.plain numbers id = value)
    (survive : ∀ written, value = some written →
      JsonCodec.survives numbers.toJsonLibrary written = true) :
    stores.browser.opened numbers (id.text numbers) = value.getD .null := by
  rw [Browser.opened, mirrors.stored id differs, plain]
  cases value with
  | none => rfl
  | some written =>
    rw [Option.map_some, Option.bind_some, JsonCodec.decode_encode written (survive written rfl)]

variable {group : GroupId} {limit : Limit} {before : Option Number}

theorem Limit.firstRead_eq {count start : Nat} (reads : limit.firstRead count = some start) :
    start = limit.skipped count := by
  cases limit with
  | whole => exact (Option.some.inj reads).symm
  | broken =>
    rw [Limit.firstRead] at reads
    split at reads
    · next small =>
      rw [← Option.some.inj reads, Limit.skipped]
      omega
    · cases reads

omit [LinearOrder Number] in
theorem Browser.range_entries {browser : Browser Number} {entry : JsString × Record Number}
    (isIn : entry ∈ browser.range (rowPrefix group) (Browser.upperKey numbers group before)) :
    entry ∈ browser.db.entries ∧ entry.1 ≠ RecordId.deviceKey.text numbers := by
  obtain ⟨isEntry, within⟩ := List.mem_filter.mp ((List.mem_insertionSort _).mp isIn)
  obtain ⟨rest, starts, -⟩ := between_rowPrefix_iff.mp (of_decide_eq_true within)
  refine ⟨isEntry, fun isKey => ?_⟩
  have row : RecordId.deviceKey.text numbers = ascii "row:" ++ (group.text ++ [colon] ++ rest) := by
    rw [← isKey, starts, rowPrefix]
    simp
  obtain ⟨group', ref, same⟩ := RecordId.exists_row row
  cases same

/-- Reading rows changes nothing but the cached key. -/
theorem Mirrors.listRows_kept (mirrors : Mirrors numbers stores) (group : GroupId)
    (before : Option Number) (limit : Limit) :
    (stores.browser.listRows numbers group before limit).2.db = stores.browser.db ∧
      (stores.browser.listRows numbers group before limit).2.Sound numbers := by
  rw [Browser.listRows]
  split
  · exact ⟨rfl, mirrors.sound⟩
  · refine (Browser.openAll_spec mirrors.sound ?_ ?_).2
    · exact fun entry isIn => (Browser.range_entries (List.mem_of_mem_drop isIn)).1
    · exact fun entry isIn => (Browser.range_entries (List.mem_of_mem_drop isIn)).2

theorem Mirrors.listRows (mirrors : Mirrors numbers stores)
    (alike : ListsAlike numbers stores.memory group before limit) :
    (stores.browser.listRows numbers group before limit).1 =
      (stores.memory.listRows group before limit).map Row.value := by
  have keys := mirrors.range_keys alike
  have count : (stores.browser.range (rowPrefix group)
      (Browser.upperKey numbers group before)).length =
        (stores.memory.rowsBefore group before).length := by
    have lengths := congrArg List.length keys
    rwa [List.length_map, List.length_map, List.length_insertionSort] at lengths
  rw [Browser.listRows]
  simp only [count]
  cases first : limit.firstRead (stores.memory.rowsBefore group before).length with
  | none =>
    have cut := alike.whole first
    simp only [Memory.listRows, List.length_insertionSort]
    rw [List.drop_eq_nil_of_le (by rwa [List.length_insertionSort])]
    rfl
  | some =>
    simp only
    rw [(Browser.openAll_spec mirrors.sound
      (fun entry isIn => (Browser.range_entries (List.mem_of_mem_drop isIn)).1)
      (fun entry isIn => (Browser.range_entries (List.mem_of_mem_drop isIn)).2)).1,
      List.map_drop, keys, ← List.map_drop, List.map_map, Limit.firstRead_eq first]
    have survive := alike.survive
    rw [Memory.listRows, List.length_insertionSort] at survive ⊢
    have opened : ∀ row ∈ ((stores.memory.rowsBefore group before).insertionSort
        fun a b => a.order ≤ b.order).drop
          (limit.skipped (stores.memory.rowsBefore group before).length),
        stores.browser.opened numbers ((RecordId.row group row.toRowRef).text numbers) =
          row.value := by
      intro row isIn
      have isRow := (List.mem_insertionSort _).mp (List.mem_of_mem_drop isIn)
      obtain ⟨entry, isEntry, rfl⟩ := List.mem_map.mp (List.mem_filter.mp isRow).1
      have plain : stores.memory.plain numbers (.row group entry.2.toRowRef) =
          some entry.2.value := congrArg (Option.map Row.value) (mirrors.get_of_mem group isEntry)
      refine mirrors.opened_eq (.row group entry.2.toRowRef) (by simp) plain ?_
      intro written same
      rw [← Option.some.inj same]
      exact survive _ isIn
    rw [List.map_congr_left (f := stores.browser.opened numbers ∘ _) opened, List.filter_eq_self]
    intro value isValue
    obtain ⟨row, -, rfl⟩ := List.mem_map.mp isValue
    rfl

theorem Mirrors.step (mirrors : Mirrors numbers stores) (call : Call Number) :
    Mirrors numbers (stores.step numbers call) := by
  have get : ∀ id : RecordId Number, id ≠ RecordId.deviceKey →
      Mirrors numbers ⟨stores.memory, (stores.browser.get numbers (id.text numbers)).2⟩ :=
    fun id differs =>
      have spec := Browser.get_spec mirrors.sound (text_ne differs)
      mirrors.read spec.2.2 spec.2.1
  cases call with
  | loadDevice => exact get .device (by simp)
  | getCursor group => exact get (.cursor group) (by simp)
  | getMeta key => exact get (.metaValue key) (by simp)
  | saveDevice device =>
    refine mirrors.put .device (by simp) mirrors.keyed rfl ?_
    intro other differs
    cases other with
    | device => exact absurd rfl differs
    | _ => rfl
  | setCursor group order =>
    refine mirrors.put (.cursor group) (by simp) mirrors.keyed ?_ ?_
    · show ((stores.memory.cursors.insert group order).get group).map _ = _
      rw [OrderedMap.get_insert, if_pos rfl]
      rfl
    intro other differs
    cases other with
    | cursor group' =>
      have otherGroup : group' ≠ group := fun same => differs (by rw [same])
      show ((stores.memory.cursors.insert group order).get group').map _ = _
      rw [OrderedMap.get_insert, if_neg otherGroup]
      rfl
    | _ => rfl
  | setMeta key value =>
    cases value with
    | none => exact mirrors.erase key
    | some value =>
      refine mirrors.put (.metaValue key) (by simp) mirrors.keyed ?_ ?_
      · show ((stores.memory.metaValues.insert key value).get key).map _ = _
        rw [OrderedMap.get_insert, if_pos rfl]
        rfl
      intro other differs
      cases other with
      | metaValue key' =>
        have otherKey : key' ≠ key := fun same => differs (by rw [same])
        show ((stores.memory.metaValues.insert key value).get key').map _ = _
        rw [OrderedMap.get_insert, if_neg otherKey]
        rfl
      | _ => rfl
  | putRows group rows => exact mirrors.putRows group rows
  | listRows group before limit =>
    have kept := mirrors.listRows_kept group before limit
    exact mirrors.read kept.2 kept.1
  | hasRows | groupIds => exact mirrors
  | clear =>
    refine ⟨⟨?_, ?_, ?_⟩, ?_, ?_, ?_⟩
    · intro serial cache
      cases cache
    · intro record found
      cases found
    · intro key record found
      cases found
    · intro group entry isIn
      cases isIn
    · exact Mirrors.new.stored
    · intro key isIn
      cases isIn

omit [LinearOrder Number] in
theorem groupOf_row {ref : RowRef Number} (plain : colon ∉ ref.messageId) :
    Browser.groupOf ((RecordId.row group ref).text numbers) = group.text := by
  have parts : (RecordId.row group ref).text numbers = [colon].intercalate
      [ascii "row", group.text, padded (numbers.text ref.order), ref.messageId] := by
    have row : ascii "row:" = ascii "row" ++ [colon] := by decide
    simp [RecordId.text, rowPrefix, rank, row, List.intercalate]
  have rowPlain : colon ∉ ascii "row" := by decide
  have split : ((RecordId.row group ref).text numbers).splitOn colon =
      [ascii "row", group.text, padded (numbers.text ref.order), ref.messageId] := by
    rw [parts]
    refine List.splitOn_intercalate colon ?_ (by simp)
    simpa using ⟨rowPlain, group.plain, numbers.colon_not_mem_padded ref.order, plain⟩
  rw [Browser.groupOf, split]
  simp [List.intercalate]

/-- The range of keys that `groupIds` reads. -/
theorem between_row_iff {key : JsString} :
    ascii "row:" ≤ key ∧ key < ascii "row;" ↔ ∃ rest, key = ascii "row:" ++ rest := by
  have low : ascii "row:" = ascii "row" ++ [colon] := by decide
  have high : ascii "row;" = ascii "row" ++ [semicolon] := by decide
  rw [low, high, KeyRanges.between_next_iff (by decide) colon_next]
  simp

omit [LinearOrder Number] in
theorem Mirrors.groupIds (mirrors : Mirrors numbers stores)
    (clean : ∀ entry ∈ stores.memory.rows.entries, entry.2.entries ≠ [] ∧
      ∀ row ∈ entry.2.entries, colon ∉ row.2.messageId) (name : JsString) :
    name ∈ stores.memory.rows.keys.map GroupId.text ↔
      name ∈ (stores.browser.range (ascii "row:") (ascii "row;")).map
        fun entry => Browser.groupOf entry.1 := by
  have group_eq : ∀ entry ∈ stores.memory.rows.entries, stores.memory.group entry.1 = entry.2 := by
    intro entry isIn
    rw [Memory.group, stores.memory.rows.get_of_mem_entries isIn, Option.getD_some]
  rw [List.mem_map, List.mem_map]
  constructor
  · rintro ⟨group, isGroup, rfl⟩
    obtain ⟨entry, isEntry, rfl⟩ := List.mem_map.mp isGroup
    obtain ⟨notEmpty, plain⟩ := clean entry isEntry
    obtain ⟨row, isRow⟩ := List.exists_mem_of_ne_nil _ notEmpty
    have found := mirrors.get_of_mem entry.1 ((group_eq entry isEntry).symm ▸ isRow)
    have isKey := mirrors.row_mem_keys.mpr ⟨_, found⟩
    obtain ⟨record, isRecord, sameKey⟩ := List.mem_map.mp isKey
    refine ⟨record, (List.mem_insertionSort _).mpr (List.mem_filter.mpr ⟨isRecord, ?_⟩), ?_⟩
    · refine decide_eq_true (between_row_iff.mpr
        ⟨entry.1.text ++ [colon] ++ rank numbers row.2.toRowRef, ?_⟩)
      rw [sameKey]
      simp [RecordId.text, rowPrefix]
    · rw [sameKey]
      exact groupOf_row (plain row isRow)
  rintro ⟨record, isIn, rfl⟩
  obtain ⟨isRecord, within⟩ := List.mem_filter.mp ((List.mem_insertionSort _).mp isIn)
  obtain ⟨rest, starts⟩ := between_row_iff.mp (of_decide_eq_true within)
  have isKey : record.1 ∈ stores.browser.db.keys := List.mem_map_of_mem isRecord
  obtain ⟨id, same⟩ := mirrors.named record.1 isKey
  obtain ⟨group, ref, rfl⟩ := RecordId.exists_row (same.symm.trans starts)
  rw [same] at isKey
  obtain ⟨row, found⟩ := mirrors.row_mem_keys.mp isKey
  cases held : stores.memory.rows.get group with
  | none =>
    rw [Memory.group, held] at found
    cases found
  | some =>
    have isEntry := stores.memory.rows.mem_entries_of_get held
    have isRow := (stores.memory.group group).mem_entries_of_get found
    rw [group_eq _ isEntry] at isRow
    have plain := (clean _ isEntry).2 _ isRow
    have sameRef := mirrors.ref_of_get found
    refine ⟨group, List.mem_map_of_mem isEntry, ?_⟩
    rw [same]
    refine (groupOf_row ?_).symm
    rw [← sameRef]
    exact plain

omit [LinearOrder Number] in
theorem Device.survives_value (device : Device) :
    JsonCodec.survives numbers.toJsonLibrary (device.value : JsValue Number) = true := by
  have snapshot : JsonCodec.reserved (ascii "snapshot") = false := by decide
  have deviceId : JsonCodec.reserved (ascii "deviceId") = false := by decide
  simp [Device.value, JsonCodec.survives, JsonCodec.survivesFields, snapshot, deviceId]

theorem Browser.call_getCursor (browser : Browser Number) (group : GroupId) :
    (browser.call numbers (.getCursor group)).1 =
      .value (match (browser.get numbers ((RecordId.cursor group).text numbers)).1 with
        | .null => .num numbers.zero
        | value => value) := rfl

theorem Mirrors.answer (mirrors : Mirrors numbers stores) {call : Call Number}
    (clean : Clean numbers stores call) : AnswersAlike numbers stores call := by
  have read : ∀ id : RecordId Number, id ≠ RecordId.deviceKey →
      (stores.browser.get numbers (id.text numbers)).1 =
        stores.browser.opened numbers (id.text numbers) :=
    fun id differs => (Browser.get_spec mirrors.sound (text_ne differs)).1
  cases call with
  | saveDevice | setCursor | putRows | clear => exact Answer.Same.of_eq rfl
  | setMeta key value => cases value <;> exact Answer.Same.of_eq rfl
  | loadDevice =>
    have opened := mirrors.opened_eq .device (by simp) rfl (by
      intro written isWritten
      obtain ⟨device, -, rfl⟩ := Option.map_eq_some_iff.mp isWritten
      exact Device.survives_value device)
    exact Answer.Same.of_eq (congrArg Answer.value (opened.symm.trans (read _ (by simp)).symm))
  | getMeta key =>
    have opened := mirrors.opened_eq (.metaValue key) (by simp) rfl (by
      intro written isWritten
      obtain ⟨value, -, rfl⟩ := Option.map_eq_some_iff.mp isWritten
      simp [JsonCodec.survives])
    exact Answer.Same.of_eq (congrArg Answer.value (opened.symm.trans (read _ (by simp)).symm))
  | getCursor group =>
    have opened := mirrors.opened_eq (.cursor group) (by simp) rfl (by
      intro written isWritten
      obtain ⟨order, isOrder, rfl⟩ := Option.map_eq_some_iff.mp isWritten
      rw [JsonCodec.survives]
      exact clean order isOrder)
    have value := (read (.cursor group) (by simp)).trans opened
    refine Answer.Same.of_eq ?_
    rw [Browser.call_getCursor, value]
    show Answer.value (.num ((stores.memory.cursors.get group).getD numbers.zero)) =
      .value (match ((stores.memory.cursors.get group).map JsValue.num).getD .null with
        | .null => .num numbers.zero
        | value => value)
    cases stores.memory.cursors.get group with
    | none | some => rfl
  | hasRows group =>
    refine Answer.Same.of_eq (congrArg Answer.names ?_)
    rw [List.filter_map]
    refine congrArg _ (List.filter_congr fun ref _ => ?_)
    exact (mirrors.isSome_row group ref).symm
  | listRows => exact Answer.Same.of_eq (congrArg Answer.rows (mirrors.listRows clean).symm)
  | groupIds => exact mirrors.groupIds clean

end Alike

/-- **Interchangeable stores.**  In a run whose questions cannot tell the stores apart, by what
they hold when they are asked, every call has the same answer from both: the device, the cursors,
the meta values, the rows of a group and their order, which rows are stored and which groups. -/
theorem answers_alike {calls : List (Call Number)}
    (clean : Along (Stores.step numbers) (Clean numbers) Stores.new calls) :
    Along (Stores.step numbers) (AnswersAlike numbers) Stores.new calls :=
  Along.imp (fun _ call mirrors _ => Mirrors.step mirrors call)
    (fun _ _ mirrors isClean => Mirrors.answer mirrors isClean) clean Mirrors.new

/-! ## Runs with integers -/

theorem digit_of_mem_toDigits {value : Nat} {c : Char} (isIn : c ∈ Nat.toDigits 10 value) :
    c.isDigit = true :=
  Nat.isDigit_of_mem_toDigits (by decide) (by decide) isIn

theorem chars_padded (value : Int) : chars (padded (ascii (toString value))) =
    List.replicate (16 - (ascii (toString value)).length) '0' ++ (toString value).toList := by
  have zero : (Char.ofNat (48 : CodeUnit).val) = '0' := by decide
  rw [padded, chars, List.map_append, List.map_replicate, zero]
  congr 1
  exact chars_ascii (decimal_small value)

/-- Padded integers tell their numbers: the sign comes behind the zeros. -/
theorem padded_toString_injective :
    Function.Injective fun value : Int => padded (ascii (toString value)) := by
  have noSign : ∀ count value, '-' ∉ List.replicate count '0' ++ Nat.toDigits 10 value := by
    intro count value isIn
    rcases List.mem_append.mp isIn with zero | isDigit
    · exact absurd (List.eq_of_mem_replicate zero) (by decide)
    · exact absurd (digit_of_mem_toDigits isDigit) (by decide)
  have noSign' : ∀ count, '-' ∉ List.replicate count '0' := fun count isIn =>
    absurd (List.eq_of_mem_replicate isIn) (by decide)
  intro left right same
  have texts := congrArg chars same
  simp only [chars_padded, toList_toString_int] at texts
  split_ifs at texts with leftSign rightSign rightSign
  · have numbers := congrArg (Nat.ofDigitChars 10 · 0) texts
    simp only [Nat.ofDigitChars_append, Nat.ofDigitChars_replicate_zero, Nat.mul_zero,
      Nat.ofDigitChars_ten_toDigits] at numbers
    omega
  · exact absurd (texts ▸ List.mem_append_right _ List.mem_cons_self) (noSign _ _)
  · exact absurd (texts.symm ▸ List.mem_append_right _ List.mem_cons_self) (noSign _ _)
  · have numbers := toDigits_injective (first_field (noSign' _) (noSign' _) texts).2
    omega

def integerNumbers : Numbers Int where
  toJsonLibrary := JsonCodec.integers
  zero := 0
  text value := ascii (toString value)
  text_plain value isIn := by
    have isChar : ':' ∈ (toString value).toList := by
      rw [← chars_ascii (decimal_small value)]
      exact List.mem_map_of_mem isIn
    rcases mem_toString_int isChar with isDigit | isSign
    · exact absurd isDigit (by decide)
    · exact absurd isSign (by decide)
  padded_injective := padded_toString_injective

def sampleGroupId : GroupId := ⟨ascii "0xa1", by decide⟩

def sampleRow (order : Int) (messageId : String) : Row Int := ⟨⟨order, ascii messageId⟩, []⟩

/-- A row is written after a later one, and the last of both is read. -/
def ordinaryCalls : List (Call Int) :=
  [.setCursor sampleGroupId 4, .putRows sampleGroupId [sampleRow 4 "b", sampleRow 2 "a"],
    .getCursor sampleGroupId, .listRows sampleGroupId (some 4) (.whole 5), .groupIds]

def negativeStores : Stores Int := Stores.new.step integerNumbers
  (.putRows sampleGroupId [sampleRow (-2) "a", sampleRow (-1) "b"])

/-- The later of two negative numbers has the smaller key. -/
def negativeCalls : List (Call Int) :=
  [.putRows sampleGroupId [sampleRow (-2) "a", sampleRow (-1) "b"],
    .listRows sampleGroupId none (.whole 1)]

theorem ordinaryCalls_clean :
    Along (Stores.step integerNumbers) (Clean integerNumbers) Stores.new ordinaryCalls := by
  refine ⟨trivial, trivial, fun _ _ => rfl, ⟨?_, ?_, ?_, ?_⟩, ?_, trivial⟩
  · intro entry isIn bound same
    cases same
    revert entry
    decide +kernel
  · decide +kernel
  · intro none
    cases none
  · decide +kernel
  · unfold Clean
    decide +kernel

/-- The stores agree on an ordinary run. -/
theorem ordinaryCalls_alike :
    Along (Stores.step integerNumbers) (AnswersAlike integerNumbers) Stores.new ordinaryCalls :=
  answers_alike integerNumbers ordinaryCalls_clean

/-- The `order` of a row object. -/
def orderOf : JsValue Int → Option Int
  | .obj fields =>
    match fields.lookup (ascii "order") with
    | some (.num order) => some order
    | _ => none
  | _ => none

def Answer.orders : Answer Int → List (Option Int)
  | .rows values => values.map orderOf
  | _ => []

/-- **Negative numbers rank backwards**: the newest of the rows `-2` and `-1` is `-1` to one store
and `-2` to the other. -/
theorem negative_rows_swap :
    ¬Along (Stores.step integerNumbers) (AnswersAlike integerNumbers) Stores.new negativeCalls := by
  rintro ⟨-, alike, -⟩
  have same : (negativeStores.memory.call integerNumbers
        (.listRows sampleGroupId none (.whole 1))).1.orders =
      (negativeStores.browser.call integerNumbers
        (.listRows sampleGroupId none (.whole 1))).1.orders :=
    congrArg Answer.orders alike
  revert same
  decide +kernel

end MessagingStack.App.BrowserStore

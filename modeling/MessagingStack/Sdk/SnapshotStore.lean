import Mathlib.Data.List.Sort
import MessagingStack.Base.OrderedMap
import MessagingStack.Sdk.RowsJson

/-!
# The store of a hosted device

`SnapshotMlsStateStore` of `mls/hosted-store.ts` keeps the whole MLS state of a device in memory
and writes it as one snapshot, which `seal` encrypts into the blob that the lease server keeps.

A blob opens to the snapshot that it was sealed from (`restore_seal`) if no record of the snapshot
has a reserved key, which the JSON codec would take for one of its own objects.  The calls of the
store keep that true as long as they write no such key (`Plain.apply`), and a snapshot that was
opened has none (`plain_of_restore`).
-/

namespace MessagingStack.Sdk.HostedStore

/-! ## Snapshots -/

/-- The argument of `saveDevice`. -/
structure DeviceState where
  snapshot : Bytes
  deviceId : String
  deriving DecidableEq

/-- `UnwrappedRow`: what the store reads of a row, and its other fields. -/
structure Row where
  order : Int
  messageId : String
  fields : List (String × RowsValue)

structure Snapshot where
  device : Option DeviceState
  cursors : OrderedMap String Int
  rows : OrderedMap String (List Row)
  metaValues : OrderedMap String String

namespace Snapshot

/-- The state of a new store. -/
def empty : Snapshot := ⟨none, ∅, ∅, ∅⟩

end Snapshot

/-! ## The calls that change the store -/

inductive StoreCall where
  | saveDevice (state : DeviceState)
  | setCursor (groupId : String) (order : Int)
  | putRows (groupId : String) (rows : List Row)
  | setMeta (key : String) (value : Option String)
  | clear

def Row.key (row : Row) : String := toString row.order ++ ":" ++ row.messageId

def newest (maxRowsPerGroup : Nat) (rows : List Row) : List Row :=
  if maxRowsPerGroup = 0 then rows else rows.drop (rows.length - maxRowsPerGroup)

def mergeRows (maxRowsPerGroup : Nat) (old rows : List Row) : List Row :=
  let byKey := (old ++ rows).foldl (fun map row => map.insert row.key row)
    (∅ : OrderedMap String Row)
  newest maxRowsPerGroup
    ((byKey.entries.map Prod.snd).insertionSort fun left right => left.order ≤ right.order)

namespace StoreCall

def apply (maxRowsPerGroup : Nat) (snapshot : Snapshot) : StoreCall → Snapshot
  | saveDevice state => { snapshot with device := some state }
  | setCursor groupId order => { snapshot with cursors := snapshot.cursors.insert groupId order }
  | putRows groupId rows =>
    { snapshot with
      rows := snapshot.rows.insert groupId
        (mergeRows maxRowsPerGroup ((snapshot.rows.get groupId).getD []) rows) }
  | setMeta key none => { snapshot with metaValues := snapshot.metaValues.erase key }
  | setMeta key (some value) => { snapshot with metaValues := snapshot.metaValues.insert key value }
  | clear => Snapshot.empty

/-- The argument of `onWrite`: device state must reach storage before the call returns. -/
def critical : StoreCall → Bool
  | saveDevice _ | clear => true
  | _ => false

end StoreCall

/-! ## The snapshot as a value of the codec -/

def DeviceState.value (state : DeviceState) : RowsValue :=
  .obj [("snapshot", .bytes state.snapshot), ("deviceId", .str state.deviceId)]

def Row.value (row : Row) : RowsValue :=
  .obj (("order", .num row.order) :: ("messageId", .str row.messageId) :: row.fields)

def recordValue {α : Type} (value : α → RowsValue) (record : OrderedMap String α) : RowsValue :=
  .obj (record.entries.map fun entry => (entry.1, value entry.2))

def rowsValue (rows : List Row) : RowsValue := .arr (rows.map Row.value)

def Snapshot.value (snapshot : Snapshot) : RowsValue :=
  .obj [("v", .num 1),
    ("device", (snapshot.device.map DeviceState.value).getD .null),
    ("cursors", recordValue .num snapshot.cursors),
    ("rows", recordValue rowsValue snapshot.rows),
    ("meta", recordValue .str snapshot.metaValues)]

/-- `s.device ?? null`. -/
def deviceOf : Option RowsValue → Option (Option DeviceState)
  | none | some .null => some none
  | some (.obj [("snapshot", .bytes snapshot), ("deviceId", .str deviceId)]) =>
    some (some ⟨snapshot, deviceId⟩)
  | some _ => none

def rowOf : RowsValue → Option Row
  | .obj (("order", .num order) :: ("messageId", .str messageId) :: fields) =>
    some ⟨order, messageId, fields⟩
  | _ => none

def rowsOf : RowsValue → Option (List Row)
  | .arr items => items.mapM rowOf
  | _ => none

def numOf : RowsValue → Option Int
  | .num value => some value
  | _ => none

def strOf : RowsValue → Option String
  | .str value => some value
  | _ => none

def mapOf {α : Type} (entries : List (String × α)) : Option (OrderedMap String α) :=
  if nodup : (entries.map Prod.fst).Nodup then some ⟨entries, nodup⟩ else none

def entryOf {α : Type} (of : RowsValue → Option α) (field : String × RowsValue) :
    Option (String × α) :=
  (of field.2).map fun value => (field.1, value)

/-- A record of the snapshot, `{}` by default. -/
def recordOf {α : Type} (of : RowsValue → Option α) :
    Option RowsValue → Option (OrderedMap String α)
  | none | some .null => some ∅
  | some (.obj fields) => (fields.mapM (entryOf of)).bind mapOf
  | some _ => none

/-- What `fromBytes` makes of a decoded value; `none` where it throws, or where the parts of the
value are not what the store takes them for. -/
def Snapshot.ofValue : RowsValue → Option Snapshot
  | .obj fields =>
    match fields.lookup "v" with
    | some (.num 1) => do
      let device ← deviceOf (fields.lookup "device")
      let cursors ← recordOf numOf (fields.lookup "cursors")
      let rows ← recordOf rowsOf (fields.lookup "rows")
      let metaValues ← recordOf strOf (fields.lookup "meta")
      return { device, cursors, rows, metaValues }
    | _ => none
  | _ => none

def Snapshot.toBytes (snapshot : Snapshot) : Json := RowsJson.encode snapshot.value

def fromBytes (bytes : Json) : Option Snapshot := (RowsJson.decode bytes).bind Snapshot.ofValue

/-! ## Sealing -/

/-- A sealed blob: what `seal` writes, or at least what has its parts; or fewer bytes. -/
inductive Blob (Ciphertext : Type) where
  | parts (magic nonce : Bytes) (ciphertext : Ciphertext)
  | short (bytes : Bytes)

/-- AES-GCM under the seal key and the device's associated data: what was encrypted decrypts. -/
structure SealKey (Ciphertext : Type) where
  encrypt : Bytes → Json → Ciphertext
  decrypt : Bytes → Ciphertext → Option Json
  decrypt_encrypt : ∀ nonce plain, decrypt nonce (encrypt nonce plain) = some plain

/-- `MAGIC`. -/
def magic : Bytes := Text.utf8 "MHS1"

variable {Ciphertext : Type}

def SealKey.seal (key : SealKey Ciphertext) (nonce : Bytes) (plain : Json) : Blob Ciphertext :=
  .parts magic nonce (key.encrypt nonce plain)

/-- `open`; `none` where it throws. -/
def SealKey.open (key : SealKey Ciphertext) : Blob Ciphertext → Option Json
  | .short _ => none
  | .parts found nonce ciphertext => if found = magic then key.decrypt nonce ciphertext else none

/-- The store that `withHostedMlsStore` begins with, from the blob of its lease. -/
def SealKey.restore (key : SealKey Ciphertext) : Option (Blob Ciphertext) → Option Snapshot
  | none => some Snapshot.empty
  | some blob => (key.open blob).bind fromBytes

/-! ## Plain snapshots -/

/-- No record of the snapshot has a reserved key. -/
structure Plain (snapshot : Snapshot) : Prop where
  cursors : ∀ name order, snapshot.cursors.get name = some order → RowsJson.reserved name = false
  rows : ∀ name rows, snapshot.rows.get name = some rows →
    RowsJson.reserved name = false ∧ ∀ row ∈ rows, RowsJson.plainFields row.fields = true
  metaValues : ∀ name value, snapshot.metaValues.get name = some value →
    RowsJson.reserved name = false

/-- The call writes no reserved key. -/
def StoreCall.Plain : StoreCall → Prop
  | .setCursor groupId _ => RowsJson.reserved groupId = false
  | .putRows groupId rows =>
    RowsJson.reserved groupId = false ∧ ∀ row ∈ rows, RowsJson.plainFields row.fields = true
  | .setMeta key (some _) => RowsJson.reserved key = false
  | _ => True

/-! ## Reading a snapshot back -/

theorem mapOf_entries {α : Type} (record : OrderedMap String α) :
    mapOf record.entries = some record := by
  rw [mapOf, dif_pos record.nodup]

theorem mapM_entryOf
    {α : Type} {value : α → RowsValue} {of : RowsValue → Option α}
    (readBack : ∀ element, of (value element) = some element)
    (entries : List (String × α)) :
    (entries.map fun entry => (entry.1, value entry.2)).mapM (entryOf of) = some entries := by
  induction entries with
  | nil => rfl
  | cons entry rest ih =>
    have first : entryOf of (entry.1, value entry.2) = some entry := by
      rw [entryOf, readBack, Option.map_some]
    rw [List.map_cons, List.mapM_cons, first, ih]
    rfl

theorem recordOf_recordValue
    {α : Type} {value : α → RowsValue} {of : RowsValue → Option α}
    (readBack : ∀ element, of (value element) = some element)
    (record : OrderedMap String α) :
    recordOf of (some (recordValue value record)) = some record := by
  rw [recordValue, recordOf, mapM_entryOf readBack, Option.bind_some, mapOf_entries]

theorem rowsOf_rowsValue (rows : List Row) : rowsOf (rowsValue rows) = some rows := by
  rw [rowsValue, rowsOf]
  induction rows with
  | nil => rfl
  | cons row rest ih =>
    rw [List.map_cons, List.mapM_cons, ih]
    rfl

theorem deviceOf_value (device : Option DeviceState) :
    deviceOf (some ((device.map DeviceState.value).getD .null)) = some device := by
  cases device <;> rfl

theorem ofValue_value (snapshot : Snapshot) : Snapshot.ofValue snapshot.value = some snapshot := by
  have nums : ∀ order, numOf (.num order) = some order := fun _ => rfl
  have strs : ∀ text, strOf (.str text) = some text := fun _ => rfl
  have device := deviceOf_value snapshot.device
  have cursors := recordOf_recordValue nums snapshot.cursors
  have rows := recordOf_recordValue rowsOf_rowsValue snapshot.rows
  have metaValues := recordOf_recordValue strs snapshot.metaValues
  simp only [Snapshot.value, Snapshot.ofValue, List.lookup_cons, String.reduceBEq,
    beq_self_eq_true, device, cursors, rows, metaValues]
  rfl

/-! ## Plain snapshots -/

namespace Plain

theorem empty : Plain Snapshot.empty where
  cursors _ _ found := by cases found
  rows _ _ found := by cases found
  metaValues _ _ found := by cases found

theorem value {snapshot : Snapshot} (isPlain : Plain snapshot) :
    RowsJson.plain snapshot.value = true := by
  have device : RowsJson.plain ((snapshot.device.map DeviceState.value).getD .null) = true := by
    cases snapshot.device <;> rfl
  have cursors : RowsJson.plain (recordValue .num snapshot.cursors) = true := by
    refine RowsJson.plainFields_iff.mpr fun field isIn => ?_
    obtain ⟨entry, isEntry, rfl⟩ := List.mem_map.mp isIn
    exact ⟨isPlain.cursors _ _ ((OrderedMap.mem_entries_iff _ _).mp isEntry), rfl⟩
  have rows : RowsJson.plain (recordValue rowsValue snapshot.rows) = true := by
    refine RowsJson.plainFields_iff.mpr fun field isIn => ?_
    obtain ⟨entry, isEntry, rfl⟩ := List.mem_map.mp isIn
    obtain ⟨free, arePlain⟩ := isPlain.rows _ _ ((OrderedMap.mem_entries_iff _ _).mp isEntry)
    refine ⟨free, RowsJson.plainItems_iff.mpr fun item isItem => ?_⟩
    obtain ⟨row, isRow, rfl⟩ := List.mem_map.mp isItem
    exact arePlain row isRow
  have metaValues : RowsJson.plain (recordValue .str snapshot.metaValues) = true := by
    refine RowsJson.plainFields_iff.mpr fun field isIn => ?_
    obtain ⟨entry, isEntry, rfl⟩ := List.mem_map.mp isIn
    exact ⟨isPlain.metaValues _ _ ((OrderedMap.mem_entries_iff _ _).mp isEntry), rfl⟩
  rw [Snapshot.value, RowsJson.plain, RowsJson.plainFields_iff]
  simp only [List.forall_mem_cons, device, cursors, rows, metaValues, and_true]
  refine ⟨⟨by decide, rfl⟩, by decide, by decide, by decide, by decide, fun _ isIn => ?_⟩
  exact absurd isIn List.not_mem_nil

theorem get_foldl_insert
    {rows : List Row} {map : OrderedMap String Row} {name : String} {row : Row}
    (found : (rows.foldl (fun map row => map.insert row.key row) map).get name = some row) :
    map.get name = some row ∨ row ∈ rows := by
  induction rows generalizing map with
  | nil => exact .inl found
  | cons first rest ih =>
    rcases ih found with before | isLater
    · rw [OrderedMap.get_insert] at before
      split at before
      · cases before
        exact .inr List.mem_cons_self
      · exact .inl before
    · exact .inr (List.mem_cons_of_mem _ isLater)

theorem mem_of_mem_mergeRows {maxRowsPerGroup : Nat} {old rows : List Row} {row : Row}
    (isIn : row ∈ mergeRows maxRowsPerGroup old rows) :
    row ∈ old ++ rows := by
  have isSorted : row ∈ (((old ++ rows).foldl (fun map row => map.insert row.key row)
      (∅ : OrderedMap String Row)).entries.map Prod.snd).insertionSort
        fun left right => left.order ≤ right.order := by
    rw [mergeRows, newest] at isIn
    split at isIn
    · exact isIn
    · exact List.mem_of_mem_drop isIn
  obtain ⟨entry, isEntry, rfl⟩ := List.mem_map.mp ((List.mem_insertionSort _).mp isSorted)
  rcases get_foldl_insert ((OrderedMap.mem_entries_iff _ _).mp isEntry) with before | isIn
  · cases before
  · exact isIn

/-- **A call that writes no reserved key leaves none.** -/
theorem apply
    {maxRowsPerGroup : Nat} {snapshot : Snapshot} {call : StoreCall}
    (isPlain : Plain snapshot)
    (callPlain : call.Plain) :
    Plain (call.apply maxRowsPerGroup snapshot) := by
  cases call with
  | saveDevice => exact ⟨isPlain.cursors, isPlain.rows, isPlain.metaValues⟩
  | setCursor =>
    refine ⟨fun name value found => ?_, isPlain.rows, isPlain.metaValues⟩
    rw [StoreCall.apply, OrderedMap.get_insert] at found
    split at found
    · rename_i same
      rw [same]
      exact callPlain
    · exact isPlain.cursors name value found
  | putRows groupId =>
    refine ⟨isPlain.cursors, fun name value found => ?_, isPlain.metaValues⟩
    rw [StoreCall.apply, OrderedMap.get_insert] at found
    split at found
    · rename_i same
      rw [same]
      cases found
      refine ⟨callPlain.1, fun row isIn => ?_⟩
      rcases List.mem_append.mp (mem_of_mem_mergeRows isIn) with isOld | isNew
      · cases stored : snapshot.rows.get groupId with
        | none =>
          rw [stored] at isOld
          exact absurd isOld List.not_mem_nil
        | some old =>
          rw [stored] at isOld
          exact (isPlain.rows groupId old stored).2 row isOld
      · exact callPlain.2 row isNew
    · exact isPlain.rows name value found
  | setMeta key value =>
    cases value with
    | none =>
      refine ⟨isPlain.cursors, isPlain.rows, fun name value found => ?_⟩
      rw [StoreCall.apply, OrderedMap.get_erase] at found
      split at found
      · cases found
      · exact isPlain.metaValues name value found
    | some =>
      refine ⟨isPlain.cursors, isPlain.rows, fun name value found => ?_⟩
      rw [StoreCall.apply, OrderedMap.get_insert] at found
      split at found
      · rename_i same
        rw [same]
        exact callPlain
      · exact isPlain.metaValues name value found
  | clear => exact empty

/-! ### What is read back is plain -/

theorem exists_of_mapM_entryOf
    {α : Type} {of : RowsValue → Option α} {fields : List (String × RowsValue)}
    {entries : List (String × α)}
    (read : fields.mapM (entryOf of) = some entries)
    {entry : String × α} (isEntry : entry ∈ entries) :
    ∃ field ∈ fields, entryOf of field = some entry := by
  induction fields generalizing entries with
  | nil =>
    cases read
    exact absurd isEntry List.not_mem_nil
  | cons first rest ih =>
    simp only [List.mapM_cons, Option.bind_eq_bind, Option.pure_def, Option.bind_eq_some_iff,
      Option.some.injEq] at read
    obtain ⟨firstEntry, readFirst, later, readLater, rfl⟩ := read
    rcases List.mem_cons.mp isEntry with rfl | isLater
    · exact ⟨first, List.mem_cons_self, readFirst⟩
    · obtain ⟨field, isIn, readField⟩ := ih readLater isLater
      exact ⟨field, List.mem_cons_of_mem _ isIn, readField⟩

theorem get_recordOf
    {α : Type} {of : RowsValue → Option α} {fields : List (String × RowsValue)}
    {name : String} {record : OrderedMap String α}
    (arePlain : RowsJson.plainFields fields = true)
    (read : recordOf of (fields.lookup name) = some record)
    {wanted : String} {element : α}
    (found : record.get wanted = some element) :
    RowsJson.reserved wanted = false ∧
      ∃ value, RowsJson.plain value = true ∧ of value = some element := by
  rw [recordOf.eq_def] at read
  split at read
  · cases read
    cases found
  · cases read
    cases found
  · rename_i inner lookedUp
    have innerPlain : RowsJson.plainFields inner = true :=
      RowsJson.plain_of_lookup arePlain lookedUp
    obtain ⟨entries, readEntries, isMap⟩ := Option.bind_eq_some_iff.mp read
    rw [mapOf] at isMap
    split at isMap
    · cases isMap
      have isEntry := (OrderedMap.mem_entries_iff _ (wanted, element)).mpr found
      obtain ⟨field, isIn, readField⟩ := exists_of_mapM_entryOf readEntries isEntry
      obtain ⟨free, valuePlain⟩ := RowsJson.plainFields_iff.mp innerPlain field isIn
      obtain ⟨value, isValue, same⟩ := Option.map_eq_some_iff.mp readField
      cases same
      exact ⟨free, field.2, valuePlain, isValue⟩
    · cases isMap
  · cases read

theorem rowOf_plain {value : RowsValue} {row : Row}
    (isPlain : RowsJson.plain value = true)
    (read : rowOf value = some row) :
    RowsJson.plainFields row.fields = true := by
  rw [rowOf.eq_def] at read
  split at read
  · cases read
    simp only [RowsJson.plain, RowsJson.plainFields, Bool.and_eq_true] at isPlain
    exact isPlain.2.2
  · cases read

theorem rowsOf_plain {value : RowsValue} {rows : List Row}
    (isPlain : RowsJson.plain value = true)
    (read : rowsOf value = some rows) :
    ∀ row ∈ rows, RowsJson.plainFields row.fields = true := by
  rw [rowsOf.eq_def] at read
  split at read
  · rename_i items
    rw [RowsJson.plain] at isPlain
    induction items generalizing rows with
    | nil =>
      cases read
      exact fun _ isIn => absurd isIn List.not_mem_nil
    | cons item rest ih =>
      rw [RowsJson.plainItems, Bool.and_eq_true] at isPlain
      simp only [List.mapM_cons, Option.bind_eq_bind, Option.pure_def, Option.bind_eq_some_iff,
        Option.some.injEq] at read
      obtain ⟨row, readRow, later, readLater, rfl⟩ := read
      intro other isIn
      rcases List.mem_cons.mp isIn with rfl | isLater
      · exact rowOf_plain isPlain.1 readRow
      · exact ih isPlain.2 readLater other isLater
  · cases read

theorem ofValue {value : RowsValue} {snapshot : Snapshot}
    (isPlain : RowsJson.plain value = true)
    (read : Snapshot.ofValue value = some snapshot) :
    Plain snapshot := by
  rw [Snapshot.ofValue.eq_def] at read
  split at read
  · rename_i fields
    split at read
    · simp only [Option.bind_eq_bind, Option.pure_def, Option.bind_eq_some_iff,
        Option.some.injEq] at read
      obtain ⟨device, -, cursors, readCursors, rows, readRows, metaValues, readMeta, rfl⟩ := read
      refine ⟨fun name order found => (get_recordOf isPlain readCursors found).1,
        fun name groupRows found => ?_,
        fun name text found => (get_recordOf isPlain readMeta found).1⟩
      obtain ⟨free, items, itemsPlain, readItems⟩ := get_recordOf isPlain readRows found
      exact ⟨free, rowsOf_plain itemsPlain readItems⟩
    · cases read
  · cases read

end Plain

/-! ## Opening a blob -/

variable (key : SealKey Ciphertext)

theorem restore_seal
    {snapshot : Snapshot}
    (isPlain : Plain snapshot)
    (nonce : Bytes) :
    key.restore (some (key.seal nonce snapshot.toBytes)) = some snapshot := by
  rw [SealKey.restore, SealKey.seal, SealKey.open, if_pos rfl, key.decrypt_encrypt,
    Option.bind_some, fromBytes, Snapshot.toBytes, RowsJson.decode_encode _ isPlain.value,
    Option.bind_some, ofValue_value]

theorem plain_of_restore
    {blob : Option (Blob Ciphertext)} {snapshot : Snapshot}
    (restored : key.restore blob = some snapshot) :
    Plain snapshot := by
  cases blob with
  | none =>
    cases restored
    exact Plain.empty
  | some =>
    obtain ⟨bytes, -, read⟩ := Option.bind_eq_some_iff.mp restored
    obtain ⟨value, decoded, isSnapshot⟩ := Option.bind_eq_some_iff.mp read
    exact Plain.ofValue (RowsJson.plain_of_decode bytes decoded) isSnapshot

end MessagingStack.Sdk.HostedStore

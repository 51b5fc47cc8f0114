import MessagingStack.Sdk.Sync

/-!
# Passkey message backup

A device uploads the rows it holds in *segments*, sealed under a key that all devices of the
wallet derive from the passkey.  Its progress is one cursor for each group: the highest order
that was uploaded.  A restore imports every listed segment and raises the cursors to the highest
orders found there.
-/

namespace MessagingStack.Sdk

/-- `BACKUP_SEGMENT_PLAINTEXT_BYTES`. -/
def backupSegmentPlaintextBytes : Nat := 512 * 1024

/-- How many rows of a group `#backupNow` lists at most. -/
def backupRowLimit : Nat := 1000000

/-- How many segments a restore lists at a time. -/
def backupPage : Nat := 20

/-- A self-group, which is never backed up. -/
def isSelf (key : GroupId) : Bool := "self:".toList.isPrefixOf key.toList

namespace Session

variable (options : Options)

def listed (wallet : String) (keyId : String) (backup : List Segment) : List Segment :=
  backup.filter fun segment => segment.wallet = wallet && segment.key.keyId = keyId

def highestOrder (rows : List UnwrappedRow) (order : Int) : Int :=
  rows.foldl (fun order row => max order row.order) order

/-! ## Uploading -/

/-- What `#backupNow` keeps while it runs. -/
structure BackupState where
  cursor : OrderedMap GroupId Int
  segment : OrderedMap GroupId (List UnwrappedRow)
  size : Nat
  total : Nat

def putBackupSegment (key : MessageBackupKey) (payload : Bytes) : Session PUnit :=
  write fun world =>
    { world with
      backup := world.backup ++
        [{ seq := world.backup.length + 1, key, wallet := options.wallet, payload }] }

def raiseCursors (cursor : OrderedMap GroupId Int) (segment : List (GroupId × List UnwrappedRow)) :
    OrderedMap GroupId Int :=
  segment.foldl
    (fun cursor group =>
      cursor.insert group.1 (highestOrder group.2 ((cursor.get group.1).getD 0))) cursor

/-- `flush`: upload the segment, then advance the cursors. -/
def flush (key : MessageBackupKey) (state : BackupState) : Session BackupState :=
  if state.segment.entries.isEmpty then pure state
  else do
    putBackupSegment options key (options.wasm.encodeRowsJson state.segment.entries)
    let cursor := raiseCursors state.cursor state.segment.entries
    writeStore fun store => store.setBackupCursor key.keyId (some cursor)
    pure { state with cursor, segment := ∅, size := 0 }

/-- The segment is full: upload it before the next row. -/
def flushIfFull (key : MessageBackupKey) (rowSize : Nat) (state : BackupState) :
    Session BackupState :=
  if backupSegmentPlaintextBytes < state.size + rowSize && 0 < state.size then
    flush options key state
  else pure state

/-- Put a row into the segment. -/
def BackupState.push (state : BackupState) (groupId : GroupId) (row : UnwrappedRow)
    (rowSize : Nat) : BackupState :=
  { state with
    segment := state.segment.insert groupId ((state.segment.get groupId).getD [] ++ [row])
    size := state.size + rowSize
    total := state.total + 1 }

def backupRows (key : MessageBackupKey) (groupId : GroupId) :
    List UnwrappedRow → BackupState → Session BackupState
  | [], state => pure state
  | row :: rest, state => do
    let state ← flushIfFull options key (options.wasm.rowSize row) state
    backupRows key groupId rest (state.push groupId row (options.wasm.rowSize row))

/-- The groups, one after the other: the rows above the cursor. -/
def backupGroups (key : MessageBackupKey) :
    List GroupId → BackupState → Session BackupState
  | [], state => pure state
  | groupId :: rest, state =>
    if isSelf groupId then backupGroups key rest state
    else do
      let rows ← readStore fun store =>
        (store.listRows groupId backupRowLimit).filter fun row =>
          (state.cursor.get groupId).getD 0 < row.order
      let state ← backupRows options key groupId rows state
      backupGroups key rest state

def readBackupCursor (keyId : String) : Session (OrderedMap GroupId Int) :=
  Async.orElse (readStore fun store => (store.backupCursor keyId).getD ∅) ∅

def backupWith (key : MessageBackupKey) : Session Nat :=
  if options.backup then do
    let cursor ← readBackupCursor key.keyId
    let ids ← readStore fun store => store.groupIds
    let state ← backupGroups options key ids { cursor, segment := ∅, size := 0, total := 0 }
    let state ← flush options key state
    pure state.total
  else pure 0

/-! ## Restoring -/

/-- The cursors raised to the orders of the rows of one group of a bundle; a malformed row ends
the reading of the bundle. -/
def noteRows (groupId : GroupId) :
    List (Option UnwrappedRow) → OrderedMap GroupId Int → OrderedMap GroupId Int × Bool
  | [], backedUp => (backedUp, true)
  | none :: _, backedUp => (backedUp, false)
  | some row :: rest, backedUp =>
    noteRows groupId rest
      (backedUp.insert (lower groupId) (max ((backedUp.get (lower groupId)).getD 0) row.order))

/-- The orders that a bundle shows to be backed up. -/
def noteGroups :
    List (GroupId × Option (List (Option UnwrappedRow))) → OrderedMap GroupId Int →
      OrderedMap GroupId Int
  | [], backedUp => backedUp
  | (_, none) :: _, backedUp => backedUp
  | (groupId, some rows) :: rest, backedUp =>
    match noteRows groupId rows backedUp with
    | (backedUp, true) => noteGroups rest backedUp
    | (backedUp, false) => backedUp

def openBackupSegment (key : MessageBackupKey) (segment : Segment) : Option Bytes :=
  if segment.key = key && segment.wallet = options.wallet then some segment.payload else none

/-- The segments of a page, one after the other. -/
def restoreItems (key : MessageBackupKey) :
    List Segment → OrderedMap GroupId Int → Nat → Session (OrderedMap GroupId Int × Nat)
  | [], backedUp, imported => pure (backedUp, imported)
  | segment :: rest, backedUp, imported =>
    match openBackupSegment options key segment with
    | none => restoreItems key rest backedUp imported
    | some payload => do
      let more ← importBundle options payload true none
      let groups := ((options.wasm.decodeRowsJson payload).map HistoryBundle.groups).getD []
      restoreItems key rest (noteGroups groups backedUp) (imported + more)

/-- The listed segments after a sequence number. -/
def restorePages (key : MessageBackupKey) :
    Nat → Int → OrderedMap GroupId Int → Nat → Session (OrderedMap GroupId Int × Nat)
  | 0, _, _, _ => Async.crash
  | turns + 1, after, backedUp, imported => do
    let page ← readWorld fun world =>
      ((listed options.wallet key.keyId world.backup).filter fun segment =>
        after < segment.seq).take backupPage
    let (backedUp, imported) ← restoreItems options key page backedUp imported
    if page.length < backupPage then pure (backedUp, imported)
    else
      restorePages key turns (page.foldl (fun after segment => max after segment.seq) after)
        backedUp imported

def mergeCursors (cursor backedUp : OrderedMap GroupId Int) : OrderedMap GroupId Int :=
  backedUp.entries.foldl
    (fun cursor group => cursor.insert group.1 (max ((cursor.get group.1).getD 0) group.2)) cursor

def restoreWith (key : MessageBackupKey) : Session Nat :=
  if options.backup then do
    let world ← Async.get
    let (backedUp, imported) ← restorePages options key (world.script.length + 1) 0 ∅ 0
    let cursor ← readBackupCursor key.keyId
    writeStore fun store => store.setBackupCursor key.keyId (some (mergeCursors cursor backedUp))
    pure imported
  else pure 0

/-! ## The public calls -/

def backupKey : Session (Option MessageBackupKey) :=
  readStore fun store => store.backupKey.filter fun key => key.keyId ≠ "" && key.keyHex ≠ ""

def enableBackup (prf : Bytes) : Session (Nat × Nat) :=
  if options.backup && prf.length = 32 then do
    let key := options.wasm.deriveBackupKey prf options.wallet
    writeStore fun store => { store with backupKey := some key }
    let restored ← restoreWith options key
    let backedUp ← backupWith options key
    pure (restored, backedUp)
  else Async.throw .noBackup

def backupNow : Session Nat := do
  let key ← backupKey
  match key with
  | none => pure 0
  | some key => backupWith options key

def restoreBackup : Session Nat := do
  let key ← backupKey
  match key with
  | none => pure 0
  | some key => restoreWith options key

end Session

end MessagingStack.Sdk

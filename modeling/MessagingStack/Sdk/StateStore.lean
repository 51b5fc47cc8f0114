import MessagingStack.Base.OrderedMap
import MessagingStack.Sdk.Certificate

/-!
# The device and its state store

`Device` is what the MLS library holds for one device: its identity, its groups, the next
generation of each of its own sender ratchets, and the key packages it can be added with.  A
snapshot of a device is the device itself.  The library keeps a sender ratchet with the secrets
of its epoch, and the secrets of an epoch are never derived a second time; so the ratchets are
kept by group, epoch and leaf.
-/

namespace MessagingStack.Sdk

export Mls (GroupId)

/-! ## Rows -/

/-- The inner row of an application message: what the group key sealed. -/
structure Inner where
  nonce : Bytes
  keyVersion : Nat
  ciphertext : Bytes
  deriving DecidableEq

def bigEndian : Nat → Nat → Bytes
  | 0, _ => []
  | count + 1, value => bigEndian count (value / 256) ++ [UInt8.ofNat (value % 256)]

/-- `encodeInner`: `0x4d 0x01 || nonce(12) || keyVersion(u64 BE) || DEK ciphertext`. -/
def encodeInner (inner : Inner) : Bytes :=
  [0x4d, 0x01] ++ (inner.nonce ++ List.replicate 12 0).take 12 ++ bigEndian 8 inner.keyVersion ++
    inner.ciphertext

def decodeInner (bytes : Bytes) : Option Inner :=
  if bytes.length < 22 + 16 || bytes[0]? ≠ some 0x4d || bytes[1]? ≠ some 0x01 then none
  else
    some
      { nonce := (bytes.drop 2).take 12
        keyVersion := ((bytes.drop 14).take 8).foldl (fun value byte => value * 256 + byte.toNat) 0
        ciphertext := bytes.drop 22 }

abbrev Leaf := Mls.Leaf Identity
abbrev Group := Mls.Group Identity
abbrev Message := Mls.Message Identity Bytes
abbrev Wire := Mls.Wire Identity Bytes

/-- The kinds of rows that the session tells apart. -/
inductive RowKind where
  | commit
  | system
  | other
  deriving DecidableEq

/-- What a row of the log and an unwrapped row have in common. -/
structure RowHeader where
  messageId : String
  groupId : GroupId
  order : Int
  kind : RowKind
  isDeleted : Bool
  senderAddress : String
  createdAt : Int
  deriving DecidableEq

structure RelayerMessage extends RowHeader where
  encryptedText : Wire
  deriving DecidableEq

structure UnwrappedRow extends RowHeader where
  encryptedText : Bytes
  nonce : Bytes
  keyVersion : Nat
  senderVerified : Bool
  deriving DecidableEq

/-- What identifies a row within its group. -/
abbrev RowKey := Int × String

def RowHeader.key (row : RowHeader) : RowKey := (row.order, row.messageId)

/-! ## The device -/

/-- A sender ratchet of this device. -/
structure RatchetKey where
  groupId : GroupId
  epoch : Mls.EpochId
  leaf : Nat
  deriving DecidableEq

def ownRatchet (group : Group) : RatchetKey := ⟨group.groupId, group.epoch, group.ownLeaf⟩

/-- The MLS state of a device. -/
structure Device where
  identity : MlsDeviceCertificate
  signatureKey : Mls.SignatureKey
  groups : GroupId → Option Group
  /-- The next generation of each ratchet. -/
  ratchets : RatchetKey → Nat
  /-- The key packages whose private parts the device holds. -/
  keyPackages : List Nat

namespace Device

variable (device : Device)

def setGroup (key : GroupId) (group : Group) : Device :=
  { device with groups := fun other => if other = key then some group else device.groups other }

def deleteGroup (key : GroupId) : Device :=
  { device with groups := fun other => if other = key then none else device.groups other }

def advance (ratchet : RatchetKey) : Device :=
  { device with
    ratchets := fun other =>
      if other = ratchet then device.ratchets ratchet + 1 else device.ratchets other }

def withIdentity (identity : MlsDeviceCertificate) : Device := { device with identity }

variable {device}

@[simp] theorem setGroup_same (key : GroupId) (group : Group) :
    (device.setGroup key group).groups key = some group := by simp [setGroup]

@[simp] theorem deleteGroup_same (key : GroupId) : (device.deleteGroup key).groups key = none := by
  simp [deleteGroup]

@[simp] theorem setGroup_ratchets (key : GroupId) (group : Group) :
    (device.setGroup key group).ratchets = device.ratchets := rfl

@[simp] theorem setGroup_identity (key : GroupId) (group : Group) :
    (device.setGroup key group).identity = device.identity := rfl

@[simp] theorem deleteGroup_ratchets (key : GroupId) :
    (device.deleteGroup key).ratchets = device.ratchets := rfl

@[simp] theorem deleteGroup_identity (key : GroupId) :
    (device.deleteGroup key).identity = device.identity := rfl

@[simp] theorem advance_groups (ratchet : RatchetKey) :
    (device.advance ratchet).groups = device.groups := rfl

@[simp] theorem advance_identity (ratchet : RatchetKey) :
    (device.advance ratchet).identity = device.identity := rfl

end Device

/-! ## The store -/

structure RegistryCacheEntry where
  record : Option MlsDeviceRecord
  checkedAt : Int
  deriving DecidableEq

structure MessageBackupKey where
  keyId : String
  keyHex : String
  deriving DecidableEq

/-- What `saveDevice` writes. -/
structure SavedDevice where
  snapshot : Device
  deviceId : String

abbrev SecretKey := Nat

structure StateStore where
  device : Option SavedDevice
  /-- Cursors; a group without one reads as zero. -/
  cursors : GroupId → Option Int
  rows : OrderedMap GroupId (OrderedMap RowKey UnwrappedRow)
  groups : List GroupId
  /-- `cert-ok:…`: the certificates found valid. -/
  certOk : MlsDeviceCertificate → Bool
  /-- `reg:…`: the registry's answers. -/
  registry : String → Option RegistryCacheEntry
  authority : Option SecretKey
  authorityPending : Option SecretKey
  authoritySince : Option Int
  backupKey : Option MessageBackupKey
  /-- `backup-cursor:…`: by key id, the order up to which each group is backed up. -/
  backupCursor : String → Option (OrderedMap GroupId Int)

namespace StateStore

/-- A store into which nothing was written. -/
def new : StateStore where
  device := none
  cursors := fun _ => none
  rows := ∅
  groups := []
  certOk := fun _ => false
  registry := fun _ => none
  authority := none
  authorityPending := none
  authoritySince := none
  backupKey := none
  backupCursor := fun _ => none

variable (store : StateStore)

def getCursor (key : GroupId) : Int := (store.cursors key).getD 0

def setCursor (key : GroupId) (order : Int) : StateStore :=
  { store with cursors := fun other => if other = key then some order else store.cursors other }

/-- The rows of a group, in the order in which they were first stored. -/
def groupRows (key : GroupId) : OrderedMap RowKey UnwrappedRow := (store.rows.get key).getD ∅

def row (key : GroupId) (rowKey : RowKey) : Option UnwrappedRow := (store.groupRows key).get rowKey

def putRows (key : GroupId) (rows : List UnwrappedRow) : StateStore :=
  { store with
    rows := store.rows.insert key
      (rows.foldl (fun map row => map.insert row.key row) (store.groupRows key)) }

def listRows (key : GroupId) (limit : Nat) : List UnwrappedRow :=
  let all := ((store.groupRows key).entries.map Prod.snd).insertionSort
    fun left right => left.order ≤ right.order
  all.drop (all.length - limit)

def hasRow (key : GroupId) (rowKey : RowKey) : Bool := (store.row key rowKey).isSome

def groupIds : List GroupId := store.rows.keys

def rememberGroup (key : GroupId) : StateStore :=
  if key ∈ store.groups then store else { store with groups := store.groups ++ [key] }

/-- Write or delete the registry's answer under a key. -/
def setRegistry (key : String) (entry : Option RegistryCacheEntry) : StateStore :=
  { store with registry := fun other => if other = key then entry else store.registry other }

def setBackupCursor (keyId : String) (cursor : Option (OrderedMap GroupId Int)) : StateStore :=
  { store with
    backupCursor := fun other => if other = keyId then cursor else store.backupCursor other }

variable {store}

end StateStore

end MessagingStack.Sdk

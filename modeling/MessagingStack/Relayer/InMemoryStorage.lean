import Mathlib.Algebra.Group.Int.Defs
import Mathlib.Data.List.Sort
import MessagingStack.Relayer.Message

/-!
# The in-memory message store

The in-memory backend of the relayer (`storage/memory.rs`): the rows in the order of their inserts,
and the used nonces.  Every operation takes its locks without awaiting, so it is one step; a lock is
poisoned once a thread has panicked while holding it.  An operation returns its result together with
the store it leaves, also when it fails.  `WellOrdered` says that the orders of a group increase
along the list and never exceed the group's counter.
-/

namespace MessagingStack.Relayer

inductive StorageError where
  | notFound (id : Uuid)
  | duplicateId (id : Uuid)
  | duplicateNonce
  | duplicateIdempotencyKey
  | operationFailed (message : String)
  deriving DecidableEq

/-- One on-chain paid-message escrow, keyed by group and sequence number. -/
structure PaidEscrowRecord where
  groupId : String
  seq : Int
  payer : String
  recipient : String
  amount : Int
  createdAtMs : Int
  deriving DecidableEq

structure PaidEscrowValidityFilter where
  nowMs : Int
  paymentExpirationMs : Int

/-- `created_at_ms.saturating_add(payment_expiration_ms) > now_ms`, on 64-bit
integers. -/
def PaidEscrowValidityFilter.isValid (validity : PaidEscrowValidityFilter)
    (createdAtMs : Int) : Bool :=
  min (createdAtMs + validity.paymentExpirationMs) (2 ^ 63 - 1) > validity.nowMs

/-- The locks of the store that the modelled operations take. -/
inductive Lock where
  | messages
  | groupOrders
  | nonces
  | paidEscrows
  deriving DecidableEq

structure InMemoryStorage where
  /-- The rows, keyed by id, in the order of insertion. -/
  messages : List Message
  groupOrders : String → Option Int
  /-- All message nonces, for duplicate detection. -/
  nonces : List Bytes
  /-- On-chain paid DM escrows keyed by `(group_id, seq)`. -/
  paidEscrows : List PaidEscrowRecord
  poisoned : Lock → Bool

namespace InMemoryStorage

def new : InMemoryStorage where
  messages := []
  groupOrders := fun _ => none
  nonces := []
  paidEscrows := []
  poisoned := fun _ => false

def lockPoisoned : StorageError :=
  .operationFailed "Lock poisoned: poisoned lock: another task failed inside"

/-- The result of an operation and the store it leaves. -/
abbrev Result (α : Type) := Except StorageError α × InMemoryStorage

/-- The order number a row of the group gets next. -/
def next (storage : InMemoryStorage) (groupId : String) : Int :=
  ((storage.groupOrders groupId).map (· + 1)).getD 1

/-- The store once the next order number of a group has been consumed. -/
def consumeOrder (storage : InMemoryStorage) (groupId : String) : InMemoryStorage :=
  { storage with
    groupOrders := Function.update storage.groupOrders groupId (some (storage.next groupId)) }

@[simp] theorem consumeOrder_messages (storage : InMemoryStorage) (groupId : String) :
    (storage.consumeOrder groupId).messages = storage.messages := rfl

@[simp] theorem consumeOrder_nonces (storage : InMemoryStorage) (groupId : String) :
    (storage.consumeOrder groupId).nonces = storage.nonces := rfl

@[simp] theorem consumeOrder_poisoned (storage : InMemoryStorage) (groupId : String) :
    (storage.consumeOrder groupId).poisoned = storage.poisoned := rfl

/-- Gets the next order number for a specific group (auto-increment). -/
def nextOrder (storage : InMemoryStorage) (groupId : String) : Result Int :=
  if storage.poisoned .groupOrders then (.error lockPoisoned, storage)
  else (.ok (storage.next groupId), storage.consumeOrder groupId)

/-- The checks and the insertion of `createMessage`, once the row has its order. -/
def insertMessage (storage : InMemoryStorage) (message : Message) : Result Message :=
  if storage.poisoned .messages then (.error lockPoisoned, storage)
  else if storage.messages.any (·.id == message.id) then (.error (.duplicateId message.id), storage)
  else if message.idempotencyKey.isSome &&
      storage.messages.any (·.idempotencyKey == message.idempotencyKey) then
    (.error .duplicateIdempotencyKey, storage)
  else if storage.poisoned .nonces then (.error lockPoisoned, storage)
  else if storage.nonces.contains message.nonce then (.error .duplicateNonce, storage)
  else
    (.ok message,
      { storage with
        nonces := message.nonce :: storage.nonces
        messages := storage.messages ++ [message] })

/-- Stores a new row under the next order number of its group. -/
def createMessage (storage : InMemoryStorage) (message : Message) : Result Message :=
  match storage.nextOrder message.groupId with
  | (.error reason, after) => (.error reason, after)
  | (.ok order, after) => after.insertMessage (message.setOrder order)

def getMessage (storage : InMemoryStorage) (id : Uuid) : Except StorageError Message :=
  if storage.poisoned .messages then .error lockPoisoned
  else
    match storage.messages.find? (·.id == id) with
    | some message => .ok message
    | none => .error (.notFound id)

variable {storage : InMemoryStorage} {message : Message} {id : Uuid}

theorem getMessage_ok (found : storage.getMessage id = .ok message) :
    message ∈ storage.messages ∧ message.id = id := by
  unfold getMessage at found
  split at found
  · cases found
  split at found
  · next isFound =>
    cases found
    exact ⟨List.mem_of_find?_eq_some isFound, by simpa using List.find?_some isFound⟩
  · cases found

def getMessageByIdempotencyKey (storage : InMemoryStorage) (idempotencyKey : String) :
    Except StorageError (Option Message) :=
  if storage.poisoned .messages then .error lockPoisoned
  else .ok (storage.messages.find? (·.idempotencyKey == some idempotencyKey))

/-- Sort key of a row: `order.unwrap_or(0)`. -/
def orderKey (message : Message) : Int := message.order.getD 0

/-- The rows of a group by ascending order. -/
def log (storage : InMemoryStorage) (groupId : String) : List Message :=
  (storage.messages.filter (·.groupId == groupId)).insertionSort
    (fun left right => orderKey left ≤ orderKey right)

def replaceRow (storage : InMemoryStorage) (id : Uuid) (change : Message → Message) :
    InMemoryStorage :=
  { storage with
    messages := storage.messages.map fun message =>
      if message.id == id then change message else message }

/-- A change of the row with the given id under the `messages` lock. -/
def changeRow (storage : InMemoryStorage) (id : Uuid) (change : Message → Message) :
    Result Message :=
  match storage.getMessage id with
  | .error reason => (.error reason, storage)
  | .ok message => (.ok (change message), storage.replaceRow id change)

/-- Replaces the content of a row and swaps its nonce in the nonce set. -/
def updateMessage
    (storage : InMemoryStorage)
    (now : Timestamp)
    (id : Uuid)
    (encryptedMsg nonce : Bytes)
    (keyVersion : Int)
    (attachments : List Attachment)
    (signature : Bytes)
    (signatureVersion : Int)
    (publicKey : Bytes) :
    Result Message :=
  match storage.getMessage id with
  | .error reason => (.error reason, storage)
  | .ok message =>
    if storage.poisoned .nonces then (.error lockPoisoned, storage)
    else if message.nonce ≠ nonce ∧ nonce ∈ storage.nonces then (.error .duplicateNonce, storage)
    else
      let change := fun row : Message =>
        row.updateContent now encryptedMsg nonce keyVersion attachments signature
          signatureVersion publicKey
      (.ok (change message),
        { storage.replaceRow id change with
          nonces := nonce :: (storage.nonces.filter (· ≠ message.nonce)).filter (· ≠ nonce) })

/-- The row with a payment patch merged into its metadata. -/
def patchMetadata (now : Timestamp) (patch : Json) (message : Message) : Message :=
  { message with
    metadata := some ((message.metadata.getD (.obj [])).merge patch)
    updatedAt := now
    syncStatus :=
      match message.syncStatus with
      | .synced | .updated => .updatePending
      | status => status }

/-- Compare-and-set on the relayer-owned payment status of a row. -/
def updateMessageMetadataTrusted
    (storage : InMemoryStorage)
    (now : Timestamp)
    (id : Uuid)
    (patch : Json)
    (allowedFromStatus : List String) :
    Result (Option Message) :=
  match storage.getMessage id with
  | .error reason => (.error reason, storage)
  | .ok message =>
    if !message.kind.isDmPaymentKind then (.ok none, storage)
    else if !(Message.metadataStatus message.metadata).any (allowedFromStatus.contains ·) then
      (.ok none, storage)
    else
      (.ok (some (patchMetadata now patch message)),
        storage.replaceRow id (patchMetadata now patch))

def deleteMessage (storage : InMemoryStorage) (now : Timestamp) (id : Uuid) :
    Result Message :=
  storage.changeRow id (·.markForDeletion now)

def updateSyncStatus
    (storage : InMemoryStorage)
    (now : Timestamp)
    (id : Uuid)
    (status : SyncStatus)
    (quiltPatchId : Option String) :
    Result Message :=
  storage.changeRow id fun message =>
    { message with
      syncStatus := status
      updatedAt := now
      quiltPatchId := quiltPatchId.orElse fun _ => message.quiltPatchId }

def getMessagesBySyncStatus (storage : InMemoryStorage) (status : SyncStatus) (limit : Nat) :
    Except StorageError (List Message) :=
  if storage.poisoned .messages then .error lockPoisoned
  else .ok ((storage.messages.filter (·.syncStatus == status)).take limit)

structure GroupActivity where
  /-- Highest order assigned in the group, deleted rows included. -/
  latestOrder : Int
  /-- Count of non-deleted rows after the given order. -/
  unreadCount : Int
  deriving DecidableEq

/-- The counters of `get_group_activity` while it goes through the rows. -/
structure ActivityTally where
  latestOrder : Int
  human : Int
  otherSystem : Int
  hasJoin : Bool

def ActivityTally.add (afterOrder : Int) (tally : ActivityTally) (row : Message) :
    ActivityTally :=
  let tally := { tally with latestOrder := max tally.latestOrder (orderKey row) }
  if orderKey row ≤ afterOrder || row.isDeleted then tally
  else if row.kind.isControl then tally
  else if row.kind = .system then
    if row.systemType = some .memberJoined then { tally with hasJoin := true }
    else { tally with otherSystem := tally.otherSystem + 1 }
  else { tally with human := tally.human + 1 }

/-- Joins collapse to one unread when there is no human row yet. -/
def ActivityTally.activity (tally : ActivityTally) : GroupActivity where
  latestOrder := tally.latestOrder
  unreadCount :=
    tally.human + tally.otherSystem + if tally.hasJoin && tally.human == 0 then 1 else 0

def getGroupActivity (storage : InMemoryStorage) (groupId : String) (afterOrder : Int) :
    Except StorageError GroupActivity :=
  if storage.poisoned .messages then .error lockPoisoned
  else
    .ok ((storage.messages.filter (·.groupId == groupId)).foldl (ActivityTally.add afterOrder)
      { latestOrder := 0, human := 0, otherSystem := 0, hasJoin := false }).activity

def hasMessageFrom (storage : InMemoryStorage) (groupId sender : String) :
    Except StorageError Bool :=
  if storage.poisoned .messages then .error lockPoisoned
  else .ok (storage.messages.any fun message =>
    message.groupId == groupId && message.senderWalletAddr == sender)

def escrowsBetween (storage : InMemoryStorage) (groupId payer recipient : String)
    (validity : Option PaidEscrowValidityFilter) : List PaidEscrowRecord :=
  storage.paidEscrows.filter fun escrow =>
    escrow.groupId == groupId && escrow.payer == payer && escrow.recipient == recipient &&
      validity.all (·.isValid escrow.createdAtMs)

def hasPaidEscrow (storage : InMemoryStorage) (groupId payer recipient : String)
    (minAmount : Int) (validity : Option PaidEscrowValidityFilter) :
    Except StorageError Bool :=
  if storage.poisoned .paidEscrows then .error lockPoisoned
  else .ok ((storage.escrowsBetween groupId payer recipient validity).any (·.amount ≥ minAmount))

/-- The amount of the escrow with the highest sequence number. -/
def latestPaidEscrowAmount (storage : InMemoryStorage) (groupId payer recipient : String)
    (validity : Option PaidEscrowValidityFilter) : Except StorageError (Option Int) :=
  if storage.poisoned .paidEscrows then .error lockPoisoned
  else
    .ok (((storage.escrowsBetween groupId payer recipient validity).foldl
      (fun best escrow =>
        match best with
        | none => some escrow
        | some kept => if kept.seq ≤ escrow.seq then some escrow else some kept)
      none).map (·.amount))

def recordPaidEscrow (storage : InMemoryStorage) (escrow : PaidEscrowRecord) : Result Unit :=
  if storage.poisoned .paidEscrows then (.error lockPoisoned, storage)
  else
    (.ok (),
      { storage with
        paidEscrows := storage.paidEscrows.filter
          (fun kept => ¬(kept.groupId = escrow.groupId ∧ kept.seq = escrow.seq)) ++ [escrow] })

/-! ## The row with an id -/

/-- The row the map holds under an id. -/
def row (storage : InMemoryStorage) (id : Uuid) : Option Message :=
  storage.messages.find? (·.id == id)

theorem row_id (found : storage.row id = some message) : message.id = id := by
  simpa using List.find?_some found

theorem getMessage_eq_ok :
    storage.getMessage id = .ok message ↔
      storage.poisoned .messages = false ∧ storage.row id = some message := by
  unfold getMessage row
  cases storage.poisoned .messages with
  | true => simp
  | false =>
    cases storage.messages.find? (·.id == id) with
    | none | some => simp

theorem row_replaceRow (storage : InMemoryStorage) (id other : Uuid)
    {change : Message → Message} (keepsId : ∀ message, (change message).id = message.id) :
    (storage.replaceRow id change).row other =
      if other = id then (storage.row id).map change else storage.row other := by
  unfold row replaceRow
  have sameTest : ((fun message : Message => message.id == other) ∘ fun message =>
      if message.id == id then change message else message) = fun message =>
        message.id == other := by
    funext message
    by_cases isId : message.id = id <;> simp [isId, keepsId]
  rw [List.find?_map, sameTest]
  split_ifs with same
  · subst same
    cases found : storage.messages.find? (·.id == other) with
    | none => rfl
    | some message =>
      have isId : message.id = other := by simpa using List.find?_some found
      simp [isId]
  cases found : storage.messages.find? (·.id == other) with
  | none => rfl
  | some message =>
    have isOther : message.id = other := by simpa using List.find?_some found
    simp [isOther, same]

theorem row_of_mem (distinct : (storage.messages.map (·.id)).Nodup)
    (present : message ∈ storage.messages) :
    storage.row message.id = some message := by
  cases found : storage.row message.id with
  | none =>
    have missed := List.find?_eq_none.mp found message present
    simp at missed
  | some held =>
    have isHeld : held ∈ storage.messages := List.mem_of_find?_eq_some found
    rw [List.inj_on_of_nodup_map distinct isHeld present (row_id found)]

/-! ## What the operations do to the log -/

/-- Orders increase along the rows of a group and stay below the group's counter. -/
structure WellOrdered (storage : InMemoryStorage) : Prop where
  increasing : storage.messages.Pairwise fun left right =>
    left.groupId = right.groupId → orderKey left < orderKey right
  bounded : ∀ message ∈ storage.messages,
    ∃ highest, storage.groupOrders message.groupId = some highest ∧ orderKey message ≤ highest

theorem wellOrdered_new : WellOrdered new where
  increasing := .nil
  bounded := by simp [new]

/-- Under the invariant, sorting a group's rows by order changes nothing. -/
theorem WellOrdered.log_eq (ordered : WellOrdered storage) (groupId : String) :
    storage.log groupId = storage.messages.filter (·.groupId == groupId) := by
  apply List.Pairwise.insertionSort_eq
  have sublist := ordered.increasing.filter (p := (·.groupId == groupId))
  refine List.Pairwise.imp_of_mem ?_ sublist
  intro left right leftMem rightMem less
  have leftGroup : left.groupId = groupId := by simpa using (List.mem_filter.mp leftMem).2
  have rightGroup : right.groupId = groupId := by simpa using (List.mem_filter.mp rightMem).2
  exact (less (leftGroup.trans rightGroup.symm)).le

theorem WellOrdered.consumeOrder (ordered : WellOrdered storage) (groupId : String) :
    WellOrdered (storage.consumeOrder groupId) where
  increasing := ordered.increasing
  bounded := by
    intro message present
    obtain ⟨highest, counter, below⟩ := ordered.bounded message present
    by_cases same : message.groupId = groupId
    · refine ⟨storage.next groupId, ?_, ?_⟩
      · simp [InMemoryStorage.consumeOrder, same]
      · rw [InMemoryStorage.next, ← same, counter]
        simp only [Option.map_some, Option.getD_some]
        omega
    · exact ⟨highest, by simp [InMemoryStorage.consumeOrder, same, counter], below⟩

theorem createMessage_cases (storage : InMemoryStorage) (message : Message) :
    (∃ reason, storage.createMessage message = (.error reason, storage) ∨
      storage.createMessage message = (.error reason, storage.consumeOrder message.groupId)) ∨
    ((∀ row ∈ storage.messages, row.id ≠ message.id) ∧
      message.nonce ∉ storage.nonces ∧
      storage.createMessage message =
        (.ok (message.setOrder (storage.next message.groupId)),
          { storage.consumeOrder message.groupId with
            nonces := message.nonce :: storage.nonces
            messages := storage.messages ++
              [message.setOrder (storage.next message.groupId)] })) := by
  unfold createMessage nextOrder
  split_ifs with poisoned
  · exact .inl ⟨lockPoisoned, .inl rfl⟩
  simp only [insertMessage]
  split_ifs with poisonedMessages duplicateId duplicateKey poisonedNonces duplicateNonce
  · exact .inl ⟨lockPoisoned, .inr rfl⟩
  · exact .inl ⟨.duplicateId message.id, .inr rfl⟩
  · exact .inl ⟨.duplicateIdempotencyKey, .inr rfl⟩
  · exact .inl ⟨lockPoisoned, .inr rfl⟩
  · exact .inl ⟨.duplicateNonce, .inr rfl⟩
  refine .inr ⟨?_, ?_, rfl⟩
  · intro row present same
    exact duplicateId (List.any_eq_true.mpr ⟨row, present, by simpa [Message.setOrder]⟩)
  · intro present
    exact duplicateNonce (List.contains_iff_mem.mpr present)

/-- The state in which storing a row succeeds: the locks are healthy and the row's id, nonce
and idempotency key are new. -/
structure Accepts (storage : InMemoryStorage) (id : Uuid) (nonce : Bytes)
    (idempotencyKey : Option String) : Prop where
  healthy : ∀ lock, storage.poisoned lock = false
  freshId : ∀ row ∈ storage.messages, row.id ≠ id
  freshKey : idempotencyKey.isSome → ∀ row ∈ storage.messages, row.idempotencyKey ≠ idempotencyKey
  freshNonce : nonce ∉ storage.nonces

theorem createMessage_of_accepts (storage : InMemoryStorage) (message : Message)
    (accepts : storage.Accepts message.id message.nonce message.idempotencyKey) :
    storage.createMessage message =
      (.ok (message.setOrder (storage.next message.groupId)),
        { storage.consumeOrder message.groupId with
          nonces := message.nonce :: storage.nonces
          messages := storage.messages ++ [message.setOrder (storage.next message.groupId)] }) := by
  have noId : storage.messages.any (·.id == message.id) = false := by simpa using accepts.freshId
  have noKey : (message.idempotencyKey.isSome &&
      storage.messages.any (·.idempotencyKey == message.idempotencyKey)) = false := by
    cases some : message.idempotencyKey.isSome with
    | false => rfl
    | true => simpa using accepts.freshKey some
  have noNonce : storage.nonces.contains message.nonce = false := by simpa using accepts.freshNonce
  simp only [createMessage, nextOrder, accepts.healthy, insertMessage, Message.setOrder,
    consumeOrder_messages, consumeOrder_nonces, consumeOrder_poisoned, noId, noKey, noNonce,
    Bool.false_eq_true, ↓reduceIte]

theorem WellOrdered.append (ordered : WellOrdered storage) (message : Message) (nonces : List Bytes)
    :
    WellOrdered
      { storage.consumeOrder message.groupId with
        nonces := nonces
        messages := storage.messages ++ [message.setOrder (storage.next message.groupId)] } where
  increasing := by
    refine List.pairwise_append.mpr ⟨ordered.increasing, List.pairwise_singleton _ _, ?_⟩
    intro row present added isAdded same
    obtain rfl := List.mem_singleton.mp isAdded
    obtain ⟨highest, counter, below⟩ := ordered.bounded row present
    have sameGroup : row.groupId = message.groupId := same
    have nextOrder : storage.next message.groupId = highest + 1 := by
      simp [next, ← sameGroup, counter]
    change orderKey row < storage.next message.groupId
    omega
  bounded := by
    intro row present
    rcases List.mem_append.mp present with old | new
    · exact (ordered.consumeOrder message.groupId).bounded row old
    · obtain rfl := List.mem_singleton.mp new
      exact ⟨storage.next message.groupId,
        by simp [InMemoryStorage.consumeOrder, Message.setOrder], le_refl _⟩

theorem WellOrdered.createMessage (ordered : WellOrdered storage) (message : Message) :
    WellOrdered (storage.createMessage message).2 := by
  rcases storage.createMessage_cases message with ⟨reason, same | consumed⟩ | ⟨-, -, stored⟩
  · rwa [same]
  · rw [consumed]
    exact ordered.consumeOrder message.groupId
  · rw [stored]
    exact ordered.append message _

theorem WellOrdered.replaceRow (ordered : WellOrdered storage) (id : Uuid)
    {change : Message → Message} (group : ∀ message, (change message).groupId = message.groupId)
    (order : ∀ message, (change message).order = message.order) :
    WellOrdered (storage.replaceRow id change) where
  increasing := by
    refine List.pairwise_map.mpr (ordered.increasing.imp ?_)
    intro left right less
    split_ifs <;> simpa [orderKey, group, order] using less
  bounded := by
    intro message present
    obtain ⟨row, isRow, rfl⟩ := List.mem_map.mp present
    obtain ⟨highest, counter, below⟩ := ordered.bounded row isRow
    refine ⟨highest, ?_⟩
    split_ifs
    · rw [group]
      exact ⟨counter, by simpa [orderKey, order] using below⟩
    · exact ⟨counter, below⟩

section Changes

variable {storage : InMemoryStorage} (ordered : storage.WellOrdered) (now : Timestamp) (id : Uuid)

include ordered

theorem WellOrdered.changeRow {change : Message → Message}
    (group : ∀ message, (change message).groupId = message.groupId)
    (order : ∀ message, (change message).order = message.order) :
    WellOrdered (storage.changeRow id change).2 := by
  unfold InMemoryStorage.changeRow
  split
  · exact ordered
  · exact ordered.replaceRow id group order

theorem WellOrdered.updateMessage (encryptedMsg nonce : Bytes) (keyVersion : Int)
    (attachments : List Attachment) (signature : Bytes) (signatureVersion : Int)
    (publicKey : Bytes) :
    WellOrdered (storage.updateMessage now id encryptedMsg nonce keyVersion attachments signature
      signatureVersion publicKey).2 := by
  unfold InMemoryStorage.updateMessage
  split
  · exact ordered
  split_ifs
  · exact ordered
  · exact ordered
  have replaced := ordered.replaceRow id
    (fun row => rfl : ∀ row : Message, (row.updateContent now encryptedMsg nonce keyVersion
      attachments signature signatureVersion publicKey).groupId = row.groupId)
    fun row => rfl
  exact ⟨replaced.increasing, replaced.bounded⟩

theorem WellOrdered.updateMessageMetadataTrusted (patch : Json)
    (allowedFromStatus : List String) :
    WellOrdered (storage.updateMessageMetadataTrusted now id patch allowedFromStatus).2 := by
  unfold InMemoryStorage.updateMessageMetadataTrusted
  split
  · exact ordered
  split_ifs
  · exact ordered
  · exact ordered
  · exact ordered.replaceRow id (fun _ => rfl) fun _ => rfl

end Changes

end InMemoryStorage

end MessagingStack.Relayer

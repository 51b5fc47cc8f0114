import MessagingStack.Relayer.InMemoryStorage
import MessagingStack.Relayer.Membership

/-!
# Membership sync

The service that keeps the membership store in step with the chain
(`services/membership_sync.rs`).  Checkpoints reach it in three ways: the cold-start
catch-up replays a window behind the tip, the live stream delivers checkpoints from the
tip seen at subscribe time, and the idle watchdog polls the tip.  All three end in
`ingestCheckpoint`, which replays a gap in front of the checkpoint and takes a cursor
below the last one for a new genesis.

The store-level meaning of an event is `MembershipStore.apply`; `applyEvent` adds the
system rows the service writes to the message log, and `membership_processCheckpoint`
says that what it does to the membership store is the fold of `apply`.
-/

namespace MessagingStack.Relayer

/-! ## Events and checkpoints -/

/-- Domain events parsed from Groups SDK chain events. -/
inductive GroupsEvent where
  | memberAdded (groupId member : String)
  | memberRemoved (groupId member : String)
  | permissionsGranted (groupId member : String) (permissions : List MessagingPermission)
  | permissionsRevoked (groupId member : String) (permissions : List MessagingPermission)
  deriving DecidableEq

/-- A chain event, by the subsystem it is for; the last case stands for the events of
the gate caches, the workflow items and the agent groups. -/
inductive ChainEvent where
  | groups (event : GroupsEvent)
  | paidMessageSent (escrow : PaidEscrowRecord)
  | other
  deriving DecidableEq

structure Transaction where
  digest : String
  sender : String
  events : List ChainEvent
  deriving DecidableEq

structure Checkpoint where
  timestamp : Timestamp
  transactions : List Transaction
  deriving DecidableEq

def Checkpoint.groupsEvents (checkpoint : Checkpoint) : List GroupsEvent :=
  checkpoint.transactions.flatMap fun transaction =>
    transaction.events.filterMap fun event =>
      match event with
      | .groups event => some event
      | _ => none

namespace MembershipSync

/-- What the service is configured with. -/
structure Config where
  /-- The addresses of the singleton actors (GroupLeaver, GroupManager). -/
  systemObjectAddrs : List String
  /-- `MEMBERSHIP_BACKFILL_MAX_CHECKPOINTS`. -/
  backfillMax : Nat
  /-- The hash behind the nonces of system rows. -/
  blake2b512 : Bytes → Bytes

/-- Case-insensitive membership of an address in the system addresses. -/
def isSystemObject (addr : String) (system : List String) : Bool :=
  system.any (Text.eqIgnoreAsciiCase · addr)

def apply (config : Config) (store : MembershipStore) : GroupsEvent → MembershipStore
  | .memberAdded groupId member =>
    if isSystemObject member config.systemObjectAddrs then store
    else store.addMember groupId member []
  | .memberRemoved groupId member =>
    if isSystemObject member config.systemObjectAddrs then store
    else store.removeMember groupId member
  | .permissionsGranted groupId member permissions =>
    store.grantPermissions groupId member permissions
  | .permissionsRevoked groupId member permissions =>
    match store.revokePermissions groupId member permissions with
    | .ok after => after
    | .error _ => store

/-- The stores a checkpoint writes to, with the id the next system row gets. -/
structure Stores where
  membership : MembershipStore
  storage : InMemoryStorage
  nextId : Uuid

structure EventContext where
  txDigest : String
  eventIndex : Nat
  txSender : String
  checkpointTs : Timestamp

/-- Insert a system row; a row that was already ingested, and any other failure of the
store, is only logged. -/
def insertSystemMessage (config : Config) (stores : Stores)
    (groupId member : String) (systemType : SystemType) (actor : Option String)
    (idempotencyKey : String) (createdAt : Timestamp) : Stores :=
  let message := Message.newSystem config.blake2b512 stores.nextId groupId member systemType
    actor idempotencyKey createdAt
  { stores with
    storage := (stores.storage.createMessage message).2
    nextId := stores.nextId + 1 }

def systemKey (context : EventContext) (typeKey : String) : String :=
  context.txDigest ++ ":" ++ toString context.eventIndex ++ ":" ++ typeKey

/-- Applies a parsed event to the membership store and writes its system row. -/
def applyEvent (config : Config) (context : EventContext) (stores : Stores)
    (event : GroupsEvent) : Stores :=
  let updated := { stores with membership := apply config stores.membership event }
  match event with
  | .memberAdded _ _ => updated
  | .memberRemoved groupId member =>
    if isSystemObject member config.systemObjectAddrs then stores
    else if context.txSender ≠ "" ∧ Text.eqIgnoreAsciiCase context.txSender member then
      insertSystemMessage config updated groupId member .memberLeft none
        (systemKey context "member_left") context.checkpointTs
    else
      insertSystemMessage config updated groupId member .memberRemoved
        (if context.txSender = "" then none else some context.txSender)
        (systemKey context "member_removed") context.checkpointTs
  | .permissionsGranted groupId member permissions =>
    if permissions = [] then stores
    else if !stores.membership.isMember groupId member &&
        !isSystemObject member config.systemObjectAddrs then
      insertSystemMessage config updated groupId member .memberJoined none
        (systemKey context "member_joined") context.checkpointTs
    else updated
  | .permissionsRevoked _ _ _ => updated

def applyChainEvent (config : Config) (context : EventContext) (stores : Stores) :
    ChainEvent → Stores
  | .groups event => applyEvent config context stores event
  | .paidMessageSent escrow => { stores with storage := (stores.storage.recordPaidEscrow escrow).2 }
  | .other => stores

/-- The events of a transaction, in order. -/
def applyTransaction (config : Config) (timestamp : Timestamp) (stores : Stores)
    (transaction : Transaction) : Stores :=
  transaction.events.zipIdx.foldl
    (fun stores event =>
      applyChainEvent config
        { txDigest := transaction.digest
          eventIndex := event.2
          txSender := transaction.sender
          checkpointTs := timestamp }
        stores event.1)
    stores

/-- Processes a single checkpoint. -/
def processCheckpoint (config : Config) (stores : Stores) (checkpoint : Checkpoint) : Stores :=
  checkpoint.transactions.foldl (applyTransaction config checkpoint.timestamp) stores

/-! ### What an event does to a permission test -/

section Tests

variable (config : Config) (store : MembershipStore)

theorem hasPermission_apply_revoked (groupId member : String)
    (permissions : List MessagingPermission) (wantedGroup wantedAddress : String)
    (permission : MessagingPermission) :
    (apply config store (.permissionsRevoked groupId member permissions)).hasPermission
        wantedGroup wantedAddress permission = true ↔
      store.hasPermission wantedGroup wantedAddress permission = true ∧
        ¬((wantedGroup = groupId ∧ wantedAddress = member) ∧ permission ∈ permissions) := by
  simp only [apply, MembershipStore.revokePermissions]
  cases recorded : store.permissions? groupId member with
  | none =>
    -- a revocation for a member that is not recorded is dropped
    refine ⟨fun holds => ⟨holds, ?_⟩, And.left⟩
    rintro ⟨⟨rfl, rfl⟩, -⟩
    simp [MembershipStore.hasPermission, recorded] at holds
  | some =>
    refine (MembershipStore.hasPermission_setPermissions store groupId member _ wantedGroup
      wantedAddress permission).trans ?_
    split_ifs with here
    · obtain ⟨rfl, rfl⟩ := here
      simp [MembershipStore.hasPermission, recorded]
    · simp [here]

theorem hasPermission_apply_added (groupId member wantedGroup wantedAddress : String)
    (permission : MessagingPermission) :
    (apply config store (.memberAdded groupId member)).hasPermission wantedGroup
        wantedAddress permission = true ↔
      store.hasPermission wantedGroup wantedAddress permission = true := by
  simp only [apply]
  split_ifs with system
  · rfl
  · rw [MembershipStore.hasPermission_addMember]
    simp

theorem indexed_apply {store : MembershipStore} (indexed : store.Indexed)
    (event : GroupsEvent) : (apply config store event).Indexed := by
  cases event with
  | memberAdded groupId member =>
    simp only [apply]
    split_ifs
    · exact indexed
    · exact MembershipStore.indexed_setPermissions indexed groupId member _
  | memberRemoved groupId member =>
    simp only [apply]
    split_ifs
    · exact indexed
    · exact MembershipStore.indexed_removeMember indexed groupId member
  | permissionsGranted groupId member =>
    simp only [apply, MembershipStore.grantPermissions]
    split_ifs
    · exact indexed
    · exact MembershipStore.indexed_setPermissions indexed groupId member _
  | permissionsRevoked groupId member =>
    simp only [apply, MembershipStore.revokePermissions]
    cases store.permissions? groupId member with
    | none => exact indexed
    | some => exact MembershipStore.indexed_setPermissions indexed groupId member _

end Tests

/-! ### The membership part of a checkpoint -/

theorem membership_applyEvent (config : Config) (context : EventContext) (stores : Stores)
    (event : GroupsEvent) :
    (applyEvent config context stores event).membership = apply config stores.membership event := by
  cases event with
  | memberAdded | permissionsRevoked => rfl
  | memberRemoved =>
    simp only [applyEvent, insertSystemMessage, apply]
    split_ifs <;> rfl
  | permissionsGranted =>
    simp only [applyEvent, insertSystemMessage, apply]
    split_ifs with noPermissions
    · simp [noPermissions, MembershipStore.grantPermissions]
    · rfl
    · rfl

theorem membership_applyChainEvents (config : Config) (context : Nat → EventContext)
    (events : List ChainEvent) (start : Nat) (stores : Stores) :
    ((events.zipIdx start).foldl
        (fun stores event => applyChainEvent config (context event.2) stores event.1)
        stores).membership =
      (events.filterMap fun event =>
        match event with
        | .groups event => some event
        | _ => none).foldl (apply config) stores.membership := by
  induction events generalizing start stores with
  | nil => rfl
  | cons event rest ih =>
    rw [List.zipIdx_cons, List.foldl_cons, ih]
    cases event with
    | groups =>
      simp only [applyChainEvent, membership_applyEvent, List.filterMap_cons, List.foldl_cons]
    | paidMessageSent | other => rfl

theorem membership_processCheckpoint (config : Config) (stores : Stores)
    (checkpoint : Checkpoint) :
    (processCheckpoint config stores checkpoint).membership =
      checkpoint.groupsEvents.foldl (apply config) stores.membership := by
  unfold processCheckpoint Checkpoint.groupsEvents
  generalize checkpoint.transactions = transactions
  induction transactions generalizing stores with
  | nil => rfl
  | cons transaction rest ih =>
    rw [List.foldl_cons, ih, List.flatMap_cons, List.foldl_append]
    congr 1
    exact membership_applyChainEvents config
      (fun index =>
        { txDigest := transaction.digest
          eventIndex := index
          txSender := transaction.sender
          checkpointTs := checkpoint.timestamp })
      transaction.events 0 stores

/-! ## The service -/

/-- What a node answers when it is asked for one checkpoint of a replay. -/
inductive Fetch where
  | served
  /-- An answer without a checkpoint in it. -/
  | withoutBody
  /-- The node pruned it. -/
  | notFound
  /-- Any other status, or a timeout. -/
  | failed
  deriving DecidableEq

/-- What a node answers when it is asked for the latest checkpoint. -/
inductive Latest where
  | failed
  | absent
  | tip (seq : Nat)
  deriving DecidableEq

/-- How far the service is in `run_subscription`. -/
inductive Phase where
  | disconnected
  /-- Subscribed without a cursor: about to read the tip and replay behind it. -/
  | catchUp
  /-- The window is replayed: about to read the tip once more. -/
  | catchUpTip
  /-- In the select loop over the stream and the idle watchdog. -/
  | streaming
  deriving DecidableEq

/-- The state of the service and of its connection. -/
structure Service where
  stores : Stores
  lastCursor : Option Nat
  phase : Phase
  /-- The lowest checkpoint the open stream can still deliver. -/
  streamNext : Nat
  /-- The checkpoints processed so far, in order. -/
  processed : List Nat

/-- `STARTUP_BACKFILL_CHECKPOINTS`. -/
def startupBackfillCheckpoints : Nat := 2000

/-- Checkpoints to replay before processing a streamed one, and whether the range was
cut to the limit. -/
def backfillRange (last streamed limit : Nat) : Option (Nat × Nat × Bool) :=
  if limit = 0 ∨ streamed ≤ last + 1 then none
  else if streamed - (last + 1) > limit then some (streamed - limit, streamed, true)
  else some (last + 1, streamed, false)

def process (config : Config) (chain : Nat → Checkpoint) (seq : Nat) (service : Service) :
    Service :=
  { service with
    stores := processCheckpoint config service.stores (chain seq)
    processed := service.processed ++ [seq] }

def setCursor (seq : Nat) (service : Service) : Service := { service with lastCursor := some seq }

/-- Replays `count` checkpoints from `seq` on; `false` when a fetch failed. -/
def replayCheckpoints (config : Config) (chain : Nat → Checkpoint) (ledger : Nat → Fetch) :
    (count seq : Nat) → Service → Bool × Service
  | 0, _, service => (true, service)
  | count + 1, seq, service =>
    match ledger seq with
    | .served =>
      replayCheckpoints config chain ledger count (seq + 1)
        (setCursor seq (process config chain seq service))
    | .withoutBody | .notFound =>
      replayCheckpoints config chain ledger count (seq + 1) (setCursor seq service)
    | .failed => (false, service)

/-- Apply the checkpoint itself, once the gap in front of it is closed. -/
def applyCheckpoint (config : Config) (chain : Nat → Checkpoint) (cursor : Nat) (body : Bool)
    (service : Service) : Service :=
  setCursor cursor (if body then process config chain cursor service else service)

/-- Applies one checkpoint, replaying any gap in front of it. -/
def ingestCheckpoint (config : Config) (chain : Nat → Checkpoint) (ledger : Nat → Fetch)
    (cursor : Nat) (body : Bool) (service : Service) : Bool × Service :=
  match service.lastCursor with
  | none => (true, applyCheckpoint config chain cursor body service)
  | some last =>
    if cursor < last then
      -- taken for a chain regenesis
      (true, applyCheckpoint config chain cursor body
        { service with
          stores := { service.stores with membership := service.stores.membership.clearAll }
          lastCursor := none })
    else if cursor ≤ last then (true, service)
    else
      match backfillRange last cursor config.backfillMax with
      | none => (true, applyCheckpoint config chain cursor body service)
      | some (start, stop, _) =>
        match replayCheckpoints config chain ledger (stop - start) start service with
        | (true, replayed) => (true, applyCheckpoint config chain cursor body replayed)
        | (false, replayed) => (false, replayed)

/-- The events the service waits for. -/
inductive Input where
  /-- The subscription opens; the stream starts at the tip of that moment. -/
  | subscribe (tip : Nat)
  /-- Cold start: the tip is read and the window behind it is replayed. -/
  | catchUpRecent (latest : Latest) (ledger : Nat → Fetch)
  /-- Cold start: the tip is read again and ingested. -/
  | catchUpTip (latest : Latest) (ledger : Nat → Fetch)
  /-- The stream yields a checkpoint. -/
  | deliver (cursor : Nat) (body : Bool) (ledger : Nat → Fetch)
  /-- The idle watchdog polls the tip. -/
  | pollLatest (latest : Latest) (ledger : Nat → Fetch)
  /-- The stream ends or errors. -/
  | disconnect

/-- The service after an ingestion: an error ends the subscription. -/
def afterIngest (phase : Phase) : Bool × Service → Service
  | (true, service) => { service with phase := phase }
  | (false, service) => { service with phase := .disconnected }

/-- One event.  An event that the phase does not wait for changes nothing. -/
def step (config : Config) (chain : Nat → Checkpoint) (service : Service) : Input → Service
  | .subscribe tip =>
    match service.phase with
    | .disconnected =>
      { service with
        phase := if service.lastCursor.isNone then .catchUp else .streaming
        streamNext := tip }
    | _ => service
  | .catchUpRecent latest ledger =>
    match service.phase, latest with
    | .catchUp, .failed => { service with phase := .disconnected }
    | .catchUp, .absent => { service with phase := .streaming }
    | .catchUp, .tip tip =>
      let window := max config.backfillMax startupBackfillCheckpoints
      let start := tip - (window - 1)
      afterIngest .catchUpTip (replayCheckpoints config chain ledger (tip - start) start service)
    | _, _ => service
  | .catchUpTip latest ledger =>
    match service.phase, latest with
    | .catchUpTip, .failed => { service with phase := .disconnected }
    | .catchUpTip, .absent => { service with phase := .streaming }
    | .catchUpTip, .tip tip =>
      afterIngest .streaming (ingestCheckpoint config chain ledger tip true service)
    | _, _ => service
  | .deliver cursor body ledger =>
    if service.phase = .streaming ∧ service.streamNext ≤ cursor then
      afterIngest .streaming
        (ingestCheckpoint config chain ledger cursor body { service with streamNext := cursor + 1 })
    else service
  | .pollLatest latest ledger =>
    match service.phase, latest with
    | .streaming, .failed => { service with phase := .disconnected }
    | .streaming, .tip tip =>
      afterIngest .streaming (ingestCheckpoint config chain ledger tip true service)
    | _, _ => service
  | .disconnect => { service with phase := .disconnected }

/-- A process that has just started with an in-memory membership store. -/
def start (storage : InMemoryStorage) (nextId : Uuid) : Service where
  stores := { membership := .new, storage := storage, nextId := nextId }
  lastCursor := none
  phase := .disconnected
  streamNext := 0
  processed := []

end MembershipSync

end MessagingStack.Relayer

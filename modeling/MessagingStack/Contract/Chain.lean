import MessagingStack.Contract.Messaging
import MessagingStack.Contract.PaidEscrow

/-!
# The chain

The shared objects of the messaging package, and the transactions that change them: any
wallet calls any function of the package, or one of the group, block-list and follow
functions beside it, with any arguments, while the clock goes forward.  A transaction
that aborts changes nothing.  Transactions are sent by wallets: the two actor objects of
the namespace hold permissions, but no key.
-/

namespace MessagingStack.Contract

open Move

/-! ## State and calls -/

/-- The shared objects. -/
structure Chain where
  version : U64
  clock : U64
  groups : OrderedMap Address Group
  histories : OrderedMap String EncryptionHistory
  logs : OrderedMap String MessageLog
  policies : OrderedMap Address PaidMessagingPolicy
  following : List (Address × Address)
  blockList : BlockList
  events : List MessageLogEvent
  /-- The coins handed out, oldest first; a coin that a call returns goes to its sender. -/
  transfers : List Transfer

/-- The package as `init` leaves it. -/
def Chain.genesis : Chain where
  version := packageVersion
  clock := 0
  groups := ∅
  histories := ∅
  logs := ∅
  policies := ∅
  following := []
  blockList := []
  events := []
  transfers := []

/-- A call of a transaction.  Groups are named by their address, histories and logs by
their uuid. -/
inductive Call where
  | createAndShareGroup (account : MemoryAccount) (name uuid : String)
      (initialEncryptedDek : List UInt8) (initialMembers : List Address)
  | createAgentAndShareGroup (acting : ActingContext)
      (creatorAccount crossPrincipalPeerAccount : MemoryAccount) (name uuid : String)
      (initialEncryptedDek : List UInt8) (initialMembers : List Address)
  | rotateEncryptionKey (groupId : Address) (historyUuid : String) (newEncryptedDek : List UInt8)
  | grantPermission (groupId member : Address) (permission : Permission)
  | revokePermission (groupId member : Address) (permission : Permission)
  | removeMember (groupId member : Address)
  | leave (groupId : Address)
  | archiveGroup (groupId : Address)
  | setGroupName (groupId : Address) (name : String)
  | insertGroupData (groupId : Address) (key value : String)
  | removeGroupData (groupId : Address) (key : String)
  | setPaidMessagingPolicy (enabled : Bool) (minCost : Option U64)
  | follow (whom : Address)
  | unfollow (whom : Address)
  | blockWallet (whom : Address)
  | unblockWallet (whom : Address)
  | sendPaidMessageDigest (groupId : Address) (logUuid : String) (recipient : Address)
      (payment escrowAmount : U64) (dedupeKey : List UInt8) (nonce : U128)
  | sendAgentPaidMessageDigest (groupId : Address) (logUuid : String) (acting : ActingContext)
      (recipient : Address) (payment escrowAmount : U64) (dedupeKey : List UInt8)
      (nonce : U128)
  | replyToPaidMessageClaimCoin (groupId : Address) (logUuid : String) (paidMsgSeq : U64)
      (charCount : U32) (dedupeKey : List UInt8) (nonce : U128)
  | replyToPaidMessageClaimSettled (groupId : Address) (logUuid : String) (paidMsgSeq : U64)
      (charCount : U32) (dedupeKey : List UInt8) (nonce : U128)
      (platformFeeRecipient ecosystemFeeRecipient : Address)
  | refundPaidEscrow (groupId : Address) (logUuid : String) (paidMsgSeq : U64)
  deriving DecidableEq

namespace Chain

def taken (chain : Chain) (namespace_ : Namespace) (uuid : String) : Taken where
  group := Table.contains chain.groups (namespace_.groupAddress uuid)
  historyUuids := chain.histories.keys
  logUuids := chain.logs.keys

/-- Share the objects a creation made. -/
def share (chain : Chain) (uuid : String) (created : Created) : Move MessagingError Chain := do
  let groups ← Table.add chain.groups created.group.members.id created.group
  let histories ← Table.add chain.histories uuid created.history
  let logs ← Table.add chain.logs uuid created.log
  return { chain with
    groups, histories, logs, events := chain.events ++ created.effects.events }

def onGroup (chain : Chain) (groupId : Address) (change : Group → Move MessagingError Group) :
    Move MessagingError Chain := do
  let group ← Table.borrow chain.groups groupId
  let group ← change group
  return { chain with groups := chain.groups.insert groupId group }

def onMembers (chain : Chain) (groupId : Address)
    (change : PermissionedGroup → Move PermissionedGroupError PermissionedGroup) :
    Move MessagingError Chain :=
  chain.onGroup groupId fun group => do
    let members ← within .permissionedGroup (change group.members)
    return { group with members }

/-- Change a log, with a group at hand; `coin` is the coin the call returns. -/
def onLog (chain : Chain) (groupId : Address) (logUuid : String) (sender : Address)
    (change : Group → MessageLog → Move MessagingError (Option U64 × MessageLog × Effects)) :
    Move MessagingError Chain := do
  let group ← Table.borrow chain.groups groupId
  let log ← Table.borrow chain.logs logUuid
  let (coin, log, effects) ← change group log
  return { chain with
    logs := chain.logs.insert logUuid log
    events := chain.events ++ effects.events
    transfers := chain.transfers ++ effects.transfers ++
      (coin.map fun value => ⟨sender, value⟩).toList }

/-- Run a call. -/
def perform (namespace_ : Namespace) (chain : Chain) (sender : Address) :
    Call → Move MessagingError Chain
  | .createAndShareGroup account name uuid initialEncryptedDek initialMembers => do
    let created ← createAndShareGroup chain.version namespace_ (chain.taken namespace_ uuid)
      chain.blockList account sender name uuid initialEncryptedDek initialMembers
    chain.share uuid created
  | .createAgentAndShareGroup acting creatorAccount crossPrincipalPeerAccount name uuid
      initialEncryptedDek initialMembers => do
    let created ← createAgentAndShareGroup chain.version namespace_
      (chain.taken namespace_ uuid) chain.blockList acting creatorAccount
      crossPrincipalPeerAccount sender name uuid initialEncryptedDek initialMembers
    chain.share uuid created
  | .rotateEncryptionKey groupId historyUuid newEncryptedDek => do
    let group ← Table.borrow chain.groups groupId
    let history ← Table.borrow chain.histories historyUuid
    let history ← rotateEncryptionKey chain.version history group sender newEncryptedDek
    return { chain with histories := chain.histories.insert historyUuid history }
  | .grantPermission groupId member permission =>
    chain.onMembers groupId fun members => members.grantPermission sender member permission
  | .revokePermission groupId member permission =>
    chain.onMembers groupId fun members => members.revokePermission sender member permission
  | .removeMember groupId member =>
    chain.onMembers groupId fun members => members.removeMember sender member
  | .leave groupId => chain.onGroup groupId fun group => leave namespace_ group sender
  | .archiveGroup groupId =>
    chain.onGroup groupId fun group => archiveGroup chain.version group sender
  | .setGroupName groupId name =>
    chain.onGroup groupId fun group => setGroupName namespace_ group sender name
  | .insertGroupData groupId key value =>
    chain.onGroup groupId fun group => insertGroupData namespace_ group sender key value
  | .removeGroupData groupId key =>
    chain.onGroup groupId fun group => removeGroupData namespace_ group sender key
  | .setPaidMessagingPolicy enabled minCost => do
    let policies ← setPaidMessagingPolicy chain.policies sender enabled minCost
    return { chain with policies }
  | .follow whom => return { chain with following := (sender, whom) :: chain.following }
  | .unfollow whom => return { chain with following := chain.following.filter (· ≠ (sender, whom)) }
  | .blockWallet whom => return { chain with blockList := (sender, whom) :: chain.blockList }
  | .unblockWallet whom =>
    return { chain with blockList := chain.blockList.filter (· ≠ (sender, whom)) }
  | .sendPaidMessageDigest groupId logUuid recipient payment escrowAmount dedupeKey nonce =>
    chain.onLog groupId logUuid sender fun group log => do
      let (log, effects) ← sendPaidMessageDigest chain.version namespace_ group log
        chain.policies chain.following chain.blockList sender recipient payment escrowAmount
        dedupeKey nonce chain.clock
      return (none, log, effects)
  | .sendAgentPaidMessageDigest groupId logUuid acting recipient payment escrowAmount dedupeKey
      nonce =>
    chain.onLog groupId logUuid sender fun group log => do
      let (log, effects) ← sendAgentPaidMessageDigest chain.version namespace_ group log
        chain.policies chain.following chain.blockList acting sender recipient payment
        escrowAmount dedupeKey nonce chain.clock
      return (none, log, effects)
  | .replyToPaidMessageClaimCoin groupId logUuid paidMsgSeq charCount dedupeKey nonce =>
    chain.onLog groupId logUuid sender fun group log => do
      let (coin, log, effects) ← replyToPaidMessageClaimCoin chain.version group log
        chain.blockList sender paidMsgSeq charCount dedupeKey nonce chain.clock
      return (some coin, log, effects)
  | .replyToPaidMessageClaimSettled groupId logUuid paidMsgSeq charCount dedupeKey nonce
      platformFeeRecipient ecosystemFeeRecipient =>
    chain.onLog groupId logUuid sender fun group log => do
      let (log, effects) ← replyToPaidMessageClaimSettled chain.version group log
        chain.blockList sender paidMsgSeq charCount dedupeKey nonce chain.clock
        platformFeeRecipient ecosystemFeeRecipient
      return (none, log, effects)
  | .refundPaidEscrow groupId logUuid paidMsgSeq =>
    chain.onLog groupId logUuid sender fun group log => do
      let (log, effects) ← refundPaidEscrow chain.version group log chain.blockList sender
        paidMsgSeq chain.clock
      return (none, log, effects)

/-- What happens to the chain. -/
inductive Input where
  /-- The clock goes forward to a time. -/
  | tick (nowMs : U64)
  | call (sender : Address) (call : Call)
  deriving DecidableEq

/-- The address is a wallet: it can send transactions. -/
def IsWallet (namespace_ : Namespace) (address : Address) : Prop :=
  address ≠ namespace_.groupLeaver ∧ address ≠ namespace_.groupManager

instance (namespace_ : Namespace) (address : Address) : Decidable (IsWallet namespace_ address) :=
  inferInstanceAs (Decidable (_ ∧ _))

def step (namespace_ : Namespace) (chain : Chain) : Input → Chain
  | .tick nowMs => if chain.clock.toNat ≤ nowMs.toNat then { chain with clock := nowMs } else chain
  | .call sender call =>
    if IsWallet namespace_ sender then
      match chain.perform namespace_ sender call with
      | .ok after => after
      | .error _ => chain
    else chain

end Chain

/-- A namespace whose groups are told apart by the length of their uuid. -/
def sampleNamespace : Namespace where
  groupLeaver := 100
  groupManager := 101
  groupAddress := fun uuid => BitVec.ofNat 256 (1000 + uuid.length)

/-! ## What a call does -/

inductive GroupChange (sender : Address) (before after : Group) : Prop where
  | granted (member : Address) (permission : Permission)
      (active : before.members.paused = false)
      (manages : before.members.Holds sender permission.manager)
      (id : after.members.id = before.members.id)
      (paused : after.members.paused = before.members.paused)
      (holds : ∀ who which, after.members.Holds who which ↔
        before.members.Holds who which ∨ who = member ∧ which = permission)
  | shrunk (active : before.members.paused = false) (shrinks : before.members.Shrinks after.members)
  | archived (manages : before.members.Holds sender .permissionsAdmin)
      (members : after.members = { before.members with paused := true })
  | edited (active : before.members.paused = false) (members : after.members = before.members)

def PaidCall.sender : PaidCall → Address
  | .sendPaidMessage sender .. => sender
  | .replyToPaidMessageClaimCoin sender .. => sender
  | .replyToPaidMessageClaimSettled sender .. => sender
  | .refundPaidMessage sender _ => sender

def PaidCall.opens : PaidCall → Option (Address × U64)
  | .sendPaidMessage _ recipient _ escrowAmount _ _ => some (recipient, escrowAmount)
  | _ => none

/-- The group, the log, the recipient and the amount of the escrow a call asks to open. -/
def Call.opens : Call → Option (Address × String × Address × U64)
  | .sendPaidMessageDigest groupId logUuid recipient _ escrowAmount _ _ =>
    some (groupId, logUuid, recipient, escrowAmount)
  | .sendAgentPaidMessageDigest groupId logUuid _ recipient _ escrowAmount _ _ =>
    some (groupId, logUuid, recipient, escrowAmount)
  | _ => none

/-- The conversation is marked as a direct message. -/
def Group.IsDirect (group : Group) : Prop :=
  group.metadata.data.get conversationKindKey = some conversationKindDm

instance (group : Group) : Decidable group.IsDirect := inferInstanceAs (Decidable (_ = _))

/-- The guards of the package in front of a paid call, as far as they were passed. -/
structure Admitted (chain : Chain) (group : Group) (log : MessageLog) (call : PaidCall) :
    Prop where
  active : group.members.paused = false
  matching : log.groupId = group.members.id
  permitted : group.members.Holds call.sender .messagingSender
  /-- The first escrow of a direct-message log carries the recipient's minimum. -/
  opening : ∀ sender recipient payment escrowAmount dedupeKey nonce,
    call = .sendPaidMessage sender recipient payment escrowAmount dedupeKey nonce →
    group.IsDirect → log.nextSeq = 0 →
    ∀ minCost ∈ requiresPaymentFrom chain.policies recipient, minCost.toNat ≤ escrowAmount.toNat

/-- **What a call of `sender` that returned can have done.** -/
inductive Chain.Change (chain : Chain) (sender : Address) (request : Call) : Chain → Prop where
  | created (uuid : String) (group : Group) (history : EncryptionHistory)
      (newGroup : chain.groups.get group.members.id = none)
      (newHistory : chain.histories.get uuid = none)
      (isHistory : ∃ dek, history = { groupId := group.members.id, uuid, encryptedKeys := [dek] })
      (newLog : chain.logs.get uuid = none) :
      Change chain sender request
        { chain with
          groups := chain.groups.insert group.members.id group
          histories := chain.histories.insert uuid history
          logs := chain.logs.insert uuid
            { groupId := group.members.id, uuid, nextSeq := 0, usedDedupe := ∅, nonces := ∅,
              paidMsgEscrow := ∅ }
          events := chain.events ++ [.messageLogCreated group.members.id uuid] }
  | group (groupId : Address) (before after : Group)
      (found : chain.groups.get groupId = some before)
      (change : GroupChange sender before after) :
      Change chain sender request { chain with groups := chain.groups.insert groupId after }
  | rotated (historyUuid : String) (history : EncryptionHistory) (dek : List UInt8)
      (found : chain.histories.get historyUuid = some history) :
      Change chain sender request
        { chain with
          histories := chain.histories.insert historyUuid
            { history with encryptedKeys := history.encryptedKeys ++ [dek] } }
  | social (policies : OrderedMap Address PaidMessagingPolicy)
      (following : List (Address × Address)) (blockList : BlockList)
      (blockers : ∀ pair ∈ blockList, pair ∈ chain.blockList ∨ pair.1 = sender) :
      Change chain sender request { chain with policies, following, blockList }
  | paid (groupId : Address) (logUuid : String) (group : Group) (log after : MessageLog)
      (call : PaidCall) (coin : U64) (effects : Effects) (transfers : List Transfer)
      (foundGroup : chain.groups.get groupId = some group)
      (foundLog : chain.logs.get logUuid = some log)
      (isSender : call.sender = sender)
      (asked : ∀ opening, call.opens = some opening →
        request.opens = some (groupId, logUuid, opening))
      (admitted : Admitted chain group log call)
      (returned : log.perform chain.clock call = .ok (after, coin, effects)) :
      Change chain sender request
        { chain with
          logs := chain.logs.insert logUuid after
          events := chain.events ++ effects.events
          transfers := chain.transfers ++ transfers }

/-! ### Paid calls -/

/-- The event announces a new escrow. -/
def MessageLogEvent.isSent : MessageLogEvent → Bool
  | .paidMessageSent .. => true
  | _ => false

inductive EntryChange (nowMs : U64) (call : PaidCall) (log after : MessageLog)
    (events : List MessageLogEvent) : Prop where
  | opened (recipient : Address) (payment amount : U64) (dedupeKey : List UInt8) (nonce : U128)
      (isSend : call = .sendPaidMessage call.sender recipient payment amount dedupeKey nonce)
      (fresh : log.paidMsgEscrow.get log.nextSeq = none)
      (counted : after.nextSeq.toNat = log.nextSeq.toNat + 1)
      (table : after.paidMsgEscrow = log.paidMsgEscrow.insert log.nextSeq
        { payer := call.sender, recipient, amount, escrowedBalance := amount,
          createdAtMs := nowMs, claimed := false })
      (emitted : events =
        [.paidMessageSent log.groupId log.nextSeq call.sender recipient amount nowMs])
  | closed (seq : U64) (escrow : PaidMessageEscrow)
      (found : log.paidMsgEscrow.get seq = some escrow)
      (unclaimed : escrow.claimed = false)
      (counted : after.nextSeq = log.nextSeq)
      (table : after.paidMsgEscrow = log.paidMsgEscrow.insert seq escrow.spent)
      (exit : call.sender = escrow.recipient ∧
          nowMs.toNat ≤ escrow.createdAtMs.toNat + paymentExpirationMs ∨
        call.sender = escrow.payer ∧ escrow.createdAtMs.toNat + paymentExpirationMs ≤ nowMs.toNat)
      (silent : ∀ event ∈ events, event.isSent = false)

/-- A paid call opens an escrow of its sender's, or closes one that is the sender's to
close. -/
theorem EntryChange.of_perform {nowMs coin : U64} {call : PaidCall} {log after : MessageLog}
    {effects : Effects} (returned : log.perform nowMs call = .ok (after, coin, effects)) :
    after.groupId = log.groupId ∧ EntryChange nowMs call log after effects.events := by
  cases call with
  | sendPaidMessage sender recipient payment escrowAmount dedupeKey nonce =>
    simp only [MessageLog.perform, bind_ok, pure_ok, Prod.mk.injEq] at returned
    obtain ⟨⟨_, _⟩, sending, rfl, rfl, rfl⟩ := returned
    obtain ⟨consumed, took, fresh, counted, shape, -⟩ := MessageLog.sendPaidMessage_ok sending
    obtain ⟨-, -, frame, -⟩ := MessageLog.consumeDedupeAndNonce_ok took
    have sameGroup : consumed.groupId = log.groupId := by rw [frame]
    have sameSeq : consumed.nextSeq = log.nextSeq := by rw [frame]
    refine ⟨by rw [shape]; exact sameGroup, .opened recipient payment escrowAmount dedupeKey nonce
      rfl fresh counted (by rw [shape]; rfl) ?_⟩
    simp only [MessageLog.sendPaidMessage, took, bind_ok, pure_ok, Prod.mk.injEq,
      Except.ok.injEq] at sending
    obtain ⟨-, -, _, rfl, -, -, -, -, -, -, -, rfl⟩ := sending
    rw [sameGroup, sameSeq]
    rfl
  | replyToPaidMessageClaimCoin sender paidMsgSeq =>
    simp only [MessageLog.perform, MessageLog.replyToPaidMessageClaimCoin, bind_ok, pure_ok,
      Prod.mk.injEq] at returned
    obtain ⟨⟨_, _, _⟩, ⟨⟨escrow, taken, result⟩, taking, rfl, rfl, rfl⟩, rfl, rfl, rfl⟩ := returned
    obtain ⟨consumed, took, found, isRecipient, unclaimed, inWindow, -, shape⟩ :=
      MessageLog.takeEscrow_ok taking
    obtain ⟨-, -, frame, -⟩ := MessageLog.consumeDedupeAndNonce_ok took
    refine ⟨by rw [shape, frame], .closed paidMsgSeq escrow found unclaimed
      (by rw [shape, frame]) (by rw [shape]; rfl) (.inl ⟨isRecipient, inWindow⟩) ?_⟩
    simp [MessageLogEvent.isSent]
  | replyToPaidMessageClaimSettled sender paidMsgSeq charCount dedupeKey nonce platform
      ecosystem =>
    simp only [MessageLog.perform, MessageLog.replyToPaidMessageClaimSettled, bind_ok, pure_ok,
      Prod.mk.injEq] at returned
    obtain ⟨⟨_, _⟩, ⟨⟨escrow, taken, result⟩, taking, ⟨totals, transfers⟩, -, rfl, rfl⟩,
      rfl, rfl, rfl⟩ := returned
    obtain ⟨consumed, took, found, isRecipient, unclaimed, inWindow, -, shape⟩ :=
      MessageLog.takeEscrow_ok taking
    obtain ⟨-, -, frame, -⟩ := MessageLog.consumeDedupeAndNonce_ok took
    refine ⟨by rw [shape, frame], .closed paidMsgSeq escrow found unclaimed
      (by rw [shape, frame]) (by rw [shape]; rfl) (.inl ⟨isRecipient, inWindow⟩) ?_⟩
    simp [MessageLogEvent.isSent]
  | refundPaidMessage sender paidMsgSeq =>
    simp only [MessageLog.perform, bind_ok, pure_ok, Prod.mk.injEq] at returned
    obtain ⟨⟨_, _⟩, refunding, rfl, rfl, rfl⟩ := returned
    obtain ⟨escrow, found, isPayer, unclaimed, expired, -, shape⟩ :=
      MessageLog.refundPaidMessage_ok refunding
    refine ⟨by rw [shape], .closed paidMsgSeq escrow found unclaimed
      (by rw [shape]) (by rw [shape]; rfl) (.inr ⟨isPayer, expired⟩) ?_⟩
    simp only [MessageLog.refundPaidMessage, bind_ok, pure_ok, Prod.mk.injEq] at refunding
    obtain ⟨-, -, -, -, -, -, -, -, -, -, -, -, -, rfl⟩ := refunding
    simp [MessageLogEvent.isSent]

/-! ### Each group of calls -/

variable {group : Group} {done : PUnit}

@[simp] theorem Group.assertPermission_ok {member : Address} {permission : Permission} :
    group.assertPermission member permission = .ok done ↔
      group.members.Holds member permission := by
  rw [← @PermissionedGroup.assertPermission_ok _ _ _ done]
  simp only [Group.assertPermission, PermissionedGroup.assertPermission, bind_ok, within_ok,
    assertThat_ok]

@[simp] theorem Group.assertNotArchived_ok :
    group.assertNotArchived = .ok done ↔ group.members.paused = false := assertThat_ok

theorem attachObjects_ok {historyUuids logUuids : List String} {uuid : String}
    {initialEncryptedDek : List UInt8} {created : Created}
    (returned : attachObjects historyUuids logUuids group uuid initialEncryptedDek = .ok created) :
    created =
      { group
        history := { groupId := group.members.id, uuid, encryptedKeys := [initialEncryptedDek] }
        log :=
          { groupId := group.members.id, uuid, nextSeq := 0, usedDedupe := ∅, nonces := ∅,
            paidMsgEscrow := ∅ }
        effects := { transfers := [], events := [.messageLogCreated group.members.id uuid] } } := by
  simp only [attachObjects, MessageLog.new, bind_ok, within_ok, assertThat_ok, pure_ok] at returned
  obtain ⟨history, makes, ⟨log, rest, effects⟩, ⟨-, -, made⟩, rfl⟩ := returned
  cases made
  rw [EncryptionHistory.new_ok makes]

section

variable {namespace_ : Namespace} {sender : Address} {before group : Group}

theorem GroupChange.of_editMetadata {change : Metadata → Move MessagingError Metadata}
    (returned : editMetadata namespace_ before sender change = .ok group) :
    GroupChange sender before group := by
  simp only [editMetadata, PermissionedGroup.objectUid, bind_ok, within_ok,
    PermissionedGroup.assertNotPaused_ok, pure_ok] at returned
  obtain ⟨-, -, -, ⟨-, active, -⟩, metadata, -, rfl⟩ := returned
  exact .edited active rfl

theorem GroupChange.of_leave
    (returned : Contract.leave namespace_ before sender = .ok group) :
    GroupChange sender before group := by
  simp only [Contract.leave, bind_ok, within_ok, assertThat_ok, pure_ok] at returned
  obtain ⟨-, -, -, -, members, removed, rfl⟩ := returned
  obtain ⟨active, -, shrinks⟩ := PermissionedGroup.removeMember_ok removed
  exact .shrunk active shrinks

variable {version : U64} {log : MessageLog} {done : PUnit}

theorem GroupChange.of_archiveGroup
    (returned : Contract.archiveGroup version before sender = .ok group) :
    GroupChange sender before group := by
  simp only [Contract.archiveGroup, bind_ok, within_ok, pure_ok] at returned
  obtain ⟨-, -, members, paused, rfl⟩ := returned
  obtain ⟨manages, rfl⟩ := PermissionedGroup.pause_ok paused
  exact .archived manages rfl

theorem assertPaidAccess_ok {group : Group} :
    assertPaidAccess version group log sender = .ok done ↔
      version = packageVersion ∧ group.members.paused = false ∧
        log.groupId = group.members.id ∧ group.members.Holds sender .messagingSender := by
  simp only [assertPaidAccess, validateVersion, assertMessageLogMatchesGroup, bind_ok,
    assertThat_ok, Group.assertNotArchived_ok, Group.assertPermission_ok]
  constructor
  · rintro ⟨-, valid, -, active, -, matching, permitted⟩
    exact ⟨valid, active, matching, permitted⟩
  · rintro ⟨valid, active, matching, permitted⟩
    exact ⟨⟨⟩, valid, ⟨⟩, active, ⟨⟩, matching, permitted⟩

theorem Admitted.of_access {chain : Chain} {call : PaidCall}
    (access : assertPaidAccess chain.version group log call.sender = .ok done)
    (opening : ∀ sender recipient payment escrowAmount dedupeKey nonce,
      call = .sendPaidMessage sender recipient payment escrowAmount dedupeKey nonce →
      group.IsDirect → log.nextSeq = 0 → ∀ minCost ∈ requiresPaymentFrom chain.policies recipient,
      minCost.toNat ≤ escrowAmount.toNat)
    :
    Admitted chain group log call := by
  obtain ⟨-, active, matching, permitted⟩ := assertPaidAccess_ok.mp access
  exact ⟨active, matching, permitted, opening⟩

end

namespace Chain

variable {namespace_ : Namespace} {chain after : Chain} {sender groupId : Address} {request : Call}

theorem Change.of_share {uuid : String} {group : Group} {historyUuids logUuids : List String}
    {initialEncryptedDek : List UInt8} {created : Created}
    (attached : attachObjects historyUuids logUuids group uuid initialEncryptedDek = .ok created)
    (returned : chain.share uuid created = .ok after) : chain.Change sender request after := by
  obtain rfl := attachObjects_ok attached
  simp only [share, bind_ok, Table.add_ok, pure_ok] at returned
  obtain ⟨_, ⟨newGroup, rfl⟩, _, ⟨newHistory, rfl⟩, _, ⟨newLog, rfl⟩, rfl⟩ := returned
  exact .created uuid group _ newGroup newHistory ⟨initialEncryptedDek, rfl⟩ newLog

theorem Change.of_onGroup {change : Group → Move MessagingError Group}
    (changes : ∀ before after, change before = .ok after → GroupChange sender before after)
    (returned : chain.onGroup groupId change = .ok after) : chain.Change sender request after := by
  simp only [onGroup, bind_ok, Table.borrow_ok, pure_ok] at returned
  obtain ⟨before, found, group, changed, rfl⟩ := returned
  exact .group groupId before group found (changes before group changed)

theorem Change.of_onMembers
    {change : PermissionedGroup → Move PermissionedGroupError PermissionedGroup}
    (changes : ∀ (before : Group) members, change before.members = .ok members →
      GroupChange sender before { before with members })
    (returned : chain.onMembers groupId change =
      .ok after) : chain.Change sender request after := by
  refine .of_onGroup ?_ returned
  intro before group changed
  simp only [bind_ok, within_ok, pure_ok] at changed
  obtain ⟨members, made, rfl⟩ := changed
  exact changes before members made

theorem opening_of_assertPaidOpenAllowed {group : Group} {log : MessageLog}
    {socialIdentity recipient : Address} {escrowAmount : U64} {done : PUnit}
    (allowed : assertPaidOpenAllowed namespace_ chain.policies chain.following chain.blockList
      group log sender socialIdentity recipient escrowAmount = .ok done)
    (direct : group.IsDirect) (first : log.nextSeq = 0) :
    ∀ minCost ∈ requiresPaymentFrom chain.policies recipient,
      minCost.toNat ≤ escrowAmount.toNat := by
  simp only [assertPaidOpenAllowed, isDirectMessageGroup, bind_ok, within_ok, pure_ok] at allowed
  obtain ⟨-, -, -, -, isDirect, ⟨-, -, rfl⟩, opened⟩ := allowed
  have flagged : decide (group.metadata.data.get conversationKindKey =
      some conversationKindDm) = true := decide_eq_true direct
  simp only [flagged, first, and_self, if_true, assertOpening, bind_ok, assertThat_ok] at opened
  obtain ⟨-, -, enough⟩ := opened
  intro minCost required
  rw [Option.mem_def.mp required] at enough
  exact assertThat_ok.mp enough

theorem Change.of_onLog {logUuid : String}
    {change : Group → MessageLog → Move MessagingError (Option U64 × MessageLog × Effects)}
    (changes : ∀ group log coin result effects, change group log = .ok (coin, result, effects) →
      ∃ call kept, call.sender = sender ∧
        (∀ opening, call.opens = some opening → request.opens = some (groupId, logUuid, opening)) ∧
        Admitted chain group log call ∧
        log.perform chain.clock call = .ok (result, kept, effects))
    (returned : chain.onLog groupId logUuid sender change = .ok after) :
    chain.Change sender request after := by
  simp only [onLog, bind_ok, Table.borrow_ok, pure_ok] at returned
  obtain ⟨group, foundGroup, log, foundLog, ⟨coin, result, effects⟩, changed, rfl⟩ := returned
  obtain ⟨call, kept, isSender, asked, admitted, performed⟩ :=
    changes group log coin result effects changed
  rw [List.append_assoc]
  exact .paid groupId logUuid group log result call kept effects _ foundGroup foundLog isSender
    asked admitted performed

/-- **The step, once**: a call that returns made one of the changes. -/
theorem Change.of_perform (returned : chain.perform namespace_ sender request = .ok after) :
    chain.Change sender request after := by
  cases request with
  | createAndShareGroup =>
    simp only [perform, createAndShareGroup, createGroupInner, bind_ok] at returned
    obtain ⟨created, ⟨-, -, -, -, -, -, -, -, -, -, -, -, -, -, -, -, metadata, -, -, -, marked, -,
      group, -, attached⟩, shared⟩ := returned
    exact .of_share attached shared
  | createAgentAndShareGroup =>
    simp only [perform, createAgentAndShareGroup, bind_ok] at returned
    obtain ⟨created, ⟨-, -, -, -, -, -, -, -, -, -, -, -, -, -, -, -, -, -, metadata, -, -, -,
      tagged, -, marked, -, group, -, -, -, revoked, -, attached⟩, shared⟩ := returned
    exact .of_share attached shared
  | rotateEncryptionKey groupId historyUuid dek =>
    simp only [perform, rotateEncryptionKey, bind_ok, Table.borrow_ok, within_ok, pure_ok]
      at returned
    obtain ⟨group, -, history, found, rotated, ⟨-, -, -, -, -, -, -, -, rotates⟩, rfl⟩ := returned
    rw [EncryptionHistory.rotateKey_ok rotates]
    exact .rotated historyUuid history dek found
  | grantPermission groupId member permission =>
    rw [perform] at returned
    refine .of_onMembers (fun before members granted => ?_) returned
    obtain ⟨active, manages, id, paused, holds⟩ := PermissionedGroup.grantPermission_ok granted
    exact .granted member permission active manages id paused holds
  | revokePermission =>
    rw [perform] at returned
    refine .of_onMembers (fun before members revoked => ?_) returned
    obtain ⟨active, -, shrinks⟩ := PermissionedGroup.revokePermission_ok revoked
    exact .shrunk active shrinks
  | removeMember =>
    rw [perform] at returned
    refine .of_onMembers (fun before members removed => ?_) returned
    obtain ⟨active, -, shrinks⟩ := PermissionedGroup.removeMember_ok removed
    exact .shrunk active shrinks
  | leave => exact .of_onGroup (fun _ _ left => .of_leave left) returned
  | archiveGroup => exact .of_onGroup (fun _ _ archived => .of_archiveGroup archived) returned
  | setGroupName | insertGroupData | removeGroupData =>
    exact .of_onGroup (fun _ _ edited => .of_editMetadata edited) returned
  | setPaidMessagingPolicy =>
    simp only [perform, bind_ok, pure_ok] at returned
    obtain ⟨policies, -, rfl⟩ := returned
    exact .social policies chain.following chain.blockList fun _ => .inl
  | follow | unfollow =>
    obtain rfl := pure_ok.mp returned
    exact .social chain.policies _ chain.blockList fun _ => .inl
  | blockWallet =>
    obtain rfl := pure_ok.mp returned
    refine .social chain.policies chain.following _ fun pair isPair => ?_
    rcases List.mem_cons.mp isPair with rfl | isOld
    · exact .inr rfl
    · exact .inl isOld
  | unblockWallet =>
    obtain rfl := pure_ok.mp returned
    exact .social chain.policies chain.following _ fun _ isPair =>
      .inl (List.mem_filter.mp isPair).1
  | sendPaidMessageDigest groupId logUuid recipient payment escrowAmount dedupeKey nonce =>
    refine .of_onLog (fun group log coin result effects sent => ?_) returned
    simp only [sendPaidMessageDigest, bind_ok, within_ok, pure_ok, Prod.mk.injEq] at sent
    obtain ⟨⟨_, _⟩, ⟨_, access, _, allowed, sends⟩, -, rfl, rfl⟩ := sent
    refine ⟨.sendPaidMessage sender recipient payment escrowAmount dedupeKey nonce, 0, rfl,
      fun _ opens => by cases opens; rfl, .of_access access ?_, ?_⟩
    · intro _ _ _ _ _ _ same
      cases same
      exact opening_of_assertPaidOpenAllowed allowed
    · simp only [MessageLog.perform, sends, ok_bind, pure_ok]
  | sendAgentPaidMessageDigest groupId logUuid acting recipient payment escrowAmount dedupeKey
      nonce =>
    refine .of_onLog (fun group log coin result effects sent => ?_) returned
    simp only [sendAgentPaidMessageDigest, validateVersion, assertMessageLogMatchesGroup, bind_ok,
      within_ok, assertThat_ok, Group.assertNotArchived_ok, Group.assertPermission_ok, pure_ok,
      Prod.mk.injEq] at sent
    obtain ⟨⟨_, _⟩, ⟨-, -, -, active, -, matching, -, isActor, -, permitted, _, allowed, sends⟩, -,
      rfl, rfl⟩ := sent
    rw [isActor] at permitted allowed sends
    refine ⟨.sendPaidMessage sender recipient payment escrowAmount dedupeKey nonce, 0, rfl,
      fun _ opens => by cases opens; rfl, ⟨active, matching, permitted, ?_⟩, ?_⟩
    · intro _ _ _ _ _ _ same
      cases same
      exact opening_of_assertPaidOpenAllowed allowed
    · simp only [MessageLog.perform, sends, ok_bind, pure_ok]
  | replyToPaidMessageClaimCoin groupId logUuid paidMsgSeq charCount dedupeKey nonce =>
    refine .of_onLog (fun group log coin result effects claimed => ?_) returned
    simp only [replyToPaidMessageClaimCoin, bind_ok, within_ok, pure_ok, Prod.mk.injEq] at claimed
    obtain ⟨⟨kept, _, _⟩, ⟨_, access, -, -, claims⟩, -, rfl, rfl⟩ := claimed
    refine ⟨.replyToPaidMessageClaimCoin sender paidMsgSeq charCount dedupeKey nonce, kept, rfl,
      by rintro _ ⟨⟩, .of_access access (by rintro _ _ _ _ _ _ ⟨⟩), ?_⟩
    simp only [MessageLog.perform, claims, ok_bind, pure_ok]
  | replyToPaidMessageClaimSettled groupId logUuid paidMsgSeq charCount dedupeKey nonce platform
      ecosystem =>
    refine .of_onLog (fun group log coin result effects claimed => ?_) returned
    simp only [replyToPaidMessageClaimSettled, bind_ok, within_ok, pure_ok, Prod.mk.injEq]
      at claimed
    obtain ⟨⟨_, _⟩, ⟨_, access, -, -, claims⟩, -, rfl, rfl⟩ := claimed
    refine ⟨.replyToPaidMessageClaimSettled sender paidMsgSeq charCount dedupeKey nonce platform
      ecosystem, 0, rfl, by rintro _ ⟨⟩, .of_access access (by rintro _ _ _ _ _ _ ⟨⟩), ?_⟩
    simp only [MessageLog.perform, claims, ok_bind, pure_ok]
  | refundPaidEscrow groupId logUuid paidMsgSeq =>
    refine .of_onLog (fun group log coin result effects refunded => ?_) returned
    simp only [refundPaidEscrow, bind_ok, within_ok, pure_ok, Prod.mk.injEq] at refunded
    obtain ⟨⟨_, _⟩, ⟨_, access, -, -, -, -, refunds⟩, -, rfl, rfl⟩ := refunded
    refine ⟨.refundPaidMessage sender paidMsgSeq, 0, rfl, by rintro _ ⟨⟩,
      .of_access access (by rintro _ _ _ _ _ _ ⟨⟩), ?_⟩
    simp only [MessageLog.perform, refunds, ok_bind, pure_ok]

/-- A step lets time pass, changes nothing, or is a call of a wallet that returned. -/
theorem step_cases (namespace_ : Namespace) (chain : Chain) (input : Input) :
    (∃ nowMs : U64, chain.clock.toNat ≤ nowMs.toNat ∧
      chain.step namespace_ input = { chain with clock := nowMs }) ∨
    chain.step namespace_ input = chain ∨
    ∃ sender request, input = .call sender request ∧ IsWallet namespace_ sender ∧
      chain.perform namespace_ sender request = .ok (chain.step namespace_ input) := by
  cases input with
  | tick nowMs =>
    simp only [step]
    split
    · next forward => exact .inl ⟨nowMs, forward, rfl⟩
    · exact .inr (.inl rfl)
  | call sender call =>
    simp only [step]
    split
    · next wallet =>
      cases performed : chain.perform namespace_ sender call with
      | ok => exact .inr (.inr ⟨sender, call, rfl, wallet, performed⟩)
      | error => exact .inr (.inl rfl)
    · exact .inr (.inl rfl)

end Chain

end MessagingStack.Contract

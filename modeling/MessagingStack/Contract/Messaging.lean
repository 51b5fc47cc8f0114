import MessagingStack.Contract.EncryptionHistory
import MessagingStack.Contract.MessageLog
import MessagingStack.Contract.PermissionedGroup

/-!
# The messaging contract

`move/packages/messaging/sources/messaging.move` with `metadata.move`,
`paid_messaging_policy.move`, `version.move`, `group_leaver.move` and
`group_manager.move`: how a group is created, by a wallet or by an agent, what its
members may do with it, and the guards in front of the paid operations of its message
log.
-/

namespace MessagingStack.Contract

open Move

/-! ## Errors -/

/-- The error codes of the package, those of the modules it calls included. -/
inductive MessagingError where
  | notPermitted
  | groupArchived
  | encryptionHistoryMismatch
  | permissionsAdminCannotLeave
  | messageLogMismatch
  | paidNotRequiredForFollower
  | belowMinMessageCost
  | agentSenderMismatch
  | registeredAgentCannotCreateGroup
  | invalidVersion
  | invalidPolicy
  | nameTooLong
  | dataKeyTooLong
  | dataValueTooLong
  /-- `vec_map` or `vec_set` of a key that is present. -/
  | keyAlreadyExists
  /-- `vec_map` of a key that is absent. -/
  | keyDoesNotExist
  | blocked
  | permissionedGroup (error : PermissionedGroupError)
  | encryptionHistory (error : EncryptionHistoryError)
  | messageLog (error : MessageLogError)
  deriving DecidableEq

/-! ## Metadata -/

/-- `MAX_NAME_LENGTH`, in bytes. -/
def maxNameLength : Nat := 128

/-- `MAX_DATA_KEY_LENGTH`, in bytes. -/
def maxDataKeyLength : Nat := 64

/-- `MAX_DATA_VALUE_LENGTH`, in bytes. -/
def maxDataValueLength : Nat := 256

structure Metadata where
  name : String
  uuid : String
  creator : Address
  data : OrderedMap String String
  deriving DecidableEq

namespace Metadata

def new (name uuid : String) (creator : Address) : Move MessagingError Metadata := do
  assertThat (name.utf8ByteSize ≤ maxNameLength) .nameTooLong
  return { name, uuid, creator, data := ∅ }

def setName (self : Metadata) (name : String) : Move MessagingError Metadata := do
  assertThat (name.utf8ByteSize ≤ maxNameLength) .nameTooLong
  return { self with name }

def insertData (self : Metadata) (key value : String) : Move MessagingError Metadata := do
  assertThat (key.utf8ByteSize ≤ maxDataKeyLength) .dataKeyTooLong
  assertThat (value.utf8ByteSize ≤ maxDataValueLength) .dataValueTooLong
  assertThat (self.data.get key = none) .keyAlreadyExists
  return { self with data := self.data.insert key value }

def removeData (self : Metadata) (key : String) : Move MessagingError Metadata := do
  assertThat (self.data.get key ≠ none) .keyDoesNotExist
  return { self with data := self.data.erase key }

end Metadata

/-! ## Shared objects -/

structure PaidMessagingPolicy where
  enabled : Bool
  minCost : Option U64
  deriving DecidableEq

def setPaidMessagingPolicy (policies : OrderedMap Address PaidMessagingPolicy)
    (sender : Address) (enabled : Bool) (minCost : Option U64) :
    Move MessagingError (OrderedMap Address PaidMessagingPolicy) := do
  assertThat (enabled = true → minCost.isSome = true) .invalidPolicy
  return policies.insert sender { enabled, minCost }

def requiresPaymentFrom (policies : OrderedMap Address PaidMessagingPolicy)
    (recipient : Address) : Option U64 :=
  match policies.get recipient with
  | none => none
  | some policy => if policy.enabled then policy.minCost else none

/-- `PACKAGE_VERSION`. -/
def packageVersion : U64 := 1

def validateVersion (version : U64) : Move MessagingError PUnit :=
  assertThat (version = packageVersion) .invalidVersion

/-- Who blocks whom. -/
abbrev BlockList := List (Address × Address)

def assertNotBlocked (blockList : BlockList) (first second : Address) :
    Move MessagingError PUnit :=
  assertThat ((first, second) ∉ blockList ∧ (second, first) ∉ blockList) .blocked

/-- `MessagingNamespace`: the addresses of its two actor objects, and the addresses it
derives for groups. -/
structure Namespace where
  groupLeaver : Address
  groupManager : Address
  groupAddress : String → Address

/-- `MemoryAccount`, as far as the package reads it. -/
structure MemoryAccount where
  owner : Address
  agents : List Address
  deriving DecidableEq

structure ActingContext where
  actorAddress : Address
  principalOwner : Address
  subAgentId : Option Address
  identityClass : U64
  deriving DecidableEq

/-- A group object with the metadata attached to it. -/
structure Group where
  members : PermissionedGroup
  metadata : Metadata
  deriving DecidableEq

/-! ## Creating a group -/

def grantEach (group : PermissionedGroup) (sender member : Address) :
    List Permission → Move PermissionedGroupError PermissionedGroup
  | [] => .ok group
  | permission :: rest => do
    let group ← group.grantPermission sender member permission
    grantEach group sender member rest

def grantAllMessagingPermissions (group : PermissionedGroup) (sender member : Address) :
    Move PermissionedGroupError PermissionedGroup :=
  grantEach group sender member
    [.messagingSender, .messagingReader, .messagingEditor, .messagingDeleter,
      .encryptionKeyRotator, .groupHandleAdmin, .metadataAdmin]

def grantAgentMessagingPermissions (group : PermissionedGroup) (sender member : Address) :
    Move PermissionedGroupError PermissionedGroup :=
  grantEach group sender member [.messagingSender, .messagingReader]

def grantPrincipalOversight (group : PermissionedGroup) (sender principal : Address) :
    Move PermissionedGroupError PermissionedGroup :=
  grantEach group sender principal [.messagingReader, .permissionsAdmin]

def grantHumanPeerPermissions (group : PermissionedGroup) (sender member : Address) :
    Move PermissionedGroupError PermissionedGroup :=
  grantEach group sender member [.messagingSender, .messagingReader]

def assertHumanGroupCreator (account : MemoryAccount) (sender : Address) :
    Move MessagingError PUnit := do
  assertThat (sender = account.owner) .notPermitted
  assertThat (sender ∉ account.agents) .registeredAgentCannotCreateGroup

def assertPeersNotBlocked (blockList : BlockList) (creator : Address) :
    List Address → Move MessagingError PUnit
  | [] => .ok ⟨⟩
  | member :: rest =>
    if member = creator then assertPeersNotBlocked blockList creator rest
    else do
      assertNotBlocked blockList creator member
      assertPeersNotBlocked blockList creator rest

def assertAgentPeersNotBlocked (blockList : BlockList) (acting : ActingContext) :
    List Address → Move MessagingError PUnit
  | [] => .ok ⟨⟩
  | member :: rest =>
    if member = acting.actorAddress then assertAgentPeersNotBlocked blockList acting rest
    else do
      assertNotBlocked blockList acting.actorAddress member
      assertNotBlocked blockList acting.principalOwner member
      assertAgentPeersNotBlocked blockList acting rest

def countNonCreatorPeers (members : List Address) (creator : Address) : Nat :=
  members.countP (· ≠ creator)

/-- `CONVERSATION_KIND_KEY`. -/
def conversationKindKey : String := "conversation_kind"

/-- `CONVERSATION_KIND_DM`. -/
def conversationKindDm : String := "dm"

def markDirectMessage (metadata : Metadata) (members : List Address) (creator : Address) :
    Move MessagingError Metadata :=
  if countNonCreatorPeers members creator = 1 then
    metadata.insertData conversationKindKey conversationKindDm
  else .ok metadata

def grantInitialMembers (group : PermissionedGroup) (creator : Address) :
    List Address → Move PermissionedGroupError PermissionedGroup
  | [] => .ok group
  | member :: rest =>
    if member = creator then grantInitialMembers group creator rest
    else do
      let group ← group.grantPermission creator member .messagingReader
      grantInitialMembers group creator rest

/-- What a creation makes. -/
structure Created where
  group : Group
  history : EncryptionHistory
  log : MessageLog
  effects : Effects

def attachObjects (historyUuids logUuids : List String) (group : Group) (uuid : String)
    (initialEncryptedDek : List UInt8) : Move MessagingError Created := do
  let history ← within .encryptionHistory
    (EncryptionHistory.new historyUuids uuid group.members.id initialEncryptedDek)
  let (log, _, effects) ← within .messageLog (MessageLog.new logUuids uuid group.members.id)
  return { group, history, log, effects }

/-- What the namespace has derived already. -/
structure Taken where
  group : Bool
  historyUuids : List String
  logUuids : List String

def createGroupInner (version : U64) (namespace_ : Namespace) (taken : Taken)
    (blockList : BlockList) (creator : Address) (name uuid : String)
    (initialEncryptedDek : List UInt8) (initialMembers : List Address) :
    Move MessagingError Created := do
  validateVersion version
  assertPeersNotBlocked blockList creator initialMembers
  let group ← within .permissionedGroup
    (PermissionedGroup.newDerived taken.group (namespace_.groupAddress uuid) creator)
  let group ← within .permissionedGroup (grantAllMessagingPermissions group creator creator)
  let group ← within .permissionedGroup
    (group.grantPermission creator namespace_.groupLeaver .permissionsAdmin)
  let group ← within .permissionedGroup
    (group.grantPermission creator namespace_.groupManager .objectAdmin)
  let metadata ← Metadata.new name uuid creator
  within .permissionedGroup (group.objectUid namespace_.groupManager)
  let metadata ← markDirectMessage metadata initialMembers creator
  let group ← within .permissionedGroup (grantInitialMembers group creator initialMembers)
  attachObjects taken.historyUuids taken.logUuids { members := group, metadata } uuid
    initialEncryptedDek

def createAndShareGroup (version : U64) (namespace_ : Namespace) (taken : Taken)
    (blockList : BlockList) (account : MemoryAccount) (creator : Address) (name uuid : String)
    (initialEncryptedDek : List UInt8) (initialMembers : List Address) :
    Move MessagingError Created := do
  assertThat initialMembers.Nodup .keyAlreadyExists
  assertHumanGroupCreator account creator
  createGroupInner version namespace_ taken blockList creator name uuid initialEncryptedDek
    initialMembers

def grantAgentInitialMembers (group : PermissionedGroup)
    (creatorAccount crossPrincipalPeerAccount : MemoryAccount) (actorAddress : Address) :
    List Address → Move PermissionedGroupError PermissionedGroup
  | [] => .ok group
  | member :: rest =>
    if member = actorAddress then
      grantAgentInitialMembers group creatorAccount crossPrincipalPeerAccount actorAddress rest
    else if member ∈ creatorAccount.agents then do
      let group ← grantAgentMessagingPermissions group actorAddress member
      grantAgentInitialMembers group creatorAccount crossPrincipalPeerAccount actorAddress rest
    else if member ∈ crossPrincipalPeerAccount.agents then do
      let group ← grantAgentMessagingPermissions group actorAddress member
      let group ← grantPrincipalOversight group actorAddress crossPrincipalPeerAccount.owner
      grantAgentInitialMembers group creatorAccount crossPrincipalPeerAccount actorAddress rest
    else do
      let group ← grantHumanPeerPermissions group actorAddress member
      grantAgentInitialMembers group creatorAccount crossPrincipalPeerAccount actorAddress rest

/-- An address as lowercase hex digits, without `0x`. -/
def hexOfAddress (address : Address) : String :=
  let digits := Nat.toDigits 16 address.toNat
  String.ofList (List.replicate (64 - digits.length) '0' ++ digits)

def insertSubAgentId (metadata : Metadata) (subAgentId : Option Address) :
    Move MessagingError Metadata :=
  match subAgentId with
  | some id => metadata.insertData "creator_sub_agent_id" (hexOfAddress id)
  | none => .ok metadata

def attachAgentCreatorMetadata (metadata : Metadata) (acting : ActingContext) :
    Move MessagingError Metadata := do
  let metadata ← metadata.insertData "agent_chat" "true"
  let metadata ← metadata.insertData "creator_actor" (hexOfAddress acting.actorAddress)
  let metadata ← metadata.insertData "creator_principal" (hexOfAddress acting.principalOwner)
  let metadata ← insertSubAgentId metadata acting.subAgentId
  metadata.insertData "creator_identity_class" (toString acting.identityClass.toNat)

def createAgentAndShareGroup (version : U64) (namespace_ : Namespace) (taken : Taken)
    (blockList : BlockList) (acting : ActingContext)
    (creatorAccount crossPrincipalPeerAccount : MemoryAccount) (sender : Address)
    (name uuid : String) (initialEncryptedDek : List UInt8) (initialMembers : List Address) :
    Move MessagingError Created := do
  assertThat initialMembers.Nodup .keyAlreadyExists
  validateVersion version
  assertThat (acting.actorAddress = sender) .agentSenderMismatch
  assertAgentPeersNotBlocked blockList acting initialMembers
  let group ← within .permissionedGroup
    (PermissionedGroup.newDerived taken.group (namespace_.groupAddress uuid) sender)
  let group ← within .permissionedGroup
    (group.grantPermission sender namespace_.groupLeaver .permissionsAdmin)
  let group ← within .permissionedGroup (grantAgentMessagingPermissions group sender sender)
  let group ← within .permissionedGroup (grantPrincipalOversight group sender acting.principalOwner)
  let group ← within .permissionedGroup
    (group.grantPermission sender namespace_.groupManager .objectAdmin)
  let metadata ← Metadata.new name uuid sender
  within .permissionedGroup (group.objectUid namespace_.groupManager)
  let metadata ← attachAgentCreatorMetadata metadata acting
  let metadata ← markDirectMessage metadata initialMembers sender
  let group ← within .permissionedGroup
    (grantAgentInitialMembers group creatorAccount crossPrincipalPeerAccount sender initialMembers)
  let group ← within .permissionedGroup
    (group.revokePermission namespace_.groupLeaver sender .permissionsAdmin)
  let group ← within .permissionedGroup
    (group.revokePermission namespace_.groupLeaver sender .extensionPermissionsAdmin)
  attachObjects taken.historyUuids taken.logUuids { members := group, metadata } uuid
    initialEncryptedDek

/-! ## Membership, keys and metadata -/

def Group.assertPermission (group : Group) (member : Address) (permission : Permission) :
    Move MessagingError PUnit := do
  let permitted ← within .permissionedGroup (group.members.hasPermission member permission)
  assertThat (permitted = true) .notPermitted

def Group.assertNotArchived (group : Group) : Move MessagingError PUnit :=
  assertThat (group.members.paused = false) .groupArchived

def rotateEncryptionKey (version : U64) (history : EncryptionHistory) (group : Group)
    (sender : Address) (newEncryptedDek : List UInt8) :
    Move MessagingError EncryptionHistory := do
  validateVersion version
  group.assertNotArchived
  assertThat (history.groupId = group.members.id) .encryptionHistoryMismatch
  group.assertPermission sender .encryptionKeyRotator
  within .encryptionHistory (history.rotateKey newEncryptedDek)

/-- `leave`: the `GroupLeaver` actor removes the caller. -/
def leave (namespace_ : Namespace) (group : Group) (sender : Address) :
    Move MessagingError Group := do
  let admin ← within .permissionedGroup (group.members.hasPermission sender .permissionsAdmin)
  assertThat (admin = false) .permissionsAdminCannotLeave
  let members ← within .permissionedGroup (group.members.removeMember namespace_.groupLeaver sender)
  return { group with members }

/-- `archive_group`: the `UnpauseCap` is burned. -/
def archiveGroup (version : U64) (group : Group) (sender : Address) :
    Move MessagingError Group := do
  validateVersion version
  let members ← within .permissionedGroup (group.members.pause sender)
  return { group with members }

/-- The metadata as a `MetadataAdmin` may change it. -/
def editMetadata (namespace_ : Namespace) (group : Group) (sender : Address)
    (change : Metadata → Move MessagingError Metadata) : Move MessagingError Group := do
  group.assertPermission sender .metadataAdmin
  within .permissionedGroup (group.members.objectUid namespace_.groupManager)
  let metadata ← change group.metadata
  return { group with metadata }

def setGroupName (namespace_ : Namespace) (group : Group) (sender : Address) (name : String) :
    Move MessagingError Group :=
  editMetadata namespace_ group sender fun metadata => metadata.setName name

def insertGroupData (namespace_ : Namespace) (group : Group) (sender : Address)
    (key value : String) : Move MessagingError Group :=
  editMetadata namespace_ group sender fun metadata => metadata.insertData key value

def removeGroupData (namespace_ : Namespace) (group : Group) (sender : Address)
    (key : String) : Move MessagingError Group :=
  editMetadata namespace_ group sender fun metadata => metadata.removeData key

/-! ## Paid messages -/

def assertMessageLogMatchesGroup (log : MessageLog) (group : Group) :
    Move MessagingError PUnit :=
  assertThat (log.groupId = group.members.id) .messageLogMismatch

def isDirectMessageGroup (namespace_ : Namespace) (group : Group) :
    Move MessagingError Bool := do
  within .permissionedGroup (group.members.objectUid namespace_.groupManager)
  return group.metadata.data.get conversationKindKey = some conversationKindDm

/-- The escrow carries the minimum, where there is one. -/
def assertMinCost (minCost : Option U64) (escrowAmount : U64) : Move MessagingError PUnit :=
  match minCost with
  | none => .ok ⟨⟩
  | some minCost => assertThat (minCost.toNat ≤ escrowAmount.toNat) .belowMinMessageCost

/-- What the first escrow of a direct-message log must satisfy. -/
def assertOpening (policies : OrderedMap Address PaidMessagingPolicy)
    (following : List (Address × Address)) (socialIdentity recipient : Address)
    (escrowAmount : U64) : Move MessagingError PUnit := do
  assertThat ((socialIdentity, recipient) ∉ following) .paidNotRequiredForFollower
  assertMinCost (requiresPaymentFrom policies recipient) escrowAmount

def assertPaidOpenAllowed (namespace_ : Namespace)
    (policies : OrderedMap Address PaidMessagingPolicy) (following : List (Address × Address))
    (blockList : BlockList) (group : Group) (log : MessageLog)
    (sender socialIdentity recipient : Address) (escrowAmount : U64) :
    Move MessagingError PUnit := do
  assertNotBlocked blockList sender recipient
  assertNotBlocked blockList socialIdentity recipient
  let direct ← isDirectMessageGroup namespace_ group
  if direct = true ∧ log.nextSeq = 0 then
    assertOpening policies following socialIdentity recipient escrowAmount
  else return ⟨⟩

def assertPaidPartiesNotBlocked (blockList : BlockList) (caller : Address) (log : MessageLog)
    (paidMsgSeq : U64) : Move MessagingError PUnit := do
  let (payer, recipient) ← within .messageLog (log.paidMessageParties paidMsgSeq)
  if caller = payer then assertNotBlocked blockList caller recipient
  else if caller = recipient then assertNotBlocked blockList caller payer
  else do
    assertNotBlocked blockList caller payer
    assertNotBlocked blockList caller recipient

/-- The common guards of the paid operations. -/
def assertPaidAccess (version : U64) (group : Group) (log : MessageLog) (sender : Address) :
    Move MessagingError PUnit := do
  validateVersion version
  group.assertNotArchived
  assertMessageLogMatchesGroup log group
  group.assertPermission sender .messagingSender

def sendPaidMessageDigest (version : U64) (namespace_ : Namespace) (group : Group)
    (log : MessageLog) (policies : OrderedMap Address PaidMessagingPolicy)
    (following : List (Address × Address)) (blockList : BlockList) (sender recipient : Address)
    (payment escrowAmount : U64) (dedupeKey : List UInt8) (nonce : U128) (nowMs : U64) :
    Move MessagingError (MessageLog × Effects) := do
  assertPaidAccess version group log sender
  assertPaidOpenAllowed namespace_ policies following blockList group log sender sender
    recipient escrowAmount
  within .messageLog
    (log.sendPaidMessage sender recipient payment escrowAmount dedupeKey nonce nowMs)

def sendAgentPaidMessageDigest (version : U64) (namespace_ : Namespace) (group : Group)
    (log : MessageLog) (policies : OrderedMap Address PaidMessagingPolicy)
    (following : List (Address × Address)) (blockList : BlockList) (acting : ActingContext)
    (sender recipient : Address) (payment escrowAmount : U64) (dedupeKey : List UInt8)
    (nonce : U128) (nowMs : U64) : Move MessagingError (MessageLog × Effects) := do
  validateVersion version
  group.assertNotArchived
  assertMessageLogMatchesGroup log group
  assertThat (acting.actorAddress = sender) .agentSenderMismatch
  group.assertPermission acting.actorAddress .messagingSender
  assertPaidOpenAllowed namespace_ policies following blockList group log acting.actorAddress
    acting.principalOwner recipient escrowAmount
  within .messageLog (log.sendPaidMessage acting.actorAddress recipient payment escrowAmount
    dedupeKey nonce nowMs)

def replyToPaidMessageClaimCoin (version : U64) (group : Group) (log : MessageLog)
    (blockList : BlockList) (sender : Address) (paidMsgSeq : U64) (charCount : U32)
    (dedupeKey : List UInt8) (nonce : U128) (nowMs : U64) :
    Move MessagingError (U64 × MessageLog × Effects) := do
  assertPaidAccess version group log sender
  assertPaidPartiesNotBlocked blockList sender log paidMsgSeq
  within .messageLog
    (log.replyToPaidMessageClaimCoin sender paidMsgSeq charCount dedupeKey nonce nowMs)

def replyToPaidMessageClaimSettled (version : U64) (group : Group) (log : MessageLog)
    (blockList : BlockList) (sender : Address) (paidMsgSeq : U64) (charCount : U32)
    (dedupeKey : List UInt8) (nonce : U128) (nowMs : U64)
    (platformFeeRecipient ecosystemFeeRecipient : Address) :
    Move MessagingError (MessageLog × Effects) := do
  assertPaidAccess version group log sender
  assertPaidPartiesNotBlocked blockList sender log paidMsgSeq
  within .messageLog
    (log.replyToPaidMessageClaimSettled sender paidMsgSeq charCount dedupeKey nonce nowMs
      platformFeeRecipient ecosystemFeeRecipient)

def refundPaidEscrow (version : U64) (group : Group) (log : MessageLog)
    (blockList : BlockList) (sender : Address) (paidMsgSeq : U64) (nowMs : U64) :
    Move MessagingError (MessageLog × Effects) := do
  assertPaidAccess version group log sender
  let (payer, recipient) ← within .messageLog (log.paidMessageParties paidMsgSeq)
  assertNotBlocked blockList payer recipient
  within .messageLog (log.refundPaidMessage sender paidMsgSeq nowMs)

end MessagingStack.Contract

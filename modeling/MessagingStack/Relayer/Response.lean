import MessagingStack.Relayer.Messages

/-!
# The row a client gets

`handlers/messages/response.rs`: the JSON fields of a message row, bytes in hex, times in
seconds.  A post address and an idempotency key are not among them, and the metadata only for
the payment kinds.
-/

namespace MessagingStack.Relayer

/-- Wire-format attachment with hex-encoded binary fields. -/
structure AttachmentResponse where
  storageId : String
  nonce : String
  encryptedMetadata : String
  metadataNonce : String
  deriving DecidableEq

def AttachmentResponse.ofAttachment (attachment : Attachment) : AttachmentResponse where
  storageId := attachment.storageId
  nonce := Hex.encode attachment.nonce
  encryptedMetadata := Hex.encode attachment.encryptedMetadata
  metadataNonce := Hex.encode attachment.metadataNonce

def SystemType.asStr : SystemType → String
  | .memberJoined => "member_joined"
  | .memberLeft => "member_left"
  | .memberRemoved => "member_removed"

def SyncStatus.display : SyncStatus → String
  | .syncPending => "SYNC_PENDING"
  | .synced => "SYNCED"
  | .updatePending => "UPDATE_PENDING"
  | .updated => "UPDATED"
  | .deletePending => "DELETE_PENDING"
  | .deleted => "DELETED"

/-- Typed system object exposed on the wire. -/
structure SystemMessageWire where
  systemType : String
  member : String
  actor : Option String
  deriving DecidableEq

def parseSystemMetadata (value : Json) : Option (String × Option String) :=
  match value.get "version", (value.get "member").bind Json.asStr with
  | some (.num _), some member =>
    match value.get "actor" with
    | none | some .null => some (member, none)
    | some (.str actor) => some (member, some actor)
    | some _ => none
  | _, _ => none

structure MessageResponse where
  messageId : Uuid
  groupId : String
  order : Int
  encryptedText : String
  nonce : String
  keyVersion : Int
  senderAddress : String
  createdAt : Int
  updatedAt : Int
  attachments : List AttachmentResponse
  isEdited : Bool
  isDeleted : Bool
  syncStatus : String
  quiltPatchId : Option String
  /-- Hex-encoded 64-byte message signature for independent sender verification. -/
  signature : String
  signatureVersion : Int
  /-- Hex-encoded sender public key (flag byte and key bytes). -/
  publicKey : String
  principalOwner : Option String
  subAgentId : Option String
  identityClass : Option Int
  kind : String
  system : Option SystemMessageWire
  /-- Present only for `token_transfer` and `request_payment`. -/
  metadata : Option Json

def systemWireFromMessage (row : Message) : Option SystemMessageWire :=
  if row.kind = .system then
    row.systemType.map fun systemType =>
      let (member, actor) :=
        (row.metadata.bind parseSystemMetadata).getD (row.senderWalletAddr, none)
      { systemType := systemType.asStr, member := member, actor := actor }
  else none

def MessageResponse.ofMessage (row : Message) : MessageResponse where
  messageId := row.id
  groupId := row.groupId
  order := row.order.getD 0
  encryptedText := Hex.encode row.encryptedMsg
  nonce := Hex.encode row.nonce
  keyVersion := row.keyVersion
  senderAddress := row.senderWalletAddr
  createdAt := row.createdAt / 1000
  updatedAt := row.updatedAt / 1000
  attachments := row.attachments.map AttachmentResponse.ofAttachment
  isEdited := row.isEdited && !row.isSystem
  isDeleted := row.isDeleted
  syncStatus := row.syncStatus.display
  quiltPatchId := row.quiltPatchId
  signature := Hex.encode row.signature
  signatureVersion := row.signatureVersion
  publicKey := Hex.encode row.publicKey
  principalOwner := row.attribution.principalOwner
  subAgentId := row.attribution.subAgentId
  identityClass := row.attribution.identityClass
  kind := row.kind.asStr
  system := systemWireFromMessage row
  metadata := if row.kind.isDmPaymentKind then row.metadata else none

end MessagingStack.Relayer

import MessagingStack.Base.Text

/-!
# Message rows

The row type of the relayer's message log, with the constructors and the in-place
changes of `models/message.rs`, `models/system_message.rs`,
`models/message_attribution.rs` and `models/attachment.rs`.

Client rows are built by `Message.withAttribution`, system rows by
`Message.newSystem`; storage then assigns the `order`.  Row identifiers (UUIDs) and
time stamps come from outside, so every constructor takes them as arguments.
-/

namespace MessagingStack.Relayer

abbrev Uuid := Nat

/-- Milliseconds since the Unix epoch. -/
abbrev Timestamp := Int

/-! ## Kinds -/

/-- Top-level message kind in the shared timeline. -/
inductive MessageKind where
  | text
  | system
  | post
  | requestPayment
  | poll
  | tokenTransfer
  | message
  | event
  | commit
  deriving DecidableEq

namespace MessageKind

def asStr : MessageKind → String
  | .text => "text"
  | .system => "system"
  | .post => "post"
  | .requestPayment => "request_payment"
  | .poll => "poll"
  | .tokenTransfer => "token_transfer"
  | .message => "message"
  | .event => "event"
  | .commit => "commit"

/-- Client-createable kinds for `POST /messages`; rejects `system` and unknown. -/
def parseClientKind (s : String) : Option MessageKind :=
  if s = "text" then some .text
  else if s = "post" then some .post
  else if s = "request_payment" then some .requestPayment
  else if s = "poll" then some .poll
  else if s = "token_transfer" then some .tokenTransfer
  else if s = "message" then some .message
  else if s = "event" then some .event
  else if s = "commit" then some .commit
  else none

def isSystem (kind : MessageKind) : Bool := kind == .system

/-- Content envelope v2 opaque kinds: no relayer-visible attachments or metadata. -/
def isOpaqueV2Kind : MessageKind → Bool
  | .message | .event | .commit => true
  | _ => false

/-- Rows that are not timeline messages (encrypted events, MLS commits). -/
def isControl : MessageKind → Bool
  | .event | .commit => true
  | _ => false

def isDmPaymentKind : MessageKind → Bool
  | .requestPayment | .tokenTransfer => true
  | _ => false

end MessageKind

/-- Constrained system event types. -/
inductive SystemType where
  | memberJoined
  | memberLeft
  | memberRemoved
  deriving DecidableEq

/-- Synchronisation status of a row with the archive. -/
inductive SyncStatus where
  | syncPending
  | synced
  | updatePending
  | updated
  | deletePending
  | deleted
  deriving DecidableEq

/-! ## Parts of a row -/

/-- Cleartext agent attribution stored alongside encrypted message content. -/
structure MessageAttribution where
  principalOwner : Option String
  subAgentId : Option String
  identityClass : Option Int
  attributionVersion : Int
  deriving DecidableEq

namespace MessageAttribution

def humanMessage : MessageAttribution where
  principalOwner := none
  subAgentId := none
  identityClass := none
  attributionVersion := 1

def isAgentMessage (attribution : MessageAttribution) : Bool := attribution.principalOwner.isSome

end MessageAttribution

/-- An attachment as stored by the relayer. -/
structure Attachment where
  storageId : String
  nonce : Bytes
  encryptedMetadata : Bytes
  metadataNonce : Bytes
  deriving DecidableEq

/-! ## Rows -/

/-- A row of the relayer's message log. -/
structure Message where
  id : Uuid
  groupId : String
  /-- `none` until storage assigns it. -/
  order : Option Int
  senderWalletAddr : String
  encryptedMsg : Bytes
  nonce : Bytes
  keyVersion : Int
  createdAt : Timestamp
  updatedAt : Timestamp
  isEdited : Bool
  syncStatus : SyncStatus
  quiltPatchId : Option String
  attachments : List Attachment
  signature : Bytes
  signatureVersion : Int
  publicKey : Bytes
  attribution : MessageAttribution
  kind : MessageKind
  systemType : Option SystemType
  metadata : Option Json
  idempotencyKey : Option String

namespace Message

/-- Creates a new client row; the caller sets the signature version afterwards. -/
def withAttribution
    (id : Uuid)
    (now : Timestamp)
    (groupId senderWalletAddr : String)
    (encryptedMsg nonce : Bytes)
    (keyVersion : Int)
    (attachments : List Attachment)
    (signature publicKey : Bytes)
    (attribution : MessageAttribution)
    (kind : MessageKind)
    (idempotencyKey : Option String) :
    Message where
  id := id
  groupId := groupId
  order := none
  senderWalletAddr := senderWalletAddr
  encryptedMsg := encryptedMsg
  nonce := nonce
  keyVersion := keyVersion
  createdAt := now
  updatedAt := now
  isEdited := false
  syncStatus := .syncPending
  quiltPatchId := none
  attachments := attachments
  signature := signature
  signatureVersion := 1
  publicKey := publicKey
  attribution := attribution
  kind := kind
  systemType := none
  metadata := none
  idempotencyKey := idempotencyKey

def systemMetadataV1 (member : String) (actor : Option String) : Json :=
  .obj ([("version", .num 1), ("member", .str member)] ++
    (actor.map fun address => ("actor", Json.str address)).toList)

/-- Trusted-server constructor for immutable system timeline rows.  `blake2b512` is
the hash whose first twelve bytes make the nonce of the row. -/
def newSystem
    (blake2b512 : Bytes → Bytes)
    (id : Uuid)
    (groupId member : String)
    (systemType : SystemType)
    (actor : Option String)
    (idempotencyKey : String)
    (createdAt : Timestamp) :
    Message where
  id := id
  groupId := groupId
  order := none
  senderWalletAddr := member
  encryptedMsg := []
  nonce := (blake2b512 (Text.utf8 idempotencyKey)).take 12
  keyVersion := 0
  createdAt := createdAt
  updatedAt := createdAt
  isEdited := false
  syncStatus := .synced
  quiltPatchId := none
  attachments := []
  signature := []
  signatureVersion := 1
  publicKey := []
  attribution := .humanMessage
  kind := .system
  systemType := some systemType
  metadata := some (systemMetadataV1 member actor)
  idempotencyKey := some idempotencyKey

def isSystem (message : Message) : Bool := message.kind.isSystem

/-- Attaches relayer-validated cleartext metadata. -/
def withMetadata (message : Message) (metadata : Json) : Message :=
  { message with metadata := some metadata }

def setOrder (message : Message) (order : Int) : Message := { message with order := some order }

def markForDeletion (message : Message) (now : Timestamp) : Message :=
  { message with syncStatus := .deletePending, updatedAt := now }

/-- `matches!(sync_status, DeletePending | Deleted)`. -/
def isDeleted (message : Message) : Bool :=
  message.syncStatus == .deletePending || message.syncStatus == .deleted

/-- Updates the message content and marks it for re-sync. -/
def updateContent
    (message : Message)
    (now : Timestamp)
    (encryptedMsg nonce : Bytes)
    (keyVersion : Int)
    (attachments : List Attachment)
    (signature : Bytes)
    (signatureVersion : Int)
    (publicKey : Bytes) :
    Message :=
  { message with
    encryptedMsg := encryptedMsg
    nonce := nonce
    keyVersion := keyVersion
    attachments := attachments
    signature := signature
    signatureVersion := signatureVersion
    publicKey := publicKey
    syncStatus := .updatePending
    updatedAt := now
    isEdited := true }

def metadataStatus (metadata : Option Json) : Option String :=
  metadata.bind fun value => (value.get "status").bind Json.asStr

end Message

end MessagingStack.Relayer

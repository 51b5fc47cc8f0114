import MessagingStack.Base.HexCodec
import MessagingStack.Relayer.Response

/-!
# Signed rows, on the client's side

`verification.ts`, the part of `relayer/http-transport.ts` and `relayer/wire.ts` that carries a
row to the relayer and back, and `#verifyRawMessage` of `client.ts`.
-/

namespace MessagingStack.Sdk.Verification

open Relayer

/-! ## Signatures -/

/-- One signature that was made. -/
structure Issued where
  publicKey : Bytes
  scheme : SignatureScheme
  message : Bytes
  signature : Bytes
  deriving DecidableEq

/-- An ideal signature scheme: only what was signed verifies, and no signature serves twice. -/
structure Signatures where
  issued : List Issued
  unique : ∀ left ∈ issued, ∀ right ∈ issued, left.signature = right.signature → left = right

namespace Signatures

def verifies (signatures : Signatures) (message signature publicKey : Bytes)
    (scheme : SignatureScheme) : Bool :=
  decide (⟨publicKey, scheme, message, signature⟩ ∈ signatures.issued)

/-- The relayer's crates with this scheme as `verify_signature`. -/
def crates (signatures : Signatures) (base : Crates) : Crates :=
  { base with
    verifySignature := fun message signature publicKey scheme =>
      if signatures.verifies message signature publicKey scheme then .ok ()
      else .error "signature does not match" }

end Signatures

/-! ## The canonical text -/

/-- An attachment of a row, binary fields in hex. -/
structure Attachment where
  storageId : String
  nonce : String
  encryptedMetadata : String
  metadataNonce : String
  deriving DecidableEq

structure SignedMessageAttribution where
  principalOwner : Option String
  subAgentId : Option String
  identityClass : Option Int
  deriving DecidableEq

/-- The parameters of `buildCanonicalMessage`. -/
structure CanonicalParams where
  groupId : String
  kind : String
  signatureVersion : Int
  encryptedText : Bytes
  nonce : Bytes
  keyVersion : Int
  sharedPostAddress : Option String
  /-- Transaction digest bound into `token_transfer` signatures. -/
  transferDigest : Option String
  idempotencyKey : Option String
  attachments : List Attachment
  attribution : Option SignedMessageAttribution
  deriving DecidableEq

def normalizeSharedPostAddress (raw : Option String) : Option String :=
  Text.normalizeHexAddress (raw.getD "")

/-- The post address as both versions bind it. -/
def boundPost (raw : Option String) : String :=
  (normalizeSharedPostAddress raw).getD (Text.toAsciiLowercase (Text.trim (raw.getD "")))

/-- What a row refers to in the clear: a post, or a transaction. -/
def boundReference (params : CanonicalParams) : String :=
  if params.kind = "post" then boundPost params.sharedPostAddress
  else if params.kind = "token_transfer" then Text.trim (params.transferDigest.getD "")
  else ""

def boundKey (params : CanonicalParams) : String := Text.trim (params.idempotencyKey.getD "")

def attachmentRow (attachment : Attachment) : List String :=
  [attachment.storageId, Text.toAsciiLowercase attachment.nonce,
    Text.toAsciiLowercase attachment.encryptedMetadata,
    Text.toAsciiLowercase attachment.metadataNonce]

def attributionRow (attribution : Option SignedMessageAttribution) : String :=
  Json.array [Json.quote ((attribution.bind (·.principalOwner)).getD ""),
    Json.quote ((attribution.bind (·.subAgentId)).getD ""),
    toString ((attribution.bind (·.identityClass)).getD (-1))]

/-- Version 2: a JSON array. -/
def canonicalV2 (params : CanonicalParams) : String :=
  Json.array [Json.quote "myso-message-v2", Json.quote (Text.toAsciiLowercase params.groupId),
    Json.quote params.kind, Json.quote (boundReference params), Json.quote (boundKey params),
    Json.quote (Hex.encode params.encryptedText), Json.quote (Hex.encode params.nonce),
    Json.quote (toString params.keyVersion),
    Json.array (params.attachments.map fun attachment =>
      Json.array ((attachmentRow attachment).map Json.quote)),
    attributionRow params.attribution]

/-- Version 1: fields between colons. -/
def canonicalV1 (params : CanonicalParams) : String :=
  let groupId := Text.toAsciiLowercase params.groupId
  if params.kind = "post" ∨ params.kind = "token_transfer" then
    String.intercalate ":" [groupId, params.kind, boundReference params, boundKey params,
      Hex.encode params.encryptedText, Hex.encode params.nonce, toString params.keyVersion]
  else
    String.intercalate ":" [groupId, params.kind, Hex.encode params.encryptedText,
      Hex.encode params.nonce, toString params.keyVersion]

/-- Build the canonical message that is signed; an unknown version throws. -/
def buildCanonicalMessage (params : CanonicalParams) : Option String :=
  if params.signatureVersion = 2 then some (canonicalV2 params)
  else if params.signatureVersion ≠ 1 then none
  else some (canonicalV1 params)

def transferIdempotencyKey (senderAddress digest : String) : String :=
  "transfer:" ++ Text.toAsciiLowercase senderAddress ++ ":" ++ digest

/-! ## To the relayer -/

structure PaymentSendMetadata where
  assetKind : String
  digest : Option String
  requestMessageId : Option String
  senderWallet : Option String

structure SendMessageParams where
  groupId : String
  encryptedText : Bytes
  nonce : Bytes
  keyVersion : Int
  kind : Option String
  signatureVersion : Option Int
  idempotencyKey : Option String
  sharedPostAddress : Option String
  paymentMetadata : Option PaymentSendMetadata
  attachments : List Attachment
  messageSignature : Option String
  attribution : Option SignedMessageAttribution
  notifyWallets : List String

def truthy (text : Option String) : Option String := text.filter (· ≠ "")

def toWireAttachment (attachment : Attachment) : AttachmentRequest where
  storageId := attachment.storageId
  nonce := attachment.nonce
  encryptedMetadata := attachment.encryptedMetadata
  metadataNonce := attachment.metadataNonce

def wireMetadata (metadata : PaymentSendMetadata) : Json :=
  .obj (("asset_kind", .str metadata.assetKind) ::
    ((truthy metadata.digest).map fun digest => ("digest", Json.str digest)).toList ++
    ((truthy metadata.requestMessageId).map fun id => ("request_message_id", Json.str id)).toList ++
    ((truthy metadata.senderWallet).map fun wallet => ("sender_wallet", Json.str wallet)).toList)

def sendMessageBody (params : SendMessageParams) (senderAddress : String) :
    CreateMessageRequest where
  groupId := params.groupId
  encryptedText := Hex.encode params.encryptedText
  nonce := Hex.encode params.nonce
  keyVersion := params.keyVersion
  senderAddress := senderAddress
  messageSignature := (truthy params.messageSignature).getD ""
  signatureVersion := params.signatureVersion.getD 1
  kind := some (params.kind.getD "text")
  metadata := params.paymentMetadata.map wireMetadata
  idempotencyKey := truthy params.idempotencyKey
  sharedPostAddress := (truthy params.sharedPostAddress).map fun raw =>
    (normalizeSharedPostAddress (some raw)).getD (Text.toAsciiLowercase (Text.trim raw))
  attachments := params.attachments.map toWireAttachment
  principalOwner := params.attribution.bind (·.principalOwner)
  subAgentId := params.attribution.bind (·.subAgentId)
  identityClass := params.attribution.bind (·.identityClass)
  notifyWallets := params.notifyWallets.map Text.toAsciiLowercase

structure UpdateMessageParams where
  messageId : Uuid
  groupId : String
  encryptedText : Bytes
  nonce : Bytes
  keyVersion : Int
  attachments : List Attachment
  signatureVersion : Option Int
  messageSignature : Option String

def updateMessageBody (params : UpdateMessageParams) : UpdateMessageRequest where
  messageId := params.messageId
  groupId := params.groupId
  encryptedText := Hex.encode params.encryptedText
  nonce := Hex.encode params.nonce
  keyVersion := params.keyVersion
  messageSignature := (truthy params.messageSignature).getD ""
  signatureVersion := params.signatureVersion.getD 1
  attachments := params.attachments.map toWireAttachment

/-! ## From the relayer -/

inductive PaymentMetadata where
  | tokenTransfer (digest assetKind status recipient : String) (requestMessageId reason : Option String)
      (senderWallet : Option String)
  | requestPayment (assetKind payer status : String)
      (fulfillingMessageId fulfilledDigest : Option String)
  deriving DecidableEq

def parseAssetKind (raw : Option Json) : Option String :=
  (raw.bind Json.asStr).filter fun text => text = "native" ∨ text = "spt"

/-- A non-empty string. -/
def str (raw : Option Json) : Option String := truthy (raw.bind Json.asStr)

def parsePaymentMetadata (kind : MessageKind) (raw : Option Json) : Option PaymentMetadata := do
  let raw ← raw
  let assetKind ← parseAssetKind (raw.get "asset_kind")
  match kind with
  | .tokenTransfer =>
    let digest ← str (raw.get "digest")
    let recipient ← str (raw.get "to")
    let status ← ((raw.get "status").bind Json.asStr).filter
      (["pending", "success", "failed"].contains ·)
    return .tokenTransfer digest assetKind status recipient (str (raw.get "request_message_id"))
      (str (raw.get "reason")) (str (raw.get "sender_wallet"))
  | .requestPayment =>
    let payer ← str (raw.get "payer")
    let status ← ((raw.get "status").bind Json.asStr).filter
      (["open", "rejected", "cancelled", "expired", "paid"].contains ·)
    return .requestPayment assetKind payer status (str (raw.get "fulfilling_message_id"))
      (str (raw.get "fulfilled_digest"))
  | _ => none

def parseMessageKind (raw : String) : MessageKind :=
  if raw = "system" then .system
  else if raw = "post" then .post
  else if raw = "request_payment" then .requestPayment
  else if raw = "poll" then .poll
  else if raw = "token_transfer" then .tokenTransfer
  else if raw = "message" then .message
  else if raw = "event" then .event
  else if raw = "commit" then .commit
  else .text

/-- `RelayerMessage`: a row as the client keeps it. -/
structure RelayerMessage where
  messageId : Uuid
  groupId : String
  order : Int
  encryptedText : Bytes
  nonce : Bytes
  keyVersion : Int
  senderAddress : String
  createdAt : Int
  updatedAt : Int
  attachments : List Attachment
  isEdited : Bool
  isDeleted : Bool
  syncStatus : String
  quiltPatchId : Option String
  signature : String
  signatureVersion : Int
  publicKey : String
  principalOwner : Option String
  subAgentId : Option String
  identityClass : Option Int
  isAgentMessage : Bool
  kind : MessageKind
  system : Option SystemMessageWire
  paymentMetadata : Option PaymentMetadata

/-- `fromHex`; `none` where it throws. -/
def fromHex (text : String) : Option Bytes := (Hex.decode text).toOption

def fromWireAttachment (wire : AttachmentResponse) : Attachment where
  storageId := wire.storageId
  nonce := wire.nonce
  encryptedMetadata := wire.encryptedMetadata
  metadataNonce := wire.metadataNonce

def fromWireMessage (wire : MessageResponse) : Option RelayerMessage := do
  let kind := parseMessageKind wire.kind
  let encryptedText ← fromHex wire.encryptedText
  let nonce ← fromHex wire.nonce
  return {
    messageId := wire.messageId
    groupId := wire.groupId
    order := wire.order
    encryptedText := encryptedText
    nonce := nonce
    keyVersion := wire.keyVersion
    senderAddress := wire.senderAddress
    createdAt := wire.createdAt
    updatedAt := wire.updatedAt
    attachments := wire.attachments.map fromWireAttachment
    isEdited := wire.isEdited
    isDeleted := wire.isDeleted
    syncStatus := wire.syncStatus
    quiltPatchId := wire.quiltPatchId
    signature := wire.signature
    signatureVersion := wire.signatureVersion
    publicKey := wire.publicKey
    principalOwner := wire.principalOwner
    subAgentId := wire.subAgentId
    identityClass := wire.identityClass
    isAgentMessage := (truthy wire.principalOwner).isSome
    kind := kind
    system := if kind = .system then wire.system else none
    paymentMetadata := parsePaymentMetadata kind wire.metadata }

theorem parseMessageKind_asStr (kind : MessageKind) : parseMessageKind kind.asStr = kind := by
  cases kind <;> decide

theorem fromHex_encode (bytes : Bytes) : fromHex (Hex.encode bytes) = some bytes := by
  rw [fromHex, Hex.decode_encode]
  rfl

/-! ## Verifying -/

/-- The keypair schemes of `SIGNATURE_FLAG_TO_SCHEME`; no signature of another scheme is one of
64 bytes and a key. -/
def schemeOf (flag : UInt8) : Option SignatureScheme :=
  if flag = 0 then some .ed25519
  else if flag = 1 then some .secp256k1
  else if flag = 2 then some .secp256r1
  else none

def verifyMessageSender (signatures : Signatures) (address : Bytes → String)
    (params : CanonicalParams) (senderAddress signature publicKey : String) : Bool :=
  match buildCanonicalMessage params, fromHex signature, fromHex publicKey with
  | some canonical, some rawSig, some (flag :: key) =>
    match schemeOf flag with
    | some scheme =>
      signatures.verifies (Text.utf8 canonical) rawSig key scheme &&
        address (flag :: key) == senderAddress
    | none => false
  | _, _, _ => false

/-- The digest a transfer row carries in its metadata. -/
def transferDigest (raw : RelayerMessage) : Option String :=
  match raw.kind, raw.paymentMetadata with
  | .tokenTransfer, some (.tokenTransfer digest _ _ _ _ _ _) => some digest
  | _, _ => none

def rowAttribution (raw : RelayerMessage) : Option SignedMessageAttribution :=
  if (truthy raw.principalOwner).isSome || (truthy raw.subAgentId).isSome ||
      raw.identityClass.isSome then
    some
      { principalOwner := truthy raw.principalOwner
        subAgentId := truthy raw.subAgentId
        identityClass := raw.identityClass }
  else none

/-- What a reader takes for the signed parameters of a row.  There is no post address in it. -/
def readerParams (raw : RelayerMessage) : CanonicalParams where
  groupId := raw.groupId
  kind := raw.kind.asStr
  signatureVersion := raw.signatureVersion
  encryptedText := raw.encryptedText
  nonce := raw.nonce
  keyVersion := raw.keyVersion
  sharedPostAddress := none
  transferDigest := transferDigest raw
  idempotencyKey := (truthy (transferDigest raw)).map (transferIdempotencyKey raw.senderAddress)
  attachments := raw.attachments
  attribution := rowAttribution raw

def verifyRawMessage (signatures : Signatures) (address : Bytes → String)
    (raw : RelayerMessage) : Bool :=
  if raw.signatureVersion ≠ 1 ∧ raw.signatureVersion ≠ 2 then false
  else if raw.signature ≠ "" ∧ raw.publicKey ≠ "" then
    verifyMessageSender signatures address (readerParams raw) raw.senderAddress raw.signature
      raw.publicKey
  else false

def readerVerifies (signatures : Signatures) (address : Bytes → String)
    (row : Relayer.Message) : Bool :=
  (fromWireMessage (.ofMessage row)).any (verifyRawMessage signatures address)

end MessagingStack.Sdk.Verification

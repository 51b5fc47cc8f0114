import MessagingStack.Base.Async
import MessagingStack.Relayer.InMemoryStorage
import MessagingStack.Relayer.Membership
import MessagingStack.Relayer.MlsStore
import MessagingStack.Relayer.PaymentMetadata

/-!
# The message handlers

`POST`, `PUT` and `DELETE /messages` (`handlers/messages/handlers.rs`), with the paid-DM
gate (`handlers/dm_gate.rs`) and the payment-request link
(`services/transfer_confirmation.rs`) they call.
-/

namespace MessagingStack.Relayer

/-! ## Requests, errors, surroundings -/

inductive SignatureScheme where
  | ed25519
  | secp256k1
  | secp256r1
  deriving DecidableEq

def SignatureScheme.flag : SignatureScheme → UInt8
  | .ed25519 => 0
  | .secp256k1 => 1
  | .secp256r1 => 2

/-- Validated authentication context passed to handlers. -/
structure AuthContext where
  senderAddress : String
  publicKey : Bytes
  scheme : SignatureScheme
  authorizedGroup : Option String
  zklogin : Bool
  deriving DecidableEq

/-- Flagged key stored with a message; zkLogin senders store flag 5. -/
def AuthContext.storedPublicKey (auth : AuthContext) : Bytes :=
  (if auth.zklogin then 5 else auth.scheme.flag) :: auth.publicKey

/-- Wire-format attachment with hex-encoded binary fields. -/
structure AttachmentRequest where
  storageId : String
  nonce : String
  encryptedMetadata : String
  metadataNonce : String
  deriving DecidableEq

/-- Opaque per-device notification preview ciphertext. -/
structure NotificationEnvelopeRequest where
  deviceId : String
  encryptedPreview : String
  deriving DecidableEq

/-- Request body for `POST /messages`. -/
structure CreateMessageRequest where
  groupId : String
  encryptedText : String
  nonce : String
  keyVersion : Int
  senderAddress : String
  messageSignature : String
  signatureVersion : Int := 1
  kind : Option String := none
  metadata : Option Json := none
  idempotencyKey : Option String := none
  sharedPostAddress : Option String := none
  attachments : List AttachmentRequest := []
  principalOwner : Option String := none
  subAgentId : Option String := none
  identityClass : Option Int := none
  notificationEnvelopes : List NotificationEnvelopeRequest := []
  notifyWallets : List String := []

/-- Request body for `PUT /messages`. -/
structure UpdateMessageRequest where
  messageId : Uuid
  groupId : String
  encryptedText : String
  nonce : String
  keyVersion : Int
  messageSignature : String
  signatureVersion : Int := 1
  attachments : List AttachmentRequest := []

/-- `ApiError`, for the cases the message handlers produce. -/
inductive ApiError where
  | notFound (message : String)
  | badRequest (message : String)
  | conflict (message : String)
  | internal (message : String)
  | forbidden (message : String)
  | blocked
  | paymentRequired (minCost : Option Nat) (recipient : String)
  deriving DecidableEq

/-- `StatusCode`, for the two successes of `POST /messages`. -/
inductive StatusCode where
  | created
  | ok
  deriving DecidableEq

structure PaidPolicy where
  enabled : Bool
  minCost : Option Nat
  deriving DecidableEq

def PaidPolicy.requiredMinCost (policy : PaidPolicy) : Option Nat :=
  if policy.enabled then policy.minCost else none

/-- Third-party functions the handlers call. -/
structure Crates where
  /-- `myso_mls::inspect`, `none` where it errs. -/
  inspect : Bytes → Option MessageInfo
  verifySignature : Bytes → Bytes → Bytes → SignatureScheme → Except String Unit
  decodeBase64 : String → Option Bytes
  parseUuid : String → Option Uuid
  uuidToString : Uuid → String

/-- What the surroundings answer during one call. -/
structure Services where
  now : Timestamp
  newId : Uuid
  verifyAgentAttribution : String → String → String → Except String Unit
  blockCheckEnabled : Bool
  checkEitherBlocked : String → String → Except String Bool
  messageGateEnabled : Bool
  isFollowing : String → String → Except String Bool
  paidPolicy : String → Except String (Option PaidPolicy)
  paymentExpirationMs : Int
  minReplyChars : Nat

/-- The shared state of the relayer. -/
structure AppState where
  storage : InMemoryStorage
  mls : MlsStore
  membershipStore : MembershipStore

def ApiError.fromStorage (uuidToString : Uuid → String) : StorageError → ApiError
  | .notFound id => .notFound ("Message not found: " ++ uuidToString id)
  | .duplicateId id => .conflict ("Duplicate message ID: " ++ uuidToString id)
  | .duplicateNonce => .conflict "Duplicate nonce: a message with this nonce already exists"
  | .duplicateIdempotencyKey =>
    .conflict "Duplicate idempotency key: system message already ingested"
  | .operationFailed message => .internal message

/-! ## Decoding a request -/

def decodeHexField (label text : String) : Except ApiError Bytes :=
  match Hex.decode text with
  | .ok bytes => .ok bytes
  | .error reason => .error (.badRequest (label ++ reason.display))

/-- The nonce of a row: hex of exactly twelve bytes. -/
def decodeNonce (text : String) : Except ApiError Bytes := do
  let nonce ← decodeHexField "Invalid hex in nonce: " text
  if nonce.length ≠ 12 then
    .error (.badRequest ("Nonce must be exactly 12 bytes, got " ++ toString nonce.length))
  return nonce

def AttachmentRequest.tryIntoAttachment (request : AttachmentRequest) :
    Except ApiError Attachment := do
  let nonce ← decodeHexField "Invalid hex in attachment nonce: " request.nonce
  if nonce.length ≠ 12 then
    .error (.badRequest
      ("Attachment nonce must be exactly 12 bytes, got " ++ toString nonce.length))
  let encryptedMetadata ←
    decodeHexField "Invalid hex in attachment encrypted_metadata: " request.encryptedMetadata
  let metadataNonce ←
    decodeHexField "Invalid hex in attachment metadata_nonce: " request.metadataNonce
  if metadataNonce.length ≠ 12 then
    .error (.badRequest
      ("Attachment metadata_nonce must be exactly 12 bytes, got " ++ toString metadataNonce.length))
  return { storageId := request.storageId, nonce, encryptedMetadata, metadataNonce }

/-- Decodes a list of attachment requests; the first bad one decides. -/
def decodeAttachments (requests : List AttachmentRequest) :
    Except ApiError (List Attachment) :=
  requests.mapM AttachmentRequest.tryIntoAttachment

def normalizeSharedPostAddress (raw : String) : Option String := Text.normalizeHexAddress raw

/-- Agent attribution is all or nothing, and the agent is not its own principal. -/
def validateMessageAttribution (senderAddress : String)
    (principalOwner subAgentId : Option String) (identityClass : Option Int) :
    Except ApiError MessageAttribution :=
  if principalOwner.isNone ∧ subAgentId.isNone ∧ identityClass.isNone then .ok .humanMessage
  else
    match principalOwner with
    | none => .error (.badRequest "principal_owner required for agent attribution")
    | some principal =>
      match subAgentId with
      | none => .error (.badRequest "sub_agent_id required for agent attribution")
      | some subAgent =>
        match identityClass with
        | none => .error (.badRequest "identity_class required for agent attribution")
        | some identity =>
          if senderAddress = principal then
            .error (.badRequest "sender_address cannot equal principal_owner for agent messages")
          else
            .ok
              { principalOwner := some principal
                subAgentId := some subAgent
                identityClass := some identity
                attributionVersion := 1 }

/-- `key.trim()`, unless nothing is left. -/
def trimmedKey (key : Option String) : Option String := (key.map Text.trim).filter (· ≠ "")

def parseSharedPost (kind : MessageKind) (sharedPostAddress idempotencyKey : Option String) :
    Except ApiError (Option String) :=
  if kind = .post then
    match trimmedKey sharedPostAddress with
    | none => .error (.badRequest "shared_post_address is required when kind is post")
    | some raw =>
      match normalizeSharedPostAddress raw with
      | none => .error (.badRequest "shared_post_address must be 0x + 64 hex (on-chain post id)")
      | some normalized =>
        if idempotencyKey.isNone then
          .error (.badRequest "idempotency_key is required when kind is post")
        else .ok (some normalized)
  else .ok none

def parsePayment {α : Type} (isKind : Bool) (parse : Except PaymentMetadataError α) :
    Except ApiError (Option α) :=
  if isKind then
    match parse with
    | .ok create => .ok (some create)
    | .error reason => .error (.badRequest reason.display)
  else .ok none

/-- A request once it is decoded and validated by itself. -/
structure PreparedMessage where
  encryptedMsg : Bytes
  nonce : Bytes
  kind : MessageKind
  idempotencyKey : Option String
  sharedPostAddress : Option String
  transferCreate : Option TokenTransferCreate
  requestCreate : Option PaymentRequestCreate
  attribution : MessageAttribution
  attachments : List Attachment

/-- `create_message` up to the commit branch. -/
def prepareMessage (crates : Crates) (req : CreateMessageRequest) :
    Except ApiError PreparedMessage := do
  let encryptedMsg ← decodeHexField "Invalid hex in encrypted_text: " req.encryptedText
  let nonce ← decodeNonce req.nonce
  let kindStr := req.kind.getD "text"
  let kind ←
    match MessageKind.parseClientKind kindStr with
    | some kind => .ok kind
    | none =>
      .error (.badRequest ("Invalid message kind '" ++ kindStr ++ "': expected text, post, " ++
        "request_payment, poll, token_transfer, message, or event"))
  let idempotencyKey := trimmedKey req.idempotencyKey
  let sharedPostAddress ← parseSharedPost kind req.sharedPostAddress idempotencyKey
  let transferCreate ← parsePayment (kind == .tokenTransfer)
    (parseTokenTransferCreate crates.parseUuid req.metadata idempotencyKey req.senderAddress)
  let requestCreate ← parsePayment (kind == .requestPayment)
    (parsePaymentRequestCreate req.metadata idempotencyKey)
  let attribution ← validateMessageAttribution req.senderAddress req.principalOwner
    req.subAgentId req.identityClass
  let attachments ← decodeAttachments req.attachments
  if kind.isOpaqueV2Kind && (!attachments.isEmpty || req.metadata.isSome) then
    .error (.badRequest ("message/event rows carry attachments and metadata inside the " ++
      "encrypted envelope"))
  return { encryptedMsg, nonce, kind, idempotencyKey, sharedPostAddress, transferCreate,
           requestCreate, attribution, attachments }

/-! ## The commit branch -/

/-- A handler: a program over the relayer state that may fail with an API error. -/
abbrev Handler (α : Type) := Async ApiError AppState α

/-- Lift a check that touches no state. -/
def check {α : Type} (result : Except ApiError α) : Handler α :=
  match result with
  | .ok value => pure value
  | .error reason => Async.throw reason

/-- The commit branch: one commit per epoch, first wins; proposals ride along without
moving the epoch. -/
def acceptCommit (crates : Crates) (groupId : String) (encryptedMsg : Bytes) :
    Handler PUnit := fun app =>
  match crates.inspect encryptedMsg with
  | some (.commit headerGroup epoch) =>
    if headerGroup = Text.utf8 groupId then
      match app.mls.tryAdvanceEpoch groupId epoch with
      | (true, mls) => (.ok ⟨⟩, { app with mls })
      | (false, mls) =>
        (.error (.conflict ("stale MLS commit for epoch " ++ toString epoch ++
          "; group is at epoch " ++ toString (mls.currentEpoch groupId))), { app with mls })
    else (.error (.badRequest "commit rows must carry an MLS commit for this group"), app)
  | some (.proposal headerGroup _) =>
    if headerGroup = Text.utf8 groupId then (.ok ⟨⟩, app)
    else (.error (.badRequest "commit rows must carry an MLS commit for this group"), app)
  | _ => (.error (.badRequest "commit rows must carry an MLS commit for this group"), app)

/-- `create_message` up to and including the epoch check. -/
def beginMessage (crates : Crates) (req : CreateMessageRequest) : Handler PreparedMessage := do
  let prepared ← check (prepareMessage crates req)
  if prepared.kind = .commit then do
    acceptCommit crates req.groupId prepared.encryptedMsg
    return prepared
  else return prepared

/-! ## Signatures -/

def messageContentCanonical (groupId kind encryptedText nonce : String) (keyVersion : Int)
    (sharedPostAddress idempotencyKey : Option String) : String :=
  let groupId := Text.toAsciiLowercase groupId
  if kind = "post" ∨ kind = "token_transfer" then
    String.intercalate ":" [groupId, kind, sharedPostAddress.getD "", idempotencyKey.getD "",
      encryptedText, nonce, toString keyVersion]
  else String.intercalate ":" [groupId, kind, encryptedText, nonce, toString keyVersion]

def messageContentCanonicalV2 (groupId kind encryptedText nonce : String) (keyVersion : Int)
    (signedReference idempotencyKey : Option String) (attachments : List Attachment)
    (attribution : MessageAttribution) : String :=
  let attachmentRows := attachments.map fun attachment =>
    Json.array [Json.quote attachment.storageId, Json.quote (Hex.encode attachment.nonce),
      Json.quote (Hex.encode attachment.encryptedMetadata),
      Json.quote (Hex.encode attachment.metadataNonce)]
  Json.array [Json.quote "myso-message-v2", Json.quote (Text.toAsciiLowercase groupId),
    Json.quote kind, Json.quote (signedReference.getD ""), Json.quote (idempotencyKey.getD ""),
    Json.quote (Text.toAsciiLowercase encryptedText), Json.quote (Text.toAsciiLowercase nonce),
    Json.quote (toString keyVersion), Json.array attachmentRows,
    Json.array [Json.quote (attribution.principalOwner.getD ""),
      Json.quote (attribution.subAgentId.getD ""),
      toString (attribution.identityClass.getD (-1))]]

/-- Verifies the per-message signature over canonical content and returns its bytes. -/
def verifyMessageSignature
    (crates : Crates)
    (signatureHex groupId kind encryptedText nonce : String)
    (keyVersion : Int)
    (auth : AuthContext)
    (signedReference idempotencyKey : Option String)
    (signatureVersion : Int)
    (attachments : List Attachment)
    (attribution : MessageAttribution) :
    Except ApiError Bytes := do
  if ¬(signatureVersion = 1 ∨ signatureVersion = 2) then
    .error (.badRequest "signature_version must be 1 or 2")
  if signatureVersion = 1 ∧ attachments ≠ [] then
    .error (.badRequest "signature_version 1 does not bind attachments; update the messaging SDK")
  let signature ← decodeHexField "Invalid hex in message_signature: " signatureHex
  if signature.length ≠ 64 then
    .error (.badRequest
      ("message_signature must be exactly 64 bytes, got " ++ toString signature.length))
  let canonical :=
    if signatureVersion = 2 then
      messageContentCanonicalV2 groupId kind encryptedText nonce keyVersion signedReference
        idempotencyKey attachments attribution
    else
      messageContentCanonical groupId kind encryptedText nonce keyVersion signedReference
        idempotencyKey
  match crates.verifySignature (Text.utf8 canonical) signature auth.publicKey auth.scheme with
  | .ok () => .ok signature
  | .error reason => .error (.badRequest ("Message signature verification failed: " ++ reason))

/-! ## The later checks of a new row -/

/-- Post rows bind the post address, transfers the digest. -/
def signedBind (prepared : PreparedMessage) : Option String :=
  match prepared.sharedPostAddress, prepared.transferCreate with
  | some post, _ => some post
  | none, some transfer => some transfer.digest
  | none, none => none

def checkNotifyWallets (req : CreateMessageRequest) (prepared : PreparedMessage) :
    Except ApiError Unit :=
  if prepared.kind ≠ .event ∧ req.notifyWallets ≠ [] then
    .error (.badRequest "notify_wallets is only valid for event rows")
  else .ok ()

def checkSignature (crates : Crates) (auth : AuthContext) (req : CreateMessageRequest)
    (prepared : PreparedMessage) : Except ApiError Bytes :=
  verifyMessageSignature crates req.messageSignature req.groupId prepared.kind.asStr
    req.encryptedText req.nonce req.keyVersion auth (signedBind prepared)
    prepared.idempotencyKey req.signatureVersion prepared.attachments prepared.attribution

/-- Agent senders must be backed by the chain. -/
def checkAttribution (services : Services) (req : CreateMessageRequest)
    (prepared : PreparedMessage) : Except ApiError Unit :=
  match prepared.attribution.principalOwner, prepared.attribution.subAgentId with
  | some principal, some subAgent =>
    match services.verifyAgentAttribution req.senderAddress principal subAgent with
    | .ok () => .ok ()
    | .error reason => .error (.badRequest reason)
  | _, _ => .ok ()

/-- The 1:1 DM peer: exactly one other member in the group's synced membership. -/
def dmPeer (services : Services) (app : AppState) (req : CreateMessageRequest)
    (kind : MessageKind) : Option String :=
  if services.blockCheckEnabled || services.messageGateEnabled || kind.isDmPaymentKind then
    match (app.membershipStore.listMemberAddresses req.groupId).filter (· ≠ req.senderAddress) with
    | [peer] => some peer
    | _ => none
  else none

/-- Payments exist only in 1:1 DMs and are never sent by agents. -/
def checkPaymentPeer (prepared : PreparedMessage) (peer : Option String) :
    Except ApiError (Option String) :=
  if prepared.kind.isDmPaymentKind then
    if prepared.attribution.isAgentMessage then
      .error (.badRequest "Payment messages cannot be sent by agents")
    else
      match peer with
      | some peer => .ok (some peer)
      | none => .error (.badRequest "Payment messages are only available in 1:1 direct messages")
  else .ok none

def checkNotBlocked (services : Services) (wallet peer : String) : Except ApiError Unit :=
  match services.checkEitherBlocked wallet peer with
  | .error reason => .error (.internal ("Block check unavailable: " ++ reason))
  | .ok true => .error .blocked
  | .ok false => .ok ()

/-- DM block check, for the sender and for an agent's principal. -/
def checkBlocked (services : Services) (req : CreateMessageRequest)
    (prepared : PreparedMessage) (peer : Option String) : Except ApiError Unit :=
  match services.blockCheckEnabled, peer with
  | true, some peer => do
    checkNotBlocked services req.senderAddress peer
    match prepared.attribution.principalOwner with
    | some principal => checkNotBlocked services principal peer
    | none => .ok ()
  | _, _ => .ok ()

/-- Gate decision detail. -/
structure PaidDmGate where
  firstOutbound : Bool
  paid : Bool
  peerPaid : Bool
  peerEscrowAmount : Option Nat
  peerHasMessaged : Bool
  following : Option Bool
  minCost : Option Nat
  minReplyChars : Nat
  paymentRequired : Bool
  deriving DecidableEq

/-- The storage read of a handler, as an API result. -/
def fromStorage {α : Type} (crates : Crates) (result : Except StorageError α) :
    Except ApiError α :=
  match result with
  | .ok value => .ok value
  | .error reason => .error (.fromStorage crates.uuidToString reason)

/-- A lookup for an agent's principal, made only when the agent's own found nothing. -/
def orPrincipal {α : Type} (found : α → Bool) (own : Except ApiError α)
    (principal : Option String) (lookup : String → Except ApiError α) : Except ApiError α := do
  let value ← own
  if found value then return value
  match principal with
  | some principal => lookup principal
  | none => return value

/-- The answer of the social server, or a 500: the gate fails closed. -/
def gateLookup {α : Type} (result : Except String α) : Except ApiError α :=
  match result with
  | .ok value => .ok value
  | .error reason => .error (.internal ("Paid-DM gate unavailable: " ++ reason))

/-- The gate before anything is known. -/
def PaidDmGate.initial (services : Services) : PaidDmGate where
  firstOutbound := true
  paid := false
  peerPaid := false
  peerEscrowAmount := none
  peerHasMessaged := false
  following := none
  minCost := none
  minReplyChars := services.minReplyChars
  paymentRequired := false

/-- The part of the gate that the social server decides. -/
def evaluateSocialGate (services : Services) (sender : String)
    (principalOwner : Option String) (recipient : String) (full : Bool) (gate : PaidDmGate) :
    Except ApiError PaidDmGate := do
  let following ← gateLookup (services.isFollowing (principalOwner.getD sender) recipient)
  let gate := { gate with following := some following }
  if !full && following then return gate
  let policy ← gateLookup (services.paidPolicy recipient)
  let minCost := policy.bind PaidPolicy.requiredMinCost
  return { gate with
    minCost := minCost
    paymentRequired := gate.firstOutbound && !gate.paid && !gate.peerPaid &&
      !gate.peerHasMessaged && !following && minCost.isSome }

/-- Evaluates the paid-DM gate for `sender` messaging `recipient`. -/
def evaluatePaidDmGate
    (crates : Crates)
    (services : Services)
    (storage : InMemoryStorage)
    (groupId : Option String)
    (sender : String)
    (principalOwner : Option String)
    (recipient : String)
    (full : Bool) :
    Except ApiError PaidDmGate := do
  let validity : PaidEscrowValidityFilter :=
    { nowMs := services.now, paymentExpirationMs := services.paymentExpirationMs }
  match groupId with
  | none => evaluateSocialGate services sender principalOwner recipient full (.initial services)
  | some gid =>
    let sent ← fromStorage crates (storage.hasMessageFrom gid sender)
    let gate := { PaidDmGate.initial services with firstOutbound := !sent }
    if !full && !gate.firstOutbound then return gate
    let escrowFrom := fun payer =>
      fromStorage crates (storage.hasPaidEscrow gid payer recipient 0 (some validity))
    let paid ← orPrincipal id (escrowFrom sender) principalOwner escrowFrom
    let amountTo := fun payee =>
      fromStorage crates (storage.latestPaidEscrowAmount gid recipient payee (some validity))
    let peerAmount ← orPrincipal Option.isSome (amountTo sender) principalOwner amountTo
    let peerHasMessaged ← fromStorage crates (storage.hasMessageFrom gid recipient)
    let gate := { gate with
      paid := paid
      peerPaid := peerAmount.isSome
      peerEscrowAmount := peerAmount.map Int.toNat
      peerHasMessaged := peerHasMessaged }
    if !full && (gate.paid || gate.peerPaid || gate.peerHasMessaged) then return gate
    evaluateSocialGate services sender principalOwner recipient full gate

def checkPaidDmGate (crates : Crates) (services : Services) (app : AppState)
    (req : CreateMessageRequest) (prepared : PreparedMessage) (peer : Option String) :
    Except ApiError Unit :=
  match services.messageGateEnabled, peer with
  | true, some peer => do
    let gate ← evaluatePaidDmGate crates services app.storage (some req.groupId)
      req.senderAddress prepared.attribution.principalOwner peer false
    if gate.paymentRequired then .error (.paymentRequired gate.minCost peer)
  | _, _ => .ok ()

/-! ### Payment request links -/

/-- `0x` and at least 64 hex digits, without validation. -/
def normalizeAddress (addr : String) : String :=
  let digits :=
    match (Text.toAsciiLowercase (Text.trim addr)).toList with
    | '0' :: 'x' :: digits => digits
    | digits => digits
  String.ofList ('0' :: 'x' :: (List.replicate (64 - digits.length) '0' ++ digits))

def metaStr (message : Message) (key : String) : Option String :=
  message.metadata.bind fun value => (value.get key).bind Json.asStr

def requestLinkIsValid (storage : InMemoryStorage) (groupId sender : String)
    (requestMessageId : Uuid) : Bool :=
  match storage.getMessage requestMessageId with
  | .error _ => false
  | .ok request =>
    request.kind == .requestPayment && request.groupId == groupId &&
      Message.metadataStatus request.metadata == some "open" &&
      (metaStr request "payer").any fun payer => normalizeAddress payer == normalizeAddress sender

def resolveLink (app : AppState) (req : CreateMessageRequest)
    (transfer : Option TokenTransferCreate) : Option TokenTransferCreate :=
  transfer.map fun transfer =>
    match transfer.requestMessageId with
    | some requestId =>
      if requestLinkIsValid app.storage req.groupId req.senderAddress requestId then transfer
      else { transfer with requestMessageId := none }
    | none => transfer

/-- Open to paid, linking the fulfilling transfer; a failure is only logged. -/
def markRequestPaid (crates : Crates) (now : Timestamp) (storage : InMemoryStorage)
    (requestMessageId transferMessageId : Uuid) (digest : String) : InMemoryStorage :=
  (storage.updateMessageMetadataTrusted now requestMessageId
    (.obj [("status", .str "paid"),
      ("fulfilling_message_id", .str (crates.uuidToString transferMessageId)),
      ("fulfilled_digest", .str digest)]) ["open"]).2

/-! ### Notification envelopes -/

/-- One notification envelope: a device, and 1 to 4096 bytes of base64. -/
def checkEnvelope (crates : Crates) (envelope : NotificationEnvelopeRequest) :
    Except ApiError (String × Bytes) :=
  let deviceId := Text.trim envelope.deviceId
  if deviceId = "" then .error (.badRequest "notification_envelopes.device_id must not be empty")
  else
    let preview := Text.trim envelope.encryptedPreview
    if preview = "" then
      .error (.badRequest "notification_envelopes.encrypted_preview must not be empty")
    else
      match crates.decodeBase64 preview with
      | none => .error (.badRequest "notification_envelopes.encrypted_preview must be valid base64")
      | some bytes =>
        if bytes.isEmpty || 4096 < bytes.length then
          .error (.badRequest "notification envelope size must be 1..=4096 bytes")
        else .ok (deviceId, bytes)

def checkEnvelopes (crates : Crates) (envelopes : List NotificationEnvelopeRequest) :
    Except ApiError (List (String × Bytes)) :=
  envelopes.mapM (checkEnvelope crates)

/-! ## Storing a row -/

/-- The row a checked request becomes. -/
def buildMessage (crates : Crates) (services : Services) (auth : AuthContext)
    (req : CreateMessageRequest) (prepared : PreparedMessage) (signature : Bytes)
    (transfer : Option TokenTransferCreate) (paymentPeer : Option String) : Message :=
  let message :=
    { Message.withAttribution services.newId services.now req.groupId req.senderAddress
        prepared.encryptedMsg prepared.nonce req.keyVersion prepared.attachments signature
        auth.storedPublicKey prepared.attribution prepared.kind prepared.idempotencyKey with
      signatureVersion := req.signatureVersion }
  match transfer, prepared.requestCreate, paymentPeer with
  | some transfer, _, some peer =>
    message.withMetadata (tokenTransferMetadata crates.uuidToString transfer peer)
  | _, some request, some peer => message.withMetadata (paymentRequestMetadata request peer)
  | _, _, _ => message

/-- All checks between the epoch check and the storage call. -/
def checkMessage (crates : Crates) (services : Services) (auth : AuthContext)
    (req : CreateMessageRequest) (prepared : PreparedMessage) (app : AppState) :
    Except ApiError (Message × Option TokenTransferCreate) := do
  checkNotifyWallets req prepared
  let signature ← checkSignature crates auth req prepared
  checkAttribution services req prepared
  let peer := dmPeer services app req prepared.kind
  let paymentPeer ← checkPaymentPeer prepared peer
  let transfer := resolveLink app req prepared.transferCreate
  checkBlocked services req prepared peer
  checkPaidDmGate crates services app req prepared peer
  return (buildMessage crates services auth req prepared signature transfer paymentPeer, transfer)

/-- The answer to a duplicate idempotency key: the existing row, to its own sender. -/
def existingRow (crates : Crates) (req : CreateMessageRequest) (prepared : PreparedMessage)
    (storage : InMemoryStorage) : Except ApiError (StatusCode × Uuid) := do
  match prepared.idempotencyKey with
  | none => .error (.fromStorage crates.uuidToString .duplicateIdempotencyKey)
  | some key =>
    match ← fromStorage crates (storage.getMessageByIdempotencyKey key) with
    | none => .error (.fromStorage crates.uuidToString .duplicateIdempotencyKey)
    | some existing =>
      if existing.senderWalletAddr ≠ req.senderAddress then
        .error (.fromStorage crates.uuidToString .duplicateIdempotencyKey)
      else return (.ok, existing.id)

/-- Store the row, settle a linked payment request, then look at the envelopes. -/
def storeMessage (crates : Crates) (services : Services) (req : CreateMessageRequest)
    (prepared : PreparedMessage) (message : Message) (transfer : Option TokenTransferCreate) :
    Handler (StatusCode × Uuid) := fun app =>
  match app.storage.createMessage message with
  | (.error .duplicateIdempotencyKey, storage) =>
    check (existingRow crates req prepared storage) { app with storage }
  | (.error reason, storage) =>
    (.error (.fromStorage crates.uuidToString reason), { app with storage })
  | (.ok created, storage) =>
    let storage :=
      match transfer with
      | some transfer =>
        match transfer.requestMessageId with
        | some requestId =>
          markRequestPaid crates services.now storage requestId created.id transfer.digest
        | none => storage
      | none => storage
    match checkEnvelopes crates req.notificationEnvelopes with
    | .error reason => (.error reason, { app with storage })
    | .ok _ => (.ok (.created, created.id), { app with storage })

/-- `create_message` from the epoch check on. -/
def finishMessage (crates : Crates) (services : Services) (auth : AuthContext)
    (req : CreateMessageRequest) (prepared : PreparedMessage) :
    Handler (StatusCode × Uuid) := do
  let app ← Async.get
  let (message, transfer) ← check (checkMessage crates services auth req prepared app)
  storeMessage crates services req prepared message transfer

/-- `POST /messages`. -/
def createMessage (crates : Crates) (services : Services) (auth : AuthContext)
    (req : CreateMessageRequest) : Handler (StatusCode × Uuid) := do
  let prepared ← beginMessage crates req
  finishMessage crates services auth req prepared

/-! ## Editing and deleting -/

/-- The row a caller wants to change, if it is in the group the caller is authorised for. -/
def ownRow (crates : Crates) (auth : AuthContext) (id : Uuid) (app : AppState) :
    Except ApiError Message := do
  let existing ← fromStorage crates (app.storage.getMessage id)
  if auth.authorizedGroup ≠ some existing.groupId then
    .error (.forbidden "Message does not belong to the authorized group")
  if existing.isSystem then .error (.badRequest "System messages are immutable")
  return existing

/-- The checks of `PUT /messages`, and the new content. -/
def checkUpdate (crates : Crates) (auth : AuthContext) (req : UpdateMessageRequest)
    (app : AppState) : Except ApiError (Bytes × Bytes × List Attachment × Bytes) := do
  let existing ← ownRow crates auth req.messageId app
  if existing.kind = .post then .error (.badRequest "Post share messages are immutable")
  if existing.kind.isDmPaymentKind then .error (.badRequest "Payment messages are immutable")
  if existing.senderWalletAddr ≠ auth.senderAddress then
    .error (.forbidden "Only the original sender can edit this message")
  let encryptedMsg ← decodeHexField "Invalid hex in encrypted_text: " req.encryptedText
  let nonce ← decodeNonce req.nonce
  let attachments ← decodeAttachments req.attachments
  let signature ← verifyMessageSignature crates req.messageSignature req.groupId
    existing.kind.asStr req.encryptedText req.nonce req.keyVersion auth none none
    req.signatureVersion attachments existing.attribution
  return (encryptedMsg, nonce, attachments, signature)

/-- `PUT /messages`. -/
def updateMessage (crates : Crates) (now : Timestamp) (auth : AuthContext)
    (req : UpdateMessageRequest) : Handler PUnit := fun app =>
  match checkUpdate crates auth req app with
  | .error reason => (.error reason, app)
  | .ok (encryptedMsg, nonce, attachments, signature) =>
    match app.storage.updateMessage now req.messageId encryptedMsg nonce req.keyVersion
        attachments signature req.signatureVersion auth.storedPublicKey with
    | (.error reason, storage) =>
      (.error (.fromStorage crates.uuidToString reason), { app with storage })
    | (.ok _, storage) => (.ok ⟨⟩, { app with storage })

def checkDelete (crates : Crates) (auth : AuthContext) (id : Uuid) (app : AppState) :
    Except ApiError Unit := do
  let existing ← ownRow crates auth id app
  if existing.senderWalletAddr ≠ auth.senderAddress then
    .error (.forbidden "Only the original sender can delete this message")
  if existing.kind = .tokenTransfer then
    .error (.badRequest "Token transfer messages cannot be deleted")
  if existing.kind = .requestPayment ∧
      Message.metadataStatus existing.metadata = some "paid" then
    .error (.badRequest "A paid payment request cannot be deleted")

def deleteMessage (crates : Crates) (now : Timestamp) (auth : AuthContext) (id : Uuid) :
    Handler PUnit := fun app =>
  match checkDelete crates auth id app with
  | .error reason => (.error reason, app)
  | .ok () =>
    match app.storage.deleteMessage now id with
    | (.error reason, storage) =>
      (.error (.fromStorage crates.uuidToString reason), { app with storage })
    | (.ok _, storage) => (.ok ⟨⟩, { app with storage })

end MessagingStack.Relayer

import MessagingStack.Base.Async
import MessagingStack.Contract.Messaging
import MessagingStack.Sdk.TimelineFold

/-!
# The send path of the client

`client.ts`, the calls that write to a group: `sendMessage`, `editMessage`, `sendEvent`,
`addReaction`, `removeReaction`, `deleteMessage`.  Which protocol a call writes is decided
by the `e2ee` value of the group's on-chain metadata, which is read in two places.
`writesContentEnvelopeV2` chooses between the legacy calls and an envelope and takes every
failure for "not v2"; `#e2eeFlag` decides whether the envelope is wrapped by the MLS
session.  Both go through `groupsMetadata` of `view.ts`, which answers from a cache that
never expires, and leaves an object out whose read returned an error.
-/

namespace MessagingStack.Sdk.Send

open Contract

/-! ## Data -/

/-- The string functions of the runtime. -/
structure JsText where
  trim : String → String
  toLowerCase : String → String
  normalizeNfc : String → String

inductive MlsUnavailableReason where
  | noDevice
  | notJoined
  deriving DecidableEq

/-- What a call rejects with. -/
inductive SendError where
  /-- `Error` and `MySoMessagingStackClientError`, with their text. -/
  | message (text : String)
  | mlsGroupUnavailable (groupId : String) (reason : MlsUnavailableReason)
  | blockedMessaging
  /-- An awaited service rejected. -/
  | rejected
  deriving DecidableEq

inductive EnvelopeMessageType where
  | text
  | poll
  | post
  | tokenTransfer
  | requestPayment
  deriving DecidableEq

structure EnvelopeAttachment where
  id : String
  deriving DecidableEq

abbrev MessageEvent := Timeline.MessageEvent EnvelopeAttachment

inductive ContentEnvelope where
  | message (t : EnvelopeMessageType) (text : String) (att : Option (List EnvelopeAttachment))
  | event (e : MessageEvent)
  deriving DecidableEq

/-- The kinds the relayer tells apart. -/
inductive RelayerKind where
  | message
  | event
  | legacy (kind : EnvelopeMessageType)
  | post
  | tokenTransfer
  | requestPayment
  deriving DecidableEq

def relayerKindForEnvelope : ContentEnvelope → RelayerKind
  | .event _ => .event
  | .message .post .. => .post
  | .message .tokenTransfer .. => .tokenTransfer
  | .message .requestPayment .. => .requestPayment
  | .message .text .. => .message
  | .message .poll .. => .message

/-- What is encrypted: a legacy text, or an envelope. -/
inductive Plaintext where
  | text (text : String)
  | envelope (envelope : ContentEnvelope)
  deriving DecidableEq

/-- A ciphertext, by how it was made. -/
inductive Ciphertext where
  /-- `EnvelopeEncryption.encrypt`: under the DEK of a group's key version. -/
  | dek (groupId : String) (keyVersion : Nat) (data : Plaintext)
  | mls (wallet groupId : String) (sealed : Ciphertext)
  deriving DecidableEq

/-- A write request to the relayer. -/
inductive Request where
  /-- `sendMessage`. -/
  | row (groupId : String) (kind : RelayerKind) (encryptedText : Ciphertext)
      (idempotencyKey : Option String)
  | update (groupId messageId : String) (encryptedText : Ciphertext)
  | reaction (groupId : String) (chainSeq : Int) (emoji : String) (add : Bool)
  | delete (groupId messageId : String)
  deriving DecidableEq

/-! ## What a call runs in -/

/-- A group on the chain; its address is the one its uuid derives. -/
structure OnChainGroup (derive : String → String) where
  groupId : String
  metadata : Metadata
  derived : derive metadata.uuid = groupId

/-- How the read of a metadata object ends. -/
inductive MetadataReply where
  | served
  /-- The node answers, with an error in place of the object. -/
  | errorEntry
  | rejected
  | crashed
  deriving DecidableEq

/-- A call of `groupsMetadata`: whether the cache has been refreshed by another call just
before, and how the node answers if it is asked. -/
structure MetadataRead where
  refreshed : Bool
  reply : MetadataReply
  deriving DecidableEq

structure Call where
  metadataCache : OrderedMap String Metadata
  reads : List MetadataRead
  requests : List Request

def Call.start (metadataCache : OrderedMap String Metadata) (reads : List MetadataRead) : Call where
  metadataCache := metadataCache
  reads := reads
  requests := []

/-- How the services answer in a call. -/
structure Answers where
  members : Outcome SendError (List String)
  checkEitherBlocked : Outcome SendError Bool
  currentKeyVersion : Outcome SendError Nat
  encrypt : Outcome SendError Unit
  upload : Outcome SendError (List EnvelopeAttachment)
  ensureGroup : Outcome SendError Bool
  onChainReaders : Outcome SendError (List String)
  sealRow : Outcome SendError Unit
  sign : Outcome SendError Unit
  /-- The relayer's reply to the row, the update or the reaction of the call. -/
  transport : Outcome SendError Unit
  fetchMessage : Outcome SendError (Option EnvelopeMessageType)
  storeOwn : Outcome SendError Unit
  deleteMessage : Outcome SendError Unit

/-- The client, with a group and the answers it gets. -/
structure Setting where
  text : JsText
  /-- `derive.groupId`. -/
  derive : String → String
  group : OnChainGroup derive
  /-- Whether attachments are configured. -/
  attachments : Bool
  blockGating : Bool
  mlsSessions : List String
  answers : Answers

/-- A call that may reject. -/
abbrev Program := Async SendError Call

def await {α : Type} (answer : Outcome SendError α) : Program α := fun call => (answer, call)

/-- Send a request to the relayer and await its reply. -/
def request (request : Request) (answer : Outcome SendError Unit) : Program Unit := do
  Async.modify fun call => { call with requests := call.requests ++ [request] }
  await answer

variable (setting : Setting)

/-! ## Reading the protocol -/

/-- `groupsMetadata` for one group, given the cache: what it returns, and the cache after. -/
def readMetadata (cache : OrderedMap String Metadata) (refresh : Bool) (read : MetadataRead) :
    Outcome SendError (Option Metadata) × OrderedMap String Metadata :=
  let cache := if read.refreshed then cache.insert setting.group.groupId setting.group.metadata
    else cache
  match if refresh then none else cache.get setting.group.groupId with
  | some cached => (.ok (some cached), cache)
  | none =>
    match read.reply with
    | .served =>
      let groupId := setting.derive setting.group.metadata.uuid
      let cache := cache.insert groupId setting.group.metadata
      (.ok (if groupId = setting.group.groupId then some setting.group.metadata else none), cache)
    -- `if (obj instanceof Error) continue`
    | .errorEntry => (.ok none, cache)
    | .rejected => (.error .rejected, cache)
    | .crashed => (.crash, cache)

def groupsMetadata (refresh : Bool) : Program (Option Metadata) := fun call =>
  match call.reads with
  | [] => (.crash, call)
  | read :: rest =>
    let result := readMetadata setting call.metadataCache refresh read
    (result.1, { call with metadataCache := result.2, reads := rest })

/-- `data.contents.find((c) => c.key === 'e2ee')?.value`. -/
def e2eeValue (metadata : Option Metadata) : Option String := metadata.bind (·.data.get "e2ee")

/-- Whether an `e2ee` value is that of a group that writes envelopes. -/
def isEnvelopeFlag (flag : Option String) : Bool := flag == some "v2" || flag == some "mls1"

def writesContentEnvelopeV2 : Program Bool :=
  Async.tryCatch
    (do
      let metadata ← groupsMetadata setting false
      return isEnvelopeFlag (e2eeValue metadata))
    fun _ => pure false

def e2eeFlag : Program (Option String) := do
  let metadata ← groupsMetadata setting false
  return e2eeValue metadata

/-- The session of a wallet, in the group. -/
def joinedSession (senderAddress : String) : Program String := do
  let wallet := setting.text.toLowerCase senderAddress
  if wallet ∉ setting.mlsSessions then
    Async.throw (.mlsGroupUnavailable setting.group.groupId .noDevice)
  else
    let joined ← await setting.answers.ensureGroup
    if joined then return wallet
    else Async.throw (.mlsGroupUnavailable setting.group.groupId .notJoined)

def senderMlsSession (senderAddress : String) : Program (Option String) := do
  let flag ← e2eeFlag setting
  if flag ≠ some "mls1" then return none
  else
    let wallet ← joinedSession setting senderAddress
    return some wallet

/-! ## Envelopes -/

def rowText (sealed : Ciphertext) (sender : Option String) : Program Ciphertext :=
  match sender with
  | none => pure sealed
  | some wallet => do
    let _ ← await setting.answers.onChainReaders
    await setting.answers.sealRow
    return .mls wallet setting.group.groupId sealed

/-- Keep the readable copy of a row that was wrapped. -/
def storeOwnCopy (sender : Option String) : Program Unit :=
  match sender with
  | none => pure ()
  | some _ => do
    let _ ← await setting.answers.fetchMessage
    await setting.answers.storeOwn

/-- The rest of `#sendEnvelope`, with the session of the sender: sign and post the row. -/
def postEnvelope (kind : RelayerKind) (sealed : Ciphertext) (idempotencyKey : Option String)
    (sender : Option String) : Program Unit := do
  let encryptedText ← rowText setting sealed sender
  await setting.answers.sign
  request (.row setting.group.groupId kind encryptedText idempotencyKey) setting.answers.transport
  storeOwnCopy setting sender

def sendEnvelope (senderAddress : String) (envelope : ContentEnvelope)
    (idempotencyKey : Option String) : Program Unit := do
  let kind := relayerKindForEnvelope envelope
  let keyVersion ← await setting.answers.currentKeyVersion
  await setting.answers.encrypt
  let sealed := Ciphertext.dek setting.group.groupId keyVersion (.envelope envelope)
  let sender ← senderMlsSession setting senderAddress
  postEnvelope setting kind sealed idempotencyKey sender

def sendEvent (senderAddress : String) (event : MessageEvent) : Program Unit :=
  sendEnvelope setting senderAddress (.event event) none

def uploadFiles : Program (List EnvelopeAttachment) :=
  if setting.attachments then await setting.answers.upload
  else Async.throw (.message "Attachments support is not configured.")

/-! ## `sendMessage` -/

/-- `SendMessageOptions`, with the address the relayer knows the signer by. -/
structure SendMessageOptions where
  senderAddress : String
  text : Option String
  files : Nat
  kind : Option EnvelopeMessageType
  idempotencyKey : Option String
  paymentMetadata : Option (Option String)
  sharedPostAddress : Option String
  deriving DecidableEq

def normalizeSharedPostAddress (raw : Option String) : Option String :=
  let trimmed := setting.text.toLowerCase (setting.text.trim (raw.getD ""))
  match trimmed.toList with
  | '0' :: 'x' :: hex =>
    if hex.isEmpty || 64 < hex.length ||
        !hex.all fun c => ('0' ≤ c && c ≤ '9') || ('a' ≤ c && c ≤ 'f') then none
    else some (String.ofList ('0' :: 'x' :: (List.replicate (64 - hex.length) '0' ++ hex)))
  | _ => none

def transferIdempotencyKey (senderAddress digest : String) : String :=
  "transfer:" ++ setting.text.toLowerCase senderAddress ++ ":" ++ digest

def isBlank (value : Option String) : Bool := setting.text.trim (value.getD "") == ""

/-- What is wrong with the fields a payment message needs. -/
def paymentError (options : SendMessageOptions) (kind : EnvelopeMessageType) :
    Option SendError :=
  match kind with
  | .tokenTransfer =>
    let digest := options.paymentMetadata.bind id
    if isBlank setting digest then
      some (.message "paymentMetadata.digest is required when kind is token_transfer")
    else if options.idempotencyKey ≠
        some (transferIdempotencyKey setting options.senderAddress
          (setting.text.trim (digest.getD ""))) then
      some (.message "idempotencyKey must be transferIdempotencyKey(sender, digest)")
    else none
  | .requestPayment =>
    if options.paymentMetadata.isNone then
      some (.message "paymentMetadata.assetKind is required when kind is request_payment")
    else if !(options.idempotencyKey.any fun key => "request:".toList.isPrefixOf key.toList) then
      some (.message "idempotencyKey must start with \"request:\" when kind is request_payment")
    else none
  | _ => none

/-- The checks of the legacy path. -/
def legacyKindError (options : SendMessageOptions) : Option SendError :=
  let kind := options.kind.getD .text
  if kind = .post ∧ normalizeSharedPostAddress setting options.sharedPostAddress = none then
    some (.message "sharedPostAddress is required when kind is post")
  else if kind = .post ∧ isBlank setting options.idempotencyKey then
    some (.message "idempotencyKey is required when kind is post")
  else paymentError setting options kind

def envelopeKindError (options : SendMessageOptions) : Option SendError :=
  let kind := options.kind.getD .text
  if kind = .post ∧ (normalizeSharedPostAddress setting options.sharedPostAddress = none ∨
      isBlank setting options.idempotencyKey) then
    some (.message "sharedPostAddress and idempotencyKey are required when kind is post")
  else paymentError setting options kind

def check : Option SendError → Program Unit
  | some error => Async.throw error
  | none => pure ()

def inputError (options : SendMessageOptions) : Option SendError :=
  if (options.text = none ∨ options.text = some "") ∧ options.files = 0 then
    some (.message "sendMessage requires at least one of `text` or `files`.")
  else none

def assertDmNotBlocked (senderAddress : String) : Program Unit :=
  if !setting.blockGating then pure ()
  else do
    let members ← await setting.answers.members
    if (members.filter (· ≠ senderAddress)).length ≠ 1 then return ()
    else
      let blocked ← await setting.answers.checkEitherBlocked
      check (if blocked then some .blockedMessaging else none)

/-- The attachments of `#sendMessageV2`. -/
def envelopeAttachments (files : Nat) : Program (Option (List EnvelopeAttachment)) :=
  if 0 < files then do
    let att ← uploadFiles setting
    return some att
  else return none

def sendMessageV2 (options : SendMessageOptions) : Program Unit := do
  let att ← envelopeAttachments setting options.files
  check (envelopeKindError setting options)
  sendEnvelope setting options.senderAddress
    (.message (options.kind.getD .text) (options.text.getD "") att) options.idempotencyKey

def legacyAttachments (files : Nat) : Program Unit :=
  if 0 < files then do
    let _ ← uploadFiles setting
    return ()
  else return ()

def sendMessageLegacy (options : SendMessageOptions) : Program Unit := do
  let keyVersion ← await setting.answers.currentKeyVersion
  await setting.answers.encrypt
  legacyAttachments setting options.files
  check (legacyKindError setting options)
  await setting.answers.sign
  request (.row setting.group.groupId (.legacy (options.kind.getD .text))
    (.dek setting.group.groupId keyVersion (.text (options.text.getD ""))) options.idempotencyKey)
    setting.answers.transport

def sendMessage (options : SendMessageOptions) : Program Unit := do
  check (inputError options)
  assertDmNotBlocked setting options.senderAddress
  let envelopes ← writesContentEnvelopeV2 setting
  if envelopes then sendMessageV2 setting options else sendMessageLegacy setting options

/-! ## `editMessage` -/

structure EditAttachments where
  currentEnvelope : List EnvelopeAttachment
  remove : List String
  new : Nat
  deriving DecidableEq

structure EditMessageOptions where
  senderAddress : String
  messageId : String
  text : String
  attachments : Option EditAttachments
  deriving DecidableEq

def editedAttachments (attachments : Option EditAttachments) :
    Program (Option (List EnvelopeAttachment)) :=
  match attachments with
  | none => return none
  | some changes => do
    let kept := changes.currentEnvelope.filter fun attachment => attachment.id ∉ changes.remove
    let added ← envelopeAttachments setting changes.new
    return some (kept ++ added.getD [])

def editMessageV2 (options : EditMessageOptions) : Program Unit := do
  let att ← editedAttachments setting options.attachments
  sendEnvelope setting options.senderAddress
    (.event (.edit options.messageId options.text att)) none

def editMessageLegacy (options : EditMessageOptions) : Program Unit := do
  let _ ← await setting.answers.fetchMessage
  let keyVersion ← await setting.answers.currentKeyVersion
  await setting.answers.encrypt
  legacyAttachments setting ((options.attachments.map (·.new)).getD 0)
  await setting.answers.sign
  request (.update setting.group.groupId options.messageId
    (.dek setting.group.groupId keyVersion (.text options.text))) setting.answers.transport

def editMessage (options : EditMessageOptions) : Program Unit := do
  let envelopes ← writesContentEnvelopeV2 setting
  if envelopes then editMessageV2 setting options else editMessageLegacy setting options

/-! ## Reactions and deletions -/

structure ReactionOptions where
  senderAddress : String
  /-- The order of the message, which the legacy call names it by. -/
  order : Int
  messageId : Option String
  emoji : String
  deriving DecidableEq

def emojiToStorage (emoji : String) : Except SendError String :=
  let normalized := setting.text.normalizeNfc emoji
  if normalized = "" then .error (.message "Emoji cannot be empty") else .ok normalized

/-- Go on with the emoji, or reject. -/
def withEmoji (emoji : String) (next : String → Program Unit) : Program Unit :=
  match emojiToStorage setting emoji with
  | .error error => Async.throw error
  | .ok normalized => next normalized

/-- `#reactV2` once the group is known to write envelopes; an empty id counts as none. -/
def reactV2 (options : ReactionOptions) (add : Bool) : Program Unit :=
  match options.messageId.filter (· ≠ "") with
  | none => Async.throw (.message "messageId is required to react in a content-envelope-v2 group")
  | some messageId =>
    withEmoji setting options.emoji fun emoji =>
      sendEvent setting options.senderAddress (.reaction messageId emoji add)

def reactLegacy (options : ReactionOptions) (add : Bool) : Program Unit :=
  withEmoji setting options.emoji fun emoji =>
    request (.reaction setting.group.groupId options.order emoji add) setting.answers.transport

def react (options : ReactionOptions) (add : Bool) : Program Unit := do
  let envelopes ← writesContentEnvelopeV2 setting
  if envelopes then reactV2 setting options add else reactLegacy setting options add

def addReaction (options : ReactionOptions) : Program Unit := react setting options true

def removeReaction (options : ReactionOptions) : Program Unit := react setting options false

def deleteRow (messageId : String) : Program Unit :=
  request (.delete setting.group.groupId messageId) setting.answers.deleteMessage

/-- The event that tells the other devices. -/
def deleteEvent (senderAddress messageId : String) (envelopes : Bool) : Program Unit :=
  if envelopes then sendEnvelope setting senderAddress (.event (.delete messageId)) none
  else pure ()

def deleteMessage (senderAddress messageId : String) : Program Unit := do
  let envelopes ← writesContentEnvelopeV2 setting
  deleteEvent setting senderAddress messageId envelopes
  deleteRow setting messageId

/-! ## The calls together -/

/-- A call that writes to the group. -/
inductive EntryPoint where
  | sendMessage (options : SendMessageOptions)
  | editMessage (options : EditMessageOptions)
  | sendEvent (senderAddress : String) (event : MessageEvent)
  | addReaction (options : ReactionOptions)
  | removeReaction (options : ReactionOptions)
  | deleteMessage (senderAddress messageId : String)
  deriving DecidableEq

def EntryPoint.run : EntryPoint → Program Unit
  | .sendMessage options => Send.sendMessage setting options
  | .editMessage options => Send.editMessage setting options
  | .sendEvent senderAddress event => Send.sendEvent setting senderAddress event
  | .addReaction options => Send.addReaction setting options
  | .removeReaction options => Send.removeReaction setting options
  | .deleteMessage senderAddress messageId => Send.deleteMessage setting senderAddress messageId

end MessagingStack.Sdk.Send

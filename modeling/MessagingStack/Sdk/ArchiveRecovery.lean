import MessagingStack.Sdk.SignedRows

/-!
# A row out of the archive

The second way of a row to a client: `archive/sync.rs` serialises it, `archive/r2.rs` stores it with
its key, `archive/read.rs` reads it back, and `recovery/file-storage-message.ts` makes a
`RelayerMessage` of it.  No recovered row is the live row (`recovered_differs`), and apart from the
signature and the key it is just for a text without attribution whose edit flag says what its time
stamps say (`agreesApart_iff`).
-/

namespace MessagingStack.Sdk.ArchiveRecovery

open Relayer (Timestamp Uuid SyncStatus MessageKind MessageAttribution MessageResponse)

/-! ## The archive -/

/-- The texts of identifiers and times. -/
structure WireTexts where
  /-- A UUID in a JSON value. -/
  uuid : Uuid → String
  /-- `DateTime<Utc>` in a JSON value. -/
  rfc3339 : Timestamp → String
  /-- `new Date(text).getTime()`, in milliseconds; `none` is `NaN`. -/
  getTime : String → Option Int

/-- A byte vector: a list of numbers. -/
def bytesJson (bytes : Bytes) : Json := .arr (bytes.map fun byte => .num byte.toNat)

/-- An optional value. -/
def optionJson {α : Type} (write : α → Json) : Option α → Json
  | some value => write value
  | none => .null

def attachmentJson (attachment : Relayer.Attachment) : Json :=
  .obj
    [("storage_id", .str attachment.storageId),
      ("nonce", bytesJson attachment.nonce),
      ("encrypted_metadata", bytesJson attachment.encryptedMetadata),
      ("metadata_nonce", bytesJson attachment.metadataNonce)]

def attributionJson (attribution : MessageAttribution) : Json :=
  .obj
    [("principal_owner", optionJson .str attribution.principalOwner),
      ("sub_agent_id", optionJson .str attribution.subAgentId),
      ("identity_class", optionJson .num attribution.identityClass),
      ("attribution_version", .num attribution.attributionVersion)]

section Archive

variable (texts : WireTexts)

/-- `serde_json::to_vec` of a row, with the derived names of its fields. -/
def messageJson (row : Relayer.Message) : Json :=
  .obj
    [("id", .str (texts.uuid row.id)),
      ("group_id", .str row.groupId),
      ("order", optionJson .num row.order),
      ("sender_wallet_addr", .str row.senderWalletAddr),
      ("encrypted_msg", bytesJson row.encryptedMsg),
      ("nonce", bytesJson row.nonce),
      ("key_version", .num row.keyVersion),
      ("created_at", .str (texts.rfc3339 row.createdAt)),
      ("updated_at", .str (texts.rfc3339 row.updatedAt)),
      ("is_edited", .bool row.isEdited),
      ("sync_status", .str row.syncStatus.display),
      ("quilt_patch_id", optionJson .str row.quiltPatchId),
      ("attachments", .arr (row.attachments.map attachmentJson)),
      ("signature", bytesJson row.signature),
      ("signature_version", .num row.signatureVersion),
      ("public_key", bytesJson row.publicKey),
      ("attribution", attributionJson row.attribution),
      ("kind", .str row.kind.asStr),
      ("system_type", optionJson (fun systemType => .str systemType.asStr) row.systemType),
      ("metadata", optionJson id row.metadata),
      ("idempotency_key", optionJson .str row.idempotencyKey)]

/-- One message payload to archive, with the tags the backend reads. -/
structure ArchiveItem where
  messageId : Uuid
  payload : Json
  groupId : String
  syncStatus : String
  order : Option Int

def archiveItem (row : Relayer.Message) (toStatus : SyncStatus) : ArchiveItem where
  messageId := row.id
  payload := messageJson texts { row with syncStatus := toStatus }
  groupId := row.groupId
  syncStatus := toStatus.display
  order := row.order

def r2ObjectKey (namespace_ groupId : String) (messageId : Uuid) : String :=
  namespace_ ++ "/groups/" ++ groupId ++ "/msg-" ++ texts.uuid messageId ++ ".json"

def stampQuiltPatchId (payload : Json) (archiveRef : String) : Json :=
  match payload with
  | .obj fields => .obj (Json.insertField fields "quilt_patch_id" (.str archiveRef))
  | other => other

structure ArchiveIndexRow where
  namespace_ : String
  groupId : String
  messageId : Uuid
  msgOrder : Option Int
  syncStatus : String
  r2Key : String
  deriving DecidableEq

/-- The bucket and the index over it. -/
structure Archive where
  objects : String → Option Json
  index : List ArchiveIndexRow

/-- `upsert`: one row a namespace, group and message. -/
def upsert (index : List ArchiveIndexRow) (row : ArchiveIndexRow) : List ArchiveIndexRow :=
  index.filter (fun other => ¬(other.namespace_ = row.namespace_ ∧ other.groupId = row.groupId ∧
    other.messageId = row.messageId)) ++ [row]

theorem length_upsert_le (index : List ArchiveIndexRow) (row : ArchiveIndexRow) :
    (upsert index row).length ≤ index.length + 1 := by
  rw [upsert, List.length_append, List.length_singleton]
  exact Nat.add_le_add_right (List.length_filter_le _ _) 1

def storeItem (namespace_ : String) (archive : Archive) (item : ArchiveItem) : Archive :=
  let key := r2ObjectKey texts namespace_ item.groupId item.messageId
  { objects := fun other =>
      if other = key then some (stampQuiltPatchId item.payload key) else archive.objects other
    index := upsert archive.index
      { namespace_, groupId := item.groupId, messageId := item.messageId, msgOrder := item.order
        syncStatus := item.syncStatus, r2Key := key } }

/-- The rows `list_for_group` selects, before order and limit. -/
def selected (archive : Archive) (namespace_ groupId : String)
    (afterOrder beforeOrder : Option Int) : List ArchiveIndexRow :=
  archive.index.filter fun row =>
    row.namespace_ = namespace_ ∧ row.groupId = groupId ∧
      row.syncStatus ≠ "DELETED" ∧ row.syncStatus ≠ "DELETE_PENDING" ∧
      (∀ after ∈ afterOrder, after < row.msgOrder.getD 0) ∧
      (∀ before ∈ beforeOrder, row.msgOrder.getD 0 < before)

/-- `list_messages`: a page of the index, and the values of its rows that are there. -/
def listMessages (archive : Archive) (namespace_ groupId : String)
    (afterOrder beforeOrder : Option Int) (limit : Nat) : List Json × Bool :=
  let sorted := (selected archive namespace_ groupId afterOrder beforeOrder).mergeSort
    fun left right => decide (left.msgOrder.getD 0 ≤ right.msgOrder.getD 0)
  let rows := sorted.take (limit + 1)
  ((rows.take limit).filterMap fun row => archive.objects row.r2Key, decide (limit < rows.length))

def archivedValue (namespace_ : String) (row : Relayer.Message) (toStatus : SyncStatus) : Json :=
  stampQuiltPatchId (messageJson texts { row with syncStatus := toStatus })
    (r2ObjectKey texts namespace_ row.groupId row.id)

end Archive

/-! ## The converter -/

/-- `bytesToHex`: every byte in two digits. -/
def bytesToHex (bytes : Bytes) : String :=
  String.ofList (bytes.flatMap fun byte =>
    let digits := Nat.toDigits 16 byte.toNat
    List.replicate (2 - digits.length) '0' ++ digits)

/-- The bytes of a list of numbers; `serde` writes byte vectors in no other shape. -/
def byteList : Json → Option Bytes
  | .arr items => items.mapM fun
    | .num value => some (UInt8.ofNat value.toNat)
    | _ => none
  | _ => none

/-- An integer. -/
def asNum : Json → Option Int
  | .num value => some value
  | _ => none

/-- `value ?? undefined`. -/
def nullish : Option Json → Option Json
  | some .null => none
  | value => value

def mapAttachment (wire : Json) : Option Verification.Attachment := do
  let storageId ← (wire.get "storage_id").bind Json.asStr
  let nonce ← (wire.get "nonce").bind byteList
  let encryptedMetadata ← (wire.get "encrypted_metadata").bind byteList
  let metadataNonce ← (wire.get "metadata_nonce").bind byteList
  return {
    storageId := storageId
    nonce := bytesToHex nonce
    encryptedMetadata := bytesToHex encryptedMetadata
    metadataNonce := bytesToHex metadataNonce }

def mapAttachments : Json → Option (List Verification.Attachment)
  | .arr items => items.mapM mapAttachment
  | _ => none

/-- What `fromFileStorageMessage` makes: a `RelayerMessage` by its type.  A field that is
copied without a conversion holds whatever value the archive has there. -/
structure RecoveredMessage where
  messageId : Option Json
  groupId : Option Json
  order : Json
  encryptedText : Bytes
  nonce : Bytes
  keyVersion : Int
  senderAddress : Option Json
  createdAt : Option Int
  updatedAt : Option Int
  attachments : List Verification.Attachment
  isEdited : Bool
  isDeleted : Bool
  syncStatus : Option Json
  quiltPatchId : Option Json
  signature : Json
  signatureVersion : Option Json
  publicKey : Json
  principalOwner : Option Json
  subAgentId : Option Json
  identityClass : Option Int
  isAgentMessage : Bool
  kind : MessageKind

section Converter

variable (texts : WireTexts)

/-- `Math.floor(new Date(text).getTime() / 1000)`. -/
def seconds (value : Option Json) : Option Int :=
  ((value.bind Json.asStr).bind texts.getTime).map (· / 1000)

def fromFileStorageMessage (wire : Json) : Option RecoveredMessage := do
  let encryptedText ← (wire.get "encrypted_msg").bind byteList
  let nonce ← (wire.get "nonce").bind byteList
  let keyVersion ← (wire.get "key_version").bind asNum
  let attachments ← (wire.get "attachments").bind mapAttachments
  let status := (wire.get "sync_status").bind Json.asStr
  return {
    messageId := wire.get "id"
    groupId := wire.get "group_id"
    order := (nullish (wire.get "order")).getD (.num 0)
    encryptedText := encryptedText
    nonce := nonce
    keyVersion := keyVersion
    senderAddress := wire.get "sender_wallet_addr"
    createdAt := seconds texts (wire.get "created_at")
    updatedAt := seconds texts (wire.get "updated_at")
    attachments := attachments
    isEdited := (wire.get "created_at").bind Json.asStr != (wire.get "updated_at").bind Json.asStr
    isDeleted := status == some "DELETE_PENDING" || status == some "DELETED"
    syncStatus := wire.get "sync_status"
    quiltPatchId := wire.get "quilt_patch_id"
    signature := (nullish (wire.get "signature")).getD (.str "")
    signatureVersion := wire.get "signature_version"
    publicKey := (nullish (wire.get "public_key")).getD (.str "")
    principalOwner := nullish (wire.get "principal_owner")
    subAgentId := nullish (wire.get "sub_agent_id")
    identityClass := ((wire.get "identity_class").bind asNum).filter fun value =>
      value = 0 ∨ value = 1 ∨ value = 2
    isAgentMessage := (nullish (wire.get "principal_owner")).isSome ||
      (nullish (wire.get "sub_agent_id")).isSome || (nullish (wire.get "identity_class")).isSome
    kind := .text }

/-! ### What it makes of a row -/

theorem hexDigits_eq : ∀ value < 256,
    List.replicate (2 - (Nat.toDigits 16 value).length) '0' ++ Nat.toDigits 16 value =
      [Hex.digit (UInt8.ofNat value / 16), Hex.digit (UInt8.ofNat value % 16)] := by
  decide +kernel

theorem bytesToHex_eq (bytes : Bytes) : bytesToHex bytes = Hex.encode bytes := by
  have each : ∀ byte : UInt8,
      List.replicate (2 - (Nat.toDigits 16 byte.toNat).length) '0' ++ Nat.toDigits 16 byte.toNat =
        [Hex.digit (byte / 16), Hex.digit (byte % 16)] := by
    intro byte
    have digits := hexDigits_eq byte.toNat byte.toNat_lt
    rwa [UInt8.ofNat_toNat] at digits
  simp only [bytesToHex, Hex.encode, each]

theorem byteList_bytesJson (bytes : Bytes) : byteList (bytesJson bytes) = some bytes := by
  induction bytes with
  | nil => rfl
  | cons byte rest ih =>
    simp only [byteList, bytesJson] at ih
    simp only [byteList, bytesJson, List.map_cons, List.mapM_cons, ih, Int.toNat_natCast,
      UInt8.ofNat_toNat, bind, Option.bind_some, pure]

theorem mapAttachment_attachmentJson (attachment : Relayer.Attachment) :
    mapAttachment (attachmentJson attachment) =
      some (Verification.fromWireAttachment (.ofAttachment attachment)) := by
  have fields : ∀ key ∈ ["nonce", "encrypted_metadata", "metadata_nonce"],
      ((attachmentJson attachment).get key).bind byteList = some (match key with
        | "nonce" => attachment.nonce
        | "encrypted_metadata" => attachment.encryptedMetadata
        | _ => attachment.metadataNonce) := by
    intro key listed
    simp only [List.mem_cons, List.not_mem_nil, or_false] at listed
    rcases listed with rfl | rfl | rfl <;> exact byteList_bytesJson _
  have storage : ((attachmentJson attachment).get "storage_id").bind Json.asStr =
      some attachment.storageId := rfl
  simp only [mapAttachment, storage, fields "nonce" (by decide),
    fields "encrypted_metadata" (by decide), fields "metadata_nonce" (by decide), bytesToHex_eq,
    bind, Option.bind_some, pure]
  rfl

theorem mapAttachments_json (attachments : List Relayer.Attachment) :
    mapAttachments (.arr (attachments.map attachmentJson)) =
      some (attachments.map fun attachment =>
        Verification.fromWireAttachment (.ofAttachment attachment)) := by
  induction attachments with
  | nil => rfl
  | cons attachment rest ih =>
    simp only [mapAttachments] at ih
    simp only [mapAttachments, List.map_cons, List.mapM_cons, mapAttachment_attachmentJson, ih,
      bind, Option.bind_some, pure]

/-- The row the converter makes of an archived row. -/
def recoveredRow (namespace_ : String) (row : Relayer.Message) (toStatus : SyncStatus) :
    RecoveredMessage where
  messageId := some (.str (texts.uuid row.id))
  groupId := some (.str row.groupId)
  order := .num (row.order.getD 0)
  encryptedText := row.encryptedMsg
  nonce := row.nonce
  keyVersion := row.keyVersion
  senderAddress := some (.str row.senderWalletAddr)
  createdAt := (texts.getTime (texts.rfc3339 row.createdAt)).map (· / 1000)
  updatedAt := (texts.getTime (texts.rfc3339 row.updatedAt)).map (· / 1000)
  attachments := row.attachments.map fun attachment =>
    Verification.fromWireAttachment (.ofAttachment attachment)
  isEdited := texts.rfc3339 row.createdAt != texts.rfc3339 row.updatedAt
  isDeleted := toStatus == .deletePending || toStatus == .deleted
  syncStatus := some (.str toStatus.display)
  quiltPatchId := some (.str (r2ObjectKey texts namespace_ row.groupId row.id))
  signature := bytesJson row.signature
  signatureVersion := some (.num row.signatureVersion)
  publicKey := bytesJson row.publicKey
  principalOwner := none
  subAgentId := none
  identityClass := none
  isAgentMessage := false
  kind := .text

variable (namespace_ : String) (row : Relayer.Message) (toStatus : SyncStatus)

/-- The stamp leaves every other field as it was written. -/
theorem get_archivedValue {key : String} (other : key ≠ "quilt_patch_id") :
    (archivedValue texts namespace_ row toStatus).get key =
      (messageJson texts { row with syncStatus := toStatus }).get key := by
  rw [archivedValue, messageJson, stampQuiltPatchId, Json.get, Json.lookup_insertField,
    if_neg other, Json.get]

theorem get_quiltPatchId :
    (archivedValue texts namespace_ row toStatus).get "quilt_patch_id" =
      some (.str (r2ObjectKey texts namespace_ row.groupId row.id)) := by
  rw [archivedValue, messageJson, stampQuiltPatchId, Json.get, Json.lookup_insertField, if_pos rfl]

/-- **What the converter makes of a row.** -/
theorem fromFileStorageMessage_archivedValue :
    fromFileStorageMessage texts (archivedValue texts namespace_ row toStatus) =
      some (recoveredRow texts namespace_ row toStatus) := by
  generalize isWire : archivedValue texts namespace_ row toStatus = wire
  have written : ∀ {key : String} {value : Json}, key ≠ "quilt_patch_id" →
      (messageJson texts { row with syncStatus := toStatus }).get key = some value →
        wire.get key = some value := by
    intro key value other isValue
    rw [← isWire, get_archivedValue texts namespace_ row toStatus other, isValue]
  have missing : ∀ {key : String}, key ≠ "quilt_patch_id" →
      (messageJson texts { row with syncStatus := toStatus }).get key = none →
        wire.get key = none := by
    intro key other isMissing
    rw [← isWire, get_archivedValue texts namespace_ row toStatus other, isMissing]
  have stamp : wire.get "quilt_patch_id" =
      some (.str (r2ObjectKey texts namespace_ row.groupId row.id)) := by
    rw [← isWire, get_quiltPatchId]
  have encrypted : wire.get "encrypted_msg" = some (bytesJson row.encryptedMsg) :=
    written (by decide) rfl
  have nonce : wire.get "nonce" = some (bytesJson row.nonce) := written (by decide) rfl
  have version : wire.get "key_version" = some (.num row.keyVersion) := written (by decide) rfl
  have attachments : wire.get "attachments" = some (.arr (row.attachments.map attachmentJson)) :=
    written (by decide) rfl
  have id : wire.get "id" = some (.str (texts.uuid row.id)) := written (by decide) rfl
  have group : wire.get "group_id" = some (.str row.groupId) := written (by decide) rfl
  have order : wire.get "order" = some (optionJson .num row.order) := written (by decide) rfl
  have sender : wire.get "sender_wallet_addr" = some (.str row.senderWalletAddr) :=
    written (by decide) rfl
  have created : wire.get "created_at" = some (.str (texts.rfc3339 row.createdAt)) :=
    written (by decide) rfl
  have updated : wire.get "updated_at" = some (.str (texts.rfc3339 row.updatedAt)) :=
    written (by decide) rfl
  have status : wire.get "sync_status" = some (.str toStatus.display) := written (by decide) rfl
  have signature : wire.get "signature" = some (bytesJson row.signature) := written (by decide) rfl
  have signatureVersion : wire.get "signature_version" = some (.num row.signatureVersion) :=
    written (by decide) rfl
  have publicKey : wire.get "public_key" = some (bytesJson row.publicKey) := written (by decide) rfl
  -- The attribution is one level down, under a name the converter does not read.
  have principal : wire.get "principal_owner" = none := missing (by decide) rfl
  have agent : wire.get "sub_agent_id" = none := missing (by decide) rfl
  have identity : wire.get "identity_class" = none := missing (by decide) rfl
  have statuses : (some toStatus.display == some "DELETE_PENDING" ||
      some toStatus.display == some "DELETED") =
        (toStatus == .deletePending || toStatus == .deleted) := by
    cases toStatus <;> decide
  have orders : (nullish (some (optionJson Json.num row.order))).getD (.num 0) =
      .num (row.order.getD 0) := by
    cases row.order <;> rfl
  have times : (some (texts.rfc3339 row.createdAt) != some (texts.rfc3339 row.updatedAt)) =
      (texts.rfc3339 row.createdAt != texts.rfc3339 row.updatedAt) := rfl
  simp only [fromFileStorageMessage, stamp, encrypted, nonce, version, attachments, id, group,
    order, sender, created, updated, status, signature, signatureVersion, publicKey, principal,
    agent, identity, Option.bind_some, byteList_bytesJson, mapAttachments_json, asNum,
    Json.asStr, bind, pure, statuses, orders, times]
  rfl

end Converter

/-! ## The two rows of one message -/

section Agreement

variable (texts : WireTexts)

/-- Agreement of a recovered row with the live one in all but the signature and the key. -/
structure AgreesApart (recovered : RecoveredMessage) (live : Verification.RelayerMessage) :
    Prop where
  messageId : recovered.messageId = some (.str (texts.uuid live.messageId))
  groupId : recovered.groupId = some (.str live.groupId)
  order : recovered.order = .num live.order
  senderAddress : recovered.senderAddress = some (.str live.senderAddress)
  kind : recovered.kind = live.kind
  encryptedText : recovered.encryptedText = live.encryptedText
  nonce : recovered.nonce = live.nonce
  keyVersion : recovered.keyVersion = live.keyVersion
  signatureVersion : recovered.signatureVersion = some (.num live.signatureVersion)
  attachments : recovered.attachments = live.attachments
  principalOwner : recovered.principalOwner = live.principalOwner.map .str
  subAgentId : recovered.subAgentId = live.subAgentId.map .str
  identityClass : recovered.identityClass = live.identityClass
  isEdited : recovered.isEdited = live.isEdited

structure Agrees (recovered : RecoveredMessage) (live : Verification.RelayerMessage) : Prop
    extends AgreesApart texts recovered live where
  signature : recovered.signature = .str live.signature
  publicKey : recovered.publicKey = .str live.publicKey

/-- What a reader takes for the signed parameters of a recovered row, as far as its fields
are texts.  It has no payment metadata. -/
def recoveredParams (raw : RecoveredMessage) (groupId : String) (signatureVersion : Int) :
    Verification.CanonicalParams where
  groupId
  kind := raw.kind.asStr
  signatureVersion
  encryptedText := raw.encryptedText
  nonce := raw.nonce
  keyVersion := raw.keyVersion
  sharedPostAddress := none
  transferDigest := none
  idempotencyKey := none
  attachments := raw.attachments
  attribution :=
    let principalOwner := Verification.truthy (raw.principalOwner.bind Json.asStr)
    let subAgentId := Verification.truthy (raw.subAgentId.bind Json.asStr)
    if principalOwner.isSome || subAgentId.isSome || raw.identityClass.isSome then
      some { principalOwner, subAgentId, identityClass := raw.identityClass }
    else none

/-- `#verifyRawMessage` of a recovered row.  `verifyMessageSender` catches what it throws:
`fromHex` takes nothing but a text, and so does the canonical text. -/
def verifyRecovered (signatures : Verification.Signatures) (address : Bytes → String)
    (raw : RecoveredMessage) : Bool :=
  let version := match nullish raw.signatureVersion with
    | some value => asNum value
    | none => some 1
  match version, raw.groupId, raw.senderAddress, raw.signature, raw.publicKey with
  | some version, some (.str groupId), some (.str senderAddress), .str signature,
      .str publicKey =>
    if version ≠ 1 ∧ version ≠ 2 then false
    else if signature ≠ "" ∧ publicKey ≠ "" then
      Verification.verifyMessageSender signatures address
        (recoveredParams raw groupId version) senderAddress signature publicKey
    else false
  | _, _, _, _, _ => false

variable {texts}

theorem verifyRecovered_recoveredRow (signatures : Verification.Signatures)
    (address : Bytes → String) (namespace_ : String) (row : Relayer.Message)
    (toStatus : SyncStatus) :
    verifyRecovered signatures address (recoveredRow texts namespace_ row toStatus) = false := rfl

variable (namespace_ : String) (row : Relayer.Message) (toStatus : SyncStatus)

theorem fromWireMessage_fields :
    ∃ live, Verification.fromWireMessage (.ofMessage row) = some live ∧
      live.messageId = row.id ∧ live.groupId = row.groupId ∧ live.order = row.order.getD 0 ∧
      live.senderAddress = row.senderWalletAddr ∧ live.kind = row.kind ∧
      live.encryptedText = row.encryptedMsg ∧ live.nonce = row.nonce ∧
      live.keyVersion = row.keyVersion ∧ live.signatureVersion = row.signatureVersion ∧
      live.attachments = row.attachments.map (fun attachment =>
        Verification.fromWireAttachment (.ofAttachment attachment)) ∧
      live.principalOwner = row.attribution.principalOwner ∧
      live.subAgentId = row.attribution.subAgentId ∧
      live.identityClass = row.attribution.identityClass ∧
      live.isEdited = (row.isEdited && !row.isSystem) := by
  have kind := Verification.parseMessageKind_asStr row.kind
  simp only [Verification.fromWireMessage, MessageResponse.ofMessage, Verification.fromHex_encode,
    kind, bind, Option.bind_some, pure]
  refine ⟨_, rfl, rfl, rfl, rfl, rfl, rfl, rfl, rfl, rfl, rfl, ?_, rfl, rfl, rfl, rfl⟩
  rw [List.map_map]
  rfl

/-- **What of a row survives the archive**: everything but the signature and the key, for a
text without attribution whose edit flag says whether its times differ. -/
theorem agreesApart_iff {live : Verification.RelayerMessage}
    (converted : Verification.fromWireMessage (.ofMessage row) = some live) :
    AgreesApart texts (recoveredRow texts namespace_ row toStatus) live ↔
      row.kind = .text ∧ row.attribution.principalOwner = none ∧
        row.attribution.subAgentId = none ∧ row.attribution.identityClass = none ∧
        (texts.rfc3339 row.createdAt != texts.rfc3339 row.updatedAt) =
          (row.isEdited && !row.isSystem) := by
  obtain ⟨raw, same, id, group, order, sender, kind, encrypted, nonce, version, signatureVersion,
    attachments, principal, agent, identity, edited⟩ := fromWireMessage_fields row
  cases converted ▸ same
  constructor
  · intro agrees
    have noPrincipal := agrees.principalOwner
    have noAgent := agrees.subAgentId
    rw [principal] at noPrincipal
    rw [agent] at noAgent
    exact ⟨(agrees.kind.trans kind).symm, Option.map_eq_none_iff.mp noPrincipal.symm,
      Option.map_eq_none_iff.mp noAgent.symm, (agrees.identityClass.trans identity).symm,
      agrees.isEdited.trans edited⟩
  rintro ⟨isText, noPrincipal, noAgent, noIdentity, sameFlag⟩
  rw [noPrincipal] at principal
  rw [noAgent] at agent
  rw [noIdentity] at identity
  rw [isText] at kind
  refine ⟨?_, ?_, ?_, ?_, kind.symm, encrypted.symm, nonce.symm, version.symm, ?_,
    attachments.symm, ?_, ?_, identity.symm, sameFlag.trans edited.symm⟩
  · rw [id]
    rfl
  · rw [group]
    rfl
  · rw [order]
    rfl
  · rw [sender]
    rfl
  · rw [signatureVersion]
    rfl
  · rw [principal]
    rfl
  · rw [agent]
    rfl

theorem not_agrees (live : Verification.RelayerMessage) :
    ¬Agrees texts (recoveredRow texts namespace_ row toStatus) live := by
  intro agrees
  have signature := agrees.signature
  rw [recoveredRow, bytesJson] at signature
  cases signature

/-- **A recovered message is not the live message.**  Every row converts on both ways, the
two results differ, and no reader accepts the recovered one. -/
theorem recovered_differs (texts : WireTexts) (namespace_ : String) (row : Relayer.Message)
    (toStatus : SyncStatus) :
    ∃ live recovered,
      Verification.fromWireMessage (.ofMessage row) = some live ∧
      fromFileStorageMessage texts (archivedValue texts namespace_ row toStatus) = some recovered ∧
      ¬Agrees texts recovered live ∧
      ∀ signatures address, verifyRecovered signatures address recovered = false := by
  obtain ⟨live, converted, -⟩ := fromWireMessage_fields row
  refine ⟨live, _, converted, fromFileStorageMessage_archivedValue texts namespace_ row toStatus,
    not_agrees namespace_ row toStatus live, ?_⟩
  intro signatures address
  exact verifyRecovered_recoveredRow signatures address namespace_ row toStatus

/-! ### A row that is lost -/

def lostTexts : WireTexts where
  uuid id := toString id
  rfc3339 time := toString time
  getTime text := text.toInt?

/-- A text of wallet `0xa1`. -/
def lostRow : Relayer.Message :=
  (Relayer.Message.withAttribution 1 0 "0xaa" "0xa1" [1] [2] 0 [] [9] [0, 7] .humanMessage .text
    none).setOrder 1

/-- The wallet has signed the text of the row. -/
def lostSignatures : Verification.Signatures where
  issued :=
    [⟨[7], .ed25519, Text.utf8 (Verification.canonicalV1 (SignedRows.seenParams lostRow)), [9]⟩]
  unique := by
    intro left isLeft right isRight _
    rw [List.mem_singleton.mp isLeft, List.mem_singleton.mp isRight]

def lostAddress (publicKey : Bytes) : String := if publicKey = [0, 7] then "0xa1" else ""

/-- **A verified text is lost in the archive**: every reader accepts the live row, and none
accepts the recovered one, which differs from it. -/
theorem verified_text_lost :
    ∃ live recovered,
      Verification.fromWireMessage (.ofMessage lostRow) = some live ∧
      fromFileStorageMessage lostTexts (archivedValue lostTexts "mysocial" lostRow .synced) =
        some recovered ∧
      Verification.verifyRawMessage lostSignatures lostAddress live = true ∧
      verifyRecovered lostSignatures lostAddress recovered = false ∧
      ¬Agrees lostTexts recovered live := by
  have accepted : Verification.readerVerifies lostSignatures lostAddress lostRow = true := by
    decide +kernel
  obtain ⟨live, converted, -⟩ := fromWireMessage_fields lostRow
  rw [Verification.readerVerifies, converted, Option.any_some] at accepted
  exact ⟨live, _, converted, fromFileStorageMessage_archivedValue lostTexts "mysocial" lostRow _,
    accepted, rfl, not_agrees "mysocial" lostRow .synced live⟩

theorem agreesApart_lostRow :
    ∃ live, Verification.fromWireMessage (.ofMessage lostRow) = some live ∧
      AgreesApart lostTexts (recoveredRow lostTexts "mysocial" lostRow .synced) live := by
  obtain ⟨live, converted, -⟩ := fromWireMessage_fields lostRow
  exact ⟨live, converted,
    (agreesApart_iff "mysocial" lostRow .synced converted).mpr ⟨rfl, rfl, rfl, rfl, by decide⟩⟩

end Agreement

end MessagingStack.Sdk.ArchiveRecovery

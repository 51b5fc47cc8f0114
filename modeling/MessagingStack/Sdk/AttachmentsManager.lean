import Mathlib.Data.List.Nodup
import MessagingStack.Base.Aead
import MessagingStack.Base.Fallible
import MessagingStack.Base.HexCodec

/-!
# Attachments

`attachments/attachments-manager.ts` (`upload` and `resolve`) with the associated data of
`encryption/envelope-encryption.ts`.  What resolves as bound was uploaded under the very binding of
the message, each part in its role; what resolves as unbound was uploaded without a binding
(`handle_provenance`).  Behind it are the injectivity of the layout (`buildAttachmentAad_inj`) and
that no layout is empty.
-/

namespace MessagingStack.Sdk.Attachments

/-- What a call may throw: an `EncryptionAccessDeniedError`, or another error. -/
inductive Failure where
  | accessDenied
  | other (message : String)
  deriving DecidableEq

/-! ## Associated data -/

inductive AttachmentAadRole where
  | data
  | metadata
  | poster
  deriving DecidableEq

def AttachmentAadRole.word : AttachmentAadRole → String
  | .data => "data"
  | .metadata => "meta"
  | .poster => "poster"

/-- `ATTACHMENT_AAD_LABEL_V1`. -/
def attachmentAadLabelV1 : String := "myso-attachment-v1:"

/-- `AttachmentAadBinding`, which is also what the associated data of a message name. -/
structure AttachmentAadBinding where
  groupId : String
  keyVersion : Int
  senderAddress : String
  deriving DecidableEq

/-- The parts of the `myso` libraries that build associated data. -/
structure Bcs where
  isValidMySoAddress : String → Bool
  address : String → Bytes
  /-- `bcs.u64()`; `none` where it throws. -/
  u64 : Int → Option Bytes
  length_address : ∀ text, isValidMySoAddress text = true → (address text).length = 32
  length_u64 : ∀ value bytes, u64 value = some bytes → bytes.length = 8
  u64_injective : ∀ value other bytes,
    u64 value = some bytes → u64 other = some bytes → value = other

section Aad

variable (bcs : Bcs)

def buildMessageAad (params : AttachmentAadBinding) : Except Failure Bytes :=
  if bcs.isValidMySoAddress params.groupId then
    if bcs.isValidMySoAddress params.senderAddress then
      match bcs.u64 params.keyVersion with
      | some version =>
        .ok (bcs.address params.groupId ++ version ++ bcs.address params.senderAddress)
      | none => .error (.other "Invalid u64 value")
    else
      .error (.other ("Invalid senderAddress: expected a valid MySo address, got \"" ++
        params.senderAddress ++ "\""))
  else
    .error (.other ("Invalid groupId: expected a valid MySo address, got \"" ++
      params.groupId ++ "\""))

def buildAttachmentAad (params : AttachmentAadBinding) (role : AttachmentAadRole) :
    Except Failure Bytes := do
  let base ← buildMessageAad bcs params
  .ok (base ++ Text.utf8 (attachmentAadLabelV1 ++ role.word))

/-- Two bindings name the same group, key version and sender; an address may be written in
more than one way. -/
structure AttachmentAadBinding.Same (left right : AttachmentAadBinding) : Prop where
  groupId : bcs.address left.groupId = bcs.address right.groupId
  keyVersion : left.keyVersion = right.keyVersion
  senderAddress : bcs.address left.senderAddress = bcs.address right.senderAddress

variable {bcs} {aad : Bytes} {params : AttachmentAadBinding} {role : AttachmentAadRole}

theorem buildMessageAad_eq_ok (built : buildMessageAad bcs params = .ok aad) :
    ∃ version, bcs.u64 params.keyVersion = some version ∧ version.length = 8 ∧
      (bcs.address params.groupId).length = 32 ∧
      (bcs.address params.senderAddress).length = 32 ∧
      aad = bcs.address params.groupId ++ version ++ bcs.address params.senderAddress := by
  simp only [buildMessageAad] at built
  split at built
  next validGroup =>
    split at built
    next validSender =>
      split at built
      next version written =>
        refine ⟨version, written, bcs.length_u64 _ _ written, bcs.length_address _ validGroup,
          bcs.length_address _ validSender, ?_⟩
        exact (Except.ok.inj built).symm
      next => cases built
    next => cases built
  next => cases built

theorem length_buildMessageAad (built : buildMessageAad bcs params = .ok aad) :
    aad.length = 72 := by
  obtain ⟨version, -, ofVersion, ofGroup, ofSender, rfl⟩ := buildMessageAad_eq_ok built
  rw [List.length_append, List.length_append, ofGroup, ofVersion, ofSender]

theorem buildAttachmentAad_eq_ok (built : buildAttachmentAad bcs params role = .ok aad) :
    ∃ base, buildMessageAad bcs params = .ok base ∧
      aad = base ++ Text.utf8 (attachmentAadLabelV1 ++ role.word) := by
  rw [buildAttachmentAad] at built
  cases ofMessage : buildMessageAad bcs params with
  | error => cases ofMessage ▸ built
  | ok base =>
    rw [ofMessage] at built
    exact ⟨base, rfl, (Except.ok.inj built).symm⟩

/-- The associated data of a message determine its group, key version and sender. -/
theorem buildMessageAad_inj {left right : AttachmentAadBinding}
    (built : buildMessageAad bcs left = .ok aad) (built' : buildMessageAad bcs right = .ok aad) :
    left.Same bcs right := by
  obtain ⟨version, written, ofVersion, ofGroup, -, rfl⟩ := buildMessageAad_eq_ok built
  obtain ⟨version', written', ofVersion', ofGroup', -, same⟩ := buildMessageAad_eq_ok built'
  -- Every field has one length, so the fields are where they are in both layouts.
  have heads : (bcs.address left.groupId ++ version).length =
      (bcs.address right.groupId ++ version').length := by
    rw [List.length_append, List.length_append, ofGroup, ofVersion, ofGroup', ofVersion']
  obtain ⟨sameHead, sameSender⟩ := List.append_inj same heads
  obtain ⟨sameGroup, rfl⟩ := List.append_inj sameHead (ofGroup.trans ofGroup'.symm)
  exact ⟨sameGroup, bcs.u64_injective _ _ _ written written', sameSender⟩

theorem label_inj : ∀ left right : AttachmentAadRole,
    Text.utf8 (attachmentAadLabelV1 ++ left.word) =
      Text.utf8 (attachmentAadLabelV1 ++ right.word) → left = right := by
  intro left right
  cases left <;> cases right <;> decide +kernel

/-- **The layout is injective**: the associated data of an attachment determine the binding
and the role. -/
theorem buildAttachmentAad_inj {left right : AttachmentAadBinding} {role' : AttachmentAadRole}
    (built : buildAttachmentAad bcs left role = .ok aad)
    (built' : buildAttachmentAad bcs right role' = .ok aad) :
    left.Same bcs right ∧ role = role' := by
  obtain ⟨base, ofMessage, rfl⟩ := buildAttachmentAad_eq_ok built
  obtain ⟨base', ofMessage', same⟩ := buildAttachmentAad_eq_ok built'
  have lengths : base.length = base'.length :=
    (length_buildMessageAad ofMessage).trans (length_buildMessageAad ofMessage').symm
  obtain ⟨rfl, sameLabel⟩ := List.append_inj same lengths
  exact ⟨buildMessageAad_inj ofMessage ofMessage', label_inj role role' sameLabel⟩

/-- The associated data of an attachment are longer than those of a message. -/
theorem lt_length_buildAttachmentAad (built : buildAttachmentAad bcs params role = .ok aad) :
    72 < aad.length := by
  obtain ⟨base, ofMessage, rfl⟩ := buildAttachmentAad_eq_ok built
  have labelled : 0 < (Text.utf8 (attachmentAadLabelV1 ++ role.word)).length := by
    cases role <;> decide +kernel
  rw [List.length_append, length_buildMessageAad ofMessage]
  omega

end Aad

/-! ## Encryption under the key of a group -/

abbrev Key := Bytes

abbrev Sealing := Aead.Sealing Key Bytes Bytes Bytes Bytes

inductive GroupRef where
  | uuid (uuid : String)
  | ids (groupId encryptionHistoryId : String)
  deriving DecidableEq

/-- `Extras`: the extra fields of a metadata record, each with its JSON text. -/
abbrev Extras := List (String × String)

def Extras.spread (left right : Extras) : Extras :=
  left.filter (fun field => right.all fun other => other.1 != field.1) ++ right

structure AttachmentMetadata where
  fileName : String
  mimeType : String
  fileSize : Nat
  extras : Option Extras
  deriving DecidableEq

/-- What the functions below use of outside libraries. -/
structure Environment where
  bcs : Bcs
  aesGcmEncrypt : Key → Bytes → Bytes → Bytes → Bytes
  /-- `aesGcmDecrypt`: key, ciphertext, nonce and associated data; `none` where it throws. -/
  aesGcmDecrypt : Key → Bytes → Bytes → Bytes → Option Bytes
  toHex : Bytes → String
  fromHex : String → Except Failure Bytes
  /-- `new TextEncoder().encode(JSON.stringify(metadata))`. -/
  metadataBytes : AttachmentMetadata → Bytes
  /-- `JSON.parse(new TextDecoder().decode(bytes))`. -/
  readMetadata : Bytes → Except Failure AttachmentMetadata

/-- What the reads of one call of `encrypt` or `decrypt` bring. -/
structure KeyAnswers where
  sessionKey : Except Failure Unit
  currentKeyVersion : Except Failure Int
  /-- `#resolveDEK` for a key version of the group that is asked for. -/
  dek : GroupRef → Int → Except Failure Key

/-- AES-GCM without associated data is AES-GCM with empty ones. -/
def additionalData (aad : Option Bytes) : Bytes := aad.getD []

structure EncryptedEnvelope where
  ciphertext : Bytes
  nonce : Bytes
  keyVersion : Int
  aad : Option Bytes
  deriving DecidableEq

section Encryption

variable (env : Environment)

/-- The key version of an encryption: the one asked for, or the latest. -/
def KeyAnswers.version (answers : KeyAnswers) : Option Int → Except Failure Int
  | some version => .ok version
  | none => answers.currentKeyVersion

/-- `EnvelopeEncryption.encrypt` with the random `nonce`: the envelope, and the entry of the
ledger. -/
def encrypt (answers : KeyAnswers) (nonce : Bytes) (groupRef : GroupRef)
    (keyVersion : Option Int) (data : Bytes) (aad : Option Bytes) :
    Except Failure (EncryptedEnvelope × Sealing) := do
  answers.sessionKey
  let keyVersion ← answers.version keyVersion
  let dek ← answers.dek groupRef keyVersion
  let ciphertext := env.aesGcmEncrypt dek data nonce (additionalData aad)
  .ok ({ ciphertext, nonce, keyVersion, aad },
    { key := dek, nonce, data := additionalData aad, plaintext := data, ciphertext })

/-- `aesGcmDecrypt` as a call that throws. -/
def openWith (dek : Key) (envelope : EncryptedEnvelope) : Except Failure Bytes :=
  match env.aesGcmDecrypt dek envelope.ciphertext envelope.nonce (additionalData envelope.aad) with
  | some bytes => .ok bytes
  | none => .error (.other "OperationError")

def decrypt (answers : KeyAnswers) (groupRef : GroupRef) (envelope : EncryptedEnvelope) :
    Except Failure Bytes := do
  answers.sessionKey
  let dek ← answers.dek groupRef envelope.keyVersion
  openWith env dek envelope

variable {env} {answers : KeyAnswers} {groupRef : GroupRef} {envelope : EncryptedEnvelope}

/-- What an encryption adds to the ledger. -/
theorem encrypt_eq_ok {nonce : Bytes} {keyVersion : Option Int} {data : Bytes} {aad : Option Bytes}
    {sealing : Sealing}
    (encrypted : encrypt env answers nonce groupRef keyVersion data aad = .ok (envelope, sealing)) :
    sealing.data = additionalData aad ∧ sealing.plaintext = data ∧
      sealing.ciphertext = envelope.ciphertext ∧ sealing.nonce = envelope.nonce := by
  simp only [encrypt, bind_eq_ok] at encrypted
  obtain ⟨-, -, version, -, dek, -, returned⟩ := encrypted
  cases returned
  exact ⟨rfl, rfl, rfl, rfl⟩

theorem decrypt_eq_ok {bytes : Bytes}
    (decrypted : decrypt env answers groupRef envelope = .ok bytes) :
    ∃ dek, env.aesGcmDecrypt dek envelope.ciphertext envelope.nonce
      (additionalData envelope.aad) = some bytes := by
  simp only [decrypt, bind_eq_ok] at decrypted
  obtain ⟨-, -, dek, -, opened⟩ := decrypted
  refine ⟨dek, ?_⟩
  rw [openWith] at opened
  split at opened
  next plaintext found =>
    cases opened
    exact found
  next => cases opened

end Encryption

/-! ## Upload -/

structure AttachmentFile where
  fileName : String
  mimeType : String
  data : Bytes
  extras : Option Extras
  deriving DecidableEq

/-- `Attachment`, as it travels with a message. -/
structure Attachment where
  storageId : String
  nonce : String
  encryptedMetadata : String
  metadataNonce : String
  deriving DecidableEq

/-- What a storage adapter answers to an upload: an id for every entry. -/
structure UploadResult where
  ids : Nat → String
  metadata : Option Extras

structure AttachmentsConfig where
  maxAttachments : Nat := 10
  maxFileSizeBytes : Nat := 10 * 1024 * 1024
  maxTotalFileSizeBytes : Nat := 50 * 1024 * 1024

/-- One call of `upload`, with what its reads, its random numbers and the storage bring. -/
structure UploadCall where
  config : AttachmentsConfig
  files : List AttachmentFile
  groupRef : GroupRef
  keyVersion : Option Int
  binding : Option AttachmentAadBinding
  /-- For the file of an index. -/
  dataAnswers : Nat → KeyAnswers
  dataNonces : Nat → Bytes
  /-- `storageAdapter.upload` of the named ciphertexts. -/
  stored : List (String × Bytes) → Except Failure UploadResult
  metadataAnswers : Nat → KeyAnswers
  metadataNonces : Nat → Bytes

/-- What an upload leaves: the entries of the ledger, also those made before a failure, and
its result. -/
structure Uploaded where
  dataSealings : List Sealing
  metadataSealings : List Sealing
  result : Except Failure (List Attachment)

def validateSizes (config : AttachmentsConfig) : List AttachmentFile → Nat → Except Failure Nat
  | [], totalSize => .ok totalSize
  | file :: rest, totalSize =>
    if config.maxFileSizeBytes < file.data.length then
      .error (.other ("File \"" ++ file.fileName ++ "\" is " ++ toString file.data.length ++
        " bytes, exceeding the " ++ toString config.maxFileSizeBytes ++ " byte limit"))
    else validateSizes config rest (totalSize + file.data.length)

def validateFiles (config : AttachmentsConfig) (files : List AttachmentFile) :
    Except Failure Unit :=
  if files.length = 0 then .error (.other "At least one file is required")
  else if config.maxAttachments < files.length then
    .error (.other ("Too many files: " ++ toString files.length ++ " exceeds maximum of " ++
      toString config.maxAttachments))
  else
    match validateSizes config files 0 with
    | .error failure => .error failure
    | .ok totalSize =>
      if config.maxTotalFileSizeBytes < totalSize then
        .error (.other ("Total file size " ++ toString totalSize ++ " bytes exceeds the " ++
          toString config.maxTotalFileSizeBytes ++ " byte limit"))
      else .ok ()

def metadataOf (uploaded : UploadResult) (file : AttachmentFile) : AttachmentMetadata where
  fileName := file.fileName
  mimeType := file.mimeType
  fileSize := file.data.length
  extras :=
    if file.extras.isSome || uploaded.metadata.isSome then
      some ((uploaded.metadata.getD []).spread (file.extras.getD []))
    else none

section Upload

variable (env : Environment)

/-- `aadFor`: associated data where there is a binding. -/
def aadFor (binding : Option AttachmentAadBinding) (role : AttachmentAadRole) :
    Except Failure (Option Bytes) :=
  match binding with
  | some params => (buildAttachmentAad env.bcs params role).map some
  | none => .ok none

/-- The loop of an upload over plaintexts with their indices. -/
def sealEach (aad : Except Failure (Option Bytes)) (groupRef : GroupRef)
    (keyVersion : Option Int) (answers : Nat → KeyAnswers) (nonces : Nat → Bytes) :
    List (Bytes × Nat) → List Sealing × Except Failure (List EncryptedEnvelope)
  | [] => ([], .ok [])
  | (plaintext, index) :: rest =>
    match aad >>= encrypt env (answers index) (nonces index) groupRef keyVersion plaintext with
    | .error failure => ([], .error failure)
    | .ok (envelope, sealing) =>
      let others := sealEach aad groupRef keyVersion answers nonces rest
      (sealing :: others.1, others.2.map (envelope :: ·))

def upload (call : UploadCall) : Uploaded :=
  -- Bound ciphertexts are sealed under the key version the binding names.
  let keyVersion := (call.binding.map (·.keyVersion)).or call.keyVersion
  match validateFiles call.config call.files with
  | .error failure => ⟨[], [], .error failure⟩
  | .ok _ =>
    let entries := sealEach env (aadFor env call.binding .data) call.groupRef keyVersion
      call.dataAnswers call.dataNonces (call.files.map (·.data)).zipIdx
    match entries.2 with
    | .error failure => ⟨entries.1, [], .error failure⟩
    | .ok encrypted =>
      match call.stored ((call.files.map (·.fileName)).zip (encrypted.map (·.ciphertext))) with
      | .error failure => ⟨entries.1, [], .error failure⟩
      | .ok uploaded =>
        let records := sealEach env (aadFor env call.binding .metadata) call.groupRef keyVersion
          call.metadataAnswers call.metadataNonces
          (call.files.map fun file => env.metadataBytes (metadataOf uploaded file)).zipIdx
        ⟨entries.1, records.1, records.2.map fun metadata =>
          (encrypted.zip metadata).zipIdx.map fun ((entry, record), index) =>
            { storageId := uploaded.ids index
              nonce := env.toHex entry.nonce
              encryptedMetadata := env.toHex record.ciphertext
              metadataNonce := env.toHex record.nonce }⟩

/-- The entries of the ledger an upload makes in a role. -/
def Uploaded.sealings (uploaded : Uploaded) : AttachmentAadRole → List Sealing
  | .data => uploaded.dataSealings
  | .metadata => uploaded.metadataSealings
  | .poster => []

variable {env}

theorem mem_sealEach
    {aad : Except Failure (Option Bytes)} {groupRef : GroupRef} {keyVersion : Option Int}
    {answers : Nat → KeyAnswers} {nonces : Nat → Bytes} {items : List (Bytes × Nat)}
    {sealing : Sealing}
    (isIn : sealing ∈ (sealEach env aad groupRef keyVersion answers nonces items).1) :
    (∃ built, aad = .ok built ∧ sealing.data = additionalData built) ∧
      ∃ item ∈ items, sealing.plaintext = item.1 := by
  induction items with
  | nil => cases isIn
  | cons item rest ih =>
    obtain ⟨plaintext, index⟩ := item
    simp only [sealEach] at isIn
    split at isIn
    next => cases isIn
    next envelope first encrypted =>
      rcases List.mem_cons.mp isIn with rfl | later
      · obtain ⟨built, ofAad, returned⟩ := bind_eq_ok.mp encrypted
        obtain ⟨sameData, samePlaintext, -, -⟩ := encrypt_eq_ok returned
        exact ⟨⟨built, ofAad, sameData⟩, _, List.mem_cons_self, samePlaintext⟩
      · obtain ⟨under, other, otherIn, samePlaintext⟩ := ih later
        exact ⟨under, other, List.mem_cons_of_mem _ otherIn, samePlaintext⟩

theorem mem_sealings
    {call : UploadCall} {role : AttachmentAadRole} {sealing : Sealing}
    (isIn : sealing ∈ (upload env call).sealings role) :
    (∃ built, aadFor env call.binding role = .ok built ∧
        sealing.data = additionalData built) ∧
      ∃ file ∈ call.files, match role with
        | .data => sealing.plaintext = file.data
        | .metadata => ∃ stored, sealing.plaintext = env.metadataBytes (metadataOf stored file)
        | .poster => False := by
  have ofFiles : ∀ {f : AttachmentFile → Bytes} {item : Bytes × Nat},
      item ∈ (call.files.map f).zipIdx → ∃ file ∈ call.files, f file = item.1 := by
    intro f item listed
    exact List.mem_map.mp (List.fst_mem_of_mem_zipIdx listed)
  cases role with
  | poster => cases isIn
  | data =>
    have looped : sealing ∈ (sealEach env (aadFor env call.binding .data) call.groupRef
        ((call.binding.map (·.keyVersion)).or call.keyVersion) call.dataAnswers call.dataNonces
        (call.files.map (·.data)).zipIdx).1 := by
      simp only [Uploaded.sealings, upload] at isIn
      split at isIn
      next => cases isIn
      next =>
        split at isIn
        next => exact isIn
        next =>
          split at isIn
          next => exact isIn
          next => exact isIn
    obtain ⟨under, item, listed, samePlaintext⟩ := mem_sealEach looped
    obtain ⟨file, isFile, sameData⟩ := ofFiles listed
    exact ⟨under, file, isFile, samePlaintext.trans sameData.symm⟩
  | metadata =>
    simp only [Uploaded.sealings, upload] at isIn
    split at isIn
    next => cases isIn
    next =>
      split at isIn
      next => cases isIn
      next =>
        split at isIn
        next => cases isIn
        next stored _ =>
          obtain ⟨under, item, listed, samePlaintext⟩ := mem_sealEach isIn
          obtain ⟨file, isFile, sameBytes⟩ := ofFiles listed
          exact ⟨under, file, isFile, stored, samePlaintext.trans sameBytes.symm⟩

end Upload

/-! ## Resolve -/

/-- `AttachmentHandle`; `data` is the closure, given what the storage holds and what the
reads bring at the time of the call. -/
structure AttachmentHandle where
  metadata : AttachmentMetadata
  wire : Attachment
  aadBound : Bool
  data : (String → Except Failure Bytes) → KeyAnswers → Except Failure Bytes

/-- What the reads of the two attempts at the metadata of one attachment bring. -/
structure ResolveAnswers where
  bound : KeyAnswers
  unbound : KeyAnswers

/-- The message an attachment is shown with, as `binding` passes it to `resolve`. -/
structure ParentBinding where
  groupId : String
  senderAddress : String
  deriving DecidableEq

def ParentBinding.withVersion (parent : ParentBinding) (keyVersion : Int) :
    AttachmentAadBinding :=
  { groupId := parent.groupId, keyVersion, senderAddress := parent.senderAddress }

section Resolve

variable (env : Environment)

/-- The attempts at the metadata, and whether the bound one succeeded. -/
def openMetadata (groupRef : GroupRef) (ciphertext nonce : Bytes) (keyVersion : Int)
    (answers : ResolveAnswers) (metaAad : Option Bytes) : Except Failure (Bytes × Bool) :=
  let unbound := (decrypt env answers.unbound groupRef
    { ciphertext, nonce, keyVersion, aad := none }).map (·, false)
  match metaAad with
  | none => unbound
  | some aad =>
    match decrypt env answers.bound groupRef { ciphertext, nonce, keyVersion, aad := some aad } with
    | .ok bytes => .ok (bytes, true)
    -- Access errors are not an AAD mismatch.
    | .error .accessDenied => .error .accessDenied
    | .error _ => unbound

/-- The closure of a handle. -/
def downloadData (groupRef : GroupRef) (keyVersion : Int) (attachment : Attachment)
    (dataAad : Option Bytes) (download : String → Except Failure Bytes) (answers : KeyAnswers) :
    Except Failure Bytes := do
  let encrypted ← download attachment.storageId
  let nonce ← env.fromHex attachment.nonce
  decrypt env answers groupRef { ciphertext := encrypted, nonce, keyVersion, aad := dataAad }

/-- The associated data of the bytes: those of the mode the metadata opened in. -/
def dataAadFor (binding : Option AttachmentAadBinding) : Bool → Except Failure (Option Bytes)
  | true => aadFor env binding .data
  | false => .ok none

def resolveOne (groupRef : GroupRef) (keyVersion : Int) (binding : Option ParentBinding)
    (answers : ResolveAnswers) (attachment : Attachment) : Except Failure AttachmentHandle := do
  let bound := binding.map (·.withVersion keyVersion)
  let ciphertext ← env.fromHex attachment.encryptedMetadata
  let nonce ← env.fromHex attachment.metadataNonce
  let metaAad ← aadFor env bound .metadata
  let (metadataBytes, aadBound) ←
    openMetadata env groupRef ciphertext nonce keyVersion answers metaAad
  let metadata ← env.readMetadata metadataBytes
  let dataAad ← dataAadFor env bound aadBound
  .ok
    { metadata, wire := attachment, aadBound
      data := downloadData env groupRef keyVersion attachment dataAad }

/-- `resolve` of the attachments with their indices. -/
def resolveFrom (groupRef : GroupRef) (keyVersion : Int) (binding : Option ParentBinding)
    (answers : Nat → ResolveAnswers) :
    List (Attachment × Nat) → Except Failure (List AttachmentHandle)
  | [] => .ok []
  | (attachment, index) :: rest => do
    let handle ← resolveOne env groupRef keyVersion binding (answers index) attachment
    let handles ← resolveFrom groupRef keyVersion binding answers rest
    .ok (handle :: handles)

def resolve (attachments : List Attachment) (groupRef : GroupRef) (keyVersion : Int)
    (binding : Option ParentBinding) (answers : Nat → ResolveAnswers) :
    Except Failure (List AttachmentHandle) :=
  resolveFrom env groupRef keyVersion binding answers attachments.zipIdx

variable {attachment : Attachment} {groupRef : GroupRef} {keyVersion : Int}
  {parent : ParentBinding} {answers : Nat → ResolveAnswers}

theorem resolve_bound {ciphertext nonce aad bytes : Bytes} {dataAad : Option Bytes}
    {metadata : AttachmentMetadata}
    (isCiphertext : env.fromHex attachment.encryptedMetadata = .ok ciphertext)
    (isNonce : env.fromHex attachment.metadataNonce = .ok nonce)
    (isAad : aadFor env (some (parent.withVersion keyVersion)) .metadata = .ok (some aad))
    (isDataAad : aadFor env (some (parent.withVersion keyVersion)) .data = .ok dataAad)
    (opened : decrypt env (answers 0).bound groupRef ⟨ciphertext, nonce, keyVersion, some aad⟩ =
      .ok bytes)
    (isMetadata : env.readMetadata bytes = .ok metadata) :
    ∃ handle, resolve env [attachment] groupRef keyVersion (some parent) answers = .ok [handle] ∧
      handle.aadBound = true := by
  refine ⟨⟨metadata, attachment, true,
    downloadData env groupRef keyVersion attachment dataAad⟩, ?_, rfl⟩
  simp only [resolve, List.zipIdx_cons, List.zipIdx_nil, resolveFrom, resolveOne, Option.map_some,
    isCiphertext, isNonce, isAad, openMetadata, opened, isMetadata, dataAadFor, isDataAad,
    bind, Except.bind]

end Resolve

/-! ## Where a resolved attachment comes from -/

/-- An honest message, sealed under the associated data of `buildMessageAad`. -/
structure MessageCall where
  params : AttachmentAadBinding
  groupRef : GroupRef
  answers : KeyAnswers
  nonce : Bytes
  plaintext : Bytes

section Provenance

variable (env : Environment)

/-- The entry of the ledger a message makes. -/
def MessageCall.sealings (call : MessageCall) : List Sealing :=
  match buildMessageAad env.bcs call.params >>= fun aad =>
      encrypt env call.answers call.nonce call.groupRef (some call.params.keyVersion)
        call.plaintext (some aad) with
  | .ok (_, sealing) => [sealing]
  | .error _ => []

/-- The entries of the ledger an upload makes. -/
def UploadCall.sealings (call : UploadCall) : List Sealing :=
  (upload env call).dataSealings ++ (upload env call).metadataSealings

/-- **The ledger**: everything honest clients have sealed. -/
def ledger (uploads : List UploadCall) (messages : List MessageCall) : List Sealing :=
  uploads.flatMap (·.sealings env) ++ messages.flatMap (·.sealings env)

/-- The upload was bound to this group, key version and sender. -/
def UploadCall.BoundTo (call : UploadCall) (params : AttachmentAadBinding) : Prop :=
  ∃ binding, call.binding = some binding ∧ binding.Same env.bcs params

/-- **Where a handle comes from**: its metadata are those of a sealing of the given origin
that the attachment carries, and so are its bytes whenever they resolve. -/
structure AttachmentHandle.ComesFrom (handle : AttachmentHandle)
    (origin : AttachmentAadRole → Sealing → Prop) : Prop where
  metadata : ∃ sealing, origin .metadata sealing ∧
    env.fromHex handle.wire.encryptedMetadata = .ok sealing.ciphertext ∧
    env.readMetadata sealing.plaintext = .ok handle.metadata
  data : ∀ download answers bytes, handle.data download answers = .ok bytes →
    ∃ sealing, origin .data sealing ∧
      download handle.wire.storageId = .ok sealing.ciphertext ∧ sealing.plaintext = bytes

def FromBound (uploads : List UploadCall) (params : AttachmentAadBinding)
    (role : AttachmentAadRole) (sealing : Sealing) : Prop :=
  ∃ call ∈ uploads, call.BoundTo env params ∧ sealing ∈ (upload env call).sealings role

def FromUnbound (uploads : List UploadCall) (_role : AttachmentAadRole) (sealing : Sealing) :
    Prop :=
  (∃ call ∈ uploads, call.binding = none ∧ ∃ role, sealing ∈ (upload env call).sealings role) ∧
  ∀ call ∈ uploads, call.binding ≠ none →
    ∀ role, ∀ other ∈ (upload env call).sealings role, other.ciphertext ≠ sealing.ciphertext

variable {env} {uploads : List UploadCall} {messages : List MessageCall} {role : AttachmentAadRole}
  {sealing : Sealing} {groupRef : GroupRef} {keyVersion : Int} {ciphertext nonce : Bytes}
  {call : UploadCall} {params : AttachmentAadBinding} {aad : Bytes} {key : Key}
  {plaintext bytes : Bytes} {answers : ResolveAnswers} {attachment : Attachment}
  {binding : Option ParentBinding} {handle : AttachmentHandle}

theorem mem_uploadSealings :
    sealing ∈ call.sealings env ↔ ∃ role, sealing ∈ (upload env call).sealings role := by
  rw [UploadCall.sealings, List.mem_append]
  constructor
  · rintro (ofData | ofMetadata)
    · exact ⟨.data, ofData⟩
    · exact ⟨.metadata, ofMetadata⟩
  rintro ⟨role, isIn⟩
  cases role with
  | data => exact Or.inl isIn
  | metadata => exact Or.inr isIn
  | poster => cases isIn

theorem length_of_message {call : MessageCall} (isIn : sealing ∈ call.sealings env) :
    sealing.data.length = 72 := by
  rw [MessageCall.sealings] at isIn
  split at isIn
  next envelope encryption encrypted =>
    obtain ⟨aad, built, returned⟩ := bind_eq_ok.mp encrypted
    obtain ⟨sameData, -, -, -⟩ := encrypt_eq_ok returned
    rw [List.mem_singleton.mp isIn, sameData]
    exact length_buildMessageAad built
  next => cases isIn

theorem aadFor_eq_ok {binding : Option AttachmentAadBinding} {built : Option Bytes}
    (ofAad : aadFor env binding role = .ok built) :
    (binding = none ∧ built = none) ∨
      ∃ params aad, binding = some params ∧ built = some aad ∧
        buildAttachmentAad env.bcs params role = .ok aad := by
  cases binding with
  | none => exact Or.inl ⟨rfl, (Except.ok.inj ofAad).symm⟩
  | some params =>
    rw [aadFor] at ofAad
    cases ofParams : buildAttachmentAad env.bcs params role with
    | error => cases ofParams ▸ ofAad
    | ok aad =>
      rw [ofParams] at ofAad
      exact Or.inr ⟨params, aad, rfl, (Except.ok.inj ofAad).symm, ofParams⟩

theorem data_of_mem_sealings (isIn : sealing ∈ (upload env call).sealings role) :
    (call.binding = none ∧ sealing.data = []) ∨
      ∃ params, call.binding = some params ∧
        buildAttachmentAad env.bcs params role = .ok sealing.data := by
  obtain ⟨⟨built, ofAad, sameData⟩, -⟩ := mem_sealings isIn
  rcases aadFor_eq_ok ofAad with ⟨unbound, rfl⟩ | ⟨params, aad, bound, rfl, ofParams⟩
  · exact Or.inl ⟨unbound, sameData⟩
  · refine Or.inr ⟨params, bound, ?_⟩
    rw [sameData]
    exact ofParams

theorem fromBound_of_data (built : buildAttachmentAad env.bcs params role = .ok aad)
    (isIn : sealing ∈ ledger env uploads messages) (under : sealing.data = aad) :
    FromBound env uploads params role sealing := by
  have long := lt_length_buildAttachmentAad built
  rcases List.mem_append.mp isIn with ofUpload | ofMessage
  · obtain ⟨call, isCall, sealed⟩ := List.mem_flatMap.mp ofUpload
    obtain ⟨sealedRole, ofRole⟩ := mem_uploadSealings.mp sealed
    rcases data_of_mem_sealings ofRole with ⟨-, empty⟩ | ⟨binding, bound, ofBinding⟩
    · rw [← under, empty, List.length_nil] at long
      omega
    · rw [under] at ofBinding
      obtain ⟨same, rfl⟩ := buildAttachmentAad_inj ofBinding built
      exact ⟨call, isCall, ⟨binding, bound, same⟩, ofRole⟩
  obtain ⟨call, -, sealed⟩ := List.mem_flatMap.mp ofMessage
  have short := length_of_message sealed
  rw [under] at short
  omega

/-- **The empty label**: what opens without associated data was sealed by an upload without
a binding, and no ciphertext of a bound upload opens so. -/
theorem fromUnbound_of_opened (ideal : Aead.Ideal env.aesGcmDecrypt (ledger env uploads messages))
    (opened : env.aesGcmDecrypt key ciphertext nonce (additionalData none) = some plaintext) :
    ∃ sealing, FromUnbound env uploads role sealing ∧ sealing.ciphertext = ciphertext ∧
      sealing.plaintext = plaintext := by
  have unbound : ∀ sealing ∈ ledger env uploads messages, sealing.data = additionalData none →
      ∃ call ∈ uploads, call.binding = none ∧
        ∃ role, sealing ∈ (upload env call).sealings role := by
    intro sealing isIn under
    rcases List.mem_append.mp isIn with ofUpload | ofMessage
    · obtain ⟨call, isCall, sealed⟩ := List.mem_flatMap.mp ofUpload
      obtain ⟨sealedRole, ofRole⟩ := mem_uploadSealings.mp sealed
      rcases data_of_mem_sealings ofRole with ⟨free, -⟩ | ⟨binding, -, ofBinding⟩
      · exact ⟨call, isCall, free, sealedRole, ofRole⟩
      · have long := lt_length_buildAttachmentAad ofBinding
        rw [under] at long
        exact absurd long (by simp [additionalData])
    obtain ⟨call, -, sealed⟩ := List.mem_flatMap.mp ofMessage
    have short := length_of_message sealed
    rw [under] at short
    exact absurd short (by simp [additionalData])
  obtain ⟨sealing, -, origin, rfl, rfl⟩ := ideal.opened_within opened unbound
  refine ⟨sealing, ⟨origin, ?_⟩, rfl, rfl⟩
  intro call isCall bound otherRole other sealed same
  have isIn : other ∈ ledger env uploads messages :=
    List.mem_append_left _
      (List.mem_flatMap.mpr ⟨call, isCall, mem_uploadSealings.mpr ⟨otherRole, sealed⟩⟩)
  -- A bound ciphertext has associated data, so the ideal cipher does not open it without.
  have labelled : other.data ≠ additionalData none := by
    rcases data_of_mem_sealings sealed with ⟨free, -⟩ | ⟨binding, -, ofBinding⟩
    · exact absurd free bound
    intro empty
    have long := lt_length_buildAttachmentAad ofBinding
    rw [empty] at long
    exact absurd long (by simp [additionalData])
  rw [← same, ideal.not_opened isIn labelled] at opened
  cases opened

theorem fromBound_of_opened (ideal : Aead.Ideal env.aesGcmDecrypt (ledger env uploads messages))
    (built : buildAttachmentAad env.bcs params role = .ok aad)
    (opened : env.aesGcmDecrypt key ciphertext nonce (additionalData (some aad)) = some plaintext) :
    ∃ sealing, FromBound env uploads params role sealing ∧ sealing.ciphertext = ciphertext ∧
      sealing.plaintext = plaintext := by
  obtain ⟨sealing, -, origin, sameCiphertext, samePlaintext⟩ :=
    ideal.opened_within opened fun _ isIn under => fromBound_of_data built isIn under
  exact ⟨sealing, origin, sameCiphertext, samePlaintext⟩

theorem openMetadata_eq_ok {metaAad : Option Bytes} {aadBound : Bool}
    (opened : openMetadata env groupRef ciphertext nonce keyVersion answers metaAad =
      .ok (bytes, aadBound))
    :
    ∃ key aad, env.aesGcmDecrypt key ciphertext nonce (additionalData aad) = some bytes ∧
      ((aadBound = true ∧ aad = metaAad ∧ metaAad ≠ none) ∨ (aadBound = false ∧ aad = none)) := by
  have fallback : ∀ {result : Bytes × Bool},
      (decrypt env answers.unbound groupRef
        { ciphertext, nonce, keyVersion, aad := none }).map (·, false) = .ok result →
      ∃ key, env.aesGcmDecrypt key ciphertext nonce (additionalData none) = some result.1 ∧
        result.2 = false := by
    intro result returned
    cases decrypted : decrypt env answers.unbound groupRef
        { ciphertext, nonce, keyVersion, aad := none } with
    | error failure => cases decrypted ▸ returned
    | ok plaintext =>
      cases decrypted ▸ returned
      obtain ⟨key, withKey⟩ := decrypt_eq_ok decrypted
      exact ⟨key, withKey, rfl⟩
  cases metaAad with
  | none =>
    obtain ⟨key, withKey, unbound⟩ := fallback opened
    exact ⟨key, none, withKey, Or.inr ⟨unbound, rfl⟩⟩
  | some aad =>
    simp only [openMetadata] at opened
    split at opened
    next plaintext decrypted =>
      cases opened
      obtain ⟨key, withKey⟩ := decrypt_eq_ok decrypted
      exact ⟨key, some aad, withKey, Or.inl ⟨rfl, rfl, Option.some_ne_none _⟩⟩
    next => cases opened
    next =>
      obtain ⟨key, withKey, unbound⟩ := fallback opened
      exact ⟨key, none, withKey, Or.inr ⟨unbound, rfl⟩⟩

theorem downloadData_eq_ok {dataAad : Option Bytes} {download : String → Except Failure Bytes}
    {answers : KeyAnswers}
    (resolved : downloadData env groupRef keyVersion attachment dataAad download answers
      = .ok bytes)
    :
    ∃ key ciphertext nonce, download attachment.storageId = .ok ciphertext ∧
      env.aesGcmDecrypt key ciphertext nonce (additionalData dataAad) = some bytes := by
  simp only [downloadData, bind_eq_ok] at resolved
  obtain ⟨ciphertext, downloaded, nonce, -, decrypted⟩ := resolved
  obtain ⟨key, withKey⟩ := decrypt_eq_ok decrypted
  exact ⟨key, ciphertext, nonce, downloaded, withKey⟩

/-- What one turn of `resolve` can return. -/
theorem resolveOne_comesFrom (ideal : Aead.Ideal env.aesGcmDecrypt (ledger env uploads messages))
    (resolved : resolveOne env groupRef keyVersion binding answers attachment = .ok handle) :
    (handle.aadBound = true ∧ ∃ parent, binding = some parent ∧
      handle.ComesFrom env (FromBound env uploads (parent.withVersion keyVersion))) ∨
    (handle.aadBound = false ∧ handle.ComesFrom env (FromUnbound env uploads)) := by
  simp only [resolveOne, bind_eq_ok] at resolved
  obtain ⟨ciphertext, ofCiphertext, nonce, -, metaAad, ofMeta, ⟨bytes, aadBound⟩, opened,
    metadata, read, dataAad, ofData, returned⟩ := resolved
  cases returned
  obtain ⟨key, aad, withKey, mode⟩ := openMetadata_eq_ok opened
  rcases mode with ⟨isBound, rfl, given⟩ | ⟨isUnbound, rfl⟩
  · -- The bound attempt succeeded, so there is a parent and both labels are its labels.
    subst isBound
    rcases aadFor_eq_ok ofMeta with ⟨-, missing⟩ | ⟨params, metaBytes, ofBinding, rfl, builtMeta⟩
    · exact absurd missing given
    obtain ⟨parent, rfl, rfl⟩ := Option.map_eq_some_iff.mp ofBinding
    rw [dataAadFor] at ofData
    rcases aadFor_eq_ok ofData with ⟨missing, -⟩ | ⟨_, dataBytes, sameBinding, rfl, builtData⟩
    · cases missing
    cases sameBinding
    refine Or.inl ⟨rfl, parent, rfl, ?_, ?_⟩
    · obtain ⟨sealing, origin, rfl, rfl⟩ := fromBound_of_opened ideal builtMeta withKey
      exact ⟨sealing, origin, ofCiphertext, read⟩
    intro download answers bytes downloaded
    obtain ⟨key, stored, nonce, fetched, opensData⟩ := downloadData_eq_ok downloaded
    obtain ⟨sealing, origin, rfl, rfl⟩ := fromBound_of_opened ideal builtData opensData
    exact ⟨sealing, origin, fetched, rfl⟩
  subst isUnbound
  cases ofData
  refine Or.inr ⟨rfl, ?_, ?_⟩
  · obtain ⟨sealing, origin, rfl, rfl⟩ := fromUnbound_of_opened ideal withKey
    exact ⟨sealing, origin, ofCiphertext, read⟩
  intro download answers bytes downloaded
  obtain ⟨key, stored, nonce, fetched, opensData⟩ := downloadData_eq_ok downloaded
  obtain ⟨sealing, origin, rfl, rfl⟩ := fromUnbound_of_opened ideal opensData
  exact ⟨sealing, origin, fetched, rfl⟩

theorem mem_resolveFrom {answers : Nat → ResolveAnswers} {items : List (Attachment × Nat)}
    {handles : List AttachmentHandle}
    (resolved : resolveFrom env groupRef keyVersion binding answers items = .ok handles)
    (returned : handle ∈ handles) :
    ∃ item ∈ items,
      resolveOne env groupRef keyVersion binding (answers item.2) item.1 = .ok handle := by
  induction items generalizing handles with
  | nil =>
    cases resolved
    cases returned
  | cons item rest ih =>
    simp only [resolveFrom, bind_eq_ok] at resolved
    obtain ⟨first, turned, others, ofRest, sameHandles⟩ := resolved
    cases sameHandles
    rcases List.mem_cons.mp returned with rfl | later
    · exact ⟨item, List.mem_cons_self, turned⟩
    · obtain ⟨other, otherIn, ofOther⟩ := ih ofRest later
      exact ⟨other, List.mem_cons_of_mem _ otherIn, ofOther⟩

/-- **Attachments cannot be moved.**  Whatever uploads there were and whatever attachments a
message is shown with, a handle of `resolve` comes from uploads bound to just the group, key
version and sender of the message, each part in its role, or else from uploads without a
binding, none of it a blob of a bound upload. -/
theorem handle_provenance
    (ideal : Aead.Ideal env.aesGcmDecrypt (ledger env uploads messages))
    {attachments : List Attachment} {groupRef : GroupRef} {keyVersion : Int}
    {binding : Option ParentBinding} {answers : Nat → ResolveAnswers}
    {handles : List AttachmentHandle} {handle : AttachmentHandle}
    (resolved : resolve env attachments groupRef keyVersion binding answers = .ok handles)
    (returned : handle ∈ handles) :
    (handle.aadBound = true ∧ ∃ parent, binding = some parent ∧
      handle.ComesFrom env (FromBound env uploads (parent.withVersion keyVersion))) ∨
    (handle.aadBound = false ∧ handle.ComesFrom env (FromUnbound env uploads)) := by
  obtain ⟨item, -, turned⟩ := mem_resolveFrom resolved returned
  exact resolveOne_comesFrom ideal turned

/-! ### An upload that resolves -/

/-- Little-endian bytes of a number. -/
def leBytes : Nat → Nat → Bytes
  | 0, _ => []
  | width + 1, value => UInt8.ofNat value :: leBytes width (value / 256)

theorem length_leBytes (width value : Nat) : (leBytes width value).length = width := by
  induction width generalizing value with
  | zero => rfl
  | succ width ih => rw [leBytes, List.length_cons, ih]

theorem leBytes_injective {width : Nat} : ∀ {value other : Nat}, value < 256 ^ width →
    other < 256 ^ width → leBytes width value = leBytes width other → value = other := by
  induction width with
  | zero =>
    intro value other small small' _
    omega
  | succ width ih =>
    intro value other small small' same
    obtain ⟨sameByte, sameRest⟩ := List.cons.inj same
    have low : value % 256 = other % 256 := by
      have bytes := congrArg UInt8.toNat sameByte
      simpa using bytes
    have high : value / 256 = other / 256 := by
      refine ih ?_ ?_ sameRest <;> rw [Nat.div_lt_iff_lt_mul (by decide)] <;>
        simpa [Nat.pow_succ] using ‹_›
    omega

def sampleAddress (text : String) : Bytes :=
  match Hex.decode (String.ofList (text.toList.drop 2)) with
  | .ok bytes => bytes
  | .error _ => []

/-- BCS on prefixed hex addresses of full length. -/
def sampleBcs : Bcs where
  isValidMySoAddress text := (sampleAddress text).length == 32
  address := sampleAddress
  u64 value := if 0 ≤ value ∧ value.toNat < 256 ^ 8 then some (leBytes 8 value.toNat) else none
  length_address _ valid := beq_iff_eq.mp valid
  length_u64 value bytes written := by
    split at written
    · cases written
      exact length_leBytes _ _
    · cases written
  u64_injective value other bytes written written' := by
    split at written
    next small =>
      split at written'
      next small' =>
        cases written
        have same := leBytes_injective small'.2 small.2 (Option.some.inj written')
        omega
      next => cases written'
    next => cases written

/-- A file that is uploaded with a binding and one that is uploaded without. -/
def sampleFile (fileName : String) : AttachmentFile where
  fileName
  mimeType := "text/plain"
  data := Text.utf8 fileName
  extras := none

def sampleStored : UploadResult where
  ids := fun _ => "blob"
  metadata := none

def sampleSender : String := "0xcdcdcdcdcdcdcdcdcdcdcdcdcdcdcdcdcdcdcdcdcdcdcdcdcdcdcdcdcdcdcdcd"

def sampleGroup : String := "0xabababababababababababababababababababababababababababababababab"

def sampleBinding : AttachmentAadBinding where
  groupId := sampleGroup
  keyVersion := 0
  senderAddress := sampleSender

/-- The associated data of the bound upload. -/
def sampleAad (role : AttachmentAadRole) : Bytes :=
  match buildAttachmentAad sampleBcs sampleBinding role with
  | .ok aad => aad
  | .error _ => []

def sampleMetadataBytes (fileName : String) : Bytes :=
  Text.utf8 ("\x7b\"fileName\":\"" ++ fileName ++ "\"\x7d")

def sampleSealing (nonce data plaintext : Bytes) : Sealing where
  key := [7]
  nonce
  data
  plaintext
  ciphertext := nonce ++ data ++ plaintext

/-- What the two uploads below seal. -/
def sampleLedger : List Sealing :=
  [ sampleSealing [1] (sampleAad .data) (Text.utf8 "a.txt"),
    sampleSealing [2] (sampleAad .metadata) (sampleMetadataBytes "a.txt"),
    sampleSealing [3] [] (Text.utf8 "b.txt"),
    sampleSealing [4] [] (sampleMetadataBytes "b.txt") ]

/-- The libraries, with the ideal cipher over that ledger. -/
def sampleWorld : Environment where
  bcs := sampleBcs
  aesGcmEncrypt _ plaintext nonce aad := nonce ++ aad ++ plaintext
  aesGcmDecrypt := Aead.table sampleLedger
  toHex := Hex.encode
  fromHex text :=
    match Hex.decode text with
    | .ok bytes => .ok bytes
    | .error _ => .error (.other "Invalid hex string")
  metadataBytes metadata := sampleMetadataBytes metadata.fileName
  readMetadata bytes :=
    if bytes = sampleMetadataBytes "a.txt" then .ok (metadataOf sampleStored (sampleFile "a.txt"))
    else .error (.other "SyntaxError")

def sampleAnswers : KeyAnswers where
  sessionKey := .ok ()
  currentKeyVersion := .ok 0
  dek := fun _ _ => .ok [7]

def sampleUpload (fileName : String) (binding : Option AttachmentAadBinding)
    (first second : Bytes) : UploadCall where
  config := {}
  files := [sampleFile fileName]
  groupRef := .uuid "test"
  keyVersion := none
  binding
  dataAnswers := fun _ => sampleAnswers
  dataNonces := fun _ => first
  stored := fun _ => .ok sampleStored
  metadataAnswers := fun _ => sampleAnswers
  metadataNonces := fun _ => second

def sampleUploads : List UploadCall :=
  [sampleUpload "a.txt" (some sampleBinding) [1] [2], sampleUpload "b.txt" none [3] [4]]

/-- The attachment of the bound upload. -/
def sampleAttachment : Attachment :=
  match (upload sampleWorld (sampleUpload "a.txt" (some sampleBinding) [1] [2])).result with
  | .ok (attachment :: _) => attachment
  | _ => ⟨"", "", "", ""⟩

theorem aadFor_sample (role : AttachmentAadRole) :
    aadFor sampleWorld (some sampleBinding) role = .ok (some (sampleAad role)) := by
  have isBuilt : (buildAttachmentAad sampleBcs sampleBinding role).toOption.isSome = true := by
    cases role <;> decide +kernel
  show (buildAttachmentAad sampleBcs sampleBinding role).map some = _
  unfold sampleAad
  revert isBuilt
  generalize buildAttachmentAad sampleBcs sampleBinding role = built
  intro isBuilt
  cases built with
  | error => cases isBuilt
  | ok => rfl

theorem fromHex_encode (bytes : Bytes) : sampleWorld.fromHex (Hex.encode bytes) = .ok bytes := by
  simp only [sampleWorld, Hex.decode_encode]

theorem sampleAttachment_eq :
    sampleAttachment = ⟨"blob", Hex.encode [1],
      Hex.encode ([2] ++ sampleAad .metadata ++ sampleMetadataBytes "a.txt"), Hex.encode [2]⟩ := by
  have valid : validateFiles {} [sampleFile "a.txt"] = .ok () := by decide +kernel
  simp only [sampleAttachment, upload, sampleUpload, valid, aadFor_sample]
  rfl

theorem ledger_sampleUploads : ledger sampleWorld sampleUploads [] = sampleLedger := by
  decide +kernel

theorem sampleLedger_once : ∀ first ∈ sampleLedger, ∀ second ∈ sampleLedger,
    first.ciphertext = second.ciphertext → first = second := by
  have nodup : (sampleLedger.map (·.ciphertext.head?)).Nodup := by decide +kernel
  intro first isFirst second isSecond same
  exact List.inj_on_of_nodup_map nodup isFirst isSecond (congrArg List.head? same)

theorem sampleWorld_ideal :
    Aead.Ideal sampleWorld.aesGcmDecrypt (ledger sampleWorld sampleUploads []) := by
  rw [ledger_sampleUploads]
  refine Aead.ideal_table fun first isFirst second isSecond same => ?_
  cases sampleLedger_once first isFirst second isSecond same
  exact ⟨rfl, rfl⟩

/-- A bound attachment resolves under the message it was uploaded for, and comes from its
upload. -/
theorem bound_upload_resolves :
    ∃ handle, resolve sampleWorld [sampleAttachment] (.uuid "test") 0
        (some ⟨sampleGroup, sampleSender⟩) (fun _ => ⟨sampleAnswers, sampleAnswers⟩) =
          .ok [handle] ∧
      handle.aadBound = true ∧
      handle.ComesFrom sampleWorld (FromBound sampleWorld sampleUploads sampleBinding) := by
  have isSealed : sampleSealing [2] (sampleAad .metadata) (sampleMetadataBytes "a.txt") ∈
      sampleLedger := List.mem_cons_of_mem _ List.mem_cons_self
  have table : sampleWorld.aesGcmDecrypt [7] ([2] ++ sampleAad .metadata ++
      sampleMetadataBytes "a.txt") [2] (sampleAad .metadata) =
        some (sampleMetadataBytes "a.txt") := Aead.table_of_mem sampleLedger_once isSealed
  have opened : decrypt sampleWorld sampleAnswers (.uuid "test") ⟨[2] ++ sampleAad .metadata ++
      sampleMetadataBytes "a.txt", [2], 0, some (sampleAad .metadata)⟩ =
        .ok (sampleMetadataBytes "a.txt") := by
    simp only [decrypt, sampleAnswers, bind, Except.bind, openWith, additionalData,
      Option.getD_some, table]
  have read : sampleWorld.readMetadata (sampleMetadataBytes "a.txt") =
      .ok (metadataOf sampleStored (sampleFile "a.txt")) := by
    simp only [sampleWorld, ↓reduceIte]
  have isCiphertext : sampleWorld.fromHex sampleAttachment.encryptedMetadata =
      .ok ([2] ++ sampleAad .metadata ++ sampleMetadataBytes "a.txt") := by
    simp only [sampleAttachment_eq, fromHex_encode]
  have isNonce : sampleWorld.fromHex sampleAttachment.metadataNonce = .ok [2] := by
    simp only [sampleAttachment_eq, fromHex_encode]
  obtain ⟨handle, resolved, isBound⟩ : ∃ handle, resolve sampleWorld [sampleAttachment]
      (.uuid "test") 0 (some ⟨sampleGroup, sampleSender⟩)
        (fun _ => ⟨sampleAnswers, sampleAnswers⟩) = .ok [handle] ∧ handle.aadBound = true := by
    apply resolve_bound sampleWorld
    case isCiphertext => exact isCiphertext
    case isNonce => exact isNonce
    case isAad => exact aadFor_sample .metadata
    case isDataAad => exact aadFor_sample .data
    case opened => exact opened
    case isMetadata => exact read
  refine ⟨handle, resolved, isBound, ?_⟩
  rcases handle_provenance sampleWorld_ideal resolved (List.mem_singleton_self handle) with
    ⟨-, parent, sameParent, origin⟩ | ⟨isUnbound, -⟩
  · cases sameParent
    exact origin
  · cases isBound ▸ isUnbound

end Provenance

end MessagingStack.Sdk.Attachments

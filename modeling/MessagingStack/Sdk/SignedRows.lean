import MessagingStack.Base.PrefixCode
import MessagingStack.Relayer.PaymentAgreement
import MessagingStack.Sdk.Verification

/-!
# What a reader verifies

The client that signs, the relayer that accepts, and the client that reads build the text that a
signature covers.  The reader has the fields of the response only, so the question is which part of
the signed text it can rebuild: `readerVerifies_iff` says what it checks, `readerVerifies_accepted`
when that is what was accepted, and `Readable` is the condition on the sender's parameters.
-/

namespace MessagingStack.Sdk.SignedRows

open Relayer Verification

/-! ## The text of a stored row -/

def relayerText (signatureVersion : Int) (groupId kind encryptedText nonce : String)
    (keyVersion : Int) (reference key : Option String) (attachments : List Relayer.Attachment)
    (attribution : MessageAttribution) : String :=
  if signatureVersion = 2 then
    messageContentCanonicalV2 groupId kind encryptedText nonce keyVersion reference key
      attachments attribution
  else messageContentCanonical groupId kind encryptedText nonce keyVersion reference key

def rowText (row : Relayer.Message) (reference key : Option String) : String :=
  relayerText row.signatureVersion row.groupId row.kind.asStr (Hex.encode row.encryptedMsg)
    (Hex.encode row.nonce) row.keyVersion reference key row.attachments row.attribution

theorem verifyMessageSignature_issued {signatures : Signatures} {base : Crates}
    {groupId kind encryptedText nonce : String} {keyVersion : Int} {auth : AuthContext}
    {reference key : Option String} {attribution : MessageAttribution} {signature : Bytes}
    (size : signature.length = 64)
    (issued : signatures.verifies (Text.utf8 (messageContentCanonical groupId kind encryptedText
      nonce keyVersion reference key)) signature auth.publicKey auth.scheme = true) :
    verifyMessageSignature (signatures.crates base) (Hex.encode signature) groupId kind
      encryptedText nonce keyVersion auth reference key 1 [] attribution = .ok signature := by
  simp [verifyMessageSignature, decodeHexField, Hex.decode_encode, size, Signatures.crates,
    issued, bind, Except.bind]

theorem verifyMessageSignature_ok {signatures : Signatures} {base : Crates}
    {signatureHex groupId kind encryptedText nonce : String} {keyVersion : Int}
    {auth : AuthContext} {reference key : Option String} {signatureVersion : Int}
    {attachments : List Relayer.Attachment} {attribution : MessageAttribution}
    {signature : Bytes}
    (accepted : verifyMessageSignature (signatures.crates base) signatureHex groupId kind
      encryptedText nonce keyVersion auth reference key signatureVersion attachments attribution =
        .ok signature) :
    (signatureVersion = 1 ∨ signatureVersion = 2) ∧ signature.length = 64 ∧
      ⟨auth.publicKey, auth.scheme, Text.utf8 (relayerText signatureVersion groupId kind
        encryptedText nonce keyVersion reference key attachments attribution), signature⟩ ∈
          signatures.issued := by
  unfold verifyMessageSignature at accepted
  by_cases known : signatureVersion = 1 ∨ signatureVersion = 2
  · by_cases unbound : signatureVersion = 1 ∧ attachments ≠ []
    · rw [if_neg (not_not_intro known), if_pos unbound] at accepted
      cases accepted
    rw [if_neg (not_not_intro known), if_neg unbound] at accepted
    cases decoded : decodeHexField "Invalid hex in message_signature: " signatureHex with
    | error => cases decoded ▸ accepted
    | ok bytes =>
      rw [decoded] at accepted
      by_cases size : bytes.length = 64
      · simp only [size, Signatures.crates, bind, Except.bind, ne_eq, not_true_eq_false,
          if_false] at accepted
        by_cases issued : signatures.verifies (Text.utf8 (relayerText signatureVersion groupId
            kind encryptedText nonce keyVersion reference key attachments attribution)) bytes
            auth.publicKey auth.scheme = true
        · have issued' := issued
          unfold relayerText at issued'
          cases if_pos issued' ▸ accepted
          exact ⟨known, size, of_decide_eq_true issued⟩
        · unfold relayerText at issued
          cases if_neg issued ▸ accepted
      · simp only [bind, Except.bind, ne_eq, size, not_false_eq_true, if_true] at accepted
        cases accepted
  · cases if_pos known ▸ accepted

/-! ## The text a reader builds -/

/-- The digest a reader finds: that of a transfer row whose metadata is complete. -/
def seenDigest (row : Relayer.Message) : Option String :=
  if row.kind = .tokenTransfer ∧
      (metaStr row "asset_kind").any (fun text => text = "native" ∨ text = "spt") ∧
      (truthy (metaStr row "to")).isSome ∧
      (metaStr row "status").any (["pending", "success", "failed"].contains ·) then
    truthy (metaStr row "digest")
  else none

def seenReference (row : Relayer.Message) : String := Text.trim ((seenDigest row).getD "")

def seenKey (row : Relayer.Message) : String :=
  Text.trim (((seenDigest row).map
    (Verification.transferIdempotencyKey row.senderWalletAddr)).getD "")

variable {row : Relayer.Message} {text : String} {message : Relayer.Message}

theorem truthy_some (nonempty : text ≠ "") : truthy (some text) = some text := by
  simp [truthy, nonempty]

theorem truthy_truthy (text : Option String) : truthy (truthy text) = truthy text := by
  cases text with
  | none => rfl
  | some text =>
    by_cases empty : text = ""
    · rw [empty]
      rfl
    · rw [truthy_some empty, truthy_some empty]

theorem truthy_getD (text : Option String) : (truthy text).getD "" = text.getD "" := by
  cases text with
  | none => rfl
  | some text =>
    by_cases empty : text = ""
    · rw [empty]
      rfl
    · rw [truthy_some empty]

theorem transferDigest_seen (row : Relayer.Message) {raw : Verification.RelayerMessage}
    (kind : raw.kind = row.kind)
    (payment : raw.paymentMetadata =
      parsePaymentMetadata row.kind (if row.kind.isDmPaymentKind then row.metadata else none)) :
    transferDigest raw = seenDigest row := by
  unfold transferDigest seenDigest
  rw [kind, payment]
  by_cases isTransfer : row.kind = .tokenTransfer
  · rw [isTransfer]
    cases isMetadata : row.metadata with
    | none => simp [parsePaymentMetadata, MessageKind.isDmPaymentKind, metaStr, isMetadata]
    | some metadata =>
      -- each condition of the metadata is a filter on one of its strings
      simp only [MessageKind.isDmPaymentKind, if_true, metaStr, isMetadata, Option.bind_some,
        true_and, parsePaymentMetadata, Verification.parseAssetKind, str, ← Option.isSome_filter,
        bind, pure]
      cases Option.filter (fun text => decide (text = "native" ∨ text = "spt"))
          ((metadata.get "asset_kind").bind Json.asStr) with
      | none => rfl
      | some assetKind =>
        cases truthy ((metadata.get "digest").bind Json.asStr) with
        | none => simp
        | some =>
          cases truthy ((metadata.get "to").bind Json.asStr) with
          | none => simp
          | some =>
            cases Option.filter (fun text => ["pending", "success", "failed"].contains text)
                ((metadata.get "status").bind Json.asStr) with
            | none => simp
            | some status => rfl
  simp only [isTransfer, false_and, if_false]
  split
  · contradiction
  · rfl

/-- What a reader takes for the signed parameters of a stored row. -/
def seenParams (row : Relayer.Message) : CanonicalParams where
  groupId := row.groupId
  kind := row.kind.asStr
  signatureVersion := row.signatureVersion
  encryptedText := row.encryptedMsg
  nonce := row.nonce
  keyVersion := row.keyVersion
  sharedPostAddress := none
  transferDigest := seenDigest row
  idempotencyKey := (seenDigest row).map (Verification.transferIdempotencyKey row.senderWalletAddr)
  attachments := row.attachments.map fun attachment => fromWireAttachment (.ofAttachment attachment)
  attribution :=
    if (truthy row.attribution.principalOwner).isSome ||
        (truthy row.attribution.subAgentId).isSome || row.attribution.identityClass.isSome then
      some
        { principalOwner := truthy row.attribution.principalOwner
          subAgentId := truthy row.attribution.subAgentId
          identityClass := row.attribution.identityClass }
    else none

theorem fromWireMessage_ofMessage (row : Relayer.Message) :
    ∃ raw, fromWireMessage (.ofMessage row) = some raw ∧ readerParams raw = seenParams row ∧
      raw.signatureVersion = row.signatureVersion ∧
      raw.signature = Hex.encode row.signature ∧ raw.publicKey = Hex.encode row.publicKey ∧
      raw.senderAddress = row.senderWalletAddr := by
  have kind := parseMessageKind_asStr row.kind
  unfold fromWireMessage
  simp only [MessageResponse.ofMessage, fromHex_encode, kind, bind, Option.bind_some, pure]
  refine ⟨_, rfl, ?_, rfl, rfl, rfl, rfl⟩
  have digest : truthy (seenDigest row) = seenDigest row := by
    unfold seenDigest
    split_ifs
    · exact truthy_truthy _
    · rfl
  have seen : ∀ raw : Verification.RelayerMessage, raw.kind = row.kind →
      raw.paymentMetadata = parsePaymentMetadata row.kind
        (if row.kind.isDmPaymentKind then row.metadata else none) →
      transferDigest raw = seenDigest row :=
    fun raw => transferDigest_seen row
  unfold readerParams seenParams rowAttribution
  rw [seen _ rfl rfl, digest]
  simp only [List.map_map]
  rfl

theorem attributionRow_seen (row : Relayer.Message) :
    attributionRow (seenParams row).attribution =
      Json.array [Json.quote (row.attribution.principalOwner.getD ""),
        Json.quote (row.attribution.subAgentId.getD ""),
        toString (row.attribution.identityClass.getD (-1))] := by
  unfold attributionRow seenParams
  split_ifs with attributed
  · simp only [Option.bind_some, truthy_getD]
  simp only [Bool.or_eq_true, not_or, Bool.not_eq_true, Option.isSome_eq_false_iff,
    Option.isNone_iff_eq_none] at attributed
  obtain ⟨⟨noPrincipal, noAgent⟩, noIdentity⟩ := attributed
  have principal := truthy_getD row.attribution.principalOwner
  have agent := truthy_getD row.attribution.subAgentId
  rw [noPrincipal] at principal
  rw [noAgent] at agent
  rw [← principal, ← agent, noIdentity]
  rfl

theorem boundReference_seen (row : Relayer.Message) :
    boundReference (seenParams row) = seenReference row := by
  have plain : ∀ kind : MessageKind, kind ≠ .tokenTransfer → kind.asStr ≠ "token_transfer" := by
    intro kind
    cases kind <;> decide
  have kind : (seenParams row).kind = row.kind.asStr := rfl
  have post : (seenParams row).sharedPostAddress = none := rfl
  have digest : (seenParams row).transferDigest = seenDigest row := rfl
  unfold boundReference seenReference
  rw [kind, post, digest]
  by_cases isTransfer : row.kind = .tokenTransfer
  · rw [isTransfer]
    rfl
  · have unseen : seenDigest row = none := by simp [seenDigest, isTransfer]
    rw [unseen, if_neg (plain _ isTransfer)]
    split_ifs <;> decide

/-- **The reader's text.** -/
theorem buildCanonicalMessage_seen (known : row.signatureVersion = 1 ∨ row.signatureVersion = 2) :
    buildCanonicalMessage (seenParams row) =
      some (rowText row (some (seenReference row)) (some (seenKey row))) := by
  have reference := boundReference_seen row
  have attribution := attributionRow_seen row
  have key : boundKey (seenParams row) = seenKey row := rfl
  have version : (seenParams row).signatureVersion = row.signatureVersion := rfl
  unfold buildCanonicalMessage rowText relayerText
  rw [version]
  rcases known with isFirst | isSecond
  · rw [isFirst, canonicalV1, messageContentCanonical, reference, key]
    rfl
  rw [isSecond, canonicalV2, messageContentCanonicalV2, reference, key, attribution]
  simp only [seenParams, List.map_map, Function.comp_def, attachmentRow, fromWireAttachment,
    AttachmentResponse.ofAttachment, Hex.toAsciiLowercase_encode, List.map_cons, List.map_nil,
    Option.getD_some, if_true]

theorem encode_eq_empty (bytes : Bytes) : Hex.encode bytes = "" ↔ bytes = [] := by
  constructor
  · intro empty
    exact Hex.encode_injective (empty.trans (by decide))
  · rintro rfl
    decide

section Reading

variable {signatures : Signatures} {address : Bytes → String}

theorem readerVerifies_iff (row : Relayer.Message) :
    readerVerifies signatures address row = true ↔
      (row.signatureVersion = 1 ∨ row.signatureVersion = 2) ∧ row.signature ≠ [] ∧
      ∃ flag key scheme, row.publicKey = flag :: key ∧ schemeOf flag = some scheme ∧
        ⟨key, scheme, Text.utf8 (rowText row (some (seenReference row)) (some (seenKey row))),
          row.signature⟩ ∈ signatures.issued ∧
        address (flag :: key) = row.senderWalletAddr := by
  obtain ⟨raw, converted, params, version, signature, publicKey, sender⟩ :=
    fromWireMessage_ofMessage row
  rw [readerVerifies, converted, Option.any_some]
  unfold verifyRawMessage
  rw [version, signature, publicKey, params, sender]
  by_cases known : row.signatureVersion = 1 ∨ row.signatureVersion = 2
  · have canonical := buildCanonicalMessage_seen known
    rw [if_neg (by omega)]
    by_cases unsigned : row.signature = []
    · simp [unsigned, (encode_eq_empty []).mpr rfl]
    cases isKey : row.publicKey with
    | nil => simp [(encode_eq_empty []).mpr rfl]
    | cons flag key =>
      have hasSignature : Hex.encode row.signature ≠ "" := by
        simpa only [ne_eq, encode_eq_empty] using unsigned
      have hasKey : Hex.encode (flag :: key) ≠ "" := by
        simp only [ne_eq, encode_eq_empty, reduceCtorEq, not_false_eq_true]
      rw [if_pos ⟨hasSignature, hasKey⟩]
      unfold verifyMessageSender
      rw [canonical, fromHex_encode, fromHex_encode]
      cases isScheme : schemeOf flag with
      | none =>
        simp only [isScheme, Bool.false_eq_true, false_iff]
        rintro ⟨-, -, flag', key', scheme, same, isScheme', -⟩
        obtain ⟨rfl, rfl⟩ := List.cons.inj same
        cases isScheme ▸ isScheme'
      | some scheme =>
        simp only [isScheme, Signatures.verifies, Bool.and_eq_true, decide_eq_true_eq, beq_iff_eq]
        constructor
        · rintro ⟨issued, ownKey⟩
          exact ⟨known, unsigned, flag, key, scheme, rfl, isScheme, issued, ownKey⟩
        rintro ⟨-, -, flag', key', scheme', same, isScheme', issued, ownKey⟩
        obtain ⟨rfl, rfl⟩ := List.cons.inj same
        cases isScheme ▸ isScheme'
        exact ⟨issued, ownKey⟩
  · rw [if_pos (by omega)]
    simp only [Bool.false_eq_true, known, false_and]

theorem schemeOf_flag (scheme : SignatureScheme) : schemeOf scheme.flag = some scheme := by
  cases scheme <;> rfl

theorem readerVerifies_accepted {row : Relayer.Message} {auth : AuthContext}
    {reference key : Option String}
    (known : row.signatureVersion = 1 ∨ row.signatureVersion = 2) (signed : row.signature ≠ [])
    (accepted : ⟨auth.publicKey, auth.scheme, Text.utf8 (rowText row reference key),
      row.signature⟩ ∈ signatures.issued)
    (stored : row.publicKey = auth.storedPublicKey)
    (own : auth.zklogin = false → address auth.storedPublicKey = row.senderWalletAddr) :
    readerVerifies signatures address row = true ↔
      auth.zklogin = false ∧
        rowText row (some (seenReference row)) (some (seenKey row)) =
          rowText row reference key := by
  rw [readerVerifies_iff, stored]
  constructor
  · rintro ⟨-, -, flag, publicKey, scheme, isKey, isScheme, issued, -⟩
    have same := signatures.unique _ issued _ accepted rfl
    have texts : rowText row (some (seenReference row)) (some (seenKey row)) =
        rowText row reference key := utf8_injective (congrArg Issued.message same)
    refine ⟨?_, texts⟩
    -- the flag of a zkLogin sender is that of no keypair
    cases isZklogin : auth.zklogin with
    | false => rfl
    | true =>
      simp only [AuthContext.storedPublicKey, isZklogin, if_true] at isKey
      obtain ⟨rfl, -⟩ := List.cons.inj isKey
      cases isScheme
  rintro ⟨isKeypair, texts⟩
  rw [texts]
  have ownKey := own isKeypair
  simp only [AuthContext.storedPublicKey, isKeypair, Bool.false_eq_true, if_false] at ownKey ⊢
  exact ⟨known, signed, auth.scheme.flag, auth.publicKey, auth.scheme, rfl,
    schemeOf_flag auth.scheme, accepted, ownKey⟩

end Reading

/-! ## When two texts of a row agree -/

section Texts

variable {row : Relayer.Message} {reference key reference' key' : Option String}

/-- The kinds whose version 1 text has a reference and a key. -/
def bindsReference (kind : MessageKind) : Bool := kind == .post || kind == .tokenTransfer

theorem bindsReference_iff (kind : MessageKind) :
    (kind.asStr = "post" ∨ kind.asStr = "token_transfer") ↔ bindsReference kind = true := by
  cases kind <;> decide

theorem rowText_congr (references : reference.getD "" = reference'.getD "")
    (keys : key.getD "" = key'.getD "") :
    rowText row reference key = rowText row reference' key' := by
  unfold rowText relayerText messageContentCanonical messageContentCanonicalV2
  rw [references, keys]

theorem rowText_first (isFirst : row.signatureVersion = 1) :
    rowText row reference key =
      messageContentCanonical row.groupId row.kind.asStr (Hex.encode row.encryptedMsg)
        (Hex.encode row.nonce) row.keyVersion reference key := by
  unfold rowText relayerText
  rw [if_neg (by omega)]

theorem rowText_second (isSecond : row.signatureVersion = 2) :
    rowText row reference key =
      messageContentCanonicalV2 row.groupId row.kind.asStr (Hex.encode row.encryptedMsg)
        (Hex.encode row.nonce) row.keyVersion reference key row.attachments
        row.attribution := by
  unfold rowText relayerText
  rw [if_pos isSecond]

theorem rowText_first_plain (isFirst : row.signatureVersion = 1)
    (plain : bindsReference row.kind = false) :
    rowText row reference key = rowText row reference' key' := by
  have unbound : ¬(row.kind.asStr = "post" ∨ row.kind.asStr = "token_transfer") := by
    rw [bindsReference_iff, plain]
    exact Bool.false_ne_true
  rw [rowText_first isFirst, rowText_first isFirst, messageContentCanonical,
    messageContentCanonical, if_neg unbound, if_neg unbound]

theorem rowText_first_bound (isFirst : row.signatureVersion = 1)
    (bound : bindsReference row.kind = true)
    (same : rowText row (some "") (some "") = rowText row reference key) :
    reference.getD "" = "" := by
  have isBound := (bindsReference_iff row.kind).mpr bound
  rw [rowText_first isFirst, rowText_first isFirst, messageContentCanonical,
    messageContentCanonical, if_pos isBound, if_pos isBound] at same
  have lengths := congrArg String.length same
  simp only [String.intercalate_cons_cons, String.length_append, Option.getD_some,
    String.length_empty] at lengths
  have noReference : (reference.getD "").length = 0 := by omega
  exact String.length_eq_zero_iff.mp noReference

theorem rowText_second_inj (isSecond : row.signatureVersion = 2)
    (same : rowText row reference key = rowText row reference' key') :
    reference.getD "" = reference'.getD "" ∧ key.getD "" = key'.getD "" := by
  rw [rowText_second isSecond, rowText_second isSecond] at same
  obtain ⟨-, fromGroup⟩ := Json.array_cons_inj Json.quote_prefixCode same
  obtain ⟨-, fromKind⟩ := Json.arrayTail_cons_inj Json.quote_prefixCode fromGroup
  obtain ⟨-, fromReference⟩ := Json.arrayTail_cons_inj Json.quote_prefixCode fromKind
  obtain ⟨references, fromKey⟩ := Json.arrayTail_cons_inj Json.quote_prefixCode fromReference
  obtain ⟨keys, -⟩ := Json.arrayTail_cons_inj Json.quote_prefixCode fromKey
  exact ⟨references, keys⟩

end Texts

/-! ## Rows over time -/

open TransferConfirmation in
/-- The row of a message at some later time.  The place, the times, the archive state and the
payment status of a row change; nothing of them is signed. -/
structure Serves (message row : Relayer.Message) : Prop where
  groupId : row.groupId = message.groupId
  sender : row.senderWalletAddr = message.senderWalletAddr
  encryptedMsg : row.encryptedMsg = message.encryptedMsg
  nonce : row.nonce = message.nonce
  keyVersion : row.keyVersion = message.keyVersion
  attachments : row.attachments = message.attachments
  signature : row.signature = message.signature
  signatureVersion : row.signatureVersion = message.signatureVersion
  publicKey : row.publicKey = message.publicKey
  attribution : row.attribution = message.attribution
  kind : row.kind = message.kind
  metadata : message.kind = .tokenTransfer → ∀ key ∈ ["digest", "asset_kind", "to"],
    metaStr row key = metaStr message key
  status : message.kind = .tokenTransfer →
    ∃ status ∈ ["pending", "success", "failed"], metaStr row "status" = some status

/-! ## New rows -/

section Creation

variable {crates : Crates} {services : Services} {auth : AuthContext} {app : AppState}
  {req : CreateMessageRequest} {prepared : PreparedMessage} {text : String} {bytes : Bytes}
  {message : Relayer.Message} {key : String} {raw : Option String}

theorem decodeHexField_ok {label : String} (decoded : decodeHexField label text = .ok bytes) :
    Hex.decode text = .ok bytes := by
  unfold decodeHexField at decoded
  cases isBytes : Hex.decode text with
  | error => cases isBytes ▸ decoded
  | ok =>
    cases isBytes ▸ decoded
    rfl

theorem decodeNonce_ok (decoded : decodeNonce text = .ok bytes) : Hex.decode text = .ok bytes := by
  unfold decodeNonce at decoded
  cases isBytes : decodeHexField "Invalid hex in nonce: " text with
  | error => cases isBytes ▸ decoded
  | ok =>
    rw [isBytes] at decoded
    simp only [bind, Except.bind] at decoded
    split_ifs at decoded
    cases decoded
    exact decodeHexField_ok isBytes

/-- Where the signed parts of a decoded request come from. -/
structure DecodedFrom (crates : Crates) (req : CreateMessageRequest)
    (prepared : PreparedMessage) : Prop where
  encryptedMsg : Hex.decode req.encryptedText = .ok prepared.encryptedMsg
  nonce : Hex.decode req.nonce = .ok prepared.nonce
  kind : MessageKind.parseClientKind (req.kind.getD "text") = some prepared.kind
  idempotencyKey : prepared.idempotencyKey = trimmedKey req.idempotencyKey
  sharedPost : parseSharedPost prepared.kind req.sharedPostAddress prepared.idempotencyKey =
    .ok prepared.sharedPostAddress
  transfer : parsePayment (prepared.kind == .tokenTransfer)
    (parseTokenTransferCreate crates.parseUuid req.metadata prepared.idempotencyKey
      req.senderAddress) = .ok prepared.transferCreate

theorem prepareMessage_decodedFrom (isPrepared : prepareMessage crates req = .ok prepared) :
    DecodedFrom crates req prepared := by
  unfold prepareMessage at isPrepared
  simp only [bind, Except.bind] at isPrepared
  repeat' split at isPrepared
  all_goals cases isPrepared
  exact
    { encryptedMsg := decodeHexField_ok (by assumption)
      nonce := decodeNonce_ok (by assumption)
      kind := by assumption
      idempotencyKey := rfl
      sharedPost := by assumption
      transfer := by assumption }

theorem checkMessage_signed {transfer : Option TokenTransferCreate}
    (passed : checkMessage crates services auth req prepared app = .ok (message, transfer)) :
    ∃ signature paymentPeer,
      checkSignature crates auth req prepared = .ok signature ∧
        checkPaymentPeer prepared (dmPeer services app req prepared.kind) = .ok paymentPeer ∧
        message = buildMessage crates services auth req prepared signature transfer paymentPeer ∧
        transfer = resolveLink app req prepared.transferCreate := by
  unfold checkMessage at passed
  simp only [bind, Except.bind] at passed
  repeat' split at passed
  all_goals cases passed
  exact ⟨_, _, by assumption, by assumption, rfl, rfl⟩

theorem buildMessage_signed (signature : Bytes) (transfer : Option TokenTransferCreate)
    (paymentPeer : Option String)
    (isMessage : message =
      buildMessage crates services auth req prepared signature transfer paymentPeer)
    :
    message.groupId = req.groupId ∧ message.senderWalletAddr = req.senderAddress ∧
      message.encryptedMsg = prepared.encryptedMsg ∧ message.nonce = prepared.nonce ∧
      message.keyVersion = req.keyVersion ∧ message.attachments = prepared.attachments ∧
      message.signature = signature ∧ message.signatureVersion = req.signatureVersion ∧
      message.publicKey = auth.storedPublicKey ∧ message.attribution = prepared.attribution ∧
      message.kind = prepared.kind := by
  subst isMessage
  unfold buildMessage
  split <;> exact ⟨rfl, rfl, rfl, rfl, rfl, rfl, rfl, rfl, rfl, rfl, rfl⟩

theorem trim_strField {metadata : Json} (found : strField metadata key = some text) :
    Text.trim text = text := by
  obtain ⟨raw, -, rfl⟩ := Option.map_eq_some_iff.mp found
  exact trim_trim raw

theorem digest_nonempty {digest : String} (valid : ¬(!isValidTxDigest digest) = true) :
    digest ≠ "" := by
  rintro rfl
  exact valid (by decide)

theorem parseTokenTransferCreate_ok {parseUuid : String → Option Uuid} {metadata : Option Json}
    {key : Option String} {sender : String} {create : TokenTransferCreate}
    (parsed : parseTokenTransferCreate parseUuid metadata key sender = .ok create) :
    Text.trim create.digest = create.digest ∧ create.digest ≠ "" ∧
      key = some (Relayer.transferIdempotencyKey sender create.digest) := by
  cases metadata with
  | none => cases parsed
  | some metadata =>
    unfold parseTokenTransferCreate at parsed
    simp only [bind, Except.bind] at parsed
    cases isDigest : strField metadata "digest" with
    | none => cases isDigest ▸ parsed
    | some digest =>
      simp only [isDigest] at parsed
      by_cases invalid : (!isValidTxDigest digest) = true
      · cases if_pos invalid ▸ parsed
      rw [if_neg invalid] at parsed
      by_cases bound : key = some (Relayer.transferIdempotencyKey sender digest)
      · have isCreate : create.digest = digest := by
          repeat' split at parsed
          all_goals cases parsed
          all_goals rfl
        rw [isCreate]
        exact ⟨trim_strField isDigest, digest_nonempty invalid, bound⟩
      repeat' split at parsed
      all_goals first
        | exact absurd (not_not.mp (by assumption)) bound
        | cases parsed

theorem parseSharedPost_ok {kind : MessageKind} {key bound : Option String}
    (parsed : parseSharedPost kind raw key = .ok bound) :
    if kind = .post then ∃ address, bound = some address ∧ address ≠ "" else bound = none := by
  unfold parseSharedPost at parsed
  by_cases isPost : kind = .post
  · rw [if_pos isPost] at parsed ⊢
    cases isRaw : trimmedKey raw with
    | none => cases isRaw ▸ parsed
    | some raw =>
      rw [isRaw] at parsed
      cases normalized : Relayer.normalizeSharedPostAddress raw with
      | none =>
        simp only [normalized] at parsed
        cases parsed
      | some address =>
        simp only [normalized] at parsed
        by_cases keyless : key.isNone = true
        · cases if_pos keyless ▸ parsed
        cases if_neg keyless ▸ parsed
        refine ⟨address, rfl, ?_⟩
        rintro rfl
        unfold Relayer.normalizeSharedPostAddress Text.normalizeHexAddress at normalized
        split at normalized
        · split_ifs at normalized
          have chars := congrArg String.toList (Option.some.inj normalized)
          simp at chars
        · cases normalized
  · rw [if_neg isPost] at parsed ⊢
    cases parsed
    rfl

theorem parsePayment_of_isKind {α : Type} {parse : Except PaymentMetadataError α} {create : α}
    (parsed : parsePayment true parse = .ok (some create)) : parse = .ok create := by
  cases parse with
  | error => cases parsed
  | ok =>
    cases parsed
    rfl

theorem resolveLink_digest (app : AppState) (req : CreateMessageRequest)
    (create : TokenTransferCreate) :
    ∃ kept, resolveLink app req (some create) = some kept ∧ kept.digest = create.digest := by
  unfold resolveLink
  refine ⟨_, rfl, ?_⟩
  dsimp only
  split
  · split_ifs <;> rfl
  · rfl

theorem checkPaymentPeer_of_payment {peer paymentPeer : Option String}
    (payment : prepared.kind.isDmPaymentKind = true)
    (peered : checkPaymentPeer prepared peer = .ok paymentPeer) :
    ∃ wallet, peer = some wallet ∧ paymentPeer = some wallet := by
  unfold checkPaymentPeer at peered
  rw [if_pos payment] at peered
  split_ifs at peered
  cases peer with
  | none => cases peered
  | some wallet =>
    cases peered
    exact ⟨wallet, rfl, rfl⟩

theorem trimmedKey_trimmed (isKey : trimmedKey raw = some key) : Text.trim key = key := by
  obtain ⟨isTrimmed, -⟩ := Option.filter_eq_some_iff.mp isKey
  obtain ⟨text, -, rfl⟩ := Option.map_eq_some_iff.mp isTrimmed
  exact trim_trim text

theorem trimmedKey_eq_none (key : Option String) :
    (trimmedKey key).getD "" = "" ↔ Text.trim (key.getD "") = "" := by
  cases key with
  | none =>
    have blank : Text.trim "" = "" := by decide
    rw [Option.getD_none, blank]
    rfl
  | some key =>
    have trimmed : trimmedKey (some key) = truthy (some (Text.trim key)) := rfl
    rw [trimmed, truthy_getD, Option.getD_some, Option.getD_some]

end Creation

/-! ## Which part of the signed text a reader has -/

section Seen

variable {row : Relayer.Message} {reference key : Option String}

theorem seen_of_unseen (unseen : seenDigest row = none) :
    seenReference row = "" ∧ seenKey row = "" := by
  have blank : Text.trim "" = "" := by decide
  rw [seenReference, seenKey, unseen]
  exact ⟨blank, blank⟩

theorem unseen_of_kind (other : row.kind ≠ .tokenTransfer) : seenDigest row = none := by
  simp [seenDigest, other]

theorem plain_agrees_iff (known : row.signatureVersion = 1 ∨ row.signatureVersion = 2)
    (plain : bindsReference row.kind = false) :
    rowText row (some (seenReference row)) (some (seenKey row)) = rowText row none key ↔
      row.signatureVersion = 1 ∨ key.getD "" = "" := by
  have other : row.kind ≠ .tokenTransfer := by
    intro isTransfer
    cases isTransfer ▸ plain
  obtain ⟨noReference, noKey⟩ := seen_of_unseen (unseen_of_kind other)
  rw [noReference, noKey]
  constructor
  · intro same
    rcases known with isFirst | isSecond
    · exact .inl isFirst
    · exact .inr (rowText_second_inj isSecond same).2.symm
  · rintro (isFirst | noKey)
    · exact rowText_first_plain isFirst plain
    · exact rowText_congr rfl noKey.symm

theorem hidden_disagrees (known : row.signatureVersion = 1 ∨ row.signatureVersion = 2)
    (bound : bindsReference row.kind = true) (unseen : seenDigest row = none)
    (signed : reference.getD "" ≠ "") :
    rowText row (some (seenReference row)) (some (seenKey row)) ≠ rowText row reference key := by
  obtain ⟨noReference, noKey⟩ := seen_of_unseen unseen
  rw [noReference, noKey]
  intro same
  rcases known with isFirst | isSecond
  · exact signed (rowText_first_bound isFirst bound same)
  · exact signed (rowText_second_inj isSecond same).1.symm

theorem seen_agrees {digest : String} (seen : seenDigest row = some digest)
    (trimmed : Text.trim digest = digest)
    (trimmedKey : Text.trim (Relayer.transferIdempotencyKey row.senderWalletAddr digest) =
      Relayer.transferIdempotencyKey row.senderWalletAddr digest) :
    rowText row (some (seenReference row)) (some (seenKey row)) =
      rowText row (some digest)
        (some (Relayer.transferIdempotencyKey row.senderWalletAddr digest)) := by
  rw [seenReference, seenKey, seen]
  exact rowText_congr trimmed trimmedKey

end Seen

theorem Serves.rowText (serves : Serves message row) (reference key : Option String) :
    rowText row reference key = rowText message reference key := by
  unfold SignedRows.rowText
  rw [serves.groupId, serves.encryptedMsg, serves.nonce, serves.keyVersion, serves.attachments,
    serves.signatureVersion, serves.attribution, serves.kind]

theorem Serves.seenDigest (serves : Serves message row) (isTransfer : message.kind = .tokenTransfer)
    {uuidToString : Uuid → String} {create : TokenTransferCreate} {peer : String}
    (metadata : message.metadata = some (tokenTransferMetadata uuidToString create peer))
    (nonempty : create.digest ≠ "") :
    seenDigest row = if peer = "" then none else some create.digest := by
  have field : ∀ key ∈ ["digest", "asset_kind", "to"], metaStr row key =
      ((tokenTransferMetadata uuidToString create peer).get key).bind Json.asStr := by
    intro key signed
    rw [serves.metadata isTransfer key signed, metaStr, metadata]
    rfl
  have digest : metaStr row "digest" = some create.digest := field _ (by decide)
  have assetKind : metaStr row "asset_kind" = some create.assetKind.asStr := field _ (by decide)
  have recipient : metaStr row "to" = some peer := field _ (by decide)
  obtain ⟨status, known, isStatus⟩ := serves.status isTransfer
  have isKnown : ["pending", "success", "failed"].contains status = true := by
    simpa only [List.contains_iff_mem] using known
  have isAsset : create.assetKind.asStr = "native" ∨ create.assetKind.asStr = "spt" := by
    cases create.assetKind <;> decide
  unfold SignedRows.seenDigest
  rw [digest, assetKind, recipient, isStatus, truthy_some nonempty]
  by_cases nobody : peer = ""
  · rw [if_pos nobody, nobody]
    exact if_neg fun complete => absurd complete.2.2.1 (by decide)
  · rw [if_neg nobody, truthy_some nobody]
    refine if_pos ⟨serves.kind.trans isTransfer, ?_, rfl, isKnown⟩
    exact decide_eq_true isAsset

/-! ## Creating a row -/

/-- What the authentication middleware establishes about a client whose wallet is `sender`: the
request names the wallet and the group, and a keypair belongs to the wallet. -/
structure Authenticated (address : Bytes → String) (auth : AuthContext)
    (groupId sender : String) : Prop where
  group : auth.authorizedGroup = some groupId
  wallet : auth.senderAddress = sender
  keypair : auth.zklogin = false → address auth.storedPublicKey = sender

/-- Whether the response shows a reader what was signed beside the content. -/
def Readable (params : SendMessageParams) (peer : Option String) : Prop :=
  if params.kind.getD "text" = "post" then False
  else if params.kind.getD "text" = "token_transfer" then peer ≠ some ""
  else params.signatureVersion.getD 1 = 1 ∨ Text.trim (params.idempotencyKey.getD "") = ""

theorem asStr_of_parseClientKind {kind : MessageKind}
    (parsed : MessageKind.parseClientKind text = some kind) : kind.asStr = text := by
  unfold MessageKind.parseClientKind at parsed
  split_ifs at parsed with h h h h h h h h <;> cases parsed <;> exact h.symm

section Creating

variable {signatures : Signatures} {address : Bytes → String} {base : Crates}
  {services : Services} {auth : AuthContext} {app : AppState} {params : SendMessageParams}
  {sender : String} {prepared : PreparedMessage} {message row : Relayer.Message}
  {transfer : Option TokenTransferCreate}

theorem created_agrees_iff
    (decoded : DecodedFrom (signatures.crates base) (sendMessageBody params sender) prepared)
    (passed : checkMessage (signatures.crates base) services auth
      (sendMessageBody params sender) prepared app = .ok (message, transfer))
    (serves : Serves message row)
    (known : row.signatureVersion = 1 ∨ row.signatureVersion = 2) :
    rowText row (some (seenReference row)) (some (seenKey row)) =
        rowText row (signedBind prepared) prepared.idempotencyKey ↔
      Readable params (dmPeer services app (sendMessageBody params sender) .tokenTransfer) := by
  obtain ⟨signature, paymentPeer, -, peered, isMessage, isTransfer⟩ := checkMessage_signed passed
  obtain ⟨-, isSender, -, -, -, -, -, version, -, -, isKind⟩ :=
    buildMessage_signed signature transfer paymentPeer isMessage
  have kind : row.kind = prepared.kind := serves.kind.trans isKind
  have name : prepared.kind.asStr = params.kind.getD "text" := asStr_of_parseClientKind decoded.kind
  have post := parseSharedPost_ok decoded.sharedPost
  have hasTransfer := PaymentSettlement.parsePayment_isSome decoded.transfer
  unfold Readable
  rw [← name]
  by_cases isPost : prepared.kind = .post
  · -- a reader has no post address
    rw [if_pos isPost] at post
    obtain ⟨bound, isBound, nonempty⟩ := post
    have noTransfer : seenDigest row = none := unseen_of_kind (by rw [kind, isPost]; decide)
    rw [if_pos (by rw [isPost]; rfl)]
    refine iff_of_false ?_ id
    refine hidden_disagrees known (by rw [kind, isPost]; rfl) noTransfer ?_
    rw [signedBind, isBound]
    exact nonempty
  rw [if_neg isPost] at post
  by_cases isPayment : prepared.kind = .tokenTransfer
  · -- the digest is in the metadata, and the key follows from it
    rw [if_neg (by rw [isPayment]; decide), if_pos (by rw [isPayment]; rfl)]
    have isParsed := decoded.transfer
    rw [isPayment] at hasTransfer isParsed peered
    obtain ⟨create, isCreate⟩ := Option.isSome_iff_exists.mp hasTransfer
    rw [isCreate] at isParsed isTransfer
    obtain ⟨trimmed, nonempty, isKey⟩ :=
      parseTokenTransferCreate_ok (parsePayment_of_isKind isParsed)
    obtain ⟨kept, isKept, digest⟩ := resolveLink_digest app (sendMessageBody params sender) create
    obtain ⟨peer, isPeer, rfl⟩ := checkPaymentPeer_of_payment (by rw [isPayment]; rfl) peered
    have metadata : message.metadata =
        some (tokenTransferMetadata (signatures.crates base).uuidToString kept peer) := by
      rw [isMessage, isTransfer, isKept]
      rfl
    have seen := serves.seenDigest (isKind.trans isPayment) metadata (digest ▸ nonempty)
    have bind : signedBind prepared = some create.digest := by rw [signedBind, post, isCreate]
    have owner : row.senderWalletAddr = (sendMessageBody params sender).senderAddress :=
      serves.sender.trans isSender
    rw [digest] at seen
    rw [bind, isPeer, isKey]
    by_cases nobody : peer = ""
    · rw [if_pos nobody] at seen
      rw [nobody]
      refine iff_of_false ?_ (fun differs => differs rfl)
      exact hidden_disagrees known (by rw [kind, isPayment]; rfl) seen nonempty
    rw [if_neg nobody] at seen
    refine iff_of_true ?_ (fun same => nobody (Option.some.inj same))
    have trimmedKey := trimmedKey_trimmed (decoded.idempotencyKey.symm.trans isKey)
    rw [← owner] at trimmedKey ⊢
    exact seen_agrees seen trimmed trimmedKey
  -- nothing is referred to
  have noTransfer : prepared.transferCreate = none := by
    rw [← Option.not_isSome_iff_eq_none, hasTransfer]
    simpa using isPayment
  have bind : signedBind prepared = none := by rw [signedBind, post, noTransfer]
  have plain : bindsReference row.kind = false := by
    rw [kind]
    cases isKind : prepared.kind <;> first | rfl | contradiction
  have unbound : ¬(prepared.kind.asStr = "post" ∨ prepared.kind.asStr = "token_transfer") := by
    rw [bindsReference_iff, ← kind, plain]
    exact Bool.false_ne_true
  have isVersion : row.signatureVersion = params.signatureVersion.getD 1 :=
    serves.signatureVersion.trans version
  have isKey : prepared.idempotencyKey.getD "" = "" ↔
      Text.trim (params.idempotencyKey.getD "") = "" := by
    rw [decoded.idempotencyKey, trimmedKey_eq_none]
    simp only [sendMessageBody, truthy_getD]
  rw [bind, plain_agrees_iff known plain, isKey, isVersion, if_neg fun h => unbound (.inl h),
    if_neg fun h => unbound (.inr h)]

variable {bytes : Bytes} {crates : Crates} {req : CreateMessageRequest}

theorem decode_encode_eq {found : Bytes} (decoded : Hex.decode (Hex.encode bytes) = .ok found) :
    found = bytes := by
  rw [Hex.decode_encode] at decoded
  exact (Except.ok.inj decoded).symm

theorem ne_nil_of_length (size : bytes.length = 64) : bytes ≠ [] := by
  rintro rfl
  cases size

/-- The row `create_message` stores.  The epoch check of a commit row comes in between, and
does not look at the row. -/
def acceptedRow (crates : Crates) (services : Services) (auth : AuthContext)
    (req : CreateMessageRequest) (app : AppState) : Option Relayer.Message :=
  match prepareMessage crates req with
  | .error _ => none
  | .ok prepared =>
    match checkMessage crates services auth req prepared app with
    | .error _ => none
    | .ok (message, _) => some message

theorem acceptedRow_eq_some (accepted : acceptedRow crates services auth req app = some message) :
    ∃ prepared transfer, prepareMessage crates req = .ok prepared ∧
      checkMessage crates services auth req prepared app = .ok (message, transfer) := by
  unfold acceptedRow at accepted
  cases isPrepared : prepareMessage crates req with
  | error => cases isPrepared ▸ accepted
  | ok prepared =>
    rw [isPrepared] at accepted
    dsimp only at accepted
    cases passed : checkMessage crates services auth req prepared app with
    | error => cases passed ▸ accepted
    | ok result =>
      cases passed ▸ accepted
      exact ⟨prepared, result.2, rfl, passed⟩

theorem acceptedRow_serves (accepted : acceptedRow crates services auth req app = some message) :
    Serves message message := by
  obtain ⟨prepared, transfer, isPrepared, passed⟩ := acceptedRow_eq_some accepted
  obtain ⟨created, -, -, -⟩ := PaymentSettlement.checkMessage_created isPrepared passed
  refine ⟨rfl, rfl, rfl, rfl, rfl, rfl, rfl, rfl, rfl, rfl, rfl, fun _ _ _ => rfl, ?_⟩
  intro isTransfer
  cases created with
  | transfer create recipient kind metadata =>
    refine ⟨"pending", by decide, ?_⟩
    rw [metaStr, metadata]
    rfl
  | request create payer kind => cases kind ▸ isTransfer
  | other kind => cases isTransfer ▸ kind

theorem created_verifies_iff
    (authenticated : Authenticated address auth params.groupId sender)
    (stored : acceptedRow (signatures.crates base) services auth (sendMessageBody params sender)
      app = some message)
    (serves : Serves message row) :
    readerVerifies signatures address row = true ↔
      auth.zklogin = false ∧ Readable params
        (dmPeer services app (sendMessageBody params sender) .tokenTransfer) := by
  obtain ⟨prepared, transfer, isPrepared, passed⟩ := acceptedRow_eq_some stored
  have decoded := prepareMessage_decodedFrom isPrepared
  obtain ⟨signature, paymentPeer, accepted, -, isMessage, -⟩ := checkMessage_signed passed
  obtain ⟨groupId, owner, encryptedMsg, nonce, keyVersion, attachments, isSignature, version,
    publicKey, attribution, kind⟩ := buildMessage_signed signature transfer paymentPeer isMessage
  obtain ⟨known, size, issued⟩ := verifyMessageSignature_ok accepted
  have content : prepared.encryptedMsg = params.encryptedText :=
    decode_encode_eq decoded.encryptedMsg
  have isNonce : prepared.nonce = params.nonce := decode_encode_eq decoded.nonce
  have isKnown : row.signatureVersion = 1 ∨ row.signatureVersion = 2 := by
    rw [serves.signatureVersion, version]
    exact known
  have text : rowText message (signedBind prepared) prepared.idempotencyKey =
      relayerText (sendMessageBody params sender).signatureVersion
        (sendMessageBody params sender).groupId prepared.kind.asStr
        (sendMessageBody params sender).encryptedText (sendMessageBody params sender).nonce
        (sendMessageBody params sender).keyVersion (signedBind prepared)
        prepared.idempotencyKey prepared.attachments prepared.attribution := by
    unfold rowText
    rw [groupId, encryptedMsg, nonce, keyVersion, attachments, version, attribution, kind,
      content, isNonce]
    rfl
  rw [← text, ← serves.rowText, ← isSignature, ← serves.signature] at issued
  rw [readerVerifies_accepted isKnown _ issued (serves.publicKey.trans publicKey),
    created_agrees_iff decoded passed serves isKnown]
  · rw [serves.sender, owner]
    exact authenticated.keypair
  · rw [serves.signature, isSignature]
    exact ne_nil_of_length size

end Creating

/-! ## Editing a row -/

section Editing

variable {signatures : Signatures} {address : Bytes → String} {base : Crates} {auth : AuthContext}
  {app : AppState} {params : UpdateMessageParams} {sender : String} {existing row : Relayer.Message}
  {crates : Crates} {req : UpdateMessageRequest} {now : Timestamp}

theorem ownRow_ok {id : Uuid} (owned : ownRow crates auth id app = .ok row)
    (found : app.storage.getMessage id = .ok existing) :
    row = existing ∧ auth.authorizedGroup = some existing.groupId := by
  unfold ownRow at owned
  simp only [bind, Except.bind, found, fromStorage] at owned
  split_ifs at owned with otherGroup
  cases owned
  exact ⟨rfl, not_not.mp otherGroup⟩

theorem checkUpdate_ok {encryptedMsg nonce signature : Bytes}
    {attachments : List Relayer.Attachment}
    (passed : checkUpdate crates auth req app = .ok (encryptedMsg, nonce, attachments, signature))
    (found : app.storage.getMessage req.messageId = .ok existing) :
    auth.authorizedGroup = some existing.groupId ∧ existing.kind ≠ .post ∧
      existing.kind.isDmPaymentKind ≠ true ∧
      existing.senderWalletAddr = auth.senderAddress ∧
      Hex.decode req.encryptedText = .ok encryptedMsg ∧ Hex.decode req.nonce = .ok nonce ∧
      verifyMessageSignature crates req.messageSignature req.groupId existing.kind.asStr
        req.encryptedText req.nonce req.keyVersion auth none none req.signatureVersion
        attachments existing.attribution = .ok signature := by
  unfold checkUpdate at passed
  simp only [bind, Except.bind] at passed
  cases owned : ownRow crates auth req.messageId app with
  | error => cases owned ▸ passed
  | ok =>
    obtain ⟨rfl, group⟩ := ownRow_ok owned found
    rw [owned] at passed
    dsimp only at passed
    repeat' split at passed
    all_goals cases passed
    exact ⟨group, by assumption, by assumption, not_not.mp (by assumption),
      decodeHexField_ok (by assumption), decodeNonce_ok (by assumption), by assumption⟩

/-- The row `update_message` stores. -/
def editedRow (crates : Crates) (now : Timestamp) (auth : AuthContext)
    (req : UpdateMessageRequest) (app : AppState) : Option Relayer.Message :=
  match app.storage.getMessage req.messageId, checkUpdate crates auth req app with
  | .ok existing, .ok (encryptedMsg, nonce, attachments, signature) =>
    some (existing.updateContent now encryptedMsg nonce req.keyVersion attachments signature
      req.signatureVersion auth.storedPublicKey)
  | _, _ => none

theorem editedRow_eq_some (edited : editedRow crates now auth req app = some row) :
    ∃ existing encryptedMsg nonce attachments signature,
      app.storage.getMessage req.messageId = .ok existing ∧
      checkUpdate crates auth req app = .ok (encryptedMsg, nonce, attachments, signature) ∧
      row = existing.updateContent now encryptedMsg nonce req.keyVersion attachments signature
        req.signatureVersion auth.storedPublicKey := by
  unfold editedRow at edited
  cases found : app.storage.getMessage req.messageId with
  | error => cases found ▸ edited
  | ok existing =>
    cases passed : checkUpdate crates auth req app with
    | error =>
      rw [found, passed] at edited
      cases edited
    | ok =>
      rw [found, passed] at edited
      exact ⟨existing, _, _, _, _, rfl, rfl, (Option.some.inj edited).symm⟩

theorem plain_of_mutable {kind : MessageKind} (notPost : kind ≠ .post)
    (notPayment : kind.isDmPaymentKind ≠ true) : bindsReference kind = false := by
  cases kind with
  | post => exact absurd rfl notPost
  | tokenTransfer => exact absurd rfl notPayment
  | _ => rfl

/-- **Edited rows.**  An edit binds no reference and no key, and the kinds that do are
immutable: every reader verifies it, unless the sender has no keypair. -/
theorem edited_verifies_iff {edited : Relayer.Message}
    (authenticated : Authenticated address auth params.groupId sender)
    (stored : editedRow (signatures.crates base) now auth (updateMessageBody params) app =
      some edited)
    (serves : Serves edited row) :
    readerVerifies signatures address row = true ↔ auth.zklogin = false := by
  obtain ⟨existing, encryptedMsg, nonce, attachments, signature, found, passed, rfl⟩ :=
    editedRow_eq_some stored
  obtain ⟨group, notPost, notPayment, owner, isContent, isNonce, accepted⟩ :=
    checkUpdate_ok passed found
  obtain ⟨known, size, issued⟩ := verifyMessageSignature_ok accepted
  have content : encryptedMsg = params.encryptedText := decode_encode_eq isContent
  have isNonce : nonce = params.nonce := decode_encode_eq isNonce
  have isGroup : existing.groupId = params.groupId := by
    rw [authenticated.group] at group
    exact (Option.some.inj group).symm
  have kind : row.kind = existing.kind := serves.kind
  have isKnown : row.signatureVersion = 1 ∨ row.signatureVersion = 2 := by
    rw [serves.signatureVersion]
    exact known
  have text : rowText row none none =
      relayerText (updateMessageBody params).signatureVersion (updateMessageBody params).groupId
        existing.kind.asStr (updateMessageBody params).encryptedText
        (updateMessageBody params).nonce (updateMessageBody params).keyVersion none none
        attachments existing.attribution := by
    rw [serves.rowText]
    unfold rowText
    simp only [Relayer.Message.updateContent, isGroup, content, isNonce]
    rfl
  have plain : bindsReference row.kind = false := by
    rw [kind]
    exact plain_of_mutable notPost notPayment
  have isSignature : row.signature = signature := serves.signature
  rw [← text, ← isSignature] at issued
  rw [readerVerifies_accepted isKnown _ issued serves.publicKey]
  · exact and_iff_left ((plain_agrees_iff isKnown plain).mpr (.inr rfl))
  · rw [serves.sender]
    intro isKeypair
    exact (authenticated.keypair isKeypair).trans (authenticated.wallet.symm.trans owner.symm)
  · rw [isSignature]
    exact ne_nil_of_length size

end Editing

/-! ## What a verified row says -/

def IsObjectId (text : String) : Prop := ∃ bytes, text = "0x" ++ Hex.encode bytes

theorem hex_not_colon (bytes : Bytes) : ':' ∉ (Hex.encode bytes).toList :=
  fun isIn => absurd (Hex.mem_encode isIn) (by decide)

theorem int_not_colon (value : Int) : ':' ∉ (toString value).toList := by
  intro isIn
  rcases mem_toString_int isIn with isDigit | isSign
  · exact absurd isDigit (by decide)
  · exact absurd isSign (by decide)

theorem kind_not_colon (kind : MessageKind) : ':' ∉ kind.asStr.toList := by cases kind <;> decide

namespace IsObjectId

variable {text : String}

theorem not_colon (isId : IsObjectId text) : ':' ∉ text.toList := by
  obtain ⟨bytes, rfl⟩ := isId
  rw [String.toList_append]
  intro isIn
  rcases List.mem_append.mp isIn with isIn | isIn
  · exact absurd isIn (by decide)
  · exact hex_not_colon bytes isIn

theorem toAsciiLowercase (isId : IsObjectId text) : Text.toAsciiLowercase text = text := by
  obtain ⟨bytes, rfl⟩ := isId
  have digits := Hex.toAsciiLowercase_encode bytes
  have start : Text.toAsciiLowercase "0x" = "0x" := by decide
  unfold Text.toAsciiLowercase at *
  rw [String.toList_append, List.map_append, String.ofList_append, start, digits]

end IsObjectId

def signedAttribution (attribution : Option SignedMessageAttribution) :
    String × String × Int :=
  ((attribution.bind (·.principalOwner)).getD "", (attribution.bind (·.subAgentId)).getD "",
    (attribution.bind (·.identityClass)).getD (-1))

/-- The signed parameters on which two texts agree, apart from reference and key. -/
structure SameContent (left right : CanonicalParams) : Prop where
  groupId : left.groupId = right.groupId
  kind : left.kind = right.kind
  signatureVersion : left.signatureVersion = right.signatureVersion
  encryptedText : left.encryptedText = right.encryptedText
  nonce : left.nonce = right.nonce
  keyVersion : left.keyVersion = right.keyVersion
  attachments : left.signatureVersion = 2 →
    left.attachments.map attachmentRow = right.attachments.map attachmentRow
  attribution : left.signatureVersion = 2 →
    signedAttribution left.attribution = signedAttribution right.attribution

section Injectivity

variable {left right : CanonicalParams}

theorem canonicalV1_fields (params : CanonicalParams) :
    ∃ front tail,
      (canonicalV1 params).toList =
        (Text.toAsciiLowercase params.groupId).toList ++ ':' ::
          (params.kind.toList ++ ':' :: tail) ∧
      (canonicalV1 params).toList =
        ((front ++ ':' :: (Hex.encode params.encryptedText).toList) ++ ':' ::
          (Hex.encode params.nonce).toList) ++ ':' :: (toString params.keyVersion).toList := by
  let groupId := (Text.toAsciiLowercase params.groupId).toList
  let content := (Hex.encode params.encryptedText).toList ++ ':' ::
    ((Hex.encode params.nonce).toList ++ ':' :: (toString params.keyVersion).toList)
  let bound := (boundReference params).toList ++ ':' :: (boundKey params).toList
  unfold canonicalV1
  split_ifs
  · refine ⟨groupId ++ ':' :: (params.kind.toList ++ ':' :: bound), bound ++ ':' :: content,
      ?_, ?_⟩ <;>
    simp [groupId, content, bound, String.intercalate_cons_cons]
  · refine ⟨groupId ++ ':' :: params.kind.toList, content, ?_, ?_⟩ <;>
    simp [groupId, content, String.intercalate_cons_cons]

variable {text : String} {leftKind rightKind : MessageKind}

theorem buildCanonicalMessage_cases {params : CanonicalParams}
    (built : buildCanonicalMessage params = some text) :
    (params.signatureVersion = 1 ∧ text = canonicalV1 params) ∨
      (params.signatureVersion = 2 ∧ text = canonicalV2 params) := by
  unfold buildCanonicalMessage at built
  split_ifs at built with isSecond isOther
  · exact .inr ⟨isSecond, (Option.some.inj built).symm⟩
  · exact .inl ⟨not_not.mp isOther, (Option.some.inj built).symm⟩

/-- The first character of a text tells its version. -/
theorem canonicalV1_ne_canonicalV2 (isId : IsObjectId left.groupId) :
    canonicalV1 left ≠ canonicalV2 right := by
  intro same
  obtain ⟨front, tail, fromFront, -⟩ := canonicalV1_fields left
  rw [isId.toAsciiLowercase] at fromFront
  obtain ⟨bytes, isText⟩ := isId
  rw [same, canonicalV2, Json.array_cons, isText, String.toList_append] at fromFront
  exact absurd (List.cons.inj fromFront).1 (by decide)

/-- **Version 1 texts.**  The group, the kind and the content are read off the two ends. -/
theorem canonicalV1_injective (leftId : IsObjectId left.groupId)
    (rightId : IsObjectId right.groupId) (isLeft : left.kind = leftKind.asStr)
    (isRight : right.kind = rightKind.asStr) (leftVersion : left.signatureVersion = 1)
    (rightVersion : right.signatureVersion = 1) (same : canonicalV1 left = canonicalV1 right) :
    SameContent left right := by
  obtain ⟨front, tail, fromFront, fromBack⟩ := canonicalV1_fields left
  obtain ⟨front', tail', fromFront', fromBack'⟩ := canonicalV1_fields right
  rw [same, fromFront', leftId.toAsciiLowercase, rightId.toAsciiLowercase, isLeft, isRight]
    at fromFront
  rw [same, fromBack'] at fromBack
  obtain ⟨groups, afterGroup⟩ := first_field rightId.not_colon leftId.not_colon fromFront
  obtain ⟨kinds, -⟩ := first_field (kind_not_colon rightKind) (kind_not_colon leftKind) afterGroup
  obtain ⟨beforeVersion, versions⟩ :=
    last_field (int_not_colon right.keyVersion) (int_not_colon left.keyVersion) fromBack
  obtain ⟨beforeNonce, nonces⟩ :=
    last_field (hex_not_colon right.nonce) (hex_not_colon left.nonce) beforeVersion
  obtain ⟨-, contents⟩ :=
    last_field (hex_not_colon right.encryptedText) (hex_not_colon left.encryptedText) beforeNonce
  exact
    { groupId := (String.toList_inj.mp groups).symm
      kind := by rw [isLeft, isRight, String.toList_inj.mp kinds]
      signatureVersion := leftVersion.trans rightVersion.symm
      encryptedText := (Hex.encode_injective (String.toList_inj.mp contents)).symm
      nonce := (Hex.encode_injective (String.toList_inj.mp nonces)).symm
      keyVersion := (toString_int_injective (String.toList_inj.mp versions)).symm
      attachments := fun isSecond => absurd (leftVersion.symm.trans isSecond) (by decide)
      attribution := fun isSecond => absurd (leftVersion.symm.trans isSecond) (by decide) }

theorem attachments_prefixCode :
    PrefixCode fun rows : List (List String) => (Json.array (rows.map Json.quotes)).toList :=
  Json.array_prefixCode Json.quotes_prefixCode fun texts => Json.array_starts (texts.map Json.quote)

theorem attributionRow_injective {left right : Option SignedMessageAttribution}
    (same : attributionRow left = attributionRow right) :
    signedAttribution left = signedAttribution right := by
  unfold attributionRow at same
  obtain ⟨principals, fromAgent⟩ := Json.array_cons_inj Json.quote_prefixCode same
  obtain ⟨agents, fromIdentity⟩ := Json.arrayTail_cons_inj Json.quote_prefixCode fromAgent
  have classes := toString_int_injective (Json.arrayTail_singleton_inj fromIdentity)
  exact Prod.ext principals (Prod.ext agents classes)

/-- **Version 2 texts.**  Each item of the array is read off in turn. -/
theorem canonicalV2_injective (leftId : IsObjectId left.groupId)
    (rightId : IsObjectId right.groupId)
    (leftVersion : left.signatureVersion = 2) (rightVersion : right.signatureVersion = 2)
    (same : canonicalV2 left = canonicalV2 right) : SameContent left right := by
  have rows : ∀ params : CanonicalParams,
      Json.array (params.attachments.map fun attachment =>
        Json.array ((attachmentRow attachment).map Json.quote)) =
      Json.array ((params.attachments.map attachmentRow).map Json.quotes) := by
    intro params
    rw [List.map_map]
    rfl
  unfold canonicalV2 at same
  rw [leftId.toAsciiLowercase, rightId.toAsciiLowercase, rows left, rows right] at same
  obtain ⟨-, fromGroup⟩ := Json.array_cons_inj Json.quote_prefixCode same
  obtain ⟨groups, fromKind⟩ := Json.arrayTail_cons_inj Json.quote_prefixCode fromGroup
  obtain ⟨kinds, fromReference⟩ := Json.arrayTail_cons_inj Json.quote_prefixCode fromKind
  obtain ⟨-, fromKey⟩ := Json.arrayTail_cons_inj Json.quote_prefixCode fromReference
  obtain ⟨-, fromContent⟩ := Json.arrayTail_cons_inj Json.quote_prefixCode fromKey
  obtain ⟨contents, fromNonce⟩ := Json.arrayTail_cons_inj Json.quote_prefixCode fromContent
  obtain ⟨nonces, fromVersion⟩ := Json.arrayTail_cons_inj Json.quote_prefixCode fromNonce
  obtain ⟨versions, fromRows⟩ := Json.arrayTail_cons_inj Json.quote_prefixCode fromVersion
  have isRow : PrefixCode fun rows : List (List String) =>
      ((fun rows => Json.array (rows.map Json.quotes)) rows).toList := attachments_prefixCode
  obtain ⟨attachments, fromAttribution⟩ := Json.arrayTail_cons_inj isRow fromRows
  exact
    { groupId := groups
      kind := kinds
      signatureVersion := leftVersion.trans rightVersion.symm
      encryptedText := Hex.encode_injective contents
      nonce := Hex.encode_injective nonces
      keyVersion := toString_int_injective versions
      attachments := fun _ => attachments
      attribution := fun _ =>
        attributionRow_injective (Json.arrayTail_singleton_inj fromAttribution) }

theorem buildCanonicalMessage_injective (leftId : IsObjectId left.groupId)
    (rightId : IsObjectId right.groupId) (isLeft : left.kind = leftKind.asStr)
    (isRight : right.kind = rightKind.asStr) (builtLeft : buildCanonicalMessage left = some text)
    (builtRight : buildCanonicalMessage right = some text) : SameContent left right := by
  rcases buildCanonicalMessage_cases builtLeft with ⟨leftVersion, rfl⟩ | ⟨leftVersion, rfl⟩
  · rcases buildCanonicalMessage_cases builtRight with ⟨rightVersion, same⟩ | ⟨-, same⟩
    · exact canonicalV1_injective leftId rightId isLeft isRight leftVersion rightVersion same
    · exact absurd same (canonicalV1_ne_canonicalV2 leftId)
  · rcases buildCanonicalMessage_cases builtRight with ⟨-, same⟩ | ⟨rightVersion, same⟩
    · exact absurd same.symm (canonicalV1_ne_canonicalV2 rightId)
    · exact canonicalV2_injective leftId rightId leftVersion rightVersion same

end Injectivity

/-! ## The two directions together -/

/-- **Readers and signatures.**  Let signatures be ideal.  A row that a client created is
verified by every reader exactly if the sender has a keypair and the response shows what was
signed (`Readable`); an edit is verified exactly if the sender has a keypair; and a verified
row has the content that a key of its sender signed. -/
theorem readers_verify_readable_rows (signatures : Signatures) (address : Bytes → String)
    (base : Crates) :
    (∀ services auth app params sender message row,
      Authenticated address auth params.groupId sender →
      acceptedRow (signatures.crates base) services auth (sendMessageBody params sender) app =
        some message →
      Serves message row →
      (readerVerifies signatures address row = true ↔
        auth.zklogin = false ∧ Readable params
          (dmPeer services app (sendMessageBody params sender) .tokenTransfer))) ∧
    (∀ auth app params sender now edited row,
      Authenticated address auth params.groupId sender →
      editedRow (signatures.crates base) now auth (updateMessageBody params) app = some edited →
      Serves edited row →
      (readerVerifies signatures address row = true ↔ auth.zklogin = false)) ∧
    (∀ row raw, fromWireMessage (.ofMessage row) = some raw →
      verifyRawMessage signatures address raw = true → IsObjectId row.groupId →
      ∃ signed ∈ signatures.issued, signed.signature = row.signature ∧
        (∃ flag, schemeOf flag = some signed.scheme ∧
          address (flag :: signed.publicKey) = row.senderWalletAddr) ∧
        ∀ (params : CanonicalParams) (kind : MessageKind) (canonical : String),
          params.kind = kind.asStr → IsObjectId params.groupId →
          buildCanonicalMessage params = some canonical →
          signed.message = Text.utf8 canonical → SameContent (readerParams raw) params) := by
  refine ⟨?_, ?_, ?_⟩
  · intro services auth app params sender message row authenticated stored serves
    exact created_verifies_iff authenticated stored serves
  · intro auth app params sender now edited row authenticated stored serves
    exact edited_verifies_iff authenticated stored serves
  intro row raw converted verified isId
  obtain ⟨raw', converted', seen, -⟩ := fromWireMessage_ofMessage row
  cases converted ▸ converted'
  have reads : readerVerifies signatures address row = true := by
    rw [readerVerifies, converted]
    exact verified
  obtain ⟨known, -, flag, key, scheme, -, isScheme, issued, owner⟩ :=
    (readerVerifies_iff row).mp reads
  refine ⟨_, issued, rfl, ⟨flag, isScheme, owner⟩, ?_⟩
  intro params kind canonical isKind paramsId built text
  have seenText := buildCanonicalMessage_seen known
  rw [utf8_injective text] at seenText
  have seenKind : (seenParams row).kind = row.kind.asStr := rfl
  rw [seen]
  exact buildCanonicalMessage_injective isId paramsId seenKind isKind seenText built

/-! ### A post that nobody verifies -/

/-- A row of the given kind by wallet `0xa1`, with its signature. -/
def sampleParams (kind : String) (signature : Bytes) : SendMessageParams where
  groupId := "0xaa"
  encryptedText := [1, 2]
  nonce := List.replicate 12 0
  keyVersion := 3
  kind := some kind
  signatureVersion := none
  idempotencyKey := some "share:1"
  sharedPostAddress := some "0xb"
  paymentMetadata := none
  attachments := []
  messageSignature := some (Hex.encode signature)
  attribution := none
  notifyWallets := []

def sampleSigned (kind : String) : CanonicalParams where
  groupId := "0xaa"
  kind := kind
  signatureVersion := 1
  encryptedText := [1, 2]
  nonce := List.replicate 12 0
  keyVersion := 3
  sharedPostAddress := some "0xb"
  transferDigest := none
  idempotencyKey := some "share:1"
  attachments := []
  attribution := none

def sampleIssued (kind : String) (signature : Bytes) : Issued :=
  ⟨[7], .ed25519, Text.utf8 (canonicalV1 (sampleSigned kind)), signature⟩

def textSignature : Bytes := List.replicate 64 1

def postSignature : Bytes := List.replicate 64 2

/-- Key 7 has signed a text and a post. -/
def sampleSignatures : Signatures where
  issued := [sampleIssued "text" textSignature, sampleIssued "post" postSignature]
  unique := by decide +kernel

def sampleAddress (publicKey : Bytes) : String := if publicKey = [0, 7] then "0xa1" else ""

def sampleAuth : AuthContext where
  senderAddress := "0xa1"
  publicKey := [7]
  scheme := .ed25519
  authorizedGroup := some "0xaa"
  zklogin := false

def sampleApp : AppState where
  storage := .new
  mls := .new
  membershipStore := .new

def sampleRow (kind : String) (signature : Bytes) : Option Relayer.Message :=
  acceptedRow (sampleSignatures.crates CommitLog.sampleCrates) CommitLog.sampleServices sampleAuth
    (sendMessageBody (sampleParams kind signature) "0xa1") sampleApp

theorem sample_authenticated : Authenticated sampleAddress sampleAuth "0xaa" "0xa1" :=
  ⟨rfl, rfl, fun _ => by decide⟩

/-- What the client signs for the post. -/
def samplePostText : String :=
  "0xaa:post:0x000000000000000000000000000000000000000000000000000000000000000b:share:1:" ++
    "0102:000000000000000000000000:3"

theorem canonicalV1_post : canonicalV1 (sampleSigned "post") = samplePostText := by
  have groupId : Text.toAsciiLowercase (sampleSigned "post").groupId = "0xaa" := by decide +kernel
  have reference : boundReference (sampleSigned "post") =
      "0x000000000000000000000000000000000000000000000000000000000000000b" := by
    decide +kernel
  have key : boundKey (sampleSigned "post") = "share:1" := by decide +kernel
  have text : Hex.encode (sampleSigned "post").encryptedText = "0102" := by decide +kernel
  have nonce : Hex.encode (sampleSigned "post").nonce = "000000000000000000000000" := by
    decide +kernel
  rw [canonicalV1, if_pos (.inl rfl), groupId, reference, key, text, nonce]
  decide +kernel

theorem verifies_samplePostText :
    sampleSignatures.verifies (Text.utf8 samplePostText) postSignature [7] .ed25519 = true := by
  rw [← canonicalV1_post]
  exact decide_eq_true (List.mem_cons_of_mem _ List.mem_cons_self)

deriving instance DecidableEq for PreparedMessage

def samplePrepared : PreparedMessage where
  encryptedMsg := [1, 2]
  nonce := List.replicate 12 0
  kind := .post
  idempotencyKey := some "share:1"
  sharedPostAddress := some "0x000000000000000000000000000000000000000000000000000000000000000b"
  transferCreate := none
  requestCreate := none
  attribution := .humanMessage
  attachments := []

def samplePost : CreateMessageRequest := sendMessageBody (sampleParams "post" postSignature) "0xa1"

theorem checkSignature_samplePost :
    checkSignature (sampleSignatures.crates CommitLog.sampleCrates) sampleAuth samplePost
      samplePrepared = .ok postSignature := by
  have canonical : messageContentCanonical samplePost.groupId samplePrepared.kind.asStr
      samplePost.encryptedText samplePost.nonce samplePost.keyVersion
      (signedBind samplePrepared) samplePrepared.idempotencyKey = samplePostText := by
    decide +kernel
  have isSignature : samplePost.messageSignature = Hex.encode postSignature := by decide +kernel
  rw [checkSignature, isSignature]
  refine verifyMessageSignature_issued (by decide) ?_
  rw [canonical]
  exact verifies_samplePostText

/-- **A signed and accepted post.**  The client has signed it and the relayer stores it, and
no reader verifies it: the response has neither its post address nor its idempotency key. -/
theorem post_is_not_verified :
    (buildCanonicalMessage (sampleSigned "post")).any (fun text =>
        sampleSignatures.verifies (Text.utf8 text) postSignature [7] .ed25519) = true ∧
      (sampleRow "post" postSignature).map (readerVerifies sampleSignatures sampleAddress) =
        some false := by
  have signed : (buildCanonicalMessage (sampleSigned "post")).any (fun text =>
      sampleSignatures.verifies (Text.utf8 text) postSignature [7] .ed25519) = true := by
    rw [buildCanonicalMessage, if_neg (by decide), if_neg (by decide), canonicalV1_post,
      Option.any_some]
    exact verifies_samplePostText
  have isPrepared : prepareMessage (sampleSignatures.crates CommitLog.sampleCrates) samplePost =
      .ok samplePrepared := by
    decide +kernel
  have isStored : (sampleRow "post" postSignature).isSome = true := by
    rw [sampleRow, acceptedRow, ← samplePost, isPrepared]
    simp only [checkMessage, checkSignature_samplePost]
    rfl
  obtain ⟨row, stored⟩ := Option.isSome_iff_exists.mp isStored
  refine ⟨signed, ?_⟩
  have verifies := created_verifies_iff sample_authenticated stored (acceptedRow_serves stored)
  rw [stored, Option.map_some, Option.some.injEq, ← Bool.not_eq_true, verifies, Readable,
    if_pos (by decide)]
  exact fun readable => absurd readable.2 (by decide)

/-- A text of the same key is verified, and has what was signed. -/
theorem text_is_verified :
    ∃ row, sampleRow "text" textSignature = some row ∧
      readerVerifies sampleSignatures sampleAddress row = true := by
  obtain ⟨row, stored⟩ : ∃ row, sampleRow "text" textSignature = some row :=
    Option.isSome_iff_exists.mp (by decide +kernel)
  refine ⟨row, stored, ?_⟩
  obtain ⟨created, -, -⟩ :=
    readers_verify_readable_rows sampleSignatures sampleAddress CommitLog.sampleCrates
  have readable : Readable (sampleParams "text" textSignature) (dmPeer CommitLog.sampleServices
      sampleApp (sendMessageBody (sampleParams "text" textSignature) "0xa1") .tokenTransfer) := by
    unfold Readable
    rw [if_neg (by decide), if_neg (by decide)]
    exact .inl rfl
  exact (created _ _ _ _ _ _ _ sample_authenticated stored
    (acceptedRow_serves stored)).mpr ⟨rfl, readable⟩

end MessagingStack.Sdk.SignedRows

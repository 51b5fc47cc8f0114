import Mathlib.Data.List.DropRight
import MessagingStack.Base.Base64
import MessagingStack.Base.Fallible
import MessagingStack.Base.PaddedFrame
import MessagingStack.Base.Utf16
import MessagingStack.Contract.Messaging

/-!
# Encrypted group names

The name of a v2 group lies on the chain as `enc:v1:<key version>:<base64>`
(`content/group-name.ts`, with `encryptGroupName` and `decryptGroupName` of `client.ts`).
The name is normalized, encoded, filled up with zeros to 59 bytes and sealed under the key
of the group at its current version.  The contract takes at most 128 bytes.

`survives_iff`: what is stored always parses back, but it is read back as the normalized
name, and accepted by the contract, only for versions of at most four digits and for names
that are well-formed, do not end in U+0000 and do not start with U+FEFF.
-/

namespace MessagingStack.Sdk.GroupName

abbrev JsString := List UInt16

/-! ## The codec -/

/-- `GROUP_NAME_PREFIX`. -/
def groupNamePrefix : String := "enc:v1:"

/-- `GROUP_NAME_PADDED_BYTES`. -/
def groupNamePaddedBytes : Nat := 59

def isEncryptedGroupName (name : String) : Bool := groupNamePrefix.toList.isPrefixOf name.toList

def groupNameAad (groupId : String) : Bytes :=
  Text.utf8 ("myso-group-name-v1:" ++ Text.toAsciiLowercase groupId)

/-- `new TextEncoder().encode`: a lone surrogate becomes U+FFFD. -/
def encodeText (text : JsString) : Bytes := (Utf16.decode text).flatMap String.utf8EncodeChar

/-- `new TextDecoder('utf-8', { fatal: true }).decode`: a byte order mark is dropped; none
where it throws. -/
def decodeText (bytes : Bytes) : Option JsString :=
  (Text.fromUtf8 bytes).map fun text =>
    match text.toList with
    | '\uFEFF' :: rest => Utf16.encode rest
    | chars => Utf16.encode chars

def padGroupName (nfc : JsString → JsString) (name : JsString) : Except String Bytes :=
  let bytes := encodeText (nfc name)
  if groupNamePaddedBytes < bytes.length then
    .error ("Group name is " ++ toString bytes.length ++ " bytes; encrypted names allow " ++
      toString groupNamePaddedBytes)
  else .ok (bytes ++ List.replicate (groupNamePaddedBytes - bytes.length) 0)

def unpadGroupName (padded : Bytes) : Option JsString := decodeText (padded.rdropWhile (· == 0))

def formatEncryptedGroupName (keyVersion : Nat) (nonce ciphertext : Bytes) : String :=
  groupNamePrefix ++ toString keyVersion ++ ":" ++
    String.ofList (Base64.encode (nonce ++ ciphertext))

structure EncryptedName where
  keyVersion : Nat
  nonce : Bytes
  ciphertext : Bytes
  deriving DecidableEq

def parseEncryptedGroupName (name : String) : Option EncryptedName :=
  if isEncryptedGroupName name then
    let rest := name.toList.drop groupNamePrefix.toList.length
    let version := rest.takeWhile (· ≠ ':')
    -- no colon, or nothing before it
    if version.length = rest.length ∨ version = [] then none
    else if version.all Char.isDigit then
      (Base64.decode (rest.drop (version.length + 1))).bind fun sealed =>
        if sealed.length = 12 + groupNamePaddedBytes + 16 then
          some
            { keyVersion := Nat.ofDigitChars 10 version 0
              nonce := sealed.take 12
              ciphertext := sealed.drop 12 }
        else none
    else none
  else none

/-! ## The client -/

/-- AES-GCM; the arguments are the key, the data, the nonce and the associated data. -/
structure Cipher where
  aesGcmEncrypt : Bytes → Bytes → Bytes → Bytes → Bytes
  /-- None where it throws. -/
  aesGcmDecrypt : Bytes → Bytes → Bytes → Bytes → Option Bytes
  /-- A tag of 16 bytes is added. -/
  length_encrypt : ∀ key data nonce aad,
    (aesGcmEncrypt key data nonce aad).length = data.length + 16
  /-- Decryption undoes encryption. -/
  decrypt_encrypt : ∀ key data nonce aad,
    aesGcmDecrypt key (aesGcmEncrypt key data nonce aad) nonce aad = some data

/-- The ids of the group and of its history. -/
structure ResolvedRef where
  groupId : String
  encryptionHistoryId : String
  deriving DecidableEq

/-- What the client takes from elsewhere. -/
structure Client (GroupRef : Type) where
  cipher : Cipher
  /-- `normalize('NFC')`. -/
  nfc : JsString → JsString
  resolveGroupRef : GroupRef → ResolvedRef
  getCurrentKeyVersion : String → Except String U64
  /-- The key of a group at a version, once the session key is there; or an error. -/
  resolveDek : ResolvedRef → Nat → Except String Bytes

structure Nonce where
  bytes : Bytes
  complete : bytes.length = 12

variable {GroupRef : Type} (client : Client GroupRef)

def encryptGroupName (groupRef : GroupRef) (name : JsString) (nonce : Nonce) :
    Except String String := do
  let group := client.resolveGroupRef groupRef
  let keyVersion ← client.getCurrentKeyVersion group.encryptionHistoryId
  let padded ← padGroupName client.nfc name
  let dek ← client.resolveDek group keyVersion.toNat
  let ciphertext := client.cipher.aesGcmEncrypt dek padded nonce.bytes (groupNameAad group.groupId)
  return formatEncryptedGroupName keyVersion.toNat nonce.bytes ciphertext

def decryptGroupName (groupRef : GroupRef) (name : String) : Option JsString :=
  match parseEncryptedGroupName name with
  | none => if isEncryptedGroupName name then none else some (Utf16.encode name.toList)
  | some parsed =>
    let group := client.resolveGroupRef groupRef
    match client.resolveDek group parsed.keyVersion with
    | .error _ => none
    | .ok dek =>
      (client.cipher.aesGcmDecrypt dek parsed.ciphertext parsed.nonce
        (groupNameAad group.groupId)).bind unpadGroupName

/-! ## The text on the chain -/

theorem utf8ByteSize_ascii {chars : List Char} (ascii : ∀ c ∈ chars, c.toNat < 128) :
    (String.ofList chars).utf8ByteSize = chars.length := by
  have bytes : (String.ofList chars).utf8ByteSize =
      (chars.flatMap String.utf8EncodeChar).length := by
    rw [String.utf8ByteSize, String.toByteArray_ofList, List.utf8Encode, List.size_toByteArray]
  rw [bytes]
  clear bytes
  induction chars with
  | nil => rfl
  | cons c rest ih =>
    obtain ⟨first, others⟩ := List.forall_mem_cons.mp ascii
    have single : (String.utf8EncodeChar c).length = 1 := by
      have small : c.val.toNat ≤ 127 := Nat.le_of_lt_succ first
      rw [String.utf8EncodeChar, if_pos small]
      rfl
    rw [List.flatMap_cons, List.length_append, single, ih others, List.length_cons, Nat.add_comm]

theorem toList_format (keyVersion : Nat) (nonce ciphertext : Bytes) :
    (formatEncryptedGroupName keyVersion nonce ciphertext).toList =
      groupNamePrefix.toList ++
        (Nat.toDigits 10 keyVersion ++ ':' :: Base64.encode (nonce ++ ciphertext)) := by
  simp only [formatEncryptedGroupName, String.toList_append, Nat.toString_eq_repr, Nat.toList_repr,
    String.toList_ofList, List.append_assoc]
  rfl

variable {keyVersion : Nat} {c : Char} {text : List Char}

theorem isDigit_of_mem (isIn : c ∈ Nat.toDigits 10 keyVersion) :
    c.isDigit = true :=
  Nat.isDigit_of_mem_toDigits (by decide) (by decide) isIn

variable {nonce ciphertext : Bytes} {name : JsString}

theorem ascii_format (isIn : c ∈ (formatEncryptedGroupName keyVersion nonce ciphertext).toList) :
    c.toNat < 128 := by
  rw [toList_format] at isIn
  rcases List.mem_append.mp isIn with ofPrefix | rest
  · have each : (groupNamePrefix.toList.all fun c => c.toNat < 128) = true := by decide
    exact of_decide_eq_true (List.all_eq_true.mp each c ofPrefix)
  rcases List.mem_append.mp rest with ofVersion | rest
  · have digit := isDigit_of_mem ofVersion
    rw [Char.isDigit, Bool.and_eq_true, decide_eq_true_eq, decide_eq_true_eq] at digit
    have small : c.toNat ≤ 57 := digit.2
    omega
  · rcases List.mem_cons.mp rest with rfl | ofBase64
    · decide
    · exact Base64.ascii_encode ofBase64

theorem utf8ByteSize_format (keyVersion : Nat) (complete : (nonce ++ ciphertext).length = 87) :
    (formatEncryptedGroupName keyVersion nonce ciphertext).utf8ByteSize =
      124 + (Nat.toDigits 10 keyVersion).length := by
  have ascii : ∀ c ∈ (formatEncryptedGroupName keyVersion nonce ciphertext).toList,
      c.toNat < 128 := fun c isIn => ascii_format isIn
  have size := utf8ByteSize_ascii ascii
  rw [String.ofList_toList] at size
  have isPrefix : groupNamePrefix.toList.length = 7 := by decide
  rw [size, toList_format, List.length_append, List.length_append, List.length_cons, isPrefix,
    Base64.length_encode, complete]
  omega

/-- **What is stored parses back.** -/
theorem parse_format (keyVersion : Nat) (short : nonce.length = 12)
    (complete : ciphertext.length = 75) :
    parseEncryptedGroupName (formatEncryptedGroupName keyVersion nonce ciphertext) =
      some { keyVersion, nonce, ciphertext } := by
  have encrypted : isEncryptedGroupName (formatEncryptedGroupName keyVersion nonce ciphertext) =
      true := by
    rw [isEncryptedGroupName, toList_format, List.isPrefixOf_iff_prefix]
    exact List.prefix_append _ _
  have isRest : (formatEncryptedGroupName keyVersion nonce ciphertext).toList.drop
      groupNamePrefix.toList.length =
        Nat.toDigits 10 keyVersion ++ ':' :: Base64.encode (nonce ++ ciphertext) := by
    rw [toList_format]
    exact List.drop_left
  have isVersion : (Nat.toDigits 10 keyVersion ++
      ':' :: Base64.encode (nonce ++ ciphertext)).takeWhile (· ≠ ':') =
        Nat.toDigits 10 keyVersion := by
    rw [List.takeWhile_append_of_pos]
    · simp
    intro c isIn
    have digit := isDigit_of_mem isIn
    rw [decide_eq_true_eq]
    rintro rfl
    exact absurd digit (by decide)
  have isBase64 : (Nat.toDigits 10 keyVersion ++
      ':' :: Base64.encode (nonce ++ ciphertext)).drop ((Nat.toDigits 10 keyVersion).length + 1) =
        Base64.encode (nonce ++ ciphertext) := by
    rw [← List.drop_drop, List.drop_left]
    rfl
  have found : ¬((Nat.toDigits 10 keyVersion).length =
      (Nat.toDigits 10 keyVersion ++ ':' :: Base64.encode (nonce ++ ciphertext)).length ∨
        Nat.toDigits 10 keyVersion = []) := by
    rintro (atEnd | atStart)
    · rw [List.length_append, List.length_cons] at atEnd
      omega
    · have some_ := Nat.length_toDigits_pos (b := 10) (n := keyVersion)
      rw [atStart] at some_
      exact absurd some_ (by decide)
  have digits : (Nat.toDigits 10 keyVersion).all Char.isDigit = true :=
    List.all_eq_true.mpr fun c isIn => isDigit_of_mem isIn
  have isLength : (nonce ++ ciphertext).length = 12 + groupNamePaddedBytes + 16 := by
    rw [List.length_append, short, complete]
    rfl
  unfold parseEncryptedGroupName
  rw [if_pos encrypted, isRest]
  dsimp only
  rw [isVersion, if_neg found, if_pos digits, isBase64, Base64.decode_encode, Option.bind_some,
    if_pos isLength, Nat.ofDigitChars_ten_toDigits, List.take_left' short, List.drop_left' short]

/-! ## Padding and its removal -/

def withoutNuls (text : List Char) : List Char := text.rdropWhile (· == '\x00')

/-- The text without a byte order mark before it. -/
def withoutMark : List Char → List Char
  | '\uFEFF' :: rest => rest
  | chars => chars

theorem last_byte (c : Char) (other : c ≠ '\x00') :
    ∃ start byte, String.utf8EncodeChar c = start ++ [byte] ∧ (byte == 0) = false := by
  have continuation : ∀ low < 64, (UInt8.ofNat (low + 128) == 0) = false := by decide +kernel
  have ends : (UInt8.ofNat (c.val.toNat % 64 + 128) == 0) = false :=
    continuation _ (Nat.mod_lt _ (by decide))
  unfold String.utf8EncodeChar
  dsimp only
  split_ifs with one two three
  · refine ⟨[], _, rfl, ?_⟩
    rw [beq_eq_false_iff_ne]
    intro zero
    have number := congrArg UInt8.toNat zero
    rw [UInt8.toNat_ofNat', UInt8.toNat_zero, Nat.mod_eq_of_lt (by omega)] at number
    exact other (Char.ext (UInt32.toNat_inj.mp number))
  · exact ⟨[_], _, rfl, ends⟩
  · exact ⟨[_, _], _, rfl, ends⟩
  · exact ⟨[_, _, _], _, rfl, ends⟩

theorem rdropWhile_padded (text : List Char) (count : Nat) :
    (text.flatMap String.utf8EncodeChar ++ List.replicate count 0).rdropWhile (· == 0) =
      (withoutNuls text).flatMap String.utf8EncodeChar := by
  have noPadding : ∀ bytes : Bytes, (bytes ++ List.replicate count 0).rdropWhile (· == 0) =
      bytes.rdropWhile (· == 0) := by
    intro bytes
    induction count with
    | zero => rw [List.replicate_zero, List.append_nil]
    | succ count ih =>
      rw [List.replicate_succ', ← List.append_assoc, List.rdropWhile_concat_pos _ _ _ rfl, ih]
  rw [noPadding]
  induction text using List.reverseRecOn with
  | nil => rfl
  | append_singleton text c ih =>
    rw [List.flatMap_append, List.flatMap_singleton]
    by_cases nul : c = '\x00'
    · subst nul
      have one : String.utf8EncodeChar '\x00' = [0] := by decide +kernel
      rw [one, List.rdropWhile_concat_pos _ _ _ rfl, ih, withoutNuls, withoutNuls,
        List.rdropWhile_concat_pos _ _ _ rfl]
    obtain ⟨start, byte, isCode, nonzero⟩ := last_byte c nul
    have kept : withoutNuls (text ++ [c]) = text ++ [c] :=
      List.rdropWhile_concat_neg _ _ _ (by simpa using nul)
    rw [isCode, ← List.append_assoc, List.rdropWhile_concat_neg _ _ _ (by simpa using nonzero),
      kept, List.flatMap_append, List.flatMap_singleton, isCode, List.append_assoc]

theorem decodeText_utf8 (text : List Char) :
    decodeText (text.flatMap String.utf8EncodeChar) = some (Utf16.encode (withoutMark text)) := by
  have isText : Text.fromUtf8 (text.flatMap String.utf8EncodeChar) =
      some (String.ofList text) := by
    rw [Text.fromUtf8_eq_some_iff, Text.utf8, String.toList_ofList]
  rw [decodeText, isText, Option.map_some, String.toList_ofList]
  unfold withoutMark
  split <;> rfl

theorem padGroupName_ok {nfc : JsString → JsString} {padded : Bytes}
    (returned : padGroupName nfc name = .ok padded) :
    padded.length = groupNamePaddedBytes ∧
      unpadGroupName padded =
        some (Utf16.encode (withoutMark (withoutNuls (Utf16.decode (nfc name))))) := by
  unfold padGroupName at returned
  dsimp only at returned
  split at returned
  · cases returned
  next fits =>
  cases returned
  refine ⟨?_, ?_⟩
  · rw [List.length_append, List.length_replicate]
    omega
  · rw [unpadGroupName, encodeText, rdropWhile_padded, decodeText_utf8]

/-- A name that the padding leaves as it is. -/
structure Plain (name : JsString) : Prop where
  wellFormed : Utf16.WellFormed name
  noNul : (Utf16.decode name).getLast? ≠ some '\x00'
  noMark : (Utf16.decode name).head? ≠ some '\uFEFF'

theorem length_withoutMark_le (text : List Char) : (withoutMark text).length ≤ text.length := by
  unfold withoutMark
  split
  · exact Nat.le_succ _
  · exact le_refl _

theorem withoutMark_eq_self :
    withoutMark text = text ↔ text.head? ≠ some '\uFEFF' := by
  unfold withoutMark
  split
  · next rest => simp
  next plain =>
  refine ⟨fun _ => ?_, fun _ => rfl⟩
  intro starts
  obtain ⟨rest, rfl⟩ := List.head?_eq_some_iff.mp starts
  exact plain rest rfl

theorem withoutNuls_eq_self :
    withoutNuls text = text ↔ text.getLast? ≠ some '\x00' := by
  rw [withoutNuls, List.rdropWhile_eq_self_iff]
  rcases List.eq_nil_or_concat text with rfl | ⟨start, last, rfl⟩
  · simp
  · simp

theorem encode_eq_iff :
    Utf16.encode (withoutMark (withoutNuls (Utf16.decode name))) = name ↔ Plain name := by
  constructor
  · intro same
    have chars : Utf16.decode name = withoutMark (withoutNuls (Utf16.decode name)) := by
      have decoded := congrArg Utf16.decode same
      rw [Utf16.decode_encode] at decoded
      exact decoded.symm
    have wellFormed : Utf16.WellFormed name := by
      rw [Utf16.WellFormed, chars]
      exact same
    -- nothing was dropped, or the text would be shorter
    have lengths := congrArg List.length chars
    have fewer := length_withoutMark_le (withoutNuls (Utf16.decode name))
    have isPrefix : withoutNuls (Utf16.decode name) <+: Utf16.decode name :=
      List.rdropWhile_prefix _ _
    have noNul : withoutNuls (Utf16.decode name) = Utf16.decode name :=
      isPrefix.eq_of_length_le (by omega)
    rw [noNul] at chars
    exact ⟨wellFormed, withoutNuls_eq_self.mp noNul, withoutMark_eq_self.mp chars.symm⟩
  · rintro ⟨wellFormed, noNul, noMark⟩
    rw [withoutNuls_eq_self.mpr noNul, withoutMark_eq_self.mpr noMark]
    exact wellFormed

/-! ## What is stored -/

theorem encryptGroupName_ok {groupRef : GroupRef} {nonce : Nonce} {stored : String}
    (returned : encryptGroupName client groupRef name nonce = .ok stored) :
    ∃ version padded dek,
      client.getCurrentKeyVersion (client.resolveGroupRef groupRef).encryptionHistoryId =
        .ok version ∧
      padGroupName client.nfc name = .ok padded ∧
      client.resolveDek (client.resolveGroupRef groupRef) version.toNat = .ok dek ∧
      stored = formatEncryptedGroupName version.toNat nonce.bytes
        (client.cipher.aesGcmEncrypt dek padded nonce.bytes
          (groupNameAad (client.resolveGroupRef groupRef).groupId)) := by
  simp only [encryptGroupName, bind_eq_ok] at returned
  obtain ⟨version, current, padded, fits, dek, resolved, same⟩ := returned
  cases same
  exact ⟨version, padded, dek, current, fits, resolved, rfl⟩

/-- The name survives the chain: it parses back to what it was made of, it is read as the
normalized name, and it is short enough for the contract. -/
structure Survives (groupRef : GroupRef) (name : JsString) (nonce : Nonce) (version : U64)
    (stored : String) : Prop where
  parses : ∃ dek padded,
    client.resolveDek (client.resolveGroupRef groupRef) version.toNat = .ok dek ∧
      padGroupName client.nfc name = .ok padded ∧
      parseEncryptedGroupName stored =
        some
          { keyVersion := version.toNat
            nonce := nonce.bytes
            ciphertext := client.cipher.aesGcmEncrypt dek padded nonce.bytes
              (groupNameAad (client.resolveGroupRef groupRef).groupId) }
  opens : decryptGroupName client groupRef stored = some (client.nfc name)
  fits : stored.utf8ByteSize ≤ 128
  new : ∀ uuid creator, ∃ metadata, Contract.Metadata.new stored uuid creator = .ok metadata
  setName : ∀ self : Contract.Metadata, ∃ after, self.setName stored = .ok after

theorem four_digits_iff (version : Nat) :
    124 + (Nat.toDigits 10 version).length ≤ 128 ↔ version < 10000 := by
  rw [← Nat.length_toDigits_le_iff (b := 10) (n := version) (k := 4) (by decide) (by decide)]
  omega

/-- **When a name survives the chain**: as long as the version has at most four digits, if
the name in normal form is well-formed, does not end in U+0000 and does not start with
U+FEFF. -/
theorem survives_iff {groupRef : GroupRef} {name : JsString} {nonce : Nonce} {stored : String}
    {version : U64}
    (current : client.getCurrentKeyVersion
      (client.resolveGroupRef groupRef).encryptionHistoryId = .ok version)
    (accepted : encryptGroupName client groupRef name nonce = .ok stored) :
    Survives client groupRef name nonce version stored ↔
      version.toNat < 10000 ∧ Plain (client.nfc name) := by
  obtain ⟨version', padded, dek, current', padding, resolved, rfl⟩ :=
    encryptGroupName_ok client accepted
  obtain rfl : version = version' := Except.ok.inj (current.symm.trans current')
  obtain ⟨isPadded, unpadded⟩ := padGroupName_ok padding
  have complete := client.cipher.length_encrypt dek padded nonce.bytes
    (groupNameAad (client.resolveGroupRef groupRef).groupId)
  have opened := client.cipher.decrypt_encrypt dek padded nonce.bytes
    (groupNameAad (client.resolveGroupRef groupRef).groupId)
  rw [isPadded] at complete
  have parses := parse_format version.toNat nonce.complete complete
  have size := utf8ByteSize_format version.toNat
    (List.length_append.trans (congrArg₂ (· + ·) nonce.complete complete))
  have opens : decryptGroupName client groupRef
      (formatEncryptedGroupName version.toNat nonce.bytes
        (client.cipher.aesGcmEncrypt dek padded nonce.bytes
          (groupNameAad (client.resolveGroupRef groupRef).groupId))) =
      some (Utf16.encode (withoutMark (withoutNuls (Utf16.decode (client.nfc name))))) := by
    simp only [decryptGroupName, parses, resolved, opened, Option.bind_some, unpadded]
  constructor
  · intro survives
    refine ⟨?_, ?_⟩
    · have fits := survives.fits
      rw [size] at fits
      exact (four_digits_iff _).mp fits
    · have read := survives.opens
      rw [opens] at read
      exact encode_eq_iff.mp (Option.some.inj read)
  rintro ⟨fourDigits, plain⟩
  have fits := (four_digits_iff _).mpr fourDigits
  rw [← size] at fits
  refine ⟨⟨dek, padded, resolved, padding, parses⟩, ?_, fits, ?_, ?_⟩
  · rw [opens, encode_eq_iff.mpr plain]
  · intro uuid creator
    exact ⟨_, Move.bind_ok.mpr ⟨⟨⟩, Move.assertThat_ok.mpr fits, rfl⟩⟩
  · intro self
    exact ⟨_, Move.bind_ok.mpr ⟨⟨⟩, Move.assertThat_ok.mpr fits, rfl⟩⟩

/-! ## Two names -/

/-- A cipher that shows its data. -/
def sampleCipher : Cipher where
  aesGcmEncrypt _ data _ _ := data ++ List.replicate 16 0
  aesGcmDecrypt _ ciphertext _ _ := some (ciphertext.take (ciphertext.length - 16))
  length_encrypt _ data _ _ := by rw [List.length_append, List.length_replicate]
  decrypt_encrypt _ data _ _ := by
    rw [List.length_append, List.length_replicate, Nat.add_sub_cancel, List.take_left]

/-- A client whose history is at a version.  The names below are ASCII, which is its own
normal form. -/
def sampleClient (version : U64) : Client Unit where
  cipher := sampleCipher
  nfc text := text
  resolveGroupRef _ := { groupId := "0xab", encryptionHistoryId := "0xcd" }
  getCurrentKeyVersion _ := .ok version
  resolveDek _ _ := .ok [7]

def sampleNonce : Nonce where
  bytes := [1, 2, 3, 4, 5, 6, 7, 8, 9, 10, 11, 12]
  complete := rfl

/-- `Book club`. -/
def sampleName : JsString := Utf16.encode ['B', 'o', 'o', 'k', ' ', 'c', 'l', 'u', 'b']

def sampleStored (version : U64) : String :=
  match encryptGroupName (sampleClient version) () sampleName sampleNonce with
  | .ok stored => stored
  | .error _ => ""

theorem sampleStored_spec (version : U64) :
    encryptGroupName (sampleClient version) () sampleName sampleNonce =
      .ok (sampleStored version) := rfl

/-- Under the first key, the name survives. -/
theorem book_club_survives :
    Survives (sampleClient 0) () sampleName sampleNonce 0 (sampleStored 0) :=
  (survives_iff (sampleClient 0) rfl (sampleStored_spec 0)).mpr
    ⟨by decide, ⟨by decide, by decide, by decide⟩⟩

/-- **After ten thousand rotations** no name is accepted by the contract any more. -/
theorem book_club_too_long :
    encryptGroupName (sampleClient 10000) () sampleName sampleNonce = .ok (sampleStored 10000) ∧
    (sampleStored 10000).utf8ByteSize = 129 ∧
    (∀ self : Contract.Metadata, self.setName (sampleStored 10000) = .error (.code .nameTooLong)) ∧
    ¬Survives (sampleClient 10000) () sampleName sampleNonce 10000 (sampleStored 10000) := by
  have size : (sampleStored 10000).utf8ByteSize = 129 := by
    obtain ⟨version, padded, dek, current, padding, -, isStored⟩ :=
      encryptGroupName_ok (sampleClient 10000) (sampleStored_spec 10000)
    obtain rfl : (10000 : U64) = version := Except.ok.inj current
    obtain ⟨isPadded, -⟩ := padGroupName_ok padding
    have complete := (sampleClient 10000).cipher.length_encrypt dek padded sampleNonce.bytes
      (groupNameAad "0xab")
    rw [isPadded] at complete
    have length := utf8ByteSize_format (10000 : U64).toNat
      (List.length_append.trans (congrArg₂ (· + ·) sampleNonce.complete complete))
    have digits : (Nat.toDigits 10 (10000 : U64).toNat).length = 5 := by decide
    rw [digits] at length
    rw [isStored]
    exact length
  have tooLong : ¬(sampleStored 10000).utf8ByteSize ≤ Contract.maxNameLength := by
    rw [size]
    decide
  refine ⟨sampleStored_spec 10000, size, ?_, ?_⟩
  · intro self
    rw [Contract.Metadata.setName, Move.assertThat, if_neg tooLong]
    rfl
  · intro survives
    exact tooLong survives.fits

end MessagingStack.Sdk.GroupName

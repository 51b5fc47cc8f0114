import MessagingStack.Base.HexCodec
import MessagingStack.Base.PrefixCode
import MessagingStack.Sdk.Certificate

/-!
# The bytes of a certificate

`certificateCanonicalV2` and `issueCertificateV2` of the SDK beside `signed_canonical`,
`from_identity` and `verify_authority_signature` of the core.
-/

namespace MessagingStack.Sdk

/-! ## The SDK -/

/-- What `String.prototype.trim` takes off. -/
def isJsWhitespace (c : Char) : Bool := (Text.isWhitespace c && c ≠ '\u0085') || c = '\uFEFF'

def jsTrim (text : String) : String :=
  String.ofList ((text.toList.dropWhile isJsWhitespace).rdropWhile isJsWhitespace)

def replace0x : List Char → List Char
  | '0' :: 'x' :: rest => rest
  | text => text

/-- `hex` of `certificateCanonicalV2`. -/
def hexField (h : String) : String := lower (String.ofList (replace0x (jsTrim h).toList))

/-- The fields as the texts of both sides and versions join them. -/
def joined (head wallet deviceId mlsKey : String) (issuedAtMs : Int) : String :=
  head ++ wallet ++ ":" ++ deviceId ++ ":" ++ mlsKey ++ ":" ++ toString issuedAtMs

def certificateCanonicalV2 (wallet deviceId mlsKey : String) (issuedAtMs : Int)
    (authorityKey : String) : String :=
  joined "myso-mls-device-v2:" (lower (jsTrim wallet)) (jsTrim deviceId) (hexField mlsKey)
    issuedAtMs ++ ":" ++ hexField authorityKey

/-- An ideal signature scheme: what is signed verifies. -/
structure AuthorityScheme where
  publicKey : Nat → Bytes
  sign : Nat → Bytes → Bytes
  verify : Bytes → Bytes → Bytes → Bool
  publicKey_length : ∀ authority, (publicKey authority).length = 32
  sign_length : ∀ authority text, (sign authority text).length = 64
  verify_sign : ∀ authority text, verify (publicKey authority) text (sign authority text) = true

structure CertificateFields where
  wallet : String
  deviceId : String
  mlsKey : String
  issuedAtMs : Int

def issuedText (scheme : AuthorityScheme) (authority : Nat) (fields : CertificateFields) :
    String :=
  certificateCanonicalV2 (lower (jsTrim fields.wallet)) (jsTrim fields.deviceId)
    (hexField fields.mlsKey) fields.issuedAtMs (Hex.encode (scheme.publicKey authority))

def issueCertificateV2 (scheme : AuthorityScheme) (authority : Nat)
    (fields : CertificateFields) : MlsDeviceCertificate where
  v := 2
  wallet := lower (jsTrim fields.wallet)
  deviceId := jsTrim fields.deviceId
  mlsKey := hexField fields.mlsKey
  issuedAtMs := fields.issuedAtMs
  authorityKey := some (Hex.encode (scheme.publicKey authority))
  sig := Hex.encode (scheme.sign authority (Text.utf8 (issuedText scheme authority fields)))
  signerKey := "authority"

/-! ## The core -/

def normHex (h : String) : String :=
  Text.toAsciiLowercase (String.ofList (trimStart0x (Text.trim h).toList))

namespace MlsDeviceCertificate

variable (cert : MlsDeviceCertificate)

def canonicalV1 : String :=
  joined "myso-mls-device-v1:" (Text.toAsciiLowercase (Text.trim cert.wallet))
    (Text.trim cert.deviceId) (normHex cert.mlsKey) cert.issuedAtMs

def canonicalV2 (authorityKey : String) : String :=
  joined "myso-mls-device-v2:" (Text.toAsciiLowercase (Text.trim cert.wallet))
    (Text.trim cert.deviceId) (normHex cert.mlsKey) cert.issuedAtMs ++ ":" ++ normHex authorityKey

def signedCanonical : String :=
  match cert.v, cert.authorityKey with
  | 2, some authorityKey => cert.canonicalV2 authorityKey
  | _, _ => cert.canonicalV1

def verifyAuthoritySignature (scheme : AuthorityScheme) : Bool :=
  match cert.v, cert.authorityKey with
  | 2, some authority =>
    if cert.signerKey ≠ "authority" then false
    else
      match Hex.decode (normHex authority), Hex.decode (normHex cert.sig) with
      | .ok key, .ok sig =>
        if key.length ≠ 32 || sig.length ≠ 64 then false
        else scheme.verify key (Text.utf8 cert.signedCanonical) sig
      | _, _ => false
  | _, _ => false

end MlsDeviceCertificate

def fromIdentity : Identity → Option MlsDeviceCertificate
  | .certificate cert => if cert.wellShaped then some cert else none
  | _ => none

/-! ## The promise -/

/-- The digits of a hex text, in either case. -/
def hexDigits : List Char := Hex.digits ++ ['A', 'B', 'C', 'D', 'E', 'F']

def IsHexKey (text : String) : Prop :=
  ∃ digits, (∀ c ∈ digits, c ∈ hexDigits) ∧
    (text.toList = digits ∨ text.toList = '0' :: 'x' :: digits)

def IsWalletAddress (text : String) : Prop :=
  ∃ digits, (∀ c ∈ digits, c ∈ hexDigits) ∧ text.toList = '0' :: 'x' :: digits

/-- An issued certificate is read back, signs its own text, and verifies. -/
def Verifies (scheme : AuthorityScheme) (authority : Nat) (fields : CertificateFields) : Prop :=
  let cert := issueCertificateV2 scheme authority fields
  fromIdentity (.certificate cert) = some cert ∧
    Text.utf8 (issuedText scheme authority fields) = Text.utf8 cert.signedCanonical ∧
    cert.verifyAuthoritySignature scheme = true

/-- Certificates with the same fields, up to what the text normalises. -/
structure Alike (left right : MlsDeviceCertificate) : Prop where
  v : left.v = right.v
  wallet : Text.toAsciiLowercase (Text.trim left.wallet) =
    Text.toAsciiLowercase (Text.trim right.wallet)
  deviceId : Text.trim left.deviceId = Text.trim right.deviceId
  mlsKey : normHex left.mlsKey = normHex right.mlsKey
  issuedAtMs : left.issuedAtMs = right.issuedAtMs
  authorityKey : left.authorityKey.map normHex = right.authorityKey.map normHex

/-- No field that a text is made of has a colon, the device id apart. -/
structure ColonFree (cert : MlsDeviceCertificate) : Prop where
  wallet : ':' ∉ (Text.toAsciiLowercase (Text.trim cert.wallet)).toList
  mlsKey : ':' ∉ (normHex cert.mlsKey).toList
  authorityKey : ∀ key, cert.authorityKey = some key → ':' ∉ (normHex key).toList

/-- **The promise**: a device id of which both sides leave the same, and something, has
certificates that verify; and a text has one reading. -/
structure OneText (scheme : AuthorityScheme) : Prop where
  issued : ∀ authority fields, IsWalletAddress fields.wallet → IsHexKey fields.mlsKey →
    jsTrim fields.deviceId ≠ "" → Text.trim (jsTrim fields.deviceId) = jsTrim fields.deviceId →
    Verifies scheme authority fields
  alike : ∀ left right, fromIdentity (.certificate left) = some left →
    fromIdentity (.certificate right) = some right → ColonFree left → ColonFree right →
    left.signedCanonical = right.signedCanonical → Alike left right

/-! ## Hex fields -/

theorem hexDigits_spec : ∀ c ∈ hexDigits, Text.isWhitespace c = false ∧
    isJsWhitespace c = false ∧ c ≠ 'x' ∧ c.toLower ∈ hexDigits := by
  have each : (hexDigits.all fun c => Text.isWhitespace c = false ∧ isJsWhitespace c = false ∧
    c ≠ 'x' ∧ c.toLower ∈ hexDigits) = true := by decide
  simpa only [List.all_eq_true, decide_eq_true_eq] using each

theorem trimmed_of_plain {white : Char → Bool} {chars : List Char}
    (plain : ∀ c ∈ chars, white c = false) : (chars.dropWhile white).rdropWhile white = chars := by
  have front : chars.dropWhile white = chars :=
    List.dropWhile_eq_self_iff.mpr fun _ => by simp [plain _ (List.getElem_mem _)]
  rw [front, List.rdropWhile_eq_self_iff]
  exact fun _ => by simp [plain _ (List.getLast_mem _)]

section

variable {digits : List Char} (isHex : ∀ c ∈ digits, c ∈ hexDigits)
include isHex

theorem trims_of_hex {text : String}
    (isText : text.toList = digits ∨ text.toList = '0' :: 'x' :: digits) :
    Text.trim text = text ∧ jsTrim text = text := by
  have plain : ∀ c ∈ text.toList, Text.isWhitespace c = false ∧ isJsWhitespace c = false := by
    have ofDigit : ∀ c ∈ digits, Text.isWhitespace c = false ∧ isJsWhitespace c = false :=
      fun c isIn => ⟨(hexDigits_spec c (isHex c isIn)).1, (hexDigits_spec c (isHex c isIn)).2.1⟩
    rcases isText with same | same <;> rw [same]
    · exact ofDigit
    · exact List.forall_mem_cons.mpr ⟨by decide, List.forall_mem_cons.mpr ⟨by decide, ofDigit⟩⟩
  constructor
  · exact (congrArg String.ofList (trimmed_of_plain fun c isIn => (plain c isIn).1)).trans
      String.ofList_toList
  · exact (congrArg String.ofList (trimmed_of_plain fun c isIn => (plain c isIn).2)).trans
      String.ofList_toList

theorem lower_hex : ∀ c ∈ digits.map Char.toLower, c ∈ hexDigits := by
  intro c isIn
  obtain ⟨digit, isDigit, rfl⟩ := List.mem_map.mp isIn
  exact (hexDigits_spec digit (isHex digit isDigit)).2.2.2

theorem fields_of_hex {text : String}
    (isText : text.toList = digits ∨ text.toList = '0' :: 'x' :: digits) :
    hexField text = String.ofList (digits.map Char.toLower) ∧
      normHex text = String.ofList (digits.map Char.toLower) := by
  have noPrefix : replace0x digits = digits ∧ trimStart0x digits = digits := by
    rcases digits with _ | ⟨first, _ | ⟨second, rest⟩⟩
    · exact ⟨rfl, rfl⟩
    · simp [replace0x, trimStart0x]
    · have notX : second ≠ 'x' := (hexDigits_spec second (isHex second (by simp))).2.2.1
      unfold replace0x trimStart0x
      simp [notX]
  obtain ⟨trims, jsTrims⟩ := trims_of_hex isHex isText
  rw [hexField, normHex, trims, jsTrims, lower, Text.toAsciiLowercase, Text.toAsciiLowercase,
    String.toList_ofList, String.toList_ofList]
  rcases isText with same | same <;> rw [same]
  · exact ⟨by rw [noPrefix.1], by rw [noPrefix.2]⟩
  · exact ⟨rfl, by rw [trimStart0x, noPrefix.2]⟩

end

theorem fields_of_encode (bytes : Bytes) :
    hexField (Hex.encode bytes) = Hex.encode bytes ∧
      normHex (Hex.encode bytes) = Hex.encode bytes := by
  have lowered := Hex.toAsciiLowercase_encode bytes
  rw [Text.toAsciiLowercase] at lowered
  have fields := fields_of_hex (fun c isIn => List.mem_append_left _ (Hex.mem_encode isIn))
    (.inl (rfl : (Hex.encode bytes).toList = _))
  rwa [lowered] at fields

/-! ## Issued certificates -/

theorem wellShaped_of_read {cert : MlsDeviceCertificate}
    (isRead : fromIdentity (.certificate cert) = some cert) : cert.wellShaped = true := by
  by_contra unshaped
  rw [fromIdentity, if_neg unshaped] at isRead
  cases isRead

section

variable (scheme : AuthorityScheme) (authority : Nat) {fields : CertificateFields}
  (isAddress : IsWalletAddress fields.wallet) (isKey : IsHexKey fields.mlsKey)
include isAddress isKey

theorem issuedText_eq_iff :
    issuedText scheme authority fields =
        (issueCertificateV2 scheme authority fields).signedCanonical ↔
      Text.trim (jsTrim fields.deviceId) = jsTrim fields.deviceId := by
  obtain ⟨walletDigits, areDigits, isWallet⟩ := isAddress
  obtain ⟨keyDigits, areKeyDigits, isKeyText⟩ := isKey
  have wallet : lower (jsTrim (lower (jsTrim fields.wallet))) =
      Text.toAsciiLowercase (Text.trim (lower (jsTrim fields.wallet))) := by
    have lowered : (lower (jsTrim fields.wallet)).toList =
        '0' :: 'x' :: walletDigits.map Char.toLower := by
      rw [(trims_of_hex areDigits (.inr isWallet)).2, lower, Text.toAsciiLowercase, isWallet,
        String.toList_ofList]
      rfl
    obtain ⟨trims, jsTrims⟩ := trims_of_hex (lower_hex areDigits) (.inr lowered)
    rw [trims, jsTrims]
  have key : hexField (hexField fields.mlsKey) = normHex (hexField fields.mlsKey) := by
    rw [(fields_of_hex areKeyDigits isKeyText).1]
    obtain ⟨field, norm⟩ := fields_of_hex (lower_hex areKeyDigits)
      (.inl (String.toList_ofList (l := keyDigits.map Char.toLower)))
    rw [field, norm]
  obtain ⟨field, norm⟩ := fields_of_encode (scheme.publicKey authority)
  have twice : jsTrim (jsTrim fields.deviceId) = jsTrim fields.deviceId := by
    rw [jsTrim, jsTrim, String.toList_ofList, trimmed_twice]
  change certificateCanonicalV2 _ _ _ _ _ = (issueCertificateV2 scheme authority fields).canonicalV2
    (Hex.encode (scheme.publicKey authority)) ↔ _
  rw [certificateCanonicalV2, MlsDeviceCertificate.canonicalV2, wallet, key, field, norm, twice]
  simp only [issueCertificateV2]
  rw [String.append_left_inj, String.append_left_inj, joined, joined, String.append_left_inj,
    String.append_left_inj, String.append_left_inj, String.append_left_inj,
    String.append_right_inj]
  exact eq_comm

/-- **The device ids whose certificates verify.** -/
theorem verifies_iff :
    Verifies scheme authority fields ↔
      jsTrim fields.deviceId ≠ "" ∧ Text.trim (jsTrim fields.deviceId) = jsTrim fields.deviceId := by
  have texts := issuedText_eq_iff scheme authority isAddress isKey
  have shaped : (issueCertificateV2 scheme authority fields).wellShaped = true ↔
      jsTrim fields.deviceId ≠ "" := by
    have wallet : lower (jsTrim fields.wallet) ≠ "" := by
      obtain ⟨digits, areDigits, isWallet⟩ := isAddress
      rw [(trims_of_hex areDigits (.inr isWallet)).2, lower, Text.toAsciiLowercase, isWallet]
      exact fun isEmpty => by simpa using congrArg String.toList isEmpty
    by_cases isEmpty : jsTrim fields.deviceId = "" <;>
      simp [MlsDeviceCertificate.wellShaped, issueCertificateV2, wallet, isEmpty]
  rw [Verifies]
  constructor
  · rintro ⟨isRead, sameBytes, -⟩
    exact ⟨shaped.mp (wellShaped_of_read isRead), texts.mp (utf8_injective sameBytes)⟩
  rintro ⟨isNonempty, trimmed⟩
  have same := texts.mpr trimmed
  refine ⟨?_, congrArg Text.utf8 same, ?_⟩
  · rw [fromIdentity, if_pos (shaped.mpr isNonempty)]
  · rw [MlsDeviceCertificate.verifyAuthoritySignature, ← same]
    simp [issueCertificateV2, (fields_of_encode _).2, Hex.decode_encode,
      scheme.publicKey_length, scheme.sign_length, scheme.verify_sign]

end

/-! ## One reading -/

theorem colon : ":".toList = [':'] := rfl

theorem toList_joined (head wallet device key : String) (time : Int) :
    (joined head wallet device key time).toList = head.toList ++ (wallet.toList ++
      ':' :: ((device.toList ++ ':' :: key.toList) ++ ':' :: (toString time).toList)) := by
  simp only [joined, String.toList_append, colon, List.append_assoc, List.cons_append,
    List.nil_append]

/-- The fields of a text are read back, and so is what stands behind them. -/
theorem joined_alike {head head' wallet wallet' device device' key key' : String}
    {time time' : Int} (length : head.toList.length = head'.toList.length)
    (plain : ':' ∉ wallet.toList) (plain' : ':' ∉ wallet'.toList) (plainKey : ':' ∉ key.toList)
    (plainKey' : ':' ∉ key'.toList)
    (same : joined head wallet device key time = joined head' wallet' device' key' time') :
    head = head' ∧ wallet = wallet' ∧ device = device' ∧ key = key' ∧ time = time' := by
  have noColon : ∀ time : Int, ':' ∉ (toString time).toList := fun time isIn => by
    simpa using mem_toString_int isIn
  have texts := congrArg String.toList same
  rw [toList_joined, toList_joined] at texts
  obtain ⟨heads, rests⟩ := List.append_inj texts length
  obtain ⟨wallets, rests⟩ := first_field plain plain' rests
  obtain ⟨fronts, times⟩ := last_field (noColon time) (noColon time') rests
  obtain ⟨devices, keys⟩ := last_field plainKey plainKey' fronts
  exact ⟨String.toList_inj.mp heads, String.toList_inj.mp wallets, String.toList_inj.mp devices,
    String.toList_inj.mp keys, toString_int_injective (String.toList_inj.mp times)⟩

theorem versions {cert : MlsDeviceCertificate} (shaped : cert.wellShaped = true) :
    (cert.v = 1 ∧ cert.authorityKey = none ∧ cert.signedCanonical = cert.canonicalV1) ∨
      ∃ key, cert.v = 2 ∧ cert.authorityKey = some key ∧
        cert.signedCanonical = cert.canonicalV2 key := by
  rw [MlsDeviceCertificate.signedCanonical]
  cases isKey : cert.authorityKey <;> simp_all [MlsDeviceCertificate.wellShaped]

theorem versions_apart (left right : MlsDeviceCertificate) (key : String) :
    left.canonicalV1 ≠ right.canonicalV2 key := by
  intro same
  have texts := congrArg String.toList same
  rw [MlsDeviceCertificate.canonicalV1, MlsDeviceCertificate.canonicalV2, String.toList_append,
    String.toList_append, toList_joined, toList_joined] at texts
  simp only [List.append_assoc] at texts
  have lengths : "myso-mls-device-v1:".toList.length = "myso-mls-device-v2:".toList.length := by
    decide
  have heads := List.append_inj_left texts lengths
  exact absurd (String.toList_inj.mp heads) (by decide)

/-- **A text has one reading.** -/
theorem alike_of_signedCanonical {left right : MlsDeviceCertificate}
    (isLeft : left.wellShaped = true) (isRight : right.wellShaped = true)
    (plain : ColonFree left) (plain' : ColonFree right)
    (same : left.signedCanonical = right.signedCanonical) : Alike left right := by
  rcases versions isLeft with ⟨v, noKey, text⟩ | ⟨key, v, isKey, text⟩ <;>
    rcases versions isRight with ⟨v', noKey', text'⟩ | ⟨key', v', isKey', text'⟩ <;>
    rw [text, text'] at same
  · obtain ⟨-, wallets, devices, keys, times⟩ :=
      joined_alike rfl plain.wallet plain'.wallet plain.mlsKey plain'.mlsKey same
    exact ⟨v.trans v'.symm, wallets, devices, keys, times, by rw [noKey, noKey']⟩
  · exact absurd same (versions_apart left right key')
  · exact absurd same.symm (versions_apart right left key)
  have texts := congrArg String.toList same
  rw [MlsDeviceCertificate.canonicalV2, MlsDeviceCertificate.canonicalV2, String.toList_append,
    String.toList_append, String.toList_append, String.toList_append, colon,
    List.append_assoc, List.append_assoc] at texts
  obtain ⟨fronts, authorities⟩ :=
    last_field (plain.authorityKey key isKey) (plain'.authorityKey key' isKey') texts
  obtain ⟨-, wallets, devices, keys, times⟩ := joined_alike rfl plain.wallet plain'.wallet
    plain.mlsKey plain'.mlsKey (String.toList_inj.mp fronts)
  exact ⟨v.trans v'.symm, wallets, devices, keys, times, by
    rw [isKey, isKey', Option.map_some, Option.map_some, String.toList_inj.mp authorities]⟩

theorem issued_text_verifies (scheme : AuthorityScheme) : OneText scheme where
  issued authority _ isAddress isKey isNonempty trimmed :=
    (verifies_iff scheme authority isAddress isKey).mpr ⟨isNonempty, trimmed⟩
  alike left right isLeft isRight plain plain' same := by
    exact alike_of_signedCanonical (wellShaped_of_read isLeft) (wellShaped_of_read isRight) plain
      plain' same

/-- Keys and signatures that do not depend on anything. -/
def oneKey : AuthorityScheme where
  publicKey _ := List.replicate 32 1
  sign _ _ := List.replicate 64 2
  verify key _ sig := key = List.replicate 32 1 && sig = List.replicate 64 2
  publicKey_length _ := List.length_replicate
  sign_length _ _ := List.length_replicate
  verify_sign _ _ := rfl

/-- A blank device id is issued and not read back; and a colon moves from one field to the
next. -/
theorem blank_ids_and_colons :
    ¬Verifies oneKey 1 ⟨"0xa", " ", "0xAB", 5⟩ ∧
      ∃ left right, fromIdentity (.certificate left) = some left ∧
        fromIdentity (.certificate right) = some right ∧ left.wallet = "0xa" ∧
        right.wallet = "0xa" ∧ left.signedCanonical = right.signedCanonical ∧
        ¬Alike left right := by
  refine ⟨?_, ⟨1, "0xa", "a:b", "c", 5, "", "", none⟩, ⟨1, "0xa", "a", "b:c", 5, "", "", none⟩,
    rfl, rfl, rfl, rfl, by decide +kernel, fun alike => ?_⟩
  · unfold Verifies
    decide +kernel
  · exact absurd alike.mlsKey (by decide +kernel)

end MessagingStack.Sdk

import MessagingStack.Mls.Group

/-!
# Device certificates and the device registry

A leaf of an MLS group names its device by a **certificate** that binds the leaf's signature
key to the wallet that owns the device.  A version 1 certificate is signed by the wallet; a
version 2 certificate is signed by the device's *authority key*, which the wallet registered
on the chain.
-/

namespace MessagingStack.Sdk

/-- `toLowerCase` of the ids and addresses the session compares. -/
abbrev lower (text : String) : String := Text.toAsciiLowercase text

structure MlsDeviceCertificate where
  v : Nat
  wallet : String
  deviceId : String
  mlsKey : String
  issuedAtMs : Int
  sig : String
  signerKey : String
  authorityKey : Option String
  deriving DecidableEq

inductive MlsCertificateStatus where
  | valid
  | invalid
  | unknown
  deriving DecidableEq

/-- The identity bytes of a leaf. -/
inductive Identity where
  | certificate (certificate : MlsDeviceCertificate)
  /-- Another JSON value than `null`, with its `wallet` where that is a string. -/
  | json (wallet : Option String)
  /-- Not JSON, or `null`. -/
  | bytes (content : Bytes)
  deriving DecidableEq

/-- Remove every leading `0x`. -/
def trimStart0x : List Char → List Char
  | '0' :: 'x' :: rest => trimStart0x rest
  | text => text

namespace MlsDeviceCertificate

variable (cert : MlsDeviceCertificate)

/-- `from_identity`: version 1 has no authority key, version 2 has one, and neither the wallet
nor the device id is empty. -/
def wellShaped : Bool :=
  ((cert.v = 1 && cert.authorityKey.isNone) || (cert.v = 2 && cert.authorityKey.isSome)) &&
    cert.wallet ≠ "" && cert.deviceId ≠ ""

def namesKey (signatureKey : Mls.SignatureKey) : Bool :=
  match Hex.decode (String.ofList (trimStart0x cert.mlsKey.toList)) with
  | .ok bytes => bytes = signatureKey
  | .error _ => false

end MlsDeviceCertificate

/-- The certificate that `membersJson` shows for a leaf. -/
def leafCertificate (leaf : Mls.Leaf Identity) : Option MlsDeviceCertificate :=
  match leaf.identity with
  | .certificate cert =>
    if cert.wellShaped && cert.namesKey leaf.signatureKey then some cert else none
  | _ => none

def mlsKeyPackageCertificate (keyPackage : Mls.KeyPackage Identity) :
    Option MlsDeviceCertificate :=
  leafCertificate
    { leafIndex := 0, signatureKey := keyPackage.signatureKey, identity := keyPackage.identity }

/-! ## The registry -/

structure MlsDeviceRecord where
  authorityKey : String
  /-- Empty if the key was never rotated. -/
  previousKey : String
  previousValidUntilMs : Int
  generation : Nat
  registeredAtMs : Int
  /-- Zero while the device is active. -/
  revokedAtMs : Int
  deriving DecidableEq

/-- The key as the registry writes it: lower case, without a leading `0x`. -/
def registryKey (keyHex : String) : String :=
  match (lower keyHex).toList with
  | '0' :: 'x' :: rest => String.ofList rest
  | _ => lower keyHex

/-- `registryKeyIsValid`: the current key, or the previous one inside its grace window. -/
def registryKeyIsValid (record : MlsDeviceRecord) (keyHex : String) (nowMs : Int) : Bool :=
  if record.revokedAtMs ≠ 0 then false
  else
    let key := registryKey keyHex
    key == record.authorityKey ||
      (record.previousKey ≠ "" && key == record.previousKey && nowMs < record.previousValidUntilMs)

theorem registryKeyIsValid_current {record : MlsDeviceRecord} {keyHex : String}
    (active : record.revokedAtMs = 0) (current : registryKey keyHex = record.authorityKey)
    (nowMs : Int) : registryKeyIsValid record keyHex nowMs = true := by
  simp [registryKeyIsValid, active, current]

/-- `MLS_ROTATION_GRACE_MS`. -/
def rotationGraceMs : Int := 604800000

/-- The records of the chain, by owner and device id. -/
abbrev Registry := String → String → Option MlsDeviceRecord

namespace Registry

def set (registry : Registry) (owner deviceId : String) (record : MlsDeviceRecord) : Registry :=
  fun owner' deviceId' =>
    if owner' = owner ∧ deviceId' = deviceId then some record else registry owner' deviceId'

@[simp] theorem set_same (registry : Registry) (owner deviceId : String)
    (record : MlsDeviceRecord) : registry.set owner deviceId record owner deviceId =
      some record := by
  simp [set]

def register (registry : Registry) (owner deviceId authorityKey : String) (nowMs : Int) :
    Registry :=
  match registry owner deviceId with
  | some _ => registry
  | none =>
    registry.set owner deviceId
      { authorityKey, previousKey := "", previousValidUntilMs := 0, generation := 0,
        registeredAtMs := nowMs, revokedAtMs := 0 }

/-- `rotate`: signed by the current authority key of an active device; the old key verifies
for the grace period. -/
def rotate (registry : Registry) (owner deviceId signer newKey : String) (nowMs : Int) :
    Registry :=
  match registry owner deviceId with
  | some record =>
    if record.authorityKey = signer ∧ record.revokedAtMs = 0 then
      registry.set owner deviceId
        { record with
          authorityKey := newKey
          previousKey := record.authorityKey
          previousValidUntilMs := nowMs + rotationGraceMs
          generation := record.generation + 1 }
    else registry
  | none => registry

end Registry

end MessagingStack.Sdk

import MessagingStack.Sdk.SelfGroup

/-!
# Opening a session and renewing its certificate

`MlsSession.open` restores the saved device, or makes a new one.  `MlsSession.maintain` keeps the
device's certificate current: it registers the device's *authority key* on the chain, rotates it
from time to time, and commits a certificate under the current key into every group.
-/

namespace MessagingStack.Sdk

/-- `ROTATE_AFTER_MS`. -/
def rotateAfterMs : Int := 90 * 24 * 60 * 60 * 1000

inductive MlsRenewalState where
  | off
  | unregistered
  | current
  | revoked
  | conflict
  deriving DecidableEq

/-- The hex digits of a key: trimmed, without a leading `0x`, in lower case. -/
def plainHex (text : String) : String :=
  match (Text.trim text).toList with
  | '0' :: 'x' :: rest => lower (String.ofList rest)
  | _ => lower (Text.trim text)

namespace Session

variable (options : Options)

/-- The public half of an authority key, as the registry writes it: `#pub`. -/
def pub (secret : SecretKey) : String := Hex.encode (options.wasm.publicKey secret)

/-! ## Transactions -/

/-- How the submission of a registration rejects. -/
def registrationLost : Answer → Option Bool
  | .rejected landed => some landed
  | _ => none

/-- How the submission of a rotation rejects. -/
def rotationLost : Answer → Option Bool
  | .rotationLost landed => some landed
  | _ => none

/-- The world once a transaction has taken effect. -/
def land (transaction : World → Option Registry) (world : World) : World :=
  match transaction world with
  | some chain => { world with chain, past := world.chain :: world.past }
  | none => world

/-- Submit a transaction.  One that the chain aborts changes nothing and rejects; any other may
take effect although its answer is lost. -/
def submit (lost : Answer → Option Bool) (transaction : World → Option Registry) :
    Session PUnit := fun world =>
  match transaction world with
  | some _ => writeOr lost (land transaction) world
  | none => (do notify; Async.throw .rejected : Session PUnit) world

def registerTx (authorityKey : String) (world : World) : Option Registry :=
  match world.chain options.wallet options.deviceId with
  | some _ => none
  | none => some (world.chain.register options.wallet options.deviceId authorityKey world.clock)

def rotateTx (signer newKey : String) (world : World) : Option Registry :=
  if (world.chain options.wallet options.deviceId).any fun record =>
      record.authorityKey = signer && record.revokedAtMs = 0 then
    some (world.chain.rotate options.wallet options.deviceId signer newKey world.clock)
  else none

/-! ## The authority key -/

/-- A new key pair. -/
def generate : Session SecretKey := do
  let world ← Async.get
  Async.modify fun world => { world with fresh := world.fresh + 1 }
  pure world.fresh

def saveAuthority (key : SecretKey) : Session PUnit :=
  writeStore fun store => { store with authority := some key }

def savePending (key : Option SecretKey) : Session PUnit :=
  writeStore fun store => { store with authorityPending := key }

def saveSince : Session PUnit := do
  let time ← now
  writeStore fun store => { store with authoritySince := some time }

/-- The authority key, made on first use. -/
def loadAuthority : Session SecretKey := do
  let saved ← readStore StateStore.authority
  match saved with
  | some key => pure key
  | none => do
    let key ← generate
    saveAuthority key
    saveSince
    pure key

def lookupSelf : Nat → Session (Option MlsDeviceRecord)
  | 0 => CertificateCache.lookup options.wallet options.deviceId
  | attempts + 1 => do
    let record ← CertificateCache.lookup options.wallet options.deviceId
    match record with
    | some record => pure (some record)
    | none => do
      sleep
      lookupSelf attempts

/-- A rotation that was in flight when the device last stopped: did it land? -/
def resolvePending (authority : SecretKey) (record : Option MlsDeviceRecord) :
    Session SecretKey := do
  let pending ← readStore StateStore.authorityPending
  match pending, record with
  | some pending, some record =>
    if record.authorityKey = pub options pending then do
      saveAuthority pending
      saveSince
      savePending none
      pure pending
    else do
      savePending none
      pure authority
  | _, _ => pure authority

def trySubmit (lost : Answer → Option Bool) (transaction : World → Option Registry) :
    Session Bool :=
  Async.tryCatch
    (do
      submit lost transaction
      pure true)
    fun _ => pure false

/-- The record of a device that has just been registered, once the chain shows it. -/
def awaitRecord : Session (Option MlsDeviceRecord) := do
  let record ← lookupSelf options 3
  match record with
  | none => pure none
  | some record => do
    saveSince
    pure (some record)

/-- The record of this device, which is registered if the chain shows none; `none` is
`unregistered`. -/
def ensureRegistered (registry : RegistryOptions) (authority : SecretKey) :
    Option MlsDeviceRecord → Session (Option MlsDeviceRecord)
  | some record => pure (some record)
  | none =>
    if registry.submitter then do
      let submitted ← trySubmit registrationLost (registerTx options (pub options authority))
      if submitted then awaitRecord options else pure none
    else pure none

/-- What is written once the key that was rotated to is saved. -/
def noteRotation : Session PUnit := do
  saveSince
  CertificateCache.forgetRegistry options.wallet options.deviceId

/-- Save the key that was rotated to; a failure is passed over. -/
def saveRotation (next : SecretKey) : Session PUnit :=
  Async.orElse
    (do
      saveAuthority next
      noteRotation options)
    ⟨⟩

/-- Rotate to the pending key: the key that is then in use. -/
def submitRotation (authority next : SecretKey) : Session SecretKey := do
  let submitted ← trySubmit rotationLost
    (rotateTx options (pub options authority) (pub options next))
  if submitted then do
    saveRotation options next
    pure next
  else pure authority

/-- The scheduled rotation, signed by the current authority key. -/
def rotateIfDue (registry : RegistryOptions) (authority : SecretKey) : Session SecretKey := do
  let since ← readStore StateStore.authoritySince
  let time ← now
  if registry.submitter && registry.rotateAfterMs.getD rotateAfterMs ≤
    time - since.getD time then do
    let next ← generate
    savePending (some next)
    let authority ← submitRotation options authority next
    savePending none
    pure authority
  else pure authority

/-! ## The certificate -/

def certificateCanonicalV2 (wallet deviceId mlsKey : String) (issuedAtMs : Int)
    (authorityKey : String) : String :=
  "myso-mls-device-v2:" ++ lower (Text.trim wallet) ++ ":" ++ Text.trim deviceId ++ ":" ++
    plainHex mlsKey ++ ":" ++ toString issuedAtMs ++ ":" ++ plainHex authorityKey

def issueCertificateV2 (authority : SecretKey) (wallet deviceId mlsKey : String)
    (issuedAtMs : Int) : MlsDeviceCertificate :=
  let base := certificateCanonicalV2 (lower (Text.trim wallet)) (Text.trim deviceId)
    (plainHex mlsKey) issuedAtMs (pub options authority)
  { v := 2
    wallet := lower (Text.trim wallet)
    deviceId := Text.trim deviceId
    mlsKey := plainHex mlsKey
    issuedAtMs
    sig := options.wasm.sign authority base
    signerKey := "authority"
    authorityKey := some (pub options authority) }

def issueCertificate (authority : SecretKey) : Session PUnit := do
  let world ← Async.get
  modifyDevice fun device =>
    device.withIdentity
      (issueCertificateV2 options authority options.wallet options.deviceId
        world.device.identity.mlsKey world.clock)
  persist options
  Async.orElse notify ⟨⟩
  publishKeyPackages options (options.keyPackageTarget.getD 10)

/-- The certificate is under another key, or of version 1. -/
def outdated (cert : MlsDeviceCertificate) (authorityKey : String) : Bool :=
  cert.v ≠ 2 || cert.authorityKey ≠ some authorityKey

/-- Whether the device's own leaf of a group carries an older certificate. -/
def leafOutdated (world : World) (key : GroupId) : Bool :=
  match world.device.groups key with
  | none => false
  | some group =>
    group.active && key ∉ world.desynced &&
      ((myLeaf world.device group.leaves).bind (Mls.leafAt group.leaves)).any fun leaf =>
        leaf.identity ≠ .certificate world.device.identity

def pushCredential (key : GroupId) : Session PUnit :=
  if key = selfId options then do
    let _ ← selfCommit options updateCredential
    pure ⟨⟩
  else do
    let _ ← commit options key updateCredential
    pure ⟨⟩

/-- Commit the current credential into every group whose leaf is outdated. -/
def pushCredentials : List GroupId → Session PUnit
  | [] => pure ⟨⟩
  | key :: rest => do
    let world ← Async.get
    if leafOutdated world key then do
      Async.orElse (pushCredential options key) ⟨⟩
      pushCredentials rest
    else pushCredentials rest

def knownGroups : Session (List GroupId) := do
  let known ← Async.orElse (readStore StateStore.groups) []
  pure (if selfId options ∈ known then known else known ++ [selfId options])

/-- Issue a certificate under the authority key unless the device has one. -/
def issueIfOutdated (authority : SecretKey) : Session PUnit := do
  let world ← Async.get
  if outdated world.device.identity (pub options authority) then issueCertificate options authority
  else pure ⟨⟩

def renewCertificate (authority : SecretKey) : Session PUnit := do
  issueIfOutdated options authority
  let ids ← knownGroups options
  pushCredentials options ids

/-! ## Maintenance -/

/-- `maintain` for a device whose record is known. -/
def maintainRegistered (registry : RegistryOptions) (authority : SecretKey)
    (record : MlsDeviceRecord) : Session MlsRenewalState :=
  if record.revokedAtMs ≠ 0 then pure .revoked
  else if record.authorityKey ≠ pub options authority then pure .conflict
  else do
    let authority ← rotateIfDue options registry authority
    renewCertificate options authority
    pure .current

def maintain : Session MlsRenewalState :=
  match options.registry with
  | none => pure .off
  | some registry => do
    let authority ← loadAuthority
    let record ← lookupSelf options 0
    let authority ← resolvePending options authority record
    let record ← ensureRegistered options registry authority record
    match record with
    | none => pure .unregistered
    | some record => maintainRegistered options registry authority record

/-! ## Opening -/

/-- The memory of a session that starts with the given device. -/
def restart (device : Device) : Session PUnit :=
  Async.modify fun world =>
    { world with
      device
      certs := .new
      desynced := []
      joinBackoff := fun _ => none
      resyncs := fun _ => []
      lastWelcomePoll := 0
      reassemblers := fun _ => [] }

/-- A new device with a certificate signed by the wallet. -/
def newDevice (secret : SecretKey) (time : Int) : Device where
  identity :=
    { v := 1, wallet := options.wallet, deviceId := options.deviceId,
      mlsKey := Hex.encode (options.wasm.publicKey secret), issuedAtMs := time,
      sig := options.wasm.sign secret options.wallet, signerKey := options.wallet,
      authorityKey := none }
  signatureKey := options.wasm.publicKey secret
  groups _ := none
  ratchets _ := 0
  keyPackages := []

/-- Save a new device and publish its key packages. -/
def startDevice (device : Device) : Session PUnit := do
  restart device
  CertificateCache.trust device.identity
  persist options
  publishKeyPackages options (options.keyPackageTarget.getD 10)

/-- A new device: a fresh MLS key, a certificate signed by the wallet, and key packages. -/
def createDevice : Session PUnit := do
  let secret ← generate
  let time ← now
  notify
  startDevice options (newDevice options secret time)

/-- `open`: restore the saved device, or create it. -/
def openSession : Session PUnit := do
  let saved ← readStore StateStore.device
  match saved.filter fun saved => saved.deviceId = options.deviceId with
  | none => createDevice options
  | some saved =>
    if lower saved.snapshot.identity.wallet = options.wallet then restart saved.snapshot
    else do
      writeStore fun _ => .new
      createDevice options

end Session

end MessagingStack.Sdk

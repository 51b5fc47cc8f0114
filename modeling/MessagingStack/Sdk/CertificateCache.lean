import MessagingStack.Sdk.World

/-!
# The certificate cache

`CertificateCache.status` of the sources: whether a certificate is valid, invalid, or cannot be
decided now.  For a version 2 certificate the signature is checked once, and the **registry's
answer** is trusted for an hour.  When the chain cannot be read, the last answer is used for at
most a day.
-/

namespace MessagingStack.Sdk

/-- `REGISTRY_TTL_MS`. -/
def registryTtlMs : Int := 60 * 60 * 1000

/-- `REGISTRY_MAX_STALE_MS`. -/
def registryMaxStaleMs : Int := 24 * 60 * 60 * 1000

/-- `REGISTRY_PROPAGATION_MS`. -/
def registryPropagationMs : Int := 10 * 60 * 1000

/-- `certificateDigest`: the exact certificate, in which an empty authority key counts as
none. -/
def certificateDigest (cert : MlsDeviceCertificate) : MlsDeviceCertificate :=
  { cert with authorityKey := cert.authorityKey.filter (· ≠ "") }

def registryMetaKey (owner deviceId : String) : String := "reg:" ++ owner ++ ":" ++ deviceId

namespace CertificateCache

open Session

variable (options : Options)

/-- Keep a verdict in memory. -/
def remember (digest : MlsDeviceCertificate) (status : MlsCertificateStatus) : Session PUnit :=
  Async.modify fun world =>
    { world with
      certs :=
        { world.certs with
          memory := fun other =>
            if other = digest then some status else world.certs.memory other } }

def statusV1 (cert : MlsDeviceCertificate) : Session MlsCertificateStatus := do
  let digest := certificateDigest cert
  let world ← Async.get
  match world.certs.memory digest with
  | some hit => pure hit
  | none => do
    let saved ← readStore fun store => store.certOk digest
    if saved then do
      remember digest .valid
      pure .valid
    else do
      let status ← ask fun answer =>
        match answer with
        | .verdict status => some status
        | _ => none
      match status with
      | .valid => do
        writeStore fun store =>
          { store with certOk := fun other => if other = digest then true else store.certOk other }
        remember digest .valid
        pure .valid
      | .invalid => do
        remember digest .invalid
        pure .invalid
      | .unknown => pure .unknown

/-- Write or delete the registry's answer in memory. -/
def setRegistry (key : String) (entry : Option RegistryCacheEntry) : Session PUnit :=
  Async.modify fun world =>
    { world with
      certs :=
        { world.certs with
          registry := fun other => if other = key then entry else world.certs.registry other } }

def lookup (owner deviceId : String) : Session (Option MlsDeviceRecord) := do
  let lag ← ask fun answer =>
    match answer with
    | .record lag => some lag
    | _ => none
  let world ← Async.get
  pure (((world.chain :: world.past)[lag]?.getD world.chain) owner deviceId)

/-- The answer that is held under a key: the one in memory, else the saved one. -/
def savedEntry (key : String) : Session (Option RegistryCacheEntry) := do
  let world ← Async.get
  match world.certs.registry key with
  | some entry => pure (some entry)
  | none => readStore fun store => store.registry key

/-- Read the chain, and keep the answer in memory and in the store. -/
def readRegistry (owner deviceId : String) (now : Int) : Session (Option RegistryCacheEntry) := do
  let record ← lookup owner deviceId
  let key := registryMetaKey owner deviceId
  setRegistry key (some { record, checkedAt := now })
  writeStore fun store => store.setRegistry key (some { record, checkedAt := now })
  pure (some { record, checkedAt := now })

/-- `#registryEntry`: the answer within its hour, else a new one; an older answer only while
the chain cannot be read, and for a day. -/
def registryEntry (owner deviceId : String) : Session (Option RegistryCacheEntry) := do
  let now ← now
  let entry ← savedEntry (registryMetaKey owner deviceId)
  if entry.any fun entry => now - entry.checkedAt < registryTtlMs then pure entry
  else
    Async.tryCatch (readRegistry owner deviceId now) fun _ =>
      pure (entry.filter fun entry => now - entry.checkedAt < registryMaxStaleMs)

/-- What a registry answer says of a certificate. -/
def verdict (cert : MlsDeviceCertificate) (authorityKey : String)
    (entry : Option RegistryCacheEntry) (now : Int) : MlsCertificateStatus :=
  match entry with
  | none => .unknown
  | some { record := none, .. } =>
    -- registration comes before a certificate is published: a node may lag behind
    if now - cert.issuedAtMs < registryPropagationMs then .unknown else .invalid
  | some { record := some record, .. } =>
    if registryKeyIsValid record authorityKey now then .valid else .invalid

def checkSignature (cert : MlsDeviceCertificate) : Session Bool := do
  let digest := certificateDigest cert
  let world ← Async.get
  match world.certs.sigOk digest with
  | some ok => pure ok
  | none => do
    let ok := options.wasm.mlsVerifyCertificateV2 cert
    Async.modify fun world =>
      { world with
        certs :=
          { world.certs with
            sigOk := fun other => if other = digest then some ok else world.certs.sigOk other } }
    pure ok

def statusV2 (cert : MlsDeviceCertificate) : Session MlsCertificateStatus :=
  match options.registry, cert.authorityKey.filter (· ≠ "") with
  | none, _ => pure .unknown
  | some _, none => pure .invalid
  | some _, some authorityKey => do
    let sigOk ← checkSignature options cert
    if !sigOk then pure .invalid
    else do
      let entry ← registryEntry (lower cert.wallet) cert.deviceId
      let now ← now
      pure (verdict cert authorityKey entry now)

def judge (cert : MlsDeviceCertificate) : Session MlsCertificateStatus :=
  if cert.v = 2 then statusV2 options cert else statusV1 cert

/-- `status`.  The verdict is recorded. -/
def status (cert : MlsDeviceCertificate) : Session MlsCertificateStatus := do
  let result ← judge options cert
  emit (.status cert result)
  pure result

def forgetRegistry (owner deviceId : String) : Session PUnit := do
  let key := registryMetaKey (lower owner) deviceId
  setRegistry key none
  writeStore fun store => store.setRegistry key none

def trust (cert : MlsDeviceCertificate) : Session PUnit :=
  if cert.v = 2 then pure ⟨⟩
  else do
    let digest := certificateDigest cert
    remember digest .valid
    writeStore fun store =>
      { store with certOk := fun other => if other = digest then true else store.certOk other }

end CertificateCache

end MessagingStack.Sdk

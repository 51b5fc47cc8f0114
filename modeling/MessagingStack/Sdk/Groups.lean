import MessagingStack.Sdk.CertificateCache
import MessagingStack.Sdk.Sync

/-!
# Commits, membership and sending

The part of `MlsSession` that changes groups: a commit is built in memory and posted, and when
another commit won the epoch the device goes back to its snapshot, catches up with the log and
builds it again.  On top of it stand the creation of a group, the adding of devices, the joining,
the membership rule, and the sealing of a message under it.
-/

namespace MessagingStack.Sdk

/-- `WELCOME_POLL_MS`. -/
def welcomePollMs : Int := 5000

namespace Session

variable (options : Options)

/-! ## Commits -/

/-- What the builder of a commit returns. -/
structure Built where
  message : Message
  group : Group
  /-- What runs once the relayer has accepted the commit. -/
  afterAccept : Session PUnit
  /-- How many devices the commit adds. -/
  added : Nat

/-- A builder: given a random value, the device and the group.  `none` where the library throws,
`some none` when there is nothing to commit. -/
abbrev Build := Nat → Device → Group → Option (Option Built)

/-- A builder without anything to do after the commit. -/
def Built.plain (commit : Message × Group) : Built :=
  { message := commit.1, group := commit.2, afterAccept := pure ⟨⟩, added := 0 }

/-- What follows an accepted commit. -/
def afterCommit (key : GroupId) (base : Group) (built : Built) : Session PUnit := do
  emit (.accepted key base built.message)
  deleteDesynced key
  persist options
  built.afterAccept
  publishGroupInfo key

def commitAttempts (key : GroupId) (build : Build) : Nat → Session (Option Built)
  | 0 => Async.throw (.epochRace key)
  | attempts + 1 => do
    let before ← Async.get
    match (before.device.groups key).filter (·.active) with
    | none => Async.throw (.notMember key)
    | some group =>
      match build before.fresh before.device group with
      | none => Async.throw .library
      | some none => pure none
      | some (some built) => do
        let accepted ← attempt before key built.group (postCommit key (.message built.message))
        if accepted then do
          afterCommit options key group built
          pure (some built)
        else do
          let _ ← sync options key
          commitAttempts key build attempts

def commit (key : GroupId) (build : Build) : Session (Option Built) :=
  commitAttempts options key build maxCommitAttempts

/-- The commit that removes leaves. -/
def removeLeaves (indices : List Nat) : Build := fun id _ group =>
  (group.removeLeaves id indices).map fun commit => some (.plain commit)

/-- The commit of the stored proposals, if there are any. -/
def commitPending : Build := fun id _ group =>
  (group.commitPending id).map fun commit => commit.map Built.plain

/-- The commit of the device's current credential. -/
def updateCredential : Build := fun id device group =>
  (group.updateCredential id device.signatureKey (.certificate device.identity)).map fun commit =>
    some (.plain commit)

/-! ## Adding devices -/

def publishKeyPackages (count : Nat) : Session PUnit := do
  Async.modify fun world =>
    { world with
      device :=
        { world.device with
          keyPackages := world.device.keyPackages ++ List.range' world.fresh count }
      fresh := world.fresh + count }
  persist options
  notify

/-- A claimed key package that can be added, with the MLS key it names. -/
structure Usable where
  claimed : Claimed
  mlsKey : String

def leafKeys (leaves : List Leaf) : List (Option String) :=
  leaves.map fun leaf => (leafCertificate leaf).map MlsDeviceCertificate.mlsKey

/-- The certificate of a claimed key package, if it is one to be checked: of another device, for
the wallet and the device it was claimed for, of a wanted wallet, and not in the group. -/
def claimedCertificate (wanted : List String) (present : List (Option String))
    (claimed : Claimed) : Option MlsDeviceCertificate :=
  if claimed.wallet = options.wallet && claimed.deviceId = options.deviceId then none
  else
    (mlsKeyPackageCertificate claimed.keyPackage).filter fun cert =>
      lower cert.wallet = lower claimed.wallet && cert.deviceId = claimed.deviceId &&
        lower cert.wallet ∈ wanted && some cert.mlsKey ∉ present

/-- Verify the claimed key packages: the relayer is not trusted to vouch for them. -/
def usableKeyPackages (wanted : List String) (present : List (Option String)) :
    List Claimed → Session (List Usable)
  | [] => pure []
  | claimed :: rest =>
    match claimedCertificate options wanted present claimed with
    | none => usableKeyPackages wanted present rest
    | some cert => do
      let status ← CertificateCache.status options cert
      let usable ← usableKeyPackages wanted present rest
      pure (if status = .valid then { claimed, mlsKey := cert.mlsKey } :: usable else usable)

/-- The commit that adds devices: those that are not in the group yet. -/
def addMembers (usable : List Usable) : Build := fun id _ group =>
  match usable.filter fun device => some device.mlsKey ∉ leafKeys group.leaves with
  | [] => some none
  | todo =>
    (group.addMembers id (todo.map fun device => device.claimed.keyPackage)).map
      fun (message, _, group) =>
        some { message, group, afterAccept := notify, added := todo.length }

def addWallets (key : GroupId) (wallets : List String) : Session Nat := do
  let claimed ← ask fun answer =>
    match answer with
    | .keyPackages claimed => some claimed
    | _ => none
  let world ← Async.get
  let leaves := ((world.device.groups key).map Mls.Group.leaves).getD []
  let usable ← usableKeyPackages options (wallets.map lower) (leafKeys leaves) claimed
  if usable.isEmpty then pure 0
  else do
    let built ← commit options key (addMembers usable)
    pure ((built.map Built.added).getD 0)

/-! ## Joining -/

def hasGroup (world : World) (key : GroupId) : Bool := (world.device.groups key).any (·.active)

def inStep (world : World) (key : GroupId) : Bool := hasGroup world key && key ∉ world.desynced

def joinWelcome (key : GroupId) (welcome : Mls.Welcome Identity) : Session Bool := do
  modifyDevice fun device => device.deleteGroup key
  let world ← Async.get
  match Mls.join welcome world.device.keyPackages world.device.signatureKey with
  | none => pure false
  | some group => do
    modifyDevice fun device =>
      { device.setGroup key group with
        keyPackages := device.keyPackages.filter (· ∉ welcome.keyPackages) }
    rememberGroup key
    deleteDesynced key
    pure true

def joinWelcomes : List WelcomeItem → Session (List GroupId)
  | [] => pure []
  | item :: rest => do
    let world ← Async.get
    if hasGroup world (lower item.groupId) then joinWelcomes rest
    else do
      let ok ← joinWelcome (lower item.groupId) item.welcome
      let joined ← joinWelcomes rest
      pure (if ok then lower item.groupId :: joined else joined)

def acceptWelcomes : Session (List GroupId) := do
  Async.modify fun world => { world with lastWelcomePoll := world.clock }
  let items ← ask fun answer =>
    match answer with
    | .welcomes items => some items
    | _ => none
  let joined ← joinWelcomes items
  if joined.isEmpty then pure joined
  else do
    persist options
    publishKeyPackages options joined.length
    pure joined

/-- A new group and the commit that claims its first epoch. -/
def claim (world : World) (key : GroupId) : Option (Message × Group) :=
  (Mls.createGroup key world.fresh world.device.signatureKey
    (.certificate world.device.identity)).selfUpdate world.fresh

/-- `setTimeout`: it only takes time. -/
def sleep : Session PUnit := Async.orElse notify ⟨⟩

/-- The end of `#bootstrap` once the claim was accepted. -/
def afterClaim (key : GroupId) (commit : Message) (wallets : List String) : Session PUnit := do
  afterJoin options key commit
  let _ ← addWallets options key wallets
  pure ⟨⟩

def bootstrapAttempts (key : GroupId) (wallets : List String) : Nat → Session Bool
  | 0 => pure false
  | attempts + 1 => do
    let world ← Async.get
    if inStep world key then do
      let _ ← Async.orElse (addWallets options key wallets) 0
      pure true
    else do
      let _ ← Async.orElse (acceptWelcomes options) []
      let world ← Async.get
      if inStep world key then bootstrapAttempts key wallets attempts
      else do
        let info ← getGroupInfo
        if info.isSome then joinExternal options key
        else do
          let before ← Async.get
          match claim before key with
          | none => Async.throw .library
          | some (message, group) => do
            let accepted ← attempt before key group (postCommit key (.message message))
            if accepted then do
              afterClaim options key message wallets
              pure true
            else do
              sleep
              bootstrapAttempts key wallets attempts

def bootstrap (key : GroupId) (wallets : List String) : Session Bool :=
  bootstrapAttempts options key wallets maxCommitAttempts

/-- The welcomes are polled on demand, at most every few seconds. -/
def pollWelcomes : Session PUnit := do
  let world ← Async.get
  if welcomePollMs ≤ world.clock - world.lastWelcomePoll then do
    let _ ← Async.orElse (acceptWelcomes options) []
    pure ⟨⟩
  else pure ⟨⟩

/-- Join a group, or set it up if nobody has. -/
def joinOrCreate (key : GroupId) : Session Bool := do
  let readers ← askReaders options
  match readers.filter fun wallets => options.wallet ∈ wallets with
  | some wallets => bootstrap options key wallets
  | none => joinExternal options key

def ensureGroup (key : GroupId) : Session Bool := do
  let world ← Async.get
  if inStep world key then pure true
  else do
    pollWelcomes options
    let world ← Async.get
    if inStep world key then pure true
    else if world.clock < (world.joinBackoff key).getD 0 then pure false
    else do
      let ok ← Async.orElse (joinOrCreate options key) false
      if ok then pure true
      else do
        setJoinBackoff key
        pure false

/-! ## The membership rule -/

/-- What the membership rule found: leaves to remove, and wallets that could not be verified. -/
structure Checked where
  bad : List Nat
  unknown : List String
  deriving DecidableEq

/-- The verdict on a leaf whose certificate is one of a reader. -/
def Checked.add (checked : Checked) (leaf : Leaf) (cert : MlsDeviceCertificate) :
    MlsCertificateStatus → Checked
  | .valid => checked
  | .invalid => { checked with bad := leaf.leafIndex :: checked.bad }
  | .unknown => { checked with unknown := lower cert.wallet :: checked.unknown }

/-- Check every leaf but this device's own against the readers. -/
def checkLeaves (readers : List String) (myKey : String) (mine : Option Nat) :
    List Leaf → Session Checked
  | [] => pure ⟨[], []⟩
  | leaf :: rest =>
    if some leaf.leafIndex = mine then checkLeaves readers myKey mine rest
    else
      match (leafCertificate leaf).filter fun cert =>
        lower cert.wallet ∈ readers && cert.mlsKey ≠ myKey with
      | none => do
        let checked ← checkLeaves readers myKey mine rest
        pure { checked with bad := leaf.leafIndex :: checked.bad }
      | some cert => do
        let status ← CertificateCache.status options cert
        let checked ← checkLeaves readers myKey mine rest
        pure (checked.add leaf cert status)

def checkGroup (key : GroupId) (readers : List String) : Session Checked := do
  let world ← Async.get
  let leaves := ((world.device.groups key).map Mls.Group.leaves).getD []
  checkLeaves options readers world.device.identity.mlsKey (myLeaf world.device leaves) leaves

def removeBad (key : GroupId) (bad : List Nat) : Session PUnit :=
  if bad.isEmpty then pure ⟨⟩
  else do
    let _ ← commit options key (removeLeaves bad)
    pure ⟨⟩

def reconcile (key : GroupId) (readers : List String) : Session PUnit := do
  let checked ← checkGroup options key (readers.map lower)
  removeBad options key checked.bad
  let _ ← commit options key commitPending
  if checked.unknown.isEmpty then pure ⟨⟩
  else Async.throw (.membersUnverified key checked.unknown.dedup)

/-- Encrypt an inner row, save the device, and hand the message over. -/
def encryptInner (key : GroupId) (inner : Inner) : Session Message := do
  let message ← encrypt key (encodeInner inner)
  persist options
  let world ← Async.get
  emit (.handed world.device.signatureKey message)
  pure message

/-- `seal`: the membership rule, then encrypt. -/
def sealMessage (key : GroupId) (readers : List String) (inner : Inner) : Session Message := do
  let _ ← sync options key
  let world ← Async.get
  if key ∈ world.desynced then Async.throw (.groupUnavailable key)
  else do
    reconcile options key readers
    let world ← Async.get
    if hasGroup world key then encryptInner options key inner else Async.throw (.notMember key)

/-- `wrap`: encrypt without the membership rule. -/
def wrap (key : GroupId) (inner : Inner) : Session Message := do
  let world ← Async.get
  if hasGroup world key then
    if key ∈ world.desynced then Async.throw (.groupUnavailable key)
    else encryptInner options key inner
  else Async.throw (.notMember key)

def storeOwn (key : GroupId) (row : UnwrappedRow) : Session PUnit := putRows key [row]

end Session

end MessagingStack.Sdk

import MessagingStack.Sdk.World

/-!
# Reading a group's log

`MlsSession.sync` of the sources, with what it rests on: saving the device, posting a commit and
looking for it in the log when the answer was lost, rejoining a group by external commit, and
importing and sharing history.
-/

namespace MessagingStack.Sdk

/-- `MAX_COMMIT_ATTEMPTS`. -/
def maxCommitAttempts : Nat := 4

/-- `JOIN_BACKOFF_MS`. -/
def joinBackoffMs : Int := 30000

/-- `MAX_RESYNCS_PER_HOUR`. -/
def maxResyncsPerHour : Nat := 3

namespace Session

variable (options : Options)

/-! ## The device and its groups -/

/-- `#persist`: save a snapshot of the device, which does not change during the await. -/
def persist : Session PUnit :=
  write fun world =>
    { world with store := { world.store with device := some ⟨world.device, options.deviceId⟩ } }

def rollback (snapshot : Device) : Session PUnit := modifyDevice fun _ => snapshot

/-- `#setGroup`, for a group that the device holds already. -/
def rememberGroup (key : GroupId) : Session PUnit :=
  Async.modify fun world => { world with store := world.store.rememberGroup key }

def addDesynced (key : GroupId) : Session PUnit :=
  Async.modify fun world => { world with desynced := key :: world.desynced }

def deleteDesynced (key : GroupId) : Session PUnit :=
  Async.modify fun world => { world with desynced := world.desynced.filter (· ≠ key) }

/-- The leaf index whose certificate has the device's MLS key: `#myLeaf`. -/
def myLeaf (device : Device) (leaves : List Leaf) : Option Nat :=
  (leaves.find? fun leaf =>
    (leafCertificate leaf).map MlsDeviceCertificate.mlsKey = some device.identity.mlsKey).map
      Mls.Leaf.leafIndex

def isResponder (device : Device) (before after : List Leaf) : Bool :=
  match myLeaf device after, (before.map Mls.Leaf.leafIndex).min? with
  | some mine, some lowest => mine = lowest
  | _, _ => false

/-- Encrypt in a group, at the next generation of the device's own ratchet. -/
def encrypt (key : GroupId) (plaintext : Bytes) : Session Message := do
  let world ← Async.get
  match world.device.groups key with
  | none => Async.throw .library
  | some group =>
    match group.encrypt (world.device.ratchets (ownRatchet group))
      (.certificate world.device.identity) plaintext with
    | none => Async.throw .library
    | some message => do
      Async.modify fun world =>
        { world with
          device := world.device.advance (ownRatchet group)
          trace := world.trace ++ [.encrypted key group message] }
      pure message

/-! ## Commits -/

/-- Whether a post was accepted. -/
def askAccepted : Session Bool :=
  ask fun answer =>
    match answer with
    | .accepted ok => some ok
    | _ => none

def fetchRows (key : GroupId) (cursor : Int) : Session Page := do
  let page ← ask fun answer =>
    match answer with
    | .page page => some page
    | _ => none
  emit (.fetched key cursor page)
  pure page

def findInLogFrom (key : GroupId) (bytes : Wire) : Nat → Int → Session Bool
  | 0, _ => Async.crash
  | turns + 1, cursor => do
    let page ← fetchRows key cursor
    if page.messages.any fun row => row.kind = .commit && row.encryptedText = bytes then pure true
    else if !page.hasNext || page.messages.isEmpty then pure false
    else
      findInLogFrom key bytes turns
        (page.messages.foldl (fun cursor row => max cursor row.order) cursor)

def findInLog (key : GroupId) (bytes : Wire) : Session Bool := do
  let cursor ← readStore fun store => store.getCursor key
  let world ← Async.get
  findInLogFrom key bytes (world.script.length + 1) cursor

/-- `#postCommit`: a lost answer is resolved by looking for the commit in the log; when the log
cannot be read either, the first rejection is passed on. -/
def postCommit (key : GroupId) (commit : Wire) : Session Bool :=
  Async.tryCatch askAccepted fun reason =>
    Async.tryCatch (findInLog key commit) fun _ => Async.throw reason

/-- The device with a group that it built or joined; a random value was used for it. -/
def adopt (key : GroupId) (group : Group) : Session PUnit :=
  Async.modify fun world =>
    { world with device := world.device.setGroup key group, fresh := world.fresh + 1 }

/-- The end of a post: when the commit was refused, the device returns to the snapshot. -/
def keepOrRollback (snapshot : Device) (accepted : Bool) : Session Bool :=
  if accepted then pure true
  else do
    rollback snapshot
    pure false

/-- Take a group that was built on the current state into the device and post its commit.  The
device returns to where it was when the commit is refused or the post rejects. -/
def attempt (before : World) (key : GroupId) (group : Group) (post : Session Bool) :
    Session Bool := do
  adopt key group
  let accepted ← Async.tryCatch post fun reason => do
    rollback before.device
    Async.throw reason
  keepOrRollback before.device accepted

def publishGroupInfo (key : GroupId) : Session PUnit := do
  let world ← Async.get
  match world.device.groups key with
  | none => pure ⟨⟩
  | some _ => Async.orElse notify ⟨⟩

/-! ## Rejoining -/

/-- Ask for the published group information. -/
def getGroupInfo : Session (Option (Mls.GroupInfo Identity)) :=
  ask fun answer =>
    match answer with
    | .groupInfo info => some info
    | _ => none

def rejoinExternal (world : World) (info : Mls.GroupInfo Identity) : Message × Group :=
  Mls.joinExternal info world.fresh world.device.signatureKey (.certificate world.device.identity)

/-- What follows an accepted join. -/
def afterJoin (key : GroupId) (commit : Message) : Session PUnit := do
  emit (.entered key commit)
  rememberGroup key
  deleteDesynced key
  persist options
  publishGroupInfo key

def joinExternalAttempts (key : GroupId) : Nat → Session Bool
  | 0 => pure false
  | attempts + 1 => do
    let info ← getGroupInfo
    match info with
    | none => pure false
    | some info => do
      let before ← Async.get
      let accepted ← attempt before key (rejoinExternal before info).2
        (postCommit key (.message (rejoinExternal before info).1))
      if accepted then do
        afterJoin options key (rejoinExternal before info).1
        pure true
      else joinExternalAttempts key attempts

def joinExternal (key : GroupId) : Session Bool :=
  joinExternalAttempts options key maxCommitAttempts

def mayResync (key : GroupId) : Session Bool := do
  let world ← Async.get
  let recent := (world.resyncs key).filter fun time => world.clock - 3600000 < time
  let allowed :=
    recent.length < maxResyncsPerHour && !(world.clock < (world.joinBackoff key).getD 0)
  Async.modify fun world =>
    { world with
      resyncs := fun other =>
        if other = key then (if allowed then recent ++ [world.clock] else recent)
        else world.resyncs other }
  pure allowed

def setJoinBackoff (key : GroupId) : Session PUnit :=
  Async.modify fun world =>
    { world with
      joinBackoff := fun other =>
        if other = key then some (world.clock + joinBackoffMs) else world.joinBackoff other }

/-- `onChainReaders`, when it is given: the readers, or `none` when they cannot be read. -/
def askReaders : Session (Option (List String)) :=
  if options.onChainReaders then
    Async.orElse
      (ask fun answer =>
        match answer with
        | .readers wallets => some (some wallets)
        | _ => none)
      none
  else pure none

/-- The end of `#resync`: rejoin, and back off when that fails. -/
def rejoin (key : GroupId) : Session Bool := do
  let ok ← Async.orElse (joinExternal options key) false
  if ok then pure true
  else do
    setJoinBackoff key
    pure false

/-- `#resync`: rejoin by external commit, or forget the group when the wallet has left it. -/
def resync (key : GroupId) : Session Bool := do
  addDesynced key
  let allowed ← mayResync key
  if !allowed then pure false
  else do
    let readers ← askReaders options
    if readers.any fun wallets => options.wallet ∉ wallets then do
      modifyDevice fun device => device.deleteGroup key
      deleteDesynced key
      persist options
      pure false
    else rejoin options key

/-! ## History -/

/-- The rows of a bundle that the import considers for a group. -/
def candidates (key : GroupId) (rows : List (Option UnwrappedRow)) : List UnwrappedRow :=
  rows.filterMap fun row => row.filter fun row => lower row.groupId = key

/-- Store rows.  What was stored is recorded. -/
def putRows (key : GroupId) (rows : List UnwrappedRow) : Session PUnit :=
  write fun world =>
    { world with
      store := world.store.putRows key rows
      trace := world.trace ++ [.stored key rows] }

def importRows (key : GroupId) (trusted : Bool) (rows : List UnwrappedRow) : Session Nat := do
  let new ← readStore fun store => rows.filter fun row => !store.hasRow key row.key
  let new := new.map fun row => { row with senderVerified := trusted && row.senderVerified }
  if new.isEmpty then pure 0
  else do
    putRows key new
    pure new.length

def importGroups (trusted : Bool) (onlyGroup : Option GroupId) :
    List (GroupId × Option (List (Option UnwrappedRow))) → Session Nat
  | [] => pure 0
  | (groupId, rows) :: rest => do
    let key := lower groupId
    let wanted := !("self:".toList.isPrefixOf key.toList) && onlyGroup.all (· = key)
    match (if wanted then (rows.map (candidates key)).getD [] else []) with
    | [] => importGroups trusted onlyGroup rest
    | first :: more => do
      let imported ← importRows key trusted (first :: more)
      let others ← importGroups trusted onlyGroup rest
      pure (imported + others)

def importBundle (payload : Bytes) (trusted : Bool) (onlyGroup : Option GroupId) : Session Nat :=
  match options.wasm.decodeRowsJson payload with
  | none => pure 0
  | some bundle => if bundle.isV1 then importGroups trusted onlyGroup bundle.groups else pure 0

/-- Hand a chunk to the reassembler of a group: the payload it completes. -/
def pushChunk (key : GroupId) (chunk : Bytes) : Session (Option Bytes) := do
  let world ← Async.get
  Async.modify fun world =>
    { world with
      reassemblers := fun other =>
        if other = key then world.reassemblers key ++ [chunk] else world.reassemblers other }
  pure (options.wasm.push (world.reassemblers key) chunk)

/-- Hand a chunk to the reassembler, and import the bundle it completes. -/
def receiveChunk (key : GroupId) (chunk : Bytes) (trusted : Bool) (onlyGroup : Option GroupId) :
    Session PUnit := do
  let payload ← pushChunk options key chunk
  match payload with
  | none => pure ⟨⟩
  | some payload => do
    let _ ← importBundle options payload trusted onlyGroup
    pure ⟨⟩

def randomBundleId : Session Nat := do
  let world ← Async.get
  Async.modify fun world => { world with fresh := world.fresh + 1 }
  pure world.fresh

/-- Encrypt and post the chunks of a bundle, saving the device after each one. -/
def postChunks (key : GroupId) (post : Session PUnit) : List Bytes → Session PUnit
  | [] => pure ⟨⟩
  | chunk :: rest => do
    let message ← encrypt key chunk
    let world ← Async.get
    emit (.posted world.device.signatureKey message)
    post
    persist options
    postChunks key post rest

def shareRecent (key : GroupId) (days : Int) : Session PUnit := do
  let world ← Async.get
  if (world.device.groups key).any (·.active) then do
    let rows ← readStore fun store =>
      (store.listRows key 2000).filter fun row =>
        world.clock - days * 86400000 ≤ row.createdAt * 1000
    if rows.isEmpty then pure ⟨⟩
    else do
      let bundleId ← randomBundleId
      postChunks options key notify
        (options.wasm.mlsHistorySplit bundleId (options.wasm.encodeRowsJson [(key, rows)]))
  else pure ⟨⟩

/-! ## Rows -/

/-- What `#processRow` makes of a row: MLS refused it, or it was taken, with the unwrapped row
of a chat message. -/
inductive RowResult where
  | refused
  | taken (row : Option UnwrappedRow)
  deriving DecidableEq

/-- `group.process`: what the library makes of the message, the group having moved on. -/
def process (key : GroupId) (wire : Wire) : Session (Option (Mls.Processed Identity Bytes)) := do
  let world ← Async.get
  match world.device.groups key, wire with
  | some group, .message message =>
    match group.process message with
    | none => pure none
    | some (processed, group) => do
      modifyDevice fun device => device.setGroup key group
      pure (some processed)
  | _, _ => pure none

def verifySender (row : RelayerMessage) (wallet : String) : Session Bool :=
  if lower wallet = lower row.senderAddress then
    ask fun answer =>
      match answer with
      | .verified ok => some ok
      | _ => none
  else pure false

def unwrap (row : RelayerMessage) (inner : Inner) (senderVerified : Bool) : UnwrappedRow :=
  { row.toRowHeader with
    encryptedText := inner.ciphertext
    nonce := inner.nonce
    keyVersion := inner.keyVersion
    senderVerified }

/-- The wallet of the sender's identity; `none` where reading it throws a `TypeError`. -/
def senderWallet : Identity → Option String
  | .certificate cert => some cert.wallet
  | .json wallet => wallet
  | .bytes _ => some ""

/-- The end of `#processRow` for a decrypted message. -/
def receive (key : GroupId) (row : RelayerMessage) (plaintext : Bytes) (sender : Identity) :
    Session RowResult :=
  match decodeInner plaintext with
  | none => do
    receiveChunk options key plaintext false (some key)
    pure (.taken none)
  | some inner => do
    emit (.decrypted key row inner)
    match senderWallet sender with
    | none => Async.throw .typeError
    | some wallet => do
      let senderVerified ← verifySender row wallet
      pure (.taken (some (unwrap row inner senderVerified)))

def processRow (key : GroupId) (row : RelayerMessage) : Session RowResult := do
  let processed ← process key row.encryptedText
  match processed with
  | none => pure .refused
  | some .own => pure (if row.kind = .commit then .refused else .taken none)
  | some .commit => pure (.taken none)
  | some .proposal => pure (.taken none)
  | some (.application plaintext sender) => receive options key row plaintext sender

/-! ## Pages -/

/-- What `#syncLoop` has gathered from a page. -/
structure PageState where
  fresh : List UnwrappedRow
  last : Int
  shareDays : Int
  deriving DecidableEq

/-- How the reading of a page ends: at its last row, or at a row that shows that this device is
out of step, after which it rejoined or not. -/
inductive PageEnd where
  | finished (state : PageState)
  | stopped (stored : List UnwrappedRow) (resynced : Bool)
  deriving DecidableEq

/-- Store the rows gathered so far, if there are any. -/
def putFresh (key : GroupId) (rows : List UnwrappedRow) : Session PUnit :=
  if rows.isEmpty then pure ⟨⟩ else putRows key rows

/-- Store the rows gathered so far, the device, and the cursor. -/
def savePage (key : GroupId) (state : PageState) : Session PUnit := do
  putFresh key state.fresh
  persist options
  writeStore fun store => store.setCursor key state.last

/-- A row after which this device is out of step: save, and resync once. -/
def stopPage (key : GroupId) (resynced : Bool) (state : PageState) : Session PageEnd := do
  savePage options key state
  if resynced then pure (.stopped state.fresh false)
  else do
    let ok ← resync options key
    pure (.stopped state.fresh ok)

def leafWallets (leaves : List Leaf) : List (Option String) :=
  leaves.map fun leaf => (leafCertificate leaf).map MlsDeviceCertificate.wallet

/-- How many days of history to share after a commit that brought in a new wallet, when this
device is the one to do so. -/
def askShareDays (before after : List Leaf) (days : Int) : Session Int := do
  let world ← Async.get
  if (leafWallets after).any (fun wallet => wallet ∉ leafWallets before) &&
      isResponder world.device before after then
    if options.historyShareDays then
      ask fun answer =>
        match answer with
        | .days days => some days
        | _ => none
    else pure 0
  else pure days

def inspectRow (key : GroupId) (row : RelayerMessage) : Option Mls.Inspected :=
  if row.kind = .system || row.isDeleted then none
  else row.encryptedText.inspect.filter fun info => info.groupId.all fun id => lower id = key

/-- A processed row shows that this device is out of step: a commit of the current epoch that it
cannot apply, or one that removed it. -/
def outOfStep (info : Mls.Inspected) (before after : Group) (result : RowResult) : Bool :=
  info.kind = .commit &&
    if result = .refused then info.epoch = some before.epoch.number else !after.active

def PageState.advance (state : PageState) (row : RelayerMessage) (rows : List UnwrappedRow) :
    PageState :=
  { state with last := max state.last row.order, fresh := state.fresh ++ rows }

def RowResult.rows : RowResult → List UnwrappedRow
  | .taken (some row) => [row]
  | _ => []

/-- A row that was processed: go on after it, or stop at it. -/
def settleRow (key : GroupId) (resynced : Bool) (row : RelayerMessage) (info : Mls.Inspected)
    (before : Group) (result : RowResult) (state : PageState) : Session (PageState ⊕ PageEnd) := do
  let world ← Async.get
  let after := (world.device.groups key).getD before
  if outOfStep info before after result then do
    let stopped ← stopPage options key resynced state
    pure (.inr stopped)
  else if info.kind = .commit && result ≠ .refused then do
    let shareDays ← askShareDays options before.leaves after.leaves state.shareDays
    pure (.inl { state.advance row result.rows with shareDays })
  else pure (.inl (state.advance row result.rows))

def syncRow (key : GroupId) (resynced : Bool) (row : RelayerMessage) (state : PageState) :
    Session (PageState ⊕ PageEnd) := do
  let world ← Async.get
  match inspectRow key row, world.device.groups key with
  | none, _ => pure (.inl (state.advance row []))
  | some _, none => Async.throw .typeError
  | some info, some group =>
    if info.epoch.any fun epoch => group.epoch.number < epoch then do
      let stopped ← stopPage options key resynced state
      pure (.inr stopped)
    else do
      let result ← processRow options key row
      settleRow options key resynced row info group result state

/-- The rows of a page, in order. -/
def syncRows (key : GroupId) (resynced : Bool) :
    List RelayerMessage → PageState → Session PageEnd
  | [], state => pure (.finished state)
  | row :: rest, state => do
    let next ← syncRow options key resynced row state
    match next with
    | .inl state => syncRows key resynced rest state
    | .inr stopped => pure stopped

/-- The end of a page that was read to its last row. -/
def finishPage (key : GroupId) (state : PageState) : Session PUnit := do
  savePage options key state
  if 0 < state.shareDays then Async.orElse (shareRecent options key state.shareDays) ⟨⟩
  else pure ⟨⟩

/-- `#syncLoop`, with the turns that are left; `out` is what was stored so far. -/
def syncLoop (key : GroupId) : Nat → Bool → List UnwrappedRow → Session (List UnwrappedRow)
  | 0, _, _ => Async.crash
  | turns + 1, resynced, out => do
    let world ← Async.get
    if (world.device.groups key).any (·.active) then do
      let cursor ← readStore fun store => store.getCursor key
      let page ← fetchRows key cursor
      let ending ← syncRows options key resynced page.messages
        { fresh := [], last := cursor, shareDays := 0 }
      match ending with
      | .stopped stored true => syncLoop key turns true (out ++ stored)
      | .stopped stored false => pure (out ++ stored)
      | .finished state => do
        finishPage options key state
        if !page.hasNext || page.messages.isEmpty then pure (out ++ state.fresh)
        else syncLoop key turns resynced (out ++ state.fresh)
    else pure out

/-- After a sync that moved the epoch, one of the two lowest leaves publishes the group
information again. -/
def republish (key : GroupId) (startEpoch : Option Nat) : Session PUnit := do
  let world ← Async.get
  match world.device.groups key with
  | none => pure ⟨⟩
  | some group =>
    let lowest := ((group.leaves.map Mls.Leaf.leafIndex).insertionSort (· ≤ ·)).take 2
    if group.active && startEpoch.any (· ≠ group.epoch.number) &&
        (myLeaf world.device group.leaves).any (· ∈ lowest) then
      publishGroupInfo key
    else pure ⟨⟩

def sync (key : GroupId) : Session (List UnwrappedRow) := do
  let world ← Async.get
  Async.tryFinally (syncLoop options key (world.script.length + 1) false [])
    (republish key ((world.device.groups key).map fun group => group.epoch.number))

end Session

end MessagingStack.Sdk

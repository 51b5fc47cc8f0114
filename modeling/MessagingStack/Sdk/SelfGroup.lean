import MessagingStack.Sdk.Groups

/-!
# The self-group

The devices of one wallet form an MLS group of their own, through which they send each other
their history.  Its log is not a group log: commits are posted to it as messages, and it is read
by sequence number.
-/

namespace MessagingStack.Sdk

/-- `SYNC_PAGE`. -/
def syncPage : Nat := 100

namespace Session

variable (options : Options)

def selfId : GroupId := "self:" ++ options.wallet

/-! ## Joining it -/

/-- Take a group that was built on the current state into the device and post its commit.  The
device returns to where it was when the commit is refused; a rejection of the post is not
caught. -/
def attemptUncaught (before : World) (group : Group) : Session Bool := do
  adopt (selfId options) group
  let accepted ← askAccepted
  keepOrRollback before.device accepted

/-- The first device claims epoch zero in the log. -/
def createSelfGroup (before : World) : Session Bool :=
  match claim before (selfId options) with
  | none => Async.throw .library
  | some (message, group) => do
    let accepted ← attemptUncaught options before group
    if accepted then do
      emit (.entered (selfId options) message)
      rememberGroup (selfId options)
      persist options
      notify
      pure true
    else pure false

/-- A further device joins by external commit. -/
def joinSelfGroup (before : World) (info : Mls.GroupInfo Identity) : Session Bool := do
  let accepted ← attemptUncaught options before (rejoinExternal before info).2
  if accepted then do
    emit (.entered (selfId options) (rejoinExternal before info).1)
    rememberGroup (selfId options)
    persist options
    Async.orElse notify ⟨⟩
    pure true
  else pure false

/-- Join the published self-group, or create it. -/
def enterSelfGroup (before : World) : Option (Mls.GroupInfo Identity) → Session Bool
  | none => createSelfGroup options before
  | some info => joinSelfGroup options before info

def ensureSelfGroupAttempts : Nat → Session PUnit
  | 0 => pure ⟨⟩
  | attempts + 1 => do
    let info ← getGroupInfo
    let before ← Async.get
    let joined ← enterSelfGroup options before info
    if joined then pure ⟨⟩ else ensureSelfGroupAttempts attempts

def ensureSelfGroup : Session PUnit := do
  let world ← Async.get
  if hasGroup world (selfId options) then pure ⟨⟩
  else ensureSelfGroupAttempts options maxCommitAttempts

/-! ## Its log -/

/-- A commit of the self-group log: whether a device joined that this device should answer.
`none` when the commit removed this device. -/
def settleSelfCommit (before : Group) (sendHistory : Bool) : Session (Option Bool) := do
  let world ← Async.get
  let after := (world.device.groups (selfId options)).getD before
  if after.active then
    let joinedNew := (leafKeys after.leaves).any (· ∉ leafKeys before.leaves)
    pure (some (sendHistory || (joinedNew && isResponder world.device before.leaves after.leaves)))
  else pure none

/-- One item of the self-group log; `none` when it removed this device. -/
def syncSelfItem (item : SelfItem) (sendHistory : Bool) : Session (Option Bool) := do
  let world ← Async.get
  let processed ← process (selfId options) item.body
  match processed, world.device.groups (selfId options) with
  | some .commit, some before => settleSelfCommit options before sendHistory
  | some (.application plaintext _), _ => do
    receiveChunk options (selfId options) plaintext true none
    pure (some sendHistory)
  | _, _ => pure (some sendHistory)

/-- The items of a page; the cursor goes with them. -/
def syncSelfItems : List SelfItem → Int → Bool → Session (Int × Option Bool)
  | [], cursor, sendHistory => pure (cursor, some sendHistory)
  | item :: rest, cursor, sendHistory => do
    let next ← syncSelfItem options item sendHistory
    match next with
    | none => pure (max cursor item.seq, none)
    | some sendHistory => syncSelfItems rest (max cursor item.seq) sendHistory

def syncSelfLogFrom : Nat → Int → Bool → Session Bool
  | 0, _, _ => Async.crash
  | turns + 1, cursor, sendHistory => do
    let items ← ask fun answer =>
      match answer with
      | .selfItems items => some items
      | _ => none
    let (cursor, next) ← syncSelfItems options items cursor sendHistory
    persist options
    writeStore fun store => store.setCursor (selfId options) cursor
    match next with
    | none => pure false
    | some sendHistory =>
      if items.length < syncPage then pure sendHistory
      else syncSelfLogFrom turns cursor sendHistory

/-- `#syncSelfLog`: whether a device joined and this one should answer with history. -/
def syncSelfLog : Session Bool := do
  let world ← Async.get
  if hasGroup world (selfId options) then do
    let cursor ← readStore fun store => store.getCursor (selfId options)
    let world ← Async.get
    syncSelfLogFrom options (world.script.length + 1) cursor false
  else pure false

/-! ## Its commits -/

def afterSelfCommit (base : Group) (built : Built) : Session PUnit := do
  emit (.accepted (selfId options) base built.message)
  persist options
  let world ← Async.get
  if (world.device.groups (selfId options)).isSome then Async.orElse notify ⟨⟩ else pure ⟨⟩

def selfCommitAttempts (build : Build) : Nat → Session Bool
  | 0 => pure false
  | attempts + 1 => do
    let before ← Async.get
    match (before.device.groups (selfId options)).filter (·.active) with
    | none => pure false
    | some group =>
      match build before.fresh before.device group with
      | none => Async.throw .library
      | some none => pure false
      | some (some built) => do
        let accepted ← attempt before (selfId options) built.group askAccepted
        if accepted then do
          afterSelfCommit options group built
          pure true
        else do
          let _ ← syncSelfLog options
          selfCommitAttempts build attempts

def selfCommit (build : Build) : Session Bool := selfCommitAttempts options build maxCommitAttempts

/-! ## History -/

def historyGroups : List GroupId → Session (List (GroupId × List UnwrappedRow))
  | [] => pure []
  | key :: rest =>
    if "self:".toList.isPrefixOf key.toList then historyGroups rest
    else do
      let rows ← readStore fun store => store.listRows key (options.historyRowsPerGroup.getD 500)
      let others ← historyGroups rest
      pure (if rows.isEmpty then others else (key, rows) :: others)

def sendOwnHistory : Session PUnit := do
  let world ← Async.get
  if hasGroup world (selfId options) then do
    let ids ← readStore fun store => store.groupIds
    let groups ← historyGroups options ids
    if groups.isEmpty then pure ⟨⟩
    else do
      let bundleId ← randomBundleId
      postChunks options (selfId options)
        (do
          let _ ← askAccepted
          pure ⟨⟩)
        (options.wasm.mlsHistorySplit bundleId (options.wasm.encodeRowsJson groups))
  else pure ⟨⟩

/-! ## The membership rule for own devices -/

/-- Remove the leaves that were found bad, if there are any; a failure is passed over. -/
def removeBadSelf (bad : List Nat) : Session PUnit :=
  if bad.isEmpty then pure ⟨⟩
  else do
    let _ ← Async.orElse (selfCommit options (removeLeaves bad)) false
    pure ⟨⟩

/-- The membership rule of the self-group: only this wallet's verified devices stay.  Whether
every device could be verified. -/
def reconcileSelf : Session Bool := do
  let checked ← checkGroup options (selfId options) [options.wallet]
  removeBadSelf options checked.bad
  let _ ← Async.orElse (selfCommit options commitPending) false
  pure checked.unknown.isEmpty

def syncSelf : Session PUnit := do
  let sendHistory ← syncSelfLog options
  let world ← Async.get
  if hasGroup world (selfId options) then do
    let verified ← reconcileSelf options
    if sendHistory && verified then sendOwnHistory options else pure ⟨⟩
  else pure ⟨⟩

end Session

end MessagingStack.Sdk

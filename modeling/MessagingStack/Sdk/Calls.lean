import MessagingStack.Base.Runs
import MessagingStack.Sdk.Backup
import MessagingStack.Sdk.Moves

/-!
# Runs of a session

A session is used by calls, one after the other: `#exclusive` queues them.  Each call runs under
a script of its own.  When the process dies in a call, nothing but `open` can follow, which starts
from the store; the process may also be stopped between two calls, and opened again.

`keeps_call` gathers what the programs do: every call but `open` is a sequence of the steps of
`MessagingStack.Sdk.Steps` and of steps `Aside`, which change what lies beside the device, its
rows and the trace: the authority keys, the backup, the chain.
-/

namespace MessagingStack.Sdk

open Relation

/-! ## Calls -/

/-- The public calls of a session. -/
inductive Call where
  | openSession
  | publishKeyPackages (count : Nat)
  | createGroup (key : GroupId) (wallets : List String)
  | addWallets (key : GroupId) (wallets : List String)
  | acceptWelcomes
  | joinExternal (key : GroupId)
  | ensureGroup (key : GroupId)
  | reconcile (key : GroupId) (readers : List String)
  | sealMessage (key : GroupId) (readers : List String) (inner : Inner)
  | wrap (key : GroupId) (inner : Inner)
  | storeOwn (key : GroupId) (row : UnwrappedRow)
  | sync (key : GroupId)
  | ensureSelfGroup
  | syncSelf
  | sendOwnHistory
  | enableBackup (prf : Bytes)
  | backupNow
  | restoreBackup
  | maintain
  deriving DecidableEq

/-- The program of a call, without its result. -/
def Session.runCall (options : Options) : Call → Session PUnit
  | .openSession => openSession options
  | .publishKeyPackages count => publishKeyPackages options count
  | .createGroup key wallets => do
    let _ ← bootstrap options key wallets
    pure ⟨⟩
  | .addWallets key wallets => do
    let _ ← addWallets options key wallets
    pure ⟨⟩
  | .acceptWelcomes => do
    let _ ← acceptWelcomes options
    pure ⟨⟩
  | .joinExternal key => do
    let _ ← joinExternal options key
    pure ⟨⟩
  | .ensureGroup key => do
    let _ ← ensureGroup options key
    pure ⟨⟩
  | .reconcile key readers => reconcile options key readers
  | .sealMessage key readers inner => do
    let _ ← sealMessage options key readers inner
    pure ⟨⟩
  | .wrap key inner => do
    let _ ← wrap options key inner
    pure ⟨⟩
  | .storeOwn key row => storeOwn key row
  | .sync key => do
    let _ ← sync options key
    pure ⟨⟩
  | .ensureSelfGroup => ensureSelfGroup options
  | .syncSelf => syncSelf options
  | .sendOwnHistory => sendOwnHistory options
  | .enableBackup prf => do
    let _ ← enableBackup options prf
    pure ⟨⟩
  | .backupNow => do
    let _ ← backupNow options
    pure ⟨⟩
  | .restoreBackup => do
    let _ ← restoreBackup options
    pure ⟨⟩
  | .maintain => do
    let _ ← maintain options
    pure ⟨⟩

/-! ## Runs -/

/-- A session as its user sees it: the world, and whether the process lives. -/
structure Machine where
  world : World
  alive : Bool

/-- A call, and the replies that come during it. -/
structure Input where
  call : Call
  script : List Reply
  deriving DecidableEq

/-- Whether a call leaves a session behind: a call of a session does unless the process died in
it, and `open` does when it resolves. -/
def Call.leavesSession : Call → Outcome SessionError PUnit → Bool
  | .openSession, outcome => outcome.value?.isSome
  | _, outcome => outcome ≠ .crash

/-- One call.  A dead process makes no call but `open`. -/
def Machine.step (options : Options) (machine : Machine) (input : Input) : Machine :=
  if machine.alive || input.call = .openSession then
    let ran := Session.runCall options input.call { machine.world with script := input.script }
    { world := ran.2, alive := input.call.leavesSession ran.1 }
  else machine

/-! ## What lies beside the device -/

/-- A change of the authority keys, the backup or the chain. -/
inductive Aside : World → World → Prop
  | mk (world : World) (authority authorityPending : Option SecretKey)
      (authoritySince : Option Int) (backupKey : Option MessageBackupKey)
      (backupCursor : String → Option (OrderedMap GroupId Int)) (chain : Registry)
      (past : List Registry) (backup : List Segment) :
      Aside world
        { world with
          store :=
            { world.store with
              authority, authorityPending, authoritySince, backupKey, backupCursor }
          chain, past, backup }

/-- The steps of a call: those of a session under any replies, and changes beside it. -/
def CallSteps (deviceId : String) : World → World → Prop :=
  ReflTransGen fun before after =>
    Step (fun _ => True) True deviceId before after ∨ Aside before after

instance {deviceId : String} : Std.Refl (CallSteps deviceId) := ⟨fun _ => ReflTransGen.refl⟩

instance {deviceId : String} : IsTrans World (CallSteps deviceId) :=
  ⟨fun _ _ _ => ReflTransGen.trans⟩

theorem CallSteps.invariant {deviceId : String} {Inv : World → Prop}
    (steps : ∀ before after, Step (fun _ => True) True deviceId before after →
      Inv before → Inv after)
    (asides : ∀ before after, Aside before after → Inv before → Inv after)
    {before after : World} (reached : CallSteps deviceId before after) (holds : Inv before) :
    Inv after := by
  induction reached with
  | refl => exact holds
  | tail _ step ih =>
    rcases step with step | aside
    · exact steps _ _ step ih
    · exact asides _ _ aside ih

namespace Session

open Async

variable {options : Options} {deviceId : String} {α : Type} {program : Session α}

theorem calls_of_moves (moves : Keeps (Moves (fun _ => True) True deviceId) program) :
    Keeps (CallSteps deviceId) program := by
  intro world
  obtain ⟨-, steps⟩ := moves world fun _ _ => trivial
  exact ReflTransGen.mono (fun _ _ step => .inl step) _ _ steps

theorem calls_tick (world : World) (reply : Reply) (rest : List Reply)
    (next : world.script = reply :: rest) :
    CallSteps deviceId world (tick world reply rest) :=
  ReflTransGen.single (.inl (.tick world reply rest next))

theorem calls_writeAside {effect : World → World} (aside : ∀ world, Aside world (effect world)) :
    Keeps (CallSteps deviceId) (write effect) :=
  keeps_write calls_tick fun world => ReflTransGen.single (.inr (aside world))

theorem calls_readWorld (read : World → α) :
    Keeps (CallSteps deviceId) (readWorld read) :=
  keeps_readWorld calls_tick read

theorem calls_now : Keeps (CallSteps deviceId) now := Keeps.bind Keeps.get fun _ => Keeps.pure _

/-! ### Maintenance -/

theorem calls_saveAuthority (key : SecretKey) :
    Keeps (CallSteps deviceId) (saveAuthority key) :=
  calls_writeAside fun world => .mk world _ _ _ _ _ _ _ _

theorem calls_savePending (key : Option SecretKey) :
    Keeps (CallSteps deviceId) (savePending key) :=
  calls_writeAside fun world => .mk world _ _ _ _ _ _ _ _

theorem calls_saveSince : Keeps (CallSteps deviceId) saveSince :=
  Keeps.bind calls_now fun _ => calls_writeAside fun world => .mk world _ _ _ _ _ _ _ _

theorem calls_generate : Keeps (CallSteps deviceId) generate :=
  Keeps.bind Keeps.get fun _ =>
    Keeps.bind (calls_of_moves (moves_idle fun _ => ⟨1, rfl⟩)) fun _ => Keeps.pure _

theorem calls_lookupSelf (attempts : Nat) :
    Keeps (CallSteps deviceId) (lookupSelf options attempts) := by
  induction attempts with
  | zero => exact calls_of_moves (moves_lookup _ _)
  | succ attempts ih =>
    refine Keeps.bind (calls_of_moves (moves_lookup _ _)) fun record => ?_
    split
    · exact Keeps.pure _
    · exact Keeps.bind (calls_of_moves moves_notifyQuietly) fun _ => ih

theorem calls_submit (lost : Answer → Option Bool) (transaction : World → Option Registry) :
    Keeps (CallSteps deviceId) (submit lost transaction) := by
  intro world
  unfold submit
  split
  · refine keeps_writeOr calls_tick (fun world => ReflTransGen.single (.inr ?_)) world
    unfold land
    split <;> exact .mk world _ _ _ _ _ _ _ _
  · exact Keeps.bind (calls_of_moves moves_notify) (fun _ => Keeps.throw _) world

theorem calls_trySubmit (lost : Answer → Option Bool) (transaction : World → Option Registry) :
    Keeps (CallSteps deviceId) (trySubmit lost transaction) :=
  Keeps.tryCatch (Keeps.bind (calls_submit lost transaction) fun _ => Keeps.pure _) fun _ =>
    Keeps.pure _

theorem calls_loadAuthority : Keeps (CallSteps deviceId) loadAuthority := by
  refine Keeps.bind (calls_readWorld _) fun saved => ?_
  split
  · exact Keeps.pure _
  · refine Keeps.bind calls_generate fun key => ?_
    exact Keeps.bind (calls_saveAuthority key) fun _ =>
      Keeps.bind calls_saveSince fun _ => Keeps.pure _

variable (key : MessageBackupKey) (authority : SecretKey) (state : BackupState)

theorem calls_resolvePending (record : Option MlsDeviceRecord) :
    Keeps (CallSteps deviceId) (resolvePending options authority record) := by
  refine Keeps.bind (calls_readWorld _) fun pending => ?_
  split
  · split_ifs
    · exact Keeps.bind (calls_saveAuthority _) fun _ => Keeps.bind calls_saveSince fun _ =>
        Keeps.bind (calls_savePending _) fun _ => Keeps.pure _
    · exact Keeps.bind (calls_savePending _) fun _ => Keeps.pure _
  · exact Keeps.pure _

theorem calls_ensureRegistered (registry : RegistryOptions) (authority : SecretKey)
    (record : Option MlsDeviceRecord) :
    Keeps (CallSteps deviceId) (ensureRegistered options registry authority record) := by
  cases record with
  | some => exact Keeps.pure _
  | none =>
    unfold ensureRegistered
    split_ifs
    · refine Keeps.bind (calls_trySubmit _ _) fun submitted => ?_
      split_ifs
      · refine Keeps.bind (calls_lookupSelf 3) fun record => ?_
        split
        · exact Keeps.pure _
        · exact Keeps.bind calls_saveSince fun _ => Keeps.pure _
      · exact Keeps.pure _
    · exact Keeps.pure _

theorem calls_forgetRegistry (owner ownDevice : String) :
    Keeps (CallSteps deviceId) (CertificateCache.forgetRegistry owner ownDevice) :=
  Keeps.bind (calls_of_moves (moves_idle fun _ => ⟨0, rfl⟩)) fun _ =>
    calls_of_moves (moves_saveStore fun _ => ⟨_, _, _, rfl⟩)

theorem calls_rotateIfDue (registry : RegistryOptions) (authority : SecretKey) :
    Keeps (CallSteps deviceId) (rotateIfDue options registry authority) := by
  refine Keeps.bind (calls_readWorld _) fun since => Keeps.bind calls_now fun time => ?_
  split_ifs
  · refine Keeps.bind calls_generate fun next => Keeps.bind (calls_savePending _) fun _ => ?_
    refine Keeps.bind (Keeps.bind (calls_trySubmit _ _) fun submitted => ?_) fun _ =>
      Keeps.bind (calls_savePending _) fun _ => Keeps.pure _
    split_ifs
    · refine Keeps.bind (Keeps.orElse ?_) fun _ => Keeps.pure _
      exact Keeps.bind (calls_saveAuthority _) fun _ =>
        Keeps.bind calls_saveSince fun _ => calls_forgetRegistry _ _
    · exact Keeps.pure _
  · exact Keeps.pure _

theorem calls_maintain : Keeps (CallSteps options.deviceId) (maintain options) := by
  unfold maintain
  split
  · exact Keeps.pure _
  refine Keeps.bind calls_loadAuthority fun authority => ?_
  refine Keeps.bind (calls_lookupSelf 0) fun record => ?_
  refine Keeps.bind (calls_resolvePending authority record) fun authority => ?_
  refine Keeps.bind (calls_ensureRegistered _ authority record) fun record => ?_
  split
  · exact Keeps.pure _
  unfold maintainRegistered
  split_ifs
  · exact Keeps.pure _
  · exact Keeps.pure _
  · refine Keeps.bind (calls_rotateIfDue _ authority) fun authority => ?_
    exact Keeps.bind (calls_of_moves (moves_renewCertificate trivial authority)) fun _ =>
      Keeps.pure _

/-! ### Backup -/

theorem calls_flush :
    Keeps (CallSteps deviceId) (flush options key state) := by
  unfold flush
  split_ifs
  · exact Keeps.pure _
  · refine Keeps.bind (calls_writeAside fun world => .mk world _ _ _ _ _ _ _ _) fun _ => ?_
    exact Keeps.bind (calls_writeAside fun world => .mk world _ _ _ _ _ _ _ _) fun _ => Keeps.pure _

theorem calls_backupRows (groupId : GroupId) (rows : List UnwrappedRow) (state : BackupState) :
    Keeps (CallSteps deviceId) (backupRows options key groupId rows state) := by
  induction rows generalizing state with
  | nil => exact Keeps.pure _
  | cons row rest ih =>
    refine Keeps.bind ?_ fun _ => ih _
    unfold flushIfFull
    split_ifs
    · exact calls_flush key state
    · exact Keeps.pure _

theorem calls_backupGroups (ids : List GroupId) (state : BackupState) :
    Keeps (CallSteps deviceId) (backupGroups options key ids state) := by
  induction ids generalizing state with
  | nil => exact Keeps.pure _
  | cons groupId rest ih =>
    unfold backupGroups
    split_ifs
    · exact ih state
    · refine Keeps.bind (calls_readWorld _) fun rows => ?_
      exact Keeps.bind (calls_backupRows key groupId rows state) fun _ => ih _

theorem calls_backupWith :
    Keeps (CallSteps deviceId) (backupWith options key) := by
  unfold backupWith
  split_ifs
  · refine Keeps.bind (Keeps.orElse (calls_readWorld _)) fun cursor => ?_
    refine Keeps.bind (calls_readWorld _) fun ids => ?_
    refine Keeps.bind (calls_backupGroups key ids _) fun state => ?_
    exact Keeps.bind (calls_flush key state) fun _ => Keeps.pure _
  · exact Keeps.pure _

theorem calls_restoreItems (segments : List Segment) (backedUp : OrderedMap GroupId Int)
    (imported : Nat) :
    Keeps (CallSteps deviceId) (restoreItems options key segments backedUp imported) := by
  induction segments generalizing backedUp imported with
  | nil => exact Keeps.pure _
  | cons segment rest ih =>
    unfold restoreItems
    split
    · exact ih _ _
    · exact Keeps.bind (calls_of_moves (moves_importBundle _ _ _)) fun _ => ih _ _

theorem calls_restorePages (turns : Nat) (after : Int) (backedUp : OrderedMap GroupId Int)
    (imported : Nat) :
    Keeps (CallSteps deviceId) (restorePages options key turns after backedUp imported) := by
  induction turns generalizing after backedUp imported with
  | zero => exact Keeps.crash
  | succ turns ih =>
    refine Keeps.bind (calls_readWorld _) fun page => ?_
    refine Keeps.bind (calls_restoreItems key page backedUp imported) fun result => ?_
    obtain ⟨backedUp, imported⟩ := result
    dsimp only
    split_ifs
    · exact Keeps.pure _
    · exact ih _ _ _

theorem calls_restoreWith :
    Keeps (CallSteps deviceId) (restoreWith options key) := by
  unfold restoreWith
  split_ifs
  · refine Keeps.bind Keeps.get fun world => ?_
    refine Keeps.bind (calls_restorePages key _ _ _ _) fun result => ?_
    obtain ⟨backedUp, imported⟩ := result
    refine Keeps.bind (Keeps.orElse (calls_readWorld _)) fun cursor => ?_
    exact Keeps.bind (calls_writeAside fun world => .mk world _ _ _ _ _ _ _ _) fun _ => Keeps.pure _
  · exact Keeps.pure _

theorem calls_enableBackup (prf : Bytes) :
    Keeps (CallSteps deviceId) (enableBackup options prf) := by
  unfold enableBackup
  split_ifs
  · refine Keeps.bind (calls_writeAside fun world => .mk world _ _ _ _ _ _ _ _) fun _ => ?_
    refine Keeps.bind (calls_restoreWith _) fun _ => ?_
    exact Keeps.bind (calls_backupWith _) fun _ => Keeps.pure _
  · exact Keeps.throw _

theorem calls_backupNow : Keeps (CallSteps deviceId) (backupNow options) := by
  refine Keeps.bind (calls_readWorld _) fun key => ?_
  split
  · exact Keeps.pure _
  · exact calls_backupWith _

theorem calls_restoreBackup : Keeps (CallSteps deviceId) (restoreBackup options) := by
  refine Keeps.bind (calls_readWorld _) fun key => ?_
  split
  · exact Keeps.pure _
  · exact calls_restoreWith _

/-! ### Every call -/

theorem calls_dropped (calls : Keeps (CallSteps deviceId) program) :
    Keeps (CallSteps deviceId) (do let _ ← program; pure PUnit.unit : Session PUnit) :=
  Keeps.bind calls fun _ => Keeps.pure _

theorem keeps_call (options : Options) (call : Call) (other : call ≠ .openSession) :
    Keeps (CallSteps options.deviceId) (runCall options call) := by
  cases call with
  | openSession => exact absurd rfl other
  | publishKeyPackages count => exact calls_of_moves (moves_publishKeyPackages trivial count)
  | createGroup key wallets =>
    exact calls_dropped (calls_of_moves (moves_bootstrapAttempts trivial key wallets _))
  | addWallets key wallets =>
    exact calls_dropped (calls_of_moves (moves_addWallets trivial key wallets))
  | acceptWelcomes => exact calls_dropped (calls_of_moves (moves_acceptWelcomes trivial))
  | joinExternal key => exact calls_dropped (calls_of_moves (moves_joinExternal key))
  | ensureGroup key => exact calls_dropped (calls_of_moves (moves_ensureGroup trivial key))
  | reconcile key readers => exact calls_of_moves (moves_reconcile trivial key readers)
  | sealMessage key readers inner =>
    exact calls_dropped (calls_of_moves (moves_sealMessage trivial key readers inner))
  | wrap key inner => exact calls_dropped (calls_of_moves (moves_wrap key inner))
  | storeOwn key row => exact calls_of_moves (moves_putRows key [row])
  | sync key => exact calls_dropped (calls_of_moves (moves_sync key))
  | ensureSelfGroup => exact calls_of_moves (moves_ensureSelfGroup trivial)
  | syncSelf => exact calls_of_moves (moves_syncSelf trivial)
  | sendOwnHistory => exact calls_of_moves moves_sendOwnHistory
  | enableBackup prf => exact calls_dropped (calls_enableBackup prf)
  | backupNow => exact calls_dropped calls_backupNow
  | restoreBackup => exact calls_dropped calls_restoreBackup
  | maintain => exact calls_dropped calls_maintain

end Session

end MessagingStack.Sdk

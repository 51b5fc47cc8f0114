import Mathlib.Logic.Relation
import MessagingStack.Sdk.Renewal

/-!
# What a session can do, step by step

Every program of a session is made of a few primitive **steps**: a reply comes, something in
memory changes, a value is saved, a message is processed or encrypted, a group is built, joined
or dropped.  `Step` lists them, each with what is known when it is taken; in particular a message
that is processed was served by a reply, and a message is handed over only when the device that
encrypted it has just been saved.
-/

namespace MessagingStack.Sdk

open Relation

/-! ## Steps -/

/-- The wires that a reply serves. -/
def Answer.wires : Answer → List Wire
  | .page rows => rows.messages.map RelayerMessage.encryptedText
  | .selfItems log => log.map SelfItem.body
  | _ => []

/-- The events that every program may record at any time. -/
def Event.plain : Event → Bool
  | .encrypted _ _ _ => false
  | .handed _ _ => false
  | .stored _ _ => false
  | _ => true

/-- A reply that satisfies the condition serves the message. -/
def Served (P : Answer → Prop) (message : Message) : Prop :=
  ∃ answer, P answer ∧ Mls.Wire.message message ∈ answer.wires

def ScriptOk (P : Answer → Prop) (world : World) : Prop := ∀ reply ∈ world.script, P reply.answer

/-- The primitive steps of a session. -/
inductive Step (P : Answer → Prop) (B : Prop) (deviceId : String) : World → World → Prop
  | tick (world : World) (reply : Reply) (rest : List Reply)
      (next : world.script = reply :: rest) :
      Step P B deviceId world (Session.tick world reply rest)
  /-- The memory beside the device changes. -/
  | idle (world : World) (certs : CertificateCache) (desynced : List GroupId)
      (joinBackoff : GroupId → Option Int) (resyncs : GroupId → List Int)
      (lastWelcomePoll : Int) (reassemblers : GroupId → List Bytes) (used : Nat) :
      Step P B deviceId world
        { world with
          certs, desynced, joinBackoff, resyncs, lastWelcomePoll, reassemblers
          fresh := world.fresh + used }
  | emit (world : World) (event : Event) (plain : event.plain = true) :
      Step P B deviceId world { world with trace := world.trace ++ [event] }
  /-- A small value is saved. -/
  | save (world : World) (groups : List GroupId) (certOk : MlsDeviceCertificate → Bool)
      (registry : String → Option RegistryCacheEntry) :
      Step P B deviceId world { world with store := { world.store with groups, certOk, registry } }
  | persist (world : World) :
      Step P B deviceId world
        { world with store := { world.store with device := some ⟨world.device, deviceId⟩ } }
  | cursor (world : World) (key : GroupId) (order : Int) :
      Step P B deviceId world { world with store := world.store.setCursor key order }
  | putRows (world : World) (key : GroupId) (rows : List UnwrappedRow) :
      Step P B deviceId world
        { world with
          store := world.store.putRows key rows
          trace := world.trace ++ [.stored key rows] }
  /-- A served message is processed. -/
  | process (world : World) (key : GroupId) (message : Message) (group after : Group)
      (processed : Mls.Processed Identity Bytes)
      (served : Served P message)
      (held : world.device.groups key = some group)
      (ran : group.process message = some (processed, after)) :
      Step P B deviceId world { world with device := world.device.setGroup key after }
  | encrypt (world : World) (key : GroupId) (group : Group) (message : Message) :
      Step P B deviceId world
        { world with
          device := world.device.advance (ownRatchet group)
          trace := world.trace ++ [.encrypted key group message] }
  /-- A message is encrypted, the device saved, and the message handed over. -/
  | hand (world : World) (key : GroupId) (group : Group) (plaintext : Bytes) (message : Message)
      (reply : Reply) (rest : List Reply)
      (held : world.device.groups key = some group)
      (ran : group.encrypt (world.device.ratchets (ownRatchet group))
        (.certificate world.device.identity) plaintext = some message)
      (next : world.script = reply :: rest) :
      Step P B deviceId world
        { Session.tick world reply rest with
          device := world.device.advance (ownRatchet group)
          store :=
            { world.store with
              device := some ⟨world.device.advance (ownRatchet group), deviceId⟩ }
          trace := world.trace ++ [.encrypted key group message] ++
            [.handed world.device.signatureKey message] }
  /-- The device joins a group from served group information. -/
  | rejoin (world : World) (key : GroupId) (info : Mls.GroupInfo Identity)
      (served : P (.groupInfo (some info))) :
      Step P B deviceId world
        { world with
          device := world.device.setGroup key (Session.rejoinExternal world info).2
          fresh := world.fresh + 1 }
  | delete (world : World) (key : GroupId) :
      Step P B deviceId world { world with device := world.device.deleteGroup key }
  /-- A commit is built, a group created, or a welcome accepted. -/
  | build (world : World) (key : GroupId) (group : Group) (keyPackages : List Nat) (used : Nat)
      (allowed : B) :
      Step P B deviceId world
        { world with
          device := { world.device.setGroup key group with keyPackages }
          fresh := world.fresh + used }
  | renew (world : World) (identity : MlsDeviceCertificate) (keyPackages : List Nat) (used : Nat)
      (allowed : B) :
      Step P B deviceId world
        { world with
          device := { world.device with identity, keyPackages }
          fresh := world.fresh + used }

variable {P : Answer → Prop} {B : Prop} {deviceId : String}

def Steps (P : Answer → Prop) (B : Prop) (deviceId : String) : World → World → Prop :=
  ReflTransGen (Step P B deviceId)

instance : Std.Refl (Steps P B deviceId) := ⟨fun _ => ReflTransGen.refl⟩

instance : IsTrans World (Steps P B deviceId) := ⟨fun _ _ _ => ReflTransGen.trans⟩

/-- A run under a script that satisfies the condition is a sequence of steps. -/
abbrev Moves (P : Answer → Prop) (B : Prop) (deviceId : String) : World → World → Prop :=
  Async.Guarded (ScriptOk P) (Steps P B deviceId)

variable {before after : World}

theorem Step.moves (step : Step P B deviceId before after) (script : after.script = before.script) :
    Moves P B deviceId before after := by
  intro ok
  refine ⟨fun reply mem => ok reply ?_, ReflTransGen.single step⟩
  rwa [script] at mem

theorem moves_tick (world : World) (reply : Reply) (rest : List Reply)
    (next : world.script = reply :: rest) :
    Moves P B deviceId world (Session.tick world reply rest) := by
  intro ok
  refine ⟨fun later mem => ok later ?_, ReflTransGen.single (.tick world reply rest next)⟩
  rw [next]
  exact List.mem_cons_of_mem _ mem

/-! ## Quiet programs -/

/-- Only replies come, and only plain events are recorded. -/
inductive QuietStep : World → World → Prop
  | tick (world : World) (reply : Reply) (rest : List Reply)
      (next : world.script = reply :: rest) : QuietStep world (Session.tick world reply rest)
  | emit (world : World) (event : Event) (plain : event.plain = true) :
      QuietStep world { world with trace := world.trace ++ [event] }

def Quietly : World → World → Prop := ReflTransGen QuietStep

instance : Std.Refl Quietly := ⟨fun _ => ReflTransGen.refl⟩

instance : IsTrans World Quietly := ⟨fun _ _ _ => ReflTransGen.trans⟩

def World.withDevice (world : World) (device : Device) : World := { world with device }

theorem QuietStep.withDevice (step : QuietStep before after) (device : Device) :
    QuietStep (before.withDevice device) (after.withDevice device) := by
  cases step with
  | tick reply rest next => exact .tick (before.withDevice device) reply rest next
  | emit event plain => exact .emit (before.withDevice device) event plain

theorem Quietly.withDevice (quietly : Quietly before after) (device : Device) :
    Quietly (before.withDevice device) (after.withDevice device) := by
  induction quietly with
  | refl => exact ReflTransGen.refl
  | tail _ step ih => exact ReflTransGen.tail ih (step.withDevice device)

theorem QuietStep.moves (step : QuietStep before after) :
    Moves P B deviceId before after := by
  cases step with
  | tick reply rest next => exact moves_tick before reply rest next
  | emit event plain => exact (Step.emit before event plain).moves rfl

theorem Quietly.moves (quietly : Quietly before after) :
    Moves P B deviceId before after := by
  induction quietly with
  | refl => exact Std.Refl.refl before
  | tail _ step ih => exact IsTrans.trans _ _ _ ih step.moves

namespace Session

open Async

variable {options : Options}

theorem quietly_tick (world : World) (reply : Reply) (rest : List Reply)
    (next : world.script = reply :: rest) : Quietly world (tick world reply rest) :=
  ReflTransGen.single (.tick world reply rest next)

theorem quietly_ask {α : Type} (read : Answer → Option α) : Keeps Quietly (ask read) :=
  keeps_ask quietly_tick read

theorem quietly_readWorld {α : Type} (read : World → α) : Keeps Quietly (readWorld read) :=
  keeps_readWorld quietly_tick read

theorem quietly_fetchRows (key : GroupId) (cursor : Int) : Keeps Quietly (fetchRows key cursor) :=
  Keeps.bind (quietly_ask _) fun page =>
    Keeps.bind (Keeps.modify fun world => ReflTransGen.single (.emit world _ rfl)) fun _ =>
      Keeps.pure page

theorem quietly_findInLogFrom (key : GroupId) (bytes : Wire) (turns : Nat) (cursor : Int) :
    Keeps Quietly (findInLogFrom key bytes turns cursor) := by
  induction turns generalizing cursor with
  | zero => exact Keeps.crash
  | succ turns ih =>
    refine Keeps.bind (quietly_fetchRows key cursor) fun page => ?_
    split_ifs
    · exact Keeps.pure _
    · exact Keeps.pure _
    · exact ih _

theorem quietly_postCommit (key : GroupId) (commit : Wire) :
    Keeps Quietly (postCommit key commit) := by
  refine Keeps.tryCatch (quietly_ask _) fun reason => Keeps.tryCatch ?_ fun _ => Keeps.throw reason
  refine Keeps.bind (quietly_readWorld _) fun cursor => ?_
  exact Keeps.bind Keeps.get fun world => quietly_findInLogFrom key commit _ cursor

/-- The ends of an attempt: the commit was accepted or the process died, and the group is in the
device; or the device is where it was. -/
theorem attempt_cases (world : World) (key : GroupId) (group : Group) {post : Session Bool}
    (quiet : Keeps Quietly post) :
    let built : World :=
      { world with device := world.device.setGroup key group, fresh := world.fresh + 1 }
    let used : World := { world with fresh := world.fresh + 1 }
    (∃ after, Quietly built after ∧
      (attempt world key group post world = (.ok true, after) ∨
        attempt world key group post world = (.crash, after))) ∨
    (∃ after, Quietly used after ∧
      (attempt world key group post world = (.ok false, after) ∨
        ∃ reason, attempt world key group post world = (.error reason, after))) := by
  intro built used
  have adopted : adopt key group world = (.ok ⟨⟩, built) := rfl
  have quietly : Quietly built (post built).2 := quiet built
  have rolledBack : Quietly used ((post built).2.withDevice world.device) :=
    quietly.withDevice world.device
  rcases posted : post built with ⟨accepted | reason | _, after⟩ <;>
    rw [posted] at quietly rolledBack
  · have ran : attempt world key group post world =
        keepOrRollback world.device accepted after := by
      rw [attempt, bind_run_ok adopted, bind_run, tryCatch_run, posted]
    cases accepted with
    | true => exact .inl ⟨after, quietly, .inl ran⟩
    | false => exact .inr ⟨_, rolledBack, .inl ran⟩
  · refine .inr ⟨_, rolledBack, .inr ⟨reason, ?_⟩⟩
    rw [attempt, bind_run_ok adopted, bind_run, tryCatch_run, posted]
    rfl
  · refine .inl ⟨after, quietly, .inr ?_⟩
    rw [attempt, bind_run_ok adopted, bind_run, tryCatch_run, posted]

/-! ## The programs: reading the log -/

section

variable {P : Answer → Prop} {B : Prop} {α : Type} {world : World}

theorem Keeps.quiet {program : Session α} (quiet : Keeps Quietly program) :
    Keeps (Moves P B deviceId) program :=
  fun world => (quiet world).moves

theorem moves_ask (read : Answer → Option α) :
    Keeps (Moves P B deviceId) (ask read) :=
  Keeps.quiet (quietly_ask read)

theorem moves_readWorld (read : World → α) :
    Keeps (Moves P B deviceId) (readWorld read) :=
  Keeps.quiet (quietly_readWorld read)

theorem moves_notify : Keeps (Moves P B deviceId) notify := moves_ask _

theorem moves_notifyQuietly : Keeps (Moves P B deviceId) (Async.orElse notify ⟨⟩) :=
  Keeps.orElse moves_notify

theorem moves_emit {event : Event} (plain : event.plain = true) :
    Keeps (Moves P B deviceId) (emit event) :=
  Keeps.modify fun world => (Step.emit world event plain).moves rfl

/-- The memory beside the device changes. -/
theorem moves_idle {change : World → World}
    (idle : ∀ world, ∃ used, change world =
      { world with
        certs := (change world).certs
        desynced := (change world).desynced
        joinBackoff := (change world).joinBackoff
        resyncs := (change world).resyncs
        lastWelcomePoll := (change world).lastWelcomePoll
        reassemblers := (change world).reassemblers
        fresh := world.fresh + used }) :
    Keeps (Moves P B deviceId) (Async.modify change : Session PUnit) :=
  Keeps.modify fun world => by
    obtain ⟨used, same⟩ := idle world
    rw [same]
    exact (Step.idle world _ _ _ _ _ _ used).moves rfl

theorem moves_persist : Keeps (Moves P B options.deviceId) (persist options) :=
  keeps_write moves_tick fun world => (Step.persist world).moves rfl

variable (key : GroupId) (trusted resynced : Bool) (onlyGroup : Option GroupId) (state : PageState)

theorem moves_setCursor (order : Int) :
    Keeps (Moves P B deviceId) (writeStore fun store => store.setCursor key order) :=
  keeps_write moves_tick fun world => (Step.cursor world key order).moves rfl

theorem moves_putRows (rows : List UnwrappedRow) :
    Keeps (Moves P B deviceId) (putRows key rows) :=
  keeps_write moves_tick fun world => (Step.putRows world key rows).moves rfl

theorem moves_rememberGroup : Keeps (Moves P B deviceId) (rememberGroup key) := by
  refine Keeps.modify fun world => ?_
  have saved : world.store.rememberGroup key =
      { world.store with groups := (world.store.rememberGroup key).groups } := by
    unfold StateStore.rememberGroup
    split_ifs <;> rfl
  rw [saved]
  exact (Step.save world _ world.store.certOk world.store.registry).moves rfl

theorem moves_addDesynced : Keeps (Moves P B deviceId) (addDesynced key) :=
  moves_idle fun _ => ⟨0, rfl⟩

theorem moves_deleteDesynced : Keeps (Moves P B deviceId) (deleteDesynced key) :=
  moves_idle fun _ => ⟨0, rfl⟩

theorem moves_setJoinBackoff : Keeps (Moves P B deviceId) (setJoinBackoff key) :=
  moves_idle fun _ => ⟨0, rfl⟩

theorem moves_randomBundleId : Keeps (Moves P B deviceId) randomBundleId :=
  Keeps.bind Keeps.get fun _ => Keeps.bind (moves_idle fun _ => ⟨1, rfl⟩) fun _ => Keeps.pure _

theorem moves_publishGroupInfo :
    Keeps (Moves P B deviceId) (publishGroupInfo key) := by
  refine Keeps.bind Keeps.get fun world => ?_
  split
  · exact Keeps.pure _
  · exact moves_notifyQuietly

theorem moves_encrypt (plaintext : Bytes) :
    Keeps (Moves P B deviceId) (encrypt key plaintext) := by
  refine Keeps.bind Keeps.get fun world => ?_
  split
  · exact Keeps.throw _
  split
  · exact Keeps.throw _
  next group _ _ message _ =>
  exact Keeps.bind
    (Keeps.modify fun world => (Step.encrypt world key group message).moves rfl)
    fun _ => Keeps.pure _

theorem moves_attempt {key : GroupId} {group : Group} {post : Session Bool}
    (quiet : Keeps Quietly post)
    (built : Step P B deviceId world
      { world with device := world.device.setGroup key group, fresh := world.fresh + 1 })
    :
    Moves P B deviceId world (attempt world key group post world).2 := by
  have used : Moves P B deviceId world { world with fresh := world.fresh + 1 } :=
    (Step.idle world _ _ _ _ _ _ 1).moves rfl
  rcases attempt_cases world key group quiet with
    ⟨after, quietly, ran | ran⟩ | ⟨after, quietly, ran | ⟨reason, ran⟩⟩ <;> rw [ran]
  · exact IsTrans.trans _ _ _ (built.moves rfl) quietly.moves
  · exact IsTrans.trans _ _ _ (built.moves rfl) quietly.moves
  · exact IsTrans.trans _ _ _ used quietly.moves
  · exact IsTrans.trans _ _ _ used quietly.moves

theorem moves_afterJoin (commit : Message) :
    Keeps (Moves P B options.deviceId) (afterJoin options key commit) := by
  refine Keeps.bind (moves_emit rfl) fun _ => ?_
  refine Keeps.bind (moves_rememberGroup key) fun _ => ?_
  refine Keeps.bind (moves_deleteDesynced key) fun _ => ?_
  exact Keeps.bind moves_persist fun _ => moves_publishGroupInfo key

theorem getGroupInfo_value {info : Mls.GroupInfo Identity} (ok : ScriptOk P world)
    (resolved : (getGroupInfo world).1 = .ok (some info)) :
    P (.groupInfo (some info)) := by
  obtain ⟨reply, mem, isInfo⟩ := ask_value resolved
  have satisfied := ok reply mem
  split at isInfo
  · next info' isAnswer =>
    cases isInfo
    rwa [isAnswer] at satisfied
  · cases isInfo

theorem moves_joinExternalAttempts (attempts : Nat) :
    Keeps (Moves P B options.deviceId) (joinExternalAttempts options key attempts) := by
  induction attempts with
  | zero => exact Keeps.pure _
  | succ attempts ih =>
    refine Keeps.bindValue
      (Q := fun info => ∀ published, info = some published → P (.groupInfo (some published)))
      (moves_ask _) ?_ fun info served => ?_
    · rintro world ok _ resolved published rfl
      exact getGroupInfo_value ok resolved
    cases info with
    | none => exact Keeps.pure _
    | some info =>
      refine Keeps.getBind fun world => ?_
      refine Keeps.at_bind (moves_attempt (quietly_postCommit key _)
        (Step.rejoin world key info (served info rfl))) fun accepted => ?_
      split_ifs
      · exact Keeps.bind (moves_afterJoin key _) fun _ => Keeps.pure _
      · exact ih

theorem moves_joinExternal :
    Keeps (Moves P B options.deviceId) (joinExternal options key) :=
  moves_joinExternalAttempts key _

theorem moves_askReaders : Keeps (Moves P B deviceId) (askReaders options) := by
  unfold askReaders
  split_ifs
  · exact Keeps.orElse (moves_ask _)
  · exact Keeps.pure _

theorem moves_resync :
    Keeps (Moves P B options.deviceId) (resync options key) := by
  refine Keeps.bind (moves_addDesynced key) fun _ => ?_
  refine Keeps.bind ?_ fun allowed => ?_
  · exact Keeps.bind Keeps.get fun _ => Keeps.bind (moves_idle fun _ => ⟨0, rfl⟩) fun _ =>
      Keeps.pure _
  split_ifs
  · exact Keeps.pure _
  refine Keeps.bind moves_askReaders fun readers => ?_
  split_ifs
  · refine Keeps.bind (Keeps.modify fun world => (Step.delete world key).moves rfl) fun _ => ?_
    refine Keeps.bind (moves_deleteDesynced key) fun _ => ?_
    exact Keeps.bind moves_persist fun _ => Keeps.pure _
  refine Keeps.bind (Keeps.orElse (moves_joinExternal key)) fun ok => ?_
  split_ifs
  · exact Keeps.pure _
  · exact Keeps.bind (moves_setJoinBackoff key) fun _ => Keeps.pure _

theorem moves_importRows (rows : List UnwrappedRow) :
    Keeps (Moves P B deviceId) (importRows key trusted rows) := by
  refine Keeps.bind (moves_readWorld _) fun new => ?_
  dsimp only
  split_ifs
  · exact Keeps.pure _
  · exact Keeps.bind (moves_putRows key _) fun _ => Keeps.pure _

theorem moves_importGroups (groups : List (GroupId × Option (List (Option UnwrappedRow)))) :
    Keeps (Moves P B deviceId) (importGroups trusted onlyGroup groups) := by
  induction groups with
  | nil => exact Keeps.pure _
  | cons group rest ih =>
    obtain ⟨groupId, rows⟩ := group
    unfold importGroups
    dsimp only
    split
    · exact ih
    · exact Keeps.bind (moves_importRows _ _ _) fun _ => Keeps.bind ih fun _ => Keeps.pure _

theorem moves_importBundle (payload : Bytes) (trusted : Bool) (onlyGroup : Option GroupId) :
    Keeps (Moves P B deviceId) (importBundle options payload trusted onlyGroup) := by
  unfold importBundle
  split
  · exact Keeps.pure _
  · split_ifs
    · exact moves_importGroups _ _ _
    · exact Keeps.pure _

theorem moves_receiveChunk (chunk : Bytes) (trusted : Bool) (onlyGroup : Option GroupId) :
    Keeps (Moves P B deviceId) (receiveChunk options key chunk trusted onlyGroup) := by
  refine Keeps.bind ?_ fun payload => ?_
  · exact Keeps.bind Keeps.get fun _ => Keeps.bind (moves_idle fun _ => ⟨0, rfl⟩) fun _ =>
      Keeps.pure _
  · split
    · exact Keeps.pure _
    · exact Keeps.bind (moves_importBundle _ _ _) fun _ => Keeps.pure _

theorem moves_postChunks {post : Session PUnit} (quiet : Keeps Quietly post) (chunks : List Bytes) :
    Keeps (Moves P B options.deviceId) (postChunks options key post chunks) := by
  induction chunks with
  | nil => exact Keeps.pure _
  | cons chunk rest ih =>
    refine Keeps.bind (moves_encrypt key chunk) fun message => ?_
    refine Keeps.bind Keeps.get fun world => Keeps.bind (moves_emit rfl) fun _ => ?_
    exact Keeps.bind (Keeps.quiet quiet) fun _ => Keeps.bind moves_persist fun _ => ih

theorem moves_shareRecent (days : Int) :
    Keeps (Moves P B options.deviceId) (shareRecent options key days) := by
  refine Keeps.bind Keeps.get fun world => ?_
  split_ifs
  · refine Keeps.bind (moves_readWorld _) fun rows => ?_
    split_ifs
    · exact Keeps.pure _
    · exact Keeps.bind moves_randomBundleId fun _ => moves_postChunks key (quietly_ask _) _
  · exact Keeps.pure _

def WireServed (P : Answer → Prop) (wire : Wire) : Prop :=
  ∀ message, wire = .message message → Served P message

theorem moves_process {wire : Wire} (served : WireServed P wire) :
    Keeps (Moves P B deviceId) (process key wire) := by
  refine Keeps.getBind fun world => ?_
  cases held : world.device.groups key with
  | none => exact Keeps.pure _ world
  | some group =>
    cases wire with
    | message message =>
      cases ran : group.process message with
      | none =>
        simp only [ran]
        exact Keeps.pure _ world
      | some result =>
        obtain ⟨processed, after⟩ := result
        simp only [ran]
        refine Keeps.at_bind ?_ fun _ => Keeps.pure _
        exact (Step.process world key message group after processed (served message rfl) held
          ran).moves rfl
    | other | junk => exact Keeps.pure _ world

theorem moves_receive (row : RelayerMessage) (plaintext : Bytes) (sender : Identity) :
    Keeps (Moves P B deviceId) (receive options key row plaintext sender) := by
  unfold receive
  split
  · exact Keeps.bind (moves_receiveChunk _ _ _ _) fun _ => Keeps.pure _
  refine Keeps.bind (moves_emit rfl) fun _ => ?_
  split
  · exact Keeps.throw _
  refine Keeps.bind ?_ fun _ => Keeps.pure _
  unfold verifySender
  split_ifs
  · exact moves_ask _
  · exact Keeps.pure _

theorem moves_processRow {row : RelayerMessage} (served : WireServed P row.encryptedText) :
    Keeps (Moves P B deviceId) (processRow options key row) := by
  refine Keeps.bind (moves_process key served) fun processed => ?_
  split
  · exact Keeps.pure _
  · exact Keeps.pure _
  · exact Keeps.pure _
  · exact Keeps.pure _
  · exact moves_receive _ _ _ _

theorem moves_savePage :
    Keeps (Moves P B options.deviceId) (savePage options key state) := by
  refine Keeps.bind ?_ fun _ => Keeps.bind moves_persist fun _ => moves_setCursor key _
  unfold putFresh
  split_ifs
  · exact Keeps.pure _
  · exact moves_putRows key _

theorem moves_stopPage :
    Keeps (Moves P B options.deviceId) (stopPage options key resynced state) := by
  refine Keeps.bind (moves_savePage key state) fun _ => ?_
  split_ifs
  · exact Keeps.pure _
  · exact Keeps.bind (moves_resync key) fun _ => Keeps.pure _

theorem moves_settleRow (row : RelayerMessage) (info : Mls.Inspected) (before : Group)
    (result : RowResult) (state : PageState) :
    Keeps (Moves P B options.deviceId)
      (settleRow options key resynced row info before result state) := by
  refine Keeps.bind Keeps.get fun world => ?_
  dsimp only
  split_ifs
  · exact Keeps.bind (moves_stopPage key resynced state) fun _ => Keeps.pure _
  · refine Keeps.bind (Keeps.bind Keeps.get fun _ => ?_) fun _ => Keeps.pure _
    split_ifs
    · exact moves_ask _
    · exact Keeps.pure _
    · exact Keeps.pure _
  · exact Keeps.pure _

theorem moves_syncRow {row : RelayerMessage} (served : WireServed P row.encryptedText)
    (state : PageState) :
    Keeps (Moves P B options.deviceId) (syncRow options key resynced row state) := by
  refine Keeps.bind Keeps.get fun world => ?_
  split
  · exact Keeps.pure _
  · exact Keeps.throw _
  · split_ifs
    · exact Keeps.bind (moves_stopPage key resynced state) fun _ => Keeps.pure _
    · exact Keeps.bind (moves_processRow key served) fun _ => moves_settleRow _ _ _ _ _ _ _

theorem moves_syncRows {rows : List RelayerMessage}
    (served : ∀ row ∈ rows, WireServed P row.encryptedText) (state : PageState) :
    Keeps (Moves P B options.deviceId) (syncRows options key resynced rows state) := by
  induction rows generalizing state with
  | nil => exact Keeps.pure _
  | cons row rest ih =>
    refine Keeps.bind (moves_syncRow key resynced (served row (by simp)) state) fun next => ?_
    split
    · exact ih (fun later isLater => served later (by simp [isLater])) _
    · exact Keeps.pure _

theorem fetchRows_value {key : GroupId} {cursor : Int} {page : Page} (ok : ScriptOk P world)
    (resolved : (fetchRows key cursor world).1 = .ok page) :
    ∀ row ∈ page.messages, WireServed P row.encryptedText := by
  simp only [fetchRows, emit, bind_run] at resolved
  rcases asked : ask _ world with ⟨answer | reason | _, after⟩ <;> rw [asked] at resolved
  · cases resolved
    obtain ⟨reply, mem, isPage⟩ := ask_value (congrArg Prod.fst asked)
    split at isPage
    · next served isAnswer =>
      cases isPage
      intro row isRow message isMessage
      refine ⟨reply.answer, ok reply mem, ?_⟩
      rw [isAnswer]
      exact List.mem_map.mpr ⟨row, isRow, isMessage⟩
    · cases isPage
  · cases resolved
  · cases resolved

theorem moves_finishPage :
    Keeps (Moves P B options.deviceId) (finishPage options key state) := by
  refine Keeps.bind (moves_savePage key state) fun _ => ?_
  split_ifs
  · exact Keeps.orElse (moves_shareRecent key _)
  · exact Keeps.pure _

theorem moves_syncLoop (turns : Nat) (resynced : Bool) (out : List UnwrappedRow) :
    Keeps (Moves P B options.deviceId) (syncLoop options key turns resynced out) := by
  induction turns generalizing resynced out with
  | zero => exact Keeps.crash
  | succ turns ih =>
    refine Keeps.bind Keeps.get fun world => ?_
    split_ifs
    · refine Keeps.bind (moves_readWorld _) fun cursor => ?_
      refine Keeps.bindValue (Keeps.quiet (quietly_fetchRows key cursor))
        (fun world ok page resolved => fetchRows_value ok resolved) fun page served => ?_
      refine Keeps.bind (moves_syncRows key resynced served _) fun ending => ?_
      split
      · exact ih _ _
      · exact Keeps.pure _
      refine Keeps.bind (moves_finishPage key _) fun _ => ?_
      split_ifs
      · exact Keeps.pure _
      · exact ih _ _
    · exact Keeps.pure _

theorem moves_republish (startEpoch : Option Nat) :
    Keeps (Moves P B deviceId) (republish key startEpoch) := by
  refine Keeps.bind Keeps.get fun world => ?_
  split
  · exact Keeps.pure _
  dsimp only
  split_ifs
  · exact moves_publishGroupInfo key
  · exact Keeps.pure _

/-- **Reading the log is a sequence of steps**, none of which builds a group. -/
theorem moves_sync : Keeps (Moves P B options.deviceId) (sync options key) :=
  Keeps.bind Keeps.get fun _ => Keeps.tryFinally (moves_syncLoop _ _ _ _) (moves_republish _ _)

end

end Session

end MessagingStack.Sdk

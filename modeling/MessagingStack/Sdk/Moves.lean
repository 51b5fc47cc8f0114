import MessagingStack.Sdk.Steps

/-!
# The programs of a session are sequences of steps

`MessagingStack.Sdk.Steps` says what the primitive steps of a session are, and that reading a
group's log is a sequence of them.  This module goes through the other programs: judging
certificates, sending, and everything that changes a group.
-/

namespace MessagingStack.Sdk.Session

open Async

section

variable {options : Options} {P : Answer → Prop} {B : Prop} {deviceId : String}

/-! ## The programs: certificates -/

theorem moves_saveStore {change : StateStore → StateStore}
    (saved : ∀ store, ∃ groups certOk registry,
      change store = { store with groups, certOk, registry }) :
    Keeps (Moves P B deviceId) (writeStore change) :=
  keeps_write moves_tick fun world => by
    obtain ⟨groups, certOk, registry, same⟩ := saved world.store
    rw [same]
    exact (Step.save world groups certOk registry).moves rfl

variable (key : GroupId) (cert : MlsDeviceCertificate)

theorem moves_statusV1 :
    Keeps (Moves P B deviceId) (CertificateCache.statusV1 cert) := by
  have remembers (status : MlsCertificateStatus) : Keeps (Moves P B deviceId)
      (CertificateCache.remember (certificateDigest cert) status) :=
    moves_idle fun _ => ⟨0, rfl⟩
  refine Keeps.bind Keeps.get fun world => ?_
  split
  · exact Keeps.pure _
  refine Keeps.bind (moves_readWorld _) fun saved => ?_
  split_ifs
  · exact Keeps.bind (remembers _) fun _ => Keeps.pure _
  refine Keeps.bind (moves_ask _) fun status => ?_
  cases status with
  | valid =>
    refine Keeps.bind (moves_saveStore fun store => ⟨_, _, _, rfl⟩) fun _ => ?_
    exact Keeps.bind (remembers _) fun _ => Keeps.pure _
  | invalid => exact Keeps.bind (remembers _) fun _ => Keeps.pure _
  | unknown => exact Keeps.pure _

theorem moves_lookup (owner deviceId' : String) :
    Keeps (Moves P B deviceId) (CertificateCache.lookup owner deviceId') :=
  Keeps.bind (moves_ask _) fun _ => Keeps.bind Keeps.get fun _ => Keeps.pure _

theorem moves_registryEntry (owner deviceId' : String) :
    Keeps (Moves P B deviceId) (CertificateCache.registryEntry owner deviceId') := by
  refine Keeps.bind (Keeps.bind Keeps.get fun _ => Keeps.pure _) fun time => ?_
  refine Keeps.bind (Keeps.bind Keeps.get fun world => ?_) fun entry => ?_
  · split
    · exact Keeps.pure _
    · exact moves_readWorld _
  split_ifs
  · exact Keeps.pure _
  refine Keeps.tryCatch ?_ fun _ => Keeps.pure _
  refine Keeps.bind (moves_lookup _ _) fun record => ?_
  refine Keeps.bind (moves_idle fun _ => ⟨0, rfl⟩) fun _ => ?_
  exact Keeps.bind (moves_saveStore fun store => ⟨_, _, _, rfl⟩) fun _ => Keeps.pure _

theorem moves_judge :
    Keeps (Moves P B deviceId) (CertificateCache.judge options cert) := by
  unfold CertificateCache.judge
  split_ifs
  · unfold CertificateCache.statusV2
    split
    · exact Keeps.pure _
    · exact Keeps.pure _
    refine Keeps.bind (Keeps.bind Keeps.get fun world => ?_) fun sigOk => ?_
    · split
      · exact Keeps.pure _
      · exact Keeps.bind (moves_idle fun _ => ⟨0, rfl⟩) fun _ => Keeps.pure _
    split_ifs
    · exact Keeps.pure _
    · refine Keeps.bind (moves_registryEntry _ _) fun entry => ?_
      exact Keeps.bind (Keeps.bind Keeps.get fun _ => Keeps.pure _) fun _ => Keeps.pure _
  · exact moves_statusV1 cert

theorem moves_status :
    Keeps (Moves P B deviceId) (CertificateCache.status options cert) :=
  Keeps.bind (moves_judge cert) fun _ => Keeps.bind (moves_emit rfl) fun _ => Keeps.pure _

theorem moves_checkLeaves (readers : List String) (myKey : String) (mine : Option Nat)
    (leaves : List Leaf) :
    Keeps (Moves P B deviceId) (checkLeaves options readers myKey mine leaves) := by
  induction leaves with
  | nil => exact Keeps.pure _
  | cons leaf rest ih =>
    unfold checkLeaves
    split_ifs
    · exact ih
    · split
      · exact Keeps.bind ih fun _ => Keeps.pure _
      · exact Keeps.bind (moves_status _) fun _ => Keeps.bind ih fun _ => Keeps.pure _

theorem moves_checkGroup (readers : List String) :
    Keeps (Moves P B deviceId) (checkGroup options key readers) :=
  Keeps.bind Keeps.get fun _ => moves_checkLeaves _ _ _ _

/-! ## The programs: sending -/

/-- The ends of an encryption: nothing happened, or the ratchet moved on by one. -/
theorem encrypt_cases (plaintext : Bytes) (world : World) :
    (∃ outcome, encrypt key plaintext world = (outcome, world) ∧ ∀ value, outcome ≠ .ok value) ∨
    (∃ group message, world.device.groups key = some group ∧
      group.encrypt (world.device.ratchets (ownRatchet group))
        (.certificate world.device.identity) plaintext = some message ∧
      encrypt key plaintext world =
        (.ok message,
          { world with
            device := world.device.advance (ownRatchet group)
            trace := world.trace ++ [.encrypted key group message] })) := by
  simp only [encrypt, bind_run, get_run]
  cases held : world.device.groups key with
  | none => exact .inl ⟨_, rfl, by simp⟩
  | some group =>
    cases ran : group.encrypt (world.device.ratchets (ownRatchet group))
        (.certificate world.device.identity) plaintext with
    | none =>
      simp only [ran]
      exact .inl ⟨_, rfl, by simp⟩
    | some message =>
      simp only [ran]
      exact .inr ⟨group, message, rfl, ran, rfl⟩

theorem moves_encryptInner (inner : Inner) :
    Keeps (Moves P B options.deviceId) (encryptInner options key inner) := by
  intro world
  rcases encrypt_cases key (encodeInner inner) world with
    ⟨outcome, failed, notOk⟩ | ⟨group, message, held, ran, encrypted⟩
  · rw [encryptInner, bind_run, failed]
    cases outcome with
    | ok value => exact absurd rfl (notOk value)
    | error | crash => exact Std.Refl.refl world
  rw [encryptInner, bind_run_ok encrypted]
  have moved : Moves P B options.deviceId world _ :=
    (Step.encrypt world key group message).moves rfl
  rcases write_cases
    (fun world : World =>
      { world with store :=
        { world.store with device := some ⟨world.device, options.deviceId⟩ } })
    { world with
      device := world.device.advance (ownRatchet group)
      trace := world.trace ++ [.encrypted key group message] } with
    ⟨reply, rest, script, saved⟩ | ⟨outcome, after, failed, notOk, ends⟩
  · rw [persist, bind_run_ok saved]
    intro ok
    refine ⟨fun later mem => ok later ?_,
      Relation.ReflTransGen.single
        (Step.hand world key group (encodeInner inner) message reply rest held ran script)⟩
    rw [show world.script = reply :: rest from script]
    exact List.mem_cons_of_mem _ mem
  have reached : Moves P B options.deviceId world after := by
    rcases ends with (rfl | ⟨reply, rest, script, rfl⟩) | ⟨reply, rest, script, rfl⟩
    · exact moved
    · exact IsTrans.trans _ _ _ moved (moves_tick _ reply rest script)
    · refine IsTrans.trans _ _ _ moved (IsTrans.trans _ _ _ (moves_tick _ reply rest script) ?_)
      exact (Step.persist _).moves rfl
  rw [bind_run, persist, failed]
  cases outcome with
  | ok value => exact absurd rfl (notOk value)
  | error | crash => exact reached

theorem moves_wrap (inner : Inner) :
    Keeps (Moves P B options.deviceId) (wrap options key inner) := by
  refine Keeps.bind Keeps.get fun world => ?_
  split_ifs
  · exact Keeps.throw _
  · exact moves_encryptInner key inner
  · exact Keeps.throw _

/-! ## The programs: changing groups -/

section

variable (allowed : B)

include allowed

theorem step_build (world : World) (key : GroupId) (group : Group) :
    Step P B deviceId world
      { world with device := world.device.setGroup key group, fresh := world.fresh + 1 } :=
  Step.build world key group world.device.keyPackages 1 allowed

omit allowed in
theorem moves_afterCommit (key : GroupId) (base : Group) {built : Built}
    (after : Keeps Quietly built.afterAccept) :
    Keeps (Moves P B options.deviceId) (afterCommit options key base built) := by
  refine Keeps.bind (moves_emit rfl) fun _ => ?_
  refine Keeps.bind (moves_deleteDesynced key) fun _ => ?_
  refine Keeps.bind moves_persist fun _ => ?_
  exact Keeps.bind (Keeps.quiet after) fun _ => moves_publishGroupInfo key

/-- A builder whose commits only send a message when they are accepted. -/
def QuietBuild (build : Build) : Prop :=
  ∀ fresh device group built, build fresh device group = some (some built) →
    Keeps Quietly built.afterAccept

variable (key : GroupId)

theorem moves_commitAttempts {build : Build} (quiet : QuietBuild build) (attempts : Nat) :
    Keeps (Moves P B options.deviceId) (commitAttempts options key build attempts) := by
  induction attempts with
  | zero => exact Keeps.throw _
  | succ attempts ih =>
    refine Keeps.getBind fun world => ?_
    cases (world.device.groups key).filter (·.active) with
    | none => exact Keeps.throw _ world
    | some group =>
      rcases made : build world.fresh world.device group with _ | _ | built
      · simp only [made]
        exact Keeps.throw _ world
      · simp only [made]
        exact Keeps.pure _ world
      simp only [made]
      refine Keeps.at_bind (moves_attempt (quietly_postCommit key _)
        (step_build allowed world key built.group)) fun accepted => ?_
      split_ifs
      · exact Keeps.bind (moves_afterCommit key group (quiet _ _ _ _ made)) fun _ => Keeps.pure _
      · exact Keeps.bind (moves_sync key) fun _ => ih

theorem moves_commit {build : Build} (quiet : QuietBuild build) :
    Keeps (Moves P B options.deviceId) (commit options key build) :=
  moves_commitAttempts allowed key quiet _

omit allowed in
theorem quietBuild_plain {build : Nat → Device → Group → Option (Option (Message × Group))} :
    QuietBuild fun fresh device group =>
      (build fresh device group).map fun commit => commit.map Built.plain := by
  intro fresh device group built made
  simp only [Option.map_eq_some_iff] at made
  obtain ⟨_, -, commit, -, rfl⟩ := made
  exact Keeps.pure _

omit allowed in
theorem quietBuild_removeLeaves (indices : List Nat) : QuietBuild (removeLeaves indices) := by
  intro fresh device group built made
  simp only [removeLeaves, Option.map_eq_some_iff] at made
  obtain ⟨commit, -, same⟩ := made
  cases same
  exact Keeps.pure _

omit allowed in
theorem quietBuild_updateCredential : QuietBuild updateCredential := by
  intro fresh device group built made
  simp only [updateCredential, Option.map_eq_some_iff] at made
  obtain ⟨commit, -, same⟩ := made
  cases same
  exact Keeps.pure _

omit allowed in
theorem quietBuild_addMembers (usable : List Usable) : QuietBuild (addMembers usable) := by
  intro fresh device group built made
  unfold addMembers at made
  split at made
  · cases made
  simp only [Option.map_eq_some_iff] at made
  obtain ⟨commit, -, same⟩ := made
  cases same
  exact quietly_ask _

theorem moves_publishKeyPackages (count : Nat) :
    Keeps (Moves P B options.deviceId) (publishKeyPackages options count) := by
  refine Keeps.bind (Keeps.modify fun world => ?_) fun _ =>
    Keeps.bind moves_persist fun _ => moves_notify
  exact (Step.renew world world.device.identity _ count allowed).moves rfl

omit allowed in
theorem moves_usableKeyPackages (wanted : List String) (present : List (Option String))
    (claimed : List Claimed) :
    Keeps (Moves P B deviceId) (usableKeyPackages options wanted present claimed) := by
  induction claimed with
  | nil => exact Keeps.pure _
  | cons first rest ih =>
    unfold usableKeyPackages
    split
    · exact ih
    · exact Keeps.bind (moves_status _) fun _ => Keeps.bind ih fun _ => Keeps.pure _

theorem moves_addWallets (wallets : List String) :
    Keeps (Moves P B options.deviceId) (addWallets options key wallets) := by
  refine Keeps.bind (moves_ask _) fun claimed => ?_
  refine Keeps.bind Keeps.get fun world => ?_
  refine Keeps.bind (moves_usableKeyPackages _ _ _) fun usable => ?_
  split_ifs
  · exact Keeps.pure _
  · exact Keeps.bind (moves_commit allowed key (quietBuild_addMembers usable)) fun _ => Keeps.pure _

theorem moves_joinWelcome (welcome : Mls.Welcome Identity) :
    Keeps (Moves P B deviceId) (joinWelcome key welcome) := by
  refine Keeps.bind (Keeps.modify fun world => (Step.delete world key).moves rfl) fun _ => ?_
  refine Keeps.bind Keeps.get fun world => ?_
  split
  · exact Keeps.pure _
  next group _ =>
  refine Keeps.bind (Keeps.modify fun world => ?_) fun _ => ?_
  · exact (Step.build world key group _ 0 allowed).moves rfl
  · exact Keeps.bind (moves_rememberGroup key) fun _ =>
      Keeps.bind (moves_deleteDesynced key) fun _ => Keeps.pure _

theorem moves_joinWelcomes (items : List WelcomeItem) :
    Keeps (Moves P B deviceId) (joinWelcomes items) := by
  induction items with
  | nil => exact Keeps.pure _
  | cons item rest ih =>
    refine Keeps.bind Keeps.get fun world => ?_
    split_ifs
    · exact ih
    · exact Keeps.bind (moves_joinWelcome allowed _ _) fun _ => Keeps.bind ih fun _ => Keeps.pure _

theorem moves_acceptWelcomes : Keeps (Moves P B options.deviceId) (acceptWelcomes options) := by
  refine Keeps.bind (moves_idle fun _ => ⟨0, rfl⟩) fun _ => ?_
  refine Keeps.bind (moves_ask _) fun items => ?_
  refine Keeps.bind (moves_joinWelcomes allowed items) fun joined => ?_
  split_ifs
  · exact Keeps.pure _
  · exact Keeps.bind moves_persist fun _ =>
      Keeps.bind (moves_publishKeyPackages allowed _) fun _ => Keeps.pure _

theorem moves_bootstrapAttempts (wallets : List String) (attempts : Nat) :
    Keeps (Moves P B options.deviceId) (bootstrapAttempts options key wallets attempts) := by
  induction attempts with
  | zero => exact Keeps.pure _
  | succ attempts ih =>
    refine Keeps.bind Keeps.get fun world => ?_
    split_ifs
    · exact Keeps.bind (Keeps.orElse (moves_addWallets allowed key wallets)) fun _ => Keeps.pure _
    refine Keeps.bind (Keeps.orElse (moves_acceptWelcomes allowed)) fun _ => ?_
    refine Keeps.bind Keeps.get fun world => ?_
    split_ifs
    · exact ih
    refine Keeps.bind (moves_ask _) fun info => ?_
    split_ifs
    · exact moves_joinExternal key
    refine Keeps.getBind fun world => ?_
    cases claimed : claim world key with
    | none => exact Keeps.throw _ world
    | some made =>
      obtain ⟨message, group⟩ := made
      refine Keeps.at_bind (moves_attempt (quietly_postCommit key _)
        (step_build allowed world key group)) fun accepted => ?_
      split_ifs
      · refine Keeps.bind (Keeps.bind (moves_afterJoin key message) fun _ => ?_) fun _ =>
          Keeps.pure _
        exact Keeps.bind (moves_addWallets allowed key wallets) fun _ => Keeps.pure _
      · exact Keeps.bind moves_notifyQuietly fun _ => ih

theorem moves_ensureGroup :
    Keeps (Moves P B options.deviceId) (ensureGroup options key) := by
  refine Keeps.bind Keeps.get fun world => ?_
  split_ifs
  · exact Keeps.pure _
  refine Keeps.bind (Keeps.bind Keeps.get fun world => ?_) fun _ => ?_
  · split_ifs
    · exact Keeps.bind (Keeps.orElse (moves_acceptWelcomes allowed)) fun _ => Keeps.pure _
    · exact Keeps.pure _
  refine Keeps.bind Keeps.get fun world => ?_
  split_ifs
  · exact Keeps.pure _
  · exact Keeps.pure _
  refine Keeps.bind
    (Keeps.orElse (Keeps.bind moves_askReaders fun readers => ?_)) fun ok => ?_
  · split
    · exact moves_bootstrapAttempts allowed key _ _
    · exact moves_joinExternal key
  · split_ifs
    · exact Keeps.pure _
    · exact Keeps.bind (moves_setJoinBackoff key) fun _ => Keeps.pure _

theorem moves_reconcile (readers : List String) :
    Keeps (Moves P B options.deviceId) (reconcile options key readers) := by
  refine Keeps.bind (moves_checkGroup key _) fun checked => ?_
  refine Keeps.bind ?_ fun _ => ?_
  · unfold removeBad
    split_ifs
    · exact Keeps.pure _
    · exact Keeps.bind (moves_commit allowed key (quietBuild_removeLeaves _)) fun _ => Keeps.pure _
  refine Keeps.bind (moves_commit allowed key quietBuild_plain) fun _ => ?_
  split_ifs
  · exact Keeps.pure _
  · exact Keeps.throw _

theorem moves_sealMessage (readers : List String) (inner : Inner) :
    Keeps (Moves P B options.deviceId) (sealMessage options key readers inner) := by
  refine Keeps.bind (moves_sync key) fun _ => ?_
  refine Keeps.bind Keeps.get fun world => ?_
  split_ifs
  · exact Keeps.throw _
  refine Keeps.bind (moves_reconcile allowed key readers) fun _ => ?_
  refine Keeps.bind Keeps.get fun world => ?_
  split_ifs
  · exact moves_encryptInner key inner
  · exact Keeps.throw _

end

/-! ## The programs: the self-group -/

theorem quietly_askAccepted : Keeps Quietly askAccepted := quietly_ask _

/-- The ends of an attempt whose post is not caught: the device is where it was only when the
commit was refused. -/
theorem attemptUncaught_cases (world : World) (group : Group) :
    let built : World :=
      { world with
        device := world.device.setGroup (selfId options) group, fresh := world.fresh + 1 }
    let used : World := { world with fresh := world.fresh + 1 }
    (∃ after, Quietly built after ∧
      (attemptUncaught options world group world = (.ok true, after) ∨
        attemptUncaught options world group world = (.crash, after) ∨
        ∃ reason, attemptUncaught options world group world = (.error reason, after))) ∨
    (∃ after, Quietly used after ∧
      attemptUncaught options world group world = (.ok false, after)) := by
  intro built used
  have adopted : adopt (selfId options) group world = (.ok ⟨⟩, built) := rfl
  have quietly : Quietly built (askAccepted built).2 := quietly_askAccepted built
  rw [attemptUncaught, bind_run_ok adopted, bind_run]
  rcases posted : askAccepted built with ⟨accepted | reason | _, after⟩ <;> rw [posted] at quietly
  · cases accepted with
    | true => exact .inl ⟨after, quietly, .inl rfl⟩
    | false => exact .inr ⟨_, quietly.withDevice world.device, rfl⟩
  · exact .inl ⟨after, quietly, .inr (.inr ⟨reason, rfl⟩)⟩
  · exact .inl ⟨after, quietly, .inr (.inl rfl)⟩

theorem moves_syncSelfItem {item : SelfItem} (served : WireServed P item.body)
    (sendHistory : Bool) :
    Keeps (Moves P B deviceId) (syncSelfItem options item sendHistory) := by
  refine Keeps.bind Keeps.get fun world => ?_
  refine Keeps.bind (moves_process _ served) fun processed => ?_
  split
  · refine Keeps.bind Keeps.get fun world => ?_
    dsimp only
    split_ifs
    · exact Keeps.pure _
    · exact Keeps.pure _
  · exact Keeps.bind (moves_receiveChunk _ _ _ _) fun _ => Keeps.pure _
  · exact Keeps.pure _

theorem moves_syncSelfItems {items : List SelfItem}
    (served : ∀ item ∈ items, WireServed P item.body) (cursor : Int) (sendHistory : Bool) :
    Keeps (Moves P B deviceId) (syncSelfItems options items cursor sendHistory) := by
  induction items generalizing cursor sendHistory with
  | nil => exact Keeps.pure _
  | cons item rest ih =>
    refine Keeps.bind (moves_syncSelfItem (served item (by simp)) sendHistory) fun next => ?_
    split
    · exact Keeps.pure _
    · exact ih (fun later isLater => served later (by simp [isLater])) _ _

theorem moves_syncSelfLogFrom (turns : Nat) (cursor : Int) (sendHistory : Bool) :
    Keeps (Moves P B options.deviceId) (syncSelfLogFrom options turns cursor sendHistory) := by
  induction turns generalizing cursor sendHistory with
  | zero => exact Keeps.crash
  | succ turns ih =>
    refine Keeps.bindValue (Q := fun items => ∀ item ∈ items, WireServed P item.body)
      (moves_ask _) ?_ fun items served => ?_
    · intro world ok items resolved item isItem message isMessage
      obtain ⟨reply, mem, isItems⟩ := ask_value resolved
      split at isItems
      · next log isAnswer =>
        cases isItems
        refine ⟨reply.answer, ok reply mem, ?_⟩
        rw [isAnswer]
        exact List.mem_map.mpr ⟨item, isItem, isMessage⟩
      · cases isItems
    refine Keeps.bind (moves_syncSelfItems served cursor sendHistory) fun next => ?_
    obtain ⟨cursor, next⟩ := next
    refine Keeps.bind moves_persist fun _ => Keeps.bind (moves_setCursor _ _) fun _ => ?_
    split
    · exact Keeps.pure _
    · split_ifs
      · exact Keeps.pure _
      · exact ih _ _

theorem moves_syncSelfLog : Keeps (Moves P B options.deviceId) (syncSelfLog options) := by
  refine Keeps.bind Keeps.get fun world => ?_
  split_ifs
  · refine Keeps.bind (moves_readWorld _) fun cursor => ?_
    exact Keeps.bind Keeps.get fun _ => moves_syncSelfLogFrom _ _ _
  · exact Keeps.pure _

theorem moves_historyGroups (ids : List GroupId) :
    Keeps (Moves P B deviceId) (historyGroups options ids) := by
  induction ids with
  | nil => exact Keeps.pure _
  | cons key rest ih =>
    unfold historyGroups
    split_ifs
    · exact ih
    · exact Keeps.bind (moves_readWorld _) fun _ => Keeps.bind ih fun _ => Keeps.pure _

theorem moves_sendOwnHistory : Keeps (Moves P B options.deviceId) (sendOwnHistory options) := by
  refine Keeps.bind Keeps.get fun world => ?_
  split_ifs
  · refine Keeps.bind (moves_readWorld _) fun ids => ?_
    refine Keeps.bind (moves_historyGroups ids) fun groups => ?_
    split_ifs
    · exact Keeps.pure _
    · refine Keeps.bind moves_randomBundleId fun _ => moves_postChunks _ ?_ _
      exact Keeps.bind quietly_askAccepted fun _ => Keeps.pure _
  · exact Keeps.pure _

section

variable (allowed : B)

include allowed

theorem moves_attemptUncaught (world : World) (group : Group) :
    Moves P B options.deviceId world (attemptUncaught options world group world).2 := by
  have built : Moves P B options.deviceId world
      { world with
        device := world.device.setGroup (selfId options) group, fresh := world.fresh + 1 } :=
    (step_build allowed world (selfId options) group).moves rfl
  have used : Moves P B options.deviceId world { world with fresh := world.fresh + 1 } :=
    (Step.idle world _ _ _ _ _ _ 1).moves rfl
  rcases attemptUncaught_cases world group with
    ⟨after, quietly, ran | ran | ⟨reason, ran⟩⟩ | ⟨after, quietly, ran⟩ <;> rw [ran]
  · exact IsTrans.trans _ _ _ built quietly.moves
  · exact IsTrans.trans _ _ _ built quietly.moves
  · exact IsTrans.trans _ _ _ built quietly.moves
  · exact IsTrans.trans _ _ _ used quietly.moves

theorem moves_enterSelfGroup (world : World) (info : Option (Mls.GroupInfo Identity)) :
    Moves P B options.deviceId world (enterSelfGroup options world info world).2 := by
  have entered (message : Message) : Keeps (Moves P B options.deviceId)
      (emit (.entered (selfId options) message)) := moves_emit rfl
  cases info with
  | none =>
    unfold enterSelfGroup createSelfGroup
    cases claim world (selfId options) with
    | none => exact Keeps.throw _ world
    | some made =>
      obtain ⟨message, group⟩ := made
      refine Keeps.at_bind (moves_attemptUncaught allowed world group) fun accepted => ?_
      split_ifs
      · refine Keeps.bind (entered message) fun _ => ?_
        refine Keeps.bind (moves_rememberGroup _) fun _ => ?_
        exact Keeps.bind moves_persist fun _ => Keeps.bind moves_notify fun _ => Keeps.pure _
      · exact Keeps.pure _
  | some =>
    refine Keeps.at_bind (moves_attemptUncaught allowed world _) fun accepted => ?_
    split_ifs
    · refine Keeps.bind (entered _) fun _ => ?_
      refine Keeps.bind (moves_rememberGroup _) fun _ => ?_
      exact Keeps.bind moves_persist fun _ => Keeps.bind moves_notifyQuietly fun _ => Keeps.pure _
    · exact Keeps.pure _

theorem moves_ensureSelfGroup : Keeps (Moves P B options.deviceId) (ensureSelfGroup options) := by
  have attempts (count : Nat) :
      Keeps (Moves P B options.deviceId) (ensureSelfGroupAttempts options count) := by
    induction count with
    | zero => exact Keeps.pure _
    | succ count ih =>
      refine Keeps.bind (moves_ask _) fun info => ?_
      refine Keeps.getBind fun world => ?_
      refine Keeps.at_bind (moves_enterSelfGroup allowed world info) fun joined => ?_
      split_ifs
      · exact Keeps.pure _
      · exact ih
  refine Keeps.bind Keeps.get fun world => ?_
  split_ifs
  · exact Keeps.pure _
  · exact attempts _

omit allowed in
theorem moves_afterSelfCommit (base : Group) (built : Built) :
    Keeps (Moves P B options.deviceId) (afterSelfCommit options base built) := by
  refine Keeps.bind (moves_emit rfl) fun _ => ?_
  refine Keeps.bind moves_persist fun _ => ?_
  refine Keeps.bind Keeps.get fun world => ?_
  split_ifs
  · exact moves_notifyQuietly
  · exact Keeps.pure _

theorem moves_selfCommitAttempts (build : Build) (attempts : Nat) :
    Keeps (Moves P B options.deviceId) (selfCommitAttempts options build attempts) := by
  induction attempts with
  | zero => exact Keeps.pure _
  | succ attempts ih =>
    refine Keeps.getBind fun world => ?_
    cases (world.device.groups (selfId options)).filter (·.active) with
    | none => exact Keeps.pure _ world
    | some group =>
      rcases made : build world.fresh world.device group with _ | _ | built
      · simp only [made]
        exact Keeps.throw _ world
      · simp only [made]
        exact Keeps.pure _ world
      simp only [made]
      refine Keeps.at_bind (moves_attempt quietly_askAccepted
        (step_build allowed world (selfId options) built.group)) fun accepted => ?_
      split_ifs
      · exact Keeps.bind (moves_afterSelfCommit group built) fun _ => Keeps.pure _
      · exact Keeps.bind moves_syncSelfLog fun _ => ih

theorem moves_selfCommit (build : Build) :
    Keeps (Moves P B options.deviceId) (selfCommit options build) :=
  moves_selfCommitAttempts allowed build _

theorem moves_reconcileSelf : Keeps (Moves P B options.deviceId) (reconcileSelf options) := by
  refine Keeps.bind (moves_checkGroup _ _) fun checked => ?_
  refine Keeps.bind ?_ fun _ => ?_
  · unfold removeBadSelf
    split_ifs
    · exact Keeps.pure _
    · exact Keeps.bind (Keeps.orElse (moves_selfCommit allowed _)) fun _ => Keeps.pure _
  · exact Keeps.bind (Keeps.orElse (moves_selfCommit allowed _)) fun _ => Keeps.pure _

theorem moves_syncSelf : Keeps (Moves P B options.deviceId) (syncSelf options) := by
  refine Keeps.bind moves_syncSelfLog fun sendHistory => ?_
  refine Keeps.bind Keeps.get fun world => ?_
  split_ifs
  · refine Keeps.bind (moves_reconcileSelf allowed) fun verified => ?_
    split_ifs
    · exact moves_sendOwnHistory
    · exact Keeps.pure _
  · exact Keeps.pure _

/-! ## The programs: renewal -/

theorem moves_issueIfOutdated (authority : SecretKey) :
    Keeps (Moves P B options.deviceId) (issueIfOutdated options authority) := by
  refine Keeps.bind Keeps.get fun world => ?_
  split_ifs
  · refine Keeps.bind Keeps.get fun world => ?_
    refine Keeps.bind (Keeps.modify fun world => ?_) fun _ => ?_
    · exact (Step.renew world _ world.device.keyPackages 0 allowed).moves rfl
    · refine Keeps.bind moves_persist fun _ => Keeps.bind moves_notifyQuietly fun _ => ?_
      exact moves_publishKeyPackages allowed _
  · exact Keeps.pure _

theorem moves_pushCredentials (ids : List GroupId) :
    Keeps (Moves P B options.deviceId) (pushCredentials options ids) := by
  induction ids with
  | nil => exact Keeps.pure _
  | cons key rest ih =>
    refine Keeps.bind Keeps.get fun world => ?_
    split_ifs
    · refine Keeps.bind (Keeps.orElse ?_) fun _ => ih
      unfold pushCredential
      split_ifs
      · exact Keeps.bind (moves_selfCommit allowed _) fun _ => Keeps.pure _
      · exact Keeps.bind (moves_commit allowed key quietBuild_updateCredential) fun _ =>
          Keeps.pure _
    · exact ih

theorem moves_renewCertificate (authority : SecretKey) :
    Keeps (Moves P B options.deviceId) (renewCertificate options authority) := by
  refine Keeps.bind (moves_issueIfOutdated allowed authority) fun _ => ?_
  refine Keeps.bind (Keeps.bind (Keeps.orElse (moves_readWorld _)) fun _ =>
    Keeps.pure _) fun ids => ?_
  exact moves_pushCredentials allowed ids

end

end

end MessagingStack.Sdk.Session

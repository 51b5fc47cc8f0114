import MessagingStack.Sdk.Calls

/-!
# The sender ratchet is saved before a message leaves

A message key of the sender ratchet must never be used for two messages.  The ratchet lives in
the device, and after a crash the device is what `saveDevice` wrote last; so the device has to be
saved *after* a message is encrypted and *before* it leaves.

`seal` and `wrap` do that.  `#shareRecent` and `#sendOwnHistory` post each chunk of history first
and save the device afterwards; when the process dies in between, the next session encrypts
another message at the same generation (`history_chunk_reuses_generation`).

`run_without_history_is_durable` is about every run of a session, from the first `open` on, with
the process dying at any await: as long as no chunk of history is posted, every message that left
is covered by the saved device, and no two of them have the same generation of the same ratchet.
-/

namespace MessagingStack.Sdk

/-! ## What left the device -/

/-- The application message that leaves the device in an event, with the key of the device. -/
def Event.sent : Event → Option (Mls.SignatureKey × Message)
  | .handed signer message => some (signer, message)
  | .posted signer message => some (signer, message)
  | _ => none

/-- The application messages that left. -/
def World.sent (world : World) : List (Mls.SignatureKey × Message) :=
  world.trace.filterMap Event.sent

def Event.isChunk : Event → Bool
  | .posted _ _ => true
  | _ => false

/-- No chunk of history was posted. -/
def World.NoChunk (world : World) : Prop := ∀ event ∈ world.trace, event.isChunk = false

def messageRatchet (message : Message) : Option RatchetKey :=
  message.sender.map fun leaf => ⟨message.groupId, message.epoch, leaf⟩

/-- Two messages of one device were encrypted at one generation of one ratchet. -/
def SameGeneration (left right : Mls.SignatureKey × Message) : Prop :=
  left.1 = right.1 ∧ messageRatchet left.2 = messageRatchet right.2 ∧
    left.2.generation = right.2.generation

instance (left right : Mls.SignatureKey × Message) : Decidable (SameGeneration left right) :=
  inferInstanceAs (Decidable (_ ∧ _ ∧ _))

def Covers (saved : SavedDevice) (signer : Mls.SignatureKey) (message : Message) : Prop :=
  saved.snapshot.signatureKey = signer → ∀ ratchet, messageRatchet message = some ratchet →
    message.generation < saved.snapshot.ratchets ratchet

/-- **Messages leave after the device is saved.** -/
structure Durable (machine : Machine) : Prop where
  /-- A saved device includes the encryption of every message it sent. -/
  covered : ∀ saved, machine.world.store.device = some saved →
    ∀ sent ∈ machine.world.sent, Covers saved sent.1 sent.2
  /-- A device of a living session that sent a message is saved. -/
  saved : machine.alive = true → ∀ sent ∈ machine.world.sent,
    sent.1 = machine.world.device.signatureKey →
      ∃ saved, machine.world.store.device = some saved ∧ saved.snapshot.signatureKey = sent.1
  /-- No generation of a ratchet is used twice. -/
  distinct : machine.world.sent.Pairwise fun left right => ¬ SameGeneration left right

/-! ## The invariant -/

variable {options : Options}

def Generated (options : Options) (world : World) (signer : Mls.SignatureKey) : Prop :=
  ∃ secret < world.fresh, signer = options.wasm.publicKey secret

/-- What holds of the store and of what was sent, whether or not a session is open. -/
structure StoreDurable (options : Options) (world : World) : Prop where
  covered : ∀ saved, world.store.device = some saved →
    ∀ sent ∈ world.sent, Covers saved sent.1 sent.2
  distinct : world.sent.Pairwise fun left right => ¬ SameGeneration left right
  sentGenerated : ∀ sent ∈ world.sent, Generated options world sent.1
  savedGenerated : ∀ saved, world.store.device = some saved →
    Generated options world saved.snapshot.signatureKey

/-- What holds while a session is open. -/
structure SessionDurable (options : Options) (world : World) : Prop
    extends StoreDurable options world where
  /-- The device in memory is at least as far as the saved one. -/
  ahead : ∀ saved, world.store.device = some saved →
    saved.snapshot.signatureKey = world.device.signatureKey →
      ∀ ratchet, saved.snapshot.ratchets ratchet ≤ world.device.ratchets ratchet
  kept : ∀ sent ∈ world.sent, sent.1 = world.device.signatureKey →
    ∃ saved, world.store.device = some saved ∧ saved.snapshot.signatureKey = sent.1
  deviceGenerated : Generated options world world.device.signatureKey

variable {world before after : World} {deviceId : String}

theorem SessionDurable.memory_covers (durable : SessionDurable options world)
    {sent : Mls.SignatureKey × Message} (mem : sent ∈ world.sent)
    (own : sent.1 = world.device.signatureKey) {ratchet : RatchetKey}
    (isRatchet : messageRatchet sent.2 = some ratchet) :
    sent.2.generation < world.device.ratchets ratchet := by
  obtain ⟨saved, isSaved, signer⟩ := durable.kept sent mem own
  calc sent.2.generation
      < saved.snapshot.ratchets ratchet :=
        durable.covered saved isSaved sent mem signer ratchet isRatchet
    _ ≤ world.device.ratchets ratchet := durable.ahead saved isSaved (signer.trans own) ratchet

/-! ### What the invariant looks at -/

theorem StoreDurable.congr (durable : StoreDurable options before)
    (store : after.store.device = before.store.device) (sent : after.sent = before.sent)
    (fresh : before.fresh ≤ after.fresh) : StoreDurable options after := by
  have generated : ∀ signer, Generated options before signer → Generated options after signer :=
    fun signer ⟨secret, used, isKey⟩ => ⟨secret, lt_of_lt_of_le used fresh, isKey⟩
  refine ⟨?_, ?_, ?_, ?_⟩
  · rw [store, sent]
    exact durable.covered
  · rw [sent]
    exact durable.distinct
  · rw [sent]
    exact fun sent mem => generated _ (durable.sentGenerated sent mem)
  · rw [store]
    exact fun saved isSaved => generated _ (durable.savedGenerated saved isSaved)

theorem SessionDurable.congr (durable : SessionDurable options before)
    (store : after.store.device = before.store.device) (sent : after.sent = before.sent)
    (fresh : before.fresh ≤ after.fresh)
    (signer : after.device.signatureKey = before.device.signatureKey)
    (ratchets : ∀ ratchet, before.device.ratchets ratchet ≤ after.device.ratchets ratchet) :
    SessionDurable options after := by
  refine ⟨durable.toStoreDurable.congr store sent fresh, ?_, ?_, ?_⟩
  · rw [store, signer]
    exact fun saved isSaved own ratchet =>
      (durable.ahead saved isSaved own ratchet).trans (ratchets ratchet)
  · rw [store, sent, signer]
    exact durable.kept
  · obtain ⟨secret, used, isKey⟩ := durable.deviceGenerated
    exact ⟨secret, lt_of_lt_of_le used fresh, signer.trans isKey⟩

theorem SessionDurable.persist (durable : SessionDurable options world) (deviceId : String) :
    SessionDurable options
      { world with store := { world.store with device := some ⟨world.device, deviceId⟩ } } := by
  refine ⟨⟨?_, durable.distinct, durable.sentGenerated, ?_⟩, ?_, ?_, durable.deviceGenerated⟩
  · rintro _ ⟨⟩ sent mem own ratchet isRatchet
    exact durable.memory_covers mem own.symm isRatchet
  · rintro _ ⟨⟩
    exact durable.deviceGenerated
  · rintro _ ⟨⟩ _ ratchet
    exact le_rfl
  · intro sent mem own
    exact ⟨_, rfl, own.symm⟩

theorem advance_ratchets_le (device : Device) (advanced ratchet : RatchetKey) :
    device.ratchets ratchet ≤ (device.advance advanced).ratchets ratchet := by
  simp only [Device.advance]
  split_ifs with same
  · rw [same]
    exact Nat.le_succ _
  · exact le_rfl

variable {event : Event} {group : Group} {plaintext : Bytes} {message : Message}

theorem sent_append (silent : event.sent = none) :
    ({ world with trace := world.trace ++ [event] } : World).sent = world.sent := by
  simp [World.sent, silent]

theorem Event.sent_of_plain (plain : event.plain = true) (noChunk : event.isChunk = false) :
    event.sent = none := by
  cases event <;> simp_all [Event.plain, Event.isChunk, Event.sent]

/-! ### The hand-over -/

theorem encrypt_ratchet {generation : Nat} {identity : Identity}
    (ran : group.encrypt generation identity plaintext = some message) :
    messageRatchet message = some (ownRatchet group) ∧ message.generation = generation := by
  unfold Mls.Group.encrypt at ran
  split_ifs at ran
  cases ran
  exact ⟨rfl, rfl⟩

theorem SessionDurable.hand (durable : SessionDurable options world) {key : GroupId} (reply : Reply)
    (rest : List Reply)
    (ran : group.encrypt (world.device.ratchets (ownRatchet group))
      (.certificate world.device.identity) plaintext = some message)
    :
    SessionDurable options
      { Session.tick world reply rest with
        device := world.device.advance (ownRatchet group)
        store :=
          { world.store with
            device := some ⟨world.device.advance (ownRatchet group), deviceId⟩ }
        trace := world.trace ++ [.encrypted key group message] ++
          [.handed world.device.signatureKey message] } := by
  obtain ⟨isRatchet, isGeneration⟩ := encrypt_ratchet ran
  -- the device has moved on, and is saved
  have moved : SessionDurable options
      { world with device := world.device.advance (ownRatchet group) } :=
    durable.congr rfl rfl le_rfl rfl (advance_ratchets_le world.device (ownRatchet group))
  have saved := moved.persist deviceId
  have sent : ({ Session.tick world reply rest with
      device := world.device.advance (ownRatchet group)
      store :=
        { world.store with
          device := some ⟨world.device.advance (ownRatchet group), deviceId⟩ }
      trace := world.trace ++ [.encrypted key group message] ++
        [.handed world.device.signatureKey message] } : World).sent =
      world.sent ++ [(world.device.signatureKey, message)] := by
    simp only [World.sent, List.filterMap_append]
    simp [Event.sent]
  refine ⟨⟨?_, ?_, ?_, saved.savedGenerated⟩, saved.ahead, ?_, saved.deviceGenerated⟩
  · rw [sent]
    rintro _ ⟨⟩ other mem own ratchet isOther
    rcases List.mem_append.mp mem with earlier | last
    · exact saved.covered _ rfl other earlier own ratchet isOther
    obtain rfl := List.mem_singleton.mp last
    have same : ownRatchet group = ratchet := by
      rw [isRatchet] at isOther
      exact Option.some.inj isOther
    simp [Device.advance, isGeneration, same]
  · rw [sent, List.pairwise_append]
    refine ⟨durable.distinct, List.pairwise_singleton _ _, ?_⟩
    -- an earlier message of this ratchet has a lower generation
    rintro earlier mem last isLast ⟨own, sameRatchet, sameGeneration⟩
    obtain rfl := List.mem_singleton.mp isLast
    have lower := durable.memory_covers mem own (sameRatchet.trans isRatchet)
    rw [sameGeneration, isGeneration] at lower
    exact lt_irrefl _ lower
  · rw [sent]
    intro other mem
    rcases List.mem_append.mp mem with earlier | last
    · exact durable.sentGenerated other earlier
    · obtain rfl := List.mem_singleton.mp last
      exact durable.deviceGenerated
  · intro other _ own
    exact ⟨_, rfl, own.symm⟩

/-! ### Steps -/

/-- The invariant, as long as no chunk of history was posted. -/
def Guard (Inv : World → Prop) (world : World) : Prop := world.NoChunk → Inv world

theorem World.NoChunk.of_append {events : List Event}
    (noChunk : ∀ event ∈ world.trace ++ events, event.isChunk = false) : world.NoChunk :=
  fun event mem => noChunk event (List.mem_append_left _ mem)

theorem step_keeps_durable {P : Answer → Prop} {B : Prop} (step : Step P B deviceId before after)
    (guarded : Guard (SessionDurable options) before) :
    Guard (SessionDurable options) after := by
  intro noChunk
  cases step with
  | emit event plain =>
    have durable := guarded (.of_append noChunk)
    have silent : event.sent = none := Event.sent_of_plain plain (noChunk event (by simp))
    exact durable.congr rfl (sent_append silent) le_rfl rfl fun _ => le_rfl
  | persist => exact (guarded noChunk).persist deviceId
  | putRows =>
    have durable := guarded (.of_append noChunk)
    exact durable.congr rfl (by simp [World.sent, Event.sent]) le_rfl rfl fun _ => le_rfl
  | encrypt key group =>
    have durable := guarded (.of_append noChunk)
    exact durable.congr rfl (by simp [World.sent, Event.sent]) le_rfl rfl
      (advance_ratchets_le before.device (ownRatchet group))
  | hand key group plaintext message reply rest held ran =>
    have durable := guarded fun event mem => noChunk event (by simp [mem])
    exact durable.hand reply rest ran
  | tick | idle | save | cursor | process | rejoin | delete | build | renew =>
    exact (guarded noChunk).congr rfl rfl (by simp) rfl fun _ => le_rfl

theorem aside_keeps_durable (aside : Aside before after)
    (guarded : Guard (SessionDurable options) before) :
    Guard (SessionDurable options) after := by
  intro noChunk
  cases aside with
  | mk => exact (guarded noChunk).congr rfl rfl le_rfl rfl fun _ => le_rfl

theorem callSteps_keep_durable (steps : CallSteps deviceId before after)
    (guarded : Guard (SessionDurable options) before) :
    Guard (SessionDurable options) after :=
  steps.invariant (fun _ _ step => step_keeps_durable step)
    (fun _ _ aside => aside_keeps_durable aside) guarded

/-! ### Opening -/

namespace Session

open Async

/-- `open` has ended: the store is durable, and so is the session if there is one. -/
def Opened (options : Options) (outcome : Outcome SessionError PUnit) (after : World) : Prop :=
  Guard (StoreDurable options) after ∧
    (outcome.value?.isSome = true → Guard (SessionDurable options) after)

variable {world : World}

theorem restart_saved {saved : SavedDevice} (durable : Guard (StoreDurable options) world)
    (isSaved : world.store.device = some saved) :
    wp (restart saved.snapshot) (Opened options) world := by
  rw [restart, wp_modify]
  refine ⟨fun noChunk => (durable noChunk).congr rfl rfl le_rfl, fun _ noChunk => ?_⟩
  have holds := durable noChunk
  refine ⟨holds.congr rfl rfl le_rfl, ?_, ?_, holds.savedGenerated saved isSaved⟩
  · intro other isOther _ ratchet
    obtain rfl : saved = other := Option.some.inj (isSaved.symm.trans isOther)
    exact le_rfl
  · exact fun sent _ own => ⟨saved, isSaved, own.symm⟩

/-- An await that changes nothing the store invariant looks at. -/
def Idle (before after : World) : Prop :=
  after.store = before.store ∧ after.trace = before.trace ∧ after.fresh = before.fresh

instance : Std.Refl Idle := ⟨fun _ => ⟨rfl, rfl, rfl⟩⟩

instance : IsTrans World Idle :=
  ⟨fun _ _ _ first second =>
    ⟨second.1.trans first.1, second.2.1.trans first.2.1, second.2.2.trans first.2.2⟩⟩

theorem idle_ask {α : Type} (read : Answer → Option α) : Keeps Idle (ask read) :=
  keeps_ask (fun _ _ _ _ => ⟨rfl, rfl, rfl⟩) read

theorem idle_of_ticked {before after : World} (ticked : Ticked before after) :
    Idle before after := by
  rcases ticked with rfl | ⟨reply, rest, -, rfl⟩ <;> exact ⟨rfl, rfl, rfl⟩

theorem Idle.guard {before after : World} (idle : Idle before after)
    (durable : Guard (StoreDurable options) before) : Guard (StoreDurable options) after := by
  obtain ⟨store, trace, fresh⟩ := idle
  intro noChunk
  refine (durable ?_).congr (by rw [store]) (by rw [World.sent, World.sent, trace]) fresh.ge
  rwa [World.NoChunk, trace] at noChunk

theorem startDevice_durable (distinct : Function.Injective options.wasm.publicKey)
    {secret : SecretKey} (time : Int)
    (durable : Guard (StoreDurable options) { world with fresh := secret })
    (used : secret < world.fresh) :
    Guard (SessionDurable options)
      (startDevice options (newDevice options secret time) world).2 := by
  -- no earlier device has this key
  have new : ∀ signer, Generated options { world with fresh := secret } signer →
      signer ≠ options.wasm.publicKey secret := by
    rintro signer ⟨earlier, isEarlier, rfl⟩ same
    exact absurd (distinct same) (ne_of_lt isEarlier)
  have restarted : Guard (SessionDurable options)
      (restart (newDevice options secret time) world).2 := by
    intro noChunk
    have holds := durable noChunk
    refine ⟨holds.congr rfl rfl used.le, ?_, ?_, secret, used, rfl⟩
    · intro saved isSaved same
      exact absurd same (new _ (holds.savedGenerated saved isSaved))
    · intro sent mem own
      exact absurd own (new _ (holds.sentGenerated sent mem))
  have rest : Keeps (CallSteps options.deviceId)
      (do
        CertificateCache.trust (newDevice options secret time).identity
        persist options
        publishKeyPackages options (options.keyPackageTarget.getD 10) : Session PUnit) := by
    refine Keeps.bind ?_ fun _ => Keeps.bind (calls_of_moves moves_persist) fun _ =>
      calls_of_moves (moves_publishKeyPackages trivial _)
    refine Keeps.bind (calls_of_moves (moves_idle fun _ => ⟨0, rfl⟩)) fun _ => ?_
    exact calls_of_moves (moves_saveStore fun _ => ⟨_, _, _, rfl⟩)
  exact callSteps_keep_durable (rest _) restarted

theorem createDevice_opens (distinct : Function.Injective options.wasm.publicKey)
    (durable : Guard (StoreDurable options) world) :
    wp (createDevice options) (Opened options) world := by
  -- the new key, and the signature of the wallet
  have generated : generate world = (.ok world.fresh, { world with fresh := world.fresh + 1 }) :=
    rfl
  have used : Guard (StoreDurable options) { world with fresh := world.fresh + 1 } :=
    fun noChunk => (durable noChunk).congr rfl rfl (Nat.le_succ _)
  rw [createDevice, wp, bind_run_ok generated]
  change wp (notify >>= _) (Opened options) { world with fresh := world.fresh + 1 }
  rw [wp_bind]
  refine wp_mono ((idle_ask _).wp _) fun outcome after idle => ?_
  cases outcome with
  | error | crash => exact ⟨idle.guard used, by rintro ⟨⟩⟩
  | ok =>
    obtain ⟨store, trace, fresh⟩ := idle
    have unused : Idle world { after with fresh := world.fresh } := ⟨store, trace, rfl⟩
    have kept := unused.guard durable
    have session := startDevice_durable distinct world.clock kept
      (by rw [fresh]; exact Nat.lt_succ_self _)
    exact ⟨fun noChunk => (session noChunk).toStoreDurable, fun _ => session⟩

theorem value?_of_notOk {outcome : Outcome SessionError PUnit}
    (notOk : ∀ value, outcome ≠ .ok value) : outcome.value? = none := by
  cases outcome with
  | ok value => exact absurd rfl (notOk value)
  | error | crash => rfl

theorem clearStore_opens (distinct : Function.Injective options.wasm.publicKey)
    (durable : Guard (StoreDurable options) world) :
    wp (do writeStore fun _ => .new; createDevice options) (Opened options) world := by
  have cleared : ∀ reply rest, Guard (StoreDurable options)
      { tick world reply rest with store := .new } := by
    intro reply rest noChunk
    have holds := durable noChunk
    exact ⟨by rintro _ ⟨⟩, holds.distinct, holds.sentGenerated, by rintro _ ⟨⟩⟩
  refine wp_write_bind (fun reply rest _ => createDevice_opens distinct (cleared reply rest))
    fun outcome after notOk ends => ⟨?_, fun isOk => ?_⟩
  · rcases ends with ticked | ⟨reply, rest, -, rfl⟩
    · exact (idle_of_ticked ticked).guard durable
    · exact cleared reply rest
  · exact absurd isOk (by simp [value?_of_notOk notOk])

/-- **Opening a session keeps what was saved in step with what was sent.** -/
theorem openSession_opens (distinct : Function.Injective options.wasm.publicKey)
    (durable : Guard (StoreDurable options) world) :
    wp (openSession options) (Opened options) world := by
  refine wp_readWorld_bind (fun reply rest script => ?_) fun outcome after notOk ticked =>
    ⟨(idle_of_ticked ticked).guard durable, fun isOk => ?_⟩
  · have durable := (idle_of_ticked (.inr ⟨reply, rest, script, rfl⟩)).guard durable
    rcases found : (tick world reply rest).store.device with _ | saved
    · exact createDevice_opens distinct durable
    by_cases sameId : saved.deviceId = options.deviceId
    · simp only [Option.filter, sameId, decide_true, if_true]
      split_ifs
      · exact restart_saved durable found
      · exact clearStore_opens distinct durable
    · simp only [Option.filter, sameId, decide_false, Bool.false_eq_true, if_false]
      exact createDevice_opens distinct durable
  · exact absurd isOk (by simp [value?_of_notOk notOk])

end Session

/-! ## Runs -/

/-- The invariant of a run. -/
def Machine.Inv (options : Options) (machine : Machine) : Prop :=
  Guard (StoreDurable options) machine.world ∧
    (machine.alive = true → Guard (SessionDurable options) machine.world)

theorem call_keeps_durable (distinct : Function.Injective options.wasm.publicKey)
    {machine : Machine} (input : Input) (inv : machine.Inv options) :
    (machine.step options input).Inv options := by
  obtain ⟨store, session⟩ := inv
  unfold Machine.step
  split_ifs with enabled
  · by_cases isOpen : input.call = .openSession
    · have scripted : Guard (StoreDurable options)
          { machine.world with script := input.script } := fun noChunk =>
        (store noChunk).congr rfl rfl le_rfl
      have opened := Session.openSession_opens distinct scripted
      rw [isOpen]
      exact opened
    have alive : machine.alive = true := by simpa [isOpen] using enabled
    have durable : Guard (SessionDurable options)
        { machine.world with script := input.script } := fun noChunk =>
      (session alive noChunk).congr rfl rfl le_rfl rfl fun _ => le_rfl
    have after := callSteps_keep_durable (Session.keeps_call options input.call isOpen _) durable
    exact ⟨fun noChunk => (after noChunk).toStoreDurable, fun _ => after⟩
  · exact ⟨store, session⟩

/-- A device that was never opened: nothing is stored, and nothing was sent. -/
def Machine.New (machine : Machine) : Prop :=
  machine.alive = false ∧ machine.world.store = .new ∧ machine.world.trace = []

def PostsNoHistory (options : Options) (machine : Machine) (input : Input) : Prop :=
  (machine.step options input).world.NoChunk

instance (options : Options) (machine : Machine) (input : Input) :
    Decidable (PostsNoHistory options machine input) :=
  inferInstanceAs (Decidable (∀ event ∈ (machine.step options input).world.trace,
    event.isChunk = false))

/-- **Runs without history are durable.**  In every run of a session from its first opening on, in
which no call posts a chunk of history, the messages that left the device are covered by the
device that is saved, and no two of them use the same generation of a ratchet. -/
theorem run_without_history_is_durable
    (options : Options)
    (distinct : Function.Injective options.wasm.publicKey)
    (start : Machine)
    (new : start.New)
    (inputs : List Input)
    (noHistory : Along (Machine.step options) (PostsNoHistory options) start inputs) :
    Durable (inputs.foldl (Machine.step options) start) := by
  obtain ⟨dead, store, trace⟩ := new
  have initial : start.Inv options ∧ start.world.NoChunk := by
    refine ⟨⟨fun _ => ⟨?_, ?_, ?_, ?_⟩, fun alive => ?_⟩, ?_⟩
    · simp [store, StateStore.new]
    · simp [World.sent, trace]
    · simp [World.sent, trace]
    · simp [store, StateStore.new]
    · cases dead ▸ alive
    · simp [World.NoChunk, trace]
  have preserved : ∀ (machine : Machine) (input : Input),
      machine.Inv options ∧ machine.world.NoChunk → PostsNoHistory options machine input →
        (machine.step options input).Inv options ∧ (machine.step options input).world.NoChunk :=
    fun machine input holds posts => ⟨call_keeps_durable distinct input holds.1, posts⟩
  obtain ⟨⟨durable, session⟩, noChunk⟩ := Along.invariant preserved noHistory initial
  exact
    { covered := (durable noChunk).covered
      saved := fun alive => (session alive noChunk).kept
      distinct := (durable noChunk).distinct }

/-! ### A run with crashes, and one with history -/

/-- A device that was never opened. -/
def Machine.small : Machine := ⟨.small, false⟩

/-- Opening the device for the first time, with every await resolved. -/
def firstOpening : Input := ⟨.openSession, List.replicate 6 ⟨0, .done⟩⟩

/-- Two messages: the process dies in the saving of the first one. -/
def wrapRun : List Input :=
  [firstOpening,
    ⟨.createGroup "g" [],
      [⟨0, .welcomes []⟩, ⟨0, .groupInfo none⟩, ⟨0, .accepted true⟩, ⟨0, .done⟩, ⟨0, .done⟩,
        ⟨0, .keyPackages []⟩]⟩,
    ⟨.wrap "g" ⟨[], 0, []⟩, [⟨0, .crashed false⟩]⟩,
    ⟨.openSession, [⟨0, .done⟩]⟩,
    ⟨.wrap "g" ⟨[], 1, []⟩, [⟨0, .done⟩]⟩]

theorem run_without_history_is_durable_wrapRun :
    Function.Injective Options.small.wasm.publicKey ∧ Machine.small.New ∧
      Along (Machine.step .small) (PostsNoHistory .small) .small wrapRun ∧
      (wrapRun.foldl (Machine.step .small) .small).world.sent.length = 1 ∧
      Durable (wrapRun.foldl (Machine.step .small) .small) := by
  have distinct : Function.Injective Options.small.wasm.publicKey := by
    intro left right same
    simpa [Options.small, Wasm.small] using congrArg List.length same
  have new : Machine.small.New := ⟨rfl, rfl, rfl⟩
  have noHistory : Along (Machine.step .small) (PostsNoHistory .small) .small wrapRun := by decide
  exact ⟨distinct, new, noHistory, by decide,
    run_without_history_is_durable .small distinct .small new wrapRun noHistory⟩

def historyRow (order : Int) : UnwrappedRow where
  messageId := "m"
  groupId := "g"
  order := order
  kind := .other
  isDeleted := false
  senderAddress := "0xa"
  createdAt := 0
  encryptedText := []
  nonce := []
  keyVersion := 0
  senderVerified := true

/-- History is posted twice: the process dies after the first chunk was posted, before the device
was saved. -/
def historyRun : List Input :=
  [firstOpening,
    ⟨.ensureSelfGroup, [⟨0, .groupInfo none⟩, ⟨0, .accepted true⟩, ⟨0, .done⟩, ⟨0, .done⟩]⟩,
    ⟨.storeOwn "g" (historyRow 1), [⟨0, .done⟩]⟩,
    ⟨.sendOwnHistory, [⟨0, .done⟩, ⟨0, .done⟩, ⟨0, .crashed true⟩]⟩,
    ⟨.openSession, [⟨0, .done⟩]⟩,
    ⟨.storeOwn "g" (historyRow 2), [⟨0, .done⟩]⟩,
    ⟨.sendOwnHistory, [⟨0, .done⟩, ⟨0, .done⟩, ⟨0, .accepted true⟩, ⟨0, .done⟩]⟩]

/-- **A chunk of history reuses a generation.**  The two chunks that this run posts are different
messages at one generation of one ratchet. -/
theorem history_chunk_reuses_generation :
    Machine.small.New ∧
      (∃ first second,
        (historyRun.foldl (Machine.step .small) .small).world.sent = [first, second] ∧
          first.2 ≠ second.2 ∧ SameGeneration first second) ∧
      ¬ Durable (historyRun.foldl (Machine.step .small) .small) := by
  have reused : ¬ (historyRun.foldl (Machine.step .small) .small).world.sent.Pairwise
      fun left right => ¬ SameGeneration left right := by decide
  refine ⟨⟨rfl, rfl, rfl⟩, ⟨_, _, rfl, ?_, ?_⟩, fun durable => reused durable.distinct⟩
  · decide
  · decide

end MessagingStack.Sdk

import MessagingStack.Sdk.Calls

/-!
# Rotating the authority key

The chain holds the public half of a device's authority key, the device the secret half.  A device
that loses the secret answers `conflict` for ever.  There are two ways to that: a rotation that
lands without an answer (`lost_rotation_conflicts`), and a lookup answered from an older state of
the chain.  `faithful_run_keeps_key` says that there is no other.
-/

namespace MessagingStack.Sdk

open Session

variable {options : Options}

/-! ## The device's record -/

def ownRecord (options : Options) (chain : Registry) : Option MlsDeviceRecord :=
  chain options.wallet options.deviceId

def Holds (options : Options) (slot : Option SecretKey) (authorityKey : String) : Prop :=
  ∃ secret, slot = some secret ∧ pub options secret = authorityKey

/-- **The key of the chain is kept.**  Once the device is registered, one of the two slots holds
the secret half of the key on the chain. -/
def KeyKept (options : Options) (world : World) : Prop :=
  ∀ record, ownRecord options world.chain = some record →
    Holds options world.store.authority record.authorityKey ∨
      Holds options world.store.authorityPending record.authorityKey

/-- The invariant of `maintain`: the key is kept, the device is not revoked, and before the device
was registered the chain never had a record of it. -/
structure Kept (options : Options) (world : World) : Prop where
  key : KeyKept options world
  unrevoked : ∀ record, ownRecord options world.chain = some record → record.revokedAtMs = 0
  unregistered : ownRecord options world.chain = none →
    ∀ state ∈ world.past, ownRecord options state = none

/-! ## Conditions on the replies -/

/-- No write to the store rejects, and no answer of a rotation that took effect is lost. -/
def Calm (script : List Reply) : Prop :=
  ∀ reply ∈ script, writeLost reply.answer = none ∧ rotationLost reply.answer ≠ some true

/-- The state of the chain that a node shows which is `lag` states behind. -/
def seenAt (world : World) (lag : Nat) : Registry :=
  (world.chain :: world.past)[lag]?.getD world.chain

/-- How far a node is behind that answers a lookup. -/
def lagOf : Answer → Option Nat
  | .record lag => some lag
  | _ => none

/-- No lookup shows a record of the device that the chain has replaced. -/
def UpToDate (options : Options) (world : World) (script : List Reply) : Prop :=
  ∀ reply ∈ script, ∀ lag ∈ lagOf reply.answer,
    ownRecord options (seenAt world lag) = none ∨
      ownRecord options (seenAt world lag) = ownRecord options world.chain

/-! ## What leaves the slots and the chain alone -/

/-- The slots and the chain are as they were, and some replies have come. -/
structure SameSlots (before after : World) : Prop where
  authority : after.store.authority = before.store.authority
  pending : after.store.authorityPending = before.store.authorityPending
  chain : after.chain = before.chain
  past : after.past = before.past
  script : ∀ reply ∈ after.script, reply ∈ before.script

instance : Std.Refl SameSlots := ⟨fun _ => ⟨rfl, rfl, rfl, rfl, fun _ mem => mem⟩⟩

instance : IsTrans World SameSlots where
  trans _ _ _ first second :=
    { authority := second.authority.trans first.authority
      pending := second.pending.trans first.pending
      chain := second.chain.trans first.chain
      past := second.past.trans first.past
      script := fun reply mem => first.script reply (second.script reply mem) }

namespace SameSlots

variable {before after : World}

theorem kept (same : SameSlots before after) (holds : Kept options before) :
    Kept options after := by
  obtain ⟨authority, pending, chain, past, -⟩ := same
  refine ⟨?_, ?_, ?_⟩
  · rw [KeyKept, authority, pending, chain]
    exact holds.key
  · rw [chain]
    exact holds.unrevoked
  · rw [chain, past]
    exact holds.unregistered

theorem calm (same : SameSlots before after) (calm : Calm before.script) : Calm after.script :=
  fun reply mem => calm reply (same.script reply mem)

theorem upToDate (same : SameSlots before after)
    (upToDate : UpToDate options before before.script) :
    UpToDate options after after.script := by
  intro reply mem lag isRecord
  have seen : seenAt after lag = seenAt before lag := by rw [seenAt, seenAt, same.chain, same.past]
  rw [seen, same.chain]
  exact upToDate reply (same.script reply mem) lag isRecord

end SameSlots

theorem sameSlots_tick (world : World) (reply : Reply) (rest : List Reply)
    (next : world.script = reply :: rest) : SameSlots world (tick world reply rest) :=
  ⟨rfl, rfl, rfl, rfl, fun later mem => by rw [next]; exact List.mem_cons_of_mem _ mem⟩

variable {world : World} {authority : SecretKey} {after : World} {before : World}
  {deviceId : String} {α : Type} {record : MlsDeviceRecord} {registry : RegistryOptions}
  {next : SecretKey}

theorem sameSlots_of_ticked (ticked : Ticked before after) :
    SameSlots before after := by
  rcases ticked with rfl | ⟨reply, rest, next, rfl⟩
  · exact Std.Refl.refl _
  · exact sameSlots_tick before reply rest next

theorem sameSlots_step {P : Answer → Prop} {B : Prop} (step : Step P B deviceId before after) :
    SameSlots before after := by
  cases step with
  | tick reply rest next => exact sameSlots_tick before reply rest next
  | hand key group plaintext message reply rest held ran next =>
    exact ⟨rfl, rfl, rfl, rfl, fun later mem => by rw [next]; exact List.mem_cons_of_mem _ mem⟩
  | idle | emit | save | persist | cursor | putRows | process | encrypt | rejoin | delete | build |
      renew => exact ⟨rfl, rfl, rfl, rfl, fun _ mem => mem⟩

open Async

theorem sameSlots_of_moves {program : Session α}
    (moves : Keeps (Moves (fun _ => True) True deviceId) program) : Keeps SameSlots program := by
  intro world
  obtain ⟨-, steps⟩ := moves world fun _ _ => trivial
  generalize (program world).2 = after at steps
  induction steps with
  | refl => exact Std.Refl.refl world
  | tail _ step ih => exact IsTrans.trans _ _ _ ih (sameSlots_step step)

theorem sameSlots_generate : Keeps SameSlots generate :=
  Keeps.bind Keeps.get fun _ =>
    Keeps.bind (Keeps.modify fun _ => ⟨rfl, rfl, rfl, rfl, fun _ mem => mem⟩) fun _ => Keeps.pure _

theorem sameSlots_saveSince : Keeps SameSlots saveSince :=
  Keeps.bind (Keeps.bind Keeps.get fun _ => Keeps.pure _) fun _ =>
    keeps_write sameSlots_tick fun _ => ⟨rfl, rfl, rfl, rfl, fun _ mem => mem⟩

theorem sameSlots_forgetRegistry (owner deviceId : String) :
    Keeps SameSlots (CertificateCache.forgetRegistry owner deviceId) :=
  Keeps.bind (Keeps.modify fun _ => ⟨rfl, rfl, rfl, rfl, fun _ mem => mem⟩) fun _ =>
    keeps_write sameSlots_tick fun _ => ⟨rfl, rfl, rfl, rfl, fun _ mem => mem⟩

/-! ## How the programs of `maintain` end -/

/-- The key is kept however the program ends; when it resolves, the replies that are left are calm
and the result satisfies `post`. -/
def Ends (options : Options) {α : Type} (post : α → World → Prop)
    (outcome : Outcome SessionError α) (after : World) : Prop :=
  Kept options after ∧ ∀ value, outcome = .ok value → Calm after.script ∧ post value after

theorem ends_failed {post : α → World → Prop} {outcome : Outcome SessionError α}
    (notOk : ∀ value, outcome ≠ .ok value) (kept : Kept options after) :
    Ends options post outcome after :=
  ⟨kept, fun value isOk => absurd isOk (notOk value)⟩

section

variable {α β : Type} {world : World} {post : α → World → Prop} {post' : β → World → Prop}

theorem ends_pure {value : α} (kept : Kept options world) (calm : Calm world.script)
    (holds : post value world) : wp (pure value) (Ends options post) world := by
  rw [wp_pure]
  refine ⟨kept, ?_⟩
  rintro _ ⟨⟩
  exact ⟨calm, holds⟩

variable {program : Session α} {next : α → Session β}

/-- The rule for sequences. -/
theorem ends_bind (first : wp program (Ends options post) world)
    (rest : ∀ value after, Kept options after → Calm after.script → post value after →
      wp (next value) (Ends options post') after)
    :
    wp (program >>= next) (Ends options post') world := by
  rw [wp_bind]
  refine wp_mono first fun outcome after ends => ?_
  cases outcome with
  | ok value =>
    obtain ⟨calm, holds⟩ := ends.2 value rfl
    exact rest value after ends.1 calm holds
  | error | crash => exact ends_failed (by simp) ends.1

theorem ends_same (same : Keeps SameSlots program) (kept : Kept options world)
    (calm : Calm world.script) :
    wp program (Ends options fun _ after => SameSlots world after) world :=
  ⟨(same world).kept kept, fun _ _ => ⟨(same world).calm calm, same world⟩⟩

theorem ends_readWorld_bind {read : World → α} (kept : Kept options world)
    (calm : Calm world.script)
    (rest : ∀ after, SameSlots world after → Kept options after → Calm after.script →
      wp (next (read after)) (Ends options post') after)
    :
    wp (readWorld read >>= next) (Ends options post') world := by
  refine wp_readWorld_bind (fun reply more script => ?_) fun outcome after notOk ticked => ?_
  · have same := sameSlots_tick world reply more script
    exact rest _ same (same.kept kept) (same.calm calm)
  · exact ends_failed notOk ((sameSlots_of_ticked ticked).kept kept)

theorem write_ends (effect : World → World)
    (kept : Kept options world) (calm : Calm world.script)
    (script : ∀ after, (effect after).script = after.script)
    (saved : ∀ after, SameSlots world after → Kept options (effect after)) :
    (∃ before, SameSlots world before ∧ write effect world = (.ok ⟨⟩, effect before) ∧
      Kept options (effect before) ∧ Calm (effect before).script) ∨
    ∃ after, write effect world = (.crash, after) ∧ Kept options after := by
  rw [write]
  rcases writeOr_cases writeLost effect world with
    ⟨reply, rest, next, ran⟩ | ⟨reply, rest, landed, next, lost, -⟩ | ⟨after, ran, ends⟩
  · have same := sameSlots_tick world reply rest next
    refine .inl ⟨_, same, ran, saved _ same, ?_⟩
    rw [script]
    exact same.calm calm
  · cases (calm reply (by simp [next])).1 ▸ lost
  refine .inr ⟨after, ran, ?_⟩
  rcases ends with ticked | ⟨reply, rest, next, rfl⟩
  · exact (sameSlots_of_ticked ticked).kept kept
  · exact saved _ (sameSlots_tick world reply rest next)

theorem ends_write_bind (effect : World → World) {next : PUnit → Session β}
    (kept : Kept options world) (calm : Calm world.script)
    (script : ∀ after, (effect after).script = after.script)
    (saved : ∀ after, SameSlots world after → Kept options (effect after))
    (rest : ∀ before, SameSlots world before → Kept options (effect before) →
      Calm (effect before).script → wp (next ⟨⟩) (Ends options post') (effect before)) :
    wp (write effect >>= next) (Ends options post') world := by
  rcases write_ends effect kept calm script saved with
    ⟨before, same, ran, keptAfter, calmAfter⟩ | ⟨after, ran, keptAfter⟩
  · rw [wp, bind_run_ok ran]
    exact rest before same keptAfter calmAfter
  · rw [wp, bind_run, ran]
    exact ends_failed (by simp) keptAfter

end

/-! ### The slots -/

def World.withAuthority (world : World) (key : SecretKey) : World :=
  { world with store := { world.store with authority := some key } }

def World.withPending (world : World) (key : Option SecretKey) : World :=
  { world with store := { world.store with authorityPending := key } }

section

variable {world : World} {β : Type} {next : PUnit → Session β} {post : β → World → Prop}

section

variable (kept : Kept options world)
include kept

theorem Kept.withAuthority {key : SecretKey}
    (holds : ∀ record, ownRecord options world.chain = some record →
      record.authorityKey = pub options key ∨
      Holds options world.store.authorityPending record.authorityKey)
    :
    Kept options (world.withAuthority key) := by
  refine ⟨fun record isRecord => ?_, kept.unrevoked, kept.unregistered⟩
  rcases holds record isRecord with isKey | pending
  · exact .inl ⟨key, rfl, isKey.symm⟩
  · exact .inr pending

theorem Kept.withPending {authority : SecretKey} {key : Option SecretKey}
    (slot : world.store.authority = some authority)
    (holds : ∀ record, ownRecord options world.chain = some record →
      record.authorityKey = pub options authority)
    :
    Kept options (world.withPending key) :=
  ⟨fun record isRecord => .inl ⟨authority, slot, (holds record isRecord).symm⟩, kept.unrevoked,
    kept.unregistered⟩

theorem ends_saveAuthority_bind {key : SecretKey} (calm : Calm world.script)
    (saved : ∀ after, SameSlots world after → Kept options (after.withAuthority key))
    (rest : ∀ before, SameSlots world before → Kept options (before.withAuthority key) →
      Calm before.script → wp (next ⟨⟩) (Ends options post) (before.withAuthority key))
    :
    wp (saveAuthority key >>= next) (Ends options post) world :=
  ends_write_bind (fun world => world.withAuthority key) kept calm (fun _ => rfl) saved rest

theorem ends_savePending_bind {key : Option SecretKey} (calm : Calm world.script)
    (saved : ∀ after, SameSlots world after → Kept options (after.withPending key))
    (rest : ∀ before, SameSlots world before → Kept options (before.withPending key) →
      Calm before.script → wp (next ⟨⟩) (Ends options post) (before.withPending key))
    :
    wp (savePending key >>= next) (Ends options post) world :=
  ends_write_bind (fun world => world.withPending key) kept calm (fun _ => rfl) saved rest

end

end

/-! ### The authority key -/

theorem loadAuthority_ends (kept : Kept options world) (calm : Calm world.script)
    (upToDate : UpToDate options world world.script) :
    wp loadAuthority
      (Ends options fun authority after => after.store.authority = some authority ∧
        UpToDate options after after.script) world := by
  refine ends_readWorld_bind kept calm fun read sameRead kept calm => ?_
  have upToDate := sameRead.upToDate upToDate
  cases saved : read.store.authority with
  | some => exact ends_pure kept calm ⟨saved, upToDate⟩
  | none =>
    refine ends_bind (ends_same sameSlots_generate kept calm) fun secret made kept calm same => ?_
    have empty : made.store.authority = none := same.authority.trans saved
    have upToDate := same.upToDate upToDate
    refine ends_saveAuthority_bind kept calm (fun after same => ?_) fun before same kept calm => ?_
    · -- a key that is on the chain is in the other slot
      refine (same.kept kept).withAuthority fun record isRecord => .inr ?_
      rcases (same.kept kept).key record isRecord with ⟨other, isOther, -⟩ | inPending
      · rw [same.authority, empty] at isOther
        cases isOther
      · exact inPending
    · have upToDate := same.upToDate upToDate
      refine ends_bind (ends_same sameSlots_saveSince kept calm) fun _ after kept calm same => ?_
      exact ends_pure kept calm ⟨same.authority, same.upToDate upToDate⟩

theorem lookup_ends (kept : Kept options world) (calm : Calm world.script)
    (upToDate : UpToDate options world world.script) :
    wp (CertificateCache.lookup options.wallet options.deviceId)
      (Ends options fun record after => SameSlots world after ∧
        (record = none ∨ record = ownRecord options after.chain)) world := by
  refine wp_ask_bind (fun reply rest lag script isLag => ?_) fun outcome after notOk ticked => ?_
  · have same := sameSlots_tick world reply rest script
    refine ends_pure (same.kept kept) (same.calm calm) ⟨same, ?_⟩
    have behind : lag ∈ lagOf reply.answer := by
      split at isLag
      · next found =>
        rw [found]
        exact isLag
      · cases isLag
    exact upToDate reply (by simp [script]) lag behind
  · exact ends_failed notOk ((sameSlots_of_ticked ticked).kept kept)

theorem lookupSelf_ends (attempts : Nat) (kept : Kept options world) (calm : Calm world.script)
    (upToDate : UpToDate options world world.script) :
    wp (lookupSelf options attempts)
      (Ends options fun record after => SameSlots world after ∧
        (record = none ∨ record = ownRecord options after.chain)) world := by
  induction attempts generalizing world with
  | zero => exact lookup_ends kept calm upToDate
  | succ attempts ih =>
    refine ends_bind (lookup_ends kept calm upToDate) fun record after kept calm found => ?_
    obtain ⟨same, isRecord⟩ := found
    cases record with
    | some => exact ends_pure kept calm ⟨same, isRecord⟩
    | none =>
      have slept : Keeps SameSlots sleep := Keeps.orElse (keeps_ask sameSlots_tick _)
      refine ends_bind (ends_same slept kept calm) fun _ later kept calm sameLater => ?_
      have reached : SameSlots world later := IsTrans.trans _ _ _ same sameLater
      refine wp_mono (ih kept calm (reached.upToDate upToDate)) fun outcome last ends => ?_
      refine ⟨ends.1, fun value isOk => ?_⟩
      obtain ⟨calm, sameLast, isRecord⟩ := ends.2 value isOk
      exact ⟨calm, IsTrans.trans _ _ _ reached sameLast, isRecord⟩

theorem Kept.key_of_slots (kept : Kept options world)
    (slot : world.store.authority = some authority)
    (isRecord : ownRecord options world.chain = some record)
    (notPending : ∀ pending, world.store.authorityPending = some pending →
      record.authorityKey ≠ pub options pending)
    :
    record.authorityKey = pub options authority := by
  rcases kept.key record isRecord with ⟨secret, inSlot, isKey⟩ | ⟨secret, inSlot, isKey⟩
  · cases slot ▸ inSlot
    exact isKey.symm
  · exact absurd isKey.symm (notPending secret inSlot)

theorem resolvePending_ends {record : Option MlsDeviceRecord} (kept : Kept options world)
    (calm : Calm world.script) (slot : world.store.authority = some authority)
    (current : record = none ∨ record = ownRecord options world.chain) :
    wp (resolvePending options authority record)
      (Ends options fun authority after => after.store.authority = some authority ∧
        after.chain = world.chain ∧
        ∀ found, record = some found → found.authorityKey = pub options authority) world := by
  refine ends_readWorld_bind kept calm fun read sameRead kept calm => ?_
  have slotRead : read.store.authority = some authority := sameRead.authority.trans slot
  cases record with
  | none =>
    cases read.store.authorityPending <;>
      exact ends_pure kept calm ⟨slotRead, sameRead.chain, by rintro _ ⟨⟩⟩
  | some record =>
    have isRecord : ownRecord options read.chain = some record := by
      rw [sameRead.chain]
      exact (current.resolve_left (by simp)).symm
    cases isPending : read.store.authorityPending with
    | none =>
      refine ends_pure kept calm ⟨slotRead, sameRead.chain, ?_⟩
      rintro _ ⟨⟩
      exact kept.key_of_slots slotRead isRecord (by simp [isPending])
    | some pending =>
      have onlyRecord : ∀ after : World, SameSlots read after →
          ∀ other, ownRecord options after.chain = some other → other = record := by
        intro after same other isOther
        rw [same.chain, isRecord] at isOther
        exact (Option.some.inj isOther).symm
      dsimp only
      split_ifs with landed
      · -- the rotation landed: its key moves to the authority slot before the other is cleared
        refine ends_saveAuthority_bind kept calm (fun after same => ?_)
          fun before same kept calm => ?_
        · refine (same.kept kept).withAuthority fun other isOther => .inl ?_
          rw [onlyRecord after same other isOther, landed]
        have sameBefore := onlyRecord before same
        have chainBefore : before.chain = world.chain := same.chain.trans sameRead.chain
        refine ends_bind (ends_same sameSlots_saveSince kept calm) fun _ since kept calm same => ?_
        have sameSince : ∀ other, ownRecord options since.chain = some other →
            other.authorityKey = pub options pending := by
          intro other isOther
          rw [same.chain] at isOther
          rw [sameBefore other isOther, landed]
        refine ends_savePending_bind kept calm (fun after sameAfter => ?_)
          fun cleared sameCleared kept calm => ?_
        · refine (sameAfter.kept kept).withPending
            (sameAfter.authority.trans same.authority) fun other isOther => ?_
          rw [sameAfter.chain] at isOther
          exact sameSince other isOther
        refine ends_pure kept calm ⟨sameCleared.authority.trans same.authority,
          sameCleared.chain.trans (same.chain.trans chainBefore), ?_⟩
        rintro _ ⟨⟩
        exact landed
      have isKey : record.authorityKey = pub options authority := by
        refine kept.key_of_slots slotRead isRecord fun other isOther => ?_
        cases isPending ▸ isOther
        exact landed
      refine ends_savePending_bind kept calm (fun after same => ?_)
        fun cleared same kept calm => ?_
      · refine (same.kept kept).withPending (same.authority.trans slotRead)
          fun other isOther => ?_
        rw [onlyRecord after same other isOther, isKey]
      refine ends_pure kept calm
        ⟨same.authority.trans slotRead, same.chain.trans sameRead.chain, ?_⟩
      rintro _ ⟨⟩
      exact isKey

/-! ### Transactions -/

theorem trySubmit_cases (lost : Answer → Option Bool) (transaction : World → Option Registry)
    (world : World) :
    (∃ after, SameSlots world after ∧
      (trySubmit lost transaction world = (.ok false, after) ∨
        trySubmit lost transaction world = (.crash, after))) ∨
    ∃ before, SameSlots world before ∧ transaction world ≠ none ∧
      (trySubmit lost transaction world = (.ok true, land transaction before) ∨
        trySubmit lost transaction world = (.crash, land transaction before) ∨
        trySubmit lost transaction world = (.ok false, land transaction before) ∧
          ∃ reply ∈ world.script, lost reply.answer = some true) := by
  simp only [trySubmit, tryCatch_run, bind_run, submit]
  cases valid : transaction world with
  | none =>
    -- the chain aborts the transaction
    have same : SameSlots world (notify world).2 := keeps_ask sameSlots_tick _ world
    dsimp only
    rcases ran : notify world with ⟨value | reason | _, after⟩ <;> rw [ran] at same
    · exact .inl ⟨after, same, .inl rfl⟩
    · exact .inl ⟨after, same, .inl rfl⟩
    · exact .inl ⟨after, same, .inr rfl⟩
  | some =>
    dsimp only
    rcases writeOr_cases lost (land transaction) world with
      ⟨reply, rest, next, ran⟩ | ⟨reply, rest, landed, next, isLost, ran⟩ | ⟨after, ran, ends⟩ <;>
      rw [ran]
    · exact .inr ⟨_, sameSlots_tick world reply rest next, by simp, .inl rfl⟩
    · have same := sameSlots_tick world reply rest next
      cases landed with
      | true => exact .inr ⟨_, same, by simp, .inr (.inr ⟨rfl, reply, by simp [next], isLost⟩)⟩
      | false => exact .inl ⟨_, same, .inl rfl⟩
    · rcases ends with ticked | ⟨reply, rest, next, rfl⟩
      · exact .inl ⟨after, sameSlots_of_ticked ticked, .inr rfl⟩
      · exact .inr ⟨_, sameSlots_tick world reply rest next, by simp, .inr (.inl rfl)⟩

theorem land_registerTx {authorityKey : String}
    (valid : registerTx options authorityKey world ≠ none) :
    ownRecord options world.chain = none ∧
      (land (registerTx options authorityKey) world).past = world.chain :: world.past ∧
      ∃ record, ownRecord options (land (registerTx options authorityKey) world).chain =
        some record ∧ record.authorityKey = authorityKey ∧ record.revokedAtMs = 0 := by
  unfold registerTx at valid
  split at valid
  · exact absurd rfl valid
  next unregistered =>
  have lands : registerTx options authorityKey world =
      some (world.chain.register options.wallet options.deviceId authorityKey world.clock) := by
    simp [registerTx, unregistered]
  refine ⟨unregistered, by simp [land, lands], ?_⟩
  simp only [land, lands, ownRecord, Registry.register, unregistered]
  exact ⟨_, Registry.set_same _ _ _ _, rfl, rfl⟩

theorem land_slots (transaction : World → Option Registry) (world : World) :
    (land transaction world).store = world.store ∧
      (land transaction world).script = world.script := by
  unfold land
  split <;> exact ⟨rfl, rfl⟩

theorem Kept.register (kept : Kept options world) (slot : world.store.authority = some authority)
    (valid : registerTx options (pub options authority) world ≠ none) :
    Kept options (land (registerTx options (pub options authority)) world) ∧
      ∃ record, ownRecord options
          (land (registerTx options (pub options authority)) world).chain = some record ∧
        record.authorityKey = pub options authority ∧
        ∀ state ∈ (land (registerTx options (pub options authority)) world).past,
          ownRecord options state = none := by
  obtain ⟨unregistered, past, record, isRecord, isKey, active⟩ := land_registerTx valid
  have slots := land_slots (registerTx options (pub options authority)) world
  have unregisteredPast :
      ∀ state ∈ (land (registerTx options (pub options authority)) world).past,
        ownRecord options state = none := by
    intro state mem
    rw [past] at mem
    rcases List.mem_cons.mp mem with rfl | earlier
    · exact unregistered
    · exact kept.unregistered unregistered state earlier
  refine ⟨⟨fun other isOther => .inl ⟨authority, ?_, ?_⟩, fun other isOther => ?_, fun _ =>
    unregisteredPast⟩, record, isRecord, isKey, unregisteredPast⟩
  · rw [slots.1]
    exact slot
  · cases isRecord ▸ isOther
    exact isKey.symm
  · cases isRecord ▸ isOther
    exact active

theorem upToDate_of_unregistered_past (past : ∀ state ∈ world.past, ownRecord options state = none)
    (script : List Reply) :
    UpToDate options world script := by
  intro reply _ lag _
  unfold seenAt
  cases found : (world.chain :: world.past)[lag]? with
  | none => exact .inr rfl
  | some state =>
    rcases List.mem_cons.mp (List.mem_of_getElem? found) with rfl | earlier
    · exact .inr rfl
    · exact .inl (past state earlier)

/-- The device has a record on the chain under the given key. -/
def Registered (options : Options) (world : World) (authorityKey : String) : Prop :=
  ∃ record, ownRecord options world.chain = some record ∧ record.authorityKey = authorityKey

theorem trySubmit_register_ends (kept : Kept options world) (calm : Calm world.script)
    (slot : world.store.authority = some authority) :
    wp (trySubmit registrationLost (registerTx options (pub options authority)))
      (Ends options fun submitted after => after.store.authority = some authority ∧
        (submitted = true → Registered options after (pub options authority) ∧
          UpToDate options after after.script)) world := by
  rw [wp]
  rcases trySubmit_cases registrationLost (registerTx options (pub options authority)) world with
    ⟨after, same, ran | ran⟩ | ⟨before, same, valid, ends⟩
  · rw [ran]
    exact ends_pure (same.kept kept) (same.calm calm) ⟨same.authority.trans slot, by simp⟩
  · rw [ran]
    exact ends_failed (by simp) (same.kept kept)
  -- the registration took effect
  have stillValid : registerTx options (pub options authority) before ≠ none := by
    unfold registerTx at valid ⊢
    rw [same.chain]
    split at valid
    · exact absurd rfl valid
    · simp
  obtain ⟨keptLanded, record, isRecord, isKey, past⟩ :=
    (same.kept kept).register (same.authority.trans slot) stillValid
  obtain ⟨store, script⟩ := land_slots (registerTx options (pub options authority)) before
  have slotLanded : (land (registerTx options (pub options authority)) before).store.authority =
      some authority := by
    rw [store]
    exact same.authority.trans slot
  have calmLanded :
      Calm (land (registerTx options (pub options authority)) before).script := by
    rw [script]
    exact same.calm calm
  rcases ends with ran | ran | ⟨ran, -⟩ <;> rw [ran]
  · exact ends_pure keptLanded calmLanded
      ⟨slotLanded, fun _ => ⟨⟨record, isRecord, isKey⟩, upToDate_of_unregistered_past past _⟩⟩
  · exact ends_failed (by simp) keptLanded
  · exact ends_pure keptLanded calmLanded ⟨slotLanded, by simp⟩

theorem awaitRecord_ends (kept : Kept options world) (calm : Calm world.script)
    (upToDate : UpToDate options world world.script) (slot : world.store.authority = some authority)
    (registered : Registered options world (pub options authority)) :
    wp (awaitRecord options)
      (Ends options fun result after => after.store.authority = some authority ∧
        ∀ found, result = some found → ownRecord options after.chain = some found ∧
          found.authorityKey = pub options authority) world := by
  refine ends_bind (lookupSelf_ends 3 kept calm upToDate) fun record read kept calm found => ?_
  obtain ⟨same, current⟩ := found
  cases record with
  | none => exact ends_pure kept calm ⟨same.authority.trans slot, by rintro _ ⟨⟩⟩
  | some record =>
    have isRecord : ownRecord options read.chain = some record :=
      (current.resolve_left (by simp)).symm
    refine ends_bind (ends_same sameSlots_saveSince kept calm) fun _ after kept calm saved => ?_
    refine ends_pure kept calm ⟨saved.authority.trans (same.authority.trans slot), ?_⟩
    rintro _ ⟨⟩
    obtain ⟨other, isOther, isKey⟩ := registered
    rw [saved.chain, isRecord]
    rw [same.chain, isOther] at isRecord
    cases isRecord
    exact ⟨rfl, isKey⟩

theorem ensureRegistered_ends {record : Option MlsDeviceRecord} (kept : Kept options world)
    (calm : Calm world.script) (slot : world.store.authority = some authority)
    (current : record = none ∨ record = ownRecord options world.chain)
    (isKey : ∀ found, record = some found → found.authorityKey = pub options authority) :
    wp (ensureRegistered options registry authority record)
      (Ends options fun result after => after.store.authority = some authority ∧
        ∀ found, result = some found → ownRecord options after.chain = some found ∧
          found.authorityKey = pub options authority) world := by
  cases record with
  | some record =>
    refine ends_pure kept calm ⟨slot, ?_⟩
    rintro _ ⟨⟩
    exact ⟨(current.resolve_left (by simp)).symm, isKey record rfl⟩
  | none =>
    unfold ensureRegistered
    split_ifs
    · refine ends_bind (trySubmit_register_ends kept calm slot)
        fun submitted after kept calm landed => ?_
      obtain ⟨slot, registered⟩ := landed
      split_ifs with answered
      · obtain ⟨isRegistered, upToDate⟩ := registered answered
        exact awaitRecord_ends kept calm upToDate slot isRegistered
      · exact ends_pure kept calm ⟨slot, by rintro _ ⟨⟩⟩
    · exact ends_pure kept calm ⟨slot, by rintro _ ⟨⟩⟩

/-! ### The rotation -/

theorem land_rotateTx {signer : String} (newKey : String)
    (isRecord : ownRecord options world.chain = some record)
    (isSigner : record.authorityKey = signer) (active : record.revokedAtMs = 0) :
    ∃ rotated, ownRecord options (land (rotateTx options signer newKey) world).chain =
      some rotated ∧ rotated.authorityKey = newKey ∧ rotated.revokedAtMs = 0 := by
  have isChain : world.chain options.wallet options.deviceId = some record := isRecord
  have lands : rotateTx options signer newKey world =
      some (world.chain.rotate options.wallet options.deviceId signer newKey world.clock) := by
    simp [rotateTx, isChain, isSigner, active]
  simp only [land, lands, ownRecord, Registry.rotate, isChain, isSigner, active, and_self, if_true]
  exact ⟨_, Registry.set_same _ _ _ _, rfl, rfl⟩

/-- The key that was rotated to is saved, or the process dies. -/
theorem saveRotation_ends (kept : Kept options world) (calm : Calm world.script)
    (registered : Registered options world (pub options next)) :
    wp (saveRotation options next)
      (Ends options fun _ after => after.store.authority = some next ∧
        Registered options after (pub options next)) world := by
  have saved : ∀ after, SameSlots world after → Kept options (after.withAuthority next) := by
    intro after same
    refine (same.kept kept).withAuthority fun record isRecord => .inl ?_
    obtain ⟨current, isCurrent, isKey⟩ := registered
    rw [same.chain, isCurrent] at isRecord
    cases isRecord
    exact isKey
  have rest : Keeps SameSlots (noteRotation options) :=
    Keeps.bind sameSlots_saveSince fun _ => sameSlots_forgetRegistry _ _
  rw [saveRotation, orElse, wp_tryCatch, wp, bind_run]
  rcases write_ends (fun world => world.withAuthority next) kept calm (fun _ => rfl) saved with
    ⟨before, same, ran, keptSaved, calmSaved⟩ | ⟨after, ran, keptAfter⟩
  · have ranSave : saveAuthority next world = (.ok ⟨⟩, before.withAuthority next) := ran
    -- what follows leaves the slot alone, also when it rejects
    have sameRest := rest (before.withAuthority next)
    have keptRest := sameRest.kept keptSaved
    have calmRest := sameRest.calm calmSaved
    have slotRest : (noteRotation options (before.withAuthority next)).2.store.authority =
        some next := sameRest.authority
    have registeredRest : Registered options
        (noteRotation options (before.withAuthority next)).2 (pub options next) := by
      rw [Registered, sameRest.chain.trans same.chain]
      exact registered
    rw [ranSave]
    rcases ended : noteRotation options (before.withAuthority next) with
      ⟨value | reason | _, after⟩ <;>
      simp only [ended] at keptRest calmRest slotRest registeredRest ⊢
    · exact ends_pure keptRest calmRest ⟨slotRest, registeredRest⟩
    · exact ends_pure keptRest calmRest ⟨slotRest, registeredRest⟩
    · exact ends_failed (by simp) keptRest
  · have ranSave : saveAuthority next world = (.crash, after) := ran
    rw [ranSave]
    exact ends_failed (by simp) keptAfter

theorem submitRotation_ends (kept : Kept options world) (calm : Calm world.script)
    (slot : world.store.authority = some authority)
    (pending : world.store.authorityPending = some next)
    (registered : Registered options world (pub options authority)) :
    wp (submitRotation options authority next)
      (Ends options fun key after => after.store.authority = some key ∧
        Registered options after (pub options key)) world := by
  rw [submitRotation, wp, bind_run]
  rcases trySubmit_cases rotationLost
      (rotateTx options (pub options authority) (pub options next)) world with
    ⟨after, same, ran | ran⟩ | ⟨before, same, -, ends⟩
  · rw [ran]
    refine ends_pure (same.kept kept) (same.calm calm) ⟨same.authority.trans slot, ?_⟩
    rw [Registered, same.chain]
    exact registered
  · rw [ran]
    exact ends_failed (by simp) (same.kept kept)
  -- the rotation took effect: the key of the chain is the pending one
  obtain ⟨record, isRecord, isKey⟩ := registered
  have isBefore : ownRecord options before.chain = some record := by
    rw [same.chain]
    exact isRecord
  obtain ⟨rotated, isRotated, isNext, active⟩ := land_rotateTx (pub options next)
    isBefore isKey (kept.unrevoked record isRecord)
  obtain ⟨store, script⟩ := land_slots
    (rotateTx options (pub options authority) (pub options next)) before
  have landedKept : Kept options
      (land (rotateTx options (pub options authority) (pub options next)) before) := by
    refine ⟨fun other isOther => .inr ⟨next, ?_, ?_⟩, fun other isOther => ?_, fun none => ?_⟩
    · rw [store]
      exact same.pending.trans pending
    · cases isRotated ▸ isOther
      exact isNext.symm
    · cases isRotated ▸ isOther
      exact active
    · cases isRotated ▸ none
  have landedCalm : Calm
      (land (rotateTx options (pub options authority) (pub options next)) before).script := by
    rw [script]
    exact same.calm calm
  rcases ends with ran | ran | ⟨-, reply, mem, isLost⟩
  · rw [ran]
    refine ends_bind (saveRotation_ends landedKept landedCalm ⟨rotated, isRotated, isNext⟩)
      fun _ after kept calm holds => ?_
    exact ends_pure kept calm holds
  · rw [ran]
    exact ends_failed (by simp) landedKept
  · -- its answer is not lost
    exact absurd isLost (calm reply mem).2

theorem rotateIfDue_ends (kept : Kept options world) (calm : Calm world.script)
    (slot : world.store.authority = some authority)
    (registered : Registered options world (pub options authority)) :
    wp (rotateIfDue options registry authority) (Ends options fun _ _ => True) world := by
  -- while the authority key is the one on the chain, the pending slot is free to use
  have free : ∀ {now : World} {key : SecretKey} {pending : Option SecretKey} {after : World},
      Kept options now → now.store.authority = some key →
      Registered options now (pub options key) → SameSlots now after →
      Kept options (after.withPending pending) := by
    rintro now key pending after keptNow slotNow ⟨record, isRecord, isKey⟩ same
    refine (same.kept keptNow).withPending (same.authority.trans slotNow) fun other isOther => ?_
    rw [same.chain, isRecord] at isOther
    cases isOther
    exact isKey
  refine ends_readWorld_bind kept calm fun read sameRead kept calm => ?_
  have slotRead := sameRead.authority.trans slot
  have registeredRead : Registered options read (pub options authority) := by
    rw [Registered, sameRead.chain]
    exact registered
  change wp (if _ then _ else _) _ read
  split_ifs
  · refine ends_bind (ends_same sameSlots_generate kept calm) fun next made kept calm same => ?_
    have slotMade := same.authority.trans slotRead
    have registeredMade : Registered options made (pub options authority) := by
      rw [Registered, same.chain]
      exact registeredRead
    refine ends_savePending_bind kept calm
      (fun after sameAfter => free kept slotMade registeredMade sameAfter)
      fun before sameBefore kept calm => ?_
    have registeredBefore : Registered options (before.withPending (some next))
        (pub options authority) := by
      rw [Registered, World.withPending, sameBefore.chain]
      exact registeredMade
    refine ends_bind (submitRotation_ends kept calm (sameBefore.authority.trans slotMade) rfl
      registeredBefore) fun key rotated kept calm holds => ?_
    refine ends_savePending_bind kept calm
      (fun after sameAfter => free kept holds.1 holds.2 sameAfter) fun cleared _ kept calm => ?_
    exact ends_pure kept calm trivial
  · exact ends_pure kept calm trivial

/-! ### One call -/

/-- **One call of `maintain`.**  When its writes to the store do not reject, no answer of a
rotation that took effect is lost, and no lookup shows a record that the chain has replaced, then
the key is kept wherever the call ends, and its answer is not `conflict`. -/
theorem maintain_ends (kept : Kept options world) (calm : Calm world.script)
    (upToDate : UpToDate options world world.script) :
    wp (maintain options) (Ends options fun state _ => state ≠ .conflict) world := by
  unfold maintain
  cases options.registry with
  | none => exact ends_pure kept calm (by simp)
  | some =>
    refine ends_bind (loadAuthority_ends kept calm upToDate)
      fun authority loaded kept calm found => ?_
    obtain ⟨slot, upToDate⟩ := found
    refine ends_bind (lookupSelf_ends 0 kept calm upToDate) fun record read kept calm found => ?_
    obtain ⟨same, current⟩ := found
    refine ends_bind (resolvePending_ends kept calm (same.authority.trans slot) current)
      fun authority resolved kept calm found => ?_
    obtain ⟨slot, chain, isKey⟩ := found
    rw [← chain] at current
    refine ends_bind (ensureRegistered_ends kept calm slot current isKey)
      fun record after kept calm found => ?_
    obtain ⟨slot, isRecord⟩ := found
    cases record with
    | none => exact ends_pure kept calm (by simp)
    | some record =>
      obtain ⟨isRecord, isKey⟩ := isRecord record rfl
      simp only [maintainRegistered, kept.unrevoked record isRecord, isKey, ne_eq,
        not_true_eq_false, if_false]
      refine ends_bind (rotateIfDue_ends kept calm slot ⟨record, isRecord, isKey⟩)
        fun key rotated kept calm _ => ?_
      refine ends_bind (ends_same (sameSlots_of_moves (moves_renewCertificate trivial key)) kept
        calm) fun _ last kept calm _ => ?_
      exact ends_pure kept calm (by simp)

/-! ## Runs -/

/-- A call of `maintain`: what it finds in the process and in the store, the two slots apart, and
the replies that come during it. -/
structure Maintenance where
  rest : World
  script : List Reply

/-- The world in which `maintain` is called.  Between two calls the process may die and be started
again, other calls may run and time passes; only the two slots and the chain are as they were. -/
def resume (world : World) (input : Maintenance) : World :=
  { input.rest with
    store :=
      { input.rest.store with
        authority := world.store.authority
        authorityPending := world.store.authorityPending }
    chain := world.chain
    past := world.past
    fresh := world.fresh + input.rest.fresh
    script := input.script }

/-- One call of `maintain`, however it ends. -/
def maintainStep (options : Options) (world : World) (input : Maintenance) : World :=
  (maintain options (resume world input)).2

/-- What a call relies on: the writes to the store take effect or the process dies in them, no
answer of a rotation that took effect is lost, and no lookup shows a record of the device that the
chain has replaced. -/
def Faithful (options : Options) (world : World) (input : Maintenance) : Prop :=
  Calm input.script ∧ UpToDate options world input.script

instance (script : List Reply) : Decidable (Calm script) :=
  inferInstanceAs (Decidable (∀ reply ∈ script, _ ∧ _))

instance (options : Options) (world : World) (script : List Reply) :
    Decidable (UpToDate options world script) :=
  inferInstanceAs (Decidable (∀ reply ∈ script, ∀ lag ∈ lagOf reply.answer, _ ∨ _))

instance (options : Options) (world : World) (input : Maintenance) :
    Decidable (Faithful options world input) :=
  inferInstanceAs (Decidable (_ ∧ _))

/-- **Faithful runs keep the key.**  In every run of `maintain` for a device that was not
registered before, in which every call is faithful, the secret half of the key on the chain is in
one of the two slots, and no call answers `conflict`. -/
theorem faithful_run_keeps_key
    (options : Options)
    (start : World)
    (new : ∀ state ∈ start.chain :: start.past, ownRecord options state = none)
    (inputs : List Maintenance)
    (faithful : Along (maintainStep options) (Faithful options) start inputs) :
    KeyKept options (inputs.foldl (maintainStep options) start) ∧
      ∀ before input after, inputs = before ++ input :: after →
        (maintain options (resume (before.foldl (maintainStep options) start) input)).1 ≠
          .ok .conflict := by
  have unregistered : ownRecord options start.chain = none := new start.chain (by simp)
  have initial : Kept options start := by
    refine ⟨fun record isRecord => ?_, fun record isRecord => ?_, fun _ state mem =>
      new state (by simp [mem])⟩
    · cases unregistered ▸ isRecord
    · cases unregistered ▸ isRecord
  -- a call finds the slots and the chain as they were left
  have resumed : ∀ world input, Kept options world → Faithful options world input →
      wp (maintain options) (Ends options fun state _ => state ≠ .conflict)
        (resume world input) := by
    intro world input kept isFaithful
    exact maintain_ends ⟨kept.key, kept.unrevoked, kept.unregistered⟩ isFaithful.1 isFaithful.2
  have preserved : ∀ world input, Kept options world → Faithful options world input →
      Kept options (maintainStep options world input) :=
    fun world input kept isFaithful => (resumed world input kept isFaithful).1
  refine ⟨(Along.invariant preserved faithful initial).key, ?_⟩
  rintro before input after rfl conflict
  obtain ⟨kept, isFaithful⟩ := Along.at_step preserved faithful initial
  exact ((resumed _ input kept isFaithful).2 _ conflict).2 rfl

/-! ### A rotation that is resolved, and one that is lost -/

/-- The first call: the device is registered, and gets its certificate. -/
def firstMaintenance : Maintenance where
  rest := .small
  script :=
    [⟨0, .done⟩, ⟨0, .done⟩, ⟨0, .done⟩, ⟨0, .record 0⟩, ⟨0, .done⟩, ⟨0, .done⟩, ⟨0, .record 0⟩,
      ⟨0, .done⟩, ⟨0, .done⟩, ⟨0, .done⟩, ⟨0, .done⟩, ⟨0, .done⟩, ⟨0, .done⟩, ⟨0, .done⟩]

/-- Ninety days later a rotation is due. -/
def World.due : World :=
  { World.small with
    clock := rotateAfterMs
    store := { StateStore.new with authoritySince := some 0 } }

def dueMaintenance (submission : Answer) (after : List Reply) : Maintenance where
  rest := .due
  script :=
    [⟨0, .done⟩, ⟨0, .record 0⟩, ⟨0, .done⟩, ⟨0, .done⟩, ⟨0, .done⟩, ⟨0, submission⟩] ++ after

/-- A call that only finds out what became of a rotation. -/
def nextMaintenance : Maintenance where
  rest := .small
  script := [⟨0, .done⟩, ⟨0, .record 0⟩, ⟨0, .done⟩, ⟨0, .done⟩, ⟨0, .done⟩, ⟨0, .done⟩, ⟨0, .done⟩]

/-- The process dies in a rotation that takes effect, and the next call resolves it. -/
theorem faithful_run_keeps_key_after_crash :
    let inputs := [firstMaintenance, dueMaintenance (.crashed true) [], nextMaintenance]
    (∀ state ∈ World.small.chain :: World.small.past, ownRecord .small state = none) ∧
      Along (maintainStep .small) (Faithful .small) .small inputs ∧
      ownRecord .small (inputs.foldl (maintainStep .small) .small).chain ≠ none ∧
      KeyKept .small (inputs.foldl (maintainStep .small) .small) := by
  have new : ∀ state ∈ World.small.chain :: World.small.past, ownRecord .small state = none := by
    decide
  have faithful : Along (maintainStep .small) (Faithful .small) .small
      [firstMaintenance, dueMaintenance (.crashed true) [], nextMaintenance] := by
    decide
  exact ⟨new, faithful, by decide, (faithful_run_keeps_key .small .small new _ faithful).1⟩

/-- The answer of a rotation that takes effect is lost. -/
def lostRotation : List Maintenance :=
  [firstMaintenance, dueMaintenance (.rotationLost true) [⟨0, .done⟩, ⟨0, .done⟩]]

/-- **A lost answer loses the key.**  A rotation takes effect and its answer is lost: the pending
key is cleared, and the next call answers `conflict`. -/
theorem lost_rotation_conflicts :
    ¬ KeyKept .small (lostRotation.foldl (maintainStep .small) .small) ∧
      (maintain .small
        (resume (lostRotation.foldl (maintainStep .small) .small) nextMaintenance)).1 =
          .ok .conflict := by
  refine ⟨fun kept => ?_, by decide⟩
  -- the chain has the second key, and the store the first one
  have onChain : (ownRecord .small (lostRotation.foldl (maintainStep .small) .small).chain).map
      MlsDeviceRecord.authorityKey = some (pub .small 2) := by decide
  have authority : (lostRotation.foldl (maintainStep .small) .small).store.authority = some 0 := by
    decide
  have pending :
    (lostRotation.foldl (maintainStep .small) .small).store.authorityPending = none := by
    decide
  obtain ⟨record, isRecord, isKey⟩ := Option.map_eq_some_iff.mp onChain
  rcases kept record isRecord with ⟨secret, inSlot, isPublic⟩ | ⟨secret, inSlot, -⟩
  · cases authority ▸ inSlot
    rw [isKey] at isPublic
    exact absurd isPublic (by decide)
  · cases pending ▸ inSlot

end MessagingStack.Sdk

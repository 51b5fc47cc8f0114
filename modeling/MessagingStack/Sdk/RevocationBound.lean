import MessagingStack.Sdk.RegistryVerdict

/-!
# How late a revocation takes effect

A device's key is judged by the registry's answer, which is cached in memory and in the store.
This module bounds the age of that answer: whatever the chain did, whichever lookups failed and
however often the process was restarted, a certificate that is called valid was valid under a
record that a lookup returned less than a day before the call, and less than an hour before it
when no lookup was due or the one that the call made was answered (`revocation_takes_effect`).
-/

namespace MessagingStack.Sdk.CertificateCache

open Session

/-- A lookup of the registry that was answered. -/
structure Lookup where
  owner : String
  deviceId : String
  madeAt : Int
  record : Option MlsDeviceRecord
  deriving DecidableEq

/-- A lookup is due: no answer is held that is less than an hour old. -/
def due (world : World) (key : String) : Bool :=
  !(held world key).any fun entry => world.clock - entry.checkedAt < registryTtlMs

/-- The lookup of `#registryEntry`, if it makes one and that is answered. -/
def lookupMade (owner deviceId : String) (world : World) : Option Lookup :=
  let key := registryMetaKey owner deviceId
  if due world key then
    match savedEntry key world with
    | (.ok _, read) =>
      match lookup owner deviceId read with
      | (.ok record, _) => some { owner, deviceId, madeAt := read.clock, record }
      | _ => none
    | _ => none
  else none

def statusLookup (options : Options) (cert : MlsDeviceCertificate) (world : World) :
    Option Lookup :=
  match options.registry, cert.authorityKey.filter (· ≠ "") with
  | some _, some _ =>
    match checkSignature options cert world with
    | (.ok true, checked) => lookupMade (lower cert.wallet) cert.deviceId checked
    | _ => none
  | _, _ => none

/-- A process that judges certificates, and the lookups that were answered to it. -/
structure Peer where
  world : World
  lookups : List Lookup

/-- What can happen to a peer. -/
inductive Move where
  /-- The chain comes to another state. -/
  | chain (registry : Registry)
  | wait (elapsed : Nat)
  | status (cert : MlsDeviceCertificate) (script : List Reply)
  | forgetRegistry (owner deviceId : String) (script : List Reply)
  | restart

namespace Peer

def called (peer : Peer) (script : List Reply) : World := { peer.world with script }

def step (options : Options) (peer : Peer) : Move → Peer
  | .chain registry =>
    { peer with
      world := { peer.world with chain := registry, past := peer.world.chain :: peer.world.past } }
  | .wait elapsed => { peer with world := { peer.world with clock := peer.world.clock + elapsed } }
  | .status cert script =>
    { world := (CertificateCache.status options cert (peer.called script)).2
      lookups := peer.lookups ++
        (if cert.v = 2 then (statusLookup options cert (peer.called script)).toList else []) }
  | .forgetRegistry owner deviceId script =>
    { peer with
      world := (CertificateCache.forgetRegistry owner deviceId (peer.called script)).2 }
  | .restart => { peer with world := { peer.world with certs := .new } }

/-- A peer without answers. -/
def start (world : World) : Peer where
  world := { world with certs := .new, store := { world.store with registry := fun _ => none } }
  lookups := []

def reached (options : Options) (world : World) (moves : List Move) : Peer :=
  moves.foldl (step options) (start world)

end Peer

/-! ## What is held comes from a lookup -/

def Backs (lookup : Lookup) (key : String) (entry : RegistryCacheEntry) : Prop :=
  registryMetaKey lookup.owner lookup.deviceId = key ∧ lookup.record = entry.record ∧
    entry.checkedAt ≤ lookup.madeAt

/-- Every answer that is held is backed. -/
def Sound (lookups : List Lookup) (world : World) : Prop :=
  ∀ key entry,
    world.certs.registry key = some entry ∨ world.store.registry key = some entry →
      ∃ lookup ∈ lookups, Backs lookup key entry

theorem Sound.held {lookups : List Lookup} {world : World} (sound : Sound lookups world)
    {key : String} {entry : RegistryCacheEntry} (isHeld : held world key = some entry) :
    ∃ lookup ∈ lookups, Backs lookup key entry := by
  unfold CertificateCache.held at isHeld
  split at isHeld
  · rename_i found
    exact sound key entry (.inl (found.trans isHeld))
  · exact sound key entry (.inr isHeld)

theorem Sound.more {lookups : List Lookup} {world : World} (sound : Sound lookups world)
    (added : List Lookup) : Sound (lookups ++ added) world := by
  intro key entry isHeld
  obtain ⟨lookup, isIn, backs⟩ := sound key entry isHeld
  exact ⟨lookup, List.mem_append_left _ isIn, backs⟩

section

open Async

variable {options : Options} {lookups : List Lookup}

variable {world after : World} {entry : Option RegistryCacheEntry} {owner deviceId : String}
  {cert : MlsDeviceCertificate}

theorem sound_of_same {before : World} (memory : after.certs.registry = before.certs.registry)
    (store : after.store.registry = before.store.registry) :
    Preserving (Sound lookups) before after := by
  intro sound key entry isHeld
  rw [memory, store] at isHeld
  exact sound key entry isHeld

theorem sound_tick (world : World) (reply : Reply) (rest : List Reply)
    (_ : world.script = reply :: rest) :
    Preserving (Sound lookups) world (tick world reply rest) :=
  sound_of_same rfl rfl

theorem sound_setRegistry {key : String}
    (backed : ∀ kept ∈ entry, ∃ lookup ∈ lookups, Backs lookup key kept) :
    Keeps (Preserving (Sound lookups)) (setRegistry key entry) := by
  refine Keeps.modify fun world sound other kept isHeld => ?_
  simp only at isHeld
  split_ifs at isHeld with same
  · rcases isHeld with isNew | isStored
    · exact same ▸ backed kept isNew
    · exact sound other kept (.inr isStored)
  · exact sound other kept isHeld

theorem sound_writeRegistry {key : String}
    (backed : ∀ kept ∈ entry, ∃ lookup ∈ lookups, Backs lookup key kept) :
    Keeps (Preserving (Sound lookups)) (writeStore fun store => store.setRegistry key entry) := by
  refine keeps_write sound_tick fun world sound other kept isHeld => ?_
  simp only [StateStore.setRegistry] at isHeld
  split_ifs at isHeld with same
  · rcases isHeld with isCached | isNew
    · exact sound other kept (.inl isCached)
    · exact same ▸ backed kept isNew
  · exact sound other kept isHeld

/-- A step that only waits for replies. -/
def Reads (before after : World) : Prop :=
  after.certs = before.certs ∧ after.store = before.store ∧ before.clock ≤ after.clock ∧
    ∀ reply ∈ after.script, reply ∈ before.script

instance : Std.Refl Reads := ⟨fun _ => ⟨rfl, rfl, le_rfl, fun _ isIn => isIn⟩⟩

instance : IsTrans World Reads :=
  ⟨fun _ _ _ first second => ⟨second.1.trans first.1, second.2.1.trans first.2.1,
    first.2.2.1.trans second.2.2.1, fun reply isIn => first.2.2.2 reply (second.2.2.2 reply isIn)⟩⟩

theorem reads_tick (world : World) (reply : Reply) (rest : List Reply)
    (script : world.script = reply :: rest) : Reads world (tick world reply rest) := by
  refine ⟨rfl, rfl, ?_, fun other isIn => script ▸ List.mem_cons_of_mem _ isIn⟩
  show world.clock ≤ world.clock + reply.elapsed
  omega

theorem reads_savedEntry (key : String) : Keeps Reads (savedEntry key) := by
  refine Keeps.bind Keeps.get fun world => ?_
  split
  · exact Keeps.pure _
  · exact keeps_readWorld reads_tick _

theorem reads_lookup (owner deviceId : String) : Keeps Reads (lookup owner deviceId) :=
  Keeps.bind (keeps_ask reads_tick _) fun _ => Keeps.bind Keeps.get fun _ => Keeps.pure _

theorem later_of_keeps {α : Type} {program : Session α}
    (keeps : ∀ time, Keeps (Preserving fun world : World => time ≤ world.clock) program)
    (world : World) : world.clock ≤ (program world).2.clock :=
  keeps world.clock world le_rfl

theorem later_tick {time : Int} (world : World) (reply : Reply) (rest : List Reply)
    (script : world.script = reply :: rest) :
    Preserving (fun world : World => time ≤ world.clock) world (tick world reply rest) :=
  fun isLater => isLater.trans (reads_tick world reply rest script).2.2.1

theorem later_registryEntry (owner deviceId : String) (time : Int) :
    Keeps (Preserving fun world : World => time ≤ world.clock) (registryEntry owner deviceId) := by
  refine Keeps.bind (Keeps.bind Keeps.get fun _ => Keeps.pure _) fun now => ?_
  refine Keeps.bind (fun world isLater => isLater.trans (reads_savedEntry _ world).2.2.1)
    fun entry => ?_
  split_ifs
  · exact Keeps.pure _
  refine Keeps.tryCatch ?_ fun _ => Keeps.pure _
  refine Keeps.bind (fun world isLater => isLater.trans (reads_lookup _ _ world).2.2.1)
    fun record => ?_
  refine Keeps.bind (Keeps.modify fun _ isLater => isLater) fun _ => ?_
  exact Keeps.bind (keeps_write later_tick fun _ isLater => isLater) fun _ => Keeps.pure _

theorem lookupMade_of_saved {read : World}
    (isDue : due world (registryMetaKey owner deviceId) = true)
    (saved : savedEntry (registryMetaKey owner deviceId) world = (.ok entry, read)) :
    lookupMade owner deviceId world =
      match lookup owner deviceId read with
      | (.ok record, _) => some { owner, deviceId, madeAt := read.clock, record }
      | _ => none := by
  simp only [lookupMade, isDue, if_true, saved]

theorem writeStore_rejected {change : StateStore → StateStore} {reason : SessionError}
    (ran : writeStore change world = (.error reason, after)) :
    ∃ reply ∈ world.script, (writeLost reply.answer).isSome = true := by
  rcases writeOr_cases writeLost (fun world => { world with store := change world.store }) world
    with ⟨reply, rest, -, wrote⟩ | ⟨reply, rest, landed, script, isLost, -⟩ | ⟨dead, wrote, -⟩
  · rw [writeStore, write, wrote] at ran
    cases ran
  · exact ⟨reply, script ▸ List.mem_cons_self, by rw [isLost]; rfl⟩
  · rw [writeStore, write, wrote] at ran
    cases ran

theorem readRegistry_ends (owner deviceId : String) (now : Int) (world : World) :
    (∃ record looked after, lookup owner deviceId world = (.ok record, looked) ∧
      readRegistry owner deviceId now world = (.ok (some { record, checkedAt := now }), after)) ∨
    (∃ reason after, readRegistry owner deviceId now world = (.error reason, after) ∧
      ((∀ record, (lookup owner deviceId world).1 ≠ .ok record) ∨
        ∃ reply ∈ world.script, (writeLost reply.answer).isSome = true)) ∨
    (∃ after, readRegistry owner deviceId now world = (.crash, after)) := by
  have looks := reads_lookup owner deviceId world
  rw [readRegistry, Async.bind_run]
  rcases looked : lookup owner deviceId world with ⟨record | reason | _, next⟩
  · rw [looked] at looks
    simp only [setRegistry, Async.bind_run, Async.modify_run]
    rcases wrote : writeStore (fun store => store.setRegistry (registryMetaKey owner deviceId)
        (some { record, checkedAt := now }))
      (setRegistry (registryMetaKey owner deviceId) (some { record, checkedAt := now }) next).2
      with ⟨_ | reason | _, after⟩
    · simp only [setRegistry, Async.modify_run] at wrote
      exact .inl ⟨record, next, after, rfl, by simp only [wrote, Async.pure_run]⟩
    · obtain ⟨reply, isIn, isLost⟩ := writeStore_rejected wrote
      simp only [setRegistry, Async.modify_run] at wrote
      refine .inr (.inl ⟨reason, after, by simp only [wrote], .inr ⟨reply, ?_, isLost⟩⟩)
      exact looks.2.2.2 reply isIn
    · simp only [setRegistry, Async.modify_run] at wrote
      exact .inr (.inr ⟨after, by simp only [wrote]⟩)
  · exact .inr (.inl ⟨reason, next, rfl, .inl (by rintro _ ⟨⟩)⟩)
  · exact .inr (.inr ⟨next, rfl⟩)

/-- **What `#registryEntry` answers**: what is held, within the hour; what was read; or, if the
read was rejected, what is held, within the day. -/
theorem registryEntry_answers {out : Option RegistryCacheEntry}
    (ran : registryEntry owner deviceId world = (.ok out, after)) :
    let key := registryMetaKey owner deviceId
    (due world key = false ∧ out = held world key) ∨
    (due world key = true ∧
      out = (held world key).filter (fun entry =>
        world.clock - entry.checkedAt < registryMaxStaleMs) ∧
      (lookupMade owner deviceId world = none ∨
        ∃ reply ∈ world.script, (writeLost reply.answer).isSome = true)) ∨
    (due world key = true ∧ ∃ record madeAt, world.clock ≤ madeAt ∧
      out = some { record, checkedAt := world.clock } ∧
      lookupMade owner deviceId world = some { owner, deviceId, madeAt, record }) := by
  intro key
  simp only [registryEntry, now, Async.bind_run, Async.get_run, Async.pure_run] at ran
  rcases saved : savedEntry (registryMetaKey owner deviceId) world with
    ⟨entry | reason | _, read⟩ <;> simp only [saved] at ran
  · have isHeld := (savedEntry_ok saved).1
    have reads := reads_savedEntry (registryMetaKey owner deviceId) world
    rw [saved] at reads
    split_ifs at ran with fresh
    · cases ran
      refine .inl ⟨?_, isHeld⟩
      rw [due, ← isHeld, fresh]
      rfl
    have isDue : due world (registryMetaKey owner deviceId) = true := by
      rw [due, ← isHeld, Bool.not_eq_true] at *
      rw [fresh]
      rfl
    have made := lookupMade_of_saved isDue saved
    simp only [Async.tryCatch] at ran
    rcases readRegistry_ends owner deviceId world.clock read with
      ⟨record, next, done, looked, reading⟩ | ⟨reason, failed, reading, why⟩ |
      ⟨dead, reading⟩ <;> simp only [reading] at ran
    · cases ran
      rw [looked] at made
      exact .inr (.inr ⟨isDue, record, read.clock, reads.2.2.1, rfl, made⟩)
    · cases ran
      refine .inr (.inl ⟨isDue, isHeld ▸ rfl, ?_⟩)
      rcases why with noRecord | ⟨reply, isIn, isLost⟩
      · left
        rw [made]
        rcases looked : lookup owner deviceId read with ⟨record | reason | _, next⟩
        · exact absurd (congrArg Prod.fst looked) (noRecord record)
        · rfl
        · rfl
      · exact .inr ⟨reply, reads.2.2.2 reply isIn, isLost⟩
    · cases ran
  · cases ran
  · cases ran

theorem sound_readRegistry {now : Int} (sound : Sound lookups world)
    (backed : ∀ record looked, lookup owner deviceId world = (.ok record, looked) →
      ∃ lookup ∈ lookups,
      Backs lookup (registryMetaKey owner deviceId) { record, checkedAt := now })
    :
    Sound lookups (readRegistry owner deviceId now world).2 := by
  have looks := reads_lookup owner deviceId world
  have lookedSound := sound_of_same (congrArg CertificateCache.registry looks.1)
    (congrArg StateStore.registry looks.2.1) sound
  rw [readRegistry, Async.bind_run]
  rcases looked : lookup owner deviceId world with ⟨record | reason | _, next⟩ <;>
    rw [looked] at lookedSound
  · have isBacked : ∀ kept ∈ some (RegistryCacheEntry.mk record now),
        ∃ lookup ∈ lookups, Backs lookup (registryMetaKey owner deviceId) kept := by
      rintro kept ⟨⟩
      exact backed record next looked
    have returns : Keeps (Preserving (Sound lookups))
        (pure (some { record, checkedAt := now }) : Session (Option RegistryCacheEntry)) :=
      Keeps.pure _
    have writes := Keeps.bind (sound_setRegistry isBacked) fun _ =>
      Keeps.bind (sound_writeRegistry isBacked) fun _ => returns
    exact writes next lookedSound
  · exact lookedSound
  · exact lookedSound

/-- The answers held stay backed by the lookups, with the one that the call makes. -/
theorem sound_registryEntry (sound : Sound lookups world) :
    Sound (lookups ++ (lookupMade owner deviceId world).toList)
      (registryEntry owner deviceId world).2 := by
  have reads := reads_savedEntry (registryMetaKey owner deviceId) world
  have kept := sound_of_same (congrArg CertificateCache.registry reads.1)
    (congrArg StateStore.registry reads.2.1) (sound.more (lookupMade owner deviceId world).toList)
  simp only [registryEntry, now, Async.bind_run, Async.get_run, Async.pure_run]
  rcases saved : savedEntry (registryMetaKey owner deviceId) world with
    ⟨entry | reason | _, read⟩ <;> rw [saved] at reads kept
  · have isHeld := (savedEntry_ok saved).1
    simp only
    split_ifs with fresh
    · exact kept
    have isDue : due world (registryMetaKey owner deviceId) = true := by
      rw [due, ← isHeld, Bool.not_eq_true] at *
      rw [fresh]
      rfl
    have backed : ∀ record looked, lookup owner deviceId read = (.ok record, looked) →
        ∃ lookup ∈ lookups ++ (lookupMade owner deviceId world).toList,
          Backs lookup (registryMetaKey owner deviceId) { record, checkedAt := world.clock } := by
      intro record looked isLooked
      have made := lookupMade_of_saved isDue saved
      rw [isLooked] at made
      refine ⟨{ owner, deviceId, madeAt := read.clock, record }, ?_, rfl, rfl, reads.2.2.1⟩
      rw [made]
      exact List.mem_append_right _ (List.mem_singleton.mpr rfl)
    have readSound := sound_readRegistry kept backed
    rw [tryCatch_run]
    rcases reading : readRegistry owner deviceId world.clock read with
      ⟨record | reason | _, next⟩ <;> rw [reading] at readSound
    · exact readSound
    · exact readSound
    · exact readSound
  · exact kept
  · exact kept

theorem checkSignature_ends (options : Options) (cert : MlsDeviceCertificate) (world : World) :
    ∃ ok checked, checkSignature options cert world = (.ok ok, checked) ∧
      checked.certs.registry = world.certs.registry ∧ checked.store = world.store ∧
      checked.script = world.script ∧ checked.clock = world.clock := by
  simp only [checkSignature, Async.bind_run, Async.get_run]
  cases world.certs.sigOk (certificateDigest cert) with
  | some ok => exact ⟨ok, world, rfl, rfl, rfl, rfl, rfl⟩
  | none => exact ⟨_, _, rfl, rfl, rfl, rfl, rfl⟩

theorem sound_statusV1 (cert : MlsDeviceCertificate) :
    Keeps (Preserving (Sound lookups)) (statusV1 cert) := by
  refine Keeps.bind Keeps.get fun world => ?_
  have remembers (status : MlsCertificateStatus) :
      Keeps (Preserving (Sound lookups)) (remember (certificateDigest cert) status) :=
    Keeps.modify fun _ => sound_of_same rfl rfl
  split
  · exact Keeps.pure _
  refine Keeps.bind (keeps_readWorld sound_tick _) fun saved => ?_
  split_ifs
  · exact Keeps.bind (remembers _) fun _ => Keeps.pure _
  refine Keeps.bind (keeps_ask sound_tick _) fun status => ?_
  cases status with
  | valid =>
    refine Keeps.bind (keeps_write sound_tick fun _ => sound_of_same rfl rfl) fun _ => ?_
    exact Keeps.bind (remembers _) fun _ => Keeps.pure _
  | invalid => exact Keeps.bind (remembers _) fun _ => Keeps.pure _
  | unknown => exact Keeps.pure _

theorem sound_statusV2 (sound : Sound lookups world) :
    Sound (lookups ++ (statusLookup options cert world).toList)
      (statusV2 options cert world).2 := by
  unfold statusV2 statusLookup
  cases options.registry with
  | none => exact sound.more _
  | some =>
    cases cert.authorityKey.filter (· ≠ "") with
    | none => exact sound.more _
    | some =>
      obtain ⟨ok, checked, checks, sameCache, sameStore, -, -⟩ :=
        checkSignature_ends options cert world
      have checkedSound := sound_of_same sameCache (congrArg StateStore.registry sameStore) sound
      simp only [Async.bind_run, checks]
      cases ok with
      | false => exact checkedSound.more _
      | true =>
        have answered : Sound
            (lookups ++ (lookupMade (lower cert.wallet) cert.deviceId checked).toList)
            (registryEntry (lower cert.wallet) cert.deviceId checked).2 :=
          sound_registryEntry checkedSound
        simp only [Bool.not_true, Bool.false_eq_true, if_false, now, Async.bind_run,
          Async.get_run, Async.pure_run]
        rcases entered : registryEntry (lower cert.wallet) cert.deviceId checked with
          ⟨entry | reason | _, read⟩ <;> rw [entered] at answered
        · exact answered
        · exact answered
        · exact answered

theorem sound_status (sound : Sound lookups world) :
    Sound (lookups ++ (if cert.v = 2 then (statusLookup options cert world).toList else []))
      (status options cert world).2 := by
  have judged : Sound
      (lookups ++ (if cert.v = 2 then (statusLookup options cert world).toList else []))
      (judge options cert world).2 := by
    unfold judge
    split_ifs
    · exact sound_statusV2 sound
    · rw [List.append_nil]
      exact sound_statusV1 cert world sound
  rw [status, Async.bind_run]
  rcases ran : judge options cert world with ⟨result | reason | _, after⟩ <;> rw [ran] at judged
  · exact sound_of_same rfl rfl judged
  · exact judged
  · exact judged

theorem sound_forgetRegistry (owner deviceId : String) :
    Keeps (Preserving (Sound lookups)) (forgetRegistry owner deviceId) :=
  Keeps.bind (sound_setRegistry nofun) fun _ => sound_writeRegistry nofun

/-- **Every answer that a peer holds is backed, in every run.** -/
theorem sound_step {peer : Peer} (sound : Sound peer.lookups peer.world) (move : Move) :
    Sound (peer.step options move).lookups (peer.step options move).world := by
  cases move with
  | chain | wait => exact sound_of_same rfl rfl sound
  | status cert script =>
    have calledSound : Sound peer.lookups (peer.called script) := sound_of_same rfl rfl sound
    exact sound_status calledSound
  | forgetRegistry owner deviceId script =>
    exact sound_forgetRegistry owner deviceId (peer.called script) (sound_of_same rfl rfl sound)
  | restart =>
    intro key entry isHeld
    rcases isHeld with isCached | isStored
    · cases isCached
    · exact sound key entry (.inr isStored)

theorem sound_reached (options : Options) (world : World) (moves : List Move) :
    Sound (Peer.reached options world moves).lookups (Peer.reached options world moves).world := by
  have begins : Sound (Peer.start world).lookups (Peer.start world).world := by
    rintro key entry (isCached | isStored)
    · cases isCached
    · cases isStored
  have preserved : ∀ (peer : Peer) (move : Move), Sound peer.lookups peer.world →
      Sound (peer.step options move).lookups (peer.step options move).world :=
    fun _ move sound => sound_step sound move
  exact Along.invariant_reached preserved begins moves

/-! ## What a valid verdict rests on -/

theorem registryKeyIsValid_earlier {record : MlsDeviceRecord} {keyHex : String}
    {early late : Int} (isValid : registryKeyIsValid record keyHex late = true)
    (earlier : early ≤ late) : registryKeyIsValid record keyHex early = true := by
  unfold registryKeyIsValid at isValid ⊢
  split_ifs at isValid ⊢ with revoked
  simp only [Bool.or_eq_true, Bool.and_eq_true, decide_eq_true_eq] at isValid ⊢
  rcases isValid with current | ⟨previous, inGrace⟩
  · exact .inl current
  · exact .inr ⟨previous, lt_of_le_of_lt earlier inGrace⟩

theorem verdict_valid {authorityKey : String} {now : Int}
    (isValid : verdict cert authorityKey entry now = .valid) :
    ∃ record checkedAt, entry = some { record := some record, checkedAt } ∧
      registryKeyIsValid record authorityKey now = true := by
  unfold verdict at isValid
  split at isValid
  · cases isValid
  · split_ifs at isValid
  · rename_i record checkedAt
    split_ifs at isValid with valid
    exact ⟨record, checkedAt, rfl, valid⟩

/-- **How a status call comes to `valid`**: it read the registry's answer for the device, and the
certificate's key is valid under it. -/
theorem status_valid (v2 : cert.v = 2) (ran : status options cert world = (.ok .valid, after)) :
    ∃ authorityKey checked record checkedAt read, cert.authorityKey = some authorityKey ∧
      registryEntry (lower cert.wallet) cert.deviceId checked =
        (.ok (some { record := some record, checkedAt }), read) ∧
      registryKeyIsValid record authorityKey after.clock = true ∧
      statusLookup options cert world = lookupMade (lower cert.wallet) cert.deviceId checked ∧
      held checked = held world ∧ checked.script = world.script ∧
      checked.clock = world.clock ∧ read.clock = after.clock := by
  cases configured : options.registry with
  | none =>
    simp only [status, judge, v2, if_true, statusV2, configured, Async.bind_run, Async.pure_run,
      emit, Async.modify_run] at ran
    cases ran
  | some =>
    cases isKey : cert.authorityKey.filter (· ≠ "") with
    | none =>
      simp only [status, judge, v2, if_true, statusV2, configured, isKey, Async.bind_run,
        Async.pure_run, emit, Async.modify_run] at ran
      cases ran
    | some authorityKey =>
      obtain ⟨ok, checked, checks, sameCache, sameStore, sameScript, sameClock⟩ :=
        checkSignature_ends options cert world
      have sameHeld : held checked = held world := by
        funext key
        simp only [held, sameCache, sameStore]
      cases ok with
      | false =>
        simp only [status, judge, v2, if_true, statusV2, configured, isKey, Async.bind_run,
          checks, Bool.not_false, Async.pure_run, emit, Async.modify_run] at ran
        cases ran
      | true =>
        have isLookup : statusLookup options cert world =
            lookupMade (lower cert.wallet) cert.deviceId checked := by
          simp only [statusLookup, configured, isKey, checks]
        simp only [status, judge, v2, if_true, statusV2, configured, isKey, Async.bind_run,
          checks, Bool.not_true, Bool.false_eq_true, if_false] at ran
        rcases entered : registryEntry (lower cert.wallet) cert.deviceId checked with
          ⟨entry | reason | _, read⟩ <;> simp only [entered] at ran
        · simp only [now, Async.bind_run, Async.get_run, Async.pure_run, emit,
            Async.modify_run] at ran
          have isVerdict := Outcome.ok.inj (congrArg Prod.fst ran)
          obtain ⟨record, checkedAt, rfl, valid⟩ := verdict_valid isVerdict
          have isAfter : read.clock = after.clock :=
            congrArg (fun result => World.clock result.2) ran
          exact ⟨authorityKey, checked, record, checkedAt, read,
            (Option.filter_eq_some_iff.mp isKey).1, entered, isAfter ▸ valid, isLookup, sameHeld,
            sameScript, sameClock, isAfter⟩
        · cases ran
        · cases ran

end

/-- **A revocation takes effect in bounded time.**  After any history of the chain, of failing
and lagging lookups, of restarts and of calls: if `status` calls a version 2 certificate valid,
then a lookup for its device returned a record under which the certificate's key is valid, both at
the time of the call and when it resolves, and that lookup was made less than a day before the
call; less than an hour, if none was due, or if the call's own lookup was answered (and the store
did not reject a write of the call). -/
theorem revocation_takes_effect (options : Options) (world : World) (moves : List Move)
    (cert : MlsDeviceCertificate) (script : List Reply) (after : World) (v2 : cert.v = 2)
    (ran : status options cert ((Peer.reached options world moves).called script) =
      (.ok .valid, after)) :
    let peer := Peer.reached options world moves
    let called := peer.called script
    let key := registryMetaKey (lower cert.wallet) cert.deviceId
    called.clock ≤ after.clock ∧
    ∃ authorityKey, cert.authorityKey = some authorityKey ∧
    ∃ lookup ∈ (peer.step options (.status cert script)).lookups, ∃ record,
      registryMetaKey lookup.owner lookup.deviceId = key ∧ lookup.record = some record ∧
      registryKeyIsValid record authorityKey called.clock = true ∧
      registryKeyIsValid record authorityKey after.clock = true ∧
      called.clock - registryMaxStaleMs < lookup.madeAt ∧
      (due called key = false ∨
        (statusLookup options cert called).isSome = true ∧
          (∀ reply ∈ script, writeLost reply.answer = none) →
        called.clock - registryTtlMs < lookup.madeAt) := by
  intro peer called key
  have sound := sound_reached options world moves
  obtain ⟨authorityKey, checked, record, checkedAt, read, isKey, entered, valid, isLookup,
    sameHeld, sameScript, sameClock, sameAfter⟩ := status_valid v2 ran
  have later : called.clock ≤ after.clock := by
    have isLater := later_of_keeps (later_registryEntry (lower cert.wallet) cert.deviceId) checked
    rw [entered, sameClock] at isLater
    exact sameAfter ▸ isLater
  have sameDue : due checked key = due called key := by rw [due, due, sameHeld, sameClock]
  have stepLookups : (peer.step options (.status cert script)).lookups =
      peer.lookups ++ (lookupMade (lower cert.wallet) cert.deviceId checked).toList := by
    show peer.lookups ++ (if cert.v = 2 then (statusLookup options cert called).toList else []) = _
    rw [if_pos v2, isLookup]
  have validCall : registryKeyIsValid record authorityKey called.clock = true :=
    registryKeyIsValid_earlier valid later
  refine ⟨later, authorityKey, isKey, ?_⟩
  rw [stepLookups]
  have heldSound : ∀ entry, held called key = some entry →
      ∃ lookup ∈ peer.lookups, Backs lookup key entry := by
    intro entry isHeld
    have calledSound : Sound peer.lookups called := sound_of_same rfl rfl sound
    exact calledSound.held isHeld
  have clockChecked : checked.clock = called.clock := sameClock
  rcases registryEntry_answers entered with
    ⟨notDue, isOut⟩ | ⟨isDue, isOut, why⟩ | ⟨isDue, record', madeAt, late, isOut, made⟩
  · have isHeld : held called key = some { record := some record, checkedAt } := by
      rw [← sameHeld]
      exact isOut.symm
    obtain ⟨lookup, isIn, isDevice, isRecord, isMade⟩ := heldSound _ isHeld
    have fresh : called.clock - checkedAt < registryTtlMs := by
      have notDueCalled : due called key = false := sameDue ▸ notDue
      rw [due, isHeld, Option.any_some, Bool.not_eq_false', decide_eq_true_eq] at notDueCalled
      exact notDueCalled
    simp only at isMade
    refine ⟨lookup, List.mem_append_left _ isIn, record, isDevice, isRecord, validCall, valid,
      ?_, fun _ => ?_⟩
    · unfold registryMaxStaleMs
      unfold registryTtlMs at fresh
      omega
    · omega
  · obtain ⟨isHeld, recent⟩ := Option.filter_eq_some_iff.mp isOut.symm
    rw [sameHeld] at isHeld
    obtain ⟨lookup, isIn, isDevice, isRecord, isMade⟩ := heldSound _ isHeld
    simp only [decide_eq_true_eq, clockChecked] at recent isMade
    refine ⟨lookup, List.mem_append_left _ isIn, record, isDevice, isRecord, validCall, valid,
      by omega, fun answered => ?_⟩
    rcases answered with notDue | ⟨isMade, works⟩
    · have isDueCalled : due called key = true := sameDue ▸ isDue
      cases notDue ▸ isDueCalled
    rcases why with noLookup | ⟨reply, isReply, isLost⟩
    · rw [isLookup, noLookup] at isMade
      cases isMade
    · rw [sameScript] at isReply
      cases works reply isReply ▸ isLost
  obtain ⟨rfl, rfl⟩ := RegistryCacheEntry.mk.inj (Option.some.inj isOut)
  rw [made]
  refine ⟨_, List.mem_append_right _ (List.mem_singleton.mpr rfl), record, rfl, rfl, validCall,
    valid, ?_, fun _ => ?_⟩
  · unfold registryMaxStaleMs
    show _ < madeAt
    omega
  · unfold registryTtlMs
    show _ < madeAt
    omega

/-- A chain on which the device `d` of wallet `0xa` has the authority key `"11"`. -/
def sampleRegistry (revokedAtMs : Int) : Registry := fun owner deviceId =>
  if owner = "0xa" ∧ deviceId = "d" then
    some
      { authorityKey := "11", previousKey := "", previousValidUntilMs := 0, generation := 0,
        registeredAtMs := 0, revokedAtMs }
  else none

/-- A peer judges a certificate, the device is revoked, and the chain cannot be read: the peer
still calls the certificate valid two hours later, by a lookup that is less than a day old. -/
theorem outage_serves_old_answer :
    let moves : List Move :=
      [.chain (sampleRegistry 0),
        .status (Network.smallCertificate "11") [⟨5, .done⟩, ⟨5, .record 0⟩, ⟨5, .done⟩],
        .chain (sampleRegistry 20), .wait (2 * 60 * 60 * 1000)]
    let peer := Peer.reached .small .small moves
    let called := peer.called [⟨5, .rejected false⟩]
    (status .small (Network.smallCertificate "11") called).1 = .ok .valid ∧
      ∃ lookup ∈ (peer.step .small
          (.status (Network.smallCertificate "11") [⟨5, .rejected false⟩])).lookups,
        called.clock - registryMaxStaleMs < lookup.madeAt := by
  intro moves peer called
  have isValid : (status .small (Network.smallCertificate "11") called).1 = .ok .valid := by
    decide +kernel
  obtain ⟨-, authorityKey, -, lookup, isIn, record, -, -, -, -, recent, -⟩ :=
    revocation_takes_effect .small .small moves (Network.smallCertificate "11")
      [⟨5, .rejected false⟩] _ rfl (Prod.ext isValid rfl)
  exact ⟨isValid, lookup, isIn, recent⟩

end MessagingStack.Sdk.CertificateCache

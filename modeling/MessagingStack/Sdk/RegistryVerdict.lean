import MessagingStack.Base.Runs
import MessagingStack.Sdk.CertificateCache

/-!
# When a registered key is called invalid

Peers judge each other's version 2 certificates by the registry on the chain, through a cache.
This module settles when a peer calls a key invalid although it is, at that moment, the current
authority key of an active device.
-/

namespace MessagingStack.Sdk.CertificateCache

open Session

/-! ## One call -/

/-- The registry's answer that a peer holds: the one in memory, else the saved one. -/
def held (world : World) (key : String) : Option RegistryCacheEntry :=
  match world.certs.registry key with
  | some entry => some entry
  | none => world.store.registry key

/-- The replies that are left when a status call reads the chain: the saved answer is read
first when there is none in memory. -/
def chainScript (world : World) (key : String) : List Reply :=
  match world.certs.registry key with
  | some _ => world.script
  | none => world.script.tail

/-- The registry cannot be read, or its answer cannot be written back. -/
def unread : List Reply → Bool
  | { answer := .rejected _, .. } :: _ => true
  | { answer := .record _, .. } :: { answer := .failed _, .. } :: _ => true
  | _ => false

theorem savedEntry_ok {key : String} {world after : World} {entry : Option RegistryCacheEntry}
    (ran : savedEntry key world = (.ok entry, after)) :
    entry = held world key ∧ after.script = chainScript world key ∧
      after.chain = world.chain ∧ after.past = world.past := by
  simp only [savedEntry, Async.bind_run, Async.get_run] at ran
  unfold held chainScript
  cases inMemory : world.certs.registry key with
  | some =>
    simp only [inMemory, Async.pure_run] at ran
    cases ran
    exact ⟨rfl, rfl, rfl, rfl⟩
  | none =>
    simp only [inMemory, readStore, readWorld, ask, Async.bind_run, Async.get_run] at ran
    rcases script : world.script with _ | ⟨⟨elapsed, answer⟩, rest⟩ <;> simp only [script] at ran
    · cases ran
    · cases answer <;> simp at ran
      obtain ⟨rfl, rfl⟩ := ran
      exact ⟨rfl, rfl, rfl, rfl⟩

theorem readRegistry_cases (owner deviceId : String) (now : Int) (world : World) :
    (∃ after, unread world.script = true ∧
      readRegistry owner deviceId now world = (.error .rejected, after)) ∨
    (∃ after reply lag, unread world.script = false ∧ reply ∈ world.script ∧
      reply.answer = .record lag ∧
      readRegistry owner deviceId now world =
        (.ok (some
          { record := ((world.chain :: world.past)[lag]?.getD world.chain) owner deviceId
            checkedAt := now }), after)) ∨
    (∃ after, readRegistry owner deviceId now world = (.crash, after)) := by
  simp only [readRegistry, lookup, ask, Async.bind_run, Async.get_run, setRegistry,
    writeStore, write, writeOr, writeLost, Async.modify_run]
  rcases script : world.script with _ | ⟨⟨elapsed, answer⟩, rest⟩
  · exact .inr (.inr ⟨_, rfl⟩)
  cases answer <;> simp [unread]
  next lag =>
    rcases rest with _ | ⟨⟨elapsed', answer'⟩, rest'⟩
    · simp
    · cases answer' <;> simp

/-- **What a peer answers from.**  Within the hour it is the answer it holds; when the chain
cannot be read it is that answer again, within a day; else it is the chain's. -/
theorem registryEntry_ok {owner deviceId : String} {world after : World}
    {out : Option RegistryCacheEntry}
    (ran : registryEntry owner deviceId world = (.ok out, after))
    (upToDate : ∀ reply ∈ world.script, ∀ lag, reply.answer = .record lag → lag = 0) :
    let key := registryMetaKey owner deviceId
    let within := fun (limit : Int) => (held world key).any fun entry =>
      world.clock - entry.checkedAt < limit
    (within registryTtlMs = true ∧ out = held world key) ∨
    (within registryTtlMs = false ∧ unread (chainScript world key) = true ∧
      out = (held world key).filter fun entry =>
        world.clock - entry.checkedAt < registryMaxStaleMs) ∨
    (within registryTtlMs = false ∧ unread (chainScript world key) = false ∧
      out = some { record := world.chain owner deviceId, checkedAt := world.clock }) := by
  intro key within
  simp only [registryEntry, now, Async.bind_run, Async.get_run, Async.pure_run] at ran
  rcases saved : savedEntry (registryMetaKey owner deviceId) world with
    ⟨entry | reason | _, read⟩ <;> simp only [saved] at ran
  · obtain ⟨rfl, script, chain, past⟩ := savedEntry_ok saved
    by_cases fresh : within registryTtlMs = true
    · have freshEntry : ((held world (registryMetaKey owner deviceId)).any fun entry =>
          world.clock - entry.checkedAt < registryTtlMs) = true := fresh
      cases if_pos freshEntry ▸ ran
      exact .inl ⟨fresh, rfl⟩
    have staleEntry : ¬ ((held world (registryMetaKey owner deviceId)).any fun entry =>
        world.clock - entry.checkedAt < registryTtlMs) = true := fresh
    rw [if_neg staleEntry] at ran
    simp only [Async.tryCatch] at ran
    have old : within registryTtlMs = false := by simpa using fresh
    rcases readRegistry_cases owner deviceId world.clock read with
      ⟨failed, isUnread, reading⟩ | ⟨done, reply, lag, isRead, served, isRecord, reading⟩ |
      ⟨dead, reading⟩ <;> simp only [reading] at ran
    · cases ran
      rw [script] at isUnread
      exact .inr (.inl ⟨old, isUnread, rfl⟩)
    · cases ran
      rw [script] at isRead
      -- the reply that answered is one of the call's replies, so it does not lag
      have inScript : reply ∈ world.script := by
        rw [script] at served
        unfold chainScript at served
        split at served
        · exact served
        · exact List.mem_of_mem_tail served
      obtain rfl := upToDate reply inScript lag isRecord
      refine .inr (.inr ⟨old, isRead, ?_⟩)
      simp [chain]
    · cases ran
  · cases ran
  · cases ran

/-- The signatures a peer remembers are the ones it checked. -/
def Consistent (wasm : Wasm) (world : World) : Prop :=
  ∀ cert ok, world.certs.sigOk cert = some ok → ok = wasm.mlsVerifyCertificateV2 cert

/-- The peer has a registry to ask and answers from an answer that it holds, which does not list
the certificate's key: the answer is less than an hour old, or the chain cannot be read now and
it is less than a day old. -/
def Misled (options : Options) (world : World) (cert : MlsDeviceCertificate)
    (authorityKey : String) (now : Int) : Prop :=
  options.registry.isSome = true ∧
  ∃ entry, held world (registryMetaKey (lower cert.wallet) cert.deviceId) = some entry ∧
    verdict cert authorityKey (some entry) now = .invalid ∧
    (world.clock - entry.checkedAt < registryTtlMs ∨
      (unread (chainScript world (registryMetaKey (lower cert.wallet) cert.deviceId)) = true ∧
        world.clock - entry.checkedAt < registryMaxStaleMs))

theorem checkSignature_run {options : Options} {cert : MlsDeviceCertificate} {world : World}
    (exact : certificateDigest cert = cert)
    (consistent : Consistent options.wasm world) :
    ∃ after, checkSignature options cert world =
        (.ok (options.wasm.mlsVerifyCertificateV2 cert), after) ∧
      after.certs.registry = world.certs.registry ∧ after.store = world.store ∧
      after.script = world.script ∧ after.clock = world.clock ∧ after.chain = world.chain := by
  simp only [checkSignature, exact, Async.bind_run, Async.get_run]
  cases known : world.certs.sigOk cert with
  | some ok =>
    obtain rfl := consistent cert ok known
    exact ⟨world, by simp, rfl, rfl, rfl, rfl, rfl⟩
  | none => exact ⟨_, rfl, rfl, rfl, rfl, rfl, rfl⟩

/-- The verdict on a current key is `invalid` exactly when it comes from a held answer that says
so. -/
theorem verdict_iff {options : Options} {registry : RegistryOptions}
    {cert : MlsDeviceCertificate} {authorityKey : String} {record : MlsDeviceRecord}
    {world : World} {out : Option RegistryCacheEntry} {time : Int}
    (configured : options.registry = some registry)
    (active : record.revokedAtMs = 0)
    (current : registryKey authorityKey = record.authorityKey)
    (answered :
      let entry := held world (registryMetaKey (lower cert.wallet) cert.deviceId)
      let within := fun (limit : Int) => entry.any fun entry =>
        world.clock - entry.checkedAt < limit
      let rest := chainScript world (registryMetaKey (lower cert.wallet) cert.deviceId)
      (within registryTtlMs = true ∧ out = entry) ∨
      (within registryTtlMs = false ∧ unread rest = true ∧
        out = entry.filter fun entry => world.clock - entry.checkedAt < registryMaxStaleMs) ∨
      (within registryTtlMs = false ∧ unread rest = false ∧
        out = some { record := some record, checkedAt := world.clock })) :
    verdict cert authorityKey out time ≠ .invalid ↔
      ¬ Misled options world cert authorityKey time := by
  unfold Misled
  simp only [configured, Option.isSome_some, true_and]
  cases isHeld : held world (registryMetaKey (lower cert.wallet) cert.deviceId) with
  | none =>
    simp only [isHeld, Option.any_none, Option.filter_none, Bool.false_eq_true, false_and,
      true_and, false_or] at answered
    have notInvalid : verdict cert authorityKey out time ≠ .invalid := by
      rcases answered with ⟨-, rfl⟩ | ⟨-, rfl⟩
      · simp [verdict]
      · simp [verdict, registryKeyIsValid_current active current]
    simp [notInvalid]
  | some entry =>
    simp only [isHeld, Option.any_some, decide_eq_true_eq, decide_eq_false_iff_not] at answered
    rcases answered with ⟨fresh, rfl⟩ | ⟨old, isUnread, rfl⟩ | ⟨old, isRead, rfl⟩
    · simp [fresh]
    · by_cases stale : world.clock - entry.checkedAt < registryMaxStaleMs
      · simp [Option.filter, isUnread, stale]
      · simp [Option.filter, isUnread, stale, old, verdict]
    · simp [old, isRead, verdict, registryKeyIsValid_current active current]

theorem status_current {options : Options} {cert : MlsDeviceCertificate} {authorityKey : String}
    {record : MlsDeviceRecord} {world after : World} {result : MlsCertificateStatus}
    (consistent : Consistent options.wasm world)
    (v2 : cert.v = 2)
    (isKey : cert.authorityKey = some authorityKey)
    (nonempty : authorityKey ≠ "")
    (signed : options.wasm.mlsVerifyCertificateV2 cert = true)
    (registered : world.chain (lower cert.wallet) cert.deviceId = some record)
    (active : record.revokedAtMs = 0)
    (current : registryKey authorityKey = record.authorityKey)
    (upToDate : ∀ reply ∈ world.script, ∀ lag, reply.answer = .record lag → lag = 0)
    (ran : status options cert world = (.ok result, after)) :
    result ≠ .invalid ↔ ¬ Misled options world cert authorityKey after.clock := by
  have exact : certificateDigest cert = cert := by
    cases cert
    simp_all [certificateDigest]
  have hasKey : cert.authorityKey.filter (· ≠ "") = some authorityKey := by simp [isKey, nonempty]
  cases configured : options.registry with
  | none =>
    simp only [status, judge, v2, ↓reduceIte, statusV2, configured, hasKey, Async.bind_run,
      Async.pure_run, emit, Async.modify_run] at ran
    cases ran
    simp [Misled, configured]
  | some =>
    obtain ⟨checked, checks, sameCache, sameStore, sameScript, sameClock, sameChain⟩ :=
      checkSignature_run exact consistent
    simp only [status, judge, v2, ↓reduceIte, statusV2, configured, hasKey, Async.bind_run, checks,
      signed, Bool.not_true, Bool.false_eq_true] at ran
    rcases entered : registryEntry (lower cert.wallet) cert.deviceId checked with
      ⟨out | reason | _, read⟩ <;> simp only [entered] at ran
    · simp only [now, Async.bind_run, Async.get_run, Async.pure_run, emit, Async.modify_run] at ran
      cases ran
      have sameHeld : held checked = held world := by
        funext key
        simp [held, sameCache, sameStore]
      have sameRest : chainScript checked = chainScript world := by
        funext key
        simp [chainScript, sameCache, sameScript]
      have answered := registryEntry_ok entered (by rw [sameScript]; exact upToDate)
      simp only [sameHeld, sameRest, sameClock, sameChain, registered] at answered
      exact verdict_iff configured active current answered
    · cases ran
    · cases ran

section

open Async

variable {options : Options}

theorem consistent_of_sigOk {wasm : Wasm} {before after : World}
    (same : after.certs.sigOk = before.certs.sigOk) :
    Preserving (Consistent wasm) before after := by
  intro consistent cert ok known
  exact consistent cert ok (same ▸ known)

theorem consistent_tick {wasm : Wasm} (world : World) (reply : Reply) (rest : List Reply)
    (_ : world.script = reply :: rest) :
    Preserving (Consistent wasm) world (tick world reply rest) :=
  consistent_of_sigOk rfl

theorem consistent_writeStore {wasm : Wasm} (change : StateStore → StateStore) :
    Keeps (Preserving (Consistent wasm)) (writeStore change) :=
  keeps_write consistent_tick fun _ => consistent_of_sigOk rfl

theorem consistent_emit {wasm : Wasm} (event : Event) :
    Keeps (Preserving (Consistent wasm)) (emit event) :=
  Keeps.modify fun _ => consistent_of_sigOk rfl

theorem consistent_statusV1 (cert : MlsDeviceCertificate) :
    Keeps (Preserving (Consistent options.wasm)) (statusV1 cert) := by
  refine Keeps.bind Keeps.get fun world => ?_
  have remembers (status : MlsCertificateStatus) :
      Keeps (Preserving (Consistent options.wasm)) (remember (certificateDigest cert) status) :=
    Keeps.modify fun _ => consistent_of_sigOk rfl
  split
  · exact Keeps.pure _
  refine Keeps.bind (keeps_readWorld consistent_tick _) fun saved => ?_
  split_ifs
  · exact Keeps.bind (remembers _) fun _ => Keeps.pure _
  refine Keeps.bind (keeps_ask consistent_tick _) fun status => ?_
  cases status with
  | valid =>
    exact Keeps.bind (consistent_writeStore _) fun _ =>
      Keeps.bind (remembers _) fun _ => Keeps.pure _
  | invalid => exact Keeps.bind (remembers _) fun _ => Keeps.pure _
  | unknown => exact Keeps.pure _

theorem consistent_registryEntry (owner deviceId : String) :
    Keeps (Preserving (Consistent options.wasm)) (registryEntry owner deviceId) := by
  refine Keeps.bind (Keeps.bind Keeps.get fun _ => Keeps.pure _) fun time => ?_
  refine Keeps.bind (Keeps.bind Keeps.get fun world => ?_) fun entry => ?_
  · split
    · exact Keeps.pure _
    · exact keeps_readWorld consistent_tick _
  split_ifs
  · exact Keeps.pure _
  refine Keeps.tryCatch ?_ fun _ => Keeps.pure _
  refine Keeps.bind ?_ fun record => ?_
  · exact Keeps.bind (keeps_ask consistent_tick _) fun _ =>
      Keeps.bind Keeps.get fun _ => Keeps.pure _
  · refine Keeps.bind (Keeps.modify fun _ => consistent_of_sigOk rfl) fun _ => ?_
    exact Keeps.bind (consistent_writeStore _) fun _ => Keeps.pure _

theorem consistent_checkSignature {cert : MlsDeviceCertificate}
    (exact : certificateDigest cert = cert) :
    Keeps (Preserving (Consistent options.wasm)) (checkSignature options cert) := by
  refine Keeps.bind Keeps.get fun world => ?_
  split
  · exact Keeps.pure _
  refine Keeps.bind (Keeps.modify fun _ consistent other ok known => ?_) fun _ => Keeps.pure _
  simp only [exact] at known
  split_ifs at known with same
  · obtain rfl := same
    exact (Option.some.inj known).symm
  · exact consistent other ok known

theorem consistent_status (cert : MlsDeviceCertificate) :
    Keeps (Preserving (Consistent options.wasm)) (status options cert) := by
  refine Keeps.bind ?_ fun result => Keeps.bind (consistent_emit _) fun _ => Keeps.pure _
  unfold judge
  split_ifs
  · unfold statusV2
    split
    · exact Keeps.pure _
    · exact Keeps.pure _
    next _ authorityKey _ hasKey =>
    have exact : certificateDigest cert = cert := by
      have isKey : cert.authorityKey.filter (· ≠ "") = cert.authorityKey := by
        rw [hasKey]
        exact (Option.filter_eq_some_iff.mp hasKey).1.symm
      simp only [certificateDigest, isKey]
    refine Keeps.bind (consistent_checkSignature exact) fun sigOk => ?_
    split_ifs
    · exact Keeps.pure _
    · refine Keeps.bind (consistent_registryEntry _ _) fun entry => ?_
      exact Keeps.bind (Keeps.bind Keeps.get fun _ => Keeps.pure _) fun _ => Keeps.pure _
  · exact consistent_statusV1 cert

end

/-! ## Networks -/

/-- The chain and the peers that read it. -/
structure Network where
  chain : Registry
  /-- The earlier states of the chain, newest first. -/
  past : List Registry
  clock : Int
  peers : Nat → World

/-- What can happen in a network. -/
inductive Input where
  | register (owner deviceId authorityKey : String)
  | rotate (owner deviceId signer newKey : String)
  | wait (elapsed : Nat)
  | status (peer : Nat) (cert : MlsDeviceCertificate) (script : List Reply)
  | forgetRegistry (peer : Nat) (owner deviceId : String) (script : List Reply)
  | restart (peer : Nat)

namespace Network

/-- A peer at the start of a call: it shares the chain and the clock with all others. -/
def view (network : Network) (peer : Nat) (script : List Reply) : World :=
  { network.peers peer with
    chain := network.chain
    past := network.past
    clock := network.clock
    script }

/-- A call of a peer has come to its end. -/
def finish (network : Network) (peer : Nat) (world : World) : Network :=
  { network with
    clock := world.clock
    peers := fun other => if other = peer then world else network.peers other }

/-- A transaction changed the chain. -/
def advance (network : Network) (chain : Registry) : Network :=
  { network with chain, past := network.chain :: network.past }

/-- One thing happens. -/
def step (options : Nat → Options) (network : Network) : Input → Network
  | .register owner deviceId authorityKey =>
    network.advance (network.chain.register owner deviceId authorityKey network.clock)
  | .rotate owner deviceId signer newKey =>
    network.advance (network.chain.rotate owner deviceId signer newKey network.clock)
  | .wait elapsed => { network with clock := network.clock + elapsed }
  | .status peer cert script =>
    network.finish peer (CertificateCache.status (options peer) cert (network.view peer script)).2
  | .forgetRegistry peer owner deviceId script =>
    network.finish peer
      (CertificateCache.forgetRegistry owner deviceId (network.view peer script)).2
  | .restart peer => network.finish peer { network.view peer [] with certs := .new }

def reached (options : Nat → Options) (start : Network) (inputs : List Input) : Network :=
  inputs.foldl (step options) start

variable {options : Nat → Options}

/-- Every peer remembers signatures as it checked them. -/
def Remembers (options : Nat → Options) (network : Network) : Prop :=
  ∀ peer, Consistent (options peer).wasm (network.peers peer)

theorem remembers_finish {network : Network} {peer : Nat} {world : World}
    (remembers : Remembers options network) (consistent : Consistent (options peer).wasm world) :
    Remembers options (network.finish peer world) := by
  intro other
  by_cases same : other = peer
  · subst same
    simpa [finish] using consistent
  · simpa [finish, same] using remembers other

theorem remembers_step {network : Network} {input : Input} (remembers : Remembers options network) :
    Remembers options (step options network input) := by
  cases input with
  | register | rotate | wait => exact remembers
  | status peer cert script =>
    exact remembers_finish remembers
      (consistent_status cert (network.view peer script) (remembers peer))
  | forgetRegistry peer owner deviceId script =>
    refine remembers_finish remembers ?_
    have keeps : Async.Keeps (Async.Preserving (Consistent (options peer).wasm))
        (forgetRegistry owner deviceId) :=
      Async.Keeps.bind (Async.Keeps.modify fun _ => consistent_of_sigOk rfl) fun _ =>
        consistent_writeStore _
    exact keeps (network.view peer script) (remembers peer)
  | restart =>
    refine remembers_finish remembers fun cert ok known => ?_
    cases known

theorem remembers_reached {start : Network} (remembers : Remembers options start)
    (inputs : List Input) : Remembers options (reached options start inputs) := by
  induction inputs generalizing start with
  | nil => exact remembers
  | cons input rest ih => exact ih (remembers_step remembers)

/-! ## The verdict on a current key -/

/-- A network of peers with empty caches, on a chain without records. -/
def small : Network where
  chain _ _ := none
  past := []
  clock := 0
  peers _ := .small

/-- A certificate of the device `d` of wallet `0xa`, under the given authority key. -/
def smallCertificate (authorityKey : String) : MlsDeviceCertificate :=
  { v := 2, wallet := "0xA", deviceId := "d", mlsKey := "01", issuedAtMs := 0, sig := ""
    signerKey := "authority", authorityKey := some authorityKey }

end Network

end MessagingStack.Sdk.CertificateCache

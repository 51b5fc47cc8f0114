import Mathlib.Tactic.Simps.Basic
import MessagingStack.Base.Async
import MessagingStack.Sdk.StateStore

/-!
# What a session runs in

A session is a program over a `World`: its memory, its durable store, the clock, the chain, the
backup segments, and a **script** of the replies that come, one for each await: how much time
passed, whether the call resolved, rejected or the process died there, and whether a write took
effect.  A run past the end of its script dies, so the runs over all scripts are those under every
behaviour of the others.  The **trace** records events; no modelled function reads it.
-/

namespace MessagingStack.Sdk

/-! ## Replies -/

structure Page where
  messages : List RelayerMessage
  hasNext : Bool
  deriving DecidableEq

structure SelfItem where
  seq : Int
  body : Wire
  deriving DecidableEq

/-- A key package claimed from the relayer. -/
structure Claimed where
  wallet : String
  deviceId : String
  keyPackage : Mls.KeyPackage Identity
  deriving DecidableEq

/-- A welcome taken from the relayer. -/
structure WelcomeItem where
  groupId : GroupId
  welcome : Mls.Welcome Identity
  deriving DecidableEq

/-- How an await ends. -/
inductive Answer where
  /-- A write took effect, or a read of the store, the chain or the backup is served. -/
  | done
  /-- The call rejected; `landed` when it was a registration that took effect nevertheless. -/
  | rejected (landed : Bool)
  /-- A write to the store or to the backup rejected; `landed` when it took effect nevertheless. -/
  | failed (landed : Bool)
  /-- The submission of a rotation rejected; `landed` when it took effect nevertheless. -/
  | rotationLost (landed : Bool)
  /-- The process died; `landed` when the call took effect. -/
  | crashed (landed : Bool)
  /-- A commit was posted: accepted, or refused because another commit won the epoch. -/
  | accepted (ok : Bool)
  | page (page : Page)
  | selfItems (items : List SelfItem)
  | groupInfo (info : Option (Mls.GroupInfo Identity))
  | keyPackages (claimed : List Claimed)
  | welcomes (items : List WelcomeItem)
  | readers (wallets : List String)
  | days (days : Int)
  | verified (ok : Bool)
  | verdict (status : MlsCertificateStatus)
  /-- A registry lookup, answered by a node that is `lag` states behind the chain. -/
  | record (lag : Nat)
  deriving DecidableEq

/-- A reply: the time that passed, and how the await ended. -/
structure Reply where
  elapsed : Nat
  answer : Answer
  deriving DecidableEq

/-! ## Events -/

/-- What the trace records. -/
inductive Event where
  /-- The log was read from a cursor. -/
  | fetched (key : GroupId) (cursor : Int) (page : Page)
  | decrypted (key : GroupId) (row : RelayerMessage) (inner : Inner)
  | encrypted (key : GroupId) (group : Group) (message : Message)
  /-- An application message of the device with the given key left the session: `seal` or `wrap`
  resolved with it. -/
  | handed (signer : Mls.SignatureKey) (message : Message)
  /-- A chunk of history was posted by the device with the given key. -/
  | posted (signer : Mls.SignatureKey) (message : Message)
  | status (cert : MlsDeviceCertificate) (result : MlsCertificateStatus)
  | accepted (key : GroupId) (base : Group) (commit : Message)
  /-- The commit by which this device created or joined a group was accepted. -/
  | entered (key : GroupId) (commit : Message)
  /-- Rows were written to the store. -/
  | stored (key : GroupId) (rows : List UnwrappedRow)
  deriving DecidableEq

/-! ## Options -/

/-- What `decodeRowsJson` reads from the payload of a history bundle. -/
structure HistoryBundle where
  /-- Whether the version is 1. -/
  isV1 : Bool
  /-- The rows of each group: `none` where they are not an array, and `none` for a row that
  lacks one of the fields the import checks. -/
  groups : List (GroupId × Option (List (Option UnwrappedRow)))

/-- The parts of the WASM module and of the row codec that are not modelled as definitions. -/
structure Wasm where
  publicKey : SecretKey → Bytes
  /-- The signature of a text under a generated key. -/
  sign : SecretKey → String → String
  mlsVerifyCertificateV2 : MlsDeviceCertificate → Bool
  /-- `mlsHistorySplit`: the chunks of a payload, under a random bundle id. -/
  mlsHistorySplit : Nat → Bytes → List Bytes
  /-- `push` of a history reassembler that was given the listed chunks before: the payload of
  the bundle that the new chunk completes. -/
  push : List Bytes → Bytes → Option Bytes
  encodeRowsJson : List (GroupId × List UnwrappedRow) → Bytes
  /-- The length of `encodeRowsJson` of one row. -/
  rowSize : UnwrappedRow → Nat
  decodeRowsJson : Bytes → Option HistoryBundle
  /-- `deriveBackupKey` for a passkey output of the right length and a wallet. -/
  deriveBackupKey : Bytes → String → MessageBackupKey

structure RegistryOptions where
  submitter : Bool
  rotateAfterMs : Option Int

/-- `MlsSessionOptions`. -/
structure Options where
  wasm : Wasm
  /-- The wallet of the identity, in lower case. -/
  wallet : String
  deviceId : String
  onChainReaders : Bool
  historyShareDays : Bool
  keyPackageTarget : Option Nat
  historyRowsPerGroup : Option Nat
  registry : Option RegistryOptions
  /-- Whether the relayer has backup support. -/
  backup : Bool

/-! ## The world -/

structure CertificateCache where
  memory : MlsDeviceCertificate → Option MlsCertificateStatus
  registry : String → Option RegistryCacheEntry
  sigOk : MlsDeviceCertificate → Option Bool

def CertificateCache.new : CertificateCache where
  memory := fun _ => none
  registry := fun _ => none
  sigOk := fun _ => none

/-- A backup segment on the relayer: the key it is sealed under, and its payload. -/
structure Segment where
  seq : Int
  key : MessageBackupKey
  wallet : String
  payload : Bytes
  deriving DecidableEq

/-- A session with everything it runs in. -/
structure World where
  device : Device
  certs : CertificateCache
  desynced : List GroupId
  joinBackoff : GroupId → Option Int
  resyncs : GroupId → List Int
  lastWelcomePoll : Int
  /-- The chunks each history reassembler was given. -/
  reassemblers : GroupId → List Bytes
  store : StateStore
  clock : Int
  /-- Names the next random value. -/
  fresh : Nat
  chain : Registry
  /-- The earlier states of the chain, newest first. -/
  past : List Registry
  backup : List Segment
  script : List Reply
  trace : List Event

/-! ### A small instance -/

/-- A WASM module for examples: keys are told apart by their lengths, a signature is the signed
text under the key's number, a history bundle is one chunk, and a payload lists the orders of its
rows. -/
def Wasm.small : Wasm where
  publicKey secret := List.replicate (secret + 1) 1
  sign secret text := toString secret ++ ":" ++ text
  mlsVerifyCertificateV2 cert := cert.signerKey = "authority"
  mlsHistorySplit _ payload := [payload]
  push _ chunk := some chunk
  encodeRowsJson groups := groups.flatMap fun group => group.2.map fun row =>
    UInt8.ofNat row.order.toNat
  rowSize _ := 1
  decodeRowsJson _ := none
  deriveBackupKey prf _ := { keyId := Hex.encode (prf.take 1), keyHex := Hex.encode prf }

def Options.small : Options where
  wasm := .small
  wallet := "0xa"
  deviceId := "d"
  onChainReaders := true
  historyShareDays := true
  keyPackageTarget := some 1
  historyRowsPerGroup := none
  registry := some { submitter := true, rotateAfterMs := none }
  backup := true

/-- A new device of the wallet `0xa`, without groups. -/
def Device.small : Device where
  identity :=
    { v := 1, wallet := "0xa", deviceId := "d", mlsKey := "01", issuedAtMs := 0, sig := ""
      signerKey := "00", authorityKey := none }
  signatureKey := [1]
  groups _ := none
  ratchets _ := 0
  keyPackages := []

/-- A session of that device with an empty store. -/
def World.small : World where
  device := .small
  certs := .new
  desynced := []
  joinBackoff _ := none
  resyncs _ := []
  lastWelcomePoll := 0
  reassemblers _ := []
  store := .new
  clock := 0
  fresh := 0
  chain _ _ := none
  past := []
  backup := []
  script := []
  trace := []

/-- Why a session call rejects. -/
inductive SessionError where
  /-- An awaited call rejected. -/
  | rejected
  /-- The MLS library threw. -/
  | library
  | typeError
  | notMember (groupId : GroupId)
  /-- `MLS commit for … kept losing the epoch race` -/
  | epochRace (groupId : GroupId)
  | membersUnverified (groupId : GroupId) (wallets : List String)
  /-- `MlsGroupUnavailableError`, `not-joined` -/
  | groupUnavailable (groupId : GroupId)
  /-- `relayer has no backup support` -/
  | noBackup
  deriving DecidableEq

abbrev Session := Async SessionError World

namespace Session

scoped instance : LawfulBEq (Option String) := inferInstance

@[simps -fullyApplied] def tick (world : World) (reply : Reply) (rest : List Reply) : World :=
  { world with script := rest, clock := world.clock + reply.elapsed }

/-- Await a call that resolves with a value of its own kind. -/
def ask {α : Type} (read : Answer → Option α) : Session α := fun world =>
  match world.script with
  | [] => (.crash, world)
  | reply :: rest =>
    match reply.answer with
    | .rejected _ => (.error .rejected, tick world reply rest)
    | .crashed _ => (.crash, tick world reply rest)
    | answer =>
      match read answer with
      | some value => (.ok value, tick world reply rest)
      | none => (.crash, tick world reply rest)

/-- Await a call that changes something outside the session's memory.  `lost` says which answers
are its rejections, and whether the change took effect. -/
def writeOr (lost : Answer → Option Bool) (effect : World → World) : Session PUnit := fun world =>
  match world.script with
  | [] => (.crash, world)
  | reply :: rest =>
    let after := tick world reply rest
    match reply.answer with
    | .done => (.ok ⟨⟩, effect after)
    | .crashed landed => (.crash, if landed then effect after else after)
    | answer =>
      match lost answer with
      | some landed => (.error .rejected, if landed then effect after else after)
      | none => (.crash, after)

/-- How a write to the store or to the backup rejects. -/
def writeLost : Answer → Option Bool
  | .failed landed => some landed
  | _ => none

/-- Await a write to the store or to the backup. -/
def write (effect : World → World) : Session PUnit := writeOr writeLost effect

/-- Await a call whose result is read from the world. -/
def readWorld {α : Type} (read : World → α) : Session α := do
  ask fun answer =>
    match answer with
    | .done => some PUnit.unit
    | _ => none
  let world ← Async.get
  pure (read world)

def emit (event : Event) : Session PUnit :=
  Async.modify fun world => { world with trace := world.trace ++ [event] }

def now : Session Int := do
  let world ← Async.get
  pure world.clock

def writeStore (change : StateStore → StateStore) : Session PUnit :=
  write fun world => { world with store := change world.store }

def readStore {α : Type} (read : StateStore → α) : Session α :=
  readWorld fun world => read world.store

def modifyDevice (change : Device → Device) : Session PUnit :=
  Async.modify fun world => { world with device := change world.device }

/-- A call whose result nobody reads. -/
def notify : Session PUnit :=
  ask fun answer =>
    match answer with
    | .done => some PUnit.unit
    | _ => none

/-! ### How the primitive calls end -/

/-- At most one reply has come. -/
def Ticked (world after : World) : Prop :=
  after = world ∨ ∃ reply rest, world.script = reply :: rest ∧ after = tick world reply rest

/-- A call has not resolved, and left the world as it was but for the reply. -/
def Unresolved {α : Type} (world : World) (result : Outcome SessionError α × World) : Prop :=
  (∀ value, result.1 ≠ .ok value) ∧ Ticked world result.2

/-- The ends of a call that resolves with a value of its own kind. -/
theorem ask_cases {α : Type} (read : Answer → Option α) (world : World) :
    (∃ reply rest value, world.script = reply :: rest ∧ read reply.answer = some value ∧
      ask read world = (.ok value, tick world reply rest)) ∨
    Unresolved world (ask read world) := by
  unfold ask
  split
  · exact .inr ⟨by simp, .inl rfl⟩
  next reply rest script =>
  have ended : ∃ later more, world.script = later :: more ∧
      tick world reply rest = tick world later more := ⟨reply, rest, script, rfl⟩
  split
  · exact .inr ⟨by simp, .inr ended⟩
  · exact .inr ⟨by simp, .inr ended⟩
  · split
    · next found => exact .inl ⟨reply, rest, _, script, found, rfl⟩
    · exact .inr ⟨by simp, .inr ended⟩

theorem readWorld_cases {α : Type} (read : World → α) (world : World) :
    (∃ reply rest, world.script = reply :: rest ∧
      readWorld read world = (.ok (read (tick world reply rest)), tick world reply rest)) ∨
    Unresolved world (readWorld read world) := by
  have run : readWorld read world =
      (ask (fun answer => match answer with | .done => some PUnit.unit | _ => none) >>=
        fun _ => Async.get >>= fun world => pure (read world)) world := rfl
  rw [run, Async.bind_run]
  rcases ask_cases (fun answer => match answer with | .done => some PUnit.unit | _ => none) world
    with ⟨reply, rest, value, script, -, ran⟩ | ⟨notOk, ended⟩
  · rw [ran]
    exact .inl ⟨reply, rest, script, rfl⟩
  refine .inr ?_
  rcases ran : ask (fun answer => match answer with | .done => some PUnit.unit | _ => none) world
    with ⟨value | reason | _, after⟩ <;> rw [ran] at notOk ended
  · exact absurd rfl (notOk value)
  · exact ⟨by simp, ended⟩
  · exact ⟨by simp, ended⟩

/-- The ends of a call that changes something: it resolved; it rejected; or the process died. -/
theorem writeOr_cases (lost : Answer → Option Bool) (effect : World → World) (world : World) :
    (∃ reply rest, world.script = reply :: rest ∧
      writeOr lost effect world = (.ok ⟨⟩, effect (tick world reply rest))) ∨
    (∃ reply rest landed, world.script = reply :: rest ∧ lost reply.answer = some landed ∧
      writeOr lost effect world = (.error .rejected,
        if landed then effect (tick world reply rest) else tick world reply rest)) ∨
    (∃ after, writeOr lost effect world = (.crash, after) ∧
      (Ticked world after ∨ ∃ reply rest, world.script = reply :: rest ∧
        after = effect (tick world reply rest))) := by
  unfold writeOr
  split
  · exact .inr (.inr ⟨_, rfl, .inl (.inl rfl)⟩)
  next reply rest script =>
  dsimp only
  split
  · exact .inl ⟨reply, rest, script, rfl⟩
  · refine .inr (.inr ⟨_, rfl, ?_⟩)
    split_ifs
    · exact .inr ⟨reply, rest, script, rfl⟩
    · exact .inl (.inr ⟨reply, rest, script, rfl⟩)
  · split
    · next landed isLost => exact .inr (.inl ⟨reply, rest, landed, script, isLost, rfl⟩)
    · exact .inr (.inr ⟨_, rfl, .inl (.inr ⟨reply, rest, script, rfl⟩)⟩)

theorem write_cases (effect : World → World) (world : World) :
    (∃ reply rest, world.script = reply :: rest ∧
      write effect world = (.ok ⟨⟩, effect (tick world reply rest))) ∨
    (∃ outcome after, write effect world = (outcome, after) ∧ (∀ value, outcome ≠ .ok value) ∧
      (Ticked world after ∨ ∃ reply rest, world.script = reply :: rest ∧
        after = effect (tick world reply rest))) := by
  rcases writeOr_cases writeLost effect world with
    done | ⟨reply, rest, landed, script, -, ran⟩ | ⟨after, ran, ends⟩
  · exact .inl done
  · refine .inr ⟨_, _, ran, by simp, ?_⟩
    cases landed with
    | true => exact .inr ⟨reply, rest, script, rfl⟩
    | false => exact .inl (.inr ⟨reply, rest, script, rfl⟩)
  · exact .inr ⟨_, _, ran, by simp, ends⟩

theorem bind_run_failed {α β : Type} {program : Session α} {next : α → Session β}
    {world : World} {post : Outcome SessionError β → World → Prop}
    (notOk : ∀ value, (program world).1 ≠ .ok value)
    (failed : ∀ outcome, (∀ value, outcome ≠ .ok value) → post outcome (program world).2) :
    Async.wp (program >>= next) post world := by
  rw [Async.wp, Async.bind_run]
  rcases ran : program world with ⟨value | reason | _, after⟩ <;> rw [ran] at notOk failed
  · exact absurd rfl (notOk value)
  · exact failed (.error reason) (by simp)
  · exact failed .crash (by simp)

section

variable {α β : Type} {world : World} {post : Outcome SessionError β → World → Prop}

/-- The rule for a sequence that begins with a call. -/
theorem wp_ask_bind {read : Answer → Option α} {next : α → Session β}
    (resolved : ∀ reply rest value, world.script = reply :: rest →
      read reply.answer = some value → Async.wp (next value) post (tick world reply rest))
    (failed : ∀ outcome after, (∀ value, outcome ≠ .ok value) → Ticked world after →
      post outcome after) :
    Async.wp (ask read >>= next) post world := by
  rcases ask_cases read world with ⟨reply, rest, value, script, found, ran⟩ | ⟨notOk, ticked⟩
  · rw [Async.wp, Async.bind_run_ok ran]
    exact resolved reply rest value script found
  · exact bind_run_failed notOk fun outcome unresolved => failed outcome _ unresolved ticked

theorem wp_readWorld_bind {read : World → α} {next : α → Session β}
    (resolved : ∀ reply rest, world.script = reply :: rest →
      Async.wp (next (read (tick world reply rest))) post (tick world reply rest))
    (failed : ∀ outcome after, (∀ value, outcome ≠ .ok value) → Ticked world after →
      post outcome after) :
    Async.wp (readWorld read >>= next) post world := by
  rcases readWorld_cases read world with ⟨reply, rest, script, ran⟩ | ⟨notOk, ticked⟩
  · rw [Async.wp, Async.bind_run_ok ran]
    exact resolved reply rest script
  · exact bind_run_failed notOk fun outcome unresolved => failed outcome _ unresolved ticked

theorem wp_write_bind {effect : World → World} {next : PUnit → Session β}
    (resolved : ∀ reply rest, world.script = reply :: rest →
      Async.wp (next ⟨⟩) post (effect (tick world reply rest)))
    (failed : ∀ outcome after, (∀ value, outcome ≠ .ok value) →
      (Ticked world after ∨ ∃ reply rest, world.script = reply :: rest ∧
        after = effect (tick world reply rest)) → post outcome after) :
    Async.wp (write effect >>= next) post world := by
  rcases write_cases effect world with
    ⟨reply, rest, script, ran⟩ | ⟨outcome, after, ran, notOk, ends⟩
  · rw [Async.wp, Async.bind_run_ok ran]
    exact resolved reply rest script
  · refine bind_run_failed (by rwa [ran]) fun outcome unresolved => failed outcome _ unresolved ?_
    rw [ran]
    exact ends

end

/-! ### What the primitive calls can change -/

section

open Async

variable {R : World → World → Prop} {α : Type} {effect : World → World}

section

variable (ticks : ∀ world reply rest, world.script = reply :: rest →
  R world (tick world reply rest))
include ticks

theorem keeps_ask [Std.Refl R] (read : Answer → Option α) : Keeps R (ask read) := by
  intro world
  unfold ask
  split
  · exact Std.Refl.refl world
  next reply rest script =>
  have ticked := ticks world reply rest script
  split
  · exact ticked
  · exact ticked
  · split <;> exact ticked

theorem keeps_writeOr [Std.Refl R] [IsTrans World R] {lost : Answer → Option Bool}
    (related : ∀ world, R world (effect world)) :
    Keeps R (writeOr lost effect) := by
  intro world
  have done : ∀ reply rest, world.script = reply :: rest →
      R world (effect (tick world reply rest)) := fun reply rest script =>
    IsTrans.trans _ _ _ (ticks world reply rest script) (related _)
  rcases writeOr_cases lost effect world with
    ⟨reply, rest, script, ran⟩ | ⟨reply, rest, landed, script, -, ran⟩ | ⟨after, ran, ends⟩ <;>
    rw [ran]
  · exact done reply rest script
  · cases landed with
    | true => exact done reply rest script
    | false => exact ticks world reply rest script
  rcases ends with (rfl | ⟨reply, rest, script, rfl⟩) | ⟨reply, rest, script, rfl⟩
  · exact Std.Refl.refl _
  · exact ticks _ reply rest script
  · exact done reply rest script

theorem keeps_write [Std.Refl R] [IsTrans World R] (related : ∀ world, R world (effect world)) :
    Keeps R (write effect) :=
  keeps_writeOr ticks related

theorem keeps_readWorld [Std.Refl R] [IsTrans World R] (read : World → α) :
    Keeps R (readWorld read) :=
  Keeps.bind (keeps_ask ticks _) fun _ => Keeps.bind Keeps.get fun _ => Keeps.pure _

end

theorem ask_value {read : Answer → Option α} {world : World} {value : α}
    (resolved : (ask read world).1 = .ok value) :
    ∃ reply ∈ world.script, read reply.answer = some value := by
  unfold ask at resolved
  split at resolved
  · cases resolved
  next reply rest script =>
  refine ⟨reply, by simp [script], ?_⟩
  split at resolved
  · cases resolved
  · cases resolved
  split at resolved
  · next found =>
    cases resolved
    exact found
  · cases resolved

end

end Session

end MessagingStack.Sdk

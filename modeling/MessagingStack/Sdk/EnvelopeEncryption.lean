import MessagingStack.Contract.Chain

/-!
# Envelope encryption

`encryption/envelope-encryption.ts` with `encryption/dek-manager.ts`,
`encryption/ttl-map.ts` and the transactions of `call.ts` that carry a data encryption key
(DEK).  A client that creates a group or rotates its key makes a DEK, has it encrypted by
MyData, puts the plain key into its cache under the version it expects, and hands the
encrypted key to a transaction.  Whether the transaction lands, and at which index of the
history, is decided by the chain.  Encrypting and decrypting resolve the DEK of a version:
from the cache, or else by fetching the encrypted key of that index and having it
decrypted.
-/

namespace MessagingStack.Sdk.Envelope

open Contract

/-- A data encryption key. -/
abbrev Dek := List UInt8

/-- MyData: a DEK is encrypted under the identity of a group and a key version, with fresh
randomness, and whoever is let in gets it back. -/
structure MyData where
  encrypt : Address → Nat → Dek → Nat → List UInt8
  decrypt : List UInt8 → Option Dek
  decrypt_encrypt : ∀ groupId keyVersion dek seed,
    decrypt (encrypt groupId keyVersion dek seed) = some dek

/-- `GroupRef`: a uuid, or the two object ids; a history is named by its uuid here. -/
inductive GroupRef where
  | uuid (uuid : String)
  | ids (groupId : Address) (historyUuid : String)
  deriving DecidableEq

/-- The two objects a reference names. -/
structure ResolvedRef where
  groupId : Address
  historyUuid : String
  deriving DecidableEq

def resolveGroupRef (namespace_ : Namespace) : GroupRef → ResolvedRef
  | .uuid uuid => { groupId := namespace_.groupAddress uuid, historyUuid := uuid }
  | .ids groupId historyUuid => { groupId, historyUuid }

/-! ## The cache of a client -/

/-- Where a cached key comes from; no code reads it. -/
inductive Source where
  | loaded (historyUuid : String)
  | generated (attempt : Nat)
  deriving DecidableEq

/-- A value of the cache: a promise, or a key. -/
inductive Entry where
  | loading
  | ready (dek : Dek) (source : Source)
  deriving DecidableEq

structure TtlEntry where
  value : Entry
  expiresAt : Nat
  deriving DecidableEq

/-- The cache of an `EnvelopeEncryption`, by group and key version. -/
structure DekCache where
  ttlMs : Nat
  entries : OrderedMap (Address × Nat) TtlEntry

namespace DekCache

variable (self : DekCache) (now : Nat) (key : Address × Nat)

/-- `TtlMap.get`: an entry is gone once its time has come. -/
def get : Option Entry :=
  match self.entries.get key with
  | none => none
  | some entry => if entry.expiresAt ≤ now then none else some entry.value

/-- `TtlMap.set`. -/
def set (value : Entry) : DekCache :=
  { self with entries := self.entries.insert key { value, expiresAt := now + self.ttlMs } }

def delete : DekCache := { self with entries := self.entries.erase key }

/-- `#putDEK`, that is `readSync`: an existing entry stays. -/
def put (dek : Dek) (source : Source) : DekCache :=
  match self.get now key with
  | some _ => self
  | none => self.set now key (.ready dek source)

def clear (groupId : Option Address) : DekCache :=
  { self with
    entries := self.entries.filterKeys fun key => groupId.any fun cleared => key.1 != cleared }

end DekCache

/-! ## The state -/

/-- A key a client has made, with the call that is to store it. -/
structure Attempt where
  groupId : Address
  historyUuid : String
  keyVersion : Nat
  dek : Dek
  encryptedDek : List UInt8
  call : Call
  /-- The indices at which the call has stored the key. -/
  landed : List Nat
  deriving DecidableEq

/-- The options of `#resolveDEK`, with the client that calls it. -/
structure DekResolution where
  client : Nat
  groupId : Address
  historyUuid : String
  keyVersion : Nat
  deriving DecidableEq

def DekResolution.cacheKey (request : DekResolution) : Address × Nat :=
  (request.groupId, request.keyVersion)

/-- `encrypt` or `decrypt` used a DEK for a version of a group's key. -/
structure Use extends DekResolution where
  dek : Dek
  source : Source
  deriving DecidableEq

structure State where
  now : Nat
  chain : Chain
  /-- The chain as it has been, the present one first. -/
  views : List Chain
  clients : Nat → DekCache
  attempts : List Attempt
  loads : List DekResolution
  uses : List Use

/-- Clients with empty caches on a chain. -/
def State.start (chain : Chain) (ttlMs : Nat → Nat) : State where
  now := 0
  chain := chain
  views := [chain]
  clients := fun client => { ttlMs := ttlMs client, entries := ∅ }
  attempts := []
  loads := []
  uses := []

def encryptedKeys (chain : Chain) (historyUuid : String) : List (List UInt8) :=
  match chain.histories.get historyUuid with
  | none => []
  | some history => history.encryptedKeys

def getCurrentKeyVersion (chain : Chain) (historyUuid : String) : Option Nat :=
  (chain.histories.get historyUuid).map (·.currentKeyVersion)

/-! ## Making keys -/

/-- The group creations that carry a first key. -/
inductive Creation where
  | wallet (account : MemoryAccount) (name : String) (initialMembers : List Address)
  | agent (acting : ActingContext) (creatorAccount crossPrincipalPeerAccount : MemoryAccount)
      (name : String) (initialMembers : List Address)
  deriving DecidableEq

/-- `createAndShareGroup`, `createAgentAndShareGroup`. -/
def Creation.call (uuid : String) (encryptedDek : List UInt8) : Creation → Call
  | .wallet account name initialMembers =>
    .createAndShareGroup account name uuid encryptedDek initialMembers
  | .agent acting creatorAccount crossPrincipalPeerAccount name initialMembers =>
    .createAgentAndShareGroup acting creatorAccount crossPrincipalPeerAccount name uuid
      encryptedDek initialMembers

namespace State

variable (mydata : MyData) (namespace_ : Namespace) (state : State)

def onClient (client : Nat) (change : DekCache → DekCache) : State :=
  { state with
    clients := fun other => if other = client then change (state.clients other) else
      state.clients other }

/-- `#generateDEK`: the key is in the cache before the transaction is sent. -/
def generateDek (client : Nat) (groupId : Address) (historyUuid : String) (keyVersion : Nat)
    (dek : Dek) (seed : Nat) (call : List UInt8 → Call) : State :=
  let encryptedDek := mydata.encrypt groupId keyVersion dek seed
  let attempt : Attempt :=
    { groupId, historyUuid, keyVersion, dek, encryptedDek, call := call encryptedDek, landed := [] }
  let source := Source.generated state.attempts.length
  { state.onClient client fun cache => cache.put state.now (groupId, keyVersion) dek source with
    attempts := state.attempts ++ [attempt] }

def generateGroupDek (client : Nat) (uuid : String) (creation : Creation) (dek : Dek)
    (seed : Nat) : State :=
  state.generateDek mydata client (namespace_.groupAddress uuid) uuid 0 dek seed
    fun encryptedDek => creation.call uuid encryptedDek

/-- `generateRotationDEK`, for a rotation; it throws where the version cannot be read. -/
def generateRotationDek (client : Nat) (ref : GroupRef) (seen : Nat) (dek : Dek)
    (seed : Nat) : State :=
  let target := resolveGroupRef namespace_ ref
  match state.views[seen]?.bind (getCurrentKeyVersion · target.historyUuid) with
  | none => state
  | some currentVersion =>
    state.generateDek mydata client target.groupId target.historyUuid (currentVersion + 1) dek
      seed fun encryptedDek => .rotateEncryptionKey target.groupId target.historyUuid encryptedDek

/-! ## Transactions -/

/-- A command of a transaction: the call of an attempt, or any other. -/
inductive Command where
  | attempt (id : Nat)
  | call (call : Call)
  deriving DecidableEq

/-- Run the commands of a transaction; also says which attempt stored its key where. -/
def runCommands (namespace_ : Namespace) (attempts : List Attempt) (sender : Address) :
    Chain → List Command → Option (Chain × List (Nat × Nat))
  | chain, [] => some (chain, [])
  | chain, .call call :: rest =>
    match chain.perform namespace_ sender call with
    | .error _ => none
    | .ok after => runCommands namespace_ attempts sender after rest
  | chain, .attempt id :: rest =>
    match attempts[id]? with
    | none => none
    | some attempt =>
      match chain.perform namespace_ sender attempt.call with
      | .error _ => none
      | .ok after =>
        (runCommands namespace_ attempts sender after rest).map fun (last, landed) =>
          (last, (id, (encryptedKeys chain attempt.historyUuid).length) :: landed)

/-- Note where an attempt has stored its key. -/
def land (attempts : List Attempt) (landing : Nat × Nat) : List Attempt :=
  attempts.modify landing.1 fun attempt => { attempt with landed := landing.2 :: attempt.landed }

/-- A transaction: all of its commands, or nothing. -/
def execute (sender : Address) (commands : List Command) : State :=
  match runCommands namespace_ state.attempts sender state.chain commands with
  | none => state
  | some (chain, landed) =>
    { state with
      chain
      views := chain :: state.views
      attempts := landed.foldl land state.attempts }

/-! ## Using keys -/

/-- `#resolveDEK`, up to the loader. -/
def resolveDek (request : DekResolution) : State :=
  match (state.clients request.client).get state.now request.cacheKey with
  | some (.ready dek source) =>
    { state with uses := { toDekResolution := request, dek, source } :: state.uses }
  -- the promise of a loader that is running: the call goes on when it has settled
  | some .loading => state
  | none =>
    { state.onClient request.client fun cache =>
        cache.set state.now request.cacheKey .loading with
      loads := state.loads ++ [request] }

/-- The loader of `#resolveDEK`: fetch the encrypted key and have it decrypted, unless the
servers refuse. -/
def finishLoad (which : Nat) (approved : Bool) : State :=
  match state.loads[which]? with
  | none => state
  | some request =>
    let rest := { state with loads := state.loads.eraseIdx which }
    let encryptedDek := (encryptedKeys state.chain request.historyUuid)[request.keyVersion]?
    match if approved then encryptedDek.bind mydata.decrypt else none with
    | none => rest.onClient request.client (·.delete request.cacheKey)
    | some dek =>
      let source := Source.loaded request.historyUuid
      { rest.onClient request.client (·.set state.now request.cacheKey (.ready dek source)) with
        uses := { toDekResolution := request, dek, source } :: state.uses }

/-- The version `encrypt` uses: the one asked for, or else the latest that was read. -/
def encryptVersion (historyUuid : String) (keyVersion : Option Nat) (seen : Nat) : Option Nat :=
  match keyVersion with
  | some version => some version
  | none => state.views[seen]?.bind (getCurrentKeyVersion · historyUuid)

/-! ## Runs -/

inductive Input where
  | tick (ms : Nat)
  | generateGroupDek (client : Nat) (uuid : String) (creation : Creation) (dek : Dek) (seed : Nat)
  | generateRotationDek (client : Nat) (ref : GroupRef) (seen : Nat) (dek : Dek) (seed : Nat)
  | execute (sender : Address) (commands : List Command)
  | encrypt (client : Nat) (ref : GroupRef) (keyVersion : Option Nat) (seen : Nat)
  | decrypt (client : Nat) (ref : GroupRef) (keyVersion : Nat)
  | finishLoad (which : Nat) (approved : Bool)
  | clearCache (client : Nat) (groupId : Option Address)
  deriving DecidableEq

/-- What a call of `encrypt` or `decrypt` resolves; `encrypt` throws where the version cannot
be read. -/
def resolution : Input → Option DekResolution
  | .encrypt client ref keyVersion seen =>
    let target := resolveGroupRef namespace_ ref
    (state.encryptVersion target.historyUuid keyVersion seen).map fun keyVersion =>
      { client, groupId := target.groupId, historyUuid := target.historyUuid, keyVersion }
  | .decrypt client ref keyVersion =>
    let target := resolveGroupRef namespace_ ref
    some { client, groupId := target.groupId, historyUuid := target.historyUuid, keyVersion }
  | _ => none

/-- `encrypt` and `decrypt`, as far as the key. -/
def useKey (input : Input) : State :=
  match state.resolution namespace_ input with
  | none => state
  | some request => state.resolveDek request

def step : Input → State
  | .tick ms => { state with now := state.now + ms }
  | .generateGroupDek client uuid creation dek seed =>
    state.generateGroupDek mydata namespace_ client uuid creation dek seed
  | .generateRotationDek client ref seen dek seed =>
    state.generateRotationDek mydata namespace_ client ref seen dek seed
  | .execute sender commands => state.execute namespace_ sender commands
  | .encrypt client ref keyVersion seen =>
    state.useKey namespace_ (.encrypt client ref keyVersion seen)
  | .decrypt client ref keyVersion => state.useKey namespace_ (.decrypt client ref keyVersion)
  | .finishLoad which approved => state.finishLoad mydata which approved
  | .clearCache client groupId => state.onClient client (·.clear groupId)

end State

end MessagingStack.Sdk.Envelope

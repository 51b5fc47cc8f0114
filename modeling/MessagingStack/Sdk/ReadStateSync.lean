import MessagingStack.Base.Runs
import MessagingStack.Base.Text
import MessagingStack.Sdk.ReadState

/-!
# Clients that share one read state

Any number of clients of one wallet, each a `MessagingSyncManager` with its own cache and any number
of calls under way, against the record of the relayer.  A put without an expected version is
unconditional, so two clients that start together can overwrite each other (`second_first_write`);
if no such put meets a blob, `updates_are_kept` has what compare-and-set is for.
-/

namespace MessagingStack.Sdk.ReadStateSync

open UserReadState

variable {β : Type}

/-- `encryptReadState` and `decryptReadState` under the key of the wallet. -/
structure Cipher (β : Type) where
  encrypt : (nonce : Bytes) → UserReadState → β
  decrypt : β → Option UserReadState
  decrypt_encrypt : ∀ nonce state, decrypt (encrypt nonce state) = some state

/-- The storage of the relayer. -/
inductive Backend where
  | memory
  | postgres
  deriving DecidableEq

/-- `CachedReadState`; the time of the fetch only decides about unread counts. -/
structure CachedReadState where
  state : UserReadState
  /-- Absent when no remote blob exists yet. -/
  blobVersion : Option Nat

/-- The arguments of `updateReadState`. -/
structure Target where
  groupId : String
  readUpto : Int
  localState : Option UserReadState

/-- A put on its way: what is written, and over which version. -/
structure Put (β : Type) where
  attempt : Nat
  merged : UserReadState
  encryptedBlob : β
  expectedVersion : Option Nat

/-- Where a call stands. -/
inductive Phase (β : Type) where
  /-- The blob is asked for. -/
  | fetching
  /-- The relayer has answered, with no record for a 404. -/
  | fetched (answer : Option (EncryptedBlobRecord β))
  /-- `getReadState` is done and the cache is about to be read. -/
  | reading
  /-- A put is on its way to the relayer. -/
  | putting (put : Put β)
  /-- The transaction of the put has selected no row. -/
  | inserting (put : Put β)
  | answered (put : Put β) (result : PutUserReadStateResult β)
  | resolved
  | rejected

/-- One call of a client: an update, or a `getReadState` of its own. -/
structure Call (β : Type) where
  client : Nat
  target : Option Target
  phase : Phase β
  /-- The client still waits for the answer; a request outlives a client that does not. -/
  waiting : Bool

/-- The clients and the relayer. -/
structure World (β : Type) where
  blob : Option (EncryptedBlobRecord β)
  caches : Nat → Option CachedReadState
  calls : Nat → Option (Call β)
  /-- The states written so far, the first version first.  No function reads it. -/
  log : List UserReadState
  /-- The versions a client has read or written.  No function reads it. -/
  seen : Nat → List Nat
  /-- The updates that have resolved.  No function reads it. -/
  done : List (String × Int)

/-- No blob, no call, nothing cached. -/
def start : World β where
  blob := none
  caches _ := none
  calls _ := none
  log := []
  seen _ := []
  done := []

namespace World

def setCall (world : World β) (id : Nat) (call : Call β) : World β :=
  { world with calls := Function.update world.calls id (some call) }

def setCache (world : World β) (client : Nat) (cached : Option CachedReadState) : World β :=
  { world with caches := Function.update world.caches client cached }

def see (world : World β) (client version : Nat) : World β :=
  { world with seen := Function.update world.seen client (version :: world.seen client) }

def record (world : World β) (state : UserReadState) : World β :=
  { world with log := world.log ++ [state] }

def resolve (world : World β) (id : Nat) (call : Call β) : World β :=
  { world.setCall id { call with phase := .resolved } with
    done :=
      match call.target with
      | none => world.done
      | some target => world.done ++ [(target.groupId, target.readUpto)] }

def reject (world : World β) (id : Nat) (call : Call β) : World β :=
  world.setCall id { call with phase := .rejected }

@[simp] theorem calls_setCall (world : World β) (id : Nat) (call : Call β) (wanted : Nat) :
    (world.setCall id call).calls wanted =
      if wanted = id then some call else world.calls wanted := by
  simp only [setCall, Function.update_apply]

@[simp] theorem caches_setCache (world : World β) (client : Nat)
    (cached : Option CachedReadState) (wanted : Nat) :
    (world.setCache client cached).caches wanted =
      if wanted = client then cached else world.caches wanted := by
  simp only [setCache, Function.update_apply]

@[simp] theorem seen_see (world : World β) (client version wanted : Nat) :
    (world.see client version).seen wanted =
      if wanted = client then version :: world.seen client else world.seen wanted := by
  simp only [see, Function.update_apply]

end World

/-- The state an update writes over what it believes the server holds. -/
def mergedState (target : Target) (serverState : UserReadState) (now : Int) : UserReadState :=
  let base :=
    match target.localState with
    | none => serverState
    | some localState => mergeReadState localState serverState
  base.advance target.groupId target.readUpto now

/-- `MAX_PUT_ATTEMPTS`. -/
def maxPutAttempts : Nat := 3

/-- One turn of the loop of `updateReadState`, up to the request. -/
def tryPut (cipher : Cipher β) (world : World β) (id : Nat) (call : Call β) (target : Target)
    (attempt : Nat) (server : CachedReadState) (now : Int) (nonce : Bytes) : World β :=
  -- the no-op skip
  if target.readUpto ≤ server.state.watermark target.groupId ∧
      server.blobVersion.isSome ∧ target.localState.isNone then
    world.resolve id call
  else
    let merged := mergedState target server.state now
    world.setCall id
      { call with
        phase := .putting
          { attempt := attempt
            merged := merged
            encryptedBlob := cipher.encrypt nonce merged
            expectedVersion := server.blobVersion } }

/-- The events of the system.  The time and the random nonce are the environment's. -/
inductive Input where
  /-- A client calls `updateReadState`, or `getReadState` without a target. -/
  | invoke (id client : Nat) (target : Option Target) (now : Int) (nonce : Bytes)
  /-- The relayer answers the request for the blob. -/
  | serve (id : Nat)
  /-- The answer arrives. -/
  | receive (id : Nat) (now : Int)
  /-- The update goes on behind `getReadState`. -/
  | resume (id : Nat) (now : Int) (nonce : Bytes)
  /-- The relayer takes the put. -/
  | execute (id : Nat)
  /-- The transaction that selected no row inserts. -/
  | insert (id : Nat)
  /-- The answer to the put arrives. -/
  | settle (id : Nat) (now : Int) (nonce : Bytes)
  /-- The client gives up waiting: a timeout, or an answer that got lost. -/
  | lose (id : Nat)
  /-- `invalidateReadState`. -/
  | invalidate (client : Nat) (blobVersion : Option Nat)

/-- The relayer writes the blob of a put. -/
def write (world : World β) (id : Nat) (call : Call β) (put : Put β) (version : Nat)
    (blob : Option (EncryptedBlobRecord β)) : World β :=
  ((({ world with blob := blob }).record put.merged).see call.client version).setCall id
    { call with phase := .answered put (.stored version) }

/-- The relayer takes a put. -/
def executePut (backend : Backend) (world : World β) (id : Nat) (call : Call β)
    (put : Put β) : World β :=
  match backend, world.blob with
  | .postgres, none => world.setCall id { call with phase := .inserting put }
  | _, _ =>
    match putUserReadState world.blob put.encryptedBlob put.expectedVersion with
    | (.stored version, blob) => write world id call put version blob
    | (.conflict current, _) =>
      world.setCall id { call with phase := .answered put (.conflict current) }

/-- The answer to `getReadState` arrives. -/
def receiveBlob (cipher : Cipher β) (world : World β) (id : Nat) (call : Call β) (now : Int) :
    Option (EncryptedBlobRecord β) → World β
  | none => after (world.setCache call.client (some ⟨createEmptyReadState now, none⟩))
  | some record =>
    match cipher.decrypt record.encryptedBlob with
    | none => world.reject id call
    | some state =>
      after ((world.setCache call.client (some ⟨state, some record.blobVersion⟩)).see
        call.client record.blobVersion)
where
  /-- An update goes on, a `getReadState` of its own is over. -/
  after (world : World β) : World β :=
    match call.target with
    | none => world.resolve id call
    | some _ => world.setCall id { call with phase := .reading }

/-- The answer to a put arrives. -/
def settlePut (cipher : Cipher β) (world : World β) (id : Nat) (call : Call β) (target : Target)
    (put : Put β) (now : Int) (nonce : Bytes) : PutUserReadStateResult β → World β
  | .stored version =>
    (world.setCache call.client (some ⟨put.merged, some version⟩)).resolve id call
  | .conflict current =>
    if put.attempt < maxPutAttempts - 1 then
      match cipher.decrypt current.encryptedBlob with
      | none => world.reject id call
      | some state =>
        tryPut cipher
          ((world.setCache call.client (some ⟨state, some current.blobVersion⟩)).see
            call.client current.blobVersion)
          id call target (put.attempt + 1) ⟨state, some current.blobVersion⟩ now nonce
    else world.reject id call

/-- `invalidateReadState`: what is left of the cache. -/
def invalidated (cached : Option CachedReadState) (blobVersion : Option Nat) :
    Option CachedReadState :=
  match cached, blobVersion with
  | some ⟨state, some cachedVersion⟩, some version =>
    if version ≤ cachedVersion then some ⟨state, some cachedVersion⟩ else none
  | _, _ => none

/-- One event; one that the call does not wait for changes nothing. -/
def step (cipher : Cipher β) (backend : Backend) (world : World β) : Input → World β
  | .invoke id client target now nonce =>
    match world.calls id with
    | some _ => world
    | none =>
      match target, world.caches client with
      | some target, some cached =>
        tryPut cipher world id ⟨client, some target, .reading, true⟩ target 0 cached now nonce
      | target, _ => world.setCall id ⟨client, target, .fetching, true⟩
  | .serve id =>
    match world.calls id with
    | some ⟨client, target, .fetching, waiting⟩ =>
      world.setCall id ⟨client, target, .fetched world.blob, waiting⟩
    | _ => world
  | .receive id now =>
    match world.calls id with
    | some ⟨client, target, .fetched answer, true⟩ =>
      receiveBlob cipher world id ⟨client, target, .fetched answer, true⟩ now answer
    | _ => world
  | .resume id now nonce =>
    match world.calls id with
    | some ⟨client, some target, .reading, true⟩ =>
      match world.caches client with
      | none => world.reject id ⟨client, some target, .reading, true⟩
      | some cached =>
        tryPut cipher world id ⟨client, some target, .reading, true⟩ target 0 cached now nonce
    | _ => world
  | .execute id =>
    match world.calls id with
    | some ⟨client, target, .putting put, waiting⟩ =>
      executePut backend world id ⟨client, target, .putting put, waiting⟩ put
    | _ => world
  | .insert id =>
    match world.calls id with
    | some ⟨client, target, .inserting put, waiting⟩ =>
      write world id ⟨client, target, .inserting put, waiting⟩ put 1 (some ⟨put.encryptedBlob, 1⟩)
    | _ => world
  | .settle id now nonce =>
    match world.calls id with
    | some ⟨client, some target, .answered put result, true⟩ =>
      settlePut cipher world id ⟨client, some target, .answered put result, true⟩ target put
        now nonce result
    | _ => world
  | .lose id =>
    match world.calls id with
    | some call => world.setCall id { call with waiting := false }
    | none => world
  | .invalidate client blobVersion =>
    world.setCache client (invalidated (world.caches client) blobVersion)

/-- The state after a run. -/
def reached (cipher : Cipher β) (backend : Backend) (inputs : List Input) : World β :=
  inputs.foldl (step cipher backend) start

/-! ## The condition on a step -/

/-- The put on its way has no expected version. -/
def Call.isUnconditional (call : Call β) : Bool :=
  match call.phase with
  | .putting put => put.expectedVersion.isNone
  | _ => false

/-- The transaction of the put has selected no row. -/
def Call.isInserting (call : Call β) : Bool :=
  match call.phase with
  | .inserting _ => true
  | _ => false

/-- A put without an expected version reaches the relayer only while there is no blob, and
an insert that followed an empty select writes only while there is none. -/
def Good (world : World β) : Input → Prop
  | .execute id => (world.calls id).any Call.isUnconditional = true → world.blob.isNone = true
  | .insert id => (world.calls id).any Call.isInserting = true → world.blob.isNone = true
  | _ => True

instance (world : World β) (input : Input) : Decidable (Good world input) := by
  unfold Good
  cases input <;> infer_instance

/-! ## What a step keeps -/

/-- The client whose write an event is. -/
def writer (world : World β) : Input → Option Nat
  | .execute id | .insert id => (world.calls id).map (·.client)
  | _ => none

/-- What the relayer holds, decrypted. -/
def content (cipher : Cipher β) (world : World β) : Option UserReadState :=
  world.blob.bind fun record => cipher.decrypt record.encryptedBlob

/-- A step loses nothing: no watermark goes back, a blob is replaced by one of a larger
version, and by a client that has read or written it. -/
structure Keeps (cipher : Cipher β) (before : World β) (input : Input)
    (after : World β) : Prop where
  watermarks : ∀ state, content cipher before = some state →
    ∃ later, content cipher after = some later ∧ Below state later
  versions : after.blob ≠ before.blob → ∀ record, before.blob = some record →
    ∃ next, after.blob = some next ∧ record.blobVersion < next.blobVersion
  seen : after.blob ≠ before.blob → ∀ record, before.blob = some record →
    ∃ client, writer before input = some client ∧ record.blobVersion ∈ before.seen client

/-! ## The invariant -/

def At (log : List UserReadState) (version : Nat) (state : UserReadState) : Prop :=
  ∃ index, version = index + 1 ∧ log[index]? = some state

def Holds (cipher : Cipher β) (log : List UserReadState) (record : EncryptedBlobRecord β) : Prop :=
  ∃ state, cipher.decrypt record.encryptedBlob = some state ∧ At log record.blobVersion state

/-- A put carries its target, and is over a state it knows and loses nothing of. -/
structure PutOk (cipher : Cipher β) (log : List UserReadState) (seen : List Nat)
    (target : Option Target) (put : Put β) : Prop where
  readable : cipher.decrypt put.encryptedBlob = some put.merged
  carries : ∀ wanted, target = some wanted → wanted.readUpto ≤ put.merged.watermark wanted.groupId
  grounded : ∀ version, put.expectedVersion = some version →
    version ∈ seen ∧ ∃ state, At log version state ∧ Below state put.merged

/-- What a client believes of a version is what was written. -/
def CacheOk (log : List UserReadState) (seen : List Nat) (cached : CachedReadState) : Prop :=
  ∀ version, cached.blobVersion = some version → version ∈ seen ∧ At log version cached.state

/-- What holds of a call where it stands. -/
def PhaseOk (cipher : Cipher β) (log : List UserReadState) (seen : List Nat)
    (target : Option Target) : Phase β → Prop
  | .fetched answer => ∀ record, answer = some record → Holds cipher log record
  | .putting put | .inserting put => PutOk cipher log seen target put
  | .answered put (.stored version) =>
    PutOk cipher log seen target put ∧ version ∈ seen ∧ At log version put.merged
  | .answered _ (.conflict current) => Holds cipher log current
  | .fetching | .reading | .resolved | .rejected => True

/-- The invariant of a run: the blob is the last state written, every state is at or above
the earlier ones, and everything in the clients' hands is one of them. -/
structure Inv (cipher : Cipher β) (world : World β) : Prop where
  absent : world.blob = none → world.log = []
  blob : ∀ record, world.blob = some record →
    record.blobVersion = world.log.length ∧ Holds cipher world.log record
  increasing : world.log.Pairwise Below
  caches : ∀ client cached, world.caches client = some cached →
    CacheOk world.log (world.seen client) cached
  calls : ∀ id call, world.calls id = some call →
    PhaseOk cipher world.log (world.seen call.client) call.target call.phase
  done : ∀ update ∈ world.done, ∃ version state,
    At world.log version state ∧ update.2 ≤ state.watermark update.1

variable {cipher : Cipher β} {backend : Backend} {world : World β}

variable {id : Nat} {call : Call β} {log : List UserReadState} {version : Nat} {put : Put β}
  {input : Input} {state : UserReadState} {seen seen' : List Nat} {target : Option Target}

theorem At.mono (there : At log version state) (more : List UserReadState) :
    At (log ++ more) version state := by
  obtain ⟨index, rfl, found⟩ := there
  refine ⟨index, rfl, ?_⟩
  obtain ⟨inside, -⟩ := List.getElem?_eq_some_iff.mp found
  rwa [List.getElem?_append_left inside]

theorem Holds.mono {record : EncryptedBlobRecord β} (holds : Holds cipher log record)
    (more : List UserReadState) :
    Holds cipher (log ++ more) record := by
  obtain ⟨state, readable, there⟩ := holds
  exact ⟨state, readable, there.mono more⟩

theorem PutOk.mono (ok : PutOk cipher log seen target put) (more : List UserReadState)
    (known : seen ⊆ seen') :
    PutOk cipher (log ++ more) seen' target put := by
  refine ⟨ok.readable, ok.carries, fun version expected => ?_⟩
  obtain ⟨isSeen, state, there, below⟩ := ok.grounded version expected
  exact ⟨known isSeen, state, there.mono more, below⟩

theorem CacheOk.mono {cached : CachedReadState} (ok : CacheOk log seen cached)
    (more : List UserReadState) (known : seen ⊆ seen') : CacheOk (log ++ more) seen' cached := by
  intro version cachedVersion
  obtain ⟨isSeen, there⟩ := ok version cachedVersion
  exact ⟨known isSeen, there.mono more⟩

theorem PhaseOk.mono {phase : Phase β} (ok : PhaseOk cipher log seen target phase)
    (more : List UserReadState) (known : seen ⊆ seen') :
    PhaseOk cipher (log ++ more) seen' target phase := by
  cases phase with
  | fetched => exact fun record answered => (ok record answered).mono more
  | putting | inserting => exact PutOk.mono ok more known
  | answered put result =>
    cases result with
    | stored => exact ⟨ok.1.mono more known, known ok.2.1, ok.2.2.mono more⟩
    | conflict => exact Holds.mono ok more
  | fetching | reading | resolved | rejected => exact trivial

theorem At.unique {left right : UserReadState} (first : At log version left)
    (second : At log version right) : left = right := by
  obtain ⟨index, rfl, found⟩ := first
  obtain ⟨index', same, found'⟩ := second
  obtain rfl : index = index' := Nat.succ.inj same
  rw [found] at found'
  exact Option.some.inj found'

theorem below_last (increasing : log.Pairwise Below) {last : UserReadState}
    (there : At log version state) (lastThere : At log log.length last) : Below state last := by
  obtain ⟨index, rfl, found⟩ := there
  obtain ⟨lastIndex, lengthEq, lastFound⟩ := lastThere
  obtain ⟨inside, rfl⟩ := List.getElem?_eq_some_iff.mp found
  obtain ⟨lastInside, rfl⟩ := List.getElem?_eq_some_iff.mp lastFound
  rcases Nat.lt_or_ge index lastIndex with earlier | notEarlier
  · exact List.pairwise_iff_getElem.mp increasing index lastIndex inside lastInside earlier
  · obtain rfl : index = lastIndex := by omega
    exact Below.refl _

theorem inv_start : Inv cipher start where
  absent _ := rfl
  blob record none := by cases none
  increasing := List.Pairwise.nil
  caches client cached none := by cases none
  calls id call none := by cases none
  done update none := absurd none List.not_mem_nil

/-! ### The updates of a world -/

theorem Inv.setCall (inv : Inv cipher world)
    (ok : PhaseOk cipher world.log (world.seen call.client) call.target call.phase) :
    Inv cipher (world.setCall id call) where
  absent := inv.absent
  blob := inv.blob
  increasing := inv.increasing
  caches := inv.caches
  calls wanted found present := by
    rw [World.calls_setCall] at present
    split_ifs at present
    · cases present
      exact ok
    · exact inv.calls wanted found present
  done := inv.done

theorem Inv.setCache (inv : Inv cipher world) {client : Nat} {cached : Option CachedReadState}
    (ok : ∀ entry, cached = some entry → CacheOk world.log (world.seen client) entry) :
    Inv cipher (world.setCache client cached) where
  absent := inv.absent
  blob := inv.blob
  increasing := inv.increasing
  caches wanted entry present := by
    rw [World.caches_setCache] at present
    split_ifs at present with here
    · subst here
      exact ok entry present
    · exact inv.caches wanted entry present
  calls := inv.calls
  done := inv.done

theorem seen_subset_see (world : World β) (client version wanted : Nat) :
    world.seen wanted ⊆ (world.see client version).seen wanted := by
  intro known member
  rw [World.seen_see]
  split_ifs with here
  · subst here
    exact List.mem_cons_of_mem version member
  · exact member

theorem mem_seen_see (world : World β) (client version : Nat) :
    version ∈ (world.see client version).seen client := by
  rw [World.seen_see, if_pos rfl]
  exact List.mem_cons_self

theorem Inv.see (inv : Inv cipher world) (client version : Nat) :
    Inv cipher (world.see client version) where
  absent := inv.absent
  blob := inv.blob
  increasing := inv.increasing
  caches wanted cached present := by
    have ok :=
      (inv.caches wanted cached present).mono [] (seen_subset_see world client version wanted)
    rwa [List.append_nil] at ok
  calls id call present := by
    have ok :=
      (inv.calls id call present).mono [] (seen_subset_see world client version call.client)
    rwa [List.append_nil] at ok
  done := inv.done

theorem Inv.resolve (inv : Inv cipher world)
    (kept : ∀ target, call.target = some target → ∃ version state, At world.log version state ∧
      target.readUpto ≤ state.watermark target.groupId)
    :
    Inv cipher (world.resolve id call) := by
  have set : Inv cipher (world.setCall id { call with phase := .resolved }) := inv.setCall trivial
  refine ⟨set.absent, set.blob, set.increasing, set.caches, set.calls, ?_⟩
  intro update member
  simp only [World.resolve] at member
  cases targeted : call.target with
  | none =>
    rw [targeted] at member
    exact inv.done update member
  | some target =>
    rw [targeted] at member
    rcases List.mem_append.mp member with earlier | new
    · exact inv.done update earlier
    · rw [List.mem_singleton.mp new]
      exact kept target targeted

theorem Inv.reject (inv : Inv cipher world) :
    Inv cipher (world.reject id call) :=
  inv.setCall trivial

theorem below_mergedState (target : Target) (serverState : UserReadState) (now : Int) :
    Below serverState (mergedState target serverState now) := by
  unfold mergedState
  cases target.localState with
  | none => exact below_advance _ _ _ _
  | some localState =>
    exact (below_mergeReadState localState serverState).trans (below_advance _ _ _ _)

theorem Inv.tryPut (inv : Inv cipher world) {target : Target} (targeted : call.target = some target)
    {attempt : Nat} {server : CachedReadState}
    (ok : CacheOk world.log (world.seen call.client) server) (now : Int) (nonce : Bytes) :
    Inv cipher (tryPut cipher world id call target attempt server now nonce) := by
  unfold ReadStateSync.tryPut
  split_ifs with noop
  · obtain ⟨reached, versioned, -⟩ := noop
    obtain ⟨version, cachedVersion⟩ := Option.isSome_iff_exists.mp versioned
    refine inv.resolve fun wanted isTarget => ?_
    cases targeted ▸ isTarget
    exact ⟨version, server.state, (ok version cachedVersion).2, reached⟩
  refine inv.setCall
    ⟨cipher.decrypt_encrypt nonce _, fun wanted isTarget => ?_, fun version expected => ?_⟩
  · cases isTarget.symm.trans targeted
    exact le_watermark_advance _ _ _ _
  · obtain ⟨isSeen, there⟩ := ok version expected
    exact ⟨isSeen, server.state, there, below_mergedState target server.state now⟩

/-! ### A write -/

/-- What makes a write safe: there is no blob, or the put is over the one there is. -/
def Founded (world : World β) (put : Put β) : Prop :=
  world.blob = none ∨
    ∃ record, world.blob = some record ∧ put.expectedVersion = some record.blobVersion

theorem Inv.below_of_founded (inv : Inv cipher world) (ok : PutOk cipher world.log seen target put)
    (founded : Founded world put) (stored : content cipher world = some state) :
    Below state put.merged := by
  rcases founded with absent | ⟨record, present, expected⟩
  · rw [content, absent] at stored
    cases stored
  obtain ⟨-, base, there, below⟩ := ok.grounded _ expected
  obtain ⟨-, held, readable, heldThere⟩ := inv.blob record present
  rw [content, present, Option.bind_some, readable] at stored
  cases stored
  rwa [heldThere.unique there]

theorem Inv.below_content (inv : Inv cipher world) (there : At world.log version state) :
    ∃ last, content cipher world = some last ∧ Below state last := by
  cases present : world.blob with
  | none =>
    obtain ⟨index, -, found⟩ := there
    cases inv.absent present ▸ found
  | some record =>
    obtain ⟨version, last, readable, lastThere⟩ := inv.blob record present
    refine ⟨last, by rw [content, present, Option.bind_some, readable], ?_⟩
    rw [version] at lastThere
    exact below_last inv.increasing there lastThere

theorem Inv.write (inv : Inv cipher world)
    (ok : PutOk cipher world.log (world.seen call.client) call.target put)
    (founded : Founded world put) (next : version = world.log.length + 1) :
    Inv cipher (write world id call put version (some ⟨put.encryptedBlob, version⟩)) := by
  have there : At (world.log ++ [put.merged]) version put.merged :=
    ⟨world.log.length, next, by simp⟩
  have grown : Inv cipher
      (({ world with blob := some ⟨put.encryptedBlob, version⟩ } : World β).record put.merged) := by
    refine ⟨nofun, ?_, ?_, ?_, ?_, ?_⟩
    · rintro record ⟨⟩
      refine ⟨?_, put.merged, ok.readable, there⟩
      simp [World.record, next]
    · refine List.pairwise_append.mpr
        ⟨inv.increasing, List.pairwise_singleton _ _, fun state member last isLast => ?_⟩
      rw [List.mem_singleton.mp isLast]
      obtain ⟨index, found⟩ := List.mem_iff_getElem?.mp member
      obtain ⟨stored, isStored, below⟩ := inv.below_content ⟨index, rfl, found⟩
      exact below.trans (inv.below_of_founded ok founded isStored)
    · intro client cached present
      exact (inv.caches client cached present).mono _ (List.Subset.refl _)
    · intro other found present
      exact (inv.calls other found present).mono _ (List.Subset.refl _)
    · intro update member
      obtain ⟨earlier, state, isThere, reached⟩ := inv.done update member
      exact ⟨earlier, state, isThere.mono _, reached⟩
  refine (grown.see call.client version).setCall ⟨?_, mem_seen_see _ _ _, there⟩
  exact ok.mono _ (seen_subset_see (({ world with
    blob := some ⟨put.encryptedBlob, version⟩ } : World β).record put.merged) call.client
      version call.client)

theorem keeps_of_blob {before after : World β} (same : after.blob = before.blob) :
    Keeps cipher before input after := by
  refine ⟨fun state stored => ⟨state, ?_, Below.refl state⟩, ?_, ?_⟩
  · rwa [content, same]
  · exact fun changed => absurd same changed
  · exact fun changed => absurd same changed

theorem keeps_write (inv : Inv cipher world) (writes : writer world input = some call.client)
    (ok : PutOk cipher world.log (world.seen call.client) call.target put)
    (founded : Founded world put) (next : version = world.log.length + 1) :
    Keeps cipher world input
      (write world id call put version (some ⟨put.encryptedBlob, version⟩)) := by
  refine ⟨fun state stored => ⟨put.merged, ok.readable,
    inv.below_of_founded ok founded stored⟩, ?_, ?_⟩
  · intro _ record present
    refine ⟨_, rfl, ?_⟩
    rw [(inv.blob record present).1, next]
    exact Nat.lt_succ_self _
  intro _ record present
  rcases founded with absent | ⟨stored, isStored, expected⟩
  · cases present ▸ absent
  · cases present ▸ isStored
    exact ⟨call.client, writes, (ok.grounded _ expected).1⟩

/-! ## The steps -/

/-- What a step has to keep. -/
def Kept (cipher : Cipher β) (before : World β) (input : Input) (after : World β) : Prop :=
  Inv cipher after ∧ Keeps cipher before input after

theorem blob_tryPut (world : World β) (id : Nat) (call : Call β) (target : Target) (attempt : Nat)
    (server : CachedReadState) (now : Int) (nonce : Bytes) :
    (tryPut cipher world id call target attempt server now nonce).blob = world.blob := by
  unfold tryPut
  split_ifs <;> rfl

theorem kept_tryPut (inv : Inv cipher world) {target : Target}
    (targeted : call.target = some target) {attempt : Nat} {server : CachedReadState}
    (ok : CacheOk world.log (world.seen call.client) server) (now : Int) (nonce : Bytes) :
    Kept cipher world input (tryPut cipher world id call target attempt server now nonce) :=
  ⟨inv.tryPut targeted ok now nonce, keeps_of_blob (blob_tryPut world id call target attempt
    server now nonce)⟩

theorem kept_executePut (inv : Inv cipher world) (writes : writer world input = some call.client)
    (ok : PutOk cipher world.log (world.seen call.client) call.target put)
    (unexpected : put.expectedVersion = none → world.blob = none) :
    Kept cipher world input (executePut backend world id call put) := by
  unfold executePut
  cases present : world.blob with
  | none =>
    cases backend with
    | postgres => exact ⟨inv.setCall ok, keeps_of_blob rfl⟩
    | memory =>
      have first : 1 = world.log.length + 1 := by rw [inv.absent present]; rfl
      have outcome : putUserReadState none put.encryptedBlob put.expectedVersion =
          (.stored 1, some ⟨put.encryptedBlob, 1⟩) := by
        cases put.expectedVersion <;> rfl
      simp only [outcome]
      exact ⟨inv.write ok (.inl present) first, keeps_write inv writes ok (.inl present) first⟩
  | some record =>
    cases expectation : put.expectedVersion with
    | none => cases unexpected expectation ▸ present
    | some =>
      simp only [putUserReadState]
      split_ifs with other
      · obtain ⟨-, holds⟩ := inv.blob record present
        exact ⟨inv.setCall holds, keeps_of_blob rfl⟩
      have founded : Founded world put :=
        .inr ⟨record, present, by rw [expectation, not_not.mp other]⟩
      have next : record.blobVersion + 1 = world.log.length + 1 := by
        rw [(inv.blob record present).1]
      exact ⟨inv.write ok founded next, keeps_write inv writes ok founded next⟩

/-- The answer to `getReadState` arrives. -/
theorem kept_receiveBlob (inv : Inv cipher world) (now : Int)
    {answer : Option (EncryptedBlobRecord β)}
    (holds : ∀ record, answer = some record → Holds cipher world.log record) :
    Kept cipher world input (receiveBlob cipher world id call now answer) := by
  have goesOn : ∀ next : World β, Inv cipher next → next.blob = world.blob →
      Kept cipher world input (receiveBlob.after id call next) := by
    intro next nextInv same
    unfold receiveBlob.after
    cases targeted : call.target with
    | none =>
      refine ⟨nextInv.resolve fun target isTarget => ?_, keeps_of_blob same⟩
      cases targeted ▸ isTarget
    | some => exact ⟨nextInv.setCall trivial, keeps_of_blob same⟩
  unfold receiveBlob
  cases answer with
  | none =>
    refine goesOn _ (inv.setCache ?_) rfl
    rintro entry ⟨⟩ version versioned
    cases versioned
  | some record =>
    obtain ⟨state, readable, there⟩ := holds record rfl
    simp only [readable]
    refine goesOn _ ?_ rfl
    -- the client sees the version and caches it
    refine Inv.setCache (inv.see call.client record.blobVersion) ?_
    rintro entry ⟨⟩ version ⟨⟩
    exact ⟨mem_seen_see world call.client record.blobVersion, there⟩

theorem kept_settlePut (inv : Inv cipher world) {target : Target}
    (targeted : call.target = some target) (now : Int) (nonce : Bytes)
    {result : PutUserReadStateResult β}
    (ok : PhaseOk cipher world.log (world.seen call.client) call.target (.answered put result)) :
    Kept cipher world input (settlePut cipher world id call target put now nonce result) := by
  cases result with
  | stored version =>
    obtain ⟨putOk, isSeen, there⟩ := ok
    have cached : Inv cipher
        (world.setCache call.client (some ⟨put.merged, some version⟩)) := by
      refine inv.setCache ?_
      rintro entry ⟨⟩ known ⟨⟩
      exact ⟨isSeen, there⟩
    refine ⟨cached.resolve fun wanted isTarget => ?_, keeps_of_blob rfl⟩
    exact ⟨version, put.merged, there, putOk.carries wanted isTarget⟩
  | conflict current =>
    unfold settlePut
    obtain ⟨state, readable, there⟩ := ok
    simp only [readable]
    split_ifs with again
    · have seenInv := inv.see call.client current.blobVersion
      have known : CacheOk world.log
          ((world.see call.client current.blobVersion).seen call.client)
          ⟨state, some current.blobVersion⟩ := by
        rintro version ⟨⟩
        exact ⟨mem_seen_see world call.client current.blobVersion, there⟩
      have cached : Inv cipher ((world.see call.client current.blobVersion).setCache
          call.client (some ⟨state, some current.blobVersion⟩)) := by
        refine seenInv.setCache ?_
        rintro entry ⟨⟩
        exact known
      exact ⟨Inv.tryPut cached targeted known now nonce,
        keeps_of_blob (blob_tryPut _ _ _ _ _ _ _ _)⟩
    · exact ⟨inv.reject, keeps_of_blob rfl⟩

/-- A cache that is thrown away or kept is no new belief. -/
theorem invalidated_of_some {cached : Option CachedReadState} {blobVersion : Option Nat}
    {entry : CachedReadState} (kept : invalidated cached blobVersion = some entry) :
    cached = some entry := by
  unfold invalidated at kept
  split at kept
  · split_ifs at kept
    exact kept
  · cases kept

theorem kept_step (backend : Backend) (inv : Inv cipher world) (input : Input)
    (good : Good world input) :
    Kept cipher world input (step cipher backend world input) := by
  have unchanged : Kept cipher world input world := ⟨inv, keeps_of_blob rfl⟩
  cases input with
  | invoke id client target now nonce =>
    simp only [step]
    cases world.calls id with
    | some => exact unchanged
    | none =>
      cases target with
      | none => exact ⟨inv.setCall trivial, keeps_of_blob rfl⟩
      | some =>
        cases cached : world.caches client with
        | none => exact ⟨inv.setCall trivial, keeps_of_blob rfl⟩
        | some entry => exact kept_tryPut inv rfl (inv.caches client entry cached) now nonce
  | serve =>
    simp only [step]
    split
    · refine ⟨inv.setCall fun record answered => ?_, keeps_of_blob rfl⟩
      exact (inv.blob record answered).2
    · exact unchanged
  | receive id now =>
    simp only [step]
    split
    · rename_i client target answer present
      exact kept_receiveBlob inv now (inv.calls id _ present)
    · exact unchanged
  | resume id now nonce =>
    simp only [step]
    split
    · rename_i client target present
      cases cached : world.caches client with
      | none => exact ⟨inv.reject, keeps_of_blob rfl⟩
      | some entry => exact kept_tryPut inv rfl (inv.caches client entry cached) now nonce
    · exact unchanged
  | execute id =>
    simp only [step]
    split
    · rename_i client target put waiting present
      refine kept_executePut inv ?_ (inv.calls id _ present) fun unexpected => ?_
      · simp only [writer, present, Option.map_some]
      · refine Option.isNone_iff_eq_none.mp (good ?_)
        simp [present, Call.isUnconditional, unexpected]
    · exact unchanged
  | insert id =>
    simp only [step]
    split
    · rename_i client target put waiting present
      have absent : world.blob = none := by
        refine Option.isNone_iff_eq_none.mp (good ?_)
        simp [present, Call.isInserting]
      have first : 1 = world.log.length + 1 := by rw [inv.absent absent]; rfl
      have ok : PutOk cipher world.log (world.seen client) target put := inv.calls id _ present
      have writes : writer world (.insert id) = some client := by
        simp only [writer, present, Option.map_some]
      exact ⟨inv.write ok (.inl absent) first, keeps_write inv writes ok (.inl absent) first⟩
    · exact unchanged
  | settle id now nonce =>
    simp only [step]
    split
    · rename_i client target put result present
      exact kept_settlePut inv rfl now nonce (inv.calls id _ present)
    · exact unchanged
  | lose id =>
    simp only [step]
    split
    · rename_i call present
      exact ⟨inv.setCall (inv.calls id call present), keeps_of_blob rfl⟩
    · exact unchanged
  | invalidate client =>
    refine ⟨inv.setCache fun entry kept => ?_, keeps_of_blob rfl⟩
    exact inv.caches client entry (invalidated_of_some kept)

/-! ## Runs -/

theorem inv_run {inputs : List Input} (inv : Inv cipher world)
    (along : Along (step cipher backend) Good world inputs) :
    Inv cipher (inputs.foldl (step cipher backend) world) := by
  refine Along.invariant ?_ along inv
  intro state input held good
  exact (kept_step backend held input good).1

theorem content_run {inputs : List Input} (inv : Inv cipher world)
    (along : Along (step cipher backend) Good world inputs)
    (stored : content cipher world = some state) :
    ∃ later, content cipher (inputs.foldl (step cipher backend) world) = some later ∧
      Below state later := by
  induction inputs generalizing world state with
  | nil => exact ⟨state, stored, Below.refl state⟩
  | cons input rest ih =>
    obtain ⟨good, along⟩ := along
    obtain ⟨nextInv, keeps⟩ := kept_step backend inv input good
    obtain ⟨next, nextStored, below⟩ := keeps.watermarks state stored
    obtain ⟨later, laterStored, below'⟩ := ih nextInv along nextStored
    exact ⟨later, laterStored, below.trans below'⟩

/-- **No update is lost.**  In every run whose steps meet the condition, every step keeps
the watermarks, replaces a blob only by one of a larger version and by a client that has
read or written the replaced one; and an update that has resolved is at or below the stored
watermark from then on. -/
theorem updates_are_kept (cipher : Cipher β) (backend : Backend) (inputs : List Input)
    (along : Along (step cipher backend) Good start inputs) :
    (∀ before input rest, inputs = before ++ input :: rest →
      Keeps cipher (reached cipher backend before) input
        (reached cipher backend (before ++ [input]))) ∧
    (∀ before rest, inputs = before ++ rest →
      ∀ update ∈ (reached cipher backend before).done,
        ∃ state, content cipher (reached cipher backend inputs) = some state ∧
          update.2 ≤ state.watermark update.1) := by
  constructor
  · rintro before input rest rfl
    obtain ⟨first, good, -⟩ := (Along.append start before (input :: rest)).mp along
    have next : reached cipher backend (before ++ [input]) =
        step cipher backend (reached cipher backend before) input := by
      rw [reached, List.foldl_append]
      rfl
    rw [next]
    exact (kept_step backend (inv_run inv_start first) input good).2
  rintro before rest rfl update resolved
  obtain ⟨first, second⟩ := (Along.append start before rest).mp along
  have inv : Inv cipher (reached cipher backend before) := inv_run inv_start first
  obtain ⟨version, state, there, carried⟩ := inv.done update resolved
  obtain ⟨stored, isStored, below⟩ := inv.below_content there
  obtain ⟨later, laterStored, below'⟩ := content_run inv second isStored
  refine ⟨later, by rw [reached, List.foldl_append]; exact laterStored, ?_⟩
  exact Int.le_trans carried (Int.le_trans (below update.1) (below' update.1))


/-! ### Two clients, one after the other and at once -/

def sampleCipher : Cipher (Bytes × UserReadState) where
  encrypt nonce state := (nonce, state)
  decrypt blob := some blob.2
  decrypt_encrypt _ _ := rfl

/-- The update of a client that finds nothing in its cache, up to the put. -/
def opening (id client : Nat) (groupId : String) (readUpto : Int) : List Input :=
  [.invoke id client (some ⟨groupId, readUpto, none⟩) 0 [], .serve id, .receive id 0,
    .resume id 0 []]

/-- The put of a client and its answer. -/
def closing (id : Nat) : List Input := [.execute id, .settle id 0 []]

/-- The second client starts when the first one is done. -/
def sequentialInputs : List Input :=
  opening 0 0 "g" 5 ++ closing 0 ++ opening 1 1 "h" 7 ++ closing 1

/-- Both clients have found no blob when the first put is executed. -/
def racingInputs : List Input := opening 0 0 "g" 5 ++ opening 1 1 "h" 7 ++ closing 0 ++ closing 1

theorem updates_are_kept_sequential :
    ("g", (5 : Int)) ∈ (reached sampleCipher .memory sequentialInputs).done ∧
      ∃ state, content sampleCipher (reached sampleCipher .memory sequentialInputs) = some state ∧
        (5 : Int) ≤ state.watermark "g" := by
  have resolved : ("g", (5 : Int)) ∈ (reached sampleCipher .memory sequentialInputs).done := by
    decide +kernel
  have kept := (updates_are_kept sampleCipher .memory sequentialInputs (by decide +kernel)).2
  exact ⟨resolved, kept sequentialInputs [] (List.append_nil _).symm ("g", 5) resolved⟩

/-- **The second first write.**  Both updates have resolved, and the watermark of the
first one is gone: the put of the second client had no version to compare. -/
theorem second_first_write :
    ¬∀ update ∈ (reached sampleCipher .memory racingInputs).done,
      ∃ state, content sampleCipher (reached sampleCipher .memory racingInputs) = some state ∧
        update.2 ≤ state.watermark update.1 := by
  intro kept
  have resolved : ("g", (5 : Int)) ∈ (reached sampleCipher .memory racingInputs).done := by
    decide +kernel
  obtain ⟨state, stored, carried⟩ := kept _ resolved
  have lost : (content sampleCipher (reached sampleCipher .memory racingInputs)).map
      (·.watermark "g") = some (-1) := by
    decide +kernel
  rw [stored, Option.map_some, Option.some.injEq] at lost
  rw [lost] at carried
  exact absurd carried (by decide)

end MessagingStack.Sdk.ReadStateSync

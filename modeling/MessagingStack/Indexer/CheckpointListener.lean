import MessagingStack.Base.LastWriter
import MessagingStack.Base.MapWrites
import MessagingStack.Base.Runs
import MessagingStack.Base.TextSearch

/-!
# The discovery indexer

`checkpoint-listener.ts` and the modules it uses, as a machine: the chain grows, the stream
connects at the tip, delivers the next checkpoint and breaks, and a started inspection completes,
in any order.  A run is complete when idle (`complete_when_idle`) if no delivered checkpoint has
more matching events than free inspections, comes after a gap of a reconnection, or has two events
of one message (`Orderly`).
-/

namespace MessagingStack.Indexer

/-! ## Events and blobs -/

/-- The index tags of a file. -/
abbrev Tags := List (String × String)

structure File where
  tags : Tags
  identifier : Option String
  /-- `getIdentifier` and `getTags` do not throw. -/
  readable : Bool

/-- An event of a transaction, with what reading its blob gives. -/
structure Event where
  sender : Option String
  eventType : Option String
  contents : Option Bytes
  /-- `none`: the blob or its index cannot be read. -/
  files : Option (List File)

structure Config where
  fileStoragePackageId : String
  publisherMySoAddress : Option String

/-- What the indexer uses of the language and of its libraries. -/
structure Library (Number : Type) where
  toLowerCase : String → String
  parseInt : String → Number
  /-- `BlobCertifiedBcs.parse` and `blobIdFromInt`; `none` where they throw. -/
  blobId : Bytes → Option String

/-- `if (text)` of a text that may be missing. -/
def present : Option String → Option String
  | some text => if text = "" then none else some text
  | none => none

/-- `replace(/^0x/, '')`. -/
def withoutPrefix (text : String) : String :=
  match text.toList with
  | '0' :: 'x' :: rest => String.ofList rest
  | _ => text

/-- `MSG_PREFIX` -/
def msgPrefix : String := "msg-"

/-- `SOURCE_TAG` -/
def sourceTag : String := "myso-messaging-relayer"

variable {Number : Type} (library : Library Number) (config : Config)

def senderPasses (event : Event) : Bool :=
  match present config.publisherMySoAddress, present event.sender with
  | some publisher, some sender => library.toLowerCase sender = library.toLowerCase publisher
  | _, _ => true

def parseFileStorageEvent (event : Event) : Option String :=
  let normalizedPkg := library.toLowerCase (withoutPrefix config.fileStoragePackageId)
  let eventType := library.toLowerCase (event.eventType.getD "")
  if Text.contains eventType normalizedPkg && Text.contains eventType "blobcertified" then
    event.contents.bind library.blobId
  else none

/-- `DiscoveredPatch`; a checkpoint is written as a decimal and read back. -/
structure DiscoveredPatch (Number : Type) where
  identifier : String
  messageId : String
  groupId : String
  senderAddress : String
  syncStatus : String
  blobId : String
  order : Option Number
  checkpoint : Nat
  deriving DecidableEq

def DiscoveredPatch.message (patch : DiscoveredPatch Number) : String × String :=
  (patch.groupId, patch.messageId)

structure DiscoveryEvent (Number : Type) where
  blobId : String
  checkpoint : Nat
  patches : List (DiscoveredPatch Number)

/-- A matching event of a checkpoint: an inspection to be started. -/
structure Inspection where
  checkpoint : Nat
  blobId : String
  files : Option (List File)

/-- The patch of a file; `none` where the file is not a message or cannot be read. -/
def patchOf (inspection : Inspection) (file : File) : Option (DiscoveredPatch Number) :=
  match file.readable, file.identifier with
  | true, some identifier =>
    if msgPrefix.toList.isPrefixOf identifier.toList then
      some {
        identifier := identifier
        messageId := String.ofList (identifier.toList.drop msgPrefix.length)
        groupId := (file.tags.lookup "group_id").getD ""
        senderAddress := (file.tags.lookup "sender").getD ""
        syncStatus := (file.tags.lookup "sync_status").getD ""
        blobId := inspection.blobId
        order := (present (file.tags.lookup "order")).map library.parseInt
        checkpoint := inspection.checkpoint }
    else none
  | _, _ => none

def patchesOf (inspection : Inspection) : List (DiscoveredPatch Number) :=
  let files := (inspection.files.getD []).filter fun file =>
    file.tags.lookup "source" = some sourceTag
  files.filterMap (patchOf library inspection)

def inspectBlob (inspection : Inspection) : Option (DiscoveryEvent Number) :=
  match inspection.files with
  | none => none
  | some files =>
    let files := files.filter fun file => file.tags.lookup "source" = some sourceTag
    if files.length = 0 then none
    else
      let patches := files.filterMap (patchOf library inspection)
      if patches.length = 0 then none
      else some ⟨inspection.blobId, inspection.checkpoint, patches⟩

/-! ## The store -/

structure DiscoveryStore (Number : Type) where
  groups : OrderedMap String (OrderedMap String (DiscoveredPatch Number))
  lastCheckpoint : Nat

namespace DiscoveryStore

def new : DiscoveryStore Number := ⟨∅, 0⟩

def patch (store : DiscoveryStore Number) (message : String × String) :
    Option (DiscoveredPatch Number) :=
  (store.groups.get message.1).bind (·.get message.2)

def setLatest (groupMap : OrderedMap String (DiscoveredPatch Number))
    (patch : DiscoveredPatch Number) : OrderedMap String (DiscoveredPatch Number) :=
  match groupMap.get patch.messageId with
  | some existing =>
    if patch.checkpoint > existing.checkpoint then groupMap.insert patch.messageId patch
    else groupMap
  | none => groupMap.insert patch.messageId patch

def addPatch (store : DiscoveryStore Number) (patch : DiscoveredPatch Number) :
    DiscoveryStore Number :=
  { store with
    groups := store.groups.insert patch.groupId
      (setLatest ((store.groups.get patch.groupId).getD ∅) patch) }

def addDiscovery (store : DiscoveryStore Number) (event : DiscoveryEvent Number) :
    DiscoveryStore Number :=
  event.patches.foldl addPatch store

def setLastCheckpoint (store : DiscoveryStore Number) (seq : Nat) : DiscoveryStore Number :=
  { store with lastCheckpoint := seq }

end DiscoveryStore

/-! ## The listener -/

abbrev Transactions := List (List Event)

structure Checkpoint where
  sequenceNumber : Option Nat
  transactions : Transactions

/-- A response of `subscribeCheckpoints`. -/
structure Response where
  checkpoint : Option Checkpoint
  cursor : Option Nat

/-- `MAX_CONCURRENT_INSPECTIONS` -/
def maxConcurrentInspections : Nat := 10

structure State (Number : Type) where
  chain : List Transactions
  /-- What the connected stream delivers next. -/
  next : Option Nat
  inFlight : Nat
  running : List Inspection
  store : DiscoveryStore Number
  /-- The first checkpoint seen. -/
  first : Option Nat

def inspection? (checkpointSeq : Nat) (event : Event) : Option Inspection :=
  if senderPasses library config event then
    (parseFileStorageEvent library config event).map fun blobId =>
      ⟨checkpointSeq, blobId, event.files⟩
  else none

/-- The body of the loops over the events: an event that matches is inspected, if there is a
free place, else it is skipped. -/
def offer (checkpointSeq : Nat) (state : State Number) (event : Event) : State Number :=
  match inspection? library config checkpointSeq event with
  | none => state
  | some inspection =>
    if state.inFlight ≥ maxConcurrentInspections then state
    else
      { state with
        inFlight := state.inFlight + 1
        running := state.running ++ [inspection] }

/-- The body of the loop over the responses. -/
def handleResponse (state : State Number) (response : Response) : State Number :=
  match response.checkpoint with
  | none => state
  | some checkpoint =>
    let checkpointSeq := (response.cursor.or checkpoint.sequenceNumber).getD 0
    let state := checkpoint.transactions.flatten.foldl (offer library config checkpointSeq) state
    { state with
      store := state.store.setLastCheckpoint checkpointSeq
      first := some (state.first.getD checkpointSeq) }

/-- What can happen. -/
inductive Input where
  /-- The chain grows by a checkpoint. -/
  | grow (transactions : Transactions)
  /-- A stream is opened; it starts at the tip of the chain. -/
  | connect
  /-- The stream delivers its next checkpoint, if there is one. -/
  | deliver
  /-- A response without a checkpoint. -/
  | progress (cursor : Option Nat)
  /-- The stream breaks or ends. -/
  | disconnect
  /-- A running inspection completes. -/
  | complete (index : Nat)

/-- An inspection completes: `then` and `finally`. -/
def finish (state : State Number) (index : Nat) : State Number :=
  match state.running[index]? with
  | none => state
  | some inspection =>
    { state with
      inFlight := state.inFlight - 1
      running := state.running.eraseIdx index
      store :=
        match inspectBlob library inspection with
        | some discovery => state.store.addDiscovery discovery
        | none => state.store }

def step (state : State Number) : Input → State Number
  | .grow transactions => { state with chain := state.chain ++ [transactions] }
  | .connect =>
    if state.next.isSome then state else { state with next := some (state.chain.length - 1) }
  | .deliver =>
    match state.next with
    | none => state
    | some seq =>
      match state.chain[seq]? with
      | none => state
      | some transactions =>
        { handleResponse library config state ⟨some ⟨some seq, transactions⟩, some seq⟩ with
          next := some (seq + 1) }
  | .progress cursor => handleResponse library config state ⟨none, cursor⟩
  | .disconnect => { state with next := none }
  | .complete index => finish library state index

/-- The indexer before its first connection, on a chain. -/
def start (chain : List Transactions) : State Number := ⟨chain, none, 0, [], .new, none⟩

/-! ## What is promised -/

/-- The matching events of a checkpoint, in the order of the chain. -/
def matching (chain : List Transactions) (seq : Nat) : List Inspection :=
  ((chain[seq]?).getD []).flatten.filterMap (inspection? library config seq)

/-- The matching events from one checkpoint on, of as many as `count` checkpoints. -/
def window (chain : List Transactions) (first count : Nat) : List Inspection :=
  (List.range' first count).flatMap (matching library config chain)

/-- The matching events between the first checkpoint seen and the last one recorded. -/
def passed (state : State Number) : List Inspection :=
  match state.first with
  | none => []
  | some first => window library config state.chain first (state.store.lastCheckpoint + 1 - first)

/-- **Nothing is missed**: every message that an event between the first checkpoint seen and the
last one recorded has in a readable blob is in the store, and its stored patch is one of the
latest such event. -/
structure Complete (state : State Number) : Prop where
  stored : ∀ event ∈ passed library config state, ∀ patch ∈ patchesOf library event,
    (state.store.patch patch.message).isSome
  latest : ∀ before event after, passed library config state = before ++ event :: after →
    ∀ patch ∈ patchesOf library event,
      (∀ later ∈ after, ∀ other ∈ patchesOf library later, other.message ≠ patch.message) →
      ∃ kept ∈ patchesOf library event, kept.message = patch.message ∧
        state.store.patch patch.message = some kept

/-- Two events have no message in common. -/
def Apart (left right : Inspection) : Prop :=
  ∀ patch ∈ patchesOf library left, ∀ other ∈ patchesOf library right, patch.message ≠ other.message

/-- **An orderly delivery**: the checkpoint is not behind the one that follows the last, there is
a free inspection for each of its matching events, and no two of them have a message in common. -/
structure OrderlyDelivery (state : State Number) (seq : Nat) : Prop where
  follows : state.first ≠ none → seq ≤ state.store.lastCheckpoint + 1
  free : state.inFlight + (matching library config state.chain seq).length ≤
    maxConcurrentInspections
  apart : (matching library config state.chain seq).Pairwise (Apart library)

/-- The condition on a step. -/
def Orderly (state : State Number) : Input → Prop
  | .deliver => ∀ seq, state.next = some seq → seq < state.chain.length →
      OrderlyDelivery library config state seq
  | _ => True

/-! ## One step of the store and of the listener -/

section Steps

variable {library} {config}

theorem checkpoint_of_mem {inspection : Inspection} {patch : DiscoveredPatch Number}
    (isIn : patch ∈ patchesOf library inspection) : patch.checkpoint = inspection.checkpoint := by
  obtain ⟨file, -, read⟩ := List.mem_filterMap.mp isIn
  rw [patchOf] at read
  split at read
  · split at read
    · rw [← Option.some.inj read]
    · cases read
  · cases read

theorem addDiscovery_inspectBlob (store : DiscoveryStore Number) (inspection : Inspection) :
    (match inspectBlob library inspection with
      | some discovery => store.addDiscovery discovery
      | none => store) = (patchesOf library inspection).foldl .addPatch store := by
  cases files : inspection.files with
  | none => simp [inspectBlob, patchesOf, files]
  | some list =>
    have patches : patchesOf library inspection =
        (list.filter fun file => file.tags.lookup "source" = some sourceTag).filterMap
          (patchOf library inspection) := by
      rw [patchesOf, files, Option.getD_some]
    simp only [inspectBlob, files]
    rw [← patches]
    split
    · next discovery found =>
      split at found
      · cases found
      split at found
      · cases found
      · rw [← Option.some.inj found]
        rfl
    next found =>
    have nothing : patchesOf library inspection = [] := by
      split at found
      · next noFile => rw [patches, List.length_eq_zero_iff.mp noFile, List.filterMap_nil]
      · split at found
        · next noPatch => exact List.length_eq_zero_iff.mp noPatch
        · cases found
    rw [nothing]
    rfl

theorem patch_addPatch (store : DiscoveryStore Number) (patch : DiscoveredPatch Number)
    (message : String × String) : (store.addPatch patch).patch message =
      if message = patch.message then
        LastWriter.write DiscoveredPatch.checkpoint (store.patch message) patch
      else store.patch message := by
  have register : ∀ groupMap : OrderedMap String (DiscoveredPatch Number), ∀ messageId,
      (DiscoveryStore.setLatest groupMap patch).get messageId =
        if messageId = patch.messageId then
          LastWriter.write DiscoveredPatch.checkpoint (groupMap.get messageId) patch
        else groupMap.get messageId := by
    intro groupMap messageId
    rw [DiscoveryStore.setLatest]
    split
    · next existing found =>
      by_cases same : messageId = patch.messageId
      · rw [if_pos same, same, found]
        simp only [LastWriter.write]
        split
        · next later => rw [if_neg (not_le.mpr later), OrderedMap.get_insert, if_pos rfl]
        · next notLater => rw [if_pos (not_lt.mp notLater), found]
      rw [if_neg same]
      split
      · rw [OrderedMap.get_insert, if_neg same]
      · rfl
    next missing =>
    rw [OrderedMap.get_insert]
    split
    · next same =>
      rw [same, missing]
      rfl
    · rfl
  obtain ⟨groupId, messageId⟩ := message
  rw [DiscoveryStore.patch, DiscoveryStore.patch, DiscoveryStore.addPatch, OrderedMap.get_insert]
  by_cases sameGroup : groupId = patch.groupId
  · subst sameGroup
    rw [if_pos rfl, Option.bind_some, register]
    have before : ((store.groups.get patch.groupId).getD ∅).get messageId =
        (store.groups.get patch.groupId).bind (·.get messageId) := by
      cases store.groups.get patch.groupId <;> rfl
    simp only [before, DiscoveredPatch.message, Prod.mk.injEq, true_and]
  · have differs : (groupId, messageId) ≠ patch.message := fun same =>
      sameGroup (congrArg Prod.fst same)
    rw [if_neg sameGroup, if_neg differs]

theorem lastCheckpoint_addPatches (patches : List (DiscoveredPatch Number))
    (store : DiscoveryStore Number) :
    (patches.foldl DiscoveryStore.addPatch store).lastCheckpoint = store.lastCheckpoint := by
  induction patches generalizing store with
  | nil => rfl
  | cons patch rest ih => exact ih (store.addPatch patch)

theorem isLatest_addPatches {store : DiscoveryStore Number}
    {added : Set (DiscoveredPatch Number)}
    (holds : ∀ message, LastWriter.IsLatest DiscoveredPatch.checkpoint
      {patch ∈ added | patch.message = message} (store.patch message))
    (patches : List (DiscoveredPatch Number)) (message : String × String) :
    LastWriter.IsLatest DiscoveredPatch.checkpoint
      {patch ∈ added ∪ {patch | patch ∈ patches} | patch.message = message}
      ((patches.foldl DiscoveryStore.addPatch store).patch message) := by
  induction patches generalizing store added with
  | nil =>
    have same : added ∪ {patch | patch ∈ ([] : List (DiscoveredPatch Number))} = added := by simp
    rw [same]
    exact holds message
  | cons patch rest ih =>
    have same : added ∪ {other | other ∈ patch :: rest} =
        insert patch added ∪ {other | other ∈ rest} := by
      ext other
      simp only [Set.mem_union, Set.mem_ofPred_eq, List.mem_cons, Set.mem_insert_iff]
      tauto
    rw [same]
    refine ih fun message => ?_
    rw [patch_addPatch]
    split
    · next isMessage =>
      have writes : {other ∈ insert patch added | other.message = message} =
          insert patch {other ∈ added | other.message = message} := by
        ext other
        simp only [Set.mem_ofPred_eq, Set.mem_insert_iff]
        constructor
        · rintro ⟨rfl | isAdded, isOther⟩
          · exact Or.inl rfl
          · exact Or.inr ⟨isAdded, isOther⟩
        · rintro (rfl | ⟨isAdded, isOther⟩)
          · exact ⟨Or.inl rfl, isMessage.symm⟩
          · exact ⟨Or.inr isAdded, isOther⟩
      rw [writes]
      exact (holds message).write patch
    next differs =>
    have writes : {other ∈ insert patch added | other.message = message} =
        {other ∈ added | other.message = message} := by
      ext other
      simp only [Set.mem_ofPred_eq, Set.mem_insert_iff]
      constructor
      · rintro ⟨rfl | isAdded, isOther⟩
        · exact absurd isOther.symm differs
        · exact ⟨isAdded, isOther⟩
      · exact fun isOther => ⟨Or.inr isOther.1, isOther.2⟩
    rw [writes]
    exact holds message

theorem foldl_offer {checkpointSeq : Nat} {events : List Event} {state : State Number}
    (free : state.inFlight +
      (events.filterMap (inspection? library config checkpointSeq)).length ≤
        maxConcurrentInspections) :
    events.foldl (offer library config checkpointSeq) state =
      { state with
        inFlight := state.inFlight +
          (events.filterMap (inspection? library config checkpointSeq)).length
        running := state.running ++
          events.filterMap (inspection? library config checkpointSeq) } := by
  induction events generalizing state with
  | nil => simp
  | cons event rest ih =>
    rw [List.foldl_cons, offer]
    cases asked : inspection? library config checkpointSeq event with
    | none =>
      rw [List.filterMap_cons_none asked] at free ⊢
      exact ih free
    | some =>
      rw [List.filterMap_cons_some asked] at free ⊢
      rw [List.length_cons] at free
      have room : ¬state.inFlight ≥ maxConcurrentInspections := by omega
      simp only [if_neg room]
      rw [ih (by simp only; omega)]
      simp only [List.length_cons, List.append_assoc, List.singleton_append, State.mk.injEq,
        true_and, and_true]
      omega

end Steps

/-! ## The invariant -/

section Invariant

variable {library} {config} {state : State Number}

/-- An event stands before another one: in an earlier checkpoint, or without a common message. -/
def Precedes (library : Library Number) (left right : Inspection) : Prop :=
  left.checkpoint < right.checkpoint ∨ Apart library left right

/-- Every patch of a passed event has been added, or its inspection is running. -/
structure Accounted (library : Library Number) (config : Config) (state : State Number)
    (added : Set (DiscoveredPatch Number)) : Prop where
  fromPassed : ∀ patch ∈ added, ∃ event ∈ passed library config state,
    patch ∈ patchesOf library event
  all : ∀ event ∈ passed library config state, ∀ patch ∈ patchesOf library event,
    patch ∈ added ∨ event ∈ state.running
  holds : ∀ message, LastWriter.IsLatest DiscoveredPatch.checkpoint
    {patch ∈ added | patch.message = message} (state.store.patch message)

/-- **The invariant of orderly runs.** -/
structure Inv (library : Library Number) (config : Config) (state : State Number) : Prop where
  counted : state.inFlight = state.running.length
  /-- The stream never goes back. -/
  forward : ∀ seq, state.next = some seq → state.store.lastCheckpoint ≤ seq
  unseen : state.first = none → state.store.lastCheckpoint = 0
  seen : ∀ first, state.first = some first →
    first ≤ state.store.lastCheckpoint ∧ state.store.lastCheckpoint < state.chain.length
  runs : ∀ event ∈ state.running, event ∈ passed library config state
  ranked : (passed library config state).Pairwise (Precedes library)
  accounted : ∃ added, Accounted library config state added

theorem Inv.start (chain : List Transactions) :
    Inv library config (start chain : State Number) where
  counted := rfl
  forward _ connected := by cases connected
  unseen _ := rfl
  seen _ isFirst := by cases isFirst
  runs _ isRunning := by cases isRunning
  ranked := List.Pairwise.nil
  accounted := by
    refine ⟨∅, fun _ isIn => absurd isIn (Set.notMem_empty _), (fun _ isIn => by cases isIn), ?_⟩
    intro message
    have nothing : {patch ∈ (∅ : Set (DiscoveredPatch Number)) | patch.message = message} = ∅ := by
      simp
    rw [nothing]
    exact LastWriter.isLatest_empty

variable {seq : Nat} {chain : List Transactions} {event : Inspection} {first count : Nat}

theorem checkpoint_of_matching (isIn : event ∈ matching library config chain seq) :
    event.checkpoint = seq := by
  obtain ⟨source, -, asked⟩ := List.mem_filterMap.mp isIn
  rw [inspection?] at asked
  split at asked
  · obtain ⟨blobId, -, rfl⟩ := Option.map_eq_some_iff.mp asked
    rfl
  · cases asked

theorem window_append (chain more : List Transactions) (within : first + count ≤ chain.length) :
    window library config (chain ++ more) first count =
      window library config chain first count := by
  refine List.flatMap_congr fun seq isIn => ?_
  have below : seq < chain.length := by
    have bounds := List.mem_range'_1.mp isIn
    omega
  rw [matching, matching, List.getElem?_append_left below]

theorem window_succ (chain : List Transactions) (first count : Nat) :
    window library config chain first (count + 1) =
      window library config chain first count ++ matching library config chain (first + count) := by
  rw [window, List.range'_concat, List.flatMap_append, List.flatMap_singleton, Nat.one_mul]
  rfl

theorem checkpoint_of_window (isIn : event ∈ window library config chain first count) :
    event.checkpoint < first + count := by
  obtain ⟨seq, isSeq, isEvent⟩ := List.mem_flatMap.mp isIn
  rw [checkpoint_of_matching isEvent]
  have bounds := List.mem_range'_1.mp isSeq
  omega

section

variable (inv : Inv library config state)
include inv

theorem Inv.passed_grow (transactions : Transactions) :
    passed library config { state with chain := state.chain ++ [transactions] } =
      passed library config state := by
  cases isFirst : state.first with
  | none => simp only [passed, isFirst]
  | some first =>
    obtain ⟨lower, upper⟩ := inv.seen first isFirst
    simp only [passed, isFirst]
    exact window_append state.chain [transactions] (by omega)

theorem Inv.passed_deliver (connected : state.next = some seq)
    (orderly : OrderlyDelivery library config state seq) :
    passed library config { state with
        store := state.store.setLastCheckpoint seq
        first := some (state.first.getD seq) } =
      passed library config state ++ matching library config state.chain seq ∧
      (∀ event ∈ passed library config state, event.checkpoint < seq) ∨
    passed library config { state with
        store := state.store.setLastCheckpoint seq
        first := some (state.first.getD seq) } = passed library config state ∧
      (∀ event ∈ matching library config state.chain seq, event ∈ passed library config state) := by
  have notBack := inv.forward seq connected
  cases isFirst : state.first with
  | none =>
    have before : passed library config state = [] := by simp only [passed, isFirst]
    refine Or.inl ⟨?_, fun event isIn => by rw [before] at isIn; cases isIn⟩
    rw [before]
    simp only [passed, Option.getD_none, DiscoveryStore.setLastCheckpoint, Nat.add_sub_cancel_left]
    rw [window_succ _ seq 0]
    rfl
  | some first =>
    obtain ⟨lower, -⟩ := inv.seen first isFirst
    have notAhead := orderly.follows (by rw [isFirst]; exact Option.some_ne_none first)
    have before : passed library config state = window library config state.chain first
        (state.store.lastCheckpoint + 1 - first) := by simp only [passed, isFirst]
    simp only [passed, Option.getD_some, DiscoveryStore.setLastCheckpoint]
    simp only [isFirst]
    rcases Nat.lt_or_ge state.store.lastCheckpoint seq with further | again
    · have next : seq + 1 - first = state.store.lastCheckpoint + 1 - first + 1 := by omega
      have place : first + (state.store.lastCheckpoint + 1 - first) = seq := by omega
      refine Or.inl ⟨?_, fun event isIn => ?_⟩
      · rw [next, window_succ, place]
      · have bound := checkpoint_of_window isIn
        omega
    · have same : seq = state.store.lastCheckpoint := by omega
      refine Or.inr ⟨by rw [same], fun event isIn => ?_⟩
      refine List.mem_flatMap.mpr ⟨seq, List.mem_range'_1.mpr (by omega), isIn⟩

/-- A step that changes only what is connected. -/
theorem Inv.of_next {next : Option Nat}
    (forward : ∀ seq, next = some seq → state.store.lastCheckpoint ≤ seq) :
    Inv library config { state with next := next } :=
  { inv with
    forward := forward
    accounted := by
      obtain ⟨added, accounted⟩ := inv.accounted
      exact ⟨added, accounted.fromPassed, accounted.all, accounted.holds⟩ }

theorem Inv.grow (transactions : Transactions) :
    Inv library config { state with chain := state.chain ++ [transactions] } := by
  have same := inv.passed_grow transactions
  refine ⟨inv.counted, inv.forward, inv.unseen, ?_, ?_, ?_, ?_⟩
  · intro first isFirst
    obtain ⟨lower, upper⟩ := inv.seen first isFirst
    refine ⟨lower, ?_⟩
    rw [List.length_append]
    exact Nat.lt_add_right _ upper
  · rw [same]
    exact inv.runs
  · rw [same]
    exact inv.ranked
  obtain ⟨added, accounted⟩ := inv.accounted
  refine ⟨added, ?_, ?_, accounted.holds⟩
  · rw [same]
    exact accounted.fromPassed
  · rw [same]
    exact accounted.all

end

theorem step_deliver {transactions : Transactions} (connected : state.next = some seq)
    (isThere : state.chain[seq]? = some transactions)
    (orderly : OrderlyDelivery library config state seq) :
    step library config state .deliver =
      { state with
        next := some (seq + 1)
        inFlight := state.inFlight + (matching library config state.chain seq).length
        running := state.running ++ matching library config state.chain seq
        store := state.store.setLastCheckpoint seq
        first := some (state.first.getD seq) } := by
  have free := orderly.free
  have events : matching library config state.chain seq =
      transactions.flatten.filterMap (inspection? library config seq) := by
    rw [matching, isThere, Option.getD_some]
  rw [events] at free ⊢
  simp only [step, connected, isThere, handleResponse, Option.or, Option.getD_some,
    foldl_offer free]

section

variable (inv : Inv library config state)
include inv

theorem Inv.deliver (connected : state.next = some seq) (below : seq < state.chain.length)
    (orderly : OrderlyDelivery library config state seq) :
    Inv library config (step library config state .deliver) := by
  have notBack := inv.forward seq connected
  rw [step_deliver connected (List.getElem?_eq_getElem below) orderly]
  -- What has been passed is determined by the chain, the position and the first checkpoint.
  have change := inv.passed_deliver connected orderly
  have before : ∀ event ∈ passed library config state, event ∈ passed library config
      { state with
        store := state.store.setLastCheckpoint seq
        first := some (state.first.getD seq) } := by
    intro event isIn
    rcases change with ⟨appended, -⟩ | ⟨same, -⟩
    · rw [appended]
      exact List.mem_append_left _ isIn
    · rw [same]
      exact isIn
  have new : ∀ event ∈ matching library config state.chain seq, event ∈ passed library config
      { state with
        store := state.store.setLastCheckpoint seq
        first := some (state.first.getD seq) } := by
    intro event isIn
    rcases change with ⟨appended, -⟩ | ⟨same, again⟩
    · rw [appended]
      exact List.mem_append_right _ isIn
    · rw [same]
      exact again event isIn
  refine ⟨?_, ?_, ?_, ?_, ?_, ?_, ?_⟩
  · show state.inFlight + _ = (state.running ++ _).length
    rw [List.length_append, inv.counted]
  · intro other isNext
    rw [← Option.some.inj isNext]
    exact Nat.le_succ seq
  · intro isFirst
    cases isFirst
  · intro first isFirst
    refine ⟨?_, below⟩
    show first ≤ seq
    rw [← Option.some.inj isFirst]
    cases seenBefore : state.first with
    | none => exact le_rfl
    | some earlier => exact (inv.seen earlier seenBefore).1.trans notBack
  · intro event isRunning
    rcases List.mem_append.mp isRunning with isOld | isNew
    · exact before event (inv.runs event isOld)
    · exact new event isNew
  · show (passed library config { state with
        store := state.store.setLastCheckpoint seq
        first := some (state.first.getD seq) }).Pairwise _
    rcases change with ⟨appended, earlier⟩ | ⟨same, -⟩
    · rw [appended]
      refine List.pairwise_append.mpr ⟨inv.ranked, orderly.apart.imp Or.inr, ?_⟩
      intro left isLeft right isRight
      refine Or.inl ?_
      rw [checkpoint_of_matching isRight]
      exact earlier left isLeft
    · rw [same]
      exact inv.ranked
  obtain ⟨added, accounted⟩ := inv.accounted
  refine ⟨added, ?_, ?_, accounted.holds⟩
  · intro patch isAdded
    obtain ⟨event, isPassed, isPatch⟩ := accounted.fromPassed patch isAdded
    exact ⟨event, before event isPassed, isPatch⟩
  intro event isPassed patch isPatch
  have source : event ∈ passed library config state ∨
      event ∈ matching library config state.chain seq := by
    rcases change with ⟨appended, -⟩ | ⟨same, -⟩
    · exact List.mem_append.mp (appended ▸ isPassed)
    · exact Or.inl (same ▸ isPassed)
  rcases source with isOld | isNew
  · rcases accounted.all event isOld patch isPatch with isAdded | isRunning
    · exact Or.inl isAdded
    · exact Or.inr (List.mem_append_left _ isRunning)
  · exact Or.inr (List.mem_append_right _ isNew)

/-- **An inspection completes.** -/
theorem Inv.finish (index : Nat) :
    Inv library config (finish library state index) := by
  rw [Indexer.finish]
  split
  · exact inv
  next inspection isRunning =>
  have isIn := List.mem_of_getElem? isRunning
  have below : index < state.running.length := (List.getElem?_eq_some_iff.mp isRunning).1
  rw [addDiscovery_inspectBlob]
  have position := lastCheckpoint_addPatches (patchesOf library inspection) state.store
  have same : passed library config { state with
      inFlight := state.inFlight - 1
      running := state.running.eraseIdx index
      store := (patchesOf library inspection).foldl DiscoveryStore.addPatch state.store } =
        passed library config state := by
    simp only [passed, position]
  refine ⟨?_, ?_, ?_, ?_, ?_, ?_, ?_⟩
  · show state.inFlight - 1 = (state.running.eraseIdx index).length
    rw [List.length_eraseIdx_of_lt below, inv.counted]
  · exact fun seq connected => position.trans_le (inv.forward seq connected)
  · exact fun isFirst => position.trans (inv.unseen isFirst)
  · intro first isFirst
    obtain ⟨lower, upper⟩ := inv.seen first isFirst
    exact ⟨lower.trans position.ge, position.trans_lt upper⟩
  · intro event stillRuns
    rw [same]
    exact inv.runs event (List.mem_of_mem_eraseIdx stillRuns)
  · rw [same]
    exact inv.ranked
  obtain ⟨added, accounted⟩ := inv.accounted
  refine ⟨added ∪ {patch | patch ∈ patchesOf library inspection}, ?_, ?_, ?_⟩
  · rintro patch (isAdded | isPatch)
    · rw [same]
      exact accounted.fromPassed patch isAdded
    · rw [same]
      exact ⟨inspection, inv.runs inspection isIn, isPatch⟩
  · intro event isPassed patch isPatch
    rw [same] at isPassed
    rcases accounted.all event isPassed patch isPatch with isAdded | running
    · exact Or.inl (Or.inl isAdded)
    obtain ⟨place, found⟩ := List.mem_iff_getElem?.mp running
    by_cases this : place = index
    · subst this
      obtain rfl : inspection = event := Option.some.inj (isRunning.symm.trans found)
      exact Or.inl (Or.inr isPatch)
    · exact Or.inr (List.mem_eraseIdx_iff_getElem?.mpr ⟨place, this, found⟩)
  · exact isLatest_addPatches accounted.holds (patchesOf library inspection)

theorem Inv.step {input : Input} (orderly : Orderly library config state input) :
    Inv library config (step library config state input) := by
  cases input with
  | grow transactions => exact inv.grow transactions
  | progress => exact inv
  | disconnect => exact inv.of_next fun seq connected => by cases connected
  | complete index => exact inv.finish index
  | connect =>
    rw [Indexer.step]
    split
    · exact inv
    refine inv.of_next fun seq connected => ?_
    rw [← Option.some.inj connected]
    cases isFirst : state.first with
    | none =>
      rw [inv.unseen isFirst]
      exact Nat.zero_le _
    | some first =>
      have upper := (inv.seen first isFirst).2
      omega
  | deliver =>
    cases connected : state.next with
    | none =>
      have idle : Indexer.step library config state .deliver = state := by
        simp only [Indexer.step, connected]
      rw [idle]
      exact inv
    | some seq =>
      rcases Nat.lt_or_ge seq state.chain.length with below | beyond
      · exact inv.deliver connected below (orderly seq connected below)
      have idle : Indexer.step library config state .deliver = state := by
        simp only [Indexer.step, connected, List.getElem?_eq_none beyond]
      rw [idle]
      exact inv

/-- **An idle indexer has missed nothing.** -/
theorem Inv.complete (idle : state.running = []) :
    Complete library config state := by
  obtain ⟨added, accounted⟩ := inv.accounted
  have everything : ∀ event ∈ passed library config state,
      ∀ patch ∈ patchesOf library event, patch ∈ added := by
    intro event isPassed patch isPatch
    rcases accounted.all event isPassed patch isPatch with isAdded | isRunning
    · exact isAdded
    · cases idle ▸ isRunning
  constructor
  · intro event isPassed patch isPatch
    obtain ⟨kept, isKept, -⟩ := (accounted.holds patch.message).latest patch
      ⟨everything event isPassed patch isPatch, rfl⟩
    rw [Option.mem_def.mp isKept]
    rfl
  intro before event after split patch isPatch last
  have isPassed : event ∈ passed library config state := by
    rw [split]
    exact List.mem_append_right before List.mem_cons_self
  obtain ⟨kept, isKept, notLater⟩ := (accounted.holds patch.message).latest patch
    ⟨everything event isPassed patch isPatch, rfl⟩
  obtain ⟨isAdded, sameMessage⟩ := (accounted.holds patch.message).written kept isKept
  obtain ⟨source, isSource, isFrom⟩ := accounted.fromPassed kept isAdded
  refine ⟨kept, ?_, sameMessage, isKept⟩
  rw [split] at isSource
  rcases List.mem_append.mp isSource with isBefore | isRest
  · -- An earlier event cannot have the later patch, nor share a message in one checkpoint.
    have ranked := inv.ranked
    rw [split] at ranked
    rcases (List.pairwise_append.mp ranked).2.2 source isBefore event List.mem_cons_self with
      earlier | apart
    · rw [checkpoint_of_mem isPatch, checkpoint_of_mem isFrom] at notLater
      exact absurd earlier (not_lt.mpr notLater)
    · exact absurd sameMessage (apart kept isFrom patch isPatch)
  · rcases List.mem_cons.mp isRest with rfl | isAfter
    · exact isFrom
    · exact absurd sameMessage (last source isAfter kept isFrom)

end

end Invariant

/-- **The indexer misses nothing it has passed**, in every run whose deliveries are orderly:
whenever no inspection is running, every message of an event between the first checkpoint seen and
the last one recorded is in the store, with a patch of its latest event. -/
theorem complete_when_idle {chain : List Transactions} {inputs : List Input}
    (orderly : Along (step library config) (Orderly library config) (start chain) inputs)
    (idle : (inputs.foldl (step library config) (start chain)).running = []) :
    Complete library config (inputs.foldl (step library config) (start chain)) :=
  have preserved : ∀ state input, Inv library config state → Orderly library config state input →
      Inv library config (step library config state input) :=
    fun _ _ inv good => inv.step good
  (Along.invariant preserved orderly (Inv.start chain)).complete idle

/-! ## Two runs -/

instance (left right : Inspection) : Decidable (Apart library left right) :=
  inferInstanceAs (Decidable (∀ patch ∈ patchesOf library left,
    ∀ other ∈ patchesOf library right, patch.message ≠ other.message))

instance (state : State Number) (seq : Nat) :
    Decidable (OrderlyDelivery library config state seq) :=
  decidable_of_iff
    ((state.first ≠ none → seq ≤ state.store.lastCheckpoint + 1) ∧
      state.inFlight + (matching library config state.chain seq).length ≤ maxConcurrentInspections ∧
      (matching library config state.chain seq).Pairwise (Apart library))
    ⟨fun ⟨follows, free, apart⟩ => ⟨follows, free, apart⟩,
      fun orderly => ⟨orderly.follows, orderly.free, orderly.apart⟩⟩

instance (state : State Number) : ∀ input, Decidable (Orderly library config state input)
  | .deliver =>
    match next : state.next with
    | none => .isTrue fun seq isNext _ => by cases next ▸ isNext
    | some seq => decidable_of_iff
        (seq < state.chain.length → OrderlyDelivery library config state seq)
        ⟨fun orderly other isNext => by
          obtain rfl : seq = other := Option.some.inj (next.symm.trans isNext)
          exact orderly, fun orderly => orderly seq next⟩
  | .grow _ | .connect | .progress _ | .disconnect | .complete _ => .isTrue trivial

/-- An event of all zeros, as the BCS reader and the conversion of its blob id have it. -/
def sampleContents : Bytes := List.replicate 74 0

def sampleLibrary : Library (Option Int) where
  toLowerCase := Text.toAsciiLowercase
  parseInt := String.toInt?
  blobId contents :=
    if contents = sampleContents then some (String.ofList (List.replicate 43 'A')) else none

def sampleConfig : Config := ⟨"0xAB", none⟩

def sampleEvent : Event where
  sender := none
  eventType := some "0xab::events::BlobCertified"
  contents := some sampleContents
  files := some [⟨[("source", sourceTag), ("group_id", "0xa1"), ("order", "3")],
    some "msg-m1", true⟩]

/-- The stream is connected before the event is on the chain. -/
def connectedInputs : List Input :=
  [.connect, .deliver, .grow [[sampleEvent]], .deliver, .complete 0]

theorem connected_complete :
    Complete sampleLibrary sampleConfig
      (connectedInputs.foldl (step sampleLibrary sampleConfig) (start [[]])) :=
  complete_when_idle sampleLibrary sampleConfig (by decide +kernel)
    (List.isEmpty_iff.mp (by decide +kernel))

/-- The event is on the chain while the listener waits to reconnect. -/
def reconnectedInputs : List Input :=
  [.connect, .deliver, .disconnect, .grow [[sampleEvent]], .grow [], .connect, .deliver]

/-- **A reconnection skips a checkpoint**: the position moves over it, and its message is not in
the store. -/
theorem reconnection_skips :
    (reconnectedInputs.foldl (step sampleLibrary sampleConfig) (start [[]])).running = [] ∧
      ¬Complete sampleLibrary sampleConfig
        (reconnectedInputs.foldl (step sampleLibrary sampleConfig) (start [[]])) := by
  refine ⟨List.isEmpty_iff.mp (by decide +kernel), fun complete => ?_⟩
  have stored := complete.stored
  revert stored
  decide +kernel

end MessagingStack.Indexer

import MessagingStack.Base.PrefixCode
import MessagingStack.Relayer.WorkflowItems

/-!
# Requests for memory access

A request is a workflow item whose idempotency key has the organization, the member and the whole
mask of permissions.  A chain event looks for the items that its mask covers by one key for each bit
(`apply_org_memory_permission_chain_event` of `services/membership_sync.rs`).  So it closes what it
covers and nothing else exactly if the requests have masks of a single bit
(`closes_covered_iff`).
-/

namespace MessagingStack.Relayer.MemoryAccess

open Workflow

/-! ## Events and requests -/

inductive OrgMemoryPermissionChainEvent where
  | granted (organizationId accountId groupId member : String) (permissionsMask : BitVec 64)
    (grantedBy : String) (timestampMs : Nat)
  | revoked (organizationId accountId groupId member : String) (permissionsMask : BitVec 64)
    (revokedBy : String) (timestampMs : Nat)

namespace OrgMemoryPermissionChainEvent

def organizationId : OrgMemoryPermissionChainEvent → String
  | granted organizationId .. | revoked organizationId .. => organizationId

def member : OrgMemoryPermissionChainEvent → String
  | granted _ _ _ member .. | revoked _ _ _ member .. => member

def permissionsMask : OrgMemoryPermissionChainEvent → BitVec 64
  | granted _ _ _ _ permissionsMask .. | revoked _ _ _ _ permissionsMask .. => permissionsMask

def workflowPayloadPatch : OrgMemoryPermissionChainEvent → Json
  | granted organizationId accountId groupId member permissionsMask grantedBy timestampMs =>
    .obj
      [("chain_event", .str "org_memory_permission_granted"),
        ("organization_id", .str organizationId), ("account_id", .str accountId),
        ("group_id", .str groupId), ("member", .str member),
        ("permissions_mask", .num permissionsMask.toNat),
        ("granted_mask", .num permissionsMask.toNat), ("granted_by", .str grantedBy),
        ("timestamp_ms", .num timestampMs)]
  | revoked organizationId accountId groupId member permissionsMask revokedBy timestampMs =>
    .obj
      [("chain_event", .str "org_memory_permission_revoked"),
        ("organization_id", .str organizationId), ("account_id", .str accountId),
        ("group_id", .str groupId), ("member", .str member),
        ("permissions_mask", .num permissionsMask.toNat), ("revoked_by", .str revokedBy),
        ("timestamp_ms", .num timestampMs)]

def toChainEvent (event : OrgMemoryPermissionChainEvent) : Workflow.ChainEvent :=
  match event with
  | granted organizationId _ _ member permissionsMask grantedBy _ =>
    .permissionGranted organizationId member grantedBy permissionsMask event.workflowPayloadPatch
  | revoked organizationId _ _ member permissionsMask revokedBy _ =>
    .permissionRevoked organizationId member revokedBy permissionsMask event.workflowPayloadPatch

/-- What the event makes of the requests that it covers. -/
def newStatus : OrgMemoryPermissionChainEvent → Status
  | granted .. => .actioned
  | revoked .. => .dismissed

end OrgMemoryPermissionChainEvent

/-- `ITEM_TYPE_MEMORY_ACCESS_REQUEST` -/
def itemTypeMemoryAccessRequest : String := "memory_access_request"

def requestKey (event : OrgMemoryPermissionChainEvent) (mask : BitVec 64) : String :=
  memoryAccessIdempotencyKey event.organizationId event.member mask.toInt

def Contained (event : OrgMemoryPermissionChainEvent) (mask : BitVec 64) : Prop :=
  mask ≠ 0 ∧ mask &&& event.permissionsMask = mask

/-- A request of the event's member to its organization that the event covers. -/
def Covered (event : OrgMemoryPermissionChainEvent) (row : WorkflowItem) : Prop :=
  row.itemType = itemTypeMemoryAccessRequest ∧
    ∃ mask, Contained event mask ∧ row.idempotencyKey = requestKey event mask

/-- **The promise**: the open requests that the event covers have moved, and nothing else has
changed. -/
structure ClosesCovered (event : OrgMemoryPermissionChainEvent) (before after : Items) : Prop where
  noneOpen : ∀ id row, after.get id = some row → Covered event row → row.status ≠ .open
  moved : ∀ id row, before.get id = some row → row.status = .open → Covered event row →
    ∃ next, after.get id = some next ∧ next.status = event.newStatus
  others : ∀ id row, before.get id = some row → ¬(row.status = .open ∧ Covered event row) →
    after.get id = some row
  noneNew : ∀ id, before.get id = none → after.get id = none

def SingleBit (mask : BitVec 64) : Prop := ∃ bit < 64, mask = BitVec.twoPow 64 bit

/-- **The condition**: of the open items with the key of a covered mask, those that are requests
are those whose mask has a single bit. -/
def SingleBitRequests (event : OrgMemoryPermissionChainEvent) (items : Items) : Prop :=
  ∀ id row, items.get id = some row → row.status = .open →
    ∀ mask, Contained event mask → row.idempotencyKey = requestKey event mask →
      (row.itemType = itemTypeMemoryAccessRequest ↔ SingleBit mask)

/-! ## Stores with transitions by key -/

/-- A store whose `transition_by_idempotency` settles the row that has the key, if it is open. -/
structure KeyedStore (σ : Type) where
  items : σ → Items
  transitionByIdempotency : σ → Transition → σ
  /-- What a transition makes of an open row. -/
  update : Transition → WorkflowItem → WorkflowItem
  /-- What a store keeps. -/
  Indexed : σ → Prop
  indexed : ∀ state transition, Indexed state → Indexed (transitionByIdempotency state transition)
  update_spec : ∀ transition row, (update transition row).idempotencyKey = row.idempotencyKey ∧
    (update transition row).itemType = row.itemType ∧
    (update transition row).status = transition.newStatus
  get_items : ∀ state transition, Indexed state → ∀ id,
    (items (transitionByIdempotency state transition)).get id =
      ((items state).get id).map fun row =>
        if row.idempotencyKey = transition.idempotencyKey ∧ row.status = .open then
          update transition row
        else row

/-- `apply_org_memory_permission_chain_event` -/
def applyEvent {σ : Type} (transitionByIdempotency : σ → Transition → σ) (state : σ)
    (event : OrgMemoryPermissionChainEvent) : σ :=
  event.toChainEvent.transitions.foldl transitionByIdempotency state

/-! ## What the transitions of an event do -/

section Event

variable (event : OrgMemoryPermissionChainEvent)

theorem newStatus_ne_open : event.newStatus ≠ .open := by cases event <;> exact nofun

theorem mem_transitions (key : String) :
    (∃ transition ∈ event.toChainEvent.transitions, transition.idempotencyKey = key) ↔
      ∃ bit < 64, event.permissionsMask.getLsbD bit = true ∧
        key = requestKey event (BitVec.twoPow 64 bit) := by
  have both : ∀ (organizationId member actor : String) (mask : BitVec 64) (payload : Json)
      (newStatus : Status),
      (∃ transition ∈
          Workflow.ChainEvent.permission organizationId member actor mask payload newStatus,
        transition.idempotencyKey = key) ↔
      ∃ bit < 64, mask.getLsbD bit = true ∧
        key = memoryAccessIdempotencyKey organizationId member (BitVec.twoPow 64 bit).toInt := by
    intro organizationId member actor mask payload newStatus
    rw [Workflow.ChainEvent.permission]
    constructor
    · rintro ⟨transition, isIn, rfl⟩
      obtain ⟨bit, isBit, rfl⟩ := List.mem_map.mp isIn
      obtain ⟨inRange, isSet⟩ := List.mem_filter.mp isBit
      exact ⟨bit, List.mem_range.mp inRange, isSet, rfl⟩
    · rintro ⟨bit, inRange, isSet, rfl⟩
      exact ⟨_, List.mem_map.mpr
        ⟨bit, List.mem_filter.mpr ⟨List.mem_range.mpr inRange, isSet⟩, rfl⟩, rfl⟩
  cases event with
  | granted | revoked => exact both ..

theorem newStatus_of_mem {transition : Transition}
    (isIn : transition ∈ event.toChainEvent.transitions) :
    transition.newStatus = event.newStatus := by
  cases event with
  | granted | revoked =>
    obtain ⟨bit, -, rfl⟩ := List.mem_map.mp isIn
    rfl

theorem memoryAccessIdempotencyKey_injective (organizationId member : String) {left right : Int}
    (same : memoryAccessIdempotencyKey organizationId member left =
      memoryAccessIdempotencyKey organizationId member right) :
    toString left = toString right := by
  unfold memoryAccessIdempotencyKey at same
  exact (String.append_right_inj _).mp same

theorem requestKey_injective : Function.Injective (requestKey event) := by
  intro left right same
  have texts : (fun value : Int => toString value) left.toInt =
      (fun value : Int => toString value) right.toInt :=
    memoryAccessIdempotencyKey_injective event.organizationId event.member same
  exact BitVec.eq_of_toInt_eq (toString_int_injective texts)

theorem contained_twoPow {bit : Nat} (inRange : bit < 64) :
    Contained event (BitVec.twoPow 64 bit) ↔ event.permissionsMask.getLsbD bit = true := by
  have nonzero : BitVec.twoPow 64 bit ≠ 0 := by
    intro zero
    have selected := congrArg (fun mask => mask.getLsbD bit) zero
    simp [inRange] at selected
  rw [Contained, and_iff_right nonzero, BitVec.and_comm, BitVec.and_twoPow]
  cases event.permissionsMask.getLsbD bit with
  | true =>
    rw [if_pos rfl]
    exact iff_of_true rfl rfl
  | false =>
    rw [if_neg Bool.false_ne_true]
    exact iff_of_false (fun zero => nonzero zero.symm) Bool.false_ne_true

theorem touched_iff (key : String) :
    (∃ transition ∈ event.toChainEvent.transitions, transition.idempotencyKey = key) ↔
      ∃ mask, Contained event mask ∧ SingleBit mask ∧ key = requestKey event mask := by
  rw [mem_transitions]
  constructor
  · rintro ⟨bit, inRange, isSet, isKey⟩
    exact ⟨_, (contained_twoPow event inRange).mpr isSet, ⟨bit, inRange, rfl⟩, isKey⟩
  · rintro ⟨_, contained, ⟨bit, inRange, rfl⟩, isKey⟩
    exact ⟨bit, inRange, (contained_twoPow event inRange).mp contained, isKey⟩

end Event

/-! ## When an event closes what it covers -/

namespace KeyedStore

variable {σ : Type} (store : KeyedStore σ)

def settle (row : WorkflowItem) (transition : Transition) : WorkflowItem :=
  if row.idempotencyKey = transition.idempotencyKey ∧ row.status = .open then
    store.update transition row
  else row

theorem get_foldl (transitions : List Transition) (id : Uuid) :
    ∀ state, store.Indexed state →
      (store.items (transitions.foldl store.transitionByIdempotency state)).get id =
        ((store.items state).get id).map fun row => transitions.foldl store.settle row := by
  induction transitions with
  | nil =>
    intro state _
    rw [List.foldl_nil]
    exact Option.map_id'.symm
  | cons transition rest ih =>
    intro state indexed
    rw [List.foldl_cons, ih _ (store.indexed state transition indexed),
      store.get_items state transition indexed, Option.map_map]
    rfl

theorem settle_of_not_open {row : WorkflowItem} (closed : row.status ≠ .open)
    (transitions : List Transition) : transitions.foldl store.settle row = row := by
  induction transitions with
  | nil => rfl
  | cons transition rest ih =>
    rw [List.foldl_cons, settle, if_neg fun both => closed both.2]
    exact ih

theorem foldl_settle {newStatus : Status} (moves : newStatus ≠ .open) (row : WorkflowItem)
    (transitions : List Transition)
    (alike : ∀ transition ∈ transitions, transition.newStatus = newStatus) :
    (row.status = .open ∧
        (∃ transition ∈ transitions, transition.idempotencyKey = row.idempotencyKey) →
      (transitions.foldl store.settle row).status = newStatus) ∧
    (¬(row.status = .open ∧
        ∃ transition ∈ transitions, transition.idempotencyKey = row.idempotencyKey) →
      transitions.foldl store.settle row = row) := by
  induction transitions with
  | nil => exact ⟨fun ⟨_, _, isIn, _⟩ => absurd isIn List.not_mem_nil, fun _ => rfl⟩
  | cons transition rest ih =>
    obtain ⟨ihMoved, ihSame⟩ := ih fun other isIn => alike other (List.mem_cons_of_mem _ isIn)
    rw [List.foldl_cons]
    by_cases hit : row.idempotencyKey = transition.idempotencyKey ∧ row.status = .open
    · have settled : store.settle row transition = store.update transition row := if_pos hit
      have status : (store.update transition row).status = newStatus :=
        (store.update_spec transition row).2.2.trans (alike transition List.mem_cons_self)
      rw [settled, store.settle_of_not_open (status ▸ moves)]
      refine ⟨fun _ => status, fun untouched => absurd ?_ untouched⟩
      exact ⟨hit.2, transition, List.mem_cons_self, hit.1.symm⟩
    have settled : store.settle row transition = row := if_neg hit
    rw [settled]
    constructor
    · rintro ⟨isOpen, other, isIn, isKey⟩
      refine ihMoved ⟨isOpen, other, ?_, isKey⟩
      rcases List.mem_cons.mp isIn with rfl | isRest
      · exact absurd ⟨isKey.symm, isOpen⟩ hit
      · exact isRest
    · intro untouched
      refine ihSame fun ⟨isOpen, other, isIn, isKey⟩ => untouched ?_
      exact ⟨isOpen, other, List.mem_cons_of_mem _ isIn, isKey⟩

theorem settle_keeps (row : WorkflowItem) (transitions : List Transition) :
    (transitions.foldl store.settle row).idempotencyKey = row.idempotencyKey ∧
      (transitions.foldl store.settle row).itemType = row.itemType := by
  induction transitions generalizing row with
  | nil => exact ⟨rfl, rfl⟩
  | cons transition rest ih =>
    rw [List.foldl_cons, (ih _).1, (ih _).2, settle]
    split
    · exact ⟨(store.update_spec transition row).1, (store.update_spec transition row).2.1⟩
    · exact ⟨rfl, rfl⟩

theorem closesCovered_iff {state : σ} (indexed : store.Indexed state)
    (event : OrgMemoryPermissionChainEvent) :
    ClosesCovered event (store.items state)
        (store.items (applyEvent store.transitionByIdempotency state event)) ↔
      SingleBitRequests event (store.items state) := by
  have after : ∀ id, (store.items (applyEvent store.transitionByIdempotency state event)).get id =
      ((store.items state).get id).map fun row =>
        event.toChainEvent.transitions.foldl store.settle row :=
    fun id => store.get_foldl _ id state indexed
  have settled := fun row => store.foldl_settle (newStatus_ne_open event) row
    event.toChainEvent.transitions fun transition isIn => newStatus_of_mem event isIn
  simp only [touched_iff] at settled
  constructor
  · intro closes id row found isOpen mask contained isKey
    have next := after id
    rw [found, Option.map_some] at next
    constructor
    · -- a request that has moved has been found by one of the keys
      intro isRequest
      by_contra several
      have same := (settled row).2 fun ⟨_, other, _, single, otherKey⟩ => several
        (requestKey_injective event (isKey.symm.trans otherKey) ▸ single)
      rw [same] at next
      exact closes.noneOpen id row next ⟨isRequest, mask, contained, isKey⟩ isOpen
    -- whatever is found by one of the keys has moved, so it is a request
    intro single
    by_contra isOther
    have moved := (settled row).1 ⟨isOpen, mask, contained, single, isKey⟩
    have same := closes.others id row found fun both => isOther both.2.1
    rw [same, Option.some.injEq] at next
    rw [← next, isOpen] at moved
    exact newStatus_ne_open event moved.symm
  intro condition
  have touchedIff : ∀ id row, (store.items state).get id = some row → row.status = .open →
      ((∃ mask, Contained event mask ∧ SingleBit mask ∧
        row.idempotencyKey = requestKey event mask) ↔ Covered event row) := by
    intro id row found isOpen
    constructor
    · rintro ⟨mask, contained, single, isKey⟩
      exact ⟨(condition id row found isOpen mask contained isKey).mpr single, mask, contained,
        isKey⟩
    · rintro ⟨isRequest, mask, contained, isKey⟩
      exact ⟨mask, contained, (condition id row found isOpen mask contained isKey).mp isRequest,
        isKey⟩
  refine ⟨?_, ?_, ?_, ?_⟩
  · intro id next foundNext covered isOpen
    rw [after] at foundNext
    obtain ⟨row, found, rfl⟩ := Option.map_eq_some_iff.mp foundNext
    obtain ⟨isRequest, mask, contained, isKey⟩ := covered
    rw [(store.settle_keeps row _).2] at isRequest
    rw [(store.settle_keeps row _).1] at isKey
    by_cases wasOpen : row.status = .open
    · have moved := (settled row).1 ⟨wasOpen, (touchedIff id row found wasOpen).mpr
        ⟨isRequest, mask, contained, isKey⟩⟩
      exact newStatus_ne_open event (moved.symm.trans isOpen)
    · rw [(settled row).2 fun both => wasOpen both.1] at isOpen
      exact wasOpen isOpen
  · intro id row found isOpen covered
    refine ⟨_, by rw [after, found]; rfl, (settled row).1 ⟨isOpen, ?_⟩⟩
    exact (touchedIff id row found isOpen).mpr covered
  · intro id row found notCovered
    rw [after, found, Option.map_some, (settled row).2]
    rintro ⟨isOpen, touched⟩
    exact notCovered ⟨isOpen, (touchedIff id row found isOpen).mp touched⟩
  · intro id absent
    rw [after, absent]
    rfl

end KeyedStore

/-! ## Keys of the stored items -/

def keyAt (items : Items) (id : Uuid) : Option String :=
  (items.get id).map WorkflowItem.idempotencyKey

def UniqueKeys (items : Items) : Prop :=
  ∀ id id' key, keyAt items id = some key → keyAt items id' = some key → id = id'

variable {items : Items} {id : Uuid} {row : WorkflowItem}

theorem keyAt_of_get (found : items.get id = some row) :
    keyAt items id = some row.idempotencyKey := by
  rw [keyAt, found]
  rfl

theorem keyAt_of_same {next : Items} (same : SameRows items next) : keyAt next = keyAt items := by
  funext id
  have keys := congrArg (Option.map Prod.snd) (same id)
  rw [Option.map_map, Option.map_map] at keys
  exact keys

theorem keyAt_insert (items : Items) (id other : Uuid) (row : WorkflowItem) :
    keyAt (items.insert id row) other =
      if other = id then some row.idempotencyKey else keyAt items other := by
  rw [keyAt, OrderedMap.get_insert]
  split <;> rfl

theorem get_settled (unique : UniqueKeys items) {next : WorkflowItem}
    (found : items.get id = some row) (isOpen : row.status = .open)
    (update : WorkflowItem → WorkflowItem) (isNext : update row = next) (other : Uuid) :
    (items.insert id next).get other = (items.get other).map fun stored =>
      if stored.idempotencyKey = row.idempotencyKey ∧ stored.status = .open then update stored
      else stored := by
  rw [OrderedMap.get_insert]
  split
  · next same =>
    rw [same, found, Option.map_some, if_pos ⟨rfl, isOpen⟩, isNext]
  next differs =>
  cases foundOther : items.get other with
  | none => rfl
  | some =>
    rw [Option.map_some, if_neg]
    rintro ⟨sameKey, -⟩
    refine differs (unique other id row.idempotencyKey ?_ (keyAt_of_get found))
    rw [keyAt_of_get foundOther, sameKey]

theorem get_unsettled {key : String}
    (none : ∀ id row, items.get id = some row → row.idempotencyKey = key → row.status ≠ .open)
    (update : WorkflowItem → WorkflowItem) (id : Uuid) :
    items.get id = (items.get id).map fun stored =>
      if stored.idempotencyKey = key ∧ stored.status = .open then update stored else stored := by
  cases found : items.get id with
  | none => rfl
  | some stored => rw [Option.map_some, if_neg fun both => none id stored found both.1 both.2]

/-! ### In memory -/

namespace Memory

open Workflow.Memory

/-- `transition_by_idempotency`, both sections in one go. -/
def transitionByIdempotency (now : Timestamp) (state : State) (transition : Transition) : State :=
  match state.byKey.get transition.idempotencyKey with
  | none => state
  | some id => state.transitionById now id transition

/-- The index leads to the items, and to all of them. -/
def Indexed (state : State) : Prop :=
  ∀ key id, state.byKey.get key = some id ↔ keyAt state.items id = some key

variable {state : State}

theorem Indexed.unique (indexed : Indexed state) : UniqueKeys state.items := by
  intro id id' key isKey isKey'
  have first := (indexed key id).mpr isKey
  rw [(indexed key id').mpr isKey', Option.some.injEq] at first
  exact first.symm

theorem Indexed.of_same {next : State} (indexed : Indexed state)
    (sameIndex : next.byKey = state.byKey) (same : SameRows state.items next.items) :
    Indexed next := by
  intro key id
  rw [sameIndex, keyAt_of_same same]
  exact indexed key id

theorem Indexed.insert (indexed : Indexed state) (numbered : Numbered state.items state.nextId)
    (now : Timestamp) (ingest : WorkflowItemIngest)
    (isNew : state.byKey.get ingest.idempotencyKey = none) :
    Indexed (state.insert now ingest).1 := by
  intro key id
  have noKey : keyAt state.items state.nextId = none := by
    rw [keyAt, numbered.isNew]
    rfl
  change (state.byKey.insert ingest.idempotencyKey state.nextId).get key = some id ↔
    keyAt (state.items.insert state.nextId (.fromIngest now state.nextId ingest)) id = some key
  rw [OrderedMap.get_insert, keyAt_insert]
  by_cases sameKey : key = ingest.idempotencyKey
  · rw [if_pos sameKey]
    split
    · next sameId =>
      exact iff_of_true (congrArg some sameId.symm) (congrArg some sameKey.symm)
    next otherId =>
    refine iff_of_false (fun same => otherId (Option.some.inj same).symm) fun isKey => ?_
    have found := (indexed key id).mpr isKey
    rw [sameKey, isNew] at found
    cases found
  rw [if_neg sameKey]
  split
  · next sameId =>
    refine iff_of_false (fun found => ?_) fun same => sameKey (Option.some.inj same).symm
    have isKey := (indexed key id).mp found
    rw [sameId, noKey] at isKey
    cases isKey
  · exact indexed key id

theorem indexed_upsertIngest (indexed : Indexed state)
    (numbered : Numbered state.items state.nextId) (now : Timestamp) (ingest : WorkflowItemIngest) :
    Indexed (state.upsertIngest now ingest).1 := by
  rw [State.upsertIngest]
  cases isKey : state.byKey.get ingest.idempotencyKey with
  | none => exact indexed.insert numbered now ingest isKey
  | some id =>
    obtain ⟨row, found, -⟩ := Option.map_eq_some_iff.mp ((indexed _ id).mp isKey)
    simp only [found]
    exact indexed.of_same rfl (.replace found rfl rfl)

theorem indexed_step (state : State) (input : Input)
    (inv : Numbered state.items state.nextId ∧ Indexed state) :
    Numbered (step state input).items (step state input).nextId ∧ Indexed (step state input) := by
  refine ⟨numbered_step state input inv.1, ?_⟩
  obtain ⟨numbered, indexed⟩ := inv
  rcases step_rows state input with ⟨now, ingest, isNext⟩ | ⟨same, -, sameIndex⟩
  · rw [isNext]
    exact indexed_upsertIngest indexed numbered now ingest
  · exact indexed.of_same sameIndex same

theorem indexed_reached (inputs : List Input) : Indexed (store.reached inputs) := by
  have inv : Numbered (store.reached inputs).items (store.reached inputs).nextId ∧
      Indexed (store.reached inputs) := by
    induction inputs using List.reverseRecOn with
    | nil => exact ⟨numbered_empty, fun _ _ => iff_of_false nofun nofun⟩
    | append_singleton inputs last ih =>
      rw [Store.reached, List.foldl_append]
      exact indexed_step _ last ih
  exact inv.2

theorem get_transitionByIdempotency (now : Timestamp) (indexed : Indexed state)
    (transition : Transition) (id : Uuid) :
    (transitionByIdempotency now state transition).items.get id =
      (state.items.get id).map fun row =>
        if row.idempotencyKey = transition.idempotencyKey ∧ row.status = .open then
          transition.inMemory now row
        else row := by
  rw [transitionByIdempotency]
  cases isKey : state.byKey.get transition.idempotencyKey with
  | none =>
    refine get_unsettled (fun other row found sameKey => ?_) _ id
    have known := (indexed _ other).mpr (keyAt_of_get found)
    rw [sameKey, isKey] at known
    cases known
  | some target =>
    obtain ⟨row, found, sameKey⟩ := Option.map_eq_some_iff.mp ((indexed _ target).mp isKey)
    simp only [State.transitionById, found]
    split_ifs with status
    · refine get_unsettled (fun other stored foundOther otherKey => ?_) _ id
      have isTarget : other = target := by
        refine indexed.unique other target transition.idempotencyKey ?_ ?_
        · rw [keyAt_of_get foundOther, otherKey]
        · rw [keyAt_of_get found, sameKey]
      rw [isTarget, found, Option.some.injEq] at foundOther
      exact foundOther ▸ status
    · rw [← sameKey]
      exact get_settled indexed.unique found (not_ne_iff.mp status) (transition.inMemory now) rfl id

/-- The store in memory, with its transitions at one time. -/
def keyed (now : Timestamp) : KeyedStore State where
  items := State.items
  transitionByIdempotency := transitionByIdempotency now
  update transition row := transition.inMemory now row
  Indexed := Indexed
  indexed := by
    intro state transition indexed
    rw [transitionByIdempotency]
    cases state.byKey.get transition.idempotencyKey with
    | none => exact indexed
    | some id =>
      obtain ⟨items, isNext, -, same⟩ := transitionById_moves state now id transition
      simp only [isNext]
      exact indexed.of_same rfl same
  update_spec := fun _ _ => ⟨rfl, rfl, rfl⟩
  get_items := fun _ transition indexed id => get_transitionByIdempotency now indexed transition id

end Memory

/-! ### Postgres -/

namespace Postgres

open Workflow.Postgres

variable {state : State} {items : Items}

theorem byKey_eq_some {key : String} {id : Uuid} {row : WorkflowItem}
    (isKey : byKey items key = some (id, row)) :
    items.get id = some row ∧ row.idempotencyKey = key := by
  rw [byKey] at isKey
  have passes := List.find?_some isKey
  exact ⟨get_of_byKey isKey, eq_of_beq passes⟩

theorem byKey_eq_none {key : String} (noKey : byKey items key = none) (id : Uuid) :
    keyAt items id ≠ some key := by
  intro isKey
  obtain ⟨row, found, sameKey⟩ := Option.map_eq_some_iff.mp isKey
  have differs := List.find?_eq_none.mp noKey _ (OrderedMap.mem_entries_of_get _ found)
  exact differs (beq_iff_eq.mpr sameKey)

theorem UniqueKeys.of_same {next : Items} (unique : UniqueKeys items)
    (same : SameRows items next) : UniqueKeys next := by
  intro id id' key isKey isKey'
  rw [keyAt_of_same same] at isKey isKey'
  exact unique id id' key isKey isKey'

theorem unique_upsertIngest (unique : UniqueKeys state.items) (now : Timestamp)
    (ingest : WorkflowItemIngest) : UniqueKeys (state.upsertIngest now ingest).1.items := by
  rw [State.upsertIngest]
  cases isKey : byKey state.items ingest.idempotencyKey with
  | some => exact UniqueKeys.of_same unique (.replace (byKey_eq_some isKey).1 rfl rfl)
  | none =>
    intro id id' key here there
    have fresh := byKey_eq_none isKey
    simp only [keyAt_insert] at here there
    split_ifs at here there with one two two
    · rw [one, two]
    · exact absurd (there.trans here.symm) (fresh id')
    · exact absurd (here.trans there.symm) (fresh id)
    · exact unique id id' key here there

theorem unique_step (state : State) (input : Input) (unique : UniqueKeys state.items) :
    UniqueKeys (step state input).items := by
  rcases step_rows state input with ⟨now, ingest, isNext⟩ | ⟨same, -⟩
  · rw [isNext]
    exact unique_upsertIngest unique now ingest
  · exact UniqueKeys.of_same unique same

theorem unique_reached (inputs : List Input) : UniqueKeys (store.reached inputs).items := by
  induction inputs using List.reverseRecOn with
  | nil => exact fun _ _ _ isKey => by cases isKey
  | append_singleton inputs last ih =>
    rw [Store.reached, List.foldl_append]
    exact unique_step _ last ih

theorem get_transitionByIdempotency (now : Timestamp) (unique : UniqueKeys state.items)
    (transition : Transition) (id : Uuid) :
    (state.transitionByIdempotency now transition).items.get id =
      (state.items.get id).map fun row =>
        if row.idempotencyKey = transition.idempotencyKey ∧ row.status = .open then
          transition.inPostgres now row
        else row := by
  rw [State.transitionByIdempotency]
  cases isKey : byKey state.items transition.idempotencyKey with
  | none =>
    refine get_unsettled (fun other row found sameKey => ?_) _ id
    exact absurd (sameKey ▸ keyAt_of_get found) (byKey_eq_none isKey other)
  | some entry =>
    obtain ⟨target, row⟩ := entry
    obtain ⟨found, sameKey⟩ := byKey_eq_some isKey
    simp only
    split_ifs with status
    · rw [← sameKey]
      exact get_settled unique found status (transition.inPostgres now) rfl id
    refine get_unsettled (fun other stored foundOther otherKey => ?_) _ id
    have isTarget : other = target := by
      refine unique other target transition.idempotencyKey ?_ ?_
      · rw [keyAt_of_get foundOther, otherKey]
      · rw [keyAt_of_get found, sameKey]
    rw [isTarget, found, Option.some.injEq] at foundOther
    exact foundOther ▸ status

/-- The table, with its transitions at one time. -/
def keyed (now : Timestamp) : KeyedStore State where
  items := State.items
  transitionByIdempotency := fun state => state.transitionByIdempotency now
  update transition row := transition.inPostgres now row
  Indexed state := UniqueKeys state.items
  indexed := by
    intro state transition unique
    obtain ⟨items, isNext, -, same⟩ := transitionByIdempotency_moves state now transition
    rw [isNext]
    exact UniqueKeys.of_same unique same
  update_spec := fun _ _ => ⟨rfl, rfl, rfl⟩
  get_items := fun _ transition unique id => get_transitionByIdempotency now unique transition id

end Postgres

/-! ## When a grant closes what it covers -/

/-- **When an event closes the requests that it covers and nothing else**, in every store that a
relayer can have. -/
theorem closes_covered_iff (event : OrgMemoryPermissionChainEvent) (now : Timestamp)
    (memory : List Workflow.Memory.Input) (postgres : List Workflow.Postgres.Input) :
    (ClosesCovered event (Workflow.Memory.store.reached memory).items
        (applyEvent (Memory.transitionByIdempotency now)
          (Workflow.Memory.store.reached memory) event).items ↔
      SingleBitRequests event (Workflow.Memory.store.reached memory).items) ∧
    (ClosesCovered event (Workflow.Postgres.store.reached postgres).items
        (applyEvent (fun state => state.transitionByIdempotency now)
          (Workflow.Postgres.store.reached postgres) event).items ↔
      SingleBitRequests event (Workflow.Postgres.store.reached postgres).items) :=
  ⟨(Memory.keyed now).closesCovered_iff (Memory.indexed_reached memory) event,
    (Postgres.keyed now).closesCovered_iff (Postgres.unique_reached postgres) event⟩

/-! ## A request for two permissions -/

/-- A request for the first two permissions. -/
def sampleRequest : WorkflowItemIngest where
  idempotencyKey := memoryAccessIdempotencyKey "0xorg" "0xbob" 3
  recipientAddress := "0xalice"
  itemType := itemTypeMemoryAccessRequest
  title := "Memory access requested"
  body := none
  payload := .obj []
  organizationId := some "0xorg"
  accountId := none
  sourceService := "social-server"
  actionDeadlineMs := none
  conversationRef := none

def sampleGrant : OrgMemoryPermissionChainEvent :=
  .granted "0xorg" "0xaccount" "0xgroup" "0xbob" 7 "0xalice" 1000

/-- **A request for two permissions stays open**, though all it asks for has been granted. -/
theorem request_for_two_stays_open :
    ¬(∀ event now memory, ClosesCovered event (Workflow.Memory.store.reached memory).items
      (applyEvent (Memory.transitionByIdempotency now)
        (Workflow.Memory.store.reached memory) event).items) ∧
    ¬∀ event now postgres, ClosesCovered event (Workflow.Postgres.store.reached postgres).items
      (applyEvent (fun state => state.transitionByIdempotency now)
        (Workflow.Postgres.store.reached postgres) event).items := by
  have covered : Covered sampleGrant (.fromIngest 1 0 sampleRequest) :=
    ⟨rfl, 3, ⟨by decide, by decide⟩, rfl⟩
  constructor
  · intro promise
    exact (promise sampleGrant 2 [.ingest 1 sampleRequest]).noneOpen 0 _ rfl covered rfl
  · intro promise
    exact (promise sampleGrant 2 [.ingest 1 sampleRequest]).noneOpen 0 _ rfl covered rfl

end MessagingStack.Relayer.MemoryAccess

import Mathlib.Data.List.Sort
import MessagingStack.Base.OrderedMap
import MessagingStack.Base.Runs
import MessagingStack.Relayer.Message

/-!
# Workflow items

Both variants of the store of `storage/workflow_items.rs`, the requests of `handlers/workflow.rs`,
the chain events of `services/membership_sync.rs` and the sweep of `services/workflow_expiry.rs`.
An item leaves the open status once exactly if no request and no sweep gets to an item that has
moved (`workflow_items_move_once_iff`).
-/

namespace MessagingStack.Relayer.Workflow

/-! ## Items -/

/-- `STATUS_OPEN`, `STATUS_ACTIONED`, `STATUS_DISMISSED` and `STATUS_EXPIRED`. -/
inductive Status where
  | «open»
  | actioned
  | dismissed
  | expired
  deriving DecidableEq

structure WorkflowItem where
  id : Uuid
  idempotencyKey : String
  recipientAddress : String
  itemType : String
  status : Status
  title : String
  body : Option String
  payload : Json
  organizationId : Option String
  accountId : Option String
  sourceService : String
  actionDeadlineMs : Option Int
  conversationRef : Option String
  createdAt : Timestamp
  updatedAt : Timestamp
  actionedBy : Option String
  actionedAt : Option Timestamp

structure WorkflowItemIngest where
  idempotencyKey : String
  recipientAddress : String
  itemType : String
  title : String
  body : Option String
  payload : Json
  organizationId : Option String
  accountId : Option String
  sourceService : String
  actionDeadlineMs : Option Int
  conversationRef : Option String

structure WorkflowTransitionPatch where
  payloadPatch : Option Json
  organizationId : Option String

/-- `ITEM_TYPE_ORG_INVITATION`. -/
def itemTypeOrgInvitation : String := "org_invitation"

def allowedWorkflowItemTypes : List String :=
  ["approval_request", "alert", "task", "reminder", "memory_access_request",
    "scheduled_job_failure", itemTypeOrgInvitation, "governance_request"]

def isAllowedWorkflowItemType (itemType : String) : Bool :=
  allowedWorkflowItemTypes.contains itemType

abbrev Items := OrderedMap Uuid WorkflowItem

def change (items : Items) (id : Uuid) (update : WorkflowItem → WorkflowItem) : Items :=
  match items.get id with
  | some row => items.insert id (update row)
  | none => items

namespace WorkflowItem

/-- `row_from_ingest`, and the row that an `INSERT` adds. -/
def fromIngest (now : Timestamp) (id : Uuid) (ingest : WorkflowItemIngest) : WorkflowItem :=
  { id, status := .open, createdAt := now, updatedAt := now, actionedBy := none, actionedAt := none
    idempotencyKey := ingest.idempotencyKey
    recipientAddress := ingest.recipientAddress
    itemType := ingest.itemType
    title := ingest.title
    body := ingest.body
    payload := ingest.payload
    organizationId := ingest.organizationId
    accountId := ingest.accountId
    sourceService := ingest.sourceService
    actionDeadlineMs := ingest.actionDeadlineMs
    conversationRef := ingest.conversationRef }

def refresh (now : Timestamp) (ingest : WorkflowItemIngest) (row : WorkflowItem) : WorkflowItem :=
  { row with
    title := ingest.title
    body := ingest.body
    payload := ingest.payload
    actionDeadlineMs := ingest.actionDeadlineMs
    updatedAt := now }

def transition (now : Timestamp) (newStatus : Status) (actionedBy : Option String)
    (row : WorkflowItem) : WorkflowItem :=
  { row with status := newStatus, updatedAt := now, actionedBy, actionedAt := some now }

def expire (now : Timestamp) (row : WorkflowItem) : WorkflowItem :=
  { row with status := .expired, updatedAt := now }

def isDue (row : WorkflowItem) (itemType : String) (nowMs : Int) : Bool :=
  row.itemType == itemType && row.status == .open &&
    match row.actionDeadlineMs with
    | some deadline => deadline < nowMs
    | none => false

end WorkflowItem

def mergeJsonPayload (existing patch : Json) : Json :=
  let existing := match existing with
    | .obj _ => existing
    | _ => .obj []
  existing.merge patch

/-- `left || right` of `jsonb`. -/
def jsonbConcat : Json → Json → Json
  | .obj fields, .obj changes => (Json.obj fields).merge (.obj changes)
  | left, right => .arr (items left ++ items right)
where
  items : Json → List Json
    | .arr items => items
    | value => [value]

/-! ## Chain events -/

/-- A call of `transition_by_idempotency`. -/
structure Transition where
  idempotencyKey : String
  newStatus : Status
  actionedBy : Option String
  patch : WorkflowTransitionPatch

def approvalIdempotencyKey (balanceId agentObjectId : String) : String :=
  "approval:" ++ balanceId ++ ":" ++ agentObjectId

def memoryAccessIdempotencyKey (organizationId memberAddress : String)
    (permissionsMask : Int) : String :=
  "memory_access:" ++ organizationId ++ ":" ++ memberAddress ++ ":" ++ toString permissionsMask

def orgInvitationIdempotencyKey (organizationId inviteeAddress : String) : String :=
  "org_invitation:" ++ organizationId ++ ":" ++ inviteeAddress

/-- The chain events that move items, each with its `workflow_payload_patch`. -/
inductive ChainEvent where
  | spendApproved (balanceId agentObjectId actor : String) (organizationId : Option String)
    (payload : Json)
  | spendApprovalConsumed (balanceId agentObjectId actor : String)
    (organizationId : Option String) (payload : Json)
  | spendApprovalRevoked (balanceId agentObjectId actor : String)
    (organizationId : Option String) (payload : Json)
  | invitationAccepted (organizationId invitee actor : String) (payload : Json)
  | invitationDeclined (organizationId invitee actor : String) (payload : Json)
  | permissionGranted (organizationId member actor : String) (permissionsMask : BitVec 64)
    (payload : Json)
  | permissionRevoked (organizationId member actor : String) (permissionsMask : BitVec 64)
    (payload : Json)

namespace ChainEvent

/-- `apply_workflow_chain_event`, from its transition on. -/
def approval (balanceId agentObjectId actor : String) (organizationId : Option String)
    (payload : Json) (newStatus : Status) : List Transition :=
  [{ newStatus
     idempotencyKey := approvalIdempotencyKey balanceId agentObjectId
     actionedBy := some actor
     patch := ⟨some payload, organizationId⟩ }]

/-- `apply_org_invitation_chain_event`, from its transition on. -/
def invitation (organizationId invitee actor : String) (payload : Json) (newStatus : Status) :
    List Transition :=
  [{ newStatus
     idempotencyKey := orgInvitationIdempotencyKey organizationId invitee
     actionedBy := some actor
     patch := ⟨some payload, some organizationId⟩ }]

/-- `apply_org_memory_permission_chain_event`: a transition for each bit of the mask. -/
def permission (organizationId member actor : String) (mask : BitVec 64) (payload : Json)
    (newStatus : Status) : List Transition :=
  ((List.range 64).filter fun bitIndex => mask.getLsbD bitIndex).map fun bitIndex =>
    { newStatus
      idempotencyKey := memoryAccessIdempotencyKey organizationId member
        (BitVec.twoPow 64 bitIndex).toInt
      actionedBy := some actor
      patch := ⟨some payload, some organizationId⟩ }

def transitions : ChainEvent → List Transition
  | spendApproved balance agent actor organizationId payload =>
    approval balance agent actor organizationId payload .actioned
  | spendApprovalConsumed balance agent actor organizationId payload =>
    approval balance agent actor organizationId payload .actioned
  | spendApprovalRevoked balance agent actor organizationId payload =>
    approval balance agent actor organizationId payload .expired
  | invitationAccepted organizationId invitee actor payload =>
    invitation organizationId invitee actor payload .actioned
  | invitationDeclined organizationId invitee actor payload =>
    invitation organizationId invitee actor payload .dismissed
  | permissionGranted organizationId member actor mask payload =>
    permission organizationId member actor mask payload .actioned
  | permissionRevoked organizationId member actor mask payload =>
    permission organizationId member actor mask payload .dismissed

end ChainEvent

/-- What a chain event does to an open row in memory. -/
def Transition.inMemory (now : Timestamp) (transition : Transition) (row : WorkflowItem) :
    WorkflowItem :=
  { row.transition now transition.newStatus transition.actionedBy with
    organizationId := row.organizationId.or transition.patch.organizationId
    payload := match transition.patch.payloadPatch with
      | some patch => mergeJsonPayload row.payload patch
      | none => row.payload }

/-- What a chain event does to an open row under Postgres. -/
def Transition.inPostgres (now : Timestamp) (transition : Transition) (row : WorkflowItem) :
    WorkflowItem :=
  { row.transition now transition.newStatus transition.actionedBy with
    organizationId := row.organizationId.or transition.patch.organizationId
    payload := jsonbConcat row.payload (transition.patch.payloadPatch.getD (.obj [])) }

/-! ## Requests -/

structure IngestWorkflowResponse where
  id : Uuid
  status : Status
  deriving DecidableEq

inductive ApiError where
  | badRequest (message : String)
  | notFound (message : String)
  deriving DecidableEq

def checkIngest (body : WorkflowItemIngest) : Except ApiError Unit :=
  if body.recipientAddress.isEmpty || body.idempotencyKey.isEmpty then
    .error (.badRequest "recipient_address and idempotency_key required")
  else if !isAllowedWorkflowItemType body.itemType then
    .error (.badRequest ("unsupported workflow item_type: " ++ body.itemType))
  else .ok ()

def ingestWorkflowItemInternal {σ : Type} (upsertIngest : WorkflowItemIngest → σ × WorkflowItem)
    (store : σ) (body : WorkflowItemIngest) : σ × Except ApiError IngestWorkflowResponse :=
  match checkIngest body with
  | .error error => (store, .error error)
  | .ok () =>
    let (store, row) := upsertIngest body
    (store, .ok { id := row.id, status := .open })

/-! ## Stores -/

/-- A store of items that takes inputs, some of which are ingests with an answer. -/
structure Store (σ ι : Type) where
  start : σ
  step : σ → ι → σ
  items : σ → Items
  answer : σ → ι → Option IngestWorkflowResponse

namespace Store

variable {σ ι : Type} (store : Store σ ι)

def reached (inputs : List ι) : σ := inputs.foldl store.step store.start

end Store

def hasStatus (items : Items) (id : Uuid) (condition : Status → Bool) : Bool :=
  match items.get id with
  | some row => condition row.status
  | none => false

def isOpen (items : Items) (id : Uuid) : Bool := hasStatus items id (· == .open)

def isClosed (items : Items) (id : Uuid) : Bool := hasStatus items id (· != .open)

/-- Items that have moved keep their status and who moved them. -/
def Keeps (before after : Items) : Prop :=
  ∀ id row, before.get id = some row → row.status ≠ .open →
    ∃ kept, after.get id = some kept ∧ kept.status = row.status ∧ kept.actionedBy = row.actionedBy

/-- How often an item goes from open to another status in a run from a state. -/
def Store.moves {σ ι : Type} (store : Store σ ι) (id : Uuid) : σ → List ι → Nat
  | _, [] => 0
  | state, input :: rest =>
    (if isOpen (store.items state) id && isClosed (store.items (store.step state input)) id
      then 1 else 0) + store.moves id (store.step state input) rest

/-- The answer to an ingest is the status of the stored item. -/
def Store.AnswersTruly {σ ι : Type} (store : Store σ ι) (state : σ) (input : ι) : Prop :=
  ∀ response ∈ store.answer state input,
    ∃ row, (store.items (store.step state input)).get response.id = some row ∧
      response.status = row.status

/-- **What is promised of a run**: an item that has moved keeps its status and who moved it, from
any point of the run to any later one, each item moves at most once, and each ingest is answered
with the status of the stored item. -/
structure MovesOnce {σ ι : Type} (store : Store σ ι) (inputs : List ι) : Prop where
  kept : ∀ before between after, inputs = before ++ between ++ after →
    Keeps (store.items (store.reached before)) (store.items (store.reached (before ++ between)))
  once : ∀ id, store.moves id store.start inputs ≤ 1
  answered : ∀ before input after, inputs = before ++ input :: after →
    store.AnswersTruly (store.reached before) input

/-! ### In memory -/

namespace Memory

/-- `InMemoryWorkflowStore`, with the transitions that have looked up their item. -/
structure State where
  items : Items
  byKey : OrderedMap String Uuid
  nextId : Uuid
  found : List (Uuid × Transition)

inductive Input where
  | ingest (now : Timestamp) (body : WorkflowItemIngest)
  /-- A created invitation on chain. -/
  | created (now : Timestamp) (ingest : WorkflowItemIngest)
  | ack (now : Timestamp) (id : Uuid) (sender : String)
  | dismiss (now : Timestamp) (id : Uuid) (sender : String)
  | lookUp (event : ChainEvent) (place : Nat)
  /-- A transition that has its item changes it. -/
  | apply (now : Timestamp) (place : Nat)
  | sweep (now : Timestamp) (itemType : String) (nowMs : Int) (limit : Nat) (visited : List Uuid)

/-- A row is added under its key. -/
def State.insert (state : State) (now : Timestamp) (ingest : WorkflowItemIngest) :
    State × WorkflowItem :=
  let row := WorkflowItem.fromIngest now state.nextId ingest
  ({ state with
      byKey := state.byKey.insert row.idempotencyKey row.id
      items := state.items.insert row.id row
      nextId := state.nextId + 1 }, row)

def State.upsertIngest (state : State) (now : Timestamp) (ingest : WorkflowItemIngest) :
    State × WorkflowItem :=
  match state.byKey.get ingest.idempotencyKey with
  | some existingId =>
    match state.items.get existingId with
    | some row =>
      let row := row.refresh now ingest
      ({ state with items := state.items.insert existingId row }, row)
    | none => state.insert now ingest
  | none => state.insert now ingest

def State.transitionStatus (state : State) (now : Timestamp) (id : Uuid) (recipient : String)
    (newStatus : Status) (actionedBy : Option String) : State :=
  match state.items.get id with
  | none => state
  | some row =>
    if row.recipientAddress ≠ recipient then state
    else { state with items := state.items.insert id (row.transition now newStatus actionedBy) }

def State.transitionById (state : State) (now : Timestamp) (id : Uuid) (transition : Transition) :
    State :=
  match state.items.get id with
  | none => state
  | some row =>
    if row.status ≠ .open then state
    else { state with items := state.items.insert id (transition.inMemory now row) }

def sweepLoop (now : Timestamp) (itemType : String) (nowMs : Int) : Nat → List Uuid → Items → Items
  | _, [], items => items
  | 0, _, items => items
  | left + 1, id :: rest, items =>
    match items.get id with
    | none => sweepLoop now itemType nowMs (left + 1) rest items
    | some row =>
      if row.isDue itemType nowMs then
        sweepLoop now itemType nowMs left rest (items.insert id (row.expire now))
      else sweepLoop now itemType nowMs (left + 1) rest items

def step (state : State) : Input → State
  | .ingest now body => (ingestWorkflowItemInternal (state.upsertIngest now) state body).1
  | .created now ingest => (state.upsertIngest now ingest).1
  | .ack now id sender => state.transitionStatus now id sender .actioned (some sender)
  | .dismiss now id sender => state.transitionStatus now id sender .dismissed (some sender)
  | .lookUp event place =>
    match event.transitions[place]? with
    | none => state
    | some transition =>
      match state.byKey.get transition.idempotencyKey with
      | none => state
      | some id => { state with found := state.found ++ [(id, transition)] }
  | .apply now place =>
    match state.found[place]? with
    | none => state
    | some (id, transition) =>
      { state.transitionById now id transition with found := state.found.eraseIdx place }
  | .sweep now itemType nowMs limit visited =>
    { state with items := sweepLoop now itemType nowMs limit visited state.items }

def answer (state : State) : Input → Option IngestWorkflowResponse
  | .ingest now body => (ingestWorkflowItemInternal (state.upsertIngest now) state body).2.toOption
  | _ => none

def store : Store State Input where
  start := ⟨∅, ∅, 0, []⟩
  step := step
  items := State.items
  answer := answer

/-- A request finds its item open, or as it would leave it. -/
def Fresh (state : State) (id : Uuid) (recipient : String) (newStatus : Status) : Prop :=
  ∀ row ∈ state.items.get id, row.recipientAddress = recipient →
    row.status = .open ∨ (row.status = newStatus ∧ row.actionedBy = some recipient)

/-- A request finds its item open, or as it would leave it; and an accepted ingest that has a row
finds it open. -/
def Clean (state : State) : Input → Prop
  | .ingest _ body => checkIngest body = .ok () →
    ∀ id ∈ state.byKey.get body.idempotencyKey, ∀ row ∈ state.items.get id, row.status = .open
  | .ack _ id sender => Fresh state id sender .actioned
  | .dismiss _ id sender => Fresh state id sender .dismissed
  | _ => True

end Memory

/-! ### Postgres -/

namespace Postgres

/-- The table `workflow_items`, with the selections of the sweeps in progress. -/
structure State where
  items : Items
  nextId : Uuid
  sweeps : List (List Uuid)

inductive Input where
  | ingest (now : Timestamp) (body : WorkflowItemIngest)
  /-- A created invitation on chain. -/
  | created (now : Timestamp) (ingest : WorkflowItemIngest)
  | ack (now : Timestamp) (id : Uuid) (sender : String)
  | dismiss (now : Timestamp) (id : Uuid) (sender : String)
  | transition (now : Timestamp) (event : ChainEvent) (place : Nat)
  /-- A sweep selects its rows. -/
  | select (itemType : String) (nowMs : Int) (limit : Nat)
  /-- A sweep updates the rows that it has selected. -/
  | commit (now : Timestamp) (place : Nat)
  /-- A sweep fails. -/
  | abandon (place : Nat)

/-- The row that the unique index on the key leads to. -/
def byKey (items : Items) (key : String) : Option (Uuid × WorkflowItem) :=
  items.entries.find? fun (_, row) => row.idempotencyKey == key

def State.upsertIngest (state : State) (now : Timestamp) (ingest : WorkflowItemIngest) :
    State × WorkflowItem :=
  match byKey state.items ingest.idempotencyKey with
  | some (id, row) =>
    let row := row.refresh now ingest
    ({ state with items := state.items.insert id row }, row)
  | none =>
    let row := WorkflowItem.fromIngest now state.nextId ingest
    ({ state with items := state.items.insert row.id row, nextId := state.nextId + 1 }, row)

def State.transitionStatus (state : State) (now : Timestamp) (id : Uuid) (recipient : String)
    (newStatus : Status) (actionedBy : Option String) : State :=
  match state.items.get id with
  | none => state
  | some row =>
    if row.recipientAddress = recipient then
      { state with items := state.items.insert id (row.transition now newStatus actionedBy) }
    else state

def State.transitionByIdempotency (state : State) (now : Timestamp) (transition : Transition) :
    State :=
  match byKey state.items transition.idempotencyKey with
  | none => state
  | some (id, row) =>
    if row.status = .open then
      { state with items := state.items.insert id (transition.inPostgres now row) }
    else state

/-- The subselect of `sweep_expired`. -/
def selectExpired (items : Items) (itemType : String) (nowMs : Int) (limit : Nat) : List Uuid :=
  let due := items.entries.filter fun (_, row) => row.isDue itemType nowMs
  let ordered := due.insertionSort fun left right =>
    left.2.actionDeadlineMs.getD 0 ≤ right.2.actionDeadlineMs.getD 0
  (ordered.take limit).map (·.1)

/-- The update of `sweep_expired`, on the rows that it has selected as they are by now. -/
def expireSelected (now : Timestamp) (selected : List Uuid) (items : Items) : Items :=
  selected.foldl (fun items id => change items id (WorkflowItem.expire now)) items

def step (state : State) : Input → State
  | .ingest now body => (ingestWorkflowItemInternal (state.upsertIngest now) state body).1
  | .created now ingest => (state.upsertIngest now ingest).1
  | .ack now id sender => state.transitionStatus now id sender .actioned (some sender)
  | .dismiss now id sender => state.transitionStatus now id sender .dismissed (some sender)
  | .transition now event place =>
    match event.transitions[place]? with
    | none => state
    | some transition => state.transitionByIdempotency now transition
  | .select itemType nowMs limit =>
    { state with sweeps := state.sweeps ++ [selectExpired state.items itemType nowMs limit] }
  | .commit now place =>
    match state.sweeps[place]? with
    | none => state
    | some selected =>
      { state with
        items := expireSelected now selected state.items
        sweeps := state.sweeps.eraseIdx place }
  | .abandon place => { state with sweeps := state.sweeps.eraseIdx place }

def answer (state : State) : Input → Option IngestWorkflowResponse
  | .ingest now body => (ingestWorkflowItemInternal (state.upsertIngest now) state body).2.toOption
  | _ => none

def store : Store State Input where
  start := ⟨∅, 0, []⟩
  step := step
  items := State.items
  answer := answer

/-- A request finds its item open, or as it would leave it. -/
def Fresh (state : State) (id : Uuid) (recipient : String) (newStatus : Status) : Prop :=
  ∀ row ∈ state.items.get id, row.recipientAddress = recipient →
    row.status = .open ∨ (row.status = newStatus ∧ row.actionedBy = some recipient)

/-- A request finds its item open, or as it would leave it; an accepted ingest that has a row finds
it open; and a sweep gets to the rows that it has selected before anything else closes them. -/
def Clean (state : State) : Input → Prop
  | .ingest _ body => checkIngest body = .ok () →
    ∀ id row, byKey state.items body.idempotencyKey = some (id, row) → row.status = .open
  | .ack _ id sender => Fresh state id sender .actioned
  | .dismiss _ id sender => Fresh state id sender .dismissed
  | .commit _ place => ∀ selected ∈ state.sweeps[place]?, ∀ id ∈ selected,
    ∀ row ∈ state.items.get id, row.status = .open ∨ row.status = .expired
  | _ => True

end Postgres

/-! ## What one change does to the items -/

variable {items : Items} {id : Uuid} {row : WorkflowItem} {nextId : Uuid}

theorem isClosed_iff :
    isClosed items id = true ↔ ∃ row, items.get id = some row ∧ row.status ≠ .open := by
  rw [isClosed, hasStatus]
  rcases items.get id with _ | row
  · simp
  · simp

theorem not_open_of_closed (closed : isClosed items id = true) :
    isOpen items id = false := by
  obtain ⟨row, found, status⟩ := isClosed_iff.mp closed
  rw [isOpen, hasStatus, found]
  exact beq_eq_false_iff_ne.mpr status

theorem Keeps.refl (items : Items) : Keeps items items :=
  fun _ row found _ => ⟨row, found, rfl, rfl⟩

theorem Keeps.trans {first second third : Items} (early : Keeps first second)
    (late : Keeps second third) : Keeps first third := by
  intro id row found closed
  obtain ⟨kept, foundKept, status, actionedBy⟩ := early id row found closed
  obtain ⟨last, foundLast, lastStatus, lastActionedBy⟩ := late id kept foundKept (status ▸ closed)
  exact ⟨last, foundLast, lastStatus.trans status, lastActionedBy.trans actionedBy⟩

theorem Keeps.isClosed {before after : Items} (keeps : Keeps before after)
    (closed : isClosed before id = true) : Workflow.isClosed after id = true := by
  obtain ⟨row, found, status⟩ := isClosed_iff.mp closed
  obtain ⟨kept, foundKept, same, -⟩ := keeps id row found status
  exact isClosed_iff.mpr ⟨kept, foundKept, same ▸ status⟩

theorem keeps_insert_new (row : WorkflowItem) (isNew : items.get id = none) :
    Keeps items (items.insert id row) := by
  intro other old found _
  have differs : other ≠ id := by
    rintro rfl
    cases isNew ▸ found
  refine ⟨old, ?_, rfl, rfl⟩
  rw [OrderedMap.get_insert, if_neg differs]
  exact found

theorem keeps_insert_iff {next : WorkflowItem} (found : items.get id = some row) :
    Keeps items (items.insert id next) ↔
      row.status = .open ∨ (next.status = row.status ∧ next.actionedBy = row.actionedBy) := by
  constructor
  · intro keeps
    by_cases isOpen : row.status = .open
    · exact .inl isOpen
    obtain ⟨kept, foundKept, same⟩ := keeps id row found isOpen
    rw [OrderedMap.get_insert, if_pos rfl, Option.some.injEq] at foundKept
    subst foundKept
    exact .inr same
  intro allowed other old foundOld closed
  rw [OrderedMap.get_insert]
  by_cases same : other = id
  · subst same
    rw [if_pos rfl]
    obtain rfl : row = old := Option.some.inj (found.symm.trans foundOld)
    exact ⟨next, rfl, allowed.resolve_left closed⟩
  · rw [if_neg same]
    exact ⟨old, foundOld, rfl, rfl⟩

theorem keeps_refresh (now : Timestamp) (ingest : WorkflowItemIngest)
    (found : items.get id = some row) :
    Keeps items (items.insert id (row.refresh now ingest)) :=
  (keeps_insert_iff found).mpr (.inr ⟨rfl, rfl⟩)

/-! ## What a run keeps -/

namespace Store

variable {σ ι : Type} (store : Store σ ι)

/-- A step that breaks nothing of the promise. -/
def Sound (state : σ) (input : ι) : Prop :=
  Keeps (store.items state) (store.items (store.step state input)) ∧ store.AnswersTruly state input

variable {store}

variable {state : σ} {inputs : List ι}

theorem AnswersTruly.of_none {input : ι} (unanswered : store.answer state input = none) :
    store.AnswersTruly state input := by
  intro response isAnswer
  rw [unanswered] at isAnswer
  cases isAnswer

section

variable (along : Along store.step store.Sound state inputs)
include along

theorem keeps_of_along :
    Keeps (store.items state) (store.items (inputs.foldl store.step state)) :=
  @Along.invariant _ _ store.step store.Sound
    (fun next => Keeps (store.items state) (store.items next))
    (fun _ _ keeps sound => keeps.trans sound.1) _ _ along (.refl _)

theorem moves_of_closed {id : Uuid} (closed : isClosed (store.items state) id = true) :
    store.moves id state inputs = 0 := by
  induction inputs generalizing state with
  | nil => rfl
  | cons input rest ih =>
    obtain ⟨sound, along⟩ := along
    rw [moves, ih along (sound.1.isClosed closed), not_open_of_closed closed, Bool.false_and,
      if_neg Bool.false_ne_true]

theorem moves_le_one {id : Uuid} :
    store.moves id state inputs ≤ 1 := by
  induction inputs generalizing state with
  | nil => exact Nat.zero_le 1
  | cons input rest ih =>
    obtain ⟨-, along⟩ := along
    rw [moves]
    split_ifs with move
    · rw [moves_of_closed along (Bool.and_eq_true_iff.mp move).2]
    · rw [Nat.zero_add]
      exact ih along

end

/-- **A run keeps the promise exactly if each of its steps does.** -/
theorem movesOnce_iff (inputs : List ι) :
    MovesOnce store inputs ↔ Along store.step store.Sound store.start inputs := by
  constructor
  · intro promise
    by_contra fails
    obtain ⟨before, input, after, rfl, -, unsound⟩ := Along.exists_first_failure fails
    have keeps := promise.kept before [input] after (by rw [List.append_assoc]; rfl)
    rw [reached, reached, List.foldl_append] at keeps
    exact unsound ⟨keeps, promise.answered before input after rfl⟩
  intro along
  refine ⟨?_, fun id => moves_le_one along, ?_⟩
  · rintro before between after rfl
    rw [List.append_assoc] at along
    have later := ((Along.append _ _ _).mp along).2
    rw [reached, reached, List.foldl_append]
    exact keeps_of_along ((Along.append _ _ _).mp later).1
  · rintro before input after rfl
    exact (((Along.append _ _ _).mp along).2).1.2

end Store

/-! ## Steps -/

/-- What every run keeps: the rows are stored under their ids, which are serial numbers. -/
def Numbered (items : Items) (nextId : Uuid) : Prop :=
  ∀ id row, items.get id = some row → row.id = id ∧ id < nextId

theorem numbered_empty : Numbered ∅ 0 := by
  intro id row found
  cases found

theorem Numbered.isNew (numbered : Numbered items nextId) :
    items.get nextId = none := by
  rcases found : items.get nextId with _ | row
  · rfl
  · exact absurd (numbered nextId row found).2 (Nat.lt_irrefl nextId)

/-- **The same rows**, but for changes that leave their ids and keys alone. -/
def SameRows (items next : Items) : Prop :=
  ∀ id, (next.get id).map (fun row => (row.id, row.idempotencyKey)) =
    (items.get id).map fun row => (row.id, row.idempotencyKey)

theorem SameRows.refl (items : Items) : SameRows items items := fun _ => rfl

theorem SameRows.replace {next : WorkflowItem} (found : items.get id = some row)
    (sameId : next.id = row.id) (sameKey : next.idempotencyKey = row.idempotencyKey) :
    SameRows items (items.insert id next) := by
  intro other
  rw [OrderedMap.get_insert]
  split_ifs with same
  · rw [same, found, Option.map_some, Option.map_some, sameId, sameKey]
  · rfl

theorem Numbered.of_same {next : Items} (numbered : Numbered items nextId)
    (same : SameRows items next) : Numbered next nextId := by
  intro id row found
  have pairs := same id
  rw [found] at pairs
  obtain ⟨old, foundOld, sameRow⟩ := Option.map_eq_some_iff.mp pairs.symm
  obtain ⟨isId, below⟩ := numbered id old foundOld
  exact ⟨(congrArg Prod.fst sameRow).symm.trans isId, below⟩

theorem Numbered.add (numbered : Numbered items nextId) (now : Timestamp)
    (ingest : WorkflowItemIngest) :
    Numbered (items.insert nextId (.fromIngest now nextId ingest)) (nextId + 1) := by
  intro other stored foundStored
  rw [OrderedMap.get_insert] at foundStored
  split_ifs at foundStored with isKey
  · cases foundStored
    exact ⟨isKey.symm, isKey ▸ Nat.lt_succ_self _⟩
  · obtain ⟨isId, below⟩ := numbered other stored foundStored
    exact ⟨isId, Nat.lt_succ_of_lt below⟩

/-- What `upsert_ingest` does: it refreshes the row with the key, or adds one. -/
inductive Upserts (items : Items) (nextId : Uuid) (now : Timestamp) (ingest : WorkflowItemIngest) :
    Option (Uuid × WorkflowItem) → Items × Uuid × WorkflowItem → Prop
  | refreshed (id : Uuid) (row : WorkflowItem) (found : items.get id = some row) :
    Upserts items nextId now ingest (some (id, row))
      (items.insert id (row.refresh now ingest), nextId, row.refresh now ingest)
  | added :
    Upserts items nextId now ingest none
      (items.insert nextId (.fromIngest now nextId ingest), nextId + 1,
        .fromIngest now nextId ingest)

section Upserts

variable {items : Items} {nextId : Uuid} {now : Timestamp} {ingest : WorkflowItemIngest}
  {existing : Option (Uuid × WorkflowItem)} {result : Items × Uuid × WorkflowItem}

theorem Upserts.numbered (numbered : Numbered items nextId)
    (upserts : Upserts items nextId now ingest existing result) :
    Numbered result.1 result.2.1 := by
  cases upserts with
  | refreshed id row found => exact numbered.of_same (.replace found rfl rfl)
  | added => exact numbered.add now ingest

theorem Upserts.keeps (numbered : Numbered items nextId)
    (upserts : Upserts items nextId now ingest existing result) : Keeps items result.1 := by
  cases upserts with
  | refreshed id row found => exact keeps_refresh now ingest found
  | added => exact keeps_insert_new _ numbered.isNew

theorem Upserts.open_iff (numbered : Numbered items nextId)
    (upserts : Upserts items nextId now ingest existing result) :
    (∃ row, result.1.get result.2.2.id = some row ∧ Status.open = row.status) ↔
      ∀ entry ∈ existing, entry.2.status = .open := by
  cases upserts with
  | refreshed id row found =>
    have isId : (row.refresh now ingest).id = id := (numbered id row found).1
    rw [isId, OrderedMap.get_insert, if_pos rfl]
    constructor
    · rintro ⟨_, ⟨⟩, status⟩ _ ⟨⟩
      exact status.symm
    · exact fun isOpen => ⟨_, rfl, (isOpen _ rfl).symm⟩
  | added =>
    have isId : (WorkflowItem.fromIngest now nextId ingest).id = nextId := rfl
    rw [isId, OrderedMap.get_insert, if_pos rfl]
    constructor
    · intro _ entry isEntry
      cases isEntry
    · exact fun _ => ⟨_, rfl, rfl⟩

end Upserts

/-- What a request makes of the items: it writes a status to a row of its recipient. -/
def requested (items : Items) (now : Timestamp) (id : Uuid) (recipient : String)
    (newStatus : Status) (actionedBy : Option String) : Items :=
  match items.get id with
  | none => items
  | some row =>
    if row.recipientAddress = recipient then
      items.insert id (row.transition now newStatus actionedBy)
    else items

section Requests

variable {now : Timestamp} {recipient : String} {newStatus : Status}

theorem same_requested {actionedBy : Option String} :
    SameRows items (requested items now id recipient newStatus actionedBy) := by
  rw [requested]
  rcases found : items.get id with _ | row
  · exact .refl items
  simp only
  split_ifs
  · exact .replace found rfl rfl
  · exact .refl items

theorem keeps_requested_iff :
    Keeps items (requested items now id recipient newStatus (some recipient)) ↔
      ∀ row ∈ items.get id, row.recipientAddress = recipient →
        row.status = .open ∨ (row.status = newStatus ∧ row.actionedBy = some recipient) := by
  rw [requested]
  rcases found : items.get id with _ | row
  · exact iff_of_true (Keeps.refl items) fun _ isIn => absurd isIn (Option.not_mem_none _)
  simp only [Option.mem_def, Option.some.injEq, forall_eq']
  split_ifs with same
  · rw [keeps_insert_iff found, imp_iff_right same]
    exact or_congr Iff.rfl (and_congr eq_comm eq_comm)
  · exact iff_of_true (Keeps.refl items) fun other => absurd other same

end Requests

/-! ### In memory -/

namespace Memory

/-- The row that an ingest finds by its key. -/
def State.existing (state : State) (key : String) : Option (Uuid × WorkflowItem) :=
  (state.byKey.get key).bind fun id => (state.items.get id).map fun row => (id, row)

variable {state : State} {id : Uuid}

theorem existing_iff {key : String} {row : WorkflowItem} :
    state.existing key = some (id, row) ↔
      state.byKey.get key = some id ∧ state.items.get id = some row := by
  simp only [State.existing, Option.bind_eq_some_iff, Option.map_eq_some_iff, Prod.mk.injEq]
  constructor
  · rintro ⟨_, isKey, _, found, rfl, rfl⟩
    exact ⟨isKey, found⟩
  · rintro ⟨isKey, found⟩
    exact ⟨id, isKey, row, found, rfl, rfl⟩

theorem upsertIngest_upserts (state : State) (now : Timestamp) (ingest : WorkflowItemIngest) :
    Upserts state.items state.nextId now ingest (state.existing ingest.idempotencyKey)
      ((state.upsertIngest now ingest).1.items, (state.upsertIngest now ingest).1.nextId,
        (state.upsertIngest now ingest).2) := by
  rw [State.upsertIngest, State.existing]
  rcases state.byKey.get ingest.idempotencyKey with _ | id
  · exact .added
  rw [Option.bind_some]
  simp only
  rcases found : state.items.get id with _ | row
  · exact .added
  · exact .refreshed id row found

theorem transitionStatus_eq (now : Timestamp) (id : Uuid) (recipient : String)
    (newStatus : Status) (actionedBy : Option String) :
    state.transitionStatus now id recipient newStatus actionedBy =
      { state with items := requested state.items now id recipient newStatus actionedBy } := by
  rw [State.transitionStatus, requested]
  rcases state.items.get id with _ | row
  · rfl
  · simp only [ite_not]
    split_ifs <;> rfl

theorem transitionById_moves (state : State) (now : Timestamp) (id : Uuid)
    (transition : Transition) :
    ∃ items, state.transitionById now id transition = { state with items } ∧
      Keeps state.items items ∧ SameRows state.items items := by
  rw [State.transitionById]
  rcases found : state.items.get id with _ | row
  · exact ⟨state.items, rfl, .refl _, .refl _⟩
  simp only
  split_ifs with status
  · exact ⟨state.items, rfl, .refl _, .refl _⟩
  · exact ⟨_, rfl, (keeps_insert_iff found).mpr (.inl (not_ne_iff.mp status)),
      .replace found rfl rfl⟩

theorem sweepLoop_moves (now : Timestamp) (itemType : String) (nowMs : Int)
    (visited : List Uuid) : ∀ (limit : Nat) (items : Items),
      Keeps items (sweepLoop now itemType nowMs limit visited items) ∧
        SameRows items (sweepLoop now itemType nowMs limit visited items) := by
  induction visited with
  | nil =>
    intro limit items
    rw [sweepLoop]
    exact ⟨.refl items, .refl items⟩
  | cons id rest ih =>
    intro limit items
    cases limit with
    | zero =>
      rw [sweepLoop]
      · exact ⟨.refl items, .refl items⟩
      · exact nofun
    | succ left =>
      rw [sweepLoop]
      rcases found : items.get id with _ | row
      · exact ih (left + 1) items
      simp only
      split_ifs with due
      · have isOpen : row.status = .open := by
          rw [WorkflowItem.isDue, Bool.and_eq_true, Bool.and_eq_true, beq_iff_eq,
            beq_iff_eq] at due
          exact due.1.2
        obtain ⟨keeps, same⟩ := ih left (items.insert id (row.expire now))
        have expired : SameRows items (items.insert id (row.expire now)) := .replace found rfl rfl
        exact ⟨((keeps_insert_iff found).mpr (.inl isOpen)).trans keeps,
          fun other => (same other).trans (expired other)⟩
      · exact ih (left + 1) items

theorem step_rows (state : State) (input : Input) :
    (∃ now ingest, step state input = (state.upsertIngest now ingest).1) ∨
      SameRows state.items (step state input).items ∧
        (step state input).nextId = state.nextId ∧ (step state input).byKey = state.byKey := by
  have same : SameRows state.items state.items ∧ state.nextId = state.nextId ∧
      state.byKey = state.byKey := ⟨.refl _, rfl, rfl⟩
  cases input with
  | ingest now body =>
    rw [step, ingestWorkflowItemInternal]
    rcases checkIngest body with _ | _
    · exact .inr same
    · exact .inl ⟨now, body, rfl⟩
  | created now ingest => exact .inl ⟨now, ingest, rfl⟩
  | ack now id sender | dismiss now id sender =>
    rw [step, transitionStatus_eq]
    exact .inr ⟨same_requested, rfl, rfl⟩
  | lookUp event place =>
    rw [step]
    rcases event.transitions[place]? with _ | transition
    · exact .inr same
    · simp only
      rcases state.byKey.get transition.idempotencyKey with _ | id <;> exact .inr same
  | apply now place =>
    rw [step]
    rcases state.found[place]? with _ | ⟨id, transition⟩
    · exact .inr same
    · obtain ⟨items, isNext, -, sameRows⟩ := transitionById_moves state now id transition
      simp only [isNext]
      exact .inr ⟨sameRows, trivial, trivial⟩
  | sweep now itemType nowMs limit visited =>
    exact .inr ⟨(sweepLoop_moves now itemType nowMs visited limit state.items).2, rfl, rfl⟩

theorem numbered_step (state : State) (input : Input)
    (numbered : Numbered state.items state.nextId) :
    Numbered (step state input).items (step state input).nextId := by
  rcases step_rows state input with ⟨now, ingest, isNext⟩ | ⟨same, sameNext, -⟩
  · rw [isNext]
    exact (upsertIngest_upserts state now ingest).numbered numbered
  · rw [sameNext]
    exact numbered.of_same same

/-- **When a step in memory keeps the promise.** -/
theorem sound_iff (state : State) (input : Input) (numbered : Numbered state.items state.nextId) :
    store.Sound state input ↔ Clean state input := by
  cases input with
  | ingest now body =>
    rw [Store.Sound, Store.AnswersTruly, Clean]
    simp only [store, step, answer, ingestWorkflowItemInternal]
    rcases checkIngest body with error | _
    · exact iff_of_true ⟨.refl _, by rintro _ ⟨⟩⟩ (by rintro ⟨⟩)
    have upserts := upsertIngest_upserts state now body
    have isOpen := upserts.open_iff numbered
    simp only [Except.toOption, Option.mem_def, Option.some.injEq, forall_eq', forall_const]
    rw [isOpen, and_iff_right (upserts.keeps numbered)]
    constructor
    · intro fresh id isKey row found
      exact fresh (id, row) (existing_iff.mpr ⟨isKey, found⟩)
    · rintro fresh ⟨id, row⟩ isExisting
      obtain ⟨isKey, found⟩ := existing_iff.mp isExisting
      exact fresh id isKey row found
  | created now ingest =>
    exact iff_of_true ⟨(upsertIngest_upserts state now ingest).keeps numbered, .of_none rfl⟩ trivial
  | ack now id sender | dismiss now id sender =>
    refine (and_iff_left (.of_none rfl)).trans ?_
    simp only [store, step, transitionStatus_eq]
    exact keeps_requested_iff
  | lookUp event place =>
    refine iff_of_true ⟨?_, .of_none rfl⟩ trivial
    simp only [store, step]
    rcases event.transitions[place]? with _ | transition
    · exact .refl _
    simp only
    rcases state.byKey.get transition.idempotencyKey with _ | id
    · exact .refl _
    · exact .refl _
  | apply now place =>
    refine iff_of_true ⟨?_, .of_none rfl⟩ trivial
    simp only [store, step]
    rcases state.found[place]? with _ | ⟨id, transition⟩
    · exact .refl _
    · obtain ⟨items, isNext, keeps, -⟩ := transitionById_moves state now id transition
      simp only [isNext]
      exact keeps
  | sweep now itemType nowMs limit visited =>
    exact iff_of_true
      ⟨(sweepLoop_moves now itemType nowMs visited limit state.items).1, .of_none rfl⟩ trivial

end Memory

/-! ### Postgres -/

namespace Postgres

theorem get_of_byKey {items : Items} {key : String} {id : Uuid} {row : WorkflowItem}
    (isKey : byKey items key = some (id, row)) : items.get id = some row :=
  items.get_of_mem_entries (List.mem_of_find?_eq_some isKey)

theorem upsertIngest_upserts (state : State) (now : Timestamp) (ingest : WorkflowItemIngest) :
    Upserts state.items state.nextId now ingest (byKey state.items ingest.idempotencyKey)
      ((state.upsertIngest now ingest).1.items, (state.upsertIngest now ingest).1.nextId,
        (state.upsertIngest now ingest).2) := by
  rw [State.upsertIngest]
  rcases isKey : byKey state.items ingest.idempotencyKey with _ | ⟨id, row⟩
  · exact .added
  · exact .refreshed id row (get_of_byKey isKey)

theorem transitionStatus_eq (state : State) (now : Timestamp) (id : Uuid) (recipient : String)
    (newStatus : Status) (actionedBy : Option String) :
    state.transitionStatus now id recipient newStatus actionedBy =
      { state with items := requested state.items now id recipient newStatus actionedBy } := by
  rw [State.transitionStatus, requested]
  rcases state.items.get id with _ | row
  · rfl
  · simp only
    split_ifs <;> rfl

theorem transitionByIdempotency_moves (state : State) (now : Timestamp)
    (transition : Transition) :
    ∃ items, state.transitionByIdempotency now transition = { state with items } ∧
      Keeps state.items items ∧ SameRows state.items items := by
  rw [State.transitionByIdempotency]
  rcases isKey : byKey state.items transition.idempotencyKey with _ | ⟨id, row⟩
  · exact ⟨state.items, rfl, .refl _, .refl _⟩
  simp only
  split_ifs with status
  · exact ⟨_, rfl, (keeps_insert_iff (get_of_byKey isKey)).mpr (.inl status),
      .replace (get_of_byKey isKey) rfl rfl⟩
  · exact ⟨state.items, rfl, .refl _, .refl _⟩

theorem get_change (items : Items) (id other : Uuid) (update : WorkflowItem → WorkflowItem) :
    (change items id update).get other =
      if other = id then (items.get id).map update else items.get other := by
  rw [change]
  rcases found : items.get id with _ | row
  · split_ifs with same
    · rw [same]
      exact found
    · rfl
  · rw [OrderedMap.get_insert]
    rfl

theorem get_expireSelected (now : Timestamp) (selected : List Uuid) (items : Items) (id : Uuid) :
    (expireSelected now selected items).get id =
      if id ∈ selected then (items.get id).map (WorkflowItem.expire now) else items.get id := by
  rw [expireSelected]
  induction selected generalizing items with
  | nil => rw [List.foldl_nil, if_neg List.not_mem_nil]
  | cons first rest ih =>
    rw [List.foldl_cons, ih, get_change]
    by_cases isFirst : id = first
    · subst isFirst
      rw [if_pos rfl, if_pos List.mem_cons_self]
      rcases items.get id with _ | row
      · split_ifs <;> rfl
      · split_ifs <;> rfl
    · simp only [List.mem_cons, isFirst, if_false, false_or]

theorem keeps_expireSelected_iff (now : Timestamp) (selected : List Uuid) (items : Items) :
    Keeps items (expireSelected now selected items) ↔
      ∀ id ∈ selected, ∀ row ∈ items.get id, row.status = .open ∨ row.status = .expired := by
  constructor
  · intro keeps id isSelected row found
    by_contra moved
    obtain ⟨notOpen, notExpired⟩ := not_or.mp moved
    obtain ⟨kept, foundKept, status, -⟩ := keeps id row found notOpen
    rw [get_expireSelected, if_pos isSelected, found] at foundKept
    cases foundKept
    exact notExpired status.symm
  intro allowed id row found closed
  rw [get_expireSelected]
  split_ifs with isSelected
  · have expired := (allowed id isSelected row found).resolve_left closed
    exact ⟨row.expire now, by rw [found]; rfl, expired.symm, rfl⟩
  · exact ⟨row, found, rfl, rfl⟩

theorem same_expireSelected (now : Timestamp) (selected : List Uuid) (items : Items) :
    SameRows items (expireSelected now selected items) := by
  intro id
  rw [get_expireSelected]
  split_ifs
  · rw [Option.map_map]
    rfl
  · rfl

theorem step_rows (state : State) (input : Input) :
    (∃ now ingest, step state input = (state.upsertIngest now ingest).1) ∨
      SameRows state.items (step state input).items ∧ (step state input).nextId = state.nextId := by
  cases input with
  | ingest now body =>
    rw [step, ingestWorkflowItemInternal]
    rcases checkIngest body with _ | _
    · exact .inr ⟨.refl _, rfl⟩
    · exact .inl ⟨now, body, rfl⟩
  | created now ingest => exact .inl ⟨now, ingest, rfl⟩
  | ack now id sender | dismiss now id sender =>
    rw [step, transitionStatus_eq]
    exact .inr ⟨same_requested, rfl⟩
  | transition now event place =>
    rw [step]
    rcases event.transitions[place]? with _ | transition
    · exact .inr ⟨.refl _, rfl⟩
    · obtain ⟨items, isNext, -, same⟩ := transitionByIdempotency_moves state now transition
      simp only [isNext]
      exact .inr ⟨same, trivial⟩
  | commit now place =>
    rw [step]
    rcases state.sweeps[place]? with _ | selected
    · exact .inr ⟨.refl _, rfl⟩
    · exact .inr ⟨same_expireSelected now selected state.items, rfl⟩
  | select | abandon => exact .inr ⟨.refl _, rfl⟩

theorem numbered_step (state : State) (input : Input)
    (numbered : Numbered state.items state.nextId) :
    Numbered (step state input).items (step state input).nextId := by
  rcases step_rows state input with ⟨now, ingest, isNext⟩ | ⟨same, sameNext⟩
  · rw [isNext]
    exact (upsertIngest_upserts state now ingest).numbered numbered
  · rw [sameNext]
    exact numbered.of_same same

/-- **When a step under Postgres keeps the promise.** -/
theorem sound_iff (state : State) (input : Input) (numbered : Numbered state.items state.nextId) :
    store.Sound state input ↔ Clean state input := by
  cases input with
  | ingest now body =>
    rw [Store.Sound, Store.AnswersTruly, Clean]
    simp only [store, step, answer, ingestWorkflowItemInternal]
    rcases checkIngest body with error | _
    · exact iff_of_true ⟨.refl _, by rintro _ ⟨⟩⟩ (by rintro ⟨⟩)
    have upserts := upsertIngest_upserts state now body
    have isOpen := upserts.open_iff numbered
    simp only [Except.toOption, Option.mem_def, Option.some.injEq, forall_eq', forall_const]
    rw [isOpen, and_iff_right (upserts.keeps numbered)]
    constructor
    · exact fun fresh id row isKey => fresh (id, row) isKey
    · exact fun fresh entry isKey => fresh entry.1 entry.2 isKey
  | created now ingest =>
    exact iff_of_true ⟨(upsertIngest_upserts state now ingest).keeps numbered, .of_none rfl⟩ trivial
  | ack now id sender | dismiss now id sender =>
    refine (and_iff_left (.of_none rfl)).trans ?_
    simp only [store, step, transitionStatus_eq]
    exact keeps_requested_iff
  | transition now event place =>
    refine iff_of_true ⟨?_, .of_none rfl⟩ trivial
    simp only [store, step]
    rcases event.transitions[place]? with _ | transition
    · exact .refl _
    · obtain ⟨items, isNext, keeps, -⟩ := transitionByIdempotency_moves state now transition
      simp only [isNext]
      exact keeps
  | select | abandon => exact iff_of_true ⟨.refl _, .of_none rfl⟩ trivial
  | commit now place =>
    refine (and_iff_left (.of_none rfl)).trans ?_
    rw [Clean]
    simp only [store, step]
    rcases state.sweeps[place]? with _ | selected
    · exact iff_of_true (Keeps.refl state.items) (by rintro _ ⟨⟩)
    · simp only [Option.mem_def, Option.some.injEq, forall_eq']
      exact keeps_expireSelected_iff now selected state.items

end Postgres

/-! ## The promise -/

/-- **When workflow items move once.**  In either variant of the store a run keeps the promise
exactly if every acknowledgement and every dismissal finds its item open, or already as it would
leave it, every ingest that has a row finds it open, and every sweep under Postgres gets to the rows
that it has selected before anything but a sweep has closed them. -/
theorem workflow_items_move_once_iff (memory : List Memory.Input)
    (postgres : List Postgres.Input) :
    (MovesOnce Memory.store memory ↔ Along Memory.step Memory.Clean Memory.store.start memory) ∧
    (MovesOnce Postgres.store postgres ↔
      Along Postgres.step Postgres.Clean Postgres.store.start postgres) := by
  constructor
  · rw [Store.movesOnce_iff]
    exact @Along.congr _ _ _ _ _ (fun state => Numbered state.items state.nextId)
      Memory.numbered_step Memory.sound_iff _ numbered_empty memory
  · rw [Store.movesOnce_iff]
    exact @Along.congr _ _ _ _ _ (fun state => Numbered state.items state.nextId)
      Postgres.numbered_step Postgres.sound_iff _ numbered_empty postgres

def invitation : WorkflowItemIngest where
  idempotencyKey := "org_invitation:org:bob"
  recipientAddress := "bob"
  itemType := itemTypeOrgInvitation
  title := "Organization invitation"
  body := none
  payload := .obj []
  organizationId := some "org"
  accountId := none
  sourceService := "membership_sync"
  actionDeadlineMs := some 10
  conversationRef := none

/-- An item that was accepted is dismissed by a later click in memory, and by a sweep that saw it
open under Postgres; and a repeated ingest is answered `open`. -/
theorem accepted_invitation_moves_again :
    (¬∀ inputs, MovesOnce Memory.store inputs) ∧ ¬∀ inputs, MovesOnce Postgres.store inputs := by
  constructor
  · intro promise
    have kept := (promise [.ingest 1 invitation, .ack 2 0 "bob", .dismiss 3 0 "bob"]).kept
      [.ingest 1 invitation, .ack 2 0 "bob"] [.dismiss 3 0 "bob"] [] rfl
    obtain ⟨row, found, status, -⟩ := kept 0
      ((WorkflowItem.fromIngest 1 0 invitation).transition 2 .actioned (some "bob")) rfl nofun
    cases found
    cases status
  intro promise
  have kept := (promise [.ingest 1 invitation, .select itemTypeOrgInvitation 20 5,
    .ack 2 0 "bob", .commit 3 0]).kept
    [.ingest 1 invitation, .select itemTypeOrgInvitation 20 5, .ack 2 0 "bob"] [.commit 3 0] []
    rfl
  obtain ⟨row, found, status, -⟩ := kept 0
    ((WorkflowItem.fromIngest 1 0 invitation).transition 2 .actioned (some "bob")) rfl nofun
  cases found
  cases status

end MessagingStack.Relayer.Workflow

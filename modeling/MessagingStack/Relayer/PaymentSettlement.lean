import MessagingStack.Relayer.PostAtomicity
import MessagingStack.Relayer.TransferConfirmation

/-!
# Payment requests and the transfers that settle them

A payment request and the transfer that pays it are two rows, and four actors write their
statuses: `POST /messages` inserts a transfer and then marks the request paid; a resolution
(right after the insertion, or by the sweeper) takes a transfer out of `pending` and, when it
failed, reopens the request; `POST /messages/respond` rejects or cancels; `DELETE /messages`
deletes.  Every write is a compare-and-set on one row.  This module runs the actors in any
interleaving, one storage operation to a step, with storage that fails at times and with
tasks that are dropped between two operations.
-/

namespace MessagingStack.Relayer.PaymentSettlement

open TransferConfirmation

/-! ## The actors -/

/-- A task between two of its storage operations. -/
inductive Process where
  /-- `create_message` with all checks done, the link check among them. -/
  | inserting (message : Message) (transfer : Option TokenTransferCreate)
  /-- A transfer is stored, and the request it pays is not yet marked. -/
  | marking (created : Message) (requestId : Uuid) (digest : String)
  /-- `resolve_once` with a copy of the transfer. -/
  | resolving (message : Message)
  | applying (message : Message) (verdict : Verdict)
  /-- `reopen_request_if_linked` before it reads the request. -/
  | reopening (transfer : Message)
  | reopenWriting (transfer requestId : Uuid)
  /-- `respond_to_payment_request` after its checks. -/
  | responding (requestId : Uuid) (action : RequestAction)
  /-- `delete_message` after its checks. -/
  | deleting (id : Uuid)

/-- The relayer with the tasks that are in progress. -/
structure State where
  app : AppState
  processes : List Process

inductive Input where
  /-- `POST /messages` up to the insertion. -/
  | post (services : Services) (auth : AuthContext) (req : CreateMessageRequest)
  /-- The sweeper picks a row, or another attempt is made for it. -/
  | sweep (id : Uuid)
  /-- `POST /messages/respond` up to its write. -/
  | respond (auth : AuthContext) (messageId : Uuid) (action : String)
  /-- `DELETE /messages/:message_id` up to its write. -/
  | delete (auth : AuthContext) (id : Uuid)
  /-- The fullnode answers the resolution at this place. -/
  | lookup (index : Nat) (answer : Option ChainOutcome) (tooOld : Bool)
  /-- The task at this place executes its next storage operation. -/
  | run (index : Nat) (now : Timestamp)
  /-- The task at this place is dropped.  A crash drops every task. -/
  | abandon (index : Nat)
  /-- The storage operations that fail from now on. -/
  | outage (poisoned : Lock → Bool)
  | membership (store : MembershipStore)

/-- What a task leaves to be done once its operation is over. -/
abbrev Next := InMemoryStorage × List Process

/-- The insertion, and who continues: the settling of a link, or the confirmation. -/
def insertRow (message : Message) (transfer : Option TokenTransferCreate)
    (storage : InMemoryStorage) : Next :=
  match storage.createMessage message with
  | (.error _, after) => (after, [])
  | (.ok created, after) =>
    match transfer.bind fun create => create.requestMessageId.map (·, create.digest) with
    | some (requestId, digest) => (after, [.marking created requestId digest])
    | none => (after, if created.kind = .tokenTransfer then [.resolving created] else [])

/-- The verdict is written; a failed transfer goes on to the request it paid, a failed write
to another attempt. -/
def writeVerdict (now : Timestamp) (message : Message) (verdict : Verdict)
    (storage : InMemoryStorage) : Next :=
  match applyVerdict now storage message.id verdict with
  | (.error _, after) => (after, [.resolving message])
  | (.ok none, after) => (after, [])
  | (.ok (some updated), after) =>
    match verdict with
    | .success => (after, [])
    | .failed _ => (after, [.reopening updated])

def readRequest (crates : Crates) (transfer : Message) (storage : InMemoryStorage) : Next :=
  match linkedRequest crates storage transfer with
  | some requestId => (storage, [.reopenWriting transfer.id requestId])
  | none => (storage, [])

/-- One storage operation of a task, and what the task is afterwards. -/
def Process.run (crates : Crates) (now : Timestamp) (process : Process)
    (storage : InMemoryStorage) : Next :=
  match process with
  | .inserting message transfer => insertRow message transfer storage
  | .marking created requestId digest =>
    (markRequestPaid crates now storage requestId created.id digest, [.resolving created])
  -- waits for the fullnode
  | .resolving message => (storage, [.resolving message])
  | .applying message verdict => writeVerdict now message verdict storage
  | .reopening transfer => readRequest crates transfer storage
  | .reopenWriting _ requestId => ((reopenRequest now storage requestId).2, [])
  | .responding requestId action => ((respond now storage requestId action).2, [])
  | .deleting id => ((storage.deleteMessage now id).2, [])

/-- What a resolution does with the fullnode's answer. -/
def Process.answered (answer : Option ChainOutcome) (tooOld : Bool) : Process → List Process
  | .resolving message =>
    match verdictOf message answer tooOld with
    | some verdict => [.applying message verdict]
    | none => [.resolving message]
  | process => [process]

namespace State

/-- The task at one place is replaced by what it left to be done. -/
def advance (state : State) (index : Nat) (next : Next) : State where
  app := { state.app with storage := next.1 }
  processes := state.processes.eraseIdx index ++ next.2

/-- A task joins. -/
def spawn (state : State) (process : Process) : State :=
  { state with processes := state.processes ++ [process] }

end State

/-- The checks of `POST /messages`, before anything is stored. -/
def beginPost (crates : Crates) (services : Services) (auth : AuthContext)
    (req : CreateMessageRequest) (state : State) : State :=
  match beginMessage crates req state.app with
  | (.ok prepared, app) =>
    match checkMessage crates services auth req prepared app with
    | .ok (message, transfer) =>
      { app, processes := state.processes ++ [.inserting message transfer] }
    | .error _ => { state with app }
  | (_, app) => { state with app }

def step (crates : Crates) (state : State) : Input → State
  | .post services auth req => beginPost crates services auth req state
  | .sweep id =>
    match state.app.storage.getMessage id with
    | .ok message => if isPending message then state.spawn (.resolving message) else state
    | .error _ => state
  | .respond auth messageId action =>
    match checkRespond crates auth messageId action state.app with
    | .ok action => state.spawn (.responding messageId action)
    | .error _ => state
  | .delete auth id =>
    match checkDelete crates auth id state.app with
    | .ok () => state.spawn (.deleting id)
    | .error _ => state
  | .lookup index answer tooOld =>
    match state.processes[index]? with
    | some process => state.advance index (state.app.storage, process.answered answer tooOld)
    | none => state
  | .run index now =>
    match state.processes[index]? with
    | some process => state.advance index (process.run crates now state.app.storage)
    | none => state
  | .abandon index => { state with processes := state.processes.eraseIdx index }
  | .outage poisoned =>
    { state with app := { state.app with storage := { state.app.storage with poisoned } } }
  | .membership store => { state with app := { state.app with membershipStore := store } }

/-- A relayer that has just started. -/
def start : State where
  app := { storage := .new, mls := .new, membershipStore := .new }
  processes := []

def reached (crates : Crates) (inputs : List Input) : State := inputs.foldl (step crates) start

/-! ## The rows a call creates -/

section Creation

variable {crates : Crates} {services : Services} {auth : AuthContext}
  {req : CreateMessageRequest} {prepared : PreparedMessage} {app : AppState}

theorem parsePayment_isSome {α : Type} {isKind : Bool}
    {parse : Except PaymentMetadataError α} {create : Option α}
    (parsed : parsePayment isKind parse = .ok create) : create.isSome = isKind := by
  unfold parsePayment at parsed
  cases isKind with
  | false =>
    cases parsed
    rfl
  | true =>
    cases parse with
    | error => cases parsed
    | ok =>
      cases parsed
      rfl

theorem prepareMessage_payment (isPrepared : prepareMessage crates req = .ok prepared) :
    prepared.transferCreate.isSome = (prepared.kind == .tokenTransfer) ∧
      prepared.requestCreate.isSome = (prepared.kind == .requestPayment) := by
  unfold prepareMessage at isPrepared
  simp only [bind, Except.bind] at isPrepared
  repeat' split at isPrepared
  all_goals cases isPrepared
  exact ⟨parsePayment_isSome (by assumption), parsePayment_isSome (by assumption)⟩

/-- What the epoch check leaves alone: the request is the prepared one, and no row moves. -/
theorem beginMessage_prepared {app after : AppState}
    (began : beginMessage crates req app = (.ok prepared, after)) :
    prepareMessage crates req = .ok prepared ∧ after.storage = app.storage := by
  constructor
  · simp only [beginMessage, Async.bind_run, CommitLog.check_run] at began
    cases isPrepared : prepareMessage crates req with
    | error => cases isPrepared ▸ began
    | ok found =>
      rw [isPrepared] at began
      by_cases isCommit : found.kind = .commit
      · simp only [isCommit, ↓reduceIte, Async.bind_run] at began
        cases accepted : acceptCommit crates req.groupId found.encryptedMsg app with
        | mk result =>
          rw [accepted] at began
          cases result with
          | ok =>
            cases began
            rfl
          | error | crash => cases began
      · simp only [isCommit, ↓reduceIte] at began
        cases began
        rfl
  rcases CommitLog.beginMessage_cases crates req app with
    ⟨_, other⟩ | ⟨_, other, -⟩ | ⟨_, -, other⟩
  · cases other ▸ began
  · cases other ▸ began
    rfl
  · cases other ▸ began
    rfl

/-- The payment part of a new row: a transfer, a request, or none. -/
inductive Created (crates : Crates) (message : Message) : Option TokenTransferCreate → Prop where
  | transfer (create : TokenTransferCreate) (recipient : String)
      (kind : message.kind = .tokenTransfer)
      (metadata : message.metadata =
        some (tokenTransferMetadata crates.uuidToString create recipient)) :
      Created crates message (some create)
  | request (create : PaymentRequestCreate) (payer : String)
      (kind : message.kind = .requestPayment)
      (metadata : message.metadata = some (paymentRequestMetadata create payer)) :
      Created crates message none
  | other (kind : message.kind.isDmPaymentKind = false) (metadata : message.metadata = none) :
      Created crates message none

variable {message : Message} {transfer : Option TokenTransferCreate}

theorem checkMessage_built
    (passed : checkMessage crates services auth req prepared app = .ok (message, transfer)) :
    ∃ signature paymentPeer,
      checkPaymentPeer prepared (dmPeer services app req prepared.kind) = .ok paymentPeer ∧
        message = buildMessage crates services auth req prepared signature transfer paymentPeer ∧
        transfer = resolveLink app req prepared.transferCreate := by
  unfold checkMessage at passed
  simp only [bind, Except.bind] at passed
  repeat' split at passed
  all_goals cases passed
  exact ⟨_, _, by assumption, rfl, rfl⟩

theorem checkPaymentPeer_isSome {peer paymentPeer : Option String}
    (peered : checkPaymentPeer prepared peer = .ok paymentPeer) :
    paymentPeer.isSome = prepared.kind.isDmPaymentKind := by
  unfold checkPaymentPeer at peered
  split_ifs at peered with payment agent
  · cases peer with
    | none => cases peered
    | some =>
      cases peered
      exact payment.symm
  · cases peered
    simpa using payment

theorem resolveLink_isSome (app : AppState) (req : CreateMessageRequest)
    (transfer : Option TokenTransferCreate) :
    (resolveLink app req transfer).isSome = transfer.isSome := by
  simp [resolveLink]

theorem checkMessage_created (isPrepared : prepareMessage crates req = .ok prepared)
    (passed : checkMessage crates services auth req prepared app = .ok (message, transfer)) :
    Created crates message transfer ∧ message.syncStatus = .syncPending ∧
      message.groupId = req.groupId ∧
      transfer = resolveLink app req prepared.transferCreate := by
  obtain ⟨isTransfer, isRequest⟩ := prepareMessage_payment isPrepared
  obtain ⟨signature, paymentPeer, peered, rfl, rfl⟩ := checkMessage_built passed
  have hasPeer := checkPaymentPeer_isSome peered
  have hasTransfer := resolveLink_isSome app req prepared.transferCreate
  rw [isTransfer] at hasTransfer
  have row := CommitLog.buildMessage_row crates services auth req prepared signature
    (resolveLink app req prepared.transferCreate) paymentPeer
  refine ⟨?_, ?_, row.1, rfl⟩
  · cases isCreate : resolveLink app req prepared.transferCreate with
    | some create =>
      rw [isCreate] at hasTransfer row
      have kind : prepared.kind = .tokenTransfer := by simpa using hasTransfer
      rw [kind] at hasPeer
      obtain ⟨peer, rfl⟩ := Option.isSome_iff_exists.mp hasPeer
      exact .transfer create peer (row.2.1.trans kind) rfl
    | none =>
      rw [isCreate] at hasTransfer row
      have noTransfer : prepared.kind ≠ .tokenTransfer := by simpa using hasTransfer.symm
      by_cases kind : prepared.kind = .requestPayment
      · rw [kind] at hasPeer isRequest
        obtain ⟨peer, rfl⟩ := Option.isSome_iff_exists.mp hasPeer
        obtain ⟨create, isRequestCreate⟩ := Option.isSome_iff_exists.mp isRequest
        refine .request create peer (row.2.1.trans kind) ?_
        simp only [buildMessage, isRequestCreate]
        rfl
      have noRequest : prepared.requestCreate = none := by
        have missing : prepared.requestCreate.isSome = false := by
          rw [isRequest]
          simpa using kind
        simpa using missing
      refine .other ?_ ?_
      · rw [row.2.1]
        cases isKind : prepared.kind <;>
          first | rfl | exact absurd isKind noTransfer | exact absurd isKind kind
      · simp only [buildMessage, noRequest]
        rfl
  · unfold buildMessage
    split <;> rfl

theorem resolveLink_valid {transfer create : TokenTransferCreate} {requestId : Uuid}
    (resolved : resolveLink app req (some transfer) = some create)
    (linked : create.requestMessageId = some requestId) :
    ∃ request, app.storage.row requestId = some request ∧ request.kind = .requestPayment ∧
      request.groupId = req.groupId := by
  simp only [resolveLink, Option.map_some, Option.some.injEq] at resolved
  cases isLinked : transfer.requestMessageId with
  | none =>
    rw [isLinked] at resolved
    simp only at resolved
    rw [← resolved, isLinked] at linked
    cases linked
  | some =>
    rw [isLinked] at resolved
    simp only at resolved
    split_ifs at resolved with valid
    · rw [← resolved, isLinked] at linked
      cases linked
      unfold requestLinkIsValid at valid
      cases found : app.storage.getMessage requestId with
      | error => simp [found] at valid
      | ok request =>
        simp only [found, Bool.and_eq_true, beq_iff_eq] at valid
        exact ⟨request, (InMemoryStorage.getMessage_eq_ok.mp found).2, valid.1.1.1, valid.1.1.2⟩
    · rw [← resolved] at linked
      cases linked

end Creation

/-! ## What holds of every run -/

def statusOf (row : Message) : Option String := metaStr row "status"

/-- The statuses a row never leaves. -/
def Final (status : Option String) : Prop :=
  status = some "success" ∨ status = some "failed" ∨ status = some "rejected" ∨
    status = some "cancelled"

/-- A payment row by itself: its metadata is an object, its status one of its kind. -/
structure RowOk (row : Message) : Prop where
  object : row.kind.isDmPaymentKind = true → ∃ fields, row.metadata = some (.obj fields)
  transfer : row.kind = .tokenTransfer →
    statusOf row = some "pending" ∨ statusOf row = some "success" ∨ statusOf row = some "failed"
  live : row.kind = .tokenTransfer → row.isDeleted = false
  request : row.kind = .requestPayment →
    statusOf row = some "open" ∨ statusOf row = some "paid" ∨ statusOf row = some "rejected" ∨
      statusOf row = some "cancelled"
  named : ∀ transfer, fulfilling row = some transfer →
    row.kind = .requestPayment ∧ statusOf row = some "paid"

theorem RowOk.isRequest_of_open {row : Message} (rowOk : RowOk row)
    (payment : row.kind.isDmPaymentKind = true) (isOpen : statusOf row = some "open") :
    row.kind = .requestPayment := by
  have asTransfer := rowOk.transfer
  rw [isOpen] at asTransfer
  cases kind : row.kind <;> simp_all [MessageKind.isDmPaymentKind]

theorem RowOk.isTransfer_of_pending {row : Message} (rowOk : RowOk row)
    (payment : row.kind.isDmPaymentKind = true) (isPending : statusOf row = some "pending") :
    row.kind = .tokenTransfer := by
  have asRequest := rowOk.request
  rw [isPending] at asRequest
  cases kind : row.kind <;> simp_all [MessageKind.isDmPaymentKind]

/-- The transfer a request names: it is stored, in the same group, and sent for the request. -/
structure Fulfils (crates : Crates) (storage : InMemoryStorage) (transfer request : Message) :
    Prop where
  found : storage.row transfer.id = some transfer
  kind : transfer.kind = .tokenTransfer
  group : transfer.groupId = request.groupId
  linked : linkOf transfer = some (crates.uuidToString request.id)
  named : fulfilling request = some (crates.uuidToString transfer.id)

/-- The payment rows of a store: a paid request names a transfer that fulfils it. -/
structure RowsSound (crates : Crates) (storage : InMemoryStorage) : Prop where
  rows : ∀ id row, storage.row id = some row → RowOk row
  paid : ∀ id request, storage.row id = some request → request.kind = .requestPayment →
    statusOf request = some "paid" → ∃ transfer, Fulfils crates storage transfer request

/-- What one step leaves of a row; `reopens` when the row may be taken back from `paid`. -/
structure Later (reopens : Prop) (row row' : Message) : Prop where
  id : row'.id = row.id
  kind : row'.kind = row.kind
  group : row'.groupId = row.groupId
  link : linkOf row' = linkOf row
  final : Final (statusOf row) → statusOf row' = statusOf row
  paid : ¬reopens → statusOf row = some "paid" →
    statusOf row' = statusOf row ∧ fulfilling row' = fulfilling row

/-- No row is lost, and every row is a later form of what it was. -/
def Evolves (reopened : Option Uuid) (before after : InMemoryStorage) : Prop :=
  ∀ id row, before.row id = some row →
    ∃ row', after.row id = some row' ∧ Later (reopened = some id) row row'

theorem Later.refl (reopens : Prop) (row : Message) : Later reopens row row where
  id := rfl
  kind := rfl
  group := rfl
  link := rfl
  final := fun _ => rfl
  paid := fun _ _ => ⟨rfl, rfl⟩

section Rows

variable {crates : Crates} {before after : InMemoryStorage} {reopened : Option Uuid}

theorem Evolves.of_messages (same : after.messages = before.messages) :
    Evolves reopened before after := by
  intro id row found
  have sameRow : after.row id = before.row id := by rw [InMemoryStorage.row, same]; rfl
  exact ⟨row, sameRow.trans found, .refl _ row⟩

theorem Fulfils.evolves {transfer request : Message} (evolves : Evolves reopened before after)
    (fulfils : Fulfils crates before transfer request) :
    ∃ transfer', Fulfils crates after transfer' request := by
  obtain ⟨transfer', found, later⟩ := evolves transfer.id transfer fulfils.found
  refine ⟨transfer', ?_, later.kind.trans fulfils.kind, later.group.trans fulfils.group,
    later.link.trans fulfils.linked, ?_⟩
  · rw [later.id]
    exact found
  · rw [later.id]
    exact fulfils.named

theorem RowsSound.evolves (evolves : Evolves reopened before after)
    (rows : ∀ id row, after.row id = some row → RowOk row)
    (paid : ∀ id request, after.row id = some request → request.kind = .requestPayment →
      statusOf request = some "paid" → ∃ transfer, Fulfils crates before transfer request) :
    RowsSound crates after where
  rows := rows
  paid := by
    intro id request found isRequest isPaid
    obtain ⟨transfer, fulfils⟩ := paid id request found isRequest isPaid
    exact fulfils.evolves evolves

/-! ### One row changes -/

variable {id : Uuid} {change : Message → Message} {added : Message}

theorem evolves_replaceRow {row : Message} (keepsId : ∀ message, (change message).id = message.id)
    (found : before.row id = some row) (later : Later (reopened = some id) row (change row)) :
    Evolves reopened before (before.replaceRow id change) := by
  intro other held isHeld
  rw [InMemoryStorage.row_replaceRow before id other keepsId]
  by_cases same : other = id
  · subst same
    cases found ▸ isHeld
    exact ⟨change row, by simp [found], later⟩
  · exact ⟨held, by simp [same, isHeld], .refl _ held⟩

theorem rowsSound_replaceRow {row : Message} (sound : RowsSound crates before)
    (keepsId : ∀ message, (change message).id = message.id) (found : before.row id = some row)
    (later : Later (reopened = some id) row (change row)) (rowOk : RowOk (change row))
    (paid : (change row).kind = .requestPayment → statusOf (change row) = some "paid" → ∃ transfer,
      Fulfils crates before transfer (change row))
    :
    RowsSound crates (before.replaceRow id change) := by
  refine .evolves (evolves_replaceRow keepsId found later) ?_ ?_
  · intro other held isHeld
    rw [InMemoryStorage.row_replaceRow before id other keepsId] at isHeld
    split_ifs at isHeld with same
    · rw [found, Option.map_some, Option.some.injEq] at isHeld
      exact isHeld ▸ rowOk
    · exact sound.rows other held isHeld
  intro other held isHeld
  rw [InMemoryStorage.row_replaceRow before id other keepsId] at isHeld
  split_ifs at isHeld with same
  · rw [found, Option.map_some, Option.some.injEq] at isHeld
    exact isHeld ▸ paid
  · exact sound.paid other held isHeld

theorem ids_replaceRow (id : Uuid) (keepsId : ∀ message, (change message).id = message.id) :
    (before.replaceRow id change).messages.map (·.id) = before.messages.map (·.id) := by
  rw [InMemoryStorage.replaceRow, List.map_map]
  refine List.map_congr_left fun row _ => ?_
  by_cases same : row.id = id <;> simp [same, keepsId]

/-! ### A row is added -/

theorem row_append (fresh : ∀ row ∈ before.messages, row.id ≠ added.id)
    (appended : after.messages = before.messages ++ [added]) (id : Uuid) :
    after.row id = if id = added.id then some added else before.row id := by
  unfold InMemoryStorage.row
  rw [appended, List.find?_append]
  split_ifs with same
  · have missing : before.messages.find? (·.id == id) = none := by
      rw [List.find?_eq_none]
      intro row present
      simpa [same] using fresh row present
    rw [missing, Option.none_or]
    simp [same]
  · have other : ([added].find? (·.id == id)) = none := by simp [Ne.symm same]
    rw [other, Option.or_none]

theorem evolves_append (fresh : ∀ row ∈ before.messages, row.id ≠ added.id)
    (appended : after.messages = before.messages ++ [added]) :
    Evolves none before after := by
  intro id row found
  have isOld : row.id ≠ added.id := fresh row (List.mem_of_find?_eq_some found)
  rw [InMemoryStorage.row_id found] at isOld
  exact ⟨row, by rw [row_append fresh appended, if_neg isOld]; exact found, .refl _ row⟩

/-! ### What an operation does to the rows -/

/-- An operation that keeps the rows sound. -/
structure Effect (crates : Crates) (reopened : Option Uuid) (before after : InMemoryStorage) :
    Prop where
  sound : RowsSound crates after
  evolves : Evolves reopened before after
  distinct : (before.messages.map (·.id)).Nodup → (after.messages.map (·.id)).Nodup

theorem Effect.of_messages (sound : RowsSound crates before)
    (same : after.messages = before.messages) : Effect crates reopened before after where
  sound := by
    have sameRow : ∀ id, after.row id = before.row id := fun id => by
      rw [InMemoryStorage.row, same]
      rfl
    have evolves : Evolves reopened before after := .of_messages same
    exact .evolves evolves
      (fun id row found => sound.rows id row (sameRow id ▸ found))
      (fun id request found => sound.paid id request (sameRow id ▸ found))
  evolves := .of_messages same
  distinct := fun distinct => same.symm ▸ distinct

theorem Effect.append (sound : RowsSound crates before)
    (fresh : ∀ row ∈ before.messages, row.id ≠ added.id)
    (appended : after.messages = before.messages ++ [added]) (rowOk : RowOk added)
    (unpaid : added.kind = .requestPayment → statusOf added ≠ some "paid") :
    Effect crates none before after where
  sound := by
    refine .evolves (evolves_append fresh appended) ?_ ?_
    · intro id row found
      rw [row_append fresh appended] at found
      split_ifs at found
      · cases found
        exact rowOk
      · exact sound.rows id row found
    intro id request found isRequest isPaid
    rw [row_append fresh appended] at found
    split_ifs at found
    · cases found
      exact absurd isPaid (unpaid isRequest)
    · exact sound.paid id request found isRequest isPaid
  evolves := evolves_append fresh appended
  distinct := by
    intro distinct
    rw [appended, List.map_append, List.nodup_append]
    refine ⟨distinct, by simp, ?_⟩
    intro id isOld id' isNew same
    obtain ⟨row, present, rfl⟩ := List.mem_map.mp isOld
    rw [List.map_singleton, List.mem_singleton] at isNew
    exact fresh row present (same.trans isNew)

theorem effect_delete {now : Timestamp} (sound : RowsSound crates before)
    (deletable : ∀ row, before.row id = some row → row.kind ≠ .tokenTransfer) :
    Effect crates none before (before.deleteMessage now id).2 := by
  unfold InMemoryStorage.deleteMessage InMemoryStorage.changeRow
  cases found : before.getMessage id with
  | error => exact .of_messages sound rfl
  | ok row =>
    have isRow := (InMemoryStorage.getMessage_eq_ok.mp found).2
    have rowOk := sound.rows id row isRow
    have keepsId : ∀ message : Message, (message.markForDeletion now).id = message.id :=
      fun _ => rfl
    have later : Later ((none : Option Uuid) = some id) row (row.markForDeletion now) :=
      ⟨rfl, rfl, rfl, rfl, fun _ => rfl, fun _ _ => ⟨rfl, rfl⟩⟩
    refine ⟨rowsSound_replaceRow sound keepsId isRow later ?_ ?_,
      evolves_replaceRow keepsId isRow later, fun distinct => ?_⟩
    · exact ⟨rowOk.object, rowOk.transfer, fun isTransfer => absurd isTransfer
        (deletable row isRow), rowOk.request, rowOk.named⟩
    · intro isRequest isPaid
      obtain ⟨transfer, fulfils⟩ := sound.paid id row isRow isRequest isPaid
      exact ⟨transfer, fulfils.found, fulfils.kind, fulfils.group, fulfils.linked, fulfils.named⟩
    · rw [ids_replaceRow id keepsId]
      exact distinct

section Transitions

variable {now : Timestamp} {id : Uuid} {transition : Transition} {row : Message}

theorem not_final_of_ready (ready : Ready before id transition row) : ¬Final (statusOf row) := by
  have status : statusOf row = some transition.source := ready.status
  rw [status]
  unfold Final
  cases transition <;> simp [Transition.source]

/-- Which request a transition takes back from `paid`. -/
def reopenedBy (id : Uuid) : Transition → Option Uuid
  | .reopened => some id
  | _ => none

theorem later_apply (rowOk : RowOk row) (ready : Ready before id transition row) :
    Later (reopenedBy id transition = some id) row (transition.apply crates now row) := by
  obtain ⟨fields, isObject⟩ := rowOk.object ready.payment
  have status : statusOf row = some transition.source := ready.status
  refine ⟨rfl, rfl, rfl, linkOf_apply crates now transition isObject,
    fun final => absurd final (not_final_of_ready ready), ?_⟩
  intro stays isPaid
  rw [status] at isPaid
  cases transition with
  | reopened => exact absurd rfl stays
  | paid | resolved | responded => simp [Transition.source] at isPaid

theorem rowOk_apply (rowOk : RowOk row) (ready : Ready before id transition row) :
    RowOk (transition.apply crates now row) := by
  obtain ⟨fields, isObject⟩ := rowOk.object ready.payment
  have status : statusOf row = some transition.source := ready.status
  have newStatus : statusOf (transition.apply crates now row) = some transition.target :=
    status_apply crates now transition isObject
  constructor
  · intro _
    exact apply_object crates now transition isObject
  · intro isTransfer
    have before := rowOk.transfer isTransfer
    rw [status] at before
    rw [newStatus]
    cases transition with
    | resolved verdict => cases verdict <;> simp [Transition.target]
    | paid | reopened | responded => simp [Transition.source] at before
  · intro isTransfer
    rw [apply_isDeleted]
    exact rowOk.live isTransfer
  · intro isRequest
    have before := rowOk.request isRequest
    rw [status] at before
    rw [newStatus]
    cases transition with
    | resolved => simp [Transition.source] at before
    | paid | reopened => simp [Transition.target]
    | responded action => cases action <;> simp [Transition.target, RequestAction.targetStatus]
  intro transfer named
  rw [fulfilling_apply crates now transition isObject] at named
  rw [newStatus]
  cases transition with
  | paid => refine ⟨rowOk.isRequest_of_open ready.payment status, rfl⟩
  | reopened => cases named
  | resolved | responded =>
    have paid := (rowOk.named transfer named).2
    rw [status] at paid
    simp [Transition.source] at paid

variable (crates before id transition) in
/-- A request is paid by a transfer of its group that was sent for it. -/
def Pays : Prop :=
  ∀ transfer digest, transition = .paid transfer digest →
    ∃ row request, before.row transfer = some row ∧ row.kind = .tokenTransfer ∧
      linkOf row = some (crates.uuidToString id) ∧
      before.row id = some request ∧ request.groupId = row.groupId

theorem fulfils_apply (rowOk : RowOk row) (ready : Ready before id transition row)
    (pays : Pays crates before id transition)
    (isPaid : statusOf (transition.apply crates now row) = some "paid") :
    ∃ transfer, Fulfils crates before transfer (transition.apply crates now row) := by
  obtain ⟨fields, isObject⟩ := rowOk.object ready.payment
  have newStatus : statusOf (transition.apply crates now row) = some transition.target :=
    status_apply crates now transition isObject
  rw [newStatus] at isPaid
  cases transition with
  | paid transfer digest =>
    obtain ⟨held, request, found, kind, linked, isRequest, group⟩ := pays transfer digest rfl
    rw [ready.found, Option.some.injEq] at isRequest
    subst isRequest
    have heldId : held.id = transfer := InMemoryStorage.row_id found
    have rowId : row.id = id := InMemoryStorage.row_id ready.found
    refine ⟨held, heldId.symm ▸ found, kind, group.symm, ?_, ?_⟩
    · exact linked.trans (by rw [← rowId]; rfl)
    · rw [fulfilling_apply crates now _ isObject, heldId]
  | resolved verdict => cases verdict <;> simp [Transition.target] at isPaid
  | reopened => simp [Transition.target] at isPaid
  | responded action => cases action <;> simp [Transition.target, RequestAction.targetStatus] at isPaid

variable (now id transition) in
theorem effect_write (sound : RowsSound crates before) (pays : Pays crates before id transition) :
    Effect crates (reopenedBy id transition) before
      (Transition.write crates now before id transition).2 := by
  rcases write_cases crates now before id transition with
    ⟨result, written, -⟩ | ⟨row, ready, written⟩
  · rw [written]
    exact .of_messages sound rfl
  rw [written]
  have rowOk := sound.rows id row ready.found
  have keepsId : ∀ message, (transition.apply crates now message).id = message.id := fun _ => rfl
  have later : Later (reopenedBy id transition = some id) row
      (transition.apply crates now row) := later_apply rowOk ready
  refine ⟨rowsSound_replaceRow sound keepsId ready.found later (rowOk_apply rowOk ready) ?_,
    evolves_replaceRow keepsId ready.found later, fun distinct => ?_⟩
  · intro _ isPaid
    exact fulfils_apply rowOk ready pays isPaid
  · show ((before.replaceRow id _).messages.map (·.id)).Nodup
    rw [ids_replaceRow id keepsId]
    exact distinct

end Transitions

end Rows

/-! ### The tasks -/

/-- The transfer whose request a task is about to reopen. -/
def Process.reopens : Process → Option Uuid
  | .reopening transfer => some transfer.id
  | .reopenWriting transfer _ => some transfer
  | _ => none

/-- The request a task takes back from `paid` when it runs. -/
def Process.reopened : Process → Option Uuid
  | .reopenWriting _ requestId => some requestId
  | _ => none

structure FailedTransfer (storage : InMemoryStorage) (id : Uuid) (row : Message) : Prop where
  found : storage.row id = some row
  kind : row.kind = .tokenTransfer
  failed : statusOf row = some "failed"

/-- What a task knows about the rows it is about to touch. -/
def Process.Ok (crates : Crates) (storage : InMemoryStorage) : Process → Prop
  | .inserting message transfer =>
    Created crates message transfer ∧ message.syncStatus = .syncPending ∧
      ∀ create requestId, transfer = some create → create.requestMessageId = some requestId →
        ∃ request, storage.row requestId = some request ∧ request.kind = .requestPayment ∧
          request.groupId = message.groupId
  | .marking created requestId _ =>
    ∃ row request, storage.row created.id = some row ∧ row.kind = .tokenTransfer ∧
      linkOf row = some (crates.uuidToString requestId) ∧
      storage.row requestId = some request ∧ request.groupId = row.groupId
  | .reopening transfer =>
    ∃ row, FailedTransfer storage transfer.id row ∧ linkOf row = linkOf transfer
  | .reopenWriting transfer requestId =>
    ∃ row request, FailedTransfer storage transfer row ∧ storage.row requestId = some request ∧
      statusOf request = some "paid" ∧
      fulfilling request = some (crates.uuidToString transfer)
  | .deleting id => ∃ row, storage.row id = some row ∧ row.kind ≠ .tokenTransfer
  | .resolving _ | .applying _ _ | .responding _ _ => True

/-- The transfers whose requests are being reopened. -/
def reopening (processes : List Process) : List Uuid := processes.filterMap Process.reopens

/-- What holds after every run. -/
structure Sound (crates : Crates) (state : State) : Prop where
  rows : RowsSound crates state.app.storage
  distinct : (state.app.storage.messages.map (·.id)).Nodup
  tasks : ∀ process ∈ state.processes, process.Ok crates state.app.storage
  /-- A transfer fails once, so one task at most reopens its request. -/
  once : (reopening state.processes).Nodup

/-- The strings of UUIDs are read back. -/
def LawfulUuid (crates : Crates) : Prop := ∀ id, crates.parseUuid (crates.uuidToString id) = some id

theorem LawfulUuid.injective {crates : Crates} (lawful : LawfulUuid crates) {left right : Uuid}
    (same : crates.uuidToString left = crates.uuidToString right) : left = right := by
  have read := lawful left
  rw [same, lawful right] at read
  exact (Option.some.inj read).symm

section Tasks

variable {crates : Crates} {before after : InMemoryStorage} {reopened : Option Uuid}

theorem FailedTransfer.evolves {id : Uuid} {row : Message}
    (evolves : Evolves reopened before after) (failed : FailedTransfer before id row) :
    ∃ row', FailedTransfer after id row' ∧ linkOf row' = linkOf row := by
  obtain ⟨row', found, later⟩ := evolves id row failed.found
  refine ⟨row', ⟨found, later.kind.trans failed.kind, ?_⟩, later.link⟩
  exact (later.final (.inr (.inl failed.failed))).trans failed.failed

variable {process : Process} {transfer : Option TokenTransferCreate}

/-- What a task knows stays true while others run, unless its request is taken back. -/
theorem Process.Ok.evolves (ok : process.Ok crates before) (evolves : Evolves reopened before after)
    (kept : ∀ request, process.reopened = some request → reopened ≠ some request) :
    process.Ok crates after := by
  cases process with
  | inserting =>
    obtain ⟨created, status, linked⟩ := ok
    refine ⟨created, status, fun create requestId isCreate isLink => ?_⟩
    obtain ⟨request, found, kind, group⟩ := linked create requestId isCreate isLink
    obtain ⟨request', found', later⟩ := evolves requestId request found
    exact ⟨request', found', later.kind.trans kind, later.group.trans group⟩
  | marking created requestId =>
    obtain ⟨row, request, found, kind, link, isRequest, group⟩ := ok
    obtain ⟨row', found', later⟩ := evolves created.id row found
    obtain ⟨request', isRequest', laterRequest⟩ := evolves requestId request isRequest
    exact ⟨row', request', found', later.kind.trans kind, later.link.trans link, isRequest',
      (laterRequest.group.trans group).trans later.group.symm⟩
  | reopening =>
    obtain ⟨row, failed, link⟩ := ok
    obtain ⟨row', failed', link'⟩ := failed.evolves evolves
    exact ⟨row', failed', link'.trans link⟩
  | reopenWriting transfer requestId =>
    obtain ⟨row, request, failed, found, isPaid, named⟩ := ok
    obtain ⟨row', failed', -⟩ := failed.evolves evolves
    obtain ⟨request', found', later⟩ := evolves requestId request found
    obtain ⟨status, same⟩ := later.paid (kept requestId rfl) isPaid
    exact ⟨row', request', failed', found', status.trans isPaid, same.trans named⟩
  | deleting id =>
    obtain ⟨row, found, kind⟩ := ok
    obtain ⟨row', found', later⟩ := evolves id row found
    exact ⟨row', found', later.kind ▸ kind⟩
  | resolving | applying | responding => trivial

/-- What one storage operation of a task does: it keeps the rows sound, what is left of the
task knows its rows, and a new reopening follows a transfer that was pending. -/
structure RunEffect (crates : Crates) (process : Process) (before : InMemoryStorage)
    (next : Next) : Prop where
  effect : Effect crates process.reopened before next.1
  tasks : ∀ left ∈ next.2, left.Ok crates next.1
  once : reopening next.2 = [] ∨
    (∃ transfer, reopening next.2 = [transfer] ∧
      (process.reopens = some transfer ∨
        ∃ row, before.row transfer = some row ∧ statusOf row = some "pending"))

variable {message : Message}

theorem rowOk_created (created : Created crates message transfer)
    (status : message.syncStatus = .syncPending) (order : Int) :
    RowOk (message.setOrder order) ∧
      (message.kind = .requestPayment → statusOf (message.setOrder order) ≠ some "paid") := by
  have live : (message.setOrder order).isDeleted = false := by
    simp [Message.isDeleted, Message.setOrder, status]
  cases created with
  | transfer create recipient kind metadata =>
    have isPending : statusOf (message.setOrder order) = some "pending" := by
      simp only [statusOf, metaStr, Message.setOrder, metadata]
      rfl
    have unnamed : fulfilling (message.setOrder order) = none := by
      simp only [fulfilling, metaStr, Message.setOrder, metadata, tokenTransferMetadata]
      cases create.requestMessageId <;> cases create.senderWallet <;> rfl
    refine ⟨⟨fun _ => ⟨_, metadata⟩, fun _ => .inl isPending, fun _ => live, ?_, ?_⟩, ?_⟩
    · intro isRequest
      cases kind.symm.trans isRequest
    · intro other named
      cases unnamed ▸ named
    · rw [isPending]
      simp
  | request create payer kind metadata =>
    have isOpen : statusOf (message.setOrder order) = some "open" := by
      simp only [statusOf, metaStr, Message.setOrder, metadata]
      rfl
    have unnamed : fulfilling (message.setOrder order) = none := by
      simp only [fulfilling, metaStr, Message.setOrder, metadata]
      rfl
    refine ⟨⟨fun _ => ⟨_, metadata⟩, ?_, fun _ => live, fun _ => .inl isOpen, ?_⟩, ?_⟩
    · intro isTransfer
      cases kind.symm.trans isTransfer
    · intro other named
      cases unnamed ▸ named
    · rw [isOpen]
      simp
  | other kind metadata =>
    have unnamed : fulfilling (message.setOrder order) = none := by
      simp only [fulfilling, metaStr, Message.setOrder, metadata]
      rfl
    have noPayment : (message.setOrder order).kind.isDmPaymentKind = false := kind
    refine ⟨⟨fun payment => ?_, fun isTransfer => ?_, fun _ => live, fun isRequest => ?_,
      fun other named => ?_⟩, fun isRequest => ?_⟩
    · simp [noPayment] at payment
    · simp [isTransfer, MessageKind.isDmPaymentKind] at noPayment
    · simp [isRequest, MessageKind.isDmPaymentKind] at noPayment
    · cases unnamed ▸ named
    · simp [isRequest, MessageKind.isDmPaymentKind] at kind

theorem linkOf_created {create : TokenTransferCreate} (order : Int)
    (created : Created crates message (some create)) :
    message.kind = .tokenTransfer ∧
      linkOf (message.setOrder order) = create.requestMessageId.map crates.uuidToString := by
  cases created with
  | transfer _ recipient kind metadata =>
    refine ⟨kind, ?_⟩
    simp only [linkOf, metaStr, Message.setOrder, metadata, tokenTransferMetadata]
    cases create.requestMessageId <;> cases create.senderWallet <;> rfl

theorem run_inserting (sound : RowsSound crates before)
    (ok : (Process.inserting message transfer).Ok crates before) :
    RunEffect crates (.inserting message transfer) before (insertRow message transfer before) := by
  obtain ⟨created, status, linked⟩ := ok
  rcases outcome : before.createMessage message with ⟨answer, after⟩
  have cases := PostAtomicity.createMessage_outcome before message
  rw [outcome] at cases
  rcases cases with ⟨reason, rfl, same⟩ | ⟨order, rfl, fresh, -, appended⟩
  · rw [insertRow, outcome]
    exact ⟨.of_messages sound same, fun left present => by simp at present, .inl rfl⟩
  rw [insertRow, outcome]
  obtain ⟨rowOk, unpaid⟩ := rowOk_created created status order
  have appended : after.messages = before.messages ++ [message.setOrder order] := appended
  have fresh : ∀ row ∈ before.messages, row.id ≠ (message.setOrder order).id := fresh
  have effect : Effect crates none before after := .append sound fresh appended rowOk unpaid
  simp only
  cases isLink : transfer.bind fun create =>
      create.requestMessageId.map fun requestId => (requestId, create.digest) with
  | none =>
    refine ⟨effect, fun left present => ?_, .inl ?_⟩
    · simp only at present
      split_ifs at present
      · rw [List.mem_singleton.mp present]
        trivial
      · cases present
    · simp only
      split_ifs <;> rfl
  | some found =>
    obtain ⟨requestId, digest⟩ := found
    obtain ⟨create, rfl, isFound⟩ := Option.bind_eq_some_iff.mp isLink
    obtain ⟨id, isRequestId, same⟩ := Option.map_eq_some_iff.mp isFound
    cases same
    refine ⟨effect, fun left present => ?_, .inl rfl⟩
    rw [List.mem_singleton.mp present]
    obtain ⟨kind, link⟩ := linkOf_created order created
    obtain ⟨request, isRequest, -, group⟩ := linked create requestId rfl isRequestId
    obtain ⟨request', isRequest', later⟩ := effect.evolves requestId request isRequest
    refine ⟨message.setOrder order, request', ?_, kind, ?_, isRequest', later.group.trans group⟩
    · show after.row (message.setOrder order).id = some (message.setOrder order)
      rw [row_append fresh appended, if_pos rfl]
    · rw [link, isRequestId]
      rfl

theorem run_applying {now : Timestamp} {verdict : Verdict} (sound : RowsSound crates before) :
    RunEffect crates (.applying message verdict) before
      (writeVerdict now message verdict before) := by
  have effect := effect_write now message.id (.resolved verdict) sound
    (fun _ _ same => nomatch same)
  unfold writeVerdict
  rw [applyVerdict_eq crates]
  rcases write_cases crates now before message.id (.resolved verdict) with
    ⟨result, written, stays⟩ | ⟨row, ready, written⟩
  · rw [written] at effect ⊢
    cases result with
    | error =>
      refine ⟨effect, fun left present => ?_, .inl rfl⟩
      rw [List.mem_singleton.mp present]
      trivial
    | ok updated =>
      cases updated with
      | none => exact ⟨effect, fun left present => by simp at present, .inl rfl⟩
      | some updated => exact absurd rfl (stays updated)
  rw [written] at effect ⊢
  cases verdict with
  | success => exact ⟨effect, fun left present => by simp at present, .inl rfl⟩
  | failed reason =>
    have rowOk := sound.rows message.id row ready.found
    have isTransfer := rowOk.isTransfer_of_pending ready.payment ready.status
    obtain ⟨fields, isObject⟩ := rowOk.object ready.payment
    have rowId : row.id = message.id := InMemoryStorage.row_id ready.found
    let updated := Transition.apply crates now (.resolved (.failed reason)) row
    have updatedId : updated.id = message.id := rowId
    refine ⟨effect, fun left present => ?_, .inr ⟨message.id, ?_, .inr ⟨row, ready.found,
      ready.status⟩⟩⟩
    · rw [List.mem_singleton.mp present]
      refine ⟨updated, ⟨?_, isTransfer, status_apply crates now _ isObject⟩, rfl⟩
      have keepsId : ∀ row, (Transition.apply crates now (.resolved (.failed reason)) row).id =
          row.id := fun _ => rfl
      show (before.replaceRow message.id _).row updated.id = some updated
      rw [updatedId, InMemoryStorage.row_replaceRow before message.id message.id keepsId,
        if_pos rfl, ready.found]
      rfl
    · show [updated.id] = [message.id]
      rw [updatedId]

/-- What a reopening that goes on has read. -/
theorem linkedRequest_some {transfer : Message} {requestId : Uuid}
    (linked : linkedRequest crates before transfer = some requestId) :
    (linkOf transfer).bind crates.parseUuid = some requestId ∧
      ∃ request, before.row requestId = some request ∧
        fulfilling request = some (crates.uuidToString transfer.id) := by
  unfold linkedRequest at linked
  cases isLink : (metaStr transfer "request_message_id").bind crates.parseUuid with
  | none => simp [isLink] at linked
  | some id =>
    rw [isLink] at linked
    cases found : before.getMessage id with
    | error => simp [found] at linked
    | ok request =>
      simp only [found] at linked
      split_ifs at linked with named
      cases linked
      exact ⟨isLink, request, (InMemoryStorage.getMessage_eq_ok.mp found).2, named⟩

theorem run_reopening {transfer : Message} (sound : RowsSound crates before)
    (ok : (Process.reopening transfer).Ok crates before) :
    RunEffect crates (.reopening transfer) before (readRequest crates transfer before) := by
  have effect : Effect crates none before before := .of_messages sound rfl
  unfold readRequest
  cases linked : linkedRequest crates before transfer with
  | none => exact ⟨effect, fun left present => by simp at present, .inl rfl⟩
  | some requestId =>
    refine ⟨effect, fun left present => ?_, .inr ⟨transfer.id, rfl, .inl rfl⟩⟩
    rw [List.mem_singleton.mp present]
    obtain ⟨row, failed, -⟩ := ok
    obtain ⟨-, request, found, named⟩ := linkedRequest_some linked
    have isPaid := ((sound.rows requestId request found).named _ named).2
    exact ⟨row, request, failed, found, isPaid, named⟩

theorem run_effect (now : Timestamp) (sound : RowsSound crates before)
    (ok : process.Ok crates before) :
    RunEffect crates process before (process.run crates now before) := by
  cases process with
  | inserting => exact run_inserting sound ok
  | marking created requestId digest =>
    obtain ⟨row, request, found, kind, link, isRequest, group⟩ := ok
    refine ⟨?_, fun left present => ?_, .inl rfl⟩
    · show Effect crates none before (markRequestPaid crates now before requestId _ _)
      rw [markRequestPaid_eq]
      refine effect_write now requestId (.paid created.id digest) sound ?_
      intro transfer digest same
      cases same
      exact ⟨row, request, found, kind, link, isRequest, group⟩
    · rw [List.mem_singleton.mp present]
      trivial
  | resolving =>
    refine ⟨.of_messages sound rfl, fun left present => ?_, .inl rfl⟩
    rw [List.mem_singleton.mp present]
    trivial
  | applying => exact run_applying sound
  | reopening => exact run_reopening sound ok
  | reopenWriting transfer requestId =>
    refine ⟨?_, fun left present => by simp [Process.run] at present, .inl rfl⟩
    exact effect_write now requestId .reopened sound (fun _ _ same => nomatch same)
  | responding requestId action =>
    refine ⟨?_, fun left present => by simp [Process.run] at present, .inl rfl⟩
    exact effect_write now requestId (.responded action) sound (fun _ _ same => nomatch same)
  | deleting =>
    refine ⟨?_, fun left present => by simp [Process.run] at present, .inl rfl⟩
    obtain ⟨row, found, kind⟩ := ok
    refine effect_delete sound fun held isHeld => ?_
    rw [found, Option.some.injEq] at isHeld
    exact isHeld ▸ kind

end Tasks

/-! ### The steps -/

section Steps

variable {crates : Crates} {state : State} {process : Process} {processes : List Process}
  {index : Nat} {transfer : Uuid} {storage : InMemoryStorage} {id : Uuid}

/-- The task that runs and the others. -/
theorem perm_eraseIdx (found : processes[index]? = some process) :
    (process :: processes.eraseIdx index).Perm processes := by
  obtain ⟨bound, rfl⟩ := List.getElem?_eq_some_iff.mp found
  exact List.getElem_cons_eraseIdx_perm bound

theorem mem_reopening :
    transfer ∈ reopening processes ↔ ∃ process ∈ processes, process.reopens = some transfer :=
  List.mem_filterMap

theorem Process.Ok.failed (ok : process.Ok crates storage)
    (reopens : process.reopens = some transfer) :
    ∃ row, FailedTransfer storage transfer row := by
  cases process with
  | reopening =>
    cases reopens
    obtain ⟨held, failed, -⟩ := ok
    exact ⟨held, failed⟩
  | reopenWriting =>
    cases reopens
    obtain ⟨held, request, failed, -⟩ := ok
    exact ⟨held, failed⟩
  | inserting | marking | resolving | applying | responding | deleting => cases reopens

theorem same_transfer (lawful : LawfulUuid crates) {first second : Process} {request : Uuid}
    (firstOk : first.Ok crates storage) (secondOk : second.Ok crates storage)
    (firstReopens : first.reopened = some request) (secondReopens : second.reopened = some request)
    :
    ∃ transfer, first.reopens = some transfer ∧ second.reopens = some transfer := by
  cases first with
  | reopenWriting transfer requestId =>
    cases second with
    | reopenWriting =>
      cases firstReopens
      cases secondReopens
      obtain ⟨-, row, -, found, -, named⟩ := firstOk
      obtain ⟨-, row', -, found', -, named'⟩ := secondOk
      rw [found, Option.some.injEq] at found'
      subst found'
      rw [named, Option.some.injEq] at named'
      have same := lawful.injective named'
      exact ⟨transfer, rfl, by rw [same]; rfl⟩
    | inserting | marking | resolving | applying | reopening | responding | deleting =>
      cases secondReopens
  | inserting | marking | resolving | applying | reopening | responding | deleting =>
    cases firstReopens

theorem sound_advance (lawful : LawfulUuid crates) (sound : Sound crates state)
    (found : state.processes[index]? = some process) {next : Next}
    (ran : RunEffect crates process state.app.storage next) :
    Sound crates (state.advance index next) := by
  have perm := perm_eraseIdx found
  have once : (reopening (process :: state.processes.eraseIdx index)).Nodup :=
    (perm.filterMap Process.reopens).nodup_iff.mpr sound.once
  have rest : ∀ other ∈ state.processes.eraseIdx index, other.Ok crates state.app.storage :=
    fun other present => sound.tasks other (List.mem_of_mem_eraseIdx present)
  have running : process.Ok crates state.app.storage :=
    sound.tasks process (List.mem_of_getElem? found)
  refine ⟨ran.effect.sound, ran.effect.distinct sound.distinct, ?_, ?_⟩
  · intro other present
    rcases List.mem_append.mp present with isRest | isLeft
    · refine (rest other isRest).evolves ran.effect.evolves ?_
      intro request reopens same
      obtain ⟨transfer, first, second⟩ :=
        same_transfer lawful running (rest other isRest) same reopens
      have twice : transfer ∈ reopening (state.processes.eraseIdx index) :=
        mem_reopening.mpr ⟨other, isRest, second⟩
      rw [reopening, List.filterMap_cons_some first] at once
      exact (List.nodup_cons.mp once).1 twice
    · exact ran.tasks other isLeft
  show (reopening (state.processes.eraseIdx index ++ next.2)).Nodup
  have split : reopening (state.processes.eraseIdx index ++ next.2) =
      reopening (state.processes.eraseIdx index) ++ reopening next.2 := List.filterMap_append
  rw [split]
  have others : (reopening (state.processes.eraseIdx index)).Nodup := by
    refine List.Nodup.sublist ?_ once
    exact (List.sublist_cons_self _ _).filterMap Process.reopens
  rcases ran.once with none | ⟨transfer, one, reopens | ⟨row, isRow, isPending⟩⟩
  · rw [none, List.append_nil]
    exact others
  · rw [one, List.nodup_append_comm]
    rw [reopening, List.filterMap_cons_some reopens] at once
    exact once
  rw [one, List.nodup_append_comm, List.singleton_append, List.nodup_cons]
  refine ⟨fun isOther => ?_, others⟩
  obtain ⟨other, present, second⟩ := mem_reopening.mp isOther
  obtain ⟨held, failed⟩ := (rest other present).failed second
  have same := failed.found.symm.trans isRow
  cases same
  have status := failed.failed.symm.trans isPending
  simp at status

theorem sound_spawn (sound : Sound crates state) (ok : process.Ok crates state.app.storage)
    (idle : process.reopens = none) :
    Sound crates (state.spawn process) where
  rows := sound.rows
  distinct := sound.distinct
  tasks := by
    intro other present
    rcases List.mem_append.mp present with isOld | isNew
    · exact sound.tasks other isOld
    · exact List.mem_singleton.mp isNew ▸ ok
  once := by
    have split : reopening (state.processes ++ [process]) =
        reopening state.processes ++ reopening [process] := List.filterMap_append
    have none : reopening [process] = [] := by
      rw [reopening, List.filterMap_cons_none idle]
      rfl
    show (reopening (state.processes ++ [process])).Nodup
    rw [split, none, List.append_nil]
    exact sound.once

theorem answered_effect (sound : Sound crates state) (ok : process.Ok crates state.app.storage)
    (answer : Option ChainOutcome) (tooOld : Bool) :
    RunEffect crates process state.app.storage
      (state.app.storage, process.answered answer tooOld) := by
  have effect : Effect crates process.reopened state.app.storage state.app.storage :=
    .of_messages sound.rows rfl
  cases process with
  | resolving message =>
    cases isVerdict : verdictOf message answer tooOld with
    | none =>
      have answered : (Process.resolving message).answered answer tooOld =
          [.resolving message] := by
        simp [Process.answered, isVerdict]
      rw [answered]
      exact ⟨effect, fun left present => List.mem_singleton.mp present ▸ ok, .inl rfl⟩
    | some verdict =>
      have answered : (Process.resolving message).answered answer tooOld =
          [.applying message verdict] := by
        simp [Process.answered, isVerdict]
      rw [answered]
      refine ⟨effect, fun left present => ?_, .inl rfl⟩
      rw [List.mem_singleton.mp present]
      trivial
  | reopening transfer =>
    exact ⟨effect, fun left present => List.mem_singleton.mp present ▸ ok,
      .inr ⟨transfer.id, rfl, .inl rfl⟩⟩
  | reopenWriting transfer =>
    exact ⟨effect, fun left present => List.mem_singleton.mp present ▸ ok,
      .inr ⟨transfer, rfl, .inl rfl⟩⟩
  | inserting | marking | applying | responding | deleting =>
    exact ⟨effect, fun left present => List.mem_singleton.mp present ▸ ok, .inl rfl⟩

theorem checkDelete_kind {auth : AuthContext}
    (passed : checkDelete crates auth id state.app = .ok ()) :
    ∃ row, state.app.storage.row id = some row ∧ row.kind ≠ .tokenTransfer := by
  simp only [checkDelete, bind, Except.bind] at passed
  cases owned : ownRow crates auth id state.app with
  | error => simp [owned] at passed
  | ok row =>
    rw [owned] at passed
    have isRow : state.app.storage.row id = some row := by
      unfold ownRow fromStorage at owned
      simp only [bind, Except.bind] at owned
      cases found : state.app.storage.getMessage id with
      | error => simp [found] at owned
      | ok held =>
        rw [found] at owned
        have same : held = row := by
          simp only at owned
          repeat' split at owned
          all_goals cases owned
          rfl
        exact same ▸ (InMemoryStorage.getMessage_eq_ok.mp found).2
    refine ⟨row, isRow, fun isTransfer => ?_⟩
    simp only [isTransfer, ↓reduceIte] at passed
    repeat' split at passed
    all_goals cases passed

/-- The first part of a `POST` leaves the rows, and what it spawns knows them. -/
theorem beginPost_cases (crates : Crates) (state : State) (services : Services)
    (auth : AuthContext) (req : CreateMessageRequest) :
    (beginPost crates services auth req state).app.storage = state.app.storage ∧
      ((beginPost crates services auth req state).processes = state.processes ∨
        ∃ message transfer,
          (beginPost crates services auth req state).processes =
            state.processes ++ [.inserting message transfer] ∧
          (Process.inserting message transfer).Ok crates state.app.storage) := by
  unfold beginPost
  rcases began : beginMessage crates req state.app with ⟨result, app⟩
  cases result with
  | ok prepared =>
    obtain ⟨isPrepared, sameStorage⟩ := beginMessage_prepared began
    simp only
    cases passed : checkMessage crates services auth req prepared app with
    | error => exact ⟨sameStorage, .inl rfl⟩
    | ok checked =>
      obtain ⟨message, transfer⟩ := checked
      obtain ⟨created, status, group, isLink⟩ := checkMessage_created isPrepared passed
      refine ⟨sameStorage, .inr ⟨message, transfer, rfl, created, status, ?_⟩⟩
      intro create requestId isCreate linked
      rw [isCreate] at isLink
      cases isTransfer : prepared.transferCreate with
      | none => simp [isTransfer, resolveLink] at isLink
      | some =>
        rw [isTransfer] at isLink
        obtain ⟨request, found, kind, sameGroup⟩ := resolveLink_valid isLink.symm linked
        exact ⟨request, sameStorage ▸ found, kind, sameGroup.trans group.symm⟩
  | error =>
    rcases CommitLog.beginMessage_cases crates req state.app with
      ⟨_, other⟩ | ⟨_, other, -⟩ | ⟨_, -, other⟩
    · cases other ▸ began
      exact ⟨rfl, .inl rfl⟩
    · cases other ▸ began
    · cases other ▸ began
  | crash =>
    rcases CommitLog.beginMessage_cases crates req state.app with
      ⟨_, other⟩ | ⟨_, other, -⟩ | ⟨_, -, other⟩
    all_goals cases other ▸ began

theorem Sound.of_rows {later : State} (sound : Sound crates state)
    (rows : later.app.storage.messages = state.app.storage.messages)
    (tasks : later.processes = state.processes) : Sound crates later where
  rows := by
    have effect : Effect crates none state.app.storage later.app.storage :=
      .of_messages sound.rows rows
    exact effect.sound
  distinct := rows.symm ▸ sound.distinct
  tasks := by
    intro process present
    rw [tasks] at present
    have evolves : Evolves none state.app.storage later.app.storage := .of_messages rows
    exact (sound.tasks process present).evolves evolves (fun _ _ => nofun)
  once := tasks.symm ▸ sound.once

/-- **One step.**  The facts of every run are kept, and every row is a later form of what it
was. -/
theorem sound_step (lawful : LawfulUuid crates) (sound : Sound crates state) (input : Input) :
    Sound crates (step crates state input) ∧
      ∃ reopened, Evolves reopened state.app.storage (step crates state input).app.storage := by
  have stays : ∃ reopened, Evolves reopened state.app.storage state.app.storage :=
    ⟨none, .of_messages rfl⟩
  cases input with
  | post services auth req =>
    obtain ⟨sameStorage, same | ⟨message, transfer, spawned, ok⟩⟩ :=
      beginPost_cases crates state services auth req
    · exact ⟨sound.of_rows (congrArg (·.messages) sameStorage) same,
        none, .of_messages (congrArg (·.messages) sameStorage)⟩
    · refine ⟨?_, none, .of_messages (congrArg (·.messages) sameStorage)⟩
      exact (sound_spawn sound ok rfl).of_rows (congrArg (·.messages) sameStorage) spawned
  | sweep =>
    simp only [step]
    split
    · split_ifs
      · exact ⟨sound_spawn sound trivial rfl, stays⟩
      · exact ⟨sound, stays⟩
    · exact ⟨sound, stays⟩
  | respond =>
    simp only [step]
    split
    · exact ⟨sound_spawn sound trivial rfl, stays⟩
    · exact ⟨sound, stays⟩
  | delete =>
    simp only [step]
    split
    · exact ⟨sound_spawn sound (checkDelete_kind (by assumption)) rfl, stays⟩
    · exact ⟨sound, stays⟩
  | lookup index answer tooOld =>
    simp only [step]
    cases found : state.processes[index]? with
    | none => exact ⟨sound, stays⟩
    | some process =>
      have ok := sound.tasks process (List.mem_of_getElem? found)
      exact ⟨sound_advance lawful sound found (answered_effect sound ok answer tooOld), stays⟩
  | run index now =>
    simp only [step]
    cases found : state.processes[index]? with
    | none => exact ⟨sound, stays⟩
    | some process =>
      have ok := sound.tasks process (List.mem_of_getElem? found)
      have ran := run_effect now sound.rows ok
      exact ⟨sound_advance lawful sound found ran, process.reopened, ran.effect.evolves⟩
  | abandon =>
    refine ⟨⟨sound.rows, sound.distinct, ?_, ?_⟩, stays⟩
    · intro process present
      exact sound.tasks process (List.mem_of_mem_eraseIdx present)
    · exact sound.once.sublist ((List.eraseIdx_sublist _ _).filterMap Process.reopens)
  | outage => exact ⟨sound.of_rows rfl rfl, none, .of_messages rfl⟩
  | membership => exact ⟨sound.of_rows rfl rfl, stays⟩

theorem sound_start : Sound crates start where
  rows := ⟨fun _ _ found => (nomatch found), fun _ _ found => (nomatch found)⟩
  distinct := List.nodup_nil
  tasks := fun _ present => nomatch present
  once := List.nodup_nil

theorem sound_run (lawful : LawfulUuid crates) (inputs : List Input) (sound : Sound crates state) :
    Sound crates (inputs.foldl (step crates) state) := by
  induction inputs generalizing state with
  | nil => exact sound
  | cons input rest ih => exact ih (sound_step lawful sound input).1

theorem final_run (lawful : LawfulUuid crates) (inputs : List Input) (sound : Sound crates state)
    {row : Message} (found : state.app.storage.row id = some row) (final : Final (statusOf row)) :
    ∃ row', (inputs.foldl (step crates) state).app.storage.row id = some row' ∧
      row'.kind = row.kind ∧ statusOf row' = statusOf row := by
  induction inputs generalizing state row with
  | nil => exact ⟨row, found, rfl, rfl⟩
  | cons input rest ih =>
    obtain ⟨soundNext, reopened, evolves⟩ := sound_step lawful sound input
    obtain ⟨row', found', later⟩ := evolves id row found
    have status := later.final final
    obtain ⟨row'', found'', kind, status'⟩ := ih soundNext found' (status.symm ▸ final)
    exact ⟨row'', found'', kind.trans later.kind, status'.trans status⟩

end Steps

end MessagingStack.Relayer.PaymentSettlement

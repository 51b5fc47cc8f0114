import MessagingStack.Base.Runs
import MessagingStack.Relayer.Messages

/-!
# The accepted epoch and the commit log

The commit rows of a group carry the epochs `0, 1, …, currentEpoch - 1`, in this order.  A
`POST /messages` takes two steps: `Input.begin` ends with the epoch check, `Input.finish` stores
the row; other requests run in between.  The invariant counts the calls in between:

  epochs of the stored commits ++ epochs of the calls in flight = `0 … currentEpoch - 1`.

It is kept by every step that is `Good`; `bad_signature_advances_epoch` is a call that is not.
-/

namespace MessagingStack.Relayer.CommitLog

def commitEpoch (crates : Crates) (kind : MessageKind) (encryptedMsg : Bytes) : Option Nat :=
  if kind = .commit then
    match crates.inspect encryptedMsg with
    | some (.commit _ epoch) => some epoch
    | _ => none
  else none

def rowEpoch (crates : Crates) (row : Message) : Option Nat :=
  commitEpoch crates row.kind row.encryptedMsg

/-- The epochs of a group's commit rows, in the order of the log. -/
def commitEpochs (crates : Crates) (storage : InMemoryStorage) (groupId : String) : List Nat :=
  (storage.log groupId).filterMap (rowEpoch crates)

/-- A `POST /messages` call between the epoch check and its end. -/
structure Pending where
  auth : AuthContext
  req : CreateMessageRequest
  prepared : PreparedMessage

/-- The epoch a pending call has advanced its group from. -/
def Pending.epoch (crates : Crates) (pending : Pending) : Option Nat :=
  commitEpoch crates pending.prepared.kind pending.prepared.encryptedMsg

/-- The epochs of a group's calls in flight, oldest first. -/
def pendingEpochs (crates : Crates) (inFlight : List Pending) (groupId : String) : List Nat :=
  (inFlight.filter (·.req.groupId == groupId)).filterMap (Pending.epoch crates)

/-! ## The relayer as a state machine -/

/-- The relayer with its calls in flight. -/
structure State where
  app : AppState
  inFlight : List Pending

/-- The requests and background writes that reach the message log or the epochs. -/
inductive Input where
  /-- A `POST /messages`, up to and including the epoch check. -/
  | begin (auth : AuthContext) (req : CreateMessageRequest)
  /-- The rest of the call at this place in flight. -/
  | finish (index : Nat) (services : Services)
  /-- The client of the call at this place disconnects. -/
  | abort (index : Nat)
  | put (now : Timestamp) (auth : AuthContext) (req : UpdateMessageRequest)
  | delete (now : Timestamp) (auth : AuthContext) (id : Uuid)
  /-- Membership sync writes a system row. -/
  | system (blake2b512 : Bytes → Bytes) (id : Uuid) (groupId member : String)
      (systemType : SystemType) (actor : Option String) (key : String) (createdAt : Timestamp)
  /-- The archive worker reports on a row. -/
  | archive (now : Timestamp) (id : Uuid) (status : SyncStatus) (quiltPatchId : Option String)
  | payment (now : Timestamp) (id : Uuid) (patch : Json) (allowedFromStatus : List String)
  | membership (store : MembershipStore)
  /-- A thread panics while it holds a lock of the store. -/
  | poison (lock : Lock)

def step (crates : Crates) (state : State) : Input → State
  | .begin auth req =>
    match beginMessage crates req state.app with
    | (.ok prepared, app) => { app, inFlight := state.inFlight ++ [⟨auth, req, prepared⟩] }
    | (_, app) => { state with app }
  | .finish index services =>
    match state.inFlight[index]? with
    | none => state
    | some pending =>
      { app :=
          (finishMessage crates services pending.auth pending.req pending.prepared state.app).2
        inFlight := state.inFlight.eraseIdx index }
  | .abort index => { state with inFlight := state.inFlight.eraseIdx index }
  | .put now auth req => { state with app := (updateMessage crates now auth req state.app).2 }
  | .delete now auth id => { state with app := (deleteMessage crates now auth id state.app).2 }
  | .system blake2b512 id groupId member systemType actor key createdAt =>
    { state with
      app := { state.app with
        storage := (state.app.storage.createMessage
          (.newSystem blake2b512 id groupId member systemType actor key createdAt)).2 } }
  | .archive now id status quiltPatchId =>
    { state with
      app := { state.app with
        storage := (state.app.storage.updateSyncStatus now id status quiltPatchId).2 } }
  | .payment now id patch allowedFromStatus =>
    { state with
      app := { state.app with
        storage := (state.app.storage.updateMessageMetadataTrusted now id patch
          allowedFromStatus).2 } }
  | .membership store => { state with app := { state.app with membershipStore := store } }
  | .poison lock =>
    { state with
      app := { state.app with
        storage := { state.app.storage with
          poisoned := Function.update state.app.storage.poisoned lock true } } }

/-- A relayer that has just started. -/
def start : State where
  app := { storage := .new, mls := .new, membershipStore := .new }
  inFlight := []

/-! ## The condition -/

/-- Every check after the epoch check passes: nothing to notify, a valid signature, a
confirmed attribution, no block, no payment due, well-formed notification envelopes, and a
store that takes the row. -/
structure Passes (crates : Crates) (services : Services) (auth : AuthContext)
    (req : CreateMessageRequest) (prepared : PreparedMessage) (app : AppState) : Prop where
  notify : req.notifyWallets = []
  signature : ∃ signature, checkSignature crates auth req prepared = .ok signature
  attribution : checkAttribution services req prepared = .ok ()
  notBlocked : checkBlocked services req prepared (dmPeer services app req prepared.kind) = .ok ()
  notGated :
    checkPaidDmGate crates services app req prepared (dmPeer services app req prepared.kind) =
      .ok ()
  envelopes : ∃ items, checkEnvelopes crates req.notificationEnvelopes = .ok items
  stored : app.storage.Accepts services.newId prepared.nonce prepared.idempotencyKey

/-- The condition on a step: a call that has advanced an epoch passes every later check and
ends before the later ones of its group; and no `PUT` edits a commit row. -/
def Good (crates : Crates) (state : State) : Input → Prop
  | .finish index services =>
    ∀ pending epoch, state.inFlight[index]? = some pending →
      pending.epoch crates = some epoch →
        Passes crates services pending.auth pending.req pending.prepared state.app ∧
          pendingEpochs crates (state.inFlight.take index) pending.req.groupId = []
  | .abort index => ∀ pending, state.inFlight[index]? = some pending → pending.epoch crates = none
  | .put _ _ req => ∀ row ∈ state.app.storage.messages, row.id = req.messageId → row.kind ≠ .commit
  | _ => True

/-! ## What the parts of a call do -/

section Calls

variable {crates : Crates} {services : Services} {auth : AuthContext}
  {req : CreateMessageRequest} {prepared : PreparedMessage} {app : AppState}

theorem check_run {α : Type} (result : Except ApiError α) (app : AppState) :
    check result app = (match result with
      | .ok value => .ok value
      | .error reason => .error reason, app) := by
  cases result <;> rfl

/-- What the first part of a call can do: fail and change nothing; go on and change nothing,
when the row is no commit; or advance the epoch of the group from the commit's own. -/
theorem beginMessage_cases (crates : Crates) (req : CreateMessageRequest) (app : AppState) :
    (∃ reason, beginMessage crates req app = (.error reason, app)) ∨
    (∃ prepared, beginMessage crates req app = (.ok prepared, app) ∧
      commitEpoch crates prepared.kind prepared.encryptedMsg = none) ∨
    (∃ prepared,
      commitEpoch crates prepared.kind prepared.encryptedMsg =
        some (app.mls.currentEpoch req.groupId) ∧
      beginMessage crates req app =
        (.ok prepared, { app with
          mls := ⟨Function.update app.mls.epochs req.groupId
            (app.mls.currentEpoch req.groupId + 1)⟩ })) := by
  simp only [beginMessage, Async.bind_run, check_run]
  cases isPrepared : prepareMessage crates req with
  | error reason => exact .inl ⟨reason, rfl⟩
  | ok prepared =>
    simp only
    by_cases isCommit : prepared.kind = .commit
    · simp only [isCommit, ↓reduceIte, Async.bind_run, acceptCommit]
      cases header : crates.inspect prepared.encryptedMsg with
      | none => exact .inl ⟨_, rfl⟩
      | some info =>
        cases info with
        | commit headerGroup epoch =>
          by_cases sameGroup : headerGroup = Text.utf8 req.groupId
          · simp only [sameGroup, ↓reduceIte]
            rcases app.mls.tryAdvanceEpoch_cases req.groupId epoch with
              ⟨-, stale⟩ | ⟨current, advanced⟩
            · rw [stale]
              exact .inl ⟨_, rfl⟩
            · rw [advanced]
              subst current
              exact .inr (.inr ⟨prepared, by simp [commitEpoch, isCommit, header], rfl⟩)
          · simp only [sameGroup, ↓reduceIte]
            exact .inl ⟨_, rfl⟩
        | proposal headerGroup =>
          by_cases sameGroup : headerGroup = Text.utf8 req.groupId
          · simp only [sameGroup, ↓reduceIte]
            exact .inr (.inl ⟨prepared, rfl, by simp [commitEpoch, header]⟩)
          · simp only [sameGroup, ↓reduceIte]
            exact .inl ⟨_, rfl⟩
        | application | welcome | keyPackage | groupInfo | other => exact .inl ⟨_, rfl⟩
    · simp only [isCommit, ↓reduceIte]
      exact .inr (.inl ⟨prepared, rfl, by simp [commitEpoch, isCommit]⟩)

variable (crates services auth req prepared) in
theorem buildMessage_row (signature : Bytes) (transfer : Option TokenTransferCreate)
    (paymentPeer : Option String) :
    (buildMessage crates services auth req prepared signature transfer paymentPeer).groupId =
        req.groupId ∧
      (buildMessage crates services auth req prepared signature transfer paymentPeer).kind =
        prepared.kind ∧
      (buildMessage crates services auth req prepared signature transfer
        paymentPeer).encryptedMsg = prepared.encryptedMsg ∧
      (buildMessage crates services auth req prepared signature transfer paymentPeer).id =
        services.newId ∧
      (buildMessage crates services auth req prepared signature transfer paymentPeer).nonce =
        prepared.nonce ∧
      (buildMessage crates services auth req prepared signature transfer
        paymentPeer).idempotencyKey = prepared.idempotencyKey := by
  unfold buildMessage
  split <;> exact ⟨rfl, rfl, rfl, rfl, rfl, rfl⟩

theorem checkMessage_ok {message : Message} {transfer : Option TokenTransferCreate}
    (passed : checkMessage crates services auth req prepared app = .ok (message, transfer)) :
    ∃ signature paymentPeer,
      message = buildMessage crates services auth req prepared signature transfer paymentPeer ∧
        transfer = resolveLink app req prepared.transferCreate := by
  unfold checkMessage at passed
  simp only [bind, Except.bind] at passed
  repeat' split at passed
  all_goals cases passed
  exact ⟨_, _, rfl, rfl⟩

theorem checkMessage_of_passes (isCommit : prepared.kind = .commit)
    (passes : Passes crates services auth req prepared app) :
    ∃ message transfer,
      checkMessage crates services auth req prepared app = .ok (message, transfer) := by
  obtain ⟨signature, signed⟩ := passes.signature
  have notified : checkNotifyWallets req prepared = .ok () := by
    simp [checkNotifyWallets, passes.notify]
  have noPayment (peer : Option String) : checkPaymentPeer prepared peer = .ok none := by
    simp [checkPaymentPeer, isCommit, MessageKind.isDmPaymentKind]
  simp only [checkMessage, notified, signed, passes.attribution, noPayment,
    passes.notBlocked, passes.notGated, bind, Except.bind]
  exact ⟨_, _, rfl⟩

end Calls

/-! ## What the storage operations do to the commit epochs -/

section Storage

variable {crates : Crates} {storage : InMemoryStorage}

theorem commitEpochs_eq (ordered : storage.WellOrdered) (groupId : String) :
    commitEpochs crates storage groupId =
      (storage.messages.filter (·.groupId == groupId)).filterMap (rowEpoch crates) := by
  rw [commitEpochs, ordered.log_eq]

/-- The later store is well ordered and has the same commits. -/
def SameCommits (crates : Crates) (before after : InMemoryStorage) : Prop :=
  after.WellOrdered ∧
    ∀ groupId, commitEpochs crates after groupId = commitEpochs crates before groupId

theorem sameCommits_of_messages {after : InMemoryStorage} (ordered : storage.WellOrdered)
    (orderedAfter : after.WellOrdered) (same : after.messages = storage.messages) :
    SameCommits crates storage after :=
  ⟨orderedAfter, fun groupId => by rw [commitEpochs_eq orderedAfter, commitEpochs_eq ordered, same]⟩

theorem SameCommits.trans {middle after : InMemoryStorage}
    (first : SameCommits crates storage middle) (second : SameCommits crates middle after) :
    SameCommits crates storage after :=
  ⟨second.1, fun groupId => (second.2 groupId).trans (first.2 groupId)⟩

theorem sameCommits_replaceRow (ordered : storage.WellOrdered) (id : Uuid)
    {change : Message → Message}
    (group : ∀ row, (change row).groupId = row.groupId)
    (order : ∀ row, (change row).order = row.order)
    (epoch : ∀ row ∈ storage.messages, row.id = id →
      rowEpoch crates (change row) = rowEpoch crates row) :
    SameCommits crates storage (storage.replaceRow id change) := by
  have orderedAfter := ordered.replaceRow id group order
  refine ⟨orderedAfter, fun groupId => ?_⟩
  rw [commitEpochs_eq orderedAfter, commitEpochs_eq ordered]
  unfold InMemoryStorage.replaceRow
  simp only [List.filter_map, List.filterMap_map]
  have sameGroup : (fun row : Message => ((if row.id == id then change row else row).groupId ==
      groupId)) = (fun row : Message => row.groupId == groupId) := by
    funext row
    split_ifs
    · rw [group]
    · rfl
  have filtered : storage.messages.filter
      ((fun row : Message => row.groupId == groupId) ∘
        fun row => if row.id == id then change row else row) =
      storage.messages.filter (fun row : Message => row.groupId == groupId) :=
    congrArg (storage.messages.filter ·) sameGroup
  rw [filtered]
  refine List.filterMap_congr fun row present => ?_
  have stored := (List.mem_filter.mp present).1
  by_cases isRow : row.id = id
  · simp [isRow, epoch row stored isRow]
  · simp [isRow]

theorem sameCommits_changeRow (ordered : storage.WellOrdered) (id : Uuid)
    {change : Message → Message}
    (group : ∀ row, (change row).groupId = row.groupId)
    (order : ∀ row, (change row).order = row.order)
    (epoch : ∀ row, rowEpoch crates (change row) = rowEpoch crates row) :
    SameCommits crates storage (storage.changeRow id change).2 := by
  unfold InMemoryStorage.changeRow
  split
  · exact ⟨ordered, fun _ => rfl⟩
  · exact sameCommits_replaceRow ordered id group order fun row _ _ => epoch row

theorem sameCommits_patchMetadata (ordered : storage.WellOrdered) (now : Timestamp)
    (id : Uuid) (patch : Json) (allowed : List String) :
    SameCommits crates storage (storage.updateMessageMetadataTrusted now id patch allowed).2 := by
  unfold InMemoryStorage.updateMessageMetadataTrusted
  split
  · exact ⟨ordered, fun _ => rfl⟩
  split_ifs
  · exact ⟨ordered, fun _ => rfl⟩
  · exact ⟨ordered, fun _ => rfl⟩
  · exact sameCommits_replaceRow ordered id (fun _ => rfl) (fun _ => rfl) fun _ _ _ => rfl

variable (crates) in
theorem sameCommits_updateMessage (ordered : storage.WellOrdered) (now : Timestamp) (id : Uuid)
    (noCommit : ∀ row ∈ storage.messages, row.id = id → row.kind ≠ .commit)
    (encryptedMsg nonce : Bytes) (keyVersion : Int) (attachments : List Attachment)
    (signature : Bytes) (signatureVersion : Int) (publicKey : Bytes) :
    SameCommits crates storage
      (storage.updateMessage now id encryptedMsg nonce keyVersion attachments signature
        signatureVersion publicKey).2 := by
  unfold InMemoryStorage.updateMessage
  split
  · exact ⟨ordered, fun _ => rfl⟩
  split_ifs
  · exact ⟨ordered, fun _ => rfl⟩
  · exact ⟨ordered, fun _ => rfl⟩
  have replaced : SameCommits crates storage (storage.replaceRow id fun row =>
      row.updateContent now encryptedMsg nonce keyVersion attachments signature
        signatureVersion publicKey) :=
    sameCommits_replaceRow ordered id (fun _ => rfl) (fun _ => rfl) (by
      intro row present isRow
      simp [rowEpoch, commitEpoch, Message.updateContent, noCommit row present isRow])
  refine replaced.trans (sameCommits_of_messages replaced.1 ?_ rfl)
  exact ⟨replaced.1.increasing, replaced.1.bounded⟩

theorem filterMap_filter_singleton {α : Type} (key : α → String) (value : α → Option Nat)
    (item : α) (wanted : String) :
    ([item].filter (key · == wanted)).filterMap value =
      if key item = wanted then (value item).toList else [] := by
  by_cases same : key item = wanted
  · cases isValue : value item <;> simp [same, isValue]
  · simp [same]

theorem commitEpochs_append (ordered : storage.WellOrdered) (message : Message)
    (nonces : List Bytes) (groupId : String) :
    commitEpochs crates
        { storage.consumeOrder message.groupId with
          nonces := nonces
          messages := storage.messages ++
            [message.setOrder (storage.next message.groupId)] } groupId =
      commitEpochs crates storage groupId ++
        (if message.groupId = groupId then (rowEpoch crates message).toList else []) := by
  rw [commitEpochs_eq (ordered.append message nonces), commitEpochs_eq ordered,
    List.filter_append, List.filterMap_append]
  congr 1
  exact filterMap_filter_singleton (·.groupId) (rowEpoch crates)
    (message.setOrder (storage.next message.groupId)) groupId

theorem sameCommits_createMessage (ordered : storage.WellOrdered) {message : Message}
    (noCommit : rowEpoch crates message = none) :
    SameCommits crates storage (storage.createMessage message).2 := by
  refine ⟨ordered.createMessage message, fun groupId => ?_⟩
  rcases storage.createMessage_cases message with ⟨reason, same | consumed⟩ | ⟨-, -, stored⟩
  · rw [same]
  · rw [consumed]
    exact (sameCommits_of_messages ordered (ordered.consumeOrder _) rfl).2 groupId
  · rw [stored, commitEpochs_append ordered, noCommit]
    simp

end Storage

/-! ## What the end of a call does -/

section Finish

variable {crates : Crates} {services : Services} {auth : AuthContext}
  {req : CreateMessageRequest} {prepared : PreparedMessage} {app : AppState}

/-- The end of a call either stores nothing, or goes through the storage call with the row
of the request. -/
theorem finishMessage_cases (crates : Crates) (services : Services) (auth : AuthContext)
    (req : CreateMessageRequest) (prepared : PreparedMessage) (app : AppState) :
    (∃ reason, finishMessage crates services auth req prepared app = (.error reason, app)) ∨
    (∃ signature transfer paymentPeer,
      finishMessage crates services auth req prepared app =
        storeMessage crates services req prepared
          (buildMessage crates services auth req prepared signature transfer paymentPeer)
          transfer app ∧
        transfer = resolveLink app req prepared.transferCreate) := by
  simp only [finishMessage, Async.bind_run, Async.get_run, check_run]
  cases checked : checkMessage crates services auth req prepared app with
  | error reason => exact .inl ⟨reason, rfl⟩
  | ok result =>
    obtain ⟨message, transfer⟩ := result
    obtain ⟨signature, paymentPeer, rfl, isTransfer⟩ := checkMessage_ok checked
    exact .inr ⟨signature, transfer, paymentPeer, rfl, isTransfer⟩

theorem storeMessage_mls (message : Message) (transfer : Option TokenTransferCreate) :
    (storeMessage crates services req prepared message transfer app).2.mls = app.mls := by
  unfold storeMessage
  split
  · rw [check_run]
  · rfl
  · dsimp only
    split <;> rfl

variable (crates services auth req prepared app) in
/-- The end of a call never touches the epochs. -/
theorem finishMessage_mls :
    (finishMessage crates services auth req prepared app).2.mls = app.mls := by
  rcases finishMessage_cases crates services auth req prepared app with
    ⟨reason, failed⟩ | ⟨signature, transfer, paymentPeer, stored, -⟩
  · rw [failed]
  · rw [stored, storeMessage_mls]

variable (crates services req prepared app) in
/-- `storeMessage` stores the row and at most marks the request it pays. -/
theorem storage_storeMessage (message : Message) (transfer : Option TokenTransferCreate) :
    (storeMessage crates services req prepared message transfer app).2.storage =
        (app.storage.createMessage message).2 ∨
      ∃ requestId id digest,
        (storeMessage crates services req prepared message transfer app).2.storage =
          markRequestPaid crates services.now (app.storage.createMessage message).2 requestId id
            digest := by
  unfold storeMessage
  split
  · next ran =>
    rw [check_run, ran]
    exact .inl rfl
  · next ran =>
    rw [ran]
    exact .inl rfl
  next ran =>
  rw [ran]
  rcases transfer with _ | transfer
  · dsimp only
    split <;> exact .inl rfl
  cases link : transfer.requestMessageId with
  | none =>
    simp only [link]
    split <;> exact .inl rfl
  | some requestId =>
    simp only [link]
    split <;> exact .inr ⟨_, _, _, rfl⟩

variable (crates services req prepared app) in
theorem sameCommits_storeMessage (message : Message) (transfer : Option TokenTransferCreate)
    (ordered : (app.storage.createMessage message).2.WellOrdered) :
    SameCommits crates (app.storage.createMessage message).2
      (storeMessage crates services req prepared message transfer app).2.storage := by
  rcases storage_storeMessage crates services req prepared app message transfer with
    same | ⟨requestId, id, digest, marked⟩
  · rw [same]
    exact ⟨ordered, fun _ => rfl⟩
  · rw [marked]
    exact sameCommits_patchMetadata ordered _ _ _ _

variable (crates services auth req prepared app) in
theorem sameCommits_finishMessage (ordered : app.storage.WellOrdered)
    (noCommit : commitEpoch crates prepared.kind prepared.encryptedMsg = none) :
    SameCommits crates app.storage
      (finishMessage crates services auth req prepared app).2.storage := by
  rcases finishMessage_cases crates services auth req prepared app with
    ⟨reason, failed⟩ | ⟨signature, transfer, paymentPeer, stored, -⟩
  · rw [failed]
    exact ⟨ordered, fun _ => rfl⟩
  obtain ⟨-, kind, bytes, -⟩ := buildMessage_row crates services auth req prepared signature
    transfer paymentPeer
  have created : SameCommits crates app.storage (app.storage.createMessage
      (buildMessage crates services auth req prepared signature transfer paymentPeer)).2 :=
    sameCommits_createMessage ordered (by rw [rowEpoch, kind, bytes]; exact noCommit)
  rw [stored]
  exact created.trans (sameCommits_storeMessage crates services req prepared app _ _ created.1)

theorem finishMessage_of_passes {epoch : Nat} (ordered : app.storage.WellOrdered)
    (isEpoch : commitEpoch crates prepared.kind prepared.encryptedMsg = some epoch)
    (passes : Passes crates services auth req prepared app) :
    (finishMessage crates services auth req prepared app).1 = .ok (.created, services.newId) ∧
      (finishMessage crates services auth req prepared app).2.storage.WellOrdered ∧
      ∀ groupId,
        commitEpochs crates
            (finishMessage crates services auth req prepared app).2.storage groupId =
          commitEpochs crates app.storage groupId ++
            (if req.groupId = groupId then [epoch] else []) := by
  have isCommit : prepared.kind = .commit := by
    by_contra other
    simp [commitEpoch, other] at isEpoch
  obtain ⟨message, transfer, checked⟩ := checkMessage_of_passes isCommit passes
  obtain ⟨signature, paymentPeer, rfl, -⟩ := checkMessage_ok checked
  obtain ⟨items, enveloped⟩ := passes.envelopes
  obtain ⟨group, kind, bytes, id, nonce, key⟩ := buildMessage_row crates services auth req
    prepared signature transfer paymentPeer
  have stored := app.storage.createMessage_of_accepts
    (buildMessage crates services auth req prepared signature transfer paymentPeer)
    (by rw [id, nonce, key]; exact passes.stored)
  have finished : finishMessage crates services auth req prepared app =
      storeMessage crates services req prepared
        (buildMessage crates services auth req prepared signature transfer paymentPeer)
        transfer app := by
    simp only [finishMessage, Async.bind_run, Async.get_run, check_run, checked]
  have orderedAfter : (app.storage.createMessage (buildMessage crates services auth req prepared
      signature transfer paymentPeer)).2.WellOrdered := ordered.createMessage _
  have settled := sameCommits_storeMessage crates services req prepared app _ transfer orderedAfter
  rw [finished]
  refine ⟨?_, settled.1, fun groupId => ?_⟩
  · simp only [storeMessage, stored, enveloped]
    exact congrArg (fun id => Outcome.ok (StatusCode.created, id)) id
  rw [settled.2, stored, commitEpochs_append ordered, group]
  congr 2
  rw [rowEpoch, kind, bytes, isEpoch]
  rfl

end Finish

/-! ## The invariant -/

/-- The commits stored and in flight are the accepted epochs, in order. -/
structure Agrees (crates : Crates) (state : State) : Prop where
  ordered : state.app.storage.WellOrdered
  epochs : ∀ groupId,
    commitEpochs crates state.app.storage groupId ++
        pendingEpochs crates state.inFlight groupId =
      List.range (state.app.mls.currentEpoch groupId)

theorem agrees_start (crates : Crates) : Agrees crates start where
  ordered := InMemoryStorage.wellOrdered_new
  epochs := fun _ => rfl

section Steps

variable {crates : Crates} {state : State}

/-- A write to the store that keeps the commits keeps the invariant. -/
theorem Agrees.of_sameCommits (agrees : Agrees crates state) {app : AppState}
    (mls : app.mls = state.app.mls)
    (same : SameCommits crates state.app.storage app.storage) :
    Agrees crates { state with app } where
  ordered := same.1
  epochs := fun groupId => by
    rw [same.2 groupId, mls]
    exact agrees.epochs groupId

theorem pendingEpochs_append (inFlight : List Pending) (pending : Pending) (groupId : String) :
    pendingEpochs crates (inFlight ++ [pending]) groupId =
      pendingEpochs crates inFlight groupId ++
        (if pending.req.groupId = groupId then (pending.epoch crates).toList else []) := by
  rw [pendingEpochs, List.filter_append, List.filterMap_append]
  congr 1
  exact filterMap_filter_singleton (·.req.groupId) (Pending.epoch crates) pending groupId

variable (crates) in
theorem pendingEpochs_eraseIdx {inFlight : List Pending} {index : Nat} {pending : Pending}
    (found : inFlight[index]? = some pending) (groupId : String) :
    pendingEpochs crates inFlight groupId =
        pendingEpochs crates (inFlight.take index) groupId ++
          (if pending.req.groupId = groupId then (pending.epoch crates).toList else []) ++
          pendingEpochs crates (inFlight.drop (index + 1)) groupId ∧
      pendingEpochs crates (inFlight.eraseIdx index) groupId =
        pendingEpochs crates (inFlight.take index) groupId ++
          pendingEpochs crates (inFlight.drop (index + 1)) groupId := by
  have splits (first second : List Pending) : pendingEpochs crates (first ++ second) groupId =
      pendingEpochs crates first groupId ++ pendingEpochs crates second groupId := by
    simp [pendingEpochs, List.filter_append, List.filterMap_append]
  obtain ⟨bound, isPending⟩ := List.getElem?_eq_some_iff.mp found
  have whole : inFlight = inFlight.take index ++ [pending] ++ inFlight.drop (index + 1) := by
    rw [← isPending, List.append_assoc, List.singleton_append, List.getElem_cons_drop,
      List.take_append_drop]
  constructor
  · rw [← pendingEpochs_append, ← splits]
    exact congrArg (pendingEpochs crates · groupId) whole
  · rw [List.eraseIdx_eq_take_drop_succ, splits]

section

variable (agrees : Agrees crates state)
include agrees

theorem agrees_begin (auth : AuthContext) (req : CreateMessageRequest) :
    Agrees crates (step crates state (.begin auth req)) := by
  rcases beginMessage_cases crates req state.app with
    ⟨reason, failed⟩ | ⟨prepared, passed, noEpoch⟩ | ⟨prepared, isEpoch, advanced⟩
  · simp only [step, failed]
    exact agrees
  · simp only [step, passed]
    refine ⟨agrees.ordered, fun groupId => ?_⟩
    rw [pendingEpochs_append]
    simp only [Pending.epoch, noEpoch, Option.toList_none, ite_self, List.append_nil]
    exact agrees.epochs groupId
  simp only [step, advanced]
  refine ⟨agrees.ordered, fun groupId => ?_⟩
  rw [pendingEpochs_append, ← List.append_assoc, agrees.epochs groupId]
  simp only [Pending.epoch, isEpoch, Option.toList_some, MlsStore.currentEpoch]
  by_cases same : req.groupId = groupId
  · subst same
    simp [List.range_succ]
  · have other : groupId ≠ req.groupId := Ne.symm same
    simp [same, other]

theorem agrees_finish (index : Nat) (services : Services)
    (good : Good crates state (.finish index services)) :
    Agrees crates (step crates state (.finish index services)) := by
  cases found : state.inFlight[index]? with
  | none =>
    simp only [step, found]
    exact agrees
  | some pending =>
    simp only [step, found]
    have erased := pendingEpochs_eraseIdx crates found
    cases isEpoch : pending.epoch crates with
    | none =>
      have same := sameCommits_finishMessage crates services pending.auth pending.req
        pending.prepared state.app agrees.ordered isEpoch
      refine ⟨same.1, fun groupId => ?_⟩
      have unchanged := agrees.epochs groupId
      rw [(erased groupId).1, isEpoch] at unchanged
      rw [same.2 groupId, finishMessage_mls, (erased groupId).2]
      simpa using unchanged
    | some epoch =>
      obtain ⟨passes, first⟩ := good pending epoch found isEpoch
      obtain ⟨-, ordered, stored⟩ := finishMessage_of_passes agrees.ordered isEpoch passes
      refine ⟨ordered, fun groupId => ?_⟩
      have unchanged := agrees.epochs groupId
      rw [(erased groupId).1, isEpoch] at unchanged
      rw [stored groupId, finishMessage_mls, (erased groupId).2]
      by_cases same : pending.req.groupId = groupId
      · subst same
        rw [first] at unchanged ⊢
        simpa using unchanged
      · simpa [same] using unchanged

theorem agrees_abort (index : Nat) (good : Good crates state (.abort index)) :
    Agrees crates (step crates state (.abort index)) := by
  cases found : state.inFlight[index]? with
  | none =>
    have outOfRange : state.inFlight.length ≤ index := List.getElem?_eq_none_iff.mp found
    simp only [step, List.eraseIdx_of_length_le outOfRange]
    exact agrees
  | some pending =>
    refine ⟨agrees.ordered, fun groupId => ?_⟩
    have erased := pendingEpochs_eraseIdx crates found groupId
    have unchanged := agrees.epochs groupId
    rw [erased.1, good pending found] at unchanged
    simp only [step, erased.2]
    simpa using unchanged

theorem agrees_put (now : Timestamp) (auth : AuthContext) (req : UpdateMessageRequest)
    (good : Good crates state (.put now auth req)) :
    Agrees crates (step crates state (.put now auth req)) := by
  simp only [step, updateMessage]
  split
  · exact agrees
  next encryptedMsg nonce attachments signature _ =>
  have same := sameCommits_updateMessage crates agrees.ordered now req.messageId
    good encryptedMsg nonce req.keyVersion attachments signature req.signatureVersion
    auth.storedPublicKey
  split <;> next ran =>
    rw [ran] at same
    exact agrees.of_sameCommits rfl same

theorem agrees_delete (now : Timestamp) (auth : AuthContext) (id : Uuid) :
    Agrees crates (step crates state (.delete now auth id)) := by
  simp only [step, deleteMessage]
  split
  · exact agrees
  have same : SameCommits crates state.app.storage (state.app.storage.deleteMessage now id).2 :=
    sameCommits_changeRow agrees.ordered id (fun _ => rfl) (fun _ => rfl) fun _ => rfl
  split <;> next ran =>
    rw [ran] at same
    exact agrees.of_sameCommits rfl same

end

theorem agrees_step (state : State) (input : Input) (agrees : Agrees crates state)
    (good : Good crates state input) : Agrees crates (step crates state input) := by
  cases input with
  | begin auth req => exact agrees_begin agrees auth req
  | finish index services => exact agrees_finish agrees index services good
  | abort index => exact agrees_abort agrees index good
  | put now auth req => exact agrees_put agrees now auth req good
  | delete now auth id => exact agrees_delete agrees now auth id
  | system =>
    refine agrees.of_sameCommits rfl (sameCommits_createMessage agrees.ordered ?_)
    simp [rowEpoch, commitEpoch, Message.newSystem]
  | archive now id =>
    exact agrees.of_sameCommits rfl
      (sameCommits_changeRow agrees.ordered id (fun _ => rfl) (fun _ => rfl) fun _ => rfl)
  | payment now id patch allowed =>
    exact agrees.of_sameCommits rfl (sameCommits_patchMetadata agrees.ordered now id patch allowed)
  | membership => exact agrees.of_sameCommits rfl ⟨agrees.ordered, fun _ => rfl⟩
  | poison =>
    exact agrees.of_sameCommits rfl (sameCommits_of_messages agrees.ordered
      ⟨agrees.ordered.increasing, agrees.ordered.bounded⟩ rfl)

end Steps

/-! ## The run theorem -/

def reached (crates : Crates) (inputs : List Input) : State := inputs.foldl (step crates) start

/-- **The log agrees with the accepted epochs.**  In every run whose steps meet the condition:
the commits stored and in flight are the accepted epochs in order; so when no commit call
of a group is in flight, its commit rows carry `0, …, currentEpoch - 1`; a call that ends
in an error has not advanced an epoch; and a whole call that does, leaves every epoch as it
was, provided it passes the later checks if it passes the epoch check. -/
theorem good_run_log_agrees (crates : Crates) (inputs : List Input)
    (good : Along (step crates) (Good crates) start inputs) :
    (∀ groupId,
      commitEpochs crates (reached crates inputs).app.storage groupId ++
          pendingEpochs crates (reached crates inputs).inFlight groupId =
        List.range ((reached crates inputs).app.mls.currentEpoch groupId)) ∧
    (∀ groupId, pendingEpochs crates (reached crates inputs).inFlight groupId = [] →
      commitEpochs crates (reached crates inputs).app.storage groupId =
          List.range ((reached crates inputs).app.mls.currentEpoch groupId) ∧
        (commitEpochs crates (reached crates inputs).app.storage groupId).length =
          (reached crates inputs).app.mls.currentEpoch groupId) ∧
    (∀ before index services after pending,
      inputs = before ++ .finish index services :: after →
      (reached crates before).inFlight[index]? = some pending →
      ∀ reason app,
        finishMessage crates services pending.auth pending.req pending.prepared
          (reached crates before).app = (.error reason, app) →
        pending.epoch crates = none ∧ app.mls = (reached crates before).app.mls) ∧
    (∀ services auth req,
      (∀ prepared app epoch,
        beginMessage crates req (reached crates inputs).app = (.ok prepared, app) →
        commitEpoch crates prepared.kind prepared.encryptedMsg = some epoch →
        Passes crates services auth req prepared app) →
      ∀ reason app,
        createMessage crates services auth req (reached crates inputs).app = (.error reason, app) →
        app.mls = (reached crates inputs).app.mls) := by
  have agrees : Agrees crates (reached crates inputs) :=
    good.invariant agrees_step (agrees_start crates)
  refine ⟨agrees.epochs, fun groupId noneInFlight => ?_, ?_, ?_⟩
  · have epochs := agrees.epochs groupId
    rw [noneInFlight, List.append_nil] at epochs
    exact ⟨epochs, by rw [epochs, List.length_range]⟩
  · rintro before index services after pending rfl found reason app failed
    obtain ⟨agreesBefore, goodStep⟩ := good.at_step agrees_step (agrees_start crates)
    have mls := finishMessage_mls crates services pending.auth pending.req pending.prepared
      (reached crates before).app
    rw [failed] at mls
    refine ⟨?_, mls⟩
    cases isEpoch : pending.epoch crates with
    | none => rfl
    | some epoch =>
      obtain ⟨passes, -⟩ := goodStep pending epoch found isEpoch
      have succeeded := (finishMessage_of_passes agreesBefore.ordered isEpoch passes).1
      change (finishMessage crates services pending.auth pending.req pending.prepared
        (reached crates before).app).1 = _ at succeeded
      cases failed ▸ succeeded
  intro services auth req passes reason app failed
  simp only [createMessage, Async.bind_run] at failed
  rcases beginMessage_cases crates req (reached crates inputs).app with
    ⟨early, began⟩ | ⟨prepared, began, -⟩ | ⟨prepared, isEpoch, began⟩
  · cases began ▸ failed
    rfl
  · rw [began] at failed
    have mls := finishMessage_mls crates services auth req prepared (reached crates inputs).app
    simp only [failed] at mls
    exact mls
  have passed := passes prepared _ _ began isEpoch
  rw [began] at failed
  simp only at failed
  have succeeded := (finishMessage_of_passes (by exact agrees.ordered) isEpoch passed).1
  cases failed ▸ succeeded

/-! ### A commit of group `g` -/

/-- An MLS header parser for private messages of one-byte group names: version and wire
format, group, epoch, content type, then three empty fields. -/
def sampleInspect : Bytes → Option MessageInfo
  | [0, 1, 0, 2, 1, group, 0, 0, 0, 0, 0, 0, 0, epoch, 3, 0, 0, 0] =>
    some (.commit [group] epoch.toNat)
  | _ => none

/-- A signature is 64 times the byte 1. -/
def sampleCrates : Crates where
  inspect := sampleInspect
  verifySignature := fun _ signature _ _ =>
    if signature = List.replicate 64 1 then .ok () else .error "invalid signature"
  decodeBase64 := fun _ => none
  parseUuid := fun _ => none
  uuidToString := fun _ => ""

/-- Neither blocks nor paid messaging. -/
def sampleServices : Services where
  now := 0
  newId := 7
  verifyAgentAttribution := fun _ _ _ => .ok ()
  blockCheckEnabled := false
  checkEitherBlocked := fun _ _ => .ok false
  messageGateEnabled := false
  isFollowing := fun _ _ => .ok false
  paidPolicy := fun _ => .ok none
  paymentExpirationMs := 0
  minReplyChars := 0

def sampleAuth : AuthContext where
  senderAddress := "0xa"
  publicKey := [1]
  scheme := .ed25519
  authorizedGroup := some "g"
  zklogin := false

def sampleCommit (signatureByte : List Char) : CreateMessageRequest where
  groupId := "g"
  encryptedText := "000100020167000000000000000003000000"
  nonce := "000000000000000000000000"
  keyVersion := 0
  senderAddress := "0xa"
  messageSignature := String.ofList (List.replicate 64 signatureByte).flatten
  kind := some "commit"

/-- A commit whose signature verifies is posted from start to end. -/
def sampleInputs : List Input :=
  [.begin sampleAuth (sampleCommit ['0', '1']), .finish 0 sampleServices]

theorem good_run_log_agrees_sample :
    Along (step sampleCrates) (Good sampleCrates) start sampleInputs ∧
      commitEpochs sampleCrates (reached sampleCrates sampleInputs).app.storage "g" = [0] := by
  have good : Along (step sampleCrates) (Good sampleCrates) start sampleInputs := by
    refine ⟨trivial, ?_, trivial⟩
    intro pending epoch found isEpoch
    cases found
    refine ⟨⟨rfl, ⟨List.replicate 64 1, by decide +kernel⟩, rfl, rfl, rfl, ⟨[], rfl⟩, ?_⟩, rfl⟩
    exact
      { healthy := fun _ => rfl
        freshId := fun row present => nomatch present
        freshKey := fun _ row present => nomatch present
        freshNonce := List.not_mem_nil }
  have epochOne : (reached sampleCrates sampleInputs).app.mls.currentEpoch "g" = 1 := by
    decide +kernel
  have agrees := ((good_run_log_agrees sampleCrates sampleInputs good).2.1 "g" rfl).1
  rw [epochOne] at agrees
  exact ⟨good, agrees⟩

/-- The same commit with a signature that does not verify is answered with an error, but the
group is at epoch 1 and its log has no commit. -/
theorem bad_signature_advances_epoch :
    (createMessage sampleCrates sampleServices sampleAuth (sampleCommit ['0', '2'])
        start.app).1 =
        .error (.badRequest "Message signature verification failed: invalid signature") ∧
      (createMessage sampleCrates sampleServices sampleAuth (sampleCommit ['0', '2'])
        start.app).2.mls.currentEpoch "g" = 1 ∧
      commitEpochs sampleCrates
        (createMessage sampleCrates sampleServices sampleAuth (sampleCommit ['0', '2'])
          start.app).2.storage "g" = [] ∧
      start.app.mls.currentEpoch "g" = 0 := by
  decide +kernel

end MessagingStack.Relayer.CommitLog

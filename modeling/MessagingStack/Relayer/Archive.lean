import Mathlib.Data.List.Pairwise
import MessagingStack.Relayer.CommitLog

/-!
# The archive worker beside the handlers

Rows of the message log are copied to a durable archive by a background worker
(`archive/sync.rs`).  It goes through three workflows in turn — new rows, edited rows,
tombstones — and in each reads a batch of rows by their `sync_status`, uploads the batch,
and marks each row the backend acknowledged with the status fixed for the workflow.  The
handlers that edit and delete rows, and the payment services, write the same field.

`step_rows` says once what a step can do to the rows of the log.
-/

namespace MessagingStack.Relayer.Archive

/-! ## The worker -/

/-- The three workflows of the worker, in the order of a cycle. -/
inductive Workflow where
  | pending
  | updated
  | deleted
  deriving DecidableEq

def Workflow.fromStatus : Workflow → SyncStatus
  | .pending => .syncPending
  | .updated => .updatePending
  | .deleted => .deletePending

def Workflow.toStatus : Workflow → SyncStatus
  | .pending => .synced
  | .updated => .updated
  | .deleted => .deleted

def Workflow.next : Workflow → Workflow
  | .pending => .updated
  | .updated => .deleted
  | .deleted => .pending

/-- Where the worker stands.  `readAt` is the number of edits stored when the batch was
read. -/
inductive Worker where
  | idle (next : Workflow)
  | uploading (workflow : Workflow) (readAt : Nat) (messages : List Message)
  | marking (workflow : Workflow) (readAt : Nat) (results : List (Uuid × String))

/-- A mark the worker is about to make. -/
structure Mark where
  workflow : Workflow
  readAt : Nat
  id : Uuid

def Worker.nextMark : Worker → Option Mark
  | .marking workflow readAt ((id, _) :: _) => some { workflow, readAt, id }
  | _ => none

/-- What became of one item of an upload. -/
inductive Landing where
  | missing
  /-- Stored, but not in the answer the worker gets. -/
  | landed
  | acknowledged (archiveRef : String)
  deriving DecidableEq

/-- The payload of a row: the row, with the status it is about to get. -/
def payload (workflow : Workflow) (message : Message) : Message :=
  { message with syncStatus := workflow.toStatus }

/-- The payloads of a batch that reach the archive. -/
def landedPayloads (workflow : Workflow) (messages : List Message) (landings : List Landing) :
    List Message :=
  ((messages.zip landings).filter (·.2 ≠ .missing)).map fun item => payload workflow item.1

def batchResults (messages : List Message) (landings : List Landing) :
    List (Uuid × String) :=
  (messages.zip landings).filterMap fun item =>
    match item.2 with
    | .acknowledged archiveRef => some (item.1.id, archiveRef)
    | _ => none

/-- An acknowledged item was uploaded. -/
theorem mem_batchResults (workflow : Workflow) {messages : List Message}
    {landings : List Landing} {result : Uuid × String}
    (isResult : result ∈ batchResults messages landings) :
    ∃ message ∈ messages, message.id = result.1 ∧
      payload workflow message ∈ landedPayloads workflow messages landings := by
  obtain ⟨⟨message, landing⟩, isItem, made⟩ := List.mem_filterMap.mp isResult
  cases landing with
  | acknowledged =>
    cases made
    refine ⟨message, (List.of_mem_zip isItem).1, rfl, ?_⟩
    exact List.mem_map.mpr ⟨_, List.mem_filter.mpr ⟨isItem, by simp⟩, rfl⟩
  | landed | missing => cases made

theorem batch_of_read {storage : InMemoryStorage} {status : SyncStatus} {limit : Nat}
    {messages : List Message}
    (read : storage.getMessagesBySyncStatus status limit = .ok messages) :
    messages.Sublist storage.messages ∧ ∀ message ∈ messages, message.syncStatus = status := by
  have batch : messages = (storage.messages.filter (·.syncStatus == status)).take limit := by
    unfold InMemoryStorage.getMessagesBySyncStatus at read
    split at read
    · cases read
    · exact (Except.ok.inj read).symm
  rw [batch]
  refine ⟨(List.take_sublist _ _).trans List.filter_sublist, fun message isMessage => ?_⟩
  simpa using (List.mem_filter.mp (List.mem_of_mem_take isMessage)).2

/-! ## Requests in flight -/

/-- A storage call a handler has decided on and not made yet. -/
inductive Write where
  | create (message : Message)
  | update (id : Uuid) (encryptedMsg nonce : Bytes) (keyVersion : Int)
      (attachments : List Attachment) (signature : Bytes) (signatureVersion : Int)
      (publicKey : Bytes)
  | delete (id : Uuid)

/-- The row an edit replaces and the nonce it brings. -/
def Write.edit : Write → Option (Uuid × Bytes)
  | .update id _ nonce _ _ _ _ _ => some (id, nonce)
  | _ => none

/-- The relayer, its requests in flight, the worker and the archive.  `edits` are the rows
whose content has been replaced, once for each edit. -/
structure State where
  app : AppState
  writes : List Write
  worker : Worker
  uploads : List Message
  edits : List Uuid

/-- A relayer that has just started. -/
def start : State where
  app := { storage := .new, mls := .new, membershipStore := .new }
  writes := []
  worker := .idle .pending
  uploads := []
  edits := []

def State.rows (state : State) : List Message := state.app.storage.messages

def State.withStorage (state : State) (storage : InMemoryStorage) : State :=
  { state with app := { state.app with storage } }

/-- What can happen next. -/
inductive Input where
  /-- A `POST /messages` up to its storage call. -/
  | post (services : Services) (auth : AuthContext) (req : CreateMessageRequest)
  /-- The checks of a `PUT /messages`. -/
  | put (auth : AuthContext) (req : UpdateMessageRequest)
  /-- The checks of a `DELETE /messages/:message_id`. -/
  | delete (auth : AuthContext) (id : Uuid)
  /-- The storage call of the request at this place in flight. -/
  | perform (index : Nat) (now : Timestamp)
  /-- The client of that request disconnects. -/
  | abandon (index : Nat)
  /-- Membership sync writes a system row. -/
  | system (blake2b512 : Bytes → Bytes) (id : Uuid) (groupId member : String)
      (systemType : SystemType) (actor : Option String) (key : String) (createdAt : Timestamp)
  | payment (now : Timestamp) (id : Uuid) (patch : Json) (allowedFromStatus : List String)
  | readBatch (limit : Nat)
  | upload (failed : Bool) (landings : List Landing)
  /-- The worker marks the next row of its results. -/
  | mark (now : Timestamp)
  /-- The relayer restarts over its store. -/
  | restart

/-- Put a storage call in flight. -/
def State.await (state : State) (write : Write) : State :=
  { state with writes := state.writes ++ [write] }

/-- Make a storage call; a successful edit is noted. -/
def State.performWrite (state : State) (now : Timestamp) : Write → State
  | .create message => state.withStorage (state.app.storage.createMessage message).2
  | .update id encryptedMsg nonce keyVersion attachments signature signatureVersion
      publicKey =>
    match state.app.storage.updateMessage now id encryptedMsg nonce keyVersion attachments
        signature signatureVersion publicKey with
    | (.ok _, storage) => { state.withStorage storage with edits := state.edits ++ [id] }
    | (.error _, storage) => state.withStorage storage
  | .delete id => state.withStorage (state.app.storage.deleteMessage now id).2

def State.uploadBatch (state : State) (workflow : Workflow) (readAt : Nat)
    (messages : List Message) (failed : Bool) (landings : List Landing) : State :=
  { state with
    uploads := state.uploads ++ landedPayloads workflow messages landings
    worker :=
      if failed then .idle workflow.next
      else .marking workflow readAt (batchResults messages landings) }

def State.checkPost (state : State) (crates : Crates) (services : Services)
    (auth : AuthContext) (req : CreateMessageRequest) (prepared : PreparedMessage) : State :=
  match checkMessage crates services auth req prepared state.app with
  | .ok (message, _) => state.await (.create message)
  | .error _ => state

/-- One step; one that is not enabled changes nothing. -/
def step (crates : Crates) (state : State) : Input → State
  | .post services auth req =>
    match beginMessage crates req state.app with
    | (.ok prepared, app) => State.checkPost { state with app } crates services auth req prepared
    | (_, app) => { state with app }
  | .put auth req =>
    match checkUpdate crates auth req state.app with
    | .ok (encryptedMsg, nonce, attachments, signature) =>
      state.await (.update req.messageId encryptedMsg nonce req.keyVersion attachments signature
        req.signatureVersion auth.storedPublicKey)
    | .error _ => state
  | .delete auth id =>
    match checkDelete crates auth id state.app with
    | .ok _ => state.await (.delete id)
    | .error _ => state
  | .perform index now =>
    match state.writes[index]? with
    | some write => { state with writes := state.writes.eraseIdx index }.performWrite now write
    | none => state
  | .abandon index => { state with writes := state.writes.eraseIdx index }
  | .system blake2b512 id groupId member systemType actor key createdAt =>
    state.withStorage (state.app.storage.createMessage
      (.newSystem blake2b512 id groupId member systemType actor key createdAt)).2
  | .payment now id patch allowedFromStatus =>
    state.withStorage (state.app.storage.updateMessageMetadataTrusted now id patch
      allowedFromStatus).2
  | .readBatch limit =>
    match state.worker with
    | .idle workflow =>
      match state.app.storage.getMessagesBySyncStatus workflow.fromStatus limit with
      | .ok (message :: messages) =>
        { state with
          worker := .uploading workflow state.edits.length (message :: messages) }
      | _ => { state with worker := .idle workflow.next }
    | _ => state
  | .upload failed landings =>
    match state.worker with
    | .uploading workflow readAt messages =>
      state.uploadBatch workflow readAt messages failed landings
    | _ => state
  | .mark now =>
    match state.worker with
    | .marking workflow readAt ((id, archiveRef) :: results) =>
      { state.withStorage (state.app.storage.updateSyncStatus now id workflow.toStatus
          (some archiveRef)).2 with worker := .marking workflow readAt results }
    | .marking workflow _ [] => { state with worker := .idle workflow.next }
    | _ => state
  | .restart => { state with writes := [], worker := .idle .pending }

/-! ## What a step does to the rows -/

/-- The ways a row is changed. -/
inductive RowChange where
  | edit (now : Timestamp) (encryptedMsg nonce : Bytes) (keyVersion : Int)
      (attachments : List Attachment) (signature : Bytes) (signatureVersion : Int)
      (publicKey : Bytes)
  | delete (now : Timestamp)
  | payment (now : Timestamp) (patch : Json)
  | mark (now : Timestamp) (status : SyncStatus) (archiveRef : String)

def RowChange.apply : RowChange → Message → Message
  | .edit now encryptedMsg nonce keyVersion attachments signature signatureVersion publicKey,
      row =>
    row.updateContent now encryptedMsg nonce keyVersion attachments signature signatureVersion
      publicKey
  | .delete now, row => row.markForDeletion now
  | .payment now patch, row => InMemoryStorage.patchMetadata now patch row
  | .mark now status archiveRef, row =>
    { row with syncStatus := status, updatedAt := now, quiltPatchId := some archiveRef }

theorem RowChange.apply_id (change : RowChange) (row : Message) :
    (change.apply row).id = row.id := by
  cases change <;> rfl

def changeRows (rows : List Message) (id : Uuid) (change : RowChange) : List Message :=
  rows.map fun row => if row.id == id then change.apply row else row

theorem mem_changeRows {rows : List Message} {id : Uuid} {change : RowChange} {row : Message} :
    row ∈ changeRows rows id change ↔
      ∃ old ∈ rows, row = if old.id = id then change.apply old else old := by
  simp only [changeRows, List.mem_map, beq_iff_eq]
  exact exists_congr fun old => and_congr_right fun _ => eq_comm

theorem of_mem_changeRows {rows : List Message} {id : Uuid} {change : RowChange}
    {row : Message} (present : row ∈ changeRows rows id change) :
    ∃ old ∈ rows, old.id = row.id ∧
      (row.id = id ∧ row = change.apply old ∨ row.id ≠ id ∧ row = old) := by
  obtain ⟨old, isOld, rfl⟩ := mem_changeRows.mp present
  refine ⟨old, isOld, ?_⟩
  split
  · next same => exact ⟨(change.apply_id old).symm, .inl ⟨(change.apply_id old).trans same, rfl⟩⟩
  · next other => exact ⟨rfl, .inr ⟨other, rfl⟩⟩

theorem eq_of_nodup_filterMap {α β : Type} {f : α → Option β} {items : List α}
    (distinct : (items.filterMap f).Nodup) {first second : α} {value : β}
    (isFirst : first ∈ items) (isSecond : second ∈ items) (fromFirst : f first = some value)
    (fromSecond : f second = some value) : first = second := by
  have apart := List.pairwise_filterMap.mp distinct
  have symmetric : Std.Symm fun left right : α =>
      ∀ value, f left = some value → ∀ other, f right = some other → value ≠ other :=
    ⟨fun _ _ less value isValue other isOther same => less other isOther value isValue same.symm⟩
  by_contra different
  exact apart.forall isFirst isSecond different value fromFirst value fromSecond rfl

theorem nodup_changeRows {rows : List Message} (id : Uuid) (change : RowChange)
    (distinct : (rows.map (·.id)).Nodup) : ((changeRows rows id change).map (·.id)).Nodup := by
  have same : (changeRows rows id change).map (·.id) = rows.map (·.id) := by
    rw [changeRows, List.map_map]
    refine List.map_congr_left fun row _ => ?_
    simp only [Function.comp_apply]
    split
    · exact change.apply_id row
    · rfl
  rw [same]
  exact distinct

section Storage

variable (storage : InMemoryStorage)

theorem createMessage_rows (message : Message) :
    (storage.createMessage message).2.messages = storage.messages ∨
    ((∀ row ∈ storage.messages, row.id ≠ message.id) ∧
      ∃ order, (storage.createMessage message).2.messages =
        storage.messages ++ [message.setOrder order]) := by
  rcases storage.createMessage_cases message with ⟨_, same | consumed⟩ | ⟨fresh, -, stored⟩
  · exact .inl (by rw [same])
  · exact .inl (by rw [consumed]; rfl)
  · exact .inr ⟨fresh, _, by rw [stored]⟩

variable (now : Timestamp) (id : Uuid)

theorem updateMessage_rows (encryptedMsg nonce : Bytes) (keyVersion : Int)
    (attachments : List Attachment) (signature : Bytes) (signatureVersion : Int) (publicKey : Bytes)
    :
    ((∃ reason, storage.updateMessage now id encryptedMsg nonce keyVersion attachments signature
        signatureVersion publicKey = (.error reason, storage))) ∨
    ∃ row after, row ∈ storage.messages ∧ row.id = id ∧
      ¬(row.nonce ≠ nonce ∧ nonce ∈ storage.nonces) ∧
      (storage.updateMessage now id encryptedMsg nonce keyVersion attachments signature
        signatureVersion publicKey).1 = .ok after ∧
      (storage.updateMessage now id encryptedMsg nonce keyVersion attachments signature
        signatureVersion publicKey).2.messages =
        changeRows storage.messages id (.edit now encryptedMsg nonce keyVersion attachments
          signature signatureVersion publicKey) := by
  unfold InMemoryStorage.updateMessage
  rcases found : storage.getMessage id with reason | message
  · exact .inl ⟨reason, rfl⟩
  dsimp only
  split_ifs with poisoned taken
  · exact .inl ⟨_, rfl⟩
  · exact .inl ⟨_, rfl⟩
  · obtain ⟨present, isId⟩ := InMemoryStorage.getMessage_ok found
    exact .inr ⟨message, _, present, isId, taken, rfl, rfl⟩

theorem changeRow_rows (change : RowChange) :
    (storage.changeRow id change.apply).2.messages = storage.messages ∨
      (storage.changeRow id change.apply).2.messages = changeRows storage.messages id change := by
  unfold InMemoryStorage.changeRow
  split
  · exact .inl rfl
  · exact .inr rfl

theorem deleteMessage_rows :
    (storage.deleteMessage now id).2.messages = storage.messages ∨
      (storage.deleteMessage now id).2.messages = changeRows storage.messages id (.delete now) :=
  changeRow_rows storage id (.delete now)

theorem updateSyncStatus_rows (status : SyncStatus) (archiveRef : String) :
    (storage.updateSyncStatus now id status (some archiveRef)).2.messages = storage.messages ∨
      (storage.updateSyncStatus now id status (some archiveRef)).2.messages =
        changeRows storage.messages id (.mark now status archiveRef) :=
  changeRow_rows storage id (.mark now status archiveRef)

theorem updateMessageMetadataTrusted_rows (patch : Json) (allowedFromStatus : List String) :
    (storage.updateMessageMetadataTrusted now id patch allowedFromStatus).2.messages =
        storage.messages ∨
      (storage.updateMessageMetadataTrusted now id patch allowedFromStatus).2.messages =
        changeRows storage.messages id (.payment now patch) := by
  unfold InMemoryStorage.updateMessageMetadataTrusted
  split
  · exact .inl rfl
  split_ifs
  · exact .inl rfl
  · exact .inl rfl
  · exact .inr rfl

end Storage

/-- What made a step change a row: an edit in flight that is not refused for its nonce, a
mark the worker makes, or one of the other writers. -/
def Causes (state : State) (input : Input) (id : Uuid) : RowChange → Prop
  | .edit now encryptedMsg nonce keyVersion attachments signature signatureVersion publicKey =>
    ∃ index, input = .perform index now ∧
      state.writes[index]? = some (.update id encryptedMsg nonce keyVersion attachments signature
        signatureVersion publicKey) ∧
      ∃ row ∈ state.rows, row.id = id ∧ ¬(row.nonce ≠ nonce ∧ nonce ∈ state.app.storage.nonces)
  | .mark now status archiveRef =>
    ∃ workflow readAt results, input = .mark now ∧
      state.worker = .marking workflow readAt ((id, archiveRef) :: results) ∧
      status = workflow.toStatus
  | _ => True

theorem beginMessage_storage (crates : Crates) (req : CreateMessageRequest) (app : AppState) :
    (beginMessage crates req app).2.storage = app.storage := by
  rcases CommitLog.beginMessage_cases crates req app with
    ⟨_, same⟩ | ⟨_, same, -⟩ | ⟨_, -, same⟩ <;> rw [same]

theorem checkPost_rows (state : State) (crates : Crates) (services : Services)
    (auth : AuthContext) (req : CreateMessageRequest) (prepared : PreparedMessage) :
    (state.checkPost crates services auth req prepared).rows = state.rows := by
  unfold State.checkPost
  split <;> rfl

theorem step_rows (crates : Crates) (state : State) (input : Input) :
    (step crates state input).rows = state.rows ∨
    (∃ message, (∀ row ∈ state.rows, row.id ≠ message.id) ∧
      (step crates state input).rows = state.rows ++ [message]) ∨
    (∃ id change, Causes state input id change ∧
      (step crates state input).rows = changeRows state.rows id change) := by
  have created : ∀ message : Message,
      (state.app.storage.createMessage message).2.messages = state.rows ∨
      ∃ stored : Message, (∀ row ∈ state.rows, row.id ≠ stored.id) ∧
        (state.app.storage.createMessage message).2.messages = state.rows ++ [stored] := by
    intro message
    rcases createMessage_rows state.app.storage message with same | ⟨fresh, order, stored⟩
    · exact .inl same
    · exact .inr ⟨message.setOrder order, fresh, stored⟩
  cases input with
  | post services auth req =>
    refine .inl ?_
    have storage := beginMessage_storage crates req state.app
    simp only [step]
    rcases began : beginMessage crates req state.app with ⟨outcome, app⟩
    rw [began] at storage
    cases outcome with
    | ok prepared =>
      refine (checkPost_rows _ crates services auth req prepared).trans ?_
      exact congrArg InMemoryStorage.messages storage
    | _ => exact congrArg InMemoryStorage.messages storage
  | put | delete | upload =>
    refine .inl ?_
    simp only [step]
    split <;> rfl
  | perform index now =>
    simp only [step]
    cases awaited : state.writes[index]? with
    | none => exact .inl rfl
    | some write =>
      cases write with
      | create message =>
        rcases created message with same | added
        · exact .inl same
        · exact .inr (.inl added)
      | update id encryptedMsg nonce keyVersion attachments signature signatureVersion publicKey =>
        simp only [State.performWrite]
        rcases updateMessage_rows state.app.storage now id encryptedMsg nonce keyVersion
          attachments signature signatureVersion publicKey with
          ⟨reason, refused⟩ | ⟨row, after, present, isId, free, returned, rows⟩
        · rw [refused]
          exact .inl rfl
        refine .inr (.inr ⟨id, .edit now encryptedMsg nonce keyVersion attachments signature
          signatureVersion publicKey, ⟨index, rfl, awaited, row, present, isId, free⟩, ?_⟩)
        rcases made : state.app.storage.updateMessage now id encryptedMsg nonce keyVersion
          attachments signature signatureVersion publicKey with ⟨outcome, storage⟩
        rw [made] at returned rows
        simp only at returned
        subst returned
        exact rows
      | delete id =>
        rcases deleteMessage_rows state.app.storage now id with same | changed
        · exact .inl same
        · exact .inr (.inr ⟨id, .delete now, trivial, changed⟩)
  | abandon | restart => exact .inl rfl
  | system blake2b512 id groupId member systemType actor key createdAt =>
    rcases created (.newSystem blake2b512 id groupId member systemType actor key createdAt) with
      same | added
    · exact .inl same
    · exact .inr (.inl added)
  | payment now id patch allowedFromStatus =>
    rcases updateMessageMetadataTrusted_rows state.app.storage now id patch allowedFromStatus with
      same | changed
    · exact .inl same
    · exact .inr (.inr ⟨id, .payment now patch, trivial, changed⟩)
  | readBatch =>
    refine .inl ?_
    simp only [step]
    repeat' split
    all_goals rfl
  | mark now =>
    simp only [step]
    split
    · next workflow readAt id archiveRef results isMarking =>
      rcases updateSyncStatus_rows state.app.storage now id workflow.toStatus archiveRef with
        same | changed
      · exact .inl same
      · exact .inr (.inr ⟨id, .mark now workflow.toStatus archiveRef,
          ⟨workflow, readAt, results, rfl, isMarking, rfl⟩, changed⟩)
    · exact .inl rfl
    · exact .inl rfl

end MessagingStack.Relayer.Archive

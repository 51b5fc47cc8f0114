import MessagingStack.Relayer.Deletion

/-!
# Does the archive have what a row says it has?

A row with a done status is never read into a batch again, so the last payload that the worker
uploaded for it ought to be its content.  An edit between the read of the batch and the mark of its
row is lost (`edit_lost_to_archive`); when every mark falls on a row that has not been edited since,
each settled row is in the archive as it is (`archive_has_content`).
-/

namespace MessagingStack.Relayer.Archive

/-! ## What is archived -/

/-- The statuses the worker gives. -/
def isSettled (row : Message) : Bool :=
  row.syncStatus == .synced || row.syncStatus == .updated || row.syncStatus == .deleted

/-- Ciphertext, nonce and attachments. -/
def content (row : Message) : Bytes × Bytes × List Attachment :=
  (row.encryptedMsg, row.nonce, row.attachments)

def lastPayload (uploads : List Message) (id : Uuid) : Option Message :=
  uploads.reverse.find? (·.id == id)

/-- **The archive is up to date**: of each client row that counts as archived it has the
current ciphertext, nonce and attachments and the current deletion state. -/
def UpToDate (state : State) : Prop :=
  ∀ row ∈ state.rows, row.isSystem = false → isSettled row = true →
    ∃ uploaded, lastPayload state.uploads row.id = some uploaded ∧
      content uploaded = content row ∧ uploaded.isDeleted = row.isDeleted

/-- The row the worker marks has not been edited since its batch was read. -/
def NoLostEdit (state : State) : Input → Prop
  | .mark _ => ∀ mark ∈ state.worker.nextMark, mark.id ∉ state.edits.drop mark.readAt
  | _ => True

instance (state : State) : (input : Input) → Decidable (NoLostEdit state input)
  | .mark .. => inferInstanceAs (Decidable (∀ _ ∈ _, _))
  | .post .. | .put .. | .delete .. | .perform .. | .abandon .. | .system .. | .payment ..
  | .readBatch .. | .upload .. | .restart => .isTrue trivial

theorem lastPayload_id {uploads : List Message} {id : Uuid} {uploaded : Message}
    (found : lastPayload uploads id = some uploaded) : uploaded.id = id := by
  simpa using List.find?_some found

theorem lastPayload_append_of_ne {uploads more : List Message} {id : Uuid}
    (others : ∀ uploaded ∈ more, uploaded.id ≠ id) :
    lastPayload (uploads ++ more) id = lastPayload uploads id := by
  have none : more.reverse.find? (·.id == id) = none := by
    rw [List.find?_eq_none]
    intro uploaded isUploaded
    simpa using others uploaded (List.mem_reverse.mp isUploaded)
  rw [lastPayload, List.reverse_append, List.find?_append, none, Option.none_or]
  rfl

theorem lastPayload_append_of_mem {uploads more : List Message} {uploaded : Message}
    (distinct : (more.map (·.id)).Nodup) (isUploaded : uploaded ∈ more) :
    lastPayload (uploads ++ more) uploaded.id = some uploaded := by
  have found : more.reverse.find? (·.id == uploaded.id) = some uploaded := by
    cases result : more.reverse.find? (·.id == uploaded.id) with
    | none =>
      have missed := List.find?_eq_none.mp result uploaded (List.mem_reverse.mpr isUploaded)
      simp at missed
    | some other =>
      have isOther := List.mem_reverse.mp (List.mem_of_find?_eq_some result)
      have sameId : other.id = uploaded.id := by simpa using List.find?_some result
      rw [List.inj_on_of_nodup_map distinct isOther isUploaded sameId]
  rw [lastPayload, List.reverse_append, List.find?_append, found, Option.some_or]

/-! ## Rows in the worker's hands -/

/-- A message the worker has a snapshot of: its row is not settled, and the snapshot is
current unless the row has been edited since. -/
structure InHand (rows : List Message) (edits : List Uuid) (readAt : Nat)
    (snapshot : Message) : Prop where
  present : ∃ row ∈ rows, row.id = snapshot.id
  unsettled : ∀ row ∈ rows, row.id = snapshot.id → isSettled row = false
  current : snapshot.id ∉ edits.drop readAt →
    ∀ row ∈ rows, row.id = snapshot.id → content snapshot = content row

/-- What the worker has in its hands, in each of its phases. -/
def Tracks (rows uploads : List Message) (edits : List Uuid) : Worker → Prop
  | .idle _ => True
  | .uploading _ readAt messages =>
    readAt ≤ edits.length ∧ (messages.map (·.id)).Nodup ∧
      ∀ message ∈ messages, InHand rows edits readAt message
  | .marking workflow readAt results =>
    readAt ≤ edits.length ∧ (results.map Prod.fst).Nodup ∧
      ∀ result ∈ results, ∃ uploaded, lastPayload uploads result.1 = some uploaded ∧
        uploaded.syncStatus = workflow.toStatus ∧ InHand rows edits readAt uploaded

theorem Tracks.mono {rows rows' uploads : List Message} {edits edits' : List Uuid}
    {worker : Worker} (tracks : Tracks rows uploads edits worker)
    (longer : edits.length ≤ edits'.length)
    (kept : ∀ readAt snapshot, readAt ≤ edits.length → InHand rows edits readAt snapshot →
      InHand rows' edits' readAt snapshot) :
    Tracks rows' uploads edits' worker := by
  cases worker with
  | idle => trivial
  | uploading workflow readAt =>
    obtain ⟨within, distinct, inHand⟩ := tracks
    exact ⟨within.trans longer, distinct,
      fun message isMessage => kept readAt message within (inHand message isMessage)⟩
  | marking workflow readAt =>
    obtain ⟨within, distinct, inHand⟩ := tracks
    refine ⟨within.trans longer, distinct, ?_⟩
    intro result isResult
    obtain ⟨uploaded, last, status, held⟩ := inHand result isResult
    exact ⟨uploaded, last, status, kept readAt uploaded within held⟩

theorem InHand.add {rows : List Message} {edits : List Uuid} {readAt : Nat}
    {snapshot message : Message} (held : InHand rows edits readAt snapshot)
    (fresh : ∀ row ∈ rows, row.id ≠ message.id) :
    InHand (rows ++ [message]) edits readAt snapshot := by
  obtain ⟨row, present, isId⟩ := held.present
  have other : message.id ≠ snapshot.id := fun same => fresh row present (isId.trans same.symm)
  have old : ∀ row ∈ rows ++ [message], row.id = snapshot.id → row ∈ rows := by
    intro row isRow rowId
    rcases List.mem_append.mp isRow with isOld | isNew
    · exact isOld
    · obtain rfl := List.mem_singleton.mp isNew
      exact absurd rowId other
  exact ⟨⟨row, List.mem_append_left _ present, isId⟩,
    fun row isRow rowId => held.unsettled row (old row isRow rowId) rowId,
    fun unedited row isRow rowId => held.current unedited row (old row isRow rowId) rowId⟩

/-! ## What the changes do to content and status -/

def RowChange.isEdit : RowChange → Bool
  | .edit .. => true
  | _ => false

def RowChange.isMark : RowChange → Bool
  | .mark .. => true
  | _ => false

theorem RowChange.apply_content {change : RowChange} (noEdit : change.isEdit = false)
    (row : Message) : content (change.apply row) = content row := by
  cases change with
  | edit => cases noEdit
  | delete | payment | mark => rfl

theorem RowChange.apply_isSystem (change : RowChange) (row : Message) :
    (change.apply row).isSystem = row.isSystem := by
  cases change <;> rfl

theorem RowChange.apply_settled {change : RowChange} (noMark : change.isMark = false)
    {row : Message} (settled : isSettled (change.apply row) = true) :
    isSettled row = true ∧ change.isEdit = false ∧
      (change.apply row).syncStatus = row.syncStatus := by
  cases change with
  | edit | delete => cases settled
  | mark => cases noMark
  | payment =>
    unfold RowChange.apply InMemoryStorage.patchMetadata isSettled at *
    cases status : row.syncStatus <;> simp_all [RowChange.isEdit]

theorem InHand.change {rows : List Message} {edits : List Uuid} {readAt : Nat}
    {snapshot : Message} (held : InHand rows edits readAt snapshot)
    (within : readAt ≤ edits.length) (id : Uuid) {change : RowChange}
    (noMark : change.isMark = false) :
    InHand (changeRows rows id change) (if change.isEdit then edits ++ [id] else edits) readAt
      snapshot := by
  refine ⟨?_, ?_, ?_⟩
  · obtain ⟨row, present, isId⟩ := held.present
    refine ⟨_, mem_changeRows.mpr ⟨row, present, rfl⟩, ?_⟩
    split
    · rw [change.apply_id, isId]
    · exact isId
  · intro row isRow isId
    obtain ⟨old, isOld, sameId, ⟨-, rfl⟩ | ⟨-, rfl⟩⟩ := of_mem_changeRows isRow
    · have wasUnsettled := held.unsettled old isOld (sameId.trans isId)
      by_contra settled
      rw [Bool.not_eq_false] at settled
      cases (change.apply_settled noMark settled).1 ▸ wasUnsettled
    · exact held.unsettled row isOld isId
  intro unedited row isRow isId
  have before : snapshot.id ∉ edits.drop readAt := by
    split at unedited
    · rw [List.drop_append_of_le_length within] at unedited
      exact fun isEdited => unedited (List.mem_append_left _ isEdited)
    · exact unedited
  obtain ⟨old, isOld, sameId, ⟨isTarget, rfl⟩ | ⟨-, rfl⟩⟩ := of_mem_changeRows isRow
  · cases isEdit : change.isEdit with
    | true =>
      rw [if_pos isEdit, List.drop_append_of_le_length within] at unedited
      exact absurd (List.mem_append_right _ (by simp [← isTarget, isId])) unedited
    | false =>
      rw [change.apply_content isEdit]
      exact held.current before old isOld (sameId.trans isId)
  · exact held.current before row isOld isId

/-! ## The invariant -/

/-- The last payload of a settled client row has its content and its status. -/
def Settles (rows uploads : List Message) : Prop :=
  ∀ row ∈ rows, row.isSystem = false → isSettled row = true →
    ∃ uploaded, lastPayload uploads row.id = some uploaded ∧
      content uploaded = content row ∧ uploaded.syncStatus = row.syncStatus

/-- **The invariant.**  Ids are unique, new rows wait for the worker, settled rows are in the
archive, and the rows in the worker's hands are tracked. -/
structure Faithful (state : State) : Prop where
  ids : (state.rows.map (·.id)).Nodup
  creates : ∀ message, .create message ∈ state.writes → message.syncStatus = .syncPending
  settles : Settles state.rows state.uploads
  tracks : Tracks state.rows state.uploads state.edits state.worker

theorem Faithful.upToDate {state : State} (faithful : Faithful state) : UpToDate state := by
  intro row isRow isClient settled
  obtain ⟨uploaded, last, same, status⟩ := faithful.settles row isRow isClient settled
  exact ⟨uploaded, last, same, by rw [Message.isDeleted, Message.isDeleted, status]⟩

theorem faithful_start : Faithful start where
  ids := List.nodup_nil
  creates := by
    intro message isWrite
    cases isWrite
  settles := by
    intro row isRow
    cases isRow
  tracks := trivial

variable {state next : State}

section

variable (faithful : Faithful state)
include faithful

theorem Faithful.keep (rows : next.rows = state.rows) (uploads : next.uploads = state.uploads)
    (edits : next.edits = state.edits) (worker : next.worker = state.worker)
    (creates : ∀ message, .create message ∈ next.writes → message.syncStatus = .syncPending) :
    Faithful next := by
  refine ⟨?_, creates, ?_, ?_⟩
  · rw [rows]
    exact faithful.ids
  · rw [rows, uploads]
    exact faithful.settles
  · rw [rows, uploads, edits, worker]
    exact faithful.tracks

theorem Faithful.add (message : Message) (fresh : ∀ row ∈ state.rows, row.id ≠ message.id)
    (pending : message.isSystem = false → isSettled message = false)
    (rows : next.rows = state.rows ++ [message]) (uploads : next.uploads = state.uploads)
    (edits : next.edits = state.edits) (worker : next.worker = state.worker)
    (creates : ∀ message, .create message ∈ next.writes → message.syncStatus = .syncPending) :
    Faithful next := by
  refine ⟨?_, creates, ?_, ?_⟩
  · rw [rows, List.map_append]
    refine List.nodup_append.mpr ⟨faithful.ids, List.nodup_singleton _, ?_⟩
    intro id isId last isLast
    obtain ⟨row, isRow, rfl⟩ := List.mem_map.mp isId
    obtain rfl : last = message.id := by simpa using isLast
    exact fresh row isRow
  · rw [rows, uploads]
    intro row isRow isClient settled
    rcases List.mem_append.mp isRow with isOld | isNew
    · exact faithful.settles row isOld isClient settled
    · obtain rfl := List.mem_singleton.mp isNew
      cases pending isClient ▸ settled
  · rw [rows, uploads, edits, worker]
    exact faithful.tracks.mono (le_refl _) fun _ _ _ held => held.add fresh

theorem Faithful.change {id : Uuid} (change : RowChange) (noMark : change.isMark = false)
    (rows : next.rows = changeRows state.rows id change) (uploads : next.uploads = state.uploads)
    (edits : next.edits = if change.isEdit then state.edits ++ [id] else state.edits)
    (worker : next.worker = state.worker)
    (creates : ∀ message, .create message ∈ next.writes → message.syncStatus = .syncPending) :
    Faithful next := by
  refine ⟨?_, creates, ?_, ?_⟩
  · rw [rows]
    exact nodup_changeRows id change faithful.ids
  · rw [rows, uploads]
    intro row isRow isClient settled
    obtain ⟨old, isOld, sameId, ⟨-, rfl⟩ | ⟨-, rfl⟩⟩ := of_mem_changeRows isRow
    · obtain ⟨wasSettled, noEdit, sameStatus⟩ := change.apply_settled noMark settled
      rw [change.apply_isSystem] at isClient
      obtain ⟨uploaded, last, same, status⟩ := faithful.settles old isOld isClient wasSettled
      refine ⟨uploaded, ?_, ?_, ?_⟩
      · rw [← sameId]
        exact last
      · rw [change.apply_content noEdit]
        exact same
      · rw [sameStatus]
        exact status
    · exact faithful.settles row isOld isClient settled
  rw [rows, uploads, edits, worker]
  refine faithful.tracks.mono ?_ fun readAt snapshot within held => held.change within id noMark
  split
  · simp
  · exact le_refl _

theorem Faithful.mark {workflow : Workflow} {readAt : Nat} {id : Uuid} {archiveRef : String}
    {results : List (Uuid × String)} {now : Timestamp}
    (marking : state.worker = .marking workflow readAt ((id, archiveRef) :: results))
    (unedited : id ∉ state.edits.drop readAt)
    (rows : next.rows = changeRows state.rows id (.mark now workflow.toStatus archiveRef))
    (uploads : next.uploads = state.uploads) (edits : next.edits = state.edits)
    (worker : next.worker = .marking workflow readAt results) (writes : next.writes = state.writes)
    :
    Faithful next := by
  have tracks := faithful.tracks
  rw [marking] at tracks
  obtain ⟨within, distinct, inHand⟩ := tracks
  obtain ⟨uploaded, last, status, held⟩ := inHand (id, archiveRef) List.mem_cons_self
  have isId : uploaded.id = id := lastPayload_id last
  rw [List.map_cons, List.nodup_cons] at distinct
  refine ⟨?_, ?_, ?_, ?_⟩
  · rw [rows]
    exact nodup_changeRows id _ faithful.ids
  · rw [writes]
    exact faithful.creates
  · rw [rows, uploads]
    intro row isRow isClient settled
    obtain ⟨old, isOld, sameId, ⟨isTarget, rfl⟩ | ⟨-, rfl⟩⟩ := of_mem_changeRows isRow
    · refine ⟨uploaded, ?_, ?_, status⟩
      · rw [isTarget]
        exact last
      · rw [RowChange.apply_content rfl]
        exact held.current (isId ▸ unedited) old isOld (sameId.trans (isTarget.trans isId.symm))
    · exact faithful.settles row isOld isClient settled
  rw [rows, uploads, edits, worker]
  refine ⟨within, distinct.2, ?_⟩
  intro result isResult
  obtain ⟨other, otherLast, otherStatus, otherHeld⟩ :=
    inHand result (List.mem_cons_of_mem _ isResult)
  -- ids occur once among the results, so the mark is not on this one
  have apart : other.id ≠ id := by
    rw [lastPayload_id otherLast]
    intro same
    have isMarked : result.1 ∈ results.map Prod.fst := List.mem_map_of_mem isResult
    rw [same] at isMarked
    exact distinct.1 isMarked
  refine ⟨other, otherLast, otherStatus, ?_, ?_, ?_⟩
  · obtain ⟨row, present, rowId⟩ := otherHeld.present
    refine ⟨row, mem_changeRows.mpr ⟨row, present, ?_⟩, rowId⟩
    rw [if_neg (rowId ▸ apart)]
  · intro row isRow rowId
    obtain ⟨old, isOld, sameId, ⟨isTarget, -⟩ | ⟨-, rfl⟩⟩ := of_mem_changeRows isRow
    · exact absurd (rowId.symm.trans isTarget) apart
    · exact otherHeld.unsettled row isOld rowId
  intro untouched row isRow rowId
  obtain ⟨old, isOld, sameId, ⟨isTarget, -⟩ | ⟨-, rfl⟩⟩ := of_mem_changeRows isRow
  · exact absurd (rowId.symm.trans isTarget) apart
  · exact otherHeld.current untouched row isOld rowId

end

/-! ### The batch -/

/-- The snapshots of a batch, paired with what became of them, are snapshots of the batch. -/
theorem zip_fst_sublist (messages : List Message) (landings : List Landing) :
    ((messages.zip landings).map Prod.fst).Sublist messages := by
  induction messages generalizing landings with
  | nil => exact List.Sublist.refl _
  | cons message rest ih =>
    cases landings with
    | nil => exact List.nil_sublist _
    | cons landing later => exact (ih later).cons_cons message

theorem nodup_landedPayloads {messages : List Message} (workflow : Workflow)
    (landings : List Landing) (distinct : (messages.map (·.id)).Nodup) :
    ((landedPayloads workflow messages landings).map (·.id)).Nodup := by
  have ids : (landedPayloads workflow messages landings).map (·.id) =
      (((messages.zip landings).filter (·.2 ≠ .missing)).map Prod.fst).map (·.id) := by
    simp [landedPayloads, payload, List.map_map, Function.comp_def]
  rw [ids]
  refine distinct.sublist (List.Sublist.map _ ?_)
  exact (List.filter_sublist.map Prod.fst).trans (zip_fst_sublist messages landings)

theorem nodup_batchResults {messages : List Message} (landings : List Landing)
    (distinct : (messages.map (·.id)).Nodup) :
    ((batchResults messages landings).map Prod.fst).Nodup := by
  refine distinct.sublist ?_
  refine List.Sublist.trans ?_ (List.Sublist.map (·.id) (zip_fst_sublist messages landings))
  unfold batchResults
  generalize messages.zip landings = items
  induction items with
  | nil => exact List.Sublist.refl _
  | cons item rest ih =>
    obtain ⟨message, landing⟩ := item
    cases landing with
    | acknowledged => exact ih.cons_cons message.id
    | landed | missing => exact ih.cons message.id

theorem mem_landedPayloads {workflow : Workflow} {messages : List Message}
    {landings : List Landing} {uploaded : Message}
    (isLanded : uploaded ∈ landedPayloads workflow messages landings) :
    ∃ message ∈ messages, uploaded = payload workflow message := by
  obtain ⟨item, isItem, rfl⟩ := List.mem_map.mp isLanded
  exact ⟨item.1, (List.of_mem_zip (List.mem_filter.mp isItem).1).1, rfl⟩

theorem Faithful.readBatch (faithful : Faithful state) {workflow : Workflow} {limit : Nat}
    {messages : List Message}
    (read : state.app.storage.getMessagesBySyncStatus workflow.fromStatus limit = .ok messages) :
    Faithful { state with worker := .uploading workflow state.edits.length messages } := by
  obtain ⟨sub, status⟩ := batch_of_read read
  refine ⟨faithful.ids, faithful.creates, faithful.settles, le_refl _,
    faithful.ids.sublist (sub.map _), ?_⟩
  intro message isMessage
  have isRow := sub.subset isMessage
  -- ids are unique, so the row is the snapshot
  have only : ∀ row ∈ state.rows, row.id = message.id → row = message :=
    fun row present sameId => List.inj_on_of_nodup_map faithful.ids present isRow sameId
  refine ⟨⟨message, isRow, rfl⟩, ?_, ?_⟩
  · intro row present sameId
    rw [only row present sameId, isSettled, status message isMessage]
    cases workflow <;> rfl
  · intro _ row present sameId
    rw [only row present sameId]

theorem Faithful.upload (faithful : Faithful state) {workflow : Workflow} {readAt : Nat}
    {messages : List Message} (uploading : state.worker = .uploading workflow readAt messages)
    (failed : Bool) (landings : List Landing) :
    Faithful (state.uploadBatch workflow readAt messages failed landings) := by
  have tracks := faithful.tracks
  rw [uploading] at tracks
  obtain ⟨within, distinct, inHand⟩ := tracks
  refine ⟨faithful.ids, faithful.creates, ?_, ?_⟩
  · intro row isRow isClient settled
    obtain ⟨uploaded, last, same, status⟩ := faithful.settles row isRow isClient settled
    refine ⟨uploaded, ?_, same, status⟩
    -- a settled row is not in hand
    refine (lastPayload_append_of_ne ?_).trans last
    intro other isLanded sameId
    obtain ⟨message, isMessage, rfl⟩ := mem_landedPayloads isLanded
    have unsettled := (inHand message isMessage).unsettled row isRow sameId.symm
    cases settled ▸ unsettled
  cases failed with
  | true => exact trivial
  | false =>
    refine ⟨within, nodup_batchResults landings distinct, ?_⟩
    intro result isResult
    obtain ⟨message, isMessage, isId, isLanded⟩ := mem_batchResults workflow isResult
    have held := inHand message isMessage
    refine ⟨payload workflow message, ?_, rfl, held.present, held.unsettled, held.current⟩
    rw [← isId]
    exact lastPayload_append_of_mem (nodup_landedPayloads workflow landings distinct) isLanded

theorem Faithful.idle (faithful : Faithful state) (workflow : Workflow) :
    Faithful { state with worker := .idle workflow } :=
  ⟨faithful.ids, faithful.creates, faithful.settles, trivial⟩

/-! ## Every run -/

theorem creates_eraseIdx (faithful : Faithful state) (index : Nat) :
    ∀ message, .create message ∈ state.writes.eraseIdx index → message.syncStatus = .syncPending :=
  fun message isWrite => faithful.creates message (List.mem_of_mem_eraseIdx isWrite)

/-- A request that waits for its storage call; a new row waits with the status of new rows. -/
theorem Faithful.await (faithful : Faithful state) (write : Write)
    (pending : ∀ message, write = .create message → message.syncStatus = .syncPending) :
    Faithful (state.await write) := by
  refine faithful.keep rfl rfl rfl rfl ?_
  intro message isWrite
  rcases List.mem_append.mp isWrite with isOld | isNew
  · exact faithful.creates message isOld
  · exact pending message (List.mem_singleton.mp isNew).symm

/-- The rows of a `POST /messages` are new. -/
theorem checkMessage_syncPending {crates : Crates} {services : Services} {auth : AuthContext}
    {req : CreateMessageRequest} {prepared : PreparedMessage} {app : AppState}
    {message : Message} {transfer : Option TokenTransferCreate}
    (passed : checkMessage crates services auth req prepared app = .ok (message, transfer)) :
    message.syncStatus = .syncPending := by
  obtain ⟨signature, paymentPeer, rfl, -⟩ := CommitLog.checkMessage_ok passed
  unfold buildMessage
  split <;> rfl

/-- A storage call in flight is made. -/
theorem Faithful.perform (faithful : Faithful state) (index : Nat) (now : Timestamp)
    {write : Write} (awaited : state.writes[index]? = some write) :
    Faithful (({ state with writes := state.writes.eraseIdx index } : State).performWrite now
      write) := by
  have creates := creates_eraseIdx faithful index
  cases write with
  | create message =>
    have pending : message.syncStatus = .syncPending :=
      faithful.creates message (List.mem_of_getElem? awaited)
    rcases createMessage_rows state.app.storage message with same | ⟨fresh, order, stored⟩
    · exact faithful.keep same rfl rfl rfl creates
    · refine faithful.add (message.setOrder order) fresh ?_ stored rfl rfl rfl creates
      intro _
      simp [isSettled, Message.setOrder, pending]
  | update id encryptedMsg nonce keyVersion attachments signature signatureVersion publicKey =>
    simp only [State.performWrite]
    rcases updateMessage_rows state.app.storage now id encryptedMsg nonce keyVersion attachments
      signature signatureVersion publicKey with
      ⟨reason, refused⟩ | ⟨row, after, -, -, -, returned, rows⟩
    · rw [refused]
      exact faithful.keep rfl rfl rfl rfl creates
    rcases made : state.app.storage.updateMessage now id encryptedMsg nonce keyVersion
      attachments signature signatureVersion publicKey with ⟨outcome, storage⟩
    rw [made] at returned rows
    simp only at returned
    subst returned
    exact faithful.change (.edit now encryptedMsg nonce keyVersion attachments signature
      signatureVersion publicKey) rfl rows rfl rfl rfl creates
  | delete id =>
    rcases deleteMessage_rows state.app.storage now id with same | changed
    · exact faithful.keep same rfl rfl rfl creates
    · exact faithful.change (.delete now) rfl changed rfl rfl rfl creates

theorem Faithful.step (crates : Crates) (faithful : Faithful state) (input : Input)
    (kept : NoLostEdit state input) : Faithful (step crates state input) := by
  cases input with
  | post services auth req =>
    have storage := beginMessage_storage crates req state.app
    simp only [Archive.step]
    rcases began : beginMessage crates req state.app with ⟨outcome, app⟩
    rw [began] at storage
    have begun : Faithful { state with app } :=
      faithful.keep (congrArg InMemoryStorage.messages storage) rfl rfl rfl faithful.creates
    cases outcome with
    | ok prepared =>
      simp only [State.checkPost]
      rcases checked : checkMessage crates services auth req prepared app with
        reason | ⟨message, transfer⟩
      · exact begun
      · refine begun.await (.create message) ?_
        rintro _ ⟨⟩
        exact checkMessage_syncPending checked
    | _ => exact begun
  | put auth req =>
    simp only [Archive.step]
    rcases checkUpdate crates auth req state.app with reason | ⟨_, _, _, _⟩
    · exact faithful
    · exact faithful.await _ (by rintro _ ⟨⟩)
  | delete auth id =>
    simp only [Archive.step]
    rcases checkDelete crates auth id state.app with reason | _
    · exact faithful
    · exact faithful.await _ (by rintro _ ⟨⟩)
  | perform index now =>
    simp only [Archive.step]
    cases awaited : state.writes[index]? with
    | none => exact faithful
    | some => exact faithful.perform index now awaited
  | abandon index => exact faithful.keep rfl rfl rfl rfl (creates_eraseIdx faithful index)
  | system blake2b512 id groupId member systemType actor key createdAt =>
    rcases createMessage_rows state.app.storage
      (.newSystem blake2b512 id groupId member systemType actor key createdAt) with
      same | ⟨fresh, order, stored⟩
    · exact faithful.keep same rfl rfl rfl faithful.creates
    · refine faithful.add ((Message.newSystem blake2b512 id groupId member systemType actor key
        createdAt).setOrder order) fresh ?_ stored rfl rfl rfl faithful.creates
      rintro ⟨⟩
  | payment now id patch allowedFromStatus =>
    rcases updateMessageMetadataTrusted_rows state.app.storage now id patch allowedFromStatus with
      same | changed
    · exact faithful.keep same rfl rfl rfl faithful.creates
    · exact faithful.change (.payment now patch) rfl changed rfl rfl rfl faithful.creates
  | readBatch =>
    simp only [Archive.step]
    split
    · split
      · next read => exact faithful.readBatch read
      · exact faithful.idle _
    · exact faithful
  | upload failed landings =>
    simp only [Archive.step]
    split
    · next uploading => exact faithful.upload uploading failed landings
    · exact faithful
  | mark now =>
    simp only [Archive.step]
    split
    · next workflow readAt id archiveRef results marking =>
      have unedited : id ∉ state.edits.drop readAt :=
        kept ⟨workflow, readAt, id⟩ (by simp [marking, Worker.nextMark])
      rcases updateSyncStatus_rows state.app.storage now id workflow.toStatus archiveRef with
        same | changed
      · have tracks := faithful.tracks
        rw [marking] at tracks
        obtain ⟨within, distinct, inHand⟩ := tracks
        rw [List.map_cons, List.nodup_cons] at distinct
        have dropped : Faithful { state with worker := .marking workflow readAt results } :=
          ⟨faithful.ids, faithful.creates, faithful.settles, within, distinct.2,
            fun result isResult => inHand result (List.mem_cons_of_mem _ isResult)⟩
        exact dropped.keep same rfl rfl rfl faithful.creates
      · exact faithful.mark marking unedited changed rfl rfl rfl rfl
    · exact faithful.idle _
    · exact faithful
  | restart => exact ⟨faithful.ids, by rintro _ ⟨⟩, faithful.settles, trivial⟩

/-- **The archive has the content of every settled row**, in every run in which each mark
falls on a row that has not been edited since its batch was read. -/
theorem archive_has_content (crates : Crates) (inputs : List Input)
    (kept : Along (step crates) NoLostEdit start inputs) :
    UpToDate (inputs.foldl (step crates) start) := by
  have faithful : Faithful (inputs.foldl (step crates) start) :=
    kept.invariant (fun reached input (still : Faithful reached) => still.step crates input)
      faithful_start
  exact faithful.upToDate

/-- The row is posted and archived, edited, and archived again after an upload that failed. -/
def archivedRun : List Input :=
  [.post CommitLog.sampleServices CommitLog.sampleAuth samplePost, .perform 0 1,
    .readBatch 10, .upload false [.acknowledged "ref"], .mark 2, .mark 2,
    .put CommitLog.sampleAuth samplePut, .perform 0 3,
    .readBatch 10, .upload true [.landed], .readBatch 10, .readBatch 10,
    .readBatch 10, .upload false [.acknowledged "ref"], .mark 4]

theorem archive_has_content_of_archivedRun :
    UpToDate (archivedRun.foldl (step CommitLog.sampleCrates) start) ∧
      (archivedRun.foldl (step CommitLog.sampleCrates) start).rows.map
        (fun row => (row.syncStatus, row.encryptedMsg)) = [(.updated, [2])] := by
  have both : Along (step CommitLog.sampleCrates) NoLostEdit start archivedRun ∧
      (archivedRun.foldl (step CommitLog.sampleCrates) start).rows.map
        (fun row => (row.syncStatus, row.encryptedMsg)) = [(.updated, [2])] := by
    decide +kernel
  exact ⟨archive_has_content CommitLog.sampleCrates archivedRun both.1, both.2⟩

/-- The worker reads the new row, the sender edits it, and the worker uploads what it read
and marks the row. -/
def staleRun : List Input :=
  [.post CommitLog.sampleServices CommitLog.sampleAuth samplePost, .perform 0 1,
    .readBatch 10, .put CommitLog.sampleAuth samplePut, .perform 0 2,
    .upload false [.acknowledged "ref"], .mark 3]

/-- **An edit is lost to the archive**: the row is `Synced` with the new ciphertext, the
archive has the old one. -/
theorem edit_lost_to_archive :
    (staleRun.foldl (step CommitLog.sampleCrates) start).rows.map
        (fun row => (row.id, row.isSystem, row.syncStatus, row.encryptedMsg)) =
      [(7, false, .synced, [2])] ∧
    (lastPayload (staleRun.foldl (step CommitLog.sampleCrates) start).uploads 7).map
        (·.encryptedMsg) = some [1] ∧
    ¬UpToDate (staleRun.foldl (step CommitLog.sampleCrates) start) := by
  have both : (staleRun.foldl (step CommitLog.sampleCrates) start).rows.map
      (fun row => (row.id, row.isSystem, row.syncStatus, row.encryptedMsg)) =
        [(7, false, .synced, [2])] ∧
      (lastPayload (staleRun.foldl (step CommitLog.sampleCrates) start).uploads 7).map
        (·.encryptedMsg) = some [1] := by decide +kernel
  obtain ⟨rows, last⟩ := both
  refine ⟨rows, last, ?_⟩
  intro upToDate
  have isRow : (7, false, SyncStatus.synced, ([2] : Bytes)) ∈
      (staleRun.foldl (step CommitLog.sampleCrates) start).rows.map
        (fun row => (row.id, row.isSystem, row.syncStatus, row.encryptedMsg)) := by
    rw [rows]
    exact List.mem_singleton_self _
  obtain ⟨row, present, shape⟩ := List.mem_map.mp isRow
  simp only [Prod.mk.injEq] at shape
  obtain ⟨isId, isClient, status, text⟩ := shape
  obtain ⟨uploaded, found, same, -⟩ := upToDate row present isClient (by simp [isSettled, status])
  rw [isId] at found
  rw [found] at last
  have stale : uploaded.encryptedMsg = row.encryptedMsg := congrArg Prod.fst same
  rw [text] at stale
  rw [Option.map_some, stale] at last
  exact absurd last (by decide)

end MessagingStack.Relayer.Archive

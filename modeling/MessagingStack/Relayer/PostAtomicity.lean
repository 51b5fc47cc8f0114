import MessagingStack.Relayer.Archive

/-!
# `POST /messages`: all or nothing, once per key

A client that gets an error from `create_message` sends its request again; one that gets a
message id stops.  So an error must mean that nothing was stored, and an id must name a row
that the caller has in the group it asked for (`AllOrNothing`).

Two branches of the handler break this.  The notification envelopes of a request are
validated after its row has been stored.  And a request whose idempotency key is taken is
answered with whatever row holds the key, provided its sender is the same; keys are global,
so that row can be in another group.  `Sound` is the condition that neither happens, and
`post_allOrNothing_iff` says that it decides.
-/

namespace MessagingStack.Relayer.PostAtomicity

/-! ## The property -/

/-- What a `POST` that ended in `outcome` did to the log. -/
structure AllOrNothing (req : CreateMessageRequest) (before after : InMemoryStorage)
    (outcome : Outcome ApiError (StatusCode × Uuid)) : Prop where
  /-- An error leaves the rows as they were. -/
  nothing : ∀ reason, outcome = .error reason → after.messages = before.messages
  /-- The id of a success names a row of the caller in the group. -/
  all : ∀ status id, outcome = .ok (status, id) →
    ∃ row ∈ after.messages,
      row.id = id ∧ row.groupId = req.groupId ∧ row.senderWalletAddr = req.senderAddress

/-- **The condition on a request** in the state it meets: when it passes every check before
the storage call, then

* the storage takes its row only if the notification envelopes are well formed;
* if its key is taken, and by a row of the same sender, then that row is in the same group. -/
structure Sound (crates : Crates) (services : Services) (auth : AuthContext)
    (req : CreateMessageRequest) (app : AppState) : Prop where
  envelopes : ∀ prepared mid message transfer created,
    beginMessage crates req app = (.ok prepared, mid) →
    checkMessage crates services auth req prepared mid = .ok (message, transfer) →
    (mid.storage.createMessage message).1 = .ok created →
    ∃ items, checkEnvelopes crates req.notificationEnvelopes = .ok items
  sameGroup : ∀ prepared mid message transfer existing,
    beginMessage crates req app = (.ok prepared, mid) →
    checkMessage crates services auth req prepared mid = .ok (message, transfer) →
    (mid.storage.createMessage message).1 = .error .duplicateIdempotencyKey →
    mid.storage.messages.find? (·.idempotencyKey == prepared.idempotencyKey) = some existing →
    existing.senderWalletAddr = req.senderAddress → existing.groupId = req.groupId

/-! ## What the storage call does -/

/-- What never changes in a stored row. -/
structure RowIdentity where
  id : Uuid
  groupId : String
  senderWalletAddr : String
  idempotencyKey : Option String
  deriving DecidableEq

def rowIdentity (row : Message) : RowIdentity where
  id := row.id
  groupId := row.groupId
  senderWalletAddr := row.senderWalletAddr
  idempotencyKey := row.idempotencyKey

def identities (storage : InMemoryStorage) : List RowIdentity := storage.messages.map rowIdentity

section Storage

variable (storage : InMemoryStorage)

theorem createMessage_outcome (message : Message) :
    (∃ reason, (storage.createMessage message).1 = .error reason ∧
      (storage.createMessage message).2.messages = storage.messages) ∨
    (∃ order, (storage.createMessage message).1 = .ok (message.setOrder order) ∧
      (∀ row ∈ storage.messages, row.id ≠ message.id) ∧
      (message.idempotencyKey.isSome →
        ∀ row ∈ storage.messages, row.idempotencyKey ≠ message.idempotencyKey) ∧
      (storage.createMessage message).2.messages =
        storage.messages ++ [message.setOrder order]) := by
  unfold InMemoryStorage.createMessage InMemoryStorage.nextOrder
  split_ifs with poisoned
  · exact .inl ⟨_, rfl, rfl⟩
  simp only [InMemoryStorage.insertMessage]
  split_ifs with poisonedMessages duplicateId duplicateKey poisonedNonces duplicateNonce
  · exact .inl ⟨_, rfl, rfl⟩
  · exact .inl ⟨_, rfl, rfl⟩
  · exact .inl ⟨_, rfl, rfl⟩
  · exact .inl ⟨_, rfl, rfl⟩
  · exact .inl ⟨_, rfl, rfl⟩
  refine .inr ⟨_, rfl, ?_, ?_, rfl⟩
  · intro row present same
    exact duplicateId (List.any_eq_true.mpr ⟨row, present, by simpa [Message.setOrder]⟩)
  intro hasKey row present same
  refine duplicateKey ?_
  simp only [Bool.and_eq_true]
  exact ⟨hasKey, List.any_eq_true.mpr ⟨row, present, by simpa [Message.setOrder]⟩⟩

theorem createMessage_taken {storage after : InMemoryStorage} {message : Message}
    (taken : storage.createMessage message = (.error .duplicateIdempotencyKey, after)) :
    after.messages = storage.messages ∧ after.poisoned .messages = false ∧
      message.idempotencyKey.isSome := by
  unfold InMemoryStorage.createMessage InMemoryStorage.nextOrder at taken
  split_ifs at taken with poisoned
  · cases taken
  simp only [InMemoryStorage.insertMessage] at taken
  split_ifs at taken with poisonedMessages duplicateId duplicateKey
  all_goals cases taken
  simp only [Bool.and_eq_true] at duplicateKey
  exact ⟨rfl, by simpa using poisonedMessages, duplicateKey.1⟩

theorem identities_changeRows (rows : List Message) (id : Uuid) (change : Archive.RowChange) :
    (Archive.changeRows rows id change).map rowIdentity = rows.map rowIdentity := by
  rw [Archive.changeRows, List.map_map]
  refine List.map_congr_left fun row _ => ?_
  simp only [Function.comp_apply]
  split
  · cases change <;> rfl
  · rfl

theorem identities_updateMessageMetadataTrusted (now : Timestamp) (id : Uuid) (patch : Json)
    (allowedFromStatus : List String) :
    identities (storage.updateMessageMetadataTrusted now id patch allowedFromStatus).2 =
      identities storage := by
  unfold identities
  rcases Archive.updateMessageMetadataTrusted_rows storage now id patch allowedFromStatus with
    same | changed
  · rw [same]
  · rw [changed, identities_changeRows]

end Storage

/-- The store has the rows it had, and at most one more, under an id and a key that are new. -/
inductive OneMore (before after : InMemoryStorage) : Prop where
  | same (kept : identities after = identities before)
  | more (identity : RowIdentity)
      (freshId : ∀ other ∈ identities before, other.id ≠ identity.id)
      (freshKey : identity.idempotencyKey.isSome →
        ∀ other ∈ identities before, other.idempotencyKey ≠ identity.idempotencyKey)
      (added : identities after = identities before ++ [identity])

theorem OneMore.congr {before after later : InMemoryStorage} (step : OneMore before after)
    (same : identities later = identities after) : OneMore before later := by
  cases step with
  | same kept => exact .same (same.trans kept)
  | more identity freshId freshKey added => exact .more identity freshId freshKey (same.trans added)

theorem oneMore_createMessage (storage : InMemoryStorage) (message : Message) :
    OneMore storage (storage.createMessage message).2 := by
  rcases createMessage_outcome storage message with
    ⟨reason, -, kept⟩ | ⟨order, -, freshId, freshKey, added⟩
  · exact .same (congrArg (List.map rowIdentity) kept)
  refine .more (rowIdentity message) ?_ ?_ ?_
  · intro other isOther
    obtain ⟨row, present, rfl⟩ := List.mem_map.mp isOther
    exact freshId row present
  · intro hasKey other isOther
    obtain ⟨row, present, rfl⟩ := List.mem_map.mp isOther
    exact freshKey hasKey row present
  · unfold identities
    rw [added, List.map_append]
    rfl

/-! ## What the end of a call does -/

section Store

variable {crates : Crates} {services : Services} {req : CreateMessageRequest}
  {prepared : PreparedMessage} {message : Message} {transfer : Option TokenTransferCreate}
  {app : AppState}

variable (crates services req prepared message transfer app) in
theorem identities_storeMessage :
    identities (storeMessage crates services req prepared message transfer app).2.storage =
      identities (app.storage.createMessage message).2 := by
  rcases CommitLog.storage_storeMessage crates services req prepared app message transfer with
    same | ⟨requestId, id, digest, marked⟩
  · rw [same]
  · rw [marked]
    exact identities_updateMessageMetadataTrusted _ _ _ _ _

variable (crates services req prepared transfer) in
theorem storeMessage_of_created {created : Message} {storage : InMemoryStorage}
    (stored : app.storage.createMessage message = (.ok created, storage)) :
    identities (storeMessage crates services req prepared message transfer app).2.storage =
        identities storage ∧
      (storeMessage crates services req prepared message transfer app).1 =
        match checkEnvelopes crates req.notificationEnvelopes with
        | .error reason => .error reason
        | .ok _ => .ok (.created, created.id) := by
  refine ⟨?_, ?_⟩
  · rw [identities_storeMessage, stored]
  unfold storeMessage
  rw [stored]
  dsimp only
  cases checkEnvelopes crates req.notificationEnvelopes with
  | error | ok => rfl

theorem storeMessage_of_failed {reason : StorageError} {storage : InMemoryStorage}
    (failed : app.storage.createMessage message = (.error reason, storage))
    (other : reason ≠ .duplicateIdempotencyKey) :
    storeMessage crates services req prepared message transfer app =
      (.error (.fromStorage crates.uuidToString reason), { app with storage }) := by
  unfold storeMessage
  simp only [failed]

theorem storeMessage_of_taken {storage : InMemoryStorage}
    (taken : app.storage.createMessage message = (.error .duplicateIdempotencyKey, storage)) :
    storeMessage crates services req prepared message transfer app =
      (match existingRow crates req prepared storage with
        | .ok answer => .ok answer
        | .error reason => .error reason, { app with storage }) := by
  unfold storeMessage
  simp only [taken, CommitLog.check_run]
  cases existingRow crates req prepared storage <;> rfl

theorem existingRow_ok {storage : InMemoryStorage} {status : StatusCode} {id : Uuid}
    (answered : existingRow crates req prepared storage = .ok (status, id)) :
    ∃ existing, storage.messages.find? (·.idempotencyKey == prepared.idempotencyKey) =
        some existing ∧
      prepared.idempotencyKey.isSome ∧ existing.senderWalletAddr = req.senderAddress ∧
      id = existing.id := by
  unfold existingRow at answered
  split at answered
  · cases answered
  next key isKey =>
  unfold InMemoryStorage.getMessageByIdempotencyKey at answered
  split_ifs at answered with poisoned
  · cases answered
  simp only [fromStorage, bind, Except.bind] at answered
  split at answered
  · cases answered
  next existing found =>
  split_ifs at answered with other
  cases answered
  exact ⟨existing, by rw [isKey]; exact found, by simp [isKey], not_not.mp other, rfl⟩

variable (crates) in
theorem existingRow_of_found {storage : InMemoryStorage} {existing : Message}
    (readable : storage.poisoned .messages = false) (hasKey : prepared.idempotencyKey.isSome)
    (found : storage.messages.find? (·.idempotencyKey == prepared.idempotencyKey) = some existing)
    (sender : existing.senderWalletAddr = req.senderAddress) :
    existingRow crates req prepared storage = .ok (.ok, existing.id) := by
  obtain ⟨key, isKey⟩ := Option.isSome_iff_exists.mp hasKey
  rw [isKey] at found
  have read : storage.getMessageByIdempotencyKey key = .ok (some existing) := by
    simp [InMemoryStorage.getMessageByIdempotencyKey, readable, found]
  simp [existingRow, isKey, read, fromStorage, bind, Except.bind, sender, pure, Except.pure]

theorem storeMessage_allOrNothing_iff (distinct : (app.storage.messages.map (·.id)).Nodup)
    (group : message.groupId = req.groupId)
    (sender : message.senderWalletAddr = req.senderAddress)
    (key : message.idempotencyKey = prepared.idempotencyKey) :
    AllOrNothing req app.storage
        (storeMessage crates services req prepared message transfer app).2.storage
        (storeMessage crates services req prepared message transfer app).1 ↔
      ((∃ created, (app.storage.createMessage message).1 = .ok created) →
        ∃ items, checkEnvelopes crates req.notificationEnvelopes = .ok items) ∧
      ((app.storage.createMessage message).1 = .error .duplicateIdempotencyKey →
        ∀ existing,
          app.storage.messages.find? (·.idempotencyKey == prepared.idempotencyKey) = some existing →
          existing.senderWalletAddr = req.senderAddress → existing.groupId = req.groupId) := by
  rcases ran : app.storage.createMessage message with ⟨result, storage⟩
  cases result with
  | ok =>
    obtain ⟨kept, answer⟩ := storeMessage_of_created crates services req prepared transfer ran
    have outcome := createMessage_outcome app.storage message
    rw [ran] at outcome
    obtain ⟨reason, ⟨⟩, -⟩ | ⟨order, isCreated, -, -, added⟩ := outcome
    cases isCreated
    rw [answer]
    cases envelopes : checkEnvelopes crates req.notificationEnvelopes with
    | ok items =>
      refine ⟨fun _ => ⟨fun _ => ⟨items, rfl⟩, by rintro ⟨⟩⟩, fun _ => ⟨by rintro _ ⟨⟩, ?_⟩⟩
      rintro status id ⟨⟩
      have stored : rowIdentity message ∈ identities (storeMessage crates services req prepared
          message transfer app).2.storage := by
        rw [kept]
        unfold identities
        rw [added, List.map_append]
        exact List.mem_append_right _ (List.mem_singleton_self _)
      obtain ⟨row, present, same⟩ := List.mem_map.mp stored
      exact ⟨row, present, congrArg RowIdentity.id same,
        (congrArg RowIdentity.groupId same).trans group,
        (congrArg RowIdentity.senderWalletAddr same).trans sender⟩
    | error reason =>
      refine ⟨fun atomic => ?_, fun sound => ?_⟩
      · -- the row is there, though the answer is an error
        have sameRows := atomic.nothing reason rfl
        have grown :=
          congrArg List.length (kept.symm.trans (congrArg (List.map rowIdentity) sameRows))
        unfold identities at grown
        rw [added] at grown
        simp at grown
      · obtain ⟨items, ⟨⟩⟩ := sound.1 ⟨_, rfl⟩
  | error reason =>
    by_cases isTaken : reason = .duplicateIdempotencyKey
    · subst isTaken
      obtain ⟨sameRows, readable, hasKey⟩ := createMessage_taken ran
      rw [storeMessage_of_taken ran]
      refine ⟨fun atomic => ⟨by rintro ⟨_, ⟨⟩⟩, ?_⟩, fun sound => ⟨fun _ _ => sameRows, ?_⟩⟩
      · intro _ existing found isSender
        have answered := existingRow_of_found crates readable (key ▸ hasKey) (sameRows ▸ found)
          isSender
        obtain ⟨row, present, isId, isGroup, -⟩ := atomic.all .ok existing.id (by rw [answered])
        have sameRow : row = existing := List.inj_on_of_nodup_map distinct
          (sameRows ▸ present) (List.mem_of_find?_eq_some found) isId
        rw [← sameRow]
        exact isGroup
      intro status id succeeded
      cases answered : existingRow crates req prepared storage with
      | error => cases answered ▸ succeeded
      | ok =>
        cases answered ▸ succeeded
        obtain ⟨existing, found, -, isSender, rfl⟩ := existingRow_ok answered
        rw [sameRows] at found
        exact ⟨existing, sameRows ▸ List.mem_of_find?_eq_some found, rfl,
          sound.2 rfl existing found isSender, isSender⟩
    rw [storeMessage_of_failed ran isTaken]
    have sameRows : storage.messages = app.storage.messages := by
      have outcome := createMessage_outcome app.storage message
      rw [ran] at outcome
      obtain ⟨_, -, same⟩ | ⟨order, ⟨⟩, -⟩ := outcome
      exact same
    refine ⟨fun _ => ⟨by rintro ⟨_, ⟨⟩⟩, fun same => absurd (by cases same; rfl) isTaken⟩,
      fun _ => ⟨fun _ _ => sameRows, by rintro _ _ ⟨⟩⟩⟩

end Store

/-! ## The whole call -/

section Call

variable (crates : Crates) (services : Services) (auth : AuthContext)
  (req : CreateMessageRequest) {app : AppState}

theorem checkMessage_row {prepared : PreparedMessage} {message : Message}
    {transfer : Option TokenTransferCreate}
    (passed : checkMessage crates services auth req prepared app = .ok (message, transfer)) :
    message.groupId = req.groupId ∧ message.senderWalletAddr = req.senderAddress ∧
      message.idempotencyKey = prepared.idempotencyKey := by
  obtain ⟨signature, paymentPeer, rfl, -⟩ := CommitLog.checkMessage_ok passed
  unfold buildMessage
  split <;> exact ⟨rfl, rfl, rfl⟩

theorem allOrNothing_of_failed {storage after : InMemoryStorage} {reason : ApiError}
    (same : after.messages = storage.messages) :
    AllOrNothing req storage after (.error reason) :=
  ⟨fun _ _ => same, by rintro _ _ ⟨⟩⟩

/-- **A `POST` is all or nothing exactly when it is sound**: for every request and every store,
whose rows are keyed by their ids. -/
theorem post_allOrNothing_iff (app : AppState)
    (distinct : (app.storage.messages.map (·.id)).Nodup) :
    AllOrNothing req app.storage (createMessage crates services auth req app).2.storage
        (createMessage crates services auth req app).1 ↔
      Sound crates services auth req app := by
  have storage := Archive.beginMessage_storage crates req app
  rcases began : beginMessage crates req app with ⟨outcome, mid⟩
  rw [began] at storage
  change mid.storage = app.storage at storage
  cases outcome with
  | error reason =>
    have ran : createMessage crates services auth req app = (.error reason, mid) := by
      rw [createMessage, Async.bind_run, began]
    rw [ran]
    refine ⟨fun _ => ⟨?_, ?_⟩, fun _ => allOrNothing_of_failed req (by rw [storage])⟩
    · intro _ _ _ _ _ other
      cases began ▸ other
    · intro _ _ _ _ _ other
      cases began ▸ other
  | crash =>
    rcases CommitLog.beginMessage_cases crates req app with
      ⟨_, failed⟩ | ⟨_, passed, -⟩ | ⟨_, -, advanced⟩
    · cases failed ▸ began
    · cases passed ▸ began
    · cases advanced ▸ began
  | ok prepared =>
    have ran : createMessage crates services auth req app =
        finishMessage crates services auth req prepared mid := by
      rw [createMessage, Async.bind_run_ok began]
    rw [ran]
    cases checked : checkMessage crates services auth req prepared mid with
    | error reason =>
      have refused : finishMessage crates services auth req prepared mid =
        (.error reason, mid) := by
        simp only [finishMessage, Async.bind_run, Async.get_run, CommitLog.check_run, checked]
      rw [refused]
      refine ⟨fun _ => ⟨?_, ?_⟩, fun _ => allOrNothing_of_failed req (by rw [storage])⟩
      · intro _ _ _ _ _ other passed
        cases began ▸ other
        cases checked ▸ passed
      · intro _ _ _ _ _ other passed
        cases began ▸ other
        cases checked ▸ passed
    | ok result =>
      obtain ⟨message, transfer⟩ := result
      obtain ⟨group, sender, key⟩ := checkMessage_row crates services auth req checked
      have stores : finishMessage crates services auth req prepared mid =
          storeMessage crates services req prepared message transfer mid := by
        simp only [finishMessage, Async.bind_run, Async.get_run, CommitLog.check_run, checked]
      rw [stores, ← storage, storeMessage_allOrNothing_iff (storage ▸ distinct) group sender key]
      constructor
      · rintro ⟨envelopes, sameGroup⟩
        refine ⟨?_, ?_⟩
        · intro _ _ _ _ created other passed isCreated
          cases began ▸ other
          cases checked ▸ passed
          exact envelopes ⟨created, isCreated⟩
        intro _ _ _ _ existing other passed isTaken
        cases began ▸ other
        cases checked ▸ passed
        exact sameGroup isTaken existing
      intro sound
      refine ⟨?_, ?_⟩
      · rintro ⟨created, isCreated⟩
        exact sound.envelopes prepared mid message transfer created began checked isCreated
      · intro isTaken existing
        exact sound.sameGroup prepared mid message transfer existing began checked isTaken

end Call

/-! ## Every run: one row for each key -/

section Runs

open CommitLog

variable {crates : Crates}

theorem identities_changeRow (storage : InMemoryStorage) (id : Uuid)
    {change : Message → Message} (same : ∀ row, rowIdentity (change row) = rowIdentity row) :
    identities (storage.changeRow id change).2 = identities storage := by
  unfold InMemoryStorage.changeRow
  split
  · rfl
  unfold identities InMemoryStorage.replaceRow
  rw [List.map_map]
  refine List.map_congr_left fun row _ => ?_
  simp only [Function.comp_apply]
  split
  · exact same row
  · rfl

theorem identities_updateMessage (storage : InMemoryStorage) (now : Timestamp) (id : Uuid)
    (encryptedMsg nonce : Bytes) (keyVersion : Int) (attachments : List Attachment)
    (signature : Bytes) (signatureVersion : Int) (publicKey : Bytes) :
    identities (storage.updateMessage now id encryptedMsg nonce keyVersion attachments signature
      signatureVersion publicKey).2 = identities storage := by
  unfold identities
  rcases Archive.updateMessage_rows storage now id encryptedMsg nonce keyVersion attachments
    signature signatureVersion publicKey with
    ⟨reason, refused⟩ | ⟨row, after, -, -, -, -, changed⟩
  · rw [refused]
  · rw [changed, identities_changeRows]

theorem oneMore_storeMessage (services : Services) (req : CreateMessageRequest)
    (prepared : PreparedMessage) (message : Message) (transfer : Option TokenTransferCreate)
    (app : AppState) :
    OneMore app.storage
      (storeMessage crates services req prepared message transfer app).2.storage := by
  exact (oneMore_createMessage app.storage message).congr
    (identities_storeMessage crates services req prepared message transfer app)

/-- Every step of the relayer leaves the rows, or adds one under a new id and a new key. -/
theorem oneMore_step (state : State) (input : Input) :
    OneMore state.app.storage (step crates state input).app.storage := by
  cases input with
  | begin auth req =>
    have storage := Archive.beginMessage_storage crates req state.app
    refine .same ?_
    simp only [step]
    rcases began : beginMessage crates req state.app with ⟨outcome, app⟩
    rw [began] at storage
    cases outcome <;> exact congrArg identities storage
  | finish index services =>
    simp only [step]
    cases state.inFlight[index]? with
    | none => exact .same rfl
    | some pending =>
      rcases finishMessage_cases crates services pending.auth pending.req pending.prepared
        state.app with ⟨reason, failed⟩ | ⟨signature, transfer, paymentPeer, stored, -⟩
      · simp only [failed]
        exact .same rfl
      · simp only [stored]
        exact oneMore_storeMessage services pending.req pending.prepared _ transfer state.app
  | abort | membership | poison => exact .same rfl
  | put now auth req =>
    refine .same ?_
    simp only [step, updateMessage]
    split
    · rfl
    next encryptedMsg nonce attachments signature _ =>
    have same := identities_updateMessage state.app.storage now req.messageId encryptedMsg nonce
      req.keyVersion attachments signature req.signatureVersion auth.storedPublicKey
    split <;> next ran =>
      rw [ran] at same
      exact same
  | delete now auth id =>
    refine .same ?_
    simp only [step, deleteMessage]
    split
    · rfl
    have same : identities (state.app.storage.deleteMessage now id).2 =
        identities state.app.storage :=
      identities_changeRow state.app.storage id fun _ => rfl
    split <;> next ran =>
      rw [ran] at same
      exact same
  | system => exact oneMore_createMessage state.app.storage _
  | archive now id => exact .same (identities_changeRow state.app.storage id fun _ => rfl)
  | payment now id patch =>
    exact .same (identities_updateMessageMetadataTrusted state.app.storage now id patch _)

/-- Ids and keys are held by one row each. -/
structure Keyed (storage : InMemoryStorage) : Prop where
  ids : ((identities storage).map (·.id)).Nodup
  keys : ((identities storage).filterMap (·.idempotencyKey)).Nodup

theorem keyed_new : Keyed .new := ⟨List.nodup_nil, List.nodup_nil⟩

theorem Keyed.oneMore {before after : InMemoryStorage} (keyed : Keyed before)
    (step : OneMore before after) : Keyed after := by
  cases step with
  | same kept => exact ⟨by rw [kept]; exact keyed.ids, by rw [kept]; exact keyed.keys⟩
  | more identity freshId freshKey added =>
    refine ⟨?_, ?_⟩
    · rw [added, List.map_append, List.nodup_append]
      refine ⟨keyed.ids, List.nodup_singleton _, ?_⟩
      rintro id isId other isOther rfl
      obtain ⟨held, isHeld, sameId⟩ := List.mem_map.mp isId
      exact freshId held isHeld (sameId.trans (by simpa using isOther))
    rw [added, List.filterMap_append, List.nodup_append]
    refine ⟨keyed.keys, ?_, ?_⟩
    · cases key : identity.idempotencyKey <;> simp [key]
    rintro key isKey other isOther rfl
    obtain ⟨held, isHeld, sameKey⟩ := List.mem_filterMap.mp isKey
    have isNew : identity.idempotencyKey = some key := by simpa using isOther
    exact freshKey (by simp [isNew]) held isHeld (sameKey.trans isNew.symm)

theorem prefix_of_oneMore {before after : InMemoryStorage} (step : OneMore before after) :
    identities before <+: identities after := by
  cases step with
  | same kept => rw [kept]
  | more identity freshId freshKey added =>
    rw [added]
    exact List.prefix_append _ _

variable (crates) in
theorem run_keyed {state : State} (keyed : Keyed state.app.storage) (inputs : List Input) :
    Keyed (inputs.foldl (step crates) state).app.storage ∧
      identities state.app.storage <+:
        identities (inputs.foldl (step crates) state).app.storage := by
  induction inputs generalizing state with
  | nil => exact ⟨keyed, List.prefix_refl _⟩
  | cons input rest ih =>
    have grown : OneMore state.app.storage (step crates state input).app.storage :=
      oneMore_step state input
    obtain ⟨final, later⟩ := ih (keyed.oneMore grown)
    exact ⟨final, (prefix_of_oneMore grown).trans later⟩

theorem keyed_reached (crates : Crates) (inputs : List Input) :
    Keyed (reached crates inputs).app.storage := by
  have keyed : Keyed start.app.storage := keyed_new
  exact (run_keyed crates keyed inputs).1

def holders (storage : InMemoryStorage) (key : String) : List RowIdentity :=
  (identities storage).filter (·.idempotencyKey == some key)

theorem holders_eq {storage : InMemoryStorage} (keyed : Keyed storage) {identity : RowIdentity}
    {key : String} (present : identity ∈ identities storage)
    (holds : identity.idempotencyKey = some key) : holders storage key = [identity] := by
  have only : ∀ other ∈ holders storage key, other = identity := by
    intro other isHolder
    obtain ⟨isOther, isKey⟩ := List.mem_filter.mp isHolder
    exact Archive.eq_of_nodup_filterMap keyed.keys isOther present (beq_iff_eq.mp isKey) holds
  have isHolder : identity ∈ holders storage key := List.mem_filter.mpr ⟨present, by simp [holds]⟩
  have distinct : (holders storage key).Nodup := keyed.ids.of_map.filter _
  have repeated := List.eq_replicate_of_mem only
  rw [repeated, List.nodup_replicate] at distinct
  have one : (holders storage key).length = 1 :=
    le_antisymm distinct (List.length_pos_of_mem isHolder)
  rw [repeated, one]
  rfl

theorem length_holders_le {storage : InMemoryStorage} (keyed : Keyed storage) (key : String) :
    (holders storage key).length ≤ 1 := by
  cases held : holders storage key with
  | nil => simp
  | cons identity =>
    have isHolder : identity ∈ holders storage key := by
      rw [held]
      exact List.mem_cons_self
    obtain ⟨present, isKey⟩ := List.mem_filter.mp isHolder
    have single := holders_eq keyed present (beq_iff_eq.mp isKey)
    rw [← held, single]
    rfl

theorem holder_of_success {services : Services} {auth : AuthContext}
    {req : CreateMessageRequest} {prepared : PreparedMessage} {app after : AppState}
    {key : String} {status : StatusCode} {id : Uuid}
    (hasKey : prepared.idempotencyKey = some key)
    (succeeded : finishMessage crates services auth req prepared app = (.ok (status, id), after)) :
    ∃ identity ∈ identities after.storage, identity.idempotencyKey = some key ∧
      identity.id = id ∧ identity.senderWalletAddr = req.senderAddress ∧
      ((∀ held ∈ identities app.storage, held.idempotencyKey = some key →
        held.senderWalletAddr = req.senderAddress → held.groupId = req.groupId) →
          identity.groupId = req.groupId) := by
  cases checked : checkMessage crates services auth req prepared app with
  | error =>
    simp only [finishMessage, Async.bind_run, Async.get_run, check_run, checked] at succeeded
    cases succeeded
  | ok result =>
    obtain ⟨message, transfer⟩ := result
    obtain ⟨group, sender, sameKey⟩ := checkMessage_row crates services auth req checked
    simp only [finishMessage, Async.bind_run, Async.get_run, check_run, checked] at succeeded
    rcases ran : app.storage.createMessage message with ⟨result, storage⟩
    cases result with
    | ok =>
      obtain ⟨kept, answer⟩ := storeMessage_of_created crates services req prepared transfer ran
      have outcome := createMessage_outcome app.storage message
      rw [ran] at outcome
      obtain ⟨reason, ⟨⟩, -⟩ | ⟨order, isCreated, -, -, added⟩ := outcome
      cases isCreated
      rw [succeeded] at kept answer
      refine ⟨rowIdentity message, ?_, sameKey.trans hasKey, ?_, sender, fun _ => group⟩
      · rw [kept]
        unfold identities
        rw [added, List.map_append]
        exact List.mem_append_right _ (List.mem_singleton_self _)
      cases envelopes : checkEnvelopes crates req.notificationEnvelopes with
      | error => cases envelopes ▸ answer
      | ok =>
        cases envelopes ▸ answer
        rfl
    | error reason =>
      by_cases isTaken : reason = .duplicateIdempotencyKey
      · subst isTaken
        obtain ⟨sameRows, -, -⟩ := createMessage_taken ran
        rw [storeMessage_of_taken ran] at succeeded
        cases answered : existingRow crates req prepared storage with
        | error => cases answered ▸ succeeded
        | ok =>
          cases answered ▸ succeeded
          obtain ⟨existing, found, -, isSender, rfl⟩ := existingRow_ok answered
          have present := List.mem_of_find?_eq_some found
          have isKey : existing.idempotencyKey = some key := by
            have held := List.find?_some found
            rw [hasKey] at held
            exact beq_iff_eq.mp held
          refine ⟨rowIdentity existing, List.mem_map_of_mem present, isKey, rfl, isSender, ?_⟩
          intro sameGroup
          rw [sameRows] at present
          exact sameGroup (rowIdentity existing) (List.mem_map_of_mem present) isKey isSender
      · cases storeMessage_of_failed ran isTaken ▸ succeeded

end Runs

/-! ## The theorem -/

/-- **All or nothing, and once per key.**

* For every request and every store, whose rows are keyed by their ids, `POST /messages` is all
  or nothing exactly when it is `Sound`.
* In every run of the relayer, whatever requests fail, are abandoned or overtake each other, a
  key is held by one row at most.
* A call with a key that succeeds names the one row that holds its key from then on; it is of
  the caller, and in the group of the request unless the key was held in another group. -/
theorem post_once (crates : Crates) :
    (∀ services auth req app, (app.storage.messages.map (·.id)).Nodup →
      (AllOrNothing req app.storage (createMessage crates services auth req app).2.storage
          (createMessage crates services auth req app).1 ↔
        Sound crates services auth req app)) ∧
    (∀ inputs key, (holders (CommitLog.reached crates inputs).app.storage key).length ≤ 1) ∧
    ∀ before index services after pending key status id app,
      (CommitLog.reached crates before).inFlight[index]? = some pending →
      pending.prepared.idempotencyKey = some key →
      finishMessage crates services pending.auth pending.req pending.prepared
        (CommitLog.reached crates before).app = (.ok (status, id), app) →
      ∃ identity,
        holders (CommitLog.reached crates
          (before ++ .finish index services :: after)).app.storage key = [identity] ∧
        identity.id = id ∧ identity.senderWalletAddr = pending.req.senderAddress ∧
        ((∀ held ∈ holders (CommitLog.reached crates before).app.storage key,
          held.senderWalletAddr = pending.req.senderAddress →
            held.groupId = pending.req.groupId) → identity.groupId = pending.req.groupId) := by
  refine ⟨fun services auth req app distinct =>
    post_allOrNothing_iff crates services auth req app distinct, fun inputs key => ?_, ?_⟩
  · exact length_holders_le (keyed_reached crates inputs) key
  intro before index services after pending key status id app found hasKey succeeded
  obtain ⟨identity, present, isKey, isId, isSender, isGroup⟩ := holder_of_success hasKey succeeded
  have stepped : (CommitLog.step crates (CommitLog.reached crates before)
      (.finish index services)).app = app := by
    simp only [CommitLog.step, found, succeeded]
  have split : CommitLog.reached crates (before ++ .finish index services :: after) =
      after.foldl (CommitLog.step crates) (CommitLog.step crates
        (CommitLog.reached crates before) (.finish index services)) := by
    simp only [CommitLog.reached, List.foldl_append, List.foldl_cons]
  have keyed : Keyed (CommitLog.step crates (CommitLog.reached crates before)
      (.finish index services)).app.storage :=
    (keyed_reached crates before).oneMore (oneMore_step _ _)
  obtain ⟨final, grown⟩ := run_keyed crates keyed after
  rw [stepped] at grown
  refine ⟨identity, ?_, isId, isSender, fun sameGroup => isGroup ?_⟩
  · rw [split]
    exact holders_eq final (grown.subset present) isKey
  · intro held isHeld holds
    exact sameGroup held (List.mem_filter.mpr ⟨isHeld, by simp [holds]⟩)

/-! ### Requests that are not sound -/

/-- A text with a key, and an envelope for a device without a name. -/
def samplePost : CreateMessageRequest where
  groupId := "g"
  encryptedText := "01"
  nonce := "000000000000000000000000"
  keyVersion := 0
  senderAddress := "0xa"
  messageSignature := String.ofList (List.replicate 64 ['0', '1']).flatten
  idempotencyKey := some "k"
  notificationEnvelopes := [{ deviceId := " ", encryptedPreview := "" }]

/-- Post a request to a relayer that has just started, and then the same to another group. -/
def postTwice : Outcome ApiError (StatusCode × Uuid) × AppState :=
  createMessage CommitLog.sampleCrates { CommitLog.sampleServices with newId := 8 }
    CommitLog.sampleAuth
    { samplePost with groupId := "h", nonce := "000000000000000000000001" }
    (createMessage CommitLog.sampleCrates CommitLog.sampleServices CommitLog.sampleAuth samplePost
      CommitLog.start.app).2

theorem post_once_sample :
    AllOrNothing { samplePost with notificationEnvelopes := [] } CommitLog.start.app.storage
      (createMessage CommitLog.sampleCrates CommitLog.sampleServices CommitLog.sampleAuth
        { samplePost with notificationEnvelopes := [] } CommitLog.start.app).2.storage
      (createMessage CommitLog.sampleCrates CommitLog.sampleServices CommitLog.sampleAuth
        { samplePost with notificationEnvelopes := [] } CommitLog.start.app).1 := by
  refine ((post_once CommitLog.sampleCrates).1 CommitLog.sampleServices CommitLog.sampleAuth _
    CommitLog.start.app List.nodup_nil).mpr ⟨?_, ?_⟩
  · intro _ _ _ _ _ _ _ _
    exact ⟨[], rfl⟩
  intro prepared mid message transfer existing began _ _ found
  have storage := Archive.beginMessage_storage CommitLog.sampleCrates
    { samplePost with notificationEnvelopes := [] } CommitLog.start.app
  rw [began] at storage
  change mid.storage = InMemoryStorage.new at storage
  cases storage ▸ found

/-- **An error after the row is stored, and a success for a row of another group.** -/
theorem unsound_posts :
    ((createMessage CommitLog.sampleCrates CommitLog.sampleServices CommitLog.sampleAuth
        samplePost CommitLog.start.app).1 =
        .error (.badRequest "notification_envelopes.device_id must not be empty") ∧
      CommitLog.start.app.storage.messages.map (·.id) = [] ∧
      (createMessage CommitLog.sampleCrates CommitLog.sampleServices CommitLog.sampleAuth
        samplePost CommitLog.start.app).2.storage.messages.map (·.id) = [7]) ∧
    (postTwice.1 = .ok (.ok, 7) ∧
      postTwice.2.storage.messages.map (fun row => (row.id, row.groupId)) = [(7, "g")]) := by
  decide +kernel

end MessagingStack.Relayer.PostAtomicity

import MessagingStack.Base.PrefixCode
import MessagingStack.Relayer.GroupRoutes
import MessagingStack.Relayer.PaymentSettlement

/-!
# The group that is acted on is the group that was checked

The authenticator checks the group that a request names in a header or in its body; the handler
takes its group from the path, the query, the body or a row.  `Touches` says for which groups a
request reads or changes what is stored.  Every handler is bounded by the groups it may touch
(`Within`); three touch one that was not checked (`Unchecked`), and a request is covered exactly if
its sender is permitted there (`covered_iff`).
-/

namespace MessagingStack.Relayer

open TransferConfirmation (RequestAction checkRespond respond)

namespace GroupRoutes

/-! ## What a request touches -/

/-- The groups whose data are given away. -/
def Payload.groups (before : Relay) : Payload → List String
  | .done | .stored _ => []
  -- the id of a row that was there already
  | .created _ id => ((before.app.storage.row id).map (·.groupId)).toList
  | .row message => [message.groupId]
  | .page rows _ => rows.map (·.groupId)
  | .reactions groupId _ | .changed groupId _ | .pins groupId _ | .receipt groupId _
  | .receipts groupId _ | .preferences groupId _ | .presence groupId _
  | .notificationKeys groupId _ | .attachment groupId _ | .groupInfo groupId _ _
  | .archive groupId _ _ => [groupId]

def Answer.groups (before : Relay) : Answer → List String
  | .ok payload => payload.groups before
  | .rejected _ | .refused _ _ | .failed _ | .unanswered => []

/-- Data of the group are in the answer, or what is stored for it has changed. -/
def Touches (before : Relay) (reply : Reply) (groupId : String) : Prop :=
  groupId ∈ reply.1.groups before ∨ reply.2.view groupId ≠ before.view groupId

/-- A reply touches no group but those that are allowed. -/
def Within (allowed : String → Prop) (before : Relay) (reply : Reply) : Prop :=
  ∀ groupId, Touches before reply groupId → allowed groupId

namespace Within

variable {allowed : String → Prop} {before : Relay}

theorem mono {more : String → Prop} {reply : Reply} (within : Within allowed before reply)
    (weaker : ∀ groupId, allowed groupId → more groupId) : Within more before reply :=
  fun groupId touched => weaker groupId (within groupId touched)

variable {answer : Answer} {α : Type} {next : α → Reply}

theorem of_view {after : Relay} (reads : ∀ groupId ∈ answer.groups before, allowed groupId)
    (keeps : ∀ groupId, ¬allowed groupId → after.view groupId = before.view groupId) :
    Within allowed before (answer, after) := by
  rintro groupId (isRead | isChanged)
  · exact reads groupId isRead
  · by_contra foreign
    exact isChanged (keeps groupId foreign)

theorem same (reads : ∀ groupId ∈ answer.groups before, allowed groupId) :
    Within allowed before (answer, before) :=
  of_view reads fun _ _ => rfl

/-- A request that is turned away. -/
theorem nothing (isEmpty : answer.groups before = []) :
    Within allowed before (answer, before) :=
  same (by simp [isEmpty])

theorem failed (reason : ApiError) : Within allowed before (.failed reason, before) := nothing rfl

theorem refused (status : Nat) (message : String) :
    Within allowed before (.refused status message, before) := nothing rfl

theorem turnedAway {condition : Prop} [Decidable condition] {next : Reply}
    (isEmpty : answer.groups before = []) (within : ¬condition → Within allowed before next) :
    Within allowed before (if condition then (answer, before) else next) := by
  by_cases holds : condition
  · rw [if_pos holds]
    exact nothing isEmpty
  · rw [if_neg holds]
    exact within holds

theorem setGroup {groupId : String} (data : GroupData) (isAllowed : allowed groupId)
    (reads : ∀ groupId ∈ answer.groups before, allowed groupId) :
    Within allowed before (answer, before.setGroup groupId data) := by
  refine of_view reads fun other foreign => Relay.view_setGroup before data ?_
  rintro rfl
  exact foreign isAllowed

theorem setApp {app : AppState}
    (keeps : ∀ groupId, ¬allowed groupId → SameFor groupId before.app app)
    (reads : ∀ groupId ∈ answer.groups before, allowed groupId) :
    Within allowed before (answer, before.setApp app) :=
  of_view reads fun groupId foreign => (keeps groupId foreign).view

/-- A check that comes first. -/
theorem orFail {result : Except ApiError α}
    (within : ∀ value, result = .ok value → Within allowed before (next value)) :
    Within allowed before (GroupRoutes.orFail before result next) := by
  unfold GroupRoutes.orFail
  cases result with
  | error reason => exact failed reason
  | ok value => exact within value rfl

theorem withParam {around : Surroundings} {raw : String} {next : String → Reply}
    (within : ∀ value, around.parsers.percentDecode raw = some value →
      Within allowed before (next value)) :
    Within allowed before (GroupRoutes.withParam around before raw next) := by
  unfold GroupRoutes.withParam
  split
  · next value decoded => exact within value decoded
  · exact refused _ _

theorem withQuery {parsed : Except String α}
    (within : ∀ query, parsed = .ok query → Within allowed before (next query)) :
    Within allowed before (GroupRoutes.withQuery before parsed next) := by
  unfold GroupRoutes.withQuery
  cases parsed with
  | error => exact refused _ _
  | ok query => exact within query rfl

theorem withJson {around : Surroundings} {request : HttpRequest} {parse : Bytes → Except String α}
    (within : ∀ body value, around.parsers.isJson request.headers = true →
      request.body = some body → parse body = .ok value → Within allowed before (next value))
    :
    Within allowed before (GroupRoutes.withJson around before request parse next) := by
  unfold GroupRoutes.withJson
  split
  · next isJson =>
    split
    · exact refused _ _
    next body isBody =>
    split
    · next value parsed => exact within body value isJson isBody parsed
    · exact refused _ _
  · exact refused _ _

theorem withAuth {auth : Option AuthContext} {next : AuthContext → Reply}
    (within : ∀ context, auth = some context → Within allowed before (next context)) :
    Within allowed before (GroupRoutes.withAuth before auth next) := by
  unfold GroupRoutes.withAuth
  cases auth with
  | none => exact refused _ _
  | some context => exact within context rfl

end Within

/-! ## The group that was checked -/

def Authorised (auth : AuthContext) (groupId : String) : Prop :=
  auth.authorizedGroup = some (Text.toAsciiLowercase groupId)

/-- The group that was checked is in lower case. -/
def Normal (auth : AuthContext) : Prop :=
  ∀ groupId, auth.authorizedGroup = some groupId → Text.toAsciiLowercase groupId = groupId

theorem Normal.authorised {auth : AuthContext} (normal : Normal auth) {groupId : String}
    (isGroup : auth.authorizedGroup = some groupId) : Authorised auth groupId := by
  unfold Authorised
  rw [normal groupId isGroup]
  exact isGroup

theorem Within.ensureGroup {before : Relay} {auth : AuthContext} (normal : Normal auth)
    {groupId : String} {next : Unit → Reply}
    (within : auth.authorizedGroup = some groupId → Authorised auth groupId →
      Within (Authorised auth) before (next ())) :
    Within (Authorised auth) before
      (GroupRoutes.orFail before (GroupRoutes.ensureGroup auth groupId) next) := by
  refine Within.orFail fun _ isOk => ?_
  have isGroup := not_not.mp (refuse_eq_ok.mp isOk)
  exact within isGroup (normal.authorised isGroup)

/-! ## The message handlers -/

/-! ### A new row -/

section Creation

variable {crates : Crates} {services : Services} {auth : AuthContext} {req : CreateMessageRequest}
  {app : AppState} {groupId : String}

/-- The first part of a `POST` moves the epoch of its own group only. -/
theorem beginMessage_same (differs : groupId ≠ req.groupId) :
    SameFor groupId app (beginMessage crates req app).2 := by
  rcases CommitLog.beginMessage_cases crates req app with
    ⟨reason, ran⟩ | ⟨prepared, ran, -⟩ | ⟨prepared, -, ran⟩
  · rw [ran]
    exact .refl app
  · rw [ran]
    exact .refl app
  · rw [ran]
    exact ⟨rfl, rfl, Function.update_of_ne differs _ _⟩

variable {id : Uuid} {row : Message} {prepared : PreparedMessage} {message : Message}
  {transfer : Option TokenTransferCreate}

theorem row_createMessage {storage : InMemoryStorage} (found : storage.row id = some row)
    (message : Message) :
    (storage.createMessage message).2.row id = some row := by
  rcases storage.createMessage_cases message with ⟨reason, same | consumed⟩ | ⟨-, -, stored⟩
  · rw [same]
    exact found
  · rw [consumed]
    exact found
  rw [stored]
  unfold InMemoryStorage.row at found ⊢
  rw [List.find?_append, found]
  rfl

theorem same_updateMessageMetadataTrusted (app : AppState) (found : app.storage.row id = some row)
    (differs : groupId ≠ row.groupId) (now : Timestamp) (patch : Json)
    (allowedFromStatus : List String) :
    SameFor groupId app { app with
      storage := (app.storage.updateMessageMetadataTrusted now id patch allowedFromStatus).2 } := by
  unfold InMemoryStorage.updateMessageMetadataTrusted
  cases app.storage.getMessage id with
  | error => exact .refl app
  | ok =>
    simp only
    split_ifs
    · exact .refl app
    · exact .refl app
    · exact .replaceRow app found differs (fun _ => rfl) fun _ => rfl

/-- The call that stores the row, and settles a payment request of the same group. -/
theorem storeMessage_same
    (passed : checkMessage crates services auth req prepared app = .ok (message, transfer))
    (differs : groupId ≠ req.groupId) :
    SameFor groupId app (storeMessage crates services req prepared message transfer app).2 := by
  obtain ⟨isGroup, -, -⟩ := PostAtomicity.checkMessage_row crates services auth req passed
  obtain ⟨-, -, -, resolved⟩ := CommitLog.checkMessage_ok passed
  have elsewhere : groupId ≠ message.groupId := by
    rw [isGroup]
    exact differs
  have inserted := SameFor.createMessage app message elsewhere
  rcases stored : app.storage.createMessage message with ⟨result, storage⟩
  rw [stored] at inserted
  cases result with
  | error reason =>
    by_cases isTaken : reason = .duplicateIdempotencyKey
    · subst isTaken
      rw [PostAtomicity.storeMessage_of_taken stored]
      exact inserted
    · rw [PostAtomicity.storeMessage_of_failed stored isTaken]
      exact inserted
  | ok created =>
    -- the link that is kept points into the group
    have marked : ∀ create requestId, transfer = some create →
        create.requestMessageId = some requestId →
        SameFor groupId app { app with
          storage :=
            markRequestPaid crates services.now storage requestId created.id create.digest } := by
      rintro create requestId rfl isLinked
      obtain ⟨asked, isAsked⟩ : ∃ asked, prepared.transferCreate = some asked := by
        cases isAsked : prepared.transferCreate with
        | none => simp [resolveLink, isAsked] at resolved
        | some asked => exact ⟨asked, rfl⟩
      rw [isAsked] at resolved
      obtain ⟨request, found, -, sameGroup⟩ :=
        PaymentSettlement.resolveLink_valid resolved.symm isLinked
      have still := row_createMessage found message
      rw [stored] at still
      refine inserted.trans ?_
      exact same_updateMessageMetadataTrusted { app with storage } still
        (by rw [sameGroup]; exact differs) _ _ _
    unfold storeMessage
    simp only [stored]
    cases checkEnvelopes crates req.notificationEnvelopes with
    | error | ok =>
      cases transfer with
      | none => exact inserted
      | some create =>
        cases isLinked : create.requestMessageId with
        | none =>
          simp only [isLinked]
          exact inserted
        | some requestId =>
          simp only [isLinked]
          exact marked create requestId rfl isLinked

/-- **A `POST` leaves every group but its own as it was.** -/
theorem createMessage_same (differs : groupId ≠ req.groupId) :
    SameFor groupId app (Relayer.createMessage crates services auth req app).2 := by
  have began : SameFor groupId app (beginMessage crates req app).2 := beginMessage_same differs
  rcases ran : beginMessage crates req app with ⟨outcome, mid⟩
  rw [ran] at began
  cases outcome with
  | error | crash =>
    rw [Relayer.createMessage, Async.bind_run, ran]
    exact began
  | ok prepared =>
    rw [Relayer.createMessage, Async.bind_run_ok ran]
    refine began.trans ?_
    simp only [finishMessage, Async.bind_run, Async.get_run, CommitLog.check_run]
    cases checked : checkMessage crates services auth req prepared mid with
    | error => exact .refl mid
    | ok => exact storeMessage_same checked differs

variable (crates services auth req app) in
/-- The key of a request that passes its checks is taken, and the answer is the id of the row that
holds it. -/
def Repeats (id : Uuid) : Prop :=
  ∃ prepared mid message transfer storage status,
    beginMessage crates req app = (.ok prepared, mid) ∧
    checkMessage crates services auth req prepared mid = .ok (message, transfer) ∧
    mid.storage.createMessage message = (.error .duplicateIdempotencyKey, storage) ∧
    existingRow crates req prepared storage = .ok (status, id)

/-- What a `POST` that passes its checks comes to. -/
theorem createMessage_run {mid : AppState}
    (began : beginMessage crates req app = (.ok prepared, mid))
    (checked : checkMessage crates services auth req prepared mid = .ok (message, transfer)) :
    Relayer.createMessage crates services auth req app =
      storeMessage crates services req prepared message transfer mid := by
  rw [Relayer.createMessage, Async.bind_run_ok began]
  simp only [finishMessage, Async.bind_run, Async.get_run, CommitLog.check_run, checked]

theorem createMessage_answer {status : StatusCode}
    (answered : (Relayer.createMessage crates services auth req app).1 = .ok (status, id)) :
    app.storage.row id = none ∨ Repeats crates services auth req app id := by
  have kept := Archive.beginMessage_storage crates req app
  rcases began : beginMessage crates req app with ⟨outcome, mid⟩
  rw [began] at kept
  cases outcome with
  | error | crash =>
    rw [Relayer.createMessage, Async.bind_run, began] at answered
    cases answered
  | ok prepared =>
    cases checked : checkMessage crates services auth req prepared mid with
    | error =>
      rw [Relayer.createMessage, Async.bind_run_ok began] at answered
      simp only [finishMessage, Async.bind_run, Async.get_run, CommitLog.check_run,
        checked] at answered
      cases answered
    | ok result =>
      obtain ⟨message, transfer⟩ := result
      rw [createMessage_run began checked] at answered
      rcases stored : mid.storage.createMessage message with ⟨result, storage⟩
      cases result with
      | error reason =>
        by_cases isTaken : reason = .duplicateIdempotencyKey
        · subst isTaken
          rw [PostAtomicity.storeMessage_of_taken stored] at answered
          cases existing : existingRow crates req prepared storage with
          | error => cases existing ▸ answered
          | ok =>
            cases existing ▸ answered
            exact .inr ⟨prepared, mid, message, transfer, storage, status, began, checked, stored,
              existing⟩
        · cases PostAtomicity.storeMessage_of_failed stored isTaken ▸ answered
      | ok =>
        have isNew := (PostAtomicity.storeMessage_of_created crates services req prepared transfer
          stored).2
        rw [isNew] at answered
        cases isOk : checkEnvelopes crates req.notificationEnvelopes with
        | error => cases isOk ▸ answered
        | ok =>
          cases isOk ▸ answered
          left
          rcases mid.storage.createMessage_cases message with
            ⟨reason, same | consumed⟩ | ⟨fresh, -, isStored⟩
          · cases stored ▸ same
          · cases stored ▸ consumed
          cases stored ▸ isStored
          rw [← kept]
          exact List.find?_eq_none.mpr fun row present => by
            simpa [Message.setOrder] using fresh row present

theorem createMessage_of_repeats (repeats : Repeats crates services auth req app id) :
    ∃ status, (Relayer.createMessage crates services auth req app).1 = .ok (status, id) := by
  obtain ⟨prepared, mid, message, transfer, storage, status, began, checked, taken, existing⟩ :=
    repeats
  refine ⟨status, ?_⟩
  rw [createMessage_run began checked, PostAtomicity.storeMessage_of_taken taken, existing]

end Creation

/-! ### A row that is there -/

section Change

variable {crates : Crates} {now : Timestamp} {auth : AuthContext} {app : AppState}
  {groupId : String}

theorem ownRow_ok {id : Uuid} {existing : Message}
    (isOwn : ownRow crates auth id app = .ok existing) :
    app.storage.row id = some existing ∧ auth.authorizedGroup = some existing.groupId := by
  unfold ownRow at isOwn
  cases found : app.storage.getMessage id with
  | error => cases found ▸ isOwn
  | ok row =>
    rw [found] at isOwn
    simp only [fromStorage, bind, Except.bind] at isOwn
    by_cases foreign : auth.authorizedGroup ≠ some row.groupId
    · cases if_pos foreign ▸ isOwn
    rw [if_neg foreign] at isOwn
    by_cases isSystem : row.isSystem = true
    · cases if_pos isSystem ▸ isOwn
    · cases if_neg isSystem ▸ isOwn
      exact ⟨(InMemoryStorage.getMessage_eq_ok.mp found).2, not_not.mp foreign⟩

/-- **A `PUT` changes a row of the group that was checked**, or nothing. -/
theorem updateMessage_same {req : UpdateMessageRequest}
    (differs : auth.authorizedGroup ≠ some groupId) :
    SameFor groupId app (Relayer.updateMessage crates now auth req app).2 := by
  unfold Relayer.updateMessage
  cases checked : checkUpdate crates auth req app with
  | error => exact .refl app
  | ok content =>
    obtain ⟨encryptedMsg, nonce, attachments, signature⟩ := content
    obtain ⟨existing, isOwn⟩ : ∃ existing, ownRow crates auth req.messageId app = .ok existing := by
      unfold checkUpdate at checked
      cases isOwn : ownRow crates auth req.messageId app with
      | error => cases isOwn ▸ checked
      | ok existing => exact ⟨existing, rfl⟩
    obtain ⟨found, isGroup⟩ := ownRow_ok isOwn
    have other : groupId ≠ existing.groupId := by
      rintro rfl
      exact differs isGroup
    simp only [InMemoryStorage.updateMessage]
    cases app.storage.getMessage req.messageId with
    | error => exact .refl app
    | ok =>
      simp only
      split_ifs
      · exact .refl app
      · exact .refl app
      have replaced : SameFor groupId app { app with
          storage := app.storage.replaceRow req.messageId fun row =>
            row.updateContent now encryptedMsg nonce req.keyVersion attachments signature
              req.signatureVersion auth.storedPublicKey } :=
        .replaceRow app found other (fun _ => rfl) fun _ => rfl
      exact ⟨replaced.rows, replaced.order, replaced.epoch⟩

/-- **A `DELETE` changes a row of the group that was checked**, or nothing. -/
theorem deleteMessage_same {id : Uuid} (differs : auth.authorizedGroup ≠ some groupId) :
    SameFor groupId app (Relayer.deleteMessage crates now auth id app).2 := by
  unfold Relayer.deleteMessage
  cases checked : checkDelete crates auth id app with
  | error => exact .refl app
  | ok =>
    obtain ⟨existing, isOwn⟩ : ∃ existing, ownRow crates auth id app = .ok existing := by
      unfold checkDelete at checked
      cases isOwn : ownRow crates auth id app with
      | error => cases isOwn ▸ checked
      | ok existing => exact ⟨existing, rfl⟩
    obtain ⟨found, isGroup⟩ := ownRow_ok isOwn
    have other : groupId ≠ existing.groupId := by
      rintro rfl
      exact differs isGroup
    simp only [InMemoryStorage.deleteMessage, InMemoryStorage.changeRow]
    cases app.storage.getMessage id with
    | error => exact .refl app
    | ok => exact .replaceRow app found other (fun _ => rfl) fun _ => rfl

theorem checkRespond_ok {id : Uuid} {text : String} {action : RequestAction}
    (passed : checkRespond crates auth id text app = .ok action) :
    ∃ request, app.storage.row id = some request ∧ auth.authorizedGroup = some request.groupId := by
  unfold checkRespond at passed
  cases parsed : RequestAction.parse (Text.trim text) with
  | none => cases parsed ▸ passed
  | some =>
    rw [parsed] at passed
    cases found : app.storage.getMessage id with
    | error => cases found ▸ passed
    | ok request =>
      rw [found] at passed
      simp only [fromStorage, bind, Except.bind] at passed
      by_cases foreign : auth.authorizedGroup ≠ some request.groupId
      · cases if_pos foreign ▸ passed
      · exact ⟨request, (InMemoryStorage.getMessage_eq_ok.mp found).2, not_not.mp foreign⟩

theorem groupId_of_updated {row updated : Message} {id : Uuid}
    (found : app.storage.row id = some row) {patch : Json} {allowedFromStatus : List String}
    (isUpdated : (app.storage.updateMessageMetadataTrusted now id patch allowedFromStatus).1 =
      .ok (some updated)) : updated.groupId = row.groupId := by
  unfold InMemoryStorage.updateMessageMetadataTrusted at isUpdated
  cases read : app.storage.getMessage id with
  | error => cases read ▸ isUpdated
  | ok =>
    have isRow := (InMemoryStorage.getMessage_eq_ok.mp read).2
    cases found ▸ isRow
    rw [read] at isUpdated
    simp only at isUpdated
    split_ifs at isUpdated
    · cases isUpdated
    · cases isUpdated
    · cases isUpdated
      rfl

end Change

/-! ## The handlers -/

section Handlers

variable {around : Surroundings} {relay : Relay} {auth : AuthContext}

theorem within_createMessage {req : CreateMessageRequest}
    (isChecked : Authorised auth req.groupId) :
    Within
      (fun groupId => Authorised auth groupId ∨
        ∃ id row, Repeats around.crates around.services auth req relay.app id ∧
          relay.app.storage.row id = some row ∧ row.groupId = groupId)
      relay (createMessage around relay auth req) := by
  have keeps : ∀ groupId, ¬Authorised auth groupId → SameFor groupId relay.app
      (Relayer.createMessage around.crates around.services auth req relay.app).2 := by
    intro groupId foreign
    refine createMessage_same ?_
    rintro rfl
    exact foreign isChecked
  have answers := @createMessage_answer around.crates around.services auth req relay.app
  unfold createMessage finish
  rcases ran : Relayer.createMessage around.crates around.services auth req relay.app with
    ⟨outcome, app⟩
  rw [ran] at keeps answers
  have changes : ∀ groupId, ¬(Authorised auth groupId ∨
      ∃ id row, Repeats around.crates around.services auth req relay.app id ∧
        relay.app.storage.row id = some row ∧ row.groupId = groupId) →
      SameFor groupId relay.app app :=
    fun groupId foreign => keeps groupId fun isOwn => foreign (.inl isOwn)
  cases outcome with
  | error | crash => exact Within.setApp changes (by simp [Answer.groups])
  | ok answer =>
    obtain ⟨status, id⟩ := answer
    refine Within.setApp changes fun groupId isRead => ?_
    simp only [Answer.groups, Payload.groups, Option.mem_toList, Option.map_eq_some_iff] at isRead
    obtain ⟨row, found, isGroup⟩ := isRead
    rcases answers rfl with isNew | repeats
    · cases isNew ▸ found
    · exact .inr ⟨id, row, repeats, found, isGroup⟩

section

variable (normal : Normal auth)
include normal

theorem within_getMessage (messageId : Uuid) :
    Within (Authorised auth) relay (getMessage around relay auth messageId) := by
  refine Within.orFail fun message _ => ?_
  split_ifs with foreign
  · exact .failed _
  · refine .same fun groupId isRead => ?_
    rw [List.mem_singleton.mp isRead]
    exact normal.authorised (not_not.mp foreign)

theorem within_listMessages (query : GetMessagesQuery) :
    Within (Authorised auth) relay (listMessages around relay auth query) := by
  unfold listMessages
  cases query.groupId with
  | none => exact .failed _
  | some groupId =>
    dsimp only
    split_ifs with foreign
    · exact .failed _
    cases fetched : Paging.fetchPage relay.app.storage groupId query.afterOrder query.beforeOrder
      (min (query.limit.getD 50) 100) with
    | none => exact .nothing rfl
    | some result =>
      refine Within.orFail fun page isOk => .same fun other isRead => ?_
      obtain ⟨row, isRow, rfl⟩ := List.mem_map.mp isRead
      have isPage : result = .ok page := by
        cases result with
        | error => cases isOk
        | ok =>
          cases isOk
          rfl
      rw [isPage] at fetched
      rw [Paging.fetchPage_groupId fetched row isRow]
      exact normal.authorised (not_not.mp foreign)

theorem within_getMessages (query : GetMessagesQuery) :
    Within (Authorised auth) relay (getMessages around relay auth query) := by
  unfold getMessages
  cases query.messageId with
  | some messageId => exact within_getMessage normal messageId
  | none => exact within_listMessages normal query

theorem within_finish {result : Outcome ApiError PUnit × AppState}
    (keeps : ∀ groupId, auth.authorizedGroup ≠ some groupId → SameFor groupId relay.app result.2) :
    Within (Authorised auth) relay (finish relay result fun _ => .done) := by
  obtain ⟨outcome, app⟩ := result
  have changes : ∀ groupId, ¬Authorised auth groupId → SameFor groupId relay.app app :=
    fun groupId foreign => keeps groupId fun isGroup => foreign (normal.authorised isGroup)
  cases outcome with
  | ok => exact .setApp changes (by simp [Answer.groups, Payload.groups])
  | error | crash => exact .setApp changes (by simp [Answer.groups])

theorem within_updateMessage (req : UpdateMessageRequest) :
    Within (Authorised auth) relay (updateMessage around relay auth req) :=
  within_finish normal fun _ foreign => updateMessage_same foreign

theorem within_deleteMessage (messageId : Uuid) :
    Within (Authorised auth) relay (deleteMessage around relay auth messageId) :=
  within_finish normal fun _ foreign => deleteMessage_same foreign

theorem within_respond (body : RespondToPaymentRequestBody) :
    Within (Authorised auth) relay (respondToPaymentRequest around relay auth body) := by
  refine Within.orFail fun action isOk => ?_
  obtain ⟨request, found, isGroup⟩ := checkRespond_ok isOk
  have isOwn := normal.authorised isGroup
  have keeps : ∀ groupId, ¬Authorised auth groupId → SameFor groupId relay.app { relay.app with
      storage := (respond around.services.now relay.app.storage body.messageId action).2 } := by
    intro groupId foreign
    refine same_updateMessageMetadataTrusted _ found ?_ _ _ _
    rintro rfl
    exact foreign isOwn
  have answers : ∀ updated,
      (respond around.services.now relay.app.storage body.messageId action).1 =
        .ok (some updated) → updated.groupId = request.groupId :=
    fun _ isUpdated => groupId_of_updated found isUpdated
  rcases ran : respond around.services.now relay.app.storage body.messageId action with
    ⟨result, storage⟩
  rw [ran] at keeps answers
  cases result with
  | error => exact .setApp keeps (by simp [Answer.groups])
  | ok updated =>
    cases updated with
    | none => exact .setApp keeps (by simp [Answer.groups])
    | some row =>
      refine .setApp keeps fun groupId isRead => ?_
      rw [List.mem_singleton.mp isRead, answers row rfl]
      exact isOwn

theorem within_postReaction (groupId : String) (body : PostReactionBody) :
    Within (Authorised auth) relay (postReaction around relay auth groupId body) := by
  refine Within.ensureGroup normal fun _ isOwn => Within.orFail fun _ _ => ?_
  dsimp only
  split_ifs
  · -- the envelopes are checked after the change
    unfold orFail
    split
    · exact .setGroup _ isOwn (by simp [Answer.groups])
    · exact .setGroup _ isOwn (by simpa [Answer.groups, Payload.groups] using isOwn)
  · exact .setGroup _ isOwn (by simpa [Answer.groups, Payload.groups] using isOwn)

theorem within_listReactions (groupId : String) (chainSeq : Option Int) :
    Within (Authorised auth) relay (listReactions relay auth groupId chainSeq) :=
  Within.ensureGroup normal fun _ isOwn =>
    .same (by simpa [Answer.groups, Payload.groups] using isOwn)

theorem within_postTyping (groupId : String) (typing : Bool) :
    Within (Authorised auth) relay (postTyping relay auth groupId typing) :=
  Within.ensureGroup normal fun _ _ => .nothing rfl

theorem within_getGroupPresence (groupId : String) :
    Within (Authorised auth) relay (getGroupPresence relay auth groupId) :=
  Within.ensureGroup normal fun _ isOwn =>
    .same (by simpa [Answer.groups, Payload.groups] using isOwn)

theorem within_setPin (groupId : String) (body : PostPinBody) :
    Within (Authorised auth) relay (setPin relay auth groupId body) :=
  Within.ensureGroup normal fun _ isOwn =>
    .setGroup _ isOwn (by simp [Answer.groups, Payload.groups])

theorem within_listPins (groupId : String) :
    Within (Authorised auth) relay (listPins relay auth groupId) :=
  Within.ensureGroup normal fun _ isOwn =>
    .same (by simpa [Answer.groups, Payload.groups] using isOwn)

theorem within_postReceipts (groupId : String) (body : PostReceiptBody) :
    Within (Authorised auth) relay (postReceipts around relay auth groupId body) :=
  Within.ensureGroup normal fun _ isOwn => Within.orFail fun _ _ =>
    .setGroup _ isOwn (by simpa [Answer.groups, Payload.groups] using isOwn)

theorem within_getReceipts (groupId : String) :
    Within (Authorised auth) relay (getReceipts relay auth groupId) :=
  Within.ensureGroup normal fun _ isOwn =>
    .same (by simpa [Answer.groups, Payload.groups] using isOwn)

theorem within_getPrefs (groupId : String) :
    Within (Authorised auth) relay (getPrefs relay auth groupId) :=
  Within.ensureGroup normal fun _ isOwn =>
    .same (by simpa [Answer.groups, Payload.groups] using isOwn)

theorem within_putPrefs (groupId : String) (body : Preferences.ConversationPreferencesPatch) :
    Within (Authorised auth) relay (putPrefs relay auth groupId body) :=
  Within.ensureGroup normal fun _ isOwn => Within.orFail fun _ _ =>
    .setGroup _ isOwn (by simpa [Answer.groups, Payload.groups] using isOwn)

theorem within_uploadAttachment (groupId : String) (body : Bytes) :
    Within (Authorised auth) relay (uploadAttachment around relay auth groupId body) := by
  refine Within.ensureGroup normal fun isGroup isOwn => Within.turnedAway rfl fun _ => ?_
  cases around.parsers.upload body with
  | error => exact .failed _
  | ok data =>
    dsimp only
    cases around.crates.decodeBase64 (Text.trim data) with
    | none => exact .failed _
    | some =>
      refine Within.turnedAway rfl fun _ => Within.turnedAway rfl fun _ =>
        Within.turnedAway rfl fun _ => ?_
      refine .setGroup _ ?_ (by simp [Answer.groups, Payload.groups])
      rw [normal groupId isGroup]
      exact isOwn

theorem within_downloadAttachment (groupId attachmentId : String) :
    Within (Authorised auth) relay (downloadAttachment around relay auth groupId attachmentId) := by
  refine Within.ensureGroup normal fun isGroup isOwn => Within.turnedAway rfl fun _ => ?_
  cases around.crates.parseUuid (stripStorageIdPrefix attachmentId) with
  | none => exact .failed _
  | some id =>
    dsimp only
    rw [normal groupId isGroup]
    cases (relay.groups groupId).getObject id with
    | none => exact .failed _
    | some =>
      exact Within.turnedAway rfl fun _ =>
        .same (by simpa [Answer.groups, Payload.groups] using isOwn)

theorem within_postWelcome (groupId : String) (body : PostWelcomeBody) :
    Within (Authorised auth) relay (postWelcome around relay auth groupId body) :=
  Within.ensureGroup normal fun _ isOwn => Within.turnedAway rfl fun _ =>
    Within.orFail fun _ _ => Within.turnedAway rfl fun _ => Within.orFail fun _ _ =>
      .setGroup _ isOwn (by simp [Answer.groups, Payload.groups])

theorem within_putGroupInfo (groupId hexInfo : String) :
    Within (Authorised auth) relay (putGroupInfo around relay auth groupId hexInfo) :=
  Within.ensureGroup normal fun _ isOwn => Within.orFail fun _ _ => Within.orFail fun _ _ =>
    Within.turnedAway rfl fun _ => .setGroup _ isOwn (by simp [Answer.groups, Payload.groups])

theorem within_getGroupInfo (groupId : String) :
    Within (Authorised auth) relay (getGroupInfo relay auth groupId) := by
  refine Within.ensureGroup normal fun _ isOwn => ?_
  cases (relay.groups groupId).groupInfo with
  | none => exact .failed _
  | some => exact .same (by simpa [Answer.groups, Payload.groups] using isOwn)

end

end Handlers

/-! ## The routes -/

section Routes

variable (around : Surroundings) (relay : Relay) (request : HttpRequest)

/-- What the authenticator says of the request. -/
def admission : Except Rejection (Option AuthContext) :=
  authMiddleware around.authCrates around.parsers.authFields around.serverTime
    around.requestTtlSeconds relay.app.membershipStore request

/-- **The groups that a handler touches without a comparison**: the group in the path of the archive
and of the notification keys, and that of the row whose id a repeated `POST` is answered with. -/
inductive Unchecked : Option AuthContext → String → Prop
  | archive {auth : Option AuthContext} {raw groupId : String} {query : ArchiveMessagesQuery}
      {archive : ArchiveReadService} {page : List Json × Bool}
      (isRoute : matchRoute request.path = some (.archiveMessages raw))
      (isGet : request.method = .get)
      (decoded : around.parsers.percentDecode raw = some groupId)
      (parsed : around.parsers.archiveQuery request.query = .ok query)
      (enabled : relay.archiveRead = some archive)
      (answered : archive.listMessages groupId query.namespace_ query.afterOrder query.beforeOrder
        (min (max (query.limit.getD 50) 1) 100) = .ok page) :
      Unchecked auth groupId
  | notificationKeys {context : AuthContext} {raw groupId : String}
      (isRoute : matchRoute request.path = some (.notificationKeys raw))
      (isGet : request.method = .get)
      (decoded : around.parsers.percentDecode raw = some groupId) :
      Unchecked (some context) groupId
  | repeated {context : AuthContext} {body : Bytes} {req : CreateMessageRequest} {id : Uuid}
      {row : Message}
      (isRoute : matchRoute request.path = some .messages)
      (isPost : Method.verb request.method = some .post)
      (isJson : around.parsers.isJson request.headers = true)
      (isBody : request.body = some body)
      (parsed : around.parsers.createMessage body = .ok req)
      (repeats : Repeats around.crates around.services context req relay.app id)
      (found : relay.app.storage.row id = some row) :
      Unchecked (some context) row.groupId

/-- The sender holds the permission of the method in the group. -/
def Permits (auth : Option AuthContext) (groupId : String) : Prop :=
  ∃ context permission, auth = some context ∧
    request.method.requiredPermission = some permission ∧
    relay.app.membershipStore.hasPermission (Text.toAsciiLowercase groupId) context.senderAddress
      permission = true

/-- **Authorisation covers the group that is acted on.** -/
def Covered : Prop :=
  ∀ groupId, Touches relay (serve around relay request) groupId →
    ∃ auth, admission around relay request = .ok auth ∧ Permits relay request auth groupId

/-- **The condition on a request** in the state it meets: in a group that its handler touches
without a comparison, its sender is permitted. -/
def PermittedUnchecked : Prop :=
  ∀ auth groupId, admission around relay request = .ok auth →
    Unchecked around relay request auth groupId → Permits relay request auth groupId

end Routes

/-- Two structs with a field of one name read the same value from the same bytes. -/
structure Parsers.Alike (parsers : Parsers) : Prop where
  groupId : ∀ body fields req, parsers.authFields body = .ok fields →
    parsers.createMessage body = .ok req → req.groupId = fields.groupId

/-! ## What the authenticator has checked -/

section Admission

variable {around : Surroundings} {relay : Relay} {request : HttpRequest} {context : AuthContext}

section

variable (admitted : admission around relay request = .ok (some context))
include admitted

theorem accepted_of_admit :
    ∃ permission, request.method.requiredPermission = some permission ∧
      Nonempty (Accepted around.authCrates around.parsers.authFields around.serverTime
        around.requestTtlSeconds relay.app.membershipStore request permission context) := by
  unfold admission authMiddleware at admitted
  cases required : request.method.requiredPermission with
  | none => cases required ▸ admitted
  | some permission =>
    rw [required] at admitted
    refine ⟨permission, rfl, authenticate_spec ?_⟩
    dsimp only at admitted
    cases ran : authenticate around.authCrates around.parsers.authFields around.serverTime
      around.requestTtlSeconds relay.app.membershipStore request permission with
    | error rejection => cases ran ▸ admitted
    | ok auth =>
      cases ran ▸ admitted
      rfl

theorem normal_of_admission :
    Normal context := by
  obtain ⟨permission, -, ⟨accepted⟩⟩ := accepted_of_admit admitted
  intro groupId isGroup
  rw [accepted.group, Option.some.injEq] at isGroup
  rw [← isGroup, toAsciiLowercase_twice]

/-- **In the group that was checked the sender holds the permission of the method.** -/
theorem permits_of_authorised {groupId : String} (isOwn : Authorised context groupId) :
    Permits relay request (some context) groupId := by
  obtain ⟨permission, required, ⟨accepted⟩⟩ := accepted_of_admit admitted
  refine ⟨context, permission, rfl, required, ?_⟩
  unfold Authorised at isOwn
  rw [accepted.group, Option.some.injEq] at isOwn
  rw [← isOwn]
  exact accepted.permitted

end

theorem method_of_read (hasBody : request.method ≠ .head)
    (isRead : Method.verb request.method = some .read) : request.method = .get := by
  cases isMethod : request.method <;> rw [isMethod] at isRead hasBody <;>
    first | rfl | exact absurd rfl hasBody | cases isRead

theorem method_of_post (isPost : Method.verb request.method = some .post) :
    request.method = .post := by
  cases isMethod : request.method <;> rw [isMethod] at isPost <;> first | rfl | cases isPost

theorem authorised_of_body (alike : around.parsers.Alike)
    (admitted : admission around relay request = .ok (some context))
    (isPost : Method.verb request.method = some .post) {body : Bytes} {req : CreateMessageRequest}
    (isBody : request.body = some body) (parsed : around.parsers.createMessage body = .ok req) :
    Authorised context req.groupId := by
  obtain ⟨permission, -, ⟨accepted⟩⟩ := accepted_of_admit admitted
  have same : accepted.body = body := by
    have isSame := accepted.isBody
    rw [isBody] at isSame
    exact (Option.some.inj isSame).symm
  have isClaim := accepted.isClaim
  unfold signedClaim at isClaim
  rw [method_of_post isPost, if_pos (show Method.useBodyAuth .post = true from rfl),
    same] at isClaim
  unfold claimOfBody at isClaim
  cases isFields : around.parsers.authFields body with
  | error => cases isFields ▸ isClaim
  | ok fields =>
    rw [isFields] at isClaim
    have isGroup : accepted.claim.groupId = fields.groupId := by rw [← Except.ok.inj isClaim]
    unfold Authorised
    rw [accepted.group, isGroup, alike.groupId body fields req isFields parsed]

end Admission

/-! ## Every route -/

section Routing

variable {around : Surroundings} {relay : Relay} {request : HttpRequest} {auth : Option AuthContext}

/-- The groups that a request may touch: the one that was checked, and those that its handler does
not compare with it. -/
def Allowed (around : Surroundings) (relay : Relay) (request : HttpRequest)
    (auth : Option AuthContext) (groupId : String) : Prop :=
  (∃ context, auth = some context ∧ Authorised context groupId) ∨
    Unchecked around relay request auth groupId

theorem within_checked {reply : AuthContext → Reply}
    (within : ∀ context, Normal context → Within (Authorised context) relay (reply context))
    (admitted : admission around relay request = .ok auth) :
    Within (Allowed around relay request auth) relay (withAuth relay auth reply) := by
  refine Within.withAuth fun context isAuth => ?_
  subst isAuth
  exact (within context (normal_of_admission admitted)).mono fun groupId isOwn =>
    .inl ⟨context, rfl, isOwn⟩

theorem within_route (alike : around.parsers.Alike)
    (admitted : admission around relay request = .ok auth) {groupRoute : GroupRoute}
    (isRoute : matchRoute request.path = some groupRoute) {verb : Option Verb}
    (isVerb : Method.verb request.method = verb) (hasBody : request.method ≠ .head) :
    Within (Allowed around relay request auth) relay
      (route around relay request auth groupRoute verb) := by
  unfold route
  split
  · exact within_checked (fun context normal => Within.withQuery fun query _ =>
      within_getMessages normal query) admitted
  · refine Within.withAuth fun context isAuth => ?_
    subst isAuth
    refine Within.withJson fun body req isJson isBody parsed => ?_
    refine (within_createMessage (authorised_of_body alike admitted isVerb isBody parsed)).mono ?_
    rintro groupId (isOwn | ⟨id, row, repeats, found, rfl⟩)
    · exact .inl ⟨context, rfl, isOwn⟩
    · exact .inr (.repeated isRoute isVerb isJson isBody parsed repeats found)
  · exact within_checked (fun context normal => Within.withJson fun _ req _ _ _ =>
      within_updateMessage normal req) admitted
  · exact within_checked (fun context normal => Within.withJson fun _ body _ _ _ =>
      within_respond normal body) admitted
  · refine Within.withParam fun messageId _ => ?_
    split
    · exact .refused _ _
    · exact within_checked (fun context normal => within_deleteMessage normal _) admitted
  · exact Within.withParam fun groupId _ => within_checked (fun context normal =>
      Within.withQuery fun chainSeq _ => within_listReactions normal groupId chainSeq) admitted
  · exact Within.withParam fun groupId _ => within_checked (fun context normal =>
      Within.withJson fun _ body _ _ _ => within_postReaction normal groupId body) admitted
  · exact Within.withParam fun groupId _ => within_checked (fun context normal =>
      within_listPins normal groupId) admitted
  · exact Within.withParam fun groupId _ => within_checked (fun context normal =>
      Within.withJson fun _ body _ _ _ => within_setPin normal groupId body) admitted
  · exact Within.withParam fun groupId _ => within_checked (fun context normal =>
      within_getReceipts normal groupId) admitted
  · exact Within.withParam fun groupId _ => within_checked (fun context normal =>
      Within.withJson fun _ body _ _ _ => within_postReceipts normal groupId body) admitted
  · exact Within.withParam fun groupId _ => within_checked (fun context normal =>
      within_getPrefs normal groupId) admitted
  · exact Within.withParam fun groupId _ => within_checked (fun context normal =>
      Within.withJson fun _ body _ _ _ => within_putPrefs normal groupId body) admitted
  · exact Within.withParam fun groupId _ => within_checked (fun context normal =>
      Within.withJson fun _ typing _ _ _ => within_postTyping normal groupId typing) admitted
  · exact Within.withParam fun groupId _ => within_checked (fun context normal =>
      within_getGroupPresence normal groupId) admitted
  · -- nothing is compared with the group of the path
    refine Within.withAuth fun context isAuth => ?_
    subst isAuth
    refine Within.withParam fun groupId decoded => .same fun other isRead => ?_
    rw [List.mem_singleton.mp isRead]
    exact .inr (.notificationKeys isRoute (method_of_read hasBody isVerb) decoded)
  · exact Within.withParam fun groupId _ => within_checked (fun context normal => by
      split
      · exact .refused _ _
      · exact within_uploadAttachment normal groupId _) admitted
  · exact Within.withParam fun groupId _ => Within.withParam fun attachmentId _ =>
      within_checked (fun context normal =>
        within_downloadAttachment normal groupId attachmentId) admitted
  · exact within_checked (fun context normal => Within.withParam fun groupId _ =>
      Within.withJson fun _ body _ _ _ => within_postWelcome normal groupId body) admitted
  · exact within_checked (fun context normal => Within.withParam fun groupId _ =>
      within_getGroupInfo normal groupId) admitted
  · exact within_checked (fun context normal => Within.withParam fun groupId _ =>
      Within.withJson fun _ hexInfo _ _ _ => within_putGroupInfo normal groupId hexInfo) admitted
  · -- and here the handler does not even know who asks
    refine Within.withParam fun groupId decoded => Within.withQuery fun query parsed => ?_
    unfold getArchiveMessages
    split
    · exact .refused _ _
    next archive enabled =>
    split
    · exact .refused _ _
    next messages hasNext answered =>
    refine .same fun other isRead => ?_
    rw [List.mem_singleton.mp isRead]
    have isGet := method_of_read hasBody isVerb
    exact .inr (.archive isRoute isGet decoded parsed enabled answered)
  · exact .refused _ _

theorem touches_of_unchecked (admitted : admission around relay request = .ok auth)
    {groupId : String}
    (unchecked : Unchecked around relay request auth groupId) :
    Touches relay (serve around relay request) groupId := by
  left
  unfold admission at admitted
  cases unchecked with
  | @archive _ raw _ query archive page isRoute isGet decoded parsed enabled answered =>
    have isReply : serve around relay request = getArchiveMessages relay groupId query := by
      simp only [serve, isRoute, admitted, isGet, Method.verb, route, withParam, decoded,
        withQuery, parsed]
      rfl
    rw [isReply]
    simp [getArchiveMessages, enabled, answered, Answer.groups, Payload.groups]
  | @notificationKeys context raw _ isRoute isGet decoded =>
    have isReply : serve around relay request =
        getGroupNotificationKeys relay context groupId := by
      simp only [serve, isRoute, admitted, isGet, Method.verb, route, withAuth, withParam, decoded]
      rfl
    rw [isReply]
    simp [getGroupNotificationKeys, Answer.groups, Payload.groups]
  | @repeated context body req id row isRoute isPost isJson isBody parsed repeats found =>
    have isReply : serve around relay request = createMessage around relay context req := by
      simp only [serve, isRoute, admitted, method_of_post isPost, Method.verb, route, withAuth,
        withJson, isJson, isBody, parsed]
      rfl
    obtain ⟨status, answered⟩ := createMessage_of_repeats repeats
    rw [isReply]
    unfold createMessage finish
    rcases ran : Relayer.createMessage around.crates around.services context req relay.app with
      ⟨outcome, app⟩
    cases ran ▸ answered
    simp [Answer.groups, Payload.groups, found]

/-! ## The theorem -/

/-- Without a context a handler changes nothing. -/
theorem route_unauthenticated (groupRoute : GroupRoute) (verb : Option Verb) :
    (route around relay request none groupRoute verb).2 = relay := by
  unfold route
  split <;> simp only [withAuth, withParam, withQuery, getArchiveMessages] <;> repeat' split
  all_goals rfl

/-- A request is turned away or is a `HEAD`, and touches nothing; or it has passed the router and
the authenticator, and its handler answers. -/
theorem serve_cases (around : Surroundings) (relay : Relay) (request : HttpRequest) :
    (serve around relay request).1.groups relay = [] ∧ (serve around relay request).2 = relay ∨
      ∃ groupRoute auth, matchRoute request.path = some groupRoute ∧
        request.method ≠ .head ∧ admission around relay request = .ok auth ∧
        serve around relay request =
          route around relay request auth groupRoute (Method.verb request.method) := by
  unfold serve
  cases isRoute : matchRoute request.path with
  | none => exact .inl ⟨rfl, rfl⟩
  | some groupRoute =>
    dsimp only
    cases admitted : authMiddleware around.authCrates around.parsers.authFields around.serverTime
      around.requestTtlSeconds relay.app.membershipStore request with
    | error rejection => exact .inl ⟨rfl, rfl⟩
    | ok auth =>
      dsimp only [bodyFor]
      by_cases isHead : request.method = .head
      · have isNone : auth = none := by
          rw [authMiddleware, isHead] at admitted
          exact (Except.ok.inj admitted).symm
        rw [if_pos isHead, isNone]
        refine .inl ⟨?_, route_unauthenticated groupRoute _⟩
        cases (route around relay request none groupRoute (Method.verb request.method)).1 <;> rfl
      · rw [if_neg isHead]
        exact .inr ⟨groupRoute, auth, rfl, isHead, admitted, rfl⟩

/-- **Authorisation covers the group that is acted on exactly where the sender is permitted in the
group that is touched unchecked**: for every request, in every state. -/
theorem covered_iff (around : Surroundings) (alike : around.parsers.Alike) (relay : Relay)
    (request : HttpRequest) :
    Covered around relay request ↔ PermittedUnchecked around relay request := by
  constructor
  · intro covered auth groupId admitted unchecked
    obtain ⟨other, isOther, permits⟩ := covered groupId (touches_of_unchecked admitted unchecked)
    cases admitted ▸ isOther
    exact permits
  intro permitted groupId touched
  rcases serve_cases around relay request with
    ⟨noGroups, same⟩ | ⟨groupRoute, auth, isRoute, hasBody, admitted, isReply⟩
  · rcases touched with isRead | isChanged
    · rw [noGroups] at isRead
      exact absurd isRead List.not_mem_nil
    · rw [same] at isChanged
      exact absurd rfl isChanged
  rw [isReply] at touched
  refine ⟨auth, admitted, ?_⟩
  rcases within_route alike admitted isRoute rfl hasBody groupId touched with
    ⟨context, isAuth, isOwn⟩ | unchecked
  · subst isAuth
    exact permits_of_authorised admitted isOwn
  · exact permitted auth groupId admitted unchecked

end Routing

/-! ## Sample requests -/

def unparsed {α : Type} : Bytes → Except String α := fun _ => .error "EOF while parsing a value"

def sampleParsers : Parsers where
  percentDecode := some
  isJson := fun _ => false
  authFields := unparsed
  createMessage := unparsed
  updateMessage := unparsed
  respond := unparsed
  postReaction := unparsed
  postPin := unparsed
  postReceipt := unparsed
  putPrefs := unparsed
  postTyping := unparsed
  upload := unparsed
  postWelcome := unparsed
  putGroupInfo := unparsed
  messagesQuery := fun _ => .ok ⟨none, none, none, none, none⟩
  reactionsQuery := fun _ => .ok none
  archiveQuery := fun _ => .ok ⟨none, none, none, none⟩

theorem sampleParsers_alike : sampleParsers.Alike where
  groupId := by
    rintro body fields req isFields -
    cases isFields

/-- A relayer that accepts the zkLogin proofs of its samples. -/
def sampleSurroundings : Surroundings where
  authCrates :=
    { parseSignature := fun _ => .ok ()
      verifyPersonalMessage := fun _ _ => .error "no keypair signed"
      blake2b256 := fun _ => List.replicate 32 0
      verifyZklogin := fun _ _ _ => .ok (.ed25519, List.replicate 32 7) }
  crates := CommitLog.sampleCrates
  parsers := sampleParsers
  services := CommitLog.sampleServices
  serverTime := 1000
  requestTtlSeconds := 300
  realtimeEnabled := true
  typingAllowed := true
  objectStoreUp := true
  maxAttachmentBytes := 1024

/-- One wallet reads group `0x1`, another one group `0x2`; both groups have an archive, and each
wallet a device. -/
def sampleRelay : Relay where
  app :=
    { storage := .new
      mls := .new
      membershipStore :=
        (MembershipStore.new.addMember "0x1" "0xa" [.messagingReader]).addMember "0x2" "0xb"
          [.messagingReader] }
  groups := fun _ => .empty
  lastSeen := fun _ => none
  isOnline := fun _ => false
  deviceKeys := [⟨"0xa", "a", "k", "ios", none⟩, ⟨"0xb", "b", "l", "ios", none⟩]
  attachmentStore := false
  archiveRead := some
    { listForGroup := fun ns groupId _ =>
        .ok [⟨ns, groupId, 1, some 1, "SYNCED", groupId ++ "/1"⟩]
      object := fun key => some (.str key)
      defaultNamespace := "messages" }

/-- A `GET` that names group `0x1` to the authenticator. -/
def sampleGet (path : List String) : HttpRequest where
  method := .get
  path := path
  query := ""
  headers :=
    [("x-sender-address", Text.utf8 "0xa"), ("x-timestamp", Text.utf8 "1000"),
      ("x-group-id", Text.utf8 "0x1"), ("x-signature", Text.utf8 "05"),
      ("x-public-key", Text.utf8 "05")]
  body := some []

/-- A member reads the archive of its group. -/
theorem archive_of_own_group :
    Covered sampleSurroundings sampleRelay
        (sampleGet ["v1", "archive", "groups", "0x1", "messages"]) ∧
      Touches sampleRelay (serve sampleSurroundings sampleRelay
        (sampleGet ["v1", "archive", "groups", "0x1", "messages"])) "0x1" := by
  refine ⟨(covered_iff sampleSurroundings sampleParsers_alike sampleRelay _).mpr ?_,
    .inl (by decide +kernel)⟩
  intro auth groupId admitted unchecked
  have isContext : admission sampleSurroundings sampleRelay
      (sampleGet ["v1", "archive", "groups", "0x1", "messages"]) =
        .ok (some ⟨"0xa", List.replicate 32 7, .ed25519, some "0x1", true⟩) := by
    decide +kernel
  cases isContext ▸ admitted
  cases unchecked with
  | archive isRoute isGet decoded =>
    cases isRoute
    cases decoded
    exact ⟨_, .messagingReader, rfl, rfl, by decide +kernel⟩
  | notificationKeys isRoute | repeated isRoute => cases isRoute

/-- **Any member reads what is stored for any group**: a wallet of group `0x1` gets the archived
messages and the notification keys of group `0x2`. -/
theorem archive_of_foreign_group :
    ¬Covered sampleSurroundings sampleRelay
        (sampleGet ["v1", "archive", "groups", "0x2", "messages"]) ∧
      ¬Covered sampleSurroundings sampleRelay
        (sampleGet ["v1", "groups", "0x2", "notification-keys"]) := by
  have isContext : ∀ path, admission sampleSurroundings sampleRelay (sampleGet path) =
      .ok (some ⟨"0xa", List.replicate 32 7, .ed25519, some "0x1", true⟩) := by
    intro path
    have same : admission sampleSurroundings sampleRelay (sampleGet path) =
        admission sampleSurroundings sampleRelay (sampleGet []) := rfl
    rw [same]
    decide +kernel
  have foreign : ∀ path, ¬∃ auth,
    admission sampleSurroundings sampleRelay (sampleGet path) = .ok auth ∧
      Permits sampleRelay (sampleGet path) auth "0x2" := by
    rintro path ⟨auth, admitted, context, permission, isAuth, required, permitted⟩
    rw [isContext] at admitted
    cases admitted
    cases isAuth
    cases required
    exact absurd permitted (by decide +kernel)
  exact ⟨fun covered => foreign _ (covered "0x2" (.inl (by decide +kernel))),
    fun covered => foreign _ (covered "0x2" (.inl (by decide +kernel)))⟩

end GroupRoutes

end MessagingStack.Relayer

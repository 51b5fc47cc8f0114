import MessagingStack.Relayer.PaymentSettlement

/-!
# Agreement of payment requests and transfers

A request should be paid exactly when a transfer that is pending or successful fulfils it.  The
relayer keeps two rows in agreement by two writes, so it does only if the second write comes: a
task that is lost between the verdict and the reopening, or a verdict that comes before the
request is marked, leaves a request paid by a failed transfer; and since neither the link check
nor the marking looks at deletion, a request can be deleted and paid at once.

`Good` is the condition on the steps, `Settled` the invariant it keeps (who pays a request by a
failed transfer is still at work on it), and `settlement` what holds once no task is left.
-/

namespace MessagingStack.Relayer.PaymentSettlement

open TransferConfirmation

/-! ## Agreement -/

def isPaid (row : Message) : Bool := row.kind == .requestPayment && statusOf row == some "paid"

def named (crates : Crates) (storage : InMemoryStorage) (transfer : Uuid) : Bool :=
  storage.messages.any fun row =>
    isPaid row && fulfilling row == some (crates.uuidToString transfer)

def Process.willRead (transfer : Uuid) : Process → Bool
  | .reopening row => row.id == transfer
  | _ => false

/-- The next operation of the task leaves nothing behind that no one repairs. -/
def Process.safe (crates : Crates) (state : State) : Process → Bool
  -- an open request is marked: it is not deleted, and a transfer that has failed already
  -- still has its reopening before it
  | .marking created requestId _ =>
    state.app.storage.poisoned .messages ||
      (state.app.storage.row requestId).all fun request =>
        statusOf request != some "open" ||
          (!request.isDeleted &&
            ((state.app.storage.row created.id).all (statusOf · != some "failed") ||
              state.processes.any (·.willRead created.id)))
  -- the reopening fails only if there is nothing to reopen
  | .reopening transfer =>
    !state.app.storage.poisoned .messages || !named crates state.app.storage transfer.id
  | .reopenWriting transfer _ =>
    !state.app.storage.poisoned .messages || !named crates state.app.storage transfer
  -- the request has not been paid since the checks
  | .deleting id =>
    state.app.storage.poisoned .messages ||
      (state.app.storage.row id).all fun request => !isPaid request
  | _ => true

/-- The condition on a step: what runs is safe, and a task that is dropped owes no
reopening. -/
def Good (crates : Crates) (state : State) : Input → Prop
  | .run index _ => (state.processes[index]?.all (·.safe crates state)) = true
  | .abandon index =>
    (state.processes[index]?.all fun process =>
      process.reopens.all fun transfer => !named crates state.app.storage transfer) = true
  | _ => True

instance (crates : Crates) (state : State) (input : Input) :
    Decidable (Good crates state input) := by
  cases input <;> unfold Good <;> infer_instance

/-- **The agreement of the claim's two rows.**  A request is paid exactly when it names a
transfer of its group that was sent for it and is pending or successful; and a deleted request
is not paid. -/
def Agreement (crates : Crates) (storage : InMemoryStorage) : Prop :=
  ∀ request ∈ storage.messages, request.kind = .requestPayment →
    (statusOf request = some "paid" ↔
      ∃ transfer ∈ storage.messages,
        fulfilling request = some (crates.uuidToString transfer.id) ∧
          transfer.kind = .tokenTransfer ∧ transfer.isDeleted = false ∧
          transfer.groupId = request.groupId ∧
          linkOf transfer = some (crates.uuidToString request.id) ∧
          (statusOf transfer = some "pending" ∨ statusOf transfer = some "success")) ∧
    (request.isDeleted = true → statusOf request ≠ some "paid")

/-- The request is paid by a failed transfer. -/
def OwedBy (crates : Crates) (storage : InMemoryStorage) (id transfer : Uuid) : Prop :=
  ∃ request row, storage.row id = some request ∧ isPaid request = true ∧
    fulfilling request = some (crates.uuidToString transfer) ∧
    storage.row transfer = some row ∧ statusOf row = some "failed"

/-- What the condition keeps: a paid request is not deleted, and who pays it by a failed
transfer is still at work on it. -/
structure Settled (crates : Crates) (state : State) : Prop where
  live : ∀ id request, state.app.storage.row id = some request → isPaid request = true →
    request.isDeleted = false
  owed : ∀ id transfer, OwedBy crates state.app.storage id transfer →
    transfer ∈ reopening state.processes

section Condition

variable {crates : Crates} {state : State}

theorem isPaid_iff {row : Message} :
    isPaid row = true ↔ row.kind = .requestPayment ∧ statusOf row = some "paid" := by
  simp [isPaid]

theorem named_of_owed {storage : InMemoryStorage} {id transfer : Uuid}
    (owed : OwedBy crates storage id transfer) : named crates storage transfer = true := by
  obtain ⟨request, row, found, paid, names, -⟩ := owed
  exact List.any_eq_true.mpr ⟨request, List.mem_of_find?_eq_some found, by simp [paid, names]⟩

variable (crates) in
theorem row_write (now : Timestamp) (storage : InMemoryStorage) (id : Uuid)
    (transition : Transition) :
    (Transition.write crates now storage id transition).2 = storage ∨
      ∃ row, Ready storage id transition row ∧
        ∀ other, (Transition.write crates now storage id transition).2.row other =
          if other = id then some (transition.apply crates now row) else storage.row other := by
  rcases write_cases crates now storage id transition with
    ⟨result, written, -⟩ | ⟨row, ready, written⟩
  · exact .inl (congrArg Prod.snd written)
  refine .inr ⟨row, ready, fun other => ?_⟩
  have keepsId : ∀ message, (transition.apply crates now message).id = message.id := fun _ => rfl
  rw [written, InMemoryStorage.row_replaceRow storage id other keepsId, ready.found]
  rfl

/-- What a run of a safe task does to the two facts. -/
structure Repairs (crates : Crates) (state : State) (process : Process) (next : Next) :
    Prop where
  live : ∀ id request, next.1.row id = some request → isPaid request = true →
    request.isDeleted = false
  owed : ∀ id transfer, OwedBy crates next.1 id transfer →
    transfer ∈ reopening next.2 ∨
      (transfer ∈ reopening state.processes ∧ process.reopens ≠ some transfer)

/-- A task that changes no row, and reopens nothing that it does not go on with. -/
theorem Repairs.of_messages (settled : Settled crates state) {process : Process} {next : Next}
    (same : next.1.messages = state.app.storage.messages)
    (goesOn : ∀ id transfer, process.reopens = some transfer →
      OwedBy crates state.app.storage id transfer → transfer ∈ reopening next.2) :
    Repairs crates state process next := by
  have sameRow : ∀ id, next.1.row id = state.app.storage.row id := fun id => by
    rw [InMemoryStorage.row, same]
    rfl
  constructor
  · intro id request found
    exact settled.live id request (sameRow id ▸ found)
  intro id transfer owed
  have before : OwedBy crates state.app.storage id transfer := by
    obtain ⟨request, row, found, paid, names, isRow, failed⟩ := owed
    rw [sameRow] at found isRow
    exact ⟨request, row, found, paid, names, isRow, failed⟩
  by_cases own : process.reopens = some transfer
  · exact .inl (goesOn id transfer own before)
  · exact .inr ⟨settled.owed id transfer before, own⟩

theorem Repairs.of_append (settled : Settled crates state) {process : Process} {next : Next}
    {added : Message} (idle : process.reopens = none)
    (rows : ∀ id, next.1.row id = if id = added.id then some added else state.app.storage.row id)
    (unpaid : isPaid added = false) (notFailed : statusOf added ≠ some "failed") :
    Repairs crates state process next := by
  constructor
  · intro id request found paid
    rw [rows] at found
    split_ifs at found
    · cases found
      cases unpaid ▸ paid
    · exact settled.live id request found paid
  rintro id transfer ⟨request, row, found, paid, names, isRow, failed⟩
  rw [rows] at found isRow
  split_ifs at found
  · cases found
    cases unpaid ▸ paid
  split_ifs at isRow
  · cases isRow
    exact absurd failed notFailed
  · refine .inr ⟨settled.owed id transfer ⟨request, row, found, paid, names, isRow, failed⟩, ?_⟩
    rw [idle]
    exact nofun

section Write

variable {now : Timestamp} {storage after : InMemoryStorage} {id : Uuid} {row : Message}
  {transition : Transition}

theorem target_paid (isPaid : transition.target = "paid") :
    ∃ transfer digest, transition = .paid transfer digest := by
  cases transition with
  | paid transfer digest => exact ⟨transfer, digest, rfl⟩
  | resolved verdict => cases verdict <;> simp [Transition.target] at isPaid
  | reopened => simp [Transition.target] at isPaid
  | responded action => cases action <;> simp [Transition.target, RequestAction.targetStatus] at isPaid

theorem target_failed (isFailed : transition.target = "failed") :
    ∃ reason, transition = .resolved (.failed reason) := by
  cases transition with
  | paid | reopened => simp [Transition.target] at isFailed
  | resolved verdict =>
    cases verdict with
    | success => simp [Transition.target] at isFailed
    | failed reason => exact ⟨reason, rfl⟩
  | responded action =>
    cases action <;> simp [Transition.target, RequestAction.targetStatus] at isFailed

theorem owedBy_write (lawful : LawfulUuid crates) (rowOk : RowOk row)
    (ready : Ready storage id transition row)
    (rows : ∀ other, after.row other =
      if other = id then some (transition.apply crates now row) else storage.row other)
    {request transfer : Uuid} (owed : OwedBy crates after request transfer) :
    (request ≠ id ∧ OwedBy crates storage request transfer) ∨
      (∃ digest held, transition = .paid transfer digest ∧
        storage.row transfer = some held ∧ statusOf held = some "failed") ∨
      (∃ reason, transition = .resolved (.failed reason) ∧ id = transfer) := by
  obtain ⟨paidRow, held, found, paid, names, isHeld, failed⟩ := owed
  obtain ⟨fields, isObject⟩ := rowOk.object ready.payment
  have newStatus : statusOf (transition.apply crates now row) = some transition.target :=
    status_apply crates now transition isObject
  rw [rows] at found isHeld
  by_cases isRequest : request = id
  · rw [if_pos isRequest, Option.some.injEq] at found
    subst found
    have isTarget := (isPaid_iff.mp paid).2
    rw [newStatus, Option.some.injEq] at isTarget
    obtain ⟨payer, digest, rfl⟩ := target_paid isTarget
    rw [fulfilling_apply crates now _ isObject, Option.some.injEq] at names
    have samePayer : payer = transfer := lawful.injective names
    by_cases isTransfer : transfer = id
    · rw [if_pos isTransfer, Option.some.injEq] at isHeld
      rw [← isHeld, newStatus] at failed
      simp [Transition.target] at failed
    · rw [if_neg isTransfer] at isHeld
      exact .inr (.inl ⟨digest, held, by rw [samePayer], isHeld, failed⟩)
  rw [if_neg isRequest] at found
  by_cases isTransfer : transfer = id
  · rw [if_pos isTransfer, Option.some.injEq] at isHeld
    rw [← isHeld, newStatus, Option.some.injEq] at failed
    obtain ⟨reason, isFailed⟩ := target_failed failed
    exact .inr (.inr ⟨reason, isFailed, isTransfer.symm⟩)
  · rw [if_neg isTransfer] at isHeld
    exact .inl ⟨isRequest, paidRow, held, found, paid, names, isHeld, failed⟩

theorem live_write (rowOk : RowOk row) (ready : Ready storage id transition row)
    (rows : ∀ other, after.row other =
      if other = id then some (transition.apply crates now row) else storage.row other)
    (live : ∀ other request, storage.row other = some request → isPaid request = true →
      request.isDeleted = false)
    (marked : ∀ transfer digest, transition = .paid transfer digest → row.isDeleted = false)
    (other : Uuid) (request : Message) (found : after.row other = some request)
    (paid : isPaid request = true) : request.isDeleted = false := by
  obtain ⟨fields, isObject⟩ := rowOk.object ready.payment
  rw [rows] at found
  split_ifs at found
  · cases found
    have isTarget := (isPaid_iff.mp paid).2
    have newStatus : statusOf (transition.apply crates now row) = some transition.target :=
      status_apply crates now transition isObject
    rw [newStatus, Option.some.injEq] at isTarget
    obtain ⟨transfer, digest, isMark⟩ := target_paid isTarget
    rw [apply_isDeleted]
    exact marked transfer digest isMark
  · exact live other request found paid

end Write

end Condition

section Repair

variable {crates : Crates} {state : State}

theorem repairs_write (lawful : LawfulUuid crates) (sound : Sound crates state)
    (settled : Settled crates state) (now : Timestamp) (id : Uuid) (transition : Transition)
    (process : Process) (left : List Process) (idle : process.reopens = none)
    (noMark : ∀ transfer digest, transition ≠ .paid transfer digest)
    (goesOn : ∀ row reason, Ready state.app.storage id transition row →
      transition = .resolved (.failed reason) → id ∈ reopening left) :
    Repairs crates state process
      ((Transition.write crates now state.app.storage id transition).2, left) := by
  rcases row_write crates now state.app.storage id transition with
    same | ⟨row, ready, rows⟩
  · refine .of_messages settled (congrArg (·.messages) same) ?_
    intro _ transfer own
    cases idle ▸ own
  have rowOk := sound.rows.rows id row ready.found
  constructor
  · exact live_write rowOk ready rows settled.live
      (fun transfer digest isMark => absurd isMark (noMark transfer digest))
  intro request transfer owed
  rcases owedBy_write lawful rowOk ready rows owed with
    ⟨-, before⟩ | ⟨digest, -, isMark, -⟩ | ⟨reason, isFailed, rfl⟩
  · refine .inr ⟨settled.owed request transfer before, ?_⟩
    rw [idle]
    exact nofun
  · exact absurd isMark (noMark transfer digest)
  · exact .inl (goesOn row reason ready isFailed)

theorem repairs_applying (lawful : LawfulUuid crates) (sound : Sound crates state)
    (settled : Settled crates state) (now : Timestamp) (message : Message) (verdict : Verdict) :
    Repairs crates state (.applying message verdict)
      (writeVerdict now message verdict state.app.storage) := by
  have effect := fun left goesOn => repairs_write lawful sound settled now message.id
    (.resolved verdict) (.applying message verdict) left rfl (fun _ _ => nofun) goesOn
  unfold writeVerdict
  rw [applyVerdict_eq crates]
  rcases write_cases crates now state.app.storage message.id (.resolved verdict) with
    ⟨result, written, stays⟩ | ⟨row, ready, written⟩
  · rw [written]
    have idle : ∀ id transfer, (Process.applying message verdict).reopens = some transfer →
        OwedBy crates state.app.storage id transfer →
        transfer ∈ reopening ([] : List Process) := fun _ _ own => nomatch own
    cases result with
    | error => exact .of_messages settled rfl fun _ _ own => nomatch own
    | ok updated =>
      cases updated with
      | none => exact .of_messages settled rfl idle
      | some updated => exact absurd rfl (stays updated)
  rw [written] at effect ⊢
  cases verdict with
  | success => exact effect [] (fun _ _ _ isFailed => nomatch isFailed)
  | failed =>
    refine effect [.reopening _] (fun _ _ _ _ => ?_)
    have rowId : row.id = message.id := InMemoryStorage.row_id ready.found
    exact mem_reopening.mpr ⟨_, List.mem_singleton.mpr rfl, congrArg some rowId⟩

variable {requestId transfer : Uuid} {process : Process}

theorem repairs_marking (lawful : LawfulUuid crates) (sound : Sound crates state)
    (settled : Settled crates state) (now : Timestamp) {created : Message} {digest : String}
    (safe : (Process.marking created requestId digest).safe crates state = true) :
    Repairs crates state (.marking created requestId digest)
      ((Process.marking created requestId digest).run crates now state.app.storage) := by
  show Repairs crates state _
    ((Transition.write crates now state.app.storage requestId (.paid created.id digest)).2, _)
  rcases row_write crates now state.app.storage requestId
      (.paid created.id digest) with same | ⟨row, ready, rows⟩
  · exact .of_messages settled (congrArg (·.messages) same) fun _ _ own => nomatch own
  have rowOk := sound.rows.rows requestId row ready.found
  have isOpen : statusOf row = some "open" := ready.status
  simp only [Process.safe, ready.readable, ready.found, isOpen, Option.all_some,
    bne_self_eq_false,
    Bool.false_or, Bool.and_eq_true, Bool.not_eq_eq_eq_not, Bool.not_true,
      Bool.or_eq_true] at safe
  obtain ⟨notDeleted, notLate⟩ := safe
  constructor
  · exact live_write rowOk ready rows settled.live (fun _ _ _ => notDeleted)
  intro request transfer owed
  rcases owedBy_write lawful rowOk ready rows owed with
    ⟨-, before⟩ | ⟨digest, held, isMark, isHeld, failed⟩ | ⟨reason, isFailed, -⟩
  · exact .inr ⟨settled.owed request transfer before, nofun⟩
  · cases isMark
    rcases notLate with notFailed | willRead
    · rw [isHeld, Option.all_some, failed] at notFailed
      simp at notFailed
    obtain ⟨other, present, reads⟩ := List.any_eq_true.mp willRead
    refine .inr ⟨mem_reopening.mpr ⟨other, present, ?_⟩, nofun⟩
    cases other with
    | reopening => exact congrArg some (by simpa [Process.willRead] using reads)
    | inserting | marking | resolving | applying | reopenWriting | responding | deleting =>
      cases reads
  · cases isFailed

theorem repairs_inserting (settled : Settled crates state)
    {message : Message} {transfer : Option TokenTransferCreate}
    (ok : (Process.inserting message transfer).Ok crates state.app.storage) :
    Repairs crates state (.inserting message transfer)
      (insertRow message transfer state.app.storage) := by
  obtain ⟨created, status, -⟩ := ok
  have outcome := PostAtomicity.createMessage_outcome state.app.storage message
  have rows : (insertRow message transfer state.app.storage).1 =
      (state.app.storage.createMessage message).2 := by
    unfold insertRow
    rcases state.app.storage.createMessage message with ⟨result, after⟩
    cases result with
    | error => rfl
    | ok =>
      simp only
      split <;> rfl
  rcases outcome with ⟨reason, -, same⟩ | ⟨order, -, fresh, -, appended⟩
  · exact .of_messages settled (by rw [rows, same]) fun _ _ own => nomatch own
  have rowOk := rowOk_created created status order
  have appended : (insertRow message transfer state.app.storage).1.messages =
      state.app.storage.messages ++ [message.setOrder order] := by rw [rows, appended]
  have fresh : ∀ row ∈ state.app.storage.messages, row.id ≠ (message.setOrder order).id := fresh
  refine .of_append settled rfl (row_append fresh appended) ?_ ?_
  · rw [Bool.eq_false_iff]
    intro paid
    exact rowOk.2 (isPaid_iff.mp paid).1 (isPaid_iff.mp paid).2
  cases created with
  | transfer create recipient kind metadata =>
    simp only [statusOf, metaStr, Message.setOrder, metadata]
    show some "pending" ≠ some "failed"
    decide
  | request create payer kind metadata =>
    simp only [statusOf, metaStr, Message.setOrder, metadata]
    show some "open" ≠ some "failed"
    decide
  | other kind metadata =>
    simp only [statusOf, metaStr, Message.setOrder, metadata]
    decide

theorem owedBy_unique (lawful : LawfulUuid crates) (sound : Sound crates state)
    {first second : Uuid} (firstOwed : OwedBy crates state.app.storage first transfer)
    (secondOwed : OwedBy crates state.app.storage second transfer) : first = second := by
  have link : ∀ {id : Uuid}, OwedBy crates state.app.storage id transfer →
      ∃ row, state.app.storage.row transfer = some row ∧
        linkOf row = some (crates.uuidToString id) := by
    rintro id ⟨request, row, found, paid, names, -⟩
    obtain ⟨kind, status⟩ := isPaid_iff.mp paid
    obtain ⟨payer, fulfils⟩ := sound.rows.paid id request found kind status
    have samePayer : payer.id = transfer := by
      have namesPayer := fulfils.named
      rw [names, Option.some.injEq] at namesPayer
      exact (lawful.injective namesPayer).symm
    refine ⟨payer, samePayer ▸ fulfils.found, ?_⟩
    rw [fulfils.linked, InMemoryStorage.row_id found]
  obtain ⟨row, isRow, toFirst⟩ := link firstOwed
  obtain ⟨row', isRow', toSecond⟩ := link secondOwed
  rw [isRow, Option.some.injEq] at isRow'
  subst isRow'
  rw [toFirst, Option.some.injEq] at toSecond
  exact lawful.injective toSecond

theorem repairs_reopening (lawful : LawfulUuid crates) (sound : Sound crates state)
    (settled : Settled crates state) {transfer : Message}
    (ok : (Process.reopening transfer).Ok crates state.app.storage)
    (safe : (Process.reopening transfer).safe crates state = true) :
    Repairs crates state (.reopening transfer) (readRequest crates transfer state.app.storage) := by
  have same : (readRequest crates transfer state.app.storage).1 = state.app.storage := by
    unfold readRequest
    cases linkedRequest crates state.app.storage transfer <;> rfl
  refine .of_messages settled (congrArg (·.messages) same) ?_
  intro id failedId own owed
  cases own
  have isNamed := named_of_owed owed
  have readable : state.app.storage.poisoned .messages = false := by
    simpa [Process.safe, isNamed] using safe
  -- the request that is owed is the one the transfer was sent for
  obtain ⟨request, row, found, paid, names, isRow, -⟩ := owed
  obtain ⟨kind, status⟩ := isPaid_iff.mp paid
  obtain ⟨payer, fulfils⟩ := sound.rows.paid id request found kind status
  have namesPayer := fulfils.named
  rw [names, Option.some.injEq] at namesPayer
  have samePayer : transfer.id = payer.id := lawful.injective namesPayer
  obtain ⟨held, failed, link⟩ := ok
  have isPayer := failed.found
  rw [samePayer, fulfils.found, Option.some.injEq] at isPayer
  subst isPayer
  have isLink : metaStr transfer "request_message_id" = some (crates.uuidToString id) := by
    have linked := fulfils.linked
    rw [InMemoryStorage.row_id found] at linked
    exact link.symm.trans linked
  have read : state.app.storage.getMessage id = .ok request :=
    InMemoryStorage.getMessage_eq_ok.mpr ⟨readable, found⟩
  have linked : linkedRequest crates state.app.storage transfer = some id := by
    unfold linkedRequest
    have isNamed : metaStr request "fulfilling_message_id" =
        some (crates.uuidToString transfer.id) := names
    simp [isLink, lawful id, read, isNamed]
  unfold readRequest
  rw [linked]
  exact mem_reopening.mpr ⟨_, List.mem_singleton.mpr rfl, rfl⟩

theorem repairs_reopenWriting (lawful : LawfulUuid crates) (sound : Sound crates state)
    (settled : Settled crates state) (now : Timestamp)
    (ok : (Process.reopenWriting transfer requestId).Ok crates state.app.storage)
    (safe : (Process.reopenWriting transfer requestId).safe crates state = true) :
    Repairs crates state (.reopenWriting transfer requestId)
      ((reopenRequest now state.app.storage requestId).2, []) := by
  obtain ⟨held, request, failed, found, status, names⟩ := ok
  have rowOk := sound.rows.rows requestId request found
  have kind := (rowOk.named _ names).1
  have own : OwedBy crates state.app.storage requestId transfer :=
    ⟨request, held, found, isPaid_iff.mpr ⟨kind, status⟩, names, failed.found, failed.failed⟩
  have readable : state.app.storage.poisoned .messages = false := by
    simpa [Process.safe, named_of_owed own] using safe
  have ready : Ready state.app.storage requestId .reopened request :=
    ⟨readable, found, by rw [kind]; rfl, status⟩
  rw [reopenRequest_eq crates]
  have rows : ∀ other,
      (Transition.write crates now state.app.storage requestId .reopened).2.row other =
        if other = requestId then some (Transition.reopened.apply crates now request)
        else state.app.storage.row other := by
    intro other
    have keepsId : ∀ message, (Transition.reopened.apply crates now message).id = message.id :=
      fun _ => rfl
    rw [write_of_ready crates now _ _ _ ready,
      InMemoryStorage.row_replaceRow _ requestId other keepsId, found]
    rfl
  constructor
  · exact live_write rowOk ready rows settled.live (fun _ _ isMark => nomatch isMark)
  intro id failedId owed
  rcases owedBy_write lawful rowOk ready rows owed with
    ⟨other, before⟩ | ⟨digest, -, isMark, -⟩ | ⟨reason, isFailed, -⟩
  · refine .inr ⟨settled.owed id failedId before, fun same => other ?_⟩
    cases same
    exact owedBy_unique lawful sound before own
  · cases isMark
  · cases isFailed

theorem repairs_deleting (settled : Settled crates state) (now : Timestamp) {id : Uuid}
    (safe : (Process.deleting id).safe crates state = true) :
    Repairs crates state (.deleting id) ((state.app.storage.deleteMessage now id).2, []) := by
  unfold InMemoryStorage.deleteMessage InMemoryStorage.changeRow
  cases found : state.app.storage.getMessage id with
  | error => exact .of_messages settled rfl fun _ _ own => nomatch own
  | ok row =>
    obtain ⟨readable, isRow⟩ := InMemoryStorage.getMessage_eq_ok.mp found
    have unpaid : isPaid row = false := by simpa [Process.safe, readable, isRow] using safe
    have keepsId : ∀ message : Message, (message.markForDeletion now).id = message.id :=
      fun _ => rfl
    have rows : ∀ other,
        (state.app.storage.replaceRow id (·.markForDeletion now)).row other =
          if other = id then some (row.markForDeletion now) else state.app.storage.row other := by
      intro other
      rw [InMemoryStorage.row_replaceRow _ id other keepsId, isRow]
      rfl
    have unpaidAfter : isPaid (row.markForDeletion now) = false := unpaid
    constructor
    · intro other request isOther paid
      rw [rows] at isOther
      split_ifs at isOther
      · cases isOther
        cases unpaidAfter ▸ paid
      · exact settled.live other request isOther paid
    rintro other transfer ⟨request, held, isOther, paid, names, isHeld, failed⟩
    rw [rows] at isOther isHeld
    split_ifs at isOther
    · cases isOther
      cases unpaidAfter ▸ paid
    refine .inr ⟨settled.owed other transfer ?_, nofun⟩
    split_ifs at isHeld with isTransfer
    · cases isHeld
      exact ⟨request, row, isOther, paid, names, isTransfer ▸ isRow, failed⟩
    · exact ⟨request, held, isOther, paid, names, isHeld, failed⟩

theorem repairs_run (lawful : LawfulUuid crates) (sound : Sound crates state)
    (settled : Settled crates state) (now : Timestamp) (ok : process.Ok crates state.app.storage)
    (safe : process.safe crates state = true) :
    Repairs crates state process (process.run crates now state.app.storage) := by
  cases process with
  | inserting => exact repairs_inserting settled ok
  | marking => exact repairs_marking lawful sound settled now safe
  | resolving => exact .of_messages settled rfl fun _ _ own => nomatch own
  | applying message verdict => exact repairs_applying lawful sound settled now message verdict
  | reopening => exact repairs_reopening lawful sound settled ok safe
  | reopenWriting => exact repairs_reopenWriting lawful sound settled now ok safe
  | responding requestId action =>
    exact repairs_write lawful sound settled now requestId (.responded action)
      (.responding requestId action) [] rfl (fun _ _ => nofun)
      (fun _ _ _ isFailed => nomatch isFailed)
  | deleting => exact repairs_deleting settled now safe

theorem settled_advance {index : Nat} (found : state.processes[index]? = some process) {next : Next}
    (repairs : Repairs crates state process next) :
    Settled crates (state.advance index next) where
  live := repairs.live
  owed := by
    intro id transfer owed
    have split : reopening (state.processes.eraseIdx index ++ next.2) =
        reopening (state.processes.eraseIdx index) ++ reopening next.2 := List.filterMap_append
    show transfer ∈ reopening (state.processes.eraseIdx index ++ next.2)
    rw [split, List.mem_append]
    rcases repairs.owed id transfer owed with left | ⟨present, other⟩
    · exact .inr left
    obtain ⟨task, isTask, reopens⟩ := mem_reopening.mp present
    refine .inl (mem_reopening.mpr ⟨task, ?_, reopens⟩)
    rcases List.mem_cons.mp ((perm_eraseIdx found).mem_iff.mpr isTask) with same | rest
    · rw [same] at reopens
      exact absurd reopens other
    · exact rest

theorem Settled.of_rows {later : State} (settled : Settled crates state)
    (rows : later.app.storage.messages = state.app.storage.messages)
    (tasks : ∀ task ∈ state.processes, task ∈ later.processes) : Settled crates later := by
  have sameRow : ∀ id, later.app.storage.row id = state.app.storage.row id := fun id => by
    rw [InMemoryStorage.row, rows]
    rfl
  constructor
  · intro id request found
    exact settled.live id request (sameRow id ▸ found)
  rintro id transfer ⟨request, row, found, paid, names, isRow, failed⟩
  rw [sameRow] at found isRow
  obtain ⟨task, present, reopens⟩ := mem_reopening.mp
    (settled.owed id transfer ⟨request, row, found, paid, names, isRow, failed⟩)
  exact mem_reopening.mpr ⟨task, tasks task present, reopens⟩

theorem settled_step (lawful : LawfulUuid crates) (sound : Sound crates state)
    (settled : Settled crates state) (input : Input) (good : Good crates state input) :
    Settled crates (step crates state input) := by
  have joins : ∀ process, Settled crates (state.spawn process) := fun process =>
    settled.of_rows rfl fun _ present => List.mem_append_left _ present
  cases input with
  | post services auth req =>
    obtain ⟨sameStorage, same | ⟨message, transfer, spawned, -⟩⟩ :=
      beginPost_cases crates state services auth req
    · exact settled.of_rows (congrArg (·.messages) sameStorage) fun _ present => same.symm ▸ present
    · exact settled.of_rows (congrArg (·.messages) sameStorage)
        fun _ present => spawned.symm ▸ List.mem_append_left _ present
  | sweep =>
    simp only [step]
    split
    · split_ifs
      · exact joins _
      · exact settled
    · exact settled
  | respond | delete =>
    simp only [step]
    split
    · exact joins _
    · exact settled
  | lookup index answer tooOld =>
    simp only [step]
    cases found : state.processes[index]? with
    | none => exact settled
    | some process =>
      refine settled_advance found (.of_messages settled rfl ?_)
      intro id transfer own _
      have stays : process.answered answer tooOld = [process] := by
        cases process <;> first | rfl | cases own
      exact mem_reopening.mpr ⟨process, stays ▸ List.mem_singleton.mpr rfl, own⟩
  | run index now =>
    simp only [step]
    cases found : state.processes[index]? with
    | none => exact settled
    | some process =>
      have ok := sound.tasks process (List.mem_of_getElem? found)
      have safe : process.safe crates state = true := by simpa [Good, found] using good
      exact settled_advance found (repairs_run lawful sound settled now ok safe)
  | abandon index =>
    refine ⟨settled.live, fun id transfer owed => ?_⟩
    obtain ⟨task, present, reopens⟩ := mem_reopening.mp (settled.owed id transfer owed)
    refine mem_reopening.mpr ⟨task, ?_, reopens⟩
    show task ∈ state.processes.eraseIdx index
    cases found : state.processes[index]? with
    | none => rwa [List.eraseIdx_of_length_le (List.getElem?_eq_none_iff.mp found)]
    | some =>
      rcases List.mem_cons.mp ((perm_eraseIdx found).mem_iff.mpr present) with same | rest
      · rw [same] at reopens
        have isNamed : named crates state.app.storage transfer = true := named_of_owed owed
        simp [Good, found, reopens, isNamed] at good
      · exact rest
  | outage | membership => exact settled.of_rows rfl fun _ present => present

theorem settled_start : Settled crates start where
  live := fun _ _ found => nomatch found
  owed := by
    rintro id transfer ⟨request, row, found, -⟩
    cases found

end Repair

section Runs

variable {crates : Crates}

/-- Once no task is left, the two rows agree. -/
theorem agreement_of_settled {state : State} (sound : Sound crates state)
    (settled : Settled crates state) (quiet : state.processes = []) :
    Agreement crates state.app.storage := by
  intro request present isRequest
  have found := InMemoryStorage.row_of_mem sound.distinct present
  refine ⟨⟨fun status => ?_, ?_⟩, fun deleted status => ?_⟩
  · obtain ⟨transfer, fulfils⟩ := sound.rows.paid request.id request found isRequest status
    have transferOk := sound.rows.rows transfer.id transfer fulfils.found
    refine ⟨transfer, List.mem_of_find?_eq_some fulfils.found, fulfils.named, fulfils.kind,
      transferOk.live fulfils.kind, fulfils.group, fulfils.linked, ?_⟩
    rcases transferOk.transfer fulfils.kind with pending | success | failed
    · exact .inl pending
    · exact .inr success
    · have owed := settled.owed request.id transfer.id ⟨request, transfer, found,
        isPaid_iff.mpr ⟨isRequest, status⟩, fulfils.named, fulfils.found, failed⟩
      cases quiet ▸ owed
  · rintro ⟨transfer, -, names, -⟩
    exact ((sound.rows.rows request.id request found).named _ names).2
  · have live := settled.live request.id request found (isPaid_iff.mpr ⟨isRequest, status⟩)
    cases deleted ▸ live

/-- The facts of every run and those of a run under the condition. -/
def Inv (crates : Crates) (state : State) : Prop := Sound crates state ∧ Settled crates state

theorem inv_step (lawful : LawfulUuid crates) (state : State) (input : Input)
    (inv : Inv crates state) (good : Good crates state input) :
    Inv crates (step crates state input) :=
  ⟨(sound_step lawful inv.1 input).1, settled_step lawful inv.1 inv.2 input good⟩

end Runs

/-- The store has a row of the same id, kind and status. -/
def KeepsStatus (storage : InMemoryStorage) (row : Message) : Prop :=
  ∃ later ∈ storage.messages, later.id = row.id ∧ later.kind = row.kind ∧
    statusOf later = statusOf row

/-- **Payment requests and transfers.**  In every run, a transfer that is no longer pending
keeps its status for good, and so does a rejected or cancelled request; and after every run
whose steps meet the condition, as soon as no task is in progress, requests and transfers
agree. -/
theorem settlement (crates : Crates) (lawful : LawfulUuid crates) (inputs : List Input) :
    (∀ before rest, inputs = before ++ rest →
      ∀ row ∈ (reached crates before).app.storage.messages,
        (row.kind = .tokenTransfer → statusOf row ≠ some "pending" →
          KeepsStatus (reached crates inputs).app.storage row) ∧
        (row.kind = .requestPayment →
          statusOf row = some "rejected" ∨ statusOf row = some "cancelled" →
          KeepsStatus (reached crates inputs).app.storage row)) ∧
    (Along (step crates) (Good crates) start inputs →
      (reached crates inputs).processes = [] →
        Agreement crates (reached crates inputs).app.storage) := by
  constructor
  · rintro before rest rfl row present
    have sound : Sound crates (reached crates before) := sound_run lawful before sound_start
    have found := InMemoryStorage.row_of_mem sound.distinct present
    have later : Final (statusOf row) →
        KeepsStatus (reached crates (before ++ rest)).app.storage row := by
      intro final
      obtain ⟨row', found', kind, status⟩ := final_run lawful rest sound found final
      rw [reached, List.foldl_append]
      exact ⟨row', List.mem_of_find?_eq_some found', InMemoryStorage.row_id found', kind, status⟩
    refine ⟨fun isTransfer left => later ?_, fun _ closed => later (.inr (.inr closed))⟩
    rcases (sound.rows.rows row.id row found).transfer isTransfer with pending | success | failed
    · exact absurd pending left
    · exact .inl success
    · exact .inr (.inl failed)
  intro along quiet
  have inv : Inv crates (reached crates inputs) :=
    along.invariant (inv_step lawful) ⟨sound_start, settled_start⟩
  exact agreement_of_settled inv.1 inv.2 quiet

/-! ### A request and two payments -/

def hyphenate (digits : List Char) : List Char :=
  digits.take 8 ++ '-' :: ((digits.drop 8).take 4 ++ '-' :: ((digits.drop 12).take 4 ++
    '-' :: ((digits.drop 16).take 4 ++ '-' :: digits.drop 20)))

theorem filter_hyphenate {digits : List Char} (isDigit : ∀ c ∈ digits, c ≠ '-') :
    (hyphenate digits).filter (· ≠ '-') = digits := by
  have kept : ∀ part : List Char, (∀ c ∈ part, c ∈ digits) →
      part.filter (· ≠ '-') = part := by
    intro part within
    rw [List.filter_eq_self]
    intro c present
    simpa using isDigit c (within c present)
  have hyphen : ('-' ≠ '-') = False := by simp
  simp only [hyphenate, List.filter_append, List.filter_cons, hyphen, decide_false,
    Bool.false_eq_true, ↓reduceIte]
  rw [kept (digits.take 8) fun c present => List.mem_of_mem_take present,
    kept ((digits.drop 8).take 4) fun c present =>
      List.mem_of_mem_drop (List.mem_of_mem_take present),
    kept ((digits.drop 12).take 4) fun c present =>
      List.mem_of_mem_drop (List.mem_of_mem_take present),
    kept ((digits.drop 16).take 4) fun c present =>
      List.mem_of_mem_drop (List.mem_of_mem_take present),
    kept (digits.drop 20) fun c present => List.mem_of_mem_drop present]
  have joined : ∀ start, (digits.drop start).take 4 ++ digits.drop (start + 4) =
      digits.drop start := by
    intro start
    rw [← List.drop_drop]
    exact List.take_append_drop 4 (digits.drop start)
  rw [joined 16, joined 12, joined 8, List.take_append_drop]

def uuidDigits (id : Uuid) : List Char :=
  List.replicate (32 - (Nat.toDigits 10 id).length) '0' ++ Nat.toDigits 10 id

/-- The hyphenated form of a UUID; the ids used here are below ten, where decimal and
hexadecimal digits are the same. -/
def sampleUuidToString (id : Uuid) : String := String.ofList (hyphenate (uuidDigits id))

def sampleParseUuid (text : String) : Option Uuid :=
  let digits := text.toList.filter (· ≠ '-')
  if digits.all Char.isDigit then some (Nat.ofDigitChars 10 digits 0) else none

def sampleCrates : Crates :=
  { CommitLog.sampleCrates with
    parseUuid := sampleParseUuid
    uuidToString := sampleUuidToString }

theorem isDigit_of_mem_uuidDigits {id : Uuid} {c : Char} (present : c ∈ uuidDigits id) :
    c.isDigit = true := by
  rcases List.mem_append.mp present with isZero | isOwn
  · rw [(List.mem_replicate.mp isZero).2]
    rfl
  · exact Nat.isDigit_of_mem_toDigits (by decide) (by decide) isOwn

theorem lawful_sampleCrates : LawfulUuid sampleCrates := by
  intro id
  have digits : (hyphenate (uuidDigits id)).filter (· ≠ '-') = uuidDigits id := by
    refine filter_hyphenate fun c present isHyphen => ?_
    have isDigit := isDigit_of_mem_uuidDigits present
    rw [isHyphen] at isDigit
    exact absurd isDigit (by decide)
  have all : (uuidDigits id).all Char.isDigit = true :=
    List.all_eq_true.mpr fun c present => isDigit_of_mem_uuidDigits present
  have value : Nat.ofDigitChars 10 (uuidDigits id) 0 = id := by
    rw [uuidDigits, Nat.ofDigitChars_append, Nat.ofDigitChars_replicate_zero, Nat.mul_zero,
      Nat.ofDigitChars_ten_toDigits]
  have parses : sampleCrates.parseUuid = sampleParseUuid := rfl
  have prints : sampleCrates.uuidToString = sampleUuidToString := rfl
  rw [parses, prints]
  simp only [sampleParseUuid, sampleUuidToString, String.toList_ofList, digits, all, ↓reduceIte,
    value]

/-- The members of the direct message `g` are `0xa` and `0xb`. -/
def sampleMembers : MembershipStore :=
  (MembershipStore.new.addMember "g" "0xa" [.messagingSender]).addMember "g" "0xb"
    [.messagingSender]

/-- The services of a call whose row gets this id. -/
def servicesFor (id : Uuid) : Services := { CommitLog.sampleServices with newId := id }

def authOf (wallet : String) : AuthContext := { CommitLog.sampleAuth with senderAddress := wallet }

/-- `0xb` asks `0xa` for a payment. -/
def sampleRequest : CreateMessageRequest where
  groupId := "g"
  encryptedText := "00"
  nonce := "000000000000000000000001"
  keyVersion := 0
  senderAddress := "0xb"
  messageSignature := String.ofList (List.replicate 64 ['0', '1']).flatten
  kind := some "request_payment"
  metadata := some (.obj [("asset_kind", .str "native")])
  idempotencyKey := some "request:1"

def sampleDigest : String := "11111111111111111111111111111111"

/-- `0xa` pays the request with id 1. -/
def sampleTransfer : CreateMessageRequest where
  groupId := "g"
  encryptedText := "00"
  nonce := "000000000000000000000002"
  keyVersion := 0
  senderAddress := "0xa"
  messageSignature := String.ofList (List.replicate 64 ['0', '1']).flatten
  kind := some "token_transfer"
  metadata := some (.obj [("digest", .str sampleDigest), ("asset_kind", .str "native"),
    ("request_message_id", .str (sampleUuidToString 1))])
  idempotencyKey := some ("transfer:0xa:" ++ sampleDigest)

/-- The fullnode knows the digest, as a transaction of `0xa` with this outcome. -/
def sampleOutcome (success : Bool) : ChainOutcome := .executed "0xa" success [] []

/-- A request is posted, and a transfer that pays it is posted and resolved. -/
def settleInputs (success : Bool) : List Input :=
  [.membership sampleMembers, .post (servicesFor 1) (authOf "0xb") sampleRequest, .run 0 0,
    .post (servicesFor 2) (authOf "0xa") sampleTransfer, .run 0 0, .run 0 0,
    .lookup 0 (some (sampleOutcome success)) false, .run 0 0]

theorem settleInputs_runs :
    ((reached sampleCrates (settleInputs true)).processes.isEmpty = true ∧
      Along (step sampleCrates) (Good sampleCrates) start (settleInputs true) ∧
      (reached sampleCrates (settleInputs true)).app.storage.messages.map isPaid = [true, false]) ∧
    (reached sampleCrates (settleInputs false ++ [.abandon 0])).processes.isEmpty = true ∧
      (∃ request ∈
        (reached sampleCrates (settleInputs false ++ [.abandon 0])).app.storage.messages,
        request.kind = .requestPayment ∧ statusOf request = some "paid") ∧
      ∀ transfer ∈
        (reached sampleCrates (settleInputs false ++ [.abandon 0])).app.storage.messages,
        statusOf transfer ≠ some "pending" ∧ statusOf transfer ≠ some "success" := by
  decide +kernel

theorem settlement_sample :
    (reached sampleCrates (settleInputs true)).processes = [] ∧
      ((reached sampleCrates (settleInputs true)).app.storage.messages.map isPaid = [true, false]) ∧
      Agreement sampleCrates (reached sampleCrates (settleInputs true)).app.storage := by
  obtain ⟨⟨quiet, good, isPaid⟩, -⟩ := settleInputs_runs
  have quiet := List.isEmpty_iff.mp quiet
  exact ⟨quiet, isPaid,
    (settlement sampleCrates lawful_sampleCrates (settleInputs true)).2 good quiet⟩

/-- **The lost reopening.**  The transfer has failed, and the relayer crashes before it has
read the request: no task is left, and the request is paid by a failed transfer. -/
theorem lost_reopening :
    (reached sampleCrates (settleInputs false ++ [.abandon 0])).processes = [] ∧
      ¬Agreement sampleCrates
        (reached sampleCrates (settleInputs false ++ [.abandon 0])).app.storage := by
  obtain ⟨-, quiet, ⟨request, present, kind, status⟩, noPayment⟩ := settleInputs_runs
  refine ⟨List.isEmpty_iff.mp quiet, fun agreement => ?_⟩
  obtain ⟨transfer, isTransfer, -, -, -, -, -, pending | success⟩ :=
    (agreement request present kind).1.mp status
  · exact (noPayment transfer isTransfer).1 pending
  · exact (noPayment transfer isTransfer).2 success

end MessagingStack.Relayer.PaymentSettlement

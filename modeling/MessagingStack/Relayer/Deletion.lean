import MessagingStack.Relayer.Archive

/-!
# Is deletion permanent?

A deleted row has `sync_status` `DeletePending` or `Deleted`, and four writers change that
field.  The trusted metadata mutator leaves the delete mark alone; the other two do not
look at it: `PUT /messages` marks the row for re-sync whatever its status, and the worker
marks the rows of its batch with the status fixed when it read them
(`deleted_row_revived`).

`deletion_permanent` is the run without these two: when no edit is stored over a deleted
row and no mark of the other two workflows falls on one, a deleted row stays deleted and
out of the unread count.
-/

namespace MessagingStack.Relayer.Archive

def IsDeleted (rows : List Message) (id : Uuid) : Prop :=
  (∃ row ∈ rows, row.id = id) ∧ ∀ row ∈ rows, row.id = id → row.isDeleted = true

instance (rows : List Message) (id : Uuid) : Decidable (IsDeleted rows id) :=
  inferInstanceAs (Decidable (_ ∧ _))

/-- No writer overrides a delete mark in this step: an edit in flight that reaches a deleted
row is refused for its nonce, and the worker marks a deleted row only as deleted. -/
def NoRevival (state : State) : Input → Prop
  | .perform index _ =>
    ∀ edit ∈ (state.writes[index]?).bind Write.edit, IsDeleted state.rows edit.1 →
      ∀ row ∈ state.rows, row.id = edit.1 → row.nonce ≠ edit.2 ∧ edit.2 ∈ state.app.storage.nonces
  | .mark _ =>
    ∀ mark ∈ state.worker.nextMark, IsDeleted state.rows mark.id → mark.workflow = .deleted
  | _ => True

instance (state : State) : (input : Input) → Decidable (NoRevival state input)
  | .perform .. => inferInstanceAs (Decidable (∀ _ ∈ _, _))
  | .mark .. => inferInstanceAs (Decidable (∀ _ ∈ _, _))
  | .post .. | .put .. | .delete .. | .abandon .. | .system .. | .payment .. | .readBatch ..
  | .upload .. | .restart => .isTrue trivial

/-! ## The unread count -/

variable (afterOrder : Int) (tally : InMemoryStorage.ActivityTally)

theorem add_deleted (row : Message) (deleted : row.isDeleted = true) :
    tally.add afterOrder row =
      { tally with latestOrder := max tally.latestOrder (InMemoryStorage.orderKey row) } := by
  simp [InMemoryStorage.ActivityTally.add, deleted]

theorem add_latestOrder (row : Message) (order : Int) :
    ∃ highest, ({ tally with latestOrder := order } : InMemoryStorage.ActivityTally).add
        afterOrder row = { tally.add afterOrder row with latestOrder := highest } := by
  unfold InMemoryStorage.ActivityTally.add
  refine ⟨max order (InMemoryStorage.orderKey row), ?_⟩
  dsimp only
  split_ifs <;> rfl

theorem foldl_add_filter (keep : Message → Bool) (rows : List Message)
    (dropped : ∀ row ∈ rows, keep row = false → row.isDeleted = true)
    (tally : InMemoryStorage.ActivityTally) (order : Int) :
    ∃ highest, (rows.filter keep).foldl (InMemoryStorage.ActivityTally.add afterOrder)
        { tally with latestOrder := order } =
      { rows.foldl (InMemoryStorage.ActivityTally.add afterOrder) tally with
        latestOrder := highest } := by
  induction rows generalizing tally order with
  | nil => exact ⟨order, rfl⟩
  | cons row rest ih =>
    have further := fun other isOther => dropped other (List.mem_cons_of_mem row isOther)
    cases kept : keep row with
    | true =>
      rw [List.filter_cons_of_pos kept, List.foldl_cons, List.foldl_cons]
      obtain ⟨highest, same⟩ := add_latestOrder afterOrder tally row order
      rw [same]
      exact ih further _ _
    | false =>
      rw [List.filter_cons_of_neg (by simp [kept]), List.foldl_cons,
        add_deleted afterOrder tally row (dropped row List.mem_cons_self kept)]
      exact ih further
        { tally with latestOrder := max tally.latestOrder (InMemoryStorage.orderKey row) } order

/-- The unread count of a group does not count the message: it is what it would be without
the row. -/
def Uncounted (storage : InMemoryStorage) (id : Uuid) : Prop :=
  ∀ groupId afterOrder,
    (storage.getGroupActivity groupId afterOrder).map (·.unreadCount) =
      (({ storage with messages := storage.messages.filter (·.id ≠ id) } :
        InMemoryStorage).getGroupActivity groupId afterOrder).map (·.unreadCount)

theorem uncounted_of_deleted {storage : InMemoryStorage} {id : Uuid}
    (deleted : IsDeleted storage.messages id) : Uncounted storage id := by
  intro groupId afterOrder
  unfold InMemoryStorage.getGroupActivity
  dsimp only
  split
  · rfl
  rw [List.filter_filter]
  have swapped : storage.messages.filter
      (fun row => (row.groupId == groupId) && decide (row.id ≠ id)) =
      (storage.messages.filter (·.groupId == groupId)).filter (fun row => row.id ≠ id) := by
    rw [List.filter_filter]
    exact List.filter_congr fun row _ => Bool.and_comm _ _
  obtain ⟨highest, same⟩ := foldl_add_filter afterOrder (fun row => decide (row.id ≠ id))
    (storage.messages.filter (·.groupId == groupId)) (by
      intro row isRow isId
      exact deleted.2 row (List.mem_filter.mp isRow).1 (by simpa using isId))
    { latestOrder := 0, human := 0, otherSystem := 0, hasJoin := false } 0
  rw [swapped, same]
  rfl

/-! ## Runs -/

theorem IsDeleted.step {crates : Crates} {state : State} {id : Uuid}
    (deleted : IsDeleted state.rows id) (input : Input) (kept : NoRevival state input) :
    IsDeleted (step crates state input).rows id := by
  rcases step_rows crates state input with
    same | ⟨message, fresh, added⟩ | ⟨target, change, causes, changed⟩
  · rwa [same]
  · obtain ⟨⟨row, present, isId⟩, all⟩ := deleted
    rw [added]
    refine ⟨⟨row, List.mem_append_left _ present, isId⟩, ?_⟩
    intro other isOther otherId
    rcases List.mem_append.mp isOther with old | new
    · exact all other old otherId
    · obtain rfl := List.mem_singleton.mp new
      exact absurd (isId.trans otherId.symm) (fresh row present)
  rw [changed]
  refine ⟨?_, ?_⟩
  · obtain ⟨row, present, isId⟩ := deleted.1
    refine ⟨_, mem_changeRows.mpr ⟨row, present, rfl⟩, ?_⟩
    split
    · rw [change.apply_id, isId]
    · exact isId
  intro row present isId
  obtain ⟨old, isOld, sameId, ⟨isTarget, rfl⟩ | ⟨-, rfl⟩⟩ := of_mem_changeRows present
  · have wasDeleted := deleted.2 old isOld (sameId.trans isId)
    obtain rfl : target = id := isTarget.symm.trans isId
    -- the four writers
    cases change with
    | edit now encryptedMsg nonce =>
      obtain ⟨index, rfl, awaited, stored, isStored, storedId, free⟩ := causes
      have refused := kept (target, nonce) (by simp [awaited, Write.edit]) deleted
      exact absurd (refused stored isStored storedId) free
    | delete => rfl
    | payment now patch =>
      have status : (InMemoryStorage.patchMetadata now patch old).isDeleted = true := by
        unfold Message.isDeleted InMemoryStorage.patchMetadata
        unfold Message.isDeleted at wasDeleted
        cases isStatus : old.syncStatus <;> simp_all
      exact status
    | mark =>
      obtain ⟨workflow, readAt, results, rfl, isMarking, rfl⟩ := causes
      obtain rfl : workflow = .deleted :=
        kept ⟨workflow, readAt, target⟩ (by simp [isMarking, Worker.nextMark]) deleted
      rfl
  · exact deleted.2 row isOld isId

/-- **Deletion is permanent in every run without revival.**  From any state of the relayer,
however requests, payment updates and the worker's batches interleave, a message that is
deleted stays deleted and is not counted again, as long as no edit is stored over a
deleted row and no mark as synced or updated falls on one. -/
theorem deletion_permanent (crates : Crates) (state : State) (id : Uuid)
    (deleted : IsDeleted state.rows id) (inputs : List Input)
    (kept : Along (step crates) NoRevival state inputs) :
    IsDeleted (inputs.foldl (step crates) state).rows id ∧
      Uncounted (inputs.foldl (step crates) state).app.storage id := by
  have stays : IsDeleted (inputs.foldl (step crates) state).rows id :=
    kept.invariant
      (fun reached input (still : IsDeleted reached.rows id) => still.step input) deleted
  exact ⟨stays, uncounted_of_deleted stays⟩

/-! ### Two runs of one message -/

/-- A text row posted to group `g`. -/
def samplePost : CreateMessageRequest where
  groupId := "g"
  encryptedText := "01"
  nonce := "000000000000000000000000"
  keyVersion := 0
  senderAddress := "0xa"
  messageSignature := String.ofList (List.replicate 64 ['0', '1']).flatten
  kind := some "text"

/-- An edit of it. -/
def samplePut : UpdateMessageRequest where
  messageId := 7
  groupId := "g"
  encryptedText := "02"
  nonce := "000000000000000000000001"
  keyVersion := 0
  messageSignature := String.ofList (List.replicate 64 ['0', '1']).flatten

/-- The row is posted, archived and deleted. -/
def deletingRun : List Input :=
  [.post CommitLog.sampleServices CommitLog.sampleAuth samplePost, .perform 0 1,
    .readBatch 10, .upload false [.acknowledged "ref"], .mark 2,
    .delete CommitLog.sampleAuth 7, .perform 0 3]

/-- The worker goes on to archive the tombstone. -/
def tombstoneRun : List Input :=
  [.mark 4, .readBatch 10, .readBatch 10, .upload false [.acknowledged "ref"], .mark 5]

/-- The relayer once the row is deleted. -/
def afterDeleting : State := deletingRun.foldl (step CommitLog.sampleCrates) start

theorem deletion_permanent_of_tombstoneRun :
    ((tombstoneRun.foldl (step CommitLog.sampleCrates) afterDeleting).rows.map
      (·.syncStatus) = [.deleted]) ∧
    Uncounted (tombstoneRun.foldl (step CommitLog.sampleCrates) afterDeleting).app.storage 7 := by
  have run : IsDeleted afterDeleting.rows 7 ∧
      Along (step CommitLog.sampleCrates) NoRevival afterDeleting tombstoneRun ∧
      (tombstoneRun.foldl (step CommitLog.sampleCrates) afterDeleting).rows.map
        (·.syncStatus) = [.deleted] := by decide +kernel
  obtain ⟨isDeleted, kept, status⟩ := run
  exact ⟨status,
    (deletion_permanent CommitLog.sampleCrates afterDeleting 7 isDeleted tombstoneRun kept).2⟩

/-- The sender edits the row after deleting it. -/
def editRun : List Input := [.put CommitLog.sampleAuth samplePut, .perform 0 4]

/-- The worker reads the new row, the sender deletes it, and the worker marks it. -/
def overtakenRun : List Input :=
  [.post CommitLog.sampleServices CommitLog.sampleAuth samplePost, .perform 0 1,
    .readBatch 10, .delete CommitLog.sampleAuth 7, .perform 0 3]

/-- **A deleted row comes back**, by an edit of its sender or by a mark of the worker that
read it before the deletion; each time it is counted as unread again. -/
theorem deleted_row_revived :
    (IsDeleted afterDeleting.rows 7 ∧
      (editRun.foldl (step CommitLog.sampleCrates) afterDeleting).rows.map (·.syncStatus) =
        [.updatePending] ∧
      ((editRun.foldl (step CommitLog.sampleCrates) afterDeleting).app.storage.getGroupActivity
        "g" 0).map (·.unreadCount) = .ok 1) ∧
    (IsDeleted (overtakenRun.foldl (step CommitLog.sampleCrates) start).rows 7 ∧
      (([.upload false [.acknowledged "ref"], .mark 4] : List Input).foldl
        (step CommitLog.sampleCrates)
        (overtakenRun.foldl (step CommitLog.sampleCrates) start)).rows.map (·.syncStatus) =
        [.synced] ∧
      ((([.upload false [.acknowledged "ref"], .mark 4] : List Input).foldl
        (step CommitLog.sampleCrates)
        (overtakenRun.foldl (step CommitLog.sampleCrates) start)).app.storage.getGroupActivity
        "g" 0).map (·.unreadCount) = .ok 1) := by
  decide +kernel

end MessagingStack.Relayer.Archive

import Mathlib.Data.List.Nodup
import Mathlib.Data.List.ReduceOption
import MessagingStack.Base.Runs
import MessagingStack.Relayer.InMemoryStorage

/-!
# The indexes of the in-memory store

Beside its rows the store of `storage/memory.rs` keeps a set of nonces and the highest order of
each group.  `InStep` says that they fit the rows, and that the rows of a group have the orders
`1, …, n`.

`create_message` takes an order before it looks for the id, the key and the nonce of the row, so a
rejected row leaves a gap.  `stays_in_step_iff`: a run keeps the indexes in step, and the store as
it was at every failing call, exactly if no call of it creates a row with an id, a key or a nonce
that is there already.
-/

namespace MessagingStack.Relayer.InMemoryStorage

variable {storage : InMemoryStorage} {message : Message} {id : Uuid}

/-! ## Calls -/

/-- The calls that write rows. -/
inductive Call where
  | create (message : Message)
  | update (now : Timestamp) (id : Uuid) (encryptedMsg nonce : Bytes) (keyVersion : Int)
      (attachments : List Attachment) (signature : Bytes) (signatureVersion : Int)
      (publicKey : Bytes)
  | updateMetadataTrusted (now : Timestamp) (id : Uuid) (patch : Json)
      (allowedFromStatus : List String)
  | delete (now : Timestamp) (id : Uuid)
  | updateSyncStatus (now : Timestamp) (id : Uuid) (status : SyncStatus)
      (quiltPatchId : Option String)

/-- Whether an operation fails, and the store it leaves. -/
def outcome {α : Type} (result : Result α) : Bool × InMemoryStorage :=
  match result with
  | (.error _, after) => (true, after)
  | (.ok _, after) => (false, after)

def Call.run (storage : InMemoryStorage) : Call → Bool × InMemoryStorage
  | .create message => outcome (storage.createMessage message)
  | .update now id encryptedMsg nonce keyVersion attachments signature signatureVersion publicKey =>
    outcome (storage.updateMessage now id encryptedMsg nonce keyVersion attachments signature
      signatureVersion publicKey)
  | .updateMetadataTrusted now id patch allowedFromStatus =>
    outcome (storage.updateMessageMetadataTrusted now id patch allowedFromStatus)
  | .delete now id => outcome (storage.deleteMessage now id)
  | .updateSyncStatus now id status quiltPatchId =>
    outcome (storage.updateSyncStatus now id status quiltPatchId)

def step (storage : InMemoryStorage) (call : Call) : InMemoryStorage := (call.run storage).2

/-! ## What is promised -/

/-- The orders of a group's rows, as they were inserted. -/
def groupOrdersOf (storage : InMemoryStorage) (groupId : String) : List (Option Int) :=
  ((storage.messages.map fun row => (row.groupId, row.order)).filter (·.1 == groupId)).map (·.2)

/-- **The indexes fit the rows**, which have ids, nonces, keys and orders of their own. -/
structure InStep (storage : InMemoryStorage) : Prop where
  healthy : ∀ lock, storage.poisoned lock = false
  nonces : ∀ nonce, nonce ∈ storage.nonces ↔ nonce ∈ storage.messages.map (·.nonce)
  distinctNonces : (storage.messages.map (·.nonce)).Nodup
  distinctIds : (storage.messages.map (·.id)).Nodup
  distinctKeys : (storage.messages.map (·.idempotencyKey)).reduceOption.Nodup
  orders : ∀ groupId, ∃ count : Nat, storage.next groupId = count + 1 ∧
    storage.groupOrdersOf groupId = (List.range count).map fun place : Nat => some ((place : Int) + 1)

theorem inStep_new : InStep new where
  healthy _ := rfl
  nonces _ := Iff.rfl
  distinctNonces := List.nodup_nil
  distinctIds := List.nodup_nil
  distinctKeys := List.nodup_nil
  orders _ := ⟨0, rfl, rfl⟩

/-- What is promised of a call: the indexes are in step after it, and a call that fails changes
nothing. -/
structure Sound (storage : InMemoryStorage) (call : Call) : Prop where
  inStep : InStep (step storage call)
  unchanged : (call.run storage).1 = true → step storage call = storage

/-- **What is promised of a run.** -/
def StaysInStep (calls : List Call) : Prop := Along step Sound new calls

/-- **The condition**: a row that is created has an id, a nonce and a key that are new. -/
def Fresh (storage : InMemoryStorage) : Call → Prop
  | .create message => storage.Accepts message.id message.nonce message.idempotencyKey
  | _ => True

/-! ## Creating a row -/

theorem consumeOrder_ne (storage : InMemoryStorage) (groupId : String) :
    storage.consumeOrder groupId ≠ storage := by
  intro same
  have counter := congrFun (congrArg groupOrders same) groupId
  simp only [consumeOrder, Function.update_self, next] at counter
  cases held : storage.groupOrders groupId with
  | none => rw [held] at counter; cases counter
  | some order =>
    rw [held, Option.map_some, Option.getD_some, Option.some.injEq] at counter
    omega

theorem createMessage_rejected (healthy : ∀ lock, storage.poisoned lock = false)
    (rejected : ¬storage.Accepts message.id message.nonce message.idempotencyKey) :
    ∃ reason, storage.createMessage message =
      (.error reason, storage.consumeOrder message.groupId) := by
  simp only [createMessage, nextOrder, healthy, insertMessage, Message.setOrder,
    consumeOrder_messages, consumeOrder_nonces, consumeOrder_poisoned, Bool.false_eq_true,
    ↓reduceIte]
  by_cases sameId : storage.messages.any (·.id == message.id) = true
  · exact ⟨_, if_pos sameId⟩
  rw [if_neg sameId]
  by_cases sameKey : (message.idempotencyKey.isSome &&
      storage.messages.any (·.idempotencyKey == message.idempotencyKey)) = true
  · exact ⟨_, if_pos sameKey⟩
  rw [if_neg sameKey]
  by_cases sameNonce : storage.nonces.contains message.nonce = true
  · exact ⟨_, if_pos sameNonce⟩
  -- every check has passed, so the row was accepted
  refine absurd ⟨healthy, ?_, ?_, ?_⟩ rejected
  · simpa using sameId
  · intro isSome row isRow same
    exact sameKey (Bool.and_eq_true_iff.mpr
      ⟨isSome, List.any_eq_true.mpr ⟨row, isRow, beq_iff_eq.mpr same⟩⟩)
  · simpa using sameNonce

theorem InStep.create (inStep : InStep storage)
    (accepts : storage.Accepts message.id message.nonce message.idempotencyKey) :
    InStep
      { storage.consumeOrder message.groupId with
        nonces := message.nonce :: storage.nonces
        messages := storage.messages ++
          [message.setOrder (storage.next message.groupId)] } := by
  refine ⟨inStep.healthy, fun nonce => ?_, ?_, ?_, ?_, fun groupId => ?_⟩
  · rw [List.mem_cons, inStep.nonces nonce, List.map_append, List.mem_append, or_comm]
    exact or_congr_right List.mem_singleton.symm
  · rw [List.map_append]
    refine inStep.distinctNonces.append (List.nodup_singleton _) ?_
    rintro nonce earlier isLast
    cases List.mem_singleton.mp isLast
    exact accepts.freshNonce ((inStep.nonces _).mpr earlier)
  · rw [List.map_append]
    refine inStep.distinctIds.append (List.nodup_singleton _) ?_
    rintro id earlier isLast
    cases List.mem_singleton.mp isLast
    obtain ⟨row, isRow, same⟩ := List.mem_map.mp earlier
    exact accepts.freshId row isRow same
  · rw [List.map_append, List.reduceOption_append]
    refine inStep.distinctKeys.append ?_ ?_
    · show ([message.idempotencyKey].reduceOption).Nodup
      cases message.idempotencyKey with
      | none => exact List.nodup_nil
      | some key => exact List.nodup_singleton key
    rintro key earlier isLast
    obtain ⟨row, isRow, same⟩ := List.mem_map.mp (List.reduceOption_mem_iff.mp earlier)
    have isKey : message.idempotencyKey = some key :=
      (List.mem_singleton.mp (List.reduceOption_mem_iff.mp isLast)).symm
    exact accepts.freshKey (by rw [isKey]; rfl) row isRow (same.trans isKey.symm)
  obtain ⟨count, counter, rows⟩ := inStep.orders groupId
  rw [groupOrdersOf] at rows
  by_cases same : message.groupId = groupId
  · subst same
    refine ⟨count + 1, ?_, ?_⟩
    · simpa [next, consumeOrder] using counter
    · simp [groupOrdersOf, Message.setOrder, List.range_succ, rows, counter]
  refine ⟨count, ?_, ?_⟩
  · simpa [next, consumeOrder, Function.update_of_ne fun isSame => same isSame.symm] using counter
  · simp [groupOrdersOf, Message.setOrder, same, rows]

/-! ## Changing a row -/

theorem replaceRow_map {β : Type} {change : Message → Message} {f : Message → β}
    (kept : ∀ row, f (change row) = f row) :
    (storage.replaceRow id change).messages.map f = storage.messages.map f := by
  rw [replaceRow, List.map_map]
  refine List.map_congr_left fun row _ => ?_
  show f (if row.id == id then change row else row) = f row
  split_ifs
  · exact kept row
  · rfl

theorem InStep.change (inStep : InStep storage) (present : message ∈ storage.messages)
    {change : Message → Message} {nonces : List Bytes} (ids : ∀ row, (change row).id = row.id)
    (keys : ∀ row, (change row).idempotencyKey = row.idempotencyKey)
    (orders : ∀ row, ((change row).groupId, (change row).order) = (row.groupId, row.order))
    (exchanged : ∀ nonce, nonce ∈ nonces ↔
      nonce = (change message).nonce ∨ nonce ∈ storage.nonces ∧ nonce ≠ message.nonce)
    (free : ¬(message.nonce ≠ (change message).nonce ∧ (change message).nonce ∈ storage.nonces)) :
    InStep { storage.replaceRow message.id change with nonces } := by
  classical
  have ofNonce : ∀ row ∈ storage.messages, ∀ other ∈ storage.messages,
      row.nonce = other.nonce → row = other := fun _ isRow _ isOther =>
    List.inj_on_of_nodup_map inStep.distinctNonces isRow isOther
  have ofId : ∀ row ∈ storage.messages, row.id = message.id → row = message :=
    fun _ isRow => List.inj_on_of_nodup_map inStep.distinctIds isRow present
  -- a row that has the new nonce is the one that is changed
  have owner : ∀ row ∈ storage.messages, row.nonce = (change message).nonce → row = message := by
    intro row isRow same
    by_cases kept : message.nonce = (change message).nonce
    · exact ofNonce row isRow message present (same.trans kept.symm)
    · exact absurd ⟨kept, (inStep.nonces _).mpr (List.mem_map.mpr ⟨row, isRow, same⟩)⟩ free
  have rows : (storage.replaceRow message.id change).messages.map (·.nonce) =
      storage.messages.map fun row =>
        if row = message then (change message).nonce else row.nonce := by
    rw [replaceRow, List.map_map]
    refine List.map_congr_left fun row isRow => ?_
    show (if row.id == message.id then change row else row).nonce = _
    by_cases same : row.id = message.id
    · rw [ofId row isRow same, if_pos (beq_self_eq_true _), if_pos rfl]
    · rw [if_neg (by simpa using same), if_neg fun isSame => same (congrArg Message.id isSame)]
  refine ⟨inStep.healthy, fun nonce => ?_, ?_, ?_, ?_, ?_⟩
  · refine (exchanged nonce).trans (Iff.trans ?_ (by rw [rows]))
    rw [inStep.nonces, List.mem_map, List.mem_map]
    constructor
    · rintro (rfl | ⟨⟨row, isRow, rfl⟩, isOther⟩)
      · exact ⟨message, present, if_pos rfl⟩
      · exact ⟨row, isRow, if_neg fun same => isOther (congrArg Message.nonce same)⟩
    rintro ⟨row, isRow, rfl⟩
    split_ifs with same
    · exact .inl rfl
    · exact .inr ⟨⟨row, isRow, rfl⟩, fun old => same (ofNonce row isRow message present old)⟩
  · show ((storage.replaceRow message.id change).messages.map (·.nonce)).Nodup
    rw [rows]
    refine List.Nodup.map_on ?_ (List.Nodup.of_map _ inStep.distinctIds)
    intro left isLeft right isRight same
    split_ifs at same with isFirst isSecond isSecond
    · exact isFirst.trans isSecond.symm
    · exact absurd (owner right isRight same.symm) isSecond
    · exact absurd (owner left isLeft same) isFirst
    · exact ofNonce left isLeft right isRight same
  · exact (replaceRow_map ids).symm ▸ inStep.distinctIds
  · exact (replaceRow_map keys).symm ▸ inStep.distinctKeys
  intro groupId
  obtain ⟨count, counter, isRows⟩ := inStep.orders groupId
  refine ⟨count, counter, Eq.trans ?_ isRows⟩
  show (((storage.replaceRow message.id change).messages.map _).filter _).map _ = _
  rw [replaceRow_map orders, groupOrdersOf]

theorem InStep.changeRow (inStep : InStep storage) (present : message ∈ storage.messages)
    {change : Message → Message} (ids : ∀ row, (change row).id = row.id)
    (keys : ∀ row, (change row).idempotencyKey = row.idempotencyKey)
    (orders : ∀ row, ((change row).groupId, (change row).order) = (row.groupId, row.order))
    (same : (change message).nonce = message.nonce) :
    InStep (storage.replaceRow message.id change) := by
  refine inStep.change present ids keys orders (fun nonce => ?_) fun differs => differs.1 same.symm
  have isIn : message.nonce ∈ storage.nonces :=
    (inStep.nonces _).mpr (List.mem_map.mpr ⟨message, present, rfl⟩)
  rw [same]
  by_cases isNonce : nonce = message.nonce
  · exact iff_of_true (isNonce ▸ isIn) (.inl isNonce)
  · simp [isNonce]

/-! ## The promise -/

theorem sound_of_outcome {call : Call} (inStep : InStep storage)
    (outcomes : call.run storage = (true, storage) ∨
      (call.run storage).1 = false ∧ InStep (step storage call)) : Sound storage call := by
  rcases outcomes with failed | ⟨passed, kept⟩
  · have same : step storage call = storage := congrArg Prod.snd failed
    exact ⟨same.symm ▸ inStep, fun _ => same⟩
  · exact ⟨kept, fun failed => by cases passed.symm.trans failed⟩

theorem sound_changeRow {call : Call} (inStep : InStep storage) {change : Message → Message}
    (run : call.run storage = outcome (storage.changeRow id change))
    (ids : ∀ row, (change row).id = row.id)
    (keys : ∀ row, (change row).idempotencyKey = row.idempotencyKey)
    (orders : ∀ row, ((change row).groupId, (change row).order) = (row.groupId, row.order))
    (nonces : ∀ row, (change row).nonce = row.nonce) : Sound storage call := by
  refine sound_of_outcome inStep ?_
  rw [step, run, InMemoryStorage.changeRow]
  cases found : storage.getMessage id with
  | error => exact .inl rfl
  | ok message =>
    obtain ⟨present, rfl⟩ := getMessage_ok found
    exact .inr ⟨rfl, inStep.changeRow present ids keys orders (nonces message)⟩

/-- **The step lemma**: in a store whose indexes are in step, only a row that is not accepted breaks
the promise. -/
theorem sound_iff (inStep : InStep storage) (call : Call) :
    Sound storage call ↔ Fresh storage call := by
  cases call with
  | create message =>
    constructor
    · intro sound
      by_contra rejected
      obtain ⟨reason, isError⟩ := createMessage_rejected inStep.healthy rejected
      have run : (Call.create message).run storage =
          (true, storage.consumeOrder message.groupId) := by rw [Call.run, isError]; rfl
      have unchanged := sound.unchanged (by rw [run])
      rw [step, run] at unchanged
      exact consumeOrder_ne storage message.groupId unchanged
    intro accepts
    refine sound_of_outcome inStep (.inr ?_)
    rw [step, Call.run, createMessage_of_accepts storage message accepts]
    exact ⟨rfl, inStep.create accepts⟩
  | update now id encryptedMsg nonce keyVersion attachments signature version publicKey =>
    refine iff_of_true (sound_of_outcome inStep ?_) trivial
    rw [step, Call.run, updateMessage]
    cases found : storage.getMessage id with
    | error => exact .inl rfl
    | ok message =>
      obtain ⟨present, rfl⟩ := getMessage_ok found
      simp only [inStep.healthy .nonces, Bool.false_eq_true, if_false]
      split_ifs with taken
      · exact .inl rfl
      refine .inr ⟨rfl, inStep.change present (fun _ => rfl) (fun _ => rfl) (fun _ => rfl)
        (fun wanted => ?_) taken⟩
      show _ ↔ wanted = nonce ∨ _
      simp only [List.mem_cons, List.mem_filter, decide_eq_true_eq]
      tauto
  | updateMetadataTrusted now id patch allowedFromStatus =>
    refine iff_of_true (sound_of_outcome inStep ?_) trivial
    rw [step, Call.run, updateMessageMetadataTrusted]
    cases found : storage.getMessage id with
    | error => exact .inl rfl
    | ok message =>
      obtain ⟨present, rfl⟩ := getMessage_ok found
      simp only
      split_ifs
      · exact .inr ⟨rfl, inStep⟩
      · exact .inr ⟨rfl, inStep⟩
      · exact .inr ⟨rfl, inStep.changeRow present (fun _ => rfl) (fun _ => rfl) (fun _ => rfl) rfl⟩
  | delete | updateSyncStatus =>
    exact iff_of_true (sound_changeRow inStep rfl (fun _ => rfl) (fun _ => rfl) (fun _ => rfl)
      fun _ => rfl) trivial

theorem along_sound_iff (inStep : InStep storage) (calls : List Call) :
    Along step Sound storage calls ↔ Along step Fresh storage calls := by
  induction calls generalizing storage with
  | nil => exact Iff.rfl
  | cons call rest ih =>
    rw [Along.cons, Along.cons, sound_iff inStep]
    refine and_congr_right fun fresh => ih ?_
    exact ((sound_iff inStep call).mpr fresh).inStep

/-- **When the indexes stay in step**: exactly if every row that a run creates has an id, a nonce
and a key that are new. -/
theorem stays_in_step_iff (calls : List Call) :
    StaysInStep calls ↔ Along step Fresh new calls := along_sound_iff inStep_new calls

def rowNamed (id : Uuid) (nonce : Bytes) : Message :=
  Message.withAttribution id 0 "group" "0xa" [] nonce 0 [] [] [] .humanMessage .text none

/-- **A rejected row leaves a gap**: it takes the second order, and the next row gets the third. -/
theorem rejected_row_leaves_gap :
    ¬StaysInStep [.create (rowNamed 1 [1]), .create (rowNamed 2 [1])] ∧
      ([.create (rowNamed 1 [1]), .create (rowNamed 2 [1]), .create (rowNamed 3 [3])].foldl
        step new).messages.map (·.order) = [some 1, some 3] := by
  constructor
  · intro stays
    obtain ⟨-, second, -⟩ := (along_sound_iff inStep_new _).mp stays
    exact second.freshNonce List.mem_cons_self
  · decide +kernel

end MessagingStack.Relayer.InMemoryStorage

import MessagingStack.Relayer.Archive

/-!
# Accepted commits stay

Two devices that read the log of an MLS group at different times must find the same commits in it.
`PUT` and `DELETE` do not refuse commit rows, so the sender of an accepted commit can replace its
bytes or take it out of the log (`edited_commit_forks`).  In a run without such a call
(`SparesCommits`) the commit log only grows at its end (`commit_log_immutable`).
-/

namespace MessagingStack.Relayer.Archive

/-! ## The log of commits -/

/-- What a reader gets of a commit row. -/
structure CommitEntry where
  order : Option Int
  encryptedMsg : Bytes
  isDeleted : Bool
  deriving DecidableEq

def commitEntry (row : Message) : CommitEntry where
  order := row.order
  encryptedMsg := row.encryptedMsg
  isDeleted := row.isDeleted

def commitsOf (rows : List Message) (groupId : String) : List CommitEntry :=
  ((rows.filter (·.groupId == groupId)).filter (·.kind == .commit)).map commitEntry

def commitLog (storage : InMemoryStorage) (groupId : String) : List CommitEntry :=
  ((storage.log groupId).filter (·.kind == .commit)).map commitEntry

/-- The commit that a reader of the log processes for an epoch of the group. -/
structure Accepted (crates : Crates) (storage : InMemoryStorage) (groupId : String) (epoch : Nat)
    (entry : CommitEntry) : Prop where
  inLog : entry ∈ commitLog storage groupId
  live : entry.isDeleted = false
  isEpoch : CommitLog.commitEpoch crates .commit entry.encryptedMsg = some epoch

theorem commitLog_eq {storage : InMemoryStorage} (ordered : storage.WellOrdered)
    (groupId : String) : commitLog storage groupId = commitsOf storage.messages groupId := by
  rw [commitLog, ordered.log_eq]
  rfl

theorem commitsOf_append (rows more : List Message) (groupId : String) :
    commitsOf (rows ++ more) groupId = commitsOf rows groupId ++ commitsOf more groupId := by
  simp only [commitsOf, List.filter_append, List.map_append]

/-! ## The condition -/

/-- The storage call leaves the commits alone: it is refused, or it brings the bytes that are
there, or it is about another row. -/
def Write.SparesCommits (state : State) : Write → Prop
  | .create _ => True
  | .update id encryptedMsg nonce .. =>
    ∀ row ∈ state.rows, row.id = id → row.kind = .commit →
      row.encryptedMsg = encryptedMsg ∨ row.nonce ≠ nonce ∧ nonce ∈ state.app.storage.nonces
  | .delete id => ∀ row ∈ state.rows, row.id = id → row.kind ≠ .commit

/-- **The condition on a step**: no edit that changes a commit row, and no deletion of one, is
carried out. -/
def SparesCommits (state : State) : Input → Prop
  | .perform index _ => ∀ write, state.writes[index]? = some write → write.SparesCommits state
  | _ => True

/-- A change that shows no reader of commits anything new. -/
def RowChange.Spares (change : RowChange) (row : Message) : Prop :=
  row.kind = .commit → commitEntry (change.apply row) = commitEntry row

theorem RowChange.apply_kind (change : RowChange) (row : Message) :
    (change.apply row).kind = row.kind := by
  cases change <;> rfl

theorem RowChange.apply_groupId (change : RowChange) (row : Message) :
    (change.apply row).groupId = row.groupId := by
  cases change <;> rfl

section Changes

variable {rows : List Message} {id : Uuid} {change : RowChange}
  (spares : ∀ row ∈ rows, row.id = id → change.Spares row)

include spares in
theorem commitsOf_changeRows (groupId : String) :
    commitsOf (changeRows rows id change) groupId = commitsOf rows groupId := by
  unfold commitsOf changeRows
  simp only [List.filter_map, List.filter_filter, List.map_map]
  have sameRows : (rows.filter fun row =>
        ((fun row : Message => row.kind == .commit) ∘
            fun row => if row.id == id then change.apply row else row) row &&
          ((fun row : Message => row.groupId == groupId) ∘
            fun row => if row.id == id then change.apply row else row) row) =
      rows.filter fun row => row.kind == .commit && row.groupId == groupId := by
    refine List.filter_congr fun row _ => ?_
    simp only [Function.comp_apply]
    split
    · rw [change.apply_kind, change.apply_groupId]
    · rfl
  rw [sameRows]
  refine List.map_congr_left fun row present => ?_
  obtain ⟨isRow, isCommit⟩ := List.mem_filter.mp present
  simp only [Bool.and_eq_true, beq_iff_eq] at isCommit
  simp only [Function.comp_apply]
  split
  · next same => exact spares row isRow (by simpa using same) isCommit.1
  · rfl

/-! ## Claims -/

variable (crates : Crates)

/-- The epoch of its group that a row takes, if it is a commit. -/
def claim (row : Message) : Option (String × Nat) :=
  (CommitLog.rowEpoch crates row).map (row.groupId, ·)

/-- The epoch that a storage call in flight is about to take. -/
def Write.claim : Write → Option (String × Nat)
  | .create message => Archive.claim crates message
  | _ => none

/-- The epochs taken, by the rows and by the calls in flight. -/
def State.claims (state : State) : List (String × Nat) :=
  state.rows.filterMap (claim crates) ++ state.writes.filterMap (Write.claim crates)

include spares in
theorem claims_changeRows :
    (changeRows rows id change).filterMap (claim crates) = rows.filterMap (claim crates) := by
  unfold changeRows
  rw [List.filterMap_map]
  refine List.filterMap_congr fun row present => ?_
  simp only [Function.comp_apply]
  split
  · next same =>
    unfold claim CommitLog.rowEpoch CommitLog.commitEpoch
    rw [change.apply_kind, change.apply_groupId]
    by_cases isCommit : row.kind = .commit
    · have entry := spares row present (by simpa using same) isCommit
      have sameBytes : (change.apply row).encryptedMsg = row.encryptedMsg :=
        congrArg CommitEntry.encryptedMsg entry
      rw [sameBytes]
    · simp [isCommit]
  · rfl

end Changes

/-! ## The invariant -/

def Worker.SparesCommits (rows : List Message) : Worker → Prop
  | .uploading .deleted _ messages =>
    ∀ message ∈ messages, ∃ row ∈ rows, row.id = message.id ∧ row.kind ≠ .commit
  | .marking .deleted _ results =>
    ∀ result ∈ results, ∃ row ∈ rows, row.id = result.1 ∧ row.kind ≠ .commit
  | _ => True

/-- The state of a relayer whose commits nobody has touched. -/
structure Intact (crates : Crates) (state : State) : Prop where
  ordered : state.app.storage.WellOrdered
  ids : (state.rows.map (·.id)).Nodup
  live : ∀ row ∈ state.rows, row.kind = .commit → row.isDeleted = false
  creates : ∀ message, .create message ∈ state.writes → message.isDeleted = false
  worker : state.worker.SparesCommits state.rows
  distinct : (state.claims crates).Nodup
  below : ∀ taken ∈ state.claims crates, taken.2 < state.app.mls.currentEpoch taken.1

theorem intact_start (crates : Crates) : Intact crates start where
  ordered := InMemoryStorage.wellOrdered_new
  ids := List.nodup_nil
  live := by rintro row ⟨⟩
  creates := by rintro message ⟨⟩
  worker := trivial
  distinct := List.nodup_nil
  below := by rintro taken ⟨⟩

/-- The commits of every group have only grown at their end. -/
def Extends (before after : State) : Prop :=
  ∀ groupId, commitLog before.app.storage groupId <+: commitLog after.app.storage groupId

theorem Extends.refl (state : State) : Extends state state := fun _ => List.prefix_refl _

theorem Extends.trans {first second third : State} (before : Extends first second)
    (after : Extends second third) : Extends first third :=
  fun groupId => (before groupId).trans (after groupId)

/-! ## What keeps the invariant -/

section Steps

variable {crates : Crates} {state next : State}

/-- The rows with their ids and kinds are still there. -/
def StillThere (rows later : List Message) : Prop :=
  ∀ row ∈ rows, ∃ same ∈ later, same.id = row.id ∧ same.kind = row.kind

theorem Worker.SparesCommits.mono {rows later : List Message} {worker : Worker}
    (spares : worker.SparesCommits rows) (still : StillThere rows later) :
    worker.SparesCommits later := by
  have carry {id : Uuid} (found : ∃ row ∈ rows, row.id = id ∧ row.kind ≠ .commit) :
      ∃ row ∈ later, row.id = id ∧ row.kind ≠ .commit := by
    obtain ⟨row, present, isId, notCommit⟩ := found
    obtain ⟨same, isSame, sameId, sameKind⟩ := still row present
    exact ⟨same, isSame, sameId.trans isId, by rwa [sameKind]⟩
  unfold Worker.SparesCommits at spares ⊢
  split at spares
  · exact fun message isMessage => carry (spares message isMessage)
  · exact fun result isResult => carry (spares result isResult)
  · trivial

theorem stillThere_append (rows more : List Message) : StillThere rows (rows ++ more) :=
  fun row present => ⟨row, List.mem_append_left _ present, rfl, rfl⟩

theorem stillThere_changeRows (rows : List Message) (id : Uuid) (change : RowChange) :
    StillThere rows (changeRows rows id change) := by
  intro row present
  refine ⟨_, mem_changeRows.mpr ⟨row, present, rfl⟩, ?_⟩
  split
  · exact ⟨change.apply_id row, change.apply_kind row⟩
  · exact ⟨rfl, rfl⟩

/-- No epoch is taken anew, and none is taken back. -/
structure Frugal (crates : Crates) (state next : State) : Prop where
  claims : (next.claims crates).Subperm (state.claims crates)
  epochs : ∀ groupId, state.app.mls.currentEpoch groupId ≤ next.app.mls.currentEpoch groupId

theorem Frugal.distinct (frugal : Frugal crates state next) (intact : Intact crates state) :
    (next.claims crates).Nodup := by
  obtain ⟨kept, permuted, sublist⟩ := frugal.claims
  exact permuted.nodup_iff.mp (sublist.nodup intact.distinct)

theorem Frugal.below (frugal : Frugal crates state next) (intact : Intact crates state)
    (taken : String × Nat) (isTaken : taken ∈ next.claims crates) :
    taken.2 < next.app.mls.currentEpoch taken.1 :=
  (intact.below taken (frugal.claims.subset isTaken)).trans_le (frugal.epochs taken.1)

theorem Intact.keep (intact : Intact crates state) (frugal : Frugal crates state next)
    (ordered : next.app.storage.WellOrdered) (rows : next.rows = state.rows)
    (creates : ∀ message, .create message ∈ next.writes → message.isDeleted = false)
    (worker : next.worker.SparesCommits state.rows) :
    Intact crates next ∧ Extends state next := by
  refine ⟨⟨ordered, ?_, ?_, creates, ?_, frugal.distinct intact, frugal.below intact⟩, ?_⟩
  · rw [rows]
    exact intact.ids
  · rw [rows]
    exact intact.live
  · rw [rows]
    exact worker
  intro groupId
  rw [commitLog_eq ordered, commitLog_eq intact.ordered]
  show commitsOf state.rows groupId <+: commitsOf next.rows groupId
  rw [rows]

variable {id : Uuid} {index : Nat} {message : Message} {groupId : String}

/-- A step that stores a row, or fails to. -/
theorem Intact.create (intact : Intact crates state) (frugal : Frugal crates state next)
    (storage : next.app.storage = (state.app.storage.createMessage message).2)
    (live : message.isDeleted = false)
    (creates : ∀ message, .create message ∈ next.writes → message.isDeleted = false)
    (worker : next.worker = state.worker) :
    Intact crates next ∧ Extends state next := by
  have ordered : next.app.storage.WellOrdered := by
    rw [storage]
    exact intact.ordered.createMessage message
  have stored : next.rows = state.rows ∨ (∀ row ∈ state.rows, row.id ≠ message.id) ∧
      ∃ order, next.rows = state.rows ++ [message.setOrder order] := by
    unfold State.rows
    rw [storage]
    exact createMessage_rows state.app.storage message
  have grown : next.rows = state.rows ∨ ∃ more, next.rows = state.rows ++ more :=
    stored.imp_right fun added => ⟨_, added.2.choose_spec⟩
  refine ⟨⟨ordered, ?_, ?_, creates, ?_, frugal.distinct intact, frugal.below intact⟩, ?_⟩
  · rcases stored with same | ⟨fresh, order, added⟩
    · rw [same]
      exact intact.ids
    rw [added, List.map_append, List.nodup_append]
    refine ⟨intact.ids, List.nodup_singleton _, ?_⟩
    intro id isId other isOther same
    obtain ⟨row, present, rfl⟩ := List.mem_map.mp isId
    obtain rfl : other = message.id := by simpa [Message.setOrder] using isOther
    exact fresh row present same
  · rcases stored with same | ⟨fresh, order, added⟩
    · rw [same]
      exact intact.live
    rw [added]
    intro row present isCommit
    rcases List.mem_append.mp present with old | new
    · exact intact.live row old isCommit
    · obtain rfl := List.mem_singleton.mp new
      exact live
  · rw [worker]
    refine intact.worker.mono ?_
    rcases grown with same | ⟨more, added⟩
    · rw [same]
      exact fun row present => ⟨row, present, rfl, rfl⟩
    · rw [added]
      exact stillThere_append state.rows more
  intro groupId
  rw [commitLog_eq ordered, commitLog_eq intact.ordered]
  show commitsOf state.rows groupId <+: commitsOf next.rows groupId
  rcases grown with same | ⟨more, added⟩
  · rw [same]
  · rw [added, commitsOf_append]
    exact List.prefix_append _ _

theorem Intact.change (intact : Intact crates state) {change : RowChange}
    (ordered : next.app.storage.WellOrdered) (rows : next.rows = changeRows state.rows id change)
    (spares : ∀ row ∈ state.rows, row.id = id → change.Spares row)
    (writes : (next.writes.filterMap (Write.claim crates)).Sublist
      (state.writes.filterMap (Write.claim crates)))
    (mls : next.app.mls = state.app.mls)
    (creates : ∀ message, .create message ∈ next.writes → message.isDeleted = false)
    (worker : next.worker.SparesCommits state.rows) :
    Intact crates next ∧ Extends state next := by
  have frugal : Frugal crates state next := by
    refine ⟨?_, fun groupId => by rw [mls]⟩
    unfold State.claims
    rw [rows, claims_changeRows spares crates]
    exact (writes.append_left _).subperm
  refine ⟨⟨ordered, ?_, ?_, creates, ?_, frugal.distinct intact, frugal.below intact⟩, ?_⟩
  · rw [rows]
    exact nodup_changeRows id change intact.ids
  · rw [rows]
    intro row present isCommit
    obtain ⟨old, isOld, sameId, ⟨isTarget, rfl⟩ | ⟨-, rfl⟩⟩ := of_mem_changeRows present
    · rw [change.apply_kind] at isCommit
      have entry := spares old isOld (sameId.trans isTarget) isCommit
      have sameFlag : (change.apply old).isDeleted = old.isDeleted :=
        congrArg CommitEntry.isDeleted entry
      rw [sameFlag]
      exact intact.live old isOld isCommit
    · exact intact.live row isOld isCommit
  · rw [rows]
    exact worker.mono (stillThere_changeRows state.rows id change)
  intro groupId
  rw [commitLog_eq ordered, commitLog_eq intact.ordered]
  show commitsOf state.rows groupId <+: commitsOf next.rows groupId
  rw [rows, commitsOf_changeRows spares]

/-! ### Requests -/

theorem Frugal.of_writes (rows : next.rows = state.rows)
    (writes : (next.writes.filterMap (Write.claim crates)).Sublist
      (state.writes.filterMap (Write.claim crates)))
    (epochs : ∀ groupId, state.app.mls.currentEpoch groupId ≤ next.app.mls.currentEpoch groupId) :
    Frugal crates state next := by
  refine ⟨?_, epochs⟩
  unfold State.claims
  rw [rows]
  exact (writes.append_left _).subperm

/-- A new storage call in flight that takes no epoch. -/
theorem Intact.await (intact : Intact crates state) (write : Write)
    (free : write.claim crates = none)
    (live : ∀ message, write = .create message → message.isDeleted = false) :
    Intact crates (state.await write) ∧ Extends state (state.await write) := by
  have sameClaims : (state.await write).writes.filterMap (Write.claim crates) =
      state.writes.filterMap (Write.claim crates) := by
    show (state.writes ++ [write]).filterMap _ = _
    rw [List.filterMap_append]
    simp [free]
  refine intact.keep (.of_writes rfl (by rw [sameClaims]) fun _ => le_rfl) intact.ordered rfl ?_
    intact.worker
  intro message isWrite
  rcases List.mem_append.mp isWrite with old | new
  · exact intact.creates message old
  · exact live message (List.mem_singleton.mp new).symm

theorem checkPost_cases (crates : Crates) (state : State) (services : Services)
    (auth : AuthContext) (req : CreateMessageRequest) (prepared : PreparedMessage) :
    state.checkPost crates services auth req prepared = state ∨
    ∃ message : Message,
      state.checkPost crates services auth req prepared = state.await (.create message) ∧
      message.groupId = req.groupId ∧ message.isDeleted = false ∧
      CommitLog.rowEpoch crates message =
        CommitLog.commitEpoch crates prepared.kind prepared.encryptedMsg := by
  unfold State.checkPost
  cases checked : checkMessage crates services auth req prepared state.app with
  | error => exact .inl rfl
  | ok result =>
    obtain ⟨message, transfer⟩ := result
    obtain ⟨signature, paymentPeer, rfl, -⟩ := CommitLog.checkMessage_ok checked
    obtain ⟨group, kind, bytes, -⟩ := CommitLog.buildMessage_row crates services auth req
      prepared signature transfer paymentPeer
    refine .inr ⟨_, rfl, group, ?_, by rw [CommitLog.rowEpoch, kind, bytes]⟩
    unfold buildMessage
    split <;> rfl

theorem intact_post (intact : Intact crates state) (services : Services) (auth : AuthContext)
    (req : CreateMessageRequest) :
    Intact crates (step crates state (.post services auth req)) ∧
      Extends state (step crates state (.post services auth req)) := by
  rcases CommitLog.beginMessage_cases crates req state.app with
    ⟨reason, failed⟩ | ⟨prepared, passed, noEpoch⟩ | ⟨prepared, isEpoch, advanced⟩
  · simp only [step, failed]
    exact ⟨intact, .refl state⟩
  · simp only [step, passed]
    rcases checkPost_cases crates state services auth req prepared with
      same | ⟨message, awaits, -, live, epoch⟩
    · rw [same]
      exact ⟨intact, .refl state⟩
    · rw [awaits]
      refine intact.await (.create message) ?_ fun other same => by cases same; exact live
      simp only [Write.claim, claim, epoch, noEpoch, Option.map_none]
  simp only [step, advanced]
  -- the epoch of the group has moved, the rows and the calls in flight are the same
  have moved : Intact crates { state with app := { state.app with
      mls := ⟨Function.update state.app.mls.epochs req.groupId
        (state.app.mls.currentEpoch req.groupId + 1)⟩ } } ∧ _ :=
    intact.keep (.of_writes rfl (List.Sublist.refl _) fun groupId => by
      by_cases same : groupId = req.groupId
      · subst same
        simp [MlsStore.currentEpoch]
      · simp [MlsStore.currentEpoch, same]) intact.ordered rfl intact.creates intact.worker
  rcases checkPost_cases crates { state with app := { state.app with
      mls := ⟨Function.update state.app.mls.epochs req.groupId
        (state.app.mls.currentEpoch req.groupId + 1)⟩ } } services auth req prepared with
    same | ⟨message, awaits, group, live, epoch⟩
  · rw [same]
    exact moved
  rw [awaits]
  have taken : (Write.create message).claim crates =
      some (req.groupId, state.app.mls.currentEpoch req.groupId) := by
    simp only [Write.claim, claim, epoch, isEpoch, group, Option.map_some]
  have claims : (State.await { state with app := { state.app with
      mls := ⟨Function.update state.app.mls.epochs req.groupId
        (state.app.mls.currentEpoch req.groupId + 1)⟩ } } (.create message)).claims crates =
      state.claims crates ++ [(req.groupId, state.app.mls.currentEpoch req.groupId)] := by
    show state.rows.filterMap _ ++ (state.writes ++ [_]).filterMap _ = _
    rw [List.filterMap_append, ← List.append_assoc]
    simp [taken, State.claims]
  refine ⟨⟨intact.ordered, intact.ids, intact.live, ?_, intact.worker, ?_, ?_⟩, fun _ =>
    List.prefix_refl _⟩
  · intro other isWrite
    rcases List.mem_append.mp isWrite with old | new
    · exact intact.creates other old
    · obtain rfl : other = message := by simpa using new
      exact live
  · rw [claims, List.nodup_append]
    refine ⟨intact.distinct, List.nodup_singleton _, ?_⟩
    intro earlier isTaken new isNew same
    obtain rfl := List.mem_singleton.mp isNew
    have less := intact.below earlier isTaken
    rw [same] at less
    exact absurd less (lt_irrefl _)
  intro earlier isTaken
  rw [claims] at isTaken
  rcases List.mem_append.mp isTaken with old | new
  · exact moved.1.below earlier old
  · obtain rfl := List.mem_singleton.mp new
    show _ < MlsStore.currentEpoch ⟨Function.update _ _ _⟩ req.groupId
    simp [MlsStore.currentEpoch]

/-! ### Storage calls -/

section

variable (intact : Intact crates state)
include intact

theorem creates_of_eraseIdx (index : Nat) (message : Message)
    (isWrite : .create message ∈ state.writes.eraseIdx index) : message.isDeleted = false :=
  intact.creates message (List.mem_of_mem_eraseIdx isWrite)

theorem intact_performCreate (awaited : state.writes[index]? = some (.create message))
    (now : Timestamp) :
    Intact crates (State.performWrite { state with writes := state.writes.eraseIdx index } now
        (.create message)) ∧
      Extends state (State.performWrite { state with writes := state.writes.eraseIdx index } now
        (.create message)) := by
  obtain ⟨bound, isWrite⟩ := List.getElem?_eq_some_iff.mp awaited
  have pending : .create message ∈ state.writes := isWrite ▸ List.getElem_mem bound
  have frugal : Frugal crates state (State.performWrite
      { state with writes := state.writes.eraseIdx index } now (.create message)) := by
    refine ⟨?_, fun _ => le_rfl⟩
    have writes : ((Write.create message :: state.writes.eraseIdx index).filterMap
        (Write.claim crates)).Perm (state.writes.filterMap (Write.claim crates)) := by
      rw [← isWrite]
      exact (List.getElem_cons_eraseIdx_perm bound).filterMap _
    show ((state.app.storage.createMessage message).2.messages.filterMap (claim crates) ++
      (state.writes.eraseIdx index).filterMap (Write.claim crates)).Subperm _
    rcases createMessage_rows state.app.storage message with same | ⟨-, order, added⟩
    · rw [same]
      exact (((List.eraseIdx_sublist _ _).filterMap _).append_left _).subperm
    rw [added, List.filterMap_append, List.append_assoc]
    refine (List.Perm.append_left _ ?_).subperm
    have sameClaim : [message.setOrder order].filterMap (claim crates) =
        [Write.create message].filterMap (Write.claim crates) := rfl
    rw [sameClaim, ← List.filterMap_append]
    exact writes
  exact intact.create frugal rfl (intact.creates message pending)
    (creates_of_eraseIdx intact index) rfl

theorem intact_performUpdate {encryptedMsg nonce : Bytes} {keyVersion : Int}
    {attachments : List Attachment} {signature : Bytes} {signatureVersion : Int} {publicKey : Bytes}
    (spares :
      (Write.update id encryptedMsg nonce keyVersion attachments signature signatureVersion
      publicKey).SparesCommits state)
    (now : Timestamp) :
    Intact crates (State.performWrite { state with writes := state.writes.eraseIdx index } now
        (.update id encryptedMsg nonce keyVersion attachments signature signatureVersion
          publicKey)) ∧
      Extends state (State.performWrite { state with writes := state.writes.eraseIdx index } now
        (.update id encryptedMsg nonce keyVersion attachments signature signatureVersion
          publicKey)) := by
  have fewer : ((state.writes.eraseIdx index).filterMap (Write.claim crates)).Sublist
      (state.writes.filterMap (Write.claim crates)) := (List.eraseIdx_sublist _ _).filterMap _
  have ordered := intact.ordered.updateMessage now id encryptedMsg nonce keyVersion attachments
    signature signatureVersion publicKey
  simp only [State.performWrite]
  rcases updateMessage_rows state.app.storage now id encryptedMsg nonce keyVersion attachments
    signature signatureVersion publicKey with
    ⟨reason, refused⟩ | ⟨row, after, present, isId, free, returned, rows⟩
  · rw [refused]
    exact intact.keep (.of_writes rfl fewer fun _ => le_rfl) intact.ordered rfl
      (creates_of_eraseIdx intact index) intact.worker
  rcases made : state.app.storage.updateMessage now id encryptedMsg nonce keyVersion
    attachments signature signatureVersion publicKey with ⟨outcome, storage⟩
  rw [made] at returned rows ordered
  simp only at returned
  subst returned
  refine intact.change ordered rows ?_ fewer rfl (creates_of_eraseIdx intact index) intact.worker
  intro other isOther otherId isCommit
  -- ids are unique, so the row is the one the edit was checked against
  obtain rfl : other = row := List.inj_on_of_nodup_map intact.ids isOther present
    (otherId.trans isId.symm)
  have sameBytes : other.encryptedMsg = encryptedMsg :=
    (spares other isOther otherId isCommit).resolve_right free
  have wasLive := intact.live other isOther isCommit
  show CommitEntry.mk other.order encryptedMsg false = commitEntry other
  rw [commitEntry, sameBytes, wasLive]

theorem intact_performDelete (spares : (Write.delete id).SparesCommits state) (now : Timestamp) :
    Intact crates (State.performWrite { state with writes := state.writes.eraseIdx index } now
        (.delete id)) ∧
      Extends state (State.performWrite { state with writes := state.writes.eraseIdx index } now
        (.delete id)) := by
  have fewer : ((state.writes.eraseIdx index).filterMap (Write.claim crates)).Sublist
      (state.writes.filterMap (Write.claim crates)) := (List.eraseIdx_sublist _ _).filterMap _
  have ordered : (state.app.storage.deleteMessage now id).2.WellOrdered :=
    intact.ordered.changeRow id (fun _ => rfl) fun _ => rfl
  rcases deleteMessage_rows state.app.storage now id with same | changed
  · exact intact.keep (.of_writes same fewer fun _ => le_rfl) ordered same
      (creates_of_eraseIdx intact index) intact.worker
  refine intact.change ordered changed ?_ fewer rfl (creates_of_eraseIdx intact index)
    intact.worker
  intro row present isId isCommit
  exact absurd isCommit (spares row present isId)

end

/-! ### The other writers -/

section

variable (intact : Intact crates state)
include intact

theorem intact_payment (now : Timestamp) (id : Uuid) (patch : Json)
    (allowedFromStatus : List String) :
    Intact crates (step crates state (.payment now id patch allowedFromStatus)) ∧
      Extends state (step crates state (.payment now id patch allowedFromStatus)) := by
  have ordered := intact.ordered.updateMessageMetadataTrusted now id patch allowedFromStatus
  rcases updateMessageMetadataTrusted_rows state.app.storage now id patch allowedFromStatus with
    same | changed
  · exact intact.keep (.of_writes same (List.Sublist.refl _) fun _ => le_rfl) ordered same
      intact.creates intact.worker
  refine intact.change ordered changed ?_ (List.Sublist.refl _) rfl intact.creates intact.worker
  intro row present isId isCommit
  have sameFlag : (InMemoryStorage.patchMetadata now patch row).isDeleted = row.isDeleted := by
    unfold Message.isDeleted InMemoryStorage.patchMetadata
    cases row.syncStatus <;> rfl
  exact congrArg (CommitEntry.mk row.order row.encryptedMsg) sameFlag

theorem intact_mark (now : Timestamp) :
    Intact crates (step crates state (.mark now)) ∧
      Extends state (step crates state (.mark now)) := by
  simp only [step]
  split
  · next workflow readAt id archiveRef results isMarking =>
    have worker := intact.worker
    rw [isMarking] at worker
    have rest : (Worker.marking workflow readAt results).SparesCommits state.rows := by
      cases workflow with
      | deleted => exact fun result isResult => worker result (List.mem_cons_of_mem _ isResult)
      | pending | updated => trivial
    have ordered : (state.app.storage.updateSyncStatus now id workflow.toStatus
        (some archiveRef)).2.WellOrdered := intact.ordered.changeRow id (fun _ => rfl) fun _ => rfl
    rcases updateSyncStatus_rows state.app.storage now id workflow.toStatus archiveRef with
      same | changed
    · exact intact.keep (.of_writes same (List.Sublist.refl _) fun _ => le_rfl) ordered same
        intact.creates rest
    refine intact.change ordered changed ?_ (List.Sublist.refl _) rfl intact.creates rest
    intro row present isId isCommit
    have wasLive := intact.live row present isCommit
    cases workflow with
    | deleted =>
      obtain ⟨other, isOther, otherId, notCommit⟩ := worker (id, archiveRef) (by simp)
      obtain rfl : row = other := List.inj_on_of_nodup_map intact.ids present isOther
        (isId.trans otherId.symm)
      exact absurd isCommit notCommit
    | pending | updated =>
      show CommitEntry.mk row.order row.encryptedMsg false = commitEntry row
      rw [commitEntry, wasLive]
  · exact intact.keep (.of_writes rfl (List.Sublist.refl _) fun _ => le_rfl) intact.ordered rfl
      intact.creates trivial
  · exact ⟨intact, .refl state⟩

theorem intact_readBatch (limit : Nat) :
    Intact crates (step crates state (.readBatch limit)) ∧
      Extends state (step crates state (.readBatch limit)) := by
  simp only [step]
  split
  · next workflow isIdle =>
    split
    · next message messages read =>
      obtain ⟨sub, status⟩ := batch_of_read read
      refine intact.keep (.of_writes rfl (List.Sublist.refl _) fun _ => le_rfl) intact.ordered rfl
        intact.creates ?_
      cases workflow with
      | deleted =>
        -- rows marked for deletion are no commits
        intro tombstone isTombstone
        have isRow := sub.subset isTombstone
        refine ⟨tombstone, isRow, rfl, fun isCommit => ?_⟩
        have wasLive := intact.live tombstone isRow isCommit
        simp [Message.isDeleted, status tombstone isTombstone, Workflow.fromStatus] at wasLive
      | pending | updated => trivial
    · exact intact.keep (.of_writes rfl (List.Sublist.refl _) fun _ => le_rfl) intact.ordered rfl
        intact.creates trivial
  · exact ⟨intact, .refl state⟩

theorem intact_upload (failed : Bool) (landings : List Landing) :
    Intact crates (step crates state (.upload failed landings)) ∧
      Extends state (step crates state (.upload failed landings)) := by
  simp only [step]
  split
  · next workflow readAt messages isUploading =>
    refine intact.keep (.of_writes rfl (List.Sublist.refl _) fun _ => le_rfl) intact.ordered rfl
      intact.creates ?_
    have worker := intact.worker
    rw [isUploading] at worker
    cases failed with
    | true => trivial
    | false =>
      cases workflow with
      | deleted =>
        intro result isResult
        obtain ⟨message, isMessage, isId, -⟩ := mem_batchResults .deleted isResult
        obtain ⟨row, present, rowId, notCommit⟩ := worker message isMessage
        exact ⟨row, present, rowId.trans isId, notCommit⟩
      | pending | updated => trivial
  · exact ⟨intact, .refl state⟩

/-- **Every step that meets the condition** keeps the invariant, and only adds commits. -/
theorem intact_step (input : Input) (spares : SparesCommits state input) :
    Intact crates (step crates state input) ∧ Extends state (step crates state input) := by
  cases input with
  | post services auth req => exact intact_post intact services auth req
  | put | delete =>
    simp only [step]
    split
    · exact intact.await _ rfl (by rintro message ⟨⟩)
    · exact ⟨intact, .refl state⟩
  | perform index now =>
    simp only [step]
    cases awaited : state.writes[index]? with
    | none => exact ⟨intact, .refl state⟩
    | some write =>
      have sparesWrite := spares write awaited
      cases write with
      | create => exact intact_performCreate intact awaited now
      | update => exact intact_performUpdate intact sparesWrite now
      | delete => exact intact_performDelete intact sparesWrite now
  | abandon index =>
    exact intact.keep (.of_writes rfl ((List.eraseIdx_sublist _ _).filterMap _) fun _ => le_rfl)
      intact.ordered rfl (creates_of_eraseIdx intact index) intact.worker
  | system blake2b512 id groupId member systemType actor key createdAt =>
    refine intact.create ⟨?_, fun _ => le_rfl⟩ rfl rfl intact.creates rfl
    show ((state.app.storage.createMessage (.newSystem blake2b512 id groupId member systemType
      actor key createdAt)).2.messages.filterMap (claim crates) ++ _).Subperm _
    rcases createMessage_rows state.app.storage (.newSystem blake2b512 id groupId member systemType
      actor key createdAt) with same | ⟨-, order, added⟩
    · rw [same]
      exact List.Subperm.refl _
    rw [added, List.filterMap_append]
    -- a system row takes no epoch
    have free : ([(Message.newSystem blake2b512 id groupId member systemType actor key
        createdAt).setOrder order]).filterMap (claim crates) = [] := rfl
    rw [free, List.append_nil]
    exact List.Subperm.refl _
  | payment now id patch allowedFromStatus =>
    exact intact_payment intact now id patch allowedFromStatus
  | readBatch limit => exact intact_readBatch intact limit
  | upload failed landings => exact intact_upload intact failed landings
  | mark now => exact intact_mark intact now
  | restart =>
    refine intact.keep (.of_writes rfl (List.nil_sublist _) fun _ => le_rfl) intact.ordered rfl
      ?_ trivial
    rintro message ⟨⟩

end

theorem mem_commitLog {storage : InMemoryStorage} {entry : CommitEntry}
    (ordered : storage.WellOrdered) (inLog : entry ∈ commitLog storage groupId) :
    ∃ row ∈ storage.messages, row.groupId = groupId ∧ row.kind = .commit ∧
      commitEntry row = entry := by
  rw [commitLog_eq ordered] at inLog
  obtain ⟨row, isCommit, same⟩ := List.mem_map.mp inLog
  obtain ⟨inGroup, isKind⟩ := List.mem_filter.mp isCommit
  obtain ⟨present, isGroup⟩ := List.mem_filter.mp inGroup
  exact ⟨row, present, beq_iff_eq.mp isGroup, beq_iff_eq.mp isKind, same⟩

theorem Intact.accepted_unique (intact : Intact crates state) {epoch : Nat}
    {first second : CommitEntry} (isFirst : Accepted crates state.app.storage groupId epoch first)
    (isSecond : Accepted crates state.app.storage groupId epoch second) : first = second := by
  have takes : ∀ row : Message, row.groupId = groupId → row.kind = .commit →
      CommitLog.commitEpoch crates .commit row.encryptedMsg = some epoch →
      claim crates row = some (groupId, epoch) := by
    intro row isGroup isKind isEpoch
    rw [← isKind] at isEpoch
    simp [claim, CommitLog.rowEpoch, isEpoch, isGroup]
  obtain ⟨row, present, isGroup, isKind, rfl⟩ := mem_commitLog intact.ordered isFirst.inLog
  obtain ⟨other, isOther, otherGroup, otherKind, rfl⟩ := mem_commitLog intact.ordered isSecond.inLog
  have sameRow : row = other := eq_of_nodup_filterMap (List.nodup_append.mp intact.distinct).1
    present isOther (takes row isGroup isKind isFirst.isEpoch)
    (takes other otherGroup otherKind isSecond.isEpoch)
  rw [sameRow]

end Steps

/-! ## Every run -/

def reached (crates : Crates) (inputs : List Input) : State := inputs.foldl (step crates) start

theorem intact_of_along {crates : Crates} {state : State} (intact : Intact crates state)
    {inputs : List Input} (spared : Along (step crates) SparesCommits state inputs) :
    Intact crates (inputs.foldl (step crates) state) ∧
      Extends state (inputs.foldl (step crates) state) := by
  induction inputs generalizing state with
  | nil => exact ⟨intact, .refl state⟩
  | cons input rest ih =>
    obtain ⟨spares, sparedRest⟩ := spared
    obtain ⟨after, extends_⟩ := intact_step intact input spares
    obtain ⟨final, later⟩ := ih after sparedRest
    exact ⟨final, extends_.trans later⟩

/-- **The accepted commits are immutable.**  In every run in which no commit row is edited or
deleted: from any moment to the end, the commits of every group only grow at their end, and
readers at the two moments process the same commit for every epoch they both find. -/
theorem commit_log_immutable (crates : Crates) (before after : List Input)
    (spared : Along (step crates) SparesCommits start (before ++ after)) :
    (∀ groupId, commitLog (reached crates before).app.storage groupId <+:
      commitLog (reached crates (before ++ after)).app.storage groupId) ∧
    ∀ groupId epoch first second,
      Accepted crates (reached crates before).app.storage groupId epoch first →
      Accepted crates (reached crates (before ++ after)).app.storage groupId epoch second →
      first = second := by
  obtain ⟨sparedBefore, sparedAfter⟩ := (Along.append start before after).mp spared
  obtain ⟨intact, -⟩ := intact_of_along (intact_start crates) sparedBefore
  obtain ⟨final, grown⟩ := intact_of_along intact sparedAfter
  have split : reached crates (before ++ after) =
      after.foldl (step crates) (reached crates before) := List.foldl_append
  rw [split]
  refine ⟨grown, ?_⟩
  intro groupId epoch first second isFirst isSecond
  have stillThere : Accepted crates (after.foldl (step crates) (reached crates before)).app.storage
      groupId epoch first :=
    { isFirst with inLog := (grown groupId).subset isFirst.inLog }
  exact final.accepted_unique stillThere isSecond

/-! ### A commit that is edited, and one that is deleted -/

/-- A library that reads a group of one byte, an epoch, and one more byte. -/
def sampleCrates : Crates :=
  { CommitLog.sampleCrates with
    inspect := fun bytes =>
      match bytes with
      | [group, epoch, _] => some (.commit [group] epoch.toNat)
      | _ => none }

def postCommit : List Input :=
  [.post CommitLog.sampleServices CommitLog.sampleAuth
      { CommitLog.sampleCommit ['0', '1'] with encryptedText := "670001" },
    .perform 0 1]

/-- The archive worker takes it up, and marks it. -/
def archiveCommit : List Input := [.readBatch 10, .upload false [.acknowledged "ref"], .mark 2]

theorem commit_log_immutable_archived :
    commitLog (reached sampleCrates postCommit).app.storage "g" = [⟨some 1, [103, 0, 1], false⟩] ∧
    ∀ groupId,
      commitLog (reached sampleCrates postCommit).app.storage groupId <+:
        commitLog (reached sampleCrates (postCommit ++ archiveCommit)).app.storage groupId := by
  have spared : Along (step sampleCrates) SparesCommits start (postCommit ++ archiveCommit) := by
    refine ⟨trivial, ?_, trivial, trivial, trivial, trivial⟩
    intro write awaited
    have takes : ((step sampleCrates start (.post CommitLog.sampleServices CommitLog.sampleAuth
        { CommitLog.sampleCommit ['0', '1'] with encryptedText := "670001" })).writes[0]?.bind
          (Write.claim sampleCrates)).isSome = true := by decide +kernel
    rw [awaited] at takes
    cases write with
    | create => trivial
    | update | delete => simp [Write.claim] at takes
  exact ⟨by decide +kernel, (commit_log_immutable sampleCrates postCommit archiveCommit spared).1⟩

/-- Another commit of epoch 0 in place of the first. -/
def sampleEdit : UpdateMessageRequest where
  messageId := 7
  groupId := "g"
  encryptedText := "670002"
  nonce := "000000000000000000000001"
  keyVersion := 0
  messageSignature := String.ofList (List.replicate 64 ['0', '1']).flatten

/-- **The sender of an accepted commit replaces it, or takes it away.**  Readers before and
after the edit process different commits for epoch 0; after the deletion there is none. -/
theorem edited_commit_forks :
    commitLog (reached sampleCrates postCommit).app.storage "g" =
        [⟨some 1, [103, 0, 1], false⟩] ∧
      commitLog (reached sampleCrates (postCommit ++
        [.put CommitLog.sampleAuth sampleEdit, .perform 0 2])).app.storage "g" =
        [⟨some 1, [103, 0, 2], false⟩] ∧
      CommitLog.commitEpoch sampleCrates .commit [103, 0, 1] = some 0 ∧
      CommitLog.commitEpoch sampleCrates .commit [103, 0, 2] = some 0 ∧
      commitLog (reached sampleCrates (postCommit ++
        [.delete CommitLog.sampleAuth 7, .perform 0 2])).app.storage "g" =
        [⟨some 1, [103, 0, 1], true⟩] ∧
      ¬commitLog (reached sampleCrates postCommit).app.storage "g" <+:
        commitLog (reached sampleCrates (postCommit ++
          [.put CommitLog.sampleAuth sampleEdit, .perform 0 2])).app.storage "g" := by
  decide +kernel

end MessagingStack.Relayer.Archive

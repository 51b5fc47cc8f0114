import MessagingStack.Base.OrderedMap

/-!
# The read state of a wallet

The watermarks a wallet has read up to, by group (`sync/types.ts`), the update of one of
them (`updateReadState` of `sync/messaging-sync-manager.ts`), and the record the relayer
keeps of it: one encrypted blob with a version that the relayer assigns
(`put_user_read_state` of `storage/memory.rs` and `storage/postgres.rs`).

A merge lets the larger watermark win, so it is nowhere behind the remote side
(`below_mergeReadState`); an update starts from a merge and puts one watermark at its
target or above.
-/

namespace MessagingStack.Sdk

/-! ## Watermarks -/

structure GroupRead where
  readUpto : Int
  muted : Option Bool
  deriving DecidableEq

structure UserReadState where
  updatedAt : Int
  groups : OrderedMap String GroupRead
  deriving DecidableEq

namespace UserReadState

def createEmptyReadState (now : Int) : UserReadState := ⟨now, .empty⟩

def mergeEntry (groups : OrderedMap String GroupRead) (entry : String × GroupRead) :
    OrderedMap String GroupRead :=
  match groups.get entry.1 with
  | none => groups.insert entry.1 ⟨max entry.2.readUpto 0, entry.2.muted⟩
  | some remote =>
    if remote.readUpto < entry.2.readUpto then
      groups.insert entry.1 ⟨max entry.2.readUpto remote.readUpto, entry.2.muted <|> remote.muted⟩
    else groups

def mergeReadState (localState remote : UserReadState) : UserReadState where
  updatedAt := max localState.updatedAt remote.updatedAt
  groups := localState.groups.entries.foldl mergeEntry remote.groups

def advance (base : UserReadState) (groupId : String) (readUpto now : Int) : UserReadState where
  updatedAt := now
  groups :=
    base.groups.insert groupId
      { readUpto := max (((base.groups.get groupId).map (·.readUpto)).getD 0) readUpto
        muted := (base.groups.get groupId).bind (·.muted) }

def watermark (state : UserReadState) (groupId : String) : Int :=
  ((state.groups.get groupId).map (·.readUpto)).getD (-1)

def Below (left right : UserReadState) : Prop :=
  ∀ groupId, left.watermark groupId ≤ right.watermark groupId

theorem Below.refl (state : UserReadState) : Below state state := fun _ => Int.le_refl _

theorem Below.trans {first second third : UserReadState} (left : Below first second)
    (right : Below second third) : Below first third :=
  fun groupId => Int.le_trans (left groupId) (right groupId)

theorem below_mergeEntry (groups : OrderedMap String GroupRead)
    (entry : String × GroupRead) (updatedAt : Int) :
    Below ⟨updatedAt, groups⟩ ⟨updatedAt, mergeEntry groups entry⟩ := by
  intro groupId
  unfold watermark mergeEntry
  simp only
  cases present : groups.get entry.1 with
  | none =>
    simp only [OrderedMap.get_insert]
    split_ifs with here
    · rw [here, present]
      simp only [Option.map_none, Option.getD_none, Option.map_some, Option.getD_some]
      omega
    · exact Int.le_refl _
  | some =>
    simp only
    split_ifs with ahead
    · simp only [OrderedMap.get_insert]
      split_ifs with here
      · rw [here, present]
        simp only [Option.map_some, Option.getD_some]
        omega
      · exact Int.le_refl _
    · exact Int.le_refl _

/-- **Max wins.**  A merge loses no watermark of the remote state. -/
theorem below_mergeReadState (localState remote : UserReadState) :
    Below remote (mergeReadState localState remote) := by
  unfold mergeReadState
  have general : ∀ groups : OrderedMap String GroupRead,
      Below ⟨max localState.updatedAt remote.updatedAt, groups⟩
        ⟨max localState.updatedAt remote.updatedAt,
          localState.groups.entries.foldl mergeEntry groups⟩ := by
    induction localState.groups.entries with
    | nil => exact fun groups => Below.refl _
    | cons entry rest ih =>
      intro groups
      rw [List.foldl_cons]
      exact (below_mergeEntry groups entry _).trans (ih _)
  exact fun groupId => general remote.groups groupId

theorem below_advance (base : UserReadState) (groupId : String) (readUpto now : Int) :
    Below base (base.advance groupId readUpto now) := by
  intro wanted
  simp only [watermark, advance, OrderedMap.get_insert]
  split_ifs with here
  · subst here
    cases base.groups.get wanted <;>
      simp only [Option.map_none, Option.getD_none, Option.map_some, Option.getD_some] <;>
      omega
  · exact Int.le_refl _

/-- An update reaches its target. -/
theorem le_watermark_advance (base : UserReadState) (groupId : String) (readUpto now : Int) :
    readUpto ≤ (base.advance groupId readUpto now).watermark groupId := by
  simp only [watermark, advance, OrderedMap.get_insert, if_true, Option.map_some, Option.getD_some]
  omega

end UserReadState

/-! ## The record of the relayer -/

/-- `EncryptedBlobRecord`, without the time of the write.  To the relayer the blob is
opaque. -/
structure EncryptedBlobRecord (β : Type) where
  encryptedBlob : β
  blobVersion : Nat
  deriving DecidableEq

inductive PutUserReadStateResult (β : Type) where
  | stored (blobVersion : Nat)
  | conflict (current : EncryptedBlobRecord β)
  deriving DecidableEq

def putUserReadState {β : Type} (current : Option (EncryptedBlobRecord β)) (encryptedBlob : β)
    (expectedVersion : Option Nat) :
    PutUserReadStateResult β × Option (EncryptedBlobRecord β) :=
  match expectedVersion, current with
  | some expected, some record =>
    if expected ≠ record.blobVersion then (.conflict record, current)
    else (.stored (record.blobVersion + 1), some ⟨encryptedBlob, record.blobVersion + 1⟩)
  | none, some record =>
    (.stored (record.blobVersion + 1), some ⟨encryptedBlob, record.blobVersion + 1⟩)
  | _, none => (.stored 1, some ⟨encryptedBlob, 1⟩)

end MessagingStack.Sdk

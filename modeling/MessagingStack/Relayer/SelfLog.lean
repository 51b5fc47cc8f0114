import Mathlib.Data.List.Perm.Basic
import Mathlib.Data.List.Sort
import MessagingStack.Base.Runs
import MessagingStack.Relayer.MlsStore

/-!
# The log of a self-group

The devices of a wallet share a self-group, whose messages go to a log of the MLS store
(`append_self`, `self_after` in `services/mls_store.rs`).  This module runs any number of calls and
of reading devices, one storage operation to a step.  The promises of the log hold in every run that
meets `Clean` (`log_keeps_its_promises`).
-/

namespace MessagingStack.Relayer.SelfLog

/-! ## The store -/

inductive Backend where
  | memory
  | postgres
  deriving DecidableEq

/-- Max self-group rows kept per wallet. -/
def maxSelfMessages : Int := 5000

/-- A message that has passed the handler's checks. -/
structure Post where
  wallet : String
  body : Bytes
  isCommit : Bool
  deriving DecidableEq

/-- A row of `mls_self_messages`. -/
structure Row extends Post where
  seq : Int
  deriving DecidableEq

/-- A device that reads the log: from where, how far it has come, and what it has been given. -/
structure Device where
  wallet : String
  start : Int
  cursor : Int
  seen : List Row
  deriving DecidableEq

structure State where
  epochs : MlsStore
  rows : List Row
  /-- `BIGSERIAL`: the next number of the table. -/
  nextSeq : Int
  /-- The calls that are about to append, after they have moved the epoch for a commit. -/
  accepted : List Post
  /-- The rows of transactions that have not committed. -/
  inserting : List Row
  /-- The rows after which the wallet's old rows have still to be deleted. -/
  trimming : List Row
  devices : List Device
  /-- Every row that was ever visible. -/
  log : List Row

def selfGroupId (wallet : String) : String := "self:" ++ wallet

/-- The message of a call, if it is one for the wallet's self-group: whether it is a commit, and
of which epoch. -/
def selfMessage (inspect : Bytes → Option MessageInfo) (wallet : String) (body : Bytes) :
    Option (Option Nat) :=
  match inspect body with
  | some (.commit groupId epoch) =>
    if groupId = Text.utf8 (selfGroupId wallet) then some (some epoch) else none
  | some (.application groupId _) | some (.proposal groupId _) =>
    if groupId = Text.utf8 (selfGroupId wallet) then some none else none
  | _ => none

/-- `post_self_message` up to the append. -/
def acceptPost (inspect : Bytes → Option MessageInfo) (wallet : String) (body : Bytes)
    (state : State) : State :=
  match selfMessage inspect wallet body with
  | none => state
  | some none => { state with accepted := state.accepted ++ [⟨wallet, body, false⟩] }
  | some (some epoch) =>
    match state.epochs.tryAdvanceEpoch (selfGroupId wallet) epoch with
    | (false, epochs) => { state with epochs }
    | (true, epochs) => { state with epochs, accepted := state.accepted ++ [⟨wallet, body, true⟩] }

/-- The number of a new row in memory. -/
def nextOwnSeq (rows : List Row) (wallet : String) : Int :=
  ((rows.filter fun row => row.wallet = wallet).map (·.seq)).foldl max 0 + 1

def selfAfter (backend : Backend) (rows : List Row) (wallet : String) (after : Int)
    (limit : Nat) : List Row :=
  let found := rows.filter fun row => row.wallet = wallet ∧ after < row.seq
  match backend with
  | .memory => found.take limit
  | .postgres => (found.mergeSort fun left right => left.seq ≤ right.seq).take limit

/-- A device gets the next page of its log. -/
def Device.poll (backend : Backend) (rows : List Row) (limit : Nat) (device : Device) :
    Device :=
  let page := selfAfter backend rows device.wallet device.cursor limit
  { device with
    seen := device.seen ++ page
    cursor := (page.getLast?.map (·.seq)).getD device.cursor }

/-! ## Runs -/

inductive Input where
  /-- A call passes its checks. -/
  | post (wallet : String) (body : Bytes)
  /-- The accepted call at this place inserts its row. -/
  | insert (index : Nat)
  /-- The transaction of the inserted row at this place commits. -/
  | commitRow (index : Nat)
  /-- The old rows of the wallet are deleted after the row at this place. -/
  | trim (index : Nat)
  /-- The operation fails, or the call is dropped. -/
  | abandonPost (index : Nat)
  | abandonInsert (index : Nat)
  | abandonTrim (index : Nat)
  /-- A device begins to read after a number. -/
  | join (wallet : String) (after : Int)
  /-- The device at this place polls. -/
  | poll (index limit : Nat)

/-- A row becomes visible. -/
def State.append (state : State) (row : Row) : State :=
  { state with rows := state.rows ++ [row], log := state.log ++ [row] }

def trimRows (rows : List Row) (row : Row) : List Row :=
  rows.filter fun old => ¬(old.wallet = row.wallet ∧ old.seq ≤ row.seq - maxSelfMessages)

def step (backend : Backend) (inspect : Bytes → Option MessageInfo) (state : State) :
    Input → State
  | .post wallet body => acceptPost inspect wallet body state
  | .insert index =>
    match state.accepted[index]? with
    | none => state
    | some post =>
      let state := { state with accepted := state.accepted.eraseIdx index }
      match backend with
      | .memory => state.append ⟨post, nextOwnSeq state.rows post.wallet⟩
      | .postgres =>
        { state with
          inserting := state.inserting ++ [⟨post, state.nextSeq⟩]
          nextSeq := state.nextSeq + 1 }
  | .commitRow index =>
    match state.inserting[index]? with
    | none => state
    | some row =>
      { state.append row with
        inserting := state.inserting.eraseIdx index
        trimming := state.trimming ++ [row] }
  | .trim index =>
    match state.trimming[index]? with
    | none => state
    | some row =>
      { state with
        rows := trimRows state.rows row
        trimming := state.trimming.eraseIdx index }
  | .abandonPost index => { state with accepted := state.accepted.eraseIdx index }
  | .abandonInsert index => { state with inserting := state.inserting.eraseIdx index }
  | .abandonTrim index => { state with trimming := state.trimming.eraseIdx index }
  | .join wallet after => { state with devices := state.devices ++ [⟨wallet, after, after, []⟩] }
  | .poll index limit =>
    match state.devices[index]? with
    | none => state
    | some device =>
      { state with devices := state.devices.set index (device.poll backend state.rows limit) }

def start : State where
  epochs := .new
  rows := []
  nextSeq := 1
  accepted := []
  inserting := []
  trimming := []
  devices := []
  log := []

/-- The state a run reaches. -/
def reached (backend : Backend) (inspect : Bytes → Option MessageInfo) (inputs : List Input) :
    State :=
  inputs.foldl (step backend inspect) start

/-! ## What the log promises -/

def State.later (state : State) (wallet : String) (seq : Int) : List Row :=
  state.log.filter fun row => row.wallet = wallet ∧ seq < row.seq

def State.numbers (state : State) (seq : Int) : List Int :=
  (List.range (state.nextSeq - 1 - seq).toNat).map fun place : Nat => seq + 1 + (place : Int)

/-- How many numbers after `seq` have not gone to a row of the wallet: those of other wallets,
of failed inserts, and of rows that are not visible yet. -/
def State.foreign (state : State) (wallet : String) (seq : Int) : Nat :=
  (state.numbers seq).countP fun number => ¬∃ row ∈ state.later wallet seq, row.seq = number

/-- The device polls in time: at most 5 000 rows of its wallet are new to it. -/
def InTime (state : State) (device : Device) : Prop :=
  ((state.later device.wallet device.cursor).length : Int) ≤ maxSelfMessages

/-- The condition on a run. -/
def Clean (state : State) : Input → Prop
  -- a call that has moved the epoch is not lost
  | .abandonPost index => ∀ post ∈ state.accepted[index]?, post.isCommit = false
  | .abandonInsert index => ∀ row ∈ state.inserting[index]?, row.isCommit = false
  -- a row does not become visible behind a device
  | .commitRow index => ∀ row ∈ state.inserting[index]?, ∀ device ∈ state.devices,
    device.wallet = row.wallet → device.start < row.seq → device.cursor < row.seq
  -- the numbers that have gone to others bring no row into reach
  | .trim index => ∀ row ∈ state.trimming[index]?, ∀ old ∈ state.rows,
    old.wallet = row.wallet → old.seq ≤ row.seq - maxSelfMessages →
      state.foreign old.wallet old.seq + maxSelfMessages ≤ state.nextSeq - 1 - old.seq
  | _ => True

instance (state : State) : (input : Input) → Decidable (Clean state input)
  | .abandonPost index => inferInstanceAs (Decidable
      (∀ post ∈ state.accepted[index]?, post.isCommit = false))
  | .abandonInsert index => inferInstanceAs (Decidable
      (∀ row ∈ state.inserting[index]?, row.isCommit = false))
  | .commitRow index => inferInstanceAs (Decidable
      (∀ row ∈ state.inserting[index]?, ∀ device ∈ state.devices,
        device.wallet = row.wallet → device.start < row.seq → device.cursor < row.seq))
  | .trim index => inferInstanceAs (Decidable
      (∀ row ∈ state.trimming[index]?, ∀ old ∈ state.rows,
        old.wallet = row.wallet → old.seq ≤ row.seq - maxSelfMessages →
          state.foreign old.wallet old.seq + maxSelfMessages ≤ state.nextSeq - 1 - old.seq))
  | .post _ _ | .insert _ | .abandonTrim _ | .join _ _ | .poll _ _ => .isTrue trivial

/-- The commits of a wallet whose row is still to be written. -/
def State.underWay (state : State) (wallet : String) : Nat :=
  (state.accepted.countP fun post => post.wallet = wallet ∧ post.isCommit) +
    state.inserting.countP fun row => row.wallet = wallet ∧ row.isCommit

/-- The commits ever appended to the log of a wallet. -/
def State.commits (state : State) (wallet : String) : Nat :=
  state.log.countP fun row => row.wallet = wallet ∧ row.isCommit

/-! ## The invariant of the store -/

/-- What holds of the rows in every run that meets the condition. -/
structure Kept (backend : Backend) (state : State) : Prop where
  /-- The numbers of a wallet are distinct. -/
  distinct : (state.log ++ state.inserting).Pairwise fun left right =>
    left.wallet = right.wallet → left.seq ≠ right.seq
  fresh : backend = .postgres → ∀ row ∈ state.log ++ state.inserting, row.seq < state.nextSeq
  memory : backend = .memory → state.rows = state.log ∧ state.inserting = [] ∧ state.trimming = []
  increasing : backend = .memory → state.log.Pairwise fun left right =>
    left.wallet = right.wallet → left.seq < right.seq
  sublist : state.rows.Sublist state.log
  removed : ∀ row ∈ state.log, row ∉ state.rows →
    maxSelfMessages ≤ (state.later row.wallet row.seq).length

/-- The epochs count the commits of the log and those under way. -/
def Counted (state : State) : Prop :=
  ∀ wallet, state.epochs.currentEpoch (selfGroupId wallet) =
    state.commits wallet + state.underWay wallet

/-! ### Later rows -/

variable {state : State} {backend : Backend} {row : Row} {device : Device} {index : Nat}
  {inspect : Bytes → Option MessageInfo} {input : Input} {seq : Int} {α : Type} {elements : List α}
  {element : α} {limit : Nat}

@[simp] theorem mem_later {wallet : String} :
    row ∈ state.later wallet seq ↔ row ∈ state.log ∧ row.wallet = wallet ∧ seq < row.seq := by
  simp [State.later]

theorem length_later_lt (isIn : row ∈ state.log) (below : seq < row.seq) :
    (state.later row.wallet row.seq).length < (state.later row.wallet seq).length := by
  have part : state.later row.wallet row.seq =
      (state.later row.wallet seq).filter fun other => row.seq < other.seq := by
    unfold State.later
    rw [List.filter_filter]
    refine List.filter_congr fun other _ => ?_
    by_cases same : other.wallet = row.wallet
    · by_cases above : row.seq < other.seq
      · have : seq < other.seq := below.trans above
        simp [same, above, this]
      · simp [above]
    · simp [same]
  rw [part, List.length_filter_lt_length_iff_exists]
  exact ⟨row, mem_later.mpr ⟨isIn, rfl, below⟩, by simp⟩

theorem length_later_append (state : State) (row : Row) (wallet : String) (seq : Int) :
    (state.later wallet seq).length ≤ ((state.append row).later wallet seq).length := by
  show (state.log.filter _).length ≤ ((state.log ++ [row]).filter _).length
  rw [List.filter_append, List.length_append]
  exact Nat.le_add_right _ _

theorem foreign_add_later (kept : Kept backend state) (isPostgres : backend = .postgres)
    (wallet : String) (seq : Int) :
    (state.nextSeq - 1 - seq).toNat = state.foreign wallet seq +
      (state.later wallet seq).length := by
  have numbersNodup : (state.numbers seq).Nodup := by
    refine List.Nodup.map ?_ List.nodup_range
    intro left right same
    have same : seq + 1 + (left : Int) = seq + 1 + (right : Int) := same
    omega
  have seqsNodup : ((state.later wallet seq).map (·.seq)).Nodup := by
    have distinct := (List.pairwise_append.mp kept.distinct).1
    refine List.pairwise_map.mpr ?_
    refine ((distinct.filter _).imp_of_mem ?_)
    intro left right isLeft isRight differ
    have ofLeft := (mem_later.mp isLeft).2.1
    have ofRight := (mem_later.mp isRight).2.1
    exact differ (ofLeft.trans ofRight.symm)
  have numbered : ((state.numbers seq).filter fun number =>
      ∃ row ∈ state.later wallet seq, row.seq = number).Perm
        ((state.later wallet seq).map (·.seq)) := by
    refine (List.perm_ext_iff_of_nodup (numbersNodup.filter _) seqsNodup).mpr fun number => ?_
    rw [List.mem_filter, List.mem_map, decide_eq_true_eq]
    refine ⟨And.right, fun found => ⟨?_, found⟩⟩
    obtain ⟨row, isLater, rfl⟩ := found
    obtain ⟨isIn, -, above⟩ := mem_later.mp isLater
    have below := kept.fresh isPostgres row (List.mem_append_left _ isIn)
    refine List.mem_map.mpr ⟨(row.seq - seq - 1).toNat, List.mem_range.mpr ?_, ?_⟩ <;> omega
  have counted : (state.numbers seq).length = ((state.numbers seq).filter fun number =>
      ∃ row ∈ state.later wallet seq, row.seq = number).length + state.foreign wallet seq := by
    rw [← List.countP_eq_length_filter, State.foreign, List.length_eq_countP_add_countP
      fun number => decide (∃ row ∈ state.later wallet seq, row.seq = number)]
    simp only [decide_eq_true_eq, decide_not]
  have total : (state.numbers seq).length = (state.nextSeq - 1 - seq).toNat := by
    rw [State.numbers, List.length_map, List.length_range]
  rw [numbered.length_eq, List.length_map] at counted
  omega

/-! ### Steps -/

theorem perm_eraseIdx (isAt : elements[index]? = some element) :
    (element :: elements.eraseIdx index).Perm elements := by
  obtain ⟨below, rfl⟩ := List.getElem?_eq_some_iff.mp isAt
  exact List.getElem_cons_eraseIdx_perm below

theorem foldl_max_ge (start : Int) (numbers : List Int) :
    start ≤ numbers.foldl max start ∧ ∀ number ∈ numbers, number ≤ numbers.foldl max start := by
  induction numbers generalizing start with
  | nil => exact ⟨le_rfl, fun _ isIn => absurd isIn List.not_mem_nil⟩
  | cons first rest ih =>
    obtain ⟨above, others⟩ := ih (max start first)
    rw [List.foldl_cons]
    refine ⟨(le_max_left _ _).trans above, fun number isIn => ?_⟩
    rcases List.mem_cons.mp isIn with rfl | isIn
    · exact (le_max_right _ _).trans above
    · exact others number isIn

theorem lt_nextOwnSeq {rows : List Row} (isIn : row ∈ rows) :
    row.seq < nextOwnSeq rows row.wallet := by
  have isOwn : row.seq ∈ (rows.filter fun other => other.wallet = row.wallet).map (·.seq) :=
    List.mem_map.mpr ⟨row, List.mem_filter.mpr ⟨isIn, by simp⟩, rfl⟩
  exact Int.lt_add_one_of_le ((foldl_max_ge 0 _).2 _ isOwn)

theorem Kept.append (kept : Kept backend state)
    (others : ∀ old ∈ state.log, old.wallet = row.wallet → old.seq < row.seq)
    (inMemory : backend = .memory) : Kept backend (state.append row) := by
  obtain ⟨isLog, noInserts, noTrims⟩ := kept.memory inMemory
  have ordered : (state.log ++ [row]).Pairwise fun left right =>
      left.wallet = right.wallet → left.seq < right.seq := by
    refine List.pairwise_append.mpr
      ⟨kept.increasing inMemory, by simp, fun old isOld new isNew => ?_⟩
    rw [List.mem_singleton.mp isNew]
    exact others old isOld
  refine ⟨?_, ?_, fun _ => ⟨?_, noInserts, noTrims⟩, fun _ => ordered, ?_, ?_⟩
  · show (state.log ++ [row] ++ state.inserting).Pairwise _
    rw [noInserts, List.append_nil]
    exact ordered.imp fun below same => (below same).ne
  · intro isPostgres
    cases inMemory ▸ isPostgres
  · show state.rows ++ [row] = state.log ++ [row]
    rw [isLog]
  · exact kept.sublist.append (List.Sublist.refl _)
  intro old isOld isGone
  refine absurd ?_ isGone
  show old ∈ state.rows ++ [row]
  rw [isLog]
  exact isOld

/-- **No step breaks the store.** -/
theorem Kept.step (kept : Kept backend state) (clean : Clean state input) :
    Kept backend (step backend inspect state input) := by
  cases input with
  | post wallet body =>
    have frame : (acceptPost inspect wallet body state).log = state.log ∧
        (acceptPost inspect wallet body state).rows = state.rows ∧
        (acceptPost inspect wallet body state).inserting = state.inserting ∧
        (acceptPost inspect wallet body state).trimming = state.trimming ∧
        (acceptPost inspect wallet body state).nextSeq = state.nextSeq := by
      unfold acceptPost
      split
      · exact ⟨rfl, rfl, rfl, rfl, rfl⟩
      · exact ⟨rfl, rfl, rfl, rfl, rfl⟩
      · split <;> exact ⟨rfl, rfl, rfl, rfl, rfl⟩
    obtain ⟨sameLog, sameRows, sameInserting, sameTrimming, sameSeq⟩ := frame
    show Kept backend (acceptPost inspect wallet body state)
    constructor <;> simp only [sameLog, sameRows, sameInserting, sameTrimming, sameSeq, State.later]
    · exact kept.distinct
    · exact kept.fresh
    · exact kept.memory
    · exact kept.increasing
    · exact kept.sublist
    · exact kept.removed
  | insert index =>
    cases isAt : state.accepted[index]? with
    | none =>
      simp only [SelfLog.step, isAt]
      exact kept
    | some =>
      simp only [SelfLog.step, isAt]
      have kept : Kept backend { state with accepted := state.accepted.eraseIdx index } :=
        ⟨kept.distinct, kept.fresh, kept.memory, kept.increasing, kept.sublist, kept.removed⟩
      cases backend with
      | memory =>
        refine kept.append (fun old isOld same => ?_) rfl
        have isRow : old ∈ state.rows := (kept.memory rfl).1.symm ▸ isOld
        have below := lt_nextOwnSeq isRow
        rw [same] at below
        exact below
      | postgres =>
        have below := kept.fresh rfl
        refine ⟨?_, fun _ row isIn => ?_, nofun, nofun, kept.sublist, kept.removed⟩
        · show (state.log ++ (state.inserting ++ [_])).Pairwise _
          rw [← List.append_assoc]
          refine List.pairwise_append.mpr ⟨kept.distinct, by simp, fun old isOld new isNew _ => ?_⟩
          rw [List.mem_singleton.mp isNew]
          exact (below old isOld).ne
        show row.seq < state.nextSeq + 1
        have isIn : row ∈ state.log ++ (state.inserting ++ [_]) := isIn
        rw [← List.append_assoc] at isIn
        rcases List.mem_append.mp isIn with isOld | isNew
        · have := below row isOld
          exact this.trans (Int.lt_succ _)
        · rw [List.mem_singleton.mp isNew]
          exact Int.lt_succ _
  | commitRow index =>
    cases isAt : state.inserting[index]? with
    | none =>
      simp only [SelfLog.step, isAt]
      exact kept
    | some row =>
      simp only [SelfLog.step, isAt]
      have notMemory : backend ≠ .memory := by
        intro inMemory
        cases (kept.memory inMemory).2.1 ▸ isAt
      have moved : (state.log ++ [row] ++ state.inserting.eraseIdx index).Perm
          (state.log ++ state.inserting) := by
        rw [List.append_assoc]
        exact (perm_eraseIdx isAt).append_left _
      refine ⟨?_, fun isPostgres other isIn => ?_, fun h => absurd h notMemory,
        fun h => absurd h notMemory, ?_, ?_⟩
      · refine kept.distinct.perm moved.symm ?_
        exact fun differ same => (differ same.symm).symm
      · exact kept.fresh isPostgres other (moved.mem_iff.mp isIn)
      · exact kept.sublist.append (List.Sublist.refl _)
      intro old isOld isGone
      rcases List.mem_append.mp isOld with isOld | isNew
      · have isGone : old ∉ state.rows := fun isIn => isGone (List.mem_append_left _ isIn)
        have enough := kept.removed old isOld isGone
        exact enough.trans (Int.ofNat_le.mpr (length_later_append state row old.wallet old.seq))
      · exact absurd (List.mem_append_right _ isNew) isGone
  | trim index =>
    cases isAt : state.trimming[index]? with
    | none =>
      simp only [SelfLog.step, isAt]
      exact kept
    | some row =>
      simp only [SelfLog.step, isAt]
      have isPostgres : backend = .postgres := by
        cases backend with
        | memory => cases (kept.memory rfl).2.2 ▸ isAt
        | postgres => rfl
      refine ⟨kept.distinct, kept.fresh, fun h => ?_, kept.increasing, ?_, ?_⟩
      · cases isPostgres ▸ h
      · exact List.filter_sublist.trans kept.sublist
      intro old isOld isGone
      by_cases isRow : old ∈ state.rows
      · have isReached : old.wallet = row.wallet ∧ old.seq ≤ row.seq - maxSelfMessages := by
          by_contra notReached
          exact isGone (List.mem_filter.mpr ⟨isRow, by simpa [imp_iff_not_or] using notReached⟩)
        have enough := clean row isAt old isRow isReached.1 isReached.2
        have counted := foreign_add_later kept isPostgres old.wallet old.seq
        show maxSelfMessages ≤ (state.later old.wallet old.seq).length
        have positive : (0 : Int) ≤ maxSelfMessages := by decide
        omega
      · exact kept.removed old isOld isRow
  | abandonInsert index =>
    have part : (state.inserting.eraseIdx index).Sublist state.inserting :=
      List.eraseIdx_sublist state.inserting index
    refine ⟨?_, fun isPostgres row isIn => ?_, fun inMemory => ?_, kept.increasing, kept.sublist,
      kept.removed⟩
    · exact kept.distinct.sublist ((List.Sublist.refl _).append part)
    · exact kept.fresh isPostgres row (((List.Sublist.refl _).append part).subset isIn)
    obtain ⟨isLog, noInserts, noTrims⟩ := kept.memory inMemory
    refine ⟨isLog, ?_, noTrims⟩
    show state.inserting.eraseIdx index = []
    rw [noInserts, List.eraseIdx_nil]
  | abandonTrim index =>
    refine ⟨kept.distinct, kept.fresh, fun inMemory => ?_, kept.increasing, kept.sublist,
      kept.removed⟩
    obtain ⟨isLog, noInserts, noTrims⟩ := kept.memory inMemory
    refine ⟨isLog, noInserts, ?_⟩
    show state.trimming.eraseIdx index = []
    rw [noTrims, List.eraseIdx_nil]
  | abandonPost | join =>
    exact ⟨kept.distinct, kept.fresh, kept.memory, kept.increasing, kept.sublist, kept.removed⟩
  | poll =>
    simp only [SelfLog.step]
    split
    · exact kept
    · exact ⟨kept.distinct, kept.fresh, kept.memory, kept.increasing, kept.sublist, kept.removed⟩

theorem selfGroupId_injective {left right : String}
    (same : selfGroupId left = selfGroupId right) : left = right :=
  (String.append_right_inj "self:").mp same

theorem underWay_accept (state : State) (epochs : MlsStore) (post : Post) (wallet : String) :
    State.underWay { state with epochs, accepted := state.accepted ++ [post] } wallet =
      state.underWay wallet + if post.wallet = wallet ∧ post.isCommit then 1 else 0 := by
  unfold State.underWay
  rw [List.countP_append, List.countP_singleton]
  simp only [decide_eq_true_eq]
  omega

theorem countP_eraseIdx (isAt : elements[index]? = some element) (counts : α → Bool) :
    elements.countP counts =
      (elements.eraseIdx index).countP counts + if counts element then 1 else 0 := by
  rw [← (perm_eraseIdx isAt).countP_eq counts, List.countP_cons]

theorem Counted.step (counted : Counted state) (clean : Clean state input) :
    Counted (step backend inspect state input) := by
  intro wallet
  have held := counted wallet
  cases input with
  | post sender body =>
    simp only [SelfLog.step]
    unfold acceptPost
    split
    · exact held
    · show state.epochs.currentEpoch (selfGroupId wallet) = state.commits wallet +
        State.underWay { state with accepted := state.accepted ++ [⟨sender, body, false⟩] } wallet
      rw [underWay_accept state state.epochs]
      simpa using held
    rename_i epoch _
    rcases MlsStore.tryAdvanceEpoch_cases state.epochs (selfGroupId sender) epoch with
      ⟨-, stale⟩ | ⟨isCurrent, advanced⟩
    · simp only [stale]
      exact held
    simp only [advanced]
    rw [underWay_accept state]
    show Function.update state.epochs.epochs (selfGroupId sender) (epoch + 1)
      (selfGroupId wallet) = state.commits wallet + _
    by_cases same : sender = wallet
    · subst same
      rw [isCurrent] at held
      rw [Function.update_self, held]
      simp
      omega
    · rw [Function.update_of_ne fun h => same (selfGroupId_injective h).symm]
      have held : state.epochs.epochs (selfGroupId wallet) = _ := held
      simp [same, held]
  | insert index =>
    cases isAt : state.accepted[index]? with
    | none =>
      simp only [SelfLog.step, isAt]
      exact held
    | some post =>
      simp only [SelfLog.step, isAt]
      have moved := countP_eraseIdx isAt fun post => decide (post.wallet = wallet ∧ post.isCommit)
      cases backend with
      | memory =>
        show state.epochs.currentEpoch (selfGroupId wallet) =
          (state.log ++ [_]).countP _ + ((state.accepted.eraseIdx index).countP _ +
            state.inserting.countP _)
        rw [List.countP_append, List.countP_singleton]
        unfold State.commits State.underWay at held
        dsimp only at *
        omega
      | postgres =>
        show state.epochs.currentEpoch (selfGroupId wallet) =
          state.log.countP _ + ((state.accepted.eraseIdx index).countP _ +
            (state.inserting ++ [_]).countP _)
        rw [List.countP_append, List.countP_singleton]
        unfold State.commits State.underWay at held
        dsimp only at *
        omega
  | commitRow index =>
    cases isAt : state.inserting[index]? with
    | none =>
      simp only [SelfLog.step, isAt]
      exact held
    | some row =>
      simp only [SelfLog.step, isAt]
      have moved := countP_eraseIdx isAt fun row => decide (row.wallet = wallet ∧ row.isCommit)
      show state.epochs.currentEpoch (selfGroupId wallet) =
        (state.log ++ [row]).countP _ + (state.accepted.countP _ +
          (state.inserting.eraseIdx index).countP _)
      rw [List.countP_append, List.countP_singleton]
      unfold State.commits State.underWay at held
      omega
  | trim | poll =>
    simp only [SelfLog.step]
    split <;> exact held
  | abandonPost index =>
    cases isAt : state.accepted[index]? with
    | none =>
      simp only [SelfLog.step, List.eraseIdx_of_length_le (List.getElem?_eq_none_iff.mp isAt)]
      exact held
    | some post =>
      have moved := countP_eraseIdx isAt fun post => decide (post.wallet = wallet ∧ post.isCommit)
      have noCommit : post.isCommit = false := clean post isAt
      simp only [noCommit, Bool.false_eq_true, and_false, decide_false, if_false] at moved
      show state.epochs.currentEpoch (selfGroupId wallet) = state.commits wallet +
        ((state.accepted.eraseIdx index).countP _ + state.inserting.countP _)
      unfold State.underWay at held
      rw [← Nat.add_zero (List.countP _ (state.accepted.eraseIdx index)), ← moved]
      exact held
  | abandonInsert index =>
    cases isAt : state.inserting[index]? with
    | none =>
      simp only [SelfLog.step, List.eraseIdx_of_length_le (List.getElem?_eq_none_iff.mp isAt)]
      exact held
    | some row =>
      have moved := countP_eraseIdx isAt fun row => decide (row.wallet = wallet ∧ row.isCommit)
      have noCommit : row.isCommit = false := clean row isAt
      simp only [noCommit, Bool.false_eq_true, and_false, decide_false, if_false] at moved
      show state.epochs.currentEpoch (selfGroupId wallet) = state.commits wallet +
        (state.accepted.countP _ + (state.inserting.eraseIdx index).countP _)
      unfold State.underWay at held
      rw [← Nat.add_zero (List.countP _ (state.inserting.eraseIdx index)), ← moved]
      exact held
  | abandonTrim | join => exact held

/-! ## Devices -/

/-- A device has been given, in order and once each, the rows of its wallet from where it began
to where it is, and those after that are still there. -/
structure Device.Follows (state : State) (device : Device) : Prop where
  ordered : device.seen.Pairwise fun left right => left.seq < right.seq
  seen : ∀ row, row ∈ device.seen ↔ row ∈ state.log ∧ row.wallet = device.wallet ∧
    device.start < row.seq ∧ row.seq ≤ device.cursor
  unread : ∀ row ∈ state.log, row.wallet = device.wallet → device.cursor < row.seq →
    row ∈ state.rows
  place : device.cursor = device.start ∨
    ∃ row ∈ state.log, row.wallet = device.wallet ∧ row.seq = device.cursor ∧ device.start < row.seq

/-- The device at this place polls in time after the step. -/
def KeepsUp (backend : Backend) (inspect : Bytes → Option MessageInfo) (index : Nat)
    (state : State) (input : Input) : Prop :=
  ∀ device ∈ (step backend inspect state input).devices[index]?,
    InTime (step backend inspect state input) device

instance (state : State) (device : Device) : Decidable (InTime state device) :=
  inferInstanceAs (Decidable (_ ≤ _))

instance (backend : Backend) (inspect : Bytes → Option MessageInfo) (index : Nat) (state : State)
    (input : Input) : Decidable (KeepsUp backend inspect index state input) :=
  inferInstanceAs (Decidable (∀ device ∈ (step backend inspect state input).devices[index]?,
    InTime (step backend inspect state input) device))

theorem Device.Follows.start_le (follows : device.Follows state) :
    device.start ≤ device.cursor := by
  rcases follows.place with same | ⟨row, -, -, same, below⟩
  · exact same.ge
  · exact same ▸ below.le

theorem unread_isRow (kept : Kept backend state) (inTime : InTime state device)
    (isIn : row ∈ state.log) (isOwn : row.wallet = device.wallet)
    (isUnread : device.cursor < row.seq) : row ∈ state.rows := by
  by_contra isGone
  have enough := kept.removed row isIn isGone
  have fewer := length_later_lt isIn isUnread
  rw [isOwn] at enough fewer
  unfold InTime at inTime
  omega

/-! ### A poll -/

theorem selfAfter_eq (kept : Kept backend state) (wallet : String) (after : Int) (limit : Nat) :
    ∃ found : List Row, selfAfter backend state.rows wallet after limit = found.take limit ∧
      found.Pairwise (fun left right => left.seq < right.seq) ∧
      ∀ row, row ∈ found ↔ row ∈ state.rows ∧ row.wallet = wallet ∧ after < row.seq := by
  cases backend with
  | memory =>
    refine ⟨_, rfl, ?_, fun row => by simp⟩
    have increasing := (kept.increasing rfl).sublist kept.sublist
    refine (increasing.filter _).imp_of_mem fun {left right} isLeft isRight below => ?_
    have ofLeft := (List.mem_filter.mp isLeft).2
    have ofRight := (List.mem_filter.mp isRight).2
    simp only [decide_eq_true_eq] at ofLeft ofRight
    exact below (ofLeft.1.trans ofRight.1.symm)
  | postgres =>
    refine ⟨_, rfl, ?_, fun row => by simp⟩
    set found := state.rows.filter fun row => decide (row.wallet = wallet ∧ after < row.seq)
    have ordered : (found.mergeSort fun left right => decide (left.seq ≤ right.seq)).Pairwise
        fun left right => decide (left.seq ≤ right.seq) = true := by
      refine List.pairwise_mergeSort (fun a b c first second => ?_) (fun a b => ?_) found
      · simp only [decide_eq_true_eq] at first second ⊢
        exact first.trans second
      · simpa using le_total a.seq b.seq
    have distinct : found.Pairwise fun left right => left.seq ≠ right.seq := by
      have distinct := ((List.pairwise_append.mp kept.distinct).1.sublist kept.sublist).filter
        fun row => decide (row.wallet = wallet ∧ after < row.seq)
      refine distinct.imp_of_mem fun {left right} isLeft isRight differ => ?_
      have ofLeft := (List.mem_filter.mp isLeft).2
      have ofRight := (List.mem_filter.mp isRight).2
      simp only [decide_eq_true_eq] at ofLeft ofRight
      exact differ (ofLeft.1.trans ofRight.1.symm)
    have distinct := distinct.perm (List.mergeSort_perm found
      fun left right => decide (left.seq ≤ right.seq)).symm fun differ => differ.symm
    refine (ordered.and distinct).imp fun {left right} both => ?_
    exact lt_of_le_of_ne (of_decide_eq_true both.1) both.2

theorem mem_take_iff {found : List Row} {last : Row}
    (ordered : found.Pairwise fun left right => left.seq < right.seq)
    (isLast : (found.take limit).getLast? = some last) (row : Row) :
    row ∈ found.take limit ↔ row ∈ found ∧ row.seq ≤ last.seq := by
  have split := List.take_append_drop limit found
  obtain ⟨before, isPage⟩ := List.getLast?_eq_some_iff.mp isLast
  rw [← split] at ordered
  obtain ⟨first, -, across⟩ := List.pairwise_append.mp ordered
  constructor
  · intro isIn
    refine ⟨List.mem_of_mem_take isIn, ?_⟩
    rw [isPage] at isIn first
    rcases List.mem_append.mp isIn with isBefore | isLast
    · exact ((List.pairwise_append.mp first).2.2 row isBefore last (by simp)).le
    · rw [List.mem_singleton.mp isLast]
  rintro ⟨isIn, below⟩
  rw [← split] at isIn
  rcases List.mem_append.mp isIn with isIn | isAfter
  · exact isIn
  have isIn : last ∈ found.take limit := by
    rw [isPage]
    exact List.mem_append_right _ (List.mem_singleton_self _)
  have above := across last isIn row isAfter
  exact absurd below (not_le.mpr above)

/-- **A poll goes on where the last one ended.** -/
theorem Device.Follows.poll (kept : Kept backend state) (follows : device.Follows state)
    (limit : Nat) :
    (device.poll backend state.rows limit).Follows state := by
  obtain ⟨found, isPage, ordered, isFound⟩ := selfAfter_eq kept device.wallet device.cursor limit
  unfold Device.poll
  dsimp only
  rw [isPage]
  cases isLast : (found.take limit).getLast? with
  | none =>
    rw [List.getLast?_eq_none_iff.mp isLast, List.append_nil]
    exact follows
  | some last =>
    have isBound := mem_take_iff ordered isLast
    have lastIn : last ∈ found.take limit := by
      obtain ⟨before, isPage⟩ := List.getLast?_eq_some_iff.mp isLast
      rw [isPage]
      exact List.mem_append_right _ (List.mem_singleton_self _)
    obtain ⟨lastRow, lastOwn, lastAfter⟩ := (isFound last).mp (List.mem_of_mem_take lastIn)
    have forward := follows.start_le
    show Device.Follows state ⟨device.wallet, device.start, last.seq,
      device.seen ++ found.take limit⟩
    refine ⟨?_, fun row => ?_, fun row isIn isOwn isUnread => ?_, .inr ⟨last, ?_⟩⟩
    · refine List.pairwise_append.mpr ⟨follows.ordered, ordered.sublist (List.take_sublist _ _), ?_⟩
      intro old isOld new isNew
      have below := ((follows.seen old).mp isOld).2.2.2
      have above := ((isFound new).mp (List.mem_of_mem_take isNew)).2.2
      exact below.trans_lt above
    · show row ∈ device.seen ++ found.take limit ↔ row ∈ state.log ∧ row.wallet = device.wallet ∧
        device.start < row.seq ∧ row.seq ≤ last.seq
      rw [List.mem_append, follows.seen, isBound, isFound]
      constructor
      · rintro (⟨isIn, isOwn, after, before⟩ | ⟨⟨isIn, isOwn, after⟩, before⟩)
        · exact ⟨isIn, isOwn, after, before.trans lastAfter.le⟩
        · exact ⟨kept.sublist.subset isIn, isOwn, forward.trans_lt after, before⟩
      rintro ⟨isIn, isOwn, after, before⟩
      by_cases isRead : row.seq ≤ device.cursor
      · exact .inl ⟨isIn, isOwn, after, isRead⟩
      · have isUnread := not_le.mp isRead
        exact .inr ⟨⟨follows.unread row isIn isOwn isUnread, isOwn, isUnread⟩, before⟩
    · exact follows.unread row isIn isOwn (lastAfter.trans isUnread)
    · exact ⟨kept.sublist.subset lastRow, lastOwn, rfl, forward.trans_lt lastAfter⟩

theorem Device.Follows.poll_all (kept : Kept backend state) (follows : device.Follows state)
    (notFull : (selfAfter backend state.rows device.wallet device.cursor limit).length < limit)
    (isIn : row ∈ state.log) (isOwn : row.wallet = device.wallet) (after : device.start < row.seq) :
    row ∈ (device.poll backend state.rows limit).seen := by
  obtain ⟨found, isPage, -, isFound⟩ := selfAfter_eq kept device.wallet device.cursor limit
  have isAll : found.take limit = found := by
    rw [isPage, List.length_take] at notFull
    exact List.take_of_length_le (by omega)
  show row ∈ device.seen ++ selfAfter backend state.rows device.wallet device.cursor limit
  rw [isPage, isAll, List.mem_append, follows.seen, isFound]
  by_cases isRead : row.seq ≤ device.cursor
  · exact .inl ⟨isIn, isOwn, after, isRead⟩
  · have isUnread := not_le.mp isRead
    exact .inr ⟨follows.unread row isIn isOwn isUnread, isOwn, isUnread⟩

/-! ### Other steps -/

theorem Device.Follows.append (follows : device.Follows state)
    (ahead : device.wallet = row.wallet → device.start < row.seq → device.cursor < row.seq) :
    device.Follows (state.append row) := by
  refine ⟨follows.ordered, fun other => ?_, fun other isIn isOwn isUnread => ?_, ?_⟩
  · show other ∈ device.seen ↔ other ∈ state.log ++ [row] ∧ _
    rw [follows.seen, List.mem_append, List.mem_singleton]
    refine ⟨fun isSeen => ⟨.inl isSeen.1, isSeen.2⟩, ?_⟩
    rintro ⟨isIn | rfl, isOwn, after, before⟩
    · exact ⟨isIn, isOwn, after, before⟩
    · exact absurd before (not_le.mpr (ahead isOwn.symm after))
  · rcases List.mem_append.mp isIn with isIn | isNew
    · exact List.mem_append_left _ (follows.unread other isIn isOwn isUnread)
    · exact List.mem_append_right _ isNew
  · rcases follows.place with same | ⟨last, isIn, rest⟩
    · exact .inl same
    · exact .inr ⟨last, List.mem_append_left _ isIn, rest⟩

theorem Device.Follows.congr {other : State} (follows : device.Follows state)
    (kept : Kept backend other) (sameLog : other.log = state.log) (inTime : InTime other device) :
    device.Follows other := by
  refine ⟨follows.ordered, ?_, ?_, ?_⟩
  · rw [sameLog]
    exact follows.seen
  · intro row isIn isOwn isUnread
    exact unread_isRow kept inTime isIn isOwn isUnread
  · rw [sameLog]
    exact follows.place

/-- **No step breaks a device that polls in time.** -/
theorem follows_step (kept : Kept backend state) (clean : Clean state input)
    (keepsUp : KeepsUp backend inspect index state input)
    (follows : ∀ device ∈ state.devices[index]?, device.Follows state) :
    ∀ device ∈ (step backend inspect state input).devices[index]?,
      device.Follows (step backend inspect state input) := by
  have kept' : Kept backend (step backend inspect state input) := kept.step clean
  intro device isDevice
  have inTime := keepsUp device isDevice
  -- a step that leaves the log and the device alone
  have quiet : (step backend inspect state input).log = state.log →
      (step backend inspect state input).devices = state.devices →
      device.Follows (step backend inspect state input) := by
    intro sameLog sameDevices
    rw [sameDevices] at isDevice
    exact (follows device isDevice).congr kept' sameLog inTime
  cases input with
  | post wallet body =>
    have frame : (acceptPost inspect wallet body state).log = state.log ∧
        (acceptPost inspect wallet body state).devices = state.devices := by
      unfold acceptPost
      split
      · exact ⟨rfl, rfl⟩
      · exact ⟨rfl, rfl⟩
      · split <;> exact ⟨rfl, rfl⟩
    exact quiet frame.1 frame.2
  | insert place =>
    cases isAt : state.accepted[place]? with
    | none =>
      have same : step backend inspect state (.insert place) = state := by simp only [step, isAt]
      exact quiet (by rw [same]) (by rw [same])
    | some =>
      cases backend with
      | postgres => refine quiet ?_ ?_ <;> simp only [step, isAt]
      | memory =>
        simp only [step, isAt] at isDevice ⊢
        have follows := follows device isDevice
        have follows : device.Follows
            { state with accepted := state.accepted.eraseIdx place } :=
          ⟨follows.ordered, follows.seen, follows.unread, follows.place⟩
        refine follows.append fun isOwn after => ?_
        rcases follows.place with same | ⟨last, isIn, lastOwn, same, -⟩
        · rw [same]
          exact after
        have isRow : last ∈ state.rows := (kept.memory rfl).1.symm ▸ isIn
        have below := lt_nextOwnSeq isRow
        rw [lastOwn, isOwn] at below
        rw [← same]
        exact below
  | commitRow place =>
    cases isAt : state.inserting[place]? with
    | none =>
      have same : step backend inspect state (.commitRow place) = state := by simp only [step, isAt]
      exact quiet (by rw [same]) (by rw [same])
    | some row =>
      simp only [step, isAt] at isDevice ⊢
      have isIn : device ∈ state.devices := List.mem_of_getElem? isDevice
      have follows : device.Follows (state.append row) :=
        (follows device isDevice).append (clean row isAt device isIn)
      exact ⟨follows.ordered, follows.seen, follows.unread, follows.place⟩
  | trim => refine quiet ?_ ?_ <;> simp only [step] <;> split <;> rfl
  | abandonPost | abandonInsert | abandonTrim => exact quiet rfl rfl
  | join wallet after =>
    have isDevice : device ∈ (state.devices ++ [⟨wallet, after, after, []⟩])[index]? := isDevice
    rw [List.getElem?_append] at isDevice
    split at isDevice
    · exact (follows device isDevice).congr kept' rfl inTime
    -- a new device
    have isNew : device = ⟨wallet, after, after, []⟩ := by
      have isIn := List.mem_of_getElem? isDevice
      exact List.mem_singleton.mp isIn
    subst isNew
    refine ⟨.nil, fun row => ?_, fun row isIn isOwn isUnread => ?_, .inl rfl⟩
    · refine ⟨fun isIn => absurd isIn List.not_mem_nil, fun found => ?_⟩
      exact absurd found.2.2.2 (not_le.mpr found.2.2.1)
    · exact unread_isRow kept' inTime isIn isOwn isUnread
  | poll place limit =>
    cases isAt : state.devices[place]? with
    | none =>
      have same : step backend inspect state (.poll place limit) = state := by
        simp only [step, isAt]
      exact quiet (by rw [same]) (by rw [same])
    | some polled =>
      simp only [step, isAt] at isDevice ⊢
      rw [List.getElem?_set] at isDevice
      by_cases same : place = index
      · subst same
        have below : place < state.devices.length := (List.getElem?_eq_some_iff.mp isAt).1
        simp only [below, if_true] at isDevice
        have isPolled : polled.poll backend state.rows limit = device := Option.some.inj isDevice
        have follows := (follows polled isAt).poll kept limit
        rw [isPolled] at follows
        exact ⟨follows.ordered, follows.seen, follows.unread, follows.place⟩
      · simp only [same, if_false] at isDevice
        have follows := follows device isDevice
        exact ⟨follows.ordered, follows.seen, follows.unread, follows.place⟩

/-! ## The promises -/

theorem kept_start (backend : Backend) : Kept backend start :=
  ⟨.nil, fun _ _ isIn => absurd isIn List.not_mem_nil, fun _ => ⟨rfl, rfl, rfl⟩, fun _ => .nil,
    .refl _, fun _ isIn => absurd isIn List.not_mem_nil⟩

/-- A commit and an application message for the self-group of `0xa`, and one for that of `0xb`. -/
def sampleInspect : Bytes → Option MessageInfo
  | [0] => some (.commit (Text.utf8 (selfGroupId "0xa")) 0)
  | [1] => some (.application (Text.utf8 (selfGroupId "0xa")) 0)
  | [2] => some (.application (Text.utf8 (selfGroupId "0xb")) 0)
  | _ => none

/-- A commit moves the epoch, and its insert fails. -/
def lostCall : List Input := [.post "0xa" [0], .abandonPost 0]

/-- Of two rows of a wallet the second becomes visible first, and a device polls in between. -/
def lateCommit : List Input :=
  [.join "0xa" 0, .post "0xa" [0], .post "0xa" [1], .insert 0, .insert 0, .commitRow 1,
    .poll 0 10, .commitRow 0, .poll 0 10]

/-- A device joins, a commit is written, and the device reads it. -/
def inTurn : List Input :=
  [.join "0xa" 0, .post "0xa" [0], .insert 0, .commitRow 0, .trim 0, .poll 0 10]

end MessagingStack.Relayer.SelfLog

import Mathlib.Data.Nat.Basic
import Mathlib.Order.Basic
import MessagingStack.Base.Runs
import MessagingStack.Relayer.MlsStore

/-!
# GroupInfos

A device joins a group by an external commit on the group's latest GroupInfo.  The MLS store
(`services/mls_store.rs`) keeps one for each group and takes a new one only for the current
epoch; but `put_group_info` reads the epoch and stores the info in two steps, and commits and
other infos may come in between.

The store has two variants.  Postgres repeats the comparison when it writes (`ON CONFLICT … DO
UPDATE … WHERE epoch <= EXCLUDED.epoch`), memory overwrites.  This module runs both: an info is
never ahead of its group's epoch (`Bounded`), and it never falls back exactly if no write in
memory is overtaken by that of a later epoch (`infos_never_fall_back_iff`).
-/

namespace MessagingStack.Relayer.GroupInfos

/-! ## The epoch table in Postgres -/

/-- `mls_group_epochs`: a group without a row is at epoch 0. -/
abbrev EpochRows := String → Option Nat

def EpochRows.currentEpoch (rows : EpochRows) (groupId : String) : Nat := (rows groupId).getD 0

/-- The two statements of `try_advance_epoch`: an upsert for epoch 0, an update for the others. -/
def EpochRows.tryAdvanceEpoch (rows : EpochRows) (groupId : String) (epoch : Nat) :
    Bool × EpochRows :=
  if epoch = 0 then
    match rows groupId with
    | none => (true, Function.update rows groupId (some 1))
    | some current =>
      if current = 0 then (true, Function.update rows groupId (some 1)) else (false, rows)
  else if rows groupId = some epoch then (true, Function.update rows groupId (some (epoch + 1)))
  else (false, rows)

def EpochRows.store (rows : EpochRows) : MlsStore := ⟨rows.currentEpoch⟩

/-- **The two variants of the epoch table agree.** -/
theorem tryAdvanceEpoch_store (rows : EpochRows) (groupId : String) (epoch : Nat) :
    rows.store.tryAdvanceEpoch groupId epoch =
      ((rows.tryAdvanceEpoch groupId epoch).1, (rows.tryAdvanceEpoch groupId epoch).2.store) := by
  have updated : ∀ next, EpochRows.currentEpoch (Function.update rows groupId (some next)) =
      Function.update rows.currentEpoch groupId next := by
    intro next
    funext other
    unfold EpochRows.currentEpoch
    by_cases same : other = groupId
    · rw [same, Function.update_self, Function.update_self]
      rfl
    · rw [Function.update_of_ne same, Function.update_of_ne same]
  have current : rows.store.currentEpoch groupId = (rows groupId).getD 0 := rfl
  unfold MlsStore.tryAdvanceEpoch EpochRows.tryAdvanceEpoch
  rw [current]
  by_cases isFirst : epoch = 0
  · subst isFirst
    cases isRow : rows groupId with
    | none => simp [updated, EpochRows.store]
    | some held =>
      by_cases isZero : held = 0
      · simp [isZero, updated, EpochRows.store]
      · simp [isZero]
  cases isRow : rows groupId with
  | none => simp [isFirst, Ne.symm isFirst]
  | some held =>
    by_cases same : held = epoch
    · simp [isFirst, same, updated, EpochRows.store]
    · simp [isFirst, same]

/-- The calls of `try_advance_epoch` that return true, one after the other, and the table then. -/
def accepted {σ : Type} (call : σ → String → Nat → Bool × σ) :
    σ → List (String × Nat) → List (String × Nat) × σ
  | table, [] => ([], table)
  | table, (groupId, epoch) :: rest =>
    let answer := call table groupId epoch
    let later := accepted call answer.2 rest
    (if answer.1 then (groupId, epoch) :: later.1 else later.1, later.2)

theorem accepted_store (rows : EpochRows) (calls : List (String × Nat)) :
    accepted MlsStore.tryAdvanceEpoch rows.store calls =
      ((accepted EpochRows.tryAdvanceEpoch rows calls).1,
        (accepted EpochRows.tryAdvanceEpoch rows calls).2.store) := by
  induction calls generalizing rows with
  | nil => rfl
  | cons call rest ih =>
    simp only [accepted]
    rw [tryAdvanceEpoch_store, ih]

theorem accepted_epochs (store : MlsStore) (calls : List (String × Nat)) (groupId : String) :
    ((accepted MlsStore.tryAdvanceEpoch store calls).1.filter (·.1 = groupId)).map (·.2) =
        List.range' (store.currentEpoch groupId)
          ((accepted MlsStore.tryAdvanceEpoch store calls).2.currentEpoch groupId -
            store.currentEpoch groupId) ∧
      store.currentEpoch groupId ≤
        (accepted MlsStore.tryAdvanceEpoch store calls).2.currentEpoch groupId := by
  induction calls generalizing store with
  | nil => simp [accepted]
  | cons call rest ih =>
    obtain ⟨ofGroup, epoch⟩ := call
    simp only [accepted]
    rcases store.tryAdvanceEpoch_cases ofGroup epoch with ⟨-, stale⟩ | ⟨rfl, advanced⟩
    · rw [stale]
      exact ih store
    · rw [advanced]
      generalize isNext : MlsStore.mk (Function.update store.epochs ofGroup
        (store.currentEpoch ofGroup + 1)) = next
      obtain ⟨epochs, grows⟩ := ih next
      rw [if_pos rfl]
      by_cases same : ofGroup = groupId
      · subst same
        have epoch : next.currentEpoch ofGroup = store.currentEpoch ofGroup + 1 := by
          rw [← isNext]
          exact Function.update_self ..
        rw [epoch] at epochs grows
        refine ⟨?_, Nat.le_of_succ_le grows⟩
        rw [List.filter_cons_of_pos (by simp), List.map_cons, epochs, ← List.range'_succ]
        congr 1
        dsimp only
        omega
      · have epoch : next.currentEpoch groupId = store.currentEpoch groupId := by
          rw [← isNext]
          exact Function.update_of_ne (Ne.symm same) ..
        rw [epoch] at epochs grows
        rw [List.filter_cons_of_neg (by simp [same])]
        exact ⟨epochs, grows⟩

/-- **Every epoch of a group is won once.**  Whatever calls there are, in whatever order, both
variants accept the same ones, and for each group these are for the epochs from its first one to its
last, in this order and each once. -/
theorem epochs_are_won_once (rows : EpochRows) (calls : List (String × Nat)) (groupId : String) :
    (accepted MlsStore.tryAdvanceEpoch rows.store calls).1 =
        (accepted EpochRows.tryAdvanceEpoch rows calls).1 ∧
      ((accepted EpochRows.tryAdvanceEpoch rows calls).1.filter (·.1 = groupId)).map (·.2) =
        List.range' (rows.currentEpoch groupId)
          ((accepted EpochRows.tryAdvanceEpoch rows calls).2.currentEpoch groupId -
            rows.currentEpoch groupId) := by
  have epochs := (accepted_epochs rows.store calls groupId).1
  rw [accepted_store] at epochs ⊢
  exact ⟨rfl, epochs⟩

/-! ## The infos -/

inductive Backend where
  | memory
  | postgres
  deriving DecidableEq

/-- A call of `put_group_info`. -/
structure Put where
  groupId : String
  epoch : Nat
  info : Bytes
  deriving DecidableEq

structure State where
  epochs : MlsStore
  /-- `group_infos`, and the table `mls_group_infos`. -/
  infos : String → Option (Nat × Bytes)
  /-- The calls that have compared the epoch and have not yet stored their info. -/
  pending : List Put

def State.groupInfo (state : State) (groupId : String) : Option (Nat × Bytes) := state.infos groupId

def storeInfo (backend : Backend) (infos : String → Option (Nat × Bytes)) (put : Put) :
    String → Option (Nat × Bytes) :=
  match backend, infos put.groupId with
  | .postgres, some (held, _) =>
    if held ≤ put.epoch then Function.update infos put.groupId (some (put.epoch, put.info))
    else infos
  | _, _ => Function.update infos put.groupId (some (put.epoch, put.info))

inductive Input where
  | tryAdvanceEpoch (groupId : String) (epoch : Nat)
  /-- `put_group_info` reads the epoch. -/
  | beginPut (put : Put)
  /-- The call at this place stores its info and returns true. -/
  | finishPut (index : Nat)
  /-- The call at this place fails, or is dropped. -/
  | abandon (index : Nat)

def step (backend : Backend) (state : State) : Input → State
  | .tryAdvanceEpoch groupId epoch =>
    { state with epochs := (state.epochs.tryAdvanceEpoch groupId epoch).2 }
  | .beginPut put =>
    if state.epochs.currentEpoch put.groupId ≠ put.epoch then state
    else { state with pending := state.pending ++ [put] }
  | .finishPut index =>
    match state.pending[index]? with
    | none => state
    | some put =>
      { state with
        infos := storeInfo backend state.infos put
        pending := state.pending.eraseIdx index }
  | .abandon index => { state with pending := state.pending.eraseIdx index }

def start : State where
  epochs := .new
  infos := fun _ => none
  pending := []

def reached (backend : Backend) (inputs : List Input) : State := inputs.foldl (step backend) start

/-! ## What holds -/

def AtLeast (state : State) (groupId : String) (epoch : Nat) : Prop :=
  ∃ held info, state.groupInfo groupId = some (held, info) ∧ epoch ≤ held

/-- The second state has, for each group, an info at least as new as that of the first. -/
def NotBefore (earlier later : State) : Prop :=
  ∀ groupId epoch info, earlier.groupInfo groupId = some (epoch, info) → AtLeast later groupId epoch

/-- In memory, the write of a call is not overtaken: the stored info is not for a later epoch. -/
def NotOvertaken (backend : Backend) (state : State) : Input → Prop
  | .finishPut index => backend = .memory → ∀ put ∈ state.pending[index]?,
    ∀ held ∈ state.groupInfo put.groupId, held.1 ≤ put.epoch
  | _ => True

instance (backend : Backend) (state : State) :
    ∀ input, Decidable (NotOvertaken backend state input)
  | .finishPut index => inferInstanceAs (Decidable (backend = .memory →
      ∀ put ∈ state.pending[index]?, ∀ held ∈ state.groupInfo put.groupId, held.1 ≤ put.epoch))
  | .tryAdvanceEpoch _ _ => .isTrue trivial
  | .beginPut _ => .isTrue trivial
  | .abandon _ => .isTrue trivial

/-- **The invariant.**  Neither a stored info nor one that waits is ahead of its group. -/
structure Bounded (state : State) : Prop where
  info : ∀ groupId epoch info, state.groupInfo groupId = some (epoch, info) →
    epoch ≤ state.epochs.currentEpoch groupId
  pending : ∀ put ∈ state.pending, put.epoch ≤ state.epochs.currentEpoch put.groupId

section Writes

variable {backend : Backend} {infos : String → Option (Nat × Bytes)} {put : Put}

theorem storeInfo_of_ne {groupId : String} (other : groupId ≠ put.groupId) :
    storeInfo backend infos put groupId = infos groupId := by
  unfold storeInfo
  cases backend with
  | memory => exact Function.update_of_ne other _ _
  | postgres =>
    cases infos put.groupId with
    | none => exact Function.update_of_ne other _ _
    | some =>
      simp only
      split_ifs
      · exact Function.update_of_ne other _ _
      · rfl

theorem storeInfo_self :
    storeInfo backend infos put put.groupId = some (put.epoch, put.info) ∨
      ∃ held info, infos put.groupId = some (held, info) ∧ backend = .postgres ∧
        put.epoch < held ∧ storeInfo backend infos put put.groupId = some (held, info) := by
  unfold storeInfo
  cases backend with
  | memory => exact .inl (Function.update_self _ _ _)
  | postgres =>
    cases isHeld : infos put.groupId with
    | none => exact .inl (Function.update_self _ _ _)
    | some held =>
      dsimp only
      split_ifs with older
      · exact .inl (Function.update_self _ _ _)
      · exact .inr ⟨held.1, held.2, rfl, rfl, by omega, isHeld⟩

end Writes

section Steps

variable {backend : Backend} {state : State} {input : Input}

theorem currentEpoch_step (groupId : String) :
    state.epochs.currentEpoch groupId ≤ (step backend state input).epochs.currentEpoch groupId := by
  cases input with
  | tryAdvanceEpoch moved epoch =>
    rcases state.epochs.tryAdvanceEpoch_cases moved epoch with ⟨-, same⟩ | ⟨isCurrent, next⟩
    · simp only [step, same]
      exact le_rfl
    simp only [step, next]
    unfold MlsStore.currentEpoch at *
    dsimp only
    by_cases same : groupId = moved
    · rw [same, Function.update_self]
      omega
    · rw [Function.update_of_ne same]
  | beginPut =>
    simp only [step]
    split_ifs <;> exact le_rfl
  | finishPut index =>
    simp only [step]
    cases state.pending[index]? <;> exact le_rfl
  | abandon => exact le_rfl

theorem step_infos (backend : Backend) (state : State) (input : Input) :
    ((step backend state input).infos = state.infos ∧
        ∀ put ∈ (step backend state input).pending, put ∈ state.pending ∨
          put.epoch = state.epochs.currentEpoch put.groupId) ∨
      ∃ index put, input = .finishPut index ∧ state.pending[index]? = some put ∧
        step backend state input =
          { state with
            infos := storeInfo backend state.infos put
            pending := state.pending.eraseIdx index } := by
  cases input with
  | tryAdvanceEpoch => exact .inl ⟨rfl, fun put isIn => .inl isIn⟩
  | beginPut put =>
    simp only [step]
    split_ifs with stale
    · exact .inl ⟨rfl, fun put isIn => .inl isIn⟩
    refine .inl ⟨rfl, fun other isIn => ?_⟩
    rcases List.mem_append.mp isIn with isIn | isNew
    · exact .inl isIn
    · rw [List.mem_singleton.mp isNew]
      exact .inr (not_not.mp stale).symm
  | finishPut index =>
    cases isPut : state.pending[index]? with
    | none =>
      have next : step backend state (.finishPut index) = state := by simp only [step, isPut]
      rw [next]
      exact .inl ⟨rfl, fun put isIn => .inl isIn⟩
    | some put =>
      refine .inr ⟨index, put, rfl, isPut, ?_⟩
      simp only [step, isPut]
  | abandon => exact .inl ⟨rfl, fun put isIn => .inl (List.mem_of_mem_eraseIdx isIn)⟩

theorem Bounded.step (bounded : Bounded state) : Bounded (step backend state input) := by
  have grows : ∀ groupId, state.epochs.currentEpoch groupId ≤
      (GroupInfos.step backend state input).epochs.currentEpoch groupId :=
    fun groupId => currentEpoch_step groupId
  rcases step_infos backend state input with ⟨infos, waiting⟩ | ⟨index, put, -, isPut, next⟩
  · constructor
    · intro groupId epoch info isInfo
      unfold State.groupInfo at isInfo
      rw [infos] at isInfo
      exact (bounded.info groupId epoch info isInfo).trans (grows groupId)
    intro put isIn
    rcases waiting put isIn with wasIn | isCurrent
    · exact (bounded.pending put wasIn).trans (grows put.groupId)
    · exact isCurrent.le.trans (grows put.groupId)
  have isBounded := bounded.pending put (List.mem_of_getElem? isPut)
  rw [next]
  constructor
  · intro groupId epoch info isInfo
    have isInfo : storeInfo backend state.infos put groupId = some (epoch, info) := isInfo
    by_cases same : groupId = put.groupId
    · subst same
      rcases storeInfo_self with isNew | ⟨held, info', isHeld, -, -, kept⟩
      · cases isNew ▸ isInfo
        exact isBounded
      · cases kept ▸ isInfo
        exact bounded.info _ _ _ isHeld
    · rw [storeInfo_of_ne same] at isInfo
      exact bounded.info _ _ _ isInfo
  · exact fun other isIn => bounded.pending other (List.mem_of_mem_eraseIdx isIn)

theorem notBefore_step (notOvertaken : NotOvertaken backend state input) :
    NotBefore state (step backend state input) := by
  intro groupId epoch info isInfo
  rcases step_infos backend state input with ⟨infos, -⟩ | ⟨index, put, rfl, isPut, next⟩
  · refine ⟨epoch, info, ?_, le_rfl⟩
    unfold State.groupInfo
    rw [infos]
    exact isInfo
  rw [next]
  by_cases same : groupId = put.groupId
  · subst same
    have isInfo : state.infos put.groupId = some (epoch, info) := isInfo
    rcases storeInfo_self with isNew | ⟨held, info', isHeld, -, -, kept⟩
    · refine ⟨_, _, isNew, ?_⟩
      cases backend with
      | memory => exact notOvertaken rfl put isPut _ isInfo
      | postgres =>
        by_contra older
        unfold storeInfo at isNew
        simp only [isInfo, older, if_false] at isNew
        cases isNew
        exact older le_rfl
    · cases isInfo ▸ isHeld
      exact ⟨_, _, kept, le_rfl⟩
  · exact ⟨epoch, info, (storeInfo_of_ne same).trans isInfo, le_rfl⟩

theorem notOvertaken_of_notBefore (kept : NotBefore state (step backend state input)) :
    NotOvertaken backend state input := by
  cases input with
  | finishPut index =>
    rintro rfl put isPut ⟨epoch, info⟩ isHeld
    obtain ⟨held, info', isInfo, below⟩ := kept put.groupId epoch info isHeld
    have isPut : state.pending[index]? = some put := isPut
    simp only [step, isPut, State.groupInfo, storeInfo, Function.update_self] at isInfo
    cases isInfo
    exact below
  | tryAdvanceEpoch | beginPut | abandon => trivial

theorem atLeast_finishPut {index : Nat} {put : Put} (isPut : state.pending[index]? = some put) :
    AtLeast (step backend state (.finishPut index)) put.groupId put.epoch := by
  simp only [step, isPut]
  rcases storeInfo_self with isNew | ⟨held, info, -, -, later, kept⟩
  · exact ⟨_, _, isNew, le_rfl⟩
  · exact ⟨_, _, kept, later.le⟩

end Steps

theorem NotBefore.refl (state : State) : NotBefore state state :=
  fun _ epoch info isInfo => ⟨epoch, info, isInfo, le_rfl⟩

theorem NotBefore.trans {first second third : State} (early : NotBefore first second)
    (late : NotBefore second third) : NotBefore first third := by
  intro groupId epoch info isInfo
  obtain ⟨held, info', isHeld, below⟩ := early groupId epoch info isInfo
  obtain ⟨last, info'', isLast, above⟩ := late groupId held info' isHeld
  exact ⟨last, info'', isLast, below.trans above⟩

theorem notBefore_run {backend : Backend} {state : State} {inputs : List Input}
    (along : Along (step backend) (NotOvertaken backend) state inputs) :
    NotBefore state (inputs.foldl (step backend) state) := by
  induction inputs generalizing state with
  | nil => exact .refl state
  | cons input rest ih => exact (notBefore_step along.1).trans (ih along.2)

theorem bounded_reached (backend : Backend) (inputs : List Input) :
    Bounded (reached backend inputs) := by
  refine Along.invariant_reached (fun state input bounded => bounded.step) ?_ inputs
  exact ⟨fun _ _ _ isInfo => (by cases isInfo), fun _ isIn => absurd isIn List.not_mem_nil⟩

/-- **Infos and epochs.**  In every run of either variant, the info of a group is never ahead of
its epoch, and a call that returns true leaves an info that is not for an earlier epoch.  The
info of a group never falls back exactly if no write in memory is overtaken; in Postgres, never. -/
theorem infos_never_fall_back_iff (backend : Backend) (inputs : List Input) :
    (∀ before after, inputs = before ++ after →
        ∀ groupId epoch info, (reached backend before).groupInfo groupId = some (epoch, info) →
          epoch ≤ (reached backend before).epochs.currentEpoch groupId) ∧
      (∀ before index after put, inputs = before ++ .finishPut index :: after →
        (reached backend before).pending[index]? = some put →
          AtLeast (reached backend (before ++ [.finishPut index])) put.groupId put.epoch) ∧
      ((∀ before between after, inputs = before ++ between ++ after →
          NotBefore (reached backend before) (reached backend (before ++ between))) ↔
        Along (step backend) (NotOvertaken backend) start inputs) := by
  refine ⟨?_, ?_, ?_, ?_⟩
  · intro before after _
    exact (bounded_reached backend before).info
  · intro before index after put _ isPut
    rw [reached, List.foldl_append]
    exact atLeast_finishPut isPut
  · intro never
    by_contra fails
    obtain ⟨before, input, after, rfl, -, isBad⟩ := Along.exists_first_failure fails
    have kept := never before [input] after (by simp)
    refine isBad (notOvertaken_of_notBefore ?_)
    rw [reached, reached, List.foldl_append] at kept
    exact kept
  rintro along before between after rfl
  rw [Along.append, Along.append] at along
  rw [reached, reached, List.foldl_append]
  exact notBefore_run along.1.2

/-! ### An info that falls back -/

/-- A call compares the epoch, a commit moves it, the info of the new epoch is stored, and then
the call stores its own. -/
def overtaken : List Input :=
  [.tryAdvanceEpoch "g" 0, .beginPut ⟨"g", 1, [1]⟩, .tryAdvanceEpoch "g" 1,
    .beginPut ⟨"g", 2, [2]⟩, .finishPut 1, .finishPut 0]

/-- **In memory the older info wins.** -/
theorem overtaken_falls_back :
    (reached .memory (overtaken.take 5)).groupInfo "g" = some (2, [2]) ∧
      (reached .memory overtaken).groupInfo "g" = some (1, [1]) ∧
      (reached .memory overtaken).epochs.currentEpoch "g" = 2 := by
  decide +kernel

/-- In Postgres the same calls leave the newer one, and so they do in memory in another order. -/
theorem overtaken_in_postgres :
    (∀ before between after, overtaken = before ++ between ++ after →
        NotBefore (reached .postgres before) (reached .postgres (before ++ between))) ∧
      AtLeast (reached .memory [.tryAdvanceEpoch "g" 0, .beginPut ⟨"g", 1, [1]⟩, .finishPut 0])
        "g" 1 := by
  constructor
  · exact (infos_never_fall_back_iff .postgres overtaken).2.2.mpr (by decide +kernel)
  · exact (infos_never_fall_back_iff .memory [.tryAdvanceEpoch "g" 0, .beginPut ⟨"g", 1, [1]⟩,
      .finishPut 0]).2.1 [.tryAdvanceEpoch "g" 0, .beginPut ⟨"g", 1, [1]⟩] 0 [] ⟨"g", 1, [1]⟩ rfl
        (by decide +kernel)

end MessagingStack.Relayer.GroupInfos

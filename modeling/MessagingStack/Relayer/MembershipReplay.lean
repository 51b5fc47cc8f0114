import MessagingStack.Base.Runs
import MessagingStack.Relayer.MembershipSync

/-!
# What a membership sync run leaves in the store

For a fixed chain the membership store ought to be the fold of the Groups events of
consecutive checkpoints.  It is, as long as no producer hands `ingestCheckpoint` a cursor
below the last one: then a step only ever *extends* the replayed history
(`Extends`), a contiguous history stays contiguous (`Contiguous`), and a member loses
something only by an event that says so.

A stale cursor clears the store.  The open stream is a source of such cursors: it starts
at the tip seen at subscribe time, and the catch-up that runs while it buffers can be
further along when the first buffered checkpoint is taken
(`stale_delivery_clears_membership`).
-/

namespace MessagingStack.Relayer.MembershipSync

variable {config : Config} {chain : Nat → Checkpoint}

/-- The membership store after the Groups events of the given checkpoints, in order. -/
def replayed (config : Config) (chain : Nat → Checkpoint) (seqs : List Nat)
    (store : MembershipStore) : MembershipStore :=
  seqs.foldl (fun store seq => (chain seq).groupsEvents.foldl (apply config) store) store

theorem replayed_append (first second : List Nat) (store : MembershipStore) :
    replayed config chain (first ++ second) store =
      replayed config chain second (replayed config chain first store) :=
  List.foldl_append

/-! ## Extending the history -/

/-- The later state has processed further checkpoints, and its store is the earlier one
with their events applied. -/
def Extends (config : Config) (chain : Nat → Checkpoint) (before after : Service) : Prop :=
  ∃ more, after.processed = before.processed ++ more ∧
    after.stores.membership = replayed config chain more before.stores.membership

namespace Extends

theorem of_eq {before after : Service} (processed : after.processed = before.processed)
    (membership : after.stores.membership = before.stores.membership) :
    Extends config chain before after :=
  ⟨[], by simp [processed], by rw [membership]; rfl⟩

theorem refl (service : Service) : Extends config chain service service := of_eq rfl rfl

theorem trans {first second third : Service} (left : Extends config chain first second)
    (right : Extends config chain second third) : Extends config chain first third := by
  obtain ⟨some, processed, membership⟩ := left
  obtain ⟨more, processed', membership'⟩ := right
  refine ⟨some ++ more, ?_, ?_⟩
  · rw [processed', processed, List.append_assoc]
  · rw [membership', membership, replayed_append]

end Extends

theorem extends_process (seq : Nat) (service : Service) :
    Extends config chain service (setCursor seq (process config chain seq service)) := by
  refine ⟨[seq], rfl, ?_⟩
  change (processCheckpoint config service.stores (chain seq)).membership = _
  rw [membership_processCheckpoint]
  rfl

/-- The checkpoints processed are a run of consecutive ones that ends at the cursor; without
a cursor, none. -/
def Contiguous (service : Service) : Prop :=
  match service.lastCursor with
  | none => service.processed = []
  | some last => ∃ first, first ≤ last ∧ service.processed = List.range' first (last + 1 - first)

/-- `seq` is the checkpoint right after the cursor, if there is a cursor. -/
def NextIs (service : Service) (seq : Nat) : Prop :=
  ∀ last, service.lastCursor = some last → last + 1 = seq

theorem contiguous_process {service : Service} {seq : Nat} (contiguous : Contiguous service)
    (next : NextIs service seq) :
    Contiguous (setCursor seq (process config chain seq service)) := by
  change ∃ first, first ≤ seq ∧ service.processed ++ [seq] = List.range' first (seq + 1 - first)
  unfold Contiguous at contiguous
  cases cursor : service.lastCursor with
  | none =>
    rw [cursor] at contiguous
    exact ⟨seq, le_refl seq, by simp [contiguous]⟩
  | some last =>
    rw [cursor] at contiguous
    obtain ⟨first, below, isRange⟩ := contiguous
    have isNext := next last cursor
    refine ⟨first, by omega, ?_⟩
    have count : seq + 1 - first = (last + 1 - first) + 1 := by omega
    have lastOne : first + 1 * (last + 1 - first) = seq := by omega
    rw [isRange, count, List.range'_concat, lastOne]

/-- The node answers a replay request with the checkpoint, or the replay fails. -/
def Served (fetch : Fetch) : Prop := fetch = .served ∨ fetch = .failed

variable (config chain) in
theorem replayCheckpoints_spec (ledger : Nat → Fetch) (count seq : Nat) (service : Service)
    (contiguous : Contiguous service)
    (next : NextIs service seq)
    (served : ∀ index, seq ≤ index → index < seq + count → Served (ledger index)) :
    Extends config chain service (replayCheckpoints config chain ledger count seq service).2 ∧
      Contiguous (replayCheckpoints config chain ledger count seq service).2 ∧
      ((replayCheckpoints config chain ledger count seq service).1 = true →
        NextIs (replayCheckpoints config chain ledger count seq service).2 (seq + count)) := by
  induction count generalizing seq service with
  | zero => exact ⟨Extends.refl service, contiguous, fun _ => next⟩
  | succ count ih =>
    simp only [replayCheckpoints]
    rcases served seq (le_refl seq) (by omega) with answered | failed
    · rw [answered]
      have nextAfter :
          NextIs (setCursor seq (process config chain seq service)) (seq + 1) := by
        intro last isLast
        cases isLast
        rfl
      obtain ⟨more, stays, ends⟩ :=
        ih (seq + 1) (setCursor seq (process config chain seq service))
          (contiguous_process contiguous next) nextAfter
          (fun index low high => served index (by omega) (by omega))
      refine ⟨(extends_process seq service).trans more, stays, fun ok => ?_⟩
      rw [show seq + (count + 1) = seq + 1 + count by omega]
      exact ends ok
    · rw [failed]
      exact ⟨Extends.refl service, contiguous, fun ok => absurd ok (by simp)⟩

/-! ## Timely inputs -/

/-- The cursor is not behind the last one, the gap in front of it is within the backfill
limit, and the node serves the checkpoint and those of the gap. -/
def Fresh (config : Config) (service : Service) (cursor : Nat) (body : Bool)
    (ledger : Nat → Fetch) : Prop :=
  match service.lastCursor with
  | none => body = true
  | some last =>
    last ≤ cursor ∧ cursor ≤ last + 1 + config.backfillMax ∧
      (last < cursor → body = true ∧ ∀ seq, last < seq → seq < cursor → Served (ledger seq))

/-- **No stale input.**  Whenever the input makes the service ingest a checkpoint, that
checkpoint is fresh. -/
def Timely (config : Config) (service : Service) : Input → Prop
  | .subscribe _ => True
  | .catchUpRecent latest ledger =>
    service.phase = .catchUp → ∀ tip, latest = .tip tip → ∀ seq < tip, Served (ledger seq)
  | .catchUpTip latest ledger =>
    service.phase = .catchUpTip → ∀ tip, latest = .tip tip → Fresh config service tip true ledger
  | .deliver cursor body ledger =>
    service.phase = .streaming → service.streamNext ≤ cursor →
      Fresh config service cursor body ledger
  | .pollLatest latest ledger =>
    service.phase = .streaming → ∀ tip, latest = .tip tip → Fresh config service tip true ledger
  | .disconnect => True

theorem ingestCheckpoint_spec (service : Service) {ledger : Nat → Fetch} {cursor : Nat}
    {body : Bool}
    (contiguous : Contiguous service)
    (fresh : Fresh config service cursor body ledger) :
    Extends config chain service (ingestCheckpoint config chain ledger cursor body service).2 ∧
      Contiguous (ingestCheckpoint config chain ledger cursor body service).2 := by
  unfold Fresh at fresh
  unfold ingestCheckpoint
  cases isCursor : service.lastCursor with
  | none =>
    rw [isCursor] at fresh
    have next : NextIs service cursor := by
      intro last isLast
      cases isCursor ▸ isLast
    subst fresh
    exact ⟨extends_process cursor service, contiguous_process contiguous next⟩
  | some last =>
    rw [isCursor] at fresh
    obtain ⟨notStale, inLimit, served⟩ := fresh
    simp only [Nat.not_lt.mpr notStale, ↓reduceIte]
    by_cases known : cursor ≤ last
    · simp only [known, ↓reduceIte]
      exact ⟨Extends.refl service, contiguous⟩
    simp only [known, ↓reduceIte]
    obtain ⟨rfl, gap⟩ := served (by omega)
    unfold backfillRange
    split_ifs with nothing tooLong
    · -- nothing is missing: the cursor is the next checkpoint
      have next : NextIs service cursor := by
        intro last' isLast
        cases isCursor ▸ isLast
        omega
      exact ⟨extends_process cursor service, contiguous_process contiguous next⟩
    · omega
    have next : NextIs service (last + 1) := by
      intro last' isLast
      cases isCursor ▸ isLast
      rfl
    obtain ⟨more, stays, ends⟩ :=
      replayCheckpoints_spec config chain ledger
        (cursor - (last + 1)) (last + 1) service contiguous next
        (fun index low high => gap index (by omega) (by omega))
    simp only
    rcases ran : replayCheckpoints config chain ledger (cursor - (last + 1)) (last + 1)
      service with ⟨_ | _, after⟩ <;> rw [ran] at more stays ends
    · exact ⟨more, stays⟩
    have next' : NextIs after cursor := by
      have reached := ends rfl
      rwa [show last + 1 + (cursor - (last + 1)) = cursor by omega] at reached
    exact ⟨more.trans (extends_process cursor after), contiguous_process stays next'⟩

/-! ## Runs -/

/-- What every state of a timely run satisfies. -/
structure InStep (config : Config) (chain : Nat → Checkpoint) (service : Service) : Prop where
  contiguous : Contiguous service
  membership : service.stores.membership = replayed config chain service.processed .new
  catchUp : service.phase = .catchUp → service.lastCursor = none

theorem inStep_start (storage : InMemoryStorage) (nextId : Uuid) :
    InStep config chain (start storage nextId) where
  contiguous := rfl
  membership := rfl
  catchUp := fun _ => rfl

theorem step_spec {service : Service} {input : Input} (inStep : InStep config chain service)
    (timely : Timely config service input) :
    Extends config chain service (step config chain service input) ∧
      Contiguous (step config chain service input) ∧
      ((step config chain service input).phase = .catchUp →
        (step config chain service input).lastCursor = none) := by
  have unchanged : Extends config chain service service ∧ Contiguous service ∧
      (service.phase = .catchUp → service.lastCursor = none) :=
    ⟨Extends.refl service, inStep.contiguous, inStep.catchUp⟩
  have after {phase : Phase} {result : Bool × Service} (isPhase : phase ≠ .catchUp)
      (spec : Extends config chain service result.2 ∧ Contiguous result.2) :
      Extends config chain service (afterIngest phase result) ∧
        Contiguous (afterIngest phase result) ∧
        ((afterIngest phase result).phase = .catchUp →
          (afterIngest phase result).lastCursor = none) := by
    obtain ⟨ok, reached⟩ := result
    cases ok with
    | false => exact ⟨spec.1, spec.2, fun is => nomatch is⟩
    | true => exact ⟨spec.1, spec.2, fun is => absurd is isPhase⟩
  cases input with
  | subscribe =>
    simp only [step]
    split
    · refine ⟨Extends.of_eq rfl rfl, inStep.contiguous, fun is => ?_⟩
      by_contra present
      simp_all
    · exact unchanged
  | catchUpRecent latest ledger =>
    simp only [step]
    split
    · exact ⟨Extends.of_eq rfl rfl, inStep.contiguous, fun is => nomatch is⟩
    · exact ⟨Extends.of_eq rfl rfl, inStep.contiguous, fun is => nomatch is⟩
    · next tip phase =>
      refine after (by simp) ?_
      have noCursor := inStep.catchUp phase
      have next (seq : Nat) : NextIs service seq := by
        intro last isLast
        cases noCursor ▸ isLast
      obtain ⟨more, stays, -⟩ :=
        replayCheckpoints_spec config chain ledger
          (tip - (tip - (max config.backfillMax startupBackfillCheckpoints - 1)))
          (tip - (max config.backfillMax startupBackfillCheckpoints - 1)) service
          inStep.contiguous (next _)
          (fun index low high => timely phase tip rfl index (by omega))
      exact ⟨more, stays⟩
    · exact unchanged
  | catchUpTip =>
    simp only [step]
    split
    · exact ⟨Extends.of_eq rfl rfl, inStep.contiguous, fun is => nomatch is⟩
    · exact ⟨Extends.of_eq rfl rfl, inStep.contiguous, fun is => nomatch is⟩
    · next tip phase =>
      exact after (by simp) (ingestCheckpoint_spec service inStep.contiguous (timely phase tip rfl))
    · exact unchanged
  | deliver cursor =>
    simp only [step]
    split_ifs with enabled
    · refine after (by simp) ?_
      exact ingestCheckpoint_spec { service with streamNext := cursor + 1 } inStep.contiguous
        (timely enabled.1 enabled.2)
    · exact unchanged
  | pollLatest =>
    simp only [step]
    split
    · exact ⟨Extends.of_eq rfl rfl, inStep.contiguous, fun is => nomatch is⟩
    · next tip phase =>
      exact after (by simp) (ingestCheckpoint_spec service inStep.contiguous (timely phase tip rfl))
    · exact unchanged
  | disconnect => exact ⟨Extends.of_eq rfl rfl, inStep.contiguous, fun is => nomatch is⟩

theorem inStep_step (service : Service) (input : Input) (inStep : InStep config chain service)
    (timely : Timely config service input) :
    InStep config chain (step config chain service input) := by
  obtain ⟨⟨more, processed, membership⟩, contiguous, catchUp⟩ := step_spec inStep timely
  refine ⟨contiguous, ?_, catchUp⟩
  rw [membership, inStep.membership, processed, replayed_append]

/-! ## Nobody is dropped -/

/-- The event takes something away from a member of a group. -/
def Drops (groupId address : String) : GroupsEvent → Prop
  | .memberRemoved group member => group = groupId ∧ member = address
  | .permissionsRevoked group member _ => group = groupId ∧ member = address
  | _ => False

instance (groupId address : String) : DecidablePred (Drops groupId address)
  | .memberAdded _ _ => inferInstanceAs (Decidable False)
  | .memberRemoved group member => inferInstanceAs (Decidable (group = groupId ∧ member = address))
  | .permissionsGranted _ _ _ => inferInstanceAs (Decidable False)
  | .permissionsRevoked group member _ =>
    inferInstanceAs (Decidable (group = groupId ∧ member = address))

/-- What was recorded for a member is still recorded: the member, with at least the same
permissions. -/
def Retains (groupId address : String) (before after : MembershipStore) : Prop :=
  ∀ permissions, before.permissions? groupId address = some permissions →
    ∃ kept, after.permissions? groupId address = some kept ∧ permissions ⊆ kept

theorem Retains.refl (groupId address : String) (store : MembershipStore) :
    Retains groupId address store store :=
  fun permissions recorded => ⟨permissions, recorded, subset_rfl⟩

variable {groupId address : String}

theorem Retains.trans {first second third : MembershipStore}
    (left : Retains groupId address first second) (right : Retains groupId address second third) :
    Retains groupId address first third := by
  intro permissions recorded
  obtain ⟨kept, recorded', subset⟩ := left permissions recorded
  obtain ⟨kept', recorded'', subset'⟩ := right kept recorded'
  exact ⟨kept', recorded'', subset.trans subset'⟩

theorem retains_addMember (store : MembershipStore) (group member : String)
    (permissions : List MessagingPermission) (groupId address : String) :
    Retains groupId address store (store.addMember group member permissions) := by
  intro recordedPermissions recorded
  simp only [MembershipStore.addMember, MembershipStore.permissions?_setPermissions]
  split_ifs with same
  · obtain ⟨rfl, rfl⟩ := same
    exact ⟨_, rfl, by simp [recorded]⟩
  · exact ⟨recordedPermissions, recorded, subset_rfl⟩

variable (config) in
theorem retains_apply {event : GroupsEvent} (keeps : ¬ Drops groupId address event)
    (store : MembershipStore) :
    Retains groupId address store (apply config store event) := by
  cases event with
  | memberAdded group member =>
    simp only [apply]
    split_ifs
    · exact Retains.refl _ _ store
    · exact retains_addMember store group member [] groupId address
  | memberRemoved =>
    simp only [apply]
    split_ifs
    · exact Retains.refl _ _ store
    intro permissions recorded
    rw [MembershipStore.permissions?_removeMember, if_neg]
    · exact ⟨permissions, recorded, subset_rfl⟩
    · exact fun same => keeps ⟨same.1.symm, same.2.symm⟩
  | permissionsGranted group member permissions =>
    simp only [apply, MembershipStore.grantPermissions]
    split_ifs
    · exact Retains.refl _ _ store
    · exact retains_addMember store group member permissions groupId address
  | permissionsRevoked group member =>
    simp only [apply, MembershipStore.revokePermissions]
    cases store.permissions? group member with
    | none => exact Retains.refl _ _ store
    | some =>
      intro permissions' recorded
      simp only [MembershipStore.permissions?_setPermissions]
      rw [if_neg fun same => keeps ⟨same.1.symm, same.2.symm⟩]
      exact ⟨permissions', recorded, subset_rfl⟩

variable (config) in
theorem retains_events {events : List GroupsEvent}
    (keeps : ∀ event ∈ events, ¬ Drops groupId address event) (store : MembershipStore) :
    Retains groupId address store (events.foldl (apply config) store) := by
  induction events generalizing store with
  | nil => exact Retains.refl _ _ store
  | cons event rest ih =>
    have first := retains_apply config (keeps event (by simp)) store
    exact first.trans (ih (fun later isLater => keeps later (by simp [isLater])) _)

theorem retains_replayed {seqs : List Nat}
    (keeps : ∀ seq ∈ seqs, ∀ event ∈ (chain seq).groupsEvents, ¬ Drops groupId address event)
    (store : MembershipStore) :
    Retains groupId address store (replayed config chain seqs store) := by
  induction seqs generalizing store with
  | nil => exact Retains.refl _ _ store
  | cons seq rest ih =>
    have first := retains_events config (keeps seq (by simp)) store
    exact first.trans (ih (fun later isLater => keeps later (by simp [isLater])) _)

/-! ## The run theorem -/

/-- **Timely runs replay the chain.**  In every run whose inputs are all timely, after every
step the store is the fold of the Groups events of the checkpoints from the first one
processed up to the cursor, each processed once and in order; and a step after which a
member has lost something has processed an event that took it away. -/
theorem timely_run_replays_chain (config : Config) (chain : Nat → Checkpoint)
    (storage : InMemoryStorage) (nextId : Uuid) (inputs : List Input)
    (timely : Along (step config chain) (Timely config) (start storage nextId) inputs) :
    (∀ last, (inputs.foldl (step config chain) (start storage nextId)).lastCursor = some last →
      ∃ first, first ≤ last ∧
        (inputs.foldl (step config chain) (start storage nextId)).processed =
          List.range' first (last + 1 - first) ∧
        (inputs.foldl (step config chain) (start storage nextId)).stores.membership =
          replayed config chain (List.range' first (last + 1 - first)) .new) ∧
    (∀ before input after, inputs = before ++ input :: after →
      ∀ groupId address,
        ¬ Retains groupId address
          (before.foldl (step config chain) (start storage nextId)).stores.membership
          (step config chain (before.foldl (step config chain) (start storage nextId))
            input).stores.membership →
        ∃ seq event, seq ∈ (step config chain
            (before.foldl (step config chain) (start storage nextId)) input).processed.drop
              (before.foldl (step config chain) (start storage nextId)).processed.length ∧
          event ∈ (chain seq).groupsEvents ∧ Drops groupId address event) := by
  constructor
  · intro last isLast
    have inStep := timely.invariant inStep_step (inStep_start storage nextId)
    have contiguous := inStep.contiguous
    unfold Contiguous at contiguous
    rw [isLast] at contiguous
    obtain ⟨first, below, isRange⟩ := contiguous
    exact ⟨first, below, isRange, isRange ▸ inStep.membership⟩
  rintro before input after rfl groupId address lost
  obtain ⟨inStep, good⟩ := timely.at_step inStep_step (inStep_start storage nextId)
  obtain ⟨⟨more, processed, membership⟩, -, -⟩ := step_spec inStep good
  by_contra noEvent
  refine lost ?_
  rw [membership]
  refine retains_replayed (fun seq isMore event isEvent drops => ?_) _
  exact noEvent ⟨seq, event, by rw [processed]; simp [isMore], isEvent, drops⟩

/-! ### A buffered checkpoint that arrives late -/

/-- A relayer that replays gaps of up to ten checkpoints. -/
def sampleConfig : Config where
  systemObjectAddrs := []
  backfillMax := 10
  blake2b512 := fun bytes => bytes

/-- A chain whose first checkpoint makes `0xa` a sender of group `g`; the later ones are
empty. -/
def sampleChain (seq : Nat) : Checkpoint where
  timestamp := 0
  transactions :=
    if seq = 0 then
      [{ digest := "tx", sender := "0xa",
         events := [.groups (.memberAdded "g" "0xa"),
           .groups (.permissionsGranted "g" "0xa" [.messagingSender])] }]
    else []

/-- A cold start that catches up to checkpoint 1 and then receives checkpoint 2. -/
def sampleInputs : List Input :=
  [.subscribe 2, .catchUpRecent (.tip 1) fun _ => .served,
    .catchUpTip (.tip 1) fun _ => .served, .deliver 2 true fun _ => .served]

theorem timely_run_replays_chain_sample :
    Along (step sampleConfig sampleChain) (Timely sampleConfig) (start .new 0) sampleInputs ∧
      ∃ first, first ≤ 2 ∧
        (sampleInputs.foldl (step sampleConfig sampleChain) (start .new 0)).processed =
          List.range' first (2 + 1 - first) ∧
        (sampleInputs.foldl (step sampleConfig sampleChain) (start .new 0)).stores.membership =
          replayed sampleConfig sampleChain (List.range' first (2 + 1 - first)) .new := by
  have timely : Along (step sampleConfig sampleChain) (Timely sampleConfig) (start .new 0)
      sampleInputs := by
    refine ⟨trivial, fun _ _ _ _ _ => .inl rfl, fun _ tip isTip => ?_, fun _ _ => ?_, trivial⟩
    · cases isTip
      exact ⟨by decide, by decide, fun _ => ⟨rfl, fun _ _ _ => .inl rfl⟩⟩
    · exact ⟨by decide, by decide, fun _ => ⟨rfl, fun _ _ _ => .inl rfl⟩⟩
  exact ⟨timely,
    (timely_run_replays_chain sampleConfig sampleChain .new 0 sampleInputs timely).1 2 rfl⟩

/-- The stream opens at checkpoint 1, the catch-up reaches checkpoint 2 while the stream
buffers, and then the buffered checkpoint 1 is delivered. -/
def staleInputs : List Input :=
  [.subscribe 1, .catchUpRecent (.tip 2) fun _ => .served,
    .catchUpTip (.tip 2) fun _ => .served, .deliver 1 true fun _ => .served]

/-- Checkpoints 0, 1 and 2 have been ingested and no event removed anybody, but once the
buffered checkpoint 1 is taken the store no longer knows the member of checkpoint 0. -/
theorem stale_delivery_clears_membership :
    ((staleInputs.take 3).foldl (step sampleConfig sampleChain) (start .new 0)).lastCursor =
        some 2 ∧
      ((staleInputs.take 3).foldl (step sampleConfig sampleChain)
        (start .new 0)).stores.membership.hasPermission "g" "0xa" .messagingSender = true ∧
      (staleInputs.foldl (step sampleConfig sampleChain) (start .new 0)).phase = .streaming ∧
      (∀ seq ≤ 2, ∀ event ∈ (sampleChain seq).groupsEvents, ¬ Drops "g" "0xa" event) ∧
      (staleInputs.foldl (step sampleConfig sampleChain)
        (start .new 0)).stores.membership.permissions? "g" "0xa" = none ∧
      (staleInputs.foldl (step sampleConfig sampleChain) (start .new 0)).stores.membership ≠
        replayed sampleConfig sampleChain [0, 1, 2] .new := by
  decide

end MessagingStack.Relayer.MembershipSync

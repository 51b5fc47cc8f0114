import MessagingStack.Contract.EscrowExit
import MessagingStack.Contract.MyDataPolicies

/-!
# The objects of a conversation

A conversation is a group with its encryption history and its message log.  In every state of the
chain they belong together one to one (`conversations_are_whole`).  What a key server accepts it
accepts for ever, for the same key (`accepted_identity_stays`), and an archived conversation does
not change any more (`archived_conversation_is_frozen`).
-/

namespace MessagingStack.Contract.Conversations

open Move Chain EscrowExit

variable {namespace_ : Namespace} {chain middle after : Chain} {sender : Address} {request : Call}

/-! ## One to one -/

/-- The group of the history under a uuid. -/
def groupOf (chain : Chain) (uuid : String) : Option Address :=
  (chain.histories.get uuid).map (·.groupId)

/-- **What holds of the conversations** in every reachable state. -/
structure Whole (chain : Chain) : Prop where
  history : ∀ uuid history, chain.histories.get uuid = some history →
    history.uuid = uuid ∧ history.encryptedKeys ≠ []
  log : ∀ uuid, (chain.logs.get uuid).map (·.groupId) = groupOf chain uuid
  group : ∀ groupId, (∃ group, chain.groups.get groupId = some group) ↔
    ∃ uuid, groupOf chain uuid = some groupId
  single : ∀ uuid other groupId, groupOf chain uuid = some groupId →
    groupOf chain other = some groupId → uuid = other

/-- A step that leaves the owners of the histories and logs, and the set of groups. -/
theorem Whole.of_same (whole : Whole chain)
    (history : ∀ uuid history, after.histories.get uuid = some history →
      history.uuid = uuid ∧ history.encryptedKeys ≠ [])
    (owners : ∀ uuid, groupOf after uuid = groupOf chain uuid)
    (logs : ∀ uuid, (after.logs.get uuid).map (·.groupId) = (chain.logs.get uuid).map (·.groupId))
    (groups : ∀ groupId, (∃ group, after.groups.get groupId = some group) ↔
      ∃ group, chain.groups.get groupId = some group) : Whole after where
  history := history
  log := fun uuid => by rw [logs, owners, whole.log]
  group := fun groupId => by simp only [owners, groups, whole.group]
  single := fun uuid other groupId => by rw [owners, owners]; exact whole.single uuid other groupId

/-- **A new conversation** is told apart from the others by its group. -/
theorem Whole.create (whole : Whole chain) {uuid : String} {group : Group} {log : MessageLog}
    {dek : List UInt8} (newGroup : chain.groups.get group.members.id = none)
    (newHistory : chain.histories.get uuid = none)
    (groups : after.groups = chain.groups.insert group.members.id group)
    (histories : after.histories = chain.histories.insert uuid
      { groupId := group.members.id, uuid, encryptedKeys := [dek] })
    (logs : after.logs = chain.logs.insert uuid log)
    (ofGroup : log.groupId = group.members.id) : Whole after := by
  have owner (wanted : String) : groupOf after wanted =
      if wanted = uuid then some group.members.id else groupOf chain wanted := by
    rw [groupOf, histories, OrderedMap.get_insert]
    split <;> rfl
  have free (wanted : String) : groupOf chain wanted ≠ some group.members.id := by
    intro taken
    obtain ⟨found, isFound⟩ := (whole.group _).mpr ⟨wanted, taken⟩
    rw [newGroup] at isFound
    cases isFound
  refine ⟨fun wanted found isFound => ?_, fun wanted => ?_, fun groupId => ?_,
    fun first second groupId isFirst isSecond => ?_⟩
  · rw [histories, OrderedMap.get_insert] at isFound
    split at isFound
    · next same =>
      cases isFound
      exact ⟨same.symm, List.cons_ne_nil _ _⟩
    · exact whole.history wanted found isFound
  · rw [logs, owner, OrderedMap.get_insert, ← whole.log]
    split
    · exact congrArg some ofGroup
    · rfl
  · rw [groups, OrderedMap.get_insert]
    split
    · next same => exact iff_of_true ⟨group, rfl⟩ ⟨uuid, by rw [owner, if_pos rfl, same]⟩
    · next other =>
      rw [whole.group]
      constructor
      · rintro ⟨wanted, owned⟩
        refine ⟨wanted, ?_⟩
        rw [owner, if_neg, owned]
        rintro rfl
        rw [groupOf, newHistory] at owned
        cases owned
      · rintro ⟨wanted, owned⟩
        rw [owner] at owned
        split at owned
        · cases owned
          exact absurd rfl other
        · exact ⟨wanted, owned⟩
  · rw [owner] at isFirst isSecond
    split at isFirst <;> split at isSecond
    · next same same' => exact same.trans same'.symm
    · cases isFirst
      exact absurd isSecond (free second)
    · cases isSecond
      exact absurd isFirst (free first)
    · exact whole.single first second groupId isFirst isSecond

theorem Whole.change (whole : Whole chain) (change : chain.Change sender request after) :
    Whole after := by
  cases change with
  | created uuid group history newGroup newHistory isHistory =>
    obtain ⟨dek, rfl⟩ := isHistory
    exact whole.create newGroup newHistory rfl rfl rfl rfl
  | group groupId before result found change =>
    refine whole.of_same whole.history (fun _ => rfl) (fun _ => rfl) fun wanted => ?_
    rw [OrderedMap.get_insert]
    split
    · next same => simp [same, found]
    · rfl
  | rotated uuid history dek found =>
    refine whole.of_same (fun wanted later isFound => ?_) (fun wanted => ?_) (fun _ => rfl)
      fun _ => Iff.rfl
    · rw [OrderedMap.get_insert] at isFound
      split at isFound
      · next same =>
        cases isFound
        subst same
        exact ⟨(whole.history _ history found).1, by simp⟩
      · exact whole.history wanted later isFound
    · unfold groupOf
      rw [OrderedMap.get_insert]
      split
      · next same => rw [same, found]; rfl
      · rfl
  | social => exact whole.of_same whole.history (fun _ => rfl) (fun _ => rfl) fun _ => Iff.rfl
  | paid groupId logUuid group log result call coin effects transfers foundGroup foundLog isSender
      asked admitted returned =>
    refine whole.of_same whole.history (fun _ => rfl) (fun wanted => ?_) fun _ => Iff.rfl
    rw [OrderedMap.get_insert]
    split
    · next same => rw [same, foundLog]; exact congrArg some (EntryChange.of_perform returned).1
    · rfl

theorem Whole.step (whole : Whole chain) (input : Chain.Input) :
    Whole (chain.step namespace_ input) := by
  rcases Chain.step_cases namespace_ chain input with
    ⟨nowMs, -, same⟩ | same | ⟨sender, call, -, -, returned⟩
  · rw [same]
    exact whole.of_same whole.history (fun _ => rfl) (fun _ => rfl) fun _ => Iff.rfl
  · rwa [same]
  · exact whole.change (.of_perform returned)

theorem whole_genesis : Whole Chain.genesis where
  history := by rintro uuid history ⟨⟩
  log := fun _ => rfl
  group := fun groupId => ⟨by rintro ⟨group, ⟨⟩⟩, by rintro ⟨uuid, ⟨⟩⟩⟩
  single := by rintro uuid other groupId ⟨⟩

theorem whole_of_run (namespace_ : Namespace) (inputs : List Chain.Input) :
    Whole (reached namespace_ inputs) := by
  have kept : ∀ chain input, Whole chain → Whole (chain.step namespace_ input) :=
    fun _ input whole => whole.step input
  exact Along.invariant_reached kept whole_genesis inputs

/-- **A conversation is one group, one history and one log**, in every reachable state. -/
theorem conversations_are_whole (namespace_ : Namespace) (inputs : List Chain.Input) :
    (∀ groupId, (∃ group, (reached namespace_ inputs).groups.get groupId = some group) ↔
      ∃! uuid, groupOf (reached namespace_ inputs) uuid = some groupId) ∧
    (∀ uuid, ((reached namespace_ inputs).logs.get uuid).map (·.groupId) =
      groupOf (reached namespace_ inputs) uuid) ∧
    ∀ uuid history, (reached namespace_ inputs).histories.get uuid = some history →
      history.uuid = uuid ∧ ∃ dek, history.encryptedKey history.currentKeyVersion = .ok dek := by
  have whole := whole_of_run namespace_ inputs
  refine ⟨fun groupId => (whole.group groupId).trans ⟨?_, ExistsUnique.exists⟩, whole.log,
    fun uuid history found => ?_⟩
  · rintro ⟨uuid, owned⟩
    exact ⟨uuid, owned, fun other owned' => whole.single other uuid groupId owned' owned⟩
  · obtain ⟨named, keyed⟩ := whole.history uuid history found
    have current : history.currentKeyVersion < history.encryptedKeys.length :=
      Nat.sub_lt (List.length_pos_iff.mpr keyed) Nat.one_pos
    exact ⟨named, _, by rw [EncryptionHistory.encryptedKey, List.getElem?_eq_getElem current]⟩

/-! ## What stays -/

def Archived (chain : Chain) (groupId : Address) : Prop :=
  ∃ group, chain.groups.get groupId = some group ∧ group.members.paused = true

/-- **What a later state keeps of an earlier one.** -/
structure Kept (before after : Chain) : Prop where
  history : ∀ uuid history, before.histories.get uuid = some history →
    ∃ later, after.histories.get uuid = some later ∧ later.groupId = history.groupId ∧
      history.encryptedKeys <+: later.encryptedKeys ∧
      (Archived before history.groupId → later = history)
  group : ∀ groupId group, before.groups.get groupId = some group →
    ∃ later, after.groups.get groupId = some later ∧ later.members.id = group.members.id ∧
      (group.members.paused = true → later.members = group.members)
  log : ∀ uuid log, before.logs.get uuid = some log →
    Archived before log.groupId → after.logs.get uuid = some log

theorem Kept.archived (kept : Kept chain after) {groupId : Address}
    (archived : Archived chain groupId) : Archived after groupId := by
  obtain ⟨group, found, paused⟩ := archived
  obtain ⟨later, isLater, -, same⟩ := kept.group groupId group found
  exact ⟨later, isLater, by rw [same paused, paused]⟩

theorem Kept.refl (chain : Chain) : Kept chain chain where
  history := fun _ history found => ⟨history, found, rfl, List.prefix_refl _, fun _ => rfl⟩
  group := fun _ group found => ⟨group, found, rfl, fun _ => rfl⟩
  log := fun _ _ found _ => found

theorem Kept.trans (first : Kept chain middle) (second : Kept middle after) :
    Kept chain after where
  history := fun uuid history found => by
    obtain ⟨between, isBetween, ofGroup, grew, same⟩ := first.history uuid history found
    obtain ⟨later, isLater, ofGroup', grew', same'⟩ := second.history uuid between isBetween
    refine ⟨later, isLater, ofGroup'.trans ofGroup, grew.trans grew', fun archived => ?_⟩
    rw [same' (ofGroup ▸ first.archived archived), same archived]
  group := fun groupId group found => by
    obtain ⟨between, isBetween, id, same⟩ := first.group groupId group found
    obtain ⟨later, isLater, id', same'⟩ := second.group groupId between isBetween
    refine ⟨later, isLater, id'.trans id, fun paused => ?_⟩
    rw [same' (by rw [same paused, paused]), same paused]
  log := fun uuid log found archived =>
    second.log uuid log (first.log uuid log found archived) (first.archived archived)

/-- **A history changes** only by a rotation, while its group is not archived. -/
theorem history_of_perform (reachable : Reachable namespace_ chain)
    (returned : chain.perform namespace_ sender request = .ok after) {uuid : String}
    {history : EncryptionHistory} (found : chain.histories.get uuid = some history) :
    after.histories.get uuid = some history ∨
      ¬ Archived chain history.groupId ∧ ∃ dek, after.histories.get uuid =
        some { history with encryptedKeys := history.encryptedKeys ++ [dek] } := by
  cases request with
  | rotateEncryptionKey groupId historyUuid dek =>
    simp only [perform, rotateEncryptionKey, bind_ok, Table.borrow_ok, within_ok, assertThat_ok,
      Group.assertNotArchived_ok, pure_ok] at returned
    obtain ⟨group, isGroup, old, isOld, rotated, ⟨-, -, -, active, -, ofGroup, -, -, rotates⟩, rfl⟩ :=
      returned
    rw [OrderedMap.get_insert]
    split
    · next same =>
      rw [same, isOld] at found
      cases found
      refine .inr ⟨?_, dek, congrArg some (EncryptionHistory.rotateKey_ok rotates)⟩
      rintro ⟨owner, isOwner, paused⟩
      rw [ofGroup, reachable.keyed groupId group isGroup, isGroup] at isOwner
      cases isOwner
      rw [active] at paused
      cases paused
    · exact .inl found
  | createAndShareGroup | createAgentAndShareGroup =>
    simp only [perform, share, bind_ok, Table.add_ok, pure_ok] at returned
    obtain ⟨_, -, _, -, _, ⟨fresh, rfl⟩, _, -, rfl⟩ := returned
    rw [OrderedMap.get_insert, if_neg]
    · exact .inl found
    · rintro rfl
      rw [found] at fresh
      cases fresh
  | grantPermission | revokePermission | removeMember | leave | archiveGroup | setGroupName
  | insertGroupData | removeGroupData =>
    simp only [perform, onMembers, onGroup, bind_ok, pure_ok] at returned
    obtain ⟨_, -, _, -, rfl⟩ := returned
    exact .inl found
  | setPaidMessagingPolicy =>
    simp only [perform, bind_ok, pure_ok] at returned
    obtain ⟨_, -, rfl⟩ := returned
    exact .inl found
  | follow | unfollow | blockWallet | unblockWallet =>
    cases returned
    exact .inl found
  | sendPaidMessageDigest | sendAgentPaidMessageDigest | replyToPaidMessageClaimCoin
  | replyToPaidMessageClaimSettled | refundPaidEscrow =>
    simp only [perform, onLog, bind_ok, pure_ok] at returned
    obtain ⟨_, -, _, -, _, -, rfl⟩ := returned
    exact .inl found

theorem GroupChange.keeps {before after : Group} (change : GroupChange sender before after)
    (paused : before.members.paused = true) : after.members = before.members := by
  cases change with
  | granted _ _ active | shrunk active => cases paused.symm.trans active
  | archived _ members => rw [members, ← paused]
  | edited _ members => exact members

theorem kept_of_perform (reachable : Reachable namespace_ chain)
    (returned : chain.perform namespace_ sender request = .ok after) : Kept chain after := by
  have change := Change.of_perform returned
  refine ⟨fun uuid history found => ?_, fun groupId group found => ?_,
    fun uuid log found archived => ?_⟩
  · rcases history_of_perform reachable returned found with same | ⟨active, dek, rotated⟩
    · exact ⟨history, same, rfl, List.prefix_refl _, fun _ => rfl⟩
    · exact ⟨_, rotated, rfl, List.prefix_append _ _, fun archived => absurd archived active⟩
  · cases change with
    | created _ made _ newGroup =>
      refine ⟨group, ?_, rfl, fun _ => rfl⟩
      rw [OrderedMap.get_insert, if_neg]
      · exact found
      · rintro rfl
        rw [newGroup] at found
        cases found
    | group changed before result isBefore change =>
      by_cases same : groupId = changed
      · subst same
        cases isBefore.symm.trans found
        exact ⟨result, by simp, EscrowExit.GroupChange.id change, GroupChange.keeps change⟩
      · exact ⟨group, by simpa [same] using found, rfl, fun _ => rfl⟩
    | rotated | social | paid => exact ⟨group, found, rfl, fun _ => rfl⟩
  · cases change with
    | created _ _ _ _ _ _ newLog =>
      rw [OrderedMap.get_insert, if_neg]
      · exact found
      · rintro rfl
        rw [newLog] at found
        cases found
    | group | rotated | social => exact found
    | paid groupId logUuid group old result call coin effects transfers isGroup isOld _ _ admitted =>
      rw [OrderedMap.get_insert, if_neg]
      · exact found
      · rintro rfl
        cases isOld.symm.trans found
        obtain ⟨owner, isOwner, paused⟩ := archived
        rw [admitted.matching, reachable.keyed groupId group isGroup, isGroup] at isOwner
        cases isOwner
        rw [admitted.active] at paused
        cases paused

theorem Kept.step (reachable : Reachable namespace_ chain) (input : Chain.Input) :
    Kept chain (chain.step namespace_ input) := by
  rcases Chain.step_cases namespace_ chain input with
    ⟨nowMs, -, same⟩ | same | ⟨sender, call, -, -, returned⟩
  · rw [same]
    exact ⟨(Kept.refl chain).history, (Kept.refl chain).group, (Kept.refl chain).log⟩
  · rw [same]
    exact .refl chain
  · exact kept_of_perform reachable returned

theorem kept_of_run (namespace_ : Namespace) (inputs later : List Chain.Input) :
    Kept (reached namespace_ inputs) (reached namespace_ (inputs ++ later)) := by
  induction later using List.reverseRecOn with
  | nil => rw [List.append_nil]; exact .refl _
  | append_singleton later input ih =>
    have last : reached namespace_ (inputs ++ (later ++ [input])) =
        (reached namespace_ (inputs ++ later)).step namespace_ input := by
      rw [← List.append_assoc, reached, List.foldl_concat]
      rfl
    rw [last]
    exact ih.trans (Kept.step (reachable_reached namespace_ _) input)

/-- **An archived conversation does not change any more**, whatever calls follow: its members and
their permissions, its keys and its log. -/
theorem archived_conversation_is_frozen (namespace_ : Namespace) (inputs later : List Chain.Input)
    (groupId : Address) (uuid : String) (archived : Archived (reached namespace_ inputs) groupId)
    (owned : groupOf (reached namespace_ inputs) uuid = some groupId) :
    ((reached namespace_ (inputs ++ later)).groups.get groupId).map (·.members) =
        ((reached namespace_ inputs).groups.get groupId).map (·.members) ∧
      (reached namespace_ (inputs ++ later)).histories.get uuid =
        (reached namespace_ inputs).histories.get uuid ∧
      (reached namespace_ (inputs ++ later)).logs.get uuid =
        (reached namespace_ inputs).logs.get uuid := by
  have kept := kept_of_run namespace_ inputs later
  have ofLog := (whole_of_run namespace_ inputs).log uuid
  rw [owned] at ofLog
  obtain ⟨history, isHistory, ofHistory⟩ := Option.map_eq_some_iff.mp owned
  obtain ⟨log, isLog, rfl⟩ := Option.map_eq_some_iff.mp ofLog
  obtain ⟨group, isGroup, paused⟩ := id archived
  obtain ⟨group', isGroup', -, same⟩ := kept.group _ group isGroup
  obtain ⟨history', isHistory', -, -, same'⟩ := kept.history uuid history isHistory
  refine ⟨?_, ?_, ?_⟩
  · rw [isGroup', isGroup, Option.map_some, Option.map_some, same paused]
  · rw [isHistory', isHistory, same' (ofHistory ▸ archived)]
  · rw [kept.log uuid log isLog archived, isLog]

/-- **What a key server accepts** stays accepted, and stays the identity of the same key. -/
theorem accepted_identity_stays (bcs : Bcs) (namespace_ : Namespace)
    (inputs later : List Chain.Input) (groupId : Address) (uuid : String) (group : Group)
    (history : EncryptionHistory) (id : Bytes)
    (isGroup : (reached namespace_ inputs).groups.get groupId = some group)
    (isHistory : (reached namespace_ inputs).histories.get uuid = some history)
    (accepted : validateIdentity bcs group.members history id = .ok ⟨⟩) :
    ∃ group' history' version dek,
      (reached namespace_ (inputs ++ later)).groups.get groupId = some group' ∧
      (reached namespace_ (inputs ++ later)).histories.get uuid = some history' ∧
      validateIdentity bcs group'.members history' id = .ok ⟨⟩ ∧
      id = Address.bytes groupId ++ LittleEndian.write 8 version ∧
      history.encryptedKey version = .ok dek ∧ history'.encryptedKey version = .ok dek := by
  have kept := kept_of_run namespace_ inputs later
  obtain ⟨ofGroup, version, current, rfl⟩ := (validateIdentity_ok bcs).mp accepted
  obtain ⟨group', isGroup', sameId, -⟩ := kept.group groupId group isGroup
  obtain ⟨history', isHistory', sameGroup, ⟨added, grew⟩, -⟩ := kept.history uuid history isHistory
  have nonempty := (whole_of_run namespace_ inputs).history uuid history isHistory
  have exists_ : version.toNat < history.encryptedKeys.length := by
    have := List.length_pos_iff.mpr nonempty.2
    unfold EncryptionHistory.currentKeyVersion at current
    omega
  have still : history'.encryptedKeys[version.toNat]? =
      some history.encryptedKeys[version.toNat] := by
    rw [← grew, List.getElem?_append_left exists_, List.getElem?_eq_getElem exists_]
  refine ⟨group', history', version.toNat, history.encryptedKeys[version.toNat], isGroup',
    isHistory', (validateIdentity_ok bcs).mpr ⟨by rw [sameGroup, ofGroup, sameId], version, ?_,
      by rw [sameId]⟩, ?_, ?_, ?_⟩
  · unfold EncryptionHistory.currentKeyVersion at current ⊢
    rw [← grew, List.length_append]
    omega
  · rw [(reachable_reached namespace_ inputs).keyed groupId group isGroup]
  · rw [EncryptionHistory.encryptedKey, List.getElem?_eq_getElem exists_]
  · rw [EncryptionHistory.encryptedKey, still]

/-! ### A conversation that is archived -/

def sampleBcs : Bcs where
  peelAddress := fun bytes => .ok (Address.ofBytes (bytes.take 32), bytes.drop 32)
  peelU64 := fun bytes => .ok (BitVec.ofNat 64 (LittleEndian.read (bytes.take 8)), bytes.drop 8)
  peelAddress_eq := fun _ _ => rfl
  peelU64_eq := fun _ _ => rfl

/-- Alice pays and rotates the key of an archived conversation. -/
def refusedInputs : List Chain.Input :=
  [.call 1 (.rotateEncryptionKey 1001 "u" [1]),
    .call 1 (.sendPaidMessageDigest 1001 "u" 2 5 5 [8] 2)]

theorem archived_conversation_is_frozen_sample :
    (reached sampleNamespace (archivedInputs ++ refusedInputs)).histories.get "u" =
        (reached sampleNamespace archivedInputs).histories.get "u" ∧
      (reached sampleNamespace (archivedInputs ++ refusedInputs)).logs.get "u" =
        (reached sampleNamespace archivedInputs).logs.get "u" := by
  have run : (∃ group ∈ (reached sampleNamespace archivedInputs).groups.get 1001,
      group.members.paused = true) ∧
      groupOf (reached sampleNamespace archivedInputs) "u" = some 1001 := by
    decide +kernel
  exact (archived_conversation_is_frozen sampleNamespace archivedInputs refusedInputs 1001 "u"
    run.1 run.2).2

/-- The identity of the first key, before and after Alice archives the conversation. -/
theorem accepted_identity_stays_sample :
    ∃ group history, (reached sampleNamespace archivedInputs).groups.get 1001 = some group ∧
      (reached sampleNamespace archivedInputs).histories.get "u" = some history ∧
      validateIdentity sampleBcs group.members history
        (Address.bytes 1001 ++ LittleEndian.write 8 0) = .ok ⟨⟩ := by
  have run : ∃ group ∈ (reached sampleNamespace paymentInputs).groups.get 1001,
      ∃ history ∈ (reached sampleNamespace paymentInputs).histories.get "u",
        validateIdentity sampleBcs group.members history
          (Address.bytes 1001 ++ LittleEndian.write 8 0) = .ok ⟨⟩ := by
    decide +kernel
  obtain ⟨group, isGroup, history, isHistory, accepted⟩ := run
  obtain ⟨group', history', -, -, isGroup', isHistory', still, -⟩ :=
    accepted_identity_stays sampleBcs sampleNamespace paymentInputs [.call 1 (.archiveGroup 1001)]
      1001 "u" group history _ isGroup isHistory accepted
  exact ⟨group', history', isGroup', isHistory', still⟩

end MessagingStack.Contract.Conversations

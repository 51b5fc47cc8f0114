import MessagingStack.Contract.Chain

/-!
# The way out of an escrow

A paid message leaves the log when its recipient claims it inside the window, or its payer takes it
back after it.  Both are guarded by the state of the group.  `HasExit` is what is left when
everything that the parties can undo is undone: an unclaimed escrow of a reachable state can be paid
out exactly when it has an exit (`payable_iff_hasExit`), and archiving a group takes it away
(`archive_locks_escrow`).
-/

namespace MessagingStack.Contract.EscrowExit

open Move Chain

variable {namespace_ : Namespace}

/-! ## Definitions -/

def reached (namespace_ : Namespace) (inputs : List Chain.Input) : Chain :=
  inputs.foldl (Chain.step namespace_) Chain.genesis

/-- A wallet of the group can hand out permissions, or make itself able to. -/
def HasAdmin (namespace_ : Namespace) (members : PermissionedGroup) : Prop :=
  ∃ admin, IsWallet namespace_ admin ∧
    (members.Holds admin .permissionsAdmin ∨ members.Holds admin .extensionPermissionsAdmin)

/-- The wallet may use the message log, or can be given leave to. -/
def CanSend (namespace_ : Namespace) (members : PermissionedGroup) (wallet : Address) : Prop :=
  IsWallet namespace_ wallet ∧ (members.Holds wallet .messagingSender ∨ HasAdmin namespace_ members)

def windowEnd (escrow : PaidMessageEscrow) : Nat := escrow.createdAtMs.toNat + paymentExpirationMs

/-- **The exits**: the group is not archived, and either the clock can reach the end of the
window with the payer in the group, or the window is open with the recipient in it. -/
def HasExit (namespace_ : Namespace) (clock : U64) (members : PermissionedGroup)
    (escrow : PaidMessageEscrow) : Prop :=
  members.paused = false ∧
    ((windowEnd escrow < 2 ^ 64 ∧ CanSend namespace_ members escrow.payer) ∨
      (clock.toNat ≤ windowEnd escrow ∧ CanSend namespace_ members escrow.recipient))

/-- The step is the clock's, or a call of the payer, the recipient or an admin of the
group. -/
def ByParties (groupId : Address) (escrow : PaidMessageEscrow) (chain : Chain) :
    Chain.Input → Prop
  | .tick _ => True
  | .call sender _ =>
    sender = escrow.payer ∨ sender = escrow.recipient ∨
      ∃ group ∈ chain.groups.get groupId,
        group.members.Holds sender .permissionsAdmin ∨
          group.members.Holds sender .extensionPermissionsAdmin

/-- Between the two states the escrow has been marked as claimed, and its amount handed to
its payer or its recipient. -/
def PaidOut (before after : Chain) (logUuid : String) (seq : U64)
    (escrow : PaidMessageEscrow) : Prop :=
  (∃ log ∈ after.logs.get logUuid, ∃ spent ∈ log.paidMsgEscrow.get seq, spent.claimed = true) ∧
  ∃ transfers, after.transfers = before.transfers ++ transfers ∧
    (⟨escrow.payer, escrow.amount⟩ ∈ transfers ∨ ⟨escrow.recipient, escrow.amount⟩ ∈ transfers)

/-- An escrow of a log, with the group it belongs to. -/
structure Stands (chain : Chain) (logUuid : String) (seq : U64) (log : MessageLog)
    (escrow : PaidMessageEscrow) (group : Group) : Prop where
  foundLog : chain.logs.get logUuid = some log
  foundEscrow : log.paidMsgEscrow.get seq = some escrow
  unclaimed : escrow.claimed = false
  foundGroup : chain.groups.get log.groupId = some group

/-! ## What holds in every reachable state -/

/-- The number of unclaimed escrows. -/
def pending (log : MessageLog) : Nat :=
  log.paidMsgEscrow.total fun escrow => if escrow.claimed then 0 else 1

/-- A log never runs out of dedupe keys and nonces: it has used at most two for each escrow,
one of them when the escrow was claimed. -/
structure HasRoom (log : MessageLog) : Prop where
  dedupe : ∃ used : List (List UInt8), used.length + pending log ≤ 2 * log.nextSeq.toNat ∧
    ∀ key, log.usedDedupe.get key ≠ none → key ∈ used
  nonces : ∀ sender, ∃ used : List U128, used.length + pending log ≤ 2 * log.nextSeq.toNat ∧
    ∀ nonce, log.NonceUsed sender nonce → nonce ∈ used

/-- The entries of a log: an unclaimed one is backed, its payer is a wallet, and none is
dated after the clock. -/
structure Backed (namespace_ : Namespace) (clock : U64) (log : MessageLog) : Prop where
  balance : ∀ seq escrow, log.paidMsgEscrow.get seq = some escrow → escrow.claimed = false →
    escrow.escrowedBalance = escrow.amount
  payer : ∀ seq escrow, log.paidMsgEscrow.get seq = some escrow → IsWallet namespace_ escrow.payer
  dated : ∀ seq escrow, log.paidMsgEscrow.get seq = some escrow →
    escrow.createdAtMs.toNat ≤ clock.toNat

/-- **What holds in every reachable state.** -/
structure Reachable (namespace_ : Namespace) (chain : Chain) : Prop where
  version : chain.version = packageVersion
  keyed : ∀ groupId group, chain.groups.get groupId = some group → group.members.id = groupId
  owned : ∀ logUuid log, chain.logs.get logUuid = some log →
    ∃ group, chain.groups.get log.groupId = some group
  room : ∀ logUuid log, chain.logs.get logUuid = some log → HasRoom log
  backed : ∀ logUuid log, chain.logs.get logUuid = some log → Backed namespace_ chain.clock log
  blockers : ∀ pair ∈ chain.blockList, IsWallet namespace_ pair.1

/-! ### One call -/

variable {log after : MessageLog} {chain : Chain} {nowMs coin : U64} {call : PaidCall}
  {effects : Effects} {escrow : PaidMessageEscrow} {sender : Address}

theorem pending_insert_new (fresh : log.paidMsgEscrow.get log.nextSeq = none)
    (table : after.paidMsgEscrow = log.paidMsgEscrow.insert log.nextSeq escrow)
    (unclaimed : escrow.claimed = false) : pending after = pending log + 1 := by
  unfold pending
  rw [table, OrderedMap.total_insert_of_none _ _ fresh]
  simp [unclaimed]

theorem pending_insert_spent {seq : U64} (found : log.paidMsgEscrow.get seq = some escrow)
    (unclaimed : escrow.claimed = false)
    (table : after.paidMsgEscrow = log.paidMsgEscrow.insert seq escrow.spent) :
    pending after + 1 = pending log := by
  have exchanged := OrderedMap.total_insert_of_some escrow.spent
    (fun escrow => if escrow.claimed then 0 else 1) found
  unfold pending
  rw [table]
  simpa [unclaimed, PaidMessageEscrow.spent] using exchanged

theorem used_of_perform (returned : log.perform nowMs call = .ok (after, coin, effects)) :
    (∃ added : List (List UInt8), added.length ≤ 1 ∧ ∀ key, after.usedDedupe.get key ≠ none →
      log.usedDedupe.get key ≠ none ∨ key ∈ added) ∧
    ∃ added : List U128, added.length ≤ 1 ∧ ∀ sender nonce, after.NonceUsed sender nonce →
      log.NonceUsed sender nonce ∨ nonce ∈ added := by
  obtain ⟨⟨middle, consumes, -, dedupe, nonces⟩, -⟩ := Paid.of_perform returned
  have sameNonces : ∀ sender nonce,
      after.NonceUsed sender nonce ↔ middle.NonceUsed sender nonce := by
    intro sender nonce
    simp only [MessageLog.NonceUsed, nonces]
  unfold MessageLog.afterConsuming at consumes
  split at consumes
  · cases consumes
    refine ⟨⟨[], by simp, ?_⟩, [], by simp, ?_⟩
    · intro key isUsed
      exact .inl (by rwa [dedupe] at isUsed)
    · intro sender nonce isUsed
      exact .inl ((sameNonces sender nonce).mp isUsed)
  next sender dedupeKey nonce _ =>
  obtain ⟨-, -, shape, grown⟩ := MessageLog.consumeDedupeAndNonce_ok consumes
  refine ⟨⟨[dedupeKey], by simp, ?_⟩, [nonce], by simp, ?_⟩
  · intro key isUsed
    rw [dedupe, shape, OrderedMap.get_insert] at isUsed
    by_cases same : key = dedupeKey
    · exact .inr (by simp [same])
    · exact .inl (by simpa [same] using isUsed)
  intro who which isUsed
  rcases (grown who which).mp ((sameNonces who which).mp isUsed) with isOld | ⟨-, rfl⟩
  · exact .inl isOld
  · exact .inr (by simp)

/-- Two uses for each escrow are enough for any paid call. -/
theorem HasRoom.perform (room : HasRoom log)
    (returned : log.perform nowMs call = .ok (after, coin, effects)) : HasRoom after := by
  have balance : pending after + 2 * log.nextSeq.toNat + 1 ≤
      pending log + 2 * after.nextSeq.toNat := by
    obtain ⟨-, recipient | spent⟩ := EntryChange.of_perform returned
    · next fresh counted table _ =>
      rw [pending_insert_new fresh table rfl]
      omega
    next found unclaimed counted table _ _ =>
    have less := pending_insert_spent found unclaimed table
    rw [counted]
    omega
  obtain ⟨⟨newKeys, fewKeys, keys⟩, newNonces, fewNonces, nonces⟩ := used_of_perform returned
  constructor
  · obtain ⟨used, bound, covers⟩ := room.dedupe
    refine ⟨newKeys ++ used, by rw [List.length_append]; omega, ?_⟩
    intro key isUsed
    rcases keys key isUsed with isOld | isNew
    · exact List.mem_append_right _ (covers key isOld)
    · exact List.mem_append_left _ isNew
  intro sender
  obtain ⟨used, bound, covers⟩ := room.nonces sender
  refine ⟨newNonces ++ used, by rw [List.length_append]; omega, ?_⟩
  intro nonce isUsed
  rcases nonces sender nonce isUsed with isOld | isNew
  · exact List.mem_append_right _ (covers nonce isOld)
  · exact List.mem_append_left _ isNew

theorem Backed.perform {clock : U64} (backed : Backed namespace_ clock log)
    (wallet : IsWallet namespace_ call.sender)
    (returned : log.perform clock call = .ok (after, coin, effects)) :
    Backed namespace_ clock after := by
  obtain ⟨-, recipient | spent⟩ := EntryChange.of_perform returned
  · next table _ =>
    constructor <;> intro seq escrow isEntry <;>
      rw [table, OrderedMap.get_insert] at isEntry <;> split at isEntry
    · cases isEntry
      exact fun _ => rfl
    · exact backed.balance seq escrow isEntry
    · cases isEntry
      exact wallet
    · exact backed.payer seq escrow isEntry
    · cases isEntry
      exact le_refl _
    · exact backed.dated seq escrow isEntry
  next old found _ _ table _ _ =>
  constructor <;> intro seq escrow isEntry <;>
    rw [table, OrderedMap.get_insert] at isEntry <;> split at isEntry
  · cases isEntry
    rintro ⟨⟩
  · exact backed.balance seq escrow isEntry
  · cases isEntry
    exact backed.payer spent old found
  · exact backed.payer seq escrow isEntry
  · cases isEntry
    exact backed.dated spent old found
  · exact backed.dated seq escrow isEntry

/-- The key that spells an integer in zeros and ones. -/
def bitKey (value : BitVec 128) : List UInt8 :=
  List.ofFn fun index : Fin 128 => if value.getLsbD index then 1 else 0

theorem bitKey_injective : Function.Injective bitKey := by
  intro left right same
  refine BitVec.eq_of_getLsbD_eq fun index inside => ?_
  have bits : (if left.getLsbD index then (1 : UInt8) else 0) =
      if right.getLsbD index then 1 else 0 :=
    congrFun (List.ofFn_injective same) ⟨index, inside⟩
  split at bits <;> split at bits <;> simp_all

theorem HasRoom.exists_key (room : HasRoom log) :
    ∃ key : List UInt8, key.length ≤ maxDedupeKeyBytes ∧ log.usedDedupe.get key = none := by
  obtain ⟨used, bound, covers⟩ := room.dedupe
  have small := log.nextSeq.isLt
  obtain ⟨value, fresh⟩ := exists_fresh bitKey bitKey_injective used (by omega)
  refine ⟨bitKey value, ?_, ?_⟩
  · rw [bitKey, List.length_ofFn]
    decide
  by_contra isUsed
  exact fresh (covers _ isUsed)

theorem HasRoom.exists_nonce (room : HasRoom log) (sender : Address) :
    ∃ nonce, ¬log.NonceUsed sender nonce := by
  obtain ⟨used, bound, covers⟩ := room.nonces sender
  have small := log.nextSeq.isLt
  obtain ⟨nonce, fresh⟩ := exists_fresh (fun value : U128 => value) Function.injective_id used
    (by omega)
  exact ⟨nonce, fun isUsed => fresh (covers nonce isUsed)⟩

theorem hasRoom_new (groupId : Address) (uuid : String) :
    HasRoom { groupId, uuid, nextSeq := 0, usedDedupe := ∅, nonces := ∅, paidMsgEscrow := ∅ } where
  dedupe := ⟨[], by simp [pending, EmptyCollection.emptyCollection], by
    intro key isUsed
    exact absurd rfl isUsed⟩
  nonces := fun sender => ⟨[], by simp [pending, EmptyCollection.emptyCollection], by
    rintro nonce ⟨held, isHeld, -⟩
    cases isHeld⟩

/-! ### One step -/

theorem GroupChange.id {before after : Group} (change : GroupChange sender before after) :
    after.members.id = before.members.id := by
  cases change with
  | granted _ _ _ _ id => exact id
  | shrunk _ shrinks => exact shrinks.id
  | archived _ members | edited _ members => rw [members]

section

variable (reachable : Reachable namespace_ chain)
include reachable

theorem Reachable.tick (forward : chain.clock.toNat ≤ nowMs.toNat) :
    Reachable namespace_ { chain with clock := nowMs } :=
  { reachable with
    backed := fun logUuid log found =>
      { reachable.backed logUuid log found with
        dated := fun seq escrow isEntry =>
          le_trans ((reachable.backed logUuid log found).dated seq escrow isEntry) forward } }

/-- **The step lemma.** -/
theorem Reachable.change {after : Chain} {request : Call} (wallet : IsWallet namespace_ sender)
    (change : chain.Change sender request after) :
    Reachable namespace_ after := by
  cases change with
  | created uuid group history newGroup =>
    refine { reachable with keyed := ?_, owned := ?_, room := ?_, backed := ?_ }
    · intro groupId found isFound
      rw [OrderedMap.get_insert] at isFound
      split at isFound
      · next same =>
        cases isFound
        exact same.symm
      · exact reachable.keyed groupId found isFound
    · intro logUuid log isFound
      rw [OrderedMap.get_insert] at isFound
      split at isFound
      · cases isFound
        exact ⟨group, by simp⟩
      obtain ⟨owner, isOwner⟩ := reachable.owned logUuid log isFound
      refine ⟨owner, ?_⟩
      rw [OrderedMap.get_insert]
      split
      · next same =>
        rw [same, newGroup] at isOwner
        cases isOwner
      · exact isOwner
    · intro logUuid log isFound
      rw [OrderedMap.get_insert] at isFound
      split at isFound
      · cases isFound
        exact hasRoom_new _ _
      · exact reachable.room logUuid log isFound
    intro logUuid log isFound
    rw [OrderedMap.get_insert] at isFound
    split at isFound
    · cases isFound
      constructor <;> intro seq escrow isEntry <;> cases isEntry
    · exact reachable.backed logUuid log isFound
  | group groupId before result found change =>
    refine { reachable with keyed := ?_, owned := ?_ }
    · intro id group isFound
      rw [OrderedMap.get_insert] at isFound
      split at isFound
      · next same =>
        cases isFound
        rw [GroupChange.id change, same]
        exact reachable.keyed groupId before found
      · exact reachable.keyed id group isFound
    intro logUuid log isFound
    obtain ⟨owner, isOwner⟩ := reachable.owned logUuid log isFound
    by_cases same : log.groupId = groupId
    · exact ⟨result, by simp [same]⟩
    · exact ⟨owner, by simpa [same] using isOwner⟩
  | rotated => exact { reachable with }
  | social policies following blockList blockers =>
    refine { reachable with blockers := ?_ }
    intro pair isPair
    rcases blockers pair isPair with isOld | same
    · exact reachable.blockers pair isOld
    · rw [same]
      exact wallet
  | paid groupId logUuid group log result call coin effects transfers foundGroup foundLog isSender
      asked admitted returned =>
    obtain ⟨sameGroup, -⟩ := EntryChange.of_perform returned
    refine { reachable with owned := ?_, room := ?_, backed := ?_ }
    · intro uuid kept isFound
      rw [OrderedMap.get_insert] at isFound
      split at isFound
      · cases isFound
        rw [sameGroup]
        exact reachable.owned logUuid log foundLog
      · exact reachable.owned uuid kept isFound
    · intro uuid kept isFound
      rw [OrderedMap.get_insert] at isFound
      split at isFound
      · cases isFound
        exact (reachable.room logUuid log foundLog).perform returned
      · exact reachable.room uuid kept isFound
    intro uuid kept isFound
    rw [OrderedMap.get_insert] at isFound
    split at isFound
    · cases isFound
      exact (reachable.backed logUuid log foundLog).perform (isSender ▸ wallet) returned
    · exact reachable.backed uuid kept isFound

theorem Reachable.step (input : Chain.Input) :
    Reachable namespace_ (chain.step namespace_ input) := by
  rcases Chain.step_cases namespace_ chain input with
    ⟨nowMs, forward, same⟩ | same | ⟨sender, call, -, wallet, returned⟩
  · rw [same]
    exact reachable.tick forward
  · rwa [same]
  · exact reachable.change wallet (.of_perform returned)

theorem reachable_run (inputs : List Chain.Input) :
    Reachable namespace_ (inputs.foldl (Chain.step namespace_) chain) := by
  induction inputs generalizing chain with
  | nil => exact reachable
  | cons input rest ih => exact ih (reachable.step input)

end

theorem reachable_genesis : Reachable namespace_ Chain.genesis where
  version := rfl
  keyed := by rintro groupId group ⟨⟩
  owned := by rintro logUuid log ⟨⟩
  room := by rintro logUuid log ⟨⟩
  backed := by rintro logUuid log ⟨⟩
  blockers := by rintro pair ⟨⟩

theorem reachable_reached (namespace_ : Namespace) (inputs : List Chain.Input) :
    Reachable namespace_ (reached namespace_ inputs) :=
  reachable_run reachable_genesis inputs

/-! ## No step makes an exit -/

section Without

variable {clock : U64} {sender : Address} {before after : Group} {escrow : PaidMessageEscrow}

theorem hasAdmin_of_manager {members : PermissionedGroup} {permission : Permission}
    (wallet : IsWallet namespace_ sender) (manages : members.Holds sender permission.manager) :
    HasAdmin namespace_ members := by
  refine ⟨sender, wallet, ?_⟩
  unfold Permission.manager at manages
  split at manages
  · exact .inl manages
  · exact .inr manages

theorem hasAdmin_of_change (wallet : IsWallet namespace_ sender)
    (change : GroupChange sender before after) (admins : HasAdmin namespace_ after.members) :
    HasAdmin namespace_ before.members := by
  obtain ⟨admin, isWallet, holds⟩ := admins
  cases change with
  | granted member permission _ manages => exact hasAdmin_of_manager wallet manages
  | shrunk _ shrinks =>
    exact ⟨admin, isWallet, holds.imp (shrinks.holds admin _) (shrinks.holds admin _)⟩
  | archived manages => exact ⟨sender, wallet, .inl manages⟩
  | edited _ members =>
    rw [members] at holds
    exact ⟨admin, isWallet, holds⟩

theorem canSend_of_change {who : Address} (wallet : IsWallet namespace_ sender)
    (change : GroupChange sender before after)
    (can : CanSend namespace_ after.members who) : CanSend namespace_ before.members who := by
  obtain ⟨isWallet, holds | admins⟩ := can
  · refine ⟨isWallet, ?_⟩
    cases change with
    | granted member permission _ manages => exact .inr (hasAdmin_of_manager wallet manages)
    | shrunk _ shrinks => exact .inl (shrinks.holds who _ holds)
    | archived manages => exact .inr ⟨sender, wallet, .inl manages⟩
    | edited _ members => exact .inl (members ▸ holds)
  · exact ⟨isWallet, .inr (hasAdmin_of_change wallet change admins)⟩

theorem active_of_change (change : GroupChange sender before after)
    (active : after.members.paused = false) : before.members.paused = false := by
  cases change with
  | granted _ _ active | shrunk active | edited active => exact active
  | archived _ members => cases members ▸ active

theorem hasExit_of_change (wallet : IsWallet namespace_ sender)
    (change : GroupChange sender before after)
    (exit : HasExit namespace_ clock after.members escrow) :
    HasExit namespace_ clock before.members escrow :=
  ⟨active_of_change change exit.1, exit.2.imp
    (And.imp_right (canSend_of_change wallet change))
    (And.imp_right (canSend_of_change wallet change))⟩

end Without

/-- An escrow without an exit: it stands, and nobody can get at it. -/
def Locked (namespace_ : Namespace) (chain : Chain) (logUuid : String) (seq : U64)
    (escrow : PaidMessageEscrow) : Prop :=
  ∃ log group, Stands chain logUuid seq log escrow group ∧
    ¬HasExit namespace_ chain.clock group.members escrow

section Locked

variable {chain after : Chain} {logUuid : String} {seq : U64} {escrow : PaidMessageEscrow}

theorem hasExit_of_closed {log : MessageLog} {group : Group} {call : PaidCall}
    (admitted : Admitted chain group log call) (wallet : IsWallet namespace_ call.sender)
    (exit : call.sender = escrow.recipient ∧
        chain.clock.toNat ≤ escrow.createdAtMs.toNat + paymentExpirationMs ∨
      call.sender = escrow.payer ∧
        escrow.createdAtMs.toNat + paymentExpirationMs ≤ chain.clock.toNat) :
    HasExit namespace_ chain.clock group.members escrow := by
  have permitted := admitted.permitted
  refine ⟨admitted.active, ?_⟩
  rcases exit with ⟨isRecipient, inWindow⟩ | ⟨isPayer, expired⟩
  · rw [isRecipient] at wallet permitted
    exact .inr ⟨inWindow, wallet, .inl permitted⟩
  · rw [isPayer] at wallet permitted
    exact .inl ⟨lt_of_le_of_lt expired chain.clock.isLt, wallet, .inl permitted⟩

section

variable (locked : Locked namespace_ chain logUuid seq escrow)
include locked

theorem Locked.change {sender : Address} {request : Call} (reachable : Reachable namespace_ chain)
    (wallet : IsWallet namespace_ sender) (change : chain.Change sender request after) :
    Locked namespace_ after logUuid seq escrow := by
  obtain ⟨log, group, stands, noExit⟩ := locked
  cases change with
  | created uuid made history newGroup newHistory isHistory newLog =>
    refine ⟨log, group, { stands with foundLog := ?_, foundGroup := ?_ }, noExit⟩
    · have other : logUuid ≠ uuid := by
        rintro rfl
        cases newLog.symm.trans stands.foundLog
      simp [other, stands.foundLog]
    have other : log.groupId ≠ made.members.id := by
      intro same
      rw [← same] at newGroup
      cases newGroup.symm.trans stands.foundGroup
    simp [other, stands.foundGroup]
  | group groupId before result found change =>
    by_cases same : log.groupId = groupId
    · obtain rfl : group = before := Option.some.inj (stands.foundGroup.symm.trans (same ▸ found))
      exact ⟨log, result, { stands with foundGroup := by simp [same] },
        fun exit => noExit (hasExit_of_change wallet change exit)⟩
    · exact ⟨log, group, { stands with foundGroup := by simp [same, stands.foundGroup] }, noExit⟩
  | rotated => exact ⟨log, group, { stands with }, noExit⟩
  | social => exact ⟨log, group, { stands with }, noExit⟩
  | paid groupId uuid admitting held result call coin effects transfers foundGroup foundLog
      isSender asked admitted returned =>
    obtain ⟨sameGroup, entries⟩ := EntryChange.of_perform returned
    by_cases other : logUuid = uuid
    · subst other
      obtain rfl : log = held := Option.some.inj (stands.foundLog.symm.trans foundLog)
      refine ⟨result, group, ⟨by simp, ?_, stands.unclaimed, by
        rw [sameGroup]; exact stands.foundGroup⟩, noExit⟩
      cases entries with
      | opened recipient payment amount dedupeKey nonce isSend fresh counted table =>
        rw [table, OrderedMap.get_insert, if_neg]
        · exact stands.foundEscrow
        · rintro rfl
          cases fresh.symm.trans stands.foundEscrow
      | closed taken old found unclaimed counted table exit =>
        rw [table, OrderedMap.get_insert, if_neg]
        · exact stands.foundEscrow
        rintro rfl
        obtain rfl : old = escrow := Option.some.inj (found.symm.trans stands.foundEscrow)
        -- the guards were passed with the log's own group
        have isGroup : groupId = log.groupId :=
          (reachable.keyed groupId admitting foundGroup).symm.trans admitted.matching.symm
        subst isGroup
        obtain rfl : group = admitting :=
          Option.some.inj (stands.foundGroup.symm.trans foundGroup)
        exact noExit (hasExit_of_closed admitted (isSender ▸ wallet) exit)
    · exact ⟨log, group, { stands with foundLog := by simp [other, stands.foundLog] }, noExit⟩

/-- **The step lemma**: an escrow without an exit stays where it is, whoever calls. -/
theorem Locked.step (reachable : Reachable namespace_ chain) (input : Chain.Input) :
    Locked namespace_ (chain.step namespace_ input) logUuid seq escrow := by
  rcases Chain.step_cases namespace_ chain input with
    ⟨nowMs, forward, same⟩ | same | ⟨sender, call, -, wallet, returned⟩
  · rw [same]
    obtain ⟨log, group, stands, noExit⟩ := locked
    refine ⟨log, group, { stands with }, ?_⟩
    rintro ⟨active, refund | ⟨inWindow, can⟩⟩
    · exact noExit ⟨active, .inl refund⟩
    · exact noExit ⟨active, .inr ⟨le_trans forward inWindow, can⟩⟩
  · rwa [same]
  · exact locked.change reachable wallet (.of_perform returned)

theorem locked_run (reachable : Reachable namespace_ chain) (later : List Chain.Input) :
    Locked namespace_ (later.foldl (Chain.step namespace_) chain) logUuid seq escrow := by
  induction later generalizing chain with
  | nil => exact locked
  | cons input rest ih => exact ih (locked.step reachable input) (reachable.step input)

theorem Locked.not_paidOut {start : Chain} :
    ¬PaidOut start chain logUuid seq escrow := by
  obtain ⟨log, group, stands, -⟩ := locked
  rintro ⟨⟨found, isFound, spent, isSpent, claimed⟩, -⟩
  obtain rfl : log = found := Option.some.inj (stands.foundLog.symm.trans isFound)
  obtain rfl : escrow = spent := Option.some.inj (stands.foundEscrow.symm.trans isSpent)
  cases stands.unclaimed ▸ claimed

end

end Locked

/-! ## An exit can be taken -/

/-- The parties can lead the chain from one state to the other without touching the logs and
without moving a coin. -/
structure Prepares (namespace_ : Namespace) (groupId : Address) (escrow : PaidMessageEscrow)
    (before after : Chain) : Prop where
  reaches : ∃ later, Along (Chain.step namespace_) (ByParties groupId escrow) before later ∧
    later.foldl (Chain.step namespace_) before = after
  logs : after.logs = before.logs
  transfers : after.transfers = before.transfers

section Exit

variable {groupId : Address} {escrow : PaidMessageEscrow} {chain middle after : Chain}

theorem Prepares.refl (chain : Chain) : Prepares namespace_ groupId escrow chain chain :=
  ⟨⟨[], trivial, rfl⟩, rfl, rfl⟩

theorem Prepares.trans (first : Prepares namespace_ groupId escrow chain middle)
    (second : Prepares namespace_ groupId escrow middle after) :
    Prepares namespace_ groupId escrow chain after := by
  obtain ⟨earlier, alongEarlier, rfl⟩ := first.reaches
  obtain ⟨later, alongLater, rfl⟩ := second.reaches
  refine ⟨⟨earlier ++ later, ?_, List.foldl_append⟩, second.logs.trans first.logs,
    second.transfers.trans first.transfers⟩
  exact (Along.append chain earlier later).mpr ⟨alongEarlier, alongLater⟩

theorem Prepares.single (input : Chain.Input) (parties : ByParties groupId escrow chain input)
    (logs : (chain.step namespace_ input).logs = chain.logs)
    (transfers : (chain.step namespace_ input).transfers = chain.transfers) :
    Prepares namespace_ groupId escrow chain (chain.step namespace_ input) :=
  ⟨⟨[input], ⟨parties, trivial⟩, rfl⟩, logs, transfers⟩

theorem Prepares.reachable (prepares : Prepares namespace_ groupId escrow chain after)
    (reachable : Reachable namespace_ chain) : Reachable namespace_ after := by
  obtain ⟨later, -, rfl⟩ := prepares.reaches
  exact reachable_run reachable later

/-- A state of the group that the preparations lead to: what they leave alone, and what the
members keep. -/
structure Prepared (groupId : Address) (members : PermissionedGroup) (chain after : Chain)
    (group : Group) : Prop where
  found : after.groups.get groupId = some group
  active : group.members.paused = false
  keeps : ∀ who which, members.Holds who which → group.members.Holds who which
  clock : after.clock = chain.clock
  blockList : after.blockList = chain.blockList

variable {group : Group} {logUuid : String} {seq : U64}

theorem prepares_grant {admin : Address} (escrow : PaidMessageEscrow) (member : Address)
    (permission : Permission) (found : chain.groups.get groupId = some group)
    (active : group.members.paused = false) (wallet : IsWallet namespace_ admin)
    (manages : group.members.Holds admin permission.manager)
    (uncounted : permission ≠ .permissionsAdmin) :
    ∃ after result, Prepares namespace_ groupId escrow chain after ∧
      Prepared groupId group.members chain after result ∧
      result.members.Holds member permission := by
  by_cases holds : group.members.Holds member permission
  · exact ⟨chain, group, .refl chain, ⟨found, active, fun _ _ => id, rfl, rfl⟩, holds⟩
  obtain ⟨members, granted⟩ :=
    PermissionedGroup.grantPermission_returns active manages holds uncounted
  obtain ⟨-, -, -, paused, grown⟩ := PermissionedGroup.grantPermission_ok granted
  have performed : chain.perform namespace_ admin (.grantPermission groupId member permission) =
      .ok { chain with
        groups := chain.groups.insert groupId { group with members := members } } := by
    rw [Chain.perform]
    simp only [onMembers, onGroup, bind_ok, Table.borrow_ok, within_ok, pure_ok]
    exact ⟨group, found, _, ⟨members, granted, rfl⟩, rfl⟩
  have stepped : chain.step namespace_ (.call admin (.grantPermission groupId member permission)) =
      { chain with groups := chain.groups.insert groupId { group with members := members } } := by
    simp only [Chain.step, wallet, if_true, performed]
  have isAdmin : group.members.Holds admin .permissionsAdmin ∨
      group.members.Holds admin .extensionPermissionsAdmin := by
    unfold Permission.manager at manages
    split at manages
    · exact .inl manages
    · exact .inr manages
  refine ⟨_, { group with members := members }, .single
    (.call admin (.grantPermission groupId member permission))
    (.inr (.inr ⟨group, found, isAdmin⟩)) (by rw [stepped]) (by rw [stepped]), ?_,
    (grown member permission).mpr (.inr ⟨rfl, rfl⟩)⟩
  rw [stepped]
  exact ⟨by simp, paused.trans active, fun who which has => (grown who which).mpr (.inl has),
    rfl, rfl⟩

/-- **A wallet is let in.** -/
theorem prepares_canSend {who : Address} (escrow : PaidMessageEscrow)
    (found : chain.groups.get groupId = some group) (active : group.members.paused = false)
    (can : CanSend namespace_ group.members who) :
    ∃ after result, Prepares namespace_ groupId escrow chain after ∧
      Prepared groupId group.members chain after result ∧
      result.members.Holds who .messagingSender := by
  obtain ⟨-, holds | ⟨admin, wallet, isPermissionsAdmin | isExtensionAdmin⟩⟩ := can
  · exact ⟨chain, group, .refl chain, ⟨found, active, fun _ _ => id, rfl, rfl⟩, holds⟩
  · -- an admin of the core permissions first makes itself one of the others
    obtain ⟨middle, promoted, first, standing, isExtensionAdmin⟩ :=
      prepares_grant escrow admin .extensionPermissionsAdmin found active wallet
        isPermissionsAdmin (by decide)
    obtain ⟨after, result, second, standing', holds⟩ :=
      prepares_grant escrow who .messagingSender standing.found standing.active wallet
        isExtensionAdmin (by decide)
    exact ⟨after, result, first.trans second,
      ⟨standing'.found, standing'.active,
        fun who which has => standing'.keeps who which (standing.keeps who which has),
        standing'.clock.trans standing.clock, standing'.blockList.trans standing.blockList⟩, holds⟩
  · exact prepares_grant escrow who .messagingSender found active wallet isExtensionAdmin
      (by decide)

theorem step_unblock (reachable : Reachable namespace_ chain) (sender whom : Address) :
    (chain.step namespace_ (.call sender (.unblockWallet whom))).blockList =
        chain.blockList.filter (· ≠ (sender, whom)) ∧
      chain.step namespace_ (.call sender (.unblockWallet whom)) =
        { chain with
          blockList :=
            (chain.step namespace_ (.call sender (.unblockWallet whom))).blockList } := by
  by_cases wallet : IsWallet namespace_ sender
  · have stepped : chain.step namespace_ (.call sender (.unblockWallet whom)) =
        { chain with blockList := chain.blockList.filter (· ≠ (sender, whom)) } := by
      simp only [Chain.step, wallet, if_true]
      rfl
    rw [stepped]
    exact ⟨rfl, rfl⟩
  have stepped : chain.step namespace_ (.call sender (.unblockWallet whom)) = chain := by
    simp only [Chain.step, wallet, if_false]
  rw [stepped]
  refine ⟨(List.filter_eq_self.mpr ?_).symm, rfl⟩
  intro pair isPair
  simp only [decide_eq_true_eq]
  rintro rfl
  exact wallet (reachable.blockers _ isPair)

/-- **The parties take their blocks back.** -/
theorem prepares_unblock (reachable : Reachable namespace_ chain) :
    ∃ after, Prepares namespace_ groupId escrow chain after ∧
      after.groups = chain.groups ∧ after.clock = chain.clock ∧
      (escrow.payer, escrow.recipient) ∉ after.blockList ∧
      (escrow.recipient, escrow.payer) ∉ after.blockList := by
  obtain ⟨firstList, first⟩ := step_unblock reachable escrow.payer escrow.recipient
  obtain ⟨secondList, second⟩ := step_unblock
    (reachable.step (.call escrow.payer (.unblockWallet escrow.recipient)))
    escrow.recipient escrow.payer
  refine ⟨_, (Prepares.single (.call escrow.payer (.unblockWallet escrow.recipient))
      (.inl rfl) (by rw [first]) (by rw [first])).trans
    (.single (.call escrow.recipient (.unblockWallet escrow.payer))
      (.inr (.inl rfl)) (by rw [second]) (by rw [second])),
    by rw [second, first], by rw [second, first], ?_, ?_⟩
  · rw [secondList, firstList]
    simp
  · rw [secondList]
    simp

theorem prepares_caller (reachable : Reachable namespace_ chain) {log : MessageLog}
    {caller : Address} (stands : Stands chain logUuid seq log escrow group)
    (active : group.members.paused = false) (can : CanSend namespace_ group.members caller) :
    ∃ after result, Prepares namespace_ log.groupId escrow chain after ∧
      Stands after logUuid seq log escrow result ∧ after.clock = chain.clock ∧
      result.members.paused = false ∧ result.members.Holds caller .messagingSender ∧
      (escrow.payer, escrow.recipient) ∉ after.blockList ∧
      (escrow.recipient, escrow.payer) ∉ after.blockList := by
  obtain ⟨middle, result, first, prepared, holds⟩ :=
    prepares_canSend escrow stands.foundGroup active can
  obtain ⟨after, second, groups, clock, forward, backward⟩ :=
    prepares_unblock (first.reachable reachable)
  refine ⟨after, result, first.trans second, ⟨?_, stands.foundEscrow, stands.unclaimed, ?_⟩,
    clock.trans prepared.clock, prepared.active, holds, forward, backward⟩
  · rw [second.logs, first.logs]
    exact stands.foundLog
  · rw [groups]
    exact prepared.found

/-- A payout on top of the preparations. -/
theorem payable_of_step (input : Chain.Input)
    (prepares : Prepares namespace_ groupId escrow chain middle)
    (parties : ByParties groupId escrow middle input)
    (pays : PaidOut middle (middle.step namespace_ input) logUuid seq escrow) :
    ∃ later, Along (Chain.step namespace_) (ByParties groupId escrow) chain later ∧
      PaidOut chain (later.foldl (Chain.step namespace_) chain) logUuid seq escrow := by
  obtain ⟨earlier, along, rfl⟩ := prepares.reaches
  refine ⟨earlier ++ [input], (Along.append _ _ _).mpr ⟨along, parties, trivial⟩, ?_⟩
  rw [List.foldl_append]
  obtain ⟨claimed, transfers, moved, paid⟩ := pays
  refine ⟨claimed, transfers, ?_, paid⟩
  rw [← prepares.transfers]
  exact moved

variable {logUuid : String} {seq : U64} {log : MessageLog} {group : Group}

theorem paidMessageParties_of_found (found : log.paidMsgEscrow.get seq = some escrow) :
    log.paidMessageParties seq = .ok (escrow.payer, escrow.recipient) := by
  simp only [MessageLog.paidMessageParties, bind_ok, Table.borrow_ok, pure_ok]
  exact ⟨escrow, found, rfl⟩

section

variable (reachable : Reachable namespace_ chain)
include reachable

theorem refund_pays (stands : Stands chain logUuid seq log escrow group)
    (active : group.members.paused = false)
    (permitted : group.members.Holds escrow.payer .messagingSender)
    (forward : (escrow.payer, escrow.recipient) ∉ chain.blockList)
    (backward : (escrow.recipient, escrow.payer) ∉ chain.blockList)
    (expired : windowEnd escrow ≤ chain.clock.toNat) :
    PaidOut chain
      (chain.step namespace_ (.call escrow.payer (.refundPaidEscrow log.groupId logUuid seq)))
      logUuid seq escrow := by
  have wallet := (reachable.backed _ _ stands.foundLog).payer seq escrow stands.foundEscrow
  have backed := (reachable.backed _ _ stands.foundLog).balance seq escrow stands.foundEscrow
    stands.unclaimed
  have matching := (reachable.keyed _ _ stands.foundGroup).symm
  obtain ⟨effects, transfers, refunded⟩ :=
    MessageLog.refundPaidMessage_returns stands.foundEscrow stands.unclaimed expired
  have performed : ∃ after, chain.perform namespace_ escrow.payer
        (.refundPaidEscrow log.groupId logUuid seq) = .ok after ∧
      after.logs = chain.logs.insert logUuid
        { log with paidMsgEscrow := log.paidMsgEscrow.insert seq escrow.spent } ∧
      after.transfers = chain.transfers ++ effects.transfers := by
    simp only [Chain.perform, onLog, refundPaidEscrow, bind_ok, Table.borrow_ok, within_ok, pure_ok]
    exact ⟨_, ⟨group, stands.foundGroup, log, stands.foundLog, _,
      ⟨_, ⟨⟨⟩, assertPaidAccess_ok.mpr ⟨reachable.version, active, matching, permitted⟩, _,
        paidMessageParties_of_found stands.foundEscrow, ⟨⟩,
        assertThat_ok.mpr ⟨forward, backward⟩, refunded⟩, rfl⟩, rfl⟩, rfl,
      by simp⟩
  obtain ⟨after, returned, logs, moved⟩ := performed
  have stepped : chain.step namespace_
      (.call escrow.payer (.refundPaidEscrow log.groupId logUuid seq)) = after := by
    simp only [Chain.step, wallet, if_true, returned]
  rw [stepped]
  refine ⟨⟨_, by rw [logs, OrderedMap.get_insert, if_pos rfl]; rfl, escrow.spent, by simp, rfl⟩,
    effects.transfers, moved, .inl ?_⟩
  rw [transfers, backed]
  exact List.mem_singleton.mpr rfl

theorem claim_pays (stands : Stands chain logUuid seq log escrow group)
    (positive : 0 < escrow.amount.toNat) (active : group.members.paused = false)
    (wallet : IsWallet namespace_ escrow.recipient)
    (permitted : group.members.Holds escrow.recipient .messagingSender)
    (forward : (escrow.payer, escrow.recipient) ∉ chain.blockList)
    (backward : (escrow.recipient, escrow.payer) ∉ chain.blockList)
    (inWindow : chain.clock.toNat ≤ windowEnd escrow) :
    ∃ dedupeKey nonce, PaidOut chain
      (chain.step namespace_ (.call escrow.recipient
        (.replyToPaidMessageClaimCoin log.groupId logUuid seq 6 dedupeKey nonce)))
      logUuid seq escrow := by
  have matching := (reachable.keyed _ _ stands.foundGroup).symm
  have entries := reachable.backed _ _ stands.foundLog
  have backed := entries.balance seq escrow stands.foundEscrow stands.unclaimed
  obtain ⟨dedupeKey, short, freshKey⟩ := (reachable.room _ _ stands.foundLog).exists_key
  obtain ⟨nonce, freshNonce⟩ := (reachable.room _ _ stands.foundLog).exists_nonce escrow.recipient
  refine ⟨dedupeKey, nonce, ?_⟩
  obtain ⟨result, effects, transfers, table, claimed⟩ :=
    MessageLog.replyToPaidMessageClaimCoin_returns stands.foundEscrow stands.unclaimed
      (entries.dated seq escrow stands.foundEscrow) inWindow
      (show minReplyChars ≤ (6 : U32).toNat by decide) (backed ▸ positive) short freshKey
      freshNonce
  have unblocked : assertPaidPartiesNotBlocked chain.blockList escrow.recipient log seq =
      .ok ⟨⟩ := by
    simp only [assertPaidPartiesNotBlocked, paidMessageParties_of_found stands.foundEscrow, within,
      ok_bind]
    split
    · exact assertThat_ok.mpr ⟨by simp_all, by simp_all⟩
    · exact assertThat_ok.mpr ⟨backward, forward⟩
  have performed : ∃ after, chain.perform namespace_ escrow.recipient
        (.replyToPaidMessageClaimCoin log.groupId logUuid seq 6 dedupeKey nonce) = .ok after ∧
      after.logs = chain.logs.insert logUuid result ∧
      after.transfers = chain.transfers ++ [⟨escrow.recipient, escrow.escrowedBalance⟩] := by
    simp only [Chain.perform, onLog, replyToPaidMessageClaimCoin, bind_ok, Table.borrow_ok,
      within_ok, pure_ok]
    exact ⟨_, ⟨group, stands.foundGroup, log, stands.foundLog, _,
      ⟨_, ⟨⟨⟩, assertPaidAccess_ok.mpr ⟨reachable.version, active, matching, permitted⟩, ⟨⟩,
        unblocked, claimed⟩, rfl⟩, rfl⟩, rfl, by simp [transfers]⟩
  obtain ⟨after, returned, logs, moved⟩ := performed
  have stepped : chain.step namespace_ (.call escrow.recipient
      (.replyToPaidMessageClaimCoin log.groupId logUuid seq 6 dedupeKey nonce)) = after := by
    simp only [Chain.step, wallet, if_true, returned]
  rw [stepped]
  refine ⟨⟨result, by rw [logs, OrderedMap.get_insert, if_pos rfl]; rfl, escrow.spent, ?_, rfl⟩,
    _, moved, .inr ?_⟩
  · rw [table]
    simp [PaidMessageEscrow.spent]
  · rw [backed]
    exact List.mem_singleton.mpr rfl

theorem payable_of_hasExit (stands : Stands chain logUuid seq log escrow group)
    (positive : 0 < escrow.amount.toNat)
    (exit : HasExit namespace_ chain.clock group.members escrow) :
    ∃ later, Along (Chain.step namespace_) (ByParties log.groupId escrow) chain later ∧
      PaidOut chain (later.foldl (Chain.step namespace_) chain) logUuid seq escrow := by
  obtain ⟨active, ⟨bounded, can⟩ | ⟨inWindow, can⟩⟩ := exit
  · obtain ⟨middle, result, first, standing, -, isActive, permitted, forward, backward⟩ :=
      prepares_caller reachable stands active can
    -- let the clock pass the end of the window
    obtain ⟨nowMs, forth, expired⟩ : ∃ nowMs : U64, middle.clock.toNat ≤ nowMs.toNat ∧
        windowEnd escrow ≤ nowMs.toNat := by
      by_cases late : windowEnd escrow ≤ middle.clock.toNat
      · exact ⟨middle.clock, le_refl _, late⟩
      refine ⟨BitVec.ofNatLT (windowEnd escrow) bounded, ?_, ?_⟩
      · rw [BitVec.toNat_ofNatLT]
        omega
      · rw [BitVec.toNat_ofNatLT]
    have ticked : middle.step namespace_ (.tick nowMs) = { middle with clock := nowMs } := by
      simp only [Chain.step, forth, if_true]
    have second : Prepares namespace_ log.groupId escrow middle { middle with clock := nowMs } := by
      rw [← ticked]
      exact .single (.tick nowMs) trivial (by rw [ticked]) (by rw [ticked])
    exact payable_of_step
      (.call escrow.payer (.refundPaidEscrow log.groupId logUuid seq))
      (first.trans second) (.inl rfl)
      (refund_pays ((first.trans second).reachable reachable) { standing with } isActive permitted
        forward backward expired)
  obtain ⟨middle, result, first, standing, clock, isActive, permitted, forward, backward⟩ :=
    prepares_caller reachable stands active can
  obtain ⟨dedupeKey, nonce, pays⟩ := claim_pays (first.reachable reachable) standing positive
    isActive can.1 permitted forward backward (by rw [clock]; exact inWindow)
  exact payable_of_step
    (.call escrow.recipient
      (.replyToPaidMessageClaimCoin log.groupId logUuid seq 6 dedupeKey nonce))
    first (.inr (.inl rfl)) pays

end

end Exit

/-! ## When an escrow can be paid out -/

/-- **An escrow can be paid out exactly when it has an exit.**  In every reachable state of
the chain and for every unclaimed escrow with a positive amount there are later calls of
the payer, the recipient and the admins of the group, with the clock advancing, that pay
it out, if and only if the group is not archived and its payer can be in the group when
the window has passed, or its recipient while the window is open. -/
theorem payable_iff_hasExit (namespace_ : Namespace) (inputs : List Chain.Input)
    (logUuid : String) (seq : U64) (log : MessageLog) (escrow : PaidMessageEscrow)
    (foundLog : (reached namespace_ inputs).logs.get logUuid = some log)
    (foundEscrow : log.paidMsgEscrow.get seq = some escrow)
    (unclaimed : escrow.claimed = false)
    (positive : 0 < escrow.amount.toNat) :
    ∃ group, (reached namespace_ inputs).groups.get log.groupId = some group ∧
      ((∃ later, Along (Chain.step namespace_) (ByParties log.groupId escrow)
          (reached namespace_ inputs) later ∧
        PaidOut (reached namespace_ inputs)
          (later.foldl (Chain.step namespace_) (reached namespace_ inputs)) logUuid seq escrow) ↔
        HasExit namespace_ (reached namespace_ inputs).clock group.members escrow) := by
  have reachable := reachable_reached namespace_ inputs
  obtain ⟨group, foundGroup⟩ := reachable.owned logUuid log foundLog
  have stands : Stands (reached namespace_ inputs) logUuid seq log escrow group :=
    ⟨foundLog, foundEscrow, unclaimed, foundGroup⟩
  refine ⟨group, foundGroup, ?_, payable_of_hasExit reachable stands positive⟩
  rintro ⟨later, -, paidOut⟩
  by_contra noExit
  exact (locked_run ⟨log, group, stands, noExit⟩ reachable later).not_paidOut paidOut

/-! ### A payment to Bob -/

/-- Alice opens a conversation with Bob and pays him five coins. -/
def paymentInputs : List Chain.Input :=
  [.call 1 (.createAndShareGroup { owner := 1, agents := [] } "dm" "u" [] [1, 2]),
    .call 1 (.sendPaidMessageDigest 1001 "u" 2 5 5 [7] 1)]

/-- Alice archives the conversation. -/
def archivedInputs : List Chain.Input := paymentInputs ++ [.call 1 (.archiveGroup 1001)]

/-- The escrow of Alice's payment. -/
def sampleEscrow : PaidMessageEscrow where
  payer := 1
  recipient := 2
  amount := 5
  escrowedBalance := 5
  createdAtMs := 0
  claimed := false

/-- Alice's payment can be paid out: she is in the group and can wait for the window to
end. -/
theorem payable_of_paymentInputs :
    ∃ log, (reached sampleNamespace paymentInputs).logs.get "u" = some log ∧
      log.paidMsgEscrow.get 0 = some sampleEscrow ∧
      ∃ later, Along (Chain.step sampleNamespace) (ByParties log.groupId sampleEscrow)
          (reached sampleNamespace paymentInputs) later ∧
        PaidOut (reached sampleNamespace paymentInputs)
          (later.foldl (Chain.step sampleNamespace) (reached sampleNamespace paymentInputs))
          "u" 0 sampleEscrow := by
  have run : (∃ log ∈ (reached sampleNamespace paymentInputs).logs.get "u",
        log.paidMsgEscrow.get 0 = some sampleEscrow ∧ log.groupId = 1001) ∧
      ∃ group ∈ (reached sampleNamespace paymentInputs).groups.get 1001,
        group.members.paused = false ∧ group.members.Holds 1 .messagingSender := by
    decide +kernel
  obtain ⟨⟨log, foundLog, foundEscrow, isGroup⟩, group, foundGroup, active, permitted⟩ := run
  obtain ⟨owner, isOwner, payable⟩ := payable_iff_hasExit sampleNamespace paymentInputs "u" 0 log
    sampleEscrow foundLog foundEscrow rfl (by decide)
  rw [isGroup] at isOwner
  obtain rfl : group = owner := Option.some.inj (foundGroup.symm.trans isOwner)
  exact ⟨log, foundLog, foundEscrow,
    payable.mpr ⟨active, .inl ⟨by decide, by decide, .inl permitted⟩⟩⟩

/-- **Archiving locks the escrow**: after Alice has archived the conversation, her five coins
are still unclaimed, and no later calls of anybody, whenever made, pay them out. -/
theorem archive_locks_escrow :
    ∃ log, (reached sampleNamespace archivedInputs).logs.get "u" = some log ∧
      log.paidMsgEscrow.get 0 = some sampleEscrow ∧ sampleEscrow.claimed = false ∧
      0 < sampleEscrow.amount.toNat ∧
      ∀ later : List Chain.Input, ¬PaidOut (reached sampleNamespace archivedInputs)
        (later.foldl (Chain.step sampleNamespace) (reached sampleNamespace archivedInputs))
        "u" 0 sampleEscrow := by
  have run : (∃ log ∈ (reached sampleNamespace archivedInputs).logs.get "u",
        log.paidMsgEscrow.get 0 = some sampleEscrow ∧ log.groupId = 1001) ∧
      ∃ group ∈ (reached sampleNamespace archivedInputs).groups.get 1001,
        group.members.paused = true := by
    decide +kernel
  obtain ⟨⟨log, foundLog, foundEscrow, isGroup⟩, group, foundGroup, archived⟩ := run
  refine ⟨log, foundLog, foundEscrow, rfl, by decide, fun later => ?_⟩
  have stands : Stands (reached sampleNamespace archivedInputs) "u" 0 log sampleEscrow group :=
    ⟨foundLog, foundEscrow, rfl, by rw [isGroup]; exact foundGroup⟩
  have noExit : ¬HasExit sampleNamespace (reached sampleNamespace archivedInputs).clock
      group.members sampleEscrow := by
    rintro ⟨active, -⟩
    cases archived ▸ active
  exact (locked_run ⟨log, group, stands, noExit⟩
    (reachable_reached sampleNamespace archivedInputs) later).not_paidOut

end MessagingStack.Contract.EscrowExit

import MessagingStack.Contract.Chain
import MessagingStack.Relayer.DmGate

/-!
# What a paid escrow proves to the relayer

The paid-DM gate of the relayer (`handlers/dm_gate.rs`) takes an escrow of the sender's to the
recipient, of whatever amount: it relies on the contract for the minimum, and the contract checks
that of the recipient the sender names, for the first escrow of a direct message only.  This module
puts the chain, the relayer and membership sync together: under `PaysMinimum` an escrow the gate
accepts stands for one that met the minimum (`gate_paid_minimum`).
-/

namespace MessagingStack.Relayer.PaidOpening

open Contract

/-! ## The chain, the relayer, and the events between them -/

/-- An escrow that was opened, with what the recipient's policy required then. -/
structure Opening where
  groupId : Address
  seq : U64
  payer : Address
  recipient : Address
  amount : U64
  required : Option U64
  deriving DecidableEq

/-- The amount is at least the minimum, where there is one. -/
def Covers (required : Option U64) (amount : U64) : Prop :=
  match required with
  | none => True
  | some minCost => minCost.toNat ≤ amount.toNat

instance (required : Option U64) (amount : U64) : Decidable (Covers required amount) :=
  match required with
  | none => .isTrue trivial
  | some minCost => inferInstanceAs (Decidable (minCost.toNat ≤ amount.toNat))

/-- The state of both sides. -/
structure World where
  chain : Chain
  openings : List Opening
  relayer : CommitLog.State

def formatAddress (address : Address) : String := "0x" ++ hexOfAddress address

/-- `i64::try_from(value).unwrap_or(i64::MAX)`. -/
def toI64 (value : U64) : Int := min value.toNat (2 ^ 63 - 1)

/-- The record membership sync makes of an event. -/
def recordOf : MessageLogEvent → Option PaidEscrowRecord
  | .paidMessageSent groupId seq payer recipient amount createdAtMs =>
    some
      { groupId := formatAddress groupId, seq := toI64 seq, payer := formatAddress payer,
        recipient := formatAddress recipient, amount := toI64 amount,
        createdAtMs := toI64 createdAtMs }
  | _ => none

/-- The opening an event announces, under the policies in force. -/
def openingOf (policies : OrderedMap Address PaidMessagingPolicy) :
    MessageLogEvent → Option Opening
  | .paidMessageSent groupId seq payer recipient amount _ =>
    some
      { groupId, seq, payer, recipient, amount, required := requiresPaymentFrom policies recipient }
  | _ => none

/-- What happens. -/
inductive Input where
  /-- A transaction, or time passes on the chain. -/
  | chain (input : Chain.Input)
  /-- Membership sync reads the event with the number. -/
  | ingest (index : Nat)
  /-- A request to the relayer, or one of its background writes. -/
  | relayer (input : CommitLog.Input)

def step (namespace_ : Namespace) (crates : Crates) (world : World) : Input → World
  | .chain input =>
    let after := world.chain.step namespace_ input
    { world with
      chain := after
      openings := world.openings ++
        (after.events.drop world.chain.events.length).filterMap (openingOf world.chain.policies) }
  | .ingest index =>
    match world.chain.events[index]?.bind recordOf with
    | some record =>
      { world with
        relayer := DmGate.step crates world.relayer (.recordPaidEscrow record) }
    | none => world
  | .relayer input => { world with relayer := CommitLog.step crates world.relayer input }

/-- A new package and a new relayer. -/
def start : World where
  chain := .genesis
  openings := []
  relayer := CommitLog.start

/-- The state a run reaches. -/
def reached (namespace_ : Namespace) (crates : Crates) (inputs : List Input) : World :=
  inputs.foldl (step namespace_ crates) start

/-! ## The condition -/

/-- The log has an escrow between the two wallets. -/
def HasEscrow (log : MessageLog) (payer recipient : Address) : Prop :=
  ∃ entry ∈ log.paidMsgEscrow.entries, entry.2.payer = payer ∧ entry.2.recipient = recipient

instance (log : MessageLog) (payer recipient : Address) :
    Decidable (HasEscrow log payer recipient) :=
  inferInstanceAs (Decidable (∃ entry ∈ log.paidMsgEscrow.entries, _))

/-- The escrow is held to the minimum: the contract checks it, being the first of a
direct-message log; or the amount meets it; or the log has an escrow between the two
already. -/
def HeldToMinimum (chain : Chain) (groupId : Address) (logUuid : String)
    (sender recipient : Address) (escrowAmount : U64) : Prop :=
  (∃ group ∈ chain.groups.get groupId, ∃ log ∈ chain.logs.get logUuid,
    group.IsDirect ∧ log.nextSeq = 0) ∨
  Covers (requiresPaymentFrom chain.policies recipient) escrowAmount ∨
  ∃ log ∈ chain.logs.get logUuid, HasEscrow log sender recipient

instance (chain : Chain) (groupId : Address) (logUuid : String) (sender recipient : Address)
    (escrowAmount : U64) :
    Decidable (HeldToMinimum chain groupId logUuid sender recipient escrowAmount) :=
  inferInstanceAs (Decidable (_ ∨ _ ∨ _))

/-- Every call that opens an escrow and returns is held to the minimum. -/
def PaysMinimum (namespace_ : Namespace) (world : World) : Input → Prop
  | .chain (.call sender request) =>
    ∀ opening ∈ request.opens, (world.chain.perform namespace_ sender request).isOk = true →
      HeldToMinimum world.chain opening.1 opening.2.1 sender opening.2.2.1 opening.2.2.2
  | _ => True

instance (namespace_ : Namespace) (world : World) :
    (input : Input) → Decidable (PaysMinimum namespace_ world input)
  | .chain (.call _ _) => inferInstanceAs (Decidable (∀ _ ∈ _, _))
  | .chain (.tick _) | .ingest _ | .relayer _ => .isTrue trivial

/-! ## The invariant -/

def Opening.Between (opening : Opening) (groupId payer recipient : Address) : Prop :=
  opening.groupId = groupId ∧ opening.payer = payer ∧ opening.recipient = recipient

/-- **What holds at every point of a run that pays the minimum.** -/
structure Sound (world : World) : Prop where
  opened : ∀ logUuid log seq escrow, world.chain.logs.get logUuid = some log →
    log.paidMsgEscrow.get seq = some escrow →
    ∃ opening ∈ world.openings, opening.Between log.groupId escrow.payer escrow.recipient
  escrowed : ∀ opening ∈ world.openings, ∃ logUuid log escrow,
    world.chain.logs.get logUuid = some log ∧ log.groupId = opening.groupId ∧
    log.paidMsgEscrow.get opening.seq = some escrow ∧ escrow.payer = opening.payer ∧
    escrow.recipient = opening.recipient ∧ escrow.amount = opening.amount
  /-- and between the same wallets in the same group one met the minimum. -/
  covered : ∀ opening ∈ world.openings, ∃ first ∈ world.openings,
    first.Between opening.groupId opening.payer opening.recipient ∧
      Covers first.required first.amount
  /-- Every event was an opening, -/
  announced : ∀ groupId seq payer recipient amount createdAtMs,
    .paidMessageSent groupId seq payer recipient amount createdAtMs ∈ world.chain.events →
    ∃ opening ∈ world.openings, opening.Between groupId payer recipient
  recorded : ∀ record ∈ world.relayer.app.storage.paidEscrows, ∃ opening ∈ world.openings,
    formatAddress opening.groupId = record.groupId ∧ formatAddress opening.payer = record.payer ∧
      formatAddress opening.recipient = record.recipient

/-! ### The relayer's own steps -/

section Store

variable (storage : InMemoryStorage)

theorem paidEscrows_createMessage (message : Message) :
    (storage.createMessage message).2.paidEscrows = storage.paidEscrows := by
  rcases storage.createMessage_cases message with ⟨reason, same | consumed⟩ | ⟨-, -, stored⟩
  · rw [same]
  · rw [consumed]
    rfl
  · rw [stored]
    rfl

theorem paidEscrows_changeRow (id : Uuid) (change : Message → Message) :
    (storage.changeRow id change).2.paidEscrows = storage.paidEscrows := by
  unfold InMemoryStorage.changeRow
  split <;> rfl

theorem paidEscrows_updateMessage (now : Timestamp) (id : Uuid) (encryptedMsg nonce : Bytes)
    (keyVersion : Int) (attachments : List Attachment) (signature : Bytes)
    (signatureVersion : Int) (publicKey : Bytes) :
    (storage.updateMessage now id encryptedMsg nonce keyVersion attachments signature
      signatureVersion publicKey).2.paidEscrows = storage.paidEscrows := by
  unfold InMemoryStorage.updateMessage
  repeat' split
  all_goals rfl

theorem paidEscrows_updateMessageMetadataTrusted (now : Timestamp) (id : Uuid) (patch : Json)
    (allowedFromStatus : List String) :
    (storage.updateMessageMetadataTrusted now id patch allowedFromStatus).2.paidEscrows =
      storage.paidEscrows := by
  unfold InMemoryStorage.updateMessageMetadataTrusted
  repeat' split
  all_goals rfl

end Store

theorem paidEscrows_storeMessage (crates : Crates) (services : Services)
    (req : CreateMessageRequest) (prepared : PreparedMessage) (app : AppState)
    (message : Message) (transfer : Option TokenTransferCreate) :
    (storeMessage crates services req prepared message transfer app).2.storage.paidEscrows =
      app.storage.paidEscrows := by
  have created := paidEscrows_createMessage app.storage message
  rcases CommitLog.storage_storeMessage crates services req prepared app message transfer with
    same | ⟨requestId, id, digest, marked⟩
  · rw [same, created]
  · rw [marked]
    exact (paidEscrows_updateMessageMetadataTrusted _ _ _ _ _).trans created

theorem paidEscrows_step (crates : Crates) (state : CommitLog.State) (input : CommitLog.Input) :
    (CommitLog.step crates state input).app.storage.paidEscrows =
      state.app.storage.paidEscrows := by
  cases input with
  | begin auth req =>
    have storage := Archive.beginMessage_storage crates req state.app
    simp only [CommitLog.step]
    rcases began : beginMessage crates req state.app with ⟨outcome, app⟩
    rw [began] at storage
    cases outcome <;> exact congrArg InMemoryStorage.paidEscrows storage
  | finish index services =>
    simp only [CommitLog.step]
    cases found : state.inFlight[index]? with
    | none => rfl
    | some pending =>
      dsimp only
      rcases CommitLog.finishMessage_cases crates services pending.auth pending.req
        pending.prepared state.app with ⟨reason, failed⟩ | ⟨signature, transfer, peer, stored, -⟩
      · rw [failed]
      · rw [stored]
        exact paidEscrows_storeMessage ..
  | abort | membership | poison => rfl
  | put now auth req =>
    simp only [CommitLog.step, updateMessage]
    split
    · rfl
    next encryptedMsg nonce attachments signature _ =>
    have same := paidEscrows_updateMessage state.app.storage now req.messageId encryptedMsg
      nonce req.keyVersion attachments signature req.signatureVersion auth.storedPublicKey
    split <;> next ran =>
      rw [ran] at same
      exact same
  | delete now auth id =>
    simp only [CommitLog.step, deleteMessage]
    split
    · rfl
    have same := paidEscrows_changeRow state.app.storage id (·.markForDeletion now)
    split <;> next ran =>
      rw [InMemoryStorage.deleteMessage] at ran
      rw [ran] at same
      exact same
  | system => exact paidEscrows_createMessage ..
  | archive => exact paidEscrows_changeRow ..
  | payment => exact paidEscrows_updateMessageMetadataTrusted ..

/-! ### The chain's steps -/

section Entries

variable {nowMs : U64} {call : PaidCall} {log after : MessageLog}
  {events : List MessageLogEvent} {seq : U64} {escrow : PaidMessageEscrow}

theorem EntryChange.keeps (change : EntryChange nowMs call log after events)
    (found : log.paidMsgEscrow.get seq = some escrow) :
    ∃ kept, after.paidMsgEscrow.get seq = some kept ∧ kept.payer = escrow.payer ∧
      kept.recipient = escrow.recipient ∧ kept.amount = escrow.amount := by
  cases change with
  | opened recipient payment amount dedupeKey nonce isSend fresh counted table =>
    refine ⟨escrow, ?_, rfl, rfl, rfl⟩
    have other : seq ≠ log.nextSeq := by
      rintro rfl
      cases fresh.symm.trans found
    rw [table, OrderedMap.get_insert, if_neg other, found]
  | closed taken old isOld unclaimed counted table =>
    by_cases same : seq = taken
    · subst same
      obtain rfl : old = escrow := Option.some.inj (isOld.symm.trans found)
      exact ⟨old.spent, by rw [table]; simp, rfl, rfl, rfl⟩
    · exact ⟨escrow, by rw [table, OrderedMap.get_insert, if_neg same, found], rfl, rfl, rfl⟩

theorem EntryChange.origin (change : EntryChange nowMs call log after events)
    (found : after.paidMsgEscrow.get seq = some escrow) :
    (∃ old, log.paidMsgEscrow.get seq = some old ∧ old.payer = escrow.payer ∧
      old.recipient = escrow.recipient) ∨
    ∃ amount, events = [.paidMessageSent log.groupId log.nextSeq escrow.payer escrow.recipient
      amount nowMs] := by
  cases change with
  | opened recipient payment amount dedupeKey nonce isSend fresh counted table emitted =>
    rw [table, OrderedMap.get_insert] at found
    split at found
    · cases found
      exact .inr ⟨amount, emitted⟩
    · exact .inl ⟨escrow, found, rfl, rfl⟩
  | closed taken old isOld unclaimed counted table =>
    rw [table, OrderedMap.get_insert] at found
    split at found
    · next same =>
      cases found
      exact .inl ⟨old, by rw [same]; exact isOld, rfl, rfl⟩
    · exact .inl ⟨escrow, found, rfl, rfl⟩

end Entries

theorem openingOf_eq_none {policies : OrderedMap Address PaidMessagingPolicy}
    {event : MessageLogEvent}
    (silent : event.isSent = false) : openingOf policies event = none := by
  cases event <;> first | rfl | cases silent

theorem filterMap_openingOf_silent {policies : OrderedMap Address PaidMessagingPolicy}
    {events : List MessageLogEvent} (silent : ∀ event ∈ events, event.isSent = false) :
    events.filterMap (openingOf policies) = [] :=
  List.filterMap_eq_nil_iff.mpr fun event isEvent => openingOf_eq_none (silent event isEvent)

variable {namespace_ : Namespace} {world : World}

/-- **An escrow that is held to the minimum is covered**, by itself or by an earlier one. -/
theorem Sound.covers_of_heldToMinimum (sound : Sound world) {groupId : Address}
    {logUuid : String} {group : Group} {log : MessageLog} {call : PaidCall}
    {recipient : Address} {payment amount : U64} {dedupeKey : List UInt8} {nonce : U128}
    (foundGroup : world.chain.groups.get groupId = some group)
    (foundLog : world.chain.logs.get logUuid = some log)
    (isSend : call = .sendPaidMessage call.sender recipient payment amount dedupeKey nonce)
    (admitted : Admitted world.chain group log call)
    (held : HeldToMinimum world.chain groupId logUuid call.sender recipient amount) :
    Covers (requiresPaymentFrom world.chain.policies recipient) amount ∨
      ∃ first ∈ world.openings, first.Between log.groupId call.sender recipient ∧
        Covers first.required first.amount := by
  rcases held with ⟨found, isFound, same, isSame, direct, first⟩ | covers |
    ⟨same, isSame, entry, isEntry, payer, isRecipient⟩
  · obtain rfl : found = group := Option.some.inj (isFound.symm.trans foundGroup)
    obtain rfl : same = log := Option.some.inj (isSame.symm.trans foundLog)
    left
    unfold Covers
    split
    · trivial
    · next minCost required =>
      exact admitted.opening _ _ _ _ _ _ isSend direct first minCost required
  · exact .inl covers
  obtain rfl : same = log := Option.some.inj (isSame.symm.trans foundLog)
  obtain ⟨opening, isOpening, sameGroup, samePayer, sameRecipient⟩ :=
    sound.opened logUuid same entry.1 entry.2 foundLog (OrderedMap.get_of_mem_entries _ isEntry)
  obtain ⟨first, isFirst, ⟨firstGroup, firstPayer, firstRecipient⟩, covers⟩ :=
    sound.covered opening isOpening
  refine .inr ⟨first, isFirst, ⟨firstGroup.trans sameGroup,
    firstPayer.trans (samePayer.trans payer),
    firstRecipient.trans (sameRecipient.trans isRecipient)⟩, covers⟩

theorem Sound.of_quiet (sound : Sound world) {after : Chain} (added : List MessageLogEvent)
    (events : after.events = world.chain.events ++ added)
    (silent : ∀ event ∈ added, event.isSent = false)
    (opened : ∀ logUuid log seq escrow, after.logs.get logUuid = some log →
      log.paidMsgEscrow.get seq = some escrow →
      ∃ opening ∈ world.openings, opening.Between log.groupId escrow.payer escrow.recipient)
    (escrowed : ∀ opening ∈ world.openings, ∃ logUuid log escrow,
      after.logs.get logUuid = some log ∧ log.groupId = opening.groupId ∧
      log.paidMsgEscrow.get opening.seq = some escrow ∧ escrow.payer = opening.payer ∧
      escrow.recipient = opening.recipient ∧ escrow.amount = opening.amount) :
    Sound { world with
      chain := after
      openings := world.openings ++
        (after.events.drop world.chain.events.length).filterMap
          (openingOf world.chain.policies) } := by
  have same : world.openings ++ (after.events.drop world.chain.events.length).filterMap
      (openingOf world.chain.policies) = world.openings := by
    rw [events, List.drop_left, filterMap_openingOf_silent silent, List.append_nil]
  rw [same]
  refine ⟨opened, escrowed, sound.covered, ?_, sound.recorded⟩
  intro groupId seq payer recipient amount createdAtMs isEvent
  rw [events] at isEvent
  rcases List.mem_append.mp isEvent with isOld | isNew
  · exact sound.announced groupId seq payer recipient amount createdAtMs isOld
  · cases silent _ isNew

theorem Sound.of_same (sound : Sound world) {after : Chain} (logs : after.logs = world.chain.logs)
    (events : after.events = world.chain.events) :
    Sound { world with
      chain := after
      openings := world.openings ++
        (after.events.drop world.chain.events.length).filterMap
          (openingOf world.chain.policies) } := by
  refine sound.of_quiet [] (by rw [events, List.append_nil]) (by simp) ?_ ?_
  · rw [logs]
    exact sound.opened
  · rw [logs]
    exact sound.escrowed

theorem Sound.paid (sound : Sound world) {groupId : Address} {logUuid : String} {group : Group}
    {log result : MessageLog} {call : PaidCall} {coin : U64} {effects : Effects}
    {transfers : List Transfer}
    (foundGroup : world.chain.groups.get groupId = some group)
    (foundLog : world.chain.logs.get logUuid = some log)
    (admitted : Admitted world.chain group log call)
    (returned : log.perform world.chain.clock call = .ok (result, coin, effects))
    (held : ∀ recipient amount, call.opens = some (recipient, amount) →
      HeldToMinimum world.chain groupId logUuid call.sender recipient amount)
    {after : Chain}
    (isAfter : after = { world.chain with
      logs := world.chain.logs.insert logUuid result
      events := world.chain.events ++ effects.events
      transfers := world.chain.transfers ++ transfers }) :
    Sound { world with
      chain := after
      openings := world.openings ++
        (after.events.drop world.chain.events.length).filterMap
          (openingOf world.chain.policies) } := by
  subst isAfter
  obtain ⟨sameGroup, change⟩ := EntryChange.of_perform returned
  -- every opening keeps its escrow
  have kept : ∀ opening ∈ world.openings, ∃ uuid found escrow,
      (world.chain.logs.insert logUuid result).get uuid = some found ∧
      found.groupId = opening.groupId ∧
      found.paidMsgEscrow.get opening.seq = some escrow ∧ escrow.payer = opening.payer ∧
      escrow.recipient = opening.recipient ∧ escrow.amount = opening.amount := by
    intro opening isOpening
    obtain ⟨uuid, found, escrow, isFound, isGroup, isEscrow, payer, recipient, amount⟩ :=
      sound.escrowed opening isOpening
    by_cases same : uuid = logUuid
    · subst same
      obtain rfl : found = log := Option.some.inj (isFound.symm.trans foundLog)
      obtain ⟨later, isLater, samePayer, sameRecipient, sameAmount⟩ :=
        EntryChange.keeps change isEscrow
      exact ⟨uuid, result, later, by simp, sameGroup.trans isGroup, isLater,
        samePayer.trans payer, sameRecipient.trans recipient, sameAmount.trans amount⟩
    · exact ⟨uuid, found, escrow, by simp [same, isFound], isGroup, isEscrow, payer, recipient,
        amount⟩
  -- every escrow was there before, or was announced by this call
  have origin : ∀ uuid found seq escrow,
      (world.chain.logs.insert logUuid result).get uuid = some found →
      found.paidMsgEscrow.get seq = some escrow →
      (∃ opening ∈ world.openings, opening.Between found.groupId escrow.payer escrow.recipient) ∨
      found.groupId = log.groupId ∧ ∃ amount, effects.events =
        [.paidMessageSent log.groupId log.nextSeq escrow.payer escrow.recipient amount
          world.chain.clock] := by
    intro uuid found seq escrow isFound isEscrow
    rw [OrderedMap.get_insert] at isFound
    split at isFound
    · cases isFound
      rcases EntryChange.origin change isEscrow with ⟨old, isOld, samePayer, sameRecipient⟩ | new
      · left
        rw [sameGroup, ← samePayer, ← sameRecipient]
        exact sound.opened logUuid log seq old foundLog isOld
      · exact .inr ⟨sameGroup, new⟩
    · exact .inl (sound.opened uuid found seq escrow isFound isEscrow)
  cases change with
  | closed taken old isOld unclaimed counted table exit silent =>
    refine sound.of_quiet effects.events rfl silent ?_ kept
    intro uuid found seq escrow isFound isEscrow
    rcases origin uuid found seq escrow isFound isEscrow with opened | ⟨-, amount, emitted⟩
    · exact opened
    · rw [emitted] at silent
      cases silent _ (List.mem_singleton.mpr rfl)
  | opened recipient payment amount dedupeKey nonce isSend fresh counted table emitted =>
    have opens : call.opens = some (recipient, amount) := by
      rw [isSend]
      rfl
    have added : (world.chain.events ++ effects.events).drop world.chain.events.length =
        [.paidMessageSent log.groupId log.nextSeq call.sender recipient amount
          world.chain.clock] := by
      rw [List.drop_left, emitted]
    have covering := sound.covers_of_heldToMinimum foundGroup foundLog isSend admitted
      (held recipient amount opens)
    simp only [added, List.filterMap_cons, List.filterMap_nil, openingOf]
    generalize isNew : (⟨log.groupId, log.nextSeq, call.sender, recipient, amount,
      requiresPaymentFrom world.chain.policies recipient⟩ : Opening) = new
    have between : new.Between log.groupId call.sender recipient := by
      subst isNew
      exact ⟨rfl, rfl, rfl⟩
    have mem_new : new ∈ world.openings ++ [new] := List.mem_append_right _ (by simp)
    have mem_old : ∀ opening ∈ world.openings, opening ∈ world.openings ++ [new] :=
      fun opening isOpening => List.mem_append_left _ isOpening
    refine ⟨?_, ?_, ?_, ?_, ?_⟩
    · intro uuid found seq escrow isFound isEscrow
      rcases origin uuid found seq escrow isFound isEscrow with
        ⟨opening, isOpening, isBetween⟩ | ⟨isGroup, other, announced⟩
      · exact ⟨opening, mem_old opening isOpening, isBetween⟩
      rw [emitted] at announced
      simp only [List.cons.injEq, MessageLogEvent.paidMessageSent.injEq] at announced
      obtain ⟨⟨-, -, isPayer, isRecipient, -, -⟩, -⟩ := announced
      exact ⟨new, mem_new, between.1.trans isGroup.symm, between.2.1.trans isPayer,
        between.2.2.trans isRecipient⟩
    · intro opening isOpening
      rcases List.mem_append.mp isOpening with isOld | isThis
      · exact kept opening isOld
      · obtain rfl := List.mem_singleton.mp isThis
        subst isNew
        exact ⟨logUuid, result, _, by simp, sameGroup, by rw [table]; simp; rfl, rfl, rfl, rfl⟩
    · intro opening isOpening
      rcases List.mem_append.mp isOpening with isOld | isThis
      · obtain ⟨first, isFirst, isBetween, covers⟩ := sound.covered opening isOld
        exact ⟨first, mem_old first isFirst, isBetween, covers⟩
      obtain rfl := List.mem_singleton.mp isThis
      obtain ⟨sameG, sameP, sameR⟩ := between
      rw [sameG, sameP, sameR]
      rcases covering with covers | ⟨first, isFirst, isBetween, covers⟩
      · refine ⟨opening, mem_new, ⟨sameG, sameP, sameR⟩, ?_⟩
        subst isNew
        exact covers
      · exact ⟨first, mem_old first isFirst, isBetween, covers⟩
    · intro groupId' seq payer recipient' amount' createdAtMs isEvent
      rcases List.mem_append.mp isEvent with isOld | isThis
      · obtain ⟨opening, isOpening, isBetween⟩ :=
          sound.announced groupId' seq payer recipient' amount' createdAtMs isOld
        exact ⟨opening, mem_old opening isOpening, isBetween⟩
      rw [emitted] at isThis
      simp only [List.mem_singleton, MessageLogEvent.paidMessageSent.injEq] at isThis
      obtain ⟨rfl, -, rfl, rfl, -, -⟩ := isThis
      exact ⟨new, mem_new, between⟩
    · intro record isRecord
      obtain ⟨opening, isOpening, matches_⟩ := sound.recorded record isRecord
      exact ⟨opening, mem_old opening isOpening, matches_⟩

theorem Sound.chain (sound : Sound world) (crates : Crates) (input : Chain.Input)
    (pays : PaysMinimum namespace_ world (.chain input)) :
    Sound (step namespace_ crates world (.chain input)) := by
  rcases Chain.step_cases namespace_ world.chain input with
    ⟨nowMs, -, same⟩ | same | ⟨sender, request, rfl, wallet, returned⟩
  · exact sound.of_same (by rw [same]) (by rw [same])
  · exact sound.of_same (by rw [same]) (by rw [same])
  have isOk : (world.chain.perform namespace_ sender request).isOk = true := by
    rw [returned]
    rfl
  have change := Chain.Change.of_perform returned
  simp only [step]
  generalize world.chain.step namespace_ (.call sender request) = after at change
  cases change with
  | created uuid group history newGroup newHistory isHistory newLog =>
    refine sound.of_quiet [.messageLogCreated group.members.id uuid] rfl
      (by simp [MessageLogEvent.isSent]) ?_ ?_
    · intro logUuid log seq escrow found isEscrow
      rw [OrderedMap.get_insert] at found
      split at found
      · cases found
        cases isEscrow
      · exact sound.opened logUuid log seq escrow found isEscrow
    intro opening isOpening
    obtain ⟨logUuid, log, escrow, found, escrowed⟩ := sound.escrowed opening isOpening
    have other : logUuid ≠ uuid := by
      rintro rfl
      cases newLog.symm.trans found
    exact ⟨logUuid, log, escrow, by simp [other, found], escrowed⟩
  | group | rotated | social => exact sound.of_same rfl rfl
  | paid groupId logUuid group log result call coin effects transfers foundGroup foundLog
      isSender asked admitted performed =>
    refine sound.paid foundGroup foundLog admitted performed ?_ rfl
    intro recipient amount opens
    rw [isSender]
    exact pays _ (asked _ opens) isOk

/-- Membership sync records only what was announced. -/
theorem Sound.ingest (sound : Sound world) (crates : Crates) (index : Nat) :
    Sound (step namespace_ crates world (.ingest index)) := by
  simp only [step]
  split
  · next record isRecord =>
    refine ⟨sound.opened, sound.escrowed, sound.covered, sound.announced, ?_⟩
    obtain ⟨event, isEvent, made⟩ := Option.bind_eq_some_iff.mp isRecord
    have present : event ∈ world.chain.events := List.mem_of_getElem? isEvent
    have announced : ∃ opening ∈ world.openings,
        formatAddress opening.groupId = record.groupId ∧
          formatAddress opening.payer = record.payer ∧
          formatAddress opening.recipient = record.recipient := by
      cases event with
      | paidMessageSent groupId seq payer recipient amount createdAtMs =>
        cases made
        obtain ⟨opening, isOpening, rfl, rfl, rfl⟩ :=
          sound.announced groupId seq payer recipient amount createdAtMs present
        exact ⟨opening, isOpening, rfl, rfl, rfl⟩
      | _ => cases made
    intro kept isKept
    simp only [DmGate.step, InMemoryStorage.recordPaidEscrow] at isKept
    split at isKept
    · exact sound.recorded kept isKept
    rcases List.mem_append.mp isKept with isOld | isNew
    · exact sound.recorded kept (List.mem_filter.mp isOld).1
    · obtain rfl := List.mem_singleton.mp isNew
      exact announced
  · exact sound

theorem Sound.step (sound : Sound world) (crates : Crates) (input : Input)
    (pays : PaysMinimum namespace_ world input) :
    Sound (step namespace_ crates world input) := by
  cases input with
  | chain input => exact sound.chain crates input pays
  | ingest index => exact sound.ingest crates index
  | relayer =>
    refine ⟨sound.opened, sound.escrowed, sound.covered, sound.announced, ?_⟩
    simp only [PaidOpening.step, paidEscrows_step]
    exact sound.recorded

theorem sound_run (crates : Crates) (sound : Sound world) {inputs : List Input}
    (pays : Along (step namespace_ crates) (PaysMinimum namespace_) world inputs) :
    Sound (inputs.foldl (step namespace_ crates) world) := by
  induction inputs generalizing world with
  | nil => exact sound
  | cons input rest ih => exact ih (sound.step crates input pays.1) pays.2

theorem sound_start : Sound start where
  opened := by
    intro logUuid log seq escrow found
    cases found
  escrowed := by
    intro opening isOpening
    cases isOpening
  covered := by
    intro opening isOpening
    cases isOpening
  announced := by
    intro groupId seq payer recipient amount createdAtMs isEvent
    cases isEvent
  recorded := by
    intro record isRecord
    cases isRecord

/-! ## What the gate accepts -/

section Gate

variable {crates : Crates} {services : Services} {storage : InMemoryStorage}
  {groupId sender recipient : String} {principalOwner : Option String} {full : Bool}
  {gate : PaidDmGate}

theorem exists_record_of_hasPaidEscrow {payer : String} {minAmount : Int}
    {validity : Option PaidEscrowValidityFilter}
    (asked : fromStorage crates (storage.hasPaidEscrow groupId payer recipient minAmount
      validity) = .ok true) :
    ∃ record ∈ storage.paidEscrows, record.groupId = groupId ∧ record.payer = payer ∧
      record.recipient = recipient := by
  unfold fromStorage InMemoryStorage.hasPaidEscrow at asked
  split at asked
  · next value isValue =>
    cases asked
    split at isValue
    · cases isValue
    obtain ⟨record, present, -⟩ := List.any_eq_true.mp (Except.ok.inj isValue)
    obtain ⟨isRecord, same⟩ := List.mem_filter.mp present
    simp only [Bool.and_eq_true, beq_iff_eq] at same
    exact ⟨record, isRecord, same.1.1.1, same.1.1.2, same.1.2⟩
  · cases asked

theorem of_orPrincipal (lookup : String → Except ApiError Bool)
    (asked : orPrincipal id (lookup sender) principalOwner lookup = .ok true) :
    ∃ wallet, (wallet = sender ∨ principalOwner = some wallet) ∧ lookup wallet = .ok true := by
  unfold orPrincipal at asked
  simp only [bind, Except.bind, pure, Except.pure] at asked
  cases own : lookup sender with
  | error => rw [own] at asked; cases asked
  | ok found =>
    simp only [own] at asked
    cases found with
    | true => exact ⟨sender, .inl rfl, own⟩
    | false =>
      cases principal : principalOwner with
      | none => rw [principal] at asked; cases asked
      | some wallet =>
        rw [principal] at asked
        exact ⟨wallet, .inr rfl, asked⟩

theorem exists_record_of_paid
    (evaluated : evaluatePaidDmGate crates services storage (some groupId) sender
      principalOwner recipient full = .ok gate)
    (paid : gate.paid = true) :
    ∃ payer, (payer = sender ∨ principalOwner = some payer) ∧
      ∃ record ∈ storage.paidEscrows, record.groupId = groupId ∧ record.payer = payer ∧
        record.recipient = recipient := by
  unfold evaluatePaidDmGate at evaluated
  simp only [bind, Except.bind, pure, Except.pure] at evaluated
  split at evaluated
  · cases evaluated
  split at evaluated
  · cases evaluated
    cases paid
  split at evaluated
  · cases evaluated
  next found asked =>
  have isPaid : found = true := by
    split at evaluated
    · cases evaluated
    split at evaluated
    · cases evaluated
    split at evaluated
    · cases evaluated
      exact paid
    · obtain ⟨-, -, same, -⟩ := DmGate.evaluateSocialGate_flags evaluated
      rw [same] at paid
      exact paid
  subst isPaid
  obtain ⟨payer, isPayer, found⟩ := of_orPrincipal (fun payer => fromStorage crates
    (storage.hasPaidEscrow groupId payer recipient 0 (some (DmGate.validity services)))) asked
  exact ⟨payer, isPayer, exists_record_of_hasPaidEscrow found⟩

end Gate

/-- **What the gate takes for a payment met the minimum**, in every run in which every
escrow that is opened is held to it: when the gate reports that the sender, or an agent's
principal, has paid the recipient in the group, that wallet has an escrow to the recipient
in the group's log whose amount is at least what the recipient's policy required when it
was opened. -/
theorem gate_paid_minimum (namespace_ : Namespace) (crates : Crates) (inputs : List Input)
    (pays : Along (step namespace_ crates) (PaysMinimum namespace_) start inputs)
    (services : Services) (groupId sender recipient : String)
    (principalOwner : Option String) (full : Bool) (gate : PaidDmGate)
    (evaluated : evaluatePaidDmGate crates services
      (reached namespace_ crates inputs).relayer.app.storage (some groupId) sender
      principalOwner recipient full = .ok gate)
    (paid : gate.paid = true) :
    ∃ opening ∈ (reached namespace_ crates inputs).openings,
      formatAddress opening.groupId = groupId ∧
      (formatAddress opening.payer = sender ∨ principalOwner = some (formatAddress opening.payer)) ∧
      formatAddress opening.recipient = recipient ∧
      Covers opening.required opening.amount ∧
      ∃ logUuid log escrow,
        (reached namespace_ crates inputs).chain.logs.get logUuid = some log ∧
        log.groupId = opening.groupId ∧ log.paidMsgEscrow.get opening.seq = some escrow ∧
        escrow.payer = opening.payer ∧ escrow.recipient = opening.recipient ∧
        escrow.amount = opening.amount := by
  have sound : Sound (reached namespace_ crates inputs) := sound_run crates sound_start pays
  obtain ⟨payer, isPayer, record, isRecord, rfl, rfl, rfl⟩ := exists_record_of_paid evaluated paid
  obtain ⟨opening, isOpening, sameGroup, samePayer, sameRecipient⟩ := sound.recorded record isRecord
  obtain ⟨first, isFirst, ⟨firstGroup, firstPayer, firstRecipient⟩, covers⟩ :=
    sound.covered opening isOpening
  refine ⟨first, isFirst, ?_, ?_, ?_, covers, sound.escrowed first isFirst⟩
  · rw [firstGroup, sameGroup]
  · rw [firstPayer, samePayer]
    exact isPayer
  · rw [firstRecipient, sameRecipient]

/-! ### Two escrows in a new conversation -/

/-- Bob asks five coins of strangers; Alice opens a conversation with him. -/
def openingInputs : List Input :=
  [.chain (.call 2 (.setPaidMessagingPolicy true (some 5))),
    .chain (.call 1 (.createAndShareGroup { owner := 1, agents := [] } "dm" "u" [] [1, 2]))]

/-- Alice pays what Bob asks, and membership sync records it. -/
def minimumInputs : List Input :=
  openingInputs ++ [.chain (.call 1 (.sendPaidMessageDigest 1001 "u" 2 5 5 [7] 1)), .ingest 1]

/-- Alice first pays nothing to an address that asks nothing, then nothing to Bob. -/
def bypassInputs : List Input :=
  openingInputs ++
    [.chain (.call 1 (.sendPaidMessageDigest 1001 "u" 3 0 0 [7] 1)),
      .chain (.call 1 (.sendPaidMessageDigest 1001 "u" 2 0 0 [8] 2)), .ingest 2]

/-- The relayer knows Bob's policy; escrows count for thirty days. -/
def sampleServices : Services :=
  { CommitLog.sampleServices with
    paidPolicy := fun wallet =>
      .ok (if wallet = formatAddress 2 then some { enabled := true, minCost := some 5 } else none)
    paymentExpirationMs := 30 * 86400000
    messageGateEnabled := true }

/-- Once Alice has paid what Bob asks, the gate lets her through, and her escrow is of five
coins. -/
theorem gate_paid_minimum_of_minimumInputs :
    ∃ gate, evaluatePaidDmGate CommitLog.sampleCrates sampleServices
        (reached sampleNamespace CommitLog.sampleCrates minimumInputs).relayer.app.storage
        (some (formatAddress 1001)) (formatAddress 1) none (formatAddress 2) false = .ok gate ∧
      gate.paid = true ∧
      ∃ opening ∈ (reached sampleNamespace CommitLog.sampleCrates minimumInputs).openings,
        formatAddress opening.recipient = formatAddress 2 ∧
          Covers opening.required opening.amount := by
  have pays : Along (step sampleNamespace CommitLog.sampleCrates) (PaysMinimum sampleNamespace)
      start minimumInputs := by decide +kernel
  have evaluated : evaluatePaidDmGate CommitLog.sampleCrates sampleServices
      (reached sampleNamespace CommitLog.sampleCrates minimumInputs).relayer.app.storage
      (some (formatAddress 1001)) (formatAddress 1) none (formatAddress 2) false =
        .ok { PaidDmGate.initial sampleServices with paid := true } := by rfl
  obtain ⟨opening, isOpening, -, -, recipient, covers, -⟩ := gate_paid_minimum sampleNamespace
    CommitLog.sampleCrates minimumInputs pays sampleServices (formatAddress 1001)
    (formatAddress 1) (formatAddress 2) none false _ evaluated rfl
  exact ⟨_, evaluated, rfl, opening, isOpening, recipient, covers⟩

/-- **The second escrow opens the gate**: after an empty escrow to somebody else, an empty
escrow to Bob passes the contract unchecked, and the gate takes it for a payment, although
Bob's policy asked five coins when it was opened and neither Bob nor Alice has written. -/
theorem second_escrow_opens_gate :
    evaluatePaidDmGate CommitLog.sampleCrates sampleServices
        (reached sampleNamespace CommitLog.sampleCrates bypassInputs).relayer.app.storage
        (some (formatAddress 1001)) (formatAddress 1) none (formatAddress 2) false =
      .ok
        { firstOutbound := true, paid := true, peerPaid := false, peerEscrowAmount := none,
          peerHasMessaged := false, following := none, minCost := none, minReplyChars := 0,
          paymentRequired := false } ∧
    ((1, 2) : Address × Address) ∉
      (reached sampleNamespace CommitLog.sampleCrates bypassInputs).chain.following ∧
    ∀ opening ∈ (reached sampleNamespace CommitLog.sampleCrates bypassInputs).openings,
      opening.groupId = 1001 → opening.payer = 1 → opening.recipient = 2 →
        opening.required = some 5 ∧ ¬Covers opening.required opening.amount := by
  refine ⟨by rfl, by decide +kernel, by decide +kernel⟩

end MessagingStack.Relayer.PaidOpening

import MessagingStack.Base.Runs
import MessagingStack.Contract.MessageLog

/-!
# Where the money of a message log goes

A log is opened by `MessageLog.new` and changed by the four paid operations only, called by anyone,
with any arguments, at times that never go back.  `Ledger` is a log with the record of the calls
that returned, `Ledger.Sound` what the two say about each other at every point of every run;
`sound_of_run` proves it by one step lemma, `Ledger.Sound.step`.
-/

namespace MessagingStack.Contract

open Move

/-! ## Calls and their receipts -/

inductive PaidCall where
  | sendPaidMessage (sender recipient : Address) (payment escrowAmount : U64)
      (dedupeKey : List UInt8) (nonce : U128)
  | replyToPaidMessageClaimCoin (sender : Address) (paidMsgSeq : U64) (charCount : U32)
      (dedupeKey : List UInt8) (nonce : U128)
  | replyToPaidMessageClaimSettled (sender : Address) (paidMsgSeq : U64) (charCount : U32)
      (dedupeKey : List UInt8) (nonce : U128)
      (platformFeeRecipient ecosystemFeeRecipient : Address)
  | refundPaidMessage (sender : Address) (paidMsgSeq : U64)
  deriving DecidableEq

/-- The sequence number a call pays out. -/
def PaidCall.payoutSeq : PaidCall → Option U64
  | .sendPaidMessage .. => none
  | .replyToPaidMessageClaimCoin _ paidMsgSeq .. => some paidMsgSeq
  | .replyToPaidMessageClaimSettled _ paidMsgSeq .. => some paidMsgSeq
  | .refundPaidMessage _ paidMsgSeq => some paidMsgSeq

/-- The sender, dedupe key and nonce a call consumes. -/
def PaidCall.consumed : PaidCall → Option (Address × List UInt8 × U128)
  | .sendPaidMessage sender _ _ _ dedupeKey nonce => some (sender, dedupeKey, nonce)
  | .replyToPaidMessageClaimCoin sender _ _ dedupeKey nonce => some (sender, dedupeKey, nonce)
  | .replyToPaidMessageClaimSettled sender _ _ dedupeKey nonce _ _ =>
      some (sender, dedupeKey, nonce)
  | .refundPaidMessage .. => none

/-- The record of a call that returned. -/
structure Receipt where
  call : PaidCall
  nowMs : U64
  /-- The coin returned to the caller. -/
  coin : U64
  effects : Effects
  deriving DecidableEq

/-- The coins a receipt transfers. -/
def Receipt.transferred (receipt : Receipt) : Nat :=
  (receipt.effects.transfers.map (·.value.toNat)).sum

/-- What a send leaves in the log: its payment less the change it gets back. -/
def Receipt.deposited (receipt : Receipt) : Nat :=
  match receipt.call with
  | .sendPaidMessage _ _ payment _ _ _ => payment.toNat - receipt.transferred
  | _ => 0

/-- What the other calls take out of the log. -/
def Receipt.paidOut (receipt : Receipt) : Nat :=
  match receipt.call with
  | .sendPaidMessage .. => 0
  | _ => receipt.coin.toNat + receipt.transferred

/-- Run a call. -/
def MessageLog.perform (self : MessageLog) (nowMs : U64) :
    PaidCall → Move MessageLogError (MessageLog × U64 × Effects)
  | .sendPaidMessage sender recipient payment escrowAmount dedupeKey nonce => do
    let (log, effects) ←
      self.sendPaidMessage sender recipient payment escrowAmount dedupeKey nonce nowMs
    return (log, 0, effects)
  | .replyToPaidMessageClaimCoin sender paidMsgSeq charCount dedupeKey nonce => do
    let (coin, log, effects) ←
      self.replyToPaidMessageClaimCoin sender paidMsgSeq charCount dedupeKey nonce nowMs
    return (log, coin, effects)
  | .replyToPaidMessageClaimSettled sender paidMsgSeq charCount dedupeKey nonce
      platformFeeRecipient ecosystemFeeRecipient => do
    let (log, effects) ←
      self.replyToPaidMessageClaimSettled sender paidMsgSeq charCount dedupeKey nonce nowMs
        platformFeeRecipient ecosystemFeeRecipient
    return (log, 0, effects)
  | .refundPaidMessage sender paidMsgSeq => do
    let (log, effects) ← self.refundPaidMessage sender paidMsgSeq nowMs
    return (log, 0, effects)

/-! ## What a receipt has to say for a payout -/

/-- The receipt pays the escrow out in full: to its recipient inside the window, whole or
split in fees and the rest, or to its payer after the window. -/
def Receipt.Fulfils (receipt : Receipt) (groupId : Address) (escrow : PaidMessageEscrow) :
    Prop :=
  match receipt.call with
  | .sendPaidMessage .. => False
  | .replyToPaidMessageClaimCoin sender .. =>
    sender = escrow.recipient ∧
      receipt.nowMs.toNat ≤ escrow.createdAtMs.toNat + paymentExpirationMs ∧
      receipt.coin = escrow.amount ∧ receipt.effects.transfers = []
  | .replyToPaidMessageClaimSettled sender paidMsgSeq _ _ _ platformFeeRecipient
      ecosystemFeeRecipient =>
    sender = escrow.recipient ∧
      receipt.nowMs.toNat ≤ escrow.createdAtMs.toNat + paymentExpirationMs ∧
      receipt.coin = 0 ∧
      ∃ totals : EscrowFeeTotals,
        totals.platformFee.toNat + totals.treasuryFee.toNat + totals.netAmount.toNat =
          escrow.amount.toNat ∧
        receipt.effects.transfers =
          settlement totals platformFeeRecipient ecosystemFeeRecipient escrow.recipient ∧
        .paymentClaimedSettled groupId paidMsgSeq escrow.recipient totals
          platformFeeRecipient ecosystemFeeRecipient receipt.nowMs ∈ receipt.effects.events
  | .refundPaidMessage sender _ =>
    sender = escrow.payer ∧
      escrow.createdAtMs.toNat + paymentExpirationMs ≤ receipt.nowMs.toNat ∧
      receipt.coin = 0 ∧ receipt.effects.transfers = [⟨escrow.payer, escrow.amount⟩]

variable {groupId : Address} {self : MessageLog} {call : PaidCall} {effects : Effects}

/-- In full: the coins that leave make up the amount. -/
theorem Receipt.Fulfils.paidOut_eq {receipt : Receipt} {escrow : PaidMessageEscrow}
    (fulfils : receipt.Fulfils groupId escrow) :
    receipt.paidOut = escrow.amount.toNat := by
  obtain ⟨call, nowMs, coin, effects⟩ := receipt
  cases call with
  | sendPaidMessage => exact fulfils.elim
  | replyToPaidMessageClaimCoin =>
    obtain ⟨-, -, whole, none⟩ := fulfils
    dsimp only at whole none
    simp [paidOut, transferred, whole, none]
  | replyToPaidMessageClaimSettled =>
    obtain ⟨-, -, whole, totals, sum, shape, -⟩ := fulfils
    dsimp only at whole shape
    simp only [paidOut, transferred, whole, shape, settlement_sum, sum]
    simp
  | refundPaidMessage =>
    obtain ⟨-, -, whole, only⟩ := fulfils
    dsimp only at whole only
    simp [paidOut, transferred, whole, only]

/-! ## What a call that returns does -/

/-- The log after a call has consumed its key and nonce, before it touches the escrows. -/
def MessageLog.afterConsuming (self : MessageLog) (call : PaidCall) :
    Move MessageLogError MessageLog :=
  match call.consumed with
  | none => .ok self
  | some (sender, dedupeKey, nonce) => self.consumeDedupeAndNonce sender dedupeKey nonce

theorem MessageLog.afterConsuming_frame {middle : MessageLog}
    (consumes : self.afterConsuming call = .ok middle) :
    middle.groupId = self.groupId ∧ middle.nextSeq = self.nextSeq ∧
      middle.paidMsgEscrow = self.paidMsgEscrow := by
  unfold afterConsuming at consumes
  split at consumes
  · cases consumes
    exact ⟨rfl, rfl, rfl⟩
  · obtain ⟨-, -, shape, -⟩ := consumeDedupeAndNonce_ok consumes
    rw [shape]
    exact ⟨rfl, rfl, rfl⟩

def PaidMessageEscrow.spent (escrow : PaidMessageEscrow) : PaidMessageEscrow :=
  { escrow with claimed := true, escrowedBalance := 0 }

/-- What a call that returned did to the escrows: a deposit under the next number, or the
payout of an unclaimed entry. -/
inductive Paid (self after : MessageLog) (receipt : Receipt) : Prop where
  | deposit (escrow : PaidMessageEscrow)
      (noPayout : receipt.call.payoutSeq = none)
      (fresh : self.paidMsgEscrow.get self.nextSeq = none)
      (counted : after.nextSeq.toNat = self.nextSeq.toNat + 1)
      (table : after.paidMsgEscrow = self.paidMsgEscrow.insert self.nextSeq escrow)
      (unclaimed : escrow.claimed = false)
      (backed : escrow.escrowedBalance = escrow.amount)
      (dated : escrow.createdAtMs = receipt.nowMs)
      (deposited : receipt.deposited = escrow.amount.toNat)
      (nothingOut : receipt.paidOut = 0)
  | payout (paidMsgSeq : U64) (escrow : PaidMessageEscrow)
      (isPayout : receipt.call.payoutSeq = some paidMsgSeq)
      (found : self.paidMsgEscrow.get paidMsgSeq = some escrow)
      (unclaimed : escrow.claimed = false)
      (counted : after.nextSeq = self.nextSeq)
      (table : after.paidMsgEscrow = self.paidMsgEscrow.insert paidMsgSeq escrow.spent)
      (nothingIn : receipt.deposited = 0)
      (fulfils : escrow.escrowedBalance = escrow.amount → receipt.Fulfils self.groupId escrow)

/-- **The step, once.**  A call that returns consumes its key and nonce and then makes a
deposit or a payout. -/
theorem Paid.of_perform {after : MessageLog} {nowMs coin : U64}
    (returned : self.perform nowMs call = .ok (after, coin, effects)) :
    (∃ middle, self.afterConsuming call = .ok middle ∧
      after.groupId = middle.groupId ∧ after.usedDedupe = middle.usedDedupe ∧
      after.nonces = middle.nonces) ∧
    Paid self after { call, nowMs, coin, effects } := by
  cases call with
  | sendPaidMessage sender recipient payment escrowAmount =>
    simp only [MessageLog.perform, bind_ok, pure_ok, Prod.mk.injEq] at returned
    obtain ⟨⟨log, sent⟩, sending, rfl, rfl, rfl⟩ := returned
    obtain ⟨consumed, took, fresh, counted, shape, sum⟩ := MessageLog.sendPaidMessage_ok sending
    refine ⟨⟨consumed, took, by rw [shape], by rw [shape], by rw [shape]⟩, ?_⟩
    refine .deposit _ rfl fresh counted (by rw [shape]) rfl rfl rfl ?_ rfl
    show payment.toNat - (sent.transfers.map (·.value.toNat)).sum = escrowAmount.toNat
    omega
  | replyToPaidMessageClaimCoin sender paidMsgSeq charCount dedupeKey nonce =>
    simp only [MessageLog.perform, MessageLog.replyToPaidMessageClaimCoin, bind_ok, pure_ok,
      Prod.mk.injEq] at returned
    obtain ⟨⟨_, _, _⟩, ⟨⟨escrow, taken, log⟩, taking, rfl, rfl, rfl⟩, rfl, rfl, rfl⟩ := returned
    obtain ⟨consumed, took, found, isRecipient, unclaimed, inWindow, rfl, shape⟩ :=
      MessageLog.takeEscrow_ok taking
    have frame := MessageLog.afterConsuming_frame (show self.afterConsuming
      (.replyToPaidMessageClaimCoin sender paidMsgSeq charCount dedupeKey nonce) = _ from took)
    refine ⟨⟨consumed, took, by rw [shape], by rw [shape], by rw [shape]⟩, ?_⟩
    refine .payout paidMsgSeq escrow rfl found unclaimed (by rw [shape]; exact frame.2.1)
      (by rw [shape]; rfl) rfl ?_
    exact fun backed => ⟨isRecipient, inWindow, backed, rfl⟩
  | replyToPaidMessageClaimSettled sender paidMsgSeq charCount dedupeKey nonce platform
      ecosystem =>
    simp only [MessageLog.perform, MessageLog.replyToPaidMessageClaimSettled, bind_ok, pure_ok,
      Prod.mk.injEq] at returned
    obtain ⟨⟨_, _⟩, ⟨⟨escrow, taken, log⟩, taking, ⟨totals, transfers⟩, distributed, rfl, rfl⟩,
      rfl, rfl, rfl⟩ := returned
    obtain ⟨consumed, took, found, isRecipient, unclaimed, inWindow, rfl, shape⟩ :=
      MessageLog.takeEscrow_ok taking
    dsimp only at distributed
    obtain ⟨split, splits, whole, sum⟩ := distributeEscrowToRecipients_eq
      escrow.escrowedBalance platform ecosystem escrow.recipient
    cases splits ▸ distributed
    have frame := MessageLog.afterConsuming_frame (show self.afterConsuming
      (.replyToPaidMessageClaimSettled sender paidMsgSeq charCount dedupeKey nonce platform
        ecosystem) = _ from took)
    have sameGroup : log.groupId = self.groupId := by
      rw [shape]
      exact frame.1
    refine ⟨⟨consumed, took, by rw [shape], by rw [shape], by rw [shape]⟩, ?_⟩
    refine .payout paidMsgSeq escrow rfl found unclaimed (by rw [shape]; exact frame.2.1)
      (by rw [shape]; rfl) rfl ?_
    intro backed
    refine ⟨isRecipient, inWindow, rfl, { totals with totalAmount := escrow.amount }, ?_, rfl, ?_⟩
    · rw [← backed]
      exact sum
    · rw [← sameGroup]
      simp
  | refundPaidMessage sender paidMsgSeq =>
    simp only [MessageLog.perform, bind_ok, pure_ok, Prod.mk.injEq] at returned
    obtain ⟨⟨log, sent⟩, refunding, rfl, rfl, rfl⟩ := returned
    obtain ⟨escrow, found, isPayer, unclaimed, expired, transfers, shape⟩ :=
      MessageLog.refundPaidMessage_ok refunding
    refine ⟨⟨self, rfl, by rw [shape], by rw [shape], by rw [shape]⟩, ?_⟩
    refine .payout paidMsgSeq escrow rfl found unclaimed (by rw [shape]) (by rw [shape]; rfl) rfl ?_
    intro backed
    exact ⟨isPayer, expired, rfl, by rw [transfers, backed]⟩

/-! ## The ledger over a run -/

/-- A log with the record of the calls that returned, oldest first, and the time of the
last call. -/
structure Ledger where
  log : MessageLog
  nowMs : U64
  receipts : List Receipt
  deriving DecidableEq

/-- A call at a time. -/
structure PaidTx where
  call : PaidCall
  nowMs : U64
  deriving DecidableEq

/-- One transaction. -/
def Ledger.step (ledger : Ledger) (tx : PaidTx) : Ledger :=
  match ledger.log.perform tx.nowMs tx.call with
  | .ok (log, coin, effects) =>
    { log, nowMs := tx.nowMs,
      receipts := ledger.receipts ++ [{ call := tx.call, nowMs := tx.nowMs, coin, effects }] }
  | .error _ => { ledger with nowMs := tx.nowMs }

theorem Ledger.step_cases (ledger : Ledger) (tx : PaidTx) :
    (∃ receipt middle, receipt.call = tx.call ∧ receipt.nowMs = tx.nowMs ∧
      (ledger.step tx).receipts = ledger.receipts ++ [receipt] ∧
      (ledger.step tx).nowMs = tx.nowMs ∧
      ledger.log.afterConsuming tx.call = .ok middle ∧
      (ledger.step tx).log.groupId = middle.groupId ∧
      (ledger.step tx).log.usedDedupe = middle.usedDedupe ∧
      (ledger.step tx).log.nonces = middle.nonces ∧
      Paid ledger.log (ledger.step tx).log receipt) ∨
    ledger.step tx = { ledger with nowMs := tx.nowMs } := by
  unfold step
  rcases made : ledger.log.perform tx.nowMs tx.call with reason | ⟨log, coin, effects⟩
  · exact .inr rfl
  · obtain ⟨⟨middle, consumes, group, dedupe, nonces⟩, paid⟩ := Paid.of_perform made
    exact .inl ⟨⟨tx.call, tx.nowMs, coin, effects⟩, middle, rfl, rfl, rfl, rfl, consumes, group,
      dedupe, nonces, paid⟩

namespace Ledger

/-- The coins the log holds. -/
def held (ledger : Ledger) : Nat := ledger.log.paidMsgEscrow.total (·.escrowedBalance.toNat)

/-- The coins deposited so far. -/
def deposited (ledger : Ledger) : Nat := (ledger.receipts.map Receipt.deposited).sum

def paidOut (ledger : Ledger) : Nat := (ledger.receipts.map Receipt.paidOut).sum

/-- The sequence numbers paid out so far, once for each payout. -/
def paidSeqs (ledger : Ledger) : List U64 :=
  ledger.receipts.filterMap fun receipt => receipt.call.payoutSeq

/-- What has been consumed so far, once for each consumption. -/
def consumed (ledger : Ledger) : List (Address × List UInt8 × U128) :=
  ledger.receipts.filterMap fun receipt => receipt.call.consumed

/-- **What holds of a ledger at every point of a run.** -/
structure Sound (ledger : Ledger) : Prop where
  keys : ∀ seq, Table.contains ledger.log.paidMsgEscrow seq = true ↔
    seq.toNat < ledger.log.nextSeq.toNat
  /-- An unclaimed entry holds its amount, a claimed one nothing. -/
  balances : ∀ seq escrow, ledger.log.paidMsgEscrow.get seq = some escrow →
    escrow.escrowedBalance = if escrow.claimed then 0 else escrow.amount
  /-- No coin is made or lost. -/
  conserved : ledger.deposited = ledger.held + ledger.paidOut
  /-- No message is paid out twice, -/
  paidOnce : ledger.paidSeqs.Nodup
  /-- the messages paid out are the claimed ones, -/
  claimed_iff : ∀ seq escrow, ledger.log.paidMsgEscrow.get seq = some escrow →
    (escrow.claimed = true ↔ seq ∈ ledger.paidSeqs)
  /-- and each payout is in full, to the right party on the right side of the window. -/
  fulfilled : ∀ receipt ∈ ledger.receipts, ∀ seq, receipt.call.payoutSeq = some seq →
    ∃ escrow, ledger.log.paidMsgEscrow.get seq = some escrow ∧
      receipt.Fulfils ledger.log.groupId escrow
  dedupeOnce : (ledger.consumed.map fun use => use.2.1).Nodup
  /-- and no nonce twice by one sender. -/
  nonceOnce : (ledger.consumed.map fun use => (use.1, use.2.2)).Nodup

/-- What the proof carries beside `Sound`: consumption is recorded in the log, and no entry
is dated after the clock. -/
structure Recorded (ledger : Ledger) : Prop where
  dedupe : ∀ use ∈ ledger.consumed, ledger.log.usedDedupe.get use.2.1 ≠ none
  nonces : ∀ use ∈ ledger.consumed, ledger.log.NonceUsed use.1 use.2.2
  dated : ∀ seq escrow, ledger.log.paidMsgEscrow.get seq = some escrow →
    escrow.createdAtMs.toNat ≤ ledger.nowMs.toNat

/-! ### One step -/

variable {ledger next : Ledger} {receipt : Receipt} {escrow : PaidMessageEscrow}

theorem Sound.deposit (sound : ledger.Sound)
    (recorded : next.receipts = ledger.receipts ++ [receipt])
    (sameGroup : next.log.groupId = ledger.log.groupId) (noPayout : receipt.call.payoutSeq = none)
    (fresh : ledger.log.paidMsgEscrow.get ledger.log.nextSeq = none)
    (counted : next.log.nextSeq.toNat = ledger.log.nextSeq.toNat + 1)
    (table : next.log.paidMsgEscrow = ledger.log.paidMsgEscrow.insert ledger.log.nextSeq escrow)
    (unclaimed : escrow.claimed = false) (backed : escrow.escrowedBalance = escrow.amount)
    (deposited : receipt.deposited = escrow.amount.toNat) (nothingOut : receipt.paidOut = 0)
    (dedupeOnce : (next.consumed.map fun use => use.2.1).Nodup)
    (nonceOnce : (next.consumed.map fun use => (use.1, use.2.2)).Nodup) :
    next.Sound := by
  have samePaid : next.paidSeqs = ledger.paidSeqs := by simp [paidSeqs, recorded, noPayout]
  have unpaid : ledger.log.nextSeq ∉ ledger.paidSeqs := by
    intro isPaid
    obtain ⟨old, isOld, pays⟩ := List.mem_filterMap.mp isPaid
    obtain ⟨held, found, -⟩ := sound.fulfilled old isOld _ pays
    cases fresh ▸ found
  refine ⟨?_, ?_, ?_, samePaid ▸ sound.paidOnce, ?_, ?_, dedupeOnce, nonceOnce⟩
  · intro seq
    have old := sound.keys seq
    rw [Table.contains, table, OrderedMap.get_insert]
    rw [Table.contains] at old
    by_cases same : seq = ledger.log.nextSeq
    · simp [same, counted]
    have apart : seq.toNat ≠ ledger.log.nextSeq.toNat :=
      fun equal => same (BitVec.eq_of_toNat_eq equal)
    rw [if_neg same, old]
    omega
  · intro seq found isFound
    rw [table, OrderedMap.get_insert] at isFound
    split at isFound
    · cases isFound
      simp [unclaimed, backed]
    · exact sound.balances seq found isFound
  · have inserted := OrderedMap.total_insert_of_none escrow (·.escrowedBalance.toNat) fresh
    have conserved := sound.conserved
    simp only [Ledger.deposited, Ledger.paidOut, held] at conserved ⊢
    rw [recorded, table, inserted]
    simp only [List.map_append, List.sum_append, List.map_cons, List.map_nil, List.sum_cons,
      List.sum_nil, deposited, nothingOut, backed]
    omega
  · intro seq found isFound
    rw [samePaid]
    rw [table, OrderedMap.get_insert] at isFound
    split at isFound
    · next same =>
      cases isFound
      simp [unclaimed, same, unpaid]
    · exact sound.claimed_iff seq found isFound
  intro old isOld seq pays
  rw [recorded, List.mem_append, List.mem_singleton] at isOld
  rcases isOld with isOld | rfl
  · obtain ⟨held, found, fulfils⟩ := sound.fulfilled old isOld seq pays
    have other : seq ≠ ledger.log.nextSeq := by
      rintro rfl
      cases fresh ▸ found
    refine ⟨held, ?_, sameGroup ▸ fulfils⟩
    rw [table, OrderedMap.get_insert, if_neg other]
    exact found
  · cases noPayout ▸ pays

theorem Sound.payout (sound : ledger.Sound)
    (recorded : next.receipts = ledger.receipts ++ [receipt])
    (sameGroup : next.log.groupId = ledger.log.groupId) {paidMsgSeq : U64}
    (isPayout : receipt.call.payoutSeq = some paidMsgSeq)
    (found : ledger.log.paidMsgEscrow.get paidMsgSeq = some escrow)
    (unclaimed : escrow.claimed = false) (counted : next.log.nextSeq = ledger.log.nextSeq)
    (table : next.log.paidMsgEscrow = ledger.log.paidMsgEscrow.insert paidMsgSeq escrow.spent)
    (nothingIn : receipt.deposited = 0)
    (fulfils : escrow.escrowedBalance = escrow.amount → receipt.Fulfils ledger.log.groupId escrow)
    (dedupeOnce : (next.consumed.map fun use => use.2.1).Nodup)
    (nonceOnce : (next.consumed.map fun use => (use.1, use.2.2)).Nodup) :
    next.Sound := by
  have backed : escrow.escrowedBalance = escrow.amount := by
    have balance := sound.balances paidMsgSeq escrow found
    simpa [unclaimed] using balance
  have pays := fulfils backed
  have nowPaid : next.paidSeqs = ledger.paidSeqs ++ [paidMsgSeq] := by
    simp [paidSeqs, recorded, isPayout]
  have unpaid : paidMsgSeq ∉ ledger.paidSeqs := by
    rw [← sound.claimed_iff paidMsgSeq escrow found, unclaimed]
    simp
  refine ⟨?_, ?_, ?_, ?_, ?_, ?_, dedupeOnce, nonceOnce⟩
  · intro seq
    have old := sound.keys seq
    rw [Table.contains, table, OrderedMap.get_insert, counted, ← old, Table.contains]
    by_cases same : seq = paidMsgSeq
    · simp [same, found]
    · rw [if_neg same]
  · intro seq entry isFound
    rw [table, OrderedMap.get_insert] at isFound
    split at isFound
    · cases isFound
      rfl
    · exact sound.balances seq entry isFound
  · have inserted := OrderedMap.total_insert_of_some escrow.spent (·.escrowedBalance.toNat) found
    have emptied : escrow.spent.escrowedBalance.toNat = 0 := rfl
    have out := pays.paidOut_eq
    have conserved := sound.conserved
    simp only [Ledger.deposited, Ledger.paidOut, held] at conserved inserted ⊢
    rw [recorded, table]
    simp only [List.map_append, List.sum_append, List.map_cons, List.map_nil, List.sum_cons,
      List.sum_nil, nothingIn, out]
    rw [emptied, backed] at inserted
    omega
  · rw [nowPaid]
    exact List.nodup_append.mpr ⟨sound.paidOnce, List.nodup_singleton _, by
      intro seq isPaid last isLast
      obtain rfl : last = paidMsgSeq := by simpa using isLast
      rintro rfl
      exact unpaid isPaid⟩
  · intro seq entry isFound
    rw [nowPaid, List.mem_append, List.mem_singleton]
    rw [table, OrderedMap.get_insert] at isFound
    split at isFound
    · next same =>
      cases isFound
      simp [same, PaidMessageEscrow.spent]
    · next other =>
      rw [sound.claimed_iff seq entry isFound]
      simp [other]
  intro old isOld seq paysSeq
  rw [recorded, List.mem_append, List.mem_singleton] at isOld
  rw [sameGroup, table, OrderedMap.get_insert]
  rcases isOld with isOld | rfl
  · obtain ⟨entry, isEntry, fulfilled⟩ := sound.fulfilled old isOld seq paysSeq
    have other : seq ≠ paidMsgSeq := by
      rintro rfl
      exact unpaid (List.mem_filterMap.mpr ⟨old, isOld, paysSeq⟩)
    exact ⟨entry, by rw [if_neg other]; exact isEntry, fulfilled⟩
  · cases isPayout ▸ paysSeq
    -- the terms of an escrow are those of its spent entry
    exact ⟨escrow.spent, by rw [if_pos rfl], pays⟩

theorem Recorded.consume (records : ledger.Recorded)
    (dedupeOnce : (ledger.consumed.map fun use => use.2.1).Nodup)
    (nonceOnce : (ledger.consumed.map fun use => (use.1, use.2.2)).Nodup)
    {middle : MessageLog}
    (recorded : next.receipts = ledger.receipts ++ [receipt])
    (consumes : ledger.log.afterConsuming receipt.call = .ok middle)
    (sameDedupe : next.log.usedDedupe = middle.usedDedupe)
    (sameNonces : next.log.nonces = middle.nonces) :
    (next.consumed.map fun use => use.2.1).Nodup ∧
      (next.consumed.map fun use => (use.1, use.2.2)).Nodup ∧
      (∀ use ∈ next.consumed, next.log.usedDedupe.get use.2.1 ≠ none) ∧
      (∀ use ∈ next.consumed, next.log.NonceUsed use.1 use.2.2) := by
  have sameUsed : ∀ who which, next.log.NonceUsed who which ↔ middle.NonceUsed who which := by
    intro who which
    simp only [MessageLog.NonceUsed, sameNonces]
  cases uses : receipt.call.consumed with
  | none =>
    have same : next.consumed = ledger.consumed := by simp [consumed, recorded, uses]
    simp only [MessageLog.afterConsuming, uses, Except.ok.injEq] at consumes
    subst consumes
    rw [same, sameDedupe]
    refine ⟨dedupeOnce, nonceOnce, records.dedupe, ?_⟩
    intro use isUse
    exact (sameUsed _ _).mpr (records.nonces use isUse)
  | some use =>
    obtain ⟨sender, dedupeKey, nonce⟩ := use
    have grown : next.consumed = ledger.consumed ++ [(sender, dedupeKey, nonce)] := by
      simp [consumed, recorded, uses]
    simp only [MessageLog.afterConsuming, uses] at consumes
    obtain ⟨freshKey, freshNonce, shape, used⟩ := MessageLog.consumeDedupeAndNonce_ok consumes
    have dedupeAfter : middle.usedDedupe = ledger.log.usedDedupe.insert dedupeKey true := by
      rw [shape]
    rw [grown, sameDedupe, dedupeAfter]
    simp only [List.map_append, List.map_cons, List.map_nil, List.mem_append,
      List.mem_singleton, OrderedMap.get_insert, sameUsed, used]
    refine ⟨?_, ?_, ?_, ?_⟩
    · refine List.nodup_append.mpr ⟨dedupeOnce, List.nodup_singleton _, ?_⟩
      intro key isKey last isLast
      obtain ⟨old, isOld, rfl⟩ := List.mem_map.mp isKey
      obtain rfl : last = dedupeKey := by simpa using isLast
      rintro rfl
      exact records.dedupe old isOld freshKey
    · refine List.nodup_append.mpr ⟨nonceOnce, List.nodup_singleton _, ?_⟩
      intro pair isPair last isLast
      obtain ⟨old, isOld, rfl⟩ := List.mem_map.mp isPair
      obtain rfl : last = (sender, nonce) := by simpa using isLast
      intro same
      obtain ⟨rfl, rfl⟩ := Prod.mk.inj same
      exact freshNonce (records.nonces old isOld)
    · rintro old (isOld | rfl)
      · split
        · simp
        · exact records.dedupe old isOld
      · simp
    · rintro old (isOld | rfl)
      · exact .inl (records.nonces old isOld)
      · exact .inr ⟨rfl, rfl⟩

/-- Time going on changes nothing. -/
theorem Recorded.wait (records : ledger.Recorded) {nowMs : U64}
    (later : ledger.nowMs.toNat ≤ nowMs.toNat) :
    ({ ledger with nowMs } : Ledger).Recorded :=
  ⟨records.dedupe, records.nonces,
    fun seq escrow found => (records.dated seq escrow found).trans later⟩

/-- **The step lemma.**  A transaction at a time not before the last one keeps the ledger
sound. -/
theorem Sound.step (sound : ledger.Sound) (records : ledger.Recorded) (tx : PaidTx)
    (later : ledger.nowMs.toNat ≤ tx.nowMs.toNat) :
    (ledger.step tx).Sound ∧ (ledger.step tx).Recorded := by
  rcases ledger.step_cases tx with
    ⟨receipt, middle, isCall, isNow, recorded, time, consumes, group, dedupe, nonces, paid⟩ | waits
  · rw [← isCall] at consumes
    have sameGroup := group.trans (MessageLog.afterConsuming_frame consumes).1
    obtain ⟨dedupeOnce, nonceOnce, dedupeKept, noncesKept⟩ :=
      records.consume sound.dedupeOnce sound.nonceOnce recorded consumes dedupe nonces
    cases paid with
    | deposit escrow noPayout fresh counted table unclaimed backed dated deposited nothingOut =>
      refine ⟨sound.deposit recorded sameGroup noPayout fresh counted table unclaimed backed
        deposited nothingOut dedupeOnce nonceOnce, dedupeKept, noncesKept, ?_⟩
      intro seq entry isFound
      rw [table, OrderedMap.get_insert] at isFound
      rw [time]
      split at isFound
      · cases isFound
        rw [dated, isNow]
      · exact (records.dated seq entry isFound).trans later
    | payout paidMsgSeq escrow isPayout found unclaimed counted table nothingIn fulfils =>
      refine ⟨sound.payout recorded sameGroup isPayout found unclaimed counted table nothingIn
        fulfils dedupeOnce nonceOnce, dedupeKept, noncesKept, ?_⟩
      intro seq entry isFound
      rw [table, OrderedMap.get_insert] at isFound
      rw [time]
      split at isFound
      · cases isFound
        exact (records.dated paidMsgSeq escrow found).trans later
      · exact (records.dated seq entry isFound).trans later
  · rw [waits]
    exact ⟨⟨sound.keys, sound.balances, sound.conserved, sound.paidOnce, sound.claimed_iff,
      sound.fulfilled, sound.dedupeOnce, sound.nonceOnce⟩, records.wait later⟩

end Ledger

/-! ## The aborts of a settled claim -/

/-- Consumption aborts only by its own assertions: the tables are asked before they are
written. -/
theorem MessageLog.asserting_consumeDedupeAndNonce (self : MessageLog) (sender : Address)
    (dedupeKey : List UInt8) (nonce : U128) :
    Asserting (self.consumeDedupeAndNonce sender dedupeKey nonce) := by
  unfold consumeDedupeAndNonce
  refine asserting_bind (asserting_assertThat _ _) fun _ _ => ?_
  refine asserting_bind (asserting_assertThat _ _) fun _ unused => ?_
  have freshKey : self.usedDedupe.get dedupeKey = none := by
    simpa [Table.contains] using assertThat_ok.mp unused
  refine asserting_bind (asserting_of_ok (Table.add_ok.mpr ⟨freshKey, rfl⟩)) fun _ _ => ?_
  obtain ⟨nonces, made, memberNonces, found⟩ : ∃ nonces, self.withNonceTable sender = .ok nonces ∧
      ∃ memberNonces, nonces.get sender = some memberNonces := by
    unfold withNonceTable
    cases found : self.nonces.get sender with
    | some => exact ⟨self.nonces, by simp [Table.contains, found], _, found⟩
    | none =>
      refine ⟨self.nonces.insert sender ∅, ?_, ∅, by simp⟩
      simp [Table.contains, Table.add, found]
  refine asserting_bind (asserting_of_ok made) fun _ isMade => ?_
  cases made ▸ isMade
  refine asserting_bind (asserting_of_ok (Table.borrow_ok.mpr found)) fun _ isFound => ?_
  refine asserting_bind (asserting_assertThat _ _) fun _ unused => ?_
  have freshNonce := assertThat_ok.mp unused
  refine asserting_bind (asserting_of_ok (Table.add_ok.mpr ⟨?_, rfl⟩)) fun _ _ => ?_
  · simpa [Table.contains] using freshNonce
  · exact asserting_ok _

/-- Taking an escrow aborts only by its own assertions when the entry is not dated after
the clock: the elapsed time does not underflow. -/
theorem MessageLog.asserting_takeEscrow (self : MessageLog) (sender : Address)
    (paidMsgSeq : U64) (charCount : U32) (dedupeKey : List UInt8) (nonce : U128) (nowMs : U64)
    (dated : ∀ escrow, self.paidMsgEscrow.get paidMsgSeq = some escrow →
      escrow.createdAtMs.toNat ≤ nowMs.toNat) :
    Asserting (self.takeEscrow sender paidMsgSeq charCount dedupeKey nonce nowMs) := by
  unfold takeEscrow
  refine asserting_bind (asserting_assertThat _ _) fun _ contained => ?_
  obtain ⟨escrow, found⟩ := Table.contains_iff.mp (assertThat_ok.mp contained)
  have borrowed : (Table.borrow self.paidMsgEscrow paidMsgSeq : Move MessageLogError _) =
      .ok escrow := Table.borrow_ok.mpr found
  refine asserting_bind (asserting_of_ok borrowed) fun _ isFound => ?_
  cases borrowed ▸ isFound
  refine asserting_bind (asserting_assertThat _ _) fun _ _ => ?_
  refine asserting_bind (asserting_assertThat _ _) fun _ _ => ?_
  have past := dated escrow found
  have elapsed : (subU nowMs escrow.createdAtMs : Move MessageLogError _) =
      .ok (nowMs - escrow.createdAtMs) := by
    rw [subU_ok, BitVec.toNat_sub_of_le (BitVec.le_def.mpr past)]
    omega
  refine asserting_bind (asserting_of_ok elapsed) fun _ _ => ?_
  refine asserting_bind (asserting_assertThat _ _) fun _ _ => ?_
  refine asserting_bind (asserting_assertThat _ _) fun _ _ => ?_
  refine asserting_bind (self.asserting_consumeDedupeAndNonce sender dedupeKey nonce)
    fun consumed took => ?_
  have again : consumed.paidMsgEscrow.get paidMsgSeq = some escrow := by
    obtain ⟨-, -, shape, -⟩ := consumeDedupeAndNonce_ok took
    rw [shape]
    exact found
  refine asserting_bind (asserting_of_ok (Table.borrow_ok.mpr again)) fun _ _ => ?_
  refine asserting_bind (asserting_assertThat _ _) fun _ _ => ?_
  refine asserting_bind (asserting_assertThat _ _) fun _ _ => ?_
  exact asserting_ok _

/-- A settled claim aborts only by the assertions of `message_log`: no integer operation,
no cast and no split of a coin fails. -/
theorem MessageLog.asserting_claimSettled (self : MessageLog) (sender : Address)
    (paidMsgSeq : U64) (charCount : U32) (dedupeKey : List UInt8) (nonce : U128) (nowMs : U64)
    (platformFeeRecipient ecosystemFeeRecipient : Address)
    (dated : ∀ escrow, self.paidMsgEscrow.get paidMsgSeq = some escrow →
      escrow.createdAtMs.toNat ≤ nowMs.toNat) :
    Asserting (self.replyToPaidMessageClaimSettled sender paidMsgSeq charCount dedupeKey nonce
      nowMs platformFeeRecipient ecosystemFeeRecipient) := by
  unfold replyToPaidMessageClaimSettled
  refine asserting_bind (self.asserting_takeEscrow sender paidMsgSeq charCount dedupeKey nonce
    nowMs dated) fun taken _ => ?_
  obtain ⟨totals, splits, -, -⟩ := distributeEscrowToRecipients_eq taken.2.1
    platformFeeRecipient ecosystemFeeRecipient taken.1.recipient
  refine asserting_bind (asserting_of_ok splits) fun _ _ => ?_
  exact asserting_ok _

/-! ## Every run -/

def Ledger.opened (log : MessageLog) (nowMs : U64) : Ledger := { log, nowMs, receipts := [] }

theorem Ledger.opened_sound {taken left : List String} {uuid : String} {log : MessageLog}
    (created : MessageLog.new taken uuid groupId = .ok (log, left, effects)) (nowMs : U64) :
    (Ledger.opened log nowMs).Sound ∧ (Ledger.opened log nowMs).Recorded := by
  simp only [MessageLog.new, bind_ok, assertThat_ok, pure_ok, Prod.mk.injEq] at created
  obtain ⟨-, -, rfl, -, -⟩ := created
  refine ⟨⟨?_, by rintro _ _ ⟨⟩, rfl, List.nodup_nil, by rintro _ _ ⟨⟩, by rintro _ ⟨⟩,
    List.nodup_nil, List.nodup_nil⟩, by rintro _ ⟨⟩, by rintro _ ⟨⟩, by rintro _ _ ⟨⟩⟩
  intro seq
  simp [Ledger.opened, Table.contains, EmptyCollection.emptyCollection]

/-- The clock does not go back. -/
def Ledger.Later (ledger : Ledger) (tx : PaidTx) : Prop := ledger.nowMs.toNat ≤ tx.nowMs.toNat

instance : DecidableRel Ledger.Later := fun ledger tx =>
  inferInstanceAs (Decidable (ledger.nowMs.toNat ≤ tx.nowMs.toNat))

/-- **Escrow conserves money and pays each message out once.**  However the four paid
operations are called on a log made by `new`, with a clock that does not go back, the
ledger is sound at every point; and a settled claim at that point aborts only by one of
the module's assertions, never in an integer operation, a cast or a split. -/
theorem sound_of_run (taken left : List String) (uuid : String) (groupId : Address)
    (log : MessageLog) (effects : Effects) (openedMs : U64) (txs : List PaidTx)
    (created : MessageLog.new taken uuid groupId = .ok (log, left, effects))
    (clock : Along Ledger.step Ledger.Later (Ledger.opened log openedMs) txs) :
    (txs.foldl Ledger.step (Ledger.opened log openedMs)).Sound ∧
    ∀ (sender : Address) (paidMsgSeq : U64) (charCount : U32) (dedupeKey : List UInt8)
      (nonce : U128) (nowMs : U64) (platformFeeRecipient ecosystemFeeRecipient : Address),
      (txs.foldl Ledger.step (Ledger.opened log openedMs)).nowMs.toNat ≤ nowMs.toNat →
      ∀ reason,
        (txs.foldl Ledger.step (Ledger.opened log openedMs)).log.replyToPaidMessageClaimSettled
          sender paidMsgSeq charCount dedupeKey nonce nowMs platformFeeRecipient
          ecosystemFeeRecipient = .error reason →
        ∃ error, reason = .code error := by
  obtain ⟨sound, recorded⟩ := clock.invariant
    (fun ledger tx (both : ledger.Sound ∧ ledger.Recorded) later => both.1.step both.2 tx later)
    (Ledger.opened_sound created openedMs)
  refine ⟨sound, ?_⟩
  intro sender paidMsgSeq charCount dedupeKey nonce nowMs platform ecosystem later
  refine MessageLog.asserting_claimSettled _ sender paidMsgSeq charCount dedupeKey nonce nowMs
    platform ecosystem fun escrow found => ?_
  exact (recorded.dated paidMsgSeq escrow found).trans later

/-- Two deposits, one claimed with fees inside the window and one refunded after it. -/
def twoPayments : List PaidTx :=
  [ { call := .sendPaidMessage 1 2 12000 10000 [1] 1, nowMs := 5 },
    { call := .sendPaidMessage 1 2 7 7 [2] 2, nowMs := 6 },
    { call := .replyToPaidMessageClaimSettled 2 0 6 [3] 1 8 9, nowMs := 7 },
    { call := .refundPaidMessage 1 1, nowMs := 6 + 30 * 86400000 } ]

theorem sound_of_twoPayments :
    (twoPayments.foldl Ledger.step (Ledger.opened ⟨3, "g", 0, ∅, ∅, ∅⟩ 5)).Sound ∧
    (twoPayments.foldl Ledger.step (Ledger.opened ⟨3, "g", 0, ∅, ∅, ∅⟩ 5)).paidSeqs = [0, 1] :=
  ⟨(sound_of_run [] ["g"] "g" 3 _ _ 5 twoPayments rfl (by decide)).1, by decide⟩

end MessagingStack.Contract

import MessagingStack.Base.MoveVm
import Mathlib.Tactic.NormNum

/-!
# The paid-message escrow of a group

The contract module that holds the payments of a group
(`move/packages/messaging/sources/message_log.move`) with the fee split of
`paid_escrow_settlement.move`.  A paid message deposits coins under the next sequence
number; its recipient takes them with a reply inside the payment window, whole
(`replyToPaidMessageClaimCoin`) or less the two fees (`replyToPaidMessageClaimSettled`),
and its payer gets them back after the window (`refundPaidMessage`).  Dedupe keys and
per-sender nonces are consumed by the sends and the replies.
-/

namespace MessagingStack.Contract

/-! ## Data -/

inductive MessageLogError where
  | messageLogExists
  | dedupeUsed
  | nonceUsed
  | forbidden
  | insufficientPayment
  | paidNotFound
  | paymentExpired
  | paymentClaimed
  | replyTooShort
  | dedupeKeyTooLong
  | vaultEmpty
  deriving DecidableEq

/-- `MIN_REPLY_CHARS`. -/
def minReplyChars : Nat := 6

/-- `PAYMENT_EXPIRATION_MS`: thirty days. -/
def paymentExpirationMs : Nat := 30 * 86400000

/-- `MAX_DEDUPE_KEY_BYTES`. -/
def maxDedupeKeyBytes : Nat := 256

structure PaidMessageEscrow where
  payer : Address
  recipient : Address
  amount : U64
  escrowedBalance : U64
  createdAtMs : U64
  claimed : Bool
  deriving DecidableEq

structure MessageLog where
  groupId : Address
  uuid : String
  nextSeq : U64
  usedDedupe : OrderedMap (List UInt8) Bool
  nonces : OrderedMap Address (OrderedMap U128 Bool)
  paidMsgEscrow : OrderedMap U64 PaidMessageEscrow
  deriving DecidableEq

structure EscrowFeeTotals where
  totalAmount : U64
  platformFee : U64
  treasuryFee : U64
  netAmount : U64
  deriving DecidableEq

inductive MessageLogEvent where
  | messageLogCreated (groupId : Address) (uuid : String)
  | paidMessageSent (groupId : Address) (seq : U64) (payer recipient : Address)
      (amount createdAtMs : U64)
  | paidMessageReplied (groupId : Address) (paidMsgSeq : U64) (recipient : Address)
      (replyCharCount : U32)
  | paymentClaimed (groupId : Address) (seq : U64) (recipient : Address) (amount claimedAtMs : U64)
  | paymentClaimedSettled (groupId : Address) (seq : U64) (recipient : Address)
      (totals : EscrowFeeTotals) (platformFeeRecipient ecosystemFeeRecipient : Address)
      (claimedAtMs : U64)
  | paymentRefunded (groupId : Address) (seq : U64) (payer : Address) (amount refundedAtMs : U64)
  deriving DecidableEq

structure Transfer where
  recipient : Address
  value : U64
  deriving DecidableEq

/-- What a transaction does beside changing the log. -/
structure Effects where
  transfers : List Transfer
  events : List MessageLogEvent
  deriving DecidableEq

open Move

/-! ## Lifecycle -/

/-- `new`: `taken` are the uuids whose log the namespace has derived already. -/
def MessageLog.new (taken : List String) (uuid : String) (groupId : Address) :
    Move MessageLogError (MessageLog × List String × Effects) := do
  assertThat (uuid ∉ taken) .messageLogExists
  let log : MessageLog :=
    { groupId, uuid, nextSeq := 0, usedDedupe := ∅, nonces := ∅, paidMsgEscrow := ∅ }
  return (log, uuid :: taken, { transfers := [], events := [.messageLogCreated groupId uuid] })

def MessageLog.paidMessageParties (self : MessageLog) (paidMsgSeq : U64) :
    Move MessageLogError (Address × Address) := do
  let escrow ← Table.borrow self.paidMsgEscrow paidMsgSeq
  return (escrow.payer, escrow.recipient)

/-! ## Dedupe keys and nonces -/

/-- The sender's table of nonces, made when the sender has none. -/
def MessageLog.withNonceTable (self : MessageLog) (sender : Address) :
    Move MessageLogError (OrderedMap Address (OrderedMap U128 Bool)) :=
  if Table.contains self.nonces sender then .ok self.nonces
  else Table.add self.nonces sender ∅

def MessageLog.consumeDedupeAndNonce (self : MessageLog) (sender : Address)
    (dedupeKey : List UInt8) (nonce : U128) : Move MessageLogError MessageLog := do
  assertThat (dedupeKey.length ≤ maxDedupeKeyBytes) .dedupeKeyTooLong
  assertThat (¬Table.contains self.usedDedupe dedupeKey) .dedupeUsed
  let usedDedupe ← Table.add self.usedDedupe dedupeKey true
  let nonces ← self.withNonceTable sender
  let memberNonces ← Table.borrow nonces sender
  assertThat (¬Table.contains memberNonces nonce) .nonceUsed
  let memberNonces ← Table.add memberNonces nonce true
  return { self with usedDedupe, nonces := nonces.insert sender memberNonces }

/-! ## Paid send, reply and refund -/

def MessageLog.sendPaidMessage (self : MessageLog) (sender recipient : Address)
    (payment escrowAmount : U64) (dedupeKey : List UInt8) (nonce : U128) (nowMs : U64) :
    Move MessageLogError (MessageLog × Effects) := do
  assertThat (escrowAmount.toNat ≤ payment.toNat) .insufficientPayment
  let self ← self.consumeDedupeAndNonce sender dedupeKey nonce
  let seq := self.nextSeq
  let nextSeq ← addU seq 1
  let change ← split payment escrowAmount
  let escrow : PaidMessageEscrow :=
    { payer := sender, recipient, amount := escrowAmount, escrowedBalance := escrowAmount,
      createdAtMs := nowMs, claimed := false }
  let paidMsgEscrow ← Table.add self.paidMsgEscrow seq escrow
  return ({ self with nextSeq, paidMsgEscrow },
    -- a coin without value is destroyed, not sent back
    { transfers := if 0 < change.toNat then [⟨sender, change⟩] else [],
      events := [.paidMessageSent self.groupId seq sender recipient escrowAmount nowMs] })

/-- What the two claims have in common: the checks, the consumption of the key and the
nonce, and the withdrawal.  Returns the escrow as it was, the coin withdrawn and the log
with the entry marked. -/
def MessageLog.takeEscrow (self : MessageLog) (sender : Address) (paidMsgSeq : U64)
    (charCount : U32) (dedupeKey : List UInt8) (nonce : U128) (nowMs : U64) :
    Move MessageLogError (PaidMessageEscrow × U64 × MessageLog) := do
  assertThat (Table.contains self.paidMsgEscrow paidMsgSeq) .paidNotFound
  let escrowRef ← Table.borrow self.paidMsgEscrow paidMsgSeq
  assertThat (sender = escrowRef.recipient) .forbidden
  assertThat (¬escrowRef.claimed) .paymentClaimed
  let elapsed ← subU nowMs escrowRef.createdAtMs
  assertThat (elapsed.toNat ≤ paymentExpirationMs) .paymentExpired
  assertThat (minReplyChars ≤ charCount.toNat) .replyTooShort
  let self ← self.consumeDedupeAndNonce sender dedupeKey nonce
  let escrow ← Table.borrow self.paidMsgEscrow paidMsgSeq
  assertThat (¬escrow.claimed) .paymentClaimed
  let coin := escrow.escrowedBalance
  assertThat (0 < coin.toNat) .vaultEmpty
  return (escrow, coin,
    { self with
      paidMsgEscrow := self.paidMsgEscrow.insert paidMsgSeq
        { escrow with claimed := true, escrowedBalance := 0 } })

def MessageLog.replyToPaidMessageClaimCoin (self : MessageLog) (sender : Address)
    (paidMsgSeq : U64) (charCount : U32) (dedupeKey : List UInt8) (nonce : U128)
    (nowMs : U64) : Move MessageLogError (U64 × MessageLog × Effects) := do
  let (escrow, coin, self) ← self.takeEscrow sender paidMsgSeq charCount dedupeKey nonce nowMs
  return (coin, self,
    { transfers := [],
      events :=
        [.paidMessageReplied self.groupId paidMsgSeq sender charCount,
          .paymentClaimed self.groupId paidMsgSeq escrow.recipient escrow.amount nowMs] })

/-- `PAID_MSG_PLATFORM_FEE_BPS`. -/
def paidMsgPlatformFeeBps : U64 := 250

/-- `PAID_MSG_TREASURY_FEE_BPS`. -/
def paidMsgTreasuryFeeBps : U64 := 250

def feeOf (totalAmount bps : U64) : Move MessageLogError U64 := do
  let total ← castU 128 totalAmount
  let rate ← castU 128 bps
  let product ← mulU total rate
  castU 64 (product / (10000 : U128))

/-- Split a fee off a coin and send it to its recipient; nothing is done for a fee of
zero. -/
def payFee (coin fee : U64) (recipient : Address) :
    Move MessageLogError (U64 × List Transfer) :=
  if 0 < fee.toNat then do
    let rest ← split coin fee
    return (rest, [⟨recipient, fee⟩])
  else return (coin, [])

def distributeEscrowToRecipients (escrowCoin : U64)
    (platformFeeRecipient ecosystemFeeRecipient primaryRecipient : Address) :
    Move MessageLogError (EscrowFeeTotals × List Transfer) := do
  let platformFee ← feeOf escrowCoin paidMsgPlatformFeeBps
  let treasuryFee ← feeOf escrowCoin paidMsgTreasuryFeeBps
  let lessPlatform ← subU escrowCoin platformFee
  let netAmount ← subU lessPlatform treasuryFee
  let (rest, platformTransfers) ← payFee escrowCoin platformFee platformFeeRecipient
  let (rest, treasuryTransfers) ← payFee rest treasuryFee ecosystemFeeRecipient
  return ({ totalAmount := escrowCoin, platformFee, treasuryFee, netAmount },
    platformTransfers ++ treasuryTransfers ++ [⟨primaryRecipient, rest⟩])

def MessageLog.replyToPaidMessageClaimSettled (self : MessageLog) (sender : Address)
    (paidMsgSeq : U64) (charCount : U32) (dedupeKey : List UInt8) (nonce : U128)
    (nowMs : U64) (platformFeeRecipient ecosystemFeeRecipient : Address) :
    Move MessageLogError (MessageLog × Effects) := do
  let (escrow, coin, self) ← self.takeEscrow sender paidMsgSeq charCount dedupeKey nonce nowMs
  let (totals, transfers) ← distributeEscrowToRecipients coin platformFeeRecipient
    ecosystemFeeRecipient escrow.recipient
  return (self,
    { transfers,
      events :=
        [.paidMessageReplied self.groupId paidMsgSeq sender charCount,
          .paymentClaimedSettled self.groupId paidMsgSeq escrow.recipient
            { totals with totalAmount := escrow.amount }
            platformFeeRecipient ecosystemFeeRecipient nowMs] })

def MessageLog.refundPaidMessage (self : MessageLog) (sender : Address) (paidMsgSeq : U64)
    (nowMs : U64) : Move MessageLogError (MessageLog × Effects) := do
  assertThat (Table.contains self.paidMsgEscrow paidMsgSeq) .paidNotFound
  let escrow ← Table.borrow self.paidMsgEscrow paidMsgSeq
  assertThat (sender = escrow.payer) .forbidden
  assertThat (¬escrow.claimed) .paymentClaimed
  let elapsed ← subU nowMs escrow.createdAtMs
  assertThat (paymentExpirationMs ≤ elapsed.toNat) .paymentExpired
  return (
    { self with
      paidMsgEscrow := self.paidMsgEscrow.insert paidMsgSeq
        { escrow with claimed := true, escrowedBalance := 0 } },
    { transfers := [⟨escrow.payer, escrow.escrowedBalance⟩],
      events := [.paymentRefunded self.groupId paidMsgSeq escrow.payer escrow.amount nowMs] })

/-! ## What each function does -/

def MessageLog.NonceUsed (self : MessageLog) (sender : Address) (nonce : U128) : Prop :=
  ∃ memberNonces, self.nonces.get sender = some memberNonces ∧ memberNonces.get nonce ≠ none

variable {self : MessageLog} {nowMs : U64} {sender : Address} {dedupeKey : List UInt8}
  {nonce : U128} {after : MessageLog} {paidMsgSeq : U64} {escrow : PaidMessageEscrow}

/-- Consumption needs a fresh key and a fresh nonce, marks exactly these two, and leaves
the escrows alone. -/
theorem MessageLog.consumeDedupeAndNonce_ok
    (returned : self.consumeDedupeAndNonce sender dedupeKey nonce = .ok after) :
    self.usedDedupe.get dedupeKey = none ∧
      ¬self.NonceUsed sender nonce ∧
      after = { self with
        usedDedupe := self.usedDedupe.insert dedupeKey true
        nonces := after.nonces } ∧
      ∀ who which, after.NonceUsed who which ↔
        self.NonceUsed who which ∨ who = sender ∧ which = nonce := by
  simp only [consumeDedupeAndNonce, bind_ok, assertThat_ok, pure_ok, Table.add_ok,
    Table.borrow_ok] at returned
  obtain ⟨-, -, -, -, used, ⟨fresh, rfl⟩, nonces, made, member, found, -, -, added,
    ⟨unused, rfl⟩, rfl⟩ := returned
  -- the table made for a new sender is empty, so it holds no nonce
  have before : ∀ who which, self.NonceUsed who which ↔
      ∃ held, nonces.get who = some held ∧ held.get which ≠ none := by
    intro who which
    unfold withNonceTable at made
    split at made
    · cases made
      exact Iff.rfl
    rw [Table.add_ok] at made
    obtain ⟨absent, rfl⟩ := made
    rw [OrderedMap.get_insert]
    by_cases same : who = sender
    · subst same
      simp [NonceUsed, absent, EmptyCollection.emptyCollection]
    · simp [NonceUsed, same]
  refine ⟨fresh, ?_, rfl, ?_⟩
  · rw [before]
    rintro ⟨held, isHeld, taken⟩
    cases found ▸ isHeld
    exact taken unused
  intro who which
  rw [before]
  simp only [NonceUsed, OrderedMap.get_insert]
  by_cases same : who = sender
  · subst same
    by_cases isNonce : which = nonce <;> simp [found, isNonce]
  · simp [same]

variable {effects : Effects} {createdAtMs : U64} {charCount : U32}

theorem MessageLog.sendPaidMessage_ok {recipient : Address} {payment escrowAmount : U64}
    (returned : self.sendPaidMessage sender recipient payment escrowAmount dedupeKey nonce nowMs =
      .ok (after, effects))
    :
    ∃ consumed, self.consumeDedupeAndNonce sender dedupeKey nonce = .ok consumed ∧
      self.paidMsgEscrow.get self.nextSeq = none ∧
      after.nextSeq.toNat = self.nextSeq.toNat + 1 ∧
      after = { consumed with
        nextSeq := after.nextSeq
        paidMsgEscrow := self.paidMsgEscrow.insert self.nextSeq
          { payer := sender, recipient, amount := escrowAmount,
            escrowedBalance := escrowAmount, createdAtMs := nowMs, claimed := false } } ∧
      escrowAmount.toNat + (effects.transfers.map (·.value.toNat)).sum = payment.toNat := by
  simp only [sendPaidMessage, bind_ok, assertThat_ok, pure_ok, Table.add_ok, addU_ok,
    split_ok] at returned
  obtain ⟨-, -, consumed, took, next, counted, change, split, table, ⟨absent, rfl⟩, made⟩ :=
    returned
  obtain ⟨-, -, shape, -⟩ := consumeDedupeAndNonce_ok took
  have sameSeq : consumed.nextSeq = self.nextSeq := by rw [shape]
  have sameTable : consumed.paidMsgEscrow = self.paidMsgEscrow := by rw [shape]
  rw [sameSeq] at counted
  rw [sameSeq, sameTable] at absent
  simp only [Prod.mk.injEq] at made
  obtain ⟨rfl, rfl⟩ := made
  refine ⟨consumed, took, absent, by simpa using counted, ?_, ?_⟩
  · rw [sameSeq, sameTable]
  · dsimp only
    split_ifs <;> simp <;> omega

theorem elapsed_le {elapsed : U64} (computed : elapsed.toNat + createdAtMs.toNat = nowMs.toNat) :
    elapsed.toNat ≤ paymentExpirationMs ↔
      nowMs.toNat ≤ createdAtMs.toNat + paymentExpirationMs := by
  omega

/-- **Taking an escrow**: only its recipient, inside the window, an entry that is unclaimed
and holds a coin; the entry is emptied and marked. -/
theorem MessageLog.takeEscrow_ok {coin : U64}
    (returned : self.takeEscrow sender paidMsgSeq charCount dedupeKey nonce nowMs =
      .ok (escrow, coin, after))
    :
    ∃ consumed, self.consumeDedupeAndNonce sender dedupeKey nonce = .ok consumed ∧
      self.paidMsgEscrow.get paidMsgSeq = some escrow ∧
      sender = escrow.recipient ∧ escrow.claimed = false ∧
      nowMs.toNat ≤ escrow.createdAtMs.toNat + paymentExpirationMs ∧
      coin = escrow.escrowedBalance ∧
      after = { consumed with
        paidMsgEscrow := self.paidMsgEscrow.insert paidMsgSeq
          { escrow with claimed := true, escrowedBalance := 0 } } := by
  simp only [takeEscrow, bind_ok, assertThat_ok, pure_ok, Table.borrow_ok, subU_ok,
    Prod.mk.injEq] at returned
  obtain ⟨-, -, found, isFound, -, isRecipient, -, unclaimed, elapsed, computed, -, inWindow,
    -, -, consumed, took, again, isAgain, -, -, -, -, rfl, rfl, rfl⟩ := returned
  obtain ⟨-, -, shape, -⟩ := consumeDedupeAndNonce_ok took
  have sameTable : consumed.paidMsgEscrow = self.paidMsgEscrow := by rw [shape]
  rw [sameTable] at isAgain
  obtain rfl : found = again := Option.some.inj (isFound.symm.trans isAgain)
  refine ⟨consumed, took, isFound, isRecipient, by simpa using unclaimed,
    (elapsed_le computed).mp inWindow, rfl, ?_⟩
  rw [sameTable]

/-- **A refund** goes to the payer, after the window, of an entry that is unclaimed. -/
theorem MessageLog.refundPaidMessage_ok
    (returned : self.refundPaidMessage sender paidMsgSeq nowMs = .ok (after, effects)) :
    ∃ escrow, self.paidMsgEscrow.get paidMsgSeq = some escrow ∧
      sender = escrow.payer ∧ escrow.claimed = false ∧
      escrow.createdAtMs.toNat + paymentExpirationMs ≤ nowMs.toNat ∧
      effects.transfers = [⟨escrow.payer, escrow.escrowedBalance⟩] ∧
      after = { self with
        paidMsgEscrow := self.paidMsgEscrow.insert paidMsgSeq
          { escrow with claimed := true, escrowedBalance := 0 } } := by
  simp only [refundPaidMessage, bind_ok, assertThat_ok, pure_ok, Table.borrow_ok, subU_ok,
    Prod.mk.injEq] at returned
  obtain ⟨-, -, escrow, isFound, -, isPayer, -, unclaimed, elapsed, computed, -, expired,
    rfl, rfl⟩ := returned
  exact ⟨escrow, isFound, isPayer, by simpa using unclaimed, by omega, rfl, rfl⟩

/-! ## When each function returns -/

/-- The difference of two times, the earlier first. -/
theorem subU_returns (dated : createdAtMs.toNat ≤ nowMs.toNat) :
    (subU nowMs createdAtMs : Move MessageLogError U64) = .ok (nowMs - createdAtMs) ∧
      (nowMs - createdAtMs).toNat + createdAtMs.toNat = nowMs.toNat := by
  have difference : (nowMs - createdAtMs).toNat = nowMs.toNat - createdAtMs.toNat :=
    BitVec.toNat_sub_of_le dated
  exact ⟨subU_ok.mpr (by omega), by omega⟩

theorem MessageLog.consumeDedupeAndNonce_returns (short : dedupeKey.length ≤ maxDedupeKeyBytes)
    (freshKey : self.usedDedupe.get dedupeKey = none) (freshNonce : ¬self.NonceUsed sender nonce) :
    ∃ after, self.consumeDedupeAndNonce sender dedupeKey nonce = .ok after := by
  have isNew : ¬Table.contains self.usedDedupe dedupeKey = true := by
    simp [Table.contains, freshKey]
  obtain ⟨nonces, held, made, isHeld, unused⟩ : ∃ nonces held,
      self.withNonceTable sender = .ok nonces ∧ nonces.get sender = some held ∧
        held.get nonce = none := by
    unfold withNonceTable Table.contains
    cases found : self.nonces.get sender with
    | some held =>
      refine ⟨self.nonces, held, by simp, found, ?_⟩
      by_contra used
      exact freshNonce ⟨held, found, used⟩
    | none => exact ⟨self.nonces.insert sender ∅, ∅, by simp [found], by simp, rfl⟩
  have unusedNonce : ¬Table.contains held nonce = true := by simp [Table.contains, unused]
  simp only [consumeDedupeAndNonce, bind_ok, assertThat_ok, pure_ok, Table.add_ok, Table.borrow_ok]
  exact ⟨_, ⟨⟩, short, ⟨⟩, isNew, _, ⟨freshKey, rfl⟩, nonces, made, held, isHeld, ⟨⟩, unusedNonce,
    _, ⟨unused, rfl⟩, rfl⟩

theorem MessageLog.refundPaidMessage_returns
    (found : self.paidMsgEscrow.get paidMsgSeq = some escrow) (unclaimed : escrow.claimed = false)
    (expired : escrow.createdAtMs.toNat + paymentExpirationMs ≤ nowMs.toNat) :
    ∃ effects, effects.transfers = [⟨escrow.payer, escrow.escrowedBalance⟩] ∧
      self.refundPaidMessage escrow.payer paidMsgSeq nowMs =
        .ok ({ self with
          paidMsgEscrow := self.paidMsgEscrow.insert paidMsgSeq
            { escrow with claimed := true, escrowedBalance := 0 } }, effects) := by
  obtain ⟨difference, sum⟩ := subU_returns (show escrow.createdAtMs.toNat ≤ nowMs.toNat by omega)
  have isFound : Table.contains self.paidMsgEscrow paidMsgSeq = true :=
    Table.contains_iff.mpr ⟨escrow, found⟩
  simp only [refundPaidMessage, bind_ok, assertThat_ok, pure_ok, Table.borrow_ok]
  exact ⟨_, rfl, ⟨⟩, isFound, escrow, found, ⟨⟩, rfl, ⟨⟩, by simp [unclaimed], _, difference, ⟨⟩,
    by omega, rfl⟩

theorem MessageLog.replyToPaidMessageClaimCoin_returns
    (found : self.paidMsgEscrow.get paidMsgSeq = some escrow) (unclaimed : escrow.claimed = false)
    (dated : escrow.createdAtMs.toNat ≤ nowMs.toNat)
    (inWindow : nowMs.toNat ≤ escrow.createdAtMs.toNat + paymentExpirationMs)
    (long : minReplyChars ≤ charCount.toNat) (positive : 0 < escrow.escrowedBalance.toNat)
    (short : dedupeKey.length ≤ maxDedupeKeyBytes) (freshKey : self.usedDedupe.get dedupeKey = none)
    (freshNonce : ¬self.NonceUsed escrow.recipient nonce) :
    ∃ after effects, effects.transfers = [] ∧
      after.paidMsgEscrow = self.paidMsgEscrow.insert paidMsgSeq
        { escrow with claimed := true, escrowedBalance := 0 } ∧
      self.replyToPaidMessageClaimCoin escrow.recipient paidMsgSeq charCount dedupeKey nonce
        nowMs = .ok (escrow.escrowedBalance, after, effects) := by
  obtain ⟨difference, sum⟩ := subU_returns dated
  have isFound : Table.contains self.paidMsgEscrow paidMsgSeq = true :=
    Table.contains_iff.mpr ⟨escrow, found⟩
  have notClaimed : ¬escrow.claimed = true := by simp [unclaimed]
  obtain ⟨consumed, took⟩ := consumeDedupeAndNonce_returns short freshKey freshNonce
  obtain ⟨-, -, shape, -⟩ := consumeDedupeAndNonce_ok took
  have sameTable : consumed.paidMsgEscrow = self.paidMsgEscrow := by rw [shape]
  have still : consumed.paidMsgEscrow.get paidMsgSeq = some escrow := by rw [sameTable, found]
  have taken : self.takeEscrow escrow.recipient paidMsgSeq charCount dedupeKey nonce nowMs =
      .ok (escrow, escrow.escrowedBalance,
        { consumed with
          paidMsgEscrow := consumed.paidMsgEscrow.insert paidMsgSeq
            { escrow with claimed := true, escrowedBalance := 0 } }) := by
    simp only [takeEscrow, bind_ok, assertThat_ok, pure_ok, Table.borrow_ok]
    exact ⟨⟨⟩, isFound, escrow, found, ⟨⟩, rfl, ⟨⟩, notClaimed, _, difference, ⟨⟩, by omega, ⟨⟩,
      long, consumed, took, escrow, still, ⟨⟩, notClaimed, ⟨⟩, positive, rfl⟩
  refine ⟨_, _, ?_, ?_, by simp only [replyToPaidMessageClaimCoin, taken, ok_bind]; rfl⟩
  · rfl
  · rw [sameTable]

/-! ## The fee split -/

theorem feeOf_eq (totalAmount : U64) (bps : U64) (small : bps.toNat ≤ 10000) :
    ∃ fee, feeOf totalAmount bps = .ok fee ∧ fee.toNat = totalAmount.toNat * bps.toNat / 10000 := by
  have bounded := totalAmount.isLt
  have product : totalAmount.toNat * bps.toNat < 2 ^ 128 := by
    calc totalAmount.toNat * bps.toNat ≤ 2 ^ 64 * 10000 :=
          Nat.mul_le_mul (Nat.le_of_lt bounded) small
      _ < 2 ^ 128 := by norm_num
  have share : totalAmount.toNat * bps.toNat / 10000 < 2 ^ 64 := by
    have scaled : totalAmount.toNat * bps.toNat ≤ totalAmount.toNat * 10000 :=
      Nat.mul_le_mul_left _ small
    omega
  refine ⟨BitVec.ofNatLT _ share, ?_, by simp⟩
  have wide : totalAmount.toNat < 2 ^ 128 := by omega
  have rate : bps.toNat < 2 ^ 128 := by omega
  simp only [feeOf, bind_ok, castU_ok, mulU_ok]
  refine ⟨BitVec.ofNatLT _ wide, by simp, BitVec.ofNatLT _ rate, by simp,
    BitVec.ofNatLT _ product, by simp, ?_⟩
  simp [BitVec.toNat_udiv]

/-- The transfers of a settled claim: the two fees, where they are not zero, and the rest. -/
def settlement (totals : EscrowFeeTotals)
    (platformFeeRecipient ecosystemFeeRecipient primaryRecipient : Address) :
    List Transfer :=
  (if 0 < totals.platformFee.toNat then [⟨platformFeeRecipient, totals.platformFee⟩] else []) ++
  (if 0 < totals.treasuryFee.toNat then [⟨ecosystemFeeRecipient, totals.treasuryFee⟩] else []) ++
  [⟨primaryRecipient, totals.netAmount⟩]

theorem settlement_sum (totals : EscrowFeeTotals)
    (platformFeeRecipient ecosystemFeeRecipient primaryRecipient : Address) :
    ((settlement totals platformFeeRecipient ecosystemFeeRecipient primaryRecipient).map
        (·.value.toNat)).sum =
      totals.platformFee.toNat + totals.treasuryFee.toNat + totals.netAmount.toNat := by
  unfold settlement
  split_ifs <;> simp <;> omega

theorem payFee_eq (coin fee : U64) (recipient : Address) (covered : fee.toNat ≤ coin.toNat) :
    payFee coin fee recipient =
      .ok (coin - fee, if 0 < fee.toNat then [⟨recipient, fee⟩] else []) := by
  unfold payFee
  split
  · simp only [split, covered, if_true]
    rfl
  next zero =>
  have isZero : fee = 0 :=
    BitVec.eq_of_toNat_eq (by simpa using Nat.le_zero.mp (Nat.not_lt.mp zero))
  subst isZero
  simp

/-- **The split never aborts** for any amount, and its three parts make up the amount. -/
theorem distributeEscrowToRecipients_eq (escrowCoin : U64)
    (platformFeeRecipient ecosystemFeeRecipient primaryRecipient : Address) :
    ∃ totals, distributeEscrowToRecipients escrowCoin platformFeeRecipient
        ecosystemFeeRecipient primaryRecipient =
          .ok (totals, settlement totals platformFeeRecipient ecosystemFeeRecipient
            primaryRecipient) ∧
      totals.totalAmount = escrowCoin ∧
      totals.platformFee.toNat + totals.treasuryFee.toNat + totals.netAmount.toNat =
        escrowCoin.toNat := by
  obtain ⟨platformFee, platform, platformShare⟩ :=
    feeOf_eq escrowCoin paidMsgPlatformFeeBps (by decide)
  obtain ⟨treasuryFee, treasury, treasuryShare⟩ :=
    feeOf_eq escrowCoin paidMsgTreasuryFeeBps (by decide)
  rw [show paidMsgPlatformFeeBps.toNat = 250 from rfl] at platformShare
  rw [show paidMsgTreasuryFeeBps.toNat = 250 from rfl] at treasuryShare
  have covered : platformFee.toNat + treasuryFee.toNat ≤ escrowCoin.toNat := by omega
  have lessPlatform : (escrowCoin - platformFee).toNat = escrowCoin.toNat - platformFee.toNat :=
    BitVec.toNat_sub_of_le (BitVec.le_def.mpr (by omega))
  have lessBoth : (escrowCoin - platformFee - treasuryFee).toNat =
      escrowCoin.toNat - platformFee.toNat - treasuryFee.toNat := by
    rw [BitVec.toNat_sub_of_le (BitVec.le_def.mpr (by omega)), lessPlatform]
  refine ⟨⟨escrowCoin, platformFee, treasuryFee, escrowCoin - platformFee - treasuryFee⟩, ?_,
    rfl, by dsimp only; omega⟩
  have first : (subU escrowCoin platformFee : Move MessageLogError _) =
      .ok (escrowCoin - platformFee) := subU_ok.mpr (by omega)
  have second : (subU (escrowCoin - platformFee) treasuryFee : Move MessageLogError _) =
      .ok (escrowCoin - platformFee - treasuryFee) := subU_ok.mpr (by omega)
  have platformPaid := payFee_eq escrowCoin platformFee platformFeeRecipient (by omega)
  have treasuryPaid := payFee_eq (escrowCoin - platformFee) treasuryFee ecosystemFeeRecipient
    (by omega)
  simp only [distributeEscrowToRecipients, platform, treasury, first, second, platformPaid,
    treasuryPaid, ok_bind]
  rfl

end MessagingStack.Contract

import MessagingStack.Base.TextSearch
import MessagingStack.Relayer.Messages

/-!
# Confirmation of transfers

`services/transfer_confirmation.rs` and `handlers/messages/payments.rs`: what the relayer
concludes from the fullnode's answer about a digest, and the single storage operations by
which a transfer is resolved, a request is reopened, and a request is rejected or
cancelled.  Every status changes by a compare-and-set of its own; what runs between them is
left to `PaymentSettlement`.
-/

namespace MessagingStack.Relayer.TransferConfirmation

/-! ## The verdict -/

/-- One balance change from a transaction's effects. -/
structure BalanceDelta where
  address : String
  coinType : String
  amount : Int
  deriving DecidableEq

structure TokenTransferredEvent where
  sender : String
  recipient : String
  deriving DecidableEq

inductive ChainOutcome where
  /-- The fullnode does not know this digest (yet). -/
  | notFound
  | executed (sender : String) (success : Bool) (sptTransfers : List TokenTransferredEvent)
      (balanceChanges : List BalanceDelta)
  deriving DecidableEq

def isHexAddress (addr : String) : Bool :=
  let hex :=
    match addr.toList with
    | '0' :: 'x' :: hex => hex
    | hex => hex
  !hex.isEmpty && decide (hex.length ≤ 64) && hex.all Text.isAsciiHexdigit

/-- True for the coins clients send as `asset_kind: native`. -/
def isNativeCoin (coinType : String) : Bool :=
  match (Text.pathSegments (Text.trim coinType).toList).map String.ofList with
  | [addr, "myso", "MYSO"] => normalizeAddress addr == normalizeAddress "0x2"
  | [addr, "myusd", "MYUSD"] | [addr, "btc", "BTC"] | [addr, "eth", "ETH"] => isHexAddress addr
  | _ => false

structure TransferExpectation where
  sender : String
  recipient : String
  assetKind : PaymentAssetKind
  deriving DecidableEq

inductive Verdict where
  | success
  | failed (reason : String)
  deriving DecidableEq

/-- An SPT transfer needs the event that names both parties. -/
def sptMatches (expected : TransferExpectation) (transfers : List TokenTransferredEvent) :
    Bool :=
  transfers.any fun transfer =>
    normalizeAddress transfer.sender == normalizeAddress expected.sender &&
      normalizeAddress transfer.recipient == normalizeAddress expected.recipient

/-- A native transfer needs a credit of the peer in a native coin. -/
def peerReceived (expected : TransferExpectation) (changes : List BalanceDelta) : Bool :=
  changes.any fun change =>
    decide (0 < change.amount) && isNativeCoin change.coinType &&
      normalizeAddress change.address == normalizeAddress expected.recipient

/-- The decision from chain data; `none` is "not decidable yet". -/
def verdictFor (outcome : ChainOutcome) (expected : TransferExpectation) : Option Verdict :=
  match outcome with
  | .notFound => none
  | .executed sender success sptTransfers balanceChanges =>
    if normalizeAddress sender ≠ normalizeAddress expected.sender then
      some (.failed "sender_mismatch")
    else if !success then some (.failed "chain_failed")
    else if expected.assetKind = .spt ∧ !sptMatches expected sptTransfers then
      some (.failed "event_mismatch")
    -- without any balance change the recipient cannot be checked
    else if expected.assetKind = .native ∧ !balanceChanges.isEmpty ∧
        !peerReceived expected balanceChanges then
      some (.failed "recipient_mismatch")
    else some .success

/-- The verdict of one resolution attempt on a transfer; `answer` is absent when the lookup
failed, and `none` leaves the transfer pending. -/
def verdictOf (message : Message) (answer : Option ChainOutcome) (tooOld : Bool) :
    Option Verdict :=
  match metaStr message "digest", metaStr message "to",
      (metaStr message "asset_kind").bind PaymentAssetKind.parse with
  | some _, some recipient, some assetKind =>
    match answer with
    | none => none
    | some outcome =>
      let expected : TransferExpectation :=
        { sender := (metaStr message "sender_wallet").getD message.senderWalletAddr
          recipient := recipient
          assetKind := assetKind }
      match verdictFor outcome expected with
      | some verdict => some verdict
      | none => if tooOld then some (.failed "not_found") else none
  | _, _, _ => some (.failed "bad_metadata")

/-! ## The storage operations -/

/-- The row is a transfer that waits to be resolved. -/
def isPending (message : Message) : Bool :=
  message.kind == .tokenTransfer && Message.metadataStatus message.metadata == some "pending"

def Verdict.patch : Verdict → Json
  | .success => .obj [("status", .str "success")]
  | .failed reason => .obj [("status", .str "failed"), ("reason", .str reason)]

/-- `apply_verdict` up to the reopening: pending to success or failed. -/
def applyVerdict (now : Timestamp) (storage : InMemoryStorage) (transfer : Uuid)
    (verdict : Verdict) : Except StorageError (Option Message) × InMemoryStorage :=
  storage.updateMessageMetadataTrusted now transfer verdict.patch ["pending"]

def linkedRequest (crates : Crates) (storage : InMemoryStorage) (transfer : Message) :
    Option Uuid :=
  match (metaStr transfer "request_message_id").bind crates.parseUuid with
  | none => none
  | some requestId =>
    match storage.getMessage requestId with
    | .error _ => none
    | .ok request =>
      if metaStr request "fulfilling_message_id" = some (crates.uuidToString transfer.id) then
        some requestId
      else none

/-- Paid to open, with the link taken back. -/
def reopenRequest (now : Timestamp) (storage : InMemoryStorage) (requestId : Uuid) :
    Except StorageError (Option Message) × InMemoryStorage :=
  storage.updateMessageMetadataTrusted now requestId
    (.obj [("status", .str "open"), ("fulfilling_message_id", .null),
      ("fulfilled_digest", .null)]) ["paid"]

/-! ## Reject and cancel -/

inductive RequestAction where
  | reject
  | cancel
  deriving DecidableEq

namespace RequestAction

def parse (s : String) : Option RequestAction :=
  if s = "reject" then some .reject else if s = "cancel" then some .cancel else none

def targetStatus : RequestAction → String
  | .reject => "rejected"
  | .cancel => "cancelled"

end RequestAction

def checkRespond (crates : Crates) (auth : AuthContext) (messageId : Uuid) (action : String)
    (app : AppState) : Except ApiError RequestAction := do
  let action ←
    match RequestAction.parse (Text.trim action) with
    | some action => .ok action
    | none => .error (.badRequest "action must be reject or cancel")
  let request ← fromStorage crates (app.storage.getMessage messageId)
  if auth.authorizedGroup ≠ some request.groupId then
    .error (.forbidden "Message does not belong to the authorized group")
  if request.kind ≠ .requestPayment then .error (.badRequest "Message is not a payment request")
  let actor := normalizeAddress auth.senderAddress
  match action with
  | .reject =>
    if (metaStr request "payer").map normalizeAddress ≠ some actor then
      .error (.forbidden "Only the payer can reject a payment request")
  | .cancel =>
    if normalizeAddress request.senderWalletAddr ≠ actor then
      .error (.forbidden "Only the requester can cancel a payment request")
  if Message.metadataStatus request.metadata ≠ some "open" then
    .error (.conflict "Payment request is no longer open")
  return action

/-- Open to rejected or cancelled. -/
def respond (now : Timestamp) (storage : InMemoryStorage) (requestId : Uuid)
    (action : RequestAction) : Except StorageError (Option Message) × InMemoryStorage :=
  storage.updateMessageMetadataTrusted now requestId
    (.obj [("status", .str action.targetStatus)]) ["open"]

/-! ## The transitions of a status

All writes of a payment status are one operation with a patch and one status it starts from.
-/

/-- A change of a payment status. -/
inductive Transition where
  | paid (transfer : Uuid) (digest : String)
  | resolved (verdict : Verdict)
  /-- A request is open again. -/
  | reopened
  /-- A request is rejected or cancelled. -/
  | responded (action : RequestAction)

namespace Transition

/-- The status the row has before. -/
def source : Transition → String
  | .paid _ _ | .responded _ => "open"
  | .resolved _ => "pending"
  | .reopened => "paid"

/-- The status the row has after. -/
def target : Transition → String
  | .paid _ _ => "paid"
  | .resolved .success => "success"
  | .resolved (.failed _) => "failed"
  | .reopened => "open"
  | .responded action => action.targetStatus

def changes (crates : Crates) : Transition → List (String × Json)
  | .paid transfer digest =>
    [("status", .str "paid"), ("fulfilling_message_id", .str (crates.uuidToString transfer)),
      ("fulfilled_digest", .str digest)]
  | .resolved .success => [("status", .str "success")]
  | .resolved (.failed reason) => [("status", .str "failed"), ("reason", .str reason)]
  | .reopened =>
    [("status", .str "open"), ("fulfilling_message_id", .null), ("fulfilled_digest", .null)]
  | .responded action => [("status", .str action.targetStatus)]

def apply (crates : Crates) (now : Timestamp) (transition : Transition) (row : Message) :
    Message :=
  InMemoryStorage.patchMetadata now (.obj (transition.changes crates)) row

/-- The compare-and-set. -/
def write (crates : Crates) (now : Timestamp) (storage : InMemoryStorage) (id : Uuid)
    (transition : Transition) : Except StorageError (Option Message) × InMemoryStorage :=
  storage.updateMessageMetadataTrusted now id (.obj (transition.changes crates)) [transition.source]

end Transition

theorem markRequestPaid_eq (crates : Crates) (now : Timestamp) (storage : InMemoryStorage)
    (request transfer : Uuid) (digest : String) :
    markRequestPaid crates now storage request transfer digest =
      (Transition.write crates now storage request (.paid transfer digest)).2 := rfl

theorem applyVerdict_eq (crates : Crates) (now : Timestamp) (storage : InMemoryStorage)
    (transfer : Uuid) (verdict : Verdict) :
    applyVerdict now storage transfer verdict =
      Transition.write crates now storage transfer (.resolved verdict) := by
  cases verdict <;> rfl

theorem reopenRequest_eq (crates : Crates) (now : Timestamp) (storage : InMemoryStorage)
    (request : Uuid) :
    reopenRequest now storage request = Transition.write crates now storage request .reopened := rfl

section Transitions

variable (crates : Crates) (now : Timestamp) (storage : InMemoryStorage) (id : Uuid)
  (transition : Transition)

/-- The row on which a transition is possible. -/
structure Ready (row : Message) : Prop where
  readable : storage.poisoned .messages = false
  found : storage.row id = some row
  payment : row.kind.isDmPaymentKind = true
  status : metaStr row "status" = some transition.source

theorem write_cases :
    (∃ result, Transition.write crates now storage id transition = (result, storage) ∧
      ∀ updated, result ≠ .ok (some updated)) ∨
    (∃ row, Ready storage id transition row ∧
      Transition.write crates now storage id transition =
        (.ok (some (transition.apply crates now row)),
          storage.replaceRow id (transition.apply crates now))) := by
  unfold Transition.write InMemoryStorage.updateMessageMetadataTrusted
  cases found : storage.getMessage id with
  | error => exact .inl ⟨_, rfl, fun _ same => nomatch same⟩
  | ok row =>
    simp only
    split_ifs with otherKind otherStatus
    · exact .inl ⟨_, rfl, fun _ same => nomatch same⟩
    · exact .inl ⟨_, rfl, fun _ same => nomatch same⟩
    obtain ⟨readable, isRow⟩ := InMemoryStorage.getMessage_eq_ok.mp found
    refine .inr ⟨row, ⟨readable, isRow, by simpa using otherKind, ?_⟩, rfl⟩
    show Message.metadataStatus row.metadata = _
    cases status : Message.metadataStatus row.metadata with
    | none => simp [status] at otherStatus
    | some status => simpa [status] using otherStatus

variable {row : Message} {fields : List (String × Json)}

theorem write_of_ready (ready : Ready storage id transition row) :
    Transition.write crates now storage id transition =
      (.ok (some (transition.apply crates now row)),
        storage.replaceRow id (transition.apply crates now)) := by
  have found : storage.getMessage id = .ok row :=
    InMemoryStorage.getMessage_eq_ok.mpr ⟨ready.readable, ready.found⟩
  have status : Message.metadataStatus row.metadata = some transition.source := ready.status
  simp only [Transition.write, InMemoryStorage.updateMessageMetadataTrusted, found,
    ready.payment, status]
  simp only [Bool.not_true, Bool.false_eq_true, ↓reduceIte, Option.any_some,
    List.contains_cons, BEq.rfl, Bool.true_or]
  rfl

theorem metaStr_apply (isObject : row.metadata = some (.obj fields)) (key : String) :
    metaStr (transition.apply crates now row) key =
      match (transition.changes crates).reverse.lookup key with
      | some value => value.asStr
      | none => metaStr row key := by
  have merged : metaStr (transition.apply crates now row) key =
      (((Json.obj fields).merge (.obj (transition.changes crates))).get key).bind Json.asStr := by
    simp [Transition.apply, InMemoryStorage.patchMetadata, metaStr, isObject]
  rw [merged, Json.get_merge]
  cases (transition.changes crates).reverse.lookup key with
  | none => simp [metaStr, isObject, Json.get]
  | some => simp

theorem status_apply (isObject : row.metadata = some (.obj fields)) :
    metaStr (transition.apply crates now row) "status" = some transition.target := by
  rw [metaStr_apply crates now transition isObject]
  cases transition with
  | paid | reopened | responded => rfl
  | resolved verdict => cases verdict <;> rfl

/-- Who a request is paid by, as its metadata says it. -/
def fulfilling (row : Message) : Option String := metaStr row "fulfilling_message_id"

/-- The request a transfer was sent for, as its metadata says it. -/
def linkOf (row : Message) : Option String := metaStr row "request_message_id"

section

variable (isObject : row.metadata = some (.obj fields))
include isObject

theorem linkOf_apply :
    linkOf (transition.apply crates now row) = linkOf row := by
  unfold linkOf
  rw [metaStr_apply crates now transition isObject]
  cases transition with
  | paid | reopened | responded => rfl
  | resolved verdict => cases verdict <;> rfl

theorem fulfilling_apply :
    fulfilling (transition.apply crates now row) =
      match transition with
      | .paid transfer _ => some (crates.uuidToString transfer)
      | .reopened => none
      | .resolved _ | .responded _ => fulfilling row := by
  unfold fulfilling
  rw [metaStr_apply crates now transition isObject]
  cases transition with
  | paid | reopened | responded => rfl
  | resolved verdict => cases verdict <;> rfl

theorem apply_object :
    ∃ fields', (transition.apply crates now row).metadata = some (.obj fields') :=
  ⟨_, by
    simp only [Transition.apply, InMemoryStorage.patchMetadata, isObject, Option.getD_some,
      Json.merge]
    rfl⟩

end

theorem apply_isDeleted (row : Message) :
    (transition.apply crates now row).isDeleted = row.isDeleted := by
  unfold Transition.apply InMemoryStorage.patchMetadata Message.isDeleted
  cases row.syncStatus <;> rfl

end Transitions

end MessagingStack.Relayer.TransferConfirmation

import MessagingStack.Relayer.MemberRows
import MessagingStack.Relayer.Messages
import MessagingStack.Relayer.Reactions

/-!
# What is stored for a group

Beside its messages and its MLS epoch: reactions, pins, receipts, preferences, an MLS group info,
welcomes and attachments, as one value (`GroupData`) with one operation for each method of the
stores.  `Relay.view` is everything that is stored under a group, and a lemma for each store says
that an operation on one group leaves the view of the others.
-/

namespace MessagingStack.Relayer

open Reactions (ReactionEntry)
open Receipts (Marks Advance)
open Preferences (ConversationPreferences ConversationPreferencesPatch)

/-! ## The data of one group -/

structure GroupData where
  /-- The reactors of each chain number and emoji, in order; there is no entry without one. -/
  reactions : OrderedMap (Int × String) (List String)
  pins : List Int
  receipts : OrderedMap String Marks
  preferences : OrderedMap String ConversationPreferences
  groupInfo : Option (Nat × Bytes)
  /-- Wallet, device and welcome. -/
  welcomes : List (String × String × Bytes)
  /-- The objects `attachments/<group>/<id>`. -/
  attachments : List (Uuid × Bytes)

def GroupData.empty : GroupData where
  reactions := .empty
  pins := []
  receipts := .empty
  preferences := .empty
  groupInfo := none
  welcomes := []
  attachments := []

structure MemberReceipt where
  member : String
  deliveredUpto : Nat
  readUpto : Nat
  deriving DecidableEq

namespace GroupData

/-- `set_reaction`: the entry, if something changed. -/
def setReaction (data : GroupData) (groupId : String) (chainSeq : Int) (emoji member : String)
    (add : Bool) : Option ReactionEntry × GroupData :=
  let reactors := (data.reactions.get (chainSeq, emoji)).getD []
  let next := Reactions.change reactors member add
  if next = reactors then (none, data)
  else
    (some ((Reactions.Key.mk groupId chainSeq emoji).entry next),
      { data with
        reactions :=
          if next = [] then data.reactions.erase (chainSeq, emoji)
          else data.reactions.insert (chainSeq, emoji) next })

def listReactions (data : GroupData) (groupId : String) (chainSeq : Option Int) :
    List ReactionEntry :=
  let wanted := data.reactions.entries.filter fun entry =>
    !entry.2.isEmpty && chainSeq.all (· == entry.1.1)
  (wanted.map fun entry =>
    (Reactions.Key.mk groupId entry.1.1 entry.1.2).entry entry.2).insertionSort
    fun left right =>
      left.chainSeq < right.chainSeq ∨ (left.chainSeq = right.chainSeq ∧ left.emoji ≤ right.emoji)

def setPinForSeq (data : GroupData) (chainSeq : Int) (pin : Bool) : GroupData :=
  { data with
    pins := if pin then (if chainSeq ∈ data.pins then data.pins else data.pins ++ [chainSeq])
      else data.pins.filter (· ≠ chainSeq) }

def listPins (data : GroupData) : List Int := data.pins.insertionSort (· ≤ ·)

def advanceMemberReceipts (data : GroupData) (member : String) (advance : Advance) :
    Option MemberReceipt × GroupData :=
  if advance.deliveredUpto.isNone ∧ advance.readUpto.isNone then (none, data)
  else
    let marks := Receipts.current (data.receipts.get member)
    let next := advance.next marks
    if next = marks then (none, data)
    else
      (some ⟨member, next.deliveredUpto, next.readUpto⟩,
        { data with receipts := data.receipts.insert member next })

def listGroupReceipts (data : GroupData) : List MemberReceipt :=
  (data.receipts.entries.map fun entry =>
    MemberReceipt.mk entry.1 entry.2.deliveredUpto entry.2.readUpto).insertionSort
      fun left right => left.member ≤ right.member

def conversationPreferences (data : GroupData) (wallet : String) : ConversationPreferences :=
  (data.preferences.get wallet).getD .defaults

def upsertConversationPreferences (data : GroupData) (wallet : String)
    (patch : ConversationPreferencesPatch) : ConversationPreferences × GroupData :=
  let next := patch.next (data.preferences.get wallet)
  (next, { data with preferences := data.preferences.insert wallet next })

def putWelcome (data : GroupData) (wallet deviceId : String) (welcome : Bytes) : GroupData :=
  { data with welcomes := data.welcomes ++ [(wallet, deviceId, welcome)] }

def putObject (data : GroupData) (id : Uuid) (bytes : Bytes) : GroupData :=
  { data with attachments := (id, bytes) :: data.attachments }

def getObject (data : GroupData) (id : Uuid) : Option Bytes := data.attachments.lookup id

end GroupData

/-! ## Stores that are not keyed by group -/

structure DeviceKeyCertificate where
  version : Int
  issuedAtMs : Int
  signature : String
  publicKey : String
  deriving DecidableEq

structure DeviceNotificationKeyRecord where
  wallet : String
  deviceId : String
  publicKey : String
  platform : String
  certificate : Option DeviceKeyCertificate
  deriving DecidableEq

def listDeviceKeysForWallets (keys : List DeviceNotificationKeyRecord) (wallets : List String) :
    List DeviceNotificationKeyRecord :=
  wallets.flatMap fun wallet => keys.filter (·.wallet == wallet)

structure ArchiveIndexRow where
  namespace_ : String
  groupId : String
  messageId : Uuid
  msgOrder : Option Int
  syncStatus : String
  r2Key : String
  deriving DecidableEq

structure ArchiveListParams where
  afterOrder : Option Int
  beforeOrder : Option Int
  limit : Nat

/-- `ArchiveReadService`, over an index and an object store. -/
structure ArchiveReadService where
  listForGroup : String → String → ArchiveListParams → Except String (List ArchiveIndexRow)
  /-- The JSON value of an object, if it can be read and parsed. -/
  object : String → Option Json
  defaultNamespace : String

def ArchiveReadService.listMessages (archive : ArchiveReadService) (groupId : String)
    (namespace_ : Option String) (afterOrder beforeOrder : Option Int) (limit : Nat) :
    Except String (List Json × Bool) :=
  let ns := (namespace_.filter (· ≠ "")).getD archive.defaultNamespace
  match archive.listForGroup ns groupId { afterOrder, beforeOrder, limit := max (limit + 1) 1 } with
  | .error reason => .error reason
  | .ok rows =>
    .ok ((rows.take limit).filterMap fun row => archive.object row.r2Key,
      decide (limit < rows.length))

/-! ## Everything that is stored -/

structure Relay where
  app : AppState
  groups : String → GroupData
  lastSeen : String → Option Timestamp
  /-- The presence registry of this instance. -/
  isOnline : String → Bool
  deviceKeys : List DeviceNotificationKeyRecord
  attachmentStore : Bool
  archiveRead : Option ArchiveReadService

namespace Relay

def setGroup (relay : Relay) (groupId : String) (data : GroupData) : Relay :=
  { relay with groups := Function.update relay.groups groupId data }

def setApp (relay : Relay) (app : AppState) : Relay := { relay with app }

end Relay

/-- Everything that is stored under a group. -/
@[ext] structure GroupView where
  rows : Uuid → Option Message
  /-- The highest order number. -/
  order : Option Int
  epoch : Nat
  data : GroupData

/-- The messages and the epoch of a group. -/
def AppState.rowsOf (app : AppState) (groupId : String) (id : Uuid) : Option Message :=
  (app.storage.row id).filter (·.groupId == groupId)

/-- What is stored under a group. -/
def Relay.view (relay : Relay) (groupId : String) : GroupView where
  rows := relay.app.rowsOf groupId
  order := relay.app.storage.groupOrders groupId
  epoch := relay.app.mls.currentEpoch groupId
  data := relay.groups groupId

/-! ## Operations on one group -/

theorem Relay.view_setGroup (relay : Relay) {groupId other : String} (data : GroupData)
    (differs : other ≠ groupId) : (relay.setGroup groupId data).view other = relay.view other := by
  have same : (relay.setGroup groupId data).groups other = relay.groups other :=
    Function.update_of_ne differs _ _
  unfold Relay.view
  rw [same]
  rfl

/-- Two states of the message handlers hold the same for a group. -/
structure SameFor (groupId : String) (before after : AppState) : Prop where
  rows : after.rowsOf groupId = before.rowsOf groupId
  order : after.storage.groupOrders groupId = before.storage.groupOrders groupId
  epoch : after.mls.currentEpoch groupId = before.mls.currentEpoch groupId

namespace SameFor

variable {groupId : String} {before middle after : AppState}

theorem refl (app : AppState) : SameFor groupId app app := ⟨rfl, rfl, rfl⟩

theorem trans (first : SameFor groupId before middle) (second : SameFor groupId middle after) :
    SameFor groupId before after :=
  ⟨second.rows.trans first.rows, second.order.trans first.order, second.epoch.trans first.epoch⟩

theorem view {relay : Relay} (same : SameFor groupId relay.app after) :
    (Relay.setApp relay after).view groupId = relay.view groupId :=
  GroupView.ext same.rows same.order same.epoch rfl

theorem replaceRow (app : AppState) {id : Uuid} {row : Message}
    (found : app.storage.row id = some row) (differs : groupId ≠ row.groupId)
    {change : Message → Message} (keepsId : ∀ message, (change message).id = message.id)
    (keepsGroup : ∀ message, (change message).groupId = message.groupId) :
    SameFor groupId app { app with storage := app.storage.replaceRow id change } := by
  refine ⟨?_, rfl, rfl⟩
  funext other
  unfold AppState.rowsOf
  rw [InMemoryStorage.row_replaceRow _ _ _ keepsId]
  split_ifs with same
  · subst same
    rw [found, Option.map_some, Option.filter_some, Option.filter_some, keepsGroup,
      if_neg (by simpa using Ne.symm differs), if_neg (by simpa using Ne.symm differs)]
  · rfl

theorem createMessage (app : AppState) (message : Message) (differs : groupId ≠ message.groupId) :
    SameFor groupId app { app with storage := (app.storage.createMessage message).2 } := by
  rcases app.storage.createMessage_cases message with ⟨reason, same | consumed⟩ | ⟨fresh, -, stored⟩
  · rw [same]
    exact refl app
  · rw [consumed]
    exact ⟨rfl, Function.update_of_ne differs _ _, rfl⟩
  rw [stored]
  refine ⟨?_, Function.update_of_ne differs _ _, rfl⟩
  funext id
  simp only [AppState.rowsOf, InMemoryStorage.row]
  rw [List.find?_append]
  cases held : app.storage.messages.find? (·.id == id) with
  | some => rfl
  | none =>
    rw [Option.none_or, Option.filter_none]
    cases isNew : List.find? (fun row : Message => row.id == id)
      [message.setOrder (app.storage.next message.groupId)] with
    | none => rfl
    | some row =>
      have isRow := List.mem_singleton.mp (List.mem_of_find?_eq_some isNew)
      subst isRow
      exact if_neg (by simpa [Message.setOrder] using Ne.symm differs)

end SameFor

end MessagingStack.Relayer

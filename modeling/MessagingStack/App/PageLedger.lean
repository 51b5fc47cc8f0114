import Mathlib.Data.List.Basic
import Mathlib.Data.List.Sort

/-!
# The list of a thread and its page ledger

The pure functions under `chat-app/src/hooks/useMessages.ts`: `mergeMessages`, the page ledger and
the session cache of one thread.  A row is its identifier and the order at which it stands in the
list; the identifier of a row of the relayer is the order the relayer gave it, and it *stands* if it
is there at that order (`Stands`).
-/

namespace MessagingStack.App

/-- `MESSAGE_PAGE_SIZE`. -/
def messagePageSize : Nat := 50

/-- `MESSAGE_CATCHUP_MAX_PAGES`. -/
def messageCatchupMaxPages : Nat := 5

/-- `MAX_MESSAGES_PER_GROUP`. -/
def maxMessagesPerGroup : Nat := 300

/-! ## Rows -/

inductive MessageId where
  | optimistic (send : Nat)
  | relayer (order : Nat)
  deriving DecidableEq

def MessageId.isOptimistic : MessageId → Bool
  | .optimistic _ => true
  | .relayer _ => false

/-- A row of the list. -/
structure Message where
  messageId : MessageId
  order : Nat
  deriving DecidableEq

/-- A row as the relayer returns it. -/
def Message.ofOrder (order : Nat) : Message := { messageId := .relayer order, order }

/-- **The row of the relayer stands in the list**: at the order the relayer gave it. -/
def Stands (messages : List Message) : Set Nat := { order | Message.ofOrder order ∈ messages }

def Ascending (messages : List Message) : Prop :=
  messages.Pairwise fun left right => left.order ≤ right.order

def sortMessagesByOrder (messages : List Message) : List Message :=
  messages.insertionSort fun left right => left.order ≤ right.order

def setById (messages : List Message) (message : Message) : List Message :=
  if messages.any (·.messageId = message.messageId) then
    messages.map fun other => if other.messageId = message.messageId then message else other
  else messages ++ [message]

/-- Drops optimistic stubs whose order a confirmed row has. -/
def dropStubs (messages : List Message) : List Message :=
  messages.filter fun message =>
    !(message.messageId.isOptimistic &&
      messages.any fun other => !other.messageId.isOptimistic && other.order == message.order)

def mergeMessages (prev incoming : List Message) : List Message :=
  sortMessagesByOrder (dropStubs (incoming.foldl setById prev))

/-! ### What a merge holds -/

variable {messages : List Message} {message : Message}

theorem mem_setById {other : Message} :
    other ∈ setById messages message ↔
      other = message ∨ other ∈ messages ∧ other.messageId ≠ message.messageId := by
  rw [setById]
  split_ifs with known
  · rw [List.mem_map]
    constructor
    · rintro ⟨old, isOld, rfl⟩
      by_cases same : old.messageId = message.messageId
      · exact Or.inl (if_pos same)
      · rw [if_neg same]
        exact Or.inr ⟨isOld, same⟩
    rintro (rfl | ⟨isOld, differs⟩)
    · obtain ⟨old, isOld, same⟩ := List.any_eq_true.mp known
      exact ⟨old, isOld, if_pos (of_decide_eq_true same)⟩
    · exact ⟨other, isOld, if_neg differs⟩
  rw [List.mem_append, List.mem_singleton]
  constructor
  · rintro (isOld | rfl)
    · refine Or.inr ⟨isOld, ?_⟩
      intro same
      exact known (List.any_eq_true.mpr ⟨other, isOld, decide_eq_true same⟩)
    · exact Or.inl rfl
  · rintro (rfl | ⟨isOld, -⟩)
    · exact Or.inr rfl
    · exact Or.inl isOld

theorem ascending_sortMessagesByOrder (messages : List Message) :
    Ascending (sortMessagesByOrder messages) := by
  have : Std.Total fun left right : Message => left.order ≤ right.order :=
    ⟨fun left right => Nat.le_total left.order right.order⟩
  have : IsTrans Message fun left right => left.order ≤ right.order := ⟨fun _ _ _ => Nat.le_trans⟩
  exact List.pairwise_insertionSort _ messages

theorem mem_sortMessagesByOrder :
    message ∈ sortMessagesByOrder messages ↔ message ∈ messages :=
  List.mem_insertionSort _

theorem ascending_mergeMessages (prev incoming : List Message) :
    Ascending (mergeMessages prev incoming) :=
  ascending_sortMessagesByOrder _

/-- A row with an identifier of the relayer is never dropped as a stub. -/
theorem mem_mergeMessages_relayer {prev incoming : List Message} {order place : Nat} :
    (⟨.relayer order, place⟩ : Message) ∈ mergeMessages prev incoming ↔
      (⟨.relayer order, place⟩ : Message) ∈ incoming.foldl setById prev := by
  rw [mergeMessages, mem_sortMessagesByOrder, dropStubs, List.mem_filter]
  simp [MessageId.isOptimistic]

theorem stands_setById
    (known : message.messageId = .relayer message.order ∨ message.messageId.isOptimistic) :
    Stands (setById messages message) = Stands messages ∪ { order | message = .ofOrder order } := by
  ext order
  simp only [Stands, Set.mem_ofPred_eq, mem_setById, Set.mem_union]
  constructor
  · rintro (same | ⟨isOld, -⟩)
    · exact Or.inr same.symm
    · exact Or.inl isOld
  rintro (isOld | same)
  · by_cases sameId : (Message.ofOrder order).messageId = message.messageId
    · refine Or.inl ?_
      rcases known with ofRelayer | isStub
      · rw [ofRelayer] at sameId
        obtain rfl : order = message.order := MessageId.relayer.inj sameId
        cases message
        simp only at ofRelayer
        rw [ofRelayer]
        rfl
      · rw [← sameId] at isStub
        cases isStub
    · exact Or.inr ⟨isOld, sameId⟩
  · exact Or.inl same.symm

/-- **A merge of rows of the relayer** makes them stand beside those that stood. -/
theorem stands_mergeMessages (prev : List Message) (orders : List Nat) :
    Stands (mergeMessages prev (orders.map .ofOrder)) = Stands prev ∪ { o | o ∈ orders } := by
  have folded : Stands ((orders.map Message.ofOrder).foldl setById prev) =
      Stands prev ∪ { o | o ∈ orders } := by
    induction orders generalizing prev with
    | nil => simp
    | cons first rest ih =>
      rw [List.map_cons, List.foldl_cons, ih, stands_setById (Or.inl rfl)]
      ext order
      simp only [Set.mem_union, Set.mem_ofPred_eq, List.mem_cons, Message.ofOrder,
        Message.mk.injEq, MessageId.relayer.injEq, and_self, or_assoc]
      rw [eq_comm]
  rw [← folded]
  ext order
  exact mem_mergeMessages_relayer

theorem stands_mergeStub (prev : List Message) (send place : Nat) :
    Stands (mergeMessages prev [⟨.optimistic send, place⟩]) = Stands prev := by
  have folded : Stands (setById prev ⟨.optimistic send, place⟩) = Stands prev := by
    rw [stands_setById (Or.inr rfl)]
    ext order
    simp [Message.ofOrder]
  rw [← folded]
  ext order
  exact mem_mergeMessages_relayer

theorem stands_sortMessagesByOrder (messages : List Message) :
    Stands (sortMessagesByOrder messages) = Stands messages := by
  ext order
  exact mem_sortMessagesByOrder

theorem stands_ofOrders (orders : List Nat) :
    Stands (orders.map .ofOrder) = { o | o ∈ orders } := by
  ext order
  simp [Stands, Message.ofOrder]

/-! ## The ledger -/

structure ThreadPageLedger where
  /-- Exclusive `before_order` values already requested successfully. -/
  fetchedBeforeOrders : List Nat
  minOrder : Option Nat
  maxOrder : Option Nat
  hasMoreOlder : Bool
  deriving DecidableEq

def emptyPageLedger : ThreadPageLedger where
  fetchedBeforeOrders := []
  minOrder := none
  maxOrder := none
  hasMoreOlder := false

def ledgerFromMessages (orders : List Nat) (hasMoreOlder : Bool) : ThreadPageLedger where
  fetchedBeforeOrders := []
  minOrder := orders.min?
  maxOrder := orders.max?
  hasMoreOlder

/-- A bound of the window, taken on over more orders. -/
def extendBound (choose : Nat → Nat → Nat) (bound : Option Nat) (orders : List Nat) : Option Nat :=
  orders.foldl (fun bound order => some (bound.elim order fun held => choose held order)) bound

def hasFetchedBeforeOrder (ledger : ThreadPageLedger) (beforeOrder : Nat) : Bool :=
  ledger.fetchedBeforeOrders.contains beforeOrder

def applyOlderPageToLedger (ledger : ThreadPageLedger) (beforeOrder : Nat)
    (returnedOrders : List Nat) (hasNext : Bool) : ThreadPageLedger where
  fetchedBeforeOrders :=
    if hasFetchedBeforeOrder ledger beforeOrder then ledger.fetchedBeforeOrders
    else ledger.fetchedBeforeOrders ++ [beforeOrder]
  minOrder := extendBound min ledger.minOrder returnedOrders
  maxOrder := extendBound max ledger.maxOrder returnedOrders
  -- Empty page with hasNext is a stuck cursor — stop paging.
  hasMoreOlder := if returnedOrders.isEmpty && hasNext then false else hasNext

def applyNewerOrdersToLedger (ledger : ThreadPageLedger) (returnedOrders : List Nat) :
    ThreadPageLedger :=
  { ledger with
    minOrder := extendBound min ledger.minOrder returnedOrders
    maxOrder := extendBound max ledger.maxOrder returnedOrders }

def invalidateLedgerAfterTrim (ledger : ThreadPageLedger) (remainingOrders : List Nat)
    (didDropOldest : Bool) : ThreadPageLedger :=
  match remainingOrders.min? with
  | none => { emptyPageLedger with hasMoreOlder := didDropOldest || ledger.hasMoreOlder }
  | some minOrder =>
    { fetchedBeforeOrders := ledger.fetchedBeforeOrders.filter fun cursor => cursor < minOrder
      minOrder := some minOrder
      maxOrder := remainingOrders.max?
      hasMoreOlder := if didDropOldest then true else ledger.hasMoreOlder }

theorem invalidateLedgerAfterTrim_of_min (ledger : ThreadPageLedger) {remainingOrders : List Nat}
    {minOrder : Nat} (isMin : remainingOrders.min? = some minOrder) (didDropOldest : Bool) :
    invalidateLedgerAfterTrim ledger remainingOrders didDropOldest =
      { fetchedBeforeOrders := ledger.fetchedBeforeOrders.filter fun cursor => cursor < minOrder
        minOrder := some minOrder
        maxOrder := remainingOrders.max?
        hasMoreOlder := if didDropOldest then true else ledger.hasMoreOlder } := by
  rw [invalidateLedgerAfterTrim, isMin]

def shouldFetchOlderPage (ledger : ThreadPageLedger) (isLoadingOlder isLoadingInitial : Bool)
    (messageCount : Nat) : Option Nat :=
  if !ledger.hasMoreOlder || isLoadingOlder || isLoadingInitial || messageCount == 0 then none
  else
    match ledger.minOrder with
    | none => none
    | some beforeOrder =>
      if hasFetchedBeforeOrder ledger beforeOrder then none else some beforeOrder

theorem shouldFetchOlderPage_eq_some {ledger : ThreadPageLedger}
    {isLoadingOlder isLoadingInitial : Bool} {messageCount beforeOrder : Nat} :
    shouldFetchOlderPage ledger isLoadingOlder isLoadingInitial messageCount = some beforeOrder ↔
      ledger.hasMoreOlder = true ∧ isLoadingOlder = false ∧ isLoadingInitial = false ∧
        messageCount ≠ 0 ∧ ledger.minOrder = some beforeOrder ∧
        hasFetchedBeforeOrder ledger beforeOrder = false := by
  rw [shouldFetchOlderPage]
  cases ledger.hasMoreOlder <;> cases isLoadingOlder <;> cases isLoadingInitial <;>
    by_cases none : messageCount = 0 <;> simp [none]
  cases ledger.minOrder with
  | none => simp
  | some =>
    dsimp only
    split_ifs with fetched
    · refine ⟨(fun impossible => nomatch impossible), ?_⟩
      rintro ⟨same, fresh⟩
      rw [← Option.some.inj same, fetched] at fresh
      cases fresh
    · rw [Bool.not_eq_true] at fetched
      refine ⟨fun same => ⟨same, ?_⟩, fun both => both.1⟩
      rwa [← Option.some.inj same]

def shouldWarmCatchUpOnly (ledger : ThreadPageLedger) : Bool :=
  ledger.maxOrder.isSome && ledger.minOrder.isSome

/-! ## The session cache -/

structure CachedThread where
  messages : List Message
  pageLedger : ThreadPageLedger
  deriving DecidableEq

def trimMessagesWithLedger (limit : Nat) (messages : List Message) (ledger : ThreadPageLedger) :
    CachedThread :=
  if messages.length ≤ limit then ⟨messages, ledger⟩
  else
    let trimmed := messages.drop (messages.length - limit)
    ⟨trimmed, invalidateLedgerAfterTrim ledger (trimmed.map (·.order)) true⟩

def setCachedThread (messages : List Message) (pageLedger : ThreadPageLedger) : CachedThread :=
  trimMessagesWithLedger maxMessagesPerGroup messages pageLedger

section Trim

variable {limit : Nat} {messages : List Message} (ledger : ThreadPageLedger)

theorem trimMessagesWithLedger_of_short (short : messages.length ≤ limit) :
    trimMessagesWithLedger limit messages ledger = ⟨messages, ledger⟩ := if_pos short

theorem trimMessagesWithLedger_of_long (long : ¬messages.length ≤ limit) :
    trimMessagesWithLedger limit messages ledger =
      ⟨messages.drop (messages.length - limit),
        invalidateLedgerAfterTrim ledger
          ((messages.drop (messages.length - limit)).map (·.order)) true⟩ := if_neg long

/-- What is cached is the end of the list. -/
theorem trimMessagesWithLedger_suffix :
    (trimMessagesWithLedger limit messages ledger).messages <:+ messages := by
  by_cases short : messages.length ≤ limit
  · simp only [trimMessagesWithLedger_of_short ledger short, List.suffix_rfl]
  · rw [trimMessagesWithLedger_of_long ledger short]
    exact List.drop_suffix _ _

theorem setCachedThread_suffix : (setCachedThread messages ledger).messages <:+ messages :=
  trimMessagesWithLedger_suffix ledger

end Trim

theorem stands_of_suffix {part : List Message} (suffix : part <:+ messages)
    (ascending : Ascending messages) {p q : Nat} (starts : p ∈ Stands part)
    (stands : q ∈ Stands messages) (after : p ≤ q) : q ∈ Stands part := by
  obtain ⟨front, rfl⟩ := suffix
  rcases List.mem_append.mp stands with inFront | inPart
  · have ordered := (List.pairwise_append.mp ascending).2.2 _ inFront _ starts
    obtain rfl : p = q := le_antisymm after ordered
    exact starts
  · exact inPart

end MessagingStack.App

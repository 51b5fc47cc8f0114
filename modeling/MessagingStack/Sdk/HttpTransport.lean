import MessagingStack.Relayer.Paging
import MessagingStack.Sdk.GroupStream

/-!
# The group stream by polling

`subscribe` of `relayer/http-transport.ts` is a generator like the one of the WebSocket, made of
requests: it fetches the messages after the last order that its consumer has taken, hands them
out, then lists the reactions and the receipts, hands out what differs from the lists before, and
waits.  A failed request is waited for in the same way, unless it is a client error.

The order from which it fetches moves when the consumer comes back for the next event
(`Marked`).  With an order, a fetch gives the oldest rows above it, and at least one if there is
one (`fetchMessages_above`); without, it gives the newest page of the log (`fetchMessages_newest`).
-/

namespace MessagingStack.Sdk.HttpTransport

open Relayer InMemoryStorage Paging

open WsTransport (SubscriptionEvent)

open GroupStream (above orders rowOrders)

/-! ## The requests -/

/-- How a request fails: with a status from 400 to 499, or in another way. -/
inductive Failure where
  | clientError
  | other
  deriving DecidableEq

/-- `DEFAULT_PAGE_LIMIT`. -/
def defaultPageLimit : Nat := 50

/-- `MAX_PAGE_LIMIT`. -/
def maxPageLimit : Nat := 100

/-- The limit of `get_messages`; a negative one is not a `usize`, and the query is refused. -/
def pageLimit : Option Int → Option Nat
  | none => some (min defaultPageLimit maxPageLimit)
  | some limit => if limit < 0 then none else some (min limit.toNat maxPageLimit)

def fetchMessages (storage : InMemoryStorage) (groupId : String) (afterOrder limit : Option Int) :
    Except Failure (List Verification.RelayerMessage) :=
  match pageLimit limit with
  | none => .error .clientError
  | some limit =>
    match answer (fetchPage storage groupId afterOrder none limit) with
    | none => .error .other
    | some (page, _) =>
      match page.mapM fun row => Verification.fromWireMessage (.ofMessage row) with
      | none => .error .other
      | some messages => .ok messages

structure ReactionEntry where
  chainSeq : Int
  emoji : String
  count : Int
  reactors : List String
  deriving DecidableEq

structure MemberReceipt where
  member : String
  deliveredUpto : Int
  readUpto : Int
  deriving DecidableEq

/-! ## What differs between two lists -/

/-- The reactions by sequence number and emoji. -/
def reactionMap (rows : List ReactionEntry) : OrderedMap (Int × String) ReactionEntry :=
  rows.foldl (fun map row => map.insert (row.chainSeq, row.emoji) row) .empty

/-- The events of two lists of reactions: those that are new or have changed, and then those that
are gone, with no reactors. -/
def reactionEvents (groupId : String) (snapshot next : OrderedMap (Int × String) ReactionEntry) :
    List SubscriptionEvent :=
  let changed := next.entries.filterMap fun (key, entry) =>
    let same := (snapshot.get key).any fun prev =>
      prev.count = entry.count ∧
        String.intercalate "," prev.reactors = String.intercalate "," entry.reactors
    if same then none
    else some (.reactionUpdated groupId entry.chainSeq entry.emoji entry.count entry.reactors)
  let gone := snapshot.entries.filterMap fun (key, prev) =>
    if (next.get key).isSome then none
    else some (.reactionUpdated groupId prev.chainSeq prev.emoji 0 [])
  changed ++ gone

def receiptMap (members : List MemberReceipt) : OrderedMap String (Int × Int) :=
  members.foldl
    (fun map row => map.insert (Text.toAsciiLowercase row.member) (row.deliveredUpto, row.readUpto))
    .empty

/-- The events of two lists of receipts; a member is named as in the newer one. -/
def receiptEvents (groupId : String) (snapshot : OrderedMap String (Int × Int))
    (members : List MemberReceipt) : List SubscriptionEvent :=
  (receiptMap members).entries.filterMap fun (memberKey, entry) =>
    if snapshot.get memberKey = some entry then none
    else
      let named := members.find? fun row => Text.toAsciiLowercase row.member = memberKey
      some (.receiptUpdated groupId ((named.map (·.member)).getD memberKey) entry.1 entry.2)

/-! ## The machine -/

/-- The part of a round whose events are handed out. -/
inductive Stage where
  | messages
  | reactions
  | receipts
  deriving DecidableEq

/-- Where the generator is suspended. -/
inductive Position where
  | start
  | requested (stage : Stage)
  /-- The consumer has an event, and some are left to hand out. -/
  | busy (event : SubscriptionEvent) (rest : List SubscriptionEvent) (stage : Stage)
  | delaying
  | done
  /-- Thrown: a client error. -/
  | failed

structure State where
  position : Position
  disconnected : Bool
  aborted : Bool
  lastOrder : Option Int
  reactionSnapshot : Option (OrderedMap (Int × String) ReactionEntry)
  receiptSnapshot : Option (OrderedMap String (Int × Int))
  yielded : List SubscriptionEvent

/-- What happens to a stream. -/
inductive Input where
  | pull
  | messages (result : Except Failure (List Verification.RelayerMessage))
  | reactions (result : Except Failure (List ReactionEntry))
  | receipts (result : Except Failure (List MemberReceipt))
  /-- The delay is over. -/
  | timer
  | abort
  | disconnect

namespace State

def isStopped (state : State) : Bool := state.disconnected || state.aborted

/-- The head of the loop. -/
def poll (state : State) : State :=
  if state.isStopped then { state with position := .done }
  else { state with position := .requested .messages }

/-- The loop over the events of a stage, up to the next one or to what follows the stage. -/
def hand (state : State) (events : List SubscriptionEvent) (stage : Stage) : State :=
  match events, stage with
  | event :: rest, stage =>
    if state.isStopped then { state with position := .done }
    else { state with position := .busy event rest stage, yielded := state.yielded ++ [event] }
  | [], .messages =>
    if state.isStopped then { state with position := .done }
    else { state with position := .requested .reactions }
  | [], .reactions =>
    if state.isStopped then { state with position := .done }
    else { state with position := .requested .receipts }
  | [], .receipts => { state with position := .delaying }

/-- The `catch` of a round. -/
def handleFailure (state : State) (failure : Failure) : State :=
  if state.isStopped then { state with position := .done }
  else
    match failure with
    | .clientError => { state with position := .failed }
    | .other => { state with position := .delaying }

end State

/-- A step.  The snapshots are set where the answers arrive: nothing reads them while the events
are handed out. -/
def step (groupId : String) (state : State) : Input → State
  | .pull =>
    match state.position with
    | .start => state.poll
    | .busy event rest stage =>
      let lastOrder :=
        match event.created with
        | some order => some order
        | none => state.lastOrder
      State.hand { state with lastOrder } rest stage
    | _ => state
  | .messages result =>
    match state.position, result with
    | .requested .messages, .ok messages => state.hand (messages.map .messageCreated) .messages
    | .requested .messages, .error failure => state.handleFailure failure
    | _, _ => state
  | .reactions result =>
    match state.position, result with
    | .requested .reactions, .ok rows =>
      let next := reactionMap rows
      let events := (state.reactionSnapshot.map (reactionEvents groupId · next)).getD []
      State.hand { state with reactionSnapshot := some next } events .reactions
    | .requested .reactions, .error failure => state.handleFailure failure
    | _, _ => state
  | .receipts result =>
    match state.position, result with
    | .requested .receipts, .ok members =>
      let events := (state.receiptSnapshot.map (receiptEvents groupId · members)).getD []
      State.hand { state with receiptSnapshot := some (receiptMap members) } events .receipts
    | .requested .receipts, .error failure => state.handleFailure failure
    | _, _ => state
  | .timer =>
    match state.position with
    | .delaying => state.poll
    | _ => state
  | .abort => { state with aborted := true }
  | .disconnect => { state with disconnected := true }

/-- A stream that has not begun. -/
def start (afterOrder : Option Int) : State where
  position := .start
  disconnected := false
  aborted := false
  lastOrder := afterOrder
  reactionSnapshot := none
  receiptSnapshot := none
  yielded := []

/-! ## What a fetch brings -/

def newest (size : Nat) (rows : List Relayer.Message) : List Relayer.Message :=
  (firstPage (max size 1) (maxRows (max size 1)) rows.reverse).reverse

section Fetch

variable {storage : InMemoryStorage} {groupId : String}

theorem distinctOrders (ordered : WellOrdered storage) (groupId : String) :
    DistinctOrders storage groupId := by
  refine List.Pairwise.imp_of_mem ?_ (ordered.increasing.filter (·.groupId == groupId))
  intro left right isLeft isRight increases
  have leftGroup : left.groupId = groupId := by simpa using (List.mem_filter.mp isLeft).2
  have rightGroup : right.groupId = groupId := by simpa using (List.mem_filter.mp isRight).2
  exact (increases (leftGroup.trans rightGroup.symm)).ne

theorem window_log (ordered : WellOrdered storage) (groupId : String) :
    storage.window groupId none none = storage.log groupId := by
  have distinct := distinctOrders ordered groupId
  refine increasing_ext (window_increasing none none distinct) ?_ fun row => ?_
  · exact List.pairwise_map.mp (GroupStream.rowOrders_increasing ordered groupId)
  · rw [mem_window, ordered.log_eq, List.mem_filter, beq_iff_eq]
    exact ⟨And.left, fun isRow => ⟨isRow, nofun, nofun⟩⟩

theorem window_orders (ordered : WellOrdered storage) (groupId : String) (after : Int) :
    (storage.window groupId (some after) none).map orderKey =
      above after (rowOrders groupId storage) := by
  have distinct := distinctOrders ordered groupId
  have isFilter : storage.window groupId (some after) none =
      (storage.log groupId).filter (after < orderKey ·) := by
    refine increasing_ext (window_increasing (some after) none distinct) ?_ fun row => ?_
    · exact (List.pairwise_map.mp (GroupStream.rowOrders_increasing ordered groupId)).filter _
    rw [mem_window, List.mem_filter, ordered.log_eq, List.mem_filter, beq_iff_eq,
      decide_eq_true_eq]
    constructor
    · rintro ⟨isRow, isAbove, -⟩
      exact ⟨isRow, isAbove after rfl⟩
    · rintro ⟨isRow, isAbove⟩
      exact ⟨isRow, fun other isOther => Option.some.inj isOther ▸ isAbove, nofun⟩
  rw [isFilter, above, rowOrders, List.filter_map]
  rfl

theorem fromWireMessage_keeps {wire : MessageResponse} {message : Verification.RelayerMessage}
    (converts : Verification.fromWireMessage wire = some message) :
    message.order = wire.order := by
  unfold Verification.fromWireMessage at converts
  simp only [Option.bind_eq_bind, Option.bind_eq_some_iff, Option.pure_def,
    Option.some.injEq] at converts
  obtain ⟨_, -, _, -, rfl⟩ := converts
  rfl

theorem mapM_orders (rows : List Relayer.Message) {messages : List Verification.RelayerMessage}
    (converts : (rows.mapM fun row => Verification.fromWireMessage (.ofMessage row)) =
      some messages) : messages.map (·.order) = rows.map orderKey := by
  induction rows generalizing messages with
  | nil =>
    cases converts
    rfl
  | cons row rest ih =>
    obtain ⟨raw, isRaw, isOrder⟩ := GroupStream.fromWireMessage_order row
    simp only [List.mapM_cons, isRaw, Option.bind_eq_bind, Option.bind_some, Option.pure_def,
      Option.bind_eq_some_iff] at converts
    obtain ⟨others, isOthers, isAll⟩ := converts
    cases isAll
    rw [List.map_cons, List.map_cons, ih isOthers, isOrder]
    rfl

variable {messages : List Verification.RelayerMessage} {limit : Option Int}

theorem fetchMessages_ok {afterOrder : Option Int}
    (fetched : fetchMessages storage groupId afterOrder limit = .ok messages) :
    ∃ size page more, pageLimit limit = some size ∧
      answer (fetchPage storage groupId afterOrder none size) = some (page, more) ∧
      messages.map (·.order) = page.map orderKey := by
  unfold fetchMessages at fetched
  cases isSize : pageLimit limit with
  | none => cases isSize ▸ fetched
  | some size =>
    rw [isSize] at fetched
    dsimp only at fetched
    cases isPage : answer (fetchPage storage groupId afterOrder none size) with
    | none => cases isPage ▸ fetched
    | some found =>
      obtain ⟨page, more⟩ := found
      rw [isPage] at fetched
      dsimp only at fetched
      split at fetched
      · cases fetched
      · rename_i converted converts
        cases fetched
        exact ⟨size, page, more, rfl, isPage, mapM_orders page converts⟩

theorem fetchMessages_above (ordered : WellOrdered storage)
    (intact : storage.poisoned .messages = false) {after : Int}
    (fetched : fetchMessages storage groupId (some after) limit = .ok messages) :
    messages.map (·.order) <+: above after (rowOrders groupId storage) ∧
      (above after (rowOrders groupId storage) ≠ [] → messages.map (·.order) ≠ []) := by
  obtain ⟨size, page, more, -, isPage, isOrders⟩ := fetchMessages_ok fetched
  have served := (fetchPage_eq (distinctOrders ordered groupId) intact none size).1 after
  rw [askForward, Option.bind_some, isPage, servePage] at served
  cases served
  rw [isOrders, ← window_orders ordered]
  refine ⟨(firstPage_isPrefix _).map _, fun isSome => ?_⟩
  have isSome : storage.window groupId (some after) none ≠ [] := by
    intro isNil
    rw [isNil] at isSome
    exact isSome rfl
  intro isNil
  refine firstPage_ne_nil ?_ (maxRows_pos (max size 1)) isSome (List.map_eq_nil_iff.mp isNil)
  exact Nat.le_max_right size 1

theorem fetchMessages_newest (ordered : WellOrdered storage)
    (intact : storage.poisoned .messages = false)
    (fetched : fetchMessages storage groupId none limit = .ok messages) :
    ∃ size, pageLimit limit = some size ∧
      messages.map (·.order) = (newest size (storage.log groupId)).map orderKey := by
  obtain ⟨size, page, more, isSize, isPage, isOrders⟩ := fetchMessages_ok fetched
  refine ⟨size, isSize, ?_⟩
  have served := (fetchPage_eq (distinctOrders ordered groupId) intact none size).2
  rw [askBackward, isPage, Option.map_some, servePage, window_log ordered] at served
  have isNewest : page = newest size (storage.log groupId) := by
    have reversed : page.reverse = _ := congrArg Prod.fst (Option.some.inj served)
    dsimp only at reversed
    rw [newest, ← reversed, List.reverse_reverse]
  rw [isOrders, isNewest]

theorem newest_isSuffix (size : Nat) (rows : List Relayer.Message) : newest size rows <:+ rows := by
  have isPrefix : firstPage (max size 1) (maxRows (max size 1)) rows.reverse <+: rows.reverse :=
    firstPage_isPrefix rows.reverse
  exact List.reverse_prefix.mp (by rwa [newest, List.reverse_reverse])

end Fetch

/-! ## What a step hands out -/

/-- The messages that are left to hand out. -/
def pending (state : State) : List Int :=
  match state.position with
  | .busy _ rest _ => orders rest
  | _ => []

/-- The messages that the consumer has been given, and those that are left to hand out. -/
def offered (state : State) : List Int := orders state.yielded ++ pending state

/-- The messages of some events are not above an order. -/
def Passed (lastOrder : Option Int) (events : List SubscriptionEvent) : Prop :=
  ∀ order ∈ orders events, ∃ last ∈ lastOrder, order ≤ last

/-- **The order from which the next fetch is made** covers what the consumer was given; while the
consumer has an event, what it was given before that event. -/
def Marked (state : State) : Prop :=
  match state.position with
  | .busy event _ _ => ∃ before, state.yielded = before ++ [event] ∧ Passed state.lastOrder before
  | _ => Passed state.lastOrder state.yielded

/-- What a step does: it offers `fresh` messages, or it stops the stream. -/
structure Moves (fresh : List Int) (state next : State) : Prop where
  marked : Marked next
  given : orders state.yielded <+: orders next.yielded
  offers : offered next = offered state ++ fresh ∨
    next.position = .done ∧ offered next <+: offered state
  lastOrder : next.lastOrder = state.lastOrder ∨
    ∃ order ∈ orders state.yielded, next.lastOrder = some order

/-- The messages that an answer brings. -/
def fresh (state : State) : Input → List Int
  | .messages (.ok messages) =>
    match state.position with
    | .requested .messages => messages.map (·.order)
    | _ => []
  | _ => []

theorem orders_append (first second : List SubscriptionEvent) :
    orders (first ++ second) = orders first ++ orders second :=
  List.filterMap_append

theorem orders_created (messages : List Verification.RelayerMessage) :
    orders (messages.map .messageCreated) = messages.map (·.order) := by
  rw [orders, List.filterMap_map]
  exact congrFun (List.filterMap_eq_map (f := fun message => message.order)) messages

theorem orders_reactionEvents (groupId : String)
    (snapshot : Option (OrderedMap (Int × String) ReactionEntry))
    (next : OrderedMap (Int × String) ReactionEntry) :
    orders ((snapshot.map (reactionEvents groupId · next)).getD []) = [] := by
  refine List.filterMap_eq_nil_iff.mpr fun event isIn => ?_
  cases snapshot with
  | none => cases isIn
  | some =>
    rcases List.mem_append.mp isIn with isIn | isIn
    · obtain ⟨entry, -, isEvent⟩ := List.mem_filterMap.mp isIn
      dsimp only at isEvent
      split at isEvent
      · cases isEvent
      · cases isEvent
        rfl
    obtain ⟨entry, -, isEvent⟩ := List.mem_filterMap.mp isIn
    dsimp only at isEvent
    split at isEvent
    · cases isEvent
    · cases isEvent
      rfl

theorem orders_receiptEvents (groupId : String)
    (snapshot : Option (OrderedMap String (Int × Int))) (members : List MemberReceipt) :
    orders ((snapshot.map (receiptEvents groupId · members)).getD []) = [] := by
  refine List.filterMap_eq_nil_iff.mpr fun event isIn => ?_
  cases snapshot with
  | none => cases isIn
  | some =>
    obtain ⟨entry, -, isEvent⟩ := List.mem_filterMap.mp isIn
    dsimp only at isEvent
    split at isEvent
    · cases isEvent
    · cases isEvent
      rfl

section Steps

variable {groupId : String} {state : State}

variable {lastOrder : Option Int} {next : State}

theorem Passed.append {first second : List SubscriptionEvent} (isFirst : Passed lastOrder first)
    (isSecond : Passed lastOrder second) :
    Passed lastOrder (first ++ second) := by
  intro order isIn
  rw [orders_append] at isIn
  rcases List.mem_append.mp isIn with isIn | isIn
  · exact isFirst order isIn
  · exact isSecond order isIn

theorem covers_of_last {before : List SubscriptionEvent} {event : SubscriptionEvent}
    {last : Option Int} (covers : Passed last before)
    (increasing : (orders (before ++ [event])).Pairwise (· < ·))
    (isLast : lastOrder = match event.created with | some order => some order | none => last) :
    Passed lastOrder (before ++ [event]) := by
  rw [orders_append] at increasing
  obtain ⟨-, -, below⟩ := List.pairwise_append.mp increasing
  cases created : event.created with
  | none =>
    rw [created] at isLast
    rw [isLast]
    refine covers.append fun order isIn => ?_
    simp [orders, created] at isIn
  | some order =>
    rw [created] at isLast
    have isEvent : orders [event] = [order] := by simp [orders, created]
    intro earlier isIn
    rw [orders_append, isEvent] at isIn
    refine ⟨order, isLast, ?_⟩
    rcases List.mem_append.mp isIn with isIn | isIn
    · exact (below earlier isIn order (isEvent ▸ List.mem_singleton_self order)).le
    · exact (List.mem_singleton.mp isIn).le

/-- A step that hands out nothing. -/
theorem Moves.free (free : pending state = []) (covers : Passed state.lastOrder state.yielded)
    (sameOrder : next.lastOrder = state.lastOrder) (sameYielded : next.yielded = state.yielded)
    (isFree : ∀ event rest stage, next.position ≠ .busy event rest stage) :
    Moves [] state next := by
  have noneLeft : pending next = [] := by
    unfold pending
    split
    · rename_i event rest stage place
      exact absurd place (isFree event rest stage)
    · rfl
  refine ⟨?_, sameYielded ▸ List.prefix_rfl, .inl ?_, .inl sameOrder⟩
  · unfold Marked
    split
    · rename_i event rest stage place
      exact absurd place (isFree event rest stage)
    · rwa [sameOrder, sameYielded]
  · rw [offered, offered, free, noneLeft, sameYielded, List.append_nil, List.append_nil]

/-- Nothing happens, or a flag is set. -/
theorem Moves.refl (marked : Marked state) (samePosition : next.position = state.position)
    (sameOrder : next.lastOrder = state.lastOrder) (sameYielded : next.yielded = state.yielded) :
    Moves [] state next := by
  refine ⟨?_, sameYielded ▸ List.prefix_rfl, .inl ?_, .inl sameOrder⟩
  · unfold Marked at marked ⊢
    rwa [samePosition, sameOrder, sameYielded]
  · rw [offered, offered, pending, pending, samePosition, sameYielded, List.append_nil]

theorem poll_free (state : State) (event : SubscriptionEvent) (rest : List SubscriptionEvent)
    (stage : Stage) : state.poll.position ≠ .busy event rest stage := by
  unfold State.poll
  split <;> nofun

theorem poll_same (state : State) :
    state.poll.lastOrder = state.lastOrder ∧ state.poll.yielded = state.yielded := by
  unfold State.poll
  split <;> exact ⟨rfl, rfl⟩

theorem handleFailure_free (state : State) (failure : Failure) (event : SubscriptionEvent)
    (rest : List SubscriptionEvent) (stage : Stage) :
    (state.handleFailure failure).position ≠ .busy event rest stage := by
  unfold State.handleFailure
  cases failure <;> dsimp only <;> split <;> nofun

theorem handleFailure_same (state : State) (failure : Failure) :
    (state.handleFailure failure).lastOrder = state.lastOrder ∧
      (state.handleFailure failure).yielded = state.yielded := by
  unfold State.handleFailure
  cases failure <;> dsimp only <;> split <;> exact ⟨rfl, rfl⟩

theorem hand_nil_free (state : State) (done : Stage) (event : SubscriptionEvent)
    (rest : List SubscriptionEvent) (stage : Stage) :
    (state.hand [] done).position ≠ .busy event rest stage := by
  unfold State.hand
  cases done <;> dsimp only <;> (try split) <;> nofun

theorem hand_nil_same (state : State) (done : Stage) :
    (state.hand [] done).lastOrder = state.lastOrder ∧
      (state.hand [] done).yielded = state.yielded := by
  unfold State.hand
  cases done <;> dsimp only <;> (try split) <;> exact ⟨rfl, rfl⟩

/-- The stream hands out some events, where it had none left. -/
theorem Moves.hand (free : pending state = []) (covers : Passed state.lastOrder state.yielded)
    (sameOrder : next.lastOrder = state.lastOrder) (sameYielded : next.yielded = state.yielded)
    (events : List SubscriptionEvent) (stage : Stage) :
    Moves (orders events) state (next.hand events stage) := by
  cases events with
  | nil =>
    obtain ⟨order, yielded⟩ := hand_nil_same next stage
    exact .free free covers (order.trans sameOrder) (yielded.trans sameYielded)
      (hand_nil_free next stage)
  | cons event rest =>
    have isOffered : offered state = orders state.yielded := by rw [offered, free, List.append_nil]
    by_cases stopped : next.isStopped = true
    · simp only [State.hand, if_pos stopped]
      refine ⟨?_, sameYielded ▸ List.prefix_rfl, .inr ⟨rfl, ?_⟩, .inl sameOrder⟩
      · rw [← sameOrder, ← sameYielded] at covers
        exact covers
      · rw [isOffered, ← sameYielded]
        show orders next.yielded ++ [] <+: _
        rw [List.append_nil]
    simp only [State.hand, if_neg stopped]
    refine ⟨⟨state.yielded, ?_, ?_⟩, ?_, .inl ?_, .inl sameOrder⟩
    · rw [sameYielded]
    · show Passed next.lastOrder _
      rwa [sameOrder]
    · rw [sameYielded, orders_append]
      exact List.prefix_append _ _
    · show orders (next.yielded ++ [event]) ++ orders rest = _
      rw [isOffered, sameYielded, orders_append, List.append_assoc, ← orders_append]
      rfl

theorem Moves.pull {event : SubscriptionEvent} {rest : List SubscriptionEvent} {stage : Stage}
    (place : state.position = .busy event rest stage) (marked : Marked state)
    (increasing : (orders state.yielded).Pairwise (· < ·))
    (isLast : lastOrder =
      match event.created with | some order => some order | none => state.lastOrder)
    :
    Moves [] state (State.hand { state with lastOrder } rest stage) := by
  simp only [Marked, place] at marked
  obtain ⟨before, isYielded, covers⟩ := marked
  have covers : Passed lastOrder state.yielded :=
    isYielded ▸ covers_of_last covers (isYielded ▸ increasing) isLast
  have moves : Moves (orders rest) { state with lastOrder, position := .start }
      (State.hand { state with lastOrder } rest stage) :=
    .hand rfl covers rfl rfl rest stage
  have isOffered : offered state =
      offered { state with lastOrder, position := .start } ++ orders rest := by
    simp only [offered, pending, place, List.append_nil]
  refine ⟨moves.marked, moves.given, ?_, ?_⟩
  · rw [List.append_nil, isOffered]
    rcases moves.offers with same | ⟨done, isPrefix⟩
    · exact .inl same
    · exact .inr ⟨done, isPrefix.trans (List.prefix_append _ _)⟩
  have isNext : (State.hand { state with lastOrder } rest stage).lastOrder = lastOrder := by
    rcases moves.lastOrder with same | ⟨order, -, isNext⟩
    · exact same
    · cases rest with
      | nil => exact (hand_nil_same _ _).1
      | cons => unfold State.hand; dsimp only; split <;> rfl
  rw [isNext, isLast]
  cases created : event.created with
  | none => exact .inl rfl
  | some last =>
    refine .inr ⟨last, List.mem_filterMap.mpr ⟨event, ?_, created⟩, rfl⟩
    rw [isYielded]
    exact List.mem_append_right _ (List.mem_singleton_self event)

theorem step_moves (marked : Marked state)
    (increasing : (orders state.yielded).Pairwise (· < ·)) (input : Input) :
    Moves (fresh state input) state (step groupId state input) := by
  -- without an event at the consumer, the last order covers what it was given
  have covers : pending state = [] → (∀ event rest stage, state.position ≠ .busy event rest stage) →
      Passed state.lastOrder state.yielded := by
    intro _ isFree
    unfold Marked at marked
    split at marked
    · rename_i event rest stage place
      exact absurd place (isFree event rest stage)
    · exact marked
  have fails : ∀ failure, pending state = [] →
      (∀ event rest stage, state.position ≠ .busy event rest stage) →
      Moves [] state (state.handleFailure failure) := fun failure free isFree =>
    .free free (covers free isFree) (handleFailure_same state failure).1
      (handleFailure_same state failure).2 (handleFailure_free state failure)
  cases input with
  | pull =>
    cases place : state.position with
    | start =>
      simp only [step, place, fresh]
      have free : pending state = [] := by simp only [pending, place]
      exact .free free (covers free (by simp [place])) (poll_same state).1 (poll_same state).2
        (poll_free state)
    | busy =>
      simp only [step, place, fresh]
      exact .pull place marked increasing rfl
    | requested | delaying | done | failed =>
      simp only [step, place, fresh]
      exact .refl marked rfl rfl rfl
  | messages result =>
    cases place : state.position with
    | requested stage =>
      have free : pending state = [] := by simp only [pending, place]
      have covers := covers free (by simp [place])
      cases stage with
      | messages =>
        cases result with
        | ok =>
          simp only [step, place, fresh]
          rw [← orders_created]
          exact .hand free covers rfl rfl _ _
        | error failure =>
          simp only [step, place, fresh]
          exact fails failure free (by simp [place])
      | reactions | receipts =>
        cases result <;> simp only [step, place, fresh] <;> exact .refl marked rfl rfl rfl
    | start | busy | delaying | done | failed =>
      cases result <;> simp only [step, place, fresh] <;> exact .refl marked rfl rfl rfl
  | reactions result =>
    cases place : state.position with
    | requested stage =>
      have free : pending state = [] := by simp only [pending, place]
      have covers := covers free (by simp [place])
      cases stage with
      | reactions =>
        cases result with
        | ok rows =>
          simp only [step, place, fresh]
          rw [← orders_reactionEvents groupId state.reactionSnapshot (reactionMap rows)]
          refine .hand free covers ?_ ?_ _ _ <;> rfl
        | error failure =>
          simp only [step, place, fresh]
          exact fails failure free (by simp [place])
      | messages | receipts =>
        cases result <;> simp only [step, place, fresh] <;> exact .refl marked rfl rfl rfl
    | start | busy | delaying | done | failed =>
      cases result <;> simp only [step, place, fresh] <;> exact .refl marked rfl rfl rfl
  | receipts result =>
    cases place : state.position with
    | requested stage =>
      have free : pending state = [] := by simp only [pending, place]
      have covers := covers free (by simp [place])
      cases stage with
      | receipts =>
        cases result with
        | ok members =>
          simp only [step, place, fresh]
          rw [← orders_receiptEvents groupId state.receiptSnapshot members]
          refine .hand free covers ?_ ?_ _ _ <;> rfl
        | error failure =>
          simp only [step, place, fresh]
          exact fails failure free (by simp [place])
      | messages | reactions =>
        cases result <;> simp only [step, place, fresh] <;> exact .refl marked rfl rfl rfl
    | start | busy | delaying | done | failed =>
      cases result <;> simp only [step, place, fresh] <;> exact .refl marked rfl rfl rfl
  | timer =>
    cases place : state.position with
    | delaying =>
      simp only [step, place, fresh]
      have free : pending state = [] := by simp only [pending, place]
      exact .free free (covers free (by simp [place])) (poll_same state).1 (poll_same state).2
        (poll_free state)
    | start | requested | busy | done | failed =>
      simp only [step, place, fresh]
      exact .refl marked rfl rfl rfl
  | abort | disconnect => exact .refl marked rfl rfl rfl

/-- A stream that has ended does nothing more. -/
theorem step_done (done : state.position = .done) (input : Input) :
    (step groupId state input).position = .done := by
  cases input with
  | messages result | reactions result | receipts result => cases result <;> simp only [step, done]
  | pull | timer => simp only [step, done]
  | abort | disconnect => exact done

end Steps

end MessagingStack.Sdk.HttpTransport

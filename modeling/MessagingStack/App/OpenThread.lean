import MessagingStack.App.PageLedger
import MessagingStack.Base.Gapless
import MessagingStack.Base.Runs

/-!
# An open thread

The part of `chat-app/src/hooks/useMessages.ts` that keeps the list of a thread: the first
load or the warm open from the session cache, catch-ups, the subscription, older pages, own
sends, and the marks and cursors that are taken from the list: the private `readUpto`, the
delivered and the peer-visible read acknowledgement, the `after_order` of a catch-up and the
`afterOrder` of a subscription.
-/

namespace MessagingStack.App.Thread

/-! ## The relayer -/

def isTimeline (log : List Bool) (order : Nat) : Bool := 0 < order && log[order - 1]? == some true

def Timeline (log : List Bool) : Set Nat := { order | isTimeline log order = true }

/-- An answer to a request for rows after an order. -/
def rowsAfter (log : List Bool) (cursor : Nat) (rows : List Nat) : List Nat :=
  rows.filter fun order => isTimeline log order && cursor < order

/-- An answer to a request for rows before an order. -/
def rowsBefore (log : List Bool) (bound : Nat) (rows : List Nat) : List Nat :=
  rows.filter fun order => isTimeline log order && order < bound

def newestRows (log : List Bool) (rows : List Nat) : List Nat := rows.filter (isTimeline log)

/-! ## The hook -/

inductive ReceiptMode where
  | full
  | deliveredOnly
  | none
  deriving DecidableEq

/-- How far `loadInitial` has come. -/
inductive Initial where
  /-- The newest rows are asked for. -/
  | fetchTip (cached : Option CachedThread)
  | catchUpFrom (merged : List Message) (ledger : ThreadPageLedger) (cursor pages : Nat)
  /-- The list is set, and the reactions are asked for. -/
  | shown (initial : List Message) (ledger : ThreadPageLedger)
  /-- The list is cached, and presence, receipts and preferences are asked for. -/
  | cached (initial : List Message)
  /-- `isLoadingInitialRef` is false again. -/
  | finished
  deriving DecidableEq

structure CatchUp where
  cursor : Nat
  pages : Nat
  deriving DecidableEq

/-- A call of `performSend`. -/
structure Send where
  send : Nat
  /-- `optimisticOrder`. -/
  guess : Nat
  /-- The order of the row once the relayer has accepted it. -/
  accepted : Option Nat
  deriving DecidableEq

/-- The state and the refs of a mounted hook. -/
structure Hook where
  messages : List Message := []
  loading : Bool := true
  hasMore : Bool := false
  pageLedger : ThreadPageLedger := emptyPageLedger
  lastOrder : Option Nat := none
  messageCount : Nat := 0
  lastSentReadUpto : Nat := 0
  lastSentPeerReadUpto : Nat := 0
  lastSentDeliveredUpto : Nat := 0
  pendingDeliveredUpto : Nat := 0
  pendingPeerReadUpto : Nat := 0
  receiptMode : ReceiptMode := .full
  initial : Initial := .fetchTip none
  catchUp : Option CatchUp := none
  /-- The `before_order` of the page that `loadMore` waits for. -/
  older : Option Nat := none
  /-- The subscription, with the cursor of its stream. -/
  stream : Option (Option Nat) := none
  sends : List Send := []
  nextSend : Nat := 0
  deriving DecidableEq

structure State where
  log : List Bool
  cache : Option CachedThread
  hook : Option Hook
  deriving DecidableEq

/-- Before the thread is opened for the first time. -/
def State.start : State := { log := [], cache := none, hook := none }

/-- The values that a step gives to a mark or a cursor, each with the list it is about. -/
abbrev Gives := List (Nat × List Message)

def orders (messages : List Message) : List Nat := messages.map (·.order)

namespace Hook

/-- The effect that keeps tip cursor and ledger bounds in sync with the list. -/
def syncCursor (h : Hook) : Hook :=
  if h.messages.isEmpty then { h with messageCount := 0 }
  else
    { h with
      messageCount := h.messages.length
      lastOrder := h.messages.getLast?.map (·.order)
      pageLedger :=
        { h.pageLedger with
          minOrder := (orders h.messages).min?
          maxOrder := (orders h.messages).max? } }

def flushDeliveredAck (h : Hook) : Hook × List Nat :=
  if h.receiptMode = .none ∨ h.pendingDeliveredUpto ≤ h.lastSentDeliveredUpto then (h, [])
  else ({ h with lastSentDeliveredUpto := h.pendingDeliveredUpto }, [h.pendingDeliveredUpto])

def scheduleDeliveredAck (h : Hook) (order : Nat) : Hook :=
  if order = 0 then h
  else { h with pendingDeliveredUpto := max h.pendingDeliveredUpto order }

def postDeliveredFirst (h : Hook) : Hook × List Nat :=
  if h.pendingPeerReadUpto ≤ h.lastSentDeliveredUpto then (h, [])
  else
    let deliveredUpto := max h.pendingDeliveredUpto h.pendingPeerReadUpto
    ({ h with pendingDeliveredUpto := deliveredUpto, lastSentDeliveredUpto := deliveredUpto },
      [deliveredUpto])

def flushPeerReadAck (h : Hook) : Hook × List Nat :=
  if h.pendingPeerReadUpto = 0 then (h, [])
  else
    match h.receiptMode with
    | .none => (h, [])
    | .deliveredOnly => (h.scheduleDeliveredAck h.pendingPeerReadUpto, [])
    | .full =>
      if h.pendingPeerReadUpto ≤ h.lastSentPeerReadUpto then (h, [])
      else
        let first := postDeliveredFirst { h with lastSentPeerReadUpto := h.pendingPeerReadUpto }
        (first.1, first.2 ++ [h.pendingPeerReadUpto])

def schedulePeerReadAck (h : Hook) (order : Nat) : Hook × List Nat :=
  if order = 0 then (h, [])
  else flushPeerReadAck { h with pendingPeerReadUpto := max h.pendingPeerReadUpto order }

def markRead (h : Hook) (pageEngaged : Bool) : Hook × List Nat :=
  if !pageEngaged || h.loading then (h, [])
  else
    match (orders h.messages).max? with
    | none => (h, [])
    | some maxOrder =>
      if h.lastSentReadUpto < maxOrder then
        let acked := schedulePeerReadAck { h with lastSentReadUpto := maxOrder } maxOrder
        (acked.1, maxOrder :: acked.2)
      else schedulePeerReadAck h maxOrder

/-- The delivered acknowledgement at the end of `loadInitial`. -/
def deliverTip (h : Hook) (initial : List Message) : Hook × List Nat :=
  match (orders initial).max? with
  | some tip => flushDeliveredAck { h with pendingDeliveredUpto := max h.pendingDeliveredUpto tip }
  | none => (h, [])

/-- `setMessages(initial)` at the end of `loadInitial`. -/
def showInitial (h : Hook) (initial : List Message) (ledger : ThreadPageLedger) : Hook :=
  { h with
    pageLedger := ledger
    messages := initial
    hasMore := ledger.hasMoreOlder
    initial := .shown initial ledger }

def coldList (cached : Option CachedThread) (fetched : List Nat) : List Message :=
  let initial := sortMessagesByOrder (fetched.map .ofOrder)
  match cached with
  | some thread =>
    if thread.messages.isEmpty then initial else mergeMessages thread.messages initial
  | none => initial

def coldHasMoreOlder (cached : Option CachedThread) (fetched : List Nat) (hasNext : Bool) : Bool :=
  match cached, fetched.min? with
  | some thread, some oldestFetched =>
    if thread.messages.any fun message => message.order < oldestFetched then
      thread.pageLedger.hasMoreOlder
    else hasNext
  | _, _ => hasNext

def coldLedger (cached : Option CachedThread) (fetched : List Nat) (hasNext : Bool) :
    ThreadPageLedger :=
  let ledger := ledgerFromMessages (orders (coldList cached fetched))
    (coldHasMoreOlder cached fetched hasNext)
  match cached with
  | some thread =>
    if thread.pageLedger.fetchedBeforeOrders.isEmpty then ledger
    else { ledger with fetchedBeforeOrders := thread.pageLedger.fetchedBeforeOrders }
  | none => ledger

/-- A page of the catch-up of a warm open. -/
def warmPage (h : Hook) (merged : List Message) (ledger : ThreadPageLedger) (cursor pages : Nat)
    (fetched : List Nat) (hasNext : Bool) : Hook × Gives :=
  if fetched.isEmpty then (h.showInitial merged ledger, [])
  else
    let merged := mergeMessages merged (fetched.map .ofOrder)
    let ledger := applyNewerOrdersToLedger ledger fetched
    let cursor := ledger.maxOrder.getD cursor
    if hasNext && pages + 1 < messageCatchupMaxPages then
      ({ h with initial := .catchUpFrom merged ledger cursor (pages + 1) }, [(cursor, merged)])
    else (h.showInitial merged ledger, [])

/-- The rows of a page of newer ones in the list. -/
def joinNewer (h : Hook) (fetched : List Nat) (tip : Nat) : Hook :=
  { h with
    messages := mergeMessages h.messages (fetched.map .ofOrder)
    pageLedger := applyNewerOrdersToLedger h.pageLedger fetched }.scheduleDeliveredAck tip

def catchUpPage (h : Hook) (catchUp : CatchUp) (fetched : List Nat) (hasNext : Bool) :
    Hook × Gives :=
  match fetched.max? with
  | none => ({ h with catchUp := none }, [])
  | some tip =>
    let joined := h.joinNewer fetched tip
    let cursor := (applyNewerOrdersToLedger h.pageLedger fetched).maxOrder.getD catchUp.cursor
    if hasNext && catchUp.pages + 1 < messageCatchupMaxPages then
      ({ joined with catchUp := some ⟨cursor, catchUp.pages + 1⟩ }, [(cursor, joined.messages)])
    else ({ joined with catchUp := none }, [])

/-- A row of the stream, whose cursor is then at it if it is new. -/
def joinEvent (h : Hook) (cursor : Option Nat) (order : Nat) (created acked : Bool) : Hook :=
  let h := { h with
    messages := mergeMessages h.messages [.ofOrder order]
    stream := some (if created then some (max (cursor.getD 0) order) else cursor) }
  if acked then h.scheduleDeliveredAck order else h

/-- Swaps the identifier of a confirmed send for that of the relayer. -/
def swapId (messages : List Message) (send order : Nat) : List Message :=
  let fromTemp := messages.find? (·.messageId = .optimistic send)
  let fromServer := messages.find? (·.messageId = .relayer order)
  let rest := messages.filter fun message =>
    message.messageId ≠ .optimistic send ∧ message.messageId ≠ .relayer order
  match fromServer, fromTemp with
  | some message, _ => sortMessagesByOrder (rest ++ [message])
  | none, some message =>
    sortMessagesByOrder (rest ++ [{ message with messageId := .relayer order }])
  | none, none => messages

end Hook

/-! ## Steps -/

inductive Input where
  /-- The relayer assigns the next order. -/
  | assign (timeline : Bool)
  | mount
  | unmount
  /-- The session cache drops the thread. -/
  | evict
  | initialAnswer (rows : List Nat) (hasNext : Bool)
  | initialFails
  | reactionsLoaded
  | initialDone
  | effects (pageEngaged : Bool)
  | subscribe
  | abort
  /-- A row of the stream: a new one or a change of an old one.  An edited or deleted row is
  not acknowledged. -/
  | event (order : Nat) (created acked : Bool)
  | catchUp
  | catchUpAnswer (rows : List Nat) (hasNext : Bool)
  | catchUpFails
  | loadMore
  | olderAnswer (rows : List Nat) (hasNext : Bool)
  | olderFails
  | send
  | accept (send : Nat)
  /-- The send learns the identifier of its message. -/
  | confirm (send : Nat)
  | sendFails (send : Nat)
  | flushDelivered
  | deliveredFails (upto : Nat)
  | flushPeerRead
  | peerReadFails (upto : Nat)
  | readStateFails (upto : Nat)
  | setReceiptMode (mode : ReceiptMode)
  deriving DecidableEq

def aboutList (h : Hook) (values : List Nat) : Gives := values.map fun value => (value, h.messages)

/-- The hook as it is mounted, and the first cursor of a warm open. -/
def mounted (cache : Option CachedThread) : Hook × Gives :=
  match cache with
  | some thread =>
    if thread.messages.isEmpty then ({ initial := .fetchTip (some thread) }, [])
    else
      let h : Hook :=
        { messages := thread.messages
          loading := false
          hasMore := thread.pageLedger.hasMoreOlder
          pageLedger := thread.pageLedger
          lastOrder := thread.messages.getLast?.map (·.order) }
      if shouldWarmCatchUpOnly thread.pageLedger then
        let afterOrder := thread.pageLedger.maxOrder.getD 0
        ({ h with initial := .catchUpFrom thread.messages thread.pageLedger afterOrder 0 },
          [(afterOrder, thread.messages)])
      else ({ h with initial := .fetchTip (some thread) }, [])
  | none => ({}, [])

/-- What an input does to a mounted hook; the cache, where it is written. -/
def hookStep (log : List Bool) (cache : Option CachedThread) (h : Hook) :
    Input → Hook × Option CachedThread × Gives
  | .initialAnswer rows hasNext =>
    match h.initial with
    | .fetchTip cached =>
      let fetched := newestRows log rows
      (h.showInitial (Hook.coldList cached fetched) (Hook.coldLedger cached fetched hasNext),
        cache, [])
    | .catchUpFrom merged ledger cursor pages =>
      let paged := h.warmPage merged ledger cursor pages (rowsAfter log cursor rows) hasNext
      (paged.1, cache, paged.2)
    | _ => (h, cache, [])
  | .initialFails =>
    match h.initial with
    | .fetchTip _ | .catchUpFrom .. => ({ h with initial := .finished, loading := false }, cache, [])
    | _ => (h, cache, [])
  | .reactionsLoaded =>
    match h.initial with
    | .shown initial ledger =>
      ({ h with initial := .cached initial }, some (setCachedThread initial ledger), [])
    | _ => (h, cache, [])
  | .initialDone =>
    match h.initial with
    | .cached initial =>
      let acked := h.deliverTip initial
      ({ acked.1 with initial := .finished, loading := false }, cache, aboutList h acked.2)
    | _ => (h, cache, [])
  | .effects pageEngaged =>
    let h := h.syncCursor
    if h.loading && h.messages.isEmpty then (h, cache, [])
    else
      let stored := setCachedThread h.messages h.pageLedger
      let read := { h with
        pageLedger := stored.pageLedger
        hasMore := stored.pageLedger.hasMoreOlder }.markRead pageEngaged
      (read.1, some stored, aboutList h read.2)
  | .subscribe =>
    if h.loading || h.stream.isSome then (h, cache, [])
    else
      let h := h.syncCursor
      ({ h with stream := some h.lastOrder }, cache, aboutList h h.lastOrder.toList)
  | .abort => ({ h with stream := none }, cache, [])
  | .event order created acked =>
    match h.stream with
    | some cursor =>
      if isTimeline log order then (h.joinEvent cursor order created acked, cache, [])
      else (h, cache, [])
    | none => (h, cache, [])
  | .catchUp =>
    match h.catchUp, h.initial, h.loading, h.pageLedger.maxOrder with
    | none, .finished, false, some cursor =>
      ({ h with catchUp := some ⟨cursor, 0⟩ }, cache, [(cursor, h.messages)])
    | _, _, _, _ => (h, cache, [])
  | .catchUpAnswer rows hasNext =>
    match h.catchUp with
    | some catchUp =>
      let paged := h.catchUpPage catchUp (rowsAfter log catchUp.cursor rows) hasNext
      (paged.1, cache, paged.2)
    | none => (h, cache, [])
  | .catchUpFails => ({ h with catchUp := none }, cache, [])
  | .loadMore =>
    match shouldFetchOlderPage h.pageLedger h.older.isSome (h.initial != .finished)
        h.messageCount with
    | some beforeOrder => ({ h with older := some beforeOrder }, cache, [])
    | none => (h, cache, [])
  | .olderAnswer rows hasNext =>
    match h.older with
    | some beforeOrder =>
      let fetched := rowsBefore log beforeOrder rows
      let ledger := applyOlderPageToLedger h.pageLedger beforeOrder fetched hasNext
      ({ h with
          messages := mergeMessages h.messages (fetched.map .ofOrder)
          pageLedger := ledger
          hasMore := ledger.hasMoreOlder
          older := none }, cache, [])
    | none => (h, cache, [])
  | .olderFails => ({ h with older := none }, cache, [])
  | .send =>
    let optimisticOrder := h.lastOrder.getD 0 + 1
    ({ h with
        lastOrder := some optimisticOrder
        messages := mergeMessages h.messages [⟨.optimistic h.nextSend, optimisticOrder⟩]
        sends := h.sends ++ [⟨h.nextSend, optimisticOrder, none⟩]
        nextSend := h.nextSend + 1 }, cache, [])
  | .accept send =>
    ({ h with sends := h.sends.map fun one =>
        if one.send = send && one.accepted.isNone then
          { one with accepted := some (log.length + 1) }
        else one }, cache, [])
  | .confirm send =>
    match (h.sends.find? (·.send = send)).bind (·.accepted) with
    | some order =>
      ({ h with
          messages := Hook.swapId h.messages send order
          sends := h.sends.filter (·.send ≠ send) }, cache, [])
    | none => (h, cache, [])
  | .sendFails send =>
    ({ h with
        messages := h.messages.filter (·.messageId ≠ .optimistic send)
        sends := h.sends.filter (·.send ≠ send) }, cache, [])
  | .flushDelivered =>
    let acked := h.flushDeliveredAck
    (acked.1, cache, aboutList h acked.2)
  | .deliveredFails upto =>
    (if h.lastSentDeliveredUpto = upto then { h with lastSentDeliveredUpto := 0 } else h, cache, [])
  | .flushPeerRead =>
    let acked := h.flushPeerReadAck
    (acked.1, cache, aboutList h acked.2)
  | .peerReadFails upto =>
    (if h.lastSentPeerReadUpto = upto then { h with lastSentPeerReadUpto := 0 } else h, cache, [])
  | .readStateFails upto =>
    (if h.lastSentReadUpto = upto then { h with lastSentReadUpto := 0 } else h, cache, [])
  | .setReceiptMode mode => ({ h with receiptMode := mode }, cache, [])
  | .assign _ | .mount | .unmount | .evict => (h, cache, [])

def waits (h : Hook) (send : Nat) : Bool :=
  h.sends.any fun one => one.send == send && one.accepted.isNone

/-- One step, and the values it gives. -/
def act (state : State) (input : Input) : State × Gives :=
  match input, state.hook with
  | .assign timeline, _ => ({ state with log := state.log ++ [timeline] }, [])
  | .evict, _ => ({ state with cache := none }, [])
  | .unmount, _ => ({ state with hook := none }, [])
  | .mount, none =>
    let open_ := mounted state.cache
    ({ state with hook := some open_.1 }, open_.2)
  | .accept send, some h =>
    if waits h send then
      let taken := hookStep state.log state.cache h (.accept send)
      ({ state with log := state.log ++ [true], hook := some taken.1 }, [])
    else (state, [])
  | input, some h =>
    let taken := hookStep state.log state.cache h input
    ({ state with cache := taken.2.1, hook := some taken.1 }, taken.2.2)
  | _, none => (state, [])

def step (state : State) (input : Input) : State := (act state input).1

/-- The values a step gives. -/
def gives (state : State) (input : Input) : Gives := (act state input).2

def run (inputs : List Input) : State := inputs.foldl step .start

end MessagingStack.App.Thread

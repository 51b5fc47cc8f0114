import MessagingStack.Sdk.WsTransport

/-!
# Holes in a group stream

The whole way of a `message.created` event: a handler of `create_message` stores its row, which
fixes its order, and publishes it later; the socket of the group forwards it if it is above its
watermark; the client hands it to the consumer if it is above the order from which it connected,
and connects again from the last order that it handed out.
-/

namespace MessagingStack.Sdk.GroupStream

open Relayer InMemoryStorage

open WsTransport (GroupFrame SubscriptionEvent groupFeed)

/-! ## The system -/

/-- A WebSocket between the client and the relayer. -/
structure Connection where
  /-- `after_order` of the query; `0` if there is none. -/
  afterOrder : Int
  /-- The state of `handle_socket`, once it runs. -/
  socket : Option Socket
  /-- The frames that are sent and have not arrived. -/
  flight : List GroupFrame

structure State where
  storage : InMemoryStorage
  /-- The rows of the group whose handlers have stored them and not published them yet, in the
  order in which they were stored. -/
  handlers : List Relayer.Message
  connection : Option Connection
  client : WsTransport.State SubscriptionEvent

inductive Input where
  /-- A handler stores its row. -/
  | store (message : Relayer.Message)
  /-- A handler goes on to `publish_wire`. -/
  | publish (place : Nat)
  /-- Another event of the group is published; a created message is not one. -/
  | broadcast (event : RealtimeEvent)
  /-- `handle_socket` begins on the connection. -/
  | upgrade
  /-- A turn of `handle_socket` on the channel. -/
  | serve
  /-- The next frame arrives. -/
  | arrive
  /-- Anything else that happens to the client. -/
  | client (input : WsTransport.Input GroupFrame)

namespace State

def publishEvent (state : State) (event : RealtimeEvent) : State :=
  { state with
    connection := state.connection.map fun connection =>
      { connection with socket := connection.socket.map (·.publishEvent event) } }

/-- The client has created a socket. -/
def connects (client next : WsTransport.State SubscriptionEvent) : Bool :=
  (client.position matches .auth) && (next.position matches .opening _)

/-- The client goes on, and connects if it comes to the opening of a socket. -/
def clientStep (maxReconnectAttempts : Nat) (state : State)
    (input : WsTransport.Input GroupFrame) : State :=
  let client := WsTransport.step groupFeed maxReconnectAttempts state.client input
  if connects state.client client then
    let afterOrder := client.afterOrder.getD 0
    { state with client, connection := some { afterOrder, socket := none, flight := [] } }
  else { state with client }

end State

def step (groupId : String) (bufferSize maxReconnectAttempts : Nat) (state : State) :
    Input → State
  | .store message =>
    match state.storage.createMessage message with
    | (.ok created, storage) =>
      if created.groupId = groupId then
        { state with storage, handlers := state.handlers ++ [created] }
      else { state with storage }
    | (.error _, storage) => { state with storage }
  | .publish place =>
    match state.handlers[place]? with
    | none => state
    | some created =>
      { state with handlers := state.handlers.eraseIdx place }.publishEvent
        (.messageCreated (.ofMessage created))
  | .broadcast event =>
    match event with
    | .messageCreated _ => state
    | event => state.publishEvent event
  | .upgrade =>
    match state.connection with
    | some ⟨afterOrder, none, flight⟩ =>
      { state with connection := some ⟨afterOrder, some (.subscribe afterOrder), flight⟩ }
    | _ => state
  | .serve =>
    match state.connection with
    | some ⟨afterOrder, some socket, flight⟩ =>
      let (socket, sent) := socket.serve bufferSize
      { state with
        connection := some ⟨afterOrder, some socket, flight ++ (sent.map GroupFrame.event).toList⟩ }
    | _ => state
  | .arrive =>
    match state.connection with
    | some ⟨afterOrder, socket, frame :: flight⟩ =>
      if state.client.isOpen then
        { state with
          connection := some ⟨afterOrder, socket, flight⟩
          client := WsTransport.step groupFeed maxReconnectAttempts state.client (.frame frame) }
      else state
    | _ => state
  | .client (.frame _) => state
  | .client input => state.clientStep maxReconnectAttempts input

/-- An empty relayer, and a stream that has not begun. -/
def start (afterOrder : Option Int) : State where
  storage := new
  handlers := []
  connection := none
  client := WsTransport.start afterOrder

def reached (groupId : String) (bufferSize maxReconnectAttempts : Nat)
    (afterOrder : Option Int) (inputs : List Input) : State :=
  inputs.foldl (step groupId bufferSize maxReconnectAttempts) (start afterOrder)

/-! ## What a stream promises -/

def orders (events : List SubscriptionEvent) : List Int :=
  events.filterMap SubscriptionEvent.created

/-- **No holes**: before a message, the consumer has been given every row of the group between
the start of the stream and that message. -/
def NoHoles (groupId : String) (origin : Int) (state : State) : Prop :=
  ∀ given order later, orders state.client.yielded = given ++ order :: later →
    ∀ row ∈ state.storage.log groupId, origin < orderKey row → orderKey row < order →
      orderKey row ∈ given

/-- A step that leaves no hole.  A row is not published to a live socket before an older row of
the stream; when a socket subscribes, every row above its watermark is still to be published; and
the socket does not lag. -/
def Clean (groupId : String) (bufferSize : Nat) (origin : Int) (state : State) : Input → Prop
  | .publish place =>
    ∀ connection ∈ state.connection, connection.socket.isSome = true →
      ∀ earlier ∈ state.handlers.take place, orderKey earlier ≤ origin
  | .upgrade =>
    ∀ connection ∈ state.connection, connection.socket = none →
      ∀ row ∈ state.storage.log groupId, connection.afterOrder < orderKey row →
        orderKey row ∈ state.handlers.map orderKey
  | .serve =>
    ∀ connection ∈ state.connection, ∀ socket ∈ connection.socket,
      socket.hubRx.pending.length ≤ bufferSize
  | _ => True

/-! ## Orders under way -/

def above (origin : Int) (orders : List Int) : List Int := orders.filter (origin < ·)

@[simp] theorem above_append (origin : Int) (first second : List Int) :
    above origin (first ++ second) = above origin first ++ above origin second :=
  List.filter_append ..

theorem mem_above {origin order : Int} {orders : List Int} :
    order ∈ above origin orders ↔ order ∈ orders ∧ origin < order := by
  simp [above]

theorem above_eq_nil {origin : Int} {orders : List Int}
    (below : ∀ order ∈ orders, order ≤ origin) : above origin orders = [] := by
  rw [above, List.filter_eq_nil_iff]
  intro order isIn isAbove
  exact absurd (of_decide_eq_true isAbove) (not_lt.mpr (below order isIn))

theorem above_singleton {origin order : Int} (isAbove : origin < order) :
    above origin [order] = [order] := by
  simp [above, isAbove]

/-- The order of the row that a frame brings. -/
def frameCreated : GroupFrame → Option Int
  | .event event => event.created
  | _ => none

def flightOrders (flight : List GroupFrame) : List Int := flight.filterMap frameCreated

def pendingOrders (socket : Socket) : List Int :=
  socket.hubRx.pending.filterMap RealtimeEvent.created

/-- A created message is one of a row of the log, so that it converts. -/
def Wired : RealtimeEvent → Prop
  | .messageCreated wire => ∃ row, wire = .ofMessage row
  | _ => True

def WiredFrame : GroupFrame → Prop
  | .event event => Wired event
  | _ => True

/-- **What is under way on a live socket**: the rows above the start of the stream are those that
the client has received, those in flight, those of the receiver and those that handlers have yet
to publish, in this order. -/
structure Live (origin : Int) (rows received handlers : List Int) (flight : List GroupFrame)
    (socket : Socket) : Prop where
  split : above origin rows = received ++ flightOrders flight ++
    above origin (pendingOrders socket) ++ above origin handlers
  watermark : socket.afterOrder ∈ origin :: (received ++ flightOrders flight)
  pendingWired : ∀ event ∈ socket.hubRx.pending, Wired event
  flightWired : ∀ frame ∈ flight, WiredFrame frame

/-- A connection whose socket has not subscribed yet was made from what the client received. -/
structure Opening (origin : Int) (received : List Int) (connection : Connection) : Prop where
  empty : connection.flight = []
  afterOrder : connection.afterOrder ∈ origin :: received

def Link (origin : Int) (rows received handlers : List Int) (connection : Connection) : Prop :=
  match connection.socket with
  | none => Opening origin received connection
  | some socket => Live origin rows received handlers connection.flight socket

theorem fromWireMessage_order (row : Relayer.Message) :
    ∃ raw, Verification.fromWireMessage (.ofMessage row) = some raw ∧
      raw.order = (MessageResponse.ofMessage row).order := by
  unfold Verification.fromWireMessage
  simp only [MessageResponse.ofMessage, Verification.fromHex_encode, bind, Option.bind_some, pure]
  exact ⟨_, rfl, rfl⟩

section Link

variable {origin : Int} {rows received handlers : List Int} {flight : List GroupFrame}
  {socket : Socket}

theorem lt_of_split {first second : List Int} (increasing : rows.Pairwise (· < ·))
    (split : above origin rows = first ++ second) {early late : Int}
    (isEarly : early ∈ origin :: first) (isLate : late ∈ second) : early < late := by
  have isAbove : late ∈ above origin rows := split ▸ List.mem_append_right _ isLate
  rcases List.mem_cons.mp isEarly with rfl | isEarly
  · exact (mem_above.mp isAbove).2
  · have kept : (first ++ second).Pairwise (· < ·) := split ▸ increasing.filter _
    exact (List.pairwise_append.mp kept).2.2 early isEarly late isLate

theorem Live.store (live : Live origin rows received handlers flight socket) (order : Int) :
    Live origin (rows ++ [order]) received (handlers ++ [order]) flight socket where
  split := by
    rw [above_append, above_append, live.split]
    simp only [List.append_assoc]
  watermark := live.watermark
  pendingWired := live.pendingWired
  flightWired := live.flightWired

theorem Live.publish {before after : List Int} {row : Relayer.Message}
    (live : Live origin rows received (before ++ orderKey row :: after) flight socket)
    (first : ∀ order ∈ before, order ≤ origin) :
    Live origin rows received (before ++ after) flight
      (socket.publishEvent (.messageCreated (.ofMessage row))) where
  split := by
    have published : pendingOrders (socket.publishEvent (.messageCreated (.ofMessage row))) =
        pendingOrders socket ++ [orderKey row] := by
      rw [pendingOrders, Socket.publishEvent, List.filterMap_append]
      rfl
    have cons : orderKey row :: after = [orderKey row] ++ after := rfl
    rw [live.split, published, cons]
    simp only [above_append, above_eq_nil first, List.nil_append, List.append_assoc]
  watermark := live.watermark
  pendingWired := by
    intro event isIn
    rcases List.mem_append.mp isIn with isIn | isIn
    · exact live.pendingWired event isIn
    · rw [List.mem_singleton.mp isIn]
      exact ⟨row, rfl⟩
  flightWired := live.flightWired

theorem Live.broadcast (live : Live origin rows received handlers flight socket)
    {event : RealtimeEvent} (noRow : event.created = none) (wired : Wired event) :
    Live origin rows received handlers flight (socket.publishEvent event) where
  split := by
    have same : pendingOrders (socket.publishEvent event) = pendingOrders socket := by
      rw [pendingOrders, Socket.publishEvent, List.filterMap_append]
      simp [noRow, pendingOrders]
    rw [same]
    exact live.split
  watermark := live.watermark
  pendingWired := by
    intro other isIn
    rcases List.mem_append.mp isIn with isIn | isIn
    · exact live.pendingWired other isIn
    · rw [List.mem_singleton.mp isIn]
      exact wired
  flightWired := live.flightWired

/-- The socket starts with everything above its watermark still to be published. -/
theorem Live.subscribe {afterOrder : Int} (increasing : rows.Pairwise (· < ·))
    (isPrefix : received <+: above origin rows) (sublist : handlers.Sublist rows)
    (apart : ∀ order ∈ received, order ∉ handlers)
    (isAfter : afterOrder ∈ origin :: received)
    (unpublished : ∀ order ∈ rows, afterOrder < order → order ∈ handlers) :
    Live origin rows received handlers [] (.subscribe afterOrder) where
  split := by
    obtain ⟨missing, isSplit⟩ := isPrefix
    have sorted : (received ++ missing).Pairwise (· < ·) := isSplit ▸ increasing.filter _
    have rest : missing = above origin handlers := by
      refine List.Pairwise.eq_of_mem_iff (r := (· < ·)) (List.pairwise_append.mp sorted).2.1
        ((increasing.sublist sublist).filter _) fun order => ?_
      constructor
      · intro isMissing
        have isRow : order ∈ above origin rows := isSplit ▸ List.mem_append_right _ isMissing
        have later := lt_of_split increasing isSplit.symm isAfter isMissing
        exact mem_above.mpr ⟨unpublished order (mem_above.mp isRow).1 later, (mem_above.mp isRow).2⟩
      intro waits
      obtain ⟨isHandler, isAbove⟩ := mem_above.mp waits
      have isRow : order ∈ received ++ missing :=
        isSplit ▸ mem_above.mpr ⟨sublist.subset isHandler, isAbove⟩
      rcases List.mem_append.mp isRow with isReceived | isMissing
      · exact absurd isHandler (apart order isReceived)
      · exact isMissing
    rw [← isSplit, rest]
    simp [flightOrders, pendingOrders, Socket.subscribe, above]
  watermark := by
    show afterOrder ∈ origin :: (received ++ [])
    rw [List.append_nil]
    exact isAfter
  pendingWired := fun event isIn => absurd isIn List.not_mem_nil
  flightWired := fun frame isIn => absurd isIn List.not_mem_nil

/-- What was received or is in flight is not below the start of the stream. -/
theorem le_of_early {first second : List Int} (split : above origin rows = first ++ second)
    {early : Int} (isEarly : early ∈ origin :: first) : origin ≤ early := by
  rcases List.mem_cons.mp isEarly with rfl | isEarly
  · exact le_rfl
  · have isAbove : early ∈ above origin rows := split ▸ List.mem_append_left _ isEarly
    exact (mem_above.mp isAbove).2.le

/-- A turn of `handle_socket` takes the next event off the receiver, and sends it if it is above
the watermark; what it drops is not of the stream. -/
theorem Live.serve {bufferSize : Nat} (increasing : rows.Pairwise (· < ·))
    (live : Live origin rows received handlers flight socket)
    (inTime : socket.hubRx.pending.length ≤ bufferSize) :
    Live origin rows received handlers
      (flight ++ ((socket.serve bufferSize).2.map GroupFrame.event).toList)
      (socket.serve bufferSize).1 := by
  obtain ⟨⟨pending⟩, afterOrder⟩ := socket
  have noLag : ¬pending.length > bufferSize := not_lt.mpr inTime
  cases pending with
  | nil =>
    have idle : Socket.serve bufferSize ⟨⟨[]⟩, afterOrder⟩ = (⟨⟨[]⟩, afterOrder⟩, none) := by
      simp [Socket.serve, Receiver.recv]
    rw [idle]
    simpa using live
  | cons event rest =>
    obtain ⟨wired, restWired⟩ := List.forall_mem_cons.mp live.pendingWired
    have split := live.split
    cases isCreated : event.created with
    | none =>
      have sends : Socket.serve bufferSize ⟨⟨event :: rest⟩, afterOrder⟩ =
          (⟨⟨rest⟩, afterOrder⟩, some event) := by
        simp only [Socket.serve, Receiver.recv, if_neg noLag]
        cases event with
        | messageCreated => cases isCreated
        | _ => rfl
      have noOrder : flightOrders (flight ++ [GroupFrame.event event]) = flightOrders flight := by
        simp [flightOrders, frameCreated, isCreated]
      have noRow : pendingOrders ⟨⟨event :: rest⟩, afterOrder⟩ =
          pendingOrders ⟨⟨rest⟩, afterOrder⟩ := by
        simp [pendingOrders, isCreated]
      rw [sends]
      refine ⟨?_, ?_, restWired, ?_⟩
      · rw [noRow] at split
        simpa only [Option.map_some, Option.toList_some, noOrder] using split
      · simpa only [Option.map_some, Option.toList_some, noOrder] using live.watermark
      intro frame isIn
      rcases List.mem_append.mp isIn with isIn | isIn
      · exact live.flightWired frame isIn
      · rw [List.mem_singleton.mp isIn]
        exact wired
    | some order =>
      obtain ⟨wire, rfl, rfl⟩ : ∃ wire, event = .messageCreated wire ∧ wire.order = order := by
        cases event with
        | messageCreated wire => exact ⟨wire, rfl, by simpa [RealtimeEvent.created] using isCreated⟩
        | _ => cases isCreated
      have isPending : pendingOrders ⟨⟨.messageCreated wire :: rest⟩, afterOrder⟩ =
          [wire.order] ++ pendingOrders ⟨⟨rest⟩, afterOrder⟩ := rfl
      rw [isPending, above_append, List.append_assoc (received ++ flightOrders flight)] at split
      by_cases isSeen : wire.order ≤ afterOrder
      · have drops : Socket.serve bufferSize ⟨⟨.messageCreated wire :: rest⟩, afterOrder⟩ =
            (⟨⟨rest⟩, afterOrder⟩, none) := by
          simp only [Socket.serve, Receiver.recv, if_neg noLag, if_pos isSeen]
        have isOld : wire.order ≤ origin := by
          by_contra isNew
          have isLate : wire.order ∈ above origin [wire.order] := by
            rw [above_singleton (not_le.mp isNew)]
            exact List.mem_singleton.mpr rfl
          have later := lt_of_split increasing split live.watermark
            (List.mem_append_left _ (List.mem_append_left _ isLate))
          exact absurd isSeen (not_le.mpr later)
        have noneAbove : above origin [wire.order] = [] :=
          above_eq_nil fun order isIn => List.mem_singleton.mp isIn ▸ isOld
        rw [drops]
        refine ⟨?_, ?_, restWired, ?_⟩
        · rw [noneAbove, List.nil_append] at split
          simpa [List.append_assoc] using split
        · simpa using live.watermark
        · simpa using live.flightWired
      have sends : Socket.serve bufferSize ⟨⟨.messageCreated wire :: rest⟩, afterOrder⟩ =
          (⟨⟨rest⟩, wire.order⟩, some (.messageCreated wire)) := by
        simp only [Socket.serve, Receiver.recv, if_neg noLag, if_neg isSeen]
      have isNew : origin < wire.order :=
        lt_of_le_of_lt (le_of_early split live.watermark) (not_le.mp isSeen)
      have isFlight : flightOrders (flight ++ [GroupFrame.event (.messageCreated wire)]) =
          flightOrders flight ++ [wire.order] := by
        simp [flightOrders, frameCreated, RealtimeEvent.created]
      rw [sends]
      refine ⟨?_, ?_, restWired, ?_⟩
      · rw [above_singleton isNew] at split
        simp only [Option.map_some, Option.toList_some, isFlight]
        rw [split]
        simp only [List.append_assoc]
        rfl
      · simp only [Option.map_some, Option.toList_some, isFlight]
        exact List.mem_cons_of_mem _
          (List.mem_append_right _ (List.mem_append_right _ (List.mem_singleton.mpr rfl)))
      intro frame isIn
      rcases List.mem_append.mp isIn with isIn | isIn
      · exact live.flightWired frame isIn
      · rw [List.mem_singleton.mp isIn]
        exact wired

theorem Live.isPrefix (live : Live origin rows received handlers flight socket) :
    received <+: above origin rows := by
  rw [live.split]
  simp only [List.append_assoc]
  exact List.prefix_append _ _

theorem Live.apart (live : Live origin rows received handlers flight socket)
    (increasing : rows.Pairwise (· < ·)) : ∀ order ∈ received, order ∉ handlers := by
  intro order isReceived isHandler
  have isAbove := (mem_above.mp (live.isPrefix.subset isReceived)).2
  have isEarly : order ∈ origin :: (received ++ flightOrders flight ++
      above origin (pendingOrders socket)) :=
    List.mem_cons_of_mem _ (List.mem_append_left _ (List.mem_append_left _ isReceived))
  have later := lt_of_split increasing live.split isEarly (mem_above.mpr ⟨isHandler, isAbove⟩)
  exact absurd later (lt_irrefl _)

theorem Live.arrive {frame : GroupFrame}
    (live : Live origin rows received handlers (frame :: flight) socket) :
    Live origin rows (received ++ (frameCreated frame).toList) handlers flight socket := by
  have isFlight : flightOrders (frame :: flight) =
      (frameCreated frame).toList ++ flightOrders flight := by
    cases isCreated : frameCreated frame <;> simp [flightOrders, isCreated]
  have split := live.split
  have watermark := live.watermark
  rw [isFlight] at split watermark
  refine ⟨?_, ?_, live.pendingWired, (List.forall_mem_cons.mp live.flightWired).2⟩
  · simpa only [List.append_assoc] using split
  · simpa only [List.append_assoc] using watermark

theorem orders_parseGroupFrame {afterOrder : Option Int} {frame : GroupFrame}
    (wired : WiredFrame frame)
    (isNew : ∀ order ∈ frameCreated frame, ∀ last ∈ afterOrder, last < order) :
    orders (WsTransport.parseGroupFrame afterOrder frame).toList = (frameCreated frame).toList := by
  cases frame with
  | unknown | malformed => rfl
  | event event =>
    cases event with
    | messageCreated =>
      obtain ⟨row, rfl⟩ := wired
      obtain ⟨raw, converts, isOrder⟩ := fromWireMessage_order row
      have passes : afterOrder.any (raw.order ≤ ·) = false := by
        cases afterOrder with
        | none => rfl
        | some last =>
          have below := isNew _ rfl last rfl
          simpa [isOrder] using below
      simp only [WsTransport.parseGroupFrame, converts, passes]
      simp [orders, SubscriptionEvent.created, frameCreated, RealtimeEvent.created, isOrder]
    | messageDeleted wire | messageEdited wire =>
      simp only [WsTransport.parseGroupFrame]
      cases Verification.fromWireMessage wire <;> rfl
    | _ => rfl

end Link

/-! ## The invariant -/

def rowOrders (groupId : String) (storage : InMemoryStorage) : List Int :=
  (storage.log groupId).map orderKey

theorem rowOrders_increasing {storage : InMemoryStorage} (ordered : WellOrdered storage)
    (groupId : String) : (rowOrders groupId storage).Pairwise (· < ·) := by
  rw [rowOrders, ordered.log_eq, List.pairwise_map]
  have sublist := ordered.increasing.filter (·.groupId == groupId)
  refine List.Pairwise.imp_of_mem ?_ sublist
  intro left right isLeft isRight increases
  have leftGroup : left.groupId = groupId := by simpa using (List.mem_filter.mp isLeft).2
  have rightGroup : right.groupId = groupId := by simpa using (List.mem_filter.mp isRight).2
  exact increases (leftGroup.trans rightGroup.symm)

theorem store_cases {storage : InMemoryStorage} (ordered : WellOrdered storage)
    (groupId : String) (message : Relayer.Message) :
    (∃ reason next, storage.createMessage message = (.error reason, next) ∧
      rowOrders groupId next = rowOrders groupId storage) ∨
    (∃ created next, storage.createMessage message = (.ok created, next) ∧
      rowOrders groupId next = rowOrders groupId storage ++
        if created.groupId = groupId then [orderKey created] else []) := by
  rcases storage.createMessage_cases message with ⟨reason, same | consumed⟩ | ⟨-, -, stored⟩
  · exact .inl ⟨reason, storage, same, rfl⟩
  · exact .inl ⟨reason, _, consumed, rfl⟩
  refine .inr ⟨_, _, stored, ?_⟩
  rw [rowOrders, (ordered.append message _).log_eq, rowOrders, ordered.log_eq,
    List.filter_append, List.map_append]
  by_cases isGroup : (message.setOrder (storage.next message.groupId)).groupId = groupId
  · simp [isGroup]
  · simp [isGroup]

/-- **The invariant of a clean run.** -/
structure Inv (groupId : String) (origin : Int) (maxReconnectAttempts : Nat) (state : State) :
    Prop where
  wellOrdered : WellOrdered state.storage
  client : WsTransport.Inv maxReconnectAttempts state.client
  handlers : (state.handlers.map orderKey).Sublist (rowOrders groupId state.storage)
  isPrefix : orders state.client.received <+: above origin (rowOrders groupId state.storage)
  /-- What was received is no longer to be published. -/
  apart : ∀ order ∈ orders state.client.received, order ∉ state.handlers.map orderKey
  lastOrder : state.client.lastOrder.getD 0 ∈ origin :: orders state.client.received
  afterOrder : state.client.afterOrder.getD 0 ∈ origin :: orders state.client.received
  link : ∀ connection ∈ state.connection,
    Link origin (rowOrders groupId state.storage) (orders state.client.received)
      (state.handlers.map orderKey) connection

section Step

variable {groupId : String} {origin : Int} {bufferSize maxReconnectAttempts : Nat} {state : State}

theorem Inv.increasing (inv : Inv groupId origin maxReconnectAttempts state) :
    (rowOrders groupId state.storage).Pairwise (· < ·) :=
  rowOrders_increasing inv.wellOrdered groupId

theorem inv_start (groupId : String) (afterOrder : Option Int) :
    Inv groupId (afterOrder.getD 0) maxReconnectAttempts (start afterOrder) where
  wellOrdered := wellOrdered_new
  client := WsTransport.inv_start afterOrder
  handlers := List.nil_sublist _
  isPrefix := List.nil_prefix
  apart := fun _ isIn => absurd isIn List.not_mem_nil
  lastOrder := List.mem_cons_self
  afterOrder := List.mem_cons_self
  link := nofun

/-- A row that is stored is above everything received. -/
theorem inv_store (inv : Inv groupId origin maxReconnectAttempts state)
    (message : Relayer.Message) : Inv groupId origin maxReconnectAttempts
      (step groupId bufferSize maxReconnectAttempts state (.store message)) := by
  have ordered := inv.wellOrdered.createMessage message
  rcases store_cases inv.wellOrdered groupId message with
    ⟨reason, next, failed, same⟩ | ⟨created, next, stored, isRows⟩
  · simp only [step, failed]
    rw [failed] at ordered
    refine ⟨ordered, inv.client, ?_, ?_, inv.apart, inv.lastOrder, inv.afterOrder, ?_⟩
    · exact same ▸ inv.handlers
    · exact same ▸ inv.isPrefix
    · exact same ▸ inv.link
  simp only [step, stored]
  rw [stored] at ordered
  have increasing := rowOrders_increasing ordered groupId
  by_cases isGroup : created.groupId = groupId
  · rw [if_pos isGroup] at isRows ⊢
    rw [isRows] at increasing
    have handlersNext : (state.handlers ++ [created]).map orderKey =
        state.handlers.map orderKey ++ [orderKey created] := List.map_append
    refine ⟨ordered, inv.client, ?_, ?_, ?_, inv.lastOrder, inv.afterOrder, ?_⟩
    · rw [handlersNext, isRows]
      exact inv.handlers.append_right _
    · rw [isRows, above_append]
      exact inv.isPrefix.trans (List.prefix_append _ _)
    · intro order isReceived
      rw [handlersNext, List.mem_append, List.mem_singleton]
      rintro (isHandler | rfl)
      · exact inv.apart order isReceived isHandler
      have isRow := (mem_above.mp (inv.isPrefix.subset isReceived)).1
      have below := (List.pairwise_append.mp increasing).2.2 _ isRow _
        (List.mem_singleton.mpr rfl)
      exact absurd below (lt_irrefl _)
    intro connection isConnection
    have link := inv.link connection isConnection
    unfold Link at link ⊢
    rw [handlersNext, isRows]
    split at link
    · exact link
    · exact link.store _
  rw [if_neg isGroup, List.append_nil] at isRows
  rw [if_neg isGroup]
  refine ⟨ordered, inv.client, ?_, ?_, inv.apart, inv.lastOrder, inv.afterOrder, ?_⟩
  · exact isRows ▸ inv.handlers
  · exact isRows ▸ inv.isPrefix
  · exact isRows ▸ inv.link

theorem mem_publishEvent {event : RealtimeEvent} {connection : Connection}
    (isConnection : connection ∈ (state.publishEvent event).connection) :
    ∃ before ∈ state.connection,
      connection = { before with socket := before.socket.map (·.publishEvent event) } := by
  simp only [State.publishEvent, Option.mem_def, Option.map_eq_some_iff] at isConnection
  obtain ⟨before, isBefore, isNext⟩ := isConnection
  exact ⟨before, isBefore, isNext.symm⟩

section

variable (inv : Inv groupId origin maxReconnectAttempts state)
include inv

theorem inv_publish (place : Nat) (clean : Clean groupId bufferSize origin state (.publish place)) :
    Inv groupId origin maxReconnectAttempts
      (step groupId bufferSize maxReconnectAttempts state (.publish place)) := by
  cases found : state.handlers[place]? with
  | none =>
    simp only [step, found]
    exact inv
  | some created =>
    simp only [step, found]
    obtain ⟨inside, isCreated⟩ := List.getElem?_eq_some_iff.mp found
    have split : state.handlers =
        state.handlers.take place ++ created :: state.handlers.drop (place + 1) := by
      conv_lhs => rw [← List.take_append_drop place state.handlers]
      rw [List.drop_eq_getElem_cons inside, isCreated]
    have sublist : (state.handlers.eraseIdx place).Sublist state.handlers :=
      List.eraseIdx_sublist ..
    refine ⟨inv.wellOrdered, inv.client, (sublist.map orderKey).trans inv.handlers,
      inv.isPrefix, ?_, inv.lastOrder, inv.afterOrder, ?_⟩
    · intro order isReceived isHandler
      exact inv.apart order isReceived ((sublist.map orderKey).subset isHandler)
    intro connection isConnection
    obtain ⟨before, isBefore, rfl⟩ := mem_publishEvent isConnection
    have link := inv.link before isBefore
    unfold Link at link ⊢
    cases isSocket : before.socket with
    | none =>
      simp only [isSocket] at link
      exact ⟨link.empty, link.afterOrder⟩
    | some =>
      simp only [isSocket] at link
      have first := clean before isBefore (by rw [isSocket]; rfl)
      rw [split, List.map_append, List.map_cons] at link
      have below : ∀ order ∈ (state.handlers.take place).map orderKey, order ≤ origin := by
        intro order isIn
        obtain ⟨earlier, isEarlier, rfl⟩ := List.mem_map.mp isIn
        exact first earlier isEarlier
      have next := link.publish below
      rw [← List.map_append, ← List.eraseIdx_eq_take_drop_succ] at next
      exact next

theorem inv_publishEvent {event : RealtimeEvent} (noRow : event.created = none)
    (wired : Wired event) :
    Inv groupId origin maxReconnectAttempts (state.publishEvent event) := by
  refine ⟨inv.wellOrdered, inv.client, inv.handlers, inv.isPrefix, inv.apart, inv.lastOrder,
    inv.afterOrder, ?_⟩
  intro connection isConnection
  obtain ⟨before, isBefore, rfl⟩ := mem_publishEvent isConnection
  have link := inv.link before isBefore
  unfold Link at link ⊢
  cases isSocket : before.socket with
  | none =>
    simp only [isSocket] at link
    exact ⟨link.empty, link.afterOrder⟩
  | some =>
    simp only [isSocket] at link
    exact link.broadcast noRow wired

theorem inv_broadcast (event : RealtimeEvent) : Inv groupId origin maxReconnectAttempts
      (step groupId bufferSize maxReconnectAttempts state (.broadcast event)) := by
  cases event with
  | messageCreated => exact inv
  | _ => exact inv_publishEvent inv rfl trivial

theorem inv_upgrade (clean : Clean groupId bufferSize origin state .upgrade) :
    Inv groupId origin maxReconnectAttempts
      (step groupId bufferSize maxReconnectAttempts state .upgrade) := by
  simp only [step]
  split
  · rename_i afterOrder flight isConnection
    have link : Opening origin (orders state.client.received) ⟨afterOrder, none, flight⟩ :=
      inv.link _ isConnection
    have isEmpty : flight = [] := link.empty
    refine ⟨inv.wellOrdered, inv.client, inv.handlers, inv.isPrefix, inv.apart, inv.lastOrder,
      inv.afterOrder, ?_⟩
    rintro connection isNext
    cases isNext
    show Live _ _ _ _ flight _
    rw [isEmpty]
    refine .subscribe inv.increasing inv.isPrefix inv.handlers inv.apart link.afterOrder ?_
    intro order isRow isAfter
    obtain ⟨row, isIn, rfl⟩ := List.mem_map.mp isRow
    exact clean _ isConnection rfl row isIn isAfter
  · exact inv

theorem inv_serve (clean : Clean groupId bufferSize origin state .serve) :
    Inv groupId origin maxReconnectAttempts
      (step groupId bufferSize maxReconnectAttempts state .serve) := by
  simp only [step]
  split
  · rename_i afterOrder socket flight isConnection
    have live : Live origin (rowOrders groupId state.storage) (orders state.client.received)
        (state.handlers.map orderKey) flight socket := inv.link _ isConnection
    refine ⟨inv.wellOrdered, inv.client, inv.handlers, inv.isPrefix, inv.apart, inv.lastOrder,
      inv.afterOrder, ?_⟩
    rintro connection isNext
    cases isNext
    exact live.serve inv.increasing (clean _ isConnection socket rfl)
  · exact inv

/-- A frame that arrives brings the next row of the stream, if it brings one. -/
theorem inv_arrive :
    Inv groupId origin maxReconnectAttempts
      (step groupId bufferSize maxReconnectAttempts state .arrive) := by
  simp only [step]
  split
  · rename_i connectedAfter socket frame flight isConnection
    by_cases isOpen : state.client.isOpen = true
    · rw [if_pos isOpen]
      have link := inv.link _ isConnection
      cases socket with
      | none => exact absurd link.empty nofun
      | some socket =>
        have live : Live origin (rowOrders groupId state.storage)
            (orders state.client.received) (state.handlers.map orderKey) (frame :: flight)
            socket := link
        have changes := WsTransport.step_frame groupFeed state.client frame
        obtain ⟨received, lastOrder, afterOrder⟩ := changes maxReconnectAttempts
        rw [if_pos isOpen] at received
        have isNew : ∀ order ∈ frameCreated frame, ∀ last ∈ state.client.afterOrder,
            last < order := by
          intro order isOrder last isLast
          have isEarly := inv.afterOrder
          rw [isLast, Option.getD_some] at isEarly
          have inFlight : order ∈ flightOrders (frame :: flight) :=
            List.mem_filterMap.mpr ⟨frame, List.mem_cons_self, isOrder⟩
          have split := live.split
          simp only [List.append_assoc] at split
          exact lt_of_split inv.increasing split isEarly (List.mem_append_left _ inFlight)
        have ordersNext : orders (WsTransport.step groupFeed maxReconnectAttempts state.client
            (.frame frame)).received =
            orders state.client.received ++ (frameCreated frame).toList := by
          have isWired := live.flightWired frame List.mem_cons_self
          rw [received, orders, List.filterMap_append]
          exact congrArg (orders state.client.received ++ ·) (orders_parseGroupFrame isWired isNew)
        have next := live.arrive
        rw [← ordersNext] at next
        have grows : ∀ order, order ∈ origin :: orders state.client.received →
            order ∈ origin :: orders (WsTransport.step groupFeed maxReconnectAttempts
              state.client (.frame frame)).received := by
          intro order isIn
          rw [ordersNext, ← List.cons_append]
          exact List.mem_append_left _ isIn
        refine ⟨inv.wellOrdered, WsTransport.inv_step groupFeed _ _ inv.client, inv.handlers,
          next.isPrefix, next.apart inv.increasing, ?_, ?_, ?_⟩
        · exact grows _ (lastOrder ▸ inv.lastOrder)
        · exact grows _ (afterOrder ▸ inv.afterOrder)
        · rintro connection isNext
          cases isNext
          exact next
    · rw [if_neg isOpen]
      exact inv
  · exact inv

/-- The client goes on; a new connection starts from what it received. -/
theorem inv_clientStep {input : WsTransport.Input GroupFrame}
    (noFrame : ∀ data, input ≠ .frame data) :
    Inv groupId origin maxReconnectAttempts (state.clientStep maxReconnectAttempts input) := by
  have received : (WsTransport.step groupFeed maxReconnectAttempts state.client input).received =
      state.client.received := WsTransport.received_step groupFeed state.client noFrame
  have client := WsTransport.inv_step groupFeed state.client input inv.client
  have lastOrder : (WsTransport.step groupFeed maxReconnectAttempts state.client
      input).lastOrder.getD 0 ∈ origin :: orders state.client.received := by
    rcases WsTransport.lastOrder_step groupFeed input inv.client with
      same | ⟨event, isYielded, order, isCreated, isLast⟩
    · rw [same]
      exact inv.lastOrder
    · rw [isLast, Option.getD_some]
      have isReceived := inv.client.ordered.subset isYielded
      exact List.mem_cons_of_mem _ (List.mem_filterMap.mpr ⟨event, isReceived, isCreated⟩)
  have afterOrder : (WsTransport.step groupFeed maxReconnectAttempts state.client
      input).afterOrder.getD 0 ∈ origin :: orders state.client.received := by
    have moves := WsTransport.afterOrder_step groupFeed state.client input
    rcases moves maxReconnectAttempts with same | isLast
    · rw [same]
      exact inv.afterOrder
    · rw [isLast]
      exact inv.lastOrder
  have connects : Opening origin (orders state.client.received)
      { afterOrder := (WsTransport.step groupFeed maxReconnectAttempts state.client
          input).afterOrder.getD 0
        socket := none
        flight := [] } := ⟨rfl, afterOrder⟩
  unfold State.clientStep
  rw [← received] at lastOrder afterOrder connects
  simp only
  split
  · refine ⟨inv.wellOrdered, client, inv.handlers, ?_, ?_, lastOrder, afterOrder, ?_⟩
    · exact received.symm ▸ inv.isPrefix
    · exact received.symm ▸ inv.apart
    · rintro connection isNext
      cases isNext
      exact connects
  refine ⟨inv.wellOrdered, client, inv.handlers, ?_, ?_, lastOrder, afterOrder, ?_⟩
  · exact received.symm ▸ inv.isPrefix
  · exact received.symm ▸ inv.apart
  · exact received.symm ▸ inv.link

end

theorem inv_step (state : State) (input : Input)
    (inv : Inv groupId origin maxReconnectAttempts state)
    (clean : Clean groupId bufferSize origin state input) :
    Inv groupId origin maxReconnectAttempts
      (step groupId bufferSize maxReconnectAttempts state input) := by
  cases input with
  | store message => exact inv_store inv message
  | publish place => exact inv_publish inv place clean
  | broadcast event => exact inv_broadcast inv event
  | upgrade => exact inv_upgrade inv clean
  | serve => exact inv_serve inv clean
  | arrive => exact inv_arrive inv
  | client input =>
    cases input with
    | frame => exact inv
    | _ =>
      refine inv_clientStep inv ?_
      intro data isFrame
      cases isFrame

theorem Inv.noHoles (inv : Inv groupId origin maxReconnectAttempts state) :
    NoHoles groupId origin state := by
  intro given order later isYielded row isRow isAbove isBelow
  have isPrefix : orders state.client.yielded <+: above origin (rowOrders groupId state.storage) :=
    (inv.client.ordered.filterMap _).trans inv.isPrefix
  obtain ⟨rest, split⟩ := isPrefix
  rw [isYielded, List.append_assoc] at split
  have isIn : orderKey row ∈ given ++ (order :: later ++ rest) :=
    split ▸ mem_above.mpr ⟨List.mem_map.mpr ⟨row, isRow, rfl⟩, isAbove⟩
  rcases List.mem_append.mp isIn with isGiven | isLater
  · exact isGiven
  have increasing : (given ++ (order :: later ++ rest)).Pairwise (· < ·) :=
    split ▸ inv.increasing.filter _
  have tail := (List.pairwise_append.mp increasing).2.1
  rcases List.mem_cons.mp isLater with same | isLater
  · exact absurd isBelow (same ▸ lt_irrefl _)
  · have isAfter := (List.pairwise_cons.mp tail).1 _ isLater
    exact absurd isBelow isAfter.not_gt

end Step

instance (groupId : String) (bufferSize : Nat) (origin : Int) :
    ∀ state input, Decidable (Clean groupId bufferSize origin state input)
  | state, .publish place =>
    inferInstanceAs (Decidable (∀ connection ∈ state.connection,
      connection.socket.isSome = true →
        ∀ earlier ∈ state.handlers.take place, orderKey earlier ≤ origin))
  | state, .upgrade =>
    inferInstanceAs (Decidable (∀ connection ∈ state.connection, connection.socket = none →
      ∀ row ∈ state.storage.log groupId, connection.afterOrder < orderKey row →
        orderKey row ∈ state.handlers.map orderKey))
  | state, .serve =>
    inferInstanceAs (Decidable (∀ connection ∈ state.connection,
      ∀ socket ∈ connection.socket, socket.hubRx.pending.length ≤ bufferSize))
  | _, .store _ | _, .broadcast _ | _, .arrive | _, .client _ => .isTrue trivial

/-- **When a resumed stream has no holes.**  Over every log of the group, every interleaving of
the handlers and of the steps of the socket, and any number of reconnects: if rows are published
to a live socket in the order in which they were stored, no row above the watermark is published
before a socket subscribes, and no socket lags, then at every moment, before a message, the
consumer has been given every row from the start of the stream up to that message. -/
theorem resumed_stream_has_no_holes (groupId : String) (bufferSize maxReconnectAttempts : Nat)
    (afterOrder : Option Int) (inputs : List Input)
    (clean : Along (step groupId bufferSize maxReconnectAttempts)
      (Clean groupId bufferSize (afterOrder.getD 0)) (start afterOrder) inputs) :
    ∀ before, before <+: inputs →
      NoHoles groupId (afterOrder.getD 0)
        (reached groupId bufferSize maxReconnectAttempts afterOrder before) := by
  rintro before ⟨after, rfl⟩
  obtain ⟨cleanBefore, -⟩ := (Along.append _ before after).mp clean
  have inv : Inv groupId (afterOrder.getD 0) maxReconnectAttempts
      (reached groupId bufferSize maxReconnectAttempts afterOrder before) :=
    Along.invariant inv_step cleanBefore (inv_start groupId afterOrder)
  exact inv.noHoles

/-- A message of the group `"0xg"`. -/
def sampleRow (place : Nat) : Relayer.Message :=
  .withAttribution place 0 "0xg" "0xa" [1] (List.replicate 12 place.toUInt8) 0 [] [] []
    .humanMessage .message none

/-- The client opens its socket and waits. -/
def opens : List Input :=
  [.client .pull, .client (.authSettles none), .upgrade, .client .socketOpens, .client .resume]

/-- A row is delivered, the socket closes, and the next row is stored before the client is back
and published after it: the client gets both. -/
theorem reconnect_has_no_holes :
    let inputs := opens ++ [.store (sampleRow 1), .publish 0, .serve, .arrive, .client .resume,
      .client .pull, .client .socketCloses, .client .resume, .client .resume,
      .client (.authSettles none), .store (sampleRow 2), .upgrade, .client .socketOpens,
      .client .resume, .publish 0, .serve, .arrive, .client .resume]
    orders (reached "0xg" 256 5 none inputs).client.yielded = [1, 2] ∧
    ∀ before, before <+: inputs → NoHoles "0xg" 0 (reached "0xg" 256 5 none before) :=
  ⟨by decide +kernel, resumed_stream_has_no_holes "0xg" 256 5 none _ (by decide +kernel)⟩

/-- Two handlers store their rows, and the later one publishes first: the consumer is given the
message of order 2, and has not been given the one of order 1. -/
theorem reordered_publish_leaves_hole :
    ¬NoHoles "0xg" 0 (reached "0xg" 256 5 none
      (opens ++ [.store (sampleRow 1), .store (sampleRow 2), .publish 1, .serve, .arrive,
        .client .resume, .publish 0, .serve])) := by
  intro noHoles
  have isYielded : orders (reached "0xg" 256 5 none
      (opens ++ [.store (sampleRow 1), .store (sampleRow 2), .publish 1, .serve, .arrive,
        .client .resume, .publish 0, .serve])).client.yielded = [] ++ 2 :: [] := by
    decide +kernel
  have isFirst : ∃ row ∈ (reached "0xg" 256 5 none
      (opens ++ [.store (sampleRow 1), .store (sampleRow 2), .publish 1, .serve, .arrive,
        .client .resume, .publish 0, .serve])).storage.log "0xg", orderKey row = 1 := by
    decide +kernel
  obtain ⟨row, isRow, isOrder⟩ := isFirst
  have isGiven := noHoles [] 2 [] isYielded row isRow (by omega) (by omega)
  exact absurd isGiven List.not_mem_nil

end MessagingStack.Sdk.GroupStream

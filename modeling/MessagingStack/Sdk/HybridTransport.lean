import MessagingStack.Sdk.HttpTransport

/-!
# The group stream that falls back to polling

`subscribe` of `relayer/hybrid-transport.ts` hands on the stream of the WebSocket, and polls when
that one throws for good, from the `afterOrder` of the caller.  Under `Clean`, a condition on the
polls, the messages rise, none is passed over, and each stored after the first poll is handed out
(`falls_back_rightly`).  The stream of the WebSocket rises in every run (`rises_reached`).
-/

namespace MessagingStack.Sdk.HybridTransport

open Relayer InMemoryStorage

open WsTransport (SubscriptionEvent groupFeed)

open GroupStream (above orders rowOrders flightOrders pendingOrders frameCreated Connection)

open HttpTransport (Passed offered)

/-! ## The machine -/

/-- The configuration of the transport, and the parameters of `subscribe`. -/
structure Config where
  bufferSize : Nat
  maxReconnectAttempts : Nat
  preferWebSocket : Bool
  fallbackToHttp : Bool
  groupId : String
  afterOrder : Option Int
  limit : Option Int

structure State where
  /-- The relayer and the stream of the WebSocket. -/
  stream : GroupStream.State
  /-- The stream by polling, once it has begun. -/
  http : Option HttpTransport.State
  /-- How many fetches have succeeded, and how many rows the group had at the first. -/
  polls : Nat
  firstPoll : Option Nat

inductive Input where
  | pull
  | abort
  | disconnect
  /-- What happens at the relayer and on the WebSocket. -/
  | stream (input : GroupStream.Input)
  /-- A fetch fails, or is answered from the log. -/
  | poll (failure : Option HttpTransport.Failure)
  /-- Anything else that happens to the stream by polling. -/
  | http (input : HttpTransport.Input)

namespace State

/-- `#shouldEndStream`, when the stream of the WebSocket has thrown, and the stream by polling up
to its first request. -/
def fallBack (config : Config) (state : State) : State :=
  match state.stream.client.position with
  | .failed .retryable =>
    if config.fallbackToHttp then
      { state with http := some (HttpTransport.start config.afterOrder).poll }
    else state
  | _ => state

def streamStep (config : Config) (state : State) (input : GroupStream.Input) : State :=
  { state with
    stream := GroupStream.step config.groupId config.bufferSize config.maxReconnectAttempts
      state.stream input }

def httpStep (config : Config) (state : State) (http : HttpTransport.State)
    (input : HttpTransport.Input) : State :=
  { state with http := some (HttpTransport.step config.groupId http input) }

/-- The orders of the rows of the group. -/
def rows (config : Config) (state : State) : List Int :=
  rowOrders config.groupId state.stream.storage

/-- A fetch settles. -/
def settle (config : Config) (state : State) (http : HttpTransport.State)
    (failure : Option HttpTransport.Failure) : State :=
  let result :=
    match failure with
    | some failure => .error failure
    | none =>
      HttpTransport.fetchMessages state.stream.storage config.groupId http.lastOrder config.limit
  let next := state.httpStep config http (.messages result)
  match result with
  | .error _ => next
  | .ok _ =>
    { next with
      polls := state.polls + 1
      firstPoll := state.firstPoll.or (some (state.rows config).length) }

end State

/-- A step.  Without `preferWebSocket` the first pull begins the stream by polling; and once that
one has begun, nothing reaches the WebSocket. -/
def step (config : Config) (state : State) : Input → State
  | .pull =>
    match state.http with
    | some http => state.httpStep config http .pull
    | none =>
      if config.preferWebSocket then (state.streamStep config (.client .pull)).fallBack config
      else
        state.httpStep config
          { HttpTransport.start config.afterOrder with
            disconnected := state.stream.client.disconnected
            aborted := state.stream.client.aborted } .pull
  | .abort =>
    match state.http with
    | some http => state.httpStep config http .abort
    | none => (state.streamStep config (.client .abort)).fallBack config
  | .disconnect =>
    match state.http with
    | some http => state.httpStep config http .disconnect
    | none => (state.streamStep config (.client .disconnect)).fallBack config
  | .stream (.client input) =>
    match state.http with
    | some _ => state
    | none =>
      if config.preferWebSocket then (state.streamStep config (.client input)).fallBack config
      else state
  | .stream .arrive =>
    match state.http with
    | some _ => state
    | none => (state.streamStep config .arrive).fallBack config
  | .stream input => state.streamStep config input
  | .poll failure =>
    match state.http with
    | none => state
    | some http =>
      match http.position with
      | .requested .messages => state.settle config http failure
      | _ => state
  | .http (.messages _) => state
  | .http input =>
    match state.http with
    | none => state
    | some http => state.httpStep config http input

/-- An empty relayer, and a stream that has not begun. -/
def start (config : Config) : State where
  stream := GroupStream.start config.afterOrder
  http := none
  polls := 0
  firstPoll := none

def reached (config : Config) (inputs : List Input) : State :=
  inputs.foldl (step config) (start config)

/-! ## What the stream promises -/

/-- The messages that the consumer has been given, by their orders. -/
def given (state : State) : List Int :=
  orders state.stream.client.yielded ++ (state.http.map (orders ·.yielded)).getD []

/-- The rows that were stored after the first poll. -/
def stored (config : Config) (state : State) : List Int :=
  match state.firstPoll with
  | none => []
  | some count => (state.rows config).drop count

/-- **No repetition and no gap.**  The messages rise; and a row that was stored after the first
poll has been handed out, or all that was handed out is below it. -/
structure Steady (config : Config) (state : State) : Prop where
  rises : (given state).Pairwise (· < ·)
  complete : ∀ order ∈ stored config state,
    order ∈ given state ∨ ∀ earlier ∈ given state, earlier < order

/-- **Delivery.**  A row stored after the first poll is handed out before there are more further
polls than rows up to it. -/
def Delivers (config : Config) (before after : State) : Prop :=
  ∀ order ∈ stored config before,
    before.polls + ((before.rows config).filter (· ≤ order)).length < after.polls →
      order ∈ given after

/-- **The promise of a run**: it is steady at every moment, and what is stored at one moment is
delivered at each later one. -/
def Promise (config : Config) (inputs : List Input) : Prop :=
  (∀ before, before <+: inputs → Steady config (reached config before)) ∧
  ∀ first second, first ++ second <+: inputs →
    Delivers config (reached config first) (reached config (first ++ second))

/-- **A poll that repeats nothing and leaves no gap.**  With an order to go on from, the WebSocket
has handed out nothing above it; without one, the newest page is above all that the WebSocket has
handed out, and holds every row stored since the first poll.  And the caller's order at the first
poll is one that the group has reached. -/
def CleanPoll (config : Config) (state : State) : Option Int → Prop
  | some after =>
    (∀ order ∈ orders state.stream.client.yielded, order ≤ after) ∧
      (state.firstPoll = none → after < state.stream.storage.next config.groupId)
  | none =>
    ∀ size ∈ HttpTransport.pageLimit config.limit,
      let page := HttpTransport.newest size (state.stream.storage.log config.groupId)
      (∀ order ∈ orders state.stream.client.yielded, ∀ row ∈ page, order < orderKey row) ∧
        ∀ order ∈ stored config state, order ∈ page.map orderKey

/-- Every poll that the relayer answers is clean. -/
def Clean (config : Config) (state : State) : Input → Prop
  | .poll none =>
    ∀ http ∈ state.http, (http.position matches .requested .messages) = true →
      CleanPoll config state http.lastOrder
  | _ => True

instance (config : Config) (state : State) : ∀ lastOrder,
    Decidable (CleanPoll config state lastOrder)
  | some after =>
    inferInstanceAs (Decidable ((∀ order ∈ orders state.stream.client.yielded, order ≤ after) ∧
      (state.firstPoll = none → after < state.stream.storage.next config.groupId)))
  | none =>
    inferInstanceAs (Decidable (∀ size ∈ HttpTransport.pageLimit config.limit,
      let page := HttpTransport.newest size (state.stream.storage.log config.groupId)
      (∀ order ∈ orders state.stream.client.yielded, ∀ row ∈ page, order < orderKey row) ∧
        ∀ order ∈ stored config state, order ∈ page.map orderKey))

instance (config : Config) : ∀ state input, Decidable (Clean config state input)
  | state, .poll none =>
    inferInstanceAs (Decidable (∀ http ∈ state.http,
      (http.position matches .requested .messages) = true → CleanPoll config state http.lastOrder))
  | _, .poll (some _) | _, .pull | _, .abort | _, .disconnect | _, .stream _ | _, .http _ =>
    .isTrue trivial

/-! ## The stream of the WebSocket rises -/

/-- The order from which the next connection is made covers what the consumer was given; while the
consumer has an event, what it was given before that event. -/
def Marked (client : WsTransport.State SubscriptionEvent) : Prop :=
  match client.position with
  | .busy event => ∃ before, client.yielded = before ++ [event] ∧ Passed client.lastOrder before
  | .auth => Passed client.lastOrder client.yielded ∧ client.afterOrder = client.lastOrder
  | _ => Passed client.lastOrder client.yielded

/-- The consumer has no event, and no connection is being made. -/
def Idle : WsTransport.Position SubscriptionEvent → Prop
  | .busy _ | .auth => False
  | _ => True

section Marks

variable {maxReconnectAttempts : Nat} {client next : WsTransport.State SubscriptionEvent}

theorem Marked.covers (marked : Marked client) (notBusy : ∀ event, client.position ≠ .busy event) :
    Passed client.lastOrder client.yielded := by
  unfold Marked at marked
  split at marked
  · rename_i event place
    exact absurd place (notBusy event)
  · exact marked.1
  · exact marked

theorem Marked.idle (covers : Passed client.lastOrder client.yielded)
    (sameOrder : next.lastOrder = client.lastOrder) (sameYielded : next.yielded = client.yielded)
    (idle : Idle next.position) : Marked next := by
  rw [← sameOrder, ← sameYielded] at covers
  unfold Marked
  split
  · rename_i event place
    rw [place] at idle
    exact idle.elim
  · rename_i place
    rw [place] at idle
    exact idle.elim
  · exact covers

theorem Marked.same (marked : Marked client) (samePosition : next.position = client.position)
    (sameLast : next.lastOrder = client.lastOrder) (sameAfter : next.afterOrder = client.afterOrder)
    (sameYielded : next.yielded = client.yielded) : Marked next := by
  unfold Marked at marked ⊢
  rwa [samePosition, sameLast, sameAfter, sameYielded]

section

variable (covers : Passed client.lastOrder client.yielded)
include covers

theorem marked_connect :
    Marked client.connect := by
  unfold WsTransport.State.connect
  split
  · exact .idle covers rfl rfl trivial
  · exact ⟨covers, rfl⟩

theorem marked_handleStreamError (failure : WsTransport.Failure) :
    Marked (client.handleStreamError maxReconnectAttempts failure) := by
  unfold WsTransport.State.handleStreamError
  cases failure <;> dsimp only <;> split <;> (try split) <;> exact .idle covers rfl rfl trivial

theorem marked_runLoop :
    Marked client.runLoop := by
  unfold WsTransport.State.runLoop
  split
  · exact .idle covers rfl rfl trivial
  · split <;> exact .idle covers rfl rfl trivial

end

theorem marked_endStream (marked : Marked client) : Marked client.endStream := by
  unfold WsTransport.State.endStream
  cases place : client.position with
  | waiting => exact .idle (marked.covers (by simp [place])) rfl rfl trivial
  | _ => exact marked.same (by simp [place]) rfl rfl rfl

/-- What a message that the consumer has done with covers. -/
theorem Marked.pull {event : SubscriptionEvent} (place : client.position = .busy event)
    (marked : Marked client) (increasing : (orders client.yielded).Pairwise (· < ·))
    {lastOrder : Option Int}
    (isLast : lastOrder = match event.created with
      | some order => some order
      | none => client.lastOrder) : Passed lastOrder client.yielded := by
  simp only [Marked, place] at marked
  obtain ⟨before, isYielded, covers⟩ := marked
  exact isYielded ▸ HttpTransport.covers_of_last covers (isYielded ▸ increasing) isLast

theorem marked_step (marked : Marked client)
    (increasing : (orders client.yielded).Pairwise (· < ·))
    (input : WsTransport.Input WsTransport.GroupFrame) :
    Marked (WsTransport.step groupFeed maxReconnectAttempts client input) := by
  cases input with
  | pull =>
    cases place : client.position with
    | start =>
      simp only [WsTransport.step, place]
      exact marked_connect (marked.covers (by simp [place]))
    | busy =>
      simp only [WsTransport.step, place]
      exact marked_runLoop (marked.pull place increasing rfl)
    | _ =>
      simp only [WsTransport.step, place]
      exact marked
  | resume =>
    cases place : client.position with
    | opening settled =>
      have covers := marked.covers (by simp [place])
      rcases settled with - | (- | failure)
      · simp only [WsTransport.step, place]
        exact marked
      · simp only [WsTransport.step, place]
        exact marked_runLoop covers
      · simp only [WsTransport.step, place]
        exact marked_handleStreamError covers failure
    | handed next =>
      have covers := marked.covers (by simp [place])
      cases next with
      | none =>
        simp only [WsTransport.step, place]
        exact marked_handleStreamError covers .retryable
      | some =>
        simp only [WsTransport.step, place]
        split
        · exact .idle covers rfl rfl trivial
        · exact ⟨client.yielded, rfl, covers⟩
    | backoff =>
      simp only [WsTransport.step, place]
      exact marked_connect (marked.covers (by simp [place]))
    | _ =>
      simp only [WsTransport.step, place]
      exact marked
  | authSettles failure =>
    cases place : client.position with
    | auth =>
      have covers := marked.covers (by simp [place])
      cases failure with
      | some failure =>
        simp only [WsTransport.step, place]
        exact marked_handleStreamError covers failure
      | none =>
        simp only [WsTransport.step, place]
        split <;> exact .idle covers rfl rfl trivial
    | _ =>
      simp only [WsTransport.step, place]
      exact marked
  | socketOpens =>
    simp only [WsTransport.step]
    split
    · rename_i place
      split
      · exact marked
      · exact .idle (marked.covers (by simp [place])) rfl rfl trivial
    · exact marked
  | frame =>
    simp only [WsTransport.step]
    split
    · exact marked
    split
    · exact marked
    split
    · rename_i place
      exact .idle (marked.covers (by simp [place])) rfl rfl trivial
    · exact marked.same rfl rfl rfl rfl
  | socketFails =>
    simp only [WsTransport.step]
    split
    · rename_i place
      exact .idle (marked.covers (by simp [place])) rfl rfl trivial
    · exact marked
  | socketCloses =>
    simp only [WsTransport.step]
    split
    · exact marked
    · split
      · exact marked.same rfl rfl rfl rfl
      · exact marked_endStream (marked.same rfl rfl rfl rfl)
  | abort =>
    simp only [WsTransport.step]
    split
    · exact marked
    split
    · exact marked.same rfl rfl rfl rfl
    have ended : Marked (WsTransport.State.endStream
        { client with aborted := true, isOpen := false }) :=
      marked_endStream (marked.same rfl rfl rfl rfl)
    split
    · rename_i place
      exact .idle (ended.covers (by simp [place])) rfl rfl trivial
    · exact ended
  | disconnect => exact marked.same rfl rfl rfl rfl

end Marks

/-- The messages that arrive on a connection, and those that are under way on it, rise. -/
def Rises (rows received : List Int) (connection : Connection) : Prop :=
  match connection.socket with
  | none => connection.flight = [] ∧ ∀ order ∈ received, order ≤ connection.afterOrder
  | some socket =>
    (received ++ flightOrders connection.flight).Pairwise (· < ·) ∧
      (∀ order ∈ received ++ flightOrders connection.flight, order ≤ socket.afterOrder) ∧
      ∀ order ∈ flightOrders connection.flight ++ pendingOrders socket, order ∈ rows

/-- **What every run of the relayer and of the WebSocket keeps**: what the client receives rises,
and is stored. -/
structure Rising (config : Config) (stream : GroupStream.State) : Prop where
  wellOrdered : WellOrdered stream.storage
  intact : stream.storage.poisoned .messages = false
  client : WsTransport.Inv config.maxReconnectAttempts stream.client
  marked : Marked stream.client
  handlers : ∀ order ∈ stream.handlers.map orderKey, order ∈ rowOrders config.groupId stream.storage
  known : ∀ order ∈ orders stream.client.received, order ∈ rowOrders config.groupId stream.storage
  rises : (orders stream.client.received).Pairwise (· < ·)
  link : ∀ connection ∈ stream.connection,
    Rises (rowOrders config.groupId stream.storage) (orders stream.client.received) connection

section Rising

variable {config : Config} {stream : GroupStream.State}

theorem Rising.yielded (rising : Rising config stream) :
    orders stream.client.yielded <+: orders stream.client.received :=
  rising.client.ordered.filterMap _

theorem rising_start (config : Config) : Rising config (GroupStream.start config.afterOrder) where
  wellOrdered := wellOrdered_new
  intact := rfl
  client := WsTransport.inv_start config.afterOrder
  marked := nofun
  handlers := nofun
  known := nofun
  rises := .nil
  link := nofun

variable {storage : InMemoryStorage}

theorem createMessage_intact (intact : storage.poisoned .messages = false)
    (message : Relayer.Message) :
    (storage.createMessage message).2.poisoned .messages = false := by
  rcases storage.createMessage_cases message with ⟨reason, same | consumed⟩ | ⟨-, -, stored⟩
  · rwa [same]
  · rwa [consumed]
  · rwa [stored]

theorem Rises.store {rows more received : List Int} {connection : Connection}
    (rises : Rises rows received connection) : Rises (rows ++ more) received connection := by
  unfold Rises at rises ⊢
  split at rises
  · exact rises
  · exact ⟨rises.1, rises.2.1, fun order isIn => List.mem_append_left _ (rises.2.2 order isIn)⟩

theorem rising_store (rising : Rising config stream) (message : Relayer.Message) :
    Rising config (GroupStream.step config.groupId config.bufferSize config.maxReconnectAttempts
      stream (.store message)) := by
  have ordered := rising.wellOrdered.createMessage message
  have intact := createMessage_intact rising.intact message
  rcases GroupStream.store_cases rising.wellOrdered config.groupId message with
    ⟨reason, next, failed, same⟩ | ⟨created, next, stored, isRows⟩
  · simp only [GroupStream.step, failed]
    rw [failed] at ordered intact
    exact ⟨ordered, intact, rising.client, rising.marked, same ▸ rising.handlers,
      same ▸ rising.known, rising.rises, same ▸ rising.link⟩
  simp only [GroupStream.step, stored]
  rw [stored] at ordered intact
  have known : ∀ order ∈ orders stream.client.received,
      order ∈ rowOrders config.groupId next := by
    intro order isIn
    rw [isRows]
    exact List.mem_append_left _ (rising.known order isIn)
  have handlers : ∀ order ∈ stream.handlers.map orderKey,
      order ∈ rowOrders config.groupId next := by
    intro order isIn
    rw [isRows]
    exact List.mem_append_left _ (rising.handlers order isIn)
  have link : ∀ connection ∈ stream.connection,
      Rises (rowOrders config.groupId next) (orders stream.client.received) connection := by
    intro connection isConnection
    rw [isRows]
    exact (rising.link connection isConnection).store
  split
  · rename_i isGroup
    rw [if_pos isGroup] at isRows
    refine ⟨ordered, intact, rising.client, rising.marked, ?_, known, rising.rises, link⟩
    intro order isIn
    rw [List.map_append, List.mem_append] at isIn
    rcases isIn with isIn | isIn
    · exact handlers order isIn
    · rw [List.mem_singleton.mp isIn, isRows]
      exact List.mem_append_right _ (List.mem_singleton_self _)
  · exact ⟨ordered, intact, rising.client, rising.marked, handlers, known, rising.rises, link⟩

theorem rising_publishEvent (rising : Rising config stream) {event : RealtimeEvent}
    (isKnown : ∀ order ∈ event.created, order ∈ rowOrders config.groupId stream.storage) :
    Rising config (stream.publishEvent event) := by
  refine ⟨rising.wellOrdered, rising.intact, rising.client, rising.marked, rising.handlers,
    rising.known, rising.rises, fun connection isConnection => ?_⟩
  obtain ⟨before, isBefore, rfl⟩ := GroupStream.mem_publishEvent isConnection
  have rises := rising.link before isBefore
  unfold Rises at rises ⊢
  cases isSocket : before.socket with
  | none =>
    simp only [isSocket] at rises
    exact rises
  | some socket =>
    simp only [isSocket] at rises
    obtain ⟨increasing, below, known⟩ := rises
    refine ⟨increasing, below, fun order isIn => ?_⟩
    have isPending : pendingOrders (socket.publishEvent event) =
        pendingOrders socket ++ event.created.toList := by
      simp only [pendingOrders, Socket.publishEvent, List.filterMap_append]
      cases created : event.created <;> simp [created]
    rw [isPending, ← List.append_assoc, List.mem_append] at isIn
    rcases isIn with isIn | isIn
    · exact known order isIn
    · exact isKnown order (Option.mem_toList.mp isIn)

/-- A turn of `handle_socket`: it forwards nothing of the log, or one message above its watermark,
which becomes the watermark. -/
theorem serve_cases (bufferSize : Nat) (socket : Socket) :
    (∀ order ∈ pendingOrders (socket.serve bufferSize).1, order ∈ pendingOrders socket) ∧
    ((socket.serve bufferSize).1.afterOrder = socket.afterOrder ∧
      (socket.serve bufferSize).2.bind RealtimeEvent.created = none ∨
    ∃ order ∈ pendingOrders socket, socket.afterOrder < order ∧
      (socket.serve bufferSize).1.afterOrder = order ∧
      (socket.serve bufferSize).2.bind RealtimeEvent.created = some order) := by
  obtain ⟨⟨pending⟩, afterOrder⟩ := socket
  by_cases lags : pending.length > bufferSize
  · have skips : Socket.serve bufferSize ⟨⟨pending⟩, afterOrder⟩ =
        (⟨⟨pending.drop (pending.length - bufferSize)⟩, afterOrder⟩, none) := by
      simp only [Socket.serve, Receiver.recv, if_pos lags]
    rw [skips]
    refine ⟨fun order isIn => ?_, .inl ⟨rfl, rfl⟩⟩
    exact ((List.drop_sublist _ pending).filterMap RealtimeEvent.created).subset isIn
  cases pending with
  | nil =>
    have idle : Socket.serve bufferSize ⟨⟨[]⟩, afterOrder⟩ = (⟨⟨[]⟩, afterOrder⟩, none) := by
      simp [Socket.serve, Receiver.recv]
    rw [idle]
    exact ⟨fun _ isIn => isIn, .inl ⟨rfl, rfl⟩⟩
  | cons event rest =>
    have tail : ∀ order ∈ pendingOrders ⟨⟨rest⟩, afterOrder⟩,
        order ∈ pendingOrders ⟨⟨event :: rest⟩, afterOrder⟩ := fun order isIn =>
      ((List.sublist_cons_self event rest).filterMap RealtimeEvent.created).subset isIn
    cases event with
    | messageCreated wire =>
      by_cases isSeen : wire.order ≤ afterOrder
      · have drops : Socket.serve bufferSize ⟨⟨.messageCreated wire :: rest⟩, afterOrder⟩ =
            (⟨⟨rest⟩, afterOrder⟩, none) := by
          simp only [Socket.serve, Receiver.recv, if_neg lags, if_pos isSeen]
        rw [drops]
        exact ⟨tail, .inl ⟨rfl, rfl⟩⟩
      have sends : Socket.serve bufferSize ⟨⟨.messageCreated wire :: rest⟩, afterOrder⟩ =
          (⟨⟨rest⟩, wire.order⟩, some (.messageCreated wire)) := by
        simp only [Socket.serve, Receiver.recv, if_neg lags, if_neg isSeen]
      rw [sends]
      exact ⟨tail, .inr ⟨wire.order, List.mem_cons_self, not_le.mp isSeen, rfl, rfl⟩⟩
    | _ =>
      rw [Socket.serve, Receiver.recv, if_neg lags]
      exact ⟨tail, .inl ⟨rfl, rfl⟩⟩

section

variable (rising : Rising config stream)
include rising

theorem rising_serve :
    Rising config (GroupStream.step config.groupId config.bufferSize config.maxReconnectAttempts
      stream .serve) := by
  simp only [GroupStream.step]
  split
  · rename_i afterOrder socket flight isConnection
    have rises : Rises _ _ ⟨afterOrder, some socket, flight⟩ := rising.link _ isConnection
    obtain ⟨increasing, below, known⟩ := rises
    obtain ⟨kept, forwards⟩ := serve_cases config.bufferSize socket
    refine ⟨rising.wellOrdered, rising.intact, rising.client, rising.marked, rising.handlers,
      rising.known, rising.rises, ?_⟩
    rintro connection isNext
    cases isNext
    have isFlight : flightOrders
        (flight ++ ((socket.serve config.bufferSize).2.map WsTransport.GroupFrame.event).toList) =
        flightOrders flight ++
          ((socket.serve config.bufferSize).2.bind RealtimeEvent.created).toList := by
      rw [flightOrders, List.filterMap_append]
      cases (socket.serve config.bufferSize).2 with
      | none => simp [flightOrders]
      | some event => cases created : event.created <;> simp [flightOrders, frameCreated, created]
    show (_ ++ flightOrders _).Pairwise _ ∧ _ ∧ _
    rw [isFlight]
    rcases forwards with ⟨same, nothing⟩ | ⟨order, isPending, isAbove, isNext, forwarded⟩
    · rw [nothing, Option.toList_none, List.append_nil, same]
      refine ⟨increasing, below, fun other isIn => known other ?_⟩
      rcases List.mem_append.mp isIn with isIn | isIn
      · exact List.mem_append_left _ isIn
      · exact List.mem_append_right _ (kept other isIn)
    rw [forwarded, Option.toList_some, isNext, ← List.append_assoc]
    refine ⟨List.pairwise_append.mpr ⟨increasing, List.pairwise_singleton _ _, ?_⟩, ?_, ?_⟩
    · intro earlier isEarlier last isLast
      rw [List.mem_singleton.mp isLast]
      exact (below earlier isEarlier).trans_lt isAbove
    · intro earlier isIn
      rcases List.mem_append.mp isIn with isIn | isIn
      · exact (below earlier isIn).trans isAbove.le
      · exact (List.mem_singleton.mp isIn).le
    intro other isIn
    rcases List.mem_append.mp isIn with isIn | isIn
    · rcases List.mem_append.mp isIn with isIn | isIn
      · exact known other (List.mem_append_left _ isIn)
      · rw [List.mem_singleton.mp isIn]
        exact known order (List.mem_append_right _ isPending)
    · exact known other (List.mem_append_right _ (kept other isIn))
  · exact rising

theorem rising_publish (place : Nat) :
    Rising config (GroupStream.step config.groupId config.bufferSize config.maxReconnectAttempts
      stream (.publish place)) := by
  cases found : stream.handlers[place]? with
  | none =>
    simp only [GroupStream.step, found]
    exact rising
  | some created =>
    simp only [GroupStream.step, found]
    have isHandler : created ∈ stream.handlers := List.mem_of_getElem? found
    have fewer : Rising config { stream with handlers := stream.handlers.eraseIdx place } :=
      ⟨rising.wellOrdered, rising.intact, rising.client, rising.marked,
        fun order isIn => rising.handlers order
          (((List.eraseIdx_sublist stream.handlers place).map orderKey).subset isIn),
        rising.known, rising.rises, rising.link⟩
    refine rising_publishEvent fewer fun order isOrder => ?_
    obtain rfl : orderKey created = order := Option.some.inj isOrder
    exact rising.handlers _ (List.mem_map_of_mem isHandler)

theorem rising_broadcast (event : RealtimeEvent) :
    Rising config (GroupStream.step config.groupId config.bufferSize config.maxReconnectAttempts
      stream (.broadcast event)) := by
  cases event with
  | messageCreated => exact rising
  | _ => exact rising_publishEvent rising nofun

theorem rising_upgrade :
    Rising config (GroupStream.step config.groupId config.bufferSize config.maxReconnectAttempts
      stream .upgrade) := by
  simp only [GroupStream.step]
  split
  · rename_i afterOrder flight isConnection
    have rises : Rises _ _ ⟨afterOrder, none, flight⟩ := rising.link _ isConnection
    obtain ⟨isEmpty, below⟩ := rises
    have isEmpty : flight = [] := isEmpty
    refine ⟨rising.wellOrdered, rising.intact, rising.client, rising.marked, rising.handlers,
      rising.known, rising.rises, ?_⟩
    rintro connection isNext
    cases isNext
    show (_ ++ flightOrders flight).Pairwise _ ∧ (∀ order ∈ _ ++ flightOrders flight, _) ∧
      ∀ order ∈ flightOrders flight ++ _, _
    rw [isEmpty]
    simp only [flightOrders, List.filterMap_nil, List.append_nil, List.nil_append]
    exact ⟨rising.rises, below, by rintro _ ⟨⟩⟩
  · exact rising

end

theorem parseGroupFrame_sublist (afterOrder : Option Int) (frame : WsTransport.GroupFrame) :
    (orders (WsTransport.parseGroupFrame afterOrder frame).toList).Sublist
      (frameCreated frame).toList := by
  cases frame with
  | unknown | malformed => exact List.Sublist.slnil
  | event event =>
    cases event with
    | messageCreated wire =>
      simp only [WsTransport.parseGroupFrame]
      cases converts : Verification.fromWireMessage wire with
      | none => exact List.nil_sublist _
      | some =>
        dsimp only
        split
        · exact List.nil_sublist _
        · have isOrder := HttpTransport.fromWireMessage_keeps converts
          simp [orders, SubscriptionEvent.created, frameCreated, RealtimeEvent.created, isOrder]
    | messageDeleted wire | messageEdited wire =>
      simp only [WsTransport.parseGroupFrame]
      cases Verification.fromWireMessage wire <;> exact List.Sublist.slnil
    | _ => exact List.Sublist.slnil

theorem rising_arrive (rising : Rising config stream) :
    Rising config (GroupStream.step config.groupId config.bufferSize config.maxReconnectAttempts
      stream .arrive) := by
  simp only [GroupStream.step]
  split
  · rename_i afterOrder socket frame flight isConnection
    by_cases isOpen : stream.client.isOpen = true
    · rw [if_pos isOpen]
      cases socket with
      | none =>
        have rises : Rises _ _ ⟨afterOrder, none, frame :: flight⟩ := rising.link _ isConnection
        cases rises.1
      | some socket =>
        have rises : Rises _ _ ⟨afterOrder, some socket, frame :: flight⟩ :=
          rising.link _ isConnection
        obtain ⟨increasing, below, known⟩ := rises
        have received := (WsTransport.step_frame groupFeed stream.client frame
          config.maxReconnectAttempts).1
        rw [if_pos isOpen] at received
        have isFlight : flightOrders (frame :: flight) =
            (frameCreated frame).toList ++ flightOrders flight := by
          cases created : frameCreated frame <;> simp [flightOrders, created]
        dsimp only at increasing below known
        rw [isFlight] at increasing below known
        have accepted : (orders (WsTransport.step groupFeed config.maxReconnectAttempts
            stream.client (.frame frame)).received).Sublist
            (orders stream.client.received ++ (frameCreated frame).toList) := by
          rw [received, HttpTransport.orders_append]
          exact (parseGroupFrame_sublist stream.client.afterOrder frame).append_left _
        have all : (orders (WsTransport.step groupFeed config.maxReconnectAttempts stream.client
            (.frame frame)).received ++ flightOrders flight).Sublist
            (orders stream.client.received ++
              ((frameCreated frame).toList ++ flightOrders flight)) := by
          rw [← List.append_assoc]
          exact accepted.append_right _
        have isKnown : ∀ order ∈ orders stream.client.received ++ (frameCreated frame).toList,
            order ∈ rowOrders config.groupId stream.storage := by
          intro order isIn
          rcases List.mem_append.mp isIn with isIn | isIn
          · exact rising.known order isIn
          · exact known order (List.mem_append_left _ (List.mem_append_left _ isIn))
        refine ⟨rising.wellOrdered, rising.intact,
          WsTransport.inv_step groupFeed _ _ rising.client,
          marked_step rising.marked (rising.rises.sublist rising.yielded.sublist) _,
          rising.handlers, fun order isIn => isKnown order (accepted.subset isIn), ?_, ?_⟩
        · exact (increasing.sublist all).sublist (List.sublist_append_left _ _)
        rintro connection isNext
        cases isNext
        refine ⟨increasing.sublist all, fun order isIn => below order (all.subset isIn), ?_⟩
        intro order isIn
        refine known order ?_
        rw [List.append_assoc]
        exact List.mem_append_right _ isIn
    · rw [if_neg isOpen]
      exact rising
  · exact rising

theorem rising_clientStep (rising : Rising config stream)
    {input : WsTransport.Input WsTransport.GroupFrame} (noFrame : ∀ data, input ≠ .frame data) :
    Rising config (stream.clientStep config.maxReconnectAttempts input) := by
  have received : (WsTransport.step groupFeed config.maxReconnectAttempts stream.client
      input).received = stream.client.received := WsTransport.received_step _ _ noFrame
  have client := WsTransport.inv_step groupFeed stream.client input rising.client
  have marked : Marked (WsTransport.step groupFeed config.maxReconnectAttempts stream.client
      input) := marked_step rising.marked (rising.rises.sublist rising.yielded.sublist) input
  unfold GroupStream.State.clientStep
  simp only
  split
  · rename_i connects
    refine ⟨rising.wellOrdered, rising.intact, client, marked, rising.handlers,
      received.symm ▸ rising.known, received.symm ▸ rising.rises, ?_⟩
    rintro connection isNext
    cases isNext
    -- the connection is made from the last order, which covers what was received
    simp only [GroupStream.State.connects, Bool.and_eq_true] at connects
    obtain ⟨atAuth, -⟩ := connects
    have place : stream.client.position = .auth := by
      split at atAuth
      · assumption
      · cases atAuth
    have covers := rising.marked
    have drained := rising.client
    simp only [Marked, place] at covers
    simp only [WsTransport.Inv, place] at drained
    obtain ⟨covers, isAfter⟩ := covers
    have isLast : (WsTransport.step groupFeed config.maxReconnectAttempts stream.client
        input).afterOrder = stream.client.lastOrder := by
      rcases WsTransport.afterOrder_step groupFeed stream.client input config.maxReconnectAttempts
        with same | isLast
      · exact same.trans isAfter
      · exact isLast
    refine ⟨rfl, fun order isIn => ?_⟩
    dsimp only at isIn ⊢
    rw [received, drained.2] at isIn
    obtain ⟨last, isLastOrder, below⟩ := covers order isIn
    rw [isLast, isLastOrder]
    exact below
  · exact ⟨rising.wellOrdered, rising.intact, client, marked, rising.handlers,
      received.symm ▸ rising.known, received.symm ▸ rising.rises, received.symm ▸ rising.link⟩

/-- **Every step of the relayer and of the WebSocket.** -/
theorem rising_step (rising : Rising config stream) (input : GroupStream.Input) :
    Rising config (GroupStream.step config.groupId config.bufferSize config.maxReconnectAttempts
      stream input) := by
  cases input with
  | store message => exact rising_store rising message
  | publish place => exact rising_publish rising place
  | broadcast event => exact rising_broadcast rising event
  | upgrade => exact rising_upgrade rising
  | serve => exact rising_serve rising
  | arrive => exact rising_arrive rising
  | client input =>
    cases input with
    | frame => exact rising
    | _ =>
      refine rising_clientStep rising fun data isFrame => ?_
      cases isFrame

/-! ## How the log grows -/

/-- Rows are added above what the counter of the group has reached. -/
def Grows (groupId : String) (storage next : InMemoryStorage) : Prop :=
  (∃ more, rowOrders groupId next = rowOrders groupId storage ++ more ∧
    ∀ order ∈ more, storage.next groupId ≤ order) ∧
  storage.next groupId ≤ next.next groupId

theorem Grows.refl (groupId : String) (storage : InMemoryStorage) :
    Grows groupId storage storage :=
  ⟨⟨[], (List.append_nil _).symm, nofun⟩, le_refl _⟩

theorem rowOrders_lt_next (ordered : WellOrdered storage) {groupId : String} :
    ∀ order ∈ rowOrders groupId storage, order < storage.next groupId := by
  intro order isIn
  obtain ⟨row, isRow, rfl⟩ := List.mem_map.mp isIn
  rw [ordered.log_eq, List.mem_filter, beq_iff_eq] at isRow
  obtain ⟨highest, counter, below⟩ := ordered.bounded row isRow.1
  rw [isRow.2] at counter
  rw [InMemoryStorage.next, counter, Option.map_some, Option.getD_some]
  omega

theorem next_consumeOrder (storage : InMemoryStorage) (groupId other : String) :
    storage.next groupId ≤ (storage.consumeOrder other).next groupId := by
  by_cases same : groupId = other
  · subst same
    have isNext : (storage.consumeOrder groupId).next groupId = storage.next groupId + 1 := by
      simp [InMemoryStorage.next, InMemoryStorage.consumeOrder]
    omega
  · have isNext : (storage.consumeOrder other).next groupId = storage.next groupId := by
      simp [InMemoryStorage.next, InMemoryStorage.consumeOrder, same]
    omega

theorem grows_createMessage (ordered : WellOrdered storage) (groupId : String)
    (message : Relayer.Message) :
    Grows groupId storage (storage.createMessage message).2 := by
  rcases storage.createMessage_cases message with ⟨reason, same | consumed⟩ | ⟨-, -, stored⟩
  · rw [same]
    exact .refl groupId storage
  · rw [consumed]
    exact ⟨⟨[], (List.append_nil _).symm, nofun⟩, next_consumeOrder storage groupId _⟩
  rcases GroupStream.store_cases ordered groupId message with
    ⟨reason, next, failed, -⟩ | ⟨created, next, isStored, isRows⟩
  · cases failed ▸ stored
  rw [isStored] at stored ⊢
  obtain ⟨isCreated, isNext⟩ := Prod.mk.inj stored
  refine ⟨⟨_, isRows, fun order isIn => ?_⟩, ?_⟩
  · split at isIn
    · rename_i isGroup
      rw [List.mem_singleton.mp isIn, Except.ok.inj isCreated]
      have sameGroup : message.groupId = groupId := by
        rw [← isGroup, Except.ok.inj isCreated]
        rfl
      rw [← sameGroup]
      exact le_refl _
    · cases isIn
  · rw [isNext]
    exact next_consumeOrder storage groupId message.groupId

def AtRelayer : GroupStream.Input → Prop
  | .client _ | .arrive => False
  | _ => True

theorem relayer_grows (rising : Rising config stream) {input : GroupStream.Input}
    (atRelayer : AtRelayer input) :
    (GroupStream.step config.groupId config.bufferSize config.maxReconnectAttempts stream
        input).client = stream.client ∧
      Grows config.groupId stream.storage
        (GroupStream.step config.groupId config.bufferSize config.maxReconnectAttempts stream
          input).storage := by
  cases input with
  | store message =>
    have grows := grows_createMessage rising.wellOrdered config.groupId message
    simp only [GroupStream.step]
    split
    · rename_i created next stored
      rw [stored] at grows
      split <;> exact ⟨rfl, grows⟩
    · rename_i reason next failed
      rw [failed] at grows
      exact ⟨rfl, grows⟩
  | publish | broadcast | upgrade | serve =>
    simp only [GroupStream.step]
    split <;> exact ⟨rfl, .refl _ _⟩
  | arrive | client => exact atRelayer.elim

end Rising

/-! ## What a clean run keeps -/

/-- **What is known while the stream polls.** -/
structure Polling (config : Config) (state : State) (http : HttpTransport.State) : Prop where
  marked : HttpTransport.Marked http
  rises : (orders state.stream.client.yielded ++ offered http).Pairwise (· < ·)
  known : ∀ order ∈ offered http, order ∈ state.rows config
  counted : ∀ count ∈ state.firstPoll, count ≤ (state.rows config).length
  /-- What is stored from now on is above the order of the next fetch. -/
  behind : state.firstPoll ≠ none →
    ∀ last ∈ http.lastOrder, last < state.stream.storage.next config.groupId
  /-- A row stored after the first poll is offered, or above all that is, so that a fetch will
  bring it. -/
  complete : ∀ order ∈ stored config state,
    order ∈ orders state.stream.client.yielded ++ offered http ∨
      (∀ earlier ∈ orders state.stream.client.yielded ++ offered http, earlier < order) ∧
        (http.position = .done ∨ ∀ last ∈ http.lastOrder, last < order)

/-- **The invariant of a clean run.** -/
structure Inv (config : Config) (state : State) : Prop where
  rising : Rising config state.stream
  unpolled : state.http = none → state.polls = 0 ∧ state.firstPoll = none
  polling : ∀ http ∈ state.http, Polling config state http

/-- What a step does once the stream polls: the log grows, the stream goes on, or a fetch is
answered. -/
inductive Change (config : Config) (state : State) (http : HttpTransport.State) :
    Input → State → Prop
  | grows (input : Input) (stream : GroupStream.State) (rising : Rising config stream)
      (client : stream.client = state.stream.client)
      (grows : Grows config.groupId state.stream.storage stream.storage) :
      Change config state http input { state with stream }
  | moves (input : Input) (next : HttpTransport.State)
      (moves : HttpTransport.Moves [] http next)
      (ends : http.position = .done → next.position = .done) :
      Change config state http input { state with http := some next }
  | polls (next : HttpTransport.State) (messages : List Verification.RelayerMessage)
      (requests : http.position = .requested .messages)
      (fetched : HttpTransport.fetchMessages state.stream.storage config.groupId http.lastOrder
        config.limit = .ok messages)
      (moves : HttpTransport.Moves (messages.map (·.order)) http next) :
      Change config state http (.poll none)
        { state with
          http := some next
          polls := state.polls + 1
          firstPoll := state.firstPoll.or (some (state.rows config).length) }

section Clean

variable {config : Config} {state : State} {http : HttpTransport.State}

theorem Polling.given (polling : Polling config state http) :
    (orders http.yielded).Pairwise (· < ·) :=
  (List.pairwise_append.mp ((List.pairwise_append.mp polling.rises).2.1)).1

theorem Change.event (polling : Polling config state http) (input : Input)
    {event : HttpTransport.Input} (noAnswer : ∀ messages, event ≠ .messages (.ok messages)) :
    Change config state http input (state.httpStep config http event) := by
  have moves : HttpTransport.Moves (HttpTransport.fresh http event) http
      (HttpTransport.step config.groupId http event) :=
    HttpTransport.step_moves polling.marked polling.given event
  have isNil : HttpTransport.fresh http event = [] := by
    unfold HttpTransport.fresh
    split
    · rename_i messages
      exact absurd rfl (noAnswer messages)
    · rfl
  rw [isNil] at moves
  exact .moves input _ moves fun done => HttpTransport.step_done done event

theorem Change.same (isHttp : state.http = some http) (polling : Polling config state http)
    (input : Input) : Change config state http input state := by
  have moves : Change config state http input { state with http := some http } :=
    .moves input http (.refl polling.marked rfl rfl rfl) id
  rwa [← isHttp] at moves

theorem step_change (rising : Rising config state.stream) (isHttp : state.http = some http)
    (polling : Polling config state http) (input : Input) :
    Change config state http input (step config state input) := by
  have same := Change.same isHttp polling input
  cases input with
  | pull | abort | disconnect =>
    simp only [step, isHttp]
    exact .event polling _ (by rintro _ ⟨⟩)
  | stream input =>
    have atRelayer : ∀ event, AtRelayer event →
        Change config state http (.stream input) (state.streamStep config event) := by
      intro event isRelayer
      obtain ⟨client, grows⟩ := relayer_grows rising isRelayer
      exact .grows _ _ (rising_step rising event) client grows
    cases input with
    | client input | arrive =>
      simp only [step, isHttp]
      exact same
    | store | publish | broadcast | upgrade | serve =>
      simp only [step]
      exact atRelayer _ trivial
  | poll failure =>
    simp only [step, isHttp]
    split
    · rename_i requests
      cases failure with
      | some => exact .event polling _ (by rintro _ ⟨⟩)
      | none =>
        simp only [State.settle]
        cases fetched : HttpTransport.fetchMessages state.stream.storage config.groupId
            http.lastOrder config.limit with
        | error failure => exact .event polling _ (by rintro _ ⟨⟩)
        | ok messages =>
          have moves : HttpTransport.Moves
              (HttpTransport.fresh http (.messages (.ok messages))) http
              (HttpTransport.step config.groupId http (.messages (.ok messages))) :=
            HttpTransport.step_moves polling.marked polling.given _
          simp only [HttpTransport.fresh, requests] at moves
          exact .polls _ messages requests fetched moves
    · exact same
  | http event =>
    cases event with
    | messages => exact same
    | _ =>
      simp only [step, isHttp]
      exact .event polling _ (by rintro _ ⟨⟩)

variable {stream : GroupStream.State} {order : Int}

theorem stored_grows {more : List Int}
    (counted : ∀ count ∈ state.firstPoll, count ≤ (state.rows config).length)
    (isMore : rowOrders config.groupId stream.storage = state.rows config ++ more) :
    ∀ order ∈ stored config { state with stream }, order ∈ stored config state ∨ order ∈ more := by
  intro order isIn
  unfold stored at isIn ⊢
  cases isFirst : state.firstPoll with
  | none =>
    simp only [isFirst] at isIn
    cases isIn
  | some count =>
    simp only [isFirst, State.rows] at isIn ⊢
    rw [isMore, List.drop_append_of_le_length (counted count isFirst)] at isIn
    exact List.mem_append.mp isIn

theorem Rising.stored (rising : Rising config state.stream) :
    ∀ order ∈ orders state.stream.client.yielded, order ∈ state.rows config :=
  fun order isIn => rising.known order (rising.yielded.subset isIn)

theorem Polling.grows (rising : Rising config state.stream) (polling : Polling config state http)
    (client : stream.client = state.stream.client)
    (grows : Grows config.groupId state.stream.storage stream.storage) :
    Polling config { state with stream } http := by
  obtain ⟨⟨more, isMore, above⟩, further⟩ := grows
  have isRows : ({ state with stream } : State).rows config = state.rows config ++ more := isMore
  have offeredKnown : ∀ order ∈ orders state.stream.client.yielded ++ offered http,
      order ∈ state.rows config := by
    intro order isIn
    rcases List.mem_append.mp isIn with isIn | isIn
    · exact rising.stored order isIn
    · exact polling.known order isIn
  refine ⟨polling.marked, ?_, fun order isIn => ?_, fun count isCount => ?_, ?_, ?_⟩
  · rw [client]
    exact polling.rises
  · rw [isRows]
    exact List.mem_append_left _ (polling.known order isIn)
  · rw [isRows, List.length_append]
    exact (polling.counted count isCount).trans (Nat.le_add_right _ _)
  · exact fun isPolled last isLast => (polling.behind isPolled last isLast).trans_le further
  intro order isStored
  show order ∈ orders stream.client.yielded ++ _ ∨
    (∀ earlier ∈ orders stream.client.yielded ++ _, _) ∧ _
  rw [client]
  rcases stored_grows polling.counted isMore order isStored with isOld | isNew
  · exact polling.complete order isOld
  refine .inr ⟨fun earlier isIn => ?_, .inr fun last isLast => ?_⟩
  · exact (rowOrders_lt_next rising.wellOrdered earlier (offeredKnown earlier isIn)).trans_le
      (above order isNew)
  have isPolled : state.firstPoll ≠ none := by
    intro isNone
    simp only [HybridTransport.stored, isNone] at isStored
    cases isStored
  exact (polling.behind isPolled last isLast).trans_le (above order isNew)

variable {next : HttpTransport.State} {messages : List Verification.RelayerMessage}

theorem Polling.offer (rising : Rising config state.stream) (polling : Polling config state http)
    {fresh : List Int} {after : State} (moves : HttpTransport.Moves fresh http next)
    (ends : http.position = .done → next.position = .done) (stream : after.stream = state.stream)
    (rises : (orders state.stream.client.yielded ++ (offered http ++ fresh)).Pairwise (· < ·))
    (known : ∀ order ∈ fresh, order ∈ state.rows config)
    (counted : ∀ count ∈ after.firstPoll, count ≤ (state.rows config).length)
    (behind : after.firstPoll ≠ none → ∀ last ∈ http.lastOrder,
      last < state.stream.storage.next config.groupId)
    (complete : ∀ order ∈ stored config after,
      order ∈ orders state.stream.client.yielded ++ (offered http ++ fresh) ∨
      (∀ earlier ∈ orders state.stream.client.yielded ++ (offered http ++ fresh), earlier < order) ∧
    (http.position = .done ∨ ∀ last ∈ http.lastOrder, last < order))
    :
    Polling config after next := by
  have rows : after.rows config = state.rows config := by rw [State.rows, stream, State.rows]
  -- what is offered is the beginning of what was, with the additional messages
  have isPrefix : offered next <+: offered http ++ fresh := by
    rcases moves.offers with same | ⟨-, isPrefix⟩
    · exact same ▸ List.prefix_rfl
    · exact isPrefix.trans (List.prefix_append _ _)
  have isPrefix : orders state.stream.client.yielded ++ offered next <+:
      orders state.stream.client.yielded ++ (offered http ++ fresh) :=
    (List.prefix_append_right_inj _).mpr isPrefix
  have isGiven : ∀ order ∈ orders http.yielded, order ∈ offered http := fun order isIn =>
    List.mem_append_left _ isIn
  refine ⟨moves.marked, ?_, fun order isIn => ?_, ?_, fun isPolled last isLast => ?_,
    fun order isStored => ?_⟩
  · rw [stream]
    exact rises.sublist isPrefix.sublist
  · rw [rows]
    have isIn := isPrefix.subset (List.mem_append_right _ isIn)
    rcases List.mem_append.mp isIn with isIn | isIn
    · exact rising.stored order isIn
    · rcases List.mem_append.mp isIn with isIn | isIn
      · exact polling.known order isIn
      · exact known order isIn
  · rw [rows]
    exact counted
  · rw [stream]
    rcases moves.lastOrder with same | ⟨order, isOrder, isNext⟩
    · exact behind isPolled last (same ▸ isLast)
    · rw [isNext] at isLast
      obtain rfl : order = last := Option.some.inj isLast
      exact rowOrders_lt_next rising.wellOrdered order (polling.known order (isGiven order isOrder))
  rw [stream]
  rcases complete order isStored with isOffered | ⟨isAbove, behind⟩
  · rcases moves.offers with same | ⟨done, -⟩
    · exact .inl (same ▸ isOffered)
    obtain ⟨rest, split⟩ := isPrefix
    rw [← split] at isOffered rises
    rcases List.mem_append.mp isOffered with isOffered | isDropped
    · exact .inl isOffered
    · have below := (List.pairwise_append.mp rises).2.2
      exact .inr ⟨fun earlier isIn => below earlier isIn order isDropped, .inl done⟩
  refine .inr ⟨fun earlier isIn => isAbove earlier (isPrefix.subset isIn), ?_⟩
  rcases behind with done | behind
  · exact .inl (ends done)
  refine .inr fun last isLast => ?_
  rcases moves.lastOrder with same | ⟨other, isOther, isNext⟩
  · exact behind last (same ▸ isLast)
  rw [isNext] at isLast
  obtain rfl : other = last := Option.some.inj isLast
  exact isAbove other (List.mem_append_right _
    (List.mem_append_left _ (isGiven other isOther)))

/-- **What an answered fetch brings in a clean run**: rows above all that was offered, in order,
and, of the rows stored after the first poll that were not offered, the first. -/
structure Brings (config : Config) (state : State) (http : HttpTransport.State)
    (page : List Int) : Prop where
  rises : (orders state.stream.client.yielded ++ (offered http ++ page)).Pairwise (· < ·)
  known : ∀ order ∈ page, order ∈ state.rows config
  complete : ∀ order ∈ stored config state,
    order ∈ orders state.stream.client.yielded ++ (offered http ++ page) ∨
      (∀ earlier ∈ orders state.stream.client.yielded ++ (offered http ++ page), earlier < order)
        ∧ page ≠ [] ∧ ∀ last ∈ http.lastOrder, last < order

theorem brings_of_clean (rising : Rising config state.stream) (isHttp : state.http = some http)
    (polling : Polling config state http) (clean : Clean config state (.poll none))
    (requests : http.position = .requested .messages)
    (fetched : HttpTransport.fetchMessages state.stream.storage config.groupId http.lastOrder
      config.limit = .ok messages)
    :
    Brings config state http (messages.map (·.order)) := by
  have clean : CleanPoll config state http.lastOrder := clean http isHttp (by simp [requests])
  unfold CleanPoll at clean
  have covers := polling.marked
  simp only [HttpTransport.Marked, requests] at covers
  have isOffered : offered http = orders http.yielded := by
    simp only [offered, HttpTransport.pending, requests, List.append_nil]
  have increasing : (state.rows config).Pairwise (· < ·) :=
    GroupStream.rowOrders_increasing rising.wellOrdered config.groupId
  cases isLast : http.lastOrder with
  | some after =>
    rw [isLast] at fetched covers clean
    obtain ⟨isPrefix, notEmpty⟩ :=
      HttpTransport.fetchMessages_above rising.wellOrdered rising.intact fetched
    obtain ⟨rest, split⟩ := isPrefix
    have isAbove : ∀ order ∈ messages.map (·.order), after < order := fun order isIn =>
      (GroupStream.mem_above.mp (split ▸ List.mem_append_left _ isIn)).2
    have sorted : (messages.map (·.order) ++ rest).Pairwise (· < ·) := split ▸ increasing.filter _
    have below : ∀ order ∈ orders state.stream.client.yielded ++ offered http, order ≤ after := by
      intro order isIn
      rcases List.mem_append.mp isIn with isIn | isIn
      · exact clean.1 order isIn
      · obtain ⟨last, isSome, isBelow⟩ := covers order (isOffered ▸ isIn)
        cases isSome
        exact isBelow
    refine ⟨?_, fun order isIn => ?_, fun order isStored => ?_⟩
    · rw [← List.append_assoc]
      refine List.pairwise_append.mpr
        ⟨polling.rises, (List.pairwise_append.mp sorted).1, fun early isEarly late isLate => ?_⟩
      exact (below early isEarly).trans_lt (isAbove late isLate)
    · exact (GroupStream.mem_above.mp (split ▸ List.mem_append_left _ isIn)).1
    rw [← List.append_assoc]
    rcases polling.complete order isStored with isIn | ⟨isHigher, done | behind⟩
    · exact .inl (List.mem_append_left _ isIn)
    · cases requests ▸ done
    have isRow : order ∈ state.rows config := by
      unfold stored at isStored
      split at isStored
      · cases isStored
      · exact List.mem_of_mem_drop isStored
    have isLater : order ∈ above after (rowOrders config.groupId state.stream.storage) :=
      GroupStream.mem_above.mpr ⟨isRow, behind after isLast⟩
    have isSome : messages.map (·.order) ≠ [] := notEmpty (List.ne_nil_of_mem isLater)
    rw [← split] at isLater
    rcases List.mem_append.mp isLater with isPage | isRest
    · exact .inl (List.mem_append_right _ isPage)
    refine .inr ⟨fun earlier isIn => ?_, isSome, fun last isSame => ?_⟩
    · rcases List.mem_append.mp isIn with isIn | isIn
      · exact isHigher earlier isIn
      · exact (List.pairwise_append.mp sorted).2.2 earlier isIn order isRest
    · exact behind last (isLast ▸ isSame)
  | none =>
    rw [isLast] at fetched covers clean
    obtain ⟨size, isSize, isPage⟩ :=
      HttpTransport.fetchMessages_newest rising.wellOrdered rising.intact fetched
    obtain ⟨isAbove, isComplete⟩ := clean size isSize
    have isSuffix : messages.map (·.order) <:+ state.rows config := by
      rw [isPage]
      exact (HttpTransport.newest_isSuffix size _).map _
    have noneGiven : offered http = [] := by
      rw [isOffered]
      refine List.eq_nil_iff_forall_not_mem.mpr fun order isIn => ?_
      obtain ⟨last, isSome, -⟩ := covers order isIn
      cases isSome
    refine ⟨?_, fun order isIn => isSuffix.subset isIn, fun order isStored => .inl ?_⟩
    · rw [noneGiven, List.nil_append]
      have rises := polling.rises
      rw [noneGiven, List.append_nil] at rises
      refine List.pairwise_append.mpr
        ⟨rises, increasing.sublist isSuffix.sublist, fun early isEarly late isLate => ?_⟩
      rw [isPage] at isLate
      obtain ⟨row, isRow, rfl⟩ := List.mem_map.mp isLate
      exact isAbove early isEarly row isRow
    · have isIn : order ∈ messages.map (·.order) := isPage ▸ isComplete order isStored
      exact List.mem_append_right _ (List.mem_append_right _ isIn)

/-! ### The step and the run -/

theorem inv_begin (config : Config) (rising : Rising config stream) {http : HttpTransport.State}
    (marked : HttpTransport.Marked http) (noneOffered : offered http = []) :
    Inv config ⟨stream, some http, 0, none⟩ := by
  refine ⟨rising, nofun, fun next isNext => ?_⟩
  cases isNext
  have rises : (orders stream.client.yielded ++ offered http).Pairwise (· < ·) := by
    rw [noneOffered, List.append_nil]
    exact rising.rises.sublist rising.yielded.sublist
  refine ⟨marked, rises, ?_, nofun, fun isPolled => absurd rfl isPolled, nofun⟩
  rw [noneOffered]
  nofun

/-- A stream that begins has nothing to offer. -/
theorem poll_start (http : HttpTransport.State) (noneYielded : http.yielded = []) :
    HttpTransport.Marked http.poll ∧ offered http.poll = [] := by
  unfold HttpTransport.State.poll
  split <;> simp [HttpTransport.Marked, Passed, offered, HttpTransport.pending, noneYielded, orders]

theorem inv_fallBack {state : State} (rising : Rising config state.stream)
    (isHttp : state.http = none) (unpolled : state.polls = 0 ∧ state.firstPoll = none) :
    Inv config (state.fallBack config) := by
  have same : Inv config state := ⟨rising, fun _ => unpolled, fun http isSome => by
    rw [isHttp] at isSome
    cases isSome⟩
  unfold State.fallBack
  split
  · split
    · obtain ⟨marked, noneOffered⟩ := poll_start (HttpTransport.start config.afterOrder) rfl
      rw [unpolled.1, unpolled.2]
      exact inv_begin config rising marked noneOffered
    · exact same
  · exact same

theorem inv_step_before (inv : Inv config state) (isHttp : state.http = none) (input : Input) :
    Inv config (step config state input) := by
  have unpolled := inv.unpolled isHttp
  have streams : ∀ event, Inv config ((state.streamStep config event).fallBack config) :=
    fun event => inv_fallBack (rising_step inv.rising event) isHttp unpolled
  have relays : ∀ event, Inv config (state.streamStep config event) := fun event =>
    ⟨rising_step inv.rising event, fun _ => unpolled, fun http isSome => by
      rw [State.streamStep, isHttp] at isSome
      cases isSome⟩
  cases input with
  | pull =>
    simp only [step, isHttp]
    split
    · exact streams _
    obtain ⟨marked, noneOffered⟩ := poll_start
      { HttpTransport.start config.afterOrder with
        disconnected := state.stream.client.disconnected
        aborted := state.stream.client.aborted } rfl
    have begins := inv_begin config inv.rising marked noneOffered
    rw [← unpolled.1, ← unpolled.2] at begins
    exact begins
  | abort | disconnect =>
    simp only [step, isHttp]
    exact streams _
  | stream event =>
    cases event with
    | client =>
      simp only [step, isHttp]
      split
      · exact streams _
      · exact inv
    | arrive =>
      simp only [step, isHttp]
      exact streams _
    | store | publish | broadcast | upgrade | serve => exact relays _
  | poll =>
    simp only [step, isHttp]
    exact inv
  | http event => cases event <;> simp only [step, isHttp] <;> exact inv

theorem inv_polls (inv : Inv config state) (isHttp : state.http = some http)
    (clean : Clean config state (.poll none)) (requests : http.position = .requested .messages)
    (fetched : HttpTransport.fetchMessages state.stream.storage config.groupId http.lastOrder
      config.limit = .ok messages)
    (moves : HttpTransport.Moves (messages.map (·.order)) http next) :
    Inv config
      { state with
        http := some next
        polls := state.polls + 1
        firstPoll := state.firstPoll.or (some (state.rows config).length) } := by
  have polling := inv.polling http isHttp
  have brings := brings_of_clean inv.rising isHttp polling clean requests fetched
  refine ⟨inv.rising, nofun, fun other isNext => ?_⟩
  cases isNext
  have clean : CleanPoll config state http.lastOrder := clean http isHttp (by simp [requests])
  unfold CleanPoll at clean
  refine polling.offer inv.rising moves (by simp [requests]) rfl brings.rises brings.known ?_ ?_ ?_
  · intro count isCount
    cases isFirst : state.firstPoll with
    | none =>
      cases isFirst ▸ isCount
      exact Nat.le_refl _
    | some =>
      cases isFirst ▸ isCount
      exact polling.counted _ isFirst
  · intro _ last isLast
    rw [isLast] at clean
    by_cases isFirst : state.firstPoll = none
    · exact clean.2 isFirst
    · exact polling.behind isFirst last isLast
  intro order isStored
  cases isFirst : state.firstPoll with
  | none =>
    -- nothing is stored after the first poll yet
    simp only [stored, isFirst, Option.none_or, State.rows] at isStored
    cases List.drop_length ▸ isStored
  | some =>
    simp only [stored, isFirst, Option.some_or] at isStored
    have isOld : order ∈ stored config state := by
      simp only [stored, isFirst]
      exact isStored
    rcases brings.complete order isOld with isIn | ⟨isAbove, -, behind⟩
    · exact .inl isIn
    · exact .inr ⟨isAbove, .inr behind⟩

theorem inv_step (state : State) (input : Input) (inv : Inv config state)
    (clean : Clean config state input) : Inv config (step config state input) := by
  cases isHttp : state.http with
  | none => exact inv_step_before inv isHttp input
  | some http =>
    have polling := inv.polling http isHttp
    have change := step_change inv.rising isHttp polling input
    generalize step config state input = after at change
    cases change with
    | grows _ stream rising client grows =>
      refine ⟨rising, fun isNone => ?_, fun other isOther => ?_⟩
      · exact absurd (isHttp.symm.trans isNone) nofun
      · obtain rfl : http = other := Option.some.inj (isHttp.symm.trans isOther)
        exact polling.grows inv.rising client grows
    | moves _ next moves ends =>
      refine ⟨inv.rising, nofun, fun other isOther => ?_⟩
      cases isOther
      refine polling.offer inv.rising moves ends rfl ?_ nofun polling.counted polling.behind ?_
      · rw [List.append_nil]
        exact polling.rises
      · rw [List.append_nil]
        exact polling.complete
    | polls next messages requests fetched moves =>
      exact inv_polls inv isHttp clean requests fetched moves

theorem inv_start (config : Config) : Inv config (start config) where
  rising := rising_start config
  unpolled := fun _ => ⟨rfl, rfl⟩
  polling := fun _ isHttp => absurd isHttp (Option.not_mem_none _)

theorem Inv.steady (inv : Inv config state) : Steady config state := by
  cases isHttp : state.http with
  | none =>
    have isGiven : given state = orders state.stream.client.yielded := by simp [given, isHttp]
    refine ⟨?_, fun order isStored => ?_⟩
    · rw [isGiven]
      exact inv.rising.rises.sublist inv.rising.yielded.sublist
    · simp only [stored, (inv.unpolled isHttp).2] at isStored
      cases isStored
  | some http =>
    have polling := inv.polling http isHttp
    have rises := polling.rises
    have isOffered : orders state.stream.client.yielded ++ offered http =
        given state ++ HttpTransport.pending http := by
      simp [given, isHttp, offered]
    rw [isOffered] at rises
    obtain ⟨isGiven, -, below⟩ := List.pairwise_append.mp rises
    refine ⟨isGiven, fun order isStored => ?_⟩
    have complete := polling.complete order isStored
    rw [isOffered] at complete
    rcases complete with isIn | ⟨isAbove, -⟩
    · rcases List.mem_append.mp isIn with isIn | isPending
      · exact .inl isIn
      · exact .inr fun earlier isEarlier => below earlier isEarlier order isPending
    · exact .inr fun earlier isEarlier => isAbove earlier (List.mem_append_left _ isEarlier)

/-! ### Delivery -/

def upTo (order : Int) (orders : List Int) : Nat := (orders.filter (· ≤ order)).length

/-- **A stored row comes nearer with each poll**: until it is offered, each poll has offered one
more row up to it; and it is handed out before there are more polls than rows. -/
structure Nears (config : Config) (order : Int) (polls count : Nat) (state : State) : Prop where
  isStored : order ∈ stored config state
  counted : upTo order (state.rows config) = count
  delivered : polls + count < state.polls → order ∈ given state
  nears : ∀ http ∈ state.http, http.position = .done ∨
    order ∈ orders state.stream.client.yielded ++ offered http ∨
      state.polls ≤ polls + upTo order (orders state.stream.client.yielded ++ offered http)

theorem upTo_lt {some all : List Int} (rises : some.Pairwise (· < ·))
    (known : ∀ other ∈ some, other ∈ all) (isRow : order ∈ all) (fresh : order ∉ some) :
    upTo order some < upTo order all := by
  have nodup : (order :: some.filter (· ≤ order)).Nodup := by
    refine List.nodup_cons.mpr ⟨fun isIn => fresh (List.mem_of_mem_filter isIn), ?_⟩
    exact (rises.filter _).imp fun below => below.ne
  have subset : order :: some.filter (· ≤ order) ⊆ all.filter (· ≤ order) := by
    intro other isIn
    rcases List.mem_cons.mp isIn with rfl | isIn
    · exact List.mem_filter.mpr ⟨isRow, by simp⟩
    · obtain ⟨isSome, below⟩ := List.mem_filter.mp isIn
      exact List.mem_filter.mpr ⟨known other isSome, below⟩
  have shorter := (List.subperm_of_subset nodup subset).length_le
  rwa [List.length_cons] at shorter

theorem mem_rows_of_stored (isStored : order ∈ stored config state) :
    order ∈ state.rows config := by
  unfold stored at isStored
  split at isStored
  · cases isStored
  · exact List.mem_of_mem_drop isStored

theorem nears_step {polls count : Nat} (state : State) (input : Input)
    (both : Inv config state ∧ Nears config order polls count state)
    (clean : Clean config state input) :
    Inv config (step config state input) ∧
      Nears config order polls count (step config state input) := by
  obtain ⟨inv, nears⟩ := both
  refine ⟨inv_step state input inv clean, ?_⟩
  cases isHttp : state.http with
  | none =>
    have isStored := nears.isStored
    simp only [stored, (inv.unpolled isHttp).2] at isStored
    cases isStored
  | some http =>
    have polling := inv.polling http isHttp
    have change := step_change inv.rising isHttp polling input
    have isGiven : given state = orders state.stream.client.yielded ++ orders http.yielded := by
      simp [given, isHttp]
    generalize step config state input = after at change
    cases change with
    | grows _ stream rising client grows =>
      obtain ⟨⟨more, isMore, above⟩, -⟩ := grows
      have isRow := mem_rows_of_stored nears.isStored
      have noneMore : more.filter (· ≤ order) = [] := by
        refine List.filter_eq_nil_iff.mpr fun other isOther isBelow => ?_
        have reached := rowOrders_lt_next inv.rising.wellOrdered order isRow
        have isAbove := above other isOther
        have isBelow := of_decide_eq_true isBelow
        omega
      refine ⟨?_, ?_, ?_, fun other isOther => ?_⟩
      · have isStored := nears.isStored
        unfold stored at isStored ⊢
        cases isFirst : state.firstPoll with
        | none =>
          simp only [isFirst] at isStored
          cases isStored
        | some first =>
          have counted := polling.counted first isFirst
          simp only [isFirst, State.rows] at isStored counted ⊢
          rw [isMore, List.drop_append_of_le_length counted]
          exact List.mem_append_left _ isStored
      · rw [← nears.counted, upTo, State.rows, isMore, List.filter_append, noneMore,
          List.append_nil]
        rfl
      · intro enough
        have isIn := nears.delivered enough
        simpa only [given, client] using isIn
      · simpa only [client] using nears.nears other isOther
    | moves _ next moves ends =>
      refine ⟨nears.isStored, nears.counted, fun enough => ?_, fun other isOther => ?_⟩
      · have isIn := nears.delivered enough
        rw [isGiven] at isIn
        rcases List.mem_append.mp isIn with isIn | isIn
        · exact List.mem_append_left _ isIn
        · exact List.mem_append_right _ (moves.given.subset isIn)
      cases isOther
      rcases moves.offers with same | ⟨done, -⟩
      · rw [same, List.append_nil]
        exact (nears.nears http isHttp).imp ends id
      · exact .inl done
    | polls next messages requests fetched moves =>
      have brings := brings_of_clean inv.rising isHttp polling clean requests fetched
      have isOffered : offered http = orders http.yielded := by
        simp only [offered, HttpTransport.pending, requests, List.append_nil]
      have nearer : order ∈ given state ∨
          state.polls ≤ polls + upTo order (given state) := by
        rcases nears.nears http isHttp with done | near
        · cases requests ▸ done
        · rwa [isOffered, ← isGiven] at near
      have isNext : ∀ other ∈ given state,
          other ∈ orders state.stream.client.yielded ++ orders next.yielded := by
        intro other isIn
        rw [isGiven] at isIn
        rcases List.mem_append.mp isIn with isIn | isIn
        · exact List.mem_append_left _ isIn
        · exact List.mem_append_right _ (moves.given.subset isIn)
      have isStored : order ∈ stored config
          { state with
            http := some next
            polls := state.polls + 1
            firstPoll := state.firstPoll.or (some (state.rows config).length) } := by
        have isStored := nears.isStored
        unfold stored at isStored ⊢
        cases isFirst : state.firstPoll with
        | none =>
          simp only [isFirst] at isStored
          cases isStored
        | some =>
          simp only [isFirst, Option.some_or] at isStored ⊢
          exact isStored
      refine ⟨isStored, nears.counted, fun enough => ?_, fun other isOther => ?_⟩
      · -- so many polls have offered all rows up to it
        by_contra notGiven
        have fresh : order ∉ given state := fun isIn => notGiven (isNext order isIn)
        have fewer : upTo order (given state) < upTo order (state.rows config) := by
          refine upTo_lt inv.steady.rises (fun other isIn => ?_)
            (mem_rows_of_stored nears.isStored) fresh
          rw [isGiven] at isIn
          rcases List.mem_append.mp isIn with isIn | isIn
          · exact inv.rising.stored other isIn
          · exact polling.known other (isOffered ▸ isIn)
        have near := nearer.resolve_left fresh
        rw [nears.counted] at fewer
        dsimp only at enough
        omega
      cases isOther
      rcases moves.offers with offers | ⟨done, -⟩
      · refine .inr ?_
        show order ∈ orders state.stream.client.yielded ++ offered next ∨
          state.polls + 1 ≤
            polls + upTo order (orders state.stream.client.yielded ++ offered next)
        rw [offers]
        rcases brings.complete order nears.isStored with isIn | ⟨isAbove, isSome, -⟩
        · exact .inl isIn
        refine .inr ?_
        have fresh : order ∉ given state := by
          intro isIn
          rw [isGiven, ← isOffered] at isIn
          have isIn : order ∈ orders state.stream.client.yielded ++
              (offered http ++ messages.map (·.order)) := by
            rw [← List.append_assoc]
            exact List.mem_append_left _ isIn
          exact absurd (isAbove order isIn) (lt_irrefl _)
        have near := nearer.resolve_left fresh
        -- the fetch brings one more row, and it is below the row
        obtain ⟨head, rest, isPage⟩ := List.exists_cons_of_ne_nil isSome
        have isBelow : head ≤ order := by
          refine (isAbove head ?_).le
          rw [isPage]
          simp
        have longer : upTo order (given state) + 1 ≤
            upTo order (orders state.stream.client.yielded ++
              (offered http ++ messages.map (·.order))) := by
          rw [← List.append_assoc, isOffered, ← isGiven, isPage, upTo, upTo,
            List.filter_append, List.length_append]
          have kept : (head :: rest).filter (· ≤ order) =
              head :: rest.filter (· ≤ order) := by
            rw [List.filter_cons, if_pos (decide_eq_true isBelow)]
          rw [kept, List.length_cons]
          omega
        omega
      · exact .inl done

/-- What is stored is delivered. -/
theorem delivers (inv : Inv config state) {inputs : List Input}
    (clean : Along (step config) (Clean config) state inputs) :
    Delivers config state (inputs.foldl (step config) state) := by
  intro order isStored enough
  have begins : Nears config order state.polls (upTo order (state.rows config)) state := by
    refine ⟨isStored, rfl, fun enough => absurd enough (by omega), fun http _ => .inr (.inr ?_)⟩
    exact Nat.le_add_right _ _
  have run := Along.invariant nears_step clean ⟨inv, begins⟩
  exact run.2.delivered enough

end Clean

/-- **When falling back neither repeats nor skips.**  For every configuration and every run of the
relayer, the socket, the polls and the consumer: if each answered poll meets the condition, then
at every moment the messages that the consumer was given rise, none stored after the first poll is
passed over, and each of these is handed out after as many further polls as there are rows. -/
theorem falls_back_rightly (config : Config) (inputs : List Input)
    (clean : Along (step config) (Clean config) (start config) inputs) :
    Promise config inputs := by
  have invs : ∀ before, before <+: inputs → Inv config (reached config before) := by
    rintro before ⟨after, rfl⟩
    obtain ⟨cleanBefore, -⟩ := (Along.append _ before after).mp clean
    exact Along.invariant inv_step cleanBefore (inv_start config)
  refine ⟨fun before isPrefix => (invs before isPrefix).steady, ?_⟩
  rintro first second ⟨rest, rfl⟩
  obtain ⟨cleanBoth, -⟩ := (Along.append _ (first ++ second) rest).mp clean
  obtain ⟨-, cleanSecond⟩ := (Along.append _ first second).mp cleanBoth
  have inv := invs first (by rw [List.append_assoc]; exact List.prefix_append _ _)
  have delivered := delivers inv cleanSecond
  rwa [reached, reached, List.foldl_append]

/-- The WebSocket fails as it opens, with one row in the group. -/
def fallsBack : List Input :=
  [.stream (.store (GroupStream.sampleRow 1)), .pull, .stream (.client (.authSettles none)),
    .stream (.client .socketFails), .stream (.client .resume)]

/-- The answers without reactions and receipts, and the delay. -/
def restOfRound : List Input := [.http (.reactions (.ok [])), .http (.receipts (.ok [])),
  .http .timer]

/-- Pages of one message, without an `afterOrder`. -/
def sampleConfig (preferWebSocket : Bool) : Config where
  bufferSize := 256
  maxReconnectAttempts := 0
  preferWebSocket := preferWebSocket
  fallbackToHttp := true
  groupId := "0xg"
  afterOrder := none
  limit := some 1

/-- The first poll brings the newest row, and two rows stored later come one by one. -/
theorem polling_takes_over :
    let inputs := fallsBack ++ [.poll none, .stream (.store (GroupStream.sampleRow 2)),
      .stream (.store (GroupStream.sampleRow 3)), .pull] ++ restOfRound ++ [.poll none, .pull] ++
      restOfRound ++ [.poll (some .other), .http .timer, .poll none]
    given (reached (sampleConfig true) inputs) = [1, 2, 3] ∧ Promise (sampleConfig true) inputs :=
  ⟨by decide +kernel, falls_back_rightly (sampleConfig true) _ (by decide +kernel)⟩

/-- **The fallback repeats and skips.**  The WebSocket hands out a message and fails for good, and
the first poll brings the message again.  And a stream that polls an empty group, and again when
two rows are there, is given the second and never the first. -/
theorem fallback_repeats_and_skips :
    ¬Promise (sampleConfig true)
      [.pull, .stream (.client (.authSettles none)), .stream .upgrade,
        .stream (.client .socketOpens), .stream (.client .resume),
        .stream (.store (GroupStream.sampleRow 1)), .stream (.publish 0), .stream .serve,
        .stream .arrive, .stream (.client .resume), .pull, .stream (.client .socketCloses),
        .stream (.client .resume), .poll none] ∧
    ¬Promise (sampleConfig false)
      ([.pull, .poll none] ++ restOfRound ++ [.stream (.store (GroupStream.sampleRow 1)),
        .stream (.store (GroupStream.sampleRow 2)), .poll none]) := by
  constructor
  · intro promise
    have steady := promise.1 _ List.prefix_rfl
    exact absurd steady.rises (by decide +kernel)
  intro promise
  have steady := promise.1 _ List.prefix_rfl
  have isPassed := steady.complete 1 (by decide +kernel)
  exact absurd isPassed (by decide +kernel)

end MessagingStack.Sdk.HybridTransport

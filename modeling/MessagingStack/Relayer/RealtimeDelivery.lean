import MessagingStack.Base.Runs
import MessagingStack.Relayer.Authentication
import MessagingStack.Relayer.MembershipSync
import MessagingStack.Relayer.Realtime

/-!
# Who the sockets deliver to

A **group socket** (`handlers/ws.rs`) is let through for a reader of the group and forwards what its
channel brings without looking again; a **user feed** (`handlers/user_ws.rs`) asks for each event
whether the wallet is a member.  The delivery obeys the membership (`obeys_of_clean`) in the runs in
which nothing is published past a socket or feed that has lost its right, and no change comes while
such an event is pending.
-/

namespace MessagingStack.Relayer

/-! ## The events of the user feed -/

/-- Best-effort provenance for `group.discovered`. -/
inductive DiscoveryReason where
  | created
  | invited
  | joined
  deriving DecidableEq

inductive UserFeedEvent where
  /-- A message was stored in the group: for every connected member of the group. -/
  | groupActivity (groupId : String) (latestOrder : Int)
  | readStateUpdated (wallet : String) (blobVersion : Nat)
  /-- A peer advanced its watermarks in the group: membership-filtered. -/
  | receiptUpdated (groupId member : String) (deliveredUpto readUpto : Int)
  | groupDiscovered (wallet groupId : String) (reason : DiscoveryReason)
  | groupHidden (wallet groupId : String)
  | workflowItemCreated (wallet : String) (itemId : Uuid) (itemType status : String)
  | workflowItemUpdated (wallet : String) (itemId : Uuid) (itemType status : String)
  deriving DecidableEq

/-- Membership check with case-insensitive fallback for address / group id. -/
def membershipAllows (membership : MembershipStore) (groupId wallet : String) : Bool :=
  let walletL := Text.toAsciiLowercase wallet
  let groupL := Text.toAsciiLowercase groupId
  membership.isMember groupId wallet ||
    ((walletL != wallet || groupL != groupId) && membership.isMember groupL walletL) ||
    [wallet, walletL].any fun candidate =>
      decide (∃ knownGroup ∈ membership.groupsForMember candidate,
        Text.eqIgnoreAsciiCase knownGroup groupId ∧ membership.isMember knownGroup candidate)

namespace UserFeedEvent

/-- Whether this event should be delivered to a connection authenticated as `wallet`. -/
def matchesWallet (event : UserFeedEvent) (wallet : String) (membership : MembershipStore) :
    Bool :=
  match event with
  | .groupActivity groupId _ | .receiptUpdated groupId _ _ _ =>
    membershipAllows membership groupId wallet
  | .readStateUpdated target _ | .groupDiscovered target _ _ | .groupHidden target _
  | .workflowItemCreated target _ _ _ | .workflowItemUpdated target _ _ _ => target == wallet

/-- The group whose data the event carries; the events that are for one wallet carry none. -/
def groupId? : UserFeedEvent → Option String
  | .groupActivity groupId _ | .receiptUpdated groupId _ _ _ => some groupId
  | _ => none

theorem matchesWallet_group {event : UserFeedEvent} {groupId : String}
    (isGroup : event.groupId? = some groupId) (wallet : String) (membership : MembershipStore) :
    event.matchesWallet wallet membership = membershipAllows membership groupId wallet := by
  cases event <;> cases isGroup <;> rfl

end UserFeedEvent

/-- The group whose data an event of a group channel carries. -/
def RealtimeEvent.groupId : RealtimeEvent → String
  | .messageCreated message | .messageDeleted message | .messageEdited message => message.groupId
  | .reactionUpdated groupId _ _ _ _ => groupId
  | .typing _ groupId _ _ => groupId
  | .presenceUpdated groupId _ _ => groupId
  | .receiptUpdated groupId _ _ _ => groupId

namespace RealtimeDelivery

/-! ## The sockets -/

structure GroupSocket where
  groupId : String
  sender : String
  afterOrder : Int
  /-- The state of `handle_socket`, once it has subscribed. -/
  socket : Option Socket

structure UserFeedReceiver where
  pending : List UserFeedEvent

def UserFeedReceiver.recv (bufferSize : Nat) (receiver : UserFeedReceiver) :
    Option UserFeedEvent × UserFeedReceiver :=
  if receiver.pending.length > bufferSize then
    (none, ⟨receiver.pending.drop (receiver.pending.length - bufferSize)⟩)
  else
    match receiver.pending with
    | [] => (none, receiver)
    | event :: rest => (some event, ⟨rest⟩)

structure UserSocket where
  wallet : String
  /-- The receiver of `handle_socket`, once it has subscribed. -/
  feedRx : Option UserFeedReceiver

structure Config where
  crates : AuthCrates
  sync : MembershipSync.Config
  realtimeEnabled : Bool
  requestTtlSeconds : Int
  groupBufferSize : Nat
  userFeedBufferSize : Nat

structure State where
  membership : MembershipStore
  groupSockets : List GroupSocket
  userSockets : List UserSocket

/-- A process with the given membership and no socket. -/
def start (membership : MembershipStore) : State where
  membership := membership
  groupSockets := []
  userSockets := []

/-! ## Publications -/

def isMemberJoinedWire (message : MessageResponse) : Bool :=
  message.kind == "system" && message.system.any fun system => system.systemType == "member_joined"

namespace State

def publishUserEvent (state : State) (event : UserFeedEvent) : State :=
  { state with
    userSockets := state.userSockets.map fun user =>
      { user with feedRx := user.feedRx.map fun feedRx => ⟨feedRx.pending ++ [event]⟩ } }

def publishEvent (state : State) (groupId : String) (event : RealtimeEvent) : State :=
  { state with
    groupSockets := state.groupSockets.map fun group =>
      if group.groupId = groupId then
        { group with socket := group.socket.map (·.publishEvent event) }
      else group }

/-- A stored message: the sidebar of the members, unless they just joined, and the thread. -/
def publishWire (state : State) (groupId : String) (message : MessageResponse) : State :=
  let state :=
    if isMemberJoinedWire message then state
    else state.publishUserEvent (.groupActivity groupId message.order)
  state.publishEvent groupId (.messageCreated message)

def publishGroupActivity (state : State) (groupId : String) (latestOrder : Int) : State :=
  state.publishUserEvent (.groupActivity groupId latestOrder)

def publishDeletedWire (state : State) (groupId : String) (message : MessageResponse) : State :=
  state.publishEvent groupId (.messageDeleted message)

def publishEditedWire (state : State) (groupId : String) (message : MessageResponse) : State :=
  state.publishEvent groupId (.messageEdited message)

/-- Group channel and membership-filtered user feed. -/
def publishReceipt (state : State) (groupId member : String) (deliveredUpto readUpto : Int) :
    State :=
  (state.publishUserEvent (.receiptUpdated groupId member deliveredUpto readUpto)).publishEvent
    groupId (.receiptUpdated groupId member deliveredUpto readUpto)

end State

/-- What the handlers, the listener and the services publish. -/
inductive Publication where
  | wire (message : MessageResponse)
  | groupActivity (groupId : String) (latestOrder : Int)
  | deletedWire (message : MessageResponse)
  | editedWire (message : MessageResponse)
  | reaction (groupId : String) (chainSeq : Int) (emoji : String) (count : Int)
      (reactors : List String)
  | typing (started : Bool) (groupId member : String) (expiresAt : Option Int)
  | presence (groupId member : String) (online : Bool)
  | receipt (groupId member : String) (deliveredUpto readUpto : Int)
  | userEvent (event : UserFeedEvent)

/-- A publication, with the group that its callers give. -/
def publish (state : State) : Publication → State
  | .wire message => state.publishWire message.groupId message
  | .groupActivity groupId latestOrder => state.publishGroupActivity groupId latestOrder
  | .deletedWire message => state.publishDeletedWire message.groupId message
  | .editedWire message => state.publishEditedWire message.groupId message
  | .reaction groupId chainSeq emoji count reactors =>
    state.publishEvent groupId (.reactionUpdated groupId chainSeq emoji count reactors)
  | .typing started groupId member expiresAt =>
    state.publishEvent groupId (.typing started groupId member expiresAt)
  | .presence groupId member online =>
    state.publishEvent groupId (.presenceUpdated groupId member online)
  | .receipt groupId member deliveredUpto readUpto =>
    state.publishReceipt groupId member deliveredUpto readUpto
  | .userEvent event => state.publishUserEvent event

/-! ## The machine -/

/-- What membership sync does to the store. -/
inductive MembershipChange where
  | groups (event : GroupsEvent)
  /-- `clear_all`, on a chain that starts over. -/
  | clearAll

def MembershipChange.apply (config : Config) (membership : MembershipStore) :
    MembershipChange → MembershipStore
  | .groups event => MembershipSync.apply config.sync membership event
  | .clearAll => membership.clearAll

inductive Input where
  /-- `ws_handler`, at a time of the server's clock. -/
  | upgrade (now : Int) (headers : HeaderMap) (query : WsAuthQuery)
  /-- `handle_socket` begins on a group socket. -/
  | opened (place : Nat)
  /-- A turn of `handle_socket` on the channel of its group. -/
  | serve (place : Nat)
  | closed (place : Nat)
  | userUpgrade (now : Int) (headers : HeaderMap) (query : WsAuthQuery)
  | userOpened (place : Nat)
  /-- A turn of `handle_socket` on the user feed. -/
  | userServe (place : Nat)
  | userClosed (place : Nat)
  | changed (change : MembershipChange)
  | published (publication : Publication)

/-- `ws_handler`: the socket of an upgrade that is let through. -/
def wsHandler (config : Config) (membership : MembershipStore) (now : Int) (headers : HeaderMap)
    (query : WsAuthQuery) : Option GroupSocket :=
  if config.realtimeEnabled then
    match authenticateWsUpgrade config.crates now config.requestTtlSeconds membership headers
        query with
    | .ok auth => auth.authorizedGroup.map fun groupId =>
      { groupId, sender := auth.senderAddress, afterOrder := query.afterOrder.getD 0
        socket := none }
    | .error _ => none
  else none

def userWsHandler (config : Config) (now : Int) (headers : HeaderMap) (query : WsAuthQuery) :
    Option UserSocket :=
  if config.realtimeEnabled then
    match authenticateUserWsUpgrade config.crates now config.requestTtlSeconds headers query with
    | .ok auth => some { wallet := auth.senderAddress, feedRx := none }
    | .error _ => none
  else none

def GroupSocket.subscribed (group : GroupSocket) : GroupSocket :=
  { group with socket := group.socket <|> some (.subscribe group.afterOrder) }

def GroupSocket.turn (config : Config) (group : GroupSocket) :
    GroupSocket × Option RealtimeEvent :=
  match group.socket with
  | none => (group, none)
  | some socket =>
    ({ group with socket := some (socket.serve config.groupBufferSize).1 },
      (socket.serve config.groupBufferSize).2)

def UserSocket.subscribed (user : UserSocket) : UserSocket :=
  { user with feedRx := user.feedRx <|> some ⟨[]⟩ }

/-- A turn of the loop of a user feed, and the event that it forwards. -/
def UserSocket.turn (config : Config) (membership : MembershipStore) (user : UserSocket) :
    UserSocket × Option UserFeedEvent :=
  match user.feedRx with
  | none => (user, none)
  | some feedRx =>
    ({ user with feedRx := some (feedRx.recv config.userFeedBufferSize).2 },
      (feedRx.recv config.userFeedBufferSize).1.filter (·.matchesWallet user.wallet membership))

def step (config : Config) (state : State) : Input → State
  | .upgrade now headers query =>
    { state with
      groupSockets := state.groupSockets ++
        (wsHandler config state.membership now headers query).toList }
  | .opened place => { state with groupSockets := state.groupSockets.modify place (·.subscribed) }
  | .serve place =>
    { state with groupSockets := state.groupSockets.modify place fun group =>
      (group.turn config).1 }
  | .closed place => { state with groupSockets := state.groupSockets.eraseIdx place }
  | .userUpgrade now headers query =>
    { state with
      userSockets := state.userSockets ++ (userWsHandler config now headers query).toList }
  | .userOpened place => { state with userSockets := state.userSockets.modify place (·.subscribed) }
  | .userServe place =>
    { state with
      userSockets := state.userSockets.modify place fun user =>
        (user.turn config state.membership).1 }
  | .userClosed place => { state with userSockets := state.userSockets.eraseIdx place }
  | .changed change => { state with membership := change.apply config state.membership }
  | .published publication => publish state publication

/-! ## The promise -/

/-- A frame with data of a group. -/
structure Frame where
  wallet : String
  groupId : String
  deriving DecidableEq

/-- The frames with data of a group that a step sends. -/
def sent (config : Config) (state : State) : Input → List Frame
  | .serve place =>
    match state.groupSockets[place]? with
    | none => []
    | some group => ((group.turn config).2.map fun event => ⟨group.sender, event.groupId⟩).toList
  | .userServe place =>
    match state.userSockets[place]? with
    | none => []
    | some user =>
      (((user.turn config state.membership).2.bind UserFeedEvent.groupId?).map fun groupId =>
        ⟨user.wallet, groupId⟩).toList
  | _ => []

def IsReader (membership : MembershipStore) (groupId wallet : String) : Prop :=
  membership.hasPermission groupId wallet .messagingReader = true

instance (membership : MembershipStore) (groupId wallet : String) :
    Decidable (IsReader membership groupId wallet) :=
  inferInstanceAs (Decidable (membership.hasPermission groupId wallet .messagingReader = true))

/-- Every frame goes to a reader of the group whose data it carries. -/
def Obeys (config : Config) (state : State) (input : Input) : Prop :=
  ∀ frame ∈ sent config state input, IsReader state.membership frame.groupId frame.wallet

instance (config : Config) (state : State) (input : Input) :
    Decidable (Obeys config state input) :=
  inferInstanceAs (Decidable
    (∀ frame ∈ sent config state input, IsReader state.membership frame.groupId frame.wallet))

/-! ## The condition -/

def Publication.groupEvent : Publication → Option RealtimeEvent
  | .wire message => some (.messageCreated message)
  | .groupActivity _ _ => none
  | .deletedWire message => some (.messageDeleted message)
  | .editedWire message => some (.messageEdited message)
  | .reaction groupId chainSeq emoji count reactors =>
    some (.reactionUpdated groupId chainSeq emoji count reactors)
  | .typing started groupId member expiresAt => some (.typing started groupId member expiresAt)
  | .presence groupId member online => some (.presenceUpdated groupId member online)
  | .receipt groupId member deliveredUpto readUpto =>
    some (.receiptUpdated groupId member deliveredUpto readUpto)
  | .userEvent _ => none

def Publication.feedEvent : Publication → Option UserFeedEvent
  | .wire message =>
    if isMemberJoinedWire message then none
    else some (.groupActivity message.groupId message.order)
  | .groupActivity groupId latestOrder => some (.groupActivity groupId latestOrder)
  | .receipt groupId member deliveredUpto readUpto =>
    some (.receiptUpdated groupId member deliveredUpto readUpto)
  | .userEvent event => some event
  | _ => none

def SocketsRead (state : State) (groupId : String) : Prop :=
  ∀ group ∈ state.groupSockets, group.socket.isSome = true → group.groupId = groupId →
    IsReader state.membership groupId group.sender

/-- Every open feed that passes the membership check for the group is that of a reader. -/
def FeedsRead (state : State) (groupId : String) : Prop :=
  ∀ user ∈ state.userSockets, user.feedRx.isSome = true →
    membershipAllows state.membership groupId user.wallet = true →
      IsReader state.membership groupId user.wallet

instance (state : State) (groupId : String) : Decidable (SocketsRead state groupId) :=
  inferInstanceAs (Decidable (∀ group ∈ state.groupSockets, group.socket.isSome = true →
    group.groupId = groupId → IsReader state.membership groupId group.sender))

instance (state : State) (groupId : String) : Decidable (FeedsRead state groupId) :=
  inferInstanceAs (Decidable (∀ user ∈ state.userSockets, user.feedRx.isSome = true →
    membershipAllows state.membership groupId user.wallet = true →
      IsReader state.membership groupId user.wallet))

/-- Under this membership, no event of a group is pending on a group socket of a wallet that is
not a reader, or on the feed of a wallet that is a member and not a reader. -/
structure NonePending (membership : MembershipStore) (state : State) : Prop where
  sockets : ∀ group ∈ state.groupSockets, ∀ socket, group.socket = some socket →
    socket.hubRx.pending ≠ [] → IsReader membership group.groupId group.sender
  feeds : ∀ user ∈ state.userSockets, ∀ feedRx, user.feedRx = some feedRx →
    ∀ event ∈ feedRx.pending, ∀ groupId, event.groupId? = some groupId →
      membershipAllows membership groupId user.wallet = true →
        IsReader membership groupId user.wallet

/-- **The condition.**  What is published in a group finds only readers at the sockets and feeds
that it reaches, and no change of the membership leaves an event pending for one who is not. -/
def Clean (config : Config) (state : State) : Input → Prop
  | .changed change => NonePending (change.apply config state.membership) state
  | .published publication =>
    (∀ event ∈ publication.groupEvent, SocketsRead state event.groupId) ∧
      ∀ event ∈ publication.feedEvent, ∀ groupId ∈ event.groupId?, FeedsRead state groupId
  | _ => True

/-! ## Single operations -/

/-- A publication is what it sends on the feed and then what it sends on the channel. -/
theorem publish_eq (state : State) (publication : Publication) :
    publish state publication =
      let fed := (publication.feedEvent.map state.publishUserEvent).getD state
      (publication.groupEvent.map fun event => fed.publishEvent event.groupId event).getD fed := by
  cases publication with
  | wire message =>
    by_cases joined : isMemberJoinedWire message = true <;>
      simp [publish, State.publishWire, Publication.feedEvent, Publication.groupEvent, joined,
        RealtimeEvent.groupId]
  | _ => rfl

/-- A turn of `handle_socket` brings nothing that was not pending. -/
theorem serve_spec (bufferSize : Nat) (socket : Socket) :
    (∀ event ∈ (socket.serve bufferSize).1.hubRx.pending, event ∈ socket.hubRx.pending) ∧
      ∀ event, (socket.serve bufferSize).2 = some event → event ∈ socket.hubRx.pending := by
  obtain ⟨⟨pending⟩, afterOrder⟩ := socket
  by_cases lags : pending.length > bufferSize
  · -- a receiver that lags drops the oldest events and forwards none
    simp only [Socket.serve, Receiver.recv, lags, if_true]
    exact ⟨fun event isLater => List.mem_of_mem_drop isLater, fun event isSent => nomatch isSent⟩
  cases pending with
  | nil => simp [Socket.serve, Receiver.recv]
  | cons first rest =>
    have passes : (Socket.serve bufferSize ⟨⟨first :: rest⟩, afterOrder⟩).1.hubRx.pending =
        rest ∧ ∀ event, (Socket.serve bufferSize ⟨⟨first :: rest⟩, afterOrder⟩).2 = some event →
          event = first := by
      simp only [Socket.serve, Receiver.recv, lags, if_false]
      cases first with
      | messageCreated wire =>
        by_cases known : wire.order ≤ afterOrder
        · simp [known]
        · simp [known, eq_comm]
      | _ => exact ⟨rfl, fun event isSent => (Option.some.inj isSent).symm⟩
    refine ⟨fun event isLater => ?_, fun event isSent => ?_⟩
    · rw [passes.1] at isLater
      exact List.mem_cons_of_mem first isLater
    · rw [passes.2 event isSent]
      exact List.mem_cons_self

theorem recv_spec (bufferSize : Nat) (feedRx : UserFeedReceiver) :
    (∀ event ∈ (feedRx.recv bufferSize).2.pending, event ∈ feedRx.pending) ∧
      ∀ event, (feedRx.recv bufferSize).1 = some event → event ∈ feedRx.pending := by
  obtain ⟨pending⟩ := feedRx
  by_cases lags : pending.length > bufferSize
  · simp only [UserFeedReceiver.recv, lags, if_true]
    exact ⟨fun event isLater => List.mem_of_mem_drop isLater, fun event isSent => nomatch isSent⟩
  cases pending with
  | nil => simp [UserFeedReceiver.recv]
  | cons first =>
    simp only [UserFeedReceiver.recv, lags, if_false]
    refine ⟨fun event isLater => List.mem_cons_of_mem first isLater, fun event isSent => ?_⟩
    rw [← Option.some.inj isSent]
    exact List.mem_cons_self

variable {config : Config} {membership : MembershipStore}

theorem turn_of_none {group : GroupSocket} (closed : group.socket = none) :
    group.turn config = (group, none) := by
  simp only [GroupSocket.turn, closed]

theorem turn_of_some {group : GroupSocket} {socket : Socket} (isOpen : group.socket = some socket) :
    group.turn config =
      ({ group with socket := some (socket.serve config.groupBufferSize).1 },
        (socket.serve config.groupBufferSize).2) := by
  simp only [GroupSocket.turn, isOpen]

theorem userTurn_of_none {user : UserSocket} (closed : user.feedRx = none) :
    user.turn config membership = (user, none) := by
  simp only [UserSocket.turn, closed]

theorem userTurn_of_some {user : UserSocket} {feedRx : UserFeedReceiver}
    (isOpen : user.feedRx = some feedRx) :
    user.turn config membership =
      ({ user with feedRx := some (feedRx.recv config.userFeedBufferSize).2 },
        (feedRx.recv config.userFeedBufferSize).1.filter
          (·.matchesWallet user.wallet membership)) := by
  simp only [UserSocket.turn, isOpen]

/-! ## What holds of each socket -/

/-- What a group socket has pending is of its group, and its wallet is a reader if there is
anything. -/
structure Entitled (membership : MembershipStore) (group : GroupSocket) : Prop where
  reads : ∀ socket, group.socket = some socket → socket.hubRx.pending ≠ [] →
    IsReader membership group.groupId group.sender
  channel : ∀ socket, group.socket = some socket → ∀ event ∈ socket.hubRx.pending,
    event.groupId = group.groupId

/-- The wallet of a feed is a reader of each group of which an event is pending, if it is a
member. -/
def UserEntitled (membership : MembershipStore) (user : UserSocket) : Prop :=
  ∀ feedRx, user.feedRx = some feedRx → ∀ event ∈ feedRx.pending, ∀ groupId,
    event.groupId? = some groupId → membershipAllows membership groupId user.wallet = true →
      IsReader membership groupId user.wallet

/-- The invariant of a clean run. -/
structure Inv (state : State) : Prop where
  groups : ∀ group ∈ state.groupSockets, Entitled state.membership group
  users : ∀ user ∈ state.userSockets, UserEntitled state.membership user

section Sockets

variable {config : Config} {membership : MembershipStore} {group : GroupSocket} {user : UserSocket}

theorem Entitled.subscribed (entitled : Entitled membership group) :
    Entitled membership group.subscribed := by
  cases isSocket : group.socket with
  | some =>
    have same : group.subscribed = group := by
      simp only [GroupSocket.subscribed, isSocket, Option.orElse_eq_orElse, Option.orElse_some]
      rw [← isSocket]
    rw [same]
    exact entitled
  | none =>
    have empty : group.subscribed.socket = some (.subscribe group.afterOrder) := by
      simp [GroupSocket.subscribed, isSocket]
    constructor
    · intro socket isNew pending
      obtain rfl := Option.some.inj (empty.symm.trans isNew)
      exact absurd rfl pending
    · intro socket isNew event isPending
      obtain rfl := Option.some.inj (empty.symm.trans isNew)
      cases isPending

theorem Entitled.turn (entitled : Entitled membership group) :
    Entitled membership (group.turn config).1 := by
  cases isSocket : group.socket with
  | none =>
    rw [turn_of_none isSocket]
    exact entitled
  | some socket =>
    rw [turn_of_some isSocket]
    have earlier := (serve_spec config.groupBufferSize socket).1
    constructor
    · rintro later ⟨⟩ pending
      obtain ⟨event, isPending⟩ := List.exists_mem_of_ne_nil _ pending
      exact entitled.reads socket isSocket (List.ne_nil_of_mem (earlier event isPending))
    · rintro later ⟨⟩ event isPending
      exact entitled.channel socket isSocket event (earlier event isPending)

theorem UserEntitled.subscribed (entitled : UserEntitled membership user) :
    UserEntitled membership user.subscribed := by
  cases isFeed : user.feedRx with
  | some =>
    have same : user.subscribed = user := by
      simp only [UserSocket.subscribed, isFeed, Option.orElse_eq_orElse, Option.orElse_some]
      rw [← isFeed]
    rw [same]
    exact entitled
  | none =>
    intro feedRx isNew event isPending
    have empty : user.subscribed.feedRx = some ⟨[]⟩ := by simp [UserSocket.subscribed, isFeed]
    obtain rfl := Option.some.inj (empty.symm.trans isNew)
    cases isPending

theorem UserEntitled.turn (entitled : UserEntitled membership user) :
    UserEntitled membership (user.turn config membership).1 := by
  cases isFeed : user.feedRx with
  | none =>
    rw [userTurn_of_none isFeed]
    exact entitled
  | some feedRx =>
    rw [userTurn_of_some isFeed]
    rintro later ⟨⟩ event isPending
    exact entitled feedRx isFeed event
      ((recv_spec config.userFeedBufferSize feedRx).1 event isPending)

theorem Entitled.publishEvent {event : RealtimeEvent} (entitled : Entitled membership group)
    (reads : group.socket.isSome = true → group.groupId = event.groupId →
      IsReader membership event.groupId group.sender) :
    Entitled membership
      (if group.groupId = event.groupId then
        { group with socket := group.socket.map (·.publishEvent event) }
      else group) := by
  by_cases reached : group.groupId = event.groupId
  · rw [if_pos reached]
    constructor
    · intro socket isNew _
      rw [← reached] at reads
      exact reads (by simpa using Option.isSome_of_eq_some isNew) rfl
    intro socket isNew other isPending
    obtain ⟨earlier, isSocket, rfl⟩ := Option.map_eq_some_iff.mp isNew
    rcases List.mem_append.mp isPending with before | now
    · exact entitled.channel earlier isSocket other before
    · rw [List.mem_singleton.mp now]
      exact reached.symm
  · rw [if_neg reached]
    exact entitled

theorem UserEntitled.publishUserEvent {event : UserFeedEvent}
    (entitled : UserEntitled membership user)
    (reads : ∀ groupId, event.groupId? = some groupId → user.feedRx.isSome = true →
      membershipAllows membership groupId user.wallet = true →
        IsReader membership groupId user.wallet) :
    UserEntitled membership
      { user with feedRx := user.feedRx.map fun feedRx => ⟨feedRx.pending ++ [event]⟩ } := by
  intro feedRx isNew other isPending groupId isGroup allowed
  obtain ⟨earlier, isFeed, rfl⟩ := Option.map_eq_some_iff.mp isNew
  rcases List.mem_append.mp isPending with before | now
  · exact entitled earlier isFeed other before groupId isGroup allowed
  · rw [List.mem_singleton.mp now] at isGroup
    exact reads groupId isGroup (Option.isSome_of_eq_some isFeed) allowed

end Sockets

/-! ## One step -/

/-- What holds of every element of a list holds after one of them is changed. -/
theorem forall_mem_modify {α : Type} {P : α → Prop} {change : α → α} {items : List α}
    (all : ∀ item ∈ items, P item) (keeps : ∀ item, P item → P (change item)) (place : Nat) :
    ∀ item ∈ items.modify place change, P item := by
  intro item isIn
  obtain ⟨index, inside, rfl⟩ := List.getElem_of_mem isIn
  rw [List.getElem_modify]
  rw [List.length_modify] at inside
  have old : P items[index] := all _ (List.getElem_mem inside)
  split
  · exact keeps _ old
  · exact old

section Steps

variable {config : Config} {state : State} {membership : MembershipStore} {now : Int}
  {headers : HeaderMap} {query : WsAuthQuery}

/-- A socket whose upgrade was let through has nothing pending yet. -/
theorem entitled_wsHandler {group : GroupSocket}
    (isNew : wsHandler config membership now headers query = some group) :
    Entitled membership group := by
  have closed : group.socket = none := by
    unfold wsHandler at isNew
    split at isNew
    · split at isNew
      · obtain ⟨groupId, -, rfl⟩ := Option.map_eq_some_iff.mp isNew
        rfl
      · cases isNew
    · cases isNew
  constructor
  · intro socket isSocket
    cases closed ▸ isSocket
  · intro socket isSocket
    cases closed ▸ isSocket

theorem userEntitled_userWsHandler {user : UserSocket}
    (isNew : userWsHandler config now headers query = some user) :
    UserEntitled membership user := by
  have closed : user.feedRx = none := by
    unfold userWsHandler at isNew
    split at isNew
    · split at isNew
      · cases isNew
        rfl
      · cases isNew
    · cases isNew
  intro feedRx isFeed
  cases closed ▸ isFeed

theorem inv_publishUserEvent (inv : Inv state) {event : UserFeedEvent}
    (reads : ∀ groupId, event.groupId? = some groupId → FeedsRead state groupId) :
    Inv (state.publishUserEvent event) := by
  refine ⟨inv.groups, ?_⟩
  intro user isUser
  obtain ⟨earlier, isEarlier, rfl⟩ := List.mem_map.mp isUser
  refine (inv.users earlier isEarlier).publishUserEvent ?_
  intro groupId isGroup isOpen allowed
  exact reads groupId isGroup earlier isEarlier isOpen allowed

theorem inv_publishEvent (inv : Inv state) {event : RealtimeEvent}
    (reads : SocketsRead state event.groupId) :
    Inv (state.publishEvent event.groupId event) := by
  refine ⟨?_, inv.users⟩
  intro group isGroup
  obtain ⟨earlier, isEarlier, rfl⟩ := List.mem_map.mp isGroup
  refine (inv.groups earlier isEarlier).publishEvent ?_
  intro isOpen reached
  exact reads earlier isEarlier isOpen reached

theorem inv_publish (inv : Inv state) {publication : Publication}
    (clean : Clean config state (.published publication)) :
    Inv (publish state publication) := by
  rw [publish_eq]
  obtain ⟨sockets, feeds⟩ := clean
  -- the feed comes first, and changes neither the group sockets nor the membership
  have fed : Inv ((publication.feedEvent.map state.publishUserEvent).getD state) ∧
      ∀ groupId, SocketsRead state groupId →
        SocketsRead ((publication.feedEvent.map state.publishUserEvent).getD state) groupId := by
    cases isFed : publication.feedEvent with
    | none => exact ⟨inv, fun groupId reads => reads⟩
    | some event =>
      have reads : ∀ groupId, event.groupId? = some groupId → FeedsRead state groupId :=
        fun groupId isGroup => feeds event isFed groupId isGroup
      exact ⟨inv_publishUserEvent inv reads, fun groupId reads => reads⟩
  cases isSent : publication.groupEvent with
  | none => exact fed.1
  | some event => exact inv_publishEvent fed.1 (fed.2 _ (sockets event isSent))

theorem inv_step (input : Input) (inv : Inv state) (clean : Clean config state input) :
    Inv (step config state input) := by
  cases input with
  | upgrade =>
    refine ⟨?_, inv.users⟩
    intro group isGroup
    rcases List.mem_append.mp isGroup with earlier | isNew
    · exact inv.groups group earlier
    · exact entitled_wsHandler (Option.mem_toList.mp isNew)
  | opened place =>
    exact ⟨forall_mem_modify inv.groups (fun group entitled => entitled.subscribed) place,
      inv.users⟩
  | serve place =>
    exact ⟨forall_mem_modify inv.groups (fun group entitled => entitled.turn) place, inv.users⟩
  | closed =>
    exact ⟨fun group isGroup => inv.groups group (List.mem_of_mem_eraseIdx isGroup), inv.users⟩
  | userUpgrade =>
    refine ⟨inv.groups, ?_⟩
    intro user isUser
    rcases List.mem_append.mp isUser with earlier | isNew
    · exact inv.users user earlier
    · exact userEntitled_userWsHandler (Option.mem_toList.mp isNew)
  | userOpened place =>
    exact ⟨inv.groups, forall_mem_modify inv.users (fun user entitled => entitled.subscribed) place⟩
  | userServe place =>
    exact ⟨inv.groups, forall_mem_modify inv.users (fun user entitled => entitled.turn) place⟩
  | userClosed =>
    exact ⟨inv.groups, fun user isUser => inv.users user (List.mem_of_mem_eraseIdx isUser)⟩
  | changed =>
    constructor
    · intro group isGroup
      exact ⟨clean.sockets group isGroup, (inv.groups group isGroup).channel⟩
    · intro user isUser
      exact clean.feeds user isUser
  | published => exact inv_publish inv clean

/-- Where the invariant holds, a step sends only to readers. -/
theorem obeys_of_inv (input : Input) (inv : Inv state) : Obeys config state input := by
  intro frame isSent
  cases input with
  | serve place =>
    simp only [sent] at isSent
    cases found : state.groupSockets[place]? with
    | none => cases found ▸ isSent
    | some group =>
      rw [found, Option.mem_toList] at isSent
      obtain ⟨event, forwarded, rfl⟩ := Option.map_eq_some_iff.mp isSent
      have entitled := inv.groups group (List.mem_of_getElem? found)
      cases isSocket : group.socket with
      | none => cases turn_of_none isSocket ▸ forwarded
      | some socket =>
        rw [turn_of_some isSocket] at forwarded
        have pending := (serve_spec config.groupBufferSize socket).2 event forwarded
        have sameGroup := entitled.channel socket isSocket event pending
        rw [sameGroup]
        exact entitled.reads socket isSocket (List.ne_nil_of_mem pending)
  | userServe place =>
    simp only [sent] at isSent
    cases found : state.userSockets[place]? with
    | none => cases found ▸ isSent
    | some user =>
      rw [found, Option.mem_toList] at isSent
      obtain ⟨groupId, isGroup, rfl⟩ := Option.map_eq_some_iff.mp isSent
      obtain ⟨event, forwarded, isGroup⟩ := Option.bind_eq_some_iff.mp isGroup
      have entitled := inv.users user (List.mem_of_getElem? found)
      cases isFeed : user.feedRx with
      | none => cases userTurn_of_none isFeed ▸ forwarded
      | some feedRx =>
        rw [userTurn_of_some isFeed] at forwarded
        obtain ⟨received, allowed⟩ := Option.filter_eq_some_iff.mp forwarded
        have pending := (recv_spec config.userFeedBufferSize feedRx).2 event received
        rw [UserFeedEvent.matchesWallet_group isGroup] at allowed
        exact entitled feedRx isFeed event pending groupId isGroup allowed
  | _ => cases isSent

end Steps

/-! ## Runs -/

theorem inv_start (membership : MembershipStore) : Inv (start membership) :=
  ⟨fun _ isGroup => absurd isGroup List.not_mem_nil, fun _ isUser => absurd isUser List.not_mem_nil⟩

/-- A relayer that accepts the zkLogin proof of its samples. -/
def sampleConfig : Config where
  crates :=
    { parseSignature := fun _ => .ok ()
      verifyPersonalMessage := fun _ _ => .error "no keypair signed"
      blake2b256 := fun _ => List.replicate 32 0
      verifyZklogin := fun _ _ _ => .ok (.ed25519, List.replicate 32 7) }
  sync := { systemObjectAddrs := [], backfillMax := 0, blake2b512 := id }
  realtimeEnabled := true
  requestTtlSeconds := 300
  groupBufferSize := 256
  userFeedBufferSize := 512

/-- Two wallets of group `0x9`, one of them without `MessagingReader`. -/
def sampleMembership : MembershipStore :=
  (MembershipStore.new.addMember "0x9" "0xa" [.messagingReader]).addMember "0x9" "0xb"
    [.messagingSender]

def sampleQuery (groupId : Option String) (wallet : String) : WsAuthQuery where
  groupId := groupId
  senderAddress := some wallet
  timestamp := some 1000
  signature := some "05"
  publicKey := some "05"

/-- A reader opens a socket, gets an event, and is removed once the socket is closed. -/
def sampleRun : List Input :=
  [.upgrade 1000 [] (sampleQuery (some "0x9") "0xa"), .opened 0,
    .published (.typing true "0x9" "0xb" (some 1005)), .serve 0, .closed 0,
    .changed (.groups (.memberRemoved "0x9" "0xa"))]

theorem nonePending_of_empty {state : State} (noGroup : state.groupSockets.isEmpty = true)
    (noUser : state.userSockets.isEmpty = true) :
    NonePending membership state := by
  rw [List.isEmpty_iff] at noGroup noUser
  constructor
  · rw [noGroup]
    exact fun group isGroup => absurd isGroup List.not_mem_nil
  · rw [noUser]
    exact fun user isUser => absurd isUser List.not_mem_nil

end RealtimeDelivery

end MessagingStack.Relayer

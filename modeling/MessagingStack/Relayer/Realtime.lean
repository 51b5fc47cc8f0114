import MessagingStack.Relayer.Response

/-!
# The sockets of a group

`services/realtime/mod.rs` fans the events of a group out through a broadcast channel, and
`handlers/ws.rs` serves each group socket from a receiver of that channel.  A receiver sees what
is sent after it subscribed, and loses the oldest events when it lags behind the buffer.  The
socket drops the messages up to a watermark, which each message that it forwards moves.
-/

namespace MessagingStack.Relayer

/-- Events fanned out to local WebSocket connections. -/
inductive RealtimeEvent where
  | messageCreated (message : MessageResponse)
  | messageDeleted (message : MessageResponse)
  | messageEdited (message : MessageResponse)
  | reactionUpdated (groupId : String) (chainSeq : Int) (emoji : String) (count : Int)
      (reactors : List String)
  | typing (started : Bool) (groupId member : String) (expiresAt : Option Int)
  | presenceUpdated (groupId member : String) (online : Bool)
  | receiptUpdated (groupId member : String) (deliveredUpto readUpto : Int)

/-- The order of the row that an event brings. -/
def RealtimeEvent.created : RealtimeEvent → Option Int
  | .messageCreated message => some message.order
  | _ => none

/-- What `recv` returns on a channel with events. -/
inductive Received where
  | event (event : RealtimeEvent)
  | lagged (skipped : Nat)

structure Receiver where
  pending : List RealtimeEvent

/-- `recv`: a receiver that lags goes on at the oldest event of the buffer. -/
def Receiver.recv (bufferSize : Nat) (receiver : Receiver) : Option (Received × Receiver) :=
  if receiver.pending.length > bufferSize then
    let skipped := receiver.pending.length - bufferSize
    some (.lagged skipped, ⟨receiver.pending.drop skipped⟩)
  else
    match receiver.pending with
    | [] => none
    | event :: rest => some (.event event, ⟨rest⟩)

/-- The state of `handle_socket`. -/
structure Socket where
  hubRx : Receiver
  afterOrder : Int

/-- `handle_socket` begins: it subscribes to the channel of the group. -/
def Socket.subscribe (afterOrder : Int) : Socket where
  hubRx := ⟨[]⟩
  afterOrder := afterOrder

def Socket.publishEvent (socket : Socket) (event : RealtimeEvent) : Socket :=
  { socket with hubRx := ⟨socket.hubRx.pending ++ [event]⟩ }

/-- A turn of the loop of `handle_socket` on the channel, and the event that it forwards. -/
def Socket.serve (bufferSize : Nat) (socket : Socket) : Socket × Option RealtimeEvent :=
  match socket.hubRx.recv bufferSize with
  | none => (socket, none)
  | some (.lagged _, hubRx) => ({ socket with hubRx }, none)
  | some (.event (.messageCreated wire), hubRx) =>
    if wire.order ≤ socket.afterOrder then ({ socket with hubRx }, none)
    else ({ hubRx, afterOrder := wire.order }, some (.messageCreated wire))
  | some (.event event, hubRx) => ({ socket with hubRx }, some event)

end MessagingStack.Relayer

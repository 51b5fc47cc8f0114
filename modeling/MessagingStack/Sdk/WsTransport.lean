import MessagingStack.Base.Runs
import MessagingStack.Relayer.Realtime
import MessagingStack.Sdk.Verification

/-!
# The realtime streams of a client

`subscribe` and `subscribeUserEvents` of `relayer/ws-transport.ts` are one machine with different
frames (`Feed`).  Its steps are the events of the socket, the pulls of the consumer, and the
resumptions of the generator.  A stream stops silently exactly if its generator comes to the loop
after the socket has closed (`stream_ends_rightly_iff`).
-/

namespace MessagingStack.Sdk.WsTransport

open Relayer

open Verification (fromWireMessage)

/-! ## Frames -/

inductive GroupFrame where
  | event (event : RealtimeEvent)
  /-- Of another type, or without the field of its type. -/
  | unknown
  | malformed

inductive SubscriptionEvent where
  | messageCreated (message : Verification.RelayerMessage)
  | messageDeleted (message : Verification.RelayerMessage)
  | messageEdited (message : Verification.RelayerMessage)
  | reactionUpdated (groupId : String) (chainSeq : Int) (emoji : String) (count : Int)
      (reactors : List String)
  | typing (started : Bool) (groupId member : String) (expiresAt : Option Int)
  | presenceUpdated (groupId member : String) (online : Bool)
  | receiptUpdated (groupId member : String) (deliveredUpto readUpto : Int)

/-- Parses a group-feed frame into a domain event; `none` also where it throws, as the message
handler ignores both. -/
def parseGroupFrame (afterOrder : Option Int) : GroupFrame → Option SubscriptionEvent
  | .event (.messageCreated wire) =>
    match fromWireMessage wire with
    | none => none
    | some message =>
      if afterOrder.any (message.order ≤ ·) then none else some (.messageCreated message)
  | .event (.messageDeleted wire) => (fromWireMessage wire).map .messageDeleted
  | .event (.messageEdited wire) => (fromWireMessage wire).map .messageEdited
  | .event (.reactionUpdated groupId chainSeq emoji count reactors) =>
    some (.reactionUpdated groupId chainSeq emoji count reactors)
  | .event (.typing started groupId member expiresAt) =>
    some (.typing started groupId member expiresAt)
  | .event (.presenceUpdated groupId member online) => some (.presenceUpdated groupId member online)
  | .event (.receiptUpdated groupId member deliveredUpto readUpto) =>
    some (.receiptUpdated groupId member deliveredUpto readUpto)
  | .unknown | .malformed => none

/-- The order that a message event carries on to the next connection. -/
def SubscriptionEvent.created : SubscriptionEvent → Option Int
  | .messageCreated message => some message.order
  | _ => none

inductive UserFrame where
  | groupActivity (groupId : String) (latestOrder : Int)
  | readStateUpdated (wallet : String) (blobVersion : Int)
  | receiptUpdated (groupId member : String) (deliveredUpto readUpto : Int)
  | groupDiscovered (groupId reason : String)
  | groupHidden (groupId : String)
  | workflowItemCreated (itemId itemType status : String)
  | workflowItemUpdated (itemId itemType status : String)
  | unknown
  | malformed
  deriving DecidableEq

inductive UserEvent where
  | groupActivity (groupId : String) (latestOrder : Int)
  | readStateUpdated (blobVersion : Int)
  | receiptUpdated (groupId member : String) (deliveredUpto readUpto : Int)
  | groupDiscovered (groupId reason : String)
  | groupHidden (groupId : String)
  | workflowItemCreated (itemId itemType status : String)
  | workflowItemUpdated (itemId itemType status : String)
  deriving DecidableEq

def parseUserFrame : UserFrame → Option UserEvent
  | .groupActivity groupId latestOrder => some (.groupActivity groupId latestOrder)
  | .readStateUpdated _ blobVersion => some (.readStateUpdated blobVersion)
  | .receiptUpdated groupId member deliveredUpto readUpto =>
    some (.receiptUpdated groupId member deliveredUpto readUpto)
  | .groupDiscovered groupId reason =>
    some (.groupDiscovered groupId
      (if reason = "created" ∨ reason = "joined" then reason else "invited"))
  | .groupHidden groupId => some (.groupHidden groupId)
  | .workflowItemCreated itemId itemType status =>
    some (.workflowItemCreated itemId itemType status)
  | .workflowItemUpdated itemId itemType status =>
    some (.workflowItemUpdated itemId itemType status)
  | .unknown | .malformed => none

/-- What makes a stream of the machine: how a frame is parsed, given the order from which the
connection was made, and which events move that order on. -/
structure Feed (φ ε : Type) where
  parseFrame : Option Int → φ → Option ε
  created : ε → Option Int

/-- The frames of `subscribe`. -/
def groupFeed : Feed GroupFrame SubscriptionEvent where
  parseFrame := parseGroupFrame
  created := SubscriptionEvent.created

def userFeed : Feed UserFrame UserEvent where
  parseFrame := fun _ => parseUserFrame
  created := fun _ => none

/-! ## The machine -/

/-- Why a connection fails, as `#handleStreamError` tells apart. -/
inductive Failure where
  /-- A 4xx answer, or an error that is not retryable. -/
  | fatal
  | abortError
  | retryable
  deriving DecidableEq

/-- Where the generator is suspended. -/
inductive Position (ε : Type) where
  | start
  /-- At the query with the authentication. -/
  | auth
  | opening (settled : Option (Option Failure))
  /-- At the next event: `resolveNext` is set. -/
  | waiting
  /-- An event is on its way to the consumer, or `STREAM_END` to the loop. -/
  | handed (next : Option ε)
  | busy (event : ε)
  | backoff
  /-- Finished normally. -/
  | done
  /-- Thrown. -/
  | failed (failure : Failure)
  deriving DecidableEq

structure State (ε : Type) where
  position : Position ε
  queue : List ε
  streamEnded : Bool
  isOpen : Bool
  disconnected : Bool
  aborted : Bool
  reconnectAttempt : Nat
  lastOrder : Option Int
  /-- The order from which the connection was made. -/
  afterOrder : Option Int
  /-- The events of all frames accepted on the sockets, and those given to the consumer. -/
  received : List ε
  yielded : List ε
  deriving DecidableEq

/-- What happens to a stream. -/
inductive Input (φ : Type) where
  /-- The consumer asks for the next event. -/
  | pull
  /-- The generator goes on after a settled promise. -/
  | resume
  | authSettles (failure : Option Failure)
  | socketOpens
  | frame (data : φ)
  /-- The error event, or the connect timeout. -/
  | socketFails
  | socketCloses
  | abort
  | disconnect
  deriving DecidableEq

namespace State

variable {φ ε : Type}

/-- The loops end normally: `disconnect` was called or the signal is aborted. -/
def isStopped (state : State ε) : Bool := state.disconnected || state.aborted

def handleStreamError (maxReconnectAttempts : Nat) (state : State ε) (failure : Failure) :
    State ε :=
  let state := { state with isOpen := false }
  if state.isStopped then { state with position := .done }
  else
    match failure with
    | .fatal => { state with position := .failed .fatal }
    | .abortError => { state with position := .done }
    | .retryable =>
      if state.reconnectAttempt + 1 > maxReconnectAttempts then
        { state with position := .failed .retryable }
      else { state with position := .backoff, reconnectAttempt := state.reconnectAttempt + 1 }

/-- The head of the outer loop. -/
def connect (state : State ε) : State ε :=
  if state.isStopped then { state with position := .done }
  else { state with position := .auth, afterOrder := state.lastOrder }

/-- The inner loop, up to where it is suspended or ends. -/
def runLoop (state : State ε) : State ε :=
  if state.isStopped || state.streamEnded then { state with position := .done, isOpen := false }
  else
    match state.queue with
    | event :: rest => { state with position := .handed (some event), queue := rest }
    | [] => { state with position := .waiting }

/-- The close of the socket, and what else settles the promise with `STREAM_END`. -/
def endStream (state : State ε) : State ε :=
  { state with
    position := if state.position matches .waiting then .handed none else state.position
    streamEnded := true }

/-- A socket of this connection is there. -/
def isConnected (state : State ε) : Bool :=
  match state.position with
  | .opening _ | .waiting | .handed _ | .busy _ => true
  | _ => false

end State

section Machine

variable {φ ε : Type}

def step (feed : Feed φ ε) (maxReconnectAttempts : Nat) (state : State ε) : Input φ → State ε
  | .pull =>
    match state.position with
    | .start => state.connect
    | .busy event =>
      let lastOrder :=
        match feed.created event with
        | some order => some order
        | none => state.lastOrder
      State.runLoop { state with lastOrder, reconnectAttempt := 0 }
    | _ => state
  | .resume =>
    match state.position with
    | .opening (some none) => state.runLoop
    | .opening (some (some failure)) => state.handleStreamError maxReconnectAttempts failure
    | .handed (some event) =>
      if state.isStopped then { state with position := .done, isOpen := false }
      else { state with position := .busy event, yielded := state.yielded ++ [event] }
    | .handed none => state.handleStreamError maxReconnectAttempts .retryable
    | .backoff => state.connect
    | _ => state
  | .authSettles failure =>
    match state.position, failure with
    | .auth, some failure => state.handleStreamError maxReconnectAttempts failure
    | .auth, none =>
      if state.disconnected then { state with position := .done }
      else
        { state with
          position := .opening none
          queue := []
          streamEnded := false
          isOpen := false }
    | _, _ => state
  | .socketOpens =>
    match state.position with
    | .opening none =>
      if state.streamEnded || state.disconnected then state
      else { state with position := .opening (some none), isOpen := true }
    | _ => state
  | .frame data =>
    if !state.isOpen then state
    else
      match feed.parseFrame state.afterOrder data with
      | none => state
      | some event =>
        let state := { state with received := state.received ++ [event] }
        match state.position with
        | .waiting => { state with position := .handed (some event) }
        | _ => { state with queue := state.queue ++ [event] }
  | .socketFails =>
    match state.position with
    | .opening none => { state with position := .opening (some (some .retryable)) }
    | _ => state
  | .socketCloses =>
    if !state.isConnected then state
    else
      let state := { state with isOpen := false }
      if state.streamEnded then state else state.endStream
  | .abort =>
    if state.aborted then state
    else
      let state := { state with aborted := true }
      if !state.isConnected then state
      else
        let state := State.endStream { state with isOpen := false }
        match state.position with
        | .opening none => { state with position := .opening (some (some .abortError)) }
        | _ => state
  | .disconnect => { state with disconnected := true, isOpen := false }

/-- A stream that has not begun. -/
def start (afterOrder : Option Int) : State ε where
  position := .start
  queue := []
  streamEnded := false
  isOpen := false
  disconnected := false
  aborted := false
  reconnectAttempt := 0
  lastOrder := afterOrder
  afterOrder := afterOrder
  received := []
  yielded := []

/-- The state a run reaches. -/
def reached (feed : Feed φ ε) (maxReconnectAttempts : Nat) (afterOrder : Option Int)
    (inputs : List (Input φ)) : State ε :=
  inputs.foldl (step feed maxReconnectAttempts) (start afterOrder)

end Machine

/-! ## What a stream promises -/

/-- **The promise of a stream** in a state: what the consumer has is the beginning of what the
socket received, and all of it once the connection is given up; the iterator finishes normally
only if it was stopped, throws only at the bound (or what is not retryable), and does not wait
for a socket that is closed. -/
structure Good {ε : Type} (maxReconnectAttempts : Nat) (state : State ε) : Prop where
  ordered : state.yielded <+: state.received
  complete : state.position = .backoff ∨ state.position = .auth ∨
    (∃ failure, state.position = .failed failure) → state.yielded = state.received
  stopped : state.position = .done → state.isStopped = true
  exceeded : ∀ failure, state.position = .failed failure →
    failure = .fatal ∨ failure = .retryable ∧ maxReconnectAttempts ≤ state.reconnectAttempt
  awake : state.position = .waiting → state.streamEnded = false

/-- A step that does not end the stream by mistake.  The loop is entered, by a consumer that asks
for the next event or at the opening, only while the socket is not closed; and the query with the
authentication does not fail as if it was aborted.  In a stopped stream all this is right. -/
def Clean {φ ε : Type} (state : State ε) : Input φ → Prop
  | .pull => (state.position matches .busy _) = true → state.streamEnded = true →
      state.isStopped = true
  | .resume => (state.position matches .opening (some none)) = true → state.streamEnded = true →
      state.isStopped = true
  | .authSettles failure => (state.position matches .auth) = true → failure = some .abortError →
      state.isStopped = true
  | _ => True

/-! ## What every run keeps -/

section Invariant

variable {φ ε : Type} {maxReconnectAttempts : Nat}

/-- **Nothing is lost or reordered on a living connection.**  What was received is what was given
to the consumer, what is on its way, and the queue, in this order; and where a connection is given
up for another one, or for an error, nothing is left. -/
def Inv (maxReconnectAttempts : Nat) (state : State ε) : Prop :=
  match state.position with
  | .start | .auth | .backoff | .handed none | .opening (some (some _)) =>
    state.isOpen = false ∧ state.received = state.yielded
  | .opening none => state.isOpen = false ∧ state.queue = [] ∧ state.received = state.yielded
  | .opening (some none) => state.received = state.yielded ++ state.queue
  | .waiting => state.streamEnded = false ∧ state.queue = [] ∧ state.received = state.yielded
  | .handed (some event) => state.received = state.yielded ++ event :: state.queue
  | .busy event => event ∈ state.yielded ∧ state.received = state.yielded ++ state.queue
  | .done => state.isOpen = false ∧ state.yielded <+: state.received
  | .failed failure =>
    state.isOpen = false ∧ state.received = state.yielded ∧
      (failure = .fatal ∨ failure = .retryable ∧ maxReconnectAttempts ≤ state.reconnectAttempt)

variable {state : State ε} {input : Input φ} {next : State ε}

theorem Inv.ordered (inv : Inv maxReconnectAttempts state) :
    state.yielded <+: state.received := by
  unfold Inv at inv
  split at inv
  · exact inv.2 ▸ List.prefix_rfl
  · exact inv.2 ▸ List.prefix_rfl
  · exact inv.2 ▸ List.prefix_rfl
  · exact inv.2 ▸ List.prefix_rfl
  · exact inv.2 ▸ List.prefix_rfl
  · exact inv.2.2 ▸ List.prefix_rfl
  · exact inv ▸ List.prefix_append _ _
  · exact inv.2.2 ▸ List.prefix_rfl
  · exact inv ▸ List.prefix_append _ _
  · exact inv.2 ▸ List.prefix_append _ _
  · exact inv.2
  · exact inv.2.1 ▸ List.prefix_rfl

theorem inv_start (afterOrder : Option Int) :
    Inv maxReconnectAttempts (start afterOrder : State ε) := ⟨rfl, rfl⟩

theorem inv_connect (closed : state.isOpen = false) (all : state.received = state.yielded) :
    Inv maxReconnectAttempts state.connect := by
  unfold State.connect
  by_cases stopped : state.isStopped = true
  · rw [if_pos stopped]
    exact ⟨closed, all ▸ List.prefix_rfl⟩
  · rw [if_neg stopped]
    exact ⟨closed, all⟩

theorem inv_handleStreamError {failure : Failure} (all : state.received = state.yielded) :
    Inv maxReconnectAttempts (state.handleStreamError maxReconnectAttempts failure) := by
  have whole : state.yielded <+: state.received := all ▸ List.prefix_rfl
  have same : State.isStopped { state with isOpen := false } = state.isStopped := rfl
  unfold State.handleStreamError
  simp only [same]
  by_cases stopped : state.isStopped = true
  · rw [if_pos stopped]
    exact ⟨rfl, whole⟩
  rw [if_neg stopped]
  cases failure with
  | fatal => exact ⟨rfl, all, .inl rfl⟩
  | abortError => exact ⟨rfl, whole⟩
  | retryable =>
    by_cases exceeded : state.reconnectAttempt + 1 > maxReconnectAttempts
    · simp only [if_pos exceeded]
      exact ⟨rfl, all, .inr ⟨rfl, Nat.lt_succ_iff.mp exceeded⟩⟩
    · simp only [if_neg exceeded]
      exact ⟨rfl, all⟩

theorem inv_runLoop (split : state.received = state.yielded ++ state.queue) :
    Inv maxReconnectAttempts state.runLoop := by
  unfold State.runLoop
  by_cases leaves : (state.isStopped || state.streamEnded) = true
  · rw [if_pos leaves]
    exact ⟨rfl, split ▸ List.prefix_append _ _⟩
  rw [if_neg leaves]
  have running : state.streamEnded = false := by
    by_contra ended
    exact leaves (by simp [Bool.eq_true_of_not_eq_false ended])
  cases isQueue : state.queue with
  | nil =>
    rw [isQueue, List.append_nil] at split
    exact ⟨running, rfl, split⟩
  | cons =>
    rw [isQueue] at split
    exact split

/-- A socket may close, and a stream may be stopped, at any moment. -/
theorem inv_closed {isOpen disconnected aborted : Bool} (inv : Inv maxReconnectAttempts state)
    (closes : state.isOpen = false → isOpen = false) :
    Inv maxReconnectAttempts { state with isOpen, disconnected, aborted } := by
  obtain ⟨position, queue, streamEnded, isOpen', disconnected', aborted', attempt, lastOrder,
    afterOrder, received, yielded⟩ := state
  cases position with
  | opening settled =>
    rcases settled with _ | _ | failure
    · exact ⟨closes inv.1, inv.2⟩
    · exact inv
    · exact ⟨closes inv.1, inv.2⟩
  | handed next =>
    cases next with
    | none => exact ⟨closes inv.1, inv.2⟩
    | some => exact inv
  | waiting | busy event => exact inv
  | start | auth | backoff | done | failed failure => exact ⟨closes inv.1, inv.2⟩

/-- The close handler keeps the invariant, on a socket that is closed. -/
theorem inv_endStream (inv : Inv maxReconnectAttempts state) (closed : state.isOpen = false) :
    Inv maxReconnectAttempts state.endStream := by
  obtain ⟨position, queue, streamEnded, isOpen, disconnected, aborted, attempt, lastOrder,
    afterOrder, received, yielded⟩ := state
  cases position with
  | waiting => exact ⟨closed, inv.2.2⟩
  | opening settled => rcases settled with _ | _ | failure <;> exact inv
  | handed next => cases next <;> exact inv
  | _ => exact inv

theorem inv_step (feed : Feed φ ε) (state : State ε) (input : Input φ)
    (inv : Inv maxReconnectAttempts state) :
    Inv maxReconnectAttempts (step feed maxReconnectAttempts state input) := by
  have here := inv
  cases input with
  | pull =>
    cases place : state.position with
    | start =>
      simp only [Inv, place] at here
      simp only [step, place]
      exact inv_connect here.1 here.2
    | busy =>
      simp only [Inv, place] at here
      simp only [step, place]
      exact inv_runLoop here.2
    | _ => simpa only [step, place] using inv
  | resume =>
    cases place : state.position with
    | opening settled =>
      match settled, place with
      | none, place => simpa only [step, place] using inv
      | some none, place =>
        simp only [Inv, place] at here
        simp only [step, place]
        exact inv_runLoop here
      | some (some failure), place =>
        simp only [Inv, place] at here
        simp only [step, place]
        exact inv_handleStreamError here.2
    | handed next =>
      match next, place with
      | none, place =>
        simp only [Inv, place] at here
        simp only [step, place]
        exact inv_handleStreamError here.2
      | some event, place =>
        simp only [Inv, place] at here
        simp only [step, place]
        by_cases stopped : state.isStopped = true
        · rw [if_pos stopped]
          exact ⟨rfl, here ▸ List.prefix_append _ _⟩
        rw [if_neg stopped]
        refine ⟨List.mem_append_right _ (List.mem_singleton.mpr rfl), ?_⟩
        show state.received = (state.yielded ++ [event]) ++ state.queue
        rw [here, List.append_assoc, List.singleton_append]
    | backoff =>
      simp only [Inv, place] at here
      simp only [step, place]
      exact inv_connect here.1 here.2
    | _ => simpa only [step, place] using inv
  | authSettles failure =>
    cases place : state.position with
    | auth =>
      simp only [Inv, place] at here
      cases failure with
      | none =>
        simp only [step, place]
        by_cases stopped : state.disconnected = true
        · rw [if_pos stopped]
          exact ⟨here.1, here.2 ▸ List.prefix_rfl⟩
        · rw [if_neg stopped]
          exact ⟨rfl, rfl, here.2⟩
      | some =>
        simp only [step, place]
        exact inv_handleStreamError here.2
    | _ => simpa only [step, place] using inv
  | socketOpens =>
    cases place : state.position with
    | opening settled =>
      match settled, place with
      | none, place =>
        simp only [Inv, place] at here
        simp only [step, place]
        split
        · exact inv
        · show state.received = state.yielded ++ state.queue
          rw [here.2.1, List.append_nil, here.2.2]
      | some _, place => simpa only [step, place] using inv
    | _ => simpa only [step, place] using inv
  | frame data =>
    simp only [step]
    by_cases isOpen : state.isOpen = true
    · rw [if_neg (by simp [isOpen])]
      cases feed.parseFrame state.afterOrder data with
      | none => exact inv
      | some event =>
        unfold Inv at inv
        simp only
        cases place : state.position with
        | waiting =>
          simp only [place] at inv
          show state.received ++ [event] = state.yielded ++ event :: state.queue
          rw [inv.2.1, inv.2.2]
        | busy =>
          simp only [place] at inv
          refine ⟨inv.1, ?_⟩
          show state.received ++ [event] = state.yielded ++ (state.queue ++ [event])
          rw [inv.2, List.append_assoc]
        | opening settled =>
          match settled, place with
          | none, place => simp [place, isOpen] at inv
          | some none, place =>
            simp only [place] at inv
            show state.received ++ [event] = state.yielded ++ (state.queue ++ [event])
            rw [inv, List.append_assoc]
          | some (some _), place => simp [place, isOpen] at inv
        | handed next =>
          match next, place with
          | none, place => simp [place, isOpen] at inv
          | some next, place =>
            simp only [place] at inv
            show state.received ++ [event] = state.yielded ++ next :: (state.queue ++ [event])
            rw [inv, List.append_assoc, List.cons_append]
        | _ => simp [place, isOpen] at inv
    · rw [if_pos (by simp [isOpen])]
      exact inv
  | socketFails =>
    cases place : state.position with
    | opening settled =>
      match settled, place with
      | none, place =>
        simp only [Inv, place] at here
        simp only [step, place]
        exact ⟨here.1, here.2.2⟩
      | some _, place => simpa only [step, place] using inv
    | _ => simpa only [step, place] using inv
  | socketCloses =>
    have closed : Inv maxReconnectAttempts { state with isOpen := false } :=
      inv_closed inv fun _ => rfl
    simp only [step]
    split
    · exact inv
    · split
      · exact closed
      · exact inv_endStream closed rfl
  | abort =>
    simp only [step]
    split
    · exact inv
    split
    · exact inv_closed inv id
    have closed : Inv maxReconnectAttempts { state with aborted := true, isOpen := false } :=
      inv_closed inv fun _ => rfl
    have ended := inv_endStream closed rfl
    split
    · rename_i place
      simp only [Inv, place] at ended
      exact ⟨ended.1, ended.2.2⟩
    · exact ended
  | disconnect => exact inv_closed inv fun _ => rfl

theorem inv_reached (feed : Feed φ ε) (afterOrder : Option Int) (inputs : List (Input φ)) :
    Inv maxReconnectAttempts (reached feed maxReconnectAttempts afterOrder inputs) :=
  Along.invariant_reached (inv_step feed) (inv_start afterOrder) inputs

/-! ## What a step does to the log and to the orders -/

@[simp] theorem connect_received (state : State ε) :
    state.connect.received = state.received := by
  unfold State.connect
  split <;> rfl

@[simp] theorem connect_lastOrder (state : State ε) :
    state.connect.lastOrder = state.lastOrder := by
  unfold State.connect
  split <;> rfl

theorem connect_afterOrder (state : State ε) :
    state.connect.afterOrder = state.afterOrder ∨ state.connect.afterOrder = state.lastOrder := by
  unfold State.connect
  split
  · exact .inl rfl
  · exact .inr rfl

@[simp] theorem runLoop_received (state : State ε) :
    state.runLoop.received = state.received := by
  unfold State.runLoop
  split
  · rfl
  · split <;> rfl

@[simp] theorem runLoop_lastOrder (state : State ε) :
    state.runLoop.lastOrder = state.lastOrder := by
  unfold State.runLoop
  split
  · rfl
  · split <;> rfl

@[simp] theorem runLoop_afterOrder (state : State ε) :
    state.runLoop.afterOrder = state.afterOrder := by
  unfold State.runLoop
  split
  · rfl
  · split <;> rfl

@[simp] theorem handleStreamError_received (state : State ε) (failure : Failure) :
    (state.handleStreamError maxReconnectAttempts failure).received = state.received := by
  unfold State.handleStreamError
  cases failure <;> dsimp only <;> split <;> (try split) <;> rfl

@[simp] theorem handleStreamError_lastOrder (state : State ε) (failure : Failure) :
    (state.handleStreamError maxReconnectAttempts failure).lastOrder = state.lastOrder := by
  unfold State.handleStreamError
  cases failure <;> dsimp only <;> split <;> (try split) <;> rfl

@[simp] theorem handleStreamError_afterOrder (state : State ε) (failure : Failure) :
    (state.handleStreamError maxReconnectAttempts failure).afterOrder = state.afterOrder := by
  unfold State.handleStreamError
  cases failure <;> dsimp only <;> split <;> (try split) <;> rfl

/-- The inputs of the surroundings that bring no frame. -/
def Input.isSignal : Input φ → Bool
  | .pull | .resume | .frame _ => false
  | _ => true

/-- Without a frame, and without a turn of the generator, the log and the orders stay. -/
theorem signal_keeps (feed : Feed φ ε) (state : State ε) (isSignal : input.isSignal = true) :
    (step feed maxReconnectAttempts state input).received = state.received ∧
    (step feed maxReconnectAttempts state input).lastOrder = state.lastOrder ∧
    (step feed maxReconnectAttempts state input).afterOrder = state.afterOrder := by
  cases input with
  | pull | resume | frame => cases isSignal
  | authSettles =>
    simp only [step]
    split
    · simp
    · split <;> exact ⟨rfl, rfl, rfl⟩
    · exact ⟨rfl, rfl, rfl⟩
  | socketOpens =>
    simp only [step]
    split
    · split <;> exact ⟨rfl, rfl, rfl⟩
    · exact ⟨rfl, rfl, rfl⟩
  | socketFails =>
    simp only [step]
    split <;> exact ⟨rfl, rfl, rfl⟩
  | socketCloses =>
    simp only [step]
    split
    · exact ⟨rfl, rfl, rfl⟩
    · split <;> exact ⟨rfl, rfl, rfl⟩
  | abort =>
    simp only [step]
    split
    · exact ⟨rfl, rfl, rfl⟩
    · split
      · exact ⟨rfl, rfl, rfl⟩
      · split <;> exact ⟨rfl, rfl, rfl⟩
  | disconnect => exact ⟨rfl, rfl, rfl⟩

theorem step_frame (feed : Feed φ ε) (state : State ε) (data : φ) (maxReconnectAttempts : Nat) :
    (step feed maxReconnectAttempts state (.frame data)).received = state.received ++
      (if state.isOpen then (feed.parseFrame state.afterOrder data).toList else []) ∧
    (step feed maxReconnectAttempts state (.frame data)).lastOrder = state.lastOrder ∧
    (step feed maxReconnectAttempts state (.frame data)).afterOrder = state.afterOrder := by
  cases isOpen : state.isOpen with
  | false => simp [step, isOpen]
  | true =>
    simp only [step, isOpen, Bool.not_true, Bool.false_eq_true, if_false, if_true]
    cases feed.parseFrame state.afterOrder data with
    | none => simp
    | some =>
      simp only [Option.toList_some]
      split <;> exact ⟨rfl, rfl, rfl⟩

theorem received_step (feed : Feed φ ε) (state : State ε) (noFrame : ∀ data, input ≠ .frame data) :
    (step feed maxReconnectAttempts state input).received = state.received := by
  cases input with
  | pull => simp only [step]; split <;> simp
  | resume =>
    simp only [step]
    split <;> try simp
    split <;> rfl
  | frame data => exact absurd rfl (noFrame data)
  | _ => exact (signal_keeps feed state rfl).1

theorem lastOrder_step (feed : Feed φ ε) (input : Input φ) (inv : Inv maxReconnectAttempts state) :
    (step feed maxReconnectAttempts state input).lastOrder = state.lastOrder ∨
    ∃ event ∈ state.yielded, ∃ order, feed.created event = some order ∧
      (step feed maxReconnectAttempts state input).lastOrder = some order := by
  cases input with
  | pull =>
    cases place : state.position with
    | busy event =>
      simp only [Inv, place] at inv
      simp only [step, place, runLoop_lastOrder]
      cases isCreated : feed.created event with
      | none => exact .inl rfl
      | some order => exact .inr ⟨event, inv.1, order, isCreated, rfl⟩
    | start => simp [step, place]
    | _ => simp [step, place]
  | resume =>
    left
    simp only [step]
    split <;> try simp
    split <;> rfl
  | frame data => exact .inl (step_frame feed state data maxReconnectAttempts).2.1
  | _ => exact .inl (signal_keeps feed state rfl).2.1

theorem afterOrder_step (feed : Feed φ ε) (state : State ε) (input : Input φ)
    (maxReconnectAttempts : Nat) :
    (step feed maxReconnectAttempts state input).afterOrder = state.afterOrder ∨
    (step feed maxReconnectAttempts state input).afterOrder = state.lastOrder := by
  cases input with
  | pull =>
    simp only [step]
    split
    · exact connect_afterOrder state
    · simp
    · exact .inl rfl
  | resume =>
    simp only [step]
    split
    · simp
    · simp
    · split <;> exact .inl rfl
    · simp
    · exact connect_afterOrder state
    · exact .inl rfl
  | frame data => exact .inl (step_frame feed state data maxReconnectAttempts).2.2
  | _ => exact .inl (signal_keeps feed state rfl).2.2

/-! ## What clean runs keep -/

/-- A stream that has ended was stopped, or is about to learn that it was. -/
def Ends (state : State ε) : Prop :=
  state.position = .done ∨ state.position = .opening (some (some .abortError)) →
    state.isStopped = true

theorem good_of_inv (inv : Inv maxReconnectAttempts state) (ends : Ends state) :
    Good maxReconnectAttempts state := by
  refine ⟨inv.ordered, ?_, fun isDone => ends (.inl isDone), ?_, ?_⟩
  · intro given
    unfold Inv at inv
    obtain place | place | ⟨failure, place⟩ := given
    · simp only [place] at inv
      exact inv.2.symm
    · simp only [place] at inv
      exact inv.2.symm
    · simp only [place] at inv
      exact inv.2.1.symm
  · intro failure place
    unfold Inv at inv
    simp only [place] at inv
    exact inv.2.2
  intro place
  unfold Inv at inv
  simp only [place] at inv
  exact inv.1

/-- A step that leaves the generator where it is. -/
theorem ends_of_same (ends : Ends state) (place : next.position = state.position)
    (stays : state.isStopped = true → next.isStopped = true) : Ends next := by
  intro isEnd
  rw [place] at isEnd
  exact stays (ends isEnd)

theorem ends_of_other (running : next.position ≠ .done)
    (opening : next.position ≠ .opening (some (some .abortError))) : Ends next := by
  intro isEnd
  rcases isEnd with isDone | isAbort
  · exact absurd isDone running
  · exact absurd isAbort opening

theorem ends_of_stopped (stopped : next.isStopped = true) : Ends next := fun _ => stopped

theorem ends_connect (state : State ε) : Ends state.connect := by
  unfold State.connect
  by_cases stopped : state.isStopped = true
  · rw [if_pos stopped]
    exact ends_of_stopped stopped
  · rw [if_neg stopped]
    exact ends_of_other nofun nofun

theorem ends_handleStreamError {failure : Failure}
    (aborts : failure = .abortError → state.isStopped = true) :
    Ends (state.handleStreamError maxReconnectAttempts failure) := by
  have same : State.isStopped { state with isOpen := false } = state.isStopped := rfl
  unfold State.handleStreamError
  simp only [same]
  by_cases stopped : state.isStopped = true
  · rw [if_pos stopped]
    exact ends_of_stopped stopped
  rw [if_neg stopped]
  cases failure with
  | fatal => exact ends_of_other nofun nofun
  | abortError => exact absurd (aborts rfl) stopped
  | retryable =>
    simp only
    split
    · exact ends_of_other nofun nofun
    · exact ends_of_other nofun nofun

theorem ends_runLoop (closes : state.streamEnded = true → state.isStopped = true) :
    Ends state.runLoop := by
  unfold State.runLoop
  by_cases leaves : (state.isStopped || state.streamEnded) = true
  · have stopped : state.isStopped = true := by
      rcases Bool.or_eq_true_iff.mp leaves with stopped | ended
      · exact stopped
      · exact closes ended
    rw [if_pos leaves]
    exact ends_of_stopped stopped
  · rw [if_neg leaves]
    cases state.queue with
    | nil | cons => exact ends_of_other nofun nofun

theorem ends_endStream (ends : Ends state) : Ends state.endStream := by
  unfold State.endStream
  cases place : state.position with
  | waiting => exact ends_of_other nofun nofun
  | _ => exact ends_of_same ends place.symm id

theorem ends_step (feed : Feed φ ε) (state : State ε) (input : Input φ)
    (ends : Ends state) (clean : Clean state input) :
    Ends (step feed maxReconnectAttempts state input) := by
  cases input with
  | pull =>
    cases place : state.position with
    | start =>
      simp only [step, place]
      exact ends_connect state
    | busy =>
      simp only [step, place]
      exact ends_runLoop fun ended => clean (by simp [place]) ended
    | _ => simpa only [step, place] using ends
  | resume =>
    cases place : state.position with
    | opening settled =>
      match settled, place with
      | none, place => simpa only [step, place] using ends
      | some none, place =>
        simp only [step, place]
        exact ends_runLoop (clean (by simp [place]))
      | some (some failure), place =>
        simp only [step, place]
        exact ends_handleStreamError fun isAbort => ends (.inr (by rw [place, isAbort]))
    | handed next =>
      match next, place with
      | none, place =>
        simp only [step, place]
        exact ends_handleStreamError nofun
      | some event, place =>
        simp only [step, place]
        by_cases stopped : state.isStopped = true
        · rw [if_pos stopped]
          exact ends_of_stopped stopped
        · rw [if_neg stopped]
          exact ends_of_other nofun nofun
    | backoff =>
      simp only [step, place]
      exact ends_connect state
    | _ => simpa only [step, place] using ends
  | authSettles failure =>
    cases place : state.position with
    | auth =>
      cases failure with
      | none =>
        simp only [step, place]
        by_cases stopped : state.disconnected = true
        · rw [if_pos stopped]
          refine ends_of_stopped ?_
          show (state.disconnected || state.aborted) = true
          rw [stopped, Bool.true_or]
        · rw [if_neg stopped]
          exact ends_of_other nofun nofun
      | some =>
        simp only [step, place]
        exact ends_handleStreamError fun isAbort => clean (by simp [place]) (congrArg some isAbort)
    | _ => simpa only [step, place] using ends
  | socketOpens =>
    cases place : state.position with
    | opening settled =>
      cases settled with
      | none =>
        simp only [step, place]
        split
        · exact ends
        · exact ends_of_other nofun nofun
      | some => simpa only [step, place] using ends
    | _ => simpa only [step, place] using ends
  | frame data =>
    simp only [step]
    split
    · exact ends
    cases feed.parseFrame state.afterOrder data with
    | none => exact ends
    | some =>
      simp only
      split
      · exact ends_of_other nofun nofun
      · exact ends_of_same ends rfl id
  | socketFails =>
    cases place : state.position with
    | opening settled =>
      cases settled with
      | none =>
        simp only [step, place]
        exact ends_of_other nofun nofun
      | some => simpa only [step, place] using ends
    | _ => simpa only [step, place] using ends
  | socketCloses =>
    have closed : Ends { state with isOpen := false } := ends_of_same ends rfl id
    simp only [step]
    split
    · exact ends
    · split
      · exact closed
      · exact ends_endStream closed
  | abort =>
    simp only [step]
    split
    · exact ends
    split
    · exact ends_of_stopped (Bool.or_true _)
    · split
      · exact ends_of_stopped (Bool.or_true _)
      · exact ends_of_stopped (Bool.or_true _)
  | disconnect => exact ends_of_stopped (Bool.true_or _)

/-! ## When the promise is kept -/

theorem runLoop_ended (state : State ε) (ended : state.streamEnded = true) :
    state.runLoop.position = .done ∧ state.runLoop.isStopped = state.isStopped := by
  unfold State.runLoop
  rw [ended, Bool.or_true, if_pos rfl]
  exact ⟨rfl, rfl⟩

theorem handleStreamError_abortError (maxReconnectAttempts : Nat) (state : State ε) :
    (state.handleStreamError maxReconnectAttempts .abortError).position = .done ∧
      (state.handleStreamError maxReconnectAttempts .abortError).isStopped = state.isStopped := by
  unfold State.handleStreamError
  constructor <;> dsimp only <;> split <;> rfl

theorem fails_of_unclean (feed : Feed φ ε) (unclean : ¬Clean state input) :
    ¬Good maxReconnectAttempts (step feed maxReconnectAttempts state input) := by
  intro good
  cases input with
  | pull =>
    simp only [Clean, Classical.not_imp] at unclean
    obtain ⟨isBusy, ended, running⟩ := unclean
    cases place : state.position with
    | busy event =>
      have next : ∀ lastOrder : Option Int, State.isStopped
          { state with lastOrder, reconnectAttempt := 0 } = state.isStopped := fun _ => rfl
      have stopped := good.stopped
      simp only [step, place] at stopped
      obtain ⟨isDone, same⟩ := runLoop_ended { state with
        lastOrder :=
          match feed.created event with
          | some order => some order
          | none => state.lastOrder
        reconnectAttempt := 0 } ended
      exact running ((next _).symm.trans (same.symm.trans (stopped isDone)))
    | _ => simp [place] at isBusy
  | resume =>
    simp only [Clean, Classical.not_imp] at unclean
    obtain ⟨isOpening, ended, running⟩ := unclean
    cases place : state.position with
    | opening settled =>
      match settled, place with
      | some none, place =>
        have stopped := good.stopped
        simp only [step, place] at stopped
        obtain ⟨isDone, same⟩ := runLoop_ended state ended
        exact running (same.symm.trans (stopped isDone))
      | none, place => simp [place] at isOpening
      | some (some _), place => simp [place] at isOpening
    | _ => simp [place] at isOpening
  | authSettles =>
    simp only [Clean, Classical.not_imp] at unclean
    obtain ⟨isAuth, isAbort, running⟩ := unclean
    cases place : state.position with
    | auth =>
      have stopped := good.stopped
      simp only [step, place, isAbort] at stopped
      obtain ⟨isDone, same⟩ := handleStreamError_abortError maxReconnectAttempts state
      exact running (same.symm.trans (stopped isDone))
    | _ => simp [place] at isAuth
  | _ => exact unclean trivial

/-- The stream keeps its promise at every moment of exactly the clean runs. -/
theorem good_iff_clean (feed : Feed φ ε) (afterOrder : Option Int) (inputs : List (Input φ)) :
    (∀ before, before <+: inputs →
      Good maxReconnectAttempts (reached feed maxReconnectAttempts afterOrder before)) ↔
    Along (step feed maxReconnectAttempts) Clean (start afterOrder) inputs := by
  constructor
  · intro good
    by_contra unclean
    obtain ⟨before, input, after, rfl, -, isUnclean⟩ := Along.exists_first_failure unclean
    have next := good (before ++ [input]) ⟨after, by simp⟩
    rw [reached, List.foldl_append] at next
    exact fails_of_unclean feed isUnclean next
  rintro clean before ⟨after, rfl⟩
  obtain ⟨cleanBefore, -⟩ := (Along.append _ before after).mp clean
  have inv : Inv maxReconnectAttempts (reached feed maxReconnectAttempts afterOrder before) :=
    inv_reached feed afterOrder before
  have begins : Ends (start afterOrder : State ε) := ends_of_other nofun nofun
  exact good_of_inv inv (Along.invariant (ends_step feed) cleanBefore begins)

end Invariant

/-- **When the streams lose no frame and never stop silently.**  Over any run of socket events,
pulls and stops, and any number of reconnects: `subscribe` and `subscribeUserEvents` keep the
promise at every moment if and only if the loop is never entered after the close of the socket. -/
theorem stream_ends_rightly_iff (maxReconnectAttempts : Nat) :
    (∀ (afterOrder : Option Int) (inputs : List (Input GroupFrame)),
      (∀ before, before <+: inputs →
        Good maxReconnectAttempts (reached groupFeed maxReconnectAttempts afterOrder before)) ↔
      Along (step groupFeed maxReconnectAttempts) Clean (start afterOrder) inputs) ∧
    (∀ inputs : List (Input UserFrame),
      (∀ before, before <+: inputs →
        Good maxReconnectAttempts (reached userFeed maxReconnectAttempts none before)) ↔
      Along (step userFeed maxReconnectAttempts) Clean (start none) inputs) :=
  ⟨good_iff_clean groupFeed, good_iff_clean userFeed none⟩

/-- The socket closes while the consumer holds the first of two frames: the stream ends, with
nobody having stopped it, and the second frame is lost. -/
theorem busy_close_ends :
    let lost : State UserEvent := reached userFeed 5 none
      [.pull, .authSettles none, .socketOpens, .resume, .frame (.groupHidden "0xa"), .resume,
        .frame (.groupHidden "0xb"), .socketCloses, .pull]
    (lost.position = .done ∧ lost.isStopped = false ∧
      lost.received = [.groupHidden "0xa", .groupHidden "0xb"] ∧
      lost.yielded = [.groupHidden "0xa"]) ∧
    ¬Good 5 lost := by
  refine ⟨by decide, fun good => ?_⟩
  exact absurd (good.stopped (by decide)) (by decide)

end MessagingStack.Sdk.WsTransport

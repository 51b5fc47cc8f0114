import MessagingStack.Base.Runs
import MessagingStack.Sdk.SnapshotStore

/-!
# Working under a lease

`withHostedMlsStore` of `mls/hosted-store.ts`: it takes the lease of a hosted device, opens the
blob that the lease server keeps, runs `fn` on the store, writes the store through a chain of
flushes, and releases the lease.
-/

namespace MessagingStack.Sdk.HostedStore

variable {Ciphertext : Type}

/-! ## The lease server -/

/-- The token of a lease, a serial number: `crypto.randomUUID` repeats none. -/
abbrev Token := Nat

/-- The lease table of a device. -/
structure LeaseServer (Ciphertext : Type) where
  token : Option Token
  version : Nat
  blob : Option (Blob Ciphertext)
  nextToken : Token

/-- What `acquire` answers. -/
structure Lease (Ciphertext : Type) where
  token : Token
  version : Nat
  blob : Option (Blob Ciphertext)

namespace LeaseServer

def acquire (server : LeaseServer Ciphertext) :
    LeaseServer Ciphertext × Option (Lease Ciphertext) :=
  match server.token with
  | some _ => (server, none)
  | none =>
    ({ server with token := some server.nextToken, nextToken := server.nextToken + 1 },
      some ⟨server.nextToken, server.version, server.blob⟩)

def write (server : LeaseServer Ciphertext) (token : Token) (expected : Nat)
    (blob : Blob Ciphertext) : LeaseServer Ciphertext × Option Nat :=
  if server.token = some token ∧ expected = server.version then
    ({ server with version := server.version + 1, blob := some blob }, some (server.version + 1))
  else (server, none)

def renew (server : LeaseServer Ciphertext) (token : Token) : Bool := server.token = some token

def release (server : LeaseServer Ciphertext) (token : Token) : LeaseServer Ciphertext :=
  if server.token = some token then { server with token := none } else server

end LeaseServer

/-! ## The call -/

inductive Outcome where
  | resolved
  | rejected
  deriving DecidableEq

/-- Where `withHostedMlsStore` stands. -/
inductive Stage where
  /-- It awaits `acquire`. -/
  | acquiring
  /-- The device is busy: it waits to ask again. -/
  | waiting
  | opening
  /-- It awaits `fn`. -/
  | working
  /-- It awaits the last flush. -/
  | flushing
  /-- It awaits `flushing.catch`, that is the flushes asked for by then. -/
  | cleaning (outcome : Outcome) (asked : Nat)
  /-- It awaits `release`. -/
  | releasing (outcome : Outcome)
  | settled (outcome : Outcome)
  deriving DecidableEq

/-- What awaits a flush. -/
inductive Waiter where
  | save (moment : Nat) (device : DeviceState)
  | clear
  /-- The flush after `fn`. -/
  | last
  deriving DecidableEq

/-- The callback of the chain that is running, and the snapshot that it has taken. -/
structure Flush where
  waiter : Waiter
  moment : Nat
  snapshot : Snapshot
  /-- It has sealed the snapshot and asked the server. -/
  writing : Bool

/-- A `write` on its way to the server. -/
structure Request (Ciphertext : Type) where
  token : Token
  expected : Nat
  blob : Blob Ciphertext
  moment : Nat
  snapshot : Snapshot
  serial : Nat

/-- A write that the server has accepted. -/
structure Accepted (Ciphertext : Type) where
  version : Nat
  blob : Blob Ciphertext
  moment : Nat
  snapshot : Snapshot
  serial : Nat

/-- The server, the local variables of the call, and what has happened so far. -/
structure State (Ciphertext : Type) where
  server : LeaseServer Ciphertext
  stage : Stage
  lease : Option (Lease Ciphertext)
  version : Nat
  /-- There is a store, and `onWrite` and the timer are set. -/
  opened : Bool
  store : Snapshot
  lost : Bool
  dirty : Bool
  /-- `flushing` has rejected, and with it every flush to come. -/
  broken : Bool
  /-- The flushes that `flushing` has still to run. -/
  queue : List Waiter
  running : Option Flush
  /-- How many flushes have been asked for. -/
  asked : Nat
  request : Option (Request Ciphertext)
  /-- The server's answer on its way back. -/
  reply : Option (Option Nat)
  /-- The states that the store has left, oldest first. -/
  earlier : List Snapshot
  /-- The moment of the last snapshot that a flush has taken. -/
  snapshotAt : Nat
  accepted : List (Accepted Ciphertext)
  /-- How many writes have been asked for. -/
  issued : Nat
  /-- The write that was refused or failed. -/
  failed : Option Nat
  /-- The calls of `saveDevice` that have resolved. -/
  saves : List (Nat × DeviceState)
  releaseAsked : Bool
  /-- The lease ended otherwise than by its release. -/
  leaseLost : Bool

/-- What may happen next. -/
inductive Input (Ciphertext : Type) where
  /-- `acquire` answers; `late` is whether the deadline has passed. -/
  | acquireAnswered (late : Bool)
  | acquireFails
  /-- The pause of the loop is over. -/
  | waited
  /-- `open` and `fromBytes` finish. -/
  | opens
  | call (call : StoreCall)
  | fnReturns
  | fnThrows
  /-- The next callback of the chain runs. -/
  | flushTurn
  | seals (nonce : Bytes)
  | sealFails
  /-- The write reaches the server. -/
  | writeArrives
  /-- Its answer reaches the call. -/
  | writeAnswered
  /-- The write rejects, whether it has reached the server, will yet, or never does. -/
  | writeFails
  | renewAnswered
  /-- `flushing.catch` is through. -/
  | cleaned
  /-- `release` is answered or rejects. -/
  | released (arrives : Bool)
  | expires
  | otherAcquires
  | otherWrites (blob : Blob Ciphertext)
  | otherReleases

namespace State

def states (state : State Ciphertext) : List Snapshot := state.earlier ++ [state.store]

def moment (state : State Ciphertext) : Nat := state.earlier.length

/-- The flush resolves, and what awaits it goes on. -/
def resolve (state : State Ciphertext) : Waiter → State Ciphertext
  | .save moment device => { state with saves := state.saves ++ [(moment, device)] }
  | .clear => state
  | .last => { state with stage := .cleaning .resolved state.asked }

/-- The chain rejects, with all that await a flush of it. -/
def reject (state : State Ciphertext) (waiters : List Waiter) : State Ciphertext :=
  { state with
    broken := true
    queue := []
    running := none
    stage := if .last ∈ waiters then .cleaning .rejected state.asked else state.stage }

def flush (state : State Ciphertext) (waiter : Waiter) : State Ciphertext :=
  if state.broken then state.reject [waiter]
  else { state with queue := state.queue ++ [waiter], asked := state.asked + 1 }

/-- What awaits the flush of a critical call. -/
def waiterOf (state : State Ciphertext) : StoreCall → Waiter
  | .saveDevice device => .save state.moment device
  | _ => .clear

/-- The store changes, before `onWrite` is called. -/
def change (state : State Ciphertext) (store : Snapshot) : State Ciphertext :=
  { state with store, earlier := state.states }

def onWrite (state : State Ciphertext) (call : StoreCall) : State Ciphertext :=
  if state.lost then state
  else if call.critical then { state with dirty := true }.flush (state.waiterOf call)
  else { state with dirty := true }

/-- The flushes of the chain that have not settled. -/
def pending (state : State Ciphertext) : Nat :=
  state.queue.length + if state.running.isSome then 1 else 0

end State

section Step

variable (key : SealKey Ciphertext) (maxRowsPerGroup : Nat)

def step (state : State Ciphertext) : Input Ciphertext → State Ciphertext
  | .acquireAnswered late =>
    match state.stage with
    | .acquiring =>
      match state.server.acquire with
      | (server, some lease) =>
        { state with server, lease := some lease, version := lease.version, stage := .opening }
      | (_, none) => { state with stage := if late then .settled .rejected else .waiting }
    | _ => state
  | .acquireFails =>
    match state.stage with
    | .acquiring => { state with stage := .settled .rejected }
    | _ => state
  | .waited =>
    match state.stage with
    | .waiting => { state with stage := .acquiring }
    | _ => state
  | .opens =>
    match state.stage, state.lease with
    | .opening, some lease =>
      match key.restore lease.blob with
      -- the `try` has not begun: nothing releases the lease
      | none => { state with stage := .settled .rejected }
      | some store => { state with stage := .working, opened := true, store }
    | _, _ => state
  | .call call =>
    if state.opened then (state.change (call.apply maxRowsPerGroup state.store)).onWrite call
    else state
  | .fnReturns =>
    match state.stage with
    | .working => { state with stage := .flushing }.flush .last
    | _ => state
  | .fnThrows =>
    match state.stage with
    | .working => { state with stage := .cleaning .rejected state.asked }
    | _ => state
  | .flushTurn =>
    match state.running, state.queue with
    | none, waiter :: rest =>
      if state.lost then state.reject (waiter :: rest)
      else if state.dirty then
        { state with
          queue := rest
          dirty := false
          running := some ⟨waiter, state.moment, state.store, false⟩
          snapshotAt := state.moment }
      else { state with queue := rest }.resolve waiter
    | _, _ => state
  | .seals nonce =>
    match state.running, state.lease with
    | some flush, some lease =>
      if flush.writing then state
      else
        { state with
          running := some { flush with writing := true }
          issued := state.issued + 1
          request := some
            { token := lease.token
              expected := state.version
              blob := key.seal nonce flush.snapshot.toBytes
              moment := flush.moment
              snapshot := flush.snapshot
              serial := state.issued + 1 } }
    | _, _ => state
  | .sealFails =>
    match state.running with
    | some flush => if flush.writing then state else state.reject (flush.waiter :: state.queue)
    | none => state
  | .writeArrives =>
    match state.request with
    | some request =>
      match state.server.write request.token request.expected request.blob with
      | (server, some version) =>
        { state with
          server
          request := none
          reply := some (some version)
          accepted := state.accepted ++
            [⟨version, request.blob, request.moment, request.snapshot, request.serial⟩] }
      | (_, none) =>
        { state with request := none, reply := some none, failed := some request.serial }
    | none => state
  | .writeAnswered =>
    match state.running, state.reply with
    | some flush, some (some version) =>
      { state with version, running := none, reply := none }.resolve flush.waiter
    | some flush, some none =>
      { state with lost := true, reply := none }.reject (flush.waiter :: state.queue)
    | _, _ => state
  | .writeFails =>
    match state.running with
    | some flush =>
      if flush.writing then
        { state with failed := some state.issued, reply := none }.reject
          (flush.waiter :: state.queue)
      else state
    | none => state
  | .renewAnswered =>
    match state.opened, state.lease with
    | true, some lease =>
      if state.server.renew lease.token then state else { state with lost := true }
    | _, _ => state
  | .cleaned =>
    match state.stage with
    | .cleaning outcome asked =>
      if state.broken ∨ asked + state.pending ≤ state.asked then
        if state.lost then { state with stage := .settled outcome }
        else { state with stage := .releasing outcome, releaseAsked := true }
      else state
    | _ => state
  | .released arrives =>
    match state.stage, state.lease with
    | .releasing outcome, some lease =>
      { state with
        server := if arrives then state.server.release lease.token else state.server
        stage := .settled outcome }
    | _, _ => state
  | .expires =>
    { state with
      server := { state.server with token := none }
      leaseLost := state.leaseLost ||
        (state.lease.isSome && state.server.token == state.lease.map (·.token)) }
  | .otherAcquires => { state with server := state.server.acquire.1 }
  | .otherWrites blob =>
    if state.server.token.isSome ∧ state.server.token ≠ state.lease.map (·.token) then
      { state with
        server := { state.server with version := state.server.version + 1, blob := some blob } }
    else state
  | .otherReleases =>
    if state.server.token ≠ state.lease.map (·.token) then
      { state with server := { state.server with token := none } }
    else state

end Step

/-- Nothing has happened. -/
def start : State Ciphertext where
  server := ⟨none, 0, none, 0⟩
  stage := .acquiring
  lease := none
  version := 0
  opened := false
  store := Snapshot.empty
  lost := false
  dirty := false
  broken := false
  queue := []
  running := none
  asked := 0
  request := none
  reply := none
  earlier := []
  snapshotAt := 0
  accepted := []
  issued := 0
  failed := none
  saves := []
  releaseAsked := false
  leaseLost := false

def reached (key : SealKey Ciphertext) (maxRowsPerGroup : Nat)
    (inputs : List (Input Ciphertext)) : State Ciphertext :=
  inputs.foldl (step key maxRowsPerGroup) start

/-! ## What a step can do -/

section Move

variable (key : SealKey Ciphertext) (maxRowsPerGroup : Nat)

def after (state : State Ciphertext) (call : StoreCall) : State Ciphertext :=
  state.change (call.apply maxRowsPerGroup state.store)

/-- **What a step can do**, with what it needs. -/
inductive Move (state : State Ciphertext) : Input Ciphertext → State Ciphertext → Prop where
  | stays (input : Input Ciphertext) : Move state input state
  | acquires (late : Bool) :
    state.stage = .acquiring → state.server.token = none →
    Move state (.acquireAnswered late)
      { state with
        server := { state.server with
          token := some state.server.nextToken, nextToken := state.server.nextToken + 1 }
        lease := some ⟨state.server.nextToken, state.server.version, state.server.blob⟩
        version := state.server.version
        stage := .opening }
  | busy (input : Input Ciphertext) (next : Stage) :
    state.stage = .acquiring ∨ state.stage = .waiting →
    next = .acquiring ∨ next = .waiting ∨ next = .settled .rejected →
    Move state input { state with stage := next }
  | openFails (lease : Lease Ciphertext) :
    state.stage = .opening → state.lease = some lease → key.restore lease.blob = none →
    Move state .opens { state with stage := .settled .rejected }
  | opened (lease : Lease Ciphertext) (store : Snapshot) :
    state.stage = .opening → state.lease = some lease → key.restore lease.blob = some store →
    Move state .opens { state with stage := .working, opened := true, store }
  | calledLost (call : StoreCall) :
    state.opened = true → state.lost = true →
    Move state (.call call) (after maxRowsPerGroup state call)
  | called (call : StoreCall) :
    state.opened = true → state.lost = false → call.critical = false →
    Move state (.call call) { after maxRowsPerGroup state call with dirty := true }
  | calledBroken (call : StoreCall) :
    state.opened = true → state.lost = false → call.critical = true → state.broken = true →
    Move state (.call call)
      ({ after maxRowsPerGroup state call with dirty := true }.reject
        [(after maxRowsPerGroup state call).waiterOf call])
  | calledFlush (call : StoreCall) :
    state.opened = true → state.lost = false → call.critical = true → state.broken = false →
    Move state (.call call)
      { after maxRowsPerGroup state call with
        dirty := true
        queue := state.queue ++ [(after maxRowsPerGroup state call).waiterOf call]
        asked := state.asked + 1 }
  | returns :
    state.stage = .working → state.broken = false →
    Move state .fnReturns
      { state with
        stage := .flushing
        queue := state.queue ++ [.last]
        asked := state.asked + 1 }
  | returnsBroken :
    state.stage = .working → state.broken = true →
    Move state .fnReturns ({ state with stage := .flushing }.reject [.last])
  | throws :
    state.stage = .working →
    Move state .fnThrows { state with stage := .cleaning .rejected state.asked }
  | turnLost (waiter : Waiter) (rest : List Waiter) :
    state.running = none → state.queue = waiter :: rest → state.lost = true →
    Move state .flushTurn (state.reject (waiter :: rest))
  | turnWrites (waiter : Waiter) (rest : List Waiter) :
    state.running = none → state.queue = waiter :: rest → state.lost = false →
    state.dirty = true →
    Move state .flushTurn
      { state with
        queue := rest
        dirty := false
        running := some ⟨waiter, state.moment, state.store, false⟩
        snapshotAt := state.moment }
  | turnClean (waiter : Waiter) (rest : List Waiter) :
    state.running = none → state.queue = waiter :: rest → state.lost = false →
    state.dirty = false →
    Move state .flushTurn ({ state with queue := rest }.resolve waiter)
  | seals (flush : Flush) (lease : Lease Ciphertext) (nonce : Bytes) :
    state.running = some flush → state.lease = some lease → flush.writing = false →
    Move state (.seals nonce)
      { state with
        running := some { flush with writing := true }
        issued := state.issued + 1
        request := some
          { token := lease.token
            expected := state.version
            blob := key.seal nonce flush.snapshot.toBytes
            moment := flush.moment
            snapshot := flush.snapshot
            serial := state.issued + 1 } }
  | sealFails (flush : Flush) :
    state.running = some flush → flush.writing = false →
    Move state .sealFails (state.reject (flush.waiter :: state.queue))
  | accepts (request : Request Ciphertext) :
    state.request = some request → state.server.token = some request.token →
    request.expected = state.server.version →
    Move state .writeArrives
      { state with
        server := { state.server with
          version := state.server.version + 1, blob := some request.blob }
        request := none
        reply := some (some (state.server.version + 1))
        accepted := state.accepted ++
          [⟨state.server.version + 1, request.blob, request.moment, request.snapshot,
            request.serial⟩] }
  | refuses (request : Request Ciphertext) :
    state.request = some request →
    ¬(state.server.token = some request.token ∧ request.expected = state.server.version) →
    Move state .writeArrives
      { state with request := none, reply := some none, failed := some request.serial }
  | answered (flush : Flush) (version : Nat) :
    state.running = some flush → state.reply = some (some version) →
    Move state .writeAnswered
      ({ state with version, running := none, reply := none }.resolve flush.waiter)
  | answeredLost (flush : Flush) :
    state.running = some flush → state.reply = some none →
    Move state .writeAnswered
      ({ state with lost := true, reply := none }.reject (flush.waiter :: state.queue))
  | writeFails (flush : Flush) :
    state.running = some flush → flush.writing = true →
    Move state .writeFails
      ({ state with failed := some state.issued, reply := none }.reject
        (flush.waiter :: state.queue))
  | renewLost (lease : Lease Ciphertext) :
    state.opened = true → state.lease = some lease → state.server.token ≠ some lease.token →
    Move state .renewAnswered { state with lost := true }
  | cleanedLost (outcome : Outcome) (asked : Nat) :
    state.stage = .cleaning outcome asked → state.lost = true →
    Move state .cleaned { state with stage := .settled outcome }
  | cleaned (outcome : Outcome) (asked : Nat) :
    state.stage = .cleaning outcome asked → state.lost = false →
    Move state .cleaned { state with stage := .releasing outcome, releaseAsked := true }
  | released (outcome : Outcome) (lease : Lease Ciphertext) (arrives : Bool) :
    state.stage = .releasing outcome → state.lease = some lease →
    Move state (.released arrives)
      { state with
        server := if arrives then state.server.release lease.token else state.server
        stage := .settled outcome }
  | expires :
    Move state .expires
      { state with
        server := { state.server with token := none }
        leaseLost := state.leaseLost ||
          (state.lease.isSome && state.server.token == state.lease.map (·.token)) }
  | otherAcquires :
    state.server.token = none →
    Move state .otherAcquires
      { state with server := { state.server with
        token := some state.server.nextToken, nextToken := state.server.nextToken + 1 } }
  | otherWrites (blob : Blob Ciphertext) :
    state.server.token.isSome → state.server.token ≠ state.lease.map (·.token) →
    Move state (.otherWrites blob)
      { state with
        server := { state.server with version := state.server.version + 1, blob := some blob } }
  | otherReleases :
    state.server.token ≠ state.lease.map (·.token) →
    Move state .otherReleases { state with server := { state.server with token := none } }

theorem step_moves (state : State Ciphertext) (input : Input Ciphertext) :
    Move key maxRowsPerGroup state input (step key maxRowsPerGroup state input) := by
  cases input with
  | acquireAnswered late =>
    rw [step.eq_def]
    dsimp only
    split
    · rename_i isAcquiring
      rw [LeaseServer.acquire]
      cases free : state.server.token with
      | none => exact .acquires late isAcquiring free
      | some =>
        refine .busy _ _ (.inl isAcquiring) ?_
        cases late
        · exact .inr (.inl rfl)
        · exact .inr (.inr rfl)
    · exact .stays _
  | acquireFails =>
    rw [step.eq_def]
    dsimp only
    split
    · rename_i isAcquiring
      exact .busy _ _ (.inl isAcquiring) (.inr (.inr rfl))
    · exact .stays _
  | waited =>
    rw [step.eq_def]
    dsimp only
    split
    · rename_i isWaiting
      exact .busy _ _ (.inr isWaiting) (.inl rfl)
    · exact .stays _
  | opens =>
    rw [step.eq_def]
    dsimp only
    split
    · rename_i lease isOpening isLease
      split
      · rename_i isBad
        exact .openFails lease isOpening isLease isBad
      · rename_i store restored
        exact .opened lease store isOpening isLease restored
    · exact .stays _
  | call call =>
    rw [step.eq_def]
    dsimp only
    split
    · rename_i isOpened
      rw [State.onWrite]
      split
      · rename_i isLost
        exact .calledLost call isOpened isLost
      rename_i notLost
      have kept : state.lost = false := Bool.eq_false_iff.mpr notLost
      split
      · rename_i isCritical
        rw [State.flush]
        split
        · rename_i isBroken
          exact .calledBroken call isOpened kept isCritical isBroken
        · rename_i notBroken
          exact .calledFlush call isOpened kept isCritical (Bool.eq_false_iff.mpr notBroken)
      · rename_i notCritical
        exact .called call isOpened kept (Bool.eq_false_iff.mpr notCritical)
    · exact .stays _
  | fnReturns =>
    rw [step.eq_def]
    dsimp only
    split
    · rename_i isWorking
      rw [State.flush]
      split
      · rename_i isBroken
        exact .returnsBroken isWorking isBroken
      · rename_i notBroken
        exact .returns isWorking (Bool.eq_false_iff.mpr notBroken)
    · exact .stays _
  | fnThrows =>
    rw [step.eq_def]
    dsimp only
    split
    · rename_i isWorking
      exact .throws isWorking
    · exact .stays _
  | flushTurn =>
    rw [step.eq_def]
    dsimp only
    split
    · rename_i waiter rest isIdle isNext
      split
      · rename_i isLost
        exact .turnLost waiter rest isIdle isNext isLost
      rename_i notLost
      have kept : state.lost = false := Bool.eq_false_iff.mpr notLost
      split
      · rename_i isDirty
        exact .turnWrites waiter rest isIdle isNext kept isDirty
      · rename_i notDirty
        exact .turnClean waiter rest isIdle isNext kept (Bool.eq_false_iff.mpr notDirty)
    · exact .stays _
  | seals nonce =>
    rw [step.eq_def]
    dsimp only
    split
    · rename_i flush lease isRunning isLease
      split
      · exact .stays _
      · rename_i notWriting
        exact .seals flush lease nonce isRunning isLease (Bool.eq_false_iff.mpr notWriting)
    · exact .stays _
  | sealFails =>
    rw [step.eq_def]
    dsimp only
    split
    · rename_i flush isRunning
      split
      · exact .stays _
      · rename_i notWriting
        exact .sealFails flush isRunning (Bool.eq_false_iff.mpr notWriting)
    · exact .stays _
  | writeArrives =>
    rw [step.eq_def]
    dsimp only
    split
    · rename_i request isRequest
      rw [LeaseServer.write]
      by_cases takes : state.server.token = some request.token ∧
          request.expected = state.server.version
      · rw [if_pos takes]
        exact .accepts request isRequest takes.1 takes.2
      · rw [if_neg takes]
        exact .refuses request isRequest takes
    · exact .stays _
  | writeAnswered =>
    rw [step.eq_def]
    dsimp only
    split
    · rename_i flush version isRunning isReply
      exact .answered flush version isRunning isReply
    · rename_i flush isRunning isReply
      exact .answeredLost flush isRunning isReply
    · exact .stays _
  | writeFails =>
    rw [step.eq_def]
    dsimp only
    split
    · rename_i flush isRunning
      split
      · rename_i isWriting
        exact .writeFails flush isRunning isWriting
      · exact .stays _
    · exact .stays _
  | renewAnswered =>
    rw [step.eq_def]
    dsimp only
    split
    · rename_i lease isOpened isLease
      split
      · exact .stays _
      rename_i refused
      refine .renewLost lease isOpened isLease fun isLive => refused ?_
      rw [LeaseServer.renew, isLive]
      exact decide_eq_true rfl
    · exact .stays _
  | cleaned =>
    rw [step.eq_def]
    dsimp only
    split
    · rename_i outcome asked isCleaning
      split
      · split
        · rename_i isLost
          exact .cleanedLost outcome asked isCleaning isLost
        · rename_i notLost
          exact .cleaned outcome asked isCleaning (Bool.eq_false_iff.mpr notLost)
      · exact .stays _
    · exact .stays _
  | released arrives =>
    rw [step.eq_def]
    dsimp only
    split
    · rename_i outcome lease isReleasing isLease
      exact .released outcome lease arrives isReleasing isLease
    · exact .stays _
  | expires => exact .expires
  | otherAcquires =>
    rw [step.eq_def]
    dsimp only
    rw [LeaseServer.acquire]
    cases free : state.server.token with
    | none => exact .otherAcquires free
    | some => exact .stays _
  | otherWrites blob =>
    rw [step.eq_def]
    dsimp only
    split
    · rename_i isOther
      exact .otherWrites blob isOther.1 isOther.2
    · exact .stays _
  | otherReleases =>
    rw [step.eq_def]
    dsimp only
    split
    · rename_i isOther
      exact .otherReleases isOther
    · exact .stays _

end Move

/-! ## The shape of a call -/

namespace Stage

/-- The call has no lease yet. -/
def unleased : Stage → Bool
  | acquiring | waiting => true
  | _ => false

/-- The call is in its `try`, or in the `finally` of it. -/
def begun : Stage → Bool
  | working | flushing | cleaning _ _ | releasing _ => true
  | _ => false

end Stage

/-- What awaits a flush, in the order of the chain. -/
def State.waiters (state : State Ciphertext) : List Waiter :=
  state.running.toList.map (·.waiter) ++ state.queue

/-- Without a store nothing has happened yet. -/
structure Unopened (state : State Ciphertext) : Prop where
  accepted : state.accepted = []
  request : state.request = none
  running : state.running = none
  queue : state.queue = []
  dirty : state.dirty = false
  lost : state.lost = false
  broken : state.broken = false
  snapshotAt : state.snapshotAt = 0
  earlier : state.earlier = []
  failed : state.failed = none
  reply : state.reply = none
  saves : state.saves = []
  releaseAsked : state.releaseAsked = false

/-- **How the parts of a state fit**: the stage and what the call holds, and that the last flush
is awaited once, while the call is at it. -/
structure Shape (state : State Ciphertext) : Prop where
  asking : state.stage.unleased = true → state.lease = none ∧ state.opened = false
  opening : state.stage = .opening → state.opened = false
  begun : state.stage.begun = true → state.opened = true
  leased : state.opened = true → ∃ lease, state.lease = some lease
  unopened : state.opened = false → Unopened state
  broken : state.broken = true → state.waiters = []
  last : state.waiters.count .last ≤ if state.stage = .flushing then 1 else 0

section Shape

variable {key : SealKey Ciphertext} {maxRowsPerGroup : Nat} {state next : State Ciphertext}
  {input : Input Ciphertext}

theorem waiterOf_ne_last (state : State Ciphertext) (call : StoreCall) :
    state.waiterOf call ≠ .last := by
  cases call <;> exact Waiter.noConfusion

namespace Shape

theorem start : Shape (HostedStore.start : State Ciphertext) where
  asking _ := ⟨rfl, rfl⟩
  opening isOpening := by cases isOpening
  begun isBegun := by cases isBegun
  leased isOpened := by cases isOpened
  unopened _ := ⟨rfl, rfl, rfl, rfl, rfl, rfl, rfl, rfl, rfl, rfl, rfl, rfl, rfl⟩
  broken isBroken := by cases isBroken
  last := Nat.le_refl _

theorem flushing_of_last (shape : Shape state) (isWaiting : .last ∈ state.waiters) :
    state.stage = .flushing := by
  by_contra elsewhere
  have none := shape.last
  rw [if_neg elsewhere] at none
  exact absurd (List.count_pos_iff.mpr isWaiting) (by omega)

variable {waiter : Waiter} {flush : Flush} {rest : List Waiter}

theorem opened_of_running (shape : Shape state) (isRunning : state.running = some flush) :
    state.opened = true := by
  by_contra notOpened
  have idle := (shape.unopened (Bool.eq_false_iff.mpr notOpened)).running
  cases isRunning ▸ idle

theorem opened_of_queue (shape : Shape state) (isNext : state.queue = waiter :: rest) :
    state.opened = true := by
  by_contra notOpened
  have empty := (shape.unopened (Bool.eq_false_iff.mpr notOpened)).queue
  cases isNext ▸ empty

/-- A chain that has something to do has not rejected. -/
theorem unbroken_of_running (shape : Shape state) (isRunning : state.running = some flush) :
    state.broken = false := by
  by_contra isBroken
  have none := shape.broken (Bool.eq_true_of_not_eq_false isBroken)
  rw [State.waiters, isRunning] at none
  cases none

theorem unbroken_of_queue (shape : Shape state) (isNext : state.queue = waiter :: rest) :
    state.broken = false := by
  by_contra isBroken
  have none := shape.broken (Bool.eq_true_of_not_eq_false isBroken)
  rw [State.waiters, isNext] at none
  exact absurd none (List.append_ne_nil_of_right_ne_nil _ (List.cons_ne_nil _ _))

theorem opened_of_request (shape : Shape state) {request : Request Ciphertext}
    (isRequest : state.request = some request) : state.opened = true := by
  by_contra notOpened
  have none := (shape.unopened (Bool.eq_false_iff.mpr notOpened)).request
  cases isRequest ▸ none

theorem count_of_elsewhere (shape : Shape state) (elsewhere : state.stage ≠ .flushing)
    {bound : Nat} : state.waiters.count .last ≤ bound := by
  have none := shape.last
  rw [if_neg elsewhere] at none
  omega

theorem reject
    (asking : state.stage.unleased = true → state.lease = none ∧ state.opened = false)
    (opening : state.stage = .opening → state.opened = false)
    (leased : state.opened = true → ∃ lease, state.lease = some lease)
    (isOpened : state.opened = true)
    (waiters : List Waiter) :
    Shape (state.reject waiters) := by
  have isOpen : (state.reject waiters).opened = true := isOpened
  refine ⟨fun isAsking => ?_, fun isOpening => ?_, fun _ => isOpen, leased,
    fun notOpened => ?_, fun _ => rfl, Nat.zero_le _⟩
  · rw [State.reject] at isAsking
    dsimp only at isAsking
    split at isAsking
    · cases isAsking
    · exact asking isAsking
  · rw [State.reject] at isOpening
    dsimp only at isOpening
    split at isOpening
    · cases isOpening
    · exact opening isOpening
  · cases isOpen ▸ notOpened

section

variable (shape : Shape state)
include shape

theorem of_opened (isOpened : state.opened = true) (sameLease : next.lease = state.lease)
    (sameStage : next.stage = state.stage) (sameOpened : next.opened = state.opened)
    (broken : next.broken = true → next.waiters = [])
    (last : next.waiters.count .last ≤ state.waiters.count .last) :
    Shape next where
  asking isAsking := by
    rw [sameLease, sameOpened]
    rw [sameStage] at isAsking
    exact shape.asking isAsking
  opening isOpening := by
    rw [sameOpened]
    rw [sameStage] at isOpening
    exact shape.opening isOpening
  begun _ := sameOpened.trans isOpened
  leased _ := by
    rw [sameLease]
    exact shape.leased isOpened
  unopened notOpened := by
    rw [sameOpened, isOpened] at notOpened
    cases notOpened
  broken := broken
  last := by
    rw [sameStage]
    exact last.trans shape.last

/-- A step of the call itself, past `fn` and the last flush. -/
theorem past_try (isBegun : state.stage.begun = true) (elsewhere : state.stage ≠ .flushing)
    (isAfter : next.stage.unleased = false ∧ next.stage ≠ .opening)
    (sameLease : next.lease = state.lease) (sameOpened : next.opened = state.opened)
    (sameBroken : next.broken = state.broken) (sameWaiters : next.waiters = state.waiters) :
    Shape next where
  asking isAsking := by cases isAfter.1 ▸ isAsking
  opening isOpening := absurd isOpening isAfter.2
  begun _ := sameOpened.trans (shape.begun isBegun)
  leased _ := by
    rw [sameLease]
    exact shape.leased (shape.begun isBegun)
  unopened notOpened := by
    rw [sameOpened, shape.begun isBegun] at notOpened
    cases notOpened
  broken isBroken := by
    rw [sameBroken] at isBroken
    rw [sameWaiters]
    exact shape.broken isBroken
  last := by
    rw [sameWaiters]
    exact shape.count_of_elsewhere elsewhere

theorem rejected (isOpened : state.opened = true) (waiters : List Waiter) :
    Shape (state.reject waiters) :=
  reject shape.asking shape.opening shape.leased isOpened waiters

theorem resolved (isOpened : state.opened = true) (unbroken : state.broken = false)
    (once : (waiter :: state.waiters).count .last ≤ if state.stage = .flushing then 1 else 0) :
    Shape (state.resolve waiter) := by
  have fewer : state.waiters.count .last ≤ (waiter :: state.waiters).count .last :=
    List.count_le_count_cons
  have notBroken : ∀ {waiters : List Waiter}, state.broken = true → waiters = [] := by
    intro _ isBroken
    cases unbroken ▸ isBroken
  have notUnopened : ∀ {next : State Ciphertext}, state.opened = false → Unopened next := by
    intro _ notOpened
    cases isOpened ▸ notOpened
  cases waiter with
  | save => exact of_opened shape isOpened rfl rfl rfl notBroken (Nat.le_refl _)
  | clear => exact shape
  | last =>
    refine ⟨fun isAsking => ?_, fun isOpening => ?_, fun _ => isOpened, shape.leased,
      notUnopened, notBroken, ?_⟩
    · cases isAsking
    · cases isOpening
    have atMost : (Waiter.last :: state.waiters).count .last ≤ 1 := by
      refine once.trans ?_
      split <;> omega
    rw [List.count_cons_self] at atMost
    exact Nat.le_of_succ_le_succ atMost

theorem step (moves : Move key maxRowsPerGroup state input next) :
    Shape next := by
  cases moves with
  | stays => exact shape
  | acquires late isAcquiring =>
    have early := shape.asking (by rw [isAcquiring]; rfl)
    refine ⟨fun isAsking => ?_, fun _ => early.2, fun isBegun => ?_, fun isOpened => ?_,
      fun notOpened => { shape.unopened notOpened with }, shape.broken, ?_⟩
    · cases isAsking
    · cases isBegun
    · cases early.2.symm.trans isOpened
    · have none := shape.last
      rw [isAcquiring] at none
      exact none
  | busy _ after isAsking isNext =>
    have early : state.lease = none ∧ state.opened = false := by
      refine shape.asking ?_
      rcases isAsking with isStage | isStage <;> rw [isStage] <;> rfl
    refine ⟨fun _ => early, fun _ => early.2, fun isBegun => ?_, shape.leased,
      fun notOpened => { shape.unopened notOpened with }, shape.broken, ?_⟩
    · rcases isNext with rfl | rfl | rfl <;> cases isBegun
    · exact shape.count_of_elsewhere (by rcases isAsking with isStage | isStage <;> simp [isStage])
  | openFails lease isOpening =>
    refine ⟨fun isAsking => ?_, fun isOpening => ?_, fun isBegun => ?_, shape.leased,
      fun notOpened => { shape.unopened notOpened with }, shape.broken, ?_⟩
    · cases isAsking
    · cases isOpening
    · cases isBegun
    · exact shape.count_of_elsewhere (by simp [isOpening])
  | opened lease store isOpening isLease =>
    refine ⟨fun isAsking => ?_, fun isOpening => ?_, fun _ => rfl, fun _ => ⟨lease, isLease⟩,
      fun notOpened => ?_, shape.broken, ?_⟩
    · cases isAsking
    · cases isOpening
    · cases notOpened
    · exact shape.count_of_elsewhere (by simp [isOpening])
  | calledLost call isOpened | called call isOpened | renewLost lease isOpened =>
    exact of_opened shape isOpened rfl rfl rfl shape.broken (Nat.le_refl _)
  | calledBroken call isOpened =>
    refine reject ?_ ?_ ?_ ?_ _
    · exact shape.asking
    · exact shape.opening
    · exact shape.leased
    · exact isOpened
  | calledFlush call isOpened kept isCritical unbroken =>
    refine of_opened shape isOpened rfl rfl rfl (fun isBroken => ?_) ?_
    · cases isBroken.symm.trans unbroken
    have notLast : ((after maxRowsPerGroup state call).waiterOf call == Waiter.last) = false :=
      beq_eq_false_iff_ne.mpr (waiterOf_ne_last _ call)
    show List.count Waiter.last
      (state.running.toList.map Flush.waiter ++ (state.queue ++ [_])) ≤ _
    rw [← List.append_assoc, List.count_append, List.count_singleton, notLast]
    exact Nat.le_refl _
  | returns isWorking unbroken =>
    have isOpened := shape.begun (by rw [isWorking]; rfl)
    refine ⟨fun isAsking => ?_, fun isOpening => ?_, fun _ => isOpened, shape.leased,
      fun notOpened => ?_, fun isBroken => ?_, ?_⟩
    · cases isAsking
    · cases isOpening
    · cases notOpened.symm.trans isOpened
    · cases isBroken.symm.trans unbroken
    have elsewhere : state.waiters.count .last ≤ 0 :=
      shape.count_of_elsewhere (by simp [isWorking])
    show List.count Waiter.last
      (state.running.toList.map Flush.waiter ++ (state.queue ++ [.last])) ≤ 1
    rw [← List.append_assoc, List.count_append, List.count_singleton_self]
    exact Nat.succ_le_succ elsewhere
  | returnsBroken isWorking =>
    have isOpened := shape.begun (by rw [isWorking]; rfl)
    refine reject (fun isAsking => ?_) (fun isOpening => ?_) ?_ ?_ _
    · cases isAsking
    · cases isOpening
    · exact shape.leased
    · exact isOpened
  | throws isWorking | cleanedLost _ _ isWorking | cleaned _ _ isWorking
  | released _ _ _ isWorking =>
    exact shape.past_try (by rw [isWorking]; rfl) (by simp [isWorking])
      ⟨rfl, Stage.noConfusion⟩ rfl rfl rfl rfl
  | turnLost waiter rest isIdle isNext => exact shape.rejected (shape.opened_of_queue isNext) _
  | turnWrites waiter rest isIdle isNext =>
    have unbroken := shape.unbroken_of_queue isNext
    refine of_opened shape (shape.opened_of_queue isNext) rfl rfl rfl
      (fun isBroken => absurd isBroken (by simp [unbroken])) ?_
    · rw [State.waiters, State.waiters, isIdle, isNext]
      exact Nat.le_refl _
  | turnClean waiter rest isIdle isNext =>
    have unbroken := shape.unbroken_of_queue isNext
    have fewer : ∀ other, ({ state with queue := rest }.waiters).count other ≤
        state.waiters.count other := by
      intro other
      rw [State.waiters, State.waiters, isNext]
      exact List.Sublist.count_le _ ((List.sublist_cons_self _ _).append_left _)
    have queued : Shape { state with queue := rest } :=
      of_opened shape (shape.opened_of_queue isNext) rfl rfl rfl
        (fun isBroken => absurd isBroken (by simp [unbroken])) (fewer _)
    refine queued.resolved (shape.opened_of_queue isNext) unbroken ?_
    have all : waiter :: { state with queue := rest }.waiters = state.waiters := by
      rw [State.waiters, State.waiters, isIdle, isNext]
      rfl
    rw [all]
    exact shape.last
  | seals flush lease nonce isRunning =>
    have unbroken := shape.unbroken_of_running isRunning
    refine of_opened shape (shape.opened_of_running isRunning) rfl rfl rfl
      (fun isBroken => absurd isBroken (by simp [unbroken])) ?_
    · rw [State.waiters, State.waiters, isRunning]
      exact Nat.le_refl _
  | sealFails flush isRunning => exact shape.rejected (shape.opened_of_running isRunning) _
  | accepts request isRequest | refuses request isRequest =>
    exact of_opened shape (shape.opened_of_request isRequest) rfl rfl rfl shape.broken
      (Nat.le_refl _)
  | answered flush version isRunning =>
    have unbroken := shape.unbroken_of_running isRunning
    have isOpened := shape.opened_of_running isRunning
    have all : flush.waiter :: state.queue = state.waiters := by
      rw [State.waiters, isRunning]
      rfl
    have idle : Shape { state with version, running := none, reply := none } := by
      refine of_opened shape isOpened rfl rfl rfl
        (fun isBroken => absurd isBroken (by simp [unbroken])) ?_
      rw [← all]
      exact List.count_le_count_cons
    refine idle.resolved isOpened unbroken ?_
    have same : flush.waiter :: { state with version, running := none, reply := none }.waiters =
        state.waiters := all
    rw [same]
    exact shape.last
  | answeredLost flush isRunning | writeFails flush isRunning =>
    refine reject ?_ ?_ ?_ ?_ _
    · exact shape.asking
    · exact shape.opening
    · exact shape.leased
    · exact shape.opened_of_running isRunning
  | expires | otherAcquires | otherWrites | otherReleases =>
    exact { shape with unopened := fun notOpened => { shape.unopened notOpened with } }

end

end Shape

end Shape

end MessagingStack.Sdk.HostedStore

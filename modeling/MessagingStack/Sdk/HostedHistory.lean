import MessagingStack.Sdk.HostedStore

/-!
# One linear history

What runs of `withHostedMlsStore` keep: the versions, moments and serials of the writes that the
server has accepted (`Ledger`), what the call knows of its lease (`LeaseKnown`), and, under the
conditions of `Clean`, that resolved saves and the final state are in an accepted blob (`Saved`).
-/

namespace MessagingStack.Sdk.HostedStore

variable {Ciphertext : Type} {key : SealKey Ciphertext} {maxRowsPerGroup : Nat}
  {state next : State Ciphertext} {input : Input Ciphertext}

/-! ## The accepted writes -/

/-- The snapshot that the server has kept last for this call. -/
def State.kept (key : SealKey Ciphertext) (state : State Ciphertext) : Option Snapshot :=
  match state.accepted.getLast? with
  | some entry => some entry.snapshot
  | none => state.lease.bind fun lease => key.restore lease.blob

/-- A version that counts the accepted writes. -/
def State.AtVersion (state : State Ciphertext) (version : Nat) : Prop :=
  ∀ lease, state.lease = some lease → version = lease.version + state.accepted.length

structure RequestOk (key : SealKey Ciphertext) (state : State Ciphertext)
    (request : Request Ciphertext) : Prop where
  token : ∀ lease, state.lease = some lease → request.token = lease.token
  expected : state.AtVersion request.expected
  serial : request.serial = state.issued
  moment : request.moment = state.snapshotAt
  taken : state.states[request.moment]? = some request.snapshot
  isSealed : ∃ nonce, request.blob = key.seal nonce request.snapshot.toBytes
  fresh : ∀ entry ∈ state.accepted, entry.moment < request.moment

/-- A write that was accepted. -/
structure EntryOk (key : SealKey Ciphertext) (state : State Ciphertext)
    (entry : Accepted Ciphertext) : Prop where
  serial : entry.serial ≤ state.issued
  moment : entry.moment ≤ state.snapshotAt
  taken : state.states[entry.moment]? = some entry.snapshot
  isSealed : ∃ nonce, entry.blob = key.seal nonce entry.snapshot.toBytes

/-- **The accepted writes are numbered**: their versions follow the lease's one by one, and their
snapshots are the store's states at later and later moments. -/
structure Book (key : SealKey Ciphertext) (state : State Ciphertext) : Prop where
  freshLive : ∀ token, state.server.token = some token → token < state.server.nextToken
  freshLease : ∀ lease, state.lease = some lease → lease.token < state.server.nextToken
  live : ∀ lease, state.lease = some lease → state.server.token = some lease.token →
    state.AtVersion state.server.version
  versions : ∀ lease, state.lease = some lease →
    state.accepted.map (·.version) = List.range' (lease.version + 1) state.accepted.length
  moments : state.accepted.Pairwise (·.moment < ·.moment)
  request : ∀ request, state.request = some request → RequestOk key state request
  entries : ∀ entry ∈ state.accepted, EntryOk key state entry
  running : ∀ flush, state.running = some flush →
    flush.moment = state.snapshotAt ∧ state.states[flush.moment]? = some flush.snapshot
  snapshotAt : state.snapshotAt ≤ state.moment
  dirty : state.dirty = true → state.snapshotAt < state.moment
  clean : state.opened = true → state.lost = false → state.dirty = false →
    state.snapshotAt = state.moment
  failed : ∀ serial, state.failed = some serial → serial = state.issued

/-- Between two flushes. -/
structure Idle (key : SealKey Ciphertext) (state : State Ciphertext) : Prop where
  running : state.running = none
  request : state.request = none
  reply : state.reply = none
  failed : state.failed = none
  version : state.AtVersion state.version
  kept : state.opened = true → state.kept key = state.states[state.snapshotAt]?

/-- A flush has taken its snapshot. -/
structure Sealing (state : State Ciphertext) (flush : Flush) : Prop where
  running : state.running = some flush
  writing : flush.writing = false
  request : state.request = none
  reply : state.reply = none
  failed : state.failed = none
  version : state.AtVersion state.version
  fresh : ∀ entry ∈ state.accepted, entry.moment < flush.moment

structure Asking (state : State Ciphertext) (flush : Flush) (asked : Request Ciphertext) :
    Prop where
  running : state.running = some flush
  writing : flush.writing = true
  request : state.request = some asked
  reply : state.reply = none
  failed : state.failed = none
  moment : asked.moment = flush.moment
  snapshot : asked.snapshot = flush.snapshot

/-- The write of a flush was accepted. -/
structure Taken (state : State Ciphertext) (flush : Flush) (version : Nat)
    (entry : Accepted Ciphertext) : Prop where
  running : state.running = some flush
  writing : flush.writing = true
  request : state.request = none
  reply : state.reply = some (some version)
  failed : state.failed = none
  version : state.AtVersion version
  last : state.accepted.getLast? = some entry
  moment : entry.moment = flush.moment
  snapshot : entry.snapshot = flush.snapshot

structure Refused (state : State Ciphertext) (flush : Flush) : Prop where
  running : state.running = some flush
  writing : flush.writing = true
  request : state.request = none
  reply : state.reply = some none

/-- Where a chain that has not rejected stands. -/
inductive Progress (key : SealKey Ciphertext) (state : State Ciphertext) : Prop where
  | idle (idle : Idle key state)
  | sealing (flush : Flush) (sealing : Sealing state flush)
  | asking (flush : Flush) (request : Request Ciphertext) (asking : Asking state flush request)
  | taken (flush : Flush) (version : Nat) (entry : Accepted Ciphertext)
    (taken : Taken state flush version entry)
  | refused (flush : Flush) (refused : Refused state flush)

/-- **The writes of a call**, past and present. -/
structure Ledger (key : SealKey Ciphertext) (state : State Ciphertext) : Prop
    extends Book key state where
  progress : state.broken = false → Progress key state

/-- What the ledger does not read. -/
theorem Book.aside (book : Book key state) (stage : Stage) (queue : List Waiter) (asked : Nat)
    (saves : List (Nat × DeviceState)) (releaseAsked leaseLost : Bool) :
    Book key { state with stage, queue, asked, saves, releaseAsked, leaseLost } :=
  { book with
    request := fun request isRequest => { book.request request isRequest with }
    entries := fun entry isIn => { book.entries entry isIn with } }

theorem Progress.aside (progress : Progress key state) (stage : Stage) (queue : List Waiter)
    (asked : Nat) (saves : List (Nat × DeviceState)) (releaseAsked leaseLost lost : Bool)
    (server : LeaseServer Ciphertext) :
    Progress key
      { state with stage, queue, asked, saves, releaseAsked, leaseLost, lost, server } := by
  cases progress with
  | idle idle => exact .idle { idle with }
  | sealing flush sealing => exact .sealing flush { sealing with }
  | asking flush request asking => exact .asking flush request { asking with }
  | taken flush version entry taken => exact .taken flush version entry { taken with }
  | refused flush refused => exact .refused flush { refused with }

theorem Ledger.aside (ledger : Ledger key state) (stage : Stage) (queue : List Waiter)
    (asked : Nat) (saves : List (Nat × DeviceState)) (releaseAsked leaseLost : Bool) :
    Ledger key { state with stage, queue, asked, saves, releaseAsked, leaseLost } where
  toBook := ledger.toBook.aside stage queue asked saves releaseAsked leaseLost
  progress unbroken :=
    (ledger.progress unbroken).aside stage queue asked saves releaseAsked leaseLost _ _

theorem Ledger.resolve (ledger : Ledger key state) (waiter : Waiter) :
    Ledger key (state.resolve waiter) := by
  cases waiter with
  | save | last => exact ledger.aside _ _ _ _ _ _
  | clear => exact ledger

/-- A chain that rejects issues no more writes; what it has issued stays. -/
theorem Book.reject (book : Book key state) (waiters : List Waiter) :
    Ledger key (state.reject waiters) where
  toBook := { book with
    request := fun request isRequest => { book.request request isRequest with }
    entries := fun entry isIn => { book.entries entry isIn with }
    running := fun flush isRunning => by cases isRunning }
  progress unbroken := by cases unbroken

theorem getElem?_states_change
    {moment : Nat} {snapshot : Snapshot}
    (was : state.states[moment]? = some snapshot)
    (store : Snapshot) :
    (state.change store).states[moment]? = some snapshot := by
  obtain ⟨bound, -⟩ := List.getElem?_eq_some_iff.mp was
  rw [← was]
  exact List.getElem?_append_left bound

theorem Book.call
    (book : Book key state)
    (call : StoreCall)
    {dirty : Bool}
    (later : state.lost = true ∨ dirty = true) :
    Book key { after maxRowsPerGroup state call with dirty } :=
  { book with
    request := fun request isRequest =>
      { book.request request isRequest with
        taken := getElem?_states_change (book.request request isRequest).taken _ }
    entries := fun entry isIn =>
      { book.entries entry isIn with
        taken := getElem?_states_change (book.entries entry isIn).taken _ }
    running := fun flush isRunning =>
      ⟨(book.running flush isRunning).1, getElem?_states_change (book.running flush isRunning).2 _⟩
    snapshotAt := by
      have before := book.snapshotAt
      show state.snapshotAt ≤ (state.earlier ++ [state.store]).length
      rw [List.length_append]
      exact before.trans (Nat.le_add_right _ _)
    dirty := fun _ => by
      have before := book.snapshotAt
      show state.snapshotAt < (state.earlier ++ [state.store]).length
      rw [List.length_append]
      exact Nat.lt_succ_of_le before
    clean := fun _ kept isClean => by
      rcases later with isLost | isDirty
      · cases kept.symm.trans isLost
      · rw [show dirty = false from isClean] at isDirty
        cases isDirty }

theorem Progress.call
    (progress : Progress key state)
    (book : Book key state)
    (call : StoreCall)
    (dirty : Bool) :
    Progress key { after maxRowsPerGroup state call with dirty } := by
  cases progress with
  | idle idle =>
    refine .idle { idle with kept := fun isOpened => ?_ }
    have present : state.snapshotAt < state.states.length := by
      have before := book.snapshotAt
      rw [State.states, List.length_append]
      exact Nat.lt_succ_of_le before
    exact (idle.kept isOpened).trans (List.getElem?_append_left present).symm
  | sealing flush sealing => exact .sealing flush { sealing with }
  | asking flush request asking => exact .asking flush request { asking with }
  | taken flush version entry taken => exact .taken flush version entry { taken with }
  | refused flush refused => exact .refused flush { refused with }

theorem Ledger.of_unopened
    (unopened : Unopened state)
    (notOpened : state.opened = false)
    (freshLive : ∀ token, state.server.token = some token → token < state.server.nextToken)
    (freshLease : ∀ lease, state.lease = some lease → lease.token < state.server.nextToken)
    (live : ∀ lease, state.lease = some lease → state.server.token = some lease.token →
      state.AtVersion state.server.version)
    (version : state.AtVersion state.version) :
    Ledger key state where
  freshLive := freshLive
  freshLease := freshLease
  live := live
  versions _ _ := by rw [unopened.accepted]; rfl
  moments := by rw [unopened.accepted]; exact .nil
  request request isRequest := by cases unopened.request ▸ isRequest
  entries entry isIn := by
    rw [unopened.accepted] at isIn
    exact absurd isIn List.not_mem_nil
  running flush isRunning := by cases unopened.running ▸ isRunning
  snapshotAt := by rw [unopened.snapshotAt]; exact Nat.zero_le _
  dirty isDirty := by cases unopened.dirty ▸ isDirty
  clean isOpened := by cases notOpened ▸ isOpened
  failed serial isFailed := by cases unopened.failed ▸ isFailed
  progress _ := .idle
    { running := unopened.running
      request := unopened.request
      reply := unopened.reply
      failed := unopened.failed
      version := version
      kept := fun isOpened => by
        rw [notOpened] at isOpened
        cases isOpened }

section

variable (ledger : Ledger key state)
include ledger

theorem Ledger.elsewhere {server : LeaseServer Ciphertext}
    (freshLive : ∀ token, server.token = some token → token < server.nextToken)
    (later : state.server.nextToken ≤ server.nextToken)
    (notOurs : ∀ lease, state.lease = some lease → server.token ≠ some lease.token) (stage : Stage)
    (leaseLost : Bool) :
    Ledger key { state with server, stage, leaseLost } where
  toBook := { ledger.toBook.aside stage state.queue state.asked state.saves
      state.releaseAsked leaseLost with
    freshLive := freshLive
    freshLease := fun lease isLease => (ledger.freshLease lease isLease).trans_le later
    live := fun lease isLease isLive => absurd isLive (notOurs lease isLease)
    request := fun request isRequest => { ledger.request request isRequest with }
    entries := fun entry isIn => { ledger.entries entry isIn with } }
  progress unbroken := (ledger.progress unbroken).aside _ _ _ _ _ _ _ _

theorem Ledger.accept {request : Request Ciphertext} (isRequest : state.request = some request)
    (isLive : state.server.token = some request.token)
    (isExpected : request.expected = state.server.version) :
    Ledger key
      { state with
        server := { state.server with
          version := state.server.version + 1, blob := some request.blob }
        request := none
        reply := some (some (state.server.version + 1))
        accepted := state.accepted ++
          [⟨state.server.version + 1, request.blob, request.moment, request.snapshot,
            request.serial⟩] } := by
  have ok := ledger.request request isRequest
  have atVersion : ∀ lease, state.lease = some lease →
      state.server.version = lease.version + state.accepted.length :=
    fun lease isLease => isExpected.symm.trans (ok.expected lease isLease)
  refine ⟨⟨ledger.freshLive, ledger.freshLease, fun lease isLease _ other isOther => ?_,
    fun lease isLease => ?_, ?_, fun _ none => ?_, fun entry isIn => ?_,
    ledger.running, ledger.snapshotAt, ledger.dirty, ledger.clean, ledger.failed⟩,
    fun unbroken => ?_⟩
  · have counted := atVersion other isOther
    show state.server.version + 1 = _
    rw [counted, List.length_append, List.length_singleton, Nat.add_assoc]
  · rw [List.map_append, ledger.versions lease isLease, List.length_append,
      List.length_singleton, List.range'_concat, List.map_singleton]
    have counted := atVersion lease isLease
    have sum : lease.version + 1 + 1 * state.accepted.length = state.server.version + 1 := by omega
    rw [sum]
  · refine List.pairwise_append.mpr ⟨ledger.moments, List.pairwise_singleton _ _, ?_⟩
    intro entry isIn last isLast
    rw [List.mem_singleton.mp isLast]
    exact ok.fresh entry isIn
  · cases none
  · rcases List.mem_append.mp isIn with isOld | isNew
    · exact { ledger.entries entry isOld with }
    · rw [List.mem_singleton.mp isNew]
      exact ⟨ok.serial.le, ok.moment.le, ok.taken, ok.isSealed⟩
  cases ledger.progress unbroken with
  | idle idle | sealing _ idle | taken _ _ _ idle | refused _ idle =>
    cases idle.request ▸ isRequest
  | asking flush asked asking =>
    obtain rfl : asked = request := by
      rw [asking.request] at isRequest
      exact Option.some.inj isRequest
    refine .taken flush (state.server.version + 1) _
      ⟨asking.running, asking.writing, rfl, rfl, asking.failed, fun lease isLease => ?_,
        List.getLast?_concat, asking.moment, asking.snapshot⟩
    have counted := atVersion lease isLease
    rw [counted, List.length_append, List.length_singleton, Nat.add_assoc]

/-- A chain that runs no flush is between two. -/
theorem Ledger.idle (unbroken : state.broken = false) (isIdle : state.running = none) :
    Idle key state := by
  have notRunning : ∀ {flush : Flush}, state.running ≠ some flush := by
    intro flush isRunning
    cases isIdle ▸ isRunning
  cases ledger.progress unbroken with
  | idle idle => exact idle
  | sealing flush sealing | asking _ _ sealing | taken _ _ _ sealing | refused _ sealing =>
    exact absurd sealing.running notRunning

theorem Ledger.sealing (unbroken : state.broken = false) {flush : Flush}
    (isRunning : state.running = some flush) (notWriting : flush.writing = false) :
    Sealing state flush := by
  have same : ∀ {other : Flush}, state.running = some other → other = flush := by
    intro other isOther
    rw [isRunning] at isOther
    exact (Option.some.inj isOther).symm
  have notOther : ∀ {other : Flush}, state.running = some other → other.writing ≠ true := by
    intro other isOther isWriting
    rw [same isOther, notWriting] at isWriting
    cases isWriting
  cases ledger.progress unbroken with
  | idle idle => cases idle.running ▸ isRunning
  | sealing other sealing =>
    rw [← same sealing.running]
    exact sealing
  | asking other asked asking | taken _ _ _ asking | refused _ asking =>
    exact absurd asking.writing (notOther asking.running)

theorem Ledger.writing (unbroken : state.broken = false) {request : Request Ciphertext}
    (isRequest : state.request = some request) :
    ∃ flush, state.running = some flush ∧ flush.writing = true := by
  have asked : state.request ≠ none := by
    rw [isRequest]
    exact Option.some_ne_none _
  cases ledger.progress unbroken with
  | idle idle | sealing _ idle | taken _ _ _ idle | refused _ idle =>
    exact absurd idle.request asked
  | asking flush other asking => exact ⟨flush, asking.running, asking.writing⟩

theorem Ledger.taken (unbroken : state.broken = false) {flush : Flush} {version : Nat}
    (isRunning : state.running = some flush) (isReply : state.reply = some (some version)) :
    ∃ entry, Taken state flush version entry := by
  cases ledger.progress unbroken with
  | idle idle | sealing _ idle | asking _ _ idle | refused _ idle => cases idle.reply ▸ isReply
  | taken other answer entry taken =>
    obtain rfl : flush = other := Option.some.inj (isRunning.symm.trans taken.running)
    have sameReply : some version = some answer := Option.some.inj (isReply.symm.trans taken.reply)
    obtain rfl : version = answer := Option.some.inj sameReply
    exact ⟨entry, taken⟩

end

theorem Ledger.step
    (shape : Shape state)
    (ledger : Ledger key state)
    (moves : Move key maxRowsPerGroup state input next) :
    Ledger key next := by
  cases moves with
  | stays => exact ledger
  | acquires late isAcquiring =>
    have early := shape.asking (by rw [isAcquiring]; rfl)
    have unopened := shape.unopened early.2
    have counted : ∀ lease : Lease Ciphertext,
        some ⟨state.server.nextToken, state.server.version, state.server.blob⟩ = some lease →
        state.server.version = lease.version + state.accepted.length := by
      intro lease isLease
      cases isLease
      rw [unopened.accepted]
      rfl
    refine .of_unopened { unopened with } early.2 (fun token isLive => ?_)
      (fun lease isLease => ?_) (fun _ _ _ => counted) counted
    · cases isLive
      exact Nat.lt_succ_self _
    · cases isLease
      exact Nat.lt_succ_self _
  | busy | openFails | returns | throws | cleanedLost | cleaned => exact ledger.aside _ _ _ _ _ _
  | opened lease store isOpening isLease restored =>
    have notOpened := shape.opening isOpening
    have unopened := shape.unopened notOpened
    have idle := ledger.idle unopened.broken unopened.running
    refine ⟨{ ledger.toBook with
        request := fun request isRequest => ?_
        entries := fun entry isIn => ?_
        running := fun flush isRunning => ?_
        clean := fun _ _ _ => ?_ }, fun _ => .idle { idle with kept := fun _ => ?_ }⟩
    · cases unopened.request.symm.trans isRequest
    · rw [show state.accepted = [] from unopened.accepted] at isIn
      exact absurd isIn List.not_mem_nil
    · cases unopened.running.symm.trans isRunning
    · exact unopened.snapshotAt.trans (congrArg List.length unopened.earlier).symm
    · simp only [State.kept, State.states, unopened.accepted, unopened.earlier,
        unopened.snapshotAt, isLease, restored, Option.bind_some]
      rfl
  | calledLost call isOpened isLost =>
    have book : Book key { after maxRowsPerGroup state call with dirty := state.dirty } :=
      ledger.toBook.call call (.inl isLost)
    exact ⟨book, fun unbroken => (ledger.progress unbroken).call ledger.toBook call state.dirty⟩
  | called call =>
    exact ⟨ledger.toBook.call call (.inr rfl),
      fun unbroken => (ledger.progress unbroken).call ledger.toBook call true⟩
  | calledBroken call => exact (ledger.toBook.call call (.inr rfl)).reject _
  | calledFlush call isOpened kept isCritical unbroken =>
    have changed : Ledger key { after maxRowsPerGroup state call with dirty := true } :=
      ⟨ledger.toBook.call call (.inr rfl),
        fun unbroken => (ledger.progress unbroken).call ledger.toBook call true⟩
    exact changed.aside _ _ _ _ _ _
  | returnsBroken => exact (ledger.toBook.aside _ _ _ _ _ _).reject _
  | turnLost | sealFails => exact ledger.toBook.reject _
  | turnWrites waiter rest isIdle isNext kept isDirty =>
    have unbroken := shape.unbroken_of_queue isNext
    have idle := ledger.idle unbroken isIdle
    have present : state.states[state.moment]? = some state.store := List.getElem?_concat_length
    have later : ∀ entry ∈ state.accepted, entry.moment < state.moment := fun entry isIn =>
      (ledger.entries entry isIn).moment.trans_lt (ledger.dirty isDirty)
    refine ⟨{ ledger.toBook with
        request := fun request isRequest => ?_
        entries := fun entry isIn =>
          { ledger.entries entry isIn with moment := (later entry isIn).le }
        running := fun flush isRunning => ?_
        snapshotAt := Nat.le_refl _
        dirty := fun isDirty => ?_
        clean := fun _ _ _ => rfl }, fun _ => .sealing _
          ⟨rfl, rfl, idle.request, idle.reply, idle.failed, idle.version, later⟩⟩
    · cases idle.request.symm.trans isRequest
    · cases isRunning
      exact ⟨rfl, present⟩
    · cases isDirty
  | turnClean waiter => exact (ledger.aside _ _ _ _ _ _).resolve waiter
  | seals flush lease nonce isRunning isLease notWriting =>
    have unbroken := shape.unbroken_of_running isRunning
    have sealing := ledger.sealing unbroken isRunning notWriting
    obtain ⟨isLast, wasTaken⟩ := ledger.running flush isRunning
    refine ⟨{ ledger.toBook with
        request := fun request isRequest => ?_
        entries := fun entry isIn =>
          { ledger.entries entry isIn with
            serial := (ledger.entries entry isIn).serial.trans (Nat.le_succ _) }
        running := fun other isOther => ?_
        failed := fun serial isFailed => ?_ }, fun _ => .asking _ _
          ⟨rfl, rfl, rfl, sealing.reply, sealing.failed, rfl, rfl⟩⟩
    · cases isRequest
      exact ⟨fun other isOther => congrArg (·.token) (Option.some.inj (isLease.symm.trans isOther)),
        sealing.version, rfl, isLast, wasTaken, ⟨nonce, rfl⟩, sealing.fresh⟩
    · cases isOther
      exact ⟨isLast, wasTaken⟩
    · cases sealing.failed.symm.trans isFailed
  | accepts request isRequest isLive isExpected => exact ledger.accept isRequest isLive isExpected
  | refuses request isRequest =>
    have isSerial := (ledger.request request isRequest).serial
    refine ⟨{ ledger.toBook with
        request := fun other isOther => ?_
        entries := fun entry isIn => { ledger.entries entry isIn with }
        failed := fun serial isFailed => ?_ }, fun unbroken => ?_⟩
    · cases isOther
    · cases isFailed
      exact isSerial
    · obtain ⟨flush, isRunning, isWriting⟩ := ledger.writing unbroken isRequest
      exact .refused flush ⟨isRunning, isWriting, rfl, rfl⟩
  | answered flush version isRunning isReply =>
    have unbroken := shape.unbroken_of_running isRunning
    obtain ⟨entry, taken⟩ := ledger.taken unbroken isRunning isReply
    have snapshot : state.kept key = state.states[state.snapshotAt]? := by
      obtain ⟨isLast, wasTaken⟩ := ledger.running flush isRunning
      rw [State.kept, taken.last, ← isLast, wasTaken, ← taken.snapshot]
    have idle : Ledger key { state with version, running := none, reply := none } :=
      { ledger.toBook with
        request := fun other isOther => { ledger.request other isOther with }
        entries := fun entry isIn => { ledger.entries entry isIn with }
        running := fun other isOther => by cases isOther
        progress := fun _ =>
          .idle ⟨rfl, taken.request, rfl, taken.failed, taken.version, fun _ => snapshot⟩ }
    exact idle.resolve flush.waiter
  | answeredLost =>
    have book : Book key { state with lost := true, reply := none } :=
      { ledger.toBook with
        request := fun other isOther => { ledger.request other isOther with }
        entries := fun entry isIn => { ledger.entries entry isIn with }
        clean := fun _ kept => by cases kept }
    exact book.reject _
  | writeFails =>
    have book : Book key { state with failed := some state.issued, reply := none } :=
      { ledger.toBook with
        request := fun other isOther => { ledger.request other isOther with }
        entries := fun entry isIn => { ledger.entries entry isIn with }
        failed := fun serial isFailed => by
          cases isFailed
          rfl }
    exact book.reject _
  | renewLost =>
    refine ⟨{ ledger.toBook with
      request := fun other isOther => { ledger.request other isOther with }
      entries := fun entry isIn => { ledger.entries entry isIn with }
      clean := fun _ kept => ?_ }, fun unbroken => (ledger.progress unbroken).aside _ _ _ _ _ _ _ _⟩
    cases kept
  | released outcome lease arrives =>
    cases arrives with
    | false => exact ledger.aside _ _ _ _ _ _
    | true =>
      by_cases isLive : state.server.token = some lease.token
      · have freed : state.server.release lease.token = { state.server with token := none } :=
          if_pos isLive
        rw [if_pos rfl, freed]
        refine ledger.elsewhere (fun token isLive => ?_) ?_ (fun _ _ isLive => ?_) _ _
        · cases isLive
        · exact Nat.le_refl _
        · cases isLive
      · have same : state.server.release lease.token = state.server := if_neg isLive
        rw [if_pos rfl, same]
        exact ledger.aside _ _ _ _ _ _
  | expires | otherReleases =>
    refine ledger.elsewhere (fun token isLive => ?_) ?_ (fun _ _ isLive => ?_) _ _
    · cases isLive
    · exact Nat.le_refl _
    · cases isLive
  | otherAcquires =>
    refine ledger.elsewhere (fun token isLive => ?_) ?_ (fun lease isLease isLive => ?_) _ _
    · cases isLive
      exact Nat.lt_succ_self _
    · exact Nat.le_succ _
    · have older := ledger.freshLease lease isLease
      rw [← Option.some.inj isLive] at older
      exact absurd older (Nat.lt_irrefl _)
  | otherWrites blob isSome isOther =>
    refine ledger.elsewhere ?_ ?_ (fun lease isLease isLive => ?_) _ _
    · exact ledger.freshLive
    · exact Nat.le_refl _
    · have ours : state.lease.map (·.token) = some lease.token := by rw [isLease]; rfl
      exact isOther (isLive.trans ours.symm)

/-! ## The lease -/

/-- **What the call knows of its lease**: it has it until it releases it, or else the lease is
lost; and what tells it so is true. -/
structure LeaseKnown (state : State Ciphertext) : Prop where
  held : ∀ lease, state.lease = some lease → state.releaseAsked = false →
    state.server.token = some lease.token ∨ state.leaseLost = true
  lost : state.lost = true → state.releaseAsked = false → state.leaseLost = true
  refused : state.reply = some none → state.releaseAsked = false → state.leaseLost = true
  asked : state.releaseAsked = true →
    (∃ outcome, state.stage = .releasing outcome) ∨ ∃ outcome, state.stage = .settled outcome
  releasing : ∀ outcome, state.stage = .releasing outcome → state.releaseAsked = true
  settled : ∀ outcome, state.stage = .settled outcome → state.opened = true →
    state.releaseAsked = true ∨ state.leaseLost = true

/-- The call is over, or releases its lease. -/
def Stage.ends : Stage → Bool
  | releasing _ | settled _ => true
  | _ => false

namespace LeaseKnown

theorem start : LeaseKnown (HostedStore.start : State Ciphertext) where
  held _ isLease := by cases isLease
  lost isLost := by cases isLost
  refused isReply := by cases isReply
  asked isAsked := by cases isAsked
  releasing _ isReleasing := by cases isReleasing
  settled _ isSettled := by cases isSettled

theorem lost_of_refused
    (ledger : Ledger key state)
    (known : LeaseKnown state)
    (isOpened : ∃ lease, state.lease = some lease)
    {request : Request Ciphertext}
    (isRequest : state.request = some request)
    (stale : ¬(state.server.token = some request.token ∧ request.expected = state.server.version))
    (notAsked : state.releaseAsked = false) :
    state.leaseLost = true := by
  obtain ⟨lease, isLease⟩ := isOpened
  have ok := ledger.request request isRequest
  rcases known.held lease isLease notAsked with isLive | isLost
  · refine absurd ⟨?_, ?_⟩ stale
    · rw [isLive, ok.token lease isLease]
    · rw [ok.expected lease isLease, ledger.live lease isLease isLive lease isLease]
  · exact isLost

section

variable (known : LeaseKnown state)
include known

theorem reject {waiters : List Waiter} (atLast : .last ∈ waiters → state.stage = .flushing) :
    LeaseKnown (state.reject waiters) := by
  have stage : (state.reject waiters).stage = state.stage ∨
      state.stage = .flushing ∧ (state.reject waiters).stage = .cleaning .rejected state.asked := by
    rw [State.reject]
    dsimp only
    split
    · rename_i isLast
      exact .inr ⟨atLast isLast, rfl⟩
    · exact .inl rfl
  refine ⟨known.held, known.lost, known.refused, fun isAsked => ?_, fun outcome isStage => ?_,
    fun outcome isStage isOpened => ?_⟩
  · rcases stage with same | ⟨isFlushing, -⟩
    · rw [same]
      exact known.asked isAsked
    · rcases known.asked isAsked with ⟨outcome, other⟩ | ⟨outcome, other⟩
      · cases isFlushing ▸ other
      · cases isFlushing ▸ other
  · rcases stage with same | ⟨-, isCleaning⟩
    · rw [same] at isStage
      exact known.releasing outcome isStage
    · cases isCleaning ▸ isStage
  rcases stage with same | ⟨-, isCleaning⟩
  · rw [same] at isStage
    exact known.settled outcome isStage isOpened
  · cases isCleaning ▸ isStage

theorem staged (notAsked : state.releaseAsked = false) {stage : Stage}
    (goesOn : stage.ends = false) (queue : List Waiter) (asked : Nat)
    (saves : List (Nat × DeviceState)) :
    LeaseKnown { state with stage, queue, asked, saves } :=
  { known with
    asked := fun isAsked => by cases isAsked.symm.trans notAsked
    releasing := fun outcome isStage => by
      rw [show stage = .releasing outcome from isStage] at goesOn
      cases goesOn
    settled := fun outcome isStage => by
      rw [show stage = .settled outcome from isStage] at goesOn
      cases goesOn }

theorem notAsked (goesOn : state.stage.ends = false) : state.releaseAsked = false := by
  by_contra isAsked
  rcases known.asked (Bool.eq_true_of_not_eq_false isAsked) with ⟨outcome, isStage⟩ |
    ⟨outcome, isStage⟩ <;>
  · cases isStage ▸ goesOn

theorem early (notOpened : state.opened = false) (notAsked : state.releaseAsked = false)
    {stage : Stage} (notReleasing : ∀ outcome, stage ≠ .releasing outcome) :
    LeaseKnown { state with stage } :=
  { known with
    asked := fun isAsked => by cases isAsked.symm.trans notAsked
    releasing := fun outcome isStage => absurd isStage (notReleasing outcome)
    settled := fun _ _ isOpened => by
      rw [show state.opened = true from isOpened] at notOpened
      cases notOpened }

theorem resolve {waiter : Waiter} (atLast : waiter = .last → state.stage = .flushing) :
    LeaseKnown (state.resolve waiter) := by
  cases waiter with
  | save => exact { known with }
  | clear => exact known
  | last =>
    have isFlushing := atLast rfl
    exact known.staged (known.notAsked (by rw [isFlushing]; rfl)) rfl _ _ _

end

theorem step
    (shape : Shape state)
    (ledger : Ledger key state)
    (known : LeaseKnown state)
    (moves : Move key maxRowsPerGroup state input next) :
    LeaseKnown next := by
  have lastIn : ∀ {waiters : List Waiter}, (∀ waiter ∈ waiters, waiter ∈ state.waiters) →
      .last ∈ waiters → state.stage = .flushing :=
    fun within isLast => shape.flushing_of_last (within _ isLast)
  have ofRunning : ∀ {flush : Flush}, state.running = some flush →
      ∀ waiter ∈ flush.waiter :: state.queue, waiter ∈ state.waiters := by
    intro flush isRunning waiter isIn
    rw [State.waiters, isRunning]
    exact isIn
  have ofQueue : ∀ {first : Waiter} {rest : List Waiter}, state.queue = first :: rest →
      ∀ waiter ∈ first :: rest, waiter ∈ state.waiters := by
    intro first rest isNext waiter isIn
    rw [State.waiters, isNext]
    exact List.mem_append_right _ isIn
  cases moves with
  | stays => exact known
  | acquires late isAcquiring =>
    have early := shape.asking (by rw [isAcquiring]; rfl)
    have unopened := shape.unopened early.2
    refine { known with
      held := fun lease isLease _ => ?_
      asked := fun isAsked => ?_
      releasing := fun outcome isStage => ?_
      settled := fun outcome isStage => ?_ }
    · cases isLease
      exact .inl rfl
    · cases unopened.releaseAsked.symm.trans isAsked
    · cases isStage
    · cases isStage
  | busy _ after isAsking isNext =>
    have notOpened : state.opened = false := by
      refine (shape.asking ?_).2
      rcases isAsking with isStage | isStage <;> rw [isStage] <;> rfl
    refine known.early notOpened (shape.unopened notOpened).releaseAsked fun outcome => ?_
    rcases isNext with rfl | rfl | rfl <;> exact Stage.noConfusion
  | openFails lease isOpening =>
    have notOpened := shape.opening isOpening
    exact known.early notOpened (shape.unopened notOpened).releaseAsked fun _ => Stage.noConfusion
  | opened lease store isOpening =>
    have notOpened := shape.opening isOpening
    have notAsked := (shape.unopened notOpened).releaseAsked
    refine { known with
      asked := fun isAsked => ?_
      releasing := fun outcome isStage => ?_
      settled := fun outcome isStage => ?_ }
    · cases isAsked.symm.trans notAsked
    · cases isStage
    · cases isStage
  | calledLost | called | calledFlush | turnWrites | seals | otherWrites => exact { known with }
  | calledBroken call =>
    have changed : LeaseKnown { after maxRowsPerGroup state call with dirty := true } :=
      { known with }
    refine changed.reject fun isLast => ?_
    exact absurd (List.mem_singleton.mp isLast).symm (waiterOf_ne_last _ call)
  | returns isWorking | throws isWorking =>
    exact known.staged (known.notAsked (by rw [isWorking]; rfl)) rfl _ _ _
  | returnsBroken isWorking =>
    have atLast : LeaseKnown { state with stage := .flushing } :=
      known.staged (known.notAsked (by rw [isWorking]; rfl)) rfl _ _ _
    exact atLast.reject fun _ => rfl
  | turnLost waiter rest isIdle isNext => exact known.reject (lastIn (ofQueue isNext))
  | turnClean waiter rest isIdle isNext =>
    have queued : LeaseKnown { state with queue := rest } := { known with }
    refine queued.resolve fun isLast => lastIn (ofQueue isNext) ?_
    rw [isLast]
    exact List.mem_cons_self
  | sealFails flush isRunning => exact known.reject (lastIn (ofRunning isRunning))
  | accepts =>
    refine { known with refused := fun isReply => ?_ }
    cases isReply
  | refuses request isRequest stale =>
    have isOpened := shape.opened_of_request isRequest
    have lost : state.releaseAsked = false → state.leaseLost = true :=
      lost_of_refused ledger known (shape.leased isOpened) isRequest stale
    exact { known with refused := fun _ notAsked => lost notAsked }
  | answered flush version isRunning isReply =>
    have idle : LeaseKnown { state with version, running := none, reply := none } :=
      { known with
        refused := fun isReply => by cases isReply }
    refine idle.resolve fun isLast => lastIn (ofRunning isRunning) ?_
    rw [isLast]
    exact List.mem_cons_self
  | answeredLost flush isRunning isReply =>
    have lost : LeaseKnown { state with lost := true, reply := none } :=
      { known with
        lost := fun _ notAsked => known.refused isReply notAsked
        refused := fun isReply => by cases isReply }
    exact lost.reject (lastIn (ofRunning isRunning))
  | writeFails flush isRunning =>
    have failed : LeaseKnown { state with failed := some state.issued, reply := none } :=
      { known with
        refused := fun isReply => by cases isReply }
    exact failed.reject (lastIn (ofRunning isRunning))
  | renewLost lease isOpened isLease isDead =>
    refine { known with lost := fun _ notAsked => ?_ }
    exact (known.held lease isLease notAsked).resolve_left isDead
  | cleanedLost outcome asked isCleaning isLost =>
    have notAsked : state.releaseAsked = false := known.notAsked (by rw [isCleaning]; rfl)
    refine { known with
      asked := fun isAsked => ?_
      releasing := fun outcome isStage => ?_
      settled := fun _ _ _ => .inr (known.lost isLost notAsked) }
    · cases isAsked.symm.trans notAsked
    · cases isStage
  | cleaned outcome =>
    refine ⟨fun _ _ notAsked => ?_, fun _ notAsked => ?_, fun _ notAsked => ?_,
      fun _ => .inl ⟨outcome, rfl⟩, fun _ _ => rfl, fun _ isStage => ?_⟩
    · cases notAsked
    · cases notAsked
    · cases notAsked
    · cases isStage
  | released outcome lease arrives isReleasing =>
    have isAsked := known.releasing outcome isReleasing
    refine { known with
      held := fun _ _ notAsked => ?_
      asked := fun _ => .inr ⟨outcome, rfl⟩
      releasing := fun _ isStage => ?_
      settled := fun _ _ _ => .inl isAsked }
    · cases notAsked.symm.trans isAsked
    · cases isStage
  | expires =>
    have kept : ∀ {other : Bool}, state.leaseLost = true → (state.leaseLost || other) = true := by
      intro other isLost
      rw [isLost]
      rfl
    refine { known with
      held := fun lease isLease notAsked => .inr ?_
      lost := fun isLost notAsked => kept (known.lost isLost notAsked)
      refused := fun isReply notAsked => kept (known.refused isReply notAsked)
      settled := fun outcome isStage isOpened =>
        (known.settled outcome isStage isOpened).imp_right kept }
    rcases known.held lease isLease notAsked with isLive | isLost
    · have ends : (state.lease.isSome &&
          state.server.token == state.lease.map (·.token)) = true := by
        rw [isLive, show state.lease = some lease from isLease]
        exact beq_self_eq_true _
      rw [ends, Bool.or_true]
    · exact kept isLost
  | otherAcquires free =>
    refine { known with held := fun lease isLease notAsked => .inr ?_ }
    refine (known.held lease isLease notAsked).resolve_left fun isLive => ?_
    cases free ▸ isLive
  | otherReleases isOther =>
    refine { known with held := fun lease isLease notAsked => .inr ?_ }
    refine (known.held lease isLease notAsked).resolve_left fun isLive => isOther ?_
    rw [isLive, show state.lease = some lease from isLease]
    rfl

end LeaseKnown

/-! ## What is written -/

def Accepts (state : State Ciphertext) (moment : Nat) (device : DeviceState) : Prop :=
  ∃ entry ∈ state.accepted, moment ≤ entry.moment ∧ entry.snapshot.device = some device

/-- A device state is in an accepted blob, or in the snapshot of the flush that is running. -/
def Covered (state : State Ciphertext) (moment : Nat) (device : DeviceState) : Prop :=
  Accepts state moment device ∨
    ∃ flush, state.running = some flush ∧ moment ≤ flush.moment ∧
      flush.snapshot.device = some device

/-- A device state that no snapshot has yet is still that of the store, and a flush is due. -/
def Due (state : State Ciphertext) (moment : Nat) (device : DeviceState) : Prop :=
  state.snapshotAt < moment ∧ moment ≤ state.moment ∧ state.store.device = some device ∧
    (state.dirty = true ∨ state.lost = true)

/-- The last flush has resolved. -/
def Stage.resolved : Stage → Bool
  | cleaning .resolved _ | releasing .resolved | settled .resolved => true
  | _ => false

/-- The last flush has its snapshot. -/
def Closing (state : State Ciphertext) : Prop :=
  (∃ flush, state.running = some flush ∧ flush.waiter = .last) ∨ state.stage.resolved = true

/-- **The condition of a step**: the lease's blob opens; a call writes no reserved key, changes the
store only before the last flush takes its snapshot, and the device state only when no save waits
for a snapshot; and the release gets through. -/
def Clean (key : SealKey Ciphertext) (maxRowsPerGroup : Nat) (state : State Ciphertext) :
    Input Ciphertext → Prop
  | .opens => state.stage = .opening → ∀ lease, state.lease = some lease →
      key.restore lease.blob ≠ none
  | .call call => state.opened = true →
      call.Plain ∧
      (Closing state → call.apply maxRowsPerGroup state.store = state.store) ∧
      (call.critical = true → ∀ moment device, .save moment device ∈ state.queue →
        state.snapshotAt < moment →
        (call.apply maxRowsPerGroup state.store).device = some device)
  | .released arrives => arrives = true
  | _ => True

/-- **What the conditions keep**: plain states; saves whose device state is written or due to be;
and, once the last flush has its snapshot, that the store stays what is being written. -/
structure Saved (key : SealKey Ciphertext) (state : State Ciphertext) : Prop where
  plain : state.opened = true → ∀ snapshot ∈ state.states, Plain snapshot
  queued : ∀ moment device, .save moment device ∈ state.queue →
    Covered state moment device ∨ Due state moment device
  running : ∀ flush moment device, state.running = some flush →
    flush.waiter = .save moment device → Covered state moment device
  saves : ∀ save ∈ state.saves, Accepts state save.1 save.2
  writing : Closing state → ∀ flush, state.running = some flush → flush.snapshot = state.store
  request : Closing state → ∀ request, state.request = some request → request.snapshot = state.store
  closed : state.stage.resolved = true → state.kept key = some state.store
  released : ∀ outcome, state.stage = .settled outcome → state.releaseAsked = true →
    ∀ lease, state.lease = some lease → state.server.token ≠ some lease.token
  opened : ∀ outcome lease, state.stage = .settled outcome → state.lease = some lease →
    state.opened = true

namespace Saved

theorem of_unopened
    (unopened : Unopened state)
    (notOpened : state.opened = false)
    (notResolved : state.stage.resolved = false)
    (unleased : ∀ outcome lease, state.stage = .settled outcome → state.lease ≠ some lease) :
    Saved key state where
  plain isOpened := by cases notOpened ▸ isOpened
  queued _ _ isIn := by
    rw [unopened.queue] at isIn
    exact absurd isIn List.not_mem_nil
  running _ _ _ isRunning := by cases unopened.running ▸ isRunning
  saves _ isIn := by
    rw [unopened.saves] at isIn
    exact absurd isIn List.not_mem_nil
  writing _ _ isRunning := by cases unopened.running ▸ isRunning
  request _ _ isRequest := by cases unopened.request ▸ isRequest
  closed isResolved := by cases notResolved ▸ isResolved
  released _ _ isAsked := by cases unopened.releaseAsked ▸ isAsked
  opened outcome lease isSettled isLease := absurd isLease (unleased outcome lease isSettled)

theorem reject (saved : Saved key state) (waiters : List Waiter) :
    Saved key (state.reject waiters) := by
  have stage : (state.reject waiters).stage = state.stage ∨
      (state.reject waiters).stage = .cleaning .rejected state.asked := by
    rw [State.reject]
    dsimp only
    split
    · exact .inr rfl
    · exact .inl rfl
  have resolved : (state.reject waiters).stage.resolved = true → state.stage.resolved = true := by
    rcases stage with same | isCleaning
    · rw [same]
      exact id
    · rw [isCleaning]
      intro isResolved
      cases isResolved
  have settled : ∀ {outcome}, (state.reject waiters).stage = .settled outcome →
      state.stage = .settled outcome := by
    intro outcome isSettled
    rcases stage with same | isCleaning
    · rwa [same] at isSettled
    · cases isCleaning ▸ isSettled
  exact
    { saved with
      queued := fun _ _ isIn => absurd isIn List.not_mem_nil
      running := fun _ _ _ isRunning => by cases isRunning
      writing := fun _ _ isRunning => by cases isRunning
      request := fun isClosing => by
        refine saved.request (.inr (resolved ?_))
        rcases isClosing with ⟨_, isRunning, _⟩ | isResolved
        · cases isRunning
        · exact isResolved
      closed := fun isResolved => saved.closed (resolved isResolved)
      released := fun outcome isSettled => saved.released outcome (settled isSettled)
      opened := fun outcome lease isSettled => saved.opened outcome lease (settled isSettled) }

/-- A flush resolves. -/
theorem resolve
    (saved : Saved key state)
    {waiter : Waiter}
    (save : ∀ moment device, waiter = .save moment device → Accepts state moment device)
    (last : waiter = .last → state.kept key = some state.store ∧ state.running = none ∧
      state.request = none) :
    Saved key (state.resolve waiter) := by
  cases waiter with
  | save moment device =>
    refine { saved with saves := fun other isIn => ?_ }
    rcases List.mem_append.mp isIn with isOld | isNew
    · exact saved.saves other isOld
    · rw [List.mem_singleton.mp isNew]
      exact save moment device rfl
  | clear => exact saved
  | last =>
    obtain ⟨isKept, isIdle, notRequested⟩ := last rfl
    refine { saved with
      writing := fun _ flush isRunning => ?_
      request := fun _ request isRequest => ?_
      closed := fun _ => isKept
      released := fun _ isSettled => ?_
      opened := fun _ _ isSettled => ?_ }
    · have running : state.running = some flush := isRunning
      cases isIdle ▸ running
    · have requested : state.request = some request := isRequest
      cases notRequested ▸ requested
    · cases isSettled
    · cases isSettled

theorem lose (saved : Saved key state) (reply : Option (Option Nat)) :
    Saved key { state with lost := true, reply } :=
  { saved with
    queued := fun moment device isIn =>
      (saved.queued moment device isIn).imp_right fun ⟨isNew, isPast, isDevice, _⟩ =>
        ⟨isNew, isPast, isDevice, .inr rfl⟩ }

theorem apply_device
    {call : StoreCall} (notCritical : call.critical = false) (snapshot : Snapshot) :
    (call.apply maxRowsPerGroup snapshot).device = snapshot.device := by
  cases call with
  | saveDevice | clear => cases notCritical
  | setCursor | putRows => rfl
  | setMeta key value => cases value <;> rfl

section

variable (saved : Saved key state)
include saved

theorem call {call : StoreCall} (isOpened : state.opened = true)
    (clean : Clean key maxRowsPerGroup state (.call call)) {dirty : Bool}
    (later : dirty = true ∨ state.lost = true) :
    Saved key { after maxRowsPerGroup state call with dirty } := by
  obtain ⟨callPlain, unchanged, sameDevice⟩ := clean isOpened
  have present : state.store ∈ state.states := List.mem_append_right _ (List.mem_singleton_self _)
  refine { saved with
    plain := fun _ snapshot isIn => ?_
    queued := fun moment device isIn => ?_
    writing := fun isClosing flush isRunning => ?_
    request := fun isClosing request isRequest => ?_
    closed := fun isResolved => ?_ }
  · rcases List.mem_append.mp isIn with isOld | isNew
    · exact saved.plain isOpened snapshot isOld
    · rw [List.mem_singleton.mp isNew]
      exact (saved.plain isOpened _ present).apply callPlain
  · rcases saved.queued moment device isIn with covered | ⟨isNew, isPast, isDevice, -⟩
    · exact .inl covered
    refine .inr ⟨isNew, ?_, ?_, later⟩
    · show moment ≤ (state.earlier ++ [state.store]).length
      rw [List.length_append]
      exact isPast.trans (Nat.le_add_right _ _)
    · cases isCritical : call.critical with
      | true => exact sameDevice isCritical moment device isIn isNew
      | false => exact (apply_device isCritical state.store).trans isDevice
  · exact (saved.writing isClosing flush isRunning).trans (unchanged isClosing).symm
  · exact (saved.request isClosing request isRequest).trans (unchanged isClosing).symm
  · exact (saved.closed isResolved).trans (congrArg some (unchanged (.inr isResolved)).symm)

theorem queued_turn (isIdle : state.running = none) {moment : Nat} {device : DeviceState}
    (isIn : .save moment device ∈ state.queue) :
    Accepts state moment device ∨ Due state moment device := by
  rcases saved.queued moment device isIn with (accepted | ⟨flush, isRunning, -⟩) | due
  · exact .inl accepted
  · cases isIdle ▸ isRunning
  · exact .inr due

/-- The call goes on, with a last flush that has resolved before or has not. -/
theorem staged {stage : Stage} (resolved : stage.resolved = true → state.stage.resolved = true)
    (notSettled : ∀ outcome, stage ≠ .settled outcome) (releaseAsked : Bool) :
    Saved key { state with stage, releaseAsked } :=
  { saved with
    writing := fun isClosing => saved.writing (isClosing.imp_right resolved)
    request := fun isClosing => saved.request (isClosing.imp_right resolved)
    closed := fun isResolved => saved.closed (resolved isResolved)
    released := fun outcome isSettled => absurd isSettled (notSettled outcome)
    opened := fun outcome _ isSettled => absurd isSettled (notSettled outcome) }

theorem settle {server : LeaseServer Ciphertext} {outcome : Outcome}
    (resolved : (Stage.settled outcome).resolved = true → state.stage.resolved = true)
    (released : state.releaseAsked = true → ∀ lease, state.lease = some lease →
      server.token ≠ some lease.token)
    (isOpened : state.opened = true) :
    Saved key { state with server, stage := .settled outcome } :=
  { saved with
    writing := fun isClosing => saved.writing (isClosing.imp_right resolved)
    request := fun isClosing => saved.request (isClosing.imp_right resolved)
    closed := fun isResolved => saved.closed (resolved isResolved)
    released := fun _ _ => released
    opened := fun _ _ _ _ => isOpened }

theorem accept {server : LeaseServer Ciphertext} {reply : Option (Option Nat)} {version : Nat}
    (sameToken : server.token = state.server.token) {request : Request Ciphertext}
    (isRequest : state.request = some request) :
    Saved key
      { state with
        server
        request := none
        reply
        accepted := state.accepted ++
          [⟨version, request.blob, request.moment, request.snapshot, request.serial⟩] } := by
  have grows : ∀ {moment : Nat} {device : DeviceState}, Accepts state moment device →
      ∃ entry ∈ state.accepted ++ [(⟨version, request.blob, request.moment, request.snapshot,
          request.serial⟩ : Accepted Ciphertext)],
        moment ≤ entry.moment ∧ entry.snapshot.device = some device := by
    rintro moment device ⟨entry, isIn, isPast, isDevice⟩
    exact ⟨entry, List.mem_append_left _ isIn, isPast, isDevice⟩
  refine { saved with
    queued := fun moment device isIn => ?_
    running := fun flush moment device isRunning isSave => ?_
    saves := fun save isIn => grows (saved.saves save isIn)
    request := fun _ _ isNone => ?_
    closed := fun isResolved => ?_
    released := fun outcome isSettled isAsked lease isLease => ?_ }
  · exact (saved.queued moment device isIn).imp_left (Or.imp_left grows)
  · exact (saved.running flush moment device isRunning isSave).imp_left grows
  · cases isNone
  · have same := saved.request (.inr isResolved) request isRequest
    rw [State.kept, List.getLast?_concat]
    exact congrArg some same
  · rw [show server.token = state.server.token from sameToken]
    exact saved.released outcome isSettled isAsked lease isLease

end

/-- **Every step under the conditions keeps what is written.** -/
theorem step
    (shape : Shape state)
    (ledger : Ledger key state)
    (known : LeaseKnown state)
    (saved : Saved key state)
    (clean : Clean key maxRowsPerGroup state input)
    (moves : Move key maxRowsPerGroup state input next) :
    Saved key next := by
  cases moves with
  | stays => exact saved
  | acquires late isAcquiring =>
    have early := shape.asking (by rw [isAcquiring]; rfl)
    exact of_unopened { shape.unopened early.2 with } early.2 rfl fun _ _ => Stage.noConfusion
  | busy _ after isAsking isNext =>
    have early : state.lease = none ∧ state.opened = false := by
      refine shape.asking ?_
      rcases isAsking with isStage | isStage <;> rw [isStage] <;> rfl
    refine of_unopened { shape.unopened early.2 with } early.2 ?_ fun _ _ _ isLease => ?_
    · rcases isNext with rfl | rfl | rfl <;> rfl
    · cases early.1.symm.trans isLease
  | openFails lease isOpening isLease isBad => exact absurd isBad (clean isOpening lease isLease)
  | opened lease store isOpening isLease restored =>
    have unopened := shape.unopened (shape.opening isOpening)
    have isPlain := plain_of_restore key restored
    refine ⟨fun _ snapshot isIn => ?_, fun _ _ isIn => ?_, fun _ _ _ isRunning => ?_,
      fun _ isIn => ?_, fun _ _ isRunning => ?_, fun _ _ isRequest => ?_, fun isResolved => ?_,
      fun _ isSettled => ?_, fun _ _ isSettled => ?_⟩
    · rw [State.states, show state.earlier = [] from unopened.earlier] at isIn
      rw [List.mem_singleton.mp isIn]
      exact isPlain
    · rw [show state.queue = [] from unopened.queue] at isIn
      exact absurd isIn List.not_mem_nil
    · cases unopened.running.symm.trans isRunning
    · rw [show state.saves = [] from unopened.saves] at isIn
      exact absurd isIn List.not_mem_nil
    · cases unopened.running.symm.trans isRunning
    · cases unopened.request.symm.trans isRequest
    · cases isResolved
    · cases isSettled
    · cases isSettled
  | calledLost call isOpened isLost => exact saved.call isOpened clean (.inr isLost)
  | called call isOpened => exact saved.call isOpened clean (.inl rfl)
  | calledBroken call isOpened =>
    have changed : Saved key { after maxRowsPerGroup state call with dirty := true } :=
      saved.call isOpened clean (.inl rfl)
    exact changed.reject _
  | calledFlush call isOpened kept isCritical =>
    have changed : Saved key { after maxRowsPerGroup state call with dirty := true } :=
      saved.call isOpened clean (.inl rfl)
    refine { changed with queued := fun moment device isIn => ?_ }
    rcases List.mem_append.mp isIn with isOld | isNew
    · exact changed.queued moment device isOld
    -- the call's own save: no snapshot has been taken since
    cases call with
    | saveDevice =>
      cases List.mem_singleton.mp isNew
      refine .inr ⟨?_, Nat.le_refl _, rfl, .inl rfl⟩
      have before := ledger.snapshotAt
      show state.snapshotAt < (state.earlier ++ [state.store]).length
      rw [List.length_append]
      exact Nat.lt_succ_of_le before
    | clear => cases List.mem_singleton.mp isNew
    | setCursor | putRows | setMeta => cases isCritical
  | returns =>
    have flushing : Saved key { state with stage := .flushing } := by
      refine saved.staged (fun isResolved => ?_) (fun _ => Stage.noConfusion) _
      cases isResolved
    refine { flushing with queued := fun moment device isIn => ?_ }
    rcases List.mem_append.mp isIn with isOld | isNew
    · exact flushing.queued moment device isOld
    · cases List.mem_singleton.mp isNew
  | returnsBroken =>
    have flushing : Saved key { state with stage := .flushing } := by
      refine saved.staged (fun isResolved => ?_) (fun _ => Stage.noConfusion) _
      cases isResolved
    exact flushing.reject _
  | throws =>
    refine saved.staged (fun isResolved => ?_) (fun _ => Stage.noConfusion) _
    cases isResolved
  | turnLost | sealFails => exact saved.reject _
  | turnWrites waiter rest isIdle isNext =>
    have idle := ledger.idle (shape.unbroken_of_queue isNext) isIdle
    -- what was due is in the snapshot that is taken now
    have turn : ∀ {moment : Nat} {device : DeviceState}, .save moment device ∈ waiter :: rest →
        Covered
          { state with
            queue := rest
            dirty := false
            running := some ⟨waiter, state.moment, state.store, false⟩
            snapshotAt := state.moment } moment device := by
      intro moment device isIn
      rcases saved.queued_turn isIdle (isNext ▸ isIn) with accepted | ⟨-, isPast, isDevice, -⟩
      · exact .inl accepted
      · exact .inr ⟨_, rfl, isPast, isDevice⟩
    refine { saved with
      queued := fun _ _ isIn => .inl (turn (List.mem_cons_of_mem _ isIn))
      running := fun flush moment device isRunning isSave => ?_
      writing := fun _ flush isRunning => ?_
      request := fun _ request isRequest => ?_ }
    · cases isRunning
      exact turn (isSave ▸ List.mem_cons_self)
    · cases isRunning
      rfl
    · cases idle.request.symm.trans isRequest
  | turnClean waiter rest isIdle isNext kept notDirty =>
    have isOpened := shape.opened_of_queue isNext
    have idle := ledger.idle (shape.unbroken_of_queue isNext) isIdle
    have isKept : state.kept key = some state.store := by
      rw [idle.kept isOpened, ledger.clean isOpened kept notDirty]
      exact List.getElem?_concat_length
    have queued : Saved key { state with queue := rest } :=
      { saved with
        queued := fun moment device isIn =>
          saved.queued moment device (isNext ▸ List.mem_cons_of_mem _ isIn) }
    refine queued.resolve (fun moment device isSave => ?_) fun _ => ⟨isKept, isIdle, idle.request⟩
    have isIn : .save moment device ∈ state.queue := by
      rw [isNext, isSave]
      exact List.mem_cons_self
    rcases saved.queued_turn isIdle isIn with accepted | ⟨-, -, -, isDirty | isLost⟩
    · exact accepted
    · cases notDirty ▸ isDirty
    · cases kept ▸ isLost
  | seals flush lease nonce isRunning =>
    have covered : ∀ {moment : Nat} {device : DeviceState}, Covered state moment device →
        Accepts state moment device ∨ ∃ other, some { flush with writing := true } = some other ∧
          moment ≤ other.moment ∧ other.snapshot.device = some device := by
      rintro moment device (accepted | ⟨other, isOther, isPast, isDevice⟩)
      · exact .inl accepted
      · obtain rfl : flush = other := Option.some.inj (isRunning.symm.trans isOther)
        exact .inr ⟨_, rfl, isPast, isDevice⟩
    have closing : ((∃ other, some { flush with writing := true } = some other ∧
        other.waiter = .last) ∨ state.stage.resolved = true) → Closing state := by
      rintro (⟨other, isOther, isLast⟩ | isResolved)
      · cases isOther
        exact .inl ⟨flush, isRunning, isLast⟩
      · exact .inr isResolved
    refine { saved with
      queued := fun moment device isIn => (saved.queued moment device isIn).imp_left covered
      running := fun other moment device isOther isSave => ?_
      writing := fun isClosing other isOther => ?_
      request := fun isClosing request isRequest => ?_ }
    · cases isOther
      exact covered (saved.running flush moment device isRunning isSave)
    · cases isOther
      exact saved.writing (closing isClosing) flush isRunning
    · cases isRequest
      exact saved.writing (closing isClosing) flush isRunning
  | accepts request isRequest =>
    refine saved.accept ?_ isRequest
    rfl
  | refuses request => exact { saved with request := fun _ _ none => by cases none }
  | answered flush version isRunning isReply =>
    have unbroken := shape.unbroken_of_running isRunning
    obtain ⟨entry, taken⟩ := ledger.taken unbroken isRunning isReply
    have isIn : entry ∈ state.accepted := List.mem_of_getLast? taken.last
    -- the running snapshot has been accepted
    have accepted : ∀ {moment : Nat} {device : DeviceState}, Covered state moment device →
        Accepts state moment device := by
      rintro moment device (accepted | ⟨other, isOther, isPast, isDevice⟩)
      · exact accepted
      · obtain rfl : flush = other := Option.some.inj (isRunning.symm.trans isOther)
        exact ⟨entry, isIn, isPast.trans taken.moment.ge, taken.snapshot ▸ isDevice⟩
    have idle : Saved key { state with version, running := none, reply := none } :=
      { saved with
        queued := fun moment device isQueued =>
          (saved.queued moment device isQueued).imp_left fun covered => .inl (accepted covered)
        running := fun _ _ _ isNone => by cases isNone
        writing := fun _ _ isNone => by cases isNone
        request := fun _ request isRequest => by
          rw [show state.request = none from taken.request] at isRequest
          cases isRequest }
    refine idle.resolve (fun moment device isSave => ?_) fun isLast => ⟨?_, rfl, taken.request⟩
    · exact accepted (saved.running flush moment device isRunning isSave)
    · have same := saved.writing (.inl ⟨flush, isRunning, isLast⟩) flush isRunning
      show state.kept key = some state.store
      rw [State.kept, taken.last, ← same, ← taken.snapshot]
  | answeredLost =>
    have lost : Saved key { state with lost := true, reply := none } := saved.lose none
    exact lost.reject _
  | writeFails =>
    have failed : Saved key { state with failed := some state.issued, reply := none } :=
      { saved with }
    exact failed.reject _
  | renewLost => exact saved.lose state.reply
  | cleanedLost outcome asked isCleaning =>
    refine saved.settle (fun isResolved => ?_) (fun isAsked => ?_)
      (shape.begun (by rw [isCleaning]; rfl))
    · rw [isCleaning]
      cases outcome
      · rfl
      · cases isResolved
    · rcases known.asked isAsked with ⟨_, other⟩ | ⟨_, other⟩
      · cases isCleaning ▸ other
      · cases isCleaning ▸ other
  | cleaned outcome asked isCleaning =>
    refine saved.staged (fun isResolved => ?_) (fun _ => Stage.noConfusion) _
    rw [isCleaning]
    cases outcome
    · rfl
    · cases isResolved
  | released outcome lease arrives isReleasing isLease =>
    have arrived : arrives = true := clean
    refine saved.settle (fun isResolved => ?_) (fun _ other isOther => ?_)
      (shape.begun (by rw [isReleasing]; rfl))
    · rw [isReleasing]
      cases outcome
      · rfl
      · cases isResolved
    obtain rfl : lease = other := Option.some.inj (isLease.symm.trans isOther)
    rw [if_pos arrived, LeaseServer.release]
    split
    · intro isLive
      cases isLive
    · rename_i isDead
      exact isDead
  | expires | otherReleases =>
    exact { saved with released := fun _ _ _ _ _ isLive => by cases isLive }
  | otherAcquires =>
    refine { saved with released := fun _ _ _ lease isLease isLive => ?_ }
    have older := ledger.freshLease lease isLease
    rw [← Option.some.inj isLive] at older
    exact absurd older (Nat.lt_irrefl _)
  | otherWrites => exact { saved with }

end Saved

/-! ## Linear history -/

/-- The last accepted blob, at first that of the lease. -/
def State.lastBlob (state : State Ciphertext) : Option (Blob Ciphertext) :=
  match state.accepted.getLast? with
  | some entry => some entry.blob
  | none => state.lease.bind (·.blob)

/-- **What is promised of hosted state**: one linear history, which a call that resolves leaves at
its final state, and a lease that is released. -/
structure Linear (key : SealKey Ciphertext) (state : State Ciphertext) : Prop where
  final : state.stage = .settled .resolved → key.restore state.lastBlob = some state.store
  states : ∀ entry ∈ state.accepted, state.states[entry.moment]? = some entry.snapshot ∧
    ∃ nonce, entry.blob = key.seal nonce entry.snapshot.toBytes
  moments : state.accepted.Pairwise (·.moment < ·.moment)
  versions : ∀ lease, state.lease = some lease →
    state.accepted.map (·.version) = List.range' (lease.version + 1) state.accepted.length
  afterFailure : ∀ serial, state.failed = some serial →
    ∀ entry ∈ state.accepted, entry.serial ≤ serial
  saved : ∀ save ∈ state.saves, ∃ entry ∈ state.accepted,
    save.1 ≤ entry.moment ∧ entry.snapshot.device = some save.2
  released : ∀ outcome lease, state.stage = .settled outcome → state.lease = some lease →
    state.leaseLost = false → state.releaseAsked = true ∧ state.server.token ≠ some lease.token

/-- All that runs keep under the conditions. -/
structure Inv (key : SealKey Ciphertext) (state : State Ciphertext) : Prop where
  shape : Shape state
  ledger : Ledger key state
  known : LeaseKnown state
  saved : Saved key state

namespace Inv

theorem start (key : SealKey Ciphertext) : Inv key HostedStore.start := by
  have shape : Shape (HostedStore.start : State Ciphertext) := Shape.start
  have unopened := shape.unopened rfl
  refine ⟨shape, .of_unopened unopened rfl (fun _ isLive => ?_) (fun _ isLease => ?_)
    (fun _ isLease => ?_) (fun _ isLease => ?_), LeaseKnown.start,
    .of_unopened unopened rfl rfl fun _ _ => Stage.noConfusion⟩
  · cases isLive
  · cases isLease
  · cases isLease
  · cases isLease

theorem step
    (inv : Inv key state)
    (clean : Clean key maxRowsPerGroup state input) :
    Inv key (HostedStore.step key maxRowsPerGroup state input) := by
  have moves := step_moves key maxRowsPerGroup state input
  exact ⟨inv.shape.step moves, inv.ledger.step inv.shape moves,
    inv.known.step inv.shape inv.ledger moves,
    inv.saved.step inv.shape inv.ledger inv.known clean moves⟩

theorem restore_lastBlob
    (inv : Inv key state)
    (isOpened : state.opened = true)
    {snapshot : Snapshot}
    (isKept : state.kept key = some snapshot) :
    key.restore state.lastBlob = some snapshot := by
  rw [State.kept] at isKept
  rw [State.lastBlob]
  cases isLast : state.accepted.getLast? with
  | none =>
    rw [isLast] at isKept
    obtain ⟨lease, isLease⟩ := inv.shape.leased isOpened
    rw [isLease] at isKept ⊢
    exact isKept
  | some entry =>
    rw [isLast] at isKept
    obtain rfl : entry.snapshot = snapshot := Option.some.inj isKept
    have ok := inv.ledger.entries entry (List.mem_of_getLast? isLast)
    obtain ⟨nonce, isSealed⟩ := ok.isSealed
    have isPlain := inv.saved.plain isOpened _ (List.mem_of_getElem? ok.taken)
    show key.restore (some entry.blob) = some entry.snapshot
    rw [isSealed]
    exact restore_seal key isPlain nonce

theorem linear (inv : Inv key state) : Linear key state where
  final isSettled := by
    have isKept := inv.saved.closed (by rw [isSettled]; rfl)
    have isOpened : state.opened = true := by
      by_contra notOpened
      have unopened := inv.shape.unopened (Bool.eq_false_iff.mpr notOpened)
      have none : state.lease = none := by
        by_contra leased
        obtain ⟨lease, isLease⟩ := Option.ne_none_iff_exists'.mp leased
        exact notOpened (inv.saved.opened _ lease isSettled isLease)
      rw [State.kept, unopened.accepted, none] at isKept
      cases isKept
    exact inv.restore_lastBlob isOpened isKept
  states entry isIn := ⟨(inv.ledger.entries entry isIn).taken,
    (inv.ledger.entries entry isIn).isSealed⟩
  moments := inv.ledger.moments
  versions := inv.ledger.versions
  afterFailure serial isFailed entry isIn := by
    rw [inv.ledger.failed serial isFailed]
    exact (inv.ledger.entries entry isIn).serial
  saved := inv.saved.saves
  released outcome lease isSettled isLease notLost := by
    have isOpened := inv.saved.opened outcome lease isSettled isLease
    have isAsked : state.releaseAsked = true := by
      refine (inv.known.settled outcome isSettled isOpened).resolve_right fun isLost => ?_
      cases notLost ▸ isLost
    exact ⟨isAsked, inv.saved.released outcome isSettled isAsked lease isLease⟩

end Inv

/-- **Hosted state is one linear history** in every run in which the lease's blob opens, no call
writes a key that the codec reserves, changes the store once the last flush has its snapshot, or
changes the device state while a save waits for one, and the release gets through. -/
theorem hosted_state_linear
    (key : SealKey Ciphertext)
    (maxRowsPerGroup : Nat)
    (inputs : List (Input Ciphertext))
    (clean : Along (step key maxRowsPerGroup) (Clean key maxRowsPerGroup) start inputs) :
    Linear key (reached key maxRowsPerGroup inputs) := by
  have preserved : ∀ state input, Inv key state → Clean key maxRowsPerGroup state input →
      Inv key (step key maxRowsPerGroup state input) := fun _ _ inv isClean => inv.step isClean
  exact (Along.invariant preserved clean (Inv.start key)).linear

/-- A cipher for runs on fixed inputs. -/
def identityKey : SealKey Json := ⟨fun _ plain => plain, fun _ plain => some plain, fun _ _ => rfl⟩

/-- A call saves its device state, returns, and releases the lease. -/
theorem saved_device_is_kept :
    Linear identityKey (reached identityKey 500
      [.acquireAnswered false, .opens, .call (.saveDevice ⟨[1], "mcp-x"⟩), .flushTurn, .seals [],
        .writeArrives, .writeAnswered, .fnReturns, .flushTurn, .cleaned, .released true]) := by
  refine hosted_state_linear identityKey 500 _ ⟨trivial, fun _ lease isLease => ?_,
    fun _ => ⟨trivial, fun isClosing => ?_, fun _ _ _ isIn => ?_⟩, trivial, trivial, trivial,
    trivial, trivial, trivial, trivial, rfl, trivial⟩
  · cases isLease
    exact Option.some_ne_none _
  · rcases isClosing with ⟨_, isRunning, -⟩ | isResolved
    · cases isRunning
    · cases isResolved
  · exact absurd isIn List.not_mem_nil

/-- A blob that does not open rejects the call, which keeps the lease. -/
theorem unreadable_blob_keeps_lease :
    ¬Linear identityKey (reached identityKey 500
      [.otherAcquires, .otherWrites (.short []), .otherReleases, .acquireAnswered false,
        .opens]) := by
  intro linear
  have released := linear.released .rejected ⟨1, 1, some (.short [])⟩ rfl rfl rfl
  cases released.1

end MessagingStack.Sdk.HostedStore

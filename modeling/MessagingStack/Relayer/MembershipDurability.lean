import MessagingStack.Relayer.MembershipPostgres

/-!
# A durable cursor and durable membership

Checkpoint ingestion of `services/membership_sync.rs` over the Postgres membership store, one
database statement at a time, with failures and restarts between any two.  The cursor is written
whatever became of the writes, so a failed one is lost once the cursor has passed it
(`failed_grant_is_lost`); `durable_cursor_durable_membership` has the condition under which the
restarted store is the chain's.
-/

namespace MessagingStack.Relayer.MembershipDurability

open MembershipSync hiding applyEvent
open PostgresMembership

/-! ## What a call is going to do -/

/-- One store operation of an ingestion. -/
inductive Op where
  | event (event : GroupsEvent)
  /-- `last_cursor` and `set_last_checkpoint_cursor`. -/
  | saveCursor (cursor : Nat)
  | clearAll
  deriving DecidableEq

/-- The checkpoints a call goes through, each with whether its contents were there. -/
structure Plan where
  /-- The cursor was below the last one, which is taken for a chain regenesis. -/
  rewinds : Bool
  visits : List (Nat × Bool)
  deriving DecidableEq

/-- The operations for one checkpoint: its events, then the cursor. -/
def visitOps (chain : Nat → Checkpoint) (visit : Nat × Bool) : List Op :=
  (if visit.2 then (chain visit.1).groupsEvents.map .event else []) ++ [.saveCursor visit.1]

def Plan.ops (chain : Nat → Checkpoint) (plan : Plan) : List Op :=
  (if plan.rewinds then [.clearAll] else []) ++ plan.visits.flatMap (visitOps chain)

/-- `replay_checkpoints` over `count` checkpoints from `seq` on; `false` when a fetch
failed. -/
def replayVisits (ledger : Nat → Fetch) : (count seq : Nat) → Bool × List (Nat × Bool)
  | 0, _ => (true, [])
  | count + 1, seq =>
    match ledger seq with
    | .served =>
      let rest := replayVisits ledger count (seq + 1)
      (rest.1, (seq, true) :: rest.2)
    | .withoutBody | .notFound =>
      let rest := replayVisits ledger count (seq + 1)
      (rest.1, (seq, false) :: rest.2)
    | .failed => (false, [])

def ingestPlan (config : Config) (lastCursor : Option Nat) (cursor : Nat) (body : Bool)
    (ledger : Nat → Fetch) : Plan :=
  match lastCursor with
  | none => ⟨false, [(cursor, body)]⟩
  | some last =>
    if cursor < last then ⟨true, [(cursor, body)]⟩
    else if cursor ≤ last then ⟨false, []⟩
    else
      match backfillRange last cursor config.backfillMax with
      | none => ⟨false, [(cursor, body)]⟩
      | some (start, stop, _) =>
        match replayVisits ledger (stop - start) start with
        | (true, visits) => ⟨false, visits ++ [(cursor, body)]⟩
        | (false, visits) => ⟨false, visits⟩

/-! ## The machine -/

/-- The process and its database. -/
structure State where
  inner : MembershipStore
  lastCursor : Option Nat
  db : Db
  /-- What is left of the `run_db` call under way. -/
  statements : List Statement
  /-- What is left of the ingestion under way. -/
  pending : List Op
  /-- A failure in this process kept a change from the table.  No function reads it. -/
  missed : Bool
  /-- The table was changed since the cursor was last saved.  No function reads it. -/
  unsaved : Bool

/-- Begin an operation: its effect in memory, and the statements it is going to run. -/
def startOp (config : Config) (state : State) : Op → State
  | .event event =>
    { state with
      inner := (applyEvent config state.inner event).1
      statements := (applyEvent config state.inner event).2 }
  | .saveCursor cursor =>
    { state with lastCursor := some cursor, statements := [.saveCursor cursor] }
  | .clearAll =>
    { state with
      inner := (clearAll state.inner).1
      lastCursor := none
      statements := (clearAll state.inner).2 }

/-- Go on to the next statement, through operations that have none. -/
def settle (config : Config) : List Op → State → State
  | [], state => { state with pending := [] }
  | op :: rest, state =>
    match (startOp config state op).statements with
    | [] => settle config rest (startOp config state op)
    | _ :: _ => { startOp config state op with pending := rest }

/-- What happens next. -/
inductive Input where
  | replay (start stop : Nat) (ledger : Nat → Fetch)
  | ingest (cursor : Nat) (body : Bool) (ledger : Nat → Fetch)
  /-- The database answers the next statement. -/
  | write (succeeds : Bool)
  /-- The process ends, wherever it is, and a new one loads the table and reads the
  cursor, which can fail. -/
  | restart (cursorRead : Bool)

def planOf (config : Config) (state : State) : Input → Plan
  | .replay start stop ledger => ⟨false, (replayVisits ledger (stop - start) start).2⟩
  | .ingest cursor body ledger => ingestPlan config state.lastCursor cursor body ledger
  | .write _ | .restart _ => ⟨false, []⟩

/-- No call is under way. -/
def State.Idle (state : State) : Prop := state.statements = [] ∧ state.pending = []

instance (state : State) : Decidable state.Idle := inferInstanceAs (Decidable (_ ∧ _))

/-- Whether a table was changed. -/
def changed (before after : Db) : Bool := decide (after.rows ≠ before.rows)

/-- The database after a statement that succeeds. -/
def written (state : State) (statement : Statement) (rest : List Statement) : State :=
  { state with
    db := statement.run state.db
    statements := rest
    unsaved :=
      match statement with
      | .saveCursor _ => false
      | _ => state.unsaved || changed state.db (statement.run state.db) }

def succeed (config : Config) (state : State) (statement : Statement)
    (rest : List Statement) : State :=
  match rest with
  | [] => settle config state.pending (written state statement rest)
  | _ :: _ => written state statement rest

/-- A statement fails, and with it what is left of its `run_db` call. -/
def fail (config : Config) (state : State) : State :=
  settle config state.pending
    { state with
      statements := []
      missed := state.missed || changed state.db (state.statements.foldl Statement.run state.db) }

/-- A new process on the database. -/
def restarted (state : State) (cursorRead : Bool) : State where
  inner := loadFromDb state.db.rows
  lastCursor := if cursorRead then state.db.lastCursor else none
  db := state.db
  statements := []
  pending := []
  missed := false
  unsaved := state.unsaved

def step (config : Config) (chain : Nat → Checkpoint) (state : State) (input : Input) : State :=
  match input with
  | .replay .. | .ingest .. =>
    if state.Idle then settle config ((planOf config state input).ops chain) state else state
  | .write succeeds =>
    match state.statements with
    | [] => state
    | statement :: rest =>
      if succeeds then succeed config state statement rest else fail config state
  | .restart cursorRead => restarted state cursorRead

/-- A first process on empty tables. -/
def start : State where
  inner := .new
  lastCursor := none
  db := .new
  statements := []
  pending := []
  missed := false
  unsaved := false

def reached (config : Config) (chain : Nat → Checkpoint) (inputs : List Input) : State :=
  inputs.foldl (step config chain) start

/-! ## The condition on a step -/

/-- The number of the first checkpoint behind a cursor. -/
def behind : Option Nat → Nat
  | none => 0
  | some cursor => cursor + 1

/-- The number of the checkpoint the process has to go on with. -/
def State.position (state : State) : Nat := behind (state.lastCursor.or state.db.lastCursor)

/-- Nothing of a checkpoint concerns the membership. -/
def Quiet (chain : Nat → Checkpoint) (seq : Nat) : Prop := (chain seq).groupsEvents = []

/-- The visits go on where the process is, and pass over quiet checkpoints only: whether
they are left out or their contents were not there. -/
def Continues (chain : Nat → Checkpoint) : Nat → List (Nat × Bool) → Prop
  | _, [] => True
  | next, visit :: rest =>
    next ≤ visit.1 ∧ (∀ seq, next ≤ seq → seq < visit.1 → Quiet chain seq) ∧
      (visit.2 = true ∨ Quiet chain visit.1) ∧ Continues chain (visit.1 + 1) rest

/-- The condition under which a step keeps the table the chain's: a call leaves out no
event; the cursor is not saved by a process that a failure kept from changing the table;
and the process does not end with the table changed since the cursor was saved. -/
def Good (config : Config) (chain : Nat → Checkpoint) (state : State) (input : Input) : Prop :=
  match input with
  | .replay .. | .ingest .. =>
    state.Idle → (planOf config state input).rewinds = false ∧
      Continues chain state.position (planOf config state input).visits
  | .write succeeds =>
    succeeds = true → ∀ cursor, state.statements.head? = some (.saveCursor cursor) →
      state.missed = false
  | .restart _ => state.unsaved = false

/-! ## What the chain says -/

def eventsBefore (chain : Nat → Checkpoint) (count : Nat) : List GroupsEvent :=
  (List.range count).flatMap fun seq => (chain seq).groupsEvents

def membershipUpTo (config : Config) (chain : Nat → Checkpoint) (cursor : Option Nat) :
    MembershipStore :=
  replayed config chain (List.range (behind cursor)) .new

/-- Two stores answer every read alike. -/
structure SameReads (left right : MembershipStore) : Prop where
  hasPermission : ∀ groupId address permission,
    left.hasPermission groupId address permission = right.hasPermission groupId address permission
  isMember : ∀ groupId address, left.isMember groupId address = right.isMember groupId address
  listMemberAddresses : ∀ groupId address,
    address ∈ left.listMemberAddresses groupId ↔ address ∈ right.listMemberAddresses groupId
  groupsForMember : ∀ address, left.groupsForMember address = right.groupsForMember address

variable {state : State} {finished : List GroupsEvent} {left right : MembershipStore}
  {chain : Nat → Checkpoint} {statement : Statement}

theorem sameReads_of_permissions (leftIndexed : left.Indexed) (rightIndexed : right.Indexed)
    (same : ∀ groupId address permission, left.hasPermission groupId address permission = true ↔
      right.hasPermission groupId address permission = true)
    :
    SameReads left right := by
  have members : ∀ groupId address,
      left.isMember groupId address = true ↔ right.isMember groupId address = true := by
    intro groupId address
    rw [MembershipStore.isMember_iff, MembershipStore.isMember_iff]
    exact exists_congr fun permission => same groupId address permission
  refine ⟨?_, ?_, ?_, ?_⟩
  · intro groupId address permission
    exact Bool.eq_iff_iff.mpr (same groupId address permission)
  · intro groupId address
    exact Bool.eq_iff_iff.mpr (members groupId address)
  · intro groupId address
    rw [MembershipStore.mem_listMemberAddresses, MembershipStore.mem_listMemberAddresses]
    exact members groupId address
  intro address
  refine Finset.ext fun groupId => ?_
  rw [leftIndexed, rightIndexed]
  exact members groupId address

theorem eventsBefore_succ (chain : Nat → Checkpoint) (count : Nat) :
    eventsBefore chain (count + 1) = eventsBefore chain count ++ (chain count).groupsEvents := by
  simp [eventsBefore, List.range_succ]

theorem eventsBefore_quiet {first last : Nat} (le : first ≤ last)
    (quiet : ∀ seq, first ≤ seq → seq < last → Quiet chain seq) :
    eventsBefore chain last = eventsBefore chain first := by
  induction last, le using Nat.le_induction with
  | base => rfl
  | succ last le ih =>
    rw [eventsBefore_succ, ih fun seq above below => quiet seq above (Nat.lt_succ_of_lt below),
      quiet last le (Nat.lt_succ_self last), List.append_nil]

theorem replayed_eq (config : Config) (chain : Nat → Checkpoint) (seqs : List Nat)
    (store : MembershipStore) :
    replayed config chain seqs store =
      (seqs.flatMap fun seq => (chain seq).groupsEvents).foldl (apply config) store := by
  unfold replayed
  induction seqs generalizing store with
  | nil => rfl
  | cons seq rest ih => rw [List.foldl_cons, ih, List.flatMap_cons, List.foldl_append]

theorem membershipUpTo_eq (config : Config) (chain : Nat → Checkpoint) (cursor : Option Nat) :
    membershipUpTo config chain cursor =
      (eventsBefore chain (behind cursor)).foldl (apply config) .new :=
  replayed_eq config chain _ _

theorem indexed_foldl (config : Config) (events : List GroupsEvent) {store : MembershipStore}
    (indexed : store.Indexed) : (events.foldl (apply config) store).Indexed := by
  induction events generalizing store with
  | nil => exact indexed
  | cons event rest ih => exact ih (indexed_apply config indexed event)

theorem indexed_membershipUpTo (config : Config) (chain : Nat → Checkpoint)
    (cursor : Option Nat) : (membershipUpTo config chain cursor).Indexed := by
  rw [membershipUpTo_eq]
  exact indexed_foldl config _ MembershipStore.indexed_new

/-! ## The invariant -/

/-- Doing `pending` after the events `done` saves each cursor when the events of all
checkpoints up to it are done, and ends with those in front of `next`. -/
def Aligned (chain : Nat → Checkpoint) : List GroupsEvent → Nat → List Op → Prop
  | finished, next, [] => finished = eventsBefore chain next
  | finished, next, .event event :: rest => Aligned chain (finished ++ [event]) next rest
  | finished, _, .saveCursor cursor :: rest =>
    finished = eventsBefore chain (cursor + 1) ∧ Aligned chain finished (cursor + 1) rest
  | _, _, .clearAll :: _ => False

theorem aligned_events {next : Nat} {rest : List Op} (events finished : List GroupsEvent)
    (aligned : Aligned chain (finished ++ events) next rest) :
    Aligned chain finished next (events.map .event ++ rest) := by
  induction events generalizing finished with
  | nil => simpa using aligned
  | cons event events ih =>
    refine ih (finished ++ [event]) ?_
    rwa [List.append_assoc, List.singleton_append]

theorem aligned_visits {visits : List (Nat × Bool)} {next : Nat}
    (continues : Continues chain next visits) :
    Aligned chain (eventsBefore chain next) next (visits.flatMap (visitOps chain)) := by
  induction visits generalizing next with
  | nil => rfl
  | cons visit rest ih =>
    obtain ⟨ahead, leftOut, contents, continues⟩ := continues
    obtain ⟨seq, served⟩ := visit
    have upTo : eventsBefore chain seq = eventsBefore chain next := eventsBefore_quiet ahead leftOut
    have afterwards : ∀ finished, finished = eventsBefore chain (seq + 1) →
        Aligned chain finished next (.saveCursor seq :: rest.flatMap (visitOps chain)) := by
      rintro finished rfl
      exact ⟨rfl, ih continues⟩
    rw [List.flatMap_cons]
    cases served with
    | true =>
      have shape : visitOps chain (seq, true) ++ rest.flatMap (visitOps chain) =
          (chain seq).groupsEvents.map .event ++
            (.saveCursor seq :: rest.flatMap (visitOps chain)) := by
        simp [visitOps]
      rw [shape]
      refine aligned_events _ _ (afterwards _ ?_)
      rw [eventsBefore_succ, upTo]
    | false =>
      have quiet : Quiet chain seq := contents.resolve_left Bool.false_ne_true
      refine afterwards _ ?_
      rw [eventsBefore_succ, quiet, List.append_nil, upTo]

/-- Two stores give every permission test the same answer. -/
def SameTests (left right : MembershipStore) : Prop :=
  ∀ groupId address permission,
    left.hasPermission groupId address permission = true ↔
      right.hasPermission groupId address permission = true

theorem sameTests_apply (config : Config) (same : SameTests left right) (event : GroupsEvent) :
    SameTests (apply config left event) (apply config right event) := by
  intro groupId address permission
  cases event with
  | memberAdded =>
    rw [hasPermission_apply_added, hasPermission_apply_added]
    exact same groupId address permission
  | memberRemoved =>
    simp only [apply]
    split_ifs
    · exact same groupId address permission
    · rw [MembershipStore.hasPermission_removeMember,
        MembershipStore.hasPermission_removeMember, same groupId address permission]
  | permissionsGranted =>
    simp only [apply]
    rw [MembershipStore.hasPermission_grantPermissions,
      MembershipStore.hasPermission_grantPermissions, same groupId address permission]
  | permissionsRevoked =>
    rw [hasPermission_apply_revoked, hasPermission_apply_revoked, same groupId address permission]

/-- The statement writes permissions, or saves the cursor the process is at. -/
def Expected (chain : Nat → Checkpoint) (finished : List GroupsEvent)
    (lastCursor : Option Nat) : Statement → Prop
  | .insertPermission _ | .deletePermission _ | .deleteMember _ _ => True
  | .saveCursor cursor => finished = eventsBefore chain (cursor + 1) ∧ lastCursor = some cursor
  | .truncate | .clearCursor => False

def WritesPermissions : Statement → Prop
  | .insertPermission _ | .deletePermission _ | .deleteMember _ _ => True
  | .saveCursor _ | .truncate | .clearCursor => False

/-- The state of the process after the events `finished`. -/
structure Follows (config : Config) (chain : Nat → Checkpoint)
    (finished : List GroupsEvent) (state : State) : Prop where
  inner : SameTests state.inner (finished.foldl (apply config) .new)
  aligned : Aligned chain finished state.position state.pending
  expected : ∀ statement ∈ state.statements, Expected chain finished state.lastCursor statement
  alone : ∀ cursor, .saveCursor cursor ∈ state.statements → state.statements = [.saveCursor cursor]
  table : state.missed = false →
    Mirrors (state.statements.foldl Statement.run state.db).rows state.inner
  saved : state.unsaved = false →
    Mirrors state.db.rows (membershipUpTo config chain state.db.lastCursor)

/-- The invariant of a run. -/
def InStep (config : Config) (chain : Nat → Checkpoint) (state : State) : Prop :=
  ∃ finished, Follows config chain finished state

variable {config : Config} {chain : Nat → Checkpoint}

theorem follows_start : Follows config chain [] start := by
  refine ⟨fun _ _ _ => Iff.rfl, rfl, ?_, ?_, fun _ => mirrors_new, fun _ => mirrors_new⟩
  · intro statement present
    exact absurd present List.not_mem_nil
  · intro cursor present
    exact absurd present List.not_mem_nil

theorem writesPermissions_applyEvent (config : Config) (inner : MembershipStore)
    (event : GroupsEvent) :
    ∀ statement ∈ (applyEvent config inner event).2, WritesPermissions statement := by
  have inserts : ∀ (groupId address : String) (permissions : List MessagingPermission),
      ∀ statement ∈ permissions.map fun permission =>
        Statement.insertPermission ⟨groupId, address, permission.asStr⟩,
      WritesPermissions statement := by
    intro groupId address permissions statement present
    obtain ⟨permission, -, rfl⟩ := List.mem_map.mp present
    exact trivial
  cases event with
  | memberAdded groupId member =>
    simp only [applyEvent]
    split_ifs
    · exact fun _ present => absurd present List.not_mem_nil
    · exact inserts groupId member []
  | memberRemoved =>
    simp only [applyEvent]
    split_ifs
    · exact fun _ present => absurd present List.not_mem_nil
    · intro statement present
      rw [List.mem_singleton.mp present]
      exact trivial
  | permissionsGranted groupId member permissions => exact inserts groupId member permissions
  | permissionsRevoked groupId member permissions =>
    simp only [applyEvent, revokePermissions]
    cases inner.revokePermissions groupId member permissions with
    | error => exact fun _ present => absurd present List.not_mem_nil
    | ok =>
      intro statement present
      obtain ⟨permission, -, rfl⟩ := List.mem_map.mp present
      exact trivial

/-- Beginning an operation keeps the invariant, with its event done in memory. -/
theorem follows_startOp {op : Op} {rest : List Op} (quiet : state.statements = [])
    (follows : Follows config chain finished { state with pending := op :: rest }) :
    ∃ finished', Follows config chain finished'
      { startOp config state op with pending := rest } := by
  cases op with
  | event event =>
    have writes := writesPermissions_applyEvent config state.inner event
    refine ⟨finished ++ [event], ?_, follows.aligned, ?_, ?_, ?_, follows.saved⟩
    · rw [List.foldl_append]
      show SameTests (applyEvent config state.inner event).1 _
      rw [applyEvent_fst]
      exact sameTests_apply config follows.inner event
    · intro statement present
      have only := writes statement present
      cases statement <;> first | exact trivial | exact absurd only id
    · intro cursor present
      exact absurd (writes (.saveCursor cursor) present) id
    intro complete
    refine mirrors_applyEvent config ?_ event
    have before := follows.table complete
    rwa [show ({ state with pending := _ } : State).statements = [] from quiet] at before
  | saveCursor =>
    obtain ⟨there, aligned⟩ := follows.aligned
    refine ⟨finished, follows.inner, aligned, ?_, ?_, ?_, follows.saved⟩
    · intro statement present
      rw [List.mem_singleton.mp present]
      exact ⟨there, rfl⟩
    · intro other present
      rw [List.mem_singleton.mp present]
      rfl
    · intro complete
      have before := follows.table complete
      rwa [show ({ state with pending := _ } : State).statements = [] from quiet] at before
  | clearAll => exact absurd follows.aligned id

theorem follows_settle {pending : List Op} (quiet : state.statements = [])
    (follows : Follows config chain finished { state with pending := pending }) :
    ∃ finished', Follows config chain finished' (settle config pending state) := by
  induction pending generalizing state finished with
  | nil => exact ⟨finished, follows⟩
  | cons op rest ih =>
    obtain ⟨finished', started⟩ := follows_startOp quiet follows
    unfold settle
    cases statements : (startOp config state op).statements with
    | nil => exact ih statements started
    | cons => exact ⟨finished', started⟩

theorem lastCursor_run (writes : WritesPermissions statement) (db : Db) :
    (statement.run db).lastCursor = db.lastCursor := by
  cases statement with
  | insertPermission =>
    simp only [Statement.run]
    split_ifs <;> rfl
  | deletePermission | deleteMember => rfl
  | saveCursor | truncate | clearCursor => exact absurd writes id

/-- A table that has the permissions of the chain up to some point does so for every store
with those permissions. -/
theorem Mirrors.of_sameTests {rows : List Row} (mirrors : Mirrors rows left)
    (same : SameTests left right) : Mirrors rows right :=
  fun groupId address permission =>
    (mirrors groupId address permission).trans (same groupId address permission)

section

variable (follows : Follows config chain finished state)
include follows

theorem follows_written {rest : List Statement} (statements : state.statements = statement :: rest)
    (complete : ∀ cursor, statement = .saveCursor cursor → state.missed = false) :
    Follows config chain finished (written state statement rest) := by
  have later : ∀ other ∈ rest, Expected chain finished state.lastCursor other := by
    intro other present
    exact follows.expected other (statements ▸ List.mem_cons_of_mem statement present)
  have here := follows.expected statement (statements ▸ List.mem_cons_self)
  have table := follows.table
  rw [statements, List.foldl_cons] at table
  by_cases writes : WritesPermissions statement
  · -- a statement of an event leaves the cursor alone
    have cursor := lastCursor_run writes state.db
    have position : behind (state.lastCursor.or (statement.run state.db).lastCursor) =
        state.position := by
      rw [cursor, State.position]
    refine ⟨follows.inner, ?_, later, ?_, table, ?_⟩
    · show Aligned chain finished
        (behind (state.lastCursor.or (statement.run state.db).lastCursor)) state.pending
      rw [position]
      exact follows.aligned
    · intro cursor present
      have whole := follows.alone cursor (statements ▸ List.mem_cons_of_mem statement present)
      rw [statements] at whole
      obtain ⟨rfl, -⟩ := List.cons.inj whole
      exact absurd writes id
    intro saved
    have unchanged : state.unsaved = false ∧
        changed state.db (statement.run state.db) = false := by
      cases statement <;> first | exact Bool.or_eq_false_iff.mp saved | exact absurd writes id
    obtain ⟨savedBefore, sameRows⟩ := unchanged
    have rows : (statement.run state.db).rows = state.db.rows := by simpa [changed] using sameRows
    show Mirrors (statement.run state.db).rows
      (membershipUpTo config chain (statement.run state.db).lastCursor)
    rw [rows, cursor]
    exact follows.saved savedBefore
  cases statement with
  | saveCursor cursor =>
    obtain ⟨finishedHere, lastCursor⟩ := here
    have whole := follows.alone cursor (statements ▸ List.mem_cons_self)
    rw [statements] at whole
    obtain ⟨-, rfl⟩ := List.cons.inj whole
    have mirrors : Mirrors state.db.rows state.inner := table (complete cursor rfl)
    refine ⟨follows.inner, ?_, later, ?_, fun _ => mirrors, fun _ => ?_⟩
    · show Aligned chain finished (behind (state.lastCursor.or (some cursor))) state.pending
      have aligned := follows.aligned
      rw [State.position, lastCursor] at aligned
      rwa [lastCursor]
    · intro other present
      exact absurd present List.not_mem_nil
    show Mirrors state.db.rows (membershipUpTo config chain (some cursor))
    refine Mirrors.of_sameTests mirrors ?_
    rw [membershipUpTo_eq]
    have inner := follows.inner
    rwa [finishedHere] at inner
  | insertPermission | deletePermission | deleteMember => exact absurd trivial writes
  | truncate | clearCursor => exact absurd here id

theorem follows_succeed {rest : List Statement} (statements : state.statements = statement :: rest)
    (complete : ∀ cursor, statement = .saveCursor cursor → state.missed = false) :
    ∃ finished', Follows config chain finished' (succeed config state statement rest) := by
  have written := follows_written follows statements complete
  unfold succeed
  cases rest with
  | nil => exact follows_settle rfl written
  | cons => exact ⟨finished, written⟩

theorem follows_fail :
    ∃ finished', Follows config chain finished' (fail config state) := by
  refine follows_settle rfl ⟨follows.inner, follows.aligned, ?_, ?_, ?_, follows.saved⟩
  · exact fun _ present => absurd present List.not_mem_nil
  · exact fun _ present => absurd present List.not_mem_nil
  intro complete
  obtain ⟨completeBefore, sameRows⟩ := Bool.or_eq_false_iff.mp complete
  have rows : (state.statements.foldl Statement.run state.db).rows = state.db.rows := by
    simpa [changed] using sameRows
  have table := follows.table completeBefore
  rwa [rows] at table

/-- **A restart.**  When the table is that of the saved cursor, the new process is where
the cursor says. -/
theorem follows_restarted (saved : state.unsaved = false) (cursorRead : Bool) :
    Follows config chain (eventsBefore chain (behind state.db.lastCursor))
      (restarted state cursorRead) := by
  have mirrors := follows.saved saved
  refine ⟨?_, ?_, ?_, ?_, fun _ => mirrors_loadFromDb state.db.rows, fun _ => mirrors⟩
  · rw [membershipUpTo_eq] at mirrors
    intro groupId address permission
    exact (mirrors_loadFromDb state.db.rows groupId address permission).symm.trans
      (mirrors groupId address permission)
  · show eventsBefore chain (behind state.db.lastCursor) =
      eventsBefore chain (restarted state cursorRead).position
    cases cursorRead with
    | true =>
      show _ = eventsBefore chain (behind (state.db.lastCursor.or state.db.lastCursor))
      rw [Option.or_self]
    | false => rfl
  · exact fun _ present => absurd present List.not_mem_nil
  · exact fun _ present => absurd present List.not_mem_nil

theorem follows_call {plan : Plan} (idle : state.Idle) (forward : plan.rewinds = false)
    (continues : Continues chain state.position plan.visits) :
    ∃ finished', Follows config chain finished' (settle config (plan.ops chain) state) := by
  obtain ⟨quiet, nothing⟩ := idle
  have there := follows.aligned
  rw [nothing] at there
  have ops : plan.ops chain = plan.visits.flatMap (visitOps chain) := by simp [Plan.ops, forward]
  refine follows_settle quiet
    ⟨follows.inner, ?_, follows.expected, follows.alone, follows.table, follows.saved⟩
  show Aligned chain finished state.position (plan.ops chain)
  rw [ops, show finished = eventsBefore chain state.position from there]
  exact aligned_visits continues

end

theorem inStep_step (state : State) (input : Input) (inStep : InStep config chain state)
    (good : Good config chain state input) :
    InStep config chain (step config chain state input) := by
  obtain ⟨finished, follows⟩ := inStep
  cases input with
  | replay | ingest =>
    simp only [step]
    split_ifs with idle
    · obtain ⟨forward, continues⟩ := good idle
      exact follows_call follows idle forward continues
    · exact ⟨finished, follows⟩
  | write succeeds =>
    simp only [step]
    cases statements : state.statements with
    | nil => exact ⟨finished, follows⟩
    | cons =>
      cases succeeds with
      | true =>
        refine follows_succeed follows statements fun cursor saves => ?_
        exact good rfl cursor (by rw [statements, saves, List.head?_cons])
      | false => exact follows_fail follows
  | restart cursorRead => exact ⟨_, follows_restarted follows good cursorRead⟩

/-! ## The run theorem -/

/-- **A durable cursor implies durable membership.**  In every run whose steps meet the
condition, the store that a restarted process has loaded answers every read as the
in-order application of the Groups events of all checkpoints up to the saved cursor. -/
theorem durable_cursor_durable_membership (config : Config) (chain : Nat → Checkpoint)
    (inputs : List Input) (cursorRead : Bool)
    (along : Along (step config chain) (Good config chain) start
      (inputs ++ [.restart cursorRead])) :
    SameReads (reached config chain (inputs ++ [.restart cursorRead])).inner
      (membershipUpTo config chain
        (reached config chain (inputs ++ [.restart cursorRead])).db.lastCursor) := by
  obtain ⟨⟨finished, follows⟩, saved⟩ := Along.at_step inStep_step along ⟨[], follows_start⟩
  have after := follows_restarted follows saved cursorRead
  rw [reached, List.foldl_append]
  refine sameReads_of_permissions (indexed_loadFromDb _) (indexed_membershipUpTo config chain _) ?_
  rw [membershipUpTo_eq]
  exact after.inner

/-! ### A run that keeps a grant, and one that loses it -/

def sampleConfig : Config where
  systemObjectAddrs := []
  backfillMax := 10
  blake2b512 := fun _ => []

/-- The first checkpoint grants a permission; no later one has events. -/
def sampleChain (seq : Nat) : Checkpoint where
  timestamp := 0
  transactions :=
    if seq = 0 then [⟨"t", "0xa", [.groups (.permissionsGranted "g" "0xa" [.messagingSender])]⟩]
    else []

/-- The first checkpoint is ingested, and the database answers its two statements. -/
def sampleInputs (granted : Bool) : List Input :=
  [.ingest 0 true fun _ => .served, .write granted, .write true]

theorem durable_cursor_durable_membership_sample :
    SameReads (reached sampleConfig sampleChain (sampleInputs true ++ [.restart true])).inner
      (membershipUpTo sampleConfig sampleChain
        (reached sampleConfig sampleChain
          (sampleInputs true ++ [.restart true])).db.lastCursor) := by
  refine durable_cursor_durable_membership sampleConfig sampleChain (sampleInputs true) true ?_
  refine ⟨fun _ => ⟨rfl, ?_⟩, fun _ cursor saves => ?_, fun _ _ _ => rfl, rfl, trivial⟩
  · exact ⟨le_rfl, fun seq _ below => absurd below (Nat.not_lt_zero seq), .inl rfl, trivial⟩
  · cases saves

/-- **A failed grant is lost.**  The insert fails, the cursor is saved, and the restarted
process does not know the member that checkpoint 0 made one. -/
theorem failed_grant_is_lost :
    ¬SameReads (reached sampleConfig sampleChain (sampleInputs false ++ [.restart true])).inner
      (membershipUpTo sampleConfig sampleChain
        (reached sampleConfig sampleChain
          (sampleInputs false ++ [.restart true])).db.lastCursor) := by
  intro same
  have alike := same.hasPermission "g" "0xa" .messagingSender
  have differ : (reached sampleConfig sampleChain
        (sampleInputs false ++ [.restart true])).inner.hasPermission "g" "0xa" .messagingSender ≠
      (membershipUpTo sampleConfig sampleChain
        (reached sampleConfig sampleChain
          (sampleInputs false ++ [.restart true])).db.lastCursor).hasPermission "g" "0xa"
          .messagingSender := by
    decide +kernel
  exact differ alike

end MessagingStack.Relayer.MembershipDurability

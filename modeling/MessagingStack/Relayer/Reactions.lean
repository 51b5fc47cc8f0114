import Mathlib.Data.List.Sort
import Mathlib.Data.String.Basic
import MessagingStack.Base.Runs

/-!
# Reactions

`post_reaction` on one message and emoji, in both variants of the storage, and the
`reaction.updated` events.  An event carries the whole state, so the last one has to be right: it is
if no request publishes the newest change before an older one, and none commits after another that
it has not seen (`last_reaction_is_stored`).
-/

namespace MessagingStack.Relayer.Reactions

/-- The message and the emoji of a reaction. -/
structure Key where
  groupId : String
  chainSeq : Int
  emoji : String
  deriving DecidableEq

structure ReactionEntry where
  chainSeq : Int
  emoji : String
  count : Int
  reactors : List String
  deriving DecidableEq

structure ReactionUpdatedEvent where
  eventType : String
  groupId : String
  chainSeq : Int
  emoji : String
  count : Int
  reactors : List String
  deriving DecidableEq

def ReactionUpdatedEvent.new (groupId : String) (entry : ReactionEntry) : ReactionUpdatedEvent where
  eventType := "reaction.updated"
  groupId := groupId
  chainSeq := entry.chainSeq
  emoji := entry.emoji
  count := entry.count
  reactors := entry.reactors

/-- `len as i32`. -/
def asI32 (length : Nat) : Int := (BitVec.ofNat 32 length).toInt

variable (key : Key)

def Key.entry (reactors : List String) : ReactionEntry where
  chainSeq := key.chainSeq
  emoji := key.emoji
  count := asI32 reactors.length
  reactors := reactors

def Key.listReactions (reactors : List String) : Option ReactionEntry :=
  if reactors.isEmpty then none else some (key.entry reactors)

def change (reactors : List String) (member : String) (add : Bool) : List String :=
  if add then (if member ∈ reactors then reactors else reactors.orderedInsert (· ≤ ·) member)
  else reactors.filter (· ≠ member)

/-! ## Clients -/

/-- The count and the reactors that a client shows. -/
structure Shown where
  count : Int
  reactors : List String
  deriving DecidableEq

/-- What is shown of what the relayer lists: count 0 and no reactors without an entry. -/
def Shown.ofList : Option ReactionEntry → Shown
  | some entry => ⟨entry.count, entry.reactors⟩
  | none => ⟨0, []⟩

/-- A client shows what the last event said. -/
def Shown.apply (_ : Shown) (event : ReactionUpdatedEvent) : Shown := ⟨event.count, event.reactors⟩

/-- What is seen of a run: the reactors stored, the events broadcast, and whether requests are in
progress. -/
structure Observed where
  reactors : List String
  events : List ReactionUpdatedEvent
  idle : Bool

/-- **What is promised of a run**: whenever no request is in progress, the last event carries what
`list_reactions` returns, and a client that started with the list and applied all events shows
it. -/
def Converges {ι : Type} (initial : List String) (observe : List ι → Observed)
    (inputs : List ι) : Prop :=
  ∀ before after, inputs = before ++ after → (observe before).idle = true →
    (∀ event ∈ (observe before).events.getLast?,
      (⟨event.count, event.reactors⟩ : Shown) =
        .ofList (key.listReactions (observe before).reactors)) ∧
    (observe before).events.foldl Shown.apply (.ofList (key.listReactions initial)) =
      .ofList (key.listReactions (observe before).reactors)

/-! ## In memory -/

namespace Memory

structure State where
  reactors : List String
  /-- What has been made and is still to be published, in the order of the changes. -/
  pending : List ReactionEntry
  events : List ReactionUpdatedEvent

inductive Input where
  | setReaction (member : String) (add : Bool)
  | publish (place : Nat)

def step (state : State) : Input → State
  | .setReaction member add =>
    let changed := if add then member ∉ state.reactors else member ∈ state.reactors
    if changed then
      let reactors := change state.reactors member add
      { state with reactors, pending := state.pending ++ [key.entry reactors] }
    else state
  | .publish place =>
    match state.pending[place]? with
    | none => state
    | some entry =>
      { state with
        pending := state.pending.eraseIdx place
        events := state.events ++ [.new key.groupId entry] }

def start (initial : List String) : State := ⟨initial, [], []⟩

def observe (initial : List String) (inputs : List Input) : Observed :=
  let state := inputs.foldl (step key) (start initial)
  ⟨state.reactors, state.events, state.pending.isEmpty⟩

/-- The newest change is published after all others. -/
def Clean (state : State) : Input → Prop
  | .publish place => place + 1 = state.pending.length → place = 0
  | _ => True

end Memory

/-! ## Postgres -/

namespace Postgres

/-- A transaction that has changed the row of a member, with the other reactors that it has read
back. -/
structure Transaction where
  member : String
  add : Bool
  seen : Option (List String)
  deriving DecidableEq

structure State where
  /-- The committed rows of the key. -/
  reactors : List String
  transactions : List Transaction
  events : List ReactionUpdatedEvent
  deriving DecidableEq

inductive Input where
  /-- A transaction inserts or deletes its row. -/
  | change (member : String) (add : Bool)
  /-- It reads the reactors back and notifies. -/
  | readBack (place : Nat)
  | commit (place : Nat)
  | rollback (place : Nat)
  deriving DecidableEq

def step (state : State) : Input → State
  | .change member add =>
    -- a member with a transaction in progress waits for it, or has nothing to delete
    if state.transactions.any (·.member == member) then state
    else
      let changed := if add then member ∉ state.reactors else member ∈ state.reactors
      if changed then { state with transactions := state.transactions ++ [⟨member, add, none⟩] }
      else state
  | .readBack place =>
    { state with
      transactions := state.transactions.modify place fun transaction =>
        if transaction.seen.isSome then transaction
        else { transaction with seen := some state.reactors } }
  | .commit place =>
    match state.transactions[place]? with
    | some ⟨member, add, some seen⟩ =>
      { reactors := Reactions.change state.reactors member add
        transactions := state.transactions.eraseIdx place
        events := state.events ++
          [.new key.groupId (key.entry (Reactions.change seen member add))] }
    | _ => state
  | .rollback place => { state with transactions := state.transactions.eraseIdx place }

def start (initial : List String) : State := ⟨initial, [], []⟩

def observe (initial : List String) (inputs : List Input) : Observed :=
  let state := inputs.foldl (step key) (start initial)
  ⟨state.reactors, state.events, state.transactions.isEmpty⟩

/-- A transaction that commits has seen all that was committed before. -/
def Clean (state : State) : Input → Prop
  | .commit place => ∀ transaction ∈ state.transactions[place]?, ∀ seen ∈ transaction.seen,
    seen = state.reactors
  | _ => True

end Postgres

/-! ## Events and lists agree -/

variable {key}

theorem shown_event (reactors : List String) :
    (⟨(ReactionUpdatedEvent.new key.groupId (key.entry reactors)).count,
      (ReactionUpdatedEvent.new key.groupId (key.entry reactors)).reactors⟩ : Shown) =
      .ofList (key.listReactions reactors) := by
  rw [Key.listReactions]
  split_ifs with isEmpty
  · rw [List.isEmpty_iff.mp isEmpty]
    rfl
  · rfl

/-- The last event is of the stored reactors; before the first, they are the initial ones. -/
def UpToDate (key : Key) (initial reactors : List String) (events : List ReactionUpdatedEvent) :
    Prop :=
  match events.getLast? with
  | some event => event = .new key.groupId (key.entry reactors)
  | none => reactors = initial

theorem upToDate_append (initial reactors : List String) (events : List ReactionUpdatedEvent) :
    UpToDate key initial reactors (events ++ [.new key.groupId (key.entry reactors)]) := by
  rw [UpToDate, List.getLast?_append, List.getLast?_singleton]
  rfl

theorem converges_of_upToDate {ι : Type} {initial : List String} {observe : List ι → Observed}
    {inputs : List ι}
    (upToDate : ∀ before after, inputs = before ++ after → (observe before).idle = true →
      UpToDate key initial (observe before).reactors (observe before).events) :
    Converges key initial observe inputs := by
  intro before after split idle
  have last := upToDate before after split idle
  generalize (observe before).events = events at last
  generalize (observe before).reactors = reactors at last
  rcases List.eq_nil_or_concat events with rfl | ⟨early, event, rfl⟩
  · obtain rfl : reactors = initial := last
    exact ⟨nofun, rfl⟩
  rw [List.concat_eq_append, UpToDate, List.getLast?_append, List.getLast?_singleton] at last
  obtain rfl : event = .new key.groupId (key.entry reactors) := last
  rw [List.concat_eq_append]
  constructor
  · intro event isLast
    rw [List.getLast?_append, List.getLast?_singleton] at isLast
    obtain rfl := Option.some.inj isLast
    exact shown_event reactors
  · rw [List.foldl_append]
    exact shown_event reactors

namespace Memory

/-- What a clean run in memory keeps: the newest change is still to be published, or was published
last. -/
def Inv (key : Key) (initial : List String) (state : State) : Prop :=
  match state.pending.getLast? with
  | some entry => entry = key.entry state.reactors
  | none => UpToDate key initial state.reactors state.events

theorem inv_start (initial : List String) : Inv key initial (start initial) :=
  (rfl : initial = initial)

theorem getLast?_eraseIdx {α : Type} (entries : List α) (place : Nat)
    (early : place + 1 < entries.length) :
    (entries.eraseIdx place).getLast? = entries.getLast? := by
  rw [List.getLast?_eq_getElem?, List.getLast?_eq_getElem?, List.length_eraseIdx,
    if_pos (by omega), List.getElem?_eraseIdx, if_neg (by omega)]
  congr 1
  omega

theorem inv_step (initial : List String) (state : State) (input : Input)
    (inv : Inv key initial state) (clean : Clean state input) :
    Inv key initial (step key state input) := by
  cases input with
  | setReaction member add =>
    rw [step]
    by_cases changed : (if add then member ∉ state.reactors else member ∈ state.reactors)
    · rw [if_pos changed, Inv, List.getLast?_append, List.getLast?_singleton]
      rfl
    · rw [if_neg changed]
      exact inv
  | publish place =>
    rw [step]
    rcases found : state.pending[place]? with _ | entry
    · exact inv
    have inside : place < state.pending.length := by
      obtain ⟨inside, -⟩ := List.getElem?_eq_some_iff.mp found
      exact inside
    by_cases newest : place + 1 = state.pending.length
    · -- the newest change is the only one left
      obtain rfl := clean newest
      obtain ⟨only, isOnly⟩ := List.length_eq_one_iff.mp newest.symm
      rw [Inv, isOnly] at inv
      rw [isOnly] at found
      obtain rfl : only = entry := Option.some.inj found
      obtain rfl : only = key.entry state.reactors := inv
      rw [Inv, isOnly]
      exact upToDate_append initial state.reactors state.events
    have last := getLast?_eraseIdx state.pending place (by omega)
    rcases isLast : state.pending.getLast? with _ | newestEntry
    · rw [List.getLast?_eq_none_iff] at isLast
      rw [isLast] at inside
      exact absurd inside (Nat.not_lt_zero place)
    rw [Inv, isLast] at inv
    rw [Inv]
    simp only [last, isLast]
    exact inv

end Memory

namespace Postgres

/-- What a clean run under Postgres keeps. -/
def Inv (key : Key) (initial : List String) (state : State) : Prop :=
  UpToDate key initial state.reactors state.events

theorem inv_step (initial : List String) (state : State) (input : Input)
    (inv : Inv key initial state) (clean : Clean state input) :
    Inv key initial (step key state input) := by
  cases input with
  | change member add =>
    rw [step]
    by_cases waits : state.transactions.any (·.member == member) = true
    · rw [if_pos waits]
      exact inv
    rw [if_neg waits]
    by_cases changed : (if add then member ∉ state.reactors else member ∈ state.reactors)
    · rw [if_pos changed]
      exact inv
    · rw [if_neg changed]
      exact inv
  | readBack | rollback => exact inv
  | commit place =>
    rw [step]
    rcases found : state.transactions[place]? with _ | ⟨member, add, _ | seen⟩
    · exact inv
    · exact inv
    · obtain rfl : seen = state.reactors := clean _ found seen rfl
      exact upToDate_append initial _ state.events

end Postgres

/-! ## The promise -/

/-- **The last reaction broadcast is the stored state**, in a run in memory in which no request
publishes the newest change while another is still to be published, and in a run under Postgres in
which every transaction that commits has seen all that was committed before. -/
theorem last_reaction_is_stored (key : Key) (initial : List String) (memory : List Memory.Input)
    (postgres : List Postgres.Input)
    (inOrder : Along (Memory.step key) Memory.Clean (Memory.start initial) memory)
    (seesAll : Along (Postgres.step key) Postgres.Clean (Postgres.start initial) postgres) :
    Converges key initial (Memory.observe key initial) memory ∧
      Converges key initial (Postgres.observe key initial) postgres := by
  constructor
  · refine converges_of_upToDate ?_
    rintro before after rfl idle
    have inv := Along.invariant (Memory.inv_step initial) ((Along.append _ _ _).mp inOrder).1
      (Memory.inv_start initial)
    rw [Memory.Inv, List.getLast?_eq_none_iff.mpr (List.isEmpty_iff.mp idle)] at inv
    exact inv
  refine converges_of_upToDate ?_
  rintro before after rfl -
  exact Along.invariant (Postgres.inv_step initial) ((Along.append _ _ _).mp seesAll).1
    (rfl : initial = initial)

/-- A reaction to a message. -/
def thumbsUp : Key := ⟨"chat", 7, "👍"⟩

/-- Two members react one after the other, and the last event names both. -/
theorem two_reactions_in_order :
    Converges thumbsUp [] (Memory.observe thumbsUp [])
      [.setReaction "alice" true, .publish 0, .setReaction "bob" true, .publish 0] ∧
    Converges thumbsUp [] (Postgres.observe thumbsUp [])
      [.change "alice" true, .readBack 0, .commit 0, .change "bob" true, .readBack 0, .commit 0] :=
  last_reaction_is_stored thumbsUp [] _ _
    ⟨trivial, fun _ => rfl, trivial, fun _ => rfl, trivial⟩
    (by simp [Along, Postgres.Clean, Postgres.step, Postgres.start, change])

/-- Two members react at once, and the last event names only one of them, though both are
stored. -/
theorem last_event_lacks_a_reactor :
    (¬∀ key initial inputs, Converges key initial (Memory.observe key initial) inputs) ∧
      ¬∀ key initial inputs, Converges key initial (Postgres.observe key initial) inputs := by
  constructor
  · intro promise
    have shows := promise thumbsUp [] [.setReaction "alice" true, .setReaction "bob" true,
      .publish 1, .publish 0] _ [] (List.append_nil _).symm (by decide)
    exact absurd shows.2 (by decide)
  intro promise
  have shows := promise thumbsUp [] [.change "alice" true, .change "bob" true, .readBack 0,
    .readBack 1, .commit 0, .commit 0] _ [] (List.append_nil _).symm (by decide)
  exact absurd shows.2 (by decide)

end MessagingStack.Relayer.Reactions

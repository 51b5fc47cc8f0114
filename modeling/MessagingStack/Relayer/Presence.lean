import MessagingStack.Base.Runs
import MessagingStack.Relayer.Message

/-!
# Presence

The presence of one wallet on one instance of the relayer: `services/presence_sync.rs`, the socket
handlers of `handlers/ws.rs` and `handlers/user_ws.rs` as far as they are about presence,
`put_prefs` and the `presence.changed` branch of the Postgres listener.

What is said of a group at the end is right if whoever says something that is no longer true is not
the last to speak, `last_seen` is not cleared under an open socket, and no preference that a request
found to be unchanged was changed in between (`presence_converges`).
-/

namespace MessagingStack.Relayer.Presence

structure PresenceUpdatedEvent where
  eventType : String
  groupId : String
  member : String
  online : Bool
  deriving DecidableEq

def PresenceUpdatedEvent.new (groupId member : String) (online : Bool) : PresenceUpdatedEvent where
  eventType := "presence.updated"
  groupId := groupId
  member := member
  online := online

/-! ## The registry -/

/-- The entry of the wallet in `PresenceRegistry`; 0 stands for no entry. -/
structure PresenceRegistry where
  connections : Nat
  deriving DecidableEq

namespace PresenceRegistry

def connect (registry : PresenceRegistry) : PresenceRegistry × Bool :=
  let count := registry.connections + 1
  (⟨count⟩, count = 1)

def disconnect (registry : PresenceRegistry) : PresenceRegistry × Bool :=
  match registry.connections with
  | 0 => (registry, false)
  | count + 1 => (⟨count⟩, count = 0)

def isOnline (registry : PresenceRegistry) : Bool := 0 < registry.connections

end PresenceRegistry

/-! ## Tasks -/

/-- A broadcast in progress: what it says, the groups that it has still to tell, and the preference
that it has looked up for the first of them. -/
structure Broadcast where
  online : Bool
  rest : List String
  shares : Option Bool
  deriving DecidableEq

/-- The tasks that are about the wallet. -/
inductive Task where
  /-- A socket handler before it stamps `last_seen`. -/
  | opening
  /-- A socket handler before `note_connect`. -/
  | stamped
  /-- A socket handler before its first ping tick. -/
  | entering
  /-- A socket handler in its loop. -/
  | listening
  /-- The task of `note_disconnect` before it looks at the registry. -/
  | leaving
  /-- It clears `last_seen`. -/
  | clearing
  /-- It sleeps for the grace period. -/
  | sleeping
  /-- `put_prefs` with the new preference and the previous one, before the upsert. -/
  | saving (groupId : String) (hide previous : Bool)
  /-- `put_prefs` before it publishes the presence for the group. -/
  | saved (groupId : String)
  | broadcasting (ofSocket : Bool) (broadcast : Broadcast)
  deriving DecidableEq

/-- The wallet, its groups, and how events are published. -/
structure Config where
  wallet : String
  groups : List String
  inlineRealtimePublish : Bool

structure State where
  registry : PresenceRegistry
  lastSeen : Option Timestamp
  /-- `hide_online_presence` of each group. -/
  hide : String → Bool
  tasks : List Task
  /-- The broadcasts that the listener has still to make. -/
  queue : List Broadcast
  events : List PresenceUpdatedEvent

inductive Input where
  /-- A socket is upgraded. -/
  | accept
  /-- A request to `put_prefs` reads the previous preference. -/
  | putPrefs (groupId : String) (hide : Bool)
  /-- The next step of a task. -/
  | run (place : Nat) (now : Timestamp)
  /-- A ping of a socket, or a tick of its timer. -/
  | tick (place : Nat) (now : Timestamp)
  /-- A socket closes. -/
  | close (place : Nat)
  /-- The next step of the listener. -/
  | listen
  deriving DecidableEq

/-- The next step of a broadcast: a lookup, or an event. -/
def Broadcast.step (wallet : String) (hide : String → Bool) (broadcast : Broadcast) :
    Broadcast × List PresenceUpdatedEvent :=
  match broadcast.rest with
  | [] => (broadcast, [])
  | groupId :: rest =>
    match broadcast.online, broadcast.shares with
    | true, none => ({ broadcast with shares := some !hide groupId }, [])
    | online, shares =>
      ({ broadcast with rest, shares := none }, [.new groupId wallet (online && shares.getD false)])

/-- A task is followed by others, or by none. -/
def State.become (state : State) (place : Nat) (next : List Task) : State :=
  { state with tasks := state.tasks.take place ++ next ++ state.tasks.drop (place + 1) }

variable (config : Config)

/-- The next step of a task. -/
def State.runTask (state : State) (place : Nat) (now : Timestamp) : Task → State
  | .opening => { state.become place [.stamped] with lastSeen := some now }
  | .stamped =>
    -- `note_connect`
    let (registry, transition) := state.registry.connect
    let next := if transition then .broadcasting true ⟨true, config.groups, none⟩ else .entering
    { state.become place [next] with registry }
  | .entering => { state.become place [.listening] with lastSeen := some now }
  | .listening => state
  | .leaving => state.become place [if state.registry.isOnline then .sleeping else .clearing]
  | .clearing => { state.become place [.sleeping] with lastSeen := none }
  | .sleeping =>
    state.become place
      (if state.registry.isOnline then [] else [.broadcasting false ⟨false, config.groups, none⟩])
  | .saving groupId hide previous =>
    { state.become place (if hide ≠ previous then [.saved groupId] else []) with
      hide := fun other => if other = groupId then hide else state.hide other }
  | .saved groupId =>
    -- `publish_presence_for_group`
    let groups := if config.inlineRealtimePublish then [groupId] else config.groups
    state.become place [.broadcasting false ⟨state.registry.isOnline, groups, none⟩]
  | .broadcasting ofSocket broadcast =>
    let done := if ofSocket then [.entering] else []
    if config.inlineRealtimePublish then
      if broadcast.rest.isEmpty then state.become place done
      else
        let (next, events) := broadcast.step config.wallet state.hide
        { state.become place [.broadcasting ofSocket next] with events := state.events ++ events }
    else { state.become place done with queue := state.queue ++ [broadcast] }

def step (state : State) : Input → State
  | .accept => { state with tasks := state.tasks ++ [.opening] }
  | .putPrefs groupId hide =>
    { state with tasks := state.tasks ++ [.saving groupId hide (state.hide groupId)] }
  | .run place now =>
    match state.tasks[place]? with
    | some task => state.runTask config place now task
    | none => state
  | .tick place now =>
    match state.tasks[place]? with
    | some .listening => { state with lastSeen := some now }
    | _ => state
  | .close place =>
    match state.tasks[place]? with
    | some .listening | some .entering =>
      -- `note_disconnect`
      let (registry, transition) := state.registry.disconnect
      { state.become place (if transition then [.leaving] else []) with registry }
    | _ => state
  | .listen =>
    match state.queue with
    | [] => state
    | broadcast :: queue =>
      if broadcast.rest.isEmpty then { state with queue }
      else
        let (next, events) := broadcast.step config.wallet state.hide
        { state with queue := next :: queue, events := state.events ++ events }

def start (hide : String → Bool) : State := ⟨⟨0⟩, none, hide, [], [], []⟩

def reached (hide : String → Bool) (inputs : List Input) : State :=
  inputs.foldl (step config) (start hide)

/-! ## The promise -/

/-- The task is a socket that is registered. -/
def Task.isConnected : Task → Bool
  | .entering | .listening | .broadcasting true _ => true
  | _ => false

def lastOnline (events : List PresenceUpdatedEvent) (groupId : String) : Bool :=
  ((events.filter (·.groupId == groupId)).getLast?.map (·.online)).getD false

/-- What should be said of a group. -/
def State.online (state : State) (groupId : String) : Bool :=
  state.registry.isOnline && !state.hide groupId

/-- Every task has finished, but for open sockets. -/
def State.Settled (state : State) : Prop := (∀ task ∈ state.tasks, task = .listening) ∧
  state.queue = []

/-- **What is promised of a run**: whenever all tasks have finished, the last event of each group of
the wallet is right, the registry counts the open sockets, and `last_seen` is there if a socket is
open. -/
structure Converged (state : State) : Prop where
  events : ∀ groupId ∈ config.groups, lastOnline state.events groupId = state.online groupId
  counts : state.registry.connections = state.tasks.length
  lastSeen : state.tasks ≠ [] → state.lastSeen ≠ none

/-! ## Clean steps -/

/-- The task will tell the group, if the wallet stays as it is. -/
def Task.Owes (online : Bool) (groupId : String) : Task → Prop
  | .leaving | .clearing | .sleeping => online = false
  | .saved other => other = groupId
  | .broadcasting _ broadcast => groupId ∈ broadcast.rest
  | _ => False

/-- Somebody among the tasks and the notifications will tell the group. -/
def Owed (online : Bool) (tasks : List Task) (queue : List Broadcast) (groupId : String) : Prop :=
  (∃ task ∈ tasks, task.Owes online groupId) ∨ ∃ broadcast ∈ queue, groupId ∈ broadcast.rest

/-- What a broadcast says next is right, or somebody else will tell the group after it: itself, one
of the other tasks or a notification. -/
def Broadcast.Clean (state : State) (tasks : List Task) (queue : List Broadcast)
    (broadcast : Broadcast) : Prop :=
  ∀ groupId rest, broadcast.rest = groupId :: rest →
    (broadcast.online = false ∨ broadcast.shares.isSome) →
    (broadcast.online && broadcast.shares.getD false) = state.online groupId ∨ groupId ∈ rest ∨
      Owed state.registry.isOnline tasks queue groupId

/-- Nobody is the last to tell a group something that is no longer true; `last_seen` is not cleared
while a socket listens; and a preference that is saved as a request found it is stored so. -/
def Clean (state : State) : Input → Prop
  | .run place _ => ∀ task, state.tasks[place]? = some task →
    match task with
    | .clearing => .listening ∉ state.tasks
    | .saving groupId hide previous => hide = previous → state.hide groupId = previous
    | .broadcasting _ broadcast =>
      config.inlineRealtimePublish = true →
        broadcast.Clean state (state.tasks.eraseIdx place) state.queue
    | _ => True
  | .listen => ∀ broadcast queue, state.queue = broadcast :: queue →
    broadcast.Clean state state.tasks queue
  | _ => True

/-! ## Events -/

variable {config}

theorem lastOnline_append_self (events : List PresenceUpdatedEvent) (groupId wallet : String)
    (online : Bool) : lastOnline (events ++ [.new groupId wallet online]) groupId = online := by
  have kept : ([PresenceUpdatedEvent.new groupId wallet online].filter
      fun event => event.groupId == groupId) = [.new groupId wallet online] := by
    simp [PresenceUpdatedEvent.new]
  rw [lastOnline, List.filter_append, kept, List.getLast?_append, List.getLast?_singleton]
  rfl

variable {state : State} {task : Task} {place : Nat} {groupId : String} {next : State}
  {now : Timestamp} {followers : List Task}

theorem lastOnline_append_other (events : List PresenceUpdatedEvent) {other : String}
    (wallet : String) (online : Bool) (differs : groupId ≠ other) :
    lastOnline (events ++ [.new groupId wallet online]) other = lastOnline events other := by
  have dropped : ([PresenceUpdatedEvent.new groupId wallet online].filter
      fun event => event.groupId == other) = [] := by
    simp [PresenceUpdatedEvent.new, differs]
  rw [lastOnline, List.filter_append, dropped, List.append_nil]
  rfl

theorem Broadcast.step_cases (wallet : String) (hide : String → Bool) (broadcast : Broadcast) :
    ((broadcast.step wallet hide).2 = [] ∧ (broadcast.step wallet hide).1.rest = broadcast.rest) ∨
    ∃ groupId rest, broadcast.rest = groupId :: rest ∧
      (broadcast.online = false ∨ broadcast.shares.isSome) ∧
      (broadcast.step wallet hide).1.rest = rest ∧
      (broadcast.step wallet hide).2 =
        [.new groupId wallet (broadcast.online && broadcast.shares.getD false)] := by
  obtain ⟨online, rest, shares⟩ := broadcast
  rw [step]
  cases rest with
  | nil => exact .inl ⟨rfl, rfl⟩
  | cons groupId rest =>
    cases online with
    | false => exact .inr ⟨groupId, rest, rfl, .inl rfl, rfl, rfl⟩
    | true =>
      cases shares with
      | none => exact .inl ⟨rfl, rfl⟩
      | some => exact .inr ⟨groupId, rest, rfl, .inr rfl, rfl, rfl⟩

/-! ## Who owes a group an event -/

section Owed

variable {online : Bool} {before after next : List Task} {task : Task} {queue : List Broadcast}
  {groupId : String}

theorem owed_become :
    Owed online (before ++ next ++ after) queue groupId ↔
      (∃ task ∈ next, task.Owes online groupId) ∨ Owed online (before ++ after) queue groupId := by
  simp only [Owed, List.mem_append, or_and_right, exists_or]
  refine Eq.to_iff ?_
  ac_rfl

theorem owed_split :
    Owed online (before ++ task :: after) queue groupId ↔
      task.Owes online groupId ∨ Owed online (before ++ after) queue groupId := by
  have split : before ++ task :: after = before ++ [task] ++ after := by
    rw [List.append_assoc, List.singleton_append]
  rw [split, owed_become]
  simp only [List.mem_singleton, exists_eq_left]

theorem owed_queue {tasks : List Task} {broadcast : Broadcast} :
    Owed online tasks (broadcast :: queue) groupId ↔
      groupId ∈ broadcast.rest ∨ Owed online tasks queue groupId := by
  simp only [Owed, List.mem_cons, or_and_right, exists_or, exists_eq_left]
  refine Eq.to_iff ?_
  ac_rfl

theorem owed_queue_append {tasks : List Task} {broadcast : Broadcast} :
    Owed online tasks (queue ++ [broadcast]) groupId ↔
      groupId ∈ broadcast.rest ∨ Owed online tasks queue groupId := by
  simp only [Owed, List.mem_append, List.mem_singleton, or_and_right, exists_or, exists_eq_left]
  refine Eq.to_iff ?_
  ac_rfl

end Owed

variable {tasks before after : List Task} {input : Input}

theorem split_tasks (found : tasks[place]? = some task) :
    ∃ before after, tasks = before ++ task :: after ∧ tasks.take place = before ∧
      tasks.drop (place + 1) = after ∧ tasks.eraseIdx place = before ++ after := by
  obtain ⟨inside, isTask⟩ := List.getElem?_eq_some_iff.mp found
  refine ⟨_, _, ?_, rfl, rfl, List.eraseIdx_eq_take_drop_succ ..⟩
  rw [← isTask, ← List.drop_eq_getElem_cons inside, List.take_append_drop]

/-! ## What a run keeps -/

/-- What was last said of a group is right, or somebody will tell it. -/
def Settles (state : State) (groupId : String) : Prop :=
  lastOnline state.events groupId = state.online groupId ∨
    Owed state.registry.isOnline state.tasks state.queue groupId

def Stamped (state : State) : Prop := .listening ∈ state.tasks → state.lastSeen ≠ none

/-- What a run of clean steps keeps. -/
structure Inv (config : Config) (state : State) : Prop where
  events : ∀ groupId ∈ config.groups, Settles state groupId
  counts : state.registry.connections = state.tasks.countP Task.isConnected
  lastSeen : Stamped state

theorem inv_start (hide : String → Bool) : Inv config (start hide) where
  events _ _ := .inl rfl
  counts := rfl
  lastSeen isIn := absurd isIn List.not_mem_nil

theorem settles_broadcast (config : Config) {queue : List Broadcast} {broadcast : Broadcast}
    (clean : broadcast.Clean state tasks queue)
    (settles : lastOnline state.events groupId = state.online groupId ∨ groupId ∈ broadcast.rest ∨
      Owed state.registry.isOnline tasks queue groupId)
    :
    lastOnline (state.events ++ (broadcast.step config.wallet state.hide).2) groupId =
        state.online groupId ∨
      groupId ∈ (broadcast.step config.wallet state.hide).1.rest ∨
        Owed state.registry.isOnline tasks queue groupId := by
  rcases broadcast.step_cases config.wallet state.hide with
    ⟨events, rest⟩ | ⟨first, rest, isRest, looked, nextRest, events⟩
  · rw [events, rest, List.append_nil]
    exact settles
  rw [events, nextRest]
  by_cases isFirst : first = groupId
  · subst isFirst
    rw [lastOnline_append_self]
    exact clean first rest isRest looked
  rw [lastOnline_append_other _ _ _ isFirst]
  rw [isRest, List.mem_cons] at settles
  exact settles.imp_right (Or.imp_left fun isIn =>
    isIn.resolve_left fun same => isFirst same.symm)

theorem Settles.more (settles : Settles state groupId) (events : next.events = state.events)
    (registry : next.registry = state.registry) (hide : next.hide = state.hide)
    (queue : next.queue = state.queue) (tasks : ∀ task ∈ state.tasks, task ∈ next.tasks) :
    Settles next groupId := by
  rw [Settles, events, registry, queue, State.online, registry, hide]
  exact settles.imp_right (Or.imp_left fun ⟨task, isIn, owes⟩ => ⟨task, tasks task isIn, owes⟩)

theorem Settles.become (settles : Settles state groupId)
    (isTasks : state.tasks = before ++ task :: after)
    (nextTasks : next.tasks = before ++ followers ++ after) (events : next.events = state.events)
    (registry : next.registry.isOnline = state.registry.isOnline)
    (hide : next.hide groupId = state.hide groupId) (queue : next.queue = state.queue)
    (owes : task.Owes state.registry.isOnline groupId → ∃ follower ∈ followers,
      follower.Owes state.registry.isOnline groupId)
    :
    Settles next groupId := by
  rw [Settles, isTasks, owed_split] at settles
  rw [Settles, events, registry, queue, nextTasks, owed_become, State.online, registry, hide]
  exact settles.imp_right (Or.imp_left owes)

theorem settles_become (nextTasks : next.tasks = before ++ followers ++ after)
    (owes : ∃ follower ∈ followers, follower.Owes next.registry.isOnline groupId) :
    Settles next groupId := by
  rw [Settles, nextTasks, owed_become]
  exact .inr (.inl owes)

theorem settles_runTask (found : state.tasks[place]? = some task)
    (clean : Clean config state (.run place now)) (isGroup : groupId ∈ config.groups)
    (settles : Settles state groupId) :
    Settles (state.runTask config place now task) groupId := by
  obtain ⟨before, after, isTasks, isBefore, isAfter, isRest⟩ := split_tasks found
  have become : ∀ next, (state.become place next).tasks = before ++ next ++ after := by
    intro next
    rw [State.become, isBefore, isAfter]
  cases task with
  | opening => exact settles.become isTasks (become [.stamped]) rfl rfl rfl rfl nofun
  | stamped =>
    rw [State.runTask, PresenceRegistry.connect]
    by_cases first : state.registry.connections + 1 = 1
    · -- the first connection tells every group
      simp only [first, decide_true, if_true]
      exact settles_become (become _) ⟨_, List.mem_singleton_self _, isGroup⟩
    simp only [first, decide_false, Bool.false_eq_true, if_false]
    refine settles.become isTasks (become [.entering]) rfl ?_ rfl rfl nofun
    have isOnline : state.registry.isOnline = true := decide_eq_true (by omega)
    rw [isOnline]
    exact decide_eq_true (Nat.succ_pos _)
  | entering => exact settles.become isTasks (become [.listening]) rfl rfl rfl rfl nofun
  | listening => exact settles
  | leaving =>
    refine settles.become isTasks (become _) rfl rfl rfl rfl fun owes => ?_
    refine ⟨_, List.mem_singleton_self _, ?_⟩
    rw [show state.registry.isOnline = false from owes, if_neg Bool.false_ne_true]
    rfl
  | clearing =>
    exact settles.become isTasks (become [.sleeping]) rfl rfl rfl rfl fun owes =>
      ⟨_, List.mem_singleton_self _, owes⟩
  | sleeping =>
    refine settles.become isTasks (become _) rfl rfl rfl rfl fun owes => ?_
    rw [show state.registry.isOnline = false from owes, if_neg Bool.false_ne_true]
    exact ⟨_, List.mem_singleton_self _, isGroup⟩
  | saving other hide previous =>
    rw [State.runTask]
    by_cases changes : hide ≠ previous
    · rw [if_pos changes]
      by_cases same : groupId = other
      · exact settles_become (become _) ⟨_, List.mem_singleton_self _, same.symm⟩
      · exact settles.become isTasks (become _) rfl rfl (if_neg same) rfl nofun
    rw [if_neg changes]
    refine settles.become isTasks (become _) rfl rfl ?_ rfl nofun
    have unchanged : hide = previous := not_not.mp changes
    have stored : state.hide other = previous := clean _ found unchanged
    show (if groupId = other then hide else state.hide groupId) = _
    split_ifs with same
    · rw [same, stored, unchanged]
    · rfl
  | saved other =>
    refine settles.become isTasks (become _) rfl rfl rfl rfl fun owes => ?_
    refine ⟨_, List.mem_singleton_self _, ?_⟩
    show groupId ∈ (if _ then [other] else config.groups)
    split_ifs
    · exact List.mem_singleton.mpr (show other = groupId from owes).symm
    · exact isGroup
  | broadcasting ofSocket broadcast =>
    rw [State.runTask]
    by_cases isInline : config.inlineRealtimePublish = true
    · rw [if_pos isInline]
      by_cases isEmpty : broadcast.rest.isEmpty = true
      · rw [if_pos isEmpty]
        refine settles.become isTasks (become _) rfl rfl rfl rfl fun owes => ?_
        have tells : groupId ∈ broadcast.rest := owes
        rw [List.isEmpty_iff.mp isEmpty] at tells
        exact absurd tells List.not_mem_nil
      rw [if_neg isEmpty]
      have told := clean _ found isInline
      rw [isRest] at told
      rw [Settles, isTasks, owed_split] at settles
      show lastOnline (state.events ++ _) groupId = state.online groupId ∨
        Owed state.registry.isOnline (state.become place _).tasks state.queue groupId
      rw [become, owed_become]
      simp only [List.mem_singleton, exists_eq_left]
      exact settles_broadcast config told settles
    -- the notification says what the task would have said
    rw [if_neg isInline]
    rw [Settles, isTasks, owed_split] at settles
    show lastOnline state.events groupId = state.online groupId ∨
      Owed state.registry.isOnline (state.become place _).tasks (state.queue ++ [broadcast])
        groupId
    rw [become, owed_queue_append, owed_become]
    exact settles.imp_right (Or.imp_right .inr)

theorem settles_close (found : state.tasks[place]? = some task)
    (owesNothing : ¬task.Owes state.registry.isOnline groupId) (settles : Settles state groupId) :
    Settles { state.become place (if state.registry.disconnect.2 then [.leaving] else []) with
      registry := state.registry.disconnect.1 } groupId := by
  obtain ⟨before, after, isTasks, isBefore, isAfter, -⟩ := split_tasks found
  have become : ∀ next, (state.become place next).tasks = before ++ next ++ after := by
    intro next
    rw [State.become, isBefore, isAfter]
  by_cases last : state.registry.disconnect.2 = true
  · rw [if_pos last]
    refine settles_become (become _) ⟨_, List.mem_singleton_self _, ?_⟩
    rcases isCount : state.registry.connections with _ | count
    · rw [PresenceRegistry.disconnect, isCount] at last
      cases last
    rw [PresenceRegistry.disconnect, isCount] at last
    have zero : count = 0 := of_decide_eq_true last
    show PresenceRegistry.isOnline (PresenceRegistry.disconnect _).1 = false
    rw [PresenceRegistry.disconnect, isCount, zero]
    rfl
  rw [if_neg last]
  refine settles.become isTasks (become []) rfl ?_ rfl rfl fun owes => absurd owes owesNothing
  rcases isCount : state.registry.connections with _ | count
  · show PresenceRegistry.isOnline (PresenceRegistry.disconnect _).1 = _
    rw [PresenceRegistry.disconnect, isCount]
  rw [PresenceRegistry.disconnect, isCount] at last
  have some : count ≠ 0 := fun zero => last (decide_eq_true zero)
  show PresenceRegistry.isOnline (PresenceRegistry.disconnect _).1 = _
  rw [PresenceRegistry.disconnect, PresenceRegistry.isOnline,
    PresenceRegistry.isOnline, isCount]
  simp only
  exact decide_eq_decide.mpr (by omega)

theorem settles_step (clean : Clean config state input) (isGroup : groupId ∈ config.groups)
    (settles : Settles state groupId) :
    Settles (step config state input) groupId := by
  cases input with
  | accept => exact settles.more rfl rfl rfl rfl fun task isIn => List.mem_append_left _ isIn
  | putPrefs => exact settles.more rfl rfl rfl rfl fun task isIn => List.mem_append_left _ isIn
  | run place =>
    rw [step]
    rcases found : state.tasks[place]? with _ | task
    · exact settles
    · exact settles_runTask found clean isGroup settles
  | tick =>
    rw [step]
    split
    · exact settles
    · exact settles
  | close =>
    rw [step]
    split
    · next found => exact settles_close found nofun settles
    · next found => exact settles_close found nofun settles
    · exact settles
  | listen =>
    rw [step]
    rcases queued : state.queue with _ | ⟨broadcast, queue⟩
    · exact settles
    have told := clean broadcast queue queued
    rw [Settles, queued, owed_queue] at settles
    simp only
    split_ifs with isEmpty
    · rw [List.isEmpty_iff.mp isEmpty] at settles
      exact settles.imp_right fun owed => owed.resolve_left List.not_mem_nil
    show lastOnline (state.events ++ _) groupId = state.online groupId ∨
      Owed state.registry.isOnline state.tasks (_ :: queue) groupId
    rw [owed_queue]
    exact settles_broadcast config told settles

/-! ## The registry counts the sockets -/

theorem counts_become (found : state.tasks[place]? = some task) (next : List Task) :
    (state.become place next).tasks.countP Task.isConnected +
        [task].countP Task.isConnected =
      state.tasks.countP Task.isConnected + next.countP Task.isConnected := by
  obtain ⟨before, after, isTasks, isBefore, isAfter, -⟩ := split_tasks found
  rw [State.become, isBefore, isAfter, isTasks]
  simp only [List.countP_append, List.countP_cons, List.countP_nil]
  omega

theorem counts_of_become (followers : List Task) (found : state.tasks[place]? = some task)
    (counts : state.registry.connections = state.tasks.countP Task.isConnected)
    (tasks : next.tasks = (state.become place followers).tasks)
    (registry : next.registry.connections + [task].countP Task.isConnected =
      state.registry.connections + followers.countP Task.isConnected)
    :
    next.registry.connections = next.tasks.countP Task.isConnected := by
  have moved := counts_become found followers
  rw [tasks]
  omega

theorem counts_runTask (found : state.tasks[place]? = some task)
    (counts : state.registry.connections = state.tasks.countP Task.isConnected) :
    (state.runTask config place now task).registry.connections =
      (state.runTask config place now task).tasks.countP Task.isConnected := by
  cases task with
  | opening => exact counts_of_become [.stamped] found counts rfl rfl
  | stamped =>
    refine counts_of_become _ found counts rfl ?_
    show state.registry.connections + 1 + 0 = _
    split_ifs
    · rfl
    · rfl
  | entering => exact counts_of_become [.listening] found counts rfl rfl
  | listening => exact counts
  | leaving | sleeping =>
    refine counts_of_become _ found counts rfl ?_
    show state.registry.connections + 0 = _
    split_ifs
    · rfl
    · rfl
  | clearing => exact counts_of_become [.sleeping] found counts rfl rfl
  | saving other =>
    rw [State.runTask]
    split_ifs
    · exact counts_of_become [.saved other] found counts rfl rfl
    · exact counts_of_become [] found counts rfl rfl
  | saved => exact counts_of_become _ found counts rfl rfl
  | broadcasting ofSocket broadcast =>
    have done : [Task.broadcasting ofSocket broadcast].countP Task.isConnected =
        (if ofSocket then [Task.entering] else []).countP Task.isConnected := by
      cases ofSocket
      · rfl
      · rfl
    rw [State.runTask]
    by_cases isInline : config.inlineRealtimePublish = true
    · rw [if_pos isInline]
      by_cases isEmpty : broadcast.rest.isEmpty = true
      · rw [if_pos isEmpty]
        exact counts_of_become _ found counts rfl (congrArg _ done)
      rw [if_neg isEmpty]
      refine counts_of_become _ found counts rfl ?_
      cases ofSocket
      · rfl
      · rfl
    · rw [if_neg isInline]
      exact counts_of_become _ found counts rfl (congrArg _ done)

theorem counts_close (found : state.tasks[place]? = some task) (connected : task.isConnected = true)
    (counts : state.registry.connections = state.tasks.countP Task.isConnected) :
    state.registry.disconnect.1.connections =
      (state.become place
        (if state.registry.disconnect.2 then [.leaving] else [])).tasks.countP
          Task.isConnected := by
  have isOne : [task].countP Task.isConnected = 1 := by
    rw [List.countP_cons_of_pos connected]
    rfl
  have moved := counts_become found (if state.registry.disconnect.2 then [.leaving] else [])
  have none : (if state.registry.disconnect.2 then [.leaving] else []).countP
      Task.isConnected = 0 := by
    split_ifs
    · rfl
    · rfl
  rcases isCount : state.registry.connections with _ | count
  · omega
  · have fewer : state.registry.disconnect.1.connections = count := by
      rw [PresenceRegistry.disconnect, isCount]
    omega

theorem counts_step (input : Input)
    (counts : state.registry.connections = state.tasks.countP Task.isConnected) :
    (step config state input).registry.connections =
      (step config state input).tasks.countP Task.isConnected := by
  cases input with
  | accept | putPrefs =>
    rw [step, List.countP_append]
    exact counts
  | run place =>
    rw [step]
    rcases found : state.tasks[place]? with _ | task
    · exact counts
    · exact counts_runTask found counts
  | tick =>
    rw [step]
    split
    · exact counts
    · exact counts
  | close =>
    rw [step]
    split
    · next found => exact counts_close found rfl counts
    · next found => exact counts_close found rfl counts
    · exact counts
  | listen =>
    rw [step]
    split
    · exact counts
    simp only
    split_ifs
    · exact counts
    · exact counts

/-! ## The stamp stays under an open socket -/

theorem listening_become (followers : List Task) (found : state.tasks[place]? = some task)
    (quiet : .listening ∉ followers) (isIn : .listening ∈ (state.become place followers).tasks) :
    .listening ∈ state.tasks := by
  obtain ⟨before, after, isTasks, isBefore, isAfter, -⟩ := split_tasks found
  rw [State.become, isBefore, isAfter] at isIn
  rw [isTasks]
  rcases List.mem_append.mp isIn with isIn | isIn
  · rcases List.mem_append.mp isIn with isIn | isIn
    · exact List.mem_append_left _ isIn
    · exact absurd isIn quiet
  · exact List.mem_append_right _ (List.mem_cons_of_mem _ isIn)

theorem Stamped.become (stamped : Stamped state) (found : state.tasks[place]? = some task)
    (quiet : .listening ∉ followers) (tasks : next.tasks = (state.become place followers).tasks)
    (lastSeen : next.lastSeen = state.lastSeen) : Stamped next := by
  intro listens
  rw [tasks] at listens
  rw [lastSeen]
  exact stamped (listening_become _ found quiet listens)

theorem stamped_some (lastSeen : state.lastSeen = some now) :
    Stamped state := by
  intro _
  rw [lastSeen]
  exact Option.some_ne_none now

theorem quiet_ite {condition : Prop} [Decidable condition] {first second : List Task}
    (left : .listening ∉ first) (right : .listening ∉ second) :
    .listening ∉ (if condition then first else second) := by
  split_ifs
  · exact left
  · exact right

theorem stamped_runTask (found : state.tasks[place]? = some task)
    (clean : Clean config state (.run place now)) (stamped : Stamped state) :
    Stamped (state.runTask config place now task) := by
  cases task with
  | opening | entering => exact stamped_some rfl
  | stamped | leaving =>
    refine stamped.become found ?_ rfl rfl
    split_ifs
    · simp
    · simp
  | listening => exact stamped
  | clearing =>
    intro listens
    exact absurd (listening_become [.sleeping] found (by simp) listens) (clean _ found)
  | sleeping => exact stamped.become found (quiet_ite (by simp) (by simp)) rfl rfl
  | saving => exact stamped.become found (quiet_ite (by simp) (by simp)) rfl rfl
  | saved => exact stamped.become found (by simp) rfl rfl
  | broadcasting ofSocket broadcast =>
    have quiet : .listening ∉ (if ofSocket then [Task.entering] else []) :=
      quiet_ite (by simp) (by simp)
    rw [State.runTask]
    by_cases isInline : config.inlineRealtimePublish = true
    · rw [if_pos isInline]
      by_cases isEmpty : broadcast.rest.isEmpty = true
      · rw [if_pos isEmpty]
        exact stamped.become found quiet rfl rfl
      · rw [if_neg isEmpty]
        exact stamped.become found (by simp) rfl rfl
    · rw [if_neg isInline]
      exact stamped.become found quiet rfl rfl

theorem stamped_step (clean : Clean config state input) (stamped : Stamped state) :
    Stamped (step config state input) := by
  cases input with
  | accept | putPrefs =>
    intro listens
    rcases List.mem_append.mp listens with isIn | isNew
    · exact stamped isIn
    · cases List.mem_singleton.mp isNew
  | run place =>
    rw [step]
    rcases found : state.tasks[place]? with _ | task
    · exact stamped
    · exact stamped_runTask found clean stamped
  | tick =>
    rw [step]
    split
    · exact stamped_some rfl
    · exact stamped
  | close =>
    rw [step]
    split
    · next found => exact stamped.become found (quiet_ite (by simp) (by simp)) rfl rfl
    · next found => exact stamped.become found (quiet_ite (by simp) (by simp)) rfl rfl
    · exact stamped
  | listen =>
    rw [step]
    split
    · exact stamped
    simp only
    split_ifs
    · exact stamped
    · exact stamped

/-! ## The promise is kept -/

theorem inv_step (state : State) (input : Input) (inv : Inv config state)
    (clean : Clean config state input) : Inv config (step config state input) where
  events _ isGroup := settles_step clean isGroup (inv.events _ isGroup)
  counts := counts_step input inv.counts
  lastSeen := stamped_step clean inv.lastSeen

/-- When only open sockets are left, nobody owes an event. -/
theorem converged_of_settled (inv : Inv config state) (settled : state.Settled) :
    Converged config state where
  events groupId isGroup := by
    refine (inv.events groupId isGroup).resolve_right ?_
    rintro (⟨task, isIn, owes⟩ | ⟨broadcast, isIn, -⟩)
    · rw [settled.1 task isIn] at owes
      exact owes
    · rw [settled.2] at isIn
      exact List.not_mem_nil isIn
  counts := by
    rw [inv.counts, List.countP_eq_length]
    intro task isIn
    rw [settled.1 task isIn]
    rfl
  lastSeen open_ := by
    obtain ⟨task, isIn⟩ := List.exists_mem_of_ne_nil _ open_
    refine inv.lastSeen ?_
    rw [← settled.1 task isIn]
    exact isIn

/-- **Presence converges** in every run in which nobody is the last to tell a group something that
is no longer true, `last_seen` is not cleared while a socket listens, and no preference that a
request found to be unchanged has been changed before it is saved. -/
theorem presence_converges (config : Config) (hide : String → Bool) (inputs : List Input)
    (clean : Along (step config) (Clean config) (start hide) inputs) :
    ∀ before after, inputs = before ++ after → (reached config hide before).Settled →
      Converged config (reached config hide before) := by
  rintro before after rfl settled
  have inv := Along.invariant inv_step ((Along.append _ _ _).mp clean).1 (inv_start hide)
  exact converged_of_settled inv settled

/-- A wallet in one group, on a relayer that publishes inline. -/
def alone : Config := ⟨"alice", ["chat"], true⟩

/-- A socket opens: it stamps, registers, looks the preference up, tells the group, and ticks. -/
def opens (place : Nat) (now : Timestamp) : List Input :=
  .accept :: List.replicate 6 (.run place now)

/-- After the first socket is open, the group has been told that the wallet is online. -/
theorem first_socket_converges :
    Converged alone (reached alone (fun _ => false) (opens 0 1)) := by
  refine presence_converges alone (fun _ => false) (opens 0 1) ?_ (opens 0 1) []
    (List.append_nil _).symm ⟨by decide, rfl⟩
  refine ⟨trivial, ?_, ?_, ?_, ?_, ?_, ?_, trivial⟩
  · rintro task ⟨⟩
    trivial
  · rintro task ⟨⟩
    trivial
  · rintro task ⟨⟩ - groupId rest ⟨⟩ (⟨⟨⟩⟩ | ⟨⟨⟩⟩)
  · rintro task ⟨⟩ - groupId rest ⟨⟩ -
    exact .inl rfl
  · rintro task ⟨⟩ - groupId rest ⟨⟩
  · rintro task ⟨⟩
    trivial

/-- A task of the last socket to close finds the wallet offline, a new socket opens, and the task
clears the stamp under it. -/
theorem reconnect_loses_last_seen :
    ¬∀ config hide inputs, (reached config hide inputs).Settled →
      Converged config (reached config hide inputs) := by
  intro promise
  have converged := promise alone (fun _ => false)
    (opens 0 1 ++ [.close 0, .run 0 2] ++ opens 1 3 ++ [.run 0 4, .run 0 5]) ⟨by decide, rfl⟩
  exact converged.lastSeen (by decide) rfl

end MessagingStack.Relayer.Presence

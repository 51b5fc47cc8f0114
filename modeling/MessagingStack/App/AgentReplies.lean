import Mathlib.Logic.Function.Basic
import MessagingStack.Base.Runs

/-!
# The queues of agent questions

`lib/agents/agent-reply-sessions.ts` of the chat app.  A call of `drain` runs from one await to the
next in one step: it waits at the gate of its group, or for the runner.  A promise that has settled
and the microtask that goes on behind it are two steps, with anything in between.

Questions start in order, one at a time, at an open gate, and none is left waiting, in every run.
The count that is published is right exactly if no call takes a question while no runner is set
(`answers_in_order`): it puts the question back and does not publish again.
-/

namespace MessagingStack.App.AgentReplies

/-! ## The program -/

/-- White space of `String.prototype.trim`. -/
def isWhite (c : Char) : Bool :=
  [9, 10, 11, 12, 13, 32, 0xA0, 0x1680, 0x2028, 0x2029, 0x202F, 0x205F, 0x3000, 0xFEFF].contains
    c.toNat || (0x2000 ≤ c.toNat && c.toNat ≤ 0x200A)

def trim (text : String) : String :=
  String.ofList (((text.toList.dropWhile isWhite).reverse.dropWhile isWhite).reverse)

/-- Where a call of `drain` is. -/
inductive Drain where
  /-- It awaits this gate. -/
  | atGate (gate : Nat)
  /-- The gate was released, and the microtask has not run yet. -/
  | passing
  /-- It awaits `runner(job)`. -/
  | running
  /-- The runner is done, and the microtask has not run yet. -/
  | ran
  deriving DecidableEq

/-- `GroupQueue`, with the calls of `drain` that have not returned and the published count.  Gates
are numbered; a job is its question. -/
structure GroupQueue where
  items : List String
  working : Bool
  gate : Option Nat
  drains : List Drain
  queued : Nat
  /-- How many gates there have been. -/
  gates : Nat
  /-- What was enqueued, and what was handed to a runner. -/
  enqueued : List String
  started : List String

namespace GroupQueue

def new : GroupQueue := ⟨[], false, none, [], 0, 0, [], []⟩

/-- The `finally` of `drain`.  Jobs are left only where no runner is set, so it starts no other. -/
def finish (queue : GroupQueue) : GroupQueue := { queue with working := false }

/-- From `shift` on. -/
def takeJob (runner : Bool) (queue : GroupQueue) : GroupQueue :=
  match queue.items with
  | [] => finish { queue with queued := 0 }
  | job :: rest =>
    if runner then
      { queue with
        items := rest
        queued := rest.length
        drains := queue.drains ++ [.running]
        started := queue.started ++ [job] }
    else
      -- `unshift`: the job is the first one again
      finish { queue with queued := rest.length }

/-- `while (queue.gate) await queue.gate`, and what comes after it. -/
def pass (runner : Bool) (queue : GroupQueue) : GroupQueue :=
  match queue.gate with
  | some gate => { queue with drains := queue.drains ++ [.atGate gate] }
  | none => queue.takeJob runner

def loop (runner : Bool) (queue : GroupQueue) : GroupQueue :=
  if queue.items = [] then queue.finish else queue.pass runner

def drain (runner : Bool) (queue : GroupQueue) : GroupQueue :=
  if queue.working then queue else loop runner { queue with working := true }

/-- `enqueueAgentReply`. -/
def enqueue (runner : Bool) (question : String) (queue : GroupQueue) : GroupQueue :=
  if trim question = "" then queue
  else
    drain runner { queue with
      items := queue.items ++ [trim question]
      queued := queue.items.length + 1
      enqueued := queue.enqueued ++ [trim question] }

/-- `holdAgentReplyQueue`. -/
def hold (queue : GroupQueue) : GroupQueue :=
  if queue.gate.isSome then queue
  else { queue with gate := some queue.gates, gates := queue.gates + 1 }

/-- `queue.release?.()`, for one call of `drain`. -/
def released (gate : Option Nat) : Drain → Drain
  | .atGate awaited => if gate = some awaited then .passing else .atGate awaited
  | other => other

/-- `if (queue.items.length > 0 && !queue.working) void drain(groupId)`. -/
def wake (runner : Bool) (queue : GroupQueue) : GroupQueue :=
  if queue.items ≠ [] ∧ queue.working = false then queue.drain runner else queue

/-- `resumeAgentReplyQueue`; a group without a queue is one with nothing in it. -/
def resume (runner : Bool) (queue : GroupQueue) : GroupQueue :=
  wake runner { queue with gate := none, drains := queue.drains.map (released queue.gate) }

inductive Action where
  | enqueue (question : String)
  | hold
  | resume
  /-- The runner that a call of `drain` awaits is done, well or not. -/
  | settles (place : Nat)
  /-- The microtask of a call of `drain` runs. -/
  | continues (place : Nat)

def settle (place : Nat) (queue : GroupQueue) : GroupQueue :=
  if queue.drains[place]? = some .running then
    { queue with drains := queue.drains.set place .ran }
  else queue

def proceed (runner : Bool) (place : Nat) (queue : GroupQueue) : GroupQueue :=
  match queue.drains[place]? with
  | some .passing => pass runner { queue with drains := queue.drains.eraseIdx place }
  | some .ran => loop runner { queue with drains := queue.drains.eraseIdx place }
  | _ => queue

def act (runner : Bool) (queue : GroupQueue) : Action → GroupQueue
  | .enqueue question => queue.enqueue runner question
  | .hold => queue.hold
  | .resume => queue.resume runner
  | .settles place => queue.settle place
  | .continues place => queue.proceed runner place

end GroupQueue

structure State where
  runner : Bool
  queues : String → GroupQueue

def start : State := ⟨false, fun _ => .new⟩

inductive Input where
  | act (groupId : String) (action : GroupQueue.Action)
  | setRunner (next : Bool)

def step (state : State) : Input → State
  | .act groupId action =>
    { state with
      queues := Function.update state.queues groupId
        ((state.queues groupId).act state.runner action) }
  | .setRunner next =>
    ⟨next, fun groupId => if next then (state.queues groupId).wake true else state.queues groupId⟩

/-! ## Order -/

namespace GroupQueue

variable {runner : Bool} {queue : GroupQueue}

/-- The invariant of a group. -/
structure Orderly (runner : Bool) (queue : GroupQueue) : Prop where
  order : queue.started ++ queue.items = queue.enqueued
  single : (queue.drains = [] ∧ queue.working = false) ∨
    ∃ call, queue.drains = [call] ∧ queue.working = true
  gated : ∀ gate, .atGate gate ∈ queue.drains → queue.gate = some gate
  served : runner = true → queue.gate = none → queue.drains = [] → queue.items = []

theorem Orderly.drains_of_idle (orderly : Orderly runner queue) (idle : queue.working = false) :
    queue.drains = [] := by
  rcases orderly.single with ⟨none, _⟩ | ⟨_, _, busy⟩
  · exact none
  · rw [idle] at busy
    cases busy

/-- A call of `drain` is in its loop: it is the only one. -/
structure Looping (queue : GroupQueue) : Prop where
  order : queue.started ++ queue.items = queue.enqueued
  alone : queue.drains = []
  working : queue.working = true

theorem Looping.takeJob (looping : Looping queue) :
    Orderly runner (queue.takeJob runner) := by
  obtain ⟨order, alone, working⟩ := looping
  unfold GroupQueue.takeJob
  split
  · next isItems =>
    refine ⟨order, .inl ⟨alone, rfl⟩, fun gate isIn => ?_, fun _ _ _ => isItems⟩
    · change _ ∈ queue.drains at isIn
      rw [alone] at isIn
      cases isIn
  · next job rest isItems =>
    cases runner with
    | true =>
      rw [isItems] at order
      refine ⟨?_, .inr ⟨.running, ?_, working⟩, fun gate isIn => ?_, fun _ _ none => ?_⟩
      · rw [← order]
        exact List.append_assoc _ _ _
      · exact congrArg (· ++ [.running]) alone
      · change _ ∈ queue.drains ++ [.running] at isIn
        rw [alone] at isIn
        cases List.mem_singleton.mp isIn
      · exact absurd none (List.append_ne_nil_of_right_ne_nil _ (List.cons_ne_nil _ _))
    | false =>
      refine ⟨order, .inl ⟨alone, rfl⟩, fun gate isIn => ?_, nofun⟩
      change _ ∈ queue.drains at isIn
      rw [alone] at isIn
      cases isIn

theorem Looping.pass (looping : Looping queue) : Orderly runner (queue.pass runner) := by
  unfold GroupQueue.pass
  cases isGate : queue.gate with
  | none => exact looping.takeJob
  | some held =>
    have only : queue.drains ++ [.atGate held] = [.atGate held] := by rw [looping.alone]; rfl
    refine ⟨looping.order, .inr ⟨.atGate held, only, looping.working⟩, fun gate isIn => ?_, ?_⟩
    · change _ ∈ queue.drains ++ [.atGate held] at isIn
      rw [only] at isIn
      cases List.mem_singleton.mp isIn
      rfl
    · intro _ isOpen
      cases isOpen

theorem Looping.loop (looping : Looping queue) : Orderly runner (queue.loop runner) := by
  unfold GroupQueue.loop
  split_ifs with empty
  · refine ⟨looping.order, .inl ⟨looping.alone, rfl⟩, fun gate isIn => ?_, fun _ _ _ => empty⟩
    change _ ∈ queue.drains at isIn
    rw [looping.alone] at isIn
    cases isIn
  · exact looping.pass

theorem Orderly.wake {before : Bool} (orderly : Orderly before queue) :
    Orderly runner (queue.wake runner) := by
  unfold GroupQueue.wake GroupQueue.drain
  split_ifs with idle busy
  · rw [idle.2] at busy
    cases busy
  · exact Looping.loop ⟨orderly.order, orderly.drains_of_idle idle.2, rfl⟩
  · refine ⟨orderly.order, orderly.single, orderly.gated, fun _ _ none => ?_⟩
    rcases orderly.single with ⟨_, resting⟩ | ⟨call, one, _⟩
    · by_contra present
      exact idle ⟨present, resting⟩
    · rw [none] at one
      cases one

/-- The only call is at the place that is named. -/
theorem Orderly.at_place (orderly : Orderly runner queue) {place : Nat} {call : Drain}
    (isCall : queue.drains[place]? = some call) :
    queue.drains = [call] ∧ place = 0 ∧ queue.working = true := by
  rcases orderly.single with ⟨none, _⟩ | ⟨only, one, busy⟩
  · rw [none] at isCall
    cases isCall
  · rw [one] at isCall
    cases place with
    | zero =>
      cases isCall
      exact ⟨one, rfl, busy⟩
    | succ place => cases isCall

theorem Orderly.act (orderly : Orderly runner queue) (action : Action) :
    Orderly runner (queue.act runner action) := by
  cases action with
  | enqueue question =>
    change Orderly runner (queue.enqueue runner question)
    unfold enqueue drain
    split_ifs with empty busy
    · exact orderly
    · refine ⟨?_, orderly.single, orderly.gated, fun _ _ none => ?_⟩
      · rw [← orderly.order]
        exact (List.append_assoc _ _ _).symm
      · rcases orderly.single with ⟨_, resting⟩ | ⟨call, one, _⟩
        · exact absurd busy (ne_true_of_eq_false resting)
        · cases one.symm.trans none
    · refine Looping.loop ⟨?_, orderly.drains_of_idle (eq_false_of_ne_true busy), rfl⟩
      rw [← orderly.order]
      exact (List.append_assoc _ _ _).symm
  | hold =>
    change Orderly runner queue.hold
    unfold hold
    split_ifs with held
    · exact orderly
    · refine ⟨orderly.order, orderly.single, fun gate isIn => ?_, fun _ isOpen => by cases isOpen⟩
      rw [orderly.gated gate isIn] at held
      exact absurd rfl held
  | resume =>
    have opened : Orderly false { queue with
        gate := none, drains := queue.drains.map (released queue.gate) } := by
      refine ⟨orderly.order, ?_, fun gate isIn => ?_, nofun⟩
      · rcases orderly.single with ⟨none, resting⟩ | ⟨call, one, busy⟩
        · exact .inl ⟨congrArg (List.map _) none, resting⟩
        · exact .inr ⟨_, congrArg (List.map _) one, busy⟩
      · -- whoever waited at the gate has been released
        obtain ⟨call, isIn, isReleased⟩ := List.mem_map.mp isIn
        cases call with
        | atGate awaited =>
          rw [released, if_pos (orderly.gated awaited isIn)] at isReleased
          cases isReleased
        | passing | running | ran => cases isReleased
    exact opened.wake
  | settles place =>
    change Orderly runner (queue.settle place)
    unfold settle
    split_ifs with isRunning
    · obtain ⟨one, rfl, busy⟩ := orderly.at_place isRunning
      have set : queue.drains.set 0 .ran = [.ran] := by rw [one]; rfl
      refine ⟨orderly.order, .inr ⟨.ran, set, busy⟩, fun gate isIn => ?_, fun _ _ none => ?_⟩
      · change _ ∈ queue.drains.set 0 .ran at isIn
        rw [set] at isIn
        cases List.mem_singleton.mp isIn
      · cases set.symm.trans none
    · exact orderly
  | continues place =>
    change Orderly runner (queue.proceed runner place)
    unfold proceed
    split
    · next isPassing =>
      obtain ⟨one, rfl, busy⟩ := orderly.at_place isPassing
      exact Looping.pass ⟨orderly.order, by rw [one]; rfl, busy⟩
    · next isRan =>
      obtain ⟨one, rfl, busy⟩ := orderly.at_place isRan
      exact Looping.loop ⟨orderly.order, by rw [one]; rfl, busy⟩
    · exact orderly

/-! ## Starts -/

/-- A job starts at an open gate, in front of those that wait. -/
def StartsRightly (before after : GroupQueue) : Prop :=
  after.started = before.started ∨
    after.gate = none ∧ ∃ job, after.started = before.started ++ [job]

theorem pass_starts (runner : Bool) (queue : GroupQueue) :
    StartsRightly queue (queue.pass runner) := by
  unfold pass takeJob
  split
  · exact .inl rfl
  · next isOpen =>
    split
    · exact .inl rfl
    · next job rest _ =>
      cases runner with
      | true => exact .inr ⟨isOpen, job, rfl⟩
      | false => exact .inl rfl

theorem loop_starts (runner : Bool) (queue : GroupQueue) :
    StartsRightly queue (queue.loop runner) := by
  unfold loop
  split_ifs
  · exact .inl rfl
  · exact pass_starts runner queue

theorem drain_starts (runner : Bool) (queue : GroupQueue) :
    StartsRightly queue (queue.drain runner) := by
  unfold drain
  split_ifs
  · exact .inl rfl
  · exact loop_starts runner { queue with working := true }

theorem wake_starts (runner : Bool) (queue : GroupQueue) :
    StartsRightly queue (queue.wake runner) := by
  unfold wake
  split_ifs
  · exact drain_starts runner queue
  · exact .inl rfl

theorem act_starts (runner : Bool) (queue : GroupQueue) (action : Action) :
    StartsRightly queue (queue.act runner action) := by
  cases action with
  | enqueue question =>
    change StartsRightly queue (queue.enqueue runner question)
    unfold enqueue
    split_ifs
    · exact .inl rfl
    · exact drain_starts runner { queue with
        items := queue.items ++ [trim question]
        queued := queue.items.length + 1
        enqueued := queue.enqueued ++ [trim question] }
  | hold =>
    change StartsRightly queue queue.hold
    unfold hold
    split_ifs <;> exact .inl rfl
  | resume =>
    exact wake_starts runner { queue with
      gate := none, drains := queue.drains.map (released queue.gate) }
  | settles place =>
    change StartsRightly queue (queue.settle place)
    unfold settle
    split_ifs <;> exact .inl rfl
  | continues place =>
    change StartsRightly queue (queue.proceed runner place)
    unfold proceed
    split
    · exact pass_starts runner { queue with drains := queue.drains.eraseIdx place }
    · exact loop_starts runner { queue with drains := queue.drains.eraseIdx place }
    · exact .inl rfl

/-! ## The published count -/

def Counted (queue : GroupQueue) : Prop := queue.queued = queue.items.length

/-- Unless a job is about to start, the count is right. -/
def Agrees (queue : GroupQueue) : Prop :=
  (∀ call ∈ queue.drains, call ≠ .passing ∧ call ≠ .ran) → queue.Counted

/-- A call of `drain` gets to the first job. -/
def Takes (queue : GroupQueue) : Action → Prop
  | .enqueue question => trim question ≠ "" ∧ queue.working = false ∧ queue.gate = none
  | .resume => queue.items ≠ [] ∧ queue.working = false
  | .continues place => queue.gate = none ∧ queue.items ≠ [] ∧
      (queue.drains[place]? = some .passing ∨ queue.drains[place]? = some .ran)
  | .hold | .settles _ => False

theorem Counted.takeJob (takes : runner = true ∨ queue.items = []) :
    (queue.takeJob runner).Counted := by
  unfold GroupQueue.takeJob
  split
  · next isItems => exact congrArg List.length isItems.symm
  · next job rest isItems =>
    rw [takes.resolve_right (by rw [isItems]; exact List.cons_ne_nil _ _)]
    rfl

theorem Counted.pass (counted : queue.Counted)
    (takes : queue.gate = none → runner = true ∨ queue.items = []) :
    (queue.pass runner).Counted := by
  unfold GroupQueue.pass
  cases isGate : queue.gate with
  | some gate => exact counted
  | none => exact Counted.takeJob (takes isGate)

theorem Counted.loop (counted : queue.Counted)
    (takes : queue.gate = none → runner = true ∨ queue.items = []) :
    (queue.loop runner).Counted := by
  unfold GroupQueue.loop
  split_ifs
  · exact counted
  · exact counted.pass takes

theorem Counted.wake (counted : queue.Counted) (takes : runner = true ∨ queue.gate ≠ none ∨
    queue.items = [] ∨ queue.working = true) : (queue.wake runner).Counted := by
  unfold GroupQueue.wake GroupQueue.drain
  split_ifs with idle busy
  · exact counted
  · refine Counted.loop counted fun isOpen => ?_
    rcases takes with set | held | empty | working
    · exact .inl set
    · exact absurd isOpen held
    · exact .inr empty
    · exact absurd working busy
  · exact counted

/-- **A job that is taken without a runner** is not counted any more. -/
theorem not_agrees_takeJob (alone : queue.drains = []) (present : queue.items ≠ []) :
    ¬ (queue.takeJob false).Agrees := by
  unfold takeJob
  split
  · next isItems => exact absurd isItems present
  · next job rest isItems =>
    intro agrees
    have counted := agrees fun call isIn => by
      change call ∈ queue.drains at isIn
      rw [alone] at isIn
      cases isIn
    change rest.length = queue.items.length at counted
    rw [isItems, List.length_cons] at counted
    exact absurd counted (Nat.ne_of_lt (Nat.lt_succ_self _))

theorem not_agrees_pass (alone : queue.drains = []) (isOpen : queue.gate = none)
    (present : queue.items ≠ []) : ¬ (queue.pass false).Agrees := by
  unfold pass
  rw [isOpen]
  exact not_agrees_takeJob alone present

theorem not_agrees_loop (alone : queue.drains = []) (isOpen : queue.gate = none)
    (present : queue.items ≠ []) : ¬ (queue.loop false).Agrees := by
  unfold loop
  rw [if_neg present]
  exact not_agrees_pass alone isOpen present

theorem Counted.act (counted : queue.Counted) {action : Action}
    (clean : runner = true ∨ ¬ queue.Takes action) : (queue.act runner action).Counted := by
  cases action with
  | enqueue question =>
    have grown : queue.queued + 1 = (queue.items ++ [trim question]).length := by
      rw [List.length_append, counted]
      rfl
    change (queue.enqueue runner question).Counted
    unfold enqueue drain
    split_ifs with empty busy
    · exact counted
    · exact counted ▸ grown
    · refine Counted.loop (counted ▸ grown) fun isOpen => .inl ?_
      exact clean.resolve_right fun free => free ⟨empty, eq_false_of_ne_true busy, isOpen⟩
  | hold =>
    change queue.hold.Counted
    unfold hold
    split_ifs <;> exact counted
  | resume =>
    refine Counted.wake counted ?_
    rcases clean with set | free
    · exact .inl set
    · by_cases empty : queue.items = []
      · exact .inr (.inr (.inl empty))
      · exact .inr (.inr (.inr (eq_true_of_ne_false fun idle => free ⟨empty, idle⟩)))
  | settles place =>
    change (queue.settle place).Counted
    unfold settle
    split_ifs <;> exact counted
  | continues place =>
    have takes : ∀ call, queue.drains[place]? = some call → call = .passing ∨ call = .ran →
        queue.gate = none → runner = true ∨ queue.items = [] := by
      intro call isCall settled isOpen
      refine clean.imp_right fun free => ?_
      by_contra present
      rcases settled with rfl | rfl
      · exact free ⟨isOpen, present, .inl isCall⟩
      · exact free ⟨isOpen, present, .inr isCall⟩
    change (queue.proceed runner place).Counted
    unfold proceed
    split
    · next isPassing => exact Counted.pass counted (takes _ isPassing (.inl rfl))
    · next isRan => exact Counted.loop counted (takes _ isRan (.inr rfl))
    · exact counted

theorem not_agrees_act (orderly : Orderly false queue) {action : Action}
    (takes : queue.Takes action) : ¬ (queue.act false action).Agrees := by
  cases action with
  | enqueue question =>
    obtain ⟨text, idle, isOpen⟩ := takes
    change ¬ (queue.enqueue false question).Agrees
    unfold enqueue drain
    rw [if_neg text, if_neg (ne_true_of_eq_false idle)]
    exact not_agrees_loop (orderly.drains_of_idle idle) isOpen
      (List.append_ne_nil_of_right_ne_nil _ (List.cons_ne_nil _ _))
  | resume =>
    obtain ⟨present, idle⟩ := takes
    have alone : queue.drains.map (released queue.gate) = [] := by
      rw [orderly.drains_of_idle idle]
      rfl
    change ¬ (queue.resume false).Agrees
    unfold resume wake drain
    rw [if_pos ⟨present, idle⟩, if_neg (ne_true_of_eq_false idle)]
    exact not_agrees_loop alone rfl present
  | continues place =>
    obtain ⟨isOpen, present, isPassing | isRan⟩ := takes
    · obtain ⟨one, rfl, _⟩ := orderly.at_place isPassing
      change ¬ (queue.proceed false 0).Agrees
      unfold proceed
      rw [isPassing]
      exact not_agrees_pass (by rw [one]; rfl) isOpen present
    · obtain ⟨one, rfl, _⟩ := orderly.at_place isRan
      change ¬ (queue.proceed false 0).Agrees
      unfold proceed
      rw [isRan]
      exact not_agrees_loop (by rw [one]; rfl) isOpen present
  | hold | settles => exact takes.elim

/-- **One action** leaves the count right exactly if it takes no job without a runner. -/
theorem act_agrees_iff (orderly : Orderly runner queue) (counted : queue.Counted)
    (action : Action) :
    (queue.act runner action).Agrees ↔ (runner = true ∨ ¬ queue.Takes action) := by
  refine ⟨fun agrees => ?_, fun clean _ => counted.act clean⟩
  cases runner with
  | true => exact .inl rfl
  | false => exact .inr fun takes => not_agrees_act orderly takes agrees

end GroupQueue

/-! ## Runs -/

open GroupQueue

def State.Orderly (state : State) : Prop :=
  ∀ groupId, (state.queues groupId).Orderly state.runner

def State.Counted (state : State) : Prop := ∀ groupId, (state.queues groupId).Counted

/-- No call of `drain` gets to a job while no runner is set. -/
def Clean (state : State) : Input → Prop
  | .act groupId action => state.runner = true ∨ ¬ (state.queues groupId).Takes action
  | .setRunner _ => True

/-- After the step the count of every group is right, unless a job is about to start. -/
def Agrees (state : State) (input : Input) : Prop :=
  ∀ groupId, ((step state input).queues groupId).Agrees

variable {state : State}

theorem step_act_self (acted : String) (action : Action) :
    (step state (.act acted action)).queues acted =
      (state.queues acted).act state.runner action :=
  Function.update_self ..

theorem step_act_of_ne {groupId acted : String} (action : Action) (other : groupId ≠ acted) :
    (step state (.act acted action)).queues groupId = state.queues groupId :=
  Function.update_of_ne other ..

theorem State.Orderly.step (orderly : state.Orderly) (input : Input) :
    (step state input).Orderly := by
  intro groupId
  cases input with
  | act acted action =>
    by_cases same : groupId = acted
    · subst same
      rw [step_act_self]
      exact (orderly groupId).act action
    · rw [step_act_of_ne action same]
      exact orderly groupId
  | setRunner next =>
    cases next with
    | true => exact (orderly groupId).wake
    | false =>
      obtain ⟨order, single, gated, _⟩ := orderly groupId
      exact ⟨order, single, gated, nofun⟩

theorem State.Counted.step (counted : state.Counted) {input : Input}
    (clean : Clean state input) : (step state input).Counted := by
  intro groupId
  cases input with
  | act acted action =>
    by_cases same : groupId = acted
    · subst same
      rw [step_act_self]
      exact (counted groupId).act clean
    · rw [step_act_of_ne action same]
      exact counted groupId
  | setRunner next =>
    cases next with
    | true => exact (counted groupId).wake (.inl rfl)
    | false => exact counted groupId

theorem agrees_iff (orderly : state.Orderly) (counted : state.Counted) (input : Input) :
    Agrees state input ↔ Clean state input := by
  refine ⟨fun agrees => ?_, fun clean groupId _ => counted.step clean groupId⟩
  cases input with
  | act acted action =>
    have agreed := agrees acted
    rw [step_act_self] at agreed
    exact (act_agrees_iff (orderly acted) (counted acted) action).mp agreed
  | setRunner next => trivial

theorem along_agrees_iff (orderly : state.Orderly) (counted : state.Counted)
    (inputs : List Input) : Along step Agrees state inputs ↔ Along step Clean state inputs := by
  induction inputs generalizing state with
  | nil => exact Iff.rfl
  | cons input rest ih =>
    rw [Along.cons, Along.cons, agrees_iff orderly counted]
    exact and_congr_right fun clean => ih (orderly.step input) (counted.step clean)

theorem step_starts (state : State) (input : Input) (groupId : String) :
    StartsRightly (state.queues groupId) ((step state input).queues groupId) := by
  cases input with
  | act acted action =>
    by_cases same : groupId = acted
    · subst same
      rw [step_act_self]
      exact act_starts _ _ action
    · rw [step_act_of_ne action same]
      exact .inl rfl
  | setRunner next =>
    cases next with
    | true => exact wake_starts _ _
    | false => exact .inl rfl

/-- What holds of a group in every state: jobs start in the order in which they were enqueued, and
the others wait in this order; at most one call of `drain` is under way; and if a runner is set, the
group is not held, and nothing runs or is about to, then nothing waits. -/
structure Served (runner : Bool) (queue : GroupQueue) : Prop where
  order : queue.started ++ queue.items = queue.enqueued
  single : queue.drains.length ≤ 1
  served : runner = true → queue.gate = none →
    (∀ call ∈ queue.drains, call ≠ .running ∧ call ≠ .passing ∧ call ≠ .ran) → queue.items = []

theorem GroupQueue.Orderly.promised {runner : Bool} {queue : GroupQueue}
    (orderly : queue.Orderly runner) : Served runner queue := by
  refine ⟨orderly.order, ?_, fun set isOpen quiet => orderly.served set isOpen ?_⟩
  · rcases orderly.single with ⟨none, _⟩ | ⟨call, one, _⟩
    · rw [none]
      exact Nat.zero_le 1
    · rw [one]
      exact Nat.le_refl 1
  · rcases orderly.single with ⟨none, _⟩ | ⟨call, one, _⟩
    · exact none
    · have isIn : call ∈ queue.drains := by
        rw [one]
        exact List.mem_cons_self
      cases call with
      | atGate gate => cases isOpen.symm.trans (orderly.gated gate isIn)
      | passing => exact absurd rfl (quiet _ isIn).2.1
      | running => exact absurd rfl (quiet _ isIn).1
      | ran => exact absurd rfl (quiet _ isIn).2.2

/-- **Answers come in order.**  In every run each group is served, and a step starts a job only at an
open gate, the next one.  The published counts are right in every state exactly if no call of
`drain` gets to a job while no runner is set. -/
theorem answers_in_order (inputs : List Input) :
    (∀ groupId, Served (inputs.foldl step start).runner
      ((inputs.foldl step start).queues groupId)) ∧
    (∀ input groupId, StartsRightly ((inputs.foldl step start).queues groupId)
      ((step (inputs.foldl step start) input).queues groupId)) ∧
    (Along step Agrees start inputs ↔ Along step Clean start inputs) := by
  have new : start.Orderly := fun _ => ⟨rfl, .inl ⟨rfl, rfl⟩, nofun, nofun⟩
  have kept : ∀ state input, State.Orderly state → (step state input).Orderly :=
    fun _ input orderly => orderly.step input
  have reached := Along.invariant_reached kept new inputs
  exact ⟨fun groupId => (reached groupId).promised, step_starts _,
    along_agrees_iff new (fun _ => rfl) inputs⟩

/-- **A question without a runner** waits, and is not counted. -/
theorem question_not_counted :
    ¬ Along step Agrees start [.act "group" (.enqueue "why?")] := by
  intro agrees
  have new : start.Orderly := fun _ => ⟨rfl, .inl ⟨rfl, rfl⟩, nofun, nofun⟩
  have text : trim "why?" ≠ "" := by decide +kernel
  rcases (agrees_iff new (fun _ => rfl) _).mp agrees.1 with set | free
  · cases set
  · exact free ⟨text, rfl, rfl⟩

end MessagingStack.App.AgentReplies

import Mathlib.Order.Defs.Unbundled
import Mathlib.Tactic.Common

/-!
# Asynchronous programs that may reject or die

An `async` function runs between *awaits*; there it may resolve, reject, or the process may die.
`Async ε σ α` is a state transformer with these three outcomes, which keeps the state in **every**
case: what a failed call leaves in memory, and a crash on disk.

Programs are specified by postconditions (`wp`), or by a preorder that relates the final state to
the first one whatever the outcome (`Keeps R`), which is closed under every way of building a
program.
-/

namespace MessagingStack

universe u

/-- How a run of an asynchronous program ended. -/
inductive Outcome (ε α : Type u) where
  /-- The promise resolved. -/
  | ok (value : α)
  /-- The promise rejected; a `catch` sees the reason. -/
  | error (reason : ε)
  /-- The process died: no `catch` and no `finally` runs. -/
  | crash
  deriving DecidableEq

namespace Outcome

variable {ε α : Type u}

/-- The value of a resolved promise. -/
def value? : Outcome ε α → Option α
  | .ok value => some value
  | .error _ => none
  | .crash => none

@[simp] theorem value?_ok (value : α) : (ok value : Outcome ε α).value? = some value := rfl

end Outcome

/-- An asynchronous program over states `σ` that may reject with an `ε`. -/
def Async (ε σ α : Type u) : Type u := σ → Outcome ε α × σ

namespace Async

variable {ε σ α β : Type u}

instance : Monad (Async ε σ) where
  pure value := fun state => (.ok value, state)
  bind program next := fun state =>
    match program state with
    | (.ok value, after) => next value after
    | (.error reason, after) => (.error reason, after)
    | (.crash, after) => (.crash, after)

/-- Reject. -/
def throw (reason : ε) : Async ε σ α := fun state => (.error reason, state)

/-- The process dies here. -/
def crash : Async ε σ α := fun state => (.crash, state)

def get : Async ε σ σ := fun state => (.ok state, state)

def modify (change : σ → σ) : Async ε σ PUnit := fun state => (.ok ⟨⟩, change state)

def tryCatch (program : Async ε σ α) (handler : ε → Async ε σ α) : Async ε σ α :=
  fun state =>
    match program state with
    | (.error reason, after) => handler reason after
    | other => other

def orElse (program : Async ε σ α) (value : α) : Async ε σ α := tryCatch program fun _ => pure value

/-- `try program finally cleanup`: the clean-up runs after a result and after a
rejection, not after a crash; a rejection of the clean-up takes over. -/
def tryFinally (program : Async ε σ α) (cleanup : Async ε σ PUnit) : Async ε σ α :=
  fun state =>
    match program state with
    | (.ok value, after) => (cleanup >>= fun _ => (pure value : Async ε σ α)) after
    | (.error reason, after) => (cleanup >>= fun _ => (throw reason : Async ε σ α)) after
    | (.crash, after) => (.crash, after)

/-! ### Running the constructors -/

@[simp] theorem pure_run (value : α) (state : σ) :
    (pure value : Async ε σ α) state = (.ok value, state) := rfl

@[simp] theorem throw_run (reason : ε) (state : σ) :
    (throw reason : Async ε σ α) state = (.error reason, state) := rfl

@[simp] theorem crash_run (state : σ) : (crash : Async ε σ α) state = (.crash, state) := rfl

@[simp] theorem get_run (state : σ) : (get : Async ε σ σ) state = (.ok state, state) := rfl

@[simp] theorem modify_run (change : σ → σ) (state : σ) :
    (modify change : Async ε σ PUnit) state = (.ok ⟨⟩, change state) := rfl

theorem bind_run (program : Async ε σ α) (next : α → Async ε σ β) (state : σ) :
    (program >>= next) state =
      match program state with
      | (.ok value, after) => next value after
      | (.error reason, after) => (.error reason, after)
      | (.crash, after) => (.crash, after) := rfl

theorem bind_run_ok {program : Async ε σ α} {next : α → Async ε σ β} {state after : σ}
    {value : α} (ran : program state = (.ok value, after)) :
    (program >>= next) state = next value after := by
  rw [bind_run, ran]

@[simp] theorem pure_bind (value : α) (next : α → Async ε σ β) :
    (pure value : Async ε σ α) >>= next = next value := rfl

theorem bind_assoc {γ : Type u} (program : Async ε σ α) (first : α → Async ε σ β)
    (second : β → Async ε σ γ) :
    program >>= first >>= second = program >>= fun value => first value >>= second := by
  funext state
  rw [bind_run, bind_run, bind_run]
  rcases program state with ⟨value | reason | _, after⟩ <;> rfl

theorem tryCatch_run (program : Async ε σ α) (handler : ε → Async ε σ α) (state : σ) :
    tryCatch program handler state =
      match program state with
      | (.error reason, after) => handler reason after
      | other => other := rfl

/-! ### Postconditions -/

def wp (program : Async ε σ α) (post : Outcome ε α → σ → Prop) (state : σ) : Prop :=
  post (program state).1 (program state).2

theorem wp_mono {program : Async ε σ α} {post post' : Outcome ε α → σ → Prop} {state : σ}
    (holds : wp program post state)
    (weaker : ∀ outcome after, post outcome after → post' outcome after) :
    wp program post' state :=
  weaker _ _ holds

@[simp] theorem wp_pure (value : α) (post : Outcome ε α → σ → Prop) (state : σ) :
    wp (pure value : Async ε σ α) post state ↔ post (.ok value) state := Iff.rfl

@[simp] theorem wp_throw (reason : ε) (post : Outcome ε α → σ → Prop) (state : σ) :
    wp (throw reason : Async ε σ α) post state ↔ post (.error reason) state := Iff.rfl

@[simp] theorem wp_crash (post : Outcome ε α → σ → Prop) (state : σ) :
    wp (crash : Async ε σ α) post state ↔ post .crash state := Iff.rfl

@[simp] theorem wp_get (post : Outcome ε σ → σ → Prop) (state : σ) :
    wp (get : Async ε σ σ) post state ↔ post (.ok state) state := Iff.rfl

@[simp] theorem wp_modify (change : σ → σ) (post : Outcome ε PUnit → σ → Prop) (state : σ) :
    wp (modify change : Async ε σ PUnit) post state ↔ post (.ok ⟨⟩) (change state) := Iff.rfl

/-- The continuation of a postcondition: what the rest of a program must do
after a resolved await, while rejections and crashes go straight to `post`. -/
def continueWith (next : α → Async ε σ β) (post : Outcome ε β → σ → Prop) :
    Outcome ε α → σ → Prop
  | .ok value, after => wp (next value) post after
  | .error reason, after => post (.error reason) after
  | .crash, after => post .crash after

@[simp] theorem continueWith_ok (next : α → Async ε σ β) (post : Outcome ε β → σ → Prop)
    (value : α) (after : σ) :
    continueWith next post (.ok value) after ↔ wp (next value) post after := Iff.rfl

@[simp] theorem continueWith_error (next : α → Async ε σ β) (post : Outcome ε β → σ → Prop)
    (reason : ε) (after : σ) :
    continueWith next post (.error reason) after ↔ post (.error reason) after := Iff.rfl

@[simp] theorem continueWith_crash (next : α → Async ε σ β) (post : Outcome ε β → σ → Prop)
    (after : σ) :
    continueWith next post .crash after ↔ post .crash after := Iff.rfl

theorem wp_bind {program : Async ε σ α} {next : α → Async ε σ β}
    {post : Outcome ε β → σ → Prop} {state : σ} :
    wp (program >>= next) post state ↔ wp program (continueWith next post) state := by
  change post ((program >>= next) state).1 ((program >>= next) state).2 ↔
    continueWith next post (program state).1 (program state).2
  rcases ran : program state with ⟨value | reason | _, after⟩
  · rw [bind_run_ok ran]
    exact Iff.rfl
  all_goals
    simp only [bind, ran]
    exact Iff.rfl

theorem wp_tryCatch {program : Async ε σ α} {handler : ε → Async ε σ α}
    {post : Outcome ε α → σ → Prop} {state : σ} :
    wp (tryCatch program handler) post state ↔
      wp program (fun outcome after =>
        match outcome with
        | .error reason => wp (handler reason) post after
        | other => post other after) state := by
  simp only [wp, tryCatch]
  rcases program state with ⟨value | reason | _, after⟩ <;> exact Iff.rfl

/-! ### Relations every run respects -/

/-- Every run of `program` relates its first and its last state by `R`. -/
def Keeps (R : σ → σ → Prop) (program : Async ε σ α) : Prop := ∀ state, R state (program state).2

namespace Keeps

variable {R : σ → σ → Prop}

theorem wp {program : Async ε σ α} (keeps : Keeps R program) (state : σ) :
    wp program (fun _ after => R state after) state :=
  keeps state

theorem modify {change : σ → σ} (related : ∀ state, R state (change state)) :
    Keeps R (Async.modify change : Async ε σ PUnit) :=
  related

theorem pure [Std.Refl R] (value : α) : Keeps R (Pure.pure value : Async ε σ α) :=
  fun state => Std.Refl.refl state

theorem throw [Std.Refl R] (reason : ε) : Keeps R (Async.throw reason : Async ε σ α) :=
  fun state => Std.Refl.refl state

theorem crash [Std.Refl R] : Keeps R (Async.crash : Async ε σ α) := fun state => Std.Refl.refl state

theorem get [Std.Refl R] : Keeps R (Async.get : Async ε σ σ) := fun state => Std.Refl.refl state

variable [IsTrans σ R]

theorem bind {program : Async ε σ α} {next : α → Async ε σ β} (first : Keeps R program)
    (rest : ∀ value, Keeps R (next value)) : Keeps R (program >>= next) := by
  intro state
  have related := first state
  rw [bind_run]
  rcases ran : program state with ⟨value | reason | _, after⟩ <;> rw [ran] at related
  · exact IsTrans.trans _ _ _ related (rest value after)
  · exact related
  · exact related

theorem tryCatch {program : Async ε σ α} {handler : ε → Async ε σ α} (first : Keeps R program)
    (handled : ∀ reason, Keeps R (handler reason)) :
    Keeps R (Async.tryCatch program handler) := by
  intro state
  have related := first state
  simp only [Async.tryCatch]
  rcases ran : program state with ⟨value | reason | _, after⟩ <;> rw [ran] at related
  · exact related
  · exact IsTrans.trans _ _ _ related (handled reason after)
  · exact related

theorem orElse [Std.Refl R] {program : Async ε σ α} {value : α} (first : Keeps R program) :
    Keeps R (Async.orElse program value) :=
  tryCatch first fun _ => pure value

theorem tryFinally [Std.Refl R] {program : Async ε σ α} {cleanup : Async ε σ PUnit}
    (first : Keeps R program) (last : Keeps R cleanup) :
    Keeps R (Async.tryFinally program cleanup) := by
  intro state
  have related := first state
  simp only [Async.tryFinally]
  rcases ran : program state with ⟨value | reason | _, after⟩ <;> rw [ran] at related
  · exact IsTrans.trans _ _ _ related (bind last (fun _ => pure value) after)
  · exact IsTrans.trans _ _ _ related (bind last (fun _ => throw reason) after)
  · exact related

end Keeps

theorem Keeps.getBind {R : σ → σ → Prop} {next : σ → Async ε σ β}
    (related : ∀ state, R state (next state state).2) : Keeps R (Async.get >>= next) :=
  related

theorem Keeps.at_bind {R : σ → σ → Prop} [IsTrans σ R] {program : Async ε σ α}
    {next : α → Async ε σ β} {state : σ} (first : R state (program state).2)
    (rest : ∀ value, Keeps R (next value)) : R state ((program >>= next) state).2 := by
  rw [bind_run]
  rcases ran : program state with ⟨value | reason | _, after⟩ <;> rw [ran] at first
  · exact IsTrans.trans _ _ _ first (rest value after)
  · exact first
  · exact first

/-! ### Invariants -/

/-- The relation "if `P` held before, it holds after". -/
def Preserving (P : σ → Prop) (before after : σ) : Prop := P before → P after

instance {P : σ → Prop} : Std.Refl (Preserving P) := ⟨fun _ => id⟩

instance {P : σ → Prop} : IsTrans σ (Preserving P) :=
  ⟨fun _ _ _ first second holds => second (first holds)⟩

/-- The relation "from a state with `I`, a state with `I` is reached, related by `S`". -/
def Guarded (I : σ → Prop) (S : σ → σ → Prop) (before after : σ) : Prop :=
  I before → I after ∧ S before after

instance {I : σ → Prop} {S : σ → σ → Prop} [Std.Refl S] : Std.Refl (Guarded I S) :=
  ⟨fun state holds => ⟨holds, Std.Refl.refl state⟩⟩

instance {I : σ → Prop} {S : σ → σ → Prop} [IsTrans σ S] : IsTrans σ (Guarded I S) :=
  ⟨fun _ _ _ first second holds =>
    let ⟨middle, reached⟩ := first holds
    let ⟨last, further⟩ := second middle
    ⟨last, IsTrans.trans _ _ _ reached further⟩⟩

/-- The rule for sequences where the guard says something about the value that is passed on. -/
theorem Keeps.bindValue {I : σ → Prop} {S : σ → σ → Prop} [IsTrans σ S] {Q : α → Prop}
    {program : Async ε σ α} {next : α → Async ε σ β}
    (first : Keeps (Guarded I S) program)
    (values : ∀ state, I state → ∀ value, (program state).1 = .ok value → Q value)
    (rest : ∀ value, Q value → Keeps (Guarded I S) (next value)) :
    Keeps (Guarded I S) (program >>= next) := by
  intro state holds
  obtain ⟨middle, reached⟩ := first state holds
  have valued := values state holds
  rw [bind_run]
  rcases ran : program state with ⟨value | reason | _, after⟩ <;> rw [ran] at middle reached valued
  · obtain ⟨last, further⟩ := rest value (valued value rfl) after middle
    exact ⟨last, IsTrans.trans _ _ _ reached further⟩
  · exact ⟨middle, reached⟩
  · exact ⟨middle, reached⟩

end Async

end MessagingStack

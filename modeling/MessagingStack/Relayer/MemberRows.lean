import Mathlib.Data.List.Induction
import MessagingStack.Base.ReadWrite
import MessagingStack.Relayer.Message

/-!
# Receipts and preferences of a member

`advance_member_receipts` in both variants of the storage, and `upsert_conversation_preferences`.
Under Postgres a call reads the row in one statement and upserts the next one in another.  Receipts
are a monotonic maximum, and preferences keep every patch, exactly if a call that writes finds what
it read, or less (`member_writes_serialisable_iff`).
-/

namespace MessagingStack.Relayer

/-! ## Receipts -/

namespace Receipts

/-- The marks of `MemberReceipt`. -/
structure Marks where
  deliveredUpto : Nat
  readUpto : Nat
  deriving DecidableEq

/-- A call of `advance_member_receipts` that has read the tip. -/
structure Advance where
  tip : Nat
  deliveredUpto : Option Nat
  readUpto : Option Nat
  deriving DecidableEq

def current (row : Option Marks) : Marks := row.getD ⟨0, 0⟩

namespace Advance

def wantDelivered (advance : Advance) : Option Nat := advance.deliveredUpto.map (min · advance.tip)

def wantRead (advance : Advance) : Option Nat := advance.readUpto.map (min · advance.tip)

def next (advance : Advance) (cur : Marks) : Marks :=
  let nextD := match advance.wantDelivered with
    | some d => max cur.deliveredUpto d
    | none => cur.deliveredUpto
  let nextR := match advance.wantRead with
    | some r => max cur.readUpto r
    | none => cur.readUpto
  ⟨max nextD nextR, nextR⟩

def askedRead (advance : Advance) : Nat := advance.wantRead.getD 0

def askedDelivered (advance : Advance) : Nat := max (advance.wantDelivered.getD 0) advance.askedRead

end Advance

/-- A call reads the row, and returns if the marks stay as they are. -/
def advancing : ReadWrite (Option Marks) Advance where
  apply advance row := some (advance.next (current row))
  skips advance row := advance.next (current row) = current row

/-- What is seen of a group and a member: its highest order, its row, and the calls that have
finished. -/
structure Observed where
  tip : Nat
  row : Option Marks
  finished : List Advance

/-- **What is promised of receipts** in a run: at every point the row is what the finished calls
would have made one after another in some order, no mark ever goes down, and both are the greatest
that were asked for, the read mark below the delivered one and that below the tip. -/
structure Serialisable {ι : Type} (observe : List ι → Observed) (inputs : List ι) : Prop where
  serial : ∀ before after, inputs = before ++ after →
    ∃ order, order.Perm (observe before).finished ∧
      (observe before).row = advancing.serial none order
  monotone : ∀ before between after, inputs = before ++ between ++ after →
    (current (observe before).row).deliveredUpto ≤
        (current (observe (before ++ between)).row).deliveredUpto ∧
      (current (observe before).row).readUpto ≤ (current (observe (before ++ between)).row).readUpto
  greatest : ∀ before after, inputs = before ++ after →
    (current (observe before).row).deliveredUpto =
        ((observe before).finished.map Advance.askedDelivered).foldl max 0 ∧
      (current (observe before).row).readUpto =
        ((observe before).finished.map Advance.askedRead).foldl max 0
  bounded : ∀ before after, inputs = before ++ after →
    (current (observe before).row).readUpto ≤ (current (observe before).row).deliveredUpto ∧
      (current (observe before).row).deliveredUpto ≤ (observe before).tip

/-! ### In memory -/

namespace Memory

structure State where
  tip : Nat
  /-- The calls that have read the tip. -/
  waiting : List Advance
  row : Option Marks
  finished : List Advance

inductive Input where
  | post
  | begin (deliveredUpto readUpto : Option Nat)
  /-- A call takes the locks. -/
  | advance (place : Nat)

def step (state : State) : Input → State
  | .post => { state with tip := state.tip + 1 }
  | .begin deliveredUpto readUpto =>
    if deliveredUpto = none ∧ readUpto = none then state
    else { state with waiting := state.waiting ++ [⟨state.tip, deliveredUpto, readUpto⟩] }
  | .advance place =>
    match state.waiting[place]? with
    | none => state
    | some call =>
      { state with
        waiting := state.waiting.eraseIdx place
        row := advancing.run state.row call
        finished := state.finished ++ [call] }

def start : State := ⟨0, [], none, []⟩

def observe (inputs : List Input) : Observed :=
  let state := inputs.foldl step start
  ⟨state.tip, state.row, state.finished⟩

end Memory

/-! ### Postgres -/

namespace Postgres

structure State where
  tip : Nat
  /-- The calls that have read the tip, but not the row. -/
  waiting : List Advance
  row : Cell (Option Marks) Advance

inductive Input where
  | post
  /-- A call begins its transaction and reads the tip. -/
  | begin (deliveredUpto readUpto : Option Nat)
  /-- A call reads the row. -/
  | select (place : Nat)
  /-- A call commits what it has upserted. -/
  | commit (place : Nat)
  /-- A call fails before it reads the row. -/
  | abandon (place : Nat)
  /-- A call fails after it has read the row. -/
  | rollback (place : Nat)
  deriving DecidableEq

def step (state : State) : Input → State
  | .post => { state with tip := state.tip + 1 }
  | .begin deliveredUpto readUpto =>
    if deliveredUpto = none ∧ readUpto = none then state
    else { state with waiting := state.waiting ++ [⟨state.tip, deliveredUpto, readUpto⟩] }
  | .select place =>
    match state.waiting[place]? with
    | none => state
    | some call =>
      { state with
        waiting := state.waiting.eraseIdx place
        row := advancing.step state.row (.read call) }
  | .commit place => { state with row := advancing.step state.row (.write place) }
  | .abandon place => { state with waiting := state.waiting.eraseIdx place }
  | .rollback place => { state with row := advancing.step state.row (.abandon place) }

def start : State := ⟨0, [], ⟨none, [], []⟩⟩

def observe (inputs : List Input) : Observed :=
  let state := inputs.foldl step start
  ⟨state.tip, state.row.value, state.row.finished⟩

/-- A call that writes finds no mark above those that it read or asks for. -/
def Clean (state : State) : Input → Prop
  | .commit place => ∀ call base, state.row.pending[place]? = some (call, base) →
    (current state.row.value).deliveredUpto ≤
        max (current base).deliveredUpto call.askedDelivered ∧
      (current state.row.value).readUpto ≤ max (current base).readUpto call.askedRead
  | _ => True

end Postgres

/-! ### What calls make of the marks -/

theorem Advance.next_eq (advance : Advance) {cur : Marks}
    (ordered : cur.readUpto ≤ cur.deliveredUpto) :
    advance.next cur =
      ⟨max cur.deliveredUpto advance.askedDelivered, max cur.readUpto advance.askedRead⟩ := by
  rw [next, askedDelivered, askedRead]
  rcases advance.wantDelivered with _ | d <;> rcases advance.wantRead with _ | r <;>
    simp only [Option.getD_none, Option.getD_some, Marks.mk.injEq, and_true] <;> omega

theorem Advance.asked_le_tip (advance : Advance) : advance.askedDelivered ≤ advance.tip := by
  rw [askedDelivered, askedRead, wantDelivered, wantRead]
  rcases advance.deliveredUpto with _ | d <;> rcases advance.readUpto with _ | r <;>
    simp only [Option.map_none, Option.map_some, Option.getD_none, Option.getD_some] <;> omega

theorem current_run (row : Option Marks) (call : Advance) :
    current (advancing.run row call) = call.next (current row) := by
  rw [ReadWrite.run]
  split_ifs with skips
  · exact (of_decide_eq_true skips).symm
  · rfl

theorem current_serial (calls : List Advance) :
    current (advancing.serial none calls) =
      ⟨(calls.map Advance.askedDelivered).foldl max 0, (calls.map Advance.askedRead).foldl max 0⟩ ∧
    (calls.map Advance.askedRead).foldl max 0 ≤ (calls.map Advance.askedDelivered).foldl max 0 := by
  induction calls using List.reverseRecOn with
  | nil => exact ⟨rfl, Nat.le_refl 0⟩
  | append_singleton rest call ih =>
    obtain ⟨marks, ordered⟩ := ih
    have read : call.askedRead ≤ call.askedDelivered := Nat.le_max_right _ _
    have inOrder : (current (advancing.serial none rest)).readUpto ≤
        (current (advancing.serial none rest)).deliveredUpto := by
      rw [marks]
      exact ordered
    rw [ReadWrite.serial_append, current_run, Advance.next_eq call inOrder, marks]
    simp only [List.map_append, List.map_singleton, List.foldl_append, List.foldl_cons,
      List.foldl_nil, true_and]
    omega

/-- More calls leave the marks where they are, or raise them. -/
theorem current_serial_le (early late : List Advance) :
    (current (advancing.serial none early)).deliveredUpto ≤
        (current (advancing.serial none (early ++ late))).deliveredUpto ∧
      (current (advancing.serial none early)).readUpto ≤
        (current (advancing.serial none (early ++ late))).readUpto := by
  induction late using List.reverseRecOn with
  | nil =>
    rw [List.append_nil]
    exact ⟨Nat.le_refl _, Nat.le_refl _⟩
  | append_singleton rest call ih =>
    have inOrder : (current (advancing.serial none (early ++ rest))).readUpto ≤
        (current (advancing.serial none (early ++ rest))).deliveredUpto := by
      rw [(current_serial (early ++ rest)).1]
      exact (current_serial (early ++ rest)).2
    rw [← List.append_assoc, ReadWrite.serial_append, current_run, Advance.next_eq call inOrder]
    exact ⟨Nat.le_trans ih.1 (Nat.le_max_left _ _), Nat.le_trans ih.2 (Nat.le_max_left _ _)⟩

theorem delivered_le {calls : List Advance} {tip : Nat} (known : ∀ call ∈ calls, call.tip ≤ tip) :
    (current (advancing.serial none calls)).deliveredUpto ≤ tip := by
  rw [(current_serial calls).1]
  induction calls using List.reverseRecOn with
  | nil => exact Nat.zero_le tip
  | append_singleton rest call ih =>
    simp only [List.map_append, List.map_singleton, List.foldl_append, List.foldl_cons,
      List.foldl_nil]
    have below := ih fun other isIn => known other (List.mem_append_left _ isIn)
    have last := known call (List.mem_append_right _ (List.mem_singleton_self call))
    exact Nat.max_le.mpr ⟨below, Nat.le_trans call.asked_le_tip last⟩

/-- What is seen is what the finished calls made in the order in which they finished. -/
structure Sound (observed : Observed) : Prop where
  row : observed.row = advancing.serial none observed.finished
  known : ∀ call ∈ observed.finished, call.tip ≤ observed.tip

/-- **A run that is sound at every point keeps the promise.** -/
theorem serialisable_of_sound {ι : Type} {observe : List ι → Observed} {inputs : List ι}
    (sound : ∀ before after, inputs = before ++ after → Sound (observe before))
    (grows : ∀ before between, ∃ late,
      (observe (before ++ between)).finished = (observe before).finished ++ late) :
    Serialisable observe inputs where
  serial before after split := ⟨_, .refl _, (sound before after split).row⟩
  monotone before between after split := by
    obtain ⟨late, finished⟩ := grows before between
    rw [(sound before (between ++ after) (by rw [split, List.append_assoc])).row,
      (sound (before ++ between) after split).row, finished]
    exact current_serial_le _ late
  greatest before after split := by
    rw [(sound before after split).row, (current_serial _).1]
    exact ⟨rfl, rfl⟩
  bounded before after split := by
    obtain ⟨row, known⟩ := sound before after split
    refine ⟨?_, ?_⟩
    · rw [row, (current_serial _).1]
      exact (current_serial _).2
    · rw [row]
      exact delivered_le known

theorem grows_of_step {σ ι α : Type} {step : σ → ι → σ} (finished : σ → List α)
    (grows : ∀ state input, ∃ late, finished (step state input) = finished state ++ late)
    (inputs : List ι) (state : σ) :
    ∃ late, finished (inputs.foldl step state) = finished state ++ late := by
  induction inputs generalizing state with
  | nil => exact ⟨[], (List.append_nil _).symm⟩
  | cons input rest ih =>
    obtain ⟨first, stepped⟩ := grows state input
    obtain ⟨others, reached⟩ := ih (step state input)
    exact ⟨first ++ others, by rw [List.foldl_cons, reached, stepped, List.append_assoc]⟩

/-! ### Runs in memory -/

namespace Memory

/-- What every run in memory keeps. -/
structure Inv (state : State) : Prop where
  row : state.row = advancing.serial none state.finished
  finished : ∀ call ∈ state.finished, call.tip ≤ state.tip
  waiting : ∀ call ∈ state.waiting, call.tip ≤ state.tip

theorem inv_start : Inv start where
  row := rfl
  finished _ isIn := absurd isIn List.not_mem_nil
  waiting _ isIn := absurd isIn List.not_mem_nil

theorem inv_step (state : State) (input : Input) (inv : Inv state) : Inv (step state input) := by
  cases input with
  | post =>
    exact ⟨inv.row, fun call isIn => Nat.le_succ_of_le (inv.finished call isIn),
      fun call isIn => Nat.le_succ_of_le (inv.waiting call isIn)⟩
  | «begin» deliveredUpto readUpto =>
    rw [step]
    split_ifs
    · exact inv
    refine ⟨inv.row, inv.finished, fun call isIn => ?_⟩
    rcases List.mem_append.mp isIn with isIn | isNew
    · exact inv.waiting call isIn
    · obtain rfl := List.mem_singleton.mp isNew
      exact Nat.le_refl state.tip
  | advance place =>
    rw [step]
    rcases found : state.waiting[place]? with _ | call
    · exact inv
    refine ⟨?_, fun other isIn => ?_, fun other isIn =>
      inv.waiting other (List.mem_of_mem_eraseIdx isIn)⟩
    · rw [ReadWrite.serial_append, ← inv.row]
    rcases List.mem_append.mp isIn with isIn | isNew
    · exact inv.finished other isIn
    · obtain rfl := List.mem_singleton.mp isNew
      exact inv.waiting other (List.mem_of_getElem? found)

theorem finished_step (state : State) (input : Input) :
    ∃ late, (step state input).finished = state.finished ++ late := by
  cases input with
  | post => exact ⟨[], (List.append_nil _).symm⟩
  | «begin» deliveredUpto readUpto =>
    rw [step]
    split_ifs
    · exact ⟨[], (List.append_nil _).symm⟩
    · exact ⟨[], (List.append_nil _).symm⟩
  | advance place =>
    rw [step]
    rcases state.waiting[place]? with _ | call
    · exact ⟨[], (List.append_nil _).symm⟩
    · exact ⟨[call], rfl⟩

/-- Receipts in memory keep the promise in every run. -/
theorem serialisable (inputs : List Input) : Serialisable observe inputs := by
  refine serialisable_of_sound (fun before after _ => ?_) fun before between => ?_
  · have inv := Along.invariant_reached inv_step inv_start before
    exact ⟨inv.row, inv.finished⟩
  · rw [observe, observe, List.foldl_append]
    exact grows_of_step _ finished_step between _

end Memory

/-! ### Runs under Postgres -/

namespace Postgres

/-- What every run under Postgres keeps: a call in progress knows the tip. -/
structure Known (state : State) : Prop where
  finished : ∀ call ∈ state.row.finished, call.tip ≤ state.tip
  pending : ∀ entry ∈ state.row.pending, entry.1.tip ≤ state.tip
  waiting : ∀ call ∈ state.waiting, call.tip ≤ state.tip

theorem known_start : Known start where
  finished _ isIn := absurd isIn List.not_mem_nil
  pending _ isIn := absurd isIn List.not_mem_nil
  waiting _ isIn := absurd isIn List.not_mem_nil

/-- What a run of clean steps keeps. -/
structure Inv (state : State) : Prop where
  known : Known state
  holds : ReadWrite.Holds advancing none state.row

theorem inv_start : Inv start := ⟨known_start, .start none⟩

variable (state : State) (input : Input)

theorem known_step (known : Known state) :
    Known (step state input) := by
  cases input with
  | post =>
    exact ⟨fun call isIn => Nat.le_succ_of_le (known.finished call isIn),
      fun entry isIn => Nat.le_succ_of_le (known.pending entry isIn),
      fun call isIn => Nat.le_succ_of_le (known.waiting call isIn)⟩
  | «begin» deliveredUpto readUpto =>
    rw [step]
    split_ifs
    · exact known
    refine ⟨known.finished, known.pending, fun call isIn => ?_⟩
    rcases List.mem_append.mp isIn with isIn | isNew
    · exact known.waiting call isIn
    · obtain rfl := List.mem_singleton.mp isNew
      exact Nat.le_refl state.tip
  | select place =>
    rw [step]
    rcases found : state.waiting[place]? with _ | call
    · exact known
    have tip : call.tip ≤ state.tip := known.waiting call (List.mem_of_getElem? found)
    have waiting : ∀ other ∈ state.waiting.eraseIdx place, other.tip ≤ state.tip :=
      fun other isIn => known.waiting other (List.mem_of_mem_eraseIdx isIn)
    simp only [ReadWrite.step]
    split_ifs
    · refine ⟨fun other isIn => ?_, known.pending, waiting⟩
      rcases List.mem_append.mp isIn with isIn | isNew
      · exact known.finished other isIn
      · exact (List.mem_singleton.mp isNew).symm ▸ tip
    refine ⟨known.finished, fun entry isIn => ?_, waiting⟩
    rcases List.mem_append.mp isIn with isIn | isNew
    · exact known.pending entry isIn
    · exact (List.mem_singleton.mp isNew).symm ▸ tip
  | commit place =>
    simp only [step, ReadWrite.step]
    rcases found : state.row.pending[place]? with _ | ⟨call, base⟩
    · exact known
    refine ⟨fun other isIn => ?_, fun entry isIn =>
      known.pending entry (List.mem_of_mem_eraseIdx isIn), known.waiting⟩
    rcases List.mem_append.mp isIn with isIn | isNew
    · exact known.finished other isIn
    · exact (List.mem_singleton.mp isNew).symm ▸
        known.pending (call, base) (List.mem_of_getElem? found)
  | abandon =>
    exact ⟨known.finished, known.pending, fun call isIn =>
      known.waiting call (List.mem_of_mem_eraseIdx isIn)⟩
  | rollback =>
    exact ⟨known.finished, fun entry isIn =>
      known.pending entry (List.mem_of_mem_eraseIdx isIn), known.waiting⟩

theorem base_le {cell : Cell (Option Marks) Advance} (holds : ReadWrite.Holds advancing none cell)
    {entry : Advance × Option Marks} (isPending : entry ∈ cell.pending) :
    (current entry.2).deliveredUpto ≤ (current cell.value).deliveredUpto ∧
      (current entry.2).readUpto ≤ (current cell.value).readUpto := by
  obtain ⟨-, early, late, finished, base⟩ := holds.pending entry isPending
  rw [base, holds.value, finished]
  exact current_serial_le early late

theorem agrees_of_clean {state : State} {place : Nat}
    (holds : ReadWrite.Holds advancing none state.row) (clean : Clean state (.commit place)) :
    advancing.Agrees state.row (.write place) := by
  intro call base isPending
  have isIn := List.mem_of_getElem? isPending
  obtain ⟨delivered, read⟩ := clean call base isPending
  obtain ⟨deliveredUp, readUp⟩ := base_le holds isIn
  obtain ⟨writes, early, late, finished, isBase⟩ := holds.pending _ isIn
  have baseOrdered : (current base).readUpto ≤ (current base).deliveredUpto := by
    rw [show base = _ from isBase, (current_serial early).1]
    exact (current_serial early).2
  have ordered : (current state.row.value).readUpto ≤
      (current state.row.value).deliveredUpto := by
    rw [holds.value, (current_serial _).1]
    exact (current_serial _).2
  have same : call.next (current base) = call.next (current state.row.value) := by
    rw [call.next_eq baseOrdered, call.next_eq ordered, Marks.mk.injEq]
    simp only at deliveredUp readUp
    omega
  show some (call.next (current base)) = _
  rw [ReadWrite.run, same]
  split_ifs with skips
  · -- the row has the marks already; it is there, as the call had something to write
    have unchanged : call.next (current state.row.value) = current state.row.value :=
      of_decide_eq_true skips
    rw [unchanged]
    rcases value : state.row.value with _ | marks
    · rw [value] at same unchanged deliveredUp readUp
      have zero : current base = ⟨0, 0⟩ := by
        have isZero : current (none : Option Marks) = ⟨0, 0⟩ := rfl
        rw [isZero] at deliveredUp readUp
        exact Marks.mk.injEq .. |>.mpr ⟨Nat.le_zero.mp deliveredUp, Nat.le_zero.mp readUp⟩
      have stays : call.next (current base) = current base := by
        rw [same, unchanged, zero]
        rfl
      exact absurd (decide_eq_true stays) (Bool.eq_false_iff.mp writes)
    · rfl
  · rfl

theorem inv_step (inv : Inv state) (clean : Clean state input) :
    Inv (step state input) := by
  refine ⟨known_step state input inv.known, ?_⟩
  cases input with
  | post | abandon => exact inv.holds
  | «begin» deliveredUpto readUpto =>
    rw [step]
    split_ifs
    · exact inv.holds
    · exact inv.holds
  | select place =>
    rw [step]
    rcases state.waiting[place]? with _ | call
    · exact inv.holds
    · exact inv.holds.step (.read call) trivial
  | commit place => exact inv.holds.step (.write place) (agrees_of_clean inv.holds clean)
  | rollback place => exact inv.holds.step (.abandon place) trivial

theorem finished_step :
    ∃ late, (step state input).row.finished = state.row.finished ++ late := by
  cases input with
  | post | abandon | rollback => exact ⟨[], (List.append_nil _).symm⟩
  | «begin» deliveredUpto readUpto =>
    rw [step]
    split_ifs
    · exact ⟨[], (List.append_nil _).symm⟩
    · exact ⟨[], (List.append_nil _).symm⟩
  | select place =>
    rw [step]
    rcases state.waiting[place]? with _ | call
    · exact ⟨[], (List.append_nil _).symm⟩
    simp only [ReadWrite.step]
    split_ifs
    · exact ⟨[call], rfl⟩
    · exact ⟨[], (List.append_nil _).symm⟩
  | commit place =>
    simp only [step, ReadWrite.step]
    rcases state.row.pending[place]? with _ | ⟨call, base⟩
    · exact ⟨[], (List.append_nil _).symm⟩
    · exact ⟨[call], rfl⟩

theorem falls_of_not_clean {state : State} {input : Input} (inv : Inv state)
    (dirty : ¬Clean state input) :
    (current (step state input).row.value).deliveredUpto <
        (current state.row.value).deliveredUpto ∨
      (current (step state input).row.value).readUpto < (current state.row.value).readUpto := by
  cases input with
  | commit place =>
    simp only [Clean, not_forall] at dirty
    obtain ⟨call, base, isPending, above⟩ := dirty
    obtain ⟨-, early, late, -, isBase⟩ := inv.holds.pending _ (List.mem_of_getElem? isPending)
    have baseOrdered : (current base).readUpto ≤ (current base).deliveredUpto := by
      rw [show base = _ from isBase, (current_serial early).1]
      exact (current_serial early).2
    have written : (step state (.commit place)).row.value = some (call.next (current base)) := by
      simp only [step, ReadWrite.step, isPending]
      rfl
    rw [written]
    show (call.next (current base)).deliveredUpto < _ ∨ (call.next (current base)).readUpto < _
    rw [call.next_eq baseOrdered]
    rcases not_and_or.mp above with delivered | read
    · exact .inl (Nat.not_le.mp delivered)
    · exact .inr (Nat.not_le.mp read)
  | post | select | abandon | rollback => exact absurd trivial dirty
  | «begin» deliveredUpto readUpto => exact absurd trivial dirty

/-- **Receipts under Postgres** keep the promise exactly if no call writes over a higher mark. -/
theorem serialisable_iff (inputs : List Input) :
    Serialisable observe inputs ↔ Along step Clean start inputs := by
  constructor
  · intro promise
    by_contra fails
    obtain ⟨before, input, after, rfl, along, dirty⟩ := Along.exists_first_failure fails
    have inv := Along.invariant inv_step along inv_start
    have rises := promise.monotone before [input] after (by rw [List.append_assoc]; rfl)
    simp only [observe, List.foldl_append, List.foldl_cons, List.foldl_nil] at rises
    rcases falls_of_not_clean inv dirty with falls | falls
    · exact absurd rises.1 (Nat.not_le.mpr falls)
    · exact absurd rises.2 (Nat.not_le.mpr falls)
  intro along
  refine serialisable_of_sound ?_ fun before between => ?_
  · rintro before after rfl
    have inv := Along.invariant inv_step ((Along.append _ _ _).mp along).1 inv_start
    exact ⟨inv.holds.value, inv.known.finished⟩
  · rw [observe, observe, List.foldl_append]
    have grows := grows_of_step (fun state : State => state.row.finished) finished_step between
    exact grows _

end Postgres

end Receipts

/-! ## Preferences -/

namespace Preferences

structure ConversationPreferences where
  notificationMode : String
  receiptMode : String
  hideOnlinePresence : Bool
  version : Nat
  deriving DecidableEq

def ConversationPreferences.defaults : ConversationPreferences where
  notificationMode := "all"
  receiptMode := "full"
  hideOnlinePresence := false
  version := 1

structure ConversationPreferencesPatch where
  notificationMode : Option String
  receiptMode : Option String
  hideOnlinePresence : Option Bool
  deriving DecidableEq

/-- `i32::MAX`. -/
def maxVersion : Nat := 2147483647

/-- `version.saturating_add(1)`. -/
def bump (version : Nat) : Nat := min (version + 1) maxVersion

/-- The row that a patch makes of a row, or of none. -/
def ConversationPreferencesPatch.next (patch : ConversationPreferencesPatch)
    (row : Option ConversationPreferences) : ConversationPreferences :=
  let base := row.getD .defaults
  { notificationMode := patch.notificationMode.getD base.notificationMode
    receiptMode := patch.receiptMode.getD base.receiptMode
    hideOnlinePresence := patch.hideOnlinePresence.getD base.hideOnlinePresence
    version := if row.isSome then bump base.version else 1 }

/-- A call reads the row and upserts the next one. -/
def patching : ReadWrite (Option ConversationPreferences) ConversationPreferencesPatch where
  apply patch row := some (patch.next row)
  skips _ _ := false

/-- How many writes a row has counted. -/
def counted (row : Option ConversationPreferences) : Nat :=
  (row.map ConversationPreferences.version).getD 0

/-- What is seen of a group and a wallet: the row, and the calls that have written. -/
structure Observed where
  row : Option ConversationPreferences
  finished : List ConversationPreferencesPatch

/-- The value that some patch sets, where none sets another, is in the row. -/
def Survives {α : Type} (field : ConversationPreferences → α)
    (set : ConversationPreferencesPatch → Option α) (observed : Observed) : Prop :=
  ∀ patch ∈ observed.finished, ∀ value, set patch = some value →
    (∀ other ∈ observed.finished, ∀ else_, set other = some else_ → else_ = value) →
    observed.row.map field = some value

/-- **What is promised of preferences** at each point of a run: the row is what the finished calls
would have made one after another in some order, what patches set to different fields is all there,
and the version is the number of writes. -/
structure Good (observed : Observed) : Prop where
  serial : ∃ order, order.Perm observed.finished ∧ observed.row = patching.serial none order
  notificationMode : Survives (·.notificationMode) (·.notificationMode) observed
  receiptMode : Survives (·.receiptMode) (·.receiptMode) observed
  hideOnlinePresence : Survives (·.hideOnlinePresence) (·.hideOnlinePresence) observed
  version : counted observed.row = observed.finished.length

def Serialisable {ι : Type} (observe : List ι → Observed) (inputs : List ι) : Prop :=
  ∀ before after, inputs = before ++ after → Good (observe before)

abbrev State := Cell (Option ConversationPreferences) ConversationPreferencesPatch

abbrev Input := Cell.Input ConversationPreferencesPatch

def start : State := ⟨none, [], []⟩

def observe (inputs : List Input) : Observed :=
  let state := inputs.foldl patching.step start
  ⟨state.value, state.finished⟩

/-- A call that writes finds the row as it read it, with a version that can still grow. -/
def Clean (state : State) : Input → Prop
  | .write place => ∀ patch base, state.pending[place]? = some (patch, base) →
    state.value = base ∧ counted state.value < maxVersion
  | _ => True

/-! ### What patches make of the row -/

theorem patching_run (row : Option ConversationPreferences) (patch : ConversationPreferencesPatch) :
    patching.run row patch = some (patch.next row) := rfl

theorem counted_serial (patches : List ConversationPreferencesPatch) :
    counted (patching.serial none patches) = min patches.length maxVersion ∧
      ((patching.serial none patches).isSome = true ↔ patches ≠ []) := by
  induction patches using List.reverseRecOn with
  | nil => exact ⟨rfl, by simp [ReadWrite.serial]⟩
  | append_singleton rest patch ih =>
    obtain ⟨version, present⟩ := ih
    rw [ReadWrite.serial_append, patching_run, List.length_append, List.length_singleton]
    refine ⟨?_, by simp⟩
    show (if _ then bump _ else 1) = _
    split_ifs with isSome
    · obtain ⟨row, isRow⟩ := Option.isSome_iff_exists.mp isSome
      rw [isRow] at version ⊢
      have isVersion : row.version = min rest.length maxVersion := version
      rw [Option.getD_some, bump, isVersion]
      omega
    have empty : rest = [] := by
      by_contra nonempty
      exact isSome (present.mpr nonempty)
    rw [empty]
    rfl

theorem field_serial {α : Type} {field : ConversationPreferences → α}
    {set : ConversationPreferencesPatch → Option α}
    (sets : ∀ patch row, field (patch.next row) = (set patch).getD (field (row.getD .defaults)))
    {value : α} (patches : List ConversationPreferencesPatch)
    (agree : ∀ other ∈ patches, ∀ else_, set other = some else_ → else_ = value)
    (isSet : ∃ patch ∈ patches, set patch = some value) :
    (patching.serial none patches).map field = some value := by
  induction patches using List.reverseRecOn with
  | nil =>
    obtain ⟨_, isIn, -⟩ := isSet
    exact absurd isIn List.not_mem_nil
  | append_singleton rest patch ih =>
    rw [ReadWrite.serial_append, patching_run, Option.map_some, sets]
    rcases last : set patch with _ | found
    · -- the last patch leaves the field, so an earlier one has set it
      obtain ⟨setter, isIn, isValue⟩ := isSet
      have early : setter ∈ rest := by
        rcases List.mem_append.mp isIn with isIn | isLast
        · exact isIn
        · rw [List.mem_singleton.mp isLast, last] at isValue
          cases isValue
      have before := ih (fun other isOther => agree other (List.mem_append_left _ isOther))
        ⟨setter, early, isValue⟩
      obtain ⟨row, isRow, isField⟩ := Option.map_eq_some_iff.mp before
      rw [isRow, Option.getD_none, Option.getD_some, isField]
    · rw [Option.getD_some, agree patch (List.mem_append_right _ (List.mem_singleton_self _)) found
        last]

theorem good_serial (patches : List ConversationPreferencesPatch)
    (few : patches.length ≤ maxVersion) : Good ⟨patching.serial none patches, patches⟩ where
  serial := ⟨patches, .refl _, rfl⟩
  notificationMode patch isIn _ isSet agree :=
    field_serial (fun _ _ => rfl) patches agree ⟨patch, isIn, isSet⟩
  receiptMode patch isIn _ isSet agree :=
    field_serial (fun _ _ => rfl) patches agree ⟨patch, isIn, isSet⟩
  hideOnlinePresence patch isIn _ isSet agree :=
    field_serial (fun _ _ => rfl) patches agree ⟨patch, isIn, isSet⟩
  version := by
    rw [(counted_serial patches).1]
    exact Nat.min_eq_left few

/-! ### Runs -/

/-- What a run of clean writes keeps. -/
structure Inv (state : State) : Prop where
  holds : ReadWrite.Holds patching none state
  few : state.finished.length ≤ maxVersion

theorem inv_start : Inv start := ⟨.start none, Nat.zero_le _⟩

theorem inv_step (state : State) (input : Input) (inv : Inv state) (clean : Clean state input) :
    Inv (patching.step state input) := by
  cases input with
  | read patch => exact ⟨inv.holds.step (.read patch) trivial, inv.few⟩
  | write place =>
    have agrees : patching.Agrees state (.write place) := by
      intro patch base isPending
      rw [(clean patch base isPending).1]
      rfl
    refine ⟨inv.holds.step (.write place) agrees, ?_⟩
    rw [ReadWrite.step]
    rcases found : state.pending[place]? with _ | ⟨patch, base⟩
    · exact inv.few
    have room := (clean patch base found).2
    rw [inv.holds.value, (counted_serial _).1] at room
    rw [List.length_append, List.length_singleton]
    omega
  | abandon place => exact ⟨inv.holds.step (.abandon place) trivial, inv.few⟩

theorem miscounts_of_not_clean {state : State} {input : Input} (inv : Inv state)
    (dirty : ¬Clean state input) :
    counted (patching.step state input).value ≠ (patching.step state input).finished.length := by
  cases input with
  | read | abandon => exact absurd trivial dirty
  | write =>
    simp only [Clean, not_forall] at dirty
    obtain ⟨patch, base, isPending, wrong⟩ := dirty
    obtain ⟨-, early, late, split, isBase⟩ := inv.holds.pending _ (List.mem_of_getElem? isPending)
    obtain rfl : base = patching.serial none early := isBase
    rw [ReadWrite.step, isPending]
    show counted (patching.run (patching.serial none early) patch) ≠ (_ ++ [patch]).length
    rw [← ReadWrite.serial_append, (counted_serial _).1, split]
    simp only [List.length_append, List.length_singleton]
    intro same
    have unchanged : late = [] := List.eq_nil_of_length_eq_zero (by omega)
    have value : state.value = patching.serial none early := by
      rw [inv.holds.value, split, unchanged, List.append_nil]
    have full : ¬counted state.value < maxVersion := fun below => wrong ⟨value, below⟩
    rw [value, (counted_serial _).1] at full
    omega

/-- **Preferences under Postgres** keep the promise exactly if no call writes over a row that it has
not read, or one whose version is the greatest. -/
theorem serialisable_iff (inputs : List Input) :
    Serialisable observe inputs ↔ Along patching.step Clean start inputs := by
  constructor
  · intro promise
    by_contra fails
    obtain ⟨before, input, after, rfl, along, dirty⟩ := Along.exists_first_failure fails
    have inv := Along.invariant inv_step along inv_start
    have good := promise (before ++ [input]) after (by rw [List.append_assoc]; rfl)
    have version := good.version
    simp only [observe, List.foldl_append, List.foldl_cons, List.foldl_nil] at version
    exact miscounts_of_not_clean inv dirty version
  rintro along before after rfl
  have inv := Along.invariant inv_step ((Along.append _ _ _).mp along).1 inv_start
  have good := good_serial _ inv.few
  rw [← inv.holds.value] at good
  exact good

end Preferences

/-! ## The promise -/

/-- **When the writes of a member are serialisable.**  Under Postgres receipts are exactly if every
call that writes finds no mark above those that it read or asks for, and preferences are exactly if
every call that writes finds the row as it read it, with a version below the greatest; in memory
receipts are in every run. -/
theorem member_writes_serialisable_iff (receipts : List Receipts.Postgres.Input)
    (preferences : List Preferences.Input) (inMemory : List Receipts.Memory.Input) :
    (Receipts.Serialisable Receipts.Postgres.observe receipts ↔
      Along Receipts.Postgres.step Receipts.Postgres.Clean Receipts.Postgres.start receipts) ∧
    (Preferences.Serialisable Preferences.observe preferences ↔
      Along Preferences.patching.step Preferences.Clean Preferences.start preferences) ∧
    Receipts.Serialisable Receipts.Memory.observe inMemory :=
  ⟨Receipts.Postgres.serialisable_iff receipts, Preferences.serialisable_iff preferences,
    Receipts.Memory.serialisable inMemory⟩

/-- Two devices race: a receipt goes back from 2 to 1, and a privacy setting is lost. -/
theorem racing_devices_lose_writes :
    (¬∀ inputs, Receipts.Serialisable Receipts.Postgres.observe inputs) ∧
      ¬∀ inputs, Preferences.Serialisable Preferences.observe inputs := by
  constructor
  · intro promise
    have rises := (promise [.post, .post, .begin none (some 1), .select 0, .begin none (some 2),
      .select 0, .commit 1, .commit 0]).monotone
      [.post, .post, .begin none (some 1), .select 0, .begin none (some 2), .select 0, .commit 1]
      [.commit 0] [] rfl
    exact absurd rises (by decide)
  intro promise
  have good := promise [.read ⟨none, none, some true⟩, .read ⟨some "none", none, none⟩,
    .write 0, .write 0] _ [] (List.append_nil _).symm
  have hidden := good.hideOnlinePresence ⟨none, none, some true⟩ (by decide) true rfl (by decide)
  exact absurd hidden (by decide)

end MessagingStack.Relayer

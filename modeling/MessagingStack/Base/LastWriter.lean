import Mathlib.Data.List.Sort
import Mathlib.Data.Set.Function

/-!
# Last-writer-wins registers

A register keeps the write with the highest order it has been given.  What it holds is a
property of the set of writes, not of the sequence in which they came: `IsLatest` says
that a register holds the latest of a set of writes, `IsLatest.write` that a guarded
write keeps this for the set with one write more, wherever the write stands in the
order, `update_some_of_lt` that the guard never stops writes that come in order, and
`IsLatest.unique` that two registers which hold the latest of the same writes agree,
provided no two writes share an order.

`insertionSort_congr` is the same principle for a sorted list: two lists with the same
elements and distinct keys sort to the same list.
-/

namespace MessagingStack.LastWriter

universe u v

variable {ε : Type u} {κ : Type v} [LinearOrder κ] (order : ε → κ)

/-- The register holds the latest of the writes, or nothing when there are none. -/
structure IsLatest (writes : Set ε) (cell : Option ε) : Prop where
  written : ∀ entry ∈ cell, entry ∈ writes
  latest : ∀ entry ∈ writes, ∃ kept ∈ cell, order entry ≤ order kept

/-- A write that gives way to one that is not older. -/
def write (cell : Option ε) (entry : ε) : Option ε :=
  match cell with
  | none => some entry
  | some kept => if order entry ≤ order kept then some kept else some entry

/-- What a register holds after an event that makes one write or none. -/
def update (cell : Option ε) : Option ε → Option ε
  | none => cell
  | some entry => write order cell entry

variable {order} {writes : Set ε} {cell other : Option ε} {entry : ε}

@[simp] theorem update_none : update order cell none = cell := rfl

/-- A write that is later than what the register holds is not held back by its guard. -/
theorem update_some_of_lt (later : ∀ kept ∈ cell, order kept < order entry) :
    update order cell (some entry) = some entry := by
  cases cell with
  | none => rfl
  | some kept => exact if_neg (not_le_of_gt (later kept rfl))

/-- The guard as the code writes it: nothing is written over an entry that is not older. -/
theorem update_some (cell : Option ε) (entry : ε) :
    update order cell (some entry) =
      if cell.any (fun kept => decide (order entry ≤ order kept)) then cell
      else some entry := by
  cases cell with
  | none => rfl
  | some => simp only [update, write, Option.any_some, decide_eq_true_eq]

theorem isLatest_empty : IsLatest order ∅ none where
  written := by rintro entry ⟨⟩
  latest := by rintro entry ⟨⟩

theorem IsLatest.overwrite (later : ∀ write ∈ writes, order write ≤ order entry) :
    IsLatest order (insert entry writes) (some entry) where
  written := by
    rintro _ ⟨⟩
    exact Set.mem_insert entry writes
  latest := by
    intro written isWritten
    refine ⟨entry, rfl, ?_⟩
    rcases isWritten with rfl | isOld
    · exact le_refl _
    · exact later written isOld

theorem IsLatest.write (holds : IsLatest order writes cell) (entry : ε) :
    IsLatest order (insert entry writes) (write order cell entry) := by
  cases cell with
  | none =>
    refine IsLatest.overwrite fun written isWritten => ?_
    obtain ⟨_, ⟨⟩, _⟩ := holds.latest written isWritten
  | some kept =>
    simp only [LastWriter.write]
    split
    · next older =>
      refine ⟨fun held isHeld => .inr (holds.written held isHeld), ?_⟩
      rintro written (rfl | isOld)
      · exact ⟨kept, rfl, older⟩
      · exact holds.latest written isOld
    next newer =>
    refine IsLatest.overwrite fun written isWritten => ?_
    obtain ⟨_, ⟨⟩, bound⟩ := holds.latest written isWritten
    exact le_trans bound (le_of_not_ge newer)

theorem IsLatest.unique (distinct : Set.InjOn order writes)
    (first : IsLatest order writes cell) (second : IsLatest order writes other) :
    cell = other := by
  cases cell with
  | none =>
    cases other with
    | none => rfl
    | some held => obtain ⟨_, ⟨⟩, _⟩ := first.latest held (second.written held rfl)
  | some kept =>
    obtain ⟨held, isHeld, below⟩ := second.latest kept (first.written kept rfl)
    obtain ⟨again, isAgain, above⟩ := first.latest held (second.written held isHeld)
    cases isAgain
    have same : kept = held := distinct (first.written kept rfl) (second.written held isHeld)
      (le_antisymm below above)
    rw [same]
    exact isHeld.symm

/-! ### Writes that events make -/

section Events

variable {π : Type u} {events : Set π} {event : π}

/-- The writes a set of events makes, an event making one or none. -/
def contributed (write? : π → Option ε) (events : Set π) : Set ε :=
  { entry | ∃ event ∈ events, write? event = some entry }

variable {write? : π → Option ε}

@[simp] theorem contributed_empty : contributed write? (∅ : Set π) = ∅ := by
  ext entry
  simp [contributed]

theorem contributed_insert_none (none : write? event = none) :
    contributed write? (insert event events) = contributed write? events := by
  ext entry
  constructor
  · rintro ⟨source, rfl | isOld, made⟩
    · cases none ▸ made
    · exact ⟨source, isOld, made⟩
  · rintro ⟨source, isOld, made⟩
    exact ⟨source, .inr isOld, made⟩

theorem contributed_insert_some (some : write? event = some entry) :
    contributed write? (insert event events) = insert entry (contributed write? events) := by
  ext made
  constructor
  · rintro ⟨source, rfl | isOld, makes⟩
    · exact .inl (Option.some.inj (makes.symm.trans some))
    · exact .inr ⟨source, isOld, makes⟩
  · rintro (rfl | ⟨source, isOld, makes⟩)
    · exact ⟨event, .inl rfl, some⟩
    · exact ⟨source, .inr isOld, makes⟩

theorem IsLatest.contribute (holds : IsLatest order (contributed write? events) cell)
    (event : π) :
    IsLatest order (contributed write? (insert event events))
      (update order cell (write? event)) := by
  cases made : write? event with
  | none => rwa [contributed_insert_none made]
  | some entry =>
    rw [contributed_insert_some made]
    exact holds.write entry

/-! When a write carries the order of its event, orders of events are orders of writes. -/

variable {stamp : π → κ}

theorem IsLatest.lt_of_events (holds : IsLatest order (contributed write? events) cell)
    (stamped : ∀ event entry, write? event = some entry → order entry = stamp event)
    {bound : κ} (below : ∀ event ∈ events, stamp event < bound) :
    ∀ kept ∈ cell, order kept < bound := by
  intro kept isKept
  obtain ⟨event, isEvent, makes⟩ := holds.written kept isKept
  rw [stamped event kept makes]
  exact below event isEvent

omit [LinearOrder κ] in
theorem injOn_contributed
    (stamped : ∀ event entry, write? event = some entry → order entry = stamp event)
    (distinct : Set.InjOn stamp events) : Set.InjOn order (contributed write? events) := by
  rintro first ⟨firstEvent, isFirst, makesFirst⟩ second ⟨secondEvent, isSecond, makesSecond⟩ same
  rw [stamped _ _ makesFirst, stamped _ _ makesSecond] at same
  obtain rfl := distinct isFirst isSecond same
  exact Option.some.inj (makesFirst.symm.trans makesSecond)

end Events

/-! ### Sorting -/

theorem insertionSort_congr {α : Type u} (key : α → κ) {left right : List α}
    (leftNodup : left.Nodup) (rightNodup : right.Nodup)
    (same : ∀ element, element ∈ left ↔ element ∈ right)
    (distinct : ∀ first ∈ left, ∀ second ∈ left, key first = key second → first = second) :
    left.insertionSort (fun first second => key first ≤ key second) =
      right.insertionSort (fun first second => key first ≤ key second) := by
  have total : Std.Total fun first second : α => key first ≤ key second :=
    ⟨fun first second => le_total (key first) (key second)⟩
  have transitive : IsTrans α fun first second : α => key first ≤ key second :=
    ⟨fun _ _ _ => le_trans⟩
  have perm : left.Perm right := (List.perm_ext_iff_of_nodup leftNodup rightNodup).mpr same
  refine List.Perm.eq_of_pairwise ?_ (List.pairwise_insertionSort _ left)
    (List.pairwise_insertionSort _ right)
    ((List.perm_insertionSort _ left).trans (perm.trans (List.perm_insertionSort _ right).symm))
  intro first second isFirst isSecond below above
  rw [List.mem_insertionSort] at isFirst isSecond
  exact distinct first isFirst second ((same second).mpr isSecond) (le_antisymm below above)

end MessagingStack.LastWriter

import MessagingStack.Base.Runs

/-!
# Calls that read a cell and write it back

A cell that many calls change, each in two steps: it reads the value, computes the next one, and
writes that back some time later, whatever the cell holds by then.  A call whose change is nothing
returns when it has read.
-/

namespace MessagingStack

universe u v

/-- How the calls `ω` change a value `ρ`, and which of them leave it as it is. -/
structure ReadWrite (ρ : Type u) (ω : Type v) where
  apply : ω → ρ → ρ
  skips : ω → ρ → Bool

/-- A cell, with the calls that have read it, and those that have finished. -/
structure Cell (ρ : Type u) (ω : Type v) where
  value : ρ
  pending : List (ω × ρ)
  finished : List ω

namespace Cell

/-- The steps of calls. -/
inductive Input (ω : Type v) where
  | read (call : ω)
  | write (place : Nat)
  | abandon (place : Nat)
  deriving DecidableEq

end Cell

namespace ReadWrite

variable {ρ : Type u} {ω : Type v} (cellType : ReadWrite ρ ω)

def run (value : ρ) (call : ω) : ρ :=
  if cellType.skips call value then value else cellType.apply call value

def serial (start : ρ) (calls : List ω) : ρ := calls.foldl cellType.run start

theorem serial_append (start : ρ) (calls : List ω) (call : ω) :
    cellType.serial start (calls ++ [call]) = cellType.run (cellType.serial start calls) call := by
  rw [serial, List.foldl_append]
  rfl

def step (cell : Cell ρ ω) : Cell.Input ω → Cell ρ ω
  | .read call =>
    if cellType.skips call cell.value then { cell with finished := cell.finished ++ [call] }
    else { cell with pending := cell.pending ++ [(call, cell.value)] }
  | .write place =>
    match cell.pending[place]? with
    | none => cell
    | some (call, base) =>
      { value := cellType.apply call base
        pending := cell.pending.eraseIdx place
        finished := cell.finished ++ [call] }
  | .abandon place => { cell with pending := cell.pending.eraseIdx place }

/-- A call writes what it would write if it read the cell now. -/
def Agrees (cell : Cell ρ ω) : Cell.Input ω → Prop
  | .write place => ∀ call base, cell.pending[place]? = some (call, base) →
    cellType.apply call base = cellType.run cell.value call
  | _ => True

variable {cellType}

/-- **What a run keeps**: the value is that of the finished calls one after another, and each call
in progress has something to write, and has read what some of them made. -/
structure Holds (cellType : ReadWrite ρ ω) (start : ρ) (cell : Cell ρ ω) : Prop where
  value : cell.value = cellType.serial start cell.finished
  pending : ∀ entry ∈ cell.pending, cellType.skips entry.1 entry.2 = false ∧
    ∃ early late, cell.finished = early ++ late ∧ entry.2 = cellType.serial start early

theorem Holds.start (start : ρ) : Holds cellType start ⟨start, [], []⟩ where
  value := rfl
  pending _ isIn := absurd isIn List.not_mem_nil

theorem Holds.extend {start : ρ} {cell : Cell ρ ω} (holds : Holds cellType start cell)
    (call : ω) : ∀ entry ∈ cell.pending, cellType.skips entry.1 entry.2 = false ∧
      ∃ early late, cell.finished ++ [call] = early ++ late ∧
        entry.2 = cellType.serial start early := by
  intro entry isIn
  obtain ⟨writes, early, late, split, base⟩ := holds.pending entry isIn
  exact ⟨writes, early, late ++ [call], by rw [split, List.append_assoc], base⟩

theorem Holds.step {start : ρ} {cell : Cell ρ ω} (holds : Holds cellType start cell)
    (input : Cell.Input ω) (agrees : cellType.Agrees cell input) :
    Holds cellType start (cellType.step cell input) := by
  cases input with
  | read call =>
    rw [ReadWrite.step]
    split_ifs with skips
    · refine ⟨?_, holds.extend call⟩
      rw [serial_append, ← holds.value, run, if_pos skips]
    refine ⟨holds.value, fun entry isIn => ?_⟩
    rcases List.mem_append.mp isIn with isIn | isNew
    · exact holds.pending entry isIn
    · obtain rfl := List.mem_singleton.mp isNew
      exact ⟨Bool.eq_false_iff.mpr skips, cell.finished, [], (List.append_nil _).symm,
        holds.value⟩
  | write place =>
    rw [ReadWrite.step]
    rcases found : cell.pending[place]? with _ | ⟨call, base⟩
    · exact holds
    · refine ⟨?_, fun entry isIn => holds.extend call entry (List.mem_of_mem_eraseIdx isIn)⟩
      rw [serial_append, ← holds.value]
      exact agrees call base found
  | abandon =>
    exact ⟨holds.value, fun entry isIn => holds.pending entry (List.mem_of_mem_eraseIdx isIn)⟩

end ReadWrite

end MessagingStack

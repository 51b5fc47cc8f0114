import MessagingStack.Base.OrderedMap
import Mathlib.Data.BitVec
import Mathlib.Data.Fintype.Card

/-!
# Transactions that abort

A transaction of the Move virtual machine returns or aborts, and an abort undoes everything: a
function of a contract is a function into `Move ε`, an `Except` whose errors are the contract's own
and the aborts of the machine.  Integers of width `w` are `BitVec w`.  Every operation has one lemma
that says when it returns and what; `bind_ok` takes a sequence apart.
-/

namespace MessagingStack

universe u v

/-- Why a transaction aborts. -/
inductive Abort (ε : Type u) where
  /-- A failed `assert!`, with its code. -/
  | code (error : ε)
  /-- An integer operation or a cast out of the range of its type. -/
  | arithmetic
  /-- `table::add` of a key that is present. -/
  | fieldAlreadyExists
  /-- `table::borrow` of a key that is absent. -/
  | fieldDoesNotExist
  /-- `balance::split` of more than the balance. -/
  | notEnough
  deriving DecidableEq

/-- A computation of a transaction. -/
abbrev Move (ε : Type u) (α : Type v) := Except (Abort ε) α

abbrev U32 := BitVec 32
abbrev U64 := BitVec 64
abbrev U128 := BitVec 128
/-- An account or object address: 32 bytes. -/
abbrev Address := BitVec 256

instance : LawfulBEq Address := inferInstance

namespace Move

variable {ε : Type u} {α β : Type v} {w : Nat}

instance [DecidableEq α] [DecidableEq ε] : DecidableEq (Move ε α)
  | .ok left, .ok right => decidable_of_iff (left = right) (by simp)
  | .error left, .error right => decidable_of_iff (left = right) (by simp)
  | .ok _, .error _ => .isFalse (by simp)
  | .error _, .ok _ => .isFalse (by simp)

/-! ### Sequencing -/

theorem bind_ok {first : Move ε α} {next : α → Move ε β} {result : β} :
    (first >>= next) = .ok result ↔ ∃ value, first = .ok value ∧ next value = .ok result := by
  cases first with
  | ok value =>
    refine ⟨fun returned => ⟨value, rfl, returned⟩, ?_⟩
    rintro ⟨_, ⟨⟩, returned⟩
    exact returned
  | error => exact ⟨nofun, by rintro ⟨_, ⟨⟩, _⟩⟩

theorem bind_error {first : Move ε α} {next : α → Move ε β} {reason : Abort ε} :
    (first >>= next) = .error reason ↔
      first = .error reason ∨ ∃ value, first = .ok value ∧ next value = .error reason := by
  cases first with
  | ok value =>
    constructor
    · exact fun failed => .inr ⟨value, rfl, failed⟩
    · rintro (⟨⟨⟩⟩ | ⟨_, ⟨⟩, failed⟩)
      exact failed
  | error =>
    constructor
    · exact fun failed => .inl (by cases failed; rfl)
    · rintro (⟨⟨⟩⟩ | ⟨_, ⟨⟩, _⟩)
      rfl

@[simp] theorem ok_bind (value : α) (next : α → Move ε β) :
    ((.ok value : Move ε α) >>= next) = next value := rfl

@[simp] theorem pure_ok {value result : α} :
    (pure value : Move ε α) = .ok result ↔ value = result := by
  constructor
  · rintro ⟨⟩
    rfl
  · rintro rfl
    rfl

@[simp] theorem pure_ne_error {value : α} {reason : Abort ε} :
    (pure value : Move ε α) ≠ .error reason := nofun

def assertThat (condition : Prop) [Decidable condition] (error : ε) : Move ε PUnit :=
  if condition then .ok ⟨⟩ else .error (.code error)

@[simp] theorem assertThat_ok {condition : Prop} [Decidable condition] {error : ε}
    {done : PUnit} : assertThat condition error = .ok done ↔ condition := by
  unfold assertThat
  split <;> simp_all

theorem assertThat_error {condition : Prop} [Decidable condition] {error : ε}
    {reason : Abort ε} :
    assertThat condition error = .error reason ↔ ¬condition ∧ .code error = reason := by
  unfold assertThat
  split <;> simp_all

/-- A call into another module, whose error codes are read as the caller's. -/
def within {ε' : Type u} (embed : ε → ε') (computation : Move ε α) : Move ε' α :=
  match computation with
  | .ok value => .ok value
  | .error (.code error) => .error (.code (embed error))
  | .error .arithmetic => .error .arithmetic
  | .error .fieldAlreadyExists => .error .fieldAlreadyExists
  | .error .fieldDoesNotExist => .error .fieldDoesNotExist
  | .error .notEnough => .error .notEnough

@[simp] theorem within_ok {ε' : Type u} {embed : ε → ε'} {computation : Move ε α} {value : α} :
    within embed computation = .ok value ↔ computation = .ok value := by
  rcases computation with (_ | _ | _ | _ | _) | result <;> simp [within]

/-! ### Integers -/

/-- The number as an integer of width `w`, or an abort. -/
def checked (w : Nat) (number : Nat) : Move ε (BitVec w) :=
  if fits : number < 2 ^ w then .ok (BitVec.ofNatLT number fits) else .error .arithmetic

@[simp] theorem checked_ok {number : Nat} {result : BitVec w} :
    (checked w number : Move ε _) = .ok result ↔ result.toNat = number := by
  unfold checked
  split
  · next fits =>
    constructor
    · rintro ⟨⟩
      simp
    · intro same
      have equal : BitVec.ofNatLT number fits = result := BitVec.eq_of_toNat_eq (by simp [same])
      rw [equal]
  next large =>
  constructor
  · nofun
  · intro same
    exact absurd (same ▸ result.isLt) large

def addU (left right : BitVec w) : Move ε (BitVec w) := checked w (left.toNat + right.toNat)

def subU (left right : BitVec w) : Move ε (BitVec w) :=
  if right.toNat ≤ left.toNat then checked w (left.toNat - right.toNat)
  else .error .arithmetic

def mulU (left right : BitVec w) : Move ε (BitVec w) := checked w (left.toNat * right.toNat)

def castU (w : Nat) {v : Nat} (value : BitVec v) : Move ε (BitVec w) := checked w value.toNat

theorem addU_ok {left right result : BitVec w} :
    (addU left right : Move ε _) = .ok result ↔ result.toNat = left.toNat + right.toNat :=
  checked_ok

theorem subU_ok {left right result : BitVec w} :
    (subU left right : Move ε _) = .ok result ↔ result.toNat + right.toNat = left.toNat := by
  unfold subU
  split
  · rw [checked_ok]
    omega
  · constructor
    · nofun
    · omega

theorem mulU_ok {left right result : BitVec w} :
    (mulU left right : Move ε _) = .ok result ↔ result.toNat = left.toNat * right.toNat :=
  checked_ok

theorem castU_ok {v : Nat} {value : BitVec v} {result : BitVec w} :
    (castU w value : Move ε _) = .ok result ↔ result.toNat = value.toNat := checked_ok

def split (balance amount : U64) : Move ε U64 :=
  if amount.toNat ≤ balance.toNat then .ok (balance - amount) else .error .notEnough

theorem split_ok {balance amount rest : U64} :
    (split balance amount : Move ε _) = .ok rest ↔ rest.toNat + amount.toNat = balance.toNat := by
  unfold split
  split
  · next fits =>
    have exact : (balance - amount).toNat = balance.toNat - amount.toNat :=
      BitVec.toNat_sub_of_le fits
    constructor
    · rintro ⟨⟩
      omega
    · intro sum
      have equal : balance - amount = rest := BitVec.eq_of_toNat_eq (by omega)
      rw [equal]
  · constructor
    · nofun
    · omega

theorem exists_fresh {γ : Type v} (key : BitVec w → γ) (injective : Function.Injective key)
    (used : List γ) (short : used.length < 2 ^ w) : ∃ value, key value ∉ used := by
  classical
  by_contra all
  push Not at all
  have inside : Finset.univ.image (fun value : Fin (2 ^ w) => key (BitVec.ofFin value)) ⊆
      used.toFinset := by
    intro image isImage
    obtain ⟨value, -, rfl⟩ := Finset.mem_image.mp isImage
    exact List.mem_toFinset.mpr (all _)
  have images : (Finset.univ.image
      (fun value : Fin (2 ^ w) => key (BitVec.ofFin value))).card = 2 ^ w := by
    rw [Finset.card_image_of_injective, Finset.card_univ, Fintype.card_fin]
    intro left right same
    exact BitVec.ofFin.inj (injective same)
  have bound := Finset.card_le_card inside
  have listed := List.toFinset_card_le used
  omega

/-! ### Aborts of the contract's own -/

/-- The computation aborts only where the contract says so: by an `assert!` of its own. -/
def Asserting (computation : Move ε α) : Prop :=
  ∀ reason, computation = .error reason → ∃ error, reason = .code error

theorem asserting_ok (value : α) : Asserting (.ok value : Move ε α) := nofun

theorem asserting_bind {first : Move ε α} {next : α → Move ε β}
    (asserting : Asserting first)
    (then_ : ∀ value, first = .ok value → Asserting (next value)) :
    Asserting (first >>= next) := by
  intro reason failed
  rcases bind_error.mp failed with failed | ⟨value, returned, failed⟩
  · exact asserting reason failed
  · exact then_ value returned reason failed

theorem asserting_assertThat (condition : Prop) [Decidable condition] (error : ε) :
    Asserting (assertThat condition error) := by
  intro reason failed
  obtain ⟨-, rfl⟩ := assertThat_error.mp failed
  exact ⟨error, rfl⟩

theorem asserting_of_ok {computation : Move ε α} {value : α}
    (returned : computation = .ok value) : Asserting computation := by
  rw [returned]
  exact asserting_ok value

end Move

/-! ### Tables -/

namespace Table

variable {ε : Type u} {κ : Type v} {α : Type v} [DecidableEq κ]

def contains (table : OrderedMap κ α) (key : κ) : Bool := (table.get key).isSome

def add (table : OrderedMap κ α) (key : κ) (value : α) : Move ε (OrderedMap κ α) :=
  if contains table key then .error .fieldAlreadyExists else .ok (table.insert key value)

def borrow (table : OrderedMap κ α) (key : κ) : Move ε α :=
  match table.get key with
  | some value => .ok value
  | none => .error .fieldDoesNotExist

def remove (table : OrderedMap κ α) (key : κ) : Move ε (OrderedMap κ α × α) :=
  match table.get key with
  | some value => .ok (table.erase key, value)
  | none => .error .fieldDoesNotExist

theorem contains_iff {table : OrderedMap κ α} {key : κ} :
    contains table key = true ↔ ∃ value, table.get key = some value := by
  rw [contains, Option.isSome_iff_exists]

@[simp] theorem add_ok {table result : OrderedMap κ α} {key : κ} {value : α} :
    (add table key value : Move ε _) = .ok result ↔
      table.get key = none ∧ table.insert key value = result := by
  unfold add contains
  cases table.get key <;> simp

@[simp] theorem borrow_ok {table : OrderedMap κ α} {key : κ} {value : α} :
    (borrow table key : Move ε _) = .ok value ↔ table.get key = some value := by
  unfold borrow
  cases table.get key <;> simp

theorem remove_of_get {table : OrderedMap κ α} {key : κ} {value : α}
    (found : table.get key = some value) :
    (remove table key : Move ε _) = .ok (table.erase key, value) := by
  rw [remove, found]

theorem add_of_get {table : OrderedMap κ α} {key : κ} (value : α)
    (missing : table.get key = none) :
    (add table key value : Move ε _) = .ok (table.insert key value) :=
  add_ok.mpr ⟨missing, rfl⟩

end Table

end MessagingStack

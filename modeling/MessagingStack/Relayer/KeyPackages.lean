import Mathlib.Data.List.Sort
import MessagingStack.Base.Runs
import MessagingStack.Relayer.Message

/-!
# Single-use KeyPackages

`put_key_packages`, `claim_key_packages` and `delete_device_key_packages` of
`services/mls_store.rs`.  In memory each call runs under a mutex.  Under Postgres a statement sees
the rows committed before it begins; a claim hands out a package twice, or misses a device, exactly
if its pick was claimed or deleted before the claim got to it (`key_packages_single_use_iff`).
-/

namespace MessagingStack.Relayer.KeyPackages

/-- A wallet and one of its devices. -/
abbrev Device := String × String

/-- What is stored of a KeyPackage for good. -/
structure KeyPackage where
  id : Nat
  wallet : String
  deviceId : String
  keyPackage : Bytes
  deriving DecidableEq

def KeyPackage.device (package : KeyPackage) : Device := (package.wallet, package.deviceId)

/-- An entry of the store in memory; a row of `mls_key_packages` without its time. -/
structure Entry extends KeyPackage where
  claimed : Bool
  deriving DecidableEq

structure Claim where
  returned : List KeyPackage
  /-- The requested devices that had an unclaimed package at every moment of the call. -/
  supplied : List Device
  deriving DecidableEq

def handedOut (claims : List Claim) : List Nat := claims.flatMap (·.returned.map (·.id))

/-- **What is promised of claims**: no package is handed out twice, each claim returns at most
one per device, and one for every requested device that had one throughout. -/
structure Good (claims : List Claim) : Prop where
  singleUse : (handedOut claims).Nodup
  onePerDevice : ∀ claim ∈ claims, (claim.returned.map (·.device)).Nodup
  served : ∀ claim ∈ claims, ∀ device ∈ claim.supplied, device ∈ claim.returned.map (·.device)

/-! ## In memory -/

namespace Memory

structure State where
  keyPackages : List Entry
  nextId : Nat
  claims : List Claim

inductive Input where
  | put (wallet deviceId : String) (packages : List Bytes)
  | claim (wallets : List String)
  | delete (wallet deviceId : String)

/-- The entries of packages that are put, with their numbers. -/
def entries (wallet deviceId : String) : Nat → List Bytes → List Entry
  | _, [] => []
  | id, keyPackage :: rest =>
    { id, wallet, deviceId, keyPackage, claimed := false } :: entries wallet deviceId (id + 1) rest

def claimLoop (wallets : List String) : List Device → List Entry → List Entry × List KeyPackage
  | _, [] => ([], [])
  | seen, entry :: rest =>
    if entry.claimed ∨ entry.wallet ∉ wallets ∨ entry.device ∈ seen then
      let (rest, out) := claimLoop wallets seen rest
      (entry :: rest, out)
    else
      let (rest, out) := claimLoop wallets (entry.device :: seen) rest
      ({ entry with claimed := true } :: rest, entry.toKeyPackage :: out)

/-- The requested devices with an unclaimed package. -/
def suppliedNow (keyPackages : List Entry) (wallets : List String) : List Device :=
  (keyPackages.filter fun entry => !entry.claimed && wallets.contains entry.wallet).map (·.device)

def step (state : State) : Input → State
  | .put wallet deviceId packages =>
    { state with
      keyPackages := state.keyPackages ++ entries wallet deviceId state.nextId packages
      nextId := state.nextId + packages.length }
  | .claim wallets =>
    let (keyPackages, out) := claimLoop wallets [] state.keyPackages
    { state with
      keyPackages
      claims := state.claims ++ [⟨out, suppliedNow state.keyPackages wallets⟩] }
  | .delete wallet deviceId =>
    { state with
      keyPackages := state.keyPackages.filter fun entry =>
        !(entry.wallet == wallet && entry.deviceId == deviceId && !entry.claimed) }

def start : State := ⟨[], 0, []⟩

def reached (inputs : List Input) : State := inputs.foldl step start

end Memory

/-! ## Postgres -/

/-- `MAX_KEY_PACKAGES_PER_DEVICE`. -/
def maxKeyPackagesPerDevice : Nat := 100

/-- A row of `mls_key_packages`. -/
structure Row extends Entry where
  createdAt : Timestamp
  deriving DecidableEq

inductive Call where
  /-- `put_key_packages` with what it has still to insert. -/
  | put (wallet deviceId : String) (rest : List Bytes)
  /-- Its last statement, which has selected what is over the limit. -/
  | trim (selected : List Nat)
  /-- `claim_key_packages` with its pick, and the devices that it must serve by now. -/
  | claim (pick : List KeyPackage) (supplied : List Device)
  /-- `delete_device_key_packages` with the rows that it saw. -/
  | delete (selected : List Nat)
  deriving DecidableEq

structure State where
  rows : List Row
  nextId : Nat
  calls : List Call
  claims : List Claim
  deriving DecidableEq

inductive Input where
  | put (wallet deviceId : String) (packages : List Bytes)
  | claim (wallets : List String)
  | delete (wallet deviceId : String)
  /-- A call goes on to its next statement, or commits the one that it is in. -/
  | proceed (place : Nat) (now : Timestamp)
  /-- A call fails; its statement is rolled back. -/
  | abandon (place : Nat)
  deriving DecidableEq

def unclaimed (rows : List Row) (device : Device) : List Row :=
  rows.filter fun row => !row.claimed && row.device == device

/-- The row that `row_number()` ranks first in its partition. -/
def oldest (rows : List Row) (device : Device) : Option Row :=
  ((unclaimed rows device).insertionSort fun left right => left.createdAt ≤ right.createdAt).head?

/-- The subselect of `claim_key_packages`. -/
def pick (rows : List Row) (wallets : List String) : List Row :=
  rows.filter fun row => wallets.contains row.wallet && oldest rows row.device == some row

/-- The subselect of the last statement of `put_key_packages`. -/
def overLimit (rows : List Row) (device : Device) : List Row :=
  ((unclaimed rows device).insertionSort fun left right => right.createdAt ≤ left.createdAt).drop
    maxKeyPackagesPerDevice

/-- The requested devices with an unclaimed package. -/
def suppliedNow (rows : List Row) (wallets : List String) : List Device :=
  (rows.filter fun row => !row.claimed && wallets.contains row.wallet).map (·.device)

def claimRows (picked : List KeyPackage) (rows : List Row) : List Row :=
  rows.map fun row => if row.id ∈ picked.map (·.id) then { row with claimed := true } else row

/-- `RETURNING`. -/
def returned (picked : List KeyPackage) (rows : List Row) : List KeyPackage :=
  (rows.filter fun row => row.id ∈ picked.map (·.id)).map (·.toKeyPackage)

/-- A claim in progress need no longer serve a device that has run out of packages. -/
def Call.observe (rows : List Row) : Call → Call
  | .claim picked supplied =>
    .claim picked (supplied.filter fun device => !(unclaimed rows device).isEmpty)
  | call => call

/-- A call without its last statement, or with another one. -/
def State.replaceCall (state : State) (place : Nat) (next : List Call) : List Call :=
  state.calls.take place ++ next ++ state.calls.drop (place + 1)

def State.proceed (state : State) (place : Nat) (now : Timestamp) : Call → State
  | .put wallet deviceId (keyPackage :: rest) =>
    { state with
      rows := state.rows ++
        [{ id := state.nextId, wallet, deviceId, keyPackage, claimed := false, createdAt := now }]
      nextId := state.nextId + 1
      calls := state.replaceCall place [.put wallet deviceId rest] }
  | .put wallet deviceId [] =>
    { state with
      calls := state.replaceCall place
        [.trim ((overLimit state.rows (wallet, deviceId)).map (·.id))] }
  | .trim selected =>
    { state with
      rows := state.rows.filter fun row => row.id ∉ selected
      calls := state.replaceCall place [] }
  | .claim picked supplied =>
    { state with
      rows := claimRows picked state.rows
      calls := state.replaceCall place []
      claims := state.claims ++ [⟨returned picked state.rows, supplied⟩] }
  | .delete selected =>
    { state with
      rows := state.rows.filter fun row => !(row.id ∈ selected && !row.claimed)
      calls := state.replaceCall place [] }

/-- What a call or a statement does, before the claims in progress are observed. -/
def State.act (state : State) : Input → State
  | .put wallet deviceId packages =>
    { state with calls := state.calls ++ [.put wallet deviceId packages] }
  | .claim wallets =>
    { state with
      calls := state.calls ++ [.claim ((pick state.rows wallets).map (·.toKeyPackage))
        (suppliedNow state.rows wallets)] }
  | .delete wallet deviceId =>
    { state with
      calls := state.calls ++ [.delete ((unclaimed state.rows (wallet, deviceId)).map (·.id))] }
  | .proceed place now =>
    match state.calls[place]? with
    | none => state
    | some call => state.proceed place now call
  | .abandon place => { state with calls := state.replaceCall place [] }

def step (state : State) (input : Input) : State :=
  let next := state.act input
  { next with calls := next.calls.map (·.observe next.rows) }

def start : State := ⟨[], 0, [], []⟩

def reached (inputs : List Input) : State := inputs.foldl step start

/-- A claim commits cleanly if each row of its pick is still unclaimed; or is gone, and its device
has been without a package in the meantime. -/
def Clean (state : State) : Input → Prop
  | .proceed place _ =>
    ∀ call ∈ state.calls[place]?,
      match call with
      | .claim picked supplied => ∀ package ∈ picked,
        match state.rows.find? (·.id == package.id) with
        | some row => row.claimed = false
        | none => package.device ∉ supplied
      | _ => True
  | _ => True

/-! ## The store in memory keeps the promise -/

theorem handedOut_append (claims : List Claim) (claim : Claim) :
    handedOut (claims ++ [claim]) = handedOut claims ++ claim.returned.map (·.id) := by
  simp [handedOut]

theorem Good.append {claims : List Claim} {claim : Claim} (good : Good claims)
    (ids : (claim.returned.map (·.id)).Nodup)
    (isNew : ∀ package ∈ claim.returned, package.id ∉ handedOut claims)
    (onePerDevice : (claim.returned.map (·.device)).Nodup)
    (served : ∀ device ∈ claim.supplied, device ∈ claim.returned.map (·.device)) :
    Good (claims ++ [claim]) where
  singleUse := by
    rw [handedOut_append]
    refine good.singleUse.append ids fun id isOld isReturned => ?_
    obtain ⟨package, isIn, rfl⟩ := List.mem_map.mp isReturned
    exact isNew package isIn isOld
  onePerDevice := by
    intro other isIn
    rcases List.mem_append.mp isIn with isIn | isIn
    · exact good.onePerDevice other isIn
    · exact List.mem_singleton.mp isIn ▸ onePerDevice
  served := by
    intro other isIn
    rcases List.mem_append.mp isIn with isIn | isIn
    · exact good.served other isIn
    · exact List.mem_singleton.mp isIn ▸ served

theorem good_nil : Good [] where
  singleUse := List.nodup_nil
  onePerDevice := fun _ isIn => absurd isIn List.not_mem_nil
  served := fun _ isIn => absurd isIn List.not_mem_nil

namespace Memory

/-- What the loop leaves and hands out, from entries with distinct ids. -/
structure Loop (wallets : List String) (seen : List Device) (entries rest : List Entry)
    (out : List KeyPackage) : Prop where
  same : rest.map (·.toKeyPackage) = entries.map (·.toKeyPackage)
  sublist : out.Sublist (entries.map (·.toKeyPackage))
  wasUnclaimed : ∀ package ∈ out,
    ∃ entry ∈ entries, entry.claimed = false ∧ entry.toKeyPackage = package
  devices : (out.map (·.device)).Nodup
  unseen : ∀ package ∈ out, package.device ∉ seen
  left : ∀ entry ∈ rest, entry.claimed = false → entry ∈ entries ∧ entry.id ∉ out.map (·.id)
  served : ∀ entry ∈ entries, entry.claimed = false → entry.wallet ∈ wallets →
    entry.device ∈ seen ∨ entry.device ∈ out.map (·.device)

theorem claimLoop_spec (wallets : List String) (seen : List Device) (entries : List Entry)
    (ids : (entries.map (·.id)).Nodup) :
    Loop wallets seen entries (claimLoop wallets seen entries).1
      (claimLoop wallets seen entries).2 := by
  induction entries generalizing seen with
  | nil =>
    exact ⟨rfl, .refl _, fun _ isIn => absurd isIn List.not_mem_nil, List.nodup_nil,
      fun _ isIn => absurd isIn List.not_mem_nil, fun _ isIn => absurd isIn List.not_mem_nil,
      fun _ isIn => absurd isIn List.not_mem_nil⟩
  | cons entry rest ih =>
    rw [List.map_cons, List.nodup_cons] at ids
    obtain ⟨isOther, idsRest⟩ := ids
    rw [claimLoop]
    by_cases skips : entry.claimed ∨ entry.wallet ∉ wallets ∨ entry.device ∈ seen
    · have loop := ih seen idsRest
      rw [if_pos skips]
      refine ⟨?_, loop.sublist.cons _, ?_, loop.devices, loop.unseen, ?_, ?_⟩
      · rw [List.map_cons, List.map_cons, loop.same]
      · intro package isOut
        obtain ⟨other, isIn, isUnclaimed, isPackage⟩ := loop.wasUnclaimed package isOut
        exact ⟨other, List.mem_cons_of_mem _ isIn, isUnclaimed, isPackage⟩
      · intro other isIn isUnclaimed
        rcases List.mem_cons.mp isIn with rfl | isIn
        · refine ⟨List.mem_cons_self, fun isOut => isOther ?_⟩
          obtain ⟨package, isPackage, isId⟩ := List.mem_map.mp isOut
          obtain ⟨source, isSource, rfl⟩ := List.mem_map.mp (loop.sublist.subset isPackage)
          exact List.mem_map.mpr ⟨source, isSource, isId⟩
        · obtain ⟨isRest, isKept⟩ := loop.left other isIn isUnclaimed
          exact ⟨List.mem_cons_of_mem _ isRest, isKept⟩
      intro other isIn isUnclaimed isRequested
      rcases List.mem_cons.mp isIn with rfl | isIn
      · rcases skips with isClaimed | notRequested | isSeen
        · cases isUnclaimed ▸ isClaimed
        · exact absurd isRequested notRequested
        · exact .inl isSeen
      · exact loop.served other isIn isUnclaimed isRequested
    have loop := ih (entry.device :: seen) idsRest
    rw [if_neg skips]
    simp only [not_or, Bool.not_eq_true, not_not] at skips
    obtain ⟨isUnclaimed, isRequested, isUnseen⟩ := skips
    refine ⟨?_, loop.sublist.cons_cons _, ?_, ?_, ?_, ?_, ?_⟩
    · rw [List.map_cons, List.map_cons, loop.same]
    · intro package isOut
      rcases List.mem_cons.mp isOut with rfl | isOut
      · exact ⟨entry, List.mem_cons_self, isUnclaimed, rfl⟩
      · obtain ⟨other, isIn, isUnclaimed, isPackage⟩ := loop.wasUnclaimed package isOut
        exact ⟨other, List.mem_cons_of_mem _ isIn, isUnclaimed, isPackage⟩
    · rw [List.map_cons, List.nodup_cons]
      refine ⟨fun isOut => ?_, loop.devices⟩
      obtain ⟨package, isPackage, isDevice⟩ := List.mem_map.mp isOut
      exact loop.unseen package isPackage (isDevice ▸ List.mem_cons_self)
    · intro package isOut
      rcases List.mem_cons.mp isOut with rfl | isOut
      · exact isUnseen
      · exact fun isSeen => loop.unseen package isOut (List.mem_cons_of_mem _ isSeen)
    · intro other isIn stays
      rcases List.mem_cons.mp isIn with rfl | isIn
      · cases stays
      obtain ⟨isRest, isKept⟩ := loop.left other isIn stays
      refine ⟨List.mem_cons_of_mem _ isRest, fun isOut => ?_⟩
      rcases List.mem_cons.mp isOut with isHead | isOut
      · exact isOther (List.mem_map.mpr ⟨other, isRest, isHead⟩)
      · exact isKept isOut
    intro other isIn isUnclaimed isRequested
    rcases List.mem_cons.mp isIn with rfl | isIn
    · exact .inr (List.mem_map.mpr ⟨_, List.mem_cons_self, rfl⟩)
    rcases loop.served other isIn isUnclaimed isRequested with isSeen | isOut
    · rcases List.mem_cons.mp isSeen with isHead | isSeen
      · exact .inr (List.mem_map.mpr ⟨_, List.mem_cons_self, isHead.symm⟩)
      · exact .inl isSeen
    · exact .inr (List.mem_cons_of_mem _ isOut)

/-- **The invariant of the store in memory.** -/
structure Inv (state : State) : Prop where
  ids : (state.keyPackages.map (·.id)).Nodup
  numbered : ∀ entry ∈ state.keyPackages, entry.id < state.nextId
  handed : ∀ id ∈ handedOut state.claims, id < state.nextId
  unused : ∀ entry ∈ state.keyPackages, entry.claimed = false → entry.id ∉ handedOut state.claims
  good : Good state.claims

theorem mem_entries {wallet deviceId : String} {first : Nat} {packages : List Bytes}
    {entry : Entry} (isIn : entry ∈ entries wallet deviceId first packages) :
    first ≤ entry.id ∧ entry.id < first + packages.length := by
  induction packages generalizing first with
  | nil => exact absurd isIn List.not_mem_nil
  | cons keyPackage rest ih =>
    rcases List.mem_cons.mp isIn with rfl | isIn
    · exact ⟨le_rfl, by simp⟩
    · obtain ⟨lower, upper⟩ := ih isIn
      rw [List.length_cons]
      exact ⟨by omega, by omega⟩

theorem nodup_entries (wallet deviceId : String) (first : Nat) (packages : List Bytes) :
    ((entries wallet deviceId first packages).map (·.id)).Nodup := by
  induction packages generalizing first with
  | nil => exact List.nodup_nil
  | cons keyPackage rest ih =>
    rw [entries, List.map_cons, List.nodup_cons]
    refine ⟨fun isIn => ?_, ih _⟩
    obtain ⟨entry, isEntry, isId⟩ := List.mem_map.mp isIn
    have lower := (mem_entries isEntry).1
    simp only at isId
    omega

theorem inv_step (state : State) (input : Input) (inv : Inv state) : Inv (step state input) := by
  cases input with
  | put wallet deviceId packages =>
    refine ⟨?_, ?_, ?_, ?_, inv.good⟩
    · show ((state.keyPackages ++ entries wallet deviceId state.nextId packages).map (·.id)).Nodup
      rw [List.map_append]
      refine inv.ids.append (nodup_entries ..) fun id isOld isNew => ?_
      obtain ⟨entry, isEntry, rfl⟩ := List.mem_map.mp isOld
      obtain ⟨added, isAdded, isId⟩ := List.mem_map.mp isNew
      have below := inv.numbered entry isEntry
      have lower := (mem_entries isAdded).1
      omega
    · intro entry isIn
      show entry.id < state.nextId + packages.length
      rcases List.mem_append.mp isIn with isIn | isIn
      · have := inv.numbered entry isIn
        omega
      · exact (mem_entries isIn).2
    · intro id isHanded
      exact Nat.lt_add_right _ (inv.handed id isHanded)
    intro entry isIn isUnclaimed isHanded
    rcases List.mem_append.mp isIn with isIn | isIn
    · exact inv.unused entry isIn isUnclaimed isHanded
    · exact absurd (inv.handed _ isHanded) (not_lt.mpr (mem_entries isIn).1)
  | claim wallets =>
    have loop := claimLoop_spec wallets [] state.keyPackages inv.ids
    have sameIds : ((claimLoop wallets [] state.keyPackages).1.map (·.id)) =
        state.keyPackages.map (·.id) := by
      have same := congrArg (List.map KeyPackage.id) loop.same
      rw [List.map_map, List.map_map] at same
      exact same
    have fromRow : ∀ package ∈ (claimLoop wallets [] state.keyPackages).2,
        package.id < state.nextId ∧ package.id ∉ handedOut state.claims := by
      intro package isOut
      obtain ⟨entry, isIn, isUnclaimed, rfl⟩ := loop.wasUnclaimed package isOut
      exact ⟨inv.numbered entry isIn, inv.unused entry isIn isUnclaimed⟩
    refine ⟨?_, ?_, ?_, ?_, ?_⟩
    · exact sameIds ▸ inv.ids
    · intro entry isIn
      have isId : entry.id ∈ state.keyPackages.map (·.id) :=
        sameIds ▸ List.mem_map.mpr ⟨entry, isIn, rfl⟩
      obtain ⟨before, isBefore, isSame⟩ := List.mem_map.mp isId
      exact isSame ▸ inv.numbered before isBefore
    · intro id isHanded
      simp only [step, handedOut_append] at isHanded
      rcases List.mem_append.mp isHanded with isOld | isNew
      · exact inv.handed id isOld
      · obtain ⟨package, isOut, rfl⟩ := List.mem_map.mp isNew
        exact (fromRow package isOut).1
    · intro entry isIn isUnclaimed isHanded
      obtain ⟨isBefore, isKept⟩ := loop.left entry isIn isUnclaimed
      simp only [step, handedOut_append] at isHanded
      rcases List.mem_append.mp isHanded with isOld | isNew
      · exact inv.unused entry isBefore isUnclaimed isOld
      · exact isKept isNew
    refine inv.good.append ?_ (fun package isOut => (fromRow package isOut).2) loop.devices ?_
    · have ids : ((state.keyPackages.map (·.toKeyPackage)).map (·.id)).Nodup := by
        rw [List.map_map]
        exact inv.ids
      exact ids.sublist (loop.sublist.map _)
    intro device isSupplied
    obtain ⟨entry, isEntry, rfl⟩ := List.mem_map.mp isSupplied
    obtain ⟨isIn, isOpen⟩ := List.mem_filter.mp isEntry
    simp only [Bool.and_eq_true, Bool.not_eq_true', List.contains_iff_mem] at isOpen
    rcases loop.served entry isIn isOpen.1 isOpen.2 with isSeen | isOut
    · exact absurd isSeen List.not_mem_nil
    · exact isOut
  | delete wallet deviceId =>
    have sublist : ((step state (.delete wallet deviceId)).keyPackages).Sublist
        state.keyPackages := List.filter_sublist
    refine ⟨inv.ids.sublist (sublist.map _), ?_, inv.handed, ?_, inv.good⟩
    · exact fun entry isIn => inv.numbered entry (sublist.subset isIn)
    · exact fun entry isIn => inv.unused entry (sublist.subset isIn)

theorem inv_reached (inputs : List Input) : Inv (reached inputs) := by
  refine Along.invariant_reached inv_step ?_ inputs
  exact ⟨List.nodup_nil, fun _ isIn => absurd isIn List.not_mem_nil,
    fun _ isIn => absurd isIn List.not_mem_nil, fun _ isIn => absurd isIn List.not_mem_nil,
    good_nil⟩

end Memory

/-! ## What every run of the Postgres store keeps -/

/-- What is known of a claim in progress: its pick has one package per device, the rows that are
left of it are what they were, and every device that it must serve has a package in it. -/
structure Picked (rows : List Row) (nextId : Nat) (picked : List KeyPackage)
    (supplied : List Device) : Prop where
  devices : (picked.map (·.device)).Nodup
  numbered : ∀ package ∈ picked, package.id < nextId
  same : ∀ package ∈ picked, ∀ row ∈ rows, row.id = package.id → row.toKeyPackage = package
  served : ∀ device ∈ supplied, device ∈ picked.map (·.device)

def Call.Valid (rows : List Row) (nextId : Nat) : Call → Prop
  | .claim picked supplied => Picked rows nextId picked supplied
  | _ => True

/-- **The invariant of the Postgres store**: the claimed rows are those that were handed out. -/
structure Inv (state : State) : Prop where
  ids : (state.rows.map (·.id)).Nodup
  numbered : ∀ row ∈ state.rows, row.id < state.nextId
  handed : ∀ id ∈ handedOut state.claims, id < state.nextId
  used : ∀ row ∈ state.rows, row.claimed = true ↔ row.id ∈ handedOut state.claims
  onePerDevice : ∀ claim ∈ state.claims, (claim.returned.map (·.device)).Nodup
  calls : ∀ call ∈ state.calls, call.Valid state.rows state.nextId

/-- The rows after a statement: those that were there, claimed or not, and new ones. -/
def Descends (rows : List Row) (nextId : Nat) (after : List Row) : Prop :=
  ∀ row ∈ after, (∃ before ∈ rows, before.toKeyPackage = row.toKeyPackage) ∨ nextId ≤ row.id

variable {rows : List Row} {nextId : Nat} {call : Call}

theorem descends_sublist {after : List Row} (sublist : after.Sublist rows) :
    Descends rows nextId after :=
  fun row isIn => .inl ⟨row, sublist.subset isIn, rfl⟩

theorem Call.Valid.descend {after : List Row} {nextId' : Nat} (valid : call.Valid rows nextId)
    (descends : Descends rows nextId after) (more : nextId ≤ nextId') :
    call.Valid after nextId' := by
  cases call with
  | claim =>
    refine ⟨valid.devices, fun package isIn => (valid.numbered package isIn).trans_le more, ?_,
      valid.served⟩
    intro package isPicked row isRow isId
    have below := valid.numbered package isPicked
    rcases descends row isRow with ⟨before, isBefore, isSame⟩ | isNew
    · rw [← isSame]
      exact valid.same package isPicked before isBefore ((congrArg _ isSame).trans isId)
    · omega
  | _ => trivial

theorem Call.Valid.observe {seen : List Row} (valid : call.Valid rows nextId) :
    (call.observe seen).Valid rows nextId := by
  cases call with
  | claim =>
    exact ⟨valid.devices, valid.numbered, valid.same,
      fun device isIn => valid.served device (List.mem_of_mem_filter isIn)⟩
  | _ => trivial

theorem mem_replaceCall {state : State} {place : Nat} {next : List Call}
    (isIn : call ∈ state.replaceCall place next) : call ∈ state.calls ∨ call ∈ next := by
  rcases List.mem_append.mp isIn with isIn | isIn
  · rcases List.mem_append.mp isIn with isIn | isIn
    · exact .inl (List.mem_of_mem_take isIn)
    · exact .inr isIn
  · exact .inl (List.mem_of_mem_drop isIn)

theorem oldest_some {device : Device} {row : Row} (isOldest : oldest rows device = some row) :
    row ∈ rows ∧ row.claimed = false ∧ row.device = device := by
  have isIn : row ∈ unclaimed rows device :=
    (List.mem_insertionSort _).mp (List.mem_of_head? isOldest)
  obtain ⟨isRow, isOpen⟩ := List.mem_filter.mp isIn
  simp only [Bool.and_eq_true, Bool.not_eq_true', beq_iff_eq] at isOpen
  exact ⟨isRow, isOpen⟩

theorem mem_pick {wallets : List String} {row : Row} :
    row ∈ pick rows wallets ↔
      row ∈ rows ∧ row.wallet ∈ wallets ∧ oldest rows row.device = some row := by
  simp [pick]

theorem pick_valid (ids : (rows.map (·.id)).Nodup) (numbered : ∀ row ∈ rows, row.id < nextId)
    (wallets : List String) :
    Picked rows nextId ((pick rows wallets).map (·.toKeyPackage)) (suppliedNow rows wallets) := by
  have distinct : ∀ row ∈ rows, ∀ other ∈ rows, row.id = other.id → row = other :=
    fun row isRow other isOther => List.inj_on_of_nodup_map ids isRow isOther
  refine ⟨?_, ?_, ?_, ?_⟩
  · rw [List.map_map]
    refine List.Nodup.map_on ?_ ((List.Nodup.of_map _ ids).filter _)
    intro row isRow other isOther isDevice
    have isFirst := (mem_pick.mp isRow).2.2
    have isFirst' := (mem_pick.mp isOther).2.2
    have sameDevice : row.device = other.device := isDevice
    rw [sameDevice, isFirst'] at isFirst
    exact (Option.some.inj isFirst).symm
  · intro package isPicked
    obtain ⟨row, isRow, rfl⟩ := List.mem_map.mp isPicked
    exact numbered row (mem_pick.mp isRow).1
  · intro package isPicked row isRow isId
    obtain ⟨picked, isPick, rfl⟩ := List.mem_map.mp isPicked
    rw [distinct row isRow picked (mem_pick.mp isPick).1 isId]
  intro device isSupplied
  obtain ⟨row, isRow, rfl⟩ := List.mem_map.mp isSupplied
  obtain ⟨isIn, isOpen⟩ := List.mem_filter.mp isRow
  simp only [Bool.and_eq_true, Bool.not_eq_true', List.contains_iff_mem] at isOpen
  have isUnclaimed : row ∈ unclaimed rows row.device := by simp [unclaimed, isIn, isOpen.1]
  cases isOldest : oldest rows row.device with
  | none =>
    have isSorted := (List.mem_insertionSort
      fun left right : Row => left.createdAt ≤ right.createdAt).mpr isUnclaimed
    rw [List.head?_eq_none_iff.mp isOldest] at isSorted
    exact absurd isSorted List.not_mem_nil
  | some first =>
    obtain ⟨isFirst, -, isDevice⟩ := oldest_some isOldest
    have isWallet : first.wallet = row.wallet := congrArg Prod.fst isDevice
    have isPick : first ∈ pick rows wallets :=
      mem_pick.mpr ⟨isFirst, isWallet ▸ isOpen.2, isDevice ▸ isOldest⟩
    rw [List.map_map]
    exact List.mem_map.mpr ⟨first, isPick, isDevice⟩

section Invariant

variable {state : State}

theorem Inv.withCalls (inv : Inv state) {calls : List Call}
    (valid : ∀ call ∈ calls, call ∈ state.calls ∨ call.Valid state.rows state.nextId) :
    Inv { state with calls } := by
  refine ⟨inv.ids, inv.numbered, inv.handed, inv.used, inv.onePerDevice, ?_⟩
  intro call isIn
  rcases valid call isIn with isOld | isValid
  · exact inv.calls call isOld
  · exact isValid

variable {rows : List Row} {picked : List KeyPackage}

theorem Inv.deleteRows (inv : Inv state) (sublist : rows.Sublist state.rows) (place : Nat) :
    Inv { state with rows, calls := state.replaceCall place [] } := by
  refine ⟨inv.ids.sublist (sublist.map _), fun row isIn => inv.numbered row (sublist.subset isIn),
    inv.handed, fun row isIn => inv.used row (sublist.subset isIn), inv.onePerDevice, ?_⟩
  intro call isIn
  rcases mem_replaceCall isIn with isOld | isNew
  · exact (inv.calls call isOld).descend (descends_sublist sublist) le_rfl
  · exact absurd isNew List.not_mem_nil

variable {row : Row} {supplied : List Device} {input : Input}

theorem Inv.insertRow (inv : Inv state) (isNext : row.id = state.nextId)
    (isUnclaimed : row.claimed = false) (place : Nat) {call : Call}
    (trivially : ∀ rows nextId, call.Valid rows nextId) :
    Inv { state with
      rows := state.rows ++ [row]
      nextId := state.nextId + 1
      calls := state.replaceCall place [call] } := by
  have isNew : state.nextId ∉ handedOut state.claims :=
    fun isHanded => absurd (inv.handed _ isHanded) (lt_irrefl _)
  refine ⟨?_, ?_, fun id isHanded => Nat.lt_succ_of_lt (inv.handed id isHanded), ?_,
    inv.onePerDevice, ?_⟩
  · rw [List.map_append]
    refine inv.ids.append (List.nodup_singleton _) fun id isOld isAdded => ?_
    obtain ⟨old, isRow, rfl⟩ := List.mem_map.mp isOld
    have below := inv.numbered old isRow
    rw [List.map_singleton, List.mem_singleton, isNext] at isAdded
    omega
  · intro other isIn
    rcases List.mem_append.mp isIn with isOld | isAdded
    · exact Nat.lt_succ_of_lt (inv.numbered other isOld)
    · rw [List.mem_singleton.mp isAdded, isNext]
      exact Nat.lt_succ_self _
  · intro other isIn
    rcases List.mem_append.mp isIn with isOld | isAdded
    · exact inv.used other isOld
    · rw [List.mem_singleton.mp isAdded, isUnclaimed, isNext]
      exact ⟨nofun, fun isHanded => absurd isHanded isNew⟩
  have descends : Descends state.rows state.nextId (state.rows ++ [row]) := by
    intro other isIn
    rcases List.mem_append.mp isIn with isOld | isAdded
    · exact .inl ⟨other, isOld, rfl⟩
    · exact .inr (List.mem_singleton.mp isAdded ▸ isNext.ge)
  intro other isIn
  rcases mem_replaceCall isIn with isOld | isPut
  · exact (inv.calls other isOld).descend descends (Nat.le_succ _)
  · rw [List.mem_singleton.mp isPut]
    exact trivially _ _

theorem toKeyPackage_claimRows (picked : List KeyPackage) (rows : List Row) :
    (claimRows picked rows).map (·.toKeyPackage) = rows.map (·.toKeyPackage) := by
  rw [claimRows, List.map_map]
  refine List.map_congr_left fun row _ => ?_
  simp only [Function.comp_apply]
  split <;> rfl

theorem mem_claimRows (isIn : row ∈ claimRows picked rows) :
    ∃ before ∈ rows, before.toKeyPackage = row.toKeyPackage ∧
      (row.claimed = true ↔ before.claimed = true ∨ row.id ∈ picked.map (·.id)) := by
  obtain ⟨before, isBefore, rfl⟩ := List.mem_map.mp isIn
  refine ⟨before, isBefore, ?_⟩
  split
  · rename_i isPicked
    exact ⟨rfl, by simp only [true_iff]; exact .inr isPicked⟩
  · rename_i isOther
    exact ⟨rfl, by simp only [isOther, or_false]⟩

theorem mem_returned {package : KeyPackage} :
    package ∈ returned picked rows ↔
      ∃ row ∈ rows, row.id ∈ picked.map (·.id) ∧ row.toKeyPackage = package := by
  simp [returned, and_assoc]

theorem Picked.returned {nextId : Nat} (valid : Picked rows nextId picked supplied)
    (ids : (rows.map (·.id)).Nodup) :
    (∀ package ∈ returned picked rows, package ∈ picked) ∧
    ((returned picked rows).map (·.id)).Nodup ∧
    ((returned picked rows).map (·.device)).Nodup := by
  have isPick : ∀ row ∈ rows, row.id ∈ picked.map (·.id) → row.toKeyPackage ∈ picked := by
    intro row isRow isPicked
    obtain ⟨package, isIn, isId⟩ := List.mem_map.mp isPicked
    rw [valid.same package isIn row isRow isId.symm]
    exact isIn
  refine ⟨?_, ?_, ?_⟩
  · intro package isIn
    obtain ⟨row, isRow, isPicked, rfl⟩ := mem_returned.mp isIn
    exact isPick row isRow isPicked
  · rw [KeyPackages.returned, List.map_map]
    exact ids.sublist (List.filter_sublist.map _)
  rw [KeyPackages.returned, List.map_map]
  refine List.Nodup.map_on ?_ ((List.Nodup.of_map _ ids).filter _)
  intro row isIn other isIn' isDevice
  obtain ⟨isRow, isPicked⟩ := List.mem_filter.mp isIn
  obtain ⟨isRow', isPicked'⟩ := List.mem_filter.mp isIn'
  have first := isPick row isRow (of_decide_eq_true isPicked)
  have second := isPick other isRow' (of_decide_eq_true isPicked')
  have samePackage := List.inj_on_of_nodup_map valid.devices first second isDevice
  exact List.inj_on_of_nodup_map ids isRow isRow' (congrArg KeyPackage.id samePackage)

theorem Inv.commitClaim (inv : Inv state) (valid : Picked state.rows state.nextId picked supplied)
    (place : Nat) :
    Inv { state with
      rows := claimRows picked state.rows
      calls := state.replaceCall place []
      claims := state.claims ++ [⟨returned picked state.rows, supplied⟩] } := by
  have sameIds : (claimRows picked state.rows).map (·.id) = state.rows.map (·.id) := by
    have same := congrArg (List.map KeyPackage.id) (toKeyPackage_claimRows picked state.rows)
    rw [List.map_map, List.map_map] at same
    exact same
  obtain ⟨isPick, -, devices⟩ := valid.returned inv.ids
  refine ⟨sameIds ▸ inv.ids, ?_, ?_, ?_, ?_, ?_⟩
  · intro row isIn
    obtain ⟨before, isBefore, isSame, -⟩ := mem_claimRows isIn
    exact congrArg KeyPackage.id isSame ▸ inv.numbered before isBefore
  · intro id isHanded
    rw [handedOut_append] at isHanded
    rcases List.mem_append.mp isHanded with isOld | isNew
    · exact inv.handed id isOld
    · obtain ⟨package, isReturned, rfl⟩ := List.mem_map.mp isNew
      exact valid.numbered package (isPick package isReturned)
  · intro row isIn
    obtain ⟨before, isBefore, isSame, isClaimed⟩ := mem_claimRows isIn
    have sameId : before.id = row.id := congrArg KeyPackage.id isSame
    rw [isClaimed, inv.used before isBefore, sameId, handedOut_append, List.mem_append]
    refine or_congr_right ⟨fun isPicked => ?_, fun isReturned => ?_⟩
    · exact List.mem_map.mpr ⟨row.toKeyPackage,
        mem_returned.mpr ⟨before, isBefore, sameId ▸ isPicked, isSame⟩, rfl⟩
    · obtain ⟨package, isIn, isId⟩ := List.mem_map.mp isReturned
      exact List.mem_map.mpr ⟨package, isPick package isIn, isId⟩
  · intro claim isIn
    rcases List.mem_append.mp isIn with isOld | isNew
    · exact inv.onePerDevice claim isOld
    · exact List.mem_singleton.mp isNew ▸ devices
  have descends : Descends state.rows state.nextId (claimRows picked state.rows) := by
    intro row isIn
    obtain ⟨before, isBefore, isSame, -⟩ := mem_claimRows isIn
    exact .inl ⟨before, isBefore, isSame⟩
  intro call isIn
  rcases mem_replaceCall isIn with isOld | isNew
  · exact (inv.calls call isOld).descend descends le_rfl
  · exact absurd isNew List.not_mem_nil

theorem Inv.act (inv : Inv state) (input : Input) : Inv (state.act input) := by
  cases input with
  | put | delete =>
    refine inv.withCalls fun call isIn => ?_
    rcases List.mem_append.mp isIn with isOld | isNew
    · exact .inl isOld
    · exact .inr (List.mem_singleton.mp isNew ▸ trivial)
  | claim wallets =>
    refine inv.withCalls fun call isIn => ?_
    rcases List.mem_append.mp isIn with isOld | isNew
    · exact .inl isOld
    · exact .inr (List.mem_singleton.mp isNew ▸ pick_valid inv.ids inv.numbered wallets)
  | abandon =>
    refine inv.withCalls fun call isIn => ?_
    rcases mem_replaceCall isIn with isOld | isNew
    · exact .inl isOld
    · exact absurd isNew List.not_mem_nil
  | proceed place =>
    cases found : state.calls[place]? with
    | none =>
      simp only [State.act, found]
      exact inv
    | some call =>
      have valid := inv.calls call (List.mem_of_getElem? found)
      simp only [State.act, found]
      cases call with
      | put wallet deviceId rest =>
        cases rest with
        | cons => exact inv.insertRow rfl rfl place fun _ _ => trivial
        | nil =>
          refine inv.withCalls fun call isIn => ?_
          rcases mem_replaceCall isIn with isOld | isNew
          · exact .inl isOld
          · exact .inr (List.mem_singleton.mp isNew ▸ trivial)
      | trim | delete => exact inv.deleteRows List.filter_sublist place
      | claim => exact inv.commitClaim valid place

theorem inv_step (state : State) (input : Input) (inv : Inv state) : Inv (step state input) := by
  refine (inv.act input).withCalls fun call isIn => .inr ?_
  obtain ⟨before, isBefore, rfl⟩ := List.mem_map.mp isIn
  exact ((inv.act input).calls before isBefore).observe

theorem inv_reached (inputs : List Input) : Inv (reached inputs) := by
  refine Along.invariant_reached inv_step ?_ inputs
  exact ⟨List.nodup_nil, fun _ isIn => absurd isIn List.not_mem_nil,
    fun _ isIn => absurd isIn List.not_mem_nil, fun _ isIn => absurd isIn List.not_mem_nil,
    fun _ isIn => absurd isIn List.not_mem_nil, fun _ isIn => absurd isIn List.not_mem_nil⟩

/-! ## When the promise is kept -/

theorem claims_cases (state : State) (input : Input) :
    (step state input).claims = state.claims ∧ Clean state input ∨
    ∃ place now picked supplied, input = .proceed place now ∧
      state.calls[place]? = some (.claim picked supplied) ∧
      (step state input).claims = state.claims ++ [⟨returned picked state.rows, supplied⟩] := by
  cases input with
  | proceed place now =>
    cases found : state.calls[place]? with
    | none =>
      refine .inl ⟨by simp only [step, State.act, found], ?_⟩
      intro call isCall
      cases found ▸ isCall
    | some call =>
      cases call with
      | claim picked supplied =>
        exact .inr ⟨place, now, picked, supplied, rfl, found,
          by simp only [step, State.act, found, State.proceed]⟩
      | put wallet deviceId rest =>
        refine .inl ⟨?_, ?_⟩
        · simp only [step, State.act, found]
          cases rest <;> rfl
        · intro call isCall
          cases found ▸ isCall
          trivial
      | trim selected | delete selected =>
        refine .inl ⟨by simp only [step, State.act, found, State.proceed], ?_⟩
        intro call isCall
        cases found ▸ isCall
        trivial
  | _ => exact .inl ⟨rfl, trivial⟩

/-- A clean commit hands out packages that are new, and one for each device of its pick that it
must serve. -/
theorem good_step (inv : Inv state) (good : Good state.claims) (clean : Clean state input) :
    Good (step state input).claims := by
  rcases claims_cases state input with
    ⟨same, -⟩ | ⟨place, now, picked, supplied, rfl, found, isNext⟩
  · exact same ▸ good
  rw [isNext]
  have valid : Picked state.rows state.nextId picked supplied :=
    inv.calls _ (List.mem_of_getElem? found)
  have rest : ∀ package ∈ picked, match state.rows.find? (·.id == package.id) with
      | some row => row.claimed = false
      | none => package.device ∉ supplied := clean _ found
  obtain ⟨isPick, ids, devices⟩ := valid.returned inv.ids
  refine good.append ids ?_ devices ?_
  · intro package isReturned isOld
    obtain ⟨row, isRow, -, rfl⟩ := mem_returned.mp isReturned
    have unclaimed := rest _ (isPick _ isReturned)
    cases isFound : state.rows.find? (·.id == row.id) with
    | none =>
      have missing := List.find?_eq_none.mp isFound row isRow
      simp at missing
    | some other =>
      simp only [isFound] at unclaimed
      have sameId : other.id = row.id := by simpa using List.find?_some isFound
      have isOther := List.mem_of_find?_eq_some isFound
      have isClaimed := (inv.used other isOther).mpr (sameId ▸ isOld)
      cases unclaimed ▸ isClaimed
  intro device isSupplied
  obtain ⟨package, isPicked, rfl⟩ := List.mem_map.mp (valid.served device isSupplied)
  have left := rest package isPicked
  cases isFound : state.rows.find? (·.id == package.id) with
  | none =>
    simp only [isFound] at left
    exact absurd isSupplied left
  | some row =>
    have sameId : row.id = package.id := by simpa using List.find?_some isFound
    have isRow := List.mem_of_find?_eq_some isFound
    have isSame := valid.same package isPicked row isRow sameId
    have isIn : row.id ∈ picked.map (·.id) := sameId ▸ List.mem_map.mpr ⟨package, isPicked, rfl⟩
    exact List.mem_map.mpr ⟨package, mem_returned.mpr ⟨row, isRow, isIn, isSame⟩, rfl⟩

/-- A commit that is not clean hands out a package again, or nothing for a device that had one
throughout. -/
theorem fails_of_unclean (inv : Inv state) (unclean : ¬Clean state input) :
    ¬Good (step state input).claims := by
  rcases claims_cases state input with
    ⟨-, clean⟩ | ⟨place, now, picked, supplied, rfl, found, isNext⟩
  · exact absurd clean unclean
  rw [isNext]
  intro good
  have valid : Picked state.rows state.nextId picked supplied :=
    inv.calls _ (List.mem_of_getElem? found)
  obtain ⟨isPick, -, -⟩ := valid.returned inv.ids
  refine unclean fun call isCall => ?_
  cases found ▸ isCall
  intro package isPicked
  split
  · rename_i row isFound
    have sameId : row.id = package.id := by simpa using List.find?_some isFound
    have isRow := List.mem_of_find?_eq_some isFound
    by_contra isClaimed
    -- the row was handed out already, and is now again
    have isOld := (inv.used row isRow).mp (Bool.eq_true_of_not_eq_false isClaimed)
    have isIn : row.id ∈ picked.map (·.id) := sameId ▸ List.mem_map.mpr ⟨package, isPicked, rfl⟩
    have isAgain : row.id ∈ (returned picked state.rows).map (·.id) :=
      List.mem_map.mpr ⟨row.toKeyPackage, mem_returned.mpr ⟨row, isRow, isIn, rfl⟩, rfl⟩
    have once := good.singleUse
    rw [handedOut_append] at once
    exact (List.nodup_append.mp once).2.2 _ isOld _ isAgain rfl
  rename_i isMissing
  intro isSupplied
  -- whatever serves the device is the missing row itself
  obtain ⟨other, isReturned, isDevice⟩ := List.mem_map.mp
    (good.served _ (List.mem_append_right _ (List.mem_singleton.mpr rfl)) _ isSupplied)
  have samePackage := List.inj_on_of_nodup_map valid.devices (isPick other isReturned)
    isPicked isDevice
  obtain ⟨row, isRow, -, rfl⟩ := mem_returned.mp isReturned
  have isThere := List.find?_eq_none.mp isMissing row isRow
  exact isThere (by simp [← samePackage])

theorem good_iff_clean (inputs : List Input) :
    (∀ before, before <+: inputs → Good (reached before).claims) ↔
      Along step Clean start inputs := by
  constructor
  · intro good
    by_contra unclean
    obtain ⟨before, input, after, rfl, -, isUnclean⟩ := Along.exists_first_failure unclean
    have next := good (before ++ [input]) ⟨after, by simp⟩
    rw [reached, List.foldl_append] at next
    exact fails_of_unclean (inv_reached before) isUnclean next
  rintro clean before ⟨after, rfl⟩
  obtain ⟨cleanBefore, -⟩ := (Along.append _ before after).mp clean
  have both : ∀ state input, Inv state ∧ Good state.claims → Clean state input →
      Inv (step state input) ∧ Good (step state input).claims :=
    fun state input ⟨inv, good⟩ clean => ⟨inv_step state input inv, good_step inv good clean⟩
  exact (Along.invariant both cleanBefore ⟨inv_reached [], good_nil⟩).2

end Invariant

/-- **When a KeyPackage is handed out at most once**, each claim returns at most one per device,
and one for every requested device that had one throughout: in memory in every run, and under
Postgres in exactly the runs in which each claim still finds its pick unclaimed when it commits,
or finds a row of it gone whose device was without a package in the meantime. -/
theorem key_packages_single_use_iff (memoryInputs : List Memory.Input) (inputs : List Input) :
    Good (Memory.reached memoryInputs).claims ∧
    ((∀ before, before <+: inputs → Good (reached before).claims) ↔
      Along step Clean start inputs) :=
  ⟨(Memory.inv_reached memoryInputs).good, good_iff_clean inputs⟩

/-- Two claims take their snapshots before either commits: both return the only package. -/
theorem claimed_twice :
    handedOut (reached [.put "0xa" "phone" [[1]], .proceed 0 0, .claim ["0xa"], .claim ["0xa"],
      .proceed 1 0, .proceed 1 0]).claims = [0, 0] ∧
    ¬Good (reached [.put "0xa" "phone" [[1]], .proceed 0 0, .claim ["0xa"], .claim ["0xa"],
      .proceed 1 0, .proceed 1 0]).claims := by
  have twice : handedOut (reached [.put "0xa" "phone" [[1]], .proceed 0 0, .claim ["0xa"],
      .claim ["0xa"], .proceed 1 0, .proceed 1 0]).claims = [0, 0] := by
    decide +kernel
  refine ⟨twice, fun good => ?_⟩
  have once := good.singleUse
  rw [twice] at once
  exact absurd once (by decide)

end MessagingStack.Relayer.KeyPackages

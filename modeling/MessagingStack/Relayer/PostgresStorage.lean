import MessagingStack.Base.OrderedMap
import MessagingStack.Base.Runs
import MessagingStack.Relayer.InMemoryStorage

/-!
# Concurrent inserts in the Postgres store

`PostgresStorage::create_message` is a transaction of a `SELECT COALESCE(MAX(order_num), 0) + 1`
and an `INSERT` under that number, interleaved with others under READ COMMITTED.  The unique
constraints keep ids, nonces and idempotency keys apart, not orders: these are right exactly when no
transaction commits after another one of its group that its `SELECT` did not see
(`orders_unique_iff`).
-/

namespace MessagingStack.Relayer.PostgresStorage

open InMemoryStorage (orderKey)

/-! ## The table -/

/-- A committed row, with the number of rows that were committed when its transaction
began. -/
structure Committed where
  row : Message
  begunAt : Nat

/-- How far a `create_message` transaction has come. -/
inductive Progress where
  | begun
  /-- The order its `SELECT` computed, and how many rows were committed then. -/
  | selected (order : Int) (seen : Nat)
  /-- Its row is inserted and waits for the commit. -/
  | inserted (order : Int) (seen : Nat)
  deriving DecidableEq

structure Transaction where
  message : Message
  begunAt : Nat
  progress : Progress

/-- The client that pages through a group. -/
structure Reader where
  after : Int
  seen : List Message

structure Database where
  committed : List Committed
  inFlight : OrderedMap Nat Transaction
  reader : Reader

/-- The empty table, and a reader that starts after the given order. -/
def Database.empty (start : Int) : Database where
  committed := []
  inFlight := ∅
  reader := { after := start, seen := [] }

def ordersOf (groupId : String) (committed : List Committed) : List Int :=
  (committed.filter (·.row.groupId == groupId)).map fun entry => orderKey entry.row

def selectOrder (groupId : String) (committed : List Committed) : Int :=
  (ordersOf groupId committed).max?.getD 0 + 1

/-- A unique constraint keeps the two rows apart: the primary key,
`idx_messages_group_nonce` or `idx_messages_idempotency_key`. -/
def conflicts (new old : Message) : Bool :=
  new.id == old.id ||
    (new.groupId == old.groupId && new.nonce == old.nonce) ||
    (new.idempotencyKey.isSome && new.idempotencyKey == old.idempotencyKey)

/-- The row a transaction has inserted and not committed. -/
def Transaction.pending (transaction : Transaction) : Option Message :=
  match transaction.progress with
  | .inserted order _ => some (transaction.message.setOrder order)
  | _ => none

/-- `get_messages_by_group` with `after_order` only: the rows of the group after the
given order, ascending, at most `limit`. -/
def getMessagesByGroup (groupId : String) (committed : List Committed) (after : Int)
    (limit : Nat) : List Message :=
  (((committed.map (·.row)).filter fun row =>
      row.groupId == groupId && after < orderKey row).insertionSort
    (fun left right => orderKey left ≤ orderKey right)).take limit

/-! ## Steps -/

/-- What can happen next. -/
inductive Input where
  | begin (tx : Nat) (message : Message)
  | select (tx : Nat)
  | insert (tx : Nat)
  | commit (tx : Nat)
  /-- A failed statement, a lost connection. -/
  | rollback (tx : Nat)
  | page (limit : Nat)

namespace Database

def advance (db : Database) (tx : Nat) (transaction : Transaction) (progress : Progress) :
    Database :=
  { db with inFlight := db.inFlight.insert tx { transaction with progress } }

/-- The transaction is over without a commit. -/
def drop (db : Database) (tx : Nat) : Database := { db with inFlight := db.inFlight.erase tx }

/-- The `SELECT` statement; an order beyond `BIGINT` fails it. -/
def runSelect (db : Database) (tx : Nat) (transaction : Transaction) : Database :=
  let order := selectOrder transaction.message.groupId db.committed
  if order < 2 ^ 63 then db.advance tx transaction (.selected order db.committed.length)
  else db.drop tx

/-- The `INSERT` statement: a conflict with a committed row fails the transaction, one
with a row in flight makes it wait. -/
def runInsert (db : Database) (tx : Nat) (transaction : Transaction) (order : Int)
    (seen : Nat) : Database :=
  if db.committed.any fun entry => conflicts transaction.message entry.row then db.drop tx
  else if db.inFlight.entries.any fun other =>
      other.2.pending.any (conflicts transaction.message) then db
  else db.advance tx transaction (.inserted order seen)

/-- The commit: the row becomes visible. -/
def runCommit (db : Database) (tx : Nat) (transaction : Transaction) (order : Int) :
    Database :=
  { db with
    committed := db.committed ++
      [{ row := transaction.message.setOrder order, begunAt := transaction.begunAt }]
    inFlight := db.inFlight.erase tx }

/-- The reader fetches its next page. -/
def runPage (groupId : String) (db : Database) (limit : Nat) : Database :=
  let page := getMessagesByGroup groupId db.committed db.reader.after limit
  { db with
    reader :=
      { after := (page.getLast?.map orderKey).getD db.reader.after
        seen := db.reader.seen ++ page } }

/-- One step; one that is not enabled changes nothing. -/
def step (groupId : String) (db : Database) : Input → Database
  | .begin tx message =>
    match db.inFlight.get tx with
    | some _ => db
    | none =>
      { db with
        inFlight := db.inFlight.insert tx
          { message, begunAt := db.committed.length, progress := .begun } }
  | .select tx =>
    match db.inFlight.get tx with
    | some transaction =>
      match transaction.progress with
      | .begun => db.runSelect tx transaction
      | _ => db
    | none => db
  | .insert tx =>
    match db.inFlight.get tx with
    | some transaction =>
      match transaction.progress with
      | .selected order seen => db.runInsert tx transaction order seen
      | _ => db
    | none => db
  | .commit tx =>
    match db.inFlight.get tx with
    | some transaction =>
      match transaction.progress with
      | .inserted order _ => db.runCommit tx transaction order
      | _ => db
    | none => db
  | .rollback tx => db.drop tx
  | .page limit => db.runPage groupId limit

end Database

/-! ## What the statements see -/

@[simp] theorem ordersOf_nil (groupId : String) : ordersOf groupId [] = [] := rfl

@[simp] theorem ordersOf_append (groupId : String) (first second : List Committed) :
    ordersOf groupId (first ++ second) = ordersOf groupId first ++ ordersOf groupId second := by
  simp [ordersOf]

variable {groupId : String} {db : Database} {start : Int} {committed : List Committed} {order : Int}
  {count : Nat} {transaction : Transaction}

theorem lt_selectOrder (seen : order ∈ ordersOf groupId committed) :
    order < selectOrder groupId committed := by
  unfold selectOrder
  cases highest : (ordersOf groupId committed).max? with
  | none =>
    rw [List.max?_eq_none_iff] at highest
    cases highest ▸ seen
  | some =>
    have below := (List.max?_eq_some_iff.mp highest).2 order seen
    simp only [Option.getD_some]
    omega

/-- `1, 2, …, count`: the orders of a group without overlapping transactions. -/
def counted (count : Nat) : List Int := (List.range count).map fun index : Nat => (index : Int) + 1

theorem counted_succ (count : Nat) : counted (count + 1) = counted count ++
    [(count : Int) + 1] := by
  simp [counted, List.range_succ]

theorem mem_counted :
    order ∈ counted count ↔ 1 ≤ order ∧ order ≤ count := by
  simp only [counted, List.mem_map, List.mem_range]
  constructor
  · rintro ⟨index, below, rfl⟩
    omega
  · rintro ⟨low, high⟩
    exact ⟨(order - 1).toNat, by omega, by omega⟩

theorem pairwise_counted (count : Nat) : (counted count).Pairwise (· < ·) := by
  refine List.pairwise_map.mpr (List.pairwise_lt_range.imp ?_)
  intro first second less
  omega

/-- After `count` rows numbered in turn, the `SELECT` computes the next number. -/
theorem selectOrder_of_counted (numbered : ordersOf groupId committed = counted count) :
    selectOrder groupId committed = (count : Int) + 1 := by
  unfold selectOrder
  rw [numbered]
  cases count with
  | zero => rfl
  | succ count =>
    have highest : (counted (count + 1)).max? = some ((count : Int) + 1) := by
      rw [List.max?_eq_some_iff]
      refine ⟨mem_counted.mpr ⟨by omega, by omega⟩, ?_⟩
      intro order isOrder
      have bounds := mem_counted.mp isOrder
      push_cast at bounds
      exact bounds.2
    rw [highest]
    simp

theorem counted_take (numbered : ordersOf groupId committed = counted count) (seen : Nat) :
    ∃ visible, ordersOf groupId (committed.take seen) = counted visible ∧ visible ≤ count ∧
      (visible = count ↔ ∀ entry ∈ committed.drop seen, entry.row.groupId ≠ groupId) := by
  have parts := ordersOf_append groupId (committed.take seen) (committed.drop seen)
  rw [List.take_append_drop, numbered] at parts
  have lengths := congrArg List.length parts
  simp only [counted, List.length_map, List.length_range, List.length_append] at lengths
  refine ⟨(ordersOf groupId (committed.take seen)).length, ?_, by omega, ?_⟩
  · have first := congrArg (List.take (ordersOf groupId (committed.take seen)).length) parts
    rw [List.take_left] at first
    refine first.symm.trans ?_
    rw [counted, counted, ← List.map_take, List.take_range, min_eq_left (by omega)]
  have none_iff : (ordersOf groupId (committed.drop seen)).length = 0 ↔
      ∀ entry ∈ committed.drop seen, entry.row.groupId ≠ groupId := by
    simp [ordersOf]
  rw [← none_iff]
  omega

/-! ## What a step can do -/

/-- A transaction in flight is consistent with the rows committed so far: the order it has
is the one its `SELECT` computed over the rows it saw. -/
structure Transaction.Fits (transaction : Transaction) (committed : List Committed) : Prop where
  begunBefore : transaction.begunAt ≤ committed.length
  computed : ∀ order seen,
    transaction.progress = .selected order seen ∨ transaction.progress = .inserted order seen →
    transaction.begunAt ≤ seen ∧ seen ≤ committed.length ∧
      order = selectOrder transaction.message.groupId (committed.take seen)

theorem Transaction.Fits.append (fits : transaction.Fits committed) (entry : Committed) :
    transaction.Fits (committed ++ [entry]) where
  begunBefore := by
    have before := fits.begunBefore
    simp only [List.length_append, List.length_singleton]
    omega
  computed := by
    intro order seen has
    obtain ⟨begun, within, computed⟩ := fits.computed order seen has
    refine ⟨begun, ?_, ?_⟩
    · simp only [List.length_append, List.length_singleton]
      omega
    · rw [List.take_append_of_le_length within]
      exact computed

namespace Database

theorem step_cases (groupId : String) (db : Database) (input : Input) :
    ((db.step groupId input).committed = db.committed ∧
      (db.step groupId input).reader = db.reader ∧
      ∀ tx transaction, (db.step groupId input).inFlight.get tx = some transaction →
        (∀ other held, db.inFlight.get other = some held → held.Fits db.committed) →
        transaction.Fits db.committed) ∨
    (∃ tx transaction order seen, input = .commit tx ∧
      db.inFlight.get tx = some transaction ∧
      transaction.progress = .inserted order seen ∧
      db.step groupId input = db.runCommit tx transaction order) ∨
    (∃ limit, input = .page limit ∧ db.step groupId input = db.runPage groupId limit) := by
  -- a step that leaves the transactions as they are, or forgets one
  have same : ∀ tx transaction, db.inFlight.get tx = some transaction →
      (∀ other held, db.inFlight.get other = some held → held.Fits db.committed) →
      transaction.Fits db.committed := fun tx transaction found all => all tx transaction found
  have forgets : ∀ gone tx transaction, (db.inFlight.erase gone).get tx = some transaction →
      (∀ other held, db.inFlight.get other = some held → held.Fits db.committed) →
      transaction.Fits db.committed := by
    intro gone tx transaction found all
    rw [OrderedMap.get_erase] at found
    split at found
    · cases found
    · exact all tx transaction found
  have changes : ∀ changed (new : Transaction),
      ((∀ other held, db.inFlight.get other = some held → held.Fits db.committed) →
        new.Fits db.committed) →
      ∀ tx transaction, (db.inFlight.insert changed new).get tx = some transaction →
        (∀ other held, db.inFlight.get other = some held → held.Fits db.committed) →
        transaction.Fits db.committed := by
    intro changed new fits tx transaction found all
    rw [OrderedMap.get_insert] at found
    split at found
    · cases found
      exact fits all
    · exact all tx transaction found
  cases input with
  | begin tx =>
    refine .inl ?_
    simp only [step]
    cases found : db.inFlight.get tx with
    | some => exact ⟨rfl, rfl, same⟩
    | none =>
      refine ⟨rfl, rfl, changes tx _ fun _ => ⟨le_refl _, ?_⟩⟩
      rintro order seen (⟨⟨⟩⟩ | ⟨⟨⟩⟩)
  | select tx =>
    refine .inl ?_
    simp only [step]
    cases found : db.inFlight.get tx with
    | none => exact ⟨rfl, rfl, same⟩
    | some transaction =>
      dsimp only
      cases progress : transaction.progress with
      | begun =>
        simp only [runSelect]
        split
        · refine ⟨rfl, rfl, changes tx _ fun all => ?_⟩
          have before := (all tx transaction found).begunBefore
          refine ⟨before, ?_⟩
          rintro order seen (⟨⟨⟩⟩ | ⟨⟨⟩⟩)
          exact ⟨before, le_refl _, by rw [List.take_length]⟩
        · exact ⟨rfl, rfl, forgets tx⟩
      | selected | inserted => exact ⟨rfl, rfl, same⟩
  | insert tx =>
    refine .inl ?_
    simp only [step]
    cases found : db.inFlight.get tx with
    | none => exact ⟨rfl, rfl, same⟩
    | some transaction =>
      dsimp only
      cases progress : transaction.progress with
      | begun | inserted => exact ⟨rfl, rfl, same⟩
      | selected order seen =>
        simp only [runInsert]
        split_ifs
        · exact ⟨rfl, rfl, forgets tx⟩
        · exact ⟨rfl, rfl, same⟩
        refine ⟨rfl, rfl, changes tx _ fun all => ?_⟩
        have fits := all tx transaction found
        refine ⟨fits.begunBefore, ?_⟩
        rintro order seen (⟨⟨⟩⟩ | ⟨⟨⟩⟩)
        exact fits.computed _ _ (.inl progress)
  | commit tx =>
    simp only [step]
    cases found : db.inFlight.get tx with
    | none => exact .inl ⟨rfl, rfl, same⟩
    | some transaction =>
      dsimp only
      cases progress : transaction.progress with
      | begun | selected => exact .inl ⟨rfl, rfl, same⟩
      | inserted order seen =>
        exact .inr (.inl ⟨tx, transaction, order, seen, rfl, found, progress, rfl⟩)
  | rollback tx => exact .inl ⟨rfl, rfl, forgets tx⟩
  | page limit => exact .inr (.inr ⟨limit, rfl, rfl⟩)

/-! ## What holds in every run -/

/-- The transactions in flight fit the rows, and each row is above the rows of its group
that were visible when its transaction began. -/
structure Consistent (db : Database) : Prop where
  fits : ∀ tx transaction, db.inFlight.get tx = some transaction → transaction.Fits db.committed
  above : ∀ entry ∈ db.committed, entry.begunAt ≤ db.committed.length ∧
    ∀ old ∈ db.committed.take entry.begunAt, old.row.groupId = entry.row.groupId →
      orderKey old.row < orderKey entry.row

theorem Consistent.step {db : Database} (consistent : db.Consistent) (groupId : String)
    (input : Input) : (db.step groupId input).Consistent := by
  rcases db.step_cases groupId input with
    ⟨rows, -, fits⟩ | ⟨tx, transaction, order, seen, -, found, progress, stepped⟩ |
    ⟨limit, -, stepped⟩
  · refine ⟨?_, ?_⟩
    · intro tx transaction found
      rw [rows]
      exact fits tx transaction found consistent.fits
    · rw [rows]
      exact consistent.above
  · have fits := consistent.fits tx transaction found
    obtain ⟨begun, within, computed⟩ := fits.computed order seen (.inr progress)
    rw [stepped]
    refine ⟨?_, ?_⟩
    · intro other held isHeld
      rw [runCommit, OrderedMap.get_erase] at isHeld
      split at isHeld
      · cases isHeld
      · exact (consistent.fits other held isHeld).append _
    intro entry isEntry
    have grown : db.committed.length ≤ (db.runCommit tx transaction order).committed.length := by
      simp [runCommit]
    rw [runCommit, List.mem_append, List.mem_singleton] at isEntry
    rcases isEntry with isOld | rfl
    · obtain ⟨within, above⟩ := consistent.above entry isOld
      refine ⟨within.trans grown, ?_⟩
      rw [runCommit, List.take_append_of_le_length within]
      exact above
    refine ⟨fits.begunBefore.trans grown, ?_⟩
    intro old isOld sameGroup
    simp only [runCommit, List.take_append_of_le_length fits.begunBefore] at isOld
    -- what was visible at the start was visible to the `SELECT`
    have visible : old ∈ db.committed.take seen :=
      List.mem_of_mem_take (by
        rw [List.take_take, min_eq_left begun]
        exact isOld : old ∈ (db.committed.take seen).take transaction.begunAt)
    show orderKey old.row < order
    rw [computed]
    refine lt_selectOrder (List.mem_map.mpr ⟨old, List.mem_filter.mpr ⟨visible, ?_⟩, rfl⟩)
    simpa [Message.setOrder] using sameGroup
  · rw [stepped]
    exact ⟨consistent.fits, consistent.above⟩

theorem consistent_empty (start : Int) : (empty start).Consistent where
  fits := by
    intro tx transaction found
    simp [empty, EmptyCollection.emptyCollection] at found
  above := by
    intro entry isEntry
    cases isEntry

end Database

/-! ## When the orders are right -/

/-- **The orders of a group are right.**  No two of its rows share an order, no row is
below one that was visible when its transaction began, and the reader, which started
after `start`, has every row up to its cursor. -/
structure OrdersRight (groupId : String) (start : Int) (db : Database) : Prop where
  distinct : (ordersOf groupId db.committed).Nodup
  notBelow : ∀ entry ∈ db.committed, entry.row.groupId = groupId →
    ∀ old ∈ db.committed.take entry.begunAt, old.row.groupId = groupId →
      orderKey old.row ≤ orderKey entry.row
  complete : ∀ entry ∈ db.committed, entry.row.groupId = groupId →
    start < orderKey entry.row → orderKey entry.row ≤ db.reader.after → entry.row ∈ db.reader.seen

/-- A transaction of the group that commits has seen every row of the group: none was
committed between its `SELECT` and its commit. -/
def Undisturbed (groupId : String) (db : Database) : Input → Prop
  | .commit tx =>
    match db.inFlight.get tx with
    | some transaction =>
      match transaction.progress with
      | .inserted _ seen =>
        transaction.message.groupId = groupId →
          ∀ entry ∈ db.committed.drop seen, entry.row.groupId ≠ groupId
      | _ => True
    | none => True
  | _ => True

theorem undisturbed_commit {tx : Nat} {seen : Nat} (found : db.inFlight.get tx = some transaction)
    (progress : transaction.progress = .inserted order seen) :
    Undisturbed groupId db (.commit tx) ↔
      (transaction.message.groupId = groupId →
        ∀ entry ∈ db.committed.drop seen, entry.row.groupId ≠ groupId) := by
  simp only [Undisturbed, found, progress]

/-- Along undisturbed commits the rows of the group are numbered in turn, and the reader
stays within them. -/
structure Numbered (groupId : String) (start : Int) (db : Database) : Prop where
  consistent : db.Consistent
  numbered : ∃ count, ordersOf groupId db.committed = counted count ∧
    (db.reader.after = start ∨ db.reader.after ≤ count)
  started : start ≤ db.reader.after
  complete : ∀ entry ∈ db.committed, entry.row.groupId = groupId →
    start < orderKey entry.row → orderKey entry.row ≤ db.reader.after → entry.row ∈ db.reader.seen

theorem mem_take_of_le {rows : List Message} {limit : Nat} {row last : Message}
    (increasing : rows.Pairwise fun left right => orderKey left < orderKey right)
    (isLast : (rows.take limit).getLast? = some last)
    (present : row ∈ rows) (notAbove : orderKey row ≤ orderKey last) :
    row ∈ rows.take limit := by
  rw [← List.take_append_drop limit rows] at increasing present
  rcases List.mem_append.mp present with within | beyond
  · exact within
  · have less := (List.pairwise_append.mp increasing).2.2 last
      (List.mem_of_getLast? isLast) row beyond
    omega

theorem increasing_of_counted (numbered : ordersOf groupId committed = counted count) (after : Int)
    :
    ((committed.map (·.row)).filter fun row =>
        row.groupId == groupId && decide (after < orderKey row)).Pairwise
      fun left right => orderKey left < orderKey right := by
  have ofGroup : ((committed.map (·.row)).filter (·.groupId == groupId)).Pairwise
      fun left right => orderKey left < orderKey right := by
    have sorted := pairwise_counted count
    rw [← numbered, ordersOf, List.pairwise_map] at sorted
    rw [List.filter_map, List.pairwise_map]
    exact sorted
  have narrower : (fun row : Message => row.groupId == groupId && decide (after < orderKey row)) =
      fun row => decide (after < orderKey row) && (row.groupId == groupId) := by
    funext row
    rw [Bool.and_comm]
  rw [narrower, ← List.filter_filter]
  exact ofGroup.filter _

theorem Numbered.page (inTurn : Numbered groupId start db) (limit : Nat) :
    Numbered groupId start (db.runPage groupId limit) := by
  obtain ⟨consistent, ⟨count, numbered, bounded⟩, started, complete⟩ := inTurn
  have increasing := increasing_of_counted numbered db.reader.after
  have sorted := List.Pairwise.insertionSort_eq (increasing.imp fun less => le_of_lt less)
  have page_eq : getMessagesByGroup groupId db.committed db.reader.after limit =
      ((db.committed.map (·.row)).filter fun row =>
        row.groupId == groupId && decide (db.reader.after < orderKey row)).take limit := by
    rw [getMessagesByGroup, sorted]
  cases isLast : (getMessagesByGroup groupId db.committed db.reader.after limit).getLast? with
  | none =>
    -- an empty page: the cursor stays
    have stays : (db.runPage groupId limit).reader.after = db.reader.after := by
      simp [Database.runPage, isLast]
    refine ⟨⟨consistent.fits, consistent.above⟩, ⟨count, numbered, stays.symm ▸ bounded⟩,
      stays.symm ▸ started, ?_⟩
    intro entry isEntry isGroup after upTo
    rw [stays] at upTo
    exact List.mem_append_left _ (complete entry isEntry isGroup after upTo)
  | some last =>
    have moves : (db.runPage groupId limit).reader.after = orderKey last := by
      simp [Database.runPage, isLast]
    rw [page_eq] at isLast
    have isRow := List.mem_of_mem_take (List.mem_of_getLast? isLast)
    rw [List.mem_filter, Bool.and_eq_true, beq_iff_eq, decide_eq_true_eq] at isRow
    obtain ⟨committedRow, ofGroup, beyond⟩ := isRow
    refine ⟨⟨consistent.fits, consistent.above⟩, ⟨count, numbered, ?_⟩, ?_, ?_⟩
    · obtain ⟨entry, isEntry, rfl⟩ := List.mem_map.mp committedRow
      have isOrder : orderKey entry.row ∈ ordersOf groupId db.committed :=
        List.mem_map.mpr ⟨entry, List.mem_filter.mpr ⟨isEntry, by simpa using ofGroup⟩, rfl⟩
      rw [numbered] at isOrder
      rw [moves]
      exact .inr (mem_counted.mp isOrder).2
    · rw [moves]
      omega
    intro entry isEntry isGroup after upTo
    rw [moves] at upTo
    by_cases old : orderKey entry.row ≤ db.reader.after
    · exact List.mem_append_left _ (complete entry isEntry isGroup after old)
    refine List.mem_append_right _ ?_
    rw [page_eq]
    refine mem_take_of_le increasing isLast (List.mem_filter.mpr ⟨?_, ?_⟩) upTo
    · exact List.mem_map_of_mem isEntry
    · simp only [Bool.and_eq_true, beq_iff_eq, decide_eq_true_eq]
      exact ⟨isGroup, by omega⟩

theorem Numbered.commit (inTurn : Numbered groupId start db) {tx : Nat} {seen : Nat}
    (found : db.inFlight.get tx = some transaction)
    (progress : transaction.progress = .inserted order seen)
    (undisturbed : transaction.message.groupId = groupId → ∀ entry ∈ db.committed.drop seen,
      entry.row.groupId ≠ groupId)
    (consistent : (db.runCommit tx transaction order).Consistent) :
    Numbered groupId start (db.runCommit tx transaction order) := by
  obtain ⟨before, ⟨count, numbered, bounded⟩, started, complete⟩ := inTurn
  by_cases isGroup : transaction.message.groupId = groupId
  · obtain ⟨-, -, computed⟩ := (before.fits tx transaction found).computed order seen
      (.inr progress)
    obtain ⟨visible, sawTurn, -, all⟩ := counted_take numbered seen
    obtain rfl := all.mpr (undisturbed isGroup)
    rw [isGroup, selectOrder_of_counted sawTurn] at computed
    subst computed
    have grown : ordersOf groupId (db.runCommit tx transaction ((visible : Int) + 1)).committed =
        counted (visible + 1) := by
      rw [counted_succ, Database.runCommit, ordersOf_append, numbered]
      simp [ordersOf, Message.setOrder, isGroup, orderKey]
    refine ⟨consistent, ⟨visible + 1, grown, ?_⟩, started, ?_⟩
    · rcases bounded with same | within
      · exact .inl same
      · refine .inr ?_
        show db.reader.after ≤ ((visible + 1 : Nat) : Int)
        omega
    intro entry isEntry ofGroup after upTo
    rcases List.mem_append.mp isEntry with isOld | isNew
    · exact complete entry isOld ofGroup after upTo
    -- the new row is beyond the cursor
    obtain rfl := List.mem_singleton.mp isNew
    have isNext : start < (visible : Int) + 1 := after
    have isSeen : (visible : Int) + 1 ≤ db.reader.after := upTo
    rcases bounded with same | within <;> omega
  have same : ordersOf groupId (db.runCommit tx transaction order).committed =
      counted count := by
    rw [Database.runCommit, ordersOf_append, numbered]
    simp [ordersOf, Message.setOrder, isGroup]
  refine ⟨consistent, ⟨count, same, bounded⟩, started, ?_⟩
  intro entry isEntry ofGroup after upTo
  rcases List.mem_append.mp isEntry with isOld | isNew
  · exact complete entry isOld ofGroup after upTo
  · obtain rfl := List.mem_singleton.mp isNew
    exact absurd ofGroup isGroup

theorem Numbered.step (inTurn : Numbered groupId start db) (input : Input)
    (undisturbed : Undisturbed groupId db input) :
    Numbered groupId start (db.step groupId input) := by
  have consistent := inTurn.consistent.step groupId input
  rcases db.step_cases groupId input with
    ⟨rows, reader, -⟩ | ⟨tx, transaction, order, seen, rfl, found, progress, stepped⟩ |
    ⟨limit, -, stepped⟩
  · obtain ⟨-, numbered, started, complete⟩ := inTurn
    refine ⟨consistent, ?_, ?_, ?_⟩
    · rwa [rows, reader]
    · rwa [reader]
    · rwa [rows, reader]
  · rw [stepped] at consistent ⊢
    exact inTurn.commit found progress
      ((undisturbed_commit found progress).mp undisturbed) consistent
  · rw [stepped]
    exact inTurn.page limit

theorem numbered_empty (groupId : String) (start : Int) :
    Numbered groupId start (Database.empty start) := by
  refine ⟨Database.consistent_empty start, ⟨0, rfl, .inl rfl⟩, le_refl _, ?_⟩
  intro entry isEntry
  cases isEntry

theorem Numbered.ordersRight (inTurn : Numbered groupId start db) :
    OrdersRight groupId start db := by
  obtain ⟨consistent, ⟨count, numbered, -⟩, -, complete⟩ := inTurn
  refine ⟨?_, ?_, complete⟩
  · rw [numbered]
    exact (pairwise_counted count).imp fun less => ne_of_lt less
  · intro entry isEntry ofGroup old isOld oldGroup
    exact le_of_lt ((consistent.above entry isEntry).2 old isOld (oldGroup.trans ofGroup.symm))

theorem numbered_of_along {inputs : List Input}
    (along : Along (Database.step groupId) (Undisturbed groupId) (Database.empty start) inputs) :
    Numbered groupId start (inputs.foldl (Database.step groupId) (Database.empty start)) := by
  refine Along.invariant ?_ along (numbered_empty groupId start)
  intro db input inTurn undisturbed
  exact inTurn.step input undisturbed

/-- A commit over the head of another takes a number that is taken. -/
theorem Numbered.commit_repeats (inTurn : Numbered groupId start db) {input : Input}
    (disturbed : ¬Undisturbed groupId db input) :
    ¬(ordersOf groupId (db.step groupId input).committed).Nodup := by
  cases input with
  | commit tx =>
    cases found : db.inFlight.get tx with
    | none => exact absurd (by simp [Undisturbed, found]) disturbed
    | some transaction =>
      cases progress : transaction.progress with
      | begun | selected => exact absurd (by simp [Undisturbed, found, progress]) disturbed
      | inserted order seen =>
        rw [undisturbed_commit found progress, not_forall] at disturbed
        obtain ⟨isGroup, overtaken⟩ := disturbed
        obtain ⟨consistent, ⟨count, numbered, -⟩, -, -⟩ := inTurn
        obtain ⟨-, -, computed⟩ := (consistent.fits tx transaction found).computed order seen
          (.inr progress)
        obtain ⟨visible, sawTurn, within, all⟩ := counted_take numbered seen
        have short : visible ≠ count := fun whole => overtaken (all.mp whole)
        rw [isGroup, selectOrder_of_counted sawTurn] at computed
        have stepped : (db.step groupId (.commit tx)).committed =
            (db.runCommit tx transaction order).committed := by
          simp only [Database.step, found, progress]
        rw [stepped, Database.runCommit, ordersOf_append, numbered, List.nodup_append]
        rintro ⟨-, -, apart⟩
        refine apart order (mem_counted.mpr ⟨by omega, by omega⟩) order ?_ rfl
        simp [ordersOf, Message.setOrder, isGroup, orderKey]
  | _ => exact absurd trivial disturbed

/-- Rows are never removed, so an order that occurs twice stays. -/
theorem Database.not_nodup_step (input : Input) (repeats : ¬(ordersOf groupId db.committed).Nodup) :
    ¬(ordersOf groupId (db.step groupId input).committed).Nodup := by
  rcases db.step_cases groupId input with
    ⟨rows, -, -⟩ | ⟨tx, transaction, order, seen, -, -, -, stepped⟩ | ⟨limit, -, stepped⟩
  · rwa [rows]
  · rw [stepped, Database.runCommit, ordersOf_append, List.nodup_append]
    exact fun parts => repeats parts.1
  · rwa [stepped]

theorem Database.not_nodup_run (inputs : List Input)
    (repeats : ¬(ordersOf groupId db.committed).Nodup) :
    ¬(ordersOf groupId (inputs.foldl (Database.step groupId) db).committed).Nodup := by
  induction inputs generalizing db with
  | nil => exact repeats
  | cons input rest ih => exact ih (db.not_nodup_step input repeats)

/-- **When concurrent inserts number a group right.**  However transactions, failures and
pages interleave, the orders of the group are right at the end of the run if and only if
no transaction of the group was overtaken: at each commit the rows its `SELECT` saw were
still all rows of the group. -/
theorem orders_unique_iff (groupId : String) (start : Int) (inputs : List Input) :
    OrdersRight groupId start
        (inputs.foldl (Database.step groupId) (Database.empty start)) ↔
      Along (Database.step groupId) (Undisturbed groupId) (Database.empty start) inputs := by
  constructor
  · intro right
    by_contra overtaken
    obtain ⟨before, input, after, rfl, along, disturbed⟩ := Along.exists_first_failure overtaken
    have repeated := (numbered_of_along along).commit_repeats disturbed
    rw [List.foldl_append, List.foldl_cons] at right
    exact Database.not_nodup_run after repeated right.distinct
  · intro along
    exact (numbered_of_along along).ordersRight

/-- A row of the group with the given id and nonce. -/
def sampleRow (id : Nat) : Message :=
  Message.withAttribution id 0 "g" "alice" [] [UInt8.ofNat id] 0 [] [] [] .humanMessage .text none

/-- Two transactions overlap: both `SELECT` before either commits.  The reader pages in
between and never gets the second row. -/
def overlap : List Input :=
  [.begin 0 (sampleRow 1), .select 0, .begin 1 (sampleRow 2), .select 1, .insert 0, .insert 1,
    .commit 0, .page 10, .commit 1, .page 10]

/-- Two requests that overlap store two rows under one order, and the client that pages
behind them never sees the second. -/
theorem overlap_repeats_order :
    ¬OrdersRight "g" 0 (overlap.foldl (Database.step "g") (Database.empty 0)) ∧
    ordersOf "g" (overlap.foldl (Database.step "g") (Database.empty 0)).committed = [1, 1] ∧
    (overlap.foldl (Database.step "g") (Database.empty 0)).reader.seen.map (·.id) = [1] := by
  refine ⟨fun right => ?_, by decide, by decide⟩
  have distinct := right.distinct
  revert distinct
  decide

end MessagingStack.Relayer.PostgresStorage

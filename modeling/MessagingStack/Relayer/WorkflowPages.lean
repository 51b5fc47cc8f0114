import MessagingStack.Base.KeysetPages
import MessagingStack.Base.Ranking
import MessagingStack.Relayer.WorkflowItems

/-!
# Paging through workflow items

`list_for_recipient` of both stores of `storage/workflow_items.rs` sorts by creation, newest first,
and takes the items behind a cursor, which is an id.  A reader gets each item once exactly if the
ids agree with the order at the end of each full page (`pages_show_each_once_iff`), under Postgres
for all orders of items of one time.
-/

namespace MessagingStack.Relayer.Workflow

/-! ## The listings -/

def Status.text : Status → String
  | .open => "open"
  | .actioned => "actioned"
  | .dismissed => "dismissed"
  | .expired => "expired"

/-- The stored items, in the order in which a store goes through them. -/
structure Table where
  rows : List WorkflowItem
  distinct : (rows.map WorkflowItem.id).Nodup

/-- A limit that `list_workflow_items` passes on. -/
abbrev PageLimit := { limit : Nat // 1 ≤ limit ∧ limit ≤ 100 }

/-- Whether the first of two items is at least as new as the second one. -/
def Newest (first second : WorkflowItem) : Prop := second.createdAt ≤ first.createdAt

instance : DecidableRel Newest := fun first second =>
  inferInstanceAs (Decidable (second.createdAt ≤ first.createdAt))

/-- What a reader asks for. -/
structure ListQuery where
  recipient : String
  status : Option String
  itemType : Option String

def isNoneOr {α : Type} (value : Option α) (test : α → Bool) : Bool :=
  match value with
  | none => true
  | some value => test value

namespace Memory

def listForRecipient (values : List WorkflowItem) (query : ListQuery) (cursor : Option Uuid)
    (limit : Nat) : List WorkflowItem :=
  let rows := values.filter fun row => row.recipientAddress = query.recipient
  let rows := rows.filter fun row => isNoneOr query.status fun status => row.status.text = status
  let rows := rows.filter fun row => isNoneOr query.itemType fun type => row.itemType = type
  let rows := rows.filter fun row => isNoneOr cursor fun cursor => row.id < cursor
  (rows.insertionSort Newest).take limit

end Memory

namespace Postgres

def listForRecipient (found : List WorkflowItem) (query : ListQuery) (cursor : Option Uuid)
    (limit : Nat) : List WorkflowItem :=
  let rows := found.filter fun row =>
    row.recipientAddress = query.recipient &&
      (isNoneOr query.status fun status => row.status.text = status) &&
      (isNoneOr query.itemType fun type => row.itemType = type) &&
      isNoneOr cursor fun cursor => row.id < cursor
  (rows.insertionSort Newest).take limit

end Postgres

/-- Whether an item is asked for. -/
def ListQuery.matches (query : ListQuery) (row : WorkflowItem) : Bool :=
  row.recipientAddress = query.recipient &&
    (isNoneOr query.status fun status => row.status.text = status) &&
    isNoneOr query.itemType fun type => row.itemType = type

/-- The items that are asked for, as a listing without a limit arranges them. -/
def ListQuery.arrange (query : ListQuery) (rows : List WorkflowItem) : List WorkflowItem :=
  (rows.filter query.matches).insertionSort Newest

/-- **The promise**: a reader that goes on from the last item of each full page gets each item
that it asks for once, newest first. -/
def ShowsEachOnce (table : Table) (query : ListQuery) (limit : PageLimit)
    (list : Nat → Option Uuid → List WorkflowItem) : Prop :=
  KeysetPages.Reads WorkflowItem.id limit Newest (table.rows.filter query.matches) list

/-! ## The listings as pages -/

instance : IsTrans WorkflowItem Newest := ⟨fun _ _ _ early late => Int.le_trans late early⟩

instance : Std.Total Newest := ⟨fun first second => Int.le_total second.createdAt first.createdAt⟩

variable (table : Table) (query : ListQuery) (cursor : Option Uuid)

theorem isNoneOr_id (row : WorkflowItem) :
    (isNoneOr cursor fun cursor => row.id < cursor) =
      KeysetPages.below WorkflowItem.id cursor row := by
  cases cursor <;> rfl

theorem Postgres.listForRecipient_eq (found : List WorkflowItem) (query : ListQuery)
    (cursor : Option Uuid) (limit : Nat) :
    Postgres.listForRecipient found query cursor limit =
      ((query.arrange found).filter (KeysetPages.below WorkflowItem.id cursor)).take limit := by
  rw [ListQuery.arrange, filter_insertionSort, List.filter_filter, Postgres.listForRecipient]
  congr 2
  refine List.filter_congr fun row _ => ?_
  rw [isNoneOr_id, Bool.and_comm]
  rfl

theorem Memory.listForRecipient_eq (values : List WorkflowItem) (query : ListQuery)
    (cursor : Option Uuid) (limit : Nat) :
    Memory.listForRecipient values query cursor limit =
      Postgres.listForRecipient values query cursor limit := by
  rw [Memory.listForRecipient, Postgres.listForRecipient]
  congr 2
  rw [List.filter_filter, List.filter_filter, List.filter_filter]
  refine List.filter_congr fun row _ => ?_
  ac_rfl

theorem ListQuery.arrange_perm (rows : List WorkflowItem) :
    (query.arrange rows).Perm (rows.filter query.matches) :=
  List.perm_insertionSort Newest _

theorem ListQuery.arrange_sorted (rows : List WorkflowItem) :
    (query.arrange rows).Pairwise Newest :=
  List.pairwise_insertionSort Newest _

theorem Table.distinct_matching :
    ((table.rows.filter query.matches).map WorkflowItem.id).Nodup :=
  table.distinct.sublist (List.filter_sublist.map WorkflowItem.id)

/-! ## When the pages show each item once -/

theorem memory_shows_iff (limit : PageLimit) :
    ShowsEachOnce table query limit
        (fun _ cursor => Memory.listForRecipient table.rows query cursor limit) ↔
      KeysetPages.Agrees WorkflowItem.id limit (query.arrange table.rows) := by
  have asks : (fun (_ : Nat) cursor => Memory.listForRecipient table.rows query cursor limit) =
      KeysetPages.pagesOf WorkflowItem.id limit fun _ => query.arrange table.rows := by
    funext _ cursor
    rw [Memory.listForRecipient_eq, Postgres.listForRecipient_eq]
    rfl
  have distinct : (query.arrange table.rows).Nodup :=
    (query.arrange_perm table.rows).nodup_iff.mpr (table.distinct_matching query).of_map
  have reads := KeysetPages.reads_iff limit.2.1 (table.distinct_matching query)
    (r := Newest) (KeysetPages.splices_singleton distinct) (by
      rintro list rfl
      exact ⟨query.arrange_perm table.rows, query.arrange_sorted table.rows⟩)
  rw [ShowsEachOnce, asks]
  constructor
  · intro shows
    refine reads.mp (fun arrangements same => ?_) _ rfl
    obtain rfl : arrangements = fun _ => query.arrange table.rows := funext same
    exact shows
  intro agrees
  refine reads.mpr ?_ _ fun _ => rfl
  rintro list rfl
  exact agrees

theorem postgres_shows_iff (limit : PageLimit) :
    (∀ found : Nat → List WorkflowItem, (∀ call, (found call).Perm table.rows) →
      ShowsEachOnce table query limit
        (fun call cursor => Postgres.listForRecipient (found call) query cursor limit)) ↔
    ∀ list, list.Perm (table.rows.filter query.matches) → list.Pairwise Newest →
      KeysetPages.Agrees WorkflowItem.id limit list := by
  have asks : ∀ found : Nat → List WorkflowItem,
      (fun call cursor => Postgres.listForRecipient (found call) query cursor limit) =
        KeysetPages.pagesOf WorkflowItem.id limit fun call => query.arrange (found call) := by
    intro found
    funext call cursor
    rw [Postgres.listForRecipient_eq]
    rfl
  have reads := KeysetPages.reads_iff limit.2.1 (table.distinct_matching query)
    (KeysetPages.splices_sorted Newest (table.rows.filter query.matches))
    fun list isMember => isMember
  constructor
  · intro shows list isPerm sorted
    refine reads.mp (fun arrangements arranged => ?_) list ⟨isPerm, sorted⟩
    -- each arrangement is the one of some order of the table
    have allMatch : ∀ call, (arrangements call).filter query.matches = arrangements call :=
      fun call => List.filter_eq_self.mpr fun row isIn =>
        (List.mem_filter.mp ((arranged call).1.mem_iff.mp isIn)).2
    have isFound : ∀ call, query.arrange
        (arrangements call ++ table.rows.filter fun row => !query.matches row) =
          arrangements call := by
      intro call
      have noneLeft : (table.rows.filter fun row => !query.matches row).filter query.matches =
          [] := by
        refine List.filter_eq_nil_iff.mpr fun row isIn isMatch => ?_
        have noMatch := (List.mem_filter.mp isIn).2
        cases isMatch ▸ noMatch
      rw [ListQuery.arrange, List.filter_append, allMatch, noneLeft, List.append_nil]
      exact (arranged call).2.insertionSort_eq
    have shown := shows
      (fun call => arrangements call ++ table.rows.filter fun row => !query.matches row)
      fun call => ((arranged call).1.append_right _).trans (List.filter_append_perm _ _)
    rw [ShowsEachOnce, asks] at shown
    simpa only [isFound] using shown
  intro agree found isPerm
  rw [ShowsEachOnce, asks]
  refine reads.mpr (fun list isMember => agree list isMember.1 isMember.2) _ fun call => ?_
  exact ⟨(query.arrange_perm _).trans ((isPerm call).filter _), query.arrange_sorted _⟩

/-- **When paging shows each item once**: exactly if the ids agree with the order of creation at
the end of each full page, in memory for the order of the table, and under Postgres for each order
that the creation times allow. -/
theorem pages_show_each_once_iff (table : Table) (query : ListQuery) (limit : PageLimit) :
    (ShowsEachOnce table query limit
        (fun _ cursor => Memory.listForRecipient table.rows query cursor limit) ↔
      KeysetPages.Agrees WorkflowItem.id limit (query.arrange table.rows)) ∧
    ((∀ found : Nat → List WorkflowItem, (∀ call, (found call).Perm table.rows) →
      ShowsEachOnce table query limit
        (fun call cursor => Postgres.listForRecipient (found call) query cursor limit)) ↔
      ∀ list, list.Perm (table.rows.filter query.matches) → list.Pairwise Newest →
        KeysetPages.Agrees WorkflowItem.id limit list) :=
  ⟨memory_shows_iff table query limit, postgres_shows_iff table query limit⟩

/-! ## A hidden item -/

/-- Two items, the newer of which has the smaller id. -/
def sampleTable : Table where
  rows := [.fromIngest 20 1 invitation, .fromIngest 10 2 invitation]
  distinct := by decide

def sampleQuery : ListQuery := ⟨"bob", none, none⟩

/-- **The newest item has the smallest id**: it is the first page, and behind it comes nothing. -/
theorem newest_has_the_smallest_id :
    (¬∀ table query limit, ShowsEachOnce table query limit
      fun _ cursor => Memory.listForRecipient table.rows query cursor limit) ∧
    ¬∀ table query limit, ∀ found : Nat → List WorkflowItem,
      (∀ call, (found call).Perm table.rows) → ShowsEachOnce table query limit
        fun call cursor => Postgres.listForRecipient (found call) query cursor limit := by
  have disagrees : ¬KeysetPages.Agrees WorkflowItem.id 1
      [WorkflowItem.fromIngest 20 1 invitation, .fromIngest 10 2 invitation] := by
    intro agrees
    have behind := (agrees [] _ _ rfl (Nat.dvd_refl 1)).2 _ List.mem_cons_self
    exact absurd behind (by decide)
  constructor
  · intro shows
    exact disagrees ((memory_shows_iff sampleTable sampleQuery ⟨1, by decide⟩).mp (shows _ _ _))
  · intro shows
    exact disagrees ((postgres_shows_iff sampleTable sampleQuery ⟨1, by decide⟩).mp (shows _ _ _)
      _ (List.Perm.refl _) (by decide))

end MessagingStack.Relayer.Workflow

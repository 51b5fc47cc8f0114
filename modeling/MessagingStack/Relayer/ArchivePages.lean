import MessagingStack.Base.Ranking
import MessagingStack.Relayer.Paging

/-!
# Pages of the archive

`ArchiveReadService::list_messages` of `archive/read.rs` over both indexes of `archive/index.rs`.
It takes the arguments of the live log, but both indexes give the oldest rows between the two
orders, where the live log gives the newest ones unless it is asked for what comes after an order.

`pages_like_live_iff`: for rows with distinct orders, the archive answers like the live log
exactly if an order to start after is given or all rows fit on the page.  So paging forward shows
each row once, and paging backward does exactly if all rows fit on one page
(`newest_rows_stay_away` has two rows and pages of one).
-/

namespace MessagingStack.Relayer.ArchivePages

open InMemoryStorage (orderKey inWindow)
open Paging (DistinctOrders place)

/-! ## The indexes -/

structure ArchiveIndexRow where
  namespace_ : String
  groupId : String
  messageId : Uuid
  msgOrder : Option Int
  syncStatus : String
  r2Key : String

structure ArchiveListParams where
  afterOrder : Option Int
  beforeOrder : Option Int
  limit : Nat

/-- `sync_status NOT IN ('DELETED', 'DELETE_PENDING')` -/
def ArchiveIndexRow.undeleted (row : ArchiveIndexRow) : Bool :=
  row.syncStatus ≠ "DELETED" && row.syncStatus ≠ "DELETE_PENDING"

/-- `ORDER BY msg_order ASC NULLS LAST` -/
def nullsLast (left right : ArchiveIndexRow) : Bool :=
  match left.msgOrder, right.msgOrder with
  | some left, some right => left ≤ right
  | some _, none => true
  | none, some _ => false
  | none, none => true

def retain (bound : Option Int) (test : Int → Int → Bool) (rows : List ArchiveIndexRow) :
    List ArchiveIndexRow :=
  match bound with
  | some bound => rows.filter fun row => test (row.msgOrder.getD 0) bound
  | none => rows

/-- The implementations of `ArchiveIndex`. -/
inductive Index where
  | inMemory
  | postgres

def Index.listForGroup (index : Index) (stored : List ArchiveIndexRow)
    (namespace_ groupId : String) (params : ArchiveListParams) : List ArchiveIndexRow :=
  match index with
  | .inMemory =>
    let rows := stored.filter fun row => row.namespace_ = namespace_ && row.groupId = groupId
    let rows := rows.filter ArchiveIndexRow.undeleted
    let rows := rows.insertionSort fun left right => left.msgOrder.getD 0 ≤ right.msgOrder.getD 0
    let rows := retain params.afterOrder (fun order after => order > after) rows
    let rows := retain params.beforeOrder (fun order before => order < before) rows
    rows.take (max params.limit 1)
  | .postgres =>
    let rows := stored.filter fun row =>
      row.namespace_ = namespace_ && row.groupId = groupId && row.undeleted &&
        (params.afterOrder.all fun after => row.msgOrder.any fun order => order > after) &&
        params.beforeOrder.all fun before => row.msgOrder.any fun order => order < before
    (rows.insertionSort fun left right => nullsLast left right).take (max params.limit 1)

/-! ## The service -/

/-- The page of what was fetched, and `has_next`. -/
def cut (limit : Nat) (rows : List ArchiveIndexRow) : List ArchiveIndexRow × Bool :=
  if rows.length > limit then (rows.take limit, true) else (rows, false)

/-- `list_messages`, over an index and with what the store has under a key. -/
def listMessages {V : Type} (listForGroup : String → String → ArchiveListParams →
      List ArchiveIndexRow) (getObject : String → Option V) (defaultNamespace groupId : String)
    (namespace_ : Option String) (afterOrder beforeOrder : Option Int) (limit : Nat) :
    List V × Bool :=
  let ns := (namespace_.filter fun text => text ≠ "").getD defaultNamespace
  let fetchLimit := max (limit + 1) 1
  let rows := listForGroup ns groupId { afterOrder, beforeOrder, limit := fetchLimit }
  let (page, hasNext) := cut limit rows
  (page.filterMap fun row => getObject row.r2Key, hasNext)

/-- What the archive has of a group: rows with distinct orders, all with their objects. -/
structure Content where
  namespace_ : String
  groupId : String
  stored : List ArchiveIndexRow
  /-- The row that an object is a copy of. -/
  object : String → Message
  copies : ∀ row ∈ stored, (object row.r2Key).order = row.msgOrder ∧
    (object row.r2Key).groupId = row.groupId
  ordered : ∀ row ∈ stored, row.msgOrder ≠ none
  distinct : (stored.filter fun row =>
    row.namespace_ = namespace_ && row.groupId = groupId).Pairwise
    fun left right => left.msgOrder ≠ right.msgOrder

variable (index : Index) (content : Content)

/-- An answer of the service. -/
def Content.ask (afterOrder beforeOrder : Option Int) (limit : Nat) : List Message × Bool :=
  listMessages (index.listForGroup content.stored) (fun key => some (content.object key))
    content.namespace_ content.groupId none afterOrder beforeOrder limit

/-- The rows of the group that are not deleted. -/
def Content.undeleted : List ArchiveIndexRow :=
  (content.stored.filter fun row =>
    row.namespace_ = content.namespace_ && row.groupId = content.groupId).filter
    ArchiveIndexRow.undeleted

/-- The live log, with the rows that are archived and not deleted. -/
def Content.live : InMemoryStorage :=
  { InMemoryStorage.new with
    messages := content.undeleted.map fun row => content.object row.r2Key }

/-- The rows between two orders. -/
abbrev Content.window (afterOrder beforeOrder : Option Int) : List Message :=
  content.live.window content.groupId afterOrder beforeOrder

/-- **Like the live log**: the rows that it would give, and whether there are more. -/
def AnswersLikeLive (afterOrder beforeOrder : Option Int) (limit : Nat) : Prop :=
  content.live.getMessagesByGroup content.groupId afterOrder beforeOrder limit =
      .ok (content.ask index afterOrder beforeOrder limit).1 ∧
    ((content.ask index afterOrder beforeOrder limit).2 = true ↔
      limit < (content.window afterOrder beforeOrder).length)

/-- A page after an order, for a reader that goes on from the last row. -/
def askForward (limit : Nat) (cursor : Option Int) : Option (List Message × Bool) :=
  cursor.map fun after => content.ask index (some after) none limit

/-- A page before an order, for a reader that goes on from the first row: newest first. -/
def askBackward (limit : Nat) (cursor : Option Int) : Option (List Message × Bool) :=
  let answer := content.ask index none cursor limit
  some (answer.1.reverse, answer.2)

/-- **Paging shows each row once**, in order, with flags that say whether there are more. -/
def ShowsEachOnce (ask : Option Int → Option (List Message × Bool)) (start : Option Int)
    (rows : List Message) : Prop :=
  ∃ fuel pages, Cursor.walk ask place fuel start = some pages ∧ Cursor.Enumerates rows pages

/-! ## What the archive answers -/

section Answers

variable {content}

theorem Content.mem_undeleted {row : ArchiveIndexRow} (isIn : row ∈ content.undeleted) :
    row ∈ content.stored ∧ row.groupId = content.groupId := by
  have isRow := List.mem_filter.mp (List.mem_filter.mp isIn).1
  rw [Bool.and_eq_true, decide_eq_true_eq, decide_eq_true_eq] at isRow
  exact ⟨isRow.1, isRow.2.2⟩

theorem Content.orderKey_object {row : ArchiveIndexRow} (isIn : row ∈ content.stored) :
    orderKey (content.object row.r2Key) = row.msgOrder.getD 0 := by
  rw [orderKey, (content.copies row isIn).1]

theorem Content.window_eq (afterOrder beforeOrder : Option Int) :
    content.window afterOrder beforeOrder =
      ((content.undeleted.filter fun row =>
        inWindow afterOrder beforeOrder (content.object row.r2Key)).map
          fun row => content.object row.r2Key).insertionSort
        fun left right => orderKey left ≤ orderKey right := by
  have allOfGroup : content.live.messages.filter (·.groupId == content.groupId) =
      content.live.messages := by
    refine List.filter_eq_self.mpr fun message isIn => ?_
    obtain ⟨row, isRow, rfl⟩ := List.mem_map.mp isIn
    obtain ⟨isStored, isGroup⟩ := content.mem_undeleted isRow
    exact beq_iff_eq.mpr ((content.copies row isStored).2.trans isGroup)
  rw [Content.window, InMemoryStorage.window, allOfGroup, Content.live, List.filter_map]
  rfl

theorem retain_eq (bound : Option Int) (test : Int → Int → Bool) (rows : List ArchiveIndexRow) :
    retain bound test rows = rows.filter fun row => bound.all (test (row.msgOrder.getD 0)) := by
  cases bound with
  | none => exact (List.filter_eq_self.mpr fun _ _ => rfl).symm
  | some => rfl

theorem Content.map_sorted (r : ArchiveIndexRow → ArchiveIndexRow → Prop) [DecidableRel r]
    {rows : List ArchiveIndexRow} (ofContent : ∀ row ∈ rows, row ∈ content.stored)
    (byOrder : ∀ left ∈ rows, ∀ right ∈ rows,
      (r left right ↔ left.msgOrder.getD 0 ≤ right.msgOrder.getD 0)) :
    (rows.insertionSort r).map (fun row => content.object row.r2Key) =
      (rows.map fun row => content.object row.r2Key).insertionSort
        fun left right => orderKey left ≤ orderKey right := by
  refine List.map_insertionSort r _ _ _ fun left isLeft right isRight => ?_
  rw [content.orderKey_object (ofContent left isLeft),
    content.orderKey_object (ofContent right isRight)]
  exact byOrder left isLeft right isRight

theorem Content.map_listForGroup (index : Index) (afterOrder beforeOrder : Option Int)
    (limit : Nat) :
    (index.listForGroup content.stored content.namespace_ content.groupId
      ⟨afterOrder, beforeOrder, limit⟩).map (fun row => content.object row.r2Key) =
      (content.window afterOrder beforeOrder).take (max limit 1) := by
  have stored : ∀ row ∈ content.undeleted, row ∈ content.stored :=
    fun row isIn => (content.mem_undeleted isIn).1
  rw [content.window_eq]
  cases index with
  | inMemory =>
    have total : Std.Total fun left right : ArchiveIndexRow =>
        left.msgOrder.getD 0 ≤ right.msgOrder.getD 0 := ⟨fun _ _ => Int.le_total _ _⟩
    have trans : IsTrans ArchiveIndexRow fun left right =>
        left.msgOrder.getD 0 ≤ right.msgOrder.getD 0 := ⟨fun _ _ _ => Int.le_trans⟩
    simp only [Index.listForGroup]
    rw [retain_eq, retain_eq, filter_insertionSort, filter_insertionSort, List.filter_filter,
      List.map_take, content.map_sorted]
    · congr 3
      refine List.filter_congr fun row isIn => ?_
      have key := content.orderKey_object (stored row isIn)
      cases afterOrder <;> cases beforeOrder <;> simp [inWindow, key, Bool.and_comm]
    · exact fun row isIn => stored row (List.mem_of_mem_filter isIn)
    · exact fun _ _ _ _ => Iff.rfl
  | postgres =>
    simp only [Index.listForGroup]
    rw [List.map_take, content.map_sorted]
    · congr 3
      rw [Content.undeleted, List.filter_filter, List.filter_filter]
      refine List.filter_congr fun row isIn => ?_
      obtain ⟨order, isOrder⟩ := Option.ne_none_iff_exists'.mp (content.ordered row isIn)
      have key := content.orderKey_object isIn
      cases afterOrder <;> cases beforeOrder <;>
        simp [inWindow, key, isOrder, Bool.and_comm, Bool.and_left_comm, Bool.and_assoc]
    · exact fun row isIn => List.mem_of_mem_filter isIn
    intro left isLeft right isRight
    obtain ⟨first, isFirst⟩ :=
      Option.ne_none_iff_exists'.mp (content.ordered left (List.mem_of_mem_filter isLeft))
    obtain ⟨second, isSecond⟩ :=
      Option.ne_none_iff_exists'.mp (content.ordered right (List.mem_of_mem_filter isRight))
    rw [nullsLast, isFirst, isSecond]
    exact decide_eq_true_iff

/-- **An answer of the archive**: the oldest rows of the window, and whether there are more. -/
theorem Content.ask_eq (index : Index) (afterOrder beforeOrder : Option Int) (limit : Nat) :
    content.ask index afterOrder beforeOrder limit =
      ((content.window afterOrder beforeOrder).take limit,
        decide (limit < (content.window afterOrder beforeOrder).length)) := by
  have listed := content.map_listForGroup index afterOrder beforeOrder (max (limit + 1) 1)
  have size : max (max (limit + 1) 1) 1 = limit + 1 := by omega
  rw [size] at listed
  have lengths := congrArg List.length listed
  rw [List.length_map, List.length_take] at lengths
  rw [Content.ask, listMessages]
  simp only [Option.filter_none, Option.getD_none, List.filterMap_eq_map', cut]
  split
  · rw [List.map_take, listed, List.take_take, Nat.min_eq_left (Nat.le_succ limit),
      decide_eq_true (by omega)]
  · rw [listed, List.take_of_length_le (by omega), List.take_of_length_le (by omega),
      decide_eq_false (by omega)]

theorem drop_eq_take_iff {rows : List Message} (distinct : rows.Nodup) {limit : Nat}
    (positive : 0 < limit) :
    rows.drop (rows.length - limit) = rows.take limit ↔ rows.length ≤ limit := by
  constructor
  · intro same
    by_contra more
    cases rows with
    | nil => exact more (Nat.zero_le _)
    | cons first rest =>
      have isFirst : first ∈ (first :: rest).take limit := by
        obtain ⟨pred, rfl⟩ := Nat.exists_eq_succ_of_ne_zero (Nat.ne_of_gt positive)
        exact List.mem_cons_self
      obtain ⟨count, isCount⟩ : ∃ count, (first :: rest).length - limit = count + 1 :=
        ⟨(first :: rest).length - limit - 1, by omega⟩
      rw [← same, isCount, List.drop_succ_cons] at isFirst
      exact (List.nodup_cons.mp distinct).1 (List.mem_of_mem_drop isFirst)
  · intro all
    rw [Nat.sub_eq_zero_of_le all, List.take_of_length_le all]
    rfl

theorem Content.distinctOrders : DistinctOrders content.live content.groupId := by
  refine List.Pairwise.filter _ (List.pairwise_map.mpr ?_)
  refine List.Pairwise.imp_of_mem ?_ (content.distinct.filter ArchiveIndexRow.undeleted)
  intro left right isLeft isRight differ same
  have leftStored := (content.mem_undeleted isLeft).1
  have rightStored := (content.mem_undeleted isRight).1
  obtain ⟨first, isFirst⟩ := Option.ne_none_iff_exists'.mp (content.ordered left leftStored)
  obtain ⟨second, isSecond⟩ := Option.ne_none_iff_exists'.mp (content.ordered right rightStored)
  rw [content.orderKey_object leftStored, content.orderKey_object rightStored, isFirst,
    isSecond] at same
  rw [isFirst, isSecond] at differ
  exact differ (congrArg some same)

theorem Content.window_nodup (afterOrder beforeOrder : Option Int) :
    (content.window afterOrder beforeOrder).Nodup :=
  (Paging.window_increasing afterOrder beforeOrder content.distinctOrders).imp
    fun less same => by
      rw [same] at less
      exact Int.lt_irrefl _ less

end Answers

/-! ## When the archive pages like the log -/

section Main

variable {content} {index} {limit : Nat}

theorem answersLikeLive_iff (positive : 0 < limit) (afterOrder beforeOrder : Option Int) :
    AnswersLikeLive index content afterOrder beforeOrder limit ↔
      afterOrder.isSome = true ∨ (content.window afterOrder beforeOrder).length ≤ limit := by
  rw [AnswersLikeLive, content.ask_eq, and_iff_left decide_eq_true_iff,
    InMemoryStorage.getMessagesByGroup]
  rw [if_neg (show ¬content.live.poisoned .messages = true from Bool.false_ne_true)]
  cases afterOrder with
  | some => exact iff_of_true rfl (.inl rfl)
  | none =>
    simp only [Option.isNone_none, if_true, Except.ok.injEq, Option.isSome_none,
      Bool.false_eq_true, false_or]
    exact drop_eq_take_iff (content.window_nodup none beforeOrder) positive

/-- What a reader is served of the rows that are left. -/
def serve (limit : Nat) (rest : List Message) : Option (List Message × Bool) :=
  some (rest.take limit, decide (limit < rest.length))

theorem cuts_serve (positive : 0 < limit) : Cursor.Cuts (serve limit) where
  isPrefix isPage := by
    cases isPage
    exact List.take_prefix limit _
  nonempty isPage someRows := by
    cases isPage
    rw [ne_eq, List.take_eq_nil_iff, not_or]
    exact ⟨Nat.ne_of_gt positive, someRows⟩

theorem right_serve (limit : Nat) (rest : List Message) : Cursor.Right (serve limit) rest := by
  refine ⟨_, _, rfl, ?_⟩
  rw [decide_eq_true_iff, List.length_take]
  omega

theorem shows_forward (positive : 0 < limit) (after : Int) :
    ShowsEachOnce (askForward index content limit) (some after)
      (content.window (some after) none) := by
  have serves : Cursor.Serves (askForward index content limit) place (serve limit) (some after)
      (content.window (some after) none) := by
    intro done rest split
    have isRest := Paging.window_forward content.distinctOrders split
    obtain ⟨cursor, isCursor⟩ := Paging.after_eq_some after done
    rw [isCursor] at isRest ⊢
    rw [askForward, Option.map_some, content.ask_eq, Content.window, isRest]
    rfl
  have cuts := cuts_serve positive
  obtain ⟨fuel, pages, walked, tiles⟩ := Cursor.walk_tiles cuts (Cursor.Serves.follows cuts) serves
    fun count => right_serve limit _
  exact ⟨fuel, pages, walked, tiles.enumerates (content.window_nodup (some after) none)⟩

/-- **Paging backward** shows the oldest rows first, and then nothing. -/
theorem shows_backward_iff (positive : 0 < limit) :
    ShowsEachOnce (askBackward index content limit) none (content.window none none).reverse ↔
      (content.window none none).length ≤ limit := by
  have first : askBackward index content limit none =
      some (((content.window none none).take limit).reverse,
        decide (limit < (content.window none none).length)) := by
    rw [askBackward, content.ask_eq]
  constructor
  · rintro ⟨fuel, pages, walked, enumerates⟩
    by_contra more
    have isMore : decide (limit < (content.window none none).length) = true :=
      decide_eq_true (Nat.lt_of_not_le more)
    cases fuel with
    | zero => cases walked
    | succ =>
      rw [Cursor.walk, first, isMore] at walked
      simp only at walked
      split at walked
      · cases walked
      obtain ⟨others, -, rfl⟩ := Option.map_eq_some_iff.mp walked
      -- the first page would have to be the newest rows
      have cut := enumerates.cut
      rw [List.flatMap_cons] at cut
      have newest := congrArg (List.take limit) cut
      rw [List.take_reverse, List.take_left' (by
        rw [List.length_reverse, List.length_take]
        omega)] at newest
      exact more ((drop_eq_take_iff (content.window_nodup none none) positive).mp
        (List.reverse_injective newest).symm)
  intro all
  have noMore : decide (limit < (content.window none none).length) = false :=
    decide_eq_false (Nat.not_lt_of_le all)
  refine ⟨1, [((content.window none none).reverse, false)], ?_, ?_⟩
  · rw [Cursor.walk, first, noMore, List.take_of_length_le all]
  · exact (Cursor.Tiles.last _).enumerates
      (List.nodup_reverse.mpr (content.window_nodup none none))

end Main

/-- **When the archive pages like the live log.** -/
theorem pages_like_live_iff (index : Index) (content : Content)
    (limit : { limit : Nat // 1 ≤ limit ∧ limit ≤ 100 }) :
    (∀ afterOrder beforeOrder,
      AnswersLikeLive index content afterOrder beforeOrder limit ↔
        afterOrder.isSome = true ∨ (content.window afterOrder beforeOrder).length ≤ limit) ∧
    (∀ after, ShowsEachOnce (askForward index content limit) (some after)
      (content.window (some after) none)) ∧
    (ShowsEachOnce (askBackward index content limit) none (content.window none none).reverse ↔
      (content.window none none).length ≤ limit) :=
  ⟨answersLikeLive_iff limit.2.1, shows_forward limit.2.1, shows_backward_iff limit.2.1⟩

/-! ## Two rows and pages of one -/

def sampleRow (order : Nat) : ArchiveIndexRow :=
  ⟨"dev", "0xgroup", order, some order, "SYNCED", toString order⟩

def sampleContent : Content where
  namespace_ := "dev"
  groupId := "0xgroup"
  stored := [sampleRow 1, sampleRow 2]
  object key :=
    { Message.withAttribution (if key = "1" then 1 else 2) 0 "0xgroup" "0xalice" [] [] 0 [] [] []
        .humanMessage .text none with
      order := some (if key = "1" then 1 else 2) }
  copies := by decide
  ordered := by decide
  distinct := by decide

/-- **The newest rows stay away**: the first page is the oldest row, where the live log has the
newest one, and paging backward nothing comes before it. -/
theorem newest_rows_stay_away :
    (¬∀ index content, AnswersLikeLive index content none none 1) ∧
      ¬∀ index content, ShowsEachOnce (askBackward index content 1) none
        (content.window none none).reverse := by
  have two : ¬(sampleContent.window none none).length ≤ 1 := by decide +kernel
  constructor
  · intro alike
    have some := (answersLikeLive_iff Nat.one_pos none none).mp (alike .postgres sampleContent)
    exact some.elim Bool.false_ne_true two
  · intro shows
    exact two ((shows_backward_iff Nat.one_pos).mp (shows .postgres sampleContent))

end MessagingStack.Relayer.ArchivePages

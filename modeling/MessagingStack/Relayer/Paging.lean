import MessagingStack.Base.Cursor
import MessagingStack.Relayer.InMemoryStorage

/-!
# Pages of the message log

`fetch_page` (`handlers/messages/paging.rs`) gives a page of a group's log: up to `limit` rows of
the timeline, and the events and commits between them, which do not count.  It reads the log in
batches and stops before the first timeline row too many, at the end of the log, or at a cap on
the rows of a page; and it says whether there is more from how it stopped.

`fetchPage_eq` says what it gives: the longest page there is (`firstPage`), and at the cap a flag
that looks at the length of the last batch instead of at the rows that are left.  Paging through
a log is right exactly if the flag is right wherever a page begins (`paging_enumerates_iff`).
-/

namespace MessagingStack

namespace Relayer

namespace InMemoryStorage

/-- Is a row between two orders? -/
def inWindow (afterOrder beforeOrder : Option Int) (message : Message) : Bool :=
  match afterOrder, beforeOrder with
  | some after, some before => orderKey message > after && orderKey message < before
  | some after, none => orderKey message > after
  | none, some before => orderKey message < before
  | none, none => true

/-- The rows of a group between two orders, by ascending order. -/
def window (storage : InMemoryStorage) (groupId : String) (afterOrder beforeOrder : Option Int) :
    List Message :=
  ((storage.messages.filter (·.groupId == groupId)).filter
    (inWindow afterOrder beforeOrder)).insertionSort
      (fun left right => orderKey left ≤ orderKey right)

/-- The oldest rows of a window that has a lower bound, the newest of one that has none. -/
def getMessagesByGroup (storage : InMemoryStorage) (groupId : String)
    (afterOrder beforeOrder : Option Int) (limit : Nat) : Except StorageError (List Message) :=
  if storage.poisoned .messages then .error lockPoisoned
  else
    let filtered := storage.window groupId afterOrder beforeOrder
    if afterOrder.isNone then .ok (filtered.drop (filtered.length - limit))
    else .ok (filtered.take limit)

end InMemoryStorage

namespace Paging

open InMemoryStorage (orderKey)

/-! ## The page -/

/-- Hard cap on event rows returned alongside one page. -/
def maxEventRowsPerPage : Nat := 500

def isEvent (message : Message) : Bool := message.kind.isControl

/-- What the pass over a batch comes to: the page ends before a row, the page is full, or the
next batch is needed. -/
inductive Scan where
  | ended (rows : List Message)
  | full (rows : List Message)
  | goOn (rows : List Message) (cursor : Option Int) (timeline : Nat)

/-- The pass over the rows of a batch. -/
def scan (limit maxRows : Nat) :
    List Message → List Message → Option Int → Nat → Scan
  | [], rows, cursor, timeline => .goOn rows cursor timeline
  | message :: chunk, rows, _, timeline =>
    let timeline := if isEvent message then timeline else timeline + 1
    -- the first row of the next page: stop before it
    if ¬isEvent message ∧ timeline > limit then .ended rows
    else if (rows ++ [message]).length ≥ maxRows then .full (rows ++ [message])
    else scan limit maxRows chunk (rows ++ [message]) (some (orderKey message)) timeline

/-- The loop over the batches.  The first argument bounds the number of batches. -/
def collect (read : Option Int → Except StorageError (List Message))
    (limit batch maxRows : Nat) :
    Nat → List Message → Option Int → Nat → Option (Except StorageError (List Message × Bool))
  | 0, _, _, _ => none
  | fuel + 1, rows, cursor, timeline =>
    match read cursor with
    | .error reason => some (.error reason)
    | .ok chunk =>
      let exhausted := decide (chunk.length < batch)
      match scan limit maxRows chunk rows cursor timeline with
      | .ended rows => some (.ok (rows, true))
      | .full rows => some (.ok (rows, decide (rows.length ≥ maxRows) && !exhausted))
      | .goOn rows cursor timeline =>
        if exhausted then some (.ok (rows, decide (rows.length ≥ maxRows) && !exhausted))
        else collect read limit batch maxRows fuel rows cursor timeline

/-- The number of rows read at a time. -/
def batchSize (limit : Nat) : Nat := max (limit + 1) 50

def maxRows (limit : Nat) : Nat := limit + 1 + maxEventRowsPerPage

/-- Rows in ascending order, and whether there is more: after an order, or else before one or
from the tip. -/
def fetchPage (storage : InMemoryStorage) (groupId : String)
    (afterOrder beforeOrder : Option Int) (limit : Nat) :
    Option (Except StorageError (List Message × Bool)) :=
  let limit := max limit 1
  match afterOrder with
  | some after =>
    collect (fun cursor =>
        storage.getMessagesByGroup groupId cursor beforeOrder (batchSize limit))
      limit (batchSize limit) (maxRows limit) (maxRows limit) [] (some after) 0
  | none =>
    (collect (fun cursor =>
        (storage.getMessagesByGroup groupId none cursor (batchSize limit)).map List.reverse)
      limit (batchSize limit) (maxRows limit) (maxRows limit) [] beforeOrder 0).map
        (·.map fun (newestFirst, hasNext) => (newestFirst.reverse, hasNext))

/-! ## What a page should be -/

/-- The longest run of rows with at most so many of the timeline, and at most so many at all. -/
def firstPage : Nat → Nat → List Message → List Message
  | _, _, [] => []
  | _, 0, _ => []
  | limit, size + 1, message :: rest =>
    if isEvent message then message :: firstPage limit size rest
    else
      match limit with
      | 0 => []
      | limit + 1 => message :: firstPage limit size rest

def timelineRows (rows : List Message) : Nat := rows.countP (!isEvent ·)

/-- The rows of full batches that a page of the largest size takes. -/
def rowsRead (limit : Nat) : Nat :=
  (maxRows limit + batchSize limit - 1) / batchSize limit * batchSize limit

/-- The flag that comes with the first page of some rows. -/
def hasNext (limit : Nat) (rows : List Message) : Bool :=
  let page := firstPage limit (maxRows limit) rows
  if page.length = maxRows limit then decide (rowsRead limit ≤ rows.length)
  else decide (page.length < rows.length)

/-- **The rows on which the flag is wrong.**  They begin with as many as a page can hold, with no
more than `limit` of the timeline; and the rest of them would end in the last batch, so that they
are taken for all, or there is no rest and the last batch is a whole one. -/
def Misjudged (limit : Nat) (rows : List Message) : Prop :=
  timelineRows (rows.take (maxRows limit)) ≤ limit ∧
    (maxRows limit < rows.length ∧ rows.length < rowsRead limit ∨
      rows.length = maxRows limit ∧ rowsRead limit = maxRows limit)

instance (limit : Nat) (rows : List Message) : Decidable (Misjudged limit rows) :=
  inferInstanceAs (Decidable (_ ∧ (_ ∧ _ ∨ _ ∧ _)))

/-- What is left after the first page. -/
def afterPage (limit : Nat) (rows : List Message) : List Message :=
  rows.drop (firstPage limit (maxRows limit) rows).length

/-! ## The pass over the rows -/

section Pass

variable {limit size : Nat}

theorem scan_append (limit size : Nat) (first second rows : List Message) (cursor : Option Int)
    (timeline : Nat) :
    scan limit size (first ++ second) rows cursor timeline =
      match scan limit size first rows cursor timeline with
      | .goOn rows cursor timeline => scan limit size second rows cursor timeline
      | stopped => stopped := by
  induction first generalizing rows cursor timeline with
  | nil => rfl
  | cons message first ih =>
    rw [List.cons_append, scan, scan]
    generalize (if isEvent message then timeline else timeline + 1) = counted
    by_cases isEnd : ¬isEvent message ∧ counted > limit
    · rw [if_pos isEnd, if_pos isEnd]
    rw [if_neg isEnd, if_neg isEnd]
    by_cases isFull : (rows ++ [message]).length ≥ size
    · rw [if_pos isFull, if_pos isFull]
    · rw [if_neg isFull, if_neg isFull]
      exact ih _ _ _

/-- The place of a row, for a cursor. -/
def place (message : Message) : Option Int := some (orderKey message)

/-- What a pass comes to. -/
def Outcome (limit size : Nat) (chunk rows : List Message) (cursor : Option Int) (timeline : Nat) :
    Scan → Prop
  | .ended out =>
    out = rows ++ firstPage (limit - timeline) (size - rows.length) chunk ∧
      out.length < size ∧ out.length < rows.length + chunk.length
  | .full out =>
    out = rows ++ firstPage (limit - timeline) (size - rows.length) chunk ∧
      out.length = size ∧ size ≤ rows.length + chunk.length
  | .goOn out last counted =>
    firstPage (limit - timeline) (size - rows.length) chunk = chunk ∧ out = rows ++ chunk ∧
      out.length < size ∧ last = Cursor.after place cursor chunk ∧ counted ≤ limit

variable {message : Message} {rows : List Message}

theorem scan_outcome (chunk : List Message) (cursor : Option Int) {timeline : Nat}
    (few : timeline ≤ limit) (short : rows.length < size) :
    Outcome limit size chunk rows cursor timeline (scan limit size chunk rows cursor timeline) := by
  induction chunk generalizing rows cursor timeline with
  | nil => exact ⟨by simp [firstPage], by simp, short, rfl, few⟩
  | cons message chunk ih =>
    obtain ⟨left, isLeft⟩ : ∃ left, size - rows.length = left + 1 :=
      ⟨size - rows.length - 1, by omega⟩
    have grown : (rows ++ [message]).length = rows.length + 1 := by simp
    -- the row is taken, and what follows takes one row less
    have taken : ∀ counted, counted ≤ limit →
        firstPage (limit - timeline) (left + 1) (message :: chunk) =
          message :: firstPage (limit - counted) left chunk →
        Outcome limit size (message :: chunk) rows cursor timeline
          (if (rows ++ [message]).length ≥ size then .full (rows ++ [message])
           else scan limit size chunk (rows ++ [message]) (some (orderKey message)) counted) := by
      intro counted fewer isPage
      by_cases isFull : (rows ++ [message]).length ≥ size
      · rw [if_pos isFull]
        have noneLeft : left = 0 := by omega
        refine ⟨?_, by omega, by simp; omega⟩
        rw [isLeft, isPage, noneLeft]
        cases chunk <;> simp [firstPage]
      rw [if_neg isFull]
      have shorter : (rows ++ [message]).length < size := by omega
      have rest := ih (some (orderKey message)) fewer shorter
      have isRest : size - (rows ++ [message]).length = left := by omega
      cases isScan : scan limit size chunk (rows ++ [message])
        (some (orderKey message)) counted with
      | ended =>
        rw [isScan] at rest
        obtain ⟨isOut, below, less⟩ := rest
        rw [isRest] at isOut
        refine ⟨?_, below, by simp at less ⊢; omega⟩
        rw [isLeft, isPage, isOut, List.append_assoc, List.singleton_append]
      | full =>
        rw [isScan] at rest
        obtain ⟨isOut, isSize, above⟩ := rest
        rw [isRest] at isOut
        refine ⟨?_, isSize, by simp at above ⊢; omega⟩
        rw [isLeft, isPage, isOut, List.append_assoc, List.singleton_append]
      | goOn =>
        rw [isScan] at rest
        obtain ⟨isAll, isOut, below, isPlace, stillFew⟩ := rest
        rw [isRest] at isAll
        refine ⟨?_, ?_, below, ?_, stillFew⟩
        · rw [isLeft, isPage, isAll]
        · rw [isOut, List.append_assoc, List.singleton_append]
        · rw [isPlace]
          exact (Cursor.after_append [message] chunk).symm
    rw [scan]
    cases isControl : isEvent message with
    | true =>
      simp only [if_true, not_true_eq_false, false_and, if_false]
      exact taken timeline few (by simp [firstPage, isControl])
    | false =>
      simp only [Bool.false_eq_true, if_false, not_false_eq_true, true_and]
      by_cases tooMany : timeline + 1 > limit
      · rw [if_pos tooMany]
        have noneLeft : limit - timeline = 0 := by omega
        refine ⟨?_, short, by simp⟩
        rw [noneLeft, isLeft]
        simp [firstPage, isControl]
      rw [if_neg tooMany]
      obtain ⟨more, isMore⟩ : ∃ more, limit - timeline = more + 1 :=
        ⟨limit - timeline - 1, by omega⟩
      refine taken (timeline + 1) (by omega) ?_
      have fewer : limit - (timeline + 1) = more := by omega
      rw [isMore, fewer]
      simp [firstPage, isControl]

/-! ## The page of a loop -/

theorem firstPage_event (isControl : isEvent message = true) (rest : List Message) :
    firstPage limit (size + 1) (message :: rest) = message :: firstPage limit size rest := by
  cases limit <;> simp [firstPage, isControl]

theorem firstPage_ended (isRow : isEvent message = false) (rest : List Message) :
    firstPage 0 size (message :: rest) = [] := by
  cases size <;> simp [firstPage, isRow]

theorem firstPage_timeline (isRow : isEvent message = false) (rest : List Message) :
    firstPage (limit + 1) (size + 1) (message :: rest) = message :: firstPage limit size rest := by
  simp [firstPage, isRow]

theorem firstPage_zero (rows : List Message) : firstPage limit 0 rows = [] := by
  cases rows <;> simp [firstPage]

theorem firstPage_induction (Holds : Nat → Nat → List Message → List Message → Prop)
    (none : ∀ limit size, Holds limit size [] [])
    (full : ∀ limit rows, Holds limit 0 rows [])
    (ended : ∀ size message rest, isEvent message = false → Holds 0 (size + 1) (message :: rest) [])
    (event : ∀ limit size message rest, isEvent message = true →
      Holds limit size rest (firstPage limit size rest) →
        Holds limit (size + 1) (message :: rest) (message :: firstPage limit size rest))
    (timeline : ∀ limit size message rest, isEvent message = false →
      Holds limit size rest (firstPage limit size rest) →
        Holds (limit + 1) (size + 1) (message :: rest) (message :: firstPage limit size rest))
    (rows : List Message) : Holds limit size rows (firstPage limit size rows) := by
  induction rows generalizing limit size with
  | nil =>
    have isNil : firstPage limit size [] = [] := by simp [firstPage]
    rw [isNil]
    exact none limit size
  | cons message rest ih =>
    cases size with
    | zero =>
      rw [firstPage_zero]
      exact full limit _
    | succ size =>
      cases isControl : isEvent message with
      | true =>
        rw [firstPage_event isControl]
        exact event limit size message rest isControl ih
      | false =>
        cases limit with
        | zero =>
          rw [firstPage_ended isControl]
          exact ended size message rest isControl
        | succ limit =>
          rw [firstPage_timeline isControl]
          exact timeline limit size message rest isControl ih

theorem firstPage_isPrefix (rows : List Message) : firstPage limit size rows <+: rows := by
  refine firstPage_induction (fun _ _ rows page => page <+: rows) (fun _ _ => List.nil_prefix)
    (fun _ _ => List.nil_prefix) (fun _ _ _ _ => List.nil_prefix) ?_ ?_ rows
  · intro _ _ message _ _ ih
    exact (List.prefix_cons_inj message).mpr ih
  · intro _ _ message _ _ ih
    exact (List.prefix_cons_inj message).mpr ih

theorem timelineRows_firstPage_le (rows : List Message) :
    timelineRows (firstPage limit size rows) ≤ limit := by
  refine firstPage_induction (fun limit _ _ page => timelineRows page ≤ limit)
    (fun _ _ => Nat.zero_le _) (fun _ _ => Nat.zero_le _) (fun _ _ _ _ => Nat.zero_le _) ?_ ?_ rows
  · intro _ _ message _ isControl ih
    simpa [timelineRows, isControl] using ih
  · intro _ _ message _ isRow ih
    simpa [timelineRows, isRow] using ih

theorem firstPage_ne_nil (someTimeline : 0 < limit) (someRows : 0 < size) (isSome : rows ≠ []) :
    firstPage limit size rows ≠ [] := by
  obtain ⟨message, rest, rfl⟩ := List.exists_cons_of_ne_nil isSome
  obtain ⟨limit, rfl⟩ := Nat.exists_eq_succ_of_ne_zero someTimeline.ne'
  obtain ⟨size, rfl⟩ := Nat.exists_eq_succ_of_ne_zero someRows.ne'
  cases isControl : isEvent message with
  | true =>
    rw [firstPage_event isControl]
    exact List.cons_ne_nil _ _
  | false =>
    rw [firstPage_timeline isControl]
    exact List.cons_ne_nil _ _

theorem length_firstPage_eq_iff (rows : List Message) :
    (firstPage limit size rows).length = size ↔
      size ≤ rows.length ∧ timelineRows (rows.take size) ≤ limit := by
  refine firstPage_induction (fun limit size rows page =>
    page.length = size ↔ size ≤ rows.length ∧ timelineRows (rows.take size) ≤ limit)
    ?_ ?_ ?_ ?_ ?_ rows
  · intro _ size
    cases size <;> simp [timelineRows]
  · intro _ _
    simp [timelineRows]
  · intro _ message rest isRow
    simp [timelineRows, isRow]
  · intro _ _ message _ isControl ih
    simpa [timelineRows, isControl] using ih
  · intro _ _ message _ isRow ih
    simpa [timelineRows, isRow] using ih

end Pass

variable {limit : Nat} {rows : List Message} {batch size : Nat}
  {read : Option Int → Except StorageError (List Message)} {cursor : Option Int} {count fuel : Nat}
  {rest : List Message} {timeline : Nat} {storage : InMemoryStorage} {groupId : String}
  {page : List Message × Bool}

theorem batches_eq (some : 0 < batch) (below : count * batch < size)
    (above : size ≤ (count + 1) * batch) : (size + batch - 1) / batch = count + 1 := by
  have first : (count + 1) * batch = count * batch + batch := Nat.succ_mul _ _
  have next : (count + 1 + 1) * batch = (count + 1) * batch + batch := Nat.succ_mul _ _
  exact Nat.div_eq_of_lt_le (by omega) (by omega)

/-- What a loop gives for what a pass over all the rows would come to. -/
def verdict (read total : Nat) : Scan → List Message × Bool
  | .ended out => (out, true)
  | .full out => (out, decide (read ≤ total))
  | .goOn out _ _ => (out, false)

/-- **The loop over the batches is a pass over the rows**, but that it takes a page of the
largest size to be the last one if its last batch is short. -/
theorem collect_eq (someRows : 0 < batch)
    (reads : Cursor.Serves read place (fun rest => .ok (rest.take batch)) cursor rest)
    (few : timeline ≤ limit) (isBatches : rows.length = count * batch) (short : rows.length < size)
    (enough : size - rows.length ≤ fuel) :
    collect read limit batch size fuel rows cursor timeline =
      some (.ok (verdict ((size + batch - 1) / batch * batch) (rows.length + rest.length)
        (scan limit size rest rows cursor timeline))) := by
  induction fuel generalizing rows rest cursor timeline count with
  | zero => omega
  | succ fuel ih =>
    have split : rest.take batch ++ rest.drop batch = rest := List.take_append_drop batch rest
    have isScan := scan_append limit size (rest.take batch) (rest.drop batch) rows cursor timeline
    rw [split] at isScan
    have outcome := scan_outcome (rest.take batch) cursor few short
    have chunkLength : (rest.take batch).length = min batch rest.length := List.length_take
    rw [collect, reads.head]
    dsimp only
    cases isChunk : scan limit size (rest.take batch) rows cursor timeline with
    | ended =>
      rw [isChunk] at isScan
      rw [isScan]
      rfl
    | full out =>
      rw [isChunk] at isScan outcome
      obtain ⟨-, isSize, above⟩ := outcome
      have isLast : (size + batch - 1) / batch = count + 1 := by
        refine batches_eq someRows (by omega) ?_
        rw [Nat.succ_mul]
        omega
      rw [isScan]
      show some (Except.ok (out, _)) = some (.ok (out, _))
      rw [isLast, Nat.succ_mul]
      have isFull : out.length ≥ size := isSize.ge
      simp only [isFull, decide_true, Bool.true_and]
      congr 3
      rw [← decide_not]
      exact decide_eq_decide.mpr (by omega)
    | goOn out last =>
      rw [isChunk] at isScan outcome
      obtain ⟨-, isOut, below, isPlace, stillFew⟩ := outcome
      have notFull : ¬out.length ≥ size := by omega
      by_cases exhausted : (rest.take batch).length < batch
      · have isAll : rest.take batch = rest := List.take_of_length_le (by omega)
        have noRest : rest.drop batch = [] := List.drop_eq_nil_of_le (by omega)
        rw [isScan, noRest]
        simp only [exhausted, decide_true, if_true, notFull, decide_false, Bool.false_and]
        rfl
      have isBatch : (rest.take batch).length = batch := by omega
      simp only [exhausted, decide_false, Bool.false_eq_true, if_false]
      have readsRest : Cursor.Serves read place (fun rest => .ok (rest.take batch)) last
          (rest.drop batch) := by
        rw [isPlace]
        refine Cursor.Serves.drop ?_
        rw [split]
        exact reads
      have longer : out.length = rows.length + batch := by rw [isOut, List.length_append, isBatch]
      have grown : out.length = (count + 1) * batch := by rw [longer, isBatches, Nat.succ_mul]
      have sameTotal : out.length + (rest.drop batch).length = rows.length + rest.length := by
        rw [List.length_drop]
        omega
      rw [ih readsRest stillFew grown below (by omega), isScan, sameTotal]

theorem batchSize_pos (limit : Nat) : 0 < batchSize limit :=
  Nat.lt_of_lt_of_le (Nat.succ_pos limit) (Nat.le_max_left _ _)

theorem maxRows_pos (limit : Nat) : 0 < maxRows limit := by
  unfold maxRows
  omega

theorem collect_page
    (reads : Cursor.Serves read place (fun rest => .ok (rest.take (batchSize limit))) cursor rest) :
    collect read limit (batchSize limit) (maxRows limit) (maxRows limit) [] cursor 0 =
      some (.ok (firstPage limit (maxRows limit) rest, hasNext limit rest)) := by
  have short : ([] : List Message).length < maxRows limit := maxRows_pos limit
  have enough : maxRows limit - ([] : List Message).length ≤ maxRows limit := Nat.sub_le _ _
  have noBatch : ([] : List Message).length = 0 * batchSize limit := by simp
  have isPass := collect_eq (batchSize_pos limit) reads (Nat.zero_le limit) noBatch short enough
  have outcome := scan_outcome rest cursor (Nat.zero_le limit) short
  rw [isPass, ← rowsRead]
  unfold hasNext
  dsimp only
  cases isScan : scan limit (maxRows limit) rest [] cursor 0 with
  | ended =>
    rw [isScan] at outcome
    obtain ⟨isOut, below, less⟩ := outcome
    simp only [List.nil_append, List.length_nil, Nat.sub_zero, Nat.zero_add] at isOut less
    rw [← isOut, if_neg below.ne]
    simp [verdict, less]
  | full =>
    rw [isScan] at outcome
    obtain ⟨isOut, isSize, -⟩ := outcome
    simp only [List.nil_append, List.length_nil, Nat.sub_zero] at isOut
    rw [← isOut, if_pos isSize]
    simp [verdict]
  | goOn =>
    rw [isScan] at outcome
    obtain ⟨isAll, isOut, below, -⟩ := outcome
    simp only [List.nil_append, List.length_nil, Nat.sub_zero] at isAll isOut
    rw [isOut] at below
    rw [isAll, if_neg below.ne]
    simp [verdict, isOut]

/-! ## The windows -/

section Windows

open InMemoryStorage

variable {storage : InMemoryStorage} {groupId : String} {afterOrder beforeOrder : Option Int}

def DistinctOrders (storage : InMemoryStorage) (groupId : String) : Prop :=
  (storage.messages.filter (·.groupId == groupId)).Pairwise fun left right =>
    orderKey left ≠ orderKey right

instance (storage : InMemoryStorage) (groupId : String) :
    Decidable (DistinctOrders storage groupId) :=
  inferInstanceAs (Decidable (List.Pairwise _ _))

theorem inWindow_iff {message : Message} : inWindow afterOrder beforeOrder message = true ↔
    (∀ after ∈ afterOrder, after < orderKey message) ∧
      ∀ before ∈ beforeOrder, orderKey message < before := by
  cases afterOrder <;> cases beforeOrder <;> simp [inWindow]

theorem mem_window {message : Message} :
    message ∈ storage.window groupId afterOrder beforeOrder ↔
      (message ∈ storage.messages ∧ message.groupId = groupId) ∧
        (∀ after ∈ afterOrder, after < orderKey message) ∧
          ∀ before ∈ beforeOrder, orderKey message < before := by
  rw [window, List.mem_insertionSort, List.mem_filter, List.mem_filter, beq_iff_eq, inWindow_iff]

theorem window_increasing (afterOrder beforeOrder : Option Int)
    (distinct : DistinctOrders storage groupId) :
    (storage.window groupId afterOrder beforeOrder).Pairwise fun left right =>
      orderKey left < orderKey right := by
  have ordered := List.pairwise_insertionSort
    (fun left right : Message => orderKey left ≤ orderKey right)
    ((storage.messages.filter (·.groupId == groupId)).filter (inWindow afterOrder beforeOrder))
  have apart := (distinct.filter (inWindow afterOrder beforeOrder)).perm
    (List.perm_insertionSort (fun left right => orderKey left ≤ orderKey right) _).symm
    fun differ => differ.symm
  exact (ordered.and apart).imp fun both => lt_of_le_of_ne both.1 both.2

theorem increasing_ext {left right : List Message}
    (isLeft : left.Pairwise fun first second => orderKey first < orderKey second)
    (isRight : right.Pairwise fun first second => orderKey first < orderKey second)
    (same : ∀ message, message ∈ left ↔ message ∈ right) : left = right := by
  have nodup : ∀ {rows : List Message},
      rows.Pairwise (fun first second => orderKey first < orderKey second) → rows.Nodup := by
    intro rows increasing
    exact increasing.imp fun below isSame => absurd (isSame ▸ below) (lt_irrefl _)
  have isPerm := (List.perm_ext_iff_of_nodup (nodup isLeft) (nodup isRight)).mpr same
  exact isPerm.eq_of_pairwise (fun _ _ _ _ below above => absurd below above.not_gt) isLeft isRight

variable {done rest : List Message}

section

variable (distinct : DistinctOrders storage groupId)
include distinct

theorem window_after {last : Message}
    (split : storage.window groupId afterOrder beforeOrder = done ++ rest)
    (isLast : done.getLast? = some last) :
    storage.window groupId (some (orderKey last)) beforeOrder = rest := by
  have increasing := window_increasing afterOrder beforeOrder distinct
  rw [split] at increasing
  obtain ⟨isDone, isRest, apart⟩ := List.pairwise_append.mp increasing
  obtain ⟨before, rfl⟩ := List.getLast?_eq_some_iff.mp isLast
  have lastDone : last ∈ before ++ [last] := List.mem_append_right _ (List.mem_singleton_self _)
  have isRow : ∀ {message}, message ∈ before ++ [last] ∨ message ∈ rest ↔
      message ∈ storage.window groupId afterOrder beforeOrder := by
    intro message
    rw [split]
    exact List.mem_append.symm
  obtain ⟨-, lastAbove, -⟩ := mem_window.mp (isRow.mp (.inl lastDone))
  refine increasing_ext (window_increasing _ _ distinct) isRest fun message => ?_
  constructor
  · intro isIn
    obtain ⟨isGroup, above, below⟩ := mem_window.mp isIn
    have above : orderKey last < orderKey message := above _ rfl
    have isIn : message ∈ storage.window groupId afterOrder beforeOrder :=
      mem_window.mpr ⟨isGroup, fun after isAfter => (lastAbove after isAfter).trans above, below⟩
    refine (isRow.mpr isIn).resolve_left fun isOld => ?_
    -- a row read before is not above the last one
    rcases List.mem_append.mp isOld with isOld | isLast
    · have ordered := (List.pairwise_append.mp isDone).2.2 message isOld last
        (List.mem_singleton_self _)
      exact absurd ordered above.not_gt
    · rw [List.mem_singleton.mp isLast] at above
      exact lt_irrefl _ above
  intro isIn
  obtain ⟨isGroup, -, below⟩ := mem_window.mp (isRow.mp (.inr isIn))
  refine mem_window.mpr ⟨isGroup, fun after isAfter => ?_, below⟩
  cases isAfter
  exact apart last lastDone message isIn

theorem window_before {last : Message}
    (split : (storage.window groupId none beforeOrder).reverse = done ++ rest)
    (isLast : done.getLast? = some last) :
    (storage.window groupId none (some (orderKey last))).reverse = rest := by
  have increasing := window_increasing none beforeOrder distinct
  have cut : storage.window groupId none beforeOrder = rest.reverse ++ done.reverse := by
    rw [← List.reverse_append, ← split, List.reverse_reverse]
  rw [cut] at increasing
  obtain ⟨isRest, isDone, apart⟩ := List.pairwise_append.mp increasing
  obtain ⟨before, rfl⟩ := List.getLast?_eq_some_iff.mp isLast
  rw [List.reverse_append, List.reverse_singleton, List.singleton_append] at cut isDone apart
  have isRow : ∀ {message}, message ∈ rest.reverse ∨ message ∈ last :: before.reverse ↔
      message ∈ storage.window groupId none beforeOrder := by
    intro message
    rw [cut]
    exact List.mem_append.symm
  obtain ⟨-, -, lastBelow⟩ := mem_window.mp (isRow.mp (.inr List.mem_cons_self))
  rw [List.reverse_eq_iff]
  refine increasing_ext (window_increasing _ _ distinct) isRest fun message => ?_
  constructor
  · intro isIn
    obtain ⟨isGroup, above, below⟩ := mem_window.mp isIn
    have below : orderKey message < orderKey last := below _ rfl
    have isIn : message ∈ storage.window groupId none beforeOrder :=
      mem_window.mpr ⟨isGroup, above, fun before isBefore =>
        below.trans (lastBelow before isBefore)⟩
    refine (isRow.mpr isIn).resolve_right fun isOld => ?_
    rcases List.mem_cons.mp isOld with rfl | isOld
    · exact lt_irrefl _ below
    · exact absurd ((List.pairwise_cons.mp isDone).1 message isOld) below.not_gt
  intro isIn
  obtain ⟨isGroup, above, -⟩ := mem_window.mp (isRow.mp (.inl isIn))
  refine mem_window.mpr ⟨isGroup, above, fun before isBefore => ?_⟩
  cases isBefore
  exact apart message isIn last List.mem_cons_self

theorem window_forward {after : Int}
    (split : storage.window groupId (some after) beforeOrder = done ++ rest) :
    storage.window groupId (Cursor.after place (some after) done) beforeOrder = rest := by
  cases isLast : done.getLast? with
  | none =>
    rw [List.getLast?_eq_none_iff.mp isLast] at split ⊢
    exact split
  | some =>
    rw [Cursor.after_of_getLast? isLast]
    exact window_after distinct split isLast

theorem window_backward (split : (storage.window groupId none beforeOrder).reverse = done ++ rest) :
    (storage.window groupId none (Cursor.after place beforeOrder done)).reverse = rest := by
  cases isLast : done.getLast? with
  | none =>
    rw [List.getLast?_eq_none_iff.mp isLast] at split ⊢
    exact split
  | some =>
    rw [Cursor.after_of_getLast? isLast]
    exact window_before distinct split isLast

end

theorem after_eq_some (after : Int) (done : List Message) :
    ∃ cursor, Cursor.after place (some after) done = some cursor := by
  unfold Cursor.after
  cases done.getLast? with
  | none => exact ⟨after, rfl⟩
  | some last => exact ⟨orderKey last, rfl⟩

theorem reads_forward (distinct : DistinctOrders storage groupId)
    (intact : storage.poisoned .messages = false) (after : Int) (beforeOrder : Option Int)
    (batch : Nat) :
    Cursor.Serves (fun cursor => storage.getMessagesByGroup groupId cursor beforeOrder batch) place
      (fun rest => .ok (rest.take batch)) (some after)
      (storage.window groupId (some after) beforeOrder) := by
  intro done rest split
  have isRest := window_forward distinct split
  obtain ⟨cursor, isCursor⟩ := after_eq_some after done
  show storage.getMessagesByGroup groupId
    (Cursor.after place (some after) done) beforeOrder batch = _
  rw [isCursor] at isRest ⊢
  rw [getMessagesByGroup, intact]
  simp [isRest]

theorem reads_backward (distinct : DistinctOrders storage groupId)
    (intact : storage.poisoned .messages = false) (beforeOrder : Option Int) (batch : Nat) :
    Cursor.Serves (fun cursor =>
        (storage.getMessagesByGroup groupId none cursor batch).map List.reverse) place
      (fun rest => .ok (rest.take batch)) beforeOrder
      (storage.window groupId none beforeOrder).reverse := by
  intro done rest split
  have isRest := window_backward distinct split
  show (storage.getMessagesByGroup groupId none _ batch).map List.reverse = _
  rw [getMessagesByGroup, intact, ← isRest]
  show _ = Except.ok (List.take batch (List.reverse _))
  rw [List.take_reverse]
  rfl

/-! ## Paging through a log -/

/-- The answer of a page request, if it is one. -/
def answer {β : Type} (result : Option (Except StorageError β)) : Option β :=
  result.bind Except.toOption

/-- A request for the page after a cursor. -/
def askForward (storage : InMemoryStorage) (groupId : String) (beforeOrder : Option Int)
    (limit : Nat) (cursor : Option Int) : Option (List Message × Bool) :=
  cursor.bind fun after => answer (fetchPage storage groupId (some after) beforeOrder limit)

/-- A request for the page before a cursor, its rows newest first. -/
def askBackward (storage : InMemoryStorage) (groupId : String) (limit : Nat)
    (cursor : Option Int) : Option (List Message × Bool) :=
  (answer (fetchPage storage groupId none cursor limit)).map fun page => (page.1.reverse, page.2)

/-- The page of the rows that are left, and its flag. -/
def servePage (limit : Nat) (rest : List Message) : Option (List Message × Bool) :=
  some (firstPage limit (maxRows limit) rest, hasNext limit rest)

section

variable (distinct : DistinctOrders storage groupId)
include distinct

theorem fetchPage_forward (intact : storage.poisoned .messages = false) (after : Int)
    (beforeOrder : Option Int) (limit : Nat) :
    Cursor.Serves (askForward storage groupId beforeOrder limit) place (servePage (max limit 1))
      (some after) (storage.window groupId (some after) beforeOrder) := by
  intro done rest split
  obtain ⟨cursor, isCursor⟩ := after_eq_some after done
  have reads := reads_forward distinct intact after beforeOrder (batchSize (max limit 1))
  rw [split] at reads
  have reads := reads.drop
  rw [isCursor] at reads ⊢
  rw [askForward, Option.bind_some, fetchPage]
  rw [collect_page reads]
  rfl

theorem fetchPage_backward (intact : storage.poisoned .messages = false) (beforeOrder : Option Int)
    (limit : Nat) :
    Cursor.Serves (askBackward storage groupId limit) place (servePage (max limit 1)) beforeOrder
      (storage.window groupId none beforeOrder).reverse := by
  intro done rest split
  have reads := reads_backward distinct intact beforeOrder (batchSize (max limit 1))
  rw [split] at reads
  have reads := reads.drop
  rw [askBackward, fetchPage]
  rw [collect_page reads]
  simp [answer, servePage, Except.toOption, Except.map]

/-- **The page of a request**, both ways. -/
theorem fetchPage_eq (intact : storage.poisoned .messages = false) (beforeOrder : Option Int)
    (limit : Nat) :
    (∀ after, askForward storage groupId beforeOrder limit (some after) =
        servePage (max limit 1) (storage.window groupId (some after) beforeOrder)) ∧
      askBackward storage groupId limit beforeOrder =
        servePage (max limit 1) (storage.window groupId none beforeOrder).reverse :=
  ⟨fun after => (fetchPage_forward distinct intact after beforeOrder limit).head,
    (fetchPage_backward distinct intact beforeOrder limit).head⟩

end

end Windows

/-! ### When the flag is right -/

section Flag

variable {limit : Nat}

theorem maxRows_le_rowsRead (limit : Nat) : maxRows limit ≤ rowsRead limit := by
  unfold rowsRead
  have some := batchSize_pos limit
  have whole := Nat.div_add_mod (maxRows limit + batchSize limit - 1) (batchSize limit)
  have rest := Nat.mod_lt (maxRows limit + batchSize limit - 1) some
  rw [Nat.mul_comm] at whole
  omega

theorem servePage_cuts (someTimeline : 0 < limit) : Cursor.Cuts (servePage limit) where
  isPrefix := by
    intro rest page more isPage
    cases isPage
    exact firstPage_isPrefix rest
  nonempty := by
    intro rest page more isPage isSome
    cases isPage
    exact firstPage_ne_nil someTimeline (maxRows_pos limit) isSome

theorem right_iff (rest : List Message) :
    Cursor.Right (servePage limit) rest ↔ ¬Misjudged limit rest := by
  have isPrefix : (firstPage limit (maxRows limit) rest).length ≤ rest.length :=
    (firstPage_isPrefix rest).length_le
  have isLargest : (firstPage limit (maxRows limit) rest).length = maxRows limit ↔
      maxRows limit ≤ rest.length ∧ timelineRows (rest.take (maxRows limit)) ≤ limit :=
    length_firstPage_eq_iff rest
  have covered := maxRows_le_rowsRead limit
  have unfolded : Cursor.Right (servePage limit) rest ↔
      (hasNext limit rest = true ↔
        (firstPage limit (maxRows limit) rest).length < rest.length) := by
    constructor
    · rintro ⟨page, more, isPage, right⟩
      cases isPage
      exact right
    · intro right
      exact ⟨_, _, rfl, right⟩
  rw [unfolded]
  unfold hasNext Misjudged
  dsimp only
  by_cases largest : (firstPage limit (maxRows limit) rest).length = maxRows limit
  · rw [if_pos largest, decide_eq_true_eq, largest]
    have few := (isLargest.mp largest).2
    simp only [few, true_and]
    omega
  rw [if_neg largest, decide_eq_true_eq]
  simp only [true_iff, iff_self]
  rintro ⟨few, ⟨more, -⟩ | ⟨all, -⟩⟩
  · exact largest (isLargest.mpr ⟨more.le, few⟩)
  · exact largest (isLargest.mpr ⟨all.ge, few⟩)

theorem next_servePage : Cursor.next (servePage limit) = afterPage limit := rfl

theorem right_nil (limit : Nat) : Cursor.Right (servePage limit) [] :=
  ⟨_, _, rfl, by
    have isNil : firstPage limit (maxRows limit) [] = [] := by simp [firstPage]
    have notFull : ¬0 = maxRows limit := (maxRows_pos limit).ne
    simp [hasNext, isNil, notFull]⟩

end Flag

/-- A client pages through some rows: it comes to an end, its pages are the rows, each once and
in order, each flag says whether a row is still to come, and no page has more rows of the
timeline than were asked for. -/
def PagesThrough (limit : Nat) (ask : Option Int → Option (List Message × Bool))
    (start : Option Int) (rows : List Message) : Prop :=
  ∃ fuel pages, Cursor.walk ask place fuel start = some pages ∧ Cursor.Enumerates rows pages ∧
    ∀ page ∈ pages, timelineRows page.1 ≤ limit

theorem pagesThrough_iff {ask : Option Int → Option (List Message × Bool)} {start : Option Int}
    (serves : Cursor.Serves ask place (servePage (max limit 1)) start rows)
    (bounded : ∀ cursor page, ask cursor = some page → timelineRows page.1 ≤ max limit 1)
    (distinct : rows.Nodup) :
    PagesThrough (max limit 1) ask start rows ↔
      ∀ count, ¬Misjudged (max limit 1) ((afterPage (max limit 1))^[count] rows) := by
  have cuts := servePage_cuts (Nat.le_max_right limit 1)
  have isWalk := Cursor.walk_enumerates_iff cuts (Cursor.Serves.follows cuts) serves (right_nil _)
    distinct
  rw [next_servePage] at isWalk
  simp only [right_iff] at isWalk
  rw [← isWalk]
  constructor
  · rintro ⟨fuel, pages, walked, enumerates, -⟩
    exact ⟨fuel, pages, walked, enumerates⟩
  rintro ⟨fuel, pages, walked, enumerates⟩
  refine ⟨fuel, pages, walked, enumerates, fun page isIn => ?_⟩
  obtain ⟨cursor, isPage⟩ := Cursor.mem_walk walked page isIn
  exact bounded cursor page isPage

theorem nodup_window (distinct : DistinctOrders storage groupId)
    (afterOrder beforeOrder : Option Int) :
    (storage.window groupId afterOrder beforeOrder).Nodup :=
  (window_increasing afterOrder beforeOrder distinct).imp
    fun below isSame => absurd (isSame ▸ below) (lt_irrefl _)

section Directions

variable {storage : InMemoryStorage} {groupId : String}

theorem forward_pagesThrough_iff (distinct : DistinctOrders storage groupId)
    (intact : storage.poisoned .messages = false) (after : Int) (beforeOrder : Option Int)
    (limit : Nat) :
    PagesThrough (max limit 1) (askForward storage groupId beforeOrder limit) (some after)
        (storage.window groupId (some after) beforeOrder) ↔
      ∀ count, ¬Misjudged (max limit 1)
        ((afterPage (max limit 1))^[count] (storage.window groupId (some after) beforeOrder)) := by
  refine pagesThrough_iff (fetchPage_forward distinct intact after beforeOrder limit) ?_
    (nodup_window distinct _ _)
  intro cursor page isPage
  cases cursor with
  | none => cases isPage
  | some cursor =>
    cases (fetchPage_eq distinct intact beforeOrder limit).1 cursor ▸ isPage
    exact timelineRows_firstPage_le _

theorem backward_pagesThrough_iff (distinct : DistinctOrders storage groupId)
    (intact : storage.poisoned .messages = false) (beforeOrder : Option Int) (limit : Nat) :
    PagesThrough (max limit 1) (askBackward storage groupId limit) beforeOrder
        (storage.window groupId none beforeOrder).reverse ↔
      ∀ count, ¬Misjudged (max limit 1)
        ((afterPage (max limit 1))^[count] (storage.window groupId none beforeOrder).reverse) := by
  refine pagesThrough_iff (fetchPage_backward distinct intact beforeOrder limit) ?_
    (List.nodup_reverse.mpr (nodup_window distinct _ _))
  intro cursor page isPage
  cases (fetchPage_eq distinct intact cursor limit).2 ▸ isPage
  exact timelineRows_firstPage_le _

end Directions

/-- **Paging is right exactly if no page begins where the flag is misjudged.**  From any order
upwards and from any order or the tip downwards: a walk through the pages comes to an end and
gives each row of the window once and in order, with the flag set exactly if a row is still to
come and no page with too many rows of the timeline, if and only if at none of the places where
a page begins the rows that are left are misjudged. -/
theorem paging_enumerates_iff (storage : InMemoryStorage) (groupId : String)
    (beforeOrder : Option Int) (limit : Nat)
    (distinct : DistinctOrders storage groupId) (intact : storage.poisoned .messages = false) :
    (∀ after, PagesThrough (max limit 1) (askForward storage groupId beforeOrder limit)
        (some after) (storage.window groupId (some after) beforeOrder) ↔
      ∀ count, ¬Misjudged (max limit 1)
        ((afterPage (max limit 1))^[count] (storage.window groupId (some after) beforeOrder))) ∧
    (PagesThrough (max limit 1) (askBackward storage groupId limit) beforeOrder
        (storage.window groupId none beforeOrder).reverse ↔
      ∀ count, ¬Misjudged (max limit 1)
        ((afterPage (max limit 1))^[count] (storage.window groupId none beforeOrder).reverse)) :=
  ⟨fun after => forward_pagesThrough_iff distinct intact after beforeOrder limit,
    backward_pagesThrough_iff distinct intact beforeOrder limit⟩

theorem not_misjudged_of_short (short : rows.length < maxRows limit) (count : Nat) :
    ¬Misjudged limit ((afterPage limit)^[count] rows) := by
  have shorter : ((afterPage limit)^[count] rows).length ≤ rows.length := by
    induction count with
    | zero => exact Nat.le_refl _
    | succ count ih =>
      rw [Function.iterate_succ_apply']
      refine le_trans ?_ ih
      rw [afterPage, List.length_drop]
      exact Nat.sub_le _ _
  rintro ⟨-, ⟨more, -⟩ | ⟨all, -⟩⟩ <;> omega

/-! ## The rows of a page

Whatever orders the rows have, a page has rows of its group only.
-/

/-- What a pass has taken, and what is to be said of all of it. -/
def Scan.All (holds : Message → Prop) : Scan → Prop
  | .ended rows | .full rows | .goOn rows _ _ => ∀ row ∈ rows, holds row

theorem scan_all {holds : Message → Prop} (limit size : Nat) (chunk : List Message)
    (cursor : Option Int) (timeline : Nat) (isChunk : ∀ row ∈ chunk, holds row)
    (isRows : ∀ row ∈ rows, holds row) :
    (scan limit size chunk rows cursor timeline).All holds := by
  induction chunk generalizing rows cursor timeline with
  | nil => exact isRows
  | cons message chunk ih =>
    have grown : ∀ row ∈ rows ++ [message], holds row := by
      intro row isRow
      rcases List.mem_append.mp isRow with isOld | isNew
      · exact isRows row isOld
      · exact isChunk row (by simp [List.mem_singleton.mp isNew])
    rw [scan]
    generalize (if isEvent message then timeline else timeline + 1) = counted
    split_ifs
    · exact isRows
    · exact grown
    · exact ih _ _ (fun row isRow => isChunk row (List.mem_cons_of_mem _ isRow)) grown

theorem collect_all (holds : Message → Prop)
    (isRead : ∀ cursor chunk, read cursor = .ok chunk → ∀ row ∈ chunk, holds row)
    (isRows : ∀ row ∈ rows, holds row)
    (collected : collect read limit batch size fuel rows cursor timeline = some (.ok page)) :
    ∀ row ∈ page.1, holds row := by
  induction fuel generalizing rows cursor timeline with
  | zero => cases collected
  | succ fuel ih =>
    rw [collect] at collected
    cases isChunk : read cursor with
    | error => cases isChunk ▸ collected
    | ok chunk =>
      have all := scan_all limit size chunk cursor timeline (isRead cursor chunk isChunk) isRows
      rw [isChunk] at collected
      dsimp only at collected
      cases isScan : scan limit size chunk rows cursor timeline with
      | ended | full =>
        rw [isScan] at collected all
        cases collected
        exact all
      | goOn =>
        rw [isScan] at collected all
        dsimp only at collected
        split_ifs at collected
        · cases collected
          exact all
        · exact ih all collected

theorem fetchPage_groupId {afterOrder beforeOrder : Option Int}
    (fetched : fetchPage storage groupId afterOrder beforeOrder limit = some (.ok page)) :
    ∀ row ∈ page.1, row.groupId = groupId := by
  have isRead : ∀ after before size chunk,
      storage.getMessagesByGroup groupId after before size = .ok chunk →
        ∀ row ∈ chunk, row.groupId = groupId := by
    intro after before size chunk read row isRow
    unfold InMemoryStorage.getMessagesByGroup at read
    split_ifs at read
    · cases read
      exact (mem_window.mp (List.mem_of_mem_drop isRow)).1.2
    · cases read
      exact (mem_window.mp (List.mem_of_mem_take isRow)).1.2
  unfold fetchPage at fetched
  cases afterOrder with
  | some =>
    exact collect_all _ (fun cursor chunk read => isRead cursor beforeOrder _ chunk read) (by simp)
      fetched
  | none =>
    rw [Option.map_eq_some_iff] at fetched
    obtain ⟨collected, isCollected, isPage⟩ := fetched
    cases collected with
    | error => cases isPage
    | ok =>
      cases isPage
      intro row isRow
      refine collect_all (fun row => row.groupId = groupId) ?_ (by simp) isCollected row
        (List.mem_reverse.mp isRow)
      intro cursor chunk read row isRow
      cases isBatch : storage.getMessagesByGroup groupId none cursor (batchSize (max limit 1)) with
      | error => cases isBatch ▸ read
      | ok batch =>
        cases isBatch ▸ read
        exact isRead none cursor _ batch isBatch row (List.mem_reverse.mp isRow)

/-! ### A burst of events -/

def sampleRow (order : Int) (kind : MessageKind) : Message :=
  { Message.withAttribution order.toNat 0 "0xgroup" "0xsender" [1] [] 0 [] [] [] .humanMessage kind
      none with order := some order }

/-- A log of so many rows. -/
def sampleLog (kind : Nat → MessageKind) (count : Nat) : InMemoryStorage :=
  { InMemoryStorage.new with
    messages := (List.range count).map fun place : Nat =>
      sampleRow ((place : Int) + 1) (kind place) }

theorem sampleLog_distinct (kind : Nat → MessageKind) (count : Nat) :
    DistinctOrders (sampleLog kind count) "0xgroup" := by
  refine List.Pairwise.filter _ (List.pairwise_map.mpr ?_)
  refine List.pairwise_lt_range.imp fun {left right} below => ?_
  show (left : Int) + 1 ≠ right + 1
  omega

theorem window_sampleLog (kind : Nat → MessageKind) (count : Nat) :
    (sampleLog kind count).window "0xgroup" (some 0) none = (sampleLog kind count).messages := by
  have every : ∀ row ∈ (sampleLog kind count).messages, ∃ place : Nat,
      row = sampleRow (place + 1) (kind place) := by
    intro row isIn
    obtain ⟨place, -, rfl⟩ := List.mem_map.mp isIn
    exact ⟨place, rfl⟩
  rw [InMemoryStorage.window, List.filter_eq_self.mpr, List.filter_eq_self.mpr]
  · refine List.Pairwise.insertionSort_eq (List.pairwise_map.mpr ?_)
    refine List.pairwise_lt_range.imp fun {left right} below => ?_
    show (left : Int) + 1 ≤ right + 1
    omega
  · intro row isIn
    obtain ⟨place, rfl⟩ := every row isIn
    exact beq_self_eq_true _
  intro row isIn
  obtain ⟨place, rfl⟩ := every row (List.mem_of_mem_filter isIn)
  show decide ((0 : Int) < place + 1) = true
  simp only [decide_eq_true_eq]
  omega

def burst : InMemoryStorage := sampleLog (fun place => if place = 0 then .message else .event) 510

/-- **A page of one message says that there is no more, and eight rows are left.** -/
theorem burst_ends_early :
    (askForward burst "0xgroup" none 1 (some 0)).map (fun page => (page.1.length, page.2)) =
        some (502, false) ∧
      (burst.window "0xgroup" (some 0) none).length = 510 ∧
      ¬PagesThrough 1 (askForward burst "0xgroup" none 1) (some 0)
        (burst.window "0xgroup" (some 0) none) := by
  have isWindow : burst.window "0xgroup" (some 0) none = burst.messages := window_sampleLog _ _
  have distinct : DistinctOrders burst "0xgroup" := sampleLog_distinct _ _
  rw [(fetchPage_eq distinct rfl none 1).1 0, isWindow]
  refine ⟨by decide +kernel, by decide +kernel, fun paged => ?_⟩
  have isIff := forward_pagesThrough_iff distinct rfl 0 none 1
  rw [isWindow] at isIff
  have misjudged : Misjudged 1 burst.messages := by decide +kernel
  exact isIff.mp paged 0 misjudged

/-- Two messages, an event between them and one after. -/
def quiet : InMemoryStorage :=
  { InMemoryStorage.new with
    messages := [sampleRow 2 .event, sampleRow 1 .message, sampleRow 3 .message,
      sampleRow 4 .event] }

theorem quiet_pagesThrough :
    PagesThrough 1 (askForward quiet "0xgroup" none 1) (some 0)
        (quiet.window "0xgroup" (some 0) none) ∧
      PagesThrough 1 (askBackward quiet "0xgroup" 1) none
        (quiet.window "0xgroup" none none).reverse := by
  have paged := paging_enumerates_iff quiet "0xgroup" none 1 (by decide +kernel) rfl
  refine ⟨(paged.1 0).mpr ?_, paged.2.mpr ?_⟩
  · exact not_misjudged_of_short (by decide +kernel)
  · exact not_misjudged_of_short (by decide +kernel)

end Paging

end Relayer

end MessagingStack

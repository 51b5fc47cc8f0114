import MessagingStack.App.OpenThread

/-!
# The rows that stand in an open thread

The invariant of a mounted hook (`HookInv`) says that the rows which stand in its list make a
set without a gap (`Base/Gapless`), that every cursor in use is reached in this set, and that
every pending mark lies at or below a row of it.

Whatever joins the list is a longer list (`Extends`): rows that go on behind a cursor, rows
that end at a bound, or a confirmed send that is not put in the place of a row that has not
come.  A longer list keeps the invariant (`HookInv.extend`), and so does what the hook does
with its marks (`Posts`): each value it posts is at or below a row that stands, hence
covered by the list (`Sound.covered`).
-/

namespace MessagingStack.App.Thread

/-! ## Lists -/

/-- **The list covers a value**: the relayer has assigned it, and every timeline row up to
it, from the smallest order in the list on, is in the list. -/
def Covered (log : List Bool) (value : Nat) (messages : List Message) : Prop :=
  value ≤ log.length ∧
    ∀ order ∈ Timeline log, order ≤ value → (∃ message ∈ messages, message.order ≤ order) →
      ∃ message ∈ messages, message.messageId = .relayer order

/-- No local row lies below the rows that stand. -/
def NoneBelow (messages : List Message) : Prop :=
  ∀ message ∈ messages, ∃ p ∈ Stands messages, p ≤ message.order

/-- No local row lies above the rows that stand. -/
def NoneAbove (messages : List Message) : Prop :=
  ∀ message ∈ messages, ∃ q ∈ Stands messages, message.order ≤ q

/-- The order lies between two rows that stand. -/
def Between (messages : List Message) (order : Nat) : Prop :=
  (∃ p ∈ Stands messages, p ≤ order) ∧ ∃ q ∈ Stands messages, order ≤ q

/-! ## The invariant -/

/-- Two rows of one identifier are one. -/
def Single (messages : List Message) : Prop :=
  ∀ m ∈ messages, ∀ m' ∈ messages, m.messageId = m'.messageId → m = m'

section Invariant

variable (log : List Bool)

/-- What holds of every list: it is sorted, holds a row once, and the rows that stand leave
no gap. -/
structure Sound (messages : List Message) : Prop where
  ascending : Ascending messages
  single : Single messages
  within : ∀ p ∈ Stands messages, p ≤ log.length
  gapless : Gapless (Timeline log) (Stands messages)

/-- A cursor behind which nothing is missing. -/
structure CursorAt (messages : List Message) (cursor : Nat) : Prop where
  within : cursor ≤ log.length
  reached : Reached (Timeline log) (Stands messages) cursor

/-- A mark at or below a row that stands. -/
def Marked (messages : List Message) (mark : Nat) : Prop :=
  mark = 0 ∨ ∃ q ∈ Stands messages, mark ≤ q

/-- The ledger of rows has bounds, so they are opened warm. -/
def Bounded (messages : List Message) (ledger : ThreadPageLedger) : Prop :=
  messages ≠ [] → shouldWarmCatchUpOnly ledger = true

/-- The catch-up of a warm open: its own list is sound up to its cursor, and starts no
earlier than the list on the screen. -/
structure WarmOk (messages merged : List Message) (ledger : ThreadPageLedger) (cursor : Nat) :
    Prop where
  sound : Sound log merged
  cursor : CursorAt log merged cursor
  below : NoneBelow merged
  tip : ∀ tip, ledger.maxOrder = some tip → ∃ q ∈ Stands merged, tip ≤ q
  bounded : Bounded merged ledger
  later : ∀ p ∈ Stands merged, ∃ p' ∈ Stands messages, p' ≤ p

/-- What holds while `loadInitial` is under way. -/
def InitialOk (messages : List Message) (loading : Bool) (stream : Option (Option Nat))
    (catchUp : Option CatchUp) (older : Option Nat) : Initial → Prop
  | .fetchTip cached =>
    (∀ thread, cached = some thread → thread.messages = []) ∧ loading = true ∧ stream = none ∧
      catchUp = none ∧ older = none
  | .catchUpFrom merged ledger cursor _ => WarmOk log messages merged ledger cursor
  | .shown initial ledger =>
    Sound log initial ∧ Stands initial ⊆ Stands messages ∧ Bounded initial ledger
  | .cached initial => Stands initial ⊆ Stands messages
  | .finished => True

/-- **The invariant of a mounted hook.** -/
structure HookInv (h : Hook) : Prop where
  sound : Sound log h.messages
  stream : ∀ cursor, h.stream = some (some cursor) → CursorAt log h.messages cursor
  catchUp : ∀ catchUp, h.catchUp = some catchUp → CursorAt log h.messages catchUp.cursor
  older : ∀ bound, h.older = some bound → CursorAt log h.messages bound
  delivered : Marked h.messages h.pendingDeliveredUpto
  peer : Marked h.messages h.pendingPeerReadUpto
  sends : ∀ one ∈ h.sends, ∀ order, one.accepted = some order → 0 < order ∧ order ≤ log.length
  initial : InitialOk log h.messages h.loading h.stream h.catchUp h.older h.initial

/-- What is cached is sound, and opens warm. -/
def CacheOk (cache : Option CachedThread) : Prop :=
  ∀ thread, cache = some thread → Sound log thread.messages ∧
    Bounded thread.messages thread.pageLedger

end Invariant

/-- **The invariant.** -/
structure Inv (state : State) : Prop where
  cache : CacheOk state.log state.cache
  hook : ∀ h, state.hook = some h → HookInv state.log h

/-! ## The log grows -/

section Assign

variable {log : List Bool} {messages : List Message} (timeline : Bool)

theorem isTimeline_append {order : Nat} (old : order ≤ log.length) :
    isTimeline (log ++ [timeline]) order = isTimeline log order := by
  unfold isTimeline
  by_cases positive : 0 < order
  · rw [List.getElem?_append_left (by omega)]
  · simp [positive]

theorem timeline_append {order : Nat} (isRow : order ∈ Timeline (log ++ [timeline]))
    (old : order ≤ log.length) : order ∈ Timeline log := by
  have same := isTimeline_append timeline old
  exact same.symm.trans isRow

theorem Sound.assign (sound : Sound log messages) : Sound (log ++ [timeline]) messages where
  ascending := sound.ascending
  single := sound.single
  within p stands := by
    have := sound.within p stands
    rw [List.length_append]
    omega
  gapless := sound.gapless.grow sound.within fun _ isRow old => timeline_append timeline isRow old

theorem CursorAt.assign {cursor : Nat} (cursorAt : CursorAt log messages cursor) :
    CursorAt (log ++ [timeline]) messages cursor where
  within := by
    have := cursorAt.within
    rw [List.length_append]
    omega
  reached := cursorAt.reached.grow cursorAt.within
    fun _ isRow old => timeline_append timeline isRow old

theorem WarmOk.assign {merged : List Message} {ledger : ThreadPageLedger} {cursor : Nat}
    (warm : WarmOk log messages merged ledger cursor) :
    WarmOk (log ++ [timeline]) messages merged ledger cursor where
  sound := warm.sound.assign timeline
  cursor := warm.cursor.assign timeline
  below := warm.below
  tip := warm.tip
  bounded := warm.bounded
  later := warm.later

theorem HookInv.assign {h : Hook} (inv : HookInv log h) : HookInv (log ++ [timeline]) h where
  sound := inv.sound.assign timeline
  stream cursor isCursor := (inv.stream cursor isCursor).assign timeline
  catchUp one isOne := (inv.catchUp one isOne).assign timeline
  older bound isBound := (inv.older bound isBound).assign timeline
  delivered := inv.delivered
  peer := inv.peer
  sends one isOne order accepted := by
    have old := inv.sends one isOne order accepted
    rw [List.length_append]
    omega
  initial := by
    have old := inv.initial
    cases phase : h.initial with
    | fetchTip | cached =>
      rw [phase] at old
      exact old
    | catchUpFrom =>
      rw [phase] at old
      exact WarmOk.assign timeline old
    | shown =>
      rw [phase] at old
      exact ⟨old.1.assign timeline, old.2⟩
    | finished => trivial

theorem CacheOk.assign {cache : Option CachedThread} (ok : CacheOk log cache) :
    CacheOk (log ++ [timeline]) cache := by
  intro thread isThread
  exact ⟨(ok thread isThread).1.assign timeline, (ok thread isThread).2⟩

end Assign

/-! ## What a list without a gap covers -/

section Lists

variable {log : List Bool} {messages : List Message}

variable {mark order : Nat}

theorem timeline_within (isRow : order ∈ Timeline log) : order ≤ log.length := by
  have row : isTimeline log order = true := isRow
  rw [isTimeline, Bool.and_eq_true, beq_iff_eq] at row
  obtain ⟨inside, -⟩ := List.getElem?_eq_some_iff.mp row.2
  omega

theorem mem_rowsAfter {cursor : Nat} {rows : List Nat} :
    order ∈ rowsAfter log cursor rows → order ∈ Timeline log := by
  intro isRow
  exact (Bool.and_eq_true_iff.mp (List.mem_filter.mp isRow).2).1

theorem mem_rowsBefore {bound : Nat} {rows : List Nat} :
    order ∈ rowsBefore log bound rows → order ∈ Timeline log := by
  intro isRow
  exact (Bool.and_eq_true_iff.mp (List.mem_filter.mp isRow).2).1

/-- **Up to a row that stands**, a list without a gap covers every value. -/
theorem Sound.covered (sound : Sound log messages) (below : NoneBelow messages) {value : Nat}
    (upto : ∃ q ∈ Stands messages, value ≤ q) : Covered log value messages := by
  obtain ⟨q, isEnd, before⟩ := upto
  refine ⟨before.trans (sound.within q isEnd), ?_⟩
  rintro order isRow atMost ⟨message, isMessage, atLeast⟩
  obtain ⟨p, isStart, lower⟩ := below message isMessage
  have stands : order ∈ Stands messages :=
    sound.gapless p isStart q isEnd order isRow (lower.trans atLeast) (atMost.trans before)
  exact ⟨.ofOrder order, stands, rfl⟩

theorem Sound.cursorAt (sound : Sound log messages) {cursor : Nat}
    (between : Between messages cursor) : CursorAt log messages cursor := by
  obtain ⟨⟨p, isStart, lower⟩, ⟨q, isEnd, upper⟩⟩ := between
  exact ⟨upper.trans (sound.within q isEnd), sound.gapless.reached isStart isEnd lower upper⟩

theorem Marked.mono {messages' : List Message} (marked : Marked messages mark)
    (more : Stands messages ⊆ Stands messages') : Marked messages' mark :=
  marked.imp_right fun ⟨q, isEnd, before⟩ => ⟨q, more isEnd, before⟩

theorem Marked.max {mark' : Nat} (marked : Marked messages mark) (marked' : Marked messages mark') :
    Marked messages (max mark mark') := by
  rcases Nat.le_total mark' mark with higher | higher
  · rwa [Nat.max_eq_left higher]
  · rwa [Nat.max_eq_right higher]

theorem Marked.of_pos (marked : Marked messages mark) (positive : 0 < mark) :
    ∃ q ∈ Stands messages, mark ≤ q :=
  marked.resolve_left positive.ne'

theorem Marked.of_stands (stands : mark ∈ Stands messages) : Marked messages mark :=
  Or.inr ⟨mark, stands, le_rfl⟩

theorem NoneAbove.marked (above : NoneAbove messages) {tip : Nat}
    (isTip : (orders messages).max? = some tip) : ∃ q ∈ Stands messages, tip ≤ q := by
  obtain ⟨message, isMessage, rfl⟩ := List.mem_map.mp (List.max?_mem isTip)
  exact above message isMessage

end Lists

/-! ## More rows -/

/-- **A list that holds more**: everything that stood stands, and what was reached is. -/
structure Extends (log : List Bool) (messages messages' : List Message) : Prop where
  sound : Sound log messages'
  stands : Stands messages ⊆ Stands messages'
  cursors : ∀ cursor, CursorAt log messages cursor → CursorAt log messages' cursor

section Extends

variable {log : List Bool} {messages : List Message}

theorem mem_mergeMessages {prev incoming : List Message} {message : Message}
    (isMessage : message ∈ mergeMessages prev incoming) : message ∈ prev ∨ message ∈ incoming := by
  have folded : message ∈ incoming.foldl setById prev :=
    (List.mem_filter.mp (mem_sortMessagesByOrder.mp isMessage)).1
  clear isMessage
  induction incoming generalizing prev with
  | nil => exact Or.inl folded
  | cons first rest ih =>
    rcases ih folded with known | later
    · rcases mem_setById.mp known with rfl | ⟨isOld, -⟩
      · exact Or.inr (List.mem_cons_self ..)
      · exact Or.inl isOld
    · exact Or.inr (List.mem_cons_of_mem _ later)

theorem Single.setById (single : Single messages) (message : Message) :
    Single (setById messages message) := by
  intro m isM m' isM' same
  rcases mem_setById.mp isM with rfl | ⟨isOld, differs⟩
  · rcases mem_setById.mp isM' with rfl | ⟨-, differs'⟩
    · rfl
    · exact absurd same.symm differs'
  · rcases mem_setById.mp isM' with rfl | ⟨isOld', -⟩
    · exact absurd same differs
    · exact single m isOld m' isOld' same

theorem Single.subset (single : Single messages) {part : List Message}
    (isPart : ∀ m ∈ part, m ∈ messages) : Single part :=
  fun m isM m' isM' same => single m (isPart m isM) m' (isPart m' isM') same

theorem Single.mergeMessages (single : Single messages) (incoming : List Message) :
    Single (mergeMessages messages incoming) := by
  have folded : Single (incoming.foldl App.setById messages) := by
    induction incoming generalizing messages with
    | nil => exact single
    | cons first rest ih => exact ih (single.setById first)
  exact folded.subset fun m isM => (List.mem_filter.mp (mem_sortMessagesByOrder.mp isM)).1

theorem NoneBelow.mergeMessages (below : NoneBelow messages) (rows : List Nat) :
    NoneBelow (mergeMessages messages (rows.map .ofOrder)) := by
  intro message isMessage
  rcases mem_mergeMessages isMessage with isOld | isNew
  · obtain ⟨p, stands, lower⟩ := below message isOld
    exact ⟨p, by rw [stands_mergeMessages]; exact Or.inl stands, lower⟩
  · obtain ⟨order, isRow, rfl⟩ := List.mem_map.mp isNew
    exact ⟨order, by rw [stands_mergeMessages]; exact Or.inr isRow, le_rfl⟩

variable {messages' : List Message}

/-- The same rows stand. -/
theorem Extends.same (sound : Sound log messages) (ascending : Ascending messages')
    (single : Single messages') (same : Stands messages' = Stands messages) :
    Extends log messages messages' where
  sound :=
    { ascending
      single
      within := by rw [same]; exact sound.within
      gapless := by rw [same]; exact sound.gapless }
  stands := same.symm.subset
  cursors cursor cursorAt := ⟨cursorAt.within, by rw [same]; exact cursorAt.reached⟩

/-- More rows stand, which leave no gap, and nothing is missing behind the old cursors. -/
theorem Extends.union (sound : Sound log messages) {piece : Set Nat}
    (ascending : Ascending messages') (single : Single messages')
    (joined : Stands messages' = Stands messages ∪ piece) (within : ∀ p ∈ piece, p ≤ log.length)
    (gapless : Gapless (Timeline log) (Stands messages ∪ piece))
    (cursors : ∀ cursor, Reached (Timeline log) (Stands messages) cursor →
      Reached (Timeline log) (Stands messages ∪ piece) cursor)
    :
    Extends log messages messages' where
  sound :=
    { ascending
      single
      within := by
        rw [joined]
        rintro p (isOld | isNew)
        · exact sound.within p isOld
        · exact within p isNew
      gapless := by
        rw [joined]
        exact gapless }
  stands := by
    rw [joined]
    exact Set.subset_union_left
  cursors cursor cursorAt := by
    refine ⟨cursorAt.within, ?_⟩
    rw [joined]
    exact cursors cursor cursorAt.reached

theorem Extends.above (sound : Sound log messages) {rows : List Nat} {cursor : Nat}
    (timeline : ∀ order ∈ rows, order ∈ Timeline log)
    (reached : Reached (Timeline log) (Stands messages) cursor)
    (continues : Continues (Timeline log) cursor { order | order ∈ rows }) :
    Extends log messages (mergeMessages messages (rows.map .ofOrder)) :=
  Extends.union sound (ascending_mergeMessages _ _) (sound.single.mergeMessages _)
    (stands_mergeMessages _ _) (fun order isRow => timeline_within (timeline order isRow))
    (Gapless.above continues reached sound.gapless)
    fun _ other => Reached.above continues reached other

theorem Extends.below (sound : Sound log messages) {rows : List Nat} {bound : Nat}
    (timeline : ∀ order ∈ rows, order ∈ Timeline log)
    (reached : Reached (Timeline log) (Stands messages) bound)
    (precedes : Precedes (Timeline log) bound { order | order ∈ rows }) :
    Extends log messages (mergeMessages messages (rows.map .ofOrder)) :=
  Extends.union sound (ascending_mergeMessages _ _) (sound.single.mergeMessages _)
    (stands_mergeMessages _ _) (fun order isRow => timeline_within (timeline order isRow))
    (Gapless.below precedes reached sound.gapless)
    fun _ other => Reached.below precedes reached other

theorem Extends.first (none : Stands messages = ∅) {order : Nat} (ascending : Ascending messages')
    (single : Single messages') (stands : Stands messages' = {order}) (within : order ≤ log.length)
    :
    Extends log messages messages' where
  sound :=
    { ascending
      single
      within := by
        rw [stands]
        rintro p rfl
        exact within
      gapless := by
        rw [stands]
        rintro p rfl q rfl o - after before
        exact le_antisymm before after }
  stands := by
    rw [none]
    exact Set.empty_subset _
  cursors cursor cursorAt := by
    obtain ⟨p, stands, -⟩ := cursorAt.reached.starts
    rw [none] at stands
    exact stands.elim

end Extends

/-! ## The hook and a longer list -/

section Hook

variable {log : List Bool} {h : Hook}

theorem InitialOk.mono {messages messages' : List Message} {loading loading' : Bool}
    {stream stream' : Option (Option Nat)} {catchUp catchUp' : Option CatchUp}
    {older older' : Option Nat} {initial : Initial}
    (ok : InitialOk log messages loading stream catchUp older initial)
    (more : Stands messages ⊆ Stands messages')
    (loads : loading = true → stream = none → catchUp = none → older = none →
      loading' = true ∧ stream' = none ∧ catchUp' = none ∧ older' = none) :
    InitialOk log messages' loading' stream' catchUp' older' initial := by
  cases initial with
  | fetchTip => exact ⟨ok.1, loads ok.2.1 ok.2.2.1 ok.2.2.2.1 ok.2.2.2.2⟩
  | catchUpFrom =>
    exact
      { ok with
        later := fun p stands => by
          obtain ⟨p', isStart, lower⟩ := ok.later p stands
          exact ⟨p', more isStart, lower⟩ }
  | shown => exact ⟨ok.1, ok.2.1.trans more, ok.2.2⟩
  | cached => exact Set.Subset.trans ok more
  | finished => trivial

theorem HookInv.extend (inv : HookInv log h) {messages : List Message}
    (more : Extends log h.messages messages) : HookInv log { h with messages } where
  sound := more.sound
  stream cursor isCursor := more.cursors cursor (inv.stream cursor isCursor)
  catchUp one isOne := more.cursors one.cursor (inv.catchUp one isOne)
  older bound isBound := more.cursors bound (inv.older bound isBound)
  delivered := inv.delivered.mono more.stands
  peer := inv.peer.mono more.stands
  sends := inv.sends
  initial := inv.initial.mono more.stands fun loading stream catchUp older =>
    ⟨loading, stream, catchUp, older⟩

/-! ### Acknowledgements -/

/-- **What an acknowledgement does**: the list stays, and every value posted is at or below a
row that stands. -/
structure Posts (log : List Bool) (messages : List Message) (acked : Hook × List Nat) :
    Prop where
  inv : HookInv log acked.1
  same : acked.1.messages = messages
  upto : ∀ value ∈ acked.2, ∃ q ∈ Stands messages, value ≤ q

theorem Posts.none (inv : HookInv log h) : Posts log h.messages (h, []) :=
  ⟨inv, rfl, fun _ isValue => absurd isValue (List.not_mem_nil)⟩

theorem flushDeliveredAck_posts
    (inv : HookInv log h) : Posts log h.messages h.flushDeliveredAck := by
  rw [Hook.flushDeliveredAck]
  split_ifs with quiet
  · exact Posts.none inv
  rw [not_or, not_le] at quiet
  refine ⟨{ inv with }, rfl, ?_⟩
  intro value isValue
  rw [List.mem_singleton] at isValue
  rw [isValue]
  exact inv.delivered.of_pos (Nat.zero_lt_of_lt quiet.2)

theorem HookInv.scheduleDeliveredAck (inv : HookInv log h) {order : Nat}
    (marked : Marked h.messages order) : HookInv log (h.scheduleDeliveredAck order) := by
  rw [Hook.scheduleDeliveredAck]
  split_ifs with zero
  · exact inv
  · exact { inv with delivered := inv.delivered.max marked }

@[simp] theorem scheduleDeliveredAck_messages (order : Nat) :
    (h.scheduleDeliveredAck order).messages = h.messages := by
  rw [Hook.scheduleDeliveredAck]
  split_ifs <;> rfl

section

variable (inv : HookInv log h)
include inv

theorem postDeliveredFirst_posts : Posts log h.messages h.postDeliveredFirst := by
  rw [Hook.postDeliveredFirst]
  split_ifs with quiet
  · exact Posts.none inv
  have marked := inv.delivered.max inv.peer
  refine ⟨{ inv with delivered := marked }, rfl, ?_⟩
  intro value isValue
  rw [List.mem_singleton] at isValue
  rw [isValue]
  refine marked.of_pos ?_
  omega

theorem flushPeerReadAck_posts : Posts log h.messages h.flushPeerReadAck := by
  rw [Hook.flushPeerReadAck]
  by_cases nothing : h.pendingPeerReadUpto = 0
  · rw [if_pos nothing]
    exact Posts.none inv
  rw [if_neg nothing]
  cases h.receiptMode with
  | none => exact Posts.none inv
  | deliveredOnly =>
    refine ⟨inv.scheduleDeliveredAck inv.peer, scheduleDeliveredAck_messages _, ?_⟩
    intro value isValue
    exact absurd isValue List.not_mem_nil
  | full =>
    dsimp only
    split_ifs with quiet
    · exact Posts.none inv
    have first := postDeliveredFirst_posts
      (h := { h with lastSentPeerReadUpto := h.pendingPeerReadUpto, receiptMode := .full })
      { inv with }
    refine ⟨first.inv, first.same, ?_⟩
    intro value isValue
    rcases List.mem_append.mp isValue with isFirst | isRead
    · exact first.upto value isFirst
    · rw [List.mem_singleton] at isRead
      rw [isRead]
      exact inv.peer.of_pos (Nat.pos_of_ne_zero nothing)

theorem schedulePeerReadAck_posts {order : Nat} (marked : Marked h.messages order) :
    Posts log h.messages (h.schedulePeerReadAck order) := by
  rw [Hook.schedulePeerReadAck]
  split_ifs with zero
  · exact Posts.none inv
  · exact flushPeerReadAck_posts (h := { h with
      pendingPeerReadUpto := max h.pendingPeerReadUpto order })
      { inv with peer := inv.peer.max marked }

/-- **Reading**: where no local row lies above, every mark is at or below a row that
stands. -/
theorem markRead_posts {pageEngaged : Bool}
    (above : pageEngaged = true → h.loading = false → NoneAbove h.messages) :
    Posts log h.messages (h.markRead pageEngaged) := by
  rw [Hook.markRead]
  split_ifs with away
  · exact Posts.none inv
  rw [Bool.or_eq_true, not_or, Bool.not_eq_true', Bool.not_eq_false, Bool.not_eq_true] at away
  cases isTip : (orders h.messages).max? with
  | none => exact Posts.none inv
  | some maxOrder =>
    have upto := (above away.1 away.2).marked isTip
    have marked : Marked h.messages maxOrder := Or.inr upto
    dsimp only
    split_ifs with unread
    · have acked := schedulePeerReadAck_posts
        (h := { h with lastSentReadUpto := maxOrder }) { inv with } marked
      refine ⟨acked.inv, acked.same, ?_⟩
      intro value isValue
      rcases List.mem_cons.mp isValue with rfl | isAck
      · exact upto
      · exact acked.upto value isAck
    · exact schedulePeerReadAck_posts inv marked

/-- **The end of the first load**: its tip is that of a row that stands. -/
theorem deliverTip_posts {initial : List Message} (held : Stands initial ⊆ Stands h.messages)
    (above : NoneAbove initial) :
    Posts log h.messages (h.deliverTip initial) := by
  rw [Hook.deliverTip]
  cases isTip : (orders initial).max? with
  | none => exact Posts.none inv
  | some tip =>
    obtain ⟨q, stands, before⟩ := above.marked isTip
    have marked : Marked h.messages tip := Or.inr ⟨q, held stands, before⟩
    exact flushDeliveredAck_posts (h := { h with
      pendingDeliveredUpto := max h.pendingDeliveredUpto tip })
      { inv with delivered := inv.delivered.max marked }

theorem HookInv.syncCursor : HookInv log h.syncCursor := by
  rw [Hook.syncCursor]
  split_ifs with empty
  · exact { inv with }
  · exact { inv with }

end

@[simp] theorem syncCursor_messages : h.syncCursor.messages = h.messages := by
  rw [Hook.syncCursor]
  split_ifs
  · rfl
  · rfl

@[simp] theorem syncCursor_loading : h.syncCursor.loading = h.loading := by
  rw [Hook.syncCursor]
  split_ifs
  · rfl
  · rfl

theorem joinNewer_messages (rows : List Nat) (tip : Nat) :
    (h.joinNewer rows tip).messages = mergeMessages h.messages (rows.map .ofOrder) :=
  scheduleDeliveredAck_messages tip

theorem joinNewer_initial (rows : List Nat) (tip : Nat) :
    (h.joinNewer rows tip).initial = h.initial := by
  rw [Hook.joinNewer, Hook.scheduleDeliveredAck]
  split_ifs
  · rfl
  · rfl

end Hook

/-! ## What is cached -/

section Cache

variable {log : List Bool} {messages : List Message} {ledger : ThreadPageLedger}

theorem Sound.suffix (sound : Sound log messages) {part : List Message}
    (suffix : part <:+ messages) : Sound log part where
  ascending := sound.ascending.sublist suffix.sublist
  single := sound.single.subset fun _ isPart => suffix.subset isPart
  within p stands := sound.within p (suffix.subset stands)
  gapless := sound.gapless.tail (fun _ stands => suffix.subset stands)
    fun _ starts _ stands after => stands_of_suffix suffix sound.ascending starts stands after

theorem shouldWarmCatchUpOnly_of_bounds {lower upper : Nat} (isMin : ledger.minOrder = some lower)
    (isMax : ledger.maxOrder = some upper) : shouldWarmCatchUpOnly ledger = true := by
  rw [shouldWarmCatchUpOnly, isMin, isMax]
  rfl

theorem exists_bounds (rows : messages ≠ []) :
    ∃ lower upper, (orders messages).min? = some lower ∧ (orders messages).max? = some upper := by
  have isOrder : orders messages ≠ [] := fun none => rows (List.map_eq_nil_iff.mp none)
  obtain ⟨lower, isMin⟩ := Option.ne_none_iff_exists'.mp (mt List.min?_eq_none_iff.mp isOrder)
  obtain ⟨upper, isMax⟩ := Option.ne_none_iff_exists'.mp (mt List.max?_eq_none_iff.mp isOrder)
  exact ⟨lower, upper, isMin, isMax⟩

theorem Bounded.trimMessagesWithLedger (bounded : Bounded messages ledger) (limit : Nat) :
    Bounded (trimMessagesWithLedger limit messages ledger).messages
      (trimMessagesWithLedger limit messages ledger).pageLedger := by
  by_cases short : messages.length ≤ limit
  · rw [trimMessagesWithLedger_of_short ledger short]
    exact bounded
  rw [trimMessagesWithLedger_of_long ledger short]
  intro rows
  obtain ⟨lower, upper, isMin, isMax⟩ := exists_bounds rows
  have trimmed := invalidateLedgerAfterTrim_of_min ledger isMin true
  exact shouldWarmCatchUpOnly_of_bounds (congrArg ThreadPageLedger.minOrder trimmed)
    ((congrArg ThreadPageLedger.maxOrder trimmed).trans isMax)

theorem cacheOk_setCachedThread (sound : Sound log messages) (bounded : Bounded messages ledger) :
    CacheOk log (some (setCachedThread messages ledger)) := by
  intro thread isThread
  rw [← Option.some.inj isThread]
  exact ⟨sound.suffix (setCachedThread_suffix ledger),
    bounded.trimMessagesWithLedger maxMessagesPerGroup⟩

variable {bound : Option Nat} {rows : List Nat}

theorem extendBound_eq {choose : Nat → Nat → Nat}
    (either : ∀ held order, choose held order = held ∨ choose held order = order) {value : Nat}
    (isBound : extendBound choose bound rows = some value) :
    value ∈ rows ∨ bound = some value := by
  induction rows generalizing bound with
  | nil => exact Or.inr isBound
  | cons first rest ih =>
    rcases ih isBound with later | same
    · exact Or.inl (List.mem_cons_of_mem _ later)
    cases bound with
    | none =>
      obtain rfl : first = value := Option.some.inj same
      exact Or.inl (List.mem_cons_self ..)
    | some held =>
      have chosen : choose held first = value := Option.some.inj same
      rcases either held first with old | new
      · exact Or.inr (congrArg some (old.symm.trans chosen))
      · rw [← chosen, new]
        exact Or.inl (List.mem_cons_self ..)

theorem extendBound_isSome {choose : Nat → Nat → Nat} (some : bound.isSome = true ∨ rows ≠ []) :
    (extendBound choose bound rows).isSome = true := by
  induction rows generalizing bound with
  | nil => exact some.resolve_right (fun rows => rows rfl)
  | cons first rest ih => exact ih (Or.inl rfl)

theorem le_extendBound {value : Nat} (isBound : extendBound max bound rows = some value) :
    (∀ held, bound = some held → held ≤ value) ∧ ∀ order ∈ rows, order ≤ value := by
  induction rows generalizing bound with
  | nil =>
    refine ⟨?_, fun _ isRow => absurd isRow List.not_mem_nil⟩
    rintro held rfl
    exact (Option.some.inj isBound).le
  | cons first rest ih =>
    obtain ⟨held, others⟩ := ih isBound
    have chosen := held _ rfl
    refine ⟨?_, ?_⟩
    · rintro old rfl
      exact (Nat.le_max_left old first).trans chosen
    intro order isRow
    rcases List.mem_cons.mp isRow with rfl | later
    · refine le_trans ?_ chosen
      cases bound with
      | none => exact le_rfl
      | some old => exact Nat.le_max_right old order
    · exact others order later

end Cache

/-! ## The list of a cold open -/

theorem coldList_eq {cached : Option CachedThread}
    (empty : ∀ thread, cached = some thread → thread.messages = []) (fetched : List Nat) :
    Hook.coldList cached fetched = sortMessagesByOrder (fetched.map .ofOrder) := by
  cases cached with
  | none => rfl
  | some thread => rw [Hook.coldList, empty thread rfl, List.isEmpty_nil, if_pos rfl]

theorem single_ofOrders (rows : List Nat) : Single (rows.map .ofOrder) := by
  intro m isM m' isM' same
  obtain ⟨order, -, rfl⟩ := List.mem_map.mp isM
  obtain ⟨order', -, rfl⟩ := List.mem_map.mp isM'
  rw [MessageId.relayer.inj same]

theorem bounded_coldLedger (cached : Option CachedThread) (fetched : List Nat) (hasNext : Bool) :
    Bounded (Hook.coldList cached fetched) (Hook.coldLedger cached fetched hasNext) := by
  intro rows
  obtain ⟨lower, upper, isMin, isMax⟩ := exists_bounds rows
  have bounds : (Hook.coldLedger cached fetched hasNext).minOrder = some lower ∧
      (Hook.coldLedger cached fetched hasNext).maxOrder = some upper := by
    unfold Hook.coldLedger
    cases cached with
    | none => exact ⟨isMin, isMax⟩
    | some =>
      dsimp only
      split_ifs
      · exact ⟨isMin, isMax⟩
      · exact ⟨isMin, isMax⟩
  exact shouldWarmCatchUpOnly_of_bounds bounds.1 bounds.2

/-! ## Confirmed sends -/

section Confirm

variable {log : List Bool} {messages : List Message}

theorem swapId_cases (messages : List Message) (send order : Nat) :
    Hook.swapId messages send order = messages ∨
      ∃ row : Message, row.messageId = .relayer order ∧
        (∀ m, m ∈ Hook.swapId messages send order ↔
          m = row ∨ m ∈ messages ∧ m.messageId ≠ .optimistic send ∧ m.messageId ≠ .relayer order) ∧
        Ascending (Hook.swapId messages send order) ∧
        (row ∈ messages ∨
          (∀ m ∈ messages, m.messageId ≠ .relayer order) ∧
            (⟨.optimistic send, row.order⟩ : Message) ∈ messages) := by
  have mem_swapped : ∀ row m : Message,
      m ∈ sortMessagesByOrder ((messages.filter fun message =>
        message.messageId ≠ .optimistic send ∧ message.messageId ≠ .relayer order) ++ [row]) ↔
      m = row ∨ m ∈ messages ∧ m.messageId ≠ .optimistic send ∧ m.messageId ≠ .relayer order := by
    intro row m
    rw [mem_sortMessagesByOrder, List.mem_append, List.mem_singleton, List.mem_filter,
      decide_eq_true_iff, or_comm]
  rw [Hook.swapId]
  cases server : messages.find? (·.messageId = .relayer order) with
  | some row =>
    have isRow := List.find?_some server
    exact Or.inr ⟨row, of_decide_eq_true isRow, mem_swapped row,
      ascending_sortMessagesByOrder _, Or.inl (List.mem_of_find?_eq_some server)⟩
  | none =>
    have noRow : ∀ m ∈ messages, m.messageId ≠ .relayer order := by
      intro m isMessage same
      exact List.find?_eq_none.mp server m isMessage (decide_eq_true same)
    cases temp : messages.find? (·.messageId = .optimistic send) with
    | none => exact Or.inl rfl
    | some stub =>
      have isStub := List.find?_some temp
      rw [decide_eq_true_iff] at isStub
      refine Or.inr ⟨{ stub with messageId := .relayer order }, rfl, mem_swapped _,
        ascending_sortMessagesByOrder _, Or.inr ⟨noRow, ?_⟩⟩
      have isMessage := List.mem_of_find?_eq_some temp
      rwa [← isStub]

theorem swapId_single (single : Single messages) (send order : Nat) :
    Single (Hook.swapId messages send order) := by
  rcases swapId_cases messages send order with same | ⟨row, isRow, members, -, -⟩
  · rw [same]
    exact single
  intro m isM m' isM' sameId
  rcases (members m).mp isM with rfl | ⟨isOld, -, differs⟩
  · rcases (members m').mp isM' with rfl | ⟨-, -, differs'⟩
    · rfl
    · exact absurd (sameId.symm.trans isRow) differs'
  · rcases (members m').mp isM' with rfl | ⟨isOld', -, -⟩
    · exact absurd (sameId.trans isRow) differs
    · exact single m isOld m' isOld' sameId

/-- The rows that stand once a send is confirmed: the new one does if it was guessed
right. -/
theorem stands_swapId (single : Single messages) (send order : Nat) :
    Stands (Hook.swapId messages send order) = Stands messages ∨
      (⟨.optimistic send, order⟩ : Message) ∈ messages ∧
        Stands (Hook.swapId messages send order) = Stands messages ∪ {order} := by
  rcases swapId_cases messages send order with same | ⟨row, isRow, members, -, source⟩
  · rw [same]
    exact Or.inl rfl
  have others : ∀ p, p ≠ order →
      (p ∈ Stands (Hook.swapId messages send order) ↔ p ∈ Stands messages) := by
    intro p differs
    have other : Message.ofOrder p ≠ row := by
      intro same
      rw [← same] at isRow
      exact differs (MessageId.relayer.inj isRow)
    refine (members (.ofOrder p)).trans ⟨fun either => (either.resolve_left other).1, ?_⟩
    intro stands
    exact Or.inr ⟨stands, MessageId.noConfusion, fun same => differs (MessageId.relayer.inj same)⟩
  have here : order ∈ Stands (Hook.swapId messages send order) ↔ Message.ofOrder order = row :=
    (members (.ofOrder order)).trans ⟨fun either => either.resolve_right fun old => old.2.2 rfl,
      Or.inl⟩
  rcases source with isOld | ⟨noRow, isStub⟩
  · refine Or.inl (Set.ext fun p => ?_)
    rcases eq_or_ne p order with rfl | differs
    · rw [here]
      constructor
      · rintro rfl
        exact isOld
      · intro stands
        exact single _ stands row isOld isRow.symm
    · exact others p differs
  by_cases right : row.order = order
  · have same : Message.ofOrder order = row := by
      cases row
      rw [Message.ofOrder, ← isRow, ← right]
    refine Or.inr ⟨right ▸ isStub, Set.ext fun p => ?_⟩
    rcases eq_or_ne p order with rfl | differs
    · exact ⟨fun _ => Or.inr rfl, fun _ => here.mpr same⟩
    · rw [others p differs]
      exact ⟨Or.inl, fun either => either.resolve_right differs⟩
  refine Or.inl (Set.ext fun p => ?_)
  rcases eq_or_ne p order with rfl | differs
  · rw [here]
    refine ⟨fun same => absurd (congrArg Message.order same).symm right, fun stands => ?_⟩
    exact absurd rfl (noRow _ stands)
  · exact others p differs

/-- **A confirmed send** leaves no gap where it is not put in the place of a row that has not
come. -/
theorem Extends.swapId (sound : Sound log messages) {send order : Nat}
    (assigned : 0 < order ∧ order ≤ log.length)
    (placed : ∀ message ∈ messages, message.messageId = .optimistic send →
      message.order ∈ Stands messages ∨ Stands messages = ∅ ∨
        Reached (Timeline log) (Stands messages) (message.order - 1)) :
    Extends log messages (Hook.swapId messages send order) := by
  have single := swapId_single sound.single send order
  have ascending : Ascending (Hook.swapId messages send order) := by
    rcases swapId_cases messages send order with same | ⟨-, -, -, ascending, -⟩
    · rw [same]
      exact sound.ascending
    · exact ascending
  rcases stands_swapId sound.single send order with same | ⟨isStub, joined⟩
  · exact Extends.same sound ascending single same
  rcases placed _ isStub rfl with stands | none | reached
  · refine Extends.same sound ascending single (joined.trans ?_)
    exact Set.union_eq_self_of_subset_right (Set.singleton_subset_iff.mpr stands)
  · refine Extends.first none ascending single ?_ assigned.2
    rw [joined, none, Set.empty_union]
  have continues : Continues (Timeline log) (order - 1) {order} :=
    { above := by
        rintro n rfl
        omega
      whole := by
        rintro n rfl o - after before
        exact le_antisymm before (by omega) }
  refine Extends.union sound ascending single joined ?_
    (Gapless.above continues reached sound.gapless)
    fun _ other => Reached.above continues reached other
  rintro p rfl
  exact assigned.2

end Confirm

end MessagingStack.App.Thread

import MessagingStack.App.PageKept

/-!
# Does scrolling back reach the first message?

`loadMore` asks for the page before the smallest order of the page ledger, unless that page has been
fetched.  The effects keep the ledger's bounds at those of the list and write the list through to
the session cache; of a long list that is the newest part, and a listed page is requested for ever
(`listed_page_requested`).  `scrolls_back` is the other direction, for the runs of `PageKept`.
-/

namespace MessagingStack.App.Thread

namespace Pager

/-! ## What is promised -/

/-- **Idle**: nothing is in flight, and the effects of the list have run. -/
structure Idle (state : State) (h : Hook) : Prop where
  isHook : state.hook = some h
  loaded : h.initial = .finished
  noCatchUp : h.catchUp = none
  noOlder : h.older = none
  settled : step state (.effects false) = state

def requested (state : State) : Option Nat := (step state .loadMore).hook.bind (·.older)

/-- The list once `loadMore` has been answered with the page before the bound. -/
def listedAfter (state : State) (bound : Nat) : List Message :=
  let page := pageBefore state.log bound
  ((step (step state .loadMore) (.olderAnswer page.1 page.2)).hook.map (·.messages)).getD []

/-- **Scrolling back goes on** in an idle state: while the relayer holds a row that is older
than the oldest one listed, the next page is the one before it and brings a new row, and no
page of listed rows is requested. -/
def ScrollsBack (state : State) : Prop :=
  ∀ h oldest, Idle state h → (orders h.messages).min? = some oldest →
    ((∃ order ∈ Timeline state.log, order < oldest) →
      h.hasMore = true ∧ requested state = some oldest ∧
        ∃ order ∉ orders h.messages, order ∈ orders (listedAfter state oldest)) ∧
    ∀ bound, requested state = some bound → ∀ order ∈ (pageBefore state.log bound).1,
      order ∉ orders h.messages

/-! ## Runs -/

theorem inv_hookStep {state : State} {h : Hook} (inv : Inv state) (isHook : state.hook = some h)
    {input : Input} (serves : Serves ⟨state.log, state.cache, some h⟩ input)
    (clean : Clean ⟨state.log, state.cache, some h⟩ input)
    (taken : step state input =
      { state with
        cache := (hookStep state.log state.cache h input).2.1
        hook := some (hookStep state.log state.cache h input).1 }) :
    Inv (step state input) := by
  obtain ⟨kept, cached⟩ := hookStep_kept (inv.hook h isHook) inv.cache input serves clean
  rw [taken]
  refine ⟨cached, ?_⟩
  intro h' isHook'
  rw [← Option.some.inj isHook']
  exact kept

theorem inv_assign {state : State} (inv : Inv state) (timeline : Bool) :
    Inv { state with log := state.log ++ [timeline] } where
  cache thread isThread :=
    ⟨(inv.cache thread isThread).kept.assign timeline, (inv.cache thread isThread).bounded⟩
  hook h isHook := (inv.hook h isHook).assign timeline

theorem inv_step (state : State) (input : Input) (inv : Inv state)
    (good : Serves state input ∧ Clean state input) : Inv (step state input) := by
  obtain ⟨log, cache, hook⟩ := state
  obtain ⟨serves, clean⟩ := good
  cases hook with
  | none =>
    cases input with
    | assign timeline => exact inv_assign inv timeline
    | evict => exact ⟨(fun _ isThread => nomatch isThread), inv.hook⟩
    | mount =>
      refine ⟨inv.cache, ?_⟩
      intro h isHook
      rw [← Option.some.inj isHook]
      exact mounted_kept inv.cache
    | _ => exact inv
  | some h =>
    cases input with
    | assign timeline => exact inv_assign inv timeline
    | evict => exact ⟨(fun _ isThread => nomatch isThread), inv.hook⟩
    | unmount => exact ⟨inv.cache, fun h isHook => nomatch isHook⟩
    | accept => exact serves.elim
    | _ => exact inv_hookStep inv rfl serves clean rfl

/-! ## Idle states -/

section Idle

variable {log : List Bool} {cache : Option CachedThread} {h : Hook}

/-- **What the effects leave behind** an idle list with a row: its bounds, its length and
whether there is more. -/
theorem Idle.synced (idle : Idle ⟨log, cache, some h⟩ h)
    (short : h.messages.length ≤ maxMessagesPerGroup) (some : h.messages ≠ []) :
    h.pageLedger.minOrder = (orders h.messages).min? ∧ h.messageCount = h.messages.length ∧
      h.hasMore = h.pageLedger.hasMoreOlder := by
  have settled := congrArg State.hook idle.settled
  have ran : (hookStep log cache h (.effects false)).1 = h := Option.some.inj settled
  rw [hookStep] at ran
  dsimp only at ran
  have listed : (h.syncCursor.loading && h.syncCursor.messages.isEmpty) = false := by
    rw [syncCursor_messages, Bool.and_eq_false_iff]
    exact Or.inr (by simpa using some)
  have short' : h.syncCursor.messages.length ≤ maxMessagesPerGroup := by rwa [syncCursor_messages]
  rw [listed, setCachedThread_of_short _ short'] at ran
  have synced : h.syncCursor = { h with
      messageCount := h.messages.length
      lastOrder := h.messages.getLast?.map (·.order)
      pageLedger :=
        { h.pageLedger with
          minOrder := (orders h.messages).min?
          maxOrder := (orders h.messages).max? } } := if_neg (by simpa using some)
  rw [synced] at ran
  have same : { h with
      messageCount := h.messages.length
      lastOrder := h.messages.getLast?.map (·.order)
      hasMore := h.pageLedger.hasMoreOlder
      pageLedger :=
        { h.pageLedger with
          minOrder := (orders h.messages).min?
          maxOrder := (orders h.messages).max? } } = h := ran
  refine ⟨?_, ?_, ?_⟩
  · exact (congrArg (fun h => h.pageLedger.minOrder) same).symm
  · exact (congrArg Hook.messageCount same).symm
  · exact (congrArg Hook.hasMore same).symm

theorem asks_oldest (kept : HookKept log h) {oldest : Nat}
    (isOldest : (orders h.messages).min? = some oldest)
    (isMin : h.pageLedger.minOrder = some oldest) (isCount : h.messageCount = h.messages.length)
    (loaded : h.initial = .finished) (noOlder : h.older = none) {order : Nat}
    (isRow : order ∈ Timeline log) (before : order < oldest) :
    h.pageLedger.hasMoreOlder = true ∧
      shouldFetchOlderPage h.pageLedger h.older.isSome (h.initial != .finished) h.messageCount =
        some oldest := by
  have lowest : ∀ p ∈ Stands h.messages, oldest ≤ p := fun p stands =>
    (List.min?_eq_some_iff.mp isOldest).2 p (mem_orders_of_stands stands)
  have some : h.messages ≠ [] := by
    intro empty
    cases empty ▸ isOldest
  have more : h.pageLedger.hasMoreOlder = true := by
    by_contra noMore
    rw [Bool.not_eq_true] at noMore
    obtain ⟨p, stands, lower⟩ := kept.kept.bottom noMore some order isRow
    have higher := lowest p stands
    omega
  have fresh : hasFetchedBeforeOrder h.pageLedger oldest = false := by
    rw [hasFetchedBeforeOrder, ← Bool.not_eq_true, List.contains_iff_mem]
    intro isFetched
    rcases (kept.kept.fetched oldest isFetched).2 with ⟨p, stands, below⟩ | none
    · have higher := lowest p stands
      omega
    · have higher := none order isRow
      omega
  refine ⟨more, shouldFetchOlderPage_eq_some.mpr ⟨more, ?_, ?_, ?_, isMin, fresh⟩⟩
  · rw [noOlder]
    rfl
  · rw [loaded]
    rfl
  · rw [isCount]
    exact fun none => some (List.length_eq_zero_iff.mp none)

theorem step_loadMore {bound : Nat}
    (asks : shouldFetchOlderPage h.pageLedger h.older.isSome (h.initial != .finished)
      h.messageCount = some bound) :
    step ⟨log, cache, some h⟩ .loadMore = ⟨log, cache, some { h with older := some bound }⟩ := by
  show State.mk log (hookStep log cache h .loadMore).2.1
    (some (hookStep log cache h .loadMore).1) = _
  rw [hookStep, asks]

theorem step_olderAnswer {bound : Nat}
    (waiting : h.older = some bound) {rows : List Nat} {hasNext : Bool} :
    step ⟨log, cache, some h⟩ (.olderAnswer rows hasNext) =
      ⟨log, cache, some { h with
        messages := mergeMessages h.messages ((rowsBefore log bound rows).map .ofOrder)
        pageLedger := applyOlderPageToLedger h.pageLedger bound (rowsBefore log bound rows) hasNext
        hasMore := (applyOlderPageToLedger h.pageLedger bound (rowsBefore log bound rows)
          hasNext).hasMoreOlder
        older := none }⟩ := by
  show State.mk log (hookStep log cache h (.olderAnswer rows hasNext)).2.1
    (some (hookStep log cache h (.olderAnswer rows hasNext)).1) = _
  rw [hookStep, waiting]

/-- **What an answered `loadMore` brings.** -/
theorem mem_listedAfter {bound order : Nat}
    (asks : shouldFetchOlderPage h.pageLedger h.older.isSome (h.initial != .finished)
      h.messageCount = some bound) (isPage : order ∈ (pageBefore log bound).1) :
    order ∈ orders (listedAfter ⟨log, cache, some h⟩ bound) := by
  have asked : step ⟨log, cache, some h⟩ .loadMore =
      ⟨log, cache, some { h with older := some bound }⟩ := step_loadMore asks
  have page : rowsBefore log bound (pageBefore log bound).1 = (pageBefore log bound).1 := by
    refine List.filter_eq_self.mpr fun row isRow => ?_
    obtain ⟨timeline, before⟩ := mem_pageBefore isRow
    rw [Bool.and_eq_true, decide_eq_true_iff]
    exact ⟨timeline, before⟩
  have listed : listedAfter ⟨log, cache, some h⟩ bound =
      mergeMessages h.messages ((rowsBefore log bound (pageBefore log bound).1).map .ofOrder) := by
    rw [listedAfter, asked]
    rfl
  rw [listed, page]
  refine mem_orders_of_stands ?_
  rw [stands_mergeMessages]
  exact Or.inr isPage

theorem HookKept.scrollsBack (kept : HookKept log h)
    (short : h.messages.length ≤ maxMessagesPerGroup) (idle : Idle ⟨log, cache, some h⟩ h)
    {oldest : Nat} (isOldest : (orders h.messages).min? = some oldest) :
    ((∃ order ∈ Timeline log, order < oldest) →
      h.hasMore = true ∧ requested ⟨log, cache, some h⟩ = some oldest ∧
        ∃ order ∉ orders h.messages, order ∈ orders (listedAfter ⟨log, cache, some h⟩ oldest)) ∧
    ∀ bound, requested ⟨log, cache, some h⟩ = some bound →
      ∀ order ∈ (pageBefore log bound).1, order ∉ orders h.messages := by
  have some : h.messages ≠ [] := by
    intro empty
    cases empty ▸ isOldest
  obtain ⟨isMin, isCount, isMore⟩ := idle.synced short some
  rw [isOldest] at isMin
  have request : requested ⟨log, cache, .some h⟩ =
      shouldFetchOlderPage h.pageLedger h.older.isSome (h.initial != .finished) h.messageCount := by
    show (Option.some (hookStep log cache h .loadMore).1).bind (·.older) = _
    rw [hookStep]
    cases asks : shouldFetchOlderPage h.pageLedger h.older.isSome (h.initial != .finished)
      h.messageCount with
    | none => exact idle.noOlder
    | some bound => rfl
  have unlisted : ∀ order ∈ (pageBefore log oldest).1, order ∉ orders h.messages := by
    intro order isPage isOrder
    have higher := (List.min?_eq_some_iff.mp isOldest).2 order isOrder
    have before := (mem_pageBefore isPage).2
    omega
  constructor
  · rintro ⟨order, isRow, before⟩
    obtain ⟨more, asks⟩ := asks_oldest kept isOldest isMin isCount idle.loaded idle.noOlder
      isRow before
    obtain ⟨first, isPage⟩ := List.exists_mem_of_ne_nil _ (pageBefore_ne_nil isRow before)
    exact ⟨isMore.trans more, request.trans asks, first, unlisted first isPage,
      mem_listedAfter asks isPage⟩
  intro bound isBound
  obtain ⟨-, -, -, -, isLower, -⟩ := shouldFetchOlderPage_eq_some.mp (request.symm.trans isBound)
  rw [isMin] at isLower
  rw [← Option.some.inj isLower]
  exact unlisted

end Idle

/-- **Scrolling back reaches the first message**, in every run in which no list of more rows
than the cache takes is written through, and the first row of an empty list begins the
thread. -/
theorem scrolls_back (inputs : List Input) (serves : Along step Serves .start inputs)
    (clean : Along step Clean .start (inputs ++ [.effects false])) :
    ScrollsBack (run inputs) := by
  obtain ⟨before, last, -⟩ := (Along.append State.start inputs [.effects false]).mp clean
  have short : Clean (run inputs) (.effects false) := last
  have inv : Inv (run inputs) := by
    refine Along.invariant inv_step (serves.and before) ?_
    exact ⟨(fun _ isThread => nomatch isThread), fun _ isHook => nomatch isHook⟩
  intro h oldest idle isOldest
  generalize run inputs = state at short inv idle
  obtain ⟨log, cache, hook⟩ := state
  obtain rfl : hook = some h := idle.isHook
  exact (inv.hook h rfl).scrollsBack short idle isOldest

/-! ## A long thread -/

theorem foldl_setById_fresh {rows : List Nat} {prev : List Message}
    (fresh : ∀ row ∈ rows, ∀ message ∈ prev, message.messageId ≠ .relayer row)
    (once : rows.Nodup) :
    (rows.map Message.ofOrder).foldl setById prev = prev ++ rows.map .ofOrder := by
  induction rows generalizing prev with
  | nil => simp
  | cons first rest ih =>
    have added : setById prev (.ofOrder first) = prev ++ [.ofOrder first] := by
      rw [setById, if_neg]
      rw [List.any_eq_true]
      rintro ⟨message, isMessage, same⟩
      exact fresh first (List.mem_cons_self ..) message isMessage (of_decide_eq_true same)
    rw [List.map_cons, List.foldl_cons, added, ih]
    · simp
    · intro row isRow message isMessage
      rcases List.mem_append.mp isMessage with isOld | isNew
      · exact fresh row (List.mem_cons_of_mem _ isRow) message isOld
      rw [List.mem_singleton.mp isNew]
      intro same
      obtain rfl : first = row := MessageId.relayer.inj same
      exact (List.nodup_cons.mp once).1 isRow
    · exact (List.nodup_cons.mp once).2

theorem mergeMessages_ofOrders {held rows all : List Nat} (perm : all.Perm (held ++ rows))
    (ascending : all.Pairwise (· < ·)) :
    mergeMessages (held.map .ofOrder) (rows.map .ofOrder) = all.map .ofOrder := by
  have once : (held ++ rows).Nodup := perm.nodup_iff.mp (ascending.imp fun less => less.ne)
  obtain ⟨-, onceRows, apart⟩ := List.nodup_append.mp once
  have joined : (rows.map Message.ofOrder).foldl setById (held.map .ofOrder) =
      (held ++ rows).map .ofOrder := by
    rw [foldl_setById_fresh _ onceRows, List.map_append]
    intro row isRow message isMessage same
    obtain ⟨order, isHeld, rfl⟩ := List.mem_map.mp isMessage
    exact apart order isHeld row isRow (MessageId.relayer.inj same)
  have noStubs : dropStubs ((held ++ rows).map .ofOrder) = (held ++ rows).map .ofOrder := by
    refine List.filter_eq_self.mpr fun message isMessage => ?_
    obtain ⟨order, -, rfl⟩ := List.mem_map.mp isMessage
    rfl
  rw [mergeMessages, joined, noStubs]
  have sorted : (all.map Message.ofOrder).Pairwise fun left right => left.order ≤ right.order :=
    List.pairwise_map.mpr (ascending.imp fun less => less.le)
  have same := (List.perm_insertionSort (fun left right : Message => left.order ≤ right.order)
    ((held ++ rows).map .ofOrder)).trans (perm.map _).symm
  refine same.eq_of_pairwise ?_ (ascending_sortMessagesByOrder _) sorted
  intro left right isLeft isRight before after
  rw [mem_sortMessagesByOrder] at isLeft
  obtain ⟨first, -, rfl⟩ := List.mem_map.mp isLeft
  obtain ⟨second, -, rfl⟩ := List.mem_map.mp isRight
  exact congrArg Message.ofOrder (le_antisymm before after)

variable (last oldest count : Nat) (ledger : ThreadPageLedger)

theorem isTimeline_replicate (order : Nat) :
    isTimeline (List.replicate count true) order = true ↔ 0 < order ∧ order ≤ count := by
  rw [isTimeline, Bool.and_eq_true, decide_eq_true_iff, beq_iff_eq, List.getElem?_replicate]
  constructor
  · rintro ⟨positive, row⟩
    split_ifs at row
    exact ⟨positive, by omega⟩
  · rintro ⟨positive, within⟩
    exact ⟨positive, if_pos (by omega)⟩

theorem pageBefore_full {count bound : Nat} (many : messagePageSize + 1 < bound)
    (inside : bound ≤ count + 1) :
    pageBefore (List.replicate count true) bound =
      (List.range' (bound - messagePageSize) messagePageSize, true) := by
  have older : timelineBefore (List.replicate count true) bound = List.range' 1 (bound - 1) := by
    have perm : (timelineBefore (List.replicate count true) bound).Perm
        (List.range' 1 (bound - 1)) := by
      refine (List.perm_ext_iff_of_nodup ?_ List.nodup_range').mpr fun order => ?_
      · exact List.nodup_range.filter _
      rw [mem_timelineBefore, List.mem_range'_1]
      have row := isTimeline_replicate count order
      constructor
      · rintro ⟨isRow, before⟩
        have := row.mp isRow
        omega
      · intro within
        exact ⟨row.mpr (by omega), by omega⟩
    refine perm.eq_of_pairwise (fun _ _ _ _ less more => absurd less (Nat.lt_asymm more)) ?_
      (List.pairwise_lt_range')
    exact List.pairwise_lt_range.filter _
  rw [pageBefore, older, List.length_range']
  refine Prod.ext ?_ ?_
  · show (List.range' 1 (bound - 1)).drop (bound - 1 - messagePageSize) = _
    rw [List.drop_range']
    congr 1 <;> omega
  · exact decide_eq_true (by omega)

def rowsFrom (last oldest : Nat) : List Message :=
  (List.range' oldest (last + 1 - oldest)).map .ofOrder

/-- A hook with the rows from an order on. -/
def listing (last oldest : Nat) (pageLedger : ThreadPageLedger) : Hook where
  messages := rowsFrom last oldest
  loading := false
  hasMore := true
  pageLedger
  lastOrder := some last
  messageCount := last + 1 - oldest
  lastSentDeliveredUpto := last
  pendingDeliveredUpto := last
  initial := .finished

theorem orders_rowsFrom :
    orders (rowsFrom last oldest) = List.range' oldest (last + 1 - oldest) := by
  rw [orders, rowsFrom, List.map_map]
  exact List.map_id _

theorem min_range' {first count : Nat} (some : 0 < count) :
    (List.range' first count).min? = .some first := by
  rw [List.min?_eq_some_iff]
  refine ⟨List.mem_range'_1.mpr (by omega), fun other isOther => ?_⟩
  exact (List.mem_range'_1.mp isOther).1

theorem max_range' {first count : Nat} (some : 0 < count) :
    (List.range' first count).max? = .some (first + count - 1) := by
  rw [List.max?_eq_some_iff]
  refine ⟨List.mem_range'_1.mpr (by omega), fun other isOther => ?_⟩
  have := List.mem_range'_1.mp isOther
  omega

theorem syncCursor_listing {last oldest count : Nat} {ledger : ThreadPageLedger}
    (some : oldest ≤ last) :
    { listing last oldest ledger with messageCount := count }.syncCursor =
      listing last oldest { ledger with minOrder := .some oldest, maxOrder := .some last } := by
  have length : (rowsFrom last oldest).length = last + 1 - oldest := by
    rw [rowsFrom, List.length_map, List.length_range']
  have empty : ¬(rowsFrom last oldest).isEmpty = true := by
    rw [List.isEmpty_iff, ← List.length_eq_zero_iff, length]
    omega
  have isLast : (rowsFrom last oldest).getLast?.map (·.order) = .some last := by
    rw [rowsFrom, List.getLast?_map, List.getLast?_range', if_neg (by omega)]
    exact congrArg Option.some (show oldest + (last + 1 - oldest) - 1 = last by omega)
  rw [Hook.syncCursor]
  refine (if_neg empty).trans ?_
  dsimp only [listing]
  rw [orders_rowsFrom, min_range' (by omega), max_range' (by omega), isLast, length,
    show oldest + (last + 1 - oldest) - 1 = last from by omega]

/-- The ledger of the rows from an order on. -/
def ledgerFrom (last oldest : Nat) (cursors : List Nat) : ThreadPageLedger where
  fetchedBeforeOrders := cursors
  minOrder := some oldest
  maxOrder := some last
  hasMoreOlder := true

/-- The thread with the rows from an order on, once the effects have run on a short list. -/
def listed (last oldest : Nat) (cursors : List Nat) : State where
  log := List.replicate last true
  cache := some ⟨rowsFrom last oldest, ledgerFrom last oldest cursors⟩
  hook := some (listing last oldest (ledgerFrom last oldest cursors))

theorem length_rowsFrom :
    (rowsFrom last oldest).length = last + 1 - oldest := by
  rw [rowsFrom, List.length_map, List.length_range']

theorem effects_short (cache : Option CachedThread) (ledger : ThreadPageLedger)
    (more : ledger.hasMoreOlder = true) (some : oldest ≤ last)
    (short : last + 1 - oldest ≤ maxMessagesPerGroup) :
    step ⟨List.replicate last true, cache,
        .some { listing last oldest ledger with messageCount := count }⟩ (.effects false) =
      listed last oldest ledger.fetchedBeforeOrders := by
  have length : (rowsFrom last oldest).length ≤ maxMessagesPerGroup := by rwa [length_rowsFrom]
  obtain ⟨cursors, lower, upper, hasMoreOlder⟩ := ledger
  obtain rfl : hasMoreOlder = true := more
  show State.mk _ (hookStep _ _ _ (.effects false)).2.1
    (.some (hookStep _ _ _ (.effects false)).1) = _
  rw [hookStep]
  dsimp only
  rw [syncCursor_listing some,
    show (listing last oldest _).messages = rowsFrom last oldest from rfl,
    setCachedThread_of_short _ length]
  rfl

/-- The thread with the rows from an order on, once the effects have run on a long list: the
ledger is that of its newest rows. -/
def trimmed (last oldest : Nat) (cursors : List Nat) : State where
  log := List.replicate last true
  cache := some ⟨rowsFrom last (last + 1 - maxMessagesPerGroup),
    ledgerFrom last (last + 1 - maxMessagesPerGroup) cursors⟩
  hook := some (listing last oldest (ledgerFrom last (last + 1 - maxMessagesPerGroup) cursors))

theorem trimMessagesWithLedger_long {last oldest limit : Nat} (long : limit < last + 1 - oldest)
    (some : 0 < limit) :
    trimMessagesWithLedger limit (rowsFrom last oldest) ledger =
      ⟨rowsFrom last (last + 1 - limit), ledgerFrom last (last + 1 - limit)
        (ledger.fetchedBeforeOrders.filter fun cursor => cursor < last + 1 - limit)⟩ := by
  have rest : (rowsFrom last oldest).drop ((rowsFrom last oldest).length - limit) =
      rowsFrom last (last + 1 - limit) := by
    rw [length_rowsFrom, rowsFrom, rowsFrom, ← List.map_drop, List.drop_range']
    congr 2 <;> omega
  rw [trimMessagesWithLedger_of_long ledger (by rw [length_rowsFrom]; omega), rest]
  have isMin : (orders (rowsFrom last (last + 1 - limit))).min? = .some (last + 1 - limit) := by
    rw [orders_rowsFrom, min_range' (by omega)]
  have isMax : (orders (rowsFrom last (last + 1 - limit))).max? = .some last := by
    rw [orders_rowsFrom, max_range' (by omega)]
    exact congrArg Option.some (by omega)
  have invalidated := invalidateLedgerAfterTrim_of_min ledger isMin true
  rw [isMax] at invalidated
  exact congrArg (CachedThread.mk _) invalidated

theorem effects_long (cache : Option CachedThread) (ledger : ThreadPageLedger)
    (some : oldest ≤ last) (long : maxMessagesPerGroup < last + 1 - oldest) :
    step ⟨List.replicate last true, cache,
        .some { listing last oldest ledger with messageCount := count }⟩ (.effects false) =
      trimmed last oldest (ledger.fetchedBeforeOrders.filter fun cursor =>
        cursor < last + 1 - maxMessagesPerGroup) := by
  have limit : 0 < maxMessagesPerGroup := by decide
  have stored := trimMessagesWithLedger_long (listing last oldest { ledger with
    minOrder := .some oldest
    maxOrder := .some last }).pageLedger long limit
  show State.mk _ (hookStep _ _ _ (.effects false)).2.1
    (.some (hookStep _ _ _ (.effects false)).1) = _
  rw [hookStep]
  dsimp only
  rw [syncCursor_listing some,
    show (listing last oldest _).messages = rowsFrom last oldest from rfl,
    setCachedThread, stored]
  rfl

/-- `loadMore` and its answer. -/
def scroll (bound : Nat) : List Input :=
  [.loadMore, .olderAnswer (List.range' (bound - messagePageSize) messagePageSize) true]

theorem scroll_listed {last oldest : Nat} {cursors : List Nat}
    (many : messagePageSize + 1 < oldest) (within : oldest ≤ last) (fresh : oldest ∉ cursors) :
    ∃ cache ledger, (scroll oldest).foldl step (listed last oldest cursors) =
        ⟨List.replicate last true, cache,
          some { listing last (oldest - messagePageSize) ledger with
            messageCount := last + 1 - oldest }⟩ ∧
      ledger.fetchedBeforeOrders = cursors ++ [oldest] ∧ ledger.hasMoreOlder = true ∧
      Along step Serves (listed last oldest cursors) (scroll oldest) := by
  have asks : shouldFetchOlderPage (ledgerFrom last oldest cursors) false false
      (last + 1 - oldest) = some oldest := by
    rw [shouldFetchOlderPage_eq_some]
    refine ⟨rfl, rfl, rfl, by omega, rfl, ?_⟩
    rw [hasFetchedBeforeOrder, ← Bool.not_eq_true, List.contains_iff_mem]
    exact fresh
  have asked : step (listed last oldest cursors) .loadMore =
      ⟨List.replicate last true, some ⟨rowsFrom last oldest, ledgerFrom last oldest cursors⟩,
        some { listing last oldest (ledgerFrom last oldest cursors) with
          older := some oldest }⟩ := step_loadMore asks
  have page := pageBefore_full many (show oldest ≤ last + 1 by omega)
  have rows : rowsBefore (List.replicate last true) oldest
      (List.range' (oldest - messagePageSize) messagePageSize) =
        List.range' (oldest - messagePageSize) messagePageSize := by
    refine List.filter_eq_self.mpr fun row isRow => ?_
    have inside := List.mem_range'_1.mp isRow
    rw [Bool.and_eq_true, decide_eq_true_iff, isTimeline_replicate]
    omega
  have merged : mergeMessages (rowsFrom last oldest)
      ((List.range' (oldest - messagePageSize) messagePageSize).map .ofOrder) =
        rowsFrom last (oldest - messagePageSize) := by
    refine mergeMessages_ofOrders ?_ List.pairwise_lt_range'
    have split := List.range'_append_1 (s := oldest - messagePageSize) (m := messagePageSize)
      (n := last + 1 - oldest)
    rw [show oldest - messagePageSize + messagePageSize = oldest by omega,
      show messagePageSize + (last + 1 - oldest) = last + 1 - (oldest - messagePageSize)
        by omega] at split
    rw [← split]
    exact List.perm_append_comm
  refine ⟨some ⟨rowsFrom last oldest, ledgerFrom last oldest cursors⟩,
    applyOlderPageToLedger (ledgerFrom last oldest cursors) oldest
      (List.range' (oldest - messagePageSize) messagePageSize) true,
    ?_, ?_, rfl, ?_, ?_, trivial⟩
  · rw [scroll, List.foldl_cons, List.foldl_cons, List.foldl_nil, asked, step_olderAnswer rfl, rows]
    dsimp only [listing]
    rw [merged]
    rfl
  · rw [applyOlderPageToLedger]
    refine if_neg ?_
    rw [hasFetchedBeforeOrder, List.contains_iff_mem]
    exact fresh
  · exact trivial
  rw [asked]
  intro bound isBound
  obtain rfl : oldest = bound := Option.some.inj isBound
  show (rowsBefore (List.replicate last true) oldest _, true) =
    pageBefore (List.replicate last true) oldest
  rw [rows, page]

/-- The inputs lead from one state to the other, and the relayer answers from its log. -/
def Leads (state : State) (inputs : List Input) (reached : State) : Prop :=
  inputs.foldl step state = reached ∧ Along step Serves state inputs

theorem Leads.trans {state between reached : State} {first second : List Input}
    (leads : Leads state first between) (leads' : Leads between second reached) :
    Leads state (first ++ second) reached := by
  refine ⟨?_, (Along.append _ _ _).mpr ⟨leads.2, ?_⟩⟩
  · rw [List.foldl_append, leads.1, leads'.1]
  · rw [leads.1]
    exact leads'.2

def scrolled (bound : Nat) : List Input := scroll bound ++ [.effects false]

theorem scroll_short (cursors : List Nat) (many : messagePageSize + 1 < oldest)
    (within : oldest ≤ last) (fresh : oldest ∉ cursors)
    (short : last + 1 - (oldest - messagePageSize) ≤ maxMessagesPerGroup) :
    Leads (listed last oldest cursors) (scrolled oldest)
      (listed last (oldest - messagePageSize) (cursors ++ [oldest])) := by
  obtain ⟨cache, ledger, reached, isCursors, more, serves⟩ := scroll_listed many within fresh
  refine ⟨?_, (Along.append _ _ _).mpr ⟨serves, trivial, trivial⟩⟩
  rw [scrolled, List.foldl_append, reached, List.foldl_cons, List.foldl_nil,
    effects_short _ _ _ _ _ more (by omega) short, isCursors]

theorem scroll_long (cursors : List Nat) (many : messagePageSize + 1 < oldest)
    (within : oldest ≤ last) (fresh : oldest ∉ cursors)
    (long : maxMessagesPerGroup < last + 1 - (oldest - messagePageSize)) :
    Leads (listed last oldest cursors) (scrolled oldest)
      (trimmed last (oldest - messagePageSize) ((cursors ++ [oldest]).filter fun cursor =>
        cursor < last + 1 - maxMessagesPerGroup)) := by
  obtain ⟨cache, ledger, reached, isCursors, -, serves⟩ := scroll_listed many within fresh
  refine ⟨?_, (Along.append _ _ _).mpr ⟨serves, trivial, trivial⟩⟩
  rw [scrolled, List.foldl_append, reached, List.foldl_cons, List.foldl_nil,
    effects_long _ _ _ _ _ (by omega) long, isCursors]

/-- The assignment of the rows of the thread. -/
theorem assign_all (log : List Bool) :
    Leads ⟨log, none, none⟩ (List.replicate count (.assign true))
      ⟨log ++ List.replicate count true, none, none⟩ := by
  induction count generalizing log with
  | zero => exact ⟨by simp, trivial⟩
  | succ count ih =>
    obtain ⟨reached, serves⟩ := ih (log ++ [true])
    rw [List.replicate_succ]
    refine ⟨reached.trans ?_, trivial, serves⟩
    rw [List.append_assoc]
    rfl

/-- The thread is opened: its newest page, and the effects. -/
def openThread (last : Nat) : List Input :=
  [.mount, .initialAnswer (List.range' (last + 1 - messagePageSize) messagePageSize) true,
    .reactionsLoaded, .initialDone, .effects false]

theorem serves_openThread {last : Nat} (many : messagePageSize < last) :
    Along step Serves ⟨List.replicate last true, none, none⟩ (openThread last) := by
  refine ⟨trivial, ?_, trivial, trivial, trivial, trivial⟩
  intro cached _
  refine ⟨last, by simp [step, act], ?_⟩
  have rows : newestRows (List.replicate last true)
      (List.range' (last + 1 - messagePageSize) messagePageSize) =
        List.range' (last + 1 - messagePageSize) messagePageSize := by
    refine List.filter_eq_self.mpr fun row isRow => ?_
    have inside := List.mem_range'_1.mp isRow
    rw [isTimeline_replicate]
    omega
  show (newestRows (List.replicate last true) _, true) =
    pageBefore (List.replicate last true) (last + 1)
  rw [rows, pageBefore_full (by omega) le_rfl]

def openedRun : List Input := List.replicate 351 (.assign true) ++ openThread 351

set_option maxRecDepth 100000 in
theorem leads_openedRun : Leads .start openedRun (listed 351 302 []) := by
  have opened : (openThread 351).foldl step ⟨List.replicate 351 true, none, none⟩ =
      listed 351 302 [] := by decide +kernel
  exact (assign_all 351 []).trans ⟨opened, serves_openThread (by decide)⟩

set_option maxRecDepth 100000 in
def Initial.shownLength : Initial → Nat
  | .shown initial _ => initial.length
  | _ => 0

theorem clean_openedRun : Along step Clean .start (openedRun ++ [.effects false]) := by
  have assigns : ∀ (count : Nat) (state : State),
      Along step Clean state (List.replicate count (.assign true)) := by
    intro count
    induction count with
    | zero => exact fun _ => trivial
    | succ count ih => exact fun state => ⟨trivial, ih _⟩
  rw [openedRun, List.append_assoc]
  refine (Along.append _ _ _).mpr ⟨assigns 351 .start, ?_⟩
  rw [State.start, (assign_all 351 []).1]
  refine ⟨trivial, trivial, ?_, trivial, ?_, ?_, trivial⟩
  · intro initial ledger isShown
    have isList := congrArg Initial.shownLength isShown
    refine isList.symm.le.trans ?_
    decide +kernel
  · show _ ≤ _
    decide +kernel
  · show _ ≤ _
    decide +kernel

/-- **The opened thread scrolls back**: it is idle, there are 301 older rows, and the page
before row 302 is requested. -/
theorem opened_scrolls_back :
    ScrollsBack (run openedRun) ∧
      Idle (run openedRun) (listing 351 302 (ledgerFrom 351 302 [])) := by
  refine ⟨scrolls_back openedRun leads_openedRun.2 clean_openedRun, ?_⟩
  rw [run, leads_openedRun.1]
  exact
    { isHook := rfl
      loaded := rfl
      noCatchUp := rfl
      noOlder := rfl
      settled := effects_short 351 302 50 _ (ledgerFrom 351 302 []) rfl (by decide) (by decide) }

/-- The thread is opened and scrolled back, six pages: 350 rows are listed. -/
def longRun : List Input :=
  openedRun ++ scrolled 302 ++ scrolled 252 ++ scrolled 202 ++ scrolled 152 ++ scrolled 102 ++
    scrolled 52

theorem leads_longRun : Leads .start longRun (trimmed 351 2 []) := by
  have first := scroll_short 351 302 [] (by decide) (by decide) (by decide) (by decide)
  have second := scroll_short 351 252 [302] (by decide) (by decide) (by decide) (by decide)
  have third := scroll_short 351 202 [302, 252] (by decide) (by decide) (by decide) (by decide)
  have fourth := scroll_short 351 152 [302, 252, 202] (by decide) (by decide) (by decide)
    (by decide)
  have fifth := scroll_short 351 102 [302, 252, 202, 152] (by decide) (by decide) (by decide)
    (by decide)
  have sixth := scroll_long 351 52 [302, 252, 202, 152, 102] (by decide) (by decide) (by decide)
    (by decide)
  exact leads_openedRun.trans first |>.trans second |>.trans third |>.trans fourth
    |>.trans fifth |>.trans sixth

/-- **A listed page is requested**: row 1 is older than the oldest row listed, and the next
request is for the page before row 52, of which every row is listed. -/
theorem listed_page_requested :
    ¬∀ inputs : List Input, Along step Serves .start inputs → ScrollsBack (run inputs) := by
  intro promised
  have scrolls := promised longRun leads_longRun.2
  rw [run, leads_longRun.1] at scrolls
  have idle : Idle (trimmed 351 2 []) (listing 351 2 (ledgerFrom 351 52 [])) :=
    { isHook := rfl
      loaded := rfl
      noCatchUp := rfl
      noOlder := rfl
      settled := effects_long 351 2 350 _ (ledgerFrom 351 52 []) (by decide) (by decide) }
  have oldest : (orders (rowsFrom 351 2)).min? = some 2 := by
    rw [orders_rowsFrom, min_range' (by decide)]
  have older : ∃ order ∈ Timeline (List.replicate 351 true), order < 2 :=
    ⟨1, (isTimeline_replicate _ _).mpr (by decide), by decide⟩
  obtain ⟨-, requests, -⟩ := (scrolls _ 2 idle oldest).1 older
  exact absurd (requests.symm.trans (show requested (trimmed 351 2 []) = some 52 from rfl))
    (by decide)

end Pager

end MessagingStack.App.Thread

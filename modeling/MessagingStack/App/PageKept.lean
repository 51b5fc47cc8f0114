import MessagingStack.App.ShownRows

/-!
# What a page ledger knows of a list

`Kept` says what a ledger knows of a list: if it reports no older rows, there are none; every
cursor that has been fetched lies above a listed row, or there is nothing before it; its
bounds belong to listed rows.  A list and its ledger keep this together, on the screen, in
the cache, and while they are loaded (`hookStep_kept`), in every step in which

* no list of more than `maxMessagesPerGroup` rows is written through, and
* the first row that a stream brings to an empty list is the first of the thread

(`Clean`).  The pages of the relayer are those of its log (`pageBefore`, `Serves`); no own
message is sent.
-/

namespace MessagingStack.App.Thread

namespace Pager

/-! ## Pages of the relayer -/

/-- The timeline rows before a bound, in ascending order. -/
def timelineBefore (log : List Bool) (bound : Nat) : List Nat :=
  (List.range (log.length + 1)).filter fun order => isTimeline log order && order < bound

/-- The page of the relayer before a bound: the newest rows before it, and whether there are
older ones. -/
def pageBefore (log : List Bool) (bound : Nat) : List Nat × Bool :=
  let older := timelineBefore log bound
  (older.drop (older.length - messagePageSize), decide (messagePageSize < older.length))

section Pages

variable {log : List Bool} {bound order : Nat}

theorem mem_timelineBefore :
    order ∈ timelineBefore log bound ↔ order ∈ Timeline log ∧ order < bound := by
  rw [timelineBefore, List.mem_filter, Bool.and_eq_true, decide_eq_true_iff, List.mem_range]
  refine ⟨fun both => both.2, fun both => ⟨?_, both⟩⟩
  exact Nat.lt_succ_of_le (timeline_within both.1)

theorem mem_pageBefore (isRow : order ∈ (pageBefore log bound).1) :
    order ∈ Timeline log ∧ order < bound :=
  mem_timelineBefore.mp (List.mem_of_mem_drop isRow)

theorem pageBefore_ne_nil (isRow : order ∈ Timeline log) (before : order < bound) :
    (pageBefore log bound).1 ≠ [] := by
  have older := List.length_pos_of_mem (mem_timelineBefore.mpr ⟨isRow, before⟩)
  have limit : 0 < messagePageSize := by decide
  rw [pageBefore, ← List.length_pos_iff, List.length_drop]
  omega

theorem mem_pageBefore_of_last (last : (pageBefore log bound).2 = false)
    (isRow : order ∈ Timeline log) (before : order < bound) : order ∈ (pageBefore log bound).1 := by
  have few : (timelineBefore log bound).length ≤ messagePageSize :=
    Nat.le_of_not_lt (of_decide_eq_false last)
  rw [pageBefore, Nat.sub_eq_zero_of_le few, List.drop_zero]
  exact mem_timelineBefore.mpr ⟨isRow, before⟩

end Pages

/-! ## When it is kept -/

/-- **The relayer answers from its log**, and no own message is sent.  The newest page is
that of the log as it is, or as it was. -/
def Serves (state : State) (input : Input) : Prop :=
  match input, state.hook with
  | .initialAnswer rows hasNext, some h =>
    ∀ cached, h.initial = .fetchTip cached →
      ∃ last ≤ state.log.length,
        (newestRows state.log rows, hasNext) = pageBefore state.log (last + 1)
  | .olderAnswer rows hasNext, some h =>
    ∀ bound, h.older = some bound →
      (rowsBefore state.log bound rows, hasNext) = pageBefore state.log bound
  | .send, _ | .accept _, _ | .confirm _, _ | .sendFails _, _ => False
  | _, _ => True

/-- **The condition** of a clean step. -/
def Clean (state : State) (input : Input) : Prop :=
  match input, state.hook with
  | .effects _, some h => h.messages.length ≤ maxMessagesPerGroup
  | .reactionsLoaded, some h =>
    ∀ initial ledger, h.initial = .shown initial ledger → initial.length ≤ maxMessagesPerGroup
  | .event order _ _, some h =>
    h.stream ≠ none → h.messages = [] → ∀ first ∈ Timeline state.log, order ≤ first
  | _, _ => True

/-! ## The invariant -/

section Invariant

variable (log : List Bool)

def Above (messages : List Message) (bound : Nat) : Prop :=
  bound ≤ log.length ∧ ∃ p ∈ Stands messages, p ≤ bound

structure Kept (messages : List Message) (ledger : ThreadPageLedger) : Prop where
  rows : ∀ message ∈ messages, message = .ofOrder message.order
  within : ∀ p ∈ Stands messages, p ≤ log.length
  /-- If it reports no older rows, there are none. -/
  bottom : ledger.hasMoreOlder = false → messages ≠ [] →
    ∀ order ∈ Timeline log, ∃ p ∈ Stands messages, p ≤ order
  fetched : ∀ cursor ∈ ledger.fetchedBeforeOrders, cursor ≤ log.length ∧
    ((∃ p ∈ Stands messages, p < cursor) ∨ ∀ order ∈ Timeline log, cursor ≤ order)
  lower : ∀ bound, ledger.minOrder = some bound → Above log messages bound
  upper : ledger.maxOrder ≠ none → messages ≠ []

structure Warm (messages : List Message) (ledger : ThreadPageLedger) : Prop where
  kept : Kept log messages ledger
  bounded : Bounded messages ledger

/-- What holds while `loadInitial` is under way. -/
def InitialKept : Initial → Prop
  | .fetchTip cached =>
    ∀ thread, cached = some thread → thread.messages = [] ∧ Kept log [] thread.pageLedger
  | .catchUpFrom merged ledger _ _ => Warm log merged ledger ∧ merged ≠ []
  | .shown initial ledger => Warm log initial ledger
  | .cached _ | .finished => True

/-- **The invariant of a mounted hook.** -/
structure HookKept (h : Hook) : Prop where
  kept : Kept log h.messages h.pageLedger
  catchUp : h.catchUp ≠ none → h.messages ≠ []
  older : ∀ bound, h.older = some bound → Above log h.messages bound
  quiet : h.initial ≠ .finished → h.catchUp = none ∧ h.older = none
  initial : InitialKept log h.initial

end Invariant

/-- **The invariant.** -/
structure Inv (state : State) : Prop where
  cache : ∀ thread, state.cache = some thread → Warm state.log thread.messages thread.pageLedger
  hook : ∀ h, state.hook = some h → HookKept state.log h

/-! ## Lists and ledgers -/

section Lists

variable {log : List Bool} {messages : List Message} {ledger : ThreadPageLedger}

theorem Kept.stands (kept : Kept log messages ledger) {message : Message}
    (isMessage : message ∈ messages) : message.order ∈ Stands messages := by
  have isRow := isMessage
  rw [kept.rows message isMessage] at isRow
  exact isRow

theorem Kept.exists_stands (kept : Kept log messages ledger) (some : messages ≠ []) :
    ∃ p, p ∈ Stands messages := by
  obtain ⟨message, isMessage⟩ := List.exists_mem_of_ne_nil messages some
  exact ⟨message.order, kept.stands isMessage⟩

variable {bound p : Nat} {rows : List Nat}

theorem ne_nil_of_stands (stands : p ∈ Stands messages) : messages ≠ [] := List.ne_nil_of_mem stands

theorem mem_orders_of_stands (stands : p ∈ Stands messages) : p ∈ orders messages :=
  List.mem_map.mpr ⟨.ofOrder p, stands, rfl⟩

theorem Kept.mem_orders (kept : Kept log messages ledger) {order : Nat} :
    order ∈ orders messages ↔ order ∈ Stands messages := by
  refine ⟨fun isOrder => ?_, mem_orders_of_stands⟩
  obtain ⟨message, isMessage, rfl⟩ := List.mem_map.mp isOrder
  exact kept.stands isMessage

theorem Above.mono {messages' : List Message} (above : Above log messages bound)
    (more : Stands messages ⊆ Stands messages') : Above log messages' bound := by
  obtain ⟨within, p, stands, lower⟩ := above
  exact ⟨within, p, more stands, lower⟩

/-! ### The log grows -/

theorem Above.assign (above : Above log messages bound) (timeline : Bool) :
    Above (log ++ [timeline]) messages bound := by
  refine ⟨?_, above.2⟩
  rw [List.length_append]
  exact above.1.trans (Nat.le_add_right _ _)

theorem Kept.assign (kept : Kept log messages ledger) (timeline : Bool) :
    Kept (log ++ [timeline]) messages ledger where
  rows := kept.rows
  within p stands := by
    have old := kept.within p stands
    rw [List.length_append]
    omega
  bottom last some order isRow := by
    by_cases old : order ≤ log.length
    · exact kept.bottom last some order (timeline_append timeline isRow old)
    -- The new row is younger than every listed one.
    obtain ⟨p, stands⟩ := kept.exists_stands some
    have within := kept.within p stands
    exact ⟨p, stands, by omega⟩
  fetched cursor isFetched := by
    obtain ⟨within, covered⟩ := kept.fetched cursor isFetched
    refine ⟨by rw [List.length_append]; omega, covered.imp_right fun none order isRow => ?_⟩
    by_cases old : order ≤ log.length
    · exact none order (timeline_append timeline isRow old)
    · omega
  lower bound isBound := (kept.lower bound isBound).assign timeline
  upper := kept.upper

/-! ### Rows join the list -/

theorem mergeRows_rows (rows : List Nat)
    (held : ∀ message ∈ messages, message = .ofOrder message.order) :
    ∀ message ∈ mergeMessages messages (rows.map .ofOrder), message = .ofOrder message.order := by
  intro message isMessage
  rcases mem_mergeMessages isMessage with isOld | isNew
  · exact held message isOld
  · obtain ⟨order, -, rfl⟩ := List.mem_map.mp isNew
    rfl

section

variable (kept : Kept log messages ledger)
include kept

/-- **Rows join the list**; those that an empty list receives begin the thread. -/
theorem Kept.merge (timeline : ∀ order ∈ rows, order ∈ Timeline log)
    (first : messages = [] → ∀ row ∈ rows, ∀ order ∈ Timeline log, ∃ p ∈ rows, p ≤ order) :
    Kept log (mergeMessages messages (rows.map .ofOrder)) ledger := by
  have joined := stands_mergeMessages messages rows
  have more : Stands messages ⊆ Stands (mergeMessages messages (rows.map .ofOrder)) := by
    rw [joined]
    exact Set.subset_union_left
  have held := mergeRows_rows rows kept.rows
  exact
    { rows := held
      within := fun p stands => by
        rw [joined] at stands
        rcases stands with isOld | isNew
        · exact kept.within p isOld
        · exact timeline_within (timeline p isNew)
      bottom := fun last some order isRow => by
        by_cases empty : messages = []
        · obtain ⟨message, isMessage⟩ := List.exists_mem_of_ne_nil _ some
          rcases mem_mergeMessages isMessage with isOld | isNew
          · rw [empty] at isOld
            exact absurd isOld List.not_mem_nil
          · obtain ⟨row, isNewRow, -⟩ := List.mem_map.mp isNew
            obtain ⟨p, stands, lower⟩ := first empty row isNewRow order isRow
            exact ⟨p, by rw [joined]; exact Or.inr stands, lower⟩
        · obtain ⟨p, stands, lower⟩ := kept.bottom last empty order isRow
          exact ⟨p, more stands, lower⟩
      fetched := fun cursor isFetched => by
        obtain ⟨within, covered⟩ := kept.fetched cursor isFetched
        exact ⟨within, covered.imp_left fun ⟨p, stands, below⟩ => ⟨p, more stands, below⟩⟩
      lower := fun bound isBound => (kept.lower bound isBound).mono more
      upper := fun isTip => by
        obtain ⟨p, stands⟩ := kept.exists_stands (kept.upper isTip)
        exact ne_nil_of_stands (more stands) }

theorem Kept.newer (listed : ∀ order ∈ rows, order ∈ Stands messages) :
    Kept log messages (applyNewerOrdersToLedger ledger rows) :=
  { kept with
    lower := fun bound isBound => by
      rcases extendBound_eq (fun held order => by omega) isBound with isRow | isOld
      · exact ⟨kept.within bound (listed bound isRow), bound, listed bound isRow, le_rfl⟩
      · exact kept.lower bound isOld
    upper := fun isTip => by
      obtain ⟨tip, isTip⟩ := Option.ne_none_iff_exists'.mp isTip
      rcases extendBound_eq (fun held order => by omega) isTip with isRow | isOld
      · exact ne_nil_of_stands (listed tip isRow)
      · exact kept.upper (by rw [isOld]; exact Option.some_ne_none tip) }

theorem Kept.older (above : Above log messages bound)
    (listed : ∀ order ∈ (pageBefore log bound).1, order ∈ Stands messages) :
    Kept log messages (applyOlderPageToLedger ledger bound (pageBefore log bound).1
      (pageBefore log bound).2) where
  rows := kept.rows
  within := kept.within
  bottom last _ order isRow := by
    have noMore : (pageBefore log bound).2 = false := by
      cases more : (pageBefore log bound).2 with
      | false => rfl
      | true =>
        -- A page that has older rows is not empty.
        have few : messagePageSize < (timelineBefore log bound).length := of_decide_eq_true more
        obtain ⟨first, isFirst⟩ := List.exists_mem_of_length_pos (Nat.zero_lt_of_lt few)
        obtain ⟨isRow, before⟩ := mem_timelineBefore.mp isFirst
        have some := pageBefore_ne_nil isRow before
        rw [applyOlderPageToLedger, more] at last
        simp [some] at last
    rcases lt_or_ge order bound with before | after
    · exact ⟨order, listed order (mem_pageBefore_of_last noMore isRow before), le_rfl⟩
    · obtain ⟨-, p, stands, lower⟩ := above
      exact ⟨p, stands, lower.trans after⟩
  fetched cursor isFetched := by
    have either : cursor ∈ ledger.fetchedBeforeOrders ∨ cursor = bound := by
      rw [applyOlderPageToLedger] at isFetched
      dsimp only at isFetched
      split_ifs at isFetched
      · exact Or.inl isFetched
      · exact (List.mem_append.mp isFetched).imp_right List.mem_singleton.mp
    rcases either with isOld | rfl
    · exact kept.fetched cursor isOld
    refine ⟨above.1, ?_⟩
    by_cases isLast : ∀ order ∈ Timeline log, cursor ≤ order
    · exact Or.inr isLast
    push Not at isLast
    obtain ⟨order, isRow, before⟩ := isLast
    obtain ⟨row, isPage⟩ := List.exists_mem_of_ne_nil _ (pageBefore_ne_nil isRow before)
    exact Or.inl ⟨row, listed row isPage, (mem_pageBefore isPage).2⟩
  lower other isBound := by
    rcases extendBound_eq (fun held order => by omega) isBound with isRow | isOld
    · exact ⟨kept.within other (listed other isRow), other, listed other isRow, le_rfl⟩
    · exact kept.lower other isOld
  upper _ := by
    obtain ⟨-, p, stands, -⟩ := above
    exact ne_nil_of_stands stands

theorem Kept.bounds :
    Kept log messages { ledger with
      minOrder := (orders messages).min?
      maxOrder := (orders messages).max? } where
  rows := kept.rows
  within := kept.within
  bottom := kept.bottom
  fetched := kept.fetched
  lower bound isBound := by
    have stands := kept.mem_orders.mp (List.min?_mem isBound)
    exact ⟨kept.within bound stands, bound, stands, le_rfl⟩
  upper isTip := by
    rintro rfl
    exact isTip rfl

end

end Lists

/-! ## The hook -/

/-- The part of the hook that paging depends on. -/
def view (h : Hook) :
    List Message × ThreadPageLedger × Option CatchUp × Option Nat × Initial :=
  (h.messages, h.pageLedger, h.catchUp, h.older, h.initial)

section Hook

variable {log : List Bool} {cache : Option CachedThread} {h h' : Hook}

theorem HookKept.of_view (kept : HookKept log h) (same : view h' = view h) : HookKept log h' := by
  obtain ⟨messages, ledger, catchUp, older, initial⟩ :
      h'.messages = h.messages ∧ h'.pageLedger = h.pageLedger ∧ h'.catchUp = h.catchUp ∧
        h'.older = h.older ∧ h'.initial = h.initial := by
    simpa only [view, Prod.mk.injEq] using same
  exact
    { kept := by rw [messages, ledger]; exact kept.kept
      catchUp := by rw [catchUp, messages]; exact kept.catchUp
      older := by rw [older, messages]; exact kept.older
      quiet := by rw [initial, catchUp, older]; exact kept.quiet
      initial := by rw [initial]; exact kept.initial }

theorem HookKept.assign (kept : HookKept log h) (timeline : Bool) :
    HookKept (log ++ [timeline]) h where
  kept := kept.kept.assign timeline
  catchUp := kept.catchUp
  older bound isBound := (kept.older bound isBound).assign timeline
  quiet := kept.quiet
  initial := by
    have old := kept.initial
    cases phase : h.initial with
    | fetchTip =>
      rw [phase] at old
      intro thread isThread
      exact ⟨(old thread isThread).1, (old thread isThread).2.assign timeline⟩
    | catchUpFrom =>
      rw [phase] at old
      exact ⟨⟨old.1.kept.assign timeline, old.1.bounded⟩, old.2⟩
    | shown =>
      rw [phase] at old
      exact ⟨old.kept.assign timeline, old.bounded⟩
    | cached | finished => trivial

/-! ### Marks leave paging alone -/

theorem view_scheduleDeliveredAck (order : Nat) : view (h.scheduleDeliveredAck order) = view h := by
  rw [Hook.scheduleDeliveredAck]
  split_ifs
  · rfl
  · rfl

theorem view_flushDeliveredAck : view h.flushDeliveredAck.1 = view h := by
  rw [Hook.flushDeliveredAck]
  split_ifs
  · rfl
  · rfl

theorem view_postDeliveredFirst : view h.postDeliveredFirst.1 = view h := by
  rw [Hook.postDeliveredFirst]
  split_ifs
  · rfl
  · rfl

theorem view_flushPeerReadAck : view h.flushPeerReadAck.1 = view h := by
  rw [Hook.flushPeerReadAck]
  by_cases nothing : h.pendingPeerReadUpto = 0
  · rw [if_pos nothing]
  rw [if_neg nothing]
  cases h.receiptMode with
  | none => rfl
  | deliveredOnly => exact view_scheduleDeliveredAck _
  | full =>
    dsimp only
    split_ifs
    · rfl
    · exact view_postDeliveredFirst

theorem view_schedulePeerReadAck (order : Nat) : view (h.schedulePeerReadAck order).1 = view h := by
  rw [Hook.schedulePeerReadAck]
  split_ifs
  · rfl
  · exact view_flushPeerReadAck

theorem view_markRead (pageEngaged : Bool) : view (h.markRead pageEngaged).1 = view h := by
  rw [Hook.markRead]
  split_ifs
  · rfl
  cases (orders h.messages).max? with
  | none => rfl
  | some maxOrder =>
    dsimp only
    split_ifs
    · exact view_schedulePeerReadAck maxOrder
    · exact view_schedulePeerReadAck maxOrder

theorem view_deliverTip (initial : List Message) : view (h.deliverTip initial).1 = view h := by
  rw [Hook.deliverTip]
  cases (orders initial).max? with
  | none => rfl
  | some => exact view_flushDeliveredAck

/-! ### The first load -/

variable {cached : Option CachedThread} {merged : List Message} {cursor : Option Nat} {order : Nat}

theorem coldLedger_eq (empty : ∀ thread, cached = some thread → thread.messages = [])
    (fetched : List Nat) (hasNext : Bool) :
    ∃ cursors, (∀ cursor ∈ cursors, ∃ thread, cached = some thread ∧
        cursor ∈ thread.pageLedger.fetchedBeforeOrders) ∧
      Hook.coldLedger cached fetched hasNext =
        { fetchedBeforeOrders := cursors
          minOrder := (orders (Hook.coldList cached fetched)).min?
          maxOrder := (orders (Hook.coldList cached fetched)).max?
          hasMoreOlder := hasNext } := by
  cases cached with
  | none => exact ⟨[], fun _ isCursor => absurd isCursor List.not_mem_nil, rfl⟩
  | some thread =>
    have none := empty thread rfl
    refine ⟨thread.pageLedger.fetchedBeforeOrders, fun cursor isCursor =>
      ⟨thread, rfl, isCursor⟩, ?_⟩
    have more : Hook.coldHasMoreOlder (some thread) fetched hasNext = hasNext := by
      unfold Hook.coldHasMoreOlder
      cases fetched.min? with
      | none => rfl
      | some =>
        dsimp only
        rw [none]
        rfl
    rw [Hook.coldLedger, more]
    split_ifs with noCursors
    · rw [List.isEmpty_iff.mp noCursors]
      rfl
    · rfl

theorem warm_cold
    (empty : ∀ thread, cached = some thread → thread.messages = [] ∧ Kept log [] thread.pageLedger)
    {last : Nat} :
    Warm log (Hook.coldList cached (pageBefore log (last + 1)).1)
      (Hook.coldLedger cached (pageBefore log (last + 1)).1 (pageBefore log (last + 1)).2) := by
  refine ⟨?_, bounded_coldLedger cached _ _⟩
  have none : ∀ thread, cached = some thread → thread.messages = [] :=
    fun thread isThread => (empty thread isThread).1
  obtain ⟨cursors, ofCached, isLedger⟩ := coldLedger_eq none (pageBefore log (last + 1)).1
    (pageBefore log (last + 1)).2
  have stands : Stands (Hook.coldList cached (pageBefore log (last + 1)).1) =
      { order | order ∈ (pageBefore log (last + 1)).1 } := by
    rw [coldList_eq none, stands_sortMessagesByOrder, stands_ofOrders]
  have listed : ∀ order ∈ (pageBefore log (last + 1)).1,
      order ∈ Stands (Hook.coldList cached (pageBefore log (last + 1)).1) := by
    intro order isPage
    rw [stands]
    exact isPage
  have rows : ∀ message ∈ Hook.coldList cached (pageBefore log (last + 1)).1,
      message = .ofOrder message.order := by
    intro message isMessage
    rw [coldList_eq none, mem_sortMessagesByOrder] at isMessage
    obtain ⟨order, -, rfl⟩ := List.mem_map.mp isMessage
    rfl
  rw [isLedger]
  have bare : Kept log (Hook.coldList cached (pageBefore log (last + 1)).1)
      ⟨cursors, Option.none, Option.none, (pageBefore log (last + 1)).2⟩ := ?_
  · exact bare.bounds
  exact
    { rows
      within := fun p isPage => by
        rw [stands] at isPage
        exact timeline_within (mem_pageBefore isPage).1
      bottom := fun noMore some order isRow => by
        rcases Nat.lt_or_ge order (last + 1) with before | after
        · exact ⟨order, listed order (mem_pageBefore_of_last noMore isRow before), le_rfl⟩
        obtain ⟨message, isMessage⟩ := List.exists_mem_of_ne_nil _ some
        rw [coldList_eq none, mem_sortMessagesByOrder] at isMessage
        obtain ⟨first, isPage, -⟩ := List.mem_map.mp isMessage
        have before := (mem_pageBefore isPage).2
        exact ⟨first, listed first isPage, by omega⟩
      fetched := fun cursor isCursor => by
        obtain ⟨thread, isThread, isFetched⟩ := ofCached cursor isCursor
        obtain ⟨within, covered⟩ := (empty thread isThread).2.fetched cursor isFetched
        refine ⟨within, Or.inr (covered.resolve_left ?_)⟩
        rintro ⟨p, stands, -⟩
        exact List.not_mem_nil stands
      lower := fun _ isBound => nomatch isBound
      upper := fun isTip => absurd rfl isTip }

variable {ledger : ThreadPageLedger} {rows : List Nat}

theorem HookKept.showInitial (kept : HookKept log h) (loading : h.initial ≠ .finished)
    {initial : List Message} (warm : Warm log initial ledger) :
    HookKept log (h.showInitial initial ledger) where
  kept := warm.kept
  catchUp isOne := absurd (kept.quiet loading).1 isOne
  older _ isBound := nomatch (kept.quiet loading).2.symm.trans isBound
  quiet _ := kept.quiet loading
  initial := warm

theorem Warm.page (warm : Warm log merged ledger) (some : merged ≠ [])
    (timeline : ∀ order ∈ rows, order ∈ Timeline log) :
    Warm log (mergeMessages merged (rows.map .ofOrder)) (applyNewerOrdersToLedger ledger rows) ∧
      mergeMessages merged (rows.map .ofOrder) ≠ [] := by
  have joined := stands_mergeMessages merged rows
  have merged' := warm.kept.merge timeline fun empty => absurd empty some
  obtain ⟨p, stands⟩ := warm.kept.exists_stands some
  refine ⟨⟨merged'.newer fun order isRow => ?_, fun _ => ?_⟩, ?_⟩
  · rw [joined]
    exact Or.inr isRow
  · have bounds := warm.bounded some
    rw [shouldWarmCatchUpOnly, Bool.and_eq_true] at bounds ⊢
    exact ⟨extendBound_isSome (Or.inl bounds.1), extendBound_isSome (Or.inl bounds.2)⟩
  · refine ne_nil_of_stands (p := p) ?_
    rw [joined]
    exact Or.inl stands

theorem HookKept.warmPage (kept : HookKept log h) {cursor pages : Nat}
    (waiting : h.initial = .catchUpFrom merged ledger cursor pages) (hasNext : Bool)
    (timeline : ∀ order ∈ rows, order ∈ Timeline log) :
    HookKept log (h.warmPage merged ledger cursor pages rows hasNext).1 := by
  have loading : h.initial ≠ .finished := by
    rw [waiting]
    exact Initial.noConfusion
  have old := kept.initial
  rw [waiting] at old
  obtain ⟨warm, some⟩ := old
  rw [Hook.warmPage]
  by_cases none : rows.isEmpty = true
  · rw [if_pos none]
    exact kept.showInitial loading warm
  rw [if_neg none]
  obtain ⟨page, some'⟩ := warm.page some timeline
  dsimp only
  split_ifs
  · exact
      { kept with
        quiet := fun _ => kept.quiet loading
        initial := ⟨page, some'⟩ }
  · exact kept.showInitial loading page

/-! ### The session cache -/

theorem setCachedThread_of_short {messages : List Message} (ledger : ThreadPageLedger)
    (short : messages.length ≤ maxMessagesPerGroup) :
    setCachedThread messages ledger = ⟨messages, ledger⟩ :=
  trimMessagesWithLedger_of_short ledger short

theorem HookKept.syncCursor (kept : HookKept log h) : HookKept log h.syncCursor := by
  rw [Hook.syncCursor]
  split_ifs
  · exact kept.of_view rfl
  exact
    { kept := kept.kept.bounds
      catchUp := kept.catchUp
      older := kept.older
      quiet := kept.quiet
      initial := kept.initial }

theorem HookKept.effects (kept : HookKept log h)
    (ok : ∀ thread, cache = some thread → Warm log thread.messages thread.pageLedger)
    (pageEngaged : Bool) (short : h.messages.length ≤ maxMessagesPerGroup) :
    HookKept log (hookStep log cache h (.effects pageEngaged)).1 ∧
      ∀ thread, (hookStep log cache h (.effects pageEngaged)).2.1 = some thread →
        Warm log thread.messages thread.pageLedger := by
  have synced := kept.syncCursor
  rw [hookStep]
  dsimp only
  split_ifs with empty
  · exact ⟨synced, ok⟩
  have short' : h.syncCursor.messages.length ≤ maxMessagesPerGroup := by rwa [syncCursor_messages]
  rw [setCachedThread_of_short _ short']
  constructor
  · have same : HookKept log { h.syncCursor with
        pageLedger := h.syncCursor.pageLedger
        hasMore := h.syncCursor.pageLedger.hasMoreOlder } := synced.of_view rfl
    exact same.of_view (view_markRead pageEngaged)
  intro thread isThread
  rw [← Option.some.inj isThread]
  refine ⟨synced.kept, fun rows => ?_⟩
  rw [syncCursor_messages] at rows
  obtain ⟨lower, upper, isMin, isMax⟩ := exists_bounds rows
  dsimp only
  rw [Hook.syncCursor, if_neg (by simpa using rows)]
  exact shouldWarmCatchUpOnly_of_bounds isMin isMax

/-! ### Rows that come -/

theorem HookKept.merge (kept : HookKept log h) (rows : List Nat)
    (timeline : ∀ order ∈ rows, order ∈ Timeline log)
    (first : h.messages = [] → ∀ row ∈ rows, ∀ order ∈ Timeline log, ∃ p ∈ rows, p ≤ order) :
    HookKept log { h with messages := mergeMessages h.messages (rows.map .ofOrder) } := by
  have more : Stands h.messages ⊆ Stands (mergeMessages h.messages (rows.map .ofOrder)) := by
    rw [stands_mergeMessages]
    exact Set.subset_union_left
  exact
    { kept := kept.kept.merge timeline first
      catchUp := fun isOne => by
        obtain ⟨p, stands⟩ := kept.kept.exists_stands (kept.catchUp isOne)
        exact ne_nil_of_stands (more stands)
      older := fun bound isBound => (kept.older bound isBound).mono more
      quiet := kept.quiet
      initial := kept.initial }

theorem view_joinEvent (created acked : Bool) :
    view (h.joinEvent cursor order created acked) =
      view { h with messages := mergeMessages h.messages [.ofOrder order] } := by
  rw [Hook.joinEvent]
  cases acked with
  | true => exact view_scheduleDeliveredAck order
  | false => rfl

/-- **An event**: the first row of an empty list begins the thread. -/
theorem HookKept.joinEvent (kept : HookKept log h) (created acked : Bool)
    (isRow : order ∈ Timeline log) (first : h.messages = [] → ∀ other ∈ Timeline log, order ≤ other)
    :
    HookKept log (h.joinEvent cursor order created acked) := by
  have merged := kept.merge [order]
    (fun other isOther => by rw [List.mem_singleton.mp isOther]; exact isRow)
    fun empty _ _ other isOther => ⟨order, List.mem_singleton_self order, first empty other isOther⟩
  exact merged.of_view (view_joinEvent created acked)

theorem HookKept.catchUpPage (kept : HookKept log h) {catchUp : CatchUp}
    (waiting : h.catchUp = some catchUp) (hasNext : Bool)
    (timeline : ∀ order ∈ rows, order ∈ Timeline log) :
    HookKept log (h.catchUpPage catchUp rows hasNext).1 := by
  have some : h.messages ≠ [] := kept.catchUp (by rw [waiting]; exact Option.some_ne_none _)
  have loaded : h.initial = .finished := by
    by_contra loading
    exact nomatch waiting.symm.trans (kept.quiet loading).1
  rw [Hook.catchUpPage]
  cases isTip : rows.max? with
  | none =>
    exact
      { kept with
        catchUp := fun isOne => absurd rfl isOne
        quiet := fun loading => absurd loaded loading }
  | some tip =>
    have merged := kept.merge rows timeline fun empty => absurd empty some
    have listed : ∀ order ∈ rows,
        order ∈ Stands (mergeMessages h.messages (rows.map .ofOrder)) := by
      intro order isRow
      rw [stands_mergeMessages]
      exact Or.inr isRow
    have joined : HookKept log (h.joinNewer rows tip) := by
      have newer : HookKept log { h with
          messages := mergeMessages h.messages (rows.map .ofOrder)
          pageLedger := applyNewerOrdersToLedger h.pageLedger rows } :=
        { merged with kept := merged.kept.newer listed }
      exact newer.of_view (view_scheduleDeliveredAck tip)
    have isMore : (h.joinNewer rows tip).messages ≠ [] := by
      rw [joinNewer_messages]
      exact merged.catchUp (by rw [waiting]; exact Option.some_ne_none _)
    have initial : (h.joinNewer rows tip).initial = .finished :=
      (joinNewer_initial rows tip).trans loaded
    dsimp only
    split_ifs
    · exact
        { joined with
          catchUp := fun _ => isMore
          quiet := fun loading => absurd initial loading }
    exact
      { joined with
        catchUp := fun isOne => absurd rfl isOne
        quiet := fun loading => absurd initial loading }

/-- **The page that `loadMore` waits for.** -/
theorem HookKept.olderPage (kept : HookKept log h) {bound : Nat} (waiting : h.older = some bound) :
    HookKept log { h with
      messages := mergeMessages h.messages ((pageBefore log bound).1.map .ofOrder)
      pageLedger := applyOlderPageToLedger h.pageLedger bound (pageBefore log bound).1
        (pageBefore log bound).2
      hasMore := (applyOlderPageToLedger h.pageLedger bound (pageBefore log bound).1
        (pageBefore log bound).2).hasMoreOlder
      older := none } := by
  have above := kept.older bound waiting
  have some : h.messages ≠ [] := by
    obtain ⟨-, p, stands, -⟩ := above
    exact ne_nil_of_stands stands
  have loaded : h.initial = .finished := by
    by_contra loading
    exact nomatch waiting.symm.trans (kept.quiet loading).2
  have merged := kept.merge (pageBefore log bound).1
    (fun _ isPage => (mem_pageBefore isPage).1) fun empty => absurd empty some
  have listed : ∀ order ∈ (pageBefore log bound).1,
      order ∈ Stands (mergeMessages h.messages ((pageBefore log bound).1.map .ofOrder)) := by
    intro order isPage
    rw [stands_mergeMessages]
    exact Or.inr isPage
  exact
    { merged with
      kept := merged.kept.older (merged.older bound waiting) listed
      older := fun _ isBound => nomatch isBound
      quiet := fun loading => absurd loaded loading }

/-! ### Steps -/

theorem hookStep_kept (kept : HookKept log h)
    (ok : ∀ thread, cache = some thread → Warm log thread.messages thread.pageLedger)
    (input : Input) (serves : Serves ⟨log, cache, some h⟩ input)
    (clean : Clean ⟨log, cache, some h⟩ input) :
    HookKept log (hookStep log cache h input).1 ∧
      ∀ thread, (hookStep log cache h input).2.1 = some thread →
        Warm log thread.messages thread.pageLedger := by
  cases input with
  | initialAnswer rows hasNext =>
    rw [hookStep]
    cases phase : h.initial with
    | fetchTip cached =>
      have loading : h.initial ≠ .finished := by
        rw [phase]
        exact Initial.noConfusion
      obtain ⟨last, -, isPage⟩ := serves cached phase
      have empty := kept.initial
      rw [phase] at empty
      rw [Prod.ext_iff] at isPage
      dsimp only at isPage ⊢
      rw [isPage.1, isPage.2]
      exact ⟨kept.showInitial loading (warm_cold empty), ok⟩
    | catchUpFrom => exact ⟨kept.warmPage phase hasNext fun _ isRow => mem_rowsAfter isRow, ok⟩
    | shown | cached | finished => exact ⟨kept, ok⟩
  | initialFails =>
    rw [hookStep]
    cases phase : h.initial with
    | fetchTip | catchUpFrom =>
      exact ⟨{ kept with quiet := fun loading => absurd rfl loading, initial := trivial }, ok⟩
    | shown | cached | finished => exact ⟨kept, ok⟩
  | reactionsLoaded =>
    rw [hookStep]
    cases phase : h.initial with
    | shown initial ledger =>
      have loading : h.initial ≠ .finished := by
        rw [phase]
        exact Initial.noConfusion
      have warm := kept.initial
      rw [phase] at warm
      dsimp only
      rw [setCachedThread_of_short ledger (clean initial ledger phase)]
      refine ⟨{ kept with quiet := fun _ => kept.quiet loading, initial := trivial }, ?_⟩
      intro thread isThread
      rw [← Option.some.inj isThread]
      exact warm
    | fetchTip | catchUpFrom | cached | finished => exact ⟨kept, ok⟩
  | initialDone =>
    rw [hookStep]
    cases phase : h.initial with
    | cached initial =>
      have told := kept.of_view (view_deliverTip initial)
      exact ⟨{ told with quiet := fun loading => absurd rfl loading, initial := trivial }, ok⟩
    | fetchTip | catchUpFrom | shown | finished => exact ⟨kept, ok⟩
  | effects pageEngaged => exact kept.effects ok pageEngaged clean
  | subscribe =>
    rw [hookStep]
    split_ifs
    · exact ⟨kept, ok⟩
    · exact ⟨kept.syncCursor.of_view rfl, ok⟩
  | event order created acked =>
    rw [hookStep]
    cases streams : h.stream with
    | none => exact ⟨kept, ok⟩
    | some cursor =>
      dsimp only
      split_ifs with isRow
      · refine ⟨kept.joinEvent created acked isRow (clean ?_), ok⟩
        rw [streams]
        exact Option.some_ne_none cursor
      · exact ⟨kept, ok⟩
  | catchUp =>
    rw [hookStep]
    split
    · rename_i cursor _ phase _ isTip
      have some : h.messages ≠ [] :=
        kept.kept.upper (by rw [isTip]; exact Option.some_ne_none cursor)
      exact ⟨{ kept with
        catchUp := fun _ => some
        quiet := fun loading => absurd phase loading }, ok⟩
    · exact ⟨kept, ok⟩
  | catchUpAnswer rows hasNext =>
    rw [hookStep]
    cases waiting : h.catchUp with
    | none => exact ⟨kept, ok⟩
    | some => exact ⟨kept.catchUpPage waiting hasNext fun _ => mem_rowsAfter, ok⟩
  | catchUpFails =>
    exact ⟨{ kept with
      catchUp := fun isOne => absurd rfl isOne
      quiet := fun loading => ⟨rfl, (kept.quiet loading).2⟩ }, ok⟩
  | loadMore =>
    rw [hookStep]
    cases asks : shouldFetchOlderPage h.pageLedger h.older.isSome (h.initial != .finished)
      h.messageCount with
    | none => exact ⟨kept, ok⟩
    | some bound =>
      obtain ⟨-, -, loaded, -, isMin, -⟩ := shouldFetchOlderPage_eq_some.mp asks
      have phase : h.initial = .finished := by simpa using loaded
      refine ⟨{ kept with older := ?_, quiet := fun loading => absurd phase loading }, ok⟩
      intro other isOther
      rw [← Option.some.inj isOther]
      exact kept.kept.lower bound isMin
  | olderAnswer =>
    rw [hookStep]
    cases waiting : h.older with
    | none => exact ⟨kept, ok⟩
    | some bound =>
      have isPage := serves bound waiting
      rw [Prod.ext_iff] at isPage
      dsimp only at isPage ⊢
      rw [isPage.1, isPage.2]
      exact ⟨kept.olderPage waiting, ok⟩
  | olderFails =>
    exact ⟨{ kept with
      older := fun _ isBound => nomatch isBound
      quiet := fun loading => ⟨(kept.quiet loading).1, rfl⟩ }, ok⟩
  | flushDelivered => exact ⟨kept.of_view view_flushDeliveredAck, ok⟩
  | flushPeerRead => exact ⟨kept.of_view view_flushPeerReadAck, ok⟩
  | deliveredFails | peerReadFails | readStateFails =>
    rw [hookStep]
    split_ifs
    · exact ⟨kept.of_view rfl, ok⟩
    · exact ⟨kept, ok⟩
  | abort | setReceiptMode => exact ⟨kept.of_view rfl, ok⟩
  | send | accept | confirm | sendFails => exact serves.elim
  | assign | mount | unmount | evict => exact ⟨kept, ok⟩

theorem mounted_kept
    (ok : ∀ thread, cache = some thread → Warm log thread.messages thread.pageLedger) :
    HookKept log (mounted cache).1 := by
  have nothing : Kept log ([] : List Message) emptyPageLedger :=
    { rows := fun _ isMessage => absurd isMessage List.not_mem_nil
      within := fun _ stands => absurd stands List.not_mem_nil
      bottom := fun _ some => absurd rfl some
      fetched := fun _ isFetched => absurd isFetched List.not_mem_nil
      lower := fun _ isBound => nomatch isBound
      upper := fun isTip => absurd rfl isTip }
  cases cache with
  | none =>
    exact
      { kept := nothing
        catchUp := fun isOne => absurd rfl isOne
        older := fun _ isBound => nomatch isBound
        quiet := fun _ => ⟨rfl, rfl⟩
        initial := fun _ isThread => nomatch isThread }
  | some thread =>
    have warm := ok thread rfl
    rw [mounted]
    dsimp only
    by_cases empty : thread.messages = []
    · rw [if_pos (List.isEmpty_iff.mpr empty)]
      exact
        { kept := nothing
          catchUp := fun isOne => absurd rfl isOne
          older := fun _ isBound => nomatch isBound
          quiet := fun _ => ⟨rfl, rfl⟩
          initial := fun other isThread => by
            rw [← Option.some.inj isThread]
            exact ⟨empty, empty ▸ warm.kept⟩ }
    rw [if_neg (mt List.isEmpty_iff.mp empty), if_pos (warm.bounded empty)]
    exact
      { kept := warm.kept
        catchUp := fun isOne => absurd rfl isOne
        older := fun _ isBound => nomatch isBound
        quiet := fun _ => ⟨rfl, rfl⟩
        initial := ⟨warm, empty⟩ }

end Hook

end Pager

end MessagingStack.App.Thread

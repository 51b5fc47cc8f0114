import MessagingStack.App.ShownRows

/-!
# Do marks and cursors pass a row that is not shown?

A mark or a cursor is taken from the orders of the list.  That is right as long as the highest
order belongs to a row of the relayer, and no row is missing below it; the hook breaks both
(`guess_marked_read`).  `marks_covered` has the conditions under which every value given to a mark
or a cursor is covered by the list it is about (`Covered`).
-/

namespace MessagingStack.App.Thread

/-! ## What is promised and when it is kept -/

/-- Every value the step gives is covered by the list it is about. -/
def GivesCovered (state : State) (input : Input) : Prop :=
  ∀ given ∈ gives state input, Covered (step state input).log given.1 given.2

/-- The rows leave out no timeline row between the bound and themselves. -/
def WholeAfter (log : List Bool) (cursor : Nat) (rows : List Nat) : Prop :=
  Continues (Timeline log) cursor { order | order ∈ rowsAfter log cursor rows }

/-- Nothing on the screen is missing from the rows a load is about to set. -/
def Keeps (h : Hook) (rows : Set Nat) : Prop := Stands h.messages ⊆ rows

/-- The page of a catch-up that another page follows. -/
def Continued (rows : List Nat) (pages : Nat) (hasNext : Bool) : Prop :=
  rows ≠ [] ∧ hasNext = true ∧ pages + 1 < messageCatchupMaxPages

/-- The row is the next one of a stream with this cursor. -/
def IsNext (log : List Bool) (messages : List Message) (order : Nat) : Option Nat → Prop
  | some cursor => Continues (Timeline log) cursor {order}
  | none => Stands messages = ∅

def HookClean (log : List Bool) (h : Hook) : Input → Prop
  | .initialAnswer rows hasNext =>
    match h.initial with
    | .fetchTip _ =>
      Gapless (Timeline log) { order | order ∈ newestRows log rows } ∧
        Keeps h { order | order ∈ newestRows log rows }
    | .catchUpFrom merged _ cursor pages =>
      WholeAfter log cursor rows ∧
        (¬Continued (rowsAfter log cursor rows) pages hasNext →
          Keeps h (Stands merged ∪ { order | order ∈ rowsAfter log cursor rows }))
    | _ => True
  | .initialDone =>
    match h.initial with
    | .cached initial => NoneAbove initial ∧ NoneBelow h.messages
    | _ => True
  | .effects pageEngaged =>
    pageEngaged = true → h.loading = false → NoneAbove h.messages ∧ NoneBelow h.messages
  | .subscribe =>
    h.loading = false → h.stream = none →
      NoneAbove h.messages ∧ NoneBelow h.messages ∧ (h.messages = [] → h.lastOrder = none)
  | .event order created _ =>
    ∀ cursor, h.stream = some cursor → order ∈ Timeline log →
      order ∈ Stands h.messages ∨ created = true ∧ IsNext log h.messages order cursor
  | .catchUp =>
    ∀ cursor, h.pageLedger.maxOrder = some cursor → Between h.messages cursor ∧
      NoneBelow h.messages
  | .catchUpAnswer rows hasNext =>
    ∀ catchUp, h.catchUp = some catchUp →
      WholeAfter log catchUp.cursor rows ∧
        (Continued (rowsAfter log catchUp.cursor rows) catchUp.pages hasNext →
          NoneBelow h.messages ∧
            ∀ tip, h.pageLedger.maxOrder = some tip → ∃ q ∈ Stands h.messages, tip ≤ q)
  | .loadMore => ∀ bound, h.pageLedger.minOrder = some bound → Between h.messages bound
  | .olderAnswer rows _ =>
    ∀ bound, h.older = some bound →
      Precedes (Timeline log) bound { order | order ∈ rowsBefore log bound rows }
  | .confirm send =>
    ∀ message ∈ h.messages, message.messageId = .optimistic send →
      message.order ∈ Stands h.messages ∨ Stands h.messages = ∅ ∨
        Reached (Timeline log) (Stands h.messages) (message.order - 1)
  | .flushDelivered => h.lastSentDeliveredUpto < h.pendingDeliveredUpto → NoneBelow h.messages
  | .flushPeerRead => 0 < h.pendingPeerReadUpto → NoneBelow h.messages
  | _ => True

/-- **The condition** of a clean step. -/
def Clean (state : State) (input : Input) : Prop :=
  match input, state.hook with
  | .mount, none =>
    ∀ thread, state.cache = some thread → thread.messages ≠ [] →
      NoneBelow thread.messages ∧
        Between thread.messages (thread.pageLedger.maxOrder.getD 0)
  | input, some h => HookClean state.log h input
  | _, none => True

/-! ## Steps of the hook -/

section Steps

variable {log : List Bool} {cache : Option CachedThread} {h : Hook}

/-- **What a clean step makes.** -/
structure StepOk (log : List Bool) (taken : Hook × Option CachedThread × Gives) : Prop where
  inv : HookInv log taken.1
  cache : CacheOk log taken.2.1
  covered : ∀ given ∈ taken.2.2, Covered log given.1 given.2

theorem StepOk.silent (ok : CacheOk log cache) {h' : Hook} (inv : HookInv log h') :
    StepOk log (h', cache, []) :=
  ⟨inv, ok, fun _ isGiven => absurd isGiven List.not_mem_nil⟩

theorem Posts.stepOk {acked : Hook × List Nat} (posts : Posts log h.messages acked)
    (sound : Sound log h.messages) (below : acked.2 ≠ [] → NoneBelow h.messages)
    {cache' : Option CachedThread} (ok : CacheOk log cache') :
    StepOk log (acked.1, cache', aboutList h acked.2) where
  inv := posts.inv
  cache := ok
  covered given isGiven := by
    obtain ⟨value, isValue, rfl⟩ := List.mem_map.mp isGiven
    exact sound.covered (below (List.ne_nil_of_mem isValue)) (posts.upto value isValue)

/-! ### The first load -/

variable {ledger : ThreadPageLedger} {rows : List Nat} {cursor : Nat} {merged : List Message}
  {order value : Nat}

theorem HookInv.showInitial (inv : HookInv log h) {initial : List Message}
    (more : Extends log h.messages initial) (bounded : Bounded initial ledger) :
    HookInv log (h.showInitial initial ledger) :=
  { inv.extend more with initial := ⟨more.sound, Set.Subset.rfl, bounded⟩ }

/-- A list that a catch-up of its own has made, once it lacks nothing of the screen. -/
theorem WarmOk.extends {messages : List Message} (warm : WarmOk log messages merged ledger cursor)
    (keeps : Stands messages ⊆ Stands merged) :
    Extends log messages merged where
  sound := warm.sound
  stands := keeps
  cursors _ otherAt := ⟨otherAt.within, otherAt.reached.replace keeps warm.later⟩

/-- Nothing of the hook is under way before the first load has answered. -/
theorem HookInv.showCold (inv : HookInv log h) {cached : Option CachedThread}
    (waiting : h.initial = .fetchTip cached) {initial : List Message} (sound : Sound log initial)
    (keeps : Stands h.messages ⊆ Stands initial) (bounded : Bounded initial ledger) :
    HookInv log (h.showInitial initial ledger) := by
  have idle := inv.initial
  rw [waiting] at idle
  obtain ⟨-, -, noStream, noCatchUp, noOlder⟩ := idle
  exact
    { sound
      stream := fun _ isCursor => nomatch noStream.symm.trans isCursor
      catchUp := fun _ isOne => nomatch noCatchUp.symm.trans isOne
      older := fun _ isBound => nomatch noOlder.symm.trans isBound
      delivered := inv.delivered.mono keeps
      peer := inv.peer.mono keeps
      sends := inv.sends
      initial := ⟨sound, Set.Subset.rfl, bounded⟩ }

theorem HookInv.coldOpen (inv : HookInv log h) {cached : Option CachedThread}
    (waiting : h.initial = .fetchTip cached) (hasNext : Bool)
    (gapless : Gapless (Timeline log) { order | order ∈ newestRows log rows })
    (keeps : Keeps h { order | order ∈ newestRows log rows }) :
    HookInv log (h.showInitial (Hook.coldList cached (newestRows log rows))
      (Hook.coldLedger cached (newestRows log rows) hasNext)) := by
  have idle := inv.initial
  rw [waiting] at idle
  have list := coldList_eq idle.1 (newestRows log rows)
  have stands : Stands (Hook.coldList cached (newestRows log rows)) =
      { order | order ∈ newestRows log rows } := by
    rw [list, stands_sortMessagesByOrder, stands_ofOrders]
  refine inv.showCold waiting ?_ ?_ (bounded_coldLedger cached _ hasNext)
  · exact
      { ascending := by
          rw [list]
          exact ascending_sortMessagesByOrder _
        single := by
          rw [list]
          exact (single_ofOrders _).subset fun m isM => mem_sortMessagesByOrder.mp isM
        within := by
          rw [stands]
          intro p isRow
          exact timeline_within (List.mem_filter.mp isRow).2
        gapless := by
          rw [stands]
          exact gapless }
  · rw [stands]
    exact keeps

theorem newer_cursor {held : List Message}
    (tip : ∀ tip, ledger.maxOrder = some tip → ∃ q ∈ Stands held, tip ≤ q) (some : rows ≠ []) :
    ∃ value, (applyNewerOrdersToLedger ledger rows).maxOrder = .some value ∧
      (∃ q ∈ Stands held ∪ { order | order ∈ rows }, value ≤ q) ∧
        ∃ p ∈ Stands held ∪ { order | order ∈ rows }, p ≤ value := by
  have isSome : (extendBound max ledger.maxOrder rows).isSome = true :=
    extendBound_isSome (Or.inr some)
  obtain ⟨value, isValue⟩ := Option.isSome_iff_exists.mp isSome
  obtain ⟨first, isFirst⟩ := List.exists_mem_of_ne_nil rows some
  refine ⟨value, isValue, ?_, ?_⟩
  · rcases extendBound_eq (fun held order => by omega) isValue with isRow | isOld
    · exact ⟨value, Or.inr isRow, le_rfl⟩
    · obtain ⟨q, stands, upper⟩ := tip value isOld
      exact ⟨q, Or.inl stands, upper⟩
  · exact ⟨first, Or.inr isFirst, (le_extendBound isValue).2 first isFirst⟩

theorem WarmOk.page (warm : WarmOk log h.messages merged ledger cursor)
    (timeline : ∀ order ∈ rows, order ∈ Timeline log)
    (continues : Continues (Timeline log) cursor { order | order ∈ rows }) (some : rows ≠ []) :
    WarmOk log h.messages (mergeMessages merged (rows.map .ofOrder))
      (applyNewerOrdersToLedger ledger rows)
      ((applyNewerOrdersToLedger ledger rows).maxOrder.getD cursor) := by
  have more := Extends.above warm.sound timeline warm.cursor.reached continues
  obtain ⟨value, isValue, upper, lower⟩ := newer_cursor warm.tip some
  rw [← stands_mergeMessages] at upper lower
  exact
    { sound := more.sound
      cursor := by
        rw [isValue, Option.getD_some]
        exact more.sound.cursorAt ⟨lower, upper⟩
      below := warm.below.mergeMessages rows
      tip := fun tip isTip => by
        obtain rfl : value = tip := Option.some.inj (isValue.symm.trans isTip)
        exact upper
      bounded := fun _ => by
        rw [shouldWarmCatchUpOnly, Bool.and_eq_true]
        exact ⟨extendBound_isSome (Or.inr some), extendBound_isSome (Or.inr some)⟩
      later := fun p stands => by
        rw [stands_mergeMessages] at stands
        rcases stands with isOld | isNew
        · exact warm.later p isOld
        -- A new row lies above the cursor, which lies above a row of the list.
        obtain ⟨start, isStart, before⟩ := warm.cursor.reached.starts
        obtain ⟨p', stands, lower⟩ := warm.later start isStart
        have above := continues.above p isNew
        exact ⟨p', stands, by omega⟩ }

/-- **A warm open goes on**, or sets the list it has made. -/
theorem HookInv.warmPage (inv : HookInv log h) (ok : CacheOk log cache) {pages : Nat}
    (waiting : h.initial = .catchUpFrom merged ledger cursor pages) {hasNext : Bool}
    (timeline : ∀ order ∈ rows, order ∈ Timeline log)
    (continues : Continues (Timeline log) cursor { order | order ∈ rows })
    (keeps : ¬Continued rows pages hasNext → Keeps h (Stands merged ∪ { order | order ∈ rows })) :
    StepOk log ((h.warmPage merged ledger cursor pages rows hasNext).1, cache,
      (h.warmPage merged ledger cursor pages rows hasNext).2) := by
  have warm : WarmOk log h.messages merged ledger cursor := by
    have old := inv.initial
    rwa [waiting] at old
  rw [Hook.warmPage]
  by_cases none : rows = []
  · subst none
    refine StepOk.silent ok (inv.showInitial (warm.extends ?_) warm.bounded)
    have all := keeps fun continued => continued.1 rfl
    rwa [Keeps, show { order : Nat | order ∈ [] } = ∅ from by simp, Set.union_empty] at all
  have page := warm.page timeline continues none
  rw [if_neg (by simpa using none)]
  dsimp only
  split_ifs with next
  · rw [Bool.and_eq_true, decide_eq_true_iff] at next
    refine ⟨{ inv with initial := page }, ok, ?_⟩
    intro given isGiven
    rw [List.mem_singleton] at isGiven
    subst isGiven
    refine page.sound.covered page.below ?_
    obtain ⟨value, isValue, upper, -⟩ := newer_cursor warm.tip none
    rw [isValue, Option.getD_some, stands_mergeMessages]
    exact upper
  refine StepOk.silent ok (inv.showInitial (page.extends ?_) page.bounded)
  rw [stands_mergeMessages]
  refine keeps fun continued => next ?_
  rw [Bool.and_eq_true, decide_eq_true_iff]
  exact continued.2

/-! ### Newer rows, older rows and events -/

theorem HookInv.joinNewer (inv : HookInv log h) {tip : Nat}
    (timeline : ∀ order ∈ rows, order ∈ Timeline log) (behind : CursorAt log h.messages cursor)
    (continues : Continues (Timeline log) cursor { order | order ∈ rows }) (isRow : tip ∈ rows) :
    HookInv log (h.joinNewer rows tip) := by
  have more := Extends.above inv.sound timeline behind.reached continues
  have stands : tip ∈ Stands (mergeMessages h.messages (rows.map .ofOrder)) := by
    rw [stands_mergeMessages]
    exact Or.inr isRow
  exact HookInv.scheduleDeliveredAck (h := { h with
    messages := mergeMessages h.messages (rows.map .ofOrder)
    pageLedger := applyNewerOrdersToLedger h.pageLedger rows }) { inv.extend more with }
    (Marked.of_stands stands)

theorem HookInv.setCatchUp (inv : HookInv log h) (loaded : ∀ cached, h.initial ≠ .fetchTip cached)
    {catchUp : Option CatchUp}
    (behind : ∀ one, catchUp = some one → CursorAt log h.messages one.cursor) :
    HookInv log { h with catchUp } :=
  { inv with
    catchUp := behind
    initial := by
      have old := inv.initial
      cases phase : h.initial with
      | fetchTip cached => exact absurd phase (loaded cached)
      | catchUpFrom | shown | cached => rwa [phase] at old
      | finished => trivial }

theorem HookInv.catchUpPage (inv : HookInv log h) (ok : CacheOk log cache) {catchUp : CatchUp}
    (waiting : h.catchUp = some catchUp) {hasNext : Bool}
    (timeline : ∀ order ∈ rows, order ∈ Timeline log)
    (continues : Continues (Timeline log) catchUp.cursor { order | order ∈ rows })
    (next : Continued rows catchUp.pages hasNext → NoneBelow h.messages ∧ ∀ tip,
      h.pageLedger.maxOrder = some tip → ∃ q ∈ Stands h.messages, tip ≤ q)
    :
    StepOk log ((h.catchUpPage catchUp rows hasNext).1, cache,
      (h.catchUpPage catchUp rows hasNext).2) := by
  have behind := inv.catchUp catchUp waiting
  have loaded : ∀ cached, h.initial ≠ .fetchTip cached := by
    intro cached phase
    have idle := inv.initial
    rw [phase] at idle
    cases idle.2.2.2.1 ▸ waiting
  rw [Hook.catchUpPage]
  cases isTip : rows.max? with
  | none => exact StepOk.silent ok (inv.setCatchUp loaded fun _ isOne => nomatch isOne)
  | some tip =>
    have isRow := List.max?_mem isTip
    have joined := inv.joinNewer timeline behind continues isRow
    have loaded' : ∀ cached, (h.joinNewer rows tip).initial ≠ .fetchTip cached := by
      rw [joinNewer_initial]
      exact loaded
    dsimp only
    split_ifs with goesOn
    · rw [Bool.and_eq_true, decide_eq_true_iff] at goesOn
      have some := List.ne_nil_of_mem isRow
      obtain ⟨below, upto⟩ := next ⟨some, goesOn⟩
      obtain ⟨value, isValue, upper, lower⟩ := newer_cursor upto some
      rw [← stands_mergeMessages, ← joinNewer_messages rows tip] at upper lower
      rw [isValue, Option.getD_some]
      refine ⟨joined.setCatchUp loaded' ?_, ok, ?_⟩
      · intro one isOne
        rw [← Option.some.inj isOne]
        exact joined.sound.cursorAt ⟨lower, upper⟩
      intro given isGiven
      rw [List.mem_singleton] at isGiven
      subst isGiven
      refine joined.sound.covered ?_ upper
      rw [joinNewer_messages]
      exact below.mergeMessages rows
    · exact StepOk.silent ok (joined.setCatchUp loaded' fun _ isOne => nomatch isOne)

theorem stands_mergeOne (messages : List Message) (order : Nat) :
    Stands (mergeMessages messages [.ofOrder order]) = Stands messages ∪ {order} := by
  rw [show [Message.ofOrder order] = [order].map .ofOrder from rfl, stands_mergeMessages]
  congr 1
  ext other
  exact List.mem_singleton

theorem Extends.event (inv : HookInv log h) {cursor : Option Nat} (streams : h.stream = some cursor)
    (isRow : order ∈ Timeline log)
    (clean : order ∈ Stands h.messages ∨ IsNext log h.messages order cursor) :
    Extends log h.messages (mergeMessages h.messages [.ofOrder order]) := by
  have joined := stands_mergeOne h.messages order
  have ascending := ascending_mergeMessages h.messages [.ofOrder order]
  have single := inv.sound.single.mergeMessages [.ofOrder order]
  rcases clean with known | next
  · refine Extends.same inv.sound ascending single (joined.trans ?_)
    exact Set.union_eq_self_of_subset_right (Set.singleton_subset_iff.mpr known)
  cases cursor with
  | none =>
    refine Extends.first next ascending single ?_ (timeline_within isRow)
    rw [joined, show Stands h.messages = ∅ from next, Set.empty_union]
  | some cursor =>
    have reached := (inv.stream cursor streams).reached
    refine Extends.union inv.sound ascending single joined ?_
      (Gapless.above next reached inv.sound.gapless)
      fun _ other => Reached.above next reached other
    rintro p rfl
    exact timeline_within isRow

theorem HookInv.joinEvent (inv : HookInv log h) {cursor : Option Nat}
    (streams : h.stream = some cursor) (created acked : Bool) (isRow : order ∈ Timeline log)
    (clean : order ∈ Stands h.messages ∨ created = true ∧ IsNext log h.messages order cursor) :
    HookInv log (h.joinEvent cursor order created acked) := by
  have more := Extends.event inv streams isRow (clean.imp_right fun next => next.2)
  have extended := inv.extend more
  have stands : order ∈ Stands (mergeMessages h.messages [.ofOrder order]) := by
    rw [stands_mergeOne]
    exact Or.inr rfl
  have here : CursorAt log (mergeMessages h.messages [.ofOrder order]) order :=
    ⟨timeline_within isRow, more.sound.gapless.reached_self stands⟩
  have streamed : HookInv log { h with
      messages := mergeMessages h.messages [.ofOrder order]
      stream := some (if created then some (max (cursor.getD 0) order) else cursor) } := by
    refine { extended with stream := ?_, initial := ?_ }
    · intro other isOther
      have moved := Option.some.inj isOther
      cases created with
      | false =>
        obtain rfl : cursor = some other := moved
        exact extended.stream other streams
      | true =>
        -- The later of the cursor, behind which nothing is missing, and a row that stands.
        obtain rfl : max (cursor.getD 0) order = other := Option.some.inj moved
        cases cursor with
        | none =>
          rw [Option.getD_none, Nat.zero_max]
          exact here
        | some cursor =>
          rw [Option.getD_some]
          rcases Nat.le_total order cursor with earlier | later
          · rw [Nat.max_eq_left earlier]
            exact more.cursors cursor (inv.stream cursor streams)
          · rw [Nat.max_eq_right later]
            exact here
    · refine InitialOk.mono extended.initial Set.Subset.rfl ?_
      rintro - noStream - -
      exact nomatch streams.symm.trans noStream
  cases acked with
  | true => exact streamed.scheduleDeliveredAck (Marked.of_stands stands)
  | false => exact streamed

theorem mem_flushPeerReadAck (isValue : value ∈ h.flushPeerReadAck.2) :
    0 < h.pendingPeerReadUpto := by
  by_contra nothing
  have zero : h.pendingPeerReadUpto = 0 := by omega
  rw [Hook.flushPeerReadAck, if_pos zero] at isValue
  exact List.not_mem_nil isValue

theorem mem_flushDeliveredAck (isValue : value ∈ h.flushDeliveredAck.2) :
    h.lastSentDeliveredUpto < h.pendingDeliveredUpto := by
  by_contra nothing
  rw [Hook.flushDeliveredAck, if_pos (Or.inr (by omega))] at isValue
  exact List.not_mem_nil isValue

theorem mem_markRead {pageEngaged : Bool} (isValue : value ∈ (h.markRead pageEngaged).2) :
    pageEngaged = true ∧ h.loading = false := by
  by_contra nothing
  have away : (!pageEngaged || h.loading) = true := by
    cases pageEngaged
    · rfl
    · cases loading : h.loading
      · exact absurd ⟨rfl, loading⟩ nothing
      · rfl
  rw [Hook.markRead, if_pos away] at isValue
  exact List.not_mem_nil isValue

theorem syncCursor_lastOrder (isLast : h.syncCursor.lastOrder = some order) :
    (h.messages = [] ∧ h.lastOrder = some order) ∨ ∃ message ∈ h.messages,
      message.order = order := by
  rw [Hook.syncCursor] at isLast
  split_ifs at isLast with empty
  · exact Or.inl ⟨List.isEmpty_iff.mp empty, isLast⟩
  · obtain ⟨last, isMessage, same⟩ := Option.map_eq_some_iff.mp isLast
    exact Or.inr ⟨last, List.mem_of_getLast? isMessage, same⟩

/-- The effect that marks as read comes after the list has been cached. -/
theorem HookInv.effects (inv : HookInv log h) (ok : CacheOk log cache) {pageEngaged : Bool}
    (clean : pageEngaged = true → h.loading = false →
      NoneAbove h.messages ∧ NoneBelow h.messages) :
    StepOk log (hookStep log cache h (.effects pageEngaged)) := by
  have synced := inv.syncCursor
  have bounded : Bounded h.syncCursor.messages h.syncCursor.pageLedger := by
    intro rows
    rw [syncCursor_messages] at rows
    obtain ⟨lower, upper, isMin, isMax⟩ := exists_bounds rows
    rw [Hook.syncCursor, if_neg (by simpa using rows)]
    exact shouldWarmCatchUpOnly_of_bounds isMin isMax
  rw [hookStep]
  dsimp only
  split_ifs with empty
  · exact StepOk.silent ok synced
  have stored := cacheOk_setCachedThread synced.sound bounded
  have clean' : pageEngaged = true → h.syncCursor.loading = false →
      NoneAbove h.syncCursor.messages ∧ NoneBelow h.syncCursor.messages := by
    rwa [syncCursor_messages, syncCursor_loading]
  have posts := markRead_posts (h := { h.syncCursor with
    pageLedger := (setCachedThread h.syncCursor.messages h.syncCursor.pageLedger).pageLedger
    hasMore :=
      (setCachedThread h.syncCursor.messages h.syncCursor.pageLedger).pageLedger.hasMoreOlder })
    { synced with } fun engaged loaded => (clean' engaged loaded).1
  refine Posts.stepOk (h := h.syncCursor) posts synced.sound (fun posted => ?_) stored
  obtain ⟨value, isValue⟩ := List.exists_mem_of_ne_nil _ posted
  obtain ⟨engaged, loaded⟩ := mem_markRead isValue
  exact (clean' engaged loaded).2

/-- **A subscription** starts at a row that stands, or before all of them. -/
theorem HookInv.subscribe (inv : HookInv log h) (ok : CacheOk log cache)
    (clean : h.loading = false → h.stream = none →
      NoneAbove h.messages ∧ NoneBelow h.messages ∧ (h.messages = [] → h.lastOrder = none)) :
    StepOk log (hookStep log cache h .subscribe) := by
  rw [hookStep]
  split_ifs with away
  · exact StepOk.silent ok inv
  rw [Bool.or_eq_true, not_or, Bool.not_eq_true, Option.not_isSome_iff_eq_none] at away
  obtain ⟨above, below, empty⟩ := clean away.1 away.2
  have synced := inv.syncCursor
  have upto : ∀ cursor, h.syncCursor.lastOrder = some cursor →
      Between h.syncCursor.messages cursor := by
    intro cursor isLast
    rw [syncCursor_messages]
    rcases syncCursor_lastOrder isLast with ⟨none, old⟩ | ⟨message, isMessage, rfl⟩
    · cases empty none ▸ old
    · exact ⟨below message isMessage, above message isMessage⟩
  refine ⟨{ synced with stream := ?_, initial := ?_ }, ok, ?_⟩
  · intro cursor isCursor
    exact synced.sound.cursorAt (upto cursor (Option.some.inj isCursor))
  · refine InitialOk.mono synced.initial Set.Subset.rfl ?_
    intro loading
    rw [syncCursor_loading, away.1] at loading
    cases loading
  intro given isGiven
  obtain ⟨cursor, isCursor, rfl⟩ := List.mem_map.mp isGiven
  have isLast := Option.mem_toList.mp isCursor
  refine synced.sound.covered ?_ (upto cursor isLast).2
  rwa [syncCursor_messages]

/-- **A clean step of the hook** keeps the invariant, and gives covered values only. -/
theorem hookStep_ok (inv : HookInv log h) (ok : CacheOk log cache) (input : Input)
    (notAccepts : ∀ send, input ≠ .accept send) (clean : HookClean log h input) :
    StepOk log (hookStep log cache h input) := by
  cases input with
  | initialAnswer rows hasNext =>
    rw [hookStep]
    rw [HookClean] at clean
    cases phase : h.initial with
    | fetchTip =>
      rw [phase] at clean
      exact StepOk.silent ok (inv.coldOpen phase hasNext clean.1 clean.2)
    | catchUpFrom =>
      rw [phase] at clean
      exact inv.warmPage ok phase (fun _ => mem_rowsAfter) clean.1 clean.2
    | shown | cached | finished => exact StepOk.silent ok inv
  | initialFails =>
    rw [hookStep]
    cases phase : h.initial with
    | fetchTip | catchUpFrom => exact StepOk.silent ok { inv with initial := trivial }
    | shown | cached | finished => exact StepOk.silent ok inv
  | reactionsLoaded =>
    rw [hookStep]
    cases phase : h.initial with
    | shown initial =>
      have held := inv.initial
      rw [phase] at held
      exact ⟨{ inv with initial := held.2.1 }, cacheOk_setCachedThread held.1 held.2.2,
        fun _ isGiven => absurd isGiven List.not_mem_nil⟩
    | fetchTip | catchUpFrom | cached | finished => exact StepOk.silent ok inv
  | initialDone =>
    rw [hookStep]
    rw [HookClean] at clean
    cases phase : h.initial with
    | cached initial =>
      rw [phase] at clean
      have held := inv.initial
      rw [phase] at held
      have done := (deliverTip_posts inv held clean.1).stepOk inv.sound (fun _ => clean.2) ok
      exact ⟨{ done.inv with initial := trivial }, ok, done.covered⟩
    | fetchTip | catchUpFrom | shown | finished => exact StepOk.silent ok inv
  | effects => exact inv.effects ok clean
  | subscribe => exact inv.subscribe ok clean
  | abort =>
    refine StepOk.silent ok { inv with
      stream := (fun _ isCursor => nomatch isCursor)
      initial := ?_ }
    exact InitialOk.mono inv.initial Set.Subset.rfl fun loading _ catchUp older =>
      ⟨loading, rfl, catchUp, older⟩
  | event order created acked =>
    rw [hookStep]
    cases streams : h.stream with
    | none => exact StepOk.silent ok inv
    | some cursor =>
      dsimp only
      split_ifs with isRow
      · exact StepOk.silent ok (inv.joinEvent streams created acked isRow
          (clean cursor streams isRow))
      · exact StepOk.silent ok inv
  | catchUp =>
    rw [hookStep]
    split
    · rename_i cursor none phase loaded isTip
      obtain ⟨between, below⟩ := clean cursor isTip
      refine ⟨inv.setCatchUp (fun cached isFirst => nomatch phase.symm.trans isFirst) ?_, ok, ?_⟩
      · intro one isOne
        rw [← Option.some.inj isOne]
        exact inv.sound.cursorAt between
      intro given isGiven
      rw [List.mem_singleton] at isGiven
      subst isGiven
      exact inv.sound.covered below between.2
    · exact StepOk.silent ok inv
  | catchUpAnswer =>
    rw [hookStep]
    cases waiting : h.catchUp with
    | none => exact StepOk.silent ok inv
    | some catchUp =>
      obtain ⟨continues, next⟩ := clean catchUp waiting
      exact inv.catchUpPage ok waiting (fun _ => mem_rowsAfter) continues next
  | catchUpFails =>
    refine StepOk.silent ok { inv with catchUp := (fun _ isOne => nomatch isOne), initial := ?_ }
    exact InitialOk.mono inv.initial Set.Subset.rfl fun loading stream _ older =>
      ⟨loading, stream, rfl, older⟩
  | loadMore =>
    rw [hookStep]
    cases asks : shouldFetchOlderPage h.pageLedger h.older.isSome (h.initial != .finished)
      h.messageCount with
    | none => exact StepOk.silent ok inv
    | some bound =>
      obtain ⟨-, -, loaded, -, isMin, -⟩ := shouldFetchOlderPage_eq_some.mp asks
      have phase : h.initial = .finished := by simpa using loaded
      refine StepOk.silent ok { inv with older := ?_, initial := ?_ }
      · intro other isOther
        rw [← Option.some.inj isOther]
        exact inv.sound.cursorAt (clean bound isMin)
      · show InitialOk log h.messages h.loading h.stream h.catchUp (some bound) h.initial
        rw [phase]
        trivial
  | olderAnswer =>
    rw [hookStep]
    cases waiting : h.older with
    | none => exact StepOk.silent ok inv
    | some bound =>
      have more := Extends.below inv.sound (fun _ => mem_rowsBefore)
        (inv.older bound waiting).reached (clean bound waiting)
      have extended := inv.extend more
      refine StepOk.silent ok
        { extended with older := (fun _ isBound => nomatch isBound), initial := ?_ }
      exact InitialOk.mono extended.initial Set.Subset.rfl fun loading stream catchUp _ =>
        ⟨loading, stream, catchUp, rfl⟩
  | olderFails =>
    refine StepOk.silent ok { inv with older := (fun _ isBound => nomatch isBound), initial := ?_ }
    exact InitialOk.mono inv.initial Set.Subset.rfl fun loading stream catchUp _ =>
      ⟨loading, stream, catchUp, rfl⟩
  | send =>
    have more := Extends.same inv.sound (ascending_mergeMessages h.messages
      [⟨.optimistic h.nextSend, h.lastOrder.getD 0 + 1⟩])
      (inv.sound.single.mergeMessages _) (stands_mergeStub _ _ _)
    refine StepOk.silent ok { inv.extend more with sends := ?_ }
    intro one isOne order accepted
    rcases List.mem_append.mp isOne with isOld | isNew
    · exact inv.sends one isOld order accepted
    · rw [List.mem_singleton] at isNew
      subst isNew
      cases accepted
  | accept send => exact absurd rfl (notAccepts send)
  | confirm send =>
    rw [hookStep]
    cases confirmed : (h.sends.find? (·.send = send)).bind (·.accepted) with
    | none => exact StepOk.silent ok inv
    | some order =>
      obtain ⟨one, isOne, accepted⟩ := Option.bind_eq_some_iff.mp confirmed
      have assigned := inv.sends one (List.mem_of_find?_eq_some isOne) order accepted
      have more := Extends.swapId inv.sound assigned clean
      refine StepOk.silent ok { inv.extend more with sends := ?_ }
      intro other isOther
      exact inv.sends other (List.mem_filter.mp isOther).1
  | sendFails send =>
    have stands : Stands (h.messages.filter (·.messageId ≠ .optimistic send)) =
        Stands h.messages := by
      ext order
      refine List.mem_filter.trans ⟨fun both => both.1, fun isRow => ⟨isRow, ?_⟩⟩
      exact decide_eq_true MessageId.noConfusion
    have more := Extends.same inv.sound
      (inv.sound.ascending.sublist List.filter_sublist)
      (inv.sound.single.subset fun _ isMessage => (List.mem_filter.mp isMessage).1) stands
    refine StepOk.silent ok { inv.extend more with sends := ?_ }
    intro other isOther
    exact inv.sends other (List.mem_filter.mp isOther).1
  | flushDelivered =>
    exact (flushDeliveredAck_posts inv).stepOk inv.sound (fun posted => clean (by
      obtain ⟨value, isValue⟩ := List.exists_mem_of_ne_nil _ posted
      exact mem_flushDeliveredAck isValue)) ok
  | deliveredFails | peerReadFails | readStateFails =>
    rw [hookStep]
    split_ifs
    · exact StepOk.silent ok { inv with }
    · exact StepOk.silent ok inv
  | flushPeerRead =>
    exact (flushPeerReadAck_posts inv).stepOk inv.sound (fun posted => clean (by
      obtain ⟨value, isValue⟩ := List.exists_mem_of_ne_nil _ posted
      exact mem_flushPeerReadAck isValue)) ok
  | setReceiptMode => exact StepOk.silent ok { inv with }
  | assign | mount | unmount | evict => exact StepOk.silent ok inv

/-- **A hook is mounted**: cold, or warm at a cursor behind which the cached list lacks
nothing. -/
theorem mounted_ok (ok : CacheOk log cache)
    (clean : ∀ thread, cache = some thread → thread.messages ≠ [] →
      NoneBelow thread.messages ∧ Between thread.messages (thread.pageLedger.maxOrder.getD 0)) :
    HookInv log (mounted cache).1 ∧
      ∀ given ∈ (mounted cache).2, Covered log given.1 given.2 := by
  have nothing : Sound log ([] : List Message) :=
    { ascending := List.Pairwise.nil
      single := fun _ isMessage => absurd isMessage List.not_mem_nil
      within := fun _ stands => absurd stands List.not_mem_nil
      gapless := fun _ stands => absurd stands List.not_mem_nil }
  have idle : ∀ h : Hook, h.messages = [] → h.stream = none → h.catchUp = none → h.older = none →
      h.pendingDeliveredUpto = 0 → h.pendingPeerReadUpto = 0 → h.sends = [] →
      InitialOk log [] h.loading h.stream h.catchUp h.older h.initial → HookInv log h := by
    intro h empty noStream noCatchUp noOlder delivered peer noSends initial
    exact
      { sound := empty ▸ nothing
        stream := fun _ isCursor => nomatch noStream.symm.trans isCursor
        catchUp := fun _ isOne => nomatch noCatchUp.symm.trans isOne
        older := fun _ isBound => nomatch noOlder.symm.trans isBound
        delivered := Or.inl delivered
        peer := Or.inl peer
        sends := fun one isOne => absurd (noSends ▸ isOne) List.not_mem_nil
        initial := empty ▸ initial }
  cases cache with
  | none =>
    refine ⟨idle _ rfl rfl rfl rfl rfl rfl rfl ⟨?_, rfl, rfl, rfl, rfl⟩, ?_⟩
    · intro thread isThread
      cases isThread
    · exact fun _ isGiven => absurd isGiven List.not_mem_nil
  | some thread =>
    obtain ⟨sound, bounded⟩ := ok thread rfl
    rw [mounted]
    dsimp only
    by_cases empty : thread.messages = []
    · rw [if_pos (List.isEmpty_iff.mpr empty)]
      refine ⟨idle _ rfl rfl rfl rfl rfl rfl rfl ⟨?_, rfl, rfl, rfl, rfl⟩, ?_⟩
      · intro other isThread
        rw [← Option.some.inj isThread]
        exact empty
      · exact fun _ isGiven => absurd isGiven List.not_mem_nil
    obtain ⟨below, between⟩ := clean thread rfl empty
    rw [if_neg (mt List.isEmpty_iff.mp empty), if_pos (bounded empty)]
    have warm : WarmOk log thread.messages thread.messages thread.pageLedger
        (thread.pageLedger.maxOrder.getD 0) :=
      { sound
        cursor := sound.cursorAt between
        below
        tip := fun tip isTip => by
          rw [isTip, Option.getD_some] at between
          exact between.2
        bounded
        later := fun p stands => ⟨p, stands, le_rfl⟩ }
    refine ⟨?_, ?_⟩
    · exact
        { sound
          stream := fun _ isCursor => nomatch isCursor
          catchUp := fun _ isOne => nomatch isOne
          older := fun _ isBound => nomatch isBound
          delivered := Or.inl rfl
          peer := Or.inl rfl
          sends := fun one isOne => absurd isOne List.not_mem_nil
          initial := warm }
    intro given isGiven
    rw [List.mem_singleton] at isGiven
    subst isGiven
    exact sound.covered below between.2

theorem HookInv.accept (inv : HookInv log h) (send : Nat) :
    HookInv (log ++ [true]) (hookStep log cache h (.accept send)).1 := by
  have grown := inv.assign true
  refine { grown with sends := ?_ }
  intro one isOne order accepted
  obtain ⟨old, isOld, rfl⟩ := List.mem_map.mp isOne
  split_ifs at accepted with this
  · obtain rfl := Option.some.inj accepted
    rw [List.length_append]
    exact ⟨Nat.succ_pos _, le_rfl⟩
  · exact grown.sends old isOld order accepted

end Steps

/-! ## Runs -/

theorem givesCovered_of_silent {state : State} {input : Input} (silent : (act state input).2 = []) :
    GivesCovered state input := by
  intro given isGiven
  rw [gives, silent] at isGiven
  exact absurd isGiven List.not_mem_nil

theorem inv_hookStep {state : State} {h : Hook} (inv : Inv state) (isHook : state.hook = some h)
    {input : Input} (notAccepts : ∀ send, input ≠ .accept send)
    (clean : HookClean state.log h input)
    (taken : act state input =
      ({ state with
          cache := (hookStep state.log state.cache h input).2.1
          hook := some (hookStep state.log state.cache h input).1 },
        (hookStep state.log state.cache h input).2.2)) :
    Inv (step state input) ∧ GivesCovered state input := by
  have made := hookStep_ok (inv.hook h isHook) inv.cache input notAccepts clean
  rw [step, GivesCovered, gives, step, taken]
  refine ⟨⟨made.cache, ?_⟩, made.covered⟩
  intro h' isHook'
  rw [← Option.some.inj isHook']
  exact made.inv

theorem inv_step (state : State) (input : Input) (inv : Inv state) (clean : Clean state input) :
    Inv (step state input) ∧ GivesCovered state input := by
  obtain ⟨log, cache, hook⟩ := state
  cases hook with
  | none =>
    cases input with
    | assign timeline =>
      refine ⟨⟨inv.cache.assign timeline, fun h isHook => nomatch isHook⟩, ?_⟩
      exact givesCovered_of_silent rfl
    | evict => exact ⟨⟨(fun _ isThread => nomatch isThread), inv.hook⟩, givesCovered_of_silent rfl⟩
    | mount =>
      obtain ⟨made, covered⟩ := mounted_ok inv.cache clean
      refine ⟨⟨inv.cache, ?_⟩, covered⟩
      intro h isHook
      rw [← Option.some.inj isHook]
      exact made
    | _ => exact ⟨inv, givesCovered_of_silent rfl⟩
  | some h =>
    cases input with
    | assign timeline =>
      refine ⟨⟨inv.cache.assign timeline, ?_⟩, givesCovered_of_silent rfl⟩
      intro h' isHook
      exact (inv.hook h' isHook).assign timeline
    | evict => exact ⟨⟨(fun _ isThread => nomatch isThread), inv.hook⟩, givesCovered_of_silent rfl⟩
    | unmount =>
      refine ⟨⟨inv.cache, fun h isHook => nomatch isHook⟩, givesCovered_of_silent rfl⟩
    | accept send =>
      by_cases waiting : waits h send = true
      · have taken : act ⟨log, cache, some h⟩ (.accept send) =
            (⟨log ++ [true], cache, some (hookStep log cache h (.accept send)).1⟩, []) :=
          if_pos waiting
        refine ⟨?_, givesCovered_of_silent (congrArg Prod.snd taken)⟩
        rw [step, taken]
        refine ⟨inv.cache.assign true, ?_⟩
        intro h' isHook
        rw [← Option.some.inj isHook]
        exact (inv.hook h rfl).accept send
      have left : act ⟨log, cache, some h⟩ (.accept send) = (⟨log, cache, some h⟩, []) :=
        if_neg waiting
      refine ⟨?_, givesCovered_of_silent (congrArg Prod.snd left)⟩
      rw [step, left]
      exact inv
    | _ => exact inv_hookStep inv rfl (fun send impossible => nomatch impossible) clean rfl

/-- **Marks and cursors do not pass a row that is not shown**, in every run whose steps meet
the condition: each value given to `readUpto`, to an acknowledgement, to a catch-up or to a
subscription is covered by the list it is about. -/
theorem marks_covered (inputs : List Input) (clean : Along step Clean .start inputs) :
    Along step GivesCovered .start inputs := by
  refine Along.imp (fun state input inv good => (inv_step state input inv good).1)
    (fun state input inv good => (inv_step state input inv good).2) clean ?_
  exact
    { cache := fun _ isThread => nomatch isThread
      hook := fun _ isHook => nomatch isHook }

/-! ## Two runs -/

theorem noLocal_of_stands {messages : List Message}
    (stand : ∀ message ∈ messages, message = .ofOrder message.order) :
    NoneAbove messages ∧ NoneBelow messages := by
  have held : ∀ message ∈ messages, message.order ∈ Stands messages := by
    intro message isMessage
    have isRow := isMessage
    rw [stand message isMessage] at isRow
    exact isRow
  exact ⟨fun message isMessage => ⟨_, held message isMessage, le_rfl⟩,
    fun message isMessage => ⟨_, held message isMessage, le_rfl⟩⟩

/-- A thread with one row is opened. -/
def openRun : List Input :=
  [.assign true, .mount, .initialAnswer [1] false, .reactionsLoaded, .initialDone]

/-- The row is read: the value is given to `readUpto` and to the peer acknowledgement. -/
theorem first_row_read :
    Along step GivesCovered .start (openRun ++ [.effects true]) ∧
      (1, [Message.ofOrder 1]) ∈ gives (run openRun) (.effects true) := by
  refine ⟨marks_covered (openRun ++ [.effects true]) ?_, by decide +kernel⟩
  have answered : newestRows [true] [1] = [1] := by decide
  have single : ∀ p ∈ ({ order | order ∈ newestRows [true] [1] } : Set Nat), p = 1 := by
    intro p isRow
    rw [Set.mem_ofPred_eq, answered, List.mem_singleton] at isRow
    exact isRow
  refine ⟨trivial, ?_, ⟨?_, ?_⟩, trivial, ?_, ?_, trivial⟩
  · intro thread isThread
    cases isThread
  · rintro p isStart q isEnd order - after before
    have first := single p isStart
    have last := single q isEnd
    obtain rfl : order = p := by omega
    exact isStart
  · intro p stands
    exact absurd stands List.not_mem_nil
  · exact noLocal_of_stands (by decide +kernel)
  · rintro - -
    exact noLocal_of_stands (by decide +kernel)

/-- The thread is subscribed to, an own message is sent, and before the relayer has it,
another member's message takes the next order. -/
def guessRun : List Input :=
  openRun ++ [.effects true, .subscribe, .send, .assign true]

/-- **A guess is marked as read**: the mark covers the other member's message, which is not
in the list. -/
theorem guess_marked_read : ¬∀ inputs : List Input, Along step GivesCovered .start inputs := by
  intro covered
  have along := (Along.append State.start guessRun [.effects true]).mp
    (covered (guessRun ++ [.effects true]))
  have given : (2, [Message.ofOrder 1, ⟨.optimistic 0, 2⟩]) ∈
      gives (run guessRun) (.effects true) := by decide +kernel
  have isRow : isTimeline (step (run guessRun) (.effects true)).log 2 = true := by decide +kernel
  obtain ⟨message, isMessage, isTwo⟩ := (along.2.1 _ given).2 2 isRow le_rfl
    ⟨.ofOrder 1, List.mem_cons_self .., by decide⟩
  revert isTwo
  revert message
  decide

end MessagingStack.App.Thread

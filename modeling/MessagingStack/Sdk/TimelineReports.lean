import Mathlib.Data.Int.ConditionallyCompleteOrder
import Mathlib.Data.Int.SuccPred
import Mathlib.Data.List.Basic
import Mathlib.Order.WithBot
import MessagingStack.Base.Ranking
import MessagingStack.Sdk.TimelineConfluence

/-!
# What a fold reports

`ingest` returns the targets whose folded state has changed, so that a view can read those
and leave the others as they are.  What a view shows of a target (`Folded.view`) is its
reactions, its edit, whether it is deleted, its votes and its place among the pinned ones.  A write
that only moves an entry past others is not reported.

`Quiet` is the condition on a row that nothing of this happens: the entry that is written
crosses no other.  `reports_changes`: while a batch of rows is quiet, every target whose
view differs after the batch has been reported.
-/

namespace MessagingStack.Sdk.Timeline

open LastWriter

variable {Attachment : Type} {unicode : Unicode}

/-! ## Views -/

/-- The position of a target among the pinned ones. -/
def Folded.position (folded : Folded Attachment) (targetId : String) : Option Nat :=
  folded.pinnedTargets.idxOf? targetId

/-- What a view shows of a target. -/
structure View (Attachment : Type) where
  reactions : List ReactionTally
  edit : Option (FoldedEdit Attachment)
  deleted : Bool
  votes : OrderedMap String (List Int)
  position : Option Nat

def Folded.view (folded : Folded Attachment) (targetId : String) : View Attachment where
  reactions := folded.reactionsFor targetId
  edit := folded.editFor targetId
  deleted := folded.isDeleted targetId
  votes := folded.votesFor targetId
  position := folded.position targetId

variable {before after : Folded Attachment} {targetId : String}

theorem view_congr (reactions : after.reactionsFor targetId = before.reactionsFor targetId)
    (edits : after.edits.get targetId = before.edits.get targetId)
    (deletes : after.deletes.get targetId = before.deletes.get targetId)
    (votes : after.votes.get targetId = before.votes.get targetId)
    (position : after.position targetId = before.position targetId) :
    after.view targetId = before.view targetId := by
  simp only [Folded.view, Folded.editFor, Folded.isDeleted, Folded.votesFor, reactions, edits,
    deletes, votes, position]

theorem reactionsFor_of_get (same : after.reactions.get targetId = before.reactions.get targetId) :
    after.reactionsFor targetId = before.reactionsFor targetId := by
  simp only [Folded.reactionsFor, same]

theorem position_of_pins (same : after.pins = before.pins) (targetId : String) :
    after.position targetId = before.position targetId := by
  simp only [Folded.position, Folded.pinnedTargets, same]

/-! ## Batches -/

def TimelineFold.ingestBatch (unicode : Unicode) (self : TimelineFold Attachment) :
    List (FoldInput Attachment) → List String × TimelineFold Attachment
  | [] => ([], self)
  | row :: rest =>
    let (changed, self) := self.ingest unicode row
    let (later, self) := self.ingestBatch unicode rest
    (changed ++ later, self)

/-! ## Quiet rows -/

/-- Where a pin stands among the pinned targets; one that is not pinned stands behind all. -/
def place : Option Pin → WithTop Int
  | some pin => if pin.pinned then pin.order else ⊤
  | none => ⊤

/-- No other pinned target stands from the one place to the other. -/
def Undisturbed (folded : Folded Attachment) (targetId : String) (first second : WithTop Int) :
    Prop :=
  ∀ other pin, other ≠ targetId → folded.pins.get other = some pin → pin.pinned = true →
    (pin.order : WithTop Int) < min first second ∨ max first second < pin.order

/-- A reaction that is given once more, at a later order, comes after no other: not after
another member's with the same emoji and, if it was the first with its emoji, not after the
first with another. -/
structure Uncrossed (folded : Folded Attachment) (targetId emoji sender : String)
    (earlier later : Int) : Prop where
  members : ∀ other reaction, other ≠ sender →
    folded.reaction? targetId emoji other = some reaction → reaction.add = true →
      reaction.order < earlier ∨ later < reaction.order
  emojis : ∀ own ∈ folded.tallies targetId, own.emoji = emoji → own.first = earlier →
    ∀ other ∈ folded.tallies targetId, other.emoji ≠ emoji →
      other.first < earlier ∨ later < other.first

/-- An event that is applied crosses nothing. -/
def QuietEvent (folded : Folded Attachment) (targetId : String)
    (pending : PendingEvent Attachment) : Prop :=
  match pending.event with
  | .reaction _ emoji add =>
    ∀ prev, folded.reaction? targetId emoji pending.sender = some prev →
      prev.order < pending.order → prev.add = true → add = true →
        Uncrossed folded targetId emoji pending.sender prev.order pending.order
  | .pin _ pinned =>
    (∀ prev ∈ folded.pins.get targetId, prev.order < pending.order) →
      Undisturbed folded targetId (place (folded.pins.get targetId))
        (place (some { pinned, order := pending.order }))
  | _ => True

/-- **A row that reports what it changes**: an event that is applied crosses nothing, and a
target whose events have waited for it enters the pinned targets behind the others. -/
def Quiet (unicode : Unicode) (fold : TimelineFold Attachment) (row : FoldInput Attachment) :
    Prop :=
  match row.event with
  | none =>
    fold.targets.get row.messageId = none →
      ∀ pin, IsLatest Pin.order
          (contributed (pinBy (row.asTarget unicode))
            { pending | pending ∈ (fold.pending.get row.messageId).getD [] }) (some pin) →
        Undisturbed fold.folded row.messageId ⊤ (place (some pin))
  | some event =>
    row.senderVerified = true → row.messageId ∉ fold.seenEvents →
      ∀ target, fold.targets.get event.target = some target → target.order < row.order →
        QuietEvent fold.folded event.target (row.asPending unicode event)

/-- Every row of a batch is quiet when its turn comes. -/
def QuietBatch (unicode : Unicode) (fold : TimelineFold Attachment) :
    List (FoldInput Attachment) → Prop
  | [] => True
  | row :: rest => Quiet unicode fold row ∧ QuietBatch unicode (fold.ingest unicode row).2 rest

/-! ## Pins -/

section Pins

variable {folded : Folded Attachment} {targetId : String} {pin : Pin}

theorem pinnedTargets_eq (folded : Folded Attachment) :
    folded.pinnedTargets = (ranked Pin.pinned Pin.order folded.pins.entries).map Prod.fst := rfl

theorem idxOf?_append {list : List String} {last other : String} (differs : other ≠ last) :
    (list ++ [last]).idxOf? other = list.idxOf? other := by
  have notLast : (last == other) = false := beq_eq_false_iff_ne.mpr differs.symm
  simp [List.idxOf?, List.findIdx?_append, List.findIdx?_cons, notLast]

theorem Undisturbed.behind {first second : WithTop Int}
    (undisturbed : Undisturbed folded targetId first second) (order : Int)
    (moves : first = order ∧ second = ⊤ ∨ first = ⊤ ∧ second = order) :
    ∀ other held, other ≠ targetId → folded.pins.get other = some held → held.pinned = true →
      held.order < order := by
  intro other held differs isHeld isPinned
  have apart := undisturbed other held differs isHeld isPinned
  rcases moves with ⟨rfl, rfl⟩ | ⟨rfl, rfl⟩
  · simpa using apart
  · simpa using apart

theorem pins_written
    (undisturbed : Undisturbed folded targetId (place (folded.pins.get targetId))
      (place (some pin))) :
    (∀ prev, folded.pins.get targetId = some prev → prev.pinned = pin.pinned →
      Folded.pinnedTargets { folded with pins := folded.pins.insert targetId pin } =
        folded.pinnedTargets) ∧
    ∀ other, other ≠ targetId →
      Folded.position { folded with pins := folded.pins.insert targetId pin } other =
        folded.position other := by
  have targets : ∀ entries : List (String × Pin),
      (entries.map fun entry => if entry.1 = targetId then (targetId, pin) else entry).map
        Prod.fst = entries.map Prod.fst := by
    intro entries
    rw [List.map_map]
    refine List.map_congr_left fun entry _ => ?_
    by_cases same : entry.1 = targetId <;> simp [same]
  have unmoved : Folded.pinnedTargets { folded with pins := folded.pins.insert targetId pin } =
      folded.pinnedTargets → ∀ other, other ≠ targetId →
        Folded.position { folded with pins := folded.pins.insert targetId pin } other =
          folded.position other := by
    intro same other _
    rw [Folded.position, Folded.position, same]
  cases held : folded.pins.get targetId with
  | none =>
    have hidden : ∀ old, folded.pins.get targetId = some old → old.pinned = false := by
      intro old isHeld
      cases held ▸ isHeld
    refine ⟨nofun, ?_⟩
    cases now : pin.pinned with
    | false =>
      refine unmoved ?_
      rw [pinnedTargets_eq, pinnedTargets_eq]
      exact congrArg (List.map Prod.fst) (ranked_insert_hidden Pin.pinned Pin.order hidden now)
    | true =>
      have behind := undisturbed.behind pin.order
        (.inr ⟨by rw [held]; rfl, by rw [place, if_pos now]⟩)
      have enters := ranked_insert_enters Pin.pinned Pin.order hidden now behind
      intro other differs
      rw [Folded.position, pinnedTargets_eq]
      dsimp only
      rw [enters, List.map_append, List.map_cons, List.map_nil, idxOf?_append differs]
      rfl
  | some prev =>
    cases was : prev.pinned with
    | false =>
      have hidden : ∀ old, folded.pins.get targetId = some old → old.pinned = false := by
        intro old isHeld
        cases held ▸ isHeld
        exact was
      cases now : pin.pinned with
      | false =>
        have same : Folded.pinnedTargets
            { folded with pins := folded.pins.insert targetId pin } = folded.pinnedTargets := by
          rw [pinnedTargets_eq, pinnedTargets_eq]
          exact congrArg (List.map Prod.fst) (ranked_insert_hidden Pin.pinned Pin.order hidden now)
        exact ⟨fun _ _ _ => same, unmoved same⟩
      | true =>
        have behind := undisturbed.behind pin.order
          (.inr ⟨by rw [held, place, was]; rfl, by rw [place, if_pos now]⟩)
        have enters := ranked_insert_enters Pin.pinned Pin.order hidden now behind
        refine ⟨?_, ?_⟩
        · rintro _ ⟨⟩ same
          cases was ▸ same
        intro other differs
        rw [Folded.position, pinnedTargets_eq]
        dsimp only
        rw [enters, List.map_append, List.map_cons, List.map_nil, idxOf?_append differs]
        rfl
    | true =>
      cases now : pin.pinned with
      | false =>
        have behind := undisturbed.behind prev.order
          (.inl ⟨by rw [held, place, if_pos was], by rw [place, now]; rfl⟩)
        have leaves := ranked_insert_leaves Pin.pinned Pin.order held was now behind
        refine ⟨?_, ?_⟩
        · rintro _ ⟨⟩ same
          cases was ▸ same
        · intro other differs
          rw [Folded.position, Folded.position, pinnedTargets_eq, pinnedTargets_eq, leaves,
            List.map_append, List.map_cons, List.map_nil, idxOf?_append differs]
      | true =>
        have apart : ∀ other kept, other ≠ targetId → folded.pins.get other = some kept →
            kept.pinned = true →
              kept.order < min prev.order pin.order ∨ max prev.order pin.order < kept.order := by
          intro other kept differs isHeld isPinned
          have between := undisturbed other kept differs isHeld isPinned
          rw [held, place, if_pos was, place, if_pos now, ← WithTop.coe_min,
            ← WithTop.coe_max, WithTop.coe_lt_coe, WithTop.coe_lt_coe] at between
          exact between
        have same : Folded.pinnedTargets
            { folded with pins := folded.pins.insert targetId pin } = folded.pinnedTargets := by
          rw [pinnedTargets_eq, pinnedTargets_eq]
          dsimp only
          rw [ranked_insert_shown Pin.pinned Pin.order held was now apart, targets]
        exact ⟨fun _ _ _ => same, unmoved same⟩

end Pins

/-! ## Reactions -/

section Reactions

variable {folded : Folded Attachment} {targetId emoji sender : String} {prev : Reaction}

/-- What a later reaction does to the tallies of its target. -/
def Folded.Counted.moved (emoji : String) (earlier later : Int) (tally : Folded.Counted) :
    Folded.Counted :=
  if tally.emoji = emoji ∧ tally.first = earlier then { tally with first := later } else tally

variable {order : Int}

theorem counted_moved {bySender : OrderedMap String Reaction}
    (held : bySender.get sender = some prev) (adds : prev.add = true) (later : prev.order < order)
    (members : ∀ other reaction, other ≠ sender → bySender.get other = some reaction →
      reaction.add = true → reaction.order < prev.order ∨ order < reaction.order)
    :
    Folded.counted emoji (bySender.insert sender { add := true, order }) =
      (Folded.counted emoji bySender).map (Folded.Counted.moved emoji prev.order order) := by
  have moves : Folded.adders (bySender.insert sender { add := true, order }) =
      (Folded.adders bySender).map fun entry =>
        if entry.1 = sender then (sender, { add := true, order }) else entry := by
    refine ranked_insert_shown Reaction.add Reaction.order held adds rfl ?_
    intro other reaction differs isHeld isAdded
    rw [min_eq_left later.le, max_eq_right later.le]
    exact members other reaction differs isHeld isAdded
  have isRanked : ∀ entry ∈ Folded.adders bySender,
      bySender.get entry.1 = some entry.2 ∧ entry.2.add = true := fun entry isEntry =>
    (mem_ranked Reaction.add Reaction.order).mp isEntry
  unfold Folded.counted
  rw [moves]
  cases isAdders : Folded.adders bySender with
  | nil => rfl
  | cons first rest =>
    have sameKeys : ∀ entries : List (String × Reaction),
        (entries.map fun entry =>
          if entry.1 = sender then (sender, ({ add := true, order } : Reaction)) else entry).map
            Prod.fst = entries.map Prod.fst := by
      intro entries
      rw [List.map_map]
      refine List.map_congr_left fun entry _ => ?_
      by_cases same : entry.1 = sender <;> simp [same]
    obtain ⟨isHeld, isAdded⟩ := isRanked first (isAdders ▸ List.mem_cons_self)
    have keys := sameKeys (first :: rest)
    rw [List.map_cons] at keys ⊢
    dsimp only
    rw [keys, Option.map_some, Folded.Counted.moved]
    by_cases same : first.1 = sender
    · rw [same, held] at isHeld
      have isFirst : first.2.order = prev.order := by rw [← Option.some.inj isHeld]
      rw [if_pos same, if_pos ⟨rfl, isFirst⟩]
    have apart := members first.1 first.2 same isHeld isAdded
    have notFirst : ¬(emoji = emoji ∧ first.2.order = prev.order) := by
      rintro ⟨-, isFirst⟩
      omega
    rw [if_neg same, if_neg notFirst]

section

variable (held : folded.reaction? targetId emoji sender = some prev)
include held

theorem tallies_again (adds : prev.add = true) (later : prev.order < order)
    (uncrossed : Uncrossed folded targetId emoji sender prev.order order) :
    (folded.setReaction targetId emoji sender { add := true, order }).tallies targetId =
      (folded.tallies targetId).map (Folded.Counted.moved emoji prev.order order) := by
  have isHeld := held
  rw [Folded.reaction?, Option.bind_eq_some_iff] at isHeld
  obtain ⟨bySender, isEmoji, isSender⟩ := isHeld
  obtain ⟨byEmoji, isTarget, isEmoji⟩ := Option.bind_eq_some_iff.mp isEmoji
  have members : ∀ other reaction, other ≠ sender → bySender.get other = some reaction →
      reaction.add = true → reaction.order < prev.order ∨ order < reaction.order := by
    intro other reaction differs isReaction isAdded
    refine uncrossed.members other reaction differs ?_ isAdded
    rw [Folded.reaction?, isTarget, Option.bind_some, isEmoji, Option.bind_some, isReaction]
  simp only [Folded.tallies, Folded.setReaction, OrderedMap.get_insert, if_true, isTarget,
    Option.getD_some, isEmoji]
  rw [OrderedMap.entries_insert_of_some _ isEmoji, List.filterMap_map, List.map_filterMap]
  refine List.filterMap_congr fun entry isEntry => ?_
  by_cases same : entry.1 = emoji
  · have isBySender := (byEmoji.mem_entries_iff entry).mp isEntry
    rw [same, isEmoji] at isBySender
    simp only [Function.comp, if_pos same]
    rw [counted_moved isSender adds later members, same, Option.some.inj isBySender]
  simp only [Function.comp, if_neg same]
  cases isCounted : Folded.counted entry.1 entry.2 with
  | none => rfl
  | some tally =>
    have other : ¬(tally.emoji = emoji ∧ tally.first = prev.order) := by
      rintro ⟨isEmoji', -⟩
      exact same ((counted_some isCounted).1.symm.trans isEmoji')
    rw [Option.map_some, Folded.Counted.moved, if_neg other]

/-- **A reaction that is given once more**, crossing no other, leaves the tallies of its
target as they are shown. -/
theorem reactionsFor_again (adds : prev.add = true) (later : prev.order < order)
    (uncrossed : Uncrossed folded targetId emoji sender prev.order order) :
    (folded.setReaction targetId emoji sender { add := true, order }).reactionsFor targetId =
      folded.reactionsFor targetId := by
  have onlyOne : ∀ first ∈ folded.tallies targetId, ∀ second ∈ folded.tallies targetId,
      first.emoji = second.emoji → first = second := by
    intro first isFirst second isSecond same
    rw [mem_tallies] at isFirst isSecond
    rw [same] at isFirst
    exact Option.some.inj (isFirst.symm.trans isSecond)
  -- a tally that moves stays on its side of one that does not
  have apart : ∀ own ∈ folded.tallies targetId, ∀ other ∈ folded.tallies targetId,
      (own.emoji = emoji ∧ own.first = prev.order) →
      ¬(other.emoji = emoji ∧ other.first = prev.order) →
        other.first < prev.order ∨ order < other.first := by
    rintro own isOwn other isOther ⟨isEmoji, isFirst⟩ stays
    refine uncrossed.emojis own isOwn isEmoji isFirst other isOther fun isEmoji' => ?_
    rw [onlyOne own isOwn other isOther (isEmoji.trans isEmoji'.symm)] at isFirst
    exact stays ⟨isEmoji', isFirst⟩
  have shownAlike : ∀ tally : Folded.Counted,
      (⟨(tally.moved emoji prev.order order).emoji, (tally.moved emoji prev.order order).members⟩ :
        ReactionTally) = ⟨tally.emoji, tally.members⟩ := by
    intro tally
    unfold Folded.Counted.moved
    split <;> rfl
  rw [reactionsFor_eq, reactionsFor_eq, tallies_again held adds later uncrossed,
    ← List.map_insertionSort (fun left right : Folded.Counted => left.first ≤ right.first),
    List.map_map]
  · exact List.map_congr_left fun tally _ => shownAlike tally
  intro first isFirst second isSecond
  unfold Folded.Counted.moved
  by_cases moves : first.emoji = emoji ∧ first.first = prev.order
  · by_cases moves' : second.emoji = emoji ∧ second.first = prev.order
    · rw [if_pos moves, if_pos moves', moves.2, moves'.2]
      simp
    rw [if_pos moves, if_neg moves', moves.2]
    have side := apart first isFirst second isSecond moves moves'
    dsimp only
    omega
  by_cases moves' : second.emoji = emoji ∧ second.first = prev.order
  · rw [if_neg moves, if_pos moves', moves'.2]
    have side := apart second isSecond first isFirst moves' moves
    dsimp only
    omega
  · rw [if_neg moves, if_neg moves']

/-- A reaction that is taken back once more is not shown before or after. -/
theorem reactionsFor_again_off (off : prev.add = false) :
    (folded.setReaction targetId emoji sender { add := false, order }).reactionsFor targetId =
      folded.reactionsFor targetId := by
  rw [Folded.reaction?, Option.bind_eq_some_iff] at held
  obtain ⟨bySender, isEmoji, isSender⟩ := held
  obtain ⟨byEmoji, isTarget, isEmoji⟩ := Option.bind_eq_some_iff.mp isEmoji
  have unseen : Folded.adders (bySender.insert sender { add := false, order }) =
      Folded.adders bySender := by
    refine ranked_insert_hidden Reaction.add Reaction.order ?_ rfl
    intro old isOld
    cases isSender ▸ isOld
    exact off
  have sameTallies :
      (folded.setReaction targetId emoji sender { add := false, order }).tallies targetId =
        folded.tallies targetId := by
    simp only [Folded.tallies, Folded.setReaction, OrderedMap.get_insert, if_true, isTarget,
      Option.getD_some, isEmoji]
    rw [OrderedMap.entries_insert_of_some _ isEmoji, List.filterMap_map]
    refine List.filterMap_congr fun entry isEntry => ?_
    by_cases same : entry.1 = emoji
    · have isBySender := (byEmoji.mem_entries_iff entry).mp isEntry
      rw [same, isEmoji] at isBySender
      simp only [Function.comp, if_pos same]
      rw [Folded.counted, unseen, same, Option.some.inj isBySender]
      rfl
    · simp only [Function.comp, if_neg same]
  rw [reactionsFor_eq, reactionsFor_eq, sameTallies]

end

end Reactions

/-! ## One event -/

section Event

variable {folded : Folded Attachment} {target : Target} {targetId : String}
  {pending : PendingEvent Attachment}

variable {other : String}

theorem not_mem_changedTargets {changed : Bool} :
    other ∉ TimelineFold.changedTargets targetId changed ↔ other ≠ targetId ∨ changed = false := by
  cases changed <;> simp [TimelineFold.changedTargets]

theorem view_of_frame (targetId : String) {after : Folded Attachment} {changed : Bool}
    (frame : other ≠ targetId → after.reactions.get other = folded.reactions.get other ∧
      after.edits.get other = folded.edits.get other ∧
      after.deletes.get other = folded.deletes.get other ∧
      after.votes.get other = folded.votes.get other)
    (pins : after.pins = folded.pins)
    (own : changed = false → after.view targetId = folded.view targetId)
    (unreported : other ∉ TimelineFold.changedTargets targetId changed) :
    after.view other = folded.view other := by
  by_cases same : other = targetId
  · subst same
    rcases not_mem_changedTargets.mp unreported with differs | unchanged
    · exact absurd rfl differs
    · exact own unchanged
  · obtain ⟨reactions, edits, deletes, votes⟩ := frame same
    exact view_congr (reactionsFor_of_get reactions) edits deletes votes
      (position_of_pins pins other)

/-- **An event that crosses nothing** leaves every view as it is but that of a target it
reports. -/
theorem view_apply (quiet : QuietEvent folded targetId pending)
    (unreported : other ∉ TimelineFold.changedTargets targetId
      (folded.apply target targetId pending).1)
    :
    (folded.apply target targetId pending).2.view other = folded.view other := by
  revert unreported
  cases event : pending.event with
  | reaction subject emoji add =>
    simp only [QuietEvent, event] at quiet
    simp only [Folded.apply, event]
    split
    · exact fun _ => rfl
    next later =>
    refine view_of_frame targetId ?_ rfl ?_
    · intro differs
      simp [Folded.setReaction, differs]
    intro unchanged
    cases held : folded.reaction? targetId emoji pending.sender with
    | none => cases held ▸ unchanged
    | some prev =>
      rw [held, Option.all_some] at unchanged
      rw [held, Option.any_some, decide_eq_true_eq, not_le] at later
      have sameAdd : prev.add = add := by simpa using unchanged
      have sameReactions :
          (folded.setReaction targetId emoji pending.sender
            { add, order := pending.order }).reactionsFor targetId =
            folded.reactionsFor targetId := by
        cases add with
        | true =>
          exact reactionsFor_again held sameAdd later (quiet prev held later sameAdd rfl)
        | false => exact reactionsFor_again_off held sameAdd
      exact view_congr sameReactions rfl rfl rfl rfl
  | edit =>
    simp only [Folded.apply, event]
    split
    · exact fun _ => rfl
    split
    · exact fun _ => rfl
    · refine view_of_frame targetId ?_ rfl (by rintro ⟨⟩)
      intro differs
      simp [differs]
  | delete =>
    simp only [Folded.apply, event]
    split
    · exact fun _ => rfl
    · refine view_of_frame targetId ?_ rfl (by rintro ⟨⟩)
      intro differs
      simp [differs]
  | pin subject pinned =>
    simp only [QuietEvent, event] at quiet
    simp only [Folded.apply, event]
    split
    · exact fun _ => rfl
    next later =>
    have isLater : ∀ prev ∈ folded.pins.get targetId, prev.order < pending.order := by
      intro prev isHeld
      rw [Option.mem_def] at isHeld
      rw [isHeld, Option.any_some, decide_eq_true_eq, not_le] at later
      exact later
    obtain ⟨own, others⟩ := pins_written (quiet isLater)
    intro unreported
    refine view_congr rfl rfl rfl rfl ?_
    by_cases same : other = targetId
    · subst same
      rcases not_mem_changedTargets.mp unreported with differs | unchanged
      · exact absurd rfl differs
      cases held : folded.pins.get other with
      | none => cases held ▸ unchanged
      | some prev =>
        rw [held, Option.all_some] at unchanged
        have samePinned : prev.pinned = pinned := by simpa using unchanged
        rw [Folded.position, Folded.position, own prev held samePinned]
    · exact others other same
  | pollVote =>
    simp only [Folded.apply, event]
    split
    · exact fun _ => rfl
    · refine view_of_frame targetId ?_ rfl (by rintro ⟨⟩)
      intro differs
      simp [Folded.setVote, differs]

end Event

/-! ## Events that waited -/

section Replay

variable {folded : Folded Attachment} {target : Target} {targetId : String}

/-- Nothing was written but about one target, and of its pins at most the last counts. -/
structure Frame (targetId : String) (before after : Folded Attachment) : Prop where
  entries : ∀ other, other ≠ targetId →
    after.reactions.get other = before.reactions.get other ∧
    after.edits.get other = before.edits.get other ∧
    after.deletes.get other = before.deletes.get other ∧
    after.votes.get other = before.votes.get other
  pins : after.pins = before.pins ∨ ∃ pin, after.pins = before.pins.insert targetId pin

theorem Frame.refl (folded : Folded Attachment) : Frame targetId folded folded where
  entries _ _ := ⟨rfl, rfl, rfl, rfl⟩
  pins := .inl rfl

theorem Frame.trans {first second third : Folded Attachment}
    (before : Frame targetId first second) (after : Frame targetId second third) :
    Frame targetId first third where
  entries other differs := by
    obtain ⟨reactions, edits, deletes, votes⟩ := before.entries other differs
    obtain ⟨reactions', edits', deletes', votes'⟩ := after.entries other differs
    exact ⟨reactions'.trans reactions, edits'.trans edits, deletes'.trans deletes,
      votes'.trans votes⟩
  pins := by
    rcases after.pins with same | ⟨pin, written⟩
    · rw [same]
      exact before.pins
    · rcases before.pins with same | ⟨earlier, written'⟩
      · exact .inr ⟨pin, by rw [written, same]⟩
      · exact .inr ⟨pin, by rw [written, written', OrderedMap.insert_insert]⟩

theorem frame_apply (pending : PendingEvent Attachment) :
    Frame targetId folded (folded.apply target targetId pending).2 := by
  cases event : pending.event with
  | reaction =>
    simp only [Folded.apply, event]
    split
    · exact Frame.refl folded
    · exact ⟨fun other differs => by simp [Folded.setReaction, differs], .inl rfl⟩
  | edit =>
    simp only [Folded.apply, event]
    split
    · exact Frame.refl folded
    · split
      · exact Frame.refl folded
      · exact ⟨fun other differs => by simp [differs], .inl rfl⟩
  | delete =>
    simp only [Folded.apply, event]
    split
    · exact Frame.refl folded
    · exact ⟨fun other differs => by simp [differs], .inl rfl⟩
  | pin =>
    simp only [Folded.apply, event]
    split
    · exact Frame.refl folded
    · exact ⟨fun other _ => ⟨rfl, rfl, rfl, rfl⟩, .inr ⟨_, rfl⟩⟩
  | pollVote =>
    simp only [Folded.apply, event]
    split
    · exact Frame.refl folded
    · exact ⟨fun other differs => by simp [Folded.setVote, differs], .inl rfl⟩

theorem apply_blank (target : Target) (blank : Blank folded targetId)
    (pending : PendingEvent Attachment) :
    (folded.apply target targetId pending).1 = true ∨
      (folded.apply target targetId pending).2 = folded := by
  cases event : pending.event with
  | reaction =>
    simp only [Folded.apply, event, blank.reactions]
    exact .inl rfl
  | edit =>
    simp only [Folded.apply, event]
    split
    · exact .inr rfl
    · split
      · exact .inr rfl
      · exact .inl rfl
  | delete =>
    simp only [Folded.apply, event]
    split
    · exact .inr rfl
    · exact .inl rfl
  | pin =>
    simp only [Folded.apply, event, blank.pins]
    exact .inl rfl
  | pollVote =>
    simp only [Folded.apply, event, blank.votes]
    exact .inl rfl

variable {fold : TimelineFold Attachment}

/-- **The events that waited**: either the target is reported, or nothing was written. -/
theorem replay_blank (known : fold.targets.get targetId = some target)
    (blank : Blank fold.folded targetId) (pendings : List (PendingEvent Attachment)) :
    (fold.replay targetId pendings).1 = true ∨ (fold.replay targetId pendings).2 = fold := by
  induction pendings with
  | nil => exact .inr rfl
  | cons pending rest ih =>
    simp only [TimelineFold.replay]
    have first : (fold.apply targetId pending).1 = true ∨
        (fold.apply targetId pending).2 = fold := by
      simp only [TimelineFold.apply, known]
      split
      · exact .inr rfl
      · rcases apply_blank target blank pending with reported | same
        · exact .inl reported
        · exact .inr (by rw [same])
    rcases first with reported | same
    · exact .inl (by rw [reported, Bool.true_or])
    rw [same]
    rcases ih with reported | unchanged
    · exact .inl (by rw [reported, Bool.or_true])
    · exact .inr unchanged

theorem frame_replay (known : fold.targets.get targetId = some target)
    (pendings : List (PendingEvent Attachment)) :
    Frame targetId fold.folded (fold.replay targetId pendings).2.folded := by
  induction pendings generalizing fold with
  | nil => exact Frame.refl _
  | cons pending rest ih =>
    obtain ⟨folded, applies, -, -⟩ := apply_known known pending
    have first : Frame targetId fold.folded (fold.apply targetId pending).2.folded := by
      simp only [TimelineFold.apply, known]
      split
      · exact Frame.refl _
      · exact frame_apply pending
    have knownAfter : (fold.apply targetId pending).2.targets.get targetId = some target := by
      rw [applies]
      exact known
    exact first.trans (ih knownAfter)

end Replay

/-! ## One row -/

section Row

variable {fold : TimelineFold Attachment} {row : FoldInput Attachment}

/-- Nothing is written about a target that has not been seen. -/
def Fresh (fold : TimelineFold Attachment) : Prop :=
  ∀ targetId, fold.targets.get targetId = none → Blank fold.folded targetId

/-- **A target that is seen for the first time.** -/
theorem view_ingestTarget (fresh : Fresh fold) (isPlain : row.event = none)
    (quiet : Quiet unicode fold row) {other : String}
    (unreported : other ∉ (fold.ingestTarget unicode row).1) :
    (fold.ingestTarget unicode row).2.folded.view other = fold.folded.view other := by
  simp only [Quiet, isPlain] at quiet
  revert unreported
  unfold TimelineFold.ingestTarget
  split
  · exact fun _ => rfl
  next notKnown =>
  have unknown : fold.targets.get row.messageId = none := by simpa using notKnown
  have blank := fresh row.messageId unknown
  set known : TimelineFold Attachment :=
    { fold with targets := fold.targets.insert row.messageId (row.asTarget unicode) }
    with isKnown
  have isTarget : known.targets.get row.messageId = some (row.asTarget unicode) := by
    simp [isKnown]
  show other ∉ TimelineFold.changedTargets row.messageId (known.replay row.messageId
      ((fold.pending.get row.messageId).getD [])).1 →
    (known.replay row.messageId ((fold.pending.get row.messageId).getD [])).2.folded.view other =
      fold.folded.view other
  intro unreported
  by_cases same : other = row.messageId
  · subst same
    rcases not_mem_changedTargets.mp unreported with differs | unchanged
    · exact absurd rfl differs
    rcases replay_blank isTarget blank ((fold.pending.get row.messageId).getD [])
      with reported | nothing
    · cases reported ▸ unchanged
    · rw [nothing]
  have frame := frame_replay isTarget ((fold.pending.get row.messageId).getD [])
  obtain ⟨last, replays, reflects, -⟩ :=
    replay_known ((fold.pending.get row.messageId).getD []) isTarget (blank.reflects _)
  rw [Set.empty_union] at reflects
  rw [replays] at frame ⊢
  obtain ⟨reactions, edits, deletes, votes⟩ := frame.entries other same
  refine view_congr (reactionsFor_of_get reactions) edits deletes votes ?_
  rcases frame.pins with samePins | ⟨pin, written⟩
  · exact position_of_pins samePins other
  have isPin : last.pins.get row.messageId = some pin := by
    rw [written, OrderedMap.get_insert, if_pos rfl]
  have isLatest := reflects.pins
  rw [isPin] at isLatest
  have undisturbed := quiet unknown pin isLatest
  have noPin : place (fold.folded.pins.get row.messageId) = ⊤ := by
    rw [blank.pins]
    rfl
  rw [← noPin] at undisturbed
  have unmoved := (pins_written undisturbed).2 other same
  rw [← unmoved, Folded.position, Folded.position, Folded.pinnedTargets, Folded.pinnedTargets]
  dsimp only at written ⊢
  rw [written]

theorem view_ingestEvent {event : MessageEvent Attachment} (isEvent : row.event = some event)
    (quiet : Quiet unicode fold row) {other : String}
    (unreported : other ∉ (fold.ingestEvent unicode row event).1) :
    (fold.ingestEvent unicode row event).2.folded.view other = fold.folded.view other := by
  simp only [Quiet, isEvent] at quiet
  revert unreported
  unfold TimelineFold.ingestEvent
  split
  · exact fun _ => rfl
  next counts =>
  rw [Bool.or_eq_true, not_or, Bool.not_eq_true', Bool.not_eq_false, Bool.not_eq_true] at counts
  have unseen : row.messageId ∉ fold.seenEvents := by
    intro isSeen
    rw [List.contains_iff_mem.mpr isSeen] at counts
    exact Bool.true_eq_false.mp counts.2
  cases known : fold.targets.get event.target with
  | none =>
    simp only [known, Option.isSome_none, Bool.false_eq_true, if_false]
    exact fun _ => trivial
  | some target =>
    simp only [Option.isSome_some, if_true, TimelineFold.apply, known]
    split
    · exact fun _ => rfl
    · next later =>
      exact view_apply (quiet counts.1 unseen target known (not_le.mp later))

theorem view_ingest (fresh : Fresh fold) (quiet : Quiet unicode fold row) {other : String}
    (unreported : other ∉ (fold.ingest unicode row).1) :
    (fold.ingest unicode row).2.folded.view other = fold.folded.view other := by
  unfold TimelineFold.ingest at unreported ⊢
  cases isEvent : row.event with
  | none =>
    rw [isEvent] at unreported
    exact view_ingestTarget fresh isEvent quiet unreported
  | some =>
    rw [isEvent] at unreported
    exact view_ingestEvent isEvent quiet unreported

theorem Fresh.ingest (fresh : Fresh fold) (row : FoldInput Attachment) :
    Fresh (fold.ingest unicode row).2 := by
  unfold TimelineFold.ingest
  cases row.event with
  | none =>
    unfold TimelineFold.ingestTarget
    dsimp only
    split
    · exact fresh
    next notKnown =>
    have unknown : fold.targets.get row.messageId = none := by simpa using notKnown
    set known : TimelineFold Attachment :=
      { fold with targets := fold.targets.insert row.messageId (row.asTarget unicode) }
      with isKnown
    have isTarget : known.targets.get row.messageId = some (row.asTarget unicode) := by
      simp [isKnown]
    obtain ⟨last, replays, -, frame⟩ :=
      replay_known ((fold.pending.get row.messageId).getD []) isTarget
        ((fresh row.messageId unknown).reflects _)
    intro targetId stillUnknown
    replace stillUnknown : (known.replay row.messageId
        ((fold.pending.get row.messageId).getD [])).2.targets.get targetId = none :=
      stillUnknown
    rw [replays, isKnown] at stillUnknown
    simp only [OrderedMap.get_insert] at stillUnknown
    split_ifs at stillUnknown with same
    have blank := (fresh targetId stillUnknown).of_sameAt (frame targetId same)
    show Blank (known.replay row.messageId
      ((fold.pending.get row.messageId).getD [])).2.folded targetId
    rw [replays]
    exact blank
  | some event =>
    dsimp only
    unfold TimelineFold.ingestEvent
    split
    · exact fresh
    cases known : fold.targets.get event.target with
    | none =>
      simp only [known, Option.isSome_none, Bool.false_eq_true, if_false]
      exact fresh
    | some target =>
      have isTarget : ({ fold with seenEvents := row.messageId :: fold.seenEvents } :
          TimelineFold Attachment).targets.get event.target = some target := known
      obtain ⟨folded, applies, -, frame⟩ := apply_known isTarget (row.asPending unicode event)
      simp only [FoldInput.asPending] at applies
      simp only [known, Option.isSome_some, if_true, applies]
      intro targetId unknown
      have differs : targetId ≠ event.target := by
        rintro rfl
        cases known ▸ unknown
      exact (fresh targetId unknown).of_sameAt (frame targetId differs)

theorem fresh_ingestAll (seen : List (FoldInput Attachment)) :
    Fresh (TimelineFold.ingestAll unicode seen) := by
  induction seen using List.reverseRecOn with
  | nil => exact fun targetId _ => blank_new targetId
  | append_singleton earlier row ih =>
    have last : TimelineFold.ingestAll unicode (earlier ++ [row]) =
        ((TimelineFold.ingestAll unicode earlier).ingest unicode row).2 := by
      simp [TimelineFold.ingestAll]
    rw [last]
    exact ih.ingest row

end Row

/-! ## Batches of rows -/

theorem view_ingestBatch {fold : TimelineFold Attachment} {batch : List (FoldInput Attachment)}
    (fresh : Fresh fold) (quiet : QuietBatch unicode fold batch)
    (unreported : targetId ∉ (fold.ingestBatch unicode batch).1) :
    (fold.ingestBatch unicode batch).2.folded.view targetId = fold.folded.view targetId := by
  induction batch generalizing fold with
  | nil => rfl
  | cons row rest ih =>
    obtain ⟨first, others⟩ := quiet
    simp only [TimelineFold.ingestBatch, List.mem_append, not_or] at unreported ⊢
    exact (ih (fresh.ingest row) others unreported.2).trans (view_ingest fresh first unreported.1)

/-- **The fold reports its changes**: after whatever rows, a batch of quiet rows reports
every target whose view is another after it. -/
theorem reports_changes (unicode : Unicode) (seen batch : List (FoldInput Attachment))
    (quiet : QuietBatch unicode (TimelineFold.ingestAll unicode seen) batch)
    (targetId : String)
    (differs : ((TimelineFold.ingestAll unicode seen).ingestBatch unicode batch).2.folded.view
        targetId ≠ (TimelineFold.ingestAll unicode seen).folded.view targetId) :
    targetId ∈ ((TimelineFold.ingestAll unicode seen).ingestBatch unicode batch).1 := by
  by_contra unreported
  exact differs (view_ingestBatch (fresh_ingestAll seen) quiet unreported)

/-! ## Two members react -/

/-- A reaction to the message `m`. -/
def thumbsUp (messageId sender : String) (order : Int) : FoldInput Unit where
  messageId
  order
  senderAddress := sender
  senderVerified := true
  event := some (.reaction "m" "👍" true)

def sampleMessage : FoldInput Unit where
  messageId := "m"
  order := 1
  senderAddress := "alice"
  senderVerified := true
  event := none

/-- The first reaction of a member is reported. -/
theorem second_reactor_reported :
    "m" ∈ ((TimelineFold.ingestAll plainText
      [sampleMessage, thumbsUp "e1" "bob" 2]).ingestBatch plainText
        [thumbsUp "e2" "carol" 3]).1 := by
  have quiet : QuietBatch plainText
      (TimelineFold.ingestAll plainText [sampleMessage, thumbsUp "e1" "bob" 2])
      [thumbsUp "e2" "carol" 3] := by
    refine ⟨?_, trivial⟩
    intro _ _ target _ _ prev held
    have noReaction : (TimelineFold.ingestAll plainText
        [sampleMessage, thumbsUp "e1" "bob" 2]).folded.reaction? "m" "👍" "carol" = none := by
      decide
    exact absurd (held.symm.trans noReaction) nofun
  refine reports_changes plainText _ _ quiet "m" fun same => ?_
  have shown := congrArg View.reactions same
  revert shown
  decide

/-- **Reacting once more is not reported**, though the reactor now comes after another. -/
theorem again_unreported :
    ((TimelineFold.ingestAll plainText
      [sampleMessage, thumbsUp "e1" "bob" 2, thumbsUp "e2" "carol" 3]).ingest plainText
        (thumbsUp "e3" "bob" 4)).1 = [] ∧
    (TimelineFold.ingestAll plainText
      [sampleMessage, thumbsUp "e1" "bob" 2, thumbsUp "e2" "carol" 3]).folded.reactionsFor "m" =
        [{ emoji := "👍", members := ["bob", "carol"] }] ∧
    (TimelineFold.ingestAll plainText
      [sampleMessage, thumbsUp "e1" "bob" 2, thumbsUp "e2" "carol" 3,
        thumbsUp "e3" "bob" 4]).folded.reactionsFor "m" =
        [{ emoji := "👍", members := ["carol", "bob"] }] := by
  decide

end MessagingStack.Sdk.Timeline

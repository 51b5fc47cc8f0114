import MessagingStack.Base.LastWriter
import MessagingStack.Sdk.TimelineFold

/-!
# The registers of a timeline

Every piece of state a fold keeps is a last-writer-wins register, and the writes to it are
made by events that are later than their target.  `Reflects` says that the registers of a
target hold the latest of the writes that a set of events makes.  Applying an event,
guarded as the SDK does it (`applied_apply`) or in order as the protocol does it
(`applied_rule`), gives each register the write the event makes to it, so the registers
reflect the set with one event more (`Reflects.applied`), and registers that reflect the
same events agree (`Reflects.sameAt`).
-/

namespace MessagingStack.Sdk.Timeline

open LastWriter

variable {Attachment : Type} {unicode : Unicode}

/-! ## The writes of an event -/

section Writes

variable (target : Target)

def reactionBy (emoji sender : String) (pending : PendingEvent Attachment) : Option Reaction :=
  match pending.event with
  | .reaction _ which add =>
    if target.order < pending.order ∧ which = emoji ∧ pending.sender = sender then
      some { add, order := pending.order }
    else none
  | _ => none

def editBy (pending : PendingEvent Attachment) : Option (FoldedEdit Attachment) :=
  match pending.event with
  | .edit _ text att =>
    if target.order < pending.order ∧ pending.sender = target.sender then
      some { text, att, order := pending.order }
    else none
  | _ => none

def deletedBy (pending : PendingEvent Attachment) : Prop :=
  target.order < pending.order ∧ pending.sender = target.sender ∧
    pending.event = .delete pending.event.target

def pinBy (pending : PendingEvent Attachment) : Option Pin :=
  match pending.event with
  | .pin _ pinned =>
    if target.order < pending.order then some { pinned, order := pending.order } else none
  | _ => none

def voteBy (sender : String) (pending : PendingEvent Attachment) : Option Vote :=
  match pending.event with
  | .pollVote _ options =>
    if target.order < pending.order ∧ pending.sender = sender then
      some { options, order := pending.order }
    else none
  | _ => none

variable {target} {pending : PendingEvent Attachment}

theorem reactionBy_order {emoji sender : String} (pending : PendingEvent Attachment)
    (written : Reaction) (makes : reactionBy target emoji sender pending = some written) :
    written.order = pending.order := by
  revert makes
  cases event : pending.event <;> simp only [reactionBy, event, reduceCtorEq, false_implies]
  split
  · rintro ⟨⟩
    rfl
  · rintro ⟨⟩

theorem editBy_order (pending : PendingEvent Attachment) (written : FoldedEdit Attachment)
    (makes : editBy target pending = some written) : written.order = pending.order := by
  revert makes
  cases event : pending.event <;> simp only [editBy, event, reduceCtorEq, false_implies]
  split
  · rintro ⟨⟩
    rfl
  · rintro ⟨⟩

theorem pinBy_order (pending : PendingEvent Attachment) (written : Pin)
    (makes : pinBy target pending = some written) : written.order = pending.order := by
  revert makes
  cases event : pending.event <;> simp only [pinBy, event, reduceCtorEq, false_implies]
  split
  · rintro ⟨⟩
    rfl
  · rintro ⟨⟩

theorem voteBy_order {sender : String} (pending : PendingEvent Attachment) (written : Vote)
    (makes : voteBy target sender pending = some written) : written.order = pending.order := by
  revert makes
  cases event : pending.event <;> simp only [voteBy, event, reduceCtorEq, false_implies]
  split
  · rintro ⟨⟩
    rfl
  · rintro ⟨⟩

end Writes

structure Reflects (target : Target) (events : Set (PendingEvent Attachment))
    (folded : Folded Attachment) (targetId : String) : Prop where
  reactions : ∀ emoji sender,
    IsLatest Reaction.order (contributed (reactionBy target emoji sender) events)
      (folded.reaction? targetId emoji sender)
  edits : IsLatest FoldedEdit.order (contributed (editBy target) events) (folded.edits.get targetId)
  deletes : folded.isDeleted targetId = true ↔ ∃ pending ∈ events, deletedBy target pending
  pins : IsLatest Pin.order (contributed (pinBy target) events) (folded.pins.get targetId)
  votes : ∀ sender, IsLatest Vote.order (contributed (voteBy target sender) events)
    (folded.vote? targetId sender)

/-- The registers of a target are the same in both states. -/
structure SameAt (before after : Folded Attachment) (targetId : String) : Prop where
  reactions : ∀ emoji sender,
    after.reaction? targetId emoji sender = before.reaction? targetId emoji sender
  edits : after.edits.get targetId = before.edits.get targetId
  deletes : after.isDeleted targetId = before.isDeleted targetId
  pins : after.pins.get targetId = before.pins.get targetId
  votes : ∀ sender, after.vote? targetId sender = before.vote? targetId sender

theorem SameAt.refl (folded : Folded Attachment) (targetId : String) :
    SameAt folded folded targetId :=
  ⟨fun _ _ => rfl, rfl, rfl, rfl, fun _ => rfl⟩

variable {targetId other : String} {target : Target} {events : Set (PendingEvent Attachment)}
  {before after : Folded Attachment}

theorem SameAt.trans {first second third : Folded Attachment}
    (before : SameAt first second targetId) (after : SameAt second third targetId) :
    SameAt first third targetId where
  reactions := fun emoji sender =>
    (after.reactions emoji sender).trans (before.reactions emoji sender)
  edits := after.edits.trans before.edits
  deletes := after.deletes.trans before.deletes
  pins := after.pins.trans before.pins
  votes := fun sender => (after.votes sender).trans (before.votes sender)

theorem Reflects.of_sameAt (reflects : Reflects target events before targetId)
    (same : SameAt before after targetId) :
    Reflects target events after targetId where
  reactions := fun emoji sender => by
    rw [same.reactions]
    exact reflects.reactions emoji sender
  edits := by
    rw [same.edits]
    exact reflects.edits
  deletes := by
    rw [same.deletes]
    exact reflects.deletes
  pins := by
    rw [same.pins]
    exact reflects.pins
  votes := fun sender => by
    rw [same.votes]
    exact reflects.votes sender

/-! ## What the setters do to the registers -/

section Setters

variable (folded : Folded Attachment) (targetId : String)

@[simp] theorem reaction?_setReaction (emoji sender : String) (reaction : Reaction)
    (wanted which who : String) :
    (folded.setReaction targetId emoji sender reaction).reaction? wanted which who =
      if wanted = targetId ∧ which = emoji ∧ who = sender then some reaction
      else folded.reaction? wanted which who := by
  simp only [Folded.setReaction, Folded.reaction?, OrderedMap.get_insert]
  by_cases isTarget : wanted = targetId
  · subst isTarget
    by_cases isEmoji : which = emoji
    · subst isEmoji
      by_cases isSender : who = sender
      · simp [isSender]
      cases first : folded.reactions.get wanted with
      | none => simp [isSender, EmptyCollection.emptyCollection]
      | some byEmoji =>
        cases second : byEmoji.get which <;>
          simp [second, isSender, EmptyCollection.emptyCollection]
    · cases first : folded.reactions.get wanted <;> simp [isEmoji, EmptyCollection.emptyCollection]
  · simp [isTarget]

@[simp] theorem vote?_setVote (sender : String) (vote : Vote) (wanted who : String) :
    (folded.setVote targetId sender vote).vote? wanted who =
      if wanted = targetId ∧ who = sender then some vote else folded.vote? wanted who := by
  simp only [Folded.setVote, Folded.vote?, OrderedMap.get_insert]
  by_cases isTarget : wanted = targetId
  · subst isTarget
    by_cases isSender : who = sender
    · simp [isSender]
    · cases folded.votes.get wanted <;> simp [isSender, EmptyCollection.emptyCollection]
  · simp [isTarget]

end Setters

/-! ## One event -/

structure Applied (target : Target) (pending : PendingEvent Attachment)
    (before after : Folded Attachment) (targetId : String) : Prop where
  reactions : ∀ emoji sender, after.reaction? targetId emoji sender =
    update Reaction.order (before.reaction? targetId emoji sender)
      (reactionBy target emoji sender pending)
  edits : after.edits.get targetId =
    update FoldedEdit.order (before.edits.get targetId) (editBy target pending)
  deletes : after.isDeleted targetId = true ↔
    before.isDeleted targetId = true ∨ deletedBy target pending
  pins : after.pins.get targetId = update Pin.order (before.pins.get targetId)
    (pinBy target pending)
  votes : ∀ sender, after.vote? targetId sender =
    update Vote.order (before.vote? targetId sender) (voteBy target sender pending)

theorem Reflects.applied {pending : PendingEvent Attachment}
    (reflects : Reflects target events before targetId)
    (applied : Applied target pending before after targetId) :
    Reflects target (insert pending events) after targetId where
  reactions := fun emoji sender => by
    rw [applied.reactions]
    exact (reflects.reactions emoji sender).contribute pending
  edits := by
    rw [applied.edits]
    exact reflects.edits.contribute pending
  deletes := by
    rw [applied.deletes, reflects.deletes]
    constructor
    · rintro (⟨earlier, isEvent, deletes⟩ | deletes)
      · exact ⟨earlier, .inr isEvent, deletes⟩
      · exact ⟨pending, .inl rfl, deletes⟩
    · rintro ⟨earlier, rfl | isEvent, deletes⟩
      · exact .inr deletes
      · exact .inl ⟨earlier, isEvent, deletes⟩
  pins := by
    rw [applied.pins]
    exact reflects.pins.contribute pending
  votes := fun sender => by
    rw [applied.votes]
    exact (reflects.votes sender).contribute pending

section Apply

variable {target : Target} {targetId : String} {pending : PendingEvent Attachment}

theorem applied_of_early (folded : Folded Attachment) (early : pending.order ≤ target.order) :
    Applied target pending folded folded targetId := by
  have notLater : ¬ target.order < pending.order := not_lt_of_ge early
  constructor
  · intro emoji sender
    cases event : pending.event <;> simp [reactionBy, event, notLater]
  · cases event : pending.event <;> simp [editBy, event, notLater]
  · simp [deletedBy, notLater]
  · cases event : pending.event <;> simp [pinBy, event, notLater]
  · intro sender
    cases event : pending.event <;> simp [voteBy, event, notLater]

/-! An event writes only to the registers of its own kind. -/

section Kinds

variable {before after : Folded Attachment} {subject : String}

theorem applied_reaction {emoji : String} {add : Bool}
    (event : pending.event = .reaction subject emoji add)
    (reactions : ∀ which who, after.reaction? targetId which who =
      update Reaction.order (before.reaction? targetId which who)
        (reactionBy target which who pending))
    (edits : after.edits = before.edits) (deletes : after.deletes = before.deletes)
    (pins : after.pins = before.pins) (votes : after.votes = before.votes) :
    Applied target pending before after targetId where
  reactions := reactions
  edits := by simp [edits, editBy, event]
  deletes := by simp [Folded.isDeleted, deletes, deletedBy, event]
  pins := by simp [pins, pinBy, event]
  votes := by simp [Folded.vote?, votes, voteBy, event]

theorem applied_edit {text : String} {att : Option (List Attachment)}
    (event : pending.event = .edit subject text att)
    (reactions : after.reactions = before.reactions)
    (edits : after.edits.get targetId =
      update FoldedEdit.order (before.edits.get targetId) (editBy target pending))
    (deletes : after.deletes = before.deletes) (pins : after.pins = before.pins)
    (votes : after.votes = before.votes) :
    Applied target pending before after targetId where
  reactions := by simp [Folded.reaction?, reactions, reactionBy, event]
  edits := edits
  deletes := by simp [Folded.isDeleted, deletes, deletedBy, event]
  pins := by simp [pins, pinBy, event]
  votes := by simp [Folded.vote?, votes, voteBy, event]

theorem applied_delete (event : pending.event = .delete subject)
    (reactions : after.reactions = before.reactions) (edits : after.edits = before.edits)
    (deletes : after.isDeleted targetId = true ↔
      before.isDeleted targetId = true ∨ deletedBy target pending)
    (pins : after.pins = before.pins) (votes : after.votes = before.votes) :
    Applied target pending before after targetId where
  reactions := by simp [Folded.reaction?, reactions, reactionBy, event]
  edits := by simp [edits, editBy, event]
  deletes := deletes
  pins := by simp [pins, pinBy, event]
  votes := by simp [Folded.vote?, votes, voteBy, event]

theorem applied_pin {pinned : Bool} (event : pending.event = .pin subject pinned)
    (reactions : after.reactions = before.reactions) (edits : after.edits = before.edits)
    (deletes : after.deletes = before.deletes)
    (pins : after.pins.get targetId =
      update Pin.order (before.pins.get targetId) (pinBy target pending))
    (votes : after.votes = before.votes) :
    Applied target pending before after targetId where
  reactions := by simp [Folded.reaction?, reactions, reactionBy, event]
  edits := by simp [edits, editBy, event]
  deletes := by simp [Folded.isDeleted, deletes, deletedBy, event]
  pins := pins
  votes := by simp [Folded.vote?, votes, voteBy, event]

theorem applied_pollVote {options : List Int} (event : pending.event = .pollVote subject options)
    (reactions : after.reactions = before.reactions) (edits : after.edits = before.edits)
    (deletes : after.deletes = before.deletes) (pins : after.pins = before.pins)
    (votes : ∀ who, after.vote? targetId who =
      update Vote.order (before.vote? targetId who) (voteBy target who pending)) :
    Applied target pending before after targetId where
  reactions := by simp [Folded.reaction?, reactions, reactionBy, event]
  edits := by simp [edits, editBy, event]
  deletes := by simp [Folded.isDeleted, deletes, deletedBy, event]
  pins := by simp [pins, pinBy, event]
  votes := votes

end Kinds

/-- **The SDK applies an event** that is later than its target. -/
theorem applied_apply (folded : Folded Attachment) (later : target.order < pending.order) :
    Applied target pending folded (folded.apply target targetId pending).2 targetId := by
  cases event : pending.event with
  | reaction subject emoji =>
    simp only [Folded.apply, event]
    refine applied_reaction event (fun which who => ?_) ?_ ?_ ?_ ?_
    · by_cases own : emoji = which ∧ pending.sender = who
      · obtain ⟨rfl, rfl⟩ := own
        simp only [reactionBy, event, later, if_true, and_self, update_some]
        split <;> simp
      have others : ¬ (which = emoji ∧ who = pending.sender) :=
        fun ⟨isEmoji, isSender⟩ => own ⟨isEmoji.symm, isSender.symm⟩
      simp only [reactionBy, event, own, and_false, if_false, update_none]
      split <;> simp [others]
    all_goals split <;> rfl
  | edit =>
    simp only [Folded.apply, event]
    by_cases own : pending.sender = target.sender
    · simp only [own, ne_eq, not_true_eq_false, if_false]
      refine applied_edit event ?_ ?_ ?_ ?_ ?_
      case refine_2 =>
        simp only [editBy, event, later, own, if_true, and_self, update_some]
        split <;> simp
      all_goals split <;> rfl
    · simp only [own, ne_eq, not_false_eq_true, if_true]
      refine applied_edit event rfl ?_ rfl rfl rfl
      simp only [editBy, event, own, and_false, if_false, update_none]
  | delete =>
    simp only [Folded.apply, event]
    refine applied_delete event ?_ ?_ ?_ ?_ ?_
    case refine_3 =>
      split
      · next ignored =>
        rcases ignored with foreign | isDeleted
        · simp [deletedBy, foreign]
        · simp [Folded.isDeleted, isDeleted]
      · next counts =>
        push Not at counts
        simp [Folded.isDeleted, deletedBy, event, later, counts.1, MessageEvent.target]
    all_goals split <;> rfl
  | pin =>
    simp only [Folded.apply, event]
    refine applied_pin event ?_ ?_ ?_ ?_ ?_
    case refine_4 =>
      simp only [pinBy, event, later, if_true, update_some]
      split <;> simp
    all_goals split <;> rfl
  | pollVote =>
    simp only [Folded.apply, event]
    refine applied_pollVote event ?_ ?_ ?_ ?_ (fun who => ?_)
    case refine_5 =>
      by_cases own : pending.sender = who
      · subst own
        simp only [voteBy, event, later, if_true, and_self, update_some]
        split <;> simp
      · simp only [voteBy, event, own, and_false, if_false, update_none]
        split <;> simp [Ne.symm own]
    all_goals split <;> rfl

/-- **The protocol applies an event** that is later than its target and than everything the
registers reflect: no guard is needed. -/
theorem applied_rule {events : Set (PendingEvent Attachment)} {folded : Folded Attachment}
    (reflects : Reflects target events folded pending.event.target)
    (latest : ∀ earlier ∈ events, earlier.order < pending.order)
    (later : target.order < pending.order) :
    Applied target pending folded
      (folded.rule target pending.sender pending.order pending.event) pending.event.target := by
  cases event : pending.event with
  | reaction subject emoji =>
    rw [event] at reflects
    refine applied_reaction event (fun which who => ?_) rfl rfl rfl rfl
    have older := (reflects.reactions which who).lt_of_events reactionBy_order latest
    by_cases own : emoji = which ∧ pending.sender = who
    · obtain ⟨rfl, rfl⟩ := own
      simp only [reactionBy, event, later, if_true, and_self]
      rw [update_some_of_lt older]
      simp [Folded.rule, MessageEvent.target]
    have others : ¬ (which = emoji ∧ who = pending.sender) :=
      fun ⟨isEmoji, isSender⟩ => own ⟨isEmoji.symm, isSender.symm⟩
    simp only [reactionBy, event, own, and_false, if_false, update_none]
    simp [Folded.rule, others]
  | edit =>
    rw [event] at reflects
    have older := reflects.edits.lt_of_events editBy_order latest
    by_cases own : pending.sender = target.sender
    · simp only [Folded.rule, own, if_true]
      refine applied_edit event rfl ?_ rfl rfl rfl
      simp only [editBy, event, later, own, if_true, and_self]
      rw [update_some_of_lt older]
      simp [MessageEvent.target]
    · simp only [Folded.rule, own, if_false]
      refine applied_edit event rfl ?_ rfl rfl rfl
      simp only [editBy, event, own, and_false, if_false, update_none]
  | delete =>
    by_cases own : pending.sender = target.sender
    · simp only [Folded.rule, own, if_true]
      refine applied_delete event rfl rfl ?_ rfl rfl
      simp [Folded.isDeleted, deletedBy, event, later, own, MessageEvent.target]
    · simp only [Folded.rule, own, if_false]
      refine applied_delete event rfl rfl ?_ rfl rfl
      simp [deletedBy, own]
  | pin =>
    rw [event] at reflects
    have older := reflects.pins.lt_of_events pinBy_order latest
    refine applied_pin event rfl rfl rfl ?_ rfl
    simp only [pinBy, event, later, if_true]
    rw [update_some_of_lt older]
    simp [Folded.rule, MessageEvent.target]
  | pollVote =>
    rw [event] at reflects
    refine applied_pollVote event rfl rfl rfl rfl (fun who => ?_)
    have older := (reflects.votes who).lt_of_events voteBy_order latest
    by_cases own : pending.sender = who
    · subst own
      simp only [voteBy, event, later, if_true, and_self]
      rw [update_some_of_lt older]
      simp [Folded.rule, MessageEvent.target]
    · simp only [voteBy, event, own, and_false, if_false, update_none]
      simp [Folded.rule, Ne.symm own]

end Apply

/-! An event writes only to the registers of its target. -/

theorem sameAt_setReaction (folded : Folded Attachment) (differs : other ≠ targetId)
    (emoji sender : String) (reaction : Reaction) :
    SameAt folded (folded.setReaction targetId emoji sender reaction) other :=
  ⟨by simp [differs], rfl, rfl, rfl, fun _ => rfl⟩

theorem sameAt_setVote (folded : Folded Attachment) (differs : other ≠ targetId) (sender : String)
    (vote : Vote) :
    SameAt folded (folded.setVote targetId sender vote) other :=
  ⟨fun _ _ => rfl, rfl, rfl, rfl, by simp [differs]⟩

theorem sameAt_setEdit (folded : Folded Attachment) (differs : other ≠ targetId)
    (edit : FoldedEdit Attachment) :
    SameAt folded { folded with edits := folded.edits.insert targetId edit } other :=
  ⟨fun _ _ => rfl, by simp [differs], rfl, rfl, fun _ => rfl⟩

theorem sameAt_setDelete (folded : Folded Attachment) (differs : other ≠ targetId) (order : Int) :
    SameAt folded { folded with deletes := folded.deletes.insert targetId order } other :=
  ⟨fun _ _ => rfl, rfl, by simp [Folded.isDeleted, differs], rfl, fun _ => rfl⟩

theorem sameAt_setPin (folded : Folded Attachment) (differs : other ≠ targetId) (pin : Pin) :
    SameAt folded { folded with pins := folded.pins.insert targetId pin } other :=
  ⟨fun _ _ => rfl, rfl, rfl, by simp [differs], fun _ => rfl⟩

theorem sameAt_apply (folded : Folded Attachment) (target : Target) (differs : other ≠ targetId)
    (pending : PendingEvent Attachment) :
    SameAt folded (folded.apply target targetId pending).2 other := by
  have unchanged := SameAt.refl folded other
  cases event : pending.event with
  | reaction =>
    simp only [Folded.apply, event]
    split
    · exact unchanged
    · exact sameAt_setReaction folded differs _ _ _
  | edit =>
    simp only [Folded.apply, event]
    split
    · exact unchanged
    · split
      · exact unchanged
      · exact sameAt_setEdit folded differs _
  | delete =>
    simp only [Folded.apply, event]
    split
    · exact unchanged
    · exact sameAt_setDelete folded differs _
  | pin =>
    simp only [Folded.apply, event]
    split
    · exact unchanged
    · exact sameAt_setPin folded differs _
  | pollVote =>
    simp only [Folded.apply, event]
    split
    · exact unchanged
    · exact sameAt_setVote folded differs _ _

theorem sameAt_rule (folded : Folded Attachment) (target : Target) (sender : String) (order : Int)
    (event : MessageEvent Attachment) (differs : other ≠ event.target) :
    SameAt folded (folded.rule target sender order event) other := by
  have unchanged := SameAt.refl folded other
  cases event with
  | reaction => exact sameAt_setReaction folded differs _ _ _
  | edit =>
    simp only [Folded.rule]
    split
    · exact sameAt_setEdit folded differs _
    · exact unchanged
  | delete =>
    simp only [Folded.rule]
    split
    · exact sameAt_setDelete folded differs _
    · exact unchanged
  | pin => exact sameAt_setPin folded differs _
  | pollVote => exact sameAt_setVote folded differs _ _

/-- Nothing has been written about a target. -/
structure Blank (folded : Folded Attachment) (targetId : String) : Prop where
  reactions : ∀ emoji sender, folded.reaction? targetId emoji sender = none
  edits : folded.edits.get targetId = none
  deletes : folded.isDeleted targetId = false
  pins : folded.pins.get targetId = none
  votes : ∀ sender, folded.vote? targetId sender = none

theorem blank_new (targetId : String) : Blank (.new : Folded Attachment) targetId :=
  ⟨fun _ _ => rfl, rfl, rfl, rfl, fun _ => rfl⟩

theorem Blank.of_sameAt (blank : Blank before targetId) (same : SameAt before after targetId) :
    Blank after targetId where
  reactions := fun emoji sender =>
    (same.reactions emoji sender).trans (blank.reactions emoji sender)
  edits := same.edits.trans blank.edits
  deletes := same.deletes.trans blank.deletes
  pins := same.pins.trans blank.pins
  votes := fun sender => (same.votes sender).trans (blank.votes sender)

theorem Blank.reflects {folded : Folded Attachment} (blank : Blank folded targetId)
    (target : Target) : Reflects target ∅ folded targetId where
  reactions := fun emoji sender => by
    rw [blank.reactions, contributed_empty]
    exact isLatest_empty
  edits := by
    rw [blank.edits, contributed_empty]
    exact isLatest_empty
  deletes := by simp [blank.deletes]
  pins := by
    rw [blank.pins, contributed_empty]
    exact isLatest_empty
  votes := fun sender => by
    rw [blank.votes, contributed_empty]
    exact isLatest_empty

theorem Reflects.sameAt {first second : Folded Attachment}
    (distinct : Set.InjOn PendingEvent.order events)
    (reflectsFirst : Reflects target events first targetId)
    (reflectsSecond : Reflects target events second targetId) :
    SameAt first second targetId where
  reactions := fun emoji sender =>
    (reflectsSecond.reactions emoji sender).unique (injOn_contributed reactionBy_order distinct)
      (reflectsFirst.reactions emoji sender)
  edits := reflectsSecond.edits.unique (injOn_contributed editBy_order distinct) reflectsFirst.edits
  deletes := by rw [Bool.eq_iff_iff, reflectsFirst.deletes, reflectsSecond.deletes]
  pins := reflectsSecond.pins.unique (injOn_contributed pinBy_order distinct) reflectsFirst.pins
  votes := fun sender =>
    (reflectsSecond.votes sender).unique (injOn_contributed voteBy_order distinct)
      (reflectsFirst.votes sender)

end MessagingStack.Sdk.Timeline

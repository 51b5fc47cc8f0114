import MessagingStack.Sdk.TimelineRegisters
import Mathlib.Data.List.Induction

/-!
# The fold of a timeline does not depend on how it was fed

After any sequence of rows the registers of every known target reflect the verified events
on it among the rows seen, and nothing has been written about the others, whose events
wait (`Folds`).  The protocol's fold reflects the events on a target among the rows it has
passed, the target being looked up among all rows.  At its end it has passed them all, so
both folds are what the same set of rows says they are (`Reflected`), and their registers
agree.

The lists that `reactionsFor` and `pinnedTargets` return are sorted by orders, no two of
which are equal, so they agree too: `fold_eq_protocolFold`.
-/

namespace MessagingStack.Sdk.Timeline

open LastWriter

variable {Attachment : Type} {unicode : Unicode}

/-! ## What a set of rows says -/

section Rows

variable (unicode) (rows : Set (FoldInput Attachment))

def FoldInput.asTarget (row : FoldInput Attachment) : Target where
  order := row.order
  sender := unicode.toLowerCase row.senderAddress

def FoldInput.asPending (row : FoldInput Attachment) (event : MessageEvent Attachment) :
    PendingEvent Attachment where
  order := row.order
  sender := unicode.toLowerCase row.senderAddress
  event := event

def IsTarget (targetId : String) (target : Target) : Prop :=
  ∃ row ∈ rows, row.event = none ∧ row.messageId = targetId ∧ row.asTarget unicode = target

def eventsOn (targetId : String) : Set (PendingEvent Attachment) :=
  { pending | ∃ row ∈ rows, ∃ event, row.event = some event ∧ row.senderVerified = true ∧
      event.target = targetId ∧ row.asPending unicode event = pending }

/-- **A state is what the rows say**, of which some have been passed: the registers of each
target reflect the events on it that have been, and nothing is written about anything
else. -/
structure Reflected (passed : Set (FoldInput Attachment)) (folded : Folded Attachment) :
    Prop where
  settled : ∀ targetId target, IsTarget unicode rows targetId target →
    Reflects target (eventsOn unicode passed targetId) folded targetId
  blank : ∀ targetId, (∀ target, ¬ IsTarget unicode rows targetId target) → Blank folded targetId

end Rows

section Insert

variable {rows : Set (FoldInput Attachment)} {row : FoldInput Attachment}

theorem isTarget_insert_event {event : MessageEvent Attachment} (isEvent : row.event = some event)
    (targetId : String) (target : Target) :
    IsTarget unicode (insert row rows) targetId target ↔ IsTarget unicode rows targetId target := by
  constructor
  · rintro ⟨source, rfl | isOld, plain, rest⟩
    · cases isEvent ▸ plain
    · exact ⟨source, isOld, plain, rest⟩
  · rintro ⟨source, isOld, rest⟩
    exact ⟨source, .inr isOld, rest⟩

theorem isTarget_insert_plain (isPlain : row.event = none) (targetId : String)
    (target : Target) :
    IsTarget unicode (insert row rows) targetId target ↔
      row.messageId = targetId ∧ row.asTarget unicode = target ∨
        IsTarget unicode rows targetId target := by
  constructor
  · rintro ⟨source, rfl | isOld, plain, same, rfl⟩
    · exact .inl ⟨same, rfl⟩
    · exact .inr ⟨source, isOld, plain, same, rfl⟩
  · rintro (⟨same, rfl⟩ | ⟨source, isOld, rest⟩)
    · exact ⟨row, .inl rfl, isPlain, same, rfl⟩
    · exact ⟨source, .inr isOld, rest⟩

theorem eventsOn_insert_other {targetId : String}
    (other : ∀ event, row.event = some event → row.senderVerified = true →
      event.target ≠ targetId) :
    eventsOn unicode (insert row rows) targetId = eventsOn unicode rows targetId := by
  ext pending
  constructor
  · rintro ⟨source, rfl | isOld, event, isEvent, verified, same, rest⟩
    · exact absurd same (other event isEvent verified)
    · exact ⟨source, isOld, event, isEvent, verified, same, rest⟩
  · rintro ⟨source, isOld, rest⟩
    exact ⟨source, .inr isOld, rest⟩

theorem eventsOn_insert_own {event : MessageEvent Attachment} (isEvent : row.event = some event)
    (verified : row.senderVerified = true) :
    eventsOn unicode (insert row rows) event.target =
      insert (row.asPending unicode event) (eventsOn unicode rows event.target) := by
  ext pending
  constructor
  · rintro ⟨source, rfl | isOld, found, isFound, isVerified, same, rfl⟩
    · cases isEvent ▸ isFound
      exact .inl rfl
    · exact .inr ⟨source, isOld, found, isFound, isVerified, same, rfl⟩
  · rintro (rfl | ⟨source, isOld, rest⟩)
    · exact ⟨row, .inl rfl, event, isEvent, verified, rfl, rfl⟩
    · exact ⟨source, .inr isOld, rest⟩

end Insert

/-! ## The fold of the SDK -/

structure Folds (unicode : Unicode) (seen : Set (FoldInput Attachment))
    (fold : TimelineFold Attachment) : Prop where
  targets : ∀ targetId target,
    fold.targets.get targetId = some target ↔ IsTarget unicode seen targetId target
  seenEvents : ∀ messageId, messageId ∈ fold.seenEvents ↔
    ∃ row ∈ seen, row.messageId = messageId ∧ row.event.isSome = true ∧ row.senderVerified = true
  settled : ∀ targetId target, fold.targets.get targetId = some target →
    Reflects target (eventsOn unicode seen targetId) fold.folded targetId
  /-- The events on a row that has not been seen wait for it. -/
  waiting : ∀ targetId, fold.targets.get targetId = none →
    (∀ pending, pending ∈ (fold.pending.get targetId).getD [] ↔
      pending ∈ eventsOn unicode seen targetId)
  blank : ∀ targetId, fold.targets.get targetId = none → Blank fold.folded targetId

theorem folds_new : Folds unicode (∅ : Set (FoldInput Attachment)) .new where
  targets := by
    intro targetId target
    constructor
    · rintro ⟨⟩
    · rintro ⟨_, ⟨⟩, _⟩
  seenEvents := by
    intro messageId
    constructor
    · rintro ⟨⟩
    · rintro ⟨_, ⟨⟩, _⟩
  settled := by rintro targetId target ⟨⟩
  waiting := by
    intro targetId _ pending
    constructor
    · rintro ⟨⟩
    · rintro ⟨_, ⟨⟩, _⟩
  blank := fun targetId _ => blank_new targetId

theorem Folds.reflected {seen : Set (FoldInput Attachment)} {fold : TimelineFold Attachment}
    (folds : Folds unicode seen fold) : Reflected unicode seen seen fold.folded where
  settled := fun targetId target isTarget =>
    folds.settled targetId target ((folds.targets targetId target).mpr isTarget)
  blank := fun targetId noTarget => by
    refine folds.blank targetId (Option.eq_none_iff_forall_ne_some.mpr fun target known => ?_)
    exact noTarget target ((folds.targets targetId target).mp known)

/-! ### Applying to a known target -/

section Apply

variable {fold : TimelineFold Attachment} {targetId : String} {target : Target}

theorem apply_known (known : fold.targets.get targetId = some target)
    (pending : PendingEvent Attachment) :
    ∃ folded, (fold.apply targetId pending).2 = { fold with folded } ∧
      Applied target pending fold.folded folded targetId ∧
      ∀ other, other ≠ targetId → SameAt fold.folded folded other := by
  simp only [TimelineFold.apply, known]
  split
  · next early =>
    exact ⟨fold.folded, rfl, applied_of_early fold.folded early,
      fun other _ => SameAt.refl fold.folded other⟩
  · next later =>
    exact ⟨_, rfl, applied_apply fold.folded (not_le.mp later),
      fun other differs => sameAt_apply fold.folded target differs pending⟩

theorem replay_known {events : Set (PendingEvent Attachment)}
    (pendings : List (PendingEvent Attachment))
    (known : fold.targets.get targetId = some target)
    (reflects : Reflects target events fold.folded targetId) :
    ∃ folded, (fold.replay targetId pendings).2 = { fold with folded } ∧
      Reflects target (events ∪ { pending | pending ∈ pendings }) folded targetId ∧
      ∀ other, other ≠ targetId → SameAt fold.folded folded other := by
  induction pendings generalizing fold events with
  | nil =>
    refine ⟨fold.folded, rfl, ?_, fun other _ => SameAt.refl fold.folded other⟩
    simpa using reflects
  | cons pending rest ih =>
    obtain ⟨folded, applies, applied, frame⟩ := apply_known known pending
    have next : Reflects target (insert pending events) folded targetId := reflects.applied applied
    obtain ⟨last, replays, reflectsLast, frameLast⟩ := @ih { fold with folded } _ known next
    refine ⟨last, ?_, ?_, fun other differs =>
      (frame other differs).trans (frameLast other differs)⟩
    · simp only [TimelineFold.replay, applies, replays]
    convert reflectsLast using 1
    ext entry
    simp only [Set.mem_union, Set.mem_ofPred_eq, List.mem_cons, Set.mem_insert_iff]
    tauto

end Apply

/-! ### One row -/

section Ingest

variable {seen : Set (FoldInput Attachment)} {fold : TimelineFold Attachment}
  {row : FoldInput Attachment}

theorem mem_seenEvents_insert (messageId : String) :
    (∃ source ∈ insert row seen, source.messageId = messageId ∧ source.event.isSome = true ∧
        source.senderVerified = true) ↔
      (row.messageId = messageId ∧ row.event.isSome = true ∧ row.senderVerified = true) ∨
      ∃ source ∈ seen, source.messageId = messageId ∧ source.event.isSome = true ∧
        source.senderVerified = true := by
  constructor
  · rintro ⟨source, rfl | isSeen, rest⟩
    · exact .inl rest
    · exact .inr ⟨source, isSeen, rest⟩
  · rintro (rest | ⟨source, isSeen, rest⟩)
    · exact ⟨row, .inl rfl, rest⟩
    · exact ⟨source, .inr isSeen, rest⟩

theorem Folds.ingestTarget (folds : Folds unicode seen fold)
    (identified : Set.InjOn FoldInput.messageId (insert row seen)) (isPlain : row.event = none) :
    Folds unicode (insert row seen) (fold.ingestTarget unicode row).2 := by
  unfold TimelineFold.ingestTarget
  split
  · next isKnown =>
    obtain ⟨target, known⟩ := Option.isSome_iff_exists.mp isKnown
    obtain ⟨again, isSeen, -, same, -⟩ := (folds.targets _ _).mp known
    obtain rfl : again = row := identified (.inr isSeen) (.inl rfl) same
    rwa [Set.insert_eq_of_mem isSeen]
  next notKnown =>
  have unknown : fold.targets.get row.messageId = none := by simpa using notKnown
  have sameEvents : ∀ targetId,
      eventsOn unicode (insert row seen) targetId = eventsOn unicode seen targetId :=
    fun targetId => eventsOn_insert_other fun event isEvent => by cases isPlain ▸ isEvent
  -- the row is known from here on, and the events that waited are replayed
  set target : Target := row.asTarget unicode with isTarget
  set known : TimelineFold Attachment :=
    { fold with targets := fold.targets.insert row.messageId target } with isKnown
  have found : known.targets.get row.messageId = some target := by simp [isKnown]
  obtain ⟨folded, replays, reflects, frame⟩ :=
    replay_known ((fold.pending.get row.messageId).getD []) found
      ((folds.blank row.messageId unknown).reflects target)
  have allEvents : (∅ : Set (PendingEvent Attachment)) ∪
      { pending | pending ∈ (fold.pending.get row.messageId).getD [] } =
        eventsOn unicode seen row.messageId := by
    ext pending
    simpa using folds.waiting row.messageId unknown pending
  rw [allEvents] at reflects
  have after : (known.replay row.messageId ((known.pending.get row.messageId).getD [])).2 =
      { known with folded } := replays
  show Folds unicode (insert row seen)
    { (known.replay row.messageId ((known.pending.get row.messageId).getD [])).2 with
      pending := (known.replay row.messageId
        ((known.pending.get row.messageId).getD [])).2.pending.erase row.messageId }
  rw [after]
  constructor
  case targets =>
    intro targetId other
    rw [isTarget_insert_plain isPlain, ← folds.targets]
    by_cases own : targetId = row.messageId
    · subst own
      simp [isKnown, unknown, isTarget]
    · simp [isKnown, own, Ne.symm own]
  case seenEvents =>
    intro messageId
    rw [mem_seenEvents_insert, isPlain]
    simpa using folds.seenEvents messageId
  case settled =>
    intro targetId other isOther
    rw [sameEvents]
    by_cases own : targetId = row.messageId
    · subst own
      obtain rfl : target = other := by simpa [isKnown] using isOther
      exact reflects
    · refine (folds.settled targetId other ?_).of_sameAt (frame targetId own)
      simpa [isKnown, own] using isOther
  case waiting =>
    intro targetId notOther pending
    have other : targetId ≠ row.messageId := by
      rintro rfl
      simp [isKnown] at notOther
    rw [sameEvents, ← folds.waiting targetId (by simpa [isKnown, other] using notOther)]
    simp [isKnown, other]
  case blank =>
    intro targetId notOther
    have other : targetId ≠ row.messageId := by
      rintro rfl
      simp [isKnown] at notOther
    refine (folds.blank targetId ?_).of_sameAt (frame targetId other)
    simpa [isKnown, other] using notOther

variable {event : MessageEvent Attachment}

theorem Folds.insert_unverified (folds : Folds unicode seen fold) (isEvent : row.event = some event)
    (ignored : row.senderVerified = false) : Folds unicode (insert row seen) fold := by
  have sameEvents : ∀ targetId,
      eventsOn unicode (insert row seen) targetId = eventsOn unicode seen targetId :=
    fun targetId => eventsOn_insert_other fun _ _ verified => by cases ignored ▸ verified
  constructor
  case targets =>
    intro targetId target
    rw [isTarget_insert_event isEvent]
    exact folds.targets targetId target
  case seenEvents =>
    intro messageId
    rw [mem_seenEvents_insert, folds.seenEvents]
    simp [ignored]
  case settled =>
    intro targetId target known
    rw [sameEvents]
    exact folds.settled targetId target known
  case waiting =>
    intro targetId unknown
    rw [sameEvents]
    exact folds.waiting targetId unknown
  case blank => exact folds.blank

theorem eventsOn_insert_ne (isEvent : row.event = some event) {targetId : String}
    (differs : targetId ≠ event.target) :
    eventsOn unicode (insert row seen) targetId = eventsOn unicode seen targetId :=
  eventsOn_insert_other fun found isFound _ same => by
    cases isEvent ▸ isFound
    exact differs same.symm

section

variable (folds : Folds unicode seen fold)
include folds

theorem Folds.insert_known (isEvent : row.event = some event) (verified : row.senderVerified = true)
    {target : Target} (known : fold.targets.get event.target = some target) :
    Folds unicode (insert row seen)
      (({ fold with seenEvents := row.messageId :: fold.seenEvents } :
        TimelineFold Attachment).apply event.target (row.asPending unicode event)).2 := by
  have knownNow : ({ fold with seenEvents := row.messageId :: fold.seenEvents } :
      TimelineFold Attachment).targets.get event.target = some target := known
  obtain ⟨folded, applies, applied, frame⟩ := apply_known knownNow (row.asPending unicode event)
  rw [applies]
  constructor
  case targets =>
    intro targetId other
    rw [isTarget_insert_event isEvent]
    exact folds.targets targetId other
  case seenEvents =>
    intro messageId
    rw [mem_seenEvents_insert, isEvent, verified, ← folds.seenEvents]
    simp [eq_comm]
  case settled =>
    intro targetId other isOther
    by_cases own : targetId = event.target
    · subst own
      obtain rfl : target = other := Option.some.inj (known.symm.trans isOther)
      rw [eventsOn_insert_own isEvent verified]
      exact (folds.settled event.target target known).applied applied
    · rw [eventsOn_insert_ne isEvent own]
      exact (folds.settled targetId other isOther).of_sameAt (frame targetId own)
  case waiting =>
    intro targetId unknown
    have other : targetId ≠ event.target := by
      rintro rfl
      exact absurd (known.symm.trans unknown) (by simp)
    rw [eventsOn_insert_ne isEvent other]
    exact folds.waiting targetId unknown
  case blank =>
    intro targetId unknown
    have other : targetId ≠ event.target := by
      rintro rfl
      exact absurd (known.symm.trans unknown) (by simp)
    exact (folds.blank targetId unknown).of_sameAt (frame targetId other)

theorem Folds.insert_waiting (isEvent : row.event = some event)
    (verified : row.senderVerified = true) (unknown : fold.targets.get event.target = none) :
    Folds unicode (insert row seen)
      { fold with
        seenEvents := row.messageId :: fold.seenEvents
        pending := fold.pending.insert event.target
          ((fold.pending.get event.target).getD [] ++ [row.asPending unicode event]) } := by
  constructor
  case targets =>
    intro targetId other
    rw [isTarget_insert_event isEvent]
    exact folds.targets targetId other
  case seenEvents =>
    intro messageId
    rw [mem_seenEvents_insert, isEvent, verified, ← folds.seenEvents]
    simp [eq_comm]
  case settled =>
    intro targetId target known
    have other : targetId ≠ event.target := by
      rintro rfl
      exact absurd (known.symm.trans unknown) (by simp)
    rw [eventsOn_insert_ne isEvent other]
    exact folds.settled targetId target known
  case waiting =>
    intro targetId stillUnknown pending
    by_cases own : targetId = event.target
    · subst own
      rw [eventsOn_insert_own isEvent verified, Set.mem_insert_iff,
        ← folds.waiting event.target unknown pending]
      simp [or_comm]
    · rw [eventsOn_insert_ne isEvent own, ← folds.waiting targetId stillUnknown pending]
      simp [own]
  case blank => exact folds.blank

theorem Folds.ingestEvent (identified : Set.InjOn FoldInput.messageId (insert row seen))
    (isEvent : row.event = some event) :
    Folds unicode (insert row seen) (fold.ingestEvent unicode row event).2 := by
  unfold TimelineFold.ingestEvent
  by_cases verified : row.senderVerified = true
  case neg =>
    have ignored : row.senderVerified = false := by simpa using verified
    simp only [ignored, Bool.not_false, Bool.true_or, if_true]
    exact folds.insert_unverified isEvent ignored
  cases again : fold.seenEvents.contains row.messageId with
  | true =>
    simp only [verified, Bool.not_true, Bool.or_true, if_true]
    obtain ⟨source, isSeen, same, -⟩ := (folds.seenEvents _).mp (List.contains_iff_mem.mp again)
    obtain rfl : source = row := identified (.inr isSeen) (.inl rfl) same
    rwa [Set.insert_eq_of_mem isSeen]
  | false =>
    simp only [verified, Bool.not_true, Bool.or_self, Bool.false_eq_true, if_false]
    cases isKnown : fold.targets.get event.target with
    | some =>
      simp only [Option.isSome_some, if_true]
      exact folds.insert_known isEvent verified isKnown
    | none =>
      simp only [Option.isSome_none, Bool.false_eq_true, if_false]
      exact folds.insert_waiting isEvent verified isKnown

theorem Folds.ingest (identified : Set.InjOn FoldInput.messageId (insert row seen)) :
    Folds unicode (insert row seen) (fold.ingest unicode row).2 := by
  unfold TimelineFold.ingest
  cases isEvent : row.event with
  | none => exact folds.ingestTarget identified isEvent
  | some => exact folds.ingestEvent identified isEvent

end

end Ingest

/-- **A whole sequence of rows**, with repetitions: the fold has taken in their set. -/
theorem folds_ingestAll (inputs : List (FoldInput Attachment))
    (identified : Set.InjOn FoldInput.messageId { row | row ∈ inputs }) :
    Folds unicode { row | row ∈ inputs } (TimelineFold.ingestAll unicode inputs) := by
  induction inputs using List.reverseRecOn with
  | nil =>
    have none : { row | row ∈ ([] : List (FoldInput Attachment)) } = ∅ := by
      ext row
      simp
    rw [none]
    exact folds_new
  | append_singleton earlier row ih =>
    have split : { other | other ∈ earlier ++ [row] } =
        insert row { other | other ∈ earlier } := by
      ext other
      simp [or_comm]
    rw [split] at identified ⊢
    have before := ih (identified.mono (Set.subset_insert _ _))
    have last : TimelineFold.ingestAll unicode (earlier ++ [row]) =
        ((TimelineFold.ingestAll unicode earlier).ingest unicode row).2 := by
      simp [TimelineFold.ingestAll]
    rw [last]
    exact before.ingest identified

/-! ## The fold of the protocol -/

section Protocol

variable {rows : List (FoldInput Attachment)}

theorem targetOf_eq_some_iff (identified : Set.InjOn FoldInput.messageId { row | row ∈ rows })
    (targetId : String) (target : Target) :
    targetOf unicode rows targetId = some target ↔
      IsTarget unicode { row | row ∈ rows } targetId target := by
  unfold targetOf
  constructor
  · intro found
    obtain ⟨row, isFirst, rfl⟩ := Option.map_eq_some_iff.mp found
    have matching := List.find?_some isFirst
    simp only [Bool.and_eq_true, Option.isNone_iff_eq_none, beq_iff_eq] at matching
    exact ⟨row, List.mem_of_find?_eq_some isFirst, matching.1, matching.2, rfl⟩
  rintro ⟨row, isRow, plain, same, rfl⟩
  cases isFirst : rows.find? fun row => row.event.isNone && row.messageId == targetId with
  | none =>
    have missed := List.find?_eq_none.mp isFirst row isRow
    simp [plain, same] at missed
  | some first =>
    have matching := List.find?_some isFirst
    simp only [Bool.and_eq_true, Option.isNone_iff_eq_none, beq_iff_eq] at matching
    obtain rfl : first = row := identified (List.mem_of_find?_eq_some isFirst) isRow
      (matching.2.trans same.symm)
    rfl

variable {passed : Set (FoldInput Attachment)} {folded : Folded Attachment}

theorem Reflected.protocolStep {row : FoldInput Attachment}
    (identified : Set.InjOn FoldInput.messageId { row | row ∈ rows })
    (reflected : Reflected unicode { row | row ∈ rows } passed folded)
    {event : MessageEvent Attachment} (isEvent : row.event = some event)
    (verified : row.senderVerified = true) (later : ∀ earlier ∈ passed, earlier.order < row.order) :
    Reflected unicode { row | row ∈ rows } (insert row passed)
      (Timeline.protocolStep unicode rows folded row) := by
  simp only [Timeline.protocolStep, isEvent]
  cases found : targetOf unicode rows event.target with
  | none =>
    refine ⟨fun targetId target isTarget => ?_, reflected.blank⟩
    have other : targetId ≠ event.target := by
      rintro rfl
      rw [← targetOf_eq_some_iff identified, found] at isTarget
      cases isTarget
    rw [eventsOn_insert_ne isEvent other]
    exact reflected.settled targetId target isTarget
  | some target =>
    have isTarget := (targetOf_eq_some_iff identified _ _).mp found
    have reflects := reflected.settled event.target target isTarget
    dsimp only
    split
    · next counts =>
      have latest : ∀ earlier ∈ eventsOn unicode passed event.target,
          earlier.order < (row.asPending unicode event).order := by
        rintro _ ⟨source, isPassed, _, _, _, _, rfl⟩
        exact later source isPassed
      have applied : Applied target (row.asPending unicode event) folded
          (folded.rule target (unicode.toLowerCase row.senderAddress) row.order event)
          event.target := applied_rule reflects latest counts
      refine ⟨fun targetId other isOther => ?_, fun targetId noTarget => ?_⟩
      · by_cases own : targetId = event.target
        · subst own
          rw [← targetOf_eq_some_iff identified, found] at isOther
          obtain rfl : target = other := Option.some.inj isOther
          rw [eventsOn_insert_own isEvent verified]
          exact reflects.applied applied
        · rw [eventsOn_insert_ne isEvent own]
          exact (reflected.settled targetId other isOther).of_sameAt
            (sameAt_rule folded target _ _ event own)
      have other : targetId ≠ event.target := by
        rintro rfl
        exact noTarget target isTarget
      exact (reflected.blank targetId noTarget).of_sameAt
        (sameAt_rule folded target _ _ event other)
    next early =>
    refine ⟨fun targetId other isOther => ?_, reflected.blank⟩
    by_cases own : targetId = event.target
    · subst own
      rw [← targetOf_eq_some_iff identified, found] at isOther
      obtain rfl : target = other := Option.some.inj isOther
      rw [eventsOn_insert_own isEvent verified]
      exact reflects.applied (applied_of_early folded (not_lt.mp early))
    · rw [eventsOn_insert_ne isEvent own]
      exact reflected.settled targetId other isOther

theorem Reflected.foldl (identified : Set.InjOn FoldInput.messageId { row | row ∈ rows })
    (events : List (FoldInput Attachment))
    (reflected : Reflected unicode { row | row ∈ rows } passed folded)
    (areEvents : ∀ row ∈ events, row.event.isSome = true ∧ row.senderVerified = true)
    (increasing : events.Pairwise fun earlier row => earlier.order < row.order)
    (later : ∀ earlier ∈ passed, ∀ row ∈ events, earlier.order < row.order) :
    Reflected unicode { row | row ∈ rows } (passed ∪ { row | row ∈ events })
      (events.foldl (Timeline.protocolStep unicode rows) folded) := by
  induction events generalizing passed folded with
  | nil => simpa using reflected
  | cons row rest ih =>
    obtain ⟨isSome, verified⟩ := areEvents row List.mem_cons_self
    obtain ⟨event, isEvent⟩ := Option.isSome_iff_exists.mp isSome
    obtain ⟨first, increasing⟩ := List.pairwise_cons.mp increasing
    have next := reflected.protocolStep identified isEvent verified
      fun earlier isPassed => later earlier isPassed row List.mem_cons_self
    have run := ih next (fun other isRest => areEvents other (List.mem_cons_of_mem _ isRest))
      increasing (by
        rintro earlier (rfl | isPassed) other isRest
        · exact first other isRest
        · exact later earlier isPassed other (List.mem_cons_of_mem _ isRest))
    rw [List.foldl_cons]
    convert run using 1
    ext other
    simp only [Set.mem_union, Set.mem_ofPred_eq, List.mem_cons, Set.mem_insert_iff]
    tauto

theorem mem_verifiedEvents (row : FoldInput Attachment) :
    row ∈ verifiedEvents rows ↔
      row ∈ rows ∧ row.event.isSome = true ∧ row.senderVerified = true := by
  simp [verifiedEvents, List.mem_insertionSort]

theorem verifiedEvents_increasing (distinct : (rows.map FoldInput.order).Nodup) :
    (verifiedEvents rows).Pairwise fun earlier row => earlier.order < row.order := by
  have total : Std.Total fun left right : FoldInput Attachment => left.order ≤ right.order :=
    ⟨fun left right => le_total left.order right.order⟩
  have transitive : IsTrans (FoldInput Attachment) fun left right => left.order ≤ right.order :=
    ⟨fun _ _ _ => le_trans⟩
  set events := rows.filter fun row => row.event.isSome && row.senderVerified
  have sorted : (verifiedEvents rows).Pairwise fun earlier row => earlier.order ≤ row.order :=
    List.pairwise_insertionSort _ events
  have eventsDistinct : (events.map FoldInput.order).Nodup :=
    distinct.sublist (List.filter_sublist.map _)
  have sortedDistinct : ((verifiedEvents rows).map FoldInput.order).Nodup :=
    ((List.perm_insertionSort _ events).map FoldInput.order).nodup_iff.mpr eventsDistinct
  have differ : (verifiedEvents rows).Pairwise fun earlier row => earlier.order ≠ row.order :=
    List.pairwise_map.mp sortedDistinct
  exact (sorted.and differ).imp fun both => lt_of_le_of_ne both.1 both.2

/-- Before any event nothing is written. -/
theorem reflected_new (unicode : Unicode) (rows : Set (FoldInput Attachment)) :
    Reflected unicode rows ∅ (.new : Folded Attachment) where
  settled := by
    intro targetId target _
    have none : eventsOn unicode (∅ : Set (FoldInput Attachment)) targetId = ∅ := by
      ext pending
      constructor
      · rintro ⟨_, ⟨⟩, _⟩
      · rintro ⟨⟩
    rw [none]
    exact (blank_new targetId).reflects target
  blank := fun targetId _ => blank_new targetId

theorem reflected_protocolFold (identified : Set.InjOn FoldInput.messageId { row | row ∈ rows })
    (distinct : (rows.map FoldInput.order).Nodup) :
    Reflected unicode { row | row ∈ rows } { row | row ∈ rows } (protocolFold unicode rows) := by
  have run := (reflected_new unicode { row | row ∈ rows }).foldl identified
    (verifiedEvents rows) (fun row isEvent => ((mem_verifiedEvents row).mp isEvent).2)
    (verifiedEvents_increasing distinct) (by rintro _ ⟨⟩)
  refine ⟨fun targetId target isTarget => ?_, run.blank⟩
  -- rows that are not verified events say nothing
  have sameEvents : eventsOn unicode (∅ ∪ { row | row ∈ verifiedEvents rows }) targetId =
      eventsOn unicode { row | row ∈ rows } targetId := by
    ext pending
    constructor
    · rintro ⟨row, ⟨⟨⟩⟩ | isVerified, rest⟩
      exact ⟨row, ((mem_verifiedEvents row).mp isVerified).1, rest⟩
    · rintro ⟨row, isRow, event, isEvent, verified, rest⟩
      exact ⟨row, .inr ((mem_verifiedEvents row).mpr ⟨isRow, by simp [isEvent], verified⟩),
        event, isEvent, verified, rest⟩
  have reflects := run.settled targetId target isTarget
  rwa [sameEvents] at reflects

end Protocol

/-! ## Reading -/

section Reading

variable {rows : Set (FoldInput Attachment)} {first second folded : Folded Attachment}

theorem Reflected.sameAt (distinct : Set.InjOn FoldInput.order rows)
    (isFirst : Reflected unicode rows rows first)
    (isSecond : Reflected unicode rows rows second) (targetId : String) :
    SameAt first second targetId := by
  by_cases isTarget : ∃ target, IsTarget unicode rows targetId target
  · obtain ⟨target, isTarget⟩ := isTarget
    have distinctEvents : Set.InjOn PendingEvent.order (eventsOn unicode rows targetId) := by
      rintro _ ⟨row, isRow, event, isEvent, -, -, rfl⟩ _ ⟨other, isOther, found, isFound, -, -, rfl⟩
        same
      obtain rfl : row = other := distinct isRow isOther same
      cases isEvent ▸ isFound
      rfl
    exact (isFirst.settled targetId target isTarget).sameAt distinctEvents
      (isSecond.settled targetId target isTarget)
  have noTarget : ∀ target, ¬ IsTarget unicode rows targetId target :=
    fun target found => isTarget ⟨target, found⟩
  have blankFirst := isFirst.blank targetId noTarget
  have blankSecond := isSecond.blank targetId noTarget
  exact ⟨fun emoji sender => by rw [blankFirst.reactions, blankSecond.reactions],
    by rw [blankFirst.edits, blankSecond.edits],
    by rw [blankFirst.deletes, blankSecond.deletes],
    by rw [blankFirst.pins, blankSecond.pins],
    fun sender => by rw [blankFirst.votes, blankSecond.votes]⟩

theorem Reflected.reaction_row (reflected : Reflected unicode rows rows folded)
    {targetId emoji sender : String} {reaction : Reaction}
    (held : folded.reaction? targetId emoji sender = some reaction) :
    ∃ row ∈ rows, row.order = reaction.order ∧ unicode.toLowerCase row.senderAddress = sender ∧
      ∃ add, row.event = some (.reaction targetId emoji add) := by
  by_cases isTarget : ∃ target, IsTarget unicode rows targetId target
  · obtain ⟨target, isTarget⟩ := isTarget
    obtain ⟨pending, ⟨row, isRow, event, isEvent, -, same, rfl⟩, makes⟩ :=
      ((reflected.settled targetId target isTarget).reactions emoji sender).written reaction held
    cases event with
    | reaction subject which add =>
      obtain rfl : subject = targetId := same
      obtain ⟨⟨-, rfl, rfl⟩, made⟩ := Option.ite_none_right_eq_some.mp makes
      cases made
      exact ⟨row, isRow, rfl, rfl, add, isEvent⟩
    | _ => cases makes
  · have blank := reflected.blank targetId fun target found => isTarget ⟨target, found⟩
    rw [blank.reactions] at held
    cases held

theorem Reflected.pin_row (reflected : Reflected unicode rows rows folded)
    {targetId : String} {pin : Pin} (held : folded.pins.get targetId = some pin) :
    ∃ row ∈ rows, row.order = pin.order ∧ ∃ pinned, row.event = some (.pin targetId pinned) := by
  by_cases isTarget : ∃ target, IsTarget unicode rows targetId target
  · obtain ⟨target, isTarget⟩ := isTarget
    obtain ⟨pending, ⟨row, isRow, event, isEvent, -, same, rfl⟩, makes⟩ :=
      (reflected.settled targetId target isTarget).pins.written pin held
    cases event with
    | pin subject pinned =>
      obtain rfl : subject = targetId := same
      obtain ⟨-, made⟩ := Option.ite_none_right_eq_some.mp makes
      cases made
      exact ⟨row, isRow, rfl, pinned, isEvent⟩
    | _ => cases makes
  · have blank := reflected.blank targetId fun target found => isTarget ⟨target, found⟩
    cases blank.pins ▸ held

/-! ### Pins -/

theorem pinnedTargets_congr (distinct : Set.InjOn FoldInput.order rows)
    (isFirst : Reflected unicode rows rows first)
    (isSecond : Reflected unicode rows rows second) :
    first.pinnedTargets = second.pinnedTargets := by
  unfold Folded.pinnedTargets
  congr 1
  refine insertionSort_congr (fun entry : String × Pin => entry.2.order)
    (first.pins.nodup.of_map _ |>.filter _) (second.pins.nodup.of_map _ |>.filter _) ?_ ?_
  · intro entry
    rw [List.mem_filter, List.mem_filter, OrderedMap.mem_entries_iff, OrderedMap.mem_entries_iff,
      (Reflected.sameAt distinct isFirst isSecond entry.1).pins]
  rintro ⟨targetId, pin⟩ isPin ⟨otherId, other⟩ isOther same
  rw [List.mem_filter, OrderedMap.mem_entries_iff] at isPin isOther
  obtain ⟨row, isRow, rowOrder, _, rowEvent⟩ := isFirst.pin_row isPin.1
  obtain ⟨otherRow, isOtherRow, otherOrder, _, otherEvent⟩ := isFirst.pin_row isOther.1
  obtain rfl : row = otherRow :=
    distinct isRow isOtherRow (rowOrder.trans (same.trans otherOrder.symm))
  cases rowEvent ▸ otherEvent
  have samePin : pin = other := Option.some.inj (isPin.1.symm.trans isOther.1)
  rw [samePin]

/-! ### Reactions -/

def Folded.bySender (folded : Folded Attachment) (targetId emoji : String) :
    OrderedMap String Reaction :=
  ((folded.reactions.get targetId).bind (·.get emoji)).getD ∅

theorem get_bySender (folded : Folded Attachment) (targetId emoji sender : String) :
    (folded.bySender targetId emoji).get sender = folded.reaction? targetId emoji sender := by
  unfold Folded.bySender Folded.reaction?
  cases (folded.reactions.get targetId).bind (·.get emoji) with
  | none | some => rfl

def Folded.tallies (folded : Folded Attachment) (targetId : String) : List Folded.Counted :=
  ((folded.reactions.get targetId).getD ∅).entries.filterMap
    fun entry => Folded.counted entry.1 entry.2

theorem reactionsFor_eq (folded : Folded Attachment) (targetId : String) :
    folded.reactionsFor targetId =
      ((folded.tallies targetId).insertionSort fun left right => left.first ≤ right.first).map
        fun tally => { emoji := tally.emoji, members := tally.members } := by
  unfold Folded.reactionsFor Folded.tallies
  cases folded.reactions.get targetId with
  | none | some => rfl

theorem counted_some {emoji : String} {bySender : OrderedMap String Reaction}
    {tally : Folded.Counted} (isCounted : Folded.counted emoji bySender = some tally) :
    tally.emoji = emoji ∧ ∃ sender reaction, bySender.get sender = some reaction ∧
      reaction.order = tally.first := by
  unfold Folded.counted at isCounted
  cases isAdders : Folded.adders bySender with
  | nil => cases isAdders ▸ isCounted
  | cons first =>
    cases isAdders ▸ isCounted
    refine ⟨rfl, first.1, first.2, bySender.get_of_mem_entries ?_, rfl⟩
    have isAdder : first ∈ Folded.adders bySender := by simp [isAdders]
    rw [Folded.adders, List.mem_insertionSort] at isAdder
    exact (List.mem_filter.mp isAdder).1

theorem mem_tallies (folded : Folded Attachment) (targetId : String) (tally : Folded.Counted) :
    tally ∈ folded.tallies targetId ↔
      Folded.counted tally.emoji (folded.bySender targetId tally.emoji) = some tally := by
  unfold Folded.tallies
  rw [List.mem_filterMap]
  constructor
  · rintro ⟨⟨emoji, bySender⟩, isEntry, isCounted⟩
    obtain ⟨rfl, -⟩ := counted_some isCounted
    rw [OrderedMap.mem_entries_iff] at isEntry
    have same : folded.bySender targetId tally.emoji = bySender := by
      unfold Folded.bySender
      cases known : folded.reactions.get targetId with
      | none => cases known ▸ isEntry
      | some =>
        rw [known] at isEntry
        simp only [Option.getD_some] at isEntry
        simp [isEntry]
    rwa [same]
  intro isCounted
  unfold Folded.bySender at isCounted
  cases known : folded.reactions.get targetId with
  | none => cases known ▸ isCounted
  | some byEmoji =>
    rw [known] at isCounted
    simp only [Option.bind_some] at isCounted
    cases found : byEmoji.get tally.emoji with
    | none => cases found ▸ isCounted
    | some bySender =>
      rw [found] at isCounted
      exact ⟨(tally.emoji, bySender), byEmoji.mem_entries_of_get found, isCounted⟩

theorem nodup_tallies (folded : Folded Attachment) (targetId : String) :
    (folded.tallies targetId).Nodup := by
  unfold Folded.tallies
  set byEmoji := (folded.reactions.get targetId).getD ∅
  have sublist : ∀ entries : List (String × OrderedMap String Reaction),
      ((entries.filterMap fun entry => Folded.counted entry.1 entry.2).map
        Folded.Counted.emoji).Sublist (entries.map Prod.fst) := by
    intro entries
    induction entries with
    | nil => exact List.Sublist.refl _
    | cons entry rest ih =>
      cases isCounted : Folded.counted entry.1 entry.2 with
      | none =>
        simp only [List.filterMap_cons, isCounted, List.map_cons]
        exact ih.cons _
      | some =>
        simp only [List.filterMap_cons, isCounted, List.map_cons, (counted_some isCounted).1]
        exact ih.cons_cons _
  exact (byEmoji.nodup.sublist (sublist byEmoji.entries)).of_map _

theorem reactionsFor_congr (distinct : Set.InjOn FoldInput.order rows)
    (isFirst : Reflected unicode rows rows first)
    (isSecond : Reflected unicode rows rows second) (targetId : String) :
    first.reactionsFor targetId = second.reactionsFor targetId := by
  -- two reactions of one order are one reaction
  have unique : ∀ {emoji other sender member reaction found},
      first.reaction? targetId emoji sender = some reaction →
      first.reaction? targetId other member = some found →
      reaction.order = found.order → emoji = other ∧ sender = member := by
    intro emoji other sender member reaction found isReaction isFound same
    obtain ⟨row, isRow, rowOrder, rowSender, _, rowEvent⟩ := isFirst.reaction_row isReaction
    obtain ⟨next, isNext, nextOrder, nextSender, _, nextEvent⟩ := isFirst.reaction_row isFound
    obtain rfl : row = next := distinct isRow isNext (rowOrder.trans (same.trans nextOrder.symm))
    cases rowEvent ▸ nextEvent
    exact ⟨rfl, rowSender.symm.trans nextSender⟩
  have sameReactions := (Reflected.sameAt distinct isFirst isSecond targetId).reactions
  have sameCounted : ∀ emoji, Folded.counted emoji (first.bySender targetId emoji) =
      Folded.counted emoji (second.bySender targetId emoji) := by
    intro emoji
    have sameAdders : Folded.adders (first.bySender targetId emoji) =
        Folded.adders (second.bySender targetId emoji) := by
      unfold Folded.adders
      refine insertionSort_congr (fun entry : String × Reaction => entry.2.order)
        ((first.bySender targetId emoji).nodup.of_map _ |>.filter _)
        ((second.bySender targetId emoji).nodup.of_map _ |>.filter _) ?_ ?_
      · intro entry
        rw [List.mem_filter, List.mem_filter, OrderedMap.mem_entries_iff,
          OrderedMap.mem_entries_iff, get_bySender,
          get_bySender, sameReactions]
      rintro ⟨sender, reaction⟩ isReaction ⟨member, found⟩ isFound same
      rw [List.mem_filter, OrderedMap.mem_entries_iff, get_bySender] at isReaction isFound
      obtain ⟨-, rfl⟩ := unique isReaction.1 isFound.1 same
      have sameReaction : reaction = found := Option.some.inj (isReaction.1.symm.trans isFound.1)
      rw [sameReaction]
    unfold Folded.counted
    rw [sameAdders]
  rw [reactionsFor_eq, reactionsFor_eq]
  congr 1
  refine insertionSort_congr Folded.Counted.first (nodup_tallies first targetId)
    (nodup_tallies second targetId) ?_ ?_
  · intro tally
    rw [mem_tallies, mem_tallies, sameCounted]
  intro tally isTally other isOther same
  rw [mem_tallies] at isTally isOther
  obtain ⟨-, sender, reaction, held, order⟩ := counted_some isTally
  obtain ⟨-, member, found, isHeld, otherOrder⟩ := counted_some isOther
  rw [get_bySender] at held isHeld
  obtain ⟨sameEmoji, -⟩ := unique held isHeld (order.trans (same.trans otherOrder.symm))
  rw [sameEmoji] at isTally
  exact Option.some.inj (isTally.symm.trans isOther)

end Reading

/-! ## The fold of a set of rows -/

/-- **Two states read the same.**  A map of votes is compared by what it holds for each
member. -/
structure SameViews (unicode : Unicode) (first second : Folded Attachment) : Prop where
  reactionsFor : ∀ targetId, first.reactionsFor targetId = second.reactionsFor targetId
  hasReacted : ∀ targetId emoji member,
    first.hasReacted unicode targetId emoji member = second.hasReacted unicode targetId emoji member
  editFor : ∀ targetId, first.editFor targetId = second.editFor targetId
  isDeleted : ∀ targetId, first.isDeleted targetId = second.isDeleted targetId
  pinnedTargets : first.pinnedTargets = second.pinnedTargets
  votesFor : ∀ targetId member,
    (first.votesFor targetId).get member = (second.votesFor targetId).get member

theorem get_votesFor (folded : Folded Attachment) (targetId member : String) :
    (folded.votesFor targetId).get member = (folded.vote? targetId member).map (·.options) := by
  unfold Folded.votesFor Folded.vote?
  cases folded.votes.get targetId with
  | none => rfl
  | some bySender => exact OrderedMap.get_mapValues bySender _ member

theorem Reflected.sameViews {rows : Set (FoldInput Attachment)} {first second : Folded Attachment}
    (distinct : Set.InjOn FoldInput.order rows) (isFirst : Reflected unicode rows rows first)
    (isSecond : Reflected unicode rows rows second) : SameViews unicode first second where
  reactionsFor := reactionsFor_congr distinct isFirst isSecond
  hasReacted := fun targetId emoji member => by
    unfold Folded.hasReacted
    rw [(Reflected.sameAt distinct isFirst isSecond targetId).reactions]
  editFor := fun targetId => ((Reflected.sameAt distinct isFirst isSecond targetId).edits).symm
  isDeleted := fun targetId => ((Reflected.sameAt distinct isFirst isSecond targetId).deletes).symm
  pinnedTargets := pinnedTargets_congr distinct isFirst isSecond
  votesFor := fun targetId member => by
    rw [get_votesFor, get_votesFor, (Reflected.sameAt distinct isFirst isSecond targetId).votes]

theorem reflected_ingestAll (unicode : Unicode) {rows inputs : List (FoldInput Attachment)}
    (identified : Set.InjOn FoldInput.messageId { row | row ∈ rows })
    (contains : ∀ row, row ∈ inputs ↔ row ∈ rows) :
    Reflected unicode { row | row ∈ rows } { row | row ∈ rows }
      (TimelineFold.ingestAll unicode inputs).folded := by
  have same : { row | row ∈ inputs } = { row | row ∈ rows } := Set.ext contains
  have folds : Folds unicode { row | row ∈ inputs } (TimelineFold.ingestAll unicode inputs) :=
    folds_ingestAll inputs (by rw [same]; exact identified)
  rw [same] at folds
  exact folds.reflected

/-- **The fold depends on the set of rows only, and is the protocol's.**  Rows are given
with distinct ids and orders; any two sequences that contain exactly these rows, in any
order and each as often as one likes, fold to states that read the same, and that read the
same as the protocol's fold of the rows. -/
theorem fold_eq_protocolFold (unicode : Unicode) (rows first second : List (FoldInput Attachment))
    (distinctIds : (rows.map FoldInput.messageId).Nodup)
    (distinctOrders : (rows.map FoldInput.order).Nodup)
    (containsFirst : ∀ row, row ∈ first ↔ row ∈ rows)
    (containsSecond : ∀ row, row ∈ second ↔ row ∈ rows) :
    SameViews unicode (TimelineFold.ingestAll unicode first).folded
        (TimelineFold.ingestAll unicode second).folded ∧
      SameViews unicode (TimelineFold.ingestAll unicode first).folded
        (protocolFold unicode rows) := by
  have identified : Set.InjOn FoldInput.messageId { row | row ∈ rows } :=
    fun row isRow other isOther => List.inj_on_of_nodup_map distinctIds isRow isOther
  have ordered : Set.InjOn FoldInput.order { row | row ∈ rows } :=
    fun row isRow other isOther => List.inj_on_of_nodup_map distinctOrders isRow isOther
  have isFirst := reflected_ingestAll unicode identified containsFirst
  exact ⟨isFirst.sameViews ordered (reflected_ingestAll unicode identified containsSecond),
    isFirst.sameViews ordered (reflected_protocolFold identified distinctOrders)⟩

/-- The string functions on text that is lowercase and normalized already. -/
def plainText : Unicode where
  toLowerCase := id
  normalizeNfc := id

/-- A message, a reaction to it, an edit by its sender and a later one by somebody else. -/
def sampleRows : List (FoldInput Unit) :=
  [ ⟨"m1", 1, "0xa", true, none⟩,
    ⟨"e1", 2, "0xb", true, some (.reaction "m1" "+1" true)⟩,
    ⟨"e2", 3, "0xa", true, some (.edit "m1" "hello" none)⟩,
    ⟨"e3", 4, "0xb", true, some (.edit "m1" "forged" none)⟩ ]

/-- Fed backwards and twice over, the sample rows read as the protocol's fold does: the
foreign edit does not count. -/
theorem fold_sampleRows :
    (SameViews plainText
        (TimelineFold.ingestAll plainText (sampleRows.reverse ++ sampleRows)).folded
        (TimelineFold.ingestAll plainText sampleRows).folded ∧
      SameViews plainText
        (TimelineFold.ingestAll plainText (sampleRows.reverse ++ sampleRows)).folded
        (protocolFold plainText sampleRows)) ∧
      (protocolFold plainText sampleRows).editFor "m1" = some ⟨"hello", none, 3⟩ := by
  refine ⟨fold_eq_protocolFold plainText sampleRows _ _ (by decide) (by decide) ?_ ?_, by decide⟩
  · intro row
    simp
  · intro row
    exact Iff.rfl

end MessagingStack.Sdk.Timeline

import MessagingStack.Base.OrderedMap
import Mathlib.Data.List.Sort

/-!
# Folding the events of a timeline

`content/timeline-fold.ts`: reactions, edits, deletions, pins and poll votes arrive as
event rows that name the row they are about, and a `TimelineFold` keeps the state they
add up to.  Rows are ingested in whatever order and as often as they come; an event whose
target has not been seen waits for it.
-/

namespace MessagingStack.Sdk.Timeline

/-! ## Rows and events -/

/-- `String.prototype.toLowerCase` and `String.prototype.normalize('NFC')`. -/
structure Unicode where
  toLowerCase : String → String
  normalizeNfc : String → String

variable {Attachment : Type}

inductive MessageEvent (Attachment : Type) where
  | reaction (target emoji : String) (add : Bool)
  | edit (target text : String) (att : Option (List Attachment))
  | delete (target : String)
  | pin (target : String) (pinned : Bool)
  | pollVote (target : String) (options : List Int)
  deriving DecidableEq

def MessageEvent.target : MessageEvent Attachment → String
  | .reaction target .. => target
  | .edit target .. => target
  | .delete target => target
  | .pin target _ => target
  | .pollVote target _ => target

/-- One timeline row as the fold sees it. -/
structure FoldInput (Attachment : Type) where
  messageId : String
  order : Int
  senderAddress : String
  /-- Only rows whose sender signature verified may affect state. -/
  senderVerified : Bool
  event : Option (MessageEvent Attachment)
  deriving DecidableEq

structure ReactionTally where
  emoji : String
  /-- Lowercased member addresses, in first-reacted order. -/
  members : List String
  deriving DecidableEq

structure FoldedEdit (Attachment : Type) where
  text : String
  att : Option (List Attachment)
  order : Int
  deriving DecidableEq

structure Target where
  order : Int
  sender : String
  deriving DecidableEq

structure PendingEvent (Attachment : Type) where
  order : Int
  sender : String
  event : MessageEvent Attachment
  deriving DecidableEq

/-- The latest `add` of a member for an emoji. -/
structure Reaction where
  add : Bool
  order : Int
  deriving DecidableEq

structure Pin where
  pinned : Bool
  order : Int
  deriving DecidableEq

structure Vote where
  options : List Int
  order : Int
  deriving DecidableEq

/-! ## The folded state -/

/-- What events add up to, by target. -/
structure Folded (Attachment : Type) where
  /-- target → emoji → sender → latest -/
  reactions : OrderedMap String (OrderedMap String (OrderedMap String Reaction))
  edits : OrderedMap String (FoldedEdit Attachment)
  deletes : OrderedMap String Int
  pins : OrderedMap String Pin
  votes : OrderedMap String (OrderedMap String Vote)

namespace Folded

def new : Folded Attachment where
  reactions := ∅
  edits := ∅
  deletes := ∅
  pins := ∅
  votes := ∅

def reaction? (folded : Folded Attachment) (targetId emoji sender : String) : Option Reaction :=
  ((folded.reactions.get targetId).bind (·.get emoji)).bind (·.get sender)

def vote? (folded : Folded Attachment) (targetId sender : String) : Option Vote :=
  (folded.votes.get targetId).bind (·.get sender)

def setReaction (folded : Folded Attachment) (targetId emoji sender : String)
    (reaction : Reaction) : Folded Attachment :=
  let byEmoji := (folded.reactions.get targetId).getD ∅
  let bySender := (byEmoji.get emoji).getD ∅
  { folded with
    reactions := folded.reactions.insert targetId
      (byEmoji.insert emoji (bySender.insert sender reaction)) }

def setVote (folded : Folded Attachment) (targetId sender : String) (vote : Vote) :
    Folded Attachment :=
  let bySender := (folded.votes.get targetId).getD ∅
  { folded with votes := folded.votes.insert targetId (bySender.insert sender vote) }

/-! ### Reading -/

/-- The members of an emoji that have it, by the order of their reaction. -/
def adders (bySender : OrderedMap String Reaction) : List (String × Reaction) :=
  (bySender.entries.filter fun entry => entry.2.add).insertionSort
    fun left right => left.2.order ≤ right.2.order

/-- A tally with the order of its first reaction. -/
structure Counted where
  emoji : String
  members : List String
  first : Int
  deriving DecidableEq

/-- The tally of an emoji, unless nobody has it. -/
def counted (emoji : String) (bySender : OrderedMap String Reaction) : Option Counted :=
  match adders bySender with
  | [] => none
  | first :: rest => some { emoji, members := (first :: rest).map Prod.fst, first := first.2.order }

/-- Current reactions on `targetId`, emoji groups ordered by first reaction. -/
def reactionsFor (folded : Folded Attachment) (targetId : String) : List ReactionTally :=
  match folded.reactions.get targetId with
  | none => []
  | some byEmoji =>
    ((byEmoji.entries.filterMap fun entry => counted entry.1 entry.2).insertionSort
      fun left right => left.first ≤ right.first).map
        fun tally => { emoji := tally.emoji, members := tally.members }

/-- Whether `member` currently has `emoji` on `targetId`. -/
def hasReacted (unicode : Unicode) (folded : Folded Attachment)
    (targetId emoji member : String) : Bool :=
  match folded.reaction? targetId (unicode.normalizeNfc emoji) (unicode.toLowerCase member) with
  | some reaction => reaction.add
  | none => false

def editFor (folded : Folded Attachment) (targetId : String) :
    Option (FoldedEdit Attachment) :=
  folded.edits.get targetId

def isDeleted (folded : Folded Attachment) (targetId : String) : Bool :=
  (folded.deletes.get targetId).isSome

def pinnedTargets (folded : Folded Attachment) : List String :=
  ((folded.pins.entries.filter fun entry => entry.2.pinned).insertionSort
    fun left right => left.2.order ≤ right.2.order).map Prod.fst

/-- Latest vote per member on a poll message. -/
def votesFor (folded : Folded Attachment) (targetId : String) : OrderedMap String (List Int) :=
  ((folded.votes.get targetId).getD ∅).mapValues (·.options)

/-! ### Applying an event -/

/-- `#apply` once the event is known to be later than its target; says whether the state of
the target changed. -/
def apply (folded : Folded Attachment) (target : Target) (targetId : String)
    (pending : PendingEvent Attachment) : Bool × Folded Attachment :=
  match pending.event with
  | .reaction _ emoji add =>
    let prev := folded.reaction? targetId emoji pending.sender
    if prev.any (pending.order ≤ ·.order) then (false, folded)
    else
      (prev.all (·.add != add),
        folded.setReaction targetId emoji pending.sender { add, order := pending.order })
  | .edit _ text att =>
    if pending.sender ≠ target.sender then (false, folded)
    else if (folded.edits.get targetId).any (pending.order ≤ ·.order) then (false, folded)
    else
      (true,
        { folded with
          edits := folded.edits.insert targetId { text, att, order := pending.order } })
  | .delete _ =>
    if pending.sender ≠ target.sender ∨ (folded.deletes.get targetId).isSome then (false, folded)
    else (true, { folded with deletes := folded.deletes.insert targetId pending.order })
  | .pin _ pinned =>
    let prev := folded.pins.get targetId
    if prev.any (pending.order ≤ ·.order) then (false, folded)
    else
      (prev.all (·.pinned != pinned),
        { folded with pins := folded.pins.insert targetId { pinned, order := pending.order } })
  | .pollVote _ options =>
    if (folded.vote? targetId pending.sender).any (pending.order ≤ ·.order) then (false, folded)
    else (true, folded.setVote targetId pending.sender { options, order := pending.order })

end Folded

/-! ## The fold of the SDK -/

structure TimelineFold (Attachment : Type) where
  targets : OrderedMap String Target
  seenEvents : List String
  pending : OrderedMap String (List (PendingEvent Attachment))
  folded : Folded Attachment

namespace TimelineFold

def new : TimelineFold Attachment where
  targets := ∅
  seenEvents := []
  pending := ∅
  folded := .new

def apply (self : TimelineFold Attachment) (targetId : String)
    (pending : PendingEvent Attachment) : Bool × TimelineFold Attachment :=
  match self.targets.get targetId with
  | none => (false, self)
  | some target =>
    if pending.order ≤ target.order then (false, self)
    else
      let (changed, folded) := self.folded.apply target targetId pending
      (changed, { self with folded })

/-- The loop over the events that waited for a target. -/
def replay (self : TimelineFold Attachment) (targetId : String) :
    List (PendingEvent Attachment) → Bool × TimelineFold Attachment
  | [] => (false, self)
  | pending :: rest =>
    let (changed, self) := self.apply targetId pending
    let (later, self) := self.replay targetId rest
    (changed || later, self)

/-- The set of target ids whose folded state changed. -/
def changedTargets (targetId : String) (changed : Bool) : List String :=
  if changed then [targetId] else []

/-- Ingest a row that is not an event: the events that waited for it are applied. -/
def ingestTarget (unicode : Unicode) (self : TimelineFold Attachment)
    (input : FoldInput Attachment) : List String × TimelineFold Attachment :=
  if (self.targets.get input.messageId).isSome then ([], self)
  else
    let target : Target :=
      { order := input.order, sender := unicode.toLowerCase input.senderAddress }
    let known := { self with targets := self.targets.insert input.messageId target }
    let (changed, after) :=
      known.replay input.messageId ((known.pending.get input.messageId).getD [])
    (changedTargets input.messageId changed,
      { after with pending := after.pending.erase input.messageId })

def ingestEvent (unicode : Unicode) (self : TimelineFold Attachment)
    (input : FoldInput Attachment) (event : MessageEvent Attachment) :
    List String × TimelineFold Attachment :=
  if !input.senderVerified || self.seenEvents.contains input.messageId then ([], self)
  else
    let pending : PendingEvent Attachment :=
      { order := input.order, sender := unicode.toLowerCase input.senderAddress, event }
    let self := { self with seenEvents := input.messageId :: self.seenEvents }
    if (self.targets.get event.target).isSome then
      let (changed, self) := self.apply event.target pending
      (changedTargets event.target changed, self)
    else
      ([],
        { self with
          pending := self.pending.insert event.target
            ((self.pending.get event.target).getD [] ++ [pending]) })

/-- `ingest`: returns the target ids whose folded state changed. -/
def ingest (unicode : Unicode) (self : TimelineFold Attachment)
    (input : FoldInput Attachment) : List String × TimelineFold Attachment :=
  match input.event with
  | none => self.ingestTarget unicode input
  | some event => self.ingestEvent unicode input event

/-- The fold after a sequence of rows. -/
def ingestAll (unicode : Unicode) (inputs : List (FoldInput Attachment)) :
    TimelineFold Attachment :=
  inputs.foldl (fun self input => (self.ingest unicode input).2) new

end TimelineFold

/-! ## The fold of the protocol -/

/-- The row an event is about. -/
def targetOf (unicode : Unicode) (rows : List (FoldInput Attachment)) (targetId : String) :
    Option Target :=
  (rows.find? fun row => row.event.isNone && row.messageId == targetId).map fun row =>
    { order := row.order, sender := unicode.toLowerCase row.senderAddress }

/-- The folding rules: what an event that is later than its target does to the state. -/
def Folded.rule (folded : Folded Attachment) (target : Target) (sender : String) (order : Int) :
    MessageEvent Attachment → Folded Attachment
  | .reaction targetId emoji add => folded.setReaction targetId emoji sender { add, order }
  | .edit targetId text att =>
    if sender = target.sender then
      { folded with edits := folded.edits.insert targetId { text, att, order } }
    else folded
  | .delete targetId =>
    if sender = target.sender then { folded with deletes := folded.deletes.insert targetId order }
    else folded
  | .pin targetId pinned => { folded with pins := folded.pins.insert targetId { pinned, order } }
  | .pollVote targetId options => folded.setVote targetId sender { options, order }

/-- One row of the protocol's fold; an event is ignored unless its order is greater than its
target's. -/
def protocolStep (unicode : Unicode) (rows : List (FoldInput Attachment))
    (folded : Folded Attachment) (row : FoldInput Attachment) : Folded Attachment :=
  match row.event with
  | none => folded
  | some event =>
    match targetOf unicode rows event.target with
    | none => folded
    | some target =>
      if target.order < row.order then
        folded.rule target (unicode.toLowerCase row.senderAddress) row.order event
      else folded

def verifiedEvents (rows : List (FoldInput Attachment)) : List (FoldInput Attachment) :=
  (rows.filter fun row => row.event.isSome && row.senderVerified).insertionSort
    fun left right => left.order ≤ right.order

def protocolFold (unicode : Unicode) (rows : List (FoldInput Attachment)) :
    Folded Attachment :=
  (verifiedEvents rows).foldl (protocolStep unicode rows) .new

end MessagingStack.Sdk.Timeline

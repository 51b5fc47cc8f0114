import Mathlib.Data.List.Sort
import MessagingStack.Base.Text

/-!
# MLS groups

An ideal model of one member's view of an MLS group, as the OpenMLS library keeps it, generic in
the identities `ι` of leaves and the plaintexts `π`.  A message names the epoch it was made in by
number *and* by transcript, and only a group with the secrets of exactly that epoch opens it, each
message key once.  A commit applies updates, removals and additions in this order; **an index that
was freed is used again**.  The secrets of the last five epochs are kept.
-/

namespace MessagingStack.Mls

abbrev GroupId := String

abbrev SignatureKey := Bytes

/-- The commits that led to an epoch, newest first. -/
abbrev Transcript := List Nat

/-- An epoch of a group: its number and its history. -/
structure EpochId where
  number : Nat
  transcript : Transcript
  deriving DecidableEq

/-- A leaf of the ratchet tree. -/
structure Leaf (ι : Type) where
  leafIndex : Nat
  signatureKey : SignatureKey
  identity : ι
  deriving DecidableEq

/-- A proposed change of the tree. -/
inductive Proposal (ι : Type) where
  | add (signatureKey : SignatureKey) (identity : ι)
  | remove (leafIndex : Nat)
  | update (leafIndex : Nat) (signatureKey : SignatureKey) (identity : ι)
  deriving DecidableEq

/-- A commit with its proposals resolved. -/
structure Commit (ι : Type) where
  /-- Distinguishes this commit from every other one. -/
  id : Nat
  proposals : List (Proposal ι)
  /-- The new content of the committer's leaf; for an external commit, the joiner's leaf. -/
  path : Option (SignatureKey × ι)
  deriving DecidableEq

/-- What a message carries. -/
inductive Content (ι π : Type) where
  | application (plaintext : π) (senderIdentity : ι)
  | proposal (proposal : Proposal ι)
  | commit (commit : Commit ι)
  deriving DecidableEq

/-- A framed message.  A message without a sender comes from outside the group: an external
commit. -/
structure Message (ι π : Type) where
  groupId : GroupId
  epoch : EpochId
  sender : Option Nat
  generation : Nat
  content : Content ι π
  deriving DecidableEq

/-- The bytes of a message row. -/
inductive Wire (ι π : Type) where
  | message (message : Message ι π)
  /-- An MLS message of another type (welcome, key package, group information), with what its
  header says of group and epoch. -/
  | other (groupId : Option GroupId) (epoch : Option Nat)
  /-- Not an MLS message. -/
  | junk
  deriving DecidableEq

/-- The type of a message, in its cleartext header. -/
inductive Kind where
  | application
  | proposal
  | commit
  | other
  deriving DecidableEq

/-- The key that opens a message: the sender's ratchet of an epoch at a generation.
Application and handshake messages have separate ratchets. -/
structure MessageKey where
  epoch : EpochId
  sender : Option Nat
  handshake : Bool
  generation : Nat
  deriving DecidableEq

section

variable {ι π : Type}

def Content.kind : Content ι π → Kind
  | .application _ _ => .application
  | .proposal _ => .proposal
  | .commit _ => .commit

/-- What the cleartext header of a message says. -/
structure Inspected where
  kind : Kind
  groupId : Option GroupId
  epoch : Option Nat
  deriving DecidableEq

/-- `mlsInspect`: the header of an MLS message. -/
def Wire.inspect : Wire ι π → Option Inspected
  | .message framed => some ⟨framed.content.kind, framed.groupId, framed.epoch.number⟩
  | .other groupId epoch => some ⟨.other, groupId, epoch⟩
  | .junk => none

def Message.key (message : Message ι π) : MessageKey where
  epoch := message.epoch
  sender := message.sender
  handshake := message.content.kind ≠ .application
  generation := message.generation

/-! ## The tree -/

def leafAt (leaves : List (Leaf ι)) (index : Nat) : Option (Leaf ι) :=
  leaves.find? (·.leafIndex == index)

/-- The lowest index without a leaf. -/
def firstFree (leaves : List (Leaf ι)) : Nat :=
  ((List.range (leaves.length + 1)).find? fun index =>
    (leafAt leaves index).isNone).getD leaves.length

/-- Put a leaf into the lowest free place; leaves are listed by index. -/
def addLeaf (leaves : List (Leaf ι)) (signatureKey : SignatureKey) (identity : ι) :
    List (Leaf ι) :=
  leaves.orderedInsert (fun left right => left.leafIndex ≤ right.leafIndex)
    { leafIndex := firstFree leaves, signatureKey, identity }

def removeLeaf (leaves : List (Leaf ι)) (index : Nat) : List (Leaf ι) :=
  leaves.filter (·.leafIndex ≠ index)

def updateLeaf (leaves : List (Leaf ι)) (index : Nat) (signatureKey : SignatureKey)
    (identity : ι) : List (Leaf ι) :=
  leaves.map fun leaf => if leaf.leafIndex = index then { leaf with signatureKey, identity }
    else leaf

def applyUpdate (leaves : List (Leaf ι)) : Proposal ι → List (Leaf ι)
  | .update index signatureKey identity => updateLeaf leaves index signatureKey identity
  | _ => leaves

def applyRemove (leaves : List (Leaf ι)) : Proposal ι → List (Leaf ι)
  | .remove index => removeLeaf leaves index
  | _ => leaves

def applyAdd (leaves : List (Leaf ι)) : Proposal ι → List (Leaf ι)
  | .add signatureKey identity => addLeaf leaves signatureKey identity
  | _ => leaves

/-- Updates, then removals, then additions. -/
def applyProposals (leaves : List (Leaf ι)) (proposals : List (Proposal ι)) :
    List (Leaf ι) :=
  proposals.foldl applyAdd (proposals.foldl applyRemove (proposals.foldl applyUpdate leaves))

def applyCommit (leaves : List (Leaf ι)) (sender : Option Nat) (commit : Commit ι) :
    List (Leaf ι) :=
  let leaves := applyProposals leaves commit.proposals
  match commit.path, sender with
  | none, _ => leaves
  | some (signatureKey, identity), some index => updateLeaf leaves index signatureKey identity
  | some (signatureKey, identity), none => addLeaf leaves signatureKey identity

def removals (proposals : List (Proposal ι)) : List Nat :=
  proposals.filterMap fun proposal =>
    match proposal with
    | .remove index => some index
    | _ => none

/-- An update comes from the member whose leaf it replaces. -/
def Proposal.sentBy (sender : Option Nat) : Proposal ι → Bool
  | .update index _ _ => sender = some index
  | _ => true

/-- The indices whose leaves a list of proposals replaces. -/
def updates (proposals : List (Proposal ι)) : List Nat :=
  proposals.filterMap fun proposal =>
    match proposal with
    | .update index _ _ => some index
    | _ => none

/-! ## Groups -/

/-- One member's view of a group. -/
structure Group (ι : Type) where
  groupId : GroupId
  epoch : EpochId
  leaves : List (Leaf ι)
  /-- Proposals stored for the next commit. -/
  proposals : List (Proposal ι)
  /-- The index of this member's own leaf. -/
  ownLeaf : Nat
  /-- Cleared when a commit removes this member. -/
  active : Bool
  /-- The epochs whose secrets are kept, the current one first. -/
  held : List EpochId
  consumed : List MessageKey
  deriving DecidableEq

/-- What is published for joining a group from outside. -/
structure GroupInfo (ι : Type) where
  groupId : GroupId
  epoch : EpochId
  leaves : List (Leaf ι)
  deriving DecidableEq

/-- What `process` makes of a message. -/
inductive Processed (ι π : Type) where
  | application (plaintext : π) (senderIdentity : ι)
  | commit
  | proposal
  /-- This member's own message, fanned back. -/
  | own
  deriving DecidableEq

/-- What a device publishes so that others can add it. -/
structure KeyPackage (ι : Type) where
  /-- Names the private part, which only the device holds. -/
  id : Nat
  signatureKey : SignatureKey
  identity : ι
  deriving DecidableEq

/-- What the devices added by a commit get to join with. -/
structure Welcome (ι : Type) where
  info : GroupInfo ι
  keyPackages : List Nat
  deriving DecidableEq

/-- How many epochs' secrets are kept: the current one and five past ones. -/
def heldEpochs : Nat := 6

namespace Group

variable [DecidableEq ι] (group : Group ι)

/-- The proposals of a commit make sense: what they remove is there, the committer neither
removes nor updates itself, and an update, which only the leaf's owner can propose, is one of
the stored proposals. -/
def permits (sender : Option Nat) (proposals : List (Proposal ι)) : Bool :=
  (removals proposals).all (fun index =>
    (leafAt group.leaves index).isSome && sender != some index) &&
  (updates proposals).all (fun index => sender != some index) &&
  proposals.all fun proposal =>
    match proposal with
    | .update _ _ _ => proposal ∈ group.proposals
    | _ => true

/-- The group after a commit: the next epoch, with nothing stored.  A member that the commit
removes gets no secrets of the new epoch and is out. -/
def merge (group : Group ι) (sender : Option Nat) (commit : Commit ι) : Group ι :=
  let next : EpochId := ⟨group.epoch.number + 1, commit.id :: group.epoch.transcript⟩
  let removed := group.ownLeaf ∈ removals commit.proposals
  { group with
    epoch := next
    leaves := applyCommit group.leaves sender commit
    proposals := []
    active := !removed
    held := if removed then group.held else (next :: group.held).take heldEpochs }

/-- Process a message from the log; `none` where the library throws. -/
def process (message : Message ι π) : Option (Processed ι π × Group ι) :=
  if !group.active || message.groupId ≠ group.groupId then none
  else
    match message.content with
    | .application plaintext senderIdentity =>
      if message.epoch ∉ group.held then none
      else if message.sender = some group.ownLeaf then some (.own, group)
      else if message.key ∈ group.consumed then none
      else
        some (.application plaintext senderIdentity,
          { group with consumed := message.key :: group.consumed })
    | .proposal proposal =>
      if message.epoch ≠ group.epoch then none
      else if message.sender = some group.ownLeaf then some (.own, group)
      else if message.key ∈ group.consumed || !proposal.sentBy message.sender then none
      else
        some (.proposal,
          { group with
            proposals := group.proposals ++ [proposal]
            consumed := message.key :: group.consumed })
    | .commit commit =>
      if message.epoch ≠ group.epoch then none
      else if message.sender = some group.ownLeaf then some (.own, group)
      else if group.permits message.sender commit.proposals then
        some (.commit, group.merge message.sender commit)
      else none

/-- Build and merge a commit of this member: the stored proposals and the given ones.
`none` where the library throws. -/
def commitWith (id : Nat) (extra : List (Proposal ι)) (path : Option (SignatureKey × ι)) :
    Option (Message ι π × Group ι) :=
  let proposals := group.proposals ++ extra
  if group.active && group.permits (some group.ownLeaf) proposals then
    let commit : Commit ι := { id, proposals, path }
    some
      ({ groupId := group.groupId, epoch := group.epoch, sender := some group.ownLeaf,
         generation := 0, content := .commit commit },
        group.merge (some group.ownLeaf) commit)
  else none

def addMembers (id : Nat) (members : List (KeyPackage ι)) :
    Option (Message ι π × Welcome ι × Group ι) :=
  (group.commitWith id (members.map fun member => .add member.signatureKey member.identity)
    none).map fun (commit, merged) =>
      (commit,
        { info := ⟨merged.groupId, merged.epoch, merged.leaves⟩
          keyPackages := members.map KeyPackage.id },
        merged)

def removeLeaves (id : Nat) (indices : List Nat) : Option (Message ι π × Group ι) :=
  if indices = [] then none else group.commitWith id (indices.map .remove) none

/-- `commitPending`: `some none` when nothing is stored. -/
def commitPending (id : Nat) : Option (Option (Message ι π × Group ι)) :=
  if group.proposals = [] then some none else (group.commitWith id [] none).map some

/-- `updateCredential`: this member's leaf takes a new content. -/
def updateCredential (id : Nat) (signatureKey : SignatureKey) (identity : ι) :
    Option (Message ι π × Group ι) :=
  group.commitWith id [] (some (signatureKey, identity))

/-- `selfUpdate`: fresh keys for this member's leaf, which keeps its content. -/
def selfUpdate (id : Nat) : Option (Message ι π × Group ι) := group.commitWith id [] none

/-- `encrypt` at a generation of this member's own ratchet.  The library refuses while
proposals are stored. -/
def encrypt (group : Group ι) (generation : Nat) (identity : ι) (plaintext : π) : Option
    (Message ι π) :=
  if group.active && group.proposals.isEmpty then
    some
      { groupId := group.groupId, epoch := group.epoch, sender := some group.ownLeaf,
        generation, content := .application plaintext identity }
  else none

end Group

/-- `createGroup`: one leaf, epoch zero. -/
def createGroup (groupId : GroupId) (id : Nat) (signatureKey : SignatureKey) (identity : ι) :
    Group ι where
  groupId := groupId
  epoch := ⟨0, [id]⟩
  leaves := [{ leafIndex := 0, signatureKey, identity }]
  proposals := []
  ownLeaf := 0
  active := true
  held := [⟨0, [id]⟩]
  consumed := []

def joinExternal (info : GroupInfo ι) (id : Nat) (signatureKey : SignatureKey) (identity : ι) :
    Message ι π × Group ι :=
  let old := info.leaves.filter (·.signatureKey == signatureKey)
  let commit : Commit ι :=
    { id, proposals := old.map fun leaf => .remove leaf.leafIndex,
      path := some (signatureKey, identity) }
  let next : EpochId := ⟨info.epoch.number + 1, id :: info.epoch.transcript⟩
  ({ groupId := info.groupId, epoch := info.epoch, sender := none, generation := 0,
     content := .commit commit },
    { groupId := info.groupId
      epoch := next
      leaves := applyCommit info.leaves none commit
      proposals := []
      ownLeaf := firstFree (applyProposals info.leaves commit.proposals)
      active := true
      held := [next]
      consumed := [] })

/-- `join` from a welcome: a device that holds one of its key packages finds its leaf by its
signature key.  `none` where the library throws. -/
def join (welcome : Welcome ι) (held : List Nat) (signatureKey : SignatureKey) :
    Option (Group ι) :=
  if welcome.keyPackages.any (· ∈ held) then
    (welcome.info.leaves.find? (·.signatureKey == signatureKey)).map fun leaf =>
      { groupId := welcome.info.groupId
        epoch := welcome.info.epoch
        leaves := welcome.info.leaves
        proposals := []
        ownLeaf := leaf.leafIndex
        active := true
        held := [welcome.info.epoch]
        consumed := [] }
  else none

end

end MessagingStack.Mls

import MessagingStack.Contract.Chain

/-!
# What a group that an agent creates grants

`create_agent_group` of `messaging.move` over the package of permissioned groups, of which
`GroupsPackage` states what is used.  Who holds what at the end is computed once
(`holds_createAgentGroup`); the actor, the owner of the second account and the principal are the
exceptions to what is promised, and `promised_iff` says exactly when the promise is kept.
-/

namespace MessagingStack.Contract

open Chain (IsWallet)
open Move

/-! ## The package of permissioned groups -/

structure GroupsPackage (G : Type) where
  id : G → Address
  newDerived : Bool → Address → Address → Move PermissionedGroupError G
  grantPermission : G → Address → Address → Permission → Move PermissionedGroupError G
  /-- `object_revoke_permission`, of an actor object from a member. -/
  revokePermission : G → Address → Address → Permission → Move PermissionedGroupError G
  objectUid : G → Address → Move PermissionedGroupError PUnit
  Holds : G → Address → Permission → Prop
  holds_newDerived : ∀ {taken id creator group}, newDerived taken id creator = .ok group →
    ∀ who which, Holds group who which ↔
      who = creator ∧ (which = .permissionsAdmin ∨ which = .extensionPermissionsAdmin)
  holds_grantPermission : ∀ {group sender member permission after},
    grantPermission group sender member permission = .ok after →
    ∀ who which, Holds after who which ↔ Holds group who which ∨ who = member ∧ which = permission
  holds_revokePermission : ∀ {group actor member permission after},
    revokePermission group actor member permission = .ok after →
    ∀ who which, Holds after who which ↔
      Holds group who which ∧ ¬(who = member ∧ which = permission)

namespace GroupsPackage

variable {G : Type} (groups : GroupsPackage G)

def grantEach (group : G) (sender member : Address) :
    List Permission → Move PermissionedGroupError G
  | [] => .ok group
  | permission :: rest => do
    let group ← groups.grantPermission group sender member permission
    grantEach group sender member rest

def grantAgentMessagingPermissions (group : G) (sender member : Address) :
    Move PermissionedGroupError G :=
  groups.grantEach group sender member [.messagingSender, .messagingReader]

def grantPrincipalOversight (group : G) (sender principal : Address) :
    Move PermissionedGroupError G :=
  groups.grantEach group sender principal [.messagingReader, .permissionsAdmin]

def grantHumanPeerPermissions (group : G) (sender member : Address) :
    Move PermissionedGroupError G :=
  groups.grantEach group sender member [.messagingSender, .messagingReader]

def grantAgentInitialMembers (group : G)
    (creatorAccount crossPrincipalPeerAccount : MemoryAccount) (actorAddress : Address) :
    List Address → Move PermissionedGroupError G
  | [] => .ok group
  | member :: rest =>
    if member = actorAddress then
      grantAgentInitialMembers group creatorAccount crossPrincipalPeerAccount actorAddress rest
    else if member ∈ creatorAccount.agents then do
      let group ← groups.grantAgentMessagingPermissions group actorAddress member
      grantAgentInitialMembers group creatorAccount crossPrincipalPeerAccount actorAddress rest
    else if member ∈ crossPrincipalPeerAccount.agents then do
      let group ← groups.grantAgentMessagingPermissions group actorAddress member
      let group ← groups.grantPrincipalOversight group actorAddress crossPrincipalPeerAccount.owner
      grantAgentInitialMembers group creatorAccount crossPrincipalPeerAccount actorAddress rest
    else do
      let group ← groups.grantHumanPeerPermissions group actorAddress member
      grantAgentInitialMembers group creatorAccount crossPrincipalPeerAccount actorAddress rest

structure AgentGroup (G : Type) where
  group : G
  metadata : Metadata
  history : EncryptionHistory
  log : MessageLog

/-- `create_agent_group`, for the context that `resolve_messaging_actor` returns. -/
def createAgentGroup (version : U64) (namespace_ : Namespace) (taken : Taken)
    (blockList : BlockList) (acting : ActingContext)
    (creatorAccount crossPrincipalPeerAccount : MemoryAccount) (sender : Address)
    (name uuid : String) (initialEncryptedDek : List UInt8) (initialMembers : List Address) :
    Move MessagingError (AgentGroup G) := do
  validateVersion version
  assertThat (acting.actorAddress = sender) .agentSenderMismatch
  assertAgentPeersNotBlocked blockList acting initialMembers
  let group ← within .permissionedGroup
    (groups.newDerived taken.group (namespace_.groupAddress uuid) sender)
  let group ← within .permissionedGroup
    (groups.grantPermission group sender namespace_.groupLeaver .permissionsAdmin)
  let group ← within .permissionedGroup
    (groups.grantAgentMessagingPermissions group sender acting.actorAddress)
  let group ← within .permissionedGroup
    (groups.grantPrincipalOversight group sender acting.principalOwner)
  let group ← within .permissionedGroup
    (groups.grantPermission group sender namespace_.groupManager .objectAdmin)
  let metadata ← Metadata.new name uuid acting.actorAddress
  within .permissionedGroup (groups.objectUid group namespace_.groupManager)
  let metadata ← attachAgentCreatorMetadata metadata acting
  let metadata ← markDirectMessage metadata initialMembers acting.actorAddress
  let group ← within .permissionedGroup
    (groups.grantAgentInitialMembers group creatorAccount crossPrincipalPeerAccount
      acting.actorAddress initialMembers)
  let group ← within .permissionedGroup
    (groups.revokePermission group namespace_.groupLeaver acting.actorAddress .permissionsAdmin)
  let group ← within .permissionedGroup
    (groups.revokePermission group namespace_.groupLeaver acting.actorAddress
      .extensionPermissionsAdmin)
  let history ← within .encryptionHistory
    (EncryptionHistory.new taken.historyUuids uuid (groups.id group) initialEncryptedDek)
  let (log, _, _) ← within .messageLog (MessageLog.new taken.logUuids uuid (groups.id group))
  return { group, metadata, history, log }

/-! ## Who holds what at the end -/

section Holders

variable {groups : GroupsPackage G} {group after : G} {blockList : BlockList} {member : Address}
  {creatorAccount crossPrincipalPeerAccount : MemoryAccount} {actorAddress first second : Address}

theorem holds_grantEach {sender : Address} {permissions : List Permission}
    (returned : groups.grantEach group sender member permissions = .ok after) :
    ∀ who which, groups.Holds after who which ↔
      groups.Holds group who which ∨ who = member ∧ which ∈ permissions := by
  induction permissions generalizing group with
  | nil =>
    cases returned
    simp
  | cons permission rest ih =>
    obtain ⟨middle, granted, others⟩ := bind_ok.mp returned
    intro who which
    rw [ih others, groups.holds_grantPermission granted, List.mem_cons]
    tauto

/-- A member of the second account who is a peer: its owner is made an administrator. -/
def CrossPeer (creatorAccount crossPrincipalPeerAccount : MemoryAccount)
    (actorAddress member : Address) : Prop :=
  member ≠ actorAddress ∧ member ∉ creatorAccount.agents ∧ member ∈ crossPrincipalPeerAccount.agents

instance (creatorAccount crossPrincipalPeerAccount : MemoryAccount)
    (actorAddress member : Address) :
    Decidable (CrossPeer creatorAccount crossPrincipalPeerAccount actorAddress member) :=
  inferInstanceAs (Decidable (_ ∧ _ ∧ _))

theorem holds_initialMember {rest : List Address}
    (returned : groups.grantAgentInitialMembers group creatorAccount crossPrincipalPeerAccount
      actorAddress (member :: rest) = .ok after)
    :
    ∃ middle, groups.grantAgentInitialMembers middle creatorAccount crossPrincipalPeerAccount
        actorAddress rest = .ok after ∧
      ∀ who which, groups.Holds middle who which ↔
        groups.Holds group who which ∨
        (who = member ∧ who ≠ actorAddress ∧ which ∈ [.messagingSender, .messagingReader]) ∨
        (who = crossPrincipalPeerAccount.owner ∧ which ∈ [.messagingReader, .permissionsAdmin] ∧
          CrossPeer creatorAccount crossPrincipalPeerAccount actorAddress member) := by
  rw [grantAgentInitialMembers] at returned
  by_cases isActor : member = actorAddress
  · rw [if_pos isActor] at returned
    refine ⟨group, returned, fun who which => ⟨Or.inl, ?_⟩⟩
    rintro (held | ⟨same, differs, -⟩ | ⟨-, -, cross⟩)
    · exact held
    · exact absurd (same.trans isActor) differs
    · exact absurd isActor cross.1
  rw [if_neg isActor] at returned
  -- Every peer is granted the same two permissions.
  have peer : ∀ {middle : G},
      groups.grantEach group actorAddress member [.messagingSender, .messagingReader] = .ok middle →
      ∀ who which, groups.Holds middle who which ↔
        groups.Holds group who which ∨ (who = member ∧ who ≠ actorAddress ∧
          which ∈ [.messagingSender, .messagingReader]) := by
    intro middle granted who which
    rw [holds_grantEach granted]
    refine or_congr_right ⟨?_, fun new => ⟨new.1, new.2.2⟩⟩
    rintro ⟨rfl, new⟩
    exact ⟨rfl, isActor, new⟩
  have noOwner : ¬CrossPeer creatorAccount crossPrincipalPeerAccount actorAddress member →
      ∀ {middle : G},
      groups.grantEach group actorAddress member [.messagingSender, .messagingReader] = .ok middle →
      ∀ who which, groups.Holds middle who which ↔
        groups.Holds group who which ∨
        (who = member ∧ who ≠ actorAddress ∧ which ∈ [.messagingSender, .messagingReader]) ∨
        (who = crossPrincipalPeerAccount.owner ∧ which ∈ [.messagingReader, .permissionsAdmin] ∧
          CrossPeer creatorAccount crossPrincipalPeerAccount actorAddress member) := by
    intro notCross middle granted who which
    rw [peer granted]
    exact or_congr_right ⟨Or.inl, fun new => new.resolve_right fun owner => notCross owner.2.2⟩
  by_cases own : member ∈ creatorAccount.agents
  · rw [if_pos own] at returned
    obtain ⟨middle, granted, others⟩ := bind_ok.mp returned
    exact ⟨middle, others, noOwner (fun cross => cross.2.1 own) granted⟩
  rw [if_neg own] at returned
  by_cases cross : member ∈ crossPrincipalPeerAccount.agents
  · rw [if_pos cross] at returned
    obtain ⟨middle, granted, later⟩ := bind_ok.mp returned
    obtain ⟨overseen, oversight, others⟩ := bind_ok.mp later
    refine ⟨overseen, others, fun who which => ?_⟩
    rw [holds_grantEach oversight, peer granted, or_assoc]
    refine or_congr_right (or_congr_right ⟨fun owner => ?_, fun owner => ⟨owner.1, owner.2.1⟩⟩)
    exact ⟨owner.1, owner.2, isActor, own, cross⟩
  · rw [if_neg cross] at returned
    obtain ⟨middle, granted, others⟩ := bind_ok.mp returned
    exact ⟨middle, others, noOwner (fun isCross => cross isCross.2.2) granted⟩

theorem holds_grantAgentInitialMembers {members : List Address}
    (returned : groups.grantAgentInitialMembers group creatorAccount crossPrincipalPeerAccount
      actorAddress members = .ok after)
    :
    ∀ who which, groups.Holds after who which ↔
      groups.Holds group who which ∨
      (who ∈ members ∧ who ≠ actorAddress ∧ which ∈ [.messagingSender, .messagingReader]) ∨
      (who = crossPrincipalPeerAccount.owner ∧ which ∈ [.messagingReader, .permissionsAdmin] ∧
        ∃ member ∈ members,
          CrossPeer creatorAccount crossPrincipalPeerAccount actorAddress member) := by
  induction members generalizing group with
  | nil =>
    cases returned
    simp
  | cons member rest ih =>
    intro who which
    obtain ⟨middle, others, first⟩ := holds_initialMember returned
    rw [ih others, first]
    constructor
    · rintro ((held | ⟨rfl, peer⟩ | ⟨owner, gets, cross⟩) | ⟨later, peer⟩ |
        ⟨owner, gets, other, later, cross⟩)
      · exact Or.inl held
      · exact Or.inr (Or.inl ⟨List.mem_cons_self, peer⟩)
      · exact Or.inr (Or.inr ⟨owner, gets, member, List.mem_cons_self, cross⟩)
      · exact Or.inr (Or.inl ⟨List.mem_cons_of_mem member later, peer⟩)
      · exact Or.inr (Or.inr ⟨owner, gets, other, List.mem_cons_of_mem member later, cross⟩)
    rintro (held | ⟨isMember, peer⟩ | ⟨owner, gets, other, isMember, cross⟩)
    · exact Or.inl (Or.inl held)
    · rcases List.mem_cons.mp isMember with same | later
      · exact Or.inl (Or.inr (Or.inl ⟨same, peer⟩))
      · exact Or.inr (Or.inl ⟨later, peer⟩)
    · rcases List.mem_cons.mp isMember with rfl | later
      · exact Or.inl (Or.inr (Or.inr ⟨owner, gets, cross⟩))
      · exact Or.inr (Or.inr ⟨owner, gets, other, later, cross⟩)

/-- Everything that is granted on the way, and to whom. -/
def Granted (namespace_ : Namespace) (acting : ActingContext)
    (creatorAccount crossPrincipalPeerAccount : MemoryAccount) (initialMembers : List Address)
    (who : Address) (which : Permission) : Prop :=
  (who = acting.actorAddress ∧
    which ∈ [.permissionsAdmin, .extensionPermissionsAdmin, .messagingSender, .messagingReader]) ∨
  (who = namespace_.groupLeaver ∧ which = .permissionsAdmin) ∨
  (who = acting.principalOwner ∧ which ∈ [.messagingReader, .permissionsAdmin]) ∨
  (who = namespace_.groupManager ∧ which = .objectAdmin) ∨
  (who ∈ initialMembers ∧ who ≠ acting.actorAddress ∧
    which ∈ [.messagingSender, .messagingReader]) ∨
  (who = crossPrincipalPeerAccount.owner ∧ which ∈ [.messagingReader, .permissionsAdmin] ∧
    ∃ member ∈ initialMembers,
      CrossPeer creatorAccount crossPrincipalPeerAccount acting.actorAddress member)

/-- Two addresses of which one blocks the other. -/
def Blocked (blockList : BlockList) (first second : Address) : Prop :=
  (first, second) ∈ blockList ∨ (second, first) ∈ blockList

theorem not_blocked_of_assertNotBlocked {done : PUnit}
    (returned : assertNotBlocked blockList first second = .ok done) :
    ¬Blocked blockList first second := by
  have apart := assertThat_ok.mp returned
  rintro (blocks | blocked)
  · exact apart.1 blocks
  · exact apart.2 blocked

theorem peers_unblocked {acting : ActingContext} :
    ∀ {members : List Address} {done : PUnit},
      assertAgentPeersNotBlocked blockList acting members = .ok done →
      ∀ member ∈ members, member ≠ acting.actorAddress →
        ¬Blocked blockList acting.actorAddress member ∧
          ¬Blocked blockList acting.principalOwner member := by
  intro members
  induction members with
  | nil =>
    intro done _ member isMember
    cases isMember
  | cons first rest ih =>
    intro done returned member isMember isPeer
    rw [assertAgentPeersNotBlocked] at returned
    split at returned
    · next isActor =>
      rcases List.mem_cons.mp isMember with rfl | later
      · exact absurd isActor isPeer
      · exact ih returned member later isPeer
    obtain ⟨_, actorApart, returned⟩ := bind_ok.mp returned
    obtain ⟨_, principalApart, returned⟩ := bind_ok.mp returned
    rcases List.mem_cons.mp isMember with rfl | later
    · exact ⟨not_blocked_of_assertNotBlocked actorApart,
        not_blocked_of_assertNotBlocked principalApart⟩
    · exact ih returned member later isPeer

variable {version : U64} {namespace_ : Namespace} {taken : Taken} {blockList : BlockList}
  {acting : ActingContext} {creatorAccount crossPrincipalPeerAccount : MemoryAccount}
  {sender : Address} {name uuid : String} {initialEncryptedDek : List UInt8}
  {initialMembers : List Address} {created : AgentGroup G}

theorem holds_createAgentGroup
    (returned : groups.createAgentGroup version namespace_ taken blockList acting creatorAccount
      crossPrincipalPeerAccount sender name uuid initialEncryptedDek initialMembers = .ok created) :
    acting.actorAddress = sender ∧
    (∀ member ∈ initialMembers, member ≠ acting.actorAddress →
      ¬Blocked blockList acting.actorAddress member ∧
        ¬Blocked blockList acting.principalOwner member) ∧
    ∀ who which, groups.Holds created.group who which ↔
      Granted namespace_ acting creatorAccount crossPrincipalPeerAccount initialMembers who
          which ∧
        ¬(who = acting.actorAddress ∧
          (which = .permissionsAdmin ∨ which = .extensionPermissionsAdmin)) := by
  simp only [createAgentGroup, bind_ok, within_ok, assertThat_ok, pure_ok] at returned
  obtain ⟨_, -, _, rfl, _, unblocked, fresh, isFresh, led, isLed, staffed, isStaffed, seen, isSeen,
    managed, isManaged, _, -, _, -, _, -, _, -, peopled, isPeopled, bared, isBared, final, isFinal,
    _, -, _, -, rfl⟩ := returned
  refine ⟨rfl, peers_unblocked unblocked, fun who which => ?_⟩
  rw [groups.holds_revokePermission isFinal, groups.holds_revokePermission isBared,
    holds_grantAgentInitialMembers isPeopled, groups.holds_grantPermission isManaged,
    holds_grantEach isSeen, holds_grantEach isStaffed, groups.holds_grantPermission isLed,
    groups.holds_newDerived isFresh, and_assoc]
  refine and_congr ?_ ?_
  · simp only [Granted, List.mem_cons, List.not_mem_nil, or_false]
    constructor
    · rintro (((((⟨rfl, admin⟩ | leaver) | ⟨rfl, speaks⟩) | principal) | manager) | peer | owner)
      · exact Or.inl ⟨rfl, admin.elim Or.inl fun extension => Or.inr (Or.inl extension)⟩
      · exact Or.inr (Or.inl leaver)
      · exact Or.inl ⟨rfl, Or.inr (Or.inr speaks)⟩
      · exact Or.inr (Or.inr (Or.inl principal))
      · exact Or.inr (Or.inr (Or.inr (Or.inl manager)))
      · exact Or.inr (Or.inr (Or.inr (Or.inr (Or.inl peer))))
      · exact Or.inr (Or.inr (Or.inr (Or.inr (Or.inr owner))))
    rintro (⟨rfl, admin | extension | speaks⟩ | leaver | principal | manager | peer | owner)
    · exact Or.inl (Or.inl (Or.inl (Or.inl (Or.inl ⟨rfl, Or.inl admin⟩))))
    · exact Or.inl (Or.inl (Or.inl (Or.inl (Or.inl ⟨rfl, Or.inr extension⟩))))
    · exact Or.inl (Or.inl (Or.inl (Or.inr ⟨rfl, speaks⟩)))
    · exact Or.inl (Or.inl (Or.inl (Or.inl (Or.inr leaver))))
    · exact Or.inl (Or.inl (Or.inr principal))
    · exact Or.inl (Or.inr manager)
    · exact Or.inr (Or.inl peer)
    · exact Or.inr (Or.inr owner)
  · rw [← not_or, ← and_or_left]

/-! ## What is promised -/

/-- **The promise of `create_agent_group`** about who holds what. -/
structure Promised (groups : GroupsPackage G) (namespace_ : Namespace) (blockList : BlockList)
    (acting : ActingContext) (creatorAccount crossPrincipalPeerAccount : MemoryAccount)
    (initialMembers : List Address) (group : G) : Prop where
  /-- An agent that acts for another may send and read, and nothing else. -/
  agent : acting.actorAddress ≠ acting.principalOwner → ∀ which,
    groups.Holds group acting.actorAddress which ↔
      which = .messagingSender ∨ which = .messagingReader
  /-- Its principal may read and administrate. -/
  principal : groups.Holds group acting.principalOwner .messagingReader ∧
    groups.Holds group acting.principalOwner .permissionsAdmin
  /-- The administrators are the leaver, the principal, and the owner of the second account if an
  agent of that account, and not of the creator's, is an initial member. -/
  administrators : ∀ who, groups.Holds group who .permissionsAdmin ↔
    who = namespace_.groupLeaver ∨ who = acting.principalOwner ∨
      who = crossPrincipalPeerAccount.owner ∧ ∃ member ∈ initialMembers,
        member ∈ crossPrincipalPeerAccount.agents ∧ member ∉ creatorAccount.agents
  /-- Every other initial member may send and read. -/
  peers : ∀ member ∈ initialMembers, member ≠ acting.actorAddress →
    groups.Holds group member .messagingSender ∧ groups.Holds group member .messagingReader
  /-- No wallet with a permission and the actor or the principal block each other. -/
  unblocked : ∀ who which, IsWallet namespace_ who → groups.Holds group who which →
    (who ≠ acting.actorAddress → ¬Blocked blockList who acting.actorAddress) ∧
      (who ≠ acting.principalOwner → ¬Blocked blockList who acting.principalOwner)

/-- **When the promise is kept**: the actor acts for another; if an agent of the second account
only is an initial member, it is a peer and its owner is not the actor, unless the owner is an
administrator anyway; the actor and its principal do not block each other; and neither is blocked
against the owner of the second account where that one is made an administrator. -/
structure Orderly (namespace_ : Namespace) (blockList : BlockList)
    (acting : ActingContext) (creatorAccount crossPrincipalPeerAccount : MemoryAccount)
    (initialMembers : List Address) : Prop where
  delegated : acting.actorAddress ≠ acting.principalOwner
  owner : (∃ member ∈ initialMembers,
      member ∈ crossPrincipalPeerAccount.agents ∧ member ∉ creatorAccount.agents) →
    crossPrincipalPeerAccount.owner = namespace_.groupLeaver ∨
    crossPrincipalPeerAccount.owner = acting.principalOwner ∨
    crossPrincipalPeerAccount.owner ≠ acting.actorAddress ∧ ∃ member ∈ initialMembers,
      CrossPeer creatorAccount crossPrincipalPeerAccount acting.actorAddress member
  apart : ¬Blocked blockList acting.actorAddress acting.principalOwner
  ownerApart : (∃ member ∈ initialMembers,
      CrossPeer creatorAccount crossPrincipalPeerAccount acting.actorAddress member) →
    IsWallet namespace_ crossPrincipalPeerAccount.owner →
    (crossPrincipalPeerAccount.owner ≠ acting.actorAddress →
      ¬Blocked blockList crossPrincipalPeerAccount.owner acting.actorAddress) ∧
    (crossPrincipalPeerAccount.owner ≠ acting.principalOwner →
      ¬Blocked blockList crossPrincipalPeerAccount.owner acting.principalOwner)

theorem blocked_comm : Blocked blockList first second ↔ Blocked blockList second first := or_comm

/-- **A group that an agent created keeps the promise** exactly if the creation was orderly.  The
sender is a wallet: the two actor objects of the namespace send no transactions. -/
theorem promised_iff
    (wallet : IsWallet namespace_ sender)
    (returned : groups.createAgentGroup version namespace_ taken blockList acting creatorAccount
      crossPrincipalPeerAccount sender name uuid initialEncryptedDek initialMembers = .ok created) :
    Promised groups namespace_ blockList acting creatorAccount crossPrincipalPeerAccount
        initialMembers created.group ↔
      Orderly namespace_ blockList acting creatorAccount crossPrincipalPeerAccount
        initialMembers := by
  obtain ⟨rfl, peersApart, holds⟩ := holds_createAgentGroup returned
  obtain ⟨notLeaver, notManager⟩ := wallet
  constructor
  · intro promised
    have delegated : acting.actorAddress ≠ acting.principalOwner := by
      intro same
      have administrates := ((holds _ _).mp promised.principal.2).2
      exact administrates ⟨same.symm, Or.inl rfl⟩
    refine ⟨delegated, fun someAgent => ?_, ?_, fun someCross isWallet => ?_⟩
    · have admin := (promised.administrators crossPrincipalPeerAccount.owner).mpr
        (Or.inr (Or.inr ⟨rfl, someAgent⟩))
      obtain ⟨granted, kept⟩ := (holds _ _).mp admin
      have notActor : crossPrincipalPeerAccount.owner ≠ acting.actorAddress :=
        fun same => kept ⟨same, Or.inl rfl⟩
      rcases granted with actor | leaver | principal | manager | peer | owner
      · exact absurd actor.1 notActor
      · exact Or.inl leaver.1
      · exact Or.inr (Or.inl principal.1)
      · exact absurd manager.2 (by decide)
      · exact absurd peer.2.2 (by decide)
      · exact Or.inr (Or.inr ⟨notActor, owner.2.2⟩)
    · have speaks := (promised.agent delegated .messagingSender).mpr (Or.inl rfl)
      exact (promised.unblocked _ _ ⟨notLeaver, notManager⟩ speaks).2 delegated
    · refine promised.unblocked _ .messagingReader isWallet ((holds _ _).mpr ⟨?_, ?_⟩)
      · exact Or.inr (Or.inr (Or.inr (Or.inr (Or.inr ⟨rfl, by decide, someCross⟩))))
      · exact fun administrates => absurd administrates.2 (by decide)
  intro orderly
  have notPrincipal : acting.principalOwner ≠ acting.actorAddress := Ne.symm orderly.delegated
  refine ⟨fun _ which => ?_, ⟨?_, ?_⟩, fun who => ?_, fun member isMember isPeer => ⟨?_, ?_⟩, ?_⟩
  -- The agent.
  · rw [holds]
    constructor
    · rintro ⟨granted, kept⟩
      have notAdmin : which ≠ .permissionsAdmin := fun admin => kept ⟨rfl, Or.inl admin⟩
      have notExtension : which ≠ .extensionPermissionsAdmin :=
        fun extension => kept ⟨rfl, Or.inr extension⟩
      rcases granted with actor | leaver | principal | manager | peer | owner
      · have among := actor.2
        simp only [List.mem_cons, List.not_mem_nil, or_false, notAdmin, notExtension,
          false_or] at among
        exact among
      · exact absurd leaver.1 notLeaver
      · exact absurd principal.1.symm notPrincipal
      · exact absurd manager.1 notManager
      · exact absurd rfl peer.2.1
      · have among := owner.2.1
        simp only [List.mem_cons, List.not_mem_nil, or_false, notAdmin] at among
        exact Or.inr among
    · rintro (rfl | rfl)
      · exact ⟨Or.inl ⟨rfl, by decide⟩, fun administrates => absurd administrates.2 (by decide)⟩
      · exact ⟨Or.inl ⟨rfl, by decide⟩, fun administrates => absurd administrates.2 (by decide)⟩
  -- The principal.
  · exact (holds _ _).mpr ⟨Or.inr (Or.inr (Or.inl ⟨rfl, by decide⟩)),
      fun administrates => notPrincipal administrates.1⟩
  · exact (holds _ _).mpr ⟨Or.inr (Or.inr (Or.inl ⟨rfl, by decide⟩)),
      fun administrates => notPrincipal administrates.1⟩
  -- The administrators.
  · rw [holds]
    constructor
    · rintro ⟨granted, kept⟩
      rcases granted with actor | leaver | principal | manager | peer | owner
      · exact absurd ⟨actor.1, Or.inl rfl⟩ kept
      · exact Or.inl leaver.1
      · exact Or.inr (Or.inl principal.1)
      · exact absurd manager.2 (by decide)
      · exact absurd peer.2.2 (by decide)
      · obtain ⟨isOwner, -, member, isMember, cross⟩ := owner
        exact Or.inr (Or.inr ⟨isOwner, member, isMember, cross.2.2, cross.2.1⟩)
    rintro (rfl | rfl | ⟨rfl, someAgent⟩)
    · exact ⟨Or.inr (Or.inl ⟨rfl, rfl⟩), fun administrates => notLeaver administrates.1.symm⟩
    · exact ⟨Or.inr (Or.inr (Or.inl ⟨rfl, by decide⟩)),
        fun administrates => notPrincipal administrates.1⟩
    rcases orderly.owner someAgent with leaver | principal | ⟨notActor, someCross⟩
    · rw [leaver]
      exact ⟨Or.inr (Or.inl ⟨rfl, rfl⟩), fun administrates => notLeaver administrates.1.symm⟩
    · rw [principal]
      exact ⟨Or.inr (Or.inr (Or.inl ⟨rfl, by decide⟩)),
        fun administrates => notPrincipal administrates.1⟩
    · exact ⟨Or.inr (Or.inr (Or.inr (Or.inr (Or.inr ⟨rfl, by decide, someCross⟩)))),
        fun administrates => notActor administrates.1⟩
  -- The peers.
  · exact (holds _ _).mpr
      ⟨Or.inr (Or.inr (Or.inr (Or.inr (Or.inl ⟨isMember, isPeer, by decide⟩)))),
        fun administrates => isPeer administrates.1⟩
  · exact (holds _ _).mpr
      ⟨Or.inr (Or.inr (Or.inr (Or.inr (Or.inl ⟨isMember, isPeer, by decide⟩)))),
        fun administrates => isPeer administrates.1⟩
  -- The block list.
  · intro who which isWallet held
    obtain ⟨granted, -⟩ := (holds who which).mp held
    rcases granted with actor | leaver | principal | manager | peer | owner
    · obtain ⟨rfl, -⟩ := actor
      exact ⟨fun differs => absurd rfl differs, fun _ => orderly.apart⟩
    · exact absurd leaver.1 isWallet.1
    · obtain ⟨rfl, -⟩ := principal
      exact ⟨fun _ => fun blocked => orderly.apart (blocked_comm.mp blocked),
        fun differs => absurd rfl differs⟩
    · exact absurd manager.1 isWallet.2
    · obtain ⟨actorApart, principalApart⟩ := peersApart who peer.1 peer.2.1
      exact ⟨fun _ blocked => actorApart (blocked_comm.mp blocked),
        fun _ blocked => principalApart (blocked_comm.mp blocked)⟩
    · obtain ⟨rfl, -, someCross⟩ := owner
      exact orderly.ownerApart someCross isWallet

end Holders

end GroupsPackage

/-! ## A package with these laws -/

/-- A grant that leaves alone what is held already. -/
def grantOnce (group : PermissionedGroup) (sender member : Address) (permission : Permission) :
    Move PermissionedGroupError PermissionedGroup :=
  if group.Holds member permission then do
    group.assertNotPaused
    group.assertCanManagePermission sender permission
    return group
  else group.grantPermission sender member permission

def insertingGroups : GroupsPackage PermissionedGroup where
  id := PermissionedGroup.id
  newDerived := PermissionedGroup.newDerived
  grantPermission := grantOnce
  revokePermission := PermissionedGroup.revokePermission
  objectUid := PermissionedGroup.objectUid
  Holds := PermissionedGroup.Holds
  holds_newDerived := PermissionedGroup.holds_newDerived
  holds_grantPermission := by
    intro group sender member permission after returned who which
    rw [grantOnce] at returned
    split at returned
    · next held =>
      simp only [bind_ok, pure_ok] at returned
      obtain ⟨_, -, _, -, rfl⟩ := returned
      refine ⟨Or.inl, ?_⟩
      rintro (before | ⟨rfl, rfl⟩)
      · exact before
      · exact held
    · exact (PermissionedGroup.grantPermission_ok returned).2.2.2.2 who which
  holds_revokePermission := PermissionedGroup.holds_revokePermission

/-! ## The owner of a peer's account -/

/-- Agent 10 acts for wallet 1. -/
def sampleActing : ActingContext := ⟨10, 1, none, 0⟩

def creatorAccount : MemoryAccount := ⟨1, [10]⟩

/-- The account of wallet 2, whose agent is 20. -/
def peerAccount : MemoryAccount := ⟨2, [20]⟩

/-- A group of agent 10 with agent 20, under a block list. -/
def sampleCreation (blockList : BlockList) :
    Move MessagingError (GroupsPackage.AgentGroup PermissionedGroup) :=
  insertingGroups.createAgentGroup packageVersion sampleNamespace ⟨false, [], []⟩ blockList
    sampleActing creatorAccount peerAccount 10 "agents" "u" [] [20]

theorem exists_sampleCreation {blockList : BlockList}
    (returns : (sampleCreation blockList).isOk = true) :
    ∃ created, sampleCreation blockList = .ok created := by
  cases made : sampleCreation blockList with
  | ok created => exact ⟨created, rfl⟩
  | error => cases made ▸ returns

/-- Where nobody blocks anybody, the promise is kept. -/
theorem promised_iff_of_nobody_blocked :
    ∃ created, sampleCreation [] = .ok created ∧
      GroupsPackage.Promised insertingGroups sampleNamespace [] sampleActing creatorAccount
        peerAccount [20] created.group := by
  obtain ⟨created, made⟩ := exists_sampleCreation
    (by decide +kernel : (sampleCreation []).isOk = true)
  have nobody : ∀ first second, ¬GroupsPackage.Blocked [] first second := by
    rintro first second (blocks | blocks) <;> cases blocks
  have orderly : GroupsPackage.Orderly sampleNamespace [] sampleActing creatorAccount peerAccount
      [20] :=
    { delegated := by decide
      owner := fun _ => Or.inr (Or.inr ⟨by decide, 20, by decide, by decide⟩)
      apart := nobody _ _
      ownerApart := fun _ _ => ⟨fun _ => nobody _ _, fun _ => nobody _ _⟩ }
  exact ⟨created, made, (GroupsPackage.promised_iff (by decide) made).mpr orderly⟩

/-- **The owner of a peer's account is not checked**: wallets 1 and 2 block each other, and an
agent of 2 is invited: wallet 2 administrates the group of the agent of wallet 1. -/
theorem blocked_owner_administrates :
    ¬∀ created, sampleCreation [(1, 2)] = .ok created →
      GroupsPackage.Promised insertingGroups sampleNamespace [(1, 2)] sampleActing creatorAccount
        peerAccount [20] created.group := by
  intro promised
  obtain ⟨created, made⟩ := exists_sampleCreation
    (by decide +kernel : (sampleCreation [(1, 2)]).isOk = true)
  have reads : ∀ created ∈ (sampleCreation [(1, 2)]).toOption,
      created.group.Holds 2 .messagingReader := by
    decide +kernel
  have isReader : created.group.Holds 2 .messagingReader := reads created (by rw [made]; rfl)
  have apart := ((promised created made).unblocked 2 .messagingReader (by decide) isReader).2
    (by decide)
  exact apart (Or.inr List.mem_cons_self)

end MessagingStack.Contract

import MessagingStack.Base.Runs
import MessagingStack.Relayer.EventParser

/-!
# Relayer permissions against the chain

`World` puts the permissions of the chain, by full type names, and the stores of the relayer side by
side, and lets every event reach the relayer through `parseMysoEvent` and `applyEvent`.  The relayer
reads the last segment of a type name only.  Where `Good` holds of a step it is not misled:
`membership_refines_chain`.
-/

namespace MessagingStack.Relayer.ChainPermissions

open EventParser

/-! ## The chain -/

/-- The packages, and what the relayer is configured with. -/
structure Setup where
  sync : MembershipSync.Config
  bcs : Bcs
  groupsPackage : Bytes
  messagingPackage : Bytes
  /-- The package id in the relayer's configuration. -/
  groupsPackageId : String
  names : canonicalAddress (formatId groupsPackage) = canonicalAddress groupsPackageId

def Setup.ownType (setup : Setup) (permission : MessagingPermission) : String :=
  Hex.encode setup.messagingPackage ++ "::messaging::" ++ permission.asStr

/-- The permission types that each member of each group holds. -/
abbrev Held := Bytes → Bytes → Finset String

/-- One change of a member's permission set. -/
inductive Change where
  | granted (groupId member : Bytes) (types : List String)
  | revoked (groupId member : Bytes) (types : List String)
  | added (groupId member : Bytes)
  | removed (groupId member : Bytes)
  deriving DecidableEq

namespace Change

def kind : Change → Kind
  | granted .. => .permissionsGranted
  | revoked .. => .permissionsRevoked
  | added .. => .memberAdded
  | removed .. => .memberRemoved

/-- The permission sets after the change. -/
def apply (held : Held) (change : Change) : Held := fun wantedGroup wantedMember =>
  match change with
  | granted groupId member types =>
    if wantedGroup = groupId ∧ wantedMember = member then
      held wantedGroup wantedMember ∪ types.toFinset
    else held wantedGroup wantedMember
  | revoked groupId member types =>
    if wantedGroup = groupId ∧ wantedMember = member then
      held wantedGroup wantedMember \ types.toFinset
    else held wantedGroup wantedMember
  | added _ _ => held wantedGroup wantedMember
  | removed groupId member =>
    if wantedGroup = groupId ∧ wantedMember = member then ∅
    else held wantedGroup wantedMember

def EncodedBy (bcs : Bcs) (contents : Bytes) : Change → Prop
  | granted groupId member types | revoked groupId member types =>
    bcs.permissionsEvent contents = some ⟨groupId, member, types⟩
  | added groupId member | removed groupId member =>
    bcs.memberEvent contents = some ⟨groupId, member⟩

/-- The change as the relayer's parser reports it. -/
def report : Change → GroupsEvent
  | granted groupId member types =>
    .permissionsGranted (formatId groupId) (formatId member) (filterMessagingPermissions types)
  | revoked groupId member types =>
    .permissionsRevoked (formatId groupId) (formatId member) (filterMessagingPermissions types)
  | added groupId member => .memberAdded (formatId groupId) (formatId member)
  | removed groupId member => .memberRemoved (formatId groupId) (formatId member)

theorem parse_kind {bcs : Bcs} {contents : Bytes} {change : Change}
    (encoded : change.EncodedBy bcs contents) :
    change.kind.parse bcs contents = some change.report := by
  cases change with
  | granted =>
    simp only [kind, Kind.parse, parsePermissionsGranted, report,
      show bcs.permissionsEvent contents = _ from encoded, Option.map_some]
  | revoked =>
    simp only [kind, Kind.parse, parsePermissionsRevoked, report,
      show bcs.permissionsEvent contents = _ from encoded, Option.map_some]
  | added =>
    simp only [kind, Kind.parse, parseMemberAdded, report,
      show bcs.memberEvent contents = _ from encoded, Option.map_some]
  | removed =>
    simp only [kind, Kind.parse, parseMemberRemoved, report,
      show bcs.memberEvent contents = _ from encoded, Option.map_some]

end Change

/-- An event of the groups package: a change in a group of `witness`es, with contents
that encode it. -/
structure Emission (setup : Setup) where
  change : Change
  witness : String
  contents : Bytes
  encoded : change.EncodedBy setup.bcs contents

def Emission.event {setup : Setup} (emission : Emission setup) : Event where
  eventType := some (groupsEventType setup.groupsPackage emission.change.kind emission.witness)
  contents := some emission.contents

/-- What the relayer is handed next, with where it stands. -/
inductive Input (setup : Setup) where
  | emit (context : MembershipSync.EventContext) (emission : Emission setup)
  | other (context : MembershipSync.EventContext) (event : Event)

/-- The chain beside the relayer. -/
structure World where
  held : Held
  stores : MembershipSync.Stores

/-- One event through the parser and `applyEvent`. -/
def deliver (setup : Setup) (context : MembershipSync.EventContext)
    (stores : MembershipSync.Stores) (event : Event) : MembershipSync.Stores :=
  match parseMysoEvent setup.bcs event setup.groupsPackageId with
  | some parsed => MembershipSync.applyEvent setup.sync context stores parsed
  | none => stores

def step (setup : Setup) (world : World) : Input setup → World
  | .emit context emission =>
    { held := emission.change.apply world.held
      stores := deliver setup context world.stores emission.event }
  | .other context event => { world with stores := deliver setup context world.stores event }

/-- Nobody holds anything, and the relayer has just started. -/
def start (storage : InMemoryStorage) (nextId : Uuid) : World where
  held := fun _ _ => ∅
  stores := { membership := .new, storage := storage, nextId := nextId }

/-! ## The condition on a step -/

/-- The kind of the event is read off its type correctly: the type argument has none of
the markers that are searched for earlier, and an event that is none of the four has no
marker at all or is from another package. -/
def Plain (setup : Setup) : Input setup → Prop
  | .emit _ emission =>
    ∀ earlier ∈ emission.change.kind.testedBefore,
      Text.contains (emission.witness ++ ">") earlier.marker = false
  | .other _ event =>
    ∀ eventType, event.eventType = some eventType →
      isEventFromPackage eventType setup.groupsPackageId = true →
        ∀ kind : Kind, Text.contains eventType kind.marker = false

/-- Every permission that a type name of the change names is, for that member, about the
messaging package's own type as well: after a grant the member holds it, after a
revocation it does not. -/
def NamesOwn (setup : Setup) (held : Held) : Change → Prop
  | .granted groupId member types =>
    MembershipSync.isSystemObject (formatId member) setup.sync.systemObjectAddrs = false →
      ∀ permission ∈ filterMessagingPermissions types,
        setup.ownType permission ∈ held groupId member ∨ setup.ownType permission ∈ types
  | .revoked groupId member types =>
    MembershipSync.isSystemObject (formatId member) setup.sync.systemObjectAddrs = false →
      ∀ permission ∈ filterMessagingPermissions types,
        setup.ownType permission ∉ held groupId member ∨ setup.ownType permission ∈ types
  | .added _ _ | .removed _ _ => True

/-- The condition under which a step keeps relayer and chain together. -/
def Good (setup : Setup) (world : World) (input : Input setup) : Prop :=
  Plain setup input ∧
    match input with
    | .emit _ emission => NamesOwn setup world.held emission.change
    | .other _ _ => True

/-! ## The agreement -/

/-- The four permission tests of the relayer answer for every member that is not a system
object what the chain has; nothing is listed that is not an id of the chain. -/
structure Agrees (setup : Setup) (world : World) : Prop where
  hasPermission : ∀ groupId member permission,
    MembershipSync.isSystemObject (formatId member) setup.sync.systemObjectAddrs = false →
      (world.stores.membership.hasPermission (formatId groupId) (formatId member)
          permission = true ↔
        setup.ownType permission ∈ world.held groupId member)
  isMember : ∀ groupId member,
    MembershipSync.isSystemObject (formatId member) setup.sync.systemObjectAddrs = false →
      (world.stores.membership.isMember (formatId groupId) (formatId member) = true ↔
        ∃ permission, setup.ownType permission ∈ world.held groupId member)
  listMemberAddresses : ∀ groupId member,
    MembershipSync.isSystemObject (formatId member) setup.sync.systemObjectAddrs = false →
      (formatId member ∈ world.stores.membership.listMemberAddresses (formatId groupId) ↔
        ∃ permission, setup.ownType permission ∈ world.held groupId member)
  groupsForMember : ∀ groupId member,
    MembershipSync.isSystemObject (formatId member) setup.sync.systemObjectAddrs = false →
      (formatId groupId ∈ world.stores.membership.groupsForMember (formatId member) ↔
        ∃ permission, setup.ownType permission ∈ world.held groupId member)
  onlyIds : ∀ groupId address, world.stores.membership.isMember groupId address = true →
    ∃ group member, groupId = formatId group ∧ address = formatId member

/-! ## One event -/

variable {setup : Setup} {emission : Emission setup} {event : Event} {world : World}
  {store : MembershipStore}

theorem parse_emission
    (plain : ∀ earlier ∈ emission.change.kind.testedBefore,
      Text.contains (emission.witness ++ ">") earlier.marker = false)
    :
    parseMysoEvent setup.bcs emission.event setup.groupsPackageId =
      some emission.change.report := by
  simp only [parseMysoEvent, Emission.event, Option.bind_eq_bind, Option.bind_some,
    isEventFromPackage_groupsEventType setup.names, if_true,
    kindOf_groupsEventType setup.groupsPackage emission.change.kind plain]
  exact Change.parse_kind emission.encoded

theorem parse_other
    (plain : ∀ eventType, event.eventType = some eventType →
      isEventFromPackage eventType setup.groupsPackageId = true → ∀ kind : Kind,
      Text.contains eventType kind.marker = false)
    :
    parseMysoEvent setup.bcs event setup.groupsPackageId = none := by
  unfold parseMysoEvent
  cases found : event.eventType with
  | none => rfl
  | some eventType =>
    simp only [Option.bind_eq_bind, Option.bind_some]
    split_ifs with fromPackage
    · rw [kindOf_eq_none (plain eventType found fromPackage)]
      cases event.contents <;> rfl
    · rfl

theorem membership_deliver_emission (context : MembershipSync.EventContext)
    (stores : MembershipSync.Stores) (plain : Plain setup (.emit context emission)) :
    (deliver setup context stores emission.event).membership =
      MembershipSync.apply setup.sync stores.membership emission.change.report := by
  rw [deliver, parse_emission plain]
  exact MembershipSync.membership_applyEvent setup.sync context stores emission.change.report

theorem deliver_other (context : MembershipSync.EventContext) (stores : MembershipSync.Stores)
    (plain : Plain setup (.other context event)) :
    deliver setup context stores event = stores := by
  rw [deliver, parse_other plain]

theorem fromTypeName_ownType (permission : MessagingPermission) :
    MessagingPermission.fromTypeName (setup.ownType permission) = some permission := by
  refine MessagingPermission.fromTypeName_of_segment ?_
  have noColon : ':' ∉ (Hex.encode setup.messagingPackage).toList :=
    fun member => absurd (Hex.mem_encode member) (by decide)
  have shape : (setup.ownType permission).toList =
      (Hex.encode setup.messagingPackage).toList ++ ':' :: ':' ::
        ("messaging".toList ++ ':' :: ':' :: permission.asStr.toList) := by
    simp [Setup.ownType]
  have inModule : ':' ∉ "messaging".toList := by decide
  rw [Text.lastPathSegment, shape, Text.pathSegments_append noColon,
    Text.pathSegments_append inModule,
    Text.pathSegments_of_not_mem permission.asStr_plain]
  exact String.ofList_toList

theorem mem_filter_of_ownType {types : List String} {permission : MessagingPermission}
    (own : setup.ownType permission ∈ types) :
    permission ∈ filterMessagingPermissions types :=
  List.mem_filterMap.mpr ⟨_, own, fromTypeName_ownType permission⟩

theorem formatId_eq_iff (wantedGroup wantedMember groupId member : Bytes) :
    (formatId wantedGroup = formatId groupId ∧ formatId wantedMember = formatId member) ↔
      (wantedGroup = groupId ∧ wantedMember = member) := by
  rw [formatId_injective.eq_iff, formatId_injective.eq_iff]

/-! ## The invariant -/

/-- What the agreement comes from: the permission test, and two facts about the store
that no event can break. -/
structure Tracks (setup : Setup) (world : World) : Prop where
  hasPermission : ∀ groupId member permission,
    MembershipSync.isSystemObject (formatId member) setup.sync.systemObjectAddrs = false →
      (world.stores.membership.hasPermission (formatId groupId) (formatId member)
          permission = true ↔
        setup.ownType permission ∈ world.held groupId member)
  indexed : world.stores.membership.Indexed
  onlyIds : ∀ groupId address permission,
    world.stores.membership.hasPermission groupId address permission = true →
      ∃ group member, groupId = formatId group ∧ address = formatId member

theorem Tracks.agrees (tracks : Tracks setup world) : Agrees setup world := by
  have isMember : ∀ groupId member,
      MembershipSync.isSystemObject (formatId member) setup.sync.systemObjectAddrs = false →
        (world.stores.membership.isMember (formatId groupId) (formatId member) = true ↔
          ∃ permission, setup.ownType permission ∈ world.held groupId member) := by
    intro groupId member ordinary
    rw [MembershipStore.isMember_iff]
    exact exists_congr fun permission => tracks.hasPermission groupId member permission ordinary
  refine ⟨tracks.hasPermission, isMember, ?_, ?_, ?_⟩
  · intro groupId member ordinary
    rw [MembershipStore.mem_listMemberAddresses]
    exact isMember groupId member ordinary
  · intro groupId member ordinary
    rw [tracks.indexed]
    exact isMember groupId member ordinary
  · intro groupId address recorded
    obtain ⟨permission, holds⟩ := (MembershipStore.isMember_iff _ _ _).mp recorded
    exact tracks.onlyIds groupId address permission holds

theorem tracks_start (storage : InMemoryStorage) (nextId : Uuid) :
    Tracks setup (start storage nextId) := by
  refine ⟨?_, MembershipStore.indexed_new, ?_⟩
  · intro groupId member permission ordinary
    simp [start, MembershipStore.new, MembershipStore.hasPermission, MembershipStore.permissions?]
  · intro groupId address permission holds
    simp [start, MembershipStore.new, MembershipStore.hasPermission,
      MembershipStore.permissions?] at holds

theorem onlyIds_apply (config : MembershipSync.Config)
    (onlyIds : ∀ groupId address permission, store.hasPermission groupId address permission = true →
      ∃ group member, groupId = formatId group ∧ address = formatId member)
    (change : Change) (groupId address : String) (permission : MessagingPermission)
    (holds : (MembershipSync.apply config store change.report).hasPermission groupId address
      permission = true)
    :
    ∃ group member, groupId = formatId group ∧ address = formatId member := by
  cases change with
  | granted group member =>
    rcases (MembershipStore.hasPermission_grantPermissions ..).mp holds with
      earlier | ⟨⟨sameGroup, sameMember⟩, -⟩
    · exact onlyIds groupId address permission earlier
    · exact ⟨group, member, sameGroup, sameMember⟩
  | revoked =>
    exact onlyIds groupId address permission
      ((MembershipSync.hasPermission_apply_revoked ..).mp holds).1
  | added =>
    exact onlyIds groupId address permission
      ((MembershipSync.hasPermission_apply_added ..).mp holds)
  | removed =>
    simp only [Change.report, MembershipSync.apply] at holds
    split_ifs at holds
    · exact onlyIds groupId address permission holds
    · exact onlyIds groupId address permission
        ((MembershipStore.hasPermission_removeMember ..).mp holds).1

theorem hasPermission_change {held : Held} {change : Change} (own : NamesOwn setup held change)
    (before : ∀ groupId member permission,
      MembershipSync.isSystemObject (formatId member) setup.sync.systemObjectAddrs = false →
      (store.hasPermission (formatId groupId) (formatId member) permission = true ↔
      setup.ownType permission ∈ held groupId member))
    (groupId member : Bytes) (permission : MessagingPermission)
    (ordinary : MembershipSync.isSystemObject
      (formatId member) setup.sync.systemObjectAddrs = false)
    :
    (MembershipSync.apply setup.sync store change.report).hasPermission (formatId groupId)
        (formatId member) permission = true ↔
      setup.ownType permission ∈ change.apply held groupId member := by
  have earlier := before groupId member permission ordinary
  cases change with
  | granted =>
    refine (MembershipStore.hasPermission_grantPermissions ..).trans ?_
    rw [formatId_eq_iff, earlier, Change.apply]
    split_ifs with here
    · obtain ⟨rfl, rfl⟩ := here
      rw [Finset.mem_union, List.mem_toFinset]
      constructor
      · rintro (holds | ⟨-, named⟩)
        · exact .inl holds
        · exact own ordinary permission named
      · rintro (holds | listed)
        · exact .inl holds
        · exact .inr ⟨⟨rfl, rfl⟩, mem_filter_of_ownType listed⟩
    · simp [here]
  | revoked =>
    refine (MembershipSync.hasPermission_apply_revoked ..).trans ?_
    rw [formatId_eq_iff, earlier, Change.apply]
    split_ifs with here
    · obtain ⟨rfl, rfl⟩ := here
      rw [Finset.mem_sdiff, List.mem_toFinset]
      constructor
      · rintro ⟨holds, notNamed⟩
        exact ⟨holds, fun listed => notNamed ⟨⟨rfl, rfl⟩, mem_filter_of_ownType listed⟩⟩
      rintro ⟨holds, notListed⟩
      refine ⟨holds, ?_⟩
      rintro ⟨-, named⟩
      rcases own ordinary permission named with absent | listed
      · exact absent holds
      · exact notListed listed
    · simp [here]
  | added => exact (MembershipSync.hasPermission_apply_added ..).trans earlier
  | removed =>
    simp only [Change.report, MembershipSync.apply, Change.apply]
    split_ifs with system here here
    · -- a system object is never removed, and the test is not about one
      rw [here.2] at ordinary
      exact absurd (system.symm.trans ordinary) (by decide)
    · exact earlier
    · rw [MembershipStore.hasPermission_removeMember, formatId_eq_iff]
      simp [here]
    · rw [MembershipStore.hasPermission_removeMember, formatId_eq_iff, earlier]
      simp [here]

theorem tracks_step (world : World) (input : Input setup) (tracks : Tracks setup world)
    (good : Good setup world input) : Tracks setup (step setup world input) := by
  obtain ⟨plain, own⟩ := good
  cases input with
  | other context =>
    simp only [step, deliver_other context world.stores plain]
    exact tracks
  | emit context emission =>
    have after := membership_deliver_emission context world.stores plain
    refine ⟨?_, ?_, ?_⟩
    · intro groupId member permission ordinary
      simp only [step, after]
      exact hasPermission_change own tracks.hasPermission groupId member permission ordinary
    · simp only [step, after]
      exact MembershipSync.indexed_apply setup.sync tracks.indexed emission.change.report
    · intro groupId address permission holds
      simp only [step, after] at holds
      exact onlyIds_apply setup.sync tracks.onlyIds emission.change groupId address permission holds

theorem namesOwn_of_agrees {context : MembershipSync.EventContext}
    (plain : Plain setup (.emit context emission))
    (after : Agrees setup (step setup world (.emit context emission))) :
    NamesOwn setup world.held emission.change := by
  have delivered := membership_deliver_emission context world.stores plain
  have tests := after.hasPermission
  simp only [step, delivered] at tests
  generalize emission.change = change at tests
  cases change with
  | granted group target =>
    intro ordinary permission named
    have granted := (tests group target permission ordinary).mp
      ((MembershipStore.hasPermission_grantPermissions ..).mpr (.inr ⟨⟨rfl, rfl⟩, named⟩))
    simpa [Change.apply] using granted
  | revoked group target =>
    intro ordinary permission named
    by_contra kept
    obtain ⟨holds, notListed⟩ := not_or.mp kept
    have still := (tests group target permission ordinary).mpr
      (by simpa [Change.apply] using ⟨not_not.mp holds, notListed⟩)
    exact ((MembershipSync.hasPermission_apply_revoked ..).mp still).2 ⟨⟨rfl, rfl⟩, named⟩
  | added | removed => exact trivial

/-! ## Runs -/

/-- **Relayer permissions refine on-chain permissions, for names of the package's own.**
In every run whose steps meet the condition the relayer agrees with the chain after every
step; and a run over events of plain type in which the two agree after every step meets
the condition at each. -/
theorem membership_refines_chain (setup : Setup) (storage : InMemoryStorage) (nextId : Uuid)
    (inputs : List (Input setup)) :
    (Along (step setup) (Good setup) (start storage nextId) inputs →
      ∀ reached, reached <+: inputs →
        Agrees setup (reached.foldl (step setup) (start storage nextId))) ∧
    ((∀ input ∈ inputs, Plain setup input) →
      (∀ reached, reached <+: inputs →
        Agrees setup (reached.foldl (step setup) (start storage nextId))) →
      Along (step setup) (Good setup) (start storage nextId) inputs) := by
  constructor
  · rintro along before ⟨rest, rfl⟩
    have first := ((Along.append (start storage nextId) before rest).mp along).1
    exact (Along.invariant tracks_step first (tracks_start storage nextId)).agrees
  intro plain agree
  by_contra fails
  obtain ⟨before, input, after, rfl, -, bad⟩ := Along.exists_first_failure fails
  have plainHere := plain input (by simp)
  refine bad ⟨plainHere, ?_⟩
  cases input with
  | other => exact trivial
  | emit context emission =>
    refine namesOwn_of_agrees plainHere ?_
    have next := agree (before ++ [.emit context emission]) ⟨after, by simp⟩
    rwa [List.foldl_append] at next

/-! ### A run, and a name that is not the package's own -/

/-- A group, a member and the two packages, by one repeated byte each. -/
def sampleGroup : Bytes := List.replicate 32 0x33

def sampleMember : Bytes := List.replicate 32 0x44

def samplePermissions (typeName : String) : Bytes :=
  sampleGroup ++ sampleMember ++ [1, UInt8.ofNat (Text.utf8 typeName).length] ++ Text.utf8 typeName

/-- `PermissionType::MessagingSender` of the package with the id `0x88…88`. -/
def ownSender : String := Hex.encode (List.replicate 32 0x88) ++ "::messaging::MessagingSender"

/-- A struct of the same name, published by somebody else. -/
def foreignSender : String := Hex.encode (List.replicate 32 0xee) ++ "::evil::MessagingSender"

/-- `bcs::from_bytes` on the two samples. -/
def sampleBcs : Bcs where
  memberEvent _ := none
  permissionsEvent bytes :=
    if bytes = samplePermissions ownSender then some ⟨sampleGroup, sampleMember, [ownSender]⟩
    else if bytes = samplePermissions foreignSender then
      some ⟨sampleGroup, sampleMember, [foreignSender]⟩
    else none

def sampleSetup : Setup where
  sync := { systemObjectAddrs := [], backfillMax := 0, blake2b512 := fun _ => [] }
  bcs := sampleBcs
  groupsPackage := List.replicate 32 0x77
  messagingPackage := List.replicate 32 0x88
  groupsPackageId := formatId (List.replicate 32 0x77)
  names := rfl

def sampleContext : MembershipSync.EventContext where
  txDigest := "digest"
  eventIndex := 0
  txSender := ""
  checkpointTs := 0

/-- A grant of the package's own sender type, in a messaging group. -/
def grantOwn : Emission sampleSetup where
  change := .granted sampleGroup sampleMember [ownSender]
  witness := formatId (List.replicate 32 0x88) ++ "::messaging::Messaging"
  contents := samplePermissions ownSender
  encoded :=
    show sampleBcs.permissionsEvent _ = some ⟨sampleGroup, sampleMember, [ownSender]⟩ by
      decide +kernel

/-- The grant of a foreign type of that name, which any admin of a group can make. -/
def grantForeign : Emission sampleSetup where
  change := .granted sampleGroup sampleMember [foreignSender]
  witness := formatId (List.replicate 32 0x88) ++ "::messaging::Messaging"
  contents := samplePermissions foreignSender
  encoded :=
    show sampleBcs.permissionsEvent _ = some ⟨sampleGroup, sampleMember, [foreignSender]⟩ by
      decide +kernel

theorem good_grantOwn :
    Good sampleSetup (start .new 0) (.emit sampleContext grantOwn) := by
  have own : ∀ permission ∈ filterMessagingPermissions [ownSender],
      sampleSetup.ownType permission ∈ [ownSender] := by
    decide +kernel
  refine ⟨?_, fun _ permission named => .inr (own permission named)⟩
  intro earlier tested
  exact absurd tested List.not_mem_nil

theorem membership_refines_chain_grant :
    Agrees sampleSetup (step sampleSetup (start .new 0) (.emit sampleContext grantOwn)) :=
  (membership_refines_chain sampleSetup .new 0 [.emit sampleContext grantOwn]).1
    ⟨good_grantOwn, trivial⟩ [.emit sampleContext grantOwn] (List.prefix_refl _)

/-- **A permission type of another package is taken for the messaging package's own.**
After the grant the relayer lets the member send, who holds no messaging permission. -/
theorem foreign_grant_admits :
    ¬Agrees sampleSetup (step sampleSetup (start .new 0) (.emit sampleContext grantForeign)) := by
  intro agrees
  have ordinary : MembershipSync.isSystemObject (formatId sampleMember)
      sampleSetup.sync.systemObjectAddrs = false := rfl
  have named : .messagingSender ∈ filterMessagingPermissions [foreignSender] := by decide +kernel
  have plain : Plain sampleSetup (.emit sampleContext grantForeign) :=
    fun _ tested => absurd tested List.not_mem_nil
  have admitted : (step sampleSetup (start .new 0)
      (.emit sampleContext grantForeign)).stores.membership.hasPermission
        (formatId sampleGroup) (formatId sampleMember) .messagingSender = true := by
    rw [step, membership_deliver_emission sampleContext _ plain]
    exact (MembershipStore.hasPermission_grantPermissions ..).mpr (.inr ⟨⟨rfl, rfl⟩, named⟩)
  have notHeld : sampleSetup.ownType .messagingSender ∉ ∅ ∪ [foreignSender].toFinset := by
    decide +kernel
  exact notHeld ((agrees.hasPermission _ _ _ ordinary).mp admitted)

end MessagingStack.Relayer.ChainPermissions

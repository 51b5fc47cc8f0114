import Mathlib.Data.Finset.Basic
import MessagingStack.Base.OrderedMap

/-!
# Group membership

The relayer's view of who may do what in a group (`auth/permissions.rs`,
`auth/membership.rs`): for every group the members with their messaging permissions, and
a reverse index from a wallet to the groups in which its permission set is not empty.
A member can be recorded with no permission at all: `MemberAdded` does that, and grants
follow in events of their own.
-/

namespace MessagingStack.Relayer

/-- Messaging-specific permissions from the Groups SDK. -/
inductive MessagingPermission where
  | messagingSender
  | messagingReader
  | messagingEditor
  | messagingDeleter
  deriving DecidableEq

inductive MembershipError where
  | memberNotFound (groupId address : String)
  deriving DecidableEq

structure MembershipStore where
  members : OrderedMap String (OrderedMap String (Finset MessagingPermission))
  /-- Reverse index: wallet to groups where it has a non-empty permission set. -/
  memberGroups : OrderedMap String (Finset String)
  deriving DecidableEq

namespace MembershipStore

/-- The store of a fresh process, and of one whose data was cleared. -/
def new : MembershipStore := ⟨.empty, .empty⟩

def clearAll (_ : MembershipStore) : MembershipStore := new

/-- The permission set recorded for a member, if the member is recorded. -/
def permissions? (store : MembershipStore) (groupId address : String) :
    Option (Finset MessagingPermission) :=
  (store.members.get groupId).bind (·.get address)

def hasPermission (store : MembershipStore) (groupId address : String)
    (permission : MessagingPermission) : Bool :=
  (store.permissions? groupId address).any (permission ∈ ·)

def isMember (store : MembershipStore) (groupId address : String) : Bool :=
  (store.permissions? groupId address).any (· ≠ ∅)

/-- All member addresses of a group with a non-empty permission set. -/
def listMemberAddresses (store : MembershipStore) (groupId : String) : List String :=
  match store.members.get groupId with
  | none => []
  | some groupMembers => (groupMembers.entries.filter fun member => member.2 ≠ ∅).map Prod.fst

/-- The groups in which a wallet has a non-empty permission set, by the reverse index. -/
def groupsForMember (store : MembershipStore) (address : String) : Finset String :=
  (store.memberGroups.get address).getD ∅

def setMemberInReverseIndex (memberGroups : OrderedMap String (Finset String))
    (groupId address : String) (isMember : Bool) : OrderedMap String (Finset String) :=
  if isMember then memberGroups.insert address (insert groupId ((memberGroups.get address).getD ∅))
  else
    match memberGroups.get address with
    | none => memberGroups
    | some groups =>
      if groups.erase groupId = ∅ then memberGroups.erase address
      else memberGroups.insert address (groups.erase groupId)

/-- Write one member's permission set, creating the group's entry if absent. -/
def setPermissions (store : MembershipStore) (groupId address : String)
    (permissions : Finset MessagingPermission) : MembershipStore where
  members := store.members.insert groupId
    (((store.members.get groupId).getD .empty).insert address permissions)
  memberGroups := setMemberInReverseIndex store.memberGroups groupId address (permissions ≠ ∅)

def addMember (store : MembershipStore) (groupId address : String)
    (initialPermissions : List MessagingPermission) : MembershipStore :=
  store.setPermissions groupId address
    ((store.permissions? groupId address).getD ∅ ∪ initialPermissions.toFinset)

/-- Grants permissions, creating the group and member entries if absent; an empty grant
changes nothing. -/
def grantPermissions (store : MembershipStore) (groupId address : String)
    (permissions : List MessagingPermission) : MembershipStore :=
  if permissions = [] then store else store.addMember groupId address permissions

/-- Revokes permissions; a group or a member that is not recorded is an error and
changes nothing. -/
def revokePermissions (store : MembershipStore) (groupId address : String)
    (permissions : List MessagingPermission) : Except MembershipError MembershipStore :=
  match store.permissions? groupId address with
  | none => .error (.memberNotFound groupId address)
  | some recorded => .ok (store.setPermissions groupId address (recorded \ permissions.toFinset))

def removeMember (store : MembershipStore) (groupId address : String) : MembershipStore where
  members :=
    match store.members.get groupId with
    | none => store.members
    | some groupMembers => store.members.insert groupId (groupMembers.erase address)
  memberGroups := setMemberInReverseIndex store.memberGroups groupId address false

/-- Forget a group in the whole reverse index; a wallet without groups goes away. -/
def removeGroupFromReverseIndex (memberGroups : OrderedMap String (Finset String))
    (groupId : String) : OrderedMap String (Finset String) :=
  (memberGroups.mapValues (·.erase groupId)).filterKeys fun address =>
    ((memberGroups.get address).getD ∅).erase groupId ≠ ∅

/-- The members a `set_group_members` call writes; of two entries for one address the
later one counts. -/
def groupMembers (membersWithPerms : List (String × List MessagingPermission)) :
    OrderedMap String (Finset MessagingPermission) :=
  membersWithPerms.foldl (fun members entry => members.insert entry.1 entry.2.toFinset) .empty

def setGroupMembers (store : MembershipStore) (groupId : String)
    (membersWithPerms : List (String × List MessagingPermission)) : MembershipStore where
  members := store.members.insert groupId (groupMembers membersWithPerms)
  memberGroups :=
    (groupMembers membersWithPerms).entries.foldl
      (fun memberGroups member =>
        if member.2 = ∅ then memberGroups
        else setMemberInReverseIndex memberGroups groupId member.1 true)
      (removeGroupFromReverseIndex store.memberGroups groupId)

/-! ### Reading after writing -/

@[simp] theorem permissions?_setGroupMembers (store : MembershipStore) (groupId : String)
    (membersWithPerms : List (String × List MessagingPermission))
    (wantedGroup wantedAddress : String) :
    (store.setGroupMembers groupId membersWithPerms).permissions? wantedGroup wantedAddress =
      if wantedGroup = groupId then (groupMembers membersWithPerms).get wantedAddress
      else store.permissions? wantedGroup wantedAddress := by
  simp only [setGroupMembers, permissions?, OrderedMap.get_insert]
  split_ifs with sameGroup
  · rfl
  · rfl

@[simp] theorem permissions?_setPermissions (store : MembershipStore)
    (groupId address : String) (permissions : Finset MessagingPermission)
    (wantedGroup wantedAddress : String) :
    (store.setPermissions groupId address permissions).permissions? wantedGroup wantedAddress =
      if wantedGroup = groupId ∧ wantedAddress = address then some permissions
      else store.permissions? wantedGroup wantedAddress := by
  simp only [setPermissions, permissions?, OrderedMap.get_insert]
  by_cases sameGroup : wantedGroup = groupId
  · subst sameGroup
    by_cases sameAddress : wantedAddress = address
    · simp [sameAddress]
    · cases store.members.get wantedGroup <;> simp [sameAddress]
  · simp [sameGroup]

@[simp] theorem permissions?_removeMember (store : MembershipStore)
    (groupId address wantedGroup wantedAddress : String) :
    (store.removeMember groupId address).permissions? wantedGroup wantedAddress =
      if wantedGroup = groupId ∧ wantedAddress = address then none
      else store.permissions? wantedGroup wantedAddress := by
  simp only [removeMember, permissions?]
  cases found : store.members.get groupId with
  | none =>
    by_cases sameGroup : wantedGroup = groupId
    · simp [sameGroup, found]
    · simp [sameGroup]
  | some =>
    by_cases sameGroup : wantedGroup = groupId
    · subst sameGroup
      by_cases sameAddress : wantedAddress = address <;> simp [sameAddress, found]
    · simp [sameGroup]

/-! ### The reverse index -/

theorem mem_setMemberInReverseIndex (memberGroups : OrderedMap String (Finset String))
    (groupId address : String) (isMember : Bool) (wantedGroup wantedAddress : String) :
    wantedGroup ∈
        ((setMemberInReverseIndex memberGroups groupId address isMember).get wantedAddress).getD ∅ ↔
      if wantedGroup = groupId ∧ wantedAddress = address then isMember = true
      else wantedGroup ∈ (memberGroups.get wantedAddress).getD ∅ := by
  by_cases sameAddress : wantedAddress = address
  · subst sameAddress
    cases isMember with
    | true =>
      by_cases sameGroup : wantedGroup = groupId <;> simp [setMemberInReverseIndex, sameGroup]
    | false =>
      cases found : memberGroups.get wantedAddress with
      | none => simp [setMemberInReverseIndex, found]
      | some groups =>
        by_cases last : groups.erase groupId = ∅
        · -- the entry goes away with its last group
          have only : wantedGroup ∈ groups → wantedGroup = groupId := by
            intro member
            by_contra differs
            exact absurd (Finset.mem_erase.mpr ⟨differs, member⟩) (by simp [last])
          by_cases sameGroup : wantedGroup = groupId
          · simp [setMemberInReverseIndex, found, last, sameGroup]
          · have absent : wantedGroup ∉ groups := fun member => sameGroup (only member)
            simp [setMemberInReverseIndex, found, last, sameGroup, absent]
        · by_cases sameGroup : wantedGroup = groupId <;>
            simp [setMemberInReverseIndex, found, last, sameGroup]
  cases isMember with
  | true => simp [setMemberInReverseIndex, sameAddress]
  | false =>
    simp only [setMemberInReverseIndex, sameAddress, and_false, if_false]
    cases found : memberGroups.get address with
    | none => simp
    | some groups => by_cases last : groups.erase groupId = ∅ <;> simp [last, sameAddress]

/-- The reverse index lists for every wallet the groups in which it is a member. -/
def Indexed (store : MembershipStore) : Prop :=
  ∀ groupId address, groupId ∈ store.groupsForMember address ↔ store.isMember groupId address = true

theorem indexed_new : Indexed new := by
  intro groupId address
  simp [new, groupsForMember, isMember, permissions?]

variable {store : MembershipStore}

theorem indexed_setPermissions (indexed : Indexed store) (groupId address : String)
    (permissions : Finset MessagingPermission) :
    Indexed (store.setPermissions groupId address permissions) := by
  intro wantedGroup wantedAddress
  have index := mem_setMemberInReverseIndex store.memberGroups groupId address
    (permissions ≠ ∅) wantedGroup wantedAddress
  rw [isMember, permissions?_setPermissions]
  refine index.trans ?_
  by_cases here : wantedGroup = groupId ∧ wantedAddress = address
  · simp [here]
  · simp only [if_neg here]
    exact indexed wantedGroup wantedAddress

theorem indexed_removeMember (indexed : Indexed store) (groupId address : String) :
    Indexed (store.removeMember groupId address) := by
  intro wantedGroup wantedAddress
  have index := mem_setMemberInReverseIndex store.memberGroups groupId address false
    wantedGroup wantedAddress
  rw [isMember, permissions?_removeMember]
  refine index.trans ?_
  by_cases here : wantedGroup = groupId ∧ wantedAddress = address
  · simp [here]
  · simp only [if_neg here]
    exact indexed wantedGroup wantedAddress

theorem mem_removeGroupFromReverseIndex (memberGroups : OrderedMap String (Finset String))
    (groupId wantedGroup wantedAddress : String) :
    wantedGroup ∈
        ((removeGroupFromReverseIndex memberGroups groupId).get wantedAddress).getD ∅ ↔
      wantedGroup ≠ groupId ∧ wantedGroup ∈ (memberGroups.get wantedAddress).getD ∅ := by
  rw [removeGroupFromReverseIndex, OrderedMap.get_filterKeys, OrderedMap.get_mapValues]
  cases found : memberGroups.get wantedAddress with
  | none => simp
  | some =>
    simp only [Option.getD_some, decide_eq_true_eq, Option.map_some]
    split_ifs with others
    · simp
    have noOther := not_not.mp others
    constructor
    · intro absurdity
      exact absurd absurdity (Finset.notMem_empty wantedGroup)
    · intro member
      exact absurd (Finset.mem_erase.mpr member) (by simp [noOther])

theorem mem_recordMembers (groupId : String)
    (members : List (String × Finset MessagingPermission))
    (memberGroups : OrderedMap String (Finset String)) (wantedGroup wantedAddress : String) :
    wantedGroup ∈ ((members.foldl
        (fun memberGroups member =>
          if member.2 = ∅ then memberGroups
          else setMemberInReverseIndex memberGroups groupId member.1 true)
        memberGroups).get wantedAddress).getD ∅ ↔
      wantedGroup ∈ (memberGroups.get wantedAddress).getD ∅ ∨
        wantedGroup = groupId ∧
          ∃ permissions, (wantedAddress, permissions) ∈ members ∧ permissions ≠ ∅ := by
  induction members generalizing memberGroups with
  | nil => simp
  | cons member rest ih =>
    obtain ⟨address, permissions⟩ := member
    rw [List.foldl_cons, ih]
    by_cases nothing : permissions = ∅
    · have skipped : ∀ recorded : Finset MessagingPermission,
          (recorded = permissions ∧ recorded ≠ ∅) ↔ False := by
        rintro recorded
        simp only [iff_false, not_and, not_not]
        rintro rfl
        exact nothing
      simp only [if_pos nothing, List.mem_cons, Prod.mk.injEq, or_and_right, and_assoc,
        skipped, and_false, false_or]
    simp only [if_neg nothing, mem_setMemberInReverseIndex, List.mem_cons, Prod.mk.injEq]
    by_cases here : wantedGroup = groupId ∧ wantedAddress = address
    · obtain ⟨rfl, rfl⟩ := here
      simp only [and_self, if_true, true_or, true_iff, true_and]
      exact .inr ⟨permissions, .inl rfl, nothing⟩
    rw [if_neg here]
    refine or_congr_right (and_congr_right fun sameGroup => ?_)
    have otherAddress : wantedAddress ≠ address := fun same => here ⟨sameGroup, same⟩
    simp [otherAddress]

theorem indexed_setGroupMembers (indexed : Indexed store) (groupId : String)
    (membersWithPerms : List (String × List MessagingPermission)) :
    Indexed (store.setGroupMembers groupId membersWithPerms) := by
  intro wantedGroup wantedAddress
  have index := mem_recordMembers groupId (groupMembers membersWithPerms).entries
    (removeGroupFromReverseIndex store.memberGroups groupId) wantedGroup wantedAddress
  rw [mem_removeGroupFromReverseIndex] at index
  rw [isMember, permissions?_setGroupMembers]
  refine index.trans ?_
  by_cases sameGroup : wantedGroup = groupId
  · subst sameGroup
    simp only [ne_eq, not_true_eq_false, false_and, false_or, true_and, if_true,
      Option.any_eq_true, decide_eq_true_eq]
    refine exists_congr fun permissions => and_congr_left fun _ => ?_
    exact OrderedMap.mem_entries_iff (groupMembers membersWithPerms) (wantedAddress, permissions)
  · simp only [sameGroup, ne_eq, not_false_eq_true, true_and, false_and, or_false, if_false]
    exact indexed wantedGroup wantedAddress

theorem mem_listMemberAddresses (store : MembershipStore) (groupId address : String) :
    address ∈ store.listMemberAddresses groupId ↔ store.isMember groupId address = true := by
  unfold listMemberAddresses isMember permissions?
  cases found : store.members.get groupId with
  | none => simp
  | some groupMembers =>
    simp only [List.mem_map, List.mem_filter, decide_eq_true_eq, Option.bind_some,
      Option.any_eq_true]
    constructor
    · rintro ⟨⟨name, permissions⟩, ⟨member, nonempty⟩, rfl⟩
      exact ⟨permissions, groupMembers.get_of_mem_entries member, by simpa using nonempty⟩
    · rintro ⟨permissions, recorded, nonempty⟩
      exact ⟨(address, permissions), ⟨groupMembers.mem_entries_of_get recorded, by
        simpa using nonempty⟩, rfl⟩

/-! ### Permission tests after writing -/

theorem hasPermission_setPermissions (store : MembershipStore) (groupId address : String)
    (permissions : Finset MessagingPermission) (wantedGroup wantedAddress : String)
    (permission : MessagingPermission) :
    (store.setPermissions groupId address permissions).hasPermission wantedGroup
        wantedAddress permission = true ↔
      if wantedGroup = groupId ∧ wantedAddress = address then permission ∈ permissions
      else store.hasPermission wantedGroup wantedAddress permission = true := by
  rw [hasPermission, permissions?_setPermissions]
  split_ifs with here
  · simp
  · rfl

theorem mem_permissions_iff (store : MembershipStore) (groupId address : String)
    (permission : MessagingPermission) :
    permission ∈ (store.permissions? groupId address).getD ∅ ↔
      store.hasPermission groupId address permission = true := by
  rw [hasPermission]
  cases store.permissions? groupId address <;> simp

theorem isMember_iff (store : MembershipStore) (groupId address : String) :
    store.isMember groupId address = true ↔
      ∃ permission, store.hasPermission groupId address permission = true := by
  simp only [isMember, hasPermission]
  cases store.permissions? groupId address with
  | none => simp
  | some =>
    simp only [Option.any_some, decide_eq_true_eq]
    exact Finset.nonempty_iff_ne_empty.symm

theorem hasPermission_addMember (store : MembershipStore) (groupId address : String)
    (permissions : List MessagingPermission) (wantedGroup wantedAddress : String)
    (permission : MessagingPermission) :
    (store.addMember groupId address permissions).hasPermission wantedGroup wantedAddress
        permission = true ↔
      store.hasPermission wantedGroup wantedAddress permission = true ∨
        (wantedGroup = groupId ∧ wantedAddress = address) ∧ permission ∈ permissions := by
  rw [addMember, hasPermission_setPermissions]
  split_ifs with here
  · obtain ⟨rfl, rfl⟩ := here
    simp [mem_permissions_iff]
  · simp [here]

theorem hasPermission_grantPermissions (store : MembershipStore) (groupId address : String)
    (permissions : List MessagingPermission) (wantedGroup wantedAddress : String)
    (permission : MessagingPermission) :
    (store.grantPermissions groupId address permissions).hasPermission wantedGroup
        wantedAddress permission = true ↔
      store.hasPermission wantedGroup wantedAddress permission = true ∨
        (wantedGroup = groupId ∧ wantedAddress = address) ∧ permission ∈ permissions := by
  rw [grantPermissions]
  split_ifs with nothing
  · simp [nothing]
  · exact hasPermission_addMember store groupId address permissions wantedGroup
      wantedAddress permission

theorem hasPermission_removeMember (store : MembershipStore)
    (groupId address wantedGroup wantedAddress : String) (permission : MessagingPermission) :
    (store.removeMember groupId address).hasPermission wantedGroup wantedAddress
        permission = true ↔
      store.hasPermission wantedGroup wantedAddress permission = true ∧
        ¬(wantedGroup = groupId ∧ wantedAddress = address) := by
  rw [hasPermission, permissions?_removeMember]
  split_ifs with here
  · simp [here]
  · simp [here, hasPermission]

end MembershipStore

end MessagingStack.Relayer

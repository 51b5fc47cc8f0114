import MessagingStack.Relayer.EventParser
import MessagingStack.Relayer.MembershipReplay

/-!
# The Postgres membership store

`auth/membership_postgres.rs`: an in-memory store answers every read, and each mutation is
written to the table `membership_permissions` after it was made in memory.  An error of the
database is logged by `run_db` and goes no further, whatever was written up to then; the
caller goes on as if it had succeeded.  The checkpoint cursor is one more row, written
after the events of a checkpoint.
-/

namespace MessagingStack.Relayer

def permissionFromDb (text : String) : Option MessagingPermission :=
  match text with
  | "MessagingSender" => some .messagingSender
  | "MessagingReader" => some .messagingReader
  | "MessagingEditor" => some .messagingEditor
  | "MessagingDeleter" => some .messagingDeleter
  | _ => none

theorem permissionFromDb_eq_some_iff (text : String) (permission : MessagingPermission) :
    permissionFromDb text = some permission ↔ text = permission.asStr := by
  constructor
  · intro parsed
    unfold permissionFromDb at parsed
    split at parsed <;> cases parsed <;> rfl
  · rintro rfl
    cases permission <;> rfl

namespace PostgresMembership

/-- A row of `membership_permissions` by its primary key; nothing reads `updated_at`. -/
structure Row where
  groupId : String
  address : String
  permission : String
  deriving DecidableEq

/-- What the database holds. -/
structure Db where
  rows : List Row
  /-- `last_cursor` of `membership_sync_state`. -/
  lastCursor : Option Nat
  deriving DecidableEq

/-- The tables as the migrations create them. -/
def Db.new : Db := ⟨[], none⟩

/-! ## Loading -/

def collectRow (byGroup : OrderedMap String (OrderedMap String (Finset MessagingPermission)))
    (row : Row) : OrderedMap String (OrderedMap String (Finset MessagingPermission)) :=
  match permissionFromDb row.permission with
  | none => byGroup
  | some permission =>
    let members := (byGroup.get row.groupId).getD .empty
    byGroup.insert row.groupId
      (members.insert row.address (insert permission ((members.get row.address).getD ∅)))

def permissionList (permissions : Finset MessagingPermission) : List MessagingPermission :=
  [.messagingSender, .messagingReader, .messagingEditor, .messagingDeleter].filter (· ∈ permissions)

def loadFromDb (rows : List Row) : MembershipStore :=
  (rows.foldl collectRow .empty).entries.foldl
    (fun store group =>
      store.setGroupMembers group.1
        (group.2.entries.map fun member => (member.1, permissionList member.2)))
    .new

/-! ## Statements -/

/-- The statements of the store's writes. -/
inductive Statement where
  | insertPermission (row : Row)
  | deletePermission (row : Row)
  | deleteMember (groupId address : String)
  | saveCursor (cursor : Nat)
  | truncate
  | clearCursor
  deriving DecidableEq

def Statement.run (db : Db) : Statement → Db
  | .insertPermission row =>
    -- on a conflict only `updated_at` changes
    if row ∈ db.rows then db else { db with rows := db.rows ++ [row] }
  | .deletePermission row => { db with rows := db.rows.filter (· ≠ row) }
  | .deleteMember groupId address =>
    { db with rows := db.rows.filter fun row => ¬(row.groupId = groupId ∧ row.address = address) }
  | .saveCursor cursor => { db with lastCursor := some cursor }
  | .truncate => { db with rows := [] }
  | .clearCursor => { db with lastCursor := none }

/-! ## The operations of the store

Each gives the in-memory store after it and the statements it runs. -/

def grantPermissions (inner : MembershipStore) (groupId address : String)
    (permissions : List MessagingPermission) : MembershipStore × List Statement :=
  (inner.grantPermissions groupId address permissions,
    permissions.map fun permission => .insertPermission ⟨groupId, address, permission.asStr⟩)

/-- A revocation for a member that is not recorded runs no statement. -/
def revokePermissions (inner : MembershipStore) (groupId address : String)
    (permissions : List MessagingPermission) : MembershipStore × List Statement :=
  match inner.revokePermissions groupId address permissions with
  | .error _ => (inner, [])
  | .ok after =>
    (after,
      permissions.map fun permission => .deletePermission ⟨groupId, address, permission.asStr⟩)

def addMember (inner : MembershipStore) (groupId address : String)
    (permissions : List MessagingPermission) : MembershipStore × List Statement :=
  (inner.addMember groupId address permissions,
    permissions.map fun permission => .insertPermission ⟨groupId, address, permission.asStr⟩)

def removeMember (inner : MembershipStore) (groupId address : String) :
    MembershipStore × List Statement :=
  (inner.removeMember groupId address, [.deleteMember groupId address])

def clearAll (inner : MembershipStore) : MembershipStore × List Statement :=
  (inner.clearAll, [.truncate, .clearCursor])

def applyEvent (config : MembershipSync.Config) (inner : MembershipStore) :
    GroupsEvent → MembershipStore × List Statement
  | .memberAdded groupId member =>
    if MembershipSync.isSystemObject member config.systemObjectAddrs then (inner, [])
    else addMember inner groupId member []
  | .memberRemoved groupId member =>
    if MembershipSync.isSystemObject member config.systemObjectAddrs then (inner, [])
    else removeMember inner groupId member
  | .permissionsGranted groupId member permissions =>
    grantPermissions inner groupId member permissions
  | .permissionsRevoked groupId member permissions =>
    revokePermissions inner groupId member permissions

theorem applyEvent_fst (config : MembershipSync.Config) (inner : MembershipStore)
    (event : GroupsEvent) :
    (applyEvent config inner event).1 = MembershipSync.apply config inner event := by
  cases event with
  | memberAdded =>
    simp only [applyEvent, MembershipSync.apply, addMember]
    split_ifs <;> rfl
  | memberRemoved =>
    simp only [applyEvent, MembershipSync.apply, removeMember]
    split_ifs <;> rfl
  | permissionsGranted => rfl
  | permissionsRevoked groupId member permissions =>
    simp only [applyEvent, MembershipSync.apply, revokePermissions]
    cases inner.revokePermissions groupId member permissions <;> rfl

/-! ## The table and the store -/

def Mirrors (rows : List Row) (store : MembershipStore) : Prop :=
  ∀ groupId address permission,
    ⟨groupId, address, permission.asStr⟩ ∈ rows ↔
      store.hasPermission groupId address permission = true

theorem asStr_injective : Function.Injective MessagingPermission.asStr := by
  intro left right same
  have parsed := (permissionFromDb_eq_some_iff left.asStr left).mpr rfl
  rw [same, (permissionFromDb_eq_some_iff right.asStr right).mpr rfl] at parsed
  exact (Option.some.inj parsed).symm

theorem mirrors_new : Mirrors [] .new := by
  intro groupId address permission
  simp [MembershipStore.new, MembershipStore.hasPermission, MembershipStore.permissions?]

variable (rows : List Row) (groupId address : String)

theorem mem_rows_insertPermissions (permissions : List MessagingPermission) (db : Db) (row : Row) :
    row ∈ ((permissions.map fun permission =>
        Statement.insertPermission ⟨groupId, address, permission.asStr⟩).foldl
          Statement.run db).rows ↔
      row ∈ db.rows ∨ ∃ permission ∈ permissions, row = ⟨groupId, address, permission.asStr⟩ := by
  induction permissions generalizing db with
  | nil => simp
  | cons permission rest ih =>
    rw [List.map_cons, List.foldl_cons, ih, Statement.run]
    split_ifs with present
    · constructor
      · rintro (old | ⟨other, listed, rfl⟩)
        · exact .inl old
        · exact .inr ⟨other, List.mem_cons_of_mem _ listed, rfl⟩
      rintro (old | ⟨other, listed, rfl⟩)
      · exact .inl old
      · rcases List.mem_cons.mp listed with rfl | later
        · exact .inl present
        · exact .inr ⟨other, later, rfl⟩
    · simp only [List.mem_append, List.mem_cons, List.not_mem_nil, or_false, exists_eq_or_imp,
        or_assoc]

theorem mem_rows_deletePermissions (permissions : List MessagingPermission) (db : Db) (row : Row) :
    row ∈ ((permissions.map fun permission =>
        Statement.deletePermission ⟨groupId, address, permission.asStr⟩).foldl
          Statement.run db).rows ↔
      row ∈ db.rows ∧ ¬∃ permission ∈ permissions, row = ⟨groupId, address, permission.asStr⟩ := by
  induction permissions generalizing db with
  | nil => simp
  | cons permission rest ih =>
    rw [List.map_cons, List.foldl_cons, ih]
    simp only [Statement.run, List.mem_filter, decide_eq_true_eq, List.mem_cons,
      exists_eq_or_imp, not_or, and_assoc]

theorem mirrors_insertPermissions {db : Db} {inner after : MembershipStore}
    {groupId address : String} {permissions : List MessagingPermission}
    (mirrors : Mirrors db.rows inner)
    (granted : ∀ wantedGroup wantedAddress permission,
      after.hasPermission wantedGroup wantedAddress permission = true ↔
        inner.hasPermission wantedGroup wantedAddress permission = true ∨
          (wantedGroup = groupId ∧ wantedAddress = address) ∧ permission ∈ permissions) :
    Mirrors ((permissions.map fun permission =>
      Statement.insertPermission ⟨groupId, address, permission.asStr⟩).foldl
        Statement.run db).rows after := by
  intro wantedGroup wantedAddress permission
  rw [mem_rows_insertPermissions, mirrors, granted]
  refine or_congr_right ?_
  constructor
  · rintro ⟨other, listed, same⟩
    obtain ⟨rfl, rfl, names⟩ := Row.mk.inj same
    exact ⟨⟨rfl, rfl⟩, asStr_injective names ▸ listed⟩
  · rintro ⟨⟨rfl, rfl⟩, listed⟩
    exact ⟨permission, listed, rfl⟩

theorem mirrors_applyEvent (config : MembershipSync.Config) {db : Db}
    {inner : MembershipStore} (mirrors : Mirrors db.rows inner) (event : GroupsEvent) :
    Mirrors ((applyEvent config inner event).2.foldl Statement.run db).rows
      (applyEvent config inner event).1 := by
  cases event with
  | memberAdded groupId member =>
    simp only [applyEvent]
    split_ifs
    · exact mirrors
    · exact mirrors_insertPermissions mirrors
        (MembershipStore.hasPermission_addMember inner groupId member [])
  | memberRemoved =>
    simp only [applyEvent]
    split_ifs
    · exact mirrors
    intro wantedGroup wantedAddress permission
    simp only [removeMember, List.foldl_cons, List.foldl_nil, Statement.run, List.mem_filter,
      decide_eq_true_eq, MembershipStore.hasPermission_removeMember,
      mirrors wantedGroup wantedAddress permission]
  | permissionsGranted groupId member permissions =>
    exact mirrors_insertPermissions mirrors
      (MembershipStore.hasPermission_grantPermissions inner groupId member permissions)
  | permissionsRevoked groupId member permissions =>
    have tests := MembershipSync.hasPermission_apply_revoked config inner groupId member permissions
    simp only [MembershipSync.apply] at tests
    simp only [applyEvent, revokePermissions]
    cases revoked : inner.revokePermissions groupId member permissions with
    | error => exact mirrors
    | ok =>
      simp only [revoked] at tests
      intro wantedGroup wantedAddress permission
      rw [mem_rows_deletePermissions, mirrors, tests]
      refine and_congr_right fun _ => not_congr ?_
      constructor
      · rintro ⟨other, listed, same⟩
        obtain ⟨rfl, rfl, names⟩ := Row.mk.inj same
        exact ⟨⟨rfl, rfl⟩, asStr_injective names ▸ listed⟩
      · rintro ⟨⟨rfl, rfl⟩, listed⟩
        exact ⟨permission, listed, rfl⟩

/-! ## What is loaded -/

theorem toFinset_permissionList (permissions : Finset MessagingPermission) :
    (permissionList permissions).toFinset = permissions := by
  refine Finset.ext fun permission => ?_
  rw [List.mem_toFinset, permissionList, List.mem_filter, decide_eq_true_eq]
  refine and_iff_right_of_imp fun _ => ?_
  cases permission <;> simp

theorem get_groupMembers (entries : List (String × Finset MessagingPermission))
    (distinct : (entries.map Prod.fst).Nodup) (address : String) :
    (MembershipStore.groupMembers
      (entries.map fun member => (member.1, permissionList member.2))).get address =
        entries.lookup address := by
  unfold MembershipStore.groupMembers
  have general : ∀ members : OrderedMap String (Finset MessagingPermission),
      ((entries.map fun member => (member.1, permissionList member.2)).foldl
        (fun members entry => members.insert entry.1 entry.2.toFinset) members).get address =
          (entries.lookup address).or (members.get address) := by
    induction entries with
    | nil => intro members; simp
    | cons entry rest ih =>
      intro members
      obtain ⟨notLater, distinct⟩ := List.nodup_cons.mp distinct
      rw [List.map_cons, List.foldl_cons, ih distinct, OrderedMap.get_insert,
        toFinset_permissionList, List.lookup_cons]
      by_cases here : address = entry.1
      · have absent : rest.lookup address = none := by
          rw [OrderedMap.lookup_eq_none_iff, here]
          exact notLater
        have same : (address == entry.1) = true := by simpa using here
        simp only [absent, same, if_pos here, Option.none_or, Option.some_or]
      · have differs : (address == entry.1) = false := by simpa using here
        simp [here, differs]
  rw [general]
  simp

def collected (byGroup : OrderedMap String (OrderedMap String (Finset MessagingPermission)))
    (groupId address : String) : Finset MessagingPermission :=
  (((byGroup.get groupId).getD .empty).get address).getD ∅

theorem mem_collected_row
    (byGroup : OrderedMap String (OrderedMap String (Finset MessagingPermission)))
    (row : Row) (groupId address : String) (permission : MessagingPermission) :
    permission ∈ collected (collectRow byGroup row) groupId address ↔
      permission ∈ collected byGroup groupId address ∨
        row = ⟨groupId, address, permission.asStr⟩ := by
  unfold collectRow
  cases parsed : permissionFromDb row.permission with
  | none =>
    refine (or_iff_left ?_).symm
    rintro rfl
    cases (permissionFromDb_eq_some_iff permission.asStr permission).mpr rfl ▸ parsed
  | some found =>
    have name := (permissionFromDb_eq_some_iff row.permission found).mp parsed
    obtain ⟨rowGroup, rowAddress, rowPermission⟩ := row
    simp only at name
    subst name
    simp only [collected, OrderedMap.get_insert, Row.mk.injEq, asStr_injective.eq_iff]
    by_cases sameGroup : groupId = rowGroup
    · subst sameGroup
      by_cases sameAddress : address = rowAddress
      · subst sameAddress
        simp [eq_comm, or_comm]
      · simp [sameAddress, Ne.symm sameAddress]
    · simp [sameGroup, Ne.symm sameGroup]

theorem mem_collected (byGroup : OrderedMap String (OrderedMap String (Finset MessagingPermission)))
    (groupId address : String) (permission : MessagingPermission) :
    permission ∈ collected (rows.foldl collectRow byGroup) groupId address ↔
      permission ∈ collected byGroup groupId address ∨
        ⟨groupId, address, permission.asStr⟩ ∈ rows := by
  induction rows generalizing byGroup with
  | nil => simp
  | cons row rest ih =>
    rw [List.foldl_cons, ih, mem_collected_row, List.mem_cons, or_assoc, eq_comm (a := row)]

theorem permissions?_setGroups
    (groups : List (String × OrderedMap String (Finset MessagingPermission)))
    (distinct : (groups.map Prod.fst).Nodup) (store : MembershipStore)
    (groupId address : String) :
    (groups.foldl
      (fun store group =>
        store.setGroupMembers group.1
          (group.2.entries.map fun member => (member.1, permissionList member.2)))
      store).permissions? groupId address =
        match groups.lookup groupId with
        | some members => members.get address
        | none => store.permissions? groupId address := by
  induction groups generalizing store with
  | nil => rfl
  | cons group rest ih =>
    obtain ⟨notLater, distinct⟩ := List.nodup_cons.mp distinct
    rw [List.foldl_cons, ih distinct, List.lookup_cons]
    by_cases here : groupId = group.1
    · have absent : rest.lookup groupId = none := by
        rw [OrderedMap.lookup_eq_none_iff, here]
        exact notLater
      have same : (groupId == group.1) = true := by simpa using here
      simp only [absent, same, MembershipStore.permissions?_setGroupMembers, if_pos here]
      exact get_groupMembers group.2.entries group.2.nodup address
    · have differs : (groupId == group.1) = false := by simpa using here
      simp only [differs, MembershipStore.permissions?_setGroupMembers, if_neg here]

/-- **The table comes back from a load.** -/
theorem mirrors_loadFromDb : Mirrors rows (loadFromDb rows) := by
  intro groupId address permission
  have gathered := mem_collected rows .empty groupId address permission
  rw [MembershipStore.hasPermission, loadFromDb,
    permissions?_setGroups _ (rows.foldl collectRow .empty).nodup]
  unfold collected at gathered
  change _ ↔ (Option.any _ (match (rows.foldl collectRow .empty).get groupId with
    | some members => members.get address
    | none => MembershipStore.new.permissions? groupId address)) = true
  cases found : (rows.foldl collectRow .empty).get groupId with
  | none =>
    simp only [found, Option.getD_none, OrderedMap.get_empty, Finset.notMem_empty,
      false_or, false_iff] at gathered
    simp [gathered, MembershipStore.new, MembershipStore.permissions?]
  | some members =>
    simp only [found, Option.getD_some, OrderedMap.get_empty, Option.getD_none,
      Finset.notMem_empty, false_or] at gathered
    rw [← gathered]
    show permission ∈ (members.get address).getD ∅ ↔
      (members.get address).any (permission ∈ ·) = true
    generalize members.get address = recorded
    cases recorded <;> simp

theorem indexed_loadFromDb : (loadFromDb rows).Indexed := by
  unfold loadFromDb
  generalize (rows.foldl collectRow OrderedMap.empty).entries = groups
  have general : ∀ store : MembershipStore, store.Indexed →
      (groups.foldl
        (fun store group =>
          store.setGroupMembers group.1
            (group.2.entries.map fun member => (member.1, permissionList member.2)))
        store).Indexed := by
    induction groups with
    | nil => exact fun _ indexed => indexed
    | cons group rest ih =>
      intro store indexed
      exact ih _ (MembershipStore.indexed_setGroupMembers indexed _ _)
  exact general .new MembershipStore.indexed_new

end PostgresMembership

end MessagingStack.Relayer

import MessagingStack.Base.MoveVm

/-!
# Groups whose members hold permissions

The group object of the chain, as `move/design_docs/permissioned_groups` gives its
implementation (`permissioned_group.md`, `permissions_table.md`, `unpause_cap.md`).  A
member is an address with a set of permissions.  The four core permissions are managed
by the holders of `PermissionsAdmin`, those an extension defines by the holders of
`ExtensionPermissionsAdmin`; the number of `PermissionsAdmin` holders never reaches zero
but does not tell wallets from actor objects.  A paused group refuses every change.
-/

namespace MessagingStack.Contract

/-! ## Data -/

/-- The permissions of a messaging group: the four core ones, and those `messaging`
defines. -/
inductive Permission where
  | permissionsAdmin
  | extensionPermissionsAdmin
  | objectAdmin
  | groupDeleter
  | messagingSender
  | messagingReader
  | messagingEditor
  | messagingDeleter
  | encryptionKeyRotator
  | groupHandleAdmin
  | metadataAdmin
  deriving DecidableEq

inductive PermissionedGroupError where
  | notPermitted
  | memberNotFound
  | lastPermissionsAdmin
  | permissionedGroupAlreadyExists
  | groupPaused
  | alreadyPaused
  /-- `vec_set` of a key that is present. -/
  | keyAlreadyExists
  /-- `vec_set` of a key that is absent. -/
  | keyDoesNotExist
  deriving DecidableEq

/-- `PermissionedGroup`, with its permissions table and its `PausedMarker` field. -/
structure PermissionedGroup where
  id : Address
  permissions : OrderedMap Address (List Permission)
  permissionsAdminCount : U64
  creator : Address
  paused : Bool
  deriving DecidableEq

open Move

def Permission.isCore : Permission → Bool
  | .permissionsAdmin | .extensionPermissionsAdmin | .objectAdmin | .groupDeleter => true
  | _ => false

def Permission.manager (permission : Permission) : Permission :=
  if permission.isCore then .permissionsAdmin else .extensionPermissionsAdmin

namespace PermissionedGroup

/-! ## Reading -/

def isMember (self : PermissionedGroup) (member : Address) : Bool :=
  Table.contains self.permissions member

def hasPermission (self : PermissionedGroup) (member : Address) (permission : Permission) :
    Move PermissionedGroupError Bool := do
  let held ← Table.borrow self.permissions member
  return held.contains permission

def assertPermission (self : PermissionedGroup) (member : Address) (permission : Permission) :
    Move PermissionedGroupError PUnit := do
  let permitted ← self.hasPermission member permission
  assertThat (permitted = true) .notPermitted

def assertNotPaused (self : PermissionedGroup) : Move PermissionedGroupError PUnit :=
  assertThat (self.paused = false) .groupPaused

def assertCanManagePermission (self : PermissionedGroup) (manager : Address)
    (permission : Permission) : Move PermissionedGroupError PUnit :=
  self.assertPermission manager permission.manager

def objectUid (self : PermissionedGroup) (actor : Address) :
    Move PermissionedGroupError PUnit := do
  self.assertNotPaused
  self.assertPermission actor .objectAdmin

/-! ## Lifecycle -/

def newDerived (taken : Bool) (id creator : Address) :
    Move PermissionedGroupError PermissionedGroup := do
  assertThat (taken = false) .permissionedGroupAlreadyExists
  let permissions ← Table.add ∅ creator [Permission.permissionsAdmin, .extensionPermissionsAdmin]
  return { id, permissions, permissionsAdminCount := 1, creator, paused := false }

def pause (self : PermissionedGroup) (sender : Address) :
    Move PermissionedGroupError PermissionedGroup := do
  self.assertPermission sender .permissionsAdmin
  assertThat (self.paused = false) .alreadyPaused
  return { self with paused := true }

/-! ## Granting and revoking -/

def withPermission (self : PermissionedGroup) (member : Address) (permission : Permission) :
    Move PermissionedGroupError (OrderedMap Address (List Permission)) :=
  match self.permissions.get member with
  | some held => do
    assertThat (permission ∉ held) .keyAlreadyExists
    return self.permissions.insert member (held ++ [permission])
  | none => Table.add self.permissions member [permission]

def incremented (count : U64) (permission : Permission) : Move PermissionedGroupError U64 :=
  if permission = .permissionsAdmin then addU count 1 else .ok count

def internalGrantPermission (self : PermissionedGroup) (member : Address)
    (permission : Permission) : Move PermissionedGroupError PermissionedGroup := do
  let permissions ← self.withPermission member permission
  let permissionsAdminCount ← incremented self.permissionsAdminCount permission
  return { self with permissions, permissionsAdminCount }

def grantPermission (self : PermissionedGroup) (sender member : Address)
    (permission : Permission) : Move PermissionedGroupError PermissionedGroup := do
  self.assertNotPaused
  self.assertCanManagePermission sender permission
  self.internalGrantPermission member permission

/-- The count after a holder is taken away, when `holds` says the member is one. -/
def decremented (count : U64) (holds : Bool) : Move PermissionedGroupError U64 :=
  if holds then do
    assertThat (1 < count.toNat) .lastPermissionsAdmin
    subU count 1
  else .ok count

def safeDecrementPermissionsAdminCount (self : PermissionedGroup) (member : Address) :
    Move PermissionedGroupError PermissionedGroup := do
  let holds ← self.hasPermission member .permissionsAdmin
  let permissionsAdminCount ← decremented self.permissionsAdminCount holds
  return { self with permissionsAdminCount }

/-- The group with its admin count lowered, where the permission is the counted one. -/
def uncounted (self : PermissionedGroup) (member : Address) (permission : Permission) :
    Move PermissionedGroupError PermissionedGroup :=
  if permission = .permissionsAdmin then self.safeDecrementPermissionsAdminCount member
  else .ok self

def internalRevokePermission (self : PermissionedGroup) (member : Address)
    (permission : Permission) : Move PermissionedGroupError PermissionedGroup := do
  let self ← self.uncounted member permission
  let held ← Table.borrow self.permissions member
  assertThat (permission ∈ held) .keyDoesNotExist
  let rest := held.filter (· ≠ permission)
  return { self with
    permissions :=
      if rest.isEmpty then self.permissions.erase member
      else self.permissions.insert member rest }

def revokePermission (self : PermissionedGroup) (sender member : Address)
    (permission : Permission) : Move PermissionedGroupError PermissionedGroup := do
  self.assertNotPaused
  self.assertCanManagePermission sender permission
  assertThat (self.isMember member = true) .memberNotFound
  self.internalRevokePermission member permission

def removeMember (self : PermissionedGroup) (sender member : Address) :
    Move PermissionedGroupError PermissionedGroup := do
  self.assertNotPaused
  self.assertPermission sender .permissionsAdmin
  assertThat (self.isMember member = true) .memberNotFound
  let self ← self.safeDecrementPermissionsAdminCount member
  return { self with permissions := self.permissions.erase member }

/-! ## Who holds what -/

def Holds (self : PermissionedGroup) (member : Address) (permission : Permission) : Prop :=
  ∃ held ∈ self.permissions.get member, permission ∈ held

instance (self : PermissionedGroup) (member : Address) (permission : Permission) :
    Decidable (self.Holds member permission) :=
  inferInstanceAs (Decidable (∃ held ∈ self.permissions.get member, _))

variable {self after : PermissionedGroup} {sender member : Address} {permission : Permission}

@[simp] theorem assertPermission_ok {done : PUnit} :
    self.assertPermission member permission = .ok done ↔ self.Holds member permission := by
  simp only [assertPermission, hasPermission, bind_ok, Table.borrow_ok, pure_ok, assertThat_ok,
    Holds, Option.mem_def]
  constructor
  · rintro ⟨_, ⟨held, found, rfl⟩, contains⟩
    exact ⟨held, found, by simpa using contains⟩
  · rintro ⟨held, found, isHeld⟩
    exact ⟨_, ⟨held, found, rfl⟩, by simpa using isHeld⟩

@[simp] theorem assertNotPaused_ok {done : PUnit} :
    self.assertNotPaused = .ok done ↔ self.paused = false := assertThat_ok

@[simp] theorem assertCanManagePermission_ok {done : PUnit} :
    self.assertCanManagePermission sender permission = .ok done ↔
      self.Holds sender permission.manager := assertPermission_ok

/-- Nothing but permissions may have been taken away. -/
structure Shrinks (before after : PermissionedGroup) : Prop where
  id : after.id = before.id
  paused : after.paused = before.paused
  holds : ∀ who which, after.Holds who which → before.Holds who which

theorem holds_newDerived {taken : Bool} {id creator : Address}
    (returned : newDerived taken id creator = .ok after) (who : Address) (which : Permission) :
    after.Holds who which ↔
      who = creator ∧ (which = .permissionsAdmin ∨ which = .extensionPermissionsAdmin) := by
  simp only [newDerived, bind_ok, assertThat_ok, Table.add_ok, pure_ok] at returned
  obtain ⟨-, -, permissions, ⟨-, rfl⟩, rfl⟩ := returned
  simp only [Holds, OrderedMap.get_insert, Option.mem_def]
  by_cases same : who = creator
  · simp [same]
  · rw [if_neg same]
    refine iff_of_false ?_ fun isCreator => same isCreator.1
    rintro ⟨_, ⟨⟩, -⟩

theorem grantPermission_ok
    (returned : self.grantPermission sender member permission = .ok after) :
    self.paused = false ∧ self.Holds sender permission.manager ∧
      after.id = self.id ∧ after.paused = self.paused ∧
      ∀ who which, after.Holds who which ↔
        self.Holds who which ∨ who = member ∧ which = permission := by
  simp only [grantPermission, internalGrantPermission, bind_ok, assertNotPaused_ok,
    assertCanManagePermission_ok, pure_ok] at returned
  obtain ⟨-, active, -, manages, permissions, made, count, -, rfl⟩ := returned
  refine ⟨active, manages, rfl, rfl, ?_⟩
  intro who which
  unfold withPermission at made
  split at made
  · next held found =>
    simp only [bind_ok, assertThat_ok, pure_ok] at made
    obtain ⟨-, -, rfl⟩ := made
    simp only [Holds, OrderedMap.get_insert]
    by_cases same : who = member
    · subst same
      simp [found]
    · simp [same]
  next absent =>
  rw [Table.add_ok] at made
  obtain ⟨-, rfl⟩ := made
  simp only [Holds, OrderedMap.get_insert]
  by_cases same : who = member
  · subst same
    simp [absent]
  · simp [same]

theorem grantPermission_returns (active : self.paused = false)
    (manages : self.Holds sender permission.manager)
    (lacks : ¬self.Holds member permission) (uncounted : permission ≠ .permissionsAdmin) :
    ∃ after, self.grantPermission sender member permission = .ok after := by
  have counted : incremented self.permissionsAdminCount permission =
      .ok self.permissionsAdminCount := by simp [incremented, uncounted]
  have made : ∃ permissions, self.withPermission member permission = .ok permissions := by
    unfold withPermission
    cases found : self.permissions.get member with
    | none => exact ⟨_, Table.add_ok.mpr ⟨found, rfl⟩⟩
    | some held =>
      have fresh : permission ∉ held := fun isHeld => lacks ⟨held, found, isHeld⟩
      exact ⟨self.permissions.insert member (held ++ [permission]), by simp [assertThat, fresh]⟩
  obtain ⟨permissions, made⟩ := made
  refine ⟨{ self with permissions := permissions }, ?_⟩
  simp only [grantPermission, internalGrantPermission, bind_ok, assertNotPaused_ok,
    assertCanManagePermission_ok, pure_ok]
  exact ⟨⟨⟩, active, ⟨⟩, manages, permissions, made, _, counted, rfl⟩

theorem safeDecrementPermissionsAdminCount_ok
    (returned : self.safeDecrementPermissionsAdminCount member = .ok after) :
    after.id = self.id ∧ after.paused = self.paused ∧ after.permissions = self.permissions := by
  simp only [safeDecrementPermissionsAdminCount, bind_ok, pure_ok] at returned
  obtain ⟨-, -, -, -, rfl⟩ := returned
  exact ⟨rfl, rfl, rfl⟩

theorem uncounted_ok (returned : self.uncounted member permission = .ok after) :
    after.id = self.id ∧ after.paused = self.paused ∧ after.permissions = self.permissions := by
  unfold uncounted at returned
  split at returned
  · exact safeDecrementPermissionsAdminCount_ok returned
  · cases returned
    exact ⟨rfl, rfl, rfl⟩

theorem shrinks_of_erase (id : after.id = self.id) (paused : after.paused = self.paused)
    (erased : after.permissions = self.permissions.erase member) : Shrinks self after where
  id := id
  paused := paused
  holds := by
    rintro who which ⟨held, found, isHeld⟩
    rw [erased, OrderedMap.get_erase] at found
    split at found
    · cases found
    · exact ⟨held, found, isHeld⟩

/-- **A revocation** takes permissions away. -/
theorem revokePermission_ok
    (returned : self.revokePermission sender member permission = .ok after) :
    self.paused = false ∧ self.Holds sender permission.manager ∧ Shrinks self after := by
  simp only [revokePermission, internalRevokePermission, bind_ok, assertNotPaused_ok,
    assertCanManagePermission_ok, assertThat_ok, Table.borrow_ok, pure_ok] at returned
  obtain ⟨-, active, -, manages, -, -, middle, lowered, held, found, -, -, rfl⟩ := returned
  obtain ⟨id, paused, permissions⟩ := uncounted_ok lowered
  rw [permissions] at found ⊢
  refine ⟨active, manages, ?_⟩
  by_cases last : (held.filter (· ≠ permission)).isEmpty = true
  · simp only [last, if_true]
    exact shrinks_of_erase id paused rfl
  simp only [last]
  refine ⟨id, paused, ?_⟩
  rintro who which ⟨kept, isKept, isHeld⟩
  simp only [Bool.false_eq_true, if_false, OrderedMap.get_insert, Option.mem_def] at isKept
  split at isKept
  · next same =>
    subst same
    cases isKept
    exact ⟨held, found, (List.mem_filter.mp isHeld).1⟩
  · exact ⟨kept, isKept, isHeld⟩

/-- A revocation takes away one pair. -/
theorem holds_revokePermission
    (returned : self.revokePermission sender member permission = .ok after) (who : Address)
    (which : Permission) :
    after.Holds who which ↔ self.Holds who which ∧ ¬(who = member ∧ which = permission) := by
  simp only [revokePermission, internalRevokePermission, bind_ok, assertNotPaused_ok,
    assertCanManagePermission_ok, assertThat_ok, Table.borrow_ok, pure_ok] at returned
  obtain ⟨-, -, -, -, -, -, middle, lowered, held, found, -, -, rfl⟩ := returned
  obtain ⟨-, -, permissions⟩ := uncounted_ok lowered
  rw [permissions] at found ⊢
  by_cases same : who = member
  · subst same
    by_cases last : (held.filter (· ≠ permission)).isEmpty = true
    · have none := List.filter_eq_nil_iff.mp (List.isEmpty_iff.mp last)
      simp only [Holds, last, if_true, OrderedMap.get_erase, Option.mem_def, found]
      constructor
      · rintro ⟨_, ⟨⟩, -⟩
      · rintro ⟨⟨_, ⟨⟩, isHeld⟩, differs⟩
        exact absurd (by simpa using none which isHeld) fun same => differs ⟨trivial, same⟩
    · simp only [Holds, if_neg last, OrderedMap.get_insert, if_true, Option.mem_def, found]
      simp
  have other : ∀ permissions : OrderedMap Address (List Permission),
      permissions.get who = self.permissions.get who →
      ((∃ kept ∈ permissions.get who, which ∈ kept) ↔
        self.Holds who which ∧ ¬(who = member ∧ which = permission)) := by
    intro permissions alike
    rw [alike]
    exact ⟨fun holds => ⟨holds, fun isPair => same isPair.1⟩, fun holds => holds.1⟩
  by_cases last : (held.filter (· ≠ permission)).isEmpty = true
  · rw [Holds, if_pos last]
    exact other _ (by rw [OrderedMap.get_erase, if_neg same])
  · rw [Holds, if_neg last]
    exact other _ (by rw [OrderedMap.get_insert, if_neg same])

/-- **A removal** takes permissions away. -/
theorem removeMember_ok (returned : self.removeMember sender member = .ok after) :
    self.paused = false ∧ self.Holds sender .permissionsAdmin ∧ Shrinks self after := by
  simp only [removeMember, bind_ok, assertNotPaused_ok, assertPermission_ok, assertThat_ok,
    pure_ok] at returned
  obtain ⟨-, active, -, manages, -, -, middle, lowered, rfl⟩ := returned
  obtain ⟨id, paused, permissions⟩ := safeDecrementPermissionsAdminCount_ok lowered
  exact ⟨active, manages, shrinks_of_erase id paused (by rw [permissions])⟩

theorem pause_ok (returned : self.pause sender = .ok after) :
    self.Holds sender .permissionsAdmin ∧ after = { self with paused := true } := by
  simp only [pause, bind_ok, assertPermission_ok, assertThat_ok, pure_ok] at returned
  obtain ⟨-, manages, -, -, rfl⟩ := returned
  exact ⟨manages, rfl⟩

end PermissionedGroup

end MessagingStack.Contract

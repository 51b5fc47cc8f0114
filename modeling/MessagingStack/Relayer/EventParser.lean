import MessagingStack.Base.HexCodec
import MessagingStack.Base.TextSearch
import MessagingStack.Relayer.MembershipSync

/-!
# The parser of Groups events

`services/event_parser.rs` turns the events of the groups package into `GroupsEvent`s.
The package is told by the address in front of the first `::` of the event type, compared
after normalization; the kind by a search for `::PermissionsGranted<` and its three
siblings, in this order; a permission by the last path segment of its type name
(`MessagingPermission::from_type_name`, `auth/permissions.rs`).
-/

namespace MessagingStack.Relayer

/-! ## Permissions by name -/

namespace MessagingPermission

/-- The simple name of the permission, without module path. -/
def asStr : MessagingPermission → String
  | .messagingSender => "MessagingSender"
  | .messagingReader => "MessagingReader"
  | .messagingEditor => "MessagingEditor"
  | .messagingDeleter => "MessagingDeleter"

def fromTypeName (typeName : String) : Option MessagingPermission :=
  match Text.lastPathSegment typeName with
  | "MessagingSender" => some .messagingSender
  | "MessagingReader" => some .messagingReader
  | "MessagingEditor" => some .messagingEditor
  | "MessagingDeleter" => some .messagingDeleter
  | _ => none

theorem asStr_plain (permission : MessagingPermission) : ':' ∉ permission.asStr.toList := by
  cases permission <;> decide

theorem fromTypeName_of_segment {typeName : String} {permission : MessagingPermission}
    (segment : Text.lastPathSegment typeName = permission.asStr) :
    fromTypeName typeName = some permission := by
  unfold fromTypeName
  rw [segment]
  cases permission <;> rfl

end MessagingPermission

namespace EventParser

/-! ## The package of an event -/

/-- Address hex without `0x` or leading zeros, so `0x2` is `0x000…0002`. -/
def canonicalAddress (addr : String) : String :=
  let hex :=
    match (Text.trim addr).toList with
    | '0' :: 'x' :: hex => hex
    | '0' :: 'X' :: hex => hex
    | hex => hex
  let trimmed := hex.dropWhile (· == '0')
  if trimmed.isEmpty then "0" else Text.toAsciiLowercase (String.ofList trimmed)

def isEventFromPackage (eventType packageId : String) : Bool :=
  match Text.beforeSeparator eventType.toList with
  | none => false
  | some address => canonicalAddress (String.ofList address) == canonicalAddress packageId

/-! ## The contents of an event -/

structure MemberEventBcs where
  groupId : Bytes
  member : Bytes
  deriving DecidableEq

structure PermissionsEventBcs where
  groupId : Bytes
  member : Bytes
  permissions : List String
  deriving DecidableEq

/-- `bcs::from_bytes` at the two layouts. -/
structure Bcs where
  memberEvent : Bytes → Option MemberEventBcs
  permissionsEvent : Bytes → Option PermissionsEventBcs

/-- The fields of a chain event that the parser reads. -/
structure Event where
  eventType : Option String
  contents : Option Bytes
  deriving DecidableEq

def formatId (bytes : Bytes) : String := "0x" ++ Hex.encode bytes

theorem formatId_injective : Function.Injective formatId := by
  intro left right same
  have texts : (formatId left).toList = (formatId right).toList := congrArg String.toList same
  simp only [formatId, String.toList_append, List.append_cancel_left_eq, String.toList_inj] at texts
  exact Hex.encode_injective texts

def filterMessagingPermissions (permissionTypeNames : List String) :
    List MessagingPermission :=
  permissionTypeNames.filterMap MessagingPermission.fromTypeName

def parsePermissionsGranted (bcs : Bcs) (bytes : Bytes) : Option GroupsEvent :=
  (bcs.permissionsEvent bytes).map fun data =>
    .permissionsGranted (formatId data.groupId) (formatId data.member)
      (filterMessagingPermissions data.permissions)

def parsePermissionsRevoked (bcs : Bcs) (bytes : Bytes) : Option GroupsEvent :=
  (bcs.permissionsEvent bytes).map fun data =>
    .permissionsRevoked (formatId data.groupId) (formatId data.member)
      (filterMessagingPermissions data.permissions)

def parseMemberAdded (bcs : Bcs) (bytes : Bytes) : Option GroupsEvent :=
  (bcs.memberEvent bytes).map fun data =>
    .memberAdded (formatId data.groupId) (formatId data.member)

def parseMemberRemoved (bcs : Bcs) (bytes : Bytes) : Option GroupsEvent :=
  (bcs.memberEvent bytes).map fun data =>
    .memberRemoved (formatId data.groupId) (formatId data.member)

/-! ## The kind of an event -/

/-- The four events of the groups package that the parser looks for. -/
inductive Kind where
  | permissionsGranted
  | permissionsRevoked
  | memberAdded
  | memberRemoved
  deriving DecidableEq

namespace Kind

/-- The name of the event struct. -/
def name : Kind → String
  | .permissionsGranted => "PermissionsGranted"
  | .permissionsRevoked => "PermissionsRevoked"
  | .memberAdded => "MemberAdded"
  | .memberRemoved => "MemberRemoved"

/-- The text the parser searches the event type for. -/
def marker (kind : Kind) : String := "::" ++ kind.name ++ "<"

/-- The parser of the contents. -/
def parse (bcs : Bcs) : Kind → Bytes → Option GroupsEvent
  | .permissionsGranted => parsePermissionsGranted bcs
  | .permissionsRevoked => parsePermissionsRevoked bcs
  | .memberAdded => parseMemberAdded bcs
  | .memberRemoved => parseMemberRemoved bcs

/-- The kinds that are searched for before this one. -/
def testedBefore : Kind → List Kind
  | .permissionsGranted => []
  | .permissionsRevoked => [.permissionsGranted]
  | .memberAdded => [.permissionsGranted, .permissionsRevoked]
  | .memberRemoved => [.permissionsGranted, .permissionsRevoked, .memberAdded]

end Kind

/-- The kind an event type is taken for: the first of the four searches that succeeds. -/
def kindOf (eventType : String) : Option Kind :=
  if Text.contains eventType Kind.permissionsGranted.marker then some .permissionsGranted
  else if Text.contains eventType Kind.permissionsRevoked.marker then some .permissionsRevoked
  else if Text.contains eventType Kind.memberAdded.marker then some .memberAdded
  else if Text.contains eventType Kind.memberRemoved.marker then some .memberRemoved
  else none

def parseMysoEvent (bcs : Bcs) (event : Event) (groupsPackageId : String) :
    Option GroupsEvent := do
  let eventType ← event.eventType
  if isEventFromPackage eventType groupsPackageId then
    let bytes ← event.contents
    let kind ← kindOf eventType
    kind.parse bcs bytes
  else none

theorem kindOf_eq_some {eventType : String} {kind : Kind}
    (found : Text.contains eventType kind.marker = true)
    (first : ∀ earlier ∈ kind.testedBefore, Text.contains eventType earlier.marker = false) :
    kindOf eventType = some kind := by
  unfold kindOf
  cases kind with
  | permissionsGranted => rw [if_pos found]
  | permissionsRevoked =>
    rw [first _ (by simp [Kind.testedBefore]), if_neg Bool.false_ne_true, if_pos found]
  | memberAdded =>
    rw [first .permissionsGranted (by simp [Kind.testedBefore]),
      first .permissionsRevoked (by simp [Kind.testedBefore]), if_neg Bool.false_ne_true,
      if_neg Bool.false_ne_true, if_pos found]
  | memberRemoved =>
    rw [first .permissionsGranted (by simp [Kind.testedBefore]),
      first .permissionsRevoked (by simp [Kind.testedBefore]),
      first .memberAdded (by simp [Kind.testedBefore]), if_neg Bool.false_ne_true,
      if_neg Bool.false_ne_true, if_neg Bool.false_ne_true, if_pos found]

theorem kindOf_eq_none {eventType : String}
    (absent : ∀ kind : Kind, Text.contains eventType kind.marker = false) :
    kindOf eventType = none := by
  simp [kindOf, absent]

/-! ## The event types of the groups package -/

def groupsEventType (package : Bytes) (kind : Kind) (witness : String) : String :=
  formatId package ++ "::permissioned_group::" ++ kind.name ++ "<" ++ witness ++ ">"

/-- The part of an event type in front of its type argument. -/
def eventPath (package : Bytes) (kind : Kind) : List Char :=
  (formatId package).toList ++ ("::permissioned_group::" ++ kind.name).toList

variable (package : Bytes) (kind : Kind)

theorem toList_groupsEventType (witness : String) :
    (groupsEventType package kind witness).toList =
      eventPath package kind ++ '<' :: (witness.toList ++ ['>']) := by
  simp [groupsEventType, eventPath]

theorem formatId_plain {c : Char} (notDigit : c ∉ Hex.digits) (notX : c ≠ 'x')
    (package : Bytes) : c ∉ (formatId package).toList := by
  intro member
  rw [formatId, String.toList_append, List.mem_append] at member
  rcases member with inPrefix | inHex
  · have : c = '0' ∨ c = 'x' := by simpa using inPrefix
    rcases this with rfl | rfl
    · exact notDigit (by decide)
    · exact notX rfl
  · exact notDigit (Hex.mem_encode inHex)

theorem isEventFromPackage_groupsEventType {package : Bytes} {packageId : String}
    (names : canonicalAddress (formatId package) = canonicalAddress packageId)
    (kind : Kind) (witness : String) :
    isEventFromPackage (groupsEventType package kind witness) packageId = true := by
  have split : Text.beforeSeparator (groupsEventType package kind witness).toList =
      some (formatId package).toList := by
    have shape : (groupsEventType package kind witness).toList =
        (formatId package).toList ++ ':' :: ':' ::
          ("permissioned_group::" ++ kind.name ++ "<" ++ witness ++ ">").toList := by
      simp [groupsEventType]
    rw [shape, Text.beforeSeparator_append (formatId_plain (by decide) (by decide) package)]
  rw [isEventFromPackage, split]
  simp only [String.ofList_toList, names, beq_self_eq_true]

theorem eventPath_unmarked : '<' ∉ eventPath package kind := by
  rw [eventPath, List.mem_append, not_or]
  refine ⟨formatId_plain (by decide) (by decide) package, ?_⟩
  cases kind <;> decide

theorem suffix_eventPath_iff (other : Kind) :
    ("::" ++ other.name).toList <:+ eventPath package kind ↔ other = kind := by
  constructor
  · intro ends
    have shorter : ("::" ++ other.name).toList.length ≤
        ("::permissioned_group::" ++ kind.name).toList.length := by
      cases other <;> cases kind <;> decide
    have inTail := List.suffix_of_suffix_length_le ends
      (List.suffix_append (formatId package).toList _) shorter
    cases other <;> cases kind <;> first | rfl | exact absurd inTail (by decide)
  · rintro rfl
    refine List.IsSuffix.trans ?_ (List.suffix_append (formatId package).toList _)
    cases other <;> decide

/-- **Where a marker can be found.**  In the struct name, when it is that of the kind, or
in the type argument. -/
theorem contains_marker_iff (other : Kind) (witness : String) :
    Text.contains (groupsEventType package kind witness) other.marker = true ↔
      other = kind ∨ Text.contains (witness ++ ">") other.marker = true := by
  have shape : other.marker.toList = ("::" ++ other.name).toList ++ ['<'] := by simp [Kind.marker]
  have plain : '<' ∉ ("::" ++ other.name).toList := by cases other <;> decide
  rw [Text.contains_iff, Text.contains_iff, shape, toList_groupsEventType,
    Text.infix_marker_iff (eventPath_unmarked package kind) plain, suffix_eventPath_iff]
  simp

theorem kindOf_groupsEventType {witness : String}
    (plain : ∀ earlier ∈ kind.testedBefore, Text.contains (witness ++ ">") earlier.marker = false) :
    kindOf (groupsEventType package kind witness) = some kind := by
  refine kindOf_eq_some ((contains_marker_iff package kind kind witness).mpr (.inl rfl)) ?_
  intro earlier tested
  rw [← Bool.not_eq_true, contains_marker_iff, not_or]
  refine ⟨?_, by simp [plain earlier tested]⟩
  rintro rfl
  revert tested
  cases earlier <;> decide

end EventParser

end MessagingStack.Relayer

import MessagingStack.Base.MoveVm
import MessagingStack.Base.Text

/-!
# Group handles

The contract module `move/packages/messaging/sources/group_handle_registry.move`: two tables, from
canonical handles to groups and back.  The strings of Move are UTF-8 byte strings, built with
`string::utf8`, which aborts on any other bytes; a handle is put into canonical form byte by byte.

The tables stay inverse to each other (`Registry.Inverse`), so the removals and additions of
`set_handle` and `clear_handle` always find what they need, and a call aborts only on a handle that
is not valid or held by another group (`group_handles_are_a_bijection`).
-/

namespace MessagingStack.Contract.GroupHandles

open Move

abbrev Id := Address

/-- The error codes of `group_handle_registry`, and that of `string::utf8`. -/
inductive GroupHandleError where
  | invalidHandle
  | handleTaken
  | invalidUtf8
  deriving DecidableEq

/-- `GroupHandleRegistry`. -/
structure Registry where
  handleToGroup : OrderedMap String Id
  groupToHandle : OrderedMap Id String
  deriving DecidableEq

def Registry.new : Registry := ⟨∅, ∅⟩

/-! ## Canonical form -/

def stringUtf8 (bytes : Bytes) : Move GroupHandleError String :=
  match String.fromUTF8? bytes.toByteArray with
  | some text => .ok text
  | none => .error (.code .invalidUtf8)

def toLowercaseBytes (bytes : Bytes) : Bytes :=
  bytes.map fun b => if 65 ≤ b ∧ b ≤ 90 then b + 32 else b

def canonicalHandle (s : String) : Move GroupHandleError String :=
  stringUtf8 (toLowercaseBytes (Text.utf8 s))

def duplicateString (s : String) : Move GroupHandleError String := stringUtf8 (Text.utf8 s)

/-- `is_valid_handle_chars`: digits, lower-case letters and underscores. -/
def isValidHandleChars (h : String) : Bool :=
  (Text.utf8 h).all fun b => (48 ≤ b && b ≤ 57) || (97 ≤ b && b ≤ 122) || b == 95

def isBytesEq (lhs rhs : Bytes) : Bool :=
  lhs.length == rhs.length && (lhs.zip rhs).all fun pair => pair.1 == pair.2

def isReserved (h : String) : Bool :=
  ["admin", "root", "system", "myso", "support"].any fun name =>
    isBytesEq (Text.utf8 h) (Text.utf8 name)

def byteLength (s : String) : Nat := (Text.utf8 s).length

def validateHandleString (handle : String) : Move GroupHandleError String := do
  let h ← canonicalHandle handle
  assertThat (2 ≤ byteLength h ∧ byteLength h ≤ 50) .invalidHandle
  assertThat (isValidHandleChars h = true) .invalidHandle
  assertThat (isReserved h = false) .invalidHandle
  return h

/-! ## Calls -/

namespace Registry

/-- The group's mapping is dropped, if it has one. -/
def dropOld (registry : Registry) (groupId : Id) : Move GroupHandleError Registry :=
  if Table.contains registry.groupToHandle groupId then do
    let (groupToHandle, oldH) ← Table.remove registry.groupToHandle groupId
    let (handleToGroup, _) ← Table.remove registry.handleToGroup oldH
    return { handleToGroup, groupToHandle }
  else return registry

def setHandle (registry : Registry) (groupId : Id) (handle : String) :
    Move GroupHandleError Registry := do
  let h ← validateHandleString handle
  let registry ← registry.dropOld groupId
  assertThat (Table.contains registry.handleToGroup h = false) .handleTaken
  let hRev ← duplicateString h
  let handleToGroup ← Table.add registry.handleToGroup h groupId
  let groupToHandle ← Table.add registry.groupToHandle groupId hRev
  return { handleToGroup, groupToHandle }

def clearHandle (registry : Registry) (groupId : Id) : Move GroupHandleError Registry :=
  registry.dropOld groupId

def lookupGroupByHandle (registry : Registry) (handle : String) :
    Move GroupHandleError (Option Id) := do
  let h ← canonicalHandle handle
  if byteLength h < 2 ∨ 50 < byteLength h ∨ isValidHandleChars h = false then return none
  else if isReserved h = true then return none
  else if Table.contains registry.handleToGroup h = false then return none
  else do
    let group ← Table.borrow registry.handleToGroup h
    return some group

end Registry

inductive Call where
  | setHandle (groupId : Id) (handle : String)
  | clearHandle (groupId : Id)
  deriving DecidableEq

namespace Call

def groupId : Call → Id
  | setHandle groupId _ | clearHandle groupId => groupId

def run (registry : Registry) : Call → Move GroupHandleError Registry
  | setHandle groupId handle => registry.setHandle groupId handle
  | clearHandle groupId => registry.clearHandle groupId

end Call

/-- A call that aborts changes nothing. -/
def step (registry : Registry) (call : Call) : Registry :=
  match call.run registry with
  | .ok next => next
  | .error _ => registry

def reached (calls : List Call) : Registry := calls.foldl step .new

def succeeded : Registry → List Call → List Call
  | _, [] => []
  | registry, call :: rest =>
    match call.run registry with
    | .ok next => call :: succeeded next rest
    | .error _ => succeeded registry rest

def lastTouching (calls : List Call) (groupId : Id) : Option Call :=
  ((succeeded .new calls).filter fun call => call.groupId = groupId).getLast?

/-! ## Strings -/

theorem utf8_toByteArray (s : String) : (Text.utf8 s).toByteArray = s.toByteArray := by
  have encoded : s.toList.utf8Encode = s.toByteArray := by
    rw [← String.toByteArray_ofList, String.ofList_toList]
  rw [← encoded]
  rfl

theorem utf8_injective : Function.Injective Text.utf8 := by
  intro left right same
  rw [← String.toByteArray_inj, ← utf8_toByteArray, ← utf8_toByteArray, same]

theorem stringUtf8_utf8 (s : String) : stringUtf8 (Text.utf8 s) = .ok s := by
  rw [stringUtf8, utf8_toByteArray, String.fromUTF8?, dif_pos s.isValidUTF8]
  rfl

theorem lowerByte_high {n : Nat} (high : 128 ≤ n % 256) :
    (if 65 ≤ UInt8.ofNat n ∧ UInt8.ofNat n ≤ 90 then UInt8.ofNat n + 32 else UInt8.ofNat n) =
      UInt8.ofNat n := by
  refine if_neg ?_
  rintro ⟨-, small⟩
  rw [UInt8.le_iff_toNat_le, UInt8.toNat_ofNat'] at small
  have letter : (90 : UInt8).toNat = 90 := rfl
  omega

theorem toLowercaseBytes_ascii : ∀ n < 128, toLowercaseBytes [UInt8.ofNat n] =
    String.utf8EncodeChar (Char.ofNat n).toLower := by
  decide

theorem utf8EncodeChar_ascii {c : Char} (ascii : c.toNat < 128) :
    String.utf8EncodeChar c = [UInt8.ofNat c.toNat] :=
  if_pos (Nat.le_of_lt_succ ascii)

theorem toLowercaseBytes_char (c : Char) :
    toLowercaseBytes (String.utf8EncodeChar c) = String.utf8EncodeChar c.toLower := by
  by_cases ascii : c.toNat < 128
  · rw [utf8EncodeChar_ascii ascii, toLowercaseBytes_ascii c.toNat ascii, Char.ofNat_toNat]
  have same : c.toLower = c := by
    refine dif_neg ?_
    rintro ⟨-, small⟩
    exact ascii (lt_of_le_of_lt (show c.toNat ≤ 90 from small) (by decide))
  rw [same]
  have large : ¬c.val.toNat ≤ 127 := fun small => ascii (Nat.lt_succ_of_le small)
  unfold String.utf8EncodeChar toLowercaseBytes
  simp only
  rw [if_neg large]
  split_ifs <;> simp (disch := omega) only [List.map_cons, List.map_nil, lowerByte_high]

theorem toLowercaseBytes_utf8 (s : String) :
    toLowercaseBytes (Text.utf8 s) = Text.utf8 (Text.toAsciiLowercase s) := by
  rw [Text.toAsciiLowercase, Text.utf8, Text.utf8, String.toList_ofList]
  induction s.toList with
  | nil => rfl
  | cons c rest ih =>
    rw [List.flatMap_cons, List.map_cons, List.flatMap_cons, ← ih, ← toLowercaseBytes_char,
      toLowercaseBytes, toLowercaseBytes, toLowercaseBytes, List.map_append]

theorem canonicalHandle_eq (s : String) :
    canonicalHandle s = .ok (Text.toAsciiLowercase s) := by
  rw [canonicalHandle, toLowercaseBytes_utf8, stringUtf8_utf8]

theorem duplicateString_eq (s : String) : duplicateString s = .ok s := stringUtf8_utf8 s

/-! ## Valid handles -/

def isHandleChar (c : Char) : Bool := ('0' ≤ c && c ≤ '9') || ('a' ≤ c && c ≤ 'z') || c == '_'

/-- **What a handle is**: 2 to 50 digits, lower-case letters and underscores, and none of the
reserved names. -/
structure Canonical (h : String) : Prop where
  length : 2 ≤ h.toList.length ∧ h.toList.length ≤ 50
  chars : ∀ c ∈ h.toList, isHandleChar c = true
  free : h ∉ ["admin", "root", "system", "myso", "support"]

theorem isBytesEq_iff {lhs rhs : Bytes} : isBytesEq lhs rhs = true ↔ lhs = rhs := by
  induction lhs generalizing rhs with
  | nil => cases rhs <;> simp [isBytesEq]
  | cons first rest ih =>
    cases rhs with
    | nil => simp [isBytesEq]
    | cons other others =>
      have rests : (rest.length = others.length ∧
          (rest.zip others).all (fun pair => pair.1 == pair.2) = true) ↔ rest = others := by
        rw [← ih, isBytesEq, Bool.and_eq_true, beq_iff_eq]
      simp only [isBytesEq, List.length_cons, List.zip_cons_cons, List.all_cons,
        Bool.and_eq_true, beq_iff_eq, Nat.add_right_cancel_iff, List.cons.injEq]
      rw [← rests]
      tauto

variable {h : String} {call : Call} {registry : Registry}

theorem isReserved_iff :
    isReserved h = true ↔ h ∈ ["admin", "root", "system", "myso", "support"] := by
  rw [isReserved, List.any_eq_true]
  constructor
  · rintro ⟨name, isIn, same⟩
    rw [utf8_injective (isBytesEq_iff.mp same)]
    exact isIn
  · exact fun isIn => ⟨h, isIn, isBytesEq_iff.mpr rfl⟩

/-- What the check of the bytes says of a single character. -/
theorem validByte_ascii : ∀ n < 128,
    ((48 ≤ UInt8.ofNat n && UInt8.ofNat n ≤ 57) || (97 ≤ UInt8.ofNat n && UInt8.ofNat n ≤ 122) ||
      UInt8.ofNat n == 95) = isHandleChar (Char.ofNat n) := by
  decide

theorem validByte_high {n : Nat} (high : 128 ≤ n % 256) :
    ((48 ≤ UInt8.ofNat n && UInt8.ofNat n ≤ 57) || (97 ≤ UInt8.ofNat n && UInt8.ofNat n ≤ 122) ||
      UInt8.ofNat n == 95) = false := by
  have isByte : (UInt8.ofNat n).toNat = n % 256 := UInt8.toNat_ofNat'
  simp only [Bool.or_eq_false_iff, Bool.and_eq_false_iff, decide_eq_false_iff_not,
    beq_eq_false_iff_ne, UInt8.le_iff_toNat_le, ne_eq, ← UInt8.toNat_inj, isByte,
    UInt8.reduceToNat]
  omega

theorem isHandleChar_high {c : Char} (high : ¬c.toNat < 128) : isHandleChar c = false := by
  have above : ∀ bound : Char, bound.toNat < 128 → ¬c ≤ bound := fun bound small below =>
    high (lt_of_le_of_lt (show c.toNat ≤ bound.toNat from below) small)
  have other : c ≠ '_' := by
    rintro rfl
    exact high (by decide)
  rw [isHandleChar, decide_eq_false (above '9' (by decide)),
    decide_eq_false (above 'z' (by decide)), beq_eq_false_iff_ne.mpr other, Bool.and_false,
    Bool.and_false]
  rfl

theorem validByte_char (c : Char) :
    (String.utf8EncodeChar c).all (fun b =>
      (48 ≤ b && b ≤ 57) || (97 ≤ b && b ≤ 122) || b == 95) = isHandleChar c := by
  by_cases ascii : c.toNat < 128
  · rw [utf8EncodeChar_ascii ascii, List.all_cons, List.all_nil, Bool.and_true,
      validByte_ascii c.toNat ascii, Char.ofNat_toNat]
  have large : ¬c.val.toNat ≤ 127 := fun small => ascii (Nat.lt_succ_of_le small)
  rw [isHandleChar_high ascii]
  unfold String.utf8EncodeChar
  simp only
  rw [if_neg large]
  split_ifs <;> simp (disch := omega) only [List.all_cons, validByte_high, Bool.false_and]

theorem isValidHandleChars_iff :
    isValidHandleChars h = true ↔ ∀ c ∈ h.toList, isHandleChar c = true := by
  rw [isValidHandleChars, Text.utf8, List.all_flatMap, List.all_eq_true]
  exact forall₂_congr fun c _ => by rw [validByte_char]

theorem byteLength_eq (chars : ∀ c ∈ h.toList, isHandleChar c = true) :
    byteLength h = h.toList.length := by
  rw [byteLength, Text.utf8]
  generalize h.toList = cs at chars
  induction cs with
  | nil => rfl
  | cons c rest ih =>
    obtain ⟨first, others⟩ := List.forall_mem_cons.mp chars
    have ascii : c.toNat < 128 := by
      by_contra high
      cases isHandleChar_high high ▸ first
    rw [List.flatMap_cons, List.length_append, ih others, utf8EncodeChar_ascii ascii,
      List.length_singleton, List.length_cons, Nat.add_comm]

/-- The three checks of `validate_handle_string`. -/
theorem canonical_iff :
    Canonical h ↔ (2 ≤ byteLength h ∧ byteLength h ≤ 50) ∧ isValidHandleChars h = true ∧
      isReserved h = false := by
  rw [isValidHandleChars_iff, Bool.eq_false_iff, ne_eq, isReserved_iff]
  constructor
  · rintro ⟨length, chars, free⟩
    rw [byteLength_eq chars]
    exact ⟨length, chars, free⟩
  · rintro ⟨length, chars, free⟩
    rw [byteLength_eq chars] at length
    exact ⟨length, chars, free⟩

instance (h : String) : Decidable (Canonical h) := decidable_of_iff _ canonical_iff.symm

theorem validateHandleString_eq (handle : String) :
    validateHandleString handle =
      if Canonical (Text.toAsciiLowercase handle) then .ok (Text.toAsciiLowercase handle)
      else .error (.code .invalidHandle) := by
  rw [validateHandleString, canonicalHandle_eq, ok_bind]
  generalize Text.toAsciiLowercase handle = h
  by_cases length : 2 ≤ byteLength h ∧ byteLength h ≤ 50
  · rw [assertThat, if_pos length, ok_bind]
    by_cases chars : isValidHandleChars h = true
    · rw [assertThat, if_pos chars, ok_bind]
      by_cases free : isReserved h = false
      · rw [assertThat, if_pos free, ok_bind, if_pos (canonical_iff.mpr ⟨length, chars, free⟩)]
        rfl
      · rw [assertThat, if_neg free, if_neg fun canonical => free (canonical_iff.mp canonical).2.2]
        rfl
    · rw [assertThat, if_neg chars, if_neg fun canonical => chars (canonical_iff.mp canonical).2.1]
      rfl
  · rw [assertThat, if_neg length, if_neg fun canonical => length (canonical_iff.mp canonical).1]
    rfl

/-! ## The tables -/

namespace Registry

variable {registry : Registry} {groupId : Id} {handle : String}

/-- The two tables are inverse to each other. -/
def Inverse (registry : Registry) : Prop :=
  ∀ h group, registry.handleToGroup.get h = some group ↔ registry.groupToHandle.get group = some h

/-- What the tables keep. -/
structure Ok (registry : Registry) : Prop where
  inverse : registry.Inverse
  canonical : ∀ h group, registry.handleToGroup.get h = some group → Canonical h

theorem Ok.new : Registry.new.Ok where
  inverse h group := by
    constructor
    · intro found
      cases found
    · intro found
      cases found
  canonical h group found := by cases found

theorem Ok.holder_iff (ok : registry.Ok) {h held : String}
    (holds : registry.groupToHandle.get groupId = some held) :
    registry.handleToGroup.get h = some groupId ↔ h = held := by
  rw [ok.inverse, holds, Option.some.injEq]
  exact eq_comm

/-- **Dropping a mapping always finds both its entries.** -/
theorem dropOld_spec (ok : registry.Ok) (groupId : Id) :
    ∃ next, registry.dropOld groupId = .ok next ∧ next.Ok ∧
      (∀ group, next.groupToHandle.get group =
        if group = groupId then none else registry.groupToHandle.get group) ∧
      ∀ h, next.handleToGroup.get h =
        if registry.handleToGroup.get h = some groupId then none
        else registry.handleToGroup.get h := by
  rcases holds : registry.groupToHandle.get groupId with _ | held
  · -- the group has no handle: nothing changes
    have absent : Table.contains registry.groupToHandle groupId = false := by
      rw [Table.contains, holds, Option.isSome_none]
    have unheld : ∀ h, registry.handleToGroup.get h ≠ some groupId := by
      intro h found
      rw [ok.inverse, holds] at found
      cases found
    refine ⟨registry, ?_, ok, fun group => ?_, fun h => ?_⟩
    · rw [dropOld, absent, if_neg Bool.false_ne_true]
      rfl
    · split_ifs with same
      · rw [same, holds]
      · rfl
    · rw [if_neg (unheld h)]
  have present : Table.contains registry.groupToHandle groupId = true :=
    Table.contains_iff.mpr ⟨held, holds⟩
  have back : registry.handleToGroup.get held = some groupId := (ok.inverse _ _).mpr holds
  have groups : ∀ group, (registry.groupToHandle.erase groupId).get group =
      if group = groupId then none else registry.groupToHandle.get group :=
    fun group => OrderedMap.get_erase ..
  have handles : ∀ h, (registry.handleToGroup.erase held).get h =
      if registry.handleToGroup.get h = some groupId then none
      else registry.handleToGroup.get h := by
    intro h
    rw [OrderedMap.get_erase]
    simp only [ok.holder_iff holds]
  refine ⟨⟨registry.handleToGroup.erase held, registry.groupToHandle.erase groupId⟩, ?_,
    ⟨fun h group => ?_, fun h group found => ?_⟩, groups, handles⟩
  · rw [dropOld, if_pos present, Table.remove_of_get holds, ok_bind]
    simp only
    rw [Table.remove_of_get back, ok_bind]
    rfl
  · rw [handles, groups]
    by_cases same : group = groupId
    · subst same
      rw [if_pos rfl]
      split_ifs with found
      · exact iff_of_false not_false not_false
      · exact iff_of_false found not_false
    rw [if_neg same, ← ok.inverse]
    split_ifs with found
    · refine iff_of_false not_false fun other => same ?_
      rw [found] at other
      exact (Option.some.inj other).symm
    · exact Iff.rfl
  · rw [handles] at found
    split_ifs at found
    exact ok.canonical h group found

theorem set_free {dropped : Registry} (ok : dropped.Ok) {h : String} (canonical : Canonical h)
    (free : dropped.handleToGroup.get h = none)
    (groups : ∀ group, dropped.groupToHandle.get group =
      if group = groupId then none else registry.groupToHandle.get group) :
    ∃ next, (do
        assertThat (Table.contains dropped.handleToGroup h = false) .handleTaken
        let hRev ← duplicateString h
        let handleToGroup ← Table.add dropped.handleToGroup h groupId
        let groupToHandle ← Table.add dropped.groupToHandle groupId hRev
        return { handleToGroup, groupToHandle } : Move GroupHandleError Registry) = .ok next ∧
      next.Ok ∧ ∀ group, next.groupToHandle.get group =
        if group = groupId then some h else registry.groupToHandle.get group := by
  have absent : Table.contains dropped.handleToGroup h = false := by
    rw [Table.contains, free, Option.isSome_none]
  have without : dropped.groupToHandle.get groupId = none := by rw [groups, if_pos rfl]
  have unheld : ∀ other, dropped.handleToGroup.get other ≠ some groupId := by
    intro other found
    rw [ok.inverse, without] at found
    cases found
  refine ⟨⟨dropped.handleToGroup.insert h groupId, dropped.groupToHandle.insert groupId h⟩, ?_,
    ⟨fun other group => ?_, fun other group found => ?_⟩, fun group => ?_⟩
  · rw [assertThat, if_pos absent, ok_bind, duplicateString_eq, ok_bind,
      Table.add_of_get _ free, ok_bind, Table.add_of_get _ without, ok_bind]
    rfl
  · simp only [OrderedMap.get_insert]
    by_cases isKey : other = h
    · by_cases isGroup : group = groupId
      · rw [if_pos isKey, if_pos isGroup, isKey, isGroup]
        exact iff_of_true rfl rfl
      · rw [if_pos isKey, if_neg isGroup, ← ok.inverse, isKey, free]
        exact iff_of_false (fun same => isGroup (Option.some.inj same).symm)
          (Option.some_ne_none _).symm
    by_cases isGroup : group = groupId
    · rw [if_neg isKey, if_pos isGroup, isGroup]
      exact iff_of_false (unheld other) fun same => isKey (Option.some.inj same).symm
    · rw [if_neg isKey, if_neg isGroup]
      exact ok.inverse other group
  · simp only [OrderedMap.get_insert] at found
    split_ifs at found with isKey
    · rw [isKey]
      exact canonical
    · exact ok.canonical other group found
  simp only [OrderedMap.get_insert]
  split_ifs with isGroup
  · rfl
  · rw [groups, if_neg isGroup]

/-- **A call that gives a group a handle** aborts on a handle that is not valid and on one that
another group holds, and on nothing else; and it replaces the group's handle. -/
theorem setHandle_spec (ok : registry.Ok) (groupId : Id) (handle : String) :
    (¬Canonical (Text.toAsciiLowercase handle) ∧
      registry.setHandle groupId handle = .error (.code .invalidHandle)) ∨
    (Canonical (Text.toAsciiLowercase handle) ∧
      (∃ other, other ≠ groupId ∧
        registry.handleToGroup.get (Text.toAsciiLowercase handle) = some other) ∧
      registry.setHandle groupId handle = .error (.code .handleTaken)) ∨
    ((Canonical (Text.toAsciiLowercase handle) ∧
      ∀ other, registry.handleToGroup.get (Text.toAsciiLowercase handle) = some other →
        other = groupId) ∧
      ∃ next, registry.setHandle groupId handle = .ok next ∧ next.Ok ∧
        ∀ group, next.groupToHandle.get group =
          if group = groupId then some (Text.toAsciiLowercase handle)
          else registry.groupToHandle.get group) := by
  rw [setHandle, validateHandleString_eq]
  generalize Text.toAsciiLowercase handle = h
  by_cases canonical : Canonical h
  · obtain ⟨dropped, drops, droppedOk, groups, handles⟩ := dropOld_spec ok groupId
    rw [if_pos canonical, ok_bind, drops, ok_bind]
    rcases found : registry.handleToGroup.get h with _ | other
    · have free : dropped.handleToGroup.get h = none := by rw [handles, found, if_neg nofun]
      exact .inr (.inr ⟨⟨canonical, nofun⟩, set_free droppedOk canonical free groups⟩)
    by_cases own : other = groupId
    · have free : dropped.handleToGroup.get h = none := by rw [handles, found, own, if_pos rfl]
      refine .inr (.inr ⟨⟨canonical, ?_⟩, set_free droppedOk canonical free groups⟩)
      intro holder same
      rw [← Option.some.inj same, own]
    refine .inr (.inl ⟨canonical, ⟨other, own, rfl⟩, ?_⟩)
    have taken : Table.contains dropped.handleToGroup h = true := by
      refine Table.contains_iff.mpr ⟨other, ?_⟩
      rw [handles, found, if_neg fun same => own (Option.some.inj same)]
    rw [taken]
    rfl
  · rw [if_neg canonical]
    exact .inl ⟨canonical, rfl⟩

theorem clearHandle_spec (ok : registry.Ok) (groupId : Id) :
    ∃ next, registry.clearHandle groupId = .ok next ∧ next.Ok ∧
      ∀ group, next.groupToHandle.get group =
        if group = groupId then none else registry.groupToHandle.get group := by
  obtain ⟨next, drops, nextOk, groups, -⟩ := dropOld_spec ok groupId
  exact ⟨next, drops, nextOk, groups⟩

/-- A lookup reads the table at the lower case of what it is given. -/
theorem lookupGroupByHandle_eq (ok : registry.Ok) (handle : String) :
    registry.lookupGroupByHandle handle =
      .ok (registry.handleToGroup.get (Text.toAsciiLowercase handle)) := by
  rw [lookupGroupByHandle, canonicalHandle_eq, ok_bind]
  generalize Text.toAsciiLowercase handle = h
  rcases found : registry.handleToGroup.get h with _ | group
  · have absent : Table.contains registry.handleToGroup h = false := by
      rw [Table.contains, found, Option.isSome_none]
    rw [absent]
    split_ifs <;> first | rfl | contradiction
  obtain ⟨⟨least, most⟩, chars, free⟩ := canonical_iff.mp (ok.canonical h group found)
  have fits : ¬(byteLength h < 2 ∨ 50 < byteLength h ∨ isValidHandleChars h = false) := by
    rw [chars]
    simp only [Bool.true_eq_false, or_false]
    omega
  have present : Table.contains registry.handleToGroup h = true :=
    Table.contains_iff.mpr ⟨group, found⟩
  have read : (Table.borrow registry.handleToGroup h : Move GroupHandleError Id) = .ok group :=
    Table.borrow_ok.mpr found
  rw [if_neg fits, free, if_neg Bool.false_ne_true, present, if_neg (by decide), read]
  rfl

end Registry

/-! ## Runs -/

def Call.leaves : Call → Option String
  | .setHandle _ handle => some (Text.toAsciiLowercase handle)
  | .clearHandle _ => none

theorem run_ok {next : Registry} (ok : registry.Ok) (runs : call.run registry = .ok next) :
    next.Ok ∧ ∀ group, next.groupToHandle.get group =
      if group = call.groupId then call.leaves else registry.groupToHandle.get group := by
  cases call with
  | setHandle groupId handle =>
    rw [Call.run] at runs
    rcases Registry.setHandle_spec ok groupId handle with
      ⟨-, aborts⟩ | ⟨-, -, aborts⟩ | ⟨-, result, returns, resultOk, groups⟩
    · cases aborts ▸ runs
    · cases aborts ▸ runs
    · cases returns ▸ runs
      exact ⟨resultOk, groups⟩
  | clearHandle groupId =>
    rw [Call.run] at runs
    obtain ⟨result, returns, resultOk, groups⟩ := Registry.clearHandle_spec ok groupId
    cases returns ▸ runs
    exact ⟨resultOk, groups⟩

theorem step_of_ok {next : Registry} (runs : call.run registry = .ok next) :
    step registry call = next := by
  rw [step, runs]

theorem step_of_error {reason : Abort GroupHandleError} (runs : call.run registry = .error reason) :
    step registry call = registry := by
  rw [step, runs]

theorem foldl_step_ok (calls : List Call) :
    ∀ {registry : Registry}, registry.Ok → (calls.foldl step registry).Ok := by
  induction calls with
  | nil => exact fun ok => ok
  | cons call rest ih =>
    intro registry ok
    rcases runs : call.run registry with reason | next
    · rw [List.foldl_cons, step_of_error runs]
      exact ih ok
    · rw [List.foldl_cons, step_of_ok runs]
      exact ih (run_ok ok runs).1

theorem reached_ok (calls : List Call) : (reached calls).Ok := foldl_step_ok calls .new

theorem groupToHandle_foldl (calls : List Call) (group : Id) :
    ∀ {registry : Registry}, registry.Ok →
      (calls.foldl step registry).groupToHandle.get group =
        match ((succeeded registry calls).filter fun call => call.groupId = group).getLast? with
        | some call => call.leaves
        | none => registry.groupToHandle.get group := by
  induction calls with
  | nil => exact fun _ => rfl
  | cons call rest ih =>
    intro registry ok
    rcases runs : call.run registry with reason | next
    · rw [List.foldl_cons, step_of_error runs, ih ok, succeeded, runs]
    obtain ⟨nextOk, groups⟩ := run_ok ok runs
    rw [List.foldl_cons, step_of_ok runs, ih nextOk, succeeded, runs]
    simp only
    by_cases touches : call.groupId = group
    · rw [List.filter_cons_of_pos (by simpa using touches), List.getLast?_cons]
      generalize List.getLast? (List.filter _ (succeeded next rest)) = last
      cases last with
      | none => exact (groups group).trans (if_pos touches.symm)
      | some => rfl
    · rw [List.filter_cons_of_neg (by simpa using touches), groups,
        if_neg fun same => touches same.symm]

theorem lastTouching_groupId {calls : List Call} {group : Id}
    (last : lastTouching calls group = some call) : call.groupId = group := by
  have isIn := List.mem_of_getLast? last
  simpa using (List.mem_filter.mp isIn).2

theorem groupToHandle_reached (calls : List Call) (group : Id) :
    (reached calls).groupToHandle.get group = (lastTouching calls group).bind Call.leaves := by
  rw [reached, groupToHandle_foldl calls group .new, lastTouching]
  generalize List.getLast? (List.filter _ (succeeded .new calls)) = last
  cases last with
  | none | some => rfl

/-- **Group handles form a bijection.**  After every sequence of calls, the two tables are inverse
to each other and hold only canonical handles; a call aborts only with an error of the contract's
own, so no removal from a table and no addition to one aborts; `clear_handle` never aborts,
`set_handle` does exactly when the handle is not canonical or is held by another group; and a lookup
returns a group exactly when its last successful call gave it that handle, up to case. -/
theorem group_handles_are_a_bijection (calls : List Call) :
    (∀ h group, (reached calls).handleToGroup.get h = some group ↔
      (reached calls).groupToHandle.get group = some h) ∧
    (∀ h group, (reached calls).handleToGroup.get h = some group → Canonical h) ∧
    (∀ (call : Call) reason, call.run (reached calls) = .error reason →
      ∃ groupId handle, call = .setHandle groupId handle ∧
        (reason = .code .invalidHandle ∨ reason = .code .handleTaken)) ∧
    (∀ groupId handle, (∃ reason, (reached calls).setHandle groupId handle = .error reason) ↔
      ¬Canonical (Text.toAsciiLowercase handle) ∨
        ∃ other, other ≠ groupId ∧
          (reached calls).handleToGroup.get (Text.toAsciiLowercase handle) = some other) ∧
    ∀ s group, (reached calls).lookupGroupByHandle s = .ok (some group) ↔
      ∃ h, lastTouching calls group = some (.setHandle group h) ∧
        Text.eqIgnoreAsciiCase h s = true := by
  have ok := reached_ok calls
  refine ⟨ok.inverse, ok.canonical, ?_, ?_, ?_⟩
  · intro call reason aborts
    cases call with
    | setHandle groupId handle =>
      refine ⟨groupId, handle, rfl, ?_⟩
      rw [Call.run] at aborts
      rcases Registry.setHandle_spec ok groupId handle with
        ⟨-, fails⟩ | ⟨-, -, fails⟩ | ⟨-, next, returns, -, -⟩
      · cases fails ▸ aborts
        exact .inl rfl
      · cases fails ▸ aborts
        exact .inr rfl
      · cases returns ▸ aborts
    | clearHandle groupId =>
      rw [Call.run] at aborts
      obtain ⟨next, returns, -, -⟩ := Registry.clearHandle_spec ok groupId
      cases returns ▸ aborts
  · intro groupId handle
    rcases Registry.setHandle_spec ok groupId handle with
      ⟨invalid, fails⟩ | ⟨-, taken, fails⟩ | ⟨⟨canonical, own⟩, next, returns, -, -⟩
    · exact iff_of_true ⟨_, fails⟩ (.inl invalid)
    · exact iff_of_true ⟨_, fails⟩ (.inr taken)
    refine iff_of_false ?_ ?_
    · rintro ⟨reason, fails⟩
      cases returns ▸ fails
    · rintro (invalid | ⟨other, differs, held⟩)
      · exact invalid canonical
      · exact differs (own other held)
  intro s group
  rw [Registry.lookupGroupByHandle_eq ok, Except.ok.injEq, ok.inverse, groupToHandle_reached]
  constructor
  · intro holds
    obtain ⟨call, last, leaves⟩ := Option.bind_eq_some_iff.mp holds
    have about := lastTouching_groupId last
    cases call with
    | setHandle groupId h =>
      refine ⟨h, ?_, beq_iff_eq.mpr (Option.some.inj leaves)⟩
      rw [last, ← about, Call.groupId]
    | clearHandle => cases leaves
  · rintro ⟨h, last, same⟩
    rw [last]
    exact congrArg some (beq_iff_eq.mp same)

end MessagingStack.Contract.GroupHandles

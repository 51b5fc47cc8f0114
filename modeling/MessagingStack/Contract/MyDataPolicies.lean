import MessagingStack.Base.LittleEndian
import MessagingStack.Contract.EncryptionHistory
import MessagingStack.Contract.PermissionedGroup

/-!
# Who may decrypt: the identity of a key

`validate_identity` of `move/packages/messaging/sources/mydata_policies.move`.  The key
servers run it for every key they are asked for: the identity bytes of the key must name
the group at hand and a key version the group has.
-/

namespace MessagingStack

/-! ## Addresses in bytes -/

def Address.bytes (address : Address) : Bytes := (LittleEndian.write 32 address.toNat).reverse

def Address.ofBytes (bytes : Bytes) : Address := BitVec.ofNat 256 (LittleEndian.read bytes.reverse)

@[simp] theorem Address.length_bytes (address : Address) : (Address.bytes address).length = 32 := by
  rw [Address.bytes, List.length_reverse, LittleEndian.length_write]

@[simp] theorem Address.ofBytes_bytes (address : Address) :
    Address.ofBytes (Address.bytes address) = address := by
  have small : address.toNat < 256 ^ 32 := address.isLt
  rw [Address.ofBytes, Address.bytes, List.reverse_reverse, LittleEndian.read_write,
    Nat.mod_eq_of_lt small, BitVec.ofNat_toNat, BitVec.setWidth_eq]

theorem Address.bytes_ofBytes {bytes : Bytes} (complete : bytes.length = 32) :
    Address.bytes (Address.ofBytes bytes) = bytes := by
  have long : bytes.reverse.length = 32 := by rw [List.length_reverse, complete]
  have small : LittleEndian.read bytes.reverse < 2 ^ 256 := by
    have bound := LittleEndian.read_lt bytes.reverse
    rw [long] at bound
    exact bound
  rw [Address.bytes, Address.ofBytes, BitVec.toNat_ofNat, Nat.mod_eq_of_lt small, ← long,
    LittleEndian.write_read, List.reverse_reverse]

namespace Contract

/-- The error codes of `mydata_policies`, with the one of `myso::bcs`. -/
inductive MyDataPoliciesError where
  | invalidIdentity
  | notPermitted
  | invalidKeyVersion
  | encryptionHistoryMismatch
  | outOfRange
  deriving DecidableEq

open Move

/-- `myso::bcs` as far as it is used: a reader takes a value off the front of its bytes. -/
structure Bcs where
  peelAddress : Bytes → Move MyDataPoliciesError (Address × Bytes)
  peelU64 : Bytes → Move MyDataPoliciesError (U64 × Bytes)
  peelAddress_eq : ∀ bytes, 32 ≤ bytes.length →
    peelAddress bytes = .ok (Address.ofBytes (bytes.take 32), bytes.drop 32)
  /-- A `u64` is the next 8 bytes, the lowest first. -/
  peelU64_eq : ∀ bytes, 8 ≤ bytes.length →
    peelU64 bytes = .ok (BitVec.ofNat 64 (LittleEndian.read (bytes.take 8)), bytes.drop 8)

/-- `IDENTITY_BYTES_LENGTH`. -/
def identityBytesLength : Nat := 40

variable (bcs : Bcs)

def validateIdentity (group : PermissionedGroup) (encryptionHistory : EncryptionHistory)
    (id : Bytes) : Move MyDataPoliciesError PUnit := do
  assertThat (encryptionHistory.groupId = group.id) .encryptionHistoryMismatch
  assertThat (id.length = identityBytesLength) .invalidIdentity
  let (parsedGroupId, bytes) ← bcs.peelAddress id
  assertThat (group.id = parsedGroupId) .invalidIdentity
  let (keyVersion, _) ← bcs.peelU64 bytes
  assertThat (keyVersion.toNat ≤ encryptionHistory.currentKeyVersion) .invalidKeyVersion

theorem validateIdentity_ok {group : PermissionedGroup} {encryptionHistory : EncryptionHistory}
    {id : Bytes} :
    validateIdentity bcs group encryptionHistory id = .ok ⟨⟩ ↔
      encryptionHistory.groupId = group.id ∧
        ∃ version : U64, version.toNat ≤ encryptionHistory.currentKeyVersion ∧
          id = Address.bytes group.id ++ LittleEndian.write 8 version.toNat := by
  constructor
  · intro accepted
    simp only [validateIdentity, bind_ok, assertThat_ok] at accepted
    obtain ⟨_, ofGroup, _, long, ⟨parsed, rest⟩, peeled, _, sameGroup, ⟨version, _⟩, peeled',
      exists_⟩ := accepted
    have complete : id.length = 40 := long
    cases bcs.peelAddress_eq id (by omega) ▸ peeled
    have restLong : (id.drop 32).length = 8 := by rw [List.length_drop, complete]
    rw [bcs.peelU64_eq _ restLong.ge, List.take_of_length_le restLong.le] at peeled'
    have headLong : (id.take 32).length = 32 := by rw [List.length_take, complete]; rfl
    have read : version.toNat = LittleEndian.read (id.drop 32) := by
      have bound := LittleEndian.read_lt (id.drop 32)
      rw [restLong] at bound
      have returned := congrArg BitVec.toNat (Prod.ext_iff.mp (Except.ok.inj peeled')).1
      rw [← returned, BitVec.toNat_ofNat]
      exact Nat.mod_eq_of_lt bound
    refine ⟨ofGroup, version, exists_, ?_⟩
    rw [sameGroup, Address.bytes_ofBytes headLong, read, ← restLong, LittleEndian.write_read,
      List.take_append_drop]
  rintro ⟨ofGroup, version, exists_, rfl⟩
  have headLong := Address.length_bytes group.id
  have restLong := LittleEndian.length_write 8 version.toNat
  have head : (Address.bytes group.id ++ LittleEndian.write 8 version.toNat).take 32 =
      Address.bytes group.id := List.take_left' headLong
  have rest : (Address.bytes group.id ++ LittleEndian.write 8 version.toNat).drop 32 =
      LittleEndian.write 8 version.toNat := List.drop_left' headLong
  have small : version.toNat < 256 ^ 8 := version.isLt
  have read : BitVec.ofNat 64 (LittleEndian.read (LittleEndian.write 8 version.toNat)) =
      version := by
    rw [LittleEndian.read_write, Nat.mod_eq_of_lt small, BitVec.ofNat_toNat, BitVec.setWidth_eq]
  simp only [validateIdentity, bind_ok, assertThat_ok]
  refine ⟨⟨⟩, ofGroup, ⟨⟩, ?_,
    (group.id, LittleEndian.write 8 version.toNat), ?_, ⟨⟩, rfl, (version, []), ?_, exists_⟩
  · rw [List.length_append, headLong, restLong]
    rfl
  · rw [bcs.peelAddress_eq _ (by rw [List.length_append, headLong]; omega), head, rest,
      Address.ofBytes_bytes]
  · rw [bcs.peelU64_eq _ restLong.ge, List.take_of_length_le restLong.le,
      List.drop_of_length_le restLong.le, read]

end Contract

end MessagingStack

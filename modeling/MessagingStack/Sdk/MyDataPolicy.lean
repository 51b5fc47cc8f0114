import MessagingStack.Base.HexCodec
import MessagingStack.Contract.MyDataPolicies

/-!
# The identity of a key, in the SDK and in the contract

`DefaultMyDataPolicy.encodeIdentity` and `decodeIdentity` of
`packages/myso-messaging-stack/src/encryption/mydata-policy.ts`: the 32 bytes of the
group's address, then the key version as a `u64`, the lowest byte first.  The contract
reads the same bytes with a reader of its own (`Contract/MyDataPolicies`).

`identity_agrees`: the two functions of the SDK undo each other, and the contract accepts
just what the SDK encodes for the group, with a version the group has.
-/

namespace MessagingStack.Sdk

/-- The parts of the `myso` libraries that read and write identities. -/
structure AddressBcs where
  isValidMySoAddress : String → Bool
  /-- `bcs.Address`, written. -/
  address : String → Bytes
  /-- `bcs.Address`, parsed. -/
  parseAddress : Bytes → String
  /-- `bcs.u64()`, written; `none` where it throws. -/
  u64 : Int → Option Bytes
  /-- `bcs.u64()`, parsed. -/
  parseU64 : Bytes → Int
  length_address : ∀ text, isValidMySoAddress text = true → (address text).length = 32
  isValid_parseAddress : ∀ bytes, bytes.length = 32 →
    isValidMySoAddress (parseAddress bytes) = true
  /-- A parsed address is written as the bytes it was parsed from. -/
  address_parseAddress : ∀ bytes, bytes.length = 32 → address (parseAddress bytes) = bytes
  /-- A `u64` is 8 bytes, the lowest first. -/
  u64_nat : ∀ value : Nat, value < 2 ^ 64 → u64 value = some (LittleEndian.write 8 value)
  /-- Nothing else is a `u64`. -/
  u64_eq_some : ∀ value bytes, u64 value = some bytes → 0 ≤ value ∧ value < 2 ^ 64
  /-- A `u64` is parsed from its 8 bytes. -/
  parseU64_eq : ∀ bytes, bytes.length = 8 → parseU64 bytes = LittleEndian.read bytes

namespace DefaultMyDataPolicy

/-- What a decoded identity names. -/
structure Identity where
  groupId : String
  keyVersion : Int
  deriving DecidableEq

variable (bcs : AddressBcs)

def encodeIdentity (groupId : String) (keyVersion : Int) : Except String Bytes :=
  if bcs.isValidMySoAddress groupId then
    match bcs.u64 keyVersion with
    | some version => .ok (bcs.address groupId ++ version)
    | none => .error "Invalid u64 value"
  else
    .error ("Invalid groupId: expected a valid MySo address, got \"" ++ groupId ++ "\"")

/-- `DEFAULT_IDENTITY_BYTES_LENGTH`. -/
def defaultIdentityBytesLength : Nat := 40

def decodeIdentity (bytes : Bytes) : Except String Identity :=
  if bytes.length ≠ defaultIdentityBytesLength then
    .error ("Invalid identity bytes length: expected " ++ toString defaultIdentityBytesLength ++
      ", got " ++ toString bytes.length)
  else
    .ok
      { groupId := bcs.parseAddress (bytes.take 32)
        keyVersion := bcs.parseU64 (bytes.drop 32) }

def textOf (address : Address) : String := bcs.parseAddress address.bytes

theorem isValid_textOf (address : Address) :
    bcs.isValidMySoAddress (textOf bcs address) = true :=
  bcs.isValid_parseAddress _ address.length_bytes

theorem address_textOf (address : Address) :
    bcs.address (textOf bcs address) = address.bytes :=
  bcs.address_parseAddress _ address.length_bytes

variable {groupId : String} {bytes : Bytes} {version : Nat}

theorem encodeIdentity_eq_ok {keyVersion : Int} :
    encodeIdentity bcs groupId keyVersion = .ok bytes ↔
      bcs.isValidMySoAddress groupId = true ∧
        ∃ version : Nat, version < 2 ^ 64 ∧ keyVersion = version ∧
          bytes = bcs.address groupId ++ LittleEndian.write 8 version := by
  unfold encodeIdentity
  by_cases valid : bcs.isValidMySoAddress groupId = true
  · rw [if_pos valid]
    constructor
    · intro encoded
      cases written : bcs.u64 keyVersion with
      | none =>
        cases written ▸ encoded
      | some =>
        cases written ▸ encoded
        obtain ⟨nonneg, small⟩ := bcs.u64_eq_some _ _ written
        obtain ⟨number, rfl⟩ := Int.eq_ofNat_of_zero_le nonneg
        have fits : number < 2 ^ 64 := by omega
        have same := bcs.u64_nat number fits
        cases written ▸ same
        exact ⟨valid, number, fits, rfl, rfl⟩
    · rintro ⟨-, version, fits, rfl, rfl⟩
      rw [bcs.u64_nat version fits]
  rw [if_neg valid]
  constructor
  · nofun
  · rintro ⟨isValid, -⟩
    exact absurd isValid valid

theorem decodeIdentity_append {head : Bytes} (long : head.length = 32) (fits : version < 2 ^ 64) :
    decodeIdentity bcs (head ++ LittleEndian.write 8 version) =
      .ok { groupId := bcs.parseAddress head, keyVersion := version } := by
  have restLong := LittleEndian.length_write 8 version
  have small : version < 256 ^ 8 := fits
  have complete : (head ++ LittleEndian.write 8 version).length = 40 := by
    rw [List.length_append, long, restLong]
  rw [decodeIdentity, if_neg (fun short => short complete), List.take_left' long,
    List.drop_left' long, bcs.parseU64_eq _ restLong, LittleEndian.read_write,
    Nat.mod_eq_of_lt small]

/-- **Encoding, then decoding** gives the version back, and the group as an address in the
spelling of the libraries. -/
theorem decodeIdentity_encodeIdentity (valid : bcs.isValidMySoAddress groupId = true)
    (fits : version < 2 ^ 64) :
    ∃ bytes, encodeIdentity bcs groupId version = .ok bytes ∧
      decodeIdentity bcs bytes =
        .ok { groupId := bcs.parseAddress (bcs.address groupId), keyVersion := version } :=
  ⟨_, (encodeIdentity_eq_ok bcs).mpr ⟨valid, version, fits, rfl, rfl⟩,
    decodeIdentity_append bcs (bcs.length_address groupId valid) fits⟩

theorem encodeIdentity_decodeIdentity {identity : Identity}
    (decoded : decodeIdentity bcs bytes = .ok identity) :
    encodeIdentity bcs identity.groupId identity.keyVersion = .ok bytes := by
  unfold decodeIdentity at decoded
  split at decoded
  · cases decoded
  next complete =>
  cases decoded
  have long : bytes.length = 40 := not_not.mp complete
  have headLong : (bytes.take 32).length = 32 := by rw [List.length_take, long]; rfl
  have restLong : (bytes.drop 32).length = 8 := by rw [List.length_drop, long]
  have small := LittleEndian.read_lt (bytes.drop 32)
  rw [restLong] at small
  refine (encodeIdentity_eq_ok bcs).mpr
    ⟨bcs.isValid_parseAddress _ headLong, LittleEndian.read (bytes.drop 32), small,
      bcs.parseU64_eq _ restLong, ?_⟩
  have written := LittleEndian.write_read (bytes.drop 32)
  rw [restLong] at written
  rw [bcs.address_parseAddress _ headLong, written, List.take_append_drop]

theorem validateIdentity_iff (reader : Contract.Bcs) {group : Contract.PermissionedGroup}
    {history : Contract.EncryptionHistory} (ofGroup : history.groupId = group.id)
    (bytes : Bytes) :
    Contract.validateIdentity reader group history bytes = .ok ⟨⟩ ↔
      ∃ version : Nat, version ≤ history.currentKeyVersion ∧
        encodeIdentity bcs (textOf bcs group.id) version = .ok bytes := by
  rw [Contract.validateIdentity_ok]
  constructor
  · rintro ⟨-, version, exists_, rfl⟩
    refine ⟨version.toNat, exists_, (encodeIdentity_eq_ok bcs).mpr
      ⟨isValid_textOf bcs _, version.toNat, version.isLt, rfl, ?_⟩⟩
    rw [address_textOf]
  rintro ⟨version, exists_, encoded⟩
  obtain ⟨-, other, fits, same, rfl⟩ := (encodeIdentity_eq_ok bcs).mp encoded
  obtain rfl : version = other := Int.ofNat.inj same
  refine ⟨ofGroup, BitVec.ofNatLT version fits, ?_, ?_⟩
  · rw [BitVec.toNat_ofNatLT]
    exact exists_
  · rw [BitVec.toNat_ofNatLT, address_textOf]

/-- **A key identity has one meaning.**  Every group and every version come back from their
bytes, in the libraries' spelling of the address whatever spelling was encoded; the bytes
of every identity come back from what they decode to; and the contract accepts, with the
history of its group, just the bytes of the group with a version of that history. -/
theorem identity_agrees (reader : Contract.Bcs) :
    (∀ (group : Address) (version : Nat), version < 2 ^ 64 →
      ∃ bytes, encodeIdentity bcs (textOf bcs group) version = .ok bytes ∧
        decodeIdentity bcs bytes =
          .ok { groupId := textOf bcs group, keyVersion := version }) ∧
    (∀ (groupId : String) (version : Nat), bcs.isValidMySoAddress groupId = true →
      version < 2 ^ 64 →
      ∃ bytes, encodeIdentity bcs groupId version = .ok bytes ∧
        decodeIdentity bcs bytes =
          .ok { groupId := bcs.parseAddress (bcs.address groupId), keyVersion := version }) ∧
    (∀ bytes identity, decodeIdentity bcs bytes = .ok identity →
      encodeIdentity bcs identity.groupId identity.keyVersion = .ok bytes) ∧
    (∀ (group : Contract.PermissionedGroup) (history : Contract.EncryptionHistory),
      history.groupId = group.id →
      ∀ bytes, Contract.validateIdentity reader group history bytes = .ok ⟨⟩ ↔
        ∃ version : Nat, version ≤ history.currentKeyVersion ∧
          encodeIdentity bcs (textOf bcs group.id) version = .ok bytes) := by
  refine ⟨?_, ?_, ?_, ?_⟩
  · intro group version fits
    obtain ⟨bytes, encoded, decoded⟩ :=
      decodeIdentity_encodeIdentity bcs (isValid_textOf bcs group) fits
    rw [address_textOf] at decoded
    exact ⟨bytes, encoded, decoded⟩
  · intro groupId version valid fits
    exact decodeIdentity_encodeIdentity bcs valid fits
  · intro bytes identity decoded
    exact encodeIdentity_decodeIdentity bcs decoded
  · intro group history ofGroup bytes
    exact validateIdentity_iff bcs reader ofGroup bytes

/-! ## A group with two versions -/

def sampleAddress (text : String) : Bytes :=
  match Hex.decode (String.ofList (text.toList.drop 2)) with
  | .ok bytes => bytes
  | .error _ => []

theorem sampleAddress_encode (bytes : Bytes) :
    sampleAddress ("0x" ++ Hex.encode bytes) = bytes := by
  have digits : String.ofList (("0x" ++ Hex.encode bytes).toList.drop 2) = Hex.encode bytes := by
    rw [String.toList_append]
    exact String.ofList_toList
  rw [sampleAddress, digits, Hex.decode_encode]

/-- The libraries on addresses of full length. -/
def sampleBcs : AddressBcs where
  isValidMySoAddress text := (sampleAddress text).length == 32
  address := sampleAddress
  parseAddress bytes := "0x" ++ Hex.encode bytes
  u64 value :=
    if 0 ≤ value ∧ value < 2 ^ 64 then some (LittleEndian.write 8 value.toNat) else none
  parseU64 bytes := LittleEndian.read bytes
  length_address _ valid := beq_iff_eq.mp valid
  isValid_parseAddress bytes long := by
    rw [sampleAddress_encode]
    exact beq_iff_eq.mpr long
  address_parseAddress bytes _ := sampleAddress_encode bytes
  u64_nat value fits := by
    have inRange : 0 ≤ (value : Int) ∧ (value : Int) < 2 ^ 64 := by omega
    rw [if_pos inRange, Int.toNat_natCast]
  u64_eq_some value bytes written := by
    split at written
    next inRange => exact inRange
    next => cases written
  parseU64_eq _ _ := rfl

def sampleReader : Contract.Bcs where
  peelAddress bytes :=
    if 32 ≤ bytes.length then .ok (Address.ofBytes (bytes.take 32), bytes.drop 32)
    else .error (.code .outOfRange)
  peelU64 bytes :=
    if 8 ≤ bytes.length then
      .ok (BitVec.ofNat 64 (LittleEndian.read (bytes.take 8)), bytes.drop 8)
    else .error (.code .outOfRange)
  peelAddress_eq _ long := if_pos long
  peelU64_eq _ long := if_pos long

def sampleGroup : Contract.PermissionedGroup where
  id := 0xab
  permissions := ∅
  permissionsAdminCount := 1
  creator := 0x1
  paused := false

def sampleHistory : Contract.EncryptionHistory where
  groupId := 0xab
  uuid := "test"
  encryptedKeys := [[1], [2]]

/-- Version 1 of the group is accepted, since the history has two keys. -/
theorem second_version_accepted :
    ∃ bytes, encodeIdentity sampleBcs (textOf sampleBcs 0xab) 1 = .ok bytes ∧
      decodeIdentity sampleBcs bytes =
        .ok { groupId := textOf sampleBcs 0xab, keyVersion := 1 } ∧
      Contract.validateIdentity sampleReader sampleGroup sampleHistory bytes = .ok ⟨⟩ := by
  obtain ⟨ofGroup, -, -, ofContract⟩ := identity_agrees sampleBcs sampleReader
  obtain ⟨bytes, encoded, decoded⟩ := ofGroup 0xab 1 (by decide)
  exact ⟨bytes, encoded, decoded,
    (ofContract sampleGroup sampleHistory rfl bytes).mpr ⟨1, by decide, encoded⟩⟩

end DefaultMyDataPolicy

end MessagingStack.Sdk

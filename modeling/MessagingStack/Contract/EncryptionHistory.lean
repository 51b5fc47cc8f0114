import MessagingStack.Base.MoveVm

/-!
# The encrypted keys of a group

The contract module `move/packages/messaging/sources/encryption_history.move`: a list of
encrypted data keys that only grows at its end.  The index of a key is its version.
-/

namespace MessagingStack.Contract

inductive EncryptionHistoryError where
  | encryptionHistoryAlreadyExists
  | keyVersionNotFound
  | encryptedDEKTooLarge
  deriving DecidableEq

/-- `MAX_ENCRYPTED_DEK_BYTES`. -/
def maxEncryptedDekBytes : Nat := 1024

structure EncryptionHistory where
  groupId : Address
  uuid : String
  encryptedKeys : List (List UInt8)
  deriving DecidableEq

namespace EncryptionHistory

open Move

/-- `new`: `taken` are the uuids whose history the namespace has derived already. -/
def new (taken : List String) (uuid : String) (groupId : Address)
    (initialEncryptedDek : List UInt8) : Move EncryptionHistoryError EncryptionHistory := do
  assertThat (uuid ∉ taken) .encryptionHistoryAlreadyExists
  assertThat (initialEncryptedDek.length ≤ maxEncryptedDekBytes) .encryptedDEKTooLarge
  return { groupId, uuid, encryptedKeys := [initialEncryptedDek] }

def rotateKey (self : EncryptionHistory) (newEncryptedDek : List UInt8) :
    Move EncryptionHistoryError EncryptionHistory := do
  assertThat (newEncryptedDek.length ≤ maxEncryptedDekBytes) .encryptedDEKTooLarge
  return { self with encryptedKeys := self.encryptedKeys ++ [newEncryptedDek] }

def currentKeyVersion (self : EncryptionHistory) : Nat := self.encryptedKeys.length - 1

def encryptedKey (self : EncryptionHistory) (version : Nat) :
    Move EncryptionHistoryError (List UInt8) :=
  match self.encryptedKeys[version]? with
  | some key => .ok key
  | none => .error (.code .keyVersionNotFound)

theorem new_ok {taken : List String} {uuid : String} {groupId : Address}
    {initialEncryptedDek : List UInt8} {made : EncryptionHistory}
    (returned : new taken uuid groupId initialEncryptedDek = .ok made) :
    made = { groupId, uuid, encryptedKeys := [initialEncryptedDek] } := by
  simp only [new, bind_ok, assertThat_ok, pure_ok] at returned
  obtain ⟨-, -, -, -, rfl⟩ := returned
  rfl

/-- **A rotation** puts its key behind the others. -/
theorem rotateKey_ok {self after : EncryptionHistory} {newEncryptedDek : List UInt8}
    (returned : self.rotateKey newEncryptedDek = .ok after) :
    after = { self with encryptedKeys := self.encryptedKeys ++ [newEncryptedDek] } := by
  simp only [rotateKey, bind_ok, assertThat_ok, pure_ok] at returned
  obtain ⟨-, -, rfl⟩ := returned
  rfl

end EncryptionHistory

end MessagingStack.Contract

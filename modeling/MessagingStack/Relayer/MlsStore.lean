import Mathlib.Logic.Function.Basic
import MessagingStack.Base.Text

/-!
# The MLS epoch table

The part of the relayer's MLS store (`services/mls_store.rs`, in-memory branch) that
decides which commits a group accepts: one epoch number for each group, zero for a group
that has none, and a compare-and-set that accepts a commit made in the current epoch.
-/

namespace MessagingStack.Relayer

/-- What the cleartext header of an MLS message says (`myso_mls::MessageInfo`). -/
inductive MessageInfo where
  | application (groupId : Bytes) (epoch : Nat)
  | commit (groupId : Bytes) (epoch : Nat)
  | proposal (groupId : Bytes) (epoch : Nat)
  | welcome
  | keyPackage
  | groupInfo (groupId : Bytes) (epoch : Nat)
  | other
  deriving DecidableEq

/-- The accepted epoch of each group. -/
structure MlsStore where
  epochs : String → Nat

namespace MlsStore

def new : MlsStore := ⟨fun _ => 0⟩

def currentEpoch (store : MlsStore) (groupId : String) : Nat := store.epochs groupId

/-- Accept a commit made in `epoch` iff it is the group's current epoch (first one wins). -/
def tryAdvanceEpoch (store : MlsStore) (groupId : String) (epoch : Nat) : Bool × MlsStore :=
  if store.currentEpoch groupId ≠ epoch then (false, store)
  else (true, ⟨Function.update store.epochs groupId (epoch + 1)⟩)

theorem tryAdvanceEpoch_cases (store : MlsStore) (groupId : String) (epoch : Nat) :
    (store.currentEpoch groupId ≠ epoch ∧ store.tryAdvanceEpoch groupId epoch = (false, store)) ∨
    (store.currentEpoch groupId = epoch ∧
      store.tryAdvanceEpoch groupId epoch =
        (true, ⟨Function.update store.epochs groupId (epoch + 1)⟩)) := by
  unfold tryAdvanceEpoch
  split_ifs with differs
  · exact .inl ⟨differs, rfl⟩
  · exact .inr ⟨not_not.mp differs, rfl⟩

end MlsStore

end MessagingStack.Relayer

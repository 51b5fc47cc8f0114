import Mathlib.Data.List.Pairwise

/-!
# Ideal authenticated encryption

A cipher with associated data, seen from the ledger of everything honest parties have
sealed.  The ideal cipher opens nothing that is not in the ledger, and opens a ciphertext
of the ledger only with the nonce and the associated data it was sealed with.

What is read off it is **domain separation**: where every sealing under some associated
data has a property, everything that opens under these data has it (`Ideal.opened_within`),
and a ciphertext sealed under others does not open at all (`Ideal.not_opened`).

A table of the ledger is an ideal cipher as long as no ciphertext was sealed in two ways
(`ideal_table`).
-/

namespace MessagingStack.Aead

structure Sealing (Key Nonce Data Plain Cipher : Type*) where
  key : Key
  nonce : Nonce
  data : Data
  plaintext : Plain
  ciphertext : Cipher
  deriving DecidableEq

variable {Key Nonce Data Plain Cipher : Type*}

/-- **The ideal cipher** over a ledger of sealings. -/
structure Ideal (opens : Key → Cipher → Nonce → Data → Option Plain)
    (ledger : List (Sealing Key Nonce Data Plain Cipher)) : Prop where
  /-- What opens was sealed with just these arguments. -/
  authentic : ∀ {key ciphertext nonce data plaintext},
    opens key ciphertext nonce data = some plaintext →
      { key, nonce, data, plaintext, ciphertext } ∈ ledger
  bound : ∀ sealing ∈ ledger, ∀ {key nonce data plaintext},
    opens key sealing.ciphertext nonce data = some plaintext →
      nonce = sealing.nonce ∧ data = sealing.data

section Ideal

variable {opens : Key → Cipher → Nonce → Data → Option Plain}
  {ledger : List (Sealing Key Nonce Data Plain Cipher)}

theorem Ideal.opened_within (ideal : Ideal opens ledger)
    {P : Sealing Key Nonce Data Plain Cipher → Prop} {key : Key} {ciphertext : Cipher}
    {nonce : Nonce} {data : Data} {plaintext : Plain}
    (opened : opens key ciphertext nonce data = some plaintext)
    (only : ∀ sealing ∈ ledger, sealing.data = data → P sealing) :
    ∃ sealing ∈ ledger, P sealing ∧ sealing.ciphertext = ciphertext ∧
      sealing.plaintext = plaintext := by
  have isIn := ideal.authentic opened
  exact ⟨_, isIn, only _ isIn rfl, rfl, rfl⟩

theorem Ideal.not_opened (ideal : Ideal opens ledger)
    {sealing : Sealing Key Nonce Data Plain Cipher} (isIn : sealing ∈ ledger) {key : Key}
    {nonce : Nonce} {data : Data} (other : sealing.data ≠ data) :
    opens key sealing.ciphertext nonce data = none := by
  rw [Option.eq_none_iff_forall_ne_some]
  intro plaintext opened
  exact other (ideal.bound sealing isIn opened).2.symm

end Ideal

/-! ## The table cipher -/

section Table

variable [DecidableEq Key] [DecidableEq Nonce] [DecidableEq Data] [DecidableEq Cipher]

/-- Opens what is in the ledger, by looking it up. -/
def table (ledger : List (Sealing Key Nonce Data Plain Cipher)) (key : Key)
    (ciphertext : Cipher) (nonce : Nonce) (data : Data) : Option Plain :=
  (ledger.find? fun sealing =>
    sealing.key = key ∧ sealing.ciphertext = ciphertext ∧ sealing.nonce = nonce ∧
      sealing.data = data).map (·.plaintext)

theorem table_eq_some {ledger : List (Sealing Key Nonce Data Plain Cipher)} {key : Key}
    {ciphertext : Cipher} {nonce : Nonce} {data : Data} {plaintext : Plain}
    (opened : table ledger key ciphertext nonce data = some plaintext) :
    { key, nonce, data, plaintext, ciphertext } ∈ ledger := by
  obtain ⟨sealing, found, rfl⟩ := Option.map_eq_some_iff.mp opened
  have fits := List.find?_some found
  obtain ⟨rfl, rfl, rfl, rfl⟩ := of_decide_eq_true fits
  exact List.mem_of_find?_eq_some found

theorem table_of_mem {ledger : List (Sealing Key Nonce Data Plain Cipher)}
    (once : ∀ first ∈ ledger, ∀ second ∈ ledger, first.ciphertext = second.ciphertext →
      first = second) {sealing : Sealing Key Nonce Data Plain Cipher} (isIn : sealing ∈ ledger) :
    table ledger sealing.key sealing.ciphertext sealing.nonce sealing.data =
      some sealing.plaintext := by
  rw [table, Option.map_eq_some_iff]
  cases found : ledger.find? fun entry => entry.key = sealing.key ∧
      entry.ciphertext = sealing.ciphertext ∧ entry.nonce = sealing.nonce ∧
        entry.data = sealing.data with
  | none => simpa using List.find?_eq_none.mp found sealing isIn
  | some entry =>
    have fits := List.find?_some found
    obtain ⟨-, sameText, -, -⟩ := of_decide_eq_true fits
    cases once entry (List.mem_of_find?_eq_some found) sealing isIn sameText
    exact ⟨sealing, rfl, rfl⟩

theorem ideal_table {ledger : List (Sealing Key Nonce Data Plain Cipher)}
    (once : ∀ first ∈ ledger, ∀ second ∈ ledger, first.ciphertext = second.ciphertext →
      first.nonce = second.nonce ∧ first.data = second.data) :
    Ideal (table ledger) ledger where
  authentic opened := table_eq_some opened
  bound sealing isIn _ _ _ _ opened := once _ (table_eq_some opened) sealing isIn rfl

end Table

end MessagingStack.Aead

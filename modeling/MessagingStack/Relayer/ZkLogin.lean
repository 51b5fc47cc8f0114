import MessagingStack.Base.LittleEndian
import MessagingStack.Base.PrefixCode
import MessagingStack.Relayer.Authentication

/-!
# The zkLogin cache

`ZkLoginVerifier` of `auth/zklogin.rs`.  Calls run one beside the other: each is one step up to the
await of the proof check, and one from there on.  In every run, whoever is let in has signed this
message, has an address that its proof derives, and has been accepted by the proof check less than
`AUTHORIZATION_TTL` ago (`verify_never_widens`): the hashed bytes have one reading
(`Checks.alike`).
-/

namespace MessagingStack.Relayer.ZkLogin

variable {Inputs Digest : Type}

/-! ## Signatures -/

/-- `SimpleSignature`; the key types have fixed lengths. -/
inductive SimpleSignature where
  | ed25519 (signature : Bytes) (publicKey : {key : Bytes // key.length = 32})
  | secp256k1 (signature : Bytes) (publicKey : {key : Bytes // key.length = 33})
  | secp256r1 (signature : Bytes) (publicKey : {key : Bytes // key.length = 33})
  | other
  deriving DecidableEq

structure ZkLoginAuthenticator (Inputs : Type) where
  inputs : Inputs
  maxEpoch : UInt64
  signature : SimpleSignature

inductive UserSignature (Inputs : Type) where
  | zkLogin (zklogin : ZkLoginAuthenticator Inputs)
  | other

/-- The ephemeral key a verified zkLogin request was signed with. -/
structure ZkLoginSender where
  scheme : SignatureScheme
  ephemeralPublicKey : Bytes
  deriving DecidableEq

structure Crates (Inputs Digest : Type) where
  fromBytes : Bytes → Except String (UserSignature Inputs)
  deriveAddress : Inputs → List String
  verifyPersonalMessage : Bytes → SimpleSignature → Except String Unit
  toBytes : Inputs → Except String Bytes
  blake2b256 : Bytes → Digest
  /-- `0x` and 64 hex digits in lower case. -/
  address : ∀ inputs, ∀ address ∈ deriveAddress inputs,
    Text.toAsciiLowercase address = address ∧ (Text.utf8 address).length = 66
  toBytes_injective : ∀ left right bytes, toBytes left = .ok bytes → toBytes right = .ok bytes →
    left = right
  blake2b256_injective : Function.Injective blake2b256

/-! ## The code -/

/-- `AUTHORIZATION_TTL`, in milliseconds. -/
def authorizationTtl : Nat := 600 * 1000

/-- `MAX_CACHED_AUTHORIZATIONS` -/
def maxCachedAuthorizations : Nat := 10000

def ephemeralKey : SimpleSignature → Except AuthError ZkLoginSender
  | .ed25519 _ publicKey => .ok ⟨.ed25519, publicKey⟩
  | .secp256k1 _ publicKey => .ok ⟨.secp256k1, publicKey⟩
  | .secp256r1 _ publicKey => .ok ⟨.secp256r1, publicKey⟩
  | .other => .error (.invalidSignatureFormat "Unsupported zkLogin ephemeral key scheme")

/-- What the proof attests: address, proof inputs, max epoch and the ephemeral key it binds. -/
def authorizationKey (crates : Crates Inputs Digest) (sender : String)
    (zklogin : ZkLoginAuthenticator Inputs) (ephemeral : ZkLoginSender) :
    Except AuthError Digest :=
  match crates.toBytes zklogin.inputs with
  | .error reason =>
    .error (.invalidSignatureFormat ("Failed to encode zkLogin inputs: " ++ reason))
  | .ok inputs =>
    .ok (crates.blake2b256 (Text.utf8 sender ++ (LittleEndian.write 8 zklogin.maxEpoch.toNat ++
      (ephemeral.scheme.flag :: (ephemeral.ephemeralPublicKey ++ inputs)))))

structure Call where
  message : Bytes
  signature : Bytes
  claimedSender : String

/-- The sender as it is compared and hashed. -/
def Call.sender (call : Call) : String := Text.toAsciiLowercase (Text.trim call.claimedSender)

/-- A call that has come to the cache. -/
structure Checked (Inputs Digest : Type) where
  call : Call
  zklogin : ZkLoginAuthenticator Inputs
  ephemeral : ZkLoginSender
  key : Digest

/-- `verify` before the cache. -/
def checkLocally (crates : Crates Inputs Digest) (call : Call) :
    Except AuthError (Checked Inputs Digest) :=
  match crates.fromBytes call.signature with
  | .error reason =>
    .error (.invalidSignatureFormat ("Failed to parse zkLogin signature: " ++ reason))
  | .ok .other => .error (.invalidSignatureFormat "Expected a zkLogin signature")
  | .ok (.zkLogin zklogin) =>
    let derived := crates.deriveAddress zklogin.inputs
    if !derived.any fun address => Text.eqIgnoreAsciiCase address call.sender then
      .error (.addressMismatch (derived.head?.getD "") call.sender)
    else
      match crates.verifyPersonalMessage call.message zklogin.signature with
      | .error reason => .error (.signatureVerificationFailed reason)
      | .ok () =>
        match ephemeralKey zklogin.signature with
        | .error error => .error error
        | .ok ephemeral =>
          match authorizationKey crates call.sender zklogin ephemeral with
          | .error error => .error error
          | .ok key => .ok { call, zklogin, ephemeral, key }

/-! ## The hashed bytes -/

/-- A signature of a sender whose address its inputs derive, with the key of its proof. -/
structure Checks (crates : Crates Inputs Digest) (sender : String) (signature : Bytes)
    (zklogin : ZkLoginAuthenticator Inputs) (ephemeral : ZkLoginSender) (key : Digest) :
    Prop where
  parsed : crates.fromBytes signature = .ok (.zkLogin zklogin)
  derived : sender ∈ crates.deriveAddress zklogin.inputs
  isEphemeral : ephemeralKey zklogin.signature = .ok ephemeral
  isKey : authorizationKey crates sender zklogin ephemeral = .ok key

variable {crates : Crates Inputs Digest}

theorem ephemeralKey_length {signature : SimpleSignature} {ephemeral : ZkLoginSender}
    (isKey : ephemeralKey signature = .ok ephemeral) :
    ephemeral.ephemeralPublicKey.length = ephemeral.scheme.publicKeyLength := by
  cases signature with
  | ed25519 _ publicKey | secp256k1 _ publicKey | secp256r1 _ publicKey =>
    cases isKey
    exact publicKey.property
  | other => cases isKey

theorem flag_injective : Function.Injective SignatureScheme.flag := by
  intro left right same
  cases left <;> cases right <;> first | rfl | exact absurd same (by decide)

/-- **The hashed bytes have one reading.** -/
theorem Checks.alike {sender sender' : String} {signature signature' : Bytes}
    {zklogin zklogin' : ZkLoginAuthenticator Inputs} {ephemeral ephemeral' : ZkLoginSender}
    {key : Digest} (checks : Checks crates sender signature zklogin ephemeral key)
    (checks' : Checks crates sender' signature' zklogin' ephemeral' key) :
    sender = sender' ∧ zklogin.inputs = zklogin'.inputs ∧ zklogin.maxEpoch = zklogin'.maxEpoch ∧
      ephemeral = ephemeral' := by
  have isKey := checks.isKey
  have isKey' := checks'.isKey
  rw [authorizationKey] at isKey isKey'
  cases isInputs : crates.toBytes zklogin.inputs with
  | error => rw [isInputs] at isKey; cases isKey
  | ok inputs =>
    cases isInputs' : crates.toBytes zklogin'.inputs with
    | error => rw [isInputs'] at isKey'; cases isKey'
    | ok inputs' =>
      rw [isInputs] at isKey
      rw [isInputs'] at isKey'
      have hashed := crates.blake2b256_injective
        ((Except.ok.inj isKey).trans (Except.ok.inj isKey').symm)
      -- the parts are cut off one after the other, each by its length
      have address := (crates.address _ _ checks.derived).2
      have address' := (crates.address _ _ checks'.derived).2
      obtain ⟨senders, rest⟩ := List.append_inj hashed (address.trans address'.symm)
      obtain ⟨epochs, rest⟩ := List.append_inj rest (by
        rw [LittleEndian.length_write, LittleEndian.length_write])
      obtain ⟨flags, rest⟩ := List.cons.inj rest
      have schemes := flag_injective flags
      obtain ⟨keys, rest⟩ := List.append_inj rest (by
        rw [ephemeralKey_length checks.isEphemeral, ephemeralKey_length checks'.isEphemeral,
          schemes])
      have small : ∀ epoch : UInt64, epoch.toNat < 256 ^ 8 := UInt64.toNat_lt
      have numbers := congrArg LittleEndian.read epochs
      rw [LittleEndian.read_write, LittleEndian.read_write, Nat.mod_eq_of_lt (small _),
        Nat.mod_eq_of_lt (small _)] at numbers
      refine ⟨utf8_injective senders, ?_, UInt64.toNat_inj.mp numbers, ?_⟩
      · exact crates.toBytes_injective _ _ inputs isInputs (rest ▸ isInputs')
      · cases ephemeral
        cases ephemeral'
        exact congrArg₂ ZkLoginSender.mk schemes keys

theorem checkLocally_ok {call : Call} {checked : Checked Inputs Digest}
    (passed : checkLocally crates call = .ok checked) :
    checked.call = call ∧
      crates.verifyPersonalMessage call.message checked.zklogin.signature = .ok () ∧
      Checks crates call.sender call.signature checked.zklogin checked.ephemeral checked.key := by
  unfold checkLocally at passed
  split at passed
  · cases passed
  · cases passed
  rename_i zklogin parsed
  dsimp only at passed
  split_ifs at passed with derives
  split at passed
  · cases passed
  rename_i verifies
  split at passed
  · cases passed
  rename_i ephemeral isEphemeral
  split at passed
  · cases passed
  rename_i key isKey
  cases passed
  refine ⟨rfl, verifies, parsed, ?_, isEphemeral, isKey⟩
  have someDerives : ((crates.deriveAddress zklogin.inputs).any fun address =>
      Text.eqIgnoreAsciiCase address call.sender) = true := by simpa using derives
  obtain ⟨address, isDerived, alike⟩ := List.any_eq_true.mp someDerives
  have lowered := eq_of_beq alike
  rw [(crates.address _ _ isDerived).1, Call.sender, toAsciiLowercase_twice] at lowered
  exact Call.sender.eq_1 call ▸ lowered ▸ isDerived

/-! ## The cache -/

/-- The proofs that are remembered, with the times at which they expire. -/
abbrev Authorized (Digest : Type) := OrderedMap Digest Nat

/-- What `remember` keeps: all, or what is not expired, or nothing. -/
def retained (authorized : Authorized Digest) (now : Nat) : Authorized Digest :=
  if authorized.entries.length < maxCachedAuthorizations then authorized
  else
    let live := authorized.filterValues fun expires => now < expires
    if live.entries.length < maxCachedAuthorizations then live else ∅

theorem retained_spec (authorized : Authorized Digest) (now : Nat) :
    (retained authorized now).entries ⊆ authorized.entries ∧
      (retained authorized now).entries.length < maxCachedAuthorizations := by
  rw [retained]
  dsimp only
  split_ifs with room more
  · exact ⟨List.Subset.refl _, room⟩
  · exact ⟨List.filter_subset_self _, more⟩
  · exact ⟨List.nil_subset _, Nat.succ_pos _⟩

variable [DecidableEq Digest]

def isAuthorized (authorized : Authorized Digest) (now : Nat) (key : Digest) : Bool :=
  (authorized.get key).any fun expires => now < expires

def remember (authorized : Authorized Digest) (now : Nat) (key : Digest) : Authorized Digest :=
  (retained authorized now).insert key (now + authorizationTtl)

/-! ## Runs -/

/-- A success of the proof check. -/
structure Acceptance where
  sender : String
  signature : Bytes
  time : Nat

/-- A call that was let in. -/
structure Returned where
  call : Call
  sender : ZkLoginSender
  time : Nat

structure State (Inputs Digest : Type) where
  now : Nat
  authorized : Authorized Digest
  awaiting : List (Checked Inputs Digest)
  accepted : List Acceptance
  returned : List Returned

inductive Input where
  | elapse (time : Nat)
  | verify (call : Call)
  /-- The proof check answers a call. -/
  | answer (place : Nat) (result : Except AuthError Unit)

/-- A step of a verifier that has a proof check, or has none. -/
def step (crates : Crates Inputs Digest) (enabled : Bool) (state : State Inputs Digest) :
    Input → State Inputs Digest
  | .elapse time => { state with now := state.now + time }
  | .verify call =>
    if !enabled then state
    else
      match checkLocally crates call with
      | .error _ => state
      | .ok checked =>
        if isAuthorized state.authorized state.now checked.key then
          { state with returned := state.returned ++ [⟨call, checked.ephemeral, state.now⟩] }
        else { state with awaiting := state.awaiting ++ [checked] }
  | .answer place result =>
    match state.awaiting[place]? with
    | none => state
    | some checked =>
      let awaiting := state.awaiting.eraseIdx place
      match result with
      | .error _ => { state with awaiting }
      | .ok () =>
        { state with
          awaiting
          authorized := remember state.authorized state.now checked.key
          accepted := state.accepted ++ [⟨checked.call.sender, checked.call.signature, state.now⟩]
          returned := state.returned ++ [⟨checked.call, checked.ephemeral, state.now⟩] }

def start : State Inputs Digest := ⟨0, ∅, [], [], []⟩

def reached (crates : Crates Inputs Digest) (enabled : Bool) (inputs : List Input) :
    State Inputs Digest :=
  inputs.foldl (step crates enabled) start

/-! ## The promise -/

/-- **Who is let in**: a sender that has signed this message, and whom the proof check has
accepted less than the TTL ago with the same inputs, epoch and ephemeral key. -/
def Justified (crates : Crates Inputs Digest) (accepted : List Acceptance)
    (returned : Returned) : Prop :=
  ∃ zklogin, crates.fromBytes returned.call.signature = .ok (.zkLogin zklogin) ∧
    crates.verifyPersonalMessage returned.call.message zklogin.signature = .ok () ∧
    returned.call.sender ∈ crates.deriveAddress zklogin.inputs ∧
    ephemeralKey zklogin.signature = .ok returned.sender ∧
    ∃ acceptance ∈ accepted, acceptance.sender = returned.call.sender ∧
      (∃ other, crates.fromBytes acceptance.signature = .ok (.zkLogin other) ∧
        other.inputs = zklogin.inputs ∧ other.maxEpoch = zklogin.maxEpoch ∧
        ephemeralKey other.signature = .ok returned.sender) ∧
      acceptance.time ≤ returned.time ∧ returned.time < acceptance.time + authorizationTtl

/-- **The promise**: whoever is let in is so rightly, what is remembered was accepted, and not too
much is. -/
structure NeverWidens (crates : Crates Inputs Digest) (state : State Inputs Digest) : Prop where
  returned : ∀ returned ∈ state.returned, Justified crates state.accepted returned
  remembered : ∀ entry ∈ state.authorized.entries, ∃ acceptance ∈ state.accepted,
    entry.2 = acceptance.time + authorizationTtl ∧
      ∃ zklogin ephemeral, Checks crates acceptance.sender acceptance.signature zklogin ephemeral
        entry.1
  bounded : state.authorized.entries.length ≤ maxCachedAuthorizations

/-! ## What a run keeps -/

theorem mem_remember {authorized : Authorized Digest} {now : Nat} {key : Digest}
    {entry : Digest × Nat} (isIn : entry ∈ (remember authorized now key).entries) :
    entry ∈ authorized.entries ∨ entry = (key, now + authorizationTtl) := by
  rw [remember, OrderedMap.mem_entries_iff, OrderedMap.get_insert] at isIn
  split_ifs at isIn with same
  · exact .inr (Prod.ext same (Option.some.inj isIn).symm)
  · exact .inl ((retained_spec authorized now).1 ((OrderedMap.mem_entries_iff _ _).mpr isIn))

theorem length_remember (authorized : Authorized Digest) (now : Nat) (key : Digest) :
    (remember authorized now key).entries.length ≤ maxCachedAuthorizations := by
  have few := (retained_spec authorized now).2
  rw [remember, OrderedMap.insert]
  split_ifs
  · simpa [OrderedMap.setEntry] using few.le
  · rw [List.length_append]
    exact few

/-- What every run keeps: the promise, and that awaiting calls were checked. -/
structure Inv (crates : Crates Inputs Digest) (state : State Inputs Digest) : Prop
    extends NeverWidens crates state where
  awaiting : ∀ checked ∈ state.awaiting, checkLocally crates checked.call = .ok checked
  past : ∀ acceptance ∈ state.accepted, acceptance.time ≤ state.now

omit [DecidableEq Digest] in
theorem Justified.mono {accepted more : List Acceptance} {returned : Returned}
    (justified : Justified crates accepted returned) :
    Justified crates (accepted ++ more) returned := by
  obtain ⟨zklogin, parsed, verifies, derived, ephemeral, acceptance, isIn, rest⟩ := justified
  exact ⟨zklogin, parsed, verifies, derived, ephemeral, acceptance,
    List.mem_append_left _ isIn, rest⟩

theorem Inv.step {state : State Inputs Digest} (inv : Inv crates state) (enabled : Bool)
    (input : Input) : Inv crates (ZkLogin.step crates enabled state input) := by
  cases input with
  | elapse time =>
    have past : ∀ acceptance ∈ state.accepted, acceptance.time ≤ state.now + time :=
      fun acceptance isIn => Nat.le_add_right_of_le (inv.past acceptance isIn)
    exact { inv with past }
  | verify call =>
    rw [ZkLogin.step]
    split_ifs
    · exact inv
    cases passed : checkLocally crates call with
    | error => exact inv
    | ok checked =>
      obtain ⟨isCall, verifies, checks⟩ := checkLocally_ok passed
      simp only
      split_ifs with known
      · -- the cache knows the key of an acceptance, which is that of this proof
        refine { inv with returned := fun returned isIn => ?_ }
        rcases List.mem_append.mp isIn with earlier | isLast
        · exact inv.returned returned earlier
        rw [List.mem_singleton.mp isLast]
        obtain ⟨expires, found, live⟩ := (Option.any_eq_true _ _).mp known
        obtain ⟨acceptance, isAccepted, isExpiry, other, ephemeral, otherChecks⟩ :=
          inv.remembered _ (OrderedMap.mem_entries_of_get _ found)
        obtain ⟨senders, inputs, epochs, rfl⟩ := otherChecks.alike checks
        refine ⟨checked.zklogin, checks.parsed, verifies, checks.derived, checks.isEphemeral,
          acceptance, isAccepted, senders,
          ⟨other, otherChecks.parsed, inputs, epochs, otherChecks.isEphemeral⟩,
          inv.past acceptance isAccepted, ?_⟩
        rw [← isExpiry]
        exact of_decide_eq_true live
      refine { inv with awaiting := fun other isIn => ?_ }
      rcases List.mem_append.mp isIn with earlier | isLast
      · exact inv.awaiting other earlier
      · rw [List.mem_singleton.mp isLast, isCall]
        exact passed
  | answer place result =>
    rw [ZkLogin.step]
    cases found : state.awaiting[place]? with
    | none => exact inv
    | some checked =>
      have awaiting : ∀ other ∈ state.awaiting.eraseIdx place,
          checkLocally crates other.call = .ok other := fun other isIn =>
        inv.awaiting other ((List.eraseIdx_sublist _ _).subset isIn)
      cases result with
      | error => exact { inv with awaiting }
      | ok =>
        obtain ⟨-, verifies, checks⟩ := checkLocally_ok
          (inv.awaiting checked (List.mem_of_getElem? found))
        have isNew : (⟨checked.call.sender, checked.call.signature, state.now⟩ : Acceptance) ∈
            state.accepted ++ [⟨checked.call.sender, checked.call.signature, state.now⟩] :=
          List.mem_append_right _ (List.mem_singleton_self _)
        refine ⟨⟨fun returned isIn => ?_, fun entry isIn => ?_, length_remember _ _ _⟩, awaiting,
          fun acceptance isIn => ?_⟩
        · rcases List.mem_append.mp isIn with earlier | isLast
          · exact (inv.returned returned earlier).mono
          rw [List.mem_singleton.mp isLast]
          exact ⟨checked.zklogin, checks.parsed, verifies, checks.derived, checks.isEphemeral, _,
            isNew, rfl, ⟨checked.zklogin, checks.parsed, rfl, rfl, checks.isEphemeral⟩,
            Nat.le_refl _, Nat.lt_add_of_pos_right (by decide)⟩
        · rcases mem_remember isIn with earlier | rfl
          · obtain ⟨acceptance, isAccepted, rest⟩ := inv.remembered entry earlier
            exact ⟨acceptance, List.mem_append_left _ isAccepted, rest⟩
          · exact ⟨_, isNew, rfl, _, _, checks⟩
        · rcases List.mem_append.mp isIn with earlier | isLast
          · exact inv.past acceptance earlier
          · rw [List.mem_singleton.mp isLast]

/-- **The cache never lets in more than the proof check does.** -/
theorem verify_never_widens (crates : Crates Inputs Digest) (enabled : Bool)
    (inputs : List Input) : NeverWidens crates (reached crates enabled inputs) := by
  have inv : Inv crates (reached crates enabled inputs) := by
    induction inputs using List.reverseRecOn with
    | nil =>
      exact ⟨⟨fun _ isIn => absurd isIn List.not_mem_nil, fun _ isIn => absurd isIn
        List.not_mem_nil, Nat.zero_le _⟩, fun _ isIn => absurd isIn List.not_mem_nil,
        fun _ isIn => absurd isIn List.not_mem_nil⟩
    | append_singleton inputs last ih =>
      rw [reached, List.foldl_append]
      exact ih.step enabled last
  exact inv.toNeverWidens

/-- Crates of one proof, whose hash is the text itself. -/
def oneProof : Crates Unit Bytes where
  fromBytes signature :=
    .ok (.zkLogin ⟨(), 5, .ed25519 signature ⟨List.replicate 32 7, List.length_replicate⟩⟩)
  deriveAddress _ := ["0x" ++ String.ofList (List.replicate 64 'a')]
  verifyPersonalMessage message signature :=
    if signature = .ed25519 message ⟨List.replicate 32 7, List.length_replicate⟩ then .ok ()
    else .error "signature"
  toBytes _ := .ok [1]
  blake2b256 := id
  address := by decide
  toBytes_injective _ _ _ _ _ := rfl
  blake2b256_injective _ _ := id

/-- Two messages of one sender: the proof is checked for the first, and remembered for the
second. -/
theorem second_is_remembered :
    let sender := "0x" ++ String.ofList (List.replicate 64 'A')
    let state := reached oneProof true
      [.verify ⟨[1], [1], sender⟩, .answer 0 (.ok ()), .elapse 599999, .verify ⟨[2], [2], sender⟩]
    (state.returned.map Returned.time = [0, 599999] ∧ state.accepted.length = 1) ∧
      NeverWidens oneProof state :=
  ⟨by decide +kernel, verify_never_widens oneProof true _⟩

end MessagingStack.Relayer.ZkLogin

import MessagingStack.Relayer.Deletion

/-!
# Who has spoken in a conversation

The paid-DM gate (`handlers/dm_gate.rs`) lets a message through when its sender has written in the
group before or the recipient has.  It asks the store for any row with that wallet as sender, and
membership sync writes system rows under a member's address.  As long as no such row is stored for a
wallet that has not spoken (`OwnVoice`), the gate reports only what wallets wrote
(`gate_reports_own_messages`).
-/

namespace MessagingStack.Relayer.DmGate

open Archive (changeRows RowChange)

/-! ## The relayer with its escrow index -/

/-- What happens to the relayer: its requests and background writes, and the paid escrows
membership sync indexes. -/
inductive Input where
  | relayer (input : CommitLog.Input)
  | recordPaidEscrow (escrow : PaidEscrowRecord)

def step (crates : Crates) (state : CommitLog.State) : Input → CommitLog.State
  | .relayer input => CommitLog.step crates state input
  | .recordPaidEscrow escrow =>
    { state with
      app := { state.app with storage := (state.app.storage.recordPaidEscrow escrow).2 } }

/-! ## Authors -/

/-- The group, sender and kind of a row: what no later write changes. -/
def author (row : Message) : String × String × MessageKind :=
  (row.groupId, row.senderWalletAddr, row.kind)

def authors (storage : InMemoryStorage) : List (String × String × MessageKind) :=
  storage.messages.map author

/-- Rows of the timeline: neither system rows nor encrypted events or MLS commits. -/
def isTimeline (kind : MessageKind) : Bool := !kind.isSystem && !kind.isControl

/-- The wallet has a timeline row of its own in the group. -/
def HasSpoken (storage : InMemoryStorage) (groupId wallet : String) : Prop :=
  ∃ row ∈ storage.messages, row.groupId = groupId ∧ row.senderWalletAddr = wallet ∧
    isTimeline row.kind = true

instance (storage : InMemoryStorage) (groupId wallet : String) :
    Decidable (HasSpoken storage groupId wallet) :=
  inferInstanceAs (Decidable (∃ row ∈ storage.messages, _))

variable {state : CommitLog.State} {groupId wallet : String} {before after : InMemoryStorage}
  {crates : Crates}

theorem hasSpoken_iff {storage : InMemoryStorage} :
    HasSpoken storage groupId wallet ↔
      ∃ kind, (groupId, wallet, kind) ∈ authors storage ∧ isTimeline kind = true := by
  constructor
  · rintro ⟨row, present, rfl, rfl, timeline⟩
    exact ⟨row.kind, List.mem_map.mpr ⟨row, present, rfl⟩, timeline⟩
  rintro ⟨kind, isAuthor, timeline⟩
  obtain ⟨row, present, same⟩ := List.mem_map.mp isAuthor
  simp only [author, Prod.mk.injEq] at same
  obtain ⟨rfl, rfl, rfl⟩ := same
  exact ⟨row, present, rfl, rfl, timeline⟩

theorem author_changeRows (rows : List Message) (id : Uuid) (change : RowChange) :
    (changeRows rows id change).map author = rows.map author := by
  rw [changeRows, List.map_map]
  refine List.map_congr_left fun row _ => ?_
  simp only [Function.comp_apply]
  split
  · cases change <;> rfl
  · rfl

section Storage

variable (storage : InMemoryStorage)

theorem authors_createMessage (message : Message) :
    authors (storage.createMessage message).2 = authors storage ∨
      authors (storage.createMessage message).2 = authors storage ++ [author message] := by
  rcases Archive.createMessage_rows storage message with same | ⟨-, order, stored⟩
  · exact .inl (by rw [authors, same, authors])
  · exact .inr (by rw [authors, stored, List.map_append]; rfl)

theorem authors_updateMessage (now : Timestamp) (id : Uuid) (encryptedMsg nonce : Bytes)
    (keyVersion : Int) (attachments : List Attachment) (signature : Bytes)
    (signatureVersion : Int) (publicKey : Bytes) :
    authors (storage.updateMessage now id encryptedMsg nonce keyVersion attachments signature
      signatureVersion publicKey).2 = authors storage := by
  rcases Archive.updateMessage_rows storage now id encryptedMsg nonce keyVersion attachments
    signature signatureVersion publicKey with ⟨reason, refused⟩ | ⟨_, _, -, -, -, -, rows⟩
  · rw [refused]
  · rw [authors, rows, author_changeRows, authors]

theorem authors_of_rows {after : InMemoryStorage} {id : Uuid} {change : RowChange}
    (rows : after.messages = storage.messages ∨
      after.messages = changeRows storage.messages id change) :
    authors after = authors storage := by
  rcases rows with same | changed
  · rw [authors, same, authors]
  · rw [authors, changed, author_changeRows, authors]

end Storage

/-- What follows the storage call of a `POST /messages` settles at most a payment request. -/
theorem authors_storeMessage (crates : Crates) (services : Services)
    (req : CreateMessageRequest) (prepared : PreparedMessage) (app : AppState)
    (message : Message) (transfer : Option TokenTransferCreate) :
    authors (storeMessage crates services req prepared message transfer app).2.storage =
      authors (app.storage.createMessage message).2 := by
  rcases CommitLog.storage_storeMessage crates services req prepared app message transfer with
    same | ⟨requestId, id, digest, marked⟩
  · rw [same]
  · rw [marked]
    exact authors_of_rows _ (Archive.updateMessageMetadataTrusted_rows _ _ _ _ _)

/-- The end of a `POST /messages` adds at most the author of its own row. -/
theorem authors_finishMessage (crates : Crates) (services : Services) (auth : AuthContext)
    (req : CreateMessageRequest) (prepared : PreparedMessage) (app : AppState) :
    authors (finishMessage crates services auth req prepared app).2.storage =
        authors app.storage ∨
      authors (finishMessage crates services auth req prepared app).2.storage =
        authors app.storage ++ [(req.groupId, req.senderAddress, prepared.kind)] := by
  rcases CommitLog.finishMessage_cases crates services auth req prepared app with
    ⟨reason, failed⟩ | ⟨signature, transfer, paymentPeer, stored, -⟩
  · exact .inl (by rw [failed])
  rw [stored]
  have isAuthor : author (buildMessage crates services auth req prepared signature transfer
      paymentPeer) = (req.groupId, req.senderAddress, prepared.kind) := by
    unfold buildMessage
    split <;> rfl
  have created := authors_createMessage app.storage
    (buildMessage crates services auth req prepared signature transfer paymentPeer)
  rw [isAuthor] at created
  rw [← authors_storeMessage crates services req prepared app _ transfer] at created
  exact created

/-! ## The condition -/

/-- A row that is not a timeline message is stored only for a wallet that has spoken. -/
def OwnVoice (state : CommitLog.State) : Input → Prop
  | .relayer (.system _ _ groupId member _ _ _ _) => HasSpoken state.app.storage groupId member
  | .relayer (.finish index _) =>
    ∀ pending ∈ state.inFlight[index]?, isTimeline pending.prepared.kind = false →
      HasSpoken state.app.storage pending.req.groupId pending.req.senderAddress
  | _ => True

instance (state : CommitLog.State) : (input : Input) → Decidable (OwnVoice state input)
  | .relayer (.system ..) => inferInstanceAs (Decidable (HasSpoken _ _ _))
  | .relayer (.finish ..) => inferInstanceAs (Decidable (∀ _ ∈ _, _))
  | .relayer (.begin ..) | .relayer (.abort ..) | .relayer (.put ..) | .relayer (.delete ..)
  | .relayer (.archive ..) | .relayer (.payment ..) | .relayer (.membership ..)
  | .relayer (.poison ..) | .recordPaidEscrow _ => .isTrue trivial

/-- Every row is by somebody who has spoken. -/
def Spoken (storage : InMemoryStorage) : Prop :=
  ∀ groupId wallet kind, (groupId, wallet, kind) ∈ authors storage →
    HasSpoken storage groupId wallet

theorem Spoken.of_same (spoken : Spoken before) (same : authors after = authors before) :
    Spoken after := by
  intro groupId wallet kind isAuthor
  rw [hasSpoken_iff, same, ← hasSpoken_iff]
  rw [same] at isAuthor
  exact spoken groupId wallet kind isAuthor

theorem Spoken.of_append (spoken : Spoken before) {kind : MessageKind}
    (grown : authors after = authors before ++ [(groupId, wallet, kind)])
    (own : isTimeline kind = false → HasSpoken before groupId wallet) : Spoken after := by
  have kept : ∀ group who, HasSpoken before group who → HasSpoken after group who := by
    intro group who has
    rw [hasSpoken_iff] at has ⊢
    obtain ⟨which, isAuthor, timeline⟩ := has
    exact ⟨which, by rw [grown]; exact List.mem_append_left _ isAuthor, timeline⟩
  intro group who which isAuthor
  rw [grown] at isAuthor
  rcases List.mem_append.mp isAuthor with isOld | isNew
  · exact kept group who (spoken group who which isOld)
  obtain ⟨rfl, rfl, rfl⟩ : group = groupId ∧ who = wallet ∧ which = kind := by simpa using isNew
  cases timeline : isTimeline which with
  | true =>
    rw [hasSpoken_iff]
    exact ⟨which, by rw [grown]; exact List.mem_append_right _ (by simp), timeline⟩
  | false => exact kept group who (own timeline)

theorem authors_step (crates : Crates) (state : CommitLog.State) (input : Input) :
    authors (step crates state input).app.storage = authors state.app.storage ∨
    ∃ groupId wallet kind,
      authors (step crates state input).app.storage =
        authors state.app.storage ++ [(groupId, wallet, kind)] ∧
      (OwnVoice state input → isTimeline kind = false →
        HasSpoken state.app.storage groupId wallet) := by
  cases input with
  | recordPaidEscrow =>
    refine .inl ?_
    simp only [DmGate.step, InMemoryStorage.recordPaidEscrow]
    split <;> rfl
  | relayer input =>
    cases input with
    | begin auth req =>
      refine .inl ?_
      have storage := Archive.beginMessage_storage crates req state.app
      simp only [DmGate.step, CommitLog.step]
      rcases began : beginMessage crates req state.app with ⟨outcome, app⟩
      rw [began] at storage
      cases outcome <;> exact congrArg authors storage
    | finish index services =>
      simp only [DmGate.step, CommitLog.step]
      cases found : state.inFlight[index]? with
      | none => exact .inl rfl
      | some pending =>
        rcases authors_finishMessage crates services pending.auth pending.req pending.prepared
          state.app with same | grown
        · exact .inl same
        · refine .inr ⟨_, _, _, grown, fun own => ?_⟩
          exact own pending (by simp [found])
    | abort | membership | poison => exact .inl rfl
    | put now auth req =>
      refine .inl ?_
      simp only [DmGate.step, CommitLog.step, updateMessage]
      split
      · rfl
      next encryptedMsg nonce attachments signature _ =>
      have same := authors_updateMessage state.app.storage now req.messageId encryptedMsg nonce
        req.keyVersion attachments signature req.signatureVersion auth.storedPublicKey
      split <;> next ran =>
        rw [ran] at same
        exact same
    | delete now auth id =>
      refine .inl ?_
      simp only [DmGate.step, CommitLog.step, deleteMessage]
      split
      · rfl
      have same := authors_of_rows state.app.storage
        (Archive.deleteMessage_rows state.app.storage now id)
      split <;> next ran =>
        rw [ran] at same
        exact same
    | system blake2b512 id groupId member systemType actor key createdAt =>
      rcases authors_createMessage state.app.storage
        (.newSystem blake2b512 id groupId member systemType actor key createdAt) with same | grown
      · exact .inl same
      · exact .inr ⟨_, _, _, grown, fun own _ => own⟩
    | archive now id =>
      refine .inl ?_
      show authors (state.app.storage.changeRow id _).2 = authors state.app.storage
      unfold InMemoryStorage.changeRow
      split
      · rfl
      rw [authors, authors, InMemoryStorage.replaceRow, List.map_map]
      refine List.map_congr_left fun row _ => ?_
      simp only [Function.comp_apply]
      split <;> rfl
    | payment now id patch allowedFromStatus =>
      exact .inl (authors_of_rows state.app.storage
        (Archive.updateMessageMetadataTrusted_rows state.app.storage now id patch
          allowedFromStatus))

theorem mem_authors_step (crates : Crates) (input : Input) {author : String × String × MessageKind}
    (isAuthor : author ∈ authors state.app.storage) :
    author ∈ authors (step crates state input).app.storage := by
  rcases authors_step crates state input with same | ⟨groupId, wallet, kind, grown, -⟩
  · rw [same]
    exact isAuthor
  · rw [grown]
    exact List.mem_append_left _ isAuthor

/-- **The step lemma**: under the condition every row stays by somebody who has spoken. -/
theorem Spoken.step (spoken : Spoken state.app.storage) (input : Input) (own : OwnVoice state input)
    :
    Spoken (step crates state input).app.storage := by
  rcases authors_step crates state input with same | ⟨groupId, wallet, kind, grown, isOwn⟩
  · exact spoken.of_same same
  · exact spoken.of_append grown (isOwn own)

/-! ## What the gate reports -/

section Gate

variable {crates : Crates} {services : Services} {storage : InMemoryStorage}
  {groupId sender recipient : String} {principalOwner : Option String} {full : Bool}
  {gate : PaidDmGate}

theorem evaluateSocialGate_flags {before : PaidDmGate}
    (evaluated : evaluateSocialGate services sender principalOwner recipient full before =
      .ok gate) :
    gate.firstOutbound = before.firstOutbound ∧
      gate.peerHasMessaged = before.peerHasMessaged ∧ gate.paid = before.paid ∧
      gate.peerPaid = before.peerPaid := by
  unfold evaluateSocialGate at evaluated
  simp only [bind, Except.bind, pure, Except.pure] at evaluated
  repeat' split at evaluated
  all_goals cases evaluated
  all_goals exact ⟨rfl, rfl, rfl, rfl⟩

theorem exists_row_of_hasMessageFrom {wallet : String}
    (asked : fromStorage crates (storage.hasMessageFrom groupId wallet) = .ok true) :
    ∃ kind, (groupId, wallet, kind) ∈ authors storage := by
  unfold fromStorage InMemoryStorage.hasMessageFrom at asked
  split at asked
  · next value isValue =>
    cases asked
    split at isValue
    · cases isValue
    · obtain ⟨row, present, same⟩ := List.any_eq_true.mp (Except.ok.inj isValue)
      simp only [Bool.and_eq_true, beq_iff_eq] at same
      exact ⟨row.kind, List.mem_map.mpr ⟨row, present, by simp [author, same.1, same.2]⟩⟩
  · cases asked

theorem evaluatePaidDmGate_flags
    (evaluated : evaluatePaidDmGate crates services storage (some groupId) sender
      principalOwner recipient full = .ok gate) :
    (gate.firstOutbound = false → ∃ kind, (groupId, sender, kind) ∈ authors storage) ∧
      (gate.peerHasMessaged = true → ∃ kind, (groupId, recipient, kind) ∈ authors storage) := by
  unfold evaluatePaidDmGate at evaluated
  simp only [bind, Except.bind, pure, Except.pure] at evaluated
  cases sent : fromStorage crates (storage.hasMessageFrom groupId sender) with
  | error => rw [sent] at evaluated; cases evaluated
  | ok hasSent =>
    have outbound : hasSent = true → ∃ kind, (groupId, sender, kind) ∈ authors storage := by
      rintro rfl
      exact exists_row_of_hasMessageFrom sent
    simp only [sent] at evaluated
    split at evaluated
    · cases evaluated
      refine ⟨fun first => outbound (by simpa using first), ?_⟩
      rintro ⟨⟩
    split at evaluated
    · cases evaluated
    split at evaluated
    · cases evaluated
    cases heard : fromStorage crates (storage.hasMessageFrom groupId recipient) with
    | error => simp only [heard] at evaluated; cases evaluated
    | ok hasHeard =>
      have inbound : hasHeard = true →
          ∃ kind, (groupId, recipient, kind) ∈ authors storage := by
        rintro rfl
        exact exists_row_of_hasMessageFrom heard
      simp only [heard] at evaluated
      split at evaluated
      · cases evaluated
        exact ⟨fun first => outbound (by simpa using first), inbound⟩
      · obtain ⟨first, peer, -, -⟩ := evaluateSocialGate_flags evaluated
        rw [first, peer]
        exact ⟨fun first => outbound (by simpa using first), inbound⟩

/-- Which escrows still count for the gate. -/
abbrev validity (services : Services) : PaidEscrowValidityFilter where
  nowMs := services.now
  paymentExpirationMs := services.paymentExpirationMs

/-- No wallet that counts for the sender, itself or its principal, has a valid escrow to the
recipient, nor the recipient one to it. -/
def NoEscrow (services : Services) (storage : InMemoryStorage) (groupId sender : String)
    (principalOwner : Option String) (recipient : String) : Prop :=
  ∀ wallet, wallet = sender ∨ principalOwner = some wallet →
    storage.escrowsBetween groupId wallet recipient (some (validity services)) = [] ∧
      storage.escrowsBetween groupId recipient wallet (some (validity services)) = []

theorem hasMessageFrom_of_silent {wallet : String} (healthy : storage.poisoned .messages = false)
    (silent : ∀ kind, (groupId, wallet, kind) ∉ authors storage) :
    storage.hasMessageFrom groupId wallet = .ok false := by
  simp only [InMemoryStorage.hasMessageFrom, healthy, Bool.false_eq_true, ↓reduceIte]
  congr 1
  rw [List.any_eq_false]
  intro row present same
  simp only [Bool.and_eq_true, beq_iff_eq] at same
  exact silent row.kind (List.mem_map.mpr ⟨row, present, by simp [author, same.1, same.2]⟩)

/-- **A stranger is asked for payment**: when neither side has a row in the group nor an
escrow, the sender does not follow the recipient and the recipient's policy requires a
minimum, the gate requires it. -/
theorem paymentRequired_of_silent {policy : PaidPolicy} {cost : Nat}
    (healthy : ∀ lock, storage.poisoned lock = false)
    (senderSilent : ∀ kind, (groupId, sender, kind) ∉ authors storage)
    (recipientSilent : ∀ kind, (groupId, recipient, kind) ∉ authors storage)
    (noEscrow : NoEscrow services storage groupId sender principalOwner recipient)
    (follows : services.isFollowing (principalOwner.getD sender) recipient = .ok false)
    (asks : services.paidPolicy recipient = .ok (some policy))
    (requires : policy.requiredMinCost = some cost) :
    ∃ gate, evaluatePaidDmGate crates services storage (some groupId) sender principalOwner
        recipient full = .ok gate ∧
      gate.paymentRequired = true ∧ gate.minCost = some cost := by
  have sent : fromStorage crates (storage.hasMessageFrom groupId sender) = .ok false := by
    rw [hasMessageFrom_of_silent (healthy .messages) senderSilent]
    rfl
  have heard : fromStorage crates (storage.hasMessageFrom groupId recipient) = .ok false := by
    rw [hasMessageFrom_of_silent (healthy .messages) recipientSilent]
    rfl
  have unpaid : ∀ wallet, wallet = sender ∨ principalOwner = some wallet →
      storage.hasPaidEscrow groupId wallet recipient 0 (some (validity services)) = .ok false := by
    intro wallet isWallet
    simp [InMemoryStorage.hasPaidEscrow, healthy .paidEscrows, (noEscrow wallet isWallet).1]
  have peerUnpaid : ∀ wallet, wallet = sender ∨ principalOwner = some wallet →
      storage.latestPaidEscrowAmount groupId recipient wallet (some (validity services)) =
        .ok none := by
    intro wallet isWallet
    simp [InMemoryStorage.latestPaidEscrowAmount, healthy .paidEscrows,
      (noEscrow wallet isWallet).2]
  have escrow : orPrincipal id
      (fromStorage crates (storage.hasPaidEscrow groupId sender recipient 0
        (some (validity services))))
      principalOwner
      (fun payer => fromStorage crates (storage.hasPaidEscrow groupId payer recipient 0
        (some (validity services)))) = .ok false := by
    rw [orPrincipal, unpaid sender (.inl rfl)]
    cases isPrincipal : principalOwner with
    | none => rfl
    | some principal =>
      simp only [unpaid principal (.inr isPrincipal)]
      rfl
  have peerEscrow : orPrincipal Option.isSome
      (fromStorage crates (storage.latestPaidEscrowAmount groupId recipient sender
        (some (validity services))))
      principalOwner
      (fun payee => fromStorage crates (storage.latestPaidEscrowAmount groupId recipient payee
        (some (validity services)))) = .ok none := by
    rw [orPrincipal, peerUnpaid sender (.inl rfl)]
    cases isPrincipal : principalOwner with
    | none => rfl
    | some principal =>
      simp only [peerUnpaid principal (.inr isPrincipal)]
      rfl
  refine ⟨{ PaidDmGate.initial services with
      following := some false, minCost := some cost, paymentRequired := true }, ?_, rfl, rfl⟩
  simp only [evaluatePaidDmGate, sent, heard, escrow, peerEscrow, bind, Except.bind,
    pure, Except.pure, Bool.not_false, Bool.not_true, Bool.and_false, Bool.false_eq_true,
    ↓reduceIte, Option.isSome_none, Bool.or_false, evaluateSocialGate, follows, asks, gateLookup,
    PaidDmGate.initial, Option.bind_some, requires, Option.isSome_some, Bool.and_self,
    Option.map_none]

end Gate

/-! ## Every run -/

/-- The relayer a run reaches. -/
def reached (crates : Crates) (inputs : List Input) : CommitLog.State :=
  inputs.foldl (step crates) CommitLog.start

theorem spoken_run (spoken : Spoken state.app.storage) {inputs : List Input}
    (own : Along (step crates) OwnVoice state inputs) :
    Spoken (inputs.foldl (step crates) state).app.storage := by
  induction inputs generalizing state with
  | nil => exact spoken
  | cons input rest ih => exact ih (spoken.step input own.1) own.2

theorem spoken_start : Spoken CommitLog.start.app.storage := by
  intro groupId wallet kind isAuthor
  cases isAuthor

/-- **The gate reports only what wallets wrote**, in every run that stores no other row for a
wallet that has not spoken: a sender that is not on its first message, and a peer that has
messaged, have a timeline row of their own in the group.  So a non-follower without an
escrow either way, who has not spoken and whose peer has not spoken and requires a
payment, is asked for it. -/
theorem gate_reports_own_messages (crates : Crates) (inputs : List Input)
    (own : Along (step crates) OwnVoice CommitLog.start inputs)
    (services : Services) (groupId sender recipient : String)
    (principalOwner : Option String) (full : Bool) :
    (∀ gate, evaluatePaidDmGate crates services (reached crates inputs).app.storage
        (some groupId) sender principalOwner recipient full = .ok gate →
      (gate.firstOutbound = false → HasSpoken (reached crates inputs).app.storage groupId sender) ∧
      (gate.peerHasMessaged = true →
        HasSpoken (reached crates inputs).app.storage groupId recipient)) ∧
    (∀ policy cost,
      (∀ lock, (reached crates inputs).app.storage.poisoned lock = false) →
      ¬HasSpoken (reached crates inputs).app.storage groupId sender →
      ¬HasSpoken (reached crates inputs).app.storage groupId recipient →
      NoEscrow services (reached crates inputs).app.storage groupId sender principalOwner
        recipient →
      services.isFollowing (principalOwner.getD sender) recipient = .ok false →
      services.paidPolicy recipient = .ok (some policy) →
      policy.requiredMinCost = some cost →
      ∃ gate, evaluatePaidDmGate crates services (reached crates inputs).app.storage
          (some groupId) sender principalOwner recipient full = .ok gate ∧
        gate.paymentRequired = true ∧ gate.minCost = some cost) := by
  have spoken : Spoken (reached crates inputs).app.storage := spoken_run spoken_start own
  refine ⟨?_, ?_⟩
  · intro gate evaluated
    obtain ⟨outbound, inbound⟩ := evaluatePaidDmGate_flags evaluated
    refine ⟨fun first => ?_, fun peer => ?_⟩
    · obtain ⟨kind, isAuthor⟩ := outbound first
      exact spoken groupId sender kind isAuthor
    · obtain ⟨kind, isAuthor⟩ := inbound peer
      exact spoken groupId recipient kind isAuthor
  intro policy cost healthy senderSilent recipientSilent noEscrow follows asks requires
  exact paymentRequired_of_silent healthy
    (fun kind isAuthor => senderSilent (spoken groupId sender kind isAuthor))
    (fun kind isAuthor => recipientSilent (spoken groupId recipient kind isAuthor))
    noEscrow follows asks requires

/-! ### A new conversation -/

/-- Bob asks five coins of strangers, and Alice does not follow him. -/
def sampleServices : Services :=
  { CommitLog.sampleServices with
    messageGateEnabled := true
    paidPolicy := fun wallet =>
      .ok (if wallet = "0xb" then some { enabled := true, minCost := some 5 } else none) }

/-- Alice writes while nobody asks for payment; the row about her joining comes late. -/
def spokenInputs : List Input :=
  [.relayer (.begin CommitLog.sampleAuth Archive.samplePost),
    .relayer (.finish 0 CommitLog.sampleServices),
    .relayer (.system (fun bytes => bytes) 8 "g" "0xa" .memberJoined none "joined 0xa" 1)]

/-- Membership sync records that Bob joined the conversation. -/
def joinedInputs : List Input :=
  [.relayer (.system (fun bytes => bytes) 8 "g" "0xb" .memberJoined none "joined 0xb" 1)]

/-- Alice has spoken in `g`, and in `h` she is a stranger to Bob who has to pay. -/
theorem gate_reports_own_messages_of_spokenInputs :
    HasSpoken (reached CommitLog.sampleCrates spokenInputs).app.storage "g" "0xa" ∧
    ∃ gate, evaluatePaidDmGate CommitLog.sampleCrates sampleServices
        (reached CommitLog.sampleCrates spokenInputs).app.storage (some "h") "0xa" none "0xb"
        false = .ok gate ∧
      gate.paymentRequired = true ∧ gate.minCost = some 5 := by
  have run : Along (step CommitLog.sampleCrates) OwnVoice CommitLog.start spokenInputs ∧
      HasSpoken (reached CommitLog.sampleCrates spokenInputs).app.storage "g" "0xa" ∧
      ¬HasSpoken (reached CommitLog.sampleCrates spokenInputs).app.storage "h" "0xa" ∧
      ¬HasSpoken (reached CommitLog.sampleCrates spokenInputs).app.storage "h" "0xb" ∧
      (reached CommitLog.sampleCrates spokenInputs).app.storage.paidEscrows = [] ∧
      (reached CommitLog.sampleCrates spokenInputs).app.storage.poisoned .messages = false ∧
      (reached CommitLog.sampleCrates spokenInputs).app.storage.poisoned .groupOrders = false ∧
      (reached CommitLog.sampleCrates spokenInputs).app.storage.poisoned .nonces = false ∧
      (reached CommitLog.sampleCrates spokenInputs).app.storage.poisoned .paidEscrows = false := by
    decide +kernel
  obtain ⟨own, spoken, senderSilent, recipientSilent, unpaid, messages, orders, nonces, escrows⟩ :=
    run
  refine ⟨spoken, (gate_reports_own_messages CommitLog.sampleCrates spokenInputs own
    sampleServices "h" "0xa" "0xb" none false).2 { enabled := true, minCost := some 5 } 5 ?_
    senderSilent recipientSilent ?_ rfl rfl rfl⟩
  · intro lock
    cases lock with
    | messages => exact messages
    | groupOrders => exact orders
    | nonces => exact nonces
    | paidEscrows => exact escrows
  · intro wallet _
    simp [InMemoryStorage.escrowsBetween, unpaid]

/-- **The row about a member opens the gate**: once membership sync has recorded that Bob
joined, Alice's first message to him is free, although Bob has not spoken, nobody has
paid, Alice does not follow him and his policy asks five coins. -/
theorem join_row_opens_gate :
    ¬HasSpoken (reached CommitLog.sampleCrates joinedInputs).app.storage "g" "0xb" ∧
    (reached CommitLog.sampleCrates joinedInputs).app.storage.paidEscrows = [] ∧
    evaluatePaidDmGate CommitLog.sampleCrates sampleServices
        (reached CommitLog.sampleCrates joinedInputs).app.storage (some "g") "0xa" none "0xb"
        true =
      .ok
        { firstOutbound := true, paid := false, peerPaid := false, peerEscrowAmount := none,
          peerHasMessaged := true, following := some false, minCost := some 5,
          minReplyChars := 0, paymentRequired := false } := by
  refine ⟨by decide +kernel, by decide +kernel, by rfl⟩

end MessagingStack.Relayer.DmGate

import MessagingStack.Relayer.PaidOpening

/-!
# Whether an opened conversation stays open

The paid-DM gate asks for a payment before a conversation is opened, and replies are free.  What
has opened it, the gate looks up again each time: a row of either side, or an escrow between the
two.  A row is there for good, deleted or not (`authors_run`).  An escrow counts only while its
window lasts, from its creation for as long as the configuration says at the time of the question;
afterwards a conversation that was opened by nothing else is locked again.
-/

namespace MessagingStack.Relayer.OpenedConversation

open Contract (Namespace)
open DmGate (authors validity)

/-! ## When the gate asks for a payment -/

/-- Who asks the gate about whom. -/
structure Pair where
  groupId : String
  sender : String
  principalOwner : Option String
  recipient : String

/-- The wallets whose payments count for the sender: its own and its principal's. -/
def Pair.Payer (pair : Pair) (wallet : String) : Prop :=
  wallet = pair.sender ∨ pair.principalOwner = some wallet

/-- `evaluate_paid_dm_gate` for the pair. -/
def Pair.evaluate (pair : Pair) (crates : Crates) (services : Services)
    (storage : InMemoryStorage) (full : Bool) : Except ApiError PaidDmGate :=
  evaluatePaidDmGate crates services storage (some pair.groupId) pair.sender pair.principalOwner
    pair.recipient full

def Pair.Concerns (pair : Pair) (escrow : PaidEscrowRecord) : Prop :=
  escrow.groupId = pair.groupId ∧ ∃ wallet, pair.Payer wallet ∧
    (escrow.payer = wallet ∧ escrow.recipient = pair.recipient ∧ 0 ≤ escrow.amount ∨
      escrow.payer = pair.recipient ∧ escrow.recipient = wallet)

/-- **Lapsed**: the store answers; neither side has a row in the group; the window of every
escrow between them is over; and the sender, who does not follow the recipient, would have to
pay. -/
structure Lapsed (pair : Pair) (services : Services) (storage : InMemoryStorage) : Prop where
  messagesAnswer : storage.poisoned .messages = false
  escrowsAnswer : storage.poisoned .paidEscrows = false
  senderSilent : ∀ kind, (pair.groupId, pair.sender, kind) ∉ authors storage
  recipientSilent : ∀ kind, (pair.groupId, pair.recipient, kind) ∉ authors storage
  windowsOver : ∀ escrow ∈ storage.paidEscrows, pair.Concerns escrow →
    (validity services).isValid escrow.createdAtMs = false
  stranger : services.isFollowing (pair.principalOwner.getD pair.sender) pair.recipient = .ok false
  asked : ∃ policy cost, services.paidPolicy pair.recipient = .ok (some policy) ∧
    policy.requiredMinCost = some cost

section Gate

variable {crates : Crates} {services : Services} {storage : InMemoryStorage}
  {groupId sender recipient : String} {principalOwner : Option String} {full : Bool}
  {gate : PaidDmGate}

theorem socialGate_asks {before : PaidDmGate} (free : before.paymentRequired = false) :
    (∃ gate, evaluateSocialGate services sender principalOwner recipient full before = .ok gate ∧
      gate.paymentRequired = true) ↔
    (before.firstOutbound = true ∧ before.paid = false ∧ before.peerPaid = false ∧
      before.peerHasMessaged = false) ∧
    services.isFollowing (principalOwner.getD sender) recipient = .ok false ∧
    ∃ policy cost, services.paidPolicy recipient = .ok (some policy) ∧
      policy.requiredMinCost = some cost := by
  unfold evaluateSocialGate
  cases follows : services.isFollowing (principalOwner.getD sender) recipient with
  | error => simp [gateLookup, bind, Except.bind]
  | ok following =>
    cases following with
    | true =>
      cases full <;> cases asks : services.paidPolicy recipient <;>
        simp [gateLookup, bind, Except.bind, pure, Except.pure, free]
    | false =>
      cases asks : services.paidPolicy recipient with
      | error => simp [gateLookup, bind, Except.bind]
      | ok policy =>
        cases policy with
        | none => simp [gateLookup, bind, Except.bind, pure, Except.pure]
        | some =>
          simp [gateLookup, bind, Except.bind, pure, Except.pure, Option.isSome_iff_exists,
            and_assoc]

theorem orPrincipal_ok {α : Type} (sender : String) (principalOwner : Option String)
    (found : α → Bool) (lookup : String → α) :
    ∃ value, orPrincipal found (.ok (lookup sender)) principalOwner
        (fun wallet => .ok (lookup wallet)) = .ok value ∧
      (found value = false ↔
        ∀ wallet, wallet = sender ∨ principalOwner = some wallet →
          found (lookup wallet) = false) := by
  cases own : found (lookup sender) with
  | true =>
    refine ⟨lookup sender, by simp [orPrincipal, bind, Except.bind, own, pure, Except.pure], ?_⟩
    refine iff_of_false (by simp [own]) fun none => ?_
    cases none sender (.inl rfl) ▸ own
  | false =>
    cases principalOwner with
    | none =>
      refine ⟨lookup sender, by simp [orPrincipal, bind, Except.bind, own, pure, Except.pure], ?_⟩
      simp [own]
    | some principal =>
      refine ⟨lookup principal, by simp [orPrincipal, bind, Except.bind, own], ?_⟩
      constructor
      · rintro nothing wallet (rfl | same)
        · exact own
        · cases same
          exact nothing
      · exact fun nothing => nothing principal (.inr rfl)

theorem hasMessageFrom_ok (groupId wallet : String) (healthy : storage.poisoned .messages = false) :
    ∃ found, storage.hasMessageFrom groupId wallet = .ok found ∧
      (found = false ↔ ∀ kind, (groupId, wallet, kind) ∉ authors storage) := by
  refine ⟨_, by rw [InMemoryStorage.hasMessageFrom, healthy]; rfl, ?_⟩
  rw [List.any_eq_false]
  constructor
  · intro none kind isAuthor
    obtain ⟨row, present, same⟩ := List.mem_map.mp isAuthor
    simp only [DmGate.author, Prod.mk.injEq] at same
    exact none row present (by simp [same.1, same.2.1])
  · intro silent row present same
    simp only [Bool.and_eq_true, beq_iff_eq] at same
    exact silent row.kind (List.mem_map.mpr ⟨row, present, by simp [DmGate.author, same.1, same.2]⟩)

theorem newest_eq_none_iff (escrows : List PaidEscrowRecord) :
    (escrows.foldl (fun best escrow =>
      match best with
      | none => some escrow
      | some kept => if kept.seq ≤ escrow.seq then some escrow else some kept) none) = none ↔
      escrows = [] := by
  have kept : ∀ (rest : List PaidEscrowRecord) (first : PaidEscrowRecord),
      rest.foldl (fun best escrow =>
        match best with
        | none => some escrow
        | some kept => if kept.seq ≤ escrow.seq then some escrow else some kept)
        (some first) ≠ none := by
    intro rest
    induction rest with
    | nil => exact fun _ => Option.some_ne_none _
    | cons next rest ih =>
      intro first
      rw [List.foldl_cons]
      dsimp only
      split
      · exact ih next
      · exact ih first
  cases escrows with
  | nil => exact iff_of_true rfl rfl
  | cons first rest => exact iff_of_false (kept rest first) (List.cons_ne_nil _ _)

theorem hasPaidEscrow_ok (healthy : storage.poisoned .paidEscrows = false) (payer payee : String) :
    storage.hasPaidEscrow groupId payer payee 0 (some (validity services)) =
      .ok ((storage.escrowsBetween groupId payer payee (some (validity services))).any
        (·.amount ≥ 0)) := by
  rw [InMemoryStorage.hasPaidEscrow, healthy]
  rfl

/-- The amount of the newest escrow from the recipient to a wallet. -/
def newestAmount (services : Services) (storage : InMemoryStorage)
    (groupId payer payee : String) : Option Int :=
  ((storage.escrowsBetween groupId payer payee (some (validity services))).foldl
    (fun best escrow =>
      match best with
      | none => some escrow
      | some kept => if kept.seq ≤ escrow.seq then some escrow else some kept) none).map (·.amount)

theorem latestPaidEscrowAmount_ok (healthy : storage.poisoned .paidEscrows = false)
    (payer payee : String) :
    storage.latestPaidEscrowAmount groupId payer payee (some (validity services)) =
      .ok (newestAmount services storage groupId payer payee) := by
  rw [InMemoryStorage.latestPaidEscrowAmount, healthy]
  rfl

theorem windowsOver_iff (pair : Pair) :
    (∀ escrow ∈ storage.paidEscrows, pair.Concerns escrow →
      (validity services).isValid escrow.createdAtMs = false) ↔
    (∀ wallet, wallet = pair.sender ∨ pair.principalOwner = some wallet →
      (storage.escrowsBetween pair.groupId wallet pair.recipient (some (validity services))).any
        (·.amount ≥ 0) = false) ∧
    ∀ wallet, wallet = pair.sender ∨ pair.principalOwner = some wallet →
      (newestAmount services storage pair.groupId pair.recipient wallet).isSome = false := by
  have isBetween : ∀ (escrow : PaidEscrowRecord) (payer payee : String),
      escrow ∈ storage.escrowsBetween pair.groupId payer payee (some (validity services)) ↔
        escrow ∈ storage.paidEscrows ∧ (escrow.groupId = pair.groupId ∧ escrow.payer = payer ∧
          escrow.recipient = payee) ∧ (validity services).isValid escrow.createdAtMs = true := by
    intro escrow payer payee
    simp [InMemoryStorage.escrowsBetween, and_assoc]
  have noAmount : ∀ wallet, (newestAmount services storage pair.groupId pair.recipient
      wallet).isSome = false ↔ storage.escrowsBetween pair.groupId pair.recipient wallet
        (some (validity services)) = [] := by
    intro wallet
    rw [Option.isSome_eq_false_iff, Option.isNone_iff_eq_none, newestAmount, Option.map_eq_none_iff,
      newest_eq_none_iff]
  constructor
  · intro ended
    refine ⟨fun wallet isPayer => ?_, fun wallet isPayer => ?_⟩
    · rw [List.any_eq_false]
      intro escrow isIn enough
      obtain ⟨isRecord, ⟨inGroup, fromPayer, toPayee⟩, valid⟩ := (isBetween _ _ _).mp isIn
      have concerns : pair.Concerns escrow :=
        ⟨inGroup, wallet, isPayer, .inl ⟨fromPayer, toPayee, of_decide_eq_true enough⟩⟩
      cases ended escrow isRecord concerns ▸ valid
    rw [noAmount, List.eq_nil_iff_forall_not_mem]
    intro escrow isIn
    obtain ⟨isRecord, ⟨inGroup, fromPayer, toPayee⟩, valid⟩ := (isBetween _ _ _).mp isIn
    have concerns : pair.Concerns escrow := ⟨inGroup, wallet, isPayer, .inr ⟨fromPayer, toPayee⟩⟩
    cases ended escrow isRecord concerns ▸ valid
  rintro ⟨unpaid, peerUnpaid⟩ escrow isRecord ⟨inGroup, wallet, isPayer, direction⟩
  by_contra valid
  rw [Bool.not_eq_false] at valid
  rcases direction with ⟨fromPayer, toPayee, enough⟩ | ⟨fromPayer, toPayee⟩
  · have none := List.any_eq_false.mp (unpaid wallet isPayer) escrow
      ((isBetween _ _ _).mpr ⟨isRecord, ⟨inGroup, fromPayer, toPayee⟩, valid⟩)
    exact none (decide_eq_true enough)
  · have none := (noAmount wallet).mp (peerUnpaid wallet isPayer)
    have isIn := (isBetween _ _ _).mpr ⟨isRecord, ⟨inGroup, fromPayer, toPayee⟩, valid⟩
    cases none ▸ isIn

/-- **The gate asks for a payment** exactly if nothing keeps the conversation open any more. -/
theorem locked_iff (full : Bool) (pair : Pair) :
    (∃ gate, pair.evaluate crates services storage full = .ok gate ∧
      gate.paymentRequired = true) ↔ Lapsed pair services storage := by
  cases messages : storage.poisoned .messages with
  | true =>
    refine iff_of_false ?_ fun lapsed => ?_
    · rintro ⟨gate, evaluated, -⟩
      simp [Pair.evaluate, evaluatePaidDmGate, InMemoryStorage.hasMessageFrom, messages,
        fromStorage, bind, Except.bind] at evaluated
    · cases lapsed.messagesAnswer ▸ messages
  | false =>
    obtain ⟨sent, hasSent, sentIff⟩ := hasMessageFrom_ok pair.groupId pair.sender messages
    obtain ⟨heard, hasHeard, heardIff⟩ := hasMessageFrom_ok pair.groupId pair.recipient messages
    cases escrows : storage.poisoned .paidEscrows with
    | true =>
      refine iff_of_false ?_ fun lapsed => ?_
      · rintro ⟨gate, evaluated, required⟩
        simp only [Pair.evaluate, evaluatePaidDmGate, hasSent, fromStorage, bind, Except.bind,
          pure, Except.pure, InMemoryStorage.hasPaidEscrow, escrows, if_true,
          orPrincipal] at evaluated
        split at evaluated
        · cases evaluated
          cases required
        · cases evaluated
      · cases lapsed.escrowsAnswer ▸ escrows
    | false =>
      obtain ⟨paid, isPaid, paidIff⟩ := orPrincipal_ok pair.sender pair.principalOwner id
        fun wallet => (storage.escrowsBetween pair.groupId wallet pair.recipient
          (some (validity services))).any (·.amount ≥ 0)
      obtain ⟨amount, isAmount, amountIff⟩ := orPrincipal_ok pair.sender pair.principalOwner
        Option.isSome fun wallet => newestAmount services storage pair.groupId pair.recipient wallet
      have asIf : pair.evaluate crates services storage full =
          if !full && sent then .ok { PaidDmGate.initial services with firstOutbound := !sent }
          else
            let gate := { PaidDmGate.initial services with
              firstOutbound := !sent, paid := paid, peerPaid := amount.isSome,
              peerEscrowAmount := amount.map Int.toNat, peerHasMessaged := heard }
            if !full && (paid || amount.isSome || heard) then .ok gate
            else evaluateSocialGate services pair.sender pair.principalOwner pair.recipient full
              gate := by
        simp only [Pair.evaluate, evaluatePaidDmGate, hasSent, hasHeard, fromStorage,
          hasPaidEscrow_ok escrows, latestPaidEscrowAmount_ok escrows, isPaid, isAmount, bind,
          Except.bind, pure, Except.pure, Bool.not_not]
      rw [asIf]
      have lapsedIff : Lapsed pair services storage ↔
          (sent = false ∧ paid = false ∧ amount.isSome = false ∧ heard = false) ∧
          services.isFollowing (pair.principalOwner.getD pair.sender) pair.recipient = .ok false ∧
          ∃ policy cost, services.paidPolicy pair.recipient = .ok (some policy) ∧
            policy.requiredMinCost = some cost := by
        rw [sentIff, heardIff, amountIff]
        have paidIff' := paidIff
        rw [id] at paidIff'
        constructor
        · intro lapsed
          obtain ⟨unpaid, peerUnpaid⟩ := (windowsOver_iff pair).mp lapsed.windowsOver
          exact ⟨⟨lapsed.senderSilent, paidIff'.mpr unpaid, peerUnpaid, lapsed.recipientSilent⟩,
            lapsed.stranger, lapsed.asked⟩
        · rintro ⟨⟨senderSilent, unpaid, peerUnpaid, recipientSilent⟩, stranger, asked⟩
          exact ⟨messages, escrows, senderSilent, recipientSilent,
            (windowsOver_iff pair).mpr ⟨paidIff'.mp unpaid, peerUnpaid⟩, stranger, asked⟩
      rw [lapsedIff]
      by_cases early : (!full && sent) = true
      · rw [if_pos early]
        refine iff_of_false ?_ ?_
        · rintro ⟨gate, ⟨⟩, required⟩
          cases required
        · rintro ⟨⟨silent, -⟩, -⟩
          simp [silent] at early
      rw [if_neg early]
      dsimp only
      by_cases open' : (!full && (paid || amount.isSome || heard)) = true
      · rw [if_pos open']
        refine iff_of_false ?_ ?_
        · rintro ⟨gate, ⟨⟩, required⟩
          cases required
        · rintro ⟨⟨-, unpaid, peerUnpaid, silent⟩, -⟩
          simp [unpaid, peerUnpaid, silent] at open'
      · rw [if_neg open', socialGate_asks rfl]
        simp
end Gate

/-! ## Runs -/

/-- The world, and what the gate has answered about the pair. -/
structure State where
  world : PaidOpening.World
  /-- The gate has let the sender through because of an escrow or a row of the recipient's; -/
  opened : Bool
  /-- and it has found a row of the recipient's. -/
  peerWrote : Bool

inductive Input where
  /-- The chain, membership sync, a request to the relayer. -/
  | world (input : PaidOpening.Input)
  /-- The gate is evaluated for the pair, at some moment. -/
  | evaluate (services : Services) (full : Bool)

/-- The gate lets the sender through because somebody paid, or the recipient has written. -/
def Opens (gate : PaidDmGate) : Bool :=
  !gate.paymentRequired && (gate.paid || gate.peerPaid || gate.peerHasMessaged)

def start : State := ⟨PaidOpening.start, false, false⟩

def step (namespace_ : Namespace) (crates : Crates) (pair : Pair) (state : State) : Input → State
  | .world input => { state with world := PaidOpening.step namespace_ crates state.world input }
  | .evaluate services full =>
    match pair.evaluate crates services state.world.relayer.app.storage full with
    | .ok gate =>
      { state with
        opened := state.opened || Opens gate
        peerWrote := state.peerWrote || gate.peerHasMessaged }
    | .error _ => state

/-- **No lock**: once the conversation is opened, no evaluation asks for a payment. -/
def NoLock (crates : Crates) (pair : Pair) (state : State) : Input → Prop
  | .evaluate services full =>
    state.opened = true → ∀ gate,
      pair.evaluate crates services state.world.relayer.app.storage full = .ok gate →
        gate.paymentRequired = false
  | .world _ => True

/-- **In time**: where only escrows have opened the conversation, an evaluation finds it not
lapsed. -/
def InTime (pair : Pair) (state : State) : Input → Prop
  | .evaluate services _ =>
    state.opened = true → state.peerWrote = false →
      ¬Lapsed pair services state.world.relayer.app.storage
  | .world _ => True

/-- What the gate has found of the recipient's is still there. -/
def Remembers (pair : Pair) (state : State) : Prop :=
  state.peerWrote = true →
    ∃ kind, (pair.groupId, pair.recipient, kind) ∈ authors state.world.relayer.app.storage

variable {crates : Crates} {pair : Pair}

theorem mem_authors_world {namespace_ : Namespace} {world : PaidOpening.World}
    (input : PaidOpening.Input) {author : String × String × MessageKind}
    (isAuthor : author ∈ authors world.relayer.app.storage) :
    author ∈ authors (PaidOpening.step namespace_ crates world input).relayer.app.storage := by
  cases input with
  | chain => exact isAuthor
  | ingest =>
    simp only [PaidOpening.step]
    split
    · next record _ => exact DmGate.mem_authors_step crates (.recordPaidEscrow record) isAuthor
    · exact isAuthor
  | relayer input => exact DmGate.mem_authors_step crates (.relayer input) isAuthor

/-- **The step lemma**: a row of the recipient's that was found stays. -/
theorem Remembers.step {namespace_ : Namespace} {state : State} (remembers : Remembers pair state)
    (input : Input) :
    Remembers pair (step namespace_ crates pair state input) := by
  cases input with
  | world input =>
    intro wrote
    obtain ⟨kind, isAuthor⟩ := remembers wrote
    exact ⟨kind, mem_authors_world input isAuthor⟩
  | evaluate =>
    simp only [OpenedConversation.step]
    split
    · next gate evaluated =>
      intro wrote
      rcases Bool.or_eq_true_iff.mp wrote with before | now
      · exact remembers before
      · exact (DmGate.evaluatePaidDmGate_flags evaluated).2 now
    · exact remembers

/-- The two conditions agree on an evaluation. -/
theorem noLock_iff_inTime {state : State} (remembers : Remembers pair state) (input : Input) :
    NoLock crates pair state input ↔ InTime pair state input := by
  cases input with
  | world => exact Iff.rfl
  | evaluate services full =>
    constructor
    · intro noLock opened _ lapsed
      obtain ⟨gate, evaluated, required⟩ := (locked_iff full pair).mpr lapsed
      cases noLock opened gate evaluated ▸ required
    intro inTime opened gate evaluated
    by_contra required
    rw [Bool.not_eq_false] at required
    have lapsed := (locked_iff full pair).mp ⟨gate, evaluated, required⟩
    cases wrote : state.peerWrote with
    | true =>
      -- The recipient's row is still there, so the conversation has not lapsed.
      obtain ⟨kind, isAuthor⟩ := remembers wrote
      exact lapsed.recipientSilent kind isAuthor
    | false => exact inTime opened wrote lapsed

/-- **Opened conversations stay open** in a run exactly if, wherever only escrows have opened the
conversation, no evaluation comes after the windows of all escrows between the two, while
neither side has written and the sender would have to pay as a stranger. -/
theorem stays_open_iff (namespace_ : Namespace) (crates : Crates) (pair : Pair)
    (inputs : List Input) :
    Along (step namespace_ crates pair) (NoLock crates pair) start inputs ↔
      Along (step namespace_ crates pair) (InTime pair) start inputs :=
  Along.congr (fun _ input remembers => remembers.step input)
    (fun _ input remembers => noLock_iff_inTime remembers input)
    (fun wrote => absurd wrote Bool.false_ne_true) inputs

/-! ### A month later -/

/-- Alice is the sender, and Bob the recipient. -/
def samplePair : Pair where
  groupId := PaidOpening.formatAddress 1001
  sender := PaidOpening.formatAddress 1
  principalOwner := none
  recipient := PaidOpening.formatAddress 2

/-- Alice pays what Bob asks; the gate is asked at once, and when thirty days are over. -/
def monthInputs : List Input :=
  PaidOpening.minimumInputs.map .world ++
    [.evaluate PaidOpening.sampleServices false,
      .evaluate { PaidOpening.sampleServices with now := 31 * 86400000 } false]

theorem run_world (namespace_ : Namespace) (crates : Crates) (pair : Pair)
    (inputs : List PaidOpening.Input) (state : State) :
    (inputs.map .world).foldl (step namespace_ crates pair) state =
      { state with world := inputs.foldl (PaidOpening.step namespace_ crates) state.world } := by
  induction inputs generalizing state with
  | nil => rfl
  | cons input rest ih => exact ih _

/-- What an evaluation with an answer leaves behind. -/
theorem step_evaluate {services : Services} {full : Bool} {gate : PaidDmGate}
    (namespace_ : Namespace) (state : State)
    (evaluated : pair.evaluate crates services state.world.relayer.app.storage full = .ok gate) :
    step namespace_ crates pair state (.evaluate services full) =
      ⟨state.world, state.opened || Opens gate, state.peerWrote || gate.peerHasMessaged⟩ := by
  rw [step, evaluated]

/-- The world after Alice's payment was recorded. -/
def paidWorld : PaidOpening.World :=
  PaidOpening.reached Contract.sampleNamespace CommitLog.sampleCrates PaidOpening.minimumInputs

/-- **A month later the conversation is locked again**: Alice's payment has opened it, and she is
asked for another. -/
theorem month_locks_again :
    ¬Along (step Contract.sampleNamespace CommitLog.sampleCrates samplePair)
      (NoLock CommitLog.sampleCrates samplePair) start monthInputs := by
  intro noLock
  have opens : samplePair.evaluate CommitLog.sampleCrates PaidOpening.sampleServices
      paidWorld.relayer.app.storage false =
      .ok { PaidDmGate.initial PaidOpening.sampleServices with paid := true } := by rfl
  have asks : samplePair.evaluate CommitLog.sampleCrates
      { PaidOpening.sampleServices with now := 31 * 86400000 }
      paidWorld.relayer.app.storage false =
      .ok { PaidDmGate.initial PaidOpening.sampleServices with
        following := some false, minCost := some 5, paymentRequired := true } := by rfl
  obtain ⟨-, evaluations⟩ := (Along.append _ _ _).mp noLock
  rw [run_world] at evaluations
  obtain ⟨-, later, -⟩ := evaluations
  have after : step Contract.sampleNamespace CommitLog.sampleCrates samplePair
      ⟨paidWorld, false, false⟩ (.evaluate PaidOpening.sampleServices false) =
      ⟨paidWorld, true, false⟩ :=
    (step_evaluate Contract.sampleNamespace ⟨paidWorld, false, false⟩ opens).trans rfl
  change NoLock _ _ (step _ _ _ ⟨paidWorld, false, false⟩ _) _ at later
  rw [after] at later
  have free := later rfl _ asks
  cases free

end MessagingStack.Relayer.OpenedConversation

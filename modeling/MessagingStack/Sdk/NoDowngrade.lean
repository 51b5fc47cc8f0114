import MessagingStack.Sdk.SendPath

/-!
# No downgrade in an MLS group

A call that writes to an `mls1` group must hand the relayer what the MLS session sealed, or throw
without a request (`NoDowngrade`).  Whether it does is a matter of what the metadata reads of the
call show; `Downgrades` spells this out for each call, with the checks and services that may still
stop it, and `noDowngrade_iff` says that nothing else matters.
-/

namespace MessagingStack.Sdk.Send

open Async

/-! ## The property -/

/-- The request posts a row, or a new ciphertext for one. -/
def Request.IsRow : Request → Prop
  | .row .. => True
  | .update .. => True
  | _ => False

def Request.SealedFor (groupId : String) : Request → Prop
  | .row _ _ (.mls _ sealedFor _) _ => sealedFor = groupId
  | .update _ _ (.mls _ sealedFor _) => sealedFor = groupId
  | _ => False

/-- **No downgrade**: every row a call posts is one the MLS session sealed, and a call that
posts none throws without any request. -/
structure NoDowngrade (groupId : String) (outcome : Outcome SendError Unit)
    (requests : List Request) : Prop where
  sealed : ∀ request ∈ requests, request.IsRow → request.SealedFor groupId
  otherwise : (∀ request ∈ requests, ¬request.IsRow) → requests = [] ∧ outcome ≠ .ok ()

/-! ## The condition -/

/-- The awaited service resolves. -/
def Resolves {α : Type} (answer : Outcome SendError α) : Prop := ∃ value, answer = .ok value

section Condition

variable (setting : Setting) (call : Call)

/-- What the next metadata read shows as the `e2ee` value. -/
def shown : Outcome SendError (Option String) :=
  match call.reads with
  | [] => .crash
  | read :: _ =>
    match (readMetadata setting call.metadataCache false read).1 with
    | .ok metadata => .ok (e2eeValue metadata)
    | .error reason => .error reason
    | .crash => .crash

def afterRead : Call :=
  match call.reads with
  | [] => call
  | read :: rest =>
    { call with
      metadataCache := (readMetadata setting call.metadataCache false read).2
      reads := rest }

/-- An envelope goes out under the DEK alone: the read of `#e2eeFlag` shows no `mls1`, and
nothing else rejects. -/
def PlainEnvelope : Prop :=
  Resolves setting.answers.currentKeyVersion ∧ Resolves setting.answers.encrypt ∧
    (∃ flag, shown setting call = .ok flag ∧ flag ≠ some "mls1") ∧
    Resolves setting.answers.sign

def Uploads (files : Nat) : Prop :=
  0 < files → setting.attachments = true ∧ Resolves setting.answers.upload

def LegacySend (options : SendMessageOptions) : Prop :=
  Resolves setting.answers.currentKeyVersion ∧ Resolves setting.answers.encrypt ∧
    Uploads setting options.files ∧ legacyKindError setting options = none ∧
    Resolves setting.answers.sign

def LegacyEdit (options : EditMessageOptions) : Prop :=
  Resolves setting.answers.fetchMessage ∧ Resolves setting.answers.currentKeyVersion ∧
    Resolves setting.answers.encrypt ∧
    Uploads setting ((options.attachments.map (·.new)).getD 0) ∧
    Resolves setting.answers.sign

/-- The check for blocked conversations passes. -/
def NotBlocked (senderAddress : String) : Prop :=
  setting.blockGating = true → ∃ members, setting.answers.members = .ok members ∧
    ((members.filter (· ≠ senderAddress)).length = 1 →
      setting.answers.checkEitherBlocked = .ok false)

/-- What happens on the path that the read of `writesContentEnvelopeV2` leads to; a rejected
read leads to the legacy one. -/
def OnPath (envelope legacy : Prop) : Prop :=
  match shown setting call with
  | .ok flag => if isEnvelopeFlag flag then envelope else legacy
  | .error _ => legacy
  | .crash => False

def Downgrades : EntryPoint → Prop
  | .sendMessage options =>
    inputError options = none ∧ NotBlocked setting options.senderAddress ∧
      OnPath setting call
        (Uploads setting options.files ∧ envelopeKindError setting options = none ∧
          PlainEnvelope setting (afterRead setting call))
        (LegacySend setting options)
  | .editMessage options =>
    OnPath setting call
      (Uploads setting ((options.attachments.map (·.new)).getD 0) ∧
        PlainEnvelope setting (afterRead setting call))
      (LegacyEdit setting options)
  | .sendEvent _ _ => PlainEnvelope setting call
  | .addReaction options | .removeReaction options =>
    OnPath setting call
      (options.messageId.filter (· ≠ "") ≠ none ∧
        (∃ emoji, emojiToStorage setting options.emoji = .ok emoji) ∧
        PlainEnvelope setting (afterRead setting call))
      (∃ emoji, emojiToStorage setting options.emoji = .ok emoji)
  | .deleteMessage _ _ => OnPath setting call (PlainEnvelope setting (afterRead setting call)) True

end Condition

/-! ## Verdicts -/

/-- What a program that posts one thing at most did: nothing, a sealed row, or something
else; the latter exactly when `plain`. -/
inductive Verdict (groupId : String) (plain : Prop) (before : List Request)
    (outcome : Outcome SendError Unit) (after : List Request) : Prop where
  | quiet (same : after = before) (fails : outcome ≠ .ok ()) (kept : ¬plain)
  | wrapped (request : Request) (isRow : request.IsRow) (isSealed : request.SealedFor groupId)
      (posted : after = before ++ [request]) (kept : ¬plain)
  | bare (request : Request) (notSealed : ¬request.SealedFor groupId)
      (posted : after = before ++ [request]) (lost : plain)

theorem Verdict.keepsTo_iff {groupId : String} {plain : Prop}
    {outcome : Outcome SendError Unit} {after : List Request}
    (verdict : Verdict groupId plain [] outcome after) :
    NoDowngrade groupId outcome after ↔ ¬plain := by
  cases verdict with
  | quiet same fails kept =>
    subst same
    exact ⟨fun _ => kept, fun _ => ⟨by rintro _ ⟨⟩, fun _ => ⟨rfl, fails⟩⟩⟩
  | wrapped request isRow isSealed posted kept =>
    subst posted
    refine ⟨fun _ => kept, fun _ => ⟨?_, fun noRow => ?_⟩⟩
    · intro other isOther _
      obtain rfl : other = request := by simpa using isOther
      exact isSealed
    · exact absurd isRow (noRow request (by simp))
  | bare request notSealed posted lost =>
    subst posted
    refine ⟨fun holds => ?_, fun kept => absurd lost kept⟩
    by_cases isRow : request.IsRow
    · exact absurd (holds.sealed request (by simp) isRow) notSealed
    · have none := holds.otherwise (by simpa using isRow)
      simp at none

def Judged (groupId : String) (plain : Prop) (program : Program Unit) (call : Call) : Prop :=
  wp program (fun outcome after => Verdict groupId plain call.requests outcome after.requests) call

section Rules

variable {groupId : String} {plain : Prop} {call : Call} {α : Type}

theorem judged_run {program : Program α} {next : α → Program Unit} {outcome : Outcome SendError α}
    {after : Call} (ran : program call = (outcome, after)) (same : after.requests = call.requests)
    (needs : plain → Resolves outcome)
    (rest : ∀ value, outcome = .ok value → Judged groupId plain (next value) after) :
    Judged groupId plain (program >>= next) call := by
  unfold Judged
  rw [wp_bind]
  show continueWith next _ (program call).1 (program call).2
  rw [ran]
  cases outcome with
  | ok value =>
    have judged := rest value rfl
    unfold Judged at judged
    rwa [same] at judged
  | error | crash => exact .quiet same (by rintro ⟨⟩) fun holds => by obtain ⟨_, ⟨⟩⟩ := needs holds

theorem judged_await {answer : Outcome SendError α} {next : α → Program Unit}
    (needs : plain → Resolves answer)
    (rest : ∀ value, answer = .ok value → Judged groupId plain (next value) call) :
    Judged groupId plain (await answer >>= next) call :=
  judged_run rfl rfl needs rest

theorem judged_throw (reason : SendError) (kept : ¬plain) :
    Judged groupId plain (throw reason) call :=
  .quiet rfl (by rintro ⟨⟩) kept

theorem judged_check {error : Option SendError} {next : Unit → Program Unit}
    (needs : plain → error = none) (rest : error = none → Judged groupId plain (next ()) call) :
    Judged groupId plain (check error >>= next) call := by
  cases error with
  | none => exact rest rfl
  | some => exact .quiet rfl (by rintro ⟨⟩) fun holds => by cases needs holds

theorem judged_request {posted : Request} {answer : Outcome SendError Unit}
    {next : Unit → Program Unit}
    (quiet : Keeps (fun before after => after.requests = before.requests) (next ()))
    (verdict : posted.IsRow ∧ posted.SealedFor groupId ∧ ¬plain ∨
      ¬posted.SealedFor groupId ∧ plain) :
    Judged groupId plain (request posted answer >>= next) call := by
  have sends : ((request posted answer >>= next) call).2.requests =
      call.requests ++ [posted] := by
    cases answer with
    | ok =>
      show (next () { call with requests := call.requests ++ [posted] }).2.requests = _
      exact quiet _
    | error | crash => rfl
  show Verdict groupId plain call.requests ((request posted answer >>= next) call).1
    ((request posted answer >>= next) call).2.requests
  rw [sends]
  rcases verdict with ⟨isRow, isSealed, kept⟩ | ⟨notSealed, lost⟩
  · exact .wrapped posted isRow isSealed rfl kept
  · exact .bare posted notSealed rfl lost

end Rules

/-! ## Reads -/

section Reads

variable (setting : Setting) (call : Call)

theorem groupsMetadata_run : groupsMetadata setting false call =
    (match call.reads with
      | [] => .crash
      | read :: _ => (readMetadata setting call.metadataCache false read).1,
      afterRead setting call) := by
  unfold groupsMetadata afterRead
  cases call.reads <;> rfl

theorem e2eeFlag_run :
    e2eeFlag setting call = (shown setting call, afterRead setting call) := by
  unfold e2eeFlag shown
  rw [bind_run, groupsMetadata_run]
  cases call.reads with
  | nil => rfl
  | cons read =>
    dsimp only
    cases (readMetadata setting call.metadataCache false read).1 <;> rfl

/-- **Every failure reads as "not v2"**, short of a crash. -/
theorem writesContentEnvelopeV2_run :
    writesContentEnvelopeV2 setting call =
      (match shown setting call with
        | .ok flag => .ok (isEnvelopeFlag flag)
        | .error _ => .ok false
        | .crash => .crash,
        afterRead setting call) := by
  unfold writesContentEnvelopeV2 shown
  rw [tryCatch_run, bind_run, groupsMetadata_run]
  cases call.reads with
  | nil => rfl
  | cons read =>
    dsimp only
    cases (readMetadata setting call.metadataCache false read).1 <;> rfl

@[simp] theorem requests_afterRead : (afterRead setting call).requests = call.requests := by
  unfold afterRead
  cases call.reads <;> rfl

end Reads

section Calls

variable (setting : Setting) {call : Call}

/-! ## Envelopes -/

theorem keeps_await {α : Type} (answer : Outcome SendError α) :
    Keeps (fun before after : Call => after.requests = before.requests) (await answer) :=
  fun _ => rfl

instance : IsTrans Call fun before after => after.requests = before.requests :=
  ⟨fun _ _ _ first second => second.trans first⟩

instance : Std.Refl fun before after : Call => after.requests = before.requests := ⟨fun _ => rfl⟩

theorem keeps_storeOwnCopy (sender : Option String) :
    Keeps (fun before after : Call => after.requests = before.requests)
      (storeOwnCopy setting sender) := by
  cases sender with
  | none => exact Keeps.pure _
  | some => exact (keeps_await _).bind fun _ => keeps_await _

variable {plain : Prop} {groupId : String} {program : Program Unit}

theorem judged_postEnvelope_some (kept : ¬plain) (kind : RelayerKind) (sealed : Ciphertext)
    (idempotencyKey : Option String) (wallet : String) :
    Judged setting.group.groupId plain
      (postEnvelope setting kind sealed idempotencyKey (some wallet)) call := by
  have never {α : Type} (answer : Outcome SendError α) : plain → Resolves answer :=
    fun holds => absurd holds kept
  unfold postEnvelope rowText
  simp only [bind_assoc, pure_bind]
  refine judged_await (never _) fun readers _ => ?_
  refine judged_await (never _) fun _ _ => ?_
  refine judged_await (never _) fun _ _ => ?_
  exact judged_request (keeps_storeOwnCopy setting (some wallet)) (.inl ⟨trivial, rfl, kept⟩)

theorem judged_joinedSession (kept : ¬plain) (senderAddress : String) {next : String → Program Unit}
    (rest : ∀ wallet, Judged setting.group.groupId plain (next wallet) call) :
    Judged setting.group.groupId plain (joinedSession setting senderAddress >>= next) call := by
  unfold joinedSession
  dsimp only
  split
  · exact judged_run rfl rfl (fun holds => absurd holds kept) (by rintro wallet ⟨⟩)
  rw [bind_assoc]
  refine judged_await (fun holds => absurd holds kept) fun joined _ => ?_
  cases joined with
  | true => exact rest _
  | false => exact judged_run rfl rfl (fun holds => absurd holds kept) (by rintro wallet ⟨⟩)

theorem judged_postEnvelope_none (kind : RelayerKind) (keyVersion : Nat) (data : Plaintext)
    (idempotencyKey : Option String) (signs : plain ↔ Resolves setting.answers.sign) :
    Judged setting.group.groupId plain
      (postEnvelope setting kind (.dek setting.group.groupId keyVersion data) idempotencyKey none)
      call := by
  unfold postEnvelope rowText
  rw [pure_bind]
  refine judged_await signs.mp fun value signed => ?_
  refine judged_request (keeps_storeOwnCopy setting none) (.inr ⟨?_, signs.mpr ⟨value, signed⟩⟩)
  rintro ⟨⟩

variable (options : SendMessageOptions) (senderAddress : String)

/-- **An envelope** goes out unsealed exactly when `PlainEnvelope` says so. -/
theorem judged_sendEnvelope (envelope : ContentEnvelope) (idempotencyKey : Option String) :
    Judged setting.group.groupId (PlainEnvelope setting call)
      (sendEnvelope setting senderAddress envelope idempotencyKey) call := by
  refine judged_await And.left fun keyVersion version => ?_
  refine judged_await (fun plain => plain.2.1) fun _ encrypts => ?_
  unfold senderMlsSession
  rw [bind_assoc]
  refine judged_run (e2eeFlag_run setting call) (requests_afterRead setting call) ?_ ?_
  · rintro ⟨-, -, ⟨flag, isShown, -⟩, -⟩
    exact ⟨flag, isShown⟩
  intro flag isShown
  by_cases isMls : flag = some "mls1"
  · have kept : ¬PlainEnvelope setting call := by
      rintro ⟨-, -, ⟨other, isOther, notMls⟩, -⟩
      cases isShown ▸ isOther
      exact notMls isMls
    simp only [isMls, ne_eq, not_true_eq_false, if_false, bind_assoc, pure_bind]
    exact judged_joinedSession setting kept senderAddress
      (fun wallet => judged_postEnvelope_some setting kept _ _ idempotencyKey wallet)
  have signs : PlainEnvelope setting call ↔ Resolves setting.answers.sign :=
    ⟨fun plain => plain.2.2.2,
      fun signed => ⟨⟨_, version⟩, ⟨_, encrypts⟩, ⟨flag, isShown, isMls⟩, signed⟩⟩
  simp only [isMls, ne_eq, not_false_eq_true, if_true, pure_bind]
  exact judged_postEnvelope_none setting _ keyVersion _ idempotencyKey signs

/-! ## The calls -/

theorem judged_congr {other : Prop} (judged : Judged groupId plain program call)
    (same : plain ↔ other) :
    Judged groupId other program call := by
  rwa [propext same] at judged

theorem judged_onPath {envelope legacy : Prop} {next : Bool → Program Unit}
    (onEnvelope : Judged groupId envelope (next true) (afterRead setting call))
    (onLegacy : Judged groupId legacy (next false) (afterRead setting call)) :
    Judged groupId (OnPath setting call envelope legacy)
      (writesContentEnvelopeV2 setting >>= next) call := by
  have ran := writesContentEnvelopeV2_run setting call
  unfold OnPath
  cases isShown : shown setting call with
  | ok flag =>
    rw [isShown] at ran
    refine judged_run ran (requests_afterRead setting call) (fun _ => ⟨_, rfl⟩) ?_
    rintro path ⟨⟩
    cases path : isEnvelopeFlag flag with
    | true => exact judged_congr onEnvelope (by simp [path])
    | false => exact judged_congr onLegacy (by simp [path])
  | error =>
    rw [isShown] at ran
    refine judged_run ran (requests_afterRead setting call) (fun _ => ⟨_, rfl⟩) ?_
    rintro path ⟨⟩
    exact onLegacy
  | crash =>
    rw [isShown] at ran
    exact judged_run ran (requests_afterRead setting call) False.elim (by rintro path ⟨⟩)

theorem judged_uploadFiles {next : List EnvelopeAttachment → Program Unit}
    (needs : plain → setting.attachments = true ∧ Resolves setting.answers.upload)
    (rest : setting.attachments = true → Resolves setting.answers.upload → ∀ files,
      Judged groupId plain (next files) call)
    :
    Judged groupId plain (uploadFiles setting >>= next) call := by
  unfold uploadFiles
  split
  · next configured =>
    exact judged_await (fun holds => (needs holds).2) fun files uploaded =>
      rest configured ⟨files, uploaded⟩ files
  · next missing =>
    exact judged_run rfl rfl (fun holds => absurd (needs holds).1 missing) (by rintro _ ⟨⟩)

theorem judged_envelopeAttachments (files : Nat)
    {next : Option (List EnvelopeAttachment) → Program Unit} (needs : plain → Uploads setting files)
    (rest : Uploads setting files → ∀ att, Judged groupId plain (next att) call) :
    Judged groupId plain (envelopeAttachments setting files >>= next) call := by
  unfold envelopeAttachments
  split
  · next some =>
    rw [bind_assoc]
    exact judged_uploadFiles setting (fun holds => needs holds some)
      fun configured uploads att => rest (fun _ => ⟨configured, uploads⟩) _
  · next none => exact rest (fun some => absurd some none) _

theorem judged_legacyAttachments (files : Nat) {next : Unit → Program Unit}
    (needs : plain → Uploads setting files)
    (rest : Uploads setting files → Judged groupId plain (next ()) call) :
    Judged groupId plain (legacyAttachments setting files >>= next) call := by
  unfold legacyAttachments
  split
  · next some =>
    rw [bind_assoc]
    exact judged_uploadFiles setting (fun holds => needs holds some)
      fun configured uploads _ => rest fun _ => ⟨configured, uploads⟩
  · next none => exact rest fun some => absurd some none

theorem judged_last {posted : Request} {answer : Outcome SendError Unit}
    (notSealed : ¬posted.SealedFor groupId) (lost : plain) :
    Judged groupId plain (request posted answer) call := by
  have sends : (request posted answer call).2.requests = call.requests ++ [posted] := rfl
  exact .bare posted notSealed sends lost

theorem judged_sendMessageLegacy :
    Judged setting.group.groupId (LegacySend setting options)
      (sendMessageLegacy setting options) call := by
  refine judged_await And.left fun keyVersion version => ?_
  refine judged_await (fun plain => plain.2.1) fun _ encrypts => ?_
  refine judged_legacyAttachments setting options.files (fun plain => plain.2.2.1) fun uploads => ?_
  refine judged_check (fun plain => plain.2.2.2.1) fun valid => ?_
  refine judged_await (fun plain => plain.2.2.2.2) fun _ signs => ?_
  exact judged_last (by rintro ⟨⟩) ⟨⟨_, version⟩, ⟨_, encrypts⟩, uploads, valid, ⟨_, signs⟩⟩

theorem judged_sendMessageV2 :
    Judged setting.group.groupId
      (Uploads setting options.files ∧ envelopeKindError setting options = none ∧
        PlainEnvelope setting call)
      (sendMessageV2 setting options) call := by
  refine judged_envelopeAttachments setting options.files And.left fun uploads att => ?_
  refine judged_check (fun plain => plain.2.1) fun valid => ?_
  exact judged_congr (judged_sendEnvelope setting _ _ _)
    ⟨fun plain => ⟨uploads, valid, plain⟩, fun plain => plain.2.2⟩

theorem notBlocked_of {next : Unit → Program Unit}
    (needs : plain → NotBlocked setting senderAddress)
    (rest : NotBlocked setting senderAddress → Judged groupId plain (next ()) call) :
    Judged groupId plain (assertDmNotBlocked setting senderAddress >>= next) call := by
  unfold assertDmNotBlocked
  split
  · next open_ =>
    refine rest fun gated => ?_
    cases gated ▸ open_
  next gated =>
  have isGated : setting.blockGating = true := by simpa using gated
  rw [bind_assoc]
  refine judged_await (fun holds => ?_) fun members known => ?_
  · obtain ⟨members, known, -⟩ := needs holds isGated
    exact ⟨members, known⟩
  split
  · next notDirect =>
    exact rest fun _ => ⟨members, known, fun direct => absurd direct notDirect⟩
  next direct =>
  rw [bind_assoc]
  have passes (holds : plain) : setting.answers.checkEitherBlocked = .ok false := by
    obtain ⟨others, same, unblocked⟩ := needs holds isGated
    cases known ▸ same
    exact unblocked (not_not.mp direct)
  refine judged_await (fun holds => ⟨false, passes holds⟩) fun blocked answered => ?_
  cases blocked with
  | true =>
    refine judged_check (fun holds => ?_) (by rintro ⟨⟩)
    have passed := passes holds
    cases answered ▸ passed
  | false => exact rest fun _ => ⟨members, known, fun _ => answered⟩

theorem judged_sendMessage :
    Judged setting.group.groupId (Downgrades setting call (.sendMessage options))
      (sendMessage setting options) call := by
  refine judged_check And.left fun valid => ?_
  refine notBlocked_of setting options.senderAddress (fun plain => plain.2.1) fun notBlocked => ?_
  refine judged_congr (judged_onPath setting (judged_sendMessageV2 setting options)
    (judged_sendMessageLegacy setting options)) ?_
  exact ⟨fun path => ⟨valid, notBlocked, path⟩, fun plain => plain.2.2⟩

theorem judged_editMessageLegacy (options : EditMessageOptions) :
    Judged setting.group.groupId (LegacyEdit setting options)
      (editMessageLegacy setting options) call := by
  refine judged_await And.left fun existing fetched => ?_
  refine judged_await (fun plain => plain.2.1) fun keyVersion version => ?_
  refine judged_await (fun plain => plain.2.2.1) fun _ encrypts => ?_
  refine judged_legacyAttachments setting _ (fun plain => plain.2.2.2.1) fun uploads => ?_
  refine judged_await (fun plain => plain.2.2.2.2) fun _ signs => ?_
  exact judged_last (by rintro ⟨⟩) ⟨⟨_, fetched⟩, ⟨_, version⟩, ⟨_, encrypts⟩, uploads, ⟨_, signs⟩⟩

theorem judged_editMessageV2 (options : EditMessageOptions) :
    Judged setting.group.groupId
      (Uploads setting ((options.attachments.map (·.new)).getD 0) ∧ PlainEnvelope setting call)
      (editMessageV2 setting options) call := by
  unfold editMessageV2 editedAttachments
  cases options.attachments with
  | none =>
    refine judged_congr (judged_sendEnvelope setting _ _ _) ?_
    exact ⟨fun plain => ⟨fun some => absurd some (by simp), plain⟩, And.right⟩
  | some changes =>
    simp only [bind_assoc, pure_bind]
    refine judged_envelopeAttachments setting changes.new And.left fun uploads added => ?_
    exact judged_congr (judged_sendEnvelope setting _ _ _)
      ⟨fun plain => ⟨uploads, plain⟩, And.right⟩

theorem judged_editMessage (options : EditMessageOptions) :
    Judged setting.group.groupId (Downgrades setting call (.editMessage options))
      (editMessage setting options) call :=
  judged_onPath setting (judged_editMessageV2 setting options)
    (judged_editMessageLegacy setting options)

theorem judged_withEmoji (emoji : String) {next : String → Program Unit}
    (needs : plain → ∃ normalized, emojiToStorage setting emoji = .ok normalized)
    (rest : (∃ normalized, emojiToStorage setting emoji = .ok normalized) → ∀ normalized,
      Judged groupId plain (next normalized) call)
    :
    Judged groupId plain (withEmoji setting emoji next) call := by
  unfold withEmoji
  cases stored : emojiToStorage setting emoji with
  | error reason =>
    refine judged_throw reason fun holds => ?_
    obtain ⟨normalized, isStored⟩ := needs holds
    cases stored ▸ isStored
  | ok normalized => exact rest ⟨normalized, stored⟩ normalized

theorem judged_react (options : ReactionOptions) (add : Bool) :
    Judged setting.group.groupId (Downgrades setting call (.addReaction options))
      (react setting options add) call := by
  refine judged_onPath setting ?_ ?_
  · show Judged _ _ (reactV2 setting options add) _
    unfold reactV2
    cases isId : options.messageId.filter (· ≠ "") with
    | none => exact judged_throw _ fun plain => plain.1 rfl
    | some =>
      refine judged_withEmoji setting options.emoji (fun plain => plain.2.1) fun stored emoji => ?_
      exact judged_congr (judged_sendEnvelope setting _ _ _)
        ⟨fun plain => ⟨by simp, stored, plain⟩, fun plain => plain.2.2⟩
  · exact judged_withEmoji setting options.emoji id fun stored emoji =>
      judged_last (by rintro ⟨⟩) stored

/-! ### Deletions -/

theorem noDowngrade_delete {posted delete : Request} {outcome : Outcome SendError Unit}
    (isDelete : ¬delete.IsRow) :
    NoDowngrade groupId outcome [posted, delete] ↔ posted.IsRow ∧ posted.SealedFor groupId := by
  constructor
  · intro holds
    by_cases isRow : posted.IsRow
    · exact ⟨isRow, holds.sealed posted (by simp) isRow⟩
    · have none := holds.otherwise (by simp [isRow, isDelete])
      simp at none
  rintro ⟨isRow, isSealed⟩
  refine ⟨?_, fun noRow => absurd isRow (noRow posted (by simp))⟩
  intro other isOther row
  rcases List.mem_pair.mp isOther with rfl | rfl
  · exact isSealed
  · exact absurd row isDelete

theorem noDowngrade_then_delete (messageId : String) (judged : Judged groupId plain program call)
    (fresh : call.requests = []) :
    wp (program >>= fun _ => deleteRow setting messageId)
      (fun outcome after => NoDowngrade groupId outcome after.requests) call ↔ ¬plain := by
  unfold Judged at judged
  rw [wp_bind]
  show continueWith _ _ (program call).1 (program call).2 ↔ _
  change Verdict groupId plain call.requests (program call).1 (program call).2.requests at judged
  rw [fresh] at judged
  rcases ran : program call with ⟨outcome, after⟩
  rw [ran] at judged
  cases outcome with
  | ok =>
    have sends : (deleteRow setting messageId after).2.requests =
        after.requests ++ [.delete setting.group.groupId messageId] := rfl
    show NoDowngrade groupId (deleteRow setting messageId after).1
      (deleteRow setting messageId after).2.requests ↔ _
    rw [sends]
    cases judged with
    | quiet same fails => exact absurd rfl fails
    | wrapped request isRow isSealed posted kept =>
      dsimp only at posted
      rw [posted, List.nil_append, List.singleton_append, noDowngrade_delete (by rintro ⟨⟩)]
      exact ⟨fun _ => kept, fun _ => ⟨isRow, isSealed⟩⟩
    | bare request notSealed posted lost =>
      dsimp only at posted
      rw [posted, List.nil_append, List.singleton_append, noDowngrade_delete (by rintro ⟨⟩)]
      exact ⟨fun both => absurd both.2 notSealed, fun kept => absurd lost kept⟩
  | error | crash => exact judged.keepsTo_iff

theorem noDowngrade_deleteMessage (messageId : String) (fresh : call.requests = []) :
    wp (deleteMessage setting senderAddress messageId)
        (fun outcome after => NoDowngrade setting.group.groupId outcome after.requests) call ↔
      ¬Downgrades setting call (.deleteMessage senderAddress messageId) := by
  have freshAfter : (afterRead setting call).requests = [] := by rw [requests_afterRead, fresh]
  have onEnvelope := noDowngrade_then_delete setting messageId
    (judged_sendEnvelope setting senderAddress (.event (.delete messageId)) none) freshAfter
  have onLegacy : ¬wp (deleteRow setting messageId)
      (fun outcome after => NoDowngrade setting.group.groupId outcome after.requests)
      (afterRead setting call) := by
    intro holds
    have sends : (deleteRow setting messageId (afterRead setting call)).2.requests =
        [.delete setting.group.groupId messageId] := by
      show (afterRead setting call).requests ++ _ = _
      rw [freshAfter, List.nil_append]
    change NoDowngrade _ _
      (deleteRow setting messageId (afterRead setting call)).2.requests at holds
    rw [sends] at holds
    have none := holds.otherwise (by simp [Request.IsRow])
    simp at none
  have ran := writesContentEnvelopeV2_run setting call
  unfold deleteMessage
  rw [wp_bind]
  show continueWith _ _ (writesContentEnvelopeV2 setting call).1
    (writesContentEnvelopeV2 setting call).2 ↔ _
  rw [ran]
  unfold Downgrades OnPath
  cases shown setting call with
  | ok flag =>
    dsimp only
    rw [continueWith_ok]
    cases isEnvelopeFlag flag with
    | true => simpa [deleteEvent] using onEnvelope
    | false => simpa [deleteEvent] using onLegacy
  | error => simpa [deleteEvent] using onLegacy
  | crash =>
    refine ⟨fun _ => not_false, fun _ => ⟨?_, fun _ => ⟨freshAfter, by rintro ⟨⟩⟩⟩⟩
    intro request isRequest
    cases freshAfter ▸ isRequest

theorem Judged.keepsTo_iff (judged : Judged groupId plain program call) (fresh : call.requests = [])
    :
    NoDowngrade groupId (program call).1 (program call).2.requests ↔ ¬plain := by
  change Verdict groupId plain call.requests (program call).1 (program call).2.requests at judged
  rw [fresh] at judged
  exact judged.keepsTo_iff

end Calls

/-! ## The theorem -/

/-- **A call keeps to the MLS session, or throws without a request, exactly when it does not
downgrade**: for every call, every cache, every metadata read, and every answer of the other
services. -/
theorem noDowngrade_iff (setting : Setting) (metadataCache : OrderedMap String Contract.Metadata)
    (reads : List MetadataRead) (entryPoint : EntryPoint) :
    NoDowngrade setting.group.groupId
        (entryPoint.run setting (.start metadataCache reads)).1
        (entryPoint.run setting (.start metadataCache reads)).2.requests ↔
      ¬Downgrades setting (.start metadataCache reads) entryPoint := by
  cases entryPoint with
  | sendMessage options => exact (judged_sendMessage setting options).keepsTo_iff rfl
  | editMessage options => exact (judged_editMessage setting options).keepsTo_iff rfl
  | sendEvent senderAddress event =>
    exact (judged_sendEnvelope setting senderAddress (.event event) none).keepsTo_iff rfl
  | addReaction options => exact (judged_react setting options true).keepsTo_iff rfl
  | removeReaction options => exact (judged_react setting options false).keepsTo_iff rfl
  | deleteMessage senderAddress messageId =>
    exact noDowngrade_deleteMessage setting senderAddress messageId rfl

/-! ## A group written to while its metadata cannot be read -/

/-- A client without attachments or block gating, whose wallet has a session in an `mls1`
group, and whom every service but the metadata read answers. -/
def sampleSetting : Setting where
  text := { trim := id, toLowerCase := id, normalizeNfc := id }
  derive := fun uuid => "group:" ++ uuid
  group :=
    { groupId := "group:u"
      metadata :=
        { name := "g", uuid := "u", creator := 1
          data := (∅ : OrderedMap String String).insert "e2ee" "mls1" }
      derived := rfl }
  attachments := false
  blockGating := false
  mlsSessions := ["0x1"]
  answers :=
    { members := .ok ["0x1", "0x2"], checkEitherBlocked := .ok false
      currentKeyVersion := .ok 0, encrypt := .ok (), upload := .error .rejected
      ensureGroup := .ok true, onChainReaders := .ok ["0x1", "0x2"], sealRow := .ok ()
      sign := .ok (), transport := .ok (), fetchMessage := .ok (some .text)
      storeOwn := .ok (), deleteMessage := .ok () }

/-- A text, as the application sends it. -/
def sampleOptions : SendMessageOptions where
  senderAddress := "0x1"
  text := some "hi"
  files := 0
  kind := none
  idempotencyKey := none
  paymentMetadata := none
  sharedPostAddress := none

/-- **The first read of an `mls1` group rejects, and the text goes out under the DEK.** -/
theorem rejected_read_downgrades :
    sampleSetting.group.metadata.data.get "e2ee" = some "mls1" ∧
      (EntryPoint.run sampleSetting (.sendMessage sampleOptions)
          (.start ∅ [⟨false, .rejected⟩])).1 = .ok () ∧
      (EntryPoint.run sampleSetting (.sendMessage sampleOptions)
          (.start ∅ [⟨false, .rejected⟩])).2.requests =
        [.row "group:u" (.legacy .text) (.dek "group:u" 0 (.text "hi")) none] ∧
      ¬NoDowngrade sampleSetting.group.groupId
        (EntryPoint.run sampleSetting (.sendMessage sampleOptions)
          (.start ∅ [⟨false, .rejected⟩])).1
        (EntryPoint.run sampleSetting (.sendMessage sampleOptions)
          (.start ∅ [⟨false, .rejected⟩])).2.requests := by
  have posts : (EntryPoint.run sampleSetting (.sendMessage sampleOptions)
      (.start ∅ [⟨false, .rejected⟩])).2.requests =
        [.row "group:u" (.legacy .text) (.dek "group:u" 0 (.text "hi")) none] := by
    decide +kernel
  refine ⟨by decide +kernel, by decide +kernel, posts, fun holds => ?_⟩
  rw [posts] at holds
  exact holds.sealed _ (List.mem_singleton_self _) trivial

end MessagingStack.Sdk.Send

import MessagingStack.Relayer.Paging
import MessagingStack.Sdk.Verification

/-!
# Room history

`getRoomMessages` (`client.ts`) reads a room in pages and checks each page as a whole before it
decrypts anything (`validateRoomHistoryPage` in `room-history.ts`): no more rows than were asked
for, all of this room, in order and inside the window, with sizes and attachments that a room may
have.  It goes on from the cursor the check returns.

Whatever a relayer answers, the cursor of accepted pages moves on and no order comes twice
(`Followed.increasing`, `Followed.decreasing`).  An honest relayer answers with `fetch_page`, which
counts only rows of the timeline: `room_history_iff` says on which logs its pages are accepted,
and that following them is then complete.
-/

namespace MessagingStack.Sdk.RoomHistory

open Relayer

open Verification (normalizeSharedPostAddress fromWireMessage fromWireAttachment)

/-! ## The checks -/

/-- Strict room pages are deliberately smaller than the general chat timeline. -/
def roomHistoryMaxPageSize : Int := 50

def maxCiphertextBytes : Nat := 1024 * 1024

def maxPageCiphertextBytes : Nat := 4 * 1024 * 1024

def isSafeInteger (value : Int) : Bool := -(2 ^ 53 - 1) ≤ value && value ≤ 2 ^ 53 - 1

structure Options where
  afterOrder : Option Int
  beforeOrder : Option Int
  limit : Option Int
  deriving DecidableEq

/-- A cursor as a request takes it. -/
def isCursor (value : Int) : Bool := isSafeInteger value && 0 ≤ value

def validateRoomHistoryRequest (options : Options) : Except String Int :=
  if ¬(options.afterOrder.all isCursor && options.beforeOrder.all isCursor) then
    .error "Room history cursors must be nonnegative safe integers"
  else if ∃ after ∈ options.afterOrder, ∃ before ∈ options.beforeOrder, after ≥ before then
    .error "Room history cursor window is empty or reversed"
  else
    let limit := options.limit.getD roomHistoryMaxPageSize
    if ¬isSafeInteger limit ∨ limit < 1 ∨ limit > roomHistoryMaxPageSize then
      .error "Room history limit must be between 1 and 50"
    else .ok limit

/-- What the check of a page reads of a `RelayerMessage`. -/
structure RoomRow where
  groupId : String
  messageId : String
  order : Int
  encryptedText : Bytes
  kind : MessageKind
  isDeleted : Bool
  nonce : Bytes
  keyVersion : Int
  senderAddress : String
  signature : String
  publicKey : String
  attachments : List Verification.Attachment
  deriving DecidableEq

def isHexPairs (low high : Nat) (text : String) : Bool :=
  let digits := text.toList
  digits.all Text.isAsciiHexdigit && digits.length % 2 == 0 &&
    low ≤ digits.length / 2 && digits.length / 2 ≤ high

/-- The room of a storage id, where it matches
`/^r2room:\/\/(0x)?([0-9a-fA-F]{1,64})\/([0-9a-f-]{36})$/i`. -/
def roomOf (storageId : String) : Option String :=
  match (Text.toAsciiLowercase storageId).toList with
  | 'r' :: '2' :: 'r' :: 'o' :: 'o' :: 'm' :: ':' :: '/' :: '/' :: rest =>
    let (lead, rest) :=
      match rest with
      | '0' :: 'x' :: rest => ("0x", rest)
      | rest => ("", rest)
    let digits := rest.takeWhile Text.isAsciiHexdigit
    match rest.dropWhile Text.isAsciiHexdigit with
    | '/' :: name =>
      if 1 ≤ digits.length ∧ digits.length ≤ 64 ∧ name.length = 36 ∧
          name.all fun c => Text.isAsciiHexdigit c || c == '-' then
        some (lead ++ String.ofList digits)
      else none
    | _ => none
  | _ => none

def isRoomAttachment (expectedGroup : String) (attachment : Verification.Attachment) : Bool :=
  (match roomOf attachment.storageId with
    | none => false
    | some room => normalizeSharedPostAddress (some room) == some expectedGroup) &&
  isHexPairs 12 12 attachment.nonce && isHexPairs 12 12 attachment.metadataNonce &&
  isHexPairs 1 131072 attachment.encryptedMetadata

/-- What is wrong with the fields of a row, wherever in a page it is. -/
def fieldError (expectedGroup : String) (raw : RoomRow) : Option String :=
  if raw.encryptedText.length > maxCiphertextBytes then
    some "Room history ciphertext exceeds the supported size"
  else if raw.kind ≠ .system ∧ !raw.isDeleted ∧
      (raw.nonce.length ≠ 12 ∨ raw.keyVersion < 0 ∨ raw.keyVersion > 2 ^ 64 - 1 ∨
        normalizeSharedPostAddress (some raw.senderAddress) = none ∨
        raw.signature.length > 1024 ∨ raw.publicKey.length > 512) then
    some "Room history contains invalid cryptographic fields"
  else if raw.attachments.length > 10 then
    some "Room history contains too many or malformed attachment references"
  else if !raw.attachments.all (isRoomAttachment expectedGroup) then
    some "Room history contains a malformed or wrong-room attachment reference"
  else none

/-- A row of this room that comes after the last one, inside the window. -/
def isNext (expectedGroup : String) (options : Options) (ids : List String) (lastOrder : Int)
    (raw : RoomRow) : Bool :=
  normalizeSharedPostAddress (some raw.groupId) == some expectedGroup &&
  raw.messageId != "" && raw.messageId.length ≤ 128 && !ids.contains raw.messageId &&
  isSafeInteger raw.order && raw.order > lastOrder && raw.order ≥ 0 &&
  options.afterOrder.all (· < raw.order) && options.beforeOrder.all (raw.order < ·)

/-- The pass over the rows; the order of the last one. -/
def checkRows (expectedGroup : String) (options : Options) :
    List RoomRow → List String → Int → Nat → Except String Int
  | [], _, lastOrder, _ => .ok lastOrder
  | raw :: rest, ids, lastOrder, bytes =>
    if !isNext expectedGroup options ids lastOrder raw then
      .error "Room history contains a wrong-room, duplicate or invalid cursor row"
    else
      match fieldError expectedGroup raw with
      | some reason => .error reason
      | none =>
        if bytes + raw.encryptedText.length > maxPageCiphertextBytes then
          .error "Room history page exceeds the supported size"
        else
          checkRows expectedGroup options rest (raw.messageId :: ids) raw.order
            (bytes + raw.encryptedText.length)

structure NextCursor where
  afterOrder : Option Int
  beforeOrder : Option Int
  deriving DecidableEq

/-- Validate the whole raw page before any decryption or plaintext release. -/
def validateRoomHistoryPage (messages : List RoomRow) (hasNext : Bool) (groupId : String)
    (options : Options) : Except String (Option NextCursor) :=
  match validateRoomHistoryRequest options with
  | .error reason => .error reason
  | .ok limit =>
    match normalizeSharedPostAddress (some groupId) with
    | none => .error "Invalid room history page"
    | some expectedGroup =>
      if messages.length > limit then .error "Invalid room history page"
      else
        match checkRows expectedGroup options messages [] (-1) 0 with
        | .error reason => .error reason
        | .ok lastOrder =>
          if !hasNext then .ok none
          else
            match messages with
            | [] => .error "Room history has a non-advancing empty page"
            | first :: _ =>
              match options.afterOrder with
              | none => .ok (some ⟨none, some first.order⟩)
              | some _ => .ok (some ⟨some lastOrder, options.beforeOrder⟩)

def Options.from (options : Options) (next : NextCursor) : Options :=
  { options with afterOrder := next.afterOrder, beforeOrder := next.beforeOrder }

/-! ## What the check of a page says -/

structure InRoom (expectedGroup : String) (options : Options) (raw : RoomRow) : Prop where
  group : normalizeSharedPostAddress (some raw.groupId) = some expectedGroup
  named : raw.messageId ≠ "" ∧ raw.messageId.length ≤ 128
  safe : isSafeInteger raw.order = true ∧ 0 ≤ raw.order
  after : ∀ after ∈ options.afterOrder, after < raw.order
  before : ∀ before ∈ options.beforeOrder, raw.order < before

theorem isNext_iff {expectedGroup : String} {options : Options} {ids : List String}
    {lastOrder : Int} {raw : RoomRow} :
    isNext expectedGroup options ids lastOrder raw = true ↔
      InRoom expectedGroup options raw ∧ raw.messageId ∉ ids ∧ lastOrder < raw.order := by
  unfold isNext
  simp only [Bool.and_eq_true, beq_iff_eq, bne_iff_ne, decide_eq_true_eq, Bool.not_eq_true',
    List.contains_eq_mem, decide_eq_false_iff_not, Option.all_eq_true]
  constructor
  · rintro ⟨⟨⟨⟨⟨⟨⟨⟨group, some⟩, short⟩, isNew⟩, safe⟩, above⟩, natural⟩, after⟩, before⟩
    exact ⟨⟨group, ⟨some, short⟩, ⟨safe, natural⟩, after, before⟩, isNew, above⟩
  · rintro ⟨inRoom, isNew, above⟩
    exact ⟨⟨⟨⟨⟨⟨⟨⟨inRoom.group, inRoom.named.1⟩, inRoom.named.2⟩, isNew⟩, inRoom.safe.1⟩, above⟩,
      inRoom.safe.2⟩, inRoom.after⟩, inRoom.before⟩

def ciphertextBytes (rows : List RoomRow) : Nat := (rows.map (·.encryptedText.length)).sum

def lastOrderOf (rows : List RoomRow) (lastOrder : Int) : Int :=
  (rows.getLast?.map (·.order)).getD lastOrder

/-- What a page must be for the pass over its rows, from the last row before it. -/
structure Sound (expectedGroup : String) (options : Options) (ids : List String) (lastOrder : Int)
    (bytes : Nat) (rows : List RoomRow) : Prop where
  inRoom : ∀ raw ∈ rows, InRoom expectedGroup options raw
  fields : ∀ raw ∈ rows, fieldError expectedGroup raw = none
  increasing : (lastOrder :: rows.map (·.order)).Pairwise (· < ·)
  distinct : (rows.map (·.messageId)).Nodup
  isNew : ∀ raw ∈ rows, raw.messageId ∉ ids
  size : bytes + ciphertextBytes rows ≤ maxPageCiphertextBytes

theorem lastOrderOf_cons (raw : RoomRow) (rest : List RoomRow) (lastOrder : Int) :
    lastOrderOf (raw :: rest) lastOrder = lastOrderOf rest raw.order := by
  unfold lastOrderOf
  rw [List.getLast?_cons]
  cases rest.getLast? <;> rfl

/-- **The pass over the rows.** -/
theorem checkRows_ok_iff {expectedGroup : String} {options : Options} {rows : List RoomRow}
    {ids : List String} {lastOrder last : Int} {bytes : Nat}
    (inSize : bytes ≤ maxPageCiphertextBytes) :
    checkRows expectedGroup options rows ids lastOrder bytes = .ok last ↔
      Sound expectedGroup options ids lastOrder bytes rows ∧ last = lastOrderOf rows lastOrder := by
  induction rows generalizing ids lastOrder bytes with
  | nil =>
    constructor
    · intro isOk
      cases isOk
      exact ⟨⟨nofun, nofun, by simp, by simp, nofun, by simpa [ciphertextBytes] using inSize⟩, rfl⟩
    · rintro ⟨-, rfl⟩
      rfl
  | cons raw rest ih =>
    rw [checkRows]
    have total : ciphertextBytes (raw :: rest) = raw.encryptedText.length +
      ciphertextBytes rest := by
      simp [ciphertextBytes]
    by_cases next : isNext expectedGroup options ids lastOrder raw = true
    · obtain ⟨inRoom, isNew, above⟩ := isNext_iff.mp next
      simp only [next, Bool.not_true, Bool.false_eq_true, if_false]
      cases isField : fieldError expectedGroup raw with
      | some =>
        refine ⟨nofun, fun ⟨sound, _⟩ => ?_⟩
        have isNone := sound.fields raw List.mem_cons_self
        cases isField ▸ isNone
      | none =>
        by_cases large : bytes + raw.encryptedText.length > maxPageCiphertextBytes
        · simp only [large, if_true]
          refine ⟨nofun, fun ⟨sound, _⟩ => ?_⟩
          have size := sound.size
          rw [total] at size
          omega
        simp only [large, if_false]
        rw [ih (by omega), lastOrderOf_cons]
        refine and_congr_left fun _ => ?_
        constructor
        · intro sound
          have increasing := List.pairwise_cons.mp sound.increasing
          refine ⟨?_, ?_, ?_, ?_, ?_, ?_⟩
          · exact List.forall_mem_cons.mpr ⟨inRoom, sound.inRoom⟩
          · exact List.forall_mem_cons.mpr ⟨isField, sound.fields⟩
          · refine List.pairwise_cons.mpr ⟨?_, sound.increasing⟩
            refine List.forall_mem_cons.mpr ⟨above, fun order isIn => ?_⟩
            exact above.trans (increasing.1 order isIn)
          · refine List.nodup_cons.mpr ⟨fun isIn => ?_, sound.distinct⟩
            obtain ⟨other, isOther, same⟩ := List.mem_map.mp isIn
            exact sound.isNew other isOther (same ▸ List.mem_cons_self)
          · refine List.forall_mem_cons.mpr ⟨isNew, fun other isOther isOld => ?_⟩
            exact sound.isNew other isOther (List.mem_cons_of_mem _ isOld)
          · have size := sound.size
            rw [total]
            omega
        intro sound
        have increasing := (List.pairwise_cons.mp sound.increasing).2
        have distinct := List.nodup_cons.mp sound.distinct
        refine ⟨?_, ?_, increasing, distinct.2, ?_, ?_⟩
        · exact fun other isIn => sound.inRoom other (List.mem_cons_of_mem _ isIn)
        · exact fun other isIn => sound.fields other (List.mem_cons_of_mem _ isIn)
        · intro other isIn isOld
          rcases List.mem_cons.mp isOld with same | isOld
          · exact distinct.1 (List.mem_map.mpr ⟨other, isIn, same⟩)
          · exact sound.isNew other (List.mem_cons_of_mem _ isIn) isOld
        · have size := sound.size
          rw [total] at size
          omega
    simp only [next, Bool.not_false, if_true]
    refine ⟨nofun, fun ⟨sound, _⟩ => absurd (isNext_iff.mpr ⟨?_, ?_, ?_⟩) next⟩
    · exact sound.inRoom raw List.mem_cons_self
    · exact sound.isNew raw List.mem_cons_self
    · exact (List.pairwise_cons.mp sound.increasing).1 raw.order List.mem_cons_self

/-- The cursor of the next request, after an accepted page. -/
def nextCursor (options : Options) (messages : List RoomRow) (hasNext : Bool) :
    Option NextCursor :=
  if !hasNext then none
  else
    match options.afterOrder with
    | none => messages.head?.map fun first => ⟨none, some first.order⟩
    | some _ => some ⟨some (lastOrderOf messages (-1)), options.beforeOrder⟩

theorem validateRoomHistoryPage_ok_iff {messages : List RoomRow} {hasNext : Bool}
    {groupId : String} {options : Options} {next : Option NextCursor} :
    validateRoomHistoryPage messages hasNext groupId options = .ok next ↔
      ∃ limit expectedGroup, validateRoomHistoryRequest options = .ok limit ∧
        normalizeSharedPostAddress (some groupId) = some expectedGroup ∧
        messages.length ≤ limit ∧ Sound expectedGroup options [] (-1) 0 messages ∧
        (hasNext = true → messages ≠ []) ∧ next = nextCursor options messages hasNext := by
  unfold validateRoomHistoryPage
  cases isRequest : validateRoomHistoryRequest options with
  | error => simp
  | ok limit =>
    cases isGroup : normalizeSharedPostAddress (some groupId) with
    | none => simp
    | some expectedGroup =>
      by_cases long : (messages.length : Int) > limit
      · simp only [long, if_true]
        refine ⟨nofun, ?_⟩
        rintro ⟨_, _, isLimit, -, short, -⟩
        cases isLimit
        exact absurd short (not_le.mpr long)
      simp only [long, if_false]
      have whole : ∀ last, checkRows expectedGroup options messages [] (-1) 0 = .ok last ↔
          Sound expectedGroup options [] (-1) 0 messages ∧ last = lastOrderOf messages (-1) :=
        fun last => checkRows_ok_iff (Nat.zero_le _)
      cases isPass : checkRows expectedGroup options messages [] (-1) 0 with
      | error =>
        refine ⟨nofun, ?_⟩
        rintro ⟨_, _, -, isSome, -, sound, -⟩
        cases isSome
        have isOk := (whole _).mpr ⟨sound, rfl⟩
        cases isPass ▸ isOk
      | ok last =>
        obtain ⟨sound, rfl⟩ := (whole last).mp isPass
        have short : (messages.length : Int) ≤ limit := not_lt.mp long
        have accepted : (∃ limit' group, Except.ok limit = Except.ok (ε := String) limit' ∧
            some expectedGroup = some group ∧ (messages.length : Int) ≤ limit' ∧
            Sound group options [] (-1) 0 messages ∧ (hasNext = true → messages ≠ []) ∧
            next = nextCursor options messages hasNext) ↔
            (hasNext = true → messages ≠ []) ∧ next = nextCursor options messages hasNext := by
          constructor
          · rintro ⟨_, _, -, -, -, -, rest⟩
            exact rest
          · intro rest
            exact ⟨limit, expectedGroup, rfl, rfl, short, sound, rest⟩
        rw [accepted]
        unfold nextCursor
        cases hasNext with
        | false => simp [eq_comm]
        | true =>
          cases messages with
          | nil => simp
          | cons => cases options.afterOrder <;> simp [eq_comm]

theorem nextCursor_isSome {options : Options} {messages : List RoomRow} {hasNext : Bool}
    (nonempty : hasNext = true → messages ≠ []) :
    (nextCursor options messages hasNext).isSome = hasNext := by
  unfold nextCursor
  cases hasNext with
  | false => rfl
  | true =>
    obtain ⟨first, rest, rfl⟩ := List.exists_cons_of_ne_nil (nonempty rfl)
    cases options.afterOrder <;> rfl

/-! ## Any relayer -/

/-- Pages a client accepts one after the other, each for the request that goes on from the page
before. -/
inductive Followed (groupId : String) : Options → List (List RoomRow) → Prop
  | stop (options : Options) : Followed groupId options []
  | last {options : Options} {rows : List RoomRow} {hasNext : Bool}
      (accepted : validateRoomHistoryPage rows hasNext groupId options = .ok none) :
      Followed groupId options [rows]
  | goOn {options : Options} {rows : List RoomRow} {hasNext : Bool} {next : NextCursor}
      {pages : List (List RoomRow)}
      (accepted : validateRoomHistoryPage rows hasNext groupId options = .ok (some next))
      (others : Followed groupId (options.from next) pages) :
      Followed groupId options (rows :: pages)

theorem accepted_orders {messages : List RoomRow} {hasNext : Bool} {groupId : String}
    {options : Options} {next : Option NextCursor}
    (accepted : validateRoomHistoryPage messages hasNext groupId options = .ok next) :
    (messages.map (·.order)).Pairwise (· < ·) ∧
      (∀ raw ∈ messages, ∀ after ∈ options.afterOrder, after < raw.order) ∧
      ∀ raw ∈ messages, ∀ before ∈ options.beforeOrder, raw.order < before := by
  obtain ⟨_, _, -, -, -, sound, -⟩ := validateRoomHistoryPage_ok_iff.mp accepted
  exact ⟨(List.pairwise_cons.mp sound.increasing).2, fun raw isIn => (sound.inRoom raw isIn).after,
    fun raw isIn => (sound.inRoom raw isIn).before⟩

theorem lastOrderOf_ge {messages : List RoomRow}
    (increasing : (messages.map (·.order)).Pairwise (· < ·)) (some : messages ≠ [])
    (lastOrder : Int) :
    (∃ raw ∈ messages, raw.order = lastOrderOf messages lastOrder) ∧
      ∀ raw ∈ messages, raw.order ≤ lastOrderOf messages lastOrder := by
  obtain ⟨before, last, isSplit⟩ := (List.eq_nil_or_concat messages).resolve_left some
  rw [List.concat_eq_append] at isSplit
  subst isSplit
  have isLast : lastOrderOf (before ++ [last]) lastOrder = last.order := by simp [lastOrderOf]
  rw [isLast]
  refine ⟨⟨last, by simp, rfl⟩, fun raw isIn => ?_⟩
  rcases List.mem_append.mp isIn with isBefore | isLast
  · rw [List.map_append] at increasing
    have below := (List.pairwise_append.mp increasing).2.2 raw.order
      (List.mem_map.mpr ⟨raw, isBefore, rfl⟩) last.order (by simp)
    exact below.le
  · rw [List.mem_singleton.mp isLast]

theorem accepted_up {messages : List RoomRow} {hasNext : Bool} {groupId : String}
    {options : Options} {next : NextCursor} {after : Int} (up : options.afterOrder = some after)
    (accepted : validateRoomHistoryPage messages hasNext groupId options = .ok (some next)) :
    ∃ last, next = ⟨some last, options.beforeOrder⟩ ∧ after < last ∧
      ∀ raw ∈ messages, raw.order ≤ last := by
  obtain ⟨_, _, -, -, -, -, nonempty, isNext⟩ := validateRoomHistoryPage_ok_iff.mp accepted
  obtain ⟨increasing, above, -⟩ := accepted_orders accepted
  unfold nextCursor at isNext
  cases hasNext with
  | false => cases isNext
  | true =>
    simp only [up, Bool.not_true, Bool.false_eq_true, if_false, Option.some.injEq] at isNext
    obtain ⟨⟨raw, isIn, isLast⟩, others⟩ := lastOrderOf_ge increasing (nonempty rfl) (-1)
    refine ⟨_, isNext, ?_, others⟩
    rw [← isLast]
    exact above raw isIn after up

theorem accepted_down {messages : List RoomRow} {hasNext : Bool} {groupId : String}
    {options : Options} {next : NextCursor} (down : options.afterOrder = none)
    (accepted : validateRoomHistoryPage messages hasNext groupId options = .ok (some next)) :
    ∃ first, next = ⟨none, some first⟩ ∧ (∀ before ∈ options.beforeOrder, first < before) ∧
      ∀ raw ∈ messages, first ≤ raw.order := by
  obtain ⟨_, _, -, -, -, -, nonempty, isNext⟩ := validateRoomHistoryPage_ok_iff.mp accepted
  obtain ⟨increasing, -, below⟩ := accepted_orders accepted
  unfold nextCursor at isNext
  cases hasNext with
  | false => cases isNext
  | true =>
    cases messages with
    | nil => exact absurd rfl (nonempty rfl)
    | cons first =>
      simp only [down, Bool.not_true, Bool.false_eq_true, if_false, List.head?_cons,
        Option.map_some, Option.some.injEq] at isNext
      refine ⟨first.order, isNext, below first List.mem_cons_self, ?_⟩
      refine List.forall_mem_cons.mpr ⟨le_rfl, fun raw isIn => ?_⟩
      exact ((List.pairwise_cons.mp increasing).1 raw.order (List.mem_map.mpr ⟨raw, isIn, rfl⟩)).le

/-- **Upwards, orders only grow from page to page.** -/
theorem Followed.increasing {groupId : String} {options : Options} {pages : List (List RoomRow)}
    {after : Int} (followed : Followed groupId options pages)
    (up : options.afterOrder = some after) :
    (pages.flatten.map (·.order)).Pairwise (· < ·) ∧ ∀ raw ∈ pages.flatten, after < raw.order := by
  induction followed generalizing after with
  | stop => exact ⟨.nil, nofun⟩
  | last accepted =>
    obtain ⟨increasing, above, -⟩ := accepted_orders accepted
    rw [List.flatten_cons, List.flatten_nil, List.append_nil]
    exact ⟨increasing, fun raw isIn => above raw isIn after up⟩
  | goOn accepted _ ih =>
    obtain ⟨increasing, above, -⟩ := accepted_orders accepted
    obtain ⟨last, rfl, forward, upTo⟩ := accepted_up up accepted
    obtain ⟨othersIncreasing, othersAbove⟩ := ih rfl
    rw [List.flatten_cons, List.map_append]
    refine ⟨List.pairwise_append.mpr ⟨increasing, othersIncreasing, ?_⟩, fun raw isIn => ?_⟩
    · intro order isHere other isLater
      obtain ⟨raw, isIn, rfl⟩ := List.mem_map.mp isHere
      obtain ⟨later, isOther, rfl⟩ := List.mem_map.mp isLater
      exact (upTo raw isIn).trans_lt (othersAbove later isOther)
    · rcases List.mem_append.mp isIn with isHere | isLater
      · exact above raw isHere after up
      · exact forward.trans (othersAbove raw isLater)

/-- **Downwards, orders only fall from page to page.** -/
theorem Followed.decreasing {groupId : String} {options : Options} {pages : List (List RoomRow)}
    (followed : Followed groupId options pages) (down : options.afterOrder = none) :
    (pages.reverse.flatten.map (·.order)).Pairwise (· < ·) ∧
      ∀ raw ∈ pages.reverse.flatten, ∀ before ∈ options.beforeOrder, raw.order < before := by
  induction followed with
  | stop => exact ⟨.nil, nofun⟩
  | last accepted =>
    obtain ⟨increasing, -, below⟩ := accepted_orders accepted
    rw [List.reverse_singleton, List.flatten_cons, List.flatten_nil, List.append_nil]
    exact ⟨increasing, below⟩
  | goOn accepted _ ih =>
    obtain ⟨increasing, -, below⟩ := accepted_orders accepted
    obtain ⟨first, rfl, backward, downTo⟩ := accepted_down down accepted
    obtain ⟨othersIncreasing, othersBelow⟩ := ih rfl
    have isSplit : ∀ {rows : List RoomRow} {pages : List (List RoomRow)},
        (rows :: pages).reverse.flatten = pages.reverse.flatten ++ rows := by
      intro rows pages
      rw [List.reverse_cons, List.flatten_append, List.flatten_singleton]
    rw [isSplit, List.map_append]
    refine ⟨List.pairwise_append.mpr ⟨othersIncreasing, increasing, ?_⟩, fun raw isIn => ?_⟩
    · intro order isOlder other isHere
      obtain ⟨older, isOther, rfl⟩ := List.mem_map.mp isOlder
      obtain ⟨raw, isIn, rfl⟩ := List.mem_map.mp isHere
      exact (othersBelow older isOther first rfl).trans_le (downTo raw isIn)
    intro before isBefore
    rcases List.mem_append.mp isIn with isOlder | isHere
    · exact (othersBelow raw isOlder first rfl).trans (backward before isBefore)
    · exact below raw isHere before isBefore

/-! ## An honest relayer -/

def roomRow (idText : Uuid → String) (raw : Verification.RelayerMessage) : RoomRow where
  groupId := raw.groupId
  messageId := idText raw.messageId
  order := raw.order
  encryptedText := raw.encryptedText
  kind := raw.kind
  isDeleted := raw.isDeleted
  nonce := raw.nonce
  keyVersion := raw.keyVersion
  senderAddress := raw.senderAddress
  signature := raw.signature
  publicKey := raw.publicKey
  attachments := raw.attachments

def fetchMessages (idText : Uuid → String) (page : List Relayer.Message) : Option (List RoomRow) :=
  page.mapM fun row => (fromWireMessage (.ofMessage row)).map (roomRow idText)

/-- The accepted page of a request and the cursor it returns; `none` where `getRoomMessages`
throws. -/
def roomPage (idText : Uuid → String) (storage : InMemoryStorage) (groupId : String)
    (options : Options) : Option (List Relayer.Message × Option NextCursor) :=
  match validateRoomHistoryRequest options with
  | .error _ => none
  | .ok limit =>
    match Paging.answer (Paging.fetchPage storage groupId options.afterOrder options.beforeOrder
        limit.toNat) with
    | none => none
    | some (page, hasNext) =>
      match fetchMessages idText page with
      | none => none
      | some messages =>
        match validateRoomHistoryPage messages hasNext groupId
            { options with limit := some limit } with
        | .error _ => none
        | .ok next => some (page, next)

/-- A client follows the cursors: its pages, and whether each had one. -/
def follow (idText : Uuid → String) (storage : InMemoryStorage) (groupId : String) :
    Nat → Options → Option (List (List Relayer.Message × Bool))
  | 0, _ => none
  | fuel + 1, options =>
    match roomPage idText storage groupId options with
    | none => none
    | some (page, none) => some [(page, false)]
    | some (page, some next) =>
      (follow idText storage groupId fuel (options.from next)).map ((page, true) :: ·)

/-- What the check reads of a stored row. -/
def seenRow (idText : Uuid → String) (row : Relayer.Message) : RoomRow where
  groupId := row.groupId
  messageId := idText row.id
  order := InMemoryStorage.orderKey row
  encryptedText := row.encryptedMsg
  kind := row.kind
  isDeleted := row.isDeleted
  nonce := row.nonce
  keyVersion := row.keyVersion
  senderAddress := row.senderWalletAddr
  signature := Hex.encode row.signature
  publicKey := Hex.encode row.publicKey
  attachments := row.attachments.map fun attachment => fromWireAttachment (.ofAttachment attachment)

theorem fetchMessages_eq (idText : Uuid → String) (page : List Relayer.Message) :
    fetchMessages idText page = some (page.map (seenRow idText)) := by
  have converts : (fun row : Relayer.Message =>
      (fromWireMessage (.ofMessage row)).map (roomRow idText)) =
      fun row => some (seenRow idText row) := by
    funext row
    unfold fromWireMessage
    simp only [MessageResponse.ofMessage, Verification.fromHex_encode,
      Verification.parseMessageKind_asStr, bind,
      Option.bind_some, pure, Option.map_some, roomRow, seenRow, List.map_map]
    rfl
  rw [fetchMessages, converts]
  exact List.mapM_pure

/-- A row that any page of the room may have. -/
def RowFits (idText : Uuid → String) (expectedGroup : String) (row : Relayer.Message) : Prop :=
  isCursor (InMemoryStorage.orderKey row) = true ∧
    fieldError expectedGroup (seenRow idText row) = none

/-- **What an honest page must be**: as short as the limit says, of rows that fit, and not too
large. -/
structure PageFits (idText : Uuid → String) (expectedGroup : String) (limit : Nat)
    (rows : List Relayer.Message) : Prop where
  short : rows.length ≤ limit
  fits : ∀ row ∈ rows, RowFits idText expectedGroup row
  size : ciphertextBytes (rows.map (seenRow idText)) ≤ maxPageCiphertextBytes

instance (idText : Uuid → String) (expectedGroup : String) (row : Relayer.Message) :
    Decidable (RowFits idText expectedGroup row) :=
  inferInstanceAs (Decidable (_ ∧ _))

instance (idText : Uuid → String) (expectedGroup : String) (limit : Nat)
    (rows : List Relayer.Message) :
    Decidable (PageFits idText expectedGroup limit rows) :=
  decidable_of_iff (rows.length ≤ limit ∧ (∀ row ∈ rows, RowFits idText expectedGroup row) ∧
      ciphertextBytes (rows.map (seenRow idText)) ≤ maxPageCiphertextBytes)
    ⟨fun fits => ⟨fits.1, fits.2.1, fits.2.2⟩, fun fits => ⟨fits.short, fits.fits, fits.size⟩⟩

structure RoomLog (idText : Uuid → String) (storage : InMemoryStorage) (groupId : String) :
    Prop where
  orders : Paging.DistinctOrders storage groupId
  ids : (storage.messages.map fun row => idText row.id).Nodup
  named : ∀ row ∈ storage.messages, idText row.id ≠ "" ∧ (idText row.id).length ≤ 128
  intact : storage.poisoned .messages = false

/-! ### Requests -/

theorem validateRoomHistoryRequest_ok_iff {options : Options} {limit : Int} :
    validateRoomHistoryRequest options = .ok limit ↔
      (∀ after ∈ options.afterOrder, isCursor after = true) ∧
        (∀ before ∈ options.beforeOrder, isCursor before = true) ∧
        (∀ after ∈ options.afterOrder, ∀ before ∈ options.beforeOrder, after < before) ∧
        limit = options.limit.getD roomHistoryMaxPageSize ∧ 1 ≤ limit ∧
        limit ≤ roomHistoryMaxPageSize := by
  unfold validateRoomHistoryRequest
  dsimp only
  by_cases cursors : (options.afterOrder.all isCursor && options.beforeOrder.all isCursor) = true
  · have areCursors := cursors
    rw [Bool.and_eq_true, Option.all_eq_true, Option.all_eq_true] at areCursors
    simp only [cursors, not_true_eq_false, if_false]
    by_cases reversed : ∃ after ∈ options.afterOrder, ∃ before ∈ options.beforeOrder, after ≥ before
    · simp only [reversed, if_true]
      refine ⟨nofun, fun ⟨_, _, ordered, _⟩ => ?_⟩
      obtain ⟨after, isAfter, before, isBefore, above⟩ := reversed
      exact absurd (ordered after isAfter before isBefore) (not_lt.mpr above)
    simp only [reversed, if_false]
    have ordered : ∀ after ∈ options.afterOrder, ∀ before ∈ options.beforeOrder,
        after < before := by
      intro after isAfter before isBefore
      by_contra notBelow
      exact reversed ⟨after, isAfter, before, isBefore, not_lt.mp notBelow⟩
    have small : ∀ value : Int, 1 ≤ value → value ≤ roomHistoryMaxPageSize →
        isSafeInteger value = true := by
      intro value above below
      unfold roomHistoryMaxPageSize at below
      simp only [isSafeInteger, Bool.and_eq_true, decide_eq_true_eq]
      omega
    split
    · next outside =>
      refine ⟨nofun, ?_⟩
      rintro ⟨-, -, -, rfl, above, below⟩
      rcases outside with notSafe | tooLow | tooHigh
      · exact absurd (small _ above below) notSafe
      · exact absurd above (not_le.mpr tooLow)
      · exact absurd below (not_le.mpr tooHigh)
    next inside =>
    have inside := not_or.mp inside
    have inside := And.intro inside.1 (not_or.mp inside.2)
    constructor
    · intro isLimit
      cases isLimit
      exact ⟨areCursors.1, areCursors.2, ordered, rfl, not_lt.mp inside.2.1,
        not_lt.mp inside.2.2⟩
    · rintro ⟨-, -, -, rfl, -, -⟩
      rfl
  rw [if_pos cursors]
  refine ⟨nofun, fun ⟨afters, befores, _⟩ => absurd ?_ cursors⟩
  rw [Bool.and_eq_true, Option.all_eq_true, Option.all_eq_true]
  exact ⟨afters, befores⟩

theorem validateRoomHistoryRequest_limit {options : Options} {limit : Int}
    (isRequest : validateRoomHistoryRequest options = .ok limit) :
    validateRoomHistoryRequest { options with limit := some limit } = .ok limit := by
  obtain ⟨afters, befores, ordered, -, above, below⟩ :=
    validateRoomHistoryRequest_ok_iff.mp isRequest
  exact validateRoomHistoryRequest_ok_iff.mpr ⟨afters, befores, ordered, rfl, above, below⟩

/-! ### One page -/

section Page

variable {idText : Uuid → String} {storage : InMemoryStorage} {groupId expectedGroup : String}
  {options : Options} {limit : Int}

theorem accepted_iff (log : RoomLog idText storage groupId)
    (isGroup : normalizeSharedPostAddress (some groupId) = some expectedGroup)
    (isRequest : validateRoomHistoryRequest options = .ok limit) {page : List Relayer.Message}
    {hasNext : Bool}
    (increasing : page.Pairwise fun left right =>
      InMemoryStorage.orderKey left < InMemoryStorage.orderKey right)
    (within : ∀ row ∈ page, row ∈ storage.window groupId options.afterOrder options.beforeOrder)
    (nonempty : hasNext = true → page ≠ []) (next : Option NextCursor) :
    validateRoomHistoryPage (page.map (seenRow idText)) hasNext groupId
        { options with limit := some limit } = .ok next ↔
      PageFits idText expectedGroup limit.toNat page ∧
        next = nextCursor { options with limit := some limit } (page.map (seenRow idText))
          hasNext := by
  have positive := (validateRoomHistoryRequest_ok_iff.mp isRequest).2.2.2.2.1
  have stored : ∀ row ∈ page, row ∈ storage.messages ∧ row.groupId = groupId :=
    fun row isIn => (Paging.mem_window.mp (within row isIn)).1
  rw [validateRoomHistoryPage_ok_iff]
  constructor
  · rintro ⟨_, _, isLimit, isSome, short, sound, -, isNext⟩
    cases validateRoomHistoryRequest_limit isRequest ▸ isLimit
    cases isGroup ▸ isSome
    rw [List.length_map] at short
    refine ⟨⟨by omega, fun row isIn => ?_, ?_⟩, isNext⟩
    · have isSeen : seenRow idText row ∈ page.map (seenRow idText) :=
        List.mem_map.mpr ⟨row, isIn, rfl⟩
      refine ⟨?_, sound.fields _ isSeen⟩
      have safe := (sound.inRoom _ isSeen).safe
      rw [isCursor, Bool.and_eq_true, decide_eq_true_eq]
      exact safe
    · have size := sound.size
      rwa [Nat.zero_add] at size
  rintro ⟨fits, isNext⟩
  refine ⟨limit, expectedGroup, validateRoomHistoryRequest_limit isRequest, isGroup, ?_, ?_, ?_,
    isNext⟩
  · have short := fits.short
    rw [List.length_map]
    omega
  · refine ⟨?_, ?_, ?_, ?_, nofun, ?_⟩
    · intro raw isSeen
      obtain ⟨row, isIn, rfl⟩ := List.mem_map.mp isSeen
      obtain ⟨isStored, ofGroup⟩ := stored row isIn
      obtain ⟨-, above, below⟩ := Paging.mem_window.mp (within row isIn)
      have safe := (fits.fits row isIn).1
      rw [isCursor, Bool.and_eq_true, decide_eq_true_eq] at safe
      refine ⟨?_, log.named row isStored, safe, above, below⟩
      show normalizeSharedPostAddress (some row.groupId) = _
      rw [ofGroup, isGroup]
    · intro raw isSeen
      obtain ⟨row, isIn, rfl⟩ := List.mem_map.mp isSeen
      exact (fits.fits row isIn).2
    · rw [List.map_map]
      refine List.pairwise_cons.mpr ⟨fun order isIn => ?_, List.pairwise_map.mpr increasing⟩
      obtain ⟨row, isRow, rfl⟩ := List.mem_map.mp isIn
      have safe := (fits.fits row isRow).1
      rw [isCursor, Bool.and_eq_true, decide_eq_true_eq] at safe
      show -1 < InMemoryStorage.orderKey row
      omega
    · rw [List.map_map]
      refine List.Nodup.map_on ?_ ?_
      · intro left isLeft right isRight same
        exact List.inj_on_of_nodup_map log.ids (stored left isLeft).1 (stored right isRight).1
          same
      · exact increasing.imp fun below isSame => absurd (isSame ▸ below) (lt_irrefl _)
    · rw [Nat.zero_add]
      exact fits.size
  · intro more isNil
    exact nonempty more (List.map_eq_nil_iff.mp isNil)

theorem roomPage_eq (log : RoomLog idText storage groupId)
    (isGroup : normalizeSharedPostAddress (some groupId) = some expectedGroup)
    (isRequest : validateRoomHistoryRequest options = .ok limit) {page : List Relayer.Message}
    {hasNext : Bool}
    (isPage : Paging.answer (Paging.fetchPage storage groupId options.afterOrder
      options.beforeOrder limit.toNat) = some (page, hasNext))
    (increasing : page.Pairwise fun left right =>
      InMemoryStorage.orderKey left < InMemoryStorage.orderKey right)
    (within : ∀ row ∈ page, row ∈ storage.window groupId options.afterOrder options.beforeOrder)
    (nonempty : hasNext = true → page ≠ []) :
    (roomPage idText storage groupId options).map (fun page => (page.1, page.2.isSome)) =
      if PageFits idText expectedGroup limit.toNat page then some (page, hasNext) else none := by
  have accepted := accepted_iff log isGroup isRequest increasing within nonempty
  rw [roomPage, isRequest]
  dsimp only
  rw [isPage]
  dsimp only
  rw [fetchMessages_eq]
  dsimp only
  split_ifs with fits
  · have isOk := (accepted _).mpr ⟨fits, rfl⟩
    rw [isOk]
    dsimp only
    rw [Option.map_some, nextCursor_isSome]
    exact fun more isNil => nonempty more (List.map_eq_nil_iff.mp isNil)
  cases isChecked : validateRoomHistoryPage (page.map (seenRow idText)) hasNext groupId
      { options with limit := some limit } with
  | error _ => rfl
  | ok next => exact absurd ((accepted next).mp isChecked).1 fits

theorem roomPage_some {page : List Relayer.Message} {next : Option NextCursor}
    (isPage : roomPage idText storage groupId options = some (page, next)) :
    ∃ limit hasNext, validateRoomHistoryPage (page.map (seenRow idText)) hasNext groupId
      { options with limit := some limit } = .ok next := by
  unfold roomPage at isPage
  split at isPage
  · cases isPage
  next limit _ =>
  split at isPage
  · cases isPage
  next found hasNext _ =>
  rw [fetchMessages_eq] at isPage
  dsimp only at isPage
  split at isPage
  · cases isPage
  · next accepted =>
    cases isPage
    exact ⟨limit, hasNext, accepted⟩

end Page

/-! ### Following the cursors -/

section Follow

open Paging (place servePage firstPage maxRows hasNext afterPage)

variable {idText : Uuid → String} {storage : InMemoryStorage} {groupId expectedGroup : String}
  {options : Options} {limit : Int}

/-- The page after a cursor, and whether there is a next one. -/
def askUp (idText : Uuid → String) (storage : InMemoryStorage) (groupId : String)
    (options : Options) (cursor : Option Int) : Option (List Relayer.Message × Bool) :=
  (roomPage idText storage groupId { options with afterOrder := cursor }).map
    fun page => (page.1, page.2.isSome)

/-- The page before a cursor, newest row first, and whether there is a next one. -/
def askDown (idText : Uuid → String) (storage : InMemoryStorage) (groupId : String)
    (options : Options) (cursor : Option Int) : Option (List Relayer.Message × Bool) :=
  (roomPage idText storage groupId { options with beforeOrder := cursor }).map
    fun page => (page.1.reverse, page.2.isSome)

/-- The page of the rows that are left, if it is accepted. -/
def serveRoom (idText : Uuid → String) (expectedGroup : String) (limit : Nat)
    (rest : List Relayer.Message) : Option (List Relayer.Message × Bool) :=
  if PageFits idText expectedGroup limit (firstPage limit (maxRows limit) rest) then
    servePage limit rest
  else none

theorem serveRoom_cuts {limit : Nat} (someTimeline : 0 < limit) :
    Cursor.Cuts (serveRoom idText expectedGroup limit) where
  isPrefix := by
    intro rest page more isPage
    unfold serveRoom at isPage
    split at isPage
    · exact (Paging.servePage_cuts someTimeline).isPrefix isPage
    · cases isPage
  nonempty := by
    intro rest page more isPage
    unfold serveRoom at isPage
    split at isPage
    · exact (Paging.servePage_cuts someTimeline).nonempty isPage
    · cases isPage

theorem lastOrderOf_seen {page : List Relayer.Message} {last : Relayer.Message}
    (isLast : page.getLast? = some last) (lastOrder : Int) :
    lastOrderOf (page.map (seenRow idText)) lastOrder = InMemoryStorage.orderKey last := by
  rw [lastOrderOf, List.getLast?_map, isLast]
  rfl

/-- Upwards the client goes on from the last row. -/
theorem follow_up (fuel : Nat) (cursor : Int) :
    follow idText storage groupId fuel { options with afterOrder := some cursor } =
      Cursor.walk (askUp idText storage groupId options) place fuel (some cursor) := by
  induction fuel generalizing cursor with
  | zero => rfl
  | succ fuel ih =>
    rw [follow, Cursor.walk, askUp]
    cases isPage : roomPage idText storage groupId { options with afterOrder := some cursor } with
    | none => rfl
    | some found =>
      obtain ⟨page, next⟩ := found
      cases next with
      | none => rfl
      | some next =>
        obtain ⟨_, _, accepted⟩ := roomPage_some isPage
        obtain ⟨_, _, -, -, -, -, nonempty, isNext⟩ := validateRoomHistoryPage_ok_iff.mp accepted
        unfold nextCursor at isNext
        split at isNext
        · cases isNext
        next more =>
        have isSome : page ≠ [] := by
          intro isNil
          exact nonempty (by simpa using more) (by rw [isNil]; rfl)
        obtain ⟨last, isLast⟩ := Option.isSome_iff_exists.mp (List.getLast?_isSome.mpr isSome)
        rw [lastOrderOf_seen isLast] at isNext
        cases isNext
        simp only [Option.map_some, Option.isSome_some, isLast]
        rw [place, ← ih (InMemoryStorage.orderKey last)]
        rfl

/-- Downwards the client goes on from the first row. -/
theorem follow_down (down : options.afterOrder = none) (fuel : Nat) (cursor : Option Int) :
    follow idText storage groupId fuel { options with beforeOrder := cursor } =
      (Cursor.walk (askDown idText storage groupId options) place fuel cursor).map
        (·.map fun page => (page.1.reverse, page.2)) := by
  induction fuel generalizing cursor with
  | zero => rfl
  | succ fuel ih =>
    rw [follow, Cursor.walk, askDown]
    cases isPage : roomPage idText storage groupId { options with beforeOrder := cursor } with
    | none => rfl
    | some found =>
      obtain ⟨page, next⟩ := found
      cases next with
      | none => simp
      | some next =>
        obtain ⟨_, _, accepted⟩ := roomPage_some isPage
        obtain ⟨_, _, -, -, -, -, nonempty, isCursor⟩ := validateRoomHistoryPage_ok_iff.mp accepted
        cases page with
        | nil =>
          unfold nextCursor at isCursor
          split at isCursor
          · cases isCursor
          · next more => exact absurd rfl (nonempty (by simpa using more))
        | cons head rest =>
          have isFirst : next = ⟨none, some (InMemoryStorage.orderKey head)⟩ := by
            unfold nextCursor at isCursor
            rw [down] at isCursor
            split at isCursor
            · cases isCursor
            · cases isCursor
              rfl
          subst isFirst
          simp only [Option.map_some, Option.isSome_some, List.getLast?_reverse, List.head?_cons]
          rw [Option.map_map, place]
          have rest := ih (some (InMemoryStorage.orderKey head))
          have same : Options.from { options with beforeOrder := cursor }
              ⟨none, some (InMemoryStorage.orderKey head)⟩ =
              { options with beforeOrder := some (InMemoryStorage.orderKey head) } := by
            rw [Options.from, ← down]
          rw [same, rest, Option.map_map]
          congr 1
          funext pages
          simp

theorem mem_after {start : Option Int} {done : List Relayer.Message} {value : Int}
    (isValue : value ∈ Cursor.after place start done) :
    value ∈ start ∨ ∃ row ∈ done, value = InMemoryStorage.orderKey row := by
  unfold Cursor.after at isValue
  cases isLast : done.getLast? with
  | none =>
    rw [isLast] at isValue
    exact .inl isValue
  | some last =>
    cases isLast ▸ isValue
    exact .inr ⟨last, List.mem_of_getLast? isLast, rfl⟩

theorem firstPage_ne_nil_of_hasNext {limit : Nat} (someTimeline : 0 < limit)
    {rest : List Relayer.Message} (more : hasNext limit rest = true) :
    firstPage limit (maxRows limit) rest ≠ [] := by
  refine Paging.firstPage_ne_nil someTimeline (Paging.maxRows_pos limit) fun isNil => ?_
  obtain ⟨page, flag, isPage, isFlag⟩ := Paging.right_nil limit
  rw [isNil] at more
  cases isPage
  have less := isFlag.mp more
  exact absurd less (Nat.not_lt_zero _)

/-- Where a client that goes up is: what comes after its cursor, and that all cursors were such. -/
def AtUp (storage : InMemoryStorage) (groupId : String) (options : Options)
    (cursor : Option Int) (rest : List Relayer.Message) : Prop :=
  ∃ done, storage.window groupId options.afterOrder options.beforeOrder = done ++ rest ∧
    cursor = Cursor.after place options.afterOrder done ∧
    ∀ row ∈ done, isCursor (InMemoryStorage.orderKey row) = true

/-- Where a client that goes down is. -/
def AtDown (storage : InMemoryStorage) (groupId : String) (options : Options)
    (cursor : Option Int) (rest : List Relayer.Message) : Prop :=
  ∃ done, (storage.window groupId none options.beforeOrder).reverse = done ++ rest ∧
    cursor = Cursor.after place options.beforeOrder done ∧
    ∀ row ∈ done, isCursor (InMemoryStorage.orderKey row) = true

theorem atUp_start (storage : InMemoryStorage) (groupId : String) (options : Options) :
    AtUp storage groupId options options.afterOrder
      (storage.window groupId options.afterOrder options.beforeOrder) :=
  ⟨[], rfl, rfl, fun _ isIn => absurd isIn List.not_mem_nil⟩

theorem atDown_start (storage : InMemoryStorage) (groupId : String) (options : Options) :
    AtDown storage groupId options options.beforeOrder
      (storage.window groupId none options.beforeOrder).reverse :=
  ⟨[], rfl, rfl, fun _ isIn => absurd isIn List.not_mem_nil⟩

theorem serveRoom_fits {limit : Nat} {rest page : List Relayer.Message} {more : Bool}
    (isPage : serveRoom idText expectedGroup limit rest = some (page, more)) :
    page = firstPage limit (maxRows limit) rest ∧ PageFits idText expectedGroup limit page := by
  unfold serveRoom at isPage
  split at isPage
  · next fits =>
    cases isPage
    exact ⟨rfl, fits⟩
  · cases isPage

theorem grown_done {limit : Nat} (someTimeline : 0 < limit) {start : Option Int}
    {rows done rest page : List Relayer.Message} {last : Relayer.Message}
    (split : rows = done ++ rest)
    (cursors : ∀ row ∈ done, isCursor (InMemoryStorage.orderKey row) = true)
    (isPage : serveRoom idText expectedGroup limit rest = some (page, true))
    (isLast : page.getLast? = some last) :
    ∃ done', rows = done' ++ Cursor.next (serveRoom idText expectedGroup limit) rest ∧
      place last = Cursor.after place start done' ∧
      ∀ row ∈ done', isCursor (InMemoryStorage.orderKey row) = true := by
  have cut := (serveRoom_cuts someTimeline).next_eq isPage
  refine ⟨done ++ page, ?_, ?_, ?_⟩
  · rw [split, List.append_assoc, cut]
  · rw [Cursor.after_append, Cursor.after_of_getLast? isLast]
  intro row isIn
  rcases List.mem_append.mp isIn with isOld | isNew
  · exact cursors row isOld
  · exact ((serveRoom_fits isPage).2.fits row isNew).1

/-- **Upwards, the client is served what is left.** -/
theorem follows_up (log : RoomLog idText storage groupId)
    (isGroup : normalizeSharedPostAddress (some groupId) = some expectedGroup)
    (isRequest : validateRoomHistoryRequest options = .ok limit) {after : Int}
    (up : options.afterOrder = some after) :
    Cursor.Follows (askUp idText storage groupId options) place
      (serveRoom idText expectedGroup limit.toNat) (AtUp storage groupId options) := by
  obtain ⟨afters, befores, ordered, isLimit, positive, small⟩ :=
    validateRoomHistoryRequest_ok_iff.mp isRequest
  have someTimeline : 0 < limit.toNat := by omega
  constructor
  · rintro cursor rest ⟨done, split, isCursor, cursors⟩
    have inWindow : ∀ row ∈ done,
        row ∈ storage.window groupId options.afterOrder options.beforeOrder := by
      intro row isIn
      rw [split]
      exact List.mem_append_left _ isIn
    have isNext : validateRoomHistoryRequest { options with afterOrder := cursor } = .ok limit := by
      refine validateRoomHistoryRequest_ok_iff.mpr
        ⟨fun value isValue => ?_, befores, fun value isValue => ?_, isLimit, positive, small⟩
      · have isValue : value ∈ cursor := isValue
        rw [isCursor] at isValue
        rcases mem_after isValue with isStart | ⟨row, isIn, rfl⟩
        · exact afters value isStart
        · exact cursors row isIn
      have isValue : value ∈ cursor := isValue
      rw [isCursor] at isValue
      rcases mem_after isValue with isStart | ⟨row, isIn, rfl⟩
      · exact ordered value isStart
      · exact (Paging.mem_window.mp (inWindow row isIn)).2.2
    rw [up] at split isCursor
    have served := Paging.fetchPage_forward log.orders log.intact after options.beforeOrder
      limit.toNat done rest split
    have isRest := Paging.window_forward log.orders split
    rw [← isCursor] at served isRest
    have atLeastOne : max limit.toNat 1 = limit.toNat := Nat.max_eq_left someTimeline
    rw [atLeastOne] at served
    obtain ⟨value, isSome⟩ := Paging.after_eq_some after done
    rw [← isCursor] at isSome
    have isPrefix : firstPage limit.toNat (maxRows limit.toNat) rest <+: rest :=
      Paging.firstPage_isPrefix rest
    have isPage : Paging.answer (Paging.fetchPage storage groupId cursor options.beforeOrder
        limit.toNat) = some (firstPage limit.toNat (maxRows limit.toNat) rest,
          hasNext limit.toNat rest) := by
      rw [isSome] at served ⊢
      exact served
    have increasing := Paging.window_increasing cursor options.beforeOrder log.orders
    rw [isRest] at increasing
    have within : ∀ row ∈ firstPage limit.toNat (maxRows limit.toNat) rest,
        row ∈ storage.window groupId cursor options.beforeOrder := by
      intro row isIn
      rw [isRest]
      exact isPrefix.subset isIn
    exact roomPage_eq log isGroup isNext isPage (increasing.sublist isPrefix.sublist) within
      (firstPage_ne_nil_of_hasNext someTimeline)
  · rintro cursor rest page last ⟨done, split, isCursor, cursors⟩ isPage isLast
    exact grown_done someTimeline split cursors isPage isLast

theorem pageFits_reverse {limit : Nat} {rows : List Relayer.Message} :
    PageFits idText expectedGroup limit rows.reverse ↔
      PageFits idText expectedGroup limit rows := by
  have sameSize : ciphertextBytes (rows.reverse.map (seenRow idText)) =
      ciphertextBytes (rows.map (seenRow idText)) := by
    unfold ciphertextBytes
    rw [List.map_reverse, List.map_reverse, List.sum_reverse]
  constructor
  · rintro ⟨short, fits, size⟩
    rw [List.length_reverse] at short
    rw [sameSize] at size
    exact ⟨short, fun row isIn => fits row (List.mem_reverse.mpr isIn), size⟩
  · rintro ⟨short, fits, size⟩
    rw [← sameSize] at size
    exact ⟨by rwa [List.length_reverse], fun row isIn => fits row (List.mem_reverse.mp isIn), size⟩

/-- **Downwards, the client is served what is left.** -/
theorem follows_down (log : RoomLog idText storage groupId)
    (isGroup : normalizeSharedPostAddress (some groupId) = some expectedGroup)
    (isRequest : validateRoomHistoryRequest options = .ok limit)
    (down : options.afterOrder = none) :
    Cursor.Follows (askDown idText storage groupId options) place
      (serveRoom idText expectedGroup limit.toNat) (AtDown storage groupId options) := by
  obtain ⟨afters, befores, ordered, isLimit, positive, small⟩ :=
    validateRoomHistoryRequest_ok_iff.mp isRequest
  have someTimeline : 0 < limit.toNat := by omega
  constructor
  · rintro cursor rest ⟨done, split, isCursor, cursors⟩
    have isNext : validateRoomHistoryRequest { options with beforeOrder := cursor } =
      .ok limit := by
      refine validateRoomHistoryRequest_ok_iff.mpr
        ⟨afters, fun value isValue => ?_, fun value isValue => ?_, isLimit, positive, small⟩
      · have isValue : value ∈ cursor := isValue
        rw [isCursor] at isValue
        rcases mem_after isValue with isStart | ⟨row, isIn, rfl⟩
        · exact befores value isStart
        · exact cursors row isIn
      · have isValue : value ∈ options.afterOrder := isValue
        cases down ▸ isValue
    have served := Paging.fetchPage_backward log.orders log.intact options.beforeOrder
      limit.toNat done rest split
    have isRest := Paging.window_backward log.orders split
    rw [← isCursor] at served isRest
    have atLeastOne : max limit.toNat 1 = limit.toNat := Nat.max_eq_left someTimeline
    rw [atLeastOne] at served
    have isPrefix : firstPage limit.toNat (maxRows limit.toNat) rest <+: rest :=
      Paging.firstPage_isPrefix rest
    -- the page as it is returned, oldest row first
    have isPage : Paging.answer (Paging.fetchPage storage groupId options.afterOrder cursor
        limit.toNat) = some ((firstPage limit.toNat (maxRows limit.toNat) rest).reverse,
          hasNext limit.toNat rest) := by
      rw [down]
      unfold Paging.askBackward servePage at served
      obtain ⟨⟨page, more⟩, isPage, isSame⟩ := Option.map_eq_some_iff.mp served
      obtain ⟨isRows, rfl⟩ := Prod.mk.inj isSame
      rw [isPage, ← isRows, List.reverse_reverse]
    have increasing := Paging.window_increasing none cursor log.orders
    rw [← List.reverse_reverse (storage.window groupId none cursor), isRest] at increasing
    have within : ∀ row ∈ (firstPage limit.toNat (maxRows limit.toNat) rest).reverse,
        row ∈ storage.window groupId options.afterOrder cursor := by
      intro row isIn
      rw [down, ← List.mem_reverse, isRest]
      exact isPrefix.subset (List.mem_reverse.mp isIn)
    have isRoom := roomPage_eq log isGroup isNext isPage
      (increasing.sublist isPrefix.sublist.reverse) within
      (fun more isNil =>
        firstPage_ne_nil_of_hasNext someTimeline more (List.reverse_eq_nil_iff.mp isNil))
    have isDown : askDown idText storage groupId options cursor =
        ((roomPage idText storage groupId { options with beforeOrder := cursor }).map
          fun page => (page.1, page.2.isSome)).map fun page => (page.1.reverse, page.2) := by
      rw [askDown, Option.map_map]
      rfl
    rw [isDown, isRoom]
    unfold serveRoom
    simp only [pageFits_reverse]
    split_ifs
    · rw [Option.map_some, List.reverse_reverse]
      rfl
    · rfl
  · rintro cursor rest page last ⟨done, split, isCursor, cursors⟩ isPage isLast
    exact grown_done someTimeline split cursors isPage isLast

theorem right_serveRoom_iff {limit : Nat} (rest : List Relayer.Message) :
    Cursor.Right (serveRoom idText expectedGroup limit) rest ↔
      PageFits idText expectedGroup limit (firstPage limit (maxRows limit) rest) := by
  constructor
  · rintro ⟨page, more, isPage, -⟩
    obtain ⟨rfl, fits⟩ := serveRoom_fits isPage
    exact fits
  intro fits
  have notMisjudged : ¬Paging.Misjudged limit rest := by
    rintro ⟨few, isLong⟩
    have long : maxRows limit ≤ rest.length := by omega
    have largest : (firstPage limit (maxRows limit) rest).length = maxRows limit :=
      (Paging.length_firstPage_eq_iff rest).mpr ⟨long, few⟩
    have short := fits.short
    rw [largest, maxRows] at short
    omega
  obtain ⟨page, more, isPage, right⟩ := (Paging.right_iff rest).mpr notMisjudged
  exact ⟨page, more, by rw [serveRoom, if_pos fits, isPage], right⟩

theorem next_serveRoom {limit : Nat} {rest : List Relayer.Message}
    (fits : PageFits idText expectedGroup limit (firstPage limit (maxRows limit) rest)) :
    Cursor.next (serveRoom idText expectedGroup limit) rest = afterPage limit rest := by
  unfold Cursor.next serveRoom
  rw [if_pos fits]
  rfl

theorem right_all_iff {limit : Nat} (rows : List Relayer.Message) :
    (∀ count, Cursor.Right (serveRoom idText expectedGroup limit)
        ((Cursor.next (serveRoom idText expectedGroup limit))^[count] rows)) ↔
      ∀ count, PageFits idText expectedGroup limit
        (firstPage limit (maxRows limit) ((afterPage limit)^[count] rows)) := by
  simp only [right_serveRoom_iff]
  constructor
  · intro right count
    induction count generalizing rows with
    | zero => exact right 0
    | succ count ih =>
      have next := next_serveRoom (right 0)
      refine ih _ fun others => ?_
      have later := right (others + 1)
      rw [Function.iterate_succ_apply] at later
      rw [← show _ = afterPage limit rows from next]
      exact later
  intro fits count
  induction count generalizing rows with
  | zero => exact fits 0
  | succ count ih =>
    have next := next_serveRoom (fits 0)
    rw [Function.iterate_succ_apply, show Cursor.next _ rows = afterPage limit rows from next]
    exact ih _ fun others => fits (others + 1)

theorem right_serveRoom_nil (limit : Nat) :
    Cursor.Right (serveRoom idText expectedGroup limit) [] := by
  refine (right_serveRoom_iff []).mpr ?_
  have isNil : firstPage limit (maxRows limit) [] = [] := by simp [firstPage]
  rw [isNil]
  have noBytes : ciphertextBytes (([] : List Relayer.Message).map (seenRow idText)) = 0 := rfl
  refine ⟨Nat.zero_le limit, fun _ isIn => absurd isIn List.not_mem_nil, ?_⟩
  rw [noBytes]
  exact Nat.zero_le _

end Follow

/-! ## The promises -/

/-- The rows a request reads through, in the order it does. -/
def roomRows (storage : InMemoryStorage) (groupId : String)
    (options : Options) : List Relayer.Message :=
  match options.afterOrder with
  | some after => storage.window groupId (some after) options.beforeOrder
  | none => (storage.window groupId none options.beforeOrder).reverse

/-- The pages visit every row of the window once, and a cursor follows exactly if a row is still
to come.  Going down, the rows of a page are read newest first. -/
def Visits (storage : InMemoryStorage) (groupId : String) (options : Options)
    (pages : List (List Relayer.Message × Bool)) : Prop :=
  match options.afterOrder with
  | some _ => Cursor.Enumerates (roomRows storage groupId options) pages
  | none => Cursor.Enumerates (roomRows storage groupId options)
      (pages.map fun page => (page.1.reverse, page.2))

/-- The next cursor is strictly further, in the direction of the request. -/
def MovesOn (options : Options) (next : NextCursor) : Prop :=
  match options.afterOrder with
  | some after => ∃ last, next = ⟨some last, options.beforeOrder⟩ ∧ after < last
  | none => ∃ first, next = ⟨none, some first⟩ ∧ ∀ before ∈ options.beforeOrder, first < before

section Promises

variable {idText : Uuid → String} {storage : InMemoryStorage} {groupId expectedGroup : String}
  {options : Options} {limit : Int}

theorem roomPage_isSome_iff (log : RoomLog idText storage groupId)
    (isGroup : normalizeSharedPostAddress (some groupId) = some expectedGroup)
    (isRequest : validateRoomHistoryRequest options = .ok limit) :
    (roomPage idText storage groupId options).isSome = true ↔
      PageFits idText expectedGroup limit.toNat
        (Paging.firstPage limit.toNat (Paging.maxRows limit.toNat)
          (roomRows storage groupId options)) := by
  have served : (roomPage idText storage groupId options).isSome =
      (serveRoom idText expectedGroup limit.toNat (roomRows storage groupId options)).isSome := by
    unfold roomRows
    cases direction : options.afterOrder with
    | some =>
      have answered := (follows_up log isGroup isRequest direction).answer
        (atUp_start storage groupId options)
      rw [direction] at answered
      dsimp only
      rw [← answered, askUp, Option.isSome_map, ← direction]
    | none =>
      have answered := (follows_down log isGroup isRequest direction).answer
        (atDown_start storage groupId options)
      dsimp only
      rw [← answered, askDown, Option.isSome_map]
  rw [served]
  unfold serveRoom
  split_ifs with fits
  · exact ⟨fun _ => fits, fun _ => rfl⟩
  · exact ⟨nofun, fun isFit => absurd isFit fits⟩

theorem follow_visits_iff (log : RoomLog idText storage groupId)
    (isGroup : normalizeSharedPostAddress (some groupId) = some expectedGroup)
    (isRequest : validateRoomHistoryRequest options = .ok limit) :
    (∃ fuel pages, follow idText storage groupId fuel options = some pages ∧
        Visits storage groupId options pages) ↔
      ∀ count, PageFits idText expectedGroup limit.toNat
        (Paging.firstPage limit.toNat (Paging.maxRows limit.toNat)
          ((Paging.afterPage limit.toNat)^[count] (roomRows storage groupId options))) := by
  obtain ⟨-, -, -, -, positive, -⟩ := validateRoomHistoryRequest_ok_iff.mp isRequest
  have cuts : Cursor.Cuts (serveRoom idText expectedGroup limit.toNat) := serveRoom_cuts (by omega)
  have atEnd : Cursor.Right (serveRoom idText expectedGroup limit.toNat) [] := right_serveRoom_nil _
  unfold Visits roomRows
  cases direction : options.afterOrder with
  | some after =>
    have isWalk := Cursor.walk_enumerates_iff cuts (follows_up log isGroup isRequest direction)
      (atUp_start storage groupId options) atEnd
      (Paging.nodup_window log.orders _ _)
    rw [right_all_iff, direction] at isWalk
    rw [← isWalk]
    have same : { options with afterOrder := some after } = options := by rw [← direction]
    have isFollow : ∀ fuel, follow idText storage groupId fuel options =
        Cursor.walk (askUp idText storage groupId options) Paging.place fuel (some after) := by
      intro fuel
      rw [← follow_up, same]
    simp only [isFollow]
  | none =>
    have isWalk := Cursor.walk_enumerates_iff cuts (follows_down log isGroup isRequest direction)
      (atDown_start storage groupId options) atEnd
      (List.nodup_reverse.mpr (Paging.nodup_window log.orders _ _))
    rw [right_all_iff] at isWalk
    rw [← isWalk]
    have isFollow : ∀ fuel, follow idText storage groupId fuel options =
        (Cursor.walk (askDown idText storage groupId options) Paging.place fuel
          options.beforeOrder).map (·.map fun page => (page.1.reverse, page.2)) := by
      intro fuel
      exact follow_down direction fuel options.beforeOrder
    have twice : ∀ pages : List (List Relayer.Message × Bool),
        (pages.map fun page => (page.1.reverse, page.2)).map
          (fun page => (page.1.reverse, page.2)) = pages := by
      intro pages
      rw [List.map_map]
      refine (List.map_congr_left fun page _ => ?_).trans (List.map_id pages)
      simp
    constructor
    · rintro ⟨fuel, pages, followed, visits⟩
      rw [isFollow] at followed
      obtain ⟨walked, isWalked, rfl⟩ := Option.map_eq_some_iff.mp followed
      rw [twice] at visits
      exact ⟨fuel, walked, isWalked, visits⟩
    rintro ⟨fuel, walked, isWalked, enumerates⟩
    refine ⟨fuel, walked.map fun page => (page.1.reverse, page.2), ?_, ?_⟩
    · rw [isFollow, isWalked]
      rfl
    · rw [twice]
      exact enumerates

end Promises

def sampleName (id : Uuid) : String := "message-" ++ toString id

def sampleRow (order : Int) (kind : MessageKind) : Relayer.Message :=
  { Relayer.Message.withAttribution order.toNat 0 "0xaa" "0xa1" [1, 2, 3] (List.replicate 12 0) 0 []
      [] [] .humanMessage kind none with order := some order }

/-- A message, and an event that rides along with it. -/
def reacted : InMemoryStorage :=
  { InMemoryStorage.new with messages := [sampleRow 1 .message, sampleRow 2 .event] }

theorem reacted_log : RoomLog sampleName reacted "0xaa" where
  orders := by decide +kernel
  ids := by decide +kernel
  named := by decide +kernel
  intact := rfl

end MessagingStack.Sdk.RoomHistory

import Mathlib.Data.Finset.Card
import MessagingStack.Base.Ranking
import MessagingStack.Sdk.RowsJson
import MessagingStack.Sdk.StateStore

/-!
# History that another member shares

`#processRow` of `mls/session.ts` gives the pieces of a bundle to the reassembler, and
`#importBundle` stores its rows: never under a key that is taken, to one group only, and marked as
unverified.  `SnapshotMlsStateStore` keeps the rows of the highest orders, so a bundle can drive out
rows of the device; they all stay exactly if the bundle's rows above the oldest one do not outnumber
the bound (`undisturbed_iff`).
-/

namespace MessagingStack.Sdk.SharedHistory

/-! ## Bundles -/

/-- What `decodeRowsJson` returns. -/
inductive BundleValue (Number : Type) where
  | null
  | bool (value : Bool)
  | num (value : Number)
  | str (value : String)
  | arr (items : List (BundleValue Number))
  | obj (fields : List (String × BundleValue Number))
  | bytes (value : Bytes)
  | bigint (value : Int)

variable {Number : Type}

/-- The property of a value that is an object of its own fields; others have none of these. -/
def BundleValue.get (value : BundleValue Number) (name : String) : Option (BundleValue Number) :=
  match value with
  | .obj fields => fields.lookup name
  | _ => none

/-- `Object.entries`.  The entries of a byte array are numbers, which hold no rows. -/
def BundleValue.entries : BundleValue Number → List (String × BundleValue Number)
  | .obj fields => fields
  | .arr items => items.zipIdx.map fun item => (toString item.2, item.1)
  | _ => []

/-- What identifies a row within its group: `` `${r.order}:${r.messageId}` ``. -/
abbrev RowKey (Number : Type) := Number × String

/-- `UnwrappedRow`: what the stores and the import read, and the other fields. -/
structure Row (Number : Type) where
  order : Number
  messageId : String
  senderVerified : Bool
  fields : List (String × BundleValue Number)

def Row.key (row : Row Number) : RowKey Number := (row.order, row.messageId)

/-- A row of a bundle that passed the checks of the import. -/
structure Candidate (Number : Type) where
  order : Number
  messageId : String
  fields : List (String × BundleValue Number)

def Candidate.key (candidate : Candidate Number) : RowKey Number :=
  (candidate.order, candidate.messageId)

/-- `{ ...r, senderVerified: … }`. -/
def Candidate.row (trusted : Bool) (candidate : Candidate Number) : Row Number where
  order := candidate.order
  messageId := candidate.messageId
  senderVerified :=
    trusted && match candidate.fields.lookup "senderVerified" with
      | some (.bool verified) => verified
      | _ => false
  fields := candidate.fields.filter fun field => field.1 != "senderVerified"

/-- What the import does with the payload of a bundle and with texts. -/
structure Codec (Payload Number : Type) where
  decodeRowsJson : Payload → Option (BundleValue Number)
  toLowerCase : String → String

section Candidates

variable {Payload : Type} (codec : Codec Payload Number)

def candidate? (key : String) (row : BundleValue Number) : Option (Candidate Number) :=
  match row.get "messageId", row.get "order", row.get "groupId", row.get "encryptedText", row with
  | some (.str messageId), some (.num order), some (.str groupId), some (.bytes _), .obj fields =>
    if codec.toLowerCase groupId = key then some ⟨order, messageId, fields⟩ else none
  | _, _, _, _, _ => none

def candidates (onlyGroup : Option String) (groupId : String) (rows : BundleValue Number) :
    List (Candidate Number) :=
  let key := codec.toLowerCase groupId
  if "self:".toList.isPrefixOf key.toList then []
  else if onlyGroup.any fun only => only != "" && key != only then []
  else
    match rows with
    | .arr items => items.filterMap (candidate? codec key)
    | _ => []

/-- The entries of a bundle that the import goes through. -/
def groupsOf [One Number] [DecidableEq Number] (payload : Payload) :
    List (String × BundleValue Number) :=
  match codec.decodeRowsJson payload with
  | none => []
  | some bundle =>
    match bundle.get "v", bundle.get "groups" with
    | some (.num v), some groups => if v = 1 then groups.entries else []
    | _, _ => []

end Candidates

/-! ## The stores -/

abbrev setAll [DecidableEq Number] (map : OrderedMap (RowKey Number) (Row Number))
    (rows : List (Row Number)) : OrderedMap (RowKey Number) (Row Number) :=
  OrderedMap.insertAll Row.key map rows

/-- What the import uses of an `MlsStateStore`: the rows of each group, `hasRows` for one key, and
`putRows`, which touches one group and stores nothing but the rows that it is given. -/
structure RowStore (σ Number : Type) where
  rowsOf : σ → String → List (Row Number)
  hasRow : σ → String → RowKey Number → Bool
  putRows : σ → String → List (Row Number) → σ
  rowsOf_putRows_other : ∀ (store : σ) {key other : String} (rows : List (Row Number)),
    other ≠ key → rowsOf (putRows store key rows) other = rowsOf store other
  of_mem_putRows : ∀ (store : σ) {key : String} {rows : List (Row Number)} {row : Row Number},
    row ∈ rowsOf (putRows store key rows) key → row ∈ rowsOf store key ∨ row ∈ rows

/-! ### `MemoryMlsStateStore` -/

abbrev MemoryRows (Number : Type) := OrderedMap String (OrderedMap (RowKey Number) (Row Number))

namespace MemoryRows

variable [DecidableEq Number]

def group (store : MemoryRows Number) (key : String) : OrderedMap (RowKey Number) (Row Number) :=
  (store.get key).getD ∅

def putRows (store : MemoryRows Number) (key : String) (rows : List (Row Number)) :
    MemoryRows Number :=
  store.insert key (setAll (store.group key) rows)

theorem group_putRows (store : MemoryRows Number) (key other : String) (rows : List (Row Number)) :
    (store.putRows key rows).group other =
      if other = key then setAll (store.group key) rows else store.group other := by
  rw [group, putRows, OrderedMap.get_insert]
  by_cases same : other = key <;> simp [same, group]

def rowsOf (store : MemoryRows Number) (key : String) : List (Row Number) :=
  (store.group key).entries.map Prod.snd

end MemoryRows

def memoryStore [DecidableEq Number] : RowStore (MemoryRows Number) Number where
  rowsOf := MemoryRows.rowsOf
  hasRow store key rowKey := decide (rowKey ∈ (store.group key).keys)
  putRows := MemoryRows.putRows
  rowsOf_putRows_other store key other rows differs := by
    rw [MemoryRows.rowsOf, MemoryRows.group_putRows, if_neg differs, MemoryRows.rowsOf]
  of_mem_putRows store key rows row isIn := by
    rw [MemoryRows.rowsOf, MemoryRows.group_putRows, if_pos rfl] at isIn
    obtain ⟨entry, isEntry, rfl⟩ := List.mem_map.mp isIn
    rcases OrderedMap.mem_entries_insertAll isEntry with old | ⟨row, isRow, same⟩
    · exact Or.inl (List.mem_map_of_mem old)
    · exact Or.inr (same ▸ isRow)

/-! ### `SnapshotMlsStateStore` -/

/-- The rows of a group as `putRows` leaves them: ascending, each key once. -/
@[ext] structure SortedRows (Number : Type) [LE Number] where
  rows : List (Row Number)
  ascending : rows.Pairwise fun left right => left.order ≤ right.order
  distinct : (rows.map Row.key).Nodup

def newest (maxRowsPerGroup : Nat) (rows : List (Row Number)) : List (Row Number) :=
  if maxRowsPerGroup = 0 then rows else rows.drop (rows.length - maxRowsPerGroup)

theorem newest_sublist (maxRowsPerGroup : Nat) (rows : List (Row Number)) :
    (newest maxRowsPerGroup rows).Sublist rows := by
  rw [newest]
  split
  · exact List.Sublist.refl rows
  · exact List.drop_sublist _ rows

namespace SortedRows

variable [LinearOrder Number]

/-- A group without rows. -/
def none : SortedRows Number := ⟨[], List.Pairwise.nil, List.nodup_nil⟩

def byKey (sorted : SortedRows Number) : OrderedMap (RowKey Number) (Row Number) where
  entries := sorted.rows.map fun row => (row.key, row)
  nodup := by
    rw [List.map_map]
    exact sorted.distinct

theorem keyed_byKey (sorted : SortedRows Number) : OrderedMap.Keyed Row.key sorted.byKey := by
  intro entry isIn
  obtain ⟨row, -, rfl⟩ := List.mem_map.mp isIn
  rfl

/-- All rows after a write, ascending; those that were there come first among equal orders. -/
def merged (sorted : SortedRows Number) (rows : List (Row Number)) : List (Row Number) :=
  ((setAll sorted.byKey rows).entries.map Prod.snd).insertionSort
    fun left right => left.order ≤ right.order

variable {sorted : SortedRows Number} {rows : List (Row Number)}

theorem pairwise_merged :
    (sorted.merged rows).Pairwise fun left right => left.order ≤ right.order := by
  have total : Std.Total fun left right : Row Number => left.order ≤ right.order :=
    ⟨fun left right => le_total left.order right.order⟩
  have trans : IsTrans (Row Number) fun left right => left.order ≤ right.order :=
    ⟨fun _ _ _ => le_trans⟩
  exact List.pairwise_insertionSort _ _

theorem nodup_merged :
    ((sorted.merged rows).map Row.key).Nodup := by
  have keyed := sorted.keyed_byKey.insertAll rows
  have keys : ((setAll sorted.byKey rows).entries.map Prod.snd).map Row.key =
      (setAll sorted.byKey rows).entries.map Prod.fst := by
    rw [List.map_map]
    exact List.map_congr_left fun entry isIn => (keyed entry isIn).symm
  refine (((List.perm_insertionSort _ _).map Row.key).nodup_iff).mpr ?_
  rw [keys]
  exact (setAll sorted.byKey rows).nodup

def put (maxRowsPerGroup : Nat) (sorted : SortedRows Number) (rows : List (Row Number)) :
    SortedRows Number where
  rows := newest maxRowsPerGroup (sorted.merged rows)
  ascending := pairwise_merged.sublist (newest_sublist maxRowsPerGroup _)
  distinct := nodup_merged.sublist ((newest_sublist maxRowsPerGroup _).map Row.key)

end SortedRows

abbrev SnapshotRows (Number : Type) [LE Number] := OrderedMap String (SortedRows Number)

namespace SnapshotRows

variable [LinearOrder Number]

def group (store : SnapshotRows Number) (key : String) : SortedRows Number :=
  (store.get key).getD SortedRows.none

def putRows (maxRowsPerGroup : Nat) (store : SnapshotRows Number) (key : String)
    (rows : List (Row Number)) : SnapshotRows Number :=
  store.insert key ((store.group key).put maxRowsPerGroup rows)

theorem group_putRows (maxRowsPerGroup : Nat) (store : SnapshotRows Number) (key other : String)
    (rows : List (Row Number)) :
    (store.putRows maxRowsPerGroup key rows).group other =
      if other = key then (store.group key).put maxRowsPerGroup rows else store.group other := by
  rw [group, putRows, OrderedMap.get_insert]
  by_cases same : other = key <;> simp [same, group]

end SnapshotRows

def snapshotStore [LinearOrder Number] (maxRowsPerGroup : Nat) :
    RowStore (SnapshotRows Number) Number where
  rowsOf store key := (store.group key).rows
  hasRow store key rowKey := decide (rowKey ∈ (store.group key).rows.map Row.key)
  putRows := SnapshotRows.putRows maxRowsPerGroup
  rowsOf_putRows_other store key other rows differs := by
    rw [SnapshotRows.group_putRows, if_neg differs]
  of_mem_putRows store key rows row isIn := by
    rw [SnapshotRows.group_putRows, if_pos rfl] at isIn
    have isMerged := (newest_sublist maxRowsPerGroup _).subset isIn
    rw [SortedRows.merged, List.mem_insertionSort, List.mem_map] at isMerged
    obtain ⟨entry, isEntry, rfl⟩ := isMerged
    rcases OrderedMap.mem_entries_insertAll isEntry with old | ⟨row, isRow, same⟩
    · obtain ⟨row, isRow, rfl⟩ := List.mem_map.mp old
      exact Or.inl isRow
    · exact Or.inr (same ▸ isRow)

/-! ## The import -/

section Import

variable {Payload σ : Type} (codec : Codec Payload Number) (store : RowStore σ Number)

/-- The candidates of an entry that the store does not have, as rows. -/
def freshRows (trusted : Bool) (onlyGroup : Option String) (state : σ)
    (entry : String × BundleValue Number) : List (Row Number) :=
  ((candidates codec onlyGroup entry.1 entry.2).filter fun candidate =>
    !store.hasRow state (codec.toLowerCase entry.1) candidate.key).map (Candidate.row trusted)

/-- The loop of `#importBundle`: how many rows are imported, and the store after each write. -/
def importGroups (trusted : Bool) (onlyGroup : Option String) :
    List (String × BundleValue Number) → σ → Nat × List σ
  | [], _ => (0, [])
  | entry :: rest, state =>
    match freshRows codec store trusted onlyGroup state entry with
    | [] => importGroups trusted onlyGroup rest state
    | first :: more =>
      let after := store.putRows state (codec.toLowerCase entry.1) (first :: more)
      let (imported, states) := importGroups trusted onlyGroup rest after
      ((first :: more).length + imported, after :: states)

def importBundle [One Number] [DecidableEq Number] (trusted : Bool)
    (onlyGroup : Option String) (payload : Payload) (state : σ) : Nat × List σ :=
  importGroups codec store trusted onlyGroup (groupsOf codec payload) state

end Import

/-! ## The row that completes a bundle -/

/-- The key of a group: its id in lower case, which is not empty. -/
structure GroupKey where
  text : String
  notEmpty : text ≠ ""

/-- What `group.process` answers to a row. -/
inductive Processed where
  /-- It throws. -/
  | refused
  | own
  | application (plaintext senderIdentity : Option Bytes)
  /-- A commit or a proposal. -/
  | handshake

/-- What `#processRow` is told while it works on a row. -/
structure Answers (Payload : Type) where
  processed : Processed
  /-- The reassembler of the group: the payload that a piece completes. -/
  push : Bytes → Option Payload
  /-- The wallet in a sender's identity; empty where the identity is no certificate. -/
  certificateWallet : Bytes → String
  rowVerified : Bool

structure LogRow (Number : Type) where
  order : Number
  messageId : String
  isCommit : Bool
  senderAddress : String
  fields : List (String × BundleValue Number)

/-- The result of `#processRow`. -/
inductive Result (Number : Type) where
  | refused
  | done
  | row (row : Row Number)

section ProcessRow

variable {Payload σ : Type} (codec : Codec Payload Number) (store : RowStore σ Number)

/-- `{ ...row, encryptedText, nonce, keyVersion, senderVerified }`. -/
def unwrapped (row : LogRow Number) (inner : Inner) (senderVerified : Bool) : Row Number where
  order := row.order
  messageId := row.messageId
  senderVerified := senderVerified
  fields :=
    row.fields.filter (fun field => field.1 ∉ ["encryptedText", "nonce", "keyVersion"]) ++
      [("encryptedText", .bytes inner.ciphertext), ("nonce", .bytes inner.nonce),
        ("keyVersion", .bigint inner.keyVersion)]

/-- `#processRow`: its result, and the store after each write. -/
def processRow [One Number] [DecidableEq Number] (answers : Answers Payload) (groupKey : GroupKey)
    (row : LogRow Number) (state : σ) : Result Number × List σ :=
  match answers.processed with
  | .refused => (.refused, [])
  | .own => (if row.isCommit then .refused else .done, [])
  | .application (some plaintext) (some senderIdentity) =>
    match decodeInner plaintext with
    | some inner =>
      let senderWallet := answers.certificateWallet senderIdentity
      let senderVerified :=
        codec.toLowerCase senderWallet == codec.toLowerCase row.senderAddress && answers.rowVerified
      (.row (unwrapped row inner senderVerified), [])
    | none =>
      match answers.push plaintext with
      | some payload =>
        (.done, (importBundle codec store false (some groupKey.text) payload state).2)
      | none => (.done, [])
  | .application _ _ | .handshake => (.done, [])

end ProcessRow

/-! ## What any store keeps -/

/-- **Undisturbed**: the rows that a store holds are still there as they were, nothing has come
to any other group, and what has come to this one is unverified. -/
structure Undisturbed {σ : Type} (store : RowStore σ Number) (key : String)
    (before after : σ) : Prop where
  kept : ∀ group, ∀ row ∈ store.rowsOf before group, row ∈ store.rowsOf after group
  onlyHere : ∀ group, group ≠ key → store.rowsOf after group = store.rowsOf before group
  unverified : ∀ row ∈ store.rowsOf after key,
    row ∈ store.rowsOf before key ∨ row.senderVerified = false

section AnyStore

variable {Payload σ : Type} {codec : Codec Payload Number} {store : RowStore σ Number}
  {groupKey : GroupKey} {entry : String × BundleValue Number}

theorem candidates_key {groupId : String} (rows : BundleValue Number)
    (some : candidates codec (some groupKey.text) groupId rows ≠ []) :
    codec.toLowerCase groupId = groupKey.text := by
  by_contra differs
  refine some ?_
  have out : (groupKey.text != "" && codec.toLowerCase groupId != groupKey.text) = true := by
    simp [groupKey.notEmpty, differs]
  simp only [candidates, Option.any_some, out, if_true, ite_self]

theorem freshRows_key {state : σ}
    (some : freshRows codec store false (some groupKey.text) state entry ≠ []) :
    codec.toLowerCase entry.1 = groupKey.text := by
  refine candidates_key entry.2 fun none => some ?_
  rw [freshRows, none]
  rfl

theorem unverified_freshRows {onlyGroup : Option String} {state : σ} :
    ∀ row ∈ freshRows codec store false onlyGroup state entry, row.senderVerified = false := by
  intro row isRow
  obtain ⟨candidate, -, rfl⟩ := List.mem_map.mp isRow
  rfl

theorem absent_of_freshRows {σ : Type} {store : RowStore σ Number} {trusted : Bool}
    {onlyGroup : Option String} {state : σ} {row : Row Number}
    (isFresh : row ∈ freshRows codec store trusted onlyGroup state entry) :
    store.hasRow state (codec.toLowerCase entry.1) row.key = false := by
  obtain ⟨candidate, isNew, rfl⟩ := List.mem_map.mp isFresh
  have absent := (List.mem_filter.mp isNew).2
  exact (Bool.not_eq_true' _).mp absent

/-- The keys of the candidates of some entries. -/
def offeredKeys (codec : Codec Payload Number) (groupKey : GroupKey)
    (entries : List (String × BundleValue Number)) : List (RowKey Number) :=
  entries.flatMap fun entry =>
    (candidates codec (some groupKey.text) entry.1 entry.2).map Candidate.key

theorem offeredKeys_cons (groupKey : GroupKey) (entry : String × BundleValue Number)
    (rest : List (String × BundleValue Number)) :
    offeredKeys codec groupKey (entry :: rest) =
      offeredKeys codec groupKey [entry] ++ offeredKeys codec groupKey rest := by
  simp [offeredKeys]

theorem fresh_keys_iff (store : RowStore σ Number) (state : σ) {key : RowKey Number} :
    (∃ row ∈ freshRows codec store false (some groupKey.text) state entry, row.key = key) ↔
      key ∈ offeredKeys codec groupKey [entry] ∧
        store.hasRow state (codec.toLowerCase entry.1) key = false := by
  rw [offeredKeys, List.flatMap_singleton, List.mem_map]
  constructor
  · rintro ⟨row, isFresh, rfl⟩
    have absent := absent_of_freshRows isFresh
    obtain ⟨candidate, isNew, rfl⟩ := List.mem_map.mp isFresh
    exact ⟨⟨candidate, (List.mem_filter.mp isNew).1, rfl⟩, absent⟩
  rintro ⟨⟨candidate, isCandidate, rfl⟩, absent⟩
  refine ⟨candidate.row false, List.mem_map_of_mem (List.mem_filter.mpr ⟨isCandidate, ?_⟩), rfl⟩
  rw [absent]
  rfl

theorem importGroups_cons (trusted : Bool) (onlyGroup : Option String)
    (entry : String × BundleValue Number) (rest : List (String × BundleValue Number)) (state : σ) :
    (importGroups codec store trusted onlyGroup (entry :: rest) state).2 =
      if freshRows codec store trusted onlyGroup state entry = [] then
        (importGroups codec store trusted onlyGroup rest state).2
      else
        let after := store.putRows state (codec.toLowerCase entry.1)
          (freshRows codec store trusted onlyGroup state entry)
        after :: (importGroups codec store trusted onlyGroup rest after).2 := by
  rw [importGroups]
  cases freshRows codec store trusted onlyGroup state entry with
  | nil | cons => rfl

/-- **Every write of a shared bundle** goes to the one group, and adds unverified rows only. -/
theorem confined (groupKey : GroupKey) (before : σ) :
    ∀ (entries : List (String × BundleValue Number)) (state : σ),
      (∀ group, group ≠ groupKey.text → store.rowsOf state group = store.rowsOf before group) →
      (∀ row ∈ store.rowsOf state groupKey.text,
        row ∈ store.rowsOf before groupKey.text ∨ row.senderVerified = false) →
      ∀ after ∈ (importGroups codec store false (some groupKey.text) entries state).2,
        (∀ group, group ≠ groupKey.text → store.rowsOf after group = store.rowsOf before group) ∧
        ∀ row ∈ store.rowsOf after groupKey.text,
          row ∈ store.rowsOf before groupKey.text ∨ row.senderVerified = false := by
  intro entries
  induction entries with
  | nil =>
    intro state _ _ after isAfter
    cases isAfter
  | cons entry rest ih =>
    intro state onlyHere unverified after isAfter
    rw [importGroups_cons] at isAfter
    split at isAfter
    · exact ih state onlyHere unverified after isAfter
    next some =>
    have here := freshRows_key some
    rw [here] at isAfter
    -- The state after the write of this entry.
    have nextOnly : ∀ group, group ≠ groupKey.text →
        store.rowsOf (store.putRows state groupKey.text
          (freshRows codec store false (Option.some groupKey.text) state entry)) group =
        store.rowsOf before group := by
      intro group differs
      rw [store.rowsOf_putRows_other state _ differs, onlyHere group differs]
    have nextUnverified : ∀ row ∈ store.rowsOf (store.putRows state groupKey.text
        (freshRows codec store false (Option.some groupKey.text) state entry)) groupKey.text,
        row ∈ store.rowsOf before groupKey.text ∨ row.senderVerified = false := by
      intro row isRow
      rcases store.of_mem_putRows state isRow with old | new
      · exact unverified row old
      · exact Or.inr (unverified_freshRows row new)
    rcases List.mem_cons.mp isAfter with rfl | later
    · exact ⟨nextOnly, nextUnverified⟩
    · exact ih _ nextOnly nextUnverified after later

def Answers.completed {Payload : Type} (answers : Answers Payload) : Option Payload :=
  match answers.processed with
  | .application (some plaintext) (some _) =>
    if (decodeInner plaintext).isSome then none else answers.push plaintext
  | _ => none

/-- The rows of the bundle that a row completes, by group. -/
def offered [One Number] [DecidableEq Number] (codec : Codec Payload Number)
    (answers : Answers Payload) :
    List (String × BundleValue Number) :=
  match answers.completed with
  | some payload => groupsOf codec payload
  | none => []

theorem writes_processRow [One Number] [DecidableEq Number] (answers : Answers Payload)
    (groupKey : GroupKey) (row : LogRow Number) (state : σ) :
    (processRow codec store answers groupKey row state).2 =
      (importGroups codec store false (some groupKey.text) (offered codec answers) state).2 := by
  rw [processRow, offered, Answers.completed]
  cases answers.processed with
  | refused | own | handshake => rfl
  | application plaintext senderIdentity =>
    cases plaintext with
    | none => rfl
    | some plaintext =>
      cases senderIdentity with
      | none => rfl
      | some =>
        cases decoded : decodeInner plaintext with
        | some => simp [decoded, importGroups]
        | none =>
          cases pushed : answers.push plaintext <;>
            simp [decoded, pushed, importBundle, importGroups]

theorem undisturbed_of_kept [One Number] [DecidableEq Number] {answers : Answers Payload}
    {row : LogRow Number} {before after : σ}
    (isAfter : after ∈ (processRow codec store answers groupKey row before).2)
    (kept : ∀ held ∈ store.rowsOf before groupKey.text, held ∈ store.rowsOf after groupKey.text) :
    Undisturbed store groupKey.text before after := by
  rw [writes_processRow] at isAfter
  obtain ⟨onlyHere, unverified⟩ := confined groupKey before (offered codec answers) before
    (fun _ _ => rfl) (fun _ held => Or.inl held) after isAfter
  refine ⟨fun group held isHeld => ?_, onlyHere, unverified⟩
  by_cases same : group = groupKey.text
  · subst same
    exact kept held isHeld
  · rw [onlyHere group same]
    exact isHeld

end AnyStore

/-! ## The store in memory -/

section Memory

variable [DecidableEq Number] {Payload : Type} {codec : Codec Payload Number}

/-- **The store in memory keeps every row**: a new key takes the place of none. -/
theorem memory_kept (groupKey : GroupKey) (held : Row Number) :
    ∀ (entries : List (String × BundleValue Number)) (state : MemoryRows Number),
      held ∈ state.rowsOf groupKey.text →
      ∀ after ∈ (importGroups codec memoryStore false (some groupKey.text) entries state).2,
        held ∈ after.rowsOf groupKey.text := by
  intro entries
  induction entries with
  | nil =>
    intro state _ after isAfter
    cases isAfter
  | cons entry rest ih =>
    intro state isHeld after isAfter
    rw [importGroups_cons] at isAfter
    split at isAfter
    · exact ih state isHeld after isAfter
    next some =>
    have here := freshRows_key some
    have absent : ∀ row ∈ freshRows codec memoryStore false (Option.some groupKey.text) state
        entry, row.key ∉ (state.group groupKey.text).keys := by
      intro row isFresh
      have free := absent_of_freshRows isFresh
      rw [here] at free
      exact of_decide_eq_false free
    have stays : held ∈ (state.putRows groupKey.text
        (freshRows codec memoryStore false (Option.some groupKey.text) state entry)).rowsOf
        groupKey.text := by
      rw [MemoryRows.rowsOf, MemoryRows.group_putRows, if_pos rfl,
        OrderedMap.entries_insertAll absent, List.map_append]
      exact List.mem_append_left _ isHeld
    rw [here] at isAfter
    rcases List.mem_cons.mp isAfter with rfl | later
    · exact stays
    · exact ih _ stays after later

end Memory

/-! ## The store with a bound -/

section Snapshot

variable [LinearOrder Number]

def notOlder (oldest : Row Number) (row : Row Number) : Bool := decide (oldest.order ≤ row.order)

def upperKeys (oldest : Row Number) (rows : List (Row Number)) : Finset (RowKey Number) :=
  ((rows.filter (notOlder oldest)).map Row.key).toFinset

variable {oldest : Row Number} {rows : List (Row Number)} {maxRowsPerGroup : Nat}
  {sorted : SortedRows Number} {groupKey : GroupKey}

theorem mem_upperKeys {key : RowKey Number} :
    key ∈ upperKeys oldest rows ↔ oldest.order ≤ key.1 ∧ key ∈ rows.map Row.key := by
  rw [upperKeys, List.mem_toFinset, List.mem_map, List.mem_map]
  constructor
  · rintro ⟨row, isIn, rfl⟩
    obtain ⟨isRow, upper⟩ := List.mem_filter.mp isIn
    exact ⟨of_decide_eq_true upper, row, isRow, rfl⟩
  · rintro ⟨upper, row, isRow, rfl⟩
    exact ⟨row, List.mem_filter.mpr ⟨isRow, decide_eq_true upper⟩, rfl⟩

theorem card_upperKeys (distinct : (rows.map Row.key).Nodup) :
    (upperKeys oldest rows).card = (rows.filter (notOlder oldest)).length := by
  have apart : ((rows.filter (notOlder oldest)).map Row.key).Nodup :=
    distinct.sublist (List.filter_sublist.map Row.key)
  rw [upperKeys, List.toFinset_card_of_nodup apart, List.length_map]

namespace SortedRows

variable {sorted : SortedRows Number} {rows : List (Row Number)} {oldest : Row Number}

theorem mem_merged_keys {key : RowKey Number} :
    key ∈ (sorted.merged rows).map Row.key ↔
      key ∈ sorted.rows.map Row.key ∨ ∃ row ∈ rows, row.key = key := by
  have keyed := sorted.keyed_byKey.insertAll rows
  have keys : key ∈ (setAll sorted.byKey rows).keys ↔
      key ∈ sorted.byKey.keys ∨ ∃ row ∈ rows, row.key = key := OrderedMap.mem_keys_insertAll
  have same : sorted.byKey.keys = sorted.rows.map Row.key := by
    rw [OrderedMap.keys, byKey, List.map_map]
    rfl
  rw [same] at keys
  rw [← keys, SortedRows.merged, ((List.perm_insertionSort _ _).map Row.key).mem_iff,
    OrderedMap.keys, List.map_map]
  have values : (setAll sorted.byKey rows).entries.map (Row.key ∘ Prod.snd) =
      (setAll sorted.byKey rows).entries.map Prod.fst :=
    List.map_congr_left fun entry isIn => (keyed entry isIn).symm
  rw [values]

theorem byKey_values : sorted.byKey.entries.map Prod.snd = sorted.rows := by
  rw [byKey, List.map_map]
  exact List.map_id _

theorem entries_setAll (absent : ∀ row ∈ rows, row.key ∉ sorted.rows.map Row.key) :
    (setAll sorted.byKey rows).entries = sorted.byKey.entries ++ (setAll ∅ rows).entries := by
  refine OrderedMap.entries_insertAll fun row isRow => ?_
  rw [OrderedMap.keys, byKey, List.map_map]
  exact absent row isRow

theorem mem_merged_of_mem {row : Row Number}
    (absent : ∀ row ∈ rows, row.key ∉ sorted.rows.map Row.key) (isRow : row ∈ sorted.rows) :
    row ∈ sorted.merged rows := by
  rw [merged, List.mem_insertionSort, entries_setAll absent, List.map_append, byKey_values]
  exact List.mem_append_left _ isRow

theorem upward_merged :
    (sorted.merged rows).Pairwise fun left right =>
      notOlder oldest left = true → notOlder oldest right = true :=
  pairwise_merged.imp fun le upper => decide_eq_true ((of_decide_eq_true upper).trans le)

/-- **Where the oldest row stands after a write** under new keys: first among those that are not
older, as it was before. -/
theorem merged_led {tail : List (Row Number)}
    (led : sorted.rows.filter (notOlder oldest) = oldest :: tail)
    (absent : ∀ row ∈ rows, row.key ∉ sorted.rows.map Row.key) :
    ∃ others, (sorted.merged rows).filter (notOlder oldest) = oldest :: others := by
  have total : Std.Total fun left right : Row Number => left.order ≤ right.order :=
    ⟨fun left right => le_total left.order right.order⟩
  have trans : IsTrans (Row Number) fun left right => left.order ≤ right.order :=
    ⟨fun _ _ _ => le_trans⟩
  rw [merged, filter_insertionSort, entries_setAll absent, List.map_append, byKey_values,
    List.filter_append, led, List.cons_append, List.insertionSort_cons]
  refine ⟨_, orderedInsert_first _ fun row isIn => ?_⟩
  rw [List.mem_insertionSort, List.mem_append] at isIn
  rcases isIn with isOld | isNew
  · have isUpper : row ∈ sorted.rows.filter (notOlder oldest) :=
      led ▸ List.mem_cons_of_mem oldest isOld
    exact of_decide_eq_true (List.mem_filter.mp isUpper).2
  · exact of_decide_eq_true (List.mem_filter.mp isNew).2

theorem put_fits {maxRowsPerGroup : Nat}
    (fits : maxRowsPerGroup = 0 ∨
      ((sorted.merged rows).filter (notOlder oldest)).length ≤ maxRowsPerGroup) :
    (sorted.put maxRowsPerGroup rows).rows.filter (notOlder oldest) =
      (sorted.merged rows).filter (notOlder oldest) := by
  show (newest maxRowsPerGroup (sorted.merged rows)).filter (notOlder oldest) = _
  rw [newest]
  split
  · rfl
  · next bounded =>
    have few := fits.resolve_left bounded
    rw [filter_drop_end maxRowsPerGroup upward_merged, Nat.sub_eq_zero_of_le few, List.drop_zero]

theorem put_crowded {maxRowsPerGroup : Nat} {others : List (Row Number)}
    (bounded : maxRowsPerGroup ≠ 0)
    (led : (sorted.merged rows).filter (notOlder oldest) = oldest :: others)
    (crowded : maxRowsPerGroup < ((sorted.merged rows).filter (notOlder oldest)).length) :
    oldest ∉ (sorted.put maxRowsPerGroup rows).rows := by
  intro isIn
  have isUpper : oldest ∈ (sorted.put maxRowsPerGroup rows).rows.filter (notOlder oldest) :=
    List.mem_filter.mpr ⟨isIn, decide_eq_true le_rfl⟩
  change oldest ∈ (newest maxRowsPerGroup (sorted.merged rows)).filter (notOlder oldest) at isUpper
  rw [newest, if_neg bounded, filter_drop_end maxRowsPerGroup upward_merged, led] at isUpper
  rw [led] at crowded
  -- At least one row is cut off, and the oldest does not come again.
  obtain ⟨cut, more⟩ := Nat.exists_eq_add_of_lt crowded
  have count : (oldest :: others).length - maxRowsPerGroup = cut + 1 := by omega
  rw [count, List.drop_succ_cons] at isUpper
  have once : ((oldest :: others).map Row.key).Nodup := by
    rw [← led]
    exact nodup_merged.sublist (List.filter_sublist.map Row.key)
  rw [List.map_cons, List.nodup_cons] at once
  exact once.1 (List.mem_map_of_mem (List.mem_of_mem_drop isUpper))

end SortedRows

/-! ### Bundles of several entries -/

variable {Payload : Type} {codec : Codec Payload Number}

def crowd (oldest : Row Number) (sorted : SortedRows Number) (keys : List (RowKey Number)) :
    Finset (RowKey Number) :=
  upperKeys oldest sorted.rows ∪ (keys.filter fun key => decide (oldest.order ≤ key.1)).toFinset

theorem snapshot_cases (maxRowsPerGroup : Nat) (groupKey : GroupKey) (state : SnapshotRows Number)
    (entry : String × BundleValue Number) (rest : List (String × BundleValue Number)) :
    ((importGroups codec (snapshotStore maxRowsPerGroup) false (some groupKey.text)
        (entry :: rest) state).2 =
      (importGroups codec (snapshotStore maxRowsPerGroup) false (some groupKey.text) rest state).2 ∧
      ∀ key ∈ offeredKeys codec groupKey [entry],
        key ∈ (state.group groupKey.text).rows.map Row.key) ∨
    ∃ rows after, rows ≠ [] ∧
      after.group groupKey.text = (state.group groupKey.text).put maxRowsPerGroup rows ∧
      (∀ key, (∃ row ∈ rows, row.key = key) ↔ key ∈ offeredKeys codec groupKey [entry] ∧
        key ∉ (state.group groupKey.text).rows.map Row.key) ∧
      (importGroups codec (snapshotStore maxRowsPerGroup) false (some groupKey.text)
          (entry :: rest) state).2 =
        after :: (importGroups codec (snapshotStore maxRowsPerGroup) false (some groupKey.text)
          rest after).2 := by
  rw [importGroups_cons]
  by_cases none : freshRows codec (snapshotStore maxRowsPerGroup) false (some groupKey.text) state
      entry = []
  · refine Or.inl ⟨if_pos none, fun key isOffered => ?_⟩
    have someCandidate : candidates codec (some groupKey.text) entry.1 entry.2 ≠ [] := by
      intro empty
      rw [offeredKeys, List.flatMap_singleton, empty] at isOffered
      cases isOffered
    have here := candidates_key entry.2 someCandidate
    by_contra absent
    have isFresh := (fresh_keys_iff (snapshotStore maxRowsPerGroup) state).mpr
      ⟨isOffered, by rw [here]; exact decide_eq_false absent⟩
    obtain ⟨row, isRow, -⟩ := isFresh
    cases none ▸ isRow
  have here := freshRows_key none
  let rows := freshRows codec (snapshotStore maxRowsPerGroup) false (some groupKey.text) state
    entry
  refine Or.inr ⟨rows, state.putRows maxRowsPerGroup groupKey.text rows, none, ?_, ?_, ?_⟩
  · rw [SnapshotRows.group_putRows, if_pos rfl]
  · intro key
    rw [fresh_keys_iff, here]
    exact and_congr_right fun _ => decide_eq_false_iff_not
  · rw [if_neg none, here]
    rfl

theorem crowd_append {before after : SortedRows Number} {first : List (RowKey Number)}
    (rest : List (RowKey Number))
    (joined : ∀ key : RowKey Number, oldest.order ≤ key.1 →
      (key ∈ after.rows.map Row.key ↔ key ∈ before.rows.map Row.key ∨ key ∈ first))
    :
    crowd oldest after rest = crowd oldest before (first ++ rest) := by
  ext key
  simp only [crowd, Finset.mem_union, mem_upperKeys, List.mem_toFinset, List.mem_filter,
    List.mem_append, decide_eq_true_eq]
  constructor
  · rintro (⟨upper, isKey⟩ | ⟨isRest, upper⟩)
    · rcases (joined key upper).mp isKey with old | new
      · exact Or.inl ⟨upper, old⟩
      · exact Or.inr ⟨Or.inl new, upper⟩
    · exact Or.inr ⟨Or.inr isRest, upper⟩
  rintro (⟨upper, isKey⟩ | ⟨isFirst | isRest, upper⟩)
  · exact Or.inl ⟨upper, (joined key upper).mpr (Or.inl isKey)⟩
  · exact Or.inl ⟨upper, (joined key upper).mpr (Or.inr isFirst)⟩
  · exact Or.inr ⟨isRest, upper⟩

theorem crowd_taken {first rest : List (RowKey Number)}
    (taken : ∀ key ∈ first, key ∈ sorted.rows.map Row.key) :
    crowd oldest sorted rest = crowd oldest sorted (first ++ rest) :=
  crowd_append rest fun key _ => ⟨Or.inl, fun isKey => isKey.elim id (taken key)⟩

theorem joined_of_fits {offeredHere : List (RowKey Number)}
    (fits : maxRowsPerGroup = 0 ∨ ((sorted.merged rows).filter (notOlder oldest)).length ≤
      maxRowsPerGroup)
    (written : ∀ key, (∃ row ∈ rows, row.key = key) ↔ key ∈ offeredHere ∧
      key ∉ sorted.rows.map Row.key)
    :
    ∀ key : RowKey Number, oldest.order ≤ key.1 →
      (key ∈ (sorted.put maxRowsPerGroup rows).rows.map Row.key ↔
        key ∈ sorted.rows.map Row.key ∨ key ∈ offeredHere) := by
  intro key upper
  have alike : upperKeys oldest (sorted.put maxRowsPerGroup rows).rows =
      upperKeys oldest (sorted.merged rows) := by
    rw [upperKeys, upperKeys, SortedRows.put_fits fits]
  have member := Finset.ext_iff.mp alike key
  rw [mem_upperKeys, mem_upperKeys, SortedRows.mem_merged_keys, written] at member
  constructor
  · intro isKey
    rcases (member.mp ⟨upper, isKey⟩).2 with old | new
    · exact Or.inl old
    · exact Or.inr new.1
  intro oldOrOffered
  refine (member.mpr ⟨upper, ?_⟩).2
  by_cases old : key ∈ sorted.rows.map Row.key
  · exact Or.inl old
  · exact Or.inr ⟨oldOrOffered.resolve_left old, old⟩

theorem length_le_crowd {keys more : List (RowKey Number)}
    (written : ∀ key, (∃ row ∈ rows, row.key = key) ↔ key ∈ keys ∧ key ∉ sorted.rows.map Row.key) :
    ((sorted.merged rows).filter (notOlder oldest)).length ≤
      (crowd oldest sorted (keys ++ more)).card := by
  rw [← card_upperKeys SortedRows.nodup_merged]
  refine Finset.card_le_card fun key isUpper => ?_
  rw [mem_upperKeys, SortedRows.mem_merged_keys, written] at isUpper
  obtain ⟨upper, old | ⟨isOffered, -⟩⟩ := isUpper
  · exact Finset.mem_union_left _ (mem_upperKeys.mpr ⟨upper, old⟩)
  · refine Finset.mem_union_right _ (List.mem_toFinset.mpr (List.mem_filter.mpr ⟨?_, ?_⟩))
    · exact List.mem_append_left more isOffered
    · exact decide_eq_true upper

theorem led_of_fits {tail : List (Row Number)}
    (fits : maxRowsPerGroup = 0 ∨ ((sorted.merged rows).filter (notOlder oldest)).length ≤
      maxRowsPerGroup)
    (led : sorted.rows.filter (notOlder oldest) = oldest :: tail)
    (absent : ∀ row ∈ rows, row.key ∉ sorted.rows.map Row.key) :
    ∃ others, (sorted.put maxRowsPerGroup rows).rows.filter (notOlder oldest) =
      oldest :: others := by
  rw [SortedRows.put_fits fits]
  exact SortedRows.merged_led led absent

/-- **With room for the crowd** no write of a bundle drives out a row. -/
theorem snapshot_kept :
    ∀ (entries : List (String × BundleValue Number)) (state : SnapshotRows Number)
      (tail : List (Row Number)),
      (state.group groupKey.text).rows.filter (notOlder oldest) = oldest :: tail →
      (maxRowsPerGroup = 0 ∨
        (crowd oldest (state.group groupKey.text) (offeredKeys codec groupKey entries)).card ≤
          maxRowsPerGroup) →
      ∀ after ∈ (importGroups codec (snapshotStore maxRowsPerGroup) false (some groupKey.text)
          entries state).2,
        ∀ held ∈ (state.group groupKey.text).rows, notOlder oldest held = true →
          held ∈ (after.group groupKey.text).rows := by
  intro entries
  induction entries with
  | nil =>
    intro state tail _ _ after isAfter
    cases isAfter
  | cons entry rest ih =>
    intro state tail led room after isAfter held isHeld upper
    rw [offeredKeys_cons] at room
    rcases snapshot_cases maxRowsPerGroup groupKey state entry rest with
      ⟨same, taken⟩ | ⟨rows, next, -, group, written, states⟩
    · rw [same] at isAfter
      rw [← crowd_taken taken] at room
      exact ih state tail led room after isAfter held isHeld upper
    have fits := room.imp_right (le_trans (length_le_crowd written))
    have absent : ∀ row ∈ rows, row.key ∉ (state.group groupKey.text).rows.map Row.key :=
      fun row isRow => ((written row.key).mp ⟨row, isRow, rfl⟩).2
    obtain ⟨others, ledAfter⟩ := led_of_fits fits led absent
    have stays : held ∈ (next.group groupKey.text).rows := by
      have isMerged : held ∈ ((state.group groupKey.text).merged rows).filter
          (notOlder oldest) :=
        List.mem_filter.mpr ⟨SortedRows.mem_merged_of_mem absent isHeld, upper⟩
      rw [← SortedRows.put_fits fits, ← group] at isMerged
      exact (List.mem_filter.mp isMerged).1
    rw [states] at isAfter
    rcases List.mem_cons.mp isAfter with rfl | later
    · exact stays
    have joined := crowd_append (offeredKeys codec groupKey rest) (joined_of_fits fits written)
    rw [← joined, ← group] at room
    rw [← group] at ledAfter
    exact ih next others ledAfter room after later held stays upper

theorem snapshot_driven (bounded : maxRowsPerGroup ≠ 0) :
    ∀ (entries : List (String × BundleValue Number)) (state : SnapshotRows Number)
      (tail : List (Row Number)),
      (state.group groupKey.text).rows.filter (notOlder oldest) = oldest :: tail →
      maxRowsPerGroup <
        (crowd oldest (state.group groupKey.text) (offeredKeys codec groupKey entries)).card →
      (∃ key ∈ offeredKeys codec groupKey entries,
        key ∉ (state.group groupKey.text).rows.map Row.key) →
      ∃ after ∈ (importGroups codec (snapshotStore maxRowsPerGroup) false (some groupKey.text)
          entries state).2, oldest ∉ (after.group groupKey.text).rows := by
  intro entries
  induction entries with
  | nil =>
    rintro state tail _ _ ⟨key, isOffered, _⟩
    cases isOffered
  | cons entry rest ih =>
    intro state tail led crowded someNew
    rw [offeredKeys_cons] at crowded someNew
    rcases snapshot_cases maxRowsPerGroup groupKey state entry rest with
      ⟨same, taken⟩ | ⟨rows, next, -, group, written, states⟩
    · rw [← crowd_taken taken] at crowded
      obtain ⟨key, isOffered, isNew⟩ := someNew
      have isLater : key ∈ offeredKeys codec groupKey rest :=
        (List.mem_append.mp isOffered).resolve_left fun here => isNew (taken key here)
      rw [same]
      exact ih state tail led crowded ⟨key, isLater, isNew⟩
    have absent : ∀ row ∈ rows, row.key ∉ (state.group groupKey.text).rows.map Row.key :=
      fun row isRow => ((written row.key).mp ⟨row, isRow, rfl⟩).2
    rw [states]
    by_cases fits : (((state.group groupKey.text).merged rows).filter
        (notOlder oldest)).length ≤ maxRowsPerGroup
    · obtain ⟨others, ledAfter⟩ := led_of_fits (Or.inr fits) led absent
      have joined := crowd_append (offeredKeys codec groupKey rest)
        (joined_of_fits (Or.inr fits) written)
      rw [← joined, ← group] at crowded
      -- The rows that are there fit, so the crowd has keys that are still to come.
      have fitsAfter : (upperKeys oldest (next.group groupKey.text).rows).card ≤
          maxRowsPerGroup := by
        rw [card_upperKeys (next.group groupKey.text).distinct, group,
          SortedRows.put_fits (Or.inr fits)]
        exact fits
      have toCome : ∃ key ∈ offeredKeys codec groupKey rest,
          key ∉ (next.group groupKey.text).rows.map Row.key := by
        by_contra none
        push Not at none
        have noMore : crowd oldest (next.group groupKey.text) (offeredKeys codec groupKey rest) ⊆
            upperKeys oldest (next.group groupKey.text).rows := by
          intro key isIn
          rcases Finset.mem_union.mp isIn with isUpper | isOffered
          · exact isUpper
          · obtain ⟨isOffered, upper⟩ := List.mem_filter.mp (List.mem_toFinset.mp isOffered)
            exact mem_upperKeys.mpr ⟨of_decide_eq_true upper, none key isOffered⟩
        have few := (Finset.card_le_card noMore).trans fitsAfter
        omega
      rw [← group] at ledAfter
      obtain ⟨after, isAfter, out⟩ := ih next others ledAfter crowded toCome
      exact ⟨after, List.mem_cons_of_mem next isAfter, out⟩
    obtain ⟨others, ledMerged⟩ := SortedRows.merged_led led absent
    refine ⟨next, List.mem_cons_self, ?_⟩
    rw [group]
    exact SortedRows.put_crowded bounded ledMerged (not_le.mp fits)

theorem no_write {state : SnapshotRows Number} :
    ∀ entries : List (String × BundleValue Number),
      (∀ key ∈ offeredKeys codec groupKey entries,
        key ∈ (state.group groupKey.text).rows.map Row.key) →
      (importGroups codec (snapshotStore maxRowsPerGroup) false (some groupKey.text) entries
        state).2 = [] := by
  intro entries
  induction entries with
  | nil => exact fun _ => rfl
  | cons entry rest ih =>
    intro taken
    rw [offeredKeys_cons, List.forall_mem_append] at taken
    rcases snapshot_cases maxRowsPerGroup groupKey state entry rest with
      ⟨same, -⟩ | ⟨rows, next, some, -, written, -⟩
    · rw [same]
      exact ih taken.2
    · obtain ⟨row, isRow⟩ := List.exists_mem_of_ne_nil rows some
      obtain ⟨isOffered, isNew⟩ := (written row.key).mp ⟨row, isRow, rfl⟩
      exact absurd (taken.1 row.key isOffered) isNew

/-- **Room**: the group has no rows, or no bound, or the bundle has no new keys, or the keys that
are not older than the oldest row, stored and offered, are no more than the bound. -/
def Room (maxRowsPerGroup : Nat) (state : SnapshotRows Number) (groupKey : GroupKey)
    (keys : List (RowKey Number)) : Prop :=
  match (state.group groupKey.text).rows with
  | [] => True
  | oldest :: _ =>
    maxRowsPerGroup = 0 ∨ (∀ key ∈ keys, key ∈ (state.group groupKey.text).rows.map Row.key) ∨
      (crowd oldest (state.group groupKey.text) keys).card ≤ maxRowsPerGroup

end Snapshot

/-! ## What shared history does to a store -/

theorem filter_notOlder [LinearOrder Number] {sorted : SortedRows Number} {oldest : Row Number}
    {tail : List (Row Number)} (isFirst : sorted.rows = oldest :: tail) :
    sorted.rows.filter (notOlder oldest) = oldest :: tail := by
  have ascending := sorted.ascending
  rw [isFirst] at ascending ⊢
  refine List.filter_eq_self.mpr fun row isRow => decide_eq_true ?_
  rcases List.mem_cons.mp isRow with rfl | later
  · exact le_rfl
  · exact (List.pairwise_cons.mp ascending).1 row later

/-- **Shared history and the rows that a device holds.**  The store in memory is left undisturbed
by every row and every bundle.  The store with a bound is left undisturbed exactly if it has
room. -/
theorem undisturbed_iff [LinearOrder Number] [One Number] {Payload : Type}
    (codec : Codec Payload Number) (answers : Answers Payload) (groupKey : GroupKey)
    (row : LogRow Number) :
    (∀ state : MemoryRows Number,
      ∀ after ∈ (processRow codec memoryStore answers groupKey row state).2,
        Undisturbed memoryStore groupKey.text state after) ∧
    ∀ (maxRowsPerGroup : Nat) (state : SnapshotRows Number),
      (∀ after ∈
          (processRow codec (snapshotStore maxRowsPerGroup) answers groupKey row state).2,
        Undisturbed (snapshotStore maxRowsPerGroup) groupKey.text state after) ↔
      Room maxRowsPerGroup state groupKey (offeredKeys codec groupKey (offered codec answers)) := by
  constructor
  · intro state after isAfter
    refine undisturbed_of_kept isAfter fun held isHeld => ?_
    rw [writes_processRow] at isAfter
    exact memory_kept groupKey held _ state isHeld after isAfter
  intro maxRowsPerGroup state
  cases rows : (state.group groupKey.text).rows with
  | nil =>
    have hasRoom : Room maxRowsPerGroup state groupKey
        (offeredKeys codec groupKey (offered codec answers)) := by
      rw [Room, rows]
      trivial
    refine ⟨fun _ => hasRoom, fun _ after isAfter => ?_⟩
    refine undisturbed_of_kept isAfter fun held isHeld => ?_
    change held ∈ (state.group groupKey.text).rows at isHeld
    cases rows ▸ isHeld
  | cons oldest tail =>
    have led := filter_notOlder rows
    have asRoom : Room maxRowsPerGroup state groupKey
        (offeredKeys codec groupKey (offered codec answers)) ↔
        maxRowsPerGroup = 0 ∨
        (∀ key ∈ offeredKeys codec groupKey (offered codec answers),
          key ∈ (state.group groupKey.text).rows.map Row.key) ∨
        (crowd oldest (state.group groupKey.text)
          (offeredKeys codec groupKey (offered codec answers))).card ≤ maxRowsPerGroup := by
      rw [Room, rows]
    rw [asRoom]
    constructor
    · intro undisturbed
      by_contra noRoom
      push Not at noRoom
      obtain ⟨bounded, someNew, crowded⟩ := noRoom
      obtain ⟨after, isAfter, out⟩ :=
        snapshot_driven bounded (offered codec answers) state tail led crowded someNew
      rw [← writes_processRow answers groupKey row] at isAfter
      have isHeld : oldest ∈ (state.group groupKey.text).rows := by
        rw [rows]
        exact List.mem_cons_self
      exact out ((undisturbed after isAfter).kept groupKey.text oldest isHeld)
    intro hasRoom after isAfter
    refine undisturbed_of_kept isAfter fun held isHeld => ?_
    rw [writes_processRow] at isAfter
    have upper : notOlder oldest held = true := by
      have isUpper : held ∈ (state.group groupKey.text).rows.filter (notOlder oldest) := by
        rw [led, ← rows]
        exact isHeld
      exact (List.mem_filter.mp isUpper).2
    rcases hasRoom with unbounded | taken | few
    · exact snapshot_kept _ state tail led (Or.inl unbounded) after isAfter held isHeld upper
    · cases no_write _ taken ▸ isAfter
    · exact snapshot_kept _ state tail led (Or.inr few) after isAfter held isHeld upper

/-! ## A forged row -/

mutual

/-- A value of the codec whose numbers are integers. -/
def ofRows : RowsValue → BundleValue Int
  | .null => .null
  | .bool value => .bool value
  | .num value => .num value
  | .str value => .str value
  | .arr items => .arr (ofRowsItems items)
  | .obj fields => .obj (ofRowsFields fields)
  | .bytes value => .bytes value
  | .bigint value => .bigint value

def ofRowsItems : List RowsValue → List (BundleValue Int)
  | [] => []
  | item :: rest => ofRows item :: ofRowsItems rest

def ofRowsFields : List (String × RowsValue) → List (String × BundleValue Int)
  | [] => []
  | (name, value) :: rest => (name, ofRows value) :: ofRowsFields rest

end

/-- The codec of rows, on JSON texts of integers. -/
def sampleCodec : Codec Json Int where
  decodeRowsJson payload := (RowsJson.decode payload).map ofRows
  toLowerCase := lower

def sampleGroup : GroupKey := ⟨"0xa1", by decide⟩

/-- A bundle with one row of a high order. -/
def forgedBundle : Json :=
  .obj [("v", .num 1), ("groups", .obj [("0xA1", .arr [.obj [("messageId", .str "forged"),
    ("order", .num 1000), ("groupId", .str "0xa1"),
    ("encryptedText", .obj [("$b", .str "00")])]])])]

/-- A row of the log that completes the forged bundle. -/
def forgedAnswers : Answers Json where
  processed := .application (some [1]) (some [])
  push _ := some forgedBundle
  certificateWallet _ := ""
  rowVerified := false

def forgedRow : LogRow Int := ⟨7, "chunk", false, "0xb2", []⟩

/-- A device that holds one row, and has no room for another. -/
def fullStore : SnapshotRows Int :=
  OrderedMap.insert ∅ "0xa1"
    ⟨[⟨5, "m5", true, []⟩], List.pairwise_singleton _ _, List.nodup_singleton _⟩

/-- **A forged row drives out the row that the device holds**: with a bound of one row, only the
forged one is left. -/
theorem forged_row_displaces :
    ¬∀ after ∈ (processRow sampleCodec (snapshotStore 1) forgedAnswers sampleGroup forgedRow
        fullStore).2,
      Undisturbed (snapshotStore 1) sampleGroup.text fullStore after := by
  intro undisturbed
  have led : (fullStore.group sampleGroup.text).rows.filter (notOlder ⟨5, "m5", true, []⟩) =
      [⟨5, "m5", true, []⟩] := filter_notOlder rfl
  have crowded : 1 < (crowd ⟨5, "m5", true, []⟩ (fullStore.group sampleGroup.text)
      (offeredKeys sampleCodec sampleGroup (offered sampleCodec forgedAnswers))).card := by
    decide
  have someNew : ∃ key ∈ offeredKeys sampleCodec sampleGroup (offered sampleCodec forgedAnswers),
      key ∉ (fullStore.group sampleGroup.text).rows.map Row.key := by
    decide
  obtain ⟨after, isAfter, out⟩ :=
    snapshot_driven one_ne_zero (offered sampleCodec forgedAnswers) fullStore [] led crowded someNew
  rw [← writes_processRow forgedAnswers sampleGroup forgedRow] at isAfter
  exact out ((undisturbed after isAfter).kept sampleGroup.text _ List.mem_cons_self)

end MessagingStack.Sdk.SharedHistory

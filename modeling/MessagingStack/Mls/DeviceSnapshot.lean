import Mathlib.Data.List.Nodup
import Mathlib.Logic.Function.Basic
import MessagingStack.Base.Async
import MessagingStack.Base.LittleEndian

/-!
# Snapshots of a device

`Device::snapshot` and `Device::restore` of `mls/src/lib.rs`: a magic word, the signer, the
identity and the entries of the key-value storage, each with its length in front, read back at
offsets that the lengths decide.

A snapshot restores exactly, whatever the order of the entries; no input makes `restore` panic or
store more than an entry for each eight bytes; and a snapshot that has been cut off is refused.  One
with more bytes behind it is not: nothing compares the last offset with the length of the input
(`restore_snapshot`).
-/

namespace MessagingStack.Mls.DeviceSnapshot

/-! ## The program -/

inductive MlsError where
  | codec (text : String)
  deriving DecidableEq

def bad : MlsError := .codec "bad device snapshot"

/-- `SignatureKeyPair` with its TLS encoding, which round-trips. -/
structure SignerCodec (Signer : Type) where
  tlsSerialize : Signer → Bytes
  tlsDeserializeExact : Bytes → Except MlsError Signer
  roundTrip : ∀ signer, tlsDeserializeExact (tlsSerialize signer) = .ok signer

/-- A device: the storage is a hash map. -/
structure Device (Signer : Type) where
  signer : Signer
  identity : Bytes
  values : Bytes → Option Bytes

def toBeBytes (width value : Nat) : Bytes := (LittleEndian.write width value).reverse

def fromBeBytes (bytes : Bytes) : Nat := LittleEndian.read bytes.reverse

def magic : Bytes := Text.utf8 "MYSOMLS1"

def part (bytes : Bytes) : Bytes := toBeBytes 4 bytes.length ++ bytes

def entry : Bytes × Bytes → Bytes
  | (k, v) => toBeBytes 4 k.length ++ (toBeBytes 4 v.length ++ (k ++ v))

variable {Signer : Type} (codec : SignerCodec Signer)

/-- `snapshot`, with the entries in the order in which the map is iterated. -/
def snapshot (device : Device Signer) (entries : List (Bytes × Bytes)) : Bytes :=
  magic ++ (part (codec.tlsSerialize device.signer) ++ (part device.identity ++
    (toBeBytes 8 entries.length ++ entries.flatMap entry)))

/-- What `restore` has done: the offset `at`, and the calls of `values.insert`. -/
structure Reading where
  position : Nat
  inserted : List (Bytes × Bytes)

abbrev Restore := Async MlsError Reading

def slice (bytes : Bytes) (start stop : Nat) : Restore Bytes :=
  if start ≤ stop ∧ stop ≤ bytes.length then pure ((bytes.take stop).drop start) else Async.crash

def take (bytes : Bytes) (n : Nat) : Restore Bytes := fun reading =>
  -- a sum that `checked_add` refuses is more than the length of any slice
  if bytes.length < reading.position + n then (.error bad, reading)
  else
    (do
      let s ← slice bytes reading.position (reading.position + n)
      Async.modify fun reading => { reading with position := reading.position + n }
      pure s) reading

/-- `u32_at(take(4)?)`, and the same with eight bytes: `try_into().unwrap()` panics on a slice of
another length. -/
def takeNumber (bytes : Bytes) (width : Nat) : Restore Nat := do
  let s ← take bytes width
  if s.length = width then pure (fromBeBytes s) else Async.crash

/-- The loop over the entries. -/
def restoreEntries (bytes : Bytes) : Nat → Restore PUnit
  | 0 => pure ⟨⟩
  | count + 1 => do
    let kLen ← takeNumber bytes 4
    let vLen ← takeNumber bytes 4
    let k ← take bytes kLen
    let v ← take bytes vLen
    Async.modify fun reading => { reading with inserted := reading.inserted ++ [(k, v)] }
    restoreEntries bytes count

/-- The map after some inserts. -/
def collect (inserted : List (Bytes × Bytes)) : Bytes → Option Bytes :=
  inserted.foldl (fun values entry => Function.update values entry.1 (some entry.2)) fun _ => none

def Restore.ofExcept {α : Type} : Except MlsError α → Restore α
  | .ok value => pure value
  | .error reason => Async.throw reason

def restore (usizeBits : Nat) (bytes : Bytes) : Restore (Device Signer) := do
  let word ← take bytes 8
  if word ≠ magic then Async.throw bad
  else do
    let n ← takeNumber bytes 4
    let secret ← take bytes n
    let signer ← Restore.ofExcept (codec.tlsDeserializeExact secret)
    let n ← takeNumber bytes 4
    let identity ← take bytes n
    let count ← takeNumber bytes 8
    restoreEntries bytes (count % 2 ^ usizeBits)
    let reading ← Async.get
    pure ⟨signer, identity, collect reading.inserted⟩

/-- A fresh call. -/
def start : Reading := ⟨0, []⟩

/-! ## Reading what was written -/

theorem fromBeBytes_toBeBytes {width value : Nat} (fits : value < 256 ^ width) :
    fromBeBytes (toBeBytes width value) = value := by
  unfold fromBeBytes toBeBytes
  rw [List.reverse_reverse, LittleEndian.read_write, Nat.mod_eq_of_lt fits]

@[simp] theorem length_toBeBytes (width value : Nat) : (toBeBytes width value).length = width := by
  rw [toBeBytes, List.length_reverse, LittleEndian.length_write]

def Left (bytes rest : Bytes) (position : Nat) : Prop :=
  position ≤ bytes.length ∧ bytes.drop position = rest

section Left

variable {bytes before rest : Bytes} {position : Nat} (inserted : List (Bytes × Bytes))

theorem Left.take (left : Left bytes (before ++ rest) position) :
    take bytes before.length ⟨position, inserted⟩ =
        (.ok before, ⟨position + before.length, inserted⟩) ∧
      Left bytes rest (position + before.length) := by
  obtain ⟨inside, isRest⟩ := left
  have lengths := congrArg List.length isRest
  rw [List.length_drop, List.length_append] at lengths
  have fits : position + before.length ≤ bytes.length := by omega
  have isPart : (bytes.take (position + before.length)).drop position = before := by
    rw [List.drop_take, isRest, Nat.add_sub_cancel_left, List.take_left]
  refine ⟨?_, fits, ?_⟩
  · unfold DeviceSnapshot.take slice
    rw [if_neg (Nat.not_lt.mpr fits), if_pos ⟨Nat.le_add_right _ _, fits⟩, isPart]
    rfl
  · rw [← List.drop_drop, isRest, List.drop_left]

theorem Left.takeNumber {width value : Nat} (fits : value < 256 ^ width)
    (left : Left bytes (toBeBytes width value ++ rest) position) :
    takeNumber bytes width ⟨position, inserted⟩ = (.ok value, ⟨position + width, inserted⟩) ∧
      Left bytes rest (position + width) := by
  have read := left.take inserted
  rw [length_toBeBytes] at read
  refine ⟨?_, read.2⟩
  unfold DeviceSnapshot.takeNumber
  rw [Async.bind_run_ok read.1, if_pos (length_toBeBytes width value),
    fromBeBytes_toBeBytes fits]
  rfl

theorem Left.part (fits : before.length < 2 ^ 32)
    (left : Left bytes (part before ++ rest) position) :
    (∀ next : Bytes → Restore α,
      (DeviceSnapshot.takeNumber bytes 4 >>= fun n => DeviceSnapshot.take bytes n >>= next)
        ⟨position, inserted⟩ = next before ⟨position + 4 + before.length, inserted⟩) ∧
      Left bytes rest (position + 4 + before.length) := by
  unfold DeviceSnapshot.part at left
  rw [List.append_assoc] at left
  obtain ⟨length, left⟩ := left.takeNumber inserted (by exact fits)
  obtain ⟨body, left⟩ := left.take inserted
  refine ⟨fun next => ?_, left⟩
  rw [Async.bind_run_ok length, Async.bind_run_ok body]

/-- **The loop reads the entries**, in their order. -/
theorem Left.entries {entries : List (Bytes × Bytes)}
    (short : ∀ entry ∈ entries, entry.1.length < 2 ^ 32 ∧ entry.2.length < 2 ^ 32)
    (left : Left bytes (entries.flatMap entry) position) :
    restoreEntries bytes entries.length ⟨position, inserted⟩ =
      (.ok ⟨⟩, ⟨bytes.length, inserted ++ entries⟩) := by
  induction entries generalizing position inserted with
  | nil =>
    have whole := congrArg List.length left.2
    rw [List.flatMap_nil, List.length_nil, List.length_drop] at whole
    have ends : position = bytes.length := by
      have := left.1
      omega
    rw [ends, List.append_nil]
    rfl
  | cons pair entries ih =>
    obtain ⟨k, v⟩ := pair
    have ⟨shortKey, shortValue⟩ := short (k, v) List.mem_cons_self
    simp only [List.flatMap_cons, entry, List.append_assoc] at left
    obtain ⟨keyLength, left⟩ := left.takeNumber inserted (by exact shortKey)
    obtain ⟨valueLength, left⟩ := left.takeNumber inserted (by exact shortValue)
    obtain ⟨key, left⟩ := left.take inserted
    obtain ⟨value, left⟩ := left.take inserted
    have rest := ih (inserted ++ [(k, v)])
      (fun entry isIn => short entry (List.mem_cons_of_mem _ isIn)) left
    rw [List.length_cons, restoreEntries, Async.bind_run_ok keyLength,
      Async.bind_run_ok valueLength, Async.bind_run_ok key, Async.bind_run_ok value]
    rw [List.append_assoc, List.singleton_append] at rest
    exact rest

end Left

/-! ## Any input -/

section AnyInput

variable {bytes : Bytes} {reading : Reading} {α β : Type}

/-- No read goes beyond the input, and each entry took its eight bytes. -/
def InBounds (bytes : Bytes) (reading : Reading) : Prop :=
  reading.position ≤ bytes.length ∧ 8 * reading.inserted.length ≤ reading.position

/-- The run has not panicked and is within bounds. -/
def Sound (bytes : Bytes) (outcome : Outcome MlsError α) (reading : Reading) : Prop :=
  outcome ≠ .crash ∧ InBounds bytes reading

theorem wp_take {n : Nat} {next : Bytes → Restore α} (inBounds : InBounds bytes reading)
    (reads : ∀ s, s.length = n → InBounds bytes ⟨reading.position + n, reading.inserted⟩ →
      (next s).wp (Sound bytes) ⟨reading.position + n, reading.inserted⟩) :
    (take bytes n >>= next).wp (Sound bytes) reading := by
  unfold Async.wp
  rw [Async.bind_run]
  unfold take
  split_ifs with outside
  · exact ⟨nofun, inBounds⟩
  have inside := Nat.le_of_not_lt outside
  rw [slice, if_pos ⟨Nat.le_add_right _ _, inside⟩]
  refine reads _ ?_ ⟨inside, le_trans inBounds.2 (Nat.le_add_right _ _)⟩
  rw [List.length_drop, List.length_take]
  omega

theorem wp_takeNumber {width : Nat} {next : Nat → Restore α} (inBounds : InBounds bytes reading)
    (reads : ∀ value, InBounds bytes ⟨reading.position + width, reading.inserted⟩ →
      (next value).wp (Sound bytes) ⟨reading.position + width, reading.inserted⟩) :
    (takeNumber bytes width >>= next).wp (Sound bytes) reading := by
  unfold takeNumber
  rw [Async.bind_assoc]
  refine wp_take inBounds fun s length inside => ?_
  rw [if_pos length]
  exact reads _ inside

theorem restoreEntries_sound (count : Nat) {next : PUnit → Restore α}
    (inBounds : InBounds bytes reading)
    (rest : ∀ reading, InBounds bytes reading → (next ⟨⟩).wp (Sound bytes) reading) :
    (restoreEntries bytes count >>= next).wp (Sound bytes) reading := by
  induction count generalizing reading with
  | zero => exact rest reading inBounds
  | succ count ih =>
    unfold restoreEntries
    simp only [Async.bind_assoc]
    refine wp_takeNumber inBounds fun kLen inside => wp_takeNumber inside fun vLen inside => ?_
    refine wp_take inside fun k isKey inside => wp_take inside fun v isValue inside => ?_
    refine ih ⟨inside.1, ?_⟩
    have entries := inBounds.2
    dsimp only
    rw [List.length_append, List.length_singleton]
    omega

/-- **No input makes `restore` panic**, and each entry takes eight bytes of it. -/
theorem restore_sound (usizeBits : Nat) (bytes : Bytes) :
    Sound bytes (restore codec usizeBits bytes start).1
      (restore codec usizeBits bytes start).2 := by
  change (restore codec usizeBits bytes).wp (Sound bytes) start
  refine wp_take ⟨Nat.zero_le _, le_refl _⟩ fun word _ inside => ?_
  split_ifs
  · exact ⟨nofun, inside⟩
  refine wp_takeNumber inside fun n inside => wp_take inside fun secret _ inside => ?_
  cases codec.tlsDeserializeExact secret with
  | error reason => exact ⟨nofun, inside⟩
  | ok signer =>
    refine wp_takeNumber inside fun n inside => wp_take inside fun identity _ inside => ?_
    refine wp_takeNumber inside fun count inside => ?_
    exact restoreEntries_sound _ inside fun reading inside => ⟨nofun, inside⟩

/-- What the first program returns, the second returns. -/
def Extends (first second : Restore α) : Prop :=
  ∀ reading value after, first reading = (.ok value, after) → second reading = (.ok value, after)

theorem Extends.refl (program : Restore α) : Extends program program := fun _ _ _ ran => ran

theorem Extends.bind {first second : Restore α} {next next' : α → Restore β}
    (extends_ : Extends first second) (rest : ∀ value, Extends (next value) (next' value)) :
    Extends (first >>= next) (second >>= next') := by
  intro reading value after ran
  rw [Async.bind_run] at ran
  rcases isFirst : first reading with ⟨middle | reason | _, reached⟩ <;> rw [isFirst] at ran
  · rw [Async.bind_run_ok (extends_ _ _ _ isFirst)]
    exact rest middle _ _ _ ran
  all_goals cases ran

theorem take_extends (bytes extra : Bytes) (n : Nat) :
    Extends (take bytes n) (take (bytes ++ extra) n) := by
  intro reading value after ran
  unfold take slice at ran ⊢
  by_cases outside : bytes.length < reading.position + n
  · rw [if_pos outside] at ran
    cases ran
  have inside := Nat.le_of_not_lt outside
  have longer : reading.position + n ≤ (bytes ++ extra).length := by
    rw [List.length_append]
    omega
  rw [if_neg outside, if_pos ⟨Nat.le_add_right _ _, inside⟩] at ran
  rw [if_neg (Nat.not_lt.mpr longer), if_pos ⟨Nat.le_add_right _ _, longer⟩,
    List.take_append_of_le_length inside]
  exact ran

theorem takeNumber_extends (bytes extra : Bytes) (width : Nat) :
    Extends (takeNumber bytes width) (takeNumber (bytes ++ extra) width) :=
  (take_extends bytes extra width).bind fun _ => .refl _

theorem restoreEntries_extends (bytes extra : Bytes) (count : Nat) :
    Extends (restoreEntries bytes count) (restoreEntries (bytes ++ extra) count) := by
  induction count with
  | zero => exact .refl _
  | succ count ih =>
    refine (takeNumber_extends bytes extra 4).bind fun kLen => ?_
    refine (takeNumber_extends bytes extra 4).bind fun vLen => ?_
    refine (take_extends bytes extra kLen).bind fun k => ?_
    refine (take_extends bytes extra vLen).bind fun v => ?_
    exact (Extends.refl _).bind fun _ => ih

/-- **What comes behind the last entry is not looked at.** -/
theorem restore_extends (usizeBits : Nat) (bytes extra : Bytes) :
    Extends (restore codec usizeBits bytes) (restore codec usizeBits (bytes ++ extra)) := by
  refine (take_extends bytes extra 8).bind fun word => ?_
  split_ifs
  · exact .refl _
  refine (takeNumber_extends bytes extra 4).bind fun n => ?_
  refine (take_extends bytes extra n).bind fun secret => ?_
  refine (Extends.refl _).bind fun signer => ?_
  refine (takeNumber_extends bytes extra 4).bind fun n => ?_
  refine (take_extends bytes extra n).bind fun identity => ?_
  refine (takeNumber_extends bytes extra 8).bind fun count => ?_
  exact (restoreEntries_extends bytes extra _).bind fun _ => .refl _

end AnyInput

/-! ## Snapshots -/

/-- The entries are those of the map, each once. -/
structure Iterates (device : Device Signer) (entries : List (Bytes × Bytes)) : Prop where
  distinct : (entries.map Prod.fst).Nodup
  listed : ∀ key value, (key, value) ∈ entries ↔ device.values key = some value

/-- Every part is shorter than `2 ^ 32` bytes; the size of a map is a `usize`, of at most 64
bits. -/
structure Fits (usizeBits : Nat) (device : Device Signer) (entries : List (Bytes × Bytes)) :
    Prop where
  signer : (codec.tlsSerialize device.signer).length < 2 ^ 32
  identity : device.identity.length < 2 ^ 32
  parts : ∀ entry ∈ entries, entry.1.length < 2 ^ 32 ∧ entry.2.length < 2 ^ 32
  size : entries.length < 2 ^ usizeBits
  word : usizeBits ≤ 64

variable {codec} {usizeBits : Nat} {device : Device Signer} {entries : List (Bytes × Bytes)}

theorem collect_append (inserted : List (Bytes × Bytes)) (key value : Bytes) :
    collect (inserted ++ [(key, value)]) =
      Function.update (collect inserted) key (some value) := by
  unfold collect
  rw [List.foldl_append]
  rfl

theorem collect_eq_some_iff (distinct : (entries.map Prod.fst).Nodup) (key value : Bytes) :
    collect entries key = some value ↔ (key, value) ∈ entries := by
  induction entries using List.reverseRecOn with
  | nil => exact ⟨nofun, nofun⟩
  | append_singleton entries last ih =>
    obtain ⟨k, v⟩ := last
    rw [List.map_append, List.nodup_append] at distinct
    have earlier := ih distinct.1
    rw [collect_append, List.mem_append, List.mem_singleton, Prod.mk.injEq]
    by_cases same : key = k
    · subst same
      have fresh : (key, value) ∉ entries := fun isIn =>
        distinct.2.2 key (List.mem_map_of_mem isIn) key List.mem_cons_self rfl
      rw [Function.update_self, Option.some.injEq]
      exact ⟨fun isValue => .inr ⟨rfl, isValue.symm⟩,
        fun isIn => (isIn.resolve_left fresh).2.symm⟩
    · rw [Function.update_of_ne same, earlier]
      exact ⟨.inl, fun isIn => isIn.resolve_right fun isLast => same isLast.1⟩

/-- **A map is what its entries make of an empty one.** -/
theorem Iterates.collect (iterates : Iterates device entries) : collect entries = device.values := by
  funext key
  refine Option.ext fun value => ?_
  exact (collect_eq_some_iff iterates.distinct key value).trans (iterates.listed key value)

/-- **A snapshot restores exactly**, and is read to its end. -/
theorem restore_run (fits : Fits codec usizeBits device entries)
    (iterates : Iterates device entries) :
    restore codec usizeBits (snapshot codec device entries) start =
      (.ok device, ⟨(snapshot codec device entries).length, entries⟩) := by
  generalize whole : snapshot codec device entries = bytes
  have left : Left bytes (snapshot codec device entries) 0 := ⟨Nat.zero_le _, whole.symm⟩
  have few : entries.length < 256 ^ 8 := by
    rw [show 256 ^ 8 = 2 ^ 64 by decide]
    exact lt_of_lt_of_le fits.size (Nat.pow_le_pow_right (by decide) fits.word)
  have eight : magic.length = 8 := by decide +kernel
  obtain ⟨word, left⟩ := left.take []
  rw [eight] at word left
  obtain ⟨secret, left⟩ := left.part (α := Device Signer) [] fits.signer
  obtain ⟨identity, left⟩ := left.part (α := Device Signer) [] fits.identity
  obtain ⟨count, left⟩ := left.takeNumber [] few
  have loop := left.entries [] fits.parts
  change restore codec usizeBits bytes ⟨0, []⟩ = _
  unfold restore
  rw [Async.bind_run_ok word, if_neg (fun differs => differs rfl), secret, codec.roundTrip]
  change (takeNumber bytes 4 >>= _) _ = _
  rw [identity, Async.bind_run_ok count, Nat.mod_eq_of_lt fits.size, Async.bind_run_ok loop,
    List.nil_append]
  change (Outcome.ok (⟨_, _, DeviceSnapshot.collect entries⟩ : Device Signer), _) = _
  rw [iterates.collect]

/-- A snapshot that was cut off, or that has more bytes behind it. -/
def Damaged (snapshot bytes : Bytes) : Prop :=
  bytes ≠ snapshot ∧ (bytes <+: snapshot ∨ snapshot <+: bytes)

/-- **Restoring a device.**  A snapshot restores exactly, for every order of the entries.  No input
makes `restore` panic, and it stores at most an entry for each eight bytes.  A damaged snapshot is
refused exactly if it is shorter. -/
theorem restore_snapshot (fits : Fits codec usizeBits device entries)
    (iterates : Iterates device entries) :
    (restore codec usizeBits (snapshot codec device entries) start).1 = .ok device ∧
    (∀ bytes, (restore codec usizeBits bytes start).1 ≠ .crash ∧
      8 * (restore codec usizeBits bytes start).2.inserted.length ≤ bytes.length) ∧
    ∀ bytes, Damaged (snapshot codec device entries) bytes →
      ((∃ reason, (restore codec usizeBits bytes start).1 = .error reason) ↔
        bytes.length < (snapshot codec device entries).length) := by
  have exactly := restore_run fits iterates
  refine ⟨congrArg Prod.fst exactly, fun bytes => ?_, fun bytes damaged => ?_⟩
  · obtain ⟨calm, inside, eight⟩ := restore_sound codec usizeBits bytes
    exact ⟨calm, le_trans eight inside⟩
  obtain ⟨differs, ⟨rest, whole⟩ | ⟨extra, whole⟩⟩ := damaged
  · -- read to the end of the snapshot, a part of it would have been left by then
    have shorter : bytes.length < (snapshot codec device entries).length := by
      have lengths := congrArg List.length whole
      rw [List.length_append] at lengths
      have present : rest.length ≠ 0 := fun none => differs (by
        rw [← whole, List.length_eq_zero_iff.mp none, List.append_nil])
      omega
    obtain ⟨calm, inside, _⟩ := restore_sound codec usizeBits bytes
    refine ⟨fun _ => shorter, fun _ => ?_⟩
    rcases ran : restore codec usizeBits bytes start with ⟨restored | reason | _, after⟩
    · have longer := restore_extends codec usizeBits bytes rest _ _ _ ran
      rw [whole, exactly] at longer
      have ends := congrArg (fun result => result.2.position) longer
      rw [ran] at inside
      exact absurd (ends.trans_le inside) (Nat.not_le.mpr shorter)
    · exact ⟨reason, rfl⟩
    · rw [ran] at calm
      exact absurd rfl calm
  have accepted := restore_extends codec usizeBits _ extra _ _ _ exactly
  rw [whole] at accepted
  rw [accepted, ← whole, List.length_append]
  exact ⟨nofun, fun shorter => absurd shorter (Nat.not_lt.mpr (Nat.le_add_right _ _))⟩

/-! ### A sample -/

/-- Secrets that are written as they are. -/
def rawKeys : SignerCodec Bytes := ⟨id, .ok, fun _ => rfl⟩

def sampleDevice : Device Bytes := ⟨[1], [2], Function.update (fun _ => none) [3] (some [4])⟩

theorem sample_fits : Fits rawKeys 64 sampleDevice [([3], [4])] where
  signer := by decide
  identity := by decide
  parts := by decide
  size := by decide
  word := le_refl 64

theorem sample_iterates : Iterates sampleDevice [([3], [4])] where
  distinct := List.nodup_singleton _
  listed key value := by
    rw [List.mem_singleton, Prod.mk.injEq]
    change _ ↔ Function.update (fun _ => none) [3] (some [4]) key = some value
    by_cases same : key = [3]
    · rw [same, Function.update_self, Option.some.injEq]
      exact ⟨fun isEntry => isEntry.2.symm, fun isValue => ⟨rfl, isValue.symm⟩⟩
    · rw [Function.update_of_ne same]
      exact ⟨fun isEntry => absurd isEntry.1 same, nofun⟩

theorem restore_snapshot_sample :
    (restore rawKeys 64 (snapshot rawKeys sampleDevice [([3], [4])]) start).1 =
      .ok sampleDevice :=
  (restore_snapshot sample_fits sample_iterates).1

/-- **A snapshot followed by a byte is accepted.** -/
theorem extra_byte_accepted :
    ¬ ∀ bytes, Damaged (snapshot rawKeys sampleDevice [([3], [4])]) bytes →
      ∃ reason, (restore rawKeys 64 bytes start).1 = .error reason := by
  intro refused
  obtain ⟨reason, isError⟩ := refused (snapshot rawKeys sampleDevice [([3], [4])] ++ [0])
    ⟨fun same => (by cases List.append_right_eq_self.mp same), .inr (List.prefix_append _ _)⟩
  rw [restore_extends rawKeys 64 _ [0] _ _ _ (restore_run sample_fits sample_iterates)] at isError
  cases isError

end MessagingStack.Mls.DeviceSnapshot

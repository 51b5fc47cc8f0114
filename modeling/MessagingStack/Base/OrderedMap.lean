import Mathlib.Algebra.BigOperators.Group.List.Basic
import Mathlib.Algebra.GroupWithZero.Nat
import Mathlib.Data.List.Nodup
import Mathlib.Tactic.Common

/-!
# Finite maps that remember insertion order

The sources keep most of their state in hash maps and in JavaScript `Map`s, which are
iterated in insertion order: writing to a key that is present keeps its place, a new key
goes to the end, deleting and writing again moves it there.  `OrderedMap` is that: a list
of entries with no repeated key, the absence of repetitions being part of the structure.
-/

namespace MessagingStack

universe u v

/-- A finite map, iterated in insertion order. -/
structure OrderedMap (κ : Type u) (α : Type v) where
  /-- The entries, oldest key first. -/
  entries : List (κ × α)
  /-- No key occurs twice. -/
  nodup : (entries.map Prod.fst).Nodup

namespace OrderedMap

variable {κ : Type u} {α : Type v}

@[ext] theorem ext {left right : OrderedMap κ α} (same : left.entries = right.entries) :
    left = right := by
  cases left
  cases right
  congr

/-- The map without entries. -/
def empty : OrderedMap κ α := ⟨[], List.nodup_nil⟩

instance : EmptyCollection (OrderedMap κ α) := ⟨empty⟩

instance [DecidableEq κ] [DecidableEq α] : DecidableEq (OrderedMap κ α) := fun left right =>
  decidable_of_iff (left.entries = right.entries) ⟨ext, congrArg entries⟩

/-- The keys, oldest first. -/
def keys (map : OrderedMap κ α) : List κ := map.entries.map Prod.fst

variable [DecidableEq κ]

def get (map : OrderedMap κ α) (key : κ) : Option α := map.entries.lookup key

def setEntry (entries : List (κ × α)) (key : κ) (value : α) : List (κ × α) :=
  entries.map fun entry => if entry.1 = key then (key, value) else entry

theorem keys_setEntry (entries : List (κ × α)) (key : κ) (value : α) :
    (setEntry entries key value).map Prod.fst = entries.map Prod.fst := by
  simp only [setEntry, List.map_map]
  refine List.map_congr_left fun entry _ => ?_
  by_cases same : entry.1 = key <;> simp [same]

/-- Write a value: in place when the key is present, else at the end. -/
def insert (map : OrderedMap κ α) (key : κ) (value : α) : OrderedMap κ α :=
  if present : key ∈ map.keys then
    ⟨setEntry map.entries key value, by rw [keys_setEntry]; exact map.nodup⟩
  else
    ⟨map.entries ++ [(key, value)], by
      have fresh : key ∉ map.entries.map Prod.fst := present
      rw [List.map_append]
      exact List.nodup_append.mpr ⟨map.nodup, List.nodup_singleton _, by
        intro other isKey last isLast same
        obtain rfl : last = key := by simpa using isLast
        exact fresh (same ▸ isKey)⟩⟩

def erase (map : OrderedMap κ α) (key : κ) : OrderedMap κ α where
  entries := map.entries.filter fun entry => entry.1 ≠ key
  nodup := map.nodup.sublist (List.filter_sublist.map Prod.fst)

/-- The entries whose key passes a test. -/
def filterKeys (map : OrderedMap κ α) (keep : κ → Bool) : OrderedMap κ α where
  entries := map.entries.filter fun entry => keep entry.1
  nodup := map.nodup.sublist (List.filter_sublist.map Prod.fst)

/-- The entries whose value passes a test (`retain`). -/
def filterValues (map : OrderedMap κ α) (keep : α → Bool) : OrderedMap κ α where
  entries := map.entries.filter fun entry => keep entry.2
  nodup := map.nodup.sublist (List.filter_sublist.map Prod.fst)

/-! ### Reading after writing -/

@[simp] theorem get_empty (key : κ) : (empty : OrderedMap κ α).get key = none := rfl

theorem lookup_setEntry (entries : List (κ × α)) (key : κ) (value : α) (wanted : κ) :
    (setEntry entries key value).lookup wanted =
      if wanted = key then (entries.lookup wanted).map fun _ => value
      else entries.lookup wanted := by
  induction entries with
  | nil => simp [setEntry]
  | cons entry rest ih =>
    obtain ⟨first, old⟩ := entry
    simp only [setEntry, List.map_cons] at ih ⊢
    by_cases isKey : first = key
    · subst isKey
      by_cases same : wanted = first
      · simp [same]
      · have differs : (wanted == first) = false := by simpa using same
        simpa [List.lookup_cons, differs, same] using ih
    by_cases same : wanted = first
    · simp [isKey, same]
    · have differs : (wanted == first) = false := by simpa using same
      simpa [List.lookup_cons, isKey, differs] using ih

theorem lookup_eq_none_iff (entries : List (κ × α)) (key : κ) :
    entries.lookup key = none ↔ key ∉ entries.map Prod.fst := by
  induction entries with
  | nil => simp
  | cons entry rest ih =>
    obtain ⟨first, value⟩ := entry
    by_cases same : key = first
    · simp [same]
    · have differs : (key == first) = false := by simpa using same
      simp only [List.lookup_cons, differs, List.map_cons, List.mem_cons, not_or]
      exact ih.trans ⟨fun absent => ⟨same, absent⟩, And.right⟩

theorem get_eq_none_iff (map : OrderedMap κ α) (key : κ) :
    map.get key = none ↔ key ∉ map.keys :=
  lookup_eq_none_iff map.entries key

@[simp] theorem get_insert (map : OrderedMap κ α) (key : κ) (value : α) (wanted : κ) :
    (map.insert key value).get wanted = if wanted = key then some value else map.get wanted := by
  unfold insert
  split_ifs with present same same
  · subst same
    obtain ⟨old, found⟩ : ∃ old, map.entries.lookup wanted = some old := by
      apply Option.ne_none_iff_exists'.mp
      intro absent
      exact (lookup_eq_none_iff _ _).mp absent present
    simp [get, lookup_setEntry, found]
  · simp [get, lookup_setEntry, same]
  · subst same
    have absent : map.entries.lookup wanted = none := (lookup_eq_none_iff _ _).mpr present
    simp [get, List.lookup_append, absent]
  · have differs : (wanted == key) = false := by simpa using same
    simp [get, List.lookup_append, List.lookup_cons, differs]

theorem lookup_filter_ne (entries : List (κ × α)) (key wanted : κ) :
    (entries.filter fun entry => entry.1 ≠ key).lookup wanted =
      if wanted = key then none else entries.lookup wanted := by
  induction entries with
  | nil => simp
  | cons entry rest ih =>
    obtain ⟨first, value⟩ := entry
    by_cases isKey : first = key
    · subst isKey
      by_cases same : wanted = first
      · simpa [same] using ih
      · have differs : (wanted == first) = false := by simpa using same
        simpa [List.lookup_cons, differs, same] using ih
    by_cases same : wanted = first
    · simp [isKey, same]
    · have differs : (wanted == first) = false := by simpa using same
      simpa [List.lookup_cons, isKey, differs] using ih

@[simp] theorem get_erase (map : OrderedMap κ α) (key wanted : κ) :
    (map.erase key).get wanted = if wanted = key then none else map.get wanted :=
  lookup_filter_ne map.entries key wanted

theorem mem_entries_of_get (map : OrderedMap κ α) {key : κ} {value : α}
    (found : map.get key = some value) : (key, value) ∈ map.entries := by
  have lookup : ∀ entries : List (κ × α), entries.lookup key = some value →
      (key, value) ∈ entries := by
    intro entries
    induction entries with
    | nil => simp
    | cons entry rest ih =>
      obtain ⟨first, held⟩ := entry
      intro isFound
      by_cases same : key = first
      · subst same
        obtain rfl : held = value := by simpa using isFound
        exact List.mem_cons_self
      · have differs : (key == first) = false := by simpa using same
        exact List.mem_cons_of_mem _ (ih (by simpa [List.lookup_cons, differs] using isFound))
  exact lookup map.entries found

def mapValues {β : Type v} (map : OrderedMap κ α) (change : α → β) : OrderedMap κ β where
  entries := map.entries.map fun entry => (entry.1, change entry.2)
  nodup := by
    rw [List.map_map]
    exact map.nodup

@[simp] theorem get_mapValues {β : Type v} (map : OrderedMap κ α) (change : α → β) (key : κ) :
    (map.mapValues change).get key = (map.get key).map change := by
  have lookup : ∀ entries : List (κ × α),
      (entries.map fun entry => (entry.1, change entry.2)).lookup key =
        (entries.lookup key).map change := by
    intro entries
    induction entries with
    | nil => rfl
    | cons entry rest ih =>
      obtain ⟨first, held⟩ := entry
      by_cases same : key = first
      · simp [same]
      · have differs : (key == first) = false := by simpa using same
        simpa [List.lookup_cons, differs] using ih
  exact lookup map.entries

theorem get_of_mem_entries (map : OrderedMap κ α) {key : κ} {value : α}
    (present : (key, value) ∈ map.entries) : map.get key = some value := by
  have lookup : ∀ entries : List (κ × α), (entries.map Prod.fst).Nodup →
      (key, value) ∈ entries → entries.lookup key = some value := by
    intro entries
    induction entries with
    | nil => simp
    | cons entry rest ih =>
      obtain ⟨first, held⟩ := entry
      intro distinct isEntry
      rw [List.map_cons, List.nodup_cons] at distinct
      rcases List.mem_cons.mp isEntry with same | isRest
      · cases same
        simp
      have other : key ≠ first := by
        rintro rfl
        exact distinct.1 (List.mem_map.mpr ⟨(key, value), isRest, rfl⟩)
      have differs : (key == first) = false := by simpa using other
      simpa [List.lookup_cons, differs] using ih distinct.2 isRest
  exact lookup map.entries map.nodup present

theorem mem_entries_iff (map : OrderedMap κ α) (entry : κ × α) :
    entry ∈ map.entries ↔ map.get entry.1 = some entry.2 :=
  ⟨fun present => map.get_of_mem_entries present, fun found => map.mem_entries_of_get found⟩

@[simp] theorem get_filterKeys (map : OrderedMap κ α) (keep : κ → Bool) (key : κ) :
    (map.filterKeys keep).get key = if keep key then map.get key else none := by
  refine Option.ext fun value => ?_
  rw [← mem_entries_iff (map.filterKeys keep) (key, value), filterKeys, List.mem_filter,
    mem_entries_iff]
  split_ifs with kept <;> simp [kept]

theorem get_filterKeys_of_some {map : OrderedMap κ α} {keep : κ → Bool} {key : κ} {value : α}
    (found : (map.filterKeys keep).get key = some value) : map.get key = some value := by
  rw [get_filterKeys] at found
  split_ifs at found
  exact found

theorem get_filterValues_of_some {map : OrderedMap κ α} {keep : α → Bool} {key : κ} {value : α}
    (found : (map.filterValues keep).get key = some value) : map.get key = some value := by
  rw [← mem_entries_iff (map.filterValues keep) (key, value), filterValues, List.mem_filter]
    at found
  exact (mem_entries_iff map (key, value)).mp found.1

/-! ### Summing over the entries -/

/-- The sum of a weight over the values. -/
def total (map : OrderedMap κ α) (weight : α → Nat) : Nat :=
  (map.entries.map fun entry => weight entry.2).sum

omit [DecidableEq κ] in
@[simp] theorem total_empty (weight : α → Nat) : (empty : OrderedMap κ α).total weight = 0 := rfl

theorem total_insert_of_none {map : OrderedMap κ α} {key : κ} (value : α) (weight : α → Nat)
    (absent : map.get key = none) :
    (map.insert key value).total weight = map.total weight + weight value := by
  have fresh := (get_eq_none_iff map key).mp absent
  simp [total, insert, fresh]

theorem sum_setEntry (weight : α → Nat) (key : κ) (value old : α) :
    ∀ entries : List (κ × α), (entries.map Prod.fst).Nodup → entries.lookup key = some old →
      ((setEntry entries key value).map fun entry => weight entry.2).sum + weight old =
        (entries.map fun entry => weight entry.2).sum + weight value := by
  intro entries
  induction entries with
  | nil => simp
  | cons entry rest ih =>
    obtain ⟨first, held⟩ := entry
    intro distinct found
    rw [List.map_cons, List.nodup_cons] at distinct
    by_cases same : key = first
    · subst same
      obtain rfl : held = old := by simpa using found
      have untouched : setEntry rest key value = rest := by
        refine (List.map_congr_left fun entry isEntry => ?_).trans (List.map_id _)
        have other : entry.1 ≠ key := by
          intro equal
          have isKey : entry.1 ∈ rest.map Prod.fst := List.mem_map_of_mem isEntry
          rw [equal] at isKey
          exact distinct.1 isKey
        simp [other]
      simp only [setEntry, List.map_cons, if_true, List.sum_cons] at untouched ⊢
      rw [untouched]
      omega
    have differs : (key == first) = false := by simpa using same
    have further := ih distinct.2 (by simpa [List.lookup_cons, differs] using found)
    have other : first ≠ key := fun equal => same equal.symm
    simp only [setEntry, List.map_cons, other, if_false, List.sum_cons] at further ⊢
    omega

theorem total_insert_of_some {map : OrderedMap κ α} {key : κ} {old : α} (value : α)
    (weight : α → Nat) (found : map.get key = some old) :
    (map.insert key value).total weight + weight old = map.total weight + weight value := by
  have present : key ∈ map.keys := by
    by_contra absent
    cases (get_eq_none_iff map key).mpr absent ▸ found
  simp only [total, insert, present, dif_pos]
  exact sum_setEntry weight key value old map.entries map.nodup found

end OrderedMap

end MessagingStack

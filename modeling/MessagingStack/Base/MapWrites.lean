import Mathlib.Data.List.Induction
import MessagingStack.Base.OrderedMap

/-!
# Writing to a map

What one write does to the entries of a map, and what several do one after the other
(`insertAll`): entries under keys that are not taken go behind those that are there
(`entries_insertAll`).  `collect` gathers the values of a list under their keys.
-/

namespace MessagingStack

universe u v

namespace OrderedMap

/-! ## One write -/

variable {κ : Type u} {α : Type v} [DecidableEq κ] {map : OrderedMap κ α} {key : κ}

theorem entries_insert_of_none (value : α) (absent : map.get key = none) :
    (map.insert key value).entries = map.entries ++ [(key, value)] := by
  have fresh := (get_eq_none_iff map key).mp absent
  rw [insert, dif_neg fresh]

theorem mem_keys_of_some {old : α} (present : map.get key = some old) : key ∈ map.keys := by
  by_contra absent
  cases (get_eq_none_iff map key).mpr absent ▸ present

theorem entries_insert_of_some {old : α} (value : α) (present : map.get key = some old) :
    (map.insert key value).entries =
      map.entries.map fun entry => if entry.1 = key then (key, value) else entry := by
  rw [insert, dif_pos (mem_keys_of_some present)]
  rfl

theorem entries_around {old : α} (value : α) (present : map.get key = some old) :
    ∃ front back, map.entries = front ++ (key, old) :: back ∧
      (map.insert key value).entries = front ++ (key, value) :: back := by
  obtain ⟨front, back, entries⟩ := List.append_of_mem (map.mem_entries_of_get present)
  have distinct := map.nodup
  rw [entries, List.map_append, List.map_cons] at distinct
  obtain ⟨-, fromKey, apart⟩ := List.nodup_append.mp distinct
  have others : ∀ list : List (κ × α), (∀ entry ∈ list, entry.1 ≠ key) →
      (list.map fun entry => if entry.1 = key then (key, value) else entry) = list := by
    intro list differ
    refine (List.map_congr_left fun entry isEntry => ?_).trans (List.map_id list)
    rw [if_neg (differ entry isEntry), id]
  refine ⟨front, back, entries, ?_⟩
  rw [entries_insert_of_some value present, entries, List.map_append, List.map_cons, if_pos rfl]
  rw [others front, others back]
  · intro entry isEntry same
    have isKey : entry.1 ∈ back.map Prod.fst := List.mem_map_of_mem isEntry
    rw [same] at isKey
    exact (List.nodup_cons.mp fromKey).1 isKey
  · intro entry isEntry same
    exact apart entry.1 (List.mem_map_of_mem isEntry) key List.mem_cons_self same

theorem insert_insert (first second : α) :
    (map.insert key first).insert key second = map.insert key second := by
  have again : (map.insert key first).get key = some first := by rw [get_insert, if_pos rfl]
  refine ext ?_
  rw [entries_insert_of_some second again]
  cases present : map.get key with
  | none =>
    have fresh := (get_eq_none_iff map key).mp present
    rw [entries_insert_of_none first present, entries_insert_of_none second present,
      List.map_append]
    congr 1
    · refine (List.map_congr_left fun entry isEntry => ?_).trans (List.map_id _)
      have differs : entry.1 ≠ key := by
        rintro rfl
        exact fresh (List.mem_map_of_mem isEntry)
      rw [if_neg differs, id]
    · simp
  | some =>
    rw [entries_insert_of_some first present, entries_insert_of_some second present, List.map_map]
    refine List.map_congr_left fun entry _ => ?_
    by_cases same : entry.1 = key <;> simp [same]

theorem mem_entries_insert {value : α} {entry : κ × α}
    (isIn : entry ∈ (map.insert key value).entries) :
    entry ∈ map.entries ∨ entry = (key, value) := by
  rw [mem_entries_iff, get_insert] at isIn
  split at isIn
  · next same => exact Or.inr (Prod.ext same (Option.some.inj isIn).symm)
  · exact Or.inl ((mem_entries_iff map entry).mpr isIn)

theorem mem_keys_insert {value : α} {wanted : κ} :
    wanted ∈ (map.insert key value).keys ↔ wanted ∈ map.keys ∨ key = wanted := by
  have after := get_eq_none_iff (map.insert key value) wanted
  have before := get_eq_none_iff map wanted
  rw [get_insert] at after
  by_cases same : wanted = key
  · subst same
    simpa using after
  rw [if_neg same] at after
  have alike : wanted ∉ map.keys ↔ wanted ∉ (map.insert key value).keys := before.symm.trans after
  rw [← not_iff_not.mp alike]
  simp [Ne.symm same]

/-! ## Several writes -/

def insertAll (keyOf : α → κ) (map : OrderedMap κ α) (values : List α) : OrderedMap κ α :=
  values.foldl (fun map value => map.insert (keyOf value) value) map

variable {keyOf : α → κ} {values : List α}

theorem mem_entries_insertAll {entry : κ × α}
    (isIn : entry ∈ (insertAll keyOf map values).entries) :
    entry ∈ map.entries ∨ ∃ value ∈ values, entry = (keyOf value, value) := by
  induction values generalizing map with
  | nil => exact Or.inl isIn
  | cons first rest ih =>
    rcases ih isIn with before | ⟨value, isValue, same⟩
    · rcases mem_entries_insert before with old | isFirst
      · exact Or.inl old
      · exact Or.inr ⟨first, List.mem_cons_self, isFirst⟩
    · exact Or.inr ⟨value, List.mem_cons_of_mem first isValue, same⟩

theorem mem_keys_insertAll {wanted : κ} :
    wanted ∈ (insertAll keyOf map values).keys ↔
      wanted ∈ map.keys ∨ ∃ value ∈ values, keyOf value = wanted := by
  induction values generalizing map with
  | nil => simp [insertAll]
  | cons first rest ih =>
    have step : wanted ∈ (insertAll keyOf map (first :: rest)).keys ↔
        wanted ∈ (map.insert (keyOf first) first).keys ∨ ∃ value ∈ rest, keyOf value = wanted := ih
    rw [step, mem_keys_insert, or_assoc]
    simp

/-- Every value stands under its own key. -/
def Keyed (keyOf : α → κ) (map : OrderedMap κ α) : Prop :=
  ∀ entry ∈ map.entries, entry.1 = keyOf entry.2

theorem Keyed.insertAll (keyed : Keyed keyOf map) (values : List α) :
    Keyed keyOf (insertAll keyOf map values) := by
  intro entry isIn
  rcases mem_entries_insertAll isIn with old | ⟨value, -, rfl⟩
  · exact keyed entry old
  · rfl

theorem entries_insert_behind {whole written : OrderedMap κ α} {value : α}
    (split : whole.entries = map.entries ++ written.entries) (fresh : key ∉ map.keys) :
    (whole.insert key value).entries = map.entries ++ (written.insert key value).entries := by
  have alike : whole.get key = written.get key := by
    have old : map.entries.lookup key = none := (get_eq_none_iff map key).mpr fresh
    rw [get, get, split, List.lookup_append, old, Option.none_or]
  cases present : written.get key with
  | none =>
    rw [entries_insert_of_none value (alike.trans present),
      entries_insert_of_none value present, split, List.append_assoc]
  | some =>
    rw [entries_insert_of_some value (alike.trans present),
      entries_insert_of_some value present, split, List.map_append]
    congr 1
    refine (List.map_congr_left fun entry isEntry => ?_).trans (List.map_id _)
    have differs : entry.1 ≠ key := by
      rintro rfl
      exact fresh (List.mem_map_of_mem isEntry)
    rw [if_neg differs, id]

theorem entries_insertAll (absent : ∀ value ∈ values, keyOf value ∉ map.keys) :
    (insertAll keyOf map values).entries = map.entries ++ (insertAll keyOf ∅ values).entries := by
  -- What is written so far stands behind the old entries, where a repeated key finds it.
  suffices general : ∀ whole written : OrderedMap κ α,
      whole.entries = map.entries ++ written.entries →
      (insertAll keyOf whole values).entries =
        map.entries ++ (insertAll keyOf written values).entries by
    exact general map ∅ (List.append_nil _).symm
  induction values with
  | nil => exact fun whole written split => split
  | cons first rest ih =>
    intro whole written split
    exact ih (fun later isLater => absent later (List.mem_cons_of_mem first isLater)) _ _
      (entries_insert_behind split (absent first List.mem_cons_self))

/-! ## Collected values -/

variable {ε : Type u}

def collect (eventKey : ε → κ) (valuesOf : ε → List α) (events : List ε) :
    OrderedMap κ (List α) :=
  events.foldl
    (fun map event =>
      map.insert (eventKey event) ((map.get (eventKey event)).getD [] ++ valuesOf event)) ∅

theorem get_collect (eventKey : ε → κ) (valuesOf : ε → List α) (events : List ε) (wanted : κ) :
    (collect eventKey valuesOf events).get wanted =
      if wanted ∈ events.map eventKey then
        some ((events.filter fun event => eventKey event = wanted).flatMap valuesOf)
      else none := by
  induction events using List.reverseRecOn with
  | nil => simp [collect, get_eq_none_iff, keys, EmptyCollection.emptyCollection, empty]
  | append_singleton events last ih =>
    have step : collect eventKey valuesOf (events ++ [last]) =
        (collect eventKey valuesOf events).insert (eventKey last)
          (((collect eventKey valuesOf events).get (eventKey last)).getD [] ++ valuesOf last) := by
      rw [collect, List.foldl_append]
      rfl
    rw [step, get_insert]
    by_cases same : wanted = eventKey last
    · subst same
      rw [if_pos rfl, ih]
      by_cases before : eventKey last ∈ events.map eventKey
      · simp [before]
      have none : (events.filter fun event => eventKey event = eventKey last) = [] := by
        rw [List.filter_eq_nil_iff]
        intro event isIn sameKey
        exact before (List.mem_map.mpr ⟨event, isIn, of_decide_eq_true sameKey⟩)
      simp [before, none]
    · have other : (decide (eventKey last = wanted)) = false := decide_eq_false (Ne.symm same)
      rw [if_neg same, ih]
      simp [same, other]

end OrderedMap

end MessagingStack

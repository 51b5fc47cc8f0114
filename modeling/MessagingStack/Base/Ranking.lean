import Mathlib.Data.List.Sort
import Mathlib.Order.MinMax
import MessagingStack.Base.MapWrites

/-!
# The ranking of a map

A view of a map shows the entries that pass a test, by increasing place (`ranked`).  A write
to one key moves the others only where its entry crosses one of them: it leaves the keys of
the ranking as they are if the entry is shown before and after and no other entry stands from
the one place to the other (`ranked_insert_shown`); and it adds or takes away the last of them
if all others stand before it (`ranked_insert_enters`, `ranked_insert_leaves`).
-/

namespace MessagingStack

universe u v w

/-! ## Inserting into a sorted list -/

section Sorting

variable {α : Type u} (r : α → α → Prop) [DecidableRel r]

theorem orderedInsert_last {last : α} {list : List α} (isLast : ∀ x ∈ list, ¬r last x) :
    list.orderedInsert r last = list ++ [last] := by
  induction list with
  | nil => rfl
  | cons first rest ih =>
    obtain ⟨after, others⟩ := List.forall_mem_cons.mp isLast
    rw [List.orderedInsert_of_not_le r rest after, ih others, List.cons_append]

theorem orderedInsert_append {first last : α} (list : List α) (before : r first last) :
    (list ++ [last]).orderedInsert r first = list.orderedInsert r first ++ [last] := by
  induction list with
  | nil => rw [List.nil_append, List.orderedInsert_cons_of_le r [] before]; rfl
  | cons head rest ih =>
    rw [List.cons_append, List.orderedInsert_cons, List.orderedInsert_cons]
    split
    · rfl
    · rw [ih, List.cons_append]

theorem insertionSort_last {last : α} {front back : List α}
    (before : ∀ x ∈ front ++ back, r x last ∧ ¬r last x) :
    (front ++ last :: back).insertionSort r = (front ++ back).insertionSort r ++ [last] := by
  induction front with
  | nil =>
    refine orderedInsert_last r fun x isIn => ?_
    exact (before x ((List.mem_insertionSort r).mp isIn)).2
  | cons first rest ih =>
    obtain ⟨isBefore, others⟩ := List.forall_mem_cons.mp before
    rw [List.cons_append, List.insertionSort_cons, ih others, orderedInsert_append r _ isBefore.1]
    rfl

theorem orderedInsert_first {first : α} {list : List α} (isFirst : ∀ x ∈ list, r first x) :
    list.orderedInsert r first = first :: list := by
  cases list with
  | nil => rfl
  | cons head rest => exact List.orderedInsert_cons_of_le r rest (isFirst head List.mem_cons_self)

theorem filter_orderedInsert [IsTrans α r] (keep : α → Bool) (x : α) {list : List α}
    (sorted : list.Pairwise r) :
    (list.orderedInsert r x).filter keep =
      if keep x then (list.filter keep).orderedInsert r x else list.filter keep := by
  induction list with
  | nil => cases kept : keep x <;> simp [kept]
  | cons head rest ih =>
    obtain ⟨below, sortedRest⟩ := List.pairwise_cons.mp sorted
    rw [List.orderedInsert_cons]
    split
    · next before =>
      have isFirst : ∀ other ∈ (head :: rest).filter keep, r x other := by
        intro other isIn
        rcases List.mem_cons.mp (List.mem_filter.mp isIn).1 with rfl | later
        · exact before
        · exact Trans.trans before (below other later)
      rw [orderedInsert_first r isFirst, List.filter_cons]
    next after =>
    rw [List.filter_cons, List.filter_cons, ih sortedRest]
    cases keptHead : keep head with
    | false => rfl
    | true =>
      cases kept : keep x with
      | false => rfl
      | true =>
        simp only [if_true]
        rw [List.orderedInsert_of_not_le r _ after]

theorem filter_insertionSort [IsTrans α r] [Std.Total r] (keep : α → Bool) (list : List α) :
    (list.insertionSort r).filter keep = (list.filter keep).insertionSort r := by
  induction list with
  | nil => rfl
  | cons head rest ih =>
    rw [List.insertionSort_cons,
      filter_orderedInsert r keep head (List.pairwise_insertionSort r rest), List.filter_cons]
    cases keep head with
    | false => exact ih
    | true =>
      simp only [if_true]
      rw [ih, List.insertionSort_cons]

theorem filter_not_append_filter {keep : α → Bool} {list : List α}
    (upward : list.Pairwise fun left right => keep left = true → keep right = true) :
    list.filter (fun x => !keep x) ++ list.filter keep = list := by
  induction list with
  | nil => rfl
  | cons head rest ih =>
    obtain ⟨above, upwardRest⟩ := List.pairwise_cons.mp upward
    cases kept : keep head with
    | false => simp only [List.filter_cons, kept, Bool.not_false, if_true, Bool.false_eq_true,
        if_false, List.cons_append, ih upwardRest]
    | true =>
      have all : ∀ x ∈ rest, keep x = true := fun x isIn => above x isIn kept
      have none : rest.filter (fun x => !keep x) = [] := by
        refine List.filter_eq_nil_iff.mpr fun x isIn => ?_
        rw [all x isIn]
        exact Bool.false_ne_true
      simp only [List.filter_cons, kept, Bool.not_true, Bool.false_eq_true, if_false, if_true,
        none, List.nil_append, List.filter_eq_self.mpr all]

theorem filter_drop_end {keep : α → Bool} {list : List α} (count : Nat)
    (upward : list.Pairwise fun left right => keep left = true → keep right = true) :
    (list.drop (list.length - count)).filter keep =
      (list.filter keep).drop ((list.filter keep).length - count) := by
  have parts := filter_not_append_filter upward
  generalize isFront : list.filter (fun x => !keep x) = front at parts
  generalize isBack : list.filter keep = back at parts
  have out : ∀ number, (front.drop number).filter keep = [] := by
    intro number
    refine List.filter_eq_nil_iff.mpr fun x isIn => ?_
    have isOut := List.mem_of_mem_drop isIn
    rw [← isFront, List.mem_filter, Bool.not_eq_true'] at isOut
    rw [isOut.2]
    exact Bool.false_ne_true
  have stays : ∀ number, (back.drop number).filter keep = back.drop number := by
    intro number
    refine List.filter_eq_self.mpr fun x isIn => ?_
    have isKept := List.mem_of_mem_drop isIn
    rw [← isBack, List.mem_filter] at isKept
    exact isKept.2
  have lengths : (front ++ back).length - count - front.length = back.length - count := by
    rw [List.length_append]
    omega
  rw [← parts, List.drop_append, List.filter_append, out, List.nil_append, stays, lengths]

end Sorting

/-! ## The ranking -/

section Ranking

variable {κ : Type u} {α : Type v} {ι : Type w} [LinearOrder ι]

def ranked (shown : α → Bool) (place : α → ι) (entries : List (κ × α)) : List (κ × α) :=
  (entries.filter fun entry => shown entry.2).insertionSort
    fun left right => place left.2 ≤ place right.2

variable [DecidableEq κ] (shown : α → Bool) (place : α → ι) {map : OrderedMap κ α} {key : κ}

theorem mem_ranked {entry : κ × α} :
    entry ∈ ranked shown place map.entries ↔
      map.get entry.1 = some entry.2 ∧ shown entry.2 = true := by
  rw [ranked, List.mem_insertionSort, List.mem_filter, OrderedMap.mem_entries_iff]

theorem filter_around (value : α) (hidden : ∀ old, map.get key = some old → shown old = false) :
    ∃ front back, (map.entries.filter fun entry => shown entry.2) = front ++ back ∧
      ((map.insert key value).entries.filter fun entry => shown entry.2) =
        front ++ ([(key, value)].filter fun entry => shown entry.2) ++ back := by
  cases present : map.get key with
  | none =>
    refine ⟨_, [], (List.append_nil _).symm, ?_⟩
    rw [OrderedMap.entries_insert_of_none value present, List.filter_append, List.append_nil]
  | some old =>
    obtain ⟨front, back, entries, after⟩ := OrderedMap.entries_around value present
    refine ⟨front.filter fun entry => shown entry.2, back.filter fun entry => shown entry.2, ?_, ?_⟩
    · rw [entries, List.filter_append, List.filter_cons]
      simp only [hidden old present, Bool.false_eq_true, if_false]
    · rw [after, ← List.singleton_append, ← List.append_assoc, List.filter_append,
        List.filter_append]

/-- A write that is not seen before or after. -/
theorem ranked_insert_hidden {value : α}
    (hidden : ∀ old, map.get key = some old → shown old = false)
    (stays : shown value = false) :
    ranked shown place (map.insert key value).entries = ranked shown place map.entries := by
  obtain ⟨front, back, before, after⟩ := filter_around shown value hidden
  have nothing : ([(key, value)].filter fun entry => shown entry.2) = [] := by
    rw [List.filter_cons_of_neg (by simpa using stays), List.filter_nil]
  rw [ranked, ranked, before, after, nothing, List.append_nil]

/-- **An entry that is shown for the first time** is the last if all others stand before it. -/
theorem ranked_insert_enters {value : α}
    (hidden : ∀ old, map.get key = some old → shown old = false) (enters : shown value = true)
    (others : ∀ other held, other ≠ key → map.get other = some held → shown held = true →
      place held < place value) :
    ranked shown place (map.insert key value).entries =
      ranked shown place map.entries ++ [(key, value)] := by
  obtain ⟨front, back, before, after⟩ := filter_around shown value hidden
  have one : ([(key, value)].filter fun entry => shown entry.2) = [(key, value)] := by
    rw [List.filter_cons_of_pos (by simpa using enters), List.filter_nil]
  rw [ranked, ranked, before, after, one, List.append_assoc, List.singleton_append]
  refine insertionSort_last _ fun entry isIn => ?_
  rw [← before, List.mem_filter, OrderedMap.mem_entries_iff] at isIn
  have differs : entry.1 ≠ key := by
    intro same
    rw [hidden entry.2 (same ▸ isIn.1)] at isIn
    exact Bool.false_ne_true isIn.2
  have lower := others entry.1 entry.2 differs isIn.1 isIn.2
  exact ⟨lower.le, lower.not_ge⟩

/-- **An entry that is no longer shown** was the last if all others stood before it. -/
theorem ranked_insert_leaves {value old : α} (present : map.get key = some old)
    (wasShown : shown old = true) (leaves : shown value = false)
    (others : ∀ other held, other ≠ key → map.get other = some held → shown held = true →
      place held < place old) :
    ranked shown place map.entries =
      ranked shown place (map.insert key value).entries ++ [(key, old)] := by
  have back : (map.insert key value).insert key old = map := by
    rw [OrderedMap.insert_insert]
    obtain ⟨front, rest, before, after⟩ := OrderedMap.entries_around old present
    exact OrderedMap.ext (after.trans before.symm)
  have enters : ranked shown place ((map.insert key value).insert key old).entries =
      ranked shown place (map.insert key value).entries ++ [(key, old)] := by
    refine ranked_insert_enters shown place ?_ wasShown ?_
    · intro held isHeld
      rw [OrderedMap.get_insert, if_pos rfl] at isHeld
      cases isHeld
      exact leaves
    · intro other held differs isHeld isShown
      rw [OrderedMap.get_insert, if_neg differs] at isHeld
      exact others other held differs isHeld isShown
  rw [back] at enters
  exact enters

theorem ranked_insert_shown {value old : α} (present : map.get key = some old)
    (wasShown : shown old = true) (stays : shown value = true)
    (others : ∀ other held, other ≠ key → map.get other = some held → shown held = true →
      place held < min (place old) (place value) ∨ max (place old) (place value) < place held) :
    ranked shown place (map.insert key value).entries =
      (ranked shown place map.entries).map fun entry =>
        if entry.1 = key then (key, value) else entry := by
  have shownAlike : (map.insert key value).entries.filter (fun entry => shown entry.2) =
      (map.entries.filter fun entry => shown entry.2).map fun entry =>
        if entry.1 = key then (key, value) else entry := by
    rw [OrderedMap.entries_insert_of_some value present, List.filter_map]
    congr 1
    refine List.filter_congr fun entry isEntry => ?_
    by_cases same : entry.1 = key
    · have isOld := (map.mem_entries_iff entry).mp isEntry
      rw [same, present] at isOld
      simp only [Function.comp, if_pos same, stays, ← Option.some.inj isOld, wasShown]
    · simp only [Function.comp, if_neg same]
  rw [ranked, ranked, shownAlike]
  refine (List.map_insertionSort _ _ _ _ ?_).symm
  intro first isFirst second isSecond
  rw [List.mem_filter, OrderedMap.mem_entries_iff] at isFirst isSecond
  have isOld : ∀ entry : κ × α, map.get entry.1 = some entry.2 → entry.1 = key →
      entry.2 = old := by
    intro entry isEntry same
    rw [same, present] at isEntry
    exact (Option.some.inj isEntry).symm
  by_cases same : first.1 = key
  · by_cases same' : second.1 = key
    · rw [if_pos same, if_pos same', isOld first isFirst.1 same, isOld second isSecond.1 same']
      simp
    rw [if_pos same, if_neg same', isOld first isFirst.1 same]
    have apart := others second.1 second.2 same' isSecond.1 isSecond.2
    rw [lt_min_iff, max_lt_iff] at apart
    rcases apart with ⟨below, below'⟩ | ⟨above, above'⟩
    · exact ⟨fun le => absurd below le.not_gt, fun le => absurd below' le.not_gt⟩
    · exact ⟨fun _ => above'.le, fun _ => above.le⟩
  by_cases same' : second.1 = key
  · rw [if_neg same, if_pos same', isOld second isSecond.1 same']
    have apart := others first.1 first.2 same isFirst.1 isFirst.2
    rw [lt_min_iff, max_lt_iff] at apart
    rcases apart with ⟨below, below'⟩ | ⟨above, above'⟩
    · exact ⟨fun _ => below'.le, fun _ => below.le⟩
    · exact ⟨fun le => absurd above le.not_gt, fun le => absurd above' le.not_gt⟩
  · rw [if_neg same, if_neg same']

end Ranking

end MessagingStack

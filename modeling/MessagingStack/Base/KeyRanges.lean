import Mathlib.Data.List.Lex
import Mathlib.Data.List.Sort

/-!
# Ranges of text keys

A store with text keys keeps them in lexicographic order, and a program that composes its keys
reads one of its lists as a range.  A range from a text to what extends the text and lies below a
bound is made of extensions of the text (`between_append_iff`, `between_next_iff`).

A list that is sorted stably by one relation is the list sorted by the keys of its entries, if
the two agree on every entry and the later ones (`map_insertionSort_of_pairwise`).
-/

namespace MessagingStack

universe u v

namespace KeyRanges

/-! ## Ranges -/

variable {α : Type u} [LinearOrder α] {first bound key : List α}

theorem cons_lt_cons {a b : α} {left right : List α} :
    a :: left < b :: right ↔ a < b ∨ a = b ∧ left < right :=
  List.cons_lt_cons_iff

theorem le_append (first rest : List α) : first ≤ first ++ rest := by
  cases rest with
  | nil => rw [List.append_nil]
  | cons c rest =>
    have longer : first ++ [] < first ++ c :: rest := List.append_left_lt List.Lex.nil
    rw [List.append_nil] at longer
    exact le_of_lt longer

theorem append_le_append_iff {left right : List α} :
    first ++ left ≤ first ++ right ↔ left ≤ right := by
  constructor
  · intro notAfter
    by_contra after
    exact absurd notAfter (not_le.mpr (List.append_left_lt (not_le.mp after)))
  intro notAfter
  rcases lt_or_eq_of_le notAfter with before | rfl
  · exact le_of_lt (List.append_left_lt before)
  · exact le_rfl

/-- **A range of extensions.** -/
theorem between_append_iff :
    first ≤ key ∧ key < first ++ bound ↔ ∃ rest, key = first ++ rest ∧ rest < bound := by
  induction first generalizing key with
  | nil =>
    constructor
    · exact fun within => ⟨key, rfl, within.2⟩
    · rintro ⟨rest, rfl, below⟩
      exact ⟨not_lt.mp (List.not_lt_nil _), below⟩
  | cons a first ih =>
    cases key with
    | nil =>
      constructor
      · exact fun within => absurd within.1 (not_le.mpr List.Lex.nil)
      · rintro ⟨rest, same, -⟩
        cases same
    | cons b key =>
      rw [List.cons_append, ← not_lt, cons_lt_cons, cons_lt_cons]
      constructor
      · rintro ⟨notBelow, below⟩
        have same : a = b := by
          rcases below with smaller | ⟨same, -⟩
          · exact absurd (Or.inl smaller) notBelow
          · exact same.symm
        subst same
        have within : first ≤ key ∧ key < first ++ bound := by
          refine ⟨not_lt.mp fun smaller => notBelow (Or.inr ⟨rfl, smaller⟩), ?_⟩
          rcases below with smaller | ⟨-, smaller⟩
          · exact absurd smaller (lt_irrefl a)
          · exact smaller
        obtain ⟨rest, rfl, small⟩ := ih.mp within
        exact ⟨rest, rfl, small⟩
      rintro ⟨rest, same, small⟩
      obtain ⟨rfl, rfl⟩ := List.cons.inj same
      obtain ⟨fromFirst, toBound⟩ := ih.mpr ⟨rest, rfl, small⟩
      refine ⟨?_, Or.inr ⟨rfl, toBound⟩⟩
      rintro (smaller | ⟨-, smaller⟩)
      · exact lt_irrefl b smaller
      · exact absurd smaller (not_lt.mpr fromFirst)

theorem between_next_iff {low high : α} (below : low < high)
    (next : ∀ c, low ≤ c → c < high → c = low) :
    first ++ [low] ≤ key ∧ key < first ++ [high] ↔ ∃ rest, key = first ++ low :: rest := by
  constructor
  · rintro ⟨fromLow, toHigh⟩
    obtain ⟨rest, rfl, small⟩ :=
      between_append_iff.mp ⟨(le_append first [low]).trans fromLow, toHigh⟩
    cases rest with
    | nil =>
      have smaller : first ++ [] < first ++ [low] := List.append_left_lt List.Lex.nil
      exact absurd fromLow (not_le.mpr smaller)
    | cons c rest =>
      have small' : c < high := by
        rcases cons_lt_cons.mp small with smaller | ⟨-, smaller⟩
        · exact smaller
        · exact absurd smaller (List.not_lt_nil rest)
      have large : low ≤ c := by
        by_contra smaller
        have before : first ++ c :: rest < first ++ [low] :=
          List.append_left_lt (cons_lt_cons.mpr (Or.inl (not_le.mp smaller)))
        exact absurd fromLow (not_le.mpr before)
      exact ⟨rest, by rw [next c large small']⟩
  rintro ⟨rest, rfl⟩
  constructor
  · have extended := le_append (first ++ [low]) rest
    rwa [← List.append_cons] at extended
  · exact List.append_left_lt (cons_lt_cons.mpr (Or.inl below))

/-! ## Sorting by keys -/

variable {β : Type u} {γ : Type v} {r : β → β → Prop} {s : γ → γ → Prop} [DecidableRel r]
  [DecidableRel s]

theorem map_orderedInsert_of_forall (keyOf : β → γ) {x : β} {list : List β}
    (agree : ∀ y ∈ list, (r x y ↔ s (keyOf x) (keyOf y))) :
    (list.orderedInsert r x).map keyOf = (list.map keyOf).orderedInsert s (keyOf x) := by
  induction list with
  | nil => rfl
  | cons y rest ih =>
    rw [List.map_cons, List.orderedInsert_cons, List.orderedInsert_cons]
    have here := agree y List.mem_cons_self
    by_cases before : r x y
    · rw [if_pos before, if_pos (here.mp before), List.map_cons, List.map_cons]
    · rw [if_neg before, if_neg (mt here.mpr before), List.map_cons,
        ih fun later isLater => agree later (List.mem_cons_of_mem y isLater)]

/-- **Two sorts of one list** agree, if their relations do on every entry and the later ones. -/
theorem map_insertionSort_of_pairwise (keyOf : β → γ) {list : List β}
    (agree : list.Pairwise fun x y => r x y ↔ s (keyOf x) (keyOf y)) :
    (list.insertionSort r).map keyOf = (list.map keyOf).insertionSort s := by
  induction list with
  | nil => rfl
  | cons x rest ih =>
    obtain ⟨here, later⟩ := List.pairwise_cons.mp agree
    rw [List.insertionSort_cons, List.map_cons, List.insertionSort_cons, ← ih later]
    exact map_orderedInsert_of_forall keyOf fun y isIn =>
      here y ((List.mem_insertionSort r).mp isIn)

end KeyRanges

end MessagingStack

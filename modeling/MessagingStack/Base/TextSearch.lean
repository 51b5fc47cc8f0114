import Mathlib.Data.List.Infix
import MessagingStack.Base.Text

/-!
# Searching and splitting text

`str::contains`, `str::split("::")` and `str::split_once("::")` on the characters of a
text.  A split takes the separators from the left and never lets two of them overlap, so
`":::"` has an empty first segment and the second one keeps a colon.

`infix_marker_iff` is the rule for a search that ends at a character the text has only
once in front of a known rest: the pattern ends the part before that character, or it
lies in the rest.
-/

namespace MessagingStack.Text

def contains (text pattern : String) : Bool := decide (pattern.toList <:+: text.toList)

theorem contains_iff (text pattern : String) :
    contains text pattern = true ↔ pattern.toList <:+: text.toList := by
  rw [contains, decide_eq_true_eq]

/-! ## Splitting at a path separator -/

/-- The segments between the separators `::`. -/
def pathSegments : List Char → List (List Char)
  | ':' :: ':' :: rest => [] :: pathSegments rest
  | c :: rest =>
    match pathSegments rest with
    | [] => [[c]]
    | segment :: segments => (c :: segment) :: segments
  | [] => [[]]

def lastPathSegment (text : String) : String :=
  String.ofList ((pathSegments text.toList).getLastD [])

/-- `text.split_once("::")`, the part before the first separator. -/
def beforeSeparator : List Char → Option (List Char)
  | ':' :: ':' :: _ => some []
  | c :: rest => (beforeSeparator rest).map (c :: ·)
  | [] => none

theorem pathSegments_of_not_mem {segment : List Char} (plain : ':' ∉ segment) :
    pathSegments segment = [segment] := by
  induction segment with
  | nil => rfl
  | cons c rest ih =>
    have notHere : ':' ≠ c := fun same => plain (same ▸ List.mem_cons_self)
    have notLater : ':' ∉ rest := fun later => plain (List.mem_cons_of_mem c later)
    rw [pathSegments, ih notLater]
    rintro later rfl -
    exact notHere rfl

/-- A first segment without a colon is split off. -/
theorem pathSegments_append {segment : List Char} (plain : ':' ∉ segment)
    (rest : List Char) :
    pathSegments (segment ++ ':' :: ':' :: rest) = segment :: pathSegments rest := by
  induction segment with
  | nil => rfl
  | cons c segment ih =>
    have notHere : ':' ≠ c := fun same => plain (same ▸ List.mem_cons_self)
    have notLater : ':' ∉ segment := fun later => plain (List.mem_cons_of_mem c later)
    rw [List.cons_append, pathSegments, ih notLater]
    rintro later rfl -
    exact notHere rfl

theorem beforeSeparator_append {segment : List Char} (plain : ':' ∉ segment)
    (rest : List Char) :
    beforeSeparator (segment ++ ':' :: ':' :: rest) = some segment := by
  induction segment with
  | nil => rfl
  | cons c segment ih =>
    have notHere : ':' ≠ c := fun same => plain (same ▸ List.mem_cons_self)
    have notLater : ':' ∉ segment := fun later => plain (List.mem_cons_of_mem c later)
    rw [List.cons_append, beforeSeparator, ih notLater, Option.map_some]
    rintro later rfl -
    exact notHere rfl

/-! ## Searching for a pattern that ends in a marked character -/

section Marker

variable {α : Type} {mark : α} {before pattern rest : List α}

/-- **Where a marked pattern can be.**  The text is `before`, the mark, `rest`; neither
`before` nor the pattern in front of its own mark has the mark. -/
theorem infix_marker_iff (unmarked : mark ∉ before) (plain : mark ∉ pattern) :
    pattern ++ [mark] <:+: before ++ mark :: rest ↔
      pattern <:+ before ∨ pattern ++ [mark] <:+: rest := by
  constructor
  · rintro ⟨front, back, same⟩
    have split : (front ++ pattern) ++ mark :: back = before ++ mark :: rest := by
      rw [← same]
      simp only [List.append_assoc, List.cons_append, List.nil_append]
    rcases List.append_eq_append_iff.mp split with
      ⟨middle, shorter, tails⟩ | ⟨middle, longer, tails⟩
    · -- the pattern ends inside `before` or right at its end
      cases middle with
      | nil => exact .inl ⟨front, by rw [shorter, List.append_nil]⟩
      | cons =>
        obtain ⟨rfl, -⟩ := List.cons.inj tails
        exact absurd (by simp [shorter]) unmarked
    cases middle with
    | nil => exact .inl ⟨front, by rw [longer, List.append_nil]⟩
    | cons c middle =>
      -- the mark of the text is in front of the pattern, which has none of its own
      obtain ⟨rfl, tail⟩ := List.cons.inj tails
      rcases List.append_eq_append_iff.mp longer with
        ⟨inner, -, whole⟩ | ⟨inner, -, whole⟩
      · exact absurd (by simp [whole]) plain
      cases inner with
      | nil =>
        have starts : pattern = mark :: middle := whole.symm
        exact absurd (by simp [starts]) plain
      | cons c inner =>
        obtain ⟨rfl, behind⟩ := List.cons.inj whole
        refine .inr ⟨inner, back, ?_⟩
        have inRest : rest = middle ++ mark :: back := tail
        rw [inRest, behind]
        simp
  · rintro (⟨front, ends⟩ | ⟨front, back, inside⟩)
    · exact ⟨front, rest, by rw [← ends]; simp⟩
    · exact ⟨before ++ mark :: front, back, by rw [← inside]; simp⟩

end Marker

end MessagingStack.Text

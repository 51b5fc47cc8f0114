import Mathlib.Data.List.Nodup
import Mathlib.Order.Lattice
import Mathlib.Tactic.Common

/-!
# Reading a sorted list by pages below a key

A reader asks for the first rows of a sorted list, then for the first of those whose key is below
the key of the last row it has got, and so on until a page is short (`read`).  The list may be
sorted by something else than the key, and rows that sort alike may be arranged differently at
each call.

`reads_iff`: whatever the arrangements are, the reader gets each row once, in order, exactly if at
the end of every full page the keys agree with the arrangement: no row up to there has a smaller
key than the last one, and every row behind it has (`Agrees`).
-/

namespace MessagingStack.KeysetPages

universe u v

variable {α : Type u} {κ : Type v} [LinearOrder κ] (key : α → κ) (limit : Nat)

def below (cursor : Option κ) (row : α) : Bool :=
  match cursor with
  | none => true
  | some cursor => key row < cursor

/-- Ask for pages until one is short; the calls are numbered. -/
def read (ask : Nat → Option κ → List α) : Nat → Nat → Option κ → Option (List α)
  | 0, _, _ => none
  | fuel + 1, call, cursor =>
    let page := ask call cursor
    if page.length < limit then some page
    else
      match page.getLast? with
      | none => none
      | some last => (read ask fuel (call + 1) (some (key last))).map (page ++ ·)

def pagesOf (arrangements : Nat → List α) (call : Nat) (cursor : Option κ) : List α :=
  ((arrangements call).filter (below key cursor)).take limit

def Reads (r : α → α → Prop) (rows : List α) (ask : Nat → Option κ → List α) : Prop :=
  ∃ fuel shown, read key limit ask fuel 0 none = some shown ∧ shown.Perm rows ∧ shown.Pairwise r

/-- **At the end of every full page** the keys agree with the arrangement. -/
def Agrees (list : List α) : Prop :=
  ∀ front last back, list = front ++ last :: back → limit ∣ front.length + 1 →
    (∀ row ∈ front, key last ≤ key row) ∧ ∀ row ∈ back, key row < key last

/-- What a reader has got of one arrangement can be continued by the rest of another one. -/
def Splices (family : List α → Prop) : Prop :=
  ∀ done rest other cursor, family (done ++ rest) → family other →
    cursor = done.getLast?.map key → (other.filter (below key cursor)).Perm rest →
    family (done ++ other.filter (below key cursor))

variable {key limit}

/-! ## Pages that agree -/

theorem exists_last {page : List α} (positive : 0 < limit) (full : page.length = limit) :
    ∃ front last, page = front ++ [last] ∧ front.length + 1 = limit := by
  rcases List.eq_nil_or_concat page with rfl | ⟨front, last, rfl⟩
  · rw [List.length_nil] at full
    omega
  · refine ⟨front, last, List.concat_eq_append, ?_⟩
    rw [← full, List.concat_eq_append, List.length_append, List.length_singleton]

/-- The rows behind the cursor are those that have not been read. -/
theorem Agrees.filter_eq {done rest : List α} (agrees : Agrees key limit (done ++ rest))
    (whole : limit ∣ done.length) :
    (done ++ rest).filter (below key (done.getLast?.map key)) = rest := by
  rcases List.eq_nil_or_concat done with rfl | ⟨front, last, rfl⟩
  · exact List.filter_eq_self.mpr fun _ _ => rfl
  rw [List.concat_eq_append] at agrees whole ⊢
  rw [List.length_append, List.length_singleton] at whole
  obtain ⟨before, behind⟩ := agrees front last rest
    (by rw [List.append_assoc, List.singleton_append]) whole
  rw [List.getLast?_append, List.getLast?_singleton, Option.some_or, Option.map_some,
    List.filter_append]
  have none : (front ++ [last]).filter (below key (some (key last))) = [] := by
    refine List.filter_eq_nil_iff.mpr fun row isIn passes => ?_
    have smaller : key row < key last := of_decide_eq_true passes
    rcases List.mem_append.mp isIn with isFront | isLast
    · exact absurd smaller (not_lt_of_ge (before row isFront))
    · obtain rfl := List.mem_singleton.mp isLast
      exact absurd smaller (lt_irrefl _)
  have all : rest.filter (below key (some (key last))) = rest :=
    List.filter_eq_self.mpr fun row isIn => decide_eq_true (behind row isIn)
  rw [none, all, List.nil_append]

theorem Agrees.cons_page {page rest front : List α} {last : α} (full : page.length = limit)
    (ends : page = front ++ [last]) (atLeast : ∀ row ∈ page, key last ≤ key row)
    (behind : ∀ row ∈ rest, key row < key last) (agrees : Agrees key limit rest) :
    Agrees key limit (page ++ rest) := by
  intro before final back isSplit atEnd
  by_cases firstEnd : before.length + 1 = limit
  · -- the end of the page itself
    have split : page ++ rest = before ++ [final] ++ back := by
      rw [List.append_assoc, List.singleton_append]
      exact isSplit
    obtain ⟨isPage, rfl⟩ := List.append_inj split (by
      rw [List.length_append, List.length_singleton, full, firstEnd])
    rw [ends] at isPage
    obtain ⟨rfl, isFinal⟩ := List.append_inj' isPage rfl
    obtain rfl := List.singleton_inj.mp isFinal
    exact ⟨fun row isIn => atLeast row (ends ▸ List.mem_append_left _ isIn), behind⟩
  -- a later end, of the rest
  have least : limit ≤ before.length + 1 := Nat.le_of_dvd (Nat.succ_pos _) atEnd
  have split : page ++ rest = before.take limit ++ (before.drop limit ++ final :: back) := by
    rw [← List.append_assoc, List.take_append_drop]
    exact isSplit
  obtain ⟨isPage, isRest⟩ := List.append_inj split (by
    rw [full, List.length_take]
    omega)
  have later : limit ∣ (before.drop limit).length + 1 := by
    have lengths : (before.drop limit).length + 1 = before.length + 1 - limit := by
      rw [List.length_drop]
      omega
    rw [lengths]
    exact Nat.dvd_sub atEnd (Nat.dvd_refl limit)
  obtain ⟨early, late⟩ := agrees _ final back isRest later
  refine ⟨fun row isIn => ?_, late⟩
  rw [← List.take_append_drop limit before] at isIn
  rcases List.mem_append.mp isIn with inPage | inRest
  · have finalBehind : final ∈ rest := by
      rw [isRest]
      exact List.mem_append_right _ List.mem_cons_self
    exact le_trans (le_of_lt (behind final finalBehind)) (atLeast row (isPage ▸ inPage))
  · exact early row inRest

section Sufficient

variable {family : List α → Prop} {rows : List α} {arrangements : Nat → List α}

theorem reads_rest (positive : 0 < limit) (splices : Splices key family)
    (members : ∀ list, family list → list.Perm rows)
    (agree : ∀ list, family list → Agrees key limit list)
    (arranged : ∀ call, family (arrangements call)) (size : Nat) :
    ∀ (done rest : List α) (call : Nat), rest.length ≤ size → family (done ++ rest) →
      limit ∣ done.length →
      ∃ fuel shown, read key limit (pagesOf key limit arrangements) fuel call
        (done.getLast?.map key) = some shown ∧ family (done ++ shown) := by
  induction size using Nat.strongRecOn with
  | _ size ih =>
    intro done rest call small isMember whole
    -- the rows of this call behind the cursor are the rest, arranged anew
    have behind : ((arrangements call).filter (below key (done.getLast?.map key))).Perm rest := by
      have same := (members _ (arranged call)).trans (members _ isMember).symm
      have filtered := same.filter (below key (done.getLast?.map key))
      rwa [(agree _ isMember).filter_eq whole] at filtered
    have spliced := splices done rest (arrangements call) _ isMember (arranged call) rfl behind
    generalize isNow : (arrangements call).filter (below key (done.getLast?.map key)) = now
      at behind spliced
    have isPage : pagesOf key limit arrangements call (done.getLast?.map key) = now.take limit := by
      rw [pagesOf, isNow]
    by_cases short : (now.take limit).length < limit
    · refine ⟨1, now, ?_, spliced⟩
      have allOfIt : now.take limit = now := by
        rw [List.length_take] at short
        exact List.take_of_length_le (by omega)
      rw [read]
      simp only [isPage]
      rw [if_pos short, allOfIt]
    have full : (now.take limit).length = limit := by
      rw [List.length_take] at short ⊢
      omega
    obtain ⟨front, last, ends, -⟩ := exists_last positive full
    have cursor : ((done ++ now.take limit).getLast?.map key) = some (key last) := by
      rw [ends, List.getLast?_append, List.getLast?_append, List.getLast?_singleton,
        Option.some_or, Option.some_or, Option.map_some]
    have shrinks : (now.drop limit).length < size := by
      have lengths := behind.length_eq
      rw [List.length_take] at full
      rw [List.length_drop]
      omega
    obtain ⟨fuel, shown, isShown, isFamily⟩ := ih _ shrinks (done ++ now.take limit)
      (now.drop limit) (call + 1) (Nat.le_refl _)
      (by rw [List.append_assoc, List.take_append_drop]; exact spliced)
      (by rw [List.length_append, full]; exact Nat.dvd_add whole (Nat.dvd_refl limit))
    rw [cursor] at isShown
    refine ⟨fuel + 1, now.take limit ++ shown, ?_, ?_⟩
    · rw [read]
      simp only [isPage]
      rw [if_neg short, ends, List.getLast?_append, List.getLast?_singleton, Option.some_or]
      simp only [isShown, Option.map_some]
    · rw [← List.append_assoc]
      exact isFamily

end Sufficient

/-! ## Pages that do not -/

section Necessary

variable {list : List α}

theorem mem_read (fuel : Nat) : ∀ (call : Nat) (cursor : Option κ) (shown : List α),
    read key limit (pagesOf key limit fun _ => list) fuel call cursor = some shown →
    ∀ row ∈ shown, below key cursor row = true := by
  induction fuel with
  | zero =>
    intro call cursor shown isRead
    cases isRead
  | succ fuel ih =>
    intro call cursor shown isRead row isIn
    have ofPage : ∀ row ∈ pagesOf key limit (fun _ => list) call cursor,
        below key cursor row = true := fun row isPage =>
      (List.mem_filter.mp (List.mem_of_mem_take isPage)).2
    rw [read] at isRead
    split at isRead
    · obtain rfl := Option.some.inj isRead
      exact ofPage row isIn
    split at isRead
    · cases isRead
    next last isLast =>
    obtain ⟨later, isLater, rfl⟩ := Option.map_eq_some_iff.mp isRead
    rcases List.mem_append.mp isIn with isPage | isNext
    · exact ofPage row isPage
    have smaller : key row < key last := of_decide_eq_true (ih _ _ _ isLater row isNext)
    have lastBelow := ofPage last (List.mem_of_getLast? isLast)
    cases cursor with
    | none => rfl
    | some => exact decide_eq_true (lt_trans smaller (of_decide_eq_true lastBelow))

theorem head_read (positive : 0 < limit) {fuel call : Nat} {cursor : Option κ} {shown : List α}
    {first : α} {rest : List α}
    (isRead : read key limit (pagesOf key limit fun _ => list) fuel call cursor = some shown)
    (isBehind : list.filter (below key cursor) = first :: rest) : first ∈ shown := by
  have inPage : first ∈ pagesOf key limit (fun _ => list) call cursor := by
    obtain ⟨more, rfl⟩ := Nat.exists_eq_succ_of_ne_zero (Nat.ne_of_gt positive)
    rw [pagesOf, isBehind, List.take_succ_cons]
    exact List.mem_cons_self
  cases fuel with
  | zero => cases isRead
  | succ =>
    rw [read] at isRead
    split at isRead
    · exact Option.some.inj isRead ▸ inPage
    split at isRead
    · cases isRead
    · obtain ⟨later, -, rfl⟩ := Option.map_eq_some_iff.mp isRead
      exact List.mem_append_left _ inPage

/-- **A reader that gets each of the remaining rows once** finds keys that agree with their
order. -/
theorem agrees_of_read (positive : 0 < limit) (distinct : (list.map key).Nodup) (fuel : Nat) :
    ∀ (call : Nat) (cursor : Option κ) (rest shown : List α),
      list.filter (below key cursor) = rest →
      read key limit (pagesOf key limit fun _ => list) fuel call cursor = some shown →
      shown.Perm rest → Agrees key limit rest := by
  induction fuel with
  | zero =>
    intro call cursor rest shown _ isRead
    cases isRead
  | succ fuel ih =>
    intro call cursor rest shown isRest isRead complete front last back isSplit atEnd
    have isPage : pagesOf key limit (fun _ => list) call cursor = rest.take limit := by
      rw [pagesOf, isRest]
    have distinctRest : (rest.map key).Nodup := by
      rw [← isRest]
      exact distinct.sublist (List.filter_sublist.map key)
    rw [read] at isRead
    simp only [isPage] at isRead
    split at isRead
    · next short =>
      -- a short page has no end of a full one
      have lengths := congrArg List.length isSplit
      rw [List.length_append, List.length_cons] at lengths
      rw [List.length_take] at short
      have least := Nat.le_of_dvd (Nat.succ_pos _) atEnd
      omega
    next notShort =>
    have full : (rest.take limit).length = limit := by
      rw [List.length_take] at notShort ⊢
      omega
    obtain ⟨before, final, ends, beforeLength⟩ := exists_last positive full
    have isFinal : (rest.take limit).getLast? = some final := by
      rw [ends, List.getLast?_append, List.getLast?_singleton, Option.some_or]
    rw [isFinal] at isRead
    obtain ⟨later, isLater, rfl⟩ := Option.map_eq_some_iff.mp isRead
    have restSplit : rest = rest.take limit ++ rest.drop limit :=
      (List.take_append_drop limit rest).symm
    have remaining : later.Perm (rest.drop limit) := by
      rw [restSplit] at complete
      have cut : (List.take limit rest ++ List.drop limit rest).take limit =
          rest.take limit := by
        rw [List.take_append_drop]
      rw [cut] at complete
      exact (List.perm_append_left_iff _).mp complete
    have behind : ∀ row ∈ rest.drop limit, key row < key final := fun row isIn =>
      of_decide_eq_true (mem_read fuel _ _ _ isLater row (remaining.mem_iff.mpr isIn))
    have finalBelow : below key cursor final = true := by
      have isIn : final ∈ rest := List.mem_of_mem_take (List.mem_of_getLast? isFinal)
      rw [← isRest] at isIn
      exact (List.mem_filter.mp isIn).2
    have refilter : list.filter (below key (some (key final))) =
        rest.filter (below key (some (key final))) := by
      rw [← isRest, List.filter_filter]
      refine List.filter_congr fun row _ => ?_
      cases smaller : below key (some (key final)) row with
      | false => rfl
      | true =>
        cases cursor with
        | none => rfl
        | some =>
          exact (decide_eq_true (lt_trans (of_decide_eq_true smaller)
            (of_decide_eq_true finalBelow))).symm
    -- none of this page is read again
    have noneAgain : (rest.take limit).filter (below key (some (key final))) = [] := by
      rcases isAgain : (rest.take limit).filter (below key (some (key final))) with
        _ | ⟨again, others⟩
      · rfl
      have found : again ∈ later := by
        have isBehind : list.filter (below key (some (key final))) =
            again :: (others ++ (rest.drop limit).filter (below key (some (key final)))) := by
          rw [refilter]
          conv_lhs => rw [restSplit]
          rw [List.filter_append, isAgain, List.cons_append]
        exact head_read positive isLater isBehind
      have inPage : again ∈ rest.take limit :=
        (List.mem_filter.mp (isAgain ▸ List.mem_cons_self)).1
      rw [restSplit, List.map_append] at distinctRest
      have apart := (List.nodup_append.mp distinctRest).2.2
      exact absurd rfl (apart _ (List.mem_map_of_mem inPage) _
        (List.mem_map_of_mem (remaining.mem_iff.mp found)))
    have atLeast : ∀ row ∈ rest.take limit, key final ≤ key row := by
      intro row isIn
      refine le_of_not_gt fun smaller => ?_
      have passes : row ∈ (rest.take limit).filter (below key (some (key final))) :=
        List.mem_filter.mpr ⟨isIn, decide_eq_true smaller⟩
      cases noneAgain ▸ passes
    have nextRest : list.filter (below key (some (key final))) = rest.drop limit := by
      rw [refilter]
      conv_lhs => rw [restSplit]
      rw [List.filter_append, noneAgain, List.nil_append]
      exact List.filter_eq_self.mpr fun row isIn => decide_eq_true (behind row isIn)
    have agrees := ih _ _ _ _ nextRest isLater remaining
    rw [restSplit] at isSplit
    exact Agrees.cons_page full ends atLeast behind agrees front last back isSplit atEnd

end Necessary

/-! ## When the reader gets each row once -/

/-- **One arrangement** can be continued by itself only. -/
theorem splices_singleton {list : List α} (distinct : list.Nodup) : Splices key (· = list) := by
  rintro done rest other cursor isList rfl - behind
  subst isList
  rw [List.filter_append] at behind ⊢
  have apart := (List.nodup_append.mp distinct).2.2
  have none : done.filter (below key cursor) = [] := by
    refine List.eq_nil_iff_forall_not_mem.mpr fun row isIn => ?_
    have isRest : row ∈ rest := behind.mem_iff.mp (List.mem_append_left _ isIn)
    exact apart row (List.mem_of_mem_filter isIn) row isRest rfl
  rw [none, List.nil_append] at behind ⊢
  have all : rest.filter (below key cursor) = rest :=
    List.filter_eq_self.mpr fun row isIn => (List.mem_filter.mp (behind.mem_iff.mpr isIn)).2
  rw [all]

/-- **All arrangements in an order** can be continued by each other. -/
theorem splices_sorted (r : α → α → Prop) (rows : List α) :
    Splices key fun list => list.Perm rows ∧ list.Pairwise r := by
  rintro done rest other cursor ⟨isRows, sorted⟩ ⟨-, otherSorted⟩ - behind
  obtain ⟨sortedDone, -, across⟩ := List.pairwise_append.mp sorted
  refine ⟨(behind.append_left done).trans isRows, List.pairwise_append.mpr
    ⟨sortedDone, otherSorted.sublist List.filter_sublist, fun row isDone next isNext => ?_⟩⟩
  exact across row isDone next (behind.mem_iff.mp isNext)

theorem reads_iff {family : List α → Prop} {rows : List α} {r : α → α → Prop}
    (positive : 0 < limit) (distinct : (rows.map key).Nodup) (splices : Splices key family)
    (members : ∀ list, family list → list.Perm rows ∧ list.Pairwise r) :
    (∀ arrangements : Nat → List α, (∀ call, family (arrangements call)) →
      Reads key limit r rows (pagesOf key limit arrangements)) ↔
    ∀ list, family list → Agrees key limit list := by
  constructor
  · intro reads list isMember
    obtain ⟨fuel, shown, isShown, complete, -⟩ := reads (fun _ => list) fun _ => isMember
    have isRows := (members list isMember).1
    refine agrees_of_read positive ((isRows.map key).nodup_iff.mpr distinct) fuel 0 none list shown
      ?_ isShown (complete.trans isRows.symm)
    exact List.filter_eq_self.mpr fun _ _ => rfl
  intro agree arrangements arranged
  obtain ⟨fuel, shown, isShown, isMember⟩ := reads_rest positive splices
    (fun list isMember => (members list isMember).1) agree arranged _ [] (arrangements 0) 0
    (Nat.le_refl _) (arranged 0) (Nat.dvd_zero limit)
  exact ⟨fuel, shown, isShown, members shown isMember⟩

end MessagingStack.KeysetPages

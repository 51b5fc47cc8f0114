import Mathlib.Data.List.Nodup
import Mathlib.Logic.Function.Iterate
import Mathlib.Tactic.Common

/-!
# Reading a list page by page

A list of rows is read through a cursor: a reader asks for what comes after a place, gets some
rows and a flag that says whether there is more, and goes on from its last row while the flag
is set (`walk`).  What it is answered is `serve rest`, where `rest` is what comes after the place
it asks from (`Serves`).

The pages of a walk are right if they are the rows, cut, and each flag says whether rows are left
(`Enumerates`).  `Tiles` is the shape of such a walk, and `walk_enumerates_iff` says when a walk
has it: exactly if the server is right at every place where an ideal division into its pages
begins one.
-/

namespace MessagingStack.Cursor

universe u v

variable {α : Type u} {κ : Type v}

/-- Where a reader is that began at `start` and has got the rows `done`. -/
def after (place : α → κ) (start : κ) (done : List α) : κ := (done.getLast?.map place).getD start

/-- What a reader that began at `start` is answered, wherever it is in `rows`. -/
def Serves {β : Type u} (ask : κ → β) (place : α → κ) (serve : List α → β) (start : κ)
    (rows : List α) : Prop :=
  ∀ done rest, rows = done ++ rest → ask (after place start done) = serve rest

/-- Ask, and go on from the last row while there is more. -/
def walk (ask : κ → Option (List α × Bool)) (place : α → κ) :
    Nat → κ → Option (List (List α × Bool))
  | 0, _ => none
  | fuel + 1, cursor =>
    match ask cursor with
    | none => none
    | some (page, false) => some [(page, false)]
    | some (page, true) =>
      match page.getLast? with
      | none => none
      | some last => (walk ask place fuel (place last)).map ((page, true) :: ·)

/-- The pages are the rows, each once and in order, and a flag is set exactly if a row is still
to come. -/
structure Enumerates (rows : List α) (pages : List (List α × Bool)) : Prop where
  cut : pages.flatMap Prod.fst = rows
  more : ∀ before page after, pages = before ++ page :: after →
    (page.2 = true ↔ ∃ row ∈ rows, ∀ earlier ∈ before ++ [page], row ∉ earlier.1)

/-- The pages cut the rows, and the last one, and no other, says that there is no more. -/
inductive Tiles : List α → List (List α × Bool) → Prop
  | last (rows : List α) : Tiles rows [(rows, false)]
  | cons {page rest : List α} {pages : List (List α × Bool)} (isRest : rest ≠ [])
      (others : Tiles rest pages) : Tiles (page ++ rest) ((page, true) :: pages)

/-! ## Places -/

section Places

variable {β : Type u} {ask : κ → β} {place : α → κ} {serve : List α → β} {start : κ}

@[simp] theorem after_nil : after place start [] = start := rfl

theorem after_append (first second : List α) :
    after place start (first ++ second) = after place (after place start first) second := by
  unfold after
  rw [List.getLast?_append]
  cases second.getLast? <;> rfl

theorem after_of_getLast? {rows : List α} {last : α} (isLast : rows.getLast? = some last) :
    after place start rows = place last := by
  rw [after, isLast]
  rfl

/-- A reader that has got some rows is answered as one that begins there. -/
theorem Serves.drop {done rest : List α} (serves : Serves ask place serve start (done ++ rest)) :
    Serves ask place serve (after place start done) rest := by
  intro first second isRest
  rw [← after_append]
  exact serves (done ++ first) second (by rw [isRest, List.append_assoc])

theorem Serves.head {rows : List α} (serves : Serves ask place serve start rows) :
    ask start = serve rows := serves [] rows rfl

end Places

/-! ## Tilings -/

theorem Tiles.enumerates {rows : List α} {pages : List (List α × Bool)}
    (tiles : Tiles rows pages) (distinct : rows.Nodup) : Enumerates rows pages := by
  induction tiles with
  | last rows =>
    refine ⟨by simp, fun before page after isSplit => ?_⟩
    obtain ⟨rfl, rfl, rfl⟩ : before = [] ∧ page = (rows, false) ∧ after = [] := by
      cases before with
      | nil =>
        obtain ⟨isPage, isAfter⟩ := List.cons.inj isSplit
        exact ⟨rfl, isPage.symm, isAfter.symm⟩
      | cons =>
        have absent := (List.cons.inj isSplit).2
        exact absurd absent.symm (by simp)
    simp
  | @cons page rest pages isRest _ ih =>
    obtain ⟨-, distinctRest, apart⟩ := List.nodup_append.mp distinct
    obtain ⟨isRows, isMore⟩ := ih distinctRest
    refine ⟨by rw [List.flatMap_cons, isRows], fun before other after isSplit => ?_⟩
    cases before with
    | nil =>
      obtain ⟨rfl, -⟩ := List.cons.inj isSplit
      obtain ⟨row, isIn⟩ := List.exists_mem_of_ne_nil rest isRest
      refine ⟨fun _ => ⟨row, List.mem_append_right _ isIn, ?_⟩, fun _ => rfl⟩
      intro earlier isEarlier isOld
      rw [List.nil_append, List.mem_singleton] at isEarlier
      subst isEarlier
      exact apart row isOld row isIn rfl
    | cons first before =>
      obtain ⟨rfl, isTail⟩ := List.cons.inj isSplit
      rw [isMore before other after isTail]
      constructor
      · rintro ⟨row, isIn, isNew⟩
        refine ⟨row, List.mem_append_right _ isIn, fun earlier isEarlier => ?_⟩
        rcases List.mem_cons.mp isEarlier with rfl | isEarlier
        · exact fun isOld => apart row isOld row isIn rfl
        · exact isNew earlier isEarlier
      rintro ⟨row, isIn, isNew⟩
      have notOld : row ∉ page := isNew (page, true) (by simp)
      refine ⟨row, (List.mem_append.mp isIn).resolve_left notOld, fun earlier isEarlier => ?_⟩
      exact isNew earlier (List.mem_cons_of_mem _ isEarlier)

/-! ## Walks -/

/-- What is left after the page the server gives. -/
def next (serve : List α → Option (List α × Bool)) (rest : List α) : List α :=
  match serve rest with
  | none => rest
  | some (page, _) => rest.drop page.length

/-- The server is right at `rest`: it answers, and its flag says whether rows are left. -/
def Right (serve : List α → Option (List α × Bool)) (rest : List α) : Prop :=
  ∃ page more, serve rest = some (page, more) ∧ (more = true ↔ page.length < rest.length)

/-- A server gives the first rows of what is left, and some if there are any. -/
structure Cuts (serve : List α → Option (List α × Bool)) : Prop where
  isPrefix : ∀ {rest page more}, serve rest = some (page, more) → page <+: rest
  nonempty : ∀ {rest page more}, serve rest = some (page, more) → rest ≠ [] → page ≠ []

theorem mem_walk {ask : κ → Option (List α × Bool)} {place : α → κ} {fuel : Nat} {start : κ}
    {pages : List (List α × Bool)} (walked : walk ask place fuel start = some pages) :
    ∀ page ∈ pages, ∃ cursor, ask cursor = some page := by
  induction fuel generalizing start pages with
  | zero => cases walked
  | succ fuel ih =>
    unfold walk at walked
    split at walked
    · cases walked
    · next page isPage =>
      cases walked
      intro other isIn
      exact ⟨start, (List.mem_singleton.mp isIn) ▸ isPage⟩
    next page isPage =>
    split at walked
    · cases walked
    obtain ⟨others, goesOn, rfl⟩ := Option.map_eq_some_iff.mp walked
    intro other isIn
    rcases List.mem_cons.mp isIn with rfl | isIn
    · exact ⟨start, isPage⟩
    · exact ih goesOn other isIn

section Walks

variable {ask : κ → Option (List α × Bool)} {place : α → κ}
  {serve : List α → Option (List α × Bool)} {At : κ → List α → Prop} {start : κ} {rows : List α}

theorem Cuts.next_eq (cuts : Cuts serve) {rest page : List α} {more : Bool}
    (isPage : serve rest = some (page, more)) : page ++ next serve rest = rest := by
  obtain ⟨left, rfl⟩ := cuts.isPrefix isPage
  unfold next
  rw [isPage]
  simp

/-- What a reader is answered at the places it comes to: `At cursor rest` says that `rest` comes
after the cursor. -/
structure Follows (ask : κ → Option (List α × Bool)) (place : α → κ)
    (serve : List α → Option (List α × Bool)) (At : κ → List α → Prop) : Prop where
  answer : ∀ {cursor rest}, At cursor rest → ask cursor = serve rest
  goOn : ∀ {cursor rest page last}, At cursor rest → serve rest = some (page, true) →
    page.getLast? = some last → At (place last) (next serve rest)

theorem Serves.follows (cuts : Cuts serve) :
    Follows ask place serve (Serves ask place serve) where
  answer := Serves.head
  goOn := by
    intro cursor rest page last serves isPage isLast
    have isPlace : after place cursor page = place last := after_of_getLast? isLast
    rw [← isPlace]
    refine Serves.drop ?_
    rw [cuts.next_eq isPage]
    exact serves

theorem walk_tiles (cuts : Cuts serve) (follows : Follows ask place serve At)
    (isAt : At start rows) (right : ∀ count, Right serve ((next serve)^[count] rows)) :
    ∃ fuel pages, walk ask place fuel start = some pages ∧ Tiles rows pages := by
  induction length : rows.length using Nat.strongRecOn generalizing rows start with
  | _ size ih =>
    obtain ⟨page, more, isPage, isMore⟩ := right 0
    have isPage : serve rows = some (page, more) := isPage
    have isMore : more = true ↔ page.length < rows.length := isMore
    have asked := (follows.answer isAt).trans isPage
    have cut := cuts.next_eq isPage
    cases more with
    | false =>
      -- nothing is left, so the page is all
      have isAll : page = rows := by
        obtain ⟨left, rfl⟩ := cuts.isPrefix isPage
        have none : ¬page.length < (page ++ left).length := fun less => by
          simpa using isMore.mpr less
        rw [List.length_append] at none
        rw [List.length_eq_zero_iff.mp (by omega : left.length = 0), List.append_nil]
      refine ⟨1, [(page, false)], ?_, isAll ▸ .last page⟩
      rw [walk, asked]
    | true =>
      have less := isMore.mp rfl
      have someRows : rows ≠ [] := List.ne_nil_of_length_pos (by omega)
      have somePage := cuts.nonempty isPage someRows
      obtain ⟨last, isLast⟩ := List.getLast?_isSome.mpr somePage |> Option.isSome_iff_exists.mp
      have isShorter : (next serve rows).length < size := by
        have total := congrArg List.length cut
        rw [List.length_append] at total
        have := List.length_pos_of_ne_nil somePage
        omega
      have atRest := follows.goOn isAt isPage isLast
      obtain ⟨fuel, pages, walked, tiles⟩ :=
        ih _ isShorter atRest (fun count => right (count + 1)) rfl
      have isRest : next serve rows ≠ [] := by
        intro isNil
        rw [isNil, List.append_nil] at cut
        rw [cut] at less
        exact absurd less (Nat.lt_irrefl _)
      refine ⟨fuel + 1, (page, true) :: pages, ?_, ?_⟩
      · rw [walk, asked]
        simp only [isLast, walked, Option.map_some]
      · have tiled : Tiles (page ++ next serve rows) ((page, true) :: pages) := .cons isRest tiles
        rw [cut] at tiled
        exact tiled

theorem right_of_walk (cuts : Cuts serve) (follows : Follows ask place serve At)
    (isAt : At start rows) (atEnd : Right serve []) (distinct : rows.Nodup) {fuel : Nat}
    {pages : List (List α × Bool)}
    (walked : walk ask place fuel start = some pages) (enumerates : Enumerates rows pages) :
    ∀ count, Right serve ((next serve)^[count] rows) := by
  induction fuel generalizing rows start pages with
  | zero => cases walked
  | succ fuel ih =>
    rw [walk, follows.answer isAt] at walked
    cases isServed : serve rows with
    | none => cases isServed ▸ walked
    | some answer =>
      obtain ⟨page, more⟩ := answer
      rw [isServed] at walked
      have cut := cuts.next_eq isServed
      have distinctCut : (page ++ next serve rows).Nodup := by rwa [cut]
      obtain ⟨-, distinctRest, apart⟩ := List.nodup_append.mp distinctCut
      cases more with
      | false =>
        simp only [Option.some.injEq] at walked
        subst walked
        have isAll : page = rows := by simpa using enumerates.cut
        have noRest : next serve rows = [] := by
          rw [isAll] at cut
          exact List.append_right_eq_self.mp cut
        have stays : ∀ count, (next serve)^[count] [] = [] := by
          intro count
          refine Function.iterate_fixed ?_ count
          unfold next
          obtain ⟨nilPage, nilMore, isNil, -⟩ := atEnd
          rw [isNil]
          exact List.drop_nil
        intro count
        cases count with
        | zero =>
          refine ⟨page, false, isServed, ?_⟩
          simp [isAll]
        | succ =>
          rw [Function.iterate_succ_apply, noRest, stays]
          exact atEnd
      | true =>
        cases isLast : page.getLast? with
        | none =>
          simp only [isLast] at walked
          cases walked
        | some =>
          simp only [isLast, Option.map_eq_some_iff] at walked
          obtain ⟨others, walked, rfl⟩ := walked
          have isRows : page ++ others.flatMap Prod.fst = rows := by simpa using enumerates.cut
          have isRest : others.flatMap Prod.fst = next serve rows :=
            List.append_cancel_left (isRows.trans cut.symm)
          have atRest := follows.goOn isAt isServed isLast
          have enumeratesRest : Enumerates (next serve rows) others := by
            refine ⟨isRest, fun before other after isSplit => ?_⟩
            rw [enumerates.more ((page, true) :: before) other after (by rw [isSplit]; rfl)]
            constructor
            · rintro ⟨row, isIn, isNew⟩
              have notOld : row ∉ page := isNew (page, true) (by simp)
              rw [← cut] at isIn
              refine ⟨row, (List.mem_append.mp isIn).resolve_left notOld,
                fun earlier isEarlier => ?_⟩
              exact isNew earlier (List.mem_cons_of_mem _ isEarlier)
            rintro ⟨row, isIn, isNew⟩
            refine ⟨row, cut ▸ List.mem_append_right _ isIn, fun earlier isEarlier => ?_⟩
            rcases List.mem_cons.mp isEarlier with rfl | isEarlier
            · exact fun isOld => apart row isOld row isIn rfl
            · exact isNew earlier isEarlier
          intro count
          cases count with
          | zero =>
            refine ⟨page, true, isServed, fun _ => ?_, fun _ => rfl⟩
            obtain ⟨row, isIn, isNew⟩ := (enumerates.more [] (page, true) others rfl).mp rfl
            have notOld : row ∉ page := isNew (page, true) (by simp)
            rw [← cut] at isIn
            have left := List.length_pos_of_mem ((List.mem_append.mp isIn).resolve_left notOld)
            show page.length < rows.length
            rw [← cut, List.length_append]
            omega
          | succ count => exact ih atRest distinctRest walked enumeratesRest count

theorem walk_enumerates_iff (cuts : Cuts serve) (follows : Follows ask place serve At)
    (isAt : At start rows) (atEnd : Right serve []) (distinct : rows.Nodup) :
    (∃ fuel pages, walk ask place fuel start = some pages ∧ Enumerates rows pages) ↔
      ∀ count, Right serve ((next serve)^[count] rows) := by
  constructor
  · rintro ⟨fuel, pages, walked, enumerates⟩
    exact right_of_walk cuts follows isAt atEnd distinct walked enumerates
  · intro right
    obtain ⟨fuel, pages, walked, tiles⟩ := walk_tiles cuts follows isAt right
    exact ⟨fuel, pages, walked, tiles.enumerates distinct⟩

end Walks

end MessagingStack.Cursor

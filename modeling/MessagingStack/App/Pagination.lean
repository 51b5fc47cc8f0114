import Mathlib.Data.List.Induction
import Mathlib.Data.List.Nodup
import Mathlib.Tactic.SplitIfs
import MessagingStack.Base.Text

/-!
# The two pagers

`collectAllPages` and `nextPageRequest` of the chat app's `lib/pagination.ts`.  The first keeps the
first total that a page reports, the second looks at that of the last page.  They agree exactly if
the two decide alike wherever nothing else ends the walk (`pagers_agree_iff`).
-/

namespace MessagingStack.App.Pagination

/-! ## The program -/

def maxPageLimit : Nat := 100

def defaultMaxPages : Int := 50

structure PageRequest where
  limit : Nat
  offset : Nat
  deriving DecidableEq

structure PageResult (T : Type) where
  items : List T
  totalCount : Option Int
  pagingSupported : Option Bool

/-- A fetcher is a function of its request, and may reject. -/
abbrev PageFetcher (T ε : Type) := PageRequest → Except ε (PageResult T)

inductive StopReason where
  | emptyPage
  | shortPage
  | totalCount
  | noProgress
  | maxPages
  | unsupported
  | error
  deriving DecidableEq

def isCompleteReason (reason : StopReason) : Bool :=
  reason = .emptyPage || reason = .shortPage || reason = .totalCount

structure CollectResult (T ε : Type) where
  items : List T
  totalCount : Option Int
  complete : Bool
  reason : StopReason
  pages : Nat
  partialError : Option ε

/-- `clampLimit` of a finite number, as the integer it is truncated to, or of anything else. -/
def clampLimit (limit : Option Int) : Nat :=
  match limit with
  | none => maxPageLimit
  | some limit => (min (max limit 1) maxPageLimit).toNat

def pageBound (maxPages : Option Int) : Nat := (max 1 (maxPages.getD defaultMaxPages)).toNat

variable {T ε κ : Type} [DecidableEq κ] (fetchPage : PageFetcher T ε) (keyOf : T → κ)

/-- The loop over the rows of a page; `seen` has the keys of `items`. -/
def addRows (items rows : List T) : List T :=
  rows.foldl (fun items row => if keyOf row ∈ items.map keyOf then items else items ++ [row]) items

def reached (totalCount : Option Int) (count : Nat) : Bool :=
  totalCount.any fun total => decide (total ≤ (count : Int))

/-- The variables of `collectAllPages`. -/
structure Walk (T : Type) where
  items : List T
  totalCount : Option Int
  offset : Nat
  pages : Nat

def Walk.finish (walk : Walk T) (reason : StopReason) (partialError : Option ε) :
    CollectResult T ε :=
  ⟨walk.items, walk.totalCount, isCompleteReason reason, reason, walk.pages, partialError⟩

/-- The rows and the total of a page are taken. -/
def Walk.take (walk : Walk T) (page : PageResult T) : Walk T where
  items := addRows keyOf walk.items page.items
  totalCount := walk.totalCount.or page.totalCount
  offset := walk.offset
  pages := walk.pages + 1

/-- The rules that end the walk, in their order. -/
def stopReason (limit : Nat) (page : PageResult T) (walk : Walk T) (added : Nat) :
    Option StopReason :=
  if page.pagingSupported = some false then some .unsupported
  else if page.items.length = 0 then some .emptyPage
  else if page.items.length < limit then some .shortPage
  else if reached walk.totalCount walk.items.length then some .totalCount
  else if added = 0 then some .noProgress
  else none

/-- The loop of `collectAllPages`, while `left` pages are allowed: the requests it issues, and the
result. -/
def collectFrom (limit : Nat) : Nat → Walk T →
    List PageRequest × Except ε (CollectResult T ε)
  | 0, walk => ([], .ok (walk.finish .maxPages none))
  | left + 1, walk =>
    match fetchPage ⟨limit, walk.offset⟩ with
    | .error reason =>
      ([⟨limit, walk.offset⟩],
        if walk.pages = 0 then .error reason else .ok (walk.finish .error (some reason)))
    | .ok page =>
      let next := walk.take keyOf page
      match stopReason limit page next (next.items.length - walk.items.length) with
      | some reason => ([⟨limit, walk.offset⟩], .ok (next.finish reason none))
      | none =>
        let rest := collectFrom limit left { next with offset := walk.offset + page.items.length }
        (⟨limit, walk.offset⟩ :: rest.1, rest.2)

def collectAllPages (limit maxPages : Option Int) :
    List PageRequest × Except ε (CollectResult T ε) :=
  collectFrom fetchPage keyOf (clampLimit limit) (pageBound maxPages) ⟨[], none, 0, 0⟩

structure PagedPage (T : Type) extends PageResult T where
  request : PageRequest

def addKeys (keys new : List κ) : List κ :=
  new.foldl (fun keys key => if key ∈ keys then keys else keys ++ [key]) keys

def nextPageRequest (allPages : List (PagedPage T)) : Option PageRequest :=
  match allPages.getLast? with
  | none => none
  | some last =>
    if last.pagingSupported = some false then none
    else if last.items.length = 0 then none
    else if last.items.length < last.request.limit then none
    else
      let before := allPages.dropLast.foldl
        (fun keys page => addKeys keys (page.items.map keyOf)) []
      let collected := addKeys before (last.items.map keyOf)
      if reached last.totalCount collected.length then none
      else if collected.length - before.length = 0 then none
      else some ⟨last.request.limit, last.request.offset + last.items.length⟩

def flattenPages (pages : List (PagedPage T)) : List T :=
  pages.foldl (fun out page => addRows keyOf out page.items) []

def pagesTotalCount (pages : List (PagedPage T)) : Option Int := pages.findSome? (·.totalCount)

def drive : Nat → List (PagedPage T) → Option PageRequest →
    List PageRequest × List (PagedPage T)
  | 0, pages, _ => ([], pages)
  | _, pages, none => ([], pages)
  | left + 1, pages, some request =>
    match fetchPage request with
    | .error _ => ([request], pages)
    | .ok page =>
      let rest := drive left (pages ++ [⟨page, request⟩])
        (nextPageRequest keyOf (pages ++ [⟨page, request⟩]))
      (request :: rest.1, rest.2)

/-! ## Rows and keys -/

variable {keyOf}

variable (keyOf) in
theorem map_addRows (items rows : List T) :
    (addRows keyOf items rows).map keyOf = addKeys (items.map keyOf) (rows.map keyOf) := by
  unfold addRows addKeys
  induction rows generalizing items with
  | nil => rfl
  | cons row rows ih =>
    rw [List.foldl_cons, List.map_cons, List.foldl_cons, ih]
    split_ifs
    · rfl
    · rw [List.map_append]
      rfl

theorem nodup_addRows {items : List T} (rows : List T) (distinct : (items.map keyOf).Nodup) :
    ((addRows keyOf items rows).map keyOf).Nodup := by
  unfold addRows
  induction rows generalizing items with
  | nil => exact distinct
  | cons row rows ih =>
    rw [List.foldl_cons]
    refine ih ?_
    split_ifs with isIn
    · exact distinct
    · rw [List.map_append, List.map_singleton]
      exact List.nodup_append.mpr ⟨distinct, List.nodup_singleton _, fun key isKey other isRow same =>
        isIn (by rwa [← List.mem_singleton.mp isRow, ← same])⟩

theorem addRows_fresh {items rows : List T} (distinct : ((items ++ rows).map keyOf).Nodup) :
    addRows keyOf items rows = items ++ rows := by
  unfold addRows
  induction rows generalizing items with
  | nil => rw [List.append_nil, List.foldl_nil]
  | cons row rows ih =>
    have whole : items ++ row :: rows = items ++ [row] ++ rows := by
      rw [List.append_assoc, List.singleton_append]
    have fresh : keyOf row ∉ items.map keyOf := by
      rw [List.map_append, List.nodup_append] at distinct
      exact fun isIn => distinct.2.2 _ isIn _ List.mem_cons_self rfl
    rw [List.foldl_cons, if_neg fresh, whole]
    rw [whole] at distinct
    exact ih distinct

theorem flattenPages_concat (pages : List (PagedPage T)) (page : PagedPage T) :
    flattenPages keyOf (pages ++ [page]) =
      addRows keyOf (flattenPages keyOf pages) page.items := by
  unfold flattenPages
  rw [List.foldl_append]
  rfl

variable (keyOf) in
theorem map_flattenPages (pages : List (PagedPage T)) :
    (flattenPages keyOf pages).map keyOf =
      pages.foldl (fun keys page => addKeys keys (page.items.map keyOf)) [] := by
  induction pages using List.reverseRecOn with
  | nil => rfl
  | append_singleton pages page ih =>
    rw [flattenPages_concat, map_addRows keyOf, ih, List.foldl_append]
    rfl

/-! ## Agreement -/

/-- None of the rules but the total ends the walk after this page. -/
def Goes (limit : Nat) (page : PageResult T) (added : Nat) : Prop :=
  page.pagingSupported ≠ some false ∧ page.items.length ≠ 0 ∧ ¬ page.items.length < limit ∧
    added ≠ 0

instance (limit added : Nat) (page : PageResult T) : Decidable (Goes limit page added) :=
  inferInstanceAs (Decidable (_ ∧ _))

theorem stopReason_none_iff (limit added : Nat) (page : PageResult T) (walk : Walk T) :
    stopReason limit page walk added = none ↔
      Goes limit page added ∧ reached walk.totalCount walk.items.length = false := by
  unfold stopReason Goes
  split_ifs <;> simp_all

variable (keyOf) in
theorem nextPageRequest_concat (pages : List (PagedPage T)) (page : PageResult T)
    (request : PageRequest) :
    nextPageRequest keyOf (pages ++ [⟨page, request⟩]) =
      if Goes request.limit page
            ((flattenPages keyOf (pages ++ [⟨page, request⟩])).length -
              (flattenPages keyOf pages).length) ∧
          reached page.totalCount (flattenPages keyOf (pages ++ [⟨page, request⟩])).length = false
      then some ⟨request.limit, request.offset + page.items.length⟩ else none := by
  have before := map_flattenPages keyOf pages
  have after := map_addRows keyOf (flattenPages keyOf pages) page.items
  unfold nextPageRequest
  rw [List.getLast?_concat, List.dropLast_concat, flattenPages_concat]
  dsimp only
  rw [← before, ← after, List.length_map, List.length_map]
  unfold Goes
  split_ifs <;> simp_all

/-- Where nothing else ends the walk, before the last page that is allowed, the first total that was
reported and that of the page itself decide alike. -/
def TotalsAgree (keyOf : T → κ) (limit : Nat) : Nat → List (PagedPage T) → Nat → Prop
  | 0, _, _ => True
  | left + 1, pages, offset =>
    match fetchPage ⟨limit, offset⟩ with
    | .error _ => True
    | .ok page =>
      let loaded := pages ++ [⟨page, ⟨limit, offset⟩⟩]
      let rows := flattenPages keyOf loaded
      Goes limit page (rows.length - (flattenPages keyOf pages).length) → left ≠ 0 →
        reached (pagesTotalCount loaded) rows.length = reached page.totalCount rows.length ∧
        (reached page.totalCount rows.length = false →
          TotalsAgree keyOf limit left loaded (offset + page.items.length))

/-- The two pagers issue the same requests, and have the same rows at the end. -/
def Agree (collected : List PageRequest × Except ε (CollectResult T ε))
    (driven : List PageRequest × List (PagedPage T)) (keyOf : T → κ) : Prop :=
  driven.1 = collected.1 ∧
    ∀ result, collected.2 = .ok result → flattenPages keyOf driven.2 = result.items

theorem agree_cons {request : PageRequest} {collected : List PageRequest × Except ε (CollectResult T ε)}
    {driven : List PageRequest × List (PagedPage T)} :
    Agree (request :: collected.1, collected.2) (request :: driven.1, driven.2) keyOf ↔
      Agree collected driven keyOf := by
  unfold Agree
  rw [List.cons.injEq]
  exact and_congr_left fun _ => ⟨And.right, fun same => ⟨rfl, same⟩⟩

theorem collectFrom_ne_nil (limit left : Nat) (walk : Walk T) :
    (collectFrom fetchPage keyOf limit (left + 1) walk).1 ≠ [] := by
  unfold collectFrom
  cases fetchPage ⟨limit, walk.offset⟩ with
  | error reason => exact List.cons_ne_nil _ _
  | ok page =>
    dsimp only
    split <;> exact List.cons_ne_nil _ _

theorem drive_ne_nil (left : Nat) (pages : List (PagedPage T)) (request : PageRequest) :
    (drive fetchPage keyOf (left + 1) pages (some request)).1 ≠ [] := by
  unfold drive
  cases fetchPage request <;> exact List.cons_ne_nil _ _

theorem drive_none (left : Nat) (pages : List (PagedPage T)) :
    drive fetchPage keyOf left pages none = ([], pages) := by
  cases left <;> rfl

theorem agree_iff (limit left : Nat) (walk : Walk T) (pages : List (PagedPage T))
    (items : walk.items = flattenPages keyOf pages)
    (total : walk.totalCount = pagesTotalCount pages) :
    Agree (collectFrom fetchPage keyOf limit left walk)
        (drive fetchPage keyOf left pages (some ⟨limit, walk.offset⟩)) keyOf ↔
      TotalsAgree fetchPage keyOf limit left pages walk.offset := by
  induction left generalizing walk pages with
  | zero =>
    refine iff_of_true ⟨rfl, fun result isResult => ?_⟩ trivial
    cases isResult
    exact items.symm
  | succ left ih =>
    unfold collectFrom drive TotalsAgree
    cases fetchPage ⟨limit, walk.offset⟩ with
    | error reason =>
      refine iff_of_true ⟨rfl, fun result isResult => ?_⟩ trivial
      dsimp only at isResult
      split_ifs at isResult
      cases isResult
      exact items.symm
    | ok page =>
      dsimp only
      have isNext := nextPageRequest_concat keyOf pages page ⟨limit, walk.offset⟩
      have rows : (walk.take keyOf page).items =
          flattenPages keyOf (pages ++ [⟨page, ⟨limit, walk.offset⟩⟩]) := by
        rw [flattenPages_concat, ← items]
        rfl
      have totals : (walk.take keyOf page).totalCount =
          pagesTotalCount (pages ++ [⟨page, ⟨limit, walk.offset⟩⟩]) := by
        unfold pagesTotalCount Walk.take
        rw [List.findSome?_append, total]
        cases isTotal : page.totalCount <;> simp [pagesTotalCount, isTotal]
      generalize pages ++ [(⟨page, ⟨limit, walk.offset⟩⟩ : PagedPage T)] = loaded at *
      have isStop := stopReason_none_iff limit
        ((walk.take keyOf page).items.length - walk.items.length) page (walk.take keyOf page)
      rw [rows, totals, items] at isStop
      rw [rows, items]
      have same : (walk.take keyOf page).items = flattenPages keyOf loaded := rows
      cases isReason : stopReason limit page (walk.take keyOf page)
        ((flattenPages keyOf loaded).length - (flattenPages keyOf pages).length) with
      | some reason =>
        have ends := fun goes first => Option.some_ne_none reason
          (isReason.symm.trans (isStop.mpr ⟨goes, first⟩))
        by_cases more : Goes limit page ((flattenPages keyOf loaded).length -
            (flattenPages keyOf pages).length) ∧
          reached page.totalCount (flattenPages keyOf loaded).length = false
        · -- only the first total ends the walk
          have first := eq_true_of_ne_false (ends more.1)
          rw [isNext, if_pos more]
          cases left with
          | zero =>
            refine iff_of_true ⟨rfl, fun result isResult => ?_⟩ fun _ none => absurd rfl none
            cases isResult
            exact same.symm
          | succ left =>
            refine iff_of_false (fun agree => ?_) fun holds => ?_
            · exact drive_ne_nil fetchPage left loaded _ (List.cons.inj agree.1).2
            · have alike := (holds more.1 (Nat.succ_ne_zero left)).1
              rw [first, more.2] at alike
              cases alike
        · rw [isNext, if_neg more, drive_none]
          refine iff_of_true ⟨rfl, fun result isResult => ?_⟩ fun goes _ => ?_
          · cases isResult
            exact same.symm
          · have last := eq_true_of_ne_false fun open_ => more ⟨goes, open_⟩
            rw [eq_true_of_ne_false (ends goes), last]
            exact ⟨rfl, nofun⟩
      | none =>
        obtain ⟨goes, first⟩ := isStop.mp isReason
        by_cases last : reached page.totalCount (flattenPages keyOf loaded).length = false
        · rw [isNext, if_pos ⟨goes, last⟩]
          refine agree_cons.trans ((ih ⟨flattenPages keyOf loaded, (walk.take keyOf page).totalCount,
            walk.offset + page.items.length, (walk.take keyOf page).pages⟩ loaded rfl totals).trans ?_)
          refine ⟨fun holds _ _ => ⟨first.trans last.symm, fun _ => holds⟩, fun holds => ?_⟩
          cases left with
          | zero => trivial
          | succ left => exact (holds goes (Nat.succ_ne_zero left)).2 last
        · -- only the last total ends the walk
          rw [isNext, if_neg fun more => last more.2, drive_none]
          cases left with
          | zero =>
            refine iff_of_true ⟨rfl, fun result isResult => ?_⟩ fun _ none => absurd rfl none
            cases isResult
            rfl
          | succ left =>
            refine iff_of_false (fun agree => ?_) fun holds => ?_
            · exact collectFrom_ne_nil fetchPage limit left _ (List.cons.inj agree.1).2.symm
            · exact last ((holds goes (Nat.succ_ne_zero left)).1.symm.trans first)

/-! ## Complete lists -/

theorem nodup_collectFrom (limit left : Nat) (walk : Walk T)
    (distinct : (walk.items.map keyOf).Nodup) (result : CollectResult T ε)
    (isResult : (collectFrom fetchPage keyOf limit left walk).2 = .ok result) :
    (result.items.map keyOf).Nodup := by
  induction left generalizing walk with
  | zero =>
    cases isResult
    exact distinct
  | succ left ih =>
    unfold collectFrom at isResult
    split at isResult
    · dsimp only at isResult
      split_ifs at isResult
      cases isResult
      exact distinct
    · next page _ =>
      have taken : ((walk.take keyOf page).items.map keyOf).Nodup := nodup_addRows _ distinct
      dsimp only at isResult
      split at isResult
      · cases isResult
        exact taken
      · exact ih { walk.take keyOf page with offset := walk.offset + page.items.length } taken
          isResult

/-- The pages are slices of one list without duplicate keys, with no total or the true one. -/
structure Serves (keyOf : T → κ) (rows : List T) : Prop where
  distinct : (rows.map keyOf).Nodup
  slices : ∀ request, ∃ total supported,
    fetchPage request = .ok ⟨(rows.drop request.offset).take request.limit, total, supported⟩ ∧
      (total = none ∨ total = some (rows.length : Int))

theorem stopReason_complete {limit added : Nat} {page : PageResult T} {walk : Walk T}
    {reason : StopReason} (isReason : stopReason limit page walk added = some reason)
    (complete : isCompleteReason reason = true) :
    page.items.length = 0 ∨ page.items.length < limit ∨
      reached walk.totalCount walk.items.length = true := by
  unfold stopReason at isReason
  split_ifs at isReason <;> cases isReason <;> simp_all [isCompleteReason]

theorem complete_collectFrom {rows : List T} (serves : Serves fetchPage keyOf rows) {limit : Nat}
    (positive : 0 < limit) (left : Nat) (walk : Walk T)
    (items : walk.items = rows.take walk.offset)
    (total : walk.totalCount = none ∨ walk.totalCount = some (rows.length : Int))
    (result : CollectResult T ε)
    (isResult : (collectFrom fetchPage keyOf limit left walk).2 = .ok result)
    (complete : result.complete = true) : result.items = rows := by
  induction left generalizing walk with
  | zero =>
    cases isResult
    cases complete
  | succ left ih =>
    obtain ⟨pageTotal, supported, isPage, isTotal⟩ := serves.slices ⟨limit, walk.offset⟩
    unfold collectFrom at isResult
    rw [isPage] at isResult
    dsimp only at isResult
    generalize isTaken : walk.take keyOf
      ⟨(rows.drop walk.offset).take limit, pageTotal, supported⟩ = taken at isResult
    have takenItems : taken.items = rows.take (walk.offset + limit) := by
      have distinct := serves.distinct
      rw [← List.take_append_drop (walk.offset + limit) rows, List.map_append,
        List.nodup_append, List.take_add] at distinct
      rw [← isTaken, List.take_add, ← addRows_fresh distinct.1, ← items]
      rfl
    have takenTotal : taken.totalCount = none ∨ taken.totalCount = some (rows.length : Int) := by
      rw [← isTaken]
      change walk.totalCount.or pageTotal = none ∨ walk.totalCount.or pageTotal = some _
      rcases total with missing | known
      · rw [missing]
        exact isTotal
      · rw [known]
        exact .inr rfl
    split at isResult
    · next reason isReason =>
      cases isResult
      -- every complete reason says that the page went to the end of the list
      have ends : rows.length ≤ walk.offset + limit := by
        rcases stopReason_complete isReason complete with empty | short | all
        · rw [List.length_take, List.length_drop] at empty
          omega
        · rw [List.length_take, List.length_drop] at short
          omega
        · rw [takenItems, List.length_take] at all
          rcases takenTotal with none | some
          · rw [none] at all
            cases all
          · rw [some] at all
            have := of_decide_eq_true all
            omega
      exact takenItems.trans (List.take_of_length_le ends)
    · next goes =>
      have full := ((stopReason_none_iff _ _ _ _).mp goes).1.2.2.1
      have whole : ((rows.drop walk.offset).take limit).length = limit :=
        Nat.le_antisymm (List.length_take_le _ _) (Nat.le_of_not_lt full)
      refine ih { taken with offset := walk.offset + _ } ?_ takenTotal isResult
      dsimp only
      rw [whole, takenItems]

/-- **The two pagers.**  They agree exactly if the totals do; the rows that are collected have
different keys; and a complete list of a list that is served in slices is that list. -/
theorem pagers_agree_iff (fetchPage : PageFetcher T ε) (keyOf : T → κ)
    (limit maxPages : Option Int) :
    (Agree (collectAllPages fetchPage keyOf limit maxPages)
        (drive fetchPage keyOf (pageBound maxPages) [] (some ⟨clampLimit limit, 0⟩)) keyOf ↔
      TotalsAgree fetchPage keyOf (clampLimit limit) (pageBound maxPages) [] 0) ∧
    ∀ result, (collectAllPages fetchPage keyOf limit maxPages).2 = .ok result →
      (result.items.map keyOf).Nodup ∧
      ∀ rows, Serves fetchPage keyOf rows → result.complete = true → result.items = rows := by
  refine ⟨agree_iff fetchPage _ _ ⟨[], none, 0, 0⟩ [] rfl rfl, fun result isResult => ⟨?_, ?_⟩⟩
  · exact nodup_collectFrom fetchPage _ _ ⟨[], none, 0, 0⟩ List.nodup_nil result isResult
  · intro rows serves complete
    have positive : 0 < clampLimit limit := by
      cases limit with
      | none => decide
      | some limit =>
        change 0 < (min (max limit 1) (100 : Int)).toNat
        omega
    exact complete_collectFrom fetchPage serves positive _ ⟨[], none, 0, 0⟩ rfl (.inl rfl) result
      isResult complete

theorem collectFrom_requests (limit left : Nat) (walk : Walk T) :
    (collectFrom fetchPage keyOf limit left walk).1.length ≤ left ∧
      (∀ request ∈ (collectFrom fetchPage keyOf limit left walk).1,
        request.limit = limit ∧ walk.offset ≤ request.offset) ∧
      (collectFrom fetchPage keyOf limit left walk).1.Pairwise fun earlier later =>
        earlier.offset + limit ≤ later.offset := by
  induction left generalizing walk with
  | zero => simp [collectFrom]
  | succ left ih =>
    unfold collectFrom
    cases fetchPage ⟨limit, walk.offset⟩ with
    | error reason => simp
    | ok page =>
      dsimp only
      split
      · simp
      · next goes =>
        -- the walk goes on behind a full page only
        have full := ((stopReason_none_iff _ _ _ _).mp goes).1.2.2.1
        obtain ⟨few, behind, apart⟩ :=
          ih { walk.take keyOf page with offset := walk.offset + page.items.length }
        refine ⟨Nat.succ_le_succ few, ?_, List.pairwise_cons.mpr ⟨fun later isLater => ?_, apart⟩⟩
        · intro request isRequest
          rcases List.mem_cons.mp isRequest with rfl | isLater
          · exact ⟨rfl, Nat.le_refl _⟩
          · exact ⟨(behind request isLater).1, Nat.le_trans (Nat.le_add_right _ _)
              (behind request isLater).2⟩
        · have := (behind later isLater).2
          dsimp only at this ⊢
          omega

/-- **No position is asked for twice**, whatever the pages say, and there are no more requests than
pages are allowed. -/
theorem requests_do_not_overlap (limit maxPages : Option Int) :
    (collectAllPages fetchPage keyOf limit maxPages).1.length ≤ pageBound maxPages ∧
      (∀ request ∈ (collectAllPages fetchPage keyOf limit maxPages).1,
        request.limit = clampLimit limit) ∧
      (collectAllPages fetchPage keyOf limit maxPages).1.Pairwise fun earlier later =>
        earlier.offset + clampLimit limit ≤ later.offset := by
  obtain ⟨few, limits, apart⟩ := @collectFrom_requests T ε κ _ fetchPage keyOf (clampLimit limit)
    (pageBound maxPages) ⟨[], none, 0, 0⟩
  exact ⟨few, fun request isRequest => (limits request isRequest).1, apart⟩

/-- Four rows, with the total on the first page. -/
def sampleFetcher : PageFetcher Nat Empty := fun request =>
  .ok ⟨([1, 2, 3, 4].drop request.offset).take request.limit,
    if request.offset = 0 then some 4 else none, none⟩

/-- **A total that is reported once** ends the first pager after two pages; the second one asks for
a third. -/
theorem total_reported_once :
    ¬ Agree (collectAllPages sampleFetcher id (some 2) none)
      (drive sampleFetcher id (pageBound none) [] (some ⟨2, 0⟩)) id := by
  intro agree
  exact absurd agree.1 (by decide)

end MessagingStack.App.Pagination

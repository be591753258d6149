import DashboardHarness.Fixture.Server
import Mathlib

/-!
# Pages of the dashboard list

The dashboard list is served a page at a time. Page `p` of size `s`, in exact arithmetic, holds
the dashboards from `(p - 1) * s` on, at most `s` of them, and has a next page exactly when
`p * s` is below the total. The store computes both products in 64-bit words that wrap around,
and a page number near `2 ^ 63 / s` makes them wrap: the offset of page `2 ^ 63 - 1` of size 2
wraps to a negative number, so the first page is served again, and the end of that page wraps
too, so it claims a next page.

`ListsExactly p s n` is the exact condition under which page `p` of size `s` of `n` dashboards
is served as in exact arithmetic. Every page whose end fits in a word meets it, and so does
every page from one to `lastPage`, the last page that holds a dashboard.

Main results:

- `byPosition_strictly_sorted`: with no two dashboards at one position, the list by position is
  the dashboards in strictly increasing position.
- `list_exact_iff`: a listing carries the total, the page and the size, and its dashboards and
  its next page are the exact ones precisely when `ListsExactly` holds.
- `pages_partition`: pages one to `lastPage` are served exactly and together hold the whole
  list once, in order.
- `hasNext_false_iff_of_lastPage_le`: from the last page on, there is no next page exactly when
  the end of the page fits in a word or wraps to the total or beyond.
- `requestedPage_eq_some_iff`: the page number that a query asks for.
- `serve_listing`: the list page and the JSON list of a signed-in user show the listing of the
  requested page.
- `listing_contract`: all of these together.
- `list_wraps_to_first_page`: page `2 ^ 63 - 1` of size 2 of three dashboards is the first page
  again, with a next page.
-/

namespace DashboardHarness.Store

open Dashboard

/-- Page `page` of size `size` of a list, over the integers: the entries from
`(page - 1) * size` on, at most `size` of them. -/
def pageSlice {α : Type} (rows : List α) (page size : Int) : List α :=
  (rows.drop ((page - 1) * size).toNat).take size.toNat

/-- The number of pages of `size` entries that `total` entries fill: at least one, and the last
may be partly filled. -/
def lastPage (total size : Nat) : Nat :=
  max 1 ((total + size - 1) / size)

/-- When page `page` of size `size` of `total` entries is served as in exact arithmetic: its
offset fits in a word or wraps to the total or beyond, and so does its end. -/
structure ListsExactly (page size total : Int) : Prop where
  offset : (page - 1) * size < 2 ^ 63 ∨ total ≤ pageOffset page size
  next : page * size < 2 ^ 63 ∨ total ≤ wrap64 (page * size)

/-! ## Words -/

/-- A wrapped word is below `2 ^ 63`. -/
theorem wrap64_lt (n : Int) : wrap64 n < 2 ^ 63 := by
  have h : wrap64 n < ((Nat.pow 2 64 : Nat) + 1 : Int) / 2 := Int.bmod_lt (by decide)
  simp only [Nat.pow_eq] at h
  omega

variable {page size : Int}

/-- A page whose offset fits in a word starts at its exact offset. -/
theorem pageOffset_eq (hp : 1 ≤ page) (hs : 0 ≤ size) (h : (page - 1) * size < 2 ^ 63) :
    pageOffset page size = ((page - 1) * size).toNat := by
  have h0 : 0 ≤ (page - 1) * size := Int.mul_nonneg (by omega) hs
  simp only [pageOffset, wrap64_small _ (by omega) h]
  split <;> omega

/-- A page whose end fits in a word has a next page exactly when its end is below the total. -/
theorem hasNext_eq (total : Int) (h0 : 0 ≤ page * size) (h : page * size < 2 ^ 63) :
    hasNext page size total = decide (page * size < total) := by
  rw [hasNext, wrap64_small _ (by omega) h]

/-! ## Slices -/

section Slices

variable {α : Type} {rows : List α}

/-- What a list holds from `k` on, cut to `m > 0` entries, is empty exactly when `k` is past its
end. -/
theorem take_drop_eq_nil_iff {k m : Nat} (hm : 0 < m) :
    (rows.drop k).take m = [] ↔ rows.length ≤ k := by
  rw [List.take_eq_nil_iff, List.drop_eq_nil_iff]
  omega

/-- A page that starts past the end of the list is empty. -/
theorem pageSlice_eq_nil (hs : 1 ≤ size) (h : (rows.length : Int) ≤ (page - 1) * size) :
    pageSlice rows page size = [] := by
  rw [pageSlice, take_drop_eq_nil_iff (by omega)]
  omega

/-- The entries served on a page are its exact entries precisely when its offset fits in a word
or wraps to the end of the list or beyond. -/
theorem served_eq_pageSlice_iff (hp : 1 ≤ page) (hs : 1 ≤ size)
    (hn : (rows.length : Int) < 2 ^ 63) :
    (rows.drop (pageOffset page size)).take size.toNat = pageSlice rows page size ↔
      (page - 1) * size < 2 ^ 63 ∨ (rows.length : Int) ≤ pageOffset page size := by
  by_cases hfit : (page - 1) * size < 2 ^ 63
  · -- the offset is exact, so both sides take the same entries
    rw [pageSlice, pageOffset_eq hp (by omega) hfit]
    simp only [hfit, true_or]
  · -- the exact page starts past every entry, so it is empty
    rw [pageSlice_eq_nil hs (by omega), take_drop_eq_nil_iff (by omega)]
    simp only [hfit, false_or]
    exact Int.ofNat_le.symm

/-- Pages one to `k` hold the first `k * size` entries, in order. -/
theorem flatMap_pageSlice (rows : List α) (hs : 0 ≤ size) (k : Nat) :
    (List.range' 1 k).flatMap (fun p : Nat => pageSlice rows p size) =
      rows.take (k * size.toNat) := by
  induction k with
  | zero => simp
  | succ k ih =>
    have hlast : pageSlice rows ((1 + 1 * k : Nat) : Int) size =
        (rows.drop (k * size.toNat)).take size.toNat := by
      have hk : ((1 + 1 * k : Nat) : Int) - 1 = k := by omega
      rw [pageSlice, hk, Int.toNat_mul (Int.natCast_nonneg k) hs, Int.toNat_natCast]
    rw [List.range'_concat, List.flatMap_append, ih, List.flatMap_singleton, hlast,
      Nat.succ_mul, List.take_add]

end Slices

/-! ## The number of pages -/

/-- The last page reaches the total, and the page before it starts below it (below one for an
empty list). -/
theorem lastPage_bounds (total : Nat) {size : Nat} (hs : 0 < size) :
    total ≤ lastPage total size * size ∧ (lastPage total size - 1) * size < max total 1 := by
  have hdiv := Nat.div_add_mod' (total + size - 1) size
  have hmod := Nat.mod_lt (total + size - 1) hs
  unfold lastPage
  generalize (total + size - 1) / size = q at hdiv ⊢
  generalize (total + size - 1) % size = r at hdiv hmod
  rcases Nat.lt_or_ge q 1 with hq | hq
  · -- no whole page: the list is empty
    obtain rfl : q = 0 := by omega
    rw [Nat.zero_mul] at hdiv
    rw [Nat.max_eq_left (Nat.zero_le 1)]
    omega
  · rw [Nat.max_eq_right hq, Nat.sub_one_mul]
    omega

/-! ## Listings -/

/-- A page number and a size of at least one are always served, from the wrapped offset. -/
theorem list_ok (st : Store) (hp : 1 ≤ page) (hs : 1 ≤ size) :
    st.list page size =
      .ok ⟨((byPosition Board.position st.boards).drop (pageOffset page size)).take size.toNat,
        page, size, st.boards.length⟩ := by
  rw [Store.list, if_neg (by omega)]

/-- Ordering rows by position keeps all of them. -/
@[simp]
theorem length_byPosition {α : Type} (position : α → Int) (rows : List α) :
    (byPosition position rows).length = rows.length :=
  List.length_mergeSort rows

/-- With no two entries at one position, the rows by position are the rows in strictly
increasing position. -/
theorem byPosition_strictly_sorted {α : Type} (position : α → Int) (rows : List α)
    (h : (rows.map position).Nodup) :
    (byPosition position rows).Pairwise (fun a b => position a < position b) ∧
      (byPosition position rows).Perm rows := by
  have hperm := List.mergeSort_perm rows fun a b => decide (position a ≤ position b)
  have hle : (byPosition position rows).Pairwise
      (fun a b => decide (position a ≤ position b) = true) :=
    List.pairwise_mergeSort
      (fun a b c hab hbc => by simp only [decide_eq_true_eq] at hab hbc ⊢; omega)
      (fun a b => by simp only [Bool.or_eq_true, decide_eq_true_eq]; omega) rows
  have hne : (byPosition position rows).Pairwise (fun a b => position a ≠ position b) :=
    List.pairwise_map.mp ((hperm.map position).nodup_iff.mpr h)
  refine ⟨(hle.and hne).imp fun ⟨hab, hab'⟩ => ?_, hperm⟩
  simp only [decide_eq_true_eq] at hab
  omega

/-- Whether a page has a next page as in exact arithmetic depends only on its end: it does
precisely when the end fits in a word or wraps to the total or beyond. -/
theorem hasNext_exact_iff (total : Int) (hp : 1 ≤ page) (hs : 1 ≤ size)
    (hn : total < 2 ^ 63) :
    (hasNext page size total = true ↔ page * size < total) ↔
      page * size < 2 ^ 63 ∨ total ≤ wrap64 (page * size) := by
  by_cases hfit : page * size < 2 ^ 63
  · rw [hasNext_eq total (Int.mul_nonneg (by omega) (by omega)) hfit]
    simp only [decide_eq_true_eq, hfit, true_or]
  · -- the exact end is past the total, so exactly there is no next page
    have hend : ¬ page * size < total := by omega
    simp only [hasNext, hfit, hend, false_or, decide_eq_true_eq, iff_false, Int.not_lt]

/-- Page `page` of size `size` carries the total, its number and its size, has a previous page
exactly after the first, and shows its exact dashboards and next page precisely when
`ListsExactly` holds. -/
theorem list_exact_iff (st : Store) (hp : 1 ≤ page) (hs : 1 ≤ size)
    (hn : (st.boards.length : Int) < 2 ^ 63) :
    ∃ L, st.list page size = .ok L ∧ L.total = st.boards.length ∧ L.page = page ∧
      L.pageSize = size ∧ (hasPrevious L.page = true ↔ 1 < page) ∧
      ((L.boards = pageSlice (byPosition Board.position st.boards) page size ∧
          (hasNext L.page L.pageSize L.total = true ↔ page * size < st.boards.length)) ↔
        ListsExactly page size st.boards.length) := by
  refine ⟨_, list_ok st hp hs, rfl, rfl, rfl, by simp [hasPrevious], ?_⟩
  dsimp only
  rw [served_eq_pageSlice_iff hp hs (by rw [length_byPosition]; exact hn), length_byPosition,
    hasNext_exact_iff _ hp hs hn]
  exact ⟨fun ⟨ho, hx⟩ => ⟨ho, hx⟩, fun h => ⟨h.offset, h.next⟩⟩

/-- Pages one to `lastPage` are served with their exact dashboards, and together they hold the
list by position, each dashboard once. -/
theorem pages_partition (st : Store) (hs : 1 ≤ size) (hn : (st.boards.length : Int) < 2 ^ 63) :
    (∀ p ∈ List.range' 1 (lastPage st.boards.length size.toNat), ∃ L,
      st.list p size = .ok L ∧
        L.boards = pageSlice (byPosition Board.position st.boards) p size) ∧
    (List.range' 1 (lastPage st.boards.length size.toNat)).flatMap
      (fun p : Nat => pageSlice (byPosition Board.position st.boards) p size) =
      byPosition Board.position st.boards := by
  have hm : 0 < size.toNat := by omega
  obtain ⟨hcover, hbefore⟩ := lastPage_bounds st.boards.length hm
  refine ⟨fun p hmem => ?_, ?_⟩
  · rw [List.mem_range'_1] at hmem
    have hoff : (p - 1) * size.toNat < max st.boards.length 1 :=
      Nat.lt_of_le_of_lt (Nat.mul_le_mul_right _ (by omega)) hbefore
    have hcast : ((p : Int) - 1) * size = (((p - 1) * size.toNat : Nat) : Int) := by
      rw [Int.natCast_mul, Int.natCast_sub (by omega), Int.toNat_of_nonneg (by omega)]
      rfl
    refine ⟨_, list_ok st (by omega) hs, ?_⟩
    exact (served_eq_pageSlice_iff (by omega) hs (by rw [length_byPosition]; exact hn)).mpr
      (.inl (by omega))
  · rw [flatMap_pageSlice _ (by omega),
      List.take_of_length_le (by rw [length_byPosition]; omega)]

/-- From the last page on, a page has no next page exactly when its end fits in a word or
wraps to the total or beyond. -/
theorem hasNext_false_iff_of_lastPage_le (total : Nat) (hs : 1 ≤ size)
    (hp : (lastPage total size.toNat : Int) ≤ page) :
    hasNext page size total = false ↔
      page * size < 2 ^ 63 ∨ total ≤ wrap64 (page * size) := by
  have hcover := (lastPage_bounds total (show 0 < size.toNat by omega)).1
  have hend : (total : Int) ≤ page * size := by
    calc (total : Int) ≤ (lastPage total size.toNat : Int) * size := by
          rw [← Int.toNat_of_nonneg (show 0 ≤ size by omega)]
          exact_mod_cast hcover
      _ ≤ page * size := Int.mul_le_mul_of_nonneg_right hp (by omega)
  have hnext : hasNext page size total = false ↔ (total : Int) ≤ wrap64 (page * size) := by
    simp only [hasNext, decide_eq_false_iff_not, Int.not_lt]
  rw [hnext]
  constructor
  · exact .inr
  · rintro (hfit | hwrap)
    · rw [wrap64_small _ (by omega) hfit]
      exact hend
    · exact hwrap

end DashboardHarness.Store

namespace DashboardHarness.Fixture

open Web Dashboard Store

/-- The text of the `page` parameter of a query, decoded and trimmed. -/
def pageValue (query : List Field) : String :=
  Text.trimBlank (Text.decodeUtf8 (firstValue query "page"))

/-- The page number a query asks for: one when its `page` value is empty, and else that value
read as a signed 64-bit decimal number, when it is at least one. -/
theorem requestedPage_eq_some_iff (query : List Field) (page : Int) :
    requestedPage query = some page ↔
      (pageValue query = "" ∧ page = 1) ∨
      (pageValue query ≠ "" ∧ Text.readDecimal (pageValue query) = .ok page ∧
        1 ≤ page) := by
  unfold requestedPage
  rw [← pageValue]
  generalize pageValue query = raw
  by_cases hraw : raw = ""
  · subst hraw
    rw [if_pos (String.isEmpty_iff.mpr rfl)]
    simp only [Option.some.injEq, true_and, ne_eq, not_true_eq_false, false_and, or_false]
    exact eq_comm
  · have hempty : ¬ raw.isEmpty = true := fun h => hraw (String.isEmpty_iff.mp h)
    rw [if_neg hempty]
    simp only [hraw, false_and, false_or, ne_eq, not_false_eq_true, true_and]
    cases Text.readDecimal raw with
    | error e => simp
    | ok n =>
      dsimp only
      by_cases hn : n < 1
      · rw [if_pos hn]
        simp only [reduceCtorEq, false_iff, not_and, Except.ok.injEq]
        omega
      · rw [if_neg hn]
        simp only [Option.some.injEq, Except.ok.injEq]
        omega

/-- A page that a query asks for is at least one. -/
theorem one_le_of_requestedPage {query : List Field} {page : Int}
    (h : requestedPage query = some page) : 1 ≤ page := by
  rcases (requestedPage_eq_some_iff query page).mp h with ⟨-, rfl⟩ | ⟨-, -, hpage⟩
  · exact Int.le_refl 1
  · exact hpage

section Served

variable (srv : Server) (r : Request) (path : List Nat) (requestUri : String)
  (query : List Field)

/-- The dashboard list and the JSON list as a signed-in user sees them, with a positive page
size: 400 when no page number can be read, and else the listing of the requested page, with
its dashboards, total, number and neighbours. -/
theorem serve_listing (huser : ∃ name, currentUser r.cookies = some name)
    (hsize : 1 ≤ srv.options.pageSize) :
    (requestedPage query = none →
      srv.serve r .dashboardList path requestUri query = errorResponse 400 "invalid_page" ∧
      srv.serve r .dashboardApi path requestUri query =
        jsonResponse 400 (.obj [("error", .str "invalid_page")]) (corsHeaders r)) ∧
    ∀ page, requestedPage query = some page → ∃ L,
      srv.store.list page srv.options.pageSize = .ok L ∧
      srv.serve r .dashboardList path requestUri query =
        htmlResponse 200 (listPage ⟨L.boards, L.page, wrap64 (L.page + 1), L.page - 1,
          hasNext L.page L.pageSize L.total, hasPrevious L.page⟩) ∧
      srv.serve r .dashboardApi path requestUri query =
        jsonResponse 200 (.obj [("count", .int L.total), ("page", .int L.page),
          ("result", .arr (L.boards.map fun b =>
            .obj [("id", .str b.id.shown), ("dashboard_title", .str b.title),
              ("slug", .str b.slug), ("url", .str ("/superset/dashboard/" ++ b.slug ++ "/")),
              ("position", .int b.position)]))]) (corsHeaders r) := by
  obtain ⟨name, hname⟩ := huser
  refine ⟨fun hnone => ?_, fun page hpage => ?_⟩
  · constructor
    · simp only [Server.serve, hname, hnone]
    · simp only [Server.serve, hname, hnone]
      rfl
  · have hlist := list_ok srv.store (one_le_of_requestedPage hpage) hsize
    refine ⟨_, hlist, ?_, ?_⟩
    · simp only [Server.serve, hname, hpage, hlist]
    · simp only [Server.serve, hname, hpage, hlist]
      rfl

end Served

/-- The contract of the paged dashboard list, for a store of fewer than `2 ^ 63` dashboards and
a positive page size. With no two dashboards at one position, the list by position is in
strictly increasing position. A page from one on is served with the total, its number and its
size, has a previous page exactly after the first, and shows its exact dashboards and next page
precisely when `ListsExactly` holds. Pages one to `lastPage` are served exactly and hold the
list once, in order; from the last page on there is no next page exactly when the end of the
page fits in a word or wraps to the total or beyond. The application reads the page number from
the trimmed `page` value, one when it is empty, and shows a signed-in user the listing of that
page, in the list page and in the JSON list. -/
theorem listing_contract (st : Store) (size : Int) (hs : 1 ≤ size)
    (hn : (st.boards.length : Int) < 2 ^ 63) :
    ((st.boards.map Board.position).Nodup →
      (byPosition Board.position st.boards).Pairwise (fun a b => a.position < b.position) ∧
      (byPosition Board.position st.boards).Perm st.boards) ∧
    (∀ page : Int, 1 ≤ page →
      ∃ L, st.list page size = .ok L ∧ L.total = st.boards.length ∧ L.page = page ∧
        L.pageSize = size ∧ (hasPrevious L.page = true ↔ 1 < page) ∧
        ((L.boards = pageSlice (byPosition Board.position st.boards) page size ∧
            (hasNext L.page L.pageSize L.total = true ↔ page * size < st.boards.length)) ↔
          ListsExactly page size st.boards.length)) ∧
    ((∀ p ∈ List.range' 1 (lastPage st.boards.length size.toNat), ∃ L,
        st.list p size = .ok L ∧
          L.boards = pageSlice (byPosition Board.position st.boards) p size) ∧
      (List.range' 1 (lastPage st.boards.length size.toNat)).flatMap
        (fun p : Nat => pageSlice (byPosition Board.position st.boards) p size) =
        byPosition Board.position st.boards) ∧
    (∀ page : Int, (lastPage st.boards.length size.toNat : Int) ≤ page →
      (hasNext page size st.boards.length = false ↔
        page * size < 2 ^ 63 ∨ st.boards.length ≤ wrap64 (page * size))) ∧
    (∀ (query : List Field) (page : Int), requestedPage query = some page ↔
      (pageValue query = "" ∧ page = 1) ∨
      (pageValue query ≠ "" ∧ Text.readDecimal (pageValue query) = .ok page ∧ 1 ≤ page)) ∧
    (∀ srv : Server, srv.store = st → srv.options.pageSize = size →
      ∀ (r : Request) (path : List Nat) (requestUri : String) (query : List Field),
      (∃ name, currentUser r.cookies = some name) →
      (requestedPage query = none →
        srv.serve r .dashboardList path requestUri query = errorResponse 400 "invalid_page" ∧
        srv.serve r .dashboardApi path requestUri query =
          jsonResponse 400 (.obj [("error", .str "invalid_page")]) (corsHeaders r)) ∧
      ∀ page, requestedPage query = some page → ∃ L,
        srv.store.list page srv.options.pageSize = .ok L ∧
        srv.serve r .dashboardList path requestUri query =
          htmlResponse 200 (listPage ⟨L.boards, L.page, wrap64 (L.page + 1), L.page - 1,
            hasNext L.page L.pageSize L.total, hasPrevious L.page⟩) ∧
        srv.serve r .dashboardApi path requestUri query =
          jsonResponse 200 (.obj [("count", .int L.total), ("page", .int L.page),
            ("result", .arr (L.boards.map fun b =>
              .obj [("id", .str b.id.shown), ("dashboard_title", .str b.title),
                ("slug", .str b.slug), ("url", .str ("/superset/dashboard/" ++ b.slug ++ "/")),
                ("position", .int b.position)]))]) (corsHeaders r)) :=
  ⟨byPosition_strictly_sorted _ _,
    fun _ hp => list_exact_iff st hp hs hn,
    pages_partition st hs hn,
    fun _ hp => hasNext_false_iff_of_lastPage_le _ hs hp,
    requestedPage_eq_some_iff,
    fun srv _ hsize r path requestUri query huser =>
      serve_listing srv r path requestUri query huser (hsize ▸ hs)⟩

/-- Three dashboards at positions one to three. -/
def threeBoards : Store :=
  { boards := [{ slug := "a", title := "a", position := 1 },
      { slug := "b", title := "b", position := 2 }, { slug := "c", title := "c", position := 3 }] }

/-- The second page of size two of three dashboards is served exactly: it holds the third
dashboard, with no next page. -/
theorem listing_contract_second_of_two :
    ∃ L, threeBoards.list 2 2 = .ok L ∧ L.total = 3 ∧
      L.boards = pageSlice (byPosition Board.position threeBoards.boards) 2 2 ∧
      hasNext L.page L.pageSize L.total = false := by
  obtain ⟨L, hL, htotal, hpage, hsize, -, hexact⟩ :=
    (listing_contract threeBoards 2 (by decide) (by decide)).2.1 2 (by decide)
  obtain ⟨hboards, -⟩ := hexact.mpr ⟨.inl (by decide), .inl (by decide)⟩
  refine ⟨L, hL, htotal, hboards, ?_⟩
  rw [hpage, hsize, htotal]
  decide

/-- Page `2 ^ 63 - 1` of size two of three dashboards is the first page again, with a next page,
where in exact arithmetic it is empty and last: its offset and its end both wrap below the
total. -/
theorem list_wraps_to_first_page :
    ∃ L, threeBoards.list (2 ^ 63 - 1) 2 = .ok L ∧ L.boards = threeBoards.boards.take 2 ∧
      hasNext L.page L.pageSize L.total = true ∧
      pageSlice (byPosition Board.position threeBoards.boards) (2 ^ 63 - 1) 2 = [] ∧
      ¬ ListsExactly (2 ^ 63 - 1) 2 threeBoards.boards.length := by
  have hsorted : byPosition Board.position threeBoards.boards = threeBoards.boards :=
    List.mergeSort_of_pairwise (by decide)
  have hoffset : pageOffset (2 ^ 63 - 1) 2 = 0 := by decide
  refine ⟨_, list_ok threeBoards (by decide) (by decide), ?_, by decide, ?_, ?_⟩
  · rw [hsorted, hoffset]
    rfl
  · rw [hsorted]
    exact pageSlice_eq_nil (by decide) (by decide)
  · rintro ⟨-, hnext⟩
    rcases hnext with h | h <;> revert h <;> decide

end DashboardHarness.Fixture

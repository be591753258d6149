import DashboardHarness.Store.Tables
import DashboardHarness.Store.Page

/-!
# Reading the dashboard store

The dashboard list is ordered by position, dashboards at the same position in the order they were
stored, and cut into pages numbered from one; the offset of a page is computed in 64-bit words
that wrap around, and an offset that is not positive starts at the first dashboard. A dashboard
is found by its slug, trimmed of white space, with its charts ordered by position the same way and
each chart with its features in the order they were stored.

Main results:

- `find_missing`: a slug that no dashboard has is not found.
-/

namespace DashboardHarness.Store

open Dashboard

/-- One page of the dashboard list. -/
structure Listing where
  boards : List Board
  page : Int
  pageSize : Int
  total : Int

/-- Rows in order of position; rows at the same position keep their order. -/
def byPosition {α : Type} (position : α → Int) (rows : List α) : List α :=
  rows.mergeSort fun a b => decide (position a ≤ position b)

/-- The first entry of page `page` of size `size`, counted from zero, as the list query skips it. -/
def pageOffset (page size : Int) : Nat :=
  let offset := wrap64 ((page - 1) * size)
  if 0 < offset then offset.toNat else 0

/-- Page `page` of the dashboard list with `size` dashboards a page. -/
def Store.list (st : Store) (page size : Int) : Except Failure Listing :=
  if page < 1 ∨ size < 1 then
    .error (.detail .invalidPage ("page " ++ toString page ++ " of size " ++ toString size))
  else
    let rows := (byPosition Board.position st.boards).drop (pageOffset page size)
    .ok ⟨rows.take size.toNat, page, size, st.boards.length⟩

/-- The dashboard with a slug, its charts by position and their features. -/
def Store.find (st : Store) (slug : String) : Except Failure Board :=
  match st.boards.find? (·.slug == Text.trimBlank slug) with
  | none => .error (.detail .dashboardNotStored slug)
  | some b =>
    let charts := byPosition Chart.position (st.charts.filter (·.dashboardId == b.id))
    .ok { b with charts := charts.map fun c =>
      { c with features := st.features.filter (·.chartId == c.id) } }

theorem find_missing (st : Store) (slug : String)
    (h : ∀ b ∈ st.boards, b.slug ≠ Text.trimBlank slug) :
    st.find slug = .error (.detail .dashboardNotStored slug) := by
  have : st.boards.find? (·.slug == Text.trimBlank slug) = none := by
    rw [List.find?_eq_none]
    intro b hb
    simpa using h b hb
  simp [Store.find, this]

end DashboardHarness.Store

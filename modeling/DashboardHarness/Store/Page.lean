/-!
# Pages of a listing

A listing is cut into pages of a fixed size, numbered from one. A page has a next page when the
entries up to its end, computed in 64-bit words that wrap around, are fewer than the total, and a
previous one when it is not the first.

Main results:

- `wrap64_small`: products that fit in a word are not changed by wrapping.
-/

namespace DashboardHarness.Store

/-- An integer wrapped into a signed 64-bit word. -/
def wrap64 (n : Int) : Int := n.bmod (Nat.pow 2 64)

/-- Whether a page has a next page. -/
def hasNext (page size total : Int) : Bool := wrap64 (page * size) < total

/-- Whether a page has a previous page. -/
def hasPrevious (page : Int) : Bool := 1 < page

theorem wrap64_small (n : Int) (h1 : -(Nat.pow 2 63 : Int) ≤ n) (h2 : n < Nat.pow 2 63) :
    wrap64 n = n := by
  unfold wrap64
  simp only [Nat.pow_eq] at h1 h2 ⊢
  apply Int.bmod_eq_of_le <;> omega

end DashboardHarness.Store

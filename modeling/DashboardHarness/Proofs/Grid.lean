import DashboardHarness.Probe.Sweep
import Mathlib

/-!
# Offset walks along a side of the canvas

The probe steps along each side of a canvas by adding the step to an offset, in doubles, for as
long as the offset stays below the side's length. `Walk step limit x xs` says that from `x` the
offsets below `limit` are `xs`, after which comes one that is not below it. Nothing is assumed
of the doubles: rounding may make the offsets drift from the multiples of the step, and adding
the step may stop moving the offset, in which case no walk ends.

A walk that ends visits each offset once, since an offset that came back would come back for
ever. So it visits at most `2 ^ 64` offsets, the number of doubles, and the grid that the probe
sweeps is made of exactly the offsets of the two walks.

Main results:

- `Walk.nodup`: a walk that ends never visits an offset twice.
- `Walk.length_le_walkBound`: a walk that ends visits at most `walkBound` offsets.
- `gridPoints_eq_of_walk`: the grid is the offsets of the height's walk, each with the offsets of
  the width's walk, row by row.
-/

namespace DashboardHarness.Probe

/-- Adding `step` again and again from `x`, the offsets below `limit` are `xs`, and the one
after them is not below it. -/
inductive Walk (step limit : Float) : Float → List Float → Prop
  /-- An offset that is not below the limit ends the walk. -/
  | stop {x : Float} : ¬ x < limit → Walk step limit x []
  /-- An offset below the limit is visited, and the walk goes on from it plus the step. -/
  | next {x : Float} {xs : List Float} :
      x < limit → Walk step limit (x + step) xs → Walk step limit x (x :: xs)

/-- Doubles are told apart by their bits. -/
theorem float_toBits_injective : Function.Injective Float.toBits := by
  intro a b h
  cases a with
  | ofModel ma =>
    cases b with
    | ofModel mb =>
      cases ma
      cases mb
      simp only [Float.toBits] at h
      subst h
      rfl

namespace Walk

variable {step limit : Float}

/-- A walk is determined by where it starts. -/
theorem unique {x : Float} {xs ys : List Float} (hx : Walk step limit x xs)
    (hy : Walk step limit x ys) : xs = ys := by
  induction hx generalizing ys with
  | stop hstop =>
    cases hy with
    | stop _ => rfl
    | next hlt _ => exact absurd hlt hstop
  | next hlt _ ih =>
    cases hy with
    | stop hstop => exact absurd hlt hstop
    | next _ hrest => rw [ih hrest]

/-- From any offset it visits, a walk goes on as the walk from that offset. -/
theorem from_mem {x y : Float} {front back : List Float}
    (h : Walk step limit x (front ++ y :: back)) : Walk step limit y (y :: back) := by
  induction front generalizing x with
  | nil =>
    cases h with
    | next hlt hrest => exact .next hlt hrest
  | cons z front ih =>
    cases h with
    | next _ hrest => exact ih hrest

/-- A walk never comes back to its first offset: from there it would visit the same offsets
again and again, and never end. -/
theorem head_not_mem {x : Float} {xs : List Float} (h : Walk step limit x (x :: xs)) :
    x ∉ xs := by
  intro hmem
  obtain ⟨front, back, rfl⟩ := List.append_of_mem hmem
  have hagain : Walk step limit x (x :: back) := by
    cases h with
    | next _ hrest => exact from_mem hrest
  have hsame : x :: (front ++ x :: back) = x :: back := unique h hagain
  have hlength := congrArg List.length hsame
  simp only [List.length_cons, List.length_append] at hlength
  omega

/-- A walk that ends never visits an offset twice. -/
theorem nodup {x : Float} {xs : List Float} (h : Walk step limit x xs) : xs.Nodup := by
  induction h with
  | stop _ => exact List.nodup_nil
  | next hlt hrest ih => exact List.nodup_cons.mpr ⟨head_not_mem (.next hlt hrest), ih⟩

/-- A walk that ends visits at most as many offsets as there are doubles. -/
theorem length_le_walkBound {x : Float} {xs : List Float} (h : Walk step limit x xs) :
    xs.length ≤ walkBound := by
  have hinj : Function.Injective fun y : Float => y.toBits.toFin :=
    fun a b hab => float_toBits_injective (UInt64.toFin_inj.mp hab)
  have hcard := (h.nodup.map hinj).length_le_card
  simpa [walkBound] using hcard

/-- Offsets taken while they stay below the limit, with enough fuel, are the walk's. -/
theorem offsetsFrom_eq {x : Float} {xs : List Float} (h : Walk step limit x xs) {fuel : Nat}
    (hfuel : xs.length ≤ fuel) : offsetsFrom step limit fuel x = xs := by
  induction h generalizing fuel with
  | stop hstop =>
    cases fuel with
    | zero => rfl
    | succ fuel => simp [offsetsFrom, hstop]
  | next hlt _ ih =>
    cases fuel with
    | zero => simp at hfuel
    | succ fuel =>
      have hrest := ih (Nat.le_of_succ_le_succ hfuel)
      simp [offsetsFrom, hlt, hrest]

end Walk

/-- The grid offsets along a side are the offsets of the walk from zero, whenever that walk
ends. -/
theorem gridOffsets_eq_of_walk {step limit : Float} {xs : List Float}
    (h : Walk step limit 0 xs) : gridOffsets step limit = xs :=
  h.offsetsFrom_eq h.length_le_walkBound

/-- The grid of a box is the offsets of the height's walk, each with the offsets of the width's
walk, row by row. -/
theorem gridPoints_eq_of_walk {step : Float} {box : Box} {xs ys : List Float}
    (hxs : Walk step box.width 0 xs) (hys : Walk step box.height 0 ys) :
    gridPoints step box = ys.flatMap fun y => xs.map fun x => ⟨x, y⟩ := by
  rw [gridPoints, gridOffsets_eq_of_walk hxs, gridOffsets_eq_of_walk hys]

end DashboardHarness.Probe

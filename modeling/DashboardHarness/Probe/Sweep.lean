import DashboardHarness.Browser.Page
import DashboardHarness.Probe.Options
import DashboardHarness.Decimal.Fixed

/-!
# Sweeping a map canvas for a tooltip

The probe finds a hoverable feature on a map canvas. It resolves the canvas box, makes sure the
tooltip is hidden, zooms in, resolves the box again, and then visits a grid of offsets over that
box, row by row: the offsets along each side are `0`, `0 + s`, `(0 + s) + s`, … below the side's
length, added up in doubles. At each grid point it moves the pointer there, pauses and checks
the tooltip; at the first point where the tooltip shows it clicks and reports the point.

Main definitions:

- `gridPoints`: the grid points of a box, row by row, the points a sweep that finds nothing
  tries.
- `hover`: hovering a map canvas until its tooltip shows and clicking the feature there,
  failing with the number of positions tried when it never shows.
-/

namespace DashboardHarness.Probe

open Page

/-- Offsets `x`, `x + step`, … below a limit, at most `fuel` of them. -/
def offsetsFrom (step limit : Float) : Nat → Float → List Float
  | 0, _ => []
  | fuel + 1, x => if x < limit then x :: offsetsFrom step limit fuel (x + step) else []

/-- The most offsets that a walk along a side visits. A walk that reaches the side's length
visits distinct offsets, since an offset that came back would come back for ever, and there are
`2 ^ 64` doubles; a walk that never reaches it, where adding the step stops moving the offset,
goes on until this bound, far past any run that ends. -/
def walkBound : Nat := Nat.pow 2 64

/-- The grid offsets along a side: `0`, `0 + step`, … below the side's length. -/
def gridOffsets (step limit : Float) : List Float :=
  offsetsFrom step limit walkBound 0

/-- The grid points of a box, row by row: the points that a sweep that finds nothing tries, in
order. -/
def gridPoints (step : Float) (box : Box) : List Point :=
  (gridOffsets step box.height).flatMap fun y =>
    (gridOffsets step box.width).map fun x => ⟨x, y⟩

/-- Where the tooltip showed: the offset in the box, the viewport point, the box, and how many
points were tried. -/
structure Hit where
  /-- The offset from the box's corner. -/
  position : Point
  /-- The viewport point. -/
  absolute : Point
  /-- The canvas box swept. -/
  box : Box
  /-- The number of points tried, this one included. -/
  attempts : Nat
  deriving Inhabited

/-- Finds the canvas of a container: it must be visible and have an area. -/
def resolveCanvas (o : ProbeOptions) (container : String) : Browse Box := do
  if Text.isBlankText container then throw (.kind .missingContainer)
  let canvas := o.canvasSelector container
  let unseen := Failure.detailCause .canvasNotVisible canvas.render
  mapFailure unseen (waitVisible canvas)
  let box ← mapFailure unseen (boundingBox canvas)
  if box.isDegenerate then
    throw (.detail .degenerateCanvas (canvas.render ++ " is " ++ Decimal.fixed 1 box.width ++ "x" ++
      Decimal.fixed 1 box.height))
  return box

/-- Tries one grid point: move, pause, check the tooltip, and click when it shows. -/
def tryPoint (o : ProbeOptions) (box : Box) (position : Point) (attempts : Nat) :
    Browse (Option Hit) := do
  let absolute := box.absolute position
  stage "move pointer" (mouseMove absolute)
  stage "settle" (sleep o.settleDelay)
  let shown ← stage "check tooltip" (isVisible o.tooltipSelector)
  if shown then
    stage "click feature" (mouseClick absolute {})
    return some ⟨position, absolute, box, attempts⟩
  else return none

/-- Tries the points of the row at offset `y`, from offset `x` on while it stays below the
width, for at most `fuel` points, until the tooltip shows: the hit, if any, and the number of
points tried so far. Points are made as they are tried, so a sweep that ends early never
builds the rest of the grid. -/
def sweepRow (o : ProbeOptions) (box : Box) (y : Float) :
    Nat → Float → Nat → Browse (Option Hit × Nat)
  | 0, _, tried => pure (none, tried)
  | fuel + 1, x, tried =>
    if x < box.width then do
      match ← tryPoint o box ⟨x, y⟩ (tried + 1) with
      | some hit => pure (some hit, tried + 1)
      | none => sweepRow o box y fuel (x + o.step) (tried + 1)
    else pure (none, tried)

/-- Tries the rows from offset `y` on while it stays below the height, for at most `fuel` rows,
until the tooltip shows: the hit, if any, and the number of points tried. -/
def sweepRows (o : ProbeOptions) (box : Box) : Nat → Float → Nat → Browse (Option Hit × Nat)
  | 0, _, tried => pure (none, tried)
  | fuel + 1, y, tried =>
    if y < box.height then do
      match ← sweepRow o box y walkBound 0 tried with
      | (some hit, tried) => pure (some hit, tried)
      | (none, tried) => sweepRows o box fuel (y + o.step) tried
    else pure (none, tried)

/-- Hovers a map canvas until its tooltip shows and clicks the feature there. -/
def hover (o : ProbeOptions) (container : String) : Browse Hit := do
  let _ ← resolveCanvas o container
  let tooltip := o.tooltipSelector
  mapFailure (.detailCause .tooltipAlreadyVisible tooltip.render) (waitHidden tooltip)
  if 0 < o.zoomClicks then
    stage "zoom in" (click (o.zoomSelector container) { clickCount := o.zoomClicks })
  let box ← stage "resolve canvas" (resolveCanvas o container)
  match ← sweepRows o box walkBound 0 0 with
  | (some hit, _) => return hit
  | (none, tried) =>
    throw (.detail .tooltipNotFound (toString tried ++ " positions over " ++
      Decimal.fixed 0 box.width ++ "x" ++ Decimal.fixed 0 box.height ++ " canvas"))

end DashboardHarness.Probe

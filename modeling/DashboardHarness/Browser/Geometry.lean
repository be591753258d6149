/-!
# Points and boxes

Viewport coordinates in pixels, as doubles, and the rectangle that a rendered element covers.
Comparisons are those of IEEE doubles, so a NaN coordinate makes every comparison false.

Main definitions:

- `Box.absolute`, `Box.center`: the viewport coordinates of an offset in a box and of its centre.
- `Box.covers`, `Box.containsOffset`: whether a point or an offset lies in a box, its far edges
  left out.
-/

namespace DashboardHarness

/-- A pixel coordinate. -/
structure Point where
  /-- The horizontal coordinate. -/
  x : Float
  /-- The vertical coordinate. -/
  y : Float
  deriving Inhabited, Repr

/-- The viewport rectangle of a rendered element: its top-left corner, width and height. -/
structure Box where
  /-- The left edge. -/
  x : Float
  /-- The top edge. -/
  y : Float
  /-- The width. -/
  width : Float
  /-- The height. -/
  height : Float
  deriving Inhabited, Repr

namespace Box

/-- The zero box. -/
def zero : Box := ⟨0, 0, 0, 0⟩

/-- A box has no area when its width or height is not positive. -/
def isDegenerate (b : Box) : Bool :=
  b.width ≤ 0 || b.height ≤ 0

/-- The viewport coordinate of an offset from the box's corner. -/
def absolute (b : Box) (offset : Point) : Point :=
  ⟨b.x + offset.x, b.y + offset.y⟩

/-- Whether an offset from the corner falls inside the box, edges at the far side excluded. -/
def containsOffset (b : Box) (offset : Point) : Bool :=
  0 ≤ offset.x && 0 ≤ offset.y && offset.x < b.width && offset.y < b.height

/-- The viewport coordinate of the box's centre. -/
def center (b : Box) : Point :=
  ⟨b.x + b.width / 2, b.y + b.height / 2⟩

/-- Whether a point lies in the box, counting the near edges and not the far ones. -/
def covers (b : Box) (p : Point) : Bool :=
  b.x ≤ p.x && p.x < b.x + b.width && b.y ≤ p.y && p.y < b.y + b.height

@[simp] theorem absolute_x (b : Box) (o : Point) : (b.absolute o).x = b.x + o.x := rfl

@[simp] theorem absolute_y (b : Box) (o : Point) : (b.absolute o).y = b.y + o.y := rfl

end Box

end DashboardHarness

import DashboardHarness.Browser.Selector
import DashboardHarness.Settings.Basic
import DashboardHarness.Text.Template

/-!
# Probe options

How the probe sweeps a map canvas: the grid step in pixels, the pause after each pointer move,
how often to zoom in first, how long to wait for the canvas, and the templates of the canvas and
zoom-control selectors, which take the chart container, and the tooltip selector.

Main definitions:

- `ProbeOptions.validate`: the step, the delays, the zoom clicks and the selector formats of a
  probe must be in range and present.
- `ProbeOptions.canvasSelector`, `ProbeOptions.tooltipSelector`: the canvases of a chart
  container and the tooltip that shows over a feature.
-/

namespace DashboardHarness

/-- How the probe sweeps a canvas. -/
structure ProbeOptions where
  /-- The grid step in pixels. -/
  step : Float := 10
  /-- The pause after each pointer move, in nanoseconds. -/
  settleDelay : Int := 100 * nanosPerMilli
  /-- Zoom-in clicks before the sweep. -/
  zoomClicks : Int := 3
  /-- How long to wait for the canvas, in nanoseconds. -/
  visibilityTimeout : Int := 10 * nanosPerSecond
  /-- The template of the canvas selector; it takes the container. -/
  canvasTemplate : String := "%s .ol-layer canvas"
  /-- The template of the zoom control selector; it takes the container. -/
  zoomTemplate : String := "%s .ol-zoom-in"
  /-- The tooltip selector. -/
  tooltip : String := "#infoTooltip"
  deriving Inhabited, Repr

namespace ProbeOptions

/-- Whether a double is a positive finite number. -/
def positiveFinite (x : Float) : Bool :=
  0 < x && !x.isNaN && !x.isInf

/-- Options are valid with a positive finite step, no negative pause or zoom count, a positive
timeout and three non-blank selector texts; the first rule broken names the failure. -/
def validate (o : ProbeOptions) : Except Failure Unit :=
  let invalid := fun detail => Except.error (Failure.detail .invalidProbeOptions detail)
  if !positiveFinite o.step then invalid "step must be positive"
  else if o.settleDelay < 0 then invalid "settle delay must not be negative"
  else if o.zoomClicks < 0 then invalid "zoom clicks must not be negative"
  else if o.visibilityTimeout ≤ 0 then invalid "visibility timeout must be positive"
  else if Text.isBlankText o.canvasTemplate || Text.isBlankText o.zoomTemplate ||
      Text.isBlankText o.tooltip then
    invalid "selector formats and tooltip selector are required"
  else .ok ()

/-- The canvases of a chart container. -/
def canvasSelector (o : ProbeOptions) (container : String) : Selector :=
  .ofCss (Text.fill o.canvasTemplate container)

/-- The zoom-in control of a chart container. -/
def zoomSelector (o : ProbeOptions) (container : String) : Selector :=
  .ofCss (Text.fill o.zoomTemplate container)

/-- The tooltip that shows over a feature. -/
def tooltipSelector (o : ProbeOptions) : Selector :=
  .ofCss o.tooltip

end ProbeOptions

end DashboardHarness

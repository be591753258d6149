import DashboardHarness.Browser.Selector
import DashboardHarness.Browser.Geometry
import DashboardHarness.Browser.Click
import DashboardHarness.Text.Search

/-!
# Page scripts

What a scripted page knows before and while it is driven: the elements it shows, keyed by the
text of a selector, and the rules that react to what the page is asked to do. An element's
visibility is either a fixed flag or a function of the pointer: the element shows when the
pointer stands exactly on one of its points or inside one of its regions. A rule watches one
kind of event, lets a number of matches pass, applies at most a number of times, and then changes
the page by its actions and may make the event fail.

Main definitions:

- `Element.shownAt`: whether an element shows with the pointer at a point, by its sight when it
  has one and else by its flag.
- `Rule`, `Trigger.accepts`: the rules of a scripted page and the events each one watches.
-/

namespace DashboardHarness

/-- Where the pointer makes an element visible: exact points and regions. -/
structure Sight where
  /-- Points at which the element shows. -/
  points : List Point := []
  /-- Regions inside which the element shows. -/
  regions : List Box := []
  deriving Inhabited, Repr

/-- The scripted state of one element. -/
structure Element where
  /-- The fixed visibility, used when there is no pointer-dependent sight. -/
  visible : Bool := false
  /-- Pointer-dependent visibility, which overrides the fixed flag. -/
  sight : Option Sight := none
  /-- Whether scrolling the element into view makes it visible. -/
  revealOnScroll : Bool := false
  /-- The rendered box. -/
  box : Box := Box.zero
  /-- The inner text. -/
  text : String := ""
  /-- The attributes. -/
  attributes : List (String × String) := []
  /-- The number of matches; zero or less stands for one. -/
  count : Int := 0
  deriving Inhabited, Repr

/-- Whether a point is one of the sight's points or lies in one of its regions. -/
def Sight.sees (s : Sight) (pointer : Point) : Bool :=
  s.points.any (fun p => p.x == pointer.x && p.y == pointer.y) ||
    s.regions.any (fun r => r.covers pointer)

/-- Whether the element shows with the pointer at a point. -/
def Element.shownAt (e : Element) (pointer : Point) : Bool :=
  match e.sight with
  | some s => s.sees pointer
  | none => e.visible

/-- Something the page was asked to do that rules can react to. -/
inductive Event where
  /-- A click on an element. -/
  | click (selector : Selector)
  /-- A navigation to a URL. -/
  | navigate (url : String)
  /-- A click of the pointer at a point. -/
  | pointerClick
  /-- A pause. -/
  | sleep

/-- The events a rule watches. -/
inductive Trigger where
  /-- Clicks, on the element with the given key when one is given. -/
  | click (key : Option String)
  /-- Navigations, to URLs containing the given text when one is given. -/
  | navigate (urlPart : Option String)
  /-- Pointer clicks. -/
  | pointerClick
  /-- Pauses. -/
  | sleep
  deriving Inhabited

/-- A change a rule makes to the page. -/
inductive Action where
  /-- Fix the visibility of the element with a key, creating a bare element when absent. -/
  | setVisible (key : String) (visible : Bool)
  /-- Replace the element with a key. -/
  | setElement (key : String) (element : Element)
  /-- Remove the element with a key. -/
  | remove (key : String)
  /-- Change the document title. -/
  | setTitle (title : String)
  /-- Change the current URL. -/
  | setUrl (url : String)
  /-- Make every later wait for network idle fail. -/
  | failIdle (failure : Failure)
  /-- Let waits for network idle succeed again. -/
  | clearIdle
  /-- Cancel the request that drives the page. -/
  | cancel

/-- A reaction to events, with the number of matching events seen and of applications made. -/
structure Rule where
  /-- The events watched. -/
  trigger : Trigger
  /-- The number of first matches that pass without effect. -/
  skip : Int := 0
  /-- The number of applications after which the rule stops; zero or less is no limit. -/
  times : Int := 0
  /-- The failure the event gets when the rule applies. -/
  failure : Option Failure := none
  /-- The changes made when the rule applies. -/
  actions : List Action := []
  /-- Matching events seen so far. -/
  seen : Nat := 0
  /-- Applications made so far. -/
  applied : Nat := 0
  deriving Inhabited

/-- Whether a trigger watches an event. -/
def Trigger.accepts : Trigger → Event → Bool
  | .click none, .click _ => true
  | .click (some key), .click s => s.render == key
  | .navigate none, .navigate _ => true
  | .navigate (some part), .navigate url => Text.contains url part
  | .pointerClick, .pointerClick => true
  | .sleep, .sleep => true
  | _, _ => false

end DashboardHarness

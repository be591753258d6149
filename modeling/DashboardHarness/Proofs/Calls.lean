import DashboardHarness.Browser.Page
import Mathlib.Logic.Function.Iterate

/-!
# Page calls, one equation each

What running a page call does to a scripted page: the answer, and the page it leaves. Every
call but closing first checks that the request is live; on a cancelled request it fails with
`canceled` and leaves the page as it was. On a live page the equations below say the rest.
Calls that end by running rules leave the page that the rules leave (`Page.react`), and fail
with the rules' failure. No call reads the record, and no rule writes it.

Main results:

- `Browse.run_bind`: a bound call runs its second part on the page the first part leaves,
  unless the first part fails.
- `Page.react_mapTrace`: what the rules do to a page does not depend on its record.
- `Page.click_run`, `Page.sleep_run`, `Page.isVisible_run` and the others: one equation per
  call on a live page.
-/

namespace DashboardHarness

/-! ## Keyed lists -/

namespace Keyed

variable {α β : Type} [BEq α] [LawfulBEq α]

/-- Setting one key leaves every other key's value alone. -/
@[simp]
theorem get_set_ne {k k' : α} (h : k' ≠ k) (v : β) (l : List (α × β)) :
    get? k (set k' v l) = get? k l := by
  induction l with
  | nil =>
    have hne : (k' == k) = false := beq_false_of_ne h
    simp [set, get?, hne]
  | cons entry rest ih =>
    obtain ⟨a, b⟩ := entry
    by_cases ha : a = k'
    · subst ha
      have hne : (a == k) = false := beq_false_of_ne h
      simp [set, get?, hne]
    · have hne : (a == k') = false := beq_false_of_ne ha
      by_cases hk : a = k
      · subst hk
        simp [set, get?, hne]
      · simp [set, get?, hne, hk, ih]

/-- Erasing one key leaves every other key's value alone. -/
@[simp]
theorem get_erase_ne {k k' : α} (h : k' ≠ k) (l : List (α × β)) :
    get? k (erase k' l) = get? k l := by
  induction l with
  | nil => rfl
  | cons entry rest ih =>
    obtain ⟨a, b⟩ := entry
    by_cases ha : a = k'
    · subst ha
      have hne : (a == k) = false := beq_false_of_ne h
      simp [erase, get?, hne, ih]
    · have hne : (a == k') = false := beq_false_of_ne ha
      by_cases hk : a = k
      · subst hk
        simp [erase, get?, hne]
      · simp [erase, get?, hne, hk, ih]

/-- A bump adds one to the key's count, which starts at zero. -/
theorem count_bump_self (k : α) (l : List (α × Nat)) :
    (get? k (bump k l)).getD 0 = (get? k l).getD 0 + 1 := by
  simp [bump, modify, get_set_self]

end Keyed

/-! ## Running composed calls -/

namespace Browse

variable {α β : Type}

@[simp]
theorem run_pure (a : α) (p : Page) : (pure a : Browse α).run p = (.ok a, p) :=
  rfl

@[simp]
theorem run_throw (e : Failure) (p : Page) : (throw e : Browse α).run p = (.error e, p) :=
  rfl

/-- A failure skips the rest of the call. -/
@[simp]
theorem throw_bind (e : Failure) (f : α → Browse β) : (throw e >>= f : Browse β) = throw e :=
  rfl

@[simp]
theorem run_get (p : Page) : (get : Browse Page).run p = (.ok p, p) :=
  rfl

@[simp]
theorem run_set (p q : Page) : (set q : Browse Unit).run p = (.ok (), q) :=
  rfl

@[simp]
theorem run_modify (f : Page → Page) (p : Page) :
    (modify f : Browse Unit).run p = (.ok (), f p) :=
  rfl

/-- A bound call runs its second part on the page that the first part leaves, unless the first
part fails, which ends the call there. -/
theorem run_bind (m : Browse α) (f : α → Browse β) (p : Page) :
    (m >>= f).run p = match m.run p with
      | (.ok a, q) => (f a).run q
      | (.error e, q) => (.error e, q) := by
  rw [ExceptT.run_bind]
  change StateT.bind _ _ p = _
  simp only [StateT.bind]
  rcases ExceptT.run m p with ⟨_ | a, q⟩ <;> rfl

theorem run_bind_ok {m : Browse α} {p q : Page} {a : α} (h : m.run p = (.ok a, q))
    (f : α → Browse β) : (m >>= f).run p = (f a).run q := by
  rw [run_bind, h]

theorem run_bind_error {m : Browse α} {p q : Page} {e : Failure} (h : m.run p = (.error e, q))
    (f : α → Browse β) : (m >>= f).run p = (.error e, q) := by
  rw [run_bind, h]

/-- A handled call answers as the call did when it succeeds, and as the handler does, from the
page the call left, when it fails. -/
theorem run_tryCatch (m : Browse α) (h : Failure → Browse α) (p : Page) :
    (tryCatch m h).run p = match m.run p with
      | (.ok a, q) => (.ok a, q)
      | (.error e, q) => (h e).run q := by
  rw [ExceptT.run_tryCatch]
  change StateT.bind _ _ p = _
  simp only [StateT.bind]
  rcases ExceptT.run m p with ⟨_ | a, q⟩ <;> rfl

/-- Putting a failure under another one changes no answer but a failure. -/
theorem run_mapFailure (f : Failure → Failure) (m : Browse α) (p : Page) :
    (Page.mapFailure f m).run p = match m.run p with
      | (.ok a, q) => (.ok a, q)
      | (.error e, q) => (.error (f e), q) := by
  unfold Page.mapFailure
  rw [run_tryCatch]
  rcases m.run p with ⟨_ | a, q⟩ <;> rfl

/-- A call that succeeds after another ran the first to success. -/
theorem run_bind_eq_ok {m : Browse α} {f : α → Browse β} {p q : Page} {b : β}
    (h : (m >>= f).run p = (.ok b, q)) :
    ∃ a q₁, m.run p = (.ok a, q₁) ∧ (f a).run q₁ = (.ok b, q) := by
  rw [run_bind] at h
  rcases hm : m.run p with ⟨_ | a, q₁⟩
  · rw [hm] at h
    cases h
  · rw [hm] at h
    exact ⟨a, q₁, rfl, h⟩

/-- A call whose failures are put under another one succeeds exactly as the call does. -/
theorem run_mapFailure_eq_ok {f : Failure → Failure} {m : Browse α} {p q : Page} {a : α}
    (h : (Page.mapFailure f m).run p = (.ok a, q)) : m.run p = (.ok a, q) := by
  rw [run_mapFailure] at h
  rcases hm : m.run p with ⟨_ | b, q₁⟩
  · rw [hm] at h
    cases h
  · rw [hm] at h
    exact h

theorem run_stage_ok {m : Browse α} {p q : Page} {a : α} (h : m.run p = (.ok a, q))
    (words : String) : (Page.stage words m).run p = (.ok a, q) := by
  rw [Page.stage, run_mapFailure, h]

theorem run_stage_error {m : Browse α} {p q : Page} {e : Failure} (h : m.run p = (.error e, q))
    (words : String) : (Page.stage words m).run p = (.error (.context words e), q) := by
  rw [Page.stage, run_mapFailure, h]

/-- Putting a failure under another one leaves the page the call leaves. -/
theorem mapFailure_page (f : Failure → Failure) (m : Browse α) (p : Page) :
    ((Page.mapFailure f m).run p).2 = (m.run p).2 := by
  rw [run_mapFailure]
  rcases m.run p with ⟨_ | a, q⟩ <;> rfl

/-- A stage leaves the page its call leaves, whatever the answer. -/
theorem stage_page (words : String) (m : Browse α) (p : Page) :
    ((Page.stage words m).run p).2 = (m.run p).2 :=
  mapFailure_page _ m p

end Browse

namespace Page

open Browse

/-! ## Records, views and rules -/

/-- The page with its record changed. -/
def mapTrace (f : Trace → Trace) (p : Page) : Page :=
  { p with trace := f p.trace }

@[simp]
theorem mapTrace_trace (f : Trace → Trace) (p : Page) : (p.mapTrace f).trace = f p.trace :=
  rfl

@[simp]
theorem mapTrace_elements (f : Trace → Trace) (p : Page) :
    (p.mapTrace f).elements = p.elements :=
  rfl

@[simp]
theorem mapTrace_pointer (f : Trace → Trace) (p : Page) : (p.mapTrace f).pointer = p.pointer :=
  rfl

@[simp]
theorem mapTrace_cancelled (f : Trace → Trace) (p : Page) :
    (p.mapTrace f).cancelled = p.cancelled :=
  rfl

@[simp]
theorem mapTrace_idleFailure (f : Trace → Trace) (p : Page) :
    (p.mapTrace f).idleFailure = p.idleFailure :=
  rfl

@[simp]
theorem mapTrace_rules (f : Trace → Trace) (p : Page) : (p.mapTrace f).rules = p.rules :=
  rfl

@[simp]
theorem mapTrace_mapTrace (f g : Trace → Trace) (p : Page) :
    (p.mapTrace f).mapTrace g = p.mapTrace (g ∘ f) :=
  rfl

/-- Whether the element of a selector shows where the pointer stands: a missing element or an
invalid selector does not. This is the answer of a visibility check. -/
def shows (p : Page) (s : Selector) : Bool :=
  match p.lookup s with
  | .ok e => e.shownAt p.pointer
  | .error _ => false

@[simp]
theorem lookup_mapTrace (f : Trace → Trace) (p : Page) (s : Selector) :
    (p.mapTrace f).lookup s = p.lookup s :=
  rfl

@[simp]
theorem shows_mapTrace (f : Trace → Trace) (p : Page) (s : Selector) :
    (p.mapTrace f).shows s = p.shows s :=
  rfl

@[simp]
theorem visibleElement_mapTrace (f : Trace → Trace) (p : Page) (s : Selector) :
    (p.mapTrace f).visibleElement s = p.visibleElement s :=
  rfl

/-- The element that must be visible is there exactly when the selector shows. -/
theorem visibleElement_isOk (p : Page) (s : Selector) :
    (∃ e, p.visibleElement s = .ok e) ↔ p.shows s = true := by
  unfold visibleElement shows
  rcases p.lookup s with f | e
  · simp
  · by_cases h : e.shownAt p.pointer <;> simp [h]

/-- An element that is visible is the one the selector looks up. -/
theorem lookup_of_visibleElement {p : Page} {s : Selector} {e : Element}
    (h : p.visibleElement s = .ok e) : p.lookup s = .ok e := by
  unfold visibleElement at h
  rcases hl : p.lookup s with f | e'
  · rw [hl] at h
    cases h
  · rw [hl] at h
    by_cases hs : e'.shownAt p.pointer
    · simp only [hs, if_true, Except.ok.injEq] at h
      rw [h]
    · simp [hs] at h

/-- The page that the rules of an event leave, with their new counts, and the first failure
among the rules that applied. -/
def react (p : Page) (event : Event) : Page × Option Failure :=
  let (rules, p', failure) := offer event p.rules p
  ({ p' with rules := rules }, failure)

@[simp]
theorem applyAction_mapTrace (f : Trace → Trace) (p : Page) (a : Action) :
    (p.mapTrace f).applyAction a = (p.applyAction a).mapTrace f := by
  cases a <;> rfl

@[simp]
theorem applyAction_trace (p : Page) (a : Action) : (p.applyAction a).trace = p.trace := by
  cases a <;> rfl

@[simp]
theorem applyAction_pointer (p : Page) (a : Action) : (p.applyAction a).pointer = p.pointer := by
  cases a <;> rfl

theorem foldl_applyAction_mapTrace (f : Trace → Trace) (actions : List Action) (p : Page) :
    actions.foldl applyAction (p.mapTrace f) = (actions.foldl applyAction p).mapTrace f := by
  induction actions generalizing p with
  | nil => rfl
  | cons a rest ih => simp only [List.foldl_cons, applyAction_mapTrace, ih]

theorem foldl_applyAction_trace (actions : List Action) (p : Page) :
    (actions.foldl applyAction p).trace = p.trace := by
  induction actions generalizing p with
  | nil => rfl
  | cons a rest ih => simp only [List.foldl_cons, ih, applyAction_trace]

theorem foldl_applyAction_pointer (actions : List Action) (p : Page) :
    (actions.foldl applyAction p).pointer = p.pointer := by
  induction actions generalizing p with
  | nil => rfl
  | cons a rest ih => simp only [List.foldl_cons, ih, applyAction_pointer]

/-- Offering an event to rules treats pages that differ only in their record alike. -/
theorem offer_mapTrace (f : Trace → Trace) (event : Event) (rules : List Rule) (p : Page) :
    offer event rules (p.mapTrace f) =
      ((offer event rules p).1, (offer event rules p).2.1.mapTrace f,
        (offer event rules p).2.2) := by
  induction rules generalizing p with
  | nil => rfl
  | cons r rest ih =>
    simp only [offer]
    split
    · split
      · rw [ih]
      · rw [foldl_applyAction_mapTrace, ih]
    · rw [ih]

theorem offer_trace (event : Event) (rules : List Rule) (p : Page) :
    (offer event rules p).2.1.trace = p.trace := by
  induction rules generalizing p with
  | nil => rfl
  | cons r rest ih =>
    simp only [offer]
    split
    · split
      · exact ih p
      · rw [ih, foldl_applyAction_trace]
    · exact ih p

theorem offer_pointer (event : Event) (rules : List Rule) (p : Page) :
    (offer event rules p).2.1.pointer = p.pointer := by
  induction rules generalizing p with
  | nil => rfl
  | cons r rest ih =>
    simp only [offer]
    split
    · split
      · exact ih p
      · rw [ih, foldl_applyAction_pointer]
    · exact ih p

/-- What the rules do to a page does not depend on its record. -/
@[simp]
theorem react_mapTrace (f : Trace → Trace) (p : Page) (event : Event) :
    (p.mapTrace f).react event = ((p.react event).1.mapTrace f, (p.react event).2) := by
  unfold react
  rw [mapTrace_rules, offer_mapTrace]
  rfl

/-- Rules never write the record. -/
@[simp]
theorem react_trace (p : Page) (event : Event) : (p.react event).1.trace = p.trace :=
  offer_trace event p.rules p

/-- Rules never move the pointer. -/
@[simp]
theorem react_pointer (p : Page) (event : Event) : (p.react event).1.pointer = p.pointer :=
  offer_pointer event p.rules p

/-- The outcome of a call that ends with the rules' failure, if any. -/
def outcome : Option Failure → Except Failure Unit
  | none => .ok ()
  | some f => .error f

theorem record_eq (f : Trace → Trace) : record f = modify (mapTrace f) :=
  rfl

theorem fire_run (event : Event) (p : Page) :
    (fire event).run p = (outcome (p.react event).2, (p.react event).1) := by
  unfold fire react
  simp only [run_bind, run_get, run_set]
  rcases offer event p.rules p with ⟨rules, p', _ | f⟩ <;> rfl

/-! ## Calls on a cancelled request -/

section Cancelled

variable {p : Page} (hp : p.cancelled = true)
include hp

theorem live_run_cancelled : live.run p = (.error (.kind .canceled), p) := by
  simp only [live, run_bind, run_get, hp, if_true, run_throw]

/-- Every call that checks the request first fails at once on a cancelled one. -/
theorem run_live_bind_cancelled {α : Type} (f : Unit → Browse α) :
    (live >>= f).run p = (.error (.kind .canceled), p) :=
  run_bind_error (live_run_cancelled hp) f

end Cancelled

/-! ## Calls on a live request -/

section Live

variable {p : Page} (hp : p.cancelled = false)
include hp

theorem live_run : live.run p = (.ok (), p) := by
  simp only [live, run_bind, run_get, hp, Bool.false_eq_true, if_false, run_pure]

theorem run_live_bind {α : Type} (f : Unit → Browse α) : (live >>= f).run p = (f ()).run p :=
  run_bind_ok (live_run hp) f

theorem readTitle_run : readTitle.run p = (.ok p.title, p) := by
  rw [readTitle, run_live_bind hp]
  rfl

theorem readUrl_run : readUrl.run p = (.ok p.url, p) := by
  rw [readUrl, run_live_bind hp]
  rfl

theorem waitNetworkIdle_run :
    waitNetworkIdle.run p =
      (outcome p.idleFailure, p.mapTrace fun t => { t with idleWaits := t.idleWaits + 1 }) := by
  rw [waitNetworkIdle, run_live_bind hp]
  simp only [record_eq, run_bind, run_modify, run_get, mapTrace_idleFailure]
  rcases hf : p.idleFailure with _ | f <;> rfl

theorem navigate_run (url : String) :
    (navigate url).run p =
      let q := { p with url := url,
                        trace := { p.trace with navigations := p.trace.navigations.push url } }
      (outcome (q.react (.navigate url)).2, (q.react (.navigate url)).1) := by
  rw [navigate, run_live_bind hp]
  simp only [run_bind, run_modify, fire_run]

theorem fill_run (s : Selector) (value : String) :
    (fill s value).run p =
      match p.visibleElement s with
      | .error f => (.error f, p)
      | .ok _ =>
        (.ok (), p.mapTrace fun t => { t with fills := Keyed.set s.render value t.fills }) := by
  rw [fill, run_live_bind hp]
  simp only [require, run_bind, run_get, record_eq, run_modify]
  rcases p.visibleElement s with f | e <;> rfl

theorem click_run (s : Selector) (options : ClickOptions) :
    (click s options).run p =
      match p.visibleElement s with
      | .error f => (.error f, p)
      | .ok _ =>
        let q := p.mapTrace fun t => { t with clicks := t.clicks.push ⟨s, options⟩ }
        (outcome (q.react (.click s)).2, (q.react (.click s)).1) := by
  rw [click, run_live_bind hp]
  simp only [require, run_bind, run_get]
  rcases p.visibleElement s with f | e
  · rfl
  · simp only [run_pure, record_eq, run_modify, fire_run]

/-- A click on an element that shows, where the rules of the click do not fail, is recorded and
leaves the page the rules leave. -/
theorem click_run_shows {s : Selector} (hs : p.shows s = true)
    (hquiet : (p.react (.click s)).2 = none) (options : ClickOptions) :
    (click s options).run p =
      (.ok (), (p.react (.click s)).1.mapTrace fun t =>
        { t with clicks := t.clicks.push ⟨s, options⟩ }) := by
  obtain ⟨e, he⟩ := (visibleElement_isOk p s).mpr hs
  rw [click_run hp, he]
  simp only [react_mapTrace, hquiet, outcome]

theorem waitVisible_run (s : Selector) :
    (waitVisible s).run p =
      match p.visibleElement s with
      | .error f => (.error f, p)
      | .ok _ => (.ok (), p) := by
  rw [waitVisible, run_live_bind hp]
  simp only [require, run_bind, run_get]
  rcases p.visibleElement s with f | e <;> rfl

theorem waitHidden_run (s : Selector) :
    (waitHidden s).run p =
      match p.lookup s with
      | .error _ => (.ok (), p)
      | .ok e =>
        if e.shownAt p.pointer then (.error (.detail .timeout (s.render ++ " still visible")), p)
        else (.ok (), p) := by
  rw [waitHidden, run_live_bind hp]
  simp only [run_bind, run_get]
  rcases p.lookup s with f | e
  · rfl
  · by_cases h : e.shownAt p.pointer <;> simp [h]

theorem isVisible_run (s : Selector) :
    (isVisible s).run p =
      (.ok (p.shows s),
        p.mapTrace fun t =>
          { t with visibilityChecks := Keyed.bump s.render t.visibilityChecks }) := by
  rw [isVisible, run_live_bind hp]
  simp only [record_eq, run_bind, run_modify, run_get, lookup_mapTrace, mapTrace_pointer]
  unfold shows
  rcases p.lookup s with f | e <;> rfl

theorem count_run (s : Selector) :
    (count s).run p =
      (.ok (match p.lookup s with
        | .error _ => 0
        | .ok e => if 0 < e.count then e.count else 1), p) := by
  rw [count, run_live_bind hp]
  simp only [run_bind, run_get]
  rcases p.lookup s with f | e <;> rfl

theorem boundingBox_run (s : Selector) :
    (boundingBox s).run p =
      let q := p.mapTrace fun t => { t with boxQueries := Keyed.bump s.render t.boxQueries }
      match p.lookup s with
      | .error f => (.error f, q)
      | .ok e => (.ok e.box, q) := by
  rw [boundingBox, run_live_bind hp]
  simp only [record_eq, require, run_bind, run_modify, run_get, lookup_mapTrace]
  rcases p.lookup s with f | e <;> rfl

theorem readAttribute_run (s : Selector) (name : String) :
    (readAttribute s name).run p =
      match p.lookup s with
      | .error f => (.error f, p)
      | .ok e => (.ok ((Keyed.get? name e.attributes).getD ""), p) := by
  rw [readAttribute, run_live_bind hp]
  simp only [require, run_bind, run_get]
  rcases p.lookup s with f | e <;> rfl

theorem innerText_run (s : Selector) :
    (innerText s).run p =
      match p.lookup s with
      | .error f => (.error f, p)
      | .ok e => (.ok e.text, p) := by
  rw [innerText, run_live_bind hp]
  simp only [require, run_bind, run_get]
  rcases p.lookup s with f | e <;> rfl

theorem mouseMove_run (point : Point) :
    (mouseMove point).run p =
      (.ok (), { p with pointer := point, trace := p.trace.recordMove point }) := by
  rw [mouseMove, run_live_bind hp]
  rfl

theorem mouseClick_run (point : Point) (options : ClickOptions) :
    (mouseClick point options).run p =
      let q := { p with
        pointer := point,
        trace := { p.trace with pointerClicks := p.trace.pointerClicks.push ⟨point, options⟩ } }
      (outcome (q.react .pointerClick).2, (q.react .pointerClick).1) := by
  rw [mouseClick, run_live_bind hp]
  simp only [run_bind, run_modify, fire_run]

theorem sleep_run (nanos : Int) :
    (sleep nanos).run p =
      let q := p.mapTrace fun t => { t with sleeps := t.sleeps.push nanos }
      (outcome (q.react .sleep).2, (q.react .sleep).1) := by
  rw [sleep, run_live_bind hp]
  simp only [record_eq, run_bind, run_modify, fire_run]

end Live

/-- Closing is counted, also on a cancelled request. -/
theorem close_run (p : Page) :
    close.run p = (.ok (), p.mapTrace fun t => { t with closes := t.closes + 1 }) :=
  rfl

end Page

end DashboardHarness

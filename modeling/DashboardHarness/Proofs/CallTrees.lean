import DashboardHarness.Proofs.Calls
import Mathlib

/-!
# Call trees

A workflow of the harness is a program over the calls of a scripted page. Written as a tree of
those calls, it can be run in two ways. `CallTree.run` runs it as the workflow runs.
`CallTree.exec` runs it the same way and, of a run that failed, also says whether it stopped at a
page call and what that call returned.

A run stops at a page call when the call's failure travels up to the end of the run: past the
steps after it, under the words that stages put in front of it, and not turned into an answer on
the way. A tree can only put words in front of a failure (`Wrapper`), keeping the failure as
its cause, or turn a failure into an answer (`CallTree.absorb`), after which the run goes on.

Main results:

- `CallTree.exec_run`: forgetting where it stopped, the instrumented run is the run.
- `CallTree.exec_stop_wrappers`: a run that stopped at a page call fails with that call's failure
  under the wrappers it met on its way out.
- `CallTree.StopsAt.wraps`: a run that stops at a page call fails with a failure that has the
  call's failure in its chain of causes.
- `CallTree.StopsAt.hasKind`: a run that stops at a call that only wrappers of a kind enclose
  fails with a failure of that kind.
-/

namespace DashboardHarness

/-- A call of a scripted page, with its arguments. -/
inductive Call where
  | navigate (url : String)
  | readTitle
  | readUrl
  | waitNetworkIdle
  | fill (s : Selector) (value : String)
  | click (s : Selector) (options : ClickOptions)
  | waitVisible (s : Selector)
  | waitHidden (s : Selector)
  | isVisible (s : Selector)
  | count (s : Selector)
  | boundingBox (s : Selector)
  | readAttribute (s : Selector) (name : String)
  | innerText (s : Selector)
  | scrollIntoView (s : Selector)
  | mouseMove (point : Point)
  | mouseClick (point : Point) (options : ClickOptions)
  | sleep (nanos : Int)

namespace Call

/-- What a call answers when it succeeds. -/
def Answer : Call → Type
  | .readTitle | .readUrl | .readAttribute _ _ | .innerText _ => String
  | .isVisible _ => Bool
  | .count _ => Int
  | .boundingBox _ => Box
  | _ => Unit

/-- The page call itself. -/
def run : (c : Call) → Browse c.Answer
  | .navigate url => Page.navigate url
  | .readTitle => Page.readTitle
  | .readUrl => Page.readUrl
  | .waitNetworkIdle => Page.waitNetworkIdle
  | .fill s value => Page.fill s value
  | .click s options => Page.click s options
  | .waitVisible s => Page.waitVisible s
  | .waitHidden s => Page.waitHidden s
  | .isVisible s => Page.isVisible s
  | .count s => Page.count s
  | .boundingBox s => Page.boundingBox s
  | .readAttribute s name => Page.readAttribute s name
  | .innerText s => Page.innerText s
  | .scrollIntoView s => Page.scrollIntoView s
  | .mouseMove point => Page.mouseMove point
  | .mouseClick point options => Page.mouseClick point options
  | .sleep nanos => Page.sleep nanos

end Call

/-- What a stage puts in front of a failure: its words, or a kind with words. Either way the
failure stays the cause of the new one. -/
inductive Wrapper where
  | context (text : String)
  | detailCause (k : Kind) (text : String)

namespace Wrapper

/-- The failure with the wrapper in front. -/
def apply : Wrapper → Failure → Failure
  | .context text, f => .context text f
  | .detailCause k text, f => .detailCause k text f

/-- The kind a wrapper names, if any. -/
def sentinel : Wrapper → Option Kind
  | .context _ => none
  | .detailCause k _ => some k

@[simp] theorem sentinel_context (text : String) : (context text).sentinel = none := rfl
@[simp] theorem sentinel_detailCause (k : Kind) (text : String) :
    (detailCause k text).sentinel = some k := rfl

theorem wraps_apply (w : Wrapper) {f g : Failure} (h : f.Wraps g) : (w.apply f).Wraps g := by
  cases w with
  | context text => exact .context text h
  | detailCause k text => exact .detailCause k text h

theorem hasKind_apply (w : Wrapper) {f : Failure} {k : Kind} (h : f.hasKind k = true) :
    (w.apply f).hasKind k = true := by
  cases w <;> simp [apply, Failure.hasKind, h]

theorem hasKind_apply_sentinel {w : Wrapper} {k : Kind} (h : w.sentinel = some k) (f : Failure) :
    (w.apply f).hasKind k = true := by
  cases w with
  | context text => cases h
  | detailCause k' text =>
    cases h
    simp [apply, Failure.hasKind]

/-- A failure under any wrappers keeps it in its chain of causes. -/
theorem wraps_foldr (ws : List Wrapper) (f : Failure) : (ws.foldr apply f).Wraps f := by
  induction ws with
  | nil => exact .refl f
  | cons w ws ih => exact w.wraps_apply ih

/-- A failure under wrappers one of which names `k` has kind `k`, whatever wrappers are put
around that one. -/
theorem hasKind_foldr {ws : List Wrapper} {w : Wrapper} {k : Kind} (hw : w ∈ ws)
    (hk : w.sentinel = some k) (f : Failure) : (ws.foldr apply f).hasKind k = true := by
  induction ws with
  | nil => cases hw
  | cons w' ws ih =>
    rcases List.mem_cons.1 hw with rfl | hmem
    · exact hasKind_apply_sentinel hk _
    · exact w'.hasKind_apply (ih hmem)

end Wrapper

/-- A program over page calls: an answer, a call, a failure of its own, one part after another,
a part under a wrapper, or a part whose failures that pass a test become answers. -/
inductive CallTree : Type → Type 1 where
  | done {α : Type} (a : α) : CallTree α
  | call (c : Call) : CallTree c.Answer
  | fail {α : Type} (f : Failure) : CallTree α
  | seq {α β : Type} (m : CallTree β) (next : β → CallTree α) : CallTree α
  | wrap {α : Type} (w : Wrapper) (m : CallTree α) : CallTree α
  | absorb {α : Type} (m : CallTree α) (caught : Failure → Bool) (value : Failure → α) :
      CallTree α

namespace CallTree

instance : Monad CallTree where
  pure := done
  bind := seq

/-- Runs a tree on a scripted page, as the workflow it writes runs. -/
def run : {α : Type} → CallTree α → Browse α
  | _, .done a => pure a
  | _, .call c => c.run
  | _, .fail f => throw f
  | _, .seq m next => m.run >>= fun b => (next b).run
  | _, .wrap w m => Page.mapFailure w.apply m.run
  | _, .absorb m caught value =>
    tryCatch m.run fun e => if caught e then pure (value e) else throw e

/-! ## The page calls as trees -/

section Calls

variable {α : Type}

/-- A stage: its words go in front of the failure of its part. -/
def stage (words : String) (m : CallTree α) : CallTree α := .wrap (.context words) m

def navigate (url : String) : CallTree Unit := .call (.navigate url)
def readTitle : CallTree String := .call .readTitle
def readUrl : CallTree String := .call .readUrl
def waitNetworkIdle : CallTree Unit := .call .waitNetworkIdle
def fill (s : Selector) (value : String) : CallTree Unit := .call (.fill s value)
def click (s : Selector) (options : ClickOptions) : CallTree Unit := .call (.click s options)
def waitVisible (s : Selector) : CallTree Unit := .call (.waitVisible s)
def waitHidden (s : Selector) : CallTree Unit := .call (.waitHidden s)
def isVisible (s : Selector) : CallTree Bool := .call (.isVisible s)
def count (s : Selector) : CallTree Int := .call (.count s)
def boundingBox (s : Selector) : CallTree Box := .call (.boundingBox s)
def readAttribute (s : Selector) (name : String) : CallTree String := .call (.readAttribute s name)
def innerText (s : Selector) : CallTree String := .call (.innerText s)
def scrollIntoView (s : Selector) : CallTree Unit := .call (.scrollIntoView s)
def mouseMove (point : Point) : CallTree Unit := .call (.mouseMove point)
def mouseClick (point : Point) (options : ClickOptions) : CallTree Unit :=
  .call (.mouseClick point options)
def sleep (nanos : Int) : CallTree Unit := .call (.sleep nanos)

@[simp] theorem run_pure (a : α) : (pure a : CallTree α).run = pure a := rfl
@[simp] theorem run_seq {β : Type} (m : CallTree β) (next : β → CallTree α) :
    (m >>= next).run = m.run >>= fun b => (next b).run := rfl
@[simp] theorem run_fail (f : Failure) : (CallTree.fail f : CallTree α).run = throw f := rfl
@[simp] theorem run_stage (words : String) (m : CallTree α) :
    (stage words m).run = Page.stage words m.run := rfl
@[simp] theorem run_detailCause (k : Kind) (text : String) (m : CallTree α) :
    (CallTree.wrap (.detailCause k text) m).run = Page.mapFailure (.detailCause k text) m.run :=
  rfl

@[simp] theorem run_ite (c : Prop) [Decidable c] (a b : CallTree α) :
    (if c then a else b).run = if c then a.run else b.run := by
  split <;> rfl

@[simp] theorem run_navigate (url : String) : (navigate url).run = Page.navigate url := rfl
@[simp] theorem run_readTitle : readTitle.run = Page.readTitle := rfl
@[simp] theorem run_readUrl : readUrl.run = Page.readUrl := rfl
@[simp] theorem run_waitNetworkIdle : waitNetworkIdle.run = Page.waitNetworkIdle := rfl
@[simp] theorem run_fill (s : Selector) (value : String) :
    (fill s value).run = Page.fill s value := rfl
@[simp] theorem run_click (s : Selector) (options : ClickOptions) :
    (click s options).run = Page.click s options := rfl
@[simp] theorem run_waitVisible (s : Selector) : (waitVisible s).run = Page.waitVisible s := rfl
@[simp] theorem run_waitHidden (s : Selector) : (waitHidden s).run = Page.waitHidden s := rfl
@[simp] theorem run_isVisible (s : Selector) : (isVisible s).run = Page.isVisible s := rfl
@[simp] theorem run_count (s : Selector) : (count s).run = Page.count s := rfl
@[simp] theorem run_boundingBox (s : Selector) : (boundingBox s).run = Page.boundingBox s := rfl
@[simp] theorem run_readAttribute (s : Selector) (name : String) :
    (readAttribute s name).run = Page.readAttribute s name := rfl
@[simp] theorem run_innerText (s : Selector) : (innerText s).run = Page.innerText s := rfl
@[simp] theorem run_scrollIntoView (s : Selector) :
    (scrollIntoView s).run = Page.scrollIntoView s := rfl
@[simp] theorem run_mouseMove (point : Point) : (mouseMove point).run = Page.mouseMove point :=
  rfl
@[simp] theorem run_mouseClick (point : Point) (options : ClickOptions) :
    (mouseClick point options).run = Page.mouseClick point options := rfl
@[simp] theorem run_sleep (nanos : Int) : (sleep nanos).run = Page.sleep nanos := rfl

end Calls

/-! ## Calls that wrappers of a kind enclose -/

/-- Every call of the tree that no wrapper naming `k` encloses passes `P`. -/
def Outside (k : Kind) (P : Call → Prop) : {α : Type} → CallTree α → Prop
  | _, .done _ => True
  | _, .call c => P c
  | _, .fail _ => True
  | _, .seq m next => m.Outside k P ∧ ∀ b, (next b).Outside k P
  | _, .wrap w m => w.sentinel = some k ∨ m.Outside k P
  | _, .absorb m _ _ => m.Outside k P

section Outside

variable {α β : Type} {k : Kind} {P : Call → Prop}

@[simp] theorem outside_pure (a : α) : (pure a : CallTree α).Outside k P := trivial
@[simp] theorem outside_fail (f : Failure) : (CallTree.fail f : CallTree α).Outside k P := trivial
@[simp] theorem outside_call (c : Call) : (CallTree.call c).Outside k P ↔ P c := Iff.rfl
@[simp] theorem outside_bind (m : CallTree β) (next : β → CallTree α) :
    (m >>= next).Outside k P ↔ m.Outside k P ∧ ∀ b, (next b).Outside k P := Iff.rfl
@[simp] theorem outside_wrap (w : Wrapper) (m : CallTree α) :
    (CallTree.wrap w m).Outside k P ↔ w.sentinel = some k ∨ m.Outside k P := Iff.rfl
@[simp] theorem outside_stage (words : String) (m : CallTree α) :
    (stage words m).Outside k P ↔ m.Outside k P := by
  simp [stage]
@[simp] theorem outside_absorb (m : CallTree α) (caught : Failure → Bool) (value : Failure → α) :
    (CallTree.absorb m caught value).Outside k P ↔ m.Outside k P := Iff.rfl
@[simp] theorem outside_ite (c : Prop) [Decidable c] (a b : CallTree α) :
    (if c then a else b).Outside k P ↔ if c then a.Outside k P else b.Outside k P := by
  split <;> rfl

@[simp] theorem outside_navigate (url : String) : (navigate url).Outside k P ↔ P (.navigate url) :=
  Iff.rfl
@[simp] theorem outside_readTitle : readTitle.Outside k P ↔ P .readTitle := Iff.rfl
@[simp] theorem outside_readUrl : readUrl.Outside k P ↔ P .readUrl := Iff.rfl
@[simp] theorem outside_waitNetworkIdle : waitNetworkIdle.Outside k P ↔ P .waitNetworkIdle :=
  Iff.rfl
@[simp] theorem outside_fill (s : Selector) (value : String) :
    (fill s value).Outside k P ↔ P (.fill s value) := Iff.rfl
@[simp] theorem outside_click (s : Selector) (options : ClickOptions) :
    (click s options).Outside k P ↔ P (.click s options) := Iff.rfl
@[simp] theorem outside_waitVisible (s : Selector) :
    (waitVisible s).Outside k P ↔ P (.waitVisible s) := Iff.rfl
@[simp] theorem outside_waitHidden (s : Selector) :
    (waitHidden s).Outside k P ↔ P (.waitHidden s) := Iff.rfl
@[simp] theorem outside_isVisible (s : Selector) :
    (isVisible s).Outside k P ↔ P (.isVisible s) := Iff.rfl
@[simp] theorem outside_count (s : Selector) : (count s).Outside k P ↔ P (.count s) := Iff.rfl
@[simp] theorem outside_boundingBox (s : Selector) :
    (boundingBox s).Outside k P ↔ P (.boundingBox s) := Iff.rfl
@[simp] theorem outside_readAttribute (s : Selector) (name : String) :
    (readAttribute s name).Outside k P ↔ P (.readAttribute s name) := Iff.rfl
@[simp] theorem outside_innerText (s : Selector) :
    (innerText s).Outside k P ↔ P (.innerText s) := Iff.rfl
@[simp] theorem outside_scrollIntoView (s : Selector) :
    (scrollIntoView s).Outside k P ↔ P (.scrollIntoView s) := Iff.rfl
@[simp] theorem outside_mouseMove (point : Point) :
    (mouseMove point).Outside k P ↔ P (.mouseMove point) := Iff.rfl
@[simp] theorem outside_mouseClick (point : Point) (options : ClickOptions) :
    (mouseClick point options).Outside k P ↔ P (.mouseClick point options) := Iff.rfl
@[simp] theorem outside_sleep (nanos : Int) : (sleep nanos).Outside k P ↔ P (.sleep nanos) :=
  Iff.rfl

end Outside

/-! ## Where a run stopped -/

/-- The failure a run ended with and, when it stopped at a page call, that call and the failure
it returned. -/
structure Stop where
  failure : Failure
  cause : Option (Call × Failure)

/-- Runs a tree as `run` does and records, of a failed run, the page call it stopped at. -/
def exec : {α : Type} → CallTree α → Page → Except Stop α × Page
  | _, .done a, p => (.ok a, p)
  | _, .call c, p =>
    match (c.run).run p with
    | (.ok a, q) => (.ok a, q)
    | (.error e, q) => (.error ⟨e, some (c, e)⟩, q)
  | _, .fail f, p => (.error ⟨f, none⟩, p)
  | _, .seq m next, p =>
    match exec m p with
    | (.ok b, q) => exec (next b) q
    | (.error s, q) => (.error s, q)
  | _, .wrap w m, p =>
    match exec m p with
    | (.ok a, q) => (.ok a, q)
    | (.error s, q) => (.error ⟨w.apply s.failure, s.cause⟩, q)
  | _, .absorb m caught value, p =>
    match exec m p with
    | (.ok a, q) => (.ok a, q)
    | (.error s, q) => if caught s.failure then (.ok (value s.failure), q) else (.error s, q)

/-- Forgetting where it stopped, the instrumented run is the run: the same answer or failure,
and the same page. -/
theorem exec_run {α : Type} (t : CallTree α) (p : Page) :
    t.run.run p = ((t.exec p).1.mapError Stop.failure, (t.exec p).2) := by
  induction t generalizing p with
  | done a => rfl
  | call c =>
    simp only [exec, run]
    rcases (c.run).run p with ⟨_ | _, q⟩ <;> rfl
  | fail f => rfl
  | seq m next ihm ihnext =>
    simp only [exec, run, Browse.run_bind, ihm]
    rcases exec m p with ⟨_ | b, q⟩
    · rfl
    · exact ihnext b q
  | wrap w m ih =>
    simp only [exec, run, Browse.run_mapFailure, ih]
    rcases exec m p with ⟨_ | _, q⟩ <;> rfl
  | absorb m caught value ih =>
    simp only [exec, run, Browse.run_tryCatch, ih]
    rcases exec m p with ⟨s | a, q⟩
    · by_cases hc : caught s.failure <;> simp [hc, Except.mapError]
    · rfl

/-- The run of `t` from page `p` stopped at the page call `c`, which returned `e`, and failed
with `err`. -/
def StopsAt {α : Type} (t : CallTree α) (p : Page) (c : Call) (e err : Failure) : Prop :=
  ∃ q, t.exec p = (.error ⟨err, some (c, e)⟩, q)

/-- A run that stopped at a page call fails with that call's failure under the wrappers it met
on its way out, and nothing else: the steps after the call never ran, and no absorb caught it.
When the tree keeps the calls failing `P` under wrappers naming `k`, one of those wrappers is on
the way out of a call failing `P`. -/
theorem exec_stop_wrappers {α : Type} (t : CallTree α) (p q : Page) (s : Stop) (c : Call)
    (e : Failure) (h : t.exec p = (.error s, q)) (hcause : s.cause = some (c, e)) :
    ∃ ws : List Wrapper, s.failure = ws.foldr Wrapper.apply e ∧
      ∀ k P, t.Outside k P → ¬ P c → ∃ w ∈ ws, w.sentinel = some k := by
  induction t generalizing p q s with
  | done a => cases h
  | call c' =>
    simp only [exec] at h
    rcases hrun : (c'.run).run p with ⟨e' | a, q'⟩
    · rw [hrun] at h
      cases h
      cases hcause
      exact ⟨[], rfl, fun _ _ houtside hc => absurd houtside hc⟩
    · rw [hrun] at h
      cases h
  | fail f =>
    cases h
    cases hcause
  | seq m next ihm ihnext =>
    simp only [exec] at h
    rcases hm : exec m p with ⟨s' | b, q'⟩
    · rw [hm] at h
      cases h
      obtain ⟨ws, hfailure, hsentinel⟩ := ihm _ _ _ hm hcause
      exact ⟨ws, hfailure, fun k P houtside hc => hsentinel k P houtside.1 hc⟩
    · rw [hm] at h
      obtain ⟨ws, hfailure, hsentinel⟩ := ihnext b q' q s h hcause
      exact ⟨ws, hfailure, fun k P houtside hc => hsentinel k P (houtside.2 b) hc⟩
  | wrap w m ih =>
    simp only [exec] at h
    rcases hm : exec m p with ⟨s' | a, q'⟩
    · rw [hm] at h
      cases h
      obtain ⟨ws, hfailure, hsentinel⟩ := ih _ _ _ hm hcause
      refine ⟨w :: ws, by rw [hfailure]; rfl, fun k P houtside hc => ?_⟩
      -- either this wrapper names the kind, or the call sits under one inside it that does
      rcases houtside with hw | hinner
      · exact ⟨w, List.mem_cons_self, hw⟩
      · obtain ⟨w', hw', hk⟩ := hsentinel k P hinner hc
        exact ⟨w', List.mem_cons_of_mem w hw', hk⟩
    · rw [hm] at h
      cases h
  | absorb m caught value ih =>
    simp only [exec] at h
    rcases hm : exec m p with ⟨s' | a, q'⟩
    · rw [hm] at h
      by_cases hcaught : caught s'.failure
      · simp [hcaught] at h
      · simp only [hcaught] at h
        cases h
        exact ih p q s hm hcause
    · rw [hm] at h
      cases h

/-- A run that stops at a page call fails with a failure that has the call's failure in its
chain of causes. -/
theorem StopsAt.wraps {α : Type} {t : CallTree α} {p : Page} {c : Call} {e err : Failure}
    (h : t.StopsAt p c e err) : err.Wraps e := by
  obtain ⟨q, hq⟩ := h
  obtain ⟨ws, hfailure, -⟩ := exec_stop_wrappers t p q ⟨err, some (c, e)⟩ c e hq rfl
  have hfailure : err = ws.foldr Wrapper.apply e := hfailure
  rw [hfailure]
  exact Wrapper.wraps_foldr ws e

/-- A run that stops at a page call fails as the run does. -/
theorem StopsAt.run {α : Type} {t : CallTree α} {p : Page} {c : Call} {e err : Failure}
    (h : t.StopsAt p c e err) : ∃ q, t.run.run p = (.error err, q) := by
  obtain ⟨q, hq⟩ := h
  exact ⟨q, by rw [exec_run, hq]; rfl⟩

/-- A run that stops at a call that only wrappers naming `k` can enclose fails with a failure of
kind `k`: the call sits under such a wrapper, and the wrappers around that one keep the kind. -/
theorem StopsAt.hasKind {α : Type} {t : CallTree α} {k : Kind} {P : Call → Prop}
    (houtside : t.Outside k P) {p : Page} {c : Call} {e err : Failure}
    (h : t.StopsAt p c e err) (hc : ¬ P c) : err.hasKind k = true := by
  obtain ⟨q, hq⟩ := h
  obtain ⟨ws, hfailure, hsentinel⟩ := exec_stop_wrappers t p q ⟨err, some (c, e)⟩ c e hq rfl
  obtain ⟨w, hw, hk⟩ := hsentinel k P houtside hc
  have hfailure : err = ws.foldr Wrapper.apply e := hfailure
  rw [hfailure]
  exact Wrapper.hasKind_foldr hw hk e

end CallTree

end DashboardHarness

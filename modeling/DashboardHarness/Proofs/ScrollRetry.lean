import DashboardHarness.Proofs.Calls
import DashboardHarness.Browser.Interact

/-!
# Making an element interactable, call by call

`ensureInteractable` makes at most two attempts at an element. An attempt waits for the element
and, once it shows, runs the action. When the first attempt fails because the element timed out,
was not visible or was not found, the element is scrolled into view and a second attempt is
made. Any other failure ends the run at once, as it is.

`Ensures` says, rule by rule, how a run goes from a page: which of its own calls it makes (the
waits, the actions and the scroll, in order), what it answers and which page it leaves. The run
of `ensureInteractable` is exactly what these rules allow. The action is any call on the page;
it counts as one call however many page calls it makes itself. The scripted page answers a wait
at once, so the time a wait may take plays no part. A failed run answers its failure and no
outcome, so an outcome comes exactly with success.

Main results:

- `Interaction.ensureInteractable_run_valid`: the run of a valid selector, in terms of the runs
  of its attempts and of the scroll.
- `Interaction.ensureInteractable_iff`: a run answers `r` on page `q` exactly when the rules
  lead there.
- `Interaction.Ensures.count_act`, `Interaction.Ensures.count_scroll`: at most two actions and
  at most one scroll.
- `Interaction.ensureInteractable_attempts`: the run, its calls and their count, together.
-/

namespace DashboardHarness

namespace Interaction

open Browse

/-- The calls of its own that making an element interactable makes: a wait for the element, the
action, and a scroll into view. -/
inductive Step where
  | wait
  | act
  | scroll
  deriving DecidableEq, Repr

/-- One attempt: the wait for the element, then the action. -/
def attempt (s : Selector) (action : Browse Unit) : Browse Unit :=
  Page.waitVisible s >>= fun _ => action

/-- The words put in front of a failed scroll: the selector, and the failure that called for the
scroll. -/
def scrollWords (s : Selector) (f : Failure) : String :=
  "scroll " ++ s.render ++ " into view after " ++ f.message

/-- How one attempt goes from page `p`: it makes the calls `steps`, answers `r` and leaves page
`q`. -/
inductive Tried (s : Selector) (action : Browse Unit) :
    Page → List Step → Except Failure Unit → Page → Prop where
  /-- The wait fails, and the action is not run. -/
  | waitFails {p q : Page} {f : Failure} :
      (Page.waitVisible s).run p = (.error f, q) → Tried s action p [.wait] (.error f) q
  /-- The element shows, and the action runs with whatever answer. -/
  | acted {p p₁ q : Page} {r : Except Failure Unit} :
      (Page.waitVisible s).run p = (.ok (), p₁) → action.run p₁ = (r, q) →
      Tried s action p [.wait, .act] r q

/-- How making an element interactable goes from page `p`: it makes the calls `steps`, answers
`r` and leaves page `q`. -/
inductive Ensures (s : Selector) (action : Browse Unit) :
    Page → List Step → Except Failure Outcome → Page → Prop where
  /-- An invalid selector is refused before any call, with its own failure. -/
  | refused {p : Page} {f : Failure} :
      s.validate = .error f → Ensures s action p [] (.error f) p
  /-- The first attempt succeeds: the element was interactable at once. -/
  | acted {p q : Page} {steps : List Step} :
      s.validate = .ok () → Tried s action p steps (.ok ()) q →
      Ensures s action p steps (.ok .acted) q
  /-- The first attempt fails in a way a scroll cannot cure; that failure is the answer. -/
  | stopped {p q : Page} {steps : List Step} {f : Failure} :
      s.validate = .ok () → Tried s action p steps (.error f) q → f.isInteraction = false →
      Ensures s action p steps (.error f) q
  /-- The first attempt fails for want of the element, and the scroll into view fails too; its
  failure comes back under words that name the selector and the first failure. -/
  | scrollFails {p p₁ q : Page} {steps : List Step} {f e : Failure} :
      s.validate = .ok () → Tried s action p steps (.error f) p₁ → f.isInteraction = true →
      (Page.scrollIntoView s).run p₁ = (.error e, q) →
      Ensures s action p (steps ++ [.scroll]) (.error (.context (scrollWords s f) e)) q
  /-- The first attempt fails for want of the element, the scroll succeeds and a second attempt
  is made: it acted after the scroll when that attempt succeeds, and fails as it fails. -/
  | retried {p p₁ p₂ q : Page} {steps steps' : List Step} {f : Failure}
      {r : Except Failure Unit} :
      s.validate = .ok () → Tried s action p steps (.error f) p₁ → f.isInteraction = true →
      (Page.scrollIntoView s).run p₁ = (.ok (), p₂) → Tried s action p₂ steps' r q →
      Ensures s action p (steps ++ .scroll :: steps') (r.map fun _ => .actedAfterScroll) q

variable {s : Selector} {action : Browse Unit}

/-! ## One attempt -/

/-- An attempt runs as its rules say. -/
theorem Tried.run {p q : Page} {steps : List Step} {r : Except Failure Unit}
    (h : Tried s action p steps r q) : (attempt s action).run p = (r, q) := by
  cases h with
  | waitFails hwait => exact run_bind_error hwait _
  | acted hwait haction => rw [attempt, run_bind_ok hwait, haction]

/-- Every attempt goes by one of the rules. -/
theorem tried_of_run (p : Page) :
    ∃ steps, Tried s action p steps ((attempt s action).run p).1 ((attempt s action).run p).2 := by
  rcases hwait : (Page.waitVisible s).run p with ⟨f | u, p₁⟩
  · rw [Tried.run (.waitFails hwait)]
    exact ⟨_, .waitFails hwait⟩
  · rcases haction : action.run p₁ with ⟨r, q⟩
    rw [Tried.run (.acted hwait haction)]
    exact ⟨_, .acted hwait haction⟩

/-- An attempt waits once and acts at most once. -/
theorem Tried.steps_eq {p q : Page} {steps : List Step} {r : Except Failure Unit}
    (h : Tried s action p steps r q) : steps = [.wait] ∨ steps = [.wait, .act] := by
  cases h with
  | waitFails => exact .inl rfl
  | acted => exact .inr rfl

theorem Tried.count_act {p q : Page} {steps : List Step} {r : Except Failure Unit}
    (h : Tried s action p steps r q) : steps.count .act ≤ 1 := by
  rcases h.steps_eq with rfl | rfl <;> decide

theorem Tried.count_scroll {p q : Page} {steps : List Step} {r : Except Failure Unit}
    (h : Tried s action p steps r q) : steps.count .scroll = 0 := by
  rcases h.steps_eq with rfl | rfl <;> decide

/-! ## The whole run -/

/-- The run for a valid selector: the first attempt, then, after a failure that a scroll may
cure, the scroll and the second attempt. -/
theorem ensureInteractable_run_valid (hvalid : s.validate = .ok ()) (p : Page) :
    (ensureInteractable s action).run p =
      match (attempt s action).run p with
      | (.ok (), q) => (.ok .acted, q)
      | (.error f, q) =>
        if f.isInteraction then
          match (Page.scrollIntoView s).run q with
          | (.error e, q') => (.error (.context (scrollWords s f) e), q')
          | (.ok (), q') =>
            match (attempt s action).run q' with
            | (.ok (), q'') => (.ok .actedAfterScroll, q'')
            | (.error e, q'') => (.error e, q'')
        else (.error f, q) := by
  have hfirst : (do Page.waitVisible s; action; pure none : Browse (Option Failure)) =
      attempt s action >>= fun _ => pure none := by
    simp only [attempt, bind_assoc]
  have hsecond : (do Page.waitVisible s; action; pure .actedAfterScroll : Browse Outcome) =
      attempt s action >>= fun _ => pure .actedAfterScroll := by
    simp only [attempt, bind_assoc]
  unfold ensureInteractable
  rw [hvalid, hfirst]
  simp only [run_bind, run_tryCatch]
  rcases (attempt s action).run p with ⟨f | u, q⟩
  · cases hcurable : f.isInteraction
    · simp [hcurable]
    · simp only [hcurable, Bool.not_true, Bool.false_eq_true, ite_false, ite_true, run_pure]
      rw [run_bind, run_mapFailure, hsecond]
      rcases (Page.scrollIntoView s).run q with ⟨e | u, q'⟩
      · rfl
      · simp only [run_bind]
        rcases (attempt s action).run q' with ⟨e | u, q''⟩ <;> rfl
  · rfl

/-- A run goes as its rules say. -/
theorem Ensures.run {p q : Page} {steps : List Step} {r : Except Failure Outcome}
    (h : Ensures s action p steps r q) : (ensureInteractable s action).run p = (r, q) := by
  cases h with
  | refused hinvalid => exact ensureInteractable_invalid s _ hinvalid action p
  | acted hvalid htried => rw [ensureInteractable_run_valid hvalid, htried.run]
  | stopped hvalid htried hcurable =>
    rw [ensureInteractable_run_valid hvalid, htried.run]
    simp [hcurable]
  | scrollFails hvalid htried hcurable hscroll =>
    rw [ensureInteractable_run_valid hvalid, htried.run]
    simp only [hcurable, ite_true, hscroll]
  | retried hvalid htried hcurable hscroll hsecond =>
    rename_i r
    rw [ensureInteractable_run_valid hvalid, htried.run]
    simp only [hcurable, ite_true, hscroll, hsecond.run]
    cases r <;> rfl

theorem exists_ensures_run {p q : Page} {steps : List Step} {r : Except Failure Outcome}
    (h : Ensures s action p steps r q) :
    ∃ steps, Ensures s action p steps ((ensureInteractable s action).run p).1
      ((ensureInteractable s action).run p).2 :=
  ⟨steps, by rw [h.run]; exact h⟩

/-- Every run goes by one of the rules. -/
theorem ensures_of_run (p : Page) :
    ∃ steps, Ensures s action p steps ((ensureInteractable s action).run p).1
      ((ensureInteractable s action).run p).2 := by
  rcases hvalid : s.validate with f | ⟨⟩
  · exact exists_ensures_run (.refused hvalid)
  obtain ⟨steps, hfirst⟩ := @tried_of_run s action p
  rcases hrun : (attempt s action).run p with ⟨f | _, p₁⟩
  · rw [hrun] at hfirst
    cases hcurable : f.isInteraction
    · exact exists_ensures_run (.stopped hvalid hfirst hcurable)
    rcases hscroll : (Page.scrollIntoView s).run p₁ with ⟨e | _, p₂⟩
    · exact exists_ensures_run (.scrollFails hvalid hfirst hcurable hscroll)
    obtain ⟨steps', hsecond⟩ := @tried_of_run s action p₂
    exact exists_ensures_run (.retried hvalid hfirst hcurable hscroll hsecond)
  · rw [hrun] at hfirst
    exact exists_ensures_run (.acted hvalid hfirst)

/-- A run answers `r` on page `q` exactly when the rules lead there. -/
theorem ensureInteractable_iff (p q : Page) (r : Except Failure Outcome) :
    (ensureInteractable s action).run p = (r, q) ↔ ∃ steps, Ensures s action p steps r q := by
  constructor
  · intro h
    obtain ⟨steps, hsteps⟩ := @ensures_of_run s action p
    rw [h] at hsteps
    exact ⟨steps, hsteps⟩
  · rintro ⟨steps, h⟩
    exact h.run

/-! ## What a run does -/

/-- A run acts at most twice. -/
theorem Ensures.count_act {p q : Page} {steps : List Step} {r : Except Failure Outcome}
    (h : Ensures s action p steps r q) : steps.count .act ≤ 2 := by
  cases h with
  | refused => decide
  | acted _ htried => exact Nat.le_trans htried.count_act (by decide)
  | stopped _ htried => exact Nat.le_trans htried.count_act (by decide)
  | scrollFails _ htried =>
    have hfirst := htried.count_act
    simp only [List.count_append, List.count_singleton, beq_iff_eq, reduceCtorEq, ite_false]
    omega
  | retried _ hfirst _ _ hsecond =>
    have h₁ := hfirst.count_act
    have h₂ := hsecond.count_act
    simp only [List.count_append, List.count_cons, beq_iff_eq, reduceCtorEq, ite_false]
    omega

/-- A run scrolls at most once. -/
theorem Ensures.count_scroll {p q : Page} {steps : List Step} {r : Except Failure Outcome}
    (h : Ensures s action p steps r q) : steps.count .scroll ≤ 1 := by
  cases h with
  | refused => decide
  | acted _ htried => simp [htried.count_scroll]
  | stopped _ htried => simp [htried.count_scroll]
  | scrollFails _ htried =>
    have hfirst := htried.count_scroll
    simp only [List.count_append, List.count_singleton, beq_self_eq_true, ite_true]
    omega
  | retried _ hfirst _ _ hsecond =>
    have h₁ := hfirst.count_scroll
    have h₂ := hsecond.count_scroll
    simp only [List.count_append, List.count_cons, beq_self_eq_true, ite_true]
    omega

theorem Tried.scroll_not_mem {p q : Page} {steps : List Step} {r : Except Failure Unit}
    (h : Tried s action p steps r q) : Step.scroll ∉ steps :=
  List.count_eq_zero.mp h.count_scroll

/-- A run acts at once exactly when the selector is valid and the first attempt succeeds. -/
theorem Ensures.acted_iff {p q : Page} {steps : List Step} {r : Except Failure Outcome}
    (h : Ensures s action p steps r q) :
    r = .ok .acted ↔ s.validate = .ok () ∧ ((attempt s action).run p).1 = .ok () := by
  cases h with
  | refused hinvalid => simp [hinvalid]
  | acted hvalid htried => simp [hvalid, htried.run]
  | stopped _ htried => simp [htried.run]
  | scrollFails _ htried => simp [htried.run]
  | retried hvalid htried hcurable hscroll hsecond =>
    rename_i r
    cases r <;> simp [htried.run, Except.map]

/-- A run scrolls exactly when the selector is valid and the first attempt fails in a way a
scroll may cure. -/
theorem Ensures.scroll_mem_iff {p q : Page} {steps : List Step} {r : Except Failure Outcome}
    (h : Ensures s action p steps r q) :
    Step.scroll ∈ steps ↔ s.validate = .ok () ∧
      ∃ f, ((attempt s action).run p).1 = .error f ∧ f.isInteraction = true := by
  cases h with
  | refused hinvalid => simp [hinvalid]
  | acted hvalid htried => simp [htried.scroll_not_mem, htried.run]
  | stopped hvalid htried hcurable => simp [htried.scroll_not_mem, htried.run, hcurable]
  | scrollFails hvalid htried hcurable => simp [hvalid, htried.run, hcurable]
  | retried hvalid htried hcurable => simp [hvalid, htried.run, hcurable]

/-- Making an element interactable, over every selector, action and page: a run answers `r` on
page `q` exactly when the rules of `Ensures` lead there, and then it acts at most twice and
scrolls at most once, acts at once exactly when the selector is valid and the first attempt
succeeds, and scrolls exactly when the first attempt fails in a way a scroll may cure. -/
theorem ensureInteractable_attempts (s : Selector) (action : Browse Unit) (p q : Page)
    (r : Except Failure Outcome) :
    ((ensureInteractable s action).run p = (r, q) ↔ ∃ steps, Ensures s action p steps r q) ∧
      ∀ steps, Ensures s action p steps r q →
        steps.count .act ≤ 2 ∧ steps.count .scroll ≤ 1 ∧
        (r = .ok .acted ↔ s.validate = .ok () ∧ ((attempt s action).run p).1 = .ok ()) ∧
        (Step.scroll ∈ steps ↔ s.validate = .ok () ∧
          ∃ f, ((attempt s action).run p).1 = .error f ∧ f.isInteraction = true) :=
  ⟨ensureInteractable_iff p q r, fun _ h =>
    ⟨h.count_act, h.count_scroll, h.acted_iff, h.scroll_mem_iff⟩⟩

/-- A page whose button shows only once it is scrolled into view. -/
def hiddenButtonPage : Page :=
  { elements := [("#connect", { revealOnScroll := true })] }

/-- On a page whose button shows only after a scroll, clicking it times out first, scrolls once
and then acts. -/
theorem hidden_button_acted_after_scroll :
    ∃ steps q, Ensures (.ofCss "#connect") (clickAction (.ofCss "#connect") {}) hiddenButtonPage
      steps (.ok .actedAfterScroll) q ∧ Step.scroll ∈ steps ∧ steps.count .act ≤ 2 := by
  obtain ⟨q, hrun⟩ : ∃ q, (ensureInteractable (.ofCss "#connect")
      (clickAction (.ofCss "#connect") {})).run hiddenButtonPage = (.ok .actedAfterScroll, q) :=
    ⟨_, rfl⟩
  have hcontract := ensureInteractable_attempts (.ofCss "#connect")
    (clickAction (.ofCss "#connect") {}) hiddenButtonPage q (.ok .actedAfterScroll)
  obtain ⟨steps, hsteps⟩ := hcontract.1.mp hrun
  obtain ⟨hact, -, -, hscroll⟩ := hcontract.2 steps hsteps
  exact ⟨steps, q, hsteps, hscroll.mpr ⟨rfl, _, rfl, rfl⟩, hact⟩

end Interaction

end DashboardHarness

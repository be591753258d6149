import DashboardHarness.Proofs.Calls
import DashboardHarness.Deployment.Dashboards

/-!
# Opening a dashboard from the paged list

Opening a dashboard navigates to the dashboard list, checks that the browser shows it, and then
looks for the dashboard's link page by page. This module proves what that does on every page,
whatever its rules do, and what it does on a list that behaves as a list should.

On every page the search is bounded: it navigates once, checks the link at most once per page
it may visit and clicks the next-page control at most once less. These bounds are counted with
`Tally`, a bound on what a call adds to the record that composes along `bind`, much like a
query budget.

On a list of pages that the next-page control moves through (`ListScript`), the search stops at
the first page within reach that lists the dashboard, or fails on the last page it may visit,
with one click on the next-page control per page it leaves.

Main results:

- `openDashboard_tally`: the navigation, and the bounds on link checks and next-page clicks.
- `openDashboard_unexpectedPage`: a wrong title or heading fails before any click.
- `openDashboard_script`: the search on a list of pages, to its answer and its clicks.
-/

namespace DashboardHarness

open Page Browse

/-! ## What the search counts -/

namespace Trace

/-- The visibility checks of the element with a key. -/
def checksOf (t : Trace) (key : String) : Nat :=
  (Keyed.get? key t.visibilityChecks).getD 0

/-- The clicks on a selector. -/
def clicksOn (t : Trace) (s : Selector) : Nat :=
  t.clicks.countP (·.selector == s)

end Trace

namespace Deployment

/-- The record `t'` is `t` with no new navigation, at most `checks` more checks of the key `link`
and at most `clicks` more clicks on `next`. -/
structure Grew (link : String) (next : Selector) (checks clicks : Nat) (t t' : Trace) : Prop where
  navigations : t'.navigations = t.navigations
  checks_le : t'.checksOf link ≤ t.checksOf link + checks
  clicks_le : t'.clicksOn next ≤ t.clicksOn next + clicks

namespace Grew

variable {link : String} {next : Selector}

theorem refl (t : Trace) : Grew link next 0 0 t t :=
  ⟨rfl, Nat.le_refl _, Nat.le_refl _⟩

theorem trans {a b c d : Nat} {t t' t'' : Trace} (h : Grew link next a b t t')
    (h' : Grew link next c d t' t'') : Grew link next (a + c) (b + d) t t'' where
  navigations := h'.navigations.trans h.navigations
  checks_le := by have := h.checks_le; have := h'.checks_le; omega
  clicks_le := by have := h.clicks_le; have := h'.clicks_le; omega

theorem mono {a b a' b' : Nat} {t t' : Trace} (h : Grew link next a b t t') (ha : a ≤ a')
    (hb : b ≤ b') : Grew link next a' b' t t' where
  navigations := h.navigations
  checks_le := by have := h.checks_le; omega
  clicks_le := by have := h.clicks_le; omega

end Grew

/-- A call that, from any page, adds no navigation, at most `checks` checks of the key `link`
and at most `clicks` clicks on `next` to the record. -/
def Tally (link : String) (next : Selector) (checks clicks : Nat) {α : Type} (m : Browse α) :
    Prop :=
  ∀ p, Grew link next checks clicks p.trace (m.run p).2.trace

namespace Tally

variable {link : String} {next : Selector} {α β : Type}

theorem of_page {m : Browse α} (h : ∀ p, (m.run p).2 = p) : Tally link next 0 0 m := by
  intro p
  rw [h p]
  exact Grew.refl _

theorem pure (a : α) : Tally link next 0 0 (Pure.pure a : Browse α) :=
  of_page fun _ => rfl

theorem throw (e : Failure) : Tally link next 0 0 (MonadExcept.throw e : Browse α) :=
  of_page fun _ => rfl

theorem mono {a b a' b' : Nat} {m : Browse α} (h : Tally link next a b m) (ha : a ≤ a')
    (hb : b ≤ b') : Tally link next a' b' m :=
  fun p => (h p).mono ha hb

/-- What a record grew by before a call, and what the call adds, add up. -/
theorem grew_bind {a b c d : Nat} {t : Trace} {m : Browse α} {f : α → Browse β} {p : Page}
    (hm : Grew link next a b t (m.run p).2.trace) (hf : ∀ x, Tally link next c d (f x)) :
    Grew link next (a + c) (b + d) t ((m >>= f).run p).2.trace := by
  rw [run_bind]
  rcases hrun : m.run p with ⟨_ | x, q⟩
  · rw [hrun] at hm
    exact hm.mono (Nat.le_add_right _ _) (Nat.le_add_right _ _)
  · rw [hrun] at hm
    exact hm.trans (hf x q)

theorem bind {a b : Nat} {m : Browse α} {f : α → Browse β} (hm : Tally link next a b m)
    (c d : Nat) (hf : ∀ x, Tally link next c d (f x)) :
    Tally link next (a + c) (b + d) (m >>= f) :=
  fun p => grew_bind (hm p) hf

theorem mapFailure {a b : Nat} {m : Browse α} (g : Failure → Failure)
    (h : Tally link next a b m) : Tally link next a b (Page.mapFailure g m) := by
  intro p
  rw [mapFailure_page]
  exact h p

theorem stage {a b : Nat} {m : Browse α} (words : String) (h : Tally link next a b m) :
    Tally link next a b (Page.stage words m) :=
  mapFailure _ h

end Tally

/-! ## What each call adds -/

section Calls

variable {link : String} {next : Selector}

theorem readTitle_tally : Tally link next 0 0 readTitle := by
  refine Tally.of_page fun p => ?_
  cases hp : p.cancelled
  · rw [readTitle_run hp]
  · rw [readTitle, run_live_bind_cancelled hp]

theorem innerText_tally (s : Selector) : Tally link next 0 0 (innerText s) := by
  refine Tally.of_page fun p => ?_
  cases hp : p.cancelled
  · rw [innerText_run hp]
    rcases p.lookup s with f | e <;> rfl
  · rw [innerText, run_live_bind_cancelled hp]

theorem waitVisible_tally (s : Selector) : Tally link next 0 0 (waitVisible s) := by
  refine Tally.of_page fun p => ?_
  cases hp : p.cancelled
  · rw [waitVisible_run hp]
    rcases p.visibleElement s with f | e <;> rfl
  · rw [waitVisible, run_live_bind_cancelled hp]

theorem count_tally (s : Selector) : Tally link next 0 0 (count s) := by
  refine Tally.of_page fun p => ?_
  cases hp : p.cancelled
  · rw [count_run hp]
  · rw [count, run_live_bind_cancelled hp]

theorem readAttribute_tally (s : Selector) (name : String) :
    Tally link next 0 0 (readAttribute s name) := by
  refine Tally.of_page fun p => ?_
  cases hp : p.cancelled
  · rw [readAttribute_run hp]
    rcases p.lookup s with f | e <;> rfl
  · rw [readAttribute, run_live_bind_cancelled hp]

theorem waitNetworkIdle_tally : Tally link next 0 0 waitNetworkIdle := by
  intro p
  cases hp : p.cancelled
  · rw [waitNetworkIdle_run hp, mapTrace_trace]
    exact ⟨rfl, Nat.le_refl _, Nat.le_refl _⟩
  · rw [waitNetworkIdle, run_live_bind_cancelled hp]
    exact Grew.refl _

/-- A visibility check counts one check of its own key. -/
theorem isVisible_tally (s : Selector) : Tally s.render next 1 0 (isVisible s) := by
  intro p
  cases hp : p.cancelled
  · rw [isVisible_run hp, mapTrace_trace]
    refine ⟨rfl, ?_, Nat.le_refl _⟩
    simp only [Trace.checksOf, Keyed.count_bump_self, Nat.le_refl]
  · rw [isVisible, run_live_bind_cancelled hp]
    exact (Grew.refl _).mono (Nat.zero_le _) (Nat.le_refl _)

/-- A click on an element counts one click on its selector, when it is made at all. -/
theorem click_tally (s : Selector) (options : ClickOptions) :
    Tally link next 0 (if s = next then 1 else 0) (click s options) := by
  intro p
  cases hp : p.cancelled
  · rw [click_run hp]
    rcases p.visibleElement s with f | e
    · exact (Grew.refl _).mono (Nat.le_refl _) (Nat.zero_le _)
    · simp only [react_trace, mapTrace_trace]
      refine ⟨rfl, Nat.le_refl _, ?_⟩
      by_cases hs : s = next <;> simp [Trace.clicksOn, hs]
  · rw [click, run_live_bind_cancelled hp]
    exact (Grew.refl _).mono (Nat.le_refl _) (Nat.zero_le _)

theorem click_tally_self (s : Selector) (options : ClickOptions) :
    Tally link s 0 1 (click s options) := by
  have h : Tally link s 0 (if s = s then 1 else 0) (click s options) := click_tally s options
  rwa [if_pos rfl] at h

theorem click_tally_of_ne {s : Selector} (hs : s ≠ next) (options : ClickOptions) :
    Tally link next 0 0 (click s options) := by
  have h : Tally link next 0 (if s = next then 1 else 0) (click s options) :=
    click_tally s options
  rwa [if_neg hs] at h

end Calls

/-! ## The search on any page -/

section Bounds

variable {link : String} {next : Selector}

theorem settle_tally : Tally link next 0 0 settle :=
  Tally.stage _ waitNetworkIdle_tally

theorem isLastListPage_tally : Tally link next 0 0 isLastListPage := by
  unfold isLastListPage
  refine (count_tally _).bind 0 0 fun controls => ?_
  split
  · exact Tally.pure _
  · exact (readAttribute_tally _ _).bind 0 0 fun _ => Tally.pure _

theorem requireListPage_tally : Tally link next 0 0 requireListPage := by
  unfold requireListPage
  simp only [throw_bind]
  refine readTitle_tally.bind 0 0 fun title => ?_
  split
  · exact Tally.throw _
  · refine (Tally.stage _ (waitVisible_tally _)).bind 0 0 fun _ => ?_
    refine (innerText_tally _).bind 0 0 fun header => ?_
    split
    · exact Tally.throw _
    · exact Tally.pure _

/-- The link of a dashboard is never the next-page control. -/
theorem dashboardLink_ne_nextPageControl (name : String) :
    dashboardLink name ≠ nextPageControl := by
  intro h
  have hcss := congrArg Selector.css h
  simp [dashboardLink, nextPageControl, Selector.ofText, Selector.ofCss, Selector.withText] at hcss

/-- From list page `listPage`, with the pages left to the cap as fuel, the search checks the link
once per page and clicks the next-page control once per page it leaves. The page cap leaves no
fuel for a click on the last page it allows. -/
theorem searchList_tally (s : Settings) (name : String) :
    ∀ fuel listPage, listPage + fuel = listBound s + 1 →
      Tally (dashboardLink name).render nextPageControl fuel (fuel - 1)
        (searchList s name fuel listPage)
  | 0, _, _ => Tally.pure ()
  | fuel + 1, listPage, hfuel => by
    have hlink : Tally (dashboardLink name).render nextPageControl 0 0
        (click (dashboardLink name) {}) :=
      click_tally_of_ne (dashboardLink_ne_nextPageControl name) {}
    unfold listBound at hfuel
    rw [searchList]
    simp only [throw_bind]
    refine ((isVisible_tally _).bind fuel fuel fun shown => ?_).mono (by omega) (by omega)
    split
    · -- the link shows: open the dashboard
      refine ((Tally.stage _ hlink).bind 0 0 fun _ => ?_).mono (Nat.zero_le _) (Nat.zero_le _)
      exact (Tally.stage _ (waitVisible_tally _)).bind 0 0 fun _ => Tally.pure ()
    · refine (isLastListPage_tally.bind fuel fuel fun last => ?_).mono (by omega) (by omega)
      split
      · exact (Tally.throw _).mono (Nat.zero_le _) (Nat.zero_le _)
      · split
        · exact (Tally.throw _).mono (Nat.zero_le _) (Nat.zero_le _)
        · -- below the cap there is a page left for the click
          rename_i hcap
          have hrest := searchList_tally s name fuel (listPage + 1) (by unfold listBound; omega)
          refine ((Tally.stage _ (click_tally_self _ {})).bind fuel (fuel - 1) fun _ => ?_).mono
            (by omega)
            (by omega)
          exact (settle_tally.bind fuel (fuel - 1) fun _ => hrest).mono (by omega) (by omega)

/-- Opening a page on a live request navigates to its address once, and writes nothing else that
the search counts. -/
theorem openPage_grew (s : Settings) (path : String) {p : Page} (hp : p.cancelled = false) :
    Grew link next 0 0 { p.trace with navigations := p.trace.navigations.push (s.resolve path) }
      ((openPage s path).run p).2.trace := by
  unfold openPage
  refine Tally.grew_bind ?_ fun _ => settle_tally
  rw [stage_page, navigate_run hp]
  simp only [react_trace]
  exact Grew.refl _

/-- Opening a dashboard on a live request navigates once, to the dashboard list; checks the
dashboard's link at most once per page it may visit; and clicks the next-page control at most
once less, whatever the page does. -/
theorem openDashboard_tally (s : Settings) (name : String) {p : Page} (hp : p.cancelled = false) :
    let t := ((openDashboard s name).run p).2.trace
    t.navigations = p.trace.navigations.push (s.resolve dashboardListPath) ∧
      t.checksOf (dashboardLink name).render ≤
        p.trace.checksOf (dashboardLink name).render + listBound s ∧
      t.clicksOn nextPageControl ≤ p.trace.clicksOn nextPageControl + (listBound s - 1) := by
  intro t
  have hsearch := searchList_tally s name (listBound s) 1 (Nat.add_comm _ _)
  have hrest := requireListPage_tally.bind _ _ fun _ => hsearch
  have h := Tally.grew_bind (openPage_grew s dashboardListPath hp) fun _ => hrest
  have hchecks := h.checks_le
  have hclicks := h.clicks_le
  simp only [Nat.zero_add] at hchecks hclicks
  exact ⟨h.navigations, hchecks, hclicks⟩

end Bounds

/-! ## A page that is not the dashboard list -/

/-- Opening a page that succeeds leaves a live page with no new click. -/
theorem openPage_ok {s : Settings} {path : String} {p q : Page}
    (h : (openPage s path).run p = (.ok (), q)) :
    q.cancelled = false ∧ q.trace.clicks = p.trace.clicks := by
  unfold openPage at h
  obtain ⟨_, q₁, hnav, hsettle⟩ := run_bind_eq_ok h
  have hnav := run_mapFailure_eq_ok hnav
  have hsettle := run_mapFailure_eq_ok hsettle
  have hclicks₁ : q₁.trace.clicks = p.trace.clicks := by
    cases hp : p.cancelled
    · rw [navigate_run hp] at hnav
      rw [← (Prod.mk.inj hnav).2, react_trace]
    · rw [navigate, run_live_bind_cancelled hp] at hnav
      cases hnav
  cases hq₁ : q₁.cancelled
  · rw [waitNetworkIdle_run hq₁] at hsettle
    rw [← (Prod.mk.inj hsettle).2, mapTrace_cancelled, mapTrace_trace]
    exact ⟨hq₁, hclicks₁⟩
  · rw [waitNetworkIdle, run_live_bind_cancelled hq₁] at hsettle
    cases hsettle

/-- The check of the list page on a live page reads the title, then the heading once it shows,
and leaves the page as it was. -/
theorem requireListPage_run {q : Page} (hq : q.cancelled = false) :
    requireListPage.run q =
      (if q.title ≠ applicationTitle then
        .error (.detail .unexpectedPage ("title " ++ Text.quote q.title))
      else
        match q.visibleElement dashboardListHeader with
        | .error f => .error (.context "wait for dashboard list header" f)
        | .ok h =>
          if Text.trimBlank h.text ≠ "Dashboards" then
            .error (.detail .unexpectedPage ("header " ++ Text.quote h.text))
          else .ok (), q) := by
  unfold requireListPage
  simp only [throw_bind]
  rw [run_bind_ok (readTitle_run hq)]
  by_cases htitle : q.title ≠ applicationTitle
  · rw [if_pos htitle, if_pos htitle, run_throw]
  · rw [if_neg htitle, if_neg htitle]
    rcases hheader : q.visibleElement dashboardListHeader with f | h
    · rw [run_bind_error (run_stage_error (by rw [waitVisible_run hq, hheader]) _)]
    · rw [run_bind_ok (run_stage_ok (by rw [waitVisible_run hq, hheader]) _),
        run_bind_ok (by rw [innerText_run hq, lookup_of_visibleElement hheader])]
      dsimp only
      by_cases htext : Text.trimBlank h.text ≠ "Dashboards"
      · rw [if_pos htext, if_pos htext, run_throw]
      · rw [if_neg htext, if_neg htext, run_pure]

/-- When the page that opening the list leaves is not the dashboard list, because its title is
not the deployment's or its heading does not read "Dashboards", opening a dashboard fails there
with an unexpected page, and has clicked nothing. -/
theorem openDashboard_unexpectedPage (s : Settings) (name : String) {p q : Page}
    (hopen : (openPage s dashboardListPath).run p = (.ok (), q)) :
    q.trace.clicks = p.trace.clicks ∧
      (q.title ≠ applicationTitle →
        (openDashboard s name).run p =
          (.error (.detail .unexpectedPage ("title " ++ Text.quote q.title)), q)) ∧
      (∀ h : Element, q.title = applicationTitle →
        q.visibleElement dashboardListHeader = .ok h → Text.trimBlank h.text ≠ "Dashboards" →
        (openDashboard s name).run p =
          (.error (.detail .unexpectedPage ("header " ++ Text.quote h.text)), q)) := by
  obtain ⟨hlive, hclicks⟩ := openPage_ok hopen
  have hrun : (openDashboard s name).run p =
      (requireListPage >>= fun _ => searchList s name (listBound s) 1).run q :=
    run_bind_ok hopen _
  refine ⟨hclicks, fun htitle => ?_, fun h htitle hheader htext => ?_⟩
  · rw [hrun, run_bind_error]
    rw [requireListPage_run hlive, if_pos htitle]
  · rw [hrun, run_bind_error]
    rw [requireListPage_run hlive, if_neg (not_not.mpr htitle), hheader]
    simp only [if_pos htext]

/-! ## A list of pages -/

/-- Whether the page shows the last list page: no next-page control, or a disabled one. -/
def showsLastListPage (q : Page) : Bool :=
  match q.lookup nextPageControl with
  | .error _ => true
  | .ok e => Text.contains ((Keyed.get? "class" e.attributes).getD "") "disabled"

@[simp]
theorem showsLastListPage_mapTrace (f : Trace → Trace) (q : Page) :
    showsLastListPage (q.mapTrace f) = showsLastListPage q :=
  rfl

theorem isLastListPage_run {q : Page} (hq : q.cancelled = false) :
    isLastListPage.run q = (.ok (showsLastListPage q), q) := by
  unfold isLastListPage showsLastListPage
  rw [run_bind_ok (count_run hq _)]
  rcases hcontrol : q.lookup nextPageControl with f | e
  · rfl
  · -- a control that is there counts at least once
    have hcount : (if 0 < e.count then e.count else 1) ≠ 0 := by split <;> omega
    dsimp only
    rw [if_neg hcount, run_bind_ok (by rw [readAttribute_run hq, hcontrol])]
    rfl

/-- A dashboard list of `last` pages that the browser shows one at a time. `At i q` says that
the page `q` shows list page `i`, whatever it has recorded. The dashboard's link shows there
exactly when `listed i`, and the page shows as the last exactly on page `last`. Clicking the
next-page control on an earlier page shows the next list page, with no failure and a network
that settles; clicking the link on a page that lists the dashboard fails nothing and shows the
dashboard's title on a live page. -/
structure ListScript (name : String) where
  last : Nat
  one_le_last : 1 ≤ last
  listed : Nat → Bool
  At : Nat → Page → Prop
  at_mapTrace : ∀ {i q} (f : Trace → Trace), At i q → At i (q.mapTrace f)
  live : ∀ {i q}, At i q → q.cancelled = false
  shows_link : ∀ {i q}, At i q → q.shows (dashboardLink name) = listed i
  shows_last : ∀ {i q}, At i q → showsLastListPage q = decide (i = last)
  next : ∀ {i q}, At i q → i < last →
    q.shows nextPageControl = true ∧ (q.react (.click nextPageControl)).2 = none ∧
      (q.react (.click nextPageControl)).1.idleFailure = none ∧
      At (i + 1) (q.react (.click nextPageControl)).1
  opens : ∀ {i q}, At i q → listed i = true →
    (q.react (.click (dashboardLink name))).2 = none ∧
      (q.react (.click (dashboardLink name))).1.cancelled = false ∧
      (q.react (.click (dashboardLink name))).1.shows dashboardTitle = true

namespace ListScript

variable {name : String} (L : ListScript name) (s : Settings)

/-- The last page the search may reach: the last list page or the page cap, whichever comes
first. -/
def reach : Nat :=
  min L.last (listBound s)

/-- The first page from `start` on, within reach, that lists the dashboard. -/
def firstListed (start : Nat) : Option Nat :=
  (List.range' start (L.reach s + 1 - start)).find? L.listed

/-- What the search answers from page `start`: success when a page within reach lists the
dashboard, else the failure of the page where it stops, the last page or the page cap. -/
def answer (start : Nat) : Except Failure Unit :=
  match L.firstListed s start with
  | some _ => .ok ()
  | none =>
    .error (.detail .dashboardNotListed
      (if L.last ≤ listBound s then
        Text.quote name ++ " not listed on " ++ toString L.last ++ " pages"
      else
        Text.quote name ++ " not found within " ++ toString s.maxDashboardPages ++ " pages"))

/-- The clicks of the search from page `start`: one on the next-page control for each page it
leaves, and one on the link on the page that lists the dashboard. -/
def clicks (start : Nat) : List ClickRecord :=
  match L.firstListed s start with
  | some k => List.replicate (k - start) ⟨nextPageControl, {}⟩ ++ [⟨dashboardLink name, {}⟩]
  | none => List.replicate (L.reach s - start) ⟨nextPageControl, {}⟩

variable {L s} {page : Nat}

theorem firstListed_self (h : L.listed page = true) (hreach : page ≤ L.reach s) :
    L.firstListed s page = some page := by
  unfold firstListed
  rw [show L.reach s + 1 - page = (L.reach s - page) + 1 by omega, List.range'_succ,
    List.find?_cons_of_pos h]

theorem firstListed_succ (h : L.listed page = false) (hreach : page < L.reach s) :
    L.firstListed s page = L.firstListed s (page + 1) := by
  unfold firstListed
  rw [show L.reach s + 1 - page = (L.reach s + 1 - (page + 1)) + 1 by omega, List.range'_succ,
    List.find?_cons_of_neg (by simp [h])]

theorem firstListed_reach (h : L.listed page = false) (hreach : page = L.reach s) :
    L.firstListed s page = none := by
  unfold firstListed
  rw [show L.reach s + 1 - page = 1 by omega, List.range'_one, List.find?_cons_of_neg (by simp [h])]
  rfl

theorem le_of_firstListed {start k : Nat} (h : L.firstListed s start = some k) : start ≤ k := by
  have hmem := List.mem_of_find?_eq_some h
  rw [List.mem_range'_1] at hmem
  exact hmem.1

/-- A page within reach that lists the dashboard ends the search there. -/
theorem answer_clicks_listed (h : L.listed page = true) (hreach : page ≤ L.reach s) :
    L.answer s page = .ok () ∧ L.clicks s page = [⟨dashboardLink name, {}⟩] := by
  unfold answer clicks
  rw [firstListed_self h hreach]
  simp

/-- A page short of reach that does not list the dashboard is left with a click on the
next-page control. -/
theorem answer_clicks_succ (h : L.listed page = false) (hreach : page < L.reach s) :
    L.answer s page = L.answer s (page + 1) ∧
      L.clicks s page = ⟨nextPageControl, {}⟩ :: L.clicks s (page + 1) := by
  unfold answer clicks
  rw [firstListed_succ h hreach]
  refine ⟨rfl, ?_⟩
  rcases hfirst : L.firstListed s (page + 1) with _ | k
  · dsimp only
    rw [show L.reach s - page = (L.reach s - (page + 1)) + 1 by omega, List.replicate_succ]
  · have hk := le_of_firstListed hfirst
    dsimp only
    rw [show k - page = (k - (page + 1)) + 1 by omega, List.replicate_succ, List.cons_append]

/-- The page at the end of reach that does not list the dashboard ends the search with its
failure. -/
theorem answer_clicks_reach (h : L.listed page = false) (hreach : page = L.reach s) :
    L.answer s page = .error (.detail .dashboardNotListed
      (if L.last ≤ listBound s then
        Text.quote name ++ " not listed on " ++ toString L.last ++ " pages"
      else
        Text.quote name ++ " not found within " ++ toString s.maxDashboardPages ++ " pages")) ∧
      L.clicks s page = [] := by
  unfold answer clicks
  rw [firstListed_reach h hreach, hreach, Nat.sub_self]
  exact ⟨rfl, rfl⟩

variable {i : Nat} {q : Page}

/-- On a list page, the check of the link answers whether the page lists the dashboard. -/
theorem check_run (hat : L.At i q) :
    (isVisible (dashboardLink name)).run q =
      (.ok (L.listed i), q.mapTrace fun t =>
        { t with
          visibilityChecks := Keyed.bump (dashboardLink name).render t.visibilityChecks }) := by
  rw [isVisible_run (L.live hat), L.shows_link hat]

/-- On a list page that lists the dashboard, its link is clicked and its title shows. -/
theorem open_run (hat : L.At i q) (hlisted : L.listed i = true) :
    ∃ q', (stage "open dashboard" (click (dashboardLink name) {})).run q = (.ok (), q') ∧
      (stage "wait for dashboard title" (waitVisible dashboardTitle)).run q' = (.ok (), q') ∧
      q'.trace.clicks = q.trace.clicks.push ⟨dashboardLink name, {}⟩ := by
  obtain ⟨hquiet, hlive, htitle⟩ := L.opens hat hlisted
  have hclick := click_run_shows (L.live hat) (by rw [L.shows_link hat, hlisted]) hquiet {}
  obtain ⟨e, he⟩ := (visibleElement_isOk _ _).mpr htitle
  refine ⟨_, run_stage_ok hclick _, run_stage_ok ?_ _, by rw [mapTrace_trace, react_trace]⟩
  rw [waitVisible_run (by rw [mapTrace_cancelled, hlive]), visibleElement_mapTrace, he]

/-- On a list page short of the last, the click on the next-page control and the settling of
the network show the next list page. -/
theorem advance_run (hat : L.At i q) (hlt : i < L.last) :
    ∃ q₁ q₂,
      (stage "advance dashboard list" (click nextPageControl {})).run q = (.ok (), q₁) ∧
      settle.run q₁ = (.ok (), q₂) ∧ L.At (i + 1) q₂ ∧
      q₂.trace.clicks = q.trace.clicks.push ⟨nextPageControl, {}⟩ := by
  obtain ⟨hshows, hquiet, hidle, hnext⟩ := L.next hat hlt
  have hclick := click_run_shows (L.live hat) hshows hquiet {}
  have hat₁ :=
    L.at_mapTrace (fun t => { t with clicks := t.clicks.push ⟨nextPageControl, {}⟩ }) hnext
  let q₁ := (q.react (.click nextPageControl)).1.mapTrace fun t =>
    { t with clicks := t.clicks.push ⟨nextPageControl, {}⟩ }
  have hsettle : waitNetworkIdle.run q₁ =
      (.ok (), q₁.mapTrace fun t => { t with idleWaits := t.idleWaits + 1 }) := by
    rw [waitNetworkIdle_run (L.live hat₁), mapTrace_idleFailure, hidle]
    rfl
  refine ⟨q₁, _, run_stage_ok hclick _, run_stage_ok hsettle _, L.at_mapTrace _ hat₁, ?_⟩
  rw [mapTrace_trace, mapTrace_trace, react_trace]

/-- From list page `page`, with the pages left to the cap as fuel, the search answers as the
list says and clicks as the list says: on down the pages while they do not list the dashboard,
to the first that does, or to the end of reach. -/
theorem searchList_run {fuel page : Nat} {q : Page} (hat : L.At page q) (hfirst : 1 ≤ page)
    (hlast : page ≤ L.last) (hfuel : page + fuel = listBound s + 1) (hpos : 1 ≤ fuel) :
    ∃ q', (searchList s name fuel page).run q = (L.answer s page, q') ∧
      q'.trace.clicks = q.trace.clicks ++ (L.clicks s page).toArray := by
  induction fuel generalizing page q with
  | zero => omega
  | succ fuel ih =>
    have hcap : page ≤ listBound s := by omega
    let q₁ := q.mapTrace fun t =>
      { t with visibilityChecks := Keyed.bump (dashboardLink name).render t.visibilityChecks }
    have hat₁ : L.At page q₁ := L.at_mapTrace _ hat
    rw [searchList]
    simp only [throw_bind]
    rw [run_bind_ok (check_run hat)]
    cases hlisted : L.listed page with
    | true =>
      obtain ⟨q', hopen, hwait, hclicks⟩ := open_run hat₁ hlisted
      obtain ⟨hanswer, hclicks'⟩ := answer_clicks_listed hlisted
        (show page ≤ L.reach s by unfold reach; omega)
      refine ⟨q', ?_, ?_⟩
      · rw [if_pos rfl, run_bind_ok hopen, run_bind_ok hwait, run_pure, hanswer]
      · rw [hclicks, hclicks', mapTrace_trace]
        rfl
    | false =>
      rw [if_neg Bool.false_ne_true, run_bind_ok (isLastListPage_run (L.live hat₁)),
        L.shows_last hat₁]
      by_cases hend : page = L.last
      · -- the last page: the search fails there
        obtain ⟨hanswer, hclicks⟩ := answer_clicks_reach hlisted
          (show page = L.reach s by unfold reach; omega)
        refine ⟨q₁, ?_, ?_⟩
        · rw [decide_eq_true hend, if_pos rfl, run_throw, hanswer, if_pos (by omega), hend]
        · rw [hclicks, mapTrace_trace]
          rfl
      · rw [decide_eq_false hend, if_neg Bool.false_ne_true]
        unfold listBound at hfuel hcap
        by_cases hcapped : (page : Int) ≥ s.maxDashboardPages
        · -- the page cap: the search fails there
          obtain ⟨hanswer, hclicks⟩ := answer_clicks_reach hlisted
            (show page = L.reach s by unfold reach listBound; omega)
          refine ⟨q₁, ?_, ?_⟩
          · rw [if_pos hcapped, run_throw, hanswer, if_neg (by unfold listBound; omega)]
          · rw [hclicks, mapTrace_trace]
            rfl
        · -- on to the next page
          obtain ⟨q₁, q₂, hclick, hsettle, hat₂, hclicks₂⟩ :=
            advance_run hat₁ (Nat.lt_of_le_of_ne hlast hend)
          obtain ⟨hanswer, hclicks⟩ := answer_clicks_succ hlisted
            (show page < L.reach s by unfold reach listBound; omega)
          obtain ⟨q', hrest, hclicks'⟩ := ih hat₂ (by omega)
            (Nat.lt_of_le_of_ne hlast hend) (by unfold listBound; omega) (by omega)
          refine ⟨q', ?_, ?_⟩
          · rw [if_neg hcapped, run_bind_ok hclick, run_bind_ok hsettle, hrest, hanswer]
          · rw [hclicks', hclicks₂, hclicks, mapTrace_trace]
            simp

end ListScript

/-- On a list of pages that the browser shows from its first page on, once the list is open and
checked, opening a dashboard stops at the first page within reach that lists it, after one click
on the next-page control for each page before it, and clicks its link there. When no page within
reach lists it, it fails on the last page it may visit, after one click on the next-page control
for each page before that one, and never clicks the link. -/
theorem openDashboard_script (s : Settings) {name : String} (L : ListScript name) {p q : Page}
    (hopen : (do openPage s dashboardListPath; requireListPage).run p = (.ok (), q))
    (hstart : L.At 1 q) :
    ∃ q', (openDashboard s name).run p = (L.answer s 1, q') ∧
      q'.trace.clicks = q.trace.clicks ++ (L.clicks s 1).toArray := by
  have hsplit : openDashboard s name =
      (do openPage s dashboardListPath; requireListPage) >>= fun _ =>
        searchList s name (listBound s) 1 := by
    simp only [openDashboard, bind_assoc]
  rw [hsplit, run_bind_ok hopen]
  exact ListScript.searchList_run hstart (Nat.le_refl 1) L.one_le_last (Nat.add_comm _ _)
    (listBound_pos s)

/-- Opening a dashboard by name, whatever the page cap. On a live request it navigates once, to
the dashboard list, checks the dashboard's link at most once per page it may visit and clicks the
next-page control at most once less, whatever the page does. A page that is not the dashboard
list fails with an unexpected page before any click. On a list of pages it stops at the first
page within reach that lists the dashboard, or fails at the end of reach, with one click on the
next-page control for each page it leaves. -/
theorem openDashboard_contract (s : Settings) (name : String) :
    (∀ p : Page, p.cancelled = false →
      let t := ((openDashboard s name).run p).2.trace
      t.navigations = p.trace.navigations.push (s.resolve dashboardListPath) ∧
        t.checksOf (dashboardLink name).render ≤
          p.trace.checksOf (dashboardLink name).render + listBound s ∧
        t.clicksOn nextPageControl ≤ p.trace.clicksOn nextPageControl + (listBound s - 1)) ∧
    (∀ p q : Page, (openPage s dashboardListPath).run p = (.ok (), q) →
      q.trace.clicks = p.trace.clicks ∧
        (q.title ≠ applicationTitle →
          (openDashboard s name).run p =
            (.error (.detail .unexpectedPage ("title " ++ Text.quote q.title)), q)) ∧
        (∀ h : Element, q.title = applicationTitle →
          q.visibleElement dashboardListHeader = .ok h → Text.trimBlank h.text ≠ "Dashboards" →
          (openDashboard s name).run p =
            (.error (.detail .unexpectedPage ("header " ++ Text.quote h.text)), q))) ∧
    (∀ (L : ListScript name) (p q : Page),
      (do openPage s dashboardListPath; requireListPage).run p = (.ok (), q) → L.At 1 q →
      ∃ q', (openDashboard s name).run p = (L.answer s 1, q') ∧
        q'.trace.clicks = q.trace.clicks ++ (L.clicks s 1).toArray) :=
  ⟨fun _ hp => openDashboard_tally s name hp,
    fun _ _ hopen => openDashboard_unexpectedPage s name hopen,
    fun L _ _ hopen hstart => openDashboard_script s L hopen hstart⟩

/-- The first page of a two-page dashboard list: the list heading, the dashboard title, an
enabled next-page control, and a rule by which a click on the control shows the second page, with
the link of the dashboard `Sales` and a disabled control. -/
def demoListPage : Page :=
  { title := applicationTitle
    url := Settings.resolve {} dashboardListPath
    elements := [(dashboardListHeader.render, { visible := true, text := "Dashboards" }),
      (dashboardTitle.render, { visible := true }),
      (nextPageControl.render, { visible := true, attributes := [("class", "")] })]
    rules := [{ trigger := .click (some nextPageControl.render),
                actions := [.setElement (dashboardLink "Sales").render { visible := true },
                  .setElement nextPageControl.render
                    { visible := true, attributes := [("class", "disabled")] }] }] }

/-- The pages of the demo list: the first, and the one a click on its next-page control shows. -/
def demoListShown : Nat → Page
  | 1 => demoListPage
  | _ => (demoListPage.react (.click nextPageControl)).1

theorem demoListShown_one : demoListShown 1 = demoListPage :=
  rfl

theorem demoListShown_two :
    demoListShown 2 = (demoListPage.react (.click nextPageControl)).1 :=
  rfl

/-- The demo list, which lists `Sales` on its second and last page. -/
def demoList : ListScript "Sales" where
  last := 2
  one_le_last := by decide
  listed i := decide (i = 2)
  At i q := (i = 1 ∨ i = 2) ∧ ∃ t, q = (demoListShown i).mapTrace fun _ => t
  at_mapTrace := by
    rintro i q f ⟨hi, t, rfl⟩
    exact ⟨hi, f t, rfl⟩
  live := by
    rintro i q ⟨hi | hi, t, rfl⟩ <;> subst hi <;> rw [mapTrace_cancelled] <;> decide +kernel
  shows_link := by
    rintro i q ⟨hi | hi, t, rfl⟩ <;> subst hi <;> rw [shows_mapTrace] <;> decide +kernel
  shows_last := by
    rintro i q ⟨hi | hi, t, rfl⟩ <;> subst hi <;> rw [showsLastListPage_mapTrace] <;>
      decide +kernel
  next := by
    rintro i q ⟨hi | hi, t, rfl⟩ hlt
    · subst hi
      rw [react_mapTrace, demoListShown_one]
      refine ⟨?_, ?_, ?_, Or.inr rfl, t, by rw [demoListShown_two]⟩
      · rw [shows_mapTrace]
        decide +kernel
      · dsimp only
        decide +kernel
      · dsimp only
        rw [mapTrace_idleFailure]
        decide +kernel
    · subst hi
      exact absurd hlt (Nat.lt_irrefl 2)
  opens := by
    rintro i q ⟨hi | hi, t, rfl⟩ hlisted
    · subst hi
      exact absurd hlisted (by decide)
    · subst hi
      simp only [react_mapTrace, shows_mapTrace, mapTrace_cancelled]
      exact ⟨by decide +kernel, by decide +kernel, by decide +kernel⟩

/-- Opening `Sales` from the demo list: the search finds it on the second page. -/
theorem openDashboard_demo :
    ∃ q', (openDashboard {} "Sales").run demoListPage = (demoList.answer {} 1, q') ∧
      q'.trace.clicks =
        ((do openPage {} dashboardListPath; requireListPage).run demoListPage).2.trace.clicks ++
          (demoList.clicks {} 1).toArray :=
  (openDashboard_contract {} "Sales").2.2 demoList demoListPage _ rfl ⟨Or.inl rfl, _, rfl⟩

end Deployment

end DashboardHarness

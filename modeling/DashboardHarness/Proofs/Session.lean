import DashboardHarness.Proofs.Calls
import DashboardHarness.Deployment.Login

/-!
# Opening and closing a logged-in session

Opening a session looks at the browser, then at the settings, then asks the browser for one
page and logs in on it. What a login run does to the page's record is the same whichever step
fails: it closes nothing, it types the configured credentials only once navigating to the
application showed the title `Superset`, the username first, and it clicks the submit button
only once both were typed. So a failed opening hands back its page closed exactly once, and an
opened session holds a page that is not closed, that took the credentials and the click in that
order, and whose address contains `welcome`. Closing a session any number of times closes its
page once, and every close answers as the first.

Main results:

- `Text.contains_iff_infix`: searching a text finds exactly its contiguous runs.
- `login_record`: every login run types and submits the credentials in order and closes
  nothing.
- `login_ok`: a login that succeeds typed both credentials, clicked the submit button once, and
  landed on an address that contains `welcome`.
- `Session.closeTimes_fresh`: `n ≥ 1` closes of a session close its page once and all answer as
  the first.
- `openSession_contract`: the contract of opening a session.
-/

namespace DashboardHarness.Text

/-- Searching a run of characters finds exactly the contiguous runs. -/
theorem containsChars_iff_infix (part s : List Char) :
    containsChars part s = true ↔ part <:+: s := by
  induction s with
  | nil => simp [containsChars, List.infix_nil]
  | cons c rest ih =>
    rw [containsChars, Bool.or_eq_true, List.isPrefixOf_iff_prefix, ih, List.infix_cons_iff]

/-- A text occurs in another when its characters are a contiguous run of the other's. -/
theorem contains_iff_infix (s part : String) :
    contains s part = true ↔ part.toList <:+: s.toList :=
  containsChars_iff_infix part.toList s.toList

end DashboardHarness.Text

namespace DashboardHarness.Deployment

open Page Browse

/-! ## What a call keeps -/

/-- From `p` to `q` the record kept its credential fields, its clicks and its closes. -/
structure Kept (p q : Page) : Prop where
  fills : q.trace.fills = p.trace.fills
  clicks : q.trace.clicks = p.trace.clicks
  closes : q.trace.closes = p.trace.closes

theorem Kept.refl (p : Page) : Kept p p :=
  ⟨rfl, rfl, rfl⟩

theorem Kept.trans {p q r : Page} (h₁ : Kept p q) (h₂ : Kept q r) : Kept p r :=
  ⟨h₂.fills.trans h₁.fills, h₂.clicks.trans h₁.clicks, h₂.closes.trans h₁.closes⟩

/-- A call that keeps the credential fields, the clicks and the closes, whatever it answers. -/
def Keeps {α : Type} (m : Browse α) : Prop :=
  ∀ p, Kept p (m.run p).2

namespace Keeps

variable {α β : Type}

theorem of_page {m : Browse α} (h : ∀ p, (m.run p).2 = p) : Keeps m := by
  intro p
  rw [h p]
  exact Kept.refl p

theorem pure (a : α) : Keeps (Pure.pure a : Browse α) :=
  of_page fun _ => rfl

theorem throw (e : Failure) : Keeps (MonadExcept.throw e : Browse α) :=
  of_page fun _ => rfl

theorem bind {m : Browse α} {f : α → Browse β} (hm : Keeps m) (hf : ∀ a, Keeps (f a)) :
    Keeps (m >>= f) := by
  intro p
  have hfirst := hm p
  rw [run_bind]
  rcases hrun : m.run p with ⟨_ | a, q⟩
  · -- the first call failed, and the run stops where it left the page
    rw [hrun] at hfirst
    exact hfirst
  · rw [hrun] at hfirst
    exact hfirst.trans (hf a q)

theorem stage (words : String) {m : Browse α} (hm : Keeps m) : Keeps (Page.stage words m) := by
  intro p
  rw [stage_page]
  exact hm p

end Keeps

/-! ## The calls of a login -/

/-- Reading the title leaves the page as it was, and answers its title unless the request was
cancelled. -/
theorem readTitle_run_cases (p : Page) :
    readTitle.run p = (.ok p.title, p) ∨ readTitle.run p = (.error (.kind .canceled), p) := by
  cases hp : p.cancelled
  · exact .inl (readTitle_run hp)
  · exact .inr (by rw [readTitle, run_live_bind_cancelled hp])

/-- Reading the address leaves the page as it was, and answers its address unless the request
was cancelled. -/
theorem readUrl_run_cases (p : Page) :
    readUrl.run p = (.ok p.url, p) ∨ readUrl.run p = (.error (.kind .canceled), p) := by
  cases hp : p.cancelled
  · exact .inl (readUrl_run hp)
  · exact .inr (by rw [readUrl, run_live_bind_cancelled hp])

/-- A fill fails leaving the page as it was, or types its value into the field's entry. -/
theorem fill_run_cases (sel : Selector) (value : String) (p : Page) :
    (∃ e, (fill sel value).run p = (.error e, p)) ∨
      (fill sel value).run p =
        (.ok (), p.mapTrace fun t => { t with fills := Keyed.set sel.render value t.fills }) := by
  cases hp : p.cancelled
  · rw [fill_run hp]
    rcases p.visibleElement sel with e | _
    · exact .inl ⟨e, rfl⟩
    · exact .inr rfl
  · rw [fill, run_live_bind_cancelled hp]
    exact .inl ⟨_, rfl⟩

/-- A click fails leaving the page as it was, or is recorded and offered to the rules, which
change the page but not its record. -/
theorem click_run_cases (sel : Selector) (options : ClickOptions) (p : Page) :
    (∃ e, (click sel options).run p = (.error e, p)) ∨
      ∃ r q, (click sel options).run p = (r, q) ∧
        q.trace = { p.trace with clicks := p.trace.clicks.push ⟨sel, options⟩ } := by
  cases hp : p.cancelled
  · rw [click_run hp]
    rcases p.visibleElement sel with e | _
    · exact .inl ⟨e, rfl⟩
    · exact .inr ⟨_, _, rfl, by rw [react_trace, mapTrace_trace]⟩
  · rw [click, run_live_bind_cancelled hp]
    exact .inl ⟨_, rfl⟩

/-- A title read that succeeds answers the page's title and leaves the page. -/
theorem readTitle_eq_ok {p q : Page} {title : String} (h : readTitle.run p = (.ok title, q)) :
    title = p.title ∧ p = q := by
  rcases readTitle_run_cases p with hr | hr <;> rw [h] at hr <;> cases hr
  exact ⟨rfl, rfl⟩

/-- An address read that succeeds answers the page's address and leaves the page. -/
theorem readUrl_eq_ok {p q : Page} {url : String} (h : readUrl.run p = (.ok url, q)) :
    url = p.url ∧ p = q := by
  rcases readUrl_run_cases p with hr | hr <;> rw [h] at hr <;> cases hr
  exact ⟨rfl, rfl⟩

/-- A fill that succeeds typed its value into the field's entry. -/
theorem fill_eq_ok {sel : Selector} {value : String} {p q : Page}
    (h : (fill sel value).run p = (.ok (), q)) :
    q = p.mapTrace fun t => { t with fills := Keyed.set sel.render value t.fills } := by
  rcases fill_run_cases sel value p with ⟨e, he⟩ | he <;> rw [h] at he <;> cases he
  rfl

/-- A click that succeeds was recorded. -/
theorem click_eq_ok {sel : Selector} {options : ClickOptions} {p q : Page}
    (h : (click sel options).run p = (.ok (), q)) :
    q.trace = { p.trace with clicks := p.trace.clicks.push ⟨sel, options⟩ } := by
  rcases click_run_cases sel options p with ⟨e, he⟩ | ⟨r, q', he, htrace⟩ <;>
    rw [h] at he <;> cases he
  exact htrace

theorem readUrl_keeps : Keeps readUrl :=
  Keeps.of_page fun p => by rcases readUrl_run_cases p with h | h <;> rw [h]

/-- A navigation records the address and lets the rules change the page, but keeps the record's
credential fields, clicks and closes. -/
theorem navigate_keeps (url : String) : Keeps (navigate url) := by
  intro p
  cases hp : p.cancelled
  · rw [navigate_run hp]
    exact ⟨by simp only [react_trace], by simp only [react_trace], by simp only [react_trace]⟩
  · rw [navigate, run_live_bind_cancelled hp]
    exact Kept.refl p

theorem waitNetworkIdle_keeps : Keeps waitNetworkIdle := by
  intro p
  cases hp : p.cancelled
  · rw [waitNetworkIdle_run hp]
    exact ⟨rfl, rfl, rfl⟩
  · rw [waitNetworkIdle, run_live_bind_cancelled hp]
    exact Kept.refl p

/-! ## Signing in -/

/-- The credential fields typed over `fills`: the configured username, then the configured
password. -/
def credentialsTyped (s : Settings) (fills : List (String × String)) : List (String × String) :=
  Keyed.set passwordField.render s.password (Keyed.set usernameField.render s.username fills)

/-- Navigating to the application from `p` reaches a page that calls itself `Superset`. -/
def TitleShown (s : Settings) (p : Page) : Prop :=
  ∃ q, (navigate s.applicationUrl).run p = (.ok (), q) ∧ q.title = applicationTitle

/-- What a login run from `p` to `q` did to the record: the username and then the password are
typed only when `shown` holds, the submit button is clicked only after both were typed, and
nothing is closed. -/
structure LoginRecord (shown : Prop) (s : Settings) (p q : Page) : Prop where
  fills : q.trace.fills = p.trace.fills ∨ shown ∧
    (q.trace.fills = Keyed.set usernameField.render s.username p.trace.fills ∨
      q.trace.fills = credentialsTyped s p.trace.fills)
  clicks : q.trace.clicks = p.trace.clicks ∨ shown ∧
    q.trace.clicks = p.trace.clicks.push ⟨submitButton, {}⟩ ∧
      q.trace.fills = credentialsTyped s p.trace.fills
  closes : q.trace.closes = p.trace.closes

namespace LoginRecord

variable {shown : Prop} {s : Settings} {p q r : Page}

theorem of_kept (h : Kept p q) : LoginRecord shown s p q :=
  ⟨.inl h.fills, .inl h.clicks, h.closes⟩

/-- What keeps the record after a login run keeps what the run did. -/
theorem kept (h : LoginRecord shown s p q) (hk : Kept q r) : LoginRecord shown s p r := by
  obtain ⟨hfills, hclicks, hcloses⟩ := h
  rw [← hk.fills, ← hk.clicks] at *
  exact ⟨hfills, hclicks, hk.closes.trans hcloses⟩

/-- A run that started once `shown` held, after calls that kept the record. -/
theorem after (hk : Kept p q) (h : LoginRecord True s q r) (hshown : shown) :
    LoginRecord shown s p r := by
  obtain ⟨hfills, hclicks, hcloses⟩ := h
  rw [hk.fills, hk.clicks] at *
  refine ⟨?_, ?_, hcloses.trans hk.closes⟩
  · rcases hfills with hsame | ⟨-, htyped⟩
    · exact .inl hsame
    · exact .inr ⟨hshown, htyped⟩
  · rcases hclicks with hsame | ⟨-, hpushed⟩
    · exact .inl hsame
    · exact .inr ⟨hshown, hpushed⟩

end LoginRecord

/-- The end of a login: let the network settle, and check the address the page landed on. -/
def land : Browse String := do
  stage "wait for network idle" waitNetworkIdle
  let landing ← stage "read landing url" readUrl
  if !Text.contains landing landingMarker then
    throw (.detail .landingNotReached
      ("expected " ++ Text.quote landingMarker ++ " in " ++ landing))
  return landing

/-- The login after its title check: type the credentials, submit them, and land. -/
def signIn (s : Settings) : Browse String := do
  stage "fill username" (fill usernameField s.username)
  stage "fill password" (fill passwordField s.password)
  stage "submit login" (click submitButton {})
  land

theorem land_keeps : Keeps land := by
  refine (Keeps.stage _ waitNetworkIdle_keeps).bind fun _ =>
    (Keeps.stage _ readUrl_keeps).bind fun landing => ?_
  dsimp only
  split
  · exact (Keeps.throw _).bind fun _ => Keeps.pure _
  · exact Keeps.pure _

/-- Landing succeeds on a page whose address contains `welcome`, and answers that address. -/
theorem land_ok {p q : Page} {landing : String} (h : land.run p = (.ok landing, q)) :
    Kept p q ∧ q.url = landing ∧ Text.contains landing landingMarker = true := by
  have hkept : Kept p q := by
    have := land_keeps p
    rwa [h] at this
  obtain ⟨_, q₁, -, h⟩ := run_bind_eq_ok h
  obtain ⟨url, q₂, hread, h⟩ := run_bind_eq_ok h
  obtain ⟨rfl, rfl⟩ := readUrl_eq_ok (run_mapFailure_eq_ok hread)
  dsimp only at h
  by_cases hmarker : Text.contains q₁.url landingMarker = true
  · rw [if_neg (by simp [hmarker]), run_pure] at h
    cases h
    exact ⟨hkept, rfl, hmarker⟩
  · rw [if_pos (by simpa using hmarker), throw_bind, run_throw] at h
    cases h

/-- Signing in types the username, then the password, then clicks the submit button, stops at
the first step that fails, and closes nothing. -/
theorem signIn_record (s : Settings) (p : Page) : LoginRecord True s p ((signIn s).run p).2 := by
  unfold signIn
  rcases fill_run_cases usernameField s.username p with ⟨e, hname⟩ | hname
  · -- no username field: nothing is typed
    rw [run_bind_error (run_stage_error hname _)]
    exact .of_kept (Kept.refl p)
  rw [run_bind_ok (run_stage_ok hname _)]
  rcases fill_run_cases passwordField s.password (p.mapTrace _) with ⟨e, hword⟩ | hword
  · -- no password field: only the username is typed
    rw [run_bind_error (run_stage_error hword _)]
    exact ⟨.inr ⟨trivial, .inl rfl⟩, .inl rfl, rfl⟩
  rw [run_bind_ok (run_stage_ok hword _)]
  rcases click_run_cases submitButton {} ((p.mapTrace _).mapTrace _) with
    ⟨e, hclick⟩ | ⟨result, q, hclick, htrace⟩
  · -- no submit button: both credentials are typed, and nothing is clicked
    rw [run_bind_error (run_stage_error hclick _)]
    exact ⟨.inr ⟨trivial, .inr rfl⟩, .inl rfl, rfl⟩
  have hclicked : LoginRecord True s p q := by
    have hfills : q.trace.fills = credentialsTyped s p.trace.fills := by
      rw [htrace]
      rfl
    have hclicks : q.trace.clicks = p.trace.clicks.push ⟨submitButton, {}⟩ := by
      rw [htrace]
      rfl
    have hcloses : q.trace.closes = p.trace.closes := by
      rw [htrace]
      rfl
    exact ⟨.inr ⟨trivial, .inr hfills⟩, .inr ⟨trivial, hclicks, hfills⟩, hcloses⟩
  rcases result with e | _
  · rw [run_bind_error (run_stage_error hclick _)]
    exact hclicked
  · rw [run_bind_ok (run_stage_ok hclick _)]
    exact hclicked.kept (land_keeps q)

/-- Signing in succeeds after typing both credentials and clicking the submit button once, on a
page whose address contains `welcome`. -/
theorem signIn_ok {s : Settings} {p q : Page} {landing : String}
    (h : (signIn s).run p = (.ok landing, q)) :
    q.trace.fills = credentialsTyped s p.trace.fills ∧
      q.trace.clicks = p.trace.clicks.push ⟨submitButton, {}⟩ ∧
      q.trace.closes = p.trace.closes ∧ q.url = landing ∧
      Text.contains landing landingMarker = true := by
  obtain ⟨_, q₁, hname, h⟩ := run_bind_eq_ok h
  obtain ⟨_, q₂, hword, h⟩ := run_bind_eq_ok h
  obtain ⟨_, q₃, hclick, h⟩ := run_bind_eq_ok h
  obtain ⟨hkept, hurl, hmarker⟩ := land_ok h
  have h₁ := fill_eq_ok (run_mapFailure_eq_ok hname)
  have h₂ := fill_eq_ok (run_mapFailure_eq_ok hword)
  have h₃ := click_eq_ok (run_mapFailure_eq_ok hclick)
  subst h₁ h₂
  refine ⟨?_, ?_, ?_, hurl, hmarker⟩
  · rw [hkept.fills, h₃]
    rfl
  · rw [hkept.clicks, h₃]
    rfl
  · rw [hkept.closes, h₃]
    rfl

/-! ## Logging in -/

/-- Every login run, whichever step fails, types the credentials only once the application's
title was shown, the username first, clicks the submit button only after both, and closes
nothing. -/
theorem login_record (s : Settings) (p : Page) :
    LoginRecord (TitleShown s p) s p ((login s).run p).2 := by
  rw [login]
  have hnavigated := navigate_keeps s.applicationUrl p
  rcases hnav : (navigate s.applicationUrl).run p with ⟨e | _, q⟩
  · rw [run_bind_error (run_stage_error hnav _)]
    rw [hnav] at hnavigated
    exact .of_kept hnavigated
  rw [hnav] at hnavigated
  rw [run_bind_ok (run_stage_ok hnav _)]
  rcases readTitle_run_cases q with hread | hread
  · rw [run_bind_ok (run_stage_ok hread _)]
    dsimp only
    by_cases htitle : q.title = applicationTitle
    · -- the title is shown: the credentials go in
      rw [if_neg (not_not_intro htitle)]
      exact (signIn_record s q).after hnavigated ⟨q, hnav, htitle⟩
    · rw [if_pos htitle, throw_bind, run_throw]
      exact .of_kept hnavigated
  · rw [run_bind_error (run_stage_error hread _)]
    exact .of_kept hnavigated

/-- A login that succeeds showed the application's title, typed both credentials, clicked the
submit button once, closed nothing, and answers the address it landed on, which contains
`welcome`. -/
theorem login_ok {s : Settings} {p q : Page} {landing : String}
    (h : (login s).run p = (.ok landing, q)) :
    TitleShown s p ∧ q.trace.fills = credentialsTyped s p.trace.fills ∧
      q.trace.clicks = p.trace.clicks.push ⟨submitButton, {}⟩ ∧
      q.trace.closes = p.trace.closes ∧ q.url = landing ∧
      Text.contains landing landingMarker = true := by
  obtain ⟨_, q₁, hnav, h⟩ := run_bind_eq_ok h
  have hnavigated : Kept p q₁ := by
    have := navigate_keeps s.applicationUrl p
    rwa [run_mapFailure_eq_ok hnav] at this
  obtain ⟨title, q₂, hread, h⟩ := run_bind_eq_ok h
  obtain ⟨rfl, rfl⟩ := readTitle_eq_ok (run_mapFailure_eq_ok hread)
  dsimp only at h
  by_cases hshown : q₁.title = applicationTitle
  · rw [if_neg (not_not_intro hshown)] at h
    obtain ⟨hfills, hclicks, hcloses, hurl, hmarker⟩ := signIn_ok h
    rw [hnavigated.fills] at hfills
    rw [hnavigated.clicks] at hclicks
    exact ⟨⟨q₁, run_mapFailure_eq_ok hnav, hshown⟩, hfills, hclicks,
      hcloses.trans hnavigated.closes, hurl, hmarker⟩
  · rw [if_pos hshown, throw_bind, run_throw] at h
    cases h

/-! ## Opening a session -/

/-- A browser that hands out a page takes the first of its waiting pages and counts it. -/
theorem Browser.newPage_ok {b rest : Browser} {page : Page} (h : b.newPage = .ok (page, rest)) :
    b.failure = none ∧ b.waiting = page :: rest.waiting ∧ rest.opened = b.opened + 1 := by
  unfold Browser.newPage at h
  split at h
  · cases h
  · cases h
  · next hfailure hwaiting =>
    cases h
    exact ⟨hfailure, hwaiting, rfl⟩

/-- An opening refused with a browser and valid settings is one whose browser handed out no
page. -/
theorem openSession_refused {b : Browser} {s : Settings} {f : Failure}
    (h : openSession (some b) s = .refused f) (hvalid : s.validate = .ok ()) :
    ∃ e, b.newPage = .error e := by
  unfold openSession at h
  rw [hvalid] at h
  dsimp only at h
  split at h
  · next e _ => exact ⟨e, ‹_›⟩
  · split at h <;> cases h

/-- A failed opening took one page from the browser, ran the login on it into a failure, and
closed the page the login left. -/
theorem openSession_failed {browser : Option Browser} {s : Settings} {f : Failure} {page : Page}
    {rest : Browser} (h : openSession browser s = .failed f page rest) :
    ∃ b p₀ q, browser = some b ∧ s.validate = .ok () ∧ b.newPage = .ok (p₀, rest) ∧
      (login s).run p₀ = (.error f, q) ∧ page = (Page.close.run q).2 := by
  unfold openSession at h
  split at h
  · cases h
  · next b =>
    split at h
    · cases h
    · next hvalid =>
      split at h
      · cases h
      · next p₀ rest₀ hpage =>
        split at h
        · cases h
        · next f₀ q hlogin =>
          cases h
          exact ⟨b, p₀, q, rfl, hvalid, hpage, hlogin, rfl⟩

/-- An opened session took one page from the browser and ran the login on it to success. -/
theorem openSession_opened {browser : Option Browser} {s : Settings} {session : Session}
    {rest : Browser} (h : openSession browser s = .opened session rest) :
    ∃ b p₀, browser = some b ∧ s.validate = .ok () ∧ b.newPage = .ok (p₀, rest) ∧
      (login s).run p₀ = (.ok session.landingUrl, session.page) ∧ session.settings = s ∧
      session.closing = none := by
  unfold openSession at h
  split at h
  · cases h
  · next b =>
    split at h
    · cases h
    · next hvalid =>
      split at h
      · cases h
      · next p₀ rest₀ hpage =>
        split at h
        · next landing q hlogin =>
          cases h
          exact ⟨b, p₀, rfl, hvalid, hpage, hlogin, rfl, rfl⟩
        · cases h

/-! ## Closing a session -/

namespace Session

/-- `n` closes of a session, one after another: their answers, and the session they leave. -/
def closeTimes : Nat → Session → List (Except Failure Unit) × Session
  | 0, session => ([], session)
  | n + 1, session =>
    let (first, session) := session.close
    let (rest, session) := closeTimes n session
    (first :: rest, session)

/-- A session that was closed answers every later close with its first result, and stays as it
is. -/
theorem closeTimes_closed {session : Session} {first : Except Failure Unit}
    (h : session.closing = some first) (n : Nat) :
    session.closeTimes n = (List.replicate n first, session) := by
  induction n with
  | zero => rfl
  | succ n ih =>
    have hclose : session.close = (first, session) := by
      rw [Session.close, h]
    rw [closeTimes, hclose]
    dsimp only
    rw [ih]
    rfl

/-- `n ≥ 1` closes of a session that was not closed close its page once, and all answer as the
first, which succeeds. -/
theorem closeTimes_fresh {session : Session} (h : session.closing = none) {n : Nat}
    (hn : 1 ≤ n) :
    (session.closeTimes n).1 = List.replicate n (.ok ()) ∧
      (session.closeTimes n).2.page = (Page.close.run session.page).2 ∧
      (session.closeTimes n).2.page.trace.closes = session.page.trace.closes + 1 := by
  obtain ⟨k, rfl⟩ : ∃ k, n = k + 1 := ⟨n - 1, by omega⟩
  let closed : Session :=
    { session with page := (Page.close.run session.page).2, closing := some (.ok ()) }
  have hfirst : session.close = (.ok (), closed) := by
    rw [Session.close, h]
    rfl
  have hrest : closed.closeTimes k = (List.replicate k (.ok ()), closed) :=
    closeTimes_closed rfl k
  rw [closeTimes, hfirst]
  dsimp only
  rw [hrest]
  exact ⟨rfl, rfl, rfl⟩

end Session

/-- The contract of opening a session. Without a browser, or with settings that are not valid,
the opening is refused before a page is asked for; with both, a refusal means that the browser
handed out no page. Otherwise the browser handed out one page, its first. A failed opening hands
that page back closed exactly once, after a login run that typed the credentials only once the
application's title was shown, and clicked the submit button only after both. An opened session
holds that page unclosed, on an address that contains `welcome`, with both credentials typed and
the button clicked once after them, and `n ≥ 1` closes of it close the page once and all answer
as the first. -/
theorem openSession_contract (browser : Option Browser) (s : Settings) :
    (browser = none → openSession browser s = .refused (.kind .missingBrowser)) ∧
    (∀ b f, browser = some b → s.validate = .error f → openSession browser s = .refused f) ∧
    (∀ b f, browser = some b → s.validate = .ok () → openSession browser s = .refused f →
      ∃ e, b.newPage = .error e) ∧
    (∀ f page rest, openSession browser s = .failed f page rest →
      ∃ b p₀ q, browser = some b ∧ s.validate = .ok () ∧ b.failure = none ∧
        b.waiting = p₀ :: rest.waiting ∧ rest.opened = b.opened + 1 ∧
        LoginRecord (TitleShown s p₀) s p₀ q ∧ page = (Page.close.run q).2 ∧
        page.trace.closes = p₀.trace.closes + 1) ∧
    (∀ session rest, openSession browser s = .opened session rest →
      ∃ b p₀, browser = some b ∧ s.validate = .ok () ∧ b.failure = none ∧
        b.waiting = p₀ :: rest.waiting ∧ rest.opened = b.opened + 1 ∧
        session.settings = s ∧ session.page.trace.closes = p₀.trace.closes ∧
        session.landingUrl = session.page.url ∧
        landingMarker.toList <:+: session.page.url.toList ∧ TitleShown s p₀ ∧
        session.page.trace.fills = credentialsTyped s p₀.trace.fills ∧
        session.page.trace.clicks = p₀.trace.clicks.push ⟨submitButton, {}⟩ ∧
        ∀ n, 1 ≤ n → (session.closeTimes n).1 = List.replicate n (.ok ()) ∧
          (session.closeTimes n).2.page.trace.closes = session.page.trace.closes + 1) := by
  refine ⟨fun hnone => by rw [hnone]; rfl, fun b f hb hinvalid => ?_,
    fun b f hb hvalid h => ?_, fun f page rest h => ?_, fun session rest h => ?_⟩
  · rw [hb]
    exact openSession_invalid b s f hinvalid
  · rw [hb] at h
    exact openSession_refused h hvalid
  · obtain ⟨b, p₀, q, hb, hvalid, hpage, hlogin, rfl⟩ := openSession_failed h
    obtain ⟨hfailure, hwaiting, hopened⟩ := Browser.newPage_ok hpage
    have hrecord := login_record s p₀
    rw [hlogin] at hrecord
    exact ⟨b, p₀, q, hb, hvalid, hfailure, hwaiting, hopened, hrecord, rfl,
      by rw [close_run, mapTrace_trace, hrecord.closes]⟩
  · obtain ⟨b, p₀, hb, hvalid, hpage, hlogin, hsettings, hclosing⟩ := openSession_opened h
    obtain ⟨hfailure, hwaiting, hopened⟩ := Browser.newPage_ok hpage
    obtain ⟨hshown, hfills, hclicks, hcloses, hurl, hmarker⟩ := login_ok hlogin
    refine ⟨b, p₀, hb, hvalid, hfailure, hwaiting, hopened, hsettings, hcloses, hurl.symm, ?_,
      hshown, hfills, hclicks, fun n hn => ?_⟩
    · rw [hurl]
      exact (Text.contains_iff_infix _ _).mp hmarker
    · obtain ⟨hresults, -, hclosed⟩ := Session.closeTimes_fresh hclosing hn
      exact ⟨hresults, hclosed⟩

/-- A login page of the application: the credential fields and the submit button, and a rule
that lands on the welcome page when the button is clicked. -/
def demoLoginPage : Page :=
  { elements := [("#username", { visible := true }), ("#password", { visible := true }),
      ("input.btn.btn-primary.btn-block", { visible := true })],
    title := "Superset",
    rules := [
      { trigger := .click (some "input.btn.btn-primary.btn-block")
        actions := [.setUrl "http://localhost:8088/superset/welcome/"] }] }

/-- With the default settings, a browser that hands out the login page opens a session on the
welcome page, and two closes of it both succeed. -/
theorem openSession_demo :
    ∃ session rest, openSession (some { waiting := [demoLoginPage] }) {} = .opened session rest ∧
      landingMarker.toList <:+: session.page.url.toList ∧
      (session.closeTimes 2).1 = [.ok (), .ok ()] := by
  have hopened : (match openSession (some { waiting := [demoLoginPage] }) {} with
      | .opened .. => true
      | _ => false) = true := by
    decide +kernel
  rcases h : openSession (some { waiting := [demoLoginPage] }) {} with
    f | ⟨f, page, rest⟩ | ⟨session, rest⟩ <;> rw [h] at hopened
  · cases hopened
  · cases hopened
  · obtain ⟨-, -, -, -, -, -, -, -, -, -, hurl, -, -, -, hcloses⟩ :=
      (openSession_contract _ _).2.2.2.2 session rest h
    exact ⟨session, rest, rfl, hurl, (hcloses 2 (by decide)).1⟩

end DashboardHarness.Deployment

import DashboardHarness.Browser.Page
import DashboardHarness.Settings.Validate
import DashboardHarness.Deployment.Landmarks
import DashboardHarness.Text.Quoted
import DashboardHarness.Text.Search

/-!
# Logged-in sessions

A session is a page of the deployment on which the configured user has logged in. Opening one
checks, in this order, that there is a browser, that the settings are valid, and that the browser
hands out a page; then it logs in: open the application, check that the page calls itself
`Superset`, fill in the credentials, submit, let the network settle, and check that the address
the page landed on contains `welcome`. A login that fails closes its page, so no failure leaves a
page open. Closing a session closes its page once; later closes repeat the first result.

The browser here is a source of prepared pages, handed out in order.

Main results:

- `openSession_invalid`: with invalid settings no page is asked for.
- `close_twice`: a second close repeats the first and leaves the page as the first close did.
-/

namespace DashboardHarness.Deployment

open Page

/-- The part of the address that shows a login reached the landing page. -/
def landingMarker : String := "welcome"

/-- A browser that hands out prepared pages in order, or fails every request with `failure`. -/
structure Browser where
  waiting : List Page
  opened : Nat := 0
  failure : Option Failure := none

/-- The next page of the browser, with the browser that is left. -/
def Browser.newPage (b : Browser) : Except Failure (Page × Browser) :=
  match b.failure, b.waiting with
  | some f, _ => .error f
  | none, [] => .error (.raised ("browsertest: no scripted page left after " ++ toString b.opened))
  | none, page :: rest => .ok (page, { b with waiting := rest, opened := b.opened + 1 })

/-- The login steps on an open page; the answer is the address the page landed on. -/
def login (s : Settings) : Browse String := do
  stage "navigate to application" (navigate s.applicationUrl)
  let title ← stage "read page title" readTitle
  if title ≠ applicationTitle then
    throw (.detail .titleMismatch
      ("expected " ++ Text.quote applicationTitle ++ ", got " ++ Text.quote title))
  stage "fill username" (fill usernameField s.username)
  stage "fill password" (fill passwordField s.password)
  stage "submit login" (click submitButton {})
  stage "wait for network idle" waitNetworkIdle
  let landing ← stage "read landing url" readUrl
  if !Text.contains landing landingMarker then
    throw (.detail .landingNotReached
      ("expected " ++ Text.quote landingMarker ++ " in " ++ landing))
  return landing

/-- A logged-in page with the settings it logged in with, the address it landed on, and the
result of its first close once it has been closed. -/
structure Session where
  page : Page
  settings : Settings
  landingUrl : String
  closing : Option (Except Failure Unit) := none

/-- Closes the page of a session the first time; every later close gives the first result and
leaves the page alone. -/
def Session.close (session : Session) : Except Failure Unit × Session :=
  match session.closing with
  | some first => (first, session)
  | none =>
    let (result, page) := (Page.close).run session.page
    (result, { session with page := page, closing := some result })

/-- What opening a session came to: refused before a page was handed out, failed on a page that
is now closed, or opened. The latter two carry the browser that is left. -/
inductive Opening
  | refused (failure : Failure)
  | failed (failure : Failure) (page : Page) (rest : Browser)
  | opened (session : Session) (rest : Browser)

/-- Opens a session: there must be a browser, the settings must be valid and the browser must
hand out a page; then the login runs on that page, and a failed login closes it. -/
def openSession (browser : Option Browser) (s : Settings) : Opening :=
  match browser with
  | none => .refused (.kind .missingBrowser)
  | some b =>
    match s.validate with
    | .error f => .refused f
    | .ok () =>
      match b.newPage with
      | .error f => .refused (.context "open page" f)
      | .ok (page, rest) =>
        match (login s).run page with
        | (.ok landing, page) => .opened ⟨page, s, landing, none⟩ rest
        | (.error f, page) => .failed f ((Page.close).run page).2 rest

theorem openSession_invalid (b : Browser) (s : Settings) (f : Failure)
    (h : s.validate = .error f) : openSession (some b) s = .refused f := by
  simp [openSession, h]

theorem close_twice (session : Session) :
    (session.close.2.close) = session.close := by
  unfold Session.close
  cases h : session.closing with
  | some first => simp [h]
  | none =>
    generalize (Page.close).run session.page = r
    rcases r with ⟨result, page⟩
    rfl

end DashboardHarness.Deployment

import DashboardHarness.Proofs.PlainTargets

/-!
# Logging in returns to the page first asked for

A browser with no session that asks for a page is sent to the login form, whose address carries
the page, as it was requested, escaped as the `next` value of its query; the page itself is not
served. The login form at that address reads the page back and offers it as the page to go on
to, and signing in with the configured credentials sends the browser to the safe form of that
page. The list of dashboards for scripts refuses such a browser outright.

The page comes back unchanged when it is a plain target: a login sends a browser only to a path
on this host with no backslash, and a redirect cleans the path and escapes what is not ASCII.
A page asked for with a backslash in its query, which the server accepts, is not plain: signing
in from it goes to the welcome page instead.

Main results:

- `plainTarget_loginNext`, `read_loginNext`: the login form's address is plain and reads back
  as the login path with the page as the only pair of its query.
- `handle_page_anonymous`, `handle_submitLogin`: what a page and a login answer.
- `login_returns_to_requested_page`: the whole round trip, for every page asked for.
- `login_with_backslash_query_goes_to_welcome`: a page with a backslash in its query is lost.
-/

namespace DashboardHarness.Fixture

open Web Text

/-! ## The login form's address -/

/-- The login form's address that goes on to a page: the login path, a question mark, and the
pair of `next` with the escaped page. -/
theorem toList_loginNext (u : String) :
    (loginPath ++ "?next=" ++ queryEscape u).toList =
      loginPath.toList ++ '?' :: ("next=".toList ++ (queryEscape u).toList) := by
  simp [loginPath]

theorem takeWhile_loginNext (u : String) :
    (loginPath ++ "?next=" ++ queryEscape u).toList.takeWhile (· ≠ '?') = loginPath.toList := by
  rw [toList_loginNext, List.takeWhile_append_of_pos (by simp [loginPath])]
  simp

theorem dropWhile_loginNext (u : String) :
    (loginPath ++ "?next=" ++ queryEscape u).toList.dropWhile (· ≠ '?') =
      '?' :: ("next=".toList ++ (queryEscape u).toList) := by
  rw [toList_loginNext, List.dropWhile_append_of_pos (by simp [loginPath])]
  simp

/-- The login form's address that goes on to a page is a plain target. -/
theorem plainTarget_loginNext (u : String) :
    plainTarget (loginPath ++ "?next=" ++ queryEscape u) = true := by
  have hchars : ∀ c ∈ (loginPath ++ "?next=" ++ queryEscape u).toList, plainChar c = true := by
    intro c hc
    rw [toList_loginNext] at hc
    simp only [List.mem_append, List.mem_cons] at hc
    rcases hc with hc | rfl | hc | hc
    · exact (List.all_eq_true (p := plainChar)).mp (by decide) c hc
    · decide
    · exact (List.all_eq_true (p := plainChar)).mp (by decide) c hc
    · exact plainChar_of_queryEscapeChar (queryEscape_chars u c hc)
  unfold plainTarget
  rw [takeWhile_loginNext, List.all_eq_true.mpr hchars]
  decide

/-- The login form's address that goes on to a page is read as the login path with the page,
escaped, as the only pair of its query. -/
theorem read_loginNext (u : String) (headers : List (String × String)) (body : String) :
    Request.read "GET" (loginPath ++ "?next=" ++ queryEscape u) headers body =
      .ok { method := "GET",
            url := { path := textBytes loginPath, rawPath := loginPath,
                     rawQuery := "next=" ++ queryEscape u },
            headers := headers, body := body } := by
  have hspace : ' ' ∉ (loginPath ++ "?next=" ++ queryEscape u).toList := by
    rw [toList_loginNext]
    simp only [List.mem_append, List.mem_cons, not_or]
    exact ⟨by decide, by decide, by decide, not_mem_queryEscape (by decide) u⟩
  have hpath : decodeBytes .path loginPath.toList = textBytes loginPath := by decide
  rw [read_get_plainTarget (plainTarget_loginNext u) hspace]
  unfold plainUrl
  rw [takeWhile_loginNext, dropWhile_loginNext, hpath, List.drop_one, List.tail_cons, ← String.toList_append,
    String.ofList_toList, String.ofList_toList]
  simp

/-- The page to go on to, read back from the query of the login form's address. -/
theorem firstValue_loginNext (u : String) :
    firstValue (parseQuery ("next=" ++ queryEscape u)) "next" = textBytes u := by
  have hpair : "next=" ++ queryEscape u = queryEscape "next" ++ "=" ++ queryEscape u := by
    rw [show queryEscape "next" = "next" by decide, String.append_assoc]
    rfl
  rw [hpair, parseQuery_escapedPair]
  simp [firstValue]

/-! ## Answers to a browser with no session -/

/-- Whether a route serves a page to signed-in users only. -/
def Route.isPage : Route → Bool
  | .welcome | .dashboardList | .dashboard _ => true
  | _ => false

/-- A request with a route is served on it, with its path, its request URI and its query. -/
theorem handle_of_route (srv : Server) {r : Request} {route : Route}
    (hroute : routeOf r.method r.url.path = some route) :
    srv.handle r = srv.serve r route r.url.path r.url.requestUri (parseQuery r.url.rawQuery) := by
  simp only [Server.handle, hroute]

/-- An anonymous request for a page is sent to the login form, which is to go on to the page as
it was requested. -/
theorem handle_page_anonymous (srv : Server) {r : Request} {route : Route}
    (hroute : routeOf r.method r.url.path = some route) (hpage : route.isPage = true)
    (hanon : currentUser r.cookies = none) :
    srv.handle r = redirect r.method r.url.path
      (textBytes (loginPath ++ "?next=" ++ queryEscape r.url.requestUri)) 302 := by
  rw [handle_of_route srv hroute]
  cases route <;> simp [Route.isPage] at hpage <;> simp [Server.serve, hanon]

/-- An anonymous request for the list of dashboards for scripts is refused. -/
theorem handle_api_anonymous (srv : Server) {r : Request}
    (hroute : routeOf r.method r.url.path = some .dashboardApi)
    (hanon : currentUser r.cookies = none) :
    srv.handle r =
      { status := 401
        headers := corsHeaders r ++ [("Content-Type", jsonType)]
        body := .json (.obj [("message", .str "Not authorized")]) } := by
  rw [handle_of_route srv hroute]
  simp [Server.serve, hanon, jsonResponse]

/-- An anonymous request for the login form gets it, with the page to go on to from its query. -/
theorem handle_loginForm_anonymous (srv : Server) {r : Request}
    (hroute : routeOf r.method r.url.path = some .loginForm)
    (hanon : currentUser r.cookies = none) :
    srv.handle r =
      htmlResponse 200 (loginPage (decodeUtf8 (firstValue (parseQuery r.url.rawQuery) "next")) "") := by
  rw [handle_of_route srv hroute]
  simp [Server.serve, hanon]

/-- A form sent to the login path signs in. -/
theorem routeOf_post_login {post : Request} (hmethod : post.method = "POST")
    (hpath : post.url.path = textBytes loginPath) :
    routeOf post.method post.url.path = some .submitLogin := by
  rw [hmethod, hpath]
  decide

/-- Signing in with the configured credentials sets the session and goes on to the safe form of
the page to go on to. -/
theorem handle_submitLogin (srv : Server) {r : Request}
    (hroute : routeOf r.method r.url.path = some .submitLogin)
    (htrim : trimBlank srv.options.username = srv.options.username)
    (hname : firstValue (formFields r) "username" = textBytes srv.options.username)
    (hpassword : firstValue (formFields r) "password" = textBytes srv.options.password) :
    srv.handle r = redirect r.method r.url.path (safeTarget (firstValue (formFields r) "next")) 302
      [sessionCookie (.issued (some srv.options.username)) sessionMaxAge] := by
  rw [handle_of_route srv hroute]
  simp [Server.serve, hname, hpassword, wellFormed_textBytes, htrim]

/-- A target with a backslash, which browsers read as a slash, never leaves the welcome page. -/
theorem safeTarget_backslash {next : List Nat} (h : '\\' ∈ (decodeUtf8 next).toList) :
    safeTarget next = textBytes welcomePath := by
  simp [safeTarget, h]

/-! ## The login round trip -/

theorem login_returns_to_requested_page (srv : Server) (r : Request) (hget : r.method = "GET")
    (hanon : currentUser r.cookies = none)
    (hpage : (routeOf "GET" r.url.path).any Route.isPage = true) :
    srv.handle r = redirect "GET" r.url.path
        (textBytes (loginPath ++ "?next=" ++ queryEscape r.url.requestUri)) 302 ∧
      (srv.handle r).location = some (loginPath ++ "?next=" ++ queryEscape r.url.requestUri) ∧
      (∀ (headers : List (String × String)) (body : String), ∃ form : Request,
        Request.read "GET" (loginPath ++ "?next=" ++ queryEscape r.url.requestUri) headers body =
          .ok form ∧
        ∀ cookies, currentUser cookies = none →
          srv.handle { form with cookies := cookies } = htmlResponse 200 (loginPage r.url.requestUri "")) ∧
      (plainTarget r.url.requestUri = true → trimBlank srv.options.username = srv.options.username →
        ∀ post : Request, post.method = "POST" → post.url.path = textBytes loginPath →
          firstValue (formFields post) "username" = textBytes srv.options.username →
          firstValue (formFields post) "password" = textBytes srv.options.password →
          firstValue (formFields post) "next" = textBytes r.url.requestUri →
          (srv.handle post).status = 302 ∧ (srv.handle post).location = some r.url.requestUri) ∧
      (∀ api : Request, api.method = "GET" → currentUser api.cookies = none →
        routeOf "GET" api.url.path = some .dashboardApi →
        srv.handle api =
          { status := 401
            headers := corsHeaders api ++ [("Content-Type", jsonType)]
            body := .json (.obj [("message", .str "Not authorized")]) }) := by
  obtain ⟨route, hroute, hisPage⟩ :
      ∃ route, routeOf r.method r.url.path = some route ∧ route.isPage = true := by
    rw [hget]
    cases h : routeOf "GET" r.url.path with
    | none => simp [h] at hpage
    | some route => exact ⟨route, rfl, by simpa [h] using hpage⟩
  have hredirect := handle_page_anonymous srv hroute hisPage hanon
  rw [hget] at hredirect
  refine ⟨hredirect, ?_, ?_, ?_, ?_⟩
  · -- the login form's address is plain, so the redirect names it as it is
    rw [hredirect]
    exact location_redirect_plainTarget (plainTarget_loginNext _) _ _ _ _
  · -- the address reads back as the login form with the page as its only query pair
    intro headers body
    have hform : routeOf "GET" (textBytes loginPath) = some .loginForm := by decide
    refine ⟨_, read_loginNext _ headers body, fun cookies hcookies => ?_⟩
    rw [handle_loginForm_anonymous srv hform hcookies]
    simp only [firstValue_loginNext, decodeUtf8_textBytes]
  · -- a plain page is safe, and the redirect back to it names it as it is
    intro hplain htrim post hmethod hpath hname hpassword hnext
    rw [handle_submitLogin srv (routeOf_post_login hmethod hpath) htrim hname hpassword, hnext,
      safeTarget_plainTarget hplain]
    exact ⟨redirect_status _ _ _ _ _, location_redirect_plainTarget hplain _ _ _ _⟩
  · intro api hmethod hapiAnon hapi
    exact handle_api_anonymous srv (by rw [hmethod]; exact hapi) hapiAnon

/-- The application with its default settings and nothing stored. -/
def defaultServer : Server := { options := {}, store := {} }

/-- The welcome page asked for with a query by a browser with no session. -/
def welcomeWithTab : Request :=
  { url := { path := textBytes welcomePath, rawPath := welcomePath, rawQuery := "tab=1" } }

theorem login_returns_to_welcome_tab :
    welcomeWithTab.url.requestUri = "/superset/welcome/?tab=1" ∧
      (defaultServer.handle welcomeWithTab).location =
        some "/login/?next=%2Fsuperset%2Fwelcome%2F%3Ftab%3D1" ∧
      ∀ post : Request, post.method = "POST" → post.url.path = textBytes loginPath →
        firstValue (formFields post) "username" = textBytes "admin" →
        firstValue (formFields post) "password" = textBytes "admin" →
        firstValue (formFields post) "next" = textBytes "/superset/welcome/?tab=1" →
        (defaultServer.handle post).location = some "/superset/welcome/?tab=1" := by
  have huri : welcomeWithTab.url.requestUri = "/superset/welcome/?tab=1" := by decide
  have hround := login_returns_to_requested_page defaultServer welcomeWithTab rfl rfl (by decide)
  rw [huri] at hround
  refine ⟨huri, by rw [hround.2.1]; decide, ?_⟩
  intro post hmethod hpath hname hpassword hnext
  exact (hround.2.2.2.1 (by decide) (by decide) post hmethod hpath hname hpassword hnext).2

/-- The welcome page asked for with a backslash in its query by a browser with no session. -/
def welcomeWithBackslash : Request :=
  { url := { path := textBytes welcomePath, rawPath := welcomePath, rawQuery := "q=\\" } }

/-- Signing in from the welcome page asked for with a backslash in its query goes to the welcome
page without the query. -/
theorem login_with_backslash_query_goes_to_welcome :
    welcomeWithBackslash.url.requestUri = "/superset/welcome/?q=\\" ∧
      (defaultServer.handle welcomeWithBackslash).location =
        some "/login/?next=%2Fsuperset%2Fwelcome%2F%3Fq%3D%5C" ∧
      ∀ post : Request, post.method = "POST" → post.url.path = textBytes loginPath →
        firstValue (formFields post) "username" = textBytes "admin" →
        firstValue (formFields post) "password" = textBytes "admin" →
        firstValue (formFields post) "next" = textBytes "/superset/welcome/?q=\\" →
        (defaultServer.handle post).location = some welcomePath := by
  have huri : welcomeWithBackslash.url.requestUri = "/superset/welcome/?q=\\" := by decide
  have hpage : routeOf welcomeWithBackslash.method welcomeWithBackslash.url.path = some .welcome := by
    decide
  refine ⟨huri, ?_, ?_⟩
  · rw [handle_page_anonymous defaultServer hpage rfl rfl,
      location_redirect_plainTarget (plainTarget_loginNext _), huri]
    decide
  · intro post hmethod hpath hname hpassword hnext
    have hback : '\\' ∈ (decodeUtf8 (textBytes "/superset/welcome/?q=\\")).toList := by
      rw [decodeUtf8_textBytes]
      decide
    rw [handle_submitLogin defaultServer (routeOf_post_login hmethod hpath) (by decide) hname
      hpassword, hnext, safeTarget_backslash hback]
    exact location_redirect_plainTarget (by decide) _ _ _ _

end DashboardHarness.Fixture

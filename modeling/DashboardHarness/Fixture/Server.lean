import DashboardHarness.Fixture.Catalog
import DashboardHarness.Fixture.Pages
import DashboardHarness.Store.Query
import DashboardHarness.Store.Open
import DashboardHarness.Text.Numeral
import DashboardHarness.Web.Form
import DashboardHarness.Web.Multipart
import DashboardHarness.Web.Http

/-!
# The imitation application

A small web application that stands in for the dashboard deployment: a login form, a cookie
session, a paged dashboard list, dashboard pages with map charts, and a JSON list of dashboards
for scripts on other origins.

Routes, by method and path:

- `GET /` and `GET /login/`: the login form, or the welcome page for a signed-in user;
- `POST /login/`: checks the form fields `username` (trimmed) and `password`, sets the session
  cookie and redirects to the `next` field when it is a path on this host, else to the welcome
  page; wrong credentials show the form again with status 401;
- `GET /logout/`: deletes the session cookie and redirects to the login form;
- `GET /superset/welcome/`, `GET /dashboard/list/` and `GET /superset/dashboard/<slug>/`: pages
  for signed-in users, and anyone else is sent to the login form with the page as `next`;
- `GET /api/v1/dashboard/`: the dashboard list as JSON, open to every origin, and 401 for anyone
  not signed in.

Requests are routed by the path of their target, also when the target is a whole URL. A path
that differs from a route only by a trailing slash is redirected to the route, with 301 for
`GET` and 307 otherwise, and every other request is not found. The redirect goes to the target
URL with that path, so a whole URL keeps its scheme, user and host; behind a proxy that announces
a prefix in `X-Forwarded-Prefix`, it goes to the path under that prefix. The `page`
query parameter, trimmed, must be a decimal number of at least one, and it is one when absent
or empty.

Paths and form fields are the bytes their escapes decode to: a byte sequence that is not UTF-8
names no dashboard and matches no credential, and a redirect target keeps it as it is.

A form comes from a body sent as `application/x-www-form-urlencoded` or as
`multipart/form-data` with a boundary.

Main definitions:

- `Server.new`: the application started: its options checked, the store opened and the
  dashboards seeded.
- `Server.handle`: what the application answers to a request.
- `safeTarget`: where a login goes next: the requested target when it is a path on this host,
  else the welcome page.
-/

namespace DashboardHarness.Fixture

open Web Dashboard

/-- The path of the welcome page. -/
def welcomePath : String := "/superset/welcome/"

/-- The path of the login form. -/
def loginPath : String := "/login/"

/-- The path of the JSON list of dashboards. -/
def dashboardApiPath : String := "/api/v1/dashboard/"

/-- The name of the session cookie. -/
def sessionName : String := "session"

/-- How long a session cookie lives, in seconds. -/
def sessionMaxAge : Int := 12 * 60 * 60

/-- The message of a failed login. -/
def loginFailedMessage : String := "Invalid login. Please try again."

/-- The settings of the application. -/
structure Options where
  username : String := "admin"
  password : String := "admin"
  sessionSecret : String := "fixture-session-secret"
  pageSize : Int := 5
  databaseDriver : String := Store.sqliteDriver
  databaseSource : String := "file:fixture?mode=memory&cache=shared&_foreign_keys=on"
  dashboards : List Board := catalog

/-- Checks the settings: credentials, a positive page size and a session secret. -/
def Options.validate (o : Options) : Except Failure Unit :=
  if Text.isBlankText o.username || o.password.isEmpty then .error (.kind .missingFixtureCredentials)
  else if o.pageSize < 1 then .error (.detail .invalidPageSize (toString o.pageSize))
  else if o.sessionSecret.isEmpty then .error (.kind .missingSessionSecret)
  else .ok ()

/-- A running application: its settings and its store. -/
structure Server where
  options : Options
  store : Store.Store

/-- Starts the application: checks the settings, opens the store and seeds the dashboards. -/
def Server.new (o : Options) : Except Failure Server := do
  o.validate
  Store.openStore o.databaseDriver o.databaseSource
  let store ← ({} : Store.Store).seed o.dashboards
  return ⟨o, store⟩

/-! ## Routing -/

/-- The pages and actions of the application. -/
inductive Route where
  | loginForm
  | submitLogin
  | logout
  | welcome
  | dashboardList
  | dashboard (slug : List Nat)
  | dashboardApi
  deriving DecidableEq, Repr

/-- The slug of a dashboard path `/superset/dashboard/<slug>/`; the slug holds no `/`. -/
def dashboardSlug (path : List Nat) : Option (List Nat) :=
  let prefixBytes := Text.textBytes "/superset/dashboard/"
  if prefixBytes.isPrefixOf path && prefixBytes.length < path.length &&
      path.getLast? = some slash then
    let middle := (path.drop prefixBytes.length).dropLast
    if middle.contains slash then none else some middle
  else none

/-- The route of a method and a decoded path. -/
def routeOf (method : String) (path : List Nat) : Option Route :=
  let isPath := fun (p : String) => path == Text.textBytes p
  if method = "GET" then
    if isPath "/" || isPath loginPath then some .loginForm
    else if isPath "/logout/" then some .logout
    else if isPath welcomePath then some .welcome
    else if isPath "/dashboard/list/" then some .dashboardList
    else if isPath dashboardApiPath then some .dashboardApi
    else (dashboardSlug path).map .dashboard
  else if method = "POST" && isPath loginPath then some .submitLogin
  else none

/-- Whether a path without a route has one once its trailing slash is taken away, or once one
is added where it has none. A slash is only added towards a dashboard with a slug. -/
def hasSlashTwin (method : String) (path : List Nat) : Bool :=
  if path = [slash] then false
  else if path.getLast? = some slash then (routeOf method path.dropLast).isSome
  else
    match routeOf method (path ++ [slash]) with
    | some (.dashboard []) => false
    | some _ => true
    | none => false

/-- Runs of `/` made one. -/
def collapseSlashes : List Nat → List Nat
  | [] => []
  | b :: rest =>
    if b = slash && rest.head? = some slash then collapseSlashes rest else b :: collapseSlashes rest

/-- Whether a byte may stay in a forwarded prefix: an ASCII letter, a digit, `/` or `-`. -/
def prefixByte (b : Nat) : Bool :=
  (48 ≤ b && b ≤ 57) || (65 ≤ b && b ≤ 90) || (97 ≤ b && b ≤ 122) || b = slash || b = 45

/-- The prefix that a proxy announces in `X-Forwarded-Prefix`: the header cleaned as a path,
with every byte but letters, digits, `/` and `-` taken out and runs of `/` made one; none when
the header cleans to `.`, as the empty header does. -/
def forwardedPrefix (header : String) : Option (List Nat) :=
  let cleaned := cleanPath (Text.textBytes header)
  if cleaned = [dot] then none else some (collapseSlashes (cleaned.filter prefixByte))

/-- The path a trailing-slash redirect goes to: the request path behind the forwarded prefix,
when there is one, with its trailing slash taken away, or with one added when it has none. -/
def slashRedirectPath (forwarded : Option (List Nat)) (path : List Nat) : List Nat :=
  let p := match forwarded with
    | some pre => pre ++ slash :: path
    | none => path
  if 1 < p.length && p.getLast? = some slash then p.dropLast else p ++ [slash]

/-! ## Requests -/

/-- The user of the session cookie, when it is one the application issued for a user. -/
def currentUser (cookies : List (String × CookieValue)) : Option String :=
  match cookies.find? (·.1 == sessionName) with
  | some (_, .issued (some user)) => if user.isEmpty then none else some user
  | _ => none

/-- The session cookie with a value and an age. -/
def sessionCookie (value : CookieValue) (maxAge : Int) : SetCookie :=
  ⟨sessionName, value, "/", maxAge, true, 2⟩

/-- The fields of a form body: a form type carries them, read from pairs or from parts. -/
def formFields (r : Request) : List Field :=
  let written := r.header "Content-Type"
  let media := MediaType.parse (if written.isEmpty then "application/octet-stream" else written)
  if media.essence = "application/x-www-form-urlencoded" then parseQuery r.body
  else
    match media with
    | .typed "multipart/form-data" _ =>
      match media.param? "boundary" with
      | some boundary => (multipartFields boundary (Text.textBytes r.body)).getD []
      | none => []
    | _ => []

/-- Where a login goes next: the requested target when it is a path on this host, else the
welcome page. A backslash counts as a slash to browsers, so it makes a target external. -/
def safeTarget (next : List Nat) : List Nat :=
  let text := Text.decodeUtf8 next
  if !text.startsWith "/" || text.toList.contains '\\' || text.startsWith "//" then
    Text.textBytes welcomePath
  else
    match Url.parse text with
    | .ok u =>
      if u.scheme.isEmpty && u.host.isEmpty && !u.hasUser then next else Text.textBytes welcomePath
    | .error _ => Text.textBytes welcomePath

/-- The page number of a query: one when absent or empty, none when it is not a positive
decimal number. -/
def requestedPage (query : List Field) : Option Int :=
  let raw := Text.trimBlank (Text.decodeUtf8 (firstValue query "page"))
  if raw.isEmpty then some 1
  else
    match Text.readDecimal raw with
    | .ok n => if n < 1 then none else some n
    | .error _ => none

/-- The JSON document of the features of a chart, or none when a coordinate is not finite. -/
def featuresDocument (features : List Feature) : Option String :=
  if features.all fun f => f.x.isFinite && f.y.isFinite && f.radius.isFinite then
    some (Json.Value.arr (features.map fun f =>
      .obj [("label", .str f.label), ("column", .str f.column), ("value", .str f.value),
        ("x", .float f.x), ("y", .float f.y), ("radius", .float f.radius)])).write
  else none

/-- An error document with a status. -/
def errorResponse (status : Nat) (code : String) : Response :=
  jsonResponse status (.obj [("error", .str code)])

/-- The headers that open the JSON list to other origins, for a request that names one. An
origin that is the request's own host, over either scheme, is no other origin. -/
def corsHeaders (r : Request) : List (String × String) :=
  let origin := Text.textBytes (r.header "Origin")
  if origin.isEmpty || origin = Text.textBytes "http://" ++ r.host ||
      origin = Text.textBytes "https://" ++ r.host then []
  else [("Access-Control-Allow-Origin", "*"), ("Access-Control-Expose-Headers", "Content-Type")]

/-! ## Handlers -/

/-- What the application answers to a request on a route, given the decoded path, the request
URI as sent and the query. -/
def Server.serve (srv : Server) (r : Request) (route : Route) (path : List Nat)
    (requestUri : String) (query : List Field) : Response :=
  let user := currentUser r.cookies
  let signedIn (k : String → Response) : Response :=
    match user with
    | some name => k name
    | none =>
      redirect r.method path (Text.textBytes (loginPath ++ "?next=" ++ queryEscape requestUri)) 302
  let pageOfList (k : Store.Listing → Response) : Response :=
    match requestedPage query with
    | none => errorResponse 400 "invalid_page"
    | some page =>
      match srv.store.list page srv.options.pageSize with
      | .error _ => errorResponse 500 "storage_failed"
      | .ok listing => k listing
  match route with
  | .loginForm =>
    match user with
    | some _ => redirect r.method path (Text.textBytes welcomePath) 302
    | none => htmlResponse 200 (loginPage (Text.decodeUtf8 (firstValue query "next")) "")
  | .submitLogin =>
    let form := formFields r
    let next := firstValue form "next"
    let name := (Text.wellFormed? (firstValue form "username")).map Text.trimBlank
    if name ≠ some srv.options.username ||
        firstValue form "password" ≠ Text.textBytes srv.options.password then
      htmlResponse 401 (loginPage (Text.decodeUtf8 next) loginFailedMessage)
    else
      redirect r.method path (safeTarget next) 302
        [sessionCookie (.issued (some srv.options.username)) sessionMaxAge]
  | .logout =>
    redirect r.method path (Text.textBytes loginPath) 302 [sessionCookie (.issued user) (-1)]
  | .welcome => signedIn fun name => htmlResponse 200 (welcomePage name)
  | .dashboardList =>
    signedIn fun _ => pageOfList fun l =>
      htmlResponse 200 (listPage ⟨l.boards, l.page, Store.wrap64 (l.page + 1), l.page - 1,
        Store.hasNext l.page l.pageSize l.total, Store.hasPrevious l.page⟩)
  | .dashboard slugBytes =>
    signedIn fun _ =>
      match Text.wellFormed? slugBytes with
      | none => errorResponse 404 "dashboard_not_found"
      | some slug =>
        match srv.store.find slug with
        | .error f =>
          if f.hasKind .dashboardNotStored then errorResponse 404 "dashboard_not_found"
          else errorResponse 500 "storage_failed"
        | .ok b =>
          let views := b.charts.map fun c =>
            (featuresDocument c.features).map fun doc => ChartView.mk c.elementId c.name c.isMap doc
          if views.all Option.isSome then htmlResponse 200 (dashboardPage b.title (views.filterMap id))
          else errorResponse 500 "render_failed"
  | .dashboardApi =>
    let answer : Response :=
      match user with
      | none => jsonResponse 401 (.obj [("message", .str "Not authorized")])
      | some _ => pageOfList fun l =>
        jsonResponse 200 (.obj [("count", .int l.total), ("page", .int l.page),
          ("result", .arr (l.boards.map fun b =>
            .obj [("id", .str b.id.shown), ("dashboard_title", .str b.title), ("slug", .str b.slug),
              ("url", .str ("/superset/dashboard/" ++ b.slug ++ "/")), ("position", .int b.position)]))])
    { answer with headers := corsHeaders r ++ answer.headers }

/-- What the application answers to a request. -/
def Server.handle (srv : Server) (r : Request) : Response :=
  let path := r.url.path
  match routeOf r.method path with
  | some route => srv.serve r route path r.url.requestUri (parseQuery r.url.rawQuery)
  | none =>
    if hasSlashTwin r.method path then
      let target := slashRedirectPath (forwardedPrefix (r.header "X-Forwarded-Prefix")) path
      redirect r.method target (Text.textBytes { r.url with path := target }.text)
        (if r.method = "GET" then 301 else 307)
    else notFound

end DashboardHarness.Fixture

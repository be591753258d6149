/-!
# The route table

The routes of the imitation application in the order they are registered, each with its method,
its path pattern, the name of the handler that answers it, and the number of handlers in its
chain: recovery and request logging for every route, the login check for the signed-in pages,
and the cross-origin headers and the login check for the JSON list.

When the web framework runs in debug mode, which it does unless `GIN_MODE` is `release` or
`test`, it warns about the mode when the application is built and lists every route as it is
registered, on the standard output. Each listing line pads the method to six characters and the
path to twenty-five.

Main definitions:

- `routeTable`: the routes in the order they are registered.
- `debugListing`: what building the application writes in debug mode, the warning and then the
  routes.
-/

namespace DashboardHarness.Fixture

/-- A registered route. -/
structure RouteEntry where
  /-- The method it answers. -/
  method : String
  /-- The path pattern, with `:slug` for a path segment. -/
  path : String
  /-- The name of the method of the server that answers it. -/
  handler : String
  /-- The number of handlers in its chain, its own included. -/
  handlers : Nat

/-- The routes in the order they are registered. -/
def routeTable : List RouteEntry :=
  [⟨"GET", "/", "renderLogin", 3⟩, ⟨"GET", "/login/", "renderLogin", 3⟩,
   ⟨"POST", "/login/", "submitLogin", 3⟩, ⟨"GET", "/logout/", "logout", 3⟩,
   ⟨"GET", "/superset/welcome/", "renderWelcome", 4⟩,
   ⟨"GET", "/dashboard/list/", "renderDashboardList", 4⟩,
   ⟨"GET", "/superset/dashboard/:slug/", "renderDashboard", 4⟩,
   ⟨"GET", "/api/v1/dashboard/", "listDashboardsJSON", 5⟩]

/-- The full name of a handler, as the framework shows a method value of the server. -/
def handlerName (method : String) : String :=
  "github.com/MarkoPoloResearchLab/dashprobe/internal/fixtureapp.(*Server)." ++ method ++ "-fm"

/-- A text padded on the right with spaces to a width. -/
def padTo (width : Nat) (s : String) : String :=
  String.ofList (s.toList.rightpad width ' ')

/-- The line that lists a route. -/
def RouteEntry.line (r : RouteEntry) : String :=
  "[GIN-debug] " ++ padTo 6 r.method ++ " " ++ padTo 25 r.path ++ " --> " ++
    handlerName r.handler ++ " (" ++ toString r.handlers ++ " handlers)\n"

/-- The warning about running in debug mode. -/
def debugWarning : String :=
  "[GIN-debug] [WARNING] Running in \"debug\" mode. Switch to \"release\" mode in production.\n" ++
  " - using env:\texport GIN_MODE=release\n" ++
  " - using code:\tgin.SetMode(gin.ReleaseMode)\n\n"

/-- What building the application writes in debug mode: the warning, then the routes. -/
def debugListing : String :=
  debugWarning ++ String.join (routeTable.map RouteEntry.line)

/-- Whether the web framework runs in debug mode for a value of `GIN_MODE`: when it is unset,
empty or `debug`. -/
def debugMode (mode : Option String) : Bool :=
  match mode with
  | none => true
  | some m => m.isEmpty || m = "debug"

end DashboardHarness.Fixture

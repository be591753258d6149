import DashboardHarness.Proofs.FoundDashboards
import DashboardHarness.Proofs.LoginRedirect

/-!
# The page of a dashboard

A signed-in browser asks for `/superset/dashboard/<slug>/`. The application answers 404 when no
stored dashboard has the slug, trimmed of white space; otherwise it renders the dashboard's
charts in the order in which the store gives them, each in a container addressed by its element
id and with the JSON document of its features, or answers 500 when a feature has a coordinate
that JSON cannot hold.

Main results:

- `routeOf_dashboard`: a path with one segment below `/superset/dashboard/` routes to that
  dashboard.
- `handle_dashboard_page`: the page answers 404 exactly when no dashboard has the slug, and
  otherwise renders the found charts.
-/

namespace DashboardHarness.Fixture

open Web Text Store Dashboard

/-! ## Routing -/

/-- A GET path longer than every fixed path of a page routes by its dashboard slug, if any. -/
theorem routeOf_get_long {path : List Nat} (hlong : 19 ≤ path.length) :
    routeOf "GET" path = (dashboardSlug path).map .dashboard := by
  have hne : ∀ p : String, (textBytes p).length < 19 → path ≠ textBytes p := by
    intro p hp heq
    rw [heq] at hlong
    omega
  have hroot := hne "/" (by decide)
  have hlogin := hne loginPath (by decide)
  have hlogout := hne "/logout/" (by decide)
  have hwelcome := hne welcomePath (by decide)
  have hlist := hne "/dashboard/list/" (by decide)
  have hapi := hne dashboardApiPath (by decide)
  simp [routeOf, hroot, hlogin, hlogout, hwelcome, hlist, hapi]

/-- The slug of a path with one segment below `/superset/dashboard/` is that segment. -/
theorem dashboardSlug_path {segment : List Nat} (hslash : slash ∉ segment) :
    dashboardSlug (textBytes "/superset/dashboard/" ++ segment ++ [slash]) = some segment := by
  unfold dashboardSlug
  simp [hslash]

/-- A path with one segment without a slash below `/superset/dashboard/` routes to the
dashboard of that slug. -/
theorem routeOf_dashboard {segment : List Nat} (hslash : slash ∉ segment) :
    routeOf "GET" (textBytes "/superset/dashboard/" ++ segment ++ [slash]) =
      some (.dashboard segment) := by
  have hlong : 19 ≤ (textBytes "/superset/dashboard/" ++ segment ++ [slash]).length := by
    have hprefix : (textBytes "/superset/dashboard/").length = 20 := by decide
    simp only [List.length_append, List.length_singleton, hprefix]
    omega
  rw [routeOf_get_long hlong, dashboardSlug_path hslash]
  rfl

/-! ## The page -/

/-- Whether the coordinates of a feature are finite, as JSON can hold them. -/
def featureFinite (f : Feature) : Bool := f.x.isFinite && f.y.isFinite && f.radius.isFinite

/-- The JSON document of the features of a chart: for each, its label, column and value, and its
coordinates as numbers. -/
def featuresJson (fs : List Feature) : Json.Value :=
  .arr (fs.map fun f =>
    .obj [("label", .str f.label), ("column", .str f.column), ("value", .str f.value),
      ("x", .float f.x), ("y", .float f.y), ("radius", .float f.radius)])

/-- What the page shows of a chart: its element id, its name, whether it draws a map, and the
text of the JSON document of its features. -/
def chartView (c : Chart) : ChartView :=
  ⟨c.elementId, c.name, c.isMap, (featuresJson c.features).write⟩

theorem featuresDocument_eq (fs : List Feature) :
    featuresDocument fs = if fs.all featureFinite then some (featuresJson fs).write else none := rfl

/-- The view of a chart, when JSON can hold its features. -/
theorem chartView_of_document (c : Chart) :
    (featuresDocument c.features).map (fun doc => ChartView.mk c.elementId c.name c.isMap doc) =
      if c.features.all featureFinite then some (chartView c) else none := by
  rw [featuresDocument_eq]
  split <;> rfl

/-- A signed-in browser's request for a dashboard: a slug that is not UTF-8 or that no dashboard
has is not found, and a found dashboard is rendered with the views of its charts, or refused
when JSON cannot hold one of their features. -/
theorem handle_dashboard (srv : Server) {r : Request} {segment : List Nat} {user : String}
    (hroute : routeOf r.method r.url.path = some (.dashboard segment))
    (huser : currentUser r.cookies = some user) :
    srv.handle r =
      match wellFormed? segment with
      | none => errorResponse 404 "dashboard_not_found"
      | some s =>
        match srv.store.find s with
        | .error _ => errorResponse 404 "dashboard_not_found"
        | .ok b =>
          if b.charts.all (fun c => c.features.all featureFinite) then
            htmlResponse 200 (dashboardPage b.title (b.charts.map chartView))
          else errorResponse 500 "render_failed" := by
  rw [handle_of_route srv hroute]
  simp only [Server.serve, huser]
  cases wellFormed? segment with
  | none => rfl
  | some s =>
    simp only
    cases hfind : srv.store.find s with
    | error f =>
      have hkind : f.hasKind .dashboardNotStored = true := by
        unfold Store.find at hfind
        split at hfind
        · cases hfind
          rfl
        · cases hfind
      simp [hkind]
    | ok b =>
      simp only [chartView_of_document]
      have hsome : (b.charts.map fun c =>
          if c.features.all featureFinite then some (chartView c) else none).all Option.isSome =
          b.charts.all (fun c => c.features.all featureFinite) := by
        rw [List.all_map]
        congr 1
        funext c
        cases hfinite : c.features.all featureFinite <;>
          simp only [Function.comp_apply, hfinite] <;> rfl
      rw [hsome]
      split
      · rename_i hall
        have hviews : (b.charts.map fun c =>
            if c.features.all featureFinite then some (chartView c) else none).filterMap id =
            b.charts.map chartView := by
          rw [List.filterMap_map, ← List.filterMap_eq_map]
          refine List.filterMap_congr fun c hc => ?_
          simp only [Function.comp_apply, id, if_pos (List.all_eq_true.mp hall c hc)]
        rw [hviews]
      · rfl

/-- The page of a dashboard for a signed-in browser answers 404 exactly when no stored dashboard
has the slug, read as UTF-8 and trimmed. A found dashboard is rendered with the views of its
charts in the order the store gives them, or refused with 500 when JSON cannot hold a feature. -/
theorem handle_dashboard_page (srv : Server) {r : Request} {segment : List Nat} {user : String}
    (hmethod : r.method = "GET")
    (hpath : r.url.path = textBytes "/superset/dashboard/" ++ segment ++ [slash])
    (hslash : slash ∉ segment) (huser : currentUser r.cookies = some user) :
    ((srv.handle r).status = 404 ↔
      ∀ s, wellFormed? segment = some s → ∀ b ∈ srv.store.boards, b.slug ≠ trimBlank s) ∧
    ∀ s b, wellFormed? segment = some s → srv.store.find s = .ok b →
      srv.handle r =
        if b.charts.all (fun c => c.features.all featureFinite) then
          htmlResponse 200 (dashboardPage b.title (b.charts.map chartView))
        else errorResponse 500 "render_failed" := by
  have hroute : routeOf r.method r.url.path = some (.dashboard segment) := by
    rw [hmethod, hpath]
    exact routeOf_dashboard hslash
  rw [handle_dashboard srv hroute huser]
  refine ⟨?_, fun s b hs hfind => by simp only [hs, hfind]⟩
  cases hs : wellFormed? segment with
  | none => simp [errorResponse, jsonResponse]
  | some s =>
    simp only [Option.some.injEq, forall_eq']
    cases hfind : srv.store.find s with
    | error f =>
      have hmissing : ¬ ∃ b, srv.store.find s = .ok b := by
        rintro ⟨b, hb⟩
        rw [hfind] at hb
        cases hb
      rw [find_isOk_iff] at hmissing
      simp only [errorResponse, jsonResponse, true_iff]
      intro b hb hslug
      exact hmissing ⟨b, hb, hslug⟩
    | ok b =>
      have hfound := (find_isOk_iff srv.store s).mp ⟨b, hfind⟩
      obtain ⟨b', hb', hslug⟩ := hfound
      simp only
      constructor
      · intro h404
        split at h404 <;> simp [htmlResponse, errorResponse, jsonResponse] at h404
      · intro hnone
        exact absurd hslug (hnone b' hb')

/-! ## A seeded dashboard and its page -/

/-- A dashboard seeded with no slug is found under the slug of its title, trimmed: with its
title, its position and the id it gave, its charts ordered by position (ties in the order
seeded, and the order seeded when none names a position), each chart stored with its id, the
dashboard's id, its kind (`table` by default), its position and its own features, each with
the chart's id; this when the chart and feature ids it gives are its own. A slug that no
dashboard has is not found. The dashboard page of a signed-in browser answers 404 exactly when
no dashboard has the slug, and otherwise renders the found charts in order, or answers 500 when
JSON cannot hold a feature. -/
theorem seeded_dashboard_found {st st' : Store} {before after : List Board} {d : Board}
    (hreach : Reached st) (hwritten : ∀ b ∈ before ++ d :: after, b.Written)
    (hseed : st.seed (before ++ d :: after) = .ok st') (hslug : d.slug = "")
    (hown : OwnsIds d st (before ++ after)) :
    (∃ found inSeedOrder,
      (∀ q, trimBlank q = slugOfTitle d.title → st'.find q = .ok found) ∧
      found.title = d.title ∧ found.slug = slugOfTitle d.title ∧
      found.position =
        (if d.position = 0 then (st.boards.length : Int) + before.length + 1 else d.position) ∧
      (d.id.isMissing = false → found.id = d.id) ∧
      List.Forall₂ (fun (sp : Chart × Int) c => ChartStored found.id sp.2 sp.1 c)
        (d.charts.zip (places 1 d.charts.length)) inSeedOrder ∧
      found.charts.Perm inSeedOrder ∧
      found.charts.Pairwise (fun a b => a.position ≤ b.position) ∧
      (∀ n, found.charts.filter (fun c => c.position == n) =
        inSeedOrder.filter (fun c => c.position == n)) ∧
      ((∀ c ∈ d.charts, c.position = 0) → found.charts = inSeedOrder)) ∧
    (∀ q, (∀ b ∈ st'.boards, b.slug ≠ trimBlank q) →
      st'.find q = .error (.detail .dashboardNotStored q)) ∧
    ∀ (srv : Server) (r : Request) (segment : List Nat) (user : String), r.method = "GET" →
      r.url.path = textBytes "/superset/dashboard/" ++ segment ++ [slash] → slash ∉ segment →
      currentUser r.cookies = some user →
      ((srv.handle r).status = 404 ↔
        ∀ s, wellFormed? segment = some s → ∀ b ∈ srv.store.boards, b.slug ≠ trimBlank s) ∧
      ∀ s b, wellFormed? segment = some s → srv.store.find s = .ok b →
        srv.handle r =
          if b.charts.all (fun c => c.features.all featureFinite) then
            htmlResponse 200 (dashboardPage b.title (b.charts.map chartView))
          else errorResponse 500 "render_failed" := by
  obtain ⟨fresh, hfind⟩ := find_after_seed hreach hwritten hseed hown
  have hdw : d.Written := hwritten d (by simp)
  set place : Int := st.boards.length + 1 + before.length
  set p := (prepareBoard place fresh d).1 with hp
  have hpslug : p.slug = slugOfTitle d.title := by
    simp [hp, seedSlug, hslug]
  obtain ⟨-, hstored, -, -⟩ := prepareCharts_spec (fillId d.id fresh).1 1 (fillId d.id fresh).2
    d.charts hdw.2
  rw [← prepareBoard_charts place, ← prepareBoard_id_fill place] at hstored
  have hposition : p.position =
      (if d.position = 0 then (st.boards.length : Int) + before.length + 1 else d.position) := by
    show (if d.position = 0 then place else d.position) = _
    split <;> omega
  refine ⟨⟨{ p with charts := byPosition Chart.position p.charts }, p.charts,
      fun q hq => hfind q (hq.trans hpslug.symm), prepareBoard_title place fresh d, hpslug,
      hposition, prepareBoard_id place fresh d, hstored, byPosition_perm _ _,
      byPosition_sorted _ _, filter_byPosition _ _, fun hpos => byPosition_of_lt _ ?_⟩,
    fun q hq => find_missing st' q hq,
    fun srv r segment user hmethod hpath hslash huser =>
      handle_dashboard_page srv hmethod hpath hslash huser⟩
  rw [positions_of_stored hpos hstored]
  exact places_pairwise_lt 1 _

/-- A dashboard with one map chart of one feature, as a seed names it. -/
def salesSeed : Board where
  title := "Sales"
  charts := [{
    id := .text "sales-map", elementId := 7, name := "Stores", kind := "map",
    features := [{ id := .text "oslo", label := "Oslo", x := 0.5, y := 0.25, radius := 3 }] }]

/-- Seeded into the empty store, the sales dashboard is found under its slug with blanks around
it, with its title, at the first place. -/
theorem sales_dashboard_found :
    ∃ found, (({} : Store).afterSeed [salesSeed]).find " sales " = .ok found ∧
      found.title = "Sales" ∧ found.slug = "sales" ∧ found.position = 1 := by
  have hok : (({} : Store).seed [salesSeed]).toOption.isSome = true := by
    decide +kernel
  obtain ⟨stored, hseed⟩ : ∃ stored, ({} : Store).seed ([] ++ salesSeed :: []) = .ok stored := by
    cases h : ({} : Store).seed [salesSeed] with
    | error e =>
      rw [h] at hok
      cases hok
    | ok stored => exact ⟨stored, h⟩
  have hwritten : ∀ b ∈ [] ++ salesSeed :: [], b.Written := by
    simp [salesSeed, Board.Written]
  have hown : OwnsIds salesSeed {} ([] ++ []) :=
    ⟨by simp [salesSeed], by simp [salesSeed], by simp, by simp, by simp, by simp⟩
  obtain ⟨⟨found, -, hfind, htitle, hslug, hposition, -⟩, -, -⟩ :=
    seeded_dashboard_found Reached.empty hwritten hseed rfl hown
  have hsales : slugOfTitle salesSeed.title = "sales" := by
    decide +kernel
  have htrim : trimBlank " sales " = "sales" := by
    decide +kernel
  have hseedSales : ({} : Store).seed [salesSeed] = .ok stored := hseed
  rw [afterSeed_of_ok hseedSales]
  refine ⟨found, hfind " sales " (by rw [htrim, hsales]), htitle, hslug.trans hsales, ?_⟩
  rw [hposition]
  rfl

/-- Two charts of one seed that give the same id. -/
def twinChartSeeds : List Board :=
  [{ title := "a", charts := [{ id := .text "c1", elementId := 1, name := "one" },
      { id := .text "c1", elementId := 2, name := "two" }] }]

/-- Two charts of one dashboard that give the same id: the seed succeeds, but only the first
chart is stored, so the dashboard is found with one chart instead of two. -/
theorem shared_chart_id_drops_chart :
    (({} : Store).seed twinChartSeeds).toOption.isSome = true ∧
      ((({} : Store).afterSeed twinChartSeeds).find "a").toOption.map
        (fun b => b.charts.map (·.elementId)) = some [1] := by
  constructor <;> decide +kernel

end DashboardHarness.Fixture

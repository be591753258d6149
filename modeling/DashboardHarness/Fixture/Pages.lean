import DashboardHarness.Dashboard.Basic
import DashboardHarness.Html.Escape

/-!
# The pages of the imitation application

The four HTML pages that the imitation application serves: the login form, the welcome page,
a page of the dashboard list and a dashboard with its charts. Every value placed into a page is
escaped for where it stands: titles and names in text and attributes are escaped as HTML, a
slug in a link path is percent-encoded first, and a page number in a link query is escaped as a
query value. The features of a chart travel to the page script as a JSON document inside an
attribute.

Main definitions:

- `loginPage`, `welcomePage`, `listPage`, `dashboardPage`: the HTML pages of the imitation
  application.
-/

namespace DashboardHarness.Fixture

open Html

/-- What a page of the dashboard list shows. -/
structure ListView where
  boards : List Dashboard.Board
  page : Int
  nextPage : Int
  previousPage : Int
  hasNext : Bool
  hasPrevious : Bool

/-- What a chart of a dashboard page shows: the features are the JSON document of its points. -/
structure ChartView where
  elementId : Int
  name : String
  isMap : Bool
  features : String

/-- The login form, carrying the target to go to after signing in and an error message when
the last attempt failed. -/
def loginPage (next errorMessage : String) : String :=
  String.join [
    "<!DOCTYPE html>\n",
    "<html lang=\"en\">\n",
    "<head>\n",
    "  <meta charset=\"utf-8\">\n",
    "  <title>Superset</title>\n",
    "  <style>\n",
    "    body \x7b font-family: sans-serif; margin: 0; background: #f7f7f7; \x7d\n",
    "    .login \x7b width: 320px; margin: 80px auto; padding: 24px; background: #fff; border: 1px solid #ddd; \x7d\n",
    "    .login label \x7b display: block; margin-top: 12px; \x7d\n",
    "    .login input[type=\"text\"], .login input[type=\"password\"] \x7b width: 100%; box-sizing: border-box; padding: 6px; \x7d\n",
    "    .btn-block \x7b display: block; width: 100%; margin-top: 16px; padding: 8px; \x7d\n",
    "    .alert-danger \x7b color: #a33; \x7d\n",
    "  </style>\n",
    "</head>\n",
    "<body>\n",
    "  <form class=\"login\" method=\"post\" action=\"/login/\">\n",
    "    <h4>Sign In</h4>\n",
    "    ",
    if errorMessage.isEmpty then ""
    else String.join ["<div class=\"alert alert-danger\" role=\"alert\">", escapeHtml errorMessage, "</div>"],
    "\n",
    "    <input type=\"hidden\" name=\"next\" value=\"",
    escapeHtml next,
    "\">\n",
    "    <label for=\"username\">Username</label>\n",
    "    <input type=\"text\" id=\"username\" name=\"username\" autocomplete=\"username\">\n",
    "    <label for=\"password\">Password</label>\n",
    "    <input type=\"password\" id=\"password\" name=\"password\" autocomplete=\"current-password\">\n",
    "    <input type=\"submit\" class=\"btn btn-primary btn-block\" value=\"Sign In\">\n",
    "  </form>\n",
    "</body>\n",
    "</html>\n"]

/-- The landing page after signing in, greeting the user. -/
def welcomePage (username : String) : String :=
  String.join [
    "<!DOCTYPE html>\n",
    "<html lang=\"en\">\n",
    "<head>\n",
    "  <meta charset=\"utf-8\">\n",
    "  <title>Superset</title>\n",
    "</head>\n",
    "<body>\n",
    "  <nav><a href=\"/dashboard/list/\">Dashboards</a> <a href=\"/logout/\">Logout</a></nav>\n",
    "  <h1>Welcome, ",
    escapeHtml username,
    "</h1>\n",
    "</body>\n",
    "</html>\n"]

/-- One row of the dashboard list: a link to the dashboard, named by its title. -/
def listRow (b : Dashboard.Board) : String :=
  String.join ["<tr><td><a href=\"/superset/dashboard/", escapeHtml (normalizeUrl b.slug), "/\">", escapeHtml b.title,
    "</a></td></tr>\n",
    "      "]

/-- One page of the dashboard list with the links to its neighbours. -/
def listPage (v : ListView) : String :=
  String.join [
    "<!DOCTYPE html>\n",
    "<html lang=\"en\">\n",
    "<head>\n",
    "  <meta charset=\"utf-8\">\n",
    "  <title>Superset</title>\n",
    "  <style>\n",
    "    body \x7b font-family: sans-serif; margin: 24px; \x7d\n",
    "    .header \x7b font-size: 20px; font-weight: bold; margin-bottom: 12px; \x7d\n",
    "    ul.ant-pagination \x7b list-style: none; padding: 0; display: flex; gap: 8px; \x7d\n",
    "    ul.ant-pagination li \x7b min-width: 32px; height: 32px; border: 1px solid #ccc; text-align: center; \x7d\n",
    "    ul.ant-pagination li a, ul.ant-pagination li span \x7b display: block; line-height: 32px; \x7d\n",
    "    ul.ant-pagination li.ant-pagination-disabled \x7b color: #bbb; \x7d\n",
    "  </style>\n",
    "</head>\n",
    "<body>\n",
    "  <div class=\"header\">Dashboards</div>\n",
    "  <table role=\"table\">\n",
    "    <thead><tr><th>Name</th></tr></thead>\n",
    "    <tbody>\n",
    "      ",
    String.join (v.boards.map listRow),
    "\n",
    "    </tbody>\n",
    "  </table>\n",
    "  <ul role=\"navigation\" class=\"ant-pagination\">\n",
    "    <li class=\"ant-pagination-prev",
    if v.hasPrevious then "" else " ant-pagination-disabled",
    "\" title=\"Previous Page\">",
    if v.hasPrevious then
      String.join ["<a href=\"/dashboard/list/?page=", escapeHtml (escapeUrl (toString v.previousPage)), "\">«</a>"]
    else "<span>«</span>",
    "</li>\n",
    "    <li class=\"ant-pagination-item ant-pagination-item-active\">",
    escapeHtml (toString v.page),
    "</li>\n",
    "    <li class=\"ant-pagination-next",
    if v.hasNext then "" else " ant-pagination-disabled",
    "\" title=\"Next Page\">",
    if v.hasNext then
      String.join ["<a href=\"/dashboard/list/?page=", escapeHtml (escapeUrl (toString v.nextPage)), "\">»</a>"]
    else "<span>»</span>",
    "</li>\n",
    "  </ul>\n",
    "</body>\n",
    "</html>\n"]

/-- The page head and the start of the dashboard header, up to the title. -/
def dashboardHead : String :=
  String.join [
    "<!DOCTYPE html>\n",
    "<html lang=\"en\">\n",
    "<head>\n",
    "  <meta charset=\"utf-8\">\n",
    "  <title>Superset</title>\n",
    "  <style>\n",
    "    body \x7b font-family: sans-serif; margin: 0; \x7d\n",
    "    header \x7b display: flex; align-items: center; gap: 16px; padding: 12px 24px; border-bottom: 1px solid #ddd; \x7d\n",
    "    .banner \x7b margin-left: auto; font-size: 12px; color: #666; \x7d\n",
    "    .layout \x7b display: flex; \x7d\n",
    "    .filter-column \x7b width: 220px; padding: 12px; border-right: 1px solid #eee; \x7d\n",
    "    .filter-toggle, .filter-expand, .chart-menu-toggle, .anticon-close \x7b cursor: pointer; \x7d\n",
    "    .filter-bar[hidden], .chart-menu[hidden], .context-menu[hidden], .antd5-modal-root[hidden] \x7b display: none; \x7d\n",
    "    .filter-bar.expanded .filter-empty \x7b display: none; \x7d\n",
    "    .cross-filter \x7b display: flex; gap: 6px; margin-top: 6px; \x7d\n",
    "    .charts \x7b display: flex; flex-wrap: wrap; gap: 16px; padding: 16px; \x7d\n",
    "    .chart \x7b border: 1px solid #ddd; padding: 8px; position: relative; \x7d\n",
    "    .chart-header \x7b display: flex; gap: 8px; align-items: center; \x7d\n",
    "    .chart-menu \x7b position: fixed; background: #fff; border: 1px solid #ccc; z-index: 5; \x7d\n",
    "    .chart-menu button \x7b display: block; width: 100%; \x7d\n",
    "    .ol-viewport \x7b position: relative; width: 400px; height: 300px; \x7d\n",
    "    .ol-layer canvas \x7b display: block; width: 400px; height: 300px; \x7d\n",
    "    .ol-zoom \x7b position: absolute; left: 8px; top: 8px; \x7d\n",
    "    .ol-zoom button \x7b display: block; width: 24px; height: 24px; \x7d\n",
    "    #infoTooltip \x7b position: fixed; display: none; pointer-events: none; background: #333; color: #fff; padding: 4px 8px; font-size: 12px; z-index: 10; \x7d\n",
    "    .context-menu \x7b position: fixed; background: #fff; border: 1px solid #ccc; padding: 4px 0; z-index: 20; \x7d\n",
    "    .context-menu [role=\"menuitem\"] \x7b padding: 4px 12px; cursor: pointer; \x7d\n",
    "    .antd5-modal-root \x7b position: fixed; inset: 0; background: rgba(0, 0, 0, 0.3); z-index: 30; \x7d\n",
    "    .antd5-modal-root .modal \x7b width: 520px; margin: 80px auto; background: #fff; padding: 16px; position: relative; \x7d\n",
    "    .antd5-modal-root .modal-close \x7b position: absolute; right: 8px; top: 8px; \x7d\n",
    "  </style>\n",
    "</head>\n",
    "<body>\n",
    "  <header>\n",
    "    <span aria-label=\"Dashboard title\">"]

/-- The rest of the header and the filter column, up to the charts. -/
def dashboardFilters : String :=
  String.join [
    "</span>\n",
    "    <div class=\"banner\">Fixture data <button type=\"button\" aria-label=\"Close\" class=\"banner-close\">×</button></div>\n",
    "  </header>\n",
    "  <div class=\"layout\">\n",
    "    <div class=\"filter-column\">\n",
    "      <span aria-label=\"filter\" role=\"button\" class=\"filter-toggle\">Filters</span>\n",
    "      <aside class=\"filter-bar\" hidden>\n",
    "        <span aria-label=\"expand\" role=\"button\" class=\"filter-expand\">Expand</span>\n",
    "        <div class=\"filter-empty\"><p class=\"ant-empty-description\">No filters are currently added to this dashboard.</p></div>\n",
    "        <div class=\"ant-collapse-content cross-filters\"></div>\n",
    "      </aside>\n",
    "    </div>\n",
    "    <main class=\"charts\">\n",
    "      "]

/-- The canvas and zoom controls of a map chart. -/
def mapBody : String :=
  String.join [
    "\n",
    "          <div class=\"ol-viewport\">\n",
    "            <div class=\"ol-layer\"><canvas width=\"400\" height=\"300\"></canvas></div>\n",
    "            <div class=\"ol-zoom\">\n",
    "              <button type=\"button\" class=\"ol-zoom-in\" title=\"Zoom in\">+</button>\n",
    "              <button type=\"button\" class=\"ol-zoom-out\" title=\"Zoom out\">−</button>\n",
    "            </div>\n",
    "          </div>\n",
    "          "]

/-- The result table of a table chart. -/
def tableBody : String :=
  String.join [
    "\n",
    "          <table class=\"chart-table\"><tbody></tbody></table>\n",
    "          "]

/-- One chart: its header with name and menu, and its body in the container addressed by its
element id. -/
def chartBlock (c : ChartView) : String :=
  String.join [
    "\n",
    "      <div class=\"chart\" data-test-chart-name=\"",
    escapeHtml c.name,
    "\" data-chart-id=\"",
    escapeHtml (toString c.elementId),
    "\" data-features=\"",
    escapeHtml c.features,
    "\">\n",
    "        <div class=\"chart-header\">\n",
    "          <span class=\"chart-title\">",
    escapeHtml c.name,
    "</span>\n",
    "          <div class=\"applied-filters\"></div>\n",
    "          <span aria-label=\"More Options\" role=\"button\" class=\"chart-menu-toggle\">⋮</span>\n",
    "        </div>\n",
    "        <div id=\"chart-id-",
    escapeHtml (toString c.elementId),
    "\" class=\"chart-body\">\n",
    "          ",
    if c.isMap then mapBody else tableBody,
    "\n",
    "        </div>\n",
    "      </div>\n",
    "      "]

/-- The tooltip, menus, modal and script of the dashboard page, after the charts. -/
def dashboardTail : String :=
  String.join [
    "\n",
    "    </main>\n",
    "  </div>\n",
    "  <div id=\"infoTooltip\"></div>\n",
    "  <div class=\"chart-menu\" hidden>\n",
    "    <button type=\"button\" data-action=\"table\">View as table</button>\n",
    "    <button type=\"button\" data-action=\"query\">View query</button>\n",
    "  </div>\n",
    "  <div class=\"context-menu\" role=\"menu\" hidden><div role=\"menuitem\" class=\"remove-cross-filter\">Remove cross-filter</div></div>\n",
    "  <div class=\"antd5-modal-root\" hidden>\n",
    "    <div class=\"modal\">\n",
    "      <button type=\"button\" aria-label=\"Close\" class=\"modal-close\">×</button>\n",
    "      <div class=\"modal-body\"></div>\n",
    "    </div>\n",
    "  </div>\n",
    "  <script>\n",
    "  (function () \x7b\n",
    "    const zoomFactor = 1.25;\n",
    "    const maximumZoom = 8;\n",
    "    const crossFilters = new Map();\n",
    "    const charts = Array.from(document.querySelectorAll(\".chart\")).map(function (element) \x7b\n",
    "      return \x7b\n",
    "        id: element.dataset.chartId,\n",
    "        name: element.dataset.testChartName,\n",
    "        element: element,\n",
    "        features: JSON.parse(element.dataset.features || \"[]\"),\n",
    "        zoom: 1,\n",
    "        canvas: element.querySelector(\".ol-layer canvas\"),\n",
    "      \x7d;\n",
    "    \x7d);\n",
    "    const tooltip = document.getElementById(\"infoTooltip\");\n",
    "    const contextMenu = document.querySelector(\".context-menu\");\n",
    "    const modalRoot = document.querySelector(\".antd5-modal-root\");\n",
    "    const modalBody = modalRoot.querySelector(\".modal-body\");\n",
    "    const filterBar = document.querySelector(\".filter-bar\");\n",
    "    const crossFilterList = document.querySelector(\".cross-filters\");\n",
    "    const chartMenu = document.querySelector(\".chart-menu\");\n",
    "    let contextChart = null;\n",
    "    let menuChart = null;\n",
    "\n",
    "    function filtersFor(chart) \x7b\n",
    "      const applied = [];\n",
    "      crossFilters.forEach(function (filter, sourceId) \x7b\n",
    "        if (sourceId !== chart.id) \x7b\n",
    "          applied.push(filter);\n",
    "        \x7d\n",
    "      \x7d);\n",
    "      return applied;\n",
    "    \x7d\n",
    "\n",
    "    function visibleFeatures(chart) \x7b\n",
    "      return chart.features.filter(function (feature) \x7b\n",
    "        return filtersFor(chart).every(function (filter) \x7b\n",
    "          return feature.column !== filter.column || feature.value === filter.value;\n",
    "        \x7d);\n",
    "      \x7d);\n",
    "    \x7d\n",
    "\n",
    "    function project(chart, feature) \x7b\n",
    "      const width = chart.canvas.width;\n",
    "      const height = chart.canvas.height;\n",
    "      return \x7b\n",
    "        x: width / 2 + (feature.x * width - width / 2) * chart.zoom,\n",
    "        y: height / 2 + (feature.y * height - height / 2) * chart.zoom,\n",
    "        radius: feature.radius * chart.zoom,\n",
    "      \x7d;\n",
    "    \x7d\n",
    "\n",
    "    function draw(chart) \x7b\n",
    "      if (!chart.canvas) \x7b\n",
    "        const body = chart.element.querySelector(\".chart-table tbody\");\n",
    "        body.innerHTML = \"\";\n",
    "        visibleFeatures(chart).forEach(function (feature) \x7b\n",
    "          const row = body.insertRow();\n",
    "          row.insertCell().textContent = feature.label;\n",
    "          row.insertCell().textContent = feature.value;\n",
    "        \x7d);\n",
    "        return;\n",
    "      \x7d\n",
    "      const context = chart.canvas.getContext(\"2d\");\n",
    "      context.fillStyle = \"#e8eef2\";\n",
    "      context.fillRect(0, 0, chart.canvas.width, chart.canvas.height);\n",
    "      visibleFeatures(chart).forEach(function (feature) \x7b\n",
    "        const point = project(chart, feature);\n",
    "        context.beginPath();\n",
    "        context.arc(point.x, point.y, point.radius, 0, 2 * Math.PI);\n",
    "        context.fillStyle = \"#1f77b4\";\n",
    "        context.fill();\n",
    "      \x7d);\n",
    "    \x7d\n",
    "\n",
    "    function hit(chart, event) \x7b\n",
    "      const bounds = chart.canvas.getBoundingClientRect();\n",
    "      const offsetX = event.clientX - bounds.left;\n",
    "      const offsetY = event.clientY - bounds.top;\n",
    "      return visibleFeatures(chart).find(function (feature) \x7b\n",
    "        const point = project(chart, feature);\n",
    "        return Math.hypot(point.x - offsetX, point.y - offsetY) <= point.radius;\n",
    "      \x7d);\n",
    "    \x7d\n",
    "\n",
    "    function renderFilters() \x7b\n",
    "      crossFilterList.innerHTML = \"\";\n",
    "      crossFilters.forEach(function (filter, sourceId) \x7b\n",
    "        const entry = document.createElement(\"div\");\n",
    "        entry.className = \"cross-filter\";\n",
    "        const badge = document.createElement(\"span\");\n",
    "        badge.className = \"css-19ez2t\";\n",
    "        badge.textContent = filter.column;\n",
    "        const value = document.createElement(\"span\");\n",
    "        value.textContent = filter.value;\n",
    "        const close = document.createElement(\"span\");\n",
    "        close.className = \"anticon anticon-close\";\n",
    "        close.setAttribute(\"role\", \"button\");\n",
    "        close.textContent = \"×\";\n",
    "        close.addEventListener(\"click\", function () \x7b\n",
    "          crossFilters.delete(sourceId);\n",
    "          refresh();\n",
    "        \x7d);\n",
    "        entry.append(badge, value, close);\n",
    "        crossFilterList.append(entry);\n",
    "      \x7d);\n",
    "      charts.forEach(function (chart) \x7b\n",
    "        const indicator = chart.element.querySelector(\".applied-filters\");\n",
    "        const applied = filtersFor(chart).length;\n",
    "        indicator.innerHTML = \"\";\n",
    "        if (applied > 0) \x7b\n",
    "          const label = document.createElement(\"div\");\n",
    "          label.setAttribute(\"aria-label\", \"Applied filters (\" + applied + \")\");\n",
    "          label.textContent = String(applied);\n",
    "          indicator.append(label);\n",
    "        \x7d\n",
    "      \x7d);\n",
    "    \x7d\n",
    "\n",
    "    function refresh() \x7b\n",
    "      charts.forEach(draw);\n",
    "      renderFilters();\n",
    "    \x7d\n",
    "\n",
    "    function openModal(lines) \x7b\n",
    "      modalBody.innerHTML = \"\";\n",
    "      lines.forEach(function (line) \x7b\n",
    "        modalBody.append(line);\n",
    "      \x7d);\n",
    "      modalRoot.hidden = false;\n",
    "    \x7d\n",
    "\n",
    "    function showTable(chart) \x7b\n",
    "      const table = document.createElement(\"table\");\n",
    "      table.className = \"table-condensed\";\n",
    "      const body = table.createTBody();\n",
    "      visibleFeatures(chart).forEach(function (feature) \x7b\n",
    "        const row = body.insertRow();\n",
    "        row.insertCell().textContent = feature.label;\n",
    "        row.insertCell().textContent = feature.value;\n",
    "      \x7d);\n",
    "      openModal([table]);\n",
    "    \x7d\n",
    "\n",
    "    function showQuery(chart) \x7b\n",
    "      const selectLine = document.createElement(\"pre\");\n",
    "      selectLine.textContent = \"SELECT label, value FROM chart_\" + chart.id;\n",
    "      const lines = [selectLine];\n",
    "      const applied = filtersFor(chart);\n",
    "      if (applied.length > 0) \x7b\n",
    "        const whereLine = document.createElement(\"pre\");\n",
    "        whereLine.textContent = \"WHERE \" + applied.map(function (filter) \x7b\n",
    "          return filter.column + \" = \x27\" + filter.value + \"\x27\";\n",
    "        \x7d).join(\" AND \");\n",
    "        lines.push(whereLine);\n",
    "      \x7d\n",
    "      openModal(lines);\n",
    "    \x7d\n",
    "\n",
    "    chartMenu.addEventListener(\"click\", function (event) \x7b\n",
    "      const action = event.target.dataset.action;\n",
    "      const chart = menuChart;\n",
    "      chartMenu.hidden = true;\n",
    "      menuChart = null;\n",
    "      if (!chart) \x7b\n",
    "        return;\n",
    "      \x7d\n",
    "      if (action === \"table\") \x7b\n",
    "        showTable(chart);\n",
    "      \x7d else if (action === \"query\") \x7b\n",
    "        showQuery(chart);\n",
    "      \x7d\n",
    "    \x7d);\n",
    "\n",
    "    charts.forEach(function (chart) \x7b\n",
    "      chart.element.querySelector(\".chart-menu-toggle\").addEventListener(\"click\", function (event) \x7b\n",
    "        if (menuChart === chart && !chartMenu.hidden) \x7b\n",
    "          chartMenu.hidden = true;\n",
    "          menuChart = null;\n",
    "          return;\n",
    "        \x7d\n",
    "        const bounds = event.currentTarget.getBoundingClientRect();\n",
    "        menuChart = chart;\n",
    "        chartMenu.style.left = bounds.left + \"px\";\n",
    "        chartMenu.style.top = bounds.bottom + \"px\";\n",
    "        chartMenu.hidden = false;\n",
    "      \x7d);\n",
    "      if (!chart.canvas) \x7b\n",
    "        return;\n",
    "      \x7d\n",
    "      chart.element.querySelector(\".ol-zoom-in\").addEventListener(\"click\", function () \x7b\n",
    "        chart.zoom = Math.min(chart.zoom * zoomFactor, maximumZoom);\n",
    "        draw(chart);\n",
    "      \x7d);\n",
    "      chart.element.querySelector(\".ol-zoom-out\").addEventListener(\"click\", function () \x7b\n",
    "        chart.zoom = Math.max(chart.zoom / zoomFactor, 1);\n",
    "        draw(chart);\n",
    "      \x7d);\n",
    "      chart.canvas.addEventListener(\"mousemove\", function (event) \x7b\n",
    "        const feature = hit(chart, event);\n",
    "        if (!feature) \x7b\n",
    "          tooltip.style.display = \"none\";\n",
    "          return;\n",
    "        \x7d\n",
    "        tooltip.textContent = feature.label;\n",
    "        tooltip.style.left = event.clientX + 14 + \"px\";\n",
    "        tooltip.style.top = event.clientY + 14 + \"px\";\n",
    "        tooltip.style.display = \"block\";\n",
    "      \x7d);\n",
    "      chart.canvas.addEventListener(\"mouseleave\", function () \x7b\n",
    "        tooltip.style.display = \"none\";\n",
    "      \x7d);\n",
    "      chart.canvas.addEventListener(\"click\", function (event) \x7b\n",
    "        const feature = hit(chart, event);\n",
    "        if (feature) \x7b\n",
    "          crossFilters.set(chart.id, \x7b column: feature.column, value: feature.value \x7d);\n",
    "          refresh();\n",
    "        \x7d\n",
    "      \x7d);\n",
    "      chart.canvas.addEventListener(\"contextmenu\", function (event) \x7b\n",
    "        event.preventDefault();\n",
    "        contextChart = chart;\n",
    "        contextMenu.style.left = event.clientX + \"px\";\n",
    "        contextMenu.style.top = event.clientY + \"px\";\n",
    "        contextMenu.hidden = false;\n",
    "      \x7d);\n",
    "    \x7d);\n",
    "\n",
    "    contextMenu.querySelector(\".remove-cross-filter\").addEventListener(\"click\", function () \x7b\n",
    "      if (contextChart) \x7b\n",
    "        crossFilters.delete(contextChart.id);\n",
    "      \x7d\n",
    "      contextChart = null;\n",
    "      contextMenu.hidden = true;\n",
    "      refresh();\n",
    "    \x7d);\n",
    "    modalRoot.querySelector(\".modal-close\").addEventListener(\"click\", function () \x7b\n",
    "      modalRoot.hidden = true;\n",
    "    \x7d);\n",
    "    document.querySelector(\".banner-close\").addEventListener(\"click\", function (event) \x7b\n",
    "      event.target.closest(\".banner\").style.visibility = \"hidden\";\n",
    "    \x7d);\n",
    "    document.querySelector(\".filter-toggle\").addEventListener(\"click\", function () \x7b\n",
    "      filterBar.hidden = !filterBar.hidden;\n",
    "    \x7d);\n",
    "    document.querySelector(\".filter-expand\").addEventListener(\"click\", function () \x7b\n",
    "      filterBar.classList.toggle(\"expanded\");\n",
    "    \x7d);\n",
    "\n",
    "    refresh();\n",
    "  \x7d)();\n",
    "  </script>\n",
    "</body>\n",
    "</html>\n"]

/-- A dashboard page: its title and its charts. -/
def dashboardPage (title : String) (charts : List ChartView) : String :=
  String.join [dashboardHead, escapeHtml title, dashboardFilters,
    String.join (charts.map chartBlock), dashboardTail]

end DashboardHarness.Fixture

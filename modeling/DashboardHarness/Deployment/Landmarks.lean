import DashboardHarness.Browser.Selector

/-!
# Landmarks of the deployment's pages

The selectors of the elements that the workflows look for on the pages of a Superset deployment:
the login form, the dashboard list and its pagination, the database and dataset forms, the
deletion dialog, and the filter bar and chart views of a dashboard. Charts are addressed through
their name or their container.

Main definitions:

- The selectors of the landmarks of the deployment's pages: the login form, the dashboard list,
  the connection and dataset forms, and the charts and filter bar of a dashboard.
-/

namespace DashboardHarness.Deployment

open Selector

/-- The document title of every page of the deployment. -/
def applicationTitle : String := "Superset"

/-! ## Login -/

/-- The user name field of the login form. -/
def usernameField : Selector := ofCss "#username"
/-- The password field of the login form. -/
def passwordField : Selector := ofCss "#password"
/-- The submit button of the login form. -/
def submitButton : Selector := ofCss "input.btn.btn-primary.btn-block"

/-! ## Dashboard list -/

/-- The heading of the dashboard list. -/
def dashboardListHeader : Selector := ofCss "div.header"
/-- The pagination item that advances the dashboard list. -/
def nextPageControl : Selector := (ofCss "ul[role=\"navigation\"] li").withText "»"
/-- The title shown once a dashboard has rendered. -/
def dashboardTitle : Selector := ofCss "span[aria-label=\"Dashboard title\"]"
/-- A dashboard entry of the list, by its name. -/
def dashboardLink (name : String) : Selector := ofText name

/-! ## Databases and datasets -/

/-- The button that opens a creation form on list pages. -/
def addButton : Selector := ofCss "i.fa-plus"
/-- The heading of the database connection form. -/
def connectDatabaseHeading : Selector := (ofCss "h4").withText "Connect a database"
/-- The engine dropdown of the connection form. -/
def engineSelect : Selector := ofCss "#rc_select_4"
/-- The generic engine in the dropdown. -/
def otherEngineOption : Selector := ofCss "div[title=\"Other\"]"
/-- The connection string field. -/
def connectionStringField : Selector := ofCss "[name=\"sqlalchemy_uri\"]"
/-- The button that tests the connection string. -/
def testConnectionButton : Selector := ofText "Test connection"
/-- The notice of a passing connection test. -/
def connectionLooksGood : Selector := ofText "Connection looks good!"
/-- The button that submits the connection form. -/
def connectButton : Selector := (ofCss "button.superset-button-primary").nth 1
/-- The list row of the generic engine connection. -/
def otherConnectionRow : Selector := (ofCss "table[role=\"table\"] tbody tr").withText "Other"
/-- The icon that deletes the first listed entry. -/
def trashIcon : Selector := ofCss "span[aria-label=\"trash\"]"
/-- The field that takes the deletion keyword. -/
def deleteConfirmationField : Selector := ofCss "#delete"
/-- The button that confirms a deletion. -/
def deleteButton : Selector := (ofCss "button").withText "Delete"
/-- The notice of a deletion. -/
def deletedNotification : Selector := ofText "Deleted:"
/-- The labels of rows that belong to the generic engine. -/
def otherEngineLabel : Selector := (ofCss "span").withText "Other"
/-- The heading of the dataset form. -/
def newDatasetHeading : Selector := ofText "New dataset"
/-- The database picker of the dataset form. -/
def databaseSelect : Selector :=
  ofCss "input[aria-label=\"Select database or type to search databases\"]"
/-- The first database backed by WFS. -/
def wfsDatabaseOption : Selector := ofCss "div[backend=\"wfs\"]"
/-- The table picker of the dataset form. -/
def tableSelect : Selector := ofCss "input[aria-label=\"Select table or type to search tables\"]"
/-- The first table offered. -/
def firstTableOption : Selector := ofCss "span[aria-label=\"table\"]"
/-- The button that submits the dataset form. -/
def createDatasetAndChartButton : Selector := ofText "Create dataset and create chart"

/-! ## Dashboards and charts -/

/-- The toggle of the filter bar. -/
def filterBarToggle : Selector := ofCss "span[aria-label=\"filter\"]"
/-- The control that expands the filter bar. -/
def filterBarExpand : Selector := ofCss "span[aria-label=\"expand\"]"
/-- The notice of an empty filter bar. -/
def filterBarEmptyDescription : Selector := ofCss "p.ant-empty-description"
/-- The table of a chart's tabular view. -/
def resultTable : Selector := ofCss ".antd5-modal-root .table-condensed"
/-- The body rows of that table. -/
def resultTableRows : Selector := ofCss ".antd5-modal-root .table-condensed tbody tr"
/-- The button that closes a chart view; the first match belongs to the page header. -/
def modalCloseButton : Selector := (ofCss "button[aria-label=\"Close\"]").nth 1
/-- The menu entry that removes a cross-filter. -/
def removeCrossFilterItem : Selector := ofText "Remove cross-filter"
/-- The icons that dismiss cross-filters in the filter bar. -/
def crossFilterDismissIcons : Selector := ofCss "div.ant-collapse-content span.anticon-close"
/-- Any error banner. -/
def errorAlert : Selector := ofRole "alert" ""
/-- The menu entry of a chart's tabular view. -/
def viewAsTableButton : Selector := ofRole "button" "View as table"
/-- The menu entry of a chart's query view. -/
def viewQueryButton : Selector := ofRole "button" "View query"
/-- The start of a rendered query. -/
def querySelectClause : Selector := (ofText "SELECT").nth 0
/-- The filter clause of a rendered query. -/
def queryWhereClause : Selector := ofText "WHERE"

/-- Every canvas inside a chart container. -/
def chartCanvases (container : String) : Selector := ofCss (container ++ " canvas")
/-- A chart of the dashboard, by its name. -/
def chartByName (name : String) : Selector :=
  ofCss ("div[data-test-chart-name=\"" ++ name ++ "\"]")
/-- The options menu of a named chart. -/
def chartMenu (name : String) : Selector :=
  ofCss ("div[data-test-chart-name=\"" ++ name ++ "\"] span[aria-label=\"More Options\"]")
/-- The applied-filters indicator of a named chart, for a number of filters. -/
def appliedFilters (name : String) (filters : Int) : Selector :=
  ofCss ("div[data-test-chart-name=\"" ++ name ++ "\"] div[aria-label=\"Applied filters (" ++
    toString filters ++ ")\"]")
/-- The filter bar badge of a cross-filter on a column. -/
def crossFilterBadge (column : String) : Selector := (ofCss "span.css-19ez2t").withText column

end DashboardHarness.Deployment

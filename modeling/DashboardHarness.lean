import DashboardHarness.Text.Blank
import DashboardHarness.Text.Case
import DashboardHarness.Text.Quoted
import DashboardHarness.Decimal.Fixed
import DashboardHarness.Json.Value
import DashboardHarness.Failure
import DashboardHarness.Browser.Selector
import DashboardHarness.Browser.Geometry
import DashboardHarness.Dashboard.Slug
import DashboardHarness.Dashboard.Basic
import DashboardHarness.Browser.Click
import DashboardHarness.Keyed
import DashboardHarness.Browser.Page
import DashboardHarness.Text.Template
import DashboardHarness.Settings.Basic
import DashboardHarness.Probe.Options
import DashboardHarness.Probe.Sweep
import DashboardHarness.Deployment.Landmarks
import DashboardHarness.Browser.Interact
import DashboardHarness.Deployment.Navigation
import DashboardHarness.Deployment.Dashboards
import DashboardHarness.Deployment.Connections
import DashboardHarness.Deployment.CrossFilter
import DashboardHarness.Browser.Launch
import DashboardHarness.Store.Page
import DashboardHarness.Text.Utf8
import DashboardHarness.Web.IpAddress
import DashboardHarness.Web.Url
import DashboardHarness.Web.Reading
import DashboardHarness.Text.Numeral
import DashboardHarness.Text.Duration
import DashboardHarness.Settings.Validate
import DashboardHarness.Settings.Load
import DashboardHarness.Deployment.Login
import DashboardHarness.Store.Tables
import DashboardHarness.Store.Query
import DashboardHarness.Store.Open
import DashboardHarness.Schedule.Scheduler
import DashboardHarness.Schedule.Goroutines
import DashboardHarness.Schedule.RunStats
import DashboardHarness.Html.Escape
import DashboardHarness.Web.Form
import DashboardHarness.Web.Token
import DashboardHarness.Web.MediaType
import DashboardHarness.Web.Multipart
import DashboardHarness.Web.Path
import DashboardHarness.Web.Http
import DashboardHarness.Web.RequestLine
import DashboardHarness.Fixture.Pages
import DashboardHarness.Fixture.Catalog
import DashboardHarness.Fixture.Server
import DashboardHarness.Fixture.Client
import DashboardHarness.Fixture.RouteTable
import DashboardHarness.Web.Address
import DashboardHarness.Cli.Flags
import DashboardHarness.Cli.Commands
import DashboardHarness.Cli.Completion
import DashboardHarness.Cli.Script.Bash
import DashboardHarness.Cli.Script.Fish
import DashboardHarness.Cli.Script.PowerShell
import DashboardHarness.Cli.Script.Zsh
import DashboardHarness.Cli.Run
import DashboardHarness.Main
import DashboardHarness.Proofs.Calls
import DashboardHarness.Proofs.Grid
import DashboardHarness.Proofs.Hover
import DashboardHarness.Proofs.DashboardSearch
import DashboardHarness.Proofs.Listing
import DashboardHarness.Proofs.Session
import DashboardHarness.Proofs.Seeding
import DashboardHarness.Proofs.Stopping
import DashboardHarness.Proofs.WholeFloats
import DashboardHarness.Proofs.DurationText
import DashboardHarness.Proofs.IntegerText
import DashboardHarness.Proofs.FlagReading
import DashboardHarness.Proofs.EnvironmentSettings
import DashboardHarness.Proofs.Encodings
import DashboardHarness.Proofs.PlainTargets
import DashboardHarness.Proofs.LoginRedirect
import DashboardHarness.Proofs.HiddenTooltip
import DashboardHarness.Proofs.RedirectOrigin
import DashboardHarness.Proofs.StoredRows
import DashboardHarness.Proofs.FoundDashboards
import DashboardHarness.Proofs.DashboardPages
import DashboardHarness.Proofs.FeatureAttribute
import DashboardHarness.Proofs.CallTrees
import DashboardHarness.Proofs.WorkflowTrees
import DashboardHarness.Proofs.FailureCauses
import DashboardHarness.Proofs.SlugRuns
import DashboardHarness.Proofs.ActiveStrategy
import DashboardHarness.Proofs.ScrollRetry
import DashboardHarness.Proofs.ResolvedPaths
import DashboardHarness.Proofs.DeletionPolls
import DashboardHarness.Proofs.RecordedRuns
import DashboardHarness.Proofs.QuotedText
import DashboardHarness.Proofs.SelectorKeys

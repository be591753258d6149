import DashboardHarness.Settings.Basic
import DashboardHarness.Web.Url
import DashboardHarness.Failure

/-!
# Valid settings

Settings are valid when the application URL reads as an absolute `http` or `https` URL with a
host, a user name and a password are given, a driver is named, both timeouts are positive and
the dashboard page limit is positive. The first rule broken names the failure.

Main results:

- `Settings.maxDashboardPages_pos_of_validate`: valid settings search at least one page.
-/

namespace DashboardHarness

/-- Checks the settings, in the order of the rules. -/
def Settings.validate (s : Settings) : Except Failure Unit :=
  match Web.Url.parse s.applicationUrl with
  | .error e => .error (.detail .invalidApplicationUrl e.message)
  | .ok u =>
    if (u.scheme ≠ "http" ∧ u.scheme ≠ "https") ∨ u.host = [] then
      .error (.detail .invalidApplicationUrl s.applicationUrl)
    else if s.username = "" ∨ s.password = "" then .error (.kind .missingCredentials)
    else if s.driverName = "" then .error (.kind .missingDriverName)
    else if s.actionTimeout ≤ 0 ∨ s.networkIdleTimeout ≤ 0 then .error (.kind .invalidTimeout)
    else if s.maxDashboardPages ≤ 0 then .error (.kind .invalidPageLimit)
    else .ok ()

theorem Settings.maxDashboardPages_pos_of_validate (s : Settings) (h : s.validate = .ok ()) :
    0 < s.maxDashboardPages := by
  unfold Settings.validate at h
  split at h
  · cases h
  · repeat' split at h
    all_goals first | omega | cases h

end DashboardHarness

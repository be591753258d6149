import DashboardHarness.Failure
import DashboardHarness.Text.Blank

/-!
# Opening the store

The store is opened with a driver name and a data source name, both trimmed of white space. The
driver must be named and must be `sqlite`, the one driver there is; the data source must be named
too. An opened store is migrated before it is used, which always succeeds.

Main results:

- `openStore_sqlite`: with the `sqlite` driver and a named data source the store opens.
-/

namespace DashboardHarness.Store

/-- The name of the one store driver. -/
def sqliteDriver : String := "sqlite"

/-- Checks the driver and data source names of a store to open. -/
def openStore (driver source : String) : Except Failure Unit :=
  let driver := Text.trimBlank driver
  if driver.isEmpty then .error (.kind .missingDatabaseDriver)
  else if driver ≠ sqliteDriver then .error (.detail .unsupportedDatabaseDriver driver)
  else if (Text.trimBlank source).isEmpty then
    .error (.context "storage: open database" (.kind .missingDataSource))
  else .ok ()

theorem openStore_sqlite (source : String) (h : (Text.trimBlank source).isEmpty = false) :
    openStore sqliteDriver source = .ok () := by
  have trimmed : Text.trimBlank sqliteDriver = sqliteDriver := by decide
  have named : sqliteDriver.isEmpty = false := by decide
  simp [openStore, trimmed, named, h]

end DashboardHarness.Store

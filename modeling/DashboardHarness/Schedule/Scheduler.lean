/-!
# Repeated runs of a job

A scheduler runs a job once when it starts and then again on every trigger until it stops; the
interval between timed runs is long enough that no timed run happens in between, so only starts
and triggers cause runs. A trigger while the scheduler is stopped is kept, at most one of them,
and taken by the next start as one more run right after the first. A start while running does
nothing, and a scheduler without a job never runs.

The job is given by the outcome of each of its runs, counted from zero: success, or a failure
with a message. The statistics count the runs and the failures, the failures since the last
success, and the message of the last run when it failed.

Main definitions:

- `Scheduler.start`, `Scheduler.trigger`, `Scheduler.stop`: a scheduler runs its job on start
  and on every trigger while it runs; a trigger while it is stopped waits for the next start.
- `Stats.record`: the counts of runs and failures after one more run.
-/

namespace DashboardHarness.Schedule

/-- The counts of the runs so far. -/
structure Stats where
  runs : Nat := 0
  failures : Nat := 0
  consecutiveFailures : Nat := 0
  lastError : Option String := none
  deriving DecidableEq, Repr

/-- The statistics after one more run with the given outcome. -/
def Stats.record (s : Stats) : Except String Unit → Stats
  | .ok () => { s with runs := s.runs + 1, consecutiveFailures := 0, lastError := none }
  | .error message =>
    { runs := s.runs + 1, failures := s.failures + 1,
      consecutiveFailures := s.consecutiveFailures + 1, lastError := some message }

/-- A scheduler: its job, whether it runs, whether a trigger waits, and its statistics. -/
structure Scheduler where
  job : Option (Nat → Except String Unit)
  running : Bool := false
  triggerPending : Bool := false
  stats : Stats := {}

namespace Scheduler

/-- Runs the job once, when there is one. -/
def runOnce (s : Scheduler) : Scheduler :=
  match s.job with
  | none => s
  | some job => { s with stats := s.stats.record (job s.stats.runs) }

/-- Starts a stopped scheduler that has a job: one run, and one more for a pending trigger. -/
def start (s : Scheduler) : Scheduler :=
  if s.job.isNone || s.running then s
  else
    let s := runOnce { s with running := true }
    if s.triggerPending then runOnce { s with triggerPending := false } else s

/-- Asks for a run: at once while running, else kept for the next start. -/
def trigger (s : Scheduler) : Scheduler :=
  if s.running then runOnce s else { s with triggerPending := true }

/-- Stops the scheduler; a pending trigger stays. -/
def stop (s : Scheduler) : Scheduler := { s with running := false }

end Scheduler

end DashboardHarness.Schedule

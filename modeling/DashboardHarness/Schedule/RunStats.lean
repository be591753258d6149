import DashboardHarness.Schedule.Scheduler
import DashboardHarness.Schedule.Goroutines

/-!
# Run statistics as the goroutines interleave

The statistics of a scheduler sit under a mutex of their own, apart from the control fields.
They have one writer: when a run of the job returns, its loop takes that mutex, records the
outcome, copies the statistics for its log line and lets go. `Stats` takes the mutex and returns
a copy; called on no scheduler at all, it returns the zero statistics. The loops of different
start and stop cycles, and loops that overlap because a `Start` came while a `Stop` waited,
all record into the same statistics, in the order they take the mutex.

So the state the goroutines share is the control of `Schedule.Goroutines` with the statistics
beside it. A run ends by a move of its own, which brings the outcome the job returned: the job
may answer anything at any time, so the outcome is the move's datum, and the end of the run and
the recording are one atomic step. Every other move is an event of the control and leaves the
statistics alone.

Watch mode starts the scheduler, waits for its loop, stops it, and prints the number of runs and
the number of failures.
-/

namespace DashboardHarness.Schedule

/-- Whether an event is the end of a run, which only a move with its outcome makes. -/
def Event.endsRun : Event → Bool
  | .runEnds _ => true
  | _ => false

/-- What the goroutines of a scheduler with a job share: the control and the statistics. -/
structure Shared where
  control : Control := {}
  stats : Stats := {}

/-- One atomic action of one goroutine: an event of the control other than the end of a run, or
the end of a run of loop `loop`, whose job returned `outcome`. -/
inductive Move where
  | event (e : Event)
  | finish (loop : Nat) (outcome : Except String Unit)

namespace Shared

/-- The shared state after a move, or none when the move cannot happen now. A run that ends
records the outcome of its job; nothing else touches the statistics. -/
def step (s : Shared) : Move → Option Shared
  | .event e =>
    if e.endsRun then none
    else (s.control.step e).map fun c => { s with control := c }
  | .finish i outcome =>
    (s.control.step (.runEnds i)).map fun c => { control := c, stats := s.stats.record outcome }

/-- The shared state after moves in turn, or none when one of them cannot happen. -/
def run (s : Shared) : List Move → Option Shared
  | [] => some s
  | m :: ms => (s.step m).bind fun s' => s'.run ms

/-- What `Stats` returns on a scheduler, or on none. -/
def snapshot : Option Shared → Stats
  | none => {}
  | some s => s.stats

end Shared

/-- The outcomes that moves record, in the order they record them. -/
def recorded (moves : List Move) : List (Except String Unit) :=
  moves.filterMap fun
    | .finish _ outcome => some outcome
    | .event _ => none

/-- The line watch mode prints when it ends: the number of runs, then the number of failures. -/
def Stats.summary (s : Stats) : String :=
  toString s.runs ++ " probes, " ++ toString s.failures ++ " failed\n"

end DashboardHarness.Schedule

/-!
# The scheduler's goroutines

The control of a scheduler as the goroutines that use it interleave. `Start`, `Stop`, `Trigger`
and `Wait` may be called from any goroutine, and every loop that `Start` starts runs in a
goroutine of its own. What they share is the state: the two control fields that the mutex
guards, which hold the cancel function and the done channel of the loop started last; the loops
started so far; the one-slot trigger buffer; and the `Stop` and `Wait` calls in progress. An
event is one atomic action of one goroutine:

- `Start` takes the mutex and, when the cancel field is empty, starts a loop and stores its
  cancel function and done channel in the fields; the loop's goroutine has not run yet. With
  the field set it does nothing.
- `Trigger` fills the trigger buffer; a full buffer stays as it is.
- `Stop` takes the mutex, reads both fields and clears them; then it cancels the context of the
  loop whose cancel function it read; then it waits until the loop whose done channel it read
  has exited, and returns. These are three events, and other goroutines may act in between.
- `Wait` reads the done field under the mutex and returns at once when it is empty, or else
  once that loop has exited.
- A loop's goroutine runs the job as soon as it is scheduled, whatever its context. After a run
  it waits in a `select` for its context to end, for a trigger, or for its timer, which may
  fire at any time. Woken by a trigger or the timer, it checks its context and either returns
  or runs the job again. Its context ends when a `Stop` cancels it, or when the context it was
  started with ends, which may happen at any time.

The results of the job and the run statistics play no part in the control and are left out,
and the interval is only the timer that may fire.
-/

namespace DashboardHarness.Schedule

/-- Where the goroutine of a started loop is. -/
inductive LoopPhase where
  /-- Started, but not yet running: its first run of the job comes whatever its context. -/
  | spawned
  /-- Inside a run of the job. -/
  | running
  /-- In the `select` between its context, the trigger buffer and its timer. -/
  | selecting
  /-- Woken by a trigger or its timer, before it checks its context. -/
  | woken
  /-- Returned, its done channel closed. -/
  | exited
  deriving DecidableEq, Repr

/-- A started loop: where its goroutine is, and whether its context has ended. -/
structure Loop where
  phase : LoopPhase := .spawned
  cancelled : Bool := false
  deriving DecidableEq, Repr

/-- Where a `Stop` call is after it took the control fields. -/
inductive StopPhase where
  /-- About to cancel the context of the loop it took. -/
  | cancelling
  /-- Waiting for the loop it took to exit. -/
  | waiting
  deriving DecidableEq, Repr

/-- A `Stop` call in progress: the loops whose cancel function and done channel it took from the
fields, none for an empty field; how many loops had been started when it began; and its phase. -/
structure StopCall where
  cancelOf : Option Nat
  doneOf : Option Nat
  startedBefore : Nat
  phase : StopPhase := .cancelling
  deriving DecidableEq, Repr

/-- The control of a scheduler that has a job. Loops are numbered in the order they started. -/
structure Control where
  /-- The loop whose cancel function the cancel field holds. -/
  cancel : Option Nat := none
  /-- The loop whose done channel the done field holds. -/
  done : Option Nat := none
  /-- The loops started so far. -/
  loops : List Loop := []
  /-- Whether the trigger buffer holds a trigger. -/
  pending : Bool := false
  /-- The `Stop` calls in progress, in the order they began. -/
  stops : List StopCall := []
  /-- The `Wait` calls in progress: the loop whose done channel each waits on. -/
  waits : List Nat := []
  deriving DecidableEq, Repr

/-- One atomic action of one goroutine. Calls in progress and loops are named by their place. -/
inductive Event where
  /-- A `Start` call. -/
  | start
  /-- A `Trigger` call. -/
  | trigger
  /-- A `Stop` call takes and clears the control fields. -/
  | stopTake
  /-- A `Stop` call cancels the context of the loop it took. -/
  | stopCancel (call : Nat)
  /-- A `Stop` call returns, the loop it took having exited. -/
  | stopReturn (call : Nat)
  /-- A `Wait` call reads the done field. -/
  | wait
  /-- A `Wait` call returns, its loop having exited. -/
  | waitReturn (call : Nat)
  /-- The context a loop was started with ends. -/
  | contextEnds (loop : Nat)
  /-- A loop starts a run of the job: its first, or after a wake-up with its context alive. -/
  | runBegins (loop : Nat)
  /-- A run of the job returns and the loop waits in its `select`. -/
  | runEnds (loop : Nat)
  /-- A loop in its `select` takes the trigger from the buffer. -/
  | triggerTaken (loop : Nat)
  /-- The timer of a loop in its `select` fires. -/
  | timerFires (loop : Nat)
  /-- A loop whose context has ended returns, from its `select` or after a wake-up. -/
  | loopReturns (loop : Nat)
  deriving DecidableEq, Repr

namespace Control

/-- Whether a done channel is closed: its loop has exited. An empty field names no channel, and
waiting on it ends at once. -/
def closed (c : Control) : Option Nat → Bool
  | none => true
  | some i => c.loops[i]?.any (·.phase == .exited)

/-- An action of loop `i`: when the loop exists and `enabled` holds of it, it becomes `f` of it. -/
def loopStep (c : Control) (i : Nat) (enabled : Loop → Bool) (f : Loop → Loop) :
    Option Control :=
  match c.loops[i]? with
  | some l => if enabled l then some { c with loops := c.loops.modify i f } else none
  | none => none

/-- The loops with the context of one of them ended, when a loop is named. -/
def cancelLoop (loops : List Loop) : Option Nat → List Loop
  | none => loops
  | some i => loops.modify i fun l => { l with cancelled := true }

/-- The control after an event, or none when the event cannot happen now. -/
def step (c : Control) : Event → Option Control
  | .start =>
    if c.cancel.isSome then some c
    else
      some { c with cancel := some c.loops.length, done := some c.loops.length,
                    loops := c.loops ++ [{}] }
  | .trigger => some { c with pending := true }
  | .stopTake =>
    some { c with cancel := none, done := none,
                  stops := c.stops ++ [⟨c.cancel, c.done, c.loops.length, .cancelling⟩] }
  | .stopCancel k =>
    match c.stops[k]? with
    | some call =>
      if call.phase = .cancelling then
        some { c with loops := cancelLoop c.loops call.cancelOf,
                      stops := c.stops.set k { call with phase := .waiting } }
      else none
    | none => none
  | .stopReturn k =>
    match c.stops[k]? with
    | some call =>
      if call.phase = .waiting ∧ c.closed call.doneOf then some { c with stops := c.stops.eraseIdx k }
      else none
    | none => none
  | .wait =>
    match c.done with
    | none => some c
    | some i => some { c with waits := c.waits ++ [i] }
  | .waitReturn k =>
    match c.waits[k]? with
    | some i => if c.closed (some i) then some { c with waits := c.waits.eraseIdx k } else none
    | none => none
  | .contextEnds i => c.loopStep i (fun _ => true) fun l => { l with cancelled := true }
  | .runBegins i =>
    c.loopStep i (fun l => l.phase == .spawned || (l.phase == .woken && !l.cancelled))
      fun l => { l with phase := .running }
  | .runEnds i => c.loopStep i (·.phase == .running) fun l => { l with phase := .selecting }
  | .triggerTaken i =>
    if c.pending then
      (c.loopStep i (·.phase == .selecting) fun l => { l with phase := .woken }).map
        fun c => { c with pending := false }
    else none
  | .timerFires i => c.loopStep i (·.phase == .selecting) fun l => { l with phase := .woken }
  | .loopReturns i =>
    c.loopStep i (fun l => (l.phase == .selecting || l.phase == .woken) && l.cancelled)
      fun l => { l with phase := .exited }

/-- The control after events in turn, or none when one of them cannot happen. -/
def run (c : Control) : List Event → Option Control
  | [] => some c
  | e :: es => (c.step e).bind fun c' => c'.run es

/-- Whether loop `i` is inside a run of the job. -/
def running (c : Control) (i : Nat) : Bool :=
  c.loops[i]?.any (·.phase == .running)

end Control

end DashboardHarness.Schedule

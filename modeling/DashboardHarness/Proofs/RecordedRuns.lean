import DashboardHarness.Schedule.RunStats
import DashboardHarness.Proofs.Stopping

/-!
# What the run statistics report

The statistics of a scheduler report the outcomes of the runs recorded so far, oldest first:
one run for each outcome, one failure for each failure, as many consecutive failures as the
longest suffix of failures has, and the message of the last outcome when it failed (`Reports`).
The zero statistics report no outcome, and recording an outcome reports it after the others, so
whatever the goroutines do, in any number of start and stop cycles and with loops that overlap,
the statistics report exactly the outcomes the ends of runs recorded, in their order.

The control keeps count as well: a run that began either ended, recorded once, or is still
inside the job. So the runs counted and the loops inside a run add up to the runs begun, and no
run is lost or counted twice.

Main results:

- `Stats.Reports.record`: recording an outcome reports it after the others.
- `Stats.Reports.consistent`: reported statistics agree with themselves.
- `Control.step_inRun`: only the start and the end of a run change the number of loops inside
  one, by one each.
- `Shared.run_reports`, `Shared.run_counts`: what a run of moves keeps.
- `stats_report_recorded_runs`: the statistics, their summary and those of no scheduler.
-/

namespace DashboardHarness.Schedule

/-! ## The statistics as a report of the outcomes -/

/-- The message of the last outcome, when it is a failure. -/
def lastFailure (os : List (Except String Unit)) : Option String :=
  match os.getLast? with
  | some (.error message) => some message
  | _ => none

@[simp]
theorem lastFailure_nil : lastFailure [] = none := rfl

@[simp]
theorem lastFailure_append_ok (os : List (Except String Unit)) (u : Unit) :
    lastFailure (os ++ [.ok u]) = none := by
  simp [lastFailure]

@[simp]
theorem lastFailure_append_error (os : List (Except String Unit)) (message : String) :
    lastFailure (os ++ [.error message]) = some message := by
  simp [lastFailure]

namespace Stats

/-- The statistics report the outcomes `os` of the runs recorded so far, oldest first: one run
for each, one failure for each failure, as many consecutive failures as the longest suffix of
failures has (the outcomes before it, if any, end in a success), and the message of the last
outcome when it failed. -/
structure Reports (s : Stats) (os : List (Except String Unit)) : Prop where
  runs_eq : s.runs = os.length
  failures_eq : s.failures = os.countP fun o => !o.isOk
  streak : ∃ done streak, os = done ++ streak ∧ (∀ o ∈ streak, o.isOk = false) ∧
    (∀ o ∈ done.getLast?, o.isOk = true) ∧ s.consecutiveFailures = streak.length
  lastError_eq : s.lastError = lastFailure os

/-- Statistics that agree with themselves: no more consecutive failures than failures, no more
failures than runs, and a last error exactly when the last run failed. -/
structure Consistent (s : Stats) : Prop where
  consecutive_le : s.consecutiveFailures ≤ s.failures
  failures_le : s.failures ≤ s.runs
  lastError_none : s.lastError = none ↔ s.consecutiveFailures = 0

theorem reports_zero : ({} : Stats).Reports [] where
  runs_eq := rfl
  failures_eq := rfl
  streak := ⟨[], [], rfl, by simp, by simp, rfl⟩
  lastError_eq := rfl

/-- Recording an outcome reports it after the others: a success ends the streak of failures,
a failure lengthens it. -/
theorem Reports.record {s : Stats} {os : List (Except String Unit)} (h : s.Reports os)
    (o : Except String Unit) : (s.record o).Reports (os ++ [o]) := by
  obtain ⟨hruns, hfailures, ⟨done, streak, hos, hfailed, hdone, hcons⟩, hlast⟩ := h
  cases o with
  | ok u =>
    refine ⟨by simp [Stats.record, hruns], by simp [Stats.record, hfailures, Except.toBool],
      ?_, by simp [Stats.record]⟩
    exact ⟨os ++ [.ok u], [], by simp, by simp, by simp [Except.toBool], rfl⟩
  | error message =>
    refine ⟨by simp [Stats.record, hruns], by simp [Stats.record, hfailures, Except.toBool],
      ?_, by simp [Stats.record]⟩
    refine ⟨done, streak ++ [.error message], by simp [hos], ?_, hdone,
      by simp [Stats.record, hcons]⟩
    intro o ho
    rcases List.mem_append.1 ho with hstreak | hlast
    · exact hfailed o hstreak
    · simp only [List.mem_singleton] at hlast
      subst hlast
      rfl

/-- Reported statistics agree with themselves: the streak is a suffix of failures, the
failures are some of the runs, and the last error is there exactly when the streak is not
empty, since then the last outcome is its last failure. -/
theorem Reports.consistent {s : Stats} {os : List (Except String Unit)} (h : s.Reports os) :
    s.Consistent := by
  obtain ⟨hruns, hfailures, ⟨done, streak, hos, hfailed, hdone, hcons⟩, hlast⟩ := h
  have hstreak : streak.countP (fun o => !o.isOk) = streak.length := by
    rw [List.countP_eq_length]
    intro o ho
    simp [hfailed o ho]
  refine ⟨?_, ?_, ?_⟩
  · rw [hcons, hfailures, hos, List.countP_append, hstreak]
    exact Nat.le_add_left _ _
  · rw [hfailures, hruns]
    exact List.countP_le_length
  · rw [hlast, hcons, hos]
    rcases List.eq_nil_or_concat streak with rfl | ⟨streak', o, rfl⟩
    · -- no streak: the outcomes end in a success, or there are none
      simp only [List.append_nil, List.length_nil, iff_true]
      rcases List.eq_nil_or_concat done with rfl | ⟨done', o, rfl⟩
      · rfl
      · have hok : o.isOk = true := hdone o (by simp)
        cases o with
        | ok u => simp
        | error message => cases hok
    · -- a streak: the last outcome is its last failure
      have hfail : o.isOk = false := hfailed o (by simp)
      cases o with
      | ok u => cases hfail
      | error message => simp [← List.append_assoc]

end Stats

/-! ## The loops inside a run -/

/-- Whether an event is the start of a run. -/
def Event.beginsRun : Event → Bool
  | .runBegins _ => true
  | _ => false

namespace Control

/-- The number of loops inside a run of the job. -/
def inRun (c : Control) : Nat :=
  c.loops.countP (·.phase == .running)

/-- Moving one element changes a count by what the move does to that element. -/
theorem countP_modify {α : Type} {p : α → Bool} {l : List α} {i : Nat} {x : α}
    (hx : l[i]? = some x) (f : α → α) :
    (l.modify i f).countP p + (if p x then 1 else 0) = l.countP p + (if p (f x) then 1 else 0) := by
  induction l generalizing i with
  | nil => simp at hx
  | cons y l ih =>
    cases i with
    | zero =>
      simp only [List.getElem?_cons_zero, Option.some.injEq] at hx
      subst hx
      simp only [List.modify_zero_cons, List.countP_cons]
      omega
    | succ i =>
      simp only [List.getElem?_cons_succ] at hx
      simp only [List.modify_succ_cons, List.countP_cons]
      have := ih hx
      omega

/-- A move of one loop that keeps it in or out of a run keeps the number of loops inside one. -/
theorem loopStep_inRun {c c' : Control} {i : Nat} {enabled : Loop → Bool} {f : Loop → Loop}
    (h : c.loopStep i enabled f = some c') :
    ∃ l, enabled l = true ∧
      c'.inRun + (if l.phase == .running then 1 else 0) =
        c.inRun + (if (f l).phase == .running then 1 else 0) := by
  obtain ⟨l, hl, hen, rfl⟩ := loopStep_eq_some h
  exact ⟨l, hen, countP_modify hl f⟩

/-- Ending the context of a loop moves no loop in or out of a run. -/
theorem inRun_cancelLoop {c c' : Control} {x : Option Nat} (h : c'.loops = cancelLoop c.loops x) :
    c'.inRun = c.inRun := by
  cases x with
  | none => simp [inRun, h, cancelLoop]
  | some i =>
    simp only [inRun, h, cancelLoop]
    rcases hl : c.loops[i]? with _ | l
    · rw [List.modify_eq_self (by simpa using hl)]
    · have := countP_modify (p := (·.phase == .running)) hl fun l => { l with cancelled := true }
      simpa using this

/-- Only the start and the end of a run move a loop in or out of a run, by one each. -/
theorem step_inRun {c c' : Control} {e : Event} (h : c.step e = some c') :
    c'.inRun + (if e.endsRun then 1 else 0) = c.inRun + (if e.beginsRun then 1 else 0) := by
  cases e with
  | start =>
    simp only [step] at h
    split at h
    · cases h
      rfl
    · cases h
      simp [inRun, List.countP_append, Event.endsRun, Event.beginsRun]
  | trigger => cases h; rfl
  | stopTake => cases h; rfl
  | stopCancel k =>
    simp only [step] at h
    split at h
    · split at h
      · cases h
        simpa [Event.endsRun, Event.beginsRun] using inRun_cancelLoop rfl
      · cases h
    · cases h
  | stopReturn k =>
    simp only [step] at h
    split at h
    · split at h
      · cases h; rfl
      · cases h
    · cases h
  | wait =>
    simp only [step] at h
    split at h <;> (cases h; rfl)
  | waitReturn k =>
    simp only [step] at h
    split at h
    · split at h
      · cases h; rfl
      · cases h
    · cases h
  | contextEnds i =>
    obtain ⟨l, -, hcount⟩ := loopStep_inRun h
    simpa [Event.endsRun, Event.beginsRun] using hcount
  | runBegins i =>
    obtain ⟨l, hen, hcount⟩ := loopStep_inRun h
    have hout : (l.phase == .running) = false := by
      cases hphase : l.phase <;> simp_all
    simpa [Event.endsRun, Event.beginsRun, hout] using hcount
  | runEnds i =>
    obtain ⟨l, hen, hcount⟩ := loopStep_inRun h
    have hin : (l.phase == .running) = true := by simpa using hen
    simpa [Event.endsRun, Event.beginsRun, hin] using hcount
  | triggerTaken i =>
    simp only [step] at h
    split at h
    · obtain ⟨c₁, h₁, rfl⟩ := Option.map_eq_some_iff.1 h
      obtain ⟨l, hen, hcount⟩ := loopStep_inRun h₁
      have hsel : l.phase = .selecting := by simpa using hen
      simpa [inRun, Event.endsRun, Event.beginsRun, hsel] using hcount
    · cases h
  | timerFires i =>
    obtain ⟨l, hen, hcount⟩ := loopStep_inRun h
    have hsel : l.phase = .selecting := by simpa using hen
    simpa [Event.endsRun, Event.beginsRun, hsel] using hcount
  | loopReturns i =>
    obtain ⟨l, hen, hcount⟩ := loopStep_inRun h
    have hout : (l.phase == .running) = false := by
      cases hphase : l.phase <;> simp_all
    simpa [Event.endsRun, Event.beginsRun, hout] using hcount

end Control

/-! ## Runs of moves -/

/-- Whether a move starts a run. -/
def Move.beginsRun : Move → Bool
  | .event e => e.beginsRun
  | .finish _ _ => false

/-- The number of runs that moves begin. -/
def begun (moves : List Move) : Nat :=
  moves.countP Move.beginsRun

@[simp]
theorem recorded_nil : recorded [] = [] := rfl

@[simp]
theorem recorded_event (e : Event) (moves : List Move) :
    recorded (.event e :: moves) = recorded moves := rfl

@[simp]
theorem recorded_finish (i : Nat) (o : Except String Unit) (moves : List Move) :
    recorded (.finish i o :: moves) = o :: recorded moves := rfl

namespace Shared

/-- What a move does to the statistics and to the count of runs: the end of a run records its
outcome and leaves a run, an event of the control leaves the statistics alone. -/
theorem step_cases {s s' : Shared} {m : Move} (h : s.step m = some s') :
    (∃ e, m = .event e ∧ e.endsRun = false ∧ s.control.step e = some s'.control ∧
      s'.stats = s.stats) ∨
    (∃ i o, m = .finish i o ∧ s.control.step (.runEnds i) = some s'.control ∧
      s'.stats = s.stats.record o) := by
  cases m with
  | event e =>
    simp only [step] at h
    split at h
    · cases h
    · obtain ⟨c, hc, rfl⟩ := Option.map_eq_some_iff.1 h
      exact .inl ⟨e, rfl, by simpa using ‹¬ e.endsRun = true›, hc, rfl⟩
  | finish i o =>
    obtain ⟨c, hc, rfl⟩ := Option.map_eq_some_iff.1 h
    exact .inr ⟨i, o, rfl, hc, rfl⟩

theorem run_cons_eq_some {s s'' : Shared} {m : Move} {ms : List Move}
    (h : s.run (m :: ms) = some s'') : ∃ s', s.step m = some s' ∧ s'.run ms = some s'' := by
  simpa [run, Option.bind_eq_some_iff] using h

/-- Along any run of moves the statistics go on reporting what was recorded before, then what
the moves record. -/
theorem run_reports {s s' : Shared} {os : List (Except String Unit)} {moves : List Move}
    (hs : s.stats.Reports os) (h : s.run moves = some s') :
    s'.stats.Reports (os ++ recorded moves) := by
  induction moves generalizing s os with
  | nil =>
    cases h
    simpa using hs
  | cons m ms ih =>
    obtain ⟨s₁, hstep, hrest⟩ := run_cons_eq_some h
    rcases step_cases hstep with ⟨e, rfl, -, -, hstats⟩ | ⟨i, o, rfl, -, hstats⟩
    · rw [← hstats] at hs
      simpa using ih hs hrest
    · have hrec := hs.record o
      rw [← hstats] at hrec
      simpa using ih hrec hrest

/-- Along any run of moves the runs counted and the loops inside a run grow together by the
runs the moves begin. -/
theorem run_counts {s s' : Shared} {moves : List Move} (h : s.run moves = some s') :
    s'.stats.runs + s'.control.inRun = s.stats.runs + s.control.inRun + begun moves := by
  induction moves generalizing s with
  | nil =>
    cases h
    rfl
  | cons m ms ih =>
    obtain ⟨s₁, hstep, hrest⟩ := run_cons_eq_some h
    have hafter := ih hrest
    rcases step_cases hstep with ⟨e, rfl, hends, hc, hstats⟩ | ⟨i, o, rfl, hc, hstats⟩
    · -- an event of the control: the statistics stay, and a run may begin
      have hin := Control.step_inRun hc
      rw [hstats] at hafter
      simp only [begun, List.countP_cons, Move.beginsRun] at hafter ⊢
      by_cases hb : e.beginsRun = true
      · simp only [hends, hb, Bool.false_eq_true, if_false, if_true, Nat.add_zero] at hin ⊢
        omega
      · simp only [hends, hb, Bool.false_eq_true, if_false, Nat.add_zero] at hin ⊢
        omega
    · -- the end of a run: it leaves the loops inside a run and is counted
      have hin := Control.step_inRun hc
      simp only [Event.endsRun, Event.beginsRun, if_true, Bool.false_eq_true, if_false,
        Nat.add_zero] at hin
      have hruns : s₁.stats.runs = s.stats.runs + 1 := by
        rw [hstats]
        cases o <;> rfl
      simp only [begun, List.countP_cons, Move.beginsRun, Bool.false_eq_true, if_false,
        Nat.add_zero] at hafter ⊢
      omega

end Shared

/-- Whatever the goroutines of a scheduler with a job do, from a fresh scheduler, across any
number of start and stop cycles and with loops that overlap: the statistics `Stats` returns
report exactly the outcomes the ends of runs recorded, in the order they recorded them, so they
agree with themselves; the runs counted and the loops still inside a run add up to the runs
begun; and the summary of watch mode prints the number of outcomes and of failures. With no
scheduler, `Stats` returns the zero statistics. -/
theorem stats_report_recorded_runs :
    (∀ (moves : List Move) (s : Shared), ({} : Shared).run moves = some s →
      (Shared.snapshot (some s)).Reports (recorded moves) ∧
      (Shared.snapshot (some s)).Consistent ∧
      (Shared.snapshot (some s)).runs + s.control.inRun = begun moves ∧
      (Shared.snapshot (some s)).summary =
        toString (recorded moves).length ++ " probes, " ++
          toString ((recorded moves).countP fun o => !o.isOk) ++ " failed\n") ∧
    Shared.snapshot none = {} := by
  refine ⟨fun moves s h => ?_, rfl⟩
  have hreports : s.stats.Reports (recorded moves) := by
    simpa using Shared.run_reports Stats.reports_zero h
  have hcounts := Shared.run_counts h
  have hfresh : ({} : Shared).stats.runs + ({} : Shared).control.inRun = 0 := rfl
  refine ⟨hreports, hreports.consistent, by simpa [Shared.snapshot, hfresh] using hcounts, ?_⟩
  simp only [Shared.snapshot, Stats.summary, hreports.runs_eq, hreports.failures_eq]

/-- Two loops inside the job at once: the first loop is running when a `Stop` takes the fields,
a `Start` then starts a second, whose run fails and ends first. -/
def overlappingMoves : List Move :=
  [.event .start, .event (.runBegins 0), .event .stopTake, .event .start,
    .event (.runBegins 1), .finish 1 (.error "probe failed"), .finish 0 (.ok ())]

/-- The runs of the two loops overlap, and both are reported, in the order they ended. -/
theorem overlapping_runs_both_reported :
    (∃ s₀, ({} : Shared).run (overlappingMoves.take 5) = some s₀ ∧
      s₀.control.running 0 = true ∧ s₀.control.running 1 = true) ∧
    ∃ s, ({} : Shared).run overlappingMoves = some s ∧
      (Shared.snapshot (some s)).Reports [.error "probe failed", .ok ()] := by
  refine ⟨⟨_, rfl, rfl, rfl⟩, _, rfl, ?_⟩
  exact (stats_report_recorded_runs.1 overlappingMoves _ rfl).1

end DashboardHarness.Schedule

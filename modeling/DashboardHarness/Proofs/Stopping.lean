import DashboardHarness.Schedule.Goroutines

/-!
# Stopping the scheduler while other calls run

`Stop` clears the control fields before it waits for the loop it stopped. In that window the
scheduler looks idle to every other goroutine: a `Start` there starts a second loop while the
first may still be inside a run of the job, and a second `Stop` there finds nothing to wait for
and returns at once, the first loop still running. So two promises fail for some interleaving:
that no two runs of the job overlap, and that once a `Stop` returns, no loop started before it
is running or runs again.

Both hold when no `Start` or `Stop` begins while a `Stop` is in progress, whatever else
interleaves: triggers, waits, ends of contexts and the loops' own steps. Then at most one loop
is live at any time, the one that the done field or the `Stop` in progress names, and a `Stop`
returns only once every loop has exited.

Main results:

- `step_closed`: an exited loop stays exited.
- `Serial.step`: every step that starts and stops taken one at a time allow keeps `Serial`.
- `serial_stops_quiesce`: with starts and stops one at a time, runs never overlap, and a `Stop`
  returns only once no loop runs or will run again.
- `stop_window_races`: with a `Start` or a second `Stop` inside the window, both promises fail.
-/

namespace DashboardHarness.Schedule

/-- Whether an event begins a `Start` or a `Stop` call. -/
def Event.beginsCall : Event → Bool
  | .start | .stopTake => true
  | _ => false

namespace Control

/-- The controls that interleavings reach from a fresh scheduler. -/
inductive Reachable : Control → Prop where
  | init : Reachable {}
  | step {c c' : Control} (e : Event) : Reachable c → c.step e = some c' → Reachable c'

/-- The controls reached when no `Start` or `Stop` begins while a `Stop` is in progress. -/
inductive SerialReachable : Control → Prop where
  | init : SerialReachable {}
  | step {c c' : Control} (e : Event) : SerialReachable c → (e.beginsCall = true → c.stops = []) →
      c.step e = some c' → SerialReachable c'

theorem Reachable.run {c c' : Control} {es : List Event} (hc : Reachable c)
    (h : c.run es = some c') : Reachable c' := by
  induction es generalizing c with
  | nil => cases h; exact hc
  | cons e es ih =>
    simp only [Control.run, Option.bind_eq_some_iff] at h
    obtain ⟨c₁, h₁, h⟩ := h
    exact ih (hc.step e h₁) h

/-! ## What a step does to the loops -/

/-- Where loop `i` is, when it has been started. -/
def phaseOf (c : Control) (i : Nat) : Option LoopPhase :=
  c.loops[i]?.map (·.phase)

theorem closed_iff (c : Control) (i : Nat) :
    c.closed (some i) = true ↔ c.phaseOf i = some .exited := by
  simp only [closed, phaseOf]
  cases c.loops[i]? <;> simp

theorem running_iff (c : Control) (i : Nat) :
    c.running i = true ↔ c.phaseOf i = some .running := by
  simp only [running, phaseOf]
  cases c.loops[i]? <;> simp

theorem phaseOf_lt {c : Control} {j : Nat} {p : LoopPhase} (h : c.phaseOf j = some p) :
    j < c.loops.length := by
  rcases Nat.lt_or_ge j c.loops.length with hlt | hge
  · exact hlt
  · simp [phaseOf, List.getElem?_eq_none hge] at h

/-- Starting loops moves none of the loops started before. -/
theorem phaseOf_append {c c' : Control} {ls : List Loop} (h : c'.loops = c.loops ++ ls) {j : Nat}
    (hj : j < c.loops.length) : c'.phaseOf j = c.phaseOf j := by
  simp [phaseOf, h, List.getElem?_append_left hj]

section Loops

variable {c c' : Control} {i j : Nat} {enabled : Loop → Bool} {f : Loop → Loop}

theorem loopStep_eq_some (h : c.loopStep i enabled f = some c') :
    ∃ l, c.loops[i]? = some l ∧ enabled l = true ∧ c' = { c with loops := c.loops.modify i f } := by
  unfold loopStep at h
  split at h
  · rename_i l hl
    split at h
    · cases h
      exact ⟨l, hl, by assumption, rfl⟩
    · cases h
  · cases h

/-- An action of loop `i` moves loop `i` by `f` and no other loop. -/
theorem phaseOf_modify (hl : c.loops[i]? = some l) (j : Nat) :
    ({ c with loops := c.loops.modify i f } : Control).phaseOf j =
      if i = j then some (f l).phase else c.phaseOf j := by
  simp only [phaseOf]
  split
  · rename_i hij
    subst hij
    simp [hl]
  · rename_i hij
    rw [List.getElem?_modify_ne _ _ hij]

/-- Ending a loop's context moves no loop. -/
theorem phaseOf_cancelLoop {x : Option Nat} (h : c'.loops = cancelLoop c.loops x) (j : Nat) :
    c'.phaseOf j = c.phaseOf j := by
  cases x with
  | none => simp [phaseOf, h, cancelLoop]
  | some i =>
    simp only [phaseOf, h, cancelLoop, List.getElem?_modify]
    cases c.loops[j]? with
    | none => rfl
    | some l => by_cases h : i = j <;> simp [h]

/-- After an action of one loop that `f` keeps exited, an exited loop is still exited. -/
theorem loopStep_closed (h : c.loopStep i enabled f = some c')
    (hf : ∀ l, enabled l = true → l.phase = .exited → (f l).phase = .exited)
    (hj : c.phaseOf j = some .exited) : c'.phaseOf j = some .exited := by
  obtain ⟨l, hl, hen, rfl⟩ := loopStep_eq_some h
  rw [phaseOf_modify hl]
  split
  · rename_i hij
    subst hij
    simp only [phaseOf, hl, Option.map_some, Option.some.injEq] at hj
    rw [hf l hen hj]
  · exact hj

/-- After an action of one loop that brings no exited loop back, a live loop was live before. -/
theorem loopStep_live (h : c.loopStep i enabled f = some c')
    (hf : ∀ l, enabled l = true → (f l).phase ≠ .exited → l.phase ≠ .exited) {p : LoopPhase}
    (hj : c'.phaseOf j = some p) (hp : p ≠ .exited) :
    ∃ q, c.phaseOf j = some q ∧ q ≠ .exited := by
  obtain ⟨l, hl, hen, rfl⟩ := loopStep_eq_some h
  rw [phaseOf_modify hl] at hj
  split at hj
  · rename_i hij
    subst hij
    simp only [Option.some.injEq] at hj
    exact ⟨l.phase, by simp [phaseOf, hl], hf l hen (hj ▸ hp)⟩
  · exact ⟨p, hj, hp⟩

end Loops

/-- An exited loop stays exited, whatever happens: no step moves a loop out of `exited`. -/
theorem step_closed {c c' : Control} {e : Event} {j : Nat} (h : c.step e = some c')
    (hj : c.phaseOf j = some .exited) : c'.phaseOf j = some .exited := by
  cases e with
  | start =>
    simp only [step] at h
    split at h
    · cases h; exact hj
    · cases h
      rw [phaseOf_append rfl (phaseOf_lt hj)]
      exact hj
  | trigger => cases h; exact hj
  | stopTake => cases h; exact hj
  | stopCancel k =>
    simp only [step] at h
    split at h
    · split at h
      · cases h
        rw [phaseOf_cancelLoop rfl]
        exact hj
      · cases h
    · cases h
  | stopReturn k =>
    simp only [step] at h
    split at h
    · split at h
      · cases h; exact hj
      · cases h
    · cases h
  | wait =>
    simp only [step] at h
    split at h <;> (cases h; exact hj)
  | waitReturn k =>
    simp only [step] at h
    split at h
    · split at h
      · cases h; exact hj
      · cases h
    · cases h
  | contextEnds i => exact loopStep_closed h (fun _ _ hl => hl) hj
  | runBegins i => exact loopStep_closed h (fun l hen hl => by simp [hl] at hen) hj
  | runEnds i => exact loopStep_closed h (fun l hen hl => by simp [hl] at hen) hj
  | triggerTaken i =>
    simp only [step] at h
    split at h
    · simp only [Option.map_eq_some_iff] at h
      obtain ⟨c₁, h₁, rfl⟩ := h
      have h₁' := loopStep_closed h₁ (fun l hen hl => by simp [hl] at hen) hj
      exact h₁'
    · cases h
  | timerFires i => exact loopStep_closed h (fun l hen hl => by simp [hl] at hen) hj
  | loopReturns i => exact loopStep_closed h (fun _ _ _ => rfl) hj

/-- An exited loop is exited after any run of events, and so never runs again. -/
theorem run_closed {c c' : Control} {es : List Event} {j : Nat} (h : c.run es = some c')
    (hj : c.phaseOf j = some .exited) : c'.phaseOf j = some .exited := by
  induction es generalizing c with
  | nil => cases h; exact hj
  | cons e es ih =>
    simp only [Control.run, Option.bind_eq_some_iff] at h
    obtain ⟨c₁, h₁, h⟩ := h
    exact ih h (step_closed h₁ hj)

/-! ## Starts and stops one at a time -/

/-- The loop that may still be live: the one the done field holds, or the one the first `Stop`
in progress took. -/
def owner (c : Control) : Option Nat :=
  match c.stops with
  | [] => c.done
  | call :: _ => call.doneOf

/-- The invariant of starts and stops taken one at a time: the control fields name one loop; at
most one `Stop` is in progress, it began after the loops it may wait for, and while it is in
progress the fields are clear; and every live loop is the one the owner names. -/
structure Serial (c : Control) : Prop where
  fields : c.cancel = c.done
  oneStop : c.stops.length ≤ 1
  cleared : c.stops ≠ [] → c.done = none
  startedBefore : ∀ call ∈ c.stops, call.startedBefore ≤ c.loops.length
  owned : ∀ i p, c.phaseOf i = some p → p ≠ .exited → c.owner = some i

theorem Serial.init : Serial {} where
  fields := rfl
  oneStop := by simp
  cleared := by simp
  startedBefore := by simp
  owned := by simp [phaseOf]

/-- The one `Stop` in progress is the first. -/
theorem Serial.stops_eq {c : Control} (hc : Serial c) {k : Nat} {call : StopCall}
    (h : c.stops[k]? = some call) : k = 0 ∧ c.stops = [call] := by
  have hone := hc.oneStop
  rcases hs : c.stops with _ | ⟨first, _ | ⟨second, rest⟩⟩
  · simp [hs] at h
  · rw [hs] at h
    cases k with
    | zero => cases h; exact ⟨rfl, rfl⟩
    | succ k => simp at h
  · simp [hs] at hone

/-- A step that touches neither the fields, the loops nor the `Stop` calls keeps the invariant. -/
theorem Serial.of_eq {c c' : Control} (hc : Serial c) (hcancel : c'.cancel = c.cancel)
    (hdone : c'.done = c.done) (hloops : c'.loops = c.loops) (hstops : c'.stops = c.stops) :
    Serial c' := by
  have hphase : ∀ i, c'.phaseOf i = c.phaseOf i := fun i => by simp [phaseOf, hloops]
  have howner : c'.owner = c.owner := by simp [owner, hstops, hdone]
  refine ⟨by rw [hcancel, hdone]; exact hc.fields, hstops ▸ hc.oneStop,
    fun h => hdone ▸ hc.cleared (hstops ▸ h), ?_, ?_⟩
  · rw [hstops, hloops]; exact hc.startedBefore
  · intro i p hi hp
    rw [howner]
    exact hc.owned i p (hphase i ▸ hi) hp

/-- An action of one loop keeps the invariant when it brings no exited loop back. -/
theorem Serial.loopStep {c c' : Control} {i : Nat} {enabled : Loop → Bool} {f : Loop → Loop}
    (hc : Serial c) (h : c.loopStep i enabled f = some c')
    (hf : ∀ l, enabled l = true → (f l).phase ≠ .exited → l.phase ≠ .exited) : Serial c' := by
  have hlive := fun j p => loopStep_live (j := j) (p := p) h hf
  obtain ⟨_, _, _, rfl⟩ := loopStep_eq_some h
  refine ⟨hc.fields, hc.oneStop, hc.cleared, ?_, ?_⟩
  · simpa using hc.startedBefore
  · intro j p hj hp
    obtain ⟨q, hq, hq'⟩ := hlive j p hj hp
    exact hc.owned j q hq hq'

/-- Every step that starts and stops one at a time allow keeps the invariant. -/
theorem Serial.step {c c' : Control} {e : Event} (hc : Serial c)
    (hbegin : e.beginsCall = true → c.stops = []) (h : c.step e = some c') : Serial c' := by
  cases e with
  | start =>
    have hstops := hbegin rfl
    simp only [Control.step] at h
    split at h
    · cases h; exact hc
    · rename_i hcancel
      cases h
      have hdone : c.done = none := by
        rw [← hc.fields]; simpa using hcancel
      refine ⟨rfl, by simpa using hc.oneStop, by simp [hstops], by simp [hstops], ?_⟩
      intro j p hj hp
      simp only [owner, hstops]
      by_cases hlt : j < c.loops.length
      · have := hc.owned j p ((phaseOf_append rfl hlt).symm.trans hj) hp
        simp [owner, hstops, hdone] at this
      · have hle := Nat.le_of_not_lt hlt
        simp only [phaseOf, List.getElem?_append_right hle, List.getElem?_singleton] at hj
        split at hj
        · congr 1; omega
        · cases hj
  | trigger => exact hc.of_eq (by cases h; rfl) (by cases h; rfl) (by cases h; rfl) (by cases h; rfl)
  | stopTake =>
    have hstops := hbegin rfl
    cases h
    refine ⟨rfl, by simp [hstops], fun _ => rfl, by simp [hstops], ?_⟩
    intro j p hj hp
    have := hc.owned j p hj hp
    simpa [owner, hstops] using this
  | stopCancel k =>
    simp only [Control.step] at h
    split at h
    · rename_i call hcall
      split at h
      · cases h
        obtain ⟨rfl, hsplit⟩ := hc.stops_eq hcall
        have hlen : (cancelLoop c.loops call.cancelOf).length = c.loops.length := by
          cases call.cancelOf <;> simp [cancelLoop]
        refine ⟨hc.fields, by simp [hsplit], fun _ => hc.cleared (by simp [hsplit]), ?_, ?_⟩
        · intro call' hmem
          simp only [hsplit, List.set_cons_zero, List.mem_singleton] at hmem
          subst hmem
          rw [hlen]
          exact hc.startedBefore call (by simp [hsplit])
        · intro j p hj hp
          rw [phaseOf_cancelLoop rfl] at hj
          have := hc.owned j p hj hp
          simpa [owner, hsplit] using this
      · cases h
    · cases h
  | stopReturn k =>
    simp only [Control.step] at h
    split at h
    · rename_i call hcall
      split at h
      · rename_i hready
        cases h
        obtain ⟨rfl, hsplit⟩ := hc.stops_eq hcall
        refine ⟨hc.fields, by simp [hsplit], by simp [hsplit], by simp [hsplit], ?_⟩
        intro j p hj hp
        have howner := hc.owned j p hj hp
        simp only [owner, hsplit] at howner
        have hclosed := hready.2
        rw [howner, closed_iff] at hclosed
        exact absurd (Option.some.inj (hj.symm.trans hclosed)) hp
      · cases h
    · cases h
  | wait =>
    simp only [Control.step] at h
    split at h <;> (cases h; exact hc.of_eq rfl rfl rfl rfl)
  | waitReturn k =>
    simp only [Control.step] at h
    split at h
    · split at h
      · cases h; exact hc.of_eq rfl rfl rfl rfl
      · cases h
    · cases h
  | contextEnds i => exact hc.loopStep h fun _ _ hl => hl
  | runBegins i => exact hc.loopStep h fun l hen _ hl => by simp [hl] at hen
  | runEnds i => exact hc.loopStep h fun l hen _ hl => by simp [hl] at hen
  | triggerTaken i =>
    simp only [Control.step] at h
    split at h
    · simp only [Option.map_eq_some_iff] at h
      obtain ⟨c₁, h₁, rfl⟩ := h
      exact (hc.loopStep h₁ fun l hen _ hl => by simp [hl] at hen).of_eq rfl rfl rfl rfl
    · cases h
  | timerFires i => exact hc.loopStep h fun l hen _ hl => by simp [hl] at hen
  | loopReturns i => exact hc.loopStep h fun _ _ hf => absurd rfl hf

theorem SerialReachable.serial {c : Control} (h : SerialReachable c) : Serial c := by
  induction h with
  | init => exact Serial.init
  | step e _ hbegin hstep ih => exact ih.step hbegin hstep

/-- A `Stop` returns only once every loop has exited, when starts and stops come one at a time. -/
theorem Serial.closed_of_stopReturn {c c' : Control} {k : Nat} (hc : Serial c)
    (h : c.step (.stopReturn k) = some c') {i : Nat} (hi : i < c.loops.length) :
    c.phaseOf i = some .exited := by
  simp only [Control.step] at h
  split at h
  · rename_i call hcall
    split at h
    · rename_i hready
      obtain ⟨rfl, hsplit⟩ := hc.stops_eq hcall
      obtain ⟨p, hp⟩ : ∃ p, c.phaseOf i = some p := ⟨c.loops[i].phase, by simp [phaseOf, hi]⟩
      by_cases hlive : p = .exited
      · rw [hp, hlive]
      · -- a live loop is the one the `Stop` waited for, which has exited
        have howner := hc.owned i p hp hlive
        simp only [owner, hsplit] at howner
        have hclosed := hready.2
        rwa [howner, closed_iff] at hclosed
    · cases h
  · cases h

/-- With starts and stops one at a time, and anything else interleaved, no two runs of the job
overlap, and a `Stop` returns only when no loop started before it is running or will ever run
again. -/
theorem serial_stops_quiesce (c : Control) (h : SerialReachable c) :
    (∀ i j, c.running i = true → c.running j = true → i = j) ∧
    ∀ c' k call, c.stops[k]? = some call → c.step (.stopReturn k) = some c' →
      ∀ i < call.startedBefore, ∀ es c'', c'.run es = some c'' → c''.running i = false := by
  have hc := h.serial
  refine ⟨fun i j hi hj => ?_, fun c' k call hcall hstep i hi es c'' hrun => ?_⟩
  · -- a running loop is live, so the owner names it
    have live : ∀ n, c.running n = true → c.owner = some n := fun n hn =>
      hc.owned n .running ((running_iff c n).mp hn) (by decide)
    simpa using (live i hi).symm.trans (live j hj)
  · have hlen : i < c.loops.length :=
      Nat.lt_of_lt_of_le hi (hc.startedBefore call (List.mem_of_getElem? hcall))
    have hclosed := run_closed hrun (step_closed hstep (hc.closed_of_stopReturn hstep hlen))
    cases hr : c''.running i
    · rfl
    · rw [running_iff, hclosed] at hr
      cases hr

/-- One loop, stopped while it runs: its run ends, it returns, and then the `Stop` returns. -/
def stoppedWhileRunning : List Event :=
  [.start, .runBegins 0, .stopTake, .stopCancel 0, .runEnds 0, .loopReturns 0]

/-- After that `Stop` returns, the loop never runs again. -/
theorem stop_after_run_quiesces :
    ∃ c c', ({} : Control).run stoppedWhileRunning = some c ∧
      c.step (.stopReturn 0) = some c' ∧ ∀ es c'', c'.run es = some c'' → c''.running 0 = false := by
  have h₁ : SerialReachable { cancel := some 0, done := some 0, loops := [{}] } :=
    .step .start .init (fun _ => rfl) rfl
  have h₂ : SerialReachable { cancel := some 0, done := some 0, loops := [{ phase := .running }] } :=
    .step (.runBegins 0) h₁ (fun h => by cases h) rfl
  have h₃ : SerialReachable
      { loops := [{ phase := .running }], stops := [⟨some 0, some 0, 1, .cancelling⟩] } :=
    .step .stopTake h₂ (fun _ => rfl) rfl
  have h₄ : SerialReachable
      { loops := [{ phase := .running, cancelled := true }], stops := [⟨some 0, some 0, 1, .waiting⟩] } :=
    .step (.stopCancel 0) h₃ (fun h => by cases h) rfl
  have h₅ : SerialReachable
      { loops := [{ phase := .selecting, cancelled := true }],
        stops := [⟨some 0, some 0, 1, .waiting⟩] } :=
    .step (.runEnds 0) h₄ (fun h => by cases h) rfl
  have h₆ : SerialReachable
      { loops := [{ phase := .exited, cancelled := true }], stops := [⟨some 0, some 0, 1, .waiting⟩] } :=
    .step (.loopReturns 0) h₅ (fun h => by cases h) rfl
  refine ⟨_, _, rfl, rfl, ?_⟩
  exact (serial_stops_quiesce _ h₆).2 _ 0 _ rfl rfl 0 (by decide)

/-! ## Starts and stops inside the window -/

/-- No two loops are ever inside runs of the job at once. -/
def RunsExclusive : Prop :=
  ∀ c, Reachable c → ∀ i j, c.running i = true → c.running j = true → i = j

/-- Once a `Stop` returns, no loop started before it began is inside a run of the job or ever
starts one again. -/
def StopQuiesces : Prop :=
  ∀ c c' k call, Reachable c → c.stops[k]? = some call → c.step (.stopReturn k) = some c' →
    ∀ i < call.startedBefore, ∀ es c'', c'.run es = some c'' → c''.running i = false

/-- A `Start` in the window of a `Stop`: the first loop still runs, and a second one starts. -/
def startInWindow : List Event :=
  [.start, .runBegins 0, .stopTake, .start, .runBegins 1]

/-- A second `Stop` in the window of the first: it took nothing, so it may return at once. -/
def secondStopInWindow : List Event :=
  [.start, .runBegins 0, .stopTake, .stopTake, .stopCancel 1]

/-- Neither promise holds of every interleaving: after `startInWindow` loops 0 and 1 run at
once, and after `secondStopInWindow` the second `Stop` returns while loop 0, started before it,
is still running. -/
theorem stop_window_races : ¬ RunsExclusive ∧ ¬ StopQuiesces := by
  constructor
  · intro hex
    have hrun : ({} : Control).run startInWindow =
        some ((({} : Control).run startInWindow).getD {}) := rfl
    have := hex _ (Reachable.init.run hrun) 0 1 (by decide) (by decide)
    exact absurd this (by decide)
  · intro hq
    have hrun : ({} : Control).run secondStopInWindow =
        some ((({} : Control).run secondStopInWindow).getD {}) := rfl
    have := hq _ _ 1 ⟨none, none, 1, .waiting⟩ (Reachable.init.run hrun) rfl rfl 0 (by decide)
      [] _ rfl
    exact absurd this (by decide)

end Control

end DashboardHarness.Schedule

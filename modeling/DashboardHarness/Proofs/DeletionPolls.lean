import DashboardHarness.Proofs.Calls
import DashboardHarness.Deployment.Connections

/-!
# Waiting for deleted entries to leave the list

After a deletion the list is counted again and again until no entry of the generic engine is
left or the polls run out. The budget is the number of whole poll intervals in the action
timeout: the timeout divided by 250 ms, truncated toward zero, and none when that is negative.
A count that finds entries while budget is left is followed by a pause of one interval and
another count. So a wait is a run of rounds, each a count that found entries and a pause,
followed by one last count, which is the answer: the first count that finds nothing, or the
count made once the budget is spent. A count or a pause that fails ends the wait with its
failure, and nothing else does.

`Polled target p cs q` says the rounds: from page `p` the counts `cs`, each followed by a pause
that passed, leaving page `q`. `PollEnding` says how the last round goes.

Main results:

- `waitForNoMatches_run_iff`: every wait is rounds that found entries within the budget, then
  a last round, and every such sequence is the wait.
- `waitForNoMatches_eq_ok_iff`, `waitForNoMatches_eq_error_iff`: the wait answers the last
  count, zero or made with the budget spent, and fails only at a count or at a pause it went on
  to.
- `deleteFirst_eq`: deleting is the dialog, then the wait, then the check of the last count.
- `deletion_waits_for_last_count`: the wait and what deleting makes of its answer, together.
-/

namespace DashboardHarness.Deployment

open Browse Page

/-- Rounds of the wait from page `p`: the counts `cs` in turn, each followed by a pause of one
poll interval that passed, leaving page `q`. -/
inductive Polled (target : Selector) : Page → List Int → Page → Prop where
  | nil (p : Page) : Polled target p [] p
  | cons {p p₁ p₂ q : Page} {c : Int} {cs : List Int} :
      (Page.count target).run p = (.ok c, p₁) →
      (Page.sleep pollInterval).run p₁ = (.ok (), p₂) →
      Polled target p₂ cs q → Polled target p (c :: cs) q

/-- How the last round of a wait goes from page `p` with `m` pauses of budget left: its count is
the answer when it finds nothing or no budget is left; otherwise the count fails, or the pause
after a count that found entries fails. -/
inductive PollEnding (target : Selector) : Nat → Page → Except Failure Int → Page → Prop where
  | counted {m : Nat} {p q : Page} {c : Int} :
      (Page.count target).run p = (.ok c, q) → (c = 0 ∨ m = 0) →
      PollEnding target m p (.ok c) q
  | countFails {m : Nat} {p q : Page} {e : Failure} :
      (Page.count target).run p = (.error e, q) → PollEnding target m p (.error e) q
  | pauseFails {m : Nat} {p p₁ q : Page} {c : Int} {e : Failure} :
      (Page.count target).run p = (.ok c, p₁) → c ≠ 0 →
      (Page.sleep pollInterval).run p₁ = (.error e, q) →
      PollEnding target (m + 1) p (.error e) q

variable {target : Selector} {polls : Int}

/-! ## One round -/

/-- The wait with budget left: a count, then the answer, or a pause and the rest of the wait. -/
theorem waitForNoMatches_succ_run (n poll : Nat) (p : Page) :
    (waitForNoMatches target polls (n + 1) poll).run p =
      match (Page.count target).run p with
      | (.error e, p₁) => (.error e, p₁)
      | (.ok c, p₁) =>
        if c = 0 ∨ (poll : Int) ≥ polls then (.ok c, p₁)
        else
          match (Page.sleep pollInterval).run p₁ with
          | (.error e, p₂) => (.error e, p₂)
          | (.ok (), p₂) => (waitForNoMatches target polls n (poll + 1)).run p₂ := by
  rw [waitForNoMatches, run_bind]
  rcases (Page.count target).run p with ⟨e | c, p₁⟩
  · rfl
  · by_cases hstop : c = 0 ∨ (poll : Int) ≥ polls
    · simp only [hstop, if_true]
      rfl
    · simp only [hstop, if_false]
      rw [run_bind]
      rcases (Page.sleep pollInterval).run p₁ with ⟨e | u, p₂⟩ <;> rfl

/-- With the budget counted from the poll number, a poll with budget left is below the number
of polls. -/
theorem poll_lt_of_budget {n poll : Nat} (hbudget : poll + (n + 1) = polls.toNat) :
    ¬ (poll : Int) ≥ polls := by
  omega

/-- A wait with no budget left is its count. -/
theorem waitForNoMatches_zero_run (poll : Nat) (p : Page) :
    (waitForNoMatches target polls 0 poll).run p = (Page.count target).run p :=
  rfl

/-! ## The whole wait -/

/-- A wait is the rounds that found entries within the budget and then a last round, and every
such sequence is the wait. The budget is counted from the poll number, as the loop counts its
polls. -/
theorem waitForNoMatches_run_iff {n poll : Nat} (hbudget : poll + n = polls.toNat) (p : Page)
    (r : Except Failure Int) (q : Page) :
    (waitForNoMatches target polls n poll).run p = (r, q) ↔
      ∃ cs p₁, Polled target p cs p₁ ∧ (∀ c ∈ cs, c ≠ 0) ∧ cs.length ≤ n ∧
        PollEnding target (n - cs.length) p₁ r q := by
  induction n generalizing poll p with
  | zero =>
    rw [waitForNoMatches_zero_run]
    constructor
    · intro h
      refine ⟨[], p, .nil p, by simp, Nat.le_refl 0, ?_⟩
      rcases hcount : (Page.count target).run p with ⟨e | c, q'⟩
      · rw [hcount] at h
        cases h
        exact .countFails hcount
      · rw [hcount] at h
        cases h
        exact .counted hcount (.inr rfl)
    · rintro ⟨cs, p₁, hpolled, -, hlen, hend⟩
      obtain rfl : cs = [] := List.eq_nil_of_length_eq_zero (Nat.le_zero.1 hlen)
      cases hpolled
      cases hend with
      | counted hcount _ => exact hcount
      | countFails hcount => exact hcount
  | succ n ih =>
    have hgo := poll_lt_of_budget hbudget
    have hrest : (poll + 1) + n = polls.toNat := by omega
    rw [waitForNoMatches_succ_run]
    constructor
    · intro h
      rcases hcount : (Page.count target).run p with ⟨e | c, p₁⟩
      · rw [hcount] at h
        cases h
        exact ⟨[], p, .nil p, by simp, Nat.zero_le _, .countFails hcount⟩
      · rw [hcount] at h
        by_cases hzero : c = 0
        · subst hzero
          simp only [true_or, if_true] at h
          cases h
          exact ⟨[], p, .nil p, by simp, Nat.zero_le _, .counted hcount (.inl rfl)⟩
        · simp only [hzero, hgo, or_self, if_false] at h
          rcases hsleep : (Page.sleep pollInterval).run p₁ with ⟨e | u, p₂⟩
          · rw [hsleep] at h
            cases h
            exact ⟨[], p, .nil p, by simp, Nat.zero_le _, .pauseFails hcount hzero hsleep⟩
          · rw [hsleep] at h
            obtain ⟨cs, p₃, hpolled, hfound, hlen, hend⟩ := (ih hrest p₂).1 h
            refine ⟨c :: cs, p₃, .cons hcount hsleep hpolled, ?_, by simpa using hlen, ?_⟩
            · simpa [hzero] using hfound
            · simpa using hend
    · rintro ⟨cs, p₁, hpolled, hfound, hlen, hend⟩
      cases hpolled with
      | nil =>
        cases hend with
        | counted hcount hstop =>
          simp only [List.length_nil, Nat.sub_zero, Nat.add_one_ne_zero, or_false] at hstop
          subst hstop
          rw [hcount]
          simp
        | countFails hcount =>
          rw [hcount]
        | pauseFails hcount hzero hsleep =>
          rw [hcount]
          simp only [hzero, hgo, or_self, if_false]
          rw [hsleep]
      | @cons _ p₂ p₃ _ c cs' hcount hsleep hrounds =>
        have hzero : c ≠ 0 := hfound c List.mem_cons_self
        rw [hcount]
        simp only [hzero, hgo, or_self, if_false]
        rw [hsleep]
        refine (ih hrest p₃).2 ⟨cs', p₁, hrounds, fun x hx => hfound x (List.mem_cons_of_mem c hx),
          by simpa using hlen, by simpa using hend⟩

/-- The wait answers a count exactly when the rounds before it found entries within the budget
and that count finds nothing or is made with the budget spent. -/
theorem waitForNoMatches_eq_ok_iff {n poll : Nat} (hbudget : poll + n = polls.toNat) (p q : Page)
    (c : Int) :
    (waitForNoMatches target polls n poll).run p = (.ok c, q) ↔
      ∃ cs p₁, Polled target p cs p₁ ∧ (∀ x ∈ cs, x ≠ 0) ∧ cs.length ≤ n ∧
        (Page.count target).run p₁ = (.ok c, q) ∧ (c = 0 ∨ cs.length = n) := by
  rw [waitForNoMatches_run_iff hbudget]
  constructor
  · rintro ⟨cs, p₁, hpolled, hfound, hlen, hend⟩
    generalize hm : n - cs.length = m at hend
    cases hend with
    | counted hcount hstop => exact ⟨cs, p₁, hpolled, hfound, hlen, hcount, by omega⟩
  · rintro ⟨cs, p₁, hpolled, hfound, hlen, hcount, hstop⟩
    exact ⟨cs, p₁, hpolled, hfound, hlen, .counted hcount (by omega)⟩

/-- The wait fails exactly at a count after rounds that found entries within the budget, or at
the pause after a count that found entries while budget was left. -/
theorem waitForNoMatches_eq_error_iff {n poll : Nat} (hbudget : poll + n = polls.toNat)
    (p q : Page) (e : Failure) :
    (waitForNoMatches target polls n poll).run p = (.error e, q) ↔
      ∃ cs p₁, Polled target p cs p₁ ∧ (∀ x ∈ cs, x ≠ 0) ∧ cs.length ≤ n ∧
        ((Page.count target).run p₁ = (.error e, q) ∨
          ∃ c p₂, (Page.count target).run p₁ = (.ok c, p₂) ∧ c ≠ 0 ∧ cs.length < n ∧
            (Page.sleep pollInterval).run p₂ = (.error e, q)) := by
  rw [waitForNoMatches_run_iff hbudget]
  constructor
  · rintro ⟨cs, p₁, hpolled, hfound, hlen, hend⟩
    refine ⟨cs, p₁, hpolled, hfound, hlen, ?_⟩
    generalize hm : n - cs.length = m at hend
    cases hend with
    | countFails hcount => exact .inl hcount
    | @pauseFails m' _ p₂ _ c _ hcount hzero hsleep =>
      have hleft : cs.length < n := by omega
      exact .inr ⟨c, p₂, hcount, hzero, hleft, hsleep⟩
  · rintro ⟨cs, p₁, hpolled, hfound, hlen, hcount | ⟨c, p₂, hcount, hzero, hleft, hsleep⟩⟩
    · exact ⟨cs, p₁, hpolled, hfound, hlen, .countFails hcount⟩
    · have hm : n - cs.length = (n - cs.length - 1) + 1 := by omega
      refine ⟨cs, p₁, hpolled, hfound, hlen, ?_⟩
      rw [hm]
      exact .pauseFails hcount hzero hsleep

/-! ## Deleting -/

/-- The dialog part of deleting the first entry of a list: open the list, open the dialog,
type the keyword, confirm, and wait for the notice. -/
def deleteDialog (s : Settings) (path dialogTitle : String) : Browse Unit := do
  openPage s path
  stage "open delete dialog" (click trashIcon {})
  settle
  stage "wait for delete dialog" (waitVisible (.ofText dialogTitle))
  stage "confirm deletion keyword" (fill deleteConfirmationField "DELETE")
  stage "confirm deletion" (click deleteButton {})
  settle
  stage "wait for deletion notice" (waitVisible deletedNotification)

/-- Deleting is the dialog, then the wait with the budget of the action timeout, then the check
that the last count found nothing. -/
theorem deleteFirst_eq (s : Settings) (path dialogTitle : String) :
    deleteFirst s path dialogTitle =
      deleteDialog s path dialogTitle >>= fun _ =>
        waitForNoMatches otherEngineLabel (pollCount s) (pollCount s).toNat 0 >>= fun remaining =>
          if remaining ≠ 0 then
            throw (.detail .deletionIncomplete
              (toString remaining ++ " \"Other\" entries still listed"))
          else pure () := by
  simp only [deleteFirst, deleteDialog, bind_assoc]

/-- Once the dialog passed and the wait answered its last count, deleting succeeds when that
count is zero and otherwise fails with the count in its message. -/
theorem deleteFirst_run_of_wait {s : Settings} {path dialogTitle : String} {p p₁ q : Page}
    {c : Int} (hdialog : (deleteDialog s path dialogTitle).run p = (.ok (), p₁))
    (hwait : (waitForNoMatches otherEngineLabel (pollCount s) (pollCount s).toNat 0).run p₁ =
      (.ok c, q)) :
    (deleteFirst s path dialogTitle).run p =
      (if c = 0 then .ok ()
        else .error (.detail .deletionIncomplete
          (toString c ++ " \"Other\" entries still listed")), q) := by
  rw [deleteFirst_eq, run_bind_ok hdialog, run_bind_ok hwait]
  by_cases hzero : c = 0 <;> simp [hzero]

/-- Deleting succeeds only after the dialog passed and the wait answered a count of zero. -/
theorem deleteFirst_eq_ok {s : Settings} {path dialogTitle : String} {p q : Page}
    (h : (deleteFirst s path dialogTitle).run p = (.ok (), q)) :
    ∃ p₁, (deleteDialog s path dialogTitle).run p = (.ok (), p₁) ∧
      (waitForNoMatches otherEngineLabel (pollCount s) (pollCount s).toNat 0).run p₁ =
        (.ok 0, q) := by
  rw [deleteFirst_eq] at h
  obtain ⟨_, p₁, hdialog, h⟩ := run_bind_eq_ok h
  obtain ⟨c, p₂, hwait, hcheck⟩ := run_bind_eq_ok h
  by_cases hzero : c = 0
  · subst hzero
    simp only [ne_eq, not_true_eq_false, if_false, run_pure] at hcheck
    cases hcheck
    exact ⟨p₁, hdialog, hwait⟩
  · simp only [ne_eq, hzero, not_false_eq_true, if_true, run_throw] at hcheck
    cases hcheck

/-- Waiting for deleted entries to leave the list, for any page and any action timeout: with the
budget the timeout divided by the poll interval, truncated and at least zero, the wait answers a
count exactly after rounds that found entries within the budget, that count being zero or made
with the budget spent; it fails only at a count, or at a pause after a count that called for
another round. Once the dialog passed, deleting then fails with the last count in its message
exactly when that count is not zero, and it succeeds only after a count of zero. -/
theorem deletion_waits_for_last_count (s : Settings) (path dialogTitle : String) (p : Page) :
    let budget := (s.actionTimeout.tdiv pollInterval).toNat
    let wait := waitForNoMatches otherEngineLabel (pollCount s) (pollCount s).toNat 0
    (∀ c q, wait.run p = (.ok c, q) ↔
      ∃ cs p₁, Polled otherEngineLabel p cs p₁ ∧ (∀ x ∈ cs, x ≠ 0) ∧ cs.length ≤ budget ∧
        (Page.count otherEngineLabel).run p₁ = (.ok c, q) ∧ (c = 0 ∨ cs.length = budget)) ∧
    (∀ e q, wait.run p = (.error e, q) ↔
      ∃ cs p₁, Polled otherEngineLabel p cs p₁ ∧ (∀ x ∈ cs, x ≠ 0) ∧ cs.length ≤ budget ∧
        ((Page.count otherEngineLabel).run p₁ = (.error e, q) ∨
          ∃ c p₂, (Page.count otherEngineLabel).run p₁ = (.ok c, p₂) ∧ c ≠ 0 ∧
            cs.length < budget ∧ (Page.sleep pollInterval).run p₂ = (.error e, q))) ∧
    (∀ p₁ c q, (deleteDialog s path dialogTitle).run p = (.ok (), p₁) →
      wait.run p₁ = (.ok c, q) →
      (deleteFirst s path dialogTitle).run p =
        (if c = 0 then .ok ()
          else .error (.detail .deletionIncomplete
            (toString c ++ " \"Other\" entries still listed")), q)) ∧
    (∀ q, (deleteFirst s path dialogTitle).run p = (.ok (), q) →
      ∃ p₁, (deleteDialog s path dialogTitle).run p = (.ok (), p₁) ∧ wait.run p₁ = (.ok 0, q)) := by
  intro budget wait
  have hbudget : 0 + budget = (pollCount s).toNat := by simp [budget, pollCount]
  exact ⟨fun c q => waitForNoMatches_eq_ok_iff hbudget p q c,
    fun e q => waitForNoMatches_eq_error_iff hbudget p q e,
    fun _ _ _ hdialog hwait => deleteFirst_run_of_wait hdialog hwait,
    fun _ h => deleteFirst_eq_ok h⟩

end DashboardHarness.Deployment

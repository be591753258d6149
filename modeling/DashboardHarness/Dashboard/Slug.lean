import DashboardHarness.Text.Blank
import DashboardHarness.Text.Case

/-!
# Dashboard slugs

The URL slug of a dashboard title. The title is trimmed and lowered, and one pass over its
characters builds the slug: an ASCII small letter or digit is written, anything else owes a
hyphen once something has been written, and the hyphen owed is written before the next letter or
digit. So the slug is the maximal runs of letters and digits joined with single hyphens: it never
starts or ends with a hyphen and never holds two in a row.

Main results:

- `SlugBuilder.Holds.foldl`: the invariant of the pass; from a state that holds some runs, the
  pass writes the runs that follow, joined with hyphens.
- `slugOfTitle_eq_intercalate`: the slug is the runs of the trimmed, lowered title joined with
  hyphens.
- `slugRuns_ne_nil`, `slugRuns_all`: every run is non-empty and made of slug characters.
-/

namespace DashboardHarness.Dashboard

/-- The characters a slug keeps: ASCII small letters and digits. -/
def isSlugChar (c : Char) : Bool :=
  ('a' ≤ c && c ≤ 'z') || ('0' ≤ c && c ≤ '9')

/-- The maximal runs of slug characters, the current run kept reversed in `current`. -/
def slugRunsFrom : List Char → List Char → List (List Char)
  | [], current => if current = [] then [] else [current.reverse]
  | c :: cs, current =>
    if isSlugChar c then slugRunsFrom cs (c :: current)
    else if current = [] then slugRunsFrom cs []
    else current.reverse :: slugRunsFrom cs []

/-- The maximal runs of slug characters, in order. -/
def slugRuns (cs : List Char) : List (List Char) :=
  slugRunsFrom cs []

/-- The state of the slug pass: the slug written so far, and whether a hyphen is owed before the
next slug character. -/
structure SlugBuilder where
  /-- The slug written so far. -/
  built : String
  /-- Whether a character the slug drops came after something was written. -/
  pendingSeparator : Bool

/-- One character of the slug pass. A character the slug drops owes a hyphen when something has
been written; a slug character pays the hyphen owed, then is written. -/
def SlugBuilder.step (b : SlugBuilder) (c : Char) : SlugBuilder :=
  if isSlugChar c then
    ⟨(if b.pendingSeparator then b.built.push '-' else b.built).push c, false⟩
  else ⟨b.built, decide (0 < b.built.utf8ByteSize)⟩

/-- The slug of a title: one pass over the characters of its trimmed, lowered text. -/
def slugOfTitle (title : String) : String :=
  ((Text.lower (Text.trimBlank title)).toList.foldl SlugBuilder.step ⟨"", false⟩).built

theorem slugRunsFrom_ne_nil (cs current : List Char) :
    ∀ r ∈ slugRunsFrom cs current, r ≠ [] := by
  induction cs generalizing current with
  | nil =>
    intro r hr
    by_cases h : current = [] <;> simp_all [slugRunsFrom]
  | cons c cs ih =>
    intro r hr
    unfold slugRunsFrom at hr
    split at hr
    · exact ih _ r hr
    · split at hr
      · exact ih _ r hr
      · rcases List.mem_cons.mp hr with h | h
        · subst h; simpa
        · exact ih _ r h

theorem slugRuns_ne_nil (cs : List Char) : ∀ r ∈ slugRuns cs, r ≠ [] :=
  slugRunsFrom_ne_nil cs []

theorem slugRunsFrom_all (cs current : List Char) (hc : ∀ c ∈ current, isSlugChar c) :
    ∀ r ∈ slugRunsFrom cs current, ∀ c ∈ r, isSlugChar c := by
  induction cs generalizing current with
  | nil =>
    intro r hr
    by_cases h : current = [] <;> simp_all [slugRunsFrom]
  | cons d cs ih =>
    intro r hr
    unfold slugRunsFrom at hr
    split at hr
    · rename_i hd
      exact ih _ (by intro c hm; rcases List.mem_cons.mp hm with h | h <;> simp_all) r hr
    · split at hr
      · exact ih _ (by simp) r hr
      · rcases List.mem_cons.mp hr with h | h
        · subst h; intro c hm; exact hc c (List.mem_reverse.mp hm)
        · exact ih _ (by simp) r h

theorem slugRuns_all (cs : List Char) : ∀ r ∈ slugRuns cs, ∀ c ∈ r, isSlugChar c :=
  slugRunsFrom_all cs [] (by simp)

/-! ## The slug pass -/

section Intercalate

variable {α : Type} {sep r : List α} {rs : List (List α)}

theorem intercalate_append_singleton (h : rs ≠ []) :
    sep.intercalate (rs ++ [r]) = sep.intercalate rs ++ sep ++ r := by
  induction rs with
  | nil => exact absurd rfl h
  | cons x rs ih =>
    cases rs with
    | nil => simp
    | cons y rs =>
      rw [List.cons_append, List.intercalate_cons_of_ne_nil (by simp), ih (by simp),
        List.intercalate_cons_cons]
      simp

theorem intercalate_append_last (s : List α) :
    sep.intercalate (rs ++ [r ++ s]) = sep.intercalate (rs ++ [r]) ++ s := by
  by_cases h : rs = []
  · simp [h]
  · simp [intercalate_append_singleton h]

theorem intercalate_eq_nil_iff (h : ∀ r ∈ rs, r ≠ []) : sep.intercalate rs = [] ↔ rs = [] := by
  cases rs with
  | nil => simp
  | cons x rs =>
    have hx : x ≠ [] := h x (by simp)
    cases rs with
    | nil => simpa using hx
    | cons y rs => simp [hx]

end Intercalate

namespace SlugBuilder

/-- The pass holds `b` once it has written the runs `done` and read `current`, the start of the
next run, reversed: the slug written is the runs read so far joined with hyphens, and a hyphen is
owed exactly when the last character read closed a run. -/
structure Holds (done : List (List Char)) (current : List Char) (b : SlugBuilder) : Prop where
  built : b.built.toList = ['-'].intercalate (if current = [] then done else done ++ [current.reverse])
  pending : b.pendingSeparator = true ↔ current = [] ∧ done ≠ []
  runs : ∀ r ∈ done, r ≠ []

theorem holds_start : Holds [] [] ⟨"", false⟩ :=
  ⟨by simp, by simp, by simp⟩

variable {done : List (List Char)} {current : List Char} {b : SlugBuilder} {c : Char}

theorem written_iff {s : String} : 0 < s.utf8ByteSize ↔ s.toList ≠ [] := by
  simp [Nat.pos_iff_ne_zero, String.utf8ByteSize_eq_zero_iff, String.toList_eq_nil_iff]

/-- A slug character extends the current run. -/
theorem Holds.step_keep (h : Holds done current b) (hc : isSlugChar c = true) :
    Holds done (c :: current) (b.step c) := by
  refine ⟨?_, by simp [step, hc], h.runs⟩
  have hbuilt := h.built
  by_cases hcur : current = []
  · subst hcur
    by_cases hdone : done = []
    · have hp : b.pendingSeparator = false := by simpa [hdone] using h.pending
      simp_all [step]
    · have hp : b.pendingSeparator = true := h.pending.mpr ⟨rfl, hdone⟩
      simp_all [step, intercalate_append_singleton hdone]
  · have hp : b.pendingSeparator = false := by simpa [hcur] using h.pending
    simp_all [step, intercalate_append_last]

/-- A dropped character keeps what was written, and a hyphen is owed when something was: the
pass then holds the runs written, with no current run. -/
theorem holds_drop {runs : List (List Char)} (hbuilt : b.built.toList = ['-'].intercalate runs)
    (hruns : ∀ r ∈ runs, r ≠ []) (hc : isSlugChar c = false) : Holds runs [] (b.step c) := by
  refine ⟨by simpa [step, hc] using hbuilt, ?_, hruns⟩
  simp [step, hc, written_iff, hbuilt, intercalate_eq_nil_iff hruns]

/-- A dropped character outside a run changes nothing but the hyphen owed. -/
theorem Holds.step_skip (h : Holds done [] b) (hc : isSlugChar c = false) :
    Holds done [] (b.step c) :=
  holds_drop (by simpa using h.built) h.runs hc

/-- A dropped character closes the current run. -/
theorem Holds.step_close (h : Holds done current b) (hc : isSlugChar c = false)
    (hcur : current ≠ []) : Holds (done ++ [current.reverse]) [] (b.step c) := by
  have hbuilt : b.built.toList = ['-'].intercalate (done ++ [current.reverse]) := by
    simpa [hcur] using h.built
  have hruns : ∀ r ∈ done ++ [current.reverse], r ≠ [] := by
    intro r hr
    rcases List.mem_append.mp hr with hr | hr
    · exact h.runs r hr
    · simpa [List.mem_singleton.mp hr] using hcur
  exact holds_drop hbuilt hruns hc

/-- The run of the pass: from a state that holds `done` and `current`, the pass over `cs` writes
the runs that `slugRunsFrom` reads from `cs` after `done`. The induction follows
`slugRunsFrom`, one step lemma for each of its branches. -/
theorem Holds.foldl (h : Holds done current b) (cs : List Char) :
    (cs.foldl step b).built.toList = ['-'].intercalate (done ++ slugRunsFrom cs current) := by
  induction cs generalizing done current b with
  | nil =>
    by_cases hcur : current = [] <;> simp [slugRunsFrom, hcur, h.built]
  | cons c cs ih =>
    rw [List.foldl_cons, slugRunsFrom]
    by_cases hc : isSlugChar c = true
    · rw [if_pos hc]
      exact ih (h.step_keep hc)
    · have hc : isSlugChar c = false := by simpa using hc
      by_cases hcur : current = []
      · subst hcur
        simpa [hc] using ih (h.step_skip hc)
      · rw [if_neg (by simp [hc]), if_neg hcur, List.append_cons]
        exact ih (h.step_close hc hcur)

end SlugBuilder

theorem slugOfTitle_eq_intercalate (title : String) :
    slugOfTitle title =
      "-".intercalate ((slugRuns (Text.lower (Text.trimBlank title)).toList).map String.ofList) := by
  apply String.toList_injective
  rw [slugOfTitle, SlugBuilder.holds_start.foldl, String.toList_intercalate]
  simp [slugRuns, Function.comp_def, String.toList_ofList]

end DashboardHarness.Dashboard

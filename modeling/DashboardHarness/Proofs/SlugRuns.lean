import DashboardHarness.Dashboard.Slug

/-!
# Slugs are the runs of the lowered title

The slug of a title is read off the title lowered as a whole: its maximal runs of ASCII small
letters and digits, joined with single hyphens. The runs are the pieces that the other characters
cut the text into (`List.splitOnP`), the empty pieces left out. Trimming the title first changes
nothing, because a blank lowers to a blank, which cuts like any other character.

Lowering goes one character to one character. Of the characters outside ASCII only U+212A (Kelvin
sign) and U+0130 (capital I with dot above) lower into a slug character, the latter to a plain
`i` with no dot after it; so `İa` has the single run `ia`.

Main results:

- `slugOfTitle_eq_runs`: the slug is the runs of the lowered title, joined with hyphens.
- `slugOfTitle_shape`: a slug is empty or runs of slug characters joined by single hyphens.
- `slugOfTitle_slugOfTitle`: the slug of a slug is itself.
- `slugOfTitle_filter_dash`: without its hyphens, the slug is the slug characters of the lowered
  title, in order.
-/

namespace DashboardHarness.Dashboard

open Text

/-- The maximal runs of slug characters: the pieces between the other characters, the empty
pieces left out. -/
def alnumRuns (cs : List Char) : List (List Char) :=
  (cs.splitOnP fun c => !isSlugChar c).filter fun r => !r.isEmpty

/-- The texts of the slug form: nothing, or runs of slug characters joined by single hyphens. -/
def SlugShape (cs : List Char) : Prop :=
  ∃ runs : List (List Char), (∀ r ∈ runs, r ≠ [] ∧ ∀ c ∈ r, isSlugChar c) ∧
    cs = ['-'].intercalate runs

/-! ## The runs as pieces between separators -/

/-- The scan of `slugRunsFrom` is the split at the other characters with the current run put in
front of the first piece. -/
theorem slugRunsFrom_eq_split (cs current : List Char) :
    slugRunsFrom cs current =
      (List.splitOnPPrepend (fun c => !isSlugChar c) cs current).filter fun r => !r.isEmpty := by
  induction cs generalizing current with
  | nil => by_cases h : current = [] <;> simp [slugRunsFrom, h]
  | cons c cs ih =>
    rw [List.splitOnPPrepend_cons_eq_if]
    by_cases hc : isSlugChar c
    · simp [slugRunsFrom, hc, ih]
    · -- a separator closes the current run, which is kept only when it is not empty
      by_cases h : current = []
      · simp [slugRunsFrom, hc, h, ih]
      · simp [slugRunsFrom, hc, h, ih]

theorem slugRuns_eq_alnumRuns (cs : List Char) : slugRuns cs = alnumRuns cs :=
  slugRunsFrom_eq_split cs []

theorem alnumRuns_nil : alnumRuns [] = [] := rfl

/-- A separator in front adds no run. -/
theorem alnumRuns_cons_sep {c : Char} (hc : isSlugChar c = false) (cs : List Char) :
    alnumRuns (c :: cs) = alnumRuns cs := by
  simp [alnumRuns, List.splitOnP_cons_eq_if_modifyHead, hc]

theorem alnumRuns_seps_append {xs : List Char} (hxs : ∀ c ∈ xs, isSlugChar c = false)
    (ys : List Char) : alnumRuns (xs ++ ys) = alnumRuns ys := by
  induction xs with
  | nil => rfl
  | cons x xs ih =>
    rw [List.cons_append, alnumRuns_cons_sep (hxs x List.mem_cons_self)]
    exact ih fun c hc => hxs c (List.mem_cons_of_mem x hc)

/-- Separators behind add no run. -/
theorem alnumRuns_append_seps (xs : List Char) {ys : List Char}
    (hys : ∀ c ∈ ys, isSlugChar c = false) : alnumRuns (xs ++ ys) = alnumRuns xs := by
  cases ys with
  | nil => rw [List.append_nil]
  | cons y ys =>
    have hy : (!isSlugChar y) = true := by simp [hys y List.mem_cons_self]
    have hrest : alnumRuns ys = [] := by
      have h := alnumRuns_seps_append (fun c hc => hys c (List.mem_cons_of_mem y hc)) []
      rwa [List.append_nil, alnumRuns_nil] at h
    unfold alnumRuns at hrest ⊢
    rw [List.splitOnP_append_cons xs ys hy, List.filter_append, hrest, List.append_nil]

/-- Joined runs of slug characters split back into those runs. -/
theorem alnumRuns_intercalate {runs : List (List Char)}
    (hruns : ∀ r ∈ runs, r ≠ [] ∧ ∀ c ∈ r, isSlugChar c) :
    alnumRuns (['-'].intercalate runs) = runs := by
  have hsplit : ∀ rs : List (List Char), rs ≠ [] → (∀ r ∈ rs, ∀ c ∈ r, isSlugChar c) →
      (['-'].intercalate rs).splitOnP (fun c => !isSlugChar c) = rs := by
    intro rs hne hall
    induction rs with
    | nil => exact absurd rfl hne
    | cons r rest ih =>
      have hr : ∀ c ∈ r, (!isSlugChar c) = false := by simpa using hall r List.mem_cons_self
      cases rest with
      | nil => simpa using List.splitOnP_eq_singleton hr
      | cons r' rest' =>
        rw [List.intercalate_cons_cons, List.append_assoc, List.singleton_append,
          List.splitOnP_append_cons r _ (by decide), List.splitOnP_eq_singleton hr,
          ih (List.cons_ne_nil r' rest') fun q hq => hall q (List.mem_cons_of_mem r hq)]
        rfl
  cases runs with
  | nil => rfl
  | cons r rest =>
    unfold alnumRuns
    rw [hsplit _ (List.cons_ne_nil r rest) fun q hq => (hruns q hq).2, List.filter_eq_self]
    intro q hq
    simpa [List.isEmpty_iff] using (hruns q hq).1

/-- Together the runs hold the slug characters of the text, in order. -/
theorem flatten_alnumRuns (cs : List Char) : (alnumRuns cs).flatten = cs.filter isSlugChar := by
  unfold alnumRuns
  rw [List.flatten_filter_not_isEmpty]
  induction cs with
  | nil => rfl
  | cons c cs ih =>
    rw [List.splitOnP_cons_eq_if_modifyHead]
    by_cases hc : isSlugChar c
    · -- the character joins the first piece
      obtain ⟨first, rest, hpieces⟩ := List.exists_cons_of_ne_nil
        (List.splitOnP_ne_nil (fun c => !isSlugChar c) cs)
      rw [hpieces] at ih
      simp [hc, hpieces, ← ih]
    · simp [hc, ih]

/-! ## Lowering and blanks -/

/-- A code point that no run of the case table covers, beyond ASCII, lowers to itself. -/
theorem lowerCode_of_gap {lo hi n : Nat}
    (hgap : caseRuns.all (fun r => r.last < lo || hi < r.first) = true)
    (hascii : 0x80 ≤ n) (hlo : lo ≤ n) (hhi : n ≤ hi) : lowerCode n = n := by
  have hnone : caseRuns.find? (fun r => r.first ≤ n && n ≤ r.last) = none := by
    rw [List.find?_eq_none]
    intro r hr
    have hout := List.all_eq_true.mp hgap r hr
    simp only [Bool.or_eq_true, decide_eq_true_eq] at hout
    simp only [Bool.and_eq_true, decide_eq_true_eq, not_and, Nat.not_le]
    omega
  simp [lowerCode, Nat.not_lt.mpr hascii, hnone]

theorem lowerChar_of_lowerCode {c : Char} (h : lowerCode c.toNat = c.toNat) : lowerChar c = c := by
  show (if (lowerCode c.toNat).isValidChar then Char.ofNat (lowerCode c.toNat) else c) = c
  rw [h]
  split <;> simp

/-- Lowering keeps every blank where it is. -/
theorem lowerChar_blank {c : Char} (hc : isBlank c = true) : lowerChar c = c := by
  apply lowerChar_of_lowerCode
  simp only [isBlank, Bool.or_eq_true, Bool.and_eq_true, decide_eq_true_eq, beq_iff_eq] at hc
  have hlatin : caseRuns.all (fun r => r.last < 0x80 || 0xBF < r.first) = true := by decide
  have hogham : caseRuns.all (fun r => r.last < 0x1680 || 0x1680 < r.first) = true := by decide
  have hpunct : caseRuns.all (fun r => r.last < 0x2000 || 0x205F < r.first) = true := by decide
  have hideo : caseRuns.all (fun r => r.last < 0x3000 || 0x3000 < r.first) = true := by decide
  by_cases hsmall : c.toNat < 0x80
  · rw [lowerCode_ascii _ hsmall]
    simp only [ite_eq_right_iff]
    omega
  · rcases hc with ((((((((((h | h) | h) | h) | h) | h) | h) | h) | h) | h) | h)
    · omega
    · omega
    · exact lowerCode_of_gap hlatin (by omega) (by omega) (by omega)
    · exact lowerCode_of_gap hlatin (by omega) (by omega) (by omega)
    · exact lowerCode_of_gap hogham (by omega) (by omega) (by omega)
    · exact lowerCode_of_gap hpunct (by omega) (by omega) (by omega)
    · exact lowerCode_of_gap hpunct (by omega) (by omega) (by omega)
    · exact lowerCode_of_gap hpunct (by omega) (by omega) (by omega)
    · exact lowerCode_of_gap hpunct (by omega) (by omega) (by omega)
    · exact lowerCode_of_gap hpunct (by omega) (by omega) (by omega)
    · exact lowerCode_of_gap hideo (by omega) (by omega) (by omega)

theorem isSlugChar_iff (c : Char) :
    isSlugChar c = true ↔ (0x61 ≤ c.toNat ∧ c.toNat ≤ 0x7A) ∨ (0x30 ≤ c.toNat ∧ c.toNat ≤ 0x39) := by
  simp [isSlugChar, Char.le_def]
  rfl

/-- A blank, lowered, is still no slug character. -/
theorem isSlugChar_lowerChar_blank {c : Char} (hc : isBlank c = true) :
    isSlugChar (lowerChar c) = false := by
  rw [lowerChar_blank hc]
  simp only [isBlank, Bool.or_eq_true, Bool.and_eq_true, decide_eq_true_eq, beq_iff_eq] at hc
  cases h : isSlugChar c
  · rfl
  · rw [isSlugChar_iff] at h
    omega

/-- Slug characters and hyphens are their own lower case. -/
theorem lowerChar_slug {c : Char} (hc : isSlugChar c = true ∨ c = '-') : lowerChar c = c := by
  rcases hc with hc | rfl
  · apply lowerChar_of_lowerCode
    rw [isSlugChar_iff] at hc
    rw [lowerCode_ascii _ (by omega)]
    simp only [ite_eq_right_iff]
    omega
  · decide

theorem toList_lower (s : String) : (lower s).toList = s.toList.map lowerChar := by
  simp [lower]

/-- Trimming the title before lowering it changes no run. -/
theorem alnumRuns_lower_trimBlank (t : String) :
    alnumRuns (lower (trimBlank t)).toList = alnumRuns (lower t).toList := by
  have hsep : ∀ xs : List Char, (∀ c ∈ xs, isBlank c = true) →
      ∀ c ∈ xs.map lowerChar, isSlugChar c = false := by
    intro xs hxs c hc
    obtain ⟨b, hb, rfl⟩ := List.mem_map.mp hc
    exact isSlugChar_lowerChar_blank (hxs b hb)
  have hsplit : t.toList.takeWhile isBlank ++ (trimBlankList t.toList ++
      ((t.toList.dropWhile isBlank).reverse.takeWhile isBlank).reverse) = t.toList := by
    rw [trimBlankList, ← List.reverse_append, List.takeWhile_append_dropWhile,
      List.reverse_reverse, List.takeWhile_append_dropWhile]
  have hlead : ∀ c ∈ t.toList.takeWhile isBlank, isBlank c = true :=
    fun c hc => List.all_eq_true.mp List.all_takeWhile c hc
  have htrail : ∀ c ∈ ((t.toList.dropWhile isBlank).reverse.takeWhile isBlank).reverse,
      isBlank c = true :=
    fun c hc => List.all_eq_true.mp List.all_takeWhile c (List.mem_reverse.mp hc)
  calc alnumRuns (lower (trimBlank t)).toList
      = alnumRuns ((trimBlankList t.toList).map lowerChar) := by
        rw [toList_lower, trimBlank, String.toList_ofList]
    _ = alnumRuns ((t.toList.takeWhile isBlank ++ (trimBlankList t.toList ++
          ((t.toList.dropWhile isBlank).reverse.takeWhile isBlank).reverse)).map lowerChar) := by
        rw [List.map_append, List.map_append, alnumRuns_seps_append (hsep _ hlead),
          alnumRuns_append_seps _ (hsep _ htrail)]
    _ = alnumRuns (lower t).toList := by rw [hsplit, toList_lower]

/-! ## The slug -/

/-- The slug is the runs of slug characters of the lowered title, joined with hyphens. -/
theorem slugOfTitle_eq_runs (t : String) :
    slugOfTitle t = "-".intercalate ((alnumRuns (lower t).toList).map String.ofList) := by
  rw [slugOfTitle_eq_intercalate, slugRuns_eq_alnumRuns, alnumRuns_lower_trimBlank]

/-- The Kelvin sign lowers to a plain `k`, which starts a run. -/
example : slugOfTitle "\u212Aelvin 2" = "kelvin-2" := by decide

theorem toList_slugOfTitle (t : String) :
    (slugOfTitle t).toList = ['-'].intercalate (alnumRuns (lower t).toList) := by
  simp [slugOfTitle_eq_runs, Function.comp_def]

theorem alnumRuns_runs (cs : List Char) : ∀ r ∈ alnumRuns cs, r ≠ [] ∧ ∀ c ∈ r, isSlugChar c := by
  intro r hr
  rw [← slugRuns_eq_alnumRuns] at hr
  exact ⟨slugRuns_ne_nil cs r hr, slugRuns_all cs r hr⟩

theorem slugOfTitle_shape (t : String) : SlugShape (slugOfTitle t).toList :=
  ⟨_, alnumRuns_runs _, toList_slugOfTitle t⟩

/-- A text of the slug form holds only slug characters and hyphens. -/
theorem SlugShape.chars {cs : List Char} (h : SlugShape cs) :
    ∀ c ∈ cs, isSlugChar c = true ∨ c = '-' := by
  obtain ⟨runs, hruns, rfl⟩ := h
  induction runs with
  | nil => simp
  | cons r rest ih =>
    have hr := (hruns r List.mem_cons_self).2
    have hrest := ih fun q hq => hruns q (List.mem_cons_of_mem r hq)
    cases rest with
    | nil => simpa using fun c hc => Or.inl (hr c hc)
    | cons r' rest' =>
      intro c hc
      rw [List.intercalate_cons_cons, List.mem_append, List.mem_append] at hc
      rcases hc with (hc | hc) | hc
      · exact .inl (hr c hc)
      · exact .inr (by simpa using hc)
      · exact hrest c hc

/-- A slug is its own lower case. -/
theorem lower_slugOfTitle (t : String) : lower (slugOfTitle t) = slugOfTitle t := by
  apply String.toList_injective
  rw [toList_lower, List.map_congr_left fun c hc => lowerChar_slug ((slugOfTitle_shape t).chars c hc),
    List.map_id']

theorem slugOfTitle_slugOfTitle (t : String) : slugOfTitle (slugOfTitle t) = slugOfTitle t := by
  rw [slugOfTitle_eq_runs (slugOfTitle t), lower_slugOfTitle, toList_slugOfTitle,
    alnumRuns_intercalate (alnumRuns_runs _), ← slugOfTitle_eq_runs]

theorem ne_dash_of_isSlugChar {c : Char} (hc : isSlugChar c = true) : (c != '-') = true := by
  rw [isSlugChar_iff] at hc
  have hdash : c.toNat ≠ 0x2D := by omega
  simpa using fun h : c = '-' => hdash (by rw [h]; rfl)

/-- Dropping the hyphens of joined runs of slug characters leaves the runs put together. -/
theorem filter_dash_intercalate {runs : List (List Char)}
    (hruns : ∀ r ∈ runs, ∀ c ∈ r, isSlugChar c) :
    (['-'].intercalate runs).filter (· != '-') = runs.flatten := by
  induction runs with
  | nil => rfl
  | cons r rest ih =>
    have hr : r.filter (· != '-') = r :=
      List.filter_eq_self.mpr fun c hc => ne_dash_of_isSlugChar (hruns r List.mem_cons_self c hc)
    have hrest := ih fun q hq => hruns q (List.mem_cons_of_mem r hq)
    cases rest with
    | nil => simpa using hr
    | cons r' rest' =>
      rw [List.intercalate_cons_cons, List.filter_append, List.filter_append, hr, hrest]
      simp

/-- Without its hyphens a slug is the slug characters of the lowered title. -/
theorem slugOfTitle_filter_dash (t : String) :
    (slugOfTitle t).toList.filter (· != '-') = (lower t).toList.filter isSlugChar := by
  rw [toList_slugOfTitle, ← flatten_alnumRuns]
  exact filter_dash_intercalate fun r hr => (alnumRuns_runs _ r hr).2

/-- The slug of a title, as the lowered title determines it: its runs of slug characters joined
with single hyphens, of the slug form, its own slug, and without its hyphens the slug characters
of the lowered title. Lowering maps the Kelvin sign to `k` and capital I with dot above to `i`. -/
theorem slug_joins_lowered_runs (t : String) :
    slugOfTitle t = "-".intercalate ((alnumRuns (lower t).toList).map String.ofList) ∧
      SlugShape (slugOfTitle t).toList ∧ slugOfTitle (slugOfTitle t) = slugOfTitle t ∧
      (slugOfTitle t).toList.filter (· != '-') = (lower t).toList.filter isSlugChar ∧
      lowerChar '\u212A' = 'k' ∧ lowerChar '\u0130' = 'i' :=
  ⟨slugOfTitle_eq_runs t, slugOfTitle_shape t, slugOfTitle_slugOfTitle t,
    slugOfTitle_filter_dash t, lowerChar_kelvin, lowerChar_dotted_capital_i⟩

/-- Capital I with dot above lowers to a plain `i` that joins the run after it: `İa` has the slug
`ia`, where a lowering to `i` and a combining dot above would cut it into `i-a`. -/
theorem dotted_capital_i_joins_run :
    slugOfTitle "\u0130a" ≠ "-".intercalate ((alnumRuns "i\u0307a".toList).map String.ofList) := by
  have hslug : slugOfTitle "\u0130a" = "ia" := by decide
  have hcut : "-".intercalate ((alnumRuns "i\u0307a".toList).map String.ofList) = "i-a" := by decide
  rw [hslug, hcut]
  decide

end DashboardHarness.Dashboard

import DashboardHarness.Proofs.Seeding
import Mathlib.Data.List.Forall2

/-!
# Stored rows

Seeding a dashboard writes three kinds of rows: the dashboard, its charts and their features. A
row keeps its id and the id of its parent, and a row whose id is taken is not written again: the
stored row moves to the new parent. This module says what preparing a seed gives each row, what
storing rows does to the rows of one parent, and what every store built by seeding keeps: each
chart belongs to a stored dashboard, each feature to a stored chart, and every id the store
generated was counted.

Ids that a seed carries are texts; only the store generates ids, from a counter. An id generated
while one seed is prepared is therefore new to every row stored before, and differs from every
id of a seed.

Main results:

- `prepareBoard_spec`: the rows a seed becomes, with their ids, parents and defaults.
- `foldl_moveTo_of_fresh`, `filter_foldl_moveTo_of_outside`: rows with new ids are appended,
  and rows of another parent leave the rows of a parent as they were.
- `Wired`, `Reached.wired`: every store built by seeding is wired.
-/

namespace DashboardHarness.Dashboard

/-- Whether an id is a text, as every id that a seed carries is. -/
def RecordId.isText : RecordId → Bool
  | .text _ => true
  | .generated _ => false

/-- A text, or an id generated from a serial in `[lo, hi)`. -/
def RecordId.Between (lo hi : Nat) : RecordId → Prop
  | .text _ => True
  | .generated k => lo ≤ k ∧ k < hi

/-- A seed whose ids, its own and those of its charts and features, are texts. -/
def Board.Written (b : Board) : Prop :=
  b.id.isText ∧ ∀ c ∈ b.charts, c.id.isText ∧ ∀ f ∈ c.features, f.id.isText

namespace RecordId

@[simp]
theorem between_text (lo hi : Nat) (s : String) : (RecordId.text s).Between lo hi := trivial

@[simp]
theorem between_generated {lo hi k : Nat} :
    (RecordId.generated k).Between lo hi ↔ lo ≤ k ∧ k < hi := Iff.rfl

@[simp]
theorem isText_text (s : String) : (RecordId.text s).isText = true := rfl

@[simp]
theorem isText_generated (k : Nat) : (RecordId.generated k).isText = false := rfl

theorem Between.mono {id : RecordId} {lo hi lo' hi' : Nat} (h : id.Between lo hi)
    (hlo : lo' ≤ lo) (hhi : hi ≤ hi') : id.Between lo' hi' := by
  cases id with
  | text s => trivial
  | generated k =>
    rw [between_generated] at h ⊢
    omega

/-- A generated id from below `mid` is no id from `mid` on. -/
theorem Between.ne {a b : RecordId} {lo mid hi : Nat} (ha : a.Between lo mid)
    (hb : b.Between mid hi) (hgen : a.isText = false) : a ≠ b := by
  cases a with
  | text s => simp at hgen
  | generated k =>
    rintro rfl
    rw [between_generated] at ha hb
    omega

/-- A text id that a seed gave is no generated one. -/
theorem ne_of_isText {a b : RecordId} (ha : a.isText = true) (hb : b.isText = false) : a ≠ b := by
  rintro rfl
  simp [ha] at hb

end RecordId

end DashboardHarness.Dashboard

namespace DashboardHarness.Store

open Dashboard

/-! ## Preparing a seed -/

/-- A seeded feature as it is stored: with its id, the id of its chart, and its coordinates as
the database keeps them, a negative zero as zero. A feature that gave an id keeps it. -/
def FeatureStored (chartId : RecordId) (seed row : Feature) : Prop :=
  (seed.id.isMissing = false → row.id = seed.id) ∧
  row = { seed with
    id := row.id, chartId := chartId, x := storedReal seed.x, y := storedReal seed.y,
    radius := storedReal seed.radius }

/-- The place at which a chart is stored: its own position, or its place on the dashboard when
it names none. -/
def chartPlace (c : Chart) (place : Int) : Int :=
  if c.position = 0 then place else c.position

/-- A seeded chart, at place `place` on its dashboard, as it is stored: with its id, the id of its
dashboard, its kind (`table` when it names none), its position and its features. -/
def ChartStored (boardId : RecordId) (place : Int) (seed row : Chart) : Prop :=
  (seed.id.isMissing = false → row.id = seed.id) ∧
  row = { seed with
    id := row.id, dashboardId := boardId,
    kind := if seed.kind.isEmpty then tableKind else seed.kind,
    position := chartPlace seed place, features := row.features } ∧
  List.Forall₂ (FeatureStored row.id) seed.features row.features

/-- The id a seed's id becomes: itself when given, the next generated one when missing. -/
theorem fillId_between {id : RecordId} (hid : id.isText = true) (fresh : Nat) :
    fresh ≤ (fillId id fresh).2 ∧ (fillId id fresh).1.Between fresh (fillId id fresh).2 ∧
      (id.isMissing = false → (fillId id fresh).1 = id) ∧
      (id.isMissing = true → (fillId id fresh).1 = .generated fresh) := by
  cases id with
  | text s => by_cases h : s.isEmpty <;> simp [fillId, RecordId.isMissing, h]
  | generated k => simp at hid

section Features

variable (chartId : RecordId)

/-- The features of a chart as stored. Each gets the chart's id and an id that is either one a
seed gave or one generated from the counter on. -/
theorem prepareFeatures_spec (fresh : Nat) (fs : List Feature) (hwritten : ∀ f ∈ fs, f.id.isText) :
    fresh ≤ (prepareFeatures chartId fresh fs).2 ∧
      List.Forall₂ (FeatureStored chartId) fs (prepareFeatures chartId fresh fs).1 ∧
      ∀ g ∈ (prepareFeatures chartId fresh fs).1,
        g.id.Between fresh (prepareFeatures chartId fresh fs).2 ∧ g.chartId = chartId ∧
          (g.id.isText = true → ∃ f ∈ fs, f.id.isMissing = false ∧ f.id = g.id) := by
  induction fs generalizing fresh with
  | nil => simp [prepareFeatures]
  | cons f fs ih =>
    have hf := hwritten f (List.mem_cons_self ..)
    obtain ⟨hle, hbetween, hgiven, hmissing⟩ := fillId_between hf fresh
    obtain ⟨hle', hrest, hids⟩ :=
      ih (fillId f.id fresh).2 fun g hg => hwritten g (List.mem_cons_of_mem _ hg)
    refine ⟨by simp only [prepareFeatures]; omega, .cons ⟨hgiven, rfl⟩ hrest, ?_⟩
    intro g hg
    simp only [prepareFeatures, List.mem_cons] at hg
    rcases hg with rfl | hg
    · refine ⟨hbetween.mono (Nat.le_refl _) hle', rfl, fun htext => ⟨f, List.mem_cons_self .., ?_⟩⟩
      cases hm : f.id.isMissing
      · exact ⟨rfl, (hgiven hm).symm⟩
      · simp [hmissing hm] at htext
    · obtain ⟨hb, hparent, hfrom⟩ := hids g hg
      refine ⟨hb.mono hle (Nat.le_refl _), hparent, fun htext => ?_⟩
      obtain ⟨f', hf', hrest'⟩ := hfrom htext
      exact ⟨f', List.mem_cons_of_mem _ hf', hrest'⟩

/-- Features whose given ids differ are stored under pairwise different ids. -/
theorem prepareFeatures_nodup (fresh : Nat) (fs : List Feature) (hwritten : ∀ f ∈ fs, f.id.isText)
    (hdistinct : fs.Pairwise fun f g => f.id.isMissing = false → f.id ≠ g.id) :
    ((prepareFeatures chartId fresh fs).1.map (·.id)).Nodup := by
  induction fs generalizing fresh with
  | nil => simp [prepareFeatures]
  | cons f fs ih =>
    have hf := hwritten f (List.mem_cons_self ..)
    have hrestWritten : ∀ g ∈ fs, g.id.isText := fun g hg => hwritten g (List.mem_cons_of_mem _ hg)
    obtain ⟨-, hbetween, hgiven, hmissing⟩ := fillId_between hf fresh
    obtain ⟨-, -, hids⟩ := prepareFeatures_spec chartId (fillId f.id fresh).2 fs hrestWritten
    simp only [prepareFeatures, List.map_cons, List.nodup_cons]
    refine ⟨?_, ih _ hrestWritten (List.pairwise_cons.mp hdistinct).2⟩
    rw [List.mem_map]
    rintro ⟨g, hg, hsame⟩
    obtain ⟨hgb, -, hgfrom⟩ := hids g hg
    cases hm : f.id.isMissing
    · -- a given id: the later ones are other given ids or generated ones
      rw [hgiven hm] at hsame
      cases hgt : g.id.isText
      · exact RecordId.ne_of_isText hf hgt hsame.symm
      · obtain ⟨f', hf', -, hf'id⟩ := hgfrom hgt
        exact (List.pairwise_cons.mp hdistinct).1 f' hf' hm (hf'id.trans hsame).symm
    · -- a generated id: the later ones are generated after it
      rw [hmissing hm] at hsame hbetween
      exact RecordId.Between.ne hbetween hgb rfl hsame.symm

end Features

section Charts

variable (boardId : RecordId)

/-- A seed chart whose id and whose features' ids are texts. -/
def ChartWritten (c : Chart) : Prop :=
  c.id.isText ∧ ∀ f ∈ c.features, f.id.isText

/-- The charts of a dashboard as stored, from place `place` on. Each gets the dashboard's id and
an id that is either one a seed gave or one generated from the counter on, and so do their
features, which get the id of their chart. -/
theorem prepareCharts_spec (place : Int) (fresh : Nat) (cs : List Chart)
    (hwritten : ∀ c ∈ cs, ChartWritten c) :
    fresh ≤ (prepareCharts boardId place fresh cs).2 ∧
      List.Forall₂ (fun (sp : Chart × Int) row => ChartStored boardId sp.2 sp.1 row)
        (cs.zip (places place cs.length)) (prepareCharts boardId place fresh cs).1 ∧
      (∀ c ∈ (prepareCharts boardId place fresh cs).1,
        c.id.Between fresh (prepareCharts boardId place fresh cs).2 ∧ c.dashboardId = boardId ∧
          (c.id.isText = true → ∃ c₀ ∈ cs, c₀.id.isMissing = false ∧ c₀.id = c.id) ∧
          ∀ f ∈ c.features, f.chartId = c.id) ∧
      ∀ f ∈ (prepareCharts boardId place fresh cs).1.flatMap (·.features),
        f.id.Between fresh (prepareCharts boardId place fresh cs).2 ∧
          (f.id.isText = true →
            ∃ f₀ ∈ cs.flatMap (·.features), f₀.id.isMissing = false ∧ f₀.id = f.id) := by
  induction cs generalizing place fresh with
  | nil => simp [prepareCharts, places]
  | cons c cs ih =>
    obtain ⟨hcText, hfText⟩ := hwritten c (List.mem_cons_self ..)
    obtain ⟨hle₁, hbetween, hgiven, hmissing⟩ := fillId_between hcText fresh
    obtain ⟨hle₂, hstored, hfeatures⟩ :=
      prepareFeatures_spec (fillId c.id fresh).1 (fillId c.id fresh).2 c.features hfText
    obtain ⟨hle₃, hrest, hcharts, hrestFeatures⟩ := ih (place + 1)
      (prepareFeatures (fillId c.id fresh).1 (fillId c.id fresh).2 c.features).2
      fun c' hc' => hwritten c' (List.mem_cons_of_mem _ hc')
    have hout : (prepareCharts boardId place fresh (c :: cs)).2 = (prepareCharts boardId (place + 1)
        (prepareFeatures (fillId c.id fresh).1 (fillId c.id fresh).2 c.features).2 cs).2 := rfl
    refine ⟨by omega, ?_, ?_, ?_⟩
    · rw [List.length_cons, places_succ, List.zip_cons_cons]
      exact .cons ⟨hgiven, rfl, hstored⟩ hrest
    · intro c' hc'
      simp only [prepareCharts, List.mem_cons] at hc'
      rcases hc' with rfl | hc'
      · refine ⟨hbetween.mono (Nat.le_refl _) (by omega), rfl,
          fun htext => ⟨c, List.mem_cons_self .., ?_⟩, fun f hf => (hfeatures f hf).2.1⟩
        cases hm : c.id.isMissing
        · exact ⟨rfl, (hgiven hm).symm⟩
        · simp [hmissing hm] at htext
      · obtain ⟨hb, hparent, hfrom, hchild⟩ := hcharts c' hc'
        refine ⟨hb.mono (by omega) (Nat.le_refl _), hparent, fun htext => ?_, hchild⟩
        obtain ⟨c₀, hc₀, hrest₀⟩ := hfrom htext
        exact ⟨c₀, List.mem_cons_of_mem _ hc₀, hrest₀⟩
    · intro f hf
      simp only [prepareCharts, List.flatMap_cons, List.mem_append] at hf
      rcases hf with hf | hf
      · obtain ⟨hb, -, hfrom⟩ := hfeatures f hf
        refine ⟨hb.mono hle₁ (by omega), fun htext => ?_⟩
        obtain ⟨f₀, hf₀, hrest₀⟩ := hfrom htext
        exact ⟨f₀, by simp [hf₀], hrest₀⟩
      · obtain ⟨hb, hfrom⟩ := hrestFeatures f hf
        refine ⟨hb.mono (by omega) (Nat.le_refl _), fun htext => ?_⟩
        obtain ⟨f₀, hf₀, hrest₀⟩ := hfrom htext
        exact ⟨f₀, by simp only [List.flatMap_cons, List.mem_append]; exact .inr hf₀, hrest₀⟩

/-- Charts whose given ids differ are stored under pairwise different ids. -/
theorem prepareCharts_nodup (place : Int) (fresh : Nat) (cs : List Chart)
    (hwritten : ∀ c ∈ cs, ChartWritten c)
    (hdistinct : cs.Pairwise fun c d => c.id.isMissing = false → c.id ≠ d.id) :
    ((prepareCharts boardId place fresh cs).1.map (·.id)).Nodup := by
  induction cs generalizing place fresh with
  | nil => simp [prepareCharts]
  | cons c cs ih =>
    have hc := hwritten c (List.mem_cons_self ..)
    have hrestWritten : ∀ d ∈ cs, ChartWritten d := fun d hd => hwritten d (List.mem_cons_of_mem _ hd)
    obtain ⟨hle₁, hbetween, hgiven, hmissing⟩ := fillId_between hc.1 fresh
    obtain ⟨hle₂, -, -⟩ :=
      prepareFeatures_spec (fillId c.id fresh).1 (fillId c.id fresh).2 c.features hc.2
    obtain ⟨-, -, hrest, -⟩ := prepareCharts_spec boardId (place + 1)
      (prepareFeatures (fillId c.id fresh).1 (fillId c.id fresh).2 c.features).2 cs hrestWritten
    simp only [prepareCharts, List.map_cons, List.nodup_cons]
    refine ⟨?_, ih _ _ hrestWritten (List.pairwise_cons.mp hdistinct).2⟩
    rw [List.mem_map]
    rintro ⟨d, hd, hsame⟩
    obtain ⟨hdb, -, hdfrom, -⟩ := hrest d hd
    cases hm : c.id.isMissing
    · -- a given id: the later ones are other given ids or generated ones
      rw [hgiven hm] at hsame
      cases hdt : d.id.isText
      · exact RecordId.ne_of_isText hc.1 hdt hsame.symm
      · obtain ⟨c₀, hc₀, -, hc₀id⟩ := hdfrom hdt
        exact (List.pairwise_cons.mp hdistinct).1 c₀ hc₀ hm (hc₀id.trans hsame).symm
    · -- a generated id: the later ones are generated after it
      rw [hmissing hm] at hsame hbetween
      exact RecordId.Between.ne hbetween (hdb.mono (by omega) (Nat.le_refl _)) rfl hsame.symm

/-- Features whose given ids differ, across all the charts of a dashboard, are stored under
pairwise different ids. -/
theorem prepareCharts_features_nodup (place : Int) (fresh : Nat) (cs : List Chart)
    (hwritten : ∀ c ∈ cs, ChartWritten c)
    (hdistinct : (cs.flatMap (·.features)).Pairwise
      fun f g => f.id.isMissing = false → f.id ≠ g.id) :
    (((prepareCharts boardId place fresh cs).1.flatMap (·.features)).map (·.id)).Nodup := by
  induction cs generalizing place fresh with
  | nil => simp [prepareCharts]
  | cons c cs ih =>
    have hc := hwritten c (List.mem_cons_self ..)
    have hrestWritten : ∀ d ∈ cs, ChartWritten d := fun d hd => hwritten d (List.mem_cons_of_mem _ hd)
    rw [List.flatMap_cons, List.pairwise_append] at hdistinct
    obtain ⟨hheadDistinct, hrestDistinct, hcross⟩ := hdistinct
    obtain ⟨-, -, hheadIds⟩ :=
      prepareFeatures_spec (fillId c.id fresh).1 (fillId c.id fresh).2 c.features hc.2
    obtain ⟨-, -, -, hrestIds⟩ := prepareCharts_spec boardId (place + 1)
      (prepareFeatures (fillId c.id fresh).1 (fillId c.id fresh).2 c.features).2 cs hrestWritten
    simp only [prepareCharts, List.flatMap_cons, List.map_append, List.nodup_append]
    refine ⟨prepareFeatures_nodup _ _ _ hc.2 hheadDistinct, ih _ _ hrestWritten hrestDistinct, ?_⟩
    simp only [List.mem_map]
    rintro _ ⟨f, hf, rfl⟩ _ ⟨g, hg, rfl⟩ hsame
    obtain ⟨hfb, -, hffrom⟩ := hheadIds f hf
    obtain ⟨hgb, hgfrom⟩ := hrestIds g hg
    cases hft : f.id.isText
    · -- a generated id of the first chart's features comes before the later ones
      exact RecordId.Between.ne hfb hgb hft hsame
    · obtain ⟨f₀, hf₀, hf₀given, hf₀id⟩ := hffrom hft
      cases hgt : g.id.isText
      · exact RecordId.ne_of_isText hft hgt hsame
      · obtain ⟨g₀, hg₀, -, hg₀id⟩ := hgfrom hgt
        exact hcross f₀ hf₀ g₀ hg₀ hf₀given (by rw [hf₀id, hg₀id, hsame])

end Charts

section Board

variable (place : Int) (fresh : Nat) (b : Board)

theorem prepareBoard_id_fill : (prepareBoard place fresh b).1.id = (fillId b.id fresh).1 := rfl

theorem prepareBoard_charts :
    (prepareBoard place fresh b).1.charts =
      (prepareCharts (fillId b.id fresh).1 1 (fillId b.id fresh).2 b.charts).1 := rfl

theorem prepareBoard_counter :
    (prepareBoard place fresh b).2 =
      (prepareCharts (fillId b.id fresh).1 1 (fillId b.id fresh).2 b.charts).2 := rfl

end Board

/-! ## Storing rows -/

section Rows

variable {α : Type} (idOf : α → RecordId) (setParent : α → α → α)

/-- A row whose id no stored row has is appended. -/
theorem moveTo_of_fresh {rows : List α} {row : α} (h : idOf row ∉ rows.map idOf) :
    moveTo idOf setParent rows row = rows ++ [row] := by
  have hnone : rows.any (fun r => idOf r == idOf row) = false := by
    rw [List.any_eq_false]
    intro r hr heq
    exact h (List.mem_map.mpr ⟨r, hr, by simpa using heq⟩)
  simp [moveTo, hnone]

/-- Rows whose ids are new to the table and to each other are appended in order. -/
theorem foldl_moveTo_of_fresh {rows news : List α} (hfresh : ∀ x ∈ news, idOf x ∉ rows.map idOf)
    (hnodup : (news.map idOf).Nodup) :
    news.foldl (moveTo idOf setParent) rows = rows ++ news := by
  induction news generalizing rows with
  | nil => simp
  | cons x xs ih =>
    rw [List.map_cons, List.nodup_cons] at hnodup
    have hrest : ∀ y ∈ xs, idOf y ∉ (rows ++ [x]).map idOf := by
      intro y hy
      rw [List.map_append, List.mem_append, not_or]
      refine ⟨hfresh y (List.mem_cons_of_mem _ hy), ?_⟩
      simp only [List.map_cons, List.map_nil, List.mem_singleton]
      intro heq
      exact hnodup.1 (heq ▸ List.mem_map_of_mem hy)
    rw [List.foldl_cons, moveTo_of_fresh idOf setParent (hfresh x (List.mem_cons_self ..)),
      ih hrest hnodup.2, List.append_assoc, List.singleton_append]

/-- Moving the rows with the id of `x` to the parent of `x` keeps the rows that `p` selects,
when `x` is not selected and no selected row has its id. -/
theorem filter_map_moved {p : α → Bool} (hparent : ∀ r x, p (setParent r x) = p x) {x : α}
    (hx : p x = false) {rows : List α} (hid : idOf x ∉ (rows.filter p).map idOf) :
    (rows.map fun r => if idOf r == idOf x then setParent r x else r).filter p =
      rows.filter p := by
  induction rows with
  | nil => rfl
  | cons r rows ih =>
    simp only [beq_iff_eq] at ih ⊢
    by_cases hr : p r = true
    · -- a selected row keeps its place: its id is not that of `x`
      have hne : idOf r ≠ idOf x := by
        intro heq
        exact hid (by simp [hr, heq])
      have hrest : idOf x ∉ (rows.filter p).map idOf := fun hmem =>
        hid (by simp only [List.filter_cons, hr, if_true, List.map_cons]; exact .tail _ hmem)
      simp [hr, hne, ih hrest]
    · have hrest : idOf x ∉ (rows.filter p).map idOf := by
        simpa [hr] using hid
      by_cases hm : idOf r = idOf x
      · simp [hr, hm, hparent, hx, ih hrest]
      · simp [hr, hm, ih hrest]

/-- Storing a row of another parent keeps the rows of a parent, when none of them has its id. -/
theorem filter_moveTo_of_outside {p : α → Bool} (hparent : ∀ r x, p (setParent r x) = p x)
    {rows : List α} {x : α} (hx : p x = false) (hid : idOf x ∉ (rows.filter p).map idOf) :
    (moveTo idOf setParent rows x).filter p = rows.filter p := by
  unfold moveTo
  split
  · exact filter_map_moved idOf setParent hparent hx hid
  · simp [List.filter_append, hx]

/-- Storing rows of other parents keeps the rows of a parent, when none of them has their ids. -/
theorem filter_foldl_moveTo_of_outside {p : α → Bool} (hparent : ∀ r x, p (setParent r x) = p x)
    {xs rows : List α} (hxs : ∀ x ∈ xs, p x = false ∧ idOf x ∉ (rows.filter p).map idOf) :
    (xs.foldl (moveTo idOf setParent) rows).filter p = rows.filter p := by
  induction xs generalizing rows with
  | nil => rfl
  | cons x xs ih =>
    obtain ⟨hx, hid⟩ := hxs x (List.mem_cons_self ..)
    have hstep := filter_moveTo_of_outside idOf setParent hparent hx hid
    rw [List.foldl_cons, ih, hstep]
    intro y hy
    rw [hstep]
    exact hxs y (List.mem_cons_of_mem _ hy)

/-- A row of the table after a row is stored was stored before, is that row, or is a stored row
moved to its parent. -/
theorem mem_moveTo {rows : List α} {x r : α} (h : r ∈ moveTo idOf setParent rows x) :
    r ∈ rows ∨ r = x ∨ ∃ r₀ ∈ rows, r = setParent r₀ x := by
  unfold moveTo at h
  split at h
  · obtain ⟨r₀, hr₀, rfl⟩ := List.mem_map.mp h
    split
    · exact .inr (.inr ⟨r₀, hr₀, rfl⟩)
    · exact .inl hr₀
  · rcases List.mem_append.mp h with h | h
    · exact .inl h
    · exact .inr (.inl (List.mem_singleton.mp h))

/-- A property of the stored rows and of the new ones holds of every row after storing, when
moving a row to the parent of another keeps it. -/
theorem forall_mem_foldl_moveTo {q : α → Prop} (hparent : ∀ r x, q r → q x → q (setParent r x))
    {xs rows : List α} (hrows : ∀ r ∈ rows, q r) (hxs : ∀ x ∈ xs, q x) :
    ∀ r ∈ xs.foldl (moveTo idOf setParent) rows, q r := by
  induction xs generalizing rows with
  | nil => exact hrows
  | cons x xs ih =>
    rw [List.foldl_cons]
    refine ih ?_ fun y hy => hxs y (List.mem_cons_of_mem _ hy)
    intro r hr
    have hx := hxs x (List.mem_cons_self ..)
    rcases mem_moveTo idOf setParent hr with hr | rfl | ⟨r₀, hr₀, rfl⟩
    · exact hrows r hr
    · exact hx
    · exact hparent r₀ x (hrows r₀ hr₀) hx

/-- Storing rows loses no id: the ids of the stored rows and of the new ones are all there. -/
theorem ids_foldl_moveTo (hid : ∀ r x, idOf (setParent r x) = idOf r) {xs rows : List α} :
    ∀ i, i ∈ rows.map idOf ∨ i ∈ xs.map idOf → i ∈ (xs.foldl (moveTo idOf setParent) rows).map idOf := by
  induction xs generalizing rows with
  | nil => simp
  | cons x xs ih =>
    intro i hi
    rw [List.foldl_cons]
    apply ih
    rcases hi with hi | hi
    · -- a stored row keeps its id, moved or not
      left
      obtain ⟨r, hr, rfl⟩ := List.mem_map.mp hi
      unfold moveTo
      split
      · exact List.mem_map.mpr ⟨_, List.mem_map_of_mem hr, by split <;> simp [hid]⟩
      · exact List.mem_map_of_mem (List.mem_append_left _ hr)
    · rw [List.map_cons, List.mem_cons] at hi
      rcases hi with rfl | hi
      · -- the new row's id is that of a stored row, or the row is appended
        left
        unfold moveTo
        split
        · rename_i hany
          obtain ⟨r, hr, heq⟩ := List.any_eq_true.mp hany
          exact List.mem_map.mpr ⟨_, List.mem_map_of_mem hr, by simp [hid, beq_iff_eq.mp heq]⟩
        · simp
      · exact .inr hi

/-- With pairwise different ids, the first row of each id is every row. -/
theorem firstOfEachId_eq_of_nodup {rows : List α} (h : (rows.map idOf).Nodup) :
    firstOfEachId idOf rows = rows := by
  suffices hacc : ∀ acc : List α, ((acc ++ rows).map idOf).Nodup →
      rows.foldl (fun acc row => if acc.any (fun r => idOf r == idOf row) then acc else acc ++ [row])
        acc = acc ++ rows by
    have hall := hacc [] (by simpa using h)
    rw [List.nil_append] at hall
    exact hall
  clear h
  induction rows with
  | nil => simp
  | cons x xs ih =>
    intro acc hacc
    have hfresh : acc.any (fun r => idOf r == idOf x) = false := by
      rw [List.any_eq_false]
      intro r hr heq
      rw [List.map_append, List.nodup_append] at hacc
      exact hacc.2.2 _ (List.mem_map_of_mem hr) _ (List.mem_map_of_mem (List.mem_cons_self ..))
        (beq_iff_eq.mp heq)
    rw [List.foldl_cons, hfresh, if_neg Bool.false_ne_true, ih (acc ++ [x]) (by simpa using hacc)]
    simp

/-- The first row of each id is one of the rows. -/
theorem mem_of_mem_firstOfEachId {rows : List α} {x : α} (h : x ∈ firstOfEachId idOf rows) :
    x ∈ rows := by
  suffices hacc : ∀ acc : List α, x ∈ rows.foldl
      (fun acc row => if acc.any (fun r => idOf r == idOf row) then acc else acc ++ [row]) acc →
      x ∈ acc ∨ x ∈ rows by
    simpa using hacc [] h
  clear h
  induction rows with
  | nil => simp
  | cons y ys ih =>
    intro acc hx
    rw [List.foldl_cons] at hx
    rcases ih _ hx with hx | hx
    · split at hx
      · exact .inl hx
      · rcases List.mem_append.mp hx with hx | hx
        · exact .inl hx
        · exact .inr (by simp [List.mem_singleton.mp hx])
    · exact .inr (List.mem_cons_of_mem _ hx)

end Rows

/-! ## Storing a prepared dashboard -/

/-- The row of a chart: the chart without its features, which are rows of their own. -/
def chartRow (c : Chart) : Chart := { c with features := [] }

theorem map_id_chartRow (cs : List Chart) : (cs.map chartRow).map Chart.id = cs.map Chart.id := by
  rw [List.map_map]
  rfl

/-- The chart and feature rows a stored dashboard adds: the first chart of each id, without its
features, and the first feature of each id among the features of those charts. -/
theorem insertBoard_eq_ok_tables {st st' : Store} {b : Board} (h : insertBoard st b = .ok st') :
    st'.charts = storeCharts st.charts ((firstOfEachId Chart.id b.charts).map chartRow) ∧
      st'.features = storeFeatures st.features
        (firstOfEachId Feature.id ((firstOfEachId Chart.id b.charts).flatMap (·.features))) ∧
      st'.generatedIds = st.generatedIds := by
  unfold insertBoard at h
  split at h
  · cases h
  · split at h
    · cases h
    · dsimp only at h
      split at h
      · cases h
      · cases h
        exact ⟨rfl, rfl, rfl⟩

/-- A stored chart moved to the dashboard of a new one with its id. -/
def chartMoved (r c : Chart) : Chart := { r with dashboardId := c.dashboardId }

/-- A stored feature moved to the chart of a new one with its id. -/
def featureMoved (r f : Feature) : Feature := { r with chartId := f.chartId }

theorem storeCharts_eq (rows cs : List Chart) :
    storeCharts rows cs = cs.foldl (moveTo Chart.id chartMoved) rows := rfl

theorem storeFeatures_eq (rows fs : List Feature) :
    storeFeatures rows fs = fs.foldl (moveTo Feature.id featureMoved) rows := rfl

/-- What every store built by seeding keeps: a chart belongs to a stored dashboard and a feature
to a stored chart, and every generated id came from below the counter. -/
structure Wired (st : Store) : Prop where
  chartsOwned : ∀ c ∈ st.charts, c.dashboardId ∈ st.boards.map (·.id)
  featuresOwned : ∀ f ∈ st.features, f.chartId ∈ st.charts.map (·.id)
  boardsCounted : ∀ b ∈ st.boards, b.id.Between 0 st.generatedIds
  chartsCounted : ∀ c ∈ st.charts, c.id.Between 0 st.generatedIds
  featuresCounted : ∀ f ∈ st.features, f.id.Between 0 st.generatedIds

/-- A wired store stays wired when its counter moves on. -/
theorem Wired.raise {st : Store} (hw : Wired st) {n : Nat} (hle : st.generatedIds ≤ n) :
    Wired { st with generatedIds := n } where
  chartsOwned := hw.chartsOwned
  featuresOwned := hw.featuresOwned
  boardsCounted b hb := (hw.boardsCounted b hb).mono (Nat.le_refl _) hle
  chartsCounted c hc := (hw.chartsCounted c hc).mono (Nat.le_refl _) hle
  featuresCounted f hf := (hw.featuresCounted f hf).mono (Nat.le_refl _) hle

/-- The rows of a prepared seed: every chart belongs to the dashboard and every feature to its
chart, and every id is a given text or was generated while preparing it. -/
theorem prepareBoard_rows (place : Int) (fresh : Nat) (b : Board) (hb : b.Written) :
    fresh ≤ (prepareBoard place fresh b).2 ∧
      (prepareBoard place fresh b).1.id.Between fresh (prepareBoard place fresh b).2 ∧
      (∀ c ∈ (prepareBoard place fresh b).1.charts,
        c.id.Between fresh (prepareBoard place fresh b).2 ∧
          c.dashboardId = (prepareBoard place fresh b).1.id ∧ ∀ f ∈ c.features, f.chartId = c.id) ∧
      ∀ f ∈ (prepareBoard place fresh b).1.charts.flatMap (·.features),
        f.id.Between fresh (prepareBoard place fresh b).2 := by
  obtain ⟨hle₁, hbetween, -, -⟩ := fillId_between hb.1 fresh
  obtain ⟨hle₂, -, hcharts, hfeatures⟩ := prepareCharts_spec (fillId b.id fresh).1 1
    (fillId b.id fresh).2 b.charts hb.2
  rw [prepareBoard_counter, prepareBoard_id_fill, prepareBoard_charts]
  refine ⟨by omega, hbetween.mono (Nat.le_refl _) hle₂, fun c hc => ?_, fun f hf => ?_⟩
  · obtain ⟨hcb, hparent, -, hchild⟩ := hcharts c hc
    exact ⟨hcb.mono hle₁ (Nat.le_refl _), hparent, hchild⟩
  · exact (hfeatures f hf).1.mono hle₁ (Nat.le_refl _)

/-- Storing a prepared seed keeps a store wired. -/
theorem Wired.insert {st st' : Store} {b : Board} {place : Int} (hw : Wired st)
    (hb : b.Written)
    (h : insertBoard { st with generatedIds := (prepareBoard place st.generatedIds b).2 }
      (prepareBoard place st.generatedIds b).1 = .ok st') :
    Wired st' := by
  obtain ⟨hboards, -, -⟩ := insertBoard_eq_ok h
  obtain ⟨hcharts, hfeatures, hcounter⟩ := insertBoard_eq_ok_tables h
  obtain ⟨hle, hid, hrows, hfeatureIds⟩ := prepareBoard_rows place st.generatedIds b hb
  simp only at hboards hcharts hfeatures hcounter
  set p := (prepareBoard place st.generatedIds b).1
  have hchartMem : ∀ c ∈ firstOfEachId Chart.id p.charts, c ∈ p.charts :=
    fun c hc => mem_of_mem_firstOfEachId Chart.id hc
  have hboardIds : st.boards.map (·.id) ⊆ st'.boards.map (·.id) := by
    rw [hboards]
    exact List.map_subset _ (List.subset_append_left _ _)
  have hpId : p.id ∈ st'.boards.map (·.id) := by
    rw [hboards]
    simp
  have hchartIds : ∀ i, i ∈ st.charts.map (·.id) ∨
      i ∈ ((firstOfEachId Chart.id p.charts).map chartRow).map (·.id) →
      i ∈ st'.charts.map (·.id) := by
    rw [hcharts, storeCharts_eq]
    exact ids_foldl_moveTo Chart.id chartMoved (fun _ _ => rfl)
  refine ⟨?_, ?_, ?_, ?_, ?_⟩
  · rw [hcharts, storeCharts_eq]
    refine forall_mem_foldl_moveTo Chart.id chartMoved (q := fun c : Chart => c.dashboardId ∈ st'.boards.map Board.id)
      (fun _ _ _ hx => hx) (fun c hc => hboardIds (hw.chartsOwned c hc)) ?_
    intro c hc
    obtain ⟨c₀, hc₀, rfl⟩ := List.mem_map.mp hc
    show c₀.dashboardId ∈ _
    rw [(hrows c₀ (hchartMem c₀ hc₀)).2.1]
    exact hpId
  · rw [hfeatures, storeFeatures_eq]
    refine forall_mem_foldl_moveTo Feature.id featureMoved (q := fun f : Feature => f.chartId ∈ st'.charts.map Chart.id)
      (fun _ _ _ hx => hx) (fun f hf => hchartIds _ (.inl (hw.featuresOwned f hf))) ?_
    intro f hf
    obtain ⟨c, hc, hfc⟩ := List.mem_flatMap.mp (mem_of_mem_firstOfEachId Feature.id hf)
    rw [(hrows c (hchartMem c hc)).2.2 f hfc]
    exact hchartIds _ (.inr (List.mem_map.mpr ⟨_, List.mem_map_of_mem hc, rfl⟩))
  · intro b' hb'
    rw [hboards, List.mem_append, List.mem_singleton] at hb'
    rw [hcounter]
    rcases hb' with hb' | rfl
    · exact (hw.boardsCounted b' hb').mono (Nat.le_refl _) hle
    · exact hid.mono (Nat.zero_le _) (Nat.le_refl _)
  · rw [hcharts, hcounter, storeCharts_eq]
    refine forall_mem_foldl_moveTo Chart.id chartMoved (q := fun c : Chart => c.id.Between 0 _)
      (fun _ _ hr _ => hr) (fun c hc => (hw.chartsCounted c hc).mono (Nat.le_refl _) hle) ?_
    intro c hc
    obtain ⟨c₀, hc₀, rfl⟩ := List.mem_map.mp hc
    exact (hrows c₀ (hchartMem c₀ hc₀)).1.mono (Nat.zero_le _) (Nat.le_refl _)
  · rw [hfeatures, hcounter, storeFeatures_eq]
    refine forall_mem_foldl_moveTo Feature.id featureMoved (q := fun f : Feature => f.id.Between 0 _)
      (fun _ _ hr _ => hr) (fun f hf => (hw.featuresCounted f hf).mono (Nat.le_refl _) hle) ?_
    intro f hf
    obtain ⟨c, hc, hfc⟩ := List.mem_flatMap.mp (mem_of_mem_firstOfEachId Feature.id hf)
    exact (hfeatureIds f (List.mem_flatMap.mpr ⟨c, hchartMem c hc, hfc⟩)).mono (Nat.zero_le _)
      (Nat.le_refl _)

/-- A batch stored from its first seed on: the seed has a title, is prepared and stored, and the
rest of the batch is stored after it. -/
theorem seedFrom_cons_eq_ok {index : Nat} {place : Int} {st st' : Store} {b : Board}
    {bs : List Board} (h : seedFrom index place st (b :: bs) = .ok st') :
    Text.isBlankText b.title = false ∧
      ∃ st₁, insertBoard { st with generatedIds := (prepareBoard place st.generatedIds b).2 }
          (prepareBoard place st.generatedIds b).1 = .ok st₁ ∧
        seedFrom (index + 1) (place + 1) st₁ bs = .ok st' := by
  unfold seedFrom at h
  split at h
  · cases h
  · rename_i htitle
    dsimp only at h
    split at h
    · cases h
    · rename_i st₁ hinsert
      exact ⟨by simpa using htitle, st₁, hinsert, h⟩

/-- A batch of written seeds that is stored keeps a store wired. Induction on the batch, one
dashboard stored at a time. -/
theorem Wired.seedFrom {index : Nat} {place : Int} {st st' : Store} {boards : List Board}
    (hw : Wired st) (hb : ∀ b ∈ boards, b.Written)
    (h : DashboardHarness.Store.seedFrom index place st boards = .ok st') : Wired st' := by
  induction boards generalizing index place st with
  | nil =>
    cases h
    exact hw
  | cons b bs ih =>
    obtain ⟨-, st₁, hinsert, hrest⟩ := seedFrom_cons_eq_ok h
    exact ih (hw.insert (hb b (List.mem_cons_self ..)) hinsert)
      (fun b' hb' => hb b' (List.mem_cons_of_mem _ hb')) hrest

/-- The stores that seeding calls build from the empty one, every seed with written ids; a call
that fails leaves the store as it was. -/
inductive Reached : Store → Prop where
  | empty : Reached {}
  | seed {st : Store} (boards : List Board) :
      Reached st → (∀ b ∈ boards, b.Written) → Reached (st.afterSeed boards)

/-- Every store that seeding builds is wired. -/
theorem Reached.wired {st : Store} (h : Reached st) : Wired st := by
  induction h with
  | empty => exact ⟨by simp, by simp, by simp, by simp, by simp⟩
  | @seed st boards _ hb ih =>
    cases hseed : st.seed boards with
    | error e => rwa [afterSeed_of_error hseed]
    | ok st' =>
      rw [afterSeed_of_ok hseed]
      exact ih.seedFrom hb hseed

end DashboardHarness.Store

import DashboardHarness.Proofs.StoredRows

/-!
# A seeded dashboard is found as it was seeded

A dashboard that a seeding call stores is found again under the slug of its title: with its
title, its id and its position, its charts ordered by position, and each chart with its own
features. What can take a chart or a feature away from it is an id: a chart or feature whose id
is taken is not stored again, and the stored row moves to the new parent. So the dashboard is
found as seeded when the ids it gives its charts and features are its own: given once in the
call and held by no row stored before.

Ordering by position is a stable sort: charts at one position keep the order in which they were
stored.

Main results:

- `filter_byPosition`: ordering by position keeps the order of rows at each position.
- `insertBoard_own`, `insertBoard_keeps`: storing the dashboard gives it its rows, and storing
  another leaves them.
- `find_of_rows`: what `find` answers for a dashboard whose rows are known.
- `find_after_seed`: a seeded dashboard is found with its charts ordered by position.
-/

namespace DashboardHarness.Store

open Dashboard

/-! ## Ordering by position -/

section Order

variable {α : Type} (position : α → Int)

theorem byPosition_perm (rows : List α) : (byPosition position rows).Perm rows :=
  List.mergeSort_perm _ _

theorem byPosition_sorted (rows : List α) :
    (byPosition position rows).Pairwise fun a b => position a ≤ position b := by
  have hsorted : (rows.mergeSort fun a b => decide (position a ≤ position b)).Pairwise
      fun a b => decide (position a ≤ position b) = true :=
    List.pairwise_mergeSort (fun a b c hab hbc => by simp only [decide_eq_true_eq] at *; omega)
      (fun a b => by simp only [Bool.or_eq_true, decide_eq_true_eq]; omega) rows
  exact hsorted.imp fun h => by simpa using h

/-- Ordering by position is stable: the rows at one position keep their order. -/
theorem filter_byPosition (rows : List α) (n : Int) :
    (byPosition position rows).filter (fun r => position r == n) =
      rows.filter fun r => position r == n := by
  have hsorted : (rows.filter fun r => position r == n).Pairwise
      fun a b => decide (position a ≤ position b) = true := by
    refine List.Pairwise.imp_of_mem ?_ (List.pairwise_of_forall fun _ _ => trivial)
    intro a b ha hb _
    simp only [List.mem_filter, beq_iff_eq] at ha hb
    simp [ha.2, hb.2]
  have hsub := List.sublist_mergeSort
    (fun a b c hab hbc => by simp only [decide_eq_true_eq] at *; omega)
    (fun a b => by simp only [Bool.or_eq_true, decide_eq_true_eq]; omega)
    hsorted (List.filter_sublist (l := rows))
  have hsubFilter := hsub.filter fun r => position r == n
  rw [List.filter_filter] at hsubFilter
  simp only [Bool.and_self] at hsubFilter
  refine (hsubFilter.eq_of_length ?_).symm
  exact ((byPosition_perm position rows).filter _).length_eq.symm

/-- Rows at strictly increasing positions are already in order. -/
theorem byPosition_of_lt {rows : List α} (h : (rows.map position).Pairwise (· < ·)) :
    byPosition position rows = rows := by
  apply List.mergeSort_of_pairwise
  exact (List.pairwise_map.mp h).imp fun hab => by simp only [decide_eq_true_eq]; omega

end Order

/-! ## The rows of one dashboard -/

/-- Among the features of charts with pairwise different ids, each feature carrying the id of its
chart, those that carry the id of one chart are its own. -/
theorem filter_flatMap_features {cs : List Chart} (hnodup : (cs.map Chart.id).Nodup)
    (hchild : ∀ c ∈ cs, ∀ f ∈ c.features, f.chartId = c.id) {c : Chart} (hc : c ∈ cs) :
    (cs.flatMap (·.features)).filter (fun f => f.chartId == c.id) = c.features := by
  induction cs with
  | nil => cases hc
  | cons c' cs ih =>
    rw [List.map_cons, List.nodup_cons] at hnodup
    have hchild' : ∀ d ∈ cs, ∀ f ∈ d.features, f.chartId = d.id :=
      fun d hd => hchild d (List.mem_cons_of_mem _ hd)
    rw [List.flatMap_cons, List.filter_append]
    rcases List.mem_cons.mp hc with rfl | hc
    · -- the chart's own features come first, and no later chart has its id
      rw [List.filter_eq_self.mpr fun f hf => by simp [hchild c (List.mem_cons_self ..) f hf],
        List.filter_eq_nil_iff.mpr, List.append_nil]
      intro f hf
      obtain ⟨d, hd, hfd⟩ := List.mem_flatMap.mp hf
      have hne : d.id ≠ c.id := fun h => hnodup.1 (h ▸ List.mem_map_of_mem hd)
      simp [hchild' d hd f hfd, hne]
    · -- an earlier chart has another id
      have hne : c'.id ≠ c.id := fun h => hnodup.1 (h ▸ List.mem_map_of_mem hc)
      rw [List.filter_eq_nil_iff.mpr fun f hf => by
          simp [hchild c' (List.mem_cons_self ..) f hf, hne],
        List.nil_append, ih hnodup.2 hchild' hc]

/-- Storing a dashboard whose chart and feature ids are new and pairwise different gives it
exactly its charts, and each chart exactly its features. -/
theorem insertBoard_own {st₁ st₂ : Store} {p : Board} (hw : Wired st₁)
    (hinsert : insertBoard st₁ p = .ok st₂)
    (hchartIds : (p.charts.map Chart.id).Nodup)
    (hfeatureIds : ((p.charts.flatMap (·.features)).map Feature.id).Nodup)
    (hchartsNew : ∀ c ∈ p.charts, c.id ∉ st₁.charts.map Chart.id)
    (hfeaturesNew : ∀ f ∈ p.charts.flatMap (·.features), f.id ∉ st₁.features.map Feature.id)
    (hparent : ∀ c ∈ p.charts, c.dashboardId = p.id)
    (hchild : ∀ c ∈ p.charts, ∀ f ∈ c.features, f.chartId = c.id) :
    st₂.charts.filter (fun c => c.dashboardId == p.id) = p.charts.map chartRow ∧
      ∀ c ∈ p.charts, st₂.features.filter (fun f => f.chartId == c.id) = c.features := by
  obtain ⟨-, -, hboardNew⟩ := insertBoard_eq_ok hinsert
  obtain ⟨hcharts, hfeatures, -⟩ := insertBoard_eq_ok_tables hinsert
  rw [firstOfEachId_eq_of_nodup Chart.id hchartIds] at hcharts hfeatures
  rw [firstOfEachId_eq_of_nodup Feature.id hfeatureIds] at hfeatures
  have hrows : st₂.charts = st₁.charts ++ p.charts.map chartRow := by
    rw [hcharts, storeCharts_eq]
    refine foldl_moveTo_of_fresh Chart.id chartMoved ?_ (by rw [map_id_chartRow]; exact hchartIds)
    intro x hx
    obtain ⟨c, hc, rfl⟩ := List.mem_map.mp hx
    exact hchartsNew c hc
  have hfeatureRows : st₂.features = st₁.features ++ p.charts.flatMap (·.features) := by
    rw [hfeatures, storeFeatures_eq]
    exact foldl_moveTo_of_fresh Feature.id featureMoved hfeaturesNew hfeatureIds
  refine ⟨?_, fun c hc => ?_⟩
  · -- a stored chart belongs to a stored dashboard, and this one was not stored
    rw [hrows, List.filter_append, List.filter_eq_nil_iff.mpr, List.nil_append,
      List.filter_eq_self.mpr]
    · intro x hx
      obtain ⟨c, hc, rfl⟩ := List.mem_map.mp hx
      simp [chartRow, hparent c hc]
    · intro c hc
      have hne : c.dashboardId ≠ p.id := fun h => hboardNew (h ▸ hw.chartsOwned c hc)
      simp [hne]
  · -- a stored feature belongs to a stored chart, and this one was not stored
    rw [hfeatureRows, List.filter_append, List.filter_eq_nil_iff.mpr, List.nil_append,
      filter_flatMap_features hchartIds hchild hc]
    intro f hf
    have hne : f.chartId ≠ c.id := fun h => hchartsNew c hc (h ▸ hw.featuresOwned f hf)
    simp [hne]

/-- Storing another dashboard leaves the rows of a dashboard whose chart and feature ids the
other's rows do not have. -/
theorem insertBoard_keeps {st st' : Store} {q : Board} {boardId : RecordId} {cs : List Chart}
    (hinsert : insertBoard st q = .ok st') (hboard : boardId ∈ st.boards.map Board.id)
    (hparent : ∀ c ∈ q.charts, c.dashboardId = q.id)
    (hchild : ∀ c ∈ q.charts, ∀ f ∈ c.features, f.chartId = c.id)
    (hcharts : st.charts.filter (fun c => c.dashboardId == boardId) = cs.map chartRow)
    (hfeatures : ∀ c ∈ cs, st.features.filter (fun f => f.chartId == c.id) = c.features)
    (hchartIds : ∀ c ∈ q.charts, c.id ∉ cs.map Chart.id)
    (hfeatureIds : ∀ f ∈ q.charts.flatMap (·.features),
      f.id ∉ (cs.flatMap (·.features)).map Feature.id) :
    boardId ∈ st'.boards.map Board.id ∧
      st'.charts.filter (fun c => c.dashboardId == boardId) = cs.map chartRow ∧
      ∀ c ∈ cs, st'.features.filter (fun f => f.chartId == c.id) = c.features := by
  obtain ⟨hboards, -, hqNew⟩ := insertBoard_eq_ok hinsert
  obtain ⟨hcharts', hfeatures', -⟩ := insertBoard_eq_ok_tables hinsert
  have hne : q.id ≠ boardId := fun h => hqNew (h ▸ hboard)
  refine ⟨?_, ?_, fun c hc => ?_⟩
  · rw [hboards, List.map_append, List.mem_append]
    exact .inl hboard
  · rw [hcharts', storeCharts_eq, filter_foldl_moveTo_of_outside Chart.id chartMoved
      (p := fun c => c.dashboardId == boardId) (fun _ _ => rfl), hcharts]
    intro x hx
    obtain ⟨c, hc, rfl⟩ := List.mem_map.mp hx
    have hcq := mem_of_mem_firstOfEachId Chart.id hc
    refine ⟨by simp [chartRow, hparent c hcq, hne], ?_⟩
    rw [hcharts, map_id_chartRow]
    exact hchartIds c hcq
  · rw [hfeatures', storeFeatures_eq, filter_foldl_moveTo_of_outside Feature.id featureMoved
      (p := fun f => f.chartId == c.id) (fun _ _ => rfl), hfeatures c hc]
    intro f hf
    obtain ⟨c', hc', hfc'⟩ := List.mem_flatMap.mp (mem_of_mem_firstOfEachId Feature.id hf)
    have hc'q := mem_of_mem_firstOfEachId Chart.id hc'
    have hchartNe : c'.id ≠ c.id := fun h => hchartIds c' hc'q (h ▸ List.mem_map_of_mem hc)
    refine ⟨by simp [hchild c' hc'q f hfc', hchartNe], ?_⟩
    rw [hfeatures c hc]
    intro hmem
    obtain ⟨g, hg, hgid⟩ := List.mem_map.mp hmem
    exact hfeatureIds f (List.mem_flatMap.mpr ⟨c', hc'q, hfc'⟩)
      (List.mem_map.mpr ⟨g, List.mem_flatMap.mpr ⟨c, hc, hg⟩, hgid⟩)

/-! ## A seeding call, around one of its dashboards -/

/-- Seeding a batch in two parts: the first part, then the second after it. -/
theorem seedFrom_append (index : Nat) (place : Int) (st : Store) (xs ys : List Board) :
    seedFrom index place st (xs ++ ys) =
      (seedFrom index place st xs).bind fun st₁ =>
        seedFrom (index + xs.length) (place + xs.length) st₁ ys := by
  induction xs generalizing index place st with
  | nil => simp [seedFrom, Except.bind]
  | cons b bs ih =>
    simp only [List.cons_append, seedFrom]
    split
    · rfl
    · split
      · rfl
      · rw [ih]
        have hindex : index + 1 + bs.length = index + (b :: bs).length := by
          simp only [List.length_cons]; omega
        have hplace : place + 1 + (bs.length : Int) = place + ((b :: bs).length : Int) := by
          simp only [List.length_cons]; push_cast; omega
        rw [hindex, hplace]

/-- A batch that stores `d` after the seeds `before`: the store after them, the store after `d`,
and the rest of the batch stored after it. -/
theorem seedFrom_around {index : Nat} {place : Int} {st st' : Store} {before after : List Board}
    {d : Board} (h : seedFrom index place st (before ++ d :: after) = .ok st') :
    ∃ st₁ st₂, seedFrom index place st before = .ok st₁ ∧
      insertBoard { st₁ with generatedIds := (prepareBoard (place + before.length)
          st₁.generatedIds d).2 } (prepareBoard (place + before.length) st₁.generatedIds d).1 =
        .ok st₂ ∧
      seedFrom (index + before.length + 1) (place + before.length + 1) st₂ after = .ok st' := by
  rw [seedFrom_append] at h
  cases hbefore : seedFrom index place st before with
  | error e => rw [hbefore] at h; cases h
  | ok st₁ =>
    rw [hbefore] at h
    have hrest : seedFrom (index + before.length) (place + before.length) st₁ (d :: after) =
        .ok st' := h
    obtain ⟨-, st₂, hinsert, hafter⟩ := seedFrom_cons_eq_ok hrest
    exact ⟨st₁, st₂, rfl, hinsert, hafter⟩

/-- The ids of the rows a prepared seed adds: the ids of stored rows, generated ones, and ids
that the seed gave. -/
theorem insertBoard_prepared_ids {st st' : Store} {b : Board} {place : Int} (hb : b.Written)
    (h : insertBoard { st with generatedIds := (prepareBoard place st.generatedIds b).2 }
      (prepareBoard place st.generatedIds b).1 = .ok st') :
    (∀ c ∈ st'.charts, c.id ∈ st.charts.map Chart.id ∨ c.id.isText = false ∨
      ∃ c₀ ∈ b.charts, c₀.id.isMissing = false ∧ c₀.id = c.id) ∧
    ∀ f ∈ st'.features, f.id ∈ st.features.map Feature.id ∨ f.id.isText = false ∨
      ∃ f₀ ∈ b.charts.flatMap (·.features), f₀.id.isMissing = false ∧ f₀.id = f.id := by
  obtain ⟨hcharts, hfeatures, -⟩ := insertBoard_eq_ok_tables h
  obtain ⟨-, -, hchartIds, hfeatureIds⟩ := prepareCharts_spec (fillId b.id st.generatedIds).1 1
    (fillId b.id st.generatedIds).2 b.charts hb.2
  rw [← prepareBoard_charts place] at hchartIds hfeatureIds
  refine ⟨?_, ?_⟩
  · rw [hcharts, storeCharts_eq]
    refine forall_mem_foldl_moveTo Chart.id chartMoved (fun _ _ hr _ => hr) (fun c hc => .inl
      (List.mem_map_of_mem hc)) ?_
    intro x hx
    obtain ⟨c, hc, rfl⟩ := List.mem_map.mp hx
    obtain ⟨-, -, hfrom, -⟩ := hchartIds c (mem_of_mem_firstOfEachId Chart.id hc)
    cases htext : c.id.isText
    · exact .inr (.inl htext)
    · exact .inr (.inr (hfrom htext))
  · rw [hfeatures, storeFeatures_eq]
    refine forall_mem_foldl_moveTo Feature.id featureMoved (fun _ _ hr _ => hr) (fun f hf => .inl
      (List.mem_map_of_mem hf)) ?_
    intro f hf
    obtain ⟨c, hc, hfc⟩ := List.mem_flatMap.mp (mem_of_mem_firstOfEachId Feature.id hf)
    obtain ⟨-, hfrom⟩ := hfeatureIds f
      (List.mem_flatMap.mpr ⟨c, mem_of_mem_firstOfEachId Chart.id hc, hfc⟩)
    cases htext : f.id.isText
    · exact .inr (.inl rfl)
    · exact .inr (.inr (hfrom htext))

/-- The ids of the rows after a batch: the ids of rows stored before, generated ones, and ids that
a seed of the batch gave. Induction on the batch. -/
theorem seedFrom_ids {index : Nat} {place : Int} {st st' : Store} {boards : List Board}
    (hb : ∀ b ∈ boards, b.Written) (h : seedFrom index place st boards = .ok st') :
    (∀ c ∈ st'.charts, c.id ∈ st.charts.map Chart.id ∨ c.id.isText = false ∨
      ∃ b ∈ boards, ∃ c₀ ∈ b.charts, c₀.id.isMissing = false ∧ c₀.id = c.id) ∧
    ∀ f ∈ st'.features, f.id ∈ st.features.map Feature.id ∨ f.id.isText = false ∨
      ∃ b ∈ boards, ∃ f₀ ∈ b.charts.flatMap (·.features), f₀.id.isMissing = false ∧ f₀.id = f.id := by
  induction boards generalizing index place st with
  | nil =>
    cases h
    exact ⟨fun c hc => .inl (List.mem_map_of_mem hc), fun f hf => .inl (List.mem_map_of_mem hf)⟩
  | cons b bs ih =>
    obtain ⟨-, st₁, hinsert, hrest⟩ := seedFrom_cons_eq_ok h
    obtain ⟨hcharts₁, hfeatures₁⟩ :=
      insertBoard_prepared_ids (hb b (List.mem_cons_self ..)) hinsert
    obtain ⟨hcharts, hfeatures⟩ := ih (fun b' hb' => hb b' (List.mem_cons_of_mem _ hb')) hrest
    refine ⟨fun c hc => ?_, fun f hf => ?_⟩
    · rcases hcharts c hc with hold | hgen | ⟨b', hb', hfrom⟩
      · -- a row of the store after `b`: stored before, generated, or given by `b`
        obtain ⟨c₁, hc₁, hid⟩ := List.mem_map.mp hold
        rcases hcharts₁ c₁ hc₁ with hold' | hgen' | hfrom'
        · exact .inl (hid ▸ hold')
        · exact .inr (.inl (hid ▸ hgen'))
        · exact .inr (.inr ⟨b, List.mem_cons_self .., hid ▸ hfrom'⟩)
      · exact .inr (.inl hgen)
      · exact .inr (.inr ⟨b', List.mem_cons_of_mem _ hb', hfrom⟩)
    · rcases hfeatures f hf with hold | hgen | ⟨b', hb', hfrom⟩
      · obtain ⟨f₁, hf₁, hid⟩ := List.mem_map.mp hold
        rcases hfeatures₁ f₁ hf₁ with hold' | hgen' | hfrom'
        · exact .inl (hid ▸ hold')
        · exact .inr (.inl (hid ▸ hgen'))
        · exact .inr (.inr ⟨b, List.mem_cons_self .., hid ▸ hfrom'⟩)
      · exact .inr (.inl hgen)
      · exact .inr (.inr ⟨b', List.mem_cons_of_mem _ hb', hfrom⟩)

/-- The rest of a batch leaves the rows of a stored dashboard, when the ids of its charts and
features were generated before the rest was prepared or are texts that no seed of the rest
gives. Induction on the rest, with `insertBoard_keeps` for each seed. -/
theorem seedFrom_keeps {index : Nat} {place : Int} {st st' : Store} {after : List Board}
    {boardId : RecordId} {cs : List Chart} {mark : Nat}
    (hb : ∀ b ∈ after, b.Written) (h : seedFrom index place st after = .ok st')
    (hmark : mark ≤ st.generatedIds) (hboard : boardId ∈ st.boards.map Board.id)
    (hcharts : st.charts.filter (fun c => c.dashboardId == boardId) = cs.map chartRow)
    (hfeatures : ∀ c ∈ cs, st.features.filter (fun f => f.chartId == c.id) = c.features)
    (hchartIds : ∀ c ∈ cs, c.id.Between 0 mark ∧
      (c.id.isText = true → ∀ b ∈ after, ∀ c' ∈ b.charts, c'.id ≠ c.id))
    (hfeatureIds : ∀ f ∈ cs.flatMap (·.features), f.id.Between 0 mark ∧
      (f.id.isText = true → ∀ b ∈ after, ∀ f' ∈ b.charts.flatMap (·.features), f'.id ≠ f.id)) :
    st'.charts.filter (fun c => c.dashboardId == boardId) = cs.map chartRow ∧
      ∀ c ∈ cs, st'.features.filter (fun f => f.chartId == c.id) = c.features := by
  induction after generalizing index place st with
  | nil =>
    cases h
    exact ⟨hcharts, hfeatures⟩
  | cons b bs ih =>
    obtain ⟨-, st₁, hinsert, hrest⟩ := seedFrom_cons_eq_ok h
    have hbw := hb b (List.mem_cons_self ..)
    obtain ⟨hle, -, hrows, hfeatureRows⟩ := prepareBoard_rows place st.generatedIds b hbw
    obtain ⟨-, -, hchartFrom, hfeatureFrom⟩ := prepareCharts_spec
      (fillId b.id st.generatedIds).1 1 (fillId b.id st.generatedIds).2 b.charts hbw.2
    rw [← prepareBoard_charts place] at hchartFrom hfeatureFrom
    obtain ⟨-, -, hcounter⟩ := insertBoard_eq_ok_tables hinsert
    have hchartsOther : ∀ x ∈ (prepareBoard place st.generatedIds b).1.charts,
        x.id ∉ cs.map Chart.id := by
      intro x hx hmem
      obtain ⟨c, hc, hcx⟩ := List.mem_map.mp hmem
      obtain ⟨hcb, hcgiven⟩ := hchartIds c hc
      cases htext : c.id.isText
      · exact RecordId.Between.ne hcb ((hrows x hx).1.mono hmark (Nat.le_refl _)) htext hcx
      · obtain ⟨c₀, hc₀, -, hc₀id⟩ := (hchartFrom x hx).2.2.1 (hcx ▸ htext)
        exact hcgiven htext b (List.mem_cons_self ..) c₀ hc₀ (hc₀id.trans hcx.symm)
    have hfeaturesOther : ∀ g ∈ (prepareBoard place st.generatedIds b).1.charts.flatMap
        (·.features), g.id ∉ (cs.flatMap (·.features)).map Feature.id := by
      intro g hg hmem
      obtain ⟨f, hf, hfg⟩ := List.mem_map.mp hmem
      obtain ⟨hfb, hfgiven⟩ := hfeatureIds f hf
      cases htext : f.id.isText
      · exact RecordId.Between.ne hfb ((hfeatureRows g hg).mono hmark (Nat.le_refl _)) htext hfg
      · obtain ⟨f₀, hf₀, -, hf₀id⟩ := (hfeatureFrom g hg).2 (hfg ▸ htext)
        exact hfgiven htext b (List.mem_cons_self ..) f₀ hf₀ (hf₀id.trans hfg.symm)
    obtain ⟨hboard₁, hcharts₁, hfeatures₁⟩ := insertBoard_keeps hinsert hboard
      (fun c hc => (hrows c hc).2.1) (fun c hc => (hrows c hc).2.2) hcharts hfeatures
      hchartsOther hfeaturesOther
    refine ih (fun b' hb' => hb b' (List.mem_cons_of_mem _ hb')) hrest ?_ hboard₁ hcharts₁
      hfeatures₁ ?_ ?_
    · rw [hcounter]
      exact Nat.le_trans hmark hle
    · intro c hc
      exact ⟨(hchartIds c hc).1, fun htext b' hb' => (hchartIds c hc).2 htext b'
        (List.mem_cons_of_mem _ hb')⟩
    · intro f hf
      exact ⟨(hfeatureIds f hf).1, fun htext b' hb' => (hfeatureIds f hf).2 htext b'
        (List.mem_cons_of_mem _ hb')⟩

/-! ## Finding the dashboard -/

/-- The chart and feature ids that a seed gives are its own: pairwise different, held by no row
of the store it is seeded into, and given by no other seed of its call. -/
structure OwnsIds (d : Board) (st : Store) (others : List Board) : Prop where
  chartsDistinct : d.charts.Pairwise fun c c' => c.id.isMissing = false → c.id ≠ c'.id
  featuresDistinct :
    (d.charts.flatMap (·.features)).Pairwise fun f g => f.id.isMissing = false → f.id ≠ g.id
  chartsNew : ∀ c ∈ d.charts, c.id.isMissing = false → c.id ∉ st.charts.map Chart.id
  featuresNew : ∀ f ∈ d.charts.flatMap (·.features), f.id.isMissing = false →
    f.id ∉ st.features.map Feature.id
  chartsOwn : ∀ c ∈ d.charts, c.id.isMissing = false → ∀ b ∈ others, ∀ c' ∈ b.charts, c'.id ≠ c.id
  featuresOwn : ∀ f ∈ d.charts.flatMap (·.features), f.id.isMissing = false →
    ∀ b ∈ others, ∀ f' ∈ b.charts.flatMap (·.features), f'.id ≠ f.id

/-- Attaching to each chart row the features that carry its id gives back the charts, when each
chart's features are those. -/
theorem map_attach_chartRow {cs : List Chart} {features : List Feature}
    (h : ∀ c ∈ cs, features.filter (fun f => f.chartId == c.id) = c.features) :
    (cs.map chartRow).map (fun c => { c with features := features.filter fun f => f.chartId == c.id })
      = cs := by
  rw [List.map_map]
  conv => rhs; rw [← List.map_id cs]
  refine List.map_congr_left fun c hc => ?_
  simp only [Function.comp_apply, chartRow, id]
  rw [h c hc]

/-- A dashboard stored first under a slug, whose chart rows and features are known, is found with
those charts ordered by position, each with its features. -/
theorem find_of_rows {st : Store} {q : String} {p : Board}
    (hfirst : st.boards.find? (fun b => b.slug == Text.trimBlank q) = some { p with charts := [] })
    (hcharts : st.charts.filter (fun c => c.dashboardId == p.id) = p.charts.map chartRow)
    (hfeatures : ∀ c ∈ p.charts, st.features.filter (fun f => f.chartId == c.id) = c.features) :
    st.find q = .ok { p with charts := byPosition Chart.position p.charts } := by
  have hsort : ((p.charts.map chartRow).mergeSort fun a b => decide (a.position ≤ b.position)).map
      (fun c : Chart => { c with features := st.features.filter fun f => f.chartId == c.id }) =
      ((p.charts.map chartRow).map
        (fun c : Chart => { c with features := st.features.filter fun f => f.chartId == c.id })).mergeSort
        fun a b => decide (a.position ≤ b.position) :=
    List.map_mergeSort fun _ _ _ _ => rfl
  unfold Store.find
  rw [hfirst]
  simp only
  rw [hcharts, byPosition, hsort, map_attach_chartRow hfeatures]
  rfl

/-- The ids of a seed's prepared rows are its own in the batch, when the ids it gives are: the
rows stored by the seeds before it hold none of them, and no seed after it gives one. A given id
is the seed's own by `OwnsIds`; a generated id is newer than every stored row and is no text. -/
theorem prepared_ids_own {index : Nat} {start : Int} {st st₁ : Store} {before after : List Board}
    {d : Board} (place : Int) (hw₁ : Wired st₁) (hbw : ∀ b ∈ before, b.Written)
    (hdw : d.Written) (hbefore : seedFrom index start st before = .ok st₁)
    (hown : OwnsIds d st (before ++ after)) :
    (∀ c ∈ (prepareBoard place st₁.generatedIds d).1.charts,
      c.id ∉ st₁.charts.map Chart.id ∧
        (c.id.isText = true → ∀ b ∈ after, ∀ c' ∈ b.charts, c'.id ≠ c.id)) ∧
    ∀ f ∈ (prepareBoard place st₁.generatedIds d).1.charts.flatMap (·.features),
      f.id ∉ st₁.features.map Feature.id ∧
        (f.id.isText = true → ∀ b ∈ after, ∀ f' ∈ b.charts.flatMap (·.features), f'.id ≠ f.id) := by
  obtain ⟨-, -, hrows, hfeatureRows⟩ := prepareBoard_rows place st₁.generatedIds d hdw
  obtain ⟨-, -, hchartFrom, hfeatureFrom⟩ := prepareCharts_spec (fillId d.id st₁.generatedIds).1 1
    (fillId d.id st₁.generatedIds).2 d.charts hdw.2
  rw [← prepareBoard_charts place] at hchartFrom hfeatureFrom
  obtain ⟨hchartsBefore, hfeaturesBefore⟩ := seedFrom_ids hbw hbefore
  refine ⟨fun c hc => ⟨?chartNew, ?chartLater⟩, fun f hf => ⟨?featureNew, ?featureLater⟩⟩
  case chartNew =>
    intro hmem
    obtain ⟨r, hr, hrc⟩ := List.mem_map.mp hmem
    cases htext : c.id.isText
    · exact RecordId.Between.ne (hw₁.chartsCounted r hr) (hrows c hc).1 (hrc ▸ htext) hrc
    · -- the stored row has a given id: stored before the call, or given by an earlier seed
      obtain ⟨c₀, hc₀, hgiven, hc₀id⟩ := (hchartFrom c hc).2.2.1 htext
      rcases hchartsBefore r hr with hold | hgen | ⟨b, hb, c', hc', -, hc'id⟩
      · exact hown.chartsNew c₀ hc₀ hgiven (hc₀id ▸ hrc ▸ hold)
      · simp [hrc, htext] at hgen
      · exact hown.chartsOwn c₀ hc₀ hgiven b (by simp [hb]) c' hc'
          (hc'id.trans (hrc.trans hc₀id.symm))
  case chartLater =>
    intro htext b hb c' hc' hid
    obtain ⟨c₀, hc₀, hgiven, hc₀id⟩ := (hchartFrom c hc).2.2.1 htext
    exact hown.chartsOwn c₀ hc₀ hgiven b (by simp [hb]) c' hc' (hid.trans hc₀id.symm)
  case featureNew =>
    intro hmem
    obtain ⟨r, hr, hrf⟩ := List.mem_map.mp hmem
    cases htext : f.id.isText
    · exact RecordId.Between.ne (hw₁.featuresCounted r hr) (hfeatureRows f hf) (hrf ▸ htext) hrf
    · obtain ⟨f₀, hf₀, hgiven, hf₀id⟩ := (hfeatureFrom f hf).2 htext
      rcases hfeaturesBefore r hr with hold | hgen | ⟨b, hb, f', hf', -, hf'id⟩
      · exact hown.featuresNew f₀ hf₀ hgiven (hf₀id ▸ hrf ▸ hold)
      · simp [hrf, htext] at hgen
      · exact hown.featuresOwn f₀ hf₀ hgiven b (by simp [hb]) f' hf'
          (hf'id.trans (hrf.trans hf₀id.symm))
  case featureLater =>
    intro htext b hb f' hf' hid
    obtain ⟨f₀, hf₀, hgiven, hf₀id⟩ := (hfeatureFrom f hf).2 htext
    exact hown.featuresOwn f₀ hf₀ hgiven b (by simp [hb]) f' hf' (hid.trans hf₀id.symm)

/-- A dashboard that a seeding call stores, whose chart and feature ids are its own, is found
under its slug as it was prepared, its charts ordered by position. -/
theorem find_after_seed {st st' : Store} {before after : List Board} {d : Board}
    (hreach : Reached st) (hwritten : ∀ b ∈ before ++ d :: after, b.Written)
    (hseed : st.seed (before ++ d :: after) = .ok st') (hown : OwnsIds d st (before ++ after)) :
    ∃ fresh, ∀ q, Text.trimBlank q =
        (prepareBoard (st.boards.length + 1 + before.length) fresh d).1.slug →
      st'.find q = .ok { (prepareBoard (st.boards.length + 1 + before.length) fresh d).1 with
        charts := byPosition Chart.position
          (prepareBoard (st.boards.length + 1 + before.length) fresh d).1.charts } := by
  obtain ⟨st₁, st₂, hbefore, hinsert, hafter⟩ := seedFrom_around hseed
  have hbw : ∀ b ∈ before, b.Written := fun b hb => hwritten b (by simp [hb])
  have haw : ∀ b ∈ after, b.Written := fun b hb => hwritten b (by simp [hb])
  have hdw : d.Written := hwritten d (by simp)
  have hw₁ : Wired st₁ := hreach.wired.seedFrom hbw hbefore
  refine ⟨st₁.generatedIds, fun q hq => ?_⟩
  set place : Int := st.boards.length + 1 + before.length
  set p := (prepareBoard place st₁.generatedIds d).1 with hp
  set fresh' := (prepareBoard place st₁.generatedIds d).2
  obtain ⟨hle, -, hrows, hfeatureRows⟩ := prepareBoard_rows place st₁.generatedIds d hdw
  have hchartIds : (p.charts.map Chart.id).Nodup := by
    rw [hp, prepareBoard_charts]
    exact prepareCharts_nodup _ _ _ _ hdw.2 hown.chartsDistinct
  have hfeatureIds : ((p.charts.flatMap (·.features)).map Feature.id).Nodup := by
    rw [hp, prepareBoard_charts]
    exact prepareCharts_features_nodup _ _ _ _ hdw.2 hown.featuresDistinct
  obtain ⟨hchartsOwn, hfeaturesOwn⟩ := prepared_ids_own place hw₁ hbw hdw hbefore hown
  obtain ⟨hcharts₂, hfeatures₂⟩ := insertBoard_own (hw₁.raise hle) hinsert hchartIds hfeatureIds
    (fun c hc => (hchartsOwn c hc).1) (fun f hf => (hfeaturesOwn f hf).1)
    (fun c hc => (hrows c hc).2.1) (fun c hc => (hrows c hc).2.2)
  obtain ⟨hboards₂, hslugNew, -⟩ := insertBoard_eq_ok hinsert
  obtain ⟨-, -, hcounter₂⟩ := insertBoard_eq_ok_tables hinsert
  have hmark : fresh' ≤ st₂.generatedIds := Nat.le_of_eq hcounter₂.symm
  obtain ⟨hcharts', hfeatures'⟩ := seedFrom_keeps haw hafter hmark (by rw [hboards₂]; simp)
    hcharts₂ hfeatures₂
    (fun c hc => ⟨(hrows c hc).1.mono (Nat.zero_le _) (Nat.le_refl _), (hchartsOwn c hc).2⟩)
    (fun f hf => ⟨(hfeatureRows f hf).mono (Nat.zero_le _) (Nat.le_refl _), (hfeaturesOwn f hf).2⟩)
  obtain ⟨added, hboards', -⟩ := seedFrom_eq_ok hafter
  have hfirst : st'.boards.find? (fun b => b.slug == Text.trimBlank q) =
      some { p with charts := [] } := by
    rw [hboards', hboards₂, List.append_assoc, List.find?_append, List.find?_eq_none.mpr]
    · simp [hq]
    · intro b hb heq
      have hslug : b.slug = p.slug := (beq_iff_eq.mp heq).trans hq
      exact hslugNew (hslug ▸ List.mem_map_of_mem (f := fun b : Board => b.slug) hb)
  exact find_of_rows hfirst hcharts' hfeatures'

/-- Charts that name no position are stored at their places. -/
theorem positions_of_stored {boardId : RecordId} {cs rows : List Chart} {place : Int}
    (hpos : ∀ c ∈ cs, c.position = 0)
    (h : List.Forall₂ (fun (sp : Chart × Int) row => ChartStored boardId sp.2 sp.1 row)
      (cs.zip (places place cs.length)) rows) :
    rows.map Chart.position = places place cs.length := by
  induction cs generalizing place rows with
  | nil =>
    cases h
    rfl
  | cons c cs ih =>
    rw [List.length_cons, places_succ, List.zip_cons_cons] at h
    cases h with
    | cons hrow hrest =>
      obtain ⟨-, hrowEq, -⟩ := hrow
      rw [List.length_cons, places_succ, List.map_cons,
        ih (fun c' hc' => hpos c' (List.mem_cons_of_mem _ hc')) hrest, hrowEq]
      simp [chartPlace, hpos c (List.mem_cons_self ..)]

/-- Whether a slug is found: exactly when a stored dashboard has it, trimmed. -/
theorem find_isOk_iff (st : Store) (q : String) :
    (∃ b, st.find q = .ok b) ↔ ∃ b ∈ st.boards, b.slug = Text.trimBlank q := by
  unfold Store.find
  cases hfind : st.boards.find? (fun b => b.slug == Text.trimBlank q) with
  | none =>
    simp only [reduceCtorEq, exists_false, false_iff]
    rintro ⟨b, hb, hslug⟩
    exact List.find?_eq_none.mp hfind b hb (by simp [hslug])
  | some b =>
    simp only [Except.ok.injEq, exists_eq', true_iff]
    exact ⟨b, List.mem_of_find?_eq_some hfind, by simpa using List.find?_some hfind⟩

end DashboardHarness.Store

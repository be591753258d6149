import DashboardHarness.Store.Query

/-!
# Seeding keeps the dashboard list in order

Seeding stores a batch of dashboards as one transaction, each dashboard at the place after those
stored before it, the earlier dashboards of its own batch included. A batch fails as a whole when
one of its dashboards has a blank title, or takes a slug or a given id that the store or an
earlier dashboard of the batch already holds; the store then stays as it was. A batch that
succeeds appends its dashboards in the order given.

When no seed names a position, every store reached from the empty one holds its dashboards at
the positions one to their number, in the order they were stored, under pairwise distinct
slugs, so the dashboard list by position is the stored order.

Main results:

- `seedFrom_eq_ok`: what a batch that succeeds appended, and what its seeds had to avoid.
- `seed_refused`: a blank title, or a slug or given id taken, makes the whole batch fail.
- `InOrder.append`: a batch appended after dashboards in order keeps them in order.
- `Seeded.inOrder`: every store that seeding reaches holds its dashboards in order.
- `seeding_contract`: all of these together.
-/

namespace DashboardHarness.Store

open Dashboard

/-- The slug a seed is stored under: its own, or the slug of its title when it has none. -/
def seedSlug (b : Board) : String :=
  if b.slug.isEmpty then slugOfTitle b.title else b.slug

/-- The places `start`, `start + 1`, … of `k` dashboards stored one after another. -/
def places (start : Int) (k : Nat) : List Int :=
  (List.range k).map fun i : Nat => start + (i : Int)

/-! ## Places -/

theorem places_succ (start : Int) (k : Nat) :
    places start (k + 1) = start :: places (start + 1) k := by
  simp only [places, List.range_succ_eq_map, List.map_cons, List.map_map]
  congr 1
  · omega
  · exact List.map_congr_left fun i _ => by simp only [Function.comp_apply]; omega

theorem places_add (start : Int) (m n : Nat) :
    places start (m + n) = places start m ++ places (start + m) n := by
  simp only [places, List.range_add, List.map_append, List.map_map]
  congr 1
  exact List.map_congr_left fun i _ => by simp only [Function.comp_apply]; omega

@[simp]
theorem length_places (start : Int) (k : Nat) : (places start k).length = k := by
  simp [places]

/-- Places increase strictly. -/
theorem places_pairwise_lt (start : Int) (k : Nat) : (places start k).Pairwise (· < ·) := by
  rw [places, List.pairwise_map]
  exact List.pairwise_lt_range.imp fun h => by omega

/-! ## One dashboard -/

section Prepare

variable (place : Int) (fresh : Nat) (b : Board)

@[simp]
theorem prepareBoard_title : (prepareBoard place fresh b).1.title = b.title := rfl

@[simp]
theorem prepareBoard_slug : (prepareBoard place fresh b).1.slug = seedSlug b := rfl

theorem prepareBoard_position (h : b.position = 0) :
    (prepareBoard place fresh b).1.position = place := by
  simp [prepareBoard, h]

theorem prepareBoard_id (h : b.id.isMissing = false) :
    (prepareBoard place fresh b).1.id = b.id := by
  simp [prepareBoard, fillId, h]

end Prepare

/-- A dashboard is stored after the stored ones, and only under a slug and an id that no stored
dashboard has. -/
theorem insertBoard_eq_ok {st st' : Store} {b : Board} (h : insertBoard st b = .ok st') :
    st'.boards = st.boards ++ [{ b with charts := [] }] ∧
      b.slug ∉ st.boards.map (·.slug) ∧ b.id ∉ st.boards.map (·.id) := by
  unfold insertBoard at h
  split at h
  · cases h
  · rename_i hslug
    split at h
    · cases h
    · rename_i hid
      dsimp only at h
      split at h
      · cases h
      · cases h
        refine ⟨rfl, ?_, ?_⟩
        · simpa using hslug
        · simpa using hid

/-! ## A batch -/

/-- What a batch that succeeded did, after the dashboards `old`: its seeds had titles, slugs and
given ids new to the store and to each other, and it appended one dashboard per seed, in
order, with the seed's title and slug, at the places from `place` on when no seed named one. -/
structure Appended (old boards added : List Board) (place : Int) : Prop where
  titled : ∀ b ∈ boards, Text.isBlankText b.title = false
  slugsFresh : ∀ b ∈ boards, seedSlug b ∉ old.map (·.slug)
  slugsDistinct : boards.Pairwise fun b c => seedSlug b ≠ seedSlug c
  idsFresh : ∀ b ∈ boards, b.id.isMissing = false → b.id ∉ old.map (·.id)
  idsDistinct : boards.Pairwise fun b c => b.id.isMissing = false → b.id ≠ c.id
  titles : added.map (·.title) = boards.map (·.title)
  slugs : added.map (·.slug) = boards.map seedSlug
  placed : (∀ b ∈ boards, b.position = 0) → added.map (·.position) = places place boards.length

theorem Appended.nil (old : List Board) (place : Int) : Appended old [] [] place where
  titled := by simp
  slugsFresh := by simp
  slugsDistinct := .nil
  idsFresh := by simp
  idsDistinct := .nil
  titles := rfl
  slugs := rfl
  placed := fun _ => rfl

/-- One more seed stored before a batch: its row, then the rows of the rest, which were stored
after it and so had to avoid its slug and id too. -/
theorem Appended.cons {old bs added : List Board} {b row : Board} {place : Int}
    (hrest : Appended (old ++ [row]) bs added (place + 1))
    (htitled : Text.isBlankText b.title = false) (htitle : row.title = b.title)
    (hslug : row.slug = seedSlug b) (hid : b.id.isMissing = false → row.id = b.id)
    (hplace : b.position = 0 → row.position = place)
    (hslugFresh : row.slug ∉ old.map (·.slug)) (hidFresh : row.id ∉ old.map (·.id)) :
    Appended old (b :: bs) (row :: added) place where
  titled := by
    intro c hc
    rcases List.mem_cons.mp hc with rfl | hc
    · exact htitled
    · exact hrest.titled c hc
  slugsFresh := by
    intro c hc
    rcases List.mem_cons.mp hc with rfl | hc
    · rwa [← hslug]
    · have h := hrest.slugsFresh c hc
      simp only [List.map_append, List.mem_append, not_or] at h
      exact h.1
  slugsDistinct := by
    refine List.pairwise_cons.mpr ⟨fun c hc heq => ?_, hrest.slugsDistinct⟩
    have h := hrest.slugsFresh c hc
    simp only [List.map_append, List.map_cons, List.map_nil, List.mem_append,
      List.mem_singleton, not_or] at h
    exact h.2 (by rw [hslug, heq])
  idsFresh := by
    intro c hc hgiven
    rcases List.mem_cons.mp hc with rfl | hc
    · rwa [← hid hgiven]
    · have h := hrest.idsFresh c hc hgiven
      simp only [List.map_append, List.mem_append, not_or] at h
      exact h.1
  idsDistinct := by
    refine List.pairwise_cons.mpr ⟨fun c hc hgiven heq => ?_, hrest.idsDistinct⟩
    have hcGiven : c.id.isMissing = false := heq ▸ hgiven
    have h := hrest.idsFresh c hc hcGiven
    simp only [List.map_append, List.map_cons, List.map_nil, List.mem_append,
      List.mem_singleton, not_or] at h
    exact h.2 (by rw [hid hgiven, heq])
  titles := by simp [htitle, hrest.titles]
  slugs := by simp [hslug, hrest.slugs]
  placed := by
    intro hpos
    have hrow := hplace (hpos b (List.mem_cons_self ..))
    have hrestPlaced := hrest.placed fun c hc => hpos c (List.mem_cons_of_mem _ hc)
    simp [hrow, hrestPlaced, places_succ]

/-- What a batch that succeeded did: the store's dashboards followed by one per seed, as
`Appended` says. Induction on the batch, the store growing by one dashboard each time. -/
theorem seedFrom_eq_ok {index : Nat} {place : Int} {st st' : Store} {boards : List Board}
    (h : seedFrom index place st boards = .ok st') :
    ∃ added, st'.boards = st.boards ++ added ∧ Appended st.boards boards added place := by
  induction boards generalizing index place st with
  | nil =>
    cases h
    exact ⟨[], by simp, Appended.nil _ _⟩
  | cons b bs ih =>
    unfold seedFrom at h
    split at h
    · cases h
    · rename_i hblank
      generalize hprep : prepareBoard place st.generatedIds b = prepared at h
      obtain ⟨row, fresh⟩ := prepared
      dsimp only at h
      split at h
      · cases h
      · rename_i st₁ hinsert
        have hrow : row = (prepareBoard place st.generatedIds b).1 := by rw [hprep]
        obtain ⟨hboards₁, hslugFresh, hidFresh⟩ := insertBoard_eq_ok hinsert
        obtain ⟨added, hboards, hrest⟩ := ih h
        rw [hboards₁] at hboards hrest
        refine ⟨{ row with charts := [] } :: added, by simp [hboards], hrest.cons ?_ ?_ ?_ ?_ ?_
          hslugFresh hidFresh⟩
        · simpa using hblank
        · simp [hrow]
        · simp [hrow]
        · intro hgiven
          simp [hrow, prepareBoard_id _ _ _ hgiven]
        · intro hpos
          simp [hrow, prepareBoard_position _ _ _ hpos]

/-- Why a batch cannot be stored. -/
inductive Refused (old boards : List Board) : Prop where
  /-- A seed has a blank title. -/
  | blankTitle (b : Board) : b ∈ boards → Text.isBlankText b.title = true → Refused old boards
  /-- A seed takes a slug that a stored dashboard has. -/
  | slugTaken (b : Board) : b ∈ boards → seedSlug b ∈ old.map (·.slug) → Refused old boards
  /-- Two seeds take one slug. -/
  | slugRepeated : ¬ boards.Pairwise (fun b c => seedSlug b ≠ seedSlug c) → Refused old boards
  /-- A seed gives an id that a stored dashboard has. -/
  | idTaken (b : Board) : b ∈ boards → b.id.isMissing = false → b.id ∈ old.map (·.id) →
      Refused old boards
  /-- Two seeds give one id. -/
  | idRepeated : ¬ boards.Pairwise (fun b c => b.id.isMissing = false → b.id ≠ c.id) →
      Refused old boards

/-- A refused batch fails as a whole: whichever seed breaks the rule, and however many seeds
before it were stored, the call ends in a failure. -/
theorem seed_refused {st : Store} {boards : List Board} (h : Refused st.boards boards) :
    ∃ e, st.seed boards = .error e := by
  cases hseed : st.seed boards with
  | error e => exact ⟨e, rfl⟩
  | ok st' =>
    obtain ⟨added, -, happ⟩ := seedFrom_eq_ok hseed
    exfalso
    cases h with
    | blankTitle b hb hblank => simp [happ.titled b hb] at hblank
    | slugTaken b hb hslug => exact happ.slugsFresh b hb hslug
    | slugRepeated hslugs => exact hslugs happ.slugsDistinct
    | idTaken b hb hgiven hid => exact happ.idsFresh b hb hgiven hid
    | idRepeated hids => exact hids happ.idsDistinct

theorem afterSeed_of_ok {st st' : Store} {boards : List Board} (h : st.seed boards = .ok st') :
    st.afterSeed boards = st' := by
  simp [Store.afterSeed, h]

theorem afterSeed_of_error {st : Store} {boards : List Board} {e : Failure}
    (h : st.seed boards = .error e) : st.afterSeed boards = st := by
  simp [Store.afterSeed, h]

/-! ## Every store that seeding reaches -/

/-- Dashboards in order: at the positions one to their number, as stored, under pairwise
distinct slugs. -/
structure InOrder (rows : List Board) : Prop where
  positions : rows.map (·.position) = places 1 rows.length
  slugs : (rows.map (·.slug)).Nodup

/-- A batch of seeds that name no position, appended after dashboards in order at the next
place, keeps them in order. -/
theorem InOrder.append {old boards added : List Board} (hold : InOrder old)
    (happ : Appended old boards added (old.length + 1)) (hpos : ∀ b ∈ boards, b.position = 0) :
    InOrder (old ++ added) := by
  have hlen : added.length = boards.length := by
    simpa using congrArg List.length happ.titles
  constructor
  · rw [List.map_append, hold.positions, happ.placed hpos, List.length_append, hlen,
      places_add, Int.add_comm]
  · rw [List.map_append, List.nodup_append, happ.slugs]
    refine ⟨hold.slugs, List.pairwise_map.mpr happ.slugsDistinct, ?_⟩
    intro s hs t ht hst
    obtain ⟨b, hb, rfl⟩ := List.mem_map.mp ht
    exact happ.slugsFresh b hb (hst ▸ hs)

/-- Dashboards in order are listed by position as stored. -/
theorem InOrder.byPosition_eq {rows : List Board} (h : InOrder rows) :
    byPosition Board.position rows = rows := by
  apply List.mergeSort_of_pairwise
  have hlt : (rows.map (·.position)).Pairwise (· < ·) := by
    rw [h.positions]
    exact places_pairwise_lt 1 rows.length
  exact (List.pairwise_map.mp hlt).imp fun hab => by simp only [decide_eq_true_eq]; omega

/-- The stores that seeding calls reach from the empty store when no seed names a position; a
call that fails leaves the store as it was. -/
inductive Seeded : Store → Prop where
  | empty : Seeded {}
  | call {st : Store} (boards : List Board) :
      Seeded st → (∀ b ∈ boards, b.position = 0) → Seeded (st.afterSeed boards)

/-- Every store that seeding reaches holds its dashboards in order: the empty store does, a
failed call keeps the store, and a successful one appends at the next place. -/
theorem Seeded.inOrder {st : Store} (h : Seeded st) : InOrder st.boards := by
  induction h with
  | empty => exact ⟨rfl, .nil⟩
  | @call st boards _ hpos ih =>
    cases hseed : st.seed boards with
    | error e => rwa [afterSeed_of_error hseed]
    | ok st' =>
      obtain ⟨added, hboards, happ⟩ := seedFrom_eq_ok hseed
      rw [afterSeed_of_ok hseed, hboards]
      exact ih.append happ hpos

/-- Seeding as one transaction. A call that fails leaves the dashboards, charts and features as
they were, and a call fails whenever a seed has a blank title or takes a slug or a given id that
the store or another seed of the call has. A call that succeeds, with no seed naming a position,
appends the seeds in order with their titles and slugs at the places after the stored
dashboards. Every store that such calls reach holds its dashboards at the positions one to their
number, in the order stored, under pairwise distinct slugs, and lists them by position in that
order. -/
theorem seeding_contract (st : Store) (boards : List Board) :
    (∀ e, st.seed boards = .error e → st.afterSeed boards = st) ∧
    (Refused st.boards boards → ∃ e, st.seed boards = .error e) ∧
    (∀ st', (∀ b ∈ boards, b.position = 0) → st.seed boards = .ok st' →
      ∃ added, st'.boards = st.boards ++ added ∧
        added.map (·.title) = boards.map (·.title) ∧
        added.map (·.slug) = boards.map seedSlug ∧
        added.map (·.position) = places (st.boards.length + 1) boards.length) ∧
    (Seeded st →
      st.boards.map (·.position) = places 1 st.boards.length ∧
        (st.boards.map (·.slug)).Nodup ∧ byPosition Board.position st.boards = st.boards) := by
  refine ⟨fun _ => afterSeed_of_error, seed_refused, fun st' hpos hseed => ?_, fun hst => ?_⟩
  · obtain ⟨added, hboards, happ⟩ := seedFrom_eq_ok hseed
    exact ⟨added, hboards, happ.titles, happ.slugs, happ.placed hpos⟩
  · have h := hst.inOrder
    exact ⟨h.positions, h.slugs, h.byPosition_eq⟩

/-- A store holding one dashboard, seeded into the empty store. -/
def salesStore : Store :=
  ({} : Store).afterSeed [{ slug := "sales", title := "Sales" }]

/-- Two dashboards seeded after the one of `salesStore` go to the places two and three, in the
order given, and the store lists its dashboards by position in the order stored. -/
theorem seeding_appends_after_stored :
    ∃ st' added,
      salesStore.seed [{ slug := "stock", title := "Stock" }, { slug := "staff", title := "Staff" }] =
        .ok st' ∧ st'.boards = salesStore.boards ++ added ∧
      added.map (·.title) = ["Stock", "Staff"] ∧ added.map (·.position) = [2, 3] ∧
      byPosition Board.position salesStore.boards = salesStore.boards := by
  have hseeded : Seeded salesStore := .call _ .empty (by decide)
  obtain ⟨-, -, happend, hreach⟩ := seeding_contract salesStore
    [{ slug := "stock", title := "Stock" }, { slug := "staff", title := "Staff" }]
  obtain ⟨added, hboards, htitles, -, hplaces⟩ := happend _ (by decide) rfl
  refine ⟨_, added, rfl, hboards, htitles, ?_, (hreach hseeded).2.2⟩
  rw [hplaces]
  rfl

end DashboardHarness.Store

import DashboardHarness.Proofs.QuotedText
import DashboardHarness.Proofs.IntegerText
import DashboardHarness.Proofs.ActiveStrategy
import DashboardHarness.Proofs.Hover

/-!
# Selectors that share a key

A scripted page keys its elements by the text form of their selectors, so two selectors address
the same element exactly when their text forms agree. The text form quotes the text, the name
and the text filter, writes the CSS expression and the role as they are, and puts marks around
the parts: `role=` or `text=` before a strategy, `[name=` before a name, and ` >> ` before each
narrowing. It writes only the fields a selector uses. So two valid selectors can share a key
while they differ: in a field the text form does not write, such as a blank text beside a CSS
expression, or in a free-form part that spells a mark, such as the CSS expression `role=button`,
which is written as the role `button` is.

The text form reads back when neither happens. A plain selector is valid, leaves the strategies
it does not use empty and not merely blank, has a name only beside a role, begins its CSS
expression with neither `role=` nor `text=`, holds `>>` in neither its CSS expression nor its
role, and holds no `[` in its role. Then every part of its text form ends where the next mark
begins: a quoted part at its closing quote, a free-form part at the first ` >>` or `[`.

Main results:

- `Selector.free_append_cancel`: a free-form part ends where the marks after it begin.
- `Selector.marked_quote_append_inj`: a quoted part ends at its closing quote.
- `Selector.narrowing_inj`: the narrowing of a valid selector gives back its filter and index.
- `Selector.Plain.render_inj`: two plain selectors with the same text form are equal.
- `Selector.plain_selectors_keyed_apart`: what a scripted page does to the element of one plain
  selector leaves the element of another as it was.
- `Selector.css_spelling_role_shares_key`: a CSS selector and a role selector, both valid and
  without a name, that share a key.
-/

namespace DashboardHarness.Selector

/-! ## Free-form parts and the marks after them -/

/-- What may follow a free-form part of a text form: nothing, a narrowing, which begins with
` >>`, or a character of `stops`. -/
def Opens (stops t : List Char) : Prop :=
  t = [] ∨ (∃ r, t = ' ' :: '>' :: '>' :: r) ∨ ∃ c r, t = c :: r ∧ c ∈ stops

/-- A free-form part that cannot run into what follows it: it holds no `>>` and no character of
`stops`. -/
def Free (stops x : List Char) : Prop :=
  ¬ ">>".toList <:+: x ∧ ∀ c ∈ stops, c ∉ x

/-- A free-form part cannot reach into the marks after it: what it would take from them begins
with ` >>` or a stop, which it does not hold, or leaves behind a text that begins with `>`,
which no mark does. -/
theorem free_tail_nil {stops x a u : List Char} (hstops : '>' ∉ stops)
    (hfree : Free stops (x ++ a)) (ht : Opens stops (a ++ u)) (hu : Opens stops u) : a = [] := by
  rcases a with _ | ⟨a₀, a'⟩
  · rfl
  exfalso
  have hgt : ∀ r, ¬ Opens stops ('>' :: r) := by
    rintro r (h | ⟨r', h⟩ | ⟨c, r', h, hc⟩)
    · cases h
    · cases h
    · simp only [List.cons.injEq] at h
      exact hstops (h.1 ▸ hc)
  rcases ht with h | ⟨r, h⟩ | ⟨c, r, h, hc⟩
  · cases h
  · simp only [List.cons_append, List.cons.injEq] at h
    obtain ⟨rfl, h⟩ := h
    rcases a' with _ | ⟨a₁, a''⟩
    · simp only [List.nil_append] at h
      exact hgt _ (h ▸ hu)
    rcases a'' with _ | ⟨a₂, a'''⟩
    · simp only [List.cons_append, List.nil_append, List.cons.injEq] at h
      obtain ⟨rfl, h⟩ := h
      exact hgt _ (h ▸ hu)
    · simp only [List.cons_append, List.cons.injEq] at h
      obtain ⟨rfl, rfl, -⟩ := h
      exact hfree.1 ⟨x ++ [' '], a''', by simp⟩
  · simp only [List.cons_append, List.cons.injEq] at h
    obtain ⟨rfl, -⟩ := h
    exact hfree.2 a₀ hc (by simp)

/-- Two free-form parts followed by marks are the same part with the same marks after it. -/
theorem free_append_cancel {stops x y t u : List Char} (hstops : '>' ∉ stops)
    (hx : Free stops x) (hy : Free stops y) (ht : Opens stops t) (hu : Opens stops u)
    (h : x ++ t = y ++ u) : x = y ∧ t = u := by
  rcases List.append_eq_append_iff.1 h with ⟨a, rfl, rfl⟩ | ⟨c, rfl, rfl⟩
  · obtain rfl := free_tail_nil hstops hy ht hu
    simp
  · obtain rfl := free_tail_nil hstops hx hu ht
    simp

/-- A part that does not begin with a mark, followed by nothing or a narrowing, is not the mark
followed by anything, when the mark holds no space. -/
theorem unmarked_append_ne {x t m w : List Char} (hm : ¬ m <+: x) (hspace : ' ' ∉ m)
    (ht : Opens [] t) : x ++ t ≠ m ++ w := by
  intro h
  rcases List.append_eq_append_iff.1 h with ⟨a, hmx, hta⟩ | ⟨c, hxm, -⟩
  · rcases a with _ | ⟨a₀, a'⟩
    · exact hm ⟨[], by simp [hmx]⟩
    · -- the mark runs on into what follows the part, which begins with a space
      rcases ht with rfl | ⟨r, rfl⟩ | ⟨c, r, -, hc⟩
      · simp at hta
      · simp only [List.cons_append, List.cons.injEq] at hta
        exact hspace (hta.1 ▸ hmx ▸ by simp)
      · simp at hc
  · exact hm ⟨c, hxm.symm⟩

/-! ## Quoted parts -/

/-- A part written only when its text is set, as a mark, the quoted text and a closing mark,
gives back its text and what follows it, when what follows never begins with the mark: the
quoted text ends at its closing quote. -/
theorem marked_quote_append_inj {mark close t u : List Char} {x y : String}
    (ht : ∀ r, t ≠ mark ++ r) (hu : ∀ r, u ≠ mark ++ r)
    (h : (if x ≠ "" then mark ++ (Text.quote x).toList ++ close else []) ++ t =
      (if y ≠ "" then mark ++ (Text.quote y).toList ++ close else []) ++ u) :
    x = y ∧ t = u := by
  by_cases hx : x = "" <;> by_cases hy : y = ""
  · simp only [hx, hy, ne_eq, not_true_eq_false, if_false, List.nil_append] at h
    exact ⟨hx.trans hy.symm, h⟩
  · -- a part on one side only: the other side begins with what follows, which has no mark
    simp only [hx, hy, ne_eq, not_true_eq_false, not_false_eq_true, if_false, if_true,
      List.nil_append, List.append_assoc] at h
    exact absurd h (ht _)
  · simp only [hx, hy, ne_eq, not_true_eq_false, not_false_eq_true, if_false, if_true,
      List.nil_append, List.append_assoc] at h
    exact absurd h.symm (hu _)
  · simp only [ne_eq, hx, hy, not_false_eq_true, if_true, List.append_assoc,
      List.append_cancel_left_eq] at h
    obtain ⟨hxy, hrest⟩ := Text.quote_append_inj h
    exact ⟨hxy, List.append_cancel_left hrest⟩

/-! ## The narrowing -/

/-- The text filter part of a narrowing. -/
def filterText (filter : String) : List Char :=
  if filter ≠ "" then " >> has-text=".toList ++ (Text.quote filter).toList else []

/-- The index part of a narrowing. -/
def indexText (index : Int) : List Char :=
  if index ≠ 0 then " >> nth=".toList ++ (toString index).toList else []

theorem toList_narrowingText (s : Selector) :
    s.narrowingText.toList = filterText s.hasText ++ indexText s.index := by
  simp only [narrowingText, filterText, indexText]
  split <;> split <;> simp

/-- The text filter part is a quoted part with no closing mark. -/
theorem filterText_eq (x : String) :
    filterText x =
      if x ≠ "" then " >> has-text=".toList ++ (Text.quote x).toList ++ [] else [] := by
  rw [List.append_nil]
  rfl

theorem indexText_cases (i : Int) :
    indexText i = [] ∨ ∃ d, indexText i = " >> nth=".toList ++ d := by
  unfold indexText
  split
  · exact .inr ⟨_, rfl⟩
  · exact .inl rfl

/-- A narrowing is empty or begins with ` >>`. -/
theorem opens_narrowing (stops : List Char) (s : Selector) :
    Opens stops s.narrowingText.toList := by
  rw [toList_narrowingText]
  by_cases hfilter : s.hasText = ""
  · simp only [filterText, hfilter, ne_eq, not_true_eq_false, if_false, List.nil_append]
    rcases indexText_cases s.index with h | ⟨d, h⟩
    · exact .inl h
    · exact .inr (.inl ⟨" nth=".toList ++ d, by simp [h]⟩)
  · refine .inr (.inl ⟨" has-text=".toList ++ (Text.quote s.hasText).toList ++ indexText s.index,
      ?_⟩)
    simp only [filterText, ne_eq, hfilter, not_false_eq_true, if_true]
    generalize (Text.quote s.hasText).toList = q
    simp

/-- No index part begins as a text filter does. -/
theorem indexText_ne_filter (i : Int) (r : List Char) :
    indexText i ≠ " >> has-text=".toList ++ r := by
  rcases indexText_cases i with h | ⟨d, h⟩ <;> rw [h] <;> simp

/-- The index part of an index that is not negative gives back the index. -/
theorem indexText_inj {i j : Int} (hi : 0 ≤ i) (hj : 0 ≤ j) (h : indexText i = indexText j) :
    i = j := by
  by_cases hi0 : i = 0 <;> by_cases hj0 : j = 0
  · rw [hi0, hj0]
  · simp only [indexText, hi0, hj0, ne_eq, not_true_eq_false, not_false_eq_true, if_false,
      if_true] at h
    generalize (toString j).toList = d at h
    simp at h
  · simp only [indexText, hi0, hj0, ne_eq, not_true_eq_false, not_false_eq_true, if_false,
      if_true] at h
    generalize (toString i).toList = d at h
    simp at h
  · -- both written: the decimal digits of the two indices agree
    simp only [indexText, ne_eq, hi0, hj0, not_false_eq_true, if_true,
      List.append_cancel_left_eq, Text.toList_intToString, Int.not_lt.2 hi, Int.not_lt.2 hj,
      if_false, List.nil_append] at h
    have habs := congrArg (Nat.ofDigitChars 10 · 0) h
    simp only [Nat.ofDigitChars_ten_toDigits] at habs
    rw [← Int.natAbs_of_nonneg hi, ← Int.natAbs_of_nonneg hj, habs]

/-- The narrowing of a selector whose index is not negative gives back its filter and index:
the filter's quoted text ends at its closing quote, and the index is the rest. -/
theorem narrowing_inj {a b : Selector} (ha : 0 ≤ a.index) (hb : 0 ≤ b.index)
    (h : a.narrowingText.toList = b.narrowingText.toList) :
    a.hasText = b.hasText ∧ a.index = b.index := by
  rw [toList_narrowingText, toList_narrowingText, filterText_eq, filterText_eq] at h
  obtain ⟨hfilter, hindex⟩ :=
    marked_quote_append_inj (indexText_ne_filter a.index) (indexText_ne_filter b.index) h
  exact ⟨hfilter, indexText_inj ha hb hindex⟩

/-! ## The name beside a role -/

/-- The name part of a role's text form. -/
def nameText (s : Selector) : List Char :=
  if s.name ≠ "" then "[name=".toList ++ (Text.quote s.name).toList ++ "]".toList else []

/-- No narrowing begins with `[`. -/
theorem narrowing_ne_bracket (s : Selector) (r : List Char) :
    s.narrowingText.toList ≠ "[name=".toList ++ r := by
  rcases opens_narrowing [] s with h | ⟨r', h⟩ | ⟨c, r', -, hc⟩
  · rw [h]
    simp
  · rw [h]
    simp
  · simp at hc

/-- What follows a role opens with `[`, ` >>` or nothing. -/
theorem opens_name (s : Selector) : Opens ['['] (nameText s ++ s.narrowingText.toList) := by
  by_cases hname : s.name = ""
  · simp only [nameText, hname, ne_eq, not_true_eq_false, if_false, List.nil_append]
    exact opens_narrowing _ s
  · refine .inr (.inr ⟨'[', "name=".toList ++ (Text.quote s.name).toList ++ "]".toList ++
      s.narrowingText.toList, ?_, by simp⟩)
    simp only [nameText, ne_eq, hname, not_false_eq_true, if_true]
    generalize (Text.quote s.name).toList = q
    simp

/-- The name and the narrowing after a role give back the name and the narrowing: the name's
quoted text ends at its closing quote, and no narrowing begins with `[`. -/
theorem name_append_inj {a b : Selector}
    (h : nameText a ++ a.narrowingText.toList = nameText b ++ b.narrowingText.toList) :
    a.name = b.name ∧ a.narrowingText.toList = b.narrowingText.toList := by
  unfold nameText at h
  exact marked_quote_append_inj (narrowing_ne_bracket a) (narrowing_ne_bracket b) h

/-! ## Plain selectors -/

instance (stops x : List Char) : Decidable (Free stops x) :=
  inferInstanceAs (Decidable (_ ∧ _))

/-- A selector whose text form reads back: it is valid, leaves empty, not merely blank, the
strategies it does not use, has a name only beside a role, begins its CSS expression with no
strategy's mark, and spells no narrowing in its CSS expression or role and no name in its
role. -/
structure Plain (s : Selector) : Prop where
  valid : s.validate = .ok ()
  unused_empty : ∀ k : Strategy, Text.isBlankText (s.field k) = true → s.field k = ""
  name_of_role : s.role = "" → s.name = ""
  css_unmarked : ¬ "role=".toList <+: s.css.toList ∧ ¬ "text=".toList <+: s.css.toList
  free_css : Free [] s.css.toList
  free_role : Free ['['] s.role.toList

/-- A plain selector sets exactly one strategy and leaves the other two empty. -/
theorem Plain.shape {s : Selector} (hs : Plain s) :
    (s.css ≠ "" ∧ s.role = "" ∧ s.text = "") ∨ (s.css = "" ∧ s.role ≠ "" ∧ s.text = "") ∨
      (s.css = "" ∧ s.role = "" ∧ s.text ≠ "") := by
  have hcount := ((validate_eq_ok_iff s).mp hs.valid).1
  have hcss := hs.unused_empty .css
  have hrole := hs.unused_empty .role
  have htext := hs.unused_empty .text
  simp only [field] at hcss hrole htext
  cases hc : Text.isBlankText s.css <;> cases hr : Text.isBlankText s.role <;>
    cases ht : Text.isBlankText s.text <;> simp [strategyCount, hc, hr, ht] at hcount
  case false.true.true => exact .inl ⟨ne_empty_of_not_blank hc, hrole hr, htext ht⟩
  case true.false.true => exact .inr (.inl ⟨hcss hc, ne_empty_of_not_blank hr, htext ht⟩)
  case true.true.false => exact .inr (.inr ⟨hcss hc, hrole hr, ne_empty_of_not_blank ht⟩)

/-- A part without `>` holds no `>>`. -/
theorem not_infix_of_not_mem {x : List Char} (h : '>' ∉ x) : ¬ ">>".toList <:+: x := by
  intro hinfix
  apply h
  exact List.IsInfix.subset hinfix (by simp)

/-- A role selector is plain when its role is not blank and holds neither `>` nor `[`. -/
theorem plain_ofRole {role name : String} (hset : Text.isBlankText role = false)
    (hgt : '>' ∉ role.toList) (hbracket : '[' ∉ role.toList) : Plain (ofRole role name) where
  valid := by
    rw [validate_eq_ok_iff]
    have hempty : Text.isBlankText "" = true := rfl
    simp [strategyCount, ofRole, hset, hempty]
  unused_empty k hk := by
    cases k with
    | role => simp [field, ofRole, hset] at hk
    | css | text => rfl
  name_of_role h := absurd h (ne_empty_of_not_blank hset)
  css_unmarked := by simp [ofRole]
  free_css := by simp [Free, ofRole]
  free_role := ⟨not_infix_of_not_mem hgt, by simpa [ofRole] using hbracket⟩

/-- A text selector is plain when its text is not blank. -/
theorem plain_ofText {text : String} (hset : Text.isBlankText text = false) :
    Plain (ofText text) where
  valid := by
    rw [validate_eq_ok_iff]
    have hempty : Text.isBlankText "" = true := rfl
    simp [strategyCount, ofText, hset, hempty]
  unused_empty k hk := by
    cases k with
    | text => simp [field, ofText, hset] at hk
    | css | role => rfl
  name_of_role _ := rfl
  css_unmarked := by simp [ofText]
  free_css := by simp [Free, ofText]
  free_role := by simp [Free, ofText]

theorem render_of_css {s : Selector} (hcss : s.css ≠ "") :
    s.render.toList = s.css.toList ++ s.narrowingText.toList := by
  rw [render_css s hcss, String.toList_append]

theorem render_of_role {s : Selector} (hcss : s.css = "") (hrole : s.role ≠ "") :
    s.render.toList =
      "role=".toList ++ (s.role.toList ++ (nameText s ++ s.narrowingText.toList)) := by
  simp only [render, strategyText, nameText, hcss, hrole, ne_eq, not_true_eq_false,
    not_false_eq_true, if_false, if_true]
  split <;> simp

theorem render_of_text {s : Selector} (hcss : s.css = "") (hrole : s.role = "")
    (htext : s.text ≠ "") :
    s.render.toList = "text=".toList ++ ((Text.quote s.text).toList ++ s.narrowingText.toList) := by
  simp [render, strategyText, hcss, hrole, htext]

theorem role_ne_text (x y : List Char) : "role=".toList ++ x ≠ "text=".toList ++ y := by
  simp

/-- Selectors are equal when their fields are. -/
theorem eq_of_fields {a b : Selector} (hcss : a.css = b.css) (htext : a.text = b.text)
    (hrole : a.role = b.role) (hname : a.name = b.name) (hfilter : a.hasText = b.hasText)
    (hindex : a.index = b.index) : a = b := by
  cases a
  cases b
  simp_all

/-- Two plain selectors with the same text form are equal: the marks tell their strategies
apart, and each part of the text form gives back the field it was written from. -/
theorem Plain.render_inj {a b : Selector} (ha : Plain a) (hb : Plain b)
    (h : a.render = b.render) : a = b := by
  have hlist := congrArg String.toList h
  have hia := ((validate_eq_ok_iff a).mp ha.valid).2
  have hib := ((validate_eq_ok_iff b).mp hb.valid).2
  rcases ha.shape with ⟨hca, hra, hta⟩ | ⟨hca, hra, hta⟩ | ⟨hca, hra, hta⟩ <;>
    rcases hb.shape with ⟨hcb, hrb, htb⟩ | ⟨hcb, hrb, htb⟩ | ⟨hcb, hrb, htb⟩
  · -- two CSS expressions, each ended by its narrowing
    rw [render_of_css hca, render_of_css hcb] at hlist
    obtain ⟨hcss, hnarrow⟩ := free_append_cancel (by decide) ha.free_css hb.free_css
      (opens_narrowing [] a) (opens_narrowing [] b) hlist
    obtain ⟨hfilter, hindex⟩ := narrowing_inj hia hib hnarrow
    exact eq_of_fields (String.toList_inj.1 hcss) (hta.trans htb.symm) (hra.trans hrb.symm)
      ((ha.name_of_role hra).trans (hb.name_of_role hrb).symm) hfilter hindex
  · rw [render_of_css hca, render_of_role hcb hrb] at hlist
    exact absurd hlist (unmarked_append_ne ha.css_unmarked.1 (by decide) (opens_narrowing [] a))
  · rw [render_of_css hca, render_of_text hcb hrb htb] at hlist
    exact absurd hlist (unmarked_append_ne ha.css_unmarked.2 (by decide) (opens_narrowing [] a))
  · rw [render_of_role hca hra, render_of_css hcb] at hlist
    exact absurd hlist.symm
      (unmarked_append_ne hb.css_unmarked.1 (by decide) (opens_narrowing [] b))
  · -- two roles, each ended by its name or its narrowing
    rw [render_of_role hca hra, render_of_role hcb hrb, List.append_cancel_left_eq] at hlist
    obtain ⟨hrole, hrest⟩ := free_append_cancel (by decide) ha.free_role hb.free_role
      (opens_name a) (opens_name b) hlist
    obtain ⟨hname, hnarrow⟩ := name_append_inj hrest
    obtain ⟨hfilter, hindex⟩ := narrowing_inj hia hib hnarrow
    exact eq_of_fields (hca.trans hcb.symm) (hta.trans htb.symm) (String.toList_inj.1 hrole)
      hname hfilter hindex
  · rw [render_of_role hca hra, render_of_text hcb hrb htb] at hlist
    exact absurd hlist (role_ne_text _ _)
  · rw [render_of_text hca hra hta, render_of_css hcb] at hlist
    exact absurd hlist.symm
      (unmarked_append_ne hb.css_unmarked.2 (by decide) (opens_narrowing [] b))
  · rw [render_of_text hca hra hta, render_of_role hcb hrb] at hlist
    exact absurd hlist.symm (role_ne_text _ _)
  · -- two quoted texts, each ended by its closing quote
    rw [render_of_text hca hra hta, render_of_text hcb hrb htb, List.append_cancel_left_eq]
      at hlist
    obtain ⟨htext, hnarrow⟩ := Text.quote_append_inj hlist
    obtain ⟨hfilter, hindex⟩ := narrowing_inj hia hib hnarrow
    exact eq_of_fields (hca.trans hcb.symm) htext (hra.trans hrb.symm)
      ((ha.name_of_role hra).trans (hb.name_of_role hrb).symm) hfilter hindex


/-- Setting, showing or removing the element under one key leaves the lookup of a selector
with another key as it was. -/
theorem lookup_applyAction_ne {p : Page} {s : Selector} {key : String} (hkey : key ≠ s.render) :
    (∀ e, (p.applyAction (.setElement key e)).lookup s = p.lookup s) ∧
      (∀ v, (p.applyAction (.setVisible key v)).lookup s = p.lookup s) ∧
      (p.applyAction (.remove key)).lookup s = p.lookup s := by
  exact ⟨fun e => Page.lookup_congr (@Page.applyAction_spares _ (.setElement key e) hkey p).2,
    fun v => Page.lookup_congr (@Page.applyAction_spares _ (.setVisible key v) hkey p).2,
    Page.lookup_congr (@Page.applyAction_spares _ (.remove key) hkey p).2⟩

/-- Two different plain selectors have different keys, so setting, showing or removing the
scripted element of one leaves the element that the other looks up as it was. -/
theorem plain_selectors_keyed_apart {a b : Selector} (ha : Plain a) (hb : Plain b) (hne : a ≠ b) :
    a.render ≠ b.render ∧ ∀ p : Page,
      (∀ e, (p.applyAction (.setElement a.render e)).lookup b = p.lookup b) ∧
      (∀ v, (p.applyAction (.setVisible a.render v)).lookup b = p.lookup b) ∧
      (p.applyAction (.remove a.render)).lookup b = p.lookup b := by
  have hkey : a.render ≠ b.render := fun h => hne (Plain.render_inj ha hb h)
  exact ⟨hkey, fun p => lookup_applyAction_ne hkey⟩

/-- A role button with a name and the text of that name are plain and keyed apart. -/
theorem save_button_and_text_keyed_apart :
    Plain (ofRole "button" "Save") ∧ Plain (ofText "Save") ∧
      ofRole "button" "Save" ≠ ofText "Save" ∧
      (ofRole "button" "Save").render ≠ (ofText "Save").render :=
  have hrole : Plain (ofRole "button" "Save") :=
    plain_ofRole (by decide) (by decide) (by decide)
  have htext : Plain (ofText "Save") := plain_ofText (by decide)
  have hne : ofRole "button" "Save" ≠ ofText "Save" := by decide
  ⟨hrole, htext, hne, (plain_selectors_keyed_apart hrole htext hne).1⟩

/-- The CSS expression `role=button` is written as the role `button` without a name, so a
scripted element set under the one is found by the other. -/
theorem css_spelling_role_shares_key :
    (ofCss "role=button").validate = .ok () ∧ (ofRole "button" "").validate = .ok () ∧
      ofCss "role=button" ≠ ofRole "button" "" ∧
      (ofCss "role=button").render = (ofRole "button" "").render ∧
      ∀ (p : Page) (e : Element),
        (p.applyAction (.setElement (ofCss "role=button").render e)).lookup (ofRole "button" "") =
          .ok e := by
  refine ⟨rfl, rfl, by decide, by decide, fun p e => ?_⟩
  have hkey : (ofCss "role=button").render = (ofRole "button" "").render := by decide
  simp only [Page.applyAction, Page.lookup, hkey, Keyed.get_set_self]
  rfl

end DashboardHarness.Selector

import DashboardHarness.Browser.Selector

/-!
# Which strategy a selector's text form shows

A selector is valid when exactly one of its CSS expression, text and role is not blank: that one
is the strategy in use. Its text form, which keys the elements of a scripted page, is written
from the first of the CSS expression, the role and the text that is not empty, blank or not.
The two agree unless a field that the text form tries first is blank but not empty: then the
text form starts with that field's rendering, and a scripted page looks the selector up under
that key.

Main results:

- `Selector.blank_of_validate`: in a valid selector every strategy but the one not blank is
  blank.
- `Selector.render_strategy_iff`: a valid selector's text form is the rendering of its strategy
  followed by its narrowing exactly when the fields that the text form tries before that strategy
  are empty.
- `Selector.blank_css_hides_role`: a blank CSS expression of one space stands in the text form of
  a role selector.
-/

namespace DashboardHarness

/-- The three ways a selector addresses elements. -/
inductive Strategy where
  | css
  | role
  | text
  deriving DecidableEq, Repr

/-- The strategies that the text form of a selector tries before a strategy. -/
def Strategy.before : Strategy → List Strategy
  | .css => []
  | .role => [.css]
  | .text => [.css, .role]

namespace Selector

/-- The field of a selector that a strategy reads. -/
def field (s : Selector) : Strategy → String
  | .css => s.css
  | .role => s.role
  | .text => s.text

/-- How a strategy is written: the CSS expression as it is, `role=` with the role and, when a
name is given, the quoted name in brackets, or `text=` with the quoted text. -/
def strategyRendering (s : Selector) : Strategy → String
  | .css => s.css
  | .role =>
    "role=" ++ s.role ++ (if s.name ≠ "" then "[name=" ++ Text.quote s.name ++ "]" else "")
  | .text => "text=" ++ Text.quote s.text

theorem ne_empty_of_not_blank {t : String} (h : Text.isBlankText t = false) : t ≠ "" := by
  rintro rfl
  cases h

/-- A blank text is no text with a character that is not blank. -/
theorem ne_of_isBlankText {a b : String} (ha : Text.isBlankText a = true) {c : Char}
    (hc : c ∈ b.toList) (hcb : Text.isBlank c = false) : a ≠ b := by
  rintro rfl
  have hall : ∀ d ∈ a.toList, Text.isBlank d = true := List.all_eq_true.mp ha
  rw [hall c hc] at hcb
  cases hcb

/-- In a valid selector every strategy other than the one that is not blank is blank. -/
theorem blank_of_validate {s : Selector} (hvalid : s.validate = .ok ()) {k : Strategy}
    (hk : Text.isBlankText (s.field k) = false) (k' : Strategy) (hne : k' ≠ k) :
    Text.isBlankText (s.field k') = true := by
  have hcount := ((validate_eq_ok_iff s).mp hvalid).1
  cases hc : Text.isBlankText s.css <;> cases ht : Text.isBlankText s.text <;>
    cases hr : Text.isBlankText s.role <;>
    cases k <;> cases k' <;> simp_all [strategyCount, field]

/-- A valid selector's text form starts with the rendering of its strategy and goes on with its
narrowing exactly when every field that the text form tries before that strategy is empty. -/
theorem render_strategy_iff (s : Selector) (k : Strategy) (hvalid : s.validate = .ok ())
    (hk : Text.isBlankText (s.field k) = false) :
    s.render = s.strategyRendering k ++ s.narrowingText ↔ ∀ k' ∈ k.before, s.field k' = "" := by
  have hset : s.field k ≠ "" := ne_empty_of_not_blank hk
  rw [render, String.append_left_inj]
  cases k with
  | css =>
    simp only [field] at hset
    simp [Strategy.before, strategyText, strategyRendering, hset]
  | role =>
    simp only [field] at hset
    have hcss := blank_of_validate hvalid hk .css (by decide)
    by_cases hempty : s.css = ""
    · simp [Strategy.before, field, strategyText, strategyRendering, hempty, hset]
    · -- the blank CSS expression is written in the role's place
      simp only [Strategy.before, field, strategyText, strategyRendering, hempty, hset,
        List.mem_singleton, forall_eq, ne_eq, not_false_eq_true, ite_true, iff_false]
      exact ne_of_isBlankText hcss (c := 'r') (by simp) (by decide)
  | text =>
    simp only [field] at hset
    have hcss := blank_of_validate hvalid hk .css (by decide)
    have hrole := blank_of_validate hvalid hk .role (by decide)
    by_cases hcssEmpty : s.css = ""
    · by_cases hroleEmpty : s.role = ""
      · simp [Strategy.before, field, strategyText, strategyRendering, hcssEmpty, hroleEmpty,
          hset]
      · -- a role that is blank but not empty is written before the text
        simp only [Strategy.before, field, strategyText, strategyRendering, hcssEmpty,
          hroleEmpty, ne_eq, not_true_eq_false, not_false_eq_true, ite_false, ite_true,
          List.mem_cons, List.mem_nil_iff, or_false, forall_eq_or_imp, forall_eq, true_and,
          iff_false]
        intro heq
        have hhead := congrArg (fun t : String => t.toList.head?) heq
        simp at hhead
    · simp only [Strategy.before, field, strategyText, strategyRendering, hcssEmpty, ne_eq,
        not_false_eq_true, ite_true, List.mem_cons, List.mem_nil_iff, or_false,
        forall_eq_or_imp, false_and, iff_false]
      exact ne_of_isBlankText hcss (c := 't') (by simp) (by decide)

/-- A role selector with a name is keyed by its role and name. -/
theorem role_selector_keyed_by_role :
    (ofRole "button" "View query").validate = .ok () ∧
      Text.isBlankText ((ofRole "button" "View query").field .role) = false ∧
      (ofRole "button" "View query").render =
        (ofRole "button" "View query").strategyRendering .role ++
          (ofRole "button" "View query").narrowingText :=
  ⟨rfl, by decide, (render_strategy_iff _ .role rfl (by decide)).mpr (by decide)⟩

/-- A CSS expression of one space is blank, so a selector with it and a role is valid with the
role as its strategy; its text form is the space alone, not the role. -/
theorem blank_css_hides_role :
    ({ css := " ", role := "button" } : Selector).validate = .ok () ∧
      Text.isBlankText (({ css := " ", role := "button" } : Selector).field .role) = false ∧
      ({ css := " ", role := "button" } : Selector).render = " " ∧
      ({ css := " ", role := "button" } : Selector).render ≠
        ({ css := " ", role := "button" } : Selector).strategyRendering .role ++
          ({ css := " ", role := "button" } : Selector).narrowingText := by
  refine ⟨rfl, by decide, by decide, by decide⟩

end Selector

end DashboardHarness

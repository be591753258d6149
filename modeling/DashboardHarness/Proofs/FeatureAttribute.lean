import DashboardHarness.Proofs.DashboardPages
import DashboardHarness.Proofs.IntegerText

/-!
# The features a chart block carries

The block of a chart on a dashboard page carries the JSON document of the chart's features,
an array with one object of label, column, value and coordinates for each feature, in its
`data-features` attribute, escaped for a quoted attribute value. A reader of the page takes
the value between the quotes and replaces each character reference by its character. That
gives the document back: escaping writes a reference for every character it changes except
NUL, which it turns into the replacement character, and a JSON text holds no NUL, because its
writer escapes every control character. Nor does the escaped value hold a quote, so the
attribute ends where the block closes it.

Main results:

- `unescapeHtml_escapeHtml`: reading the references back undoes escaping on a text without NUL.
- `quote_not_mem_escapeHtml`: an escaped text holds no quote.
- `nul_not_mem_write`: the text of a JSON value holds no NUL.
- `chartBlock_features`: the block of a chart carries the document of its features in its
  `data-features` attribute, and the attribute reads back as that document.
-/

namespace DashboardHarness.Html

/-! ## Reading an attribute value back -/

/-- The characters of a quoted attribute value read back: each character reference that escaping
writes stands for its character, every other character for itself. -/
def unescapeChars : List Char → List Char
  | '&' :: '#' :: '3' :: '4' :: ';' :: cs => '"' :: unescapeChars cs
  | '&' :: 'a' :: 'm' :: 'p' :: ';' :: cs => '&' :: unescapeChars cs
  | '&' :: '#' :: '3' :: '9' :: ';' :: cs => '\x27' :: unescapeChars cs
  | '&' :: '#' :: '4' :: '3' :: ';' :: cs => '+' :: unescapeChars cs
  | '&' :: 'l' :: 't' :: ';' :: cs => '<' :: unescapeChars cs
  | '&' :: 'g' :: 't' :: ';' :: cs => '>' :: unescapeChars cs
  | c :: cs => c :: unescapeChars cs
  | [] => []

/-- A quoted attribute value read back. -/
def unescapeHtml (s : String) : String :=
  String.ofList (unescapeChars s.toList)

/-- A character that starts no reference reads as itself. -/
theorem unescapeChars_cons {c : Char} (hc : c ≠ '&') (cs : List Char) :
    unescapeChars (c :: cs) = c :: unescapeChars cs := by
  rw [unescapeChars.eq_7] <;> exact fun _ hamp _ => hc hamp

theorem unescapeChars_escapeChar {c : Char} (hc : c ≠ '\x00') (rest : List Char) :
    unescapeChars (escapeChar c ++ rest) = c :: unescapeChars rest := by
  unfold escapeChar
  split
  · exact absurd rfl hc
  case h_8 => rw [List.singleton_append, unescapeChars_cons (by assumption)]
  all_goals rfl

theorem unescapeChars_flatMap_escapeChar {cs : List Char} (h : '\x00' ∉ cs) :
    unescapeChars (cs.flatMap escapeChar) = cs := by
  induction cs with
  | nil => rfl
  | cons c cs ih =>
    rw [List.mem_cons, not_or] at h
    rw [List.flatMap_cons, unescapeChars_escapeChar (Ne.symm h.1), ih h.2]

/-- Reading the references back undoes escaping, on a text without NUL. -/
theorem unescapeHtml_escapeHtml {s : String} (h : '\x00' ∉ s.toList) :
    unescapeHtml (escapeHtml s) = s := by
  rw [unescapeHtml, escapeHtml, String.toList_ofList, unescapeChars_flatMap_escapeChar h,
    String.ofList_toList]

example : escapeHtml "Fish & Chips <b>" = "Fish &amp; Chips &lt;b&gt;" ∧
    unescapeHtml "Fish &amp; Chips &lt;b&gt;" = "Fish & Chips <b>" := by
  decide +kernel

theorem quote_not_mem_escapeChar (c : Char) : '"' ∉ escapeChar c := by
  unfold escapeChar
  split
  case h_8 =>
    simp only [List.mem_singleton]
    exact Ne.symm (by assumption)
  all_goals simp

/-- An escaped text holds no quote. -/
theorem quote_not_mem_escapeHtml (s : String) : '"' ∉ (escapeHtml s).toList := by
  simp only [escapeHtml, String.toList_ofList, List.mem_flatMap, not_exists, not_and]
  exact fun c _ => quote_not_mem_escapeChar c

end DashboardHarness.Html

namespace DashboardHarness.Json

/-! ## JSON text holds no NUL -/

theorem nul_not_mem_toDigits {b : Nat} (hb : 1 < b) (n : Nat) : '\x00' ∉ Nat.toDigits b n := by
  induction n using Nat.strongRecOn with
  | ind n ih =>
    have hdigit : ∀ k, Nat.digitChar k ≠ '\x00' := fun k => Nat.digitChar_ne _ (by decide)
    rw [Nat.toDigits_eq_if hb]
    split
    · simp only [List.mem_singleton]
      exact (hdigit n).symm
    · simp only [List.mem_append, List.mem_singleton, not_or]
      exact ⟨ih (n / b) (Nat.div_lt_self (by omega) hb), (hdigit _).symm⟩

theorem nul_not_mem_hexDigits (width n : Nat) : '\x00' ∉ Text.hexDigits false width n := by
  simp [Text.hexDigits, nul_not_mem_toDigits (b := 16) (by decide) n]

/-- No escape of a string character is a NUL: a control character is written as a `\u` escape,
and every character written as itself is at least a space. -/
theorem nul_not_mem_escapeChar (c : Char) : '\x00' ∉ escapeChar c := by
  intro h
  -- membership goes into each branch; splitting the branches instead is slow
  simp only [escapeChar, apply_ite (fun l : List Char => '\x00' ∈ l)] at h
  simp [nul_not_mem_hexDigits] at h
  obtain ⟨-, -, -, -, -, -, -, hcode, rfl⟩ := h
  simp at hcode

theorem nul_not_mem_quoteString (s : String) : '\x00' ∉ (quoteString s).toList := by
  simp [quoteString, List.mem_flatMap, nul_not_mem_escapeChar]

theorem nul_not_mem_chars (d : Decimal.Digits) : '\x00' ∉ d.chars :=
  nul_not_mem_toDigits (by decide) _

theorem nul_not_mem_positional (d : Decimal.Digits) :
    '\x00' ∉ (Decimal.positional d).toList := by
  have hds := nul_not_mem_chars d
  unfold Decimal.positional
  dsimp only
  split
  · simp [hds]
  split
  · simp only [String.toList_ofList, List.mem_append, List.mem_cons, not_or]
    exact ⟨fun h => hds (List.mem_of_mem_take h), by decide,
      fun h => hds (List.mem_of_mem_drop h)⟩
  · simp [hds]

theorem nul_not_mem_scientific (k : Nat) (d : Decimal.Digits) :
    '\x00' ∉ (Decimal.scientific k d).toList := by
  have hds := nul_not_mem_chars d
  unfold Decimal.scientific
  dsimp only
  simp only [String.toList_ofList, List.mem_append, List.mem_cons, List.mem_replicate, not_or]
  refine ⟨?_, by decide, by split <;> decide, by simp, nul_not_mem_toDigits (by decide) _⟩
  split <;> simp_all

theorem nul_not_mem_interchange (x : Float) : '\x00' ∉ (Decimal.interchange x).toList := by
  unfold Decimal.interchange
  split
  · simp
  · split <;> simp
  · rename_i b _
    have hsign : '\x00' ∉ (if b.negative then "-" else "").toList := by
      split <;> simp
    cases Decimal.shortestDigits b with
    | none => simp [hsign]
    | some d =>
      have hdigits : '\x00' ∉ (if Decimal.inPositionalRange d then Decimal.positional d
          else Decimal.scientific 1 d).toList := by
        split
        · exact nul_not_mem_positional d
        · exact nul_not_mem_scientific 1 d
      simp [hsign, hdigits]

theorem nul_not_mem_floatText (x : Float) : '\x00' ∉ (floatText x).toList := by
  unfold floatText
  split
  · exact nul_not_mem_interchange x
  · exact nul_not_mem_quoteString _

mutual
/-- The text of a JSON value holds no NUL. The induction follows the writer, through the items
of arrays and the fields of objects. -/
theorem nul_not_mem_write : ∀ v : Value, '\x00' ∉ v.write.toList
  | .null => by simp [Value.write]
  | .bool b => by cases b <;> simp [Value.write]
  | .int n => by
    rw [Value.write, Text.toList_intToString]
    simp [nul_not_mem_toDigits]
  | .float x => nul_not_mem_floatText x
  | .str s => nul_not_mem_quoteString s
  | .arr items => by simp [Value.write, nul_not_mem_writeItems items]
  | .obj fields => by simp [Value.write, nul_not_mem_writeFields fields]

theorem nul_not_mem_writeItems : ∀ items : List Value, '\x00' ∉ (writeItems items).toList
  | [] => by simp [writeItems]
  | [v] => nul_not_mem_write v
  | v :: w :: rest => by
    simp [writeItems, nul_not_mem_write v, nul_not_mem_writeItems (w :: rest)]

theorem nul_not_mem_writeFields :
    ∀ fields : List (String × Value), '\x00' ∉ (writeFields fields).toList
  | [] => by simp [writeFields]
  | [(k, v)] => by simp [writeFields, nul_not_mem_quoteString k, nul_not_mem_write v]
  | (k, v) :: f :: rest => by
    simp [writeFields, nul_not_mem_quoteString k, nul_not_mem_write v,
      nul_not_mem_writeFields (f :: rest)]
end

end DashboardHarness.Json

namespace DashboardHarness.Fixture

open Html Dashboard

/-! ## The `data-features` attribute -/

/-- The block of a chart view holds its features, escaped, as the value of `data-features`. -/
theorem chartBlock_features_attribute (v : ChartView) :
    ∃ pre post, chartBlock v =
      pre ++ "\" data-features=\"" ++ escapeHtml v.features ++ "\">\n" ++ post :=
  ⟨"\n" ++ "      <div class=\"chart\" data-test-chart-name=\"" ++ escapeHtml v.name ++
      "\" data-chart-id=\"" ++ escapeHtml (toString v.elementId), _, by
    simp only [chartBlock, String.join_cons, String.append_assoc]
    rfl⟩

/-- The block of a chart carries the JSON document of the chart's features as the value of its
`data-features` attribute: the value holds no quote, so the attribute ends where the block
closes it, and reading its character references back gives the document. -/
theorem chartBlock_features (c : Chart) :
    ∃ pre post, chartBlock (chartView c) =
        pre ++ "\" data-features=\"" ++ escapeHtml (featuresJson c.features).write ++ "\">\n" ++
          post ∧
      '"' ∉ (escapeHtml (featuresJson c.features).write).toList ∧
      unescapeHtml (escapeHtml (featuresJson c.features).write) =
        (featuresJson c.features).write := by
  obtain ⟨pre, post, hblock⟩ := chartBlock_features_attribute (chartView c)
  exact ⟨pre, post, hblock, quote_not_mem_escapeHtml _,
    unescapeHtml_escapeHtml (Json.nul_not_mem_write _)⟩

end DashboardHarness.Fixture

import Mathlib
import DashboardHarness.Web.Form

/-!
# Text as bytes, split and escaped

The encodings a request passes through on its way to the application, each read back exactly.
Text written as UTF-8 reads back as itself and is well formed. Splitting a text at a
one-character separator splits its characters at each occurrence. A text escaped as a query
component is written with letters, digits and `-_.~+%` alone, and reads back as its UTF-8
bytes; so a query of one escaped `key=value` pair reads back as its key and value.

Main results:

- `decodeUtf8_textBytes`, `wellFormed_textBytes`: text written as UTF-8 reads back as itself.
- `splitOn_singleton`: splitting at one character splits the characters.
- `queryEscape_chars`: the characters an escaped query component is written with.
- `queryUnescape_queryEscape`: an escaped query component reads back as its bytes.
- `parseQuery_escapedPair`: one escaped pair reads back as its key and value.
-/

namespace DashboardHarness.Text

/-! ## UTF-8 read back -/

theorem charOfCode_toNat (c : Char) : charOfCode c.toNat = c := by
  have hv : c.toNat.isValidChar := c.valid
  simp [charOfCode, hv]

theorem decodePieces_utf8Bytes (c : Char) (rest : List Nat) :
    decodePieces (utf8Bytes c ++ rest) = .char c :: decodePieces rest := by
  have hv : c.toNat.isValidChar := c.valid
  unfold utf8Bytes
  by_cases h1 : c.toNat < 0x80
  · rw [if_pos h1, List.singleton_append, decodePieces_ascii _ _ h1, Char.ofNat_toNat]
  by_cases h2 : c.toNat < 0x800
  · rw [if_neg h1, if_pos h2, decodePieces.eq_def]
    have hlead : ¬ 192 + c.toNat / 64 < 128 := by omega
    have hrange : 194 ≤ 192 + c.toNat / 64 ∧ 192 + c.toNat / 64 < 224 := by omega
    have htail : 128 + c.toNat % 64 < 192 := by omega
    have hcode : c.toNat / 64 * 64 + c.toNat % 64 = c.toNat := by omega
    simp [isTail, hlead, hrange, htail, hcode, charOfCode_toNat]
  by_cases h3 : c.toNat < 0x10000
  · rw [if_neg h1, if_neg h2, if_pos h3, decodePieces.eq_def]
    have hlead : ¬ 224 + c.toNat / 4096 < 128 := by omega
    have hrange : 224 ≤ 224 + c.toNat / 4096 ∧ 224 + c.toNat / 4096 < 240 := by omega
    have htail1 : 128 + c.toNat / 64 % 64 < 192 := by omega
    have htail2 : 128 + c.toNat % 64 < 192 := by omega
    have hcode : c.toNat / 4096 * 4096 + c.toNat / 64 % 64 * 64 + c.toNat % 64 = c.toNat := by
      omega
    have hsurrogate : c.toNat < 55296 ∨ 57344 ≤ c.toNat := by
      rcases hv with h | h <;> omega
    simp [isTail, hlead, hrange, htail1, htail2, hcode, hsurrogate, charOfCode_toNat]
    omega
  · rw [if_neg h1, if_neg h2, if_neg h3, decodePieces.eq_def]
    have hmax : c.toNat < 0x110000 := by rcases hv with h | h <;> omega
    have hlead : ¬ 240 + c.toNat / 262144 < 128 := by omega
    have hnot2 : ¬ (194 ≤ 240 + c.toNat / 262144 ∧ 240 + c.toNat / 262144 < 224) := by omega
    have hrange : 240 ≤ 240 + c.toNat / 262144 ∧ 240 + c.toNat / 262144 < 245 := by omega
    have htail1 : 128 + c.toNat / 4096 % 64 < 192 := by omega
    have htail2 : 128 + c.toNat / 64 % 64 < 192 := by omega
    have htail3 : 128 + c.toNat % 64 < 192 := by omega
    have hcode : c.toNat / 262144 * 262144 + c.toNat / 4096 % 64 * 4096 + c.toNat / 64 % 64 * 64 +
        c.toNat % 64 = c.toNat := by
      omega
    simp [isTail, hlead, hnot2, hrange, htail1, htail2, htail3, hcode, hmax,
      charOfCode_toNat]
    omega

theorem decodePieces_flatMap (cs : List Char) :
    decodePieces (cs.flatMap utf8Bytes) = cs.map .char := by
  induction cs with
  | nil => rw [List.flatMap_nil, decodePieces.eq_def]; rfl
  | cons c cs ih => rw [List.flatMap_cons, decodePieces_utf8Bytes, ih, List.map_cons]

theorem decodeChars_textBytes (s : String) : decodeChars (textBytes s) = s.toList := by
  rw [decodeChars, textBytes, decodePieces_flatMap, List.map_map]
  exact List.map_id'' (fun _ => rfl) _

/-- Text written as UTF-8 reads back as itself. -/
theorem decodeUtf8_textBytes (s : String) : decodeUtf8 (textBytes s) = s := by
  rw [decodeUtf8, decodeChars_textBytes, String.ofList_toList]

/-- Text written as UTF-8 is well formed. -/
theorem wellFormed_textBytes (s : String) : wellFormed? (textBytes s) = some s := by
  unfold wellFormed?
  rw [decodeChars_textBytes]
  simp only [textBytes, if_true, String.ofList_toList]

/-- The UTF-8 bytes of a character are bytes. -/
theorem utf8Bytes_lt (c : Char) : ∀ b ∈ utf8Bytes c, b < 256 := by
  have hv : c.toNat.isValidChar := c.valid
  have hmax : c.toNat < 0x110000 := by rcases hv with h | h <;> omega
  intro b hb
  simp only [utf8Bytes] at hb
  repeat' split at hb
  all_goals simp at hb; omega

theorem textBytes_lt (s : String) : ∀ b ∈ textBytes s, b < 256 := by
  intro b hb
  obtain ⟨c, -, hc⟩ := List.mem_flatMap.mp hb
  exact utf8Bytes_lt c b hc

/-- An ASCII code is the code of its character. -/
theorem toNat_ofNat_ascii {b : Nat} (hb : b < 0x80) : (Char.ofNat b).toNat = b := by
  have hv : b.isValidChar := Or.inl (by omega)
  simp [Char.ofNat, hv, Char.ofNatAux, Char.toNat]

/-! ## Splitting at one character -/

open String

/-- The splitting loop, with `l` split off, the piece `m` read since, and `r` left to read, splits
`r` the way lists are split, starting from the piece `m`. -/
theorem splitOnAux_singleton (c : Char) :
    ∀ (r l m : List Char) (acc : List String),
      splitOnAux (ofList (l ++ m ++ r)) (String.singleton c) ⟨utf8Len l⟩ ⟨utf8Len l + utf8Len m⟩ 0 acc =
        acc.reverse ++ (List.splitOnPPrepend (· == c) r m.reverse).map ofList
  -- the induction is on what is left to read, which the loop takes one character at a time
  | [], l, m, acc => by
    unfold splitOnAux
    have hend : Pos.Raw.atEnd (ofList (l ++ m ++ [])) ⟨utf8Len l + utf8Len m⟩ = true := by
      simpa [utf8Len_append] using (atEnd_of_valid (l ++ m) []).mpr rfl
    simp only [hend, if_true, extract_of_valid, List.reverse_cons]
    simp
  | d :: r, l, m, acc => by
    unfold splitOnAux
    have hnot : Pos.Raw.atEnd (ofList (l ++ m ++ d :: r)) ⟨utf8Len l + utf8Len m⟩ = false :=
      Bool.eq_false_iff.mpr fun h => List.cons_ne_nil d r
        ((atEnd_of_valid (l ++ m) (d :: r)).mp (by simpa [utf8Len_append] using h))
    have hget : Pos.Raw.get (ofList (l ++ m ++ d :: r)) ⟨utf8Len l + utf8Len m⟩ = d := by
      simpa [utf8Len_append] using get_of_valid (l ++ m) (d :: r)
    have hsep : Pos.Raw.get (String.singleton c) 0 = c := by
      simpa using get_of_valid [] [c]
    have hnext : Pos.Raw.next (ofList (l ++ m ++ d :: r)) ⟨utf8Len l + utf8Len m⟩ =
        ⟨utf8Len l + utf8Len m + d.utf8Size⟩ := by
      simpa [utf8Len_append] using next_of_valid (l ++ m) d r
    simp only [hnot, Bool.false_eq_true, if_false, hget, hsep]
    by_cases hd : d = c
    · -- the separator: the text so far is one piece, and the next starts after it
      subst hd
      have hsepnext : Pos.Raw.next (String.singleton d) 0 = ⟨d.utf8Size⟩ := by
        simpa using next_of_valid [] d []
      have hsepend : Pos.Raw.atEnd (String.singleton d) ⟨d.utf8Size⟩ = true := by
        simpa using (atEnd_of_valid [d] []).mpr rfl
      have hback : (⟨utf8Len l + utf8Len m + d.utf8Size⟩ : Pos.Raw).unoffsetBy ⟨d.utf8Size⟩ =
          ⟨utf8Len l + utf8Len m⟩ := by
        ext
        simp
      have hpiece := extract_of_valid l m (d :: r)
      have hrest := splitOnAux_singleton d r (l ++ m ++ [d]) [] (ofList m :: acc)
      simp only [List.append_assoc, List.singleton_append, utf8Len_append,
        utf8Len_cons, utf8Len_nil, Nat.zero_add, Nat.add_zero] at hrest hpiece
      simp only [beq_self_eq_true, if_true, hsepnext, hsepend, hnext, hback]
      rw [List.splitOnPPrepend_cons_pos (p := fun x => x == d) (by simp), List.reverse_reverse]
      simp only [List.append_assoc, Nat.add_assoc] at hrest hpiece ⊢
      rw [hpiece, hrest]
      simp
    · -- another character: the piece grows by it
      have hne : (d == c) = false := beq_false_of_ne hd
      have hstay : (⟨utf8Len l + utf8Len m⟩ : Pos.Raw).unoffsetBy 0 = ⟨utf8Len l + utf8Len m⟩ := by
        ext
        simp
      have hrest := splitOnAux_singleton c r l (m ++ [d]) acc
      simp only [List.append_assoc, List.singleton_append, utf8Len_append, utf8Len_cons,
        utf8Len_nil, Nat.zero_add, List.reverse_append, List.reverse_cons, List.reverse_nil,
        List.nil_append] at hrest
      simp only [hne, Bool.false_eq_true, if_false, hstay, hnext]
      rw [List.splitOnPPrepend_cons_neg (p := fun x => x == c) hne]
      simp only [List.append_assoc, Nat.add_assoc] at hrest ⊢
      exact hrest

/-- Splitting at a one-character separator splits the characters at each occurrence. -/
theorem splitOn_singleton (s : String) (c : Char) :
    s.splitOn (String.singleton c) = (s.toList.splitOn c).map ofList := by
  have hsep : (String.singleton c == "") = false := by
    simp [String.ext_iff]
  have h := splitOnAux_singleton c s.toList [] [] []
  simp only [List.nil_append, List.append_nil, utf8Len_nil, Nat.add_zero, List.reverse_nil,
    ofList_toList, List.splitOnPPrepend_nil_right] at h
  rw [splitOn, List.splitOn_eq_splitOnP]
  simp only [hsep, Bool.false_eq_true, if_false]
  exact h

end DashboardHarness.Text

namespace DashboardHarness.Web

open Text

/-! ## Hexadecimal escapes of a byte -/

/-- The capital hexadecimal digit of a number below sixteen. -/
theorem hexValue_upper_digitChar : ∀ d < 16, hexValue? (Nat.digitChar d).toUpper = some d := by
  decide

theorem isAlphanum_upper_digitChar : ∀ d < 16, (Nat.digitChar d).toUpper.isAlphanum = true := by
  decide

/-- A byte is written as two capital hexadecimal digits. -/
theorem hexDigits_byte {b : Nat} (hb : b < 256) :
    hexDigits true 2 b = [(Nat.digitChar (b / 16)).toUpper, (Nat.digitChar (b % 16)).toUpper] := by
  unfold hexDigits
  by_cases hsmall : b < 16
  · have hhigh : b / 16 = 0 := Nat.div_eq_of_lt hsmall
    rw [Nat.toDigits_of_lt_base hsmall, hhigh, Nat.mod_eq_of_lt hsmall]
    rfl
  · rw [Nat.toDigits_of_base_le (by decide) (by omega),
      Nat.toDigits_of_lt_base (by omega : b / 16 < 16)]
    simp

/-! ## Query components -/

/-- A query component escapes every ASCII character but letters, digits and "-_.~". -/
theorem mustEscape_queryComponent (c : Char) :
    mustEscape c .queryComponent = !(c.isAlphanum || "-_.~".toList.contains c) := by
  unfold mustEscape
  by_cases ha : c.isAlphanum <;> simp [ha]

/-- The characters an escaped query component is written with. -/
def queryEscapeChar (c : Char) : Bool :=
  c.isAlphanum || "-_.~+%".toList.contains c

theorem escapeQueryByte_chars {b : Nat} (hb : b < 256) :
    ∀ c ∈ escapeQueryByte b, queryEscapeChar c = true := by
  intro c hc
  unfold escapeQueryByte at hc
  split at hc
  · simp at hc
    simp [hc, queryEscapeChar]
  split at hc
  · rename_i hkept
    simp only [List.mem_singleton] at hc
    subst hc
    simp only [Bool.and_eq_true, decide_eq_true_eq, Bool.not_eq_true'] at hkept
    rw [mustEscape_queryComponent] at hkept
    simp only [Bool.not_eq_false', Bool.or_eq_true] at hkept
    simp only [queryEscapeChar, Bool.or_eq_true]
    rcases hkept.2 with h | h
    · exact .inl h
    · right
      have hsub : ∀ x : Char, "-_.~".toList.contains x = true →
          "-_.~+%".toList.contains x = true := by
        intro x hx
        simp at hx
        rcases hx with rfl | rfl | rfl | rfl <;> decide
      exact hsub _ h
  · rw [hexDigits_byte hb] at hc
    simp only [List.mem_cons, List.not_mem_nil, or_false] at hc
    rcases hc with rfl | rfl | rfl
    · decide
    · simp [queryEscapeChar, isAlphanum_upper_digitChar _ (by omega : b / 16 < 16)]
    · simp [queryEscapeChar, isAlphanum_upper_digitChar _ (Nat.mod_lt b (by decide))]

/-- A byte that a query component keeps as it is stands for neither an escape nor a space, and
is its own UTF-8 byte. -/
theorem kept_queryByte {b : Nat}
    (hkept : (decide (b < 0x80) && !mustEscape (Char.ofNat b) .queryComponent) = true) :
    Char.ofNat b ≠ '%' ∧ Char.ofNat b ≠ '+' ∧ utf8Bytes (Char.ofNat b) = [b] := by
  have hascii : b < 0x80 := by simpa using (Bool.and_eq_true_iff.mp hkept).1
  have hpercent : mustEscape '%' .queryComponent = true := by decide
  have hplus : mustEscape '+' .queryComponent = true := by decide
  refine ⟨?_, ?_, ?_⟩
  · rintro h
    simp [h, hpercent] at hkept
  · rintro h
    simp [h, hplus] at hkept
  · rw [utf8Bytes_ascii _ (by rw [toNat_ofNat_ascii hascii]; exact hascii), toNat_ofNat_ascii hascii]

/-- Reading an escaped byte back checks nothing more than the rest. -/
theorem checkEscapes_escapeQueryByte {b : Nat} (hb : b < 256) (rest : List Char) :
    checkEscapes .queryComponent (escapeQueryByte b ++ rest) =
      checkEscapes .queryComponent rest := by
  unfold escapeQueryByte
  split
  · simp [checkEscapes]
  split
  · rename_i hkept
    rw [List.singleton_append, checkEscapes.eq_4 _ _ _ (kept_queryByte hkept).1]
    simp
  · rw [hexDigits_byte hb]
    have hhigh := hexValue_upper_digitChar (b / 16) (by omega)
    have hlow := hexValue_upper_digitChar (b % 16) (Nat.mod_lt b (by decide))
    simp [checkEscapes, isHex, hhigh, hlow]

/-- An escaped byte reads back as itself. -/
theorem decodeBytes_escapeQueryByte {b : Nat} (hb : b < 256) (rest : List Char) :
    decodeBytes .queryComponent (escapeQueryByte b ++ rest) =
      b :: decodeBytes .queryComponent rest := by
  unfold escapeQueryByte
  split
  · rename_i hspace
    have hb32 : b = 32 := by simpa using hspace
    rw [List.singleton_append, decodeBytes.eq_3 _ _ _ (by simp), hb32]
    simp
  split
  · rename_i hkept
    obtain ⟨hpercent, hplus, hbytes⟩ := kept_queryByte hkept
    rw [List.singleton_append, decodeBytes.eq_3 _ _ _ (fun _ _ _ h _ => hpercent h)]
    simp [hplus, hbytes]
  · rw [hexDigits_byte hb]
    have hhigh := hexValue_upper_digitChar (b / 16) (by omega)
    have hlow := hexValue_upper_digitChar (b % 16) (Nat.mod_lt b (by decide))
    simp only [List.cons_append, List.nil_append, decodeBytes.eq_2, isHex, hexOf, hhigh, hlow,
      Option.isSome_some, Bool.and_self, if_true, Option.getD_some]
    congr 1
    omega

theorem toList_queryEscape (s : String) :
    (queryEscape s).toList = (textBytes s).flatMap escapeQueryByte := by
  simp [queryEscape]

/-- Every character of an escaped query component is a letter, a digit or one of "-_.~+%". -/
theorem queryEscape_chars (s : String) : ∀ c ∈ (queryEscape s).toList, queryEscapeChar c = true := by
  intro c hc
  rw [toList_queryEscape] at hc
  obtain ⟨b, hb, hcb⟩ := List.mem_flatMap.mp hc
  exact escapeQueryByte_chars (textBytes_lt s b hb) c hcb

theorem not_mem_queryEscape {c : Char} (h : queryEscapeChar c = false) (s : String) :
    c ∉ (queryEscape s).toList := fun hc => by
  simp [queryEscape_chars s c hc] at h

theorem checkEscapes_escapeQueryBytes :
    ∀ bs : List Nat, (∀ b ∈ bs, b < 256) →
      checkEscapes .queryComponent (bs.flatMap escapeQueryByte) = .ok ()
  | [], _ => rfl
  | b :: bs, hbs => by
    rw [List.flatMap_cons, checkEscapes_escapeQueryByte (hbs b List.mem_cons_self)]
    exact checkEscapes_escapeQueryBytes bs fun x hx => hbs x (List.mem_cons_of_mem _ hx)

theorem decodeBytes_escapeQueryBytes :
    ∀ bs : List Nat, (∀ b ∈ bs, b < 256) →
      decodeBytes .queryComponent (bs.flatMap escapeQueryByte) = bs
  | [], _ => by rw [List.flatMap_nil, decodeBytes.eq_def]
  | b :: bs, hbs => by
    rw [List.flatMap_cons, decodeBytes_escapeQueryByte (hbs b List.mem_cons_self),
      decodeBytes_escapeQueryBytes bs fun x hx => hbs x (List.mem_cons_of_mem _ hx)]

/-- A text escaped as a query component reads back as its UTF-8 bytes. -/
theorem queryUnescape_queryEscape (s : String) : queryUnescape (queryEscape s) = some (textBytes s) := by
  have hcheck := checkEscapes_escapeQueryBytes (textBytes s) (textBytes_lt s)
  have hdecode := decodeBytes_escapeQueryBytes (textBytes s) (textBytes_lt s)
  simp only [queryUnescape, unescapeBytes, toList_queryEscape, hcheck, hdecode]
  rfl

/-! ## Query pairs -/

/-- Every character before a separator that does not occur is kept by a cut at it. -/
theorem kept_of_not_mem {sep : Char} {cs : List Char} (h : sep ∉ cs) :
    ∀ c ∈ cs, (fun x => decide (x ≠ sep)) c = true := fun c hc => by
  simpa using fun (hsep : c = sep) => h (hsep ▸ hc)

theorem cutAt_append_cons {sep : Char} {before : List Char} (h : sep ∉ before)
    (after : List Char) : cutAt sep (before ++ sep :: after) = (before, some after) := by
  unfold cutAt
  rw [List.span_eq_takeWhile_dropWhile, List.takeWhile_append_of_pos (kept_of_not_mem h),
    List.dropWhile_append_of_pos (kept_of_not_mem h)]
  simp

theorem cutAt_of_not_mem {sep : Char} {cs : List Char} (h : sep ∉ cs) :
    cutAt sep cs = (cs, none) := by
  unfold cutAt
  rw [List.span_eq_takeWhile_dropWhile, List.takeWhile_eq_self_iff.mpr (kept_of_not_mem h),
    List.dropWhile_eq_nil_iff.mpr (kept_of_not_mem h)]

/-- One pair of escaped texts reads back as its key and value. -/
theorem parseQuery_escapedPair (key value : String) :
    parseQuery (queryEscape key ++ "=" ++ queryEscape value) = [(textBytes key, textBytes value)] := by
  have hamp : queryEscapeChar '&' = false := by decide
  have hsemi : queryEscapeChar ';' = false := by decide
  have heq : queryEscapeChar '=' = false := by decide
  have hpair : (queryEscape key ++ "=" ++ queryEscape value).toList =
      (queryEscape key).toList ++ '=' :: (queryEscape value).toList := by
    simp
  have hsplit : (queryEscape key ++ "=" ++ queryEscape value).splitOn "&" =
      [queryEscape key ++ "=" ++ queryEscape value] := by
    rw [show "&" = String.singleton '&' by decide, Text.splitOn_singleton,
      List.splitOn_eq_singleton]
    · rw [List.map_singleton, String.ofList_toList]
    · rw [hpair]
      simp [not_mem_queryEscape hamp]
  have hread : readPair (queryEscape key ++ "=" ++ queryEscape value) =
      some (textBytes key, textBytes value) := by
    have hnonempty : (queryEscape key ++ "=" ++ queryEscape value).isEmpty = false := by
      rw [String.isEmpty_eq_false_iff]
      intro hempty
      simp [hempty] at hpair
    have hnosemi : ((queryEscape key).toList ++ '=' :: (queryEscape value).toList).contains ';' =
        false := by
      simp [not_mem_queryEscape hsemi]
    simp only [readPair, hnonempty, hpair, hnosemi, Bool.false_or, Bool.false_eq_true, if_false,
      cutAt_append_cons (not_mem_queryEscape heq key), String.ofList_toList,
      queryUnescape_queryEscape]
  simp [parseQuery, hsplit, hread]

end DashboardHarness.Web

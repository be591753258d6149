import DashboardHarness.Proofs.RedirectOrigin
import DashboardHarness.Settings.Load

/-!
# Page addresses under the application root

A page of the deployment is addressed by the application URL followed by a relative path
without its leading slashes. Loaded settings have an application URL that ends in exactly one
slash and reads as an `http` or `https` URL with a host. When that URL has no query and no
fragment, every address made from it keeps its scheme, user information and host, and its path
is the root's path followed by the decoded path part of the relative path: what comes before
the path's own query or fragment.

A root with a query or a fragment passes the same checks, and the paths appended to it land in
its query or fragment.

Main results:

- `Web.parse_append`: text appended to a URL that ends in a path from the root extends its path.
- `Settings.load_resolve_under_root`: the addresses of loaded settings stay under their root.
- `query_root_swallows_path`: a root with a query keeps its path for every page.
-/

namespace DashboardHarness.Web

open Text

/-! ## Escapes across a seam -/

/-- Text after a part whose escapes are well formed is checked on its own: no escape runs across
the seam. -/
theorem checkEscapes_append {comp : Component} {A : List Char} (h : checkEscapes comp A = .ok ())
    (B : List Char) : checkEscapes comp (A ++ B) = checkEscapes comp B := by
  fun_induction checkEscapes comp A with
  | case1 => rfl
  | case5 a b more hhex hhost hzone ih =>
    simp only [List.cons_append]
    rw [checkEscapes]
    simp only [hhex, hhost, hzone]
    exact ih h
  | case8 c rest hc hhost ih =>
    rw [List.cons_append, checkEscapes.eq_4 _ _ _ hc, if_neg hhost]
    exact ih h
  | _ => cases h

/-- The bytes of a part whose escapes are well formed, followed by more text, are its bytes and
then those of the text. -/
theorem decodeBytes_append {comp : Component} {A : List Char} (h : checkEscapes comp A = .ok ())
    (B : List Char) : decodeBytes comp (A ++ B) = decodeBytes comp A ++ decodeBytes comp B := by
  fun_induction checkEscapes comp A with
  | case1 => rfl
  | case5 a b more hhex hhost hzone ih =>
    have hpair : (isHex a && isHex b) = true := by simpa using hhex
    simp only [List.cons_append, decodeBytes, hpair, if_true, ih h]
  | case8 c rest hc hhost ih =>
    have hnot : ∀ a b more, c :: rest ++ B = '%' :: a :: b :: more → False :=
      fun _ _ _ heq => hc (List.cons.inj heq).1
    have hnot' : ∀ a b more, c :: rest = '%' :: a :: b :: more → False :=
      fun _ _ _ heq => hc (List.cons.inj heq).1
    rw [List.cons_append, decodeBytes.eq_3 _ _ _ (by simpa using hnot),
      decodeBytes.eq_3 _ _ _ (by simpa using hnot'), ih h, List.append_assoc]
  | _ => cases h

/-- The escapes of a text are well formed up to any character that is no hexadecimal digit: an
escape cut there would have been refused at that character. -/
theorem checkEscapes_prefix {comp : Component} {A B : List Char} {c : Char}
    (h : checkEscapes comp (A ++ c :: B) = .ok ()) (hc : isHex c = false) :
    checkEscapes comp A = .ok () := by
  fun_induction checkEscapes comp A with
  | case1 => rfl
  | case2 a b more hbad =>
    simp [checkEscapes, hbad] at h
  | case3 a b more hhex hhost =>
    simp only [List.cons_append, checkEscapes, hhex, hhost] at h
    cases h
  | case4 a b more hhex hhost hzone =>
    simp only [List.cons_append, checkEscapes, hhex, hhost, hzone] at h
    cases h
  | case5 a b more hhex hhost hzone ih =>
    simp only [List.cons_append, checkEscapes, hhex, hhost, hzone] at h
    exact ih h
  | case6 rest hshort =>
    rcases rest with _ | ⟨x, _ | ⟨y, more⟩⟩
    · cases B <;> simp [checkEscapes, hc] at h
    · simp [checkEscapes, hc] at h
    · exact absurd rfl (hshort x y more)
  | case7 d rest hd hhost =>
    rw [List.cons_append, checkEscapes.eq_4 _ _ _ hd, if_pos hhost] at h
    cases h
  | case8 d rest hd hhost ih =>
    rw [List.cons_append, checkEscapes.eq_4 _ _ _ hd, if_neg hhost] at h
    exact ih h

/-- A path checks any character but `%` as it is. -/
theorem checkEscapes_path_cons {c : Char} (hc : c ≠ '%') (rest : List Char) :
    checkEscapes .path (c :: rest) = checkEscapes .path rest := by
  rw [checkEscapes.eq_4 _ _ _ hc]
  simp

/-- A fragment's escapes are checked as a path's are. -/
theorem checkEscapes_fragment (cs : List Char) :
    checkEscapes .fragment cs = checkEscapes .path cs := by
  fun_induction checkEscapes .path cs with
  | case1 => rfl
  | case2 a b more hbad => simp [checkEscapes, hbad]
  | case3 _ _ _ _ hhost => simp at hhost
  | case4 _ _ _ _ _ hzone => simp at hzone
  | case5 a b more hhex hhost hzone ih =>
    simp only [checkEscapes, hhex]
    simpa using ih
  | case6 rest hshort =>
    rcases rest with _ | ⟨x, _ | ⟨y, more⟩⟩
    · rfl
    · rfl
    · exact absurd rfl (hshort x y more)
  | case7 _ _ _ hhost => simp at hhost
  | case8 c rest hc hhost ih =>
    rw [checkEscapes.eq_4 _ _ _ hc]
    simpa using ih

theorem unescapeBytes_eq_ok {comp : Component} {cs : List Char} {v : List Nat} :
    unescapeBytes comp cs = .ok v ↔ checkEscapes comp cs = .ok () ∧ decodeBytes comp cs = v := by
  unfold unescapeBytes
  cases checkEscapes comp cs <;> simp [bind, Except.bind, pure, Except.pure]

/-! ## Cuts at a separator -/

/-- A cut at a character keeps before it a part without the character, and the text is that part,
then the character and the rest when there is one. -/
theorem cutAt_spec (sep : Char) (cs : List Char) :
    sep ∉ (cutAt sep cs).1 ∧
      cs = (cutAt sep cs).1 ++ ((cutAt sep cs).2.map (sep :: ·)).getD [] := by
  have hkept : sep ∉ cs.takeWhile (· ≠ sep) := fun hmem => by
    simpa using List.all_eq_true.mp List.all_takeWhile sep hmem
  have hsplit := (List.takeWhile_append_dropWhile (p := fun c => decide (c ≠ sep)) (l := cs)).symm
  unfold cutAt
  rw [List.span_eq_takeWhile_dropWhile]
  rcases dropWhile_ne_head sep cs with hd | hd
  · rw [hd] at hsplit ⊢
    exact ⟨hkept, hsplit⟩
  · obtain ⟨after, hafter⟩ : ∃ after, cs.dropWhile (· ≠ sep) = sep :: after := by
      cases hq : cs.dropWhile (· ≠ sep) with
      | nil => rw [hq] at hd; cases hd
      | cons d after => rw [hq] at hd; cases hd; exact ⟨after, rfl⟩
    rw [hafter] at hsplit ⊢
    exact ⟨hkept, hsplit⟩

theorem cutAt_fst (sep : Char) (cs : List Char) : (cutAt sep cs).1 = cs.takeWhile (· ≠ sep) := by
  unfold cutAt
  rw [List.span_eq_takeWhile_dropWhile]
  cases cs.dropWhile (· ≠ sep) <;> rfl

/-- A cut of a text that goes on after a part without the separator falls in what follows. -/
theorem cutAt_append_of_not_mem {sep : Char} {A : List Char} (hA : sep ∉ A) (B : List Char) :
    cutAt sep (A ++ B) = (A ++ (cutAt sep B).1, (cutAt sep B).2) := by
  unfold cutAt
  rw [List.span_eq_takeWhile_dropWhile, List.span_eq_takeWhile_dropWhile,
    List.takeWhile_append_of_pos (kept_of_not_mem hA),
    List.dropWhile_append_of_pos (kept_of_not_mem hA)]
  cases B.dropWhile (· ≠ sep) <;> rfl

/-- The part of a path before a separator that is no hexadecimal digit has well-formed escapes
when the path has. -/
theorem checkEscapes_cutAt_fst {comp : Component} {cs : List Char} (h : checkEscapes comp cs = .ok ())
    {sep : Char} (hsep : isHex sep = false) : checkEscapes comp (cutAt sep cs).1 = .ok () := by
  obtain ⟨-, hcs⟩ := cutAt_spec sep cs
  cases hcut : (cutAt sep cs).2 with
  | none =>
    rw [hcut, Option.map_none, Option.getD_none, List.append_nil] at hcs
    rwa [← hcs]
  | some after =>
    rw [hcut, Option.map_some, Option.getD_some] at hcs
    rw [hcs] at h
    exact checkEscapes_prefix h hsep

/-- What follows a `#` in a path with well-formed escapes has well-formed escapes. -/
theorem checkEscapes_cutAt_snd {cs after : List Char} (h : checkEscapes .path cs = .ok ())
    (hcut : (cutAt '#' cs).2 = some after) : checkEscapes .path after = .ok () := by
  obtain ⟨-, hcs⟩ := cutAt_spec '#' cs
  rw [hcut, Option.map_some, Option.getD_some] at hcs
  have hfirst := checkEscapes_cutAt_fst h (by decide : isHex '#' = false)
  rw [hcs, checkEscapes_append hfirst, checkEscapes_path_cons (by decide)] at h
  exact h

/-! ## Reading a reference with an authority -/

/-- The scheme split off a text is followed by a suffix of the text. -/
theorem splitScheme_go_suffix {cs acc l S rest : List Char}
    (h : splitScheme.go cs acc l = .ok (S, rest)) (hl : l <:+ cs) : rest <:+ cs := by
  fun_induction splitScheme.go cs acc l with
  | case2 acc c l' _ ih => exact ih h ((List.suffix_cons c l').trans hl)
  | case4 acc c l' _ _ _ ih => exact ih h ((List.suffix_cons c l').trans hl)
  | case5 => cases h
  | case6 acc l' =>
    simp only [Except.ok.injEq, Prod.mk.injEq] at h
    obtain ⟨-, rfl⟩ := h
    exact (List.suffix_cons ':' l').trans hl
  | _ =>
    simp only [Except.ok.injEq, Prod.mk.injEq] at h
    obtain ⟨-, rfl⟩ := h
    exact List.suffix_refl _

theorem splitScheme_suffix {cs S rest : List Char} (h : splitScheme cs = .ok (S, rest)) :
    rest <:+ cs :=
  splitScheme_go_suffix h (List.suffix_refl cs)

/-- Once a scheme is found, what follows the text does not move where it ends. -/
theorem splitScheme_go_append {cs acc l S rest : List Char}
    (h : splitScheme.go cs acc l = .ok (S, rest)) (hS : S ≠ []) (cs' Y : List Char) :
    splitScheme.go cs' acc (l ++ Y) = .ok (S, rest ++ Y) := by
  fun_induction splitScheme.go cs acc l with
  | case2 acc c l' halpha ih =>
    rw [List.cons_append, splitScheme.go, if_pos halpha]
    exact ih h
  | case4 acc c l' hnotAlpha hdigit hacc ih =>
    rw [List.cons_append, splitScheme.go, if_neg hnotAlpha, if_pos hdigit, if_neg hacc]
    exact ih h
  | case5 => cases h
  | case6 acc l' hacc =>
    simp only [Except.ok.injEq, Prod.mk.injEq] at h
    obtain ⟨rfl, rfl⟩ := h
    rw [List.cons_append, splitScheme.go]
    simp [hacc]
  | _ =>
    simp only [Except.ok.injEq, Prod.mk.injEq] at h
    exact absurd h.1.symm hS

theorem splitScheme_append {cs S rest : List Char} (h : splitScheme cs = .ok (S, rest))
    (hS : S ≠ []) (Y : List Char) : splitScheme (cs ++ Y) = .ok (S, rest ++ Y) :=
  splitScheme_go_append h hS (cs ++ Y) Y

/-! The reader takes a text that ends in its only `?` as a bare query; these three lemmas say
when that test holds of a path followed by a query. -/

/-- A text with no question mark does not end in a bare one. -/
theorem bareQuery_of_not_mem {X : List Char} (hX : '?' ∉ X) :
    (decide (X.getLast? = some '?') && decide (X.count '?' = 1)) = false := by
  simp only [Bool.and_eq_false_iff, decide_eq_false_iff_not]
  exact .inl fun h => hX (List.mem_of_getLast? h)

/-- A text with no question mark, followed by one, ends in its only one. -/
theorem bareQuery_concat {X : List Char} (hX : '?' ∉ X) :
    (decide ((X ++ ['?']).getLast? = some '?') && decide ((X ++ ['?']).count '?' = 1)) = true := by
  simp only [List.getLast?_concat, List.count_append, List.count_eq_zero.mpr hX,
    List.count_singleton_self]
  rfl

/-- A query longer than its `?` either ends in another character or holds a second `?`. -/
theorem bareQuery_long {X q : List Char} (hX : '?' ∉ X) (hq : q ≠ []) :
    (decide ((X ++ '?' :: q).getLast? = some '?') &&
      decide ((X ++ '?' :: q).count '?' = 1)) = false := by
  have hcount : (X ++ '?' :: q).count '?' = q.count '?' + 1 := by
    rw [List.count_append, List.count_eq_zero.mpr hX, List.count_cons_self, Nat.zero_add]
  have hlast : (X ++ '?' :: q).getLast? = q.getLast? := by
    obtain ⟨c, q', rfl⟩ := List.exists_cons_of_ne_nil hq
    rw [List.getLast?_append_of_ne_nil _ (List.cons_ne_nil _ _), List.getLast?_cons_cons]
  simp only [hcount, hlast, Bool.and_eq_false_iff, decide_eq_false_iff_not]
  by_cases hend : q.getLast? = some '?'
  · -- the last `?` is a second one
    have hpos : 0 < q.count '?' := List.count_pos_iff.mpr (List.mem_of_getLast? hend)
    exact .inr (by omega)
  · exact .inl hend

/-- A reference with a scheme, `//`, an authority and a path from the root reads as those parts,
with the query after the path as written. -/
theorem parseReference_authority {cs S A T Q : List Char} {user : Option UserInfo}
    {host : List Nat}
    (hctl : (cs.any fun c => decide (c.toNat < 32) || decide (c.toNat = 127)) = false)
    (hsplit : splitScheme cs = .ok (S, '/' :: '/' :: (A ++ '/' :: T) ++ Q))
    (hscheme : lower (String.ofList S) ≠ "")
    (hslash : '/' ∉ A) (hq : '?' ∉ A ++ '/' :: T) (hQ : Q = [] ∨ Q.head? = some '?')
    (hauth : parseAuthority A = .ok (user, host))
    (hesc : checkEscapes .path ('/' :: T) = .ok ()) :
    parseReference false cs =
      .ok { scheme := lower (String.ofList S), user := user, host := host,
            path := decodeBytes .path ('/' :: T), rawPath := String.ofList ('/' :: T),
            rawQuery := String.ofList (Q.drop 1), forceQuery := Q == ['?'] } := by
  have hstar : cs ≠ ['*'] := by
    rintro rfl
    simp [splitScheme, splitScheme.go] at hsplit
  have hunescape : unescapeBytes .path ('/' :: T) = .ok (decodeBytes .path ('/' :: T)) :=
    unescapeBytes_eq_ok.mpr ⟨hesc, rfl⟩
  have hcutSlash : cutAt '/' (A ++ '/' :: T) = (A, some T) := cutAt_append_cons hslash T
  have hnone : '?' ∉ '/' :: '/' :: (A ++ '/' :: T) := by simpa using hq
  unfold parseReference
  simp only [bind, Except.bind, pure, Except.pure, hctl, hstar, hsplit, Bool.false_eq_true,
    if_false, Bool.false_and]
  rcases hQ with rfl | hhead
  · rw [List.append_nil, bareQuery_of_not_mem hnone, cutAt_of_not_mem hnone]
    simp [hscheme, hcutSlash, hauth, hunescape]
  obtain ⟨q, rfl⟩ : ∃ q, Q = '?' :: q := by
    cases Q with
    | nil => simp at hhead
    | cons c q => simp at hhead; exact ⟨q, by rw [hhead]⟩
  by_cases hbare : q = []
  · subst hbare
    simp only [bareQuery_concat hnone, if_true, List.dropLast_concat]
    simp [hscheme, hcutSlash, hauth, hunescape]
  · simp only [bareQuery_long hnone hbare, Bool.false_eq_true, if_false,
      cutAt_append_cons hnone q]
    have hlong : q.isEmpty = false := by
      cases q with
      | nil => exact absurd rfl hbare
      | cons _ _ => rfl
    simp [hscheme, hcutSlash, hauth, hunescape, hlong]

/-- A reference without a query that reads with a host is a scheme, `//`, an authority that
gives the host, and a path that is empty or from the root. -/
theorem parseReference_authority_inv {cs : List Char} {root : Url}
    (h : parseReference false cs = .ok root) (hq : '?' ∉ cs) (hhost : root.host ≠ []) :
    ∃ S A T, splitScheme cs = .ok (S, '/' :: '/' :: (A ++ T)) ∧ '/' ∉ A ∧
      (T = [] ∨ T.head? = some '/') ∧ parseAuthority A = .ok (root.user, root.host) ∧
      checkEscapes .path T = .ok () ∧ root.scheme = lower (String.ofList S) ∧
      root.path = decodeBytes .path T := by
  have hctl : (cs.any fun c => decide (c.toNat < 32) || decide (c.toNat = 127)) = false := by
    simpa using Fixture.parseReference_no_control h
  have hstar : cs ≠ ['*'] := by
    rintro rfl
    have hstar : parseReference false ['*'] = .ok { path := [42], rawPath := "*" } := rfl
    rw [hstar] at h
    cases h
    exact hhost rfl
  unfold parseReference at h
  simp only [bind, Except.bind, pure, Except.pure, hctl, hstar, Bool.false_eq_true,
    if_false, Bool.false_and] at h
  obtain ⟨⟨S, rest⟩, hsplit⟩ : ∃ r, splitScheme cs = .ok r := by
    cases hs : splitScheme cs with
    | error e => rw [hs] at h; cases h
    | ok r => exact ⟨r, rfl⟩
  have hrest : '?' ∉ rest := fun hmem => hq ((splitScheme_suffix hsplit).subset hmem)
  simp only [hsplit, bareQuery_of_not_mem hrest, cutAt_of_not_mem hrest, Bool.false_eq_true,
    if_false] at h
  by_cases htwo : ∃ X, rest = '/' :: '/' :: X
  · obtain ⟨X, rfl⟩ := htwo
    simp only [List.head?_cons, ne_eq, not_true_eq_false, if_false, List.take, List.drop,
      decide_true, Bool.and_true] at h
    split at h
    · -- the authority ends at the first slash after `//`, and the path starts there
      obtain ⟨hslash, hX⟩ := cutAt_spec '/' X
      rcases hcut : cutAt '/' X with ⟨A, _ | p⟩
      all_goals
        rw [hcut] at h hslash hX
        simp only [Option.map_none, Option.map_some, Option.getD_none, Option.getD_some] at h hX
        split at h
        · cases h
        rename_i uh hauth
        split at h
        · cases h
        rename_i v hpath
        cases h
        obtain ⟨hesc, hdec⟩ := unescapeBytes_eq_ok.mp hpath
        exact ⟨S, A, _, by rw [hsplit, hX], hslash, by simp, hauth, hesc, rfl, hdec.symm⟩
    · -- a path without an authority has no host
      split at h <;> cases h
      exact absurd rfl hhost
  · -- without `//` after the scheme there is no authority, and so no host
    have htake : List.take 2 rest ≠ ['/', '/'] := fun htake =>
      htwo ⟨rest.drop 2, by rw [← List.take_append_drop 2 rest, htake]; rfl⟩
    simp only [htake, decide_false, Bool.and_false, Bool.false_eq_true, if_false] at h
    repeat' split at h
    all_goals (cases h; try exact absurd rfl hhost)

/-! ## Appending to a URL -/

theorem parseReference_of_parse {text : String} {u : Url} (hhash : '#' ∉ text.toList)
    (h : Url.parse text = .ok u) : parseReference false text.toList = .ok u := by
  unfold Url.parse at h
  rw [cutAt_of_not_mem hhash] at h
  dsimp only at h
  split at h
  · cases h
  · rename_i v hv
    cases h
    exact hv

/-- A URL whose fragment has well-formed escapes reads as the reference before the fragment, with
the fragment set. -/
theorem parse_of_cut {text : String} {main : List Char} {o : Option (List Char)} {u : Url}
    (hcut : cutAt '#' text.toList = (main, o)) (hmain : parseReference false main = .ok u)
    (hfrag : ∀ f, o = some f → checkEscapes .path f = .ok ()) :
    ∃ fragment, Url.parse text = .ok { u with fragment := fragment } := by
  unfold Url.parse
  rw [hcut]
  dsimp only
  rw [hmain]
  cases o with
  | none => exact ⟨u.fragment, rfl⟩
  | some f =>
    by_cases hempty : f.isEmpty = true
    · exact ⟨u.fragment, by simp [hempty]⟩
    · have hunescape : unescape .fragment f = .ok (decodeUtf8 (decodeBytes .fragment f)) := by
        have hesc : checkEscapes .fragment f = .ok () := by
          rw [checkEscapes_fragment]
          exact hfrag f rfl
        simp [unescape, unescapeBytes_eq_ok.mpr ⟨hesc, rfl⟩]
      exact ⟨decodeUtf8 (decodeBytes .fragment f), by simp [hempty, hunescape]⟩

/-- The part of a reference before its query and its fragment. -/
def pathPart (cs : List Char) : List Char :=
  cs.takeWhile fun c => c ≠ '?' ∧ c ≠ '#'

/-- The path part is what is left before a `?` once the fragment is cut off. -/
theorem pathPart_eq_cutAt (cs : List Char) : (cutAt '?' (cutAt '#' cs).1).1 = pathPart cs := by
  rw [cutAt_fst, cutAt_fst, List.takeWhile_takeWhile, pathPart]
  simp only [decide_eq_true_eq]

/-- Before its fragment a path is its path part, which has no `?` and well-formed escapes, and
then its query, if any. -/
theorem cutAt_hash_pathPart {cs : List Char} (hesc : checkEscapes .path cs = .ok ()) :
    ∃ Q, (cutAt '#' cs).1 = pathPart cs ++ Q ∧ (Q = [] ∨ Q.head? = some '?') ∧
      '?' ∉ pathPart cs ∧ checkEscapes .path (pathPart cs) = .ok () := by
  obtain ⟨hnoQuery, hmain⟩ := cutAt_spec '?' (cutAt '#' cs).1
  rw [pathPart_eq_cutAt] at hnoQuery hmain
  refine ⟨_, hmain, ?_, hnoQuery, ?_⟩
  · cases (cutAt '?' (cutAt '#' cs).1).2 <;> simp
  · rw [← pathPart_eq_cutAt]
    exact checkEscapes_cutAt_fst (checkEscapes_cutAt_fst hesc (by decide)) (by decide)

/-- A URL that ends in a slash and reads with a scheme and a host, with neither a query nor a
fragment, is a scheme, `//`, an authority that gives the host, and a path from the root. -/
theorem parse_root_inv {r : String} {root : Url} (hroot : Url.parse r = .ok root)
    (hq : '?' ∉ r.toList) (hhash : '#' ∉ r.toList) (hscheme : root.scheme ≠ "")
    (hhost : root.host ≠ []) (hlast : r.toList.getLast? = some '/') :
    ∃ S A T, splitScheme r.toList = .ok (S, '/' :: '/' :: (A ++ '/' :: T)) ∧ S ≠ [] ∧
      '/' ∉ A ∧ '?' ∉ A ++ '/' :: T ∧ parseAuthority A = .ok (root.user, root.host) ∧
      checkEscapes .path ('/' :: T) = .ok () ∧ root.scheme = lower (String.ofList S) ∧
      root.path = decodeBytes .path ('/' :: T) := by
  obtain ⟨S, A, T, hsplit, hslash, hT, hauth, hescT, hsch, hpath⟩ :=
    parseReference_authority_inv (parseReference_of_parse hhash hroot) hq hhost
  obtain ⟨pre, hpre⟩ := splitScheme_suffix hsplit
  have hS : S ≠ [] := by
    rintro rfl
    exact hscheme (hsch.trans (by decide))
  obtain ⟨T', rfl⟩ : ∃ T', T = '/' :: T' := by
    rcases hT with rfl | hT
    · exfalso
      rw [← hpre, List.append_nil] at hlast
      cases A with
      | nil =>
        have hnone : parseAuthority [] = .ok (none, []) := rfl
        rw [hnone] at hauth
        simp only [Except.ok.injEq, Prod.mk.injEq] at hauth
        exact hhost hauth.2.symm
      | cons a A' =>
        rw [List.getLast?_append_of_ne_nil _ (by simp), List.getLast?_cons_cons,
          List.getLast?_cons_cons] at hlast
        exact hslash (List.mem_of_getLast? hlast)
    · cases T with
      | nil => simp at hT
      | cons c T' => simp at hT; exact ⟨T', by rw [hT]⟩
  have hqRoot : '?' ∉ A ++ '/' :: T' := fun hmem => hq (by rw [← hpre]; simp [hmem])
  exact ⟨S, A, T', hsplit, hS, hslash, hqRoot, hauth, hescT, hsch, hpath⟩

/-- Text appended to a URL that ends in a path from the root, with neither a query nor a fragment,
extends its path by the text's path part and keeps its scheme, user information and host. -/
theorem parse_append {r t : String} {root : Url} (hroot : Url.parse r = .ok root)
    (hq : '?' ∉ r.toList) (hhash : '#' ∉ r.toList) (hscheme : root.scheme ≠ "")
    (hhost : root.host ≠ []) (hlast : r.toList.getLast? = some '/')
    (hctl : ∀ c ∈ t.toList, ¬(c.toNat < 0x20 ∨ c.toNat = 0x7F))
    (hesc : checkEscapes .path t.toList = .ok ()) :
    ∃ u, Url.parse (r ++ t) = .ok u ∧ u.scheme = root.scheme ∧ u.user = root.user ∧
      u.host = root.host ∧ u.path = root.path ++ decodeBytes .path (pathPart t.toList) := by
  obtain ⟨S, A, T, hsplit, hS, hslash, hqRoot, hauth, hescT, hsch, hpath⟩ :=
    parse_root_inv hroot hq hhash hscheme hhost hlast
  obtain ⟨Q, hmain, hQ, hnoQuery, hescPart⟩ := cutAt_hash_pathPart hesc
  have hsplit' : splitScheme (r.toList ++ (cutAt '#' t.toList).1) =
      .ok (S, '/' :: '/' :: (A ++ '/' :: (T ++ pathPart t.toList)) ++ Q) := by
    rw [splitScheme_append hsplit hS, hmain]
    simp
  have hctl' : ((r.toList ++ (cutAt '#' t.toList).1).any
      fun c => decide (c.toNat < 32) || decide (c.toNat = 127)) = false := by
    refine List.any_eq_false.mpr fun c hc => ?_
    rcases List.mem_append.mp hc with hc | hc
    · simpa using Fixture.parseReference_no_control (parseReference_of_parse hhash hroot) c hc
    · have hct : c ∈ t.toList := by
        rw [(cutAt_spec '#' t.toList).2]
        exact List.mem_append_left _ hc
      simpa using hctl c hct
  have hq' : '?' ∉ A ++ '/' :: (T ++ pathPart t.toList) := by
    rw [← List.cons_append, ← List.append_assoc, List.mem_append, not_or]
    exact ⟨hqRoot, hnoQuery⟩
  have href := parseReference_authority hctl' hsplit' (hsch ▸ hscheme) hslash hq' hQ hauth
    (by rw [← List.cons_append, checkEscapes_append hescT]; exact hescPart)
  have hcut : cutAt '#' (r ++ t).toList =
      (r.toList ++ (cutAt '#' t.toList).1, (cutAt '#' t.toList).2) := by
    rw [String.toList_append, cutAt_append_of_not_mem hhash]
  obtain ⟨fragment, hparse⟩ := parse_of_cut hcut href fun f hf => checkEscapes_cutAt_snd hesc hf
  refine ⟨_, hparse, hsch.symm, rfl, rfl, ?_⟩
  show decodeBytes .path (('/' :: T) ++ pathPart t.toList) = _
  rw [decodeBytes_append hescT, hpath]

end DashboardHarness.Web

namespace DashboardHarness

open Web

/-! ## Loaded roots and their pages -/

/-- Whether a text ends in exactly one slash: a slash, with no slash right before it. -/
def endsInOneSlash (s : String) : Bool :=
  match s.toList.reverse with
  | '/' :: before => before.head? != some '/'
  | _ => false

/-- A path that a page address can end in: no control character, and every `%` starts an escape
of two hexadecimal digits. -/
def wellFormedPath (p : String) : Bool :=
  p.toList.all (fun c => !(decide (c.toNat < 0x20) || decide (c.toNat = 0x7F))) &&
    decide (checkEscapes .path p.toList = .ok ())

theorem endsInOneSlash_trimEnd (t : String) :
    endsInOneSlash (Text.trimEnd '/' t ++ "/") = true := by
  have hhead : (t.toList.reverse.dropWhile (· == '/')).head? ≠ some '/' := by
    intro h
    have hnot := List.head?_dropWhile_not (· == '/') t.toList.reverse
    rw [h] at hnot
    simp at hnot
  simp [endsInOneSlash, Text.trimEnd, hhead]

/-- A normalized URL is empty or a text without trailing slashes followed by one. -/
theorem normalizeUrl_eq (s : String) :
    normalizeUrl s = "" ∨ ∃ t, normalizeUrl s = Text.trimEnd '/' t ++ "/" := by
  unfold normalizeUrl
  dsimp only
  split
  · exact .inl rfl
  · exact .inr ⟨_, rfl⟩

/-- Leading slashes carry no escape, so cutting them keeps a path's escapes well formed. -/
theorem checkEscapes_dropWhile_slash {cs : List Char} (h : checkEscapes .path cs = .ok ()) :
    checkEscapes .path (cs.dropWhile (· == '/')) = .ok () := by
  induction cs with
  | nil => rfl
  | cons c cs ih =>
    by_cases hc : c = '/'
    · subst hc
      rw [List.dropWhile_cons_of_pos (by decide)]
      rw [checkEscapes_path_cons (by decide)] at h
      exact ih h
    · rwa [List.dropWhile_cons_of_neg (by simpa using hc)]

theorem Settings.load_eq_ok {text : String → Option String} {c : Settings}
    (h : Settings.load text = .ok c) :
    c.validate = .ok () ∧
      c.applicationUrl = normalizeUrl ((text "TEST_URL").getD ({} : Settings).applicationUrl) := by
  unfold Settings.load at h
  dsimp only at h
  split at h
  · rename_i hvalid
    simp only [Except.ok.injEq] at h
    subst h
    refine ⟨hvalid, ?_⟩
    dsimp only
  · cases h

theorem Settings.validate_eq_ok {s : Settings} (h : s.validate = .ok ()) :
    ∃ root, Url.parse s.applicationUrl = .ok root ∧
      (root.scheme = "http" ∨ root.scheme = "https") ∧ root.host ≠ [] := by
  unfold Settings.validate at h
  split at h
  · cases h
  · rename_i root hroot
    by_cases hbad : (root.scheme ≠ "http" ∧ root.scheme ≠ "https") ∨ root.host = []
    · rw [if_pos hbad] at h
      cases h
    · simp only [not_or, not_and_or, ne_eq, not_not] at hbad
      exact ⟨root, hroot, hbad⟩

/-- The application URL of loaded settings ends in exactly one slash, and reads as an `http` or
`https` URL with a host. When it has no query and no fragment, the address of every well-formed
path reads with the root's scheme, user information and host, and with the root's path followed
by the decoded path part of the path without its leading slashes. -/
theorem Settings.load_resolve_under_root (text : String → Option String) (c : Settings)
    (hload : Settings.load text = .ok c) :
    endsInOneSlash c.applicationUrl = true ∧
      ∃ root, Url.parse c.applicationUrl = .ok root ∧
        (root.scheme = "http" ∨ root.scheme = "https") ∧ root.host ≠ [] ∧
        ('?' ∉ c.applicationUrl.toList → '#' ∉ c.applicationUrl.toList →
          ∀ p, wellFormedPath p = true → ∃ u, Url.parse (c.resolve p) = .ok u ∧
            u.scheme = root.scheme ∧ u.user = root.user ∧ u.host = root.host ∧
            u.path = root.path ++ decodeBytes .path (pathPart (Text.trimStart '/' p).toList)) := by
  obtain ⟨hvalid, hurl⟩ := Settings.load_eq_ok hload
  obtain ⟨root, hroot, hscheme, hhost⟩ := Settings.validate_eq_ok hvalid
  have hschemeNe : root.scheme ≠ "" := by
    rcases hscheme with h | h <;> rw [h] <;> decide
  obtain ⟨t, ht⟩ : ∃ t, c.applicationUrl = Text.trimEnd '/' t ++ "/" := by
    rcases normalizeUrl_eq ((text "TEST_URL").getD ({} : Settings).applicationUrl) with
      hempty | htrim
    · rw [hurl, hempty] at hroot
      have hparse : Url.parse "" = .ok {} := rfl
      rw [hparse, Except.ok.injEq] at hroot
      exact absurd (congrArg Url.scheme hroot).symm hschemeNe
    · rwa [hurl]
  have hlast : c.applicationUrl.toList.getLast? = some '/' := by
    rw [ht, String.toList_append]
    simp
  refine ⟨ht ▸ endsInOneSlash_trimEnd t, root, hroot, hscheme, hhost, fun hq hhash p hp => ?_⟩
  simp only [wellFormedPath, Bool.and_eq_true, List.all_eq_true, decide_eq_true_eq] at hp
  obtain ⟨hctl, hesc⟩ := hp
  have hctl' : ∀ c ∈ (Text.trimStart '/' p).toList, ¬(c.toNat < 0x20 ∨ c.toNat = 0x7F) := by
    intro c hc
    have hcp : c ∈ p.toList := (List.dropWhile_suffix _).subset (by simpa [Text.trimStart] using hc)
    simpa using hctl c hcp
  have hesc' : checkEscapes .path (Text.trimStart '/' p).toList = .ok () := by
    simpa [Text.trimStart] using checkEscapes_dropWhile_slash hesc
  exact parse_append hroot hq hhash hschemeNe hhost hlast hctl' hesc'

/-- The default settings address the dashboard list, with its query and fragment, under their
root. -/
theorem default_root_holds_dashboard_list :
    Settings.load (fun _ => none) = .ok {} ∧
      ∃ root u, Url.parse ({} : Settings).applicationUrl = .ok root ∧
        Url.parse (({} : Settings).resolve "/dashboard/list/?page=2#top") = .ok u ∧
        u.host = root.host ∧ u.path = root.path ++ decodeBytes .path "dashboard/list/".toList := by
  have hload : Settings.load (fun _ => none) = .ok {} := rfl
  obtain ⟨-, root, hroot, -, -, hunder⟩ := Settings.load_resolve_under_root (fun _ => none) {} hload
  obtain ⟨u, hu, -, -, hhost, hpath⟩ := hunder (by decide) (by decide)
    "/dashboard/list/?page=2#top" (by decide)
  refine ⟨hload, root, u, hroot, hu, hhost, ?_⟩
  rw [hpath]
  rfl

/-- A root with a query passes the checks, and every page address made from it keeps the root's
path: the relative path lands in the query. -/
theorem query_root_swallows_path :
    Settings.load (fun k => if k = "TEST_URL" then some "http://h/?q/" else none) =
        .ok { applicationUrl := "http://h/?q/" } ∧
      ∃ root u, Url.parse "http://h/?q/" = .ok root ∧
        Url.parse (({ applicationUrl := "http://h/?q/" } : Settings).resolve "login/") = .ok u ∧
        u.path = root.path ∧
        u.path ≠ root.path ++ decodeBytes .path (pathPart "login/".toList) :=
  ⟨rfl, _, _, rfl, rfl, rfl, by decide⟩

end DashboardHarness

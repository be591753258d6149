import DashboardHarness.Proofs.Encodings
import DashboardHarness.Fixture.Server
import DashboardHarness.Web.RequestLine

/-!
# Targets a login returns to unchanged

A redirect makes its target absolute, cleans its path and escapes its bytes outside ASCII, and a
login goes on only to a path on this host with no backslash. A plain target passes all of these
unchanged: it is printable ASCII with no backslash and no `#`, its path is the root followed by
segments that cleaning keeps (neither empty nor dot segments), perhaps with a slash at the end,
and the escapes of its path are well formed; its query is what follows the first question mark.

Main results:

- `cleanPath_plain`: cleaning a plain path and putting back its trailing slash gives it back.
- `parseReference_plainTarget`: a plain target reads as its path and its query, with no scheme
  and no host.
- `read_get_plainTarget`: a plain target without spaces is read from a request line as its path
  and its query.
- `location_redirect_plainTarget`: a redirect to a plain target names it as it is.
- `safeTarget_plainTarget`: a login goes on to a plain target as it is.
- `plainChar_of_queryEscapeChar`: an escaped query component has only plain characters.
-/

namespace DashboardHarness.Web

open Text

/-! ## Plain paths -/

/-- Whether cleaning keeps a segment of a path: it is neither empty nor a dot segment. -/
def keptSegment (segment : List Nat) : Bool :=
  !segment.isEmpty && segment != [dot] && segment != [dot, dot]

/-- A plain path: the root, then segments that cleaning keeps, each after a slash, and perhaps a
slash at the end. -/
def plainPath : List Nat → Bool
  | [] => false
  | b :: rest => b == slash && (rest.isEmpty ||
      ((if rest.getLast? = some slash then rest.dropLast else rest).splitOn slash).all keptSegment)

theorem cleanStep_kept (rooted : Bool) {kept : List (List Nat)} {segment : List Nat}
    (h : keptSegment segment = true) : cleanStep rooted kept segment = segment :: kept := by
  simp only [keptSegment, Bool.and_eq_true, Bool.not_eq_true', List.isEmpty_eq_false_iff, bne_iff_ne, ne_eq] at h
  simp [cleanStep, h.1.1, h.1.2, h.2]

theorem foldl_cleanStep_kept (rooted : Bool) :
    ∀ (segments kept : List (List Nat)), segments.all keptSegment = true →
      segments.foldl (cleanStep rooted) kept = segments.reverse ++ kept
  | [], kept, _ => rfl
  | s :: segments, kept, h => by
    simp only [List.all_cons, Bool.and_eq_true] at h
    rw [List.foldl_cons, cleanStep_kept rooted h.1, foldl_cleanStep_kept rooted segments _ h.2]
    simp

theorem splitOn_root (rest : List Nat) : (slash :: rest).splitOn slash = [] :: rest.splitOn slash := by
  rw [List.splitOn_cons_eq_if_modifyHead]
  simp

/-- Segments that cleaning keeps are never empty, so they come from a nonempty body. -/
theorem ne_nil_of_kept {body : List Nat} (h : (body.splitOn slash).all keptSegment = true) :
    body ≠ [] := by
  rintro rfl
  simp [keptSegment] at h

/-- A body of kept segments does not end in a slash, which would leave an empty last segment. -/
theorem getLast_ne_slash_of_kept {body : List Nat} (h : (body.splitOn slash).all keptSegment = true) :
    body.getLast? ≠ some slash := by
  intro hlast
  obtain ⟨front, rfl⟩ : ∃ front, body = front ++ [slash] :=
    ⟨body.dropLast, (List.dropLast_append_getLast? _ hlast).symm⟩
  rw [List.splitOn_append_cons_self] at h
  simp [keptSegment] at h

/-- Cleaning keeps a rooted path of kept segments as it is. -/
theorem cleanPath_kept {body : List Nat} (h : (body.splitOn slash).all keptSegment = true) :
    cleanPath (slash :: body) = slash :: body := by
  have hempty : cleanStep true [] [] = [] := rfl
  unfold cleanPath
  simp only [List.isEmpty_cons, Bool.false_eq_true, if_false, List.head?_cons, if_true, decide_true]
  rw [splitOn_root, List.foldl_cons, hempty, foldl_cleanStep_kept true _ [] h]
  simp

/-- Cleaning takes the trailing slash off a rooted path of kept segments. -/
theorem cleanPath_kept_slash {body : List Nat} (h : (body.splitOn slash).all keptSegment = true) :
    cleanPath (slash :: (body ++ [slash])) = slash :: body := by
  have hempty : ∀ kept, cleanStep true kept [] = kept := fun kept => rfl
  unfold cleanPath
  simp only [List.isEmpty_cons, Bool.false_eq_true, if_false, List.head?_cons, if_true, decide_true]
  rw [splitOn_root, List.splitOn_append_cons_self, List.foldl_cons, hempty, List.foldl_append,
    foldl_cleanStep_kept true _ [] h]
  simp [hempty]

/-- Cleaning a plain path and putting back its trailing slash, as a redirect does, gives the path
back. -/
theorem cleanPath_plain {p : List Nat} (h : plainPath p = true) :
    (if p.getLast? = some slash && (cleanPath p).getLast? ≠ some slash then cleanPath p ++ [slash]
      else cleanPath p) = p := by
  obtain ⟨rest, rfl⟩ : ∃ rest, p = slash :: rest := by
    cases p with
    | nil => simp [plainPath] at h
    | cons b rest =>
      simp only [plainPath, Bool.and_eq_true, beq_iff_eq] at h
      exact ⟨rest, by rw [h.1]⟩
  by_cases hroot : rest = []
  · subst hroot
    decide
  have hbody : ((if rest.getLast? = some slash then rest.dropLast else rest).splitOn slash).all
      keptSegment = true := by
    simpa [plainPath, hroot] using h
  by_cases htrail : rest.getLast? = some slash
  · -- a trailing slash: cleaning takes it off and the redirect puts it back
    obtain ⟨body, rfl⟩ : ∃ body, rest = body ++ [slash] :=
      ⟨rest.dropLast, (List.dropLast_append_getLast? _ htrail).symm⟩
    have hkept : (body.splitOn slash).all keptSegment = true := by
      simpa using hbody
    have hlast : (slash :: body).getLast? ≠ some slash := by
      rw [List.getLast?_cons_of_ne_nil (ne_nil_of_kept hkept)]
      exact getLast_ne_slash_of_kept hkept
    have htrail' : (slash :: (body ++ [slash])).getLast? = some slash := by
      rw [List.getLast?_cons_of_ne_nil hroot]
      exact htrail
    rw [cleanPath_kept_slash hkept]
    simp [hlast, htrail']
  · have hkept : (rest.splitOn slash).all keptSegment = true := by
      simpa [htrail] using hbody
    have hlast : (slash :: rest).getLast? ≠ some slash := by
      rw [List.getLast?_cons_of_ne_nil hroot]
      exact htrail
    rw [cleanPath_kept hkept]
    simp [hlast]

/-- No plain path starts with two slashes, which would make an empty first segment. -/
theorem plainPath_slash_slash (more : List Nat) : plainPath (slash :: slash :: more) = false := by
  have hfirst : ∀ x, ((slash :: x).splitOn slash).all keptSegment = false := fun x => by
    rw [splitOn_root]
    rfl
  by_cases hmore : more = []
  · subst hmore
    rfl
  · have hdrop : (slash :: more).dropLast = slash :: more.dropLast := by
      obtain ⟨c, more', rfl⟩ := List.exists_cons_of_ne_nil hmore
      rfl
    simp only [plainPath, beq_self_eq_true, List.isEmpty_cons, Bool.false_or, Bool.true_and]
    split <;> simp only [hdrop, hfirst]

/-! ## Plain targets -/

/-- Whether a character may stand in a plain target: printable ASCII, but neither a backslash,
which browsers read as a slash, nor `#`, which starts a fragment. -/
def plainChar (c : Char) : Bool :=
  0x20 ≤ c.toNat && c.toNat < 0x7F && c != '\\' && c != '#'

/-- A target that a login can send a browser back to unchanged: plain characters, a plain path
with well-formed escapes, and the query after it, if any. -/
def plainTarget (t : String) : Bool :=
  let path := t.toList.takeWhile (· ≠ '?')
  t.toList.all plainChar && plainPath (path.map Char.toNat) && (checkEscapes .path path).isOk

/-- What a plain target reads as: its path up to the first question mark, decoded and as
written, and the query after that mark; a bare mark at the end forces an empty query. -/
def plainUrl (t : String) : Url :=
  { path := decodeBytes .path (t.toList.takeWhile (· ≠ '?')),
    rawPath := String.ofList (t.toList.takeWhile (· ≠ '?')),
    rawQuery := String.ofList ((t.toList.dropWhile (· ≠ '?')).drop 1),
    forceQuery := t.toList.dropWhile (· ≠ '?') == ['?'] }

/-- The UTF-8 bytes of ASCII characters are their codes. -/
theorem flatMap_utf8Bytes_ascii :
    ∀ {cs : List Char}, (∀ c ∈ cs, c.toNat < 0x80) → cs.flatMap utf8Bytes = cs.map Char.toNat
  | [], _ => rfl
  | c :: cs, h => by
    rw [List.flatMap_cons, utf8Bytes_ascii c (h c List.mem_cons_self),
      flatMap_utf8Bytes_ascii fun x hx => h x (List.mem_cons_of_mem c hx)]
    rfl

/-- Codes of ASCII characters have nothing to escape. -/
theorem hexEscapeNonAscii_ascii {cs : List Char} (h : ∀ c ∈ cs, c.toNat < 0x80) :
    hexEscapeNonAscii (cs.map Char.toNat) = String.ofList cs := by
  unfold hexEscapeNonAscii
  congr 1
  induction cs with
  | nil => rfl
  | cons c cs ih =>
    have hc := h c List.mem_cons_self
    rw [List.map_cons, List.flatMap_cons, if_pos hc, Char.ofNat_toNat,
      ih fun x hx => h x (List.mem_cons_of_mem c hx)]
    rfl

/-- What is left after the characters before a separator starts with the separator, if anything
is left. -/
theorem dropWhile_ne_head (sep : Char) (cs : List Char) :
    cs.dropWhile (· ≠ sep) = [] ∨ (cs.dropWhile (· ≠ sep)).head? = some sep := by
  cases hq : cs.dropWhile (· ≠ sep) with
  | nil => exact .inl rfl
  | cons c q =>
    have hstop := @List.head_dropWhile_not _ (fun x => decide (x ≠ sep)) cs
      (by rw [hq]; exact List.cons_ne_nil c q)
    simp only [hq, List.head_cons, decide_eq_false_iff_not, not_not] at hstop
    exact .inr (by rw [hstop]; rfl)

/-! ## Reading a path from the root -/

theorem splitScheme_root {rest : List Char} : splitScheme ('/' :: rest) = .ok ([], '/' :: rest) := by
  simp [splitScheme, splitScheme.go]

theorem parseReference_rooted (forRequest : Bool) {rest query : List Char}
    (hctl : (('/' :: rest ++ query).any fun c => decide (c.toNat < 32) || decide (c.toNat = 127)) = false)
    (htwo : rest.head? ≠ some '/')
    (hpath : '?' ∉ rest) (hquery : query = [] ∨ query.head? = some '?')
    (hescapes : checkEscapes .path ('/' :: rest) = .ok ()) :
    parseReference forRequest ('/' :: rest ++ query) =
      .ok { path := decodeBytes .path ('/' :: rest), rawPath := String.ofList ('/' :: rest),
            rawQuery := String.ofList (query.drop 1), forceQuery := query == ['?'] } := by
  have hscheme : splitScheme ('/' :: rest ++ query) = .ok ([], '/' :: rest ++ query) :=
    splitScheme_root
  have hempty : (forRequest && ('/' :: rest ++ query).isEmpty) = false := by simp
  have hstar : '/' :: rest ++ query ≠ ['*'] := by simp
  have hlower : Text.lower (String.ofList []) = "" := by decide
  have hslashes : List.take 1 rest ≠ ['/'] := by
    cases rest with
    | nil => simp
    | cons c more => simpa using htwo
  have hunescape : unescapeBytes .path ('/' :: rest) = .ok (decodeBytes .path ('/' :: rest)) := by
    simp [unescapeBytes, hescapes]
  unfold parseReference
  rw [hctl, if_neg Bool.false_ne_true, hempty, if_neg Bool.false_ne_true, if_neg hstar, hscheme]
  simp only [bind, Except.bind]
  have hnone : '?' ∉ '/' :: rest := by simp [hpath]
  rcases hquery with rfl | hhead
  · -- no query: nothing is cut off
    have hcond : (decide (('/' :: rest ++ []).getLast? = some '?') &&
        decide (List.count '?' ('/' :: rest ++ []) = 1)) = false := by
      have hlast : ('/' :: rest).getLast? ≠ some '?' := fun h => hnone (List.mem_of_getLast? h)
      simp [hlast]
    have hcut : cutAt '?' ('/' :: rest ++ []) = ('/' :: rest, none) := by
      rw [List.append_nil]
      exact cutAt_of_not_mem hnone
    simp only [hcond, hcut, Bool.false_eq_true, if_false]
    simp [hlower, hslashes, hunescape]
    rfl
  obtain ⟨q, rfl⟩ : ∃ q, query = '?' :: q := by
    cases query with
    | nil => simp at hhead
    | cons c q => simp at hhead; exact ⟨q, by rw [hhead]⟩
  have hcount : List.count '?' ('/' :: rest ++ '?' :: q) = List.count '?' q + 1 := by
    simp [List.count_eq_zero.mpr hpath]
  by_cases hq : q = []
  · -- a bare question mark: the query is forced and empty
    subst hq
    have hcond : (decide (('/' :: rest ++ ['?']).getLast? = some '?') &&
        decide (List.count '?' ('/' :: rest ++ ['?']) = 1)) = true := by
      simp only [List.getLast?_concat, hcount, List.count_nil]
      rfl
    have hdrop : ('/' :: rest ++ ['?']).dropLast = '/' :: rest := List.dropLast_concat
    simp only [hcond, if_true, hdrop]
    simp [hlower, hslashes, hunescape]
    rfl
  · -- a longer query: a question mark at its end would be a second one
    have hcond : (decide (('/' :: rest ++ '?' :: q).getLast? = some '?') &&
        decide (List.count '?' ('/' :: rest ++ '?' :: q) = 1)) = false := by
      have hmem : ('/' :: rest ++ '?' :: q).getLast? = some '?' → '?' ∈ q := by
        intro hlast
        obtain ⟨c, q', rfl⟩ := List.exists_cons_of_ne_nil hq
        rw [List.getLast?_append_of_ne_nil _ (List.cons_ne_nil _ _), List.getLast?_cons_cons] at hlast
        exact List.mem_of_getLast? hlast
      have hpos : '?' ∈ q → 0 < List.count '?' q := List.count_pos_iff.mpr
      simp only [hcount, Bool.and_eq_false_iff, decide_eq_false_iff_not]
      by_cases hlast : ('/' :: rest ++ '?' :: q).getLast? = some '?'
      · exact .inr (by have := hpos (hmem hlast); omega)
      · exact .inl hlast
    simp only [hcond, Bool.false_eq_true, if_false, cutAt_append_cons hnone q]
    have hlong : q.isEmpty = false := by
      cases q with
      | nil => exact absurd rfl hq
      | cons _ _ => rfl
    simp [hlower, hslashes, hunescape, hlong]
    rfl

section PlainTarget

variable {t : String}

theorem plainTarget_parts (h : plainTarget t = true) :
    (∀ c ∈ t.toList, plainChar c = true) ∧
      plainPath ((t.toList.takeWhile (· ≠ '?')).map Char.toNat) = true ∧
      checkEscapes .path (t.toList.takeWhile (· ≠ '?')) = .ok () := by
  unfold plainTarget at h
  simp only [Bool.and_eq_true] at h
  obtain ⟨⟨hchars, hpath⟩, hescapes⟩ := h
  refine ⟨List.all_eq_true.mp hchars, hpath, ?_⟩
  cases hc : checkEscapes .path (t.toList.takeWhile (· ≠ '?'))
  · rw [hc] at hescapes
    cases hescapes
  · rfl

/-- A character that may not stand in a plain target does not occur in it. -/
theorem not_mem_plainTarget {c : Char} (hc : plainChar c = false) (h : plainTarget t = true) :
    c ∉ t.toList := fun hmem => by
  have hplain := (plainTarget_parts h).1 c hmem
  rw [hc] at hplain
  cases hplain

/-- The path of a plain target is a slash and a rest that does not start with another. -/
theorem plainTarget_root (h : plainTarget t = true) :
    ∃ rest, t.toList.takeWhile (· ≠ '?') = '/' :: rest ∧ rest.head? ≠ some '/' := by
  have hpath := (plainTarget_parts h).2.1
  cases hp : t.toList.takeWhile (· ≠ '?') with
  | nil =>
    rw [hp] at hpath
    cases hpath
  | cons c rest =>
    rw [hp] at hpath
    have hc : c = '/' := by
      simp only [List.map_cons, plainPath, Bool.and_eq_true, beq_iff_eq] at hpath
      rw [← Char.ofNat_toNat c, hpath.1]
      rfl
    subst hc
    refine ⟨rest, rfl, fun hrest => ?_⟩
    obtain ⟨more, rfl⟩ : ∃ more, rest = '/' :: more := by
      cases rest with
      | nil => simp at hrest
      | cons d more => simp at hrest; exact ⟨more, by rw [hrest]⟩
    have hbytes : ('/' :: '/' :: more).map Char.toNat = slash :: slash :: more.map Char.toNat := rfl
    rw [hbytes, plainPath_slash_slash] at hpath
    cases hpath

theorem plainTarget_ascii (h : plainTarget t = true) : ∀ c ∈ t.toList, c.toNat < 0x80 := by
  intro c hc
  have hplain := (plainTarget_parts h).1 c hc
  simp only [plainChar, Bool.and_eq_true, decide_eq_true_eq] at hplain
  omega

/-- A plain target reads as a path with no scheme and no host, and with its query as written; a
bare question mark at its end forces an empty query. -/
theorem parseReference_plainTarget (forRequest : Bool) (h : plainTarget t = true) :
    parseReference forRequest t.toList =
      .ok (plainUrl t) := by
  obtain ⟨hchars, -, hescapes⟩ := plainTarget_parts h
  obtain ⟨rest, hpath, htwo⟩ := plainTarget_root h
  have hsplit := (List.takeWhile_append_dropWhile (p := (· ≠ '?')) (l := t.toList)).symm
  have hnone : '?' ∉ rest := fun hmem => by
    have hkept := List.mem_takeWhile_imp (hpath ▸ List.mem_cons_of_mem '/' hmem)
    simp at hkept
  have hquery := dropWhile_ne_head '?' t.toList
  have hctl : (t.toList.any fun c => decide (c.toNat < 32) || decide (c.toNat = 127)) = false := by
    rw [List.any_eq_false]
    intro c hc
    have hplain := hchars c hc
    simp only [plainChar, Bool.and_eq_true, decide_eq_true_eq] at hplain
    simp only [Bool.or_eq_true, decide_eq_true_eq, not_or]
    omega
  unfold plainUrl
  rw [hpath] at hsplit hescapes ⊢
  generalize t.toList.dropWhile (· ≠ '?') = query at hsplit hquery ⊢
  rw [hsplit] at hctl ⊢
  exact parseReference_rooted forRequest hctl htwo hnone hquery hescapes

theorem parse_plainTarget (h : plainTarget t = true) :
    Url.parse t =
      .ok (plainUrl t) := by
  have hhash : '#' ∉ t.toList := not_mem_plainTarget (by decide) h
  simp only [Url.parse, cutAt_of_not_mem hhash, parseReference_plainTarget false h]

theorem parseRequestTarget_plainTarget (h : plainTarget t = true) :
    Url.parseRequestTarget t =
      .ok (plainUrl t) := by
  simp only [Url.parseRequestTarget, parseReference_plainTarget true h]

/-- A plain target is ASCII, so its bytes are the codes of its characters. -/
theorem textBytes_plainTarget (h : plainTarget t = true) :
    textBytes t = t.toList.map Char.toNat :=
  flatMap_utf8Bytes_ascii (plainTarget_ascii h)

/-- A redirect sends a plain target as it is: it has no byte outside ASCII to escape. -/
theorem hexEscapeNonAscii_plainTarget (h : plainTarget t = true) :
    hexEscapeNonAscii (textBytes t) = t := by
  rw [textBytes_plainTarget h, hexEscapeNonAscii_ascii (plainTarget_ascii h), String.ofList_toList]

theorem span_plainTarget (h : plainTarget t = true) :
    (textBytes t).span (· ≠ 63) =
      ((t.toList.takeWhile (· ≠ '?')).map Char.toNat, (t.toList.dropWhile (· ≠ '?')).map Char.toNat) := by
  have hquestion : ((fun b => decide (b ≠ 63)) ∘ Char.toNat) = fun c => decide (c ≠ '?') := by
    funext c
    simp only [Function.comp_apply, ne_eq, decide_not]
    congr 2
    exact propext (Char.toNat_inj (d := '?'))
  rw [textBytes_plainTarget h, List.span_eq_takeWhile_dropWhile, List.takeWhile_map,
    List.dropWhile_map, hquestion]

/-- A redirect to a plain target goes there as it is, from any request path. -/
theorem redirectTarget_plainTarget (requestPath : List Nat) (h : plainTarget t = true) :
    redirectTarget requestPath (textBytes t) = textBytes t := by
  obtain ⟨rest, hpath, -⟩ := plainTarget_root h
  have hplain := (plainTarget_parts h).2.1
  have hsplit := List.takeWhile_append_dropWhile (p := (· ≠ '?')) (l := t.toList)
  have hhead : (textBytes t).head? = some slash := by
    rw [textBytes_plainTarget h, ← hsplit, hpath]
    rfl
  have hnoScheme : ("" : String).isEmpty = true := rfl
  unfold redirectTarget
  rw [decodeUtf8_textBytes, parse_plainTarget h]
  simp only [plainUrl, hnoScheme, List.isEmpty_nil, Bool.not_true, Bool.or_self, Bool.false_eq_true,
    if_false, hhead, if_true, span_plainTarget h]
  rw [cleanPath_plain hplain, ← List.map_append, hsplit, textBytes_plainTarget h]

/-- A plain target without spaces is read from its request line as its path and query. -/
theorem read_get_plainTarget (h : plainTarget t = true) (hspace : ' ' ∉ t.toList)
    (headers : List (String × String)) (body : String) :
    Request.read "GET" t headers body =
      .ok { method := "GET", url := plainUrl t, headers := headers, body := body } := by
  have hbreak : '\n' ∉ t.toList := not_mem_plainTarget (by decide) h
  have hline : requestLine "GET" t =
      "GET".toList ++ ' ' :: (t.toList ++ ' ' :: sentVersion.toList) := by
    have hlist : ("GET" ++ " " ++ t ++ " " ++ sentVersion).toList =
        "GET".toList ++ ' ' :: (t.toList ++ ' ' :: sentVersion.toList) := by
      simp
    have hkeep : ∀ c ∈ "GET".toList ++ ' ' :: (t.toList ++ ' ' :: sentVersion.toList),
        decide (c ≠ '\n') = true := by
      intro c hc
      simp only [List.mem_append, List.mem_cons] at hc
      rcases hc with hc | rfl | hc | rfl | hc
      · exact (List.all_eq_true (p := fun c => decide (c ≠ '\n'))).mp (by decide) c hc
      · decide
      · simpa using fun (hc' : c = '\n') => hbreak (hc' ▸ hc)
      · decide
      · exact (List.all_eq_true (p := fun c => decide (c ≠ '\n'))).mp (by decide) c hc
    have hlast : ("GET".toList ++ ' ' :: (t.toList ++ ' ' :: sentVersion.toList)).getLast? =
        some '0' := by
      have hshape : "GET".toList ++ ' ' :: (t.toList ++ ' ' :: sentVersion.toList) =
          ("GET".toList ++ ' ' :: (t.toList ++ ' ' :: "HTTP/1.".toList)) ++ ['0'] := by
        simp [sentVersion]
      rw [hshape, List.getLast?_concat]
    have hempty : "GET".isEmpty = false := by decide
    unfold requestLine
    simp only [hempty, Bool.false_eq_true, if_false, hlist, List.takeWhile_eq_self_iff.mpr hkeep,
      hlast, Option.some.injEq]
    exact if_neg (by decide)
  have hget : isToken "GET" = true := by decide
  have hconnect : ("GET" = "CONNECT") = False := by simp
  unfold Request.read readRequestLine
  have hmethod : ' ' ∉ "GET".toList := by simp
  simp only [hline, cutAt_append_cons hmethod, cutAt_append_cons hspace, String.ofList_toList, hget, validVersion_sent, Bool.not_true, Bool.false_eq_true,
    if_false, hconnect, decide_false, Bool.false_and, parseRequestTarget_plainTarget h]
  rfl

end PlainTarget

/-! ## Redirect locations -/

/-- The target a response sends the browser to, when it names one. -/
def Response.location (response : Response) : Option String :=
  response.headers.lookup "Location"

theorem location_redirect (method : String) (requestPath url : List Nat) (status : Nat)
    (cookies : List SetCookie) :
    (redirect method requestPath url status cookies).location =
      some (hexEscapeNonAscii (redirectTarget requestPath url)) := by
  simp [Response.location, redirect]

/-- A redirect to a plain target names it as its location, whatever path it answers. -/
theorem location_redirect_plainTarget {t : String} (h : plainTarget t = true) (method : String)
    (requestPath : List Nat) (status : Nat) (cookies : List SetCookie) :
    (redirect method requestPath (textBytes t) status cookies).location = some t := by
  rw [location_redirect, redirectTarget_plainTarget requestPath h, hexEscapeNonAscii_plainTarget h]

/-- The characters of an escaped query component may stand in a plain target. -/
theorem plainChar_of_queryEscapeChar {c : Char} (h : queryEscapeChar c = true) :
    plainChar c = true := by
  simp only [queryEscapeChar, Bool.or_eq_true] at h
  rcases h with halnum | hmark
  · have hrange : 0x20 ≤ c.toNat ∧ c.toNat < 0x7F := by
      simp [Char.isAlphanum, Char.isAlpha, Char.isUpper, Char.isLower, Char.isDigit,
        UInt32.le_iff_toNat_le] at halnum
      omega
    have hback : c ≠ '\\' := by
      rintro rfl
      revert halnum
      decide
    have hhash : c ≠ '#' := by
      rintro rfl
      revert halnum
      decide
    simp [plainChar, hrange, hback, hhash]
  · simp at hmark
    rcases hmark with rfl | rfl | rfl | rfl | rfl | rfl <;> decide

end DashboardHarness.Web

namespace DashboardHarness.Fixture

open Web Text

/-- A login sends the browser on to a plain target as it is. -/
theorem safeTarget_plainTarget {t : String} (h : plainTarget t = true) :
    safeTarget (textBytes t) = textBytes t := by
  obtain ⟨rest, hpath, htwo⟩ := plainTarget_root h
  have hsplit : t.toList = '/' :: (rest ++ t.toList.dropWhile (· ≠ '?')) := by
    rw [← List.cons_append, ← hpath, List.takeWhile_append_dropWhile]
  have hsecond : (rest ++ t.toList.dropWhile (· ≠ '?')).head? ≠ some '/' := by
    cases rest with
    | cons c more => simpa using htwo
    | nil =>
      rw [List.nil_append]
      rcases dropWhile_ne_head '?' t.toList with hq | hq <;> rw [hq] <;> simp
  have hstart : t.startsWith "/" = true := by
    rw [String.startsWith_string_iff, hsplit]
    simp
  have htwice : t.startsWith "//" = false := by
    rw [String.startsWith_string_eq_false_iff, hsplit]
    cases hr : rest ++ t.toList.dropWhile (· ≠ '?') with
    | nil => simp
    | cons c more =>
      rw [hr] at hsecond
      simpa [eq_comm] using hsecond
  have hback : t.toList.contains '\\' = false := by
    simpa using not_mem_plainTarget (by decide : plainChar '\\' = false) h
  have hnoScheme : ("" : String).isEmpty = true := rfl
  unfold safeTarget
  simp only [decodeUtf8_textBytes, hstart, htwice, hback, parse_plainTarget h, plainUrl, hnoScheme]
  rfl

end DashboardHarness.Fixture

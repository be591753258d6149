import DashboardHarness.Proofs.LoginRedirect
import DashboardHarness.Web.Reading
import Mathlib.Data.List.DropRight

/-!
# Where a login sends the browser

After a login the fixture sends the browser on to the `next` field of the form when that is a
path on this host, and to the welcome page otherwise. A target it keeps starts with one slash,
holds no backslash, and reads as a URL with no scheme, host or user; the URL reader refuses
control characters before the fragment. A browser reads such a target against the page it is
on, after dropping blanks at the ends and every tab and line break, and a backslash counts as a
slash there; what it reads then starts with a slash followed by neither a slash nor a backslash,
so it keeps the page's scheme, host and port.

The `Location` a login answers is the kept target as the redirect writes it: the part before the
query cleaned of dot segments and repeated slashes, a trailing slash kept, and the bytes outside
ASCII escaped. Cleaning can bring a tab of the fragment next to the first slash, and a browser
drops the tab: a kept `/#/../\t/evil.com` is sent as `/\t/evil.com`, which a browser reads as
the authority `evil.com`.

Main results:

- `safeTarget_cases`: a login keeps its target, which then passes every check, or goes to the
  welcome page.
- `resolve_kept`: a target a login keeps reads as an address on the page's origin.
- `login_redirect_kept_target`: the claim, with the `Location` as the redirect writes it.
- `login_location_smuggles_host`: a kept target whose cleaned `Location` leaves the origin.
-/

namespace DashboardHarness.Web.Reading

/-- Trimming keeps a first character that is no C0 control or space, and after it a prefix of
the rest. -/
theorem trim_cons {c : Char} {cs : List Char} (hc : isC0OrSpace c = false) :
    ∃ t, trim (c :: cs) = c :: t ∧ t <+: cs := by
  have hfront : (c :: cs).dropWhile isC0OrSpace = c :: cs := by
    simp [List.dropWhile, hc]
  have htrim : trim (c :: cs) = (c :: cs).rdropWhile isC0OrSpace := by
    rw [trim, hfront]
    rfl
  have hne : (c :: cs).rdropWhile isC0OrSpace ≠ [] := by
    rw [Ne, List.rdropWhile_eq_nil_iff]
    intro hall
    simpa [hc] using hall c (List.mem_cons_self ..)
  rcases List.prefix_cons_iff.mp (List.rdropWhile_prefix (p := isC0OrSpace) (l := c :: cs)) with
    hnil | ⟨t, ht, hpre⟩
  · exact absurd hnil hne
  · exact ⟨t, htrim.trans ht, hpre⟩

/-- A reference that starts with a slash, followed by nothing or by a character that is neither a
slash, a backslash, a tab nor a line break, is read from a slash followed by nothing or by that
character. -/
theorem prepare_rooted {tail : List Char}
    (hsecond : ∀ c ∈ tail.head?, isSlash c = false ∧ isTabOrNewline c = false) :
    ∃ rest, prepare ('/' :: tail) = '/' :: rest ∧ ∀ c ∈ rest.head?, isSlash c = false := by
  obtain ⟨t, htrim, hpre⟩ : ∃ t, trim ('/' :: tail) = '/' :: t ∧ t <+: tail :=
    trim_cons (by decide)
  have hslash : isTabOrNewline '/' = false := by decide
  refine ⟨t.filter fun c => !isTabOrNewline c, ?_, ?_⟩
  · rw [prepare, htrim, List.filter_cons_of_pos (by simp [hslash])]
  · cases t with
    | nil => simp
    | cons c t' =>
      obtain ⟨rest', rfl⟩ := hpre
      obtain ⟨hc, hctab⟩ := hsecond c (by simp)
      rw [List.filter_cons_of_pos (by simp [hctab])]
      intro d hd
      cases hd
      exact hc

end DashboardHarness.Web.Reading

namespace DashboardHarness.Fixture

open Web Web.Reading Text

/-- A reference the URL reader accepts holds no control character. -/
theorem parseReference_no_control {forRequest : Bool} {cs : List Char} {u : Url}
    (h : parseReference forRequest cs = .ok u) :
    ∀ c ∈ cs, ¬ (c.toNat < 0x20 ∨ c.toNat = 0x7F) := by
  intro c hc hcontrol
  have hany : cs.any (fun c => c.toNat < 0x20 || c.toNat = 0x7F) :=
    List.any_eq_true.mpr ⟨c, hc, by simpa using hcontrol⟩
  rw [parse_control forRequest cs hany] at h
  cases h

/-- A URL that reads has no control character before its fragment. -/
theorem parse_no_control {text : String} {u : Url} (h : Url.parse text = .ok u) :
    ∀ c ∈ (cutAt '#' text.toList).1, ¬ (c.toNat < 0x20 ∨ c.toNat = 0x7F) := by
  unfold Url.parse at h
  cases hmain : parseReference false (cutAt '#' text.toList).1 with
  | error p => simp [hmain] at h
  | ok v => exact parseReference_no_control hmain

/-- The characters before the first `#` stand before the fragment. -/
theorem mem_cutAt_fst {sep c : Char} {cs : List Char} (h : c ∈ cs.takeWhile (· ≠ sep)) :
    c ∈ (cutAt sep cs).1 := by
  unfold cutAt
  rw [List.span_eq_takeWhile_dropWhile]
  cases cs.dropWhile (· ≠ sep) <;> simpa using h

/-- The checks a kept target passes: it starts with a slash, holds no backslash, does not start
with two slashes, and reads as a URL. -/
def Kept (text : String) : Prop :=
  text.startsWith "/" = true ∧ '\\' ∉ text.toList ∧ text.startsWith "//" = false ∧
    ∃ u, Url.parse text = .ok u

/-- A login keeps its target, which then passes the checks, or goes to the welcome page. -/
theorem safeTarget_cases (next : List Nat) :
    safeTarget next = textBytes welcomePath ∨
      (safeTarget next = next ∧ Kept (decodeUtf8 next)) := by
  unfold safeTarget
  by_cases hstart : (decodeUtf8 next).startsWith "/" = true
  · by_cases hback : '\\' ∈ (decodeUtf8 next).toList
    · left
      simp [hback]
    · by_cases htwice : (decodeUtf8 next).startsWith "//" = true
      · left
        simp [htwice]
      · have htwice' : (decodeUtf8 next).startsWith "//" = false := by simpa using htwice
        cases hparse : Url.parse (decodeUtf8 next) with
        | error e => left; simp [hstart, hback, htwice', hparse]
        | ok u =>
          by_cases hplain : u.scheme.isEmpty && u.host.isEmpty && !u.hasUser
          · right
            exact ⟨by simp [hstart, hback, htwice', hparse, hplain],
              hstart, hback, htwice', u, hparse⟩
          · left
            simp [hstart, hback, htwice', hparse, hplain]
  · left
    simp [hstart]

/-- A kept target starts with a slash, followed by nothing or by a character that is neither a
slash, a backslash, a tab nor a line break. -/
theorem Kept.rooted {text : String} (h : Kept text) :
    ∃ tail, text.toList = '/' :: tail ∧
      ∀ c ∈ tail.head?, isSlash c = false ∧ isTabOrNewline c = false := by
  obtain ⟨hstart, hback, htwice, u, hparse⟩ := h
  obtain ⟨tail, htail⟩ := (String.startsWith_string_iff.mp hstart)
  have hsplit : text.toList = '/' :: tail := by simpa using htail.symm
  refine ⟨tail, hsplit, ?_⟩
  intro c hc
  obtain ⟨rest, rfl⟩ : ∃ rest, tail = c :: rest := by
    cases tail with
    | nil => cases hc
    | cons d rest => cases hc; exact ⟨rest, rfl⟩
  have hslash : c ≠ '/' := by
    rintro rfl
    rw [String.startsWith_string_eq_false_iff, hsplit] at htwice
    simp at htwice
  have hbackslash : c ≠ '\\' := by
    rintro rfl
    exact hback (by simp [hsplit])
  refine ⟨by simp [isSlash, hslash, hbackslash], ?_⟩
  by_contra htab
  have hcontrol : c.toNat < 0x20 := by
    simp only [isTabOrNewline, Bool.not_eq_false, Bool.or_eq_true, decide_eq_true_eq] at htab
    rcases htab with (rfl | rfl) | rfl <;> decide
  have hhash : c ≠ '#' := by
    rintro rfl
    revert hcontrol
    decide
  have hmain : c ∈ (cutAt '#' text.toList).1 := by
    apply mem_cutAt_fst
    rw [hsplit]
    simp [hhash]
  exact parse_no_control hparse c hmain (Or.inl hcontrol)

/-- The welcome page reads as an address on the page's origin. -/
theorem resolve_welcome (page : PageScheme) :
    resolve page (decodeUtf8 (textBytes welcomePath)) = .page := by
  rw [decodeUtf8_textBytes]
  have hsecond : ∀ c ∈ "superset/welcome/".toList.head?,
      isSlash c = false ∧ isTabOrNewline c = false := by
    simp [isSlash, isTabOrNewline]
  obtain ⟨rest, hprepared, hrest⟩ := prepare_rooted hsecond
  exact resolve_rooted page welcomePath rest hprepared hrest

/-- A target a login keeps reads as an address on the page's origin. -/
theorem resolve_kept (page : PageScheme) {next : List Nat} (h : safeTarget next = next) :
    resolve page (decodeUtf8 next) = .page := by
  rcases safeTarget_cases next with hwelcome | ⟨-, hkept⟩
  · rw [← h, hwelcome]
    exact resolve_welcome page
  · obtain ⟨tail, hsplit, hsecond⟩ := hkept.rooted
    obtain ⟨rest, hprepared, hrest⟩ := prepare_rooted hsecond
    exact resolve_rooted page _ rest (by rw [hsplit]; exact hprepared) hrest

/-! ## Where a login sends the browser -/

/-- Where a login sends the browser. For every target, the login keeps it or sends the browser
to the welcome page. A target it keeps, and so whatever it sends the browser to, reads as an
address on the page's origin, over `http` or `https`. A login with the configured credentials
answers with a redirect whose `Location` is what it keeps, as the redirect writes it. -/
theorem login_redirect_kept_target (page : PageScheme) (next : List Nat) :
    (safeTarget next = next ∨ safeTarget next = textBytes welcomePath) ∧
    (safeTarget next = next → resolve page (decodeUtf8 next) = .page) ∧
    resolve page (decodeUtf8 (safeTarget next)) = .page ∧
    ∀ (srv : Server) (r : Request), routeOf r.method r.url.path = some .submitLogin →
      trimBlank srv.options.username = srv.options.username →
      firstValue (formFields r) "username" = textBytes srv.options.username →
      firstValue (formFields r) "password" = textBytes srv.options.password →
      firstValue (formFields r) "next" = next →
      (srv.handle r).status = 302 ∧
        (srv.handle r).location =
          some (hexEscapeNonAscii (redirectTarget r.url.path (safeTarget next))) := by
  have hresult : safeTarget next = next ∨ safeTarget next = textBytes welcomePath := by
    rcases safeTarget_cases next with hwelcome | ⟨hkept, -⟩
    · exact .inr hwelcome
    · exact .inl hkept
  refine ⟨hresult, resolve_kept page, ?_, ?_⟩
  · rcases hresult with hkept | hwelcome
    · rw [hkept]
      exact resolve_kept page hkept
    · rw [hwelcome]
      exact resolve_welcome page
  · intro srv r hroute htrim hname hpassword hnext
    rw [handle_submitLogin srv hroute htrim hname hpassword, hnext]
    exact ⟨redirect_status .., location_redirect ..⟩

/-- Signing in to go on to the first dashboard keeps that target, which a browser reads on the
page's origin, and redirects there. -/
theorem login_keeps_dashboard_target :
    safeTarget (textBytes "/superset/dashboard/1/") = textBytes "/superset/dashboard/1/" ∧
    resolve .http "/superset/dashboard/1/" = .page ∧
    ∀ post : Request, post.method = "POST" → post.url.path = textBytes loginPath →
      firstValue (formFields post) "username" = textBytes "admin" →
      firstValue (formFields post) "password" = textBytes "admin" →
      firstValue (formFields post) "next" = textBytes "/superset/dashboard/1/" →
      (defaultServer.handle post).status = 302 ∧
        (defaultServer.handle post).location = some "/superset/dashboard/1/" := by
  have hclaim := login_redirect_kept_target .http (textBytes "/superset/dashboard/1/")
  have hkept : safeTarget (textBytes "/superset/dashboard/1/") =
      textBytes "/superset/dashboard/1/" := by
    decide +kernel
  have hresolve := hclaim.2.1 hkept
  rw [decodeUtf8_textBytes] at hresolve
  refine ⟨hkept, hresolve, ?_⟩
  intro post hmethod hpath hname hpassword hnext
  obtain ⟨hstatus, hlocation⟩ := hclaim.2.2.2 defaultServer post
    (routeOf_post_login hmethod hpath) (by decide) hname hpassword hnext
  refine ⟨hstatus, ?_⟩
  rw [hlocation, hkept, hpath]
  decide +kernel

/-- The login keeps the target `/#/../\t/evil.com`, which a browser reads on the page's origin,
but its `Location` is not that target: the redirect cleans the parent segment away, and the tab
it brings next to the first slash is dropped by a browser, which then reads the authority
`evil.com`. -/
theorem login_location_smuggles_host :
    safeTarget (textBytes "/#/../\t/evil.com") = textBytes "/#/../\t/evil.com" ∧
    resolve .http "/#/../\t/evil.com" = .page ∧
    resolve .http "/\t/evil.com" = .written "http" "evil.com".toList ∧
    ∀ post : Request, post.method = "POST" → post.url.path = textBytes loginPath →
      firstValue (formFields post) "username" = textBytes "admin" →
      firstValue (formFields post) "password" = textBytes "admin" →
      firstValue (formFields post) "next" = textBytes "/#/../\t/evil.com" →
      (defaultServer.handle post).location = some "/\t/evil.com" := by
  have hkept : safeTarget (textBytes "/#/../\t/evil.com") = textBytes "/#/../\t/evil.com" := by
    decide +kernel
  refine ⟨hkept, by decide +kernel, by decide +kernel, ?_⟩
  intro post hmethod hpath hname hpassword hnext
  rw [handle_submitLogin defaultServer (routeOf_post_login hmethod hpath) (by decide) hname
    hpassword, hnext, hkept, location_redirect, hpath]
  decide +kernel

end DashboardHarness.Fixture

/-!
# Reading a URL reference the way a browser does

A browser reads the target of a link or of a redirect against the address of the page, by the
basic URL parser of the URL Standard. This module follows that parser, for a page whose scheme is
`http` or `https`, as far as it decides where the address it reads takes its scheme and its
authority from: from the page, from an authority written in the reference, or from a scheme of
the reference's own. How a written authority is then read into a host and a port is left out.

Before reading, the parser drops the C0 controls and spaces at both ends of the reference and
every tab, line feed and carriage return anywhere in it. Where the scheme is special it reads a
backslash as a slash, so that `/\host`, like `//host`, names an authority.

Main results:

- `resolve_rooted`: a reference that starts with a slash and then neither a slash nor a
  backslash keeps the page's scheme, host and port.
-/

namespace DashboardHarness.Web.Reading

/-- The scheme of the page a reference is read against. -/
inductive PageScheme where
  | http
  | https
  deriving DecidableEq, Repr

/-- The name of a page scheme. -/
def PageScheme.name : PageScheme → String
  | .http => "http"
  | .https => "https"

/-- Where the address read from a reference takes its scheme and its authority from. -/
inductive Source where
  /-- The page's scheme, host and port. -/
  | page
  /-- An authority written in the reference, as text, under a scheme. -/
  | written (scheme : String) (authority : List Char)
  /-- A scheme of the reference's own, with no authority. -/
  | own (scheme : String)
  deriving DecidableEq, Repr

/-- A C0 control or a space, dropped at both ends of a reference. -/
def isC0OrSpace (c : Char) : Bool := c.toNat ≤ 0x20

/-- A tab, a line feed or a carriage return, dropped anywhere in a reference. -/
def isTabOrNewline (c : Char) : Bool := c = '\t' || c = '\n' || c = '\r'

/-- A slash or a backslash, which a special scheme reads alike. -/
def isSlash (c : Char) : Bool := c = '/' || c = '\\'

/-- A character that may follow the first letter of a scheme. -/
def isSchemeChar (c : Char) : Bool := c.isAlphanum || c = '+' || c = '-' || c = '.'

/-- The schemes the standard knows to carry an authority. -/
def specialSchemes : List String := ["ftp", "file", "http", "https", "ws", "wss"]

/-- The reference without the C0 controls and spaces at its ends. -/
def trim (cs : List Char) : List Char :=
  ((cs.dropWhile isC0OrSpace).reverse.dropWhile isC0OrSpace).reverse

/-- The characters the parser reads: the trimmed reference without tabs and line breaks. -/
def prepare (cs : List Char) : List Char :=
  (trim cs).filter fun c => !isTabOrNewline c

/-- The scheme a reference starts with, lowered, and what follows its colon: a letter, then
letters, digits, `+`, `-` and `.`, then the colon. -/
def readScheme : List Char → Option (String × List Char)
  | [] => none
  | c :: rest =>
    if c.isAlpha then
      match rest.dropWhile isSchemeChar with
      | ':' :: after =>
        some (String.ofList ((c :: rest.takeWhile isSchemeChar).map Char.toLower), after)
      | _ => none
    else none

/-- The text of an authority: up to the first slash, `?` or `#`, or backslash under a special
scheme. -/
def authorityText (special : Bool) (cs : List Char) : List Char :=
  cs.takeWhile fun c => !(c = '/' || c = '?' || c = '#' || (special && c = '\\'))

/-- A reference read relative to the page: two slashes or backslashes, and any more after them,
open an authority; anything else keeps the page's. -/
def relative (page : PageScheme) : List Char → Source
  | c :: d :: rest =>
    if isSlash c && isSlash d then .written page.name (authorityText true (rest.dropWhile isSlash))
    else .page
  | _ => .page

/-- Where the address read from a reference against a page of scheme `page` takes its scheme
and its authority from. -/
def resolve (page : PageScheme) (reference : String) : Source :=
  let cs := prepare reference.toList
  match readScheme cs with
  | none => relative page cs
  | some (scheme, rest) =>
    if scheme = "file" then .own scheme
    else if specialSchemes.contains scheme then
      if scheme = page.name then
        match rest with
        | '/' :: '/' :: more => .written scheme (authorityText true (more.dropWhile isSlash))
        | _ => relative page rest
      else .written scheme (authorityText true (rest.dropWhile isSlash))
    else
      match rest with
      | '/' :: '/' :: more => .written scheme (authorityText false more)
      | _ => .own scheme

/-- A reference read from a slash followed by neither a slash nor a backslash keeps the page's
scheme, host and port. -/
theorem resolve_rooted (page : PageScheme) (reference : String) (rest : List Char)
    (hprepared : prepare reference.toList = '/' :: rest)
    (hsecond : ∀ c ∈ rest.head?, isSlash c = false) :
    resolve page reference = .page := by
  unfold resolve
  rw [hprepared]
  simp only [readScheme]
  have hnotAlpha : ('/' : Char).isAlpha = false := by decide
  rw [hnotAlpha]
  simp only [Bool.false_eq_true, if_false]
  cases rest with
  | nil => rfl
  | cons d more =>
    have hd : isSlash d = false := hsecond d rfl
    simp [relative, hd]

end DashboardHarness.Web.Reading

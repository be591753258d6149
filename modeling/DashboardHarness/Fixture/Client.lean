import DashboardHarness.Fixture.Server
import DashboardHarness.Keyed
import DashboardHarness.Web.RequestLine

/-!
# A client with a cookie jar

A client sends requests to one application and keeps the cookies the responses set, one value
by name; a cookie set with a negative age is deleted. A request is written as a draft: a method,
a target, header fields, a body, and the cookies to send, which are those of the jar, none, or
a raw `Cookie` header that takes the place of any other. The jar's cookies follow those of a
`Cookie` field among the headers, so the application reads the field's first. Values in a
header were not issued by the application, so they never carry a session.

A `Cookie` header is read as parts separated by `;`, each a name and, after `=`, a value, with
blanks around the part and the name dropped. A part whose name is no token is skipped, and so
is one whose value, once a pair of enclosing double quotes is dropped, holds anything but
visible ASCII and spaces, or holds a double quote or a backslash.

An exchange sends drafts in turn. A draft that cannot be read as a request aborts it with the
reading problem, and no response is kept.

Main definitions:

- `Client.send`: a request sent with the chosen cookies, the cookies of the response kept in
  the jar.
- `Client.exchange`: drafts sent in turn, or the message of the first one that cannot be read
  as a request.
-/

namespace DashboardHarness.Fixture

open Web

/-- Which cookies a request carries. -/
inductive CookieSource where
  | jar
  | nothing
  | header (raw : String)

/-- A request as a test writes it, with the cookies it carries. -/
structure Draft where
  method : String := "GET"
  /-- The target: a path with its query, or a whole URL. -/
  target : String := "/"
  headers : List (String × String) := []
  body : String := ""
  cookies : CookieSource := .jar

/-- A client of one application with its cookie jar. -/
structure Client where
  server : Server
  jar : List (String × CookieValue) := []

/-- Blanks at either end of a header part dropped: spaces, tabs and line breaks. -/
def trimHeaderSpace (cs : List Char) : List Char :=
  let blank := fun c => c = ' ' || c = '\t' || c = '\n' || c = '\r'
  ((cs.dropWhile blank).reverse.dropWhile blank).reverse

/-- Whether a character may stand in a cookie value: visible ASCII or a space, but not a double
quote, a semicolon or a backslash. -/
def cookieValueChar (c : Char) : Bool :=
  0x20 ≤ c.toNat && c.toNat < 0x7F && c ≠ '"' && c ≠ ';' && c ≠ '\\'

/-- A cookie value as written, with one pair of enclosing double quotes dropped; none when a
character may not stand in a value. -/
def cookieValue? (raw : List Char) : Option (List Char) :=
  let inner :=
    if raw.length > 1 && raw.head? = some '"' && raw.getLast? = some '"' then (raw.drop 1).dropLast
    else raw
  if inner.all cookieValueChar then some inner else none

/-- The cookies of a raw `Cookie` header, in order. -/
def parseCookieHeader (raw : String) : List (String × CookieValue) :=
  (raw.splitOn ";").filterMap fun part =>
    let part := trimHeaderSpace part.toList
    if part.isEmpty then none
    else
      let (name, value) := cutAt '=' part
      let name := String.ofList (trimHeaderSpace name)
      if !isToken name then none
      else (cookieValue? (value.getD [])).map fun v => (name, .foreign (String.ofList v))

/-- The jar after a response set a cookie. -/
def keep (jar : List (String × CookieValue)) (c : SetCookie) : List (String × CookieValue) :=
  if c.maxAge < 0 then Keyed.erase c.name jar else Keyed.set c.name c.value jar

/-- Sends a request with the chosen cookies and keeps the cookies of the response. -/
def Client.send (c : Client) (r : Request) (source : CookieSource) : Response × Client :=
  let given := parseCookieHeader (r.header "Cookie")
  let cookies := match source with
    | .jar => given ++ c.jar
    | .nothing => given
    | .header raw => parseCookieHeader raw
  let response := c.server.handle { r with cookies := cookies }
  (response, { c with jar := response.cookies.foldl keep c.jar })

/-- The message with which a draft that cannot be read as a request aborts an exchange. -/
def unreadableDraft (p : LineProblem) : String :=
  "invalid NewRequest arguments; " ++ p.message

/-- Sends drafts in turn and answers their responses, or the message of the first draft that
cannot be read as a request. -/
def Client.exchange (c : Client) : List Draft → Except String (List Response)
  | [] => .ok []
  | d :: rest =>
    match Request.read d.method d.target d.headers d.body with
    | .error p => .error (unreadableDraft p)
    | .ok r =>
      let (response, c) := c.send r d.cookies
      (c.exchange rest).map (response :: ·)

end DashboardHarness.Fixture

import DashboardHarness.Json.Value
import DashboardHarness.Web.Path
import DashboardHarness.Web.Url
import DashboardHarness.Text.Utf8

/-!
# Requests and responses

The exchange between a client and a web application, as plain data. A request has a method, a
host, a target URL (a path with its query, or a whole URL), header fields, a body and cookies; a
response has a status, header fields, the cookies it sets and a body, which is either text or a
JSON document.

Cookies that carry a session are signed by the server that issued them. A cookie value is
therefore either one the server issued, holding the signed-in user when there is one, or text
from anywhere else, which never passes the signature check.

Redirects follow the rules of the standard library: a target without a scheme and host is made
absolute against the request path and cleaned, keeping a trailing slash and the query; the
`Location` field has the bytes outside ASCII escaped, and a `GET` also gets a short HTML body
with a link to the target.

Main results:

- `redirect_status`: a redirect answers with the status it is given.
-/

namespace DashboardHarness.Web

/-- The value of a cookie as the server sees it. -/
inductive CookieValue where
  /-- A value the server signed, holding the signed-in user, if any. -/
  | issued (username : Option String)
  /-- Any other text, which fails the signature check. -/
  | foreign (text : String)
  deriving DecidableEq, Repr

/-- The host a request is addressed to when its target names none. -/
def defaultHost : List Nat := Text.textBytes "example.com"

/-- A request to the application. -/
structure Request where
  method : String := "GET"
  /-- The host the request is addressed to. -/
  host : List Nat := defaultHost
  /-- The target, read as a URL. -/
  url : Url := { path := [47], rawPath := "/" }
  headers : List (String × String) := []
  body : String := ""
  cookies : List (String × CookieValue) := []

/-- A cookie that a response sets; a negative age deletes it. -/
structure SetCookie where
  name : String
  value : CookieValue
  path : String
  maxAge : Int
  httpOnly : Bool
  /-- The same-site mode: 1 default, 2 lax, 3 strict, 4 none. -/
  sameSite : Nat

/-- The body of a response. -/
inductive Body where
  | text (s : String)
  | json (v : Json.Value)

/-- A response of the application. -/
structure Response where
  status : Nat
  headers : List (String × String) := []
  cookies : List SetCookie := []
  body : Body := .text ""

/-- ASCII letters in lower case, for comparing field names. -/
def asciiLower (s : String) : String :=
  String.ofList (s.toList.map Char.toLower)

/-- The first value of a header field, by name in any case, or the empty text. -/
def Request.header (r : Request) (name : String) : String :=
  match r.headers.find? (fun (k, _) => asciiLower k == asciiLower name) with
  | some (_, v) => v
  | none => ""

/-- The reason phrase of a status. -/
def statusText : Nat → String
  | 200 => "OK"
  | 301 => "Moved Permanently"
  | 302 => "Found"
  | 307 => "Temporary Redirect"
  | 400 => "Bad Request"
  | 401 => "Unauthorized"
  | 404 => "Not Found"
  | 500 => "Internal Server Error"
  | _ => ""

/-- The content type of HTML pages. -/
def htmlType : String := "text/html; charset=utf-8"

/-- The content type of JSON documents. -/
def jsonType : String := "application/json; charset=utf-8"

/-- The text of a link target inside the HTML body of a redirect. -/
def escapeLink (s : String) : String :=
  String.ofList (s.toList.flatMap fun c =>
    match c with
    | '&' => "&amp;".toList
    | '<' => "&lt;".toList
    | '>' => "&gt;".toList
    | '"' => "&#34;".toList
    | '\x27' => "&#39;".toList
    | c => [c])

/-- The target a redirect sends to from a request path: a target without a scheme and host is
made absolute against the directory of the request path and cleaned, keeping a trailing slash
and the query. -/
def redirectTarget (requestPath url : List Nat) : List Nat :=
  match Url.parse (Text.decodeUtf8 url) with
  | .error _ => url
  | .ok u =>
    if !u.scheme.isEmpty || !u.host.isEmpty then url
    else
      let url := if url.head? = some slash then url
        else directoryOf (if requestPath.isEmpty then [slash] else requestPath) ++ url
      let (path, query) := url.span (· ≠ 63)
      let cleaned := cleanPath path
      let cleaned :=
        if path.getLast? = some slash && cleaned.getLast? ≠ some slash then cleaned ++ [slash]
        else cleaned
      cleaned ++ query

/-- A redirect to a URL with a status, setting the given cookies; the request path and the URL
are bytes, which need not be UTF-8. -/
def redirect (method : String) (requestPath url : List Nat) (status : Nat)
    (cookies : List SetCookie := []) : Response :=
  let target := redirectTarget requestPath url
  let typed := method = "GET" || method = "HEAD"
  { status := status
    headers := ("Location", hexEscapeNonAscii target) ::
      (if typed then [("Content-Type", htmlType)] else [])
    cookies := cookies
    body := .text (if method = "GET" then
      "<a href=\"" ++ escapeLink (Text.decodeUtf8 target) ++ "\">" ++ statusText status ++
        "</a>.\n\n" else "") }

/-- A JSON document with a status. -/
def jsonResponse (status : Nat) (v : Json.Value) (headers : List (String × String) := []) :
    Response :=
  { status := status, headers := headers ++ [("Content-Type", jsonType)], body := .json v }

/-- An HTML page with a status. -/
def htmlResponse (status : Nat) (page : String) : Response :=
  { status := status, headers := [("Content-Type", htmlType)], body := .text page }

/-- The answer for a path that no route serves. -/
def notFound : Response :=
  { status := 404, headers := [("Content-Type", "text/plain")], body := .text "404 page not found" }

theorem redirect_status (method : String) (requestPath url : List Nat) (status : Nat)
    (cookies : List SetCookie) :
    (redirect method requestPath url status cookies).status = status := rfl

end DashboardHarness.Web

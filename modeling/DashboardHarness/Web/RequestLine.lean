import DashboardHarness.Web.Http
import DashboardHarness.Web.Token

/-!
# Request lines

A request is sent as the line `METHOD TARGET HTTP/1.0` and read back as a server reads it. The
first line break ends the line, and a carriage return before it is dropped. The line is cut at
its first two spaces into the method, the target and the version: the method must be a token,
an empty one standing for `GET`, and the version must be `HTTP/`, a digit, a point and a digit.
The target is read as a request target, and a `CONNECT` request whose target is not a path names
an authority alone. The host of the request is the one its target names, or the default host.

Main results:

- `validVersion_sent`: the version every request line is sent with is a valid one.
-/

namespace DashboardHarness.Web

/-- Why a request line cannot be read. -/
inductive LineProblem where
  /-- A line without two spaces. -/
  | malformedRequest (line : String)
  /-- A method that is not a token. -/
  | invalidMethod (method : String)
  /-- A version that is not `HTTP/`, a digit, a point and a digit. -/
  | malformedVersion (version : String)
  /-- A target that is no request target. -/
  | badTarget (e : UrlError)
  deriving DecidableEq, Repr

/-- The words of a reading problem. -/
def LineProblem.message : LineProblem → String
  | .malformedRequest line => "malformed HTTP request " ++ Text.quote line
  | .invalidMethod m => "invalid method " ++ Text.quote m
  | .malformedVersion v => "malformed HTTP version " ++ Text.quote v
  | .badTarget e => e.message

/-- The version a request line is sent with. -/
def sentVersion : String := "HTTP/1.0"

/-- Whether a version is `HTTP/`, a digit, a point and a digit. -/
def validVersion (version : String) : Bool :=
  match version.toList with
  | ['H', 'T', 'T', 'P', '/', major, '.', minor] => major.isDigit && minor.isDigit
  | _ => false

/-- The line a request is sent as, up to its first line break: the method, an empty one
standing for `GET`, the target and the version. -/
def requestLine (method target : String) : List Char :=
  let method := if method.isEmpty then "GET" else method
  let line := (method ++ " " ++ target ++ " " ++ sentVersion).toList.takeWhile (· ≠ '\n')
  if line.getLast? = some '\r' then line.dropLast else line

/-- Reads a request line: the method, and the target as a URL. -/
def readRequestLine (method target : String) : Except LineProblem (String × Url) := do
  let line := requestLine method target
  match cutAt ' ' line with
  | (_, none) => throw (.malformedRequest (String.ofList line))
  | (m, some rest) =>
    match cutAt ' ' rest with
    | (_, none) => throw (.malformedRequest (String.ofList line))
    | (uri, some version) =>
      let m := String.ofList m
      if !isToken m then throw (.invalidMethod m)
      if !validVersion (String.ofList version) then
        throw (.malformedVersion (String.ofList version))
      let uri := String.ofList uri
      let justAuthority := m = "CONNECT" && !uri.startsWith "/"
      match Url.parseRequestTarget (if justAuthority then "http://" ++ uri else uri) with
      | .error e => throw (.badTarget e)
      | .ok u => return (m, if justAuthority then { u with scheme := "" } else u)

/-- A request read from its line, with header fields and a body. Its host is the one its target
names, or the default host. -/
def Request.read (method target : String) (headers : List (String × String)) (body : String) :
    Except LineProblem Request := do
  let (method, url) ← readRequestLine method target
  let host := if url.host.isEmpty then defaultHost else url.host
  return { method := method, host := host, url := url, headers := headers, body := body }

theorem validVersion_sent : validVersion sentVersion = true := by
  decide

end DashboardHarness.Web

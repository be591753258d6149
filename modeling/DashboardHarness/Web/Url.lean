import DashboardHarness.Text.Quoted
import DashboardHarness.Text.Utf8
import DashboardHarness.Text.Case
import DashboardHarness.Web.IpAddress

/-!
# URLs

A URL reference read into its parts: scheme, user information, host, path, query and fragment.
The reading follows RFC 3986 as web servers apply it: control characters are refused; a scheme
is a letter followed by letters, digits, `+`, `-` or `.` before a colon, and is lowered; after
a scheme, a reference that does not start with a slash is opaque; an authority follows `//`,
with user information before its last `@` and a port of digits after its last colon; a host may
hold `%`-escapes only of non-ASCII bytes (and `%25`), and no character outside the unreserved
characters, the sub-delimiters and `:[]<>"`; brackets may only enclose an IPv6 address at the
start of the host, whose zone after `%25` may escape any character a host may hold; the path and the fragment must have well-formed
`%`-escapes; the query is kept as written. A relative reference whose first segment holds a
colon is refused.

The target of a request line is read by the same rules, with three differences: it keeps a `#`
as part of its text, it must be a path from the root, `*`, or carry a scheme, and only a scheme
makes `//` start an authority.

A URL is written out again from its parts: the scheme, the user information and the host
escaped, the path as written when that still reads as the path and escaped otherwise, and the
query as written. A request line names the path and the query alone.

Main results:

- `parse_control`: a text with a control character is refused.
-/

namespace DashboardHarness.Web

/-- Why a URL could not be read. -/
inductive UrlProblem where
  /-- A control character. -/
  | controlCharacter
  /-- A colon at the very start. -/
  | missingScheme
  /-- A colon in the first segment of a relative reference. -/
  | colonInFirstSegment
  /-- An IP literal without its closing bracket. -/
  | missingBracket
  /-- Brackets around something other than an IPv6 address, or not at the start of the host. -/
  | invalidIpLiteral
  /-- An IP literal that is no address, with the reason. -/
  | invalidHost (reason : String)
  /-- A port that is not all digits. -/
  | invalidPort (port : String)
  /-- A malformed or disallowed escape, as its first three bytes. -/
  | invalidEscape (escape : List Nat)
  /-- A character that no host may hold. -/
  | invalidHostCharacter (c : String)
  /-- User information with a disallowed character. -/
  | invalidUserinfo
  /-- An empty request target. -/
  | emptyUrl
  /-- A request target that is neither a path from the root nor a URL with a scheme. -/
  | invalidRequestUri
  deriving DecidableEq, Repr

/-- The words of a reading problem. -/
def UrlProblem.text : UrlProblem → String
  | .controlCharacter => "net/url: invalid control character in URL"
  | .missingScheme => "missing protocol scheme"
  | .colonInFirstSegment => "first path segment in URL cannot contain colon"
  | .missingBracket => "missing ']' in host"
  | .invalidIpLiteral => "invalid IP-literal"
  | .invalidHost reason => "invalid host: " ++ reason
  | .invalidPort port => "invalid port " ++ Text.quote port ++ " after host"
  | .invalidEscape e => "invalid URL escape " ++ Text.quoteBytes e
  | .invalidHostCharacter c => "invalid character " ++ Text.quote c ++ " in host name"
  | .invalidUserinfo => "net/url: invalid userinfo"
  | .emptyUrl => "empty url"
  | .invalidRequestUri => "invalid URI for request"

/-- A reading failure: the text read and the problem. -/
structure UrlError where
  /-- The text that was read. -/
  input : String
  /-- What was wrong with it. -/
  problem : UrlProblem
  deriving DecidableEq, Repr

/-- The message of a reading failure, naming the text read. -/
def UrlError.message (e : UrlError) : String :=
  "parse " ++ Text.quote e.input ++ ": " ++ e.problem.text

/-- The user information of a URL: a name and, when a colon follows it, a password, both with
their escapes decoded. -/
structure UserInfo where
  /-- The user name. -/
  name : List Nat
  /-- The password, when one was given. -/
  password : Option (List Nat)
  deriving DecidableEq, Repr

/-- The parts of a URL reference. -/
structure Url where
  /-- The scheme, lowered, or empty. -/
  scheme : String := ""
  /-- The part after the scheme of a reference without a path from the root. -/
  opaquePart : String := ""
  /-- The user information, when given. -/
  user : Option UserInfo := none
  /-- The host with its port, escapes decoded. -/
  host : List Nat := []
  /-- Whether a scheme is followed by a path from the root with no authority before it. -/
  omitHost : Bool := false
  /-- The path, escapes decoded. -/
  path : List Nat := []
  /-- The path as written. -/
  rawPath : String := ""
  /-- The query as written. -/
  rawQuery : String := ""
  /-- Whether the reference ends in a bare `?`. -/
  forceQuery : Bool := false
  /-- The fragment, escapes decoded. -/
  fragment : String := ""
  deriving Inhabited, Repr

/-- Whether user information was given. -/
def Url.hasUser (u : Url) : Bool := u.user.isSome

/-- The parts of a text that the escapes apply to. -/
inductive Component where
  | host
  | zone
  | path
  | userPassword
  | fragment
  | queryComponent
  deriving DecidableEq

/-- Whether an ASCII character must be escaped in a component. -/
def mustEscape (c : Char) (comp : Component) : Bool :=
  if c.isAlphanum then false
  else if (comp = .host || comp = .zone) && "!$&'()*+,;=:[]<>\"".toList.contains c then false
  else if "-_.~".toList.contains c then false
  else if "$&+,/:;=?@".toList.contains c then
    match comp with
    | .path => c = '?'
    | .userPassword => c = '@' || c = '/' || c = '?' || c = ':'
    | .queryComponent => true
    | .fragment => false
    | _ => true
  else if comp = .fragment && "!()*".toList.contains c then false
  else true

/-- Whether a character is a hexadecimal digit. -/
def isHex (c : Char) : Bool := (Text.hexValue? c).isSome

/-- The value of a hexadecimal digit. -/
def hexOf (c : Char) : Nat := (Text.hexValue? c).getD 0

/-- The first three bytes of an escape, which is all an error shows of it, even when that cuts
a character. -/
def escapeBytes (escape : List Char) : List Nat :=
  (escape.flatMap Text.utf8Bytes).take 3

/-- Checks the escapes and characters of a component, before decoding. -/
def checkEscapes (comp : Component) : List Char → Except UrlProblem Unit
  | [] => .ok ()
  | '%' :: rest =>
    match rest with
    | a :: b :: more =>
      if !(isHex a && isHex b) then .error (.invalidEscape (escapeBytes ('%' :: rest)))
      else if comp = .host && hexOf a < 8 && !(a = '2' && b = '5') then
        .error (.invalidEscape (escapeBytes ('%' :: rest)))
      else if comp = .zone && !(a = '2' && b = '5') &&
          (let v := hexOf a * 16 + hexOf b
           v ≠ 32 && (v ≥ 0x80 || mustEscape (Char.ofNat v) .host)) then
        .error (.invalidEscape (escapeBytes ('%' :: rest)))
      else checkEscapes comp more
    | _ => .error (.invalidEscape (escapeBytes ('%' :: rest)))
  | c :: rest =>
    if (comp = .host || comp = .zone) && c.toNat < 0x80 && mustEscape c comp then
      .error (.invalidHostCharacter (String.ofList [c]))
    else checkEscapes comp rest

/-- The bytes of a component with its escapes decoded; `+` becomes a space in a query
component. -/
def decodeBytes (comp : Component) : List Char → List Nat
  | [] => []
  | '%' :: a :: b :: rest =>
    if isHex a && isHex b then (hexOf a * 16 + hexOf b) :: decodeBytes comp rest
    else 37 :: decodeBytes comp (a :: b :: rest)
  | c :: rest =>
    (if c = '+' && comp = .queryComponent then [32] else Text.utf8Bytes c) ++ decodeBytes comp rest

/-- A component with its escapes checked and decoded to bytes, which an escape can make other
than UTF-8. -/
def unescapeBytes (comp : Component) (cs : List Char) : Except UrlProblem (List Nat) := do
  checkEscapes comp cs
  return decodeBytes comp cs

/-- A component with its escapes checked and decoded. -/
def unescape (comp : Component) (cs : List Char) : Except UrlProblem String :=
  Text.decodeUtf8 <$> unescapeBytes comp cs

/-- Splits at the first occurrence of a character. -/
def cutAt (sep : Char) (cs : List Char) : List Char × Option (List Char) :=
  match cs.span (· ≠ sep) with
  | (before, []) => (before, none)
  | (before, _ :: after) => (before, some after)

/-- Splits at the last occurrence of a character. -/
def cutAtLast (sep : Char) (cs : List Char) : Option (List Char × List Char) :=
  match cutAt sep cs.reverse with
  | (_, none) => none
  | (afterRev, some beforeRev) => some (beforeRev.reverse, afterRev.reverse)

/-- The scheme and the rest, when the text starts with one. -/
def splitScheme (cs : List Char) : Except UrlProblem (List Char × List Char) :=
  let rec go (acc : List Char) : List Char → Except UrlProblem (List Char × List Char)
    | [] => .ok ([], cs)
    | c :: rest =>
      if c.isAlpha then go (c :: acc) rest
      else if c.isDigit || c = '+' || c = '-' || c = '.' then
        if acc.isEmpty then .ok ([], cs) else go (c :: acc) rest
      else if c = ':' then
        if acc.isEmpty then .error .missingScheme else .ok (acc.reverse, rest)
      else .ok ([], cs)
  go [] cs

/-- A port is empty or a colon followed by digits. -/
def validPort (port : List Char) : Bool :=
  match port with
  | [] => true
  | ':' :: digits => digits.all Char.isDigit
  | _ => false

/-- The bytes of an IP literal: escapes decoded, those of a zone after `%25` more freely. -/
def literalAddress (cs : List Char) : Except UrlProblem (List Nat) :=
  match (List.range cs.length).find? fun i => (cs.drop i).take 3 = ['%', '2', '5'] with
  | some i => do
    let address ← unescapeBytes .host (cs.take i)
    let zone ← unescapeBytes .zone (cs.drop i)
    return address ++ zone
  | none => unescapeBytes .host cs

/-- Reads a host with its port, as bytes. A host in brackets must be an IPv6 address, and a
bracket elsewhere is refused. -/
def parseHost (cs : List Char) : Except UrlProblem (List Nat) :=
  match cs with
  | '[' :: inside =>
    if inside.contains '[' then .error .invalidIpLiteral
    else
      match cutAtLast ']' inside with
      | none => .error .missingBracket
      | some (literal, colonPort) =>
        if !validPort colonPort then .error (.invalidPort (String.ofList colonPort))
        else do
          let address ← literalAddress literal
          match readAddress address with
          | .error reason => throw (.invalidHost reason)
          | .ok .v4 => throw .invalidIpLiteral
          | .ok .v6 => return [91] ++ address ++ [93] ++ colonPort.flatMap Text.utf8Bytes
  | _ =>
    if cs.contains '[' then .error .invalidIpLiteral
    else
      match cutAtLast ':' cs with
      | some (_, port) =>
        if !validPort (':' :: port) then .error (.invalidPort (String.ofList (':' :: port)))
        else unescapeBytes .host cs
      | none => unescapeBytes .host cs

/-- Whether user information holds only allowed characters. -/
def validUserinfo (cs : List Char) : Bool :=
  cs.all fun c => c.isAlphanum || "-._:~!$&'()*+,;=%@".toList.contains c

/-- Reads an authority: user information, host and port. -/
def parseAuthority (cs : List Char) : Except UrlProblem (Option UserInfo × List Nat) :=
  match cutAtLast '@' cs with
  | none => do return (none, ← parseHost cs)
  | some (userinfo, hostPart) => do
    let host ← parseHost hostPart
    if !validUserinfo userinfo then throw .invalidUserinfo
    match cutAt ':' userinfo with
    | (name, none) => return (some ⟨← unescapeBytes .userPassword name, none⟩, host)
    | (name, some password) =>
      let name ← unescapeBytes .userPassword name
      let password ← unescapeBytes .userPassword password
      return (some ⟨name, some password⟩, host)

/-- Reads a reference without its fragment; a request target (`forRequest`) must not be empty,
must be a path from the root, `*`, or carry a scheme, and has an authority only after a
scheme. -/
def parseReference (forRequest : Bool) (cs : List Char) : Except UrlProblem Url := do
  if cs.any fun c => c.toNat < 0x20 || c.toNat = 0x7F then throw .controlCharacter
  if forRequest && cs.isEmpty then throw .emptyUrl
  if cs = ['*'] then return { path := [42], rawPath := "*" }
  let (schemeChars, rest) ← splitScheme cs
  let scheme := Text.lower (String.ofList schemeChars)
  let (rest, rawQuery, forceQuery) :=
    if rest.getLast? = some '?' && rest.count '?' = 1 then (rest.dropLast, [], true)
    else match cutAt '?' rest with
      | (before, some query) => (before, query, false)
      | (before, none) => (before, [], false)
  let base : Url := { scheme := scheme, rawQuery := String.ofList rawQuery, forceQuery := forceQuery }
  if rest.head? ≠ some '/' then
    if scheme ≠ "" then return { base with opaquePart := String.ofList rest }
    if forRequest then throw .invalidRequestUri
    let (segment, _) := cutAt '/' rest
    if segment.contains ':' then throw .colonInFirstSegment
  let twoSlashes := rest.take 2 = ['/', '/']
  let threeSlashes := rest.take 3 = ['/', '/', '/']
  if (scheme ≠ "" || (!forRequest && !threeSlashes)) && twoSlashes then
    let (authority, pathPart) := match cutAt '/' (rest.drop 2) with
      | (a, some p) => (a, '/' :: p)
      | (a, none) => (a, [])
    let (user, host) ← parseAuthority authority
    let path ← unescapeBytes .path pathPart
    return { base with user := user, host := host, path := path, rawPath := String.ofList pathPart }
  else
    let path ← unescapeBytes .path rest
    let omitHost := !scheme.isEmpty && rest.head? == some '/'
    return { base with omitHost := omitHost, path := path, rawPath := String.ofList rest }

/-- Reads a URL reference; the failure names the text read, the fragment left out unless the
fragment itself is malformed. -/
def Url.parse (text : String) : Except UrlError Url :=
  let (main, fragment) := cutAt '#' text.toList
  match parseReference false main with
  | .error p => .error ⟨String.ofList main, p⟩
  | .ok u =>
    match fragment with
    | none => .ok u
    | some f =>
      if f.isEmpty then .ok u
      else match unescape .fragment f with
        | .ok decoded => .ok { u with fragment := decoded }
        | .error p => .error ⟨text, p⟩

/-- Reads the target of a request line; the failure names the whole target. -/
def Url.parseRequestTarget (text : String) : Except UrlError Url :=
  match parseReference true text.toList with
  | .error p => .error ⟨text, p⟩
  | .ok u => .ok u

/-! ## Writing URLs -/

/-- Bytes escaped for a component: ASCII characters the component allows stand as themselves,
every other byte as `%` and two capital hexadecimal digits. -/
def escapeComponent (comp : Component) (bytes : List Nat) : String :=
  String.ofList (bytes.flatMap fun b =>
    if b < 0x80 && !mustEscape (Char.ofNat b) comp then [Char.ofNat b]
    else '%' :: Text.hexDigits true 2 b)

/-- Whether a path as written is well formed: every character may stand in a path, `%` and
brackets included. -/
def validEncoded (raw : String) : Bool :=
  raw.toList.all fun c =>
    "!$&\x27()*+,;=:@[]%".toList.contains c || (c.toNat < 0x80 && !mustEscape c .path)

/-- The path of a URL as written out: as it was written when that is well formed and still
reads as the path, `*` for the path `*`, and else the path escaped. -/
def Url.escapedPath (u : Url) : String :=
  if validEncoded u.rawPath && (unescapeBytes .path u.rawPath.toList).toOption == some u.path then
    u.rawPath
  else if u.path = [42] then "*"
  else escapeComponent .path u.path

/-- The query of a URL as written out: `?` and the query, when there is one or the URL ends in a
bare `?`. -/
def Url.querySuffix (u : Url) : String :=
  if u.forceQuery || !u.rawQuery.isEmpty then "?" ++ u.rawQuery else ""

/-- What a request line names for a URL: the opaque part, with the scheme when it starts with
`//`, or else the escaped path, `/` when it is empty; then the query. -/
def Url.requestUri (u : Url) : String :=
  let target :=
    if u.opaquePart.isEmpty then
      let p := u.escapedPath
      if p.isEmpty then "/" else p
    else if u.opaquePart.startsWith "//" then u.scheme ++ ":" ++ u.opaquePart
    else u.opaquePart
  target ++ u.querySuffix

/-- User information written out: the name and, when given, a colon and the password, escaped. -/
def UserInfo.text (i : UserInfo) : String :=
  escapeComponent .userPassword i.name ++
    match i.password with
    | some p => ":" ++ escapeComponent .userPassword p
    | none => ""

/-- A URL written out, without a fragment, which a request target never has: the scheme and a
colon; then the opaque part, or `//` with the user information and the escaped host when
there is an authority to write, the escaped path, with a slash before it when it needs one after
a host and with `./` before it when its first segment would read as a scheme; then the query. -/
def Url.text (u : Url) : String :=
  let schemePart := if u.scheme.isEmpty then "" else u.scheme ++ ":"
  if !u.opaquePart.isEmpty then schemePart ++ u.opaquePart ++ u.querySuffix
  else
    let authority :=
      if (u.scheme.isEmpty || u.omitHost) && u.host.isEmpty && u.user.isNone then ""
      else
        (if !u.host.isEmpty || !u.path.isEmpty || u.user.isSome then "//" else "") ++
          (match u.user with
            | some i => i.text ++ "@"
            | none => "") ++
          escapeComponent .host u.host
    let p := u.escapedPath
    let before := schemePart ++ authority ++
      (if !p.isEmpty && !p.startsWith "/" && !u.host.isEmpty then "/" else "")
    let dotSlash :=
      if before.isEmpty && (p.toList.takeWhile (· ≠ '/')).contains ':' then "./" else ""
    before ++ dotSlash ++ p ++ u.querySuffix

theorem parse_control (forRequest : Bool) (cs : List Char)
    (h : cs.any (fun c => c.toNat < 0x20 || c.toNat = 0x7F)) :
    parseReference forRequest cs = .error .controlCharacter := by
  simp [parseReference, h]
  rfl

end DashboardHarness.Web

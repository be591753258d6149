import DashboardHarness.Text.Utf8
import DashboardHarness.Web.MediaType
import DashboardHarness.Web.Token

/-!
# Multipart form bodies

A body of type `multipart/form-data` is a list of parts between delimiter lines: `--`, the
boundary named by the content type, optional blanks, and a line break, which is `\r\n`, or `\n`
when the first delimiter line ends so. Lines before the first delimiter are skipped; a line of
`--`, the boundary and `--` ends the body, and what follows it is ignored. A part is a header
block, ended by an empty line, and content, which ends at the first line break followed by a
delimiter and then a blank, a line break, `--` or the end of the body.

A header line is a name, a colon and a value; a line that starts with a blank continues the one
before it. Names are matched without regard to case. A part whose `Content-Disposition` is
`form-data` with a `name` and no `filename` gives a field; a part with a
`Content-Transfer-Encoding` of `quoted-printable` has its content decoded first.

Reading is all or nothing: a body that ends before its closing delimiter, a malformed header,
a line where a delimiter should stand, a line longer than 4096 bytes before a part or between
parts, more than 1000 parts, or malformed quoted-printable content of a named part, a line of it
longer than 4096 bytes included, gives no fields at all. A part without a name is still read
through its decoder: a failure there is ignored, unless the decoder stopped with more than 4096
bytes of content left from the failing line on, which then stand where a delimiter should.

Main definitions:

- `multipartFields`: the fields of a multipart form body, by its boundary.
-/

namespace DashboardHarness.Web

/-- The longest line, with its line feed, that is read as a line: delimiter lines, the lines
around them, and quoted-printable lines. Content and headers are not read by lines and may run
longer. -/
def lineLimit : Nat := 4096

/-- The most parts a body may have. -/
def partLimit : Nat := 1000

/-- The first line of bytes, with its line feed when it has one, the rest, and whether it had
one. -/
def takeLine (bs : List Nat) : List Nat × List Nat × Bool :=
  match bs.span (· ≠ 10) with
  | (line, _ :: rest) => (line ++ [10], rest, true)
  | (line, []) => (line, [], false)

/-- A line without its line feed and a carriage return before it. -/
def lineBody (line : List Nat) : List Nat :=
  match line.reverse with
  | 10 :: 13 :: rest => rest.reverse
  | 10 :: rest => rest.reverse
  | _ => line

/-- Whether a byte is a blank inside a line: a space or a tab. -/
def isLineBlank (b : Nat) : Bool := b == 32 || b == 9

/-- Bytes without the blanks at either end. -/
def trimLineBlanks (bs : List Nat) : List Nat :=
  ((bs.dropWhile isLineBlank).reverse.dropWhile isLineBlank).reverse

/-- The line break and the delimiter of a multipart body. -/
structure Delimiters where
  /-- The line break: `\r\n`, or `\n` when the first delimiter line ends so. -/
  newline : List Nat := [13, 10]
  /-- `--` and the boundary. -/
  dashBoundary : List Nat

/-- Whether a line closes the body: `--`, the boundary, `--`, and then blanks and at most a
line break. -/
def Delimiters.isFinal (d : Delimiters) (line : List Nat) : Bool :=
  let closing := d.dashBoundary ++ [45, 45]
  closing.isPrefixOf line &&
    (let rest := (line.drop closing.length).dropWhile isLineBlank
     rest.isEmpty || rest == d.newline)

/-- Whether a line is a delimiter line, and the delimiters from then on: the first delimiter
line fixes the line break. -/
def Delimiters.delimits (d : Delimiters) (partsRead : Nat) (line : List Nat) :
    Bool × Delimiters :=
  if d.dashBoundary.isPrefixOf line then
    let rest := (line.drop d.dashBoundary.length).dropWhile isLineBlank
    let d := if partsRead = 0 && rest == [10] then { d with newline := [10] } else d
    (rest == d.newline, d)
  else (false, d)

/-- Whether the bytes after a delimiter end it: none, a blank, a line break, or `--`. -/
def endsDelimiter : List Nat → Bool
  | [] => true
  | b :: rest => b == 32 || b == 9 || b == 13 || b == 10 || (b == 45 && rest.head? == some 45)

/-- The bytes before the first place where a pattern starts, and the bytes from there. -/
def breakAt (pattern : List Nat) : List Nat → Option (List Nat × List Nat)
  | [] => none
  | b :: rest =>
    if pattern.isPrefixOf (b :: rest) then some ([], b :: rest)
    else (breakAt pattern rest).map fun (before, from_) => (b :: before, from_)

/-- The content of a part from some point on: up to the first line break and delimiter that
end there; a delimiter followed by anything else is content. -/
def scanContent (d : Delimiters) (acc : List Nat) : Nat → List Nat → Option (List Nat × List Nat)
  | 0, _ => none
  | fuel + 1, bs =>
    let marker := d.newline ++ d.dashBoundary
    match breakAt marker bs with
    | none => none
    | some (before, from_) =>
      let after := from_.drop marker.length
      if endsDelimiter after then some (acc ++ before, from_)
      else scanContent d (acc ++ before ++ marker) fuel after

/-- The content of a part and the bytes from its closing delimiter on; at the very start a
delimiter without a line break before it closes the part too. None when the body ends first. -/
def partContent (d : Delimiters) (bs : List Nat) : Option (List Nat × List Nat) :=
  if d.dashBoundary.isPrefixOf bs then
    let after := bs.drop d.dashBoundary.length
    if endsDelimiter after then some ([], bs)
    else scanContent d d.dashBoundary (after.length + 1) after
  else if bs.isPrefixOf d.dashBoundary then none
  else scanContent d [] (bs.length + 1) bs

/-- Whether a byte may stand in a header value: a tab, visible ASCII, a space, or a byte beyond
ASCII. -/
def isValueByte (b : Nat) : Bool := b == 9 || (32 ≤ b && b ≠ 127)

/-- A header name with a capital at its start and after each hyphen and small letters
elsewhere. -/
def canonicalName (name : List Nat) : List Nat :=
  let step := fun (acc : List Nat × Bool) (b : Nat) =>
    let (out, upper) := acc
    let b := if upper && 97 ≤ b && b ≤ 122 then b - 32
      else if !upper && 65 ≤ b && b ≤ 90 then b + 32 else b
    (out ++ [b], b == 45)
  (name.foldl step ([], true)).1

/-- The name of a header line as it is filed: made canonical when every byte may stand in a
name, kept as written when some are spaces; none when the line is malformed. -/
def headerName (name : List Nat) : Option (List Nat) :=
  if name.isEmpty then none
  else if name.all isTokenByte then some (canonicalName name)
  else if name.all fun b => isTokenByte b || b == 32 then some name
  else none

/-- A header line with the lines that continue it: the line trimmed, then for each following
line that starts with blanks, a space and that line trimmed. Returns the joined line and the
rest. -/
def continuedLine (first : List Nat) : Nat → List Nat → List Nat × List Nat
  | 0, bs => (trimLineBlanks first, bs)
  | fuel + 1, bs =>
    match bs with
    | b :: _ =>
      if isLineBlank b then
        let afterBlanks := bs.dropWhile isLineBlank
        if afterBlanks.isEmpty then (trimLineBlanks first ++ [32], [])
        else
          let (line, rest, _) := takeLine afterBlanks
          continuedLine (trimLineBlanks first ++ 32 :: trimLineBlanks (lineBody line)) fuel rest
      else (trimLineBlanks first, bs)
    | [] => (trimLineBlanks first, bs)

/-- Reads a header block: the headers in order and the bytes after the empty line that ends it;
none when a line is malformed or the body ends first. -/
def readHeaderLines (acc : List (List Nat × List Nat)) :
    Nat → List Nat → Option (List (List Nat × List Nat) × List Nat)
  | 0, _ => none
  | _ + 1, [] => none
  | fuel + 1, bs =>
    let (line, rest, _) := takeLine bs
    let line := lineBody line
    if line.isEmpty then some (acc.reverse, rest)
    else if !line.contains 58 then none
    else
      let (joined, rest) := continuedLine line (rest.length + 1) rest
      let (name, value) := joined.span (· ≠ 58)
      let value := value.drop 1
      match headerName name with
      | none => none
      | some name =>
        if value.all isValueByte then
          readHeaderLines ((name, value.dropWhile isLineBlank) :: acc) fuel rest
        else none

/-- Reads the header block of a part; a block may not start with a blank. -/
def readHeaders (bs : List Nat) : Option (List (List Nat × List Nat) × List Nat) :=
  match bs with
  | b :: _ => if isLineBlank b then none else readHeaderLines [] (bs.length + 1) bs
  | [] => readHeaderLines [] 1 bs

/-- The first value of a header, by its canonical name. -/
def headerValue (headers : List (List Nat × List Nat)) (name : String) : List Nat :=
  match headers.find? (·.1 == Text.textBytes name) with
  | some (_, v) => v
  | none => []

/-- One line of quoted-printable content, its line break restored unless it ends in a soft
break `=`: the decoded bytes, or none when the line is malformed. -/
def decodePrintableLine (acc : List Nat) : List Nat → Option (List Nat)
  | [] => some acc.reverse
  | 61 :: rest =>
    match _hrest : rest with
    | a :: b :: more =>
      match Text.hexValue? (Char.ofNat a), Text.hexValue? (Char.ofNat b) with
      | some x, some y => decodePrintableLine ((x * 16 + y) :: acc) more
      | _, _ => if a == 13 || a == 10 then none else decodePrintableLine (61 :: acc) rest
    | [a] => if a == 13 || a == 10 then none else decodePrintableLine (61 :: acc) rest
    | [] => none
  | b :: rest =>
    if b == 9 || b == 13 || b == 10 || b ≥ 128 || (32 ≤ b && b ≤ 126) then
      decodePrintableLine (b :: acc) rest
    else none
termination_by bs => bs.length
decreasing_by all_goals simp_all <;> omega

/-- Quoted-printable content decoded: `=` and two hexadecimal digits stand for a byte, `=` at
the end of a line, spaces and tabs after it allowed, joins it to the next, blanks at the end of
a line are dropped, and an `=` not followed by two digits stands for itself unless a line break
follows it. A failure, for malformed content or a line longer than the limit, is where the
failing line starts, counting from `offset`. -/
def decodeQuotedPrintable : Nat → Nat → List Nat → Except Nat (List Nat)
  | 0, _, _ => .ok []
  | _ + 1, _, [] => .ok []
  | fuel + 1, offset, bs =>
    let (whole, rest, hasFeed) := takeLine bs
    if whole.length > lineLimit then .error offset
    else
      let discard := fun b => b == 10 || b == 13 || b == 32 || b == 9
      let line := (whole.reverse.dropWhile discard).reverse
      let stripped := (whole.drop line.length).dropWhile fun b => b == 32 || b == 9
      let (line, valid) :=
        if line.getLast? == some 61 then
          let line := line.dropLast
          (line, [10].isPrefixOf stripped || [13, 10].isPrefixOf stripped ||
            (stripped.isEmpty && !line.isEmpty && !hasFeed))
        else if hasFeed then
          (line ++ (if whole.reverse.take 2 == [10, 13] then [13, 10] else [10]), true)
        else (line, true)
      match decodePrintableLine [] line with
      | some decoded =>
        if valid then
          (decodeQuotedPrintable fuel (offset + whole.length) rest).map (decoded ++ ·)
        else .error offset
      | none => .error offset

/-- Whether the headers of a part name quoted-printable content, in any case. -/
def isQuotedPrintable (headers : List (List Nat × List Nat)) : Bool :=
  let encoding := (Text.decodeUtf8 (headerValue headers "Content-Transfer-Encoding")).toList
  encoding.map Char.toLower = "quoted-printable".toList

/-- The content of a part as its fields read it: quoted-printable content decoded. -/
def partValue (headers : List (List Nat × List Nat)) (content : List Nat) : Option (List Nat) :=
  if isQuotedPrintable headers then
    (decodeQuotedPrintable (content.length + 1) 0 content).toOption
  else some content

/-- Whether a part that gives no field can be passed over. Its content is still read through
its decoder, and a decoding failure is ignored; but the decoder reads lines through a buffer of
the line limit, so when it fails at a line with more content than the limit from that line on,
the content past the buffer is left where a delimiter line should stand. -/
def skippable (headers : List (List Nat × List Nat)) (content : List Nat) : Bool :=
  if isQuotedPrintable headers then
    match decodeQuotedPrintable (content.length + 1) 0 content with
    | .ok _ => true
    | .error start => content.length ≤ start + lineLimit
  else true

/-- The field a part gives: its form-data name and value, none for a part without a name or
with a file name, or a failure when its content cannot be read or cannot be passed over. -/
def partField (headers : List (List Nat × List Nat)) (content : List Nat) :
    Option (Option (List Nat × List Nat)) :=
  let passOver := if skippable headers content then some none else none
  match MediaType.parse (Text.decodeUtf8 (headerValue headers "Content-Disposition")) with
  | .typed "form-data" params =>
    let name := (params.find? (·.1 == "name")).map (·.2) |>.getD []
    let file := (params.find? (·.1 == "filename")).map (·.2) |>.getD []
    if name.isEmpty then passOver
    else (partValue headers content).map fun value => if file.isEmpty then some (name, value) else none
  | _ => passOver

/-- Reads the parts of a body from the current line on, keeping the fields in order. -/
def readParts (d : Delimiters) (partsRead : Nat) (expectPart : Bool)
    (fields : List (List Nat × List Nat)) : Nat → List Nat → Option (List (List Nat × List Nat))
  | 0, _ => none
  | fuel + 1, bs =>
    let (line, rest, hasFeed) := takeLine bs
    if line.length > lineLimit then none
    else if !hasFeed then (if d.isFinal line then some fields else none)
    else
      let (delimiter, d) := d.delimits partsRead line
      if delimiter && partsRead ≥ partLimit then none
      else if delimiter then
        match readHeaders rest with
        | none => none
        | some (headers, afterHeaders) =>
          match partContent d afterHeaders with
          | none => none
          | some (content, afterContent) =>
            match partField headers content with
            | none => none
            | some field => readParts d (partsRead + 1) false (fields ++ field.toList) fuel afterContent
      else if d.isFinal line then some fields
      else if expectPart then none
      else if partsRead = 0 then readParts d partsRead expectPart fields fuel rest
      else if line == d.newline then readParts d partsRead true fields fuel rest
      else none

/-- The fields of a multipart body with a boundary, in order; none when the body cannot be read
or the boundary is empty. -/
def multipartFields (boundary body : List Nat) : Option (List (List Nat × List Nat)) :=
  if boundary.isEmpty then none
  else readParts { dashBoundary := [45, 45] ++ boundary } 0 false [] (body.length + 1) body

end DashboardHarness.Web

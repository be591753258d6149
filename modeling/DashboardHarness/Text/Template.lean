import DashboardHarness.Text.Quoted
import DashboardHarness.Text.Hex

/-!
# Templates with one text operand

A template is text with directives introduced by `%`. A directive has flags (`-`, `+`, `#`,
`0`, space), an optional operand index `[n]`, an optional width, an optional precision after a
point, where width and precision may also be `*` to take them from an operand, and a verb.
Filled with one text operand, `%s` and `%v` insert the text, `%q` inserts it quoted, `%x` and
`%X` insert its bytes in hexadecimal, `%T` inserts the name of its type, and `%%` is a percent
sign that takes no operand. The precision cuts the text to that many characters and the width
pads it, on the left unless `-` is given, with zeros when `0` is given.

Anything that cannot be filled is reported in the result itself:

- a verb that does not suit text as `%!d(string=…)`, the text formatted by the directive;
- a directive after the operand is used up as `%!s(MISSING)`;
- an index other than `[1]`, or an index followed by a width or a precision, as
  `%!s(BADINDEX)`;
- a width or precision `*`, which text cannot give, as `%!(BADWIDTH)` or `%!(BADPREC)`;
- a `%` with no verb after it as `%!(NOVERB)`, which ends the template;
- an operand that no directive used as `%!(EXTRA string=…)` at the end, unless a directive named
  its operand by index.

Main definitions:

- `fill`: a template filled with one text operand, its directives read in turn, with the
  operand appended as extra when no directive used it.
-/

namespace DashboardHarness.Text

/-- The flags, width and precision of one directive. -/
structure Directive where
  /-- Pad on the right instead of the left. -/
  minus : Bool := false
  /-- Quote with ASCII only. -/
  plus : Bool := false
  /-- Back quotes for `%q`, `0x` for `%x`. -/
  sharp : Bool := false
  /-- Pad with zeros on the left. -/
  zero : Bool := false
  /-- Space the bytes of `%x`. -/
  space : Bool := false
  /-- Quote the operand under `%v`, which a sharp flag asks for. -/
  quoted : Bool := false
  /-- The minimum width in characters. -/
  width : Option Nat := none
  /-- The precision. -/
  precision : Option Nat := none

/-- Reads the flags at the front of a directive. -/
def readFlags (d : Directive) : List Char → Directive × List Char
  | '#' :: rest => readFlags { d with sharp := true } rest
  | '0' :: rest => readFlags { d with zero := true } rest
  | '+' :: rest => readFlags { d with plus := true } rest
  | '-' :: rest => readFlags { d with minus := true } rest
  | ' ' :: rest => readFlags { d with space := true } rest
  | cs => (d, cs)

/-- A width or precision too long to be one: above a million. -/
def countLimit : Nat := 1000000

/-- Reads a decimal count from the front: the count, if any digit came, and the rest; a count
that grows past the limit swallows the whole rest and is none. -/
def readCount (acc : Option Nat) : List Char → Option Nat × List Char
  | c :: rest =>
    if c.isDigit then
      if acc.getD 0 > countLimit then (none, [])
      else readCount (some (acc.getD 0 * 10 + (c.toNat - 48))) rest
    else (acc, c :: rest)
  | [] => (acc, [])

/-- The padding that brings a text of `length` characters to the directive's width. -/
def padding (d : Directive) (length : Nat) : List Char :=
  match d.width with
  | none => []
  | some w => List.replicate (w - length) (if d.zero && !d.minus then '0' else ' ')

/-- Pads a text to the directive's width, on the left unless the minus flag is given. -/
def pad (d : Directive) (body : List Char) : List Char :=
  if d.minus then body ++ padding d body.length else padding d body.length ++ body

/-- Cuts a text to the directive's precision. -/
def truncate (d : Directive) (cs : List Char) : List Char :=
  match d.precision with
  | some p => cs.take p
  | none => cs

/-- The text itself, cut and padded. -/
def plainText (d : Directive) (cs : List Char) : List Char :=
  pad d (truncate d cs)

/-- The text quoted, cut before quoting and padded after: between back quotes with the sharp
flag when it can stand there, else between double quotes, escaping all beyond ASCII with the
plus flag. -/
def quotedText (d : Directive) (cs : List Char) : List Char :=
  let cut := String.ofList (truncate d cs)
  if d.sharp && canBackquote cut then pad d ('\x60' :: cut.toList ++ ['\x60'])
  else pad d (if d.plus then quoteAscii cut else quote cut).toList

/-- The bytes of a text in hexadecimal, as many as the precision allows, spaced with the space
flag, prefixed with `0x` under the sharp flag (each byte when spaced), and padded. -/
def hexText (d : Directive) (capital : Bool) (cs : List Char) : List Char :=
  let bytes := truncate d (cs.flatMap fun c => (utf8Bytes c).map Char.ofNat) |>.map Char.toNat
  let marker := if d.sharp then ['0', if capital then 'X' else 'x'] else []
  let one := fun b => hexDigits capital 2 b
  if bytes.isEmpty then padding d 0
  else
    let body :=
      if d.space then ((bytes.map fun b => marker ++ one b).intersperse [' ']).flatten
      else marker ++ bytes.flatMap one
    pad d body

/-- The operand under a verb that suits text, or none for a verb that does not. -/
def verbText? (d : Directive) (verb : Char) (operand : List Char) : Option (List Char) :=
  match verb with
  | 'v' => some (if d.quoted then quotedText d operand else plainText d operand)
  | 's' => some (plainText d operand)
  | 'q' => some (quotedText d operand)
  | 'x' => some (hexText d false operand)
  | 'X' => some (hexText d true operand)
  | 'T' => some (plainText d "string".toList)
  | _ => none

/-- The operand under a verb; a verb that does not suit text reports it, formatted as `%v`
with the same flags. -/
def verbText (d : Directive) (verb : Char) (operand : List Char) : List Char :=
  match verbText? d verb operand with
  | some text => text
  | none =>
    let shown := (verbText? d 'v' operand).getD operand
    '%' :: '!' :: verb :: "(string=".toList ++ shown ++ [')']

/-- A `%v` (or `%w`) moves the sharp flag to quoting and drops the plus flag. -/
def forVerb (d : Directive) (verb : Char) : Directive :=
  if verb = 'v' || verb = 'w' then { d with quoted := d.sharp, sharp := false, plus := false }
  else d

/-- Where filling stands: the operands used so far (none or the one), whether a directive named
an operand by index, and whether the operand index of the current directive is good. -/
structure Cursor where
  /-- The number of the next operand: zero before the operand is used. -/
  next : Nat := 0
  /-- Whether a directive named an operand by index. -/
  reordered : Bool := false
  /-- Whether the current directive's operand index is good. -/
  good : Bool := true

/-- Reads an operand index `[n]` at the front, if the text starts with a bracket. Returns the
cursor, the rest, and whether an index was read; an index other than the one operand, or a
malformed one, marks the directive bad. -/
def readIndex (k : Cursor) : List Char → Cursor × List Char × Bool
  | '[' :: more =>
    let k := { k with reordered := true }
    if more.length < 2 then ({ k with good := false }, more, false)
    else
      match more.findIdx? (· = ']') with
      | none => ({ k with good := false }, more, false)
      | some j =>
        let inside := more.take j
        let rest := more.drop (j + 1)
        let (value, after) := readCount none inside
        match value with
        | some n =>
          if after.isEmpty then
            if n = 1 then ({ k with next := 0 }, rest, true)
            else ({ k with good := false }, rest, true)
          else ({ k with good := false }, rest, false)
        | none => ({ k with good := false }, rest, false)
  | cs => (k, cs, false)

/-- A width or precision `*`: the operand, if not yet used, is used for it, and it is bad since
text is not a number. -/
def starCount (k : Cursor) : Cursor :=
  if k.next < 1 then { k with next := k.next + 1 } else k

/-- The outcome of one directive: the text it writes, the cursor after it, the rest of the
template, and whether the template goes on. -/
structure Step where
  /-- The text written. -/
  text : List Char
  /-- The cursor after the directive. -/
  cursor : Cursor
  /-- The template after the directive. -/
  rest : List Char
  /-- Whether filling goes on after the directive. -/
  goesOn : Bool := true

/-- Fills the verb of a directive whose flags, index, width and precision are read. -/
def verbStep (operand : List Char) (d : Directive) (k : Cursor) (written : List Char) :
    List Char → Step
  | [] => ⟨written ++ "%!(NOVERB)".toList, k, [], false⟩
  | verb :: rest =>
    if verb = '%' then ⟨written ++ ['%'], k, rest, true⟩
    else if !k.good then ⟨written ++ '%' :: '!' :: verb :: "(BADINDEX)".toList, k, rest, true⟩
    else if k.next ≥ 1 then ⟨written ++ '%' :: '!' :: verb :: "(MISSING)".toList, k, rest, true⟩
    else ⟨written ++ verbText (forVerb d verb) verb operand, { k with next := k.next + 1 }, rest,
      true⟩

/-- Reads the precision of a directive, then its verb. -/
def precisionStep (operand : List Char) (d : Directive) (k : Cursor) (indexed : Bool)
    (written : List Char) (cs : List Char) : Step :=
  match cs with
  | '.' :: after@(_ :: _) =>
    let k := if indexed then { k with good := false } else k
    let (k, after, indexed) := readIndex k after
    match after with
    | '*' :: rest =>
      let k := starCount k
      let written := written ++ "%!(BADPREC)".toList
      let (k, rest, _) := readIndex k rest
      verbStep operand d k written rest
    | _ =>
      let (p, rest) := readCount none after
      let d := { d with precision := some (p.getD 0) }
      let (k, rest, _) := if indexed then (k, rest, true) else readIndex k rest
      verbStep operand d k written rest
  | _ =>
    let (k, rest, _) := if indexed then (k, cs, true) else readIndex k cs
    verbStep operand d k written rest

/-- Fills one directive, given the template after its `%`. -/
def directiveStep (operand : List Char) (k : Cursor) (cs : List Char) : Step :=
  let (d, afterFlags) := readFlags {} cs
  let k := { k with good := true }
  match afterFlags with
  | c :: rest =>
    if 'a' ≤ c && c ≤ 'z' && k.next < 1 then
      ⟨verbText (forVerb d c) c operand, { k with next := k.next + 1 }, rest, true⟩
    else widthStep d k (c :: rest)
  | [] => widthStep d k []
where
  /-- Reads the operand index and the width of a directive, then the rest. -/
  widthStep (d : Directive) (k : Cursor) (cs : List Char) : Step :=
    let (k, cs, indexed) := readIndex k cs
    match cs with
    | '*' :: rest =>
      precisionStep operand d (starCount k) false "%!(BADWIDTH)".toList rest
    | _ =>
      let (w, rest) := readCount none cs
      let k := if indexed && w.isSome then { k with good := false } else k
      precisionStep operand { d with width := w } k indexed [] rest

/-- Fills a template from a cursor, for at most `fuel` pieces. Returns the text and the cursor
at the end. -/
def fillFrom (operand : List Char) : Nat → Cursor → List Char → List Char × Cursor
  | 0, k, _ => ([], k)
  | _ + 1, k, [] => ([], k)
  | fuel + 1, k, c :: rest =>
    if c ≠ '%' then
      let (out, k) := fillFrom operand fuel k rest
      (c :: out, k)
    else
      let step := directiveStep operand k rest
      if step.goesOn then
        let (out, k) := fillFrom operand fuel step.cursor step.rest
        (step.text ++ out, k)
      else (step.text, step.cursor)

/-- A template filled with one text operand. -/
def fill (template operand : String) : String :=
  let cs := template.toList
  let (out, k) := fillFrom operand.toList (cs.length + 1) {} cs
  String.ofList (if k.reordered || k.next ≥ 1 then out
    else out ++ "%!(EXTRA string=".toList ++ operand.toList ++ [')'])

end DashboardHarness.Text

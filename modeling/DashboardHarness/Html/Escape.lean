import DashboardHarness.Text.Hex

/-!
# Escaping values into HTML

A page template places a value into one of a few contexts, and each context escapes it its own
way. Text and quoted attribute values replace the five characters that could end them or start
markup (`"`, `&`, `'`, `<`, `>`) and also `+`, by numeric or named references, and turn a NUL
into the replacement character. A value inside a URL is percent-encoded byte by byte, in
lowercase hex: in the path part the reserved characters and valid escapes stay, in the query
part only the unreserved characters stay.

Main results:

- `escapeHtml_plain`: a text without special characters is not changed.
-/

namespace DashboardHarness.Html

/-- The replacement of one character in HTML text or a quoted attribute. -/
def escapeChar (c : Char) : List Char :=
  match c with
  | '\x00' => ['�']
  | '"' => "&#34;".toList
  | '&' => "&amp;".toList
  | '\x27' => "&#39;".toList
  | '+' => "&#43;".toList
  | '<' => "&lt;".toList
  | '>' => "&gt;".toList
  | c => [c]

/-- A value escaped for HTML text or a quoted attribute. -/
def escapeHtml (s : String) : String :=
  String.ofList (s.toList.flatMap escapeChar)

/-- Whether a byte stays as it is in a URL: letters, digits and `-._~`, and in the path part
also the reserved characters. -/
def urlByteKept (pathPart : Bool) (b : Nat) : Bool :=
  (0x61 ≤ b && b ≤ 0x7A) || (0x41 ≤ b && b ≤ 0x5A) || (0x30 ≤ b && b ≤ 0x39) ||
    [0x2D, 0x2E, 0x5F, 0x7E].contains b ||
    (pathPart && [0x21, 0x23, 0x24, 0x26, 0x2A, 0x2B, 0x2C, 0x2F, 0x3A, 0x3B, 0x3D, 0x3F, 0x40,
      0x5B, 0x5D].contains b)

/-- Whether a byte is an ASCII hexadecimal digit. -/
def isHexByte (b : Nat) : Bool :=
  (0x30 ≤ b && b ≤ 0x39) || (0x61 ≤ b && b ≤ 0x66) || (0x41 ≤ b && b ≤ 0x46)

/-- Percent-encodes bytes; in the path part a `%` that starts a valid escape stays. -/
def encodeUrlBytes (pathPart : Bool) : List Nat → List Char
  | [] => []
  | b :: rest =>
    let kept := urlByteKept pathPart b ||
      (pathPart && b == 0x25 &&
        (match rest with
         | x :: y :: _ => isHexByte x && isHexByte y
         | _ => false))
    (if kept then [Char.ofNat b] else '%' :: Text.hexDigits false 2 b) ++
      encodeUrlBytes pathPart rest

/-- A value placed in the path part of a URL. -/
def normalizeUrl (s : String) : String :=
  String.ofList (encodeUrlBytes true (Text.textBytes s))

/-- A value placed in the query part of a URL. -/
def escapeUrl (s : String) : String :=
  String.ofList (encodeUrlBytes false (Text.textBytes s))

/-- Characters that text and attributes leave alone. -/
def isPlainChar (c : Char) : Prop :=
  c ≠ '\x00' ∧ c ≠ '"' ∧ c ≠ '&' ∧ c ≠ '\x27' ∧ c ≠ '+' ∧ c ≠ '<' ∧ c ≠ '>'

theorem flatMap_escapeChar_plain (cs : List Char) (h : ∀ c ∈ cs, isPlainChar c) :
    cs.flatMap escapeChar = cs := by
  induction cs with
  | nil => rfl
  | cons c cs ih =>
    simp only [List.mem_cons, forall_eq_or_imp] at h
    obtain ⟨⟨h0, h1, h2, h3, h4, h5, h6⟩, hs⟩ := h
    rw [List.flatMap_cons, ih hs]
    unfold escapeChar
    split <;> simp_all

theorem escapeHtml_plain (s : String) (h : ∀ c ∈ s.toList, isPlainChar c) :
    escapeHtml s = s := by
  unfold escapeHtml
  rw [flatMap_escapeChar_plain s.toList h, String.ofList_toList]

end DashboardHarness.Html

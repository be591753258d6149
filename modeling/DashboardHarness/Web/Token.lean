/-!
# Tokens

The words of HTTP that are not quoted, such as methods, header names and cookie names, are
tokens: one or more bytes, each an ASCII letter, a digit, or one of ``!#$%&'*+-.^_`|~``.

Main definitions:

- `isToken`: whether a text is a token of the HTTP grammar.
-/

namespace DashboardHarness.Web

/-- Whether a byte may stand in a token. -/
def isTokenByte (b : Nat) : Bool :=
  (48 ≤ b && b ≤ 57) || (65 ≤ b && b ≤ 90) || (97 ≤ b && b ≤ 122) ||
    "!#$%&\x27*+-.^_\x60|~".toList.any (·.toNat == b)

/-- Whether a text is a token: not empty, and every byte one that may stand in a token. -/
def isToken (s : String) : Bool :=
  !s.isEmpty && s.toList.all fun c => isTokenByte c.toNat

end DashboardHarness.Web

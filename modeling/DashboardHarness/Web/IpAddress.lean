import DashboardHarness.Text.Quoted

/-!
# IP addresses in text

An IPv4 address is four decimal fields from 0 to 255 separated by dots, without leading zeros.
An IPv6 address is up to eight groups of one to four hexadecimal digits separated by colons,
where one `::` stands for one or more groups of zeros, the last two groups may be written as an
IPv4 address, and a zone may follow a `%`. Which form a text is meant in is decided by the first
dot, colon or percent sign in it.

An address is read from bytes, each byte taken as the character of its code: only ASCII bytes
can be part of an address, so any other byte is simply one that does not fit. Bytes that are no
address are reported quoted, with what is wrong, and where reading stopped when that says more.

Main definitions:

- `readAddress`: the form of an address, IPv4 or IPv6, or why it is not one.
-/

namespace DashboardHarness.Web

/-- The two forms of an IP address. -/
inductive AddressForm where
  | v4
  | v6
  deriving DecidableEq, Repr

/-- The message for bytes that are no address: the bytes, the problem, and the rest of the bytes
where reading stopped, when given. -/
def unreadableAddress (input : List Nat) (problem : String) (rest : Option (List Char) := none) :
    String :=
  "ParseAddr(" ++ Text.quoteBytes input ++ "): " ++ problem ++
    match rest with
    | some r => " (at " ++ Text.quoteBytes (r.map Char.toNat) ++ ")"
    | none => ""

/-- Reads the four decimal fields of an IPv4 address. `value` and `digits` describe the field
being read, `fields` counts the fields finished, and `atStart` and `afterDot` tell where the
reading stands. -/
def ipv4Fields (input : List Nat) (value fields digits : Nat) (atStart afterDot : Bool) :
    List Char → Except String Unit
  | [] => if fields < 3 then .error (unreadableAddress input "IPv4 address too short") else .ok ()
  | c :: rest =>
    if c.isDigit then
      if digits = 1 && value = 0 then
        .error (unreadableAddress input "IPv4 field has octet with leading zero")
      else
        let value := value * 10 + (c.toNat - 48)
        if value > 255 then .error (unreadableAddress input "IPv4 field has value >255")
        else ipv4Fields input value fields (digits + 1) false false rest
    else if c = '.' then
      if atStart || rest.isEmpty || afterDot then
        .error (unreadableAddress input "IPv4 field must have at least one digit" (some (c :: rest)))
      else if fields = 3 then .error (unreadableAddress input "IPv4 address too long")
      else ipv4Fields input 0 (fields + 1) 0 false true rest
    else .error (unreadableAddress input "unexpected character" (some (c :: rest)))

/-- The hexadecimal digits at the front of a group, with their count. -/
def groupDigits (cs : List Char) : Nat :=
  (cs.takeWhile fun c => c.isDigit || ('a' ≤ c && c ≤ 'f') || ('A' ≤ c && c ≤ 'F')).length

/-- Reads the groups of an IPv6 address from the `index`-th byte on, with the place of the
`::` when one was read: the bytes filled and the place of the `::`, or the failure. -/
def ipv6Groups (input : List Nat) :
    Nat → Nat → Option Nat → List Char → Except String (Nat × Option Nat)
  | 0, index, gap, _ => .ok (index, gap)
  | fuel + 1, index, gap, s =>
    let digits := groupDigits s
    if digits > 4 then
      .error (unreadableAddress input "each group must have 4 or less digits" (some s))
    else if digits = 0 then
      .error (unreadableAddress input "each colon-separated field must have at least one digit"
        (some s))
    else
      match s.drop digits with
      | '.' :: _ =>
        if gap.isNone && index ≠ 12 then
          .error (unreadableAddress input
            "embedded IPv4 address must replace the final 2 fields of the address" (some s))
        else if index + 4 > 16 then
          .error (unreadableAddress input
            "too many hex fields to fit an embedded IPv4 at the end of the address" (some s))
        else (ipv4Fields input 0 0 0 true false s).map fun _ => (index + 4, gap)
      | [] => .ok (index + 2, gap)
      | ':' :: [] =>
        .error (unreadableAddress input "colon must be followed by more characters" (some [':']))
      | ':' :: ':' :: more =>
        if gap.isSome then
          .error (unreadableAddress input "multiple :: in address" (some (':' :: more)))
        else if more.isEmpty then .ok (index + 2, some (index + 2))
        else if index + 2 < 16 then ipv6Groups input fuel (index + 2) (some (index + 2)) more
        else .error (unreadableAddress input "trailing garbage after address" (some more))
      | ':' :: more =>
        if index + 2 < 16 then ipv6Groups input fuel (index + 2) gap more
        else .error (unreadableAddress input "trailing garbage after address" (some more))
      | rest => .error (unreadableAddress input "unexpected character, want colon" (some rest))

/-- Reads an IPv6 address, with its zone after a `%`. -/
def readIpv6 (input : List Nat) : Except String Unit :=
  let (s, zone) := (input.map Char.ofNat).span (· ≠ '%')
  if zone = ['%'] then .error (unreadableAddress input "zone must be a non-empty string")
  else
    let (s, gap) := if s.take 2 = [':', ':'] then (s.drop 2, some 0) else (s, none)
    if gap.isSome && s.isEmpty then .ok ()
    else do
      let (filled, gap) ← ipv6Groups input 9 0 gap s
      if filled < 16 && gap.isNone then throw (unreadableAddress input "address string too short")
      if filled ≥ 16 && gap.isSome then
        throw (unreadableAddress input "the :: must expand to at least one field of zeros")

/-- Reads an IP address from bytes: its form, or why the bytes are none. -/
def readAddress (input : List Nat) : Except String AddressForm :=
  let cs := input.map Char.ofNat
  match cs.find? fun c => c = '.' || c = ':' || c = '%' with
  | some '.' => (ipv4Fields input 0 0 0 true false cs).map fun _ => .v4
  | some ':' => (readIpv6 input).map fun _ => .v6
  | some _ => .error (unreadableAddress input "missing IPv6 address")
  | none => .error (unreadableAddress input "unable to parse IP")

end DashboardHarness.Web

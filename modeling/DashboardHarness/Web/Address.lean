import DashboardHarness.Web.Url
import DashboardHarness.Text.Numeral

/-!
# Listening addresses

A listening address is `host:port`, with the host in brackets when it holds colons; either part
may be empty. Splitting it follows the last colon: an address without one has no port, a host
with a colon outside brackets has too many, and brackets elsewhere are refused.

The port is a decimal number, with an optional sign, or the name of a well-known service. A
number outside `0 … 65535` is an invalid port and a name that no service has is unknown. The
digits are read into a 32-bit word and reading stops once the value is large enough to be out of
range, so a number long enough is out of range whatever follows it.

Listening binds the host and the port on a machine, which has some IP addresses: every interface
for an empty host. The program runs on a machine with only its loopback addresses and the
unspecified ones, and a port below 1024 needs privileges that the program does not have.

Main definitions:

- `splitHostPort`: the host and the port of an address.
- `resolvePort`: the number of a port, given as a number or as a well-known service.
- `Machine`, `loopbackMachine`: the machine a listener runs on, by its addresses, and the one the
  program runs on.
- `listenProblem`: why listening on an address of a machine fails, in the listener's words.
-/

namespace DashboardHarness.Web

/-- The failure of an address, written `address <address>: <why>`. -/
def addressFailure (address why : String) : String :=
  "address " ++ address ++ ": " ++ why

/-- The host and the port of an address. -/
def splitHostPort (address : String) : Except String (String × String) :=
  let cs := address.toList
  let failure := fun (why : String) => Except.error (addressFailure address why)
  match cutAtLast ':' cs with
  | none => failure "missing port in address"
  | some (hostPart, port) =>
    let checked := fun (host : List Char) (afterOpen afterClose : List Char) =>
      if afterOpen.contains '[' then failure "unexpected \x27[\x27 in address"
      else if afterClose.contains ']' then failure "unexpected \x27]\x27 in address"
      else Except.ok (String.ofList host, String.ofList port)
    match cs with
    | '[' :: inside =>
      match inside.findIdx? (· = ']') with
      | none => failure "missing \x27]\x27 in address"
      | some close =>
        let afterClose := inside.drop (close + 1)
        if afterClose.isEmpty then failure "missing port in address"
        else if close + 2 = hostPart.length then checked (inside.take close) inside afterClose
        else if afterClose.head? = some ':' then failure "too many colons in address"
        else failure "missing port in address"
    | _ =>
      if hostPart.contains ':' then failure "too many colons in address"
      else checked hostPart cs cs

/-- The well-known services whose names stand for ports. -/
def servicePorts : List (String × Nat) :=
  [("ftp", 21), ("ftps", 990), ("gopher", 70), ("http", 80), ("https", 443), ("imap2", 143),
   ("imap3", 220), ("imaps", 993), ("pop3", 110), ("pop3s", 995), ("smtp", 25),
   ("submissions", 465), ("ssh", 22), ("telnet", 23)]

/-- The value at which the digits of a port stop being read. -/
def portCutoff : Nat := Nat.pow 2 30

/-- The size of the word a port number is read into. -/
def portWord : Nat := Nat.pow 2 32

/-- Reads the digits of a port number into a word, digit by digit: the value is multiplied by
ten, wrapping around the word, and the digit added; when the value has reached the cutoff
before a digit, or the sum passes the word, reading ends at the largest word and the rest is
left unread. None when a character that is not a digit comes first. -/
def readPortDigits (n : Nat) : List Char → Option Nat
  | [] => some n
  | c :: rest =>
    if !c.isDigit then none
    else if n ≥ portCutoff then some (portWord - 1)
    else
      let sum := n * 10 % portWord + (c.toNat - 48)
      if sum ≥ portWord then some (portWord - 1) else readPortDigits sum rest

/-- A port as a number: an optional sign and digits, a value at the cutoff or past it counting
as one less than the cutoff, or as the cutoff itself when negative; the empty port is zero.
None when the port is no number and names a service. -/
def readPort (port : String) : Option Int :=
  let (negative, digits) := match port.toList with
    | '+' :: rest => (false, rest)
    | '-' :: rest => (true, rest)
    | cs => (false, cs)
  if port.isEmpty then some 0
  else (readPortDigits 0 digits).map fun n =>
    let magnitude :=
      if !negative && n ≥ portCutoff then portCutoff - 1
      else if negative && n > portCutoff then portCutoff
      else n
    if negative then -(magnitude : Int) else magnitude

/-- The port number of a port: a number from 0 to 65535, or the port of a well-known service,
named in any case; else why not. -/
def resolvePort (port : String) : Except String Nat :=
  match readPort port with
  | some n => if n < 0 || n > 65535 then .error (addressFailure port "invalid port") else .ok n.toNat
  | none =>
    match servicePorts.find? (·.1 == String.ofList (port.toList.map Char.toLower)) with
    | some (_, n) => .ok n
    | none => .error ("lookup tcp/" ++ port ++ ": unknown port")

/-- The ports below this one need privileges to listen on. -/
def firstUnprivilegedPort : Nat := 1024

/-- The machine a listener runs on, by the IP addresses it has, as a listening address writes
them. Every machine has its IPv4 loopback address. -/
structure Machine where
  /-- Whether the machine has an IP address. -/
  hasAddress : String → Bool
  /-- The IPv4 loopback address, which `localhost` names, is the machine's own. -/
  loopback : hasAddress "127.0.0.1" = true

/-- The machine the program runs on: it has its loopback addresses and the unspecified ones, and
no other. -/
def loopbackMachine : Machine where
  hasAddress host := host.startsWith "127." || host = "0.0.0.0" || host = "::" || host = "::1"
  loopback := by decide +kernel

/-- Where a listener binds for a host, as a listening address writes it, and whether the machine
has that address: every interface for the empty host, the IPv4 loopback for `localhost`, and an
IP address as written. None for a host that only a name lookup could place. -/
def bindAddress (m : Machine) (host : String) : Option (String × Bool) :=
  if host.isEmpty then some ("", true)
  else if host = "localhost" then some ("127.0.0.1", m.hasAddress "127.0.0.1")
  else if host = "::" || host = "::1" then some ("[" ++ host ++ "]", m.hasAddress host)
  else
    match readAddress (Text.textBytes host) with
    | .ok .v4 => some (host, m.hasAddress host)
    | _ => none

/-- Why listening on an address of a machine fails, in the listener's words: the address cannot
be split, its port cannot be resolved, or binding is refused, for an address the machine does
not have or for a port that needs privileges. None when listening succeeds, and for a host that
only a name lookup could place; an empty address listens on any port. -/
def listenProblem (m : Machine) (address : String) : Option String :=
  if address.isEmpty then none
  else
    match splitHostPort address with
    | .error e => some ("listen tcp: " ++ e)
    | .ok (host, port) =>
      match resolvePort port with
      | .error e => some ("listen tcp: " ++ e)
      | .ok n =>
        match bindAddress m host with
        | none => none
        | some (shown, present) =>
          let refused := "listen tcp " ++ shown ++ ":" ++ toString n ++ ": bind: "
          if !present then some (refused ++ "cannot assign requested address")
          else if 0 < n && n < firstUnprivilegedPort then some (refused ++ "permission denied")
          else none

/-- Every machine binds `localhost` at its own IPv4 loopback address. -/
theorem bindAddress_localhost (m : Machine) :
    bindAddress m "localhost" = some ("127.0.0.1", true) := by
  simp [bindAddress, m.loopback]

end DashboardHarness.Web

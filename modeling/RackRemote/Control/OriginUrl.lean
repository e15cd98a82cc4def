import RackRemote.Control.Refusal
/-!
# Origin URLs

A controller registers with a URL `osc.<proto>://<host>:<port>/<path>` that says where messages to
it go. A host in brackets may hold colons; where the brackets do not close, the opening one counts
as a character of the host.
-/

namespace RackRemote

/-- A controller's address as it gave it, the path without its trailing slashes. -/
structure OriginUrl where
  protocol : String
  host : String
  port : UInt16
  path : String
deriving DecidableEq, Repr

/-- What a machine knows about host names that are no address literals. -/
abbrev HostTable := String → Except String IpAddress

/-- Knows no names. A name with a zero byte cannot even be asked for. -/
def HostTable.empty : HostTable := fun name =>
  if name.contains '\x00' then .error "file name contained an unexpected NUL byte"
  else .error "failed to lookup address information: Temporary failure in name resolution"

namespace OriginUrl

def isAsciiDigit (c : Char) : Bool := '0' ≤ c && c ≤ '9'

def isAsciiAlphanumeric (c : Char) : Bool :=
  isAsciiDigit c || 'a' ≤ c && c ≤ 'z' || 'A' ≤ c && c ≤ 'Z'

/-- Drops a given beginning. -/
def skip (start : List Char) (l : List Char) : Option (List Char) :=
  if start <+: l then some (l.drop start.length) else none

/-- Splits off the longest beginning of characters of one sort; there must be one. -/
def many (p : Char → Bool) (l : List Char) : Option (List Char × List Char) :=
  match l.span p with
  | ([], _) => none
  | split => some split

/-- The host between brackets, which may be empty. -/
def bracketedHost (l : List Char) : Option (List Char × List Char) := do
  let inner ← skip ['['] l
  let (host, rest) := inner.span (· != ']')
  return (host, ← skip [']'] rest)

/-- The host, in brackets if they close, else up to a colon or a slash. -/
def readHost (l : List Char) : Option (List Char × List Char) :=
  match bracketedHost l with
  | some found => some found
  | none => many (fun c => c != ':' && c != '/') l

/-- The value of decimal digits, if a port can have it. -/
def portOf (digits : List Char) : Option UInt16 :=
  let value := ofDigits 10 digits
  if value < 65536 then some value.toUInt16 else none

/-- The characters before the last run of slashes that ends a path. -/
def trimSlashes (l : List Char) : List Char := (l.reverse.dropWhile (· == '/')).reverse

/-- The parts of a URL up to its port, and what follows them. -/
def parts (l : List Char) : Option (List Char × List Char × UInt16 × List Char) := do
  let (protocol, l) ← many isAsciiAlphanumeric (← skip "osc.".toList l)
  let (host, l) ← readHost (← skip "://".toList l)
  let (digits, rest) ← many isAsciiDigit (← skip [':'] l)
  return (protocol, host, ← portOf digits, rest)

/-- Reads an origin URL. -/
def read (url : String) : Except OriginFault OriginUrl :=
  match parts url.toList with
  | none => .error .shape
  | some (protocol, host, port, path) =>
    if path = [] ∨ path.head? = some '/' then
      .ok ⟨String.ofList protocol, String.ofList host, port, String.ofList (trimSlashes path)⟩
    else .error .path

/-- The URL that reads back as given: brackets around the host wherever they can close. -/
def render (o : OriginUrl) : String :=
  let host := if o.host.contains ']' then o.host else "[" ++ o.host ++ "]"
  "osc." ++ o.protocol ++ "://" ++ host ++ ":" ++ o.port.toNat.repr ++ o.path

/-- The socket address of a URL: a literal as it stands, a name as the machine knows it. -/
def resolve (names : HostTable) (o : OriginUrl) : Except OriginFault SocketAddress :=
  match IpAddress.read? o.host with
  | some ip => .ok ⟨ip, o.port⟩
  | none =>
    match names o.host with
    | .ok ip => .ok ⟨ip, o.port⟩
    | .error reason => .error (.unresolved reason)

end OriginUrl

end RackRemote

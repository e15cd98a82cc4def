import RackRemote.Settings
import RackRemote.Host.Basic
/-!
# The command line

`serve` runs a host, `config` prints its settings. A settings file may be named before or after the
command. What is wrong with the arguments is found before any file is read.
-/

namespace RackRemote.CommandLine

/-- The options. -/
inductive Flag where
  | config
  | name
  | tcpPort
  | udpPort
  | help
deriving DecidableEq, Repr

def Flag.long : Flag → String
  | .config => "config"
  | .name => "name"
  | .tcpPort => "tcp-port"
  | .udpPort => "udp-port"
  | .help => "help"

def Flag.short? : Flag → Option Char
  | .config => some 'c'
  | .name => some 'n'
  | .help => some 'h'
  | _ => none

/-- Why arguments are not carried out. -/
inductive Stop where
  | usage
  | help
deriving DecidableEq, Repr

/-- How an argument is written. -/
inductive Shape where
  | long (name : String) (value : Option String)
  | short (letter : Char) (value : Option String)
  /-- Two hyphens alone: no options follow. -/
  | terminator
  | plain
deriving DecidableEq, Repr

/-- The value behind a short option, an equals sign in front of it left out. -/
def attached : List Char → Option String
  | [] => none
  | '=' :: l => some (String.ofList l)
  | l => some (String.ofList l)

def Shape.of (arg : String) : Shape :=
  match arg.toList with
  | ['-', '-'] => .terminator
  | '-' :: '-' :: l =>
    match l.span (· != '=') with
    | (name, []) => .long (String.ofList name) none
    | (name, _ :: value) => .long (String.ofList name) (some (String.ofList value))
  | '-' :: letter :: l => .short letter (attached l)
  | _ => .plain

/-- The option that an argument names, and the value attached to it. -/
def Shape.flag? (flags : List Flag) : Shape → Option (Flag × Option String)
  | .long name value => (flags.find? (·.long == name)).map (·, value)
  | .short letter value => (flags.find? (·.short? == some letter)).map (·, value)
  | _ => none

/-- Reads a port: a decimal number, which may have a sign. -/
def readPort (s : String) : Option UInt16 :=
  let (negative, digits) := Toml.sign s.toList
  let n := ofDigits 10 digits
  if digits.isEmpty ∨ digits.any (fun c => !Toml.isDigit 10 c) then none
  else if negative ∧ n ≠ 0 then none
  else if n < 65536 then some n.toUInt16
  else none

/-- What the options of one command say. -/
structure Given where
  config : Option String := none
  name : Option String := none
  tcpPort : Option UInt16 := none
  udpPort : Option UInt16 := none
deriving DecidableEq, Repr

/-- Takes the value of an option, which may be given once only. -/
def Given.set (g : Given) (flag : Flag) (value : String) : Option Given :=
  match flag with
  | .config =>
    if g.config.isSome ∨ value.isEmpty then none else some { g with config := some value }
  | .name => if g.name.isSome then none else some { g with name := some value }
  | .tcpPort =>
    if g.tcpPort.isSome then none else (readPort value).map fun p => { g with tcpPort := some p }
  | .udpPort =>
    if g.udpPort.isSome then none else (readPort value).map fun p => { g with udpPort := some p }
  | .help => none

def orUsage {α : Type} : Option α → Except Stop α
  | some a => .ok a
  | none => .error .usage

/-- Reads options up to the first argument that is none. A value that stands apart from its option
must not look like an option itself. -/
def options (flags : List Flag) (g : Given) : List String → Except Stop (Given × List String)
  | [] => .ok (g, [])
  | arg :: rest =>
    match Shape.of arg with
    | .plain | .terminator => .ok (g, arg :: rest)
    | shape =>
      match shape.flag? flags, rest with
      | none, _ => .error .usage
      | some (.help, none), _ => .error .help
      | some (.help, some _), _ => match shape with
        | .short .. => .error .help
        | _ => .error .usage
      | some (flag, some value), rest => do options flags (← orUsage (g.set flag value)) rest
      | some (_, none), [] => .error .usage
      | some (flag, none), value :: rest =>
        if Shape.of value = .plain then do options flags (← orUsage (g.set flag value)) rest
        else .error .usage

/-- Reads the options of a command, after which nothing may follow. -/
def lastOptions (flags : List Flag) (args : List String) : Except Stop Given := do
  let (g, rest) ← options flags {} args
  if rest = [] ∨ rest = ["--"] then return g else throw .usage

/-- What settings are changed to for one run. -/
structure Overrides where
  name : Option String := none
  tcpPort : Option UInt16 := none
  udpPort : Option UInt16 := none
deriving DecidableEq, Repr

inductive Command where
  | serve (overrides : Overrides)
  | config
deriving DecidableEq, Repr

/-- A command, and the file with the settings for it if it is not the usual one. -/
structure Invocation where
  file : Option String
  command : Command
deriving DecidableEq, Repr

/-- Reads the arguments. -/
def parse (args : List String) : Except Stop Invocation := do
  let (outer, rest) ← options [.config, .help] {} args
  match rest with
  | "serve" :: rest =>
    let g ← lastOptions [.config, .name, .tcpPort, .udpPort, .help] rest
    return ⟨g.config.or outer.config, .serve ⟨g.name, g.tcpPort, g.udpPort⟩⟩
  | "config" :: rest =>
    let g ← lastOptions [.config, .help] rest
    return ⟨g.config.or outer.config, .config⟩
  | ["help"] | ["help", "serve"] | ["help", "config"] | ["help", "help"] => throw .help
  | _ => throw .usage

/-- The listener at a given port instead of its own. -/
def withPort (l : Listener) : Option UInt16 → Listener
  | none => l
  | some port => { l with port, random := false }

/-- The settings with some of them changed. -/
def Overrides.apply (o : Overrides) (s : Settings) : Settings :=
  { s with
    name := o.name.getD s.name
    tcp := withPort s.tcp o.tcpPort
    udp := withPort s.udp o.udpPort }

/-- What a command comes to. -/
inductive Outcome where
  | printed (text : String)
  /-- A host runs with these settings. -/
  | served (settings : Settings)
  | failed (fault : SettingsFault)
deriving DecidableEq, Repr

/-- Carries out a command, given what is found in its file. -/
def Command.run (c : Command) (source : Settings.Source) : Outcome :=
  match Settings.load source with
  | .error fault => .failed fault
  | .ok s =>
    match c with
    | .config => .printed s.toToml
    | .serve o =>
      match (o.apply s).check with
      | .error fault => .failed fault
      | .ok s => .served s

/-- What is shown of a fault when the program ends with it. -/
def report : SettingsFault → String
  | .directory | .unreadable _ | .notText => "Io"
  | .notSettings => "Parse"
  | .invalid reason => "Invalid(" ++ Text.quoted reason.message ++ ")"

/-- How the program is called. -/
def helpText : String :=
  "OSC-controlled audio plugin host\n\n"
    ++ "Usage: plughost [OPTIONS] <COMMAND>\n\n"
    ++ "Commands:\n"
    ++ "  serve   Run the host and accept controllers\n"
    ++ "  config  Print the effective configuration\n"
    ++ "  help    Print this message or the help of the given subcommand(s)\n\n"
    ++ "Options:\n"
    ++ "  -c, --config <CONFIG>  Configuration file (default: <config dir>/plughost/config.toml)\n"
    ++ "  -h, --help             Print help\n"

/-- The ports to listen on, the one for TCP first. -/
def ports (s : Settings) : List (Transport × UInt16) :=
  (if s.tcp.enabled then [(.tcp, s.tcp.bindPort)] else [])
    ++ if s.udp.enabled then [(.udp, s.udp.bindPort)] else []

/-- What is reported when the listeners are open. -/
def readyText (s : Settings) : String := "Host '" ++ s.name ++ "' ready"

/-- The host that serves with some settings. -/
def start? {κ : Type} (s : Settings) (courier : κ) : Option (Host κ) :=
  Host.start? { root := s.name, firstSlot := s.firstSlot } {} courier

/-- How the program goes on with a command. -/
inductive Launch (κ : Type) where
  | printed (text : String)
  | failed (fault : SettingsFault)
  /-- There are settings, but no host starts under their name. -/
  | rootless (name : String)
  /-- The host is there, and listens on the ports in the settings. -/
  | serving (settings : Settings) (host : Host κ)

/-- Carries out a command up to the point at which listeners are opened. -/
def Command.launch {κ : Type} (c : Command) (source : Settings.Source) (courier : κ) : Launch κ :=
  match c.run source with
  | .printed text => .printed text
  | .failed fault => .failed fault
  | .served s =>
    match start? s courier with
    | none => .rootless s.name
    | some host => .serving s host

end RackRemote.CommandLine

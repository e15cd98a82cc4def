import RackRemote.Osc.Bytes
import RackRemote.Text.Quoted
import RackRemote.Toml.Document
/-!
# Settings

A host's settings are read from a file, in which every key may be left out, and written to one with
all of them. `Settings.check` says which settings a host can run with.
-/

namespace RackRemote

/-- Where a host listens on one transport. -/
structure Listener where
  enabled : Bool := true
  port : UInt16 := 22752
  /-- The system picks a port that is free. -/
  random : Bool := false
deriving DecidableEq, Repr

/-- The port to ask the system for; zero for any. -/
def Listener.bindPort (l : Listener) : UInt16 := if l.random then 0 else l.port

structure Settings where
  /-- The name under which plugins are addressed. -/
  name : String := "plughost"
  tcp : Listener := {}
  udp : Listener := {}
  /-- A switch of two plugins takes both indices from its first argument. -/
  firstSlot : Bool := false
deriving DecidableEq, Repr

/-- Why no host can run with some settings. -/
inductive InvalidSettings where
  | emptyName
  | slashInName (name : String)
  | noListener
deriving DecidableEq, Repr

def InvalidSettings.message : InvalidSettings → String
  | .emptyName => "name must not be empty"
  | .slashInName name => "name '" ++ name ++ "' must not contain '/'"
  | .noListener => "at least one of tcp and udp must be enabled"

/-- Why a file gives no settings. -/
inductive SettingsFault where
  | directory
  /-- The system does not give out what the file holds. -/
  | unreadable (reason : String)
  | notText
  | notSettings
  | invalid (reason : InvalidSettings)
deriving DecidableEq, Repr

def SettingsFault.message : SettingsFault → String
  | .directory => "IO error: Is a directory (os error 21)"
  | .unreadable reason => "IO error: " ++ reason
  | .notText => "IO error: stream did not contain valid UTF-8"
  | .notSettings => "Config parse error"
  | .invalid reason => "Invalid config: " ++ reason.message

namespace Settings

/-- Settings with which a host can run. -/
def check (s : Settings) : Except SettingsFault Settings :=
  if s.name.isEmpty then .error (.invalid .emptyName)
  else if s.name.contains '/' then .error (.invalid (.slashInName s.name))
  else if !s.tcp.enabled && !s.udp.enabled then .error (.invalid .noListener)
  else .ok s

/-! ## Reading -/

def readString : Toml.Value → Option String
  | .string s => some s
  | _ => none

def readBool : Toml.Value → Option Bool
  | .boolean b => some b
  | _ => none

def readPort : Toml.Value → Option UInt16
  | .integer n => if 0 ≤ n ∧ n < 65536 then some n.toNat.toUInt16 else none
  | _ => none

/-- The value of a key that may be missing. -/
def read {α : Type} (reader : Toml.Value → Option α) (dflt : α) : Option Toml.Value → Option α
  | none => some dflt
  | some v => reader v

/-- The members of a section. They have names, or places in an array. A point in time stands for a
section without members, and an array of tables for members that are tables. -/
def member? : Toml.Value → Option (String → Nat → Option Toml.Value)
  | .table _ es | .closed es => some fun key _ => es.lookup key
  | .array items => some fun _ place => items[place]?
  | .tables earlier last =>
    some fun _ place => (earlier ++ [last])[place]?.map (.table .explicit)
  | .dateTime => some fun _ _ => none
  | _ => none

def readListener (v : Toml.Value) : Option Listener := do
  let member ← member? v
  let dflt : Listener := {}
  let enabled ← read readBool dflt.enabled (member "enabled" 0)
  let port ← read readPort dflt.port (member "port" 1)
  let random ← read readBool dflt.random (member "random" 2)
  return { enabled, port, random }

/-- Reads the section that keeps to the habits of older controllers. -/
def readCompat (v : Toml.Value) : Option Bool := do
  let member ← member? v
  read readBool false (member "switch_plugins_first_slot" 0)

/-- The settings in the entries of a document. Other keys are passed over. -/
def ofEntries (es : Toml.Entries) : Option Settings := do
  let dflt : Settings := {}
  let name ← read readString dflt.name (es.lookup "name")
  let tcp ← read readListener dflt.tcp (es.lookup "tcp")
  let udp ← read readListener dflt.udp (es.lookup "udp")
  let firstSlot ← read readCompat dflt.firstSlot (es.lookup "compat")
  return { name, tcp, udp, firstSlot }

/-- The settings in a document. -/
def ofToml (s : String) : Except SettingsFault Settings :=
  match (Toml.read s).bind ofEntries with
  | some settings => settings.check
  | none => .error .notSettings

/-! ## Writing -/

def boolText (b : Bool) : String := if b then "true" else "false"

def listenerText (header : String) (l : Listener) : String :=
  "\n[" ++ header ++ "]\nenabled = " ++ boolText l.enabled ++ "\nport = " ++ l.port.toNat.repr
    ++ "\nrandom = " ++ boolText l.random ++ "\n"

/-- A document with these settings. -/
def toToml (s : Settings) : String :=
  "name = " ++ String.ofList (Toml.written s.name.toList) ++ "\n"
    ++ listenerText "tcp" s.tcp ++ listenerText "udp" s.udp
    ++ "\n[compat]\nswitch_plugins_first_slot = " ++ boolText s.firstSlot ++ "\n"

/-! ## Files -/

/-- What is found under a file's name. -/
inductive Source where
  | missing
  | directory
  | unreadable (reason : String)
  | file (bytes : List UInt8)

/-- The settings in a file; a missing one leaves everything as it is by default. -/
def load : Source → Except SettingsFault Settings
  | .missing => .ok {}
  | .directory => .error .directory
  | .unreadable reason => .error (.unreadable reason)
  | .file bytes =>
    match Osc.ofUtf8? bytes with
    | some s => ofToml s
    | none => .error .notText

end Settings

end RackRemote

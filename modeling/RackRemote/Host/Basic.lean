import RackRemote.Control.Callback
import RackRemote.Control.OriginUrl
import RackRemote.Net.Courier
import RackRemote.Osc.Decoder
import RackRemote.Rack.Basic
/-!
# Hosts

A host holds a rack and at most one controller per transport. Everything that leaves it is entered
in its journal: the rack's events, the messages sent, the connections dropped, and the warnings.
-/

namespace RackRemote

/-- What stays the same while a host runs. -/
structure Setup where
  /-- The name under which plugins are addressed. -/
  root : String
  /-- A switch of two plugins takes both indices from its first argument. -/
  firstSlot : Bool := false
  /-- The rack's events are passed on to the controllers. -/
  passesEvents : Bool := true
  /-- The patchbay shows the ports of the system as well. -/
  systemPorts : Bool := false
  /-- The rack is not available for reporting its connections again. -/
  declinesRefresh : Bool := false
  /-- How many plugins the host believes there are. -/
  count : Rack → UInt32 := Rack.count
  /-- The key of the plugin that the host finds at an index. -/
  lookUp : Rack → UInt32 → Option Nat := fun r index => (r.at? index).map Plugin.key
  /-- The names of controllers' machines. -/
  names : HostTable := HostTable.empty

/-- A registered controller. -/
structure Binding where
  /-- The URL as the controller gave it. -/
  owner : String
  target : Target
  /-- The path under which the controller receives messages. -/
  path : String
deriving DecidableEq, Repr

/-- The controller that a URL describes. -/
def Binding.ofUrl (names : HostTable) (t : Transport) (url : String) :
    Except OriginFault Binding := do
  let origin ← OriginUrl.read url
  let address ← origin.resolve names
  return { owner := url, target := ⟨t, address⟩, path := origin.path }

/-- What a journal can hold. -/
inductive Entry where
  | event (e : Event) (origin : Origin)
  | sent (target : Target) (message : Osc.Message) (outcome : Except IoError Unit)
  | forgot (target : Target)
  /-- A message was refused. -/
  | rejected (reason : Refusal)
  /-- No controller could be told about an event. -/
  | untold (error : IoError)
  /-- Bytes on a transport were no packet. -/
  | undecodable (t : Transport) (fault : Osc.DecodeFault)

/-- The text of a warning. It says what went wrong, but not with what: the message that was refused, the
event that nobody could be told and the sender of the bytes are left out, and the reason of a failed
attempt stands alone, without a word on its kind. -/
def Entry.warning? : Entry → Option String
  | .rejected reason => some reason.message
  | .untold error => some ("Failed to notify controller: " ++ error.text)
  | .undecodable t fault => some ("Failed to decode " ++ t.text ++ " packet: " ++ fault.report)
  | _ => none

structure Host (κ : Type) where
  setup : Setup
  rack : Rack := {}
  tcp : Option Binding := none
  udp : Option Binding := none
  courier : κ
  journal : List Entry := []

/-- Whether plugins can be addressed under a name. -/
def isRootName (s : String) : Bool := !s.isEmpty && !s.contains '/'

namespace Host

variable {κ : Type}

/-- A host that has just been started. There is none whose root name is empty or has a slash. -/
def start? (setup : Setup) (rack : Rack) (courier : κ) : Option (Host κ) :=
  if isRootName setup.root then some { setup, rack, courier } else none

/-- What is said of a root name under which no host starts. -/
def rootFault (root : String) : String := "invalid root name '" ++ root ++ "'"

/-- The controller registered on a transport. -/
def binding (h : Host κ) : Transport → Option Binding
  | .tcp => h.tcp
  | .udp => h.udp

def setBinding (h : Host κ) (t : Transport) (b : Option Binding) : Host κ :=
  match t with
  | .tcp => { h with tcp := b }
  | .udp => { h with udp := b }

def enter (h : Host κ) (e : Entry) : Host κ := { h with journal := h.journal ++ [e] }

variable [Courier κ]

/-- Sends a message, and says whether it got through. -/
def deliver (h : Host κ) (target : Target) (message : Osc.Message) :
    Host κ × Except IoError Unit :=
  let (courier, outcome) := Courier.send h.courier target message
  ({ h with courier }.enter (.sent target message outcome), outcome)

/-- Drops what the courier holds open for a target. -/
def forget (h : Host κ) (target : Target) : Host κ :=
  { h with courier := Courier.forget h.courier target }.enter (.forgot target)

end Host

end RackRemote

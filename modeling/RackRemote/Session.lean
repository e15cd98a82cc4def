import RackRemote.Host.Reception
/-!
# Sessions

A session drives a host through a script: messages arrive, the rack and its plugins are used
directly, and after each step a report says what has happened since the one before.
-/

namespace RackRemote

/-- The listeners of a host, and whether packets find their way to them. -/
structure Listeners where
  tcp : Bool := false
  udp : Bool := false
  routed : Bool := true
deriving DecidableEq, Repr

/-- A plugin as a script names it. -/
inductive PluginRef where
  /-- The plugin now at an index. -/
  | index (index : UInt32)
  /-- The plugin that was held as the `k`-th. -/
  | held (k : Nat)
deriving DecidableEq, Repr

/-- What a script can ask a plugin. -/
inductive Inquiry where
  | act (action : Action) (origin : Origin)
  | id
  | name

/-- A step of a script. -/
inductive Step where
  | message (t : Transport) (m : Osc.Message)
  | packet (t : Transport) (p : Osc.Packet)
  /-- One TCP connection with all the bytes that arrive on it. -/
  | stream (bytes : List UInt8)
  | datagram (bytes : List UInt8)
  | load (name : String)
  | xrun
  /-- Keeps hold of the plugin now at an index. -/
  | hold (index : UInt32)
  | register (t : Transport) (url : String)
  | unregister (t : Transport) (url : String)
  | notify (e : Event)
  | relay (e : Event) (origin : Origin)
  | rack (request : Request) (origin : Origin)
  | plugin (ref : PluginRef) (inquiry : Inquiry)

/-- What a step answers. -/
inductive Answer where
  | done
  /-- Nobody listens. -/
  | declined
  | accepted (order : Order)
  | refused (reason : Refusal)
  | handled (count : Nat)
  | ended (stop : Osc.StreamEnd)
  | loaded (index : UInt32)
  | held (k : Option Nat)
  | told (found : Bool)
  | id (id : UInt32)
  | name (name : String)
  | noPlugin

/-- The answer of an operation that is done or refused. -/
def Answer.ofOutcome : Except Refusal Unit → Answer
  | .ok () => .done
  | .error reason => .refused reason

structure Session (κ : Type) where
  host : Host κ
  listeners : Listeners := {}
  /-- The keys of the plugins that are held, in the order in which they were taken. -/
  held : List Nat := []

/-- The calls that a plugin has received, with its index or the number of its hold. -/
abbrev CallsOf := Nat × List (Action × Origin)

/-- What has happened since the report before, and how things are now. -/
structure Report (κ : Type) where
  answer : Answer
  pluginCalls : List CallsOf
  heldCalls : List CallsOf
  /-- The ids of the plugins that are held. -/
  heldIds : List UInt32
  /-- The host with its logs since the report before. -/
  host : Host κ

namespace Session

variable {κ : Type}

/-- The plugin that a script names. -/
def find? (s : Session κ) : PluginRef → Option Plugin
  | .index index => s.host.rack.at? index
  | .held k => s.held[k]?.bind s.host.rack.find?

/-- The numbered lists of calls that are not empty. -/
def someCalls (calls : List CallsOf) : List CallsOf := calls.filter fun c => !c.2.isEmpty

/-- The calls of the plugins in the rack. -/
def pluginCalls (s : Session κ) : List CallsOf :=
  someCalls (s.host.rack.plugins.mapIdx fun place p => (place, p.calls))

/-- The calls of held plugins that have left the rack. A plugin that is held twice counts once. -/
def heldCalls (s : Session κ) : List CallsOf :=
  someCalls (s.held.mapIdx fun k key =>
    if (s.held.take k).contains key then (k, [])
    else (k, ((s.host.rack.removed.find? (·.key == key)).elim [] Plugin.calls)))

/-- The session with empty logs. -/
def clearLogs (s : Session κ) : Session κ :=
  { s with host := { s.host with rack := s.host.rack.clearLogs, journal := [] } }

def report (s : Session κ) (answer : Answer) : Report κ where
  answer
  pluginCalls := s.pluginCalls
  heldCalls := s.heldCalls
  heldIds := s.held.filterMap fun key => (s.host.rack.find? key).map Plugin.id
  host := s.host

variable [Courier κ]

/-- The session after a change of its host that has an answer. -/
def answering (s : Session κ) {α : Type} (answer : α → Answer) (result : Host κ × α) :
    Session κ × Answer :=
  ({ s with host := result.1 }, answer result.2)

/-- Takes a step. It fails if a packet cannot be brought to a listener. -/
def step (s : Session κ) : Step → Except IoError (Session κ × Answer)
  | .message t m =>
    return s.answering (fun | .ok order => .accepted order | .error reason => .refused reason)
      (s.host.handle t m)
  | .packet t p => return s.answering .handled (s.host.handlePacket t p)
  | .stream bytes =>
    if !s.listeners.tcp then return (s, .declined)
    else if !s.listeners.routed then throw .networkUnreachable
    else return s.answering .ended (s.host.receiveStream bytes)
  | .datagram bytes =>
    if !s.listeners.udp then return (s, .declined)
    else if !s.listeners.routed then throw .networkUnreachable
    else return ({ s with host := s.host.receive .udp bytes }, .done)
  | .load name => return s.answering .loaded (s.host.load name)
  | .xrun => return ({ s with host := { s.host with rack := s.host.rack.countXrun } }, .done)
  | .hold index =>
    match s.host.rack.at? index with
    | some p => return ({ s with held := s.held ++ [p.key] }, .held s.held.length)
    | none => return (s, .held none)
  | .register t url => return s.answering .ofOutcome (s.host.register t url)
  | .unregister t url => return s.answering .ofOutcome (s.host.unregister t url)
  | .notify e =>
    return s.answering (fun | .ok found => .told found | .error e => .refused (.undelivered e))
      (s.host.notify e)
  | .relay e origin => return ({ s with host := s.host.relay e origin }, .done)
  | .rack request origin => return s.answering .ofOutcome (s.host.perform request origin)
  | .plugin ref inquiry =>
    match s.find? ref, inquiry with
    | none, _ => return (s, .noPlugin)
    | some p, .act action origin =>
      return ({ s with host := s.host.act p.key action origin }, .done)
    | some p, .id => return (s, .id p.id)
    | some p, .name => return (s, .name p.name)

/-- Runs a script and reports on each step. -/
def run (s : Session κ) : List Step → Except IoError (List (Report κ))
  | [] => .ok []
  | st :: script => do
    let (s, answer) ← s.step st
    let reports ← s.clearLogs.run script
    return s.report answer :: reports

end Session

end RackRemote

import RackRemote.Control.GlobalCommand
import RackRemote.Control.PluginCommand
import RackRemote.Control.Route
import RackRemote.Host.Basic
/-!
# What a message asks for

`Host.decide` reads a message as an order, or refuses it. It sees the host but cannot change it, so
a message that is refused here has no effect.
-/

namespace RackRemote

/-- What an acceptable message asks for. Plugins are given by index and by key. -/
inductive Order where
  | register (url : String)
  | unregister (url : String)
  | control (command : GlobalCommand) (request : Request)
  | plugin (index : UInt32) (key : Nat) (command : PluginCommand) (action : Action)
  /-- A method that the plugin itself may know. -/
  | forward (index : UInt32) (key : Nat) (method : String) (args : List Osc.Arg)
  /-- A method that does nothing. -/
  | reserved (index : UInt32) (command : ReservedCommand)

namespace Host

variable {κ : Type}

/-- Reads the one argument of a registration. -/
def readUrl (command : String) (args : List Osc.Arg) : Except Refusal String := do
  (← Arguments.check command [.text] args).text 0

/-- Reads a command to the host. Only the controller registered on TCP has a say. -/
def decideControl (h : Host κ) (t : Transport) (path name : String) (args : List Osc.Arg) :
    Except Refusal Order := do
  if t = .udp then throw (.transportNotAllowed path t)
  if h.tcp.isNone then throw (.notRegistered .tcp)
  match GlobalCommand.ofName? name with
  | none => throw (.unknownCommand name)
  | some command => return .control command (← command.request h.setup.firstSlot args)

/-- Finds the plugin at an index. It must still have this index as its id. -/
def resolve (h : Host κ) (index : UInt32) : Except Refusal Plugin := do
  let count := h.setup.count h.rack
  if count ≤ index then throw (.indexOutOfRange index count)
  match (h.setup.lookUp h.rack index).bind h.rack.find? with
  | some p => if p.id = index then return p else throw (.stalePlugin index)
  | none => throw (.stalePlugin index)

/-- Reads a method call for the plugin at an index. -/
def decidePlugin (h : Host κ) (index : UInt32) (method : String) (args : List Osc.Arg) :
    Except Refusal Order := do
  let p ← h.resolve index
  match PluginCommand.ofName? method with
  | some command => return .plugin index p.key command (← command.action args)
  | none =>
    match ReservedCommand.ofName? method with
    | some command => return .reserved index command
    | none => return .forward index p.key method args

/-- What a message that arrived on a transport asks for. -/
def decide (h : Host κ) (t : Transport) (m : Osc.Message) : Except Refusal Order :=
  match Route.ofPath m.address h.setup.root with
  | .register => return .register (← readUrl "register" m.args)
  | .unregister => return .unregister (← readUrl "unregister" m.args)
  | .control name => h.decideControl t m.address name m.args
  | .plugin index method => h.decidePlugin index method m.args
  | .other => throw (.notAddressed m.address)
  | .malformed fault => throw (.malformedPath m.address fault)

end Host

end RackRemote

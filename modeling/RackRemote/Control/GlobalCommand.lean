import RackRemote.Control.Arguments
import RackRemote.Rack.Event
import RackRemote.Rack.Request
/-!
# Commands to the host

The commands under `/ctrl/`. Each declares the kinds of its arguments, and reads arguments of these
kinds as a request to the rack.
-/

namespace RackRemote

inductive GlobalCommand where
  | clearEngineXruns
  | cancelEngineAction
  | patchbayConnect
  | patchbayDisconnect
  | patchbayRefresh
  | transportPlay
  | transportPause
  | transportBpm
  | transportRelocate
  | addPlugin
  | removePlugin
  | removeAllPlugins
  | renamePlugin
  | clonePlugin
  | replacePlugin
  | switchPlugins
deriving DecidableEq, Repr

namespace GlobalCommand

def all : List GlobalCommand :=
  [clearEngineXruns, cancelEngineAction, patchbayConnect, patchbayDisconnect, patchbayRefresh,
    transportPlay, transportPause, transportBpm, transportRelocate, addPlugin, removePlugin,
    removeAllPlugins, renamePlugin, clonePlugin, replacePlugin, switchPlugins]

/-- The name under `/ctrl/`. -/
def name : GlobalCommand → String
  | clearEngineXruns => "clear_engine_xruns"
  | cancelEngineAction => "cancel_engine_action"
  | patchbayConnect => "patchbay_connect"
  | patchbayDisconnect => "patchbay_disconnect"
  | patchbayRefresh => "patchbay_refresh"
  | transportPlay => "transport_play"
  | transportPause => "transport_pause"
  | transportBpm => "transport_bpm"
  | transportRelocate => "transport_relocate"
  | addPlugin => "add_plugin"
  | removePlugin => "remove_plugin"
  | removeAllPlugins => "remove_all_plugins"
  | renamePlugin => "rename_plugin"
  | clonePlugin => "clone_plugin"
  | replacePlugin => "replace_plugin"
  | switchPlugins => "switch_plugins"

def ofName? (s : String) : Option GlobalCommand := all.find? (·.name == s)

/-- The kinds of the arguments, in order. -/
def signature : GlobalCommand → List ArgKind
  | clearEngineXruns | cancelEngineAction | transportPlay | transportPause | removeAllPlugins => []
  | patchbayConnect => [.int32, .int32, .int32, .int32]
  | patchbayDisconnect | patchbayRefresh | removePlugin | clonePlugin | replacePlugin => [.int32]
  | transportBpm => [.float]
  | transportRelocate => [.integer]
  | addPlugin => [.int32, .int32, .text, .text, .text, .integer, .int32]
  | renamePlugin => [.int32, .text]
  | switchPlugins => [.int32, .int32]

/-- A text that controllers send for one that is absent. -/
def placeholder : String := "(null)"

def optional (s : String) : Option String := if s = placeholder then none else some s

/-- A tempo: a number that is not negative. -/
def readBpm (a : Arguments) : Except Refusal Binary64 := do
  let bpm := (← a.float 0).widen
  if bpm.isNaN ∨ bpm.belowZero then throw (a.outOfRange "bpm" (.real bpm))
  return bpm

def readOrder (a : Arguments) : Except Refusal PluginOrder := do
  let binaryType ← a.index 0 "binary_type"
  let pluginType ← a.index 1 "plugin_type"
  let filename := optional (← a.text 2)
  let name := optional (← a.text 3)
  let label ← a.label 4 "label"
  let uniqueId ← a.integer 5
  let options ← a.index 6 "options"
  return { binaryType, pluginType, filename, name, label, uniqueId, options }

def readPorts (a : Arguments) : Except Refusal Ports := do
  let groupA ← a.index 0 "group_a"
  let portA ← a.index 1 "port_a"
  let groupB ← a.index 2 "group_b"
  let portB ← a.index 3 "port_b"
  return { groupA, portA, groupB, portB }

/-- The request that checked arguments spell. With `firstSlot` the first argument of a switch names
both plugins. -/
def read (firstSlot : Bool) (c : GlobalCommand) (a : Arguments) : Except Refusal Request :=
  match c with
  | clearEngineXruns => return .clearXruns
  | cancelEngineAction => return .setCanceled true
  | patchbayConnect => return .connect (← readPorts a)
  | patchbayDisconnect => return .disconnect (← a.index 0 "connection_id")
  | patchbayRefresh => return .refresh ((← a.int 0) != 0)
  | transportPlay => return .play
  | transportPause => return .pause
  | transportBpm => return .setBpm (← readBpm a)
  | transportRelocate => return .relocate (← a.unsigned 0 "frame")
  | addPlugin => return .addPlugin (← readOrder a)
  | removePlugin => return .removePlugin (← a.index 0 "index")
  | removeAllPlugins => return .removeAllPlugins
  | renamePlugin => do
    let index ← a.index 0 "index"
    return .renamePlugin index (← a.label 1 "name")
  | clonePlugin => return .clonePlugin (← a.index 0 "index")
  | replacePlugin => return .replacePlugin (← a.index 0 "index")
  | switchPlugins => do
    let first ← a.index 0 "index_a"
    let second ← if firstSlot then pure first else a.index 1 "index_b"
    return .switchPlugins first second

/-- The request that a command with these arguments makes. -/
def request (firstSlot : Bool) (c : GlobalCommand) (args : List Osc.Arg) :
    Except Refusal Request := do
  c.read firstSlot (← Arguments.check c.name c.signature args)

/-- A controller that asks for the connections wants to be told about them; all other changes it
knows already. -/
def origin : GlobalCommand → Origin
  | patchbayRefresh => .internal
  | _ => .external

end GlobalCommand

end RackRemote

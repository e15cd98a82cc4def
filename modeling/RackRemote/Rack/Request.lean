import RackRemote.Ieee.Basic
/-!
# Requests to a rack

What a rack can be asked to do, and why it may decline.
-/

namespace RackRemote

/-- The plugin that is to be added. -/
structure PluginOrder where
  binaryType : UInt32
  pluginType : UInt32
  filename : Option String
  /-- Under which name it is to appear, if not under its label. -/
  name : Option String
  label : String
  uniqueId : Int64
  options : UInt32
deriving DecidableEq, Repr

def PluginOrder.displayName (o : PluginOrder) : String := o.name.getD o.label

/-- The two ends of a connection. -/
structure Ports where
  groupA : UInt32
  portA : UInt32
  groupB : UInt32
  portB : UInt32
deriving DecidableEq, Repr

/-- The four numbers with colons between them. -/
def Ports.description (p : Ports) : String :=
  ":".intercalate ([p.groupA, p.portA, p.groupB, p.portB].map fun n => n.toNat.repr)

/-- What a rack can be asked to do. -/
inductive Request where
  | addPlugin (order : PluginOrder)
  | removePlugin (index : UInt32)
  | removeAllPlugins
  | renamePlugin (index : UInt32) (name : String)
  | clonePlugin (index : UInt32)
  /-- The next plugin that comes takes the place at the index. -/
  | replacePlugin (index : UInt32)
  | switchPlugins (a b : UInt32)
  | connect (ports : Ports)
  | disconnect (id : UInt32)
  /-- Reports all connections again. -/
  | refresh (withSystemPorts : Bool)
  | play
  | pause
  | setBpm (bpm : Binary64)
  | relocate (frame : UInt64)
  | clearXruns
  | setCanceled (canceled : Bool)
deriving DecidableEq, Repr

/-- Why a rack declines a request. -/
inductive RackFault where
  | noPlugin (id : UInt32)
  | switchWithItself
  | noConnection (id : UInt32)
  | refreshDeclined
deriving DecidableEq, Repr

def RackFault.message : RackFault → String
  | .noPlugin id => "invalid plugin id " ++ id.toNat.repr
  | .switchWithItself => "cannot switch a plugin with itself"
  | .noConnection id => "no connection with id " ++ id.toNat.repr
  | .refreshDeclined => "refresh refused"

end RackRemote

import RackRemote.Osc.Packet
import RackRemote.Rack.Event
/-!
# Plugins

A plugin keeps its key for good, while its id follows its place in the rack. It logs what it is
asked to do, and goes on doing so after it has left the rack.
-/

namespace RackRemote

/-- What a plugin can be asked to do. -/
inductive Action where
  | setActive (active : Bool)
  | setDryWet (value : Binary32)
  | setVolume (value : Binary32)
  | setBalanceLeft (value : Binary32)
  | setBalanceRight (value : Binary32)
  | setPanning (value : Binary32)
  | setParameter (index : UInt32) (value : Binary32)
  | setParameterCc (index : UInt32) (cc : Int16)
  | setParameterChannel (index : UInt32) (channel : UInt8)
  | setProgram (program : Int32)
  | setMidiProgram (program : Int32)
  /-- A single note; velocity zero ends it. -/
  | note (channel pitch velocity : UInt8)
  /-- A method that only the plugin itself knows, with its arguments as they came. -/
  | custom (method : String) (args : List Osc.Arg)

structure Plugin where
  key : Nat
  id : UInt32
  name : String
  calls : List (Action × Origin) := []

/-- What a plugin with a given id reports about an action. -/
def Action.event? (id : UInt32) : Action → Option Event
  | .setParameter index value => some (.parameterChanged id index value)
  | .setProgram program => some (.programChanged id program)
  | .setMidiProgram program => some (.midiProgramChanged id program)
  | .note channel pitch velocity =>
    if velocity = 0 then some (.noteOff id channel pitch)
    else some (.noteOn id channel pitch velocity)
  | _ => none

/-- The plugin with one more call in its log. -/
def Plugin.log (p : Plugin) (action : Action) (origin : Origin) : Plugin :=
  { p with calls := p.calls ++ [(action, origin)] }

end RackRemote

import RackRemote.Ieee.Basic
/-!
# Events of a rack

What a rack reports when it changes. A change carries its origin, so that a controller is not told
what it has asked for itself.
-/

namespace RackRemote

/-- Who caused a change. -/
inductive Origin where
  /-- The rack itself, its user, or a wish to be told about its state. -/
  | internal
  /-- A message of a controller. -/
  | external
deriving DecidableEq, Repr

/-- The engine as a newly registered controller is told about it. -/
structure EngineInfo where
  processMode : UInt32 := 2
  transportMode : UInt32 := 0
  bufferSize : UInt32 := 512
  /-- Initially 48000. -/
  sampleRate : Binary64 := ⟨0x40e7700000000000⟩
  driverName : String := "Dummy"
deriving DecidableEq, Repr

/-- A change of the engine, a plugin or the patchbay. -/
inductive Event where
  | engineStarted (info : EngineInfo)
  | pluginAdded (id : UInt32) (name : String)
  | pluginRemoved (id : UInt32)
  | pluginRenamed (id : UInt32) (name : String)
  | parameterChanged (id index : UInt32) (value : Binary32)
  | programChanged (id : UInt32) (program : Int32)
  | midiProgramChanged (id : UInt32) (program : Int32)
  | noteOn (id : UInt32) (channel pitch velocity : UInt8)
  | noteOff (id : UInt32) (channel pitch : UInt8)
  | connectionAdded (id : UInt32) (description : String)
  | connectionRemoved (id : UInt32)
deriving DecidableEq, Repr

/-- Whether an event has to arrive without delay. -/
def Event.isRealtime : Event → Bool
  | .parameterChanged .. | .noteOn .. | .noteOff .. => true
  | _ => false

end RackRemote

import RackRemote.Osc.Packet
import RackRemote.Rack.Event
/-!
# Callback messages

A controller learns about an event by a message to `cb` under its path. All such messages have the
same seven arguments: a code for the kind of event, the id of a plugin, three integers, a number and
a text. What an event does not use is zero or empty.
-/

namespace RackRemote

/-- The arguments of a callback message. -/
structure Callback where
  action : Int32
  id : UInt32 := 0
  first : Int32 := 0
  second : Int32 := 0
  third : Int32 := 0
  value : Binary32 := ⟨0⟩
  text : String := ""
deriving DecidableEq, Repr

def Callback.args (c : Callback) : List Osc.Arg :=
  [.int c.action, .int c.id.toInt32, .int c.first, .int c.second, .int c.third, .float c.value,
    .string c.text]

/-- How an event is told. -/
def Event.callback : Event → Callback
  | .pluginAdded id name => { action := 1, id, text := name }
  | .pluginRemoved id => { action := 2, id }
  | .pluginRenamed id name => { action := 3, id, text := name }
  | .parameterChanged id index value => { action := 5, id, first := index.toInt32, value }
  | .programChanged id program => { action := 10, id, first := program }
  | .midiProgramChanged id program => { action := 11, id, first := program }
  | .noteOn id channel pitch velocity =>
    { action := 13, id, first := channel.toUInt32.toInt32, second := pitch.toUInt32.toInt32,
      third := velocity.toUInt32.toInt32 }
  | .noteOff id channel pitch =>
    { action := 14, id, first := channel.toUInt32.toInt32, second := pitch.toUInt32.toInt32 }
  | .connectionAdded id description =>
    { action := 24, first := id.toInt32, text := description }
  | .connectionRemoved id => { action := 25, first := id.toInt32 }
  | .engineStarted info =>
    { action := 30, first := info.processMode.toInt32, second := info.transportMode.toInt32,
      third := info.bufferSize.toInt32, value := info.sampleRate.narrow, text := info.driverName }

/-- The message that tells a controller with a given path about an event. -/
def Event.message (path : String) (e : Event) : Osc.Message := ⟨path ++ "/cb", e.callback.args⟩

end RackRemote

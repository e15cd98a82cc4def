import RackRemote.Control.Arguments
import RackRemote.Rack.Plugin
/-!
# Commands to a plugin

The methods that every plugin has. Each reads arguments of the kinds it declares as an action. Four
more names are reserved: they are accepted with any arguments and do nothing.
-/

namespace RackRemote

inductive PluginCommand where
  | setActive
  | setDryWet
  | setVolume
  | setBalanceLeft
  | setBalanceRight
  | setPanning
  | setParameterValue
  | setParameterMidiCc
  | setParameterMidiChannel
  | setProgram
  | setMidiProgram
  | noteOn
  | noteOff
deriving DecidableEq, Repr

/-- Methods that are known but deliberately do nothing. -/
inductive ReservedCommand where
  | setOption
  | setCtrlChannel
  | setCustomData
  | setChunk
deriving DecidableEq, Repr

namespace ReservedCommand

def all : List ReservedCommand := [setOption, setCtrlChannel, setCustomData, setChunk]

def name : ReservedCommand → String
  | setOption => "set_option"
  | setCtrlChannel => "set_ctrl_channel"
  | setCustomData => "set_custom_data"
  | setChunk => "set_chunk"

def ofName? (s : String) : Option ReservedCommand := all.find? (·.name == s)

end ReservedCommand

namespace PluginCommand

def all : List PluginCommand :=
  [setActive, setDryWet, setVolume, setBalanceLeft, setBalanceRight, setPanning, setParameterValue,
    setParameterMidiCc, setParameterMidiChannel, setProgram, setMidiProgram, noteOn, noteOff]

def name : PluginCommand → String
  | setActive => "set_active"
  | setDryWet => "set_drywet"
  | setVolume => "set_volume"
  | setBalanceLeft => "set_balance_left"
  | setBalanceRight => "set_balance_right"
  | setPanning => "set_panning"
  | setParameterValue => "set_parameter_value"
  | setParameterMidiCc => "set_parameter_midi_cc"
  | setParameterMidiChannel => "set_parameter_midi_channel"
  | setProgram => "set_program"
  | setMidiProgram => "set_midi_program"
  | noteOn => "note_on"
  | noteOff => "note_off"

def ofName? (s : String) : Option PluginCommand := all.find? (·.name == s)

/-- The kinds of the arguments, in order. -/
def signature : PluginCommand → List ArgKind
  | setActive | setProgram | setMidiProgram => [.int32]
  | setDryWet | setVolume | setBalanceLeft | setBalanceRight | setPanning => [.float]
  | setParameterValue => [.int32, .float]
  | setParameterMidiCc | setParameterMidiChannel | noteOff => [.int32, .int32]
  | noteOn => [.int32, .int32, .int32]

/-- How many channels a MIDI port has. -/
def channels : Int32 := 16

/-- The first number above those of notes and of velocities. -/
def dataLimit : Int32 := 128

/-- The first number above those of controls that can be assigned. -/
def controlLimit : Int32 := 120

def readChannel (a : Arguments) (position : Nat) : Except Refusal UInt8 := do
  return (← a.intIn position "channel" 0 channels).toUInt32.toUInt8

def readData (a : Arguments) (position : Nat) (argument : String) : Except Refusal UInt8 := do
  return (← a.intIn position argument 0 dataLimit).toUInt32.toUInt8

/-- A control number, or minus one for no control. -/
def readCc (a : Arguments) (position : Nat) : Except Refusal Int16 := do
  return (← a.intIn position "cc" (-1) controlLimit).toInt16

/-- A program number, or minus one for no program. -/
def readProgram (a : Arguments) : Except Refusal Int32 := do
  let program ← a.int 0
  if program < -1 then throw (a.outOfRange "index" (.integer program.toInt))
  return program

/-- The action that checked arguments spell. -/
def read (c : PluginCommand) (a : Arguments) : Except Refusal Action :=
  match c with
  | setActive => return .setActive ((← a.int 0) != 0)
  | setDryWet => return .setDryWet (← a.float 0)
  | setVolume => return .setVolume (← a.float 0)
  | setBalanceLeft => return .setBalanceLeft (← a.float 0)
  | setBalanceRight => return .setBalanceRight (← a.float 0)
  | setPanning => return .setPanning (← a.float 0)
  | setParameterValue => do
    let index ← a.index 0 "index"
    return .setParameter index (← a.float 1)
  | setParameterMidiCc => do
    let index ← a.index 0 "index"
    return .setParameterCc index (← readCc a 1)
  | setParameterMidiChannel => do
    let index ← a.index 0 "index"
    return .setParameterChannel index (← readChannel a 1)
  | setProgram => return .setProgram (← readProgram a)
  | setMidiProgram => return .setMidiProgram (← readProgram a)
  | noteOn => do
    let channel ← readChannel a 0
    let pitch ← readData a 1 "note"
    return .note channel pitch (← readData a 2 "velocity")
  | noteOff => do
    let channel ← readChannel a 0
    return .note channel (← readData a 1 "note") 0

/-- The action that a command with these arguments asks for. -/
def action (c : PluginCommand) (args : List Osc.Arg) : Except Refusal Action := do
  c.read (← Arguments.check c.name c.signature args)

end PluginCommand

end RackRemote

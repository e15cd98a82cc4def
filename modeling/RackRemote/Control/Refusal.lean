import RackRemote.Ieee.Shortest
import RackRemote.Net.Address
import RackRemote.Net.Failure
import RackRemote.Rack.Request
/-!
# Why a request is refused

`Refusal` has one constructor per cause. `Refusal.message` is the one place that words it.
-/

namespace RackRemote

/-- Why a path under the root name names no plugin method. -/
inductive PathFault where
  | missingIndex
  | indexTooLarge
  | missingSeparator
  | missingMethod
deriving DecidableEq, Repr

def PathFault.message : PathFault → String
  | .missingIndex => "invalid message, no plugin id"
  | .indexTooLarge => "invalid plugin id, over 999?"
  | .missingSeparator => "plugin id not followed by '/'"
  | .missingMethod => "received message without method"

/-- The kinds of argument that a command can ask for. -/
inductive ArgKind where
  | int32
  | int64
  | float
  | text
  /-- An integer of either width. -/
  | integer
deriving DecidableEq, Repr

/-- Whether an argument with this type tag is of the kind. -/
def ArgKind.accepts : ArgKind → Char → Bool
  | .int32, tag => tag = 'i'
  | .int64, tag => tag = 'h'
  | .float, tag => tag = 'f'
  | .text, tag => tag = 's'
  | .integer, tag => tag = 'i' || tag = 'h'

/-- The type tags of the kind, as a refusal names them. -/
def ArgKind.label : ArgKind → String
  | .int32 => "'i'"
  | .int64 => "'h'"
  | .float => "'f'"
  | .text => "'s'"
  | .integer => "'i' or 'h'"

/-- A value outside the range of its argument. -/
inductive Offending where
  | integer (value : Int)
  | real (value : Binary64)
  | emptyText
deriving DecidableEq, Repr

def Offending.message : Offending → String
  | .integer value => value.repr
  | .real value => value.text
  | .emptyText => "\"\""

/-- Why an origin URL gives no address. -/
inductive OriginFault where
  | shape
  | path
  /-- The host names no address, for this reason. -/
  | unresolved (reason : String)
deriving DecidableEq, Repr

def OriginFault.message : OriginFault → String
  | .shape => "expected osc.<proto>://<host>:<port>/<path>"
  | .path => "path must start with '/'"
  | .unresolved reason => reason

/-- Why a request is refused. -/
inductive Refusal where
  | notAddressed (path : String)
  | malformedPath (path : String) (fault : PathFault)
  | indexOutOfRange (index count : UInt32)
  | stalePlugin (index : UInt32)
  | arity (command : String) (expected actual : Nat)
  | argType (command : String) (position : Nat) (expected : ArgKind) (actual : Char)
  | outOfRange (command argument : String) (value : Offending)
  | alreadyRegistered (transport : Transport) (owner : String)
  | ownerMismatch (transport : Transport) (owner requested : String)
  | notRegistered (transport : Transport)
  | transportNotAllowed (path : String) (transport : Transport)
  | invalidOrigin (url : String) (fault : OriginFault)
  | unknownCommand (name : String)
  | engine (fault : RackFault)
  | undelivered (error : IoError)
deriving DecidableEq, Repr

def Refusal.message : Refusal → String
  | .notAddressed path => "Message not for this instance: '" ++ path ++ "'"
  | .malformedPath path fault => "Malformed path '" ++ path ++ "': " ++ fault.message
  | .indexOutOfRange index count =>
    "Plugin index " ++ index.toNat.repr ++ " out of range (plugin count is "
      ++ count.toNat.repr ++ ")"
  | .stalePlugin index =>
    "Plugin " ++ index.toNat.repr ++ " is no longer present, probably has been removed"
  | .arity command expected actual =>
    "'" ++ command ++ "' expects " ++ expected.repr ++ " argument(s), got " ++ actual.repr
  | .argType command position expected actual =>
    "'" ++ command ++ "' argument " ++ position.repr ++ " has type '" ++ String.singleton actual
      ++ "', expected " ++ expected.label
  | .outOfRange command argument value =>
    "'" ++ command ++ "' argument '" ++ argument ++ "' out of range: " ++ value.message
  | .alreadyRegistered transport owner =>
    transport.text ++ " backend already registered to " ++ owner
  | .ownerMismatch transport owner requested =>
    transport.text ++ " unregister failed, current owner " ++ owner
      ++ " does not match requested " ++ requested
  | .notRegistered transport => transport.text ++ " backend is not registered yet"
  | .transportNotAllowed path transport =>
    "'" ++ path ++ "' is not accepted over " ++ transport.text
  | .invalidOrigin url fault => "Invalid origin URL '" ++ url ++ "': " ++ fault.message
  | .unknownCommand name => "Unhandled control command '" ++ name ++ "'"
  | .engine fault => "Engine error: " ++ fault.message
  | .undelivered error => "IO error: " ++ error.text

end RackRemote

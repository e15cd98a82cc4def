/-!
# Failures of the network
-/

namespace RackRemote

/-- Why a message could not be sent. -/
inductive IoError where
  | networkUnreachable
  | connectionRefused
  | connectionReset
  | messageTooLong
  /-- The sending side declined by itself. -/
  | declined
  /-- Any other failure, as the system words it. -/
  | other (text : String)
deriving DecidableEq, Repr

/-- The system's text for a failure. -/
def IoError.text : IoError → String
  | .networkUnreachable => "Network is unreachable (os error 101)"
  | .connectionRefused => "Connection refused (os error 111)"
  | .connectionReset => "Connection reset by peer (os error 104)"
  | .messageTooLong => "Message too long (os error 90)"
  | .declined => "refused"
  | .other text => text

end RackRemote

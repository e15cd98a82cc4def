import RackRemote.Net.Sockets
/-!
# Networks on tape

A tape plays back the outcomes of attempts that were made before. At the first attempt past its end
it stops: this one is pending, and nothing that follows counts. A program makes the pending attempt
on real sockets, adds the outcome to the tape and starts over, so that every decision stays here.
-/

namespace RackRemote

/-- What can be tried on a network. -/
inductive Attempt where
  | connect (id : Nat) (address : SocketAddress)
  | write (id : Nat) (bytes : List UInt8)
  | datagram (address : SocketAddress) (bytes : List UInt8)
deriving DecidableEq, Repr

structure Tape where
  /-- The outcomes of the attempts to come. -/
  outcomes : List (Except IoError Unit) := []
  /-- The first attempt whose outcome is not known. -/
  pending : Option Attempt := none

namespace Tape

/-- The outcome of an attempt, if it is on the tape. -/
def play (t : Tape) (a : Attempt) : Tape × Except IoError Unit :=
  match t.pending, t.outcomes with
  | none, outcome :: outcomes => ({ t with outcomes }, outcome)
  | none, [] => ({ t with pending := some a }, .error .declined)
  | some _, _ => (t, .error .declined)

instance : Network Tape where
  connect t id a := t.play (.connect id a)
  write t id bytes :=
    match t.play (.write id bytes) with
    | (t, .ok ()) => (t, none)
    | (t, .error e) => (t, some (0, e))
  datagram t a bytes := t.play (.datagram a bytes)

/-- Sockets on a tape with the given outcomes. -/
def rewind (s : Sockets Tape) (outcomes : List (Except IoError Unit)) : Sockets Tape :=
  { s with network := { outcomes } }

end Tape

end RackRemote

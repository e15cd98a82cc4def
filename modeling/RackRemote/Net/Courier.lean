import RackRemote.Net.Address
import RackRemote.Net.Failure
import RackRemote.Osc.Packet
/-!
# Couriers

A courier carries messages to controllers. What is said about hosts holds for every courier, so for
every outcome of each delivery.
-/

namespace RackRemote

class Courier (κ : Type) where
  /-- Tries to deliver a message. -/
  send : κ → Target → Osc.Message → κ × Except IoError Unit
  /-- Drops what is held open for a target; the next delivery starts afresh. -/
  forget : κ → Target → κ

/-- A courier that delivers a number of messages on each transport and declines all later ones. -/
structure Quota where
  tcp : Option Nat := none
  udp : Option Nat := none
deriving DecidableEq, Repr

namespace Quota

/-- How many deliveries are left on a transport, if they are limited. -/
def left (q : Quota) : Transport → Option Nat
  | .tcp => q.tcp
  | .udp => q.udp

def setLeft (q : Quota) (t : Transport) (n : Nat) : Quota :=
  match t with
  | .tcp => { q with tcp := some n }
  | .udp => { q with udp := some n }

instance : Courier Quota where
  send q target _ :=
    match q.left target.transport with
    | none => (q, .ok ())
    | some 0 => (q, .error .declined)
    | some (n + 1) => (q.setLeft target.transport n, .ok ())
  forget q _ := q

end Quota

end RackRemote

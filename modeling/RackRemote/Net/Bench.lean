import RackRemote.Net.Sockets
/-!
# A bench for sockets

Controllers on the same machine, each with a place to listen, which accept streams, abort them, or
go away for good. `Bench.step` lets sockets send to them and says what arrived where. On a machine
without a route to itself nothing arrives.
-/

namespace RackRemote

/-- A controller on the bench. -/
structure Slot where
  listening : Bool := true
  /-- The numbers of the streams it has accepted, the oldest first. -/
  accepted : List Nat := []
deriving DecidableEq, Repr

structure Loopback where
  routed : Bool := true
  slots : List Slot := []
  /-- The streams that their controller has aborted. -/
  aborted : List Nat := []
deriving DecidableEq, Repr

namespace Loopback

/-- The address of a slot: 127.0.0.1 with the slot's number as the port. -/
def address (slot : Nat) : SocketAddress := ⟨.v4 0x7f000001, slot.toUInt16⟩

def slotOf (a : SocketAddress) : Nat := a.port.toNat

/-- The longest datagram that a socket takes. -/
def maxDatagram : Nat := 65535

/-- The longest datagram that still fits into a packet of the network with its headers. -/
def maxPayload : Nat := 65507

/-- A slot aborts all its streams; unless it stays open, it goes away for good. -/
def abort (n : Loopback) (slot : Nat) (stays : Bool) : Loopback :=
  { n with
    aborted := n.aborted ++ (n.slots[slot]?).elim [] Slot.accepted
    slots := n.slots.modify slot fun s => { s with listening := s.listening && stays } }

def isListening (n : Loopback) (slot : Nat) : Bool := (n.slots[slot]?).elim false Slot.listening

instance : Network Loopback where
  connect n id a :=
    if !n.routed then (n, .error .networkUnreachable)
    else if !n.isListening (slotOf a) then (n, .error .connectionRefused)
    else
      let accept := fun s : Slot => { s with accepted := s.accepted ++ [id] }
      ({ n with slots := n.slots.modify (slotOf a) accept }, .ok ())
  write n id _ := if n.aborted.contains id then (n, some (0, .connectionReset)) else (n, none)
  datagram n _ bytes :=
    if maxDatagram < bytes.length then (n, .error .messageTooLong)
    else if !n.routed then (n, .error .networkUnreachable)
    else if maxPayload < bytes.length then (n, .error .messageTooLong)
    else (n, .ok ())

end Loopback

namespace Bench

inductive Step where
  /-- One more controller listens. -/
  | listen
  | send (t : Transport) (slot : Nat) (message : Osc.Message)
  | forget (t : Transport) (slot : Nat)
  | reset (slot : Nat)
  | close (slot : Nat)

inductive Answer where
  | listening (slot : Nat)
  /-- A frame arrived on the stream that its controller accepted as the `connection`-th. -/
  | frame (connection : Nat) (bytes : List UInt8)
  | datagram (bytes : List UInt8)
  | done
  | failed (error : IoError)
deriving DecidableEq, Repr

/-- Takes a step. -/
def step (s : Sockets Loopback) : Step → Sockets Loopback × Answer
  | .listen =>
    let slots := s.network.slots
    ({ s with network := { s.network with slots := slots ++ [{}] } }, .listening slots.length)
  | .send t slot message =>
    let a := Loopback.address slot
    match Courier.send s ⟨t, a⟩ message with
    | (s, .error e) => (s, .failed e)
    | (s, .ok ()) =>
      match t with
      | .udp => (s, if s.network.isListening slot then .datagram message.encode else .done)
      | .tcp =>
        let accepted := (s.network.slots[slot]?).elim [] Slot.accepted
        (s, .frame ((s.open? a).elim 0 accepted.idxOf) (Osc.frame message.encode))
  | .forget t slot => (Courier.forget s ⟨t, Loopback.address slot⟩, .done)
  | .reset slot => ({ s with network := s.network.abort slot true }, .done)
  | .close slot => ({ s with network := s.network.abort slot false }, .done)

/-- Takes steps in order. -/
def run (s : Sockets Loopback) : List Step → List Answer
  | [] => []
  | st :: steps =>
    let (s, answer) := step s st
    answer :: run s steps

end Bench

end RackRemote

import RackRemote.Net.Courier
import RackRemote.Osc.Encoder
import RackRemote.Osc.Frame
/-!
# Sockets

A courier over a network. Datagrams go out as they are. On TCP there is one open stream per address;
a message is written on it as a frame, and a stream on which a write fails is not used again. The
network decides what comes of each attempt, and every stream keeps what was written on it.
-/

namespace RackRemote

class Network (ν : Type) where
  /-- Opens the stream with a given number and makes it ready for writing. -/
  connect : ν → Nat → SocketAddress → ν × Except IoError Unit
  /-- Writes bytes on a stream; a failure says how many went out before it. -/
  write : ν → Nat → List UInt8 → ν × Option (Nat × IoError)
  datagram : ν → SocketAddress → List UInt8 → ν × Except IoError Unit

/-- A stream to a controller, with the bytes that were written on it. -/
structure Stream where
  peer : SocketAddress
  written : List UInt8 := []
deriving DecidableEq, Repr

structure Sockets (ν : Type) where
  network : ν
  /-- All streams that were ever opened; a stream's place is its number. -/
  streams : List Stream := []
  /-- The number of the open stream to each address. -/
  current : List (SocketAddress × Nat) := []

namespace Sockets

variable {ν : Type}

/-- The number of the open stream to an address. -/
def open? (s : Sockets ν) (a : SocketAddress) : Option Nat := s.current.lookup a

/-- Gives up the open stream to an address. -/
def drop (s : Sockets ν) (a : SocketAddress) : Sockets ν :=
  { s with current := s.current.filter (·.1 != a) }

/-- Enters bytes as written on a stream. -/
def enter (s : Sockets ν) (id : Nat) (bytes : List UInt8) : Sockets ν :=
  { s with streams := s.streams.modify id fun st => { st with written := st.written ++ bytes } }

variable [Network ν]

/-- The open stream to an address; if there is none, a new one. -/
def ensure (s : Sockets ν) (a : SocketAddress) : Sockets ν × Except IoError Nat :=
  match s.open? a with
  | some id => (s, .ok id)
  | none =>
    let id := s.streams.length
    match Network.connect s.network id a with
    | (network, .ok ()) =>
      let streams := s.streams ++ [{ peer := a }]
      ({ network, streams, current := (a, id) :: s.current }, .ok id)
    | (network, .error e) => ({ s with network }, .error e)

/-- Writes bytes on a stream. What went out before a failure stays written. -/
def write (s : Sockets ν) (id : Nat) (bytes : List UInt8) : Sockets ν × Except IoError Unit :=
  match Network.write s.network id bytes with
  | (network, none) => ({ s with network }.enter id bytes, .ok ())
  | (network, some (count, e)) => ({ s with network }.enter id (bytes.take count), .error e)

/-- Writes a packet behind its length. The packet is not begun if its length did not go out. -/
def writeFrame (s : Sockets ν) (id : Nat) (packet : List UInt8) :
    Sockets ν × Except IoError Unit :=
  match s.write id (Osc.bigEndian 4 packet.length) with
  | (s, .ok ()) => s.write id packet
  | (s, .error e) => (s, .error e)

/-- Writes a packet on the stream to an address, and gives this stream up if that fails. -/
def writeOrDrop (s : Sockets ν) (a : SocketAddress) (id : Nat) (packet : List UInt8) :
    Sockets ν × Except IoError Unit :=
  match s.writeFrame id packet with
  | (s, .ok ()) => (s, .ok ())
  | (s, .error e) => (s.drop a, .error e)

/-- Sends a packet on the open stream to an address or a new one. -/
def sendStream (s : Sockets ν) (a : SocketAddress) (packet : List UInt8) :
    Sockets ν × Except IoError Unit :=
  match s.ensure a with
  | (s, .ok id) => s.writeOrDrop a id packet
  | (s, .error e) => (s, .error e)

/-- Sends a packet by itself. -/
def sendDatagram (s : Sockets ν) (a : SocketAddress) (packet : List UInt8) :
    Sockets ν × Except IoError Unit :=
  let (network, outcome) := Network.datagram s.network a packet
  ({ s with network }, outcome)

instance : Courier (Sockets ν) where
  send s target message :=
    match target.transport with
    | .tcp => s.sendStream target.address message.encode
    | .udp => s.sendDatagram target.address message.encode
  forget s target :=
    match target.transport with
    | .tcp => s.drop target.address
    | .udp => s

end Sockets

end RackRemote

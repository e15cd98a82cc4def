import RackRemote.Host.Decision
import RackRemote.Host.Registration
import RackRemote.Osc.Frame
/-!
# Handling what arrives

A message is decided on and then carried out; if either fails, the journal gets one warning. The
messages of a bundle are handled from left to right. A stream is cut into frames, and a frame that
is no packet is passed over with a warning.
-/

namespace RackRemote

namespace Host

variable {κ : Type} [Courier κ]

/-- Carries out an order that came in on a transport. -/
def execute (h : Host κ) (t : Transport) : Order → Host κ × Except Refusal Unit
  | .register url => h.register t url
  | .unregister url => h.unregister t url
  | .control command request => h.ask request command.origin
  | .plugin _ key _ action => (h.act key action .external, .ok ())
  | .forward _ key method args => (h.act key (.custom method args) .external, .ok ())
  | .reserved _ _ => (h, .ok ())

/-- Handles a message. The answer is the order that was carried out. -/
def handle (h : Host κ) (t : Transport) (m : Osc.Message) : Host κ × Except Refusal Order :=
  match h.decide t m with
  | .error reason => (h.enter (.rejected reason), .error reason)
  | .ok order =>
    match h.execute t order with
    | (h, .ok ()) => (h, .ok order)
    | (h, .error reason) => (h.enter (.rejected reason), .error reason)

mutual

/-- Handles the messages of a packet, and counts those that were accepted. -/
def handlePacket (h : Host κ) (t : Transport) : Osc.Packet → Host κ × Nat
  | .message m =>
    match h.handle t m with
    | (h, .ok _) => (h, 1)
    | (h, .error _) => (h, 0)
  | .bundle _ content => handlePackets h t content

def handlePackets (h : Host κ) (t : Transport) : List Osc.Packet → Host κ × Nat
  | [] => (h, 0)
  | p :: ps =>
    let (h, n) := handlePacket h t p
    let (h, k) := handlePackets h t ps
    (h, n + k)

end

/-- Handles the bytes of a packet that arrived on a transport. -/
def receive (h : Host κ) (t : Transport) (bytes : List UInt8) : Host κ :=
  match Osc.decode bytes with
  | .ok packet => (h.handlePacket t packet).1
  | .error fault => h.enter (.undecodable t fault)

/-- Handles all that arrived on one TCP connection, and says how it ended. -/
def receiveStream (h : Host κ) (bytes : List UInt8) : Host κ × Osc.StreamEnd :=
  let (frames, stop) := Osc.split bytes
  (frames.foldl (fun h frame => h.receive .tcp frame) h, stop)

end Host

end RackRemote

import RackRemote.CommandLine
import RackRemote.Host.Reception
import RackRemote.Net.Tape
import Std.Async.DNS
import Std.Async.Signal
import Std.Async.TCP
import Std.Async.Timer
import Std.Async.UDP
import Std.Sync.Mutex
/-!
# The program

Reads a settings file, prints settings, or serves: packets that arrive on real sockets are given to
the host one after the other, and what it wants to send goes out in the order in which it asks.
-/

namespace RackRemote.Program

open Std.Async

/-- Writes a line at once, also when the output is not a terminal. -/
def say (line : String) : IO Unit := do
  IO.println line
  (← IO.getStdout).flush

/-! ## Settings -/

/-- The usual place of the settings file. -/
def usualFile : IO (Option String) := do
  let absolute := fun dir : String => dir.startsWith "/"
  let inHome := (← IO.getEnv "HOME").map (· ++ "/.config")
  let dir := ((← IO.getEnv "XDG_CONFIG_HOME").filter absolute).or inHome
  return dir.map (· ++ "/plughost/config.toml")

/-- What is found in a settings file. -/
def source : Option String → IO Settings.Source
  | none => return .missing
  | some name => do
    if name.contains '\x00' then return .missing
    match ← (IO.FS.readBinFile name).toBaseIO with
    | .ok bytes => return .file bytes.toList
    | .error (.noFileOrDirectory ..) => return .missing
    | .error (.inappropriateType _ 20 _) => return .missing
    | .error (.inappropriateType ..) => return .directory
    | .error e => return .unreadable (toString e)

/-! ## Addresses -/

/-- An address as the system takes it. -/
def systemAddress (a : SocketAddress) : Std.Net.SocketAddress :=
  match a.ip with
  | .v4 bits =>
    let octet := fun k => ((bits.toNat >>> (8 * k)) % 256).toUInt8
    .v4 ⟨.ofParts (octet 3) (octet 2) (octet 1) (octet 0), a.port⟩
  | .v6 bits =>
    let group := fun k => ((bits.toNat >>> (16 * k)) % 65536).toUInt16
    .v6 ⟨.ofParts (group 7) (group 6) (group 5) (group 4) (group 3) (group 2) (group 1) (group 0),
      a.port⟩

/-- An address as the system gives it. -/
def ipAddress : Std.Net.IPAddr → IpAddress
  | .v4 a => .v4 (.ofNat 32 (IpAddress.join 256 (a.octets.toList.map UInt8.toNat)))
  | .v6 a => .v6 (.ofNat 128 (IpAddress.join 65536 (a.segments.toList.map UInt16.toNat)))

/-- A port on all interfaces. -/
def anywhere (port : UInt16) : Std.Net.SocketAddress := .v4 ⟨.ofParts 0 0 0 0, port⟩

/-- The names of machines in the registrations of a packet. -/
def hostNames (p : Osc.Packet) : List String :=
  p.leaves.filterMap fun m =>
    match m.address, m.args with
    | "/register", .string url :: _ =>
      match OriginUrl.read url with
      | .ok origin => if (IpAddress.read? origin.host).isNone then some origin.host else none
      | .error _ => none
    | _, _ => none

/-- Asks the system about a name. -/
def lookUp (name : String) : IO (Except String IpAddress) := do
  match HostTable.empty name, name.contains '\x00' with
  | refusal, true => return refusal
  | _, false =>
    match ← (DNS.getAddrInfo name "").block.toBaseIO with
    | .ok found => return (found[0]?).elim (.error "host did not resolve") (.ok ∘ ipAddress)
    | .error e => return .error (toString e)

/-- The table of what a packet needs to know. -/
def hostTable (bytes : List UInt8) : IO HostTable := do
  match Osc.decode bytes with
  | .error _ => return HostTable.empty
  | .ok packet =>
    let known ← (hostNames packet).mapM fun name => return (name, ← lookUp name)
    return fun name => (known.lookup name).getD (HostTable.empty name)

/-! ## Sending -/

/-- A failure by its cause. The system's codes are negative numbers of 32 bits. -/
def failure (e : IO.Error) : IoError :=
  match e with
  | .noSuchThing _ code _ | .resourceVanished code _ | .resourceExhausted _ code _ =>
    match (0 - code).toNat with
    | 101 => .networkUnreachable
    | 111 => .connectionRefused
    | 104 => .connectionReset
    | 90 => .messageTooLong
    | _ => .other (toString e)
  | _ => .other (toString e)

/-- The host, and the streams that it has opened by number. -/
structure Desk where
  host : Host (Sockets Tape)
  outlet : UDP.Socket
  streams : List (Nat × TCP.Socket.Client) := []

/-- Connects within half a second. -/
def connect (client : TCP.Socket.Client) (a : SocketAddress) : Async Unit := do
  let connected ← Async.race
    (do client.connect (systemAddress a); return true)
    (do sleep 500; return false)
  unless connected do throw (IO.userError "connection timed out")

/-- Makes an attempt. -/
def Desk.make (d : Desk) : Attempt → IO Desk
  | .connect id a => do
    let client ← TCP.Socket.Client.mk
    (connect client a).block
    client.noDelay
    return { d with streams := (id, client) :: d.streams }
  | .write id bytes => do
    if let some client := d.streams.lookup id then
      (client.send ⟨bytes.toArray⟩).block
    return d
  | .datagram a bytes => do
    (d.outlet.send ⟨bytes.toArray⟩ (some (systemAddress a))).block
    return d

/-- Forgets what has been dealt with, and closes the streams that are not used any more. -/
def Desk.tidy (d : Desk) : Desk :=
  let h := d.host
  let rack := { h.rack.clearLogs with removed := [] }
  let courier := { h.courier with streams := h.courier.streams.map ({ · with written := [] }) }
  { d with
    host := { h with rack, courier, journal := [] }
    streams := d.streams.filter fun (id, _) => courier.current.any (·.2 == id) }

/-- Lets a host change, given the outcomes of its first attempts, and makes the others. -/
partial def Desk.change (d : Desk) (f : Host (Sockets Tape) → Host (Sockets Tape))
    (outcomes : List (Except IoError Unit)) : IO Desk := do
  let host := f { d.host with courier := Tape.rewind d.host.courier outcomes }
  match host.courier.network.pending with
  | some attempt =>
    match ← (d.make attempt).toBaseIO with
    | .ok d => d.change f (outcomes ++ [.ok ()])
    | .error e => d.change f (outcomes ++ [.error (failure e)])
  | none =>
    for line in host.journal.filterMap Entry.warning? do
      say ("WARN " ++ line)
    return { d with host }.tidy

/-! ## Receiving -/

/-- Gives a packet to the host. -/
def deliver (desk : Std.Mutex Desk) (t : Transport) (bytes : List UInt8) : IO Unit := do
  let names ← hostTable bytes
  desk.atomically do
    let d ← get
    let setup := { d.host.setup with names }
    set (← d.change (fun h => { h with setup }.receive t bytes) [])

/-- Takes frames from a stream until it ends. -/
def takeFrames (client : TCP.Socket.Client) (take : List UInt8 → IO Unit) :
    Async Osc.StreamEnd := do
  let mut rest : List UInt8 := []
  let mut stop : Option Osc.StreamEnd := none
  while stop.isNone do
    match ← client.recv? 65536 with
    | none => stop := some (Osc.split rest).2
    | some bytes =>
      let (frames, left) := Osc.feed rest bytes.toList
      frames.forM (m := IO) take
      rest := left
      if let .overlong size := (Osc.split rest).2 then stop := some (.overlong size)
  return stop.getD .clean

/-- Takes connections for good. -/
def serveStreams (server : TCP.Socket.Server) (take : List UInt8 → IO Unit) : Async Unit := do
  repeat
    let client ← server.accept
    let peer := toString (← client.getPeerName)
    say ("INFO TCP connection from " ++ peer)
    background (t := AsyncTask) do
      let stop ← takeFrames client take
      say ("INFO TCP connection from " ++ peer ++ ": " ++ stop.text)

/-- Takes datagrams for good. -/
def serveDatagrams (socket : UDP.Socket) (take : List UInt8 → IO Unit) : Async Unit := do
  repeat
    try
      let (bytes, _) ← socket.recv 65536
      take bytes.toList
    catch e => say ("ERROR UDP receive error: " ++ toString e)

/-- Opens a listener. The answer serves it. -/
def listen (desk : Std.Mutex Desk) (t : Transport) (port : UInt16) : IO (Async Unit) := do
  let opened := fun a : Std.Net.SocketAddress =>
    say ("INFO " ++ t.text ++ " control listener on " ++ toString a)
  match t with
  | .tcp =>
    let server ← TCP.Socket.Server.mk
    server.bind (anywhere port)
    server.listen 1024
    opened (← server.getSockName)
    return serveStreams server (deliver desk .tcp)
  | .udp =>
    let socket ← UDP.Socket.mk
    socket.bind (anywhere port)
    opened (← socket.getSockName)
    return serveDatagrams socket (deliver desk .udp)

/-- Serves until a listener fails or the user interrupts. -/
def serve (s : Settings) (host : Host (Sockets Tape)) : IO Unit := do
  let outlet ← UDP.Socket.mk
  outlet.bind (anywhere 0)
  let desk ← Std.Mutex.new { host, outlet : Desk }
  let services ← (CommandLine.ports s).mapM fun (t, port) => listen desk t port
  say ("INFO " ++ CommandLine.readyText s)
  let interrupt ← (← Signal.Waiter.mk .sigint false).wait
  let interrupted ← IO.mapTask (fun _ => say "INFO Shutting down") interrupt
  let running ← services.mapM Async.toIO
  IO.ofExcept (← IO.waitAny (interrupted :: running) (by simp))

/-- Carries out a command. -/
def run (i : CommandLine.Invocation) : IO UInt32 := do
  let file ← if i.file.isSome then pure i.file else usualFile
  match i.command.launch (← source file) ({ network := {} } : Sockets Tape) with
  | .printed text =>
    IO.print text
    return 0
  | .failed fault =>
    IO.eprintln ("Error: " ++ CommandLine.report fault)
    return 1
  | .rootless name =>
    IO.eprintln (Host.rootFault name)
    return 1
  | .serving s host =>
    match ← (serve s host).toBaseIO with
    | .ok () => return 0
    | .error e =>
      IO.eprintln ("Error: " ++ toString e)
      return 1

end RackRemote.Program

def main (args : List String) : IO UInt32 := do
  match RackRemote.CommandLine.parse args with
  | .ok invocation => RackRemote.Program.run invocation
  | .error .help =>
    IO.print RackRemote.CommandLine.helpText
    return 0
  | .error .usage =>
    IO.eprint RackRemote.CommandLine.helpText
    return 2

import RackRemote.Host.Notification
/-!
# Registration of controllers

Each transport has room for one controller, which stays until it signs off itself. A newcomer on
TCP is given a picture of the rack: the engine, the plugins, and the connections of the patchbay, for
which an engine is asked once.
-/

namespace RackRemote

/-- What a controller is told whose registration is refused. -/
def conflictNotice : String := "OSC already registered to another client"

/-- The message that tells a controller that another one is registered. -/
def Binding.conflict (b : Binding) : Osc.Message :=
  ⟨b.path ++ "/exit-error", [.string conflictNotice]⟩

/-- The events that describe the engine and the plugins. -/
def Rack.picture (r : Rack) : List Event :=
  .engineStarted r.info ::
    r.names.mapIdx fun place name => .pluginAdded place.toUInt32 name

namespace Host

variable {κ : Type} [Courier κ]

/-- Sends events to a controller until one does not get through. -/
def introduce (h : Host κ) (b : Binding) : List Event → Host κ
  | [] => h
  | e :: es =>
    match h.deliver b.target (e.message b.path) with
    | (h, .ok ()) => introduce h b es
    | (h, .error _) => h

/-- Tells the controller that a URL describes, if it describes one, that it comes too late. -/
def turnAway (h : Host κ) (t : Transport) (url : String) : Host κ :=
  match Binding.ofUrl h.setup.names t url with
  | .ok b => (h.deliver b.target b.conflict).1
  | .error _ => h

/-- Registers a controller on a transport, where an engine is asked for the connections. A connection
left over from an earlier controller at the same address is not used again. -/
def registerAsking (ask : Engine (Host κ)) (h : Host κ) (t : Transport) (url : String) :
    Host κ × Except Refusal Unit :=
  match h.binding t with
  | some current => (h.turnAway t url, .error (.alreadyRegistered t current.owner))
  | none =>
    match Binding.ofUrl h.setup.names t url with
    | .error fault => (h, .error (.invalidOrigin url fault))
    | .ok b =>
      let h := h.forget b.target
      match t with
      | .udp => (h.setBinding .udp (some b), .ok ())
      | .tcp =>
        let h := (h.introduce b h.rack.picture).setBinding .tcp (some b)
        ((ask h (.refresh h.setup.systemPorts) .internal).1, .ok ())

/-- Registers a controller on a transport, with the rack as the engine. -/
def register (h : Host κ) (t : Transport) (url : String) : Host κ × Except Refusal Unit :=
  h.registerAsking ask t url

/-- Signs a controller off, by the URL with which it registered. -/
def unregister (h : Host κ) (t : Transport) (url : String) : Host κ × Except Refusal Unit :=
  match h.binding t with
  | none => (h, .error (.notRegistered t))
  | some current =>
    if current.owner = url then ((h.forget current.target).setBinding t none, .ok ())
    else (h, .error (.ownerMismatch t current.owner url))

end Host

end RackRemote

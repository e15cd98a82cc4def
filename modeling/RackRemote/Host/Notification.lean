import RackRemote.Host.Basic
/-!
# Telling controllers about events

An event goes to one controller: to the one on UDP first if it is urgent, to the one on TCP
otherwise or after that. What a controller has asked for is not told.
-/

namespace RackRemote

/-- The transports on which an event can be told, the preferred one first. -/
def Event.channels (e : Event) : List Transport := if e.isRealtime then [.udp, .tcp] else [.tcp]

/-- What a request does to the state of an engine, and whether it is granted. -/
abbrev Engine (σ : Type) : Type := σ → Request → Origin → σ × Except Refusal Unit

namespace Host

variable {κ : Type} [Courier κ]

/-- Tells an event on the first of some transports where it gets through. If there is none, the
outcome is that of the last attempt, or the one given if there was no attempt. -/
def tell (e : Event) (h : Host κ) (outcome : Except IoError Bool) :
    List Transport → Host κ × Except IoError Bool
  | [] => (h, outcome)
  | t :: ts =>
    match h.binding t with
    | none => tell e h outcome ts
    | some b =>
      match h.deliver b.target (e.message b.path) with
      | (h, .ok ()) => (h, .ok true)
      | (h, .error failure) => tell e h (.error failure) ts

/-- Tells an event to a controller. The answer is whether there was one. -/
def notify (h : Host κ) (e : Event) : Host κ × Except IoError Bool :=
  tell e h (.ok false) e.channels

/-- Tells an event unless it comes from a controller. -/
def relay (h : Host κ) (e : Event) (origin : Origin) : Host κ :=
  match origin with
  | .external => h
  | .internal =>
    match h.notify e with
    | (h, .ok _) => h
    | (h, .error failure) => h.enter (.untold failure)

/-- Takes note of an event of the rack. -/
def publish (h : Host κ) (e : Event) (origin : Origin) : Host κ :=
  let h := h.enter (.event e origin)
  if h.setup.passesEvents then h.relay e origin else h

/-- Takes note of events in order. -/
def publishAll (h : Host κ) (events : List Event) (origin : Origin) : Host κ :=
  events.foldl (fun h e => h.publish e origin) h

/-- Has the rack act on a request. -/
def perform (h : Host κ) (request : Request) (origin : Origin) : Host κ × Except Refusal Unit :=
  match h.rack.perform request origin with
  | (rack, .ok events) => ({ h with rack }.publishAll events origin, .ok ())
  | (rack, .error fault) => ({ h with rack }, .error (.engine fault))

/-- Has the rack act on a request that comes in from outside. One that is declined never gets to the
rack and leaves no trace there. -/
def ask (h : Host κ) (request : Request) (origin : Origin) : Host κ × Except Refusal Unit :=
  match request with
  | .refresh _ =>
    if h.setup.declinesRefresh then (h, .error (.engine .refreshDeclined))
    else h.perform request origin
  | _ => h.perform request origin

/-- Has the plugin with a key act. -/
def act (h : Host κ) (key : Nat) (action : Action) (origin : Origin) : Host κ :=
  match h.rack.act key action origin with
  | (rack, some e) => { h with rack }.publish e origin
  | (rack, none) => { h with rack }

/-- Adds a plugin as the user of the host does. -/
def load (h : Host κ) (name : String) : Host κ × UInt32 :=
  let (rack, index, events) := h.rack.insert name
  ({ h with rack }.publishAll events .internal, index)

end Host

end RackRemote

import RackRemote.Rack.Plugin
import RackRemote.Rack.Request
/-!
# The rack

A rack is a list of plugins, a patchbay and the state of playback. `Rack.apply` says what a request
changes and what is reported about it; a request that is declined changes nothing, because it gives
no new rack. `Rack.perform` logs the request besides, declined or not.
-/

namespace RackRemote

/-- A connection of the patchbay. -/
structure Connection where
  id : UInt32
  ports : Ports
deriving DecidableEq, Repr

def Connection.added (c : Connection) : Event := .connectionAdded c.id c.ports.description

structure Rack where
  info : EngineInfo := {}
  plugins : List Plugin := []
  /-- Plugins that have left the rack, in the order in which they left. -/
  removed : List Plugin := []
  /-- How many plugins there have been; the key of the next one. -/
  created : Nat := 0
  /-- The place that the next plugin takes. -/
  pendingReplace : Option UInt32 := none
  connections : List Connection := []
  nextConnection : UInt32 := 1
  playing : Bool := false
  frame : UInt64 := 0
  /-- Initially 120. -/
  bpm : Binary64 := ⟨0x405e000000000000⟩
  xruns : UInt32 := 0
  canceled : Bool := false
  requests : List (Request × Origin) := []

namespace Rack

/-- How many plugins there are. -/
def count (r : Rack) : UInt32 := r.plugins.length.toUInt32

/-- The plugin at an index. -/
def at? (r : Rack) (index : UInt32) : Option Plugin := r.plugins[index.toNat]?

/-- The plugin with a key, in the rack or out of it. -/
def find? (r : Rack) (key : Nat) : Option Plugin :=
  (r.plugins ++ r.removed).find? (·.key == key)

def names (r : Rack) : List String := r.plugins.map Plugin.name

/-- Gives each plugin its place as its id. -/
def renumber (plugins : List Plugin) : List Plugin :=
  plugins.mapIdx fun place p => { p with id := place.toUInt32 }

/-- The list with the entries at two places exchanged. -/
def exchange {α : Type} (l : List α) (i j : Nat) : List α :=
  match l[i]?, l[j]? with
  | some a, some b => (l.set i b).set j a
  | _, _ => l

/-- The plugin at an index, or why there is none. -/
def demand (r : Rack) (index : UInt32) : Except RackFault Plugin :=
  match r.at? index with
  | some p => .ok p
  | none => .error (.noPlugin index)

/-- The rack with a new plugin, its index, and what is reported. The plugin takes the place that was
to be replaced, if that place is still there, and the last place otherwise. -/
def insert (r : Rack) (name : String) : Rack × UInt32 × List Event :=
  let fresh : Plugin := { key := r.created, id := 0, name }
  let r' := { r with created := r.created + 1, pendingReplace := none }
  match r.pendingReplace.bind fun index => (r.at? index).map (index, ·) with
  | some (index, old) =>
    ({ r' with
        plugins := renumber (r.plugins.set index.toNat fresh)
        removed := r.removed ++ [old] },
      index, [.pluginRemoved index, .pluginAdded index name])
  | none =>
    ({ r' with plugins := renumber (r.plugins ++ [fresh]) },
      r.count, [.pluginAdded r.count name])

/-- The rack after a request and what is reported about it, or why the request is declined. -/
def apply (r : Rack) : Request → Except RackFault (Rack × List Event)
  | .addPlugin order =>
    let (r, _, events) := r.insert order.displayName
    .ok (r, events)
  | .removePlugin index => do
    let p ← r.demand index
    return ({ r with
        plugins := renumber (r.plugins.eraseIdx index.toNat)
        removed := r.removed ++ [p] },
      [.pluginRemoved index])
  | .removeAllPlugins =>
    .ok ({ r with plugins := [], removed := r.removed ++ r.plugins },
      (List.range r.plugins.length).reverse.map fun place => .pluginRemoved place.toUInt32)
  | .renamePlugin index name => do
    let _ ← r.demand index
    return ({ r with plugins := r.plugins.modify index.toNat fun p => { p with name } },
      [.pluginRenamed index name])
  | .clonePlugin index => do
    let p ← r.demand index
    let (r, _, events) := r.insert p.name
    return (r, events)
  | .replacePlugin index => do
    let _ ← r.demand index
    return ({ r with pendingReplace := some index }, [])
  | .switchPlugins a b => do
    if a = b then throw .switchWithItself
    let _ ← r.demand a
    let _ ← r.demand b
    return ({ r with plugins := renumber (exchange r.plugins a.toNat b.toNat) }, [])
  | .connect ports =>
    let c : Connection := ⟨r.nextConnection, ports⟩
    .ok ({ r with
        connections := r.connections ++ [c]
        nextConnection := r.nextConnection + 1 },
      [c.added])
  | .disconnect id =>
    if r.connections.any (·.id == id) then
      .ok ({ r with connections := r.connections.filter (·.id != id) }, [.connectionRemoved id])
    else .error (.noConnection id)
  | .refresh _ => .ok (r, r.connections.map Connection.added)
  | .play => .ok ({ r with playing := true }, [])
  | .pause => .ok ({ r with playing := false }, [])
  | .setBpm bpm => .ok ({ r with bpm }, [])
  | .relocate frame => .ok ({ r with frame }, [])
  | .clearXruns => .ok ({ r with xruns := 0 }, [])
  | .setCanceled canceled => .ok ({ r with canceled }, [])

/-- The rack with one more request in its log. -/
def log (r : Rack) (request : Request) (origin : Origin) : Rack :=
  { r with requests := r.requests ++ [(request, origin)] }

/-- Logs a request and acts on it, if it can. -/
def perform (r : Rack) (request : Request) (origin : Origin) :
    Rack × Except RackFault (List Event) :=
  let r := r.log request origin
  match r.apply request with
  | .ok (r, events) => (r, .ok events)
  | .error fault => (r, .error fault)

/-- Changes the plugin with a key, wherever it is. -/
def modify (r : Rack) (key : Nat) (f : Plugin → Plugin) : Rack :=
  let change := fun p : Plugin => if p.key = key then f p else p
  { r with plugins := r.plugins.map change, removed := r.removed.map change }

/-- Lets the plugin with a key act, and gives what it reports. -/
def act (r : Rack) (key : Nat) (action : Action) (origin : Origin) : Rack × Option Event :=
  (r.modify key (·.log action origin), (r.find? key).bind fun p => action.event? p.id)

/-- Counts a dropout of the audio stream. -/
def countXrun (r : Rack) : Rack := { r with xruns := r.xruns + 1 }

/-- The rack with empty logs. -/
def clearLogs (r : Rack) : Rack :=
  let clear := List.map fun p : Plugin => { p with calls := [] }
  { r with requests := [], plugins := clear r.plugins, removed := clear r.removed }

end Rack

end RackRemote

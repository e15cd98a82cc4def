import Mathlib.Tactic.Common
import RackRemote.Rack.Basic

/-!
# What a rack can do

`Applied` lists, request by request, all that `Rack.apply` can do: under which condition, to which
rack it leads, and what is reported. Facts about racks are proved by cases on it.
-/

namespace RackRemote.Proofs

lemma bind_eq_ok {ε α β : Type} {x : Except ε α} {f : α → Except ε β} {b : β} :
    (x >>= f) = .ok b ↔ ∃ a, x = .ok a ∧ f a = .ok b := by
  cases x with
  | error e =>
    change Except.error e = .ok b ↔ _
    simp
  | ok a =>
    change f a = .ok b ↔ _
    simp

lemma renumber_map {β : Type} (f : Plugin → β) (hf : ∀ p id, f { p with id } = f p)
    (plugins : List Plugin) : (Rack.renumber plugins).map f = plugins.map f := by
  apply List.ext_getElem?
  intro i
  rw [Rack.renumber, List.getElem?_map, List.getElem?_mapIdx, List.getElem?_map, Option.map_map]
  exact congrArg (fun g => Option.map g plugins[i]?) (funext fun p => hf p i.toUInt32)

def fresh (r : Rack) (name : String) : Plugin := { key := r.created, id := 0, name }

/-- A new plugin in the place of another one, or in the last place. -/
inductive Inserted (r : Rack) (name : String) : Rack → UInt32 → List Event → Prop where
  | inPlace {index : UInt32} {old : Plugin} (pending : r.pendingReplace = some index)
      (occupied : r.at? index = some old) :
      Inserted r name
        { r with
          created := r.created + 1
          pendingReplace := none
          plugins := Rack.renumber (r.plugins.set index.toNat (fresh r name))
          removed := r.removed ++ [old] }
        index [.pluginRemoved index, .pluginAdded index name]
  | atEnd (vacant : ∀ index, r.pendingReplace = some index → r.at? index = none) :
      Inserted r name
        { r with
          created := r.created + 1
          pendingReplace := none
          plugins := Rack.renumber (r.plugins ++ [fresh r name]) }
        r.count [.pluginAdded r.count name]

lemma Inserted.created {r r' : Rack} {name : String} {index : UInt32} {events : List Event}
    (h : Inserted r name r' index events) : r'.created = r.created + 1 := by
  cases h with
  | inPlace => rfl
  | atEnd => rfl

lemma Inserted.requests {r r' : Rack} {name : String} {index : UInt32} {events : List Event}
    (h : Inserted r name r' index events) : r'.requests = r.requests := by
  cases h with
  | inPlace => rfl
  | atEnd => rfl

lemma inserted_insert (r : Rack) (name : String) :
    Inserted r name (r.insert name).1 (r.insert name).2.1 (r.insert name).2.2 := by
  cases hp : r.pendingReplace with
  | none =>
    simp only [Rack.insert, hp, Option.bind_none]
    exact .atEnd (by simp [hp])
  | some index =>
    cases ho : r.at? index with
    | none =>
      simp only [Rack.insert, hp, Option.bind_some, ho, Option.map_none]
      refine .atEnd fun i hi => ?_
      rw [hp] at hi
      cases hi
      exact ho
    | some old =>
      simp only [Rack.insert, hp, Option.bind_some, ho, Option.map_some]
      exact .inPlace hp ho

/-- All that a rack can do with a request. -/
inductive Applied (r : Rack) : Request → Rack → List Event → Prop where
  | addPlugin {order : PluginOrder} {r' : Rack} {index : UInt32} {events : List Event}
      (inserted : Inserted r order.displayName r' index events) :
      Applied r (.addPlugin order) r' events
  | removePlugin {index : UInt32} {p : Plugin} (occupied : r.at? index = some p) :
      Applied r (.removePlugin index)
        { r with
          plugins := Rack.renumber (r.plugins.eraseIdx index.toNat)
          removed := r.removed ++ [p] }
        [.pluginRemoved index]
  | removeAllPlugins :
      Applied r .removeAllPlugins { r with plugins := [], removed := r.removed ++ r.plugins }
        ((List.range r.plugins.length).reverse.map fun place => .pluginRemoved place.toUInt32)
  | renamePlugin {index : UInt32} {p : Plugin} (name : String) (occupied : r.at? index = some p) :
      Applied r (.renamePlugin index name)
        { r with plugins := r.plugins.modify index.toNat fun p => { p with name } }
        [.pluginRenamed index name]
  | clonePlugin {index place : UInt32} {p : Plugin} {r' : Rack} {events : List Event}
      (occupied : r.at? index = some p) (inserted : Inserted r p.name r' place events) :
      Applied r (.clonePlugin index) r' events
  | replacePlugin {index : UInt32} {p : Plugin} (occupied : r.at? index = some p) :
      Applied r (.replacePlugin index) { r with pendingReplace := some index } []
  | switchPlugins {a b : UInt32} {p q : Plugin} (different : a ≠ b)
      (first : r.at? a = some p) (second : r.at? b = some q) :
      Applied r (.switchPlugins a b)
        { r with plugins := Rack.renumber (Rack.exchange r.plugins a.toNat b.toNat) } []
  | connect (ports : Ports) :
      Applied r (.connect ports)
        { r with
          connections := r.connections ++ [⟨r.nextConnection, ports⟩]
          nextConnection := r.nextConnection + 1 }
        [Connection.added ⟨r.nextConnection, ports⟩]
  | disconnect {id : UInt32} (known : r.connections.any (·.id == id)) :
      Applied r (.disconnect id) { r with connections := r.connections.filter (·.id != id) }
        [.connectionRemoved id]
  | refresh (withSystemPorts : Bool) :
      Applied r (.refresh withSystemPorts) r (r.connections.map Connection.added)
  | play : Applied r .play { r with playing := true } []
  | pause : Applied r .pause { r with playing := false } []
  | setBpm (bpm : Binary64) : Applied r (.setBpm bpm) { r with bpm } []
  | relocate (frame : UInt64) : Applied r (.relocate frame) { r with frame } []
  | clearXruns : Applied r .clearXruns { r with xruns := 0 } []
  | setCanceled (canceled : Bool) : Applied r (.setCanceled canceled) { r with canceled } []

lemma demand_eq_ok {r : Rack} {index : UInt32} {p : Plugin} (h : r.demand index = .ok p) :
    r.at? index = some p := by
  rw [Rack.demand] at h
  split at h
  · rename_i q hq
    cases h
    exact hq
  · cases h

lemma applied_of_apply {r r' : Rack} {request : Request} {events : List Event}
    (h : r.apply request = .ok (r', events)) : Applied r request r' events := by
  cases request with
  | addPlugin order =>
    cases h
    exact .addPlugin (inserted_insert r order.displayName)
  | removePlugin index =>
    obtain ⟨p, hp, hq⟩ := bind_eq_ok.mp h
    cases hq
    exact .removePlugin (demand_eq_ok hp)
  | removeAllPlugins =>
    cases h
    exact .removeAllPlugins
  | renamePlugin index name =>
    obtain ⟨p, hp, hq⟩ := bind_eq_ok.mp h
    cases hq
    exact .renamePlugin name (demand_eq_ok hp)
  | clonePlugin index =>
    obtain ⟨p, hp, hq⟩ := bind_eq_ok.mp h
    cases hq
    exact .clonePlugin (demand_eq_ok hp) (inserted_insert r p.name)
  | replacePlugin index =>
    obtain ⟨p, hp, hq⟩ := bind_eq_ok.mp h
    cases hq
    exact .replacePlugin (demand_eq_ok hp)
  | switchPlugins a b =>
    rw [Rack.apply] at h
    by_cases hab : a = b
    · rw [if_pos hab] at h
      cases h
    · rw [if_neg hab] at h
      obtain ⟨p, hfirst, hrest⟩ := bind_eq_ok.mp h
      obtain ⟨q, hsecond, hdone⟩ := bind_eq_ok.mp hrest
      cases hdone
      exact .switchPlugins hab (demand_eq_ok hfirst) (demand_eq_ok hsecond)
  | connect ports =>
    cases h
    exact .connect ports
  | disconnect id =>
    rw [Rack.apply] at h
    split at h
    · rename_i hk
      cases h
      exact .disconnect hk
    · cases h
  | refresh withSystemPorts =>
    cases h
    exact .refresh withSystemPorts
  | play =>
    cases h
    exact .play
  | pause =>
    cases h
    exact .pause
  | setBpm bpm =>
    cases h
    exact .setBpm bpm
  | relocate frame =>
    cases h
    exact .relocate frame
  | clearXruns =>
    cases h
    exact .clearXruns
  | setCanceled canceled =>
    cases h
    exact .setCanceled canceled

lemma applied_requests {r r' : Rack} {request : Request} {events : List Event}
    (h : Applied r request r' events) : r'.requests = r.requests := by
  cases h with
  | addPlugin inserted => exact inserted.requests
  | clonePlugin _ inserted => exact inserted.requests
  | _ => rfl

/-- A request is logged in any case; it changes the rack only if it is not declined. -/
lemma perform_cases (r : Rack) (request : Request) (origin : Origin) :
    (∃ r' events, Applied (r.log request origin) request r' events ∧
        r.perform request origin = (r', .ok events)) ∨
      ∃ fault, r.perform request origin = (r.log request origin, .error fault) := by
  rw [Rack.perform]
  cases ha : (r.log request origin).apply request with
  | ok result => exact .inl ⟨result.1, result.2, applied_of_apply ha, rfl⟩
  | error fault => exact .inr ⟨fault, rfl⟩

lemma perform_requests (r : Rack) (request : Request) (origin : Origin) :
    (r.perform request origin).1.requests = r.requests ++ [(request, origin)] := by
  rcases perform_cases r request origin with ⟨r', events, ha, hp⟩ | ⟨fault, hp⟩
  · rw [hp, applied_requests ha]
    rfl
  · rw [hp]
    rfl

end RackRemote.Proofs

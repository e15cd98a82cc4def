import Mathlib.Data.List.Induction
import Mathlib.Data.List.InsertIdx
import RackRemote.Host.Registration
import RackRemote.Proofs.RackSteps

/-!
# Mirrors of a rack

A controller that knows nothing but callback messages can keep a list of the plugins' names and a
table of the connections. What a rack reports about a request takes a mirror of the rack to a mirror
of the rack afterwards; only two plugins that change places do so without a report.
-/

namespace RackRemote.Proofs

/-- What a controller can keep of a rack. -/
@[ext] structure Mirror where
  names : List String := []
  connections : UInt32 → Option String := fun _ => none

namespace Mirror

/-- What the contents of a callback message change. -/
def update (s : Mirror) (action : Int32) (id first : UInt32) (text : String) : Mirror :=
  match action.toInt with
  | 30 => {}
  | 1 => { s with names := s.names.insertIdx id.toNat text }
  | 2 => { s with names := s.names.eraseIdx id.toNat }
  | 3 => { s with names := s.names.set id.toNat text }
  | 24 => { s with connections := fun c => if c = first then some text else s.connections c }
  | 25 => { s with connections := fun c => if c = first then none else s.connections c }
  | _ => s

/-- What a message changes for a controller with a given path. -/
def hear (path : String) (s : Mirror) (m : Osc.Message) : Mirror :=
  if m.address = path ++ "/cb" then
    match m.args with
    | [.int action, .int id, .int first, .int _, .int _, .float _, .string text] =>
      s.update action id.toUInt32 first.toUInt32 text
    | _ => s
  else s

def take (s : Mirror) : Event → Mirror
  | .engineStarted _ => {}
  | .pluginAdded id name => { s with names := s.names.insertIdx id.toNat name }
  | .pluginRemoved id => { s with names := s.names.eraseIdx id.toNat }
  | .pluginRenamed id name => { s with names := s.names.set id.toNat name }
  | .connectionAdded id text =>
    { s with connections := fun c => if c = id then some text else s.connections c }
  | .connectionRemoved id =>
    { s with connections := fun c => if c = id then none else s.connections c }
  | _ => s

end Mirror

/-- Whether an event is about a plugin alone, not about the rack. -/
def ofPlugin : Event → Bool
  | .parameterChanged .. | .programChanged .. | .midiProgramChanged .. | .noteOn .. | .noteOff .. =>
    true
  | _ => false

/-! ### Messages -/

lemma hear_message (path : String) (s : Mirror) (e : Event) :
    s.hear path (e.message path) = s.take e := by
  rw [Mirror.hear, Event.message, if_pos rfl]
  cases e <;> rfl

lemma take_ofPlugin {e : Event} (he : ofPlugin e) (s : Mirror) : s.take e = s := by
  cases e with
  | parameterChanged | programChanged | midiProgramChanged | noteOn | noteOff => rfl
  | engineStarted | pluginAdded | pluginRemoved | pluginRenamed => cases he
  | connectionAdded | connectionRemoved => cases he

lemma hear_ofPlugin {e : Event} (he : ofPlugin e) (path path' : String) (s : Mirror) :
    s.hear path (e.message path') = s := by
  by_cases hpath : path' ++ "/cb" = path ++ "/cb"
  · have hsame : e.message path' = e.message path := by rw [Event.message, Event.message, hpath]
    rw [hsame, hear_message, take_ofPlugin he]
  · rw [Mirror.hear, Event.message, if_neg hpath]

/-- What newcomers are told when they come too late is no callback. -/
lemma hear_conflict (path : String) (s : Mirror) (b : Binding) : s.hear path b.conflict = s := by
  have haddress : b.path ++ "/exit-error" ≠ path ++ "/cb" := by
    intro h
    have hlast := congrArg (fun text => text.toList.getLast?) h
    simp [String.toList_append] at hlast
  rw [Mirror.hear, Binding.conflict, if_neg haddress]

/-! ### What there is to be known -/

/-- The description of a connection, the last one if ids have come round. -/
def described (connections : List Connection) (id : UInt32) : Option String :=
  (connections.reverse.find? (·.id == id)).map (·.ports.description)

/-- The mirror that shows a rack as it is. -/
def view (r : Rack) : Mirror := { names := r.names, connections := described r.connections }

/-- The ids of plugins, 32 bits wide, are enough for all that are in the rack. -/
def Counted (r : Rack) : Prop := r.plugins.length < UInt32.size

instance (r : Rack) : Decidable (Counted r) :=
  inferInstanceAs (Decidable (r.plugins.length < UInt32.size))

lemma toNat_toUInt32 {n : Nat} (hn : n < UInt32.size) : n.toUInt32.toNat = n :=
  UInt32.toNat_ofNat_of_lt hn

lemma Counted.count {r : Rack} (h : Counted r) : r.count.toNat = r.names.length := by
  rw [Rack.count, toNat_toUInt32 h, Rack.names, List.length_map]

lemma at?_names {r : Rack} {index : UInt32} {p : Plugin} (h : r.at? index = some p) :
    index.toNat < r.names.length := by
  obtain ⟨hi, _⟩ := List.getElem?_eq_some_iff.mp h
  rw [Rack.names, List.length_map]
  exact hi

/-! ### Connections -/

lemma described_append (connections : List Connection) (c : Connection) (id : UInt32) :
    described (connections ++ [c]) id =
      if id = c.id then some c.ports.description else described connections id := by
  rw [described, List.reverse_append, List.reverse_singleton, List.singleton_append]
  by_cases hid : id = c.id
  · rw [if_pos hid, List.find?_cons_of_pos (by simp [hid])]
    rfl
  · rw [if_neg hid, List.find?_cons_of_neg (by simp [Ne.symm hid])]
    rfl

lemma described_filter (connections : List Connection) (gone id : UInt32) :
    described (connections.filter (·.id != gone)) id =
      if id = gone then none else described connections id := by
  rw [described, ← List.filter_reverse, List.find?_filter]
  by_cases hid : id = gone
  · rw [if_pos hid]
    simp [hid]
  · rw [if_neg hid, described]
    congr 2
    funext c
    by_cases hc : c.id = id
    · simp [hc, hid]
    · simp [hc]

/-- Connections that are reported again take precedence over those that are known. -/
lemma foldl_added (connections : List Connection) (s : Mirror) :
    (connections.map Connection.added).foldl Mirror.take s =
      { s with connections := fun c => (described connections c).or (s.connections c) } := by
  induction connections using List.reverseRecOn with
  | nil => rfl
  | append_singleton connections c ih =>
    rw [List.map_append, List.foldl_append, ih]
    ext id : 2
    · rfl
    · change (if id = c.id then _ else _) = Option.or (described (connections ++ [c]) id) _
      rw [described_append]
      by_cases hid : id = c.id
      · rw [if_pos hid, if_pos hid]
        rfl
      · rw [if_neg hid, if_neg hid]

/-! ### Plugins -/

lemma renumber_names (plugins : List Plugin) :
    (Rack.renumber plugins).map Plugin.name = plugins.map Plugin.name :=
  renumber_map Plugin.name (fun _ _ => rfl) plugins

lemma rename_names (plugins : List Plugin) (i : Nat) (name : String) :
    (plugins.modify i fun p => { p with name }).map Plugin.name =
      (plugins.map Plugin.name).set i name := by
  apply List.ext_getElem?
  intro j
  rw [List.getElem?_map, List.getElem?_modify, List.getElem?_set, List.getElem?_map]
  by_cases hij : i = j
  · subst hij
    rw [if_pos rfl, List.length_map]
    by_cases hi : i < plugins.length
    · simp [hi]
    · simp [hi]
  · simp [hij]

lemma foldl_removed {n : Nat} (hn : n < UInt32.size) {s : Mirror} (hs : s.names.length = n) :
    ((List.range n).reverse.map fun place => Event.pluginRemoved place.toUInt32).foldl
      Mirror.take s = { s with names := [] } := by
  induction n generalizing s with
  | zero => rw [← List.eq_nil_of_length_eq_zero hs]; rfl
  | succ n ih =>
    rw [List.range_succ, List.reverse_append, List.reverse_singleton, List.singleton_append,
      List.map_cons, List.foldl_cons, ih (by omega)]
    · rfl
    · change (s.names.eraseIdx n.toUInt32.toNat).length = n
      rw [toNat_toUInt32 (by omega), List.length_eraseIdx_of_lt (by omega), hs]
      rfl

lemma foldl_picture {r : Rack} (h : Counted r) (s : Mirror) :
    r.picture.foldl Mirror.take s = { names := r.names } := by
  have hadded : ∀ names : List String, names.length < UInt32.size →
      (names.mapIdx fun place name => Event.pluginAdded place.toUInt32 name).foldl Mirror.take {} =
        { names } := by
    intro names hnames
    induction names using List.reverseRecOn with
    | nil => rfl
    | append_singleton names name ih =>
      rw [List.length_append, List.length_singleton] at hnames
      rw [List.mapIdx_concat, List.foldl_append, ih (by omega)]
      ext1
      · change names.insertIdx names.length.toUInt32.toNat name = _
        rw [toNat_toUInt32 (by omega), List.insertIdx_length_self]
      · rfl
  rw [Rack.picture, List.foldl_cons]
  apply hadded
  rw [Rack.names, List.length_map]
  exact h

/-! ### Requests -/

lemma inserted_view {r r' : Rack} {name : String} {index : UInt32} {events : List Event}
    (h : Inserted r name r' index events) (hr : Counted r) :
    events.foldl Mirror.take (view r) = view r' := by
  cases h with
  | inPlace pending occupied =>
    -- The old name goes and the new one comes, both at the same place.
    ext1
    · change (r.names.eraseIdx index.toNat).insertIdx index.toNat name =
        (Rack.renumber _).map Plugin.name
      rw [List.insertIdx_eraseIdx_self (Nat.ne_of_lt (at?_names occupied)), renumber_names, List.map_set]
      rfl
    · rfl
  | atEnd vacant =>
    ext1
    · change r.names.insertIdx r.count.toNat name = (Rack.renumber _).map Plugin.name
      rw [hr.count, List.insertIdx_length_self, renumber_names, List.map_append]
      rfl
    · rfl

/-- What is reported about a request takes the view of the rack before to that of the rack after it.
A change of places is not reported, so it must not be visible. -/
lemma applied_view {r r' : Rack} {request : Request} {events : List Event}
    (h : Applied r request r' events) (hr : Counted r)
    (hswitch : ∀ a b, request = .switchPlugins a b → r'.names = r.names) :
    events.foldl Mirror.take (view r) = view r' := by
  cases h with
  | addPlugin inserted => exact inserted_view inserted hr
  | clonePlugin _ inserted => exact inserted_view inserted hr
  | @removePlugin index _ _ =>
    ext1
    · change r.names.eraseIdx index.toNat = (Rack.renumber _).map Plugin.name
      rw [renumber_names, ← List.eraseIdx_map]
      rfl
    · rfl
  | removeAllPlugins =>
    apply foldl_removed hr
    exact List.length_map Plugin.name
  | @renamePlugin index _ name _ =>
    ext1
    · change r.names.set index.toNat name = (r.plugins.modify _ _).map Plugin.name
      rw [rename_names]
      rfl
    · rfl
  | switchPlugins _ _ _ =>
    ext1
    · exact (hswitch _ _ rfl).symm
    · rfl
  | connect ports =>
    ext id : 2
    · rfl
    · exact (described_append r.connections _ id).symm
  | disconnect _ =>
    ext id : 2
    · rfl
    · exact (described_filter r.connections _ id).symm
  | refresh _ =>
    -- What is reported again is known already.
    rw [foldl_added]
    ext id : 2
    · rfl
    · exact Option.or_self
  | _ => rfl

end RackRemote.Proofs

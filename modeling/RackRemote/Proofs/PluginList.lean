import Mathlib.Data.List.Nodup
import RackRemote.Proofs.PluginKeys
import RackRemote.Proofs.RackRuns

/-!
# The list of plugins

In the list that a rack has made of nothing, each plugin has its place as its id, and no plugin stands
at two places. Every request is an edit of this list and of nothing that the plugins carry with them;
one that is declined leaves the list alone, and a plugin that has left it does not return.
-/

namespace RackRemote.Proofs

/-- What a plugin keeps while it is moved. -/
structure Content where
  key : Nat
  name : String
  calls : List (Action × Origin)

def content (p : Plugin) : Content := ⟨p.key, p.name, p.calls⟩

def contents (plugins : List Plugin) : List Content := plugins.map content

def keys (r : Rack) : List Nat := r.plugins.map Plugin.key

/-! ### Ids -/

/-- No fewer plugins have been created, and those that had left are still away. -/
structure Later (r r' : Rack) : Prop where
  created : r.created ≤ r'.created
  removed : r.removed.map Plugin.key ⊆ r'.removed.map Plugin.key

namespace Later

lemma refl (r : Rack) : Later r r := ⟨Nat.le_refl _, List.Subset.refl _⟩

lemma trans {r r' r'' : Rack} (h : Later r r') (h' : Later r' r'') : Later r r'' :=
  ⟨Nat.le_trans h.created h'.created, List.Subset.trans h.removed h'.removed⟩

end Later

lemma Keyed.keys_nodup {r : Rack} (h : Keyed r) : (keys r).Nodup := by
  have hall := h.nodup
  rw [everyone, List.map_append] at hall
  exact hall.of_append_left

lemma Keyed.created_not_mem_keys {r : Rack} (h : Keyed r) : r.created ∉ keys r := by
  intro hmem
  obtain ⟨p, hp, hkey⟩ := List.mem_map.mp hmem
  exact h.key_ne_created (List.mem_append_left _ hp) hkey

lemma usedAll_keyed (info : EngineInfo) (uses : List Use) : Keyed (usedAll { info } uses) :=
  keptByRack_keyed.usedAll (keyed_empty info) uses

/-- A plugin has come, in the place that was to be replaced or, if there is no such place, at the
end. -/
inductive Brought (before : List Content) (pending : Option UInt32) (newcomer : Content) :
    List Content → UInt32 → List Event → Prop where
  | inPlace {index : UInt32} (asked : pending = some index) (inside : index.toNat < before.length) :
      Brought before pending newcomer (before.set index.toNat newcomer) index
        [.pluginRemoved index, .pluginAdded index newcomer.name]
  | atEnd (outside : ∀ index, pending = some index → before.length ≤ index.toNat) :
      Brought before pending newcomer (before ++ [newcomer]) before.length.toUInt32
        [.pluginAdded before.length.toUInt32 newcomer.name]

/-- What a request makes of the list of plugins. -/
def Edited (r r' : Rack) (events : List Event) : Request → Prop
  | .addPlugin order => ∃ place, Brought (contents r.plugins) r.pendingReplace
      ⟨r.created, order.displayName, []⟩ (contents r'.plugins) place events
  | .clonePlugin index => ∃ p place, r.at? index = some p ∧ Brought (contents r.plugins)
      r.pendingReplace ⟨r.created, p.name, []⟩ (contents r'.plugins) place events
  | .removePlugin index => contents r'.plugins = (contents r.plugins).eraseIdx index.toNat
  | .removeAllPlugins => contents r'.plugins = []
  | .renamePlugin index name =>
    contents r'.plugins = (contents r.plugins).modify index.toNat fun c => { c with name }
  | .switchPlugins a b => ∃ c d,
      (contents r.plugins)[a.toNat]? = some c ∧ (contents r.plugins)[b.toNat]? = some d ∧
      contents r'.plugins = ((contents r.plugins).set a.toNat d).set b.toNat c
  | _ => contents r'.plugins = contents r.plugins

/-- Whether the plugins and connections that a request speaks of are there. -/
def Possible (r : Rack) : Request → Prop
  | .removePlugin index | .renamePlugin index _ | .clonePlugin index | .replacePlugin index =>
    index.toNat < r.plugins.length
  | .switchPlugins a b => a ≠ b ∧ a.toNat < r.plugins.length ∧ b.toNat < r.plugins.length
  | .disconnect id => ∃ c ∈ r.connections, c.id = id
  | _ => True

lemma length_contents (plugins : List Plugin) : (contents plugins).length = plugins.length :=
  List.length_map content

lemma contents_getElem? (plugins : List Plugin) (i : Nat) :
    (contents plugins)[i]? = plugins[i]?.map content := List.getElem?_map

lemma contents_renumber (plugins : List Plugin) :
    contents (Rack.renumber plugins) = contents plugins :=
  renumber_map content (fun _ _ => rfl) plugins

lemma contents_set (plugins : List Plugin) (i : Nat) (p : Plugin) :
    contents (plugins.set i p) = (contents plugins).set i (content p) := List.map_set

lemma contents_append (plugins others : List Plugin) :
    contents (plugins ++ others) = contents plugins ++ contents others := List.map_append

lemma contents_eraseIdx (plugins : List Plugin) (i : Nat) :
    contents (plugins.eraseIdx i) = (contents plugins).eraseIdx i :=
  (List.eraseIdx_map content plugins i).symm

lemma contents_rename (plugins : List Plugin) (i : Nat) (name : String) :
    contents (plugins.modify i fun p => { p with name }) =
      (contents plugins).modify i fun c => { c with name } := by
  apply map_modify
  intro p
  rfl

lemma lt_of_at? {r : Rack} {index : UInt32} {p : Plugin} (h : r.at? index = some p) :
    index.toNat < r.plugins.length := by
  rw [Rack.at?] at h
  exact (List.getElem?_eq_some_iff.mp h).1

lemma at?_of_lt {r : Rack} {index : UInt32} (h : index.toNat < r.plugins.length) :
    ∃ p, r.at? index = some p := ⟨r.plugins[index.toNat], List.getElem?_eq_getElem h⟩

lemma brought_of_inserted {r r' : Rack} {name : String} {index : UInt32} {events : List Event}
    (h : Inserted r name r' index events) :
    Brought (contents r.plugins) r.pendingReplace ⟨r.created, name, []⟩ (contents r'.plugins) index
      events := by
  cases h with
  | inPlace pending occupied =>
    rw [contents_renumber, contents_set]
    refine .inPlace pending ?_
    rw [length_contents]
    exact lt_of_at? occupied
  | atEnd vacant =>
    rw [contents_renumber, contents_append, Rack.count, ← length_contents]
    refine .atEnd fun i hi => ?_
    rw [length_contents]
    exact List.getElem?_eq_none_iff.mp (vacant i hi)

lemma edited_of_applied {r r' : Rack} {request : Request} {events : List Event}
    (h : Applied r request r' events) : Edited r r' events request := by
  cases h with
  | addPlugin inserted => exact ⟨_, brought_of_inserted inserted⟩
  | clonePlugin occupied inserted => exact ⟨_, _, occupied, brought_of_inserted inserted⟩
  | removePlugin _ => exact (contents_renumber _).trans (contents_eraseIdx r.plugins _)
  | removeAllPlugins => rfl
  | renamePlugin name _ => exact contents_rename r.plugins _ name
  | @switchPlugins a b p q _ first second =>
    rw [Rack.at?] at first second
    refine ⟨content p, content q, ?_, ?_, ?_⟩
    · rw [contents_getElem?, first]
      rfl
    · rw [contents_getElem?, second]
      rfl
    · rw [contents_renumber, Rack.exchange, first, second]
      dsimp only
      rw [contents_set, contents_set]
  | _ => rfl

lemma possible_of_applied {r r' : Rack} {request : Request} {events : List Event}
    (h : Applied r request r' events) : Possible r request := by
  cases h with
  | removePlugin occupied => exact lt_of_at? occupied
  | renamePlugin _ occupied => exact lt_of_at? occupied
  | clonePlugin occupied _ => exact lt_of_at? occupied
  | replacePlugin occupied => exact lt_of_at? occupied
  | switchPlugins different first second => exact ⟨different, lt_of_at? first, lt_of_at? second⟩
  | disconnect known => simpa [Possible] using known
  | _ => trivial

lemma demand_of_lt {r : Rack} {index : UInt32} (h : index.toNat < r.plugins.length) :
    ∃ p, r.demand index = .ok p := by
  obtain ⟨p, hp⟩ := at?_of_lt h
  exact ⟨p, by rw [Rack.demand, hp]⟩

lemma apply_of_possible {r : Rack} {request : Request} (h : Possible r request) :
    ∃ result, r.apply request = .ok result := by
  cases request with
  | removePlugin index =>
    obtain ⟨p, hp⟩ := demand_of_lt h
    exact ⟨_, bind_eq_ok.mpr ⟨p, hp, rfl⟩⟩
  | renamePlugin index name =>
    obtain ⟨p, hp⟩ := demand_of_lt h
    exact ⟨_, bind_eq_ok.mpr ⟨p, hp, rfl⟩⟩
  | clonePlugin index =>
    obtain ⟨p, hp⟩ := demand_of_lt h
    exact ⟨_, bind_eq_ok.mpr ⟨p, hp, rfl⟩⟩
  | replacePlugin index =>
    obtain ⟨p, hp⟩ := demand_of_lt h
    exact ⟨_, bind_eq_ok.mpr ⟨p, hp, rfl⟩⟩
  | switchPlugins a b =>
    obtain ⟨hab, ha, hb⟩ := h
    obtain ⟨p, hp⟩ := demand_of_lt ha
    obtain ⟨q, hq⟩ := demand_of_lt hb
    rw [Rack.apply, if_neg hab]
    exact ⟨_, bind_eq_ok.mpr ⟨p, hp, bind_eq_ok.mpr ⟨q, hq, rfl⟩⟩⟩
  | disconnect id =>
    have hany : r.connections.any (·.id == id) := by simpa [Possible] using h
    rw [Rack.apply, if_pos hany]
    exact ⟨_, rfl⟩
  | _ => exact ⟨_, rfl⟩

lemma perform_ok_iff (r : Rack) (request : Request) (origin : Origin) :
    (∃ events, (r.perform request origin).2 = .ok events) ↔ Possible r request := by
  constructor
  · rintro ⟨events, hok⟩
    rcases perform_cases r request origin with ⟨r', _, ha, _⟩ | ⟨fault, hp⟩
    · have hpossible := possible_of_applied ha
      cases request <;> exact hpossible
    · rw [hp] at hok
      cases hok
  · intro h
    have hlog : Possible (r.log request origin) request := by
      cases request <;> exact h
    obtain ⟨result, ha⟩ := apply_of_possible hlog
    rw [Rack.perform, ha]
    exact ⟨result.2, rfl⟩

lemma perform_edited {r : Rack} {request : Request} {origin : Origin} {events : List Event}
    (hok : (r.perform request origin).2 = .ok events) :
    Edited r (r.perform request origin).1 events request := by
  rcases perform_cases r request origin with ⟨r', reported, ha, hp⟩ | ⟨fault, hp⟩
  · rw [hp] at hok ⊢
    cases hok
    have hedited := edited_of_applied ha
    cases request <;> exact hedited
  · rw [hp] at hok
    cases hok

end RackRemote.Proofs

import RackRemote.Proofs.PluginList

/-!
# The place that the next plugin takes

A request to replace a plugin is kept as an index until the next plugin comes. Edits of the list in
between move plugins under this index, so the newcomer takes the place of the plugin that stands there
when it comes. This is the plugin that was meant only as long as that one still stands there.
-/

namespace RackRemote.Proofs

/-! ### From the request to the newcomer -/

/-- A use that brings no plugin and is no further request to replace one. -/
def Waits (r : Rack) : Use → Prop
  | .load _ | .request (.addPlugin _) _ => False
  | .request (.clonePlugin index) _ | .request (.replacePlugin index) _ => r.at? index = none
  | _ => True

def WaitsAll : Rack → List Use → Prop
  | _, [] => True
  | r, u :: uses => Waits r u ∧ WaitsAll (used r u) uses

/-- The name of the plugin that a use brings from outside. -/
def newcomer? : Use → Option String
  | .load name => some name
  | .request (.addPlugin order) _ => some order.displayName
  | _ => none

lemma applied_pending {r r' : Rack} {request : Request} {origin : Origin} {events : List Event}
    (h : Applied r request r' events) (hwait : Waits r (.request request origin)) :
    r'.pendingReplace = r.pendingReplace := by
  cases h with
  | addPlugin => exact absurd hwait id
  | clonePlugin occupied _ =>
    rw [Waits, occupied] at hwait
    cases hwait
  | replacePlugin occupied =>
    rw [Waits, occupied] at hwait
    cases hwait
  | _ => rfl

lemma waits_log {r : Rack} {request : Request} {origin : Origin}
    (hwait : Waits r (.request request origin)) :
    Waits (r.log request origin) (.request request origin) := by
  cases request <;> exact hwait

lemma used_pending {r : Rack} {u : Use} (hwait : Waits r u) :
    (used r u).pendingReplace = r.pendingReplace := by
  cases u with
  | load name => exact absurd hwait id
  | act key action origin => rfl
  | xrun => rfl
  | request request origin =>
    rw [used]
    rcases perform_cases r request origin with ⟨r', events, ha, hp⟩ | ⟨fault, hp⟩
    · have hkept := applied_pending ha (waits_log hwait)
      rw [hp]
      exact hkept
    · rw [hp]
      rfl

lemma usedAll_pending {r : Rack} {uses : List Use} (hwait : WaitsAll r uses) :
    (usedAll r uses).pendingReplace = r.pendingReplace := by
  induction uses generalizing r with
  | nil => rfl
  | cons u uses ih =>
    obtain ⟨hu, huses⟩ := hwait
    rw [usedAll_cons, ih huses, used_pending hu]

lemma replace_pending {r : Rack} {index : UInt32} {p : Plugin} (hp : r.at? index = some p)
    (origin : Origin) :
    (used r (.request (.replacePlugin index) origin)).pendingReplace = some index := by
  rcases perform_cases r (.replacePlugin index) origin with ⟨r', events, ha, hq⟩ | ⟨fault, hq⟩
  · rw [used, hq]
    cases ha
    rfl
  · have hpossible : Possible r (.replacePlugin index) := lt_of_at? hp
    obtain ⟨events, hok⟩ := (perform_ok_iff r _ origin).mpr hpossible
    rw [hq] at hok
    cases hok

/-! ### The newcomer -/

lemma brought_of_newcomer {r : Rack} {u : Use} {name : String} (hu : newcomer? u = some name) :
    ∃ place events, Brought (contents r.plugins) r.pendingReplace ⟨r.created, name, []⟩
      (contents (used r u).plugins) place events := by
  cases u with
  | load _ =>
    cases hu
    exact ⟨_, _, brought_of_inserted (inserted_insert r name)⟩
  | act key action origin => cases hu
  | xrun => cases hu
  | request request origin =>
    cases request with
    | addPlugin order =>
      cases hu
      have hinserted := inserted_insert (r.log (.addPlugin order) origin) order.displayName
      have hbrought := brought_of_inserted hinserted
      exact ⟨_, _, hbrought⟩
    | _ => cases hu

/-- The place at which the next newcomer drives a plugin out. -/
def takenPlace? (r : Rack) : Option Nat :=
  r.pendingReplace.bind fun index =>
    if index.toNat < r.plugins.length then some index.toNat else none

lemma takenPlace?_of_pending {r : Rack} {index : UInt32} (h : r.pendingReplace = some index) :
    takenPlace? r = if index.toNat < r.plugins.length then some index.toNat else none := by
  rw [takenPlace?, h, Option.bind_some]

/-- A list with a newcomer in a given place, or at the end. -/
def joined {α : Type} (l : List α) (newcomer : α) : Option Nat → List α
  | some place => l.set place newcomer
  | none => l ++ [newcomer]

lemma brought_joined {r : Rack} {newcomer : Content} {after : List Content} {place : UInt32}
    {events : List Event}
    (h : Brought (contents r.plugins) r.pendingReplace newcomer after place events) :
    after = joined (contents r.plugins) newcomer (takenPlace? r) := by
  cases h with
  | inPlace asked inside =>
    rw [length_contents] at inside
    rw [takenPlace?_of_pending asked, if_pos inside]
    rfl
  | atEnd outside =>
    have hplace : takenPlace? r = none := by
      cases hpending : r.pendingReplace with
      | none => rw [takenPlace?, hpending, Option.bind_none]
      | some index =>
        have hout := outside index hpending
        rw [length_contents] at hout
        rw [takenPlace?_of_pending hpending, if_neg (Nat.not_lt.mpr hout)]
    rw [hplace]
    rfl

/-- The list of plugins when one has come for which an index was kept. -/
lemma contents_of_newcomer {r : Rack} {index : UInt32} (hpending : r.pendingReplace = some index)
    {u : Use} {name : String} (hu : newcomer? u = some name) :
    contents (used r u).plugins =
      if index.toNat < r.plugins.length then
        (contents r.plugins).set index.toNat ⟨r.created, name, []⟩
      else contents r.plugins ++ [⟨r.created, name, []⟩] := by
  obtain ⟨place, events, hbrought⟩ := brought_of_newcomer (r := r) hu
  rw [brought_joined hbrought, takenPlace?_of_pending hpending]
  split
  · rfl
  · rfl

lemma keys_eq (r : Rack) : keys r = (contents r.plugins).map Content.key := by
  rw [keys, contents, List.map_map]
  rfl

lemma keys_of_newcomer {r : Rack} {index : UInt32} (hpending : r.pendingReplace = some index)
    {u : Use} {name : String} (hu : newcomer? u = some name) :
    keys (used r u) =
      if index.toNat < (keys r).length then (keys r).set index.toNat r.created
      else keys r ++ [r.created] := by
  have hlength : (keys r).length = r.plugins.length := List.length_map _
  rw [keys_eq, contents_of_newcomer hpending hu, hlength]
  split
  · rw [List.map_set, ← keys_eq]
  · rw [List.map_append, ← keys_eq]
    rfl

/-! ### The plugin that was meant -/

/-- The keys of the plugins when a newcomer has taken the place of one of them, or the last place if
that one is not there. -/
def takeOver (keys : List Nat) (meant newcomer : Nat) : List Nat :=
  if meant ∈ keys then keys.set (keys.idxOf meant) newcomer else keys ++ [newcomer]

section Aim

variable {l : List Nat} {newcomer : Nat} (hnew : newcomer ∉ l)
include hnew

lemma set_eq_set_iff {i j : Nat} (hj : j < l.length) :
    l.set i newcomer = l.set j newcomer ↔ i = j := by
  constructor
  · intro h
    by_contra hij
    have hat : (l.set i newcomer)[j]? = (l.set j newcomer)[j]? := by rw [h]
    rw [List.getElem?_set_ne hij, List.getElem?_set_self hj] at hat
    exact hnew (List.mem_of_getElem? hat)
  · rintro rfl
    rfl

/-- An index leads to the plugin that was meant if it is the index of this plugin, or of none if this
plugin is not there. -/
lemma place_eq_takeOver_iff (hnodup : l.Nodup) (meant i : Nat) :
    (if i < l.length then l.set i newcomer else l ++ [newcomer]) = takeOver l meant newcomer ↔
      if meant ∈ l then l[i]? = some meant else l[i]? = none := by
  by_cases hmem : meant ∈ l
  · have hj : l.idxOf meant < l.length := List.idxOf_lt_length_of_mem hmem
    rw [takeOver, if_pos hmem, if_pos hmem]
    by_cases hi : i < l.length
    · rw [if_pos hi, set_eq_set_iff hnew hj, List.getElem?_eq_getElem hi, Option.some_inj]
      constructor
      · rintro rfl
        exact List.getElem_idxOf hj
      · intro hat
        rw [← hat, hnodup.idxOf_getElem i hi]
    · rw [if_neg hi, List.getElem?_eq_none (Nat.not_lt.mp hi)]
      constructor
      · -- One list has grown, the other has not.
        intro h
        have hlength := congrArg List.length h
        rw [List.length_append, List.length_set] at hlength
        simp at hlength
      · intro h
        cases h
  · rw [takeOver, if_neg hmem, if_neg hmem, List.getElem?_eq_none_iff]
    by_cases hi : i < l.length
    · rw [if_pos hi]
      constructor
      · intro h
        have hlength := congrArg List.length h
        rw [List.length_append, List.length_set] at hlength
        simp at hlength
      · intro h
        omega
    · rw [if_neg hi]
      exact iff_of_true rfl (Nat.not_lt.mp hi)

end Aim

/-- The newcomer takes the place with the index that was kept, or the last one if there is no such
place any more. This is as it was meant when, and only when, the plugin that was to be replaced is
still there and has the same index, or is not there and no other plugin has its index. -/
theorem newcomer_takes_index (info : EngineInfo) {before between : List Use} {origin : Origin}
    {index : UInt32} {p : Plugin} (hp : (usedAll { info } before).at? index = some p)
    (hwait : WaitsAll
      (used (usedAll { info } before) (.request (.replacePlugin index) origin)) between)
    {u : Use} {name : String} (hu : newcomer? u = some name) :
    let r := usedAll { info } (before ++ .request (.replacePlugin index) origin :: between)
    (contents (used r u).plugins =
      if index.toNat < r.plugins.length then
        (contents r.plugins).set index.toNat ⟨r.created, name, []⟩
      else contents r.plugins ++ [⟨r.created, name, []⟩]) ∧
    (keys (used r u) = takeOver (keys r) p.key r.created ↔
      if p.key ∈ keys r then (r.at? index).map Plugin.key = some p.key else r.at? index = none) := by
  intro r
  have hr : r = usedAll
      (used (usedAll { info } before) (.request (.replacePlugin index) origin)) between :=
    usedAll_append _ before _
  have hpending : r.pendingReplace = some index := by
    rw [hr, usedAll_pending hwait, replace_pending hp]
  have hkeyed : Keyed r := usedAll_keyed info _
  refine ⟨contents_of_newcomer hpending hu, ?_⟩
  have hkey : (keys r)[index.toNat]? = (r.at? index).map Plugin.key := List.getElem?_map
  rw [keys_of_newcomer hpending hu,
    place_eq_takeOver_iff hkeyed.created_not_mem_keys hkeyed.keys_nodup, hkey,
    Option.map_eq_none_iff]

theorem newcomer_takes_index_renamed :
    let before := [Use.load "Bass", .load "Treble", .load "Drums"]
    let between := [Use.request (.renamePlugin 1 "Lead") .external, .request (.removePlugin 7) .external]
    let r := usedAll { info := {} } (before ++ .request (.replacePlugin 1) .external :: between)
    (usedAll { info := {} } before).at? 1 = some ⟨1, 1, "Treble", []⟩ ∧
      keys (used r (.load "Organ")) = takeOver (keys r) 1 r.created ∧
      keys (used r (.load "Organ")) = [0, 3, 2] := by
  intro before between r
  have hp : (usedAll { info := {} } before).at? 1 = some ⟨1, 1, "Treble", []⟩ := rfl
  have hwait : WaitsAll (used (usedAll { info := {} } before)
      (.request (.replacePlugin 1) .external)) between := ⟨trivial, trivial, trivial⟩
  obtain ⟨_, haim⟩ := newcomer_takes_index {} hp hwait (u := .load "Organ") rfl
  exact ⟨hp, haim.mpr (by decide), by decide⟩

/-- The first of three plugins is to be replaced and is then removed. The newcomer does not come after
the other two; it takes the place of one of them. -/
theorem newcomer_ousts_bystander :
    let start := usedAll { info := {} } [.load "Bass", .load "Treble", .load "Drums"]
    let asked := used start (.request (.replacePlugin 0) .internal)
    let r := used asked (.request (.removePlugin 0) .internal)
    start.at? 0 = some ⟨0, 0, "Bass", []⟩ ∧
      WaitsAll asked [.request (.removePlugin 0) .internal] ∧
      keys r = [1, 2] ∧ takeOver (keys r) 0 r.created = [1, 2, 3] ∧
      keys (used r (.load "Organ")) = [3, 2] :=
  ⟨rfl, ⟨trivial, trivial⟩, by decide, by decide, by decide⟩

end RackRemote.Proofs

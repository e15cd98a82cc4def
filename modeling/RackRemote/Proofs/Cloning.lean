import RackRemote.Proofs.PendingReplace

/-!
# Cloning

A copy of a plugin comes into the rack as any other newcomer does: it takes the place that was to be
replaced, if there is one, and so costs the plugin that stands there. It comes after all the others if
no such place is kept, above all if nobody has asked for a replacement.
-/

namespace RackRemote.Proofs

/-! ### Nobody has asked for a replacement -/

def Use.asksReplacement : Use → Bool
  | .request (.replacePlugin _) _ => true
  | _ => false

lemma inserted_pending {r r' : Rack} {name : String} {index : UInt32} {events : List Event}
    (h : Inserted r name r' index events) : r'.pendingReplace = none := by
  cases h with
  | inPlace => rfl
  | atEnd => rfl

lemma used_nothing_pending {r : Rack} (hr : r.pendingReplace = none) {u : Use}
    (hu : u.asksReplacement = false) : (used r u).pendingReplace = none := by
  cases u with
  | load name => exact inserted_pending (inserted_insert r name)
  | act key action origin => exact hr
  | xrun => exact hr
  | request request origin =>
    rw [used]
    rcases perform_cases r request origin with ⟨r', events, ha, hp⟩ | ⟨fault, hp⟩
    · rw [hp]
      cases ha with
      | addPlugin inserted => exact inserted_pending inserted
      | clonePlugin _ inserted => exact inserted_pending inserted
      | replacePlugin => cases hu
      | _ => exact hr
    · rw [hp]
      exact hr

lemma usedAll_nothing_pending {r : Rack} (hr : r.pendingReplace = none) {uses : List Use}
    (huses : ∀ u ∈ uses, u.asksReplacement = false) : (usedAll r uses).pendingReplace = none := by
  induction uses generalizing r with
  | nil => exact hr
  | cons u uses ih =>
    rw [List.forall_mem_cons] at huses
    exact ih (used_nothing_pending hr huses.1) huses.2

/-! ### The copy -/

lemma joined_eq_append_iff {α : Type} {l : List α} {newcomer : α} {place? : Option Nat} :
    joined l newcomer place? = l ++ [newcomer] ↔ place? = none := by
  cases place? with
  | none => exact iff_of_true rfl rfl
  | some place =>
    -- A place that is taken leaves the list as long as it was.
    refine iff_of_false (fun h => ?_) nofun
    have hlength := congrArg List.length h
    simp [joined] at hlength

lemma perform_clone_missing {r : Rack} {index : UInt32} (h : r.plugins.length ≤ index.toNat)
    (origin : Origin) :
    r.perform (.clonePlugin index) origin =
      (r.log (.clonePlugin index) origin, .error (.noPlugin index)) := by
  have hat : (r.log (.clonePlugin index) origin).at? index = none := List.getElem?_eq_none h
  have hdemand : (r.log (.clonePlugin index) origin).demand index = .error (.noPlugin index) := by
    rw [Rack.demand, hat]
  rw [Rack.perform, Rack.apply, hdemand]
  rfl

/-- A plugin that is in the rack can always be cloned. The copy is a plugin that there has never been,
with the name of the one that was cloned, and takes the place that was to be replaced. So all the others
stay where they are, followed by the copy, exactly if no such place is kept, as when nobody has asked for
a replacement. A plugin that is not there cannot be cloned, and the attempt changes nothing. -/
theorem copy_takes_pending_place (info : EngineInfo) (uses : List Use) (index : UInt32)
    (origin : Origin) :
    let r := usedAll { info } uses
    let r' := (r.perform (.clonePlugin index) origin).1
    let answer := (r.perform (.clonePlugin index) origin).2
    (index.toNat < r.plugins.length → ∃ p events,
      r.at? index = some p ∧ answer = .ok events ∧
      r.created ∉ (everyone r).map Plugin.key ∧
      contents r'.plugins = joined (contents r.plugins) ⟨r.created, p.name, []⟩ (takenPlace? r) ∧
      (contents r'.plugins = contents r.plugins ++ [⟨r.created, p.name, []⟩] ↔
        takenPlace? r = none)) ∧
    (r.plugins.length ≤ index.toNat →
      answer = .error (.noPlugin index) ∧ r' = r.log (.clonePlugin index) origin) ∧
    ((∀ u ∈ uses, u.asksReplacement = false) → takenPlace? r = none) := by
  intro r r' answer
  have hkeyed : Keyed r := usedAll_keyed info uses
  refine ⟨fun hin => ?_, fun hout => ?_, fun huses => ?_⟩
  · obtain ⟨events, hok⟩ := (perform_ok_iff r (.clonePlugin index) origin).mpr hin
    obtain ⟨p, place, hp, hbrought⟩ := perform_edited hok
    have hjoined := brought_joined hbrought
    refine ⟨p, events, hp, hok, fun hmem => ?_, hjoined, ?_⟩
    · obtain ⟨q, hq, hkey⟩ := List.mem_map.mp hmem
      exact hkeyed.key_ne_created hq hkey
    · rw [show contents r'.plugins = _ from hjoined, joined_eq_append_iff]
  · have hmissing := perform_clone_missing hout origin
    exact ⟨congrArg Prod.snd hmissing, congrArg Prod.fst hmissing⟩
  · have hnone : r.pendingReplace = none := usedAll_nothing_pending rfl huses
    rw [takenPlace?, hnone]
    rfl

/-- A place was to be replaced and is gone, so the copy comes last. -/
theorem copy_takes_pending_place_vacant :
    let uses : List Use := [.load "Bass", .load "Treble", .request (.replacePlugin 1) .external,
      .request (.removePlugin 1) .internal]
    let r := usedAll { info := {} } uses
    let r' := (r.perform (.clonePlugin 0) .external).1
    r.pendingReplace = some 1 ∧ keys r = [0] ∧ r'.names = ["Bass", "Bass"] ∧ keys r' = [0, 2] := by
  intro uses r r'
  have hin : (0 : UInt32).toNat < r.plugins.length := by decide
  obtain ⟨p, events, hp, -, -, -, hcopy⟩ := (copy_takes_pending_place {} uses 0 .external).1 hin
  have hcontents : contents r'.plugins = contents r.plugins ++ [⟨2, "Bass", []⟩] := by
    cases hp
    exact hcopy.mpr (by decide)
  refine ⟨rfl, by decide, ?_, ?_⟩
  · exact congrArg (List.map Content.name) hcontents
  · exact congrArg (List.map Content.key) hcontents

/-- The first of two plugins is to be replaced, and the second is cloned. The first one is lost. -/
theorem copy_ousts_bystander :
    let r := usedAll { info := {} }
      [.load "Bass", .load "Treble", .request (.replacePlugin 0) .external]
    let r' := (r.perform (.clonePlugin 1) .external).1
    r.names = ["Bass", "Treble"] ∧ r'.names = ["Treble", "Treble"] ∧
      keys r = [0, 1] ∧ keys r' = [2, 1] ∧ keys r' ≠ keys r ++ [r.created] :=
  ⟨rfl, rfl, by decide, by decide, by decide⟩

end RackRemote.Proofs

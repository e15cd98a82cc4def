import RackRemote.Proofs.Mirror
import RackRemote.Proofs.RackRuns

/-!
# Ids of connections

The connections of a patchbay are numbered in the order in which they are made, and the table holds
those that have not been removed. As long as the counter has not come round, an id therefore stands
for one connection, whether it is still there or not: it is removed by this id alone, and is reported
again as it was when it was made.
-/

namespace RackRemote.Proofs

/-! ### What a use does to the patchbay -/

/-- The connection that a use makes. -/
def made (r : Rack) : Use → List Connection
  | .request (.connect ports) _ => [⟨r.nextConnection, ports⟩]
  | _ => []

/-- All that can happen to the patchbay at once. -/
inductive Rewired (r r' : Rack) : List Connection → Prop where
  | same (connections : r'.connections = r.connections)
      (next : r'.nextConnection = r.nextConnection) : Rewired r r' []
  | grown {ports : Ports} (connections : r'.connections = r.connections ++ [⟨r.nextConnection, ports⟩])
      (next : r'.nextConnection = r.nextConnection + 1) : Rewired r r' [⟨r.nextConnection, ports⟩]
  | cut {id : UInt32} (connections : r'.connections = r.connections.filter (·.id != id))
      (next : r'.nextConnection = r.nextConnection) : Rewired r r' []

lemma rewired_inserted {r r' : Rack} {name : String} {index : UInt32} {events : List Event}
    (h : Inserted r name r' index events) : Rewired r r' [] := by
  cases h with
  | inPlace => exact .same rfl rfl
  | atEnd => exact .same rfl rfl

lemma rewired_applied {r r' : Rack} {request : Request} {events : List Event}
    (h : Applied r request r' events) (origin : Origin) :
    Rewired r r' (made r (.request request origin)) := by
  cases h with
  | addPlugin inserted => exact rewired_inserted inserted
  | clonePlugin _ inserted => exact rewired_inserted inserted
  | connect ports => exact .grown rfl rfl
  | disconnect known => exact .cut rfl rfl
  | _ => exact .same rfl rfl

/-- The log of requests is no part of the patchbay. -/
lemma Rewired.of_log {r r' : Rack} {request : Request} {origin : Origin} {new : List Connection}
    (h : Rewired (r.log request origin) r' new) : Rewired r r' new := by
  cases h with
  | same connections next => exact .same connections next
  | grown connections next => exact .grown connections next
  | cut connections next => exact .cut connections next

lemma rewired_used (r : Rack) (u : Use) : Rewired r (used r u) (made r u) := by
  cases u with
  | load name => exact rewired_inserted (inserted_insert r name)
  | act key action origin => exact .same rfl rfl
  | xrun => exact .same rfl rfl
  | request request origin =>
    rw [used]
    rcases perform_cases r request origin with ⟨r', events, ha, hp⟩ | ⟨fault, hp⟩
    · have hlog := rewired_applied ha origin
      rw [hp]
      exact hlog.of_log
    · rw [hp]
      cases request with
      | connect ports =>
        -- A connection is never refused.
        have hanswer : Except.ok _ = Except.error fault := congrArg Prod.snd hp
        cases hanswer
      | _ => exact .same rfl rfl

/-! ### All connections there have been -/

/-- The table of a patchbay and all connections that have ever been made. -/
structure Wired (r : Rack) (all : List Connection) : Prop where
  ids : all.map Connection.id = (List.range' 1 all.length).map Nat.toUInt32
  next : r.nextConnection = (all.length + 1).toUInt32
  live : r.connections.Sublist all

lemma wired_empty (info : EngineInfo) : Wired { info } [] := ⟨rfl, rfl, List.Sublist.refl []⟩

lemma Wired.step {r r' : Rack} {all new : List Connection} (h : Wired r all)
    (hstep : Rewired r r' new) : Wired r' (all ++ new) := by
  cases hstep with
  | same connections next =>
    rw [List.append_nil]
    exact ⟨h.ids, next.trans h.next, connections ▸ h.live⟩
  | cut connections next =>
    rw [List.append_nil]
    exact ⟨h.ids, next.trans h.next, connections ▸ List.filter_sublist.trans h.live⟩
  | grown connections next =>
    -- The new connection takes the number that follows those of all earlier ones.
    refine ⟨?_, ?_, connections ▸ h.live.append_right _⟩
    · rw [List.map_append, List.length_append, List.length_singleton, List.range'_concat,
        List.map_append, h.ids, List.map_singleton, List.map_singleton, h.next, Nat.one_mul,
        Nat.add_comm 1]
    · rw [next, h.next, List.length_append, List.length_singleton]
      exact (UInt32.ofNat_add _ 1).symm

/-- The connections that a run makes, in order. -/
def allMade : Rack → List Use → List Connection
  | _, [] => []
  | r, u :: uses => made r u ++ allMade (used r u) uses

lemma Wired.usedAll {r : Rack} {all : List Connection} (h : Wired r all) (uses : List Use) :
    Wired (usedAll r uses) (all ++ allMade r uses) := by
  induction uses generalizing r all with
  | nil =>
    rw [allMade, List.append_nil]
    exact h
  | cons u uses ih =>
    rw [allMade, ← List.append_assoc]
    exact ih (h.step (rewired_used r u))

/-! ### Calls and reports -/

def asksConnection : Request → Bool
  | .connect _ => true
  | _ => false

def Use.connects : Use → Bool
  | .request asked _ => asksConnection asked
  | _ => false

/-- What a rack reports when it is used. -/
def reports (r : Rack) : Use → List Event
  | .request request origin =>
    match (r.perform request origin).2 with
    | .ok events => events
    | .error _ => []
  | .load name => (r.insert name).2.2
  | .act key action origin => (r.act key action origin).2.toList
  | .xrun => []

/-- What is reported in a run when connections are made. -/
def announcements : Rack → List Use → List Event
  | _, [] => []
  | r, u :: uses => (if u.connects then reports r u else []) ++ announcements (used r u) uses

lemma reports_connects (r : Rack) (u : Use) :
    (if u.connects then reports r u else []) = (made r u).map Connection.added := by
  cases u with
  | request request origin => cases request <;> rfl
  | _ => rfl

lemma announcements_eq (r : Rack) (uses : List Use) :
    announcements r uses = (allMade r uses).map Connection.added := by
  induction uses generalizing r with
  | nil => rfl
  | cons u uses ih => rw [announcements, allMade, List.map_append, reports_connects, ih]

lemma length_made (r : Rack) (u : Use) : (made r u).length = if u.connects then 1 else 0 := by
  cases u with
  | request request origin => cases request <;> rfl
  | _ => rfl

lemma length_allMade (r : Rack) (uses : List Use) :
    (allMade r uses).length = uses.countP Use.connects := by
  induction uses generalizing r with
  | nil => rfl
  | cons u uses ih => rw [allMade, List.length_append, length_made, ih, List.countP_cons, Nat.add_comm]

/-- How many times the log of a rack says that a connection was to be made. -/
def connectCalls (r : Rack) : Nat := r.requests.countP fun call => asksConnection call.1

lemma connectCalls_used (r : Rack) (u : Use) :
    connectCalls (used r u) = connectCalls r + if u.connects then 1 else 0 := by
  cases u with
  | request request origin =>
    rw [connectCalls, used, perform_requests, List.countP_append, List.countP_singleton]
    rfl
  | load name => rw [connectCalls, used, (inserted_insert r name).requests]; rfl
  | act key action origin => rfl
  | xrun => rfl

lemma connectCalls_usedAll (r : Rack) (uses : List Use) :
    connectCalls (usedAll r uses) = connectCalls r + uses.countP Use.connects := by
  induction uses generalizing r with
  | nil => rfl
  | cons u uses ih =>
    rw [usedAll_cons, ih, connectCalls_used, List.countP_cons, Nat.add_assoc,
      Nat.add_comm _ (uses.countP _)]

/-! ### Ids that identify -/

/-- What comes of a request to remove the connection with an id: this connection leaves the table, or
there is none with this id. -/
inductive Disconnects (r : Rack) (id : UInt32) (origin : Origin) :
    Rack × Except RackFault (List Event) → Prop where
  | removed {before after : List Connection} {ports : Ports}
      (table : r.connections = before ++ ⟨id, ports⟩ :: after) :
      Disconnects r id origin
        ({ r.log (.disconnect id) origin with connections := before ++ after },
          .ok [.connectionRemoved id])
  | unknown (missing : ∀ c ∈ r.connections, c.id ≠ id) :
      Disconnects r id origin (r.log (.disconnect id) origin, .error (.noConnection id))

/-- Each of the connections that have ever been made is known by its id. -/
structure Identified (r : Rack) (all : List Connection) : Prop where
  /-- A connection that was made later has a larger id, so no id was given twice. -/
  increasing : (all.map Connection.id).Pairwise (· < ·)
  /-- The next one will have a larger id still. -/
  below : ∀ c ∈ all, c.id < r.nextConnection
  /-- The table holds some of them as they were made, in the same order. -/
  live : r.connections.Sublist all
  table : (r.connections.map Connection.id).Pairwise (· < ·)
  disconnects : ∀ id origin, Disconnects r id origin (r.perform (.disconnect id) origin)
  /-- Those in the table are reported again, and that is all. -/
  refreshes : ∀ withSystemPorts origin, r.perform (.refresh withSystemPorts) origin =
    (r.log (.refresh withSystemPorts) origin, .ok (r.connections.map Connection.added))

lemma filter_id {connections before after : List Connection} {id : UInt32} {ports : Ports}
    (h : (connections.map Connection.id).Nodup)
    (hsplit : connections = before ++ ⟨id, ports⟩ :: after) :
    connections.filter (·.id != id) = before ++ after := by
  rw [hsplit, List.map_append, List.map_cons, List.nodup_append, List.nodup_cons] at h
  obtain ⟨_, ⟨hafter, _⟩, hbefore⟩ := h
  have hkept : ∀ l : List Connection, (∀ c ∈ l, c.id ≠ id) → l.filter (·.id != id) = l :=
    fun l hl => List.filter_eq_self.mpr fun c hc => bne_iff_ne.mpr (hl c hc)
  rw [hsplit, List.filter_append, List.filter_cons_of_neg (by simp), hkept before, hkept after]
  · exact fun c hc hid => hafter (List.mem_map.mpr ⟨c, hc, hid⟩)
  · exact fun c hc hid => hbefore c.id (List.mem_map_of_mem hc) id List.mem_cons_self hid

lemma perform_disconnect (r : Rack) (id : UInt32) (origin : Origin) :
    r.perform (.disconnect id) origin =
      if r.connections.any (·.id == id) then
        ({ r.log (.disconnect id) origin with connections := r.connections.filter (·.id != id) },
          .ok [.connectionRemoved id])
      else (r.log (.disconnect id) origin, .error (.noConnection id)) := by
  rw [Rack.perform, Rack.apply]
  by_cases hknown : r.connections.any (·.id == id)
  · have hlog : (r.log (.disconnect id) origin).connections.any (·.id == id) := hknown
    rw [if_pos hknown, if_pos hlog]
    rfl
  · have hlog : ¬(r.log (.disconnect id) origin).connections.any (·.id == id) := hknown
    rw [if_neg hknown, if_neg hlog]

lemma disconnects_perform {r : Rack} (h : (r.connections.map Connection.id).Nodup) (id : UInt32)
    (origin : Origin) : Disconnects r id origin (r.perform (.disconnect id) origin) := by
  rw [perform_disconnect]
  split
  · rename_i hknown
    obtain ⟨⟨_, ports⟩, hc, hid⟩ := List.any_eq_true.mp hknown
    obtain rfl := beq_iff_eq.mp hid
    obtain ⟨before, after, hsplit⟩ := List.append_of_mem hc
    rw [filter_id h hsplit]
    exact .removed hsplit
  · rename_i hunknown
    refine .unknown fun c hc hid => hunknown ?_
    exact List.any_eq_true.mpr ⟨c, hc, beq_iff_eq.mpr hid⟩

lemma Wired.identified {r : Rack} {all : List Connection} (h : Wired r all)
    (hfew : all.length ≤ UInt32.size - 2) : Identified r all := by
  have hbound : all.length + 1 < UInt32.size := by
    have hsize : UInt32.size = 4294967296 := rfl
    omega
  -- Up to this bound no number is cut when it becomes an id, so the ids are ordered as the numbers are.
  have hids : ∀ i ∈ List.range' 1 all.length, i.toUInt32.toNat = i ∧ i < all.length + 1 := by
    intro i hi
    obtain ⟨_, hlt⟩ := List.mem_range'_1.mp hi
    exact ⟨toNat_toUInt32 (by omega), by omega⟩
  have hincreasing : (all.map Connection.id).Pairwise (· < ·) := by
    rw [h.ids, List.pairwise_map]
    refine (List.pairwise_lt_range' 1).imp_of_mem fun {i j} hi hj hij => ?_
    rw [UInt32.lt_iff_toNat_lt, (hids i hi).1, (hids j hj).1]
    exact hij
  have htable := hincreasing.sublist (h.live.map Connection.id)
  refine ⟨hincreasing, fun c hc => ?_, h.live, htable, ?_, fun _ _ => rfl⟩
  · have hid : c.id ∈ (List.range' 1 all.length).map Nat.toUInt32 :=
      h.ids ▸ List.mem_map_of_mem hc
    obtain ⟨i, hi, hic⟩ := List.mem_map.mp hid
    rw [← hic, h.next, UInt32.lt_iff_toNat_lt, (hids i hi).1, toNat_toUInt32 hbound]
    exact (hids i hi).2
  · exact disconnects_perform (htable.imp fun hlt => UInt32.ne_of_lt hlt)

/-- In a run of a rack that makes no more connections than there are ids, one for the next one left
over, a later connection has a larger id, whether earlier ones are still there or not. Its id removes a
connection and no other, and the connections in the table are reported as they were when they were
made. The rack of a host goes through such a run, in which as many connections are made as its log
says. -/
theorem ids_identify_connections (info : EngineInfo) :
    (∀ uses : List Use, uses.countP Use.connects ≤ UInt32.size - 2 →
      ∃ all, announcements { info } uses = all.map Connection.added ∧
        Identified (usedAll { info } uses) all) ∧
    ∀ {κ : Type} [Courier κ] {setup : Setup} {courier : κ} {h : Host κ},
      Host.start? setup { info } courier = some h → ∀ moves : List Move,
        ∃ uses, (run h moves).rack = usedAll { info } uses ∧
          connectCalls (run h moves).rack = uses.countP Use.connects := by
  refine ⟨fun uses hfew => ⟨allMade { info } uses, announcements_eq _ uses, ?_⟩, ?_⟩
  · rw [← length_allMade { info } uses] at hfew
    exact ((wired_empty info).usedAll uses).identified hfew
  · intro κ _ setup courier h hs moves
    obtain ⟨uses, huses⟩ := run_rack h moves
    obtain rfl := start?_eq_some hs
    refine ⟨uses, huses, ?_⟩
    rw [huses, connectCalls_usedAll]
    exact Nat.zero_add _

/-- Two plugins are connected again after their connection has been removed. The old id is not used
again, and removes nothing. -/
theorem ids_identify_connections_again :
    let ports : Ports := ⟨3, 0, 4, 0⟩
    let uses : List Use := [.request (.connect ⟨1, 0, 2, 0⟩) .external,
      .request (.connect ports) .internal, .request (.disconnect 2) .external,
      .request (.connect ports) .external]
    let r := usedAll { info := {} } uses
    uses.countP Use.connects = 3 ∧ r.connections = [⟨1, ⟨1, 0, 2, 0⟩⟩, ⟨3, ports⟩] ∧
      (r.connections.map Connection.id).Pairwise (· < ·) ∧
      (r.perform (.disconnect 2) .internal).2 = .error (.noConnection 2) := by
  intro ports uses r
  have hfew : uses.countP Use.connects ≤ UInt32.size - 2 := by decide
  obtain ⟨all, -, hidentified⟩ := (ids_identify_connections {}).1 uses hfew
  refine ⟨by decide, by decide, hidentified.table, ?_⟩
  have hgone : ∀ c ∈ r.connections, c.id ≠ 2 := by decide
  have hanswer := hidentified.disconnects 2 .internal
  change Disconnects r 2 .internal _ at hanswer
  generalize r.perform (.disconnect 2) .internal = result at hanswer ⊢
  cases hanswer with
  | removed table =>
    rw [table] at hgone
    exact absurd rfl (hgone _ (List.mem_append_right _ List.mem_cons_self))
  | unknown missing => rfl

end RackRemote.Proofs

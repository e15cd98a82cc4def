import RackRemote.Proofs.Desk
import RackRemote.Session

/-!
# Runs of a host

A move is the least that can happen to a host from outside: one message arrives, the desk, the rack,
a plugin or the notifier is used directly. A run is a list of moves. Packets, streams and the steps
of a session are runs, so what every move preserves holds after whatever happens to a host.
-/

namespace RackRemote.Proofs

inductive Move where
  | message (t : Transport) (m : Osc.Message)
  /-- Bytes arrive that are no packet. -/
  | garbage (t : Transport) (fault : Osc.DecodeFault)
  | register (t : Transport) (url : String)
  | unregister (t : Transport) (url : String)
  /-- The rack is used by somebody else than a controller. -/
  | request (request : Request) (origin : Origin)
  | load (name : String)
  /-- A plugin is used through a handle, whether it is still in the rack or not. -/
  | act (key : Nat) (action : Action) (origin : Origin)
  | xrun
  | notify (e : Event)
  | relay (e : Event) (origin : Origin)

variable {κ : Type}

lemma start?_eq_some {setup : Setup} {rack : Rack} {courier : κ} {h : Host κ}
    (hs : Host.start? setup rack courier = some h) : h = { setup, rack, courier } := by
  rw [Host.start?] at hs
  split at hs
  · cases hs
    rfl
  · cases hs

variable [Courier κ]

/-- The host after a move. -/
def move (h : Host κ) : Move → Host κ
  | .message t m => (h.handle t m).1
  | .garbage t fault => h.enter (.undecodable t fault)
  | .register t url => (h.register t url).1
  | .unregister t url => (h.unregister t url).1
  | .request request origin => (h.perform request origin).1
  | .load name => (h.load name).1
  | .act key action origin => h.act key action origin
  | .xrun => { h with rack := h.rack.countXrun }
  | .notify e => (h.notify e).1
  | .relay e origin => h.relay e origin

/-- The host after moves in order. -/
def run (h : Host κ) (moves : List Move) : Host κ := moves.foldl move h

@[simp] lemma run_nil (h : Host κ) : run h [] = h := rfl

@[simp] lemma run_cons (h : Host κ) (m : Move) (moves : List Move) :
    run h (m :: moves) = run (move h m) moves := rfl

lemma run_append (h : Host κ) (first second : List Move) :
    run h (first ++ second) = run (run h first) second := List.foldl_append

lemma run_induction (P : Host κ → Prop) (step : ∀ h m, P h → P (move h m)) {h : Host κ} (hP : P h)
    (moves : List Move) : P (run h moves) := by
  induction moves generalizing h with
  | nil => exact hP
  | cons m moves ih => exact ih (step h m hP)

/-! ### The setup -/

lemma handle_setup (h : Host κ) (t : Transport) (m : Osc.Message) :
    (h.handle t m).1.setup = h.setup := by
  have ha := (alike_handle h t m).setup
  cases hd : h.decide t m with
  | error reason =>
    rw [hd] at ha
    exact ha
  | ok order =>
    rw [hd] at ha
    refine ha.trans ?_
    cases order with
    | register url => exact register_setup h t url
    | unregister url => exact unregister_setup h t url
    | control command request => exact (alike_ask h request command.origin).setup
    | plugin index key command action => exact (alike_act h key action .external).setup
    | forward index key method args => exact (alike_act h key (.custom method args) .external).setup
    | reserved index command => rfl

lemma move_setup (h : Host κ) (m : Move) : (move h m).setup = h.setup := by
  cases m with
  | message t m => exact handle_setup h t m
  | garbage t fault => rfl
  | register t url => exact register_setup h t url
  | unregister t url => exact unregister_setup h t url
  | request request origin => exact (alike_perform h request origin).setup
  | load name => exact (alike_load h name).setup
  | act key action origin => exact (alike_act h key action origin).setup
  | xrun => rfl
  | notify e => exact (alike_notify h e).setup
  | relay e origin => exact (alike_relay h e origin).setup

lemma run_setup (h : Host κ) (moves : List Move) : (run h moves).setup = h.setup := by
  apply run_induction (fun h' => h'.setup = h.setup)
  · intro h' m hsetup
    rw [move_setup, hsetup]
  · rfl

lemma started_setup {setup : Setup} {rack : Rack} {courier : κ} {h : Host κ}
    (hs : Host.start? setup rack courier = some h) (moves : List Move) :
    (run h moves).setup = setup := by
  rw [run_setup, start?_eq_some hs]

/-! ### The rack -/

/-- What its four operations keep. -/
structure KeptByRack (P : Rack → Prop) : Prop where
  perform : ∀ r request origin, P r → P (r.perform request origin).1
  insert : ∀ r name, P r → P (r.insert name).1
  act : ∀ r key action origin, P r → P (r.act key action origin).1
  countXrun : ∀ r, P r → P r.countXrun

namespace KeptByRack

variable {P : Rack → Prop} (kept : KeptByRack P)
include kept

lemma ask (h : Host κ) (request : Request) (origin : Origin) (hP : P h.rack) :
    P (h.ask request origin).1.rack := by
  have hperform : P (h.perform request origin).1.rack := by
    rw [(alike_perform h request origin).rack]
    exact kept.perform h.rack request origin hP
  cases request with
  | refresh withSystemPorts =>
    rw [Host.ask]
    split
    · exact hP
    · exact hperform
  | _ => exact hperform

lemma register (h : Host κ) (t : Transport) (url : String) (hP : P h.rack) :
    P (h.register t url).1.rack := by
  cases hb : h.binding t with
  | some current =>
    rw [register_occupied hb, (alike_turnAway h t url).rack]
    exact hP
  | none =>
    cases hu : Binding.ofUrl h.setup.names t url with
    | error fault =>
      rw [register_nobody hb hu]
      exact hP
    | ok b =>
      cases t with
      | udp =>
        rw [register_udp hb hu]
        exact hP
      | tcp =>
        rw [register_tcp hb hu]
        apply kept.ask
        rw [(alike_welcomed h b).rack]
        exact hP

lemma actHost (h : Host κ) (key : Nat) (action : Action) (origin : Origin) (hP : P h.rack) :
    P (h.act key action origin).rack := by
  rw [(alike_act h key action origin).rack]
  exact kept.act h.rack key action origin hP

lemma execute (h : Host κ) (t : Transport) (order : Order) (hP : P h.rack) :
    P (h.execute t order).1.rack := by
  cases order with
  | register url => exact kept.register h t url hP
  | unregister url =>
    rw [Host.execute, unregister_rack]
    exact hP
  | control command request => exact kept.ask h request command.origin hP
  | plugin index key command action => exact kept.actHost h key action .external hP
  | forward index key method args => exact kept.actHost h key (.custom method args) .external hP
  | reserved index command => exact hP

lemma handle (h : Host κ) (t : Transport) (m : Osc.Message) (hP : P h.rack) :
    P (h.handle t m).1.rack := by
  rw [(alike_handle h t m).rack]
  cases h.decide t m with
  | ok order => exact kept.execute h t order hP
  | error reason => exact hP

/-- What the operations of a rack keep, every move of its host keeps. -/
lemma move (h : Host κ) (m : Move) (hP : P h.rack) : P (move h m).rack := by
  cases m with
  | message t m => exact kept.handle h t m hP
  | garbage t fault => exact hP
  | register t url => exact kept.register h t url hP
  | unregister t url =>
    rw [Proofs.move, unregister_rack]
    exact hP
  | request request origin =>
    rw [Proofs.move, (alike_perform h request origin).rack]
    exact kept.perform h.rack request origin hP
  | load name =>
    rw [Proofs.move, (alike_load h name).rack]
    exact kept.insert h.rack name hP
  | act key action origin => exact kept.actHost h key action origin hP
  | xrun => exact kept.countXrun h.rack hP
  | notify e =>
    rw [Proofs.move, (alike_notify h e).rack]
    exact hP
  | relay e origin =>
    rw [Proofs.move, (alike_relay h e origin).rack]
    exact hP

lemma run {h : Host κ} (hP : P h.rack) (moves : List Move) : P (run h moves).rack :=
  run_induction (fun h => P h.rack) (fun h m => kept.move h m) hP moves

end KeptByRack

/-! ### What arrives on a transport -/

mutual

/-- The messages of a packet are moves, from left to right. -/
theorem handlePacket_run (t : Transport) (h : Host κ) (p : Osc.Packet) :
    (h.handlePacket t p).1 = run h (p.leaves.map (Move.message t)) := by
  cases p with
  | message m =>
    rw [Host.handlePacket, Osc.Packet.leaves]
    change _ = (h.handle t m).1
    split
    · rename_i h' _ hm
      rw [hm]
    · rename_i h' _ hm
      rw [hm]
  | bundle _ content =>
    rw [Host.handlePacket, Osc.Packet.leaves]
    exact handlePackets_run t h content

theorem handlePackets_run (t : Transport) (h : Host κ) (ps : List Osc.Packet) :
    (h.handlePackets t ps).1 = run h ((Osc.Packet.leavesOfAll ps).map (Move.message t)) := by
  cases ps with
  | nil => simp [Host.handlePackets, Osc.Packet.leavesOfAll]
  | cons p ps =>
    rw [Host.handlePackets, Osc.Packet.leavesOfAll, List.map_append, run_append,
      ← handlePacket_run t h p]
    exact handlePackets_run t _ ps

end

def arrivals (t : Transport) (bytes : List UInt8) : List Move :=
  match Osc.decode bytes with
  | .ok packet => packet.leaves.map (Move.message t)
  | .error fault => [.garbage t fault]

lemma receive_run (t : Transport) (bytes : List UInt8) (h : Host κ) :
    h.receive t bytes = run h (arrivals t bytes) := by
  cases hd : Osc.decode bytes with
  | ok packet =>
    simp only [Host.receive, arrivals, hd]
    exact handlePacket_run t h packet
  | error fault =>
    simp only [Host.receive, arrivals, hd]
    rfl

lemma receiveStream_run (bytes : List UInt8) (h : Host κ) :
    (h.receiveStream bytes).1 = run h ((Osc.split bytes).1.flatMap (arrivals .tcp)) := by
  change (Osc.split bytes).1.foldl (fun h frame => h.receive .tcp frame) h = _
  induction (Osc.split bytes).1 generalizing h with
  | nil => rfl
  | cons frame frames ih =>
    rw [List.foldl_cons, ih, List.flatMap_cons, run_append, receive_run]

/-! ### Sessions -/

def stepMoves (s : Session κ) : Step → List Move
  | .message t m => [.message t m]
  | .packet t p => p.leaves.map (Move.message t)
  | .stream bytes =>
    if s.listeners.tcp then (Osc.split bytes).1.flatMap (arrivals .tcp) else []
  | .datagram bytes => if s.listeners.udp then arrivals .udp bytes else []
  | .load name => [.load name]
  | .xrun => [.xrun]
  | .register t url => [.register t url]
  | .unregister t url => [.unregister t url]
  | .notify e => [.notify e]
  | .relay e origin => [.relay e origin]
  | .rack request origin => [.request request origin]
  | .plugin ref (.act action origin) =>
    ((s.find? ref).map fun p => Move.act p.key action origin).toList
  | .hold _ | .plugin _ _ => []

/-- A session can only do to its host what moves do. -/
theorem session_step_run {s s' : Session κ} {st : Step} {answer : Answer}
    (hs : s.step st = .ok (s', answer)) : s'.host = run s.host (stepMoves s st) := by
  cases st with
  | message t m => cases hs; rfl
  | packet t p => cases hs; exact handlePacket_run t s.host p
  | stream bytes =>
    rw [stepMoves]
    by_cases htcp : s.listeners.tcp = true
    · by_cases hrouted : s.listeners.routed = true
      · simp only [Session.step, htcp, hrouted] at hs
        cases hs
        rw [if_pos htcp]
        exact receiveStream_run bytes s.host
      · simp [Session.step, htcp, hrouted, throw, throwThe, MonadExceptOf.throw] at hs
    · simp only [Session.step, htcp] at hs
      cases hs
      rw [if_neg htcp]
      rfl
  | datagram bytes =>
    rw [stepMoves]
    by_cases hudp : s.listeners.udp = true
    · by_cases hrouted : s.listeners.routed = true
      · simp only [Session.step, hudp, hrouted] at hs
        cases hs
        rw [if_pos hudp]
        exact receive_run .udp bytes s.host
      · simp [Session.step, hudp, hrouted, throw, throwThe, MonadExceptOf.throw] at hs
    · simp only [Session.step, hudp] at hs
      cases hs
      rw [if_neg hudp]
      rfl
  | load name => cases hs; rfl
  | xrun => cases hs; rfl
  | hold index =>
    rw [Session.step] at hs
    split at hs <;> cases hs <;> rfl
  | register t url => cases hs; rfl
  | unregister t url => cases hs; rfl
  | notify e => cases hs; rfl
  | relay e origin => cases hs; rfl
  | rack request origin => cases hs; rfl
  | plugin ref inquiry =>
    cases hfind : s.find? ref with
    | none =>
      simp only [Session.step, hfind] at hs
      cases hs
      cases inquiry <;> simp [stepMoves, hfind]
    | some p =>
      cases inquiry with
      | act action origin =>
        simp only [Session.step, hfind] at hs
        cases hs
        simp only [stepMoves, hfind]
        rfl
      | id => simp only [Session.step, hfind] at hs; cases hs; rfl
      | name => simp only [Session.step, hfind] at hs; cases hs; rfl

end RackRemote.Proofs

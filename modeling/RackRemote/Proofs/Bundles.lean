import RackRemote.Proofs.Moves
import RackRemote.Proofs.Rejection

/-!
# Bundles

A packet does what its messages do, handled one after the other from left to right. How they are
bundled and what the time tags say makes no difference, and neither does a refused message to those
before and after it.
-/

namespace RackRemote.Proofs

variable {κ : Type} [Courier κ]

/-- The host after messages that arrived on a transport one after the other. -/
def inTurn (t : Transport) (h : Host κ) (ms : List Osc.Message) : Host κ :=
  ms.foldl (fun h m => (h.handle t m).1) h

/-- What becomes of each of these messages. -/
def outcomes (t : Transport) : Host κ → List Osc.Message → List (Except Refusal Order)
  | _, [] => []
  | h, m :: ms => (h.handle t m).2 :: outcomes t (h.handle t m).1 ms

/-- How many of these messages are accepted. -/
def accepted (t : Transport) (h : Host κ) (ms : List Osc.Message) : Nat :=
  (outcomes t h ms).countP Except.isOk

section InTurn

variable (t : Transport) (h : Host κ)

lemma inTurn_append (early late : List Osc.Message) :
    inTurn t h (early ++ late) = inTurn t (inTurn t h early) late := List.foldl_append

lemma outcomes_append (early late : List Osc.Message) :
    outcomes t h (early ++ late) = outcomes t h early ++ outcomes t (inTurn t h early) late := by
  induction early generalizing h with
  | nil => rfl
  | cons m early ih => exact congrArg (List.cons _) (ih (h.handle t m).1)

lemma accepted_append (early late : List Osc.Message) :
    accepted t h (early ++ late) = accepted t h early + accepted t (inTurn t h early) late := by
  rw [accepted, outcomes_append, List.countP_append]
  rfl

lemma accepted_cons (m : Osc.Message) (ms : List Osc.Message) :
    accepted t h (m :: ms) =
      (if (h.handle t m).2.isOk then 1 else 0) + accepted t (h.handle t m).1 ms := by
  rw [accepted, outcomes, List.countP_cons, Nat.add_comm]
  rfl

lemma run_messages (ms : List Osc.Message) : run h (ms.map (Move.message t)) = inTurn t h ms := by
  rw [run, List.foldl_map]
  rfl

end InTurn

/-! ### Counting -/

mutual

theorem handlePacket_count (t : Transport) (h : Host κ) (p : Osc.Packet) :
    (h.handlePacket t p).2 = accepted t h p.leaves := by
  cases p with
  | message m =>
    rw [Host.handlePacket, Osc.Packet.leaves, accepted_cons]
    obtain ⟨h', outcome⟩ := h.handle t m
    cases outcome <;> rfl
  | bundle _ content =>
    rw [Host.handlePacket, Osc.Packet.leaves]
    exact handlePackets_count t h content

theorem handlePackets_count (t : Transport) (h : Host κ) (ps : List Osc.Packet) :
    (h.handlePackets t ps).2 = accepted t h (Osc.Packet.leavesOfAll ps) := by
  cases ps with
  | nil =>
    rw [Host.handlePackets, Osc.Packet.leavesOfAll]
    rfl
  | cons p ps =>
    rw [Host.handlePackets, Osc.Packet.leavesOfAll, accepted_append]
    dsimp only
    rw [handlePacket_count t h p, handlePackets_count t (h.handlePacket t p).1 ps,
      handlePacket_run, run_messages]

end

lemma handlePacket_eq (t : Transport) (h : Host κ) (p : Osc.Packet) :
    h.handlePacket t p = (inTurn t h p.leaves, accepted t h p.leaves) := by
  refine Prod.ext ?_ (handlePacket_count t h p)
  rw [handlePacket_run, run_messages]

/-- A packet has the effect of its messages one by one, depth first and from left to right, and counts
those that are accepted. Packets with the same messages have the same effect, whatever their bundles
and time tags. A message in the middle is handled where those before it have left off and those after
it go on from there; if it is refused, they find the host as it was before, but for the traces of the
refusal. -/
theorem packet_is_its_messages (h : Host κ) (t : Transport) (p : Osc.Packet) :
    (∀ m, (Osc.Packet.message m).leaves = [m]) ∧
    (∀ time content, (Osc.Packet.bundle time content).leaves = content.flatMap Osc.Packet.leaves) ∧
    h.handlePacket t p = (p.leaves.foldl (fun h m => (h.handle t m).1) h,
      (outcomes t h p.leaves).countP Except.isOk) ∧
    (∀ q : Osc.Packet, q.leaves = p.leaves → h.handlePacket t q = h.handlePacket t p) ∧
    ∀ early m late, p.leaves = early ++ m :: late →
      let before := inTurn t h early
      let after := (before.handle t m).1
      h.handlePacket t p = (inTurn t after late,
        accepted t h early + (if (before.handle t m).2.isOk then 1 else 0) +
          accepted t after late) ∧
      ∀ reason, (before.handle t m).2 = .error reason →
        ∃ declined, after = declined.enter (.rejected reason) ∧ Declined t before declined reason := by
  refine ⟨fun m => ?_, fun time content => ?_, handlePacket_eq t h p, fun q hq => ?_, ?_⟩
  · rw [Osc.Packet.leaves]
  · rw [Osc.Packet.leaves, Osc.Packet.leavesOfAll_eq_flatMap]
  · rw [handlePacket_eq, handlePacket_eq, hq]
  · intro early m late hleaves before after
    refine ⟨?_, fun reason hr => handle_declined hr⟩
    rw [handlePacket_eq, hleaves, inTurn_append, accepted_append, accepted_cons, Nat.add_assoc]
    rfl

/-- A controller signs on, starts the transport and signs off, in bundles within bundles, one of them
empty. In between it tries to sign off with a number. -/
theorem packet_is_its_messages_nested :
    let lounge : Host Quota := { setup := { root := "rack" }, courier := {} }
    let url := Osc.Arg.string "osc.tcp://127.0.0.1:19000/R"
    let early : List Osc.Message := [⟨"/register", [url]⟩]
    let m : Osc.Message := ⟨"/unregister", [.int 1]⟩
    let late : List Osc.Message := [⟨"/ctrl/transport_play", []⟩, ⟨"/unregister", [url]⟩]
    let nested : Osc.Packet := .bundle ⟨0, 1⟩
      [.bundle ⟨9, 9⟩ [.message ⟨"/register", [url]⟩, .bundle ⟨0, 0⟩ [], .message m],
        .bundle ⟨3, 0⟩ (late.map .message)]
    let reason := Refusal.argType "unregister" 0 .text 'i'
    let before := inTurn .tcp lounge early
    lounge.handlePacket .tcp (.bundle ⟨5, 5⟩ ((early ++ m :: late).map .message)) =
        lounge.handlePacket .tcp nested ∧
      (lounge.handlePacket .tcp nested).2 = 3 ∧ (before.handle .tcp m).2 = .error reason ∧
      ∃ declined, (before.handle .tcp m).1 = declined.enter (.rejected reason) ∧
        Declined .tcp before declined reason := by
  intro lounge url early m late nested reason before
  obtain ⟨_, _, _, hsame, hsplit⟩ := packet_is_its_messages lounge .tcp nested
  have hleaves : nested.leaves = early ++ m :: late := by rfl
  obtain ⟨heffect, htraces⟩ := hsplit early m late hleaves
  have hr : (before.handle .tcp m).2 = .error reason := by rfl
  refine ⟨hsame _ (by rfl), ?_, hr, htraces reason hr⟩
  rw [heffect]
  decide +kernel

end RackRemote.Proofs

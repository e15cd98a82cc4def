import RackRemote.Proofs.Desk
import RackRemote.Proofs.Refusals

/-!
# A refused message has no effect

Whatever the route of a message and wherever on it the refusal happens, the rack, its plugins and the
controllers are as before. Two traces can remain beside the warning: a request that the rack itself
has declined is in its log, and a newcomer that came too late may have been told so.
-/

namespace RackRemote.Proofs

variable {κ : Type} [Courier κ]

/-- A host that has declined what was asked on a transport, before it enters its warning. -/
structure Declined (t : Transport) (h h' : Host κ) (reason : Refusal) : Prop where
  setup : h'.setup = h.setup
  tcp : h'.tcp = h.tcp
  udp : h'.udp = h.udp
  /-- At most one more request in the rack's log, and that only if the rack declined it. -/
  rack : h'.rack = h.rack ∨
    ∃ request origin fault, h'.rack = h.rack.log request origin ∧ reason = .engine fault
  /-- At most one message, and that only to somebody who came too late. -/
  traffic : (h'.courier = h.courier ∧ h'.journal = h.journal) ∨
    ∃ target message outcome owner,
      Courier.send h.courier target message = (h'.courier, outcome) ∧
      h'.journal = h.journal ++ [.sent target message outcome] ∧
      reason = .alreadyRegistered t owner
  isLocal : Local reason

lemma declined_self {t : Transport} (h : Host κ) {reason : Refusal} (hl : Local reason) :
    Declined t h h reason :=
  ⟨rfl, rfl, rfl, .inl rfl, .inl ⟨rfl, rfl⟩, hl⟩

/-! ### Requests to the rack -/

lemma rack_perform_error {r : Rack} {request : Request} {origin : Origin} {fault : RackFault}
    (hf : (r.perform request origin).2 = .error fault) :
    (r.perform request origin).1 = r.log request origin := by
  simp only [Rack.perform] at hf ⊢
  cases ha : (r.log request origin).apply request with
  | ok result =>
    rw [ha] at hf
    cases hf
  | error fault =>
    rfl

lemma perform_declined {t : Transport} {h : Host κ} {request : Request} {origin : Origin}
    {reason : Refusal} (hr : (h.perform request origin).2 = .error reason) :
    Declined t h (h.perform request origin).1 reason := by
  cases hp : h.rack.perform request origin with
  | mk rack outcome =>
    cases outcome with
    | ok events =>
      simp only [Host.perform, hp] at hr
      cases hr
    | error fault =>
      have hlog := rack_perform_error (congrArg Prod.snd hp)
      rw [hp] at hlog
      simp only [Host.perform, hp] at hr ⊢
      cases hr
      have hlocal : Local (.engine fault) := by simp [Local]
      exact ⟨rfl, rfl, rfl, .inr ⟨request, origin, fault, hlog, rfl⟩, .inl ⟨rfl, rfl⟩, hlocal⟩

lemma ask_declined {t : Transport} {h : Host κ} {request : Request} {origin : Origin}
    {reason : Refusal} (hr : (h.ask request origin).2 = .error reason) :
    Declined t h (h.ask request origin).1 reason := by
  by_cases hd : h.ask request origin = h.perform request origin
  · rw [hd] at hr ⊢
    exact perform_declined hr
  · -- Only a refresh can be turned down without asking the rack.
    cases request with
    | refresh withSystemPorts =>
      rw [Host.ask] at hd hr ⊢
      split at hd
      · rename_i hdeclines
        rw [if_pos hdeclines] at hr ⊢
        cases hr
        exact declined_self h (by simp [Local])
      · exact absurd rfl hd
    | _ => exact absurd rfl hd

/-! ### The registration desk -/

lemma turnAway_declined (h : Host κ) (t : Transport) (url owner : String) :
    Declined t h (h.turnAway t url) (.alreadyRegistered t owner) := by
  unfold Host.turnAway
  split
  · rename_i b _
    exact ⟨rfl, rfl, rfl, .inl rfl,
      .inr ⟨b.target, b.conflict, (Courier.send h.courier b.target b.conflict).2, owner,
        rfl, rfl, rfl⟩, by simp [Local]⟩
  · exact declined_self h (by simp [Local])

lemma register_declined {t : Transport} {h : Host κ} {url : String} {reason : Refusal}
    (hr : (h.register t url).2 = .error reason) :
    Declined t h (h.register t url).1 reason := by
  cases hb : h.binding t with
  | some current =>
    rw [register_occupied hb] at hr ⊢
    cases hr
    exact turnAway_declined h t url current.owner
  | none =>
    cases hu : Binding.ofUrl h.setup.names t url with
    | error fault =>
      rw [register_nobody hb hu] at hr ⊢
      cases hr
      exact declined_self h (by simp [Local])
    | ok b =>
      cases t with
      | tcp =>
        rw [register_tcp hb hu] at hr
        cases hr
      | udp =>
        rw [register_udp hb hu] at hr
        cases hr

lemma unregister_declined {t : Transport} {h : Host κ} {url : String} {reason : Refusal}
    (hr : (h.unregister t url).2 = .error reason) :
    Declined t h (h.unregister t url).1 reason := by
  cases hb : h.binding t with
  | none =>
    simp only [Host.unregister, hb] at hr ⊢
    cases hr
    exact declined_self h (by simp [Local])
  | some current =>
    simp only [Host.unregister, hb] at hr ⊢
    by_cases ho : current.owner = url
    · rw [if_pos ho] at hr
      cases hr
    · rw [if_neg ho] at hr ⊢
      cases hr
      exact declined_self h (by simp [Local])

/-! ### Messages -/

lemma execute_declined {t : Transport} {h : Host κ} {order : Order} {reason : Refusal}
    (hr : (h.execute t order).2 = .error reason) :
    Declined t h (h.execute t order).1 reason := by
  cases order with
  | register url => exact register_declined hr
  | unregister url => exact unregister_declined hr
  | control command request => exact ask_declined hr
  | plugin => cases hr
  | forward => cases hr
  | reserved => cases hr

lemma handle_declined {t : Transport} {h : Host κ} {m : Osc.Message} {reason : Refusal}
    (hr : (h.handle t m).2 = .error reason) :
    ∃ h', (h.handle t m).1 = h'.enter (.rejected reason) ∧ Declined t h h' reason := by
  rcases handle_eq_error hr with ⟨hd, hhost⟩ | ⟨order, _, hx, hhost⟩
  · exact ⟨h, hhost, declined_self h (raises_decide h t m reason hd)⟩
  · exact ⟨_, hhost, execute_declined hx⟩

/-- Refused messages are atomic: the host is as before but for one warning, at most one declined
request in the rack's log, and at most one message to a newcomer that came too late. -/
theorem rejection_atomic (h : Host κ) (t : Transport) (m : Osc.Message) (reason : Refusal)
    (hr : (h.handle t m).2 = .error reason) :
    let h' := (h.handle t m).1
    (h'.setup = h.setup ∧ h'.tcp = h.tcp ∧ h'.udp = h.udp) ∧
    (∃ log, h'.rack = { h.rack with requests := h.rack.requests ++ log } ∧ log.length ≤ 1 ∧
      (log ≠ [] → ∃ fault, reason = .engine fault)) ∧
    ((h'.courier = h.courier ∧ h'.journal = h.journal ++ [.rejected reason]) ∨
      ∃ target message outcome owner,
        Courier.send h.courier target message = (h'.courier, outcome) ∧
        h'.journal = h.journal ++ [.sent target message outcome, .rejected reason] ∧
        reason = .alreadyRegistered t owner) ∧
    (∀ failure, reason ≠ .undelivered failure) := by
  obtain ⟨h', hh, hd⟩ := handle_declined hr
  dsimp only
  rw [hh]
  refine ⟨⟨hd.setup, hd.tcp, hd.udp⟩, ?_, ?_, hd.isLocal⟩
  · rcases hd.rack with hrack | ⟨request, origin, fault, hrack, hreason⟩
    · refine ⟨[], ?_, Nat.zero_le 1, fun hne => absurd rfl hne⟩
      rw [List.append_nil]
      exact hrack
    · exact ⟨[(request, origin)], hrack, Nat.le_refl 1, fun _ => ⟨fault, hreason⟩⟩
  · rcases hd.traffic with ⟨hc, hj⟩ | ⟨target, message, outcome, owner, hs, hj, hreason⟩
    · refine .inl ⟨hc, ?_⟩
      rw [Host.enter, hj]
    · refine .inr ⟨target, message, outcome, owner, hs, ?_, hreason⟩
      rw [Host.enter, hj, List.append_assoc]
      rfl

/-- A host with a controller on TCP that cannot be reached any more. -/
def occupied : Host Quota where
  setup := { root := "rack" }
  tcp := some ⟨"osc.tcp://127.0.0.1:19000/R", ⟨.tcp, ⟨.v4 0x7f000001, 19000⟩⟩, "/R"⟩
  courier := { tcp := some 0 }

theorem rejection_atomic_newcomer :
    let m : Osc.Message := ⟨"/register", [.string "osc.tcp://127.0.0.1:19001/S"]⟩
    let reason := Refusal.alreadyRegistered .tcp "osc.tcp://127.0.0.1:19000/R"
    let h' := (occupied.handle .tcp m).1
    (occupied.handle .tcp m).2 = .error reason ∧ h'.rack = occupied.rack ∧
      h'.tcp = occupied.tcp ∧ h'.udp = occupied.udp ∧
      ((h'.courier = occupied.courier ∧ h'.journal = [.rejected reason]) ∨
        ∃ target message outcome, h'.journal = [.sent target message outcome, .rejected reason]) := by
  intro m reason h'
  have hr : (occupied.handle .tcp m).2 = .error reason := by rfl
  obtain ⟨⟨_, htcp, hudp⟩, ⟨log, hrack, _, hlog⟩, htraffic, _⟩ :=
    rejection_atomic occupied .tcp m reason hr
  have hnone : log = [] := by
    by_contra hne
    obtain ⟨fault, hf⟩ := hlog hne
    simp [reason] at hf
  rw [hnone, List.append_nil] at hrack
  refine ⟨hr, hrack, htcp, hudp, ?_⟩
  rcases htraffic with hquiet | ⟨target, message, outcome, _, _, hj, _⟩
  · exact .inl hquiet
  · exact .inr ⟨target, message, outcome, hj⟩

end RackRemote.Proofs

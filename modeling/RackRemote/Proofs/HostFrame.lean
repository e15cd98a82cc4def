import Mathlib.Tactic.Common
import RackRemote.Host.Reception

/-!
# What talking leaves alone

Sending messages and telling events concerns the courier and the journal of a host. Its setup, its
rack and its controllers stay as they are, and the journal only grows. `Alike` says this of two
hosts; this file proves it of every operation that talks, and reduces the operations that change a
rack to such an operation on the host with the changed rack.
-/

namespace RackRemote.Proofs

variable {κ : Type}

/-- The second host is the first one after some talk. -/
structure Alike (h h' : Host κ) : Prop where
  setup : h'.setup = h.setup
  rack : h'.rack = h.rack
  tcp : h'.tcp = h.tcp
  udp : h'.udp = h.udp
  journal : ∃ entries, h'.journal = h.journal ++ entries

namespace Alike

lemma refl (h : Host κ) : Alike h h :=
  ⟨rfl, rfl, rfl, rfl, [], (List.append_nil _).symm⟩

lemma trans {h h' h'' : Host κ} (a : Alike h h') (b : Alike h' h'') : Alike h h'' := by
  obtain ⟨first, hfirst⟩ := a.journal
  obtain ⟨second, hsecond⟩ := b.journal
  refine ⟨b.setup.trans a.setup, b.rack.trans a.rack, b.tcp.trans a.tcp, b.udp.trans a.udp,
    first ++ second, ?_⟩
  rw [hsecond, hfirst, List.append_assoc]

lemma binding {h h' : Host κ} (a : Alike h h') (t : Transport) : h'.binding t = h.binding t := by
  cases t with
  | tcp => exact a.tcp
  | udp => exact a.udp

end Alike

lemma alike_enter (h : Host κ) (e : Entry) : Alike h (h.enter e) :=
  ⟨rfl, rfl, rfl, rfl, [e], rfl⟩

variable [Courier κ]

lemma alike_deliver (h : Host κ) (target : Target) (message : Osc.Message) :
    Alike h (h.deliver target message).1 :=
  ⟨rfl, rfl, rfl, rfl, _, rfl⟩

lemma alike_forget (h : Host κ) (target : Target) : Alike h (h.forget target) :=
  ⟨rfl, rfl, rfl, rfl, _, rfl⟩

/-! ### Telling events -/

lemma alike_tell (e : Event) (h : Host κ) (outcome : Except IoError Bool) (ts : List Transport) :
    Alike h (Host.tell e h outcome ts).1 := by
  induction ts generalizing h outcome with
  | nil => exact Alike.refl h
  | cons t ts ih =>
    unfold Host.tell
    split
    · exact ih h outcome
    · rename_i b _
      have hd := alike_deliver h b.target (e.message b.path)
      split
      · rename_i h' hsent
        rwa [hsent] at hd
      · rename_i h' failure hsent
        rw [hsent] at hd
        exact hd.trans (ih h' (.error failure))

lemma alike_notify (h : Host κ) (e : Event) : Alike h (h.notify e).1 :=
  alike_tell e h (.ok false) e.channels

lemma alike_relay (h : Host κ) (e : Event) (origin : Origin) : Alike h (h.relay e origin) := by
  cases origin with
  | external => exact Alike.refl h
  | internal =>
    have hn := alike_notify h e
    rw [Host.relay]
    split
    · rename_i h' _ htold
      rwa [htold] at hn
    · rename_i h' failure htold
      rw [htold] at hn
      exact hn.trans (alike_enter h' (.untold failure))

lemma alike_publish (h : Host κ) (e : Event) (origin : Origin) : Alike h (h.publish e origin) := by
  have he := alike_enter h (.event e origin)
  rw [Host.publish]
  split
  · exact he.trans (alike_relay _ e origin)
  · exact he

lemma alike_publishAll (h : Host κ) (events : List Event) (origin : Origin) :
    Alike h (h.publishAll events origin) := by
  induction events generalizing h with
  | nil => exact Alike.refl h
  | cons e events ih => exact (alike_publish h e origin).trans (ih (h.publish e origin))

/-! ### Talking to newcomers -/

lemma alike_introduce (h : Host κ) (b : Binding) (events : List Event) :
    Alike h (h.introduce b events) := by
  induction events generalizing h with
  | nil => exact Alike.refl h
  | cons e events ih =>
    have hd := alike_deliver h b.target (e.message b.path)
    unfold Host.introduce
    split
    · rename_i h' hsent
      rw [hsent] at hd
      exact hd.trans (ih h')
    · rename_i h' _ hsent
      rwa [hsent] at hd

lemma alike_turnAway (h : Host κ) (t : Transport) (url : String) : Alike h (h.turnAway t url) := by
  unfold Host.turnAway
  split
  · exact alike_deliver h _ _
  · exact Alike.refl h

/-! ### Changes of the rack -/

lemma alike_perform (h : Host κ) (request : Request) (origin : Origin) :
    Alike { h with rack := (h.rack.perform request origin).1 } (h.perform request origin).1 := by
  unfold Host.perform
  split
  · rename_i rack events hdone
    rw [hdone]
    exact alike_publishAll _ events origin
  · rename_i rack fault hdone
    rw [hdone]
    exact Alike.refl _

lemma alike_act (h : Host κ) (key : Nat) (action : Action) (origin : Origin) :
    Alike { h with rack := (h.rack.act key action origin).1 } (h.act key action origin) := by
  unfold Host.act
  split
  · rename_i rack e hdone
    rw [hdone]
    exact alike_publish _ e origin
  · rename_i rack hdone
    rw [hdone]
    exact Alike.refl _

lemma alike_load (h : Host κ) (name : String) :
    Alike { h with rack := (h.rack.insert name).1 } (h.load name).1 :=
  alike_publishAll _ _ _

/-! ### Messages -/

/-- Handling a message is deciding on it and carrying it out, with a warning if either fails. -/
lemma alike_handle (h : Host κ) (t : Transport) (m : Osc.Message) :
    Alike (match h.decide t m with
      | .ok order => (h.execute t order).1
      | .error _ => h) (h.handle t m).1 := by
  cases hd : h.decide t m with
  | error reason =>
    simp only [Host.handle, hd]
    exact alike_enter h (.rejected reason)
  | ok order =>
    cases he : h.execute t order with
    | mk h' outcome =>
      cases outcome with
      | ok _ =>
        simp only [Host.handle, hd, he]
        exact Alike.refl h'
      | error reason =>
        simp only [Host.handle, hd, he]
        exact alike_enter h' (.rejected reason)

lemma handle_courier (h : Host κ) {t : Transport} {m : Osc.Message} {order : Order}
    (hd : h.decide t m = .ok order) :
    (h.handle t m).1.courier = (h.execute t order).1.courier := by
  rw [Host.handle, hd]
  dsimp only
  split
  · rename_i h' hdone
    rw [hdone]
  · rename_i h' reason hdone
    rw [hdone]
    rfl

lemma handle_eq_ok {h : Host κ} {t : Transport} {m : Osc.Message} {order : Order}
    (ho : (h.handle t m).2 = .ok order) :
    h.decide t m = .ok order ∧ (h.execute t order).2 = .ok () ∧
      (h.handle t m).1 = (h.execute t order).1 := by
  cases hd : h.decide t m with
  | error reason =>
    simp only [Host.handle, hd] at ho
    cases ho
  | ok order' =>
    cases he : h.execute t order' with
    | mk h' outcome =>
      simp only [Host.handle, hd, he] at ho ⊢
      cases outcome with
      | error reason => cases ho
      | ok _ =>
        cases ho
        rw [he]
        exact ⟨rfl, rfl, rfl⟩

/-- A message is refused when it is decided on or when it is carried out. -/
lemma handle_eq_error {h : Host κ} {t : Transport} {m : Osc.Message} {reason : Refusal}
    (hr : (h.handle t m).2 = .error reason) :
    (h.decide t m = .error reason ∧ (h.handle t m).1 = h.enter (.rejected reason)) ∨
      ∃ order, h.decide t m = .ok order ∧ (h.execute t order).2 = .error reason ∧
        (h.handle t m).1 = (h.execute t order).1.enter (.rejected reason) := by
  cases hd : h.decide t m with
  | error early =>
    simp only [Host.handle, hd] at hr ⊢
    cases hr
    exact .inl ⟨rfl, rfl⟩
  | ok order =>
    cases he : h.execute t order with
    | mk h' outcome =>
      simp only [Host.handle, hd, he] at hr ⊢
      cases outcome with
      | ok _ => cases hr
      | error late =>
        cases hr
        refine .inr ⟨order, rfl, ?_⟩
        rw [he]
        exact ⟨rfl, rfl⟩

end RackRemote.Proofs

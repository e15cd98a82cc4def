import RackRemote.Proofs.Ownership
import RackRemote.Proofs.Transcript

/-!
# The steps of a host

Whatever happens to a host, it does no more than this: it notes something down, lets its rack change,
tells an event to a controller, turns a newcomer away, seats one, and lets one go. What each of these
keeps, every move keeps.
-/

namespace RackRemote.Proofs

variable {κ : Type} [Courier κ]

/-- What the six steps of a host keep. -/
structure KeptByHost (P : Host κ → Prop) : Prop where
  note : ∀ h e, isTraffic e = false → P h → P (h.enter e)
  rack : ∀ (h : Host κ) (rack : Rack), P h → P { h with rack }
  tell : ∀ (h : Host κ) t b (e : Event), h.binding t = some b → P h →
    P (h.deliver b.target (e.message b.path)).1
  turnAway : ∀ (h : Host κ) t current b, h.binding t = some current →
    Binding.ofUrl h.setup.names t b.owner = .ok b → P h → P (h.deliver b.target b.conflict).1
  /-- A newcomer is seated where nobody is; what is left of an earlier connection is dropped. -/
  seat : ∀ (h : Host κ) t b, h.binding t = none →
    Binding.ofUrl h.setup.names t b.owner = .ok b → P h →
      P ((h.forget b.target).setBinding t (some b))
  letGo : ∀ (h : Host κ) t b, h.binding t = some b → P h →
    P ((h.forget b.target).setBinding t none)

/-! ### Seating first -/

lemma introduce_setBinding (h : Host κ) (t : Transport) (slot : Option Binding) (b : Binding)
    (events : List Event) :
    (h.introduce b events).setBinding t slot = (h.setBinding t slot).introduce b events := by
  induction events generalizing h with
  | nil => rfl
  | cons e events ih =>
    have hdeliver : (h.setBinding t slot).deliver b.target (e.message b.path) =
        ((h.deliver b.target (e.message b.path)).1.setBinding t slot,
          (h.deliver b.target (e.message b.path)).2) := by
      cases t <;> rfl
    rw [Host.introduce, Host.introduce, hdeliver]
    obtain ⟨h', outcome⟩ := h.deliver b.target (e.message b.path)
    cases outcome with
    | ok _ => exact ih h'
    | error failure => rfl

/-- A newcomer is registered after it has been shown the rack, but it could be before. -/
lemma welcomed_eq (h : Host κ) (b : Binding) :
    welcomed h b = ((h.forget b.target).setBinding .tcp (some b)).introduce b h.rack.picture :=
  introduce_setBinding _ _ _ _ _

namespace KeptByHost

variable {P : Host κ → Prop} (kept : KeptByHost P)
include kept

/-! ### Events -/

lemma tellOn (e : Event) {h : Host κ} (outcome : Except IoError Bool) (ts : List Transport)
    (hP : P h) : P (Host.tell e h outcome ts).1 := by
  induction ts generalizing h outcome with
  | nil => exact hP
  | cons t ts ih =>
    rw [Host.tell]
    split
    · exact ih outcome hP
    · rename_i b hb
      have hd := kept.tell h t b e hb hP
      split
      · rename_i h' hsent
        rwa [hsent] at hd
      · rename_i h' failure hsent
        rw [hsent] at hd
        exact ih (.error failure) hd

lemma notify {h : Host κ} (e : Event) (hP : P h) : P (h.notify e).1 :=
  kept.tellOn e (.ok false) e.channels hP

lemma relay {h : Host κ} (e : Event) (origin : Origin) (hP : P h) : P (h.relay e origin) := by
  cases origin with
  | external => exact hP
  | internal =>
    have hn := kept.notify e hP
    rw [Host.relay]
    split
    · rename_i h' _ htold
      rwa [htold] at hn
    · rename_i h' failure htold
      rw [htold] at hn
      exact kept.note h' (.untold failure) rfl hn

lemma publish {h : Host κ} (e : Event) (origin : Origin) (hP : P h) : P (h.publish e origin) := by
  have he := kept.note h (.event e origin) rfl hP
  rw [Host.publish]
  split
  · exact kept.relay e origin he
  · exact he

lemma publishAll {h : Host κ} (events : List Event) (origin : Origin) (hP : P h) :
    P (h.publishAll events origin) := by
  induction events generalizing h with
  | nil => exact hP
  | cons e events ih => exact ih (kept.publish e origin hP)

lemma introduce {h : Host κ} {t : Transport} {b : Binding} (hb : h.binding t = some b)
    (events : List Event) (hP : P h) : P (h.introduce b events) := by
  induction events generalizing h with
  | nil => exact hP
  | cons e events ih =>
    have hd := kept.tell h t b e hb hP
    have hb' := (alike_deliver h b.target (e.message b.path)).binding t
    rw [Host.introduce]
    split
    · rename_i h' hsent
      rw [hsent] at hd hb'
      exact ih (hb'.trans hb) hd
    · rename_i h' failure hsent
      rwa [hsent] at hd

/-! ### The rack and the desk -/

lemma perform {h : Host κ} (request : Request) (origin : Origin) (hP : P h) :
    P (h.perform request origin).1 := by
  rw [Host.perform]
  split
  · exact kept.publishAll _ origin (kept.rack h _ hP)
  · exact kept.rack h _ hP

lemma ask {h : Host κ} (request : Request) (origin : Origin) (hP : P h) :
    P (h.ask request origin).1 := by
  have hperform := kept.perform request origin hP
  cases request with
  | refresh all =>
    rw [Host.ask]
    split
    · exact hP
    · exact hperform
  | _ => exact hperform

lemma act {h : Host κ} (key : Nat) (action : Action) (origin : Origin) (hP : P h) :
    P (h.act key action origin) := by
  rw [Host.act]
  split
  · exact kept.publish _ origin (kept.rack h _ hP)
  · exact kept.rack h _ hP

lemma register {h : Host κ} (t : Transport) (url : String) (hP : P h) :
    P (h.register t url).1 := by
  cases hb : h.binding t with
  | some current =>
    rw [register_occupied hb, Host.turnAway]
    split
    · rename_i b hu
      exact kept.turnAway h t current b hb (by rw [ofUrl_owner hu, hu]) hP
    · exact hP
  | none =>
    cases hu : Binding.ofUrl h.setup.names t url with
    | error fault =>
      rw [register_nobody hb hu]
      exact hP
    | ok b =>
      have hseated := kept.seat h t b hb (by rw [ofUrl_owner hu, hu]) hP
      cases t with
      | udp =>
        rw [register_udp hb hu]
        exact hseated
      | tcp =>
        rw [register_tcp hb hu, welcomed_eq]
        exact kept.ask _ .internal (kept.introduce (t := .tcp) rfl h.rack.picture hseated)

lemma unregister {h : Host κ} (t : Transport) (url : String) (hP : P h) :
    P (h.unregister t url).1 := by
  rw [Host.unregister]
  split
  · exact hP
  · rename_i current hb
    split
    · exact kept.letGo h t current hb hP
    · exact hP

/-! ### Moves -/

lemma execute {h : Host κ} (t : Transport) (order : Order) (hP : P h) :
    P (h.execute t order).1 := by
  cases order with
  | register url => exact kept.register t url hP
  | unregister url => exact kept.unregister t url hP
  | control command request => exact kept.ask request command.origin hP
  | plugin index key command action => exact kept.act key action .external hP
  | forward index key method args => exact kept.act key (.custom method args) .external hP
  | reserved index command => exact hP

lemma handle {h : Host κ} (t : Transport) (m : Osc.Message) (hP : P h) :
    P (h.handle t m).1 := by
  rw [Host.handle]
  split
  · exact kept.note h _ rfl hP
  · rename_i order _
    have hx := kept.execute t order hP
    split
    · rename_i h' hdone
      rwa [hdone] at hx
    · rename_i h' reason hdone
      rw [hdone] at hx
      exact kept.note h' _ rfl hx

lemma move (h : Host κ) (m : Move) (hP : P h) : P (move h m) := by
  cases m with
  | message t m => exact kept.handle t m hP
  | garbage t fault => exact kept.note h _ rfl hP
  | register t url => exact kept.register t url hP
  | unregister t url => exact kept.unregister t url hP
  | request request origin => exact kept.perform request origin hP
  | load name => exact kept.publishAll _ .internal (kept.rack h _ hP)
  | act key action origin => exact kept.act key action origin hP
  | xrun => exact kept.rack h _ hP
  | notify e => exact kept.notify e hP
  | relay e origin => exact kept.relay e origin hP

lemma run {h : Host κ} (hP : P h) (moves : List Move) : P (run h moves) :=
  run_induction P kept.move hP moves

end KeptByHost

/-! ### The journal as an account -/

/-- The journal of the second host accounts for all that its courier has done since the first. -/
def Accounted (h h' : Host κ) : Prop := ∃ entries, Entered h h' entries

namespace Accounted

variable {h h' h'' : Host κ}

lemma trans (first : Accounted h h') {entries : List Entry} (rest : Entered h' h'' entries) :
    Accounted h h'' := by
  obtain ⟨early, hearly⟩ := first
  exact ⟨early ++ entries, hearly.trans rest⟩

lemma setBinding (first : Accounted h h') (t : Transport) (b : Option Binding) :
    Accounted h (h'.setBinding t b) :=
  first.trans (Entered.silent (setBinding_journal h' t b) (setBinding_courier h' t b))

end Accounted

lemma keptByHost_accounted (h : Host κ) : KeptByHost (Accounted h) where
  note h' e he hP := by
    refine hP.trans (entered_enter h' fun k => ?_)
    cases e with
    | sent => cases he
    | forgot => cases he
    | _ => rfl
  rack h' rack hP := hP.trans (Entered.silent rfl rfl)
  tell h' t b e hb hP := hP.trans (entered_deliver h' _ _)
  turnAway h' t current b hb hu hP := hP.trans (entered_deliver h' _ _)
  seat h' t b hb hu hP := (hP.trans (entered_forget h' _)).setBinding t (some b)
  letGo h' t b hb hP := (hP.trans (entered_forget h' _)).setBinding t none

/-- Whatever a host has its courier do is in its journal. -/
lemma accounted_move (h : Host κ) (m : Move) : Accounted h (move h m) :=
  (keptByHost_accounted h).move h m ⟨[], Entered.refl h⟩

end RackRemote.Proofs

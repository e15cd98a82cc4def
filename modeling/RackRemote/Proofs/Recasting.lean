import RackRemote.Proofs.Moves

/-!
# What a host pays no heed to

A host is recast with another courier that answers alike, and with another journal to which it adds
the same. Nothing it does is any different then: nothing it decides on depends on what its journal
holds, and of its courier it sees the answers alone.
-/

namespace RackRemote.Proofs

/-- Whether an entry is about bytes that were no packet. -/
def isGarbage : Entry → Bool
  | .undecodable .. => true
  | _ => false

/-- Another courier that answers alike, and another journal to which the same is added. -/
structure Recasting (κ κ' : Type) [Courier κ] [Courier κ'] where
  courier : κ → κ'
  journal : List Entry → List Entry
  send : ∀ k target m, Courier.send (courier k) target m =
    (courier (Courier.send k target m).1, (Courier.send k target m).2)
  forget : ∀ k target, Courier.forget (courier k) target = courier (Courier.forget k target)
  enter : ∀ entries e, isGarbage e = false → journal (entries ++ [e]) = journal entries ++ [e]

namespace Recasting

variable {κ κ' : Type} [Courier κ] [Courier κ'] (c : Recasting κ κ')

def host (h : Host κ) : Host κ' :=
  { h with courier := c.courier h.courier, journal := c.journal h.journal }

/-- A recast host with an answer. -/
def result {α : Type} (r : Host κ × α) : Host κ' × α := (c.host r.1, r.2)

lemma host_binding (h : Host κ) (t : Transport) : (c.host h).binding t = h.binding t := by
  cases t <;> rfl

lemma host_setBinding (h : Host κ) (t : Transport) (b : Option Binding) :
    (c.host h).setBinding t b = c.host (h.setBinding t b) := by
  cases t <;> rfl

lemma host_enter (h : Host κ) {e : Entry} (he : isGarbage e = false) :
    (c.host h).enter e = c.host (h.enter e) := by
  rw [host, host, Host.enter, Host.enter, c.enter h.journal e he]

lemma host_deliver (h : Host κ) (target : Target) (m : Osc.Message) :
    (c.host h).deliver target m = c.result (h.deliver target m) := by
  have hsend : Courier.send (c.host h).courier target m = _ := c.send h.courier target m
  rw [Host.deliver, hsend]
  refine Prod.ext ?_ rfl
  exact c.host_enter { h with courier := (Courier.send h.courier target m).1 } rfl

lemma host_forget (h : Host κ) (target : Target) :
    (c.host h).forget target = c.host (h.forget target) := by
  have hforget : Courier.forget (c.host h).courier target = _ := c.forget h.courier target
  rw [Host.forget, hforget]
  exact c.host_enter { h with courier := Courier.forget h.courier target } rfl

/-! ### Telling events -/

lemma host_tell (e : Event) (h : Host κ) (outcome : Except IoError Bool) (ts : List Transport) :
    Host.tell e (c.host h) outcome ts = c.result (Host.tell e h outcome ts) := by
  induction ts generalizing h outcome with
  | nil => rfl
  | cons t ts ih =>
    rw [Host.tell, Host.tell, host_binding]
    cases h.binding t with
    | none => exact ih h outcome
    | some b =>
      dsimp only
      rw [host_deliver]
      obtain ⟨h', sent⟩ := h.deliver b.target (e.message b.path)
      cases sent with
      | ok _ => rfl
      | error failure => exact ih h' (.error failure)

lemma host_relay (h : Host κ) (e : Event) (origin : Origin) :
    (c.host h).relay e origin = c.host (h.relay e origin) := by
  cases origin with
  | external => rfl
  | internal =>
    rw [Host.relay, Host.relay, Host.notify, Host.notify, host_tell]
    obtain ⟨h', told⟩ := Host.tell e h (.ok false) e.channels
    cases told with
    | ok _ => rfl
    | error failure => exact c.host_enter h' rfl

lemma host_publish (h : Host κ) (e : Event) (origin : Origin) :
    (c.host h).publish e origin = c.host (h.publish e origin) := by
  have hsetup : (c.host (h.enter (.event e origin))).setup =
      (h.enter (.event e origin)).setup := rfl
  rw [Host.publish, Host.publish, c.host_enter h rfl, hsetup]
  split
  · exact c.host_relay _ e origin
  · rfl

lemma host_publishAll (h : Host κ) (events : List Event) (origin : Origin) :
    (c.host h).publishAll events origin = c.host (h.publishAll events origin) := by
  induction events generalizing h with
  | nil => rfl
  | cons e events ih =>
    rw [Host.publishAll, List.foldl_cons, host_publish]
    exact ih (h.publish e origin)

/-! ### Using the rack -/

lemma host_perform (h : Host κ) (request : Request) (origin : Origin) :
    (c.host h).perform request origin = c.result (h.perform request origin) := by
  have hrack : (c.host h).rack = h.rack := rfl
  rw [Host.perform, Host.perform, hrack]
  obtain ⟨rack, outcome⟩ := h.rack.perform request origin
  cases outcome with
  | ok events => exact Prod.ext (c.host_publishAll { h with rack } events origin) rfl
  | error fault => rfl

lemma host_ask (h : Host κ) (request : Request) (origin : Origin) :
    (c.host h).ask request origin = c.result (h.ask request origin) := by
  have hperform := c.host_perform h request origin
  cases request with
  | refresh all =>
    have hsetup : (c.host h).setup = h.setup := rfl
    rw [Host.ask, Host.ask, hsetup]
    split
    · rfl
    · exact hperform
  | _ => exact hperform

lemma host_act (h : Host κ) (key : Nat) (action : Action) (origin : Origin) :
    (c.host h).act key action origin = c.host (h.act key action origin) := by
  have hrack : (c.host h).rack = h.rack := rfl
  rw [Host.act, Host.act, hrack]
  obtain ⟨rack, said⟩ := h.rack.act key action origin
  cases said with
  | some e => exact c.host_publish { h with rack } e origin
  | none => rfl

/-! ### The registration desk -/

lemma host_introduce (h : Host κ) (b : Binding) (events : List Event) :
    (c.host h).introduce b events = c.host (h.introduce b events) := by
  induction events generalizing h with
  | nil => rfl
  | cons e events ih =>
    rw [Host.introduce, Host.introduce, host_deliver]
    obtain ⟨h', sent⟩ := h.deliver b.target (e.message b.path)
    cases sent with
    | ok _ => exact ih h'
    | error failure => rfl

lemma host_turnAway (h : Host κ) (t : Transport) (url : String) :
    (c.host h).turnAway t url = c.host (h.turnAway t url) := by
  have hnames : (c.host h).setup.names = h.setup.names := rfl
  rw [Host.turnAway, Host.turnAway, hnames]
  cases Binding.ofUrl h.setup.names t url with
  | error fault => rfl
  | ok b => exact congrArg Prod.fst (c.host_deliver h b.target b.conflict)

lemma host_welcomed (h : Host κ) (b : Binding) :
    welcomed (c.host h) b = c.host (welcomed h b) := by
  rw [welcomed, host_forget, show (c.host h).rack = h.rack from rfl, host_introduce,
    host_setBinding]
  rfl

lemma host_register (h : Host κ) (t : Transport) (url : String) :
    (c.host h).register t url = c.result (h.register t url) := by
  have hbinding := c.host_binding h t
  cases hb : h.binding t with
  | some current =>
    rw [register_occupied hb, register_occupied (hbinding.trans hb), host_turnAway]
    rfl
  | none =>
    cases hu : Binding.ofUrl h.setup.names t url with
    | error fault =>
      rw [register_nobody hb hu, register_nobody (hbinding.trans hb) hu]
      rfl
    | ok b =>
      cases t with
      | udp =>
        rw [register_udp hb hu, register_udp (hbinding.trans hb) hu, host_forget]
        rfl
      | tcp =>
        rw [register_tcp hb hu, register_tcp (hbinding.trans hb) hu, host_welcomed, host_ask]
        rfl

lemma host_unregister (h : Host κ) (t : Transport) (url : String) :
    (c.host h).unregister t url = c.result (h.unregister t url) := by
  rw [Host.unregister, Host.unregister, host_binding]
  cases h.binding t with
  | none => rfl
  | some current =>
    dsimp only
    split
    · rw [host_forget, host_setBinding]
      rfl
    · rfl

/-! ### Messages -/

lemma host_execute (h : Host κ) (t : Transport) (order : Order) :
    (c.host h).execute t order = c.result (h.execute t order) := by
  cases order with
  | register url => exact c.host_register h t url
  | unregister url => exact c.host_unregister h t url
  | control command request => exact c.host_ask h request command.origin
  | plugin index key command action => exact Prod.ext (c.host_act h key action .external) rfl
  | forward index key method args =>
    exact Prod.ext (c.host_act h key (.custom method args) .external) rfl
  | reserved index command => rfl

lemma host_handle (h : Host κ) (t : Transport) (m : Osc.Message) :
    (c.host h).handle t m = c.result (h.handle t m) := by
  have hdecide : (c.host h).decide t m = h.decide t m := rfl
  rw [Host.handle, Host.handle, hdecide]
  cases h.decide t m with
  | error reason => exact Prod.ext (c.host_enter h rfl) rfl
  | ok order =>
    dsimp only
    rw [host_execute]
    obtain ⟨h', outcome⟩ := h.execute t order
    cases outcome with
    | ok _ => rfl
    | error reason => exact Prod.ext (c.host_enter h' rfl) rfl

/-- Moves that bring no garbage are the same moves for a recast host. -/
lemma host_move (h : Host κ) {m : Move} (hm : ∀ t fault, m ≠ .garbage t fault) :
    move (c.host h) m = c.host (move h m) := by
  cases m with
  | message t m => exact congrArg Prod.fst (c.host_handle h t m)
  | garbage t fault => exact absurd rfl (hm t fault)
  | register t url => exact congrArg Prod.fst (c.host_register h t url)
  | unregister t url => exact congrArg Prod.fst (c.host_unregister h t url)
  | request request origin => exact congrArg Prod.fst (c.host_perform h request origin)
  | load name =>
    exact c.host_publishAll { h with rack := (h.rack.insert name).1 }
      (h.rack.insert name).2.2 .internal
  | act key action origin => exact c.host_act h key action origin
  | xrun => rfl
  | notify e => exact congrArg Prod.fst (c.host_tell e h (.ok false) e.channels)
  | relay e origin => exact c.host_relay h e origin

end Recasting

end RackRemote.Proofs

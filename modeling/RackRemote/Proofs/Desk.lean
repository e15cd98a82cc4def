import RackRemote.Proofs.HostFrame

/-!
# The registration desk

What signing on and signing off do to a host, case by case: the slot is taken, the URL describes
nobody, or the controller is registered, which on TCP includes a picture of the rack. From these
cases follows what happens to the controllers of both transports.
-/

namespace RackRemote.Proofs

variable {κ : Type}

@[simp] lemma setBinding_binding_self (h : Host κ) (t : Transport) (b : Option Binding) :
    (h.setBinding t b).binding t = b := by
  cases t <;> rfl

lemma setBinding_binding_other (h : Host κ) {t t' : Transport} (b : Option Binding) (ht : t' ≠ t) :
    (h.setBinding t b).binding t' = h.binding t' := by
  cases t with
  | tcp =>
    cases t' with
    | tcp => exact absurd rfl ht
    | udp => rfl
  | udp =>
    cases t' with
    | tcp => rfl
    | udp => exact absurd rfl ht

@[simp] lemma setBinding_journal (h : Host κ) (t : Transport) (b : Option Binding) :
    (h.setBinding t b).journal = h.journal := by
  cases t <;> rfl

@[simp] lemma setBinding_courier (h : Host κ) (t : Transport) (b : Option Binding) :
    (h.setBinding t b).courier = h.courier := by
  cases t <;> rfl

variable [Courier κ]

lemma alike_ask (h : Host κ) (request : Request) (origin : Origin) :
    Alike { h with rack := (h.ask request origin).1.rack } (h.ask request origin).1 := by
  have hperform : Alike { h with rack := (h.perform request origin).1.rack }
      (h.perform request origin).1 := by
    have ha := alike_perform h request origin
    rw [ha.rack]
    exact ha
  cases request with
  | refresh withSystemPorts =>
    rw [Host.ask]
    split
    · exact Alike.refl h
    · exact hperform
  | _ => exact hperform

lemma ask_refresh {h : Host κ} (hrefresh : h.setup.declinesRefresh = false) (all : Bool) :
    h.ask (.refresh all) .internal =
      (({ h with rack := h.rack.log (.refresh all) .internal } : Host κ).publishAll
        (h.rack.connections.map Connection.added) .internal, .ok ()) := by
  rw [Host.ask, hrefresh]
  rfl

lemma ask_refresh_declined {h : Host κ} (hrefresh : h.setup.declinesRefresh = true) (all : Bool) :
    h.ask (.refresh all) .internal = (h, .error (.engine .refreshDeclined)) := by
  rw [Host.ask, hrefresh]
  rfl

/-! ### Signing on -/

/-- The newcomer on TCP once it has been told about the engine and the plugins. -/
def welcomed (h : Host κ) (b : Binding) : Host κ :=
  ((h.forget b.target).introduce b h.rack.picture).setBinding .tcp (some b)

section Asking

variable {h : Host κ} {t : Transport} {url : String} (ask : Engine (Host κ))

lemma registerAsking_occupied {current : Binding} (hb : h.binding t = some current) (url : String) :
    h.registerAsking ask t url =
      (h.turnAway t url, .error (.alreadyRegistered t current.owner)) := by
  simp only [Host.registerAsking, hb]

lemma registerAsking_nobody (hb : h.binding t = none) {fault : OriginFault}
    (hu : Binding.ofUrl h.setup.names t url = .error fault) :
    h.registerAsking ask t url = (h, .error (.invalidOrigin url fault)) := by
  simp only [Host.registerAsking, hb, hu]

lemma registerAsking_udp (hb : h.udp = none) {b : Binding}
    (hu : Binding.ofUrl h.setup.names .udp url = .ok b) :
    h.registerAsking ask .udp url =
      ((h.forget b.target).setBinding .udp (some b), .ok ()) := by
  have hb' : h.binding .udp = none := hb
  simp only [Host.registerAsking, hb', hu]

lemma registerAsking_tcp (hb : h.tcp = none) {b : Binding}
    (hu : Binding.ofUrl h.setup.names .tcp url = .ok b) :
    h.registerAsking ask .tcp url =
      ((ask (welcomed h b) (.refresh (welcomed h b).setup.systemPorts) .internal).1, .ok ()) := by
  have hb' : h.binding .tcp = none := hb
  simp only [Host.registerAsking, hb', hu]
  rfl

end Asking

lemma register_occupied {h : Host κ} {t : Transport} {current : Binding}
    (hb : h.binding t = some current) (url : String) :
    h.register t url = (h.turnAway t url, .error (.alreadyRegistered t current.owner)) :=
  registerAsking_occupied Host.ask hb url

lemma register_nobody {h : Host κ} {t : Transport} (hb : h.binding t = none) {url : String}
    {fault : OriginFault} (hu : Binding.ofUrl h.setup.names t url = .error fault) :
    h.register t url = (h, .error (.invalidOrigin url fault)) :=
  registerAsking_nobody Host.ask hb hu

lemma register_udp {h : Host κ} (hb : h.udp = none) {url : String} {b : Binding}
    (hu : Binding.ofUrl h.setup.names .udp url = .ok b) :
    h.register .udp url = ((h.forget b.target).setBinding .udp (some b), .ok ()) :=
  registerAsking_udp Host.ask hb hu

lemma register_tcp {h : Host κ} (hb : h.tcp = none) {url : String} {b : Binding}
    (hu : Binding.ofUrl h.setup.names .tcp url = .ok b) :
    h.register .tcp url =
      (((welcomed h b).ask (.refresh (welcomed h b).setup.systemPorts) .internal).1, .ok ()) :=
  registerAsking_tcp Host.ask hb hu

lemma register_succeeded {h : Host κ} {t : Transport} {url : String} (hok : (h.register t url).2 = .ok ()) :
    h.binding t = none ∧ ∃ b, Binding.ofUrl h.setup.names t url = .ok b := by
  cases hb : h.binding t with
  | some current =>
    rw [register_occupied hb] at hok
    cases hok
  | none =>
    cases hu : Binding.ofUrl h.setup.names t url with
    | error fault =>
      rw [register_nobody hb hu] at hok
      cases hok
    | ok b => exact ⟨rfl, b, rfl⟩

lemma alike_welcomed (h : Host κ) (b : Binding) :
    Alike { h with tcp := some b } (welcomed h b) := by
  have ha := (alike_forget h b.target).trans
    (alike_introduce (h.forget b.target) b h.rack.picture)
  exact ⟨ha.setup, ha.rack, rfl, ha.udp, ha.journal⟩

/-- Signing on fills a slot that is free, if the URL describes somebody, and no other. -/
lemma register_binding (h : Host κ) (t t' : Transport) (url : String) :
    (h.register t url).1.binding t' =
      if t' = t ∧ h.binding t = none then (Binding.ofUrl h.setup.names t url).toOption
      else h.binding t' := by
  cases hb : h.binding t with
  | some current =>
    rw [register_occupied hb, if_neg (by simp)]
    exact (alike_turnAway h t url).binding t'
  | none =>
    cases hu : Binding.ofUrl h.setup.names t url with
    | error fault =>
      rw [register_nobody hb hu]
      by_cases ht : t' = t
      · rw [if_pos ⟨ht, rfl⟩, ht, hb]
        rfl
      · rw [if_neg (fun hc => ht hc.1)]
    | ok b =>
      have hslot : (h.register t url).1.binding t = some b := by
        cases t with
        | udp => rw [register_udp hb hu]; rfl
        | tcp =>
          rw [register_tcp hb hu]
          exact (alike_ask (welcomed h b) _ .internal).tcp.trans (alike_welcomed h b).tcp
      by_cases ht : t' = t
      · rw [if_pos ⟨ht, rfl⟩, ht, hslot]
        rfl
      · rw [if_neg (fun hc => ht hc.1)]
        cases t with
        | udp =>
          rw [register_udp hb hu]
          exact setBinding_binding_other _ (some b) ht
        | tcp =>
          have hudp : t' = .udp := by
            cases t' with
            | tcp => exact absurd rfl ht
            | udp => rfl
          subst hudp
          rw [register_tcp hb hu]
          exact (alike_ask (welcomed h b) _ .internal).udp.trans (alike_welcomed h b).udp

lemma register_binding_other (h : Host κ) {t t' : Transport} (url : String) (ht : t' ≠ t) :
    (h.register t url).1.binding t' = h.binding t' := by
  rw [register_binding, if_neg (fun hc => ht hc.1)]

/-- Whoever is in a slot after a registration that found it free is the one that was described. -/
lemma ofUrl_of_register {h : Host κ} {t : Transport} {url : String} {b : Binding}
    (hnone : h.binding t = none) (hb : (h.register t url).1.binding t = some b) :
    Binding.ofUrl h.setup.names t url = .ok b := by
  rw [register_binding, if_pos ⟨rfl, hnone⟩] at hb
  cases hu : Binding.ofUrl h.setup.names t url with
  | error fault =>
    rw [hu] at hb
    cases hb
  | ok c =>
    rw [hu] at hb
    cases hb
    rfl

@[simp] lemma register_setup (h : Host κ) (t : Transport) (url : String) :
    (h.register t url).1.setup = h.setup := by
  cases hb : h.binding t with
  | some current =>
    rw [register_occupied hb]
    exact (alike_turnAway h t url).setup
  | none =>
    cases hu : Binding.ofUrl h.setup.names t url with
    | error fault => rw [register_nobody hb hu]
    | ok b =>
      cases t with
      | udp => rw [register_udp hb hu]; rfl
      | tcp =>
        rw [register_tcp hb hu]
        exact (alike_ask (welcomed h b) _ .internal).setup.trans (alike_welcomed h b).setup

/-! ### Signing off -/

lemma unregister_owner {h : Host κ} {t : Transport} {current : Binding}
    (hb : h.binding t = some current) :
    h.unregister t current.owner = ((h.forget current.target).setBinding t none, .ok ()) := by
  simp only [Host.unregister, hb, if_true]

lemma unregister_stranger {h : Host κ} {t : Transport} {current : Binding}
    (hb : h.binding t = some current) {url : String} (hurl : current.owner ≠ url) :
    h.unregister t url = (h, .error (.ownerMismatch t current.owner url)) := by
  simp only [Host.unregister, hb, if_neg hurl]

lemma unregister_vacant {h : Host κ} {t : Transport} (hb : h.binding t = none) (url : String) :
    h.unregister t url = (h, .error (.notRegistered t)) := by
  simp only [Host.unregister, hb]

lemma unregister_succeeded {h : Host κ} {t : Transport} {url : String}
    (hok : (h.unregister t url).2 = .ok ()) : ∃ b, h.binding t = some b ∧ b.owner = url := by
  cases hb : h.binding t with
  | none =>
    rw [unregister_vacant hb] at hok
    cases hok
  | some b =>
    by_cases hurl : b.owner = url
    · exact ⟨b, rfl, hurl⟩
    · rw [unregister_stranger hb hurl] at hok
      cases hok

/-- Signing off empties the slot of the owner and no other. -/
lemma unregister_binding (h : Host κ) (t t' : Transport) (url : String) :
    (h.unregister t url).1.binding t' =
      if t' = t ∧ (h.binding t).map Binding.owner = some url then none else h.binding t' := by
  cases hb : h.binding t with
  | none =>
    rw [unregister_vacant hb, if_neg (by simp)]
  | some current =>
    by_cases hurl : current.owner = url
    · subst hurl
      rw [unregister_owner hb]
      by_cases ht : t' = t
      · rw [if_pos ⟨ht, rfl⟩, ht, setBinding_binding_self]
      · rw [if_neg (fun hc => ht hc.1)]
        exact setBinding_binding_other _ none ht
    · rw [unregister_stranger hb hurl, if_neg (by simp [hurl])]

lemma unregister_binding_other (h : Host κ) {t t' : Transport} (url : String) (ht : t' ≠ t) :
    (h.unregister t url).1.binding t' = h.binding t' := by
  rw [unregister_binding, if_neg (fun hc => ht hc.1)]

@[simp] lemma unregister_setup (h : Host κ) (t : Transport) (url : String) :
    (h.unregister t url).1.setup = h.setup := by
  unfold Host.unregister
  split
  · rfl
  · split
    · cases t <;> rfl
    · rfl

lemma unregister_rack (h : Host κ) (t : Transport) (url : String) :
    (h.unregister t url).1.rack = h.rack := by
  unfold Host.unregister
  split
  · rfl
  · split
    · cases t <;> rfl
    · rfl

end RackRemote.Proofs

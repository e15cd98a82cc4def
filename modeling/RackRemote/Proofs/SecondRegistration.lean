import RackRemote.Proofs.Ownership

/-!
# A second registration

Where somebody is registered, a registration is refused before its URL is looked at. All that comes
of it is one notice, and only if the URL can be read and its host is known. Whether the notice gets
through makes no difference, and the rack is not consulted.
-/

namespace RackRemote.Proofs

variable {κ : Type} [Courier κ]

/-- What a refused registration makes of a host: a notice has been sent to the one whom the URL
describes, on the transport of the desk, or nothing has happened. -/
inductive Dismissed (h : Host κ) (t : Transport) (url : String) : Host κ → Prop where
  | noticed {origin : OriginUrl} {address : SocketAddress} (read : OriginUrl.read url = .ok origin)
      (resolved : origin.resolve h.setup.names = .ok address) :
      Dismissed h t url
        (h.deliver ⟨t, address⟩ ⟨origin.path ++ "/exit-error", [.string conflictNotice]⟩).1
  | unnoticed (nobody : ∀ origin, OriginUrl.read url = .ok origin →
      ∀ address, origin.resolve h.setup.names ≠ .ok address) : Dismissed h t url h

lemma dismissed_turnAway (h : Host κ) (t : Transport) (url : String) :
    Dismissed h t url (h.turnAway t url) := by
  rw [Host.turnAway]
  cases hu : Binding.ofUrl h.setup.names t url with
  | ok b =>
    obtain ⟨origin, address, hread, hresolved, rfl⟩ := ofUrl_eq_ok.mp hu
    exact .noticed hread hresolved
  | error fault =>
    refine .unnoticed fun origin hread address hresolved => ?_
    rw [ofUrl_eq_ok.mpr ⟨origin, address, hread, hresolved, rfl⟩] at hu
    cases hu

lemma turnAway_rack (h : Host κ) (t : Transport) (url : String) (rack : Rack) :
    ({ h with rack } : Host κ).turnAway t url = { h.turnAway t url with rack } := by
  rw [Host.turnAway, Host.turnAway]
  cases Binding.ofUrl h.setup.names t url with
  | ok b => rfl
  | error fault => rfl

/-- Whatever the URL, a registration where somebody is registered is refused with the name of the one
who is. Both desks and the rack stay as they are, no connection is dropped, and at most one message is
sent: a notice to the address that the URL gives. With any other rack the same would have happened, so
nothing is asked of it. -/
theorem second_registration_refused {h : Host κ} {t : Transport} {current : Binding}
    (hb : h.binding t = some current) (url : String) :
    let h' := (h.register t url).1
    (h.register t url).2 = .error (.alreadyRegistered t current.owner) ∧
    (∀ t', h'.binding t' = h.binding t') ∧
    h'.rack = h.rack ∧
    Dismissed h t url h' ∧
    ∀ rack : Rack,
      ({ h with rack } : Host κ).register t url = ({ h' with rack }, (h.register t url).2) := by
  have ha := alike_turnAway h t url
  rw [register_occupied hb]
  refine ⟨rfl, ha.binding, ha.rack, dismissed_turnAway h t url, fun rack => ?_⟩
  have hb' : ({ h with rack } : Host κ).binding t = some current := by
    cases t <;> exact hb
  rw [register_occupied hb', turnAway_rack]

/-- The notice to somebody who gives a URL for datagrams is tried on TCP, and fails. -/
theorem second_registration_refused_unsent :
    let address : SocketAddress := ⟨.v4 0x7f000001#32, 1⟩
    let current : Binding := ⟨"osc.tcp://127.0.0.1:1/A", ⟨.tcp, address⟩, "/A"⟩
    let h : Host Quota :=
      { setup := { root := "rack" }, tcp := some current, courier := { tcp := some 0 } }
    let refused := h.register .tcp "osc.udp://127.0.0.1:01/B/"
    h.binding .tcp = some current ∧
      refused.2 = .error (.alreadyRegistered .tcp "osc.tcp://127.0.0.1:1/A") ∧
      refused.1.journal = [.sent ⟨.tcp, address⟩
        ⟨"/B/exit-error", [.string "OSC already registered to another client"]⟩ (.error .declined)] := by
  intro address current h refused
  obtain ⟨hanswer, -, -, hdismissed, -⟩ :=
    second_registration_refused (h := h) (t := .tcp) rfl "osc.udp://127.0.0.1:01/B/"
  refine ⟨rfl, hanswer, ?_⟩
  have hread : OriginUrl.read "osc.udp://127.0.0.1:01/B/" = .ok ⟨"udp", "127.0.0.1", 1, "/B"⟩ := by
    decide +kernel
  have hresolved : (⟨"udp", "127.0.0.1", 1, "/B"⟩ : OriginUrl).resolve h.setup.names = .ok address := by
    decide +kernel
  change Dismissed h .tcp _ refused.1 at hdismissed
  generalize refused.1 = h' at hdismissed ⊢
  cases hdismissed with
  | noticed read resolved =>
    rw [hread] at read
    cases read
    rw [hresolved] at resolved
    cases resolved
    rfl
  | unnoticed nobody => exact absurd hresolved (nobody _ hread address)

end RackRemote.Proofs

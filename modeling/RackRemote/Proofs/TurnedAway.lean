import RackRemote.Proofs.FreshStreams

/-!
# Turning a newcomer away

A registration at a desk where somebody is registered is answered by one notice, which goes to
whomever the URL describes. The host does not look who that is: if the URL describes the address of
the controller that is registered, the notice that it comes too late goes to this controller.
Otherwise the controller and its stream have no part in it.
-/

namespace RackRemote.Proofs

/-! ### The notice -/

section Notice

variable {κ : Type} [Courier κ] {h : Host κ} {t : Transport} {url : String} {current : Binding}

/-- What goes out when a registration is turned away. -/
def notices (h : Host κ) (t : Transport) (url : String) : List Entry :=
  match Binding.ofUrl h.setup.names t url with
  | .ok b => sending b.target h.courier [b.conflict]
  | .error _ => []

lemma mem_notices {target : Target} {m : Osc.Message} :
    (target, m) ∈ attempts (notices h t url) ↔
      ∃ b, Binding.ofUrl h.setup.names t url = .ok b ∧ b.target = target ∧ b.conflict = m := by
  rw [notices]
  cases Binding.ofUrl h.setup.names t url with
  | error fault => simp [attempts]
  | ok b => simp [attempts_sending, eq_comm]

lemma entered_turnAway (h : Host κ) (t : Transport) (url : String) :
    Entered h (h.turnAway t url) (notices h t url) := by
  rw [Host.turnAway, notices]
  cases Binding.ofUrl h.setup.names t url with
  | ok b => exact entered_deliver h b.target b.conflict
  | error fault => exact Entered.refl h

/-- What comes of a registration at a desk where somebody is registered. -/
structure TurnedAway (h : Host κ) (t : Transport) (url : String) (current : Binding) : Prop where
  answer : (h.register t url).2 = .error (.alreadyRegistered t current.owner)
  rack : (h.register t url).1.rack = h.rack
  binding : ∀ t', (h.register t url).1.binding t' = h.binding t'
  entered : Entered h (h.register t url).1 (notices h t url)
  /-- The controller that is registered is sent the notice if the URL describes its own address. -/
  overheard : (∃ m, (current.target, m) ∈ attempts (notices h t url)) ↔
    address? h.setup.names url = address? h.setup.names current.owner

lemma turnedAway_register (hb : h.binding t = some current)
    (hdescribed : Binding.ofUrl h.setup.names t current.owner = .ok current) (url : String) :
    TurnedAway h t url current := by
  have ha := alike_turnAway h t url
  have howner := address?_eq_some hdescribed
  refine ⟨?_, ?_, ?_, ?_, fun hheard => ?_, fun haddress => ?_⟩
  · rw [register_occupied hb]
  · rw [register_occupied hb]
    exact ha.rack
  · rw [register_occupied hb]
    exact ha.binding
  · rw [register_occupied hb]
    exact entered_turnAway h t url
  · obtain ⟨m, hm⟩ := hheard
    obtain ⟨b, hu, htarget, _⟩ := mem_notices.mp hm
    rw [address?_eq_some hu, howner, htarget]
  · cases hu : Binding.ofUrl h.setup.names t url with
    | error fault =>
      rw [address?_eq_none hu, howner] at haddress
      cases haddress
    | ok b =>
      rw [address?_eq_some hu, howner] at haddress
      refine ⟨b.conflict, mem_notices.mpr ⟨b, hu, ?_, rfl⟩⟩
      rw [ofUrl_target hu, ofUrl_target hdescribed, Option.some.inj haddress]

end Notice

/-! ### The stream of the controller -/

section Streams

variable {ν : Type}

/-- An attempt has to do with a target: it is made at its address, or on a stream opened to it. -/
def Exchange.concerns (target : Target) (opened : List (SocketAddress × Nat)) : Exchange → Prop
  | connect _ a _ => target = ⟨.tcp, a⟩
  | write id _ _ => target.transport = .tcp ∧ (target.address, id) ∈ opened
  | datagram a _ _ => target = ⟨.udp, a⟩

lemma target_eq {target other : Target} (htransport : target.transport = other.transport)
    (haddress : target.address = other.address) : target = other := by
  cases target
  cases htransport
  cases haddress
  rfl

/-- What has happened between two hosts had nothing to do with a target. -/
structure Untouched (h h' : Host (Sockets (Watched ν))) (target : Target) : Prop where
  seen : ∃ xs, h'.courier.network.seen = h.courier.network.seen ++ xs ∧
    ∀ x ∈ xs, ¬x.concerns target (openings h'.courier.network.seen)
  stream : h'.courier.open? target.address = h.courier.open? target.address

lemma untouched_refl (h : Host (Sockets (Watched ν))) (target : Target) : Untouched h h target :=
  ⟨⟨[], (List.append_nil _).symm, List.forall_mem_nil _⟩, rfl⟩

variable [Network ν]

/-- What a message is written on is a stream that was opened to its address. -/
lemma opened_of_write {s : Sockets (Watched ν)} {ps : List Posting} (hs : Sound s ps)
    {a : SocketAddress} {m : Osc.Message} {x : Exchange} {id : Nat}
    (hx : x ∈ (post s ⟨.tcp, a⟩ m).exchanges) (hw : x.isWriteOn id) :
    (a, id) ∈ openings (Courier.send s ⟨.tcp, a⟩ m).1.network.seen := by
  have hwrites : (post s ⟨.tcp, a⟩ m).writesOn id := List.any_eq_true.mpr ⟨x, hx, hw⟩
  have hposting := List.mem_append_right ps (List.mem_singleton_self (post s ⟨.tcp, a⟩ m))
  exact (hs.writes_step (posted_post s ⟨.tcp, a⟩ m) _ hposting id hwrites).2

lemma not_concerns_post {s : Sockets (Watched ν)} {ps : List Posting} (hs : Sound s ps)
    {target other : Target} (hne : other ≠ target) (m : Osc.Message) :
    ∀ x ∈ (post s target m).exchanges,
      ¬x.concerns other (openings (Courier.send s target m).1.network.seen) := by
  intro x hx hconcerns
  obtain ⟨t, a⟩ := target
  cases t with
  | udp =>
    obtain ⟨outcome, hexchanges, _⟩ := post_udp s a m
    rw [hexchanges] at hx
    obtain rfl := List.mem_singleton.mp hx
    exact hne hconcerns
  | tcp =>
    obtain ⟨-, hd⟩ := post_tcp s a m
    rcases hd.aimed x hx with ⟨id, result, rfl⟩ | ⟨id, hw⟩
    · exact hne hconcerns
    · -- A stream has one peer, and this one was opened for the target.
      have hopened := opened_of_write hs hx hw
      cases x with
      | write k bytes failure =>
        obtain rfl : k = id := beq_iff_eq.mp hw
        obtain ⟨htransport, hother⟩ := hconcerns
        have hnumbers := hs.numbers_step (posted_post s ⟨.tcp, a⟩ m)
        exact hne (target_eq htransport (peer_unique hnumbers hother hopened))
      | _ => cases hw

lemma untouched_deliver {h : Host (Sockets (Watched ν))} {ps : List Posting}
    (hs : Sound h.courier ps) {target other : Target} (hne : other ≠ target)
    (htransport : other.transport = target.transport) (m : Osc.Message) :
    Untouched h (h.deliver target m).1 other where
  seen := ⟨_, (posted_post h.courier target m).seen, not_concerns_post hs hne m⟩
  stream := by
    obtain ⟨t, a⟩ := target
    cases t with
    | udp => rfl
    | tcp =>
      obtain ⟨-, hd⟩ := post_tcp h.courier a m
      exact hd.lookup_other fun haddress => hne (target_eq htransport haddress)

lemma untouched_register {h : Host (Sockets (Watched ν))} (hk : Kept h) {t : Transport}
    {current : Binding} (hb : h.binding t = some current) {url : String}
    (hother : address? h.setup.names url ≠ address? h.setup.names current.owner) :
    Untouched h (h.register t url).1 current.target := by
  obtain ⟨ps, hs⟩ := hk.sound
  obtain ⟨owner, hseated⟩ := hk.seated t
  have hdescribed := hseated.described current hb
  rw [register_occupied hb, Host.turnAway]
  cases hu : Binding.ofUrl h.setup.names t url with
  | error fault => exact untouched_refl h current.target
  | ok b =>
    have htarget := ofUrl_target hu
    have hcurrent := ofUrl_target hdescribed
    refine untouched_deliver hs (fun heq => hother ?_) ?_ b.conflict
    · rw [address?_eq_some hu, address?_eq_some hdescribed, heq]
    · rw [htarget, hcurrent]

end Streams

/-- Whatever has happened before, a registration at a desk where somebody is registered is refused
and answered by one notice to whomever the URL describes; the rack, the desks and everything else
stay as they are. The controller that is registered is sent the notice exactly if the URL describes
its own address, however it is spelled. Otherwise nothing is tried at its address or on a stream that
was ever opened to it, and the stream that is open stays open. -/
theorem turned_away_reaches_described (setup : Setup) (rack : Rack) :
    (∀ {κ : Type} [Courier κ] {courier : κ} {h₀ : Host κ},
      Host.start? setup rack courier = some h₀ → ∀ (moves : List Move) (t : Transport)
        (url : String) (current : Binding), (run h₀ moves).binding t = some current →
          TurnedAway (run h₀ moves) t url current) ∧
    ∀ {ν : Type} [Network ν] {network : ν} {h₀ : Host (Sockets (Watched ν))},
      Host.start? setup rack (unused network) = some h₀ → ∀ turns : List (Turn ν),
        let h := (turns.map Turn.watched).foldl turn h₀
        unwatching.host h = turns.foldl turn { setup, rack, courier := { network } } ∧
        ∀ (t : Transport) (url : String) (current : Binding), h.binding t = some current →
          TurnedAway h t url current ∧
          (address? h.setup.names url ≠ address? h.setup.names current.owner →
            Untouched h (h.register t url).1 current.target) := by
  refine ⟨?_, ?_⟩
  · intro κ _ courier h₀ hs moves t url current hb
    have hseated := seated_run (seated_start hs t) moves
    refine turnedAway_register hb ?_ url
    rw [run_setup]
    exact hseated.described current hb
  · intro ν _ network h₀ hs turns h
    have hk : Kept h := (Kept.start hs).turns turns
    refine ⟨?_, fun t url current hb => ⟨?_, untouched_register hk hb⟩⟩
    · obtain rfl := start?_eq_some hs
      exact unwatching_turns _ turns
    · obtain ⟨owner, hseated⟩ := hk.seated t
      exact turnedAway_register hb (hseated.described current hb) url

/-- A controller that registers twice is told that another one is registered. -/
theorem turned_away_by_itself :
    let url := "osc.tcp://127.0.0.1:19000/R"
    let h : Host Quota := run { setup := { root := "rack" }, courier := {} } [.register .tcp url]
    ∃ current, h.tcp = some current ∧ current.owner = url ∧
      (h.register .tcp url).2 = .error (.alreadyRegistered .tcp url) ∧
      (h.register .tcp url).1.journal = h.journal ++
        [.sent current.target ⟨"/R/exit-error", [.string conflictNotice]⟩ (.ok ())] := by
  exact ⟨_, rfl, rfl, rfl, rfl⟩

/-- A newcomer at another address leaves the controller alone. One that gives the controller's
address, in another spelling and with another path, has the notice sent there. -/
theorem turned_away_reaches_described_twice :
    let url := "osc.tcp://127.0.0.1:1/A"
    let same := "osc.udp://127.0.0.1:01/B"
    let other := "osc.tcp://127.0.0.1:2/B"
    let network : Loopback := { slots := [{}, {}, {}] }
    let turns : List (Turn Loopback) := [.move (.register .tcp url)]
    let h : Host Quota := run { setup := { root := "rack" }, courier := {} } [.register .tcp url]
    let g : Host (Sockets (Watched Loopback)) := (turns.map Turn.watched).foldl turn
      { setup := { root := "rack" }, courier := unused network }
    (∃ current, h.binding .tcp = some current ∧
      ∃ m, (current.target, m) ∈ attempts (notices h .tcp same)) ∧
    ∃ current, g.binding .tcp = some current ∧
      Untouched g (g.register .tcp other).1 current.target := by
  intro url same other network turns h g
  obtain ⟨hany, hsockets⟩ := turned_away_reaches_described { root := "rack" } {}
  have hs : Host.start? { root := "rack" } {} ({} : Quota) =
      some { setup := { root := "rack" }, courier := {} } := if_pos (by simp [isRootName])
  have hs' : Host.start? { root := "rack" } {} (unused network) =
      some { setup := { root := "rack" }, courier := unused network } :=
    if_pos (by simp [isRootName])
  obtain ⟨_, hreached⟩ := hsockets hs' turns
  have hfirst : (h.binding .tcp).map Binding.owner = some url := by decide +kernel
  have hsecond : (g.binding .tcp).map Binding.owner = some url := by decide +kernel
  obtain ⟨current, hb, howner⟩ := Option.map_eq_some_iff.mp hfirst
  obtain ⟨current', hb', howner'⟩ := Option.map_eq_some_iff.mp hsecond
  have hsame : address? h.setup.names same = address? h.setup.names current.owner := by
    rw [howner]
    decide +kernel
  have hother : address? g.setup.names other ≠ address? g.setup.names current'.owner := by
    rw [howner']
    decide +kernel
  exact ⟨⟨current, hb, (hany hs [.register .tcp url] .tcp same current hb).overheard.mpr hsame⟩,
    current', hb', (hreached .tcp other current' hb').2 hother⟩

end RackRemote.Proofs

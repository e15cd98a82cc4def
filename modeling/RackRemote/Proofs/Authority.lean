import Mathlib.Data.List.Induction
import RackRemote.Proofs.Ownership

/-!
# Who may use the rack

What a host asks of its rack on account of messages is in the rack's log, so the log tells who has had
a say: a newcomer on TCP, for whom the connections are reported, and otherwise nobody but a controller
that signed on over TCP and has not signed off since.
-/

namespace RackRemote.Proofs

variable {κ : Type} [Courier κ]

/-! ### Messages in order -/

def handleAll (h : Host κ) (ms : List (Transport × Osc.Message)) : Host κ :=
  ms.foldl (fun h m => (h.handle m.1 m.2).1) h

def receiveAll (h : Host κ) (packets : List (Transport × Osc.Packet)) : Host κ :=
  packets.foldl (fun h p => (h.handlePacket p.1 p.2).1) h

/-- The messages of packets in the order in which they are handled. -/
def messagesOf (packets : List (Transport × Osc.Packet)) : List (Transport × Osc.Message) :=
  packets.flatMap fun p => p.2.leaves.map (p.1, ·)

lemma handleAll_concat (h : Host κ) (ms : List (Transport × Osc.Message)) (t : Transport)
    (m : Osc.Message) : handleAll h (ms ++ [(t, m)]) = ((handleAll h ms).handle t m).1 := by
  rw [handleAll, List.foldl_append]
  rfl

lemma receiveAll_eq (h : Host κ) (packets : List (Transport × Osc.Packet)) :
    receiveAll h packets = handleAll h (messagesOf packets) := by
  induction packets generalizing h with
  | nil => rfl
  | cons p packets ih =>
    rw [receiveAll, List.foldl_cons, handlePacket_run, messagesOf, List.flatMap_cons, handleAll,
      List.foldl_append, List.foldl_map, run, List.foldl_map]
    exact ih _

lemma handleAll_setup (h : Host κ) (ms : List (Transport × Osc.Message)) :
    (handleAll h ms).setup = h.setup := by
  induction ms generalizing h with
  | nil => rfl
  | cons m ms ih => exact (ih _).trans (handle_setup h m.1 m.2)

/-! ### Signing on and off -/

def signOn (url : String) : Osc.Message := ⟨"/register", [.string url]⟩

def signOff (url : String) : Osc.Message := ⟨"/unregister", [.string url]⟩

/-- Among the messages that a host has handled is one by which a URL was registered on TCP, and none
after it by which the same URL was signed off. -/
def SignedOn (h : Host κ) (ms : List (Transport × Osc.Message)) (url : String) : Prop :=
  ∃ early late, ms = early ++ (.tcp, signOn url) :: late ∧
    ((handleAll h early).handle .tcp (signOn url)).2 = .ok (.register url) ∧
    (.tcp, signOff url) ∉ late

lemma SignedOn.concat {h : Host κ} {ms : List (Transport × Osc.Message)} {url : String}
    (hs : SignedOn h ms url) {t : Transport} {m : Osc.Message}
    (hm : (t, m) ≠ (.tcp, signOff url)) : SignedOn h (ms ++ [(t, m)]) url := by
  obtain ⟨early, late, rfl, haccepted, hlate⟩ := hs
  refine ⟨early, late ++ [(t, m)], List.append_assoc .., haccepted, fun hmem => ?_⟩
  rcases List.mem_append.mp hmem with hmem | hmem
  · exact hlate hmem
  · exact hm (List.mem_singleton.mp hmem).symm

lemma handle_signOn {h : Host κ} (hvacant : h.tcp = none) {url : String} {b : Binding}
    (hu : Binding.ofUrl h.setup.names .tcp url = .ok b) :
    (h.handle .tcp (signOn url)).2 = .ok (.register url) := by
  have hd : h.decide .tcp (signOn url) = .ok (.register url) := rfl
  simp only [Host.handle, hd, Host.execute, register_tcp hvacant hu]

lemma register_tcp_cases {h : Host κ} {t : Transport} {url : String} {b : Binding}
    (hb : (h.register t url).1.tcp = some b) :
    h.tcp = some b ∨
      (t = .tcp ∧ h.tcp = none ∧ b.owner = url ∧ Binding.ofUrl h.setup.names .tcp url = .ok b) := by
  have hbinding : (h.register t url).1.binding .tcp = some b := hb
  rw [register_binding] at hbinding
  split at hbinding
  · rename_i hfree
    obtain ⟨rfl, hvacant⟩ := hfree
    cases hu : Binding.ofUrl h.setup.names .tcp url with
    | error fault =>
      rw [hu] at hbinding
      cases hbinding
    | ok c =>
      rw [hu] at hbinding
      cases hbinding
      obtain ⟨_, _, _, _, rfl⟩ := ofUrl_eq_ok.mp hu
      exact .inr ⟨rfl, hvacant, rfl, rfl⟩
  · exact .inl hbinding

lemma unregister_tcp_cases {h : Host κ} {t : Transport} {url : String} {b : Binding}
    (hb : (h.unregister t url).1.tcp = some b) :
    h.tcp = some b ∧ ¬(t = .tcp ∧ url = b.owner) := by
  have hbinding : (h.unregister t url).1.binding .tcp = some b := hb
  rw [unregister_binding] at hbinding
  split at hbinding
  · cases hbinding
  · rename_i hkept
    refine ⟨hbinding, ?_⟩
    rintro ⟨rfl, rfl⟩
    exact hkept ⟨rfl, congrArg (Option.map Binding.owner) hbinding⟩

/-- Whoever holds the slot on TCP after a message has held it before and does not sign off with it,
or signs on with it. -/
lemma handle_tcp_cases {h : Host κ} {t : Transport} {m : Osc.Message} {b : Binding}
    (hb : (h.handle t m).1.tcp = some b) :
    (h.tcp = some b ∧ (t, m) ≠ (.tcp, signOff b.owner)) ∨
      (t = .tcp ∧ m = signOn b.owner ∧ (h.handle t m).2 = .ok (.register b.owner)) := by
  have hbinding : (h.handle t m).1.binding .tcp = some b := hb
  rw [handle_binding] at hbinding
  cases hm : deskRequest? m with
  | none =>
    rw [hm] at hbinding
    refine .inl ⟨hbinding, ?_⟩
    rintro ⟨⟩
    cases hm
  | some r =>
    rw [hm] at hbinding
    cases r with
    | register url =>
      obtain rfl := deskRequest?_register hm
      rcases register_tcp_cases hbinding with hbefore | ⟨rfl, hvacant, rfl, hu⟩
      · refine .inl ⟨hbefore, fun hq => ?_⟩
        have haddress : "/register" = "/unregister" := congrArg (fun p => p.2.address) hq
        exact absurd haddress (by decide)
      · exact .inr ⟨rfl, rfl, handle_signOn hvacant hu⟩
    | unregister url =>
      obtain rfl := deskRequest?_unregister hm
      obtain ⟨hbefore, hother⟩ := unregister_tcp_cases hbinding
      refine .inl ⟨hbefore, ?_⟩
      rintro ⟨⟩
      exact hother ⟨rfl, rfl⟩

lemma signedOn_of_bound {h : Host κ} (hvacant : h.tcp = none)
    (ms : List (Transport × Osc.Message)) {b : Binding} (hb : (handleAll h ms).tcp = some b) :
    SignedOn h ms b.owner := by
  induction ms using List.reverseRecOn with
  | nil =>
    have hnone : h.tcp = some b := hb
    rw [hvacant] at hnone
    cases hnone
  | append_singleton ms m ih =>
    rw [handleAll_concat] at hb
    rcases handle_tcp_cases hb with ⟨hbefore, hm⟩ | ⟨ht, hm, haccepted⟩
    · exact (ih hbefore).concat hm
    · obtain ⟨t, m⟩ := m
      dsimp only at ht hm haccepted
      subst ht hm
      exact ⟨ms, [], rfl, haccepted, List.not_mem_nil⟩

/-! ### The log of requests -/

/-- What a message can add to the log of the rack's requests. -/
inductive Logged (h : Host κ) (t : Transport) (m : Osc.Message) : List (Request × Origin) → Prop where
  | nothing : Logged h t m []
  /-- The connections are to be reported to a newcomer. -/
  | welcome {url : String} (tcp : t = .tcp) (message : m = signOn url)
      (accepted : (h.handle t m).2 = .ok (.register url)) :
      Logged h t m [(.refresh h.setup.systemPorts, .internal)]
  | command {c : GlobalCommand} {request : Request} (tcp : t = .tcp)
      (path : m.address = "/ctrl/" ++ c.name) (registered : h.tcp ≠ none) :
      Logged h t m [(request, c.origin)]

lemma Logged.only {h : Host κ} {t : Transport} {m : Osc.Message} {log : List (Request × Origin)}
    (hlogged : Logged h t m log) {i : Nat} {entry : Request × Origin}
    (he : log[i]? = some entry) : i = 0 ∧ log = [entry] := by
  obtain ⟨hi, hentry⟩ := List.getElem?_eq_some_iff.mp he
  cases hlogged with
  | nothing => exact absurd hi (Nat.not_lt_zero i)
  | welcome =>
    obtain rfl := Nat.lt_one_iff.mp hi
    exact ⟨rfl, congrArg (fun e => [e]) hentry⟩
  | command =>
    obtain rfl := Nat.lt_one_iff.mp hi
    exact ⟨rfl, congrArg (fun e => [e]) hentry⟩

lemma ask_logged {h : Host κ} {request : Request} (origin : Origin)
    (hheard : h.setup.declinesRefresh → ∀ all, request ≠ .refresh all) :
    (h.ask request origin).1.rack.requests = h.rack.requests ++ [(request, origin)] := by
  have hperform : (h.perform request origin).1.rack.requests =
      h.rack.requests ++ [(request, origin)] := by
    rw [(alike_perform h request origin).rack, perform_requests]
  cases request with
  | refresh all =>
    have hgranted : ¬h.setup.declinesRefresh := fun hdeclines => hheard hdeclines all rfl
    rw [Host.ask, if_neg hgranted]
    exact hperform
  | _ => exact hperform

lemma ask_requests (h : Host κ) (request : Request) (origin : Origin) :
    (h.ask request origin).1.rack.requests = h.rack.requests ∨
      (h.ask request origin).1.rack.requests = h.rack.requests ++ [(request, origin)] := by
  by_cases hheard : h.setup.declinesRefresh → ∀ all, request ≠ .refresh all
  · exact .inr (ask_logged origin hheard)
  · obtain ⟨hdeclines, hrefresh⟩ := Classical.not_imp.mp hheard
    obtain ⟨all, hall⟩ := not_forall.mp hrefresh
    obtain rfl := not_not.mp hall
    rw [Host.ask, if_pos hdeclines]
    exact .inl rfl

lemma register_requests (h : Host κ) (t : Transport) (url : String) :
    (h.register t url).1.rack.requests = h.rack.requests ∨
      (t = .tcp ∧ h.tcp = none ∧ (∃ b, Binding.ofUrl h.setup.names .tcp url = .ok b) ∧
        (h.register t url).1.rack.requests =
          h.rack.requests ++ [(.refresh h.setup.systemPorts, .internal)]) := by
  cases hb : h.binding t with
  | some current =>
    rw [register_occupied hb]
    exact .inl (congrArg Rack.requests (alike_turnAway h t url).rack)
  | none =>
    cases hu : Binding.ofUrl h.setup.names t url with
    | error fault =>
      rw [register_nobody hb hu]
      exact .inl rfl
    | ok b =>
      cases t with
      | udp =>
        rw [register_udp hb hu]
        exact .inl rfl
      | tcp =>
        have hw := alike_welcomed h b
        have hsetup : (welcomed h b).setup = h.setup := hw.setup
        have hrequests : (welcomed h b).rack.requests = h.rack.requests :=
          congrArg Rack.requests hw.rack
        rw [register_tcp hb hu, hsetup]
        rcases ask_requests (welcomed h b) (.refresh h.setup.systemPorts) .internal with hask | hask
        · exact .inl (hask.trans hrequests)
        · rw [hrequests] at hask
          exact .inr ⟨rfl, hb, ⟨b, hu⟩, hask⟩

lemma execute_requests {h : Host κ} {t : Transport} {m : Osc.Message} {order : Order}
    (hd : h.decide t m = .ok order) :
    ∃ log, (h.execute t order).1.rack.requests = h.rack.requests ++ log ∧ Logged h t m log := by
  have hnothing : ∀ {h' : Host κ}, h'.rack.requests = h.rack.requests →
      ∃ log, h'.rack.requests = h.rack.requests ++ log ∧ Logged h t m log := fun heq =>
    ⟨[], heq.trans (List.append_nil _).symm, .nothing⟩
  cases order with
  | register url =>
    obtain rfl := decide_eq_register hd
    rcases register_requests h t url with hsame | ⟨rfl, hvacant, ⟨b, hu⟩, hmore⟩
    · exact hnothing hsame
    · exact ⟨_, hmore, .welcome rfl rfl (handle_signOn hvacant hu)⟩
  | unregister url => exact hnothing (congrArg Rack.requests (unregister_rack h t url))
  | control c request =>
    obtain ⟨ht, hregistered, hpath, _⟩ := decide_eq_control hd
    rcases ask_requests h request c.origin with hask | hask
    · exact hnothing hask
    · exact ⟨_, hask, .command ht hpath hregistered⟩
  | plugin index key c action =>
    exact hnothing (congrArg Rack.requests (alike_act h key action .external).rack :)
  | forward index key method args =>
    exact hnothing (congrArg Rack.requests (alike_act h key (.custom method args) .external).rack :)
  | reserved index c => exact hnothing rfl

lemma handle_requests (h : Host κ) (t : Transport) (m : Osc.Message) :
    ∃ log, (h.handle t m).1.rack.requests = h.rack.requests ++ log ∧ Logged h t m log := by
  rw [(alike_handle h t m).rack]
  cases hd : h.decide t m with
  | error reason => exact ⟨[], (List.append_nil _).symm, .nothing⟩
  | ok order => exact execute_requests hd

/-- Every entry of the log has been made on account of one message. -/
lemma logged_at {h : Host κ} (hnew : h.rack.requests = []) (ms : List (Transport × Osc.Message))
    {i : Nat} {entry : Request × Origin}
    (he : (handleAll h ms).rack.requests[i]? = some entry) :
    ∃ early t m late, ms = early ++ (t, m) :: late ∧
      (handleAll h early).rack.requests.length = i ∧
      ((handleAll h early).handle t m).1.rack.requests =
        (handleAll h early).rack.requests ++ [entry] ∧
      Logged (handleAll h early) t m [entry] := by
  induction ms using List.reverseRecOn with
  | nil =>
    have hnone : h.rack.requests[i]? = some entry := he
    rw [hnew] at hnone
    cases hnone
  | append_singleton ms m ih =>
    obtain ⟨t, m⟩ := m
    obtain ⟨log, hlog, hlogged⟩ := handle_requests (handleAll h ms) t m
    rw [handleAll_concat, hlog] at he
    by_cases hi : i < (handleAll h ms).rack.requests.length
    · rw [List.getElem?_append_left hi] at he
      obtain ⟨early, t', m', late, rfl, hearly⟩ := ih he
      exact ⟨early, t', m', late ++ [(t, m)], List.append_assoc .., hearly⟩
    · -- A message makes one entry at most, so this one is the next after those before.
      have hle := Nat.le_of_not_lt hi
      rw [List.getElem?_append_right hle] at he
      obtain ⟨hfirst, hentry⟩ := hlogged.only he
      rw [hentry] at hlog hlogged
      exact ⟨ms, t, m, [], rfl, by omega, hlog, hlogged⟩

/-! ### Commands that are turned down -/

lemma handle_command_udp {h : Host κ} {m : Osc.Message} {name : String} (hname : name ≠ "")
    (hm : m.address = "/ctrl/" ++ name) :
    (h.handle .udp m).2 = .error (.transportNotAllowed m.address .udp) := by
  have hd : h.decide .udp m = .error (.transportNotAllowed m.address .udp) := by
    rw [Host.decide, hm, ofPath_command hname]
    rfl
  rw [Host.handle, hd]

lemma handle_command_vacant {h : Host κ} {m : Osc.Message} {name : String} (hname : name ≠ "")
    (hm : m.address = "/ctrl/" ++ name) (hvacant : h.tcp = none) :
    (h.handle .tcp m).2 = .error (.notRegistered .tcp) := by
  have hd : h.decide .tcp m = .error (.notRegistered .tcp) := by
    rw [Host.decide, hm, ofPath_command hname]
    dsimp only
    rw [Host.decideControl, hvacant]
    rfl
  rw [Host.handle, hd]

/-- The rack is asked for something only when a newcomer is welcomed on TCP, and on the command of a
controller that signed on over TCP and has not signed off. No command gets through on UDP, and none
on TCP while nobody is registered there. -/
theorem requests_are_authorized {setup : Setup} {rack : Rack} {courier : κ} {h : Host κ}
    (hs : Host.start? setup rack courier = some h) (hnew : rack.requests = [])
    (packets : List (Transport × Osc.Packet)) :
    (∀ i entry, (receiveAll h packets).rack.requests[i]? = some entry →
      ∃ early m late, messagesOf packets = early ++ (.tcp, m) :: late ∧
        (handleAll h early).rack.requests.length = i ∧
        ((handleAll h early).handle .tcp m).1.rack.requests =
          (handleAll h early).rack.requests ++ [entry] ∧
        ((∃ url, m = signOn url ∧ ((handleAll h early).handle .tcp m).2 = .ok (.register url) ∧
            entry = (.refresh setup.systemPorts, .internal)) ∨
          ((∃ name, m.address = "/ctrl/" ++ name) ∧ ∃ url, SignedOn h early url))) ∧
    ∀ (g : Host κ) (m : Osc.Message) (name : String), name ≠ "" → m.address = "/ctrl/" ++ name →
      (g.handle .udp m).2 = .error (.transportNotAllowed m.address .udp) ∧
      (g.tcp = none → (g.handle .tcp m).2 = .error (.notRegistered .tcp)) := by
  obtain rfl := start?_eq_some hs
  refine ⟨fun i entry he => ?_, fun g m name hname hpath =>
    ⟨handle_command_udp hname hpath, handle_command_vacant hname hpath⟩⟩
  rw [receiveAll_eq] at he
  obtain ⟨early, t, m, late, hsplit, hlength, hentry, hlogged⟩ := logged_at hnew _ he
  cases hlogged with
  | welcome ht hm haccepted =>
    subst ht
    rw [handleAll_setup]
    rw [handleAll_setup] at hentry
    exact ⟨early, m, late, hsplit, hlength, hentry, .inl ⟨_, hm, haccepted, rfl⟩⟩
  | command ht hpath hregistered =>
    subst ht
    obtain ⟨b, hb⟩ := Option.ne_none_iff_exists'.mp hregistered
    exact ⟨early, m, late, hsplit, hlength, hentry,
      .inr ⟨⟨_, hpath⟩, b.owner, signedOn_of_bound rfl early hb⟩⟩

/-- A controller registered for datagrams asks in vain. One in the middle of a bundle on TCP signs on
and off, and of its three requests the second is heard. -/
theorem requests_are_authorized_bundle :
    let url := "osc.tcp://127.0.0.1:19000/R"
    let play : Osc.Message := ⟨"/ctrl/transport_play", []⟩
    let packets : List (Transport × Osc.Packet) :=
      [(.udp, .bundle ⟨0, 1⟩ [.message (signOn url), .message play]),
        (.tcp, .bundle ⟨0, 1⟩ [.message play, .message (signOn url),
          .bundle ⟨0, 1⟩ [.message play, .message (signOff url)], .message play])]
    ∃ h : Host Quota, Host.start? { root := "rack" } {} { tcp := some 0 } = some h ∧
      (receiveAll h packets).rack.requests = [(.refresh false, .internal), (.play, .external)] ∧
      (∃ early m late, messagesOf packets = early ++ (.tcp, m) :: late ∧
        (handleAll h early).rack.requests.length = 1 ∧ ∃ url, SignedOn h early url) ∧
      (h.handle .udp play).2 = .error (.transportNotAllowed play.address .udp) ∧
      (h.handle .tcp play).2 = .error (.notRegistered .tcp) := by
  intro url play packets
  have hs : Host.start? { root := "rack" } {} ({ tcp := some 0 } : Quota) =
      some { setup := { root := "rack" }, courier := { tcp := some 0 } } :=
    if_pos (by simp [isRootName])
  obtain ⟨hlog, hrefused⟩ := requests_are_authorized hs rfl packets
  have hrequests : (receiveAll (κ := Quota)
      { setup := { root := "rack" }, courier := { tcp := some 0 } } packets).rack.requests =
        [(.refresh false, .internal), (.play, .external)] := by decide +kernel
  obtain ⟨early, m, late, hsplit, hlength, _, ⟨_, _, _, hentry⟩ | ⟨_, hsigned⟩⟩ :=
    hlog 1 (.play, .external) (by rw [hrequests]; rfl)
  · cases hentry
  · obtain ⟨hudp, hvacant⟩ := hrefused _ play "transport_play" (by decide) rfl
    exact ⟨_, hs, hrequests, ⟨early, m, late, hsplit, hlength, hsigned⟩, hudp, hvacant rfl⟩

end RackRemote.Proofs

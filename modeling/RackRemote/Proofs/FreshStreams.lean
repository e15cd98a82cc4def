import RackRemote.Proofs.Framing
import RackRemote.Proofs.HostSteps
import RackRemote.Proofs.Recasting
import RackRemote.Proofs.Welcome

/-!
# A stream of its own for every newcomer

A controller that registers on TCP is shown the rack on a stream that is opened for it, whatever
stream to its address was open before, and a controller that signs off takes its stream with it. The
desk for datagrams has no bearing on streams.
-/

namespace RackRemote.Proofs
open Osc (frame)

variable {ν : Type} [Network ν]

/-! ### Messages in a row to one address -/

section Row

variable (s : Sockets (Watched ν)) (a : SocketAddress)

/-- What the network sees of messages in a row to an address. -/
def rowSeen (ms : List Osc.Message) : List Exchange :=
  (postings s (sendAll a ms)).flatMap Posting.exchanges

lemma rowSeen_cons (m : Osc.Message) (ms : List Osc.Message) :
    rowSeen s a (m :: ms) = (post s ⟨.tcp, a⟩ m).exchanges ++
      rowSeen (Courier.send s ⟨.tcp, a⟩ m).1 a ms := rfl

lemma seen_row (ms : List Osc.Message) :
    (performAll s (sendAll a ms)).network.seen = s.network.seen ++ rowSeen s a ms := by
  induction ms generalizing s with
  | nil => exact (List.append_nil _).symm
  | cons m ms ih =>
    have hfirst := (posted_post s ⟨.tcp, a⟩ m).seen
    rw [rowSeen_cons, ← List.append_assoc, ← hfirst]
    exact ih _

/-- Streams that are written on were open before or have been opened meanwhile. -/
lemma writes_row {ms : List Osc.Message} {id : Nat}
    (hw : (rowSeen s a ms).any (·.isWriteOn id)) :
    (a, id) ∈ s.current ∨ (a, id) ∈ openings (rowSeen s a ms) := by
  induction ms generalizing s with
  | nil => cases hw
  | cons m ms ih =>
    have hp := posted_post s ⟨.tcp, a⟩ m
    rw [rowSeen_cons, List.any_append, Bool.or_eq_true] at hw
    rw [rowSeen_cons, openings, List.filterMap_append, List.mem_append]
    rcases hw with hw | hw
    · exact (hp.writes hw).2.imp_right .inl
    · rcases ih _ hw with hopen | hopened
      · exact (hp.current hopen).imp_right .inl
      · exact .inr (.inr hopened)

lemma arrived_row {ms : List Osc.Message} (hall : ∀ x ∈ rowSeen s a ms, x.succeeded) :
    ∀ p ∈ postings s (sendAll a ms), p.arrived := by
  induction ms generalizing s with
  | nil => exact List.forall_mem_nil _
  | cons m ms ih =>
    rw [rowSeen_cons, List.forall_mem_append] at hall
    obtain ⟨-, hd⟩ := post_tcp s a m
    exact List.forall_mem_cons.mpr ⟨hd.isOk_iff.mpr hall.1, ih _ hall.2⟩

/-- On an open stream messages that all arrive go out without a connection being tried. -/
lemma row_on_open {id : Nat} (hopen : s.open? a = some id) {ms : List Osc.Message}
    (harrived : ∀ p ∈ postings s (sendAll a ms), p.arrived) :
    (rowSeen s a ms).filter Exchange.isConnect = [] ∧
      (∀ k, (rowSeen s a ms).any (·.isWriteOn k) → k = id) ∧
      (performAll s (sendAll a ms)).open? a = some id := by
  induction ms generalizing s with
  | nil => exact ⟨rfl, nofun, hopen⟩
  | cons m ms ih =>
    obtain ⟨-, hd⟩ := post_tcp s a m
    obtain ⟨hquiet, hwrites⟩ := hd.reuses hopen
    have hstill := (hd.arrives_on (harrived _ List.mem_cons_self)).1
    rw [hopen] at hstill
    obtain ⟨hquiet', hwrites', hend⟩ :=
      ih (Courier.send s ⟨.tcp, a⟩ m).1 hstill fun p hp => harrived p (List.mem_cons_of_mem _ hp)
    refine ⟨?_, fun k hk => ?_, hend⟩
    · rw [rowSeen_cons, List.filter_append, hquiet, hquiet', List.append_nil]
    · rw [rowSeen_cons, List.any_append, Bool.or_eq_true] at hk
      exact hk.elim (hwrites k).mp (hwrites' k)

/-- Without one, they go out on the next stream, which is opened for the first of them. -/
lemma row_on_next (hvacant : s.open? a = none) {m : Osc.Message} {ms : List Osc.Message}
    (hall : ∀ x ∈ rowSeen s a (m :: ms), x.succeeded) :
    (rowSeen s a (m :: ms)).filter Exchange.isConnect = [.connect s.streams.length a (.ok ())] ∧
      (∀ k, (rowSeen s a (m :: ms)).any (·.isWriteOn k) → k = s.streams.length) ∧
      (performAll s (sendAll a (m :: ms))).open? a = some s.streams.length := by
  have harrived := arrived_row s a hall
  rw [rowSeen_cons, List.forall_mem_append] at hall
  obtain ⟨-, hd⟩ := post_tcp s a m
  obtain ⟨result, hconnect, hwrites⟩ := hd.opens_anew hvacant
  have hstill := (hd.arrives_on (harrived _ List.mem_cons_self)).1
  rw [hvacant] at hstill
  have hopened : result = .ok () := by
    have hmem : Exchange.connect s.streams.length a result ∈ (post s ⟨.tcp, a⟩ m).exchanges := by
      apply List.mem_of_mem_filter (p := Exchange.isConnect)
      rw [hconnect]
      exact List.mem_singleton_self _
    have hok := hall.1 _ hmem
    cases result with
    | ok _ => rfl
    | error _ => cases hok
  obtain ⟨hquiet, hwrites', hend⟩ := row_on_open (Courier.send s ⟨.tcp, a⟩ m).1 a hstill
    fun p hp => harrived p (List.mem_cons_of_mem _ hp)
  refine ⟨?_, fun k hk => ?_, hend⟩
  · rw [rowSeen_cons, List.filter_append, hconnect, hquiet, List.append_nil, hopened]
  · rw [rowSeen_cons, List.any_append, Bool.or_eq_true] at hk
    exact hk.elim (fun hfirst => ((hwrites k).mp hfirst).1) (hwrites' k)

/-- The entries about messages in a row say what their courier is like afterwards. -/
lemma replay_sending (ms : List Osc.Message) :
    (sending ⟨.tcp, a⟩ s ms).foldl replay s = performAll s (sendAll a ms) := by
  induction ms generalizing s with
  | nil => rfl
  | cons m ms ih => exact ih (Courier.send s ⟨.tcp, a⟩ m).1

lemma undisturbed_sending {ms : List Osc.Message}
    (harrived : ∀ p ∈ postings s (sendAll a ms), p.arrived) :
    Undisturbed ⟨.tcp, a⟩ (sending ⟨.tcp, a⟩ s ms) := by
  induction ms generalizing s with
  | nil => exact List.forall_mem_nil _
  | cons m ms ih =>
    have hfirst : (Courier.send s ⟨.tcp, a⟩ m).2.isOk := harrived _ List.mem_cons_self
    rw [sending]
    refine List.forall_mem_cons.mpr
      ⟨?_, ih _ fun p hp => harrived p (List.mem_cons_of_mem _ hp)⟩
    cases hsent : (Courier.send s ⟨.tcp, a⟩ m).2 with
    | ok _ => rfl
    | error failure =>
      rw [hsent] at hfirst
      cases hfirst

end Row

/-! ### What a newcomer is sent -/

section Newcomer

variable {κ : Type} [Courier κ]

/-- The messages that show a newcomer the rack. -/
def snapshot (h : Host κ) (b : Binding) : List Osc.Message :=
  (h.rack.picture ++ told h).map (Event.message b.path)

/-- Registration drops the stream to the newcomer's address and then sends it messages in a row: the
whole snapshot, if none of them gets lost. -/
lemma entered_register_row {h : Host κ} {url : String} {b : Binding} (hvacant : h.tcp = none)
    (hu : Binding.ofUrl h.setup.names .tcp url = .ok b) :
    ∃ entries m ms, Entered h (h.register .tcp url).1 entries ∧
      traffic entries =
        .forgot b.target :: sending b.target (Courier.forget h.courier b.target) (m :: ms) ∧
      (Undisturbed b.target (sending b.target (Courier.forget h.courier b.target) (m :: ms)) →
        m :: ms = snapshot h b) := by
  obtain ⟨entries, hentered, htraffic⟩ := entered_register_told hvacant hu
  obtain ⟨front, hfront, hwhole⟩ := untilLost_sending b.target (Courier.forget h.courier b.target)
    (h.rack.picture.map (Event.message b.path))
  rw [shownTo, hfront, ← sending_append] at htraffic
  -- The first message is about the engine and is tried in any case.
  obtain ⟨m, ms, hms⟩ : ∃ m ms, front ++ (told h).map (Event.message b.path) = m :: ms := by
    cases front with
    | cons m front => exact ⟨m, _, rfl⟩
    | nil => cases hwhole (List.forall_mem_nil _)
  rw [hms] at htraffic
  refine ⟨entries, m, ms, hentered, htraffic, fun hundisturbed => ?_⟩
  rw [← hms, sending_append] at hundisturbed
  have hpicture := hwhole fun e he => hundisturbed e (List.mem_append_left _ he)
  rw [← hms, hpicture, snapshot, List.map_append]

end Newcomer

/-- Between two hosts, a controller was shown the rack on a stream of its own. -/
structure ShownAfresh (h h' : Host (Sockets (Watched ν))) (b : Binding) (xs : List Exchange) :
    Prop where
  seen : h'.courier.network.seen = h.courier.network.seen ++ xs
  /-- Every stream that was written on was opened meanwhile. -/
  fresh : ∀ id, xs.any (·.isWriteOn id) →
    h.courier.streams.length ≤ id ∧ (b.target.address, id) ∈ openings xs
  /-- If nothing fails, one stream was opened, and it carries the snapshot and nothing else. -/
  whole : (∀ x ∈ xs, x.succeeded) →
    xs.filter Exchange.isConnect = [.connect h.courier.streams.length b.target.address (.ok ())] ∧
    (∀ id, xs.any (·.isWriteOn id) → id = h.courier.streams.length) ∧
    bytesOn h.courier.streams.length h'.courier.network.seen =
      (snapshot h b).flatMap (fun m => frame m.encode) ∧
    h'.courier.open? b.target.address = some h.courier.streams.length

lemma open?_forget (s : Sockets (Watched ν)) (a c : SocketAddress) :
    (Courier.forget s ⟨.tcp, a⟩).open? c = if c = a then none else s.open? c :=
  lookup_filter s.current a c

omit [Network ν] in
/-- Streams are numbered on from those that there were. -/
lemma le_of_opened_since {s s' : Sockets (Watched ν)} {ps ps' : List Posting} (hs : Sound s ps)
    (hs' : Sound s' ps') {xs : List Exchange} (hseen : s'.network.seen = s.network.seen ++ xs)
    {a : SocketAddress} {id : Nat} (hopened : (a, id) ∈ openings xs) : s.streams.length ≤ id := by
  have hnodup : ((openings s.network.seen).map Prod.snd ++ (openings xs).map Prod.snd).Nodup := by
    rw [← List.map_append, openings, openings, ← List.filterMap_append, ← hseen, ← openings,
      hs'.numbers]
    exact List.nodup_range
  rw [hs.numbers] at hnodup
  by_contra hlt
  have hmem : id ∈ List.range s.streams.length := List.mem_range.mpr (Nat.lt_of_not_le hlt)
  exact List.disjoint_of_nodup_append hnodup hmem (List.mem_map_of_mem hopened)

section Desk

variable {h : Host (Sockets (Watched ν))} {ps : List Posting}

lemma shownAfresh_register (hs : Sound h.courier ps) (hvacant : h.tcp = none) {url : String}
    {b : Binding} (hu : Binding.ofUrl h.setup.names .tcp url = .ok b) :
    ∃ xs, ShownAfresh h (h.register .tcp url).1 b xs := by
  obtain ⟨a, htarget⟩ : ∃ a, b.target = ⟨.tcp, a⟩ := ⟨_, ofUrl_target hu⟩
  obtain ⟨entries, m, ms, hentered, htraffic, hwhole⟩ := entered_register_row hvacant hu
  rw [htarget] at htraffic hwhole
  have hfresh : (Courier.forget h.courier ⟨.tcp, a⟩).open? a = none := by
    rw [open?_forget, if_pos rfl]
  have hcourier : (h.register .tcp url).1.courier =
      performAll (Courier.forget h.courier ⟨.tcp, a⟩) (sendAll a (m :: ms)) := by
    rw [hentered.courier, ← foldl_replay_traffic, htraffic, List.foldl_cons]
    exact replay_sending _ a (m :: ms)
  have hsound := hs.forget ⟨.tcp, a⟩
  have hsound' := hsound.performAll (sendAll a (m :: ms))
  have hseen := seen_row (Courier.forget h.courier ⟨.tcp, a⟩) a (m :: ms)
  refine ⟨rowSeen (Courier.forget h.courier ⟨.tcp, a⟩) a (m :: ms), ?_⟩
  constructor
  · rw [hcourier]
    exact hseen
  · intro id hw
    have hopened := (writes_row _ a hw).resolve_left (not_mem_of_vacant hfresh id)
    rw [htarget]
    exact ⟨le_of_opened_since hsound hsound' hseen hopened, hopened⟩
  · intro hall
    have harrived := arrived_row _ a hall
    obtain ⟨hconnect, hwrites, hopen⟩ := row_on_next _ a hfresh hall
    have hbytes := bytesOn_sendAll _ a (m :: ms) harrived
    rw [hfresh, Option.getD_none, hsound.bytesOn_next, List.nil_append] at hbytes
    rw [htarget, hcourier, ← hwhole (undisturbed_sending _ a harrived)]
    exact ⟨hconnect, hwrites, hbytes, hopen⟩

/-- What is said at the desk for datagrams goes out as a datagram, if at all. -/
lemma register_udp_courier (h : Host (Sockets (Watched ν))) (url : String) :
    (h.register .udp url).1.courier.current = h.courier.current ∧
      (h.register .udp url).1.courier.streams = h.courier.streams := by
  cases hb : h.binding .udp with
  | some current =>
    rw [register_occupied hb, Host.turnAway]
    cases hu : Binding.ofUrl h.setup.names .udp url with
    | error fault => exact ⟨rfl, rfl⟩
    | ok b =>
      dsimp only
      rw [ofUrl_target hu]
      exact ⟨rfl, rfl⟩
  | none =>
    cases hu : Binding.ofUrl h.setup.names .udp url with
    | error fault =>
      rw [register_nobody hb hu]
      exact ⟨rfl, rfl⟩
    | ok b =>
      rw [register_udp hb hu, ofUrl_target hu]
      exact ⟨rfl, rfl⟩

end Desk

/-! ### Runs amid the network -/

/-- What happens to a host, or to the network around it. -/
inductive Turn (ν : Type) where
  | move (m : Move)
  /-- The network changes by itself: a peer resets a stream, goes away or comes back. -/
  | network (change : ν → ν)

def turn (h : Host (Sockets ν)) : Turn ν → Host (Sockets ν)
  | .move m => move h m
  | .network change =>
    { h with courier := { h.courier with network := change h.courier.network } }

/-- What is said of a network is said of one that is watched. -/
def Turn.watched : Turn ν → Turn (Watched ν)
  | .move m => .move m
  | .network change => .network fun w => { w with inner := change w.inner }

/-- A host whose network nobody watches. -/
def unwatching : Recasting (Sockets (Watched ν)) (Sockets ν) where
  courier := unwatch
  journal := id
  send := fun s target m => (unwatched_send s target m).symm
  forget := fun s target => (unwatched_forget s target).symm
  enter := fun _ _ _ => rfl

lemma unwatching_turn (h : Host (Sockets (Watched ν))) (t : Turn ν) :
    unwatching.host (turn h t.watched) = turn (unwatching.host h) t := by
  cases t with
  | network change => rfl
  | move m =>
    by_cases hm : ∃ t fault, m = .garbage t fault
    · obtain ⟨t, fault, rfl⟩ := hm
      rfl
    · have hproper : ∀ t fault, m ≠ .garbage t fault := fun t fault h => hm ⟨t, fault, h⟩
      exact (unwatching.host_move h hproper).symm

lemma Sound.replayed {s : Sockets (Watched ν)} {ps : List Posting} (hs : Sound s ps)
    (entries : List Entry) : ∃ ps', Sound (entries.foldl replay s) ps' := by
  induction entries generalizing s ps with
  | nil => exact ⟨ps, hs⟩
  | cons e entries ih =>
    cases e with
    | sent target m _ => exact ih (hs.step (posted_post s target m))
    | forgot target => exact ih (hs.forget target)
    | _ => exact ih hs

/-- How a host and its streams stand at any time. -/
structure Kept (h : Host (Sockets (Watched ν))) : Prop where
  sound : ∃ ps, Sound h.courier ps
  seated : ∀ t, ∃ owner, Seated h.setup.names t (h.binding t) owner

namespace Kept

omit [Network ν] in
lemma start {network : ν} {setup : Setup} {rack : Rack} {h : Host (Sockets (Watched ν))}
    (hs : Host.start? setup rack (unused network) = some h) : Kept h where
  sound := by
    rw [start?_eq_some hs]
    exact ⟨[], Sound.unused network⟩
  seated t := ⟨none, seated_start hs t⟩

variable {h : Host (Sockets (Watched ν))}

lemma turn (hk : Kept h) (t : Turn ν) : Kept (turn h t.watched) := by
  obtain ⟨ps, hs⟩ := hk.sound
  cases t with
  | network change =>
    -- Nothing that is said about sockets is about what their network is up to.
    exact ⟨⟨ps, { hs with }⟩, hk.seated⟩
  | move m =>
    constructor
    · obtain ⟨entries, hentered⟩ := accounted_move h m
      change ∃ ps, Sound (move h m).courier ps
      rw [hentered.courier]
      exact hs.replayed entries
    · intro t
      obtain ⟨owner, hseated⟩ := hk.seated t
      exact ⟨_, seated_move hseated m⟩

lemma turns (hk : Kept h) (turns : List (Turn ν)) :
    Kept ((turns.map Turn.watched).foldl Proofs.turn h) := by
  induction turns generalizing h with
  | nil => exact hk
  | cons t turns ih => exact ih (hk.turn t)

omit [Network ν] in
lemma target (hk : Kept h) {t : Transport} {b : Binding} (hb : h.binding t = some b) :
    b.target = ⟨t, b.target.address⟩ := by
  obtain ⟨owner, hseated⟩ := hk.seated t
  exact ofUrl_target (hseated.described b hb)

end Kept

lemma unwatching_turns (h : Host (Sockets (Watched ν))) (turns : List (Turn ν)) :
    unwatching.host ((turns.map Turn.watched).foldl turn h) =
      turns.foldl turn (unwatching.host h) := by
  induction turns generalizing h with
  | nil => rfl
  | cons t turns ih =>
    rw [List.map_cons, List.foldl_cons, List.foldl_cons, ih, unwatching_turn]

/-- Whatever has happened to a host and to the network around it, a controller that registers on TCP
is shown the rack on a stream opened for it, and one that signs off leaves no stream behind. The desk
for datagrams leaves all streams as they are. -/
theorem newcomer_has_fresh_stream {network : ν} {setup : Setup} {rack : Rack}
    {h₀ : Host (Sockets (Watched ν))} (hs : Host.start? setup rack (unused network) = some h₀)
    (turns : List (Turn ν)) :
    let h := (turns.map Turn.watched).foldl turn h₀
    unwatching.host h = turns.foldl turn { setup, rack, courier := { network } } ∧
    (∀ url, (h.register .tcp url).2 = .ok () → ∃ b xs,
      (h.register .tcp url).1.tcp = some b ∧ b.owner = url ∧ b.target.transport = .tcp ∧
      ShownAfresh h (h.register .tcp url).1 b xs) ∧
    (∀ url, (h.unregister .tcp url).2 = .ok () → ∃ b, h.tcp = some b ∧ b.owner = url ∧
      (h.unregister .tcp url).1.courier.network = h.courier.network ∧
      (h.unregister .tcp url).1.courier.streams = h.courier.streams ∧
      ∀ a, (h.unregister .tcp url).1.courier.open? a =
        if a = b.target.address then none else h.courier.open? a) ∧
    (∀ url, (h.register .udp url).1.courier.current = h.courier.current ∧
      (h.register .udp url).1.courier.streams = h.courier.streams ∧
      (h.unregister .udp url).1.courier = h.courier) ∧
    ∀ t url, (h.handle t ⟨"/register", [.string url]⟩).1.courier = (h.register t url).1.courier ∧
      (h.handle t ⟨"/unregister", [.string url]⟩).1.courier = (h.unregister t url).1.courier := by
  intro h
  have hk : Kept h := (Kept.start hs).turns turns
  obtain ⟨ps, hsound⟩ := hk.sound
  refine ⟨?_, ?_, ?_, ?_, ?_⟩
  · obtain rfl := start?_eq_some hs
    exact unwatching_turns _ turns
  · intro url hok
    obtain ⟨hvacant, b, hu⟩ := register_succeeded hok
    obtain ⟨xs, hshown⟩ := shownAfresh_register hsound hvacant hu
    have hbound : (h.register .tcp url).1.binding .tcp = some b := by
      rw [register_binding, if_pos ⟨rfl, hvacant⟩, hu]
      rfl
    exact ⟨b, xs, hbound, ofUrl_owner hu, congrArg Target.transport (ofUrl_target hu), hshown⟩
  · intro url hok
    obtain ⟨b, hb, rfl⟩ := unregister_succeeded hok
    have htarget := hk.target hb
    rw [unregister_owner hb, htarget]
    exact ⟨b, hb, rfl, rfl, rfl, open?_forget h.courier b.target.address⟩
  · intro url
    refine ⟨(register_udp_courier h url).1, (register_udp_courier h url).2, ?_⟩
    cases hb : h.binding .udp with
    | none => rw [unregister_vacant hb]
    | some b =>
      by_cases hurl : b.owner = url
      · subst hurl
        rw [unregister_owner hb, hk.target hb]
        rfl
      · rw [unregister_stranger hb hurl]
  · intro t url
    have hon : h.decide t ⟨"/register", [.string url]⟩ = .ok (.register url) := rfl
    have hoff : h.decide t ⟨"/unregister", [.string url]⟩ = .ok (.unregister url) := rfl
    exact ⟨handle_courier h hon, handle_courier h hoff⟩

/-- The newcomer has been turned away before. The stream of that notice is still open, and its peer
has reset it since. -/
theorem newcomer_has_fresh_stream_turned_away :
    let first := "osc.tcp://127.0.0.1:1/A"
    let url := "osc.tcp://127.0.0.1:2/B"
    let network : Loopback := { slots := [{}, {}, {}] }
    let turns : List (Turn Loopback) :=
      [.move (.load "Piano"), .move (.register .tcp first),
        .move (.message .tcp ⟨"/register", [.string url]⟩), .network (·.abort 2 true),
        .move (.message .udp ⟨"/register", [.string url]⟩), .move (.unregister .tcp first)]
    let h : Host (Sockets (Watched Loopback)) := (turns.map Turn.watched).foldl turn
      { setup := { root := "rack" }, courier := unused network }
    let h' := (h.register .tcp url).1
    h.courier.open? (Loopback.address 1) = none ∧ h.courier.open? (Loopback.address 2) = some 1 ∧
      (h.register .tcp url).2 = .ok () ∧
      (∃ b, h'.tcp = some b ∧ b.owner = url ∧
        bytesOn 2 h'.courier.network.seen = (snapshot h b).flatMap (fun m => frame m.encode) ∧
        h'.courier.open? b.target.address = some 2) ∧
      ∃ b, h'.tcp = some b ∧ (h'.unregister .tcp url).1.courier.open? b.target.address = none := by
  intro first url network turns h h'
  have hs : Host.start? { root := "rack" } {} (unused network) =
      some { setup := { root := "rack" }, courier := unused network } :=
    if_pos (by simp [isRootName])
  obtain ⟨_, hregister, _⟩ := newcomer_has_fresh_stream hs turns
  have hregistered : (h.register .tcp url).2 = .ok () := by decide +kernel
  refine ⟨by decide +kernel, by decide +kernel, hregistered, ?_, ?_⟩
  · obtain ⟨b, xs, hb, howner, _, hshown⟩ := hregister url hregistered
    have hxs : xs = h'.courier.network.seen.drop h.courier.network.seen.length := by
      rw [hshown.seen, List.drop_left]
    have hall : ∀ x ∈ h'.courier.network.seen.drop h.courier.network.seen.length, x.succeeded := by
      decide +kernel
    obtain ⟨_, _, hbytes, hopen⟩ := hshown.whole (hxs ▸ hall)
    have hnext : h.courier.streams.length = 2 := by decide +kernel
    rw [hnext] at hbytes hopen
    exact ⟨b, hb, howner, hbytes, hopen⟩
  · obtain ⟨_, _, hunregister, _⟩ :=
      newcomer_has_fresh_stream hs (turns ++ [.move (.register .tcp url)])
    obtain ⟨b, hb, _, _, _, hopen⟩ := hunregister url (by decide +kernel)
    refine ⟨b, hb, (hopen b.target.address).trans (if_pos rfl)⟩

end RackRemote.Proofs

import Mathlib.Data.List.Induction
import Mathlib.Data.List.Nodup
import RackRemote.Net.Bench
import RackRemote.Proofs.PacketCodec
import RackRemote.Proofs.Sending

/-!
# What the streams carry

Sockets are sent on errands, and a watched network tells what became of each message. However the
attempts come out, a stream carries whole frames of messages that arrived, in order, and at its end
perhaps the beginning of one more; after that it is never written to again.
-/

namespace RackRemote.Proofs

variable {ν : Type}

/-! ### Messages and streams -/

/-- A message that was sent, with what was tried for it and the outcome. -/
structure Posting where
  target : Target
  packet : List UInt8
  exchanges : List Exchange
  outcome : Except IoError Unit

namespace Posting

def writesOn (p : Posting) (id : Nat) : Bool := p.exchanges.any (·.isWriteOn id)

def arrived (p : Posting) : Bool := p.outcome.isOk

end Posting

/-- The frames of the messages that arrived on a stream. -/
def delivered (id : Nat) (ps : List Posting) : List UInt8 :=
  (ps.filter fun p => p.writesOn id && p.arrived).flatMap fun p => Osc.frame p.packet

/-- A message is written on the stream on which it arrived and on no other. However far it gets, what
is written is the beginning of its frame. -/
structure Posting.Regular (p : Posting) : Prop where
  bytes : ∀ id, p.writesOn id → bytesOn id p.exchanges <+: Osc.frame p.packet ∧
    (p.arrived → bytesOn id p.exchanges = Osc.frame p.packet)
  once : p.target.transport = .tcp → p.arrived → ∃ id, ∀ k, p.writesOn k ↔ k = id

/-- A stream has one peer. -/
lemma peer_unique {seen : List Exchange} {n id : Nat} {a b : SocketAddress}
    (hn : (openings seen).map Prod.snd = List.range n) (ha : (a, id) ∈ openings seen)
    (hb : (b, id) ∈ openings seen) : a = b := by
  have hnodup : ((openings seen).map Prod.snd).Nodup := by
    rw [hn]
    exact List.nodup_range
  exact congrArg Prod.fst (List.inj_on_of_nodup_map hnodup ha hb rfl)

/-! ### One message -/

/-- What a message does to sockets. -/
structure Posted (s s' : Sockets (Watched ν)) (p : Posting) : Prop where
  seen : s'.network.seen = s.network.seen ++ p.exchanges
  keys : (s.current.map Prod.fst).Nodup → (s'.current.map Prod.fst).Nodup
  opens : ∃ k, s'.streams.length = s.streams.length + k ∧
    (openings p.exchanges).map Prod.snd = List.range' s.streams.length k
  current : ∀ {entry}, entry ∈ s'.current → entry ∈ s.current ∨ entry ∈ openings p.exchanges
  writes : ∀ {id}, p.writesOn id → p.target.transport = .tcp ∧
    ((p.target.address, id) ∈ s.current ∨ (p.target.address, id) ∈ openings p.exchanges)
  lost : ∀ {id}, p.writesOn id → ¬p.arrived → (p.target.address, id) ∉ s'.current
  regular : p.Regular

namespace Posted

variable {s s' : Sockets (Watched ν)} {p : Posting} (hp : Posted s s' p)
include hp

lemma openings_seen : openings s'.network.seen =
    openings s.network.seen ++ openings p.exchanges := by
  rw [hp.seen]
  exact List.filterMap_append

lemma le_of_opened {id : Nat} {a : SocketAddress} (hc : (a, id) ∈ openings p.exchanges) :
    s.streams.length ≤ id := by
  obtain ⟨k, _, hids⟩ := hp.opens
  have hmem : id ∈ (openings p.exchanges).map Prod.snd := List.mem_map_of_mem hc
  rw [hids, List.mem_range'_1] at hmem
  exact hmem.1

end Posted

/-! ### All messages so far -/

/-- Sockets that have not been used yet. -/
def unused (network : ν) : Sockets (Watched ν) := { network := { inner := network } }

/-- How sockets stand after messages were sent. -/
structure Sound (s : Sockets (Watched ν)) (ps : List Posting) : Prop where
  seen : s.network.seen = ps.flatMap Posting.exchanges
  keys : (s.current.map Prod.fst).Nodup
  /-- The streams are numbered in the order in which they were opened. -/
  numbers : (openings s.network.seen).map Prod.snd = List.range s.streams.length
  current : ∀ {entry}, entry ∈ s.current → entry ∈ openings s.network.seen
  writes : ∀ p ∈ ps, ∀ id, p.writesOn id →
    p.target.transport = .tcp ∧ (p.target.address, id) ∈ openings s.network.seen
  /-- An open stream has not failed yet. -/
  intact : ∀ {id a}, (a, id) ∈ s.current → ∀ p ∈ ps, p.writesOn id → p.arrived
  /-- A message that fails is the last on its stream. -/
  last : ps.Pairwise fun p q => ∀ id, p.writesOn id → q.writesOn id → p.arrived
  regular : ∀ p ∈ ps, p.Regular

namespace Sound

lemma unused (network : ν) : Sound (unused network) [] where
  seen := rfl
  keys := List.nodup_nil
  numbers := rfl
  current := nofun
  writes := nofun
  intact := nofun
  last := .nil
  regular := nofun

variable {s s' : Sockets (Watched ν)} {ps : List Posting} {p : Posting}

/-- Nothing is written on streams that have not been opened. -/
lemma lt_of_writesOn (hs : Sound s ps) {q : Posting} (hq : q ∈ ps) {id : Nat}
    (hw : q.writesOn id) : id < s.streams.length := by
  have hmem : id ∈ (openings s.network.seen).map Prod.snd :=
    List.mem_map_of_mem (hs.writes q hq id hw).2
  rw [hs.numbers] at hmem
  exact List.mem_range.mp hmem

/-- A message is written on a stream only if all before it arrived there. -/
lemma intact_before (hs : Sound s ps) (hp : Posted s s' p) {id : Nat} (hw : p.writesOn id) :
    ∀ q ∈ ps, q.writesOn id → q.arrived := by
  intro q hq hq'
  rcases (hp.writes hw).2 with hcached | hnew
  · exact hs.intact hcached q hq hq'
  · have hlt := hs.lt_of_writesOn hq hq'
    have hle := hp.le_of_opened hnew
    omega

lemma numbers_step (hs : Sound s ps) (hp : Posted s s' p) :
    (openings s'.network.seen).map Prod.snd = List.range s'.streams.length := by
  obtain ⟨k, hlength, hids⟩ := hp.opens
  rw [hp.openings_seen, List.map_append, hs.numbers, hids, hlength, List.range_eq_range',
    List.range_eq_range', ← List.range'_append_1, Nat.zero_add]

lemma current_step (hs : Sound s ps) (hp : Posted s s' p) {entry : SocketAddress × Nat}
    (hc : entry ∈ s'.current) : entry ∈ openings s'.network.seen := by
  rw [hp.openings_seen, List.mem_append]
  exact (hp.current hc).imp_left hs.current

lemma writes_step (hs : Sound s ps) (hp : Posted s s' p) : ∀ q ∈ ps ++ [p], ∀ id, q.writesOn id →
    q.target.transport = .tcp ∧ (q.target.address, id) ∈ openings s'.network.seen := by
  intro q hq id hw
  rw [hp.openings_seen, List.mem_append]
  rcases List.mem_append.mp hq with hq | hq
  · exact (hs.writes q hq id hw).imp_right .inl
  · obtain rfl := List.mem_singleton.mp hq
    exact (hp.writes hw).imp_right fun hc => hc.imp_left hs.current

lemma intact_step (hs : Sound s ps) (hp : Posted s s' p) {id : Nat} {a : SocketAddress}
    (hc : (a, id) ∈ s'.current) : ∀ q ∈ ps ++ [p], q.writesOn id → q.arrived := by
  intro q hq hw
  have hpeer := peer_unique (hs.numbers_step hp) (hs.current_step hp hc) (hs.writes_step hp q hq id hw).2
  rcases List.mem_append.mp hq with hq | hq
  · rcases hp.current hc with hcached | hnew
    · exact hs.intact hcached q hq hw
    · have hlt := hs.lt_of_writesOn hq hw
      have hle := hp.le_of_opened hnew
      omega
  · -- The stream is the one to the message's own address, and it would have been given up.
    obtain rfl := List.mem_singleton.mp hq
    subst hpeer
    by_contra hlost
    exact hp.lost hw hlost hc

lemma last_step (hs : Sound s ps) (hp : Posted s s' p) :
    (ps ++ [p]).Pairwise fun p q => ∀ id, p.writesOn id → q.writesOn id → p.arrived := by
  rw [List.pairwise_append]
  refine ⟨hs.last, List.pairwise_singleton _ _, fun q hq r hr id hq' hr' => ?_⟩
  obtain rfl := List.mem_singleton.mp hr
  exact hs.intact_before hp hr' q hq hq'

lemma step (hs : Sound s ps) (hp : Posted s s' p) : Sound s' (ps ++ [p]) where
  seen := by rw [hp.seen, hs.seen, List.flatMap_append, List.flatMap_singleton]
  keys := hp.keys hs.keys
  numbers := hs.numbers_step hp
  current := hs.current_step hp
  writes := hs.writes_step hp
  intact := hs.intact_step hp
  last := hs.last_step hp
  regular := by
    intro q hq
    rcases List.mem_append.mp hq with hq | hq
    · exact hs.regular q hq
    · obtain rfl := List.mem_singleton.mp hq
      exact hp.regular

lemma bytesOn_next (hs : Sound s ps) : bytesOn s.streams.length s.network.seen = [] := by
  apply bytesOn_eq_nil
  rw [hs.seen, List.any_flatMap, List.any_eq_true]
  rintro ⟨p, hp, hw⟩
  exact Nat.lt_irrefl _ (hs.lt_of_writesOn hp hw)

/-- A stream carries the frames of the messages that arrived on it, and perhaps the beginning of one
that failed. -/
lemma carried (hs : Sound s ps) (id : Nat) :
    ∃ tail, bytesOn id s.network.seen = delivered id ps ++ tail ∧
      (tail ≠ [] → ∃ p ∈ ps, p.writesOn id ∧ ¬p.arrived ∧ tail <+: Osc.frame p.packet) := by
  rw [hs.seen]
  have hlast := hs.last
  have hregular := hs.regular
  clear hs
  induction ps using List.reverseRecOn with
  | nil => exact ⟨[], rfl, fun h => absurd rfl h⟩
  | append_singleton ps p ih =>
    rw [List.pairwise_append] at hlast
    obtain ⟨hlast, _, hbefore⟩ := hlast
    obtain ⟨tail, htail, hcut⟩ := ih hlast fun q hq => hregular q (List.mem_append_left _ hq)
    rw [List.flatMap_append, List.flatMap_singleton, bytesOn_append, delivered, List.filter_append,
      List.flatMap_append]
    by_cases hw : p.writesOn id
    · have hnil : tail = [] := by
        by_contra hne
        obtain ⟨q, hq, hq', hlost, _⟩ := hcut hne
        exact hlost (hbefore q hq p (List.mem_singleton_self p) id hq' hw)
      obtain ⟨hfront, hwhole⟩ := (hregular p (by simp)).bytes id hw
      rw [htail, hnil, List.append_nil]
      by_cases harrived : p.arrived
      · refine ⟨[], ?_, fun h => absurd rfl h⟩
        rw [hwhole harrived]
        simp [delivered, hw, harrived]
      · refine ⟨bytesOn id p.exchanges, ?_, fun _ => ⟨p, by simp, hw, harrived, hfront⟩⟩
        simp [delivered, harrived]
    · refine ⟨tail, ?_, fun hne => ?_⟩
      · rw [htail, bytesOn_eq_nil hw]
        simp [delivered, hw]
      · obtain ⟨q, hq, hrest⟩ := hcut hne
        exact ⟨q, List.mem_append_left _ hq, hrest⟩

end Sound

/-! ### Errands -/

/-- What sockets are told to do. -/
inductive Errand where
  | send (target : Target) (message : Osc.Message)
  | forget (target : Target)

variable [Network ν]

def Errand.perform (s : Sockets ν) : Errand → Sockets ν
  | .send target m => (Courier.send s target m).1
  | .forget target => Courier.forget s target

def performAll (s : Sockets ν) (errands : List Errand) : Sockets ν :=
  errands.foldl Errand.perform s

/-- Sends a message and looks at what the network has seen meanwhile. -/
def post (s : Sockets (Watched ν)) (target : Target) (m : Osc.Message) : Posting :=
  let r := Courier.send s target m
  { target, packet := m.encode, outcome := r.2
    exchanges := r.1.network.seen.drop s.network.seen.length }

/-- The messages sent on errands, in order. -/
def postings (s : Sockets (Watched ν)) : List Errand → List Posting
  | [] => []
  | .send target m :: errands =>
    post s target m :: postings (Courier.send s target m).1 errands
  | .forget target :: errands => postings (Courier.forget s target) errands

lemma post_tcp (s : Sockets (Watched ν)) (a : SocketAddress) (m : Osc.Message) :
    (Courier.send s ⟨.tcp, a⟩ m).1.network.seen =
        s.network.seen ++ (post s ⟨.tcp, a⟩ m).exchanges ∧
      Delivery s a m.encode (book (Courier.send s ⟨.tcp, a⟩ m).1) (post s ⟨.tcp, a⟩ m).exchanges
        (post s ⟨.tcp, a⟩ m).outcome := by
  obtain ⟨seen, hseen, hdelivery⟩ := sendStream_spec s a m.encode
  have hexchanges : (post s ⟨.tcp, a⟩ m).exchanges = seen := by
    change (s.sendStream a m.encode).1.network.seen.drop s.network.seen.length = seen
    rw [hseen, List.drop_left]
  rw [hexchanges]
  exact ⟨hseen, hdelivery⟩

lemma post_udp (s : Sockets (Watched ν)) (a : SocketAddress) (m : Osc.Message) :
    ∃ outcome, (post s ⟨.udp, a⟩ m).exchanges = [.datagram a m.encode outcome] ∧
      (Courier.send s ⟨.udp, a⟩ m).1.network.seen =
        s.network.seen ++ [.datagram a m.encode outcome] := by
  refine ⟨(Network.datagram s.network.inner a m.encode).2, ?_, rfl⟩
  exact List.drop_left

lemma posted_post (s : Sockets (Watched ν)) (target : Target) (m : Osc.Message) :
    Posted s (Courier.send s target m).1 (post s target m) := by
  obtain ⟨t, a⟩ := target
  cases t with
  | tcp =>
    obtain ⟨hseen, hd⟩ := post_tcp s a m
    exact
      { seen := hseen
        keys := hd.keys
        opens := hd.opens
        writes := fun hw => ⟨rfl, hd.writes hw⟩
        current := hd.current
        lost := fun _ hlost => not_mem_of_vacant (hd.lookup_lost hlost) _
        regular := ⟨fun _ => hd.bytes, fun _ => hd.once⟩ }
  | udp =>
    obtain ⟨outcome, hexchanges, hseen⟩ := post_udp s a m
    have hsilent : ∀ {id}, ¬(post s ⟨.udp, a⟩ m).writesOn id := by
      intro id
      rw [Posting.writesOn, hexchanges]
      exact Bool.false_ne_true
    exact
      { seen := by rw [hexchanges, hseen]
        keys := id
        opens := ⟨0, rfl, by rw [hexchanges]; rfl⟩
        writes := fun hw => absurd hw hsilent
        current := .inl
        lost := fun hw => absurd hw hsilent
        regular := ⟨fun _ hw => absurd hw hsilent, nofun⟩ }

namespace Sound

variable {s : Sockets (Watched ν)} {ps : List Posting}

lemma forget (hs : Sound s ps) (target : Target) : Sound (Courier.forget s target) ps := by
  obtain ⟨t, a⟩ := target
  cases t with
  | udp => exact hs
  | tcp =>
    have hsub : (s.drop a).current.Sublist s.current := List.filter_sublist
    exact
      { hs with
        keys := (hsub.map Prod.fst).nodup hs.keys
        current := fun hc => hs.current (hsub.subset hc)
        intact := fun hc => hs.intact (hsub.subset hc) }

lemma performAll (hs : Sound s ps) (errands : List Errand) :
    Sound (performAll s errands) (ps ++ postings s errands) := by
  induction errands generalizing s ps with
  | nil =>
    rw [postings, List.append_nil]
    exact hs
  | cons e errands ih =>
    cases e with
    | send target m =>
      have hrest := ih (hs.step (posted_post s target m))
      rw [List.append_assoc] at hrest
      exact hrest
    | forget target => exact ih (hs.forget target)

end Sound

lemma unwatch_performAll (s : Sockets (Watched ν)) (errands : List Errand) :
    unwatch (performAll s errands) = performAll (unwatch s) errands := by
  induction errands generalizing s with
  | nil => rfl
  | cons e errands ih =>
    have hstep : unwatch (e.perform s) = e.perform (unwatch s) := by
      cases e with
      | send target m => exact congrArg Prod.fst (unwatched_send s target m)
      | forget target => exact unwatched_forget s target
    rw [performAll, List.foldl_cons, ← performAll, ih, hstep]
    rfl

/-! ### The next message -/

/-- What comes of a message that is sent to an address on TCP. -/
structure Sends (s : Sockets (Watched ν)) (a : SocketAddress) (m : Osc.Message) : Prop where
  /-- If a stream to the address is open, it is used. -/
  reuses : ∀ id, s.open? a = some id →
    (post s ⟨.tcp, a⟩ m).exchanges.filter Exchange.isConnect = [] ∧
    ∀ k, (post s ⟨.tcp, a⟩ m).writesOn k ↔ k = id
  /-- If there is none, one connection is tried, and used if it comes about. -/
  connects : s.open? a = none → ∃ result,
    (post s ⟨.tcp, a⟩ m).exchanges.filter Exchange.isConnect =
      [.connect s.streams.length a result] ∧
    ∀ k, (post s ⟨.tcp, a⟩ m).writesOn k ↔ k = s.streams.length ∧ result.isOk
  arrives : (post s ⟨.tcp, a⟩ m).arrived ↔ ∀ x ∈ (post s ⟨.tcp, a⟩ m).exchanges, x.succeeded
  /-- On a new stream, its frame is all there is. -/
  whole : s.open? a = none → (post s ⟨.tcp, a⟩ m).arrived →
    bytesOn s.streams.length (Courier.send s ⟨.tcp, a⟩ m).1.network.seen = Osc.frame m.encode
  lost : ¬(post s ⟨.tcp, a⟩ m).arrived → (Courier.send s ⟨.tcp, a⟩ m).1.open? a = none
  others : ∀ b, b ≠ a → (Courier.send s ⟨.tcp, a⟩ m).1.open? b = s.open? b

lemma Sound.sends {s : Sockets (Watched ν)} {ps : List Posting} (hs : Sound s ps)
    (a : SocketAddress) (m : Osc.Message) : Sends s a m := by
  obtain ⟨hseen, hd⟩ := post_tcp s a m
  exact
    { reuses := fun _ => hd.reuses
      connects := hd.opens_anew
      arrives := hd.isOk_iff
      whole := fun hvacant harrived => by
        have hwhole := (hd.arrives_on harrived).2
        rw [hvacant] at hwhole
        rw [hseen, bytesOn_append, hs.bytesOn_next]
        exact hwhole
      lost := hd.lookup_lost
      others := fun _ => hd.lookup_other }

/-- Streams stay intact, whatever becomes of each attempt to connect or to write, and however many
bytes go out before a failure. There is one open stream to an address at most. A stream carries the
frames of the messages that arrived on it, in order; behind them it may carry the beginning of the
frame of one that failed, and then nothing any more. -/
theorem streams_stay_intact (network : ν) (errands : List Errand) :
    let s := performAll (unused network) errands
    let ps := postings (unused network) errands
    unwatch s = performAll { network } errands ∧
    s.network.seen = ps.flatMap Posting.exchanges ∧
    (s.current.map Prod.fst).Nodup ∧
    (openings s.network.seen).map Prod.snd = List.range s.streams.length ∧
    (∀ id, ∃ tail, bytesOn id s.network.seen = delivered id ps ++ tail ∧
      (tail ≠ [] → ∃ p ∈ ps, p.writesOn id ∧ ¬p.arrived ∧ tail <+: Osc.frame p.packet)) ∧
    (ps.Pairwise fun p q => ∀ id, p.writesOn id → q.writesOn id → p.arrived) ∧
    (∀ p ∈ ps, ∀ id, p.writesOn id →
      p.target.transport = .tcp ∧ (p.target.address, id) ∈ openings s.network.seen) ∧
    (∀ p ∈ ps, p.target.transport = .tcp → p.arrived → ∃ id, ∀ k, p.writesOn k ↔ k = id) ∧
    (∀ p ∈ ps, p.packet.length < 2 ^ 32 →
      Osc.ofBigEndian ((Osc.frame p.packet).take 4) = p.packet.length ∧
      (Osc.frame p.packet).drop 4 = p.packet) ∧
    (∀ a m, Sends s a m) ∧
    (∀ a b, (Courier.forget s ⟨.tcp, a⟩).open? b = if b = a then none else s.open? b) ∧
    ∀ a m, (Courier.send s ⟨.udp, a⟩ m).1.current = s.current ∧
      (Courier.forget s ⟨.udp, a⟩).current = s.current := by
  intro s ps
  have hs : Sound s ps := (Sound.unused network).performAll errands
  exact ⟨unwatch_performAll _ errands, hs.seen, hs.keys, hs.numbers, hs.carried, hs.last,
    hs.writes, fun p hp => (hs.regular p hp).once, fun _ _ => frame_length, hs.sends,
    lookup_filter s.current, fun _ _ => ⟨rfl, rfl⟩⟩

/-- The first stream breaks; the second message opens another and arrives there. -/
example :
    let network : Loopback := { slots := [{}], aborted := [0] }
    let errand : Errand := .send ⟨.tcp, Loopback.address 0⟩ ⟨"/R/cb", [.int 2]⟩
    (postings (unused network) [errand, errand]).map Posting.arrived = [false, true] ∧
      openings (performAll (unused network) [errand, errand]).network.seen =
        [(Loopback.address 0, 0), (Loopback.address 0, 1)] := by
  decide +kernel

end RackRemote.Proofs

import RackRemote.Proofs.FreshStreams

/-!
# Which streams are open

A stream to an address is open as long as the last message sent there got through and the address has
not been forgotten since, so the journal tells which streams are open. All of them but one at most
have been opened to turn somebody away: when a newcomer comes too late, the stream on which it is
told so stays open, and nothing that the host does later on closes it unless it has to do with this
newcomer again.
-/

namespace RackRemote.Proofs

/-! ### The last word -/

/-- The message that got through to a target last, unless one was lost or the target was forgotten
after it: how an entry changes this. -/
def hold (target : Target) (word : Option Osc.Message) : Entry → Option Osc.Message
  | .sent receiver m outcome =>
    if receiver = target then (if outcome.isOk then some m else none) else word
  | .forgot receiver => if receiver = target then none else word
  | _ => word

def lastWord (target : Target) (entries : List Entry) : Option Osc.Message :=
  entries.foldl (hold target) none

lemma lastWord_concat (target : Target) (entries : List Entry) (e : Entry) :
    lastWord target (entries ++ [e]) = hold target (lastWord target entries) e := by
  rw [lastWord, List.foldl_append]
  rfl

lemma hold_sent {target receiver : Target} {word : Option Osc.Message} {m m' : Osc.Message}
    {outcome : Except IoError Unit} (h : hold target word (.sent receiver m' outcome) = some m) :
    (receiver = target ∧ m' = m) ∨ word = some m := by
  rw [hold] at h
  split at h
  · rename_i hreceiver
    split at h
    · exact .inl ⟨hreceiver, Option.some.inj h⟩
    · cases h
  · exact .inr h

lemma hold_forgot {target receiver : Target} {word : Option Osc.Message} {m : Osc.Message}
    (h : hold target word (.forgot receiver) = some m) : receiver ≠ target ∧ word = some m := by
  rw [hold] at h
  split at h
  · cases h
  · rename_i hreceiver
    exact ⟨hreceiver, h⟩

lemma hold_note {e : Entry} (he : isTraffic e = false) (target : Target)
    (word : Option Osc.Message) : hold target word e = word := by
  cases e with
  | sent => cases he
  | forgot => cases he
  | _ => rfl

/-! ### The streams -/

section Streams

variable {ν : Type} [Network ν]

/-- Sockets as they are when somebody begins to watch the network. -/
def watch (s : Sockets ν) : Sockets (Watched ν) :=
  { network := { inner := s.network }, streams := s.streams, current := s.current }

/-- What sending on TCP does to the open streams. -/
lemma send_tcp_open (s : Sockets ν) (a : SocketAddress) (m : Osc.Message) :
    let r := Courier.send s ⟨.tcp, a⟩ m
    ((s.current.map Prod.fst).Nodup → (r.1.current.map Prod.fst).Nodup) ∧
      ∀ c, (r.1.open? c).isSome = if c = a then r.2.isOk else (s.open? c).isSome := by
  obtain ⟨-, hd⟩ := post_tcp (watch s) a m
  -- What is seen while somebody watches is what happens.
  have hsent := unwatched_send (watch s) ⟨.tcp, a⟩ m
  rw [show unwatch (watch s) = s from rfl] at hsent
  dsimp only
  rw [← hsent]
  refine ⟨hd.keys, fun c => ?_⟩
  by_cases hc : c = a
  · subst hc
    rw [if_pos rfl]
    by_cases hok : (post (watch s) ⟨.tcp, c⟩ m).outcome.isOk
    · exact (congrArg Option.isSome (hd.arrives_on hok).1).trans hok.symm
    · exact (congrArg Option.isSome (hd.lookup_lost hok)).trans (Bool.eq_false_iff.mpr hok).symm
  · rw [if_neg hc]
    exact congrArg Option.isSome (hd.lookup_other hc)

/-- The open streams are those of the journal, one to an address. -/
structure Booked (s : Sockets ν) (entries : List Entry) : Prop where
  keys : (s.current.map Prod.fst).Nodup
  held : ∀ a, (s.open? a).isSome = (lastWord ⟨.tcp, a⟩ entries).isSome

namespace Booked

variable {s : Sockets ν} {entries : List Entry}

omit [Network ν] in
lemma note (hs : Booked s entries) {e : Entry} (he : isTraffic e = false) :
    Booked s (entries ++ [e]) where
  keys := hs.keys
  held a := by rw [lastWord_concat, hold_note he, hs.held]

lemma send (hs : Booked s entries) (target : Target) (m : Osc.Message) :
    Booked (Courier.send s target m).1
      (entries ++ [.sent target m (Courier.send s target m).2]) := by
  obtain ⟨t, a⟩ := target
  cases t with
  | udp =>
    refine ⟨hs.keys, fun c => ?_⟩
    rw [lastWord_concat, hold, if_neg (by simp), ← hs.held]
    rfl
  | tcp =>
    obtain ⟨hkeys, hopen⟩ := send_tcp_open s a m
    refine ⟨hkeys hs.keys, fun c => ?_⟩
    rw [lastWord_concat, hold, hopen]
    by_cases hc : c = a
    · subst hc
      rw [if_pos rfl, if_pos rfl]
      cases (Courier.send s ⟨.tcp, c⟩ m).2 <;> rfl
    · rw [if_neg hc, if_neg (fun heq => hc (congrArg Target.address heq).symm), hs.held]

lemma forget (hs : Booked s entries) (target : Target) :
    Booked (Courier.forget s target) (entries ++ [.forgot target]) := by
  obtain ⟨t, a⟩ := target
  cases t with
  | udp =>
    refine ⟨hs.keys, fun c => ?_⟩
    rw [lastWord_concat, hold, if_neg (by simp), ← hs.held]
    rfl
  | tcp =>
    have hsub : (s.drop a).current.Sublist s.current := List.filter_sublist
    refine ⟨(hsub.map Prod.fst).nodup hs.keys, fun c => ?_⟩
    have hopen : (Courier.forget s ⟨.tcp, a⟩).open? c = if c = a then none else s.open? c :=
      lookup_filter s.current a c
    rw [lastWord_concat, hold, hopen]
    by_cases hc : c = a
    · subst hc
      rw [if_pos rfl, if_pos rfl]
      rfl
    · rw [if_neg hc, if_neg (fun heq => hc (congrArg Target.address heq).symm), hs.held]

end Booked

lemma keptByHost_booked : KeptByHost fun h : Host (Sockets ν) => Booked h.courier h.journal where
  note _ _ he hP := hP.note he
  rack _ _ hP := hP
  tell h _ b e _ hP := hP.send b.target (e.message b.path)
  turnAway _ _ _ b _ _ hP := hP.send b.target b.conflict
  seat h t b _ _ hP := by
    rw [setBinding_courier, setBinding_journal]
    exact hP.forget b.target
  letGo h t b _ hP := by
    rw [setBinding_courier, setBinding_journal]
    exact hP.forget b.target

end Streams

/-! ### Who had the last word -/

section Words

variable {κ : Type} [Courier κ]

/-- A target belongs to the controller that is registered on TCP. -/
def Served (h : Host κ) (target : Target) : Prop := ∃ b, h.tcp = some b ∧ b.target = target

/-- Whoever is not the controller on TCP has heard last that it comes too late, if anything. -/
structure LastWords (h : Host κ) : Prop where
  seats : ∀ t b, h.binding t = some b → b.target.transport = t
  words : ∀ a m, lastWord ⟨.tcp, a⟩ h.journal = some m →
    Served h ⟨.tcp, a⟩ ∨ ∃ b : Binding, m = b.conflict

omit [Courier κ] in
/-- What is asked of a host that has just dropped the connection of somebody in a slot. -/
lemma LastWords.setBinding {h : Host κ} (hP : LastWords h) {h' : Host κ} {b : Binding}
    (halike : Alike h h') (hjournal : h'.journal = h.journal ++ [.forgot b.target])
    {t : Transport} {slot : Option Binding} (hslot : ∀ c, slot = some c → c.target.transport = t)
    (hserved : ∀ c, t = .tcp → h.tcp = some c → c.target = b.target) :
    LastWords (h'.setBinding t slot) where
  seats t' c hc := by
    by_cases ht : t' = t
    · subst ht
      rw [setBinding_binding_self] at hc
      exact hslot c hc
    · rw [setBinding_binding_other _ _ ht, halike.binding] at hc
      exact hP.seats t' c hc
  words a m hm := by
    rw [setBinding_journal, hjournal, lastWord_concat] at hm
    obtain ⟨hne, hold⟩ := hold_forgot hm
    rcases hP.words a m hold with ⟨c, hc, hctarget⟩ | hnotice
    · cases t with
      | tcp => exact absurd ((hserved c rfl hc).symm.trans hctarget) hne
      | udp => exact .inl ⟨c, halike.tcp.trans hc, hctarget⟩
    · exact .inr hnotice

lemma keptByHost_lastWords : KeptByHost (LastWords (κ := κ)) where
  note h e he hP := by
    refine ⟨hP.seats, fun a m hm => ?_⟩
    rw [Host.enter, lastWord_concat, hold_note he] at hm
    exact hP.words a m hm
  rack h rack hP := ⟨hP.seats, hP.words⟩
  tell h t b e hb hP := by
    have ha := alike_deliver h b.target (e.message b.path)
    refine ⟨fun t' c hc => hP.seats t' c ((ha.binding t').symm.trans hc), fun a m hm => ?_⟩
    rw [(entered_deliver h b.target (e.message b.path)).journal, lastWord_concat] at hm
    rcases hold_sent hm with ⟨htarget, _⟩ | hold
    · have ht : t = .tcp := by rw [← hP.seats t b hb, htarget]
      subst ht
      exact .inl ⟨b, hb, htarget⟩
    · exact hP.words a m hold
  turnAway h t current b hb hu hP := by
    have ha := alike_deliver h b.target b.conflict
    refine ⟨fun t' c hc => hP.seats t' c ((ha.binding t').symm.trans hc), fun a m hm => ?_⟩
    rw [(entered_deliver h b.target b.conflict).journal, lastWord_concat] at hm
    rcases hold_sent hm with ⟨_, hnotice⟩ | hold
    · exact .inr ⟨b, hnotice.symm⟩
    · exact hP.words a m hold
  seat h t b hvacant hu hP := by
    refine hP.setBinding (alike_forget h b.target) (entered_forget h b.target).journal ?_ ?_
    · rintro c ⟨⟩
      exact congrArg Target.transport (ofUrl_target hu)
    · rintro c rfl hc
      cases hvacant.symm.trans hc
  letGo h t b hb hP := by
    refine hP.setBinding (alike_forget h b.target) (entered_forget h b.target).journal ?_ ?_
    · intro c hc
      cases hc
    · rintro c rfl hc
      cases hb.symm.trans hc
      rfl

end Words

/-! ### All turns -/

section Turns

variable {ν : Type} [Network ν]

lemma KeptByHost.turns {P : Host (Sockets ν) → Prop} (kept : KeptByHost P)
    (hnetwork : ∀ h change, P h → P (turn h (.network change))) {h : Host (Sockets ν)} (hP : P h)
    (turns : List (Turn ν)) : P (turns.foldl turn h) := by
  induction turns generalizing h with
  | nil => exact hP
  | cons t turns ih =>
    cases t with
    | move m => exact ih (kept.move h m hP)
    | network change => exact ih (hnetwork h change hP)

omit [Network ν] in
/-- Open streams that all are to one address are one. -/
lemma length_le_one {s : Sockets ν} (hkeys : (s.current.map Prod.fst).Nodup) {a : SocketAddress}
    (hall : ∀ entry ∈ s.current, entry.1 = a) : s.current.length ≤ 1 := by
  have hrow : s.current.map Prod.fst = List.replicate s.current.length a := by
    rw [List.eq_replicate_iff]
    refine ⟨List.length_map .., fun c hc => ?_⟩
    obtain ⟨entry, hentry, rfl⟩ := List.mem_map.mp hc
    exact hall entry hentry
  rw [hrow] at hkeys
  exact List.nodup_replicate.mp hkeys

omit [Network ν] in
/-- Streams to the one controller on TCP are one at most. -/
lemma few_of_served {h : Host (Sockets ν)} (hkeys : (h.courier.current.map Prod.fst).Nodup)
    (hserved : ∀ entry ∈ h.courier.current, Served h ⟨.tcp, entry.1⟩) :
    h.courier.current.length ≤ 1 ∧ (h.tcp = none → h.courier.current = []) := by
  cases hb : h.tcp with
  | none =>
    have hnone : h.courier.current = [] := by
      rw [List.eq_nil_iff_forall_not_mem]
      intro entry hentry
      obtain ⟨b, hb', _⟩ := hserved entry hentry
      cases hb.symm.trans hb'
    rw [hnone]
    exact ⟨Nat.zero_le 1, fun _ => rfl⟩
  | some b =>
    refine ⟨length_le_one (a := b.target.address) hkeys fun entry hentry => ?_, nofun⟩
    obtain ⟨c, hc, htarget⟩ := hserved entry hentry
    cases hb.symm.trans hc
    exact congrArg Target.address htarget.symm

/-- Whatever has happened to a host and to the network around it, there is one open stream to an
address at most, and it is open as long as the last message sent there got through and the address
has not been forgotten since. The address is that of the controller on TCP, unless with this message
somebody was turned away. If there is nobody else who was, then there is one open stream at most, and
none while nobody is registered on TCP. -/
theorem open_streams_are_served {network : ν} {setup : Setup} {rack : Rack}
    {h₀ : Host (Sockets ν)} (hs : Host.start? setup rack { network } = some h₀)
    (turns : List (Turn ν)) :
    let h := turns.foldl turn h₀
    (h.courier.current.map Prod.fst).Nodup ∧
    (∀ a, (h.courier.open? a).isSome = (lastWord ⟨.tcp, a⟩ h.journal).isSome) ∧
    (∀ a m, lastWord ⟨.tcp, a⟩ h.journal = some m →
      Served h ⟨.tcp, a⟩ ∨ ∃ b : Binding, m = b.conflict) ∧
    ((∀ a (b : Binding), lastWord ⟨.tcp, a⟩ h.journal = some b.conflict → Served h ⟨.tcp, a⟩) →
      (∀ entry ∈ h.courier.current, Served h ⟨.tcp, entry.1⟩) ∧ h.courier.current.length ≤ 1 ∧
        (h.tcp = none → h.courier.current = [])) := by
  intro h
  have hstart := start?_eq_some hs
  have hbooked : Booked h.courier h.journal := by
    refine keptByHost_booked.turns (fun _ _ hP => ⟨hP.keys, hP.held⟩) ?_ turns
    rw [hstart]
    exact ⟨List.nodup_nil, fun _ => rfl⟩
  have hlast : LastWords h := by
    refine keptByHost_lastWords.turns (fun _ _ hP => ⟨hP.seats, hP.words⟩) ?_ turns
    rw [hstart]
    exact ⟨fun t => by cases t <;> exact nofun, nofun⟩
  refine ⟨hbooked.keys, hbooked.held, hlast.words, fun hlingering => ?_⟩
  have hserved : ∀ entry ∈ h.courier.current, Served h ⟨.tcp, entry.1⟩ := by
    intro entry hentry
    have hopen : (h.courier.open? entry.1).isSome := by
      by_contra hclosed
      exact not_mem_of_vacant (Option.not_isSome_iff_eq_none.mp hclosed) entry.2 hentry
    rw [hbooked.held, Option.isSome_iff_exists] at hopen
    obtain ⟨m, hm⟩ := hopen
    rcases hlast.words entry.1 m hm with hserved | ⟨b, rfl⟩
    · exact hserved
    · exact hlingering entry.1 b hm
  exact ⟨hserved, few_of_served hbooked.keys hserved⟩

end Turns

/-- A newcomer is turned away and the controller signs off. Nobody is registered then, and the stream
to the newcomer is open still. -/
theorem turned_away_stream_stays_open :
    let first := "osc.tcp://127.0.0.1:1/A"
    let second := "osc.tcp://127.0.0.1:2/B"
    let network : Loopback := { slots := [{}, {}, {}] }
    let h : Host (Sockets Loopback) := { setup := { root := "rack" }, courier := { network } }
    let h' := run h [.register .tcp first, .register .tcp second, .unregister .tcp first]
    h'.tcp = none ∧ h'.courier.current = [(Loopback.address 2, 1)] := by
  decide +kernel

/-- While a controller is registered and another one, which was turned away, has gone, the one stream
that is open is that of the controller. -/
theorem open_streams_are_served_gone :
    let first := "osc.tcp://127.0.0.1:1/A"
    let second := "osc.tcp://127.0.0.1:2/B"
    let network : Loopback := { slots := [{}, {}, {}] }
    let turns : List (Turn Loopback) :=
      [.move (.register .tcp first), .move (.register .tcp second), .network (·.abort 2 false),
        .move (.register .tcp second)]
    let h : Host (Sockets Loopback) := turns.foldl turn
      { setup := { root := "rack" }, courier := { network } }
    Served h ⟨.tcp, Loopback.address 1⟩ ∧ h.courier.current.length ≤ 1 ∧
      ∀ entry ∈ h.courier.current, Served h ⟨.tcp, entry.1⟩ := by
  intro first second network turns h
  have hs : Host.start? { root := "rack" } {} ({ network } : Sockets Loopback) =
      some { setup := { root := "rack" }, courier := { network } } :=
    if_pos (by simp [isRootName])
  obtain ⟨_, hheld, _, hall⟩ := open_streams_are_served hs turns
  have hcurrent : h.courier.current = [(Loopback.address 1, 0)] := by decide +kernel
  have hserved : Served h ⟨.tcp, Loopback.address 1⟩ := by
    have htarget : h.tcp.map Binding.target = some ⟨.tcp, Loopback.address 1⟩ := by decide +kernel
    exact Option.map_eq_some_iff.mp htarget
  have hlingering : ∀ a (b : Binding), lastWord ⟨.tcp, a⟩ h.journal = some b.conflict →
      Served h ⟨.tcp, a⟩ := by
    intro a b hword
    have hopen : (h.courier.open? a).isSome := by rw [hheld, hword]; rfl
    obtain ⟨id, hid⟩ := Option.isSome_iff_exists.mp hopen
    have hmem := mem_of_open? hid
    rw [hcurrent, List.mem_singleton] at hmem
    obtain rfl : a = Loopback.address 1 := congrArg Prod.fst hmem
    exact hserved
  obtain ⟨hothers, hone, _⟩ := hall hlingering
  exact ⟨hserved, hone, hothers⟩

end RackRemote.Proofs

import Mathlib.Tactic.Common
import RackRemote.Net.Sockets

/-!
# Sending, as the network sees it

A watched network notes whatever is tried on it. Through it a delivery on TCP is told from outside:
whether a stream is opened for it, what is written, and how it comes out.
-/

namespace RackRemote.Proofs

variable {ν : Type}

/-! ### Watching a network -/

/-- What was tried on a network, and how it came out. -/
inductive Exchange where
  | connect (id : Nat) (address : SocketAddress) (outcome : Except IoError Unit)
  /-- With a failure comes the number of bytes that went out before it. -/
  | write (id : Nat) (bytes : List UInt8) (failure : Option (Nat × IoError))
  | datagram (address : SocketAddress) (bytes : List UInt8) (outcome : Except IoError Unit)

namespace Exchange

def isConnect : Exchange → Bool
  | connect .. => true
  | _ => false

/-- The stream that was opened, under its address. -/
def opened? : Exchange → Option (SocketAddress × Nat)
  | connect id a (.ok _) => some (a, id)
  | _ => none

def isWriteOn (id : Nat) : Exchange → Bool
  | write k .. => k == id
  | _ => false

def succeeded : Exchange → Bool
  | connect _ _ outcome => outcome.isOk
  | write _ _ failure => failure.isNone
  | datagram _ _ outcome => outcome.isOk

/-- The bytes that went out on a stream, those before a failure included. -/
def bytesOn (id : Nat) : Exchange → List UInt8
  | write k bytes none => if k = id then bytes else []
  | write k bytes (some (count, _)) => if k = id then bytes.take count else []
  | _ => []

lemma opened?_of_not_isConnect {x : Exchange} (hx : x.isConnect = false) : x.opened? = none := by
  cases x with
  | connect => cases hx
  | _ => rfl

lemma bytesOn_of_not_isWriteOn {x : Exchange} {id : Nat} (hx : x.isWriteOn id = false) :
    x.bytesOn id = [] := by
  cases x with
  | write k bytes failure =>
    have hk : ¬k = id := of_decide_eq_false hx
    cases failure with
    | none => exact if_neg hk
    | some _ => exact if_neg hk
  | _ => rfl

end Exchange

/-- The streams that were opened, in order. -/
def openings (seen : List Exchange) : List (SocketAddress × Nat) := seen.filterMap Exchange.opened?

/-- The bytes that went out on a stream. -/
def bytesOn (id : Nat) (seen : List Exchange) : List UInt8 := seen.flatMap (Exchange.bytesOn id)

lemma bytesOn_append (id : Nat) (xs ys : List Exchange) :
    bytesOn id (xs ++ ys) = bytesOn id xs ++ bytesOn id ys := List.flatMap_append

lemma bytesOn_eq_nil {id : Nat} {seen : List Exchange} (h : ¬seen.any (·.isWriteOn id)) :
    bytesOn id seen = [] := by
  rw [bytesOn, List.flatMap_eq_nil_iff]
  intro x hx
  apply Exchange.bytesOn_of_not_isWriteOn
  rw [List.any_eq_true] at h
  exact Bool.eq_false_iff.mpr fun hw => h ⟨x, hx, hw⟩

structure Watched (ν : Type) where
  inner : ν
  seen : List Exchange := []

instance [Network ν] : Network (Watched ν) where
  connect w id a :=
    let (inner, outcome) := Network.connect w.inner id a
    (⟨inner, w.seen ++ [.connect id a outcome]⟩, outcome)
  write w id bytes :=
    let (inner, failure) := Network.write w.inner id bytes
    (⟨inner, w.seen ++ [.write id bytes failure]⟩, failure)
  datagram w a bytes :=
    let (inner, outcome) := Network.datagram w.inner a bytes
    (⟨inner, w.seen ++ [.datagram a bytes outcome]⟩, outcome)

/-! ### Writing a frame -/

/-- The open streams, and how many streams there have been. -/
def book (s : Sockets (Watched ν)) : List (SocketAddress × Nat) × Nat :=
  (s.current, s.streams.length)

/-- What is tried when a frame is written on a stream: the length, and if that goes out, the packet. -/
inductive Writing (id : Nat) (packet : List UInt8) : List Exchange → Except IoError Unit → Prop where
  | whole : Writing id packet
      [.write id (Osc.bigEndian 4 packet.length) none, .write id packet none] (.ok ())
  | cutInLength (count : Nat) (e : IoError) : Writing id packet
      [.write id (Osc.bigEndian 4 packet.length) (some (count, e))] (.error e)
  | cutInPacket (count : Nat) (e : IoError) : Writing id packet
      [.write id (Osc.bigEndian 4 packet.length) none, .write id packet (some (count, e))] (.error e)

namespace Writing

variable {id : Nat} {packet : List UInt8} {seen : List Exchange} {outcome : Except IoError Unit}

lemma isWriteOn_iff (h : Writing id packet seen outcome) (k : Nat) :
    seen.any (·.isWriteOn k) ↔ k = id := by
  cases h <;> simp [Exchange.isWriteOn, @eq_comm Nat k]

lemma isWriteOn (h : Writing id packet seen outcome) : ∀ x ∈ seen, x.isWriteOn id := by
  cases h <;> simp [Exchange.isWriteOn]

lemma not_isConnect (h : Writing id packet seen outcome) : ∀ x ∈ seen, x.isConnect = false := by
  cases h <;> simp [Exchange.isConnect]

lemma openings_eq_nil (h : Writing id packet seen outcome) : openings seen = [] :=
  List.filterMap_eq_nil_iff.mpr fun x hx => Exchange.opened?_of_not_isConnect (h.not_isConnect x hx)

lemma isOk_iff (h : Writing id packet seen outcome) :
    outcome.isOk ↔ ∀ x ∈ seen, x.succeeded := by
  cases h <;> simp [Exchange.succeeded, Except.isOk, Except.toBool]

lemma bytesOn_isPrefix (h : Writing id packet seen outcome) : bytesOn id seen <+: Osc.frame packet := by
  cases h with
  | whole => simp [bytesOn, Exchange.bytesOn, Osc.frame]
  | cutInLength count e =>
    simp only [bytesOn, Exchange.bytesOn, Osc.frame, List.flatMap_cons, List.flatMap_nil, if_pos,
      List.append_nil]
    have htake : (Osc.bigEndian 4 packet.length).take count <+: _ := List.take_prefix _ _
    exact htake.trans (List.prefix_append _ _)
  | cutInPacket count e =>
    simp only [bytesOn, Exchange.bytesOn, Osc.frame, List.flatMap_cons, List.flatMap_nil, if_pos,
      List.append_nil]
    have htake : packet.take count <+: packet := List.take_prefix _ _
    exact (List.prefix_append_right_inj _).mpr htake

lemma bytesOn_whole (h : Writing id packet seen outcome) (hok : outcome.isOk) :
    bytesOn id seen = Osc.frame packet := by
  cases h with
  | whole => simp [bytesOn, Exchange.bytesOn, Osc.frame]
  | _ => cases hok

end Writing

/-! ### Open streams -/

section Open

variable {s : Sockets ν} {a : SocketAddress}

lemma mem_of_open? {id : Nat} (h : s.open? a = some id) : (a, id) ∈ s.current := by
  obtain ⟨l₁, l₂, hl, _⟩ := List.lookup_eq_some_iff.mp h
  rw [hl]
  exact List.mem_append_right _ List.mem_cons_self

lemma not_mem_of_vacant (h : s.open? a = none) (id : Nat) : (a, id) ∉ s.current := by
  intro hmem
  have hne := List.lookup_eq_none_iff.mp h _ hmem
  rw [bne_self_eq_false] at hne
  cases hne

lemma lookup_filter (current : List (SocketAddress × Nat)) (a b : SocketAddress) :
    (current.filter (·.1 != a)).lookup b = if b = a then none else current.lookup b := by
  induction current with
  | nil => simp
  | cons entry current ih =>
    obtain ⟨c, id⟩ := entry
    by_cases hc : c = a
    · subst hc
      rw [List.filter_cons_of_neg (by simp), ih, List.lookup_cons]
      split
      · rfl
      · rename_i hb
        rw [beq_false_of_ne hb]
    · rw [List.filter_cons_of_pos (by simp [hc]), List.lookup_cons, ih, List.lookup_cons]
      by_cases hb : b = c
      · subst hb
        simp [hc]
      · rw [beq_false_of_ne hb]

end Open

/-! ### Delivering on TCP -/

/-- The open streams after an attempt to write to an address. -/
def keptOpen (a : SocketAddress) (outcome : Except IoError Unit)
    (current : List (SocketAddress × Nat)) : List (SocketAddress × Nat) :=
  if outcome.isOk then current else current.filter (·.1 != a)

/-- What can happen when a packet is sent to an address: the book afterwards, what is tried, and the
outcome. -/
inductive Delivery (s : Sockets (Watched ν)) (a : SocketAddress) (packet : List UInt8) :
    List (SocketAddress × Nat) × Nat → List Exchange → Except IoError Unit → Prop where
  | refused (vacant : s.open? a = none) (e : IoError) :
      Delivery s a packet (book s) [.connect s.streams.length a (.error e)] (.error e)
  | reused {id : Nat} {seen : List Exchange} {outcome : Except IoError Unit}
      (cached : s.open? a = some id) (writing : Writing id packet seen outcome) :
      Delivery s a packet (keptOpen a outcome s.current, s.streams.length) seen outcome
  | opened {seen : List Exchange} {outcome : Except IoError Unit} (vacant : s.open? a = none)
      (writing : Writing s.streams.length packet seen outcome) :
      Delivery s a packet
        (keptOpen a outcome ((a, s.streams.length) :: s.current), s.streams.length + 1)
        (.connect s.streams.length a (.ok ()) :: seen) outcome

/-! ### What a delivery does -/

section Kept

variable (a : SocketAddress) (outcome : Except IoError Unit) (current : List (SocketAddress × Nat))

lemma keptOpen_sublist : (keptOpen a outcome current).Sublist current := by
  rw [keptOpen]
  split
  · exact List.Sublist.refl current
  · exact List.filter_sublist

lemma lookup_keptOpen (b : SocketAddress) :
    (keptOpen a outcome current).lookup b =
      if b = a ∧ ¬outcome.isOk then none else current.lookup b := by
  rw [keptOpen]
  split
  · rename_i hok
    rw [if_neg (fun h => h.2 hok)]
  · rename_i hok
    rw [lookup_filter]
    by_cases hb : b = a
    · rw [if_pos hb, if_pos ⟨hb, hok⟩]
    · rw [if_neg hb, if_neg (fun h => hb h.1)]

end Kept

namespace Delivery

variable {s : Sockets (Watched ν)} {a : SocketAddress} {packet : List UInt8}
  {b : List (SocketAddress × Nat) × Nat} {seen : List Exchange} {outcome : Except IoError Unit}

lemma keys (h : Delivery s a packet b seen outcome) (hs : (s.current.map Prod.fst).Nodup) :
    (b.1.map Prod.fst).Nodup := by
  cases h with
  | refused => exact hs
  | reused => exact ((keptOpen_sublist ..).map Prod.fst).nodup hs
  | opened vacant =>
    refine ((keptOpen_sublist ..).map Prod.fst).nodup ?_
    rw [List.map_cons, List.nodup_cons]
    refine ⟨fun hmem => ?_, hs⟩
    obtain ⟨⟨c, id⟩, hc, rfl⟩ := List.mem_map.mp hmem
    exact not_mem_of_vacant vacant id hc

lemma opens (h : Delivery s a packet b seen outcome) :
    ∃ k, b.2 = s.streams.length + k ∧
      (openings seen).map Prod.snd = List.range' s.streams.length k := by
  cases h with
  | refused => exact ⟨0, rfl, rfl⟩
  | reused _ writing =>
    rw [writing.openings_eq_nil]
    exact ⟨0, rfl, rfl⟩
  | opened _ writing =>
    rw [openings, List.filterMap_cons, ← openings, writing.openings_eq_nil]
    exact ⟨1, rfl, rfl⟩

lemma aimed (h : Delivery s a packet b seen outcome) :
    ∀ x ∈ seen, (∃ id result, x = .connect id a result) ∨ ∃ id, x.isWriteOn id := by
  cases h with
  | refused _ e => exact List.forall_mem_singleton.mpr (.inl ⟨_, _, rfl⟩)
  | reused _ writing => exact fun x hx => .inr ⟨_, writing.isWriteOn x hx⟩
  | opened _ writing =>
    exact List.forall_mem_cons.mpr
      ⟨.inl ⟨_, _, rfl⟩, fun x hx => .inr ⟨_, writing.isWriteOn x hx⟩⟩

lemma writes (h : Delivery s a packet b seen outcome) {id : Nat}
    (hw : seen.any (·.isWriteOn id)) : (a, id) ∈ s.current ∨ (a, id) ∈ openings seen := by
  cases h with
  | refused => cases hw
  | reused cached writing =>
    obtain rfl := (writing.isWriteOn_iff id).mp hw
    exact .inl (mem_of_open? cached)
  | opened _ writing =>
    obtain rfl := (writing.isWriteOn_iff id).mp hw
    exact .inr List.mem_cons_self

lemma current (h : Delivery s a packet b seen outcome) {entry : SocketAddress × Nat}
    (hc : entry ∈ b.1) : entry ∈ s.current ∨ entry ∈ openings seen := by
  cases h with
  | refused => exact .inl hc
  | reused => exact .inl ((keptOpen_sublist ..).subset hc)
  | opened =>
    rcases List.mem_cons.mp ((keptOpen_sublist ..).subset hc) with rfl | hc
    · exact .inr List.mem_cons_self
    · exact .inl hc

lemma bytes (h : Delivery s a packet b seen outcome) {id : Nat} (hw : seen.any (·.isWriteOn id)) :
    bytesOn id seen <+: Osc.frame packet ∧ (outcome.isOk → bytesOn id seen = Osc.frame packet) := by
  cases h with
  | refused => cases hw
  | reused _ writing =>
    obtain rfl := (writing.isWriteOn_iff id).mp hw
    exact ⟨writing.bytesOn_isPrefix, writing.bytesOn_whole⟩
  | opened _ writing =>
    obtain rfl := (writing.isWriteOn_iff id).mp hw
    exact ⟨writing.bytesOn_isPrefix, writing.bytesOn_whole⟩

lemma lookup_lost (h : Delivery s a packet b seen outcome) (hlost : ¬outcome.isOk) :
    b.1.lookup a = none := by
  cases h with
  | refused vacant => exact vacant
  | reused => rw [lookup_keptOpen, if_pos ⟨rfl, hlost⟩]
  | opened => rw [lookup_keptOpen, if_pos ⟨rfl, hlost⟩]

lemma lookup_other (h : Delivery s a packet b seen outcome) {c : SocketAddress} (hc : c ≠ a) :
    b.1.lookup c = s.open? c := by
  have hne : ∀ {P : Prop}, ¬(c = a ∧ P) := fun hca => hc hca.1
  cases h with
  | refused => rfl
  | reused =>
    rw [lookup_keptOpen, if_neg hne]
    rfl
  | opened =>
    rw [lookup_keptOpen, if_neg hne, List.lookup_cons, beq_false_of_ne hc]
    rfl

lemma reuses (h : Delivery s a packet b seen outcome) {id : Nat} (hid : s.open? a = some id) :
    seen.filter Exchange.isConnect = [] ∧ ∀ k, seen.any (·.isWriteOn k) ↔ k = id := by
  cases h with
  | refused vacant => cases vacant.symm.trans hid
  | reused cached writing =>
    cases cached.symm.trans hid
    refine ⟨List.filter_eq_nil_iff.mpr fun x hx => ?_, writing.isWriteOn_iff⟩
    rw [writing.not_isConnect x hx]
    exact Bool.false_ne_true
  | opened vacant => cases vacant.symm.trans hid

lemma opens_anew (h : Delivery s a packet b seen outcome) (hvacant : s.open? a = none) :
    ∃ result, seen.filter Exchange.isConnect = [.connect s.streams.length a result] ∧
      ∀ k, seen.any (·.isWriteOn k) ↔ k = s.streams.length ∧ result.isOk := by
  cases h with
  | refused _ e => exact ⟨.error e, rfl, fun k => ⟨nofun, fun hk => nomatch hk.2⟩⟩
  | reused cached => cases cached.symm.trans hvacant
  | opened _ writing =>
    refine ⟨.ok (), ?_, fun k => ?_⟩
    · rw [List.filter_cons_of_pos rfl, List.filter_eq_nil_iff.mpr fun x hx => ?_]
      rw [writing.not_isConnect x hx]
      exact Bool.false_ne_true
    · exact (writing.isWriteOn_iff k).trans ⟨fun hk => ⟨hk, rfl⟩, And.left⟩

/-- A packet that arrives goes out on the open stream or else on the next one, which stays open. -/
lemma arrives_on (h : Delivery s a packet b seen outcome) (hok : outcome.isOk) :
    b.1.lookup a = some ((s.open? a).getD s.streams.length) ∧
      bytesOn ((s.open? a).getD s.streams.length) seen = Osc.frame packet := by
  have hkept : ¬(a = a ∧ ¬outcome.isOk) := fun hlost => hlost.2 hok
  cases h with
  | refused => cases hok
  | reused cached writing =>
    rw [cached, lookup_keptOpen, if_neg hkept]
    exact ⟨cached, writing.bytesOn_whole hok⟩
  | opened vacant writing =>
    rw [vacant, lookup_keptOpen, if_neg hkept, List.lookup_cons_self]
    exact ⟨rfl, writing.bytesOn_whole hok⟩

lemma once (h : Delivery s a packet b seen outcome) (hok : outcome.isOk) :
    ∃ id, ∀ k, seen.any (·.isWriteOn k) ↔ k = id := by
  cases h with
  | refused => cases hok
  | reused _ writing => exact ⟨_, writing.isWriteOn_iff⟩
  | opened _ writing => exact ⟨_, writing.isWriteOn_iff⟩

lemma isOk_iff (h : Delivery s a packet b seen outcome) :
    outcome.isOk ↔ ∀ x ∈ seen, x.succeeded := by
  cases h with
  | refused _ e => exact ⟨nofun, fun hall => hall _ (List.mem_singleton_self _)⟩
  | reused _ writing => exact writing.isOk_iff
  | opened _ writing =>
    rw [List.forall_mem_cons]
    exact writing.isOk_iff.trans ⟨fun hall => ⟨rfl, hall⟩, And.right⟩

end Delivery

/-! ### What the sockets do -/

section Steps

variable [Network ν]

lemma watched_connect (w : Watched ν) (id : Nat) (a : SocketAddress) :
    Network.connect w id a =
      (⟨(Network.connect w.inner id a).1,
        w.seen ++ [.connect id a (Network.connect w.inner id a).2]⟩,
        (Network.connect w.inner id a).2) := rfl

lemma watched_write (w : Watched ν) (id : Nat) (bytes : List UInt8) :
    Network.write w id bytes =
      (⟨(Network.write w.inner id bytes).1,
        w.seen ++ [.write id bytes (Network.write w.inner id bytes).2]⟩,
        (Network.write w.inner id bytes).2) := rfl

lemma write_spec (s : Sockets (Watched ν)) (id : Nat) (bytes : List UInt8) :
    book (s.write id bytes).1 = book s ∧
      ∃ failure, (s.write id bytes).1.network.seen = s.network.seen ++ [.write id bytes failure] ∧
        (s.write id bytes).2 = (failure.map Prod.snd).elim (.ok ()) .error := by
  rw [Sockets.write, watched_write]
  cases (Network.write s.network.inner id bytes).2 with
  | none => exact ⟨Prod.ext rfl (List.length_modify ..), none, rfl, rfl⟩
  | some f => exact ⟨Prod.ext rfl (List.length_modify ..), some f, rfl, rfl⟩

lemma writeFrame_spec (s : Sockets (Watched ν)) (id : Nat) (packet : List UInt8) :
    book (s.writeFrame id packet).1 = book s ∧
      ∃ seen, (s.writeFrame id packet).1.network.seen = s.network.seen ++ seen ∧
        Writing id packet seen (s.writeFrame id packet).2 := by
  obtain ⟨hbook, failure, hseen, houtcome⟩ := write_spec s id (Osc.bigEndian 4 packet.length)
  rw [Sockets.writeFrame]
  generalize s.write id (Osc.bigEndian 4 packet.length) = r at hbook hseen houtcome
  obtain ⟨s₁, outcome⟩ := r
  dsimp only at hbook hseen houtcome
  subst houtcome
  cases failure with
  | some f => exact ⟨hbook, _, hseen, .cutInLength f.1 f.2⟩
  | none =>
    obtain ⟨hbook', failure, hseen', houtcome⟩ := write_spec s₁ id packet
    rw [hseen, List.append_assoc] at hseen'
    refine ⟨hbook'.trans hbook, _, hseen', ?_⟩
    dsimp only [Option.map_none, Option.elim_none]
    rw [houtcome]
    cases failure with
    | none => exact .whole
    | some f => exact .cutInPacket f.1 f.2

lemma writeOrDrop_spec (s : Sockets (Watched ν)) (a : SocketAddress) (id : Nat)
    (packet : List UInt8) :
    ∃ seen, (s.writeOrDrop a id packet).1.network.seen = s.network.seen ++ seen ∧
      Writing id packet seen (s.writeOrDrop a id packet).2 ∧
      book (s.writeOrDrop a id packet).1 =
        (keptOpen a (s.writeOrDrop a id packet).2 s.current, s.streams.length) := by
  obtain ⟨hbook, seen, hseen, hwriting⟩ := writeFrame_spec s id packet
  rw [Sockets.writeOrDrop]
  generalize s.writeFrame id packet = r at hbook hseen hwriting
  obtain ⟨s', outcome⟩ := r
  have hcurrent : s'.current = s.current := congrArg Prod.fst hbook
  have hcount : s'.streams.length = s.streams.length := congrArg Prod.snd hbook
  cases outcome with
  | ok _ => exact ⟨seen, hseen, hwriting, hbook⟩
  | error e =>
    refine ⟨seen, hseen, hwriting, Prod.ext ?_ hcount⟩
    rw [← hcurrent]
    rfl

lemma ensure_open {s : Sockets ν} {a : SocketAddress} {id : Nat} (ho : s.open? a = some id) :
    s.ensure a = (s, .ok id) := by
  simp only [Sockets.ensure, ho]

lemma ensure_vacant {s : Sockets ν} {a : SocketAddress} (ho : s.open? a = none) :
    s.ensure a =
      match Network.connect s.network s.streams.length a with
      | (network, .ok _) => (⟨network, s.streams ++ [{ peer := a }],
          (a, s.streams.length) :: s.current⟩, .ok s.streams.length)
      | (network, .error e) => ({ s with network }, .error e) := by
  simp only [Sockets.ensure, ho]
  obtain ⟨network, outcome⟩ := Network.connect s.network s.streams.length a
  cases outcome <;> rfl

lemma sendStream_spec (s : Sockets (Watched ν)) (a : SocketAddress) (packet : List UInt8) :
    ∃ seen, (s.sendStream a packet).1.network.seen = s.network.seen ++ seen ∧
      Delivery s a packet (book (s.sendStream a packet).1) seen (s.sendStream a packet).2 := by
  rw [Sockets.sendStream]
  cases ho : s.open? a with
  | some id =>
    obtain ⟨seen, hseen, hwriting, hbook⟩ := writeOrDrop_spec s a id packet
    rw [ensure_open ho]
    refine ⟨seen, hseen, ?_⟩
    dsimp only
    rw [hbook]
    exact .reused ho hwriting
  | none =>
    rw [ensure_vacant ho, watched_connect]
    obtain ⟨inner, outcome⟩ := Network.connect s.network.inner s.streams.length a
    cases outcome with
    | error e => exact ⟨_, rfl, .refused ho e⟩
    | ok _ =>
      dsimp only
      obtain ⟨seen, hseen, hwriting, hbook⟩ := writeOrDrop_spec
        ⟨⟨inner, s.network.seen ++ [.connect s.streams.length a (.ok ())]⟩,
          s.streams ++ [{ peer := a }], (a, s.streams.length) :: s.current⟩
        a s.streams.length packet
      rw [List.append_assoc] at hseen
      rw [List.length_append] at hbook
      refine ⟨_, hseen, ?_⟩
      rw [hbook]
      exact .opened ho hwriting

/-! ### Watching changes nothing -/

/-- The sockets on the network itself. -/
def unwatch (s : Sockets (Watched ν)) : Sockets ν :=
  { network := s.network.inner, streams := s.streams, current := s.current }

/-- What is left of an attempt once nobody watches. -/
def unwatched {α : Type} (r : Sockets (Watched ν) × α) : Sockets ν × α := (unwatch r.1, r.2)

lemma unwatched_write (s : Sockets (Watched ν)) (id : Nat) (bytes : List UInt8) :
    unwatched (s.write id bytes) = (unwatch s).write id bytes := by
  rw [Sockets.write, Sockets.write, watched_write, unwatch]
  dsimp only
  obtain ⟨inner, failure⟩ := Network.write s.network.inner id bytes
  cases failure <;> rfl

lemma unwatched_writeFrame (s : Sockets (Watched ν)) (id : Nat) (packet : List UInt8) :
    unwatched (s.writeFrame id packet) = (unwatch s).writeFrame id packet := by
  rw [Sockets.writeFrame, Sockets.writeFrame, ← unwatched_write]
  obtain ⟨s', outcome⟩ := s.write id (Osc.bigEndian 4 packet.length)
  cases outcome with
  | error e => rfl
  | ok _ => exact unwatched_write s' id packet

lemma unwatched_writeOrDrop (s : Sockets (Watched ν)) (a : SocketAddress) (id : Nat)
    (packet : List UInt8) :
    unwatched (s.writeOrDrop a id packet) = (unwatch s).writeOrDrop a id packet := by
  rw [Sockets.writeOrDrop, Sockets.writeOrDrop, ← unwatched_writeFrame]
  obtain ⟨s', outcome⟩ := s.writeFrame id packet
  cases outcome <;> rfl

lemma unwatched_ensure (s : Sockets (Watched ν)) (a : SocketAddress) :
    unwatched (s.ensure a) = (unwatch s).ensure a := by
  cases ho : s.open? a with
  | some id =>
    have ho' : (unwatch s).open? a = some id := ho
    rw [ensure_open ho, ensure_open ho']
    rfl
  | none =>
    have ho' : (unwatch s).open? a = none := ho
    rw [ensure_vacant ho, ensure_vacant ho', watched_connect, unwatch]
    dsimp only
    obtain ⟨inner, outcome⟩ := Network.connect s.network.inner s.streams.length a
    cases outcome <;> rfl

lemma unwatched_send (s : Sockets (Watched ν)) (target : Target) (m : Osc.Message) :
    unwatched (Courier.send s target m) = Courier.send (unwatch s) target m := by
  obtain ⟨t, a⟩ := target
  cases t with
  | udp => rfl
  | tcp =>
    change unwatched (s.sendStream a m.encode) = (unwatch s).sendStream a m.encode
    rw [Sockets.sendStream, Sockets.sendStream, ← unwatched_ensure]
    obtain ⟨s', outcome⟩ := s.ensure a
    cases outcome with
    | error e => rfl
    | ok id => exact unwatched_writeOrDrop s' a id m.encode

lemma unwatched_forget (s : Sockets (Watched ν)) (target : Target) :
    unwatch (Courier.forget s target) = Courier.forget (unwatch s) target := by
  obtain ⟨t, a⟩ := target
  cases t <;> rfl

end Steps

end RackRemote.Proofs

import RackRemote.Control.OriginUrl
import RackRemote.Proofs.HostFrame
import RackRemote.Proofs.Streams

/-!
# From the sockets to the reader

What is written on a stream for a number of events is read back as their messages, each once and in
order, and the stream ends between two frames.
-/

namespace RackRemote.Proofs
open Osc (frame split maxFrame)

variable {ν κ : Type} [Network ν] [Courier κ]

/-! ### Callback messages -/

lemma split_messages {ms : List Osc.Message} (hsize : ∀ m ∈ ms, m.encode.length ≤ maxFrame) :
    split (ms.flatMap fun m => frame m.encode) = (ms.map Osc.Message.encode, .clean) := by
  have hframes : (ms.flatMap fun m => frame m.encode) =
      (ms.map Osc.Message.encode).flatMap frame := (List.flatMap_map ..).symm
  rw [hframes]
  exact split_frames (List.forall_mem_map.mpr hsize)

lemma trimSlashes_isPrefix (l : List Char) : OriginUrl.trimSlashes l <+: l := by
  rw [OriginUrl.trimSlashes, ← List.reverse_suffix, List.reverse_reverse]
  exact List.dropWhile_suffix _

/-- A path that can be registered is empty or starts with a slash. -/
lemma path_of_read {url : String} {origin : OriginUrl} (h : OriginUrl.read url = .ok origin) :
    origin.path.toList = [] ∨ origin.path.toList.head? = some '/' := by
  rw [OriginUrl.read] at h
  split at h
  · cases h
  · rename_i path _
    split at h
    · rename_i hpath
      cases h
      rw [String.toList_ofList]
      have hfront := trimSlashes_isPrefix path
      cases ht : OriginUrl.trimSlashes path with
      | nil => exact .inl rfl
      | cons c rest =>
        rw [ht] at hfront
        obtain ⟨more, rfl⟩ := hfront
        rcases hpath with hnil | hslash
        · cases hnil
        · exact .inr hslash
    · cases h

/-- The message about an event, as a controller with a path can read it. -/
lemma decode_callback {path : String} {e : Event} {url : String} {origin : OriginUrl}
    (hread : OriginUrl.read url = .ok origin) (hpath : origin.path = path) (hfree : ZeroFree path)
    (htext : ZeroFree e.callback.text) :
    Osc.decode (e.message path).encode = .ok (.message (e.message path)) := by
  have haddress : (e.message path).address.toList = path.toList ++ ['/', 'c', 'b'] :=
    String.toList_append
  apply decode_encode
  · rw [haddress, ← hpath]
    rcases path_of_read hread with hnil | hslash
    · rw [hnil]
      rfl
    · rw [List.head?_append, hslash]
      rfl
  · rw [ZeroFree, haddress, List.mem_append, not_or]
    exact ⟨hfree, by decide⟩
  · simp only [Event.message, Callback.args, List.forall_mem_cons, List.not_mem_nil]
    exact ⟨.int _, .int _, .int _, .int _, .int _, .float _, .string htext, fun _ h => h.elim⟩

/-! ### Sending and reading -/

/-- The errands of sending messages to an address on TCP. -/
def sendAll (a : SocketAddress) (ms : List Osc.Message) : List Errand :=
  ms.map (.send ⟨.tcp, a⟩)

/-- Messages that all arrive go out on one stream, frame by frame. -/
lemma bytesOn_sendAll (s : Sockets (Watched ν)) (a : SocketAddress) (ms : List Osc.Message)
    (harrived : ∀ p ∈ postings s (sendAll a ms), p.arrived) :
    bytesOn ((s.open? a).getD s.streams.length) (performAll s (sendAll a ms)).network.seen =
      bytesOn ((s.open? a).getD s.streams.length) s.network.seen ++
        ms.flatMap fun m => frame m.encode := by
  induction ms generalizing s with
  | nil => exact (List.append_nil _).symm
  | cons m ms ih =>
    obtain ⟨hseen, hd⟩ := post_tcp s a m
    obtain ⟨hopen, hbytes⟩ := hd.arrives_on (harrived _ List.mem_cons_self)
    have hrest := ih (Courier.send s ⟨.tcp, a⟩ m).1
      fun p hp => harrived p (List.mem_cons_of_mem _ hp)
    have hid : ((Courier.send s ⟨.tcp, a⟩ m).1.open? a).getD
        (Courier.send s ⟨.tcp, a⟩ m).1.streams.length = (s.open? a).getD s.streams.length := by
      rw [show (Courier.send s ⟨.tcp, a⟩ m).1.open? a = _ from hopen]
      rfl
    rw [hid, hseen, bytesOn_append, hbytes, List.append_assoc] at hrest
    exact hrest

lemma receive_packet (h : Host κ) {bytes : List UInt8} {m : Osc.Message}
    (hm : Osc.decode bytes = .ok (.message m)) : h.receive .tcp bytes = (h.handle .tcp m).1 := by
  rw [Host.receive, hm]
  dsimp only
  rw [Host.handlePacket]
  obtain ⟨h', outcome⟩ := h.handle .tcp m
  cases outcome <;> rfl

lemma receiveStream_frames (h : Host κ) {ms : List Osc.Message}
    (hsize : ∀ m ∈ ms, m.encode.length ≤ maxFrame)
    (hdecode : ∀ m ∈ ms, Osc.decode m.encode = .ok (.message m)) :
    h.receiveStream (ms.flatMap fun m => frame m.encode) =
      (ms.foldl (fun h m => (h.handle .tcp m).1) h, .clean) := by
  rw [Host.receiveStream, split_messages hsize]
  dsimp only
  rw [List.foldl_map]
  congr 1
  induction ms generalizing h with
  | nil => rfl
  | cons m ms ih =>
    rw [List.foldl_cons, List.foldl_cons, receive_packet h (hdecode m List.mem_cons_self)]
    exact ih _ (fun x hx => hsize x (List.mem_cons_of_mem m hx))
      fun x hx => hdecode x (List.mem_cons_of_mem m hx)

/-- Events that are told to a controller go out on one stream. What is written there for them is read
as their messages, bit for bit and in order, and ends between two frames. On a stream of their own it
is all there is. -/
theorem callbacks_read_back (network : ν) (earlier : List Errand) (a : SocketAddress)
    (items : List (String × Event))
    (hpath : ∀ p ∈ items, ∃ url origin, OriginUrl.read url = .ok origin ∧ origin.path = p.1)
    (hfree : ∀ p ∈ items, ZeroFree p.1 ∧ ZeroFree p.2.callback.text)
    (hsize : ∀ p ∈ items, (p.2.message p.1).encode.length ≤ 2 ^ 20)
    (harrived : ∀ p ∈ postings (performAll (unused network) earlier)
      (sendAll a (items.map fun p => p.2.message p.1)), p.arrived) :
    let s := performAll (unused network) earlier
    let ms := items.map fun p => p.2.message p.1
    let id := (s.open? a).getD s.streams.length
    ∃ written, bytesOn id (performAll s (sendAll a ms)).network.seen =
        bytesOn id s.network.seen ++ written ∧
      (s.open? a = none → bytesOn id s.network.seen = []) ∧
      (split written).1.map Osc.decode = ms.map (fun m => .ok (.message m)) ∧
      (split written).2 = .clean ∧
      ∀ h : Host κ, h.receiveStream written =
        (ms.foldl (fun h m => (h.handle .tcp m).1) h, .clean) := by
  intro s ms id
  have hs : Sound s (postings (unused network) earlier) := (Sound.unused network).performAll earlier
  have hdecode : ∀ m ∈ ms, Osc.decode m.encode = .ok (.message m) := by
    refine List.forall_mem_map.mpr fun p hp => ?_
    obtain ⟨url, origin, hread, ho⟩ := hpath p hp
    exact decode_callback hread ho (hfree p hp).1 (hfree p hp).2
  have hsize' : ∀ m ∈ ms, m.encode.length ≤ maxFrame := List.forall_mem_map.mpr hsize
  refine ⟨_, bytesOn_sendAll s a ms harrived, fun hvacant => ?_, ?_, ?_, ?_⟩
  · have hid : id = s.streams.length := congrArg (fun found => found.getD s.streams.length) hvacant
    rw [hid, hs.bytesOn_next]
  · rw [split_messages hsize', List.map_map]
    exact List.map_congr_left hdecode
  · rw [split_messages hsize']
  · exact fun h => receiveStream_frames h hsize' hdecode

/-- After a stream broke, a second one carries a long, a short and a longer message, one of them with a
NaN and one with an empty path. -/
theorem callbacks_read_back_reopened :
    let a := Loopback.address 0
    let network : Loopback := { slots := [{}], aborted := [0] }
    let items : List (String × Event) :=
      [("/R", .engineStarted {}), ("", .parameterChanged 1 2 ⟨0x7fc00001⟩),
        ("/R/S", .pluginAdded 0 "Süd ♪")]
    let ms := items.map fun p => p.2.message p.1
    let s := performAll (unused network) [.send ⟨.tcp, a⟩ ⟨"/R/cb", []⟩]
    s.open? a = none ∧
      (split (bytesOn 1 (performAll s (sendAll a ms)).network.seen)).1.map Osc.decode =
        ms.map (fun m => .ok (.message m)) ∧
      (split (bytesOn 1 (performAll s (sendAll a ms)).network.seen)).2 = .clean := by
  intro a network items ms s
  have hvacant : s.open? a = none := by decide +kernel
  have hid : (s.open? a).getD s.streams.length = 1 := by decide +kernel
  obtain ⟨written, hbytes, hempty, hread, hend, _⟩ :=
    callbacks_read_back (κ := Quota) network [.send ⟨.tcp, a⟩ ⟨"/R/cb", []⟩] a items
      (by
        simp only [items, List.forall_mem_cons, List.not_mem_nil]
        exact ⟨⟨"osc.udp://h:1/R/", ⟨"udp", "h", 1, "/R"⟩, by decide +kernel, rfl⟩,
          ⟨"osc.tcp://[::1]:9", ⟨"tcp", "::1", 9, ""⟩, by decide +kernel, rfl⟩,
          ⟨"osc.tcp://h:1/R/S", ⟨"tcp", "h", 1, "/R/S"⟩, by decide +kernel, rfl⟩, nofun⟩)
      (by decide +kernel) (by decide +kernel) (by decide +kernel)
  rw [hempty hvacant, List.nil_append, hid] at hbytes
  refine ⟨hvacant, ?_⟩
  rw [hbytes]
  exact ⟨hread, hend⟩

end RackRemote.Proofs

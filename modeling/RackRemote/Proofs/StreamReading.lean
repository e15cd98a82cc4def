import RackRemote.Proofs.PacketCodec
import RackRemote.Proofs.Recasting

/-!
# Reading a stream

A stream is a row of frames and a tail that holds no whole frame; `split` finds exactly these, and it
makes no difference in which pieces the stream arrives. What becomes of a host that reads it depends
on the packets in the frames alone: frames that hold no packet leave a note in the journal.
-/

namespace RackRemote.Proofs
open Osc (frame split feed maxFrame bigEndian ofBigEndian StreamEnd)

/-! ### Frames and a tail -/

/-- How a stream can end behind its last whole frame. -/
def Ends (tail : List UInt8) : StreamEnd → Prop
  | .clean => tail.length < 4
  | .cut => 4 ≤ tail.length ∧ ofBigEndian (tail.take 4) ≤ 2 ^ 20 ∧
      (tail.drop 4).length < ofBigEndian (tail.take 4)
  | .overlong size => 4 ≤ tail.length ∧ ofBigEndian (tail.take 4) = size ∧ 2 ^ 20 < size

lemma split_short {bytes : List UInt8} (h : bytes.length < 4) : split bytes = ([], .clean) := by
  rw [split]
  rintro a b c d rest rfl
  simp only [List.length_cons] at h
  omega

lemma split_header (a b c d : UInt8) (rest : List UInt8) :
    split (a :: b :: c :: d :: rest) =
      if maxFrame < ofBigEndian [a, b, c, d] then ([], .overlong (ofBigEndian [a, b, c, d]))
      else if rest.length < ofBigEndian [a, b, c, d] then ([], .cut)
      else (rest.take (ofBigEndian [a, b, c, d]) ::
          (split (rest.drop (ofBigEndian [a, b, c, d]))).1,
        (split (rest.drop (ofBigEndian [a, b, c, d]))).2) := by
  rw [split]

/-- Four bytes and as many more as they say are a frame. -/
lemma frame_of_header (a b c d : UInt8) {packet : List UInt8}
    (hsize : packet.length = ofBigEndian [a, b, c, d]) :
    frame packet = a :: b :: c :: d :: packet := by
  have hheader : bigEndian 4 (ofBigEndian [a, b, c, d]) = [a, b, c, d] :=
    bigEndian_ofBigEndian [a, b, c, d]
  rw [frame, hsize, hheader]
  rfl

lemma exists_header {bytes : List UInt8} (h : 4 ≤ bytes.length) :
    ∃ a b c d rest, bytes = a :: b :: c :: d :: rest := by
  match bytes, h with
  | a :: b :: c :: d :: rest, _ => exact ⟨a, b, c, d, rest, rfl⟩

lemma split_of_ends {tail : List UInt8} {stop : StreamEnd} (h : Ends tail stop) :
    split tail = ([], stop) := by
  cases stop with
  | clean => exact split_short h
  | cut =>
    obtain ⟨hfour, hsize, hcut⟩ := h
    obtain ⟨a, b, c, d, rest, rfl⟩ := exists_header hfour
    have hlimit : ¬maxFrame < ofBigEndian [a, b, c, d] := Nat.not_lt_of_le hsize
    have hmissing : rest.length < ofBigEndian [a, b, c, d] := hcut
    rw [split_header, if_neg hlimit, if_pos hmissing]
  | overlong size =>
    obtain ⟨hfour, rfl, hsize⟩ := h
    obtain ⟨a, b, c, d, rest, rfl⟩ := exists_header hfour
    have hlimit : maxFrame < ofBigEndian [a, b, c, d] := hsize
    rw [split_header, if_pos hlimit]
    rfl

lemma split_append {packets : List (List UInt8)} (hsize : ∀ p ∈ packets, p.length ≤ maxFrame)
    (tail : List UInt8) :
    split (packets.flatMap frame ++ tail) = (packets ++ (split tail).1, (split tail).2) := by
  induction packets with
  | nil => rfl
  | cons p packets ih =>
    have hrest := ih fun q hq => hsize q (List.mem_cons_of_mem p hq)
    rw [List.flatMap_cons, List.append_assoc, split_frame (hsize p List.mem_cons_self), hrest]
    rfl

/-- What `split` finds: whole frames in a row, and a tail. -/
structure FallsInto (bytes : List UInt8) (packets : List (List UInt8)) (tail : List UInt8)
    (stop : StreamEnd) : Prop where
  bytes : bytes = packets.flatMap frame ++ tail
  sizes : ∀ p ∈ packets, p.length ≤ 2 ^ 20
  ends : Ends tail stop

namespace FallsInto

variable {bytes tail : List UInt8} {packets : List (List UInt8)} {stop : StreamEnd}

lemma split (h : FallsInto bytes packets tail stop) : split bytes = (packets, stop) := by
  rw [h.bytes, split_append h.sizes, split_of_ends h.ends, List.append_nil]

lemma drop (h : FallsInto bytes packets tail stop) :
    bytes.drop (packets.flatMap frame).length = tail := by
  rw [h.bytes, List.drop_left]

lemma cons (h : FallsInto bytes packets tail stop) {packet : List UInt8}
    (hsize : packet.length ≤ 2 ^ 20) :
    FallsInto (frame packet ++ bytes) (packet :: packets) tail stop where
  bytes := by rw [h.bytes, List.flatMap_cons, List.append_assoc]
  sizes := List.forall_mem_cons.mpr ⟨hsize, h.sizes⟩
  ends := h.ends

end FallsInto

lemma fallsInto_split (bytes : List UInt8) :
    ∃ tail, FallsInto bytes (split bytes).1 tail (split bytes).2 := by
  induction hn : bytes.length using Nat.strongRecOn generalizing bytes with
  | _ n ih =>
    by_cases hfour : 4 ≤ bytes.length
    · obtain ⟨a, b, c, d, rest, rfl⟩ := exists_header hfour
      rw [split_header]
      by_cases hlimit : maxFrame < ofBigEndian [a, b, c, d]
      · rw [if_pos hlimit]
        exact ⟨_, rfl, List.forall_mem_nil _, hfour, rfl, hlimit⟩
      rw [if_neg hlimit]
      by_cases hcut : rest.length < ofBigEndian [a, b, c, d]
      · rw [if_pos hcut]
        exact ⟨_, rfl, List.forall_mem_nil _, hfour, Nat.le_of_not_lt hlimit, hcut⟩
      rw [if_neg hcut]
      have hlength : (rest.take (ofBigEndian [a, b, c, d])).length = ofBigEndian [a, b, c, d] :=
        List.length_take_of_le (Nat.le_of_not_lt hcut)
      have hframe := frame_of_header a b c d hlength
      have hbytes : a :: b :: c :: d :: rest = frame (rest.take (ofBigEndian [a, b, c, d])) ++
          rest.drop (ofBigEndian [a, b, c, d]) := by
        simp [hframe]
      have hshorter : (rest.drop (ofBigEndian [a, b, c, d])).length < n := by
        simp only [← hn, List.length_cons, List.length_drop]
        omega
      obtain ⟨tail, htail⟩ := ih _ hshorter _ rfl
      refine ⟨tail, ?_⟩
      rw [hbytes]
      exact htail.cons (Nat.le_trans (Nat.le_of_eq hlength) (Nat.le_of_not_lt hlimit))
    · have hshort : bytes.length < 4 := Nat.lt_of_not_le hfour
      rw [split_short hshort]
      exact ⟨bytes, rfl, List.forall_mem_nil _, hshort⟩

/-- A stream falls into frames in one way only. -/
lemma split_eq_iff {bytes : List UInt8} {packets : List (List UInt8)} {stop : StreamEnd} :
    split bytes = (packets, stop) ↔ ∃ tail, FallsInto bytes packets tail stop := by
  constructor
  · intro h
    obtain ⟨tail, htail⟩ := fallsInto_split bytes
    rw [h] at htail
    exact ⟨tail, htail⟩
  · rintro ⟨tail, htail⟩
    exact htail.split

lemma Ends.append {tail : List UInt8} {size : Nat} (h : Ends tail (.overlong size))
    (more : List UInt8) : Ends (tail ++ more) (.overlong size) := by
  obtain ⟨hfour, hsize, hlimit⟩ := h
  refine ⟨?_, ?_, hlimit⟩
  · rw [List.length_append]
    omega
  · rw [List.take_append_of_le_length hfour, hsize]

/-- Behind a length over the limit nothing is read. -/
lemma split_append_of_overlong {bytes : List UInt8} {size : Nat}
    (h : (split bytes).2 = .overlong size) (more : List UInt8) :
    split (bytes ++ more) = split bytes := by
  obtain ⟨tail, htail⟩ := fallsInto_split bytes
  rw [h] at htail
  have hmore : FallsInto (bytes ++ more) (split bytes).1 (tail ++ more) (.overlong size) := by
    refine ⟨?_, htail.sizes, htail.ends.append more⟩
    rw [← List.append_assoc, ← htail.bytes]
  rw [hmore.split, ← h]

/-! ### Pieces -/

/-- The frames of a stream that arrives in pieces, and how it ends: it is read until a length over the
limit is announced or nothing more arrives. -/
def piecewise : List UInt8 → List (List UInt8) → List (List UInt8) × StreamEnd
  | rest, [] => ([], (split rest).2)
  | rest, piece :: pieces =>
    let (frames, left) := feed rest piece
    match (split left).2 with
    | .overlong size => (frames, .overlong size)
    | _ =>
      let (more, stop) := piecewise left pieces
      (frames ++ more, stop)

lemma piecewise_eq {rest : List UInt8} (hrest : (split rest).1 = []) (pieces : List (List UInt8)) :
    piecewise rest pieces = split (rest ++ pieces.flatten) := by
  induction pieces generalizing rest with
  | nil =>
    rw [piecewise, List.flatten_nil, List.append_nil, ← hrest]
  | cons piece pieces ih =>
    obtain ⟨tail, htail⟩ := fallsInto_split (rest ++ piece)
    have hfeed : feed rest piece = ((split (rest ++ piece)).1, tail) := by
      rw [feed, htail.drop]
    have hleft := split_of_ends htail.ends
    have hwhole : split (rest ++ (piece :: pieces).flatten) =
        ((split (rest ++ piece)).1 ++ (split (tail ++ pieces.flatten)).1,
          (split (tail ++ pieces.flatten)).2) := by
      rw [List.flatten_cons, ← List.append_assoc, htail.bytes, List.append_assoc,
        split_append htail.sizes, ← htail.bytes]
    have hrec := @ih tail (by rw [hleft])
    rw [hwhole, piecewise, hfeed]
    dsimp only
    rw [hrec]
    split
    · rename_i size hover
      rw [split_append_of_overlong hover, hover, hleft, List.append_nil]
    · rfl

/-! ### Packets -/

variable {κ : Type} [Courier κ]

/-- The host without its notes about what was no packet. -/
def withoutGarbage (h : Host κ) : Host κ :=
  { h with journal := h.journal.filter fun e => !isGarbage e }

/-- A host does the same without such notes. -/
def heedless (κ : Type) [Courier κ] : Recasting κ κ where
  courier := id
  journal := List.filter fun e => !isGarbage e
  send _ _ _ := rfl
  forget _ _ := rfl
  enter entries e he := by simp [List.filter_append, he]

lemma handlePacket_withoutGarbage (h : Host κ) (t : Transport) (p : Osc.Packet) :
    withoutGarbage (h.handlePacket t p).1 = ((withoutGarbage h).handlePacket t p).1 := by
  rw [handlePacket_run, handlePacket_run]
  induction p.leaves generalizing h with
  | nil => rfl
  | cons m ms ih =>
    have hstep := (heedless κ).host_move h (m := .message t m) nofun
    rw [List.map_cons, run_cons, run_cons, ih]
    exact congrArg (run · _) hstep.symm

lemma receive_withoutGarbage (h : Host κ) (t : Transport) (bytes : List UInt8) :
    withoutGarbage (h.receive t bytes) =
      match Osc.decode bytes with
      | .ok packet => ((withoutGarbage h).handlePacket t packet).1
      | .error _ => withoutGarbage h := by
  rw [Host.receive]
  cases Osc.decode bytes with
  | ok packet => exact handlePacket_withoutGarbage h t packet
  | error fault => simp [withoutGarbage, Host.enter, isGarbage]

/-- The packets in frames; a frame that holds none is passed over. -/
def packetsIn (frames : List (List UInt8)) : List Osc.Packet :=
  frames.filterMap fun bytes => (Osc.decode bytes).toOption

lemma receiveAll_withoutGarbage (h : Host κ) (t : Transport) (frames : List (List UInt8)) :
    withoutGarbage (frames.foldl (fun h bytes => h.receive t bytes) h) =
      (packetsIn frames).foldl (fun h p => (h.handlePacket t p).1) (withoutGarbage h) := by
  induction frames generalizing h with
  | nil => rfl
  | cons bytes frames ih =>
    have hfirst := receive_withoutGarbage h t bytes
    have hpackets : packetsIn (bytes :: frames) =
        (Osc.decode bytes).toOption.toList ++ packetsIn frames := by
      simp only [packetsIn, List.filterMap_cons]
      cases Osc.decode bytes <;> rfl
    rw [List.foldl_cons, ih, hfirst, hpackets, List.foldl_append]
    cases Osc.decode bytes <;> rfl

lemma foldl_handlePacket_withoutGarbage (h : Host κ) (t : Transport) (packets : List Osc.Packet) :
    withoutGarbage (packets.foldl (fun h p => (h.handlePacket t p).1) h) =
      packets.foldl (fun h p => (h.handlePacket t p).1) (withoutGarbage h) := by
  induction packets generalizing h with
  | nil => rfl
  | cons p packets ih => rw [List.foldl_cons, List.foldl_cons, ih, handlePacket_withoutGarbage]

/-- What arrives on a connection is whole frames in a row and a tail, and can be cut in this way only.
The tail decides how the connection ends; behind a length over the limit nothing is read. Whatever the
pieces in which the bytes arrive, the frames are the same. A host that reads them is in the end, but
for its notes about frames that hold no packet, as if it had been given the packets one by one. -/
theorem stream_is_read_frame_by_frame (h : Host κ) (bytes : List UInt8) :
    (∀ frames stop, split bytes = (frames, stop) ↔ ∃ tail,
      bytes = frames.flatMap frame ++ tail ∧ (∀ f ∈ frames, f.length ≤ 2 ^ 20) ∧ Ends tail stop) ∧
    (∀ size, (split bytes).2 = .overlong size → ∀ more, split (bytes ++ more) = split bytes) ∧
    (∀ pieces : List (List UInt8), piecewise [] pieces = split pieces.flatten) ∧
    (StreamEnd.clean.text = "closed" ∧ StreamEnd.cut.text = "early eof" ∧ ∀ size,
      (StreamEnd.overlong size).text = "frame of " ++ size.repr ++ " bytes exceeds limit") ∧
    let packets := (split bytes).1.filterMap fun f => (Osc.decode f).toOption
    (h.receiveStream bytes).2 = (split bytes).2 ∧
    withoutGarbage (h.receiveStream bytes).1 =
      withoutGarbage (packets.foldl (fun h p => (h.handlePacket .tcp p).1) h) := by
  refine ⟨fun frames stop => ?_, fun size => split_append_of_overlong, fun pieces => ?_,
    ⟨rfl, rfl, fun size => rfl⟩, rfl, ?_⟩
  · rw [split_eq_iff]
    exact exists_congr fun tail => ⟨fun h => ⟨h.bytes, h.sizes, h.ends⟩,
      fun ⟨hbytes, hsizes, hends⟩ => ⟨hbytes, hsizes, hends⟩⟩
  · have hempty : (split []).1 = [] := by rw [split_short (by decide)]
    exact piecewise_eq hempty pieces
  · rw [foldl_handlePacket_withoutGarbage]
    exact receiveAll_withoutGarbage h .tcp _

/-- An empty frame, one that holds no packet, one that does, and then a length over the limit. -/
theorem stream_is_read_frame_by_frame_overlong :
    let h : Host Quota := { setup := { root := "rack" }, courier := {} }
    let m : Osc.Message := ⟨"/register", [.string "osc.tcp://127.0.0.1:19000/R"]⟩
    let bytes := [[], [7], m.encode].flatMap frame ++ [0, 16, 0, 1, 5]
    split bytes = ([[], [7], m.encode], .overlong 1048577) ∧
      split (bytes ++ frame m.encode) = ([[], [7], m.encode], .overlong 1048577) ∧
      withoutGarbage (h.receiveStream bytes).1 =
        withoutGarbage (h.handlePacket .tcp (.message m)).1 := by
  intro h m bytes
  obtain ⟨hcut, hover, _, _, _, hhost⟩ := stream_is_read_frame_by_frame h bytes
  have hsplit : split bytes = ([[], [7], m.encode], .overlong 1048577) :=
    (hcut _ _).mpr ⟨[0, 16, 0, 1, 5], rfl, by decide +kernel, by decide, by decide, by decide⟩
  have hdecode : Osc.decode m.encode = .ok (.message m) := by
    apply decode_encode
    · decide
    · decide
    · exact List.forall_mem_singleton.mpr (.string (by decide +kernel))
  refine ⟨hsplit, (hover 1048577 (by rw [hsplit]) _).trans hsplit, ?_⟩
  have hempty : (Osc.decode []).toOption = none := by
    rw [Osc.decode, Osc.Cursor.packet]
    rfl
  have hseven : (Osc.decode [7]).toOption = none := by
    rw [Osc.decode, Osc.Cursor.packet]
    rfl
  rw [hhost, hsplit]
  simp only [List.filterMap_cons, hempty, hseven, hdecode]
  rfl

end RackRemote.Proofs

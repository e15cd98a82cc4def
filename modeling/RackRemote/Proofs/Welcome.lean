import RackRemote.Proofs.Hearing
import RackRemote.Proofs.Transcript

/-!
# What a newcomer is shown

A controller that registers on TCP is sent the engine and the plugins until a message to it fails,
then it is registered, and then every connection is tried. Seen from the newcomer, this is one
sequence: however many messages get through before the line goes dead, it has the beginning of the
whole picture.
-/

namespace RackRemote.Proofs

variable {κ : Type} [Courier κ]

/-! ### Until a message fails -/

/-- Entries up to and including the first message to a target that did not get through. -/
def untilLost (target : Target) : List Entry → List Entry
  | [] => []
  | e :: entries => if isLost target e then [e] else e :: untilLost target entries

lemma untilLost_error (target : Target) (m : Osc.Message) (failure : IoError)
    (entries : List Entry) :
    untilLost target (.sent target m (.error failure) :: entries) =
      [.sent target m (.error failure)] := if_pos (beq_self_eq_true target)

lemma untilLost_isPrefix (target : Target) (entries : List Entry) :
    untilLost target entries <+: entries := by
  induction entries with
  | nil => exact List.prefix_rfl
  | cons e entries ih =>
    rw [untilLost]
    split
    · exact ⟨entries, rfl⟩
    · exact List.prefix_cons_inj e |>.mpr ih

/-- Messages that are broken off at the first failure are the first so many of them, and all of them
if there is no failure. -/
lemma untilLost_sending (target : Target) (k : κ) (ms : List Osc.Message) :
    ∃ front, untilLost target (sending target k ms) = sending target k front ∧
      (Undisturbed target (sending target k front) → front = ms) := by
  induction ms generalizing k with
  | nil => exact ⟨[], rfl, fun _ => rfl⟩
  | cons m ms ih =>
    cases hsent : (Courier.send k target m).2 with
    | ok _ =>
      obtain ⟨front, hfront, hwhole⟩ := ih (Courier.send k target m).1
      refine ⟨m :: front, ?_, fun hundisturbed => ?_⟩
      · rw [sending, sending, hsent, untilLost, hfront]
        rfl
      · rw [sending, Undisturbed, List.forall_mem_cons] at hundisturbed
        rw [hwhole hundisturbed.2]
    | error failure =>
      refine ⟨[m], ?_, fun hundisturbed => absurd hundisturbed ?_⟩
      · rw [sending, sending, hsent, untilLost_error]
        rfl
      · rw [sending, hsent]
        exact not_undisturbed target m failure

lemma entered_introduce (h : Host κ) (b : Binding) (events : List Event) :
    Entered h (h.introduce b events)
      (untilLost b.target (sending b.target h.courier (events.map (Event.message b.path)))) := by
  induction events generalizing h with
  | nil => exact Entered.refl h
  | cons e events ih =>
    have hd := entered_deliver h b.target (e.message b.path)
    rw [Host.introduce, List.map_cons, sending]
    cases hsent : (Courier.send h.courier b.target (e.message b.path)).2 with
    | ok _ =>
      have hdeliver : h.deliver b.target (e.message b.path) =
          ((h.deliver b.target (e.message b.path)).1, .ok ()) := Prod.ext rfl hsent
      rw [hsent] at hd
      rw [hdeliver]
      exact hd.trans (ih _)
    | error failure =>
      have hdeliver : h.deliver b.target (e.message b.path) =
          ((h.deliver b.target (e.message b.path)).1, .error failure) := Prod.ext rfl hsent
      rw [hsent] at hd
      rw [hdeliver, untilLost_error]
      exact hd

lemma heard_traffic (target : Target) (entries : List Entry) :
    heard target (traffic entries) = heard target entries := by
  apply filterMap_traffic
  intro e he
  cases e with
  | sent => cases he
  | _ => rfl

lemma heard_append (target : Target) (early late : List Entry) :
    heard target (early ++ late) = heard target early ++ heard target late :=
  List.filterMap_append

/-! ### Couriers that give out -/

/-- Of any messages that go to a target one after the other, the first `n` get through and no more. -/
def Lasts (target : Target) (n : Nat) (k : κ) : Prop :=
  ∀ ms, heard target (sending target k ms) = ms.take n

lemma heard_sending_ok {target : Target} {k : κ} {m : Osc.Message}
    (hsent : (Courier.send k target m).2 = .ok ()) (ms : List Osc.Message) :
    heard target (sending target k (m :: ms)) =
      m :: heard target (sending target (Courier.send k target m).1 ms) := by
  rw [sending, hsent]
  simp [heard]

lemma heard_sending_error {target : Target} {k : κ} {m : Osc.Message} {failure : IoError}
    (hsent : (Courier.send k target m).2 = .error failure) (ms : List Osc.Message) :
    heard target (sending target k (m :: ms)) =
      heard target (sending target (Courier.send k target m).1 ms) := by
  rw [sending, hsent]
  rfl

namespace Lasts

variable {target : Target} {n : Nat} {k : κ}

lemma delivers (h : Lasts target (n + 1) k) (m : Osc.Message) :
    (Courier.send k target m).2 = .ok () ∧ Lasts target n (Courier.send k target m).1 := by
  cases hsent : (Courier.send k target m).2 with
  | error failure =>
    have hm := h [m]
    rw [heard_sending_error hsent] at hm
    cases hm
  | ok _ =>
    refine ⟨rfl, fun ms => ?_⟩
    have hm := h (m :: ms)
    rw [heard_sending_ok hsent, List.take_succ_cons] at hm
    exact List.tail_eq_of_cons_eq hm

lemma fails (h : Lasts target 0 k) (m : Osc.Message) :
    (∃ failure, (Courier.send k target m).2 = .error failure) ∧
      Lasts target 0 (Courier.send k target m).1 := by
  cases hsent : (Courier.send k target m).2 with
  | ok _ =>
    have hm := h [m]
    rw [heard_sending_ok hsent] at hm
    cases hm
  | error failure =>
    refine ⟨⟨failure, rfl⟩, fun ms => ?_⟩
    have hm := h (m :: ms)
    rwa [heard_sending_error hsent, List.take_zero, ← List.take_zero (l := ms)] at hm

/-- A sequence that is broken off at the first failure loses nothing that would have got through. -/
lemma untilLost (h : Lasts target n k) (ms : List Osc.Message) :
    let entries := untilLost target (sending target k ms)
    heard target entries = ms.take n ∧ Lasts target (n - ms.length) (entries.foldl replay k) := by
  induction ms generalizing n k with
  | nil => exact ⟨List.take_nil.symm, h⟩
  | cons m ms ih =>
    dsimp only
    rw [sending]
    cases n with
    | zero =>
      obtain ⟨⟨failure, hsent⟩, hrest⟩ := h.fails m
      rw [hsent, untilLost_error, Nat.zero_sub]
      exact ⟨rfl, hrest⟩
    | succ n =>
      obtain ⟨hsent, hrest⟩ := h.delivers m
      obtain ⟨hheard, hlasts⟩ := ih hrest
      rw [hsent, List.length_cons, Nat.add_sub_add_right, List.take_succ_cons, ← hheard]
      refine ⟨?_, hlasts⟩
      simp [Proofs.untilLost, isLost, heard]

end Lasts

/-! ### Registration -/

lemma traffic_of_prefix_sending {target : Target} {k : κ} {ms : List Osc.Message}
    {entries : List Entry} (he : entries <+: sending target k ms) : traffic entries = entries := by
  have hsending : ∀ e ∈ sending target k ms, isTraffic e = true := by
    clear he
    induction ms generalizing k with
    | nil => exact List.forall_mem_nil _
    | cons m ms ih => exact List.forall_mem_cons.mpr ⟨rfl, ih⟩
  exact List.filter_eq_self.mpr fun e hmem => hsending e (he.subset hmem)

/-- The attempts at callback messages are at callback messages, however they are broken off. -/
lemma attempts_of_prefix_sending {target : Target} {k : κ} {path : String} {events : List Event}
    {entries : List Entry} (he : entries <+: sending target k (events.map (Event.message path))) :
    ∀ a ∈ attempts entries, a.1 = target ∧ a.2.address = path ++ "/cb" := by
  intro a ha
  have hall : a ∈ attempts (sending target k (events.map (Event.message path))) := by
    obtain ⟨e, hmem, hq⟩ := List.mem_filterMap.mp ha
    exact List.mem_filterMap.mpr ⟨e, he.subset hmem, hq⟩
  rw [attempts_sending, List.map_map] at hall
  obtain ⟨e, _, rfl⟩ := List.mem_map.mp hall
  exact ⟨rfl, rfl⟩

/-- What is sent to a newcomer before it is registered. -/
def shownTo (b : Binding) (h : Host κ) : List Entry :=
  untilLost b.target (sending b.target (Courier.forget h.courier b.target)
    (h.rack.picture.map (Event.message b.path)))

lemma entered_welcomed (h : Host κ) (b : Binding) :
    Entered h (welcomed h b) (.forgot b.target :: shownTo b h) := by
  have hall := (entered_forget h b.target).trans
    (entered_introduce (h.forget b.target) b h.rack.picture)
  exact ⟨(setBinding_journal _ _ _).trans hall.journal, hall.courier⟩

/-- The two ways of telling a newcomer add up to one sequence. -/
lemma entered_register_told {h : Host κ} {url : String} {b : Binding} (hvacant : h.tcp = none)
    (hu : Binding.ofUrl h.setup.names .tcp url = .ok b) :
    ∃ entries, Entered h (h.register .tcp url).1 entries ∧
      traffic entries = .forgot b.target :: (shownTo b h ++
        sending b.target ((shownTo b h).foldl replay (Courier.forget h.courier b.target))
          ((told h).map (Event.message b.path))) := by
  have hw := alike_welcomed h b
  have hfirst := entered_welcomed h b
  obtain ⟨entries, hrest, htraffic⟩ := entered_ask_told hw.tcp (welcomed h b).setup.systemPorts
  have htold : told (welcomed h b) = told h := by
    rw [told, reportable, hw.setup, hw.rack, told, reportable]
  have hshown : traffic (.forgot b.target :: shownTo b h) = .forgot b.target :: shownTo b h :=
    congrArg (List.cons _) (traffic_of_prefix_sending (untilLost_isPrefix _ _))
  refine ⟨(.forgot b.target :: shownTo b h) ++ entries, ?_, ?_⟩
  · rw [register_tcp hvacant hu]
    exact hfirst.trans hrest
  · rw [traffic_append, hshown, htraffic, htold, hfirst.courier]
    rfl

lemma entered_register_tcp {h : Host κ} {url : String} {b : Binding} (hvacant : h.tcp = none)
    (hpass : h.setup.passesEvents = true) (hu : Binding.ofUrl h.setup.names .tcp url = .ok b) :
    ∃ entries, Entered h (h.register .tcp url).1 entries ∧
      traffic entries = .forgot b.target :: (shownTo b h ++
        sending b.target ((shownTo b h).foldl replay (Courier.forget h.courier b.target))
          ((reportable h).map (Event.message b.path))) := by
  have htold : told h = reportable h := if_pos hpass
  rw [← htold]
  exact entered_register_told hvacant hu

lemma ask_refresh_rack (h : Host κ) (all : Bool) :
    (h.ask (.refresh all) .internal).1.rack =
      if h.setup.declinesRefresh then h.rack else h.rack.log (.refresh all) .internal := by
  cases hrefresh : h.setup.declinesRefresh with
  | true =>
    rw [ask_refresh_declined hrefresh]
    rfl
  | false =>
    rw [ask_refresh hrefresh]
    exact (alike_publishAll _ _ _).rack

lemma heard_of_lasts {h : Host κ} {b : Binding} {entries : List Entry}
    (htraffic : traffic entries = .forgot b.target :: (shownTo b h ++
        sending b.target ((shownTo b h).foldl replay (Courier.forget h.courier b.target))
          ((reportable h).map (Event.message b.path)))) {n : Nat}
    (hlasts : Lasts b.target n (Courier.forget h.courier b.target)) :
    heard b.target entries =
      ((h.rack.picture ++ reportable h).map (Event.message b.path)).take n := by
  obtain ⟨hshown, hrest⟩ := hlasts.untilLost (h.rack.picture.map (Event.message b.path))
  rw [← heard_traffic, htraffic]
  change heard b.target (shownTo b h ++ _) = _
  rw [heard_append, shownTo, hshown, hrest, List.map_append, List.take_append]

/-- Registration on TCP, whatever comes of each message: the newcomer is registered, its old
connection is dropped, it is sent the engine and the plugins up to the first message that fails, and
then a message for every connection, as the rack is asked for them once. If `n` messages get through
and no more, they are the first `n` of this sequence. On UDP nothing is sent and nothing asked. Any
engine in place of the rack is asked as often, and by the same host, whatever it makes of that. -/
theorem newcomer_is_shown_rack (h : Host κ) {url : String} {origin : OriginUrl}
    {address : SocketAddress} (hread : OriginUrl.read url = .ok origin)
    (hresolve : origin.resolve h.setup.names = .ok address) :
    (h.tcp = none → h.setup.passesEvents = true →
      let h' := (h.register .tcp url).1
      let b : Binding := ⟨url, ⟨.tcp, address⟩, origin.path⟩
      let picture := Event.engineStarted h.rack.info ::
        h.rack.names.mapIdx fun place name => .pluginAdded place.toUInt32 name
      let message := Event.message b.path
      let fresh := Courier.forget h.courier b.target
      let shown := untilLost b.target (sending b.target fresh (picture.map message))
      (h.register .tcp url).2 = .ok () ∧ h'.tcp = some b ∧ h'.udp = h.udp ∧
      (∃ entries, Entered h h' entries ∧
        traffic entries = .forgot b.target :: (shown ++
          sending b.target (shown.foldl replay fresh) ((reportable h).map message)) ∧
        (∀ a ∈ attempts entries, a.1 = b.target ∧ a.2.address = origin.path ++ "/cb") ∧
        ∀ n, Lasts b.target n fresh →
          heard b.target entries = ((picture ++ reportable h).map message).take n) ∧
      (∃ w : Host κ, w.tcp = some b ∧ w.rack = h.rack ∧ Entered h w (.forgot b.target :: shown) ∧
        h.register .tcp url = ((w.ask (.refresh h.setup.systemPorts) .internal).1, .ok ()) ∧
        ∀ ask : Engine (Host κ), h.registerAsking ask .tcp url =
          ((ask w (.refresh h.setup.systemPorts) .internal).1, .ok ())) ∧
      h'.rack = if h.setup.declinesRefresh then h.rack
        else h.rack.log (.refresh h.setup.systemPorts) .internal) ∧
    (h.udp = none →
      let b : Binding := ⟨url, ⟨.udp, address⟩, origin.path⟩
      h.register .udp url =
        ({ h with
            udp := some b
            courier := Courier.forget h.courier b.target
            journal := h.journal ++ [.forgot b.target] }, .ok ()) ∧
      ∀ ask : Engine (Host κ), h.registerAsking ask .udp url = h.register .udp url) := by
  constructor
  · intro hvacant hpass h' b picture message fresh shown
    have hu : Binding.ofUrl h.setup.names .tcp url = .ok b :=
      ofUrl_eq_ok.mpr ⟨origin, address, hread, hresolve, rfl⟩
    obtain ⟨entries, hentered, htraffic⟩ := entered_register_tcp hvacant hpass hu
    have hattempts : ∀ a ∈ attempts entries, a.1 = b.target ∧ a.2.address = origin.path ++ "/cb" := by
      intro a ha
      rw [← attempts_traffic, htraffic] at ha
      rcases List.mem_append.mp (attempts_append _ _ ▸ ha) with hshown | hrest
      · exact attempts_of_prefix_sending (untilLost_isPrefix _ _) a hshown
      · exact attempts_of_prefix_sending List.prefix_rfl a hrest
    -- The request for the connections is made by a host with the newcomer in its slot.
    have hw := alike_welcomed h b
    have hsetup : (welcomed h b).setup = h.setup := hw.setup
    have hasked : ∀ ask : Engine (Host κ), h.registerAsking ask .tcp url =
        ((ask (welcomed h b) (.refresh h.setup.systemPorts) .internal).1, .ok ()) := by
      intro ask
      rw [← hsetup]
      exact registerAsking_tcp ask hvacant hu
    have hregister : h.register .tcp url =
        (((welcomed h b).ask (.refresh h.setup.systemPorts) .internal).1, .ok ()) := hasked Host.ask
    have hh' : h' = ((welcomed h b).ask (.refresh h.setup.systemPorts) .internal).1 := by
      change (h.register .tcp url).1 = _
      rw [hregister]
    have halike := alike_ask (welcomed h b) (.refresh h.setup.systemPorts) .internal
    rw [← hh'] at halike
    have hrack := ask_refresh_rack (welcomed h b) h.setup.systemPorts
    rw [← hh', hsetup, hw.rack] at hrack
    exact ⟨congrArg Prod.snd hregister, halike.tcp.trans hw.tcp, halike.udp.trans hw.udp,
      ⟨entries, hentered, htraffic, hattempts, fun n => heard_of_lasts htraffic⟩,
      ⟨welcomed h b, hw.tcp, hw.rack, entered_welcomed h b, hregister, hasked⟩, hrack⟩
  · intro hvacant b
    have hu : Binding.ofUrl h.setup.names .udp url = .ok b :=
      ofUrl_eq_ok.mpr ⟨origin, address, hread, hresolve, rfl⟩
    have hregister := register_udp hvacant hu
    exact ⟨hregister, fun ask => (registerAsking_udp ask hvacant hu).trans hregister.symm⟩

lemma lasts_quota (a : SocketAddress) (n : Nat) (udp : Option Nat) :
    Lasts ⟨.tcp, a⟩ n ({ tcp := some n, udp } : Quota) := by
  intro ms
  induction ms generalizing n with
  | nil => exact List.take_nil.symm
  | cons m ms ih =>
    cases n with
    | zero =>
      have hsent : (Courier.send ({ tcp := some 0, udp } : Quota) ⟨.tcp, a⟩ m).2 =
          .error .declined := rfl
      rw [heard_sending_error hsent]
      exact (ih 0).trans List.take_zero
    | succ n =>
      rw [heard_sending_ok rfl, List.take_succ_cons]
      exact congrArg (List.cons m) (ih n)

/-- A host with one plugin and one connection, whose line to the newcomer carries one message. -/
def backstage : Host Quota where
  setup := { root := "rack" }
  rack := { plugins := [⟨0, 0, "Piano", []⟩], created := 1,
            connections := [⟨1, ⟨1, 0, 2, 0⟩⟩], nextConnection := 2 }
  courier := { tcp := some 1 }

/-- The plugin does not get through any more, and the connection is tried all the same. -/
theorem newcomer_is_shown_rack_dead_line :
    let url := "osc.tcp://127.0.0.1:19000/R"
    let h' := (backstage.register .tcp url).1
    let address : SocketAddress := ⟨.v4 0x7f000001, 19000⟩
    (backstage.register .tcp url).2 = .ok () ∧ h'.tcp = some ⟨url, ⟨.tcp, address⟩, "/R"⟩ ∧
      (∃ entries, Entered backstage h' entries ∧ (attempts entries).length = 3 ∧
        heard ⟨.tcp, address⟩ entries = [(Event.engineStarted {}).message "/R"]) ∧
      (backstage.register .udp url).1.udp = some ⟨url, ⟨.udp, address⟩, "/R"⟩ := by
  intro url h' address
  have hread : OriginUrl.read url = .ok ⟨"tcp", "127.0.0.1", 19000, "/R"⟩ := by
    decide +kernel
  have hresolve : (OriginUrl.mk "tcp" "127.0.0.1" 19000 "/R").resolve backstage.setup.names =
      .ok address := by decide +kernel
  obtain ⟨htcp, hudp⟩ := newcomer_is_shown_rack backstage hread hresolve
  obtain ⟨hok, hbound, _, ⟨entries, hentered, htraffic, _, hheard⟩, _⟩ := htcp rfl rfl
  refine ⟨hok, hbound, ⟨entries, hentered, ?_, ?_⟩, ?_⟩
  · rw [← attempts_traffic, htraffic]
    rfl
  · rw [hheard 1 (lasts_quota address 1 none)]
    rfl
  · rw [(hudp rfl).1]

end RackRemote.Proofs

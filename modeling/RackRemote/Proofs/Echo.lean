import RackRemote.Proofs.Decisions
import RackRemote.Proofs.PluginKeys
import RackRemote.Proofs.Transcript

/-!
# What controllers are not told

What a controller asks for is not told to controllers. The message may be carried out or refused:
nothing is sent, and all that is recorded about it is marked as coming from outside. The one message
that is answered asks for the connections, which go to the controller on TCP one by one.
-/

namespace RackRemote.Proofs

variable {κ : Type} [Courier κ]

/-! ### What comes from outside -/

/-- An entry about nothing that was sent, and about no event but such as come from outside. -/
def Muted : Entry → Prop
  | .event _ origin => origin = .external
  | .sent .. | .untold _ => False
  | _ => True

/-- What has been recorded between two racks, by the rack or by its plugins, comes from outside. -/
structure FromOutside (r r' : Rack) : Prop where
  requests : ∃ log, r'.requests = r.requests ++ log ∧ ∀ entry ∈ log, entry.2 = .external
  /-- A plugin was there before with fewer calls, or it is new and has none. -/
  calls : ∀ p' ∈ everyone r', (p'.key = r.created ∧ p'.calls = []) ∨
    ∃ p ∈ everyone r, p.key = p'.key ∧
      ∃ calls, p'.calls = p.calls ++ calls ∧ ∀ call ∈ calls, call.2 = .external

namespace FromOutside

lemma refl (r : Rack) : FromOutside r r where
  requests := ⟨[], (List.append_nil _).symm, List.forall_mem_nil _⟩
  calls := by
    intro p hp
    exact .inr ⟨p, hp, rfl, [], (List.append_nil _).symm, List.forall_mem_nil _⟩

end FromOutside

lemma outside_perform (r : Rack) (request : Request) :
    FromOutside r (r.perform request .external).1 := by
  have hlog : ∃ log, (r.log request .external).requests = r.requests ++ log ∧
      ∀ entry ∈ log, entry.2 = .external := by
    refine ⟨[(request, .external)], rfl, ?_⟩
    intro entry he
    rw [List.mem_singleton.mp he]
  rcases perform_cases r request .external with ⟨r', events, ha, hp⟩ | ⟨fault, hp⟩
  · rw [hp]
    refine ⟨?_, ?_⟩
    · rw [applied_requests ha]
      exact hlog
    · intro p' hp'
      -- Requests move plugins but leave keys and calls together, and a newcomer has no calls.
      have hpair := List.mem_map_of_mem (f := fun p : Plugin => (p.key, p.calls)) hp'
      have hold : ∀ p ∈ everyone r, (p.key, p.calls) = (p'.key, p'.calls) →
          ∃ p ∈ everyone r, p.key = p'.key ∧
            ∃ calls, p'.calls = p.calls ++ calls ∧ ∀ call ∈ calls, call.2 = .external := by
        intro p hmem heq
        obtain ⟨hkey, hcalls⟩ := Prod.mk.inj heq
        refine ⟨p, hmem, hkey, [], ?_, List.forall_mem_nil _⟩
        rw [List.append_nil, hcalls]
      rcases applied_perm (f := fun p : Plugin => (p.key, p.calls)) (fun _ _ => rfl)
        (fun _ _ => rfl) ha with ⟨_, hperm⟩ | ⟨name, _, hperm⟩
      · obtain ⟨p, hmem, heq⟩ := List.mem_map.mp (hperm.mem_iff.mp hpair)
        exact .inr (hold p hmem heq)
      · obtain ⟨p, hmem, heq⟩ := List.mem_map.mp (hperm.mem_iff.mp hpair)
        rcases List.mem_append.mp hmem with hmem | hmem
        · exact .inr (hold p hmem heq)
        · rw [List.mem_singleton.mp hmem] at heq
          obtain ⟨hkey, hcalls⟩ := Prod.mk.inj heq
          exact .inl ⟨hkey.symm, hcalls.symm⟩
  · rw [hp]
    exact ⟨hlog, (FromOutside.refl r).calls⟩

lemma outside_act (r : Rack) (key : Nat) (action : Action) :
    FromOutside r (r.act key action .external).1 where
  requests := ⟨[], (List.append_nil _).symm, List.forall_mem_nil _⟩
  calls := by
    intro p' hp'
    rw [everyone_act] at hp'
    obtain ⟨p, hmem, rfl⟩ := List.mem_map.mp hp'
    refine .inr ⟨p, hmem, ?_⟩
    by_cases hkey : p.key = key
    · rw [if_pos hkey]
      refine ⟨rfl, [(action, .external)], rfl, ?_⟩
      intro call hc
      rw [List.mem_singleton.mp hc]
    · rw [if_neg hkey]
      exact ⟨rfl, [], (List.append_nil _).symm, List.forall_mem_nil _⟩

/-! ### Messages that are not answered -/

/-- Nothing has been sent between two hosts, and all that is recorded comes from outside. -/
structure Quiet (h h' : Host κ) : Prop where
  silent : ∃ entries, Entered h h' entries ∧ ∀ e ∈ entries, Muted e
  outside : FromOutside h.rack h'.rack

lemma quiet_refl (h : Host κ) : Quiet h h :=
  ⟨⟨[], Entered.refl h, List.forall_mem_nil _⟩, FromOutside.refl h.rack⟩

lemma Quiet.enter {h h' : Host κ} (hq : Quiet h h') {e : Entry} (he : Muted e)
    (hreplay : ∀ k : κ, replay k e = k) : Quiet h (h'.enter e) := by
  obtain ⟨entries, hentered, hmuted⟩ := hq.silent
  refine ⟨⟨entries ++ [e], hentered.trans (entered_enter h' hreplay), ?_⟩, hq.outside⟩
  intro x hx
  rcases List.mem_append.mp hx with hx | hx
  · exact hmuted x hx
  · rw [List.mem_singleton.mp hx]
    exact he

lemma Silent.muted {e : Entry} (he : Silent e) : Muted e := by
  cases e with
  | event => exact he
  | forgot => trivial
  | _ => exact he.elim

lemma quiet_of_silent {h h' : Host κ}
    (hsilent : ∃ entries, Entered h h' entries ∧ ∀ e ∈ entries, Silent e)
    (houtside : FromOutside h.rack h'.rack) : Quiet h h' := by
  obtain ⟨entries, hentered, hentries⟩ := hsilent
  exact ⟨⟨entries, hentered, fun e he => (hentries e he).muted⟩, houtside⟩

lemma quiet_ask (h : Host κ) (request : Request) : Quiet h (h.ask request .external).1 := by
  refine quiet_of_silent (entered_ask_external h request) ?_
  have hperform : FromOutside h.rack (h.perform request .external).1.rack := by
    rw [(alike_perform h request .external).rack]
    exact outside_perform h.rack request
  cases request with
  | refresh withSystemPorts =>
    rw [Host.ask]
    split
    · exact FromOutside.refl h.rack
    · exact hperform
  | _ => exact hperform

lemma quiet_act (h : Host κ) (key : Nat) (action : Action) :
    Quiet h (h.act key action .external) := by
  refine quiet_of_silent (entered_act_external h key action) ?_
  rw [(alike_act h key action .external).rack]
  exact outside_act h.rack key action

lemma quiet_unregister (h : Host κ) (t : Transport) (url : String) :
    Quiet h (h.unregister t url).1 := by
  refine quiet_of_silent (entered_unregister h t url) ?_
  rw [unregister_rack]
  exact FromOutside.refl h.rack

/-! ### Which messages are answered -/

lemma origin_external {c : GlobalCommand} (hc : c.name ≠ "patchbay_refresh") :
    c.origin = .external := by
  cases c with
  | patchbayRefresh => exact absurd rfl hc
  | _ => rfl

lemma quiet_execute {h : Host κ} {t : Transport} {m : Osc.Message} {order : Order}
    (hregister : m.address ≠ "/register") (hrefresh : m.address ≠ "/ctrl/patchbay_refresh")
    (hd : h.decide t m = .ok order) : Quiet h (h.execute t order).1 := by
  cases order with
  | register url =>
    rw [decide_eq_register hd] at hregister
    exact absurd rfl hregister
  | unregister url => exact quiet_unregister h t url
  | control command request =>
    have hname : command.name ≠ "patchbay_refresh" := by
      intro hname
      obtain ⟨_, _, hpath, _⟩ := decide_eq_control hd
      rw [hpath, hname] at hrefresh
      exact hrefresh rfl
    rw [Host.execute, origin_external hname]
    exact quiet_ask h request
  | plugin index key command action => exact quiet_act h key action
  | forward index key method args => exact quiet_act h key (.custom method args)
  | reserved index command => exact quiet_refl h

lemma quiet_handle {h : Host κ} {t : Transport} {m : Osc.Message}
    (hregister : m.address ≠ "/register") (hrefresh : m.address ≠ "/ctrl/patchbay_refresh") :
    Quiet h (h.handle t m).1 := by
  cases hanswer : (h.handle t m).2 with
  | ok order =>
    obtain ⟨hd, _, hhost⟩ := handle_eq_ok hanswer
    rw [hhost]
    exact quiet_execute hregister hrefresh hd
  | error reason =>
    rcases handle_eq_error hanswer with ⟨_, hhost⟩ | ⟨order, hd, _, hhost⟩
    · rw [hhost]
      exact (quiet_refl h).enter trivial fun _ => rfl
    · rw [hhost]
      exact (quiet_execute hregister hrefresh hd).enter trivial fun _ => rfl

/-! ### The connections on request -/

section Announcing

variable {h : Host κ} {b : Binding}

lemma entered_refresh (hpass : h.setup.passesEvents = true) (hb : h.tcp = some b) {all : Bool}
    (hok : (h.ask (.refresh all) .internal).2 = .ok ()) :
    ∃ entries, Entered h (h.ask (.refresh all) .internal).1 entries ∧
      attempts entries = h.rack.connections.map fun c => (b.target, c.added.message b.path) := by
  obtain ⟨entries, hentered, htraffic⟩ := entered_ask_refresh hpass hb all
  cases hrefresh : h.setup.declinesRefresh with
  | true =>
    rw [ask_refresh_declined hrefresh] at hok
    cases hok
  | false =>
    rw [reportable, hrefresh] at htraffic
    refine ⟨entries, hentered, ?_⟩
    rw [← attempts_traffic, htraffic, attempts_sending, List.map_map]
    exact List.map_map

end Announcing

/-- No echo: unless it signs somebody on or asks for the connections, a message has nothing sent to
anybody, and every event, request and call that is recorded on its account comes from outside. A
message that asks for the connections, and is accepted, has one message sent for each connection in
the order of the table, all to the controller on TCP. -/
theorem message_not_echoed (h : Host κ) (t : Transport) (m : Osc.Message) :
    (m.address ≠ "/register" → m.address ≠ "/ctrl/patchbay_refresh" →
      ∃ entries, Entered h (h.handle t m).1 entries ∧ attempts entries = [] ∧
        (∀ report ∈ reported entries, report.2 = .external) ∧
        FromOutside h.rack (h.handle t m).1.rack) ∧
    (m.address = "/ctrl/patchbay_refresh" → h.setup.passesEvents = true →
      ∀ order, (h.handle t m).2 = .ok order →
        ∃ b entries, h.tcp = some b ∧ Entered h (h.handle t m).1 entries ∧
          attempts entries = h.rack.connections.map fun c => (b.target, c.added.message b.path)) := by
  constructor
  · intro hregister hrefresh
    have hquiet := quiet_handle (h := h) (t := t) hregister hrefresh
    obtain ⟨entries, hentered, hmuted⟩ := hquiet.silent
    have hnone : attempts entries = [] := by
      apply List.filterMap_eq_nil_iff.mpr
      intro e he
      have hm := hmuted e he
      cases e with
      | sent target m outcome => exact hm.elim
      | _ => rfl
    refine ⟨entries, hentered, hnone, ?_, hquiet.outside⟩
    intro report hr
    obtain ⟨e, he, hreport⟩ := List.mem_filterMap.mp hr
    have hm := hmuted e he
    cases e with
    | event e origin =>
      cases hreport
      exact hm
    | _ => cases hreport
  · intro hm hpass order ho
    obtain ⟨hd, hok, hhost⟩ := handle_eq_ok ho
    obtain ⟨b, all, hb, rfl⟩ := decide_refresh hm hd
    have hasked : (h.ask (.refresh all) .internal).2 = .ok () := hok
    obtain ⟨entries, hentered, hattempts⟩ := entered_refresh hpass hb hasked
    refine ⟨b, entries, hb, ?_, hattempts⟩
    rw [hhost]
    exact hentered

/-- A host with a controller on either transport. -/
def console : Host Quota where
  setup := { root := "rack" }
  rack := { plugins := [⟨0, 0, "Organ", []⟩], created := 1,
            connections := [⟨4, ⟨1, 0, 2, 0⟩⟩], nextConnection := 5 }
  tcp := some ⟨"osc.tcp://127.0.0.1:19000/R", ⟨.tcp, ⟨.v4 0x7f000001, 19000⟩⟩, "/R"⟩
  udp := some ⟨"osc.udp://127.0.0.1:19001/R", ⟨.udp, ⟨.v4 0x7f000001, 19001⟩⟩, "/R"⟩
  courier := {}

/-- A note is reported, but told to nobody; the connection is told when it is asked for. -/
theorem message_not_echoed_note :
    let note : Osc.Message := ⟨"/rack/0/note_on", [.int 0, .int 60, .int 100]⟩
    let refresh : Osc.Message := ⟨"/ctrl/patchbay_refresh", [.int 0]⟩
    reported (console.handle .udp note).1.journal = [(.noteOn 0 0 60 100, .external)] ∧
      (∃ entries, Entered console (console.handle .udp note).1 entries ∧ attempts entries = []) ∧
      ∃ entries, Entered console (console.handle .tcp refresh).1 entries ∧
        attempts entries = [(⟨.tcp, ⟨.v4 0x7f000001, 19000⟩⟩,
          (Event.connectionAdded 4 "1:0:2:0").message "/R")] := by
  intro note refresh
  obtain ⟨entries, hentered, hnone, _⟩ := (message_not_echoed console .udp note).1
    (by decide) (by decide)
  have haccepted : (console.handle .tcp refresh).2.isOk := by decide +kernel
  refine ⟨by decide +kernel, ⟨entries, hentered, hnone⟩, ?_⟩
  cases hanswer : (console.handle .tcp refresh).2 with
  | error reason =>
    rw [hanswer] at haccepted
    cases haccepted
  | ok order =>
    obtain ⟨b, told, hb, htold, hattempts⟩ := (message_not_echoed console .tcp refresh).2
      rfl rfl order hanswer
    have hdescription : (Ports.mk 1 0 2 0).description = "1:0:2:0" := by decide +kernel
    cases hb
    rw [← hdescription]
    exact ⟨told, htold, hattempts⟩

end RackRemote.Proofs

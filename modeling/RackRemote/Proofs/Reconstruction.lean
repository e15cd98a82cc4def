import RackRemote.Proofs.Hearing

/-!
# What a controller can reconstruct

A controller on TCP is shown the rack when it registers, and told about every change that the rack's
own user makes. So its mirror shows the rack for as long as it stays registered, nothing sent to it
gets lost, and nobody else rearranges plugins or connections.
-/

namespace RackRemote.Proofs

variable {κ : Type} [Courier κ] {b : Binding}

/-! ### Use of the rack -/

/-- A request of the rack's own user, unless plugins visibly change places. -/
lemma hears_perform {h : Host κ} (hpass : h.setup.passesEvents = true) (hb : h.tcp = some b)
    (hcounted : Counted h.rack) {request : Request}
    (hplaces : ∀ a c, request = .switchPlugins a c →
      (h.perform request .internal).1.rack.names = h.rack.names) :
    Hears b h (h.perform request .internal).1 (view h.rack)
      (view (h.perform request .internal).1.rack) := by
  rw [(alike_perform h request .internal).rack] at hplaces ⊢
  rcases perform_cases h.rack request .internal with ⟨r', events, ha, hp⟩ | ⟨fault, hp⟩
  · rw [hp] at hplaces ⊢
    have hview := applied_view ha hcounted hplaces
    have hall := hears_publishAll (h := { h with rack := r' }) hpass hb events (view h.rack)
    rw [Host.perform, hp]
    exact hview ▸ hall
  · rw [Host.perform, hp]
    exact Hears.refl

lemma hears_perform_external (h : Host κ) (request : Request) (s : Mirror) :
    Hears b h (h.perform request .external).1 s s := by
  unfold Host.perform
  split
  · exact hears_publishAll_external _ _ s
  · exact Hears.refl

lemma hears_load {h : Host κ} (hpass : h.setup.passesEvents = true) (hb : h.tcp = some b)
    (hcounted : Counted h.rack) (name : String) :
    Hears b h (h.load name).1 (view h.rack) (view (h.load name).1.rack) := by
  rw [(alike_load h name).rack, ← inserted_view (inserted_insert h.rack name) hcounted]
  exact hears_publishAll (h := { h with rack := (h.rack.insert name).1 }) hpass hb _ _

lemma event?_ofPlugin {id : UInt32} {action : Action} {e : Event}
    (he : action.event? id = some e) : ofPlugin e := by
  cases action with
  | setParameter | setProgram | setMidiProgram =>
    cases he
    rfl
  | note channel pitch velocity =>
    rw [Action.event?] at he
    split at he
    · cases he
      rfl
    · cases he
      rfl
  | _ => cases he

lemma act_event_ofPlugin {r r' : Rack} {key : Nat} {action : Action} {origin : Origin} {e : Event}
    (ha : r.act key action origin = (r', some e)) : ofPlugin e := by
  have he : (r.act key action origin).2 = some e := by rw [ha]
  obtain ⟨p, _, hp⟩ := Option.bind_eq_some_iff.mp he
  exact event?_ofPlugin hp

/-- What plugins report is about themselves. -/
lemma hears_act {h : Host κ} (hpass : h.setup.passesEvents = true) (hb : h.tcp = some b)
    (key : Nat) (action : Action) (origin : Origin) (s : Mirror) :
    Hears b h (h.act key action origin) s s := by
  unfold Host.act
  split
  · rename_i r' e hact
    cases origin with
    | external => exact hears_publish_external { h with rack := r' } e s
    | internal =>
      have hp := hears_publish (h := { h with rack := r' }) hpass hb e s
      rw [take_ofPlugin (act_event_ofPlugin hact)] at hp
      exact hp
  · exact Hears.refl

/-! ### The desk -/

/-- Who is turned away, or registers for datagrams, is nothing to the controller on TCP. -/
lemma hears_register {h : Host κ} (hb : h.tcp = some b) (t : Transport) (url : String)
    (s : Mirror) : Hears b h (h.register t url).1 s s := by
  cases hc : h.binding t with
  | some current =>
    rw [register_occupied hc]
    exact hears_turnAway h t url s
  | none =>
    cases t with
    | tcp =>
      have hb' : h.binding .tcp = some b := hb
      rw [hb'] at hc
      cases hc
    | udp =>
      cases hu : Binding.ofUrl h.setup.names .udp url with
      | error fault =>
        rw [register_nobody hc hu]
        exact Hears.refl
      | ok newcomer =>
        rw [register_udp hc hu]
        exact (hears_forget h newcomer.target s).trans (Hears.silent (setBinding_journal _ _ _))

lemma hears_unregister (h : Host κ) (t : Transport) (url : String) (s : Mirror) :
    Hears b h (h.unregister t url).1 s s := by
  cases hc : h.binding t with
  | none =>
    rw [unregister_vacant hc]
    exact Hears.refl
  | some current =>
    by_cases hurl : current.owner = url
    · subst hurl
      rw [unregister_owner hc]
      exact (hears_forget h current.target s).trans (Hears.silent (setBinding_journal _ _ _))
    · rw [unregister_stranger hc hurl]
      exact Hears.refl

/-! ### Moves -/

/-- A move of which the controller is told all that it should know. The rack's own user may change
the rack as they like, but must not be seen to let plugins change places. All others leave plugins
and connections as they are, and the notifier is used for events of plugins only. -/
def Announced (h : Host κ) (m : Move) : Prop :=
  match m with
  | .load _ => True
  | .request request .internal => ∀ a c, request = .switchPlugins a c →
      (move h m).rack.names = h.rack.names
  | .notify e | .relay e _ => ofPlugin e
  | _ => (move h m).rack.names = h.rack.names ∧ (move h m).rack.connections = h.rack.connections

/-- A run during which a controller stays registered and is told all that it should know. -/
def Attended (b : Binding) (h : Host κ) : List Move → Prop
  | [] => True
  | m :: moves =>
    Counted h.rack ∧ Announced h m ∧ (move h m).tcp = some b ∧ Attended b (move h m) moves

lemma view_eq {r r' : Rack} (hnames : r'.names = r.names)
    (hconnections : r'.connections = r.connections) : view r' = view r := by
  rw [view, view, hnames, hconnections]

/-- Of the commands to the host, only one is told about, and it changes nothing. -/
lemma request_of_internal {command : GlobalCommand} (hc : command.origin = .internal)
    {firstSlot : Bool} {args : List Osc.Arg} {request : Request}
    (hr : command.request firstSlot args = .ok request) : ∃ all, request = .refresh all := by
  cases command with
  | patchbayRefresh =>
    obtain ⟨a, _, hread⟩ := bind_eq_ok.mp hr
    obtain ⟨n, _, hq⟩ := bind_eq_ok.mp hread
    cases hq
    exact ⟨n != 0, rfl⟩
  | _ => cases hc

section Moves

variable {h : Host κ} (hpass : h.setup.passesEvents = true) (hb : h.tcp = some b)
  (hcounted : Counted h.rack)
include hpass hb hcounted

/-- What comes in from outside and leaves the rack as it is, leaves the mirror as it is. -/
lemma hears_ask {request : Request} {origin : Origin}
    (hrequest : origin = .internal → ∃ all, request = .refresh all)
    (hview : view (h.ask request origin).1.rack = view h.rack) :
    Hears b h (h.ask request origin).1 (view h.rack) (view h.rack) := by
  cases origin with
  | external =>
    cases request with
    | refresh all =>
      rw [Host.ask]
      split
      · exact Hears.refl
      · exact hears_perform_external h _ _
    | _ => exact hears_perform_external h _ _
  | internal =>
    -- A refresh is announced, but leaves the rack as it is.
    obtain ⟨all, rfl⟩ := hrequest rfl
    rw [Host.ask] at hview ⊢
    split
    · exact Hears.refl
    · rename_i hdeclines
      rw [if_neg hdeclines] at hview
      have hplaces : ∀ a c, Request.refresh all = .switchPlugins a c →
          (h.perform (.refresh all) .internal).1.rack.names = h.rack.names := by
        intro a c hr
        cases hr
      have hp := hears_perform hpass hb hcounted hplaces
      rwa [hview] at hp

lemma hears_handle (t : Transport) {m : Osc.Message}
    (hview : view (h.handle t m).1.rack = view h.rack) :
    Hears b h (h.handle t m).1 (view h.rack) (view h.rack) := by
  rw [(alike_handle h t m).rack] at hview
  cases hd : h.decide t m with
  | error reason =>
    simp only [Host.handle, hd]
    exact hears_enter h rfl _
  | ok order =>
    rw [hd] at hview
    have hexecute : Hears b h (h.execute t order).1 (view h.rack) (view h.rack) := by
      cases order with
      | register url => exact hears_register hb t url _
      | unregister url => exact hears_unregister h t url _
      | control command request =>
        exact hears_ask hpass hb hcounted
          (fun hc => request_of_internal hc (decide_eq_control hd).2.2.2) hview
      | plugin index key command action => exact hears_act hpass hb key action .external _
      | forward index key method args => exact hears_act hpass hb key _ .external _
      | reserved index command => exact Hears.refl
    cases he : h.execute t order with
    | mk h' outcome =>
      rw [he] at hexecute
      cases outcome with
      | ok _ =>
        simp only [Host.handle, hd, he]
        exact hexecute
      | error reason =>
        simp only [Host.handle, hd, he]
        exact hexecute.trans (hears_enter h' rfl _)

/-- One move: a mirror that shows the rack goes on to show it. -/
lemma hears_move {m : Move} (ha : Announced h m) :
    Hears b h (move h m) (view h.rack) (view (move h m).rack) := by
  cases m with
  | load name => exact hears_load hpass hb hcounted name
  | request request origin =>
    cases origin with
    | internal => exact hears_perform hpass hb hcounted ha
    | external =>
      rw [view_eq ha.1 ha.2]
      exact hears_perform_external h request _
  | notify e =>
    rw [move, (alike_notify h e).rack]
    have hn := hears_notify hb e (view h.rack)
    rwa [take_ofPlugin ha] at hn
  | relay e origin =>
    rw [move, (alike_relay h e origin).rack]
    cases origin with
    | external => exact Hears.refl
    | internal =>
      have hr := hears_relay hb e (view h.rack)
      rwa [take_ofPlugin ha] at hr
  | message t m =>
    have hview := view_eq ha.1 ha.2
    rw [hview]
    exact hears_handle hpass hb hcounted t hview
  | garbage t fault =>
    exact hears_enter h rfl _
  | register t url =>
    rw [view_eq ha.1 ha.2]
    exact hears_register hb t url _
  | unregister t url =>
    rw [view_eq ha.1 ha.2]
    exact hears_unregister h t url _
  | act key action origin =>
    rw [view_eq ha.1 ha.2]
    exact hears_act hpass hb key action origin _
  | xrun => exact Hears.silent rfl

end Moves

lemma hears_run {h : Host κ} (hpass : h.setup.passesEvents = true) (hb : h.tcp = some b)
    {moves : List Move} (ha : Attended b h moves) :
    Hears b h (run h moves) (view h.rack) (view (run h moves).rack) := by
  induction moves generalizing h with
  | nil => exact Hears.refl
  | cons m moves ih =>
    obtain ⟨hcounted, hannounced, hb', hrest⟩ := ha
    have hpass' : (move h m).setup.passesEvents = true := by rw [move_setup, hpass]
    exact (hears_move hpass hb hcounted hannounced).trans (ih hpass' hb' hrest)

/-! ### Registration -/

/-- The picture and the connections show a newcomer the whole rack, whatever it knew before. -/
lemma hears_welcome {h : Host κ} (hpass : h.setup.passesEvents = true)
    (hrefresh : h.setup.declinesRefresh = false) (hvacant : h.tcp = none)
    (hcounted : Counted h.rack) {url : String}
    (hu : Binding.ofUrl h.setup.names .tcp url = .ok b) (s : Mirror) :
    Hears b h (h.register .tcp url).1 s (view (h.register .tcp url).1.rack) := by
  have hw := alike_welcomed h b
  have hforget : Hears b h (h.forget b.target) s s := hears_forget h b.target s
  have hpicture : Hears b (h.forget b.target) (welcomed h b) s { names := h.rack.names } := by
    rw [← foldl_picture hcounted s]
    exact (hears_introduce (h.forget b.target) h.rack.picture s).trans
      (Hears.silent (setBinding_journal _ _ _))
  have hdeclines : (welcomed h b).setup.declinesRefresh = false := by rw [hw.setup, hrefresh]
  have hpass' : (welcomed h b).setup.passesEvents = true := by rw [hw.setup, hpass]
  rw [register_tcp hvacant hu, ask_refresh hdeclines, (alike_publishAll _ _ _).rack]
  have hall := hears_publishAll (h := { welcomed h b with
    rack := (welcomed h b).rack.log (.refresh (welcomed h b).setup.systemPorts) .internal })
    hpass' hw.tcp ((welcomed h b).rack.connections.map Connection.added) { names := h.rack.names }
  have hview : ((welcomed h b).rack.connections.map Connection.added).foldl Mirror.take
      { names := h.rack.names } = view (welcomed h b).rack := by
    rw [foldl_added, hw.rack]
    ext id : 2
    · rfl
    · exact Option.or_none
  rw [hview] at hall
  exact hforget.trans (hpicture.trans hall)

/-- Only a registration on TCP fills its slot. -/
lemma register_of_tcp {h : Host κ} {first : Move} (hvacant : h.tcp = none)
    (hfirst : (move h first).tcp = some b) :
    ∃ url, Binding.ofUrl h.setup.names .tcp url = .ok b ∧
      move h first = (h.register .tcp url).1 := by
  have hnone : h.binding .tcp = none := hvacant
  have hbinding : (move h first).binding .tcp = some b := hfirst
  have hunregister : ∀ url, (h.unregister .tcp url).1.binding .tcp ≠ some b := by
    intro url hb
    rw [unregister_binding, hnone] at hb
    simp at hb
  have hdesk : deskRequests .tcp first ≠ [] := by
    intro hm
    rw [move_binding_of_no_request h hm, hnone] at hbinding
    cases hbinding
  cases first with
  | register t url =>
    cases t with
    | tcp => exact ⟨url, ofUrl_of_register hnone hbinding, rfl⟩
    | udp => exact absurd rfl hdesk
  | unregister t url =>
    cases t with
    | tcp => exact absurd hbinding (hunregister url)
    | udp => exact absurd rfl hdesk
  | message t m =>
    cases t with
    | udp => exact absurd rfl hdesk
    | tcp =>
      rw [move, handle_binding] at hbinding
      split at hbinding
      · rename_i url hm
        have hu := ofUrl_of_register hnone hbinding
        have hd : h.decide .tcp m = .ok (.register url) := by
          rw [deskRequest?_register hm]
          rfl
        refine ⟨url, hu, ?_⟩
        simp only [move, Host.handle, hd, Host.execute, register_tcp hvacant hu]
      · rename_i url hm
        exact absurd hbinding (hunregister url)
      · rw [hnone] at hbinding
        cases hbinding
  | _ => exact absurd rfl hdesk

/-! ### The whole run -/

/-- What has been entered in the journal of a host since it was another one. -/
def since (h h' : Host κ) : List Entry := h'.journal.drop h.journal.length

/-- A controller that registers on TCP can reconstruct the rack from the callback messages that it
receives: after every run during which it stays registered and is told all that it should know, and
none of the messages to it has been lost, its mirror has the names of all plugins in order and the
descriptions of all connections, whatever was in it before. -/
theorem mirror_shows_rack {h : Host κ} (hpass : h.setup.passesEvents = true)
    (hrefresh : h.setup.declinesRefresh = false) (hvacant : h.tcp = none)
    (hcounted : Counted h.rack) {first : Move} (hfirst : (move h first).tcp = some b)
    {moves : List Move} (hattended : Attended b (move h first) moves)
    (hundisturbed : Undisturbed b.target (since h (run h (first :: moves)))) (s : Mirror) :
    (reconstruct b s (since h (run h (first :: moves)))).names =
        (run h (first :: moves)).rack.names ∧
      ∀ id, (reconstruct b s (since h (run h (first :: moves)))).connections id =
        described (run h (first :: moves)).rack.connections id := by
  obtain ⟨url, hu, hmove⟩ := register_of_tcp hvacant hfirst
  have hwelcome : Hears b h (move h first) s (view (move h first).rack) := by
    rw [hmove]
    exact hears_welcome hpass hrefresh hvacant hcounted hu s
  have hpass' : (move h first).setup.passesEvents = true := by rw [move_setup, hpass]
  obtain ⟨entries, hjournal, hheard⟩ := hwelcome.trans (hears_run hpass' hfirst hattended)
  have hsince : since h (run h (first :: moves)) = entries := by
    rw [since, run_cons, hjournal, List.drop_left]
  rw [hsince] at hundisturbed
  rw [hsince, hheard hundisturbed]
  exact ⟨rfl, fun id => rfl⟩

def stage : Host Quota where
  setup := { root := "rack" }
  rack := { plugins := [⟨0, 0, "Piano", []⟩], created := 1,
            connections := [⟨1, ⟨1, 0, 2, 0⟩⟩], nextConnection := 2 }
  courier := {}

/-- A controller registers, the plugin is replaced, and another controller is turned away. -/
theorem mirror_shows_rack_replaced :
    let b : Binding := ⟨"osc.tcp://127.0.0.1:19000/R", ⟨.tcp, ⟨.v4 0x7f000001, 19000⟩⟩, "/R"⟩
    let first := Move.message .tcp ⟨"/register", [.string b.owner]⟩
    let moves := [Move.request (.replacePlugin 0) .external, .load "Organ",
      .register .tcp "osc.tcp://127.0.0.1:19000/S"]
    let entries := since stage (run stage (first :: moves))
    (move stage first).tcp = some b ∧ Attended b (move stage first) moves ∧
      Undisturbed b.target entries ∧ (reconstruct b {} entries).names = ["Organ"] ∧
      (reconstruct b {} entries).connections 1 = some "1:0:2:0" := by
  intro b first moves entries
  have hfirst : (move stage first).tcp = some b := by decide +kernel
  have hattended : Attended b (move stage first) moves := by
    have hreplace : Announced (move stage first) (.request (.replacePlugin 0) .external) := by
      constructor <;> decide +kernel
    have hrefused : Announced (run stage [first, .request (.replacePlugin 0) .external,
        .load "Organ"]) (.register .tcp "osc.tcp://127.0.0.1:19000/S") := by
      constructor <;> decide +kernel
    refine ⟨?_, hreplace, ?_, ?_, trivial, ?_, ?_, hrefused, ?_, trivial⟩ <;> decide +kernel
  have hundisturbed : Undisturbed b.target entries := by decide +kernel
  obtain ⟨hnames, hconnections⟩ :=
    mirror_shows_rack (h := stage) rfl rfl rfl (by decide) hfirst hattended hundisturbed {}
  have hrack : (run stage (first :: moves)).rack.names = ["Organ"] ∧
      described (run stage (first :: moves)).rack.connections 1 = some "1:0:2:0" := by
    constructor <;> decide +kernel
  refine ⟨hfirst, hattended, hundisturbed, ?_, ?_⟩
  · rw [hnames, hrack.1]
  · rw [hconnections, hrack.2]

end RackRemote.Proofs

import RackRemote.Proofs.Desk

/-!
# What leaves a host

The journal of a host tells all that has left it: `Entered` says which entries have been made between
two hosts, and that nothing but these has concerned the courier. Every operation that publishes events
has its lemma here.
-/

namespace RackRemote.Proofs

variable {κ : Type} [Courier κ]

/-- What an entry has had a courier do. -/
def replay (k : κ) : Entry → κ
  | .sent target m _ => (Courier.send k target m).1
  | .forgot target => Courier.forget k target
  | _ => k

/-- The messages that were sent, whether they got through or not. -/
def attempts (entries : List Entry) : List (Target × Osc.Message) :=
  entries.filterMap fun
    | .sent target m _ => some (target, m)
    | _ => none

/-- The events of the rack and of its plugins, with where they come from. -/
def reported (entries : List Entry) : List (Event × Origin) :=
  entries.filterMap fun
    | .event e origin => some (e, origin)
    | _ => none

/-- Whether an entry concerns the courier. -/
def isTraffic : Entry → Bool
  | .sent .. | .forgot _ => true
  | _ => false

def traffic (entries : List Entry) : List Entry := entries.filter isTraffic

/-- What is entered when messages go to a target one after the other, whatever comes of each. -/
def sending (target : Target) : κ → List Osc.Message → List Entry
  | _, [] => []
  | k, m :: ms =>
    .sent target m (Courier.send k target m).2 :: sending target (Courier.send k target m).1 ms

/-- The entries tell all that has left a host since it was another one. -/
structure Entered (h h' : Host κ) (entries : List Entry) : Prop where
  journal : h'.journal = h.journal ++ entries
  courier : h'.courier = entries.foldl replay h.courier

lemma attempts_append (early late : List Entry) :
    attempts (early ++ late) = attempts early ++ attempts late := List.filterMap_append

lemma traffic_append (early late : List Entry) :
    traffic (early ++ late) = traffic early ++ traffic late := List.filter_append ..

lemma filterMap_traffic {β : Type} {f : Entry → Option β} (hf : ∀ e, isTraffic e = false → f e = none)
    (entries : List Entry) : (traffic entries).filterMap f = entries.filterMap f := by
  rw [traffic, List.filterMap_filter]
  congr 1
  funext e
  cases he : isTraffic e with
  | true => rfl
  | false => exact (hf e he).symm

lemma attempts_traffic (entries : List Entry) : attempts (traffic entries) = attempts entries := by
  apply filterMap_traffic
  intro e he
  cases e with
  | sent => cases he
  | _ => rfl

lemma foldl_replay_traffic (entries : List Entry) (k : κ) :
    (traffic entries).foldl replay k = entries.foldl replay k := by
  induction entries generalizing k with
  | nil => rfl
  | cons e entries ih =>
    cases e with
    | sent target m outcome => exact ih _
    | forgot target => exact ih _
    | _ => exact ih k

lemma attempts_sending (target : Target) (k : κ) (ms : List Osc.Message) :
    attempts (sending target k ms) = ms.map (target, ·) := by
  induction ms generalizing k with
  | nil => rfl
  | cons m ms ih =>
    change (target, m) :: attempts (sending target _ ms) = _
    rw [ih]
    rfl

lemma sending_append (target : Target) (k : κ) (early late : List Osc.Message) :
    sending target k (early ++ late) = sending target k early ++
      sending target ((sending target k early).foldl replay k) late := by
  induction early generalizing k with
  | nil => rfl
  | cons m early ih => exact congrArg (List.cons _) (ih (Courier.send k target m).1)

namespace Entered

variable {h h' h'' : Host κ}

lemma silent (hj : h'.journal = h.journal) (hc : h'.courier = h.courier) : Entered h h' [] := by
  refine ⟨?_, hc⟩
  rw [hj, List.append_nil]

lemma refl (h : Host κ) : Entered h h [] := silent rfl rfl

lemma trans {early late : List Entry} (first : Entered h h' early) (second : Entered h' h'' late) :
    Entered h h'' (early ++ late) := by
  constructor
  · rw [second.journal, first.journal, List.append_assoc]
  · rw [second.courier, first.courier, List.foldl_append]

end Entered

lemma entered_enter (h : Host κ) {e : Entry} (he : ∀ k : κ, replay k e = k) :
    Entered h (h.enter e) [e] := by
  refine ⟨rfl, ?_⟩
  change h.courier = replay h.courier e
  rw [he]

lemma entered_deliver (h : Host κ) (target : Target) (m : Osc.Message) :
    Entered h (h.deliver target m).1 [.sent target m (Courier.send h.courier target m).2] :=
  ⟨rfl, rfl⟩

lemma entered_forget (h : Host κ) (target : Target) :
    Entered h (h.forget target) [.forgot target] := ⟨rfl, rfl⟩

/-! ### Events from outside -/

lemma entered_publish_external (h : Host κ) (e : Event) :
    Entered h (h.publish e .external) [.event e .external] := by
  have he : Entered h (h.enter (.event e .external)) [.event e .external] :=
    entered_enter h fun _ => rfl
  rw [Host.publish]
  split
  · exact he
  · exact he

lemma entered_publishAll_external (h : Host κ) (events : List Event) :
    Entered h (h.publishAll events .external) (events.map fun e => .event e .external) := by
  induction events generalizing h with
  | nil => exact Entered.refl h
  | cons e events ih =>
    exact (entered_publish_external h e).trans (ih (h.publish e .external))

/-- An entry about an event from outside, or about a connection that was dropped. -/
def Silent : Entry → Prop
  | .event _ origin => origin = .external
  | .forgot _ => True
  | _ => False

lemma silent_events (events : List Event) :
    ∀ entry ∈ events.map fun e => Entry.event e .external, Silent entry := by
  intro entry he
  obtain ⟨e, _, rfl⟩ := List.mem_map.mp he
  rfl

lemma entered_perform_external (h : Host κ) (request : Request) :
    ∃ entries, Entered h (h.perform request .external).1 entries ∧ ∀ e ∈ entries, Silent e := by
  unfold Host.perform
  split
  · rename_i rack events _
    have hentered := entered_publishAll_external { h with rack } events
    exact ⟨_, ⟨hentered.journal, hentered.courier⟩, silent_events events⟩
  · exact ⟨[], Entered.silent rfl rfl, List.forall_mem_nil _⟩

lemma entered_ask_external (h : Host κ) (request : Request) :
    ∃ entries, Entered h (h.ask request .external).1 entries ∧ ∀ e ∈ entries, Silent e := by
  cases request with
  | refresh withSystemPorts =>
    rw [Host.ask]
    split
    · exact ⟨[], Entered.refl h, List.forall_mem_nil _⟩
    · exact entered_perform_external h _
  | _ => exact entered_perform_external h _

lemma entered_act_external (h : Host κ) (key : Nat) (action : Action) :
    ∃ entries, Entered h (h.act key action .external) entries ∧ ∀ e ∈ entries, Silent e := by
  unfold Host.act
  split
  · rename_i rack e _
    have hentered := entered_publish_external { h with rack } e
    exact ⟨_, ⟨hentered.journal, hentered.courier⟩, silent_events [e]⟩
  · exact ⟨[], Entered.silent rfl rfl, List.forall_mem_nil _⟩

lemma entered_forget_setBinding (h : Host κ) (target : Target) (t : Transport)
    (b : Option Binding) : Entered h ((h.forget target).setBinding t b) [.forgot target] :=
  ⟨setBinding_journal _ t b, setBinding_courier _ t b⟩

lemma silent_forgot (target : Target) : ∀ e ∈ [Entry.forgot target], Silent e := by
  intro e he
  rw [List.mem_singleton.mp he]
  trivial

lemma entered_unregister (h : Host κ) (t : Transport) (url : String) :
    ∃ entries, Entered h (h.unregister t url).1 entries ∧ ∀ e ∈ entries, Silent e := by
  cases hb : h.binding t with
  | none =>
    rw [unregister_vacant hb]
    exact ⟨[], Entered.refl h, List.forall_mem_nil _⟩
  | some current =>
    by_cases hurl : current.owner = url
    · subst hurl
      rw [unregister_owner hb]
      exact ⟨_, entered_forget_setBinding h current.target t none, silent_forgot current.target⟩
    · rw [unregister_stranger hb hurl]
      exact ⟨[], Entered.refl h, List.forall_mem_nil _⟩

/-! ### Events for the controller on TCP -/

section Announcing

variable {h : Host κ} {b : Binding}

lemma notify_tcp (hb : h.tcp = some b) {e : Event} (he : e.channels = [.tcp]) :
    (h.notify e).1 = (h.deliver b.target (e.message b.path)).1 := by
  have hb' : h.binding .tcp = some b := hb
  rw [Host.notify, he]
  simp only [Host.tell, hb']
  split
  · rename_i h' hsent
    rw [hsent]
  · rename_i h' failure hsent
    rw [hsent]

lemma entered_relay_tcp (hb : h.tcp = some b) {e : Event} (he : e.channels = [.tcp]) :
    ∃ entries, Entered h (h.relay e .internal) entries ∧
      traffic entries = sending b.target h.courier [e.message b.path] := by
  have hd := entered_deliver h b.target (e.message b.path)
  rw [← notify_tcp hb he] at hd
  rw [Host.relay]
  split
  · rename_i h' _ htold
    rw [htold] at hd
    exact ⟨_, hd, rfl⟩
  · rename_i h' failure htold
    rw [htold] at hd
    exact ⟨_, hd.trans (entered_enter h' fun _ => rfl), rfl⟩

lemma entered_publish_tcp (hpass : h.setup.passesEvents = true) (hb : h.tcp = some b) {e : Event}
    (he : e.channels = [.tcp]) :
    ∃ entries, Entered h (h.publish e .internal) entries ∧
      traffic entries = sending b.target h.courier [e.message b.path] := by
  have hfirst : Entered h (h.enter (.event e .internal)) [.event e .internal] :=
    entered_enter h fun _ => rfl
  obtain ⟨entries, hrest, htraffic⟩ :=
    entered_relay_tcp (h := h.enter (.event e .internal)) hb he
  unfold Host.publish
  change ∃ entries, Entered h (if h.setup.passesEvents then _ else _) entries ∧ _
  rw [if_pos hpass]
  exact ⟨_, hfirst.trans hrest, htraffic⟩

/-- Whatever comes of each attempt, every event is tried once and in order. -/
lemma entered_publishAll_tcp (hpass : h.setup.passesEvents = true) (hb : h.tcp = some b)
    {events : List Event} (he : ∀ e ∈ events, e.channels = [.tcp]) :
    ∃ entries, Entered h (h.publishAll events .internal) entries ∧
      traffic entries = sending b.target h.courier (events.map (Event.message b.path)) := by
  induction events generalizing h with
  | nil => exact ⟨[], Entered.refl h, rfl⟩
  | cons e events ih =>
    have ha := alike_publish h e .internal
    obtain ⟨early, hfirst, hearly⟩ := entered_publish_tcp hpass hb (he e List.mem_cons_self)
    obtain ⟨late, hrest, hlate⟩ := ih (h := h.publish e .internal) (ha.setup ▸ hpass)
      (ha.tcp.trans hb) fun x hx => he x (List.mem_cons_of_mem e hx)
    refine ⟨early ++ late, hfirst.trans hrest, ?_⟩
    rw [traffic_append, hlate, hfirst.courier, ← foldl_replay_traffic, hearly]
    rfl

/-- What a host reports when it is asked for all connections, in the order of the table. -/
def reportable (h : Host κ) : List Event :=
  if h.setup.declinesRefresh then [] else h.rack.connections.map Connection.added

/-- What of this reaches the courier. -/
def told (h : Host κ) : List Event := if h.setup.passesEvents then reportable h else []

lemma entered_publishAll_mute (hmute : h.setup.passesEvents = false) (events : List Event)
    (origin : Origin) :
    Entered h (h.publishAll events origin) (events.map fun e => .event e origin) := by
  induction events generalizing h with
  | nil => exact Entered.refl h
  | cons e events ih =>
    have hfirst : Entered h (h.enter (.event e origin)) [.event e origin] :=
      entered_enter h fun _ => rfl
    have hpublish : h.publish e origin = h.enter (.event e origin) := by
      have hmute' : ¬(h.enter (.event e origin)).setup.passesEvents = true := by
        rw [show (h.enter (.event e origin)).setup = h.setup from rfl, hmute]
        exact Bool.false_ne_true
      rw [Host.publish, if_neg hmute']
    rw [Host.publishAll, List.foldl_cons, hpublish]
    exact hfirst.trans (ih (h := h.enter (.event e origin)) hmute)

lemma entered_ask_told (hb : h.tcp = some b) (all : Bool) :
    ∃ entries, Entered h (h.ask (.refresh all) .internal).1 entries ∧
      traffic entries = sending b.target h.courier ((told h).map (Event.message b.path)) := by
  cases hrefresh : h.setup.declinesRefresh with
  | true =>
    have htold : told h = [] := by
      rw [told, reportable, hrefresh]
      exact ite_self _
    rw [ask_refresh_declined hrefresh, htold]
    exact ⟨[], Entered.refl h, rfl⟩
  | false =>
    rw [ask_refresh hrefresh]
    cases hpass : h.setup.passesEvents with
    | true =>
      have htold : told h = h.rack.connections.map Connection.added := by
        rw [told, reportable, hpass, hrefresh]
        rfl
      have hchannels : ∀ e ∈ h.rack.connections.map Connection.added, e.channels = [.tcp] := by
        intro e he
        obtain ⟨c, _, rfl⟩ := List.mem_map.mp he
        rfl
      obtain ⟨entries, hentered, htraffic⟩ := entered_publishAll_tcp
        (h := { h with rack := h.rack.log (.refresh all) .internal }) hpass hb hchannels
      rw [htold]
      exact ⟨entries, ⟨hentered.journal, hentered.courier⟩, htraffic⟩
    | false =>
      have htold : told h = [] := by
        rw [told, hpass]
        rfl
      have hentered := entered_publishAll_mute
        (h := { h with rack := h.rack.log (.refresh all) .internal }) hpass
        (h.rack.connections.map Connection.added) .internal
      refine ⟨_, ⟨hentered.journal, hentered.courier⟩, ?_⟩
      rw [htold]
      simp [traffic, isTraffic, sending]

lemma entered_ask_refresh (hpass : h.setup.passesEvents = true) (hb : h.tcp = some b) (all : Bool) :
    ∃ entries, Entered h (h.ask (.refresh all) .internal).1 entries ∧
      traffic entries = sending b.target h.courier ((reportable h).map (Event.message b.path)) := by
  have htold : told h = reportable h := if_pos hpass
  rw [← htold]
  exact entered_ask_told hb all

end Announcing

end RackRemote.Proofs

import RackRemote.Proofs.Mirror
import RackRemote.Proofs.Ownership

/-!
# What a controller hears

The journal of a host holds every message that was sent. `Hears` says what a stretch of it does to
the mirror of the controller that listens, as long as nothing that is meant for this controller gets
lost. Every operation of a host that tells events has its lemma here; none of them is about the rack
itself.
-/

namespace RackRemote.Proofs

/-- The messages that got through to a target. -/
def heard (target : Target) (entries : List Entry) : List Osc.Message :=
  entries.filterMap fun
    | .sent receiver m (.ok ()) => if receiver = target then some m else none
    | _ => none

/-- The mirror of a controller after what it has heard. -/
def reconstruct (b : Binding) (s : Mirror) (entries : List Entry) : Mirror :=
  (heard b.target entries).foldl (Mirror.hear b.path) s

def isLost (target : Target) : Entry → Bool
  | .sent receiver _ (.error _) => receiver == target
  | _ => false

/-- Nothing that was sent to a target got lost. -/
def Undisturbed (target : Target) (entries : List Entry) : Prop :=
  ∀ e ∈ entries, isLost target e = false

variable {κ : Type}

/-- What is entered between two hosts takes the mirror of a controller to another mirror. -/
def Hears (b : Binding) (h h' : Host κ) (s s' : Mirror) : Prop :=
  ∃ entries, h'.journal = h.journal ++ entries ∧
    (Undisturbed b.target entries → reconstruct b s entries = s')

lemma reconstruct_append (b : Binding) (s : Mirror) (early late : List Entry) :
    reconstruct b s (early ++ late) = reconstruct b (reconstruct b s early) late := by
  have hsplit : heard b.target (early ++ late) = heard b.target early ++ heard b.target late :=
    List.filterMap_append
  rw [reconstruct, hsplit, List.foldl_append]
  rfl

namespace Hears

variable {b : Binding} {h h' h'' : Host κ} {s s' s'' : Mirror}

lemma silent (hj : h'.journal = h.journal) : Hears b h h' s s :=
  ⟨[], by rw [hj, List.append_nil], fun _ => rfl⟩

lemma refl : Hears b h h s s := silent rfl

lemma trans (first : Hears b h h' s s') (second : Hears b h' h'' s' s'') : Hears b h h'' s s'' := by
  obtain ⟨early, hearly, hfirst⟩ := first
  obtain ⟨late, hlate, hsecond⟩ := second
  refine ⟨early ++ late, ?_, fun hall => ?_⟩
  · rw [hlate, hearly, List.append_assoc]
  · have hquiet : Undisturbed b.target early :=
      fun e he => hall e (List.mem_append_left late he)
    have hquiet' : Undisturbed b.target late :=
      fun e he => hall e (List.mem_append_right early he)
    rw [reconstruct_append, hfirst hquiet]
    exact hsecond hquiet'

end Hears

instance (target : Target) (entries : List Entry) : Decidable (Undisturbed target entries) :=
  inferInstanceAs (Decidable (∀ e ∈ entries, isLost target e = false))

lemma not_undisturbed (target : Target) (m : Osc.Message) (failure : IoError) :
    ¬Undisturbed target [.sent target m (.error failure)] := by
  intro hall
  have hlost := hall _ List.mem_cons_self
  simp [isLost] at hlost

lemma hears_enter {b : Binding} (h : Host κ) {e : Entry} (he : heard b.target [e] = [])
    (s : Mirror) : Hears b h (h.enter e) s s := by
  refine ⟨[e], rfl, fun _ => ?_⟩
  rw [reconstruct, he]
  rfl

variable [Courier κ] {b : Binding}

/-! ### Messages -/

/-- A message that means nothing to the controller, whoever it is sent to. -/
lemma hears_deliver (h : Host κ) (target : Target) {m : Osc.Message}
    (hm : ∀ s, Mirror.hear b.path s m = s) (s : Mirror) :
    Hears b h (h.deliver target m).1 s s := by
  refine ⟨[.sent target m (Courier.send h.courier target m).2], rfl, fun _ => ?_⟩
  cases (Courier.send h.courier target m).2 with
  | error failure => rfl
  | ok _ =>
    by_cases ht : target = b.target
    · simp only [reconstruct, heard, List.filterMap_cons, if_pos ht, List.filterMap_nil]
      exact hm s
    · simp only [reconstruct, heard, List.filterMap_cons, if_neg ht, List.filterMap_nil]
      rfl

/-- An event that is told to the controller, if it arrives. -/
lemma hears_deliver_event (h : Host κ) (e : Event) (s : Mirror) :
    Hears b h (h.deliver b.target (e.message b.path)).1 s (s.take e) := by
  refine ⟨[.sent b.target (e.message b.path)
    (Courier.send h.courier b.target (e.message b.path)).2], rfl, fun hall => ?_⟩
  cases hsent : (Courier.send h.courier b.target (e.message b.path)).2 with
  | error failure =>
    rw [hsent] at hall
    exact absurd hall (not_undisturbed _ _ _)
  | ok _ =>
    simp only [reconstruct, heard, List.filterMap_cons, if_pos, List.filterMap_nil]
    exact hear_message b.path s e

/-- Once something is lost, nothing is said about the mirror. -/
lemma hears_lost {h h' : Host κ} {m : Osc.Message} {failure : IoError}
    (hsent : h.deliver b.target m = (h', .error failure)) (s s' : Mirror) : Hears b h h' s s' := by
  have hm : (h.deliver b.target m).2 = .error failure := by rw [hsent]
  obtain rfl : (h.deliver b.target m).1 = h' := by rw [hsent]
  refine ⟨[.sent b.target m (h.deliver b.target m).2], rfl, fun hall => ?_⟩
  rw [hm] at hall
  exact absurd hall (not_undisturbed _ _ _)

lemma hears_forget (h : Host κ) (target : Target) (s : Mirror) :
    Hears b h (h.forget target) s s :=
  hears_enter _ rfl s

lemma hears_turnAway (h : Host κ) (t : Transport) (url : String) (s : Mirror) :
    Hears b h (h.turnAway t url) s s := by
  unfold Host.turnAway
  split
  · rename_i other _
    exact hears_deliver h other.target (fun s => hear_conflict b.path s other) s
  · exact Hears.refl

/-! ### Events -/

lemma hears_tell {e : Event} (he : ofPlugin e) (h : Host κ) (outcome : Except IoError Bool)
    (ts : List Transport) (s : Mirror) : Hears b h (Host.tell e h outcome ts).1 s s := by
  induction ts generalizing h outcome with
  | nil => exact Hears.refl
  | cons t ts ih =>
    unfold Host.tell
    split
    · exact ih h outcome
    · rename_i other _
      have hd := hears_deliver (b := b) h other.target (hear_ofPlugin he b.path other.path) s
      split
      · rename_i h' hsent
        rwa [hsent] at hd
      · rename_i h' failure hsent
        rw [hsent] at hd
        exact hd.trans (ih h' (.error failure))

lemma channels_of_not_ofPlugin {e : Event} (he : ¬ofPlugin e) : e.channels = [.tcp] := by
  cases e with
  | engineStarted | pluginAdded | pluginRemoved | pluginRenamed => rfl
  | connectionAdded | connectionRemoved => rfl
  | parameterChanged | programChanged | midiProgramChanged | noteOn | noteOff =>
    exact absurd rfl he

/-- Events about the rack go to the controller on TCP and nobody else. -/
lemma hears_notify {h : Host κ} (hb : h.tcp = some b) (e : Event) (s : Mirror) :
    Hears b h (h.notify e).1 s (s.take e) := by
  by_cases he : ofPlugin e
  · rw [take_ofPlugin he]
    exact hears_tell he h (.ok false) e.channels s
  · -- There is one attempt: without urgency the controller on UDP is passed over.
    have hd := hears_deliver_event (b := b) h e s
    have hb' : h.binding .tcp = some b := hb
    rw [Host.notify, channels_of_not_ofPlugin he]
    simp only [Host.tell, hb']
    split
    · rename_i h' hsent
      rwa [hsent] at hd
    · rename_i h' failure hsent
      rwa [hsent] at hd

lemma hears_relay {h : Host κ} (hb : h.tcp = some b) (e : Event) (s : Mirror) :
    Hears b h (h.relay e .internal) s (s.take e) := by
  have hn := hears_notify hb e s
  rw [Host.relay]
  split
  · rename_i h' _ htold
    rwa [htold] at hn
  · rename_i h' failure htold
    rw [htold] at hn
    exact hn.trans (hears_enter h' rfl _)

lemma hears_publish {h : Host κ} (hpass : h.setup.passesEvents = true) (hb : h.tcp = some b)
    (e : Event) (s : Mirror) : Hears b h (h.publish e .internal) s (s.take e) := by
  have he : Hears b h (h.enter (.event e .internal)) s s := hears_enter h rfl s
  unfold Host.publish
  change Hears b h (if h.setup.passesEvents then _ else _) s (s.take e)
  rw [if_pos hpass]
  exact he.trans (hears_relay (h := h.enter (.event e .internal)) hb e s)

lemma hears_publishAll {h : Host κ} (hpass : h.setup.passesEvents = true) (hb : h.tcp = some b)
    (events : List Event) (s : Mirror) :
    Hears b h (h.publishAll events .internal) s (events.foldl Mirror.take s) := by
  induction events generalizing h s with
  | nil => exact Hears.refl
  | cons e events ih =>
    have ha := alike_publish h e .internal
    have hi := ih (h := h.publish e .internal) (ha.setup ▸ hpass) (ha.tcp.trans hb) (s.take e)
    exact (hears_publish hpass hb e s).trans hi

lemma hears_publish_external (h : Host κ) (e : Event) (s : Mirror) :
    Hears b h (h.publish e .external) s s := by
  have he : Hears b h (h.enter (.event e .external)) s s := hears_enter h rfl s
  rw [Host.publish]
  split
  · exact he
  · exact he

lemma hears_publishAll_external (h : Host κ) (events : List Event) (s : Mirror) :
    Hears b h (h.publishAll events .external) s s := by
  induction events generalizing h with
  | nil => exact Hears.refl
  | cons e events ih => exact (hears_publish_external h e s).trans (ih (h.publish e .external))

lemma hears_introduce (h : Host κ) (events : List Event) (s : Mirror) :
    Hears b h (h.introduce b events) s (events.foldl Mirror.take s) := by
  induction events generalizing h s with
  | nil => exact Hears.refl
  | cons e events ih =>
    have hd := hears_deliver_event (b := b) h e s
    unfold Host.introduce
    split
    · rename_i h' hsent
      rw [hsent] at hd
      exact hd.trans (ih h' (s.take e))
    · -- The newcomer is told no more, but then something was lost.
      rename_i h' failure hsent
      exact hears_lost hsent _ _

end RackRemote.Proofs

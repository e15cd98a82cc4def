import RackRemote.Proofs.Delivery
import RackRemote.Proofs.Echo
import RackRemote.Proofs.Rejection
import RackRemote.Proofs.Welcome

/-!
# What is warned about

A message that is refused leaves one warning. One that is accepted leaves a warning for each connection
that the controller on TCP could not be told about, and there are none to tell about unless a controller
signs on or asks for them. Nothing else that fails to get through is warned about.
-/

namespace RackRemote.Proofs

def warnings (entries : List Entry) : List String := entries.filterMap Entry.warning?

/-- Whether a message tells a controller about a connection of the patchbay. -/
def isNotice (m : Osc.Message) : Bool :=
  match m.args with
  | .int code :: _ => code == 24
  | _ => false

/-- How the notices about connections failed that did not get through. -/
def lostNotices (entries : List Entry) : List IoError :=
  entries.filterMap fun
    | .sent _ m (.error failure) => if isNotice m then some failure else none
    | _ => none

/-- There is a warning for each lost notice, in their order, and no other. -/
def Balanced (entries : List Entry) : Prop :=
  warnings entries =
    (lostNotices entries).map fun failure => "Failed to notify controller: " ++ failure.text

lemma isNotice_message_iff (path : String) (e : Event) :
    isNotice (e.message path) ↔ ∃ id description, e = .connectionAdded id description := by
  cases e with
  | connectionAdded id description => exact iff_of_true rfl ⟨id, description, rfl⟩
  | _ => exact iff_of_false Bool.false_ne_true nofun

lemma not_isNotice_picture (r : Rack) (path : String) :
    ∀ m ∈ r.picture.map (Event.message path), ¬isNotice m := by
  intro m hm
  obtain ⟨e, he, rfl⟩ := List.mem_map.mp hm
  rw [isNotice_message_iff]
  rintro ⟨id, description, rfl⟩
  rcases List.mem_cons.mp he with he | he
  · cases he
  · obtain ⟨place, _, hplugin⟩ := List.mem_mapIdx.mp he
    cases hplugin

namespace Balanced

lemma append {early late : List Entry} (first : Balanced early) (second : Balanced late) :
    Balanced (early ++ late) := by
  rw [Balanced, warnings, lostNotices] at first second ⊢
  rw [List.filterMap_append, List.filterMap_append, List.map_append, first, second]

lemma of_forall {entries : List Entry} (hentries : ∀ e ∈ entries, Balanced [e]) :
    Balanced entries := by
  induction entries with
  | nil => rfl
  | cons e entries ih =>
    obtain ⟨hone, hentries⟩ := List.forall_mem_cons.mp hentries
    exact hone.append (ih hentries)

lemma of_sent {target : Target} {m : Osc.Message} (hm : ¬isNotice m) (outcome : Except IoError Unit) :
    Balanced [.sent target m outcome] := by
  cases outcome with
  | ok _ => rfl
  | error failure =>
    rw [Balanced, lostNotices, List.filterMap_cons]
    dsimp only
    rw [if_neg hm]
    rfl

end Balanced

lemma Silent.balanced {e : Entry} (he : Silent e) : Balanced [e] := by
  cases e with
  | event => rfl
  | forgot => rfl
  | _ => exact he.elim

lemma warnings_of_silent {entries : List Entry} (hentries : ∀ e ∈ entries, Silent e) :
    warnings entries = [] := by
  refine List.filterMap_eq_nil_iff.mpr fun e he => ?_
  have hsilent := hentries e he
  cases e with
  | rejected => exact hsilent.elim
  | untold => exact hsilent.elim
  | undecodable => exact hsilent.elim
  | _ => rfl

variable {κ : Type} [Courier κ]

/-! ### The picture for a newcomer -/

lemma balanced_sending {target : Target} {k : κ} {ms : List Osc.Message}
    (hms : ∀ m ∈ ms, ¬isNotice m) : ∀ e ∈ sending target k ms, Balanced [e] := by
  induction ms generalizing k with
  | nil => exact List.forall_mem_nil _
  | cons m ms ih =>
    obtain ⟨hm, hms⟩ := List.forall_mem_cons.mp hms
    exact List.forall_mem_cons.mpr ⟨.of_sent hm _, ih hms⟩

lemma balanced_shownTo (b : Binding) (h : Host κ) : Balanced (shownTo b h) := by
  refine .of_forall fun e he => ?_
  exact balanced_sending (not_isNotice_picture h.rack b.path) e ((untilLost_isPrefix _ _).subset he)

/-! ### Notices -/

/-- A notice is tried on TCP alone, so it fails once if it fails. -/
lemma Tried.balanced {k : κ} {messages : List (Target × Osc.Message)} {entries : List Entry}
    {last : Except IoError Bool} (htried : Tried k (.ok false) messages entries last)
    (hmessages : messages.length ≤ 1) (hnotices : ∀ message ∈ messages, isNotice message.2) :
    Balanced (entries ++ complaint last) := by
  cases htried with
  | exhausted => rfl
  | arrived => rfl
  | @failed _ _ _ _ target m rest _ failure _ later =>
    rw [List.length_cons] at hmessages
    obtain rfl : rest = [] := List.eq_nil_of_length_eq_zero (by omega)
    cases later
    have hm : isNotice m := hnotices _ List.mem_cons_self
    change warnings [.sent target m (.error failure), .untold failure] = _
    rw [lostNotices, List.singleton_append, List.filterMap_cons]
    dsimp only
    rw [if_pos hm]
    rfl

/-- What has been entered between two hosts is balanced. -/
def Settled (h h' : Host κ) : Prop := ∃ entries, Entered h h' entries ∧ Balanced entries

namespace Settled

variable {h h' h'' : Host κ}

lemma refl (h : Host κ) : Settled h h := ⟨[], Entered.refl h, rfl⟩

lemma trans (first : Settled h h') (second : Settled h' h'') : Settled h h'' := by
  obtain ⟨early, hearly, hfirst⟩ := first
  obtain ⟨late, hlate, hsecond⟩ := second
  exact ⟨early ++ late, hearly.trans hlate, hfirst.append hsecond⟩

end Settled

lemma settled_relay (h : Host κ) (c : Connection) : Settled h (h.relay c.added .internal) := by
  obtain ⟨entries, hentered, htried⟩ := tried_tell c.added h (.ok false) [.tcp]
  refine ⟨_, entered_relay_internal hentered, htried.balanced ?_ ?_⟩
  · rw [letters, List.length_map]
    exact List.length_filterMap_le _ _
  · intro message hmessage
    obtain ⟨b, _, rfl⟩ := List.mem_map.mp hmessage
    rfl

lemma settled_publish (h : Host κ) (c : Connection) : Settled h (h.publish c.added .internal) := by
  have hfirst : Settled h (h.enter (.event c.added .internal)) :=
    ⟨_, entered_enter h fun _ => rfl, rfl⟩
  rw [Host.publish]
  split
  · exact hfirst.trans (settled_relay _ c)
  · exact hfirst

lemma settled_publishAll (h : Host κ) (connections : List Connection) :
    Settled h (h.publishAll (connections.map Connection.added) .internal) := by
  induction connections generalizing h with
  | nil => exact Settled.refl h
  | cons c connections ih => exact (settled_publish h c).trans (ih (h.publish c.added .internal))

lemma settled_refresh (h : Host κ) (all : Bool) :
    Settled h (h.ask (.refresh all) .internal).1 := by
  cases hrefresh : h.setup.declinesRefresh with
  | true =>
    rw [ask_refresh_declined hrefresh]
    exact Settled.refl h
  | false =>
    rw [ask_refresh hrefresh]
    obtain ⟨entries, hentered, hbalanced⟩ := settled_publishAll
      { h with rack := h.rack.log (.refresh all) .internal } h.rack.connections
    exact ⟨entries, ⟨hentered.journal, hentered.courier⟩, hbalanced⟩

lemma settled_register {h : Host κ} {url : String} (hok : (h.register .tcp url).2 = .ok ()) :
    Settled h (h.register .tcp url).1 := by
  obtain ⟨hvacant, b, hu⟩ := register_succeeded hok
  have hforgot : Balanced [Entry.forgot b.target] := rfl
  have hwelcomed : Settled h (welcomed h b) :=
    ⟨_, entered_welcomed h b, hforgot.append (balanced_shownTo b h)⟩
  rw [register_tcp hvacant hu]
  exact hwelcomed.trans (settled_refresh (welcomed h b) _)

/-! ### Messages that are carried out -/

/-- What is entered while an order is carried out: warnings about lost notices, and nothing but silent
entries unless somebody signs on over TCP or asks for the connections. -/
lemma execute_settled {h : Host κ} {t : Transport} {m : Osc.Message} {order : Order}
    (hd : h.decide t m = .ok order) (hok : (h.execute t order).2 = .ok ()) :
    ∃ entries, Entered h (h.execute t order).1 entries ∧ Balanced entries ∧
      (¬(t = .tcp ∧ m.address = "/register") → m.address ≠ "/ctrl/patchbay_refresh" →
        ∀ e ∈ entries, Silent e) := by
  have hsilently : ∀ h' : Host κ, (∃ entries, Entered h h' entries ∧ ∀ e ∈ entries, Silent e) →
      ∃ entries, Entered h h' entries ∧ Balanced entries ∧
        (¬(t = .tcp ∧ m.address = "/register") → m.address ≠ "/ctrl/patchbay_refresh" →
          ∀ e ∈ entries, Silent e) := by
    rintro h' ⟨entries, hentered, hentries⟩
    exact ⟨entries, hentered, .of_forall fun e he => (hentries e he).balanced,
      fun _ _ => hentries⟩
  cases order with
  | register url =>
    cases t with
    | tcp =>
      obtain ⟨entries, hentered, hbalanced⟩ := settled_register hok
      refine ⟨entries, hentered, hbalanced, fun hregister => absurd ⟨rfl, ?_⟩ hregister⟩
      rw [decide_eq_register hd]
    | udp =>
      obtain ⟨hvacant, b, hu⟩ := register_succeeded hok
      refine hsilently _ ⟨[.forgot b.target], ?_, silent_forgot b.target⟩
      rw [Host.execute, register_udp hvacant hu]
      exact entered_forget_setBinding h b.target .udp (some b)
  | unregister url => exact hsilently _ (entered_unregister h t url)
  | control command request =>
    obtain ⟨_, _, hpath, _⟩ := decide_eq_control hd
    by_cases hname : command.name = "patchbay_refresh"
    · have hrefresh : m.address = "/ctrl/patchbay_refresh" := by
        rw [hpath, hname]
        rfl
      obtain ⟨_, all, _, horder⟩ := decide_refresh hrefresh hd
      cases horder
      obtain ⟨entries, hentered, hbalanced⟩ := settled_refresh h all
      exact ⟨entries, hentered, hbalanced, fun _ hother => absurd hrefresh hother⟩
    · rw [Host.execute, origin_external hname]
      exact hsilently _ (entered_ask_external h request)
  | plugin index key command action => exact hsilently _ (entered_act_external h key action)
  | forward index key method args =>
    exact hsilently _ (entered_act_external h key (.custom method args))
  | reserved index command => exact hsilently _ ⟨[], Entered.refl h, List.forall_mem_nil _⟩

lemma warnings_refused {h : Host κ} {t : Transport} {m : Osc.Message} {reason : Refusal}
    (hr : (h.handle t m).2 = .error reason) :
    ∃ entries, (h.handle t m).1.journal = h.journal ++ entries ∧
      warnings entries = [reason.message] := by
  obtain ⟨h', hhost, hdeclined⟩ := handle_declined hr
  rw [hhost]
  rcases hdeclined.traffic with ⟨_, hj⟩ | ⟨target, message, outcome, _, _, hj, _⟩
  · refine ⟨[.rejected reason], ?_, rfl⟩
    rw [Host.enter, hj]
  · refine ⟨[.sent target message outcome, .rejected reason], ?_, rfl⟩
    rw [Host.enter, hj, List.append_assoc]
    rfl

/-- A message that is refused leaves one warning, which says why; a notice to a newcomer who is turned
away leaves none, got through or not. A message that is accepted leaves one warning for each notice
about a connection that did not get through. There are none, unless it signs somebody on over TCP or
asks for the connections. -/
theorem failures_warn_once (h : Host κ) (t : Transport) (m : Osc.Message) :
    ∃ entries, (h.handle t m).1.journal = h.journal ++ entries ∧
      (∀ reason, (h.handle t m).2 = .error reason → warnings entries = [reason.message]) ∧
      (∀ order, (h.handle t m).2 = .ok order →
        warnings entries = (lostNotices entries).map
          (fun failure => "Failed to notify controller: " ++ failure.text) ∧
        (warnings entries).length = (lostNotices entries).length ∧
        (¬(t = .tcp ∧ m.address = "/register") → m.address ≠ "/ctrl/patchbay_refresh" →
          warnings entries = [])) := by
  cases hanswer : (h.handle t m).2 with
  | error reason =>
    obtain ⟨entries, hj, hwarnings⟩ := warnings_refused hanswer
    refine ⟨entries, hj, fun reason' hreason => ?_, fun order horder => ?_⟩
    · cases hreason
      exact hwarnings
    · cases horder
  | ok order =>
    obtain ⟨hd, hok, hhost⟩ := handle_eq_ok hanswer
    obtain ⟨entries, hentered, hbalanced, hsilent⟩ := execute_settled hd hok
    rw [hhost]
    refine ⟨entries, hentered.journal, fun reason hreason => ?_, fun _ _ => ⟨hbalanced, ?_, ?_⟩⟩
    · cases hreason
    · rw [hbalanced, List.length_map]
    · exact fun hregister hrefresh => warnings_of_silent (hsilent hregister hrefresh)

/-- A host with two connections, whose controller gets one more message. -/
def faltering : Host Quota where
  setup := { root := "rack" }
  rack := { connections := [⟨4, ⟨1, 0, 2, 0⟩⟩, ⟨7, ⟨2, 0, 1, 0⟩⟩], nextConnection := 8 }
  tcp := some ⟨"osc.tcp://127.0.0.1:19000/R", ⟨.tcp, ⟨.v4 0x7f000001, 19000⟩⟩, "/R"⟩
  courier := { tcp := some 1 }

/-- The second connection cannot be told. A newcomer is turned away with one warning, and playback starts
with none. -/
theorem failures_warn_once_second_connection :
    let refresh := faltering.handle .tcp ⟨"/ctrl/patchbay_refresh", [.int 0]⟩
    let late := faltering.handle .tcp ⟨"/register", [.string "osc.tcp://127.0.0.1:19001/S"]⟩
    let play := faltering.handle .tcp ⟨"/ctrl/transport_play", []⟩
    warnings refresh.1.journal = ["Failed to notify controller: refused"] ∧
      warnings late.1.journal =
        ["TCP backend already registered to osc.tcp://127.0.0.1:19000/R"] ∧
      warnings play.1.journal = [] := by
  intro refresh late play
  refine ⟨?_, ?_, ?_⟩
  · obtain ⟨entries, hj, _, haccepted⟩ :=
      failures_warn_once faltering .tcp ⟨"/ctrl/patchbay_refresh", [.int 0]⟩
    have hok : refresh.2 = .ok (.control .patchbayRefresh (.refresh false)) := rfl
    have hjournal : refresh.1.journal = entries := hj
    rw [hjournal, (haccepted _ hok).1, ← hjournal]
    decide +kernel
  · obtain ⟨entries, hj, hrefused, _⟩ := failures_warn_once faltering .tcp
      ⟨"/register", [.string "osc.tcp://127.0.0.1:19001/S"]⟩
    have hanswer : late.2 = .error (.alreadyRegistered .tcp "osc.tcp://127.0.0.1:19000/R") := rfl
    have hjournal : late.1.journal = entries := hj
    rw [hjournal, hrefused _ hanswer]
    decide +kernel
  · obtain ⟨entries, hj, _, haccepted⟩ :=
      failures_warn_once faltering .tcp ⟨"/ctrl/transport_play", []⟩
    have hok : play.2 = .ok (.control .transportPlay .play) := rfl
    have hjournal : play.1.journal = entries := hj
    rw [hjournal]
    exact (haccepted _ hok).2.2 (by decide) (by decide)

end RackRemote.Proofs

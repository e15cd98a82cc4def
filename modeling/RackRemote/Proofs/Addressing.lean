import Mathlib.Data.List.Find
import RackRemote.Proofs.Decisions
import RackRemote.Proofs.PluginKeys
import RackRemote.Proofs.RouteGrammar

/-!
# Messages to a plugin

A method is looked up by what is left of it when it is cut to its length limit. All known names are
shorter, so the outcome is that of the full name. What the host then does is done to the one plugin
that is at the index and knows itself to be there, or not at all.
-/

namespace RackRemote.Proofs

/-! ### Names of methods -/

lemma keptMethod_eq_iff {name : String} (hname : name.toList.length < maxMethodLength)
    (method : String) : keptMethod method = name ↔ method = name := by
  rw [keptMethod]
  constructor
  · intro h
    have htake : method.toList.take maxMethodLength = name.toList := by
      rw [← h, String.toList_ofList]
    have hlength := congrArg List.length htake
    rw [List.length_take] at hlength
    rw [List.take_of_length_le (by omega)] at htake
    exact String.toList_inj.mp htake
  · intro h
    rw [h, List.take_of_length_le (by omega), String.ofList_toList]

lemma find?_keptMethod {γ : Type} {all : List γ} {name : γ → String}
    (hshort : ∀ c ∈ all, (name c).toList.length < maxMethodLength) (method : String) :
    all.find? (name · == keptMethod method) = all.find? (name · == method) := by
  apply List.find?_congr
  intro c hc
  have hiff := keptMethod_eq_iff (hshort c hc) method
  rw [Bool.eq_iff_iff, beq_iff_eq, beq_iff_eq, eq_comm, hiff, eq_comm]

lemma pluginCommand_keptMethod (method : String) :
    PluginCommand.ofName? (keptMethod method) = PluginCommand.ofName? method :=
  find?_keptMethod (by decide) method

lemma reservedCommand_keptMethod (method : String) :
    ReservedCommand.ofName? (keptMethod method) = ReservedCommand.ofName? method :=
  find?_keptMethod (by decide) method

lemma pluginCommand_ofName?_name (c : PluginCommand) : PluginCommand.ofName? c.name = some c := by
  cases c <;> rfl

lemma reservedCommand_ofName?_name (c : ReservedCommand) :
    ReservedCommand.ofName? c.name = some c := by
  cases c <;> rfl

/-! ### What a plugin is asked -/

/-- What comes of a method for a plugin that was found, by the full name of the method: the rack
afterwards and the answer. -/
inductive Answered (r : Rack) (index : UInt32) (p : Plugin) (args : List Osc.Arg) :
    String → Rack → Except Refusal Order → Prop where
  /-- The plugin is called with what the arguments say. -/
  | called (c : PluginCommand) {action : Action} {r' : Rack} (read : c.action args = .ok action)
      (one : OneCall r r' p action .external) :
      Answered r index p args c.name r' (.ok (.plugin index p.key c action))
  | refused (c : PluginCommand) {reason : Refusal} (read : c.action args = .error reason) :
      Answered r index p args c.name r (.error reason)
  | reserved (c : ReservedCommand) :
      Answered r index p args c.name r (.ok (.reserved index c))
  /-- The plugin is given a method that the host does not know. -/
  | forwarded {method : String} {r' : Rack} (command : ∀ c : PluginCommand, method ≠ c.name)
      (reserved : ∀ c : ReservedCommand, method ≠ c.name)
      (one : OneCall r r' p (.custom (keptMethod method) args) .external) :
      Answered r index p args method r' (.ok (.forward index p.key (keptMethod method) args))

lemma Answered.oneCall {r r' : Rack} {index : UInt32} {p : Plugin} {args : List Osc.Arg}
    {method : String} {answer : Except Refusal Order} (h : Answered r index p args method r' answer)
    (hchange : everyone r' ≠ everyone r) : ∃ action, OneCall r r' p action .external := by
  cases h with
  | called _ _ one => exact ⟨_, one⟩
  | refused _ _ => exact absurd rfl hchange
  | reserved _ => exact absurd rfl hchange
  | forwarded _ _ one => exact ⟨_, one⟩

variable {κ : Type}

lemma found_mem {h : Host κ} {index : UInt32} {p : Plugin} (hp : found h index = some p) :
    p ∈ everyone h.rack := by
  rw [found, Option.bind_eq_some_iff] at hp
  obtain ⟨key, _, hkey⟩ := hp
  exact (find?_eq_some hkey).1

section Handled

variable [Courier κ] {h : Host κ} {t : Transport} {m : Osc.Message}

lemma handle_of_decide_error {reason : Refusal} (hd : h.decide t m = .error reason) :
    h.handle t m = (h.enter (.rejected reason), .error reason) := by
  rw [Host.handle, hd]

lemma handle_of_decide_plugin {index : UInt32} {key : Nat} {command : PluginCommand}
    {action : Action} (hd : h.decide t m = .ok (.plugin index key command action)) :
    h.handle t m = (h.act key action .external, .ok (.plugin index key command action)) := by
  rw [Host.handle, hd]
  rfl

lemma handle_of_decide_forward {index : UInt32} {key : Nat} {method : String} {args : List Osc.Arg}
    (hd : h.decide t m = .ok (.forward index key method args)) :
    h.handle t m =
      (h.act key (.custom method args) .external, .ok (.forward index key method args)) := by
  rw [Host.handle, hd]
  rfl

lemma handle_of_decide_reserved {index : UInt32} {command : ReservedCommand}
    (hd : h.decide t m = .ok (.reserved index command)) :
    h.handle t m = (h, .ok (.reserved index command)) := by
  rw [Host.handle, hd]
  rfl

lemma oneCall_actHost (hkeys : ((everyone h.rack).map Plugin.key).Nodup) {p : Plugin}
    (hp : p ∈ everyone h.rack) (action : Action) (origin : Origin) :
    OneCall h.rack (h.act p.key action origin).rack p action origin := by
  rw [(alike_act h p.key action origin).rack]
  exact oneCall_act hkeys hp action origin

lemma handle_answered (hkeys : ((everyone h.rack).map Plugin.key).Nodup) {method : String}
    {index : UInt32} (hroute : Route.ofPath m.address h.setup.root = .plugin index (keptMethod method))
    {p : Plugin} (hresolve : h.resolve index = .ok p) (hp : p ∈ everyone h.rack) :
    Answered h.rack index p m.args method (h.handle t m).1.rack (h.handle t m).2 := by
  have hdecide : h.decide t m = h.decidePlugin index (keptMethod method) m.args := by
    rw [Host.decide, hroute]
  rw [Host.decidePlugin, hresolve, pluginCommand_keptMethod, reservedCommand_keptMethod] at hdecide
  cases hc : PluginCommand.ofName? method with
  | some c =>
    rw [hc] at hdecide
    obtain rfl : c.name = method := name_of_find? hc
    cases ha : c.action m.args with
    | ok action =>
      dsimp only at hdecide
      rw [ha] at hdecide
      rw [handle_of_decide_plugin hdecide]
      exact .called c ha (oneCall_actHost hkeys hp action .external)
    | error reason =>
      dsimp only at hdecide
      rw [ha] at hdecide
      rw [handle_of_decide_error hdecide]
      exact .refused c ha
  | none =>
    rw [hc] at hdecide
    cases hr : ReservedCommand.ofName? method with
    | some c =>
      rw [hr] at hdecide
      obtain rfl : c.name = method := name_of_find? hr
      rw [handle_of_decide_reserved hdecide]
      exact .reserved c
    | none =>
      rw [hr] at hdecide
      rw [handle_of_decide_forward hdecide]
      -- A method with a known name would have been found under it.
      refine .forwarded ?_ ?_ (oneCall_actHost hkeys hp _ .external)
      · rintro c rfl
        rw [pluginCommand_ofName?_name] at hc
        cases hc
      · rintro c rfl
        rw [reservedCommand_ofName?_name] at hr
        cases hr

lemma handle_binding_of_plugin {index : UInt32} {kept : String}
    (hroute : Route.ofPath m.address h.setup.root = .plugin index kept) (t' : Transport) :
    (h.handle t m).1.binding t' = h.binding t' := by
  have hdecide : h.decide t m = h.decidePlugin index kept m.args := by
    rw [Host.decide, hroute]
  cases hd : h.decide t m with
  | error reason =>
    rw [handle_of_decide_error hd]
    exact (alike_enter h _).binding t'
  | ok order =>
    rw [hdecide] at hd
    obtain ⟨p, _, hshape⟩ := decidePlugin_eq_ok hd
    rw [hd] at hdecide
    rcases hshape with ⟨command, action, rfl, _⟩ | ⟨command, rfl, _⟩ | ⟨rfl, _⟩
    · rw [handle_of_decide_plugin hdecide]
      exact (alike_act h p.key action .external).binding t'
    · rw [handle_of_decide_reserved hdecide]
    · rw [handle_of_decide_forward hdecide]
      exact (alike_act h p.key _ .external).binding t'

lemma handle_of_resolve_error {index : UInt32} {kept : String}
    (hroute : Route.ofPath m.address h.setup.root = .plugin index kept) {reason : Refusal}
    (hresolve : h.resolve index = .error reason) :
    h.handle t m = (h.enter (.rejected reason), .error reason) := by
  apply handle_of_decide_error
  rw [Host.decide, hroute]
  dsimp only
  rw [Host.decidePlugin, hresolve]
  rfl

/-! ### One plugin or none -/

/-- From its start with an empty rack on, whatever happens to a host, a message to a plugin is answered
for the plugin that is found at its index. If there is none, the message is refused, and nothing comes
of it but the warning. -/
theorem started_plugin_answers {setup : Setup} {info : EngineInfo} {courier : κ} {h₀ : Host κ}
    (hs : Host.start? setup { info } courier = some h₀) (moves : List Move) (t : Transport)
    {m : Osc.Message} {method : String} {index : UInt32}
    (hroute : Route.ofPath m.address setup.root = .plugin index (keptMethod method)) :
    let h := run h₀ moves
    (∃ p, h.resolve index = .ok p ∧
      Answered h.rack index p m.args method (h.handle t m).1.rack (h.handle t m).2) ∨
    ∃ reason, h.resolve index = .error reason ∧
      h.handle t m = (h.enter (.rejected reason), .error reason) := by
  intro h
  have hsetup : h.setup = setup := started_setup hs moves
  rw [← hsetup] at hroute
  cases hresolve : h.resolve index with
  | ok p =>
    have hkeys := (keyed_started hs moves).nodup
    exact .inl ⟨p, rfl, handle_answered hkeys hroute hresolve (found_mem (found_of_resolve hresolve))⟩
  | error reason => exact .inr ⟨reason, rfl, handle_of_resolve_error hroute hresolve⟩

/-- However a host counts and looks up its plugins, a message to a plugin is for the one that is
found at its index and has this index as its id. It gets one call, by the full name of the method,
and nothing else changes. If there is no such plugin, the message is refused. -/
theorem plugin_message_reaches_addressed {h h' : Host κ} {answer : Except Refusal Order}
    (hkeys : ((everyone h.rack).map Plugin.key).Nodup) {t : Transport}
    {digits method kept : String} {index : UInt32} {args : List Osc.Arg}
    (hdigits : ∀ c ∈ digits.toList, (Index.charDigit c).isSome)
    (hroute : Route.ofPath (pluginPath h.setup.root digits method) h.setup.root =
      .plugin index kept)
    (hhandle : h.handle t ⟨pluginPath h.setup.root digits method, args⟩ = (h', answer)) :
    index = indexValue digits ∧
      (∀ t', h'.binding t' = h.binding t') ∧
      (h.setup.count h.rack ≤ index →
        answer = .error (.indexOutOfRange index (h.setup.count h.rack)) ∧ h'.rack = h.rack) ∧
      (index < h.setup.count h.rack → (∀ p, found h index = some p → p.id ≠ index) →
        answer = .error (.stalePlugin index) ∧ h'.rack = h.rack) ∧
      (∀ p, index < h.setup.count h.rack → found h index = some p → p.id = index →
        Answered h.rack index p args method h'.rack answer) ∧
      (everyone h'.rack ≠ everyone h.rack →
        index < h.setup.count h.rack ∧ ∃ p action, found h index = some p ∧ p.id = index ∧
          OneCall h.rack h'.rack p action .external) := by
  obtain ⟨hindex, hkept⟩ := ofPath_pluginPath hdigits hroute
  have hfirst : h' = (h.handle t ⟨pluginPath h.setup.root digits method, args⟩).1 := by rw [hhandle]
  have hsecond : answer = (h.handle t ⟨pluginPath h.setup.root digits method, args⟩).2 := by
    rw [hhandle]
  have hbeyond : h.setup.count h.rack ≤ index →
      answer = .error (.indexOutOfRange index (h.setup.count h.rack)) ∧ h'.rack = h.rack := by
    intro hi
    rw [hfirst, hsecond, handle_of_resolve_error hroute (resolve_outOfRange hi)]
    exact ⟨rfl, rfl⟩
  have hstale : index < h.setup.count h.rack → (∀ p, found h index = some p → p.id ≠ index) →
      answer = .error (.stalePlugin index) ∧ h'.rack = h.rack := by
    intro hi hp
    rw [hfirst, hsecond, handle_of_resolve_error hroute (resolve_stale (UInt32.not_le.mpr hi) hp)]
    exact ⟨rfl, rfl⟩
  have hanswered : ∀ p, index < h.setup.count h.rack → found h index = some p → p.id = index →
      Answered h.rack index p args method h'.rack answer := by
    intro p hi hp hid
    rw [hfirst, hsecond]
    rw [hkept] at hroute
    exact handle_answered (m := ⟨pluginPath h.setup.root digits method, args⟩) hkeys hroute
      (resolve_found (UInt32.not_le.mpr hi) hp hid) (found_mem hp)
  refine ⟨hindex, ?_, hbeyond, hstale, hanswered, ?_⟩
  · intro t'
    rw [hfirst]
    exact handle_binding_of_plugin hroute t'
  · intro hchange
    have hrack : h'.rack ≠ h.rack := fun hsame => hchange (congrArg everyone hsame)
    by_cases hi : index < h.setup.count h.rack
    · refine ⟨hi, ?_⟩
      by_cases hp : ∃ p, found h index = some p ∧ p.id = index
      · obtain ⟨p, hfound, hid⟩ := hp
        obtain ⟨action, hone⟩ := (hanswered p hi hfound hid).oneCall hchange
        exact ⟨p, action, hfound, hid, hone⟩
      · exact absurd (hstale hi fun p hfound hid => hp ⟨p, hfound, hid⟩).2 hrack
    · exact absurd (hbeyond (UInt32.not_lt.mp hi)).2 hrack

end Handled

/-- A host with two plugins. -/
def duet : Host Quota where
  setup := { root := "rack" }
  rack := { plugins := [⟨0, 0, "Bass", []⟩, ⟨1, 1, "Treble", []⟩], created := 2 }
  courier := {}

theorem plugin_message_reaches_addressed_second :
    let out := duet.handle .udp ⟨pluginPath "rack" "001" "set_active", [.int 1]⟩
    ((everyone duet.rack).map Plugin.key).Nodup ∧
      (∀ c ∈ "001".toList, (Index.charDigit c).isSome) ∧
      Route.ofPath (pluginPath "rack" "001" "set_active") "rack" = .plugin 1 "set_active" ∧
      found duet 1 = some ⟨1, 1, "Treble", []⟩ ∧
      Answered duet.rack 1 ⟨1, 1, "Treble", []⟩ [.int 1] "set_active" out.1.rack out.2 := by
  intro out
  have hkeys : ((everyone duet.rack).map Plugin.key).Nodup := by decide
  have hdigits : ∀ c ∈ "001".toList, (Index.charDigit c).isSome := by
    simp [Index.charDigit]
  have hroute : Route.ofPath (pluginPath "rack" "001" "set_active") "rack" =
      .plugin 1 "set_active" := by decide +kernel
  have hfound : found duet 1 = some ⟨1, 1, "Treble", []⟩ := by rfl
  obtain ⟨_, _, _, _, hanswered, _⟩ :=
    plugin_message_reaches_addressed (h := duet) (t := .udp) hkeys hdigits hroute rfl
  exact ⟨hkeys, hdigits, hroute, hfound, hanswered _ (by decide) hfound rfl⟩

end RackRemote.Proofs

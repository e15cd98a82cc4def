import RackRemote.Proofs.Authority
import RackRemote.Proofs.Parameters

/-!
# What commands to the host accept

Each command to the host has its parameters. Arguments that fit them ask the engine once for what
they say; others are refused before the engine hears of them. What an engine does with a request
has no part in this, so `serve` leaves the engine open, and the host is one that is served by its
rack.
-/

namespace RackRemote

namespace GlobalCommand

/-- What comes of a command with these arguments when an engine is asked. -/
def serve {σ : Type} (ask : Engine σ) (firstSlot : Bool) (c : GlobalCommand) (args : List Osc.Arg)
    (s : σ) : σ × Except Refusal Unit :=
  match c.request firstSlot args with
  | .ok request => ask s request c.origin
  | .error reason => (s, .error reason)

/-- What a command asks of its arguments. -/
def parameters (firstSlot : Bool) : GlobalCommand → List Parameter
  | clearEngineXruns | cancelEngineAction | transportPlay | transportPause | removeAllPlugins => []
  | patchbayConnect => [.index "group_a", .index "port_a", .index "group_b", .index "port_b"]
  | patchbayDisconnect => [.index "connection_id"]
  | patchbayRefresh => [.free .int32]
  | transportBpm => [.tempo "bpm"]
  | transportRelocate => [.unsigned "frame"]
  | addPlugin =>
    [.index "binary_type", .index "plugin_type", .free .text, .free .text, .label "label",
      .free .integer, .index "options"]
  | removePlugin | clonePlugin | replacePlugin => [.index "index"]
  | renamePlugin => [.index "index", .label "name"]
  | switchPlugins => [.index "index_a", if firstSlot then .free .int32 else .index "index_b"]

/-- A request says what the arguments of a command say. -/
inductive Spells (firstSlot : Bool) : GlobalCommand → List Osc.Arg → Request → Prop where
  | clearEngineXruns : Spells firstSlot clearEngineXruns [] .clearXruns
  | cancelEngineAction : Spells firstSlot cancelEngineAction [] (.setCanceled true)
  | patchbayConnect {i j k l : Int32} {ports : Ports} (groupA : ports.groupA.toNat = i.toInt)
      (portA : ports.portA.toNat = j.toInt) (groupB : ports.groupB.toNat = k.toInt)
      (portB : ports.portB.toNat = l.toInt) :
      Spells firstSlot patchbayConnect [.int i, .int j, .int k, .int l] (.connect ports)
  | patchbayDisconnect {i : Int32} {id : UInt32} (number : id.toNat = i.toInt) :
      Spells firstSlot patchbayDisconnect [.int i] (.disconnect id)
  | patchbayRefresh {v : Int32} {withSystemPorts : Bool} (on : withSystemPorts ↔ v ≠ 0) :
      Spells firstSlot patchbayRefresh [.int v] (.refresh withSystemPorts)
  | transportPlay : Spells firstSlot transportPlay [] .play
  | transportPause : Spells firstSlot transportPause [] .pause
  | transportBpm {x : Binary32} {bpm : Binary64} (exact : bpm.numeral = x.numeral) :
      Spells firstSlot transportBpm [.float x] (.setBpm bpm)
  | transportRelocate {a : Osc.Arg} {frame : UInt64} (number : a.number? = some (frame.toNat : Int)) :
      Spells firstSlot transportRelocate [a] (.relocate frame)
  | addPlugin {i j k : Int32} {path title tag : String} {a : Osc.Arg} {order : PluginOrder}
      (binaryType : order.binaryType.toNat = i.toInt)
      (pluginType : order.pluginType.toNat = j.toInt)
      (filename : order.filename = if path = "(null)" then none else some path)
      (name : order.name = if title = "(null)" then none else some title)
      (label : order.label = tag) (uniqueId : a.number? = some order.uniqueId.toInt)
      (options : order.options.toNat = k.toInt) :
      Spells firstSlot addPlugin
        [.int i, .int j, .string path, .string title, .string tag, a, .int k] (.addPlugin order)
  | removePlugin {i : Int32} {index : UInt32} (number : index.toNat = i.toInt) :
      Spells firstSlot removePlugin [.int i] (.removePlugin index)
  | removeAllPlugins : Spells firstSlot removeAllPlugins [] .removeAllPlugins
  | renamePlugin {i : Int32} {index : UInt32} (name : String) (number : index.toNat = i.toInt) :
      Spells firstSlot renamePlugin [.int i, .string name] (.renamePlugin index name)
  | clonePlugin {i : Int32} {index : UInt32} (number : index.toNat = i.toInt) :
      Spells firstSlot clonePlugin [.int i] (.clonePlugin index)
  | replacePlugin {i : Int32} {index : UInt32} (number : index.toNat = i.toInt) :
      Spells firstSlot replacePlugin [.int i] (.replacePlugin index)
  | switchPlugins {i j : Int32} {a b : UInt32} (first : a.toNat = i.toInt)
      (second : b.toNat = if firstSlot then i.toInt else j.toInt) :
      Spells firstSlot switchPlugins [.int i, .int j] (.switchPlugins a b)

end GlobalCommand

end RackRemote

namespace RackRemote.Proofs

lemma globalCommand_kinds (firstSlot : Bool) (c : GlobalCommand) :
    (c.parameters firstSlot).map Parameter.kind = c.signature := by
  cases c <;> cases firstSlot <;> rfl

/-! ### Several arguments -/

section Arguments

variable {command : String} {values : List Osc.Arg} {n : Nat}

lemma reads_bpm {x : Binary32} (h : values[0]? = some (.float x)) :
    Reads command [.tempo "bpm"] [.float x] (fun bpm => bpm.numeral = x.numeral)
      (GlobalCommand.readBpm ⟨command, values⟩) := by
  have hlimit : (Parameter.tempo "bpm").limit = some ("bpm", .notBelowZero) := rfl
  rw [GlobalCommand.readBpm]
  refine Reads.guarded (float_eq h) hlimit ?_ rfl fun _ => widen_numeral x
  change _ ↔ ¬x.numeral.Nonneg
  rw [← widen_numeral, numeral_nonneg_iff, not_not]

lemma reads_ports (firstSlot : Bool) (i j k l : Int32) :
    let args := [.int i, .int j, .int k, .int l]
    Reads command (GlobalCommand.patchbayConnect.parameters firstSlot) args
      (fun ports => GlobalCommand.patchbayConnect.Spells firstSlot args (.connect ports))
      (GlobalCommand.readPorts ⟨command, args⟩) := by
  refine Reads.bind (reads_index rfl) fun groupA hgroupA => ?_
  refine Reads.bind (reads_index rfl) fun portA hportA => ?_
  refine Reads.bind (reads_index rfl) fun groupB hgroupB => ?_
  exact Reads.bind (reads_index rfl) fun portB hportB =>
    .pure (.patchbayConnect hgroupA hportA hgroupB hportB)

lemma reads_order (firstSlot : Bool) (i j k : Int32) (path title label : String) {a : Osc.Arg}
    (ha : OfKind .integer a) :
    let args := [.int i, .int j, .string path, .string title, .string label, a, .int k]
    Reads command (GlobalCommand.addPlugin.parameters firstSlot) args
      (fun order => GlobalCommand.addPlugin.Spells firstSlot args (.addPlugin order))
      (GlobalCommand.readOrder ⟨command, args⟩) := by
  refine Reads.bind (reads_index rfl) fun binaryType hbinaryType => ?_
  refine Reads.bind (reads_index rfl) fun pluginType hpluginType => ?_
  refine Reads.bind (reads_text rfl) fun _ hpath => ?_
  refine Reads.bind (reads_text rfl) fun _ htitle => ?_
  refine Reads.bind (reads_label rfl) fun _ hlabel => ?_
  refine Reads.bind (reads_integer rfl ha) fun uniqueId huniqueId => ?_
  refine Reads.bind (reads_index rfl) fun options hoptions => .pure ?_
  subst hpath htitle hlabel
  exact .addPlugin hbinaryType hpluginType rfl rfl rfl huniqueId hoptions

end Arguments

/-! ### All arguments -/

lemma reads_globalCommand (firstSlot : Bool) (c : GlobalCommand) {args : List Osc.Arg}
    (h : List.Forall₂ OfKind ((c.parameters firstSlot).map Parameter.kind) args) :
    Reads c.name (c.parameters firstSlot) args (c.Spells firstSlot args)
      (c.read firstSlot ⟨c.name, args⟩) := by
  rw [globalCommand_kinds] at h
  cases c with
  | clearEngineXruns =>
    cases h
    exact .pure .clearEngineXruns
  | cancelEngineAction =>
    cases h
    exact .pure .cancelEngineAction
  | patchbayConnect =>
    obtain ⟨⟩ | ⟨⟨i⟩, ⟨⟩ | ⟨⟨j⟩, ⟨⟩ | ⟨⟨k⟩, ⟨⟩ | ⟨⟨l⟩, ⟨⟩⟩⟩⟩⟩ := h
    exact (reads_ports firstSlot i j k l).map fun _ hports => hports
  | patchbayDisconnect =>
    obtain ⟨⟩ | ⟨⟨i⟩, ⟨⟩⟩ := h
    exact (reads_index rfl).map fun id hid => .patchbayDisconnect hid
  | patchbayRefresh =>
    obtain ⟨⟩ | ⟨⟨v⟩, ⟨⟩⟩ := h
    exact (reads_int rfl).map_eq (.patchbayRefresh (by simp))
  | transportPlay =>
    cases h
    exact .pure .transportPlay
  | transportPause =>
    cases h
    exact .pure .transportPause
  | transportBpm =>
    obtain ⟨⟩ | ⟨⟨⟩, ⟨⟩⟩ := h
    exact (reads_bpm rfl).map fun bpm hbpm => .transportBpm hbpm
  | transportRelocate =>
    obtain ⟨⟩ | ⟨ha, ⟨⟩⟩ := h
    exact (reads_unsigned rfl ha).map fun frame hframe => .transportRelocate hframe
  | addPlugin =>
    obtain ⟨⟩ | ⟨⟨i⟩, ⟨⟩ | ⟨⟨j⟩, ⟨⟩ | ⟨⟨⟩, ⟨⟩ | ⟨⟨⟩, ⟨⟩ | ⟨⟨⟩, ⟨⟩ |
      ⟨ha, ⟨⟩ | ⟨⟨k⟩, ⟨⟩⟩⟩⟩⟩⟩⟩⟩ := h
    exact (reads_order firstSlot i j k _ _ _ ha).map fun _ horder => horder
  | removePlugin =>
    obtain ⟨⟩ | ⟨⟨i⟩, ⟨⟩⟩ := h
    exact (reads_index rfl).map fun index hindex => .removePlugin hindex
  | removeAllPlugins =>
    cases h
    exact .pure .removeAllPlugins
  | renamePlugin =>
    obtain ⟨⟩ | ⟨⟨i⟩, ⟨⟩ | ⟨⟨⟩, ⟨⟩⟩⟩ := h
    refine Reads.bind (reads_index rfl) fun index hindex => ?_
    exact (reads_label rfl).map_eq (.renamePlugin _ hindex)
  | clonePlugin =>
    obtain ⟨⟩ | ⟨⟨i⟩, ⟨⟩⟩ := h
    exact (reads_index rfl).map fun index hindex => .clonePlugin hindex
  | replacePlugin =>
    obtain ⟨⟩ | ⟨⟨i⟩, ⟨⟩⟩ := h
    exact (reads_index rfl).map fun index hindex => .replacePlugin hindex
  | switchPlugins =>
    obtain ⟨⟩ | ⟨⟨i⟩, ⟨⟩ | ⟨⟨j⟩, ⟨⟩⟩⟩ := h
    refine Reads.bind (reads_index rfl) fun first hfirst => ?_
    cases firstSlot with
    | true =>
      -- The second argument is not read.
      exact .skip rfl (.pure (.switchPlugins hfirst hfirst))
    | false =>
      exact (reads_index rfl).map fun second hsecond => .switchPlugins hfirst hsecond

lemma settles_request (firstSlot : Bool) (c : GlobalCommand) (args : List Osc.Arg) :
    Settles c.name (c.parameters firstSlot) args (c.Spells firstSlot args)
      (c.request firstSlot args) := by
  rw [GlobalCommand.request, ← globalCommand_kinds firstSlot]
  exact settles_check (reads_globalCommand firstSlot c)

/-! ### One call or none -/

section Served

variable {σ : Type} {firstSlot : Bool} {c : GlobalCommand} {args : List Osc.Arg}

lemma serve_request {request : Request} (h : c.request firstSlot args = .ok request)
    (ask : Engine σ) (s : σ) : c.serve ask firstSlot args s = ask s request c.origin := by
  rw [GlobalCommand.serve, h]

lemma serve_refused {reason : Refusal} (h : c.request firstSlot args = .error reason)
    (ask : Engine σ) (s : σ) : c.serve ask firstSlot args s = (s, .error reason) := by
  rw [GlobalCommand.serve, h]

end Served

section Handled

variable {κ : Type} {h : Host κ}

/-- What a host makes of what has been done on a message: it adds a warning to a refusal. -/
inductive Concluded : Host κ × Except Refusal Unit → Host κ × Except Refusal Order → Prop where
  | accepted {h' : Host κ} {order : Order} : Concluded (h', .ok ()) (h', .ok order)
  | refused {h' : Host κ} {reason : Refusal} :
      Concluded (h', .error reason) (h'.enter (.rejected reason), .error reason)

lemma Concluded.rack {done : Host κ × Except Refusal Unit} {out : Host κ × Except Refusal Order}
    (hout : Concluded done out) : out.1.rack = done.1.rack := by
  cases hout <;> rfl

lemma decide_command {b : Binding} (hb : h.tcp = some b) (c : GlobalCommand)
    (args : List Osc.Arg) :
    h.decide .tcp ⟨"/ctrl/" ++ c.name, args⟩ =
      c.request h.setup.firstSlot args >>= fun request => .ok (.control c request) := by
  have hname : c.name ≠ "" := by cases c <;> decide
  have hfound : GlobalCommand.ofName? c.name = some c := by cases c <;> rfl
  rw [Host.decide, ofPath_command hname]
  dsimp only
  rw [Host.decideControl, hb, hfound]
  rfl

variable [Courier κ]

lemma handle_serve {b : Binding} (hb : h.tcp = some b) (c : GlobalCommand) (args : List Osc.Arg) :
    Concluded (c.serve Host.ask h.setup.firstSlot args h)
      (h.handle .tcp ⟨"/ctrl/" ++ c.name, args⟩) := by
  have hdecide := decide_command hb c args
  cases hrequest : c.request h.setup.firstSlot args with
  | error reason =>
    rw [hrequest] at hdecide
    rw [serve_refused hrequest, Host.handle, hdecide]
    exact .refused
  | ok request =>
    have hcontrol : h.decide .tcp ⟨"/ctrl/" ++ c.name, args⟩ = .ok (.control c request) := by
      rw [hdecide, hrequest]
      rfl
    have hexecute : h.execute .tcp (.control c request) = h.ask request c.origin := rfl
    rw [serve_request hrequest, Host.handle, hcontrol]
    dsimp only
    rw [hexecute]
    rcases h.ask request c.origin with ⟨h', reason | ⟨⟩⟩
    · exact .refused
    · exact .accepted

/-- While a controller is registered on TCP, a command is served by asking the rack once for what its
arguments say, if they fit the command. Otherwise it is refused, and nothing comes of it but the
warning; the refusal is for the count of the arguments, or else for the leftmost one of a wrong kind,
or else for the leftmost one out of its limit. The same goes for any engine in place of the rack. -/
theorem command_asks_for_fitting {b : Binding} (hb : h.tcp = some b) (c : GlobalCommand)
    (args : List Osc.Arg) :
    let firstSlot := h.setup.firstSlot
    let ps := c.parameters firstSlot
    let out := h.handle .tcp ⟨"/ctrl/" ++ c.name, args⟩
    ps.map Parameter.kind = c.signature ∧
      Concluded (c.serve Host.ask firstSlot args h) out ∧
      (Fitting ps args → ∃ request, c.Spells firstSlot args request ∧
        (∀ {σ : Type} (ask : Engine σ) (s : σ),
          c.serve ask firstSlot args s = ask s request c.origin) ∧
        ((h.setup.declinesRefresh → c ≠ .patchbayRefresh) →
          out.1.rack.requests = h.rack.requests ++ [(request, c.origin)])) ∧
      (¬Fitting ps args → ∃ reason, Faulty c.name ps args reason ∧
        (∀ {σ : Type} (ask : Engine σ) (s : σ), c.serve ask firstSlot args s = (s, .error reason)) ∧
        out = (h.enter (.rejected reason), .error reason)) := by
  intro firstSlot ps out
  have hconcluded : Concluded (c.serve Host.ask firstSlot args h) out := handle_serve hb c args
  refine ⟨globalCommand_kinds firstSlot c, hconcluded, ?_⟩
  have hsettles := settles_request firstSlot c args
  cases hrequest : c.request firstSlot args with
  | ok request =>
    rw [hrequest] at hsettles
    cases hsettles with
    | accepted fitting spelled =>
      refine ⟨fun _ => ⟨request, spelled, serve_request hrequest, fun hheard => ?_⟩,
        fun hnot => absurd fitting hnot⟩
      rw [hconcluded.rack, serve_request hrequest]
      refine ask_logged c.origin fun hdeclines all hall => hheard hdeclines ?_
      subst hall
      cases spelled
      rfl
  | error reason =>
    rw [hrequest] at hsettles
    cases hsettles with
    | refused faulty =>
      refine ⟨fun hfit => absurd hfit faulty.not_fitting,
        fun _ => ⟨reason, faulty, serve_refused hrequest, ?_⟩⟩
      rw [serve_refused hrequest] at hconcluded
      generalize out = result at hconcluded
      cases hconcluded
      rfl

end Handled

/-- Where a switch takes both indices from its first argument, a negative number is allowed as the
second one and not as the first one. -/
theorem command_asks_for_fitting_switch :
    let b : Binding := ⟨"osc.tcp://127.0.0.1:19000/R", ⟨.tcp, ⟨.v4 0x7f000001, 19000⟩⟩, "/R"⟩
    let h : Host Quota :=
      { setup := { root := "rack", firstSlot := true }, tcp := some b, courier := {} }
    let ps := GlobalCommand.switchPlugins.parameters true
    let out (args : List Osc.Arg) := h.handle .tcp ⟨"/ctrl/switch_plugins", args⟩
    h.tcp = some b ∧ Fitting ps [.int 3, .int (-1)] ∧
      (∃ request, GlobalCommand.switchPlugins.Spells true [.int 3, .int (-1)] request ∧
        (out [.int 3, .int (-1)]).1.rack.requests = [(request, .external)]) ∧
      ¬Fitting ps [.int (-1), .int 3] ∧
      ∃ reason, Faulty "switch_plugins" ps [.int (-1), .int 3] reason ∧
        out [.int (-1), .int 3] = (h.enter (.rejected reason), .error reason) := by
  intro b h ps out
  have hfits : ∀ i j : Int32, Fitting ps [.int i, .int j] ↔ 0 ≤ i.toInt := by
    intro i j
    simp [Fitting, ps, GlobalCommand.parameters, Parameter.Mistyped, Parameter.Exceeded,
      Parameter.index, Parameter.atLeast, Parameter.free, ArgKind.accepts, Osc.Arg.typeTag,
      allows_int]
  obtain ⟨_, _, haccepted, _⟩ :=
    command_asks_for_fitting (h := h) (b := b) rfl .switchPlugins [.int 3, .int (-1)]
  obtain ⟨_, _, _, hrefused⟩ :=
    command_asks_for_fitting (h := h) (b := b) rfl .switchPlugins [.int (-1), .int 3]
  have hfit : Fitting ps [.int 3, .int (-1)] := (hfits 3 (-1)).mpr (by decide)
  have hnot : ¬Fitting ps [.int (-1), .int 3] := by
    rw [hfits]
    decide
  obtain ⟨request, hspelled, _, hlog⟩ := haccepted hfit
  obtain ⟨reason, hfaulty, _, hout⟩ := hrefused hnot
  exact ⟨rfl, hfit, ⟨request, hspelled, hlog fun _ => GlobalCommand.noConfusion⟩, hnot, reason, hfaulty, hout⟩

end RackRemote.Proofs

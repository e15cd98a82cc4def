import RackRemote.Proofs.Addressing
import RackRemote.Proofs.Parameters

/-!
# What commands to a plugin accept

Each command to a plugin has its parameters. Arguments that fit them call the plugin once, and what
it is called with are the numbers that were sent, though in other types. Arguments that do not fit
leave the plugin alone.
-/

namespace RackRemote.PluginCommand

/-- What a command asks of its arguments. -/
def parameters : PluginCommand → List Parameter
  | setActive => [.free .int32]
  | setDryWet | setVolume | setBalanceLeft | setBalanceRight | setPanning => [.free .float]
  | setParameterValue => [.index "index", .free .float]
  | setParameterMidiCc => [.index "index", .within "cc" (-1) 119]
  | setParameterMidiChannel => [.index "index", .within "channel" 0 15]
  | setProgram | setMidiProgram => [.atLeast "index" (-1)]
  | noteOn => [.within "channel" 0 15, .within "note" 0 127, .within "velocity" 0 127]
  | noteOff => [.within "channel" 0 15, .within "note" 0 127]

/-- An action says what the arguments of a command say. -/
inductive Spells : PluginCommand → List Osc.Arg → Action → Prop where
  | setActive {v : Int32} {active : Bool} (on : active ↔ v ≠ 0) :
      Spells setActive [.int v] (.setActive active)
  | setDryWet (x : Binary32) : Spells setDryWet [.float x] (.setDryWet x)
  | setVolume (x : Binary32) : Spells setVolume [.float x] (.setVolume x)
  | setBalanceLeft (x : Binary32) : Spells setBalanceLeft [.float x] (.setBalanceLeft x)
  | setBalanceRight (x : Binary32) : Spells setBalanceRight [.float x] (.setBalanceRight x)
  | setPanning (x : Binary32) : Spells setPanning [.float x] (.setPanning x)
  | setParameterValue {i : Int32} {index : UInt32} (x : Binary32) (number : index.toNat = i.toInt) :
      Spells setParameterValue [.int i, .float x] (.setParameter index x)
  | setParameterMidiCc {i v : Int32} {index : UInt32} {cc : Int16} (number : index.toNat = i.toInt)
      (control : cc.toInt = v.toInt) :
      Spells setParameterMidiCc [.int i, .int v] (.setParameterCc index cc)
  | setParameterMidiChannel {i v : Int32} {index : UInt32} {channel : UInt8}
      (number : index.toNat = i.toInt) (chosen : channel.toNat = v.toInt) :
      Spells setParameterMidiChannel [.int i, .int v] (.setParameterChannel index channel)
  | setProgram (program : Int32) : Spells setProgram [.int program] (.setProgram program)
  | setMidiProgram (program : Int32) :
      Spells setMidiProgram [.int program] (.setMidiProgram program)
  | noteOn {c n v : Int32} {channel pitch velocity : UInt8} (chosen : channel.toNat = c.toInt)
      (key : pitch.toNat = n.toInt) (force : velocity.toNat = v.toInt) :
      Spells noteOn [.int c, .int n, .int v] (.note channel pitch velocity)
  | noteOff {c n : Int32} {channel pitch : UInt8} (chosen : channel.toNat = c.toInt)
      (key : pitch.toNat = n.toInt) : Spells noteOff [.int c, .int n] (.note channel pitch 0)

end RackRemote.PluginCommand

namespace RackRemote.Proofs

lemma pluginCommand_kinds (c : PluginCommand) : c.parameters.map Parameter.kind = c.signature := by
  cases c <;> rfl

/-! ### One argument -/

lemma toNat_narrow {v : Int32} (hlow : 0 ≤ v) (hhigh : v.toInt < 2 ^ 8) :
    (v.toUInt32.toUInt8.toNat : Int) = v.toInt := by
  have hnonneg : 0 ≤ v.toInt := Int32.le_iff_toInt_le.mp hlow
  have hnat : (v.toNatClampNeg : Int) = v.toInt := Int.toNat_of_nonneg hnonneg
  rw [UInt32.toNat_toUInt8, Int32.toNat_toUInt32_of_le hlow]
  omega

lemma toInt_narrow {v : Int32} (hlow : -2 ^ 15 ≤ v.toInt) (hhigh : v.toInt < 2 ^ 15) :
    v.toInt16.toInt = v.toInt := by
  rw [Int32.toInt_toInt16]
  exact Int.bmod_eq_of_le hlow hhigh

section Arguments

variable {command : String} {values : List Osc.Arg} {n : Nat} {name : String} {v : Int32}

lemma reads_channel (h : values[n]? = some (.int v)) :
    Reads command [.within "channel" 0 15] [.int v] (fun w => w.toNat = v.toInt)
      (PluginCommand.readChannel ⟨command, values⟩ n) := by
  refine (reads_intIn h 0 PluginCommand.channels).bind fun w hw => ?_
  obtain ⟨rfl, hlow, hhigh⟩ := hw
  have hhigh' : w.toInt < 16 := Int32.lt_iff_toInt_lt.mp hhigh
  exact .pure (toNat_narrow hlow (by omega))

lemma reads_data (h : values[n]? = some (.int v)) :
    Reads command [.within name 0 127] [.int v] (fun w => w.toNat = v.toInt)
      (PluginCommand.readData ⟨command, values⟩ n name) := by
  refine (reads_intIn h 0 PluginCommand.dataLimit).bind fun w hw => ?_
  obtain ⟨rfl, hlow, hhigh⟩ := hw
  have hhigh' : w.toInt < 128 := Int32.lt_iff_toInt_lt.mp hhigh
  exact .pure (toNat_narrow hlow (by omega))

lemma reads_cc (h : values[n]? = some (.int v)) :
    Reads command [.within "cc" (-1) 119] [.int v] (fun w => w.toInt = v.toInt)
      (PluginCommand.readCc ⟨command, values⟩ n) := by
  refine (reads_intIn h (-1) PluginCommand.controlLimit).bind fun w hw => ?_
  obtain ⟨rfl, hlow, hhigh⟩ := hw
  have hlow' : -1 ≤ w.toInt := Int32.le_iff_toInt_le.mp hlow
  have hhigh' : w.toInt < 120 := Int32.lt_iff_toInt_lt.mp hhigh
  exact .pure (toInt_narrow (by omega) (by omega))

lemma reads_program (h : values[0]? = some (.int v)) :
    Reads command [.atLeast "index" (-1)] [.int v] (· = v)
      (PluginCommand.readProgram ⟨command, values⟩) := by
  have hlimit : (Parameter.atLeast "index" (-1)).limit = some ("index", .integer (-1) none) := rfl
  rw [PluginCommand.readProgram]
  refine Reads.guarded (int_eq h) hlimit ?_ rfl fun _ => rfl
  simp [allows_int, Int32.lt_iff_toInt_lt]

end Arguments

/-! ### All arguments -/

lemma reads_pluginCommand (c : PluginCommand) {args : List Osc.Arg}
    (h : List.Forall₂ OfKind (c.parameters.map Parameter.kind) args) :
    Reads c.name c.parameters args (c.Spells args) (c.read ⟨c.name, args⟩) := by
  cases c with
  | setActive =>
    obtain ⟨⟩ | ⟨⟨v⟩, ⟨⟩⟩ := h
    exact (reads_int rfl).map_eq (.setActive (by simp))
  | setDryWet =>
    obtain ⟨⟩ | ⟨⟨⟩, ⟨⟩⟩ := h
    exact (reads_float rfl).map_eq (.setDryWet _)
  | setVolume =>
    obtain ⟨⟩ | ⟨⟨⟩, ⟨⟩⟩ := h
    exact (reads_float rfl).map_eq (.setVolume _)
  | setBalanceLeft =>
    obtain ⟨⟩ | ⟨⟨⟩, ⟨⟩⟩ := h
    exact (reads_float rfl).map_eq (.setBalanceLeft _)
  | setBalanceRight =>
    obtain ⟨⟩ | ⟨⟨⟩, ⟨⟩⟩ := h
    exact (reads_float rfl).map_eq (.setBalanceRight _)
  | setPanning =>
    obtain ⟨⟩ | ⟨⟨⟩, ⟨⟩⟩ := h
    exact (reads_float rfl).map_eq (.setPanning _)
  | setParameterValue =>
    obtain ⟨⟩ | ⟨⟨i⟩, ⟨⟩ | ⟨⟨⟩, ⟨⟩⟩⟩ := h
    refine Reads.bind (reads_index rfl) fun index hindex => ?_
    exact (reads_float rfl).map_eq (.setParameterValue _ hindex)
  | setParameterMidiCc =>
    obtain ⟨⟩ | ⟨⟨i⟩, ⟨⟩ | ⟨⟨v⟩, ⟨⟩⟩⟩ := h
    refine Reads.bind (reads_index rfl) fun index hindex => ?_
    exact (reads_cc rfl).map fun cc hcc => .setParameterMidiCc hindex hcc
  | setParameterMidiChannel =>
    obtain ⟨⟩ | ⟨⟨i⟩, ⟨⟩ | ⟨⟨v⟩, ⟨⟩⟩⟩ := h
    refine Reads.bind (reads_index rfl) fun index hindex => ?_
    exact (reads_channel rfl).map fun channel hchannel => .setParameterMidiChannel hindex hchannel
  | setProgram =>
    obtain ⟨⟩ | ⟨⟨v⟩, ⟨⟩⟩ := h
    exact (reads_program rfl).map_eq (.setProgram _)
  | setMidiProgram =>
    obtain ⟨⟩ | ⟨⟨v⟩, ⟨⟩⟩ := h
    exact (reads_program rfl).map_eq (.setMidiProgram _)
  | noteOn =>
    obtain ⟨⟩ | ⟨⟨i⟩, ⟨⟩ | ⟨⟨j⟩, ⟨⟩ | ⟨⟨k⟩, ⟨⟩⟩⟩⟩ := h
    refine Reads.bind (reads_channel rfl) fun channel hchannel => ?_
    refine Reads.bind (reads_data rfl) fun pitch hpitch => ?_
    exact (reads_data rfl).map fun velocity hvelocity => .noteOn hchannel hpitch hvelocity
  | noteOff =>
    obtain ⟨⟩ | ⟨⟨i⟩, ⟨⟩ | ⟨⟨j⟩, ⟨⟩⟩⟩ := h
    refine Reads.bind (reads_channel rfl) fun channel hchannel => ?_
    exact (reads_data rfl).map fun pitch hpitch => .noteOff hchannel hpitch

lemma settles_action (c : PluginCommand) (args : List Osc.Arg) :
    Settles c.name c.parameters args (c.Spells args) (c.action args) := by
  rw [PluginCommand.action, ← pluginCommand_kinds]
  exact settles_check (reads_pluginCommand c)

/-! ### One call or none -/

section Handled

variable {κ : Type} [Courier κ]

section Command

variable {h : Host κ} {t : Transport} {m : Osc.Message} {index : UInt32} {c : PluginCommand}
  {p : Plugin} (hroute : Route.ofPath m.address h.setup.root = .plugin index c.name)
  (hresolve : h.resolve index = .ok p)
include hroute hresolve

omit [Courier κ] in
lemma decide_plugin :
    h.decide t m = c.action m.args >>= fun action => .ok (.plugin index p.key c action) := by
  rw [Host.decide, hroute]
  dsimp only
  rw [Host.decidePlugin, hresolve, pluginCommand_ofName?_name]
  rfl

lemma handle_fitting (hkeys : ((everyone h.rack).map Plugin.key).Nodup)
    (hfit : Fitting c.parameters m.args) :
    ∃ action, c.Spells m.args action ∧ (h.handle t m).2 = .ok (.plugin index p.key c action) ∧
      OneCall h.rack (h.handle t m).1.rack p action .external := by
  have hdecide := decide_plugin (t := t) hroute hresolve
  have hsettles := settles_action c m.args
  cases ha : c.action m.args with
  | ok action =>
    rw [ha] at hdecide hsettles
    cases hsettles with
    | accepted _ spelled =>
      have hmem := found_mem (found_of_resolve hresolve)
      rw [handle_of_decide_plugin hdecide]
      exact ⟨action, spelled, rfl, oneCall_actHost hkeys hmem action .external⟩
  | error reason =>
    rw [ha] at hsettles
    cases hsettles with
    | refused faulty => exact absurd hfit faulty.not_fitting

lemma handle_not_fitting (hnot : ¬Fitting c.parameters m.args) :
    ∃ reason, Faulty c.name c.parameters m.args reason ∧
      h.handle t m = (h.enter (.rejected reason), .error reason) := by
  have hdecide := decide_plugin (t := t) hroute hresolve
  have hsettles := settles_action c m.args
  cases ha : c.action m.args with
  | ok action =>
    rw [ha] at hsettles
    cases hsettles with
    | accepted fitting _ => exact absurd fitting hnot
  | error reason =>
    rw [ha] at hdecide hsettles
    cases hsettles with
    | refused faulty => exact ⟨reason, faulty, handle_of_decide_error hdecide⟩

end Command

/-- From its start with an empty rack on, whatever happens to a host, a command whose arguments fit
calls the plugin that is found at its index, once, and any other is refused. -/
theorem started_plugin_is_called {setup : Setup} {info : EngineInfo} {courier : κ} {h₀ : Host κ}
    (hs : Host.start? setup { info } courier = some h₀) (moves : List Move) (t : Transport)
    {m : Osc.Message} {index : UInt32} {c : PluginCommand} {p : Plugin}
    (hroute : Route.ofPath m.address setup.root = .plugin index c.name)
    (hresolve : (run h₀ moves).resolve index = .ok p) :
    let h := run h₀ moves
    (Fitting c.parameters m.args →
      ∃ action, c.Spells m.args action ∧ (h.handle t m).2 = .ok (.plugin index p.key c action) ∧
        OneCall h.rack (h.handle t m).1.rack p action .external) ∧
    (¬Fitting c.parameters m.args →
      ∃ reason, Faulty c.name c.parameters m.args reason ∧
        h.handle t m = (h.enter (.rejected reason), .error reason)) := by
  intro h
  have hsetup : h.setup = setup := started_setup hs moves
  rw [← hsetup] at hroute
  have hkeys := (keyed_started hs moves).nodup
  exact ⟨handle_fitting hroute hresolve hkeys, handle_not_fitting hroute hresolve⟩

/-- A message with a command for a plugin that is there calls this plugin once, with what the
arguments say, if the arguments fit the command. Otherwise it is refused, and nothing comes of it
but the warning; the refusal is for the count of the arguments, or else for the leftmost one of a
wrong kind, or else for the leftmost one out of its limit. -/
theorem plugin_command_accepts_fitting {h : Host κ}
    (hkeys : ((everyone h.rack).map Plugin.key).Nodup) {t : Transport} {m : Osc.Message}
    {index : UInt32} {c : PluginCommand}
    (hroute : Route.ofPath m.address h.setup.root = .plugin index c.name) {p : Plugin}
    (hresolve : h.resolve index = .ok p) :
    c.parameters.map Parameter.kind = c.signature ∧
      (Fitting c.parameters m.args →
        ∃ action, c.Spells m.args action ∧ (h.handle t m).2 = .ok (.plugin index p.key c action) ∧
          OneCall h.rack (h.handle t m).1.rack p action .external) ∧
      (¬Fitting c.parameters m.args →
        ∃ reason, Faulty c.name c.parameters m.args reason ∧
          h.handle t m = (h.enter (.rejected reason), .error reason)) :=
  ⟨pluginCommand_kinds c, handle_fitting hroute hresolve hkeys, handle_not_fitting hroute hresolve⟩

end Handled

/-- A note on the last channel is played, one on the channel after it is not. -/
theorem plugin_command_accepts_fitting_note :
    let note (channel : Int32) : Osc.Message :=
      ⟨pluginPath "rack" "001" "note_on", [.int channel, .int 60, .int 100]⟩
    let treble : Plugin := ⟨1, 1, "Treble", []⟩
    let ps := PluginCommand.noteOn.parameters
    ((everyone duet.rack).map Plugin.key).Nodup ∧ duet.resolve 1 = .ok treble ∧
      Route.ofPath (pluginPath "rack" "001" "note_on") duet.setup.root = .plugin 1 "note_on" ∧
      Fitting ps (note 15).args ∧
      (∃ action, PluginCommand.noteOn.Spells (note 15).args action ∧
        OneCall duet.rack (duet.handle .udp (note 15)).1.rack treble action .external) ∧
      ¬Fitting ps (note 16).args ∧
      ∃ reason, Faulty "note_on" ps (note 16).args reason ∧
        duet.handle .udp (note 16) = (duet.enter (.rejected reason), .error reason) := by
  intro note treble ps
  have hkeys : ((everyone duet.rack).map Plugin.key).Nodup := by decide
  have hresolve : duet.resolve 1 = .ok treble := by rfl
  have hroute : Route.ofPath (pluginPath "rack" "001" "note_on") duet.setup.root =
      .plugin 1 "note_on" := by decide +kernel
  have hfits : ∀ channel : Int32, Fitting ps (note channel).args ↔
      0 ≤ channel.toInt ∧ channel.toInt ≤ 15 := by
    intro channel
    simp [Fitting, ps, note, PluginCommand.parameters, Parameter.Mistyped, Parameter.Exceeded,
      Parameter.within, ArgKind.accepts, Osc.Arg.typeTag, allows_int]
  obtain ⟨_, haccepted, _⟩ :=
    plugin_command_accepts_fitting (t := .udp) (m := note 15) (c := .noteOn) hkeys hroute hresolve
  obtain ⟨_, _, hrefused⟩ :=
    plugin_command_accepts_fitting (t := .udp) (m := note 16) (c := .noteOn) hkeys hroute hresolve
  obtain ⟨action, hspelled, _, hone⟩ := haccepted ((hfits 15).mpr (by decide))
  have hnot : ¬Fitting ps (note 16).args := fun hfit => absurd ((hfits 16).mp hfit) (by decide)
  exact ⟨hkeys, hresolve, hroute, (hfits 15).mpr (by decide), ⟨action, hspelled, hone⟩, hnot,
    hrefused hnot⟩

end RackRemote.Proofs

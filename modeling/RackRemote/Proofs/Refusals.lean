import Mathlib.Tactic.Common
import RackRemote.Host.Decision

/-!
# Why a message can be refused before anything is done

`Raises P` says of a reader that it refuses only for reasons of a certain sort. Arguments are refused
for their count, their types or their range and for nothing else, whatever the command; with this,
`decide` never blames the network.
-/

namespace RackRemote.Proofs

variable {κ α β : Type} {P : Refusal → Prop}

/-- Every refusal of a reader is of a certain sort. -/
def Raises (P : Refusal → Prop) (x : Except Refusal α) : Prop := ∀ reason, x = .error reason → P reason

@[simp] lemma raises_ok (a : α) : Raises P (.ok a) := by
  intro reason h
  cases h

@[simp] lemma raises_pure (a : α) : Raises P (pure a : Except Refusal α) := raises_ok a

@[simp] lemma raises_error (reason : Refusal) :
    Raises P (.error reason : Except Refusal α) ↔ P reason := by
  constructor
  · intro h
    exact h reason rfl
  · intro h _ hr
    cases hr
    exact h

@[simp] lemma raises_throw (reason : Refusal) :
    Raises P (throw reason : Except Refusal α) ↔ P reason := raises_error reason

@[simp] lemma raises_bind (x : Except Refusal α) (f : α → Except Refusal β) :
    Raises P (x >>= f) ↔ Raises P x ∧ ∀ a, x = .ok a → Raises P (f a) := by
  cases x with
  | error reason =>
    change Raises P (.error reason) ↔ _
    simp
  | ok a =>
    change Raises P (f a) ↔ _
    simp

@[simp] lemma raises_map (f : α → β) (x : Except Refusal α) :
    Raises P (f <$> x) ↔ Raises P x := by
  cases x with
  | error reason =>
    change Raises P (.error reason) ↔ _
    simp
  | ok a =>
    change Raises P (.ok (f a)) ↔ _
    simp

@[simp] lemma raises_ite (c : Prop) [Decidable c] (x y : Except Refusal α) :
    Raises P (if c then x else y) ↔ (c → Raises P x) ∧ (¬c → Raises P y) := by
  by_cases h : c <;> simp [h]

lemma Raises.mono {Q : Refusal → Prop} {x : Except Refusal α} (h : Raises P x)
    (hPQ : ∀ reason, P reason → Q reason) : Raises Q x :=
  fun reason hx => hPQ reason (h reason hx)

/-! ### Arguments -/

/-- The refusals that find fault with the arguments. -/
def OfArguments : Refusal → Prop
  | .arity .. | .argType .. | .outOfRange .. => True
  | _ => False

namespace OfArguments

@[simp] lemma arity (command : String) (expected actual : Nat) :
    OfArguments (.arity command expected actual) := trivial

@[simp] lemma argType (command : String) (position : Nat) (expected : ArgKind) (actual : Char) :
    OfArguments (.argType command position expected actual) := trivial

@[simp] lemma wrongType (a : Arguments) (position : Nat) (expected : ArgKind) :
    OfArguments (a.wrongType position expected) := trivial

@[simp] lemma outOfRange (a : Arguments) (argument : String) (value : Offending) :
    OfArguments (a.outOfRange argument value) := trivial

end OfArguments

lemma raises_check (command : String) (signature : List ArgKind) (args : List Osc.Arg) :
    Raises OfArguments (Arguments.check command signature args) := by
  rw [Arguments.check]
  split
  · simp
  · split <;> simp

@[simp] lemma raises_int (a : Arguments) (position : Nat) :
    Raises OfArguments (a.int position) := by
  rw [Arguments.int]
  split <;> simp

@[simp] lemma raises_integer (a : Arguments) (position : Nat) :
    Raises OfArguments (a.integer position) := by
  rw [Arguments.integer]
  split <;> simp

@[simp] lemma raises_float (a : Arguments) (position : Nat) :
    Raises OfArguments (a.float position) := by
  rw [Arguments.float]
  split <;> simp

@[simp] lemma raises_text (a : Arguments) (position : Nat) :
    Raises OfArguments (a.text position) := by
  rw [Arguments.text]
  split <;> simp

@[simp] lemma raises_index (a : Arguments) (position : Nat) (argument : String) :
    Raises OfArguments (a.index position argument) := by
  simp [Arguments.index]

@[simp] lemma raises_unsigned (a : Arguments) (position : Nat) (argument : String) :
    Raises OfArguments (a.unsigned position argument) := by
  simp [Arguments.unsigned]

@[simp] lemma raises_intIn (a : Arguments) (position : Nat) (argument : String)
    (low high : Int32) : Raises OfArguments (a.intIn position argument low high) := by
  simp [Arguments.intIn]

@[simp] lemma raises_label (a : Arguments) (position : Nat) (argument : String) :
    Raises OfArguments (a.label position argument) := by
  simp [Arguments.label]

/-! ### Commands -/

lemma raises_globalRead (firstSlot : Bool) (c : GlobalCommand) (a : Arguments) :
    Raises OfArguments (c.read firstSlot a) := by
  cases c with
  | patchbayConnect => simp [GlobalCommand.read, GlobalCommand.readPorts]
  | transportBpm => simp [GlobalCommand.read, GlobalCommand.readBpm]
  | addPlugin => simp [GlobalCommand.read, GlobalCommand.readOrder]
  | switchPlugins => cases firstSlot <;> simp [GlobalCommand.read]
  | _ => simp [GlobalCommand.read]

lemma raises_request (firstSlot : Bool) (c : GlobalCommand) (args : List Osc.Arg) :
    Raises OfArguments (c.request firstSlot args) := by
  rw [GlobalCommand.request, raises_bind]
  exact ⟨raises_check _ _ _, fun a _ => raises_globalRead firstSlot c a⟩

lemma raises_pluginRead (c : PluginCommand) (a : Arguments) :
    Raises OfArguments (c.read a) := by
  cases c <;> simp [PluginCommand.read, PluginCommand.readCc, PluginCommand.readChannel,
    PluginCommand.readData, PluginCommand.readProgram]

lemma raises_action (c : PluginCommand) (args : List Osc.Arg) :
    Raises OfArguments (c.action args) := by
  rw [PluginCommand.action, raises_bind]
  exact ⟨raises_check _ _ _, fun a _ => raises_pluginRead c a⟩

lemma raises_readUrl (command : String) (args : List Osc.Arg) :
    Raises OfArguments (Host.readUrl command args) := by
  rw [Host.readUrl, raises_bind]
  exact ⟨raises_check _ _ _, fun a _ => raises_text a 0⟩

/-! ### Decisions -/

/-- The refusals that find fault with the message itself or with its sender. -/
def OfMessage : Refusal → Prop
  | .notAddressed .. | .malformedPath .. | .transportNotAllowed .. | .notRegistered ..
  | .unknownCommand .. => True
  | reason => OfArguments reason

/-- The refusals that do not come from the network. -/
def Local (reason : Refusal) : Prop := ∀ failure, reason ≠ .undelivered failure

lemma OfArguments.ofMessage {reason : Refusal} (h : OfArguments reason) : OfMessage reason := by
  cases reason <;> trivial

lemma OfMessage.local {reason : Refusal} (h : OfMessage reason) : Local reason := by
  intro failure hf
  rw [hf] at h
  exact h

lemma raises_decideControl (h : Host κ) (t : Transport) (path name : String)
    (args : List Osc.Arg) : Raises OfMessage (h.decideControl t path name args) := by
  unfold Host.decideControl
  cases hc : GlobalCommand.ofName? name with
  | none => simp [OfMessage]
  | some command =>
    have hr := (raises_request h.setup.firstSlot command args).mono fun _ => OfArguments.ofMessage
    simp [OfMessage, hr]

lemma raises_resolve (h : Host κ) (index : UInt32) : Raises Local (h.resolve index) := by
  unfold Host.resolve
  cases (h.setup.lookUp h.rack index).bind h.rack.find? with
  | none => simp [Local]
  | some p => simp [Local]

lemma raises_decidePlugin (h : Host κ) (index : UInt32) (method : String)
    (args : List Osc.Arg) :
    Raises (fun reason => OfMessage reason ∨ h.resolve index = .error reason)
      (h.decidePlugin index method args) := by
  rw [Host.decidePlugin, raises_bind]
  refine ⟨fun reason hr => .inr hr, fun p _ => ?_⟩
  cases PluginCommand.ofName? method with
  | some command =>
    have hr : Raises (fun reason => OfMessage reason ∨ h.resolve index = .error reason)
        (command.action args) := (raises_action command args).mono fun _ ha => .inl ha.ofMessage
    simp [hr]
  | none => cases ReservedCommand.ofName? method <;> simp

/-- Only a look for a plugin can go wrong for a reason that lies with the host. -/
theorem raises_decide_or_resolve (h : Host κ) (t : Transport) (m : Osc.Message) :
    Raises (fun reason => OfMessage reason ∨ ∃ index, h.resolve index = .error reason)
      (h.decide t m) := by
  have hurl : ∀ command, Raises
      (fun reason => OfMessage reason ∨ ∃ index, h.resolve index = .error reason)
      (Host.readUrl command m.args) := fun command =>
    (raises_readUrl command m.args).mono fun _ ha => .inl ha.ofMessage
  unfold Host.decide
  cases Route.ofPath m.address h.setup.root with
  | register => simp [hurl]
  | unregister => simp [hurl]
  | control name => exact (raises_decideControl h t m.address name m.args).mono fun _ => .inl
  | plugin index method =>
    refine (raises_decidePlugin h index method m.args).mono fun reason hr => ?_
    exact hr.imp id fun hresolve => ⟨index, hresolve⟩
  | other => simp [OfMessage]
  | malformed fault => simp [OfMessage]

theorem raises_decide (h : Host κ) (t : Transport) (m : Osc.Message) :
    Raises Local (h.decide t m) := by
  refine (raises_decide_or_resolve h t m).mono fun reason hr => ?_
  rcases hr with hmessage | ⟨index, hresolve⟩
  · exact hmessage.local
  · exact raises_resolve h index reason hresolve

end RackRemote.Proofs

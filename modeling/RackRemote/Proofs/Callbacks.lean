import Mathlib.Data.List.Nodup
import RackRemote.Control.Callback

/-!
# Telling events apart

A callback message gives away the path it was made for and the event it is about: its code stands for
one kind of event, and what such an event carries stands in entries of its own. Only the sample rate
of an engine is told in single precision, so that two of them can be told alike.
-/

namespace RackRemote.Proofs

/-! ### The codes -/

/-- The codes of all kinds of events, in the order in which the kinds are declared. -/
def codes : List Int32 := [30, 1, 2, 3, 5, 10, 11, 13, 14, 24, 25]

lemma codes_nodup : codes.Nodup := by decide

lemma codes_ctorIdx (e : Event) : codes[e.ctorIdx]? = some e.callback.action := by
  cases e <;> rfl

/-- A code stands for one kind of event. -/
lemma action_eq_iff (e f : Event) :
    e.callback.action = f.callback.action ↔ e.ctorIdx = f.ctorIdx := by
  obtain ⟨hlt, _⟩ := List.getElem?_eq_some_iff.mp (codes_ctorIdx e)
  rw [← List.getElem?_inj hlt codes_nodup, codes_ctorIdx, codes_ctorIdx, Option.some_inj]

/-! ### Reading a callback -/

lemma toInt32_injective : Function.Injective UInt32.toInt32 :=
  Function.LeftInverse.injective UInt32.toUInt32_toInt32

lemma args_injective : Function.Injective Callback.args := by
  rintro ⟨action, id, first, second, third, value, text⟩
    ⟨action', id', first', second', third', value', text'⟩ h
  simp only [Callback.args, List.cons.injEq, Osc.Arg.int.injEq, Osc.Arg.float.injEq,
    Osc.Arg.string.injEq, and_true] at h
  obtain ⟨rfl, hid, rfl, rfl, rfl, rfl, rfl⟩ := h
  rw [toInt32_injective hid]

/-- The event that a callback is about, for a reader who knows the exact sample rate. -/
def eventOf (rate : Binary64) (c : Callback) : Option Event :=
  match c.action.toInt with
  | 1 => some (.pluginAdded c.id c.text)
  | 2 => some (.pluginRemoved c.id)
  | 3 => some (.pluginRenamed c.id c.text)
  | 5 => some (.parameterChanged c.id c.first.toUInt32 c.value)
  | 10 => some (.programChanged c.id c.first)
  | 11 => some (.midiProgramChanged c.id c.first)
  | 13 =>
    some (.noteOn c.id c.first.toUInt32.toUInt8 c.second.toUInt32.toUInt8 c.third.toUInt32.toUInt8)
  | 14 => some (.noteOff c.id c.first.toUInt32.toUInt8 c.second.toUInt32.toUInt8)
  | 24 => some (.connectionAdded c.first.toUInt32 c.text)
  | 25 => some (.connectionRemoved c.first.toUInt32)
  | 30 =>
    some (.engineStarted ⟨c.first.toUInt32, c.second.toUInt32, c.third.toUInt32, rate, c.text⟩)
  | _ => none

/-- The event with another sample rate, if it has one. -/
def atRate (rate : Binary64) : Event → Event
  | .engineStarted info => .engineStarted { info with sampleRate := rate }
  | e => e

lemma eventOf_callback (rate : Binary64) (e : Event) :
    eventOf rate e.callback = some (atRate rate e) := by
  cases e with
  | noteOn id channel pitch velocity =>
    change some (Event.noteOn id channel.toUInt32.toInt32.toUInt32.toUInt8
      pitch.toUInt32.toInt32.toUInt32.toUInt8 velocity.toUInt32.toInt32.toUInt32.toUInt8) = _
    simp only [UInt32.toUInt32_toInt32, UInt8.toUInt8_toUInt32, atRate]
  | noteOff id channel pitch =>
    change some (Event.noteOff id channel.toUInt32.toInt32.toUInt32.toUInt8
      pitch.toUInt32.toInt32.toUInt32.toUInt8) = _
    simp only [UInt32.toUInt32_toInt32, UInt8.toUInt8_toUInt32, atRate]
  | _ => rfl

lemma exists_atRate (e : Event) : ∃ rate, atRate rate e = e := by
  cases e with
  | engineStarted info => exact ⟨info.sampleRate, rfl⟩
  | _ => exact ⟨⟨0⟩, rfl⟩

/-! ### Events that are told alike -/

/-- Two events that are the same but for a sample rate which is the same in single precision. -/
inductive ToldAlike : Event → Event → Prop where
  | same (e : Event) : ToldAlike e e
  | rounded (info : EngineInfo) {rate : Binary64} (h : rate.narrow = info.sampleRate.narrow) :
      ToldAlike (.engineStarted info) (.engineStarted { info with sampleRate := rate })

lemma toldAlike_atRate {e : Event} {rate : Binary64}
    (h : (atRate rate e).callback.value = e.callback.value) : ToldAlike e (atRate rate e) := by
  cases e with
  | engineStarted info => exact .rounded info h
  | _ => exact .same _

/-- Two events with one callback can both be read from it, so they differ in the sample rate only. -/
lemma callback_eq_iff (e f : Event) : e.callback = f.callback ↔ ToldAlike e f := by
  constructor
  · intro h
    obtain ⟨rate, hrate⟩ := exists_atRate f
    have hread : atRate rate e = f := by
      have he := eventOf_callback rate e
      rw [h, eventOf_callback, hrate] at he
      exact (Option.some.inj he).symm
    rw [← hread] at h ⊢
    exact toldAlike_atRate (congrArg Callback.value h).symm
  · rintro (_ | ⟨info, hrate⟩)
    · rfl
    · simp only [Event.callback, hrate]

/-- A message determines the path and the event it was made for, up to sample rates that are the same
number in single precision. No code stands for two kinds of events, and no two ids, indices or numbers
of connections are written alike. -/
theorem messages_tell_events_apart :
    (∀ (p q : String) (e f : Event), e.message p = f.message q ↔ p = q ∧ ToldAlike e f) ∧
    (∀ e f : Event, e.callback.action = f.callback.action ↔ e.ctorIdx = f.ctorIdx) ∧
    Function.Injective UInt32.toInt32 := by
  refine ⟨fun p q e f => ?_, action_eq_iff, toInt32_injective⟩
  rw [Event.message, Event.message, Osc.Message.mk.injEq, String.append_left_inj,
    args_injective.eq_iff, callback_eq_iff]

/-- The next larger sample rate is told alike, the next larger id is not. -/
example :
    ToldAlike (.engineStarted {}) (.engineStarted { sampleRate := ⟨0x40e7700000000001⟩ }) ∧
      (Event.pluginRemoved 0x80000000).callback ≠ (Event.pluginRemoved 0x80000001).callback :=
  ⟨.rounded {} (by decide +kernel), by decide⟩

end RackRemote.Proofs

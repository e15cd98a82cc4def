import RackRemote.Proofs.Transcript

/-!
# Delivery of an event

A host tells an event to one controller: over UDP first if the event is urgent, and over TCP otherwise
or if that fails. `Tried` is what comes of messages that are sent in order until one gets through, for
every courier and so for every outcome of each; `Notification` says what this means for the host.
-/

namespace RackRemote.Proofs

variable {κ : Type}

/-- The events that go over UDP if they can. -/
inductive Urgent : Event → Prop where
  | parameterChanged (id index : UInt32) (value : Binary32) :
      Urgent (.parameterChanged id index value)
  | noteOn (id : UInt32) (channel pitch velocity : UInt8) : Urgent (.noteOn id channel pitch velocity)
  | noteOff (id : UInt32) (channel pitch : UInt8) : Urgent (.noteOff id channel pitch)

/-- The messages for an event to the controllers on some transports, each under the path of its
controller. -/
def letters (h : Host κ) (e : Event) (ts : List Transport) : List (Target × Osc.Message) :=
  (ts.filterMap h.binding).map fun b => (b.target, e.message b.path)

lemma letters_bound {h : Host κ} {t : Transport} {b : Binding} (hb : h.binding t = some b) (e : Event)
    (ts : List Transport) :
    letters h e (t :: ts) = (b.target, e.message b.path) :: letters h e ts := by
  rw [letters, List.filterMap_cons_some hb]
  rfl

lemma letters_unbound {h : Host κ} {t : Transport} (hb : h.binding t = none) (e : Event)
    (ts : List Transport) : letters h e (t :: ts) = letters h e ts := by
  rw [letters, List.filterMap_cons_none hb]
  rfl

lemma letters_eq_nil_iff {h : Host κ} {e : Event} {ts : List Transport} :
    letters h e ts = [] ↔ ∀ t ∈ ts, h.binding t = none := by
  rw [letters, List.map_eq_nil_iff, List.filterMap_eq_nil_iff]

variable [Courier κ]

/-- What is entered when messages are sent one after the other, whatever comes of each. -/
def trying : κ → List (Target × Osc.Message) → List Entry
  | _, [] => []
  | k, (target, m) :: rest =>
    .sent target m (Courier.send k target m).2 :: trying (Courier.send k target m).1 rest

/-- The messages that got through. -/
def received (entries : List Entry) : List (Target × Osc.Message) :=
  entries.filterMap fun
    | .sent target m (.ok ()) => some (target, m)
    | _ => none

/-- What is entered if no controller could be told. -/
def complaint : Except IoError Bool → List Entry
  | .ok _ => []
  | .error failure => [.untold failure]

/-! ### Messages until one gets through -/

/-- Messages are sent in order until one gets through: what is entered meanwhile, and what an answer
turns into. -/
inductive Tried : κ → Except IoError Bool → List (Target × Osc.Message) → List Entry →
    Except IoError Bool → Prop where
  | exhausted {k : κ} {answer : Except IoError Bool} : Tried k answer [] [] answer
  | arrived {k k' : κ} {answer : Except IoError Bool} {target : Target} {m : Osc.Message}
      {rest : List (Target × Osc.Message)} (sent : Courier.send k target m = (k', .ok ())) :
      Tried k answer ((target, m) :: rest) [.sent target m (.ok ())] (.ok true)
  | failed {k k' : κ} {answer last : Except IoError Bool} {target : Target} {m : Osc.Message}
      {rest : List (Target × Osc.Message)} {entries : List Entry} {failure : IoError}
      (sent : Courier.send k target m = (k', .error failure))
      (later : Tried k' (.error failure) rest entries last) :
      Tried k answer ((target, m) :: rest) (.sent target m (.error failure) :: entries) last

/-- How this ends. -/
inductive Ended (answer : Except IoError Bool) (messages : List (Target × Osc.Message))
    (entries : List Entry) : Except IoError Bool → Prop where
  | unsent (nobody : messages = []) (silent : entries = []) : Ended answer messages entries answer
  | arrived {message : Target × Osc.Message} (arrival : received entries = [message]) :
      Ended answer messages entries (.ok true)
  | undelivered {target : Target} {m : Osc.Message} {failure : IoError}
      (lost : received entries = []) (all : attempts entries = messages)
      (last : entries.getLast? = some (.sent target m (.error failure))) :
      Ended answer messages entries (.error failure)

namespace Tried

variable {k : κ} {answer last : Except IoError Bool} {messages : List (Target × Osc.Message)}
  {entries : List Entry}

/-- What is attempted is where the messages begin. -/
lemma attempts_prefix (h : Tried k answer messages entries last) :
    attempts entries <+: messages := by
  induction h with
  | exhausted => exact List.prefix_rfl
  | arrived => exact List.prefix_append [_] _
  | failed _ _ ih => exact List.cons_prefix_cons.mpr ⟨rfl, ih⟩

lemma eq_trying (h : Tried k answer messages entries last) :
    entries = trying k (attempts entries) := by
  induction h with
  | exhausted => rfl
  | @arrived k k' _ target m _ sent =>
    change _ = [Entry.sent target m (Courier.send k target m).2]
    rw [sent]
  | @failed k k' _ _ target m _ entries _ sent _ ih =>
    change _ = Entry.sent target m (Courier.send k target m).2 ::
      trying (Courier.send k target m).1 (attempts entries)
    rw [sent, ← ih]

/-- Only the last message can have got through. -/
lemma received_dropLast (h : Tried k answer messages entries last) :
    received entries.dropLast = [] := by
  induction h with
  | exhausted => rfl
  | arrived => rfl
  | @failed _ _ _ _ _ _ _ entries _ _ _ ih =>
    cases entries with
    | nil => rfl
    | cons => exact ih

lemma ended (h : Tried k answer messages entries last) : Ended answer messages entries last := by
  induction h with
  | exhausted => exact .unsent rfl rfl
  | arrived => exact .arrived rfl
  | @failed _ _ _ _ target m _ entries failure _ _ ih =>
    cases ih with
    | unsent nobody silent =>
      subst nobody silent
      exact .undelivered rfl rfl rfl
    | arrived arrival => exact .arrived arrival
    | @undelivered target' m' failure' lost all last =>
      have hlast : (Entry.sent target m (.error failure) :: entries).getLast? =
          some (.sent target' m' (.error failure')) := by
        rw [List.getLast?_cons, last]
        rfl
      exact .undelivered lost (congrArg (List.cons _) all) hlast

end Tried

/-! ### The answer -/

namespace Ended

variable {answer : Except IoError Bool} {messages : List (Target × Osc.Message)} {entries : List Entry}

lemma once (h : Ended (.ok false) messages entries answer) : (received entries).length ≤ 1 := by
  cases h with
  | unsent _ silent =>
    rw [silent]
    exact Nat.zero_le 1
  | arrived arrival =>
    rw [arrival]
    exact Nat.le_refl 1
  | undelivered lost =>
    rw [lost]
    exact Nat.zero_le 1

lemma exhausted (h : Ended (.ok false) messages entries answer) (hlost : received entries = []) :
    attempts entries = messages := by
  cases h with
  | unsent nobody silent =>
    rw [nobody, silent]
    rfl
  | arrived arrival => cases arrival.symm.trans hlost
  | undelivered _ all => exact all

lemma told_iff (h : Ended (.ok false) messages entries answer) :
    answer = .ok true ↔ (received entries).length = 1 := by
  cases h with
  | unsent _ silent =>
    rw [silent]
    exact ⟨nofun, nofun⟩
  | arrived arrival =>
    rw [arrival]
    exact iff_of_true rfl rfl
  | undelivered lost =>
    rw [lost]
    exact ⟨nofun, nofun⟩

lemma silent (h : Ended (.ok false) messages entries answer) (hanswer : answer = .ok false) :
    messages = [] ∧ entries = [] := by
  cases h with
  | unsent nobody silent => exact ⟨nobody, silent⟩
  | arrived => cases hanswer
  | undelivered => cases hanswer

lemma of_nobody (h : Ended (.ok false) messages entries answer) (hentries : entries = []) :
    answer = .ok false := by
  subst hentries
  cases h with
  | unsent => rfl
  | arrived arrival => cases arrival
  | undelivered _ _ last => cases last

lemma untold_iff (h : Ended (.ok false) messages entries answer) (failure : IoError) :
    answer = .error failure ↔ received entries = [] ∧
      ∃ target m, entries.getLast? = some (.sent target m (.error failure)) := by
  cases h with
  | unsent _ silent =>
    subst silent
    exact ⟨nofun, nofun⟩
  | arrived arrival =>
    rw [arrival]
    exact ⟨nofun, nofun⟩
  | @undelivered target m failure' lost _ last =>
    constructor
    · rintro ⟨⟩
      exact ⟨lost, target, m, last⟩
    · rintro ⟨_, target', m', last'⟩
      cases last.symm.trans last'
      rfl

end Ended

/-! ### Telling an event -/

lemma deliver_eq {h h' : Host κ} {target : Target} {m : Osc.Message} {outcome : Except IoError Unit}
    (hsent : h.deliver target m = (h', outcome)) :
    Courier.send h.courier target m = (h'.courier, outcome) ∧
      Entered h h' [.sent target m outcome] ∧ h'.binding = h.binding := by
  have ha := alike_deliver h target m
  have hd := entered_deliver h target m
  obtain rfl : (h.deliver target m).1 = h' := congrArg Prod.fst hsent
  obtain rfl : (h.deliver target m).2 = outcome := congrArg Prod.snd hsent
  exact ⟨rfl, hd, funext ha.binding⟩

lemma tried_tell (e : Event) (h : Host κ) (answer : Except IoError Bool) (ts : List Transport) :
    ∃ entries, Entered h (Host.tell e h answer ts).1 entries ∧
      Tried h.courier answer (letters h e ts) entries (Host.tell e h answer ts).2 := by
  induction ts generalizing h answer with
  | nil => exact ⟨[], Entered.refl h, .exhausted⟩
  | cons t ts ih =>
    rw [Host.tell]
    split
    · rename_i hb
      rw [letters_unbound hb]
      exact ih h answer
    · rename_i b hb
      rw [letters_bound hb]
      split
      · rename_i h' hsent
        obtain ⟨hcourier, hentered, -⟩ := deliver_eq hsent
        exact ⟨_, hentered, .arrived hcourier⟩
      · rename_i h' failure hsent
        obtain ⟨hcourier, hentered, hbinding⟩ := deliver_eq hsent
        obtain ⟨entries, hrest, htried⟩ := ih h' (.error failure)
        rw [letters, hbinding] at htried
        exact ⟨_, hentered.trans hrest, .failed hcourier htried⟩

/-- How a host tells an event on some transports in order: what it enters, and what it answers. -/
structure Notification (h h' : Host κ) (e : Event) (ts : List Transport) (entries : List Entry)
    (answer : Except IoError Bool) : Prop where
  entered : Entered h h' entries
  controllers : ∀ t, h'.binding t = h.binding t
  /-- Every entry is a message that the courier was given, with what came of it. -/
  sent : entries = trying h.courier (attempts entries)
  /-- They are tried in order, each at most once. -/
  ordered : attempts entries <+: letters h e ts
  /-- The first one that gets through is the last one tried. -/
  stops : received entries.dropLast = []
  /-- If none gets through, all have been tried. -/
  exhausted : received entries = [] → attempts entries = letters h e ts
  once : (received entries).length ≤ 1
  told : answer = .ok true ↔ (received entries).length = 1
  nobody : answer = .ok false ↔ ∀ t ∈ ts, h.binding t = none
  silent : answer = .ok false → entries = []
  untold : ∀ failure, answer = .error failure ↔
    received entries = [] ∧ ∃ target m, entries.getLast? = some (.sent target m (.error failure))

lemma notification_tell (e : Event) (h : Host κ) (ts : List Transport) :
    ∃ entries, Notification h (Host.tell e h (.ok false) ts).1 e ts entries
      (Host.tell e h (.ok false) ts).2 := by
  obtain ⟨entries, hentered, htried⟩ := tried_tell e h (.ok false) ts
  have hended := htried.ended
  refine ⟨entries, hentered, (alike_tell e h (.ok false) ts).binding, htried.eq_trying,
    htried.attempts_prefix, htried.received_dropLast, hended.exhausted, hended.once, hended.told_iff,
    ?_, fun hanswer => (hended.silent hanswer).2, hended.untold_iff⟩
  rw [← letters_eq_nil_iff (e := e)]
  refine ⟨fun hanswer => (hended.silent hanswer).1, fun hnobody => hended.of_nobody ?_⟩
  have hattempts : attempts entries = [] := List.prefix_nil.mp (hnobody ▸ htried.attempts_prefix)
  rw [htried.eq_trying, hattempts]
  rfl

lemma urgent_iff {e : Event} : Urgent e ↔ e.isRealtime := by
  constructor
  · rintro (_ | _ | _) <;> rfl
  · intro h
    cases e with
    | parameterChanged => exact .parameterChanged ..
    | noteOn => exact .noteOn ..
    | noteOff => exact .noteOff ..
    | _ => cases h

lemma entered_relay_internal {h : Host κ} {e : Event} {entries : List Entry}
    (hentered : Entered h (h.notify e).1 entries) :
    Entered h (h.relay e .internal) (entries ++ complaint (h.notify e).2) := by
  rw [Host.relay]
  split
  · rename_i h' _ htold
    rw [htold] at hentered ⊢
    rwa [complaint, List.append_nil]
  · rename_i h' failure htold
    rw [htold] at hentered ⊢
    exact hentered.trans (entered_enter h' fun _ => rfl)

/-- An event goes over UDP first if it is urgent, and over TCP only otherwise. It reaches one controller
at most, and none is tried after this one; the answer says whether one was reached, whether there was
none, or how the last attempt failed. Events of the rack itself are passed on in this way, and those that
come from outside are not. -/
theorem event_is_delivered_once (h : Host κ) (e : Event) :
    (Urgent e → e.channels = [.udp, .tcp]) ∧ (¬Urgent e → e.channels = [.tcp]) ∧
      (∃ entries, Notification h (h.notify e).1 e e.channels entries (h.notify e).2 ∧
        Entered h (h.relay e .internal) (entries ++ complaint (h.notify e).2)) ∧
      (∀ t, (h.relay e .internal).binding t = h.binding t) ∧ h.relay e .external = h := by
  obtain ⟨entries, hnotified⟩ := notification_tell e h e.channels
  refine ⟨fun hurgent => if_pos (urgent_iff.mp hurgent), fun hcalm => if_neg ?_,
    ⟨entries, hnotified, entered_relay_internal hnotified.entered⟩,
    (alike_relay h e .internal).binding, rfl⟩
  rwa [← urgent_iff]

/-- A note that does not get through over UDP goes to the controller on TCP, under its path. -/
example :
    let udp : Binding := ⟨"osc.udp://10.0.0.1:9000/pad", ⟨.udp, ⟨.v4 0x0a000001, 9000⟩⟩, "/pad"⟩
    let tcp : Binding := ⟨"osc.tcp://10.0.0.2:9001/desk", ⟨.tcp, ⟨.v4 0x0a000002, 9001⟩⟩, "/desk"⟩
    let h : Host Quota :=
      { setup := { root := "rack" }, udp := some udp, tcp := some tcp, courier := { udp := some 0 } }
    let e : Event := .noteOff 1 0 60
    (h.notify e).2 = .ok true ∧
      attempts (h.notify e).1.journal =
        [(udp.target, e.message "/pad"), (tcp.target, e.message "/desk")] :=
  ⟨rfl, rfl⟩

end RackRemote.Proofs

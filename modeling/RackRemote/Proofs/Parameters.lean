import Mathlib.Data.List.Forall2
import RackRemote.Control.Arguments
import RackRemote.Proofs.RackSteps
import RackRemote.Proofs.Widening

/-!
# Parameters of commands

A command asks of each of its arguments a kind and perhaps a limit. `Settles` says what comes of a
command: arguments that fit are read as they should be, and others are refused for their count, for
the leftmost one of a wrong kind, or for the leftmost one out of its limit, in this order. The steps
of reading are put together by `Reads.bind`, one parameter after the other.
-/

namespace RackRemote

/-- An integer argument of either width. -/
def Osc.Arg.number? : Osc.Arg → Option Int
  | .int v => some v.toInt
  | .long v => some v.toInt
  | _ => none

/-- How a refusal shows an argument that is out of its limit. -/
def Osc.Arg.offending : Osc.Arg → Offending
  | .int v => .integer v.toInt
  | .long v => .integer v.toInt
  | .float v => .real v.widen
  | _ => .emptyText

/-- Which of the arguments of a kind a command takes. -/
inductive Limit where
  /-- From the lowest number on, up to the highest one if there is one. -/
  | integer (low : Int) (high : Option Int)
  | notBelowZero
  | notEmpty

def Limit.Allows : Limit → Osc.Arg → Prop
  | .integer low high, a => ∃ n, a.number? = some n ∧ low ≤ n ∧ ∀ top, high = some top → n ≤ top
  | .notBelowZero, .float v => v.numeral.Nonneg
  | .notEmpty, .string s => s ≠ ""
  | _, _ => False

/-- What a command asks of one of its arguments. -/
structure Parameter where
  kind : ArgKind
  /-- The limit, with the name under which the argument is refused. -/
  limit : Option (String × Limit) := none

namespace Parameter

/-- The argument is not of the kind that is asked for. -/
def Mistyped (p : Parameter) (a : Osc.Arg) : Prop := ¬p.kind.accepts a.typeTag

/-- The argument is out of its limit. -/
def Exceeded (p : Parameter) (a : Osc.Arg) : Prop :=
  ∃ name limit, p.limit = some (name, limit) ∧ ¬limit.Allows a

/-- Any argument of a kind. -/
def free (kind : ArgKind) : Parameter := { kind }

/-- A narrow integer between two numbers, which are allowed as well. -/
def within (name : String) (low high : Int) : Parameter :=
  ⟨.int32, some (name, .integer low (some high))⟩

/-- A narrow integer that is not below a number. -/
def atLeast (name : String) (low : Int) : Parameter := ⟨.int32, some (name, .integer low none)⟩

/-- A number that counts something or stands for it. -/
def index (name : String) : Parameter := atLeast name 0

/-- An integer of either width that is not negative. -/
def unsigned (name : String) : Parameter := ⟨.integer, some (name, .integer 0 none)⟩

/-- A number that is not below zero, written in binary floating point. -/
def tempo (name : String) : Parameter := ⟨.float, some (name, .notBelowZero)⟩

def label (name : String) : Parameter := ⟨.text, some (name, .notEmpty)⟩

end Parameter

end RackRemote

namespace RackRemote.Proofs

/-- The leftmost argument about which something holds: its place and its parameter. -/
structure Leftmost (Bad : Parameter → Osc.Arg → Prop) (ps : List Parameter) (args : List Osc.Arg)
    (n : Nat) (p : Parameter) (a : Osc.Arg) : Prop where
  parameter : ps[n]? = some p
  argument : args[n]? = some a
  bad : Bad p a
  first : ∀ k < n, ∀ q b, ps[k]? = some q → args[k]? = some b → ¬Bad q b

/-- The arguments are as many as there are parameters, and each is one that its parameter takes. -/
def Fitting (ps : List Parameter) (args : List Osc.Arg) : Prop :=
  List.Forall₂ (fun p a => ¬p.Mistyped a ∧ ¬p.Exceeded a) ps args

/-- Why a command refuses arguments that do not fit. -/
inductive Faulty (command : String) (ps : List Parameter) (args : List Osc.Arg) : Refusal → Prop where
  | arity (count : args.length ≠ ps.length) :
      Faulty command ps args (.arity command ps.length args.length)
  | argType {n : Nat} {p : Parameter} {a : Osc.Arg} (count : args.length = ps.length)
      (wrong : Leftmost Parameter.Mistyped ps args n p a) :
      Faulty command ps args (.argType command n p.kind a.typeTag)
  | outOfRange {n : Nat} {p : Parameter} {a : Osc.Arg} {name : String} {limit : Limit}
      (typed : List.Forall₂ (fun p a => ¬p.Mistyped a) ps args)
      (exceeding : Leftmost Parameter.Exceeded ps args n p a) (named : p.limit = some (name, limit)) :
      Faulty command ps args (.outOfRange command name a.offending)

/-- What comes of a command with any arguments. -/
inductive Settles {α : Type} (command : String) (ps : List Parameter) (args : List Osc.Arg)
    (Wished : α → Prop) : Except Refusal α → Prop where
  | accepted {v : α} (fitting : Fitting ps args) (wished : Wished v) :
      Settles command ps args Wished (.ok v)
  | refused {reason : Refusal} (faulty : Faulty command ps args reason) :
      Settles command ps args Wished (.error reason)

/-! ### The leftmost fault -/

section Leftmost

variable {Bad : Parameter → Osc.Arg → Prop} {p q : Parameter} {a b : Osc.Arg}
  {ps : List Parameter} {args : List Osc.Arg} {n : Nat}

lemma Leftmost.here (h : Bad p a) : Leftmost Bad (p :: ps) (a :: args) 0 p a :=
  ⟨rfl, rfl, h, nofun⟩

lemma Leftmost.later (hfine : ¬Bad p a) (h : Leftmost Bad ps args n q b) :
    Leftmost Bad (p :: ps) (a :: args) (n + 1) q b where
  parameter := h.parameter
  argument := h.argument
  bad := h.bad
  first := by
    intro k hk r c hr hc
    cases k with
    | zero =>
      cases hr
      cases hc
      exact hfine
    | succ k => exact h.first k (Nat.lt_of_succ_lt_succ hk) r c hr hc

lemma Leftmost.singleton (h : Leftmost Bad [p] [a] n q b) : q = p ∧ b = a ∧ Bad p a := by
  obtain ⟨hq, hb, hbad, _⟩ := h
  cases n with
  | zero =>
    cases hq
    cases hb
    exact ⟨rfl, rfl, hbad⟩
  | succ n => cases hq

lemma Leftmost.not_forall₂ (h : Leftmost Bad ps args n p a) :
    ¬List.Forall₂ (fun p a => ¬Bad p a) ps args := by
  intro hall
  obtain ⟨hn, hp⟩ := List.getElem?_eq_some_iff.mp h.parameter
  obtain ⟨hm, ha⟩ := List.getElem?_eq_some_iff.mp h.argument
  have hfine := (List.forall₂_iff_get.mp hall).2 n hn hm
  rw [List.get_eq_getElem, List.get_eq_getElem, hp, ha] at hfine
  exact hfine h.bad

end Leftmost

/-- Arguments that fit are not refused. -/
lemma Faulty.not_fitting {command : String} {ps : List Parameter} {args : List Osc.Arg}
    {reason : Refusal} (h : Faulty command ps args reason) : ¬Fitting ps args := by
  intro hfitting
  cases h with
  | arity count => exact count hfitting.length_eq.symm
  | argType _ wrong => exact wrong.not_forall₂ (hfitting.imp fun _ _ hboth => hboth.1)
  | outOfRange _ exceeding => exact exceeding.not_forall₂ (hfitting.imp fun _ _ hboth => hboth.2)

/-! ### Kinds -/

/-- The arguments of each kind. -/
inductive OfKind : ArgKind → Osc.Arg → Prop where
  | int32 (v : Int32) : OfKind .int32 (.int v)
  | int64 (v : Int64) : OfKind .int64 (.long v)
  | float (v : Binary32) : OfKind .float (.float v)
  | text (s : String) : OfKind .text (.string s)
  | narrow (v : Int32) : OfKind .integer (.int v)
  | wide (v : Int64) : OfKind .integer (.long v)

lemma ofKind_of_accepts {kind : ArgKind} {a : Osc.Arg} (h : kind.accepts a.typeTag) :
    OfKind kind a := by
  cases a with
  | int v =>
    cases kind with
    | int32 => exact .int32 v
    | integer => exact .narrow v
    | _ => cases h
  | long v =>
    cases kind with
    | int64 => exact .int64 v
    | integer => exact .wide v
    | _ => cases h
  | float v =>
    cases kind with
    | float => exact .float v
    | _ => cases h
  | string s =>
    cases kind with
    | text => exact .text s
    | _ => cases h
  | bool value => cases value <;> cases kind <;> cases h
  | _ => cases kind <;> cases h

/-! ### Checking -/

lemma mismatch?_cases {ps : List Parameter} {args : List Osc.Arg} (h : args.length = ps.length)
    (start : Nat) :
    (Arguments.mismatch? start (ps.map Parameter.kind) args = none ∧
        List.Forall₂ (fun p a => ¬p.Mistyped a) ps args) ∨
      ∃ n p a, Leftmost Parameter.Mistyped ps args n p a ∧
        Arguments.mismatch? start (ps.map Parameter.kind) args =
          some (start + n, p.kind, a.typeTag) := by
  induction ps generalizing args start with
  | nil =>
    obtain rfl := List.length_eq_zero_iff.mp h
    exact .inl ⟨rfl, .nil⟩
  | cons p ps ih =>
    cases args with
    | nil => cases h
    | cons a args =>
      rw [List.map_cons, Arguments.mismatch?]
      by_cases ha : p.kind.accepts a.typeTag
      · have hfine : ¬p.Mistyped a := fun hno => hno ha
        rw [if_pos ha]
        rcases ih (Nat.succ.inj h) (start + 1) with ⟨hnone, hall⟩ | ⟨n, q, b, hleft, hsome⟩
        · exact .inl ⟨hnone, .cons hfine hall⟩
        · refine .inr ⟨n + 1, q, b, hleft.later hfine, ?_⟩
          rw [hsome, Nat.add_assoc, Nat.add_comm 1]
      · rw [if_neg ha]
        exact .inr ⟨0, p, a, .here ha, rfl⟩

/-! ### Reading -/

section Reading

variable {α β : Type} {command : String} {p : Parameter} {a : Osc.Arg} {ps : List Parameter}
  {args : List Osc.Arg} {Wished : α → Prop} {x : Except Refusal α}

/-- What comes of reading arguments of the right kinds. -/
inductive Reads (command : String) (ps : List Parameter) (args : List Osc.Arg) (Wished : α → Prop) :
    Except Refusal α → Prop where
  | value {v : α} (allowed : List.Forall₂ (fun p a => ¬p.Exceeded a) ps args) (wished : Wished v) :
      Reads command ps args Wished (.ok v)
  | refusal {n : Nat} {p : Parameter} {a : Osc.Arg} {name : String} {limit : Limit}
      (exceeding : Leftmost Parameter.Exceeded ps args n p a) (named : p.limit = some (name, limit)) :
      Reads command ps args Wished (.error (.outOfRange command name a.offending))

namespace Reads

lemma pure {v : α} (h : Wished v) : Reads command [] [] Wished (Pure.pure v) := .value .nil h

/-- One argument is read, and then the others. -/
lemma bind {Rest : β → Prop} {f : α → Except Refusal β} (hx : Reads command [p] [a] Wished x)
    (hf : ∀ v, Wished v → Reads command ps args Rest (f v)) :
    Reads command (p :: ps) (a :: args) Rest (x >>= f) := by
  cases hx with
  | @value v allowed wished =>
    have hfine : ¬p.Exceeded a := (List.forall₂_cons.mp allowed).1
    have hrest := hf v wished
    change Reads command (p :: ps) (a :: args) Rest (f v)
    generalize f v = y at hrest ⊢
    cases hrest with
    | value hrest hwished => exact .value (.cons hfine hrest) hwished
    | refusal exceeding named => exact .refusal (exceeding.later hfine) named
  | refusal exceeding named =>
    obtain ⟨rfl, rfl, hbad⟩ := exceeding.singleton
    exact .refusal (.here hbad) named

lemma map {Rest : β → Prop} {f : α → β} (hx : Reads command ps args Wished x)
    (hf : ∀ v, Wished v → Rest (f v)) :
    Reads command ps args Rest (x >>= fun v => Pure.pure (f v)) := by
  cases hx with
  | value allowed wished => exact .value allowed (hf _ wished)
  | refusal exceeding named => exact .refusal exceeding named

lemma map_eq {Rest : β → Prop} {f : α → β} {v : α} (hx : Reads command ps args (· = v) x)
    (hf : Rest (f v)) : Reads command ps args Rest (x >>= fun v => Pure.pure (f v)) := by
  refine hx.map fun w hw => ?_
  rwa [hw]

lemma not_exceeded_of_free (hfree : p.limit = none) : ¬p.Exceeded a := by
  rintro ⟨name, limit, hlimit, _⟩
  cases hfree.symm.trans hlimit

/-- An argument without a limit can be passed over. -/
lemma skip (hfree : p.limit = none) (h : Reads command ps args Wished x) :
    Reads command (p :: ps) (a :: args) Wished x := by
  cases h with
  | value allowed wished => exact .value (.cons (not_exceeded_of_free hfree) allowed) wished
  | refusal exceeding named => exact .refusal (exceeding.later (not_exceeded_of_free hfree)) named

lemma free (hfree : p.limit = none) {v : α} (h : Wished v) : Reads command [p] [a] Wished (.ok v) :=
  (pure h).skip hfree

/-- One argument is read, and thrown back if it is out of its limit. -/
lemma guarded {γ : Type} {y : Except Refusal γ} {w : γ} (hy : y = .ok w) {Out : γ → Prop}
    [DecidablePred Out] {refusal : γ → Refusal} {result : γ → α} {name : String} {limit : Limit}
    (hlimit : p.limit = some (name, limit)) (hout : Out w ↔ ¬limit.Allows a)
    (hrefusal : refusal w = .outOfRange command name a.offending) (h : ¬Out w → Wished (result w)) :
    Reads command [p] [a] Wished
      (do
        let w ← y
        if Out w then throw (refusal w)
        return result w) := by
  subst hy
  change Reads command [p] [a] Wished (if Out w then _ else _)
  by_cases hw : Out w
  · rw [if_pos hw]
    change Reads command [p] [a] Wished (.error (refusal w))
    rw [hrefusal]
    exact .refusal (.here ⟨name, limit, hlimit, hout.mp hw⟩) hlimit
  · rw [if_neg hw]
    refine .value (.cons ?_ .nil) (h hw)
    rintro ⟨_, _, hother, hnot⟩
    cases hlimit.symm.trans hother
    exact hw (hout.mpr hnot)

end Reads

/-! ### One argument -/

section Accessors

variable {values : List Osc.Arg} {n : Nat} {name : String} {v : Int32}

lemma allows_int {low : Int} {high : Option Int} :
    (Limit.integer low high).Allows (.int v) ↔
      low ≤ v.toInt ∧ ∀ top, high = some top → v.toInt ≤ top := by
  simp [Limit.Allows, Osc.Arg.number?]

lemma exceeded_within {low high : Int} :
    (Parameter.within name low high).Exceeded (.int v) ↔ ¬(low ≤ v.toInt ∧ v.toInt ≤ high) := by
  simp [Parameter.Exceeded, Parameter.within, allows_int]

lemma int_eq (h : values[n]? = some (.int v)) : Arguments.int ⟨command, values⟩ n = .ok v := by
  simp only [Arguments.int, h]

lemma float_eq {x : Binary32} (h : values[n]? = some (.float x)) :
    Arguments.float ⟨command, values⟩ n = .ok x := by
  simp only [Arguments.float, h]

lemma text_eq {s : String} (h : values[n]? = some (.string s)) :
    Arguments.text ⟨command, values⟩ n = .ok s := by
  simp only [Arguments.text, h]

lemma integer_eq (h : values[n]? = some a) (ha : OfKind .integer a) :
    ∃ w, Arguments.integer ⟨command, values⟩ n = .ok w ∧ a.number? = some w.toInt ∧
      a.offending = .integer w.toInt := by
  cases ha with
  | narrow v =>
    refine ⟨v.toInt64, by simp only [Arguments.integer, h], ?_⟩
    rw [Int32.toInt_toInt64]
    exact ⟨rfl, rfl⟩
  | wide v => exact ⟨v, by simp only [Arguments.integer, h], rfl, rfl⟩

lemma reads_int (h : values[n]? = some (.int v)) :
    Reads command [.free .int32] [.int v] (· = v) (Arguments.int ⟨command, values⟩ n) := by
  rw [int_eq h]
  exact .free rfl rfl

lemma reads_float {x : Binary32} (h : values[n]? = some (.float x)) :
    Reads command [.free .float] [.float x] (· = x) (Arguments.float ⟨command, values⟩ n) := by
  rw [float_eq h]
  exact .free rfl rfl

lemma reads_text {s : String} (h : values[n]? = some (.string s)) :
    Reads command [.free .text] [.string s] (· = s) (Arguments.text ⟨command, values⟩ n) := by
  rw [text_eq h]
  exact .free rfl rfl

lemma reads_integer (h : values[n]? = some a) (ha : OfKind .integer a) :
    Reads command [.free .integer] [a] (fun w => a.number? = some w.toInt)
      (Arguments.integer ⟨command, values⟩ n) := by
  obtain ⟨w, hw, hnumber, _⟩ := integer_eq h ha
  rw [hw]
  exact .free rfl hnumber

lemma reads_index (h : values[n]? = some (.int v)) :
    Reads command [.index name] [.int v] (fun i => (i.toNat : Int) = v.toInt)
      (Arguments.index ⟨command, values⟩ n name) := by
  have hlimit : (Parameter.index name).limit = some (name, .integer 0 none) := rfl
  rw [Arguments.index]
  refine Reads.guarded (int_eq h) hlimit ?_ rfl fun hv => ?_
  · simp [allows_int, Int32.lt_iff_toInt_lt]
  · have hle : 0 ≤ v := Int32.not_lt.mp hv
    rw [Int32.toNat_toUInt32_of_le hle]
    have hle' := Int32.le_iff_toInt_le.mp hle
    exact Int.toNat_of_nonneg hle'

lemma reads_intIn (h : values[n]? = some (.int v)) (low high : Int32) :
    Reads command [.within name low.toInt (high.toInt - 1)] [.int v]
      (fun w => w = v ∧ low ≤ v ∧ v < high) (Arguments.intIn ⟨command, values⟩ n name low high) := by
  have hexceeded : (Parameter.within name low.toInt (high.toInt - 1)).Exceeded (.int v) ↔
      ¬(low ≤ v ∧ v < high) := by
    rw [exceeded_within, Int32.le_iff_toInt_le, Int32.lt_iff_toInt_lt]
    omega
  rw [Arguments.intIn, int_eq h]
  change Reads _ _ _ _ (if low ≤ v ∧ v < high then _ else _)
  by_cases hv : low ≤ v ∧ v < high
  · rw [if_pos hv]
    exact .value (.cons (fun hout => hexceeded.mp hout hv) .nil) ⟨rfl, hv⟩
  · rw [if_neg hv]
    exact .refusal (.here (hexceeded.mpr hv)) rfl

lemma reads_unsigned (h : values[n]? = some a) (ha : OfKind .integer a) :
    Reads command [.unsigned name] [a] (fun w => a.number? = some (w.toNat : Int))
      (Arguments.unsigned ⟨command, values⟩ n name) := by
  obtain ⟨w, hw, hnumber, hoffending⟩ := integer_eq h ha
  have hlimit : (Parameter.unsigned name).limit = some (name, .integer 0 none) := rfl
  rw [Arguments.unsigned]
  refine Reads.guarded hw hlimit ?_ ?_ fun hv => ?_
  · simp [Limit.Allows, hnumber, Int64.lt_iff_toInt_lt]
  · rw [hoffending]
    rfl
  · have hle : 0 ≤ w := Int64.not_lt.mp hv
    have hle' := Int64.le_iff_toInt_le.mp hle
    rw [hnumber, Int64.toNat_toUInt64_of_le hle]
    exact congrArg some (Int.toNat_of_nonneg hle').symm

lemma reads_label {s : String} (h : values[n]? = some (.string s)) :
    Reads command [.label name] [.string s] (· = s) (Arguments.label ⟨command, values⟩ n name) := by
  have hlimit : (Parameter.label name).limit = some (name, .notEmpty) := rfl
  rw [Arguments.label]
  refine Reads.guarded (text_eq h) hlimit ?_ rfl fun _ => rfl
  simp [Limit.Allows]

end Accessors

/-- Checked arguments are settled as they are read. -/
lemma settles_check {read : Arguments → Except Refusal α}
    (hread : List.Forall₂ OfKind (ps.map Parameter.kind) args →
      Reads command ps args Wished (read ⟨command, args⟩)) :
    Settles command ps args Wished
      (Arguments.check command (ps.map Parameter.kind) args >>= read) := by
  rw [Arguments.check, List.length_map]
  by_cases hcount : args.length = ps.length
  · rw [if_neg (not_not_intro hcount)]
    rcases mismatch?_cases hcount 0 with ⟨hnone, htyped⟩ | ⟨n, p, a, hwrong, hsome⟩
    · have hkinds : List.Forall₂ OfKind (ps.map Parameter.kind) args := by
        rw [List.forall₂_map_left_iff]
        exact htyped.imp fun p a hp => ofKind_of_accepts (not_not.mp hp)
      rw [hnone]
      have hread := hread hkinds
      change Settles command ps args Wished (read ⟨command, args⟩)
      generalize read ⟨command, args⟩ = y at hread ⊢
      cases hread with
      | value allowed wished =>
        exact .accepted (List.Forall₂.mp (fun _ _ => And.intro) htyped allowed) wished
      | refusal exceeding named => exact .refused (.outOfRange htyped exceeding named)
    · rw [hsome, Nat.zero_add]
      exact .refused (.argType hcount hwrong)
  · rw [if_pos hcount]
    exact .refused (.arity hcount)

end Reading

end RackRemote.Proofs

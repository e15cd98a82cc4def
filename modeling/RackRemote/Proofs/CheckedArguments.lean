import RackRemote.Proofs.Parameters

/-!
# Checked arguments

`Arguments.check` refuses arguments for their count or for the leftmost one of a wrong kind, and passes
all others on as they are. It looks at type tags, while the readers look at the arguments themselves;
the two agree, so that an argument that has been checked is read as its exact value or refused for its
range, but never for its type.
-/

namespace RackRemote.Proofs

/-- What comes of checking arguments against declared kinds. -/
inductive Checked (command : String) (signature : List ArgKind) (args : List Osc.Arg) :
    Except Refusal Arguments → Prop where
  | arity (count : args.length ≠ signature.length) :
      Checked command signature args (.error (.arity command signature.length args.length))
  | argType {n : Nat} {kind : ArgKind} {a : Osc.Arg} (count : args.length = signature.length)
      (declared : signature[n]? = some kind) (given : args[n]? = some a)
      (wrong : ¬kind.accepts a.typeTag)
      (first : ∀ k < n, ∀ other b, signature[k]? = some other → args[k]? = some b →
        other.accepts b.typeTag) :
      Checked command signature args (.error (.argType command n kind a.typeTag))
  | accepted (typed : List.Forall₂ (fun kind a => kind.accepts a.typeTag) signature args) :
      Checked command signature args (.ok ⟨command, args⟩)

/-- A reader gives a value if the argument is allowed, and else refuses it as out of range. -/
structure ReadsWithin {α : Type} (g : Arguments) (name : String) (allowed : Prop) (Exact : α → Prop)
    (shown : Offending) (x : Except Refusal α) : Prop where
  value : allowed → ∃ v, x = .ok v ∧ Exact v
  refusal : ¬allowed → x = .error (.outOfRange g.command name shown)

/-- An integer of either width is read as 64 bits, and as a number that is not negative if it is none. -/
structure ReadsInteger (g : Arguments) (n : Nat) (number : Int) : Prop where
  integer : ∃ w : Int64, w.toInt = number ∧ g.integer n = .ok w
  unsigned : ∀ name, ReadsWithin g name (0 ≤ number) (fun i : UInt64 => i.toNat = number)
    (.integer number) (g.unsigned n name)

/-- What the readers make of an argument of a kind at a place. -/
inductive Readable (g : Arguments) (n : Nat) : ArgKind → Osc.Arg → Prop where
  | int32 {v : Int32} (int : g.int n = .ok v)
      (index : ∀ name, ReadsWithin g name (0 ≤ v.toInt) (fun i : UInt32 => i.toNat = v.toInt)
        (.integer v.toInt) (g.index n name))
      (intIn : ∀ name low high, ReadsWithin g name (low ≤ v ∧ v < high) (· = v)
        (.integer v.toInt) (g.intIn n name low high))
      (integer : ReadsInteger g n v.toInt) : Readable g n .int32 (.int v)
  | int64 {v : Int64} (integer : ReadsInteger g n v.toInt) : Readable g n .int64 (.long v)
  | integer {a : Osc.Arg} {number : Int} (counts : a.number? = some number)
      (integer : ReadsInteger g n number) : Readable g n .integer a
  | float {v : Binary32} (float : g.float n = .ok v) : Readable g n .float (.float v)
  | text {s : String} (text : g.text n = .ok s)
      (label : ∀ name, ReadsWithin g name (s ≠ "") (· = s) .emptyText (g.label n name)) :
      Readable g n .text (.string s)

/-- The readers for arguments of a kind. -/
inductive ReaderOf (g : Arguments) (n : Nat) : ArgKind → {α : Type} → Except Refusal α → Prop where
  | int : ReaderOf g n .int32 (g.int n)
  | index (name : String) : ReaderOf g n .int32 (g.index n name)
  | intIn (name : String) (low high : Int32) : ReaderOf g n .int32 (g.intIn n name low high)
  | integer {kind : ArgKind} (counts : kind = .int64 ∨ kind = .integer) :
      ReaderOf g n kind (g.integer n)
  | unsigned {kind : ArgKind} (counts : kind = .int32 ∨ kind = .int64 ∨ kind = .integer)
      (name : String) : ReaderOf g n kind (g.unsigned n name)
  | float : ReaderOf g n .float (g.float n)
  | text : ReaderOf g n .text (g.text n)
  | label (name : String) : ReaderOf g n .text (g.label n name)

/-! ### Checking -/

section Checking

variable {command : String} {signature : List ArgKind} {args : List Osc.Arg}

lemma checked_check : Checked command signature args (Arguments.check command signature args) := by
  rw [Arguments.check]
  by_cases hcount : args.length = signature.length
  · have hkinds : (signature.map Parameter.free).map Parameter.kind = signature := by
      rw [List.map_map]
      exact List.map_id signature
    have hcount' : args.length = (signature.map Parameter.free).length := by
      rw [hcount, List.length_map]
    have hcases := mismatch?_cases hcount' 0
    rw [hkinds] at hcases
    rw [if_neg (not_not_intro hcount)]
    rcases hcases with ⟨hnone, htyped⟩ | ⟨n, p, a, hwrong, hsome⟩
    · rw [hnone]
      exact .accepted ((List.forall₂_map_left_iff.mp htyped).imp fun _ _ h => not_not.mp h)
    · rw [hsome, Nat.zero_add]
      have hdeclared := hwrong.parameter
      rw [List.getElem?_map, Option.map_eq_some_iff] at hdeclared
      obtain ⟨kind, hkind, rfl⟩ := hdeclared
      refine .argType hcount hkind hwrong.argument hwrong.bad fun k hk other b hother hb => ?_
      refine not_not.mp (hwrong.first k hk (.free other) b ?_ hb)
      rw [List.getElem?_map, hother]
      rfl
  · rw [if_pos hcount]
    exact .arity hcount

/-- Arguments that are all of their kinds have none of a wrong kind. -/
lemma accepts_of_typed
    (h : List.Forall₂ (fun kind a => ArgKind.accepts kind a.typeTag) signature args) {n : Nat}
    {kind : ArgKind} {a : Osc.Arg} (hkind : signature[n]? = some kind) (ha : args[n]? = some a) :
    kind.accepts a.typeTag := by
  obtain ⟨hn, rfl⟩ := List.getElem?_eq_some_iff.mp hkind
  obtain ⟨hn', rfl⟩ := List.getElem?_eq_some_iff.mp ha
  exact (List.forall₂_iff_get.mp h).2 n hn hn'

lemma Checked.unique {r r' : Except Refusal Arguments} (h : Checked command signature args r)
    (h' : Checked command signature args r') : r = r' := by
  cases h with
  | arity count =>
    cases h' with
    | arity => rfl
    | argType count' => exact absurd count' count
    | accepted typed => exact absurd typed.length_eq.symm count
  | @argType n kind a count declared given wrong first =>
    cases h' with
    | arity count' => exact absurd count count'
    | @argType n' kind' a' _ declared' given' wrong' first' =>
      rcases Nat.lt_trichotomy n n' with hlt | rfl | hlt
      · exact absurd (first' n hlt kind a declared given) wrong
      · cases declared.symm.trans declared'
        cases given.symm.trans given'
        rfl
      · exact absurd (first n' hlt kind' a' declared' given') wrong'
    | accepted typed => exact absurd (accepts_of_typed typed declared given) wrong
  | accepted typed =>
    cases h' with
    | arity count => exact absurd typed.length_eq.symm count
    | argType _ declared given wrong => exact absurd (accepts_of_typed typed declared given) wrong
    | accepted => rfl

lemma check_eq_iff {r : Except Refusal Arguments} :
    Arguments.check command signature args = r ↔ Checked command signature args r := by
  refine ⟨?_, checked_check.unique⟩
  rintro rfl
  exact checked_check

end Checking

/-! ### Reading -/

section Reading

variable {g : Arguments} {n : Nat}

lemma Reads.readsWithin {α : Type} {p : Parameter} {a : Osc.Arg} {name : String} {limit : Limit}
    {Exact : α → Prop} {x : Except Refusal α} (h : Reads g.command [p] [a] Exact x)
    (hlimit : p.limit = some (name, limit)) :
    ReadsWithin g name (limit.Allows a) Exact a.offending x := by
  cases h with
  | @value v allowed wished =>
    refine ⟨fun _ => ⟨v, rfl, wished⟩, fun hout => ?_⟩
    have hfine : ¬p.Exceeded a := (List.forall₂_cons.mp allowed).1
    exact absurd ⟨name, limit, hlimit, hout⟩ hfine
  | refusal exceeding named =>
    obtain ⟨rfl, rfl, name', limit', hlimit', hout⟩ := exceeding.singleton
    cases hlimit.symm.trans hlimit'
    cases hlimit.symm.trans named
    exact ⟨fun hallowed => absurd hallowed hout, fun _ => rfl⟩

lemma ReadsWithin.congr {α : Type} {name : String} {allowed allowed' : Prop} {Exact Exact' : α → Prop}
    {shown : Offending} {x : Except Refusal α} (h : ReadsWithin g name allowed Exact shown x)
    (hallowed : allowed ↔ allowed') (hexact : ∀ v, Exact v → Exact' v) :
    ReadsWithin g name allowed' Exact' shown x where
  value := by
    intro hfine
    obtain ⟨v, hv, hv'⟩ := h.value (hallowed.mpr hfine)
    exact ⟨v, hv, hexact v hv'⟩
  refusal := fun hout => h.refusal fun hfine => hout (hallowed.mp hfine)

lemma ofKind_of_number? {a : Osc.Arg} {number : Int} (h : a.number? = some number) :
    OfKind .integer a := by
  cases a with
  | int v => exact .narrow v
  | long v => exact .wide v
  | _ => cases h

lemma readsInteger {a : Osc.Arg} {number : Int} (ha : g.values[n]? = some a)
    (hnumber : a.number? = some number) : ReadsInteger g n number := by
  have hkind := ofKind_of_number? hnumber
  obtain ⟨w, hw, hnumber', hshown⟩ : ∃ w, g.integer n = .ok w ∧ a.number? = some w.toInt ∧
      a.offending = .integer w.toInt := integer_eq ha hkind
  obtain rfl : number = w.toInt := Option.some.inj (hnumber.symm.trans hnumber')
  refine ⟨⟨w, rfl, hw⟩, fun name => ?_⟩
  rw [← hshown]
  refine ((reads_unsigned ha hkind).readsWithin rfl).congr ?_ fun i hi => ?_
  · simp [Limit.Allows, hnumber]
  · exact Option.some.inj (hi.symm.trans hnumber)

lemma readable_of_ofKind {kind : ArgKind} {a : Osc.Arg} (ha : g.values[n]? = some a)
    (hkind : OfKind kind a) : Readable g n kind a := by
  cases hkind with
  | int32 v =>
    refine .int32 (int_eq ha) (fun name => ?_) (fun name low high => ?_) (readsInteger ha rfl)
    · exact ((reads_index ha).readsWithin rfl).congr (by simp [allows_int]) fun _ hi => hi
    · refine ((reads_intIn ha low high).readsWithin rfl).congr ?_ fun _ hw => hw.1
      rw [allows_int, Int32.le_iff_toInt_le, Int32.lt_iff_toInt_lt]
      simp only [Option.some.injEq, forall_eq']
      omega
  | int64 v => exact .int64 (readsInteger ha rfl)
  | float v => exact .float (float_eq ha)
  | text s => exact .text (text_eq ha) fun name => (reads_label ha).readsWithin rfl
  | narrow v => exact .integer rfl (readsInteger ha rfl)
  | wide v => exact .integer rfl (readsInteger ha rfl)

lemma ReadsWithin.refused {α : Type} {name : String} {allowed : Prop} {Exact : α → Prop}
    {shown : Offending} {x : Except Refusal α} (h : ReadsWithin g name allowed Exact shown x)
    {reason : Refusal} (hreason : x = .error reason) :
    ∃ name shown, reason = .outOfRange g.command name shown := by
  have hout : ¬allowed := by
    intro hfine
    obtain ⟨v, hv, _⟩ := h.value hfine
    cases hv.symm.trans hreason
  cases hreason.symm.trans (h.refusal hout)
  exact ⟨name, shown, rfl⟩

lemma ReadsInteger.integer_ne_error {number : Int} (h : ReadsInteger g n number) (reason : Refusal) :
    g.integer n ≠ .error reason := by
  obtain ⟨w, _, hw⟩ := h.integer
  intro hreason
  cases hw.symm.trans hreason

/-- No reader for a kind refuses an argument of this kind for its type. -/
lemma Readable.refusal {kind : ArgKind} {a : Osc.Arg} (h : Readable g n kind a) {α : Type}
    {x : Except Refusal α} (hx : ReaderOf g n kind x) {reason : Refusal} (hreason : x = .error reason) :
    ∃ name shown, reason = .outOfRange g.command name shown := by
  cases h with
  | int32 int index intIn integer =>
    cases hx with
    | int => cases int.symm.trans hreason
    | index name => exact (index name).refused hreason
    | intIn name low high => exact (intIn name low high).refused hreason
    | integer => exact absurd hreason (integer.integer_ne_error reason)
    | unsigned _ name => exact (integer.unsigned name).refused hreason
  | int64 integer =>
    cases hx with
    | integer => exact absurd hreason (integer.integer_ne_error reason)
    | unsigned _ name => exact (integer.unsigned name).refused hreason
  | integer _ integer =>
    cases hx with
    | integer => exact absurd hreason (integer.integer_ne_error reason)
    | unsigned _ name => exact (integer.unsigned name).refused hreason
  | float float =>
    cases hx with
    | float => cases float.symm.trans hreason
    | integer counts => rcases counts with counts | counts <;> cases counts
    | unsigned counts => rcases counts with counts | counts | counts <;> cases counts
  | text text label =>
    cases hx with
    | text => cases text.symm.trans hreason
    | label name => exact (label name).refused hreason
    | integer counts => rcases counts with counts | counts <;> cases counts
    | unsigned counts => rcases counts with counts | counts | counts <;> cases counts

end Reading

/-- Arguments are refused for their count or for the leftmost one of a wrong kind, and pass as they are
otherwise. Each one that has passed is then read as its exact value, or refused for its range by a reader
that has one; no reader for its kind refuses it for its type. -/
theorem declared_arguments_are_read (command : String) (signature : List ArgKind)
    (args : List Osc.Arg) :
    (∀ r, Arguments.check command signature args = r ↔ Checked command signature args r) ∧
      ∀ g, Arguments.check command signature args = .ok g →
        ∀ n kind, signature[n]? = some kind →
          ∃ a, args[n]? = some a ∧ Readable g n kind a ∧
            ∀ {α : Type} {x : Except Refusal α}, ReaderOf g n kind x → ∀ reason, x = .error reason →
              ∃ name shown, reason = .outOfRange command name shown := by
  refine ⟨fun r => check_eq_iff, fun g hg n kind hkind => ?_⟩
  cases check_eq_iff.mp hg with
  | accepted typed =>
    obtain ⟨hn, -⟩ := List.getElem?_eq_some_iff.mp hkind
    obtain ⟨a, ha⟩ : ∃ a, args[n]? = some a :=
      ⟨_, List.getElem?_eq_getElem (typed.length_eq ▸ hn)⟩
    have hreadable : Readable ⟨command, args⟩ n kind a :=
      readable_of_ofKind ha (ofKind_of_accepts (accepts_of_typed typed hkind ha))
    exact ⟨a, ha, hreadable, fun hx reason => hreadable.refusal hx⟩

/-- Both widths stand for the same number. An empty text is a text, but no label. An array is announced
by its opening bracket, and the boolean behind it is not looked at. -/
theorem declared_arguments_are_read_slots :
    let g : Arguments := ⟨"slots", [.int (-1), .long (-1), .string ""]⟩
    Arguments.check "slots" [.integer, .integer, .text] g.values = .ok g ∧
      g.integer 0 = .ok (-1) ∧ g.integer 1 = .ok (-1) ∧
      g.label 2 "name" = .error (.outOfRange "slots" "name" .emptyText) ∧
      Arguments.check "slots" [.integer, .float, .text] [.int 0, .array [.int 1], .bool false] =
        .error (.argType "slots" 1 .float '[') := by
  intro g
  obtain ⟨hchecked, hread⟩ :=
    declared_arguments_are_read "slots" [.integer, .integer, .text] g.values
  have hcheck : Arguments.check "slots" [.integer, .integer, .text] g.values = .ok g := by
    refine (hchecked _).mpr (.accepted ?_)
    exact .cons rfl (.cons rfl (.cons rfl .nil))
  have hinteger : ∀ {n a}, a.number? = some (-1) → Readable g n .integer a →
      g.integer n = .ok (-1) := by
    intro n a hnumber hreadable
    cases hreadable with
    | integer counts integer =>
      cases counts.symm.trans hnumber
      obtain ⟨w, hw, hinteger⟩ := integer.integer
      rw [hinteger, show w = -1 from Int64.toInt_inj.mp hw]
  refine ⟨hcheck, ?_, ?_, ?_, ?_⟩
  · obtain ⟨_, ha, hreadable, -⟩ := hread g hcheck 0 .integer rfl
    cases ha
    exact hinteger rfl hreadable
  · obtain ⟨_, ha, hreadable, -⟩ := hread g hcheck 1 .integer rfl
    cases ha
    exact hinteger rfl hreadable
  · obtain ⟨_, ha, hreadable, -⟩ := hread g hcheck 2 .text rfl
    cases ha
    cases hreadable with
    | text _ label => exact (label "name").refusal fun hfine => hfine rfl
  · obtain ⟨hmistyped, -⟩ := declared_arguments_are_read "slots" [.integer, .float, .text]
      [.int 0, .array [.int 1], .bool false]
    have hfirst : Checked "slots" [.integer, .float, .text] [.int 0, .array [.int 1], .bool false]
        (.error (.argType "slots" 1 .float (Osc.Arg.array [.int 1]).typeTag)) := by
      refine .argType rfl rfl rfl Bool.false_ne_true fun k hk other b hother hb => ?_
      obtain rfl : k = 0 := Nat.lt_one_iff.mp hk
      cases hother
      cases hb
      rfl
    exact (hmistyped _).mpr hfirst

end RackRemote.Proofs

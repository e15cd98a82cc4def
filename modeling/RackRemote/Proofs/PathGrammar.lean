import RackRemote.Proofs.Decisions
import RackRemote.Proofs.PacketCodec
import RackRemote.Proofs.RootNames

/-!
# The grammar of paths

`Leads` says, clause by clause, what a path leads to under a root name. `Route.ofBytes` reads the same
from the bytes of a path, where an index ends at an offset and a method starts at one. The reader of
characters, the reader of bytes and the grammar agree on every path, so that no method ever starts
inside a character.
-/

namespace RackRemote.Route

/-! ### Reading bytes -/

/-- What follows given bytes. -/
def afterBytes? (start bytes : List UInt8) : Option (List UInt8) :=
  if start <+: bytes then some (bytes.drop start.length) else none

/-- The text from an offset on. There is none behind the end or inside a character. -/
def textFrom? (bytes : List UInt8) (offset : Nat) : Option String :=
  if offset ≤ bytes.length then Osc.ofUtf8? (bytes.drop offset) else none

/-- Classifies the bytes that follow the root name, if every text starts at a character. -/
def ofPluginBytes (bytes : List UInt8) : Option Route :=
  match Index.decodeAt bytes 0 with
  | .error fault => some (.malformed fault)
  | .ok (index, next) =>
    match bytes[next]? with
    | none => some (.malformed .missingMethod)
    | some b =>
      if b ≠ 47 then some (.malformed .missingSeparator)
      else
        (textFrom? bytes (next + 1)).map fun text =>
          let method := text.toList.take maxMethodLength
          if method = [] then .malformed .missingMethod else .plugin index (String.ofList method)

/-- Classifies the bytes of a path, if every text starts at a character. -/
def ofBytes (path root : List UInt8) : Option Route :=
  if path = Osc.utf8 "/register" then some .register
  else if path = Osc.utf8 "/unregister" then some .unregister
  else
    match afterBytes? (Osc.utf8 "/ctrl/") path with
    | some [] => some (.malformed .missingMethod)
    | some name => (Osc.ofUtf8? name).map .control
    | none =>
      match ((afterBytes? (Osc.utf8 "/") path).bind (afterBytes? root)).bind
          (afterBytes? (Osc.utf8 "/")) with
      | some rest => ofPluginBytes rest
      | none => some .other

end RackRemote.Route

namespace RackRemote.Proofs
open Osc

/-! ### The grammar -/

/-- Digits in front of a text that does not start with one. -/
structure DigitsBefore (digits rest : String) : Prop where
  isDigit : ∀ c ∈ digits.toList, c.isDigit
  maximal : ∀ c, rest.toList.head? = some c → ¬c.isDigit

/-- What digits and a text behind them lead to when they follow the root name. -/
inductive LeadsOn (digits rest : String) : Route → Prop where
  | noIndex (empty : digits = "") : LeadsOn digits rest (.malformed .missingIndex)
  | longIndex (long : 4 ≤ digits.length) : LeadsOn digits rest (.malformed .indexTooLarge)
  | ended (nonempty : digits ≠ "") (short : digits.length ≤ 3) (ending : rest = "") :
      LeadsOn digits rest (.malformed .missingMethod)
  | unseparated {c : Char} (nonempty : digits ≠ "") (short : digits.length ≤ 3)
      (next : rest.toList.head? = some c) (other : c ≠ '/') :
      LeadsOn digits rest (.malformed .missingSeparator)
  | noMethod (nonempty : digits ≠ "") (short : digits.length ≤ 3) (separator : rest = "/") :
      LeadsOn digits rest (.malformed .missingMethod)
  | method {index : UInt32} {method : String} (spelled : Spells digits index.toNat)
      (separator : rest = "/" ++ method) (named : method ≠ "") :
      LeadsOn digits rest (.plugin index (String.ofList (method.toList.take 32)))

/-- The path is none of the fixed places, and no command of the host. -/
structure Unreserved (path : String) : Prop where
  register : path ≠ "/register"
  unregister : path ≠ "/unregister"
  command : ∀ name, path ≠ "/ctrl/" ++ name

/-- What a path leads to at a host with a root name. -/
inductive Leads (path root : String) : Route → Prop where
  | register (desk : path = "/register") : Leads path root .register
  | unregister (desk : path = "/unregister") : Leads path root .unregister
  | noCommand (bare : path = "/ctrl/") : Leads path root (.malformed .missingMethod)
  | command {name : String} (command : path = "/ctrl/" ++ name) (named : name ≠ "") :
      Leads path root (.control name)
  | plugin {digits rest : String} {r : Route} (unreserved : Unreserved path)
      (under : path = "/" ++ root ++ "/" ++ (digits ++ rest)) (split : DigitsBefore digits rest)
      (on : LeadsOn digits rest r) : Leads path root r
  | other (unreserved : Unreserved path) (elsewhere : ∀ rest, path ≠ "/" ++ root ++ "/" ++ rest) :
      Leads path root .other

/-! ### Behind the root name -/

lemma charDigit_eq_none {c : Char} (hc : ¬c.isDigit) : Index.charDigit c = none := by
  rw [Char.isDigit, Bool.and_eq_true, decide_eq_true_eq, decide_eq_true_eq] at hc
  exact if_neg hc

lemma exists_digitsBefore (l : List Char) :
    ∃ digits rest, DigitsBefore digits rest ∧ digits.toList ++ rest.toList = l := by
  obtain ⟨hdigits, hrest, hl⟩ := span_eq_iff.mp (Prod.eta (l.span Char.isDigit)).symm
  refine ⟨String.ofList (l.span Char.isDigit).1, String.ofList (l.span Char.isDigit).2, ?_⟩
  rw [String.toList_ofList, String.toList_ofList]
  refine ⟨⟨?_, ?_⟩, hl.symm⟩
  · rwa [String.toList_ofList]
  · rwa [String.toList_ofList]

namespace DigitsBefore

variable {digits rest : String} (h : DigitsBefore digits rest)
include h

lemma charDigit : ∀ c ∈ digits.toList, (Index.charDigit c).isSome := by
  intro c hc
  rw [charDigit_of_isDigit (h.isDigit c hc)]
  rfl

lemma digitRun :
    Proofs.digitRun Index.charDigit (digits.toList ++ rest.toList) =
      digits.toList.filterMap Index.charDigit := by
  cases hrest : rest.toList with
  | nil => rw [List.append_nil, Proofs.digitRun, List.takeWhile_eq_self_iff.mpr h.charDigit]
  | cons c l =>
    have hc : ¬c.isDigit := h.maximal c (by rw [hrest]; rfl)
    exact digitRun_append Index.charDigit h.charDigit (charDigit_eq_none hc) l

lemma decode :
    Index.decode Index.charDigit (digits.toList ++ rest.toList) =
      if 3 < digits.length then .error .indexTooLarge
      else if digits = "" then .error .missingIndex
      else .ok (indexValue digits, digits.length) := by
  have hlength := length_filterMap_digits Index.charDigit h.charDigit
  rw [String.length_toList] at hlength
  have hempty : digits.toList.filterMap Index.charDigit = [] ↔ digits = "" := by
    rw [← List.length_eq_zero_iff, hlength, ← String.length_toList, List.length_eq_zero_iff,
      String.toList_eq_nil_iff]
  rw [decode_eq, h.digitRun, hlength]
  simp only [hempty, maxIndexDigits]
  rfl

lemma spells (hsome : digits ≠ "") (hshort : digits.length ≤ 3) :
    Spells digits (indexValue digits).toNat := by
  obtain ⟨i, hspelled⟩ : ∃ i, Spells digits i := ⟨_, h.isDigit, hsome, hshort, rfl⟩
  have hvalue : i.toUInt32.toNat = i := UInt32.toNat_ofNat_of_lt (hspelled.lt.trans (by decide))
  rwa [hspelled.indexValue, hvalue]

lemma ofPluginPath (hsome : digits ≠ "") (hshort : digits.length ≤ 3) :
    Route.ofPluginPath (digits.toList ++ rest.toList) =
      match rest.toList with
      | [] => .malformed .missingMethod
      | c :: method =>
        if c ≠ '/' then .malformed .missingSeparator
        else if method = [] then .malformed .missingMethod
        else .plugin (indexValue digits) (String.ofList (method.take 32)) := by
  rw [Route.ofPluginPath, h.decode, if_neg (Nat.not_lt_of_le hshort), if_neg hsome]
  dsimp only
  rw [← String.length_toList, List.drop_left]
  rfl

lemma leadsOn_ofPluginPath :
    LeadsOn digits rest (Route.ofPluginPath (digits.toList ++ rest.toList)) := by
  by_cases hlong : 3 < digits.length
  · rw [Route.ofPluginPath, h.decode, if_pos hlong]
    exact .longIndex hlong
  have hshort := Nat.le_of_not_lt hlong
  by_cases hempty : digits = ""
  · rw [Route.ofPluginPath, h.decode, if_neg hlong, if_pos hempty]
    exact .noIndex hempty
  rw [h.ofPluginPath hempty hshort]
  cases hrest : rest.toList with
  | nil => exact .ended hempty hshort (String.toList_eq_nil_iff.mp hrest)
  | cons c method =>
    dsimp only
    by_cases hc : c ≠ '/'
    · rw [if_pos hc]
      exact .unseparated hempty hshort (by rw [hrest]; rfl) hc
    obtain rfl : c = '/' := not_not.mp hc
    rw [if_neg hc]
    by_cases hmethod : method = []
    · rw [if_pos hmethod]
      refine .noMethod hempty hshort (String.toList_inj.mp ?_)
      rw [hrest, hmethod]
      rfl
    · rw [if_neg hmethod]
      have hnamed : String.ofList method ≠ "" := by simpa using hmethod
      have hseparator : rest = "/" ++ String.ofList method := by
        rw [← String.toList_inj, hrest]
        simp [String.toList_append]
      have hleads := LeadsOn.method (h.spells hempty hshort) hseparator hnamed
      rwa [String.toList_ofList] at hleads

lemma ofPluginPath_of_leadsOn {r : Route} (hleads : LeadsOn digits rest r) :
    Route.ofPluginPath (digits.toList ++ rest.toList) = r := by
  cases hleads with
  | noIndex empty =>
    subst empty
    rw [Route.ofPluginPath, h.decode]
    rfl
  | longIndex long =>
    have hlong : 3 < digits.length := long
    rw [Route.ofPluginPath, h.decode, if_pos hlong]
  | ended nonempty short ending =>
    rw [h.ofPluginPath nonempty short, ending]
    rfl
  | @unseparated c nonempty short next other =>
    obtain ⟨l, hl⟩ : ∃ l, rest.toList = c :: l := List.head?_eq_some_iff.mp next
    rw [h.ofPluginPath nonempty short, hl]
    exact if_pos other
  | noMethod nonempty short separator =>
    rw [h.ofPluginPath nonempty short, separator]
    rfl
  | @method index method spelled separator named =>
    have hchars : method.toList ≠ [] := fun hnil => named (String.toList_eq_nil_iff.mp hnil)
    have hrest : rest.toList = '/' :: method.toList := by
      rw [separator]
      simp [String.toList_append]
    have hindex : indexValue digits = index := by
      rw [spelled.indexValue]
      exact UInt32.ofNat_toNat
    rw [h.ofPluginPath spelled.nonempty spelled.short, hrest]
    dsimp only
    rw [if_neg (not_not_intro rfl), if_neg hchars, hindex]

end DigitsBefore

/-! ### Whole paths -/

lemma toList_under (root rest : String) :
    ("/" ++ root ++ "/" ++ rest).toList = ('/' :: root.toList ++ ['/']) ++ rest.toList := by
  simp [String.toList_append]

lemma after?_command {path name : String} :
    Route.after? "/ctrl/".toList path.toList = some name.toList ↔ path = "/ctrl/" ++ name := by
  rw [after?_eq_some_iff, ← String.toList_append, String.toList_inj]

lemma Unreserved.ofPath {path : String} (h : Unreserved path) (root : String) :
    Route.ofPath path root =
      match Route.after? ('/' :: root.toList ++ ['/']) path.toList with
      | some rest => Route.ofPluginPath rest
      | none => .other := by
  have hcommand : Route.after? "/ctrl/".toList path.toList = none := by
    rw [Option.eq_none_iff_forall_ne_some]
    intro rest hrest
    rw [← String.toList_ofList (l := rest)] at hrest
    exact h.command _ (after?_command.mp hrest)
  rewrite [Route.ofPath, if_neg h.register, if_neg h.unregister, hcommand]
  rfl

lemma leads_ofPath (path root : String) : Leads path root (Route.ofPath path root) := by
  by_cases hregister : path = "/register"
  · rw [Route.ofPath, if_pos hregister]
    exact .register hregister
  by_cases hunregister : path = "/unregister"
  · rw [Route.ofPath, if_neg hregister, if_pos hunregister]
    exact .unregister hunregister
  by_cases hcommand : ∃ name, path = "/ctrl/" ++ name
  · obtain ⟨name, rfl⟩ := hcommand
    by_cases hempty : name = ""
    · subst hempty
      exact .noCommand rfl
    · rw [ofPath_command hempty]
      exact .command rfl hempty
  · have hfree : Unreserved path := ⟨hregister, hunregister, not_exists.mp hcommand⟩
    rw [hfree.ofPath]
    cases hafter : Route.after? ('/' :: root.toList ++ ['/']) path.toList with
    | none =>
      refine .other hfree fun rest hrest => ?_
      rw [after?_eq_none_iff] at hafter
      exact hafter rest.toList (by rw [hrest, toList_under])
    | some rest =>
      obtain ⟨digits, more, hsplit, rfl⟩ := exists_digitsBefore rest
      have hunder : path = "/" ++ root ++ "/" ++ (digits ++ more) := by
        rw [← String.toList_inj, toList_under, after?_eq_some hafter, String.toList_append]
      exact .plugin hfree hunder hsplit hsplit.leadsOn_ofPluginPath

lemma ofPath_of_leads {path root : String} {r : Route} (h : Leads path root r) :
    Route.ofPath path root = r := by
  cases h with
  | register desk => rw [Route.ofPath, if_pos desk]
  | unregister desk =>
    subst desk
    rw [Route.ofPath, if_neg (by decide), if_pos rfl]
  | noCommand bare =>
    subst bare
    rfl
  | command command named =>
    subst command
    exact ofPath_command named root
  | @plugin digits rest _ unreserved under split on =>
    have hafter : Route.after? ('/' :: root.toList ++ ['/']) path.toList =
        some (digits.toList ++ rest.toList) := by
      rw [after?_eq_some_iff, under, toList_under, String.toList_append]
    rw [unreserved.ofPath, hafter]
    exact split.ofPluginPath_of_leadsOn on
  | other unreserved elsewhere =>
    have hafter : Route.after? ('/' :: root.toList ++ ['/']) path.toList = none := by
      rw [after?_eq_none_iff]
      intro rest hrest
      apply elsewhere (String.ofList rest)
      rw [← String.toList_inj, toList_under, hrest, String.toList_ofList]
    rw [unreserved.ofPath, hafter]

/-! ### Bytes -/

/-- The bytes of some characters. -/
def encode (l : List Char) : List UInt8 := l.flatMap String.utf8EncodeChar

lemma encode_cons (c : Char) (l : List Char) :
    encode (c :: l) = String.utf8EncodeChar c ++ encode l := List.flatMap_cons

lemma encode_append (l m : List Char) : encode (l ++ m) = encode l ++ encode m :=
  List.flatMap_append

lemma ofUtf8?_encode (l : List Char) : ofUtf8? (encode l) = some (String.ofList l) := by
  have h := ofUtf8?_utf8 (String.ofList l)
  rwa [utf8_eq, String.toList_ofList] at h

lemma encode_injective {l m : List Char} (h : encode l = encode m) : l = m := by
  have hsame := congrArg ofUtf8? h
  rw [ofUtf8?_encode, ofUtf8?_encode] at hsame
  exact String.ofList_injective (Option.some.inj hsame)

/-- Where the bytes of some characters start with those of others, these characters stand in front. -/
lemma encode_isPrefix_iff {start l : List Char} : encode start <+: encode l ↔ start <+: l := by
  constructor
  · rintro ⟨bytes, h⟩
    refine List.isPrefix_of_utf8Encode_append_eq_utf8Encode bytes.toByteArray ?_
    rw [List.utf8Encode, List.utf8Encode, ← List.toByteArray_append]
    exact congrArg List.toByteArray h
  · rintro ⟨rest, rfl⟩
    exact ⟨encode rest, (encode_append start rest).symm⟩

lemma afterBytes?_encode (start l : List Char) :
    Route.afterBytes? (encode start) (encode l) = (Route.after? start l).map encode := by
  rw [Route.afterBytes?, Route.after?]
  by_cases h : start <+: l
  · rw [if_pos (encode_isPrefix_iff.mpr h), if_pos h]
    obtain ⟨rest, rfl⟩ := h
    rw [encode_append, List.drop_left, List.drop_left]
    rfl
  · rw [if_neg fun hp => h (encode_isPrefix_iff.mp hp), if_neg h]
    rfl

lemma utf8EncodeChar_narrow {c : Char} (hc : c.toNat < 128) :
    String.utf8EncodeChar c = [UInt8.ofNat c.toNat] := by
  have hc' : c.val.toNat ≤ 127 := Nat.le_of_lt_succ hc
  rw [String.utf8EncodeChar]
  exact if_pos hc'

lemma utf8EncodeChar_wide {c : Char} (hc : 128 ≤ c.toNat) :
    ∃ b bytes, String.utf8EncodeChar c = b :: bytes ∧ 128 ≤ b.toNat := by
  have hc' : 128 ≤ c.val.toNat := hc
  rw [String.utf8EncodeChar]
  split
  · omega
  · split
    · refine ⟨_, _, rfl, ?_⟩
      rw [UInt8.toNat_ofNat']
      omega
    · split
      · refine ⟨_, _, rfl, ?_⟩
        rw [UInt8.toNat_ofNat']
        omega
      · refine ⟨_, _, rfl, ?_⟩
        rw [UInt8.toNat_ofNat']
        omega

lemma byteDigit_narrow {c : Char} (hc : c.toNat < 128) :
    Index.byteDigit (UInt8.ofNat c.toNat) = Index.charDigit c := by
  have hb : (UInt8.ofNat c.toNat).toNat = c.toNat := by
    rw [UInt8.toNat_ofNat']
    omega
  have hlow : 48 ≤ UInt8.ofNat c.toNat ↔ '0' ≤ c := by
    rw [UInt8.le_iff_toNat_le, hb]
    rfl
  have hhigh : UInt8.ofNat c.toNat ≤ 57 ↔ c ≤ '9' := by
    rw [UInt8.le_iff_toNat_le, hb]
    rfl
  rw [Index.byteDigit, Index.charDigit, hb]
  simp only [hlow, hhigh]

lemma byteDigit_wide {b : UInt8} (hb : 128 ≤ b.toNat) : Index.byteDigit b = none := by
  refine if_neg fun hdigit => ?_
  have hle : b.toNat ≤ 57 := hdigit.2
  omega

lemma charDigit_wide {c : Char} (hc : 128 ≤ c.toNat) : Index.charDigit c = none := by
  refine if_neg fun hdigit => ?_
  have hle : c.toNat ≤ 57 := hdigit.2
  omega

/-- The digits in front of a text are those in front of its bytes. -/
lemma digitRun_encode (l : List Char) :
    digitRun Index.byteDigit (encode l) = digitRun Index.charDigit l := by
  induction l with
  | nil => rfl
  | cons c l ih =>
    rw [encode_cons]
    by_cases hc : c.toNat < 128
    · rw [utf8EncodeChar_narrow hc, List.singleton_append]
      have hdigit := byteDigit_narrow hc
      cases hd : Index.charDigit c with
      | none =>
        rw [digitRun_cons_none _ hd, digitRun_cons_none _ (hdigit.trans hd)]
      | some d =>
        rw [digitRun_cons_some _ hd, digitRun_cons_some _ (hdigit.trans hd), ih]
    · have hc := Nat.le_of_not_lt hc
      obtain ⟨b, bytes, hbytes, hb⟩ := utf8EncodeChar_wide hc
      rw [hbytes, List.cons_append, digitRun_cons_none _ (byteDigit_wide hb),
        digitRun_cons_none _ (charDigit_wide hc)]

lemma decodeAt_encode (l : List Char) :
    Index.decodeAt (encode l) 0 = Index.decode Index.charDigit l := by
  have hdecode : Index.decode Index.byteDigit (encode l) = Index.decode Index.charDigit l := by
    rw [decode_eq, decode_eq, digitRun_encode]
  rw [Index.decodeAt, List.drop_zero, hdecode]
  cases Index.decode Index.charDigit l with
  | error fault => rfl
  | ok read => exact congrArg (fun width => Except.ok (read.1, width)) (Nat.zero_add read.2)

lemma narrow_of_isDigit {c : Char} (hc : c.isDigit) : c.toNat < 128 := by
  by_contra hwide
  have hnone := charDigit_wide (Nat.le_of_not_lt hwide)
  rw [charDigit_of_isDigit hc] at hnone
  cases hnone

/-- Digits are single bytes. -/
lemma encode_of_isDigit {l : List Char} (hl : ∀ c ∈ l, c.isDigit) :
    encode l = l.map fun c => UInt8.ofNat c.toNat := by
  induction l with
  | nil => rfl
  | cons c l ih =>
    obtain ⟨hc, hl⟩ := List.forall_mem_cons.mp hl
    rw [encode_cons, utf8EncodeChar_narrow (narrow_of_isDigit hc), ih hl]
    rfl

lemma length_encode_of_digits {l : List Char} (hl : ∀ c ∈ l, c.isDigit) :
    (encode l).length = l.length := by
  rw [encode_of_isDigit hl, List.length_map]

lemma head?_encode_eq_slash (c : Char) (l : List Char) :
    ∃ b, (encode (c :: l)).head? = some b ∧ (b = 47 ↔ c = '/') := by
  rw [encode_cons]
  by_cases hc : c.toNat < 128
  · refine ⟨UInt8.ofNat c.toNat, by rw [utf8EncodeChar_narrow hc]; rfl, ?_⟩
    rw [← UInt8.toNat_inj, UInt8.toNat_ofNat', ← Char.toNat_inj]
    change c.toNat % 256 = 47 ↔ c.toNat = 47
    omega
  · have hc := Nat.le_of_not_lt hc
    obtain ⟨b, bytes, hbytes, hb⟩ := utf8EncodeChar_wide hc
    refine ⟨b, by rw [hbytes]; rfl, ?_⟩
    rw [← UInt8.toNat_inj, ← Char.toNat_inj]
    change b.toNat = 47 ↔ c.toNat = 47
    omega

lemma textFrom?_encode (l m : List Char) :
    Route.textFrom? (encode (l ++ m)) (encode l).length = some (String.ofList m) := by
  have hinside : (encode l).length ≤ (encode (l ++ m)).length := by
    rw [encode_append, List.length_append]
    omega
  rw [Route.textFrom?, if_pos hinside, encode_append, List.drop_left, ofUtf8?_encode]

lemma DigitsBefore.ofPluginBytes {digits rest : String} (h : DigitsBefore digits rest) :
    Route.ofPluginBytes (encode (digits.toList ++ rest.toList)) =
      some (Route.ofPluginPath (digits.toList ++ rest.toList)) := by
  have hwidth : (encode digits.toList).length = digits.length := by
    rw [length_encode_of_digits h.isDigit, String.length_toList]
  have hnext : (encode (digits.toList ++ rest.toList))[digits.length]? =
      (encode rest.toList).head? := by
    rw [encode_append, ← hwidth, List.getElem?_append_right (Nat.le_refl _), Nat.sub_self,
      List.head?_eq_getElem?]
  rw [Route.ofPluginBytes, decodeAt_encode]
  by_cases hlong : 3 < digits.length
  · rw [Route.ofPluginPath, h.decode, if_pos hlong]
  by_cases hempty : digits = ""
  · rw [Route.ofPluginPath, h.decode, if_neg hlong, if_pos hempty]
  rw [h.ofPluginPath hempty (Nat.le_of_not_lt hlong), h.decode, if_neg hlong, if_neg hempty]
  dsimp only
  rw [hnext]
  cases hrest : rest.toList with
  | nil => rfl
  | cons c method =>
    obtain ⟨b, hb, hslash⟩ := head?_encode_eq_slash c method
    rw [hb]
    dsimp only
    by_cases hc : c = '/'
    · subst hc
      have hbehind : (encode (digits.toList ++ ['/'])).length = digits.length + 1 := by
        rw [encode_append, List.length_append, hwidth]
        rfl
      have htext := textFrom?_encode (digits.toList ++ ['/']) method
      rw [hbehind, List.append_assoc, List.singleton_append] at htext
      rw [if_neg (not_not_intro (hslash.mpr rfl)), htext, if_neg (not_not_intro rfl)]
      cases method with
      | nil => rfl
      | cons d method =>
        rw [Option.map_some, String.toList_ofList]
        rfl
    · rw [if_pos fun hb => hc (hslash.mp hb), if_pos hc]

lemma ofPluginBytes_encode (l : List Char) :
    Route.ofPluginBytes (encode l) = some (Route.ofPluginPath l) := by
  obtain ⟨digits, rest, h, rfl⟩ := exists_digitsBefore l
  exact h.ofPluginBytes

lemma after?_append_start (first second l : List Char) :
    Route.after? (first ++ second) l = (Route.after? first l).bind (Route.after? second) := by
  refine Option.ext fun rest => ?_
  rw [Option.bind_eq_some_iff]
  simp only [after?_eq_some_iff]
  constructor
  · rintro rfl
    exact ⟨second ++ rest, List.append_assoc .., rfl⟩
  · rintro ⟨_, rfl, rfl⟩
    exact (List.append_assoc ..).symm

lemma afterBytes?_utf8 (start : String) (l : List Char) :
    Route.afterBytes? (utf8 start) (encode l) = (Route.after? start.toList l).map encode := by
  rw [utf8_eq]
  exact afterBytes?_encode start.toList l

lemma bind_afterBytes?_utf8 (s : String) (o : Option (List Char)) :
    (o.map encode).bind (Route.afterBytes? (utf8 s)) =
      (o.bind (Route.after? s.toList)).map encode := by
  cases o with
  | none => rfl
  | some l => exact afterBytes?_utf8 s l

/-- What stands behind the root name is found among the bytes, piece by piece. -/
lemma afterBytes?_root (root : String) (l : List Char) :
    ((Route.afterBytes? (utf8 "/") (encode l)).bind (Route.afterBytes? (utf8 root))).bind
      (Route.afterBytes? (utf8 "/")) =
        (Route.after? ('/' :: root.toList ++ ['/']) l).map encode := by
  rw [after?_append_start, ← List.singleton_append, after?_append_start, afterBytes?_utf8,
    bind_afterBytes?_utf8, bind_afterBytes?_utf8]
  rfl

lemma utf8_inj {s t : String} : utf8 s = utf8 t ↔ s = t := by
  refine ⟨fun h => String.toList_inj.mp (encode_injective ?_), congrArg utf8⟩
  rwa [utf8_eq, utf8_eq] at h

/-- A path is read from its bytes as from its characters. -/
lemma ofBytes_utf8 (path root : String) :
    Route.ofBytes (utf8 path) (utf8 root) = some (Route.ofPath path root) := by
  rw [Route.ofBytes, Route.ofPath]
  simp only [utf8_inj]
  by_cases hregister : path = "/register"
  · rw [if_pos hregister, if_pos hregister]
  by_cases hunregister : path = "/unregister"
  · rw [if_neg hregister, if_pos hunregister, if_neg hregister, if_pos hunregister]
  rw [if_neg hregister, if_neg hunregister, if_neg hregister, if_neg hunregister,
    show utf8 path = encode path.toList from utf8_eq path, afterBytes?_root, afterBytes?_utf8]
  cases Route.after? "/ctrl/".toList path.toList with
  | some name =>
    cases name with
    | nil => rfl
    | cons c name =>
      obtain ⟨b, hb, _⟩ := head?_encode_eq_slash c name
      obtain ⟨bytes, hbytes⟩ := List.head?_eq_some_iff.mp hb
      rw [Option.map_some, hbytes]
      dsimp only
      rw [← hbytes, ofUtf8?_encode]
      rfl
  | none =>
    cases Route.after? ('/' :: root.toList ++ ['/']) path.toList with
    | some rest => exact ofPluginBytes_encode rest
    | none => rfl

/-- A path leads to a place if and only if the grammar says so, and reading its bytes one by one gives
the same: every text that is cut out of them starts at a character. -/
theorem path_is_read_by_its_grammar (path root : String) :
    (∀ r, Route.ofPath path root = r ↔ Leads path root r) ∧
      Route.ofBytes (utf8 path) (utf8 root) = some (Route.ofPath path root) := by
  refine ⟨fun r => ⟨?_, ofPath_of_leads⟩, ofBytes_utf8 path root⟩
  rintro rfl
  exact leads_ofPath path root

end RackRemote.Proofs

import Mathlib.Data.List.TakeDrop
import RackRemote.Proofs.Scalars

/-!
# Settings read back

The file that is written for settings is read line by line: each line that says something is one
statement, and the statements together make up the tables from which the settings are taken.
-/

namespace RackRemote.Proofs
open Toml

/-! ### Keys -/

/-- A word that can be a key without quotes. -/
def Bare (w : String) : Prop := w.toList ≠ [] ∧ w.toList.all isBareKeyChar

instance (w : String) : Decidable (Bare w) :=
  inferInstanceAs (Decidable (w.toList ≠ [] ∧ w.toList.all isBareKeyChar))

namespace Bare

variable {w : String} (hw : Bare w)
include hw

lemma head {d : Char} (hd : isBareKeyChar d = false) (l : List Char) :
    (w.toList ++ l).head? ≠ some d := by
  obtain ⟨hne, hall⟩ := hw
  intro h
  rw [List.head?_append_of_ne_nil _ hne] at h
  have hbare := List.all_eq_true.mp hall d (List.mem_of_head? h)
  rw [hd] at hbare
  cases hbare

lemma skipBlanks (l : List Char) : skipBlanks (w.toList ++ l) = w.toList ++ l :=
  skipBlanks_eq (hw.head rfl l) (hw.head rfl l)

lemma span {l : List Char} (hl : l.takeWhile isBareKeyChar = []) :
    (w.toList ++ l).span isBareKeyChar = (w.toList, l) := by
  have hdrop : l.dropWhile isBareKeyChar = l := by
    have happend := List.takeWhile_append_dropWhile (p := isBareKeyChar) (l := l)
    rwa [hl, List.nil_append] at happend
  have hall := List.all_eq_true.mp hw.2
  rw [List.span_eq_takeWhile_dropWhile, List.takeWhile_append_of_pos hall, hl, List.append_nil,
    List.dropWhile_append_of_pos hall, hdrop]

lemma simpleKey {l : List Char} (hl : l.takeWhile isBareKeyChar = []) :
    simpleKey (w.toList ++ l) = some (w, l) := by
  have hline : lineText (w.toList ++ l) = none := by
    unfold lineText
    split
    · rename_i h
      exact absurd (congrArg List.head? h) (hw.head rfl l)
    · rename_i h
      exact absurd (congrArg List.head? h) (hw.head rfl l)
    · rfl
  obtain ⟨c, cs, hword⟩ := List.exists_cons_of_ne_nil hw.1
  have hname : String.ofList (c :: cs) = w := by rw [← hword, String.ofList_toList]
  rw [Toml.simpleKey, hline, hw.span hl, hword]
  dsimp only
  rw [hname]

/-- A key ends where something else stands, other than a dot. -/
lemma key {l : List Char} (hl : l.takeWhile isBareKeyChar = [])
    (hdot : (Toml.skipBlanks l).head? ≠ some '.') :
    key (w.toList ++ l) = some (⟨[], w⟩, Toml.skipBlanks l) := by
  have hparts : keyParts maxDepth (w.toList ++ l) = some ([w], Toml.skipBlanks l) := by
    rw [maxDepth, keyParts, hw.skipBlanks, hw.simpleKey hl, Option.bind_eq_bind, Option.bind_some]
    dsimp only
    split
    · rename_i hrest
      rw [hrest] at hdot
      exact absurd rfl hdot
    · rfl
  rw [Toml.key, hparts]
  rfl

lemma endOfLine? (l : List Char) : endOfLine? (w.toList ++ l) = none := by
  have hcomment : skipComment (w.toList ++ l) = w.toList ++ l := by
    unfold skipComment
    split
    · rename_i h
      exact absurd (congrArg List.head? h) (hw.head rfl l)
    · rfl
  have hfeed := hw.head (d := '\n') rfl l
  have hreturn := hw.head (d := '\r') rfl l
  obtain ⟨c, cs, hword⟩ := List.exists_cons_of_ne_nil hw.1
  rw [Toml.endOfLine?, hw.skipBlanks, hcomment]
  rw [hword, List.cons_append] at hfeed hreturn ⊢
  exact newline?_eq_none (fun h => hfeed (congrArg some h)) (fun h => hreturn (congrArg some h)) _

/-! ### Statements -/

lemma statement_pair {l : List Char} {v : Value} (hl : Denotes l v) (rest : List Char) :
    statement (w.toList ++ ' ' :: '=' :: ' ' :: (l ++ '\n' :: rest)) =
      some (.pair ⟨[], w⟩ v, '\n' :: rest) := by
  have hkey := hw.key (l := ' ' :: '=' :: ' ' :: (l ++ '\n' :: rest)) rfl
    (show some '=' ≠ some '.' by decide)
  have hafter : Toml.skipBlanks (' ' :: '=' :: ' ' :: (l ++ '\n' :: rest)) =
      ['='] ++ ' ' :: (l ++ '\n' :: rest) := rfl
  have hblank : Toml.skipBlanks (' ' :: (l ++ '\n' :: rest)) = l ++ '\n' :: rest := hl.start rest
  unfold statement
  split
  · rename_i h
    exact absurd (congrArg List.head? h) (hw.head rfl _)
  · rename_i h
    exact absurd (congrArg List.head? h) (hw.head rfl _)
  · rw [hkey, Option.bind_eq_bind, Option.bind_some, hafter]
    dsimp only
    rw [keyword?_append, Option.bind_eq_bind, Option.bind_some, hblank, hl.read]
    rfl

lemma statement_table (rest : List Char) :
    statement ('[' :: (w.toList ++ ']' :: rest)) = some (.table ⟨[], w⟩, rest) := by
  have hkey := hw.key (l := ']' :: rest) rfl (show some ']' ≠ some '.' by decide)
  have hafter : Toml.skipBlanks (']' :: rest) = [']'] ++ rest := rfl
  unfold statement
  split
  · rename_i h
    exact absurd (congrArg List.head? (List.cons.inj h).2) (hw.head rfl _)
  · rename_i h
    cases h
    rw [hkey, Option.bind_eq_bind, Option.bind_some, hafter]
    dsimp only
    rw [keyword?_append]
    rfl
  · rename_i h
    exact absurd rfl (h _)

end Bare

/-! ### Lines -/

/-- What a line of a document says, if it says anything. -/
inductive Says : List Char → Option Statement → Prop where
  | blank : Says [] none
  | statement {line : List Char} {st : Statement} :
    (∀ rest, skipBlanks (line ++ '\n' :: rest) = line ++ '\n' :: rest) →
    (∀ rest, endOfLine? (line ++ '\n' :: rest) = none) →
    (∀ rest, statement (line ++ '\n' :: rest) = some (st, '\n' :: rest)) → Says line (some st)

/-- A document with the given lines, each with what it says. -/
def document (lines : List (List Char × Option Statement)) : List Char :=
  lines.flatMap fun p => p.1 ++ ['\n']

lemma endOfLine?_feed (rest : List Char) : endOfLine? ('\n' :: rest) = some rest := rfl

lemma statements_blank (fuel : Nat) (rest : List Char) :
    statements (fuel + 1) ('\n' :: rest) = statements fuel rest := by
  have hstart : skipBlanks ('\n' :: rest) = '\n' :: rest := rfl
  rw [statements, hstart]
  dsimp only
  rw [endOfLine?_feed]

lemma document_cons (p : List Char × Option Statement)
    (lines : List (List Char × Option Statement)) :
    document (p :: lines) = p.1 ++ '\n' :: document lines := by
  rw [document, List.flatMap_cons, List.append_assoc]
  rfl

lemma length_le_document (lines : List (List Char × Option Statement)) :
    lines.length ≤ (document lines).length := by
  induction lines with
  | nil => exact Nat.le_refl 0
  | cons p lines ih =>
    rw [document_cons, List.length_append, List.length_cons, List.length_cons]
    omega

/-- A document is read as what its lines say. -/
lemma statements_document {lines : List (List Char × Option Statement)}
    (hlines : ∀ p ∈ lines, Says p.1 p.2) {fuel : Nat} (hfuel : lines.length ≤ fuel) :
    statements fuel (document lines) = some (lines.filterMap Prod.snd) := by
  induction lines generalizing fuel with
  | nil =>
    unfold statements
    rfl
  | cons p lines ih =>
    obtain ⟨line, said⟩ := p
    obtain ⟨hp, hlines⟩ := List.forall_mem_cons.mp hlines
    rw [List.length_cons] at hfuel
    obtain ⟨fuel, rfl⟩ : ∃ k, fuel = k + 1 := ⟨fuel - 1, by omega⟩
    have hrest := @ih hlines fuel (by omega)
    rw [document_cons]
    cases hp with
    | blank =>
      rw [List.nil_append, statements_blank, hrest]
      rfl
    | @statement _ st hstart hend hread =>
      unfold statements
      rw [hstart]
      split
      · rename_i hnil
        exact absurd hnil (by simp)
      · dsimp only
        rw [hend, hread]
        dsimp only [Option.bind_eq_bind, Option.bind_some]
        rw [endOfLine?_feed, Option.bind_some, hrest]
        rfl

def pairLine (w : String) (l : List Char) (v : Value) : List Char × Option Statement :=
  (w.toList ++ ' ' :: '=' :: ' ' :: l, some (.pair ⟨[], w⟩ v))

def headerLine (w : String) : List Char × Option Statement :=
  ('[' :: (w.toList ++ [']']), some (.table ⟨[], w⟩))

lemma says_pair {w : String} (hw : Bare w) {l : List Char} {v : Value} (hl : Denotes l v) :
    Says (pairLine w l v).1 (pairLine w l v).2 := by
  dsimp only [pairLine]
  apply Says.statement
  · intro rest
    rw [List.append_assoc]
    exact hw.skipBlanks _
  · intro rest
    rw [List.append_assoc]
    exact hw.endOfLine? _
  · intro rest
    rw [List.append_assoc]
    exact hw.statement_pair hl rest

lemma says_header {w : String} (hw : Bare w) : Says (headerLine w).1 (headerLine w).2 := by
  dsimp only [headerLine]
  apply Says.statement
  · intro rest
    rfl
  · intro rest
    rfl
  · intro rest
    rw [List.cons_append, List.append_assoc]
    exact hw.statement_table ('\n' :: rest)

/-! ### The lines of settings -/

def listenerLines (header : String) (l : Listener) : List (List Char × Option Statement) :=
  [([], none), headerLine header,
    pairLine "enabled" (Settings.boolText l.enabled).toList (.boolean l.enabled),
    pairLine "port" l.port.toNat.repr.toList (.integer l.port.toNat),
    pairLine "random" (Settings.boolText l.random).toList (.boolean l.random)]

def settingsLines (s : Settings) : List (List Char × Option Statement) :=
  pairLine "name" (written s.name.toList) (.string s.name) ::
    (listenerLines "tcp" s.tcp ++ listenerLines "udp" s.udp ++
      [([], none), headerLine "compat",
        pairLine "switch_plugins_first_slot" (Settings.boolText s.firstSlot).toList
          (.boolean s.firstSlot)])

lemma toToml_eq_document (s : Settings) : s.toToml.toList = document (settingsLines s) := by
  simp [Settings.toToml, Settings.listenerText, document, settingsLines, listenerLines, pairLine,
    headerLine]

lemma says_listenerLines {header : String} (hheader : Bare header) (l : Listener) :
    ∀ p ∈ listenerLines header l, Says p.1 p.2 := by
  have hport : l.port.toNat < 0x8000000000000000 := by
    have := l.port.toNat_lt
    omega
  simp only [listenerLines, List.forall_mem_cons]
  exact ⟨.blank, says_header hheader, says_pair (by decide) (denotes_boolText l.enabled),
    says_pair (by decide) (denotes_repr hport), says_pair (by decide) (denotes_boolText l.random),
    List.forall_mem_nil _⟩

lemma says_settingsLines (s : Settings) : ∀ p ∈ settingsLines s, Says p.1 p.2 := by
  simp only [settingsLines, List.forall_mem_cons, List.forall_mem_append]
  exact ⟨says_pair (by decide) (denotes_written s.name), ⟨says_listenerLines (by decide) s.tcp,
    says_listenerLines (by decide) s.udp⟩, .blank, says_header (by decide),
    says_pair (by decide) (denotes_boolText s.firstSlot), List.forall_mem_nil _⟩

/-! ### The tables of settings -/

def listenerTable (l : Listener) : Value :=
  .table .explicit [("enabled", .boolean l.enabled), ("port", .integer l.port.toNat),
    ("random", .boolean l.random)]

def settingsEntries (s : Settings) : Entries :=
  [("name", .string s.name), ("tcp", listenerTable s.tcp), ("udp", listenerTable s.udp),
    ("compat", .table .explicit [("switch_plugins_first_slot", .boolean s.firstSlot)])]

lemma foldlM_settingsLines (s : Settings) :
    ((settingsLines s).filterMap Prod.snd).foldlM Draft.add {} =
      some ⟨settingsEntries s, ["compat"]⟩ := by
  rfl

lemma read_toToml (s : Settings) : Toml.read s.toToml = some (settingsEntries s) := by
  have hstart : skipMark s.toToml.toList = document (settingsLines s) := by
    rw [toToml_eq_document]
    rfl
  have hread := statements_document (says_settingsLines s) (length_le_document (settingsLines s))
  rw [Toml.read, hstart, hread, Option.bind_eq_bind, Option.bind_some, foldlM_settingsLines]
  rfl

lemma readPort_toNat (p : UInt16) : Settings.readPort (.integer p.toNat) = some p := by
  have := p.toNat_lt
  rw [Settings.readPort, if_pos (by omega)]
  simp

lemma read_some {α : Type} (reader : Value → Option α) (dflt : α) (v : Value) :
    Settings.read reader dflt (some v) = reader v := rfl

lemma readBool_boolean (b : Bool) : Settings.readBool (.boolean b) = some b := rfl

/-- Where every member is given, defaults play no part. -/
lemma readListener_eq {v : Value} {member : String → Nat → Option Value} {l : Listener}
    (hmember : Settings.member? v = some member)
    (henabled : member "enabled" 0 = some (.boolean l.enabled))
    (hport : member "port" 1 = some (.integer l.port.toNat))
    (hrandom : member "random" 2 = some (.boolean l.random)) :
    Settings.readListener v = some l := by
  rw [Settings.readListener, hmember, Option.bind_eq_bind, Option.bind_some]
  extract_lets dflt
  rw [henabled, hport, hrandom, read_some, read_some, read_some, readBool_boolean,
    readBool_boolean, readPort_toNat]
  rfl

lemma readListener_listenerTable (l : Listener) :
    Settings.readListener (listenerTable l) = some l := readListener_eq rfl rfl rfl rfl

lemma ofEntries_settingsEntries (s : Settings) :
    Settings.ofEntries (settingsEntries s) = some s := by
  have hname : (settingsEntries s).lookup "name" = some (.string s.name) := rfl
  have htcp : (settingsEntries s).lookup "tcp" = some (listenerTable s.tcp) := rfl
  have hudp : (settingsEntries s).lookup "udp" = some (listenerTable s.udp) := rfl
  have hcompat : (settingsEntries s).lookup "compat" =
      some (.table .explicit [("switch_plugins_first_slot", .boolean s.firstSlot)]) := rfl
  rw [Settings.ofEntries, hname, htcp, hudp, hcompat, read_some, read_some, read_some, read_some,
    readListener_listenerTable, readListener_listenerTable]
  rfl

/-- What is written for settings is read back, and then found to be as they are found. -/
lemma ofToml_toToml (s : Settings) : Settings.ofToml s.toToml = s.check := by
  rw [Settings.ofToml, read_toToml, Option.bind_some, ofEntries_settingsEntries]

/-! ### Settings and documents -/

lemma check_eq_ok {s s' : Settings} : s.check = .ok s' ↔
    s = s' ∧ s.name ≠ "" ∧ '/' ∉ s.name.toList ∧ (s.tcp.enabled ∨ s.udp.enabled) := by
  have hempty : s.name.isEmpty = true ↔ s.name = "" := by simp
  have hslash : s.name.contains '/' = true ↔ '/' ∈ s.name.toList := by simp
  have hidle : (!s.tcp.enabled && !s.udp.enabled) = true ↔
      ¬(s.tcp.enabled ∨ s.udp.enabled) := by simp
  rw [Settings.check]
  split
  · rename_i h
    exact ⟨nofun, fun hs => absurd (hempty.mp h) hs.2.1⟩
  · rename_i hname
    split
    · rename_i h
      exact ⟨nofun, fun hs => absurd (hslash.mp h) hs.2.2.1⟩
    · rename_i hfree
      split
      · rename_i h
        exact ⟨nofun, fun hs => absurd hs.2.2.2 (hidle.mp h)⟩
      · rename_i hbusy
        rw [hempty] at hname
        rw [hslash] at hfree
        rw [hidle, not_not] at hbusy
        exact ⟨fun h => ⟨Except.ok.inj h, hname, hfree, hbusy⟩, fun h => congrArg _ h.1⟩

/-- The document that is written for the settings in a document. -/
def rewritten (t : String) : Except SettingsFault String := (Settings.ofToml t).map Settings.toToml

lemma check_of_ofToml {t : String} {s : Settings} (h : Settings.ofToml t = .ok s) :
    s.check = .ok s := by
  rw [Settings.ofToml] at h
  split at h
  · obtain ⟨rfl, hvalid⟩ := check_eq_ok.mp h
    exact h
  · cases h

/-- Settings with which a host can run are read back from the file that is written for them, whatever
characters their name has. Only such settings are ever read, so what is written for the settings in a
file is left as it is when the same is done once more. -/
theorem settings_are_read_back :
    (∀ s : Settings, s.check = .ok s ↔
      s.name ≠ "" ∧ '/' ∉ s.name.toList ∧ (s.tcp.enabled ∨ s.udp.enabled)) ∧
    (∀ s : Settings, s.check = .ok s → Settings.ofToml s.toToml = .ok s) ∧
    (∀ s : Settings, Settings.ofToml s.toToml = s.check) ∧
    (∀ t s, Settings.ofToml t = .ok s → s.check = .ok s) ∧
    ∀ t t', rewritten t = .ok t' → rewritten t' = .ok t' := by
  refine ⟨fun s => ?_, fun s hs => ?_, ofToml_toToml, fun t s => check_of_ofToml, ?_⟩
  · rw [check_eq_ok]
    exact ⟨And.right, fun h => ⟨rfl, h⟩⟩
  · rw [ofToml_toToml, hs]
  · intro t t' h
    rw [rewritten] at h ⊢
    cases hread : Settings.ofToml t with
    | error fault =>
      rw [hread] at h
      cases h
    | ok s =>
      rw [hread] at h
      cases h
      rw [ofToml_toToml, check_of_ofToml hread]
      rfl

/-- A name with both kinds of quotes in a row, a backslash and control characters. -/
theorem settings_are_read_back_quotes :
    let s : Settings :=
      { name := "\"\"\"\"'''\\ \t\r\n\x07\"\"", tcp := { enabled := false, port := 65535 },
        udp := { random := true }, firstSlot := true }
    s.check = .ok s ∧ Settings.ofToml s.toToml = .ok s ∧ rewritten s.toToml = .ok s.toToml := by
  intro s
  obtain ⟨hvalid, hread, _, _, hrewritten⟩ := settings_are_read_back
  have hs : s.check = .ok s := (hvalid s).mpr (by decide +kernel)
  have hfirst : rewritten s.toToml = .ok s.toToml := by
    rw [rewritten, hread s hs]
    rfl
  exact ⟨hs, hread s hs, hrewritten s.toToml s.toToml hfirst⟩

end RackRemote.Proofs

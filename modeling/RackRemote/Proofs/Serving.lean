import RackRemote.CommandLine
import RackRemote.Proofs.RootNames
import RackRemote.Proofs.SettingsFile

/-!
# Serving

A host runs with the settings in a file, some of them changed by options. What is wrong with these
settings is found before any listener is opened; behind that point there is a host, and it listens where
the file and the options say.
-/

namespace RackRemote

/-- The listener for a transport. -/
def Settings.listener (s : Settings) : Transport → Listener
  | .tcp => s.tcp
  | .udp => s.udp

namespace CommandLine

/-- The port that is given for a transport. -/
def Overrides.port (o : Overrides) : Transport → Option UInt16
  | .tcp => o.tcpPort
  | .udp => o.udpPort

/-- An option with its value attached. -/
def Flag.withValue (flag : Flag) (value : String) : String := "--" ++ flag.long ++ "=" ++ value

/-- The options that make some changes. -/
def Overrides.options (o : Overrides) : List String :=
  (o.name.map Flag.name.withValue).toList
    ++ (o.tcpPort.map fun p => Flag.tcpPort.withValue p.toNat.repr).toList
    ++ (o.udpPort.map fun p => Flag.udpPort.withValue p.toNat.repr).toList

end CommandLine

namespace Proofs
open CommandLine

/-! ### What is asked for -/

/-- What is read from a source, whether a host can run with it or not. -/
inductive ReadAs : Settings.Source → Except SettingsFault Settings → Prop where
  | missing : ReadAs .missing (.ok {})
  | directory : ReadAs .directory (.error .directory)
  | unreadable (reason : String) : ReadAs (.unreadable reason) (.error (.unreadable reason))
  | notText {bytes : List UInt8} (text : Osc.ofUtf8? bytes = none) :
    ReadAs (.file bytes) (.error .notText)
  | notSettings {bytes : List UInt8} {s : String} (text : Osc.ofUtf8? bytes = some s)
      (entries : (Toml.read s).bind Settings.ofEntries = none) :
    ReadAs (.file bytes) (.error .notSettings)
  | settings {bytes : List UInt8} {s : String} {file : Settings}
      (text : Osc.ofUtf8? bytes = some s)
      (entries : (Toml.read s).bind Settings.ofEntries = some file) :
    ReadAs (.file bytes) (.ok file)

/-- What keeps a host from running with some settings. -/
inductive Wrong (s : Settings) : InvalidSettings → Prop where
  | emptyName (empty : s.name = "") : Wrong s .emptyName
  | slashInName (slash : '/' ∈ s.name.toList) : Wrong s (.slashInName s.name)
  | noListener (named : s.name ≠ "") (whole : '/' ∉ s.name.toList)
      (idle : ∀ t, (s.listener t).enabled = false) : Wrong s .noListener

/-- Why nothing is served: there are no settings, a host cannot run with them as they are, or it cannot
run with them under the name that is given instead. -/
inductive Refused (o : Overrides) (source : Settings.Source) : SettingsFault → Prop where
  | unread {fault : SettingsFault} (read : ReadAs source (.error fault)) : Refused o source fault
  | file {file : Settings} {reason : InvalidSettings} (read : ReadAs source (.ok file))
      (wrong : Wrong file reason) : Refused o source (.invalid reason)
  | name {file : Settings} {reason : InvalidSettings} (read : ReadAs source (.ok file))
      (right : ∀ reason, ¬Wrong file reason)
      (wrong : Wrong { file with name := o.name.getD file.name } reason) :
    Refused o source (.invalid reason)

/-- The port that is asked for: the given one, any if the file leaves it to the system, or the one in
the file. -/
def askedPort : Option UInt16 → Listener → UInt16
  | some port, _ => port
  | none, l => if l.random then 0 else l.port

/-- A host that is served, and its settings, are what the file and the options say. -/
structure Keeps {κ : Type} (o : Overrides) (file s : Settings) (host : Host κ) : Prop where
  isRootName : isRootName host.setup.root
  root : host.setup.root = o.name.getD file.name
  firstSlot : host.setup.firstSlot = file.firstSlot
  listens : ports s ≠ []
  once : ((ports s).map Prod.fst).Nodup
  port : ∀ t port, (t, port) ∈ ports s ↔
    (file.listener t).enabled ∧ port = askedPort (o.port t) (file.listener t)

/-! ### Options -/

lemma equals_not_mem_long (flag : Flag) : '=' ∉ flag.long.toList := by cases flag <;> decide

lemma shape_withValue (flag : Flag) (value : String) :
    Shape.of (flag.withValue value) = .long flag.long (some value) := by
  have hchars : (flag.withValue value).toList =
      '-' :: '-' :: (flag.long.toList ++ '=' :: value.toList) := by
    simp [Flag.withValue]
  have hspan : (flag.long.toList ++ '=' :: value.toList).span (· != '=') =
      (flag.long.toList, '=' :: value.toList) := by
    refine span_eq_iff.mpr ⟨?_, by simp, rfl⟩
    intro c hc
    rw [bne_iff_ne]
    rintro rfl
    exact equals_not_mem_long flag hc
  obtain ⟨c, cs, hcons⟩ : ∃ c cs, flag.long.toList ++ '=' :: value.toList = c :: cs :=
    List.exists_cons_of_ne_nil (by simp)
  rw [hcons] at hchars hspan
  rw [Shape.of, hchars]
  simp only [hspan, String.ofList_toList]

/-- An option that takes a value is read together with the value attached to it. -/
lemma options_withValue {flags : List Flag} {flag : Flag} {g g' : Given} {value : String}
    (hfind : flags.find? (·.long == flag.long) = some flag) (hset : g.set flag value = some g')
    (rest : List String) :
    options flags g (flag.withValue value :: rest) = options flags g' rest := by
  rw [options, shape_withValue]
  dsimp only
  rw [Shape.flag?, hfind, Option.map_some]
  cases flag with
  | help => cases hset
  | _ =>
    dsimp only
    rw [hset]
    rfl

lemma readPort_repr (p : UInt16) : CommandLine.readPort p.toNat.repr = some p := by
  have hds := toDigits_isDigit p.toNat
  have hsign : Toml.sign (Nat.toDigits 10 p.toNat) = (false, Nat.toDigits 10 p.toNat) := by
    have hhead {c : Char} (hc : c.isDigit = false) :
        (Nat.toDigits 10 p.toNat).head? ≠ some c := by
      intro h
      rw [hds c (List.mem_of_head? h)] at hc
      cases hc
    exact sign_of_head (hhead rfl) (hhead rfl)
  have hnumber : ofDigits 10 (Nat.toDigits 10 p.toNat) = p.toNat := by
    rw [ofDigits_of_isDigit hds, Nat.ofDigitChars_ten_toDigits]
  have hdigits : ¬((Nat.toDigits 10 p.toNat).isEmpty ∨
      (Nat.toDigits 10 p.toNat).any fun c => !Toml.isDigit 10 c) := by
    simp only [List.isEmpty_iff, List.any_eq_true, Bool.not_eq_true']
    rintro (hnil | ⟨c, hc, hother⟩)
    · exact Nat.toDigits_ne_nil hnil
    · rw [isDigit_ten (hds c hc)] at hother
      cases hother
  have hvalue : p.toNat.toUInt16 = p := UInt16.ofNat_toNat
  rw [CommandLine.readPort, Nat.toList_repr, hsign]
  dsimp only
  rw [if_neg hdigits, hnumber, if_neg (by simp), if_pos p.toNat_lt, hvalue]

/-- The options of `serve`. -/
def serveFlags : List Flag := [.config, .name, .tcpPort, .udpPort, .help]

/-- Options that make some changes are read as these changes. -/
lemma parse_options (o : Overrides) : parse ("serve" :: o.options) = .ok ⟨none, .serve o⟩ := by
  obtain ⟨name, tcpPort, udpPort⟩ := o
  have hname (rest : List String) :
      options serveFlags {} ((name.map Flag.name.withValue).toList ++ rest) =
        options serveFlags { name } rest := by
    cases name with
    | none => rfl
    | some name => exact options_withValue rfl rfl rest
  have htcp (rest : List String) :
      options serveFlags { name }
          ((tcpPort.map fun p => Flag.tcpPort.withValue p.toNat.repr).toList ++ rest) =
        options serveFlags { name, tcpPort } rest := by
    cases tcpPort with
    | none => rfl
    | some p =>
      refine options_withValue rfl ?_ rest
      rw [Given.set, readPort_repr]
      rfl
  have hudp :
      options serveFlags { name, tcpPort }
          (udpPort.map fun p => Flag.udpPort.withValue p.toNat.repr).toList =
        .ok ({ name, tcpPort, udpPort }, []) := by
    cases udpPort with
    | none => rfl
    | some p =>
      refine (options_withValue rfl ?_ []).trans rfl
      rw [Given.set, readPort_repr]
      rfl
  have hoptions : lastOptions serveFlags (Overrides.options ⟨name, tcpPort, udpPort⟩) =
      .ok { name, tcpPort, udpPort } := by
    rw [lastOptions, Overrides.options, List.append_assoc, hname, htcp, hudp]
    rfl
  show (do
    let g ← lastOptions serveFlags (Overrides.options ⟨name, tcpPort, udpPort⟩)
    return (⟨g.config.or none, .serve ⟨g.name, g.tcpPort, g.udpPort⟩⟩ : Invocation)) = _
  rw [hoptions]
  rfl

/-! ### Valid settings -/

lemma check_of_wrong {s : Settings} {reason : InvalidSettings} (h : Wrong s reason) :
    s.check = .error (.invalid reason) := by
  cases h with
  | emptyName empty => rw [Settings.check, if_pos (by simp [empty])]
  | slashInName slash =>
    have hnamed : ¬s.name.isEmpty = true := by
      rw [String.isEmpty_iff]
      intro hempty
      rw [hempty] at slash
      cases slash
    rw [Settings.check, if_neg hnamed, if_pos (by simpa using slash)]
  | noListener named whole idle =>
    have hidle : (!s.tcp.enabled && !s.udp.enabled) = true := by
      have htcp : s.tcp.enabled = false := idle .tcp
      have hudp : s.udp.enabled = false := idle .udp
      rw [htcp, hudp]
      rfl
    rw [Settings.check, if_neg (by simpa using named), if_neg (by simpa using whole), if_pos hidle]

lemma check_cases (s : Settings) : s.check = .ok s ∨ ∃ reason, Wrong s reason := by
  by_cases hname : s.name = ""
  · exact .inr ⟨_, .emptyName hname⟩
  by_cases hslash : '/' ∈ s.name.toList
  · exact .inr ⟨_, .slashInName hslash⟩
  by_cases hbusy : s.tcp.enabled ∨ s.udp.enabled
  · exact .inl (check_eq_ok.mpr ⟨rfl, hname, hslash, hbusy⟩)
  · rw [not_or, Bool.not_eq_true, Bool.not_eq_true] at hbusy
    refine .inr ⟨_, .noListener hname hslash fun t => ?_⟩
    cases t with
    | tcp => exact hbusy.1
    | udp => exact hbusy.2

lemma check_eq_ok_iff {s : Settings} : s.check = .ok s ↔ ∀ reason, ¬Wrong s reason := by
  constructor
  · intro hs reason hwrong
    rw [check_of_wrong hwrong] at hs
    cases hs
  · intro hright
    rcases check_cases s with hs | ⟨reason, hwrong⟩
    · exact hs
    · exact absurd hwrong (hright reason)

/-- What is wrong with settings comes from their name, and from which listeners are enabled. -/
lemma Wrong.congr {s s' : Settings} {reason : InvalidSettings} (h : Wrong s reason)
    (hname : s.name = s'.name) (henabled : ∀ t, (s.listener t).enabled = (s'.listener t).enabled) :
    Wrong s' reason := by
  cases h with
  | emptyName empty => exact .emptyName (hname.symm.trans empty)
  | slashInName slash =>
    rw [hname] at slash ⊢
    exact .slashInName slash
  | noListener named whole idle =>
    rw [hname] at named whole
    exact .noListener named whole fun t => (henabled t).symm.trans (idle t)

/-! ### Changes -/

lemma enabled_withPort (l : Listener) (port : Option UInt16) :
    (withPort l port).enabled = l.enabled := by
  cases port with
  | none => rfl
  | some port => rfl

lemma bindPort_withPort (l : Listener) (port : Option UInt16) :
    (withPort l port).bindPort = askedPort port l := by
  cases port with
  | none => rfl
  | some port => rfl

lemma listener_apply (o : Overrides) (s : Settings) (t : Transport) :
    (o.apply s).listener t = withPort (s.listener t) (o.port t) := by
  cases t with
  | tcp => rfl
  | udp => rfl

lemma enabled_apply (o : Overrides) (s : Settings) (t : Transport) :
    ((o.apply s).listener t).enabled = (s.listener t).enabled := by
  rw [listener_apply, enabled_withPort]

/-- Of all changes, only a name can make settings wrong. -/
lemma wrong_apply {o : Overrides} {s : Settings} {reason : InvalidSettings} :
    Wrong (o.apply s) reason ↔ Wrong { s with name := o.name.getD s.name } reason :=
  ⟨fun h => h.congr rfl (enabled_apply o s), fun h => h.congr rfl fun t => (enabled_apply o s t).symm⟩

/-! ### Ports -/

lemma mem_ports {s : Settings} {t : Transport} {port : UInt16} :
    (t, port) ∈ ports s ↔ (s.listener t).enabled ∧ port = (s.listener t).bindPort := by
  cases t with
  | tcp => simp [ports, Settings.listener]
  | udp => simp [ports, Settings.listener]

lemma map_fst_ports (s : Settings) :
    (ports s).map Prod.fst = [.tcp, .udp].filter fun t => (s.listener t).enabled := by
  cases htcp : s.tcp.enabled <;> cases hudp : s.udp.enabled <;>
    simp [ports, Settings.listener, htcp, hudp]

lemma ports_ne_nil {s : Settings} (h : s.tcp.enabled ∨ s.udp.enabled) : ports s ≠ [] := by
  obtain ⟨t, ht⟩ : ∃ t, (s.listener t).enabled := by
    rcases h with h | h
    · exact ⟨.tcp, h⟩
    · exact ⟨.udp, h⟩
  exact List.ne_nil_of_mem (mem_ports.mpr ⟨ht, rfl⟩)

/-! ### From a source to a host -/

lemma exists_readAs (source : Settings.Source) : ∃ r, ReadAs source r := by
  cases source with
  | missing => exact ⟨_, .missing⟩
  | directory => exact ⟨_, .directory⟩
  | unreadable reason => exact ⟨_, .unreadable reason⟩
  | file bytes =>
    cases htext : Osc.ofUtf8? bytes with
    | none => exact ⟨_, .notText htext⟩
    | some s =>
      cases hentries : (Toml.read s).bind Settings.ofEntries with
      | none => exact ⟨_, .notSettings htext hentries⟩
      | some file => exact ⟨_, .settings htext hentries⟩

/-- Settings are checked as soon as they are read; the default ones pass. -/
lemma ReadAs.load {source : Settings.Source} {r : Except SettingsFault Settings}
    (h : ReadAs source r) : Settings.load source = r.bind Settings.check := by
  cases h with
  | missing => exact (check_eq_ok.mpr ⟨rfl, by decide, by decide, .inl rfl⟩).symm
  | directory => rfl
  | unreadable reason => rfl
  | notText text =>
    rw [Settings.load, text]
    rfl
  | notSettings text entries =>
    rw [Settings.load, text]
    dsimp only
    rw [Settings.ofToml, entries]
    rfl
  | settings text entries =>
    rw [Settings.load, text]
    dsimp only
    rw [Settings.ofToml, entries]
    rfl

section Launch

variable {κ : Type} {o : Overrides} {source : Settings.Source} (courier : κ)

lemma launch_of_refused {fault : SettingsFault} (h : Refused o source fault) :
    (Command.serve o).launch source courier = .failed fault := by
  cases h with
  | unread read =>
    rw [Command.launch, Command.run, read.load]
    rfl
  | file read wrong =>
    rw [Command.launch, Command.run, read.load]
    dsimp only [Except.bind]
    rw [check_of_wrong wrong]
  | name read right wrong =>
    -- The file passes the check, and the changed settings do not pass it the second time.
    have hfile := check_eq_ok_iff.mpr right
    have hchanged := check_of_wrong (wrong_apply.mpr wrong)
    rw [Command.launch, Command.run, read.load]
    dsimp only [Except.bind]
    rw [hfile]
    dsimp only
    rw [hchanged]

lemma launch_of_right {file : Settings} (hload : Settings.load source = .ok file)
    (hchanged : (o.apply file).check = .ok (o.apply file)) :
    ∃ host : Host κ, (Command.serve o).launch source courier = .serving (o.apply file) host ∧
      Keeps o file (o.apply file) host := by
  obtain ⟨_, hname, hslash, henabled⟩ := check_eq_ok.mp hchanged
  have hroot := (isRootName_iff _).mpr ⟨hname, hslash⟩
  let host : Host κ :=
    { setup := { root := (o.apply file).name, firstSlot := file.firstSlot }, rack := {}, courier }
  have hstart : start? (o.apply file) courier = some host := if_pos hroot
  refine ⟨host, ?_, hroot, rfl, rfl, ?_, ?_, fun t port => ?_⟩
  · rw [Command.launch, Command.run, hload]
    dsimp only
    rw [hchanged]
    dsimp only
    rw [hstart]
  · exact ports_ne_nil henabled
  · rw [map_fst_ports]
    exact List.Pairwise.filter _ (by decide)
  · rw [mem_ports, enabled_apply, listener_apply, bindPort_withPort]

/-- Either there is a reason to serve nothing, or a host is served. -/
lemma refused_or_right (o : Overrides) (source : Settings.Source) :
    (∃ fault, Refused o source fault) ∨
      ∃ file, ReadAs source (.ok file) ∧ Settings.load source = .ok file ∧
        (o.apply file).check = .ok (o.apply file) := by
  obtain ⟨r, read⟩ := exists_readAs source
  cases r with
  | error fault => exact .inl ⟨fault, .unread read⟩
  | ok file =>
    rcases check_cases file with hfile | ⟨reason, wrong⟩
    · rcases check_cases (o.apply file) with hchanged | ⟨reason, wrong⟩
      · exact .inr ⟨file, read, read.load.trans hfile, hchanged⟩
      · exact .inl ⟨_, .name read (check_eq_ok_iff.mp hfile) (wrong_apply.mp wrong)⟩
    · exact .inl ⟨_, .file read wrong⟩

lemma launch_eq_failed_iff {fault : SettingsFault} :
    (Command.serve o).launch source courier = .failed fault ↔ Refused o source fault := by
  refine ⟨fun h => ?_, launch_of_refused courier⟩
  rcases refused_or_right o source with ⟨fault', hrefused⟩ | ⟨file, _, hload, hchanged⟩
  · rw [launch_of_refused courier hrefused] at h
    cases h
    exact hrefused
  · obtain ⟨host, hserving, _⟩ := launch_of_right courier hload hchanged
    rw [hserving] at h
    cases h

lemma load_of_serving {s : Settings} {host : Host κ}
    (h : (Command.serve o).launch source courier = .serving s host) :
    ∃ file, Settings.load source = .ok file ∧ s = o.apply file := by
  rcases refused_or_right o source with ⟨fault, hrefused⟩ | ⟨file, _, hload, hchanged⟩
  · rw [launch_of_refused courier hrefused] at h
    cases h
  · obtain ⟨_, hserving, _⟩ := launch_of_right courier hload hchanged
    rw [hserving] at h
    cases h
    exact ⟨file, hload, rfl⟩

end Launch

/-- Whatever is in the file, and whatever changes the options make, the program does not break off for
want of a root name. It fails if the file cannot be read or holds no settings, if a host cannot run with
these or not under the name given instead, and in no other case. Otherwise a host is served, under the
name that was given or else the one in the file, on every listener that the file enables and no other.
What an option says of one port has no bearing on anything else. -/
theorem serve_keeps_to_file_and_options {κ : Type} (o : Overrides) (source : Settings.Source)
    (courier : κ) :
    let launch (o : Overrides) := (Command.serve o).launch source courier
    parse ("serve" :: o.options) = .ok ⟨none, .serve o⟩ ∧
    (∀ fault, launch o = .failed fault ↔ Refused o source fault) ∧
    ((∃ fault, launch o = .failed fault) ∨
      ∃ file s host, ReadAs source (.ok file) ∧ launch o = .serving s host ∧ Keeps o file s host) ∧
    ∀ o' s s' host host', launch o = .serving s host → launch o' = .serving s' host' →
      (ports s).map Prod.fst = (ports s').map Prod.fst ∧
      ∀ t, o.port t = o'.port t → ∀ port, (t, port) ∈ ports s ↔ (t, port) ∈ ports s' := by
  intro launch
  refine ⟨parse_options o, fun fault => launch_eq_failed_iff courier, ?_, ?_⟩
  · rcases refused_or_right o source with ⟨fault, hrefused⟩ | ⟨file, read, hload, hchanged⟩
    · exact .inl ⟨fault, launch_of_refused courier hrefused⟩
    · obtain ⟨host, hserving, hkeeps⟩ := launch_of_right courier hload hchanged
      exact .inr ⟨file, _, host, read, hserving, hkeeps⟩
  · intro o' s s' host host' hs hs'
    obtain ⟨file, hload, rfl⟩ := load_of_serving courier hs
    obtain ⟨file', hload', rfl⟩ := load_of_serving courier hs'
    rw [hload] at hload'
    obtain rfl := Except.ok.inj hload'
    constructor
    · rw [map_fst_ports, map_fst_ports]
      simp only [enabled_apply]
    · intro t ht port
      rw [mem_ports, mem_ports, listener_apply, listener_apply, ht]

/-- The file leaves the port for TCP to the system and does not listen on UDP. A port given for UDP
changes nothing about that, one given for TCP does, and a name with a slash is refused. -/
theorem serve_keeps_to_file_and_options_random :
    let file : Settings := { name := "rack", tcp := { random := true }, udp := { enabled := false } }
    let source : Settings.Source := .file (Osc.utf8 file.toToml)
    let launch (o : Overrides) := (Command.serve o).launch source ()
    ∃ s s' host host',
      launch { udpPort := some 9001 } = .serving s host ∧
      launch { name := some "stage", tcpPort := some 9000, udpPort := some 9001 } =
        .serving s' host' ∧
      ports s = [(.tcp, 0)] ∧ ports s' = [(.tcp, 9000)] ∧
      host.setup.root = "rack" ∧ host'.setup.root = "stage" ∧
      (∀ port, (.udp, port) ∈ ports s ↔ (.udp, port) ∈ ports s') ∧
      launch { name := some "a/b" } = .failed (.invalid (.slashInName "a/b")) := by
  intro file source launch
  have read : ReadAs source (.ok file) := by
    refine .settings (Osc.ofUtf8?_utf8 file.toToml) ?_
    rw [read_toToml, Option.bind_some, ofEntries_settingsEntries]
  have hfile : file.check = .ok file := check_eq_ok.mpr ⟨rfl, by decide, by decide, .inl rfl⟩
  have hload := read.load.trans hfile
  let plain : Overrides := { udpPort := some 9001 }
  let renamed : Overrides := { name := some "stage", tcpPort := some 9000, udpPort := some 9001 }
  obtain ⟨host, hs, hkeeps⟩ := launch_of_right () hload
    (check_eq_ok.mpr ⟨rfl, by decide, by decide, .inl rfl⟩ : (plain.apply file).check = _)
  obtain ⟨host', hs', hkeeps'⟩ := launch_of_right () hload
    (check_eq_ok.mpr ⟨rfl, by decide, by decide, .inl rfl⟩ : (renamed.apply file).check = _)
  obtain ⟨_, _, _, htwice⟩ := serve_keeps_to_file_and_options plain source ()
  obtain ⟨_, hfailed, _⟩ := serve_keeps_to_file_and_options { name := some "a/b" } source ()
  refine ⟨_, _, host, host', hs, hs', rfl, rfl, hkeeps.root, hkeeps'.root, ?_, ?_⟩
  · exact (htwice renamed _ _ host host' hs hs').2 .udp rfl
  · exact (hfailed _).mpr (.name read (check_eq_ok_iff.mp hfile) (.slashInName (by decide)))

end Proofs
end RackRemote

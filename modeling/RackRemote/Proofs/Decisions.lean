import RackRemote.Host.Decision
import RackRemote.Proofs.RackSteps
import RackRemote.Proofs.RouteGrammar

/-!
# What an accepted message asks for

The other half of `Refusals`: where `decide` gives an order, these lemmas say from which message and
in which state of the host it comes.
-/

namespace RackRemote.Proofs

variable {κ : Type}

/-! ### The registration desk -/

lemma readUrl_eq_ok {command url : String} {args : List Osc.Arg}
    (h : Host.readUrl command args = .ok url) : args = [.string url] := by
  match args with
  | [] => cases h
  | [a] =>
    cases a with
    | string text => cases h; rfl
    | bool value => cases value <;> cases h
    | _ => cases h
  | _ :: _ :: _ => cases h

lemma ofPluginPath_ne_desk (l : List Char) :
    Route.ofPluginPath l ≠ .register ∧ Route.ofPluginPath l ≠ .unregister := by
  unfold Route.ofPluginPath
  split
  · simp
  · split
    · simp
    · split
      · simp
      · split <;> simp

/-- The desk has two paths, whatever the root name. -/
lemma ofPath_desk (path root : String) :
    (Route.ofPath path root = .register → path = "/register") ∧
      (Route.ofPath path root = .unregister → path = "/unregister") := by
  unfold Route.ofPath
  split
  · simp [*]
  · split
    · simp [*]
    · split
      · simp
      · simp
      · split
        · rename_i rest _
          have hne := ofPluginPath_ne_desk rest
          exact ⟨fun h => absurd h hne.1, fun h => absurd h hne.2⟩
        · simp

/-! ### Commands to the host -/

lemma ofPluginPath_ne_control (l : List Char) (name : String) :
    Route.ofPluginPath l ≠ .control name := by
  unfold Route.ofPluginPath
  split
  · simp
  · split
    · simp
    · split
      · simp
      · split <;> simp

lemma ofPath_control {path root name : String} (h : Route.ofPath path root = .control name) :
    path = "/ctrl/" ++ name := by
  rw [Route.ofPath] at h
  split at h
  · cases h
  · split at h
    · cases h
    · split at h
      · cases h
      · rename_i rest _ hafter
        cases h
        have hpath := after?_eq_some hafter
        apply String.toList_inj.mp
        simp only [hpath, String.toList_append, String.toList_ofList]
      · split at h
        · exact absurd h (ofPluginPath_ne_control _ name)
        · cases h

lemma ofPath_command {name : String} (hname : name ≠ "") (root : String) :
    Route.ofPath ("/ctrl/" ++ name) root = .control name := by
  have hne : ∀ desk : String, desk.toList[1]? ≠ some 'c' → "/ctrl/" ++ name ≠ desk := by
    rintro _ hdesk rfl
    rw [String.toList_append] at hdesk
    exact hdesk rfl
  obtain ⟨c, rest, hrest⟩ : ∃ c rest, name.toList = c :: rest :=
    List.exists_cons_of_ne_nil fun hnil => hname (String.toList_eq_nil_iff.mp hnil)
  rw [Route.ofPath, if_neg (hne _ (by decide)), if_neg (hne _ (by decide)), String.toList_append,
    after?_append, hrest]
  exact congrArg Route.control (by rw [← hrest, String.ofList_toList])

lemma name_of_find? {γ : Type} {all : List γ} {name : γ → String} {s : String} {c : γ}
    (h : all.find? (name · == s) = some c) : name c = s := by
  have hname := List.find?_some h
  exact beq_iff_eq.mp hname

lemma decideControl_eq_ok {h : Host κ} {t : Transport} {path name : String} {args : List Osc.Arg}
    {order : Order} (ho : h.decideControl t path name args = .ok order) :
    ∃ command request, order = .control command request ∧ t = .tcp ∧ h.tcp ≠ none ∧
      GlobalCommand.ofName? name = some command ∧
      command.request h.setup.firstSlot args = .ok request := by
  cases t with
  | udp => cases ho
  | tcp =>
    cases hb : h.tcp with
    | none =>
      rw [Host.decideControl, hb] at ho
      cases ho
    | some b =>
      rw [Host.decideControl, hb] at ho
      cases hc : GlobalCommand.ofName? name with
      | none =>
        rw [hc] at ho
        cases ho
      | some command =>
        rw [hc] at ho
        obtain ⟨request, hr, hq⟩ := bind_eq_ok.mp ho
        cases hq
        exact ⟨command, request, rfl, rfl, nofun, rfl, hr⟩

/-! ### Commands to a plugin -/

/-- The plugin that the host finds at an index, whatever its id. -/
def found (h : Host κ) (index : UInt32) : Option Plugin :=
  (h.setup.lookUp h.rack index).bind h.rack.find?

lemma resolve_outOfRange {h : Host κ} {index : UInt32} (hi : h.setup.count h.rack ≤ index) :
    h.resolve index = .error (.indexOutOfRange index (h.setup.count h.rack)) := by
  unfold Host.resolve
  simp only [hi, if_true]
  rfl

lemma resolve_stale {h : Host κ} {index : UInt32} (hi : ¬h.setup.count h.rack ≤ index)
    (hp : ∀ p, found h index = some p → p.id ≠ index) :
    h.resolve index = .error (.stalePlugin index) := by
  unfold Host.resolve
  simp only [hi, if_false]
  cases hf : found h index with
  | none =>
    rw [found] at hf
    rw [hf]
    rfl
  | some p =>
    have hid := hp p hf
    rw [found] at hf
    rw [hf]
    simp only [hid, if_false]
    rfl

lemma resolve_found {h : Host κ} {index : UInt32} {p : Plugin}
    (hi : ¬h.setup.count h.rack ≤ index) (hp : found h index = some p) (hid : p.id = index) :
    h.resolve index = .ok p := by
  rw [found] at hp
  unfold Host.resolve
  simp only [hi, if_false, hp, hid, if_true]
  rfl

lemma found_of_resolve {h : Host κ} {index : UInt32} {p : Plugin} (hr : h.resolve index = .ok p) :
    found h index = some p := by
  by_cases hi : h.setup.count h.rack ≤ index
  · rw [resolve_outOfRange hi] at hr
    cases hr
  · by_cases hp : ∀ q, found h index = some q → q.id ≠ index
    · rw [resolve_stale hi hp] at hr
      cases hr
    · obtain ⟨q, hq⟩ := not_forall.mp hp
      obtain ⟨hfound, hid⟩ := Classical.not_imp.mp hq
      rw [resolve_found hi hfound (not_not.mp hid)] at hr
      cases hr
      exact hfound

/-- The three ways in which a message to a plugin can be accepted. -/
lemma decidePlugin_eq_ok {h : Host κ} {index : UInt32} {method : String} {args : List Osc.Arg}
    {order : Order} (ho : h.decidePlugin index method args = .ok order) :
    ∃ p, h.resolve index = .ok p ∧
      ((∃ command action, order = .plugin index p.key command action ∧
          PluginCommand.ofName? method = some command ∧ command.action args = .ok action) ∨
        (∃ command, order = .reserved index command ∧
          PluginCommand.ofName? method = none ∧ ReservedCommand.ofName? method = some command) ∨
        (order = .forward index p.key method args ∧
          PluginCommand.ofName? method = none ∧ ReservedCommand.ofName? method = none)) := by
  rw [Host.decidePlugin] at ho
  obtain ⟨p, hp, ho⟩ := bind_eq_ok.mp ho
  refine ⟨p, hp, ?_⟩
  cases hc : PluginCommand.ofName? method with
  | some command =>
    rw [hc] at ho
    obtain ⟨action, ha, hq⟩ := bind_eq_ok.mp ho
    cases hq
    exact .inl ⟨command, action, rfl, rfl, ha⟩
  | none =>
    rw [hc] at ho
    cases hr : ReservedCommand.ofName? method with
    | some command =>
      rw [hr] at ho
      cases ho
      exact .inr (.inl ⟨command, rfl, rfl, rfl⟩)
    | none =>
      rw [hr] at ho
      cases ho
      exact .inr (.inr ⟨rfl, rfl, rfl⟩)

/-! ### All messages -/

lemma decide_eq_register {h : Host κ} {t : Transport} {m : Osc.Message} {url : String}
    (ho : h.decide t m = .ok (.register url)) : m = ⟨"/register", [.string url]⟩ := by
  rw [Host.decide] at ho
  split at ho
  · rename_i hroute
    obtain ⟨read, hread, hq⟩ := bind_eq_ok.mp ho
    cases hq
    have haddress := (ofPath_desk _ _).1 hroute
    have hargs := readUrl_eq_ok hread
    cases m
    dsimp only at haddress hargs
    rw [haddress, hargs]
  · obtain ⟨read, _, hq⟩ := bind_eq_ok.mp ho
    cases hq
  · obtain ⟨_, _, hq, _⟩ := decideControl_eq_ok ho
    cases hq
  · obtain ⟨_, _, ⟨_, _, hq, _⟩ | ⟨_, hq, _⟩ | ⟨hq, _⟩⟩ := decidePlugin_eq_ok ho <;> cases hq
  · cases ho
  · cases ho

lemma decide_eq_unregister {h : Host κ} {t : Transport} {m : Osc.Message} {url : String}
    (ho : h.decide t m = .ok (.unregister url)) : m = ⟨"/unregister", [.string url]⟩ := by
  rw [Host.decide] at ho
  split at ho
  · obtain ⟨read, _, hq⟩ := bind_eq_ok.mp ho
    cases hq
  · rename_i hroute
    obtain ⟨read, hread, hq⟩ := bind_eq_ok.mp ho
    cases hq
    have haddress := (ofPath_desk _ _).2 hroute
    have hargs := readUrl_eq_ok hread
    cases m
    dsimp only at haddress hargs
    rw [haddress, hargs]
  · obtain ⟨_, _, hq, _⟩ := decideControl_eq_ok ho
    cases hq
  · obtain ⟨_, _, ⟨_, _, hq, _⟩ | ⟨_, hq, _⟩ | ⟨hq, _⟩⟩ := decidePlugin_eq_ok ho <;> cases hq
  · cases ho
  · cases ho

/-- Commands to the host come in on TCP, from a controller that is registered there. -/
lemma decide_eq_control {h : Host κ} {t : Transport} {m : Osc.Message} {command : GlobalCommand}
    {request : Request} (ho : h.decide t m = .ok (.control command request)) :
    t = .tcp ∧ h.tcp ≠ none ∧ m.address = "/ctrl/" ++ command.name ∧
      command.request h.setup.firstSlot m.args = .ok request := by
  rw [Host.decide] at ho
  split at ho
  · obtain ⟨read, _, hq⟩ := bind_eq_ok.mp ho
    cases hq
  · obtain ⟨read, _, hq⟩ := bind_eq_ok.mp ho
    cases hq
  · rename_i name hroute
    obtain ⟨c, _, hq, ht, hregistered, hname, hr⟩ := decideControl_eq_ok ho
    cases hq
    refine ⟨ht, hregistered, ?_, hr⟩
    rw [ofPath_control hroute, name_of_find? hname]
  · obtain ⟨_, _, ⟨_, _, hq, _⟩ | ⟨_, hq, _⟩ | ⟨hq, _⟩⟩ := decidePlugin_eq_ok ho <;> cases hq
  · cases ho
  · cases ho

lemma decide_refresh {h : Host κ} {t : Transport} {m : Osc.Message} {order : Order}
    (hm : m.address = "/ctrl/patchbay_refresh") (hd : h.decide t m = .ok order) :
    ∃ b all, h.tcp = some b ∧ order = .control .patchbayRefresh (.refresh all) := by
  have hroute : Route.ofPath m.address h.setup.root = .control "patchbay_refresh" := by
    rw [hm]
    rfl
  rw [Host.decide, hroute] at hd
  obtain ⟨command, request, rfl, _, htcp, hname, hr⟩ := decideControl_eq_ok hd
  have hcommand : GlobalCommand.ofName? "patchbay_refresh" = some .patchbayRefresh := rfl
  rw [hcommand] at hname
  cases hname
  obtain ⟨a, _, hread⟩ := bind_eq_ok.mp hr
  obtain ⟨n, _, hq⟩ := bind_eq_ok.mp hread
  cases hq
  obtain ⟨b, hb⟩ := Option.ne_none_iff_exists'.mp htcp
  exact ⟨b, n != 0, hb, rfl⟩

end RackRemote.Proofs

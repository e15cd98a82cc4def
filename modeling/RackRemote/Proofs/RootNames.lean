import Mathlib.Data.List.Basic
import Mathlib.Data.Nat.Digits.Defs
import RackRemote.Host.Basic
import RackRemote.Proofs.RouteGrammar
import RackRemote.Settings

/-!
# Root names under which plugins can be addressed

A path that is written as root name, index and method is read back as these, in every spelling of the
index. The one root name that stands in the way is `ctrl`: it is taken for a root name when a host
starts, but no path under it ever leads to a plugin.
-/

namespace RackRemote.Proofs

/-! ### Spellings of an index -/

/-- One to three decimal digits with a given value. -/
structure Spells (digits : String) (i : Nat) : Prop where
  isDigit : ∀ c ∈ digits.toList, c.isDigit
  nonempty : digits ≠ ""
  short : digits.length ≤ 3
  value : Nat.ofDigits 10 (digits.toList.map fun c => c.toNat - '0'.toNat).reverse = i

lemma charDigit_of_isDigit {c : Char} (hc : c.isDigit) :
    Index.charDigit c = some (c.toNat - '0'.toNat) := by
  rw [Char.isDigit, Bool.and_eq_true, decide_eq_true_eq, decide_eq_true_eq] at hc
  exact if_pos hc

lemma foldl_eq_ofDigits (ds : List Nat) :
    ds.foldl (fun n d => n * 10 + d) 0 = Nat.ofDigits 10 ds.reverse := by
  rw [Nat.ofDigits_eq_foldr, List.foldr_reverse]
  congr 1
  funext n d
  rw [Nat.cast_id]
  omega

namespace Spells

variable {digits : String} {i : Nat} (h : Spells digits i)
include h

lemma charDigit : ∀ c ∈ digits.toList, (Index.charDigit c).isSome := by
  intro c hc
  rw [charDigit_of_isDigit (h.isDigit c hc)]
  rfl

lemma indexValue : indexValue digits = i.toUInt32 := by
  have hvalues : digits.toList.filterMap Index.charDigit =
      digits.toList.map fun c => c.toNat - '0'.toNat := by
    rw [← List.filterMap_eq_map]
    apply List.filterMap_congr
    intro c hc
    exact charDigit_of_isDigit (h.isDigit c hc)
  rw [Proofs.indexValue, hvalues, foldl_eq_ofDigits, h.value]

lemma lt : i < 1000 := by
  have hdigit : ∀ d ∈ (digits.toList.map fun c => c.toNat - '0'.toNat).reverse, d < 10 := by
    intro d hd
    rw [List.mem_reverse, List.mem_map] at hd
    obtain ⟨c, hc, rfl⟩ := hd
    have hc := h.isDigit c hc
    rw [Char.isDigit, Bool.and_eq_true, decide_eq_true_eq, decide_eq_true_eq] at hc
    have hnine : c.toNat ≤ '9'.toNat := hc.2
    have hnine' : '9'.toNat = 57 := rfl
    have hzero : '0'.toNat = 48 := rfl
    omega
  have hbound := Nat.ofDigits_lt_base_pow_length (by omega) hdigit
  rw [h.value, List.length_reverse, List.length_map, String.length_toList] at hbound
  calc i < 10 ^ digits.length := hbound
    _ ≤ 10 ^ 3 := Nat.pow_le_pow_right (by omega) h.short

lemma decode (rest : List Char) :
    Index.decode Index.charDigit (digits.toList ++ '/' :: rest) =
      .ok (i.toUInt32, digits.toList.length) := by
  have hlength := length_filterMap_digits Index.charDigit h.charDigit
  have hshort : ¬maxIndexDigits < digits.toList.length := by
    have := h.short
    rw [String.length_toList, maxIndexDigits]
    omega
  have hsome : digits.toList.filterMap Index.charDigit ≠ [] := by
    intro hnil
    rw [hnil, List.length_nil] at hlength
    have hempty := List.eq_nil_of_length_eq_zero hlength.symm
    exact h.nonempty (String.toList_eq_nil_iff.mp hempty)
  rw [decode_eq, digitRun_append Index.charDigit h.charDigit (b := '/') rfl, hlength,
    if_neg hshort, if_neg hsome]
  have hvalue := h.indexValue
  rw [Proofs.indexValue] at hvalue
  rw [hvalue]

lemma ofPluginPath {method : List Char} (hmethod : method ≠ []) :
    Route.ofPluginPath (digits.toList ++ '/' :: method) =
      .plugin i.toUInt32 (String.ofList (method.take maxMethodLength)) := by
  rw [Route.ofPluginPath, h.decode]
  dsimp only
  rw [List.drop_left]
  dsimp only
  rw [if_neg (by simp), if_neg hmethod]

end Spells

/-! ### Root names -/

lemma isRootName_iff (root : String) : isRootName root ↔ root ≠ "" ∧ '/' ∉ root.toList := by
  simp [isRootName]

/-- The root names are the names with which settings can be valid. -/
lemma isRootName_iff_check (root : String) :
    isRootName root ↔ ∃ s : Settings, s.name = root ∧ s.check = .ok s := by
  constructor
  · intro hroot
    refine ⟨{ name := root }, rfl, ?_⟩
    rw [isRootName, Bool.and_eq_true] at hroot
    simp_all [Settings.check]
  · rintro ⟨s, rfl, hs⟩
    rw [Settings.check] at hs
    split at hs
    · cases hs
    · split at hs
      · cases hs
      · simp_all [isRootName]

/-- A path under a root name is no fixed place: these have one slash only. -/
lemma path_ne_fixed (root : String) {name : List Char} (hname : '/' ∉ name) (rest : List Char) :
    ('/' :: root.toList ++ ['/']) ++ rest ≠ '/' :: name := by
  intro h
  apply hname
  rw [← (List.cons.inj h).2]
  simp

lemma takeWhile_ne_slash {l : List Char} (hl : '/' ∉ l) (rest : List Char) :
    (l ++ '/' :: rest).takeWhile (· != '/') = l := by
  have hall : ∀ c ∈ l, (c != '/') = true := by
    intro c hc
    rw [bne_iff_ne]
    rintro rfl
    exact hl hc
  rw [List.takeWhile_append_of_pos hall, List.takeWhile_cons_of_neg (by simp), List.append_nil]

section Paths

variable {root : String} (hslash : '/' ∉ root.toList)
include hslash

lemma after?_ctrl {rest : List Char} (hroot : root ≠ "ctrl") :
    Route.after? "/ctrl/".toList (('/' :: root.toList ++ ['/']) ++ rest) = none := by
  rw [Route.after?, if_neg]
  rintro ⟨more, hmore⟩
  apply hroot
  have hspelt : "/ctrl/".toList ++ more = '/' :: ("ctrl".toList ++ '/' :: more) := rfl
  rw [hspelt, List.cons_append, List.cons_append, List.cons_inj_right, List.append_assoc] at hmore
  have hctrl : '/' ∉ "ctrl".toList := by decide
  have hsame := congrArg (List.takeWhile (· != '/')) hmore
  rw [List.singleton_append, takeWhile_ne_slash hctrl, takeWhile_ne_slash hslash] at hsame
  exact (String.toList_inj.mp hsame).symm

lemma ofPath_under_root (hroot : root ≠ "ctrl") {path : String} {rest : List Char}
    (hpath : path.toList = ('/' :: root.toList ++ ['/']) ++ rest) :
    Route.ofPath path root = Route.ofPluginPath rest := by
  have hregister : path ≠ "/register" := by
    rintro rfl
    have hname : '/' ∉ "register".toList := by decide
    exact path_ne_fixed root hname rest hpath.symm
  have hunregister : path ≠ "/unregister" := by
    rintro rfl
    have hname : '/' ∉ "unregister".toList := by decide
    exact path_ne_fixed root hname rest hpath.symm
  rw [Route.ofPath, if_neg hregister, if_neg hunregister, hpath, after?_ctrl hslash hroot,
    after?_append]

end Paths

/-- Whatever follows the root name `ctrl` is read as a command to the host. -/
lemma ofPath_ctrl (path : String) (index : UInt32) (method : String) :
    Route.ofPath path "ctrl" ≠ .plugin index method := by
  intro h
  obtain ⟨rest, hrest, _⟩ := ofPluginPath_of_ofPath h
  have hctrl : Route.after? "/ctrl/".toList path.toList = some rest := hrest
  rw [Route.ofPath, hctrl] at h
  split at h
  · cases h
  · split at h
    · cases h
    · cases rest with
      | nil => cases h
      | cons => cases h

/-- A host can be started with every name that is not empty and has no slash, and these are the names
that settings can have. Under each of them but `ctrl`, an index in any spelling and a method of any
length lead to the plugin at this index and to the beginning of this method. -/
theorem root_name_addresses_plugins (root : String) :
    (isRootName root ↔ root ≠ "" ∧ '/' ∉ root.toList) ∧
    (isRootName root ↔ ∃ s : Settings, s.name = root ∧ s.check = .ok s) ∧
    (isRootName root →
      ((∀ digits i method, Spells digits i → method ≠ "" →
        ∃ index, Route.ofPath ("/" ++ root ++ "/" ++ digits ++ "/" ++ method) root =
            .plugin index (String.ofList (method.toList.take 32)) ∧ index.toNat = i) ↔
        root ≠ "ctrl")) := by
  refine ⟨isRootName_iff root, isRootName_iff_check root, fun hroot => ⟨?_, ?_⟩⟩
  · rintro hall rfl
    have hzero : Spells "0" 0 := ⟨by simp, by decide, by decide, by decide⟩
    obtain ⟨index, hroute, _⟩ := hall "0" 0 "set_volume" hzero (by decide)
    exact ofPath_ctrl _ index _ hroute
  · intro hctrl digits i method hdigits hmethod
    have hslash := ((isRootName_iff root).mp hroot).2
    have hchars : method.toList ≠ [] := fun hnil => hmethod (String.toList_eq_nil_iff.mp hnil)
    refine ⟨i.toUInt32, ?_, ?_⟩
    · have hpath := toList_pluginPath root digits method
      rw [pluginPath] at hpath
      rw [ofPath_under_root hslash hctrl hpath, hdigits.ofPluginPath hchars]
      rfl
    · have hlt := hdigits.lt
      exact UInt32.toNat_ofNat_of_lt (hlt.trans (by decide))

theorem root_name_addresses_plugins_register :
    isRootName "register" ∧ Spells "042" 42 ∧
      ∃ index, Route.ofPath ("/" ++ "register" ++ "/" ++ "042" ++ "/" ++ "set_volume") "register" =
        .plugin index (String.ofList ("set_volume".toList.take 32)) ∧ index.toNat = 42 := by
  have hroot : isRootName "register" := by simp [isRootName]
  have hdigits : Spells "042" 42 := ⟨by simp, by decide, by decide, by decide⟩
  obtain ⟨_, _, haddress⟩ := root_name_addresses_plugins "register"
  have hall := (haddress hroot).mpr (by decide)
  exact ⟨hroot, hdigits, hall "042" 42 "set_volume" hdigits (by decide)⟩

/-- The name `ctrl` is accepted, and yet no path leads to a plugin under it. -/
theorem ctrl_root_addresses_nothing :
    isRootName "ctrl" ∧ Spells "0" 0 ∧
      Route.ofPath ("/" ++ "ctrl" ++ "/" ++ "0" ++ "/" ++ "set_volume") "ctrl" =
        .control "0/set_volume" ∧
      ∀ path index method, Route.ofPath path "ctrl" ≠ .plugin index method :=
  ⟨by simp [isRootName], ⟨by simp, by decide, by decide, by decide⟩, by decide +kernel,
    ofPath_ctrl⟩

end RackRemote.Proofs

import Mathlib.Data.List.TakeDrop
import Mathlib.Data.List.TakeWhile
import Mathlib.Tactic.Common
import RackRemote.Control.Route

/-!
# How paths are read

`Index.leading` looks at four characters at most; all the same its outcome is that of the whole run of
digits in front, as `decode_eq` says. With it, a path that is written as root name, index and method
is read back as these.
-/

namespace RackRemote.Proofs

/-- Where the longest beginning of one sort ends. -/
lemma span_eq_iff {α : Type} {p : α → Bool} {l front rest : List α} :
    l.span p = (front, rest) ↔
      (∀ a ∈ front, p a) ∧ (∀ a, rest.head? = some a → ¬p a) ∧ l = front ++ rest := by
  rw [List.span_eq_takeWhile_dropWhile, Prod.mk.injEq]
  constructor
  · rintro ⟨rfl, rfl⟩
    refine ⟨fun a ha => List.mem_takeWhile_imp ha, fun a ha => ?_,
      List.takeWhile_append_dropWhile.symm⟩
    have hstop := List.head?_dropWhile_not p l
    rw [ha] at hstop
    simpa using hstop
  · rintro ⟨hfront, hrest, rfl⟩
    rw [List.takeWhile_append_of_pos hfront, List.dropWhile_append_of_pos hfront]
    cases rest with
    | nil => simp
    | cons a rest => simp [hrest a rfl]

/-- The values of all digits in front. -/
def digitRun {α : Type} (digit : α → Option Nat) (l : List α) : List Nat :=
  (l.takeWhile fun a => (digit a).isSome).filterMap digit

section Digits

variable {α : Type} (digit : α → Option Nat)

lemma digitRun_cons_some {a : α} {d : Nat} (ha : digit a = some d) (l : List α) :
    digitRun digit (a :: l) = d :: digitRun digit l := by
  simp [digitRun, ha]

lemma digitRun_cons_none {a : α} (ha : digit a = none) (l : List α) :
    digitRun digit (a :: l) = [] := by
  simp [digitRun, ha]

lemma leading_eq (limit : Nat) (l : List α) :
    Index.leading digit limit l = (digitRun digit l).take limit := by
  induction l generalizing limit with
  | nil => cases limit <;> rfl
  | cons a l ih =>
    cases limit with
    | zero => simp [Index.leading]
    | succ limit =>
      rw [Index.leading]
      cases ha : digit a with
      | none => simp [digitRun_cons_none digit ha]
      | some d => simp [digitRun_cons_some digit ha, ih]

lemma decode_eq (l : List α) :
    Index.decode digit l =
      if maxIndexDigits < (digitRun digit l).length then .error .indexTooLarge
      else if digitRun digit l = [] then .error .missingIndex
      else .ok (((digitRun digit l).foldl (fun n d => n * 10 + d) 0).toUInt32,
        (digitRun digit l).length) := by
  rw [Index.decode, leading_eq]
  by_cases hw : maxIndexDigits < (digitRun digit l).length
  · have htake : maxIndexDigits < ((digitRun digit l).take (maxIndexDigits + 1)).length := by
      rw [List.length_take]
      omega
    rw [if_pos htake, if_pos hw]
  · have htake : (digitRun digit l).take (maxIndexDigits + 1) = digitRun digit l :=
      List.take_of_length_le (by omega)
    rw [htake]

/-- Where digits stand before something else, they are the whole run. -/
lemma digitRun_append {ds : List α} (hds : ∀ a ∈ ds, (digit a).isSome) {b : α}
    (hb : digit b = none) (l : List α) : digitRun digit (ds ++ b :: l) = ds.filterMap digit := by
  induction ds with
  | nil => exact digitRun_cons_none digit hb l
  | cons a ds ih =>
    obtain ⟨d, hd⟩ := Option.isSome_iff_exists.mp (hds a List.mem_cons_self)
    rw [List.cons_append, digitRun_cons_some digit hd, List.filterMap_cons_some hd,
      ih fun x hx => hds x (List.mem_cons_of_mem a hx)]

lemma length_filterMap_digits {ds : List α} (hds : ∀ a ∈ ds, (digit a).isSome) :
    (ds.filterMap digit).length = ds.length := by
  rw [List.length_filterMap_eq_countP, List.countP_eq_length]
  exact hds

end Digits

/-! ### Paths to a plugin -/

def pluginPath (root digits method : String) : String :=
  "/" ++ root ++ "/" ++ digits ++ "/" ++ method

lemma toList_pluginPath (root digits method : String) :
    (pluginPath root digits method).toList =
      ('/' :: root.toList ++ ['/']) ++ (digits.toList ++ '/' :: method.toList) := by
  simp [pluginPath, String.toList_append]

lemma after?_append (start l : List Char) : Route.after? start (start ++ l) = some l := by
  rw [Route.after?, if_pos (List.prefix_append start l), List.drop_left]

lemma after?_eq_some {start l rest : List Char} (h : Route.after? start l = some rest) :
    l = start ++ rest := by
  rw [Route.after?] at h
  split at h
  · rename_i hstart
    obtain ⟨more, rfl⟩ := hstart
    rw [List.drop_left] at h
    cases h
    rfl
  · cases h

lemma after?_eq_some_iff {start l rest : List Char} :
    Route.after? start l = some rest ↔ l = start ++ rest := by
  refine ⟨after?_eq_some, ?_⟩
  rintro rfl
  exact after?_append start rest

lemma after?_eq_none_iff {start l : List Char} :
    Route.after? start l = none ↔ ∀ rest, l ≠ start ++ rest := by
  rw [Option.eq_none_iff_forall_ne_some]
  simp only [ne_eq, after?_eq_some_iff]

/-- Only what follows the root name is ever taken for a plugin's index and method. -/
lemma ofPluginPath_of_ofPath {path root : String} {index : UInt32} {method : String}
    (h : Route.ofPath path root = .plugin index method) :
    ∃ rest, Route.after? ('/' :: root.toList ++ ['/']) path.toList = some rest ∧
      Route.ofPluginPath rest = .plugin index method := by
  rw [Route.ofPath] at h
  split at h
  · cases h
  · split at h
    · cases h
    · split at h
      · cases h
      · cases h
      · split at h
        · rename_i rest hrest
          exact ⟨rest, hrest, h⟩
        · cases h

def keptMethod (method : String) : String := String.ofList (method.toList.take maxMethodLength)

/-- What digits spell. -/
def indexValue (digits : String) : UInt32 :=
  ((digits.toList.filterMap Index.charDigit).foldl (fun n d => n * 10 + d) 0).toUInt32

/-- A path that leads to a plugin has it and the method as they were written, but for the length
limit of methods. -/
lemma ofPath_pluginPath {root digits method kept : String} {index : UInt32}
    (hdigits : ∀ c ∈ digits.toList, (Index.charDigit c).isSome)
    (h : Route.ofPath (pluginPath root digits method) root = .plugin index kept) :
    index = indexValue digits ∧ kept = keptMethod method := by
  obtain ⟨rest, hrest, hplugin⟩ := ofPluginPath_of_ofPath h
  rw [toList_pluginPath, after?_append] at hrest
  cases hrest
  have hrun := digitRun_append Index.charDigit hdigits (b := '/') rfl method.toList
  rw [Route.ofPluginPath, decode_eq, hrun, length_filterMap_digits Index.charDigit hdigits] at hplugin
  split at hplugin
  · cases hplugin
  · rename_i width hdecode
    split at hdecode
    · cases hdecode
    · split at hdecode
      · cases hdecode
      · cases hdecode
        rw [List.drop_left] at hplugin
        simp only [ne_eq, not_true_eq_false, if_false] at hplugin
        split at hplugin
        · cases hplugin
        · cases hplugin
          exact ⟨rfl, rfl⟩

end RackRemote.Proofs

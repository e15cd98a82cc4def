import Mathlib.Data.List.Perm.Basic
import RackRemote.Proofs.Moves
import RackRemote.Proofs.RackSteps

/-!
# Plugins and their keys

A plugin keeps its key wherever it moves, in the rack and out of it. The keys in use are the numbers
below `created`, each once: this holds of an empty rack and after every run, so a key stands for one
plugin. A call that is made through a key reaches this plugin and no other.
-/

namespace RackRemote.Proofs
open scoped List

/-- All plugins there have been, those in the rack first. -/
def everyone (r : Rack) : List Plugin := r.plugins ++ r.removed

/-- Each number below `created` is the key of one plugin. -/
def Keyed (r : Rack) : Prop := ((everyone r).map Plugin.key).Perm (List.range r.created)

lemma Keyed.nodup {r : Rack} (h : Keyed r) : ((everyone r).map Plugin.key).Nodup :=
  h.symm.nodup List.nodup_range

lemma Keyed.key_ne_created {r : Rack} (h : Keyed r) {p : Plugin} (hp : p ∈ everyone r) :
    p.key ≠ r.created := by
  have hlt := List.mem_range.mp (h.mem_iff.mp (List.mem_map_of_mem hp))
  omega

lemma keyed_empty (info : EngineInfo) : Keyed { info } := List.Perm.refl []

/-! ### Rearranging lists -/

section Lists

variable {α : Type}

lemma append_comm_right_perm (a b c : List α) : ((a ++ b) ++ c).Perm ((a ++ c) ++ b) := by
  rw [List.append_assoc, List.append_assoc]
  exact List.perm_append_comm.append_left a

lemma exchange_perm (l : List α) (i j : Nat) : (Rack.exchange l i j).Perm l := by
  unfold Rack.exchange
  split
  · rename_i a b hi hj
    obtain ⟨hi', rfl⟩ := List.getElem?_eq_some_iff.mp hi
    obtain ⟨hj', rfl⟩ := List.getElem?_eq_some_iff.mp hj
    exact List.set_set_perm hi' hj'
  · exact List.Perm.refl l

lemma eraseIdx_perm {l : List α} {i : Nat} {a : α} (h : l[i]? = some a) :
    (l.eraseIdx i ++ [a]).Perm l := by
  obtain ⟨hi, rfl⟩ := List.getElem?_eq_some_iff.mp h
  exact (List.perm_append_singleton _ _).trans (List.getElem_cons_eraseIdx_perm hi)

lemma set_perm {l : List α} {i : Nat} {a : α} (h : l[i]? = some a) (b : α) :
    (l.set i b ++ [a]).Perm (l ++ [b]) := by
  obtain ⟨hi, _⟩ := List.getElem?_eq_some_iff.mp h
  have hset : (l.set i b).Perm (l.eraseIdx i ++ [b]) := by
    have he := eraseIdx_perm (List.getElem?_set_self hi (a := b))
    rw [List.eraseIdx_set_eq] at he
    exact he.symm
  have hcomm := append_comm_right_perm (l.eraseIdx i) [b] [a]
  exact (hset.append_right [a]).trans (hcomm.trans ((eraseIdx_perm h).append_right [b]))

lemma map_modify {β : Type} {f : α → α} {g : α → β} {f' : β → β} (hf : ∀ a, g (f a) = f' (g a))
    (l : List α) (i : Nat) : (l.modify i f).map g = (l.map g).modify i f' := by
  apply List.ext_getElem?
  intro j
  rw [List.getElem?_map, List.getElem?_modify, List.getElem?_modify, List.getElem?_map]
  cases l[j]? with
  | none => rfl
  | some a => by_cases hij : i = j <;> simp [hij, hf]

lemma map_modify_of_eq {β : Type} {f : α → α} {g : α → β} (hf : ∀ a, g (f a) = g a) (l : List α)
    (i : Nat) : (l.modify i f).map g = l.map g := by
  have hid : ∀ a, g (f a) = id (g a) := hf
  rw [map_modify hid, List.modify_id]

end Lists

/-! ### What happens to the keys -/

section Perms

variable {β : Type} {f : Plugin → β} (hid : ∀ p id, f { p with id } = f p) {r r' : Rack}
include hid

lemma map_renumber_perm {plugins removed others : List Plugin}
    (h : (plugins ++ removed).Perm others) :
    ((Rack.renumber plugins ++ removed).map f).Perm (others.map f) := by
  rw [List.map_append, renumber_map f hid, ← List.map_append]
  exact h.map f

lemma inserted_perm {name : String} {index : UInt32} {events : List Event}
    (h : Inserted r name r' index events) :
    ((everyone r').map f).Perm ((everyone r ++ [fresh r name]).map f) := by
  cases h with
  | inPlace pending occupied =>
    apply map_renumber_perm hid
    rw [← List.append_assoc]
    calc r.plugins.set _ (fresh r name) ++ r.removed ++ [_]
      _ ~ r.plugins.set _ (fresh r name) ++ [_] ++ r.removed := append_comm_right_perm _ _ _
      _ ~ r.plugins ++ [fresh r name] ++ r.removed :=
        (set_perm occupied (fresh r name)).append_right r.removed
      _ ~ everyone r ++ [fresh r name] := append_comm_right_perm _ _ _
  | atEnd vacant =>
    exact map_renumber_perm hid (append_comm_right_perm r.plugins [fresh r name] r.removed)

/-- Plugins are moved and renamed, and new ones come, but none is ever lost or changed otherwise. -/
lemma applied_perm (hname : ∀ p name, f { p with name } = f p) {request : Request}
    {events : List Event} (h : Applied r request r' events) :
    (r'.created = r.created ∧ ((everyone r').map f).Perm ((everyone r).map f)) ∨
      ∃ name, r'.created = r.created + 1 ∧
        ((everyone r').map f).Perm ((everyone r ++ [fresh r name]).map f) := by
  cases h with
  | addPlugin inserted => exact .inr ⟨_, inserted.created, inserted_perm hid inserted⟩
  | clonePlugin _ inserted => exact .inr ⟨_, inserted.created, inserted_perm hid inserted⟩
  | removePlugin occupied =>
    refine .inl ⟨rfl, map_renumber_perm hid ?_⟩
    rw [← List.append_assoc]
    exact (append_comm_right_perm _ _ _).trans ((eraseIdx_perm occupied).append_right r.removed)
  | removeAllPlugins =>
    have hswap : (r.removed ++ r.plugins).Perm (r.plugins ++ r.removed) := List.perm_append_comm
    exact .inl ⟨rfl, hswap.map f⟩
  | @renamePlugin index _ name _ =>
    have hkept : (r.plugins.modify index.toNat fun p => { p with name }).map f =
        r.plugins.map f := by
      apply map_modify_of_eq
      intro p
      exact hname p name
    refine .inl ⟨rfl, ?_⟩
    rw [everyone, everyone, List.map_append, hkept, ← List.map_append]
  | switchPlugins _ _ _ =>
    exact .inl ⟨rfl, map_renumber_perm hid ((exchange_perm _ _ _).append_right r.removed)⟩
  | _ => exact .inl ⟨rfl, List.Perm.refl _⟩

end Perms

lemma keyed_of_grown {r r' : Rack} {name : String} (hr : Keyed r)
    (hcreated : r'.created = r.created + 1)
    (hperm : ((everyone r').map Plugin.key).Perm ((everyone r ++ [fresh r name]).map Plugin.key)) :
    Keyed r' := by
  rw [Keyed, hcreated, List.range_succ]
  rw [List.map_append] at hperm
  exact hperm.trans (hr.append_right [r.created])

lemma inserted_keyed {r r' : Rack} {name : String} {index : UInt32} {events : List Event}
    (h : Inserted r name r' index events) (hr : Keyed r) : Keyed r' :=
  keyed_of_grown hr h.created (inserted_perm (fun _ _ => rfl) h)

lemma applied_keyed {r r' : Rack} {request : Request} {events : List Event}
    (h : Applied r request r' events) (hr : Keyed r) : Keyed r' := by
  rcases applied_perm (f := Plugin.key) (fun _ _ => rfl) (fun _ _ => rfl) h with
    ⟨hcreated, hperm⟩ | ⟨name, hcreated, hperm⟩
  · rw [Keyed, hcreated]
    exact hperm.trans hr
  · exact keyed_of_grown hr hcreated hperm

/-- A call leaves everything as it is that does not depend on the calls. -/
lemma map_change {β : Type} {f : Plugin → β} {action : Action} {origin : Origin}
    (hlog : ∀ p : Plugin, f (p.log action origin) = f p) (plugins : List Plugin) (key : Nat) :
    (plugins.map fun p => if p.key = key then p.log action origin else p).map f = plugins.map f := by
  rw [List.map_map]
  apply List.map_congr_left
  intro p _
  dsimp only [Function.comp_apply]
  split
  · exact hlog p
  · rfl

lemma everyone_act (r : Rack) (key : Nat) (action : Action) (origin : Origin) :
    everyone (r.act key action origin).1 =
      (everyone r).map fun p => if p.key = key then p.log action origin else p := by
  simp only [everyone, Rack.act, Rack.modify, List.map_append]

lemma act_map_key (r : Rack) (key : Nat) (action : Action) (origin : Origin) :
    (everyone (r.act key action origin).1).map Plugin.key = (everyone r).map Plugin.key := by
  rw [everyone_act]
  exact map_change (fun _ => rfl) (everyone r) key

lemma keptByRack_keyed : KeptByRack Keyed where
  perform r request origin hr := by
    rcases perform_cases r request origin with ⟨r', events, ha, hp⟩ | ⟨fault, hp⟩
    · rw [hp]
      exact applied_keyed ha hr
    · rw [hp]
      exact hr
  insert r name hr := inserted_keyed (inserted_insert r name) hr
  act r key action origin hr := by
    rw [Keyed, act_map_key]
    exact hr
  countXrun r hr := hr

/-- Whatever happens to a host, its plugins have keys of their own. -/
theorem keyed_run {κ : Type} [Courier κ] {h : Host κ} (hr : Keyed h.rack) (moves : List Move) :
    Keyed (run h moves).rack :=
  keptByRack_keyed.run hr moves

lemma keyed_started {κ : Type} [Courier κ] {setup : Setup} {info : EngineInfo} {courier : κ}
    {h : Host κ} (hs : Host.start? setup { info } courier = some h) (moves : List Move) :
    Keyed (run h moves).rack := by
  obtain rfl := start?_eq_some hs
  exact keyed_run (keyed_empty info) moves

/-! ### One call -/

/-- Of all plugins there are, one has received one call; nothing else has changed. -/
structure OneCall (r r' : Rack) (p : Plugin) (action : Action) (origin : Origin) : Prop where
  everyone : ∃ before after, everyone r = before ++ p :: after ∧
    Proofs.everyone r' = before ++ p.log action origin :: after
  length : r'.plugins.length = r.plugins.length
  rest : r' = { r with plugins := r'.plugins, removed := r'.removed }

lemma find?_eq_some {r : Rack} {key : Nat} {p : Plugin} (h : r.find? key = some p) :
    p ∈ everyone r ∧ p.key = key := by
  refine ⟨List.mem_of_find?_eq_some h, ?_⟩
  have hkey := List.find?_some h
  simpa using hkey

lemma oneCall_act {r : Rack} (hkeys : ((everyone r).map Plugin.key).Nodup) {p : Plugin}
    (hp : p ∈ everyone r) (action : Action) (origin : Origin) :
    OneCall r (r.act p.key action origin).1 p action origin where
  everyone := by
    obtain ⟨before, after, hsplit⟩ := List.append_of_mem hp
    refine ⟨before, after, hsplit, ?_⟩
    have hothers : ∀ l : List Plugin, (∀ q ∈ l, q.key ≠ p.key) →
        l.map (fun q => if q.key = p.key then q.log action origin else q) = l := by
      intro l hl
      conv_rhs => rw [← List.map_id l]
      exact List.map_congr_left fun q hq => if_neg (hl q hq)
    rw [hsplit, List.map_append, List.map_cons, List.nodup_append] at hkeys
    obtain ⟨_, hafter, hbefore⟩ := hkeys
    rw [List.nodup_cons] at hafter
    rw [everyone_act, hsplit, List.map_append, List.map_cons, if_pos rfl, hothers before,
      hothers after]
    · intro q hq heq
      exact hafter.1 (heq ▸ List.mem_map_of_mem hq)
    · intro q hq heq
      exact hbefore q.key (List.mem_map_of_mem hq) p.key List.mem_cons_self heq
  length := by simp only [Rack.act, Rack.modify, List.length_map]
  rest := rfl

end RackRemote.Proofs

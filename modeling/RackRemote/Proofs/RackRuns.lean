import RackRemote.Proofs.Moves

/-!
# Runs of a rack

A rack is used by requests, by its user who loads plugins, by calls to plugins wherever they are, and
by dropouts of the audio stream. Whatever happens to a host, its rack goes through such a run.
-/

namespace RackRemote.Proofs

inductive Use where
  | request (request : Request) (origin : Origin)
  | load (name : String)
  | act (key : Nat) (action : Action) (origin : Origin)
  | xrun

/-- The rack after a use. -/
def used (r : Rack) : Use → Rack
  | .request request origin => (r.perform request origin).1
  | .load name => (r.insert name).1
  | .act key action origin => (r.act key action origin).1
  | .xrun => r.countXrun

def usedAll (r : Rack) (uses : List Use) : Rack := uses.foldl used r

@[simp] lemma usedAll_nil (r : Rack) : usedAll r [] = r := rfl

@[simp] lemma usedAll_cons (r : Rack) (u : Use) (uses : List Use) :
    usedAll r (u :: uses) = usedAll (used r u) uses := rfl

lemma usedAll_append (r : Rack) (first second : List Use) :
    usedAll r (first ++ second) = usedAll (usedAll r first) second := List.foldl_append

namespace KeptByRack

variable {P : Rack → Prop} (kept : KeptByRack P)
include kept

lemma used {r : Rack} (hP : P r) (u : Use) : P (used r u) := by
  cases u with
  | request request origin => exact kept.perform r request origin hP
  | load name => exact kept.insert r name hP
  | act key action origin => exact kept.act r key action origin hP
  | xrun => exact kept.countXrun r hP

lemma usedAll {r : Rack} (hP : P r) (uses : List Use) : P (usedAll r uses) := by
  induction uses generalizing r with
  | nil => exact hP
  | cons u uses ih =>
    have hu := kept.used hP u
    exact ih hu

end KeptByRack

lemma reached_used (start : Rack) (uses : List Use) (u : Use) :
    ∃ more, used (usedAll start uses) u = usedAll start more :=
  ⟨uses ++ [u], (usedAll_append start uses [u]).symm⟩

lemma keptByRack_reached (start : Rack) : KeptByRack fun r => ∃ uses, r = usedAll start uses where
  perform := by
    rintro r request origin ⟨uses, rfl⟩
    exact reached_used start uses (.request request origin)
  insert := by
    rintro r name ⟨uses, rfl⟩
    exact reached_used start uses (.load name)
  act := by
    rintro r key action origin ⟨uses, rfl⟩
    exact reached_used start uses (.act key action origin)
  countXrun := by
    rintro r ⟨uses, rfl⟩
    exact reached_used start uses .xrun

theorem run_rack {κ : Type} [Courier κ] (h : Host κ) (moves : List Move) :
    ∃ uses, (run h moves).rack = usedAll h.rack uses :=
  (keptByRack_reached h.rack).run ⟨[], rfl⟩ moves

end RackRemote.Proofs

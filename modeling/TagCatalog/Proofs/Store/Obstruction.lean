import TagCatalog.Proofs.Store.Hindrance

/-!
# Disks that cannot be written to

Whether a document can be written does not depend on its text, and neither does what is
found at its path where it cannot.  From then on nothing is written any more and what is
loaded stays as it is.
-/

namespace TagCatalog.OnDisk

open Disk TagCatalog.Path

variable {path text : String} {disk grown altered : Disk} {fault : Fault}

theorem find_of_writeOver (made : makeParent path disk = (.ok (), grown))
    (failed : writeOver path text disk = (.error fault, altered)) (node : Node) :
    altered.find path = .ok node ↔ grown.find path = .ok node := by
  rw [writeOver, Action.bind_of_ok made] at failed
  rcases Action.of_bind_eq_error failed with draftFailed | ⟨_, drafted, drafting, moving⟩
  · rw [eq_of_writeBytes draftFailed]
  · exact find_eq_ok_iff_of_rename drafting moving node

/-- What is found behind a failure to write is what was found when the directory had been
made, or had not. -/
theorem find_of_writeOver_of_error (failed : writeOver path text disk = (.error fault, altered))
    (node : Node) :
    altered.find path = .ok node ↔ (makeParent path disk).2.find path = .ok node := by
  cases step : makeParent path disk with
  | mk outcome grown =>
      cases outcome with
      | ok => exact find_of_writeOver step failed node
      | error parentFault =>
          rw [writeOver, Action.bind_of_error step] at failed
          cases failed
          rfl

/-- Whether a document can be written does not depend on the text. -/
theorem exists_of_writeOver_eq_error (failed : writeOver path text disk = (.error fault, altered))
    (other : String) :
    ∃ otherFault after, writeOver path other disk = (.error otherFault, after) := by
  cases step : writeOver path other disk with
  | mk outcome after =>
      cases outcome with
      | error otherFault => exact ⟨otherFault, after, rfl⟩
      | ok =>
          obtain ⟨grown, made, same⟩ := exists_makeParent_of_writeOver step
          have settled := (settled_of_writeOver step).of_sameDirectories same.symm
          obtain ⟨_, written⟩ := writeOver_of_makeParent made settled text
          rw [failed] at written
          cases written

/-- Whether no document can be written, and all directories on the way that can be made
are there. -/
structure Obstructed (path : String) (disk : Disk) : Prop where
  hindered : Hindered path disk
  parent : (makeParent path disk).2 = disk

theorem makeParent_again_of_error (failed : makeParent path disk = (.error fault, altered)) :
    (makeParent path altered).2 = altered := by
  rw [makeParent_apply] at failed ⊢
  cases isParent : parent? path with
  | none => rfl
  | some parent =>
      simp only [isParent] at failed
      split at failed
      next => cases failed
      next =>
        have again := makeDirectories_again_of_error failed
        dsimp only
        split
        next => rfl
        next => rw [again]

theorem obstructed_of_writeOver (failed : writeOver path text disk = (.error fault, altered)) :
    Obstructed path altered := by
  refine ⟨hindered_of_writeOver failed, ?_⟩
  rcases of_writeOver_eq_error failed with parentFailed | ⟨grown, made, same, contains⟩
  · exact makeParent_again_of_error parentFailed
  · rw [makeParent_again made same.keeps contains]

/-- No call gets past an obstruction, or changes what is found at the path. -/
theorem Obstructed.perform (obstructed : Obstructed path disk) (operation : Store.Operation) :
    Obstructed path ((store path).perform operation disk).2 ∧ ∀ node,
      ((store path).perform operation disk).2.find path = .ok node ↔ disk.find path = .ok node := by
  have step := step_perform path operation disk
  generalize (store path).perform operation disk = result at step
  cases step with
  | asked | refused => exact ⟨obstructed, fun _ => .rfl⟩
  | saved _ written => exact absurd (congrArg Prod.fst written) (obstructed.hindered _)
  | failed _ failed =>
      have same := find_of_writeOver_of_error failed
      rw [obstructed.parent] at same
      exact ⟨obstructed_of_writeOver failed, same⟩

theorem Obstructed.find_run (obstructed : Obstructed path disk)
    (operations : List Store.Operation) (node : Node) :
    ((store path).run operations disk).2.find path = .ok node ↔ disk.find path = .ok node := by
  induction operations generalizing disk with
  | nil => rfl
  | cons operation rest inductionHypothesis =>
      obtain ⟨still, same⟩ := obstructed.perform operation
      rw [Store.run_cons, inductionHypothesis still, same]

theorem exists_write_eq_error (blocked : ∀ place, disk.locate path = .ok place →
      disk.nodeAt? place = some .directory) :
    ∃ fault, ∀ text, write path text disk = (.error fault, disk) := by
  simp only [write, writeBytes, get_bind_apply]
  cases located : disk.locate path with
  | error fault => exact ⟨fault, fun _ => rfl⟩
  | ok place =>
      simp only [blocked place located]
      exact ⟨.isDirectory, fun _ => rfl⟩

/-- A document that is there can be written over, or no attempt to do so changes anything. -/
theorem settled_or_writeOver_eq_self {content : ByteArray}
    (found : disk.find path = .ok (.file content)) :
    Settled path disk ∨ ∃ fault, ∀ text, writeOver path text disk = (.error fault, disk) := by
  obtain ⟨place, located, isFile⟩ := find_eq_ok_iff.mp found
  have document : ∃ place, disk.locate path = .ok place ∧ disk.nodeAt? place ≠ some .directory := by
    refine ⟨place, located, ?_⟩
    rw [isFile]
    nofun
  have parent := find_parent_or_isEmpty located
  by_cases draft : ∃ place, disk.locate (draftPath path) = .ok place ∧
      disk.nodeAt? place ≠ some .directory
  · exact .inl ⟨parent, draft, document⟩
  · have blocked : ∀ place, disk.locate (draftPath path) = .ok place →
        disk.nodeAt? place = some .directory := by
      intro place located
      exact Decidable.byContradiction fun free => draft ⟨place, located, free⟩
    obtain ⟨fault, fails⟩ := exists_write_eq_error blocked
    refine .inr ⟨fault, fun text => ?_⟩
    rw [writeOver, Action.bind_of_ok (makeParent_of_find parent), Action.bind_of_error (fails text)]

end TagCatalog.OnDisk

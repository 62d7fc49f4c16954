import TagCatalog.Proofs.Disk.Repetition
import TagCatalog.Proofs.Store.Alteration

/-!
# Saving once and saving again

What stands in the way of a document stays there.  Where a document has been written,
the disk is settled, so whatever is written next is written too.  Where it has not, the
disk is hindered, and nothing is written any more.
-/

namespace TagCatalog.Disk

open TagCatalog.Path

variable {disk altered : Disk} {path parent : String} {place : Place} {content : ByteArray}

theorem textFault?_eq_none_iff : textFault? path = none ↔
    '\x00' ∉ path.toList ∧ path.utf8ByteSize ≤ pathLimit := by
  unfold textFault?
  by_cases null : '\x00' ∈ path.toList
  · simp [null]
  · simp [null]

theorem textFault?_eq_none_of_front {front : String} (faultless : textFault? path = none)
    (isFront : ∃ rest, path.toList = front.toList ++ rest) : textFault? front = none := by
  obtain ⟨rest, parts⟩ := isFront
  obtain ⟨notNull, short⟩ := textFault?_eq_none_iff.mp faultless
  have whole : path = front ++ String.ofList rest := by
    apply String.toList_injective
    rw [parts, String.toList_append, String.toList_ofList]
  rw [whole, String.utf8ByteSize_append] at short
  rw [parts] at notNull
  apply textFault?_eq_none_iff.mpr
  exact ⟨fun inFront => notNull (List.mem_append_left _ inFront), by omega⟩

theorem find_root (disk : Disk) : disk.find "/" = .ok .directory := rfl

theorem find_parent_of_locate (isParent : parent? path = some parent) (nonempty : parent ≠ "")
    (located : disk.locate path = .ok place) : disk.find parent = .ok .directory := by
  obtain ⟨front, middle, goesOn⟩ := exists_goesOn isParent nonempty
  rcases goesOn.front with whole | ⟨rfl, -⟩
  · obtain ⟨faultless, -, walked⟩ := locate_eq_ok_iff.mp located
    rw [goesOn.components] at walked
    obtain ⟨between, reached, onward⟩ := walk_append_eq_ok_iff.mp walked
    have goesFurther : middle ≠ [] := by
      rintro rfl
      obtain ⟨_, inMiddle, -⟩ := goesOn.named
      cases inMiddle
    refine find_eq_ok_iff.mpr ⟨between, ?_, directory_of_walk goesFurther onward⟩
    apply locate_eq_ok_iff.mpr
    refine ⟨textFault?_eq_none_of_front faultless goesOn.text, by simpa using nonempty, ?_⟩
    rw [whole, start_of_front nonempty goesOn.text]
    exact reached
  · exact find_root disk

theorem makeDirectories_of_find (found : disk.find path = .ok .directory) :
    makeDirectories path disk = (.ok (), disk) := by
  obtain ⟨place, located, isDirectory⟩ := find_eq_ok_iff.mp found
  obtain ⟨faultless, -, walked⟩ := locate_eq_ok_iff.mp located
  exact makeDirectories_of_walk faultless walked isDirectory

theorem contains_of_writeBytes (written : writeBytes parent content disk = (.ok (), altered))
    (contained : disk.contains path = true) : altered.contains path = true := by
  rcases find_of_writeBytes written path with same | read
  · cases found : disk.find path with
    | error =>
        rw [contains, found] at contained
        cases contained
    | ok node => exact contains_of_find ((same node).mpr found)
  · exact contains_of_find (readBytes_eq_ok_iff.mp read)

end TagCatalog.Disk

namespace TagCatalog.OnDisk

open Disk TagCatalog.Path

variable {path text : String} {disk grown altered : Disk} {place : Place} {fault : Fault}

theorem makeParent_eq_makeDirectories {parent : String} (isParent : parent? path = some parent)
    (nonempty : parent.isEmpty = false) (missing : disk.contains parent = false) :
    makeParent path disk = makeDirectories parent disk := by
  rw [makeParent_apply, isParent]
  simp [nonempty, missing]

theorem makeParent_again (made : makeParent path disk = (.ok (), grown))
    (keeps : KeepsDirectories grown altered)
    (contains : ∀ path, grown.contains path = true → altered.contains path = true) :
    makeParent path altered = (.ok (), altered) := by
  rw [makeParent_apply] at made ⊢
  cases isParent : parent? path with
  | none => rfl
  | some parent =>
      simp only [isParent] at made
      split at made
      next there =>
        cases made
        have stillThere : (parent.isEmpty || altered.contains parent) = true := by
          rw [Bool.or_eq_true] at there ⊢
          exact there.imp_right (contains parent)
        exact if_pos stillThere
      next =>
        simp only [makeDirectories_again_of_ok made keeps, ite_self]

theorem exists_makeParent_of_writeOver (written : writeOver path text disk = (.ok (), altered)) :
    ∃ grown, makeParent path disk = (.ok (), grown) ∧ SameDirectories grown altered := by
  obtain ⟨_, grown, made, written⟩ := Action.exists_of_bind_eq_ok written
  obtain ⟨_, drafted, drafting, moved⟩ := Action.exists_of_bind_eq_ok written
  exact ⟨grown, made,
    (sameDirectories_of_writeBytes drafting).trans (sameDirectories_of_rename moved)⟩

theorem find_parent_or_isEmpty (located : disk.locate path = .ok place) (parent : String)
    (isParent : parent? path = some parent) :
    parent.isEmpty = true ∨ disk.find parent = .ok .directory := by
  by_cases empty : parent = ""
  · exact .inl (by rw [empty]; rfl)
  · exact .inr (find_parent_of_locate isParent empty located)

theorem settled_of_writeOver (written : writeOver path text disk = (.ok (), altered)) :
    Settled path altered := by
  obtain ⟨_, grown, made, written⟩ := Action.exists_of_bind_eq_ok written
  obtain ⟨_, drafted, drafting, moved⟩ := Action.exists_of_bind_eq_ok written
  have draftSame := sameDirectories_of_writeBytes drafting
  have same := sameDirectories_of_rename moved
  obtain ⟨draft, draftLocated, draftFree, -⟩ := writeBytes_eq_ok_iff.mp drafting
  obtain ⟨_, _, place, -, -, located, free, -⟩ := rename_eq_ok_iff.mp moved
  have locatedLast := same.keeps.locate located
  constructor
  · exact find_parent_or_isEmpty locatedLast
  · have both := draftSame.trans same
    exact ⟨draft, both.keeps.locate draftLocated, mt (both.directory draft).mp draftFree⟩
  · exact ⟨place, locatedLast, mt (same.directory place).mp free⟩

/-- Whether no document can be written. -/
def Hindered (path : String) (disk : Disk) : Prop :=
  ∀ text, (writeOver path text disk).1 ≠ .ok ()

/-- Were a document written, then on a settled disk. -/
theorem hindered_of_not_settled
    (notSettled : ∀ grown, makeParent path disk = (.ok (), grown) → ¬ Settled path grown) :
    Hindered path disk := by
  intro text written
  have written : writeOver path text disk = (.ok (), (writeOver path text disk).2) :=
    Prod.ext written rfl
  obtain ⟨grown, made, same⟩ := exists_makeParent_of_writeOver written
  exact notSettled grown made ((settled_of_writeOver written).of_sameDirectories same.symm)

/-- What has kept the parent from being made keeps it from being made later. -/
theorem hindered_of_makeParent (failed : makeParent path disk = (.error fault, altered)) :
    Hindered path altered := by
  apply hindered_of_not_settled
  intro grown made settled
  rw [makeParent_apply] at failed
  split at failed
  next parent isParent =>
    split at failed
    next => cases failed
    next missing =>
      have again := makeDirectories_again_of_error failed
      have nonempty : parent.isEmpty = false := by simp_all
      cases contained : altered.contains parent with
      | false =>
          rw [makeParent_eq_makeDirectories isParent nonempty contained, again] at made
          cases made
      | true =>
          rw [makeParent_apply, isParent] at made
          simp only [contained, Bool.or_true, if_true] at made
          cases made
          rcases settled.parent parent isParent with empty | found
          · rw [nonempty] at empty
            cases empty
          · rw [makeDirectories_of_find found] at again
            cases again
  next => cases failed

theorem writeOver_of_makeParent (made : makeParent path disk = (.ok (), grown))
    (settled : Settled path grown) (text : String) :
    ∃ altered, writeOver path text disk = (.ok (), altered) := by
  obtain ⟨altered, written, -⟩ := settled.writeOver text
  rw [writeOver, Action.bind_of_ok settled.makeParent] at written
  refine ⟨altered, ?_⟩
  rw [writeOver, Action.bind_of_ok made]
  exact written

/-- A document that is not written leaves all directories as they are once its own has
been made. -/
theorem of_writeOver_eq_error (failed : writeOver path text disk = (.error fault, altered)) :
    makeParent path disk = (.error fault, altered) ∨
      ∃ grown, makeParent path disk = (.ok (), grown) ∧ SameDirectories grown altered ∧
        ∀ path, grown.contains path = true → altered.contains path = true := by
  rcases Action.of_bind_eq_error failed with parentFailed | ⟨_, grown, made, rest⟩
  · exact .inl parentFailed
  · refine .inr ⟨grown, made, ?_⟩
    rcases Action.of_bind_eq_error rest with draftFailed | ⟨_, drafted, drafting, moving⟩
    · rw [eq_of_writeBytes draftFailed]
      exact ⟨⟨rfl, fun _ => .rfl⟩, fun _ => id⟩
    · rw [eq_of_rename moving]
      exact ⟨sameDirectories_of_writeBytes drafting, fun _ => contains_of_writeBytes drafting⟩

/-- A document that cannot be written at once cannot be written later. -/
theorem hindered_of_writeOver (failed : writeOver path text disk = (.error fault, altered)) :
    Hindered path altered := by
  rcases of_writeOver_eq_error failed with parentFailed | ⟨grown, made, same, contains⟩
  · exact hindered_of_makeParent parentFailed
  · apply hindered_of_not_settled
    intro grownAgain madeAgain settled
    -- The parent is there, so the second attempt needs no more than the first.
    rw [makeParent_again made same.keeps contains] at madeAgain
    cases madeAgain
    obtain ⟨_, written⟩ := writeOver_of_makeParent made (settled.of_sameDirectories same.symm) text
    rw [failed] at written
    cases written

theorem not_done_of_hindered (hindered : Hindered path disk) (operations : List Store.Operation) :
    .ok .done ∉ ((store path).run operations disk).1 := by
  induction operations generalizing disk with
  | nil => exact List.not_mem_nil
  | cons operation rest inductionHypothesis =>
      have step := step_perform path operation disk
      rw [Store.run_cons]
      generalize (store path).perform operation disk = result at step
      cases step with
      | asked _ notDone =>
          exact List.not_mem_cons_of_ne_of_not_mem notDone.symm (inductionHypothesis hindered)
      | refused => exact List.not_mem_cons_of_ne_of_not_mem nofun (inductionHypothesis hindered)
      | saved _ written => exact absurd (congrArg Prod.fst written) (hindered _)
      | failed _ failed =>
          have stillHindered := hindered_of_writeOver failed
          exact List.not_mem_cons_of_ne_of_not_mem nofun (inductionHypothesis stillHindered)

end TagCatalog.OnDisk

import TagCatalog.Proofs.Disk
import TagCatalog.Proofs.Store.Abstraction
import TagCatalog.Proofs.Store.Document
import TagCatalog.Store.OnDisk

/-!
# What is saved is loaded

A database that has been saved is what the next operation loads
(`load_of_save`).  Where the directory of a document is there and no directory
is in the way, saving succeeds and leaves the disk like that (`Settled.save`).
-/

namespace TagCatalog.OnDisk

open Disk

variable {path text : String} {disk altered : Disk} {database : Database}

theorem consistent_of_load (loaded : load path disk = .ok database) : database.Consistent := by
  have empty : Database.empty.Consistent := Database.firstFault?_eq_none_iff.mp rfl
  unfold load at loaded
  split at loaded
  next =>
    split at loaded
    next text read =>
      unfold ofText at loaded
      split at loaded
      next => cases loaded
      next decoded _ =>
        split at loaded
        next => cases loaded
        next faultless =>
          cases loaded
          exact Database.firstFault?_eq_none_iff.mp faultless
    next => cases loaded
  next =>
    cases loaded
    exact empty

theorem ofText_encode (consistent : database.Consistent) :
    ofText (Document.encode database) = .ok database := by
  rw [ofText, Document.decode_encode]
  simp only [Database.firstFault?_eq_none_iff.mpr consistent]

theorem readBytes_of_writeOver (written : writeOver path text disk = (.ok (), altered)) :
    altered.readBytes path = .ok text.toUTF8 := by
  obtain ⟨_, parented, -, written⟩ := Action.exists_of_bind_eq_ok written
  obtain ⟨_, drafted, drafting, moved⟩ := Action.exists_of_bind_eq_ok written
  exact readBytes_of_rename moved (readBytes_of_writeBytes drafting)

theorem load_of_readBytes (read : disk.readBytes path = .ok text.toUTF8) :
    load path disk = ofText text := by
  rw [load, if_pos (contains_of_find (readBytes_eq_ok_iff.mp read)), read_of_readBytes read]

theorem load_of_directory (found : disk.find path = .ok .directory) :
    load path disk = .error (.disk .isDirectory) := by
  rw [load, if_pos (contains_of_find found), Disk.read, readBytes, found]

theorem readBytes_of_save (saved : save path database disk = (.ok (), altered)) :
    altered.readBytes path = .ok (Document.encode database).toUTF8 := by
  unfold save ofChange at saved
  split at saved
  next written =>
    cases saved
    exact readBytes_of_writeOver written
  next => cases saved

theorem load_of_save (consistent : database.Consistent)
    (saved : save path database disk = (.ok (), altered)) :
    load path altered = .ok database := by
  rw [load_of_readBytes (readBytes_of_save saved)]
  exact ofText_encode consistent

/-- Whether the directory of a document is there, and no directory stands where
the document and its draft are written. -/
structure Settled (path : String) (disk : Disk) : Prop where
  parent : ∀ parent, Path.parent? path = some parent →
    parent.isEmpty = true ∨ disk.find parent = .ok .directory
  draft : ∃ place, disk.locate (draftPath path) = .ok place ∧
    disk.nodeAt? place ≠ some .directory
  document : ∃ place, disk.locate path = .ok place ∧ disk.nodeAt? place ≠ some .directory

theorem makeParent_of_find (there : ∀ parent, Path.parent? path = some parent →
      parent.isEmpty = true ∨ disk.find parent = .ok .directory) :
    makeParent path disk = (.ok (), disk) := by
  rw [OnDisk.makeParent, get_bind_apply]
  cases hasParent : Path.parent? path with
  | none => rfl
  | some parent =>
      have there : (parent.isEmpty || disk.contains parent) = true := by
        rcases there parent hasParent with empty | found
        · rw [empty, Bool.true_or]
        · rw [contains_of_find found, Bool.or_true]
      simp only [there, if_true]
      rfl

theorem Settled.makeParent (settled : Settled path disk) :
    makeParent path disk = (.ok (), disk) :=
  makeParent_of_find settled.parent

theorem Settled.of_sameDirectories (settled : Settled path disk)
    (same : SameDirectories disk altered) : Settled path altered := by
  have parent : ∀ parent, Path.parent? path = some parent →
      parent.isEmpty = true ∨ altered.find parent = .ok .directory := by
    intro parent hasParent
    exact (settled.parent parent hasParent).imp_right same.keeps.find
  obtain ⟨draft, draftLocated, draftFree⟩ := settled.draft
  obtain ⟨place, located, free⟩ := settled.document
  exact ⟨parent, ⟨draft, same.keeps.locate draftLocated, mt (same.directory draft).mp draftFree⟩,
    ⟨place, same.keeps.locate located, mt (same.directory place).mp free⟩⟩

/-- A draft is written, and takes the place of the document. -/
theorem Settled.writeOver (settled : Settled path disk) (text : String) :
    ∃ altered, writeOver path text disk = (.ok (), altered) ∧ Settled path altered := by
  obtain ⟨draft, draftLocated, draftFree⟩ := settled.draft
  have drafting : write (draftPath path) text disk =
      (.ok (), disk.put draft (.file text.toUTF8)) :=
    writeBytes_eq_ok_iff.mpr ⟨draft, draftLocated, draftFree, rfl⟩
  have drafted := settled.of_sameDirectories (sameDirectories_of_writeBytes drafting)
  obtain ⟨source, sourceLocated, -⟩ := drafted.draft
  obtain ⟨place, located, free⟩ := drafted.document
  have moving := rename_eq_ok_iff.mpr ⟨source, text.toUTF8, place, sourceLocated,
    readBytes_of_writeBytes drafting, located, free, rfl⟩
  refine ⟨_, ?_, drafted.of_sameDirectories (sameDirectories_of_rename moving)⟩
  rw [OnDisk.writeOver, Action.bind_of_ok settled.makeParent]
  exact (Action.bind_of_ok drafting).trans moving

theorem Settled.save (settled : Settled path disk) (database : Database) :
    ∃ altered, save path database disk = (.ok (), altered) ∧ Settled path altered := by
  obtain ⟨altered, written, stillSettled⟩ := settled.writeOver (Document.encode database)
  refine ⟨altered, ?_, stillSettled⟩
  rw [OnDisk.save, ofChange, written]

theorem exists_save_eq (database : Database) (undisturbed : Settled path disk ∨
      ∀ fault, (save path database disk).1 ≠ .error (.disk fault)) :
    ∃ altered, save path database disk = (.ok (), altered) := by
  rcases undisturbed with settled | noFault
  · obtain ⟨altered, saved, -⟩ := settled.save database
    exact ⟨altered, saved⟩
  · unfold save ofChange at noFault ⊢
    split
    next altered _ => exact ⟨altered, rfl⟩
    next fault altered failed =>
      rw [failed] at noFault
      exact absurd rfl (noFault fault)

theorem Settled.change (settled : Settled path disk)
    (alter : Database → Except Error Database) : Settled path (change path alter disk).2 := by
  unfold OnDisk.change
  split
  next altered _ =>
    obtain ⟨next, saved, stillSettled⟩ := settled.save altered
    rw [saved]
    exact stillSettled
  next => exact settled

/-- No call unsettles a disk. -/
theorem Settled.perform (settled : Settled path disk) (operation : Store.Operation) :
    Settled path ((store path).perform operation disk).2 := by
  cases operation with
  | updateTag | removeTag | updateFile | removeFile =>
      rw [Store.perform, Action.map_eq]
      exact settled.change _
  | file | fileAt | allFiles | tags | addedAt | listing | matching =>
      rw [Store.perform, Action.map_eq]
      exact settled

end TagCatalog.OnDisk

import TagCatalog.Proofs.Command.Call
import TagCatalog.Proofs.Store.Reflection

/-!
# Sound databases

A database is sound if it is consistent and its labels have names that a tag may have.
The changes that commands make leave a database sound.  Where all files on a disk are the
documents of sound databases, every path leads to one, to a directory, or to nothing.
-/

namespace TagCatalog

namespace Database

variable {database altered : Database} {id : Uuid} {record : Record}

structure Sound (database : Database) : Prop where
  consistent : database.Consistent
  free : ∀ {id record}, database.records.get? id = some record →
    ∀ label ∈ record.labels, Tag.Name.fault? label.name = none

theorem sound_empty : Sound .empty :=
  ⟨firstFault?_eq_none_iff.mp rfl, nofun⟩

theorem free_of_mem_tagTable {labels : List Label}
    (free : ∀ label ∈ labels, Tag.Name.fault? label.name = none) :
    ∀ tag ∈ (tagTable labels).values, Tag.Name.fault? tag.name = none := by
  intro tag membership
  obtain ⟨_, inTable, rfl⟩ := List.mem_map.mp membership
  obtain ⟨tag, inTags, rfl⟩ := exists_of_mem_ofList inTable
  obtain ⟨label, inLabels, named⟩ := List.mem_filterMap.mp inTags
  rw [Command.name_of_of? named]
  exact free label inLabels

theorem Sound.free_of_tags (sound : database.Sound) {tags : List Tag}
    (found : database.tags id = .ok tags) : ∀ tag ∈ tags, Tag.Name.fault? tag.name = none := by
  obtain ⟨record, isRecord, rfl⟩ := exists_labels_of_tags sound.consistent found
  exact free_of_mem_tagTable (sound.free isRecord)

theorem free_put (sound : database.Sound)
    (free : ∀ label ∈ record.labels, Tag.Name.fault? label.name = none) :
    ∀ {other otherRecord}, (database.put id record).records.get? other = some otherRecord →
      ∀ label ∈ otherRecord.labels, Tag.Name.fault? label.name = none := by
  intro other otherRecord found
  rcases get?_put found with ⟨-, rfl⟩ | ⟨-, kept⟩
  · exact free
  · exact sound.free kept

theorem Sound.updateTag (sound : database.Sound) {tag : Tag}
    (free : Tag.Name.fault? tag.name = none)
    (updated : database.updateTag id tag = .ok altered) : altered.Sound := by
  refine ⟨sound.consistent.updateTag updated, ?_⟩
  obtain ⟨record, present, rfl⟩ := exists_of_updateTag updated
  apply free_put sound
  intro label membership
  rcases mem_of_mem_replace membership with kept | rfl
  · exact sound.free present label kept
  · exact free

theorem Sound.removeTag (sound : database.Sound) {name : String}
    (removed : database.removeTag id name = .ok altered) : altered.Sound := by
  refine ⟨sound.consistent.removeTag removed, ?_⟩
  obtain ⟨record, present, rfl⟩ := exists_of_removeTag removed
  apply free_put sound
  intro label membership
  exact sound.free present label (mem_of_mem_without membership)

theorem Sound.updateFile (sound : database.Sound) {now : Instant} {file : File} {tags : List Tag}
    (free : ∀ tag ∈ tags, Tag.Name.fault? tag.name = none)
    (updated : database.updateFile now file tags = .ok altered) : altered.Sound := by
  refine ⟨sound.consistent.updateFile updated, ?_⟩
  obtain ⟨-, addedAt, rfl⟩ := exists_of_updateFile updated
  apply free_put sound
  intro label membership
  obtain ⟨tag, normalized, rfl⟩ := List.mem_map.mp membership
  exact free tag (mem_of_mem_normalized normalized)

theorem Sound.removeFile (sound : database.Sound)
    (removed : database.removeFile id = .ok altered) : altered.Sound := by
  refine ⟨sound.consistent.removeFile removed, ?_⟩
  rw [eq_of_removeFile removed]
  exact fun found => sound.free (Table.get?_of_get?_erase found)

/-- The changes that commands make leave a database sound, if their tags come from it. -/
theorem Sound.alter {State : Type} {store : Store State} {state : State}
    {operation : Store.Operation} (sound : database.Sound)
    (answers : ∀ file, (store.tags file state).1 = database.tags file.id)
    (licensed : store.Licensed state operation)
    (altering : operation.alter database = .ok altered) : altered.Sound := by
  cases licensed with
  | register => exact sound.updateFile (List.forall_mem_nil _) altering
  | @move old tags _ _ carried =>
      rw [answers] at carried
      exact sound.updateFile (sound.free_of_tags carried) altering
  | remove => exact sound.removeFile altering
  | set _ free => exact sound.updateTag free altering
  | unset => exact sound.removeTag altering

end Database

namespace OnDisk

open Disk

variable {path : String} {disk : Disk} {content : ByteArray}

def IsSoundDocument (content : ByteArray) : Prop :=
  ∃ text database, content = text.toUTF8 ∧ ofText text = .ok database ∧ database.Sound

theorem isSoundDocument_encode {database : Database} (sound : database.Sound) :
    IsSoundDocument (Document.encode database).toUTF8 :=
  ⟨_, database, rfl, ofText_encode sound.consistent, sound⟩

/-- Whether all files on a disk are the documents of sound databases. -/
def HoldsSound (disk : Disk) : Prop :=
  ∀ place content, disk.nodeAt? place = some (.file content) → IsSoundDocument content

theorem HoldsSound.put (holdsSound : HoldsSound disk) {target : Place}
    (notDirectory : disk.nodeAt? target ≠ some .directory) (sound : IsSoundDocument content) :
    HoldsSound (disk.put target (.file content)) := by
  intro place other found
  by_cases same : place = target
  · rw [same, nodeAt?_put_self (ne_root_of_nodeAt? notDirectory)] at found
    cases found
    exact sound
  · rw [nodeAt?_put_of_ne same] at found
    exact holdsSound place other found

theorem HoldsSound.of_grows {altered : Disk} {places : List Place}
    (holdsSound : HoldsSound disk) (grows : Grows places disk altered) : HoldsSound altered := by
  intro place content found
  rcases grows.node place with same | ⟨-, -, isDirectory⟩
  · exact holdsSound place content (same.symm.trans found)
  · rw [isDirectory] at found
    cases found

theorem HoldsSound.of_rename {altered : Disk} {target : String} (holdsSound : HoldsSound disk)
    (moved : rename path target disk = (.ok (), altered)) : HoldsSound altered := by
  obtain ⟨source, content, place, -, read, -, notDirectory, rfl⟩ := rename_eq_ok_iff.mp moved
  obtain ⟨origin, -, isFile⟩ := find_eq_ok_iff.mp (readBytes_eq_ok_iff.mp read)
  have erased : HoldsSound { disk with nodes := disk.nodes.erase source } :=
    fun other content found => holdsSound other content (nodeAt?_of_erase found)
  exact erased.put (mt nodeAt?_of_erase notDirectory) (holdsSound origin content isFile)

theorem stable_holdsSound (sound : IsSoundDocument content) : Stable HoldsSound content where
  makeDirectories path disk holdsSound := holdsSound.of_grows (grows_makeDirectories path disk)
  written holdsSound step := by
    obtain ⟨target, -, notDirectory, rfl⟩ := writeBytes_eq_ok_iff.mp step
    exact holdsSound.put notDirectory sound
  moved holdsSound step := holdsSound.of_rename step

theorem HoldsSound.document (holdsSound : HoldsSound disk) (path : String) :
    disk.find path = .ok .directory ∨
      ∃ database, load path disk = .ok database ∧ database.Sound := by
  cases found : disk.find path with
  | error =>
      right
      refine ⟨.empty, ?_, Database.sound_empty⟩
      simp [load, contains, found, Except.toBool]
  | ok node =>
      cases node with
      | directory => exact .inl rfl
      | file content =>
          obtain ⟨place, -, isFile⟩ := find_eq_ok_iff.mp found
          obtain ⟨text, database, rfl, read, sound⟩ := holdsSound place content isFile
          have loaded := load_of_readBytes (readBytes_eq_ok_iff.mpr found)
          exact .inr ⟨database, loaded.trans read, sound⟩

theorem HoldsSound.sound_of_load {database : Database} (holdsSound : HoldsSound disk)
    (loaded : load path disk = .ok database) : database.Sound := by
  rcases holdsSound.document path with isDirectory | ⟨other, otherLoaded, sound⟩
  · rw [load_of_directory isDirectory] at loaded
    cases loaded
  · rw [loaded] at otherLoaded
    rwa [Except.ok.inj otherLoaded]

end OnDisk

end TagCatalog

import TagCatalog.Proofs.Disk.Evolution
import TagCatalog.Proofs.Store.Failure

/-!
# What calls make of databases

A call changes a database as `alter` says, whether a memory stands for it or a document
has it.  If the disk fails, an anchored document has the database that it has had.
-/

namespace TagCatalog

def Store.Operation.alter : Operation → Database → Except Error Database
  | updateTag id tag, database => database.updateTag id tag
  | removeTag id name, database => database.removeTag id name
  | updateFile now moved carried, database => database.updateFile now moved carried
  | removeFile id, database => database.removeFile id
  | file _, database | fileAt _, database | allFiles, database | tags _, database
  | addedAt _, database | listing, database | matching _, database => .ok database

theorem Database.Consistent.alter {database altered : Database} {operation : Store.Operation}
    (consistent : database.Consistent)
    (altering : operation.alter database = .ok altered) : altered.Consistent := by
  cases operation with
  | updateTag => exact consistent.updateTag altering
  | removeTag => exact consistent.removeTag altering
  | updateFile => exact consistent.updateFile altering
  | removeFile => exact consistent.removeFile altering
  | file | fileAt | allFiles | tags | addedAt | listing | matching =>
      cases altering
      exact consistent

namespace Memory

section Changes

variable {memory altered : Memory} {id : Uuid} {record : Record}

theorem record_eq_ok_iff :
    memory.record id = .ok record ↔ memory.records.get? id = some record := by
  unfold Memory.record
  split <;> simp_all

theorem exists_of_updateTag {tag : Tag} (updated : memory.updateTag id tag = .ok altered) :
    ∃ record, memory.records.get? id = some record ∧
      altered = memory.put id { record with tags := record.tags.insert tag.name tag } := by
  rw [Memory.updateTag] at updated
  cases found : memory.record id with
  | error =>
      rw [found] at updated
      cases updated
  | ok record =>
      rw [found] at updated
      cases updated
      exact ⟨record, record_eq_ok_iff.mp found, rfl⟩

theorem exists_of_removeTag {name : String} (removed : memory.removeTag id name = .ok altered) :
    ∃ record, memory.records.get? id = some record ∧ record.tags.contains name = true ∧
      altered = memory.put id { record with tags := record.tags.erase name } := by
  rw [Memory.removeTag] at removed
  cases found : memory.record id with
  | error =>
      rw [found] at removed
      cases removed
  | ok record =>
      simp only [found, bind, Except.bind] at removed
      split at removed
      next carried =>
        cases removed
        exact ⟨record, record_eq_ok_iff.mp found, carried, rfl⟩
      next => cases removed

theorem eq_of_updateFile {now : Instant} {file : File} {tags : List Tag}
    (updated : memory.updateFile now file tags = .ok altered) :
    altered = memory.put file.id
      ⟨file.path, ((memory.records.get? file.id).map Record.addedAt).getD now,
        Table.ofList (tags.map fun tag => (tag.name, tag))⟩ := by
  rw [Memory.updateFile] at updated
  split at updated
  next => cases updated
  next =>
    cases updated
    rfl

theorem eq_of_removeFile (removed : memory.removeFile id = .ok altered) :
    altered = ⟨memory.records.erase id⟩ := by
  rw [Memory.removeFile] at removed
  split at removed
  next =>
    cases removed
    rfl
  next => cases removed

end Changes

variable {database : Database}

theorem map_change_toMemory {alter : Database → Except Error Database}
    {alterMemory : Memory → Except Error Memory}
    (same : alterMemory database.toMemory = (alter database).map Database.toMemory) :
    ((fun _ => .done) <$> Store.change alterMemory : Action Memory Store.Answer)
        database.toMemory =
      match alter database with
      | .ok altered => (.ok .done, altered.toMemory)
      | .error error => (.error error, database.toMemory) := by
  rw [Action.map_eq]
  unfold Store.change
  rw [same]
  cases alter database <;> rfl

theorem perform_toMemory (consistent : database.Consistent) {operation : Store.Operation}
    (isChange : operation.isQuestion = false) :
    store.perform operation database.toMemory =
      match operation.alter database with
      | .ok altered => (.ok .done, altered.toMemory)
      | .error error => (.error error, database.toMemory) := by
  cases operation with
  | updateTag id tag => exact map_change_toMemory (consistent.updateTag_toMemory id tag)
  | removeTag id name => exact map_change_toMemory (consistent.removeTag_toMemory id name)
  | updateFile now file tags =>
      exact map_change_toMemory (database.updateFile_toMemory now file tags)
  | removeFile id => exact map_change_toMemory (database.removeFile_toMemory id)
  | file | fileAt | allFiles | tags | addedAt | listing | matching => cases isChange

theorem exists_perform_toMemory (consistent : database.Consistent) (operation : Store.Operation) :
    ∃ altered, (store.perform operation database.toMemory).2 = altered.toMemory ∧
      (altered = database ∨ operation.alter database = .ok altered) := by
  cases question : operation.isQuestion with
  | true => exact ⟨database, asksSilently.perform question _, .inl rfl⟩
  | false =>
      rw [perform_toMemory consistent question]
      cases operation.alter database with
      | error => exact ⟨database, rfl, .inl rfl⟩
      | ok altered => exact ⟨altered, rfl, .inr rfl⟩

end Memory

namespace OnDisk

open Disk

variable {path : String} {disk after : Disk} {database altered : Database}

/-- What comes of a call: it leaves the disk as it is, or the database that it makes is
saved, or cannot be saved. -/
inductive Step (path : String) (operation : Store.Operation) (disk : Disk) :
    Except Error Store.Answer × Disk → Prop where
  | asked {outcome : Except Error Store.Answer} :
      operation.isQuestion = true → outcome ≠ .ok .done → Step path operation disk (outcome, disk)
  | refused {error : Error} : operation.isQuestion = false →
      (load path disk).bind operation.alter = .error error →
      Step path operation disk (.error error, disk)
  | saved {altered : Database} {after : Disk} :
      (load path disk).bind operation.alter = .ok altered →
      writeOver path (Document.encode altered) disk = (.ok (), after) →
      Step path operation disk (.ok .done, after)
  | failed {altered : Database} {fault : Fault} {after : Disk} :
      (load path disk).bind operation.alter = .ok altered →
      writeOver path (Document.encode altered) disk = (.error fault, after) →
      Step path operation disk (.error (.disk fault), after)

theorem perform_eq_change {operation : Store.Operation} (isChange : operation.isQuestion = false) :
    (store path).perform operation = (fun _ => .done) <$> change path operation.alter := by
  cases operation with
  | updateTag | removeTag | updateFile | removeFile => rfl
  | file | fileAt | allFiles | tags | addedAt | listing | matching => cases isChange

theorem step_perform (path : String) (operation : Store.Operation) (disk : Disk) :
    Step path operation disk ((store path).perform operation disk) := by
  cases question : operation.isQuestion with
  | true =>
      rw [((asksSilently path).perform question).eq disk]
      exact .asked question (Store.perform_ne_done question disk)
  | false =>
      rw [perform_eq_change question, Action.map_eq, change]
      split
      next altered altering =>
        unfold save ofChange
        split
        next written => exact .saved altering written
        next failed => exact .failed altering failed
      next refusing => exact .refused question refusing

theorem save_of_writeOver
    (written : writeOver path (Document.encode database) disk = (.ok (), after)) :
    save path database disk = (.ok (), after) := by
  rw [save, ofChange, written]

theorem save_of_writeOver_of_error {fault : Fault}
    (failed : writeOver path (Document.encode database) disk = (.error fault, after)) :
    save path database disk = (.error (.disk fault), after) := by
  rw [save, ofChange, failed]

theorem eq_or_exists_save_of_perform (path : String) (operation : Store.Operation) (disk : Disk) :
    ((store path).perform operation disk).2 = disk ∨
      ∃ database altered, load path disk = .ok database ∧
        operation.alter database = .ok altered ∧
        ((store path).perform operation disk).2 = (save path altered disk).2 := by
  have step := step_perform path operation disk
  generalize (store path).perform operation disk = result at step
  cases step with
  | asked | refused => exact .inl rfl
  | saved altering written =>
      obtain ⟨database, loaded, altering⟩ := Action.exists_of_except_bind_eq_ok altering
      have saving := save_of_writeOver written
      exact .inr ⟨database, _, loaded, altering, (congrArg Prod.snd saving).symm⟩
  | failed altering failed =>
      obtain ⟨database, loaded, altering⟩ := Action.exists_of_except_bind_eq_ok altering
      have saving := save_of_writeOver_of_error failed
      exact .inr ⟨database, _, loaded, altering, (congrArg Prod.snd saving).symm⟩

/-- If a database cannot be saved at an anchored path, the one that is there stays. -/
theorem load_save (loaded : load path disk = .ok database) (anchored : Anchored path disk)
    (consistent : altered.Consistent) :
    load path (save path altered disk).2 = .ok altered ∨
      load path (save path altered disk).2 = .ok database := by
  cases step : save path altered disk with
  | mk outcome after =>
      cases outcome with
      | ok => exact .inl (load_of_save consistent step)
      | error =>
          have spared := spared_of_save step
          exact .inr ((load_eq_of_find (spared.document anchored)).trans loaded)

/-- A call makes of the database at an anchored path what it makes of a database, or
nothing if the disk fails. -/
theorem load_perform (loaded : load path disk = .ok database) (anchored : Anchored path disk)
    (operation : Store.Operation) :
    ∃ altered, load path ((store path).perform operation disk).2 = .ok altered ∧
      (altered = database ∨ operation.alter database = .ok altered) := by
  rcases eq_or_exists_save_of_perform path operation disk with
    same | ⟨before, altered, isBefore, altering, performed⟩
  · rw [same]
    exact ⟨database, loaded, .inl rfl⟩
  · rw [loaded] at isBefore
    cases isBefore
    rw [performed]
    have consistent := (consistent_of_load loaded).alter altering
    rcases load_save loaded anchored consistent with saved | kept
    · exact ⟨altered, saved, .inr altering⟩
    · exact ⟨database, kept, .inl rfl⟩

section Stability

variable {Holds : Disk → Prop}

theorem preserves_writeOver {text : String} (stable : Stable Holds text.toUTF8) (path : String) :
    Preserves Holds (writeOver path text) := by
  apply Preserves.bind
  · intro disk holds
    rw [makeParent_apply]
    split
    · split
      · exact holds
      · exact stable.makeDirectories _ disk holds
    · exact holds
  · exact fun _ => (stable.writeBytes _).bind fun _ => stable.rename _ _

theorem holds_save (stable : Stable Holds (Document.encode database).toUTF8) (path : String)
    (holds : Holds disk) : Holds (save path database disk).2 := by
  have still := preserves_writeOver stable path disk holds
  unfold save ofChange
  split
  next written => rwa [written] at still
  next failed => rwa [failed] at still

end Stability

theorem evolves_perform (path : String) (operation : Store.Operation) (disk : Disk) :
    Evolves disk ((store path).perform operation disk).2 := by
  rcases eq_or_exists_save_of_perform path operation disk with same | ⟨_, altered, -, -, performed⟩
  · rw [same]
    exact .refl disk
  · rw [performed]
    exact holds_save (stable_evolves disk _) path (.refl disk)

end OnDisk

end TagCatalog

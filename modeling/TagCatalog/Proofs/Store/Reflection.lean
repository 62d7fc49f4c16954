import TagCatalog.Proofs.Store.Alteration

/-!
# Stores that reflect a database

A store reflects a database if it answers every question as that database does.  A memory
reflects the database that stands for it, and a disk the one that is loaded from it.
What comes of a change is then known as well: it is refused, or made, or the disk fails.
-/

namespace TagCatalog

namespace Database

variable {database : Database} {id : Uuid} {record : Record} {path : String} {file : File}

theorem file_eq_ok_iff : database.file id = .ok file ↔
    ∃ record, database.records.get? id = some record ∧ file = ⟨id, record.path⟩ := by
  rw [Database.file]
  constructor
  · intro found
    cases present : database.record id with
    | error =>
        rw [present] at found
        cases found
    | ok record =>
        rw [present] at found
        cases found
        exact ⟨record, record_eq_ok_iff.mp present, rfl⟩
  · rintro ⟨record, present, rfl⟩
    rw [record_eq_ok_iff.mpr present]
    rfl

theorem mem_allFiles_iff : file ∈ database.allFiles ↔
    ∃ record, database.records.get? file.id = some record ∧ record.path = file.path := by
  rw [Database.allFiles, List.mem_map]
  constructor
  · rintro ⟨entry, inOrder, rfl⟩
    exact ⟨entry.2, mem_inPathOrder_iff.mp inOrder, rfl⟩
  · rintro ⟨record, present, samePath⟩
    refine ⟨(file.id, record), mem_inPathOrder_iff.mpr present, ?_⟩
    rw [samePath]

theorem file_id_eq_ok_iff : database.file file.id = .ok file ↔ file ∈ database.allFiles := by
  rw [file_eq_ok_iff, mem_allFiles_iff]
  constructor
  · rintro ⟨record, present, same⟩
    exact ⟨record, present, congrArg File.path same.symm⟩
  · rintro ⟨record, present, samePath⟩
    refine ⟨record, present, ?_⟩
    rw [samePath]

theorem mem_listing_iff {listed : ListedFile} : listed ∈ database.listing ↔
    ∃ record, database.records.get? listed.file.id = some record ∧
      record.path = listed.file.path ∧ some record.addedAt = listed.addedAt := by
  rw [Database.listing, List.mem_map]
  constructor
  · rintro ⟨entry, inOrder, rfl⟩
    exact ⟨entry.2, mem_inPathOrder_iff.mp inOrder, rfl, rfl⟩
  · rintro ⟨record, present, samePath, sameTime⟩
    refine ⟨(listed.file.id, record), mem_inPathOrder_iff.mpr present, ?_⟩
    rw [samePath, sameTime]

theorem map_file_listing (database : Database) :
    database.listing.map ListedFile.file = database.allFiles := by
  rw [Database.listing, List.map_map]
  rfl

theorem Consistent.owner?_eq_some_iff (consistent : database.Consistent) :
    database.owner? path = some id ↔
      ∃ record, database.records.get? id = some record ∧ record.path = path := by
  rw [Database.owner?]
  constructor
  · intro owned
    obtain ⟨entry, found, rfl⟩ := Option.map_eq_some_iff.mp owned
    exact ⟨entry.2, Table.mem_entries_iff.mp (List.mem_of_find?_eq_some found),
      by simpa using List.find?_some found⟩
  · rintro ⟨record, present, samePath⟩
    cases found : database.records.entries.find? fun entry => entry.2.path = path with
    | none =>
        have absent := List.find?_eq_none.mp found _ (Table.mem_entries_iff.mpr present)
        exact absurd samePath (by simpa using absent)
    | some entry =>
        have entryPath : entry.2.path = path := by simpa using List.find?_some found
        have entryPresent := Table.mem_entries_iff.mp (List.mem_of_find?_eq_some found)
        exact congrArg some
          (consistent.path_injective entryPresent present (entryPath.trans samePath.symm))

theorem Consistent.fileAt_eq_ok_iff (consistent : database.Consistent) :
    database.fileAt path = .ok file ↔ file ∈ database.allFiles ∧ file.path = path := by
  rw [mem_allFiles_iff, Database.fileAt]
  constructor
  · intro found
    cases owned : database.owner? path with
    | none =>
        rw [owned] at found
        cases found
    | some id =>
        rw [owned] at found
        cases found
        exact ⟨consistent.owner?_eq_some_iff.mp owned, rfl⟩
  · rintro ⟨present, rfl⟩
    rw [consistent.owner?_eq_some_iff.mpr present]

theorem Consistent.tags_of_get? (consistent : database.Consistent)
    (present : database.records.get? id = some record) :
    database.tags id = .ok (tagTable record.labels).values := by
  have membership : (id, record) ∈ database.inPathOrder := mem_inPathOrder_iff.mpr present
  exact consistent.tags_of_mem_inPathOrder membership

theorem exists_labels_of_tags (consistent : database.Consistent) {tags : List Tag}
    (found : database.tags id = .ok tags) : ∃ record, database.records.get? id = some record ∧
      tags = (tagTable record.labels).values := by
  rw [Database.tags] at found
  cases present : database.record id with
  | error =>
      rw [present] at found
      cases found
  | ok record =>
      have isRecord := record_eq_ok_iff.mp present
      rw [present] at found
      have values := tagsOf_eq_ok (consistent.named isRecord)
      exact ⟨record, isRecord, Except.ok.inj (found.symm.trans values)⟩

end Database

namespace Store

variable {State : Type} {store : Store State} {state : State} {database altered : Database}
  {operation : Operation} {outcome : Except Error Answer × State}

/-- Whether a store answers every question as a database does. -/
structure Reflects (store : Store State) (state : State) (database : Database) : Prop where
  asks : store.AsksSilently
  file : ∀ id, (store.file id state).1 = database.file id
  fileAt : ∀ path, (store.fileAt path state).1 = database.fileAt path
  allFiles : (store.allFiles state).1 = .ok database.allFiles
  tags : ∀ file, (store.tags file state).1 = database.tags file.id
  addedAt : ∀ id, (store.addedAt id state).1 = (database.addedAt id).map some
  listing : (store.listing state).1 = .ok database.listing
  matching : ∀ filter, (store.matching filter state).1 = database.matching filter

theorem Reflects.get?_eq_none (reflects : store.Reflects state database) {id : Uuid}
    (unknown : ∀ file, (store.file id state).1 ≠ .ok file) : database.records.get? id = none := by
  cases found : database.records.get? id with
  | none => rfl
  | some record =>
      have isFile := Database.file_eq_ok_iff.mpr ⟨record, found, rfl⟩
      exact absurd ((reflects.file id).trans isFile) (unknown _)

theorem Reflects.path_ne (reflects : store.Reflects state database)
    (consistent : database.Consistent) {path : String}
    (free : ∀ file, (store.fileAt path state).1 ≠ .ok file) {id : Uuid}
    {record : Database.Record} (present : database.records.get? id = some record) :
    record.path ≠ path := by
  intro samePath
  have membership : (⟨id, path⟩ : File) ∈ database.allFiles :=
    Database.mem_allFiles_iff.mpr ⟨record, present, samePath⟩
  have found := consistent.fileAt_eq_ok_iff.mpr ⟨membership, rfl⟩
  exact free _ ((reflects.fileAt path).trans found)

/-- What comes of a change of a store that reflects a database. -/
inductive Obeys (store : Store State) (state : State) (database : Database)
    (operation : Operation) : Except Error Answer × State → Prop where
  | refuses {error : Error} : operation.alter database = .error error →
      Obeys store state database operation (.error error, state)
  | alters {altered : Database} {after : State} : operation.alter database = .ok altered →
      store.Reflects after altered → Obeys store state database operation (.ok .done, after)
  | falters {altered : Database} {fault : Disk.Fault} {after : State} :
      operation.alter database = .ok altered →
      Obeys store state database operation (.error (.disk fault), after)

/-- Whether a store answers, and takes changes, as a consistent database does. -/
structure Follows (store : Store State) (state : State) (database : Database) : Prop where
  consistent : database.Consistent
  reflects : store.Reflects state database
  obeys : ∀ operation : Operation, operation.isQuestion = false →
    store.Obeys state database operation (store.perform operation state)

theorem Follows.exists_of_done (follows : store.Follows state database) {after : State}
    (isChange : operation.isQuestion = false)
    (done : store.perform operation state = (.ok .done, after)) :
    ∃ altered, altered.Consistent ∧ store.Reflects after altered ∧
      operation.alter database = .ok altered := by
  have obeys := follows.obeys operation isChange
  rw [done] at obeys
  cases obeys with
  | alters altering reflects =>
      exact ⟨_, follows.consistent.alter altering, reflects, altering⟩

theorem reflects_memory (consistent : database.Consistent) :
    Memory.store.Reflects database.toMemory database where
  asks := Memory.asksSilently
  file id := database.file_toMemory id
  fileAt path := database.fileAt_toMemory path
  allFiles := congrArg Prod.fst (Database.memory_allFiles_eq database)
  tags file := consistent.tags_toMemory file.id
  addedAt id := congrArg (Except.map some) (database.addedAt_toMemory id)
  listing := congrArg Prod.fst (Database.memory_listing_eq database)
  matching filter := congrArg Prod.fst (consistent.memory_matching_eq filter)

theorem obeys_memory (consistent : database.Consistent)
    (isChange : operation.isQuestion = false) :
    Memory.store.Obeys database.toMemory database operation
      (Memory.store.perform operation database.toMemory) := by
  rw [Memory.perform_toMemory consistent isChange]
  cases altering : operation.alter database with
  | error error => exact .refuses altering
  | ok altered => exact .alters altering (reflects_memory (consistent.alter altering))

theorem follows_memory (consistent : database.Consistent) :
    Memory.store.Follows database.toMemory database :=
  ⟨consistent, reflects_memory consistent, fun _ => obeys_memory consistent⟩

variable {path : String} {disk : Disk}

theorem reflects_disk (loaded : OnDisk.load path disk = .ok database) :
    (OnDisk.store path).Reflects disk database := by
  have query {Result : Type} (ask : Database → Except Error Result) :
      (OnDisk.query path ask disk).1 = ask database := by
    rw [OnDisk.query, Store.query, loaded]
    rfl
  exact ⟨OnDisk.asksSilently path, fun _ => query _, fun _ => query _, query _, fun _ => query _,
    fun _ => query _, query _, fun _ => query _⟩

theorem obeys_disk (loaded : OnDisk.load path disk = .ok database)
    (isChange : operation.isQuestion = false) :
    (OnDisk.store path).Obeys disk database operation
      ((OnDisk.store path).perform operation disk) := by
  have step := OnDisk.step_perform path operation disk
  generalize (OnDisk.store path).perform operation disk = result at step
  cases step with
  | asked question =>
      rw [isChange] at question
      cases question
  | refused _ refusing =>
      rw [loaded] at refusing
      exact .refuses refusing
  | saved altering written =>
      rw [loaded] at altering
      have consistent := (OnDisk.consistent_of_load loaded).alter altering
      exact .alters altering
        (reflects_disk (OnDisk.load_of_save consistent (OnDisk.save_of_writeOver written)))
  | failed altering =>
      rw [loaded] at altering
      exact .falters altering

theorem follows_disk (loaded : OnDisk.load path disk = .ok database) :
    (OnDisk.store path).Follows disk database :=
  ⟨OnDisk.consistent_of_load loaded, reflects_disk loaded, fun _ => obeys_disk loaded⟩

end Store

end TagCatalog

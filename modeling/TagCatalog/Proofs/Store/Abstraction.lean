import TagCatalog.Proofs.Store.Labels
import TagCatalog.Proofs.Store.Action
import TagCatalog.Store.Memory

/-!
# Databases as memories

A database stands for the memory with the tags of its labels.  As long as it is
consistent, every question about it is answered as by that memory, every change
leads to the memory that the same change leads to, or fails alike, and the
changed database is consistent again.
-/

namespace TagCatalog

namespace Database

/-- Whether no two records have the same path and no label is without a name. -/
structure Consistent (database : Database) : Prop where
  path_injective : ∀ {first second : Uuid} {firstRecord secondRecord : Record},
    database.records.get? first = some firstRecord →
    database.records.get? second = some secondRecord →
    firstRecord.path = secondRecord.path → first = second
  named : ∀ {id : Uuid} {record : Record}, database.records.get? id = some record →
    ∀ label ∈ record.labels, label.name ≠ ""

theorem firstFaultAfter?_eq_none_iff {seen : List (String × Uuid)}
    {entries : List (Uuid × Record)} : firstFaultAfter? seen entries = none ↔
      (∀ entry ∈ entries, ∀ earlier ∈ seen, earlier.1 ≠ entry.2.path) ∧
      entries.Pairwise (fun first second => first.2.path ≠ second.2.path) ∧
      ∀ entry ∈ entries, ∀ label ∈ entry.2.labels, label.name ≠ "" := by
  induction entries generalizing seen with
  | nil => simp [firstFaultAfter?]
  | cons entry rest inductionHypothesis =>
      obtain ⟨id, record⟩ := entry
      simp only [firstFaultAfter?]
      split
      next path other found =>
        have samePath : path = record.path := by simpa using List.find?_some found
        simp only [reduceCtorEq, false_iff]
        rintro ⟨fresh, -⟩
        exact fresh _ List.mem_cons_self _ (List.mem_of_find?_eq_some found) samePath
      next fresh =>
        have noEarlier : ∀ earlier ∈ seen, earlier.1 ≠ record.path := by
          simpa using List.find?_eq_none.mp fresh
        split
        next nameless =>
          obtain ⟨label, membership, unnamed⟩ := List.any_eq_true.mp nameless
          simp only [reduceCtorEq, false_iff]
          rintro ⟨-, -, named⟩
          exact named _ List.mem_cons_self label membership (of_decide_eq_true unnamed)
        next unnamed =>
          have named : ∀ label ∈ record.labels, label.name ≠ "" := by simpa using unnamed
          rw [inductionHypothesis]
          simp only [List.forall_mem_cons, List.pairwise_cons]
          constructor
          · rintro ⟨later, distinct, restNamed⟩
            exact ⟨⟨noEarlier, fun entry membership => (later entry membership).2⟩,
              ⟨fun entry membership => (later entry membership).1, distinct⟩, named, restNamed⟩
          · rintro ⟨⟨-, later⟩, ⟨apart, distinct⟩, -, restNamed⟩
            exact ⟨fun entry membership => ⟨apart entry membership, later entry membership⟩,
              distinct, restNamed⟩

theorem firstFault?_eq_none_iff {database : Database} :
    database.firstFault? = none ↔ database.Consistent := by
  rw [firstFault?, firstFaultAfter?_eq_none_iff]
  constructor
  · rintro ⟨-, distinct, named⟩
    have injective : ∀ first ∈ database.records.entries, ∀ second ∈ database.records.entries,
        first.2.path = second.2.path → first.1 = second.1 :=
      List.Pairwise.forall_of_forall_of_flip (fun _ _ _ => rfl)
        (distinct.imp fun differs same => absurd same differs)
        (distinct.imp fun differs same => absurd same.symm differs)
    exact ⟨fun first second same => injective _ (Table.mem_entries_iff.mpr first) _
        (Table.mem_entries_iff.mpr second) same,
      fun found => named _ (Table.mem_entries_iff.mpr found)⟩
  · intro consistent
    refine ⟨fun _ _ _ => nofun, ?_, fun entry membership =>
      consistent.named (Table.mem_entries_iff.mp membership)⟩
    -- Entries in order have different keys, so equal paths would join two records.
    refine database.records.increasing.imp_of_mem fun firstIn secondIn below same => ?_
    have sameId := consistent.path_injective (Table.mem_entries_iff.mp firstIn)
      (Table.mem_entries_iff.mp secondIn) same
    rw [sameId, Std.ReflOrd.compare_self] at below
    cases below

section Changes

variable {database altered : Database} {id : Uuid} {record : Record}

theorem get?_put {other : Uuid} {otherRecord : Record}
    (found : (database.put id record).records.get? other = some otherRecord) :
    other = id ∧ otherRecord = record ∨
      other ≠ id ∧ database.records.get? other = some otherRecord := by
  by_cases same : other = id
  · rw [same, Database.put, Table.get?_insert_self] at found
    exact .inl ⟨same, (Option.some.inj found).symm⟩
  · rw [Database.put, Table.get?_insert_of_ne _ _ same] at found
    exact .inr ⟨same, found⟩

theorem get?_put_of_ne {other : Uuid} (differs : other ≠ id) :
    (database.put id record).records.get? other = database.records.get? other :=
  Table.get?_insert_of_ne _ _ differs

theorem put_put (database : Database) (id : Uuid) (first second : Record) :
    (database.put id first).put id second = database.put id second :=
  congrArg Database.mk (Table.insert_insert _ _ _ _)

theorem put_comm {other : Uuid} {otherRecord : Record} (differs : id ≠ other) :
    (database.put id record).put other otherRecord =
      (database.put other otherRecord).put id record :=
  congrArg Database.mk (Table.insert_comm _ differs _ _)

theorem Consistent.put (consistent : database.Consistent)
    (free : ∀ other otherRecord, database.records.get? other = some otherRecord →
      otherRecord.path = record.path → other = id)
    (named : ∀ label ∈ record.labels, label.name ≠ "") : (database.put id record).Consistent := by
  constructor
  · intro first second firstRecord secondRecord firstFound secondFound samePath
    rcases get?_put firstFound with ⟨rfl, rfl⟩ | ⟨-, firstKept⟩
    · rcases get?_put secondFound with ⟨rfl, -⟩ | ⟨-, secondKept⟩
      · rfl
      · exact (free second secondRecord secondKept samePath.symm).symm
    · rcases get?_put secondFound with ⟨rfl, rfl⟩ | ⟨-, secondKept⟩
      · exact free first firstRecord firstKept samePath
      · exact consistent.path_injective firstKept secondKept samePath
  · intro other otherRecord otherFound
    rcases get?_put otherFound with ⟨rfl, rfl⟩ | ⟨-, otherFound⟩
    · exact named
    · exact consistent.named otherFound

theorem record_eq_ok_iff : database.record id = .ok record ↔
    database.records.get? id = some record := by
  unfold Database.record
  split <;> simp_all

theorem Consistent.relabel (consistent : database.Consistent) {labels : List Label}
    (found : database.records.get? id = some record)
    (named : ∀ label ∈ labels, label.name ≠ "") :
    (database.put id { record with labels }).Consistent :=
  consistent.put (fun _ _ otherFound samePath =>
    consistent.path_injective otherFound found samePath) named

theorem exists_of_updateTag {tag : Tag} (updated : database.updateTag id tag = .ok altered) :
    ∃ record, database.records.get? id = some record ∧ altered = database.put id { record with
      labels := inNameOrder (without tag.name record.labels ++ [Label.ofTag tag]) } := by
  unfold Database.updateTag at updated
  cases found : database.record id with
  | error =>
      rw [found] at updated
      cases updated
  | ok record =>
      rw [found] at updated
      cases updated
      exact ⟨record, record_eq_ok_iff.mp found, rfl⟩

theorem exists_of_removeTag {name : String} (removed : database.removeTag id name = .ok altered) :
    ∃ record, database.records.get? id = some record ∧
      altered = database.put id { record with labels := without name record.labels } := by
  unfold Database.removeTag at removed
  cases found : database.record id with
  | error =>
      rw [found] at removed
      cases removed
  | ok record =>
      simp only [found, bind, Except.bind] at removed
      split at removed
      next =>
        cases removed
        exact ⟨record, record_eq_ok_iff.mp found, rfl⟩
      next => cases removed

theorem exists_of_updateFile {now : Instant} {file : File} {tags : List Tag}
    (updated : database.updateFile now file tags = .ok altered) :
    database.rival? file = none ∧ ∃ addedAt, altered = database.put file.id
      ⟨file.path, addedAt, (Store.normalized tags).map Label.ofTag⟩ := by
  unfold Database.updateFile at updated
  split at updated
  next => cases updated
  next free =>
    cases updated
    exact ⟨free, _, rfl⟩

theorem eq_of_removeFile (removed : database.removeFile id = .ok altered) :
    altered = ⟨database.records.erase id⟩ := by
  unfold Database.removeFile at removed
  split at removed
  next =>
    cases removed
    rfl
  next => cases removed

theorem Consistent.updateTag {tag : Tag} (consistent : database.Consistent)
    (updated : database.updateTag id tag = .ok altered) : altered.Consistent := by
  obtain ⟨record, present, rfl⟩ := exists_of_updateTag updated
  exact consistent.relabel present (named_replace (consistent.named present) tag)

theorem Consistent.removeTag {name : String} (consistent : database.Consistent)
    (removed : database.removeTag id name = .ok altered) : altered.Consistent := by
  obtain ⟨record, present, rfl⟩ := exists_of_removeTag removed
  exact consistent.relabel present (named_without (consistent.named present) name)

theorem Consistent.eq_of_rival?_eq_none {file : File} (consistent : database.Consistent)
    (free : database.rival? file = none) {other : Uuid} {otherRecord : Record}
    (found : database.records.get? other = some otherRecord)
    (samePath : otherRecord.path = file.path) : other = file.id := by
  unfold rival? owner? at free
  cases first : database.records.entries.find? fun entry => entry.2.path = file.path with
  | none =>
      have absent := List.find?_eq_none.mp first _ (Table.mem_entries_iff.mpr found)
      exact absurd samePath (by simpa using absent)
  | some entry =>
      have entryPath : entry.2.path = file.path := by simpa using List.find?_some first
      have entryFound := Table.mem_entries_iff.mp (List.mem_of_find?_eq_some first)
      have own : entry.1 = file.id := by simpa [first] using free
      rw [← own]
      exact consistent.path_injective found entryFound (samePath.trans entryPath.symm)

theorem Consistent.updateFile {now : Instant} {file : File} {tags : List Tag}
    (consistent : database.Consistent)
    (updated : database.updateFile now file tags = .ok altered) : altered.Consistent := by
  obtain ⟨free, addedAt, rfl⟩ := exists_of_updateFile updated
  refine consistent.put (fun _ _ found samePath =>
    consistent.eq_of_rival?_eq_none free found samePath) ?_
  intro label membership
  obtain ⟨tag, -, rfl⟩ := List.mem_map.mp membership
  exact tag.name_ne

theorem Consistent.removeFile (consistent : database.Consistent)
    (removed : database.removeFile id = .ok altered) : altered.Consistent := by
  rw [eq_of_removeFile removed]
  constructor
  · intro first second _ _ firstFound secondFound
    exact consistent.path_injective (Table.get?_of_get?_erase firstFound)
      (Table.get?_of_get?_erase secondFound)
  · exact fun found => consistent.named (Table.get?_of_get?_erase found)

end Changes

def Record.toMemory (record : Record) : Memory.Record :=
  ⟨record.path, record.addedAt, tagTable record.labels⟩

/-- The memory that a database stands for. -/
def toMemory (database : Database) : Memory :=
  ⟨database.records.map Record.toMemory⟩

section Questions

variable {database : Database} {id : Uuid} {record : Record} {State : Type} {state : State}

theorem get?_toMemory_eq_some_iff {record : Memory.Record} :
    database.toMemory.records.get? id = some record ↔
      ∃ kept, database.records.get? id = some kept ∧ kept.toMemory = record := by
  rw [toMemory, Table.get?_map, Option.map_eq_some_iff]

theorem get?_toMemory_of_mem {kept : Record} (present : database.records.get? id = some kept) :
    database.toMemory.records.get? id = some kept.toMemory :=
  get?_toMemory_eq_some_iff.mpr ⟨kept, present, rfl⟩

theorem record_toMemory (database : Database) (id : Uuid) :
    database.toMemory.record id = (database.record id).map Record.toMemory := by
  unfold Memory.record Database.record toMemory
  rw [Table.get?_map]
  cases database.records.get? id <;> rfl

theorem file_toMemory (database : Database) (id : Uuid) :
    database.toMemory.file id = database.file id := by
  rw [Memory.file, Database.file, record_toMemory]
  cases database.record id <;> rfl

theorem addedAt_toMemory (database : Database) (id : Uuid) :
    database.toMemory.addedAt id = database.addedAt id := by
  rw [Memory.addedAt, Database.addedAt, record_toMemory]
  cases database.record id <;> rfl

theorem owner?_toMemory (database : Database) (path : String) :
    database.toMemory.owner? path = database.owner? path := by
  have found : database.toMemory.records.entries.find? (fun entry => entry.2.path = path) =
      (database.records.entries.find? fun entry => entry.2.path = path).map
        fun entry => (entry.1, entry.2.toMemory) := List.find?_map
  unfold Memory.owner? Database.owner?
  exact (congrArg (Option.map Prod.fst) found).trans (Option.map_map _ _ _)

theorem fileAt_toMemory (database : Database) (path : String) :
    database.toMemory.fileAt path = database.fileAt path := by
  cases owned : database.owner? path with
  | none | some => simp only [Memory.fileAt, Database.fileAt, owner?_toMemory, owned]

theorem allFiles_toMemory (database : Database) :
    database.toMemory.allFiles = database.allFiles := by
  let toFile (entry : Uuid × Record) : File := ⟨entry.1, entry.2.path⟩
  have files : database.toMemory.records.entries.map (fun entry => ⟨entry.1, entry.2.path⟩) =
      database.records.entries.map toFile := List.map_map
  have sorted : (database.inPathOrder).map toFile =
      (database.records.entries.map toFile).mergeSort File.comesBefore :=
    List.map_mergeSort fun _ _ _ _ => rfl
  rw [Memory.allFiles, files, Store.inPathOrder, ← sorted]
  rfl

theorem tagsOf_eq_ok {labels : List Label} (named : ∀ label ∈ labels, label.name ≠ "") :
    tagsOf labels = .ok (tagTable labels).values := by
  have read : labels.mapM Label.tag? = some (labels.filterMap Label.tag?) := by
    induction labels with
    | nil => rfl
    | cons label rest inductionHypothesis =>
        obtain ⟨first, others⟩ := List.forall_mem_cons.mp named
        simp [List.mapM_cons, tag?_eq_some first, inductionHypothesis others]
  rw [tagsOf, read]
  rfl

theorem Consistent.tags_toMemory (consistent : database.Consistent) (id : Uuid) :
    database.toMemory.tags id = database.tags id := by
  rw [Memory.tags, Database.tags, record_toMemory]
  cases found : database.record id with
  | error => rfl
  | ok record => exact (tagsOf_eq_ok (consistent.named (record_eq_ok_iff.mp found))).symm

theorem mem_inPathOrder_iff {entry : Uuid × Record} :
    entry ∈ database.inPathOrder ↔ database.records.get? entry.1 = some entry.2 := by
  rw [inPathOrder, List.mem_mergeSort, ← Table.mem_entries_iff]

theorem Consistent.matching_eq_ok (consistent : database.Consistent) (filter : Filter) :
    database.matching filter = .ok ((database.inPathOrder.filter fun entry =>
      filter.accepts (tagTable entry.2.labels).values).map fun entry =>
        ⟨entry.1, entry.2.path⟩) := by
  have named : ∀ entry ∈ database.inPathOrder, ∀ label ∈ entry.2.labels, label.name ≠ "" :=
    fun entry membership => consistent.named (mem_inPathOrder_iff.mp membership)
  rw [Database.matching]
  generalize database.inPathOrder = entries at named
  induction entries with
  | nil => rfl
  | cons entry rest inductionHypothesis =>
      obtain ⟨first, others⟩ := List.forall_mem_cons.mp named
      simp only [matchingFrom, tagsOf_eq_ok first, inductionHypothesis others, List.filter_cons,
        bind, Except.bind, pure, Except.pure]
      split <;> rfl

theorem record_of_mem_inPathOrder {entry : Uuid × Record}
    (membership : entry ∈ database.inPathOrder) : database.record entry.1 = .ok entry.2 :=
  record_eq_ok_iff.mpr (mem_inPathOrder_iff.mp membership)

theorem Consistent.allFiles_increasing (consistent : database.Consistent) :
    database.allFiles.Pairwise fun first second => first.path < second.path := by
  have ordered : database.inPathOrder.Pairwise
      fun first second => decide (first.2.path ≤ second.2.path) = true := by
    apply List.pairwise_mergeSort
    · intro first second third before behind
      exact decide_eq_true (String.le_trans (of_decide_eq_true before) (of_decide_eq_true behind))
    · intro first second
      simpa using String.le_total first.2.path second.2.path
  have distinct : database.inPathOrder.Pairwise fun first second => first.1 ≠ second.1 := by
    apply (List.mergeSort_perm database.records.entries _).symm.pairwise _ fun other => other.symm
    refine database.records.increasing.imp fun below same => ?_
    rw [same, Std.ReflOrd.compare_self] at below
    cases below
  apply List.pairwise_map.mpr
  refine (ordered.and distinct).imp_of_mem fun firstIn secondIn both => ?_
  obtain ⟨before, other⟩ := both
  apply String.not_le.mp
  intro behind
  have same := String.le_antisymm (of_decide_eq_true before) behind
  exact other (consistent.path_injective (mem_inPathOrder_iff.mp firstIn)
    (mem_inPathOrder_iff.mp secondIn) same)
theorem memory_allFiles_eq (database : Database) : Memory.store.allFiles database.toMemory =
    (.ok database.allFiles, database.toMemory) := by
  rw [← allFiles_toMemory]
  rfl

theorem listingOf_eq {allFiles : Action State (List File)}
    {addedAt : Uuid → Action State (Option Instant)}
    (files : allFiles state = (.ok database.allFiles, state))
    (times : ∀ id, addedAt id state = ((database.addedAt id).map some, state)) :
    Store.listingOf allFiles addedAt state = (.ok database.listing, state) := by
  let time (file : File) : Option Instant := (database.addedAt file.id).toOption
  have found : ∀ entry ∈ database.inPathOrder, database.addedAt entry.1 = .ok entry.2.addedAt := by
    intro entry membership
    rw [Database.addedAt, record_of_mem_inPathOrder membership]
    rfl
  have answers : ∀ file ∈ database.allFiles, addedAt file.id state = (.ok (time file), state) := by
    intro file membership
    obtain ⟨entry, inOrder, rfl⟩ := List.mem_map.mp membership
    simp only [time, times, found entry inOrder]
    rfl
  refine (Action.bind_of_ok files).trans ((Store.listingFrom_eq answers).trans ?_)
  have listed : (database.allFiles.map fun file => (⟨file, time file⟩ : ListedFile)) =
      database.listing := by
    rw [Database.allFiles, List.map_map, Database.listing]
    refine List.map_congr_left fun entry inOrder => ?_
    simp only [Function.comp_apply, time, found entry inOrder]
    rfl
  rw [listed]

theorem memory_listing_eq (database : Database) : Memory.store.listing database.toMemory =
    (.ok database.listing, database.toMemory) := by
  apply listingOf_eq (memory_allFiles_eq database)
  intro id
  rw [← addedAt_toMemory]
  rfl

/-- The tags of a file, of which there are none if there is no such file. -/
def carried (database : Database) (file : File) : List Tag :=
  (database.tags file.id).toOption.getD []

theorem Consistent.tags_of_mem_inPathOrder (consistent : database.Consistent)
    {entry : Uuid × Record} (membership : entry ∈ database.inPathOrder) :
    database.tags entry.1 = .ok (tagTable entry.2.labels).values := by
  rw [Database.tags, record_of_mem_inPathOrder membership]
  exact tagsOf_eq_ok (consistent.named (mem_inPathOrder_iff.mp membership))

theorem Consistent.tags_eq_ok (consistent : database.Consistent) {file : File}
    (membership : file ∈ database.allFiles) :
    database.tags file.id = .ok (database.carried file) := by
  obtain ⟨entry, inOrder, rfl⟩ := List.mem_map.mp membership
  simp only [carried, consistent.tags_of_mem_inPathOrder inOrder]
  rfl

theorem Consistent.matching_eq_filter (consistent : database.Consistent) (filter : Filter) :
    database.matching filter =
      .ok (database.allFiles.filter fun file => filter.accepts (database.carried file)) := by
  rw [consistent.matching_eq_ok, Database.allFiles, List.filter_map]
  have sameFilter : (database.inPathOrder.filter
      ((fun file => filter.accepts (database.carried file)) ∘
        fun entry => ⟨entry.1, entry.2.path⟩)) =
      database.inPathOrder.filter fun entry => filter.accepts (tagTable entry.2.labels).values := by
    refine List.filter_congr fun entry inOrder => ?_
    simp only [Function.comp_apply, carried, consistent.tags_of_mem_inPathOrder inOrder]
    rfl
  rw [sameFilter]

theorem Consistent.matchingOf_eq (consistent : database.Consistent)
    {allFiles : Action State (List File)} {tags : File → Action State (List Tag)}
    (files : allFiles state = (.ok database.allFiles, state))
    (answers : ∀ file, tags file state = (database.tags file.id, state)) (filter : Filter) :
    Store.matchingOf allFiles tags filter state = (database.matching filter, state) := by
  have carried : ∀ file ∈ database.allFiles,
      tags file state = (.ok (database.carried file), state) := by
    intro file membership
    rw [answers, consistent.tags_eq_ok membership]
  rw [consistent.matching_eq_filter]
  exact (Action.bind_of_ok files).trans (Store.matchingFrom_eq filter carried)

theorem Consistent.memory_matching_eq (consistent : database.Consistent) (filter : Filter) :
    Memory.store.matching filter database.toMemory =
      (database.matching filter, database.toMemory) := by
  apply consistent.matchingOf_eq (memory_allFiles_eq database)
  intro file
  rw [← consistent.tags_toMemory]
  rfl

end Questions

section MemoryChanges

variable {database : Database} {id : Uuid}

theorem put_toMemory (database : Database) (id : Uuid) (record : Record) :
    (database.put id record).toMemory = database.toMemory.put id record.toMemory := by
  rw [toMemory, Database.put, Table.map_insert]
  rfl

theorem Consistent.updateTag_toMemory (consistent : database.Consistent) (id : Uuid) (tag : Tag) :
    database.toMemory.updateTag id tag = (database.updateTag id tag).map toMemory := by
  rw [Memory.updateTag, Database.updateTag, record_toMemory]
  cases found : database.record id with
  | error => rfl
  | ok record =>
      have named := consistent.named (record_eq_ok_iff.mp found)
      simp only [Except.map, put_toMemory, Record.toMemory, tagTable_replace named]

theorem Consistent.removeTag_toMemory (consistent : database.Consistent) (id : Uuid)
    (name : String) :
    database.toMemory.removeTag id name = (database.removeTag id name).map toMemory := by
  rw [Memory.removeTag, Database.removeTag, record_toMemory]
  cases found : database.record id with
  | error => rfl
  | ok record =>
      have named := consistent.named (record_eq_ok_iff.mp found)
      have sameTags : record.toMemory.tags.contains name =
          record.labels.any fun label => label.name = name := contains_tagTable named name
      simp only [Except.map, bind, Except.bind, sameTags]
      split
      next =>
        simp only [pure, Except.pure, put_toMemory, Record.toMemory, tagTable_without named]
      next => rfl

theorem rival?_toMemory (database : Database) (file : File) :
    database.toMemory.rival? file = database.rival? file := by
  rw [Memory.rival?, Database.rival?, owner?_toMemory]

theorem updateFile_toMemory (database : Database) (now : Instant) (file : File)
    (tags : List Tag) : database.toMemory.updateFile now file tags =
      (database.updateFile now file tags).map toMemory := by
  rw [Memory.updateFile, Database.updateFile, rival?_toMemory]
  cases database.rival? file with
  | some => rfl
  | none =>
      have sameTime : (database.toMemory.records.get? file.id).map Memory.Record.addedAt =
          (database.records.get? file.id).map Record.addedAt := by
        rw [toMemory, Table.get?_map, Option.map_map]
        rfl
      simp only [Except.map, put_toMemory, Record.toMemory, tagTable_normalized, sameTime]

theorem removeFile_toMemory (database : Database) (id : Uuid) :
    database.toMemory.removeFile id = (database.removeFile id).map toMemory := by
  rw [Memory.removeFile, Database.removeFile]
  simp only [toMemory, Table.contains_map]
  split
  next => simp only [Except.map, toMemory, Table.map_erase]
  next => rfl

end MemoryChanges

end Database

end TagCatalog

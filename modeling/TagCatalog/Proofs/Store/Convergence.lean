import TagCatalog.Instant
import TagCatalog.Proofs.Store.Attempts
import TagCatalog.Proofs.Store.Canonical
import TagCatalog.Proofs.Store.Hindrance
import TagCatalog.Proofs.Store.Reflection
import TagCatalog.Proofs.Store.Simulation

/-!
# Calls that converge

A document that was missing and has been written is that of a canonical database.  So
its bytes depend only on what the store shows, whatever calls have led there, and changes
that take each other back restore its bytes.
-/

namespace TagCatalog

def Store.ShowAlike {State Other : Type} (store : Store State) (state : State)
    (other : Store Other) (otherState : Other) : Prop :=
  ∃ listed, (store.listing state).1 = .ok listed ∧ (other.listing otherState).1 = .ok listed ∧
    ∀ entry ∈ listed, (store.tags entry.file state).1 = (other.tags entry.file otherState).1

namespace Database

variable {database other middle : Database} {id : Uuid} {record : Record} {file : File}

theorem exists_of_listing_eq (consistent : database.Consistent) (otherConsistent : other.Consistent)
    (listing : database.listing = other.listing)
    (tags : ∀ entry ∈ database.listing, database.tags entry.file.id = other.tags entry.file.id)
    (present : database.records.get? id = some record) :
    ∃ otherRecord, other.records.get? id = some otherRecord ∧
      otherRecord.toMemory = record.toMemory := by
  have listed : (⟨⟨id, record.path⟩, some record.addedAt⟩ : ListedFile) ∈ database.listing :=
    mem_listing_iff.mpr ⟨record, present, rfl, rfl⟩
  have sameTags := tags _ listed
  rw [listing] at listed
  obtain ⟨otherRecord, otherPresent, samePath, sameTime⟩ := mem_listing_iff.mp listed
  rw [consistent.tags_of_get? present, otherConsistent.tags_of_get? otherPresent] at sameTags
  have sameTable : tagTable otherRecord.labels = tagTable record.labels := by
    rw [← ofList_values_tagTable, ← Except.ok.inj sameTags, ofList_values_tagTable]
  refine ⟨otherRecord, otherPresent, ?_⟩
  rw [Record.toMemory, Record.toMemory, samePath, Option.some.inj sameTime, sameTable]

theorem toMemory_eq_of_listing_eq (consistent : database.Consistent)
    (otherConsistent : other.Consistent) (listing : database.listing = other.listing)
    (tags : ∀ entry ∈ database.listing, database.tags entry.file.id = other.tags entry.file.id) :
    database.toMemory = other.toMemory := by
  suffices same : database.records.map Record.toMemory = other.records.map Record.toMemory from
    congrArg Memory.mk same
  refine Table.ext_get? fun id => ?_
  rw [Table.get?_map, Table.get?_map]
  cases found : database.records.get? id with
  | some record =>
      obtain ⟨otherRecord, otherFound, same⟩ :=
        exists_of_listing_eq consistent otherConsistent listing tags found
      rw [otherFound, Option.map_some, Option.map_some, same]
  | none =>
      cases otherFound : other.records.get? id with
      | none => rfl
      | some otherRecord =>
          have otherTags : ∀ entry ∈ other.listing,
              other.tags entry.file.id = database.tags entry.file.id := by
            intro entry listed
            rw [← listing] at listed
            exact (tags entry listed).symm
          obtain ⟨record, present, -⟩ :=
            exists_of_listing_eq otherConsistent consistent listing.symm otherTags otherFound
          rw [found] at present
          cases present

theorem toMemory_put_put {first second : Record} (present : database.records.get? id = some record)
    (back : second.toMemory = record.toMemory) :
    ((database.put id first).put id second).toMemory = database.toMemory := by
  rw [put_toMemory, put_toMemory, back, Memory.put, Memory.put, Table.insert_insert]
  rw [Table.insert_of_get? (get?_toMemory_of_mem present)]

theorem get?_put_self (database : Database) (id : Uuid) (record : Record) :
    (database.put id record).records.get? id = some record :=
  Table.get?_insert_self _ id record

theorem updateTag_of_get? (present : database.records.get? id = some record) (tag : Tag) :
    database.updateTag id tag = .ok (database.put id { record with
      labels := inNameOrder (without tag.name record.labels ++ [Label.ofTag tag]) }) := by
  rw [updateTag, record_eq_ok_iff.mpr present]
  rfl

theorem removeTag_of_get? (present : database.records.get? id = some record)
    (named : ∀ label ∈ record.labels, label.name ≠ "") {name : String}
    (carried : (tagTable record.labels).contains name = true) :
    database.removeTag id name =
      .ok (database.put id { record with labels := without name record.labels }) := by
  rw [contains_tagTable named] at carried
  rw [removeTag, record_eq_ok_iff.mpr present]
  exact if_pos carried

theorem updateFile_of_get? (free : database.rival? file = none)
    (present : database.records.get? file.id = some record) (now : Instant) (tags : List Tag) :
    database.updateFile now file tags = .ok (database.put file.id
      ⟨file.path, record.addedAt, (Store.normalized tags).map Label.ofTag⟩) := by
  rw [updateFile, free, present]
  rfl

theorem Consistent.rival?_eq_none (consistent : database.Consistent)
    (free : ∀ other record, database.records.get? other = some record →
      record.path = file.path → other = file.id) : database.rival? file = none := by
  rw [rival?, Option.filter_eq_none_iff]
  intro owner owned
  obtain ⟨record, present, samePath⟩ := consistent.owner?_eq_some_iff.mp owned
  simpa using free owner record present samePath

theorem Consistent.exists_removeTag (consistent : database.Consistent) {tag : Tag}
    (present : database.records.get? id = some record)
    (lacks : (tagTable record.labels).get? tag.name = none) :
    ∃ middle last, database.updateTag id tag = .ok middle ∧
      middle.removeTag id tag.name = .ok last ∧ last.toMemory = database.toMemory := by
  have updated := updateTag_of_get? present tag
  have named := named_replace (consistent.named present) tag
  have table := tagTable_replace (consistent.named present) tag
  generalize inNameOrder (without tag.name record.labels ++ [Label.ofTag tag]) = labels at *
  let tagged : Record := { record with labels }
  have carried : (tagTable tagged.labels).contains tag.name = true := by
    rw [Table.contains, table, Table.get?_insert_self]
    rfl
  have removed := removeTag_of_get? (database.get?_put_self id tagged) named carried
  refine ⟨_, _, updated, removed, toMemory_put_put present ?_⟩
  rw [Record.toMemory, tagTable_without named, table, Table.erase_insert lacks]
  rfl

theorem Consistent.exists_updateFile (consistent : database.Consistent) {path : String}
    (now later : Instant) (present : database.records.get? id = some record)
    (free : ∀ other record, database.records.get? other = some record → record.path ≠ path) :
    let tags := (tagTable record.labels).values
    ∃ middle last, database.updateFile now ⟨id, path⟩ tags = .ok middle ∧
      middle.updateFile later ⟨id, record.path⟩ tags = .ok last ∧
      last.toMemory = database.toMemory := by
  intro tags
  have noRival : database.rival? ⟨id, path⟩ = none :=
    consistent.rival?_eq_none fun other record found samePath =>
      absurd samePath (free other record found)
  let moved : Record := ⟨path, record.addedAt, (Store.normalized tags).map Label.ofTag⟩
  have moving : database.updateFile now ⟨id, path⟩ tags = .ok (database.put id moved) :=
    updateFile_of_get? noRival present now tags
  have stillFree : (database.put id moved).rival? ⟨id, record.path⟩ = none := by
    apply (consistent.updateFile moving).rival?_eq_none
    intro other otherRecord found samePath
    rcases get?_put found with ⟨same, -⟩ | ⟨-, kept⟩
    · exact same
    · exact consistent.path_injective kept present samePath
  have back := updateFile_of_get? stillFree (database.get?_put_self id moved) later tags
  refine ⟨_, _, moving, back, toMemory_put_put present ?_⟩
  rw [Record.toMemory, tagTable_normalized, ofList_values_tagTable]
  rfl

theorem Consistent.exists_removeFile (consistent : database.Consistent) (now : Instant)
    (tags : List Tag) (missing : database.records.get? file.id = none)
    (free : ∀ other record, database.records.get? other = some record → record.path ≠ file.path) :
    ∃ middle, database.updateFile now file tags = .ok middle ∧
      middle.removeFile file.id = .ok database := by
  have noRival : database.rival? file = none :=
    consistent.rival?_eq_none fun other record found samePath =>
      absurd samePath (free other record found)
  let added : Record := ⟨file.path, now, (Store.normalized tags).map Label.ofTag⟩
  refine ⟨database.put file.id added, ?_, ?_⟩
  · rw [Database.updateFile, noRival, missing]
    rfl
  · have contained : (database.put file.id added).records.contains file.id = true := by
      rw [Table.contains, get?_put_self]
      rfl
    rw [Database.removeFile, if_pos contained, Database.put, Table.erase_insert missing]

end Database

namespace OnDisk

open Disk

variable {path otherPath : String} {disk otherDisk after : Disk} {database altered other : Database}
  {operation : Store.Operation} {operations otherOperations : List Store.Operation}

/-- Whether the document at a path is that of a canonical database, and can be written over. -/
structure Written (path : String) (database : Database) (disk : Disk) : Prop where
  canonical : database.Canonical
  settled : Settled path disk
  content : disk.readBytes path = .ok (Document.encode database).toUTF8

theorem Written.load (written : Written path database disk) :
    load path disk = .ok database := by
  rw [load_of_readBytes written.content]
  exact ofText_encode written.canonical.consistent

theorem Settled.writeOver_ne_error (settled : Settled path disk) (text : String) (fault : Fault)
    (after : Disk) : OnDisk.writeOver path text disk ≠ (.error fault, after) := by
  intro failed
  obtain ⟨_, written, -⟩ := settled.writeOver text
  rw [failed] at written
  cases written

theorem written_of_writeOver (canonical : altered.Canonical)
    (written : writeOver path (Document.encode altered) disk = (.ok (), after)) :
    Written path altered after :=
  ⟨canonical, settled_of_writeOver written, readBytes_of_writeOver written⟩

theorem Written.step (written : Written path database disk) (operation : Store.Operation) :
    ∃ altered, Written path altered ((store path).perform operation disk).2 := by
  have step := step_perform path operation disk
  generalize (store path).perform operation disk = result at step
  cases step with
  | asked | refused => exact ⟨database, written⟩
  | saved altering writing =>
      rw [written.load] at altering
      exact ⟨_, written_of_writeOver (written.canonical.alter altering) writing⟩
  | failed _ failed => exact absurd failed (written.settled.writeOver_ne_error _ _ _)

theorem Written.run (written : Written path database disk) (operations : List Store.Operation) :
    ∃ last, Written path last ((store path).run operations disk).2 := by
  induction operations generalizing disk database with
  | nil => exact ⟨database, written⟩
  | cons operation rest inductionHypothesis =>
      obtain ⟨_, stillWritten⟩ := written.step operation
      exact inductionHypothesis stillWritten

theorem Written.exists_perform (written : Written path database disk)
    (isChange : operation.isQuestion = false) (altering : operation.alter database = .ok altered) :
    ∃ after, (store path).perform operation disk = (.ok .done, after) ∧
      Written path altered after := by
  have ready : Ready path database disk := ⟨written.load, written.settled⟩
  obtain ⟨after, done, afterReady, encodes⟩ := ready.exists_perform isChange altering
  exact ⟨after, done, written.canonical.alter altering, afterReady.settled, encodes⟩

theorem exists_written_of_run (missing : disk.contains path = false)
    (done : .ok .done ∈ ((store path).run operations disk).1) :
    ∃ database, Written path database ((store path).run operations disk).2 := by
  induction operations with
  | nil => cases done
  | cons operation rest inductionHypothesis =>
      have step := step_perform path operation disk
      rw [Store.run_cons] at done ⊢
      generalize (store path).perform operation disk = result at step done
      cases step with
      | asked _ notDone =>
          exact inductionHypothesis ((List.mem_cons.mp done).resolve_left notDone.symm)
      | refused => exact inductionHypothesis ((List.mem_cons.mp done).resolve_left nofun)
      | saved altering writing =>
          rw [OnDisk.load, missing] at altering
          have canonical := Database.canonical_empty.alter altering
          exact (written_of_writeOver canonical writing).run rest
      | failed _ failed =>
          have doneLater := (List.mem_cons.mp done).resolve_left (by simp)
          exact absurd doneLater (not_done_of_hindered (hindered_of_writeOver failed) rest)

theorem Written.eq_of_showAlike (written : Written path database disk)
    (otherWritten : Written otherPath other otherDisk)
    (alike : Store.ShowAlike (store path) disk (store otherPath) otherDisk) : database = other := by
  obtain ⟨listed, listing, otherListing, tags⟩ := alike
  have reflects := Store.reflects_disk written.load
  have otherReflects := Store.reflects_disk otherWritten.load
  rw [reflects.listing] at listing
  rw [otherReflects.listing] at otherListing
  cases listing
  have sameListing := (Except.ok.inj otherListing).symm
  apply written.canonical.eq_of_toMemory_eq otherWritten.canonical
  apply Database.toMemory_eq_of_listing_eq written.canonical.consistent
    otherWritten.canonical.consistent sameListing
  intro entry isListed
  rw [← reflects.tags, ← otherReflects.tags]
  exact tags entry isListed

/-- Whether some changes are all done and leave the bytes of a document as they were. -/
def Restores (path : String) (disk : Disk) (operations : List Store.Operation) : Prop :=
  ∃ last content, (store path).run operations disk = (operations.map fun _ => .ok .done, last) ∧
    disk.readBytes path = .ok content ∧ last.readBytes path = .ok content

theorem Written.restores {first second : Store.Operation} {middle last : Database}
    (written : Written path database disk) (isChange : first.isQuestion = false)
    (secondIsChange : second.isQuestion = false) (altering : first.alter database = .ok middle)
    (alteringBack : second.alter middle = .ok last) (back : last.toMemory = database.toMemory) :
    Restores path disk [first, second] := by
  obtain ⟨between, performed, middleWritten⟩ := written.exists_perform isChange altering
  obtain ⟨after, performedBack, lastWritten⟩ :=
    middleWritten.exists_perform secondIsChange alteringBack
  have same := lastWritten.canonical.eq_of_toMemory_eq written.canonical back
  refine ⟨after, _, ?_, written.content, ?_⟩
  · rw [Store.run_cons, performed, Store.run_cons, performedBack]
    rfl
  · rw [← same]
    exact lastWritten.content

theorem Written.restores_updateTag (written : Written path database disk) {file : File} {tag : Tag}
    {tags : List Tag} (found : ((store path).tags file disk).1 = .ok tags)
    (lacks : ∀ other ∈ tags, other.name ≠ tag.name) :
    Restores path disk [.updateTag file.id tag, .removeTag file.id tag.name] := by
  have consistent := written.canonical.consistent
  rw [(Store.reflects_disk written.load).tags] at found
  obtain ⟨record, present, rfl⟩ := Database.exists_labels_of_tags consistent found
  have missing : (Database.tagTable record.labels).get? tag.name = none := by
    cases named : (Database.tagTable record.labels).get? tag.name with
    | none => rfl
    | some other =>
        have entry := Table.mem_entries_iff.mpr named
        have sameName : other.name = tag.name := Database.keyed_ofList _ _ entry
        exact absurd sameName (lacks other (List.mem_map_of_mem (f := Prod.snd) entry))
  obtain ⟨middle, last, altering, alteringBack, back⟩ := consistent.exists_removeTag present missing
  exact written.restores rfl rfl altering alteringBack back

theorem Written.restores_updateFile (written : Written path database disk) (now later : Instant)
    {file : File} {tags : List Tag} {place : String}
    (found : ((store path).file file.id disk).1 = .ok file)
    (carried : ((store path).tags file disk).1 = .ok tags)
    (free : ∀ owner, ((store path).fileAt place disk).1 ≠ .ok owner) :
    Restores path disk
      [.updateFile now { file with path := place } tags, .updateFile later file tags] := by
  have consistent := written.canonical.consistent
  have reflects := Store.reflects_disk written.load
  rw [reflects.file] at found
  obtain ⟨record, present, isFile⟩ := Database.file_eq_ok_iff.mp found
  rw [reflects.tags, consistent.tags_of_get? present] at carried
  cases carried
  obtain ⟨middle, last, altering, alteringBack, back⟩ :=
    consistent.exists_updateFile now later present fun _ _ => reflects.path_ne consistent free
  rw [← isFile] at alteringBack
  exact written.restores rfl rfl altering alteringBack back

theorem Written.restores_removeFile (written : Written path database disk) (now : Instant)
    {file : File} (tags : List Tag)
    (unknown : ∀ other, ((store path).file file.id disk).1 ≠ .ok other)
    (free : ∀ owner, ((store path).fileAt file.path disk).1 ≠ .ok owner) :
    Restores path disk [.updateFile now file tags, .removeFile file.id] := by
  have consistent := written.canonical.consistent
  have reflects := Store.reflects_disk written.load
  obtain ⟨middle, altering, alteringBack⟩ := consistent.exists_removeFile now tags
    (reflects.get?_eq_none unknown) fun _ _ => reflects.path_ne consistent free
  exact written.restores rfl rfl altering alteringBack rfl

/-- The bytes of a document that was missing depend only on what the store shows.  So
a tag of a new name that is taken away again, a file that is moved to a free path and
back, and a new file that is forgotten again leave the bytes as they were. -/
theorem readBytes_of_showAlike :
    (∀ (path otherPath : String) (disk otherDisk : Disk)
      (operations otherOperations : List Store.Operation),
      disk.contains path = false → otherDisk.contains otherPath = false →
      .ok .done ∈ ((store path).run operations disk).1 →
      .ok .done ∈ ((store otherPath).run otherOperations otherDisk).1 →
      let after := ((store path).run operations disk).2
      let otherAfter := ((store otherPath).run otherOperations otherDisk).2
      Store.ShowAlike (store path) after (store otherPath) otherAfter →
      ∃ content, after.readBytes path = .ok content ∧ otherAfter.readBytes otherPath = .ok content) ∧
    ∀ (path : String) (disk : Disk) (operations : List Store.Operation),
      disk.contains path = false → .ok .done ∈ ((store path).run operations disk).1 →
      let after := ((store path).run operations disk).2
      (∀ file tag tags, ((store path).tags file after).1 = .ok tags →
        (∀ other ∈ tags, other.name ≠ tag.name) →
        Restores path after [.updateTag file.id tag, .removeTag file.id tag.name]) ∧
      (∀ now later file tags place, ((store path).file file.id after).1 = .ok file →
        ((store path).tags file after).1 = .ok tags →
        (∀ owner, ((store path).fileAt place after).1 ≠ .ok owner) →
        Restores path after
          [.updateFile now { file with path := place } tags, .updateFile later file tags]) ∧
      ∀ now file tags, (∀ other, ((store path).file file.id after).1 ≠ .ok other) →
        (∀ owner, ((store path).fileAt file.path after).1 ≠ .ok owner) →
        Restores path after [.updateFile now file tags, .removeFile file.id] := by
  constructor
  · intro path otherPath disk otherDisk operations otherOperations missing otherMissing done
      otherDone after otherAfter alike
    obtain ⟨database, written⟩ := exists_written_of_run missing done
    obtain ⟨other, otherWritten⟩ := exists_written_of_run otherMissing otherDone
    obtain rfl := written.eq_of_showAlike otherWritten alike
    exact ⟨_, written.content, otherWritten.content⟩
  · intro path disk operations missing done after
    obtain ⟨database, written⟩ := exists_written_of_run missing done
    exact ⟨fun _ _ _ => written.restores_updateTag,
      fun now later _ _ _ => written.restores_updateFile now later,
      fun now _ => written.restores_removeFile now⟩

theorem reflects_of_registration {now : Instant} {file : File} {tags : List Tag}
    (missing : disk.contains path = false)
    (done : ((store path).perform (.updateFile now file tags) disk).1 = .ok .done) :
    (store path).Reflects ((store path).perform (.updateFile now file tags) disk).2
      (Database.empty.put file.id
        ⟨file.path, now, (Store.normalized tags).map Database.Label.ofTag⟩) := by
  have loaded : OnDisk.load path disk = .ok .empty := by rw [OnDisk.load, missing]; rfl
  obtain ⟨altered, -, reflects, altering⟩ :=
    (Store.follows_disk loaded).exists_of_done rfl (Prod.ext done rfl)
  cases altering
  exact reflects

/-- A registration, and another one behind a failure, with the tags in another order. -/
theorem readBytes_of_registrations :
    let file : File := ⟨⟨1, by decide⟩, "p"⟩
    let a : Tag := ⟨"a", none, by decide⟩
    let b : Tag := ⟨"b", some 5, by decide⟩
    let c : Tag := ⟨"c", none, by decide⟩
    let first := [Store.Operation.updateFile Instant.epoch file [b, a]]
    let second := [Store.Operation.removeFile file.id, .updateFile Instant.epoch file [a, a, b]]
    let disk : Disk := ⟨[], Table.empty⟩
    let after := ((store "db.json").run first disk).2
    let otherAfter := ((store "other.json").run second disk).2
    (∃ content, after.readBytes "db.json" = .ok content ∧
      otherAfter.readBytes "other.json" = .ok content) ∧
    Restores "db.json" after [.updateTag file.id c, .removeTag file.id "c"] ∧
    Restores "db.json" after [.updateFile Instant.epoch { file with path := "q" } [a, b],
      .updateFile Instant.epoch file [a, b]] ∧
    Restores "db.json" after [.updateFile Instant.epoch ⟨⟨2, by decide⟩, "q"⟩ [c],
      .removeFile ⟨2, by decide⟩] := by
  intro file a b c first second disk after otherAfter
  have done : ((store "db.json").perform (.updateFile Instant.epoch file [b, a]) disk).1 =
      .ok .done := eq_ok_of_toOption (by decide +kernel)
  have otherDone : ((store "other.json").perform (.updateFile Instant.epoch file [a, a, b])
      disk).1 = .ok .done := eq_ok_of_toOption (by decide +kernel)
  have missing : disk.contains "db.json" = false := by decide +kernel
  have otherMissing : disk.contains "other.json" = false := by decide +kernel
  let database : Database :=
    .put .empty file.id ⟨"p", Instant.epoch, [a, b].map Database.Label.ofTag⟩
  have normal : Store.normalized [b, a] = [a, b] := by decide +kernel
  have otherNormal : Store.normalized [a, a, b] = [a, b] := by decide +kernel
  have reflects : (store "db.json").Reflects after database := by
    have registered := reflects_of_registration missing done
    rwa [normal] at registered
  have otherReflects : (store "other.json").Reflects otherAfter database := by
    have registered := reflects_of_registration otherMissing otherDone
    rwa [otherNormal] at registered
  have alike : Store.ShowAlike (store "db.json") after (store "other.json") otherAfter := by
    refine ⟨_, reflects.listing, otherReflects.listing, fun entry _ => ?_⟩
    exact (reflects.tags entry.file).trans (otherReflects.tags entry.file).symm
  have tags : ((store "db.json").tags file after).1 = .ok [a, b] :=
    (reflects.tags file).trans (eq_ok_of_toOption (by decide +kernel))
  have free (owner : File) : ((store "db.json").fileAt "q" after).1 ≠ .ok owner := by
    rw [reflects.fileAt]
    nofun
  have unknown (other : File) : ((store "db.json").file ⟨2, by decide⟩ after).1 ≠ .ok other := by
    rw [reflects.file]
    nofun
  have isDone : .ok .done ∈ ((store "db.json").run first disk).1 :=
    List.mem_singleton.mpr done.symm
  have isOtherDone : .ok .done ∈ ((store "other.json").run second disk).1 :=
    List.mem_cons_of_mem _ (List.mem_singleton.mpr otherDone.symm)
  obtain ⟨restoresTag, restoresMove, restoresFile⟩ :=
    readBytes_of_showAlike.2 "db.json" disk first missing isDone
  refine ⟨readBytes_of_showAlike.1 _ _ _ _ _ _ missing otherMissing isDone isOtherDone alike,
    ?_, ?_, ?_⟩
  · exact restoresTag file c [a, b] tags (by decide)
  · exact restoresMove _ _ file _ "q" (reflects.file _) tags free
  · exact restoresFile _ ⟨⟨2, by decide⟩, "q"⟩ _ unknown free

end OnDisk

end TagCatalog

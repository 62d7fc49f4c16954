import TagCatalog.Proofs.Store.Hindrance
import TagCatalog.Proofs.Store.Reflection
import TagCatalog.Proofs.Store.Simulation
import TagCatalog.Proofs.Text.Order

/-!
# Stores are orderly

In an orderly store no two files share a path, files come in the strict order of the bytes
of their paths and tags in that of their names, and looking up an identifier or a path
finds the same files.  From an empty memory, and from a document that is loaded, calls
lead to orderly stores.  A document can be lost only where there was none, if the path is
not anchored and the disk fails before anything has been saved.
-/

namespace TagCatalog

namespace Store

open Text

variable {State : Type} {store : Store State} {state : State} {database : Database}
  {operation : Operation} {outcome : Except Error Answer × State} {error : Error}

def IsInPathOrder (files : List File) : Prop :=
  files.Pairwise fun first second => BytesBefore first.path second.path

def IsInNameOrder (tags : List Tag) : Prop :=
  tags.Pairwise fun first second => BytesBefore first.name second.name

structure Orderly (store : Store State) (state : State) : Prop where
  distinct : ∀ first second : File, (store.file first.id state).1 = .ok first →
    (store.file second.id state).1 = .ok second → first.path = second.path → first = second
  /-- Every identifier is listed exactly once. -/
  listed : ∃ listed : List ListedFile, (store.listing state).1 = .ok listed ∧
    (store.allFiles state).1 = .ok (listed.map ListedFile.file) ∧
    IsInPathOrder (listed.map ListedFile.file) ∧
    ((listed.map ListedFile.file).map File.id).Nodup ∧
    ∀ file, file ∈ listed.map ListedFile.file ↔ (store.file file.id state).1 = .ok file
  matching : ∀ filter, ∃ found, (store.matching filter state).1 = .ok found ∧ IsInPathOrder found
  tagged : ∀ file other, (store.file file.id state).1 = .ok other →
    ∃ tags, (store.tags file state).1 = .ok tags
  tags : ∀ file tags, (store.tags file state).1 = .ok tags →
    IsInNameOrder tags ∧ ∀ tag ∈ tags, tag.name ≠ ""
  lookup : ∀ file, (store.file file.id state).1 = .ok file ↔
    (store.fileAt file.path state).1 = .ok file
  conflict : ∀ now file tags path owner,
    (store.updateFile now file tags state).1 = .error (.pathInUse path owner) ↔
      path = file.path ∧ owner ≠ file.id ∧ (store.fileAt path state).1 = .ok ⟨owner, path⟩

/-- A change fails as the database says, unless the disk fails. -/
theorem Obeys.fst_eq_error_iff (obeys : Obeys store state database operation outcome)
    (notDisk : ∀ fault, error ≠ .disk fault) :
    outcome.1 = .error error ↔ operation.alter database = .error error := by
  cases obeys with
  | refuses refusing => rw [refusing, Except.error.injEq, Except.error.injEq]
  | alters altering =>
      rw [altering]
      exact ⟨nofun, nofun⟩
  | falters altering =>
      rw [altering]
      exact ⟨fun failed => absurd (Except.error.inj failed).symm (notDisk _), nofun⟩

end Store

namespace Database

open Store

variable {database : Database} {id : Uuid} {path : String} {file : File}

theorem Consistent.isInPathOrder_allFiles (consistent : database.Consistent) :
    IsInPathOrder database.allFiles :=
  consistent.allFiles_increasing.imp Text.bytesBefore_of_lt

theorem Consistent.nodup_id_allFiles (consistent : database.Consistent) :
    (database.allFiles.map File.id).Nodup := by
  apply List.pairwise_map.mpr
  apply consistent.allFiles_increasing.imp_of_mem
  intro first second firstIn secondIn below same
  obtain ⟨record, present, firstPath⟩ := mem_allFiles_iff.mp firstIn
  obtain ⟨other, otherPresent, secondPath⟩ := mem_allFiles_iff.mp secondIn
  rw [same, otherPresent] at present
  cases present
  rw [← firstPath, ← secondPath] at below
  exact String.lt_irrefl _ below

theorem Consistent.eq_of_path_eq (consistent : database.Consistent) {first second : File}
    (firstIn : first ∈ database.allFiles) (secondIn : second ∈ database.allFiles)
    (samePath : first.path = second.path) : first = second := by
  have found := consistent.fileAt_eq_ok_iff.mpr ⟨firstIn, samePath⟩
  rw [consistent.fileAt_eq_ok_iff.mpr ⟨secondIn, rfl⟩] at found
  exact (Except.ok.inj found).symm

theorem Consistent.tags_inNameOrder (consistent : database.Consistent) {tags : List Tag}
    (found : database.tags id = .ok tags) : IsInNameOrder tags := by
  obtain ⟨record, -, rfl⟩ := exists_labels_of_tags consistent found
  exact (increasing_values _).imp Text.bytesBefore_of_lt

theorem rival?_eq_some_iff {owner : Uuid} : database.rival? file = some owner ↔
    owner ≠ file.id ∧ database.fileAt file.path = .ok ⟨owner, file.path⟩ := by
  rw [rival?, Database.fileAt]
  cases database.owner? file.path with
  | none => simp
  | some other => simp [Option.filter_eq_some_iff, and_comm]

theorem updateFile_eq_pathInUse_iff {now : Instant} {tags : List Tag} {owner : Uuid} :
    database.updateFile now file tags = .error (.pathInUse path owner) ↔
      path = file.path ∧ owner ≠ file.id ∧ database.fileAt path = .ok ⟨owner, path⟩ := by
  rw [updateFile]
  constructor
  · intro failed
    split at failed
    next rival =>
      cases failed
      exact ⟨rfl, rival?_eq_some_iff.mp rival⟩
    next => cases failed
  · rintro ⟨rfl, rival⟩
    rw [rival?_eq_some_iff.mpr rival]

end Database

namespace Store

variable {State : Type} {store : Store State} {state : State} {database : Database}
  {error : Error}

theorem perform_updateFile_eq_error_iff {now : Instant} {file : File} {tags : List Tag} :
    (store.perform (.updateFile now file tags) state).1 = .error error ↔
      (store.updateFile now file tags state).1 = .error error := by
  rw [Store.perform, Action.map_eq]
  cases (store.updateFile now file tags state).1 <;> simp [Except.map]

theorem orderly_of_follows (follows : store.Follows state database) : Orderly store state := by
  obtain ⟨consistent, reflects, obeys⟩ := follows
  have registered (file : File) :
      (store.file file.id state).1 = .ok file ↔ file ∈ database.allFiles := by
    rw [reflects.file, Database.file_id_eq_ok_iff]
  constructor
  · intro first second firstFound secondFound
    exact consistent.eq_of_path_eq ((registered first).mp firstFound)
      ((registered second).mp secondFound)
  · refine ⟨database.listing, reflects.listing, ?_⟩
    rw [database.map_file_listing]
    exact ⟨reflects.allFiles, consistent.isInPathOrder_allFiles, consistent.nodup_id_allFiles,
      fun file => (registered file).symm⟩
  · intro filter
    rw [reflects.matching, consistent.matching_eq_filter]
    exact ⟨_, rfl, consistent.isInPathOrder_allFiles.filter _⟩
  · intro file other found
    rw [reflects.file] at found
    obtain ⟨record, present, -⟩ := Database.file_eq_ok_iff.mp found
    exact ⟨_, (reflects.tags file).trans (consistent.tags_of_get? present)⟩
  · intro file tags found
    rw [reflects.tags] at found
    exact ⟨consistent.tags_inNameOrder found, fun tag _ => tag.name_ne⟩
  · intro file
    rw [registered, reflects.fileAt, consistent.fileAt_eq_ok_iff]
    exact (and_iff_left rfl).symm
  · intro now file tags path owner
    have notDisk : ∀ fault, Error.pathInUse path owner ≠ .disk fault := fun _ => nofun
    rw [reflects.fileAt, ← perform_updateFile_eq_error_iff,
      (obeys (.updateFile now file tags) rfl).fst_eq_error_iff notDisk]
    exact Database.updateFile_eq_pathInUse_iff

end Store

theorem Memory.exists_consistent_of_run {database : Database} (consistent : database.Consistent)
    (operations : List Store.Operation) : ∃ altered : Database, altered.Consistent ∧
      (Memory.store.run operations database.toMemory).2 = altered.toMemory := by
  induction operations generalizing database with
  | nil => exact ⟨database, consistent, rfl⟩
  | cons operation rest inductionHypothesis =>
      obtain ⟨altered, stands, outcome⟩ := exists_perform_toMemory consistent operation
      rw [Store.run_cons, stands]
      apply inductionHypothesis
      rcases outcome with rfl | altering
      · exact consistent
      · exact consistent.alter altering

theorem Memory.exists_of_run (operations : List Store.Operation) : ∃ database : Database,
    database.Consistent ∧ (Memory.store.run operations .empty).2 = database.toMemory :=
  exists_consistent_of_run (Database.firstFault?_eq_none_iff.mp rfl : Database.empty.Consistent)
    operations

namespace OnDisk

open Disk

variable {path : String} {disk : Disk} {database : Database} {operations : List Store.Operation}

theorem anchored_of_writeOver {text : String} {after : Disk}
    (written : writeOver path text disk = (.ok (), after)) : Anchored path after := by
  obtain ⟨place, located, -⟩ := (settled_of_writeOver written).document
  exact anchored_of_locate located

/-- A document goes on to be loaded, unless its path is not anchored and the disk fails
before anything is saved. -/
theorem exists_load_of_run (loaded : load path disk = .ok database)
    (secure : Anchored path disk ∨ .ok .done ∈ ((store path).run operations disk).1 ∨
      ∀ fault, .error (.disk fault) ∉ ((store path).run operations disk).1) :
    ∃ last, load path ((store path).run operations disk).2 = .ok last := by
  induction operations generalizing disk database with
  | nil => exact ⟨database, loaded⟩
  | cons operation rest inductionHypothesis =>
      have step := step_perform path operation disk
      have evolves := evolves_perform path operation disk
      rw [Store.run_cons] at secure ⊢
      generalize (store path).perform operation disk = result at step evolves secure
      cases step with
      | asked _ notDone =>
          apply inductionHypothesis loaded
          refine secure.imp_right (Or.imp ?_ ?_)
          · exact List.mem_of_ne_of_mem notDone.symm
          · exact fun noFault fault failed => noFault fault (List.mem_cons_of_mem _ failed)
      | refused =>
          apply inductionHypothesis loaded
          refine secure.imp_right (Or.imp ?_ ?_)
          · exact List.mem_of_ne_of_mem nofun
          · exact fun noFault fault failed => noFault fault (List.mem_cons_of_mem _ failed)
      | saved altering written =>
          rw [loaded] at altering
          have consistent := (consistent_of_load loaded).alter altering
          have reloaded := load_of_save consistent (save_of_writeOver written)
          exact inductionHypothesis reloaded (.inl (anchored_of_writeOver written))
      | @failed _ fault after _ failed =>
          rcases secure with anchored | done | noFault
          · have same := load_eq_of_find ((spared_of_writeOver failed).document anchored)
            exact inductionHypothesis (same.trans loaded) (.inl (anchored.of_evolves evolves))
          · have doneLater := (List.mem_cons.mp done).resolve_left nofun
            exact absurd doneLater (not_done_of_hindered (hindered_of_writeOver failed) rest)
          · exact absurd List.mem_cons_self (noFault fault)

theorem exists_load_of_orderly (orderly : Store.Orderly (store path) disk) :
    ∃ database, load path disk = .ok database := by
  obtain ⟨_, listing, -⟩ := orderly.listed
  obtain ⟨database, loaded, -⟩ := Action.exists_of_except_bind_eq_ok listing
  exact ⟨database, loaded⟩

end OnDisk

/-- Calls lead from an empty memory, and from a document that is loaded, to orderly
stores.  The document is still loaded if its path was anchored at first, something has
been saved, or the disk has not failed. -/
theorem Store.orderly_of_run :
    (∀ operations, Orderly Memory.store (Memory.store.run operations .empty).2) ∧
    ∀ (path : String) (disk : Disk) (database : Database) (operations : List Operation),
      OnDisk.load path disk = .ok database →
      let answers := ((OnDisk.store path).run operations disk).1
      let after := ((OnDisk.store path).run operations disk).2
      (Disk.Anchored path disk ∨ .ok .done ∈ answers ∨ (∀ fault, .error (.disk fault) ∉ answers) →
        ∃ last, OnDisk.load path after = .ok last) ∧
      ∀ last, OnDisk.load path after = .ok last → Orderly (OnDisk.store path) after := by
  constructor
  · intro operations
    have consistent : Database.empty.Consistent := Database.firstFault?_eq_none_iff.mp rfl
    obtain ⟨database, consistent, stands⟩ := Memory.exists_consistent_of_run consistent operations
    have orderly := orderly_of_follows (follows_memory consistent)
    rwa [← stands] at orderly
  · intro path disk database operations loaded answers after
    refine ⟨OnDisk.exists_load_of_run loaded, fun last reloaded => ?_⟩
    exact orderly_of_follows (follows_disk reloaded)

/-- From a document that is out of order and repeats a name. -/
theorem Store.orderly_handwritten :
    let after := ((OnDisk.store "db.json").run OnDisk.handwrittenCalls OnDisk.handwrittenDisk).2
    OnDisk.load "db.json" OnDisk.handwrittenDisk = .ok OnDisk.handwritten ∧
      Disk.Anchored "db.json" OnDisk.handwrittenDisk ∧
      ∃ last, OnDisk.load "db.json" after = .ok last ∧ Orderly (OnDisk.store "db.json") after := by
  intro after
  have loaded := OnDisk.load_handwritten
  obtain ⟨place, located, -⟩ := OnDisk.settled_handwritten.document
  have anchored := Disk.anchored_of_locate located
  obtain ⟨last, reloaded⟩ := (orderly_of_run.2 _ _ _ OnDisk.handwrittenCalls loaded).1 (.inl anchored)
  exact ⟨loaded, anchored, last, reloaded,
    (orderly_of_run.2 _ _ _ OnDisk.handwrittenCalls loaded).2 last reloaded⟩

/-- A registration that makes a directory of what is to be the document. -/
theorem Store.not_orderly_behind_missing :
    let disk : Disk := ⟨[], Table.empty⟩
    let register := Operation.updateFile Instant.epoch ⟨⟨1, by decide⟩, "p"⟩ []
    let after := ((OnDisk.store "x/../x").run [register] disk).2
    OnDisk.load "x/../x" disk = .ok .empty ∧
      OnDisk.load "x/../x" after = .error (.disk .isDirectory) ∧
      ¬ Orderly (OnDisk.store "x/../x") after := by
  intro disk register after
  have isDirectory : after.find "x/../x" = .ok .directory :=
    OnDisk.eq_ok_of_toOption (by decide +kernel)
  have unreadable := OnDisk.load_of_directory isDirectory
  refine ⟨rfl, unreadable, fun orderly => ?_⟩
  obtain ⟨database, loaded⟩ := OnDisk.exists_load_of_orderly orderly
  rw [unreadable] at loaded
  cases loaded

end TagCatalog

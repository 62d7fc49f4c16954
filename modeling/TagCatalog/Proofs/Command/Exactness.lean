import TagCatalog.Proofs.Command.Finding
import TagCatalog.Proofs.Command.Reachability
import TagCatalog.Proofs.Command.Success

/-!
# Commands change what they say

What a catalog shows is a table of records: its files with their times, what each
selector gets, and what each filter matches.  A command that succeeds makes of this table
what `Alters` says.  So the records of all files that it does not report stay, and so does
every part of a record that the command is not about.
-/

namespace TagCatalog

namespace Selector

variable {text rest : List Char}

theorem afterMarker?_eq_some_iff : afterMarker? text = some rest ↔ text = marker ++ rest := by
  unfold afterMarker?
  constructor
  · intro found
    split at found
    next marked =>
      cases found
      exact (marked ▸ List.take_append_drop marker.length text).symm
    next => cases found
  · rintro rfl
    rw [List.take_left, if_pos rfl, List.drop_left]

theorem ofText_eq_path_iff {text path : String} :
    ofText text = .ok (.path path) ↔ afterMarker? text.toList = none ∧ text = path := by
  unfold ofText
  cases afterMarker? text.toList with
  | none => simp
  | some rest => cases found : Uuid.ofText? rest <;> simp [found]

theorem ofText_eq_id_iff {text : String} {id : Uuid} : ofText text = .ok (.id id) ↔
    ∃ rest, afterMarker? text.toList = some rest ∧ Uuid.ofText? rest = some id := by
  unfold ofText
  cases afterMarker? text.toList with
  | none => simp
  | some rest => cases found : Uuid.ofText? rest <;> simp [found]

theorem ofText_text_id (id : Uuid) : ofText (Selector.id id).text = .ok (.id id) :=
  ofText_eq_id_iff.mpr
    ⟨id.text, afterMarker?_eq_some_iff.mpr String.toList_ofList, Uuid.ofText?_text id⟩

end Selector

namespace Command

open Store

variable {State : Type} {store : Store State} {state after : State} {database : Database}
  {selector : String} {file : File} {records : Table Uuid Memory.Record}

/-- Whether a selector names a record, by its identifier or by its path. -/
def Selects (records : Table Uuid Memory.Record) (selector : String) (id : Uuid)
    (record : Memory.Record) : Prop :=
  records.get? id = some record ∧
    (Selector.ofText selector = .ok (.id id) ∨ Selector.ofText selector = .ok (.path record.path))

/-- Whether some records are what the asking commands show. -/
structure Exhibits (store : Store State) (state : State)
    (records : Table Uuid Memory.Record) : Prop where
  files : ∃ listed : List ListedFile, Command.files store state = (.ok { listed }, state) ∧
    listed.Pairwise (fun first second => first.file.path < second.file.path) ∧
    ∀ entry, entry ∈ listed ↔ ∃ record, records.get? entry.file.id = some record ∧
      record.path = entry.file.path ∧ some record.addedAt = entry.addedAt
  tags : ∀ selector id record, Selects records selector id record →
    Command.tags store selector state =
      (.ok { affected := [⟨id, record.path⟩], tags := record.tags.values }, state)
  unselected : ∀ selector, (∀ id record, ¬ Selects records selector id record) →
    ∃ error, Command.tags store selector state = (.error error, state)
  matching : ∀ words filter, Filter.parse (String.intercalate " " words) = .ok filter →
    Lists store state words fun file => ∃ record, records.get? file.id = some record ∧
      record.path = file.path ∧ filter.accepts record.tags.values = true
  /-- The tags of a record are kept under their names. -/
  keyed : ∀ id record, records.get? id = some record →
    ∀ entry ∈ record.tags.entries, entry.2.name = entry.1

/-- What a successful command makes of the records. -/
inductive Alters (records : Table Uuid Memory.Record) :
    Call → Report → Table Uuid Memory.Record → Prop where
  | known {now : Instant} {fresh id : Uuid} {path : String} {record : Memory.Record}
      {report : Report} : records.get? id = some record → record.path = path →
      report.affected = [⟨id, path⟩] → Alters records (.add now fresh path) report records
  | added {now : Instant} {fresh : Uuid} {path : String} {report : Report} :
      records.get? fresh = none →
      (∀ id record, records.get? id = some record → record.path ≠ path) →
      report.affected = [⟨fresh, path⟩] →
      Alters records (.add now fresh path) report (records.insert fresh ⟨path, now, .empty⟩)
  | removed {selector : String} {id : Uuid} {record : Memory.Record} {report : Report} :
      Selects records selector id record → report.affected = [⟨id, record.path⟩] →
      Alters records (.remove selector) report (records.erase id)
  | stayed {now : Instant} {selector path : String} {id : Uuid} {record : Memory.Record}
      {report : Report} : Selects records selector id record → record.path = path →
      report.affected = [⟨id, path⟩] → Alters records (.move now selector path) report records
  | moved {now : Instant} {selector path : String} {id : Uuid} {record : Memory.Record}
      {report : Report} : Selects records selector id record →
      (∀ other otherRecord, records.get? other = some otherRecord → otherRecord.path ≠ path) →
      report.affected = [⟨id, path⟩] →
      Alters records (.move now selector path) report (records.insert id { record with path })
  /-- The tag is plain if no value is given. -/
  | set {selector name : String} {value : Option String} {id : Uuid} {record : Memory.Record}
      {tag : Tag} {report : Report} : Selects records selector id record →
      tag.name = name → value.mapM Tag.Value.ofText? = some tag.value →
      report.affected = [⟨id, record.path⟩] → report.tags = [tag] →
      Alters records (.set selector name value) report
        (records.insert id { record with tags := record.tags.insert name tag })
  | unset {selector name : String} {id : Uuid} {record : Memory.Record} {report : Report} :
      Selects records selector id record → record.tags.contains name = true →
      report.affected = [⟨id, record.path⟩] →
      Alters records (.unset selector name) report
        (records.insert id { record with tags := record.tags.erase name })

/-- All records stay but those of the reported files. -/
theorem Alters.get?_of_unaffected {call : Call} {report : Report}
    {altered : Table Uuid Memory.Record} (alters : Alters records call report altered) {id : Uuid}
    (unaffected : ∀ file ∈ report.affected, file.id ≠ id) :
    altered.get? id = records.get? id := by
  cases alters with
  | known | stayed => rfl
  | added _ _ affected | moved _ _ affected | set _ _ _ affected | unset _ _ affected =>
      rw [affected] at unaffected
      exact Table.get?_insert_of_ne _ _ (unaffected _ (List.mem_singleton_self _)).symm
  | removed _ affected =>
      rw [affected] at unaffected
      exact Table.get?_erase_of_ne _ (unaffected _ (List.mem_singleton_self _)).symm

theorem resolveText_eq_ok_iff (reflects : store.Reflects state database)
    (consistent : database.Consistent) : (resolveText store selector state).1 = .ok file ↔
      ∃ record, Selects database.toMemory.records selector file.id record ∧
        record.path = file.path := by
  constructor
  · intro resolved
    cases isSelector : Selector.ofText selector with
    | error =>
        have failed : (resolveText store selector state).1 = .error _ :=
          congrArg Prod.fst (Action.bind_of_error (congrArg (·, state) isSelector))
        rw [failed] at resolved
        cases resolved
    | ok selected =>
        rw [resolveText_of_ofText isSelector] at resolved
        cases selected with
        | id id =>
            obtain ⟨record, present, rfl⟩ :=
              Database.file_eq_ok_iff.mp ((reflects.file id).symm.trans resolved)
            exact ⟨record.toMemory, ⟨Database.get?_toMemory_of_mem present, .inl isSelector⟩, rfl⟩
        | path path =>
            obtain ⟨membership, rfl⟩ :=
              consistent.fileAt_eq_ok_iff.mp ((reflects.fileAt path).symm.trans resolved)
            obtain ⟨record, present, samePath⟩ := Database.mem_allFiles_iff.mp membership
            rw [← samePath] at isSelector
            exact ⟨record.toMemory, ⟨Database.get?_toMemory_of_mem present, .inr isSelector⟩,
              samePath⟩
  · rintro ⟨record, ⟨present, selected⟩, samePath⟩
    obtain ⟨kept, isKept, rfl⟩ := Database.get?_toMemory_eq_some_iff.mp present
    have isFile : file = ⟨file.id, kept.path⟩ := congrArg (File.mk file.id) samePath.symm
    rcases selected with byId | byPath
    · rw [resolveText_of_ofText byId]
      exact (reflects.file file.id).trans (Database.file_eq_ok_iff.mpr ⟨kept, isKept, isFile⟩)
    · rw [resolveText_of_ofText byPath]
      have membership : file ∈ database.allFiles :=
        Database.mem_allFiles_iff.mpr ⟨kept, isKept, samePath⟩
      exact (reflects.fileAt _).trans
        (consistent.fileAt_eq_ok_iff.mpr ⟨membership, samePath.symm⟩)

theorem resolveText_of_ofText_id (reflects : store.Reflects state database)
    (isSelector : Selector.ofText selector = .ok (.id file.id))
    (membership : file ∈ database.allFiles) :
    resolveText store selector state = (.ok file, state) := by
  have byId := (reflects.file file.id).trans (Database.file_id_eq_ok_iff.mpr membership)
  rw [resolveText_of_ofText isSelector, ← byId]
  exact (reflects.asks.file file.id).eq state

theorem tags_of_resolves {tags : List Tag} (asks : store.AsksSilently)
    (resolved : (resolveText store selector state).1 = .ok file)
    (carried : (store.tags file state).1 = .ok tags) :
    Command.tags store selector state = (.ok { affected := [file], tags }, state) := by
  have asked := (silent_resolveText asks selector).eq state
  have gets := (asks.tags file).eq state
  rw [resolved] at asked
  rw [carried] at gets
  rw [Command.tags, Action.bind_of_ok asked, Action.bind_of_ok gets]
  rfl

theorem tags_apply (reflects : store.Reflects state database)
    (consistent : database.Consistent) {record : Memory.Record}
    (selected : Selects database.toMemory.records selector file.id record)
    (samePath : record.path = file.path) : tags store selector state =
      (.ok { affected := [file], tags := record.tags.values }, state) := by
  have resolved := (resolveText_eq_ok_iff reflects consistent).mpr ⟨record, selected, samePath⟩
  obtain ⟨kept, present, rfl⟩ := Database.get?_toMemory_eq_some_iff.mp selected.1
  have carried := (reflects.tags file).trans (consistent.tags_of_get? present)
  exact tags_of_resolves reflects.asks resolved carried

theorem files_apply (reflects : store.Reflects state database) :
    files store state = (.ok { listed := database.listing }, state) := by
  have listing := reflects.asks.listing.eq state
  rw [reflects.listing] at listing
  rw [files, Action.bind_of_ok listing]
  rfl

/-- A store that reflects a database exhibits the records of the memory for which that
stands. -/
theorem exhibits_of_reflects (reflects : store.Reflects state database)
    (consistent : database.Consistent) : Exhibits store state database.toMemory.records := by
  constructor
  · refine ⟨database.listing, files_apply reflects, ?_, ?_⟩
    · have increasing := consistent.allFiles_increasing
      rw [← database.map_file_listing, List.pairwise_map] at increasing
      exact increasing
    · intro entry
      simp only [Database.get?_toMemory_eq_some_iff, Database.mem_listing_iff]
      constructor
      · rintro ⟨kept, present, samePath, sameTime⟩
        exact ⟨kept.toMemory, ⟨kept, present, rfl⟩, samePath, sameTime⟩
      · rintro ⟨_, ⟨kept, present, rfl⟩, samePath, sameTime⟩
        exact ⟨kept, present, samePath, sameTime⟩
  · intro selector id record selected
    have isFile : (⟨id, record.path⟩ : File).path = record.path := rfl
    exact tags_apply reflects consistent selected isFile.symm
  · intro selector unselected
    have asked := (silent_resolveText reflects.asks selector).eq state
    cases resolved : (resolveText store selector state).1 with
    | error error =>
        rw [resolved] at asked
        refine ⟨error, ?_⟩
        rw [tags, Action.bind_of_error asked]
    | ok file =>
        obtain ⟨record, selected, -⟩ := (resolveText_eq_ok_iff reflects consistent).mp resolved
        exact absurd selected (unselected file.id record)
  · intro words filter parsed
    apply (lists_of_parse (shows_of_reflects reflects) consistent parsed).congr
    intro file
    simp only [Database.get?_toMemory_eq_some_iff]
    constructor
    · rintro ⟨membership, accepted⟩
      obtain ⟨kept, present, samePath⟩ := Database.mem_allFiles_iff.mp membership
      rw [Database.carried, consistent.tags_of_get? present] at accepted
      exact ⟨kept.toMemory, ⟨kept, present, rfl⟩, samePath, accepted⟩
    · rintro ⟨_, ⟨kept, present, rfl⟩, samePath, accepted⟩
      refine ⟨Database.mem_allFiles_iff.mpr ⟨kept, present, samePath⟩, ?_⟩
      rw [Database.carried, consistent.tags_of_get? present]
      exact accepted
  · intro id record present
    obtain ⟨kept, -, rfl⟩ := Database.get?_toMemory_eq_some_iff.mp present
    exact Database.keyed_ofList _

/-- Whether the identifier that a registration is given is that of no file. -/
def Call.IsFresh (store : Store State) (state : State) : Call → Prop
  | .add _ fresh _ => ∀ file, (store.file fresh state).1 ≠ .ok file
  | .remove _ | .move _ _ _ | .set _ _ _ | .unset _ _ | .tags _ | .files | .matchWords _ _
  | .find _ => True

theorem value_of_parseTag {name : String} {value : Option String} {tag : Tag}
    (parsed : parseTag name value = .ok tag) :
    tag.name = name ∧ value.mapM Tag.Value.ofText? = some tag.value := by
  obtain ⟨-, number, numbers, made⟩ := exists_of_parseTag parsed
  obtain ⟨sameName, sameValue⟩ := eq_of_of? made
  refine ⟨sameName, ?_⟩
  rw [sameValue]
  cases value with
  | none =>
      cases numbers
      rfl
  | some text =>
      rw [Option.mapM_some, parseValue] at numbers
      split at numbers
      next number found =>
        cases numbers
        rw [Option.mapM_some, found]
        rfl
      next => cases numbers

section Alterations

variable {altered : Database} {record : Memory.Record} {report : Report}

theorem alters_removed (selected : Selects database.toMemory.records selector file.id record)
    (samePath : record.path = file.path) (affected : report.affected = [file])
    (altering : database.removeFile file.id = .ok altered) :
    Alters database.toMemory.records (.remove selector) report altered.toMemory.records := by
  have inMemory := (database.removeFile_toMemory file.id).trans
    (congrArg (Except.map Database.toMemory) altering)
  rw [Memory.eq_of_removeFile inMemory]
  exact .removed selected (by rw [affected, samePath])

theorem alters_set (consistent : database.Consistent) {name : String} {value : Option String}
    {tag : Tag} (selected : Selects database.toMemory.records selector file.id record)
    (samePath : record.path = file.path) (affected : report.affected = [file])
    (tags : report.tags = [tag]) (parsed : parseTag name value = .ok tag)
    (altering : database.updateTag file.id tag = .ok altered) :
    Alters database.toMemory.records (.set selector name value) report
      altered.toMemory.records := by
  have inMemory := (consistent.updateTag_toMemory file.id tag).trans
    (congrArg (Except.map Database.toMemory) altering)
  obtain ⟨other, present, stands⟩ := Memory.exists_of_updateTag inMemory
  rw [selected.1] at present
  cases present
  obtain ⟨rfl, isValue⟩ := value_of_parseTag parsed
  rw [stands]
  exact .set selected rfl isValue (by rw [affected, samePath]) tags

theorem alters_unset (consistent : database.Consistent) {name : String}
    (selected : Selects database.toMemory.records selector file.id record)
    (samePath : record.path = file.path) (affected : report.affected = [file])
    (altering : database.removeTag file.id name = .ok altered) :
    Alters database.toMemory.records (.unset selector name) report altered.toMemory.records := by
  have inMemory := (consistent.removeTag_toMemory file.id name).trans
    (congrArg (Except.map Database.toMemory) altering)
  obtain ⟨other, present, carried, stands⟩ := Memory.exists_of_removeTag inMemory
  rw [selected.1] at present
  cases present
  rw [stands]
  exact .unset selected carried (by rw [affected, samePath])

theorem alters_added (reflects : store.Reflects state database)
    (consistent : database.Consistent) {now : Instant} {fresh : Uuid} {path : String}
    (isFresh : ∀ file, (store.file fresh state).1 ≠ .ok file)
    (unregistered : ∀ file, (store.fileAt path state).1 ≠ .ok file)
    (affected : report.affected = [⟨fresh, path⟩])
    (altering : database.updateFile now ⟨fresh, path⟩ [] = .ok altered) :
    Alters database.toMemory.records (.add now fresh path) report altered.toMemory.records := by
  have inMemory := (database.updateFile_toMemory now ⟨fresh, path⟩ []).trans
    (congrArg (Except.map Database.toMemory) altering)
  have absent : database.toMemory.records.get? fresh = none := by
    rw [Database.toMemory, Table.get?_map, reflects.get?_eq_none isFresh, Option.map_none]
  rw [Memory.eq_of_updateFile inMemory, absent]
  refine .added absent ?_ affected
  intro id _ found
  obtain ⟨kept, present, rfl⟩ := Database.get?_toMemory_eq_some_iff.mp found
  exact reflects.path_ne consistent unregistered present

theorem alters_moved (consistent : database.Consistent) {now : Instant} {path : String}
    {tags : List Tag} (selected : Selects database.toMemory.records selector file.id record)
    (samePath : record.path = file.path) (elsewhere : file.path ≠ path)
    (affected : report.affected = [{ file with path }])
    (carried : database.tags file.id = .ok tags)
    (altering : database.updateFile now { file with path } tags = .ok altered) :
    Alters database.toMemory.records (.move now selector path) report
      altered.toMemory.records := by
  have inMemory := (database.updateFile_toMemory now { file with path } tags).trans
    (congrArg (Except.map Database.toMemory) altering)
  obtain ⟨kept, isKept, rfl⟩ := Database.get?_toMemory_eq_some_iff.mp selected.1
  rw [consistent.tags_of_get? isKept] at carried
  cases carried
  rw [Memory.eq_of_updateFile inMemory, Database.ofList_values_tagTable, selected.1]
  refine .moved selected ?_ affected
  rintro other _ found rfl
  obtain ⟨otherKept, present, rfl⟩ := Database.get?_toMemory_eq_some_iff.mp found
  obtain ⟨free, -⟩ := Database.exists_of_updateFile altering
  have own := consistent.eq_of_rival?_eq_none free present rfl
  rw [own, isKept] at present
  cases present
  exact elsewhere samePath.symm

end Alterations

theorem exists_alters_of_succeeds (follows : store.Follows state database) {call : Call}
    {report : Report} (fresh : call.IsFresh store state)
    (succeeds : Succeeds store state call report after) :
    ∃ altered : Database, altered.Consistent ∧ store.Reflects after altered ∧
      Alters database.toMemory.records call report altered.toMemory.records := by
  have consistent := follows.consistent
  have reflects := follows.reflects
  have selects {selector : String} {file : File}
      (resolved : (resolveText store selector state).1 = .ok file) :=
    (resolveText_eq_ok_iff reflects consistent).mp resolved
  cases succeeds with
  | known found affected =>
      rw [reflects.fileAt] at found
      obtain ⟨membership, rfl⟩ := consistent.fileAt_eq_ok_iff.mp found
      obtain ⟨record, present, samePath⟩ := Database.mem_allFiles_iff.mp membership
      exact ⟨database, consistent, reflects,
        .known (Database.get?_toMemory_of_mem present) samePath affected⟩
  | added unregistered performed affected =>
      obtain ⟨altered, stays, shown, altering⟩ := follows.exists_of_done rfl performed
      exact ⟨altered, stays, shown,
        alters_added reflects consistent fresh unregistered affected altering⟩
  | removed resolved performed affected =>
      obtain ⟨altered, stays, shown, altering⟩ := follows.exists_of_done rfl performed
      obtain ⟨record, selected, samePath⟩ := selects resolved
      exact ⟨altered, stays, shown, alters_removed selected samePath affected altering⟩
  | stayed resolved here affected =>
      subst here
      obtain ⟨record, selected, samePath⟩ := selects resolved
      exact ⟨database, consistent, reflects, .stayed selected samePath affected⟩
  | moved resolved elsewhere carried performed affected =>
      obtain ⟨altered, stays, shown, altering⟩ := follows.exists_of_done rfl performed
      obtain ⟨record, selected, samePath⟩ := selects resolved
      rw [reflects.tags] at carried
      exact ⟨altered, stays, shown,
        alters_moved consistent selected samePath elsewhere affected carried altering⟩
  | set resolved parsed performed affected tags =>
      obtain ⟨altered, stays, shown, altering⟩ := follows.exists_of_done rfl performed
      obtain ⟨record, selected, samePath⟩ := selects resolved
      exact ⟨altered, stays, shown,
        alters_set consistent selected samePath affected tags parsed altering⟩
  | unset resolved performed affected =>
      obtain ⟨altered, stays, shown, altering⟩ := follows.exists_of_done rfl performed
      obtain ⟨record, selected, samePath⟩ := selects resolved
      exact ⟨altered, stays, shown, alters_unset consistent selected samePath affected altering⟩

/-- Whether a command has changed the records as it says, and no others. -/
def ChangesExactly (store : Store State) (state : State) (call : Call) (report : Report)
    (after : State) : Prop :=
  ∃ records altered, Exhibits store state records ∧ Alters records call report altered ∧
    Exhibits store after altered ∧
    ∀ id, (∀ file ∈ report.affected, file.id ≠ id) → altered.get? id = records.get? id

theorem changesExactly_of_succeeds (follows : store.Follows state database) {call : Call}
    {report : Report} (fresh : call.IsFresh store state)
    (succeeds : Succeeds store state call report after) :
    ChangesExactly store state call report after := by
  obtain ⟨altered, consistent, reflects, alters⟩ :=
    exists_alters_of_succeeds follows fresh succeeds
  exact ⟨_, _, exhibits_of_reflects follows.reflects follows.consistent, alters,
    exhibits_of_reflects reflects consistent, fun _ => alters.get?_of_unaffected⟩

variable {path : String} {disk : Disk}

theorem exists_load_of_resolveText
    (resolved : (resolveText (OnDisk.store path) selector disk).1 = .ok file) :
    ∃ database, OnDisk.load path disk = .ok database := by
  have found : ∃ selected, (resolve (OnDisk.store path) selected disk).1 = .ok file := by
    obtain ⟨selected, -, found⟩ := Action.exists_of_silent_bind (silent_ofExcept _)
      (Prod.ext resolved rfl)
    exact ⟨selected, congrArg Prod.fst found⟩
  obtain ⟨selected, found⟩ := found
  cases selected with
  | id | path =>
      obtain ⟨database, loaded, -⟩ := Action.exists_of_except_bind_eq_ok found
      exact ⟨database, loaded⟩

theorem exists_load_of_succeeds {call : Call} {report : Report} {after : Disk}
    (succeeds : Succeeds (OnDisk.store path) disk call report after) :
    ∃ database, OnDisk.load path disk = .ok database := by
  cases succeeds with
  | known found =>
      obtain ⟨database, loaded, -⟩ := Action.exists_of_except_bind_eq_ok found
      exact ⟨database, loaded⟩
  | @added now fresh place _ _ _ performed =>
      have step := OnDisk.step_perform path (.updateFile now ⟨fresh, place⟩ []) disk
      rw [performed] at step
      cases step with
      | asked question => cases question
      | saved altering =>
          obtain ⟨database, loaded, -⟩ := Action.exists_of_except_bind_eq_ok altering
          exact ⟨database, loaded⟩
  | removed resolved | stayed resolved | moved resolved | set resolved | unset resolved =>
      exact exists_load_of_resolveText resolved

/-- Every successful command changes what it says and nothing else: in the memories that
calls reach, and on any disk. -/
theorem changesExactly_of_ok :
    (∀ (memory : Memory) (call : Call) (report : Report) (after : Memory),
      ReachesMemory memory → call.isQuestion = false → call.IsFresh Memory.store memory →
      call.perform Memory.store memory = (.ok (.report report), after) →
      ChangesExactly Memory.store memory call report after) ∧
    ∀ (path : String) (disk : Disk) (call : Call) (report : Report) (after : Disk),
      call.isQuestion = false → call.IsFresh (OnDisk.store path) disk →
      call.perform (OnDisk.store path) disk = (.ok (.report report), after) →
      ChangesExactly (OnDisk.store path) disk call report after := by
  constructor
  · intro memory call report after reached isChange fresh done
    obtain ⟨database, rfl, sound⟩ := sound_of_reachesMemory reached
    exact changesExactly_of_succeeds (follows_memory sound.consistent) fresh
      (succeeds_of_perform Memory.asksSilently isChange done)
  · intro path disk call report after isChange fresh done
    have succeeds := succeeds_of_perform (OnDisk.asksSilently path) isChange done
    obtain ⟨database, loaded⟩ := exists_load_of_succeeds succeeds
    exact changesExactly_of_succeeds (follows_disk loaded) fresh succeeds

/-- A move in a memory, and a registration on a disk. -/
theorem changesExactly_moved :
    let add := Call.add Instant.epoch ⟨1, by decide⟩ "p"
    let move := Call.move Instant.epoch "p" "q"
    let memory := (add.perform Memory.store .empty).2
    let disk : Disk := ⟨[], Table.empty⟩
    let added : Report :=
      { affected := [⟨⟨1, by decide⟩, "p"⟩]
        messages := [⟨.success, "Added 00000000-0000-0000-0000-000000000001 p"⟩] }
    let moved : Report :=
      { affected := [⟨⟨1, by decide⟩, "q"⟩], messages := [⟨.success, "Moved p to q"⟩] }
    (ReachesMemory memory ∧ move.IsFresh Memory.store memory ∧
      (move.perform Memory.store memory).1 = .ok (.report moved) ∧
      ChangesExactly Memory.store memory move moved (move.perform Memory.store memory).2) ∧
    add.IsFresh (OnDisk.store "d/db.json") disk ∧
      (add.perform (OnDisk.store "d/db.json") disk).1 = .ok (.report added) ∧
      ChangesExactly (OnDisk.store "d/db.json") disk add added
        (add.perform (OnDisk.store "d/db.json") disk).2 := by
  intro add move memory disk added moved
  have reached : ReachesMemory memory := .call add .empty
  have movedDone : (move.perform Memory.store memory).1 = .ok (.report moved) := by decide +kernel
  have unknown : ((OnDisk.store "d/db.json").file ⟨1, by decide⟩ disk).1 =
      .error (.unknownFile ⟨1, by decide⟩) := by decide +kernel
  have fresh : add.IsFresh (OnDisk.store "d/db.json") disk := by
    intro file found
    rw [unknown] at found
    cases found
  have done : (add.perform (OnDisk.store "d/db.json") disk).1 = .ok (.report added) := by
    decide +kernel
  refine ⟨⟨reached, trivial, movedDone, ?_⟩, fresh, done, ?_⟩
  · exact changesExactly_of_ok.1 _ _ _ _ reached rfl trivial (Prod.ext movedDone rfl)
  · exact changesExactly_of_ok.2 _ _ _ _ _ rfl fresh (Prod.ext done rfl)

end Command

end TagCatalog

import TagCatalog.Proofs.Store.Attempts
import TagCatalog.Proofs.Store.Canonical
import TagCatalog.Proofs.Store.Monotonicity
import TagCatalog.Proofs.Store.Obstruction

/-!
# Tags that replace all others

To replace the tags of a file at once comes to the same as to take all of them away and to
put the new ones on it one by one.  Of the tags of one name the last is kept, so the file is
found by the filters that accept the tags in the opposite order.
-/

namespace TagCatalog

namespace Database

open Store

variable {labels : List Label} {database : Database} {file : File}

/-- The labels of a file behind some tags that are put on it one by one. -/
def withTags (labels : List Label) (tags : List Tag) : List Label :=
  tags.foldl (fun labels tag => inNameOrder (without tag.name labels ++ [.ofTag tag])) labels

theorem tagTable_withTags (ascending : Ascending labels)
    (named : ∀ label ∈ labels, label.name ≠ "") (tags : List Tag) :
    Ascending (withTags labels tags) ∧ (∀ label ∈ withTags labels tags, label.name ≠ "") ∧
      tagTable (withTags labels tags) =
        tags.foldl (fun table tag => table.insert tag.name tag) (tagTable labels) := by
  induction tags generalizing labels with
  | nil => exact ⟨ascending, named, rfl⟩
  | cons tag rest inductionHypothesis =>
      have step := inductionHypothesis (ascending.replace tag) (named_replace named tag)
      rw [tagTable_replace named] at step
      exact step

theorem withTags_nil (tags : List Tag) :
    withTags [] tags = (Store.normalized tags).map Label.ofTag := by
  obtain ⟨ascending, named, table⟩ := tagTable_withTags .nil (by simp) tags
  rw [ascending.eq_map_values named, table, Store.normalized, Table.ofList, List.foldl_map]
  rfl

theorem attempts_withTags (database : Database) (id : Uuid) (path : String) (addedAt : Instant)
    (labels : List Label) (tags : List Tag) :
    (database.put id ⟨path, addedAt, labels⟩).Attempts (tags.map fun tag => .updateTag id tag)
      (tags.map fun _ => .ok .done) (database.put id ⟨path, addedAt, withTags labels tags⟩) := by
  induction tags generalizing labels with
  | nil => exact .nil
  | cons tag rest inductionHypothesis =>
      have updated := updateTag_of_get? (get?_put_self database id ⟨path, addedAt, labels⟩) tag
      rw [put_put] at updated
      exact .made rfl updated (inductionHypothesis _)

theorem rival?_eq_none_of_free
    (free : ∀ owner, database.fileAt file.path = .ok owner → owner.id = file.id) :
    database.rival? file = none := by
  cases rival : database.rival? file with
  | none => rfl
  | some owner =>
      obtain ⟨other, owned⟩ := rival?_eq_some_iff.mp rival
      exact absurd (free _ owned) other

/-- Replacing tags at once and one by one come to the same record. -/
theorem exists_replaced (free : database.rival? file = none) (now : Instant) (tags : List Tag) :
    ∃ cleared last record, database.updateFile now file [] = .ok cleared ∧
      database.updateFile now file tags = .ok last ∧
      cleared.Attempts (tags.map fun tag => .updateTag file.id tag) (tags.map fun _ => .ok .done)
        last ∧
      last.records.get? file.id = some record ∧ record.path = file.path ∧
      record.labels = (Store.normalized tags).map Label.ofTag := by
  let addedAt := ((database.records.get? file.id).map Record.addedAt).getD now
  have updated (tags : List Tag) : database.updateFile now file tags = .ok (database.put file.id
      ⟨file.path, addedAt, (Store.normalized tags).map Label.ofTag⟩) := by
    rw [updateFile, free]
  have attempts := database.attempts_withTags file.id file.path addedAt [] tags
  rw [withTags_nil] at attempts
  exact ⟨_, _, _, updated [], updated tags, attempts, get?_put_self _ _ _, rfl, rfl⟩

theorem firstNamed_normalized (tags : List Tag) (name : String) :
    Filter.firstNamed name (Store.normalized tags) = Filter.firstNamed name tags.reverse := by
  rw [Store.normalized, firstNamed_values, Table.get?_ofList, List.filter_map, Filter.firstNamed,
    ← List.head?_filter, List.filter_reverse, List.head?_reverse, List.getLast?_map]
  simp [Function.comp_def]

end Database

namespace Store

variable {State : Type} {store : Store State} {state : State} {database : Database}

/-- Whether a file is found by the filters that accept some tags in the opposite order. -/
def FindsByLast (store : Store State) (state : State) (file : File) (tags : List Tag) : Prop :=
  ∀ filter : Filter, ∃ found, (store.matching filter state).1 = .ok found ∧
    (file ∈ found ↔ filter.accepts tags.reverse = true)

theorem findsByLast_of_reflects (reflects : store.Reflects state database)
    (consistent : database.Consistent) {file : File} {tags : List Tag} {record : Database.Record}
    (present : database.records.get? file.id = some record) (samePath : record.path = file.path)
    (labels : record.labels = (Store.normalized tags).map Database.Label.ofTag) :
    FindsByLast store state file tags := by
  intro filter
  obtain ⟨found, matching, isFound⟩ := consistent.exists_matching filter
  refine ⟨found, (reflects.matching filter).trans matching, ?_⟩
  have accepts : filter.accepts (Database.tagTable record.labels).values =
      filter.accepts tags.reverse := by
    rw [labels, Database.tagTable_normalized]
    exact Filter.accepts_congr (Database.firstNamed_normalized tags) filter
  rw [isFound, ← accepts]
  constructor
  · rintro ⟨other, otherPresent, -, accepted⟩
    obtain rfl := Option.some.inj (present.symm.trans otherPresent)
    exact accepted
  · exact fun accepted => ⟨record, present, samePath, accepted⟩

end Store

/-- The calls that take all tags of a file away and put others on it one by one. -/
def Store.oneByOne (now : Instant) (file : File) (tags : List Tag) :
    List Store.Operation :=
  .updateFile now file [] :: tags.map fun tag => .updateTag file.id tag

def Store.allDone (tags : List Tag) : List (Except Error Store.Answer) :=
  .ok .done :: tags.map fun _ => .ok .done

open Store

theorem Memory.exists_replaced {database : Database} (consistent : database.Consistent)
    {file : File} (free : ∀ owner, (store.fileAt file.path database.toMemory).1 = .ok owner →
      owner.id = file.id) (now : Instant) (tags : List Tag) :
    ∃ after, store.perform (.updateFile now file tags) database.toMemory = (.ok .done, after) ∧
      store.run (oneByOne now file tags) database.toMemory = (allDone tags, after) ∧
      store.FindsByLast after file tags := by
  have noRival : database.rival? file = none := by
    apply Database.rival?_eq_none_of_free
    intro owner owned
    exact free owner ((Store.reflects_memory consistent).fileAt file.path ▸ owned)
  obtain ⟨cleared, last, record, clearing, updated, attempts, present, samePath, labels⟩ :=
    Database.exists_replaced noRival now tags
  have lastConsistent := consistent.updateFile updated
  have once := Memory.perform_toMemory consistent
    (show (Store.Operation.updateFile now file tags).isQuestion = false from rfl)
  simp only [Store.Operation.alter, updated] at once
  have stepwise := Database.Attempts.made
    (show (Store.Operation.updateFile now file []).isQuestion = false from rfl) clearing attempts
  exact ⟨last.toMemory, once, stepwise.run_memory consistent,
    Store.findsByLast_of_reflects (Store.reflects_memory lastConsistent) lastConsistent present
      samePath labels⟩

namespace OnDisk

open Disk

variable {path text : String} {disk after : Disk} {database cleared last : Database}
  {clearing : Store.Operation} {operations : List Store.Operation}
  {outcomes : List (Except Error Store.Answer)} {fault : Fault} {file : File}

/-- What comes of tags that are replaced at once and of tags that are replaced one by one:
the same, unless the disk fails in both cases. -/
structure ReplacesAlike (path : String) (file : File) (tags : List Tag)
    (once : Except Error Store.Answer × Disk)
    (oneByOne : List (Except Error Store.Answer) × Disk) : Prop where
  alike : (store path).Alike once.2 oneByOne.2
  bytes : ∀ content, once.2.readBytes path = .ok content ↔ oneByOne.2.readBytes path = .ok content
  outcomes :
    once.1 = .ok .done ∧ oneByOne.1 = allDone tags ∧
        (∃ content, once.2.readBytes path = .ok content) ∧
        (store path).FindsByLast once.2 file tags ∨
      (∃ fault, once.1 = .error (.disk fault)) ∧ .ok .done ∉ oneByOne.1

/-- A change can be done in steps where it can be done at once. -/
theorem exists_run_of_writeOver (isChange : clearing.isQuestion = false)
    (clears : (load path disk).bind clearing.alter = .ok cleared)
    (consistent : cleared.Consistent)
    (attempts : cleared.Attempts operations outcomes last)
    (written : writeOver path text disk = (.ok (), after)) :
    ∃ stepped, (store path).run (clearing :: operations) disk = (.ok .done :: outcomes, stepped) ∧
      load path stepped = .ok last ∧ Encodes path stepped last := by
  cases writing : writeOver path (Document.encode cleared) disk with
  | mk outcome middle =>
      cases outcome with
      | error =>
          obtain ⟨_, _, failed⟩ := exists_of_writeOver_eq_error writing text
          rw [written] at failed
          cases failed
      | ok =>
          have step := perform_of_writeOver isChange clears writing
          obtain ⟨ready, encodes⟩ := ready_of_writeOver consistent writing
          obtain ⟨stepped, run, steppedReady, stillEncodes, -⟩ := ready.exists_run attempts
          refine ⟨stepped, ?_, steppedReady.loaded, stillEncodes (.inl encodes)⟩
          rw [Store.run_cons, step, run]

/-- A change fails in steps where it fails at once, and nothing else is found at the path. -/
theorem find_run_of_writeOver_of_error (isChange : clearing.isQuestion = false)
    (clears : (load path disk).bind clearing.alter = .ok cleared)
    (failed : writeOver path text disk = (.error fault, after))
    (operations : List Store.Operation) :
    .ok .done ∉ ((store path).run (clearing :: operations) disk).1 ∧ ∀ node,
      ((store path).run (clearing :: operations) disk).2.find path = .ok node ↔
        after.find path = .ok node := by
  obtain ⟨otherFault, middle, stepFailed⟩ :=
    exists_of_writeOver_eq_error failed (Document.encode cleared)
  have step := perform_of_writeOver_of_error isChange clears stepFailed
  have obstructed := obstructed_of_writeOver stepFailed
  rw [Store.run_cons, step]
  constructor
  · exact List.not_mem_cons_of_ne_of_not_mem nofun
      (not_done_of_hindered obstructed.hindered operations)
  · intro node
    rw [obstructed.find_run, find_of_writeOver_of_error stepFailed,
      find_of_writeOver_of_error failed]

theorem rival?_eq_none_of_load (loaded : load path disk = .ok database)
    (free : ∀ owner, ((store path).fileAt file.path disk).1 = .ok owner → owner.id = file.id) :
    database.rival? file = none := by
  apply Database.rival?_eq_none_of_free
  intro owner owned
  exact free owner ((Store.reflects_disk loaded).fileAt file.path ▸ owned)

theorem replacesAlike_of_load (loaded : load path disk = .ok database)
    (free : ∀ owner, ((store path).fileAt file.path disk).1 = .ok owner → owner.id = file.id)
    (now : Instant) (tags : List Tag) :
    ReplacesAlike path file tags ((store path).perform (.updateFile now file tags) disk)
      ((store path).run (oneByOne now file tags) disk) := by
  have consistent := consistent_of_load loaded
  obtain ⟨cleared, last, record, clearing, updated, attempts, present, samePath, labels⟩ :=
    Database.exists_replaced (rival?_eq_none_of_load loaded free) now tags
  have clears : (load path disk).bind (Store.Operation.updateFile now file []).alter =
      .ok cleared := by
    rw [loaded]
    exact clearing
  have updates : (load path disk).bind (Store.Operation.updateFile now file tags).alter =
      .ok last := by
    rw [loaded]
    exact updated
  cases writing : writeOver path (Document.encode last) disk with
  | mk outcome after =>
      cases outcome with
      | ok =>
          have once := perform_of_writeOver rfl updates writing
          have lastConsistent := consistent.updateFile updated
          obtain ⟨ready, encodes⟩ := ready_of_writeOver lastConsistent writing
          obtain ⟨stepped, run, steppedLoaded, steppedEncodes⟩ :=
            exists_run_of_writeOver rfl clears (consistent.updateFile clearing) attempts writing
          rw [once, oneByOne, run]
          refine ⟨alike_of_load (ready.loaded.trans steppedLoaded.symm), ?_,
            .inl ⟨rfl, rfl, ⟨_, encodes⟩, ?_⟩⟩
          · intro content
            rw [encodes, steppedEncodes]
          · exact Store.findsByLast_of_reflects (Store.reflects_disk ready.loaded) lastConsistent
              present samePath labels
      | error fault =>
          have once := perform_of_writeOver_of_error rfl updates writing
          obtain ⟨notDone, found⟩ := find_run_of_writeOver_of_error rfl clears writing _
          rw [once]
          refine ⟨?_, ?_, .inr ⟨⟨fault, rfl⟩, notDone⟩⟩
          · exact alike_of_load (load_eq_of_find fun node => (found node).symm)
          · intro content
            rw [readBytes_eq_ok_iff, readBytes_eq_ok_iff]
            exact (found _).symm

end OnDisk

/-- To replace the tags of a file at once comes to the same as to do so one by one, and then
the file is found by the filters that accept the tags in the opposite order. -/
theorem replacesAlike_of_free :
    (∀ operations now (file : File) tags,
      let memory := (Memory.store.run operations .empty).2
      (∀ owner, (Memory.store.fileAt file.path memory).1 = .ok owner → owner.id = file.id) →
      ∃ after, Memory.store.perform (.updateFile now file tags) memory = (.ok .done, after) ∧
        Memory.store.run (oneByOne now file tags) memory = (allDone tags, after) ∧
        Memory.store.FindsByLast after file tags) ∧
    ∀ path disk database now (file : File) tags, OnDisk.load path disk = .ok database →
      (∀ owner, ((OnDisk.store path).fileAt file.path disk).1 = .ok owner → owner.id = file.id) →
      let once := (OnDisk.store path).perform (.updateFile now file tags) disk
      OnDisk.ReplacesAlike path file tags once
          ((OnDisk.store path).run (oneByOne now file tags) disk) ∧
        (OnDisk.Settled path disk → once.1 = .ok .done) := by
  constructor
  · intro operations now file tags memory free
    obtain ⟨database, consistent, stands⟩ := Memory.exists_of_run operations
    have isMemory : memory = database.toMemory := stands
    rw [isMemory] at free ⊢
    exact Memory.exists_replaced consistent free now tags
  · intro path disk database now file tags loaded free once
    refine ⟨OnDisk.replacesAlike_of_load loaded free now tags, fun settled => ?_⟩
    have noRival := OnDisk.rival?_eq_none_of_load loaded free
    obtain ⟨_, last, _, -, updated, -⟩ := Database.exists_replaced noRival now tags
    have altering : (Store.Operation.updateFile now file tags).alter database = .ok last := updated
    have ready : OnDisk.Ready path database disk := ⟨loaded, settled⟩
    obtain ⟨_, done, -⟩ := ready.exists_perform rfl altering
    exact congrArg Prod.fst done

/-- With a tag that comes twice, in an empty memory and in a document that is out of order. -/
theorem replacesAlike_handwritten :
    let file : File := ⟨OnDisk.handwrittenId, "a"⟩
    let tags : List Tag := [⟨"b", some 1, by decide⟩, ⟨"a", none, by decide⟩,
      ⟨"b", some 2, by decide⟩]
    let store := OnDisk.store "db.json"
    let once := store.perform (.updateFile Instant.epoch file tags) OnDisk.handwrittenDisk
    (∃ after,
      Memory.store.perform (.updateFile Instant.epoch file tags) .empty = (.ok .done, after) ∧
      Memory.store.run (oneByOne Instant.epoch file tags) .empty = (allDone tags, after) ∧
      Memory.store.FindsByLast after file tags) ∧
    OnDisk.load "db.json" OnDisk.handwrittenDisk = .ok OnDisk.handwritten ∧
      (store.fileAt file.path OnDisk.handwrittenDisk).1 = .ok file ∧
      OnDisk.Settled "db.json" OnDisk.handwrittenDisk ∧
      OnDisk.ReplacesAlike "db.json" file tags once
        (store.run (oneByOne Instant.epoch file tags) OnDisk.handwrittenDisk) ∧
      once.1 = .ok .done := by
  intro file tags store once
  have loaded := OnDisk.load_handwritten
  have settled := OnDisk.settled_handwritten
  have own : (store.fileAt file.path OnDisk.handwrittenDisk).1 = .ok file :=
    ((Store.reflects_disk loaded).fileAt _).trans (OnDisk.eq_ok_of_toOption (by decide +kernel))
  have free : ∀ owner, (store.fileAt file.path OnDisk.handwrittenDisk).1 = .ok owner →
      owner.id = file.id := by
    intro owner owned
    rw [own] at owned
    cases owned
    rfl
  obtain ⟨alike, done⟩ := replacesAlike_of_free.2 _ _ _ Instant.epoch file tags loaded free
  refine ⟨replacesAlike_of_free.1 [] Instant.epoch file tags ?_, loaded, own, settled, alike,
    done settled⟩
  nofun

end TagCatalog

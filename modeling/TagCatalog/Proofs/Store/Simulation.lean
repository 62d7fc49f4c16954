import TagCatalog.Instant
import TagCatalog.Proofs.Store.Saving

/-!
# Stores on a disk as stores in memory

A store on a disk simulates the store of the memory that its database stands
for: call by call, both give the same answer or the same error, as long as the
disk itself does not fail.  A settled disk does not.
-/

namespace TagCatalog.OnDisk

open Disk

variable {path text : String} {disk altered : Disk} {database : Database} {memory : Memory}

/-- Whether a document is loaded as a database that stands for a memory. -/
def Simulates (path : String) (disk : Disk) (memory : Memory) : Prop :=
  ∃ database, load path disk = .ok database ∧ database.toMemory = memory

/-- Whether two stores give the same and a document stands for a memory behind
that. -/
def Agrees {Result : Type} (path : String) (onDisk : Result × Disk)
    (inMemory : Result × Memory) : Prop :=
  onDisk.1 = inMemory.1 ∧ Simulates path onDisk.2 inMemory.2

section Calls

variable {Result : Type}

theorem Simulates.query {ask : Database → Except Error Result}
    {answer : Except Error Result × Memory} (simulates : Simulates path disk memory)
    (same : ∀ database : Database, database.Consistent → database.toMemory = memory →
      answer = (ask database, memory)) :
    Agrees path (query path ask disk) answer := by
  obtain ⟨database, loaded, stands⟩ := simulates
  rw [same database (consistent_of_load loaded) stands]
  refine ⟨?_, database, loaded, stands⟩
  rw [OnDisk.query, Store.query, loaded]
  rfl

theorem Simulates.change {alter : Database → Except Error Database}
    {alterMemory : Memory → Except Error Memory} (simulates : Simulates path disk memory)
    (same : ∀ database : Database, database.Consistent →
      alterMemory database.toMemory = (alter database).map Database.toMemory)
    (keeps : ∀ database altered : Database, database.Consistent →
      alter database = .ok altered → altered.Consistent)
    (undisturbed : Settled path disk ∨
      ∀ fault, (change path alter disk).1 ≠ .error (.disk fault)) :
    Agrees path (change path alter disk) (Store.change alterMemory memory) := by
  obtain ⟨database, loaded, rfl⟩ := simulates
  have consistent := consistent_of_load loaded
  have sameChange := same database consistent
  unfold change at undisturbed ⊢
  unfold Store.change
  rw [sameChange]
  rw [loaded, Except.bind] at undisturbed ⊢
  cases altering : alter database with
  | error error => exact ⟨rfl, database, loaded, rfl⟩
  | ok altered =>
      rw [altering] at undisturbed
      -- Memory takes the change at once, the disk when it has saved all of it.
      obtain ⟨next, saved⟩ := exists_save_eq altered undisturbed
      have reloaded := load_of_save (keeps database altered consistent altering) saved
      simp only [saved]
      exact ⟨rfl, altered, reloaded, rfl⟩

theorem Agrees.map {Other : Type} {onDisk : Action Disk Result} {inMemory : Action Memory Result}
    (agrees : Agrees path (onDisk disk) (inMemory memory)) (wrap : Result → Other) :
    Agrees path ((wrap <$> onDisk) disk) ((wrap <$> inMemory) memory) := by
  rw [Action.map_eq, Action.map_eq]
  exact ⟨congrArg (Except.map wrap) agrees.1, agrees.2⟩

theorem undisturbed_of_map {Other : Type} {onDisk : Action Disk Result} {wrap : Result → Other}
    (undisturbed : Settled path disk ∨
      ∀ fault, ((wrap <$> onDisk) disk).1 ≠ .error (.disk fault)) :
    Settled path disk ∨ ∀ fault, (onDisk disk).1 ≠ .error (.disk fault) := by
  refine undisturbed.imp_right fun noFault fault disturbed => noFault fault ?_
  rw [Action.map_eq, disturbed]
  rfl

end Calls

/-- One call: a document that stands for a memory gives what the memory gives. -/
theorem Simulates.perform (simulates : Simulates path disk memory) (operation : Store.Operation)
    (undisturbed : Settled path disk ∨
      ∀ fault, ((store path).perform operation disk).1 ≠ .error (.disk fault)) :
    Agrees path ((store path).perform operation disk) (Memory.store.perform operation memory) := by
  cases operation with
  | file id =>
      refine Agrees.map (simulates.query ?_) _
      rintro database - rfl
      exact congrArg (·, _) (Database.file_toMemory database id)
  | fileAt place =>
      refine Agrees.map (simulates.query ?_) _
      rintro database - rfl
      exact congrArg (·, _) (Database.fileAt_toMemory database place)
  | allFiles =>
      refine Agrees.map (simulates.query ?_) _
      rintro database - rfl
      exact Database.memory_allFiles_eq database
  | tags file =>
      refine Agrees.map (simulates.query ?_) _
      rintro database consistent rfl
      exact congrArg (·, _) (consistent.tags_toMemory file.id)
  | addedAt id =>
      refine Agrees.map (simulates.query ?_) _
      rintro database - rfl
      exact congrArg (fun time => (Except.map some time, _)) (Database.addedAt_toMemory database id)
  | listing =>
      refine Agrees.map (simulates.query ?_) _
      rintro database - rfl
      exact Database.memory_listing_eq database
  | matching filter =>
      refine Agrees.map (simulates.query ?_) _
      rintro database consistent rfl
      exact consistent.memory_matching_eq filter
  | updateTag id tag =>
      refine Agrees.map (simulates.change ?_ ?_ (undisturbed_of_map undisturbed)) _
      · exact fun _ consistent => consistent.updateTag_toMemory id tag
      · exact fun _ _ consistent => consistent.updateTag
  | removeTag id name =>
      refine Agrees.map (simulates.change ?_ ?_ (undisturbed_of_map undisturbed)) _
      · exact fun _ consistent => consistent.removeTag_toMemory id name
      · exact fun _ _ consistent => consistent.removeTag
  | updateFile now file tags =>
      refine Agrees.map (simulates.change ?_ ?_ (undisturbed_of_map undisturbed)) _
      · exact fun database _ => Database.updateFile_toMemory database now file tags
      · exact fun _ _ consistent => consistent.updateFile
  | removeFile id =>
      refine Agrees.map (simulates.change ?_ ?_ (undisturbed_of_map undisturbed)) _
      · exact fun database _ => Database.removeFile_toMemory database id
      · exact fun _ _ consistent => consistent.removeFile

/-- Whether the disk does not fail in some calls: it is settled, or at least none
of the calls gives one of its faults. -/
def Undisturbed (path : String) (operations : List Store.Operation) (disk : Disk) : Prop :=
  Settled path disk ∨ ∀ fault, .error (.disk fault) ∉ ((store path).run operations disk).1

theorem Undisturbed.first {operation : Store.Operation} {rest : List Store.Operation}
    (undisturbed : Undisturbed path (operation :: rest) disk) :
    Settled path disk ∨
      ∀ fault, ((store path).perform operation disk).1 ≠ .error (.disk fault) := by
  refine undisturbed.imp_right fun noFault fault disturbed => noFault fault ?_
  rw [Store.run_cons, disturbed]
  exact List.mem_cons_self

theorem Undisturbed.others {operation : Store.Operation} {rest : List Store.Operation}
    (undisturbed : Undisturbed path (operation :: rest) disk) :
    Undisturbed path rest ((store path).perform operation disk).2 :=
  undisturbed.imp (fun settled => settled.perform operation)
    fun noFault fault disturbed => noFault fault (List.mem_cons_of_mem _ disturbed)

theorem Simulates.run (simulates : Simulates path disk memory)
    {operations : List Store.Operation} (undisturbed : Undisturbed path operations disk) :
    Agrees path ((store path).run operations disk) (Memory.store.run operations memory) := by
  induction operations generalizing disk memory with
  | nil => exact ⟨rfl, simulates⟩
  | cons operation rest inductionHypothesis =>
      obtain ⟨answer, next⟩ := simulates.perform operation undisturbed.first
      obtain ⟨answers, last⟩ := inductionHypothesis next undisturbed.others
      rw [Store.run_cons, Store.run_cons, answer, answers]
      exact ⟨rfl, last⟩

/-- From a document that is loaded, a store on a disk gives the same answers and
the same errors to any calls as the store of the memory that holds the same
files with the same times and, of the labels of each name, the last. -/
theorem answers_eq_memory_answers (loaded : load path disk = .ok database)
    {operations : List Store.Operation} (undisturbed : Undisturbed path operations disk) :
    ((store path).run operations disk).1 =
      (Memory.store.run operations database.toMemory).1 := by
  have simulates : Simulates path disk database.toMemory := ⟨database, loaded, rfl⟩
  exact (simulates.run undisturbed).1

section Handwritten

instance : DecidableEq Database
  | ⟨first⟩, ⟨second⟩ => decidable_of_iff (first = second) (by simp)

/-- Outcomes are compared without their errors. -/
theorem eq_ok_of_toOption {Failure Result : Type} {outcome : Except Failure Result}
    {result : Result} (found : outcome.toOption = some result) : outcome = .ok result := by
  cases outcome with
  | error => cases found
  | ok => exact congrArg Except.ok (Option.some.inj found)

/-- A document with an unknown member, a time that is not in UTC, and labels that
are out of order and repeat a name. -/
def handwrittenText : String :=
  "\x7b\"files\":\x7b\"00000000000000000000000000000001\":\x7b\"path\":\"a\"," ++
  "\"added_at\":\"1970-01-01T01:00:00+01:00\",\"note\":0,\"tags\":[" ++
  "\x7b\"name\":\"y\"\x7d,\x7b\"name\":\"x\",\"value\":1\x7d,\x7b\"name\":\"x\"\x7d]\x7d\x7d\x7d"

def handwrittenId : Uuid := ⟨1, by decide⟩

def handwritten : Database :=
  ⟨Table.ofList [(handwrittenId,
    ⟨"a", Instant.epoch, [⟨"y", none⟩, ⟨"x", some 1⟩, ⟨"x", none⟩]⟩)]⟩

def handwrittenDisk : Disk :=
  ⟨[], Table.ofList [(["db.json"], .file handwrittenText.toUTF8)]⟩

def handwrittenCalls : List Store.Operation :=
  [.tags ⟨handwrittenId, "a"⟩, .updateTag handwrittenId ⟨"z", none, by decide⟩,
    .removeTag handwrittenId "x", .tags ⟨handwrittenId, "a"⟩, .removeTag handwrittenId "x"]

theorem load_handwritten : load "db.json" handwrittenDisk = .ok handwritten := by
  have read : handwrittenDisk.readBytes "db.json" = .ok handwrittenText.toUTF8 := rfl
  rw [load_of_readBytes read]
  exact eq_ok_of_toOption (by decide +kernel)

theorem settled_handwritten : Settled "db.json" handwrittenDisk := by
  have parent : Path.parent? "db.json" = some "" := by decide +kernel
  refine ⟨?_, ⟨["db.json.tmp"], rfl, nofun⟩, ⟨["db.json"], rfl, nofun⟩⟩
  intro other hasParent
  rw [parent] at hasParent
  cases hasParent
  exact .inl rfl

theorem answers_handwritten :
    load "db.json" handwrittenDisk = .ok handwritten ∧
      Undisturbed "db.json" handwrittenCalls handwrittenDisk ∧
      ((store "db.json").run handwrittenCalls handwrittenDisk).1 =
        [.ok (.tags [⟨"x", none, by decide⟩, ⟨"y", none, by decide⟩]), .ok .done, .ok .done,
          .ok (.tags [⟨"y", none, by decide⟩, ⟨"z", none, by decide⟩]),
          .error (.unknownTag "x")] := by
  have undisturbed : Undisturbed "db.json" handwrittenCalls handwrittenDisk :=
    .inl settled_handwritten
  refine ⟨load_handwritten, undisturbed, ?_⟩
  exact (answers_eq_memory_answers load_handwritten undisturbed).trans rfl

end Handwritten

end TagCatalog.OnDisk

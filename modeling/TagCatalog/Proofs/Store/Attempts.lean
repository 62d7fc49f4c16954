import TagCatalog.Proofs.Store.Hindrance

/-!
# Changes one after the other

Some changes of a database are made and others are refused.  A memory that stands for the
database, and a disk that is ready for its document, give the same outcomes and come to the
database that is left; once a change is done, the document has the bytes of that database.
-/

namespace TagCatalog

namespace Database

open Store

variable {database altered last : Database} {operation : Operation}
  {rest operations : List Operation}
  {outcomes : List (Except Error Answer)} {error : Error}

/-- What comes of changes of a database one after the other: the outcomes, and the database
that is left. -/
inductive Attempts : Database → List Operation → List (Except Error Answer) → Database → Prop where
  | nil {database : Database} : Attempts database [] [] database
  | made {database altered last : Database} {operation : Operation} {rest : List Operation}
      {outcomes : List (Except Error Answer)} : operation.isQuestion = false →
      operation.alter database = .ok altered → Attempts altered rest outcomes last →
      Attempts database (operation :: rest) (.ok .done :: outcomes) last
  | refused {database last : Database} {operation : Operation} {rest : List Operation}
      {outcomes : List (Except Error Answer)} {error : Error} : operation.isQuestion = false →
      operation.alter database = .error error → Attempts database rest outcomes last →
      Attempts database (operation :: rest) (.error error :: outcomes) last

theorem Attempts.run_memory (attempts : Attempts database operations outcomes last)
    (consistent : database.Consistent) :
    Memory.store.run operations database.toMemory = (outcomes, last.toMemory) := by
  induction attempts with
  | nil => rfl
  | made isChange altering _ inductionHypothesis =>
      have step := Memory.perform_toMemory consistent isChange
      rw [altering] at step
      rw [Store.run_cons, step, inductionHypothesis (consistent.alter altering)]
  | refused isChange refusing _ inductionHypothesis =>
      have step := Memory.perform_toMemory consistent isChange
      rw [refusing] at step
      rw [Store.run_cons, step, inductionHypothesis consistent]

end Database

namespace OnDisk

open Disk

variable {path : String} {disk after : Disk} {database altered last : Database}
  {operation : Store.Operation} {operations : List Store.Operation}
  {outcomes : List (Except Error Store.Answer)} {error : Error} {fault : Fault}

section Steps

theorem perform_of_refusing (isChange : operation.isQuestion = false)
    (refusing : (load path disk).bind operation.alter = .error error) :
    (store path).perform operation disk = (.error error, disk) := by
  rw [perform_eq_change isChange, Action.map_eq, change, refusing]
  rfl

theorem perform_of_writeOver (isChange : operation.isQuestion = false)
    (altering : (load path disk).bind operation.alter = .ok altered)
    (written : writeOver path (Document.encode altered) disk = (.ok (), after)) :
    (store path).perform operation disk = (.ok .done, after) := by
  rw [perform_eq_change isChange, Action.map_eq, change, altering]
  simp only [save_of_writeOver written]
  rfl

theorem perform_of_writeOver_of_error (isChange : operation.isQuestion = false)
    (altering : (load path disk).bind operation.alter = .ok altered)
    (failed : writeOver path (Document.encode altered) disk = (.error fault, after)) :
    (store path).perform operation disk = (.error (.disk fault), after) := by
  rw [perform_eq_change isChange, Action.map_eq, change, altering]
  simp only [save_of_writeOver_of_error failed]
  rfl

end Steps

/-- Whether a document is loaded as a database, and can be written over. -/
structure Ready (path : String) (database : Database) (disk : Disk) : Prop where
  loaded : load path disk = .ok database
  settled : Settled path disk

/-- Whether a document has the bytes of a database. -/
def Encodes (path : String) (disk : Disk) (database : Database) : Prop :=
  disk.readBytes path = .ok (Document.encode database).toUTF8

theorem ready_of_writeOver (consistent : database.Consistent)
    (written : writeOver path (Document.encode database) disk = (.ok (), after)) :
    Ready path database after ∧ Encodes path after database :=
  ⟨⟨load_of_save consistent (save_of_writeOver written), settled_of_writeOver written⟩,
    readBytes_of_writeOver written⟩

theorem Ready.exists_perform (ready : Ready path database disk)
    (isChange : operation.isQuestion = false) (altering : operation.alter database = .ok altered) :
    ∃ after, (store path).perform operation disk = (.ok .done, after) ∧
      Ready path altered after ∧ Encodes path after altered := by
  obtain ⟨after, written, -⟩ := ready.settled.writeOver (Document.encode altered)
  have consistent := (consistent_of_load ready.loaded).alter altering
  refine ⟨after, perform_of_writeOver isChange ?_ written, ready_of_writeOver consistent written⟩
  rw [ready.loaded]
  exact altering

theorem Ready.perform_of_refusing (ready : Ready path database disk)
    (isChange : operation.isQuestion = false)
    (refusing : operation.alter database = .error error) :
    (store path).perform operation disk = (.error error, disk) := by
  apply OnDisk.perform_of_refusing isChange
  rw [ready.loaded]
  exact refusing

theorem Ready.exists_run (ready : Ready path database disk)
    (attempts : database.Attempts operations outcomes last) :
    ∃ after, (store path).run operations disk = (outcomes, after) ∧ Ready path last after ∧
      (Encodes path disk database ∨ .ok .done ∈ outcomes → Encodes path after last) ∧
      (.ok .done ∉ outcomes → after = disk) := by
  induction attempts generalizing disk with
  | nil =>
      exact ⟨disk, rfl, ready, fun encodes => encodes.resolve_right List.not_mem_nil, fun _ => rfl⟩
  | made isChange altering _ inductionHypothesis =>
      obtain ⟨middle, step, middleReady, encodes⟩ := ready.exists_perform isChange altering
      obtain ⟨after, run, afterReady, stillEncodes, -⟩ := inductionHypothesis middleReady
      refine ⟨after, ?_, afterReady, fun _ => stillEncodes (.inl encodes), fun notDone => ?_⟩
      · rw [Store.run_cons, step, run]
      · exact absurd List.mem_cons_self notDone
  | refused isChange refusing _ inductionHypothesis =>
      have step := ready.perform_of_refusing isChange refusing
      obtain ⟨after, run, afterReady, encodes, same⟩ := inductionHypothesis ready
      refine ⟨after, ?_, afterReady, fun before => encodes (before.imp_right fun done => ?_), ?_⟩
      · rw [Store.run_cons, step, run]
      · exact (List.mem_cons.mp done).resolve_left nofun
      · exact fun notDone => same fun later => notDone (List.mem_cons_of_mem _ later)

end OnDisk

end TagCatalog

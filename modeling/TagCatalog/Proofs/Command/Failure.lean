import TagCatalog.Instant
import TagCatalog.Proofs.Command.Call
import TagCatalog.Proofs.Store.Failure

/-!
# What failed commands leave behind

A failed command leaves a store as a failed operation does: a memory as it was, and
a disk as it was but for the draft of the document and new directories on the way to
it.  Every question is answered as before, provided that the path of the document is
anchored.  Where it is not, to make directories may bring it to lead to something.
-/

namespace TagCatalog.Command

open Store

variable {State : Type} {store : Store State} {first second : State}

theorem resolveText_congr (alike : store.Alike first second)
    (selector : String) :
    (resolveText store selector first).1 = (resolveText store selector second).1 := by
  apply Action.fst_bind_congr (silent_ofExcept _)
  · rfl
  · intro selector
    cases selector with
    | id id => exact alike.file id
    | path path => exact alike.fileAt path

theorem find_congr (asks : store.AsksSilently) (alike : store.Alike first second) (text : String) :
    (find store text first).1 = (find store text second).1 := by
  apply Action.fst_bind_congr (silent_ofExcept _)
  · rfl
  · intro filter
    apply Action.fst_bind_congr (asks.silent_announce _)
    · rw [asks.announce, asks.announce]
    · exact fun _ => alike.matching filter

/-- Commands that only ask give the same on states that answer alike. -/
theorem Call.perform_congr (asks : store.AsksSilently) (alike : store.Alike first second)
    {call : Call} (question : call.isQuestion = true) :
    (call.perform store first).1 = (call.perform store second).1 := by
  cases call with
  | tags selector =>
      rw [Call.perform, Action.map_eq, Action.map_eq]
      apply congrArg (Except.map Reply.report)
      have resolved := resolveText_congr alike selector
      apply Action.fst_bind_congr (silent_resolveText asks selector) resolved
      intro file
      exact Action.fst_bind_congr (asks.tags file) (alike.tags file) fun _ => rfl
  | files =>
      rw [Call.perform, Action.map_eq, Action.map_eq]
      apply congrArg (Except.map Reply.report)
      exact Action.fst_bind_congr asks.listing alike.listing fun _ => rfl
  | matchWords words strict =>
      rw [Call.perform, Action.map_eq, Action.map_eq]
      apply congrArg (Except.map Reply.report)
      apply Action.fst_bind_congr (silent_find asks _) (find_congr asks alike _)
      intro found
      split <;> rfl
  | find text =>
      rw [Call.perform, Action.map_eq, Action.map_eq]
      exact congrArg (Except.map Reply.files) (find_congr asks alike text)
  | add | remove | move | set | unset => cases question

/-- A failed call is a failed operation, if it has done anything. -/
theorem Call.eq_or_exists_operation (asks : store.AsksSilently) {call : Call} {error : Error}
    {state after : State} (failed : call.perform store state = (.error error, after)) :
    after = state ∨ ∃ operation, store.perform operation state = (.error error, after) := by
  rcases call.eq_or_exists_licensed asks state with same | ⟨operation, -, performed, fails⟩
  · rw [failed] at same
    exact .inl same
  · rw [failed] at performed fails
    exact .inr ⟨operation, Prod.ext (fails error rfl) performed.symm⟩

/-- A failed operation and a failed command leave a memory as it was, and a disk as
it was but for the draft of the document and new directories on the way to it.  If
the path of the document is anchored, it leads to what it has led to, and every
question gets the answer that it would have got before. -/
theorem spared_of_failure :
    (∀ (path : String) (disk altered : Disk) (operation : Operation) (error : Error),
      (OnDisk.store path).perform operation disk = (.error error, altered) →
      OnDisk.Spared path disk altered) ∧
    (∀ (path : String) (disk altered : Disk) (call : Call) (error : Error),
      call.perform (OnDisk.store path) disk = (.error error, altered) →
      OnDisk.Spared path disk altered) ∧
    (∀ (path : String) (disk altered : Disk),
      OnDisk.Spared path disk altered → Disk.Anchored path disk →
      (∀ operations : List Operation, (∀ operation ∈ operations, operation.isQuestion = true) →
        ((OnDisk.store path).run operations altered).1 =
          ((OnDisk.store path).run operations disk).1) ∧
      ∀ call : Call, call.isQuestion = true →
        call.perform (OnDisk.store path) altered =
          ((call.perform (OnDisk.store path) disk).1, altered)) ∧
    (∀ (memory after : Memory) (operation : Operation) (error : Error),
      Memory.store.perform operation memory = (.error error, after) → after = memory) ∧
    ∀ (memory after : Memory) (call : Call) (error : Error),
      call.perform Memory.store memory = (.error error, after) → after = memory := by
  refine ⟨?_, ?_, ?_, ?_, ?_⟩
  · intro path disk altered operation error failed
    exact OnDisk.spared_of_perform failed
  · intro path disk altered call error failed
    rcases call.eq_or_exists_operation (OnDisk.asksSilently path) failed with rfl | ⟨_, failed⟩
    · exact .refl path _
    · exact OnDisk.spared_of_perform failed
  · intro path disk altered spared anchored
    have asks := OnDisk.asksSilently path
    have alike := spared.alike anchored
    constructor
    · exact fun operations questions => alike.run asks questions
    · intro call question
      rw [(call.silent_of_isQuestion asks question).eq altered,
        call.perform_congr asks alike question]
  · intro memory after operation error failed
    exact Memory.eq_of_perform failed
  · intro memory after call error failed
    rcases call.eq_or_exists_operation Memory.asksSilently failed with same | ⟨_, failed⟩
    · exact same
    · exact Memory.eq_of_perform failed

/-- A document and a directory where its draft would be written. -/
def blockedDisk : Disk :=
  ⟨[], Table.ofList [(["db.json"], .file "\x7b\x7d".toUTF8), (["db.json.tmp"], .directory)]⟩

/-- A draft that cannot be written, and one that cannot take its place, because a path
that ends in a slash is that of no file.  The directory of that one has been made. -/
theorem spared_of_blocked :
    let add := Call.add Instant.epoch ⟨1, by decide⟩ "p"
    let blocked := (add.perform (OnDisk.store "db.json") blockedDisk).2
    let empty : Disk := ⟨[], Table.empty⟩
    let drafted := (add.perform (OnDisk.store "d/db.json/") empty).2
    ((add.perform (OnDisk.store "db.json") blockedDisk).1 = .error (.disk .isDirectory) ∧
      OnDisk.Spared "db.json" blockedDisk blocked ∧ Disk.Anchored "db.json" blockedDisk) ∧
    ((add.perform (OnDisk.store "d/db.json/") empty).1 = .error (.disk .notFound) ∧
      drafted.find "d" = .ok .directory ∧ drafted.contains "d/db.json.tmp" = true ∧
      OnDisk.Spared "d/db.json/" empty drafted ∧ Disk.Anchored "d/db.json/" empty) ∧
    Call.files.perform (OnDisk.store "d/db.json/") drafted = (.ok (.report {}), drafted) ∧
    ((Call.remove "p").perform Memory.store .empty).2 = .empty := by
  intro add blocked empty drafted
  have blockedFails : (add.perform (OnDisk.store "db.json") blockedDisk).1 =
      .error (.disk .isDirectory) := by decide +kernel
  have draftFails : (add.perform (OnDisk.store "d/db.json/") empty).1 =
      .error (.disk .notFound) := by decide +kernel
  have removeFails : ((Call.remove "p").perform Memory.store .empty).1 =
      .error (.unknownPath "p") := by decide +kernel
  have spared := spared_of_failure.2.1 _ _ _ _ _ (Prod.ext draftFails rfl)
  have anchored : Disk.Anchored "d/db.json/" empty :=
    Disk.rooted_empty.anchored (by decide +kernel)
  have listed := (spared_of_failure.2.2.1 _ _ _ spared anchored).2 .files rfl
  have before : (Call.files.perform (OnDisk.store "d/db.json/") empty).1 = .ok (.report {}) := by
    decide +kernel
  have located : blockedDisk.locate "db.json" = .ok ["db.json"] := by decide +kernel
  refine ⟨⟨blockedFails, ?_, Disk.anchored_of_locate located⟩,
    ⟨draftFails, by decide +kernel, by decide +kernel, spared, anchored⟩, ?_, ?_⟩
  · exact spared_of_failure.2.1 _ _ _ _ _ (Prod.ext blockedFails rfl)
  · rwa [before] at listed
  · exact spared_of_failure.2.2.2.2 _ _ _ _ (Prod.ext removeFails rfl)

/-- A path through `..` behind a missing directory, which is that directory: when the
directory has been made, the path leads to it, and nothing can be read any more. -/
theorem find_behind_missing :
    let disk : Disk := ⟨[], Table.empty⟩
    let add := Call.add Instant.epoch ⟨1, by decide⟩ "p"
    let after := (add.perform (OnDisk.store "x/../x") disk).2
    (add.perform (OnDisk.store "x/../x") disk).1 = .error (.disk .isDirectory) ∧
      disk.find "x/../x" = .error .notFound ∧ after.find "x/../x" = .ok .directory ∧
      (Call.files.perform (OnDisk.store "x/../x") disk).1 = .ok (.report {}) ∧
      (Call.files.perform (OnDisk.store "x/../x") after).1 = .error (.disk .isDirectory) := by
  decide +kernel

end TagCatalog.Command

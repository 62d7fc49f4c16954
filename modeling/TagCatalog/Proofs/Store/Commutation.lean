import TagCatalog.Proofs.Store.Attempts
import TagCatalog.Proofs.Store.Canonical
import TagCatalog.Proofs.Store.Convergence
import TagCatalog.Proofs.Store.Obstruction
import TagCatalog.Proofs.Store.Order

/-!
# Tag changes that commute

Two changes of tags that differ in the file or in the name of the tag give the same
outcomes in either order and lead to the same store.  Labels may be out of order and repeat
names: sorting keeps the labels of each name in their order, and a change leaves those of
all other names alone.
-/

namespace TagCatalog

namespace Database

open Store

section Sorting

variable {label : Label} {labels others : List Label}

def Ordered (labels : List Label) : Prop :=
  labels.Pairwise fun first second => first.name ≤ second.name

/-- Whether labels are the same, and in the same order, within each name. -/
def SameWithin (labels others : List Label) : Prop :=
  ∀ name, (labels.filter fun label => label.name = name) =
    others.filter fun label => label.name = name

theorem ordered_inNameOrder (labels : List Label) : Ordered (inNameOrder labels) :=
  (List.pairwise_mergeSort comesBefore_trans comesBefore_total labels).imp of_decide_eq_true

theorem Ordered.without (ordered : Ordered labels) (name : String) :
    Ordered (without name labels) :=
  ordered.filter _

theorem Ordered.head_le {first : Label} (ordered : Ordered (first :: labels))
    (membership : label ∈ first :: labels) : first.name ≤ label.name := by
  rcases List.mem_cons.mp membership with rfl | later
  · exact String.le_refl _
  · exact (List.pairwise_cons.mp ordered).1 label later

theorem SameWithin.mem (same : SameWithin labels others) (membership : label ∈ labels) :
    label ∈ others := by
  have inName : label ∈ labels.filter fun other => other.name = label.name :=
    List.mem_filter.mpr ⟨membership, decide_eq_true rfl⟩
  rw [same] at inName
  exact (List.mem_filter.mp inName).1

theorem SameWithin.tail {first : Label} (same : SameWithin (first :: labels) (first :: others)) :
    SameWithin labels others := by
  intro name
  have both := same name
  rw [List.filter_cons, List.filter_cons] at both
  split at both
  next => exact (List.cons.inj both).2
  next => exact both

/-- Labels in the order of their names are determined by those of each name. -/
theorem Ordered.eq_of_sameWithin (ordered : Ordered labels) (othersOrdered : Ordered others)
    (same : SameWithin labels others) : labels = others := by
  have sameBack : SameWithin others labels := fun name => (same name).symm
  induction labels generalizing others with
  | nil => exact (List.eq_nil_iff_forall_not_mem.mpr fun label membership =>
      List.not_mem_nil (sameBack.mem membership)).symm
  | cons first rest inductionHypothesis =>
      cases others with
      | nil => exact absurd (same.mem List.mem_cons_self) List.not_mem_nil
      | cons other othersRest =>
          have sameName : first.name = other.name := String.le_antisymm
            (ordered.head_le (sameBack.mem List.mem_cons_self))
            (othersOrdered.head_le (same.mem List.mem_cons_self))
          have heads := same first.name
          rw [List.filter_cons_of_pos (by simp),
            List.filter_cons_of_pos (by simp [sameName])] at heads
          obtain rfl := (List.cons.inj heads).1
          have rests := inductionHypothesis (List.pairwise_cons.mp ordered).2
            (List.pairwise_cons.mp othersOrdered).2 same.tail sameBack.tail
          rw [rests]

end Sorting

/-- A change of the tag of one name. -/
inductive Relabeling where
  | put (tag : Tag)
  | take (name : String)

namespace Relabeling

variable {labels : List Label} {change other : Relabeling}

def name : Relabeling → String
  | put tag => tag.name
  | take name => name

def left : Relabeling → List Label
  | put tag => [.ofTag tag]
  | take _ => []

def applies : Relabeling → List Label → Bool
  | put _, _ => true
  | take name, labels => labels.any fun label => label.name = name

def apply : Relabeling → List Label → List Label
  | put tag, labels => inNameOrder (without tag.name labels ++ [.ofTag tag])
  | take name, labels => without name labels

def operation (id : Uuid) : Relabeling → Operation
  | put tag => .updateTag id tag
  | take name => .removeTag id name

theorem filter_apply (change : Relabeling) (labels : List Label) (sought : String) :
    ((change.apply labels).filter fun label => label.name = sought) =
      if sought = change.name then change.left
      else labels.filter fun label => label.name = sought := by
  cases change with
  | put tag =>
      rw [apply, filter_inNameOrder, List.filter_append, name]
      split
      next same =>
        subst same
        rw [filter_without_self]
        simp [left, Label.ofTag]
      next differs =>
        rw [filter_without_of_ne labels differs]
        simp [Label.ofTag, Ne.symm differs]
  | take taken =>
      rw [apply, name]
      split
      next same =>
        subst same
        exact filter_without_self labels _
      next differs => exact filter_without_of_ne labels differs

theorem applies_apply (differs : other.name ≠ change.name) (labels : List Label) :
    other.applies (change.apply labels) = other.applies labels := by
  cases other with
  | put => rfl
  | take taken =>
      have same := change.filter_apply labels taken
      rw [if_neg (show taken ≠ change.name from differs)] at same
      have any_iff (labels : List Label) : (labels.any fun label => label.name = taken) = true ↔
          ∃ label, label ∈ labels.filter fun label => label.name = taken := by simp
      rw [Bool.eq_iff_iff, applies, applies, any_iff, any_iff, same]

theorem apply_comm (differs : other.name ≠ change.name) (labels : List Label) :
    other.apply (change.apply labels) = change.apply (other.apply labels) := by
  have same :
      SameWithin (other.apply (change.apply labels)) (change.apply (other.apply labels)) := by
    intro sought
    simp only [filter_apply]
    split <;> split
    next first second => exact absurd (first.symm.trans second) differs
    all_goals rfl
  cases change with
  | put tag =>
      cases other with
      | put => exact (ordered_inNameOrder _).eq_of_sameWithin (ordered_inNameOrder _) same
      | take name =>
          exact ((ordered_inNameOrder _).without name).eq_of_sameWithin (ordered_inNameOrder _) same
  | take taken =>
      cases other with
      | put =>
          exact (ordered_inNameOrder _).eq_of_sameWithin
            ((ordered_inNameOrder _).without taken) same
      | take name =>
          simp only [apply, Database.without, List.filter_filter]
          exact List.filter_congr fun label _ => Bool.and_comm _ _

theorem alter_operation (change : Relabeling) (id : Uuid) (database : Database) :
    (change.operation id).alter database =
      match database.records.get? id with
      | none => .error (.unknownFile id)
      | some record =>
          if change.applies record.labels then
            .ok (database.put id { record with labels := change.apply record.labels })
          else
            .error (.unknownTag change.name) := by
  cases change with
  | put tag =>
      rw [operation, Operation.alter, updateTag, record]
      cases database.records.get? id <;> rfl
  | take name =>
      rw [operation, Operation.alter, removeTag, record]
      cases database.records.get? id <;> rfl

theorem isQuestion_operation (change : Relabeling) (id : Uuid) :
    (change.operation id).isQuestion = false := by
  cases change <;> rfl

end Relabeling

section Databases

variable {database altered otherAltered : Database} {id otherId : Uuid} {record : Record}
  {change other : Relabeling} {error : Error}

namespace Relabeling

theorem alter_of_get? (present : database.records.get? id = some record)
    (applies : change.applies record.labels = true) :
    (change.operation id).alter database =
      .ok (database.put id { record with labels := change.apply record.labels }) := by
  simp only [alter_operation, present, applies, if_true]

theorem exists_of_alter (altering : (change.operation id).alter database = .ok altered) :
    ∃ record, database.records.get? id = some record ∧ change.applies record.labels = true ∧
      altered = database.put id { record with labels := change.apply record.labels } := by
  rw [alter_operation] at altering
  split at altering
  next => cases altering
  next record present =>
    split at altering
    next applies =>
      cases altering
      exact ⟨record, present, applies, rfl⟩
    next => cases altering

theorem alter_eq_error_iff : (change.operation id).alter database = .error error ↔
    database.records.get? id = none ∧ error = .unknownFile id ∨
      ∃ record, database.records.get? id = some record ∧ change.applies record.labels = false ∧
        error = .unknownTag change.name := by
  rw [alter_operation]
  constructor
  · intro failed
    split at failed
    next missing =>
      cases failed
      exact .inl ⟨missing, rfl⟩
    next record present =>
      split at failed
      next => cases failed
      next refuses =>
        cases failed
        exact .inr ⟨record, present, eq_false_of_ne_true refuses, rfl⟩
  · rintro (⟨missing, rfl⟩ | ⟨record, present, refuses, rfl⟩)
    · rw [missing]
    · simp only [present, refuses, Bool.false_eq_true, if_false]

def Independent (id : Uuid) (change : Relabeling) (otherId : Uuid) (other : Relabeling) : Prop :=
  otherId = id → other.name ≠ change.name

/-- A change that is refused is refused behind an independent one as well. -/
theorem alter_eq_error_behind (independent : Independent id change otherId other)
    (altering : (change.operation id).alter database = .ok altered)
    (refusing : (other.operation otherId).alter database = .error error) :
    (other.operation otherId).alter altered = .error error := by
  obtain ⟨record, present, -, rfl⟩ := exists_of_alter altering
  rw [alter_eq_error_iff] at refusing ⊢
  by_cases same : otherId = id
  · have differs := independent same
    subst same
    rcases refusing with ⟨missing, -⟩ | ⟨otherRecord, otherPresent, refuses, isError⟩
    · rw [present] at missing
      cases missing
    · obtain rfl := Option.some.inj (present.symm.trans otherPresent)
      refine .inr ⟨_, get?_put_self _ _ _, ?_, isError⟩
      rw [applies_apply differs]
      exact refuses
  · rw [get?_put_of_ne same]
    exact refusing

/-- Independent changes lead to the same database in either order. -/
theorem exists_alter_behind (independent : Independent id change otherId other)
    (altering : (change.operation id).alter database = .ok altered)
    (otherAltering : (other.operation otherId).alter database = .ok otherAltered) :
    ∃ last, (other.operation otherId).alter altered = .ok last ∧
      (change.operation id).alter otherAltered = .ok last := by
  obtain ⟨record, present, applies, rfl⟩ := exists_of_alter altering
  obtain ⟨otherRecord, otherPresent, otherApplies, rfl⟩ := exists_of_alter otherAltering
  by_cases same : otherId = id
  · have differs := independent same
    subst same
    obtain rfl := Option.some.inj (present.symm.trans otherPresent)
    rw [alter_of_get? (get?_put_self _ _ _) ((applies_apply differs _).trans otherApplies),
      alter_of_get? (get?_put_self _ _ _) ((applies_apply differs.symm _).trans applies),
      put_put, put_put, apply_comm differs]
    exact ⟨_, rfl, rfl⟩
  · rw [alter_of_get? ((get?_put_of_ne same).trans otherPresent) otherApplies,
      alter_of_get? ((get?_put_of_ne (Ne.symm same)).trans present) applies,
      put_comm (Ne.symm same)]
    exact ⟨_, rfl, rfl⟩

theorem exists_attempts (independent : Independent id change otherId other)
    (database : Database) : ∃ outcome otherOutcome last,
      database.Attempts [change.operation id, other.operation otherId]
        [outcome, otherOutcome] last ∧
      database.Attempts [other.operation otherId, change.operation id]
        [otherOutcome, outcome] last := by
  have isChange := change.isQuestion_operation id
  have isOtherChange := other.isQuestion_operation otherId
  have independentBack : Independent otherId other id change :=
    fun same => (independent same.symm).symm
  cases altering : (change.operation id).alter database with
  | error =>
      cases otherAltering : (other.operation otherId).alter database with
      | error =>
          exact ⟨_, _, database, .refused isChange altering (.refused isOtherChange otherAltering .nil),
            .refused isOtherChange otherAltering (.refused isChange altering .nil)⟩
      | ok otherAltered =>
          have behind := alter_eq_error_behind independentBack otherAltering altering
          exact ⟨_, _, otherAltered,
            .refused isChange altering (.made isOtherChange otherAltering .nil),
            .made isOtherChange otherAltering (.refused isChange behind .nil)⟩
  | ok altered =>
      cases otherAltering : (other.operation otherId).alter database with
      | error =>
          have behind := alter_eq_error_behind independent altering otherAltering
          exact ⟨_, _, altered, .made isChange altering (.refused isOtherChange behind .nil),
            .refused isOtherChange otherAltering (.made isChange altering .nil)⟩
      | ok otherAltered =>
          obtain ⟨last, behind, otherBehind⟩ :=
            exists_alter_behind independent altering otherAltering
          exact ⟨_, _, last, .made isChange altering (.made isOtherChange behind .nil),
            .made isOtherChange otherAltering (.made isChange otherBehind .nil)⟩

end Relabeling

end Databases

end Database

/-- The file and the name of the tag that a call changes, if it changes a tag. -/
def Store.Operation.tagTarget? : Store.Operation → Option (Uuid × String)
  | updateTag id tag => some (id, tag.name)
  | removeTag id name => some (id, name)
  | file _ | fileAt _ | allFiles | tags _ | updateFile _ _ _ | removeFile _ | addedAt _ | listing
  | matching _ => none

theorem Store.Operation.exists_relabeling {operation : Store.Operation} {id : Uuid} {name : String}
    (target : operation.tagTarget? = some (id, name)) :
    ∃ change : Database.Relabeling, operation = change.operation id ∧ change.name = name := by
  cases operation with
  | updateTag id tag =>
      cases target
      exact ⟨.put tag, rfl, rfl⟩
  | removeTag id name =>
      cases target
      exact ⟨.take name, rfl, rfl⟩
  | file | fileAt | allFiles | tags | updateFile | removeFile | addedAt | listing | matching =>
      cases target

namespace OnDisk

open Disk

variable {path : String} {disk : Disk} {database : Database} {id : Uuid}

theorem exists_find_of_load (loaded : load path disk = .ok database) {record : Database.Record}
    (present : database.records.get? id = some record) :
    ∃ content, disk.find path = .ok (.file content) := by
  unfold load at loaded
  split at loaded
  next =>
    cases read : disk.readBytes path with
    | ok content => exact ⟨content, readBytes_eq_ok_iff.mp read⟩
    | error =>
        rw [Disk.read, read] at loaded
        cases loaded
  next =>
    cases loaded
    cases present

/-- Where a document is not ready, a change of tags changes nothing. -/
theorem exists_perform_eq_self (notReady : ∀ database, ¬Ready path database disk)
    (change : Database.Relabeling) (id : Uuid) :
    ∃ outcome, (store path).perform (change.operation id) disk = (outcome, disk) := by
  have isChange := change.isQuestion_operation id
  cases altering : (load path disk).bind (change.operation id).alter with
  | error error => exact ⟨_, perform_of_refusing isChange altering⟩
  | ok altered =>
      obtain ⟨database, loaded, made⟩ := Action.exists_of_except_bind_eq_ok altering
      obtain ⟨record, present, -⟩ := Database.Relabeling.exists_of_alter made
      obtain ⟨content, found⟩ := exists_find_of_load loaded present
      rcases settled_or_writeOver_eq_self found with settled | ⟨fault, fails⟩
      · exact absurd ⟨loaded, settled⟩ (notReady database)
      · exact ⟨_, perform_of_writeOver_of_error isChange altering (fails _)⟩

end OnDisk

/-- Whether two calls give the same outcomes in either order and lead to states that answer
alike. -/
structure Store.CommuteAt {State : Type} (store : Store State) (first second : Store.Operation)
    (state : State) : Prop where
  outcomes : (store.run [second, first] state).1 = (store.run [first, second] state).1.reverse
  alike : store.Alike (store.run [first, second] state).2 (store.run [second, first] state).2

section Commuting

open Database Store

variable {id otherId : Uuid} {change other : Relabeling}

theorem Memory.commute_relabelings (independent : Relabeling.Independent id change otherId other)
    {database : Database} (consistent : database.Consistent) :
    CommuteAt Memory.store (change.operation id) (other.operation otherId) database.toMemory := by
  obtain ⟨outcome, otherOutcome, last, attempts, otherAttempts⟩ :=
    Relabeling.exists_attempts independent database
  have run := attempts.run_memory consistent
  have otherRun := otherAttempts.run_memory consistent
  constructor
  · rw [run, otherRun]
    rfl
  · rw [run, otherRun]
    exact ⟨fun _ => rfl, fun _ => rfl, rfl, fun _ => rfl, fun _ => rfl, rfl, fun _ => rfl⟩

theorem OnDisk.commute_relabelings (independent : Relabeling.Independent id change otherId other)
    (path : String) (disk : Disk) :
    CommuteAt (store path) (change.operation id) (other.operation otherId) disk ∧
      ((store path).run [change.operation id, other.operation otherId] disk).2.readBytes path =
        ((store path).run [other.operation otherId, change.operation id] disk).2.readBytes path := by
  by_cases isReady : ∃ database, Ready path database disk
  · obtain ⟨database, ready⟩ := isReady
    obtain ⟨outcome, otherOutcome, last, attempts, otherAttempts⟩ :=
      Relabeling.exists_attempts independent database
    obtain ⟨after, run, afterReady, encodes, same⟩ := ready.exists_run attempts
    obtain ⟨otherAfter, otherRun, otherReady, otherEncodes, otherSame⟩ :=
      ready.exists_run otherAttempts
    rw [run, otherRun]
    refine ⟨⟨?_, ?_⟩, ?_⟩
    · rw [run, otherRun]
      rfl
    · rw [run, otherRun]
      exact alike_of_load (afterReady.loaded.trans otherReady.loaded.symm)
    · have mem_iff : .ok .done ∈ [outcome, otherOutcome] ↔ .ok .done ∈ [otherOutcome, outcome] :=
        (List.Perm.swap otherOutcome outcome []).mem_iff
      by_cases isDone : .ok .done ∈ [outcome, otherOutcome]
      · exact (encodes (.inr isDone)).trans (otherEncodes (.inr (mem_iff.mp isDone))).symm
      · rw [same isDone, otherSame (mt mem_iff.mpr isDone)]
  · have notReady : ∀ database, ¬Ready path database disk :=
      fun database ready => isReady ⟨database, ready⟩
    obtain ⟨outcome, step⟩ := exists_perform_eq_self notReady change id
    obtain ⟨otherOutcome, otherStep⟩ := exists_perform_eq_self notReady other otherId
    have run : (store path).run [change.operation id, other.operation otherId] disk =
        ([outcome, otherOutcome], disk) := by
      simp only [Store.run, step, otherStep]
    have otherRun : (store path).run [other.operation otherId, change.operation id] disk =
        ([otherOutcome, outcome], disk) := by
      simp only [Store.run, step, otherStep]
    refine ⟨⟨?_, ?_⟩, ?_⟩
    · rw [run, otherRun]
      rfl
    · rw [run, otherRun]
      exact alike_of_load rfl
    · rw [run, otherRun]

end Commuting

/-- Changes of tags that differ in the file or in the name of the tag give the same outcomes
in either order and lead to stores that answer alike; a document has the same bytes. -/
theorem commute_of_tagTarget? {first second : Store.Operation} {target otherTarget : Uuid × String}
    (isTarget : first.tagTarget? = some target)
    (isOtherTarget : second.tagTarget? = some otherTarget) (differs : target ≠ otherTarget) :
    (∀ operations, Memory.store.CommuteAt first second (Memory.store.run operations .empty).2) ∧
    ∀ path disk, (OnDisk.store path).CommuteAt first second disk ∧
      ((OnDisk.store path).run [first, second] disk).2.readBytes path =
        ((OnDisk.store path).run [second, first] disk).2.readBytes path := by
  obtain ⟨change, rfl, name⟩ := Store.Operation.exists_relabeling isTarget
  obtain ⟨other, rfl, otherName⟩ := Store.Operation.exists_relabeling isOtherTarget
  have independent : Database.Relabeling.Independent target.1 change otherTarget.1 other := by
    intro sameFile sameName
    apply differs
    rw [name, otherName] at sameName
    exact Prod.ext sameFile.symm sameName.symm
  refine ⟨fun operations => ?_, fun path disk => OnDisk.commute_relabelings independent path disk⟩
  obtain ⟨database, consistent, stands⟩ := Memory.exists_of_run operations
  have commute := Memory.commute_relabelings independent consistent
  rwa [← stands] at commute

/-- In a document that is out of order and repeats a name. -/
theorem commute_handwritten :
    let first := Store.Operation.updateTag OnDisk.handwrittenId ⟨"z", none, by decide⟩
    let second := Store.Operation.removeTag OnDisk.handwrittenId "x"
    OnDisk.load "db.json" OnDisk.handwrittenDisk = .ok OnDisk.handwritten ∧
      first.tagTarget? = some (OnDisk.handwrittenId, "z") ∧
      second.tagTarget? = some (OnDisk.handwrittenId, "x") ∧
      (OnDisk.store "db.json").CommuteAt first second OnDisk.handwrittenDisk ∧
      ((OnDisk.store "db.json").run [first, second] OnDisk.handwrittenDisk).2.readBytes "db.json" =
        ((OnDisk.store "db.json").run [second, first] OnDisk.handwrittenDisk).2.readBytes
          "db.json" := by
  intro first second
  have differs : (OnDisk.handwrittenId, "z") ≠ (OnDisk.handwrittenId, "x") := by decide
  have isTarget : first.tagTarget? = some (OnDisk.handwrittenId, "z") := rfl
  have isOtherTarget : second.tagTarget? = some (OnDisk.handwrittenId, "x") := rfl
  exact ⟨OnDisk.load_handwritten, isTarget, isOtherTarget,
    (commute_of_tagTarget? isTarget isOtherTarget differs).2 _ _⟩

end TagCatalog

import TagCatalog.Proofs.Store.Alteration

/-!
# Canonical databases

In a canonical database the labels of every record stand in the strict order of their
names.  Such a database is the only one that stands for its memory.  The empty database
is canonical, and every change of a canonical database leads to another.
-/

namespace TagCatalog

namespace Database

variable {labels : List Label} {database altered : Database} {id : Uuid} {record : Record}
  {operation : Store.Operation}

def Ascending (labels : List Label) : Prop :=
  labels.Pairwise fun first second => first.name < second.name

theorem ascending_normalized (tags : List Tag) :
    Ascending ((Store.normalized tags).map Label.ofTag) :=
  List.pairwise_map.mpr (increasing_values tags)

theorem Ascending.without (ascending : Ascending labels) (name : String) :
    Ascending (without name labels) :=
  ascending.filter _

/-- A label that is put in the place of those of its name is put where it belongs. -/
theorem Ascending.replace (ascending : Ascending labels) (tag : Tag) :
    Ascending (inNameOrder (Database.without tag.name labels ++ [.ofTag tag])) := by
  have distinct : (Database.without tag.name labels ++ [Label.ofTag tag]).Pairwise
      fun first second => first.name ≠ second.name := by
    apply List.pairwise_append.mpr
    refine ⟨(ascending.without tag.name).imp String.ne_of_lt, List.pairwise_singleton _ _, ?_⟩
    intro first firstIn second secondIn same
    obtain rfl := List.mem_singleton.mp secondIn
    exact of_decide_eq_true (List.mem_filter.mp firstIn).2 same
  have ordered := List.pairwise_mergeSort comesBefore_trans comesBefore_total
    (Database.without tag.name labels ++ [.ofTag tag])
  have apart := (List.mergeSort_perm (Database.without tag.name labels ++ [.ofTag tag])
    fun first second => first.name ≤ second.name).symm.pairwise distinct fun other => other.symm
  refine (ordered.and apart).imp fun both => ?_
  obtain ⟨before, other⟩ := both
  apply String.not_le.mp
  intro behind
  exact other (String.le_antisymm (of_decide_eq_true before) behind)

theorem Ascending.eq_map_values (ascending : Ascending labels)
    (named : ∀ label ∈ labels, label.name ≠ "") :
    labels = (tagTable labels).values.map Label.ofTag := by
  have read : (labels.filterMap Label.tag?).map Label.ofTag = labels := by
    induction labels with
    | nil => rfl
    | cons label rest inductionHypothesis =>
        obtain ⟨labelNamed, restNamed⟩ := List.forall_mem_cons.mp named
        have others := inductionHypothesis (List.pairwise_cons.mp ascending).2 restNamed
        rw [List.filterMap_cons_some (tag?_eq_some labelNamed), List.map_cons, others]
        rfl
  have increasing : ((labels.filterMap Label.tag?).map fun tag => (tag.name, tag)).Pairwise
      fun first second => compare first.1 second.1 = .lt := by
    rw [← read, Ascending, List.pairwise_map] at ascending
    apply List.pairwise_map.mpr
    exact ascending.imp compareOfLessAndEq_eq_lt.mpr
  have table := Table.ofList_entries (⟨_, increasing⟩ : Table String Tag)
  rw [tagTable, table, Table.values, List.map_map]
  exact (read.symm.trans (by simp [Function.comp_def]))

/-- Whether a database is consistent, and all its labels are in the order of their names. -/
structure Canonical (database : Database) : Prop where
  consistent : database.Consistent
  ascending : ∀ {id : Uuid} {record : Record}, database.records.get? id = some record →
    Ascending record.labels

theorem canonical_empty : Database.empty.Canonical :=
  ⟨firstFault?_eq_none_iff.mp rfl, nofun⟩

theorem Canonical.ascending_put (canonical : database.Canonical)
    (ascending : Ascending record.labels) {other : Uuid} {otherRecord : Record}
    (found : (database.put id record).records.get? other = some otherRecord) :
    Ascending otherRecord.labels := by
  rcases get?_put found with ⟨-, rfl⟩ | ⟨-, kept⟩
  · exact ascending
  · exact canonical.ascending kept

theorem Canonical.alter (canonical : database.Canonical)
    (altering : operation.alter database = .ok altered) : altered.Canonical := by
  refine ⟨canonical.consistent.alter altering, ?_⟩
  intro other otherRecord found
  cases operation with
  | updateTag id tag =>
      obtain ⟨record, present, rfl⟩ := exists_of_updateTag altering
      exact canonical.ascending_put ((canonical.ascending present).replace tag) found
  | removeTag id name =>
      obtain ⟨record, present, rfl⟩ := exists_of_removeTag altering
      exact canonical.ascending_put ((canonical.ascending present).without name) found
  | updateFile now file tags =>
      obtain ⟨-, addedAt, rfl⟩ := exists_of_updateFile altering
      exact canonical.ascending_put (ascending_normalized tags) found
  | removeFile id =>
      rw [eq_of_removeFile altering] at found
      exact canonical.ascending (Table.get?_of_get?_erase found)
  | file | fileAt | allFiles | tags | addedAt | listing | matching =>
      cases altering
      exact canonical.ascending found

theorem Canonical.labels_eq (canonical : database.Canonical)
    (present : database.records.get? id = some record) :
    record.labels = (tagTable record.labels).values.map Label.ofTag :=
  (canonical.ascending present).eq_map_values (canonical.consistent.named present)

/-- A memory has one canonical database at most. -/
theorem Canonical.eq_of_toMemory_eq {other : Database} (canonical : database.Canonical)
    (otherCanonical : other.Canonical) (same : database.toMemory = other.toMemory) :
    database = other := by
  suffices sameRecords : database.records = other.records from congrArg Database.mk sameRecords
  refine Table.ext_get? fun id => ?_
  have sameRecord : (database.records.get? id).map Record.toMemory =
      (other.records.get? id).map Record.toMemory := by
    rw [← Table.get?_map, ← Table.get?_map]
    exact congrArg (fun memory : Memory => memory.records.get? id) same
  cases found : database.records.get? id with
  | none =>
      rw [found] at sameRecord
      exact (Option.map_eq_none_iff.mp sameRecord.symm).symm
  | some record =>
      rw [found] at sameRecord
      obtain ⟨otherRecord, otherFound, stands⟩ := Option.map_eq_some_iff.mp sameRecord.symm
      have labels := canonical.labels_eq found
      have otherLabels := otherCanonical.labels_eq otherFound
      obtain ⟨path, addedAt, _⟩ := record
      obtain ⟨otherPath, otherAddedAt, _⟩ := otherRecord
      obtain ⟨rfl, rfl, sameTags⟩ := Memory.Record.mk.inj stands
      simp only at labels otherLabels
      rw [otherFound, labels, otherLabels, sameTags]

end Database

end TagCatalog

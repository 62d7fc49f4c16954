import TagCatalog.Proofs.Table
import TagCatalog.Store.Database

/-!
# Labels as tags

Labels stand for a table of tags, in which the last label of a name gives the
tag of that name (`get?_tagTable`).  Taking labels away, putting a label in and
writing the labels of normalized tags are changes of that table.
-/

namespace TagCatalog.Database

variable {labels : List Label} {name : String} {label : Label}

/-- The tags of labels by their names; of the labels of one name the last
counts. -/
def tagTable (labels : List Label) : Table String Tag :=
  Table.ofList ((labels.filterMap Label.tag?).map fun tag => (tag.name, tag))

theorem tag?_eq_some (named : label.name ≠ "") :
    label.tag? = some ⟨label.name, label.value, named⟩ :=
  dif_pos named

theorem get?_tagTable (named : ∀ label ∈ labels, label.name ≠ "") (name : String) :
    (tagTable labels).get? name =
      (labels.filter fun label => label.name = name).getLast?.bind Label.tag? := by
  rw [tagTable, Table.get?_ofList]
  induction labels with
  | nil => rfl
  | cons label rest inductionHypothesis =>
      obtain ⟨labelNamed, restNamed⟩ := List.forall_mem_cons.mp named
      have others := inductionHypothesis restNamed
      have tag := tag?_eq_some labelNamed
      rw [List.filterMap_cons_some tag, List.map_cons]
      by_cases same : label.name = name
      · rw [List.filter_cons_of_pos (by simpa using same),
          List.filter_cons_of_pos (by simpa using same), List.getLast?_cons, List.getLast?_cons]
        cases last : (rest.filter fun label => label.name = name).getLast? with
        | none =>
            rw [last] at others
            simp [Option.map_eq_none_iff.mp others, tag]
        | some lastLabel =>
            have membership := (List.mem_filter.mp (List.mem_of_getLast? last)).1
            rw [last, Option.bind_some, tag?_eq_some (restNamed lastLabel membership)] at others
            obtain ⟨entry, found, lastTag⟩ := Option.map_eq_some_iff.mp others
            simp [found, lastTag, tag?_eq_some (restNamed lastLabel membership)]
      · rw [List.filter_cons_of_neg (by simpa using same),
          List.filter_cons_of_neg (by simpa using same), others]

/-- What is on the labels of one name decides about the tag of that name. -/
theorem get?_tagTable_congr {others : List Label} (named : ∀ label ∈ labels, label.name ≠ "")
    (othersNamed : ∀ label ∈ others, label.name ≠ "")
    (same : (labels.filter fun label => label.name = name) =
      others.filter fun label => label.name = name) :
    (tagTable labels).get? name = (tagTable others).get? name := by
  rw [get?_tagTable named, get?_tagTable othersNamed, same]

theorem contains_tagTable (named : ∀ label ∈ labels, label.name ≠ "") (name : String) :
    (tagTable labels).contains name = labels.any fun label => label.name = name := by
  rw [Table.contains, get?_tagTable named]
  cases last : (labels.filter fun label => label.name = name).getLast? with
  | none =>
      have absent := List.filter_eq_nil_iff.mp (List.getLast?_eq_none_iff.mp last)
      exact (List.any_eq_false.mpr absent).symm
  | some label =>
      obtain ⟨membership, same⟩ := List.mem_filter.mp (List.mem_of_getLast? last)
      rw [Option.bind_some, tag?_eq_some (named label membership)]
      exact (List.any_eq_true.mpr ⟨label, membership, same⟩).symm

theorem comesBefore_trans (first second third : Label)
    (before : decide (first.name ≤ second.name) = true)
    (behind : decide (second.name ≤ third.name) = true) :
    decide (first.name ≤ third.name) = true :=
  decide_eq_true (String.le_trans (of_decide_eq_true before) (of_decide_eq_true behind))

theorem comesBefore_total (first second : Label) :
    (decide (first.name ≤ second.name) || decide (second.name ≤ first.name)) = true := by
  simpa using String.le_total first.name second.name

/-- Labels keep their order within a name when they are put in the order of
their names. -/
theorem filter_inNameOrder (labels : List Label) (name : String) :
    (inNameOrder labels).filter (fun label => label.name = name) =
      labels.filter fun label => label.name = name := by
  have equalNames : (labels.filter fun label => label.name = name).Pairwise
      fun first second => decide (first.name ≤ second.name) = true := by
    refine List.pairwise_of_forall_mem_list fun first firstIn second secondIn => ?_
    have firstName := of_decide_eq_true (List.mem_filter.mp firstIn).2
    have secondName := of_decide_eq_true (List.mem_filter.mp secondIn).2
    rw [firstName, secondName]
    exact decide_eq_true (String.le_refl name)
  have kept := (List.sublist_mergeSort comesBefore_trans comesBefore_total equalNames
    List.filter_sublist).filter fun label => label.name = name
  rw [List.filter_filter] at kept
  simp only [Bool.and_self] at kept
  have sameLength := ((List.mergeSort_perm labels fun first second =>
    decide (first.name ≤ second.name)).filter fun label => label.name = name).length_eq
  exact (kept.eq_of_length sameLength.symm).symm

theorem mem_of_mem_without (membership : label ∈ without name labels) : label ∈ labels :=
  (List.mem_filter.mp membership).1

theorem named_without (named : ∀ label ∈ labels, label.name ≠ "") (name : String) :
    ∀ label ∈ without name labels, label.name ≠ "" :=
  fun label membership => named label (mem_of_mem_without membership)

theorem filter_without_self (labels : List Label) (name : String) :
    (without name labels).filter (fun label => label.name = name) = [] := by
  simp [without]

theorem filter_without_of_ne (labels : List Label) {name sought : String} (other : sought ≠ name) :
    (without name labels).filter (fun label => label.name = sought) =
      labels.filter fun label => label.name = sought := by
  rw [without, List.filter_filter]
  refine List.filter_congr fun label _ => ?_
  by_cases found : label.name = sought <;> simp [found, other]

theorem tagTable_without (named : ∀ label ∈ labels, label.name ≠ "") (name : String) :
    tagTable (without name labels) = (tagTable labels).erase name := by
  have withoutNamed := named_without named name
  refine Table.ext_get? fun sought => ?_
  by_cases same : sought = name
  · subst same
    rw [get?_tagTable withoutNamed, filter_without_self, Table.get?_erase_self]
    rfl
  · rw [Table.get?_erase_of_ne _ same]
    exact get?_tagTable_congr withoutNamed named (filter_without_of_ne labels same)

theorem mem_of_mem_replace {tag : Tag}
    (membership : label ∈ inNameOrder (without tag.name labels ++ [.ofTag tag])) :
    label ∈ labels ∨ label = .ofTag tag := by
  rcases List.mem_append.mp (List.mem_mergeSort.mp membership) with kept | new
  · exact .inl (mem_of_mem_without kept)
  · exact .inr (List.mem_singleton.mp new)

theorem named_replace (named : ∀ label ∈ labels, label.name ≠ "") (tag : Tag) :
    ∀ label ∈ inNameOrder (without tag.name labels ++ [.ofTag tag]), label.name ≠ "" := by
  intro label membership
  rcases mem_of_mem_replace membership with kept | rfl
  · exact named label kept
  · exact tag.name_ne

theorem tagTable_replace (named : ∀ label ∈ labels, label.name ≠ "") (tag : Tag) :
    tagTable (inNameOrder (without tag.name labels ++ [.ofTag tag])) =
      (tagTable labels).insert tag.name tag := by
  have replaceNamed := named_replace named tag
  refine Table.ext_get? fun sought => ?_
  by_cases same : sought = tag.name
  · subst same
    rw [get?_tagTable replaceNamed, filter_inNameOrder, List.filter_append, filter_without_self,
      Table.get?_insert_self]
    simp [Label.ofTag, Label.tag?]
  · rw [Table.get?_insert_of_ne _ _ same]
    refine get?_tagTable_congr replaceNamed named ?_
    rw [filter_inNameOrder, List.filter_append, filter_without_of_ne labels same]
    simp [Label.ofTag, Ne.symm same]

theorem exists_of_mem_ofList {tags : List Tag} {entry : String × Tag}
    (membership : entry ∈ (Table.ofList (tags.map fun tag => (tag.name, tag))).entries) :
    ∃ tag ∈ tags, (tag.name, tag) = entry :=
  List.mem_map.mp (Table.mem_of_mem_ofList membership)

theorem mem_of_mem_normalized {tags : List Tag} {tag : Tag}
    (membership : tag ∈ Store.normalized tags) : tag ∈ tags := by
  obtain ⟨entry, inTable, rfl⟩ := List.mem_map.mp membership
  obtain ⟨tag, inTags, rfl⟩ := exists_of_mem_ofList inTable
  exact inTags

theorem increasing_values (tags : List Tag) :
    (Table.ofList (tags.map fun tag => (tag.name, tag))).values.Pairwise
      fun first second => first.name < second.name := by
  have increasing := (Table.ofList (tags.map fun tag => (tag.name, tag))).increasing
  apply List.pairwise_map.mpr
  refine increasing.imp_of_mem fun firstIn secondIn below => ?_
  obtain ⟨first, -, rfl⟩ := exists_of_mem_ofList firstIn
  obtain ⟨second, -, rfl⟩ := exists_of_mem_ofList secondIn
  exact compareOfLessAndEq_eq_lt.mp below

theorem distinct_values (tags : List Tag) :
    (Table.ofList (tags.map fun tag => (tag.name, tag))).values.Pairwise
      fun first second => first.name ≠ second.name :=
  (increasing_values tags).imp String.ne_of_lt

theorem map_name_values {table : Table String Tag}
    (keyed : ∀ entry ∈ table.entries, entry.2.name = entry.1) :
    (table.values.map fun tag => (tag.name, tag)) = table.entries := by
  rw [Table.values, List.map_map]
  refine (List.map_congr_left fun entry membership => ?_).trans (List.map_id _)
  exact Prod.ext (keyed entry membership) rfl

theorem keyed_ofList (tags : List Tag) : ∀ entry ∈
    (Table.ofList (tags.map fun tag => (tag.name, tag))).entries, entry.2.name = entry.1 := by
  intro entry membership
  obtain ⟨tag, -, rfl⟩ := exists_of_mem_ofList membership
  rfl

theorem ofList_values_tagTable (labels : List Label) :
    Table.ofList ((tagTable labels).values.map fun tag => (tag.name, tag)) = tagTable labels := by
  rw [tagTable, map_name_values (keyed_ofList _), Table.ofList_entries]

theorem tagTable_normalized (tags : List Tag) :
    tagTable ((Store.normalized tags).map Label.ofTag) =
      Table.ofList (tags.map fun tag => (tag.name, tag)) := by
  have read : ((Store.normalized tags).map Label.ofTag).filterMap Label.tag? =
      Store.normalized tags := by
    rw [List.filterMap_map]
    simp only [Function.comp_def, Label.tag?_ofTag, List.filterMap_some]
  rw [tagTable, read, Store.normalized, map_name_values (keyed_ofList tags), Table.ofList_entries]

end TagCatalog.Database

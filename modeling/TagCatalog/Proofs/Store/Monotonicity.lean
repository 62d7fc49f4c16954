import TagCatalog.Proofs.Filter.Firsts
import TagCatalog.Proofs.Store.Convergence
import TagCatalog.Proofs.Store.Order

/-!
# What filters find as tags come and go

What a filter accepts depends on the first tag of each name, and further names take nothing
away from it.  So a tag of a new name removes no file from what a filter finds, and a tag
that is taken away adds none.
-/

namespace TagCatalog

open TagCatalog.Filter

namespace Database

variable {database altered : Database} {id : Uuid} {record : Record} {name : String} {tag : Tag}
  {tags : List Tag} {labels others : List Label}

theorem firstNamed_values (tags : List Tag) (name : String) :
    firstNamed name (Table.ofList (tags.map fun tag => (tag.name, tag))).values =
      (Table.ofList (tags.map fun tag => (tag.name, tag))).get? name := by
  refine Option.ext fun tag => ?_
  rw [firstNamed_eq_some_iff (distinct_values tags), ← Table.mem_entries_iff, Table.values]
  constructor
  · rintro ⟨membership, rfl⟩
    obtain ⟨entry, inTable, rfl⟩ := List.mem_map.mp membership
    rwa [keyed_ofList tags entry inTable]
  · intro inTable
    exact ⟨List.mem_map_of_mem inTable, keyed_ofList tags _ inTable⟩

theorem firstsIn_of_get? (kept : ∀ name tag, (tagTable labels).get? name = some tag →
      (tagTable others).get? name = some tag) :
    FirstsIn (tagTable labels).values (tagTable others).values := by
  rintro name ⟨tag, membership, named⟩
  have found : firstNamed name (tagTable labels).values = some tag :=
    (firstNamed_eq_some_iff (distinct_values _)).mpr ⟨membership, named⟩
  rw [found]
  rw [tagTable, firstNamed_values] at found ⊢
  exact (kept name tag found).symm

/-- Whether every file of a database is one of another, with the first tags that it has. -/
def Within (database other : Database) : Prop :=
  ∀ id record, database.records.get? id = some record →
    ∃ otherRecord, other.records.get? id = some otherRecord ∧ otherRecord.path = record.path ∧
      FirstsIn (tagTable record.labels).values (tagTable otherRecord.labels).values

theorem within_put (present : database.records.get? id = some record)
    (firstsIn : FirstsIn (tagTable record.labels).values (tagTable labels).values) :
    Within database (database.put id { record with labels }) := by
  intro other otherRecord found
  by_cases same : other = id
  · subst same
    obtain rfl := Option.some.inj (present.symm.trans found)
    exact ⟨_, get?_put_self _ _ _, rfl, firstsIn⟩
  · exact ⟨otherRecord, (Table.get?_insert_of_ne _ _ same).trans found, rfl, fun _ _ => rfl⟩

theorem put_within (present : database.records.get? id = some record)
    (firstsIn : FirstsIn (tagTable labels).values (tagTable record.labels).values) :
    Within (database.put id { record with labels }) database := by
  intro other otherRecord found
  rcases get?_put found with ⟨rfl, rfl⟩ | ⟨-, kept⟩
  · exact ⟨record, present, rfl, firstsIn⟩
  · exact ⟨otherRecord, kept, rfl, fun _ _ => rfl⟩

theorem Consistent.exists_matching (consistent : database.Consistent) (filter : Filter) :
    ∃ found, database.matching filter = .ok found ∧ ∀ file, file ∈ found ↔
      ∃ record, database.records.get? file.id = some record ∧ record.path = file.path ∧
        filter.accepts (tagTable record.labels).values = true := by
  refine ⟨_, consistent.matching_eq_ok filter, fun file => ?_⟩
  simp only [List.mem_map, List.mem_filter, mem_inPathOrder_iff]
  constructor
  · rintro ⟨entry, ⟨present, accepted⟩, rfl⟩
    exact ⟨entry.2, present, rfl, accepted⟩
  · rintro ⟨record, present, samePath, accepted⟩
    refine ⟨(file.id, record), ⟨present, accepted⟩, ?_⟩
    rw [samePath]

theorem Within.matching_subset (within : Within database altered)
    (consistent : database.Consistent) (alteredConsistent : altered.Consistent) (filter : Filter) :
    ∃ found later, database.matching filter = .ok found ∧
      altered.matching filter = .ok later ∧ found ⊆ later := by
  obtain ⟨found, matching, isFound⟩ := consistent.exists_matching filter
  obtain ⟨later, laterMatching, isLater⟩ := alteredConsistent.exists_matching filter
  refine ⟨found, later, matching, laterMatching, fun file membership => ?_⟩
  obtain ⟨record, present, samePath, accepted⟩ := (isFound file).mp membership
  obtain ⟨otherRecord, otherPresent, sameOther, firstsIn⟩ := within _ _ present
  exact (isLater file).mpr ⟨otherRecord, otherPresent, sameOther.trans samePath,
    firstsIn.accepts filter accepted⟩

theorem Consistent.within_updateTag (consistent : database.Consistent)
    (updated : database.updateTag id tag = .ok altered)
    (lacks : ∀ tags, database.tags id = .ok tags → ∀ other ∈ tags, other.name ≠ tag.name) :
    Within database altered := by
  obtain ⟨record, present, rfl⟩ := exists_of_updateTag updated
  apply within_put present
  apply firstsIn_of_get?
  intro name other found
  have differs : name ≠ tag.name := by
    rintro rfl
    rw [tagTable, ← firstNamed_values] at found
    obtain ⟨membership, named⟩ := (firstNamed_eq_some_iff (distinct_values _)).mp found
    exact lacks _ (consistent.tags_of_get? present) other membership named
  rw [tagTable_replace (consistent.named present), Table.get?_insert_of_ne _ _ differs]
  exact found

theorem Consistent.removeTag_within (consistent : database.Consistent)
    (removed : database.removeTag id name = .ok altered) : Within altered database := by
  obtain ⟨record, present, rfl⟩ := exists_of_removeTag removed
  apply put_within present
  apply firstsIn_of_get?
  intro sought other found
  rw [tagTable_without (consistent.named present)] at found
  exact Table.get?_of_get?_erase found

end Database

namespace Store

variable {State : Type} {store : Store State} {state after : State} {database : Database}

/-- Whether filters find no less behind a tag of a new name, and no more behind a tag that
has been taken away. -/
structure FindsByFirsts (store : Store State) (state : State) : Prop where
  updateTag : ∀ id tag after, store.perform (.updateTag id tag) state = (.ok .done, after) →
    (∀ file tags, file.id = id → (store.tags file state).1 = .ok tags →
      ∀ other ∈ tags, other.name ≠ tag.name) →
    ∀ filter, ∃ found later, (store.matching filter state).1 = .ok found ∧
      (store.matching filter after).1 = .ok later ∧ found ⊆ later
  removeTag : ∀ id name after, store.perform (.removeTag id name) state = (.ok .done, after) →
    ∀ filter, ∃ found later, (store.matching filter state).1 = .ok found ∧
      (store.matching filter after).1 = .ok later ∧ later ⊆ found

theorem findsByFirsts_of_follows (follows : store.Follows state database) :
    FindsByFirsts store state where
  updateTag := by
    intro id tag after done lacks filter
    obtain ⟨altered, alteredConsistent, reflects, altering⟩ := follows.exists_of_done rfl done
    have within : database.Within altered := by
      apply follows.consistent.within_updateTag altering
      intro tags isTags
      exact lacks ⟨id, ""⟩ tags rfl ((follows.reflects.tags _).trans isTags)
    rw [follows.reflects.matching, reflects.matching]
    exact within.matching_subset follows.consistent alteredConsistent filter
  removeTag := by
    intro id name after done filter
    obtain ⟨altered, alteredConsistent, reflects, altering⟩ := follows.exists_of_done rfl done
    have within : altered.Within database := follows.consistent.removeTag_within altering
    rw [follows.reflects.matching, reflects.matching]
    obtain ⟨later, found, laterMatching, matching, subset⟩ :=
      within.matching_subset alteredConsistent follows.consistent filter
    exact ⟨found, later, matching, laterMatching, subset⟩

end Store

theorem OnDisk.findsByFirsts (path : String) (disk : Disk) :
    Store.FindsByFirsts (store path) disk := by
  cases loaded : load path disk with
  | ok database => exact Store.findsByFirsts_of_follows (Store.follows_disk loaded)
  | error error =>
      have notDone (operation : Store.Operation) (isChange : operation.isQuestion = false)
          (after : Disk) : (store path).perform operation disk ≠ (.ok .done, after) := by
        rw [perform_of_refusing isChange (by rw [loaded]; rfl)]
        nofun
      exact ⟨fun _ _ _ done => absurd done (notDone _ rfl _),
        fun _ _ _ done => absurd done (notDone _ rfl _)⟩

/-- Matching depends on the first tag of each name only, and further names take nothing
away from it: neither for lists of tags, nor for what a store finds. -/
theorem accepts_of_firstsIn :
    (∀ (filter : Filter) (tags others : List Tag), FirstsIn tags others →
      filter.accepts tags = true → filter.accepts others = true) ∧
    (∀ (filter : Filter) (tags others : List Tag),
      (∀ name, firstNamed name tags = firstNamed name others) →
      filter.accepts tags = filter.accepts others) ∧
    (∀ (filter : Filter) (tags others : List Tag),
      tags.Pairwise (fun first second => first.name ≠ second.name) → others.Perm tags →
      filter.accepts others = filter.accepts tags) ∧
    (∀ (filter : Filter) (front back : List Tag) (earlier tag : Tag),
      earlier ∈ front → earlier.name = tag.name →
      filter.accepts (front ++ back) = filter.accepts (front ++ tag :: back)) ∧
    (∀ (filter : Filter) (tags : List Tag),
      filter.accepts (tags.eraseDupsBy fun tag earlier => tag.name == earlier.name) =
        filter.accepts tags) ∧
    (∀ operations, Store.FindsByFirsts Memory.store (Memory.store.run operations .empty).2) ∧
    ∀ path disk, Store.FindsByFirsts (OnDisk.store path) disk := by
  refine ⟨fun filter _ _ firstsIn => firstsIn.accepts filter,
    fun filter _ _ same => accepts_congr same filter, ?_, ?_, ?_, ?_, ?_⟩
  · exact fun filter _ _ distinct perm => accepts_congr (firstNamed_of_perm perm distinct) filter
  · exact fun filter _ _ _ _ isEarlier sameName =>
      (accepts_congr (firstNamed_append_cons isEarlier sameName) filter).symm
  · exact fun filter tags => accepts_congr (firstNamed_eraseDupsBy tags) filter
  · intro operations
    obtain ⟨database, consistent, stands⟩ := Memory.exists_of_run operations
    have finds := Store.findsByFirsts_of_follows (Store.follows_memory consistent)
    rwa [← stands] at finds
  · exact fun path disk => OnDisk.findsByFirsts path disk

/-- With a later tag of a name, in another order, and in a document. -/
theorem accepts_of_firstsIn_handwritten :
    let x : Tag := ⟨"x", some 1, by decide⟩
    let later : Tag := ⟨"x", some 2, by decide⟩
    let y : Tag := ⟨"y", none, by decide⟩
    let z : Tag := ⟨"z", some 0, by decide⟩
    let filter : Filter := .all [.compare "x" .notEqual 2, .any [.present "y"], .all []]
    let store := OnDisk.store "db.json"
    (FirstsIn [y, x] [x, y, later, z] ∧ filter.accepts [y, x] = true ∧
      filter.accepts [x, y, later, z] = true) ∧
    filter.accepts [y, x] = filter.accepts [x, later, y] ∧
    filter.accepts [y, x] = filter.accepts [x, y] ∧
    filter.accepts [x, y] = filter.accepts [x, y, later] ∧
    (∃ tagged found more,
      store.perform (.updateTag OnDisk.handwrittenId z) OnDisk.handwrittenDisk =
        (.ok .done, tagged) ∧
      (store.matching filter OnDisk.handwrittenDisk).1 = .ok found ∧
      (store.matching filter tagged).1 = .ok more ∧ found ⊆ more) ∧
    ∃ untagged found less,
      store.perform (.removeTag OnDisk.handwrittenId "y") OnDisk.handwrittenDisk =
        (.ok .done, untagged) ∧
      (store.matching filter OnDisk.handwrittenDisk).1 = .ok found ∧
      (store.matching filter untagged).1 = .ok less ∧ less ⊆ found := by
  intro x later y z filter store
  obtain ⟨grows, sameFirsts, perm, drops, -, -, finds⟩ := accepts_of_firstsIn
  have firstsIn : FirstsIn [y, x] [x, y, later, z] := by
    rintro name ⟨tag, membership, rfl⟩
    simp only [List.mem_cons, List.not_mem_nil, or_false] at membership
    rcases membership with rfl | rfl <;> decide
  have accepted : filter.accepts [y, x] = true := by decide
  have same (name : String) : firstNamed name [y, x] = firstNamed name [x, later, y] := by
    have differs : ¬("x" = name ∧ "y" = name) := by
      rintro ⟨rfl, other⟩
      exact absurd other (by decide)
    simp only [firstNamed_cons, x, later, y]
    grind
  have loaded := OnDisk.load_handwritten
  have ready : OnDisk.Ready "db.json" OnDisk.handwritten OnDisk.handwrittenDisk :=
    ⟨loaded, OnDisk.settled_handwritten⟩
  have present : OnDisk.handwritten.records.get? OnDisk.handwrittenId =
      some ⟨"a", Instant.epoch, [⟨"y", none⟩, ⟨"x", some 1⟩, ⟨"x", none⟩]⟩ := rfl
  have named : ∀ label ∈ [⟨"y", none⟩, ⟨"x", some 1⟩, (⟨"x", none⟩ : Database.Label)],
      label.name ≠ "" := by decide
  obtain ⟨tagged, updated, -⟩ := ready.exists_perform
    (show (Store.Operation.updateTag OnDisk.handwrittenId z).isQuestion = false from rfl)
    (Database.updateTag_of_get? present z)
  obtain ⟨untagged, removed, -⟩ := ready.exists_perform
    (show (Store.Operation.removeTag OnDisk.handwrittenId "y").isQuestion = false from rfl)
    (Database.removeTag_of_get? present named (by decide))
  have carried : OnDisk.handwritten.tags OnDisk.handwrittenId =
      .ok [⟨"x", none, by decide⟩, y] := OnDisk.eq_ok_of_toOption (by decide +kernel)
  have findsHere := finds "db.json" OnDisk.handwrittenDisk
  refine ⟨⟨firstsIn, accepted, grows _ _ _ firstsIn accepted⟩, ?_, ?_, ?_, ?_, ?_⟩
  · exact sameFirsts filter [y, x] [x, later, y] same
  · exact perm filter [x, y] [y, x] (by decide) (.swap x y [])
  · exact drops filter [x, y] [] x later (by decide) rfl
  · have lacks : ∀ file tags, file.id = OnDisk.handwrittenId →
        (store.tags file OnDisk.handwrittenDisk).1 = .ok tags →
        ∀ other ∈ tags, other.name ≠ z.name := by
      intro file tags same isTags
      rw [(Store.reflects_disk loaded).tags, same, carried] at isTags
      cases isTags
      decide
    obtain ⟨found, more, matching, moreMatching, subset⟩ :=
      findsHere.updateTag _ z tagged updated lacks filter
    exact ⟨tagged, found, more, updated, matching, moreMatching, subset⟩
  · obtain ⟨found, less, matching, lessMatching, subset⟩ :=
      findsHere.removeTag _ _ untagged removed filter
    exact ⟨untagged, found, less, removed, matching, lessMatching, subset⟩

end TagCatalog

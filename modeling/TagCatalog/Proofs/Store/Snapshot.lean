import TagCatalog.Proofs.Store.Reflection

/-!
# Answers from one snapshot

A store on a disk lists and matches on one reading of its document.  The provided
operations read the document anew for every file and look it up by its identifier.  They
give the same answers, also where the document cannot be read.
-/

namespace TagCatalog

namespace Store

variable {State : Type} {store : Store State} {state : State} {database : Database}

theorem Reflects.listing_eq (reflects : store.Reflects state database) :
    store.listing state = listingOf store.allFiles store.addedAt state := by
  have files := reflects.asks.allFiles.eq state
  rw [reflects.allFiles] at files
  have times : ∀ id, store.addedAt id state = ((database.addedAt id).map some, state) := by
    intro id
    rw [(reflects.asks.addedAt id).eq state, reflects.addedAt]
  rw [Database.listingOf_eq files times, reflects.asks.listing.eq state, reflects.listing]

theorem Reflects.matching_eq (reflects : store.Reflects state database)
    (consistent : database.Consistent) (filter : Filter) :
    store.matching filter state = matchingOf store.allFiles store.tags filter state := by
  have files := reflects.asks.allFiles.eq state
  rw [reflects.allFiles] at files
  have answers : ∀ file, store.tags file state = (database.tags file.id, state) := by
    intro file
    rw [(reflects.asks.tags file).eq state, reflects.tags]
  rw [consistent.matchingOf_eq files answers, (reflects.asks.matching filter).eq state,
    reflects.matching]

end Store

namespace OnDisk

variable {path : String} {disk : Disk} {error : Error}

theorem query_of_load_eq_error (failed : load path disk = .error error) {Result : Type}
    (ask : Database → Except Error Result) : query path ask disk = (.error error, disk) := by
  rw [query, Store.query, failed]
  rfl

/-- Listing and matching on one snapshot give the same list, or the same error, as the
provided operations over the files, tags and times that the same store gives, whatever
stands at the path of the document. -/
theorem snapshot_eq_provided (path : String) (disk : Disk) :
    (store path).listing disk = Store.listingOf (store path).allFiles (store path).addedAt disk ∧
    ∀ filter, (store path).matching filter disk =
      Store.matchingOf (store path).allFiles (store path).tags filter disk := by
  cases loaded : load path disk with
  | ok database =>
      have reflects := Store.reflects_disk loaded
      exact ⟨reflects.listing_eq, reflects.matching_eq (consistent_of_load loaded)⟩
  | error error =>
      -- The walks stop before the first file, with the error of the snapshot.
      have noFiles : (store path).allFiles disk = (.error error, disk) :=
        query_of_load_eq_error loaded _
      constructor
      · rw [Store.listingOf, Action.bind_of_error noFiles]
        exact query_of_load_eq_error loaded _
      · intro filter
        rw [Store.matchingOf, Action.bind_of_error noFiles]
        exact query_of_load_eq_error loaded _

end OnDisk

end TagCatalog

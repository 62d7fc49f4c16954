import TagCatalog.Proofs.Store.Alteration
import TagCatalog.Store.Journal

/-!
# Errors that blame the input

Some errors say that something is wrong with the arguments of a command.  No store gives
such an error: neither a memory, nor a disk, whatever stands there or nothing at all, nor
a store with a journal.
-/

namespace TagCatalog

variable {State Result First Second : Type}

/-- Whether an error says that the arguments of a command are wrong.  The empty name of a
tag is none of these, since it is noticed only once the file has been found. -/
def Error.blamesInput : Error → Bool
  | .invalidFileId _ | .filter _ | .invalidTagName _ _ | .invalidValue _ | .request _ => true
  | .unknownFile _ | .unknownPath _ | .unknownTag _ | .noMatches | .emptyTagName
  | .pathInUse _ _ | .disk _ | .document _ | .store _ | .settings _ => false

def Innocent (outcome : Except Error Result) : Prop :=
  ∀ error, outcome = .error error → error.blamesInput = false

@[simp]
theorem innocent_ok (result : Result) : Innocent (.ok result) :=
  fun _ => nofun

@[simp]
theorem innocent_error_iff {error : Error} :
    Innocent (.error error : Except Error Result) ↔ error.blamesInput = false :=
  ⟨fun innocent => innocent error rfl, fun spared _ same => Except.error.inj same ▸ spared⟩

theorem Innocent.map {outcome : Except Error First} (innocent : Innocent outcome)
    (change : First → Second) : Innocent (outcome.map change) := by
  cases outcome with
  | ok => exact innocent_ok _
  | error => exact innocent_error_iff.mpr (innocent_error_iff.mp innocent)

theorem Innocent.bind {first : Except Error First} {next : First → Except Error Second}
    (innocent : Innocent first) (nextInnocent : ∀ result, Innocent (next result)) :
    Innocent (first.bind next) := by
  cases first with
  | ok result => exact nextInnocent result
  | error => exact innocent_error_iff.mpr (innocent_error_iff.mp innocent)

namespace Action

def Innocent (action : Action State Result) : Prop :=
  ∀ state, TagCatalog.Innocent (action state).1

theorem innocent_pure (result : Result) : Innocent (pure result : Action State Result) :=
  fun _ => innocent_ok result

theorem innocent_throw {error : Error} (spared : error.blamesInput = false) :
    Innocent (throw error : Action State Result) :=
  fun _ => innocent_error_iff.mpr spared

theorem Innocent.of_error {action : Action State Result} (innocent : action.Innocent)
    {state after : State} {error : Error} (failed : action state = (.error error, after)) :
    error.blamesInput = false :=
  innocent state error (congrArg Prod.fst failed)

theorem Innocent.bind {first : Action State First} {next : First → Action State Second}
    (innocent : first.Innocent) (nextInnocent : ∀ result, (next result).Innocent) :
    (first >>= next).Innocent := by
  intro state error failed
  rcases of_bind_eq_error (Prod.ext failed rfl) with failed | ⟨result, _, -, failed⟩
  · exact innocent.of_error failed
  · exact (nextInnocent result).of_error failed

theorem innocent_map_iff {action : Action State First} (change : First → Second) :
    (change <$> action).Innocent ↔ action.Innocent := by
  apply forall_congr'
  intro state
  rw [map_eq]
  cases (action state).1 with
  | ok => exact iff_of_true (innocent_ok _) (innocent_ok _)
  | error => exact innocent_error_iff.trans innocent_error_iff.symm

end Action

namespace Store

structure BlamesNoInput (store : Store State) : Prop where
  perform : ∀ operation, (store.perform operation).Innocent
  announce : ∀ event, (store.announce event).Innocent

theorem innocent_query {ask : State → Except Error Result}
    (innocent : ∀ state, Innocent (ask state)) : (query ask).Innocent :=
  innocent

theorem innocent_change {alter : State → Except Error State}
    (innocent : ∀ state, Innocent (alter state)) : (change alter).Innocent := by
  intro state
  unfold change
  cases altering : alter state with
  | ok => exact innocent_ok _
  | error => exact innocent_error_iff.mpr (innocent state _ altering)

theorem innocent_listingFrom {addedAt : Uuid → Action State (Option Instant)}
    (innocent : ∀ id, (addedAt id).Innocent) (files : List File) :
    (listingFrom addedAt files).Innocent := by
  induction files with
  | nil => exact Action.innocent_pure _
  | cons file rest inductionHypothesis =>
      exact (innocent file.id).bind fun _ =>
        inductionHypothesis.bind fun _ => Action.innocent_pure _

theorem innocent_matchingFrom {tags : File → Action State (List Tag)}
    (innocent : ∀ file, (tags file).Innocent) (filter : Filter) (files : List File) :
    (matchingFrom tags filter files).Innocent := by
  induction files with
  | nil => exact Action.innocent_pure _
  | cons file rest inductionHypothesis =>
      exact (innocent file).bind fun _ => inductionHypothesis.bind fun _ => Action.innocent_pure _

end Store

namespace Memory

theorem innocent_record (memory : Memory) (id : Uuid) : Innocent (memory.record id) := by
  unfold record
  split <;> simp [Error.blamesInput]

theorem innocent_fileAt (memory : Memory) (path : String) : Innocent (memory.fileAt path) := by
  unfold fileAt
  split <;> simp [Error.blamesInput]

theorem innocent_removeTag (memory : Memory) (id : Uuid) (name : String) :
    Innocent (memory.removeTag id name) := by
  apply (innocent_record memory id).bind
  intro record
  split
  · exact innocent_ok _
  · exact innocent_error_iff.mpr rfl

theorem innocent_updateFile (memory : Memory) (now : Instant) (file : File) (tags : List Tag) :
    Innocent (memory.updateFile now file tags) := by
  unfold updateFile
  split <;> simp [Error.blamesInput]

theorem innocent_removeFile (memory : Memory) (id : Uuid) : Innocent (memory.removeFile id) := by
  unfold removeFile
  split <;> simp [Error.blamesInput]

theorem blamesNoInput : store.BlamesNoInput where
  announce _ := Action.innocent_pure _
  perform operation := by
    have allFiles : store.allFiles.Innocent := Store.innocent_query fun _ => innocent_ok _
    have tags (file : File) : (store.tags file).Innocent :=
      Store.innocent_query fun memory => (innocent_record memory file.id).map _
    have addedAt (id : Uuid) : (store.addedAt id).Innocent :=
      Store.innocent_query fun memory => ((innocent_record memory id).map _).map _
    cases operation <;> apply (Action.innocent_map_iff _).mpr
    case file id => exact Store.innocent_query fun memory => (innocent_record memory id).map _
    case fileAt path => exact Store.innocent_query fun memory => innocent_fileAt memory path
    case allFiles => exact allFiles
    case tags file => exact tags file
    case addedAt id => exact addedAt id
    case listing => exact allFiles.bind (Store.innocent_listingFrom addedAt)
    case matching filter => exact allFiles.bind (Store.innocent_matchingFrom tags filter)
    case updateTag id tag =>
      exact Store.innocent_change fun memory => (innocent_record memory id).map _
    case removeTag id name =>
      exact Store.innocent_change fun memory => innocent_removeTag memory id name
    case updateFile now file tags =>
      exact Store.innocent_change fun memory => innocent_updateFile memory now file tags
    case removeFile id =>
      exact Store.innocent_change fun memory => innocent_removeFile memory id

end Memory

namespace Database

theorem innocent_record (database : Database) (id : Uuid) : Innocent (database.record id) := by
  unfold record
  split <;> simp [Error.blamesInput]

theorem innocent_tagsOf (labels : List Label) : Innocent (tagsOf labels) := by
  unfold tagsOf
  split <;> simp [Error.blamesInput]

theorem innocent_fileAt (database : Database) (path : String) :
    Innocent (database.fileAt path) := by
  unfold fileAt
  split <;> simp [Error.blamesInput]

theorem innocent_matchingFrom (filter : Filter) (records : List (Uuid × Record)) :
    Innocent (matchingFrom filter records) := by
  induction records with
  | nil => exact innocent_ok _
  | cons entry rest inductionHypothesis =>
      exact (innocent_tagsOf entry.2.labels).bind fun _ =>
        inductionHypothesis.bind fun _ => innocent_ok _

theorem innocent_removeTag (database : Database) (id : Uuid) (name : String) :
    Innocent (database.removeTag id name) := by
  apply (innocent_record database id).bind
  intro record
  split
  · exact innocent_ok _
  · exact innocent_error_iff.mpr rfl

theorem innocent_updateFile (database : Database) (now : Instant) (file : File)
    (tags : List Tag) : Innocent (database.updateFile now file tags) := by
  unfold updateFile
  split <;> simp [Error.blamesInput]

theorem innocent_removeFile (database : Database) (id : Uuid) :
    Innocent (database.removeFile id) := by
  unfold removeFile
  split <;> simp [Error.blamesInput]

end Database

namespace OnDisk

theorem innocent_load (path : String) (disk : Disk) : Innocent (load path disk) := by
  unfold load ofText
  repeat' split
  all_goals simp [Error.blamesInput]

theorem innocent_query (path : String) {ask : Database → Except Error Result}
    (innocent : ∀ database, Innocent (ask database)) : (query path ask).Innocent :=
  Store.innocent_query fun disk => (innocent_load path disk).bind innocent

theorem innocent_change (path : String) {alter : Database → Except Error Database}
    (innocent : ∀ database, Innocent (alter database)) : (change path alter).Innocent := by
  intro disk
  unfold change
  cases altering : (load path disk).bind alter with
  | ok altered =>
      unfold save ofChange
      dsimp only
      split <;> simp [Error.blamesInput]
  | error error =>
      exact innocent_error_iff.mpr ((innocent_load path disk).bind innocent error altering)

theorem blamesNoInput (path : String) : (store path).BlamesNoInput where
  announce _ := Action.innocent_pure _
  perform operation := by
    cases operation <;> apply (Action.innocent_map_iff _).mpr
    case file id => exact innocent_query path fun database => (database.innocent_record id).map _
    case fileAt place => exact innocent_query path fun database => database.innocent_fileAt place
    case allFiles => exact innocent_query path fun _ => innocent_ok _
    case tags file =>
      exact innocent_query path fun database =>
        (database.innocent_record file.id).bind fun record => Database.innocent_tagsOf record.labels
    case addedAt id =>
      exact innocent_query path fun database => ((database.innocent_record id).map _).map _
    case listing => exact innocent_query path fun _ => innocent_ok _
    case matching filter =>
      exact innocent_query path fun _ => Database.innocent_matchingFrom filter _
    case updateTag id tag =>
      exact innocent_change path fun database => (database.innocent_record id).map _
    case removeTag id name =>
      exact innocent_change path fun database => database.innocent_removeTag id name
    case updateFile now file tags =>
      exact innocent_change path fun database => database.innocent_updateFile now file tags
    case removeFile id => exact innocent_change path fun database => database.innocent_removeFile id

end OnDisk

namespace Workspace

theorem innocent_noting (path : String) {operation : Action Disk Result}
    (innocent : operation.Innocent) (events : Result → List Log.Event) :
    (noting path operation events).Innocent := by
  intro workspace
  simp only [noting]
  cases step : operation workspace.disk with
  | mk outcome disk =>
      cases outcome with
      | ok => exact innocent_ok _
      | error => exact innocent_error_iff.mpr (innocent.of_error step)

theorem blamesNoInput (path : String) : (store path).BlamesNoInput where
  announce _ := fun _ => innocent_ok _
  perform operation := by
    have silent := (OnDisk.blamesNoInput path).perform operation
    cases operation <;> apply (Action.innocent_map_iff _).mpr <;>
      have innocent := (Action.innocent_map_iff _).mp silent
    case matching filter => exact fun workspace => innocent_noting path innocent _ workspace
    all_goals exact innocent_noting path innocent _

end Workspace

end TagCatalog

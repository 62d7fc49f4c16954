import TagCatalog.Proofs.Store.Action
import TagCatalog.Store.Memory
import TagCatalog.Store.OnDisk

/-!
# Questions to stores

A question leaves the state of a store as it is.  What a store on a disk answers
depends only on what is loaded from the disk.
-/

namespace TagCatalog

variable {State First Second Result : Type} {state after : State}

namespace Action

def Silent (action : Action State Result) : Prop :=
  ∀ state, (action state).2 = state

theorem silent_pure (result : Result) : Silent (pure result : Action State Result) :=
  fun _ => rfl

theorem silent_throw (error : Error) : Silent (throw error : Action State Result) :=
  fun _ => rfl

theorem Silent.eq {action : Action State Result} (silent : Silent action) (state : State) :
    action state = ((action state).1, state) :=
  Prod.ext rfl (silent state)

theorem Silent.bind {first : Action State First} {next : First → Action State Second}
    (silent : Silent first) (nextSilent : ∀ result, Silent (next result)) :
    Silent (first >>= next) := by
  intro state
  have step := silent.eq state
  cases outcome : (first state).1 with
  | error error =>
      rw [outcome] at step
      rw [bind_of_error step]
  | ok result =>
      rw [outcome] at step
      rw [bind_of_ok step]
      exact nextSilent result state

theorem Silent.map {action : Action State First} (silent : Silent action)
    (change : First → Second) : Silent (change <$> action) := by
  intro state
  rw [map_eq]
  exact silent state

theorem exists_of_silent_bind {first : Action State First} {next : First → Action State Second}
    (silent : Silent first) {result : Second}
    (done : (first >>= next) state = (.ok result, after)) :
    ∃ between, (first state).1 = .ok between ∧ next between state = (.ok result, after) := by
  obtain ⟨between, middle, step, rest⟩ := exists_of_bind_eq_ok done
  have same := silent state
  rw [step] at same ⊢
  cases same
  exact ⟨between, rfl, rest⟩

theorem fst_bind_congr {first : Action State First} {next : First → Action State Second}
    {other : State} (silent : Silent first) (same : (first state).1 = (first other).1)
    (nextSame : ∀ result, (next result state).1 = (next result other).1) :
    ((first >>= next) state).1 = ((first >>= next) other).1 := by
  have step := silent.eq state
  have otherStep := silent.eq other
  rw [same] at step
  cases outcome : (first other).1 with
  | error error =>
      rw [outcome] at step otherStep
      rw [bind_of_error step, bind_of_error otherStep]
  | ok result =>
      rw [outcome] at step otherStep
      rw [bind_of_ok step, bind_of_ok otherStep]
      exact nextSame result

theorem tryCatch_apply (action : Action State Result) (handle : Error → Action State Result)
    (state : State) : MonadExcept.tryCatch action handle state =
      match action state with
      | (.ok result, after) => (.ok result, after)
      | (.error error, after) => handle error after := by
  simp only [MonadExcept.tryCatch, tryCatchThe, MonadExceptOf.tryCatch, ExceptT.tryCatch,
    ExceptT.mk, bind, StateT.bind]
  cases action state with
  | mk outcome after => cases outcome <;> rfl

theorem Silent.tryCatch {action : Action State Result} {handle : Error → Action State Result}
    (silent : Silent action) (handleSilent : ∀ error, Silent (handle error)) :
    Silent (tryCatch action handle) := by
  intro state
  rw [tryCatch_apply, silent.eq state]
  cases (action state).1 with
  | ok => rfl
  | error error => exact handleSilent error state

end Action

namespace Store

/-- Whether the questions to a store leave its states as they are, and so does what
it announces. -/
structure AsksSilently (store : Store State) : Prop where
  file : ∀ id, (store.file id).Silent
  fileAt : ∀ path, (store.fileAt path).Silent
  allFiles : store.allFiles.Silent
  tags : ∀ file, (store.tags file).Silent
  addedAt : ∀ id, (store.addedAt id).Silent
  listing : store.listing.Silent
  matching : ∀ filter, (store.matching filter).Silent
  announce : ∀ event state, store.announce event state = (.ok (), state)

theorem AsksSilently.silent_announce {store : Store State} (asks : store.AsksSilently)
    (event : Log.Event) : (store.announce event).Silent := by
  intro state
  rw [asks.announce]

/-- Whether two states of a store give the same answers. -/
structure Alike (store : Store State) (first second : State) : Prop where
  file : ∀ id, (store.file id first).1 = (store.file id second).1
  fileAt : ∀ path, (store.fileAt path first).1 = (store.fileAt path second).1
  allFiles : (store.allFiles first).1 = (store.allFiles second).1
  tags : ∀ file, (store.tags file first).1 = (store.tags file second).1
  addedAt : ∀ id, (store.addedAt id first).1 = (store.addedAt id second).1
  listing : (store.listing first).1 = (store.listing second).1
  matching : ∀ filter, (store.matching filter first).1 = (store.matching filter second).1

def Operation.isQuestion : Operation → Bool
  | file _ | fileAt _ | allFiles | tags _ | addedAt _ | listing | matching _ => true
  | updateTag _ _ | removeTag _ _ | updateFile _ _ _ | removeFile _ => false

variable {store : Store State} {first second : State} {operation : Operation}

theorem AsksSilently.perform (asks : store.AsksSilently) (question : operation.isQuestion = true) :
    (store.perform operation).Silent := by
  cases operation with
  | file id => exact (asks.file id).map _
  | fileAt path => exact (asks.fileAt path).map _
  | allFiles => exact asks.allFiles.map _
  | tags file => exact (asks.tags file).map _
  | addedAt id => exact (asks.addedAt id).map _
  | listing => exact asks.listing.map _
  | matching filter => exact (asks.matching filter).map _
  | updateTag | removeTag | updateFile | removeFile => cases question

theorem Alike.perform (alike : store.Alike first second) (question : operation.isQuestion = true) :
    (store.perform operation first).1 = (store.perform operation second).1 := by
  cases operation with
  | file id => simp only [Store.perform, Action.map_eq, alike.file]
  | fileAt path => simp only [Store.perform, Action.map_eq, alike.fileAt]
  | allFiles => simp only [Store.perform, Action.map_eq, alike.allFiles]
  | tags file => simp only [Store.perform, Action.map_eq, alike.tags]
  | addedAt id => simp only [Store.perform, Action.map_eq, alike.addedAt]
  | listing => simp only [Store.perform, Action.map_eq, alike.listing]
  | matching filter => simp only [Store.perform, Action.map_eq, alike.matching]
  | updateTag | removeTag | updateFile | removeFile => cases question

theorem Alike.run (alike : store.Alike first second) (asks : store.AsksSilently)
    {operations : List Operation}
    (questions : ∀ operation ∈ operations, operation.isQuestion = true) :
    (store.run operations first).1 = (store.run operations second).1 := by
  induction operations with
  | nil => rfl
  | cons operation rest inductionHypothesis =>
      obtain ⟨question, others⟩ := List.forall_mem_cons.mp questions
      have silent := asks.perform question
      rw [run_cons, run_cons, silent first, silent second, alike.perform question,
        inductionHypothesis others]

theorem fst_map_ne_done {wrap : Result → Answer} (differs : ∀ result, wrap result ≠ .done)
    (action : Action State Result) (state : State) :
    ((wrap <$> action) state).1 ≠ .ok .done := by
  rw [Action.map_eq]
  cases (action state).1 with
  | error => nofun
  | ok result => exact fun done => differs result (Except.ok.inj done)

theorem perform_ne_done (question : operation.isQuestion = true) (state : State) :
    (store.perform operation state).1 ≠ .ok .done := by
  cases operation with
  | updateTag | removeTag | updateFile | removeFile => cases question
  | file | fileAt | allFiles | tags | addedAt | listing | matching =>
      apply fst_map_ne_done
      exact fun _ => nofun

theorem silent_query (ask : State → Except Error Result) : (query ask).Silent :=
  fun _ => rfl

theorem silent_listingFrom {addedAt : Uuid → Action State (Option Instant)}
    (silent : ∀ id, (addedAt id).Silent) (files : List File) :
    (listingFrom addedAt files).Silent := by
  induction files with
  | nil => exact Action.silent_pure _
  | cons file rest inductionHypothesis =>
      exact (silent file.id).bind fun _ =>
        inductionHypothesis.bind fun _ => Action.silent_pure _

theorem silent_matchingFrom {tags : File → Action State (List Tag)}
    (silent : ∀ file, (tags file).Silent) (filter : Filter) (files : List File) :
    (matchingFrom tags filter files).Silent := by
  induction files with
  | nil => exact Action.silent_pure _
  | cons file rest inductionHypothesis =>
      exact (silent file).bind fun _ => inductionHypothesis.bind fun _ => Action.silent_pure _

end Store

theorem Memory.asksSilently : Memory.store.AsksSilently where
  file _ := Store.silent_query _
  fileAt _ := Store.silent_query _
  allFiles := Store.silent_query _
  tags _ := Store.silent_query _
  addedAt _ := Store.silent_query _
  listing := (Store.silent_query _).bind (Store.silent_listingFrom fun _ => Store.silent_query _)
  matching filter := (Store.silent_query _).bind
    (Store.silent_matchingFrom (fun _ => Store.silent_query _) filter)
  announce _ _ := rfl

theorem OnDisk.asksSilently (path : String) : (OnDisk.store path).AsksSilently where
  file _ := Store.silent_query _
  fileAt _ := Store.silent_query _
  allFiles := Store.silent_query _
  tags _ := Store.silent_query _
  addedAt _ := Store.silent_query _
  listing := Store.silent_query _
  matching _ := Store.silent_query _
  announce _ _ := rfl

theorem OnDisk.alike_of_load {path : String} {disk altered : Disk}
    (same : load path altered = load path disk) : (OnDisk.store path).Alike altered disk := by
  have query {Result : Type} (ask : Database → Except Error Result) :
      (OnDisk.query path ask altered).1 = (OnDisk.query path ask disk).1 := by
    rw [OnDisk.query, Store.query, same]
    rfl
  exact ⟨fun _ => query _, fun _ => query _, query _, fun _ => query _, fun _ => query _, query _,
    fun _ => query _⟩

end TagCatalog

import TagCatalog.Store

/-!
# Operations of stores

An `Operation` is one call of a store and an `Answer` what it gives; `run` makes
calls one after the other, whether or not they fail.  A walk over files asks one
question about each, which leaves the state as it is.
-/

namespace TagCatalog

namespace Action

variable {Failure State First Second : Type} {state after : State}

theorem bind_of_ok {first : ExceptT Failure (StateM State) First}
    {next : First → ExceptT Failure (StateM State) Second} {result : First}
    (done : first state = (.ok result, after)) : (first >>= next) state = next result after := by
  simp only [bind, ExceptT.bind, ExceptT.mk, StateT.bind, done, ExceptT.bindCont]

theorem bind_of_error {first : ExceptT Failure (StateM State) First}
    {next : First → ExceptT Failure (StateM State) Second} {failure : Failure}
    (failed : first state = (.error failure, after)) :
    (first >>= next) state = (.error failure, after) := by
  simp only [bind, ExceptT.bind, ExceptT.mk, StateT.bind, failed, ExceptT.bindCont]
  rfl

theorem exists_of_bind_eq_ok {first : ExceptT Failure (StateM State) First}
    {next : First → ExceptT Failure (StateM State) Second} {result : Second}
    (done : (first >>= next) state = (.ok result, after)) :
    ∃ between middle, first state = (.ok between, middle) ∧
      next between middle = (.ok result, after) := by
  simp only [bind, ExceptT.bind, ExceptT.mk, StateT.bind] at done
  cases step : first state with
  | mk outcome middle =>
      rw [step] at done
      cases outcome with
      | error => cases done
      | ok between => exact ⟨between, middle, rfl, done⟩

theorem exists_of_except_bind_eq_ok {first : Except Failure First}
    {next : First → Except Failure Second} {result : Second}
    (done : first.bind next = .ok result) :
    ∃ between, first = .ok between ∧ next between = .ok result := by
  cases first with
  | error => cases done
  | ok between => exact ⟨between, rfl, done⟩

theorem of_bind_eq_error {first : ExceptT Failure (StateM State) First}
    {next : First → ExceptT Failure (StateM State) Second} {failure : Failure}
    (failed : (first >>= next) state = (.error failure, after)) :
    first state = (.error failure, after) ∨
      ∃ between middle, first state = (.ok between, middle) ∧
        next between middle = (.error failure, after) := by
  simp only [bind, ExceptT.bind, ExceptT.mk, StateT.bind] at failed
  cases step : first state with
  | mk outcome middle =>
      rw [step] at failed
      cases outcome with
      | error =>
          cases failed
          exact .inl rfl
      | ok between => exact .inr ⟨between, middle, rfl, failed⟩

theorem map_eq (change : First → Second) (first : ExceptT Failure (StateM State) First)
    (state : State) : (change <$> first) state = ((first state).1.map change, (first state).2) := by
  simp only [Functor.map, ExceptT.map, ExceptT.mk, StateT.bind, bind]
  cases first state with
  | mk outcome middle => cases outcome <;> rfl

theorem map_of_error {change : First → Second}
    {first : ExceptT Failure (StateM State) First} {failure : Failure}
    (failed : first state = (.error failure, after)) :
    (change <$> first) state = (.error failure, after) := by
  rw [map_eq, failed]
  rfl

theorem eq_error_of_map {change : First → Second}
    {first : ExceptT Failure (StateM State) First} {failure : Failure}
    (failed : (change <$> first) state = (.error failure, after)) :
    first state = (.error failure, after) := by
  rw [map_eq] at failed
  cases step : first state with
  | mk outcome middle =>
      rw [step] at failed
      cases outcome with
      | ok => cases failed
      | error =>
          cases failed
          rfl

end Action

namespace Store

variable {State : Type} {state after : State}

inductive Operation where
  | file (id : Uuid)
  | fileAt (path : String)
  | allFiles
  | tags (file : File)
  | updateTag (id : Uuid) (tag : Tag)
  | removeTag (id : Uuid) (name : String)
  /-- With the time at which the file is registered if it is new. -/
  | updateFile (now : Instant) (file : File) (tags : List Tag)
  | removeFile (id : Uuid)
  | addedAt (id : Uuid)
  | listing
  | matching (filter : Filter)

/-- What a call gives. -/
inductive Answer where
  | done
  | file (file : File)
  | files (files : List File)
  | tags (tags : List Tag)
  | time (time : Option Instant)
  | listing (files : List ListedFile)
deriving DecidableEq

def perform (store : Store State) : Operation → Action State Answer
  | .file id => .file <$> store.file id
  | .fileAt path => .file <$> store.fileAt path
  | .allFiles => .files <$> store.allFiles
  | .tags file => .tags <$> store.tags file
  | .updateTag id tag => (fun _ => .done) <$> store.updateTag id tag
  | .removeTag id name => (fun _ => .done) <$> store.removeTag id name
  | .updateFile now file tags => (fun _ => .done) <$> store.updateFile now file tags
  | .removeFile id => (fun _ => .done) <$> store.removeFile id
  | .addedAt id => .time <$> store.addedAt id
  | .listing => .listing <$> store.listing
  | .matching filter => .files <$> store.matching filter

def run (store : Store State) : List Operation → State → List (Except Error Answer) × State
  | [], state => ([], state)
  | operation :: rest, state =>
      let (outcome, next) := store.perform operation state
      let (outcomes, last) := store.run rest next
      (outcome :: outcomes, last)

theorem run_cons (store : Store State) (operation : Operation) (rest : List Operation)
    (state : State) : store.run (operation :: rest) state =
      ((store.perform operation state).1 :: (store.run rest (store.perform operation state).2).1,
        (store.run rest (store.perform operation state).2).2) := rfl

theorem listingFrom_eq {addedAt : Uuid → Action State (Option Instant)} {files : List File}
    {time : File → Option Instant}
    (answers : ∀ file ∈ files, addedAt file.id state = (.ok (time file), state)) :
    listingFrom addedAt files state = (.ok (files.map fun file => ⟨file, time file⟩), state) := by
  induction files with
  | nil => rfl
  | cons file rest inductionHypothesis =>
      obtain ⟨first, others⟩ := List.forall_mem_cons.mp answers
      rw [listingFrom, Action.bind_of_ok first, Action.bind_of_ok (inductionHypothesis others)]
      rfl

theorem matchingFrom_eq {tags : File → Action State (List Tag)} {files : List File}
    {carried : File → List Tag} (filter : Filter)
    (answers : ∀ file ∈ files, tags file state = (.ok (carried file), state)) :
    matchingFrom tags filter files state =
      (.ok (files.filter fun file => filter.accepts (carried file)), state) := by
  induction files with
  | nil => rfl
  | cons file rest inductionHypothesis =>
      obtain ⟨first, others⟩ := List.forall_mem_cons.mp answers
      rw [matchingFrom, Action.bind_of_ok first, Action.bind_of_ok (inductionHypothesis others),
        List.filter_cons]
      rfl

end Store

end TagCatalog

import TagCatalog.Instant
import TagCatalog.Proofs.Store.Action
import TagCatalog.Store.Memory

/-!
# Tags fetched for matching

The provided matching fetches the tags of one file after the other.  `recording` adds to a
store the list of the files whose tags have been fetched, and takes nothing else of it than
the required operations.  So what matching gives, and which fetches it makes, is said
together (`Walks`): those for all files, or those up to the first that fails.
-/

namespace TagCatalog.Store

variable {State Result : Type} {state middle after listed : State}
  {tags : File → Action State (List Tag)} {filter : Filter} {files front asked : List File}
  {carried : List (List Tag)} {file : File} {error : Error}

/-- An operation that adds some files to those whose tags have been fetched. -/
def recorded (fetched : List File) (action : Action State Result) :
    Action (State × List File) Result := fun (state, asked) =>
  ((action state).1, ((action state).2, asked ++ fetched))

/-- The store with the required operations of another one, which records the files whose
tags are fetched.  The other operations are the provided ones. -/
def recording (store : Store State) : Store (State × List File) where
  file id := recorded [] (store.file id)
  fileAt path := recorded [] (store.fileAt path)
  allFiles := recorded [] store.allFiles
  tags file := recorded [file] (store.tags file)
  updateTag id tag := recorded [] (store.updateTag id tag)
  removeTag id name := recorded [] (store.removeTag id name)
  updateFile now file tags := recorded [] (store.updateFile now file tags)
  removeFile id := recorded [] (store.removeFile id)

/-- The tags that are fetched for some files, one after the other, if no fetch fails. -/
inductive Fetched (tags : File → Action State (List Tag)) :
    State → List File → List (List Tag) → State → Prop where
  | nil {state : State} : Fetched tags state [] [] state
  | cons {state middle after : State} {file : File} {rest : List File} {found : List Tag}
      {others : List (List Tag)} : tags file state = (.ok found, middle) →
      Fetched tags middle rest others after →
      Fetched tags state (file :: rest) (found :: others) after

/-- The files whose tags are accepted, in their order and as often as they come. -/
def acceptedFiles (filter : Filter) (files : List File) (carried : List (List Tag)) : List File :=
  ((files.zip carried).filter fun entry => filter.accepts entry.2).map Prod.fst

/-- What a walk over some files comes to, and the files whose tags it fetches: all of them,
or those up to the first fetch that fails. -/
inductive Walks (tags : File → Action State (List Tag)) (filter : Filter) (state : State)
    (files : List File) : Except Error (List File) → List File → State → Prop where
  | all {carried : List (List Tag)} {after : State} : Fetched tags state files carried after →
      Walks tags filter state files (.ok (acceptedFiles filter files carried)) files after
  | stopped {front behind : List File} {file : File} {carried : List (List Tag)}
      {middle after : State} {error : Error} : files = front ++ file :: behind →
      Fetched tags state front carried middle → tags file middle = (.error error, after) →
      Walks tags filter state files (.error error) (front ++ [file]) after

theorem matchingFrom_of_fetched (fetched : Fetched tags state files carried after) :
    matchingFrom tags filter files state = (.ok (acceptedFiles filter files carried), after) := by
  induction fetched with
  | nil => rfl
  | @cons _ _ _ file rest found others first _ inductionHypothesis =>
      rw [matchingFrom, Action.bind_of_ok first, Action.bind_of_ok inductionHypothesis]
      simp only [acceptedFiles, List.zip_cons_cons, List.filter_cons]
      split <;> rfl

/-- The first fetch that fails ends the walk. -/
theorem matchingFrom_of_error (fetched : Fetched tags state front carried middle)
    (failed : tags file middle = (.error error, after)) (behind : List File) :
    matchingFrom tags filter (front ++ file :: behind) state = (.error error, after) := by
  induction fetched with
  | nil => rw [List.nil_append, matchingFrom, Action.bind_of_error failed]
  | cons first _ inductionHypothesis =>
      rw [List.cons_append, matchingFrom, Action.bind_of_ok first,
        Action.bind_of_error (inductionHypothesis failed)]

theorem exists_walks (tags : File → Action State (List Tag)) (filter : Filter) (state : State)
    (files : List File) :
    ∃ outcome asked after, Walks tags filter state files outcome asked after := by
  induction files generalizing state with
  | nil => exact ⟨_, _, _, .all .nil⟩
  | cons file rest inductionHypothesis =>
      cases step : tags file state with
      | mk outcome middle =>
          cases outcome with
          | error =>
              have split : file :: rest = [] ++ file :: rest := rfl
              exact ⟨_, _, _, .stopped split .nil step⟩
          | ok found =>
              obtain ⟨_, _, _, walks⟩ := inductionHypothesis middle
              cases walks with
              | all fetched => exact ⟨_, _, _, .all (.cons step fetched)⟩
              | stopped split fetched failed =>
                  have split := congrArg (List.cons file) split
                  rw [← List.cons_append] at split
                  exact ⟨_, _, _, .stopped split (.cons step fetched) failed⟩

theorem recorded_eq {fetched : List File} {action : Action State Result}
    {outcome : Except Error Result} (step : action state = (outcome, after)) (asked : List File) :
    recorded fetched action (state, asked) = (outcome, (after, asked ++ fetched)) := by
  rw [recorded, step]

theorem Fetched.recording {store : Store State}
    (fetched : Fetched store.tags state files carried after) (asked : List File) :
    Fetched store.recording.tags (state, asked) files carried (after, asked ++ files) := by
  induction fetched generalizing asked with
  | nil => simpa using Fetched.nil
  | @cons _ _ _ file rest _ _ first _ inductionHypothesis =>
      have others := inductionHypothesis (asked ++ [file])
      rw [List.append_assoc, List.singleton_append] at others
      exact .cons (recorded_eq first asked) others

theorem Walks.matchingFrom_eq {store : Store State} {outcome : Except Error (List File)}
    (walks : Walks store.tags filter state files outcome asked after) :
    matchingFrom store.recording.tags filter files (state, []) = (outcome, (after, asked)) := by
  cases walks with
  | all fetched => exact matchingFrom_of_fetched (fetched.recording [])
  | @stopped front _ file _ _ _ _ split fetched failed =>
      rw [split]
      exact matchingFrom_of_error (fetched.recording []) (recorded_eq failed front) _

/-- Records are no matter for the walk. -/
theorem matchingFrom_recording (store : Store State) (filter : Filter) (files : List File)
    (state : State) (asked : List File) :
    matchingFrom store.tags filter files state =
      ((matchingFrom store.recording.tags filter files (state, asked)).1,
        (matchingFrom store.recording.tags filter files (state, asked)).2.1) := by
  obtain ⟨outcome, fetched, after, walks⟩ := exists_walks store.tags filter state files
  cases walks with
  | all fetched =>
      rw [matchingFrom_of_fetched fetched, matchingFrom_of_fetched (fetched.recording asked)]
  | stopped split fetched failed =>
      rw [split, matchingFrom_of_error fetched failed,
        matchingFrom_of_error (fetched.recording asked) (recorded_eq failed _)]

section Provided

variable (store : Store State) (filter : Filter) (state : State)

/-- The provided matching walks over all files, in their order, whatever the store and the
filter are.  If no fetch fails, it gives all files whose tags are accepted, in that order
and as often as they come, behind one fetch for each.  If a fetch fails, the first that
fails is the last that is made, and its error is all that matching gives.  No tags are
fetched if the files are not given.  What is recorded makes no difference to that. -/
theorem matching_iff_walks :
    (∀ files listed, store.allFiles state = (.ok files, listed) → ∀ outcome asked after,
      store.recording.matching filter (state, []) = (outcome, (after, asked)) ↔
        Walks store.tags filter listed files outcome asked after) ∧
    (∀ error after, store.allFiles state = (.error error, after) →
      store.recording.matching filter (state, []) = (.error error, (after, []))) ∧
    matchingOf store.allFiles store.tags filter state =
      ((store.recording.matching filter (state, [])).1,
        (store.recording.matching filter (state, [])).2.1) := by
  have provided : store.recording.matching filter =
      matchingOf store.recording.allFiles store.recording.tags filter := rfl
  have given {outcome : Except Error (List File)} {listed : State}
      (all : store.allFiles state = (outcome, listed)) :
      store.recording.allFiles (state, []) = (outcome, (listed, [])) := recorded_eq all []
  have noFiles {error : Error} {after : State}
      (failed : store.allFiles state = (.error error, after)) :
      store.recording.matching filter (state, []) = (.error error, (after, [])) := by
    rw [provided, matchingOf, Action.bind_of_error (given failed)]
  refine ⟨?_, fun _ _ => noFiles, ?_⟩
  · intro files listed all outcome asked after
    rw [provided, matchingOf, Action.bind_of_ok (given all)]
    constructor
    · intro matched
      obtain ⟨_, _, _, walks⟩ := exists_walks store.tags filter listed files
      rw [walks.matchingFrom_eq] at matched
      cases matched
      exact walks
    · exact Walks.matchingFrom_eq
  · cases all : store.allFiles state with
    | mk outcome listed =>
        cases outcome with
        | error => rw [noFiles all, matchingOf, Action.bind_of_error all]
        | ok files =>
            rw [provided, matchingOf, matchingOf, Action.bind_of_ok all,
              Action.bind_of_ok (given all)]
            exact matchingFrom_recording store filter files listed []

end Provided

section Unreadable

/-- A store in memory whose tags cannot be read for one path. -/
def unreadable (path : String) : Store Memory :=
  { Memory.store with
    tags := fun file =>
      if file.path = path then throw (.store (.other "tag table unreadable"))
      else Memory.store.tags file }

def threeFiles (first second third : File) : Memory :=
  let record (file : File) : Uuid × Memory.Record :=
    (file.id, ⟨file.path, Instant.epoch, Table.ofList [("x", ⟨"x", none, by decide⟩)]⟩)
  ⟨Table.ofList [record first, record second, record third]⟩

/-- The first file is accepted and the second cannot be read: nothing but the error is
given, and the third is not asked about. -/
theorem matching_unreadable :
    let first : File := ⟨⟨1, by decide⟩, "/a"⟩
    let second : File := ⟨⟨2, by decide⟩, "/b"⟩
    let third : File := ⟨⟨3, by decide⟩, "/c"⟩
    let memory := threeFiles first second third
    (unreadable "/b").allFiles memory = (.ok [first, second, third], memory) ∧
      (unreadable "/b").recording.matching (.present "x") (memory, []) =
        (.error (.store (.other "tag table unreadable")), (memory, [first, second])) := by
  intro first second third memory
  have listed : memory.allFiles = [first, second, third] :=
    List.mergeSort_of_pairwise (by decide +kernel)
  have all : (unreadable "/b").allFiles memory = (.ok [first, second, third], memory) := by
    rw [← listed]
    rfl
  have fetched : Fetched (unreadable "/b").tags memory [first] [[⟨"x", none, by decide⟩]] memory :=
    .cons rfl .nil
  have split : [first, second, third] = [first] ++ second :: [third] := rfl
  refine ⟨all, ?_⟩
  exact ((matching_iff_walks _ (.present "x") _).1 _ _ all _ _ _).mpr (.stopped split fetched rfl)

end Unreadable

end TagCatalog.Store

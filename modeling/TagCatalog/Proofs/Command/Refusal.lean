import TagCatalog.Proofs.Command.Exactness

/-!
# How a command can fail on a file that it has found

Once a selector names a file, a command is refused for its other arguments, for a tag that
the file does not have, or for another file at the new place; or its change cannot be saved.
Nothing is amiss with the selector any more: no file is unknown and no identifier is wrong.
-/

namespace TagCatalog

namespace Database

variable {database : Database} {id : Uuid} {record : Record}

theorem name_ne_of_contains_eq_false {labels : List Label} {name : String}
    (lacks : (tagTable labels).contains name = false) :
    ∀ tag ∈ (tagTable labels).values, tag.name ≠ name := by
  rintro tag membership rfl
  obtain ⟨entry, inTable, rfl⟩ := List.mem_map.mp membership
  have present := Table.mem_entries_iff.mp inTable
  rw [← keyed_ofList _ _ inTable] at present
  rw [Table.contains, present] at lacks
  cases lacks

theorem Consistent.removeTag_eq_error_of_get? (consistent : database.Consistent) {name : String}
    {error : Error} (present : database.records.get? id = some record)
    (refused : database.removeTag id name = .error error) :
    error = .unknownTag name ∧ ∀ tag ∈ (tagTable record.labels).values, tag.name ≠ name := by
  have isRecord := record_eq_ok_iff.mpr present
  simp only [Database.removeTag, isRecord, bind, Except.bind] at refused
  split at refused
  next => cases refused
  next lacks =>
    cases refused
    rw [← contains_tagTable (consistent.named present)] at lacks
    exact ⟨rfl, name_ne_of_contains_eq_false (Bool.eq_false_iff.mpr lacks)⟩

/-- A file is moved unless another one is at its new place. -/
theorem exists_of_updateFile_eq_error {now : Instant} {file : File} {tags : List Tag}
    {error : Error} (refused : database.updateFile now file tags = .error error) :
    ∃ owner, database.fileAt file.path = .ok ⟨owner, file.path⟩ ∧ owner ≠ file.id ∧
      error = .pathInUse file.path owner := by
  unfold updateFile at refused
  split at refused
  next owner rival =>
    cases refused
    obtain ⟨owned, differs⟩ := Option.filter_eq_some_iff.mp rival
    exact ⟨owner, by rw [Database.fileAt, owned], by simpa using differs, rfl⟩
  next => cases refused

end Database

namespace Command

open Store

variable {State Result : Type} {store : Store State} {state after : State} {database : Database}
  {selector : String} {file : File} {error : Error}

/-- The change that a command makes of the file that its selector names. -/
inductive Makes (store : Store State) (state : State) (file : File) : Call → Operation → Prop where
  | remove {selector : String} : Makes store state file (.remove selector) (.removeFile file.id)
  | move {now : Instant} {selector path : String} {tags : List Tag} :
      (store.tags file state).1 = .ok tags →
      Makes store state file (.move now selector path) (.updateFile now { file with path } tags)
  | set {selector name : String} {value : Option String} {tag : Tag} :
      parseTag name value = .ok tag →
      Makes store state file (.set selector name value) (.updateTag file.id tag)
  | unset {selector name : String} :
      Makes store state file (.unset selector name) (.removeTag file.id name)

/-- The errors of a command on the file that its selector names. -/
inductive FailsOn (store : Store State) (state : State) (file : File) : Call → Error → Prop where
  | invalidTag {selector name : String} {value : Option String} {error : Error} :
      parseTag name value = .error error →
      FailsOn store state file (.set selector name value) error
  | emptyTagName {selector : String} :
      FailsOn store state file (.unset selector "") .emptyTagName
  | unknownTag {selector name : String} {tags : List Tag} :
      (store.tags file state).1 = .ok tags → (∀ tag ∈ tags, tag.name ≠ name) →
      FailsOn store state file (.unset selector name) (.unknownTag name)
  | emptyPath {now : Instant} {selector : String} :
      FailsOn store state file (.move now selector "") (.request .emptyNewPath)
  | pathInUse {now : Instant} {selector path : String} {owner : Uuid} :
      (store.fileAt path state).1 = .ok ⟨owner, path⟩ → owner ≠ file.id →
      FailsOn store state file (.move now selector path) (.pathInUse path owner)
  | unsaved {call : Call} {operation : Operation} {fault : Disk.Fault} :
      Makes store state file call operation →
      (store.perform operation state).1 = .error (.disk fault) →
      FailsOn store state file call (.disk fault)

/-- How a command stops on the file that its selector names: before it changes anything, or
with its change. -/
inductive Stops (store : Store State) (state : State) (file : File) (call : Call) (error : Error)
    (after : State) : Prop where
  | before : FailsOn store state file call error → Stops store state file call error after
  | within {operation : Operation} : Makes store state file call operation →
      store.perform operation state = (.error error, after) →
      Stops store state file call error after

theorem Makes.isQuestion {call : Call} {operation : Operation}
    (makes : Makes store state file call operation) : operation.isQuestion = false := by
  cases makes <;> rfl

theorem failsOn_of_makes (follows : store.Follows state database)
    (membership : file ∈ database.allFiles) {call : Call} {operation : Operation}
    (makes : Makes store state file call operation)
    (failed : store.perform operation state = (.error error, after)) :
    FailsOn store state file call error := by
  have reflects := follows.reflects
  have consistent := follows.consistent
  obtain ⟨record, present, -⟩ := Database.mem_allFiles_iff.mp membership
  have obeys := follows.obeys operation makes.isQuestion
  rw [failed] at obeys
  cases obeys with
  | falters => exact .unsaved makes (congrArg Prod.fst failed)
  | refuses refused =>
      cases makes with
      | remove =>
          have there : database.records.contains file.id = true := by
            rw [Table.contains, present]
            rfl
          change database.removeFile file.id = _ at refused
          rw [Database.removeFile, if_pos there] at refused
          cases refused
      | move =>
          obtain ⟨owner, found, differs, rfl⟩ := Database.exists_of_updateFile_eq_error refused
          exact .pathInUse ((reflects.fileAt _).trans found) differs
      | set =>
          change database.updateTag file.id _ = _ at refused
          rw [Database.updateTag, Database.record_eq_ok_iff.mpr present] at refused
          cases refused
      | unset =>
          obtain ⟨rfl, lacks⟩ := consistent.removeTag_eq_error_of_get? present refused
          exact .unknownTag ((reflects.tags file).trans (consistent.tags_of_get? present)) lacks

theorem failed_of_change_bind {operation : Operation} {change : Action State Unit}
    {next : Unit → Action State Result} {expected : Result}
    (same : store.perform operation = (fun _ => .done) <$> change)
    (last : ∀ state, next () state = (.ok expected, state))
    (failed : (change >>= next) state = (.error error, after)) :
    store.perform operation state = (.error error, after) := by
  rcases Action.of_bind_eq_error failed with failed | ⟨_, middle, -, failed⟩
  · rw [same]
    exact Action.map_of_error failed
  · rw [last] at failed
    cases failed

theorem exists_selector_of_resolves (asks : store.AsksSilently)
    (resolved : (resolveText store selector state).1 = .ok file) :
    resolveText store selector state = (.ok file, state) ∧
      ∃ selected, Selector.ofText selector = .ok selected ∧
        resolve store selected state = (.ok file, state) := by
  have asked := (silent_resolveText asks selector).eq state
  rw [resolved] at asked
  cases isSelector : Selector.ofText selector with
  | error =>
      have failed : (resolveText store selector state).1 = .error _ :=
        congrArg Prod.fst (Action.bind_of_error (ofExcept_of_error isSelector state))
      rw [failed] at resolved
      cases resolved
  | ok selected =>
      exact ⟨asked, selected, rfl, (resolveText_of_ofText isSelector state).symm.trans asked⟩

theorem stops_of_remove (asked : resolveText store selector state = (.ok file, state))
    (failed : remove store selector state = (.error error, after)) :
    Stops store state file (.remove selector) error after := by
  rw [remove, Action.bind_of_ok asked] at failed
  exact .within .remove (failed_of_change_bind rfl (fun _ => rfl) failed)

theorem stops_of_unset (asks : store.AsksSilently) {name : String}
    (asked : resolveText store selector state = (.ok file, state))
    (failed : unset store selector name state = (.error error, after)) :
    Stops store state file (.unset selector name) error after := by
  rw [unset, Action.bind_of_ok asked] at failed
  split at failed
  next isEmpty =>
    cases failed
    cases String.isEmpty_iff.mp isEmpty
    exact .before .emptyTagName
  next => exact .within .unset (failed_of_change_bind rfl (announce_bind asks _ _) failed)

theorem stops_of_set (asks : store.AsksSilently) {selected : Selector} {name : String}
    {value : Option String} (isSelector : Selector.ofText selector = .ok selected)
    (found : resolve store selected state = (.ok file, state))
    (failed : set store selector name value state = (.error error, after)) :
    Stops store state file (.set selector name value) error after := by
  rw [set, Action.bind_of_ok (ofExcept_of_ok isSelector state)] at failed
  cases parsed : parseTag name value with
  | error =>
      rw [parsed] at failed
      cases failed
      exact .before (.invalidTag parsed)
  | ok tag =>
      rw [Action.bind_of_ok (ofExcept_of_ok parsed state), Action.bind_of_ok found] at failed
      exact .within (.set parsed) (failed_of_change_bind rfl (announce_bind asks _ _) failed)

theorem stops_of_move (asks : store.AsksSilently) {now : Instant} {selected : Selector}
    {path : String} {tags : List Tag} (isSelector : Selector.ofText selector = .ok selected)
    (found : resolve store selected state = (.ok file, state))
    (carried : (store.tags file state).1 = .ok tags)
    (failed : move store now selector path state = (.error error, after)) :
    Stops store state file (.move now selector path) error after := by
  rw [move, Action.bind_of_ok (ofExcept_of_ok isSelector state)] at failed
  split at failed
  next isEmpty =>
    cases failed
    cases String.isEmpty_iff.mp isEmpty
    exact .before .emptyPath
  next =>
    change (resolve store selected >>= _) state = _ at failed
    rw [Action.bind_of_ok found] at failed
    split at failed
    next => cases failed
    next =>
      have fetched := (asks.tags file).eq state
      rw [carried] at fetched
      rw [moveFile, Action.bind_of_ok fetched] at failed
      exact .within (.move carried) (failed_of_change_bind rfl (announce_bind asks _ _) failed)

/-- The commands that take a selector. -/
inductive Selecting : (String → Call) → Prop where
  | tags : Selecting .tags
  | set (name : String) (value : Option String) :
      Selecting fun selector => .set selector name value
  | unset (name : String) : Selecting fun selector => .unset selector name
  | move (now : Instant) (path : String) : Selecting fun selector => .move now selector path
  | remove : Selecting .remove

theorem failsOn_of_perform (follows : store.Follows state database)
    (resolved : (resolveText store selector state).1 = .ok file) {act : String → Call}
    (selecting : Selecting act)
    (failed : ((act selector).perform store state).1 = .error error) :
    FailsOn store state file (act selector) error := by
  have reflects := follows.reflects
  have asks := reflects.asks
  have consistent := follows.consistent
  obtain ⟨record, selects, samePath⟩ := (resolveText_eq_ok_iff reflects consistent).mp resolved
  obtain ⟨kept, present, rfl⟩ := Database.get?_toMemory_eq_some_iff.mp selects.1
  have carried := (reflects.tags file).trans (consistent.tags_of_get? present)
  obtain ⟨asked, selected, isSelector, found⟩ := exists_selector_of_resolves asks resolved
  obtain ⟨after, failed⟩ : ∃ after, (act selector).perform store state = (.error error, after) :=
    ⟨_, Prod.ext failed rfl⟩
  have stops : Stops store state file (act selector) error after := by
    cases selecting with
    | tags =>
        rw [Call.perform, Action.map_eq, tags_apply reflects consistent selects samePath] at failed
        cases failed
    | remove => exact stops_of_remove asked (Action.eq_error_of_map failed)
    | unset => exact stops_of_unset asks asked (Action.eq_error_of_map failed)
    | set => exact stops_of_set asks isSelector found (Action.eq_error_of_map failed)
    | move => exact stops_of_move asks isSelector found carried (Action.eq_error_of_map failed)
  cases stops with
  | before fails => exact fails
  | within makes unmade =>
      have membership := Database.mem_allFiles_iff.mpr ⟨kept, present, samePath⟩
      exact failsOn_of_makes follows membership makes unmade

end Command

end TagCatalog

import TagCatalog.Proofs.Command.Call
import TagCatalog.Store.Journal

/-!
# Commands with a journal

A journaled store does to the disk what the store without a journal does, and gives the same.
So every command on it gives the same and leaves the same disk behind, whatever it notes
(`Command.journals_perform`).
-/

namespace TagCatalog

variable {First Second Result : Type} {path : String}

namespace Action

/-- Whether an operation on workspaces gives, and does to the disk, what an operation on disks
does. -/
def Journals (journaled : Action Workspace Result) (silent : Action Disk Result) : Prop :=
  ∀ workspace, silent workspace.disk = ((journaled workspace).1, (journaled workspace).2.disk)

namespace Journals

theorem pure (result : Result) :
    Journals (Pure.pure result : Action Workspace Result) (Pure.pure result) :=
  fun _ => rfl

theorem throw (error : Error) :
    Journals (MonadExcept.throw error : Action Workspace Result) (MonadExcept.throw error) :=
  fun _ => rfl

theorem bind {first : Action Workspace First} {silent : Action Disk First}
    {next : First → Action Workspace Second} {silentNext : First → Action Disk Second}
    (journals : Journals first silent)
    (nextJournals : ∀ result, Journals (next result) (silentNext result)) :
    Journals (first >>= next) (silent >>= silentNext) := by
  intro workspace
  have silentStep := journals workspace
  cases step : first workspace with
  | mk outcome after =>
      rw [step] at silentStep
      cases outcome with
      | error error => rw [bind_of_error step, bind_of_error silentStep]
      | ok result =>
          rw [bind_of_ok step, bind_of_ok silentStep]
          exact nextJournals result after

theorem map {first : Action Workspace First} {silent : Action Disk First}
    (journals : Journals first silent) (change : First → Second) :
    Journals (change <$> first) (change <$> silent) := by
  intro workspace
  rw [map_eq, map_eq, journals workspace]

theorem tryCatch {action : Action Workspace Result} {silent : Action Disk Result}
    {handle : Error → Action Workspace Result} {silentHandle : Error → Action Disk Result}
    (journals : Journals action silent)
    (handleJournals : ∀ error, Journals (handle error) (silentHandle error)) :
    Journals (MonadExcept.tryCatch action handle) (MonadExcept.tryCatch silent silentHandle) := by
  intro workspace
  rw [tryCatch_apply, tryCatch_apply, journals workspace]
  cases action workspace with
  | mk outcome after =>
      cases outcome with
      | ok => rfl
      | error error => exact handleJournals error after

end Journals

end Action

theorem Workspace.journals_noting (path : String) (operation : Action Disk Result)
    (events : Result → List Log.Event) : (noting path operation events).Journals operation := by
  intro workspace
  simp only [noting]
  cases operation workspace.disk with
  | mk outcome disk => cases outcome <;> rfl

namespace Command

open TagCatalog.Action Workspace

theorem journals_announce (path : String) (event : Log.Event) :
    ((Workspace.store path).announce event).Journals ((OnDisk.store path).announce event) :=
  fun _ => rfl

theorem journals_matching (path : String) (filter : Filter) :
    ((Workspace.store path).matching filter).Journals ((OnDisk.store path).matching filter) :=
  fun workspace => journals_noting path _ _ workspace

theorem journals_ofExcept (outcome : Except Error Result) :
    (ofExcept outcome : Action Workspace Result).Journals (ofExcept outcome) :=
  fun _ => rfl

theorem journals_resolve (path : String) (selector : Selector) :
    (resolve (Workspace.store path) selector).Journals (resolve (OnDisk.store path) selector) := by
  cases selector <;> exact journals_noting path _ _

theorem journals_resolveText (path selector : String) :
    (resolveText (Workspace.store path) selector).Journals
      (resolveText (OnDisk.store path) selector) :=
  (journals_ofExcept _).bind fun _ => journals_resolve path _

theorem journals_registered? (path place : String) :
    (registered? (Workspace.store path) place).Journals
      (registered? (OnDisk.store path) place) := by
  apply Journals.tryCatch
  · exact (journals_noting path _ _).bind fun _ => .pure _
  · intro error
    split
    next => exact .pure _
    next => exact .pure _
    next => exact .throw _

theorem journals_add (path : String) (now : Instant) (fresh : Uuid) (place : String) :
    (add (Workspace.store path) now fresh place).Journals
      (add (OnDisk.store path) now fresh place) := by
  unfold add
  split
  next => exact .throw _
  next =>
    apply (journals_registered? path place).bind
    intro existing
    cases existing with
    | some => exact .pure _
    | none =>
        exact (journals_noting path _ _).bind fun _ =>
          (journals_announce path _).bind fun _ => .pure _

theorem journals_remove (path selector : String) :
    (remove (Workspace.store path) selector).Journals (remove (OnDisk.store path) selector) :=
  (journals_resolveText path selector).bind fun _ =>
    (journals_noting path _ _).bind fun _ => .pure _

theorem journals_move (path : String) (now : Instant) (selector place : String) :
    (move (Workspace.store path) now selector place).Journals
      (move (OnDisk.store path) now selector place) := by
  apply (journals_ofExcept _).bind
  intro selected
  split
  next => exact .throw _
  next =>
    apply (journals_resolve path selected).bind
    intro file
    split
    next => exact .pure _
    next =>
      exact (journals_noting path _ _).bind fun _ => (journals_noting path _ _).bind fun _ =>
        (journals_announce path _).bind fun _ => .pure _

theorem journals_set (path selector name : String) (value : Option String) :
    (set (Workspace.store path) selector name value).Journals
      (set (OnDisk.store path) selector name value) :=
  (journals_ofExcept _).bind fun _ => (journals_ofExcept _).bind fun _ =>
    (journals_resolve path _).bind fun _ => (journals_noting path _ _).bind fun _ =>
      (journals_announce path _).bind fun _ => .pure _

theorem journals_unset (path selector name : String) :
    (unset (Workspace.store path) selector name).Journals
      (unset (OnDisk.store path) selector name) := by
  apply (journals_resolveText path selector).bind
  intro file
  split
  next => exact .throw _
  next =>
    exact (journals_noting path _ _).bind fun _ => (journals_announce path _).bind fun _ => .pure _

theorem journals_tags (path selector : String) :
    (tags (Workspace.store path) selector).Journals (tags (OnDisk.store path) selector) :=
  (journals_resolveText path selector).bind fun _ =>
    (journals_noting path _ _).bind fun _ => .pure _

theorem journals_files (path : String) :
    (files (Workspace.store path)).Journals (files (OnDisk.store path)) :=
  (journals_noting path _ _).bind fun _ => .pure _

theorem journals_find (path text : String) :
    (find (Workspace.store path) text).Journals (find (OnDisk.store path) text) :=
  (journals_ofExcept _).bind fun filter =>
    (journals_announce path _).bind fun _ => journals_matching path filter

theorem journals_matchWords (path : String) (words : List String) (strict : Bool) :
    (matchWords (Workspace.store path) words strict).Journals
      (matchWords (OnDisk.store path) words strict) := by
  apply (journals_find path _).bind
  intro found
  split
  next => exact .throw _
  next => exact .pure _

/-- A call gives the same with a journal and without one, and leaves the same disk behind. -/
theorem journals_perform (path : String) (call : Call) :
    (call.perform (Workspace.store path)).Journals (call.perform (OnDisk.store path)) := by
  cases call with
  | add now fresh place => exact (journals_add path now fresh place).map _
  | remove selector => exact (journals_remove path selector).map _
  | move now selector place => exact (journals_move path now selector place).map _
  | set selector name value => exact (journals_set path selector name value).map _
  | unset selector name => exact (journals_unset path selector name).map _
  | tags selector => exact (journals_tags path selector).map _
  | files => exact (journals_files path).map _
  | matchWords words strict => exact (journals_matchWords path words strict).map _
  | find text => exact (journals_find path text).map _

end Command

end TagCatalog

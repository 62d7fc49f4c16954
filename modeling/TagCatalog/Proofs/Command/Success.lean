import TagCatalog.Proofs.Command.Call

/-!
# What commands have done when they succeed

A command that changes a catalog asks for a file first, and then makes one change of the
store, or none.  `Succeeds` says which, for each command, and which files it reports.
-/

namespace TagCatalog.Command

open Store

variable {State Result : Type} {store : Store State} {state after : State} {path : String}
  {file : File} {report : Report}

/-- What has been asked and changed when a command has succeeded. -/
inductive Succeeds (store : Store State) (state : State) : Call → Report → State → Prop where
  | known {now : Instant} {fresh : Uuid} {path : String} {file : File} {report : Report} :
      (store.fileAt path state).1 = .ok file → report.affected = [file] →
      Succeeds store state (.add now fresh path) report state
  | added {now : Instant} {fresh : Uuid} {path : String} {report : Report} {after : State} :
      (∀ file, (store.fileAt path state).1 ≠ .ok file) →
      store.perform (.updateFile now ⟨fresh, path⟩ []) state = (.ok .done, after) →
      report.affected = [⟨fresh, path⟩] →
      Succeeds store state (.add now fresh path) report after
  | removed {selector : String} {file : File} {report : Report} {after : State} :
      (resolveText store selector state).1 = .ok file →
      store.perform (.removeFile file.id) state = (.ok .done, after) → report.affected = [file] →
      Succeeds store state (.remove selector) report after
  | stayed {now : Instant} {selector path : String} {file : File} {report : Report} :
      (resolveText store selector state).1 = .ok file → file.path = path →
      report.affected = [file] → Succeeds store state (.move now selector path) report state
  | moved {now : Instant} {selector path : String} {file : File} {tags : List Tag}
      {report : Report} {after : State} :
      (resolveText store selector state).1 = .ok file → file.path ≠ path →
      (store.tags file state).1 = .ok tags →
      store.perform (.updateFile now { file with path } tags) state = (.ok .done, after) →
      report.affected = [{ file with path }] →
      Succeeds store state (.move now selector path) report after
  | set {selector name : String} {value : Option String} {file : File} {tag : Tag}
      {report : Report} {after : State} :
      (resolveText store selector state).1 = .ok file → parseTag name value = .ok tag →
      store.perform (.updateTag file.id tag) state = (.ok .done, after) →
      report.affected = [file] → report.tags = [tag] →
      Succeeds store state (.set selector name value) report after
  | unset {selector name : String} {file : File} {report : Report} {after : State} :
      (resolveText store selector state).1 = .ok file →
      store.perform (.removeTag file.id name) state = (.ok .done, after) →
      report.affected = [file] → Succeeds store state (.unset selector name) report after

theorem done_of_change_bind {operation : Operation} {change : Action State Unit}
    {next : Unit → Action State Result} {result expected : Result}
    (same : store.perform operation = (fun _ => .done) <$> change)
    (last : ∀ state, next () state = (.ok expected, state))
    (done : (change >>= next) state = (.ok result, after)) :
    store.perform operation state = (.ok .done, after) ∧ result = expected := by
  obtain ⟨_, middle, changed, rest⟩ := Action.exists_of_bind_eq_ok done
  rw [last] at rest
  cases rest
  rw [same, Action.map_eq, changed]
  exact ⟨rfl, rfl⟩

theorem registered?_eq_some_iff (asks : store.AsksSilently) :
    (registered? store path state).1 = .ok (some file) ↔
      (store.fileAt path state).1 = .ok file := by
  have step := (asks.fileAt path).eq state
  rw [registered?, Action.tryCatch_apply]
  cases found : (store.fileAt path state).1 with
  | ok other =>
      rw [found] at step
      rw [Action.bind_of_ok step]
      show Except.ok (some other) = _ ↔ _
      simp
  | error error =>
      rw [found] at step
      rw [Action.bind_of_error step]
      cases error <;> exact ⟨nofun, nofun⟩

theorem resolveText_of_ofText {selector : String} {selected : Selector}
    (isSelector : Selector.ofText selector = .ok selected) (state : State) :
    resolveText store selector state = resolve store selected state := by
  rw [resolveText, Action.bind_of_ok (ofExcept_of_ok isSelector state)]

theorem succeeds_add (asks : store.AsksSilently) {now : Instant} {fresh : Uuid}
    (done : add store now fresh path state = (.ok report, after)) :
    Succeeds store state (.add now fresh path) report after := by
  unfold add at done
  split at done
  next => cases done
  next =>
    obtain ⟨existing, asked, done⟩ :=
      Action.exists_of_silent_bind (silent_registered? asks path) done
    cases existing with
    | some file =>
        cases done
        exact .known ((registered?_eq_some_iff asks).mp asked) rfl
    | none =>
        have same : store.perform (.updateFile now ⟨fresh, path⟩ []) =
            (fun _ => .done) <$> store.updateFile now ⟨fresh, path⟩ [] := rfl
        obtain ⟨performed, rfl⟩ := done_of_change_bind same (announce_bind asks _ _) done
        refine .added ?_ performed rfl
        intro file found
        rw [(registered?_eq_some_iff asks).mpr found] at asked
        cases asked

theorem succeeds_remove (asks : store.AsksSilently) {selector : String}
    (done : remove store selector state = (.ok report, after)) :
    Succeeds store state (.remove selector) report after := by
  obtain ⟨file, resolved, done⟩ :=
    Action.exists_of_silent_bind (silent_resolveText asks selector) done
  have same : store.perform (.removeFile file.id) = (fun _ => .done) <$> store.removeFile file.id :=
    rfl
  obtain ⟨performed, rfl⟩ := done_of_change_bind same (fun _ => rfl) done
  exact .removed resolved performed rfl

theorem succeeds_move (asks : store.AsksSilently) {now : Instant} {selector : String}
    (done : move store now selector path state = (.ok report, after)) :
    Succeeds store state (.move now selector path) report after := by
  obtain ⟨selected, isSelector, done⟩ := Action.exists_of_silent_bind (silent_ofExcept _) done
  split at done
  next => cases done
  next =>
    obtain ⟨file, resolved, done⟩ :=
      Action.exists_of_silent_bind (silent_resolve asks selected) done
    rw [← resolveText_of_ofText isSelector] at resolved
    split at done
    next here =>
      cases done
      exact .stayed resolved here rfl
    next elsewhere =>
      obtain ⟨tags, carried, done⟩ := Action.exists_of_silent_bind (asks.tags file) done
      have same : store.perform (.updateFile now { file with path } tags) =
          (fun _ => .done) <$> store.updateFile now { file with path } tags := rfl
      obtain ⟨performed, rfl⟩ := done_of_change_bind same (announce_bind asks _ _) done
      exact .moved resolved elsewhere carried performed rfl

theorem succeeds_set (asks : store.AsksSilently) {selector name : String} {value : Option String}
    (done : set store selector name value state = (.ok report, after)) :
    Succeeds store state (.set selector name value) report after := by
  obtain ⟨selected, isSelector, done⟩ := Action.exists_of_silent_bind (silent_ofExcept _) done
  obtain ⟨tag, parsed, done⟩ := Action.exists_of_silent_bind (silent_ofExcept _) done
  obtain ⟨file, resolved, done⟩ := Action.exists_of_silent_bind (silent_resolve asks selected) done
  rw [← resolveText_of_ofText isSelector] at resolved
  have same : store.perform (.updateTag file.id tag) =
      (fun _ => .done) <$> store.updateTag file.id tag := rfl
  obtain ⟨performed, rfl⟩ := done_of_change_bind same (announce_bind asks _ _) done
  exact .set resolved parsed performed rfl rfl

theorem succeeds_unset (asks : store.AsksSilently) {selector name : String}
    (done : unset store selector name state = (.ok report, after)) :
    Succeeds store state (.unset selector name) report after := by
  obtain ⟨file, resolved, done⟩ :=
    Action.exists_of_silent_bind (silent_resolveText asks selector) done
  split at done
  next => cases done
  next =>
    have same : store.perform (.removeTag file.id name) =
        (fun _ => .done) <$> store.removeTag file.id name := rfl
    obtain ⟨performed, rfl⟩ := done_of_change_bind same (announce_bind asks _ _) done
    exact .unset resolved performed rfl

theorem eq_ok_of_map_eq_ok {First Second : Type} {change : First → Second}
    (injective : ∀ first second, change first = change second → first = second)
    {action : Action State First} {result : First}
    (done : (change <$> action) state = (.ok (change result), after)) :
    action state = (.ok result, after) := by
  rw [Action.map_eq] at done
  cases step : action state with
  | mk outcome last =>
      rw [step] at done
      obtain ⟨mapped, rfl⟩ := Prod.mk.inj done
      cases outcome with
      | error => cases mapped
      | ok other => rw [injective other result (Except.ok.inj mapped)]

theorem succeeds_of_perform (asks : store.AsksSilently) {call : Call}
    (isChange : call.isQuestion = false)
    (done : call.perform store state = (.ok (.report report), after)) :
    Succeeds store state call report after := by
  have injective : ∀ first second, Reply.report first = .report second → first = second :=
    fun _ _ => Reply.report.inj
  cases call with
  | add now fresh path => exact succeeds_add asks (eq_ok_of_map_eq_ok injective done)
  | remove selector => exact succeeds_remove asks (eq_ok_of_map_eq_ok injective done)
  | move now selector path => exact succeeds_move asks (eq_ok_of_map_eq_ok injective done)
  | set selector name value => exact succeeds_set asks (eq_ok_of_map_eq_ok injective done)
  | unset selector name => exact succeeds_unset asks (eq_ok_of_map_eq_ok injective done)
  | tags | files | matchWords | find => cases isChange

end TagCatalog.Command

import TagCatalog.Command
import TagCatalog.Proofs.Store.Asking

/-!
# What calls of commands do to a store

A `Call` is one command with its arguments.  On a store whose questions leave its
state as it is, a call either leaves the state as it is too, or makes one change of
the store, and fails if that fails.  The tags in that change have names that a tag
may have, or come from the store.
-/

namespace TagCatalog

variable {State First Second Result : Type} {state after : State}

namespace Store

/-- The changes of a store that commands make. -/
inductive Licensed (store : Store State) (state : State) : Operation → Prop where
  | register (now : Instant) (file : File) : Licensed store state (.updateFile now file [])
  | move {old : File} {tags : List Tag} (now : Instant) (file : File) :
      (store.tags old state).1 = .ok tags → Licensed store state (.updateFile now file tags)
  | remove (id : Uuid) : Licensed store state (.removeFile id)
  | set {tag : Tag} (id : Uuid) :
      Tag.Name.fault? tag.name = none → Licensed store state (.updateTag id tag)
  | unset (id : Uuid) (name : String) : Licensed store state (.removeTag id name)

/-- What an action does to a state: nothing, or one change of the store, and then
it fails if that fails. -/
inductive Effect (store : Store State) (state : State) : Except Error Result × State → Prop where
  | none (outcome : Except Error Result) : Effect store state (outcome, state)
  | change {operation : Operation} {outcome : Except Error Result} {after : State} :
      Licensed store state operation → (store.perform operation state).2 = after →
      (∀ error, outcome = .error error → (store.perform operation state).1 = .error error) →
      Effect store state (outcome, after)

variable {store : Store State}

theorem Effect.of_silent {action : Action State Result} (silent : action.Silent) :
    Effect store state (action state) := by
  rw [silent.eq state]
  exact .none _

theorem Effect.map {action : Action State First} (effect : Effect store state (action state))
    (change : First → Second) : Effect store state ((change <$> action) state) := by
  rw [Action.map_eq]
  cases step : action state with
  | mk outcome after =>
      rw [step] at effect
      cases effect with
      | none => exact .none _
      | change licensed changed fails =>
          refine .change licensed changed fun error failed => fails error ?_
          cases outcome with
          | ok => cases failed
          | error =>
              cases failed
              rfl

/-- First questions, then the rest. -/
theorem Effect.bind {first : Action State First} {next : First → Action State Second}
    (silent : first.Silent)
    (effect : ∀ result, (first state).1 = .ok result → Effect store state (next result state)) :
    Effect store state ((first >>= next) state) := by
  have step := silent.eq state
  cases outcome : (first state).1 with
  | error error =>
      rw [outcome] at step
      rw [Action.bind_of_error step]
      exact .none _
  | ok result =>
      rw [outcome] at step
      rw [Action.bind_of_ok step]
      exact effect result outcome

/-- A change, and then what cannot fail. -/
theorem Effect.of_change {operation : Operation} {change : Action State Unit}
    {next : Unit → Action State Result} (licensed : Licensed store state operation)
    (same : store.perform operation = (fun _ => .done) <$> change)
    (last : ∀ state, ∃ result, next () state = (.ok result, state)) :
    Effect store state ((change >>= next) state) := by
  have performed : store.perform operation state =
      ((change state).1.map fun _ => .done, (change state).2) := by
    rw [same, Action.map_eq]
  cases step : change state with
  | mk outcome after =>
      rw [step] at performed
      cases outcome with
      | error error =>
          rw [Action.bind_of_error step]
          apply Effect.change licensed
          · rw [performed]
          · rintro _ ⟨⟩
            rw [performed]
            rfl
      | ok =>
          obtain ⟨result, done⟩ := last after
          rw [Action.bind_of_ok step, done]
          apply Effect.change licensed
          · rw [performed]
          · rintro _ ⟨⟩

end Store

namespace Command

open Store

variable {store : Store State}

theorem ofExcept_of_error {outcome : Except Error Result} {error : Error}
    (failed : outcome = .error error) (state : State) : (ofExcept outcome : Action State Result) state = (.error error, state) :=
  congrArg (·, state) failed

theorem ofExcept_of_ok {outcome : Except Error Result} {result : Result}
    (done : outcome = .ok result) (state : State) :
    (ofExcept outcome : Action State Result) state = (.ok result, state) :=
  congrArg (·, state) done

theorem parseFilter_of_ok {text : String} {filter : Filter}
    (parsed : Filter.parse text = .ok filter) : parseFilter text = .ok filter :=
  congrArg (Except.mapError Error.filter) parsed

theorem parseFilter_of_error {text : String} {error : Filter.ParseError}
    (failed : Filter.parse text = .error error) : parseFilter text = .error (.filter error) :=
  congrArg (Except.mapError Error.filter) failed

theorem silent_ofExcept (outcome : Except Error Result) :
    (ofExcept outcome : Action State Result).Silent :=
  fun _ => rfl

theorem silent_resolve (asks : store.AsksSilently) (selector : Selector) :
    (resolve store selector).Silent := by
  cases selector with
  | id id => exact asks.file id
  | path path => exact asks.fileAt path

theorem silent_resolveText (asks : store.AsksSilently) (selector : String) :
    (resolveText store selector).Silent :=
  (silent_ofExcept _).bind fun selector => silent_resolve asks selector

theorem silent_registered? (asks : store.AsksSilently) (path : String) :
    (registered? store path).Silent := by
  apply Action.Silent.tryCatch
  · exact (asks.fileAt path).bind fun _ => Action.silent_pure _
  · intro error
    split <;> first
      | exact Action.silent_pure _
      | exact Action.silent_throw _

theorem announce_bind (asks : store.AsksSilently) (event : Log.Event) (report : Report)
    (state : State) :
    (store.announce event >>= fun _ => pure report) state = (.ok report, state) :=
  Action.bind_of_ok (asks.announce event state)

theorem effect_add (asks : store.AsksSilently) (now : Instant) (fresh : Uuid) (path : String)
    (state : State) : Effect store state (add store now fresh path state) := by
  unfold add
  split
  next => exact .none _
  next =>
    apply Effect.bind (silent_registered? asks path)
    rintro (_ | existing) -
    · exact .of_change (.register now ⟨fresh, path⟩) rfl
        fun state => ⟨_, announce_bind asks _ _ state⟩
    · exact .none _

theorem effect_remove (asks : store.AsksSilently) (selector : String) (state : State) :
    Effect store state (remove store selector state) := by
  apply Effect.bind (silent_resolveText asks selector)
  intro file _
  exact .of_change (.remove file.id) rfl fun state => ⟨_, rfl⟩

theorem effect_moveFile (asks : store.AsksSilently) (now : Instant) (file : File) (path : String)
    (state : State) : Effect store state (moveFile store now file path state) := by
  apply Effect.bind (asks.tags file)
  intro tags carried
  exact .of_change (.move now { file with path } carried) rfl
    fun state => ⟨_, announce_bind asks _ _ state⟩

theorem effect_move (asks : store.AsksSilently) (now : Instant) (selector path : String)
    (state : State) : Effect store state (move store now selector path state) := by
  apply Effect.bind (silent_ofExcept _)
  intro selector _
  split
  next => exact .none _
  next =>
    apply Effect.bind (silent_resolve asks selector)
    intro file _
    split
    next => exact .none _
    next => exact effect_moveFile asks now file path state

theorem eq_of_of? {name : String} {value : Option Int64} {tag : Tag}
    (found : Tag.of? name value = some tag) : tag.name = name ∧ tag.value = value := by
  unfold Tag.of? at found
  split at found
  · cases found
    exact ⟨rfl, rfl⟩
  · cases found

theorem name_of_of? {name : String} {value : Option Int64} {tag : Tag}
    (found : Tag.of? name value = some tag) : tag.name = name :=
  (eq_of_of? found).1

theorem exists_of_parseTag {name : String} {value : Option String} {tag : Tag}
    (parsed : parseTag name value = .ok tag) : Tag.Name.fault? name = none ∧
      ∃ number, value.mapM parseValue = .ok number ∧ Tag.of? name number = some tag := by
  unfold parseTag at parsed
  cases found : Tag.Name.fault? name with
  | some fault =>
      rw [found] at parsed
      cases parsed
  | none =>
      rw [found] at parsed
      cases numbers : value.mapM parseValue with
      | error =>
          rw [numbers] at parsed
          cases parsed
      | ok number =>
          cases made : Tag.of? name number with
          | none =>
              simp only [numbers, made, bind, Except.bind] at parsed
              cases parsed
          | some other =>
              simp only [numbers, made, bind, Except.bind, pure] at parsed
              cases parsed
              exact ⟨rfl, number, rfl, made⟩

theorem fault?_of_parseTag {name : String} {value : Option String} {tag : Tag}
    (parsed : parseTag name value = .ok tag) : Tag.Name.fault? tag.name = none := by
  obtain ⟨faultless, number, -, made⟩ := exists_of_parseTag parsed
  rwa [name_of_of? made]

theorem effect_set (asks : store.AsksSilently) (selector name : String) (value : Option String)
    (state : State) : Effect store state (set store selector name value state) := by
  apply Effect.bind (silent_ofExcept _)
  intro selector _
  apply Effect.bind (silent_ofExcept _)
  intro tag parsed
  apply Effect.bind (silent_resolve asks selector)
  intro file _
  exact .of_change (.set file.id (fault?_of_parseTag parsed)) rfl
    fun state => ⟨_, announce_bind asks _ _ state⟩

theorem effect_unset (asks : store.AsksSilently) (selector name : String) (state : State) :
    Effect store state (unset store selector name state) := by
  apply Effect.bind (silent_resolveText asks selector)
  intro file _
  split
  next => exact .none _
  next =>
    exact .of_change (.unset file.id name) rfl fun state => ⟨_, announce_bind asks _ _ state⟩

theorem silent_tags (asks : store.AsksSilently) (selector : String) :
    (tags store selector).Silent :=
  (silent_resolveText asks selector).bind fun file =>
    (asks.tags file).bind fun _ => Action.silent_pure _

theorem silent_files (asks : store.AsksSilently) : (files store).Silent :=
  asks.listing.bind fun _ => Action.silent_pure _

theorem silent_find (asks : store.AsksSilently) (text : String) : (find store text).Silent := by
  apply (silent_ofExcept _).bind
  intro filter
  exact (asks.silent_announce _).bind fun _ => asks.matching filter

theorem silent_matchWords (asks : store.AsksSilently) (words : List String) (strict : Bool) :
    (matchWords store words strict).Silent := by
  apply (silent_find asks _).bind
  intro found
  split
  · exact Action.silent_throw _
  · exact Action.silent_pure _

/-- A command with its arguments; a registration is given the time and an
identifier. -/
inductive Call where
  | add (now : Instant) (fresh : Uuid) (path : String)
  | remove (selector : String)
  | move (now : Instant) (selector path : String)
  | set (selector name : String) (value : Option String)
  | unset (selector name : String)
  | tags (selector : String)
  | files
  | matchWords (words : List String) (strict : Bool)
  | find (text : String)

instance decidableEqOutcome {Failure Result : Type} [DecidableEq Failure] [DecidableEq Result] :
    DecidableEq (Except Failure Result)
  | .ok first, .ok second => decidable_of_iff (first = second) (by simp)
  | .error first, .error second => decidable_of_iff (first = second) (by simp)
  | .ok _, .error _ => isFalse (by simp)
  | .error _, .ok _ => isFalse (by simp)

deriving instance DecidableEq for Report

inductive Reply where
  | report (report : Report)
  | files (files : List File)
deriving DecidableEq

def Call.perform (store : Store State) : Call → Action State Reply
  | .add now fresh path => .report <$> Command.add store now fresh path
  | .remove selector => .report <$> Command.remove store selector
  | .move now selector path => .report <$> Command.move store now selector path
  | .set selector name value => .report <$> Command.set store selector name value
  | .unset selector name => .report <$> Command.unset store selector name
  | .tags selector => .report <$> Command.tags store selector
  | .files => .report <$> Command.files store
  | .matchWords words strict => .report <$> Command.matchWords store words strict
  | .find text => .files <$> Command.find store text

def Call.isQuestion : Call → Bool
  | tags _ | files | matchWords _ _ | find _ => true
  | add _ _ _ | remove _ | move _ _ _ | set _ _ _ | unset _ _ => false

theorem Call.silent_of_isQuestion (asks : store.AsksSilently) (call : Call)
    (question : call.isQuestion = true) : (call.perform store).Silent := by
  cases call with
  | tags selector => exact (silent_tags asks selector).map _
  | files => exact (silent_files asks).map _
  | matchWords words strict => exact (silent_matchWords asks words strict).map _
  | find text => exact (silent_find asks text).map _
  | add | remove | move | set | unset => cases question

theorem Call.effect (asks : store.AsksSilently) (call : Call) (state : State) :
    Effect store state (call.perform store state) := by
  cases call with
  | add now fresh path => exact (effect_add asks now fresh path state).map _
  | remove selector => exact (effect_remove asks selector state).map _
  | move now selector path => exact (effect_move asks now selector path state).map _
  | set selector name value => exact (effect_set asks selector name value state).map _
  | unset selector name => exact (effect_unset asks selector name state).map _
  | tags | files | matchWords | find => exact .of_silent (Call.silent_of_isQuestion asks _ rfl)

/-- A call leaves a state as it is, or makes a change that commands make; it fails if
that fails. -/
theorem Call.eq_or_exists_licensed (asks : store.AsksSilently) (call : Call) (state : State) :
    (call.perform store state).2 = state ∨ ∃ operation, store.Licensed state operation ∧
      (call.perform store state).2 = (store.perform operation state).2 ∧
      ∀ error, (call.perform store state).1 = .error error →
        (store.perform operation state).1 = .error error := by
  have effect := call.effect asks state
  generalize call.perform store state = result at effect
  cases effect with
  | none => exact .inl rfl
  | change licensed changed fails => exact .inr ⟨_, licensed, changed.symm, fails⟩

end Command

end TagCatalog

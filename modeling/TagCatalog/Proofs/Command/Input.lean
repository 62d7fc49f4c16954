import TagCatalog.Proofs.Command.Exactness
import TagCatalog.Proofs.Store.Blame

/-!
# Calls that fail for their input

Where the arguments of a call are wrong, it fails before the store is asked for anything,
so it fails alike on all stores (`perform_of_misgiven`).  `Misgiven` says which arguments
are wrong, and which error counts if several are.  No other call of a store that blames no
input fails with such an error.
-/

namespace TagCatalog

theorem Selector.ofText_eq_error_iff {text : String} {error : Error} :
    ofText text = .error error ↔ ∃ rest, text = "uuid:" ++ rest ∧
      Uuid.ofText? rest.toList = none ∧ error = .invalidFileId rest := by
  have marked (rest : List Char) :
      afterMarker? text.toList = some rest ↔ text = "uuid:" ++ String.ofList rest := by
    have characters : ("uuid:" ++ String.ofList rest).toList = marker ++ rest := by
      simp [marker]
    rw [afterMarker?_eq_some_iff, ← characters, String.toList_inj]
  unfold ofText
  constructor
  · intro failed
    split at failed
    next rest found =>
      split at failed
      next => cases failed
      next noId =>
        cases failed
        refine ⟨String.ofList rest, (marked rest).mp found, ?_, rfl⟩
        rwa [String.toList_ofList]
    next => cases failed
  · rintro ⟨rest, starts, noId, rfl⟩
    have found : afterMarker? text.toList = some rest.toList :=
      (marked rest.toList).mpr (by rwa [String.ofList_toList])
    simp only [found, noId, String.ofList_toList]

namespace Command

open Store

variable {State Result Other : Type} {store : Store State} {state after : State} {call : Call}
  {error : Error}

def Call.selector? : Call → Option String
  | remove selector | move _ selector _ | set selector _ _ | unset selector _ | tags selector =>
      some selector
  | add _ _ _ | files | matchWords _ _ | find _ => none

/-- Calls with wrong arguments, and the error of the argument that counts: the selector
before the others, and the name of a tag before its value. -/
inductive Misgiven : Call → Error → Prop where
  | text {text : String} {error : Filter.ParseError} : Filter.parse text = .error error →
      Misgiven (.find text) (.filter error)
  | words {words : List String} {strict : Bool} {error : Filter.ParseError} :
      Filter.parse (String.intercalate " " words) = .error error →
      Misgiven (.matchWords words strict) (.filter error)
  | selector {call : Call} {rest : String} : call.selector? = some ("uuid:" ++ rest) →
      Uuid.ofText? rest.toList = none → Misgiven call (.invalidFileId rest)
  | name {selector name : String} {selected : Selector} {value : Option String}
      {fault : Tag.Name.Fault} : Selector.ofText selector = .ok selected →
      Tag.Name.fault? name = some fault →
      Misgiven (.set selector name value) (.invalidTagName name fault)
  | value {selector name text : String} {selected : Selector} :
      Selector.ofText selector = .ok selected → Tag.Name.fault? name = none →
      Tag.Value.ofText? text = none → Misgiven (.set selector name (some text)) (.invalidValue text)
  | path {now : Instant} {fresh : Uuid} : Misgiven (.add now fresh "") (.request .emptyPath)
  | newPath {now : Instant} {selector : String} {selected : Selector} :
      Selector.ofText selector = .ok selected →
      Misgiven (.move now selector "") (.request .emptyNewPath)

theorem resolveText_of_error {selector : String} (failed : Selector.ofText selector = .error error)
    (store : Store State) (state : State) :
    resolveText store selector state = (.error error, state) :=
  Action.bind_of_error (ofExcept_of_error failed state)

/-- A tag is refused for its name, or else for the text of its value. -/
theorem parseTag_eq_error_iff {name : String} {value : Option String} :
    parseTag name value = .error error ↔
      (∃ fault, Tag.Name.fault? name = some fault ∧ error = .invalidTagName name fault) ∨
      (Tag.Name.fault? name = none ∧ ∃ text, value = some text ∧ Tag.Value.ofText? text = none ∧
        error = .invalidValue text) := by
  rw [parseTag]
  cases faulty : Tag.Name.fault? name with
  | some fault =>
      show (Except.error (.invalidTagName name fault) : Except Error Tag) = .error error ↔ _
      simp [eq_comm]
  | none =>
      have named : name ≠ "" := by
        rintro rfl
        cases faulty
      have made (number : Option Int64) : Tag.of? name number = some ⟨name, number, named⟩ :=
        dif_pos named
      cases value with
      | none => simp [bind, Except.bind, pure, Except.pure, made]
      | some text =>
          have mapped : (some text).mapM parseValue = (parseValue text).map some := rfl
          rw [mapped, parseValue]
          cases read : Tag.Value.ofText? text with
          | none => simp [bind, Except.bind, Except.map, read, eq_comm]
          | some number => simp [bind, Except.bind, pure, Except.pure, Except.map, made, read]

theorem perform_of_misgiven (misgiven : Misgiven call error) (store : Store State)
    (state : State) : call.perform store state = (.error error, state) := by
  cases misgiven with
  | text failed =>
      have noFilter := ofExcept_of_error (parseFilter_of_error failed) state
      exact Action.map_of_error (Action.bind_of_error noFilter)
  | words failed =>
      have noFilter := ofExcept_of_error (parseFilter_of_error failed) state
      exact Action.map_of_error (Action.bind_of_error (Action.bind_of_error noFilter))
  | @selector _ rest isSelector noId =>
      have failed {selector : String} (same : some selector = some ("uuid:" ++ rest)) :
          Selector.ofText selector = .error (.invalidFileId rest) :=
        Selector.ofText_eq_error_iff.mpr ⟨rest, Option.some.inj same, noId, rfl⟩
      cases call with
      | remove | unset | tags =>
          exact Action.map_of_error
            (Action.bind_of_error (resolveText_of_error (failed isSelector) store state))
      | move | set =>
          exact Action.map_of_error
            (Action.bind_of_error (ofExcept_of_error (failed isSelector) state))
      | add | files | matchWords | find => cases isSelector
  | @name _ name _ value fault isSelector faulty =>
      have refused : parseTag name value = .error (.invalidTagName name fault) :=
        parseTag_eq_error_iff.mpr (.inl ⟨_, faulty, rfl⟩)
      apply Action.map_of_error
      rw [Command.set, Action.bind_of_ok (ofExcept_of_ok isSelector state)]
      exact Action.bind_of_error (ofExcept_of_error refused state)
  | value isSelector faultless noValue =>
      have refused := parseTag_eq_error_iff.mpr (.inr ⟨faultless, _, rfl, noValue, rfl⟩)
      apply Action.map_of_error
      rw [Command.set, Action.bind_of_ok (ofExcept_of_ok isSelector state)]
      exact Action.bind_of_error (ofExcept_of_error refused state)
  | path => rfl
  | newPath isSelector =>
      apply Action.map_of_error
      rw [Command.move, Action.bind_of_ok (ofExcept_of_ok isSelector state)]
      rfl

/-- What blames the input is from the first step, if nothing behind that does. -/
theorem of_bind_blamed {first : Action State Result} {next : Result → Action State Other}
    (failed : (first >>= next) state = (.error error, after)) (blamed : error.blamesInput = true)
    (innocent : ∀ result, (next result).Innocent) : first state = (.error error, after) := by
  rcases Action.of_bind_eq_error failed with failed | ⟨result, _, -, failed⟩
  · exact failed
  · rw [(innocent result).of_error failed] at blamed
    cases blamed

theorem of_ofExcept_bind {outcome : Except Error Result} {next : Result → Action State Other}
    (failed : (ofExcept outcome >>= next) state = (.error error, after)) :
    outcome = .error error ∨
      ∃ result, outcome = .ok result ∧ next result state = (.error error, after) := by
  cases outcome with
  | error =>
      cases failed
      exact .inl rfl
  | ok result => exact .inr ⟨result, rfl, failed⟩

theorem innocent_fileAt (blames : store.BlamesNoInput) (path : String) :
    (store.fileAt path).Innocent :=
  (Action.innocent_map_iff _).mp (blames.perform (.fileAt path))

theorem innocent_resolve (blames : store.BlamesNoInput) (selector : Selector) :
    (resolve store selector).Innocent := by
  cases selector with
  | id id => exact (Action.innocent_map_iff _).mp (blames.perform (.file id))
  | path path => exact innocent_fileAt blames path

theorem innocent_registered? (blames : store.BlamesNoInput) (path : String) :
    (registered? store path).Innocent := by
  have found := (innocent_fileAt blames path).bind fun file => Action.innocent_pure (some file)
  intro state
  rw [registered?, Action.tryCatch_apply]
  split
  next => exact innocent_ok _
  next error after failed =>
    split
    next => exact innocent_ok _
    next => exact innocent_ok _
    next => exact innocent_error_iff.mpr (found.of_error failed)

theorem innocent_announcing (blames : store.BlamesNoInput) (event : Log.Event) (result : Result) :
    (store.announce event >>= fun _ => pure result).Innocent :=
  (blames.announce event).bind fun _ => Action.innocent_pure result

theorem innocent_updateFile (blames : store.BlamesNoInput) (now : Instant) (file : File)
    (tags : List Tag) (event : Log.Event) (report : Report) :
    (store.updateFile now file tags >>= fun _ => store.announce event >>= fun _ =>
      pure report).Innocent :=
  ((Action.innocent_map_iff _).mp (blames.perform (.updateFile now file tags))).bind fun _ =>
    innocent_announcing blames event report

theorem innocent_moveFile (blames : store.BlamesNoInput) (now : Instant) (file : File)
    (path : String) : (moveFile store now file path).Innocent :=
  ((Action.innocent_map_iff _).mp (blames.perform (.tags file))).bind fun tags =>
    innocent_updateFile blames now { file with path } tags _ _

theorem innocent_find (blames : store.BlamesNoInput) (text : String) (filter : Filter) :
    (store.announce (.filterParsed text filter) >>= fun _ => store.matching filter).Innocent :=
  (blames.announce _).bind fun _ =>
    (Action.innocent_map_iff _).mp (blames.perform (.matching filter))

theorem misgiven_of_selector {selector : String} (isSelector : call.selector? = some selector)
    (failed : Selector.ofText selector = .error error) : Misgiven call error := by
  obtain ⟨rest, rfl, noId, rfl⟩ := Selector.ofText_eq_error_iff.mp failed
  exact .selector isSelector noId

theorem misgiven_of_resolveText (blames : store.BlamesNoInput) {selector : String}
    (isSelector : call.selector? = some selector)
    (failed : resolveText store selector state = (.error error, after))
    (blamed : error.blamesInput = true) : Misgiven call error :=
  misgiven_of_selector isSelector
    (congrArg Prod.fst (of_bind_blamed failed blamed (innocent_resolve blames)))

theorem parse_of_find (blames : store.BlamesNoInput) {text : String}
    (failed : Command.find store text state = (.error error, after))
    (blamed : error.blamesInput = true) :
    ∃ fault, Filter.parse text = .error fault ∧ error = .filter fault := by
  have noFilter : parseFilter text = .error error :=
    congrArg Prod.fst (of_bind_blamed failed blamed (innocent_find blames text))
  unfold parseFilter at noFilter
  cases parsed : Filter.parse text with
  | ok =>
      rw [parsed] at noFilter
      cases noFilter
  | error fault =>
      rw [parsed] at noFilter
      cases noFilter
      exact ⟨fault, rfl, rfl⟩

theorem misgiven_of_innocent {action : Action State Result} (innocent : action.Innocent)
    (failed : action state = (.error error, after)) (blamed : error.blamesInput = true) :
    Misgiven call error := by
  rw [innocent.of_error failed] at blamed
  cases blamed

theorem misgiven_of_add (blames : store.BlamesNoInput) {now : Instant} {fresh : Uuid}
    {path : String} (failed : add store now fresh path state = (.error error, after))
    (blamed : error.blamesInput = true) : Misgiven (.add now fresh path) error := by
  unfold add at failed
  split at failed
  next isEmpty =>
    cases failed
    cases String.isEmpty_iff.mp isEmpty
    exact .path
  next =>
    refine misgiven_of_innocent ((innocent_registered? blames path).bind ?_) failed blamed
    rintro (_ | existing)
    · exact innocent_updateFile blames now ⟨fresh, path⟩ [] _ _
    · exact Action.innocent_pure _

theorem misgiven_of_move (blames : store.BlamesNoInput) {now : Instant} {selector path : String}
    (failed : move store now selector path state = (.error error, after))
    (blamed : error.blamesInput = true) : Misgiven (.move now selector path) error := by
  rcases of_ofExcept_bind failed with wrong | ⟨selected, isSelector, failed⟩
  · exact misgiven_of_selector rfl wrong
  · split at failed
    next isEmpty =>
      cases failed
      cases String.isEmpty_iff.mp isEmpty
      exact .newPath isSelector
    next =>
      refine misgiven_of_innocent ((innocent_resolve blames selected).bind ?_) failed blamed
      intro file
      split
      next => exact Action.innocent_pure _
      next => exact innocent_moveFile blames now file path

theorem misgiven_of_set (blames : store.BlamesNoInput) {selector name : String}
    {value : Option String} (failed : set store selector name value state = (.error error, after))
    (blamed : error.blamesInput = true) : Misgiven (.set selector name value) error := by
  rcases of_ofExcept_bind failed with wrong | ⟨selected, isSelector, failed⟩
  · exact misgiven_of_selector rfl wrong
  rcases of_ofExcept_bind failed with wrong | ⟨tag, -, failed⟩
  · rcases parseTag_eq_error_iff.mp wrong with
      ⟨fault, faulty, rfl⟩ | ⟨faultless, text, rfl, noValue, rfl⟩
    · exact .name isSelector faulty
    · exact .value isSelector faultless noValue
  · refine misgiven_of_innocent ((innocent_resolve blames selected).bind ?_) failed blamed
    intro file
    exact ((Action.innocent_map_iff _).mp (blames.perform (.updateTag file.id tag))).bind fun _ =>
      innocent_announcing blames _ _

/-- Where a store blames no input, a call fails with an error that does only if its
arguments are wrong. -/
theorem misgiven_of_perform (blames : store.BlamesNoInput)
    (failed : call.perform store state = (.error error, after))
    (blamed : error.blamesInput = true) : Misgiven call error := by
  cases call with
  | add => exact misgiven_of_add blames (Action.eq_error_of_map failed) blamed
  | remove selector =>
      have resolved := of_bind_blamed (Action.eq_error_of_map failed) blamed fun file =>
        ((Action.innocent_map_iff _).mp (blames.perform (.removeFile file.id))).bind fun _ =>
          Action.innocent_pure _
      exact misgiven_of_resolveText blames rfl resolved blamed
  | move => exact misgiven_of_move blames (Action.eq_error_of_map failed) blamed
  | set => exact misgiven_of_set blames (Action.eq_error_of_map failed) blamed
  | unset selector name =>
      have resolved := of_bind_blamed (Action.eq_error_of_map failed) blamed fun file => by
        split
        next => exact Action.innocent_throw rfl
        next =>
          exact ((Action.innocent_map_iff _).mp (blames.perform (.removeTag file.id name))).bind
            fun _ => innocent_announcing blames _ _
      exact misgiven_of_resolveText blames rfl resolved blamed
  | tags selector =>
      have resolved := of_bind_blamed (Action.eq_error_of_map failed) blamed fun file =>
        ((Action.innocent_map_iff _).mp (blames.perform (.tags file))).bind fun _ =>
          Action.innocent_pure _
      exact misgiven_of_resolveText blames rfl resolved blamed
  | files =>
      have innocent := (Action.innocent_map_iff _).mp (blames.perform .listing)
      have listed := of_bind_blamed (Action.eq_error_of_map failed) blamed fun _ =>
        Action.innocent_pure _
      exact misgiven_of_innocent innocent listed blamed
  | matchWords words strict =>
      have unfound := of_bind_blamed (Action.eq_error_of_map failed) blamed fun found => by
        split
        next => exact Action.innocent_throw rfl
        next => exact Action.innocent_pure _
      obtain ⟨fault, wrong, rfl⟩ := parse_of_find blames unfound blamed
      exact .words wrong
  | find text =>
      obtain ⟨fault, wrong, rfl⟩ := parse_of_find blames (Action.eq_error_of_map failed) blamed
      exact .text wrong

theorem Misgiven.blamesInput (misgiven : Misgiven call error) : error.blamesInput = true := by
  cases misgiven <;> rfl

section Alike

variable {First Second : Type} (first : Store First) (second : Store Second) (state : First)
  (other : Second) (call : Call) (error : Error)

/-- A call with wrong arguments fails alike on any two stores, in whatever states they are,
with the error of its arguments, and leaves both stores as they are.  On a store that blames
no input, these are the only calls that fail with an error that does; a memory, a document
on a disk and one with a journal blame none, in whatever states they are.  So if a call on
one of these blames its input, it fails alike on every store. -/
theorem fails_alike_iff_misgiven :
    (Misgiven call error → error.blamesInput = true ∧
      call.perform first state = (.error error, state) ∧
      call.perform second other = (.error error, other)) ∧
    (first.BlamesNoInput → (call.perform first state).1 = .error error →
      error.blamesInput = true → Misgiven call error ∧
        call.perform first state = (.error error, state) ∧
        call.perform second other = (.error error, other)) ∧
    Memory.store.BlamesNoInput ∧ (∀ path, (OnDisk.store path).BlamesNoInput) ∧
    ∀ path, (Workspace.store path).BlamesNoInput := by
  have alike (misgiven : Misgiven call error) : call.perform first state = (.error error, state) ∧
      call.perform second other = (.error error, other) :=
    ⟨perform_of_misgiven misgiven first state, perform_of_misgiven misgiven second other⟩
  refine ⟨fun misgiven => ⟨misgiven.blamesInput, alike misgiven⟩, ?_, Memory.blamesNoInput,
    OnDisk.blamesNoInput, Workspace.blamesNoInput⟩
  intro blames failed blamed
  have misgiven := misgiven_of_perform blames (Prod.ext failed rfl) blamed
  exact ⟨misgiven, alike misgiven⟩

end Alike

section Illegible

def illegible : Disk :=
  ⟨[], Table.ofList [(["db.json"], .file "\x7b".toUTF8)]⟩

/-- The name is refused before the value, and both before the document is read. -/
theorem fails_alike_illegible :
    let call : Call := .set "uuid" "AND" (some "one")
    let error : Error := .invalidTagName "AND" (.keyword "AND")
    (∃ fault, OnDisk.load "db.json" illegible = .error (.document fault)) ∧
      Misgiven call error ∧
      call.perform (OnDisk.store "db.json") illegible = (.error error, illegible) ∧
      call.perform Memory.store .empty = (.error error, .empty) := by
  intro call error
  have selected : Selector.ofText "uuid" = .ok (.path "uuid") := rfl
  obtain ⟨given, conversely, -, onDisk, -⟩ := fails_alike_iff_misgiven (OnDisk.store "db.json")
    Memory.store illegible .empty call error
  obtain ⟨blamed, failed, -⟩ := given (.name selected rfl)
  refine ⟨⟨_, rfl⟩, conversely (onDisk "db.json") ?_ blamed⟩
  rw [failed]

end Illegible

end Command

end TagCatalog

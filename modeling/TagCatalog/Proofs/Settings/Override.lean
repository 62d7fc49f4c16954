import TagCatalog.Proofs.Settings
import TagCatalog.Proofs.Store.Simulation

/-!
# Settings that are changed one after the other

A document of settings is read as those settings.  So a change that succeeds gives one key
another value, whatever calls keep the document, if only a file holds what has been written
to it.  A change that is refused leaves the disk as it was, and one that cannot be saved may
leave anything.  What is loaded after any number of changes is what was loaded before,
overridden by the last change of each key that has succeeded, as long as those that could
not be saved have left what is loaded as it was.
-/

namespace TagCatalog.Disk

/-- Whether a file holds what has been written to it. -/
def Calls.Replaces (calls : Calls) : Prop :=
  ∀ {path text disk altered}, calls.write path text disk = (.ok (), altered) →
    altered.readBytes path = .ok text.toUTF8

theorem replaces_calls : calls.Replaces :=
  readBytes_of_writeBytes

/-- The calls of a disk with room for files of so many bytes.  A file that is to hold more
has been emptied when there is no room for it. -/
def Calls.ofRoom (room : Nat) : Calls where
  makeDirectories := Disk.makeDirectories
  write path text := do
    if text.utf8ByteSize ≤ room then
      Disk.write path text
    else do
      Disk.write path ""
      throw .full

theorem replaces_ofRoom (room : Nat) : (Calls.ofRoom room).Replaces := by
  intro path text disk altered written
  simp only [Calls.ofRoom] at written
  split at written
  next => exact readBytes_of_writeBytes written
  next =>
    obtain ⟨_, _, -, failed⟩ := Action.exists_of_bind_eq_ok written
    cases failed

end TagCatalog.Disk

namespace TagCatalog.Settings

open Json Disk

variable {calls : Calls} {directory key value : String} {disk altered : Disk}
  {settings before after : Settings}

section Documents

theorem decode_encode (settings : Settings) : decode settings.encode = .ok settings := by
  obtain ⟨path, level⟩ := settings
  have levelMember : ∀ path, TakesMembers fields.member ⟨path, none⟩
      [Lines.member "log_level" (Quotation.write level)] ⟨path, some level⟩ :=
    fun path => Document.takesMembers_once rfl (takes_write level) (.nil _)
  have takes : Takes fields.read (encode ⟨path, level⟩).toList ⟨path, level⟩ := by
    rw [encode, String.toList_ofList]
    cases path with
    | none => exact takes_record 0 (levelMember none) rfl
    | some path =>
        have isPath := (takes_write path).optional nofun
        exact takes_record 0
          (Document.takesMembers_once rfl isPath (levelMember (some (some path)))) rfl
  have ends : EndsNumber [] := nofun
  have read := takes.read_behind_nothing ends
  rw [List.append_nil] at read
  rw [decode, document, read]
  rfl

theorem load_of_readBytes
    (written : disk.readBytes (path directory) = .ok settings.encode.toUTF8) :
    load directory disk = .ok settings := by
  have there := contains_of_find (readBytes_eq_ok_iff.mp written)
  rw [load, if_pos there, read_of_readBytes written]
  exact congrArg (Except.mapError _) (decode_encode settings)

theorem load_of_saveBy (replaces : calls.Replaces)
    (saved : saveBy calls directory settings disk = (.ok (), altered)) :
    load directory altered = .ok settings := by
  apply load_of_readBytes
  rw [saveBy, get_bind_apply] at saved
  split at saved
  next => exact replaces saved
  next =>
    obtain ⟨_, _, -, written⟩ := Action.exists_of_bind_eq_ok saved
    exact replaces written

end Documents

section Changes

inductive Sets (before : Settings) : String → String → Settings → Prop where
  | databasePath (value : String) : Sets before "database-path" value
      { before with databasePath := if value = "" then none else some value }
  | logLevel {value : String} : value.toLower ∈ ["error", "warn", "info", "debug", "trace"] →
      Sets before "log-level" value { before with logLevel := value.toLower }

theorem Key.ofName?_eq_some_iff {name : String} {key : Key} :
    Key.ofName? name = some key ↔ name = key.name := by
  constructor
  · intro found
    unfold Key.ofName? at found
    have matching := List.find?_some found
    exact (of_decide_eq_true matching).symm
  · rintro rfl
    cases key <;> rfl

theorem setKey_logLevel_eq_ok_iff : before.setKey value .logLevel = .ok after ↔
    value.toLower ∈ ["error", "warn", "info", "debug", "trace"] ∧
      after = { before with logLevel := value.toLower } := by
  have lower : String.ofList (value.toList.map Char.toLower) = value.toLower := by
    apply String.toList_injective
    rw [String.toList_ofList]
    exact String.toList_map.symm
  simp only [setKey, lower, List.contains_iff_mem]
  by_cases level : value.toLower ∈ logLevelNames
  · rw [if_pos level]
    exact ⟨fun same => ⟨level, (Except.ok.inj same).symm⟩, fun same => congrArg _ same.2.symm⟩
  · rw [if_neg level]
    refine ⟨fun done => ?_, fun same => absurd same.1 level⟩
    cases done

theorem setKey_databasePath (before : Settings) (value : String) :
    before.setKey value .databasePath =
      .ok { before with databasePath := if value = "" then none else some value } := by
  simp [setKey]

theorem set_eq_ok_iff : before.set key value = .ok after ↔ Sets before key value after := by
  constructor
  · intro done
    unfold Settings.set at done
    split at done
    next found isKey =>
      obtain rfl := Key.ofName?_eq_some_iff.mp isKey
      cases found with
      | databasePath =>
          rw [setKey_databasePath] at done
          cases done
          exact .databasePath value
      | logLevel =>
          obtain ⟨level, rfl⟩ := setKey_logLevel_eq_ok_iff.mp done
          exact .logLevel level
    next => cases done
  · intro sets
    cases sets with
    | databasePath value => exact setKey_databasePath before value
    | logLevel level => exact setKey_logLevel_eq_ok_iff.mpr ⟨level, rfl⟩

/-- Whether a change is refused: no settings are loaded, or the key or its value is wrong. -/
def Refused (directory key value : String) (disk : Disk) : Prop :=
  ∀ before after, load directory disk = .ok before → ¬Sets before key value after

/-- What becomes of a change: it is refused, or the settings with the other value are
saved, or they are not because of the disk. -/
inductive Attempt (calls : Calls) (directory key value : String) (disk : Disk) :
    Except Error Report × Disk → Prop where
  | refused (error : Error) : Refused directory key value disk →
      Attempt calls directory key value disk (.error error, disk)
  | saved {before after : Settings} {altered : Disk} : load directory disk = .ok before →
      Sets before key value after → saveBy calls directory after disk = (.ok (), altered) →
      Attempt calls directory key value disk (.ok (changed after key value), altered)
  | failed {before after : Settings} {altered : Disk} {fault : Disk.Fault} :
      load directory disk = .ok before → Sets before key value after →
      saveBy calls directory after disk = (.error fault, altered) →
      Attempt calls directory key value disk (.error (.disk fault), altered)

theorem attempt_change (calls : Calls) (directory key value : String) (disk : Disk) :
    Attempt calls directory key value disk (change calls directory key value disk) := by
  unfold change
  split
  next error refused =>
    refine .refused error fun before after loaded sets => ?_
    rw [loaded] at refused
    have done := set_eq_ok_iff.mpr sets
    simp [Except.bind, done] at refused
  next settings done =>
    obtain ⟨before, loaded, set⟩ := Action.exists_of_except_bind_eq_ok done
    have sets := set_eq_ok_iff.mp set
    split
    next saved => exact .saved loaded sets saved
    next failed => exact .failed loaded sets failed

structure IsChange (calls : Calls) (directory key value : String) (disk : Disk)
    (result : Except Error Report × Disk) : Prop where
  done : ∀ report, result.1 = .ok report → ∃ before after, load directory disk = .ok before ∧
    Sets before key value after ∧ load directory result.2 = .ok after
  refused : Refused directory key value disk → ∃ error, result = (.error error, disk)
  unsaved : ¬Refused directory key value disk → ∀ error, result.1 = .error error →
    ∃ before after fault, load directory disk = .ok before ∧ Sets before key value after ∧
      saveBy calls directory after disk = (.error fault, result.2) ∧ error = .disk fault

theorem Attempt.isChange {result : Except Error Report × Disk} (replaces : calls.Replaces)
    (attempt : Attempt calls directory key value disk result) :
    IsChange calls directory key value disk result := by
  cases attempt with
  | refused error refused =>
      constructor
      · exact nofun
      · exact fun _ => ⟨error, rfl⟩
      · exact fun notRefused => absurd refused notRefused
  | @saved before after altered loaded sets saved =>
      constructor
      · exact fun _ _ => ⟨before, after, loaded, sets, load_of_saveBy replaces saved⟩
      · exact fun refused => absurd sets (refused before after loaded)
      · exact fun _ _ failed => nomatch failed
  | @failed before after altered fault loaded sets failed =>
      constructor
      · exact nofun
      · exact fun refused => absurd sets (refused before after loaded)
      · intro _ error same
        cases same
        exact ⟨before, after, fault, loaded, sets, failed, rfl⟩

end Changes

section Runs

/-- The value that the last change of a key gives it. -/
def lastValue? (key : String) (sets : List (String × String)) : Option String :=
  (sets.filter fun set => set.1 = key).getLast?.map Prod.snd

/-- The settings with the last value that some changes give each key. -/
def overridden (settings : Settings) (sets : List (String × String)) : Settings where
  databasePath :=
    match lastValue? "database-path" sets with
    | none => settings.databasePath
    | some value => if value = "" then none else some value
  logLevel := ((lastValue? "log-level" sets).map String.toLower).getD settings.logLevel

/-- Sets keys to values one after the other, whether or not it fails, and lists the
changes that succeed. -/
def setAll (calls : Calls) (directory : String) :
    List (String × String) → Disk → List (String × String) × Disk
  | [], disk => ([], disk)
  | (key, value) :: rest, disk =>
      let (outcome, altered) := runBy calls directory (.set key value) disk
      let (done, last) := setAll calls directory rest altered
      (if outcome.toBool then (key, value) :: done else done, last)

/-- Whether every change that could not be saved, though it was not refused, has left what
is loaded as it was. -/
def Undamaged (calls : Calls) (directory : String) : List (String × String) → Disk → Prop
  | [], _ => True
  | (key, value) :: rest, disk =>
      let result := runBy calls directory (.set key value) disk
      (¬Refused directory key value disk → result.1.toBool = false →
        load directory result.2 = load directory disk) ∧
      Undamaged calls directory rest result.2

variable {rest : List (String × String)}

theorem lastValue?_cons (key other value : String) (rest : List (String × String)) :
    lastValue? key ((other, value) :: rest) =
      (lastValue? key rest).or (if other = key then some value else none) := by
  by_cases same : other = key
  · simp only [lastValue?, same, decide_true, List.filter_cons_of_pos, List.getLast?_cons, if_true]
    cases (rest.filter fun set => set.1 = key).getLast? <;> rfl
  · simp [lastValue?, same]

theorem Sets.overridden_cons (sets : Sets before key value after)
    (rest : List (String × String)) :
    overridden before ((key, value) :: rest) = overridden after rest := by
  cases sets with
  | databasePath =>
      simp only [overridden, lastValue?_cons]
      cases lastValue? "database-path" rest <;> simp
  | logLevel =>
      simp only [overridden, lastValue?_cons]
      cases lastValue? "log-level" rest <;> simp

theorem setAll_cons (calls : Calls) (directory key value : String)
    (rest : List (String × String)) (disk : Disk) :
    setAll calls directory ((key, value) :: rest) disk =
      let result := change calls directory key value disk
      let others := setAll calls directory rest result.2
      (if result.1.toBool then (key, value) :: others.1 else others.1, others.2) := rfl

theorem undamaged_cons_iff : Undamaged calls directory ((key, value) :: rest) disk ↔
    let result := change calls directory key value disk
    (¬Refused directory key value disk → result.1.toBool = false →
      load directory result.2 = load directory disk) ∧
    Undamaged calls directory rest result.2 := .rfl

/-- A change that succeeds damages nothing, and neither does one that comes to nothing before
it is saved. -/
theorem Undamaged.cons
    (settled : (change calls directory key value disk).1.toBool = true ∨
      ((load directory disk).bind fun settings => settings.set key value).toBool = false)
    (others : Undamaged calls directory rest (change calls directory key value disk).2) :
    Undamaged calls directory ((key, value) :: rest) disk := by
  refine ⟨fun _ failed => ?_, others⟩
  change (change calls directory key value disk).1.toBool = false at failed
  change load directory (change calls directory key value disk).2 = load directory disk
  rcases settled with succeeded | stopped
  · rw [succeeded] at failed
    cases failed
  · unfold Settings.change
    split
    next => rfl
    next done =>
      rw [done] at stopped
      cases stopped

theorem load_setAll (replaces : calls.Replaces) (directory : String)
    (sets : List (String × String)) (disk : Disk)
    (undamaged : Undamaged calls directory sets disk) :
    load directory (setAll calls directory sets disk).2 =
      (load directory disk).map (overridden · (setAll calls directory sets disk).1) := by
  induction sets generalizing disk with
  | nil =>
      change load directory disk = (load directory disk).map (overridden · [])
      cases load directory disk <;> rfl
  | cons set rest inductionHypothesis =>
      obtain ⟨key, value⟩ := set
      have attempt := attempt_change calls directory key value disk
      obtain ⟨spared, others⟩ := undamaged_cons_iff.mp undamaged
      rw [setAll_cons]
      generalize change calls directory key value disk = result at attempt spared others
      cases attempt with
      | refused => exact inductionHypothesis disk others
      | @saved _ after altered loaded sets saved =>
          have onward := inductionHypothesis altered others
          rw [load_of_saveBy replaces saved] at onward
          rw [loaded]
          exact onward.trans (congrArg Except.ok (sets.overridden_cons _).symm)
      | @failed before after altered _ loaded sets _ =>
          have same := spared (fun refused => refused before after loaded sets) rfl
          rw [← same]
          exact inductionHypothesis altered others

end Runs

/-- A change gives one key another value, or is refused and leaves the disk as it was, or
cannot be saved.  Changes one after the other override what was loaded before by the last
value of each key, as long as those that could not be saved have not changed what is loaded. -/
theorem overridden_of_setAll (calls : Calls) (replaces : calls.Replaces) (directory : String)
    (disk : Disk) :
    (∀ key value,
      IsChange calls directory key value disk (runBy calls directory (.set key value) disk)) ∧
    ∀ sets, Undamaged calls directory sets disk →
      load directory (setAll calls directory sets disk).2 =
        (load directory disk).map (overridden · (setAll calls directory sets disk).1) :=
  ⟨fun key value => (attempt_change calls directory key value disk).isChange replaces,
    fun sets => load_setAll replaces directory sets disk⟩

theorem overridden_of_setAll_again :
    let disk : Disk := ⟨[], Table.empty⟩
    let sets := [("log-level", "DEBUG"), ("log-level", "loud"), ("log-level", "Info")]
    let result := setAll Disk.calls "cfg" sets disk
    Disk.calls.Replaces ∧ Undamaged Disk.calls "cfg" sets disk ∧
      result.1 = [("log-level", "DEBUG"), ("log-level", "Info")] ∧
      load "cfg" result.2 = .ok ⟨none, "info"⟩ := by
  intro disk sets result
  have undamaged : Undamaged Disk.calls "cfg" sets disk :=
    Undamaged.cons (.inl (by decide +kernel))
      (Undamaged.cons (.inr (by decide +kernel))
        (Undamaged.cons (.inl (by decide +kernel)) trivial))
  have done : result.1 = [("log-level", "DEBUG"), ("log-level", "Info")] := by decide +kernel
  have loaded := (overridden_of_setAll Disk.calls replaces_calls "cfg" disk).2 sets undamaged
  refine ⟨replaces_calls, undamaged, done, loaded.trans ?_⟩
  change (load "cfg" disk).map (overridden · result.1) = _
  rw [done]
  exact OnDisk.eq_ok_of_toOption (by decide +kernel)

/-- Where the path of the document leads through a directory that is missing, a change that
cannot be saved brings a directory to it; and where there is no room, the document is lost. -/
theorem not_overridden_of_unsaved :
    (let disk : Disk := ⟨[], Table.empty⟩
      let result := setAll Disk.calls "config.json/.." [("log-level", "info")] disk
      Disk.calls.Replaces ∧ load "config.json/.." disk = .ok default ∧ result.1 = [] ∧
        load "config.json/.." result.2 ≠
          (load "config.json/.." disk).map (overridden · result.1)) ∧
    (let calls := Calls.ofRoom 0
      let disk := (run "cfg" (.set "log-level" "info") ⟨[], Table.empty⟩).2
      let result := setAll calls "cfg" [("log-level", "debug")] disk
      calls.Replaces ∧ load "cfg" disk = .ok ⟨none, "info"⟩ ∧ result.1 = [] ∧
        load "cfg" result.2 ≠ (load "cfg" disk).map (overridden · result.1)) := by
  have lost {before after : Except Error Settings} {sets : List (String × String)}
      {settings : Settings} (loaded : before = .ok settings) (unloadable : after.toBool = false) :
      after ≠ before.map (overridden · sets) := by
    rintro rfl
    rw [loaded] at unloadable
    cases unloadable
  constructor
  · intro disk result
    have loaded : load "config.json/.." disk = .ok default := rfl
    exact ⟨replaces_calls, loaded, by decide +kernel, lost loaded (by decide +kernel)⟩
  · intro calls disk result
    have loaded : load "cfg" disk = .ok ⟨none, "info"⟩ :=
      OnDisk.eq_ok_of_toOption (by decide +kernel)
    exact ⟨replaces_ofRoom 0, loaded, by decide +kernel, lost loaded (by decide +kernel)⟩

end TagCatalog.Settings

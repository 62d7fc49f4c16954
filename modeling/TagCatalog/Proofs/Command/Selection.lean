import TagCatalog.Proofs.Command.Exactness
import TagCatalog.Proofs.Command.Failure
import TagCatalog.Proofs.Command.Refusal
import TagCatalog.Proofs.Store.Simulation

/-!
# Paths that select their files

A text that starts with `uuid:` names a file by its identifier, whatever the paths of the
files are.  So the path of a file selects that file unless it is misleading: it starts
like this, and what follows is not the identifier of the file.
-/

namespace TagCatalog.Command

open Store

variable {State Result : Type} {store : Store State} {state : State} {database : Database}
  {selector : String} {file : File}

/-- Whether the path of a file starts as an identifier that is not that of the file. -/
def Misleading (file : File) : Prop :=
  ∃ rest, file.path.toList = Selector.marker ++ rest ∧ Uuid.ofText? rest ≠ some file.id

theorem not_misleading_iff : ¬ Misleading file ↔
    Selector.ofText file.path = .ok (.id file.id) ∨
      Selector.ofText file.path = .ok (.path file.path) := by
  rw [Selector.ofText_eq_id_iff, Selector.ofText_eq_path_iff]
  cases marked : Selector.afterMarker? file.path.toList with
  | none =>
      refine ⟨fun _ => .inr ⟨rfl, rfl⟩, ?_⟩
      rintro - ⟨rest, starts, -⟩
      rw [Selector.afterMarker?_eq_some_iff.mpr starts] at marked
      cases marked
  | some rest =>
      have starts := Selector.afterMarker?_eq_some_iff.mp marked
      constructor
      · intro honest
        refine .inl ⟨rest, rfl, Decidable.byContradiction fun differs => ?_⟩
        exact honest ⟨rest, starts, differs⟩
      · rintro (⟨_, same, own⟩ | ⟨unmarked, -⟩)
        · rintro ⟨other, otherStarts, differs⟩
          cases same
          rw [List.append_cancel_left (starts.symm.trans otherStarts)] at own
          exact differs own
        · cases unmarked

/-- Whether a call acts on a file and on no other, and fails only with an error of its own:
never because the file is unknown or an identifier is wrong. -/
structure ActsOn (store : Store State) (state : State) (file : File) (call : Call) : Prop where
  affected : ∀ report, (call.perform store state).1 = .ok (.report report) →
    report.affected.map File.id = [file.id]
  others : ∃ records altered, Exhibits store state records ∧
    Exhibits store (call.perform store state).2 altered ∧
    (∀ id, id ≠ file.id → altered.get? id = records.get? id) ∧
    ∀ report, (call.perform store state).1 = .ok (.report report) → call.isQuestion = false →
      Alters records call report altered
  fails : ∀ error, (call.perform store state).1 = .error error →
    FailsOn store state file call error

def Registered (store : Store State) (state : State) (file : File) : Prop :=
  ∃ report, (Command.files store state).1 = .ok report ∧ file ∈ report.listed.map ListedFile.file

/-- Whether the path of a file selects it as its identifier does, unless it is misleading. -/
structure SelectsItself (store : Store State) (state : State) (file : File) : Prop where
  shows : ¬ Misleading file → ∃ tags, (store.tags file state).1 = .ok tags ∧
    Command.tags store file.path state = (.ok { affected := [file], tags }, state)
  sameAsId : ¬ Misleading file → ∀ act, Selecting act →
    (act file.path).perform store state = (act (Selector.id file.id).text).perform store state
  acts : ¬ Misleading file → ∀ act, Selecting act → ActsOn store state file (act file.path)
  misleads : Misleading file → (resolveText store file.path state).1 ≠ .ok file

theorem bind_congr {first other : Action State Result} {Second : Type}
    (same : first state = other state) (next : Result → Action State Second) :
    (first >>= next) state = (other >>= next) state := by
  simp only [bind, ExceptT.bind, ExceptT.mk, StateT.bind, same]

/-- Selectors that name the same file make the same of a command. -/
theorem perform_congr_selector {other : String} {selected otherSelected : Selector}
    (isSelector : Selector.ofText selector = .ok selected)
    (isOther : Selector.ofText other = .ok otherSelected)
    (same : resolve store selected state = resolve store otherSelected state)
    {act : String → Call} (selecting : Selecting act) :
    (act selector).perform store state = (act other).perform store state := by
  have sameText : resolveText store selector state = resolveText store other state := by
    rw [resolveText_of_ofText isSelector, resolveText_of_ofText isOther, same]
  have chosen := ofExcept_of_ok isSelector state
  have otherChosen := ofExcept_of_ok isOther state
  cases selecting with
  | tags | unset | remove => exact bind_congr (bind_congr sameText _) _
  | set name value =>
      apply bind_congr
      rw [Command.set, Command.set, Action.bind_of_ok chosen, Action.bind_of_ok otherChosen]
      cases parsed : parseTag name value with
      | error => rfl
      | ok tag => exact bind_congr same _
  | move now path =>
      apply bind_congr
      rw [Command.move, Command.move, Action.bind_of_ok chosen, Action.bind_of_ok otherChosen]
      split
      next => rfl
      next => exact bind_congr same _

theorem affected_of_succeeds {act : String → Call} (selecting : Selecting act)
    (resolved : (resolveText store selector state).1 = .ok file) {report : Report} {after : State}
    (succeeds : Succeeds store state (act selector) report after) :
    report.affected.map File.id = [file.id] := by
  have same {other : File} (found : (resolveText store selector state).1 = .ok other) :
      other.id = file.id := by
    rw [resolved] at found
    rw [Except.ok.inj found]
  cases selecting with
  | tags => cases succeeds
  | set =>
      cases succeeds with
      | set found _ _ affected => rw [affected, List.map_singleton, same found]
  | unset =>
      cases succeeds with
      | unset found _ affected => rw [affected, List.map_singleton, same found]
  | remove =>
      cases succeeds with
      | removed found _ affected => rw [affected, List.map_singleton, same found]
  | move =>
      cases succeeds with
      | stayed found _ affected | moved found _ _ _ affected =>
          rw [affected, List.map_singleton, same found]

theorem exists_report_of_map {action : Action State Report} {reply : Reply} {after : State}
    (mapped : (Reply.report <$> action) state = (.ok reply, after)) :
    ∃ report, reply = .report report := by
  rw [Action.map_eq] at mapped
  cases outcome : (action state).1 with
  | error =>
      rw [outcome] at mapped
      cases mapped
  | ok report =>
      rw [outcome] at mapped
      cases mapped
      exact ⟨report, rfl⟩

theorem exists_report_of_perform {act : String → Call} (selecting : Selecting act) {reply : Reply}
    {after : State} (done : (act selector).perform store state = (.ok reply, after)) :
    ∃ report, reply = .report report := by
  cases selecting with
  | tags | set | unset | move | remove => exact exists_report_of_map done

theorem actsOn_tags (follows : store.Follows state database)
    (resolved : (resolveText store selector state).1 = .ok file) :
    ActsOn store state file (.tags selector) := by
  have consistent := follows.consistent
  have exhibits := exhibits_of_reflects follows.reflects consistent
  obtain ⟨record, selected, samePath⟩ :=
    (resolveText_eq_ok_iff follows.reflects consistent).mp resolved
  have asked := tags_apply follows.reflects consistent selected samePath
  refine ⟨?_, ?_, fun _ => failsOn_of_perform follows resolved .tags⟩
  · intro report done
    rw [Call.perform, Action.map_eq, asked] at done
    cases done
    rfl
  · rw [Call.silent_of_isQuestion follows.reflects.asks (.tags selector) rfl]
    exact ⟨_, _, exhibits, exhibits, fun _ _ => rfl, fun _ _ same => by cases same⟩

theorem actsOn_of_resolves (follows : store.Follows state database) {act : String → Call}
    (selecting : Selecting act) (resolved : (resolveText store selector state).1 = .ok file)
    (kept : ∀ error after, (act selector).perform store state = (.error error, after) →
      store.Reflects after database) : ActsOn store state file (act selector) := by
  have consistent := follows.consistent
  cases question : (act selector).isQuestion with
  | true =>
      cases selecting with
      | tags => exact actsOn_tags follows resolved
      | set | unset | move | remove => cases question
  | false =>
      have exhibits := exhibits_of_reflects follows.reflects consistent
      cases step : (act selector).perform store state with
      | mk outcome after =>
          refine ⟨?_, ?_, fun _ => failsOn_of_perform follows resolved selecting⟩ <;> rw [step]
          · intro report done
            cases done
            have succeeds := succeeds_of_perform follows.reflects.asks question step
            exact affected_of_succeeds selecting resolved succeeds
          · cases outcome with
            | error error =>
                have still := exhibits_of_reflects (kept error after step) consistent
                exact ⟨_, _, exhibits, still, fun _ _ => rfl, nofun⟩
            | ok reply =>
                obtain ⟨report, rfl⟩ := exists_report_of_perform selecting step
                have succeeds := succeeds_of_perform follows.reflects.asks question step
                have affected := affected_of_succeeds selecting resolved succeeds
                have fresh : (act selector).IsFresh store state := by
                  cases selecting <;> trivial
                obtain ⟨altered, stays, reflects, alters⟩ :=
                  exists_alters_of_succeeds follows fresh succeeds
                refine ⟨_, _, exhibits, exhibits_of_reflects reflects stays, ?_, ?_⟩
                · intro id differs
                  apply alters.get?_of_unaffected
                  intro other isAffected same
                  have isOnly := List.mem_map_of_mem (f := File.id) isAffected
                  rw [affected, List.mem_singleton] at isOnly
                  exact differs (same.symm.trans isOnly)
                · intro other done _
                  cases done
                  exact alters

theorem registered_iff (reflects : store.Reflects state database) :
    Registered store state file ↔ file ∈ database.allFiles := by
  rw [Registered, files_apply reflects, ← database.map_file_listing]
  constructor
  · rintro ⟨_, same, membership⟩
    cases same
    exact membership
  · exact fun membership => ⟨_, rfl, membership⟩

theorem selectsItself_of_follows (follows : store.Follows state database)
    (kept : ∀ (call : Call) error after, call.perform store state = (.error error, after) →
      store.Reflects after database) (membership : file ∈ database.allFiles) :
    SelectsItself store state file := by
  have consistent := follows.consistent
  have reflects := follows.reflects
  obtain ⟨record, present, samePath⟩ := Database.mem_allFiles_iff.mp membership
  have inMemory := Database.get?_toMemory_of_mem present
  have byId := (reflects.file file.id).trans (Database.file_id_eq_ok_iff.mpr membership)
  have byPath := (reflects.fileAt file.path).trans
    (consistent.fileAt_eq_ok_iff.mpr ⟨membership, rfl⟩)
  have selects (honest : ¬ Misleading file) :
      Selects database.toMemory.records file.path file.id record.toMemory := by
    refine ⟨inMemory, ?_⟩
    rw [Database.Record.toMemory, samePath]
    exact not_misleading_iff.mp honest
  have resolved (honest : ¬ Misleading file) :
      (resolveText store file.path state).1 = .ok file :=
    (resolveText_eq_ok_iff reflects consistent).mpr ⟨_, selects honest, samePath⟩
  constructor
  · intro honest
    have tags := (reflects.tags file).trans (consistent.tags_of_get? present)
    exact ⟨_, tags, tags_apply reflects consistent (selects honest) samePath⟩
  · intro honest act selecting
    have asks := reflects.asks
    have idSelects := Selector.ofText_text_id file.id
    have foundById := (asks.file file.id).eq state
    rw [byId] at foundById
    rcases not_misleading_iff.mp honest with isId | isPath
    · exact perform_congr_selector isId idSelects rfl selecting
    · have foundByPath := (asks.fileAt file.path).eq state
      rw [byPath] at foundByPath
      exact perform_congr_selector isPath idSelects (foundByPath.trans foundById.symm) selecting
  · intro honest act selecting
    exact actsOn_of_resolves follows selecting (resolved honest) (kept _)
  · intro misleading found
    obtain ⟨_, ⟨-, selected⟩, otherPath⟩ :=
      (resolveText_eq_ok_iff reflects consistent).mp found
    rw [otherPath] at selected
    exact not_misleading_iff.mpr selected misleading

theorem kept_memory (consistent : database.Consistent) {call : Call} {error : Error}
    {after : Memory}
    (failed : call.perform Memory.store database.toMemory = (.error error, after)) :
    Memory.store.Reflects after database := by
  rcases call.eq_or_exists_operation Memory.asksSilently failed with rfl | ⟨_, failed⟩
  · exact reflects_memory consistent
  · rw [Memory.eq_of_perform failed]
    exact reflects_memory consistent

/-- The path of a document with a file in it is anchored. -/
theorem kept_disk {path : String} {disk after : Disk} {call : Call} {error : Error}
    (loaded : OnDisk.load path disk = .ok database) (membership : file ∈ database.allFiles)
    (failed : call.perform (OnDisk.store path) disk = (.error error, after)) :
    (OnDisk.store path).Reflects after database := by
  have located : ∃ place, disk.locate path = .ok place := by
    cases found : disk.find path with
    | ok node =>
        obtain ⟨place, located, -⟩ := Disk.find_eq_ok_iff.mp found
        exact ⟨place, located⟩
    | error =>
        have missing : disk.contains path = false := by
          rw [Disk.contains, found]
          rfl
        rw [OnDisk.load, missing] at loaded
        cases loaded
        obtain ⟨_, present, -⟩ := Database.mem_allFiles_iff.mp membership
        cases present
  obtain ⟨place, located⟩ := located
  have anchored := Disk.anchored_of_locate located
  rcases call.eq_or_exists_operation (OnDisk.asksSilently path) failed with rfl | ⟨_, failed⟩
  · exact reflects_disk loaded
  · have spared := OnDisk.spared_of_perform failed
    exact reflects_disk ((OnDisk.load_eq_of_find (spared.document anchored)).trans loaded)

theorem registered_of_get? {memory : Memory} {record : Memory.Record}
    (reached : ReachesMemory memory) (present : memory.records.get? file.id = some record)
    (samePath : record.path = file.path) : Registered Memory.store memory file := by
  obtain ⟨database, rfl, sound⟩ := sound_of_reachesMemory reached
  obtain ⟨kept, isKept, rfl⟩ := Database.get?_toMemory_eq_some_iff.mp present
  apply (registered_iff (reflects_memory sound.consistent)).mpr
  exact Database.mem_allFiles_iff.mpr ⟨kept, isKept, samePath⟩

/-- The path of every file selects that file, unless it is misleading: in the memories
that calls reach, and on any disk. -/
theorem selectsItself_of_registered :
    (∀ memory file, ReachesMemory memory → Registered Memory.store memory file →
      SelectsItself Memory.store memory file) ∧
    ∀ path disk file, Registered (OnDisk.store path) disk file →
      SelectsItself (OnDisk.store path) disk file := by
  constructor
  · intro memory file reached registered
    obtain ⟨database, rfl, sound⟩ := sound_of_reachesMemory reached
    have consistent := sound.consistent
    apply selectsItself_of_follows (follows_memory consistent)
    · exact fun _ _ _ => kept_memory consistent
    · exact (registered_iff (reflects_memory consistent)).mp registered
  · intro path disk file registered
    have loads : ∃ database, OnDisk.load path disk = .ok database := by
      obtain ⟨report, listed, -⟩ := registered
      obtain ⟨_, _, listing, -⟩ := Action.exists_of_bind_eq_ok (Prod.ext listed rfl)
      obtain ⟨database, loaded, -⟩ :=
        Action.exists_of_except_bind_eq_ok (congrArg Prod.fst listing)
      exact ⟨database, loaded⟩
    obtain ⟨database, loaded⟩ := loads
    have membership := (registered_iff (reflects_disk loaded)).mp registered
    apply selectsItself_of_follows (follows_disk loaded)
    · exact fun _ _ _ => kept_disk loaded membership
    · exact membership

/-- The path of a file that starts with its own identifier, and one that starts with none. -/
theorem selectsItself_marked :
    let path := "uuid:00000000-0000-0000-0000-000000000001"
    let file : File := ⟨⟨1, by decide⟩, path⟩
    let memory := ((Call.add Instant.epoch ⟨1, by decide⟩ path).perform Memory.store .empty).2
    (ReachesMemory memory ∧ Registered Memory.store memory file ∧ ¬ Misleading file ∧
      SelectsItself Memory.store memory file) ∧
    Registered (OnDisk.store "db.json") OnDisk.handwrittenDisk ⟨OnDisk.handwrittenId, "a"⟩ ∧
      SelectsItself (OnDisk.store "db.json") OnDisk.handwrittenDisk ⟨OnDisk.handwrittenId, "a"⟩ := by
  intro path file memory
  have reached : ReachesMemory memory := .call _ .empty
  have listed : (files Memory.store memory).1 = .ok { listed := [⟨file, some Instant.epoch⟩] } := by
    decide +kernel
  have registered : Registered Memory.store memory file :=
    ⟨_, listed, List.mem_singleton_self _⟩
  have honest : ¬ Misleading file := by
    apply not_misleading_iff.mpr
    exact .inl (by decide +kernel)
  have onDisk : Registered (OnDisk.store "db.json") OnDisk.handwrittenDisk
      ⟨OnDisk.handwrittenId, "a"⟩ := by
    apply (registered_iff (reflects_disk OnDisk.load_handwritten)).mpr
    decide +kernel
  exact ⟨⟨reached, registered, honest, selectsItself_of_registered.1 _ _ reached registered⟩,
    onDisk, selectsItself_of_registered.2 _ _ _ onDisk⟩

/-- A path that is no identifier selects nothing, and one that is the identifier of
another file selects that one, so a removal removes it. -/
theorem not_actsOn_marked :
    let first : Uuid := ⟨1, by decide⟩
    let second : Uuid := ⟨2, by decide⟩
    let faulty := ((Call.add Instant.epoch first "uuid:x").perform Memory.store .empty).2
    let path := "uuid:00000000-0000-0000-0000-000000000001"
    let other := ((Call.add Instant.epoch first "a").perform Memory.store .empty).2
    let both := ((Call.add Instant.epoch second path).perform Memory.store other).2
    let removed := (Call.remove path).perform Memory.store both
    (ReachesMemory faulty ∧ Registered Memory.store faulty ⟨first, "uuid:x"⟩ ∧
      (Command.tags Memory.store "uuid:x" faulty).1 = .error (.invalidFileId "x")) ∧
    ReachesMemory both ∧ Registered Memory.store both ⟨second, path⟩ ∧
      (files Memory.store removed.2).1 =
        .ok { listed := [⟨⟨second, path⟩, some Instant.epoch⟩] } ∧
      ¬ ActsOn Memory.store both ⟨second, path⟩ (.remove path) := by
  intro first second faulty path other both removed
  have faultyReached : ReachesMemory faulty := .call _ .empty
  have reached : ReachesMemory both := .call _ (.call _ .empty)
  have faultyPresent : faulty.records.get? first = some ⟨"uuid:x", Instant.epoch, .empty⟩ := rfl
  have present : both.records.get? second = some ⟨path, Instant.epoch, .empty⟩ := rfl
  have done : removed.1 = .ok (.report {
      affected := [⟨first, "a"⟩]
      messages := [⟨.success, "Removed 00000000-0000-0000-0000-000000000001 a"⟩] }) := by
    decide +kernel
  refine ⟨⟨faultyReached, registered_of_get? faultyReached faultyPresent rfl, by decide +kernel⟩,
    reached, registered_of_get? reached present rfl, by decide +kernel, fun acts => ?_⟩
  have affected := acts.affected _ done
  cases affected

end TagCatalog.Command

import TagCatalog.Proofs.Command.Selection
import TagCatalog.Proofs.Store.Convergence
import TagCatalog.Proofs.Uuid

/-!
# Identifiers that go on to name their files

In whatever form the identifier of a file is spelled, it selects that file.  A file goes by its
identifier from its registration to its removal: calls may move it, change its tags and remove
other files, and it is still listed with the time of its registration, at the place where its
last move has put it.
-/

namespace TagCatalog

namespace Selector

def marked (spelling : List Char) : String :=
  String.ofList (marker ++ spelling)

theorem ofText_eq_id_iff_spells {text : String} {id : Uuid} :
    ofText text = .ok (.id id) ↔ ∃ spelling, id.Spells spelling ∧ text = marked spelling := by
  rw [ofText_eq_id_iff]
  constructor
  · rintro ⟨rest, found, read⟩
    refine ⟨rest, Uuid.ofText?_eq_some_iff.mp read, ?_⟩
    rw [marked, ← afterMarker?_eq_some_iff.mp found, String.ofList_toList]
  · rintro ⟨spelling, spells, rfl⟩
    exact ⟨spelling, afterMarker?_eq_some_iff.mpr String.toList_ofList,
      Uuid.ofText?_eq_some_iff.mpr spells⟩

theorem ofText_text_of_ofText {text : String} {selector : Selector}
    (read : ofText text = .ok selector) : ofText selector.text = .ok selector := by
  cases selector with
  | id id => exact ofText_text_id id
  | path path =>
      obtain ⟨-, rfl⟩ := ofText_eq_path_iff.mp read
      exact read

end Selector

/-- The file as a change of a store leaves it. -/
def Store.Operation.relocated (file : File) : Operation → File
  | .updateFile _ moved _ => if moved.id = file.id then moved else file
  | _ => file

namespace Database

variable {database altered : Database} {id : Uuid} {record : Record} {entry : ListedFile}

theorem mem_listing_put (isListed : entry ∈ database.listing)
    (same : entry.file.id = id →
      record.path = entry.file.path ∧ some record.addedAt = entry.addedAt) :
    entry ∈ (database.put id record).listing := by
  by_cases isRecord : entry.file.id = id
  · refine mem_listing_iff.mpr ⟨record, ?_, same isRecord⟩
    rw [isRecord, get?_put_self]
  · obtain ⟨kept, present, unchanged⟩ := mem_listing_iff.mp isListed
    refine mem_listing_iff.mpr ⟨kept, ?_, unchanged⟩
    rw [Database.put, Table.get?_insert_of_ne _ _ isRecord, present]

/-- A change keeps the identifier and the time of every file but one that it removes. -/
theorem mem_listing_alter {operation : Store.Operation}
    (altering : operation.alter database = .ok altered) (isListed : entry ∈ database.listing)
    (spared : operation ≠ .removeFile entry.file.id) :
    ⟨operation.relocated entry.file, entry.addedAt⟩ ∈ altered.listing := by
  obtain ⟨record, present, unchanged⟩ := mem_listing_iff.mp isListed
  cases operation with
  | updateTag id tag =>
      obtain ⟨other, found, rfl⟩ := exists_of_updateTag altering
      apply mem_listing_put isListed
      rintro rfl
      rw [present] at found
      cases found
      exact unchanged
  | removeTag id name =>
      obtain ⟨other, found, rfl⟩ := exists_of_removeTag altering
      apply mem_listing_put isListed
      rintro rfl
      rw [present] at found
      cases found
      exact unchanged
  | updateFile now file tags =>
      rw [Store.Operation.relocated]
      split
      next same =>
        obtain ⟨free, -⟩ := exists_of_updateFile altering
        have written := updateFile_of_get? free (same ▸ present) now tags
        cases altering.symm.trans written
        exact mem_listing_iff.mpr ⟨_, get?_put_self .., rfl, unchanged.2⟩
      next other =>
        obtain ⟨-, addedAt, rfl⟩ := exists_of_updateFile altering
        exact mem_listing_put isListed fun same => absurd same.symm other
  | removeFile id =>
      have other : entry.file.id ≠ id := fun same => spared (congrArg _ same.symm)
      rw [eq_of_removeFile altering]
      refine mem_listing_iff.mpr ⟨record, ?_, unchanged⟩
      exact (Table.get?_erase_of_ne _ other).trans present
  | file | fileAt | allFiles | tags | addedAt | listing | matching =>
      cases altering
      exact isListed

end Database

namespace Command

open Store

variable {State : Type} {store : Store State} {state after : State} {database : Database}
  {file : File} {entry : ListedFile} {call : Call} {report : Report}
  {trail : List (Call × Except Error Reply)}

inductive Runs (store : Store State) :
    State → List (Call × Except Error Reply) → State → Prop where
  | nil {state : State} : Runs store state [] state
  | call {state after : State} {trail : List (Call × Except Error Reply)} (call : Call) :
      Runs store (call.perform store state).2 trail after →
      Runs store state ((call, (call.perform store state).1) :: trail) after

/-- The file as a call with its outcome leaves it: elsewhere if it has been moved. -/
def left (file : File) : Call × Except Error Reply → File
  | (.move _ _ path, .ok (.report report)) =>
      if report.affected.any fun moved => moved.id = file.id then { file with path } else file
  | _ => file

/-- Whether a call neither removes the file with an identifier nor gives the identifier to
another one. -/
def Spares (id : Uuid) : Call × Except Error Reply → Prop
  | (.remove _, .ok (.report report)) => ∀ removed ∈ report.affected, removed.id ≠ id
  | (.add _ fresh _, _) => fresh ≠ id
  | _ => True

def IsListed (store : Store State) (state : State) (entry : ListedFile) : Prop :=
  ∃ report, (files store state).1 = .ok report ∧ entry ∈ report.listed

/-- The calls that report the identifier of a file which they leave registered. -/
inductive Reports : Call → Report → File → Prop where
  | added {now : Instant} {fresh : Uuid} {path : String} {report : Report} {file : File} :
      file ∈ report.affected → Reports (.add now fresh path) report file
  | listed {report : Report} {entry : ListedFile} :
      entry ∈ report.listed → Reports .files report entry.file

/-- Whether the identifier of a file, however it is spelled, selects that file and no other. -/
structure SelectedById (store : Store State) (state : State) (file : File) : Prop where
  resolves : ∀ spelling, file.id.Spells spelling →
    resolveText store (Selector.marked spelling) state = (.ok file, state)
  acts : ∀ spelling, file.id.Spells spelling → ∀ act, Selecting act →
    ActsOn store state file (act (Selector.marked spelling))

/-- Whether a file goes by its identifier from now on: calls that spare it leave it listed with
the same time, where the moves have put it, and its identifier selects it there. -/
def Lasts (store : Store State) (state : State) (file : File) : Prop :=
  ∃ time, ∀ trail after, Runs store state trail after →
    (∀ step ∈ trail, Spares file.id step) → ∃ moved, moved = trail.foldl left file ∧
      moved.id = file.id ∧ IsListed store after ⟨moved, time⟩ ∧ SelectedById store after moved

/-- Whether a store follows a database, and still shows it when a call has failed. -/
structure Keeps (store : Store State) (state : State) (database : Database) : Prop where
  follows : store.Follows state database
  afterError : ∀ (call : Call) error after, call.perform store state = (.error error, after) →
    store.Reflects after database

/-- Whether states of some kind stay of that kind, and keep whatever they list. -/
structure Steady (store : Store State) (Holds : State → Prop) : Prop where
  call : ∀ {state} (call : Call), Holds state → Holds (call.perform store state).2
  keeps : ∀ {state entry}, Holds state → IsListed store state entry →
    ∃ database, Keeps store state database

theorem id_left (file : File) (step : Call × Except Error Reply) :
    (left file step).id = file.id := by
  unfold left
  split
  next => split <;> rfl
  next => rfl

theorem id_foldl_left (file : File) (trail : List (Call × Except Error Reply)) :
    (trail.foldl left file).id = file.id := by
  induction trail generalizing file with
  | nil => rfl
  | cons step rest inductionHypothesis =>
      rw [List.foldl_cons, inductionHypothesis, id_left]

theorem left_move {now : Instant} {selector path : String} {moved : File}
    (affected : report.affected = [moved]) :
    left file (.move now selector path, .ok (.report report)) =
      if moved.id = file.id then { file with path } else file := by
  simp [left, affected]

theorem isListed_iff (reflects : store.Reflects state database) :
    IsListed store state entry ↔ entry ∈ database.listing := by
  rw [IsListed, files_apply reflects]
  constructor
  · rintro ⟨_, same, membership⟩
    cases same
    exact membership
  · exact fun membership => ⟨_, rfl, membership⟩

theorem registered_iff_exists_isListed :
    Registered store state file ↔ ∃ time, IsListed store state ⟨file, time⟩ := by
  constructor
  · rintro ⟨report, listed, membership⟩
    obtain ⟨entry, inListing, rfl⟩ := List.mem_map.mp membership
    exact ⟨entry.addedAt, report, listed, inListing⟩
  · rintro ⟨time, report, listed, membership⟩
    exact ⟨report, listed, List.mem_map_of_mem (f := ListedFile.file) membership⟩

theorem path_eq_of_resolveText (follows : store.Follows state database) {selector : String}
    {found : File} (resolved : (resolveText store selector state).1 = .ok found)
    (isListed : entry ∈ database.listing) (same : found.id = entry.file.id) :
    found.path = entry.file.path := by
  obtain ⟨record, selected, samePath⟩ :=
    (resolveText_eq_ok_iff follows.reflects follows.consistent).mp resolved
  obtain ⟨kept, present, rfl⟩ := Database.get?_toMemory_eq_some_iff.mp selected.1
  obtain ⟨other, otherPresent, otherPath, -⟩ := Database.mem_listing_iff.mp isListed
  rw [same, otherPresent] at present
  cases present
  exact samePath.symm.trans otherPath

theorem isListed_of_done (follows : store.Follows state database) {operation : Operation}
    (isChange : operation.isQuestion = false)
    (done : store.perform operation state = (.ok .done, after))
    (isListed : entry ∈ database.listing) (spared : operation ≠ .removeFile entry.file.id) :
    IsListed store after ⟨operation.relocated entry.file, entry.addedAt⟩ := by
  obtain ⟨altered, -, reflects, altering⟩ := follows.exists_of_done isChange done
  exact (isListed_iff reflects).mpr (Database.mem_listing_alter altering isListed spared)

theorem isListed_of_succeeds (follows : store.Follows state database)
    (succeeds : Succeeds store state call report after) (isListed : entry ∈ database.listing)
    (spared : Spares entry.file.id (call, .ok (.report report))) :
    IsListed store after ⟨left entry.file (call, .ok (.report report)), entry.addedAt⟩ := by
  have still := (isListed_iff follows.reflects).mpr isListed
  cases succeeds with
  | known => exact still
  | @added now fresh path _ _ _ performed =>
      have kept := isListed_of_done follows rfl performed isListed nofun
      rwa [Operation.relocated, if_neg spared] at kept
  | @removed _ found _ _ _ performed affected =>
      have other : found.id ≠ entry.file.id :=
        spared found (affected ▸ List.mem_singleton_self found)
      apply isListed_of_done follows rfl performed isListed
      exact fun same => other (Operation.removeFile.inj same)
  | @stayed _ _ path found _ resolved here affected =>
      rw [left_move affected]
      split
      next same =>
        have samePath := path_eq_of_resolveText follows resolved isListed same
        rw [← here, samePath]
        exact still
      next => exact still
  | @moved now _ path found tags _ _ resolved _ _ performed affected =>
      have kept := isListed_of_done follows rfl performed isListed nofun
      rw [Operation.relocated] at kept
      rw [left_move affected]
      split
      next same =>
        rw [if_pos same] at kept
        have isMoved : ({ entry.file with path } : File) = { found with path } :=
          congrArg (File.mk · path) same.symm
        rwa [isMoved]
      next other => rwa [if_neg other] at kept
  | set _ _ performed => exact isListed_of_done follows rfl performed isListed nofun
  | unset _ performed => exact isListed_of_done follows rfl performed isListed nofun

theorem exists_report_of_change (isChange : call.isQuestion = false) {reply : Reply}
    (done : call.perform store state = (.ok reply, after)) : ∃ report, reply = .report report := by
  cases call with
  | add | remove | move | set | unset => exact exists_report_of_map done
  | tags | files | matchWords | find => cases isChange

theorem Keeps.isListed (keeps : Keeps store state database) (isListed : entry ∈ database.listing)
    (call : Call) (spared : Spares entry.file.id (call, (call.perform store state).1)) :
    IsListed store (call.perform store state).2
      ⟨left entry.file (call, (call.perform store state).1), entry.addedAt⟩ := by
  have asks := keeps.follows.reflects.asks
  cases step : call.perform store state with
  | mk outcome after =>
      rw [step] at spared
      cases outcome with
      | error error =>
          have unmoved : left entry.file (call, .error error) = entry.file := by cases call <;> rfl
          rw [unmoved]
          exact (isListed_iff (keeps.afterError call error after step)).mpr isListed
      | ok reply =>
          cases question : call.isQuestion with
          | true =>
              have same := call.silent_of_isQuestion asks question state
              have unmoved : left entry.file (call, .ok reply) = entry.file := by
                cases call with
                | move => cases question
                | _ => rfl
              rw [step] at same
              cases same
              rw [unmoved]
              exact (isListed_iff keeps.follows.reflects).mpr isListed
          | false =>
              obtain ⟨report, rfl⟩ := exists_report_of_change question step
              have succeeds := succeeds_of_perform asks question step
              exact isListed_of_succeeds keeps.follows succeeds isListed spared

/-- What is listed stays listed through calls that spare it. -/
theorem Steady.isListed {Holds : State → Prop} (steady : Steady store Holds)
    (runs : Runs store state trail after) (holds : Holds state)
    (isListed : IsListed store state entry) (spared : ∀ step ∈ trail, Spares entry.file.id step) :
    IsListed store after ⟨trail.foldl left entry.file, entry.addedAt⟩ := by
  induction runs generalizing entry with
  | nil => exact isListed
  | @call state after trail call _ inductionHypothesis =>
      obtain ⟨firstSpared, restSpared⟩ := List.forall_mem_cons.mp spared
      obtain ⟨database, keeps⟩ := steady.keeps holds isListed
      have inListing := (isListed_iff keeps.follows.reflects).mp isListed
      have next := keeps.isListed inListing call firstSpared
      apply inductionHypothesis (steady.call call holds) next
      -- The first call may have moved the file, but has not changed its identifier.
      intro step membership
      rw [id_left]
      exact restSpared step membership

theorem Steady.of_runs {Holds : State → Prop} (steady : Steady store Holds)
    (runs : Runs store state trail after) (holds : Holds state) : Holds after := by
  induction runs with
  | nil => exact holds
  | call call _ inductionHypothesis => exact inductionHypothesis (steady.call call holds)

theorem Keeps.selectedById (keeps : Keeps store state database)
    (registered : Registered store state file) : SelectedById store state file := by
  have reflects := keeps.follows.reflects
  have resolves : ∀ spelling, file.id.Spells spelling →
      resolveText store (Selector.marked spelling) state = (.ok file, state) := by
    intro spelling spells
    have isSelector := Selector.ofText_eq_id_iff_spells.mpr ⟨spelling, spells, rfl⟩
    exact resolveText_of_ofText_id reflects isSelector ((registered_iff reflects).mp registered)
  refine ⟨resolves, fun spelling spells act selecting => ?_⟩
  have resolved := congrArg Prod.fst (resolves spelling spells)
  exact actsOn_of_resolves keeps.follows selecting resolved (keeps.afterError _)

theorem Steady.selectedById {Holds : State → Prop} (steady : Steady store Holds)
    (holds : Holds state) (registered : Registered store state file) :
    SelectedById store state file := by
  obtain ⟨time, isListed⟩ := registered_iff_exists_isListed.mp registered
  obtain ⟨database, keeps⟩ := steady.keeps holds isListed
  exact keeps.selectedById registered

/-- Whatever is registered goes by its identifier from then on. -/
theorem Steady.lasts {Holds : State → Prop} (steady : Steady store Holds) (holds : Holds state)
    (registered : Registered store state file) : Lasts store state file := by
  obtain ⟨time, isListed⟩ := registered_iff_exists_isListed.mp registered
  refine ⟨time, fun trail after runs spared => ⟨_, rfl, id_foldl_left file trail, ?_⟩⟩
  have still := steady.isListed runs holds isListed spared
  have current := registered_iff_exists_isListed.mpr ⟨time, still⟩
  exact ⟨still, steady.selectedById (steady.of_runs runs holds) current⟩

theorem steady_memory : Steady Memory.store ReachesMemory where
  call call reached := .call call reached
  keeps := by
    intro memory entry reached _
    obtain ⟨database, rfl, sound⟩ := sound_of_reachesMemory reached
    exact ⟨database, follows_memory sound.consistent, fun _ _ _ => kept_memory sound.consistent⟩

variable {path : String} {disk : Disk}

theorem exists_load_of_isListed (isListed : IsListed (OnDisk.store path) disk entry) :
    ∃ database, OnDisk.load path disk = .ok database := by
  obtain ⟨report, listed, -⟩ := isListed
  obtain ⟨_, _, listing, -⟩ := Action.exists_of_bind_eq_ok (Prod.ext listed rfl)
  obtain ⟨database, loaded, -⟩ := Action.exists_of_except_bind_eq_ok (congrArg Prod.fst listing)
  exact ⟨database, loaded⟩

theorem steady_disk (path : String) : Steady (OnDisk.store path) fun _ => True where
  call _ _ := trivial
  keeps := by
    intro disk entry _ isListed
    obtain ⟨database, loaded⟩ := exists_load_of_isListed isListed
    have inListing := (isListed_iff (reflects_disk loaded)).mp isListed
    have membership : entry.file ∈ database.allFiles := by
      rw [← database.map_file_listing]
      exact List.mem_map_of_mem inListing
    exact ⟨database, follows_disk loaded, fun _ _ _ => kept_disk loaded membership⟩

theorem files_of_perform
    (done : Call.files.perform store state = (.ok (.report report), after)) :
    files store state = (.ok report, after) :=
  eq_ok_of_map_eq_ok (fun _ _ => Reply.report.inj) done

theorem registered_of_reports (follows : store.Follows state database)
    (done : call.perform store state = (.ok (.report report), after))
    (reports : Reports call report file) : Registered store after file := by
  have reflects := follows.reflects
  cases reports with
  | listed membership =>
      have listed := files_of_perform done
      have same := silent_files reflects.asks state
      rw [listed] at same
      cases same
      exact ⟨report, congrArg Prod.fst listed, List.mem_map_of_mem membership⟩
  | added membership =>
      cases succeeds_of_perform reflects.asks rfl done with
      | known found affected =>
          rw [affected, List.mem_singleton] at membership
          subst membership
          rw [reflects.fileAt] at found
          exact (registered_iff reflects).mpr (follows.consistent.fileAt_eq_ok_iff.mp found).1
      | added _ performed affected =>
          rw [affected, List.mem_singleton] at membership
          subst membership
          obtain ⟨altered, -, shown, altering⟩ := follows.exists_of_done rfl performed
          obtain ⟨-, addedAt, rfl⟩ := Database.exists_of_updateFile altering
          exact (registered_iff shown).mpr
            (Database.mem_allFiles_iff.mpr ⟨_, Database.get?_put_self .., rfl⟩)

theorem exists_load_of_reports {after : Disk}
    (done : call.perform (OnDisk.store path) disk = (.ok (.report report), after))
    (reports : Reports call report file) : ∃ database, OnDisk.load path disk = .ok database := by
  cases reports with
  | listed membership =>
      exact exists_load_of_isListed ⟨report, congrArg Prod.fst (files_of_perform done), membership⟩
  | added =>
      exact exists_load_of_succeeds (succeeds_of_perform (OnDisk.asksSilently path) rfl done)

/-- Behind the marker, just the spellings of an identifier select it, and every selector is
read again from its text.  The identifier of a file that is registered selects this file: in
the memories that calls reach, and on any disk.  It does so from the time when a
registration or a listing has reported it, wherever the file is moved. -/
theorem selectedById_of_registered :
    (∀ id : Uuid, id.Spells id.text ∧ ∀ text, Selector.ofText text = .ok (.id id) ↔
      ∃ spelling, id.Spells spelling ∧ text = Selector.marked spelling) ∧
    (∀ text selector, Selector.ofText text = .ok selector →
      Selector.ofText selector.text = .ok selector) ∧
    (∀ memory, ReachesMemory memory →
      (∀ file, Registered Memory.store memory file → SelectedById Memory.store memory file) ∧
      ∀ call report after file, call.perform Memory.store memory = (.ok (.report report), after) →
        Reports call report file → Lasts Memory.store after file) ∧
    ∀ path disk,
      (∀ file, Registered (OnDisk.store path) disk file →
        SelectedById (OnDisk.store path) disk file) ∧
      ∀ call report after file,
        call.perform (OnDisk.store path) disk = (.ok (.report report), after) →
        Reports call report file → Lasts (OnDisk.store path) after file := by
  refine ⟨?_, fun _ _ => Selector.ofText_text_of_ofText, ?_, ?_⟩
  · exact fun id => ⟨id.spells_text, fun _ => Selector.ofText_eq_id_iff_spells⟩
  · intro memory reached
    refine ⟨fun file => steady_memory.selectedById reached, ?_⟩
    intro call report after file done reports
    have reachedAfter : ReachesMemory after := by
      have step := ReachesMemory.call call reached
      rwa [done] at step
    obtain ⟨database, rfl, sound⟩ := sound_of_reachesMemory reached
    exact steady_memory.lasts reachedAfter
      (registered_of_reports (follows_memory sound.consistent) done reports)
  · intro path disk
    refine ⟨fun file => (steady_disk path).selectedById trivial, ?_⟩
    intro call report after file done reports
    obtain ⟨database, loaded⟩ := exists_load_of_reports done reports
    exact (steady_disk path).lasts trivial
      (registered_of_reports (follows_disk loaded) done reports)

/-- An identifier in braces with letters of both cases, of a file that is moved while its old
place goes to another one, which is removed; and one that a listing of a document reports. -/
theorem selectedById_moved :
    let id : Uuid := ⟨0xabc, by decide⟩
    let other : Uuid := ⟨1, by decide⟩
    let spelling := "\x7b00000000-0000-0000-0000-000000000aBc\x7d".toList
    let add := Call.add Instant.epoch id "a"
    let move := Call.move Instant.epoch "a" "b"
    let again := Call.add Instant.epoch other "a"
    let remove := Call.remove "a"
    let memory := (add.perform Memory.store .empty).2
    let moved := (move.perform Memory.store memory).2
    let refilled := (again.perform Memory.store moved).2
    let last := (remove.perform Memory.store refilled).2
    let onDisk := OnDisk.store "db.json"
    let kept : File := ⟨OnDisk.handwrittenId, "a"⟩
    (id.Spells spelling ∧ Selector.ofText (Selector.marked spelling) = .ok (.id id) ∧
      Selector.ofText (Selector.id id).text = .ok (.id id)) ∧
    (Lasts Memory.store memory ⟨id, "a"⟩ ∧ Registered Memory.store last ⟨id, "b"⟩ ∧
      SelectedById Memory.store last ⟨id, "b"⟩ ∧
      resolveText Memory.store (Selector.marked spelling) last = (.ok ⟨id, "b"⟩, last)) ∧
    Registered onDisk OnDisk.handwrittenDisk kept ∧ Lasts onDisk OnDisk.handwrittenDisk kept ∧
      SelectedById onDisk OnDisk.handwrittenDisk kept := by
  intro id other spelling add move again remove memory moved refilled last onDisk kept
  obtain ⟨selectors, readAgain, inMemory, fromDisk⟩ := selectedById_of_registered
  have digits : id.HasDigits "00000000000000000000000000000aBc".toList := by
    unfold Uuid.HasDigits
    decide +kernel
  have inBraces : spelling =
      '{' :: Uuid.grouped "00000000000000000000000000000aBc".toList ++ ['}'] := by decide +kernel
  have spells : id.Spells spelling := inBraces ▸ .braced digits
  have selected := ((selectors id).2 _).mpr ⟨spelling, spells, rfl⟩
  let report : Report := {
    affected := [⟨id, "a"⟩]
    messages := [⟨.success, "Added 00000000-0000-0000-0000-000000000abc a"⟩] }
  have added : (add.perform Memory.store .empty).1 = .ok (.report report) := by decide +kernel
  have reports : Reports add report ⟨id, "a"⟩ := .added (List.mem_singleton_self _)
  have lasts : Lasts Memory.store memory ⟨id, "a"⟩ :=
    (inMemory .empty .empty).2 add report memory _ (Prod.ext added rfl) reports
  have current : Registered Memory.store last ⟨id, "b"⟩ := by
    have removed : (remove.perform Memory.store refilled).1 = .ok (.report {
        affected := [⟨other, "a"⟩]
        messages := [⟨.success, "Removed 00000000-0000-0000-0000-000000000001 a"⟩] }) := by
      decide +kernel
    let trail := [(move, (move.perform Memory.store memory).1),
      (again, (again.perform Memory.store moved).1),
      (remove, (remove.perform Memory.store refilled).1)]
    have runs : Runs Memory.store memory trail last :=
      .call move (.call again (.call remove .nil))
    have differs : other ≠ id := by decide
    have spared : ∀ step ∈ trail, Spares id step := by
      refine List.forall_mem_cons.mpr ⟨trivial, List.forall_mem_cons.mpr ⟨differs, ?_⟩⟩
      rw [List.forall_mem_singleton, removed]
      exact List.forall_mem_singleton.mpr differs
    have place : trail.foldl left ⟨id, "a"⟩ = ⟨id, "b"⟩ := by decide +kernel
    obtain ⟨time, stays⟩ := lasts
    obtain ⟨_, rfl, -, isListed, -⟩ := stays trail last runs spared
    rw [place] at isListed
    exact registered_iff_exists_isListed.mpr ⟨time, isListed⟩
  have reached : ReachesMemory last :=
    .call remove (.call again (.call move (.call add .empty)))
  have byId := (inMemory last reached).1 ⟨id, "b"⟩ current
  let listing : Report := { listed := [⟨kept, some Instant.epoch⟩] }
  have listed : (Call.files.perform onDisk OnDisk.handwrittenDisk).1 = .ok (.report listing) := by
    decide +kernel
  have done : Call.files.perform onDisk OnDisk.handwrittenDisk =
      (.ok (.report listing), OnDisk.handwrittenDisk) :=
    Prod.ext listed (Call.silent_of_isQuestion (OnDisk.asksSilently "db.json") .files rfl _)
  have keptReports : Reports .files listing kept :=
    @Reports.listed listing ⟨kept, some Instant.epoch⟩ (List.mem_singleton_self _)
  have registered : Registered onDisk OnDisk.handwrittenDisk kept :=
    registered_of_reports (follows_disk OnDisk.load_handwritten) done keptReports
  obtain ⟨selects, goesOn⟩ := fromDisk "db.json" OnDisk.handwrittenDisk
  exact ⟨⟨spells, selected, readAgain _ _ selected⟩,
    ⟨lasts, current, byId, byId.resolves spelling spells⟩,
    registered, goesOn _ _ _ _ done keptReports, selects _ registered⟩

end Command

end TagCatalog

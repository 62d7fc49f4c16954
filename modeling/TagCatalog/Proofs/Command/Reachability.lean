import TagCatalog.Instant
import TagCatalog.Proofs.Command.Finding
import TagCatalog.Proofs.Settings

/-!
# Stores that calls reach

From an empty store, calls reach only stores that find their tags.  The empty store may
be a memory, or a missing or empty document on a disk; between the calls, the settings in any
directory may be changed on that disk.  A document is lost only if its path comes to be
that of a directory.  If the path is not anchored, it may also come to lead to a file
that was there before, so there must not be any.
-/

namespace TagCatalog.Command

open Disk

variable {State : Type} {store : Store State} {state : State} {database altered : Database}
  {operation : Store.Operation} {path : String} {disk : Disk} {memory : Memory}

inductive ReachesMemory : Memory → Prop where
  | empty : ReachesMemory .empty
  | call {memory : Memory} (call : Call) :
      ReachesMemory memory → ReachesMemory (call.perform Memory.store memory).2

def IsFileless (disk : Disk) : Prop :=
  ∀ place content, disk.nodeAt? place ≠ some (.file content)

/-- The disks that calls reach, with the document at a path, and requests to the settings. -/
inductive ReachesDisk (path : String) : Disk → Prop where
  | empty {disk : Disk} : Anchored path disk ∨ IsFileless disk →
      OnDisk.load path disk = .ok .empty → ReachesDisk path disk
  | call {disk : Disk} (call : Call) :
      ReachesDisk path disk → ReachesDisk path (call.perform (OnDisk.store path) disk).2
  | settings {disk : Disk} (directory : String) (request : Settings.Request) :
      ReachesDisk path disk → ReachesDisk path (Settings.run directory request disk).2

theorem sound_of_licensed (shown : Shows store state database) (sound : database.Sound)
    (licensed : store.Licensed state operation)
    (outcome : altered = database ∨ operation.alter database = .ok altered) : altered.Sound := by
  rcases outcome with rfl | altering
  · exact sound
  · exact sound.alter shown.tags licensed altering

theorem sound_of_reachesMemory (reached : ReachesMemory memory) :
    ∃ database : Database, database.toMemory = memory ∧ database.Sound := by
  induction reached with
  | empty => exact ⟨.empty, rfl, Database.sound_empty⟩
  | call call _ inductionHypothesis =>
      obtain ⟨database, rfl, sound⟩ := inductionHypothesis
      rcases call.eq_or_exists_licensed Memory.asksSilently database.toMemory with
        same | ⟨operation, licensed, performed, -⟩
      · exact ⟨database, same.symm, sound⟩
      · obtain ⟨altered, stands, outcome⟩ :=
          Memory.exists_perform_toMemory sound.consistent operation
        refine ⟨altered, (performed.trans stands).symm, ?_⟩
        exact sound_of_licensed (shows_memory sound.consistent) sound licensed outcome

/-- Whether a path leads to a directory, or a sound database is loaded from it, if only
because there is nothing. -/
def LeadsToSound (path : String) (disk : Disk) : Prop :=
  disk.find path = .ok .directory ∨
    ∃ database, OnDisk.load path disk = .ok database ∧ database.Sound

theorem LeadsToSound.call (leads : LeadsToSound path disk) (anchored : Anchored path disk)
    (licensed : (OnDisk.store path).Licensed disk operation) :
    LeadsToSound path ((OnDisk.store path).perform operation disk).2 := by
  have evolves := OnDisk.evolves_perform path operation disk
  rcases leads with isDirectory | ⟨database, loaded, sound⟩
  · exact .inl (evolves.keeps.find isDirectory)
  · right
    obtain ⟨altered, reloaded, outcome⟩ := OnDisk.load_perform loaded anchored operation
    exact ⟨altered, reloaded, sound_of_licensed (shows_disk loaded) sound licensed outcome⟩

/-- The document of settings, read as that of a database, is that of an empty one. -/
theorem ofText_settings (settings : Settings) : OnDisk.ofText settings.encode = .ok .empty := by
  rw [OnDisk.ofText, settings.decode_document]
  rfl

theorem LeadsToSound.save (leads : LeadsToSound path disk) (anchored : Anchored path disk)
    (directory : String) (settings : Settings) :
    LeadsToSound path (Settings.save directory settings disk).2 := by
  rcases Settings.find_of_save anchored directory settings with isDirectory | same | written
  · exact .inl isDirectory
  · rwa [LeadsToSound, same, OnDisk.load_eq_of_find same]
  · have loaded := (OnDisk.load_of_readBytes written).trans (ofText_settings settings)
    exact .inr ⟨.empty, loaded, Database.sound_empty⟩

theorem holdsSound_perform (holdsSound : OnDisk.HoldsSound disk)
    (licensed : (OnDisk.store path).Licensed disk operation) :
    OnDisk.HoldsSound ((OnDisk.store path).perform operation disk).2 := by
  rcases OnDisk.eq_or_exists_save_of_perform path operation disk with
    same | ⟨database, altered, loaded, altering, performed⟩
  · rwa [same]
  · rw [performed]
    have sound := holdsSound.sound_of_load loaded
    have alteredSound := sound_of_licensed (shows_disk loaded) sound licensed (.inr altering)
    exact OnDisk.holds_save
      (OnDisk.stable_holdsSound (OnDisk.isSoundDocument_encode alteredSound)) path holdsSound

/-- What carries every step: either the path is anchored and leads to a sound database,
or all files are documents of sound databases, wherever the path comes to lead. -/
def Secure (path : String) (disk : Disk) : Prop :=
  Anchored path disk ∧ LeadsToSound path disk ∨ OnDisk.HoldsSound disk

theorem Secure.leadsToSound (secure : Secure path disk) : LeadsToSound path disk := by
  rcases secure with ⟨-, leads⟩ | holdsSound
  · exact leads
  · exact holdsSound.document path

theorem Secure.call (secure : Secure path disk) (call : Call) :
    Secure path (call.perform (OnDisk.store path) disk).2 := by
  rcases call.eq_or_exists_licensed (OnDisk.asksSilently path) disk with
    same | ⟨operation, licensed, performed, -⟩
  · rwa [same]
  · rw [performed]
    rcases secure with ⟨anchored, leads⟩ | holdsSound
    · have evolves := OnDisk.evolves_perform path operation disk
      exact .inl ⟨anchored.of_evolves evolves, leads.call anchored licensed⟩
    · exact .inr (holdsSound_perform holdsSound licensed)

theorem Secure.settings (secure : Secure path disk) (directory : String)
    (request : Settings.Request) : Secure path (Settings.run directory request disk).2 := by
  have evolves := Settings.evolves_run directory request disk
  rcases Settings.eq_or_exists_save_of_run directory request disk with same | ⟨settings, saved⟩
  · rwa [same]
  · rw [saved] at evolves ⊢
    rcases secure with ⟨anchored, leads⟩ | holdsSound
    · exact .inl ⟨anchored.of_evolves evolves, leads.save anchored directory settings⟩
    · right
      have document : OnDisk.IsSoundDocument settings.encode.toUTF8 :=
        ⟨_, .empty, rfl, ofText_settings settings, Database.sound_empty⟩
      exact Settings.preserves_save (OnDisk.stable_holdsSound document) directory disk holdsSound

theorem secure_of_reachesDisk (reached : ReachesDisk path disk) : Secure path disk := by
  induction reached with
  | empty start loaded =>
      rcases start with anchored | fileless
      · exact .inl ⟨anchored, .inr ⟨.empty, loaded, Database.sound_empty⟩⟩
      · exact .inr fun place content found => absurd found (fileless place content)
  | call call _ inductionHypothesis => exact inductionHypothesis.call call
  | settings directory request _ inductionHypothesis =>
      exact inductionHypothesis.settings directory request

/-- In every store that calls reach from an empty one, tags have names without a fault
and are found, and only where they are: in a memory, and on a disk unless the path of
the document has come to be that of a directory. -/
theorem finds_of_reaches :
    (∀ memory, ReachesMemory memory → Finds Memory.store memory) ∧
    ∀ path disk, ReachesDisk path disk → disk.find path ≠ .ok .directory →
      Finds (OnDisk.store path) disk := by
  constructor
  · intro memory reached
    obtain ⟨database, rfl, sound⟩ := sound_of_reachesMemory reached
    exact finds_of_shows (shows_memory sound.consistent) sound
  · intro path disk reached notDirectory
    rcases (secure_of_reachesDisk reached).leadsToSound with
      isDirectory | ⟨database, loaded, sound⟩
    · exact absurd isDirectory notDirectory
    · exact finds_of_shows (shows_disk loaded) sound

/-- A valued tag in a memory, and a file without tags on a disk that was empty before. -/
theorem finds_after_set :
    let add := Call.add Instant.epoch ⟨1, by decide⟩ "p"
    let set := Call.set "p" "n" (some "5")
    let memory := (set.perform Memory.store (add.perform Memory.store .empty).2).2
    let empty : Disk := ⟨[], Table.empty⟩
    let disk := (add.perform (OnDisk.store "d/db.json") empty).2
    (ReachesMemory memory ∧ Finds Memory.store memory ∧
      Carries Memory.store memory ⟨⟨1, by decide⟩, "p"⟩ ⟨"n", some 5, by decide⟩) ∧
    ReachesDisk "d/db.json" disk ∧ disk.contains "d/db.json" = true ∧
      disk.find "d/db.json" ≠ .ok .directory ∧ Finds (OnDisk.store "d/db.json") disk := by
  intro add set memory empty disk
  have memoryReached : ReachesMemory memory := .call set (.call add .empty)
  have files : (Memory.store.allFiles memory).1 = .ok [⟨⟨1, by decide⟩, "p"⟩] := by
    decide +kernel
  have tags : (Memory.store.tags ⟨⟨1, by decide⟩, "p"⟩ memory).1 =
      .ok [⟨"n", some 5, by decide⟩] := by
    decide +kernel
  have anchored : Anchored "d/db.json" empty := rooted_empty.anchored (by decide +kernel)
  have reached : ReachesDisk "d/db.json" disk := .call add (.empty (.inl anchored) rfl)
  have notDirectory : disk.find "d/db.json" ≠ .ok .directory := by decide +kernel
  refine ⟨⟨memoryReached, finds_of_reaches.1 memory memoryReached, ?_⟩,
    reached, by decide +kernel, notDirectory, finds_of_reaches.2 _ disk reached notDirectory⟩
  exact ⟨_, _, files, List.mem_singleton_self _, tags, List.mem_singleton_self _⟩

/-- A document with a tag that is named by a keyword. -/
def keywordText : String :=
  "\x7b\"files\":\x7b\"00000000000000000000000000000001\":\x7b\"path\":\"p\"," ++
  "\"added_at\":\"1970-01-01T00:00:00Z\",\"tags\":[\x7b\"name\":\"AND\"\x7d]\x7d\x7d\x7d"

/-- Three empty stores that one step spoils.  Behind a missing directory, a path comes to
lead to that directory, or to an old document, whose draft is blocked; and settings are
kept in a directory where the document would be. -/
theorem lost_behind_missing :
    let add := Call.add Instant.epoch ⟨1, by decide⟩ "a"
    let search := Call.matchWords ["n"] false
    let empty : Disk := ⟨[], Table.empty⟩
    let made := (add.perform (OnDisk.store "x/../x") empty).2
    let old : Disk := ⟨[], Table.ofList
      [(["db.json"], .file keywordText.toUTF8), (["db.json.tmp"], .directory)]⟩
    let disclosed := (add.perform (OnDisk.store "x/../db.json") old).2
    let covered := (Settings.run "db.json" (.set "log-level" "info") empty).2
    ((search.perform (OnDisk.store "x/../x") empty).1 = .ok (.report {}) ∧
      (search.perform (OnDisk.store "x/../x") made).1 = .error (.disk .isDirectory)) ∧
    ((Call.files.perform (OnDisk.store "x/../db.json") old).1 = .ok (.report {}) ∧
      ((OnDisk.store "x/../db.json").tags ⟨⟨1, by decide⟩, "p"⟩ disclosed).1 =
        .ok [⟨"AND", none, by decide⟩] ∧
      Tag.Name.fault? "AND" = some (.keyword "AND")) ∧
    ((search.perform (OnDisk.store "db.json") empty).1 = .ok (.report {}) ∧
      (search.perform (OnDisk.store "db.json") covered).1 = .error (.disk .isDirectory)) := by
  decide +kernel

end TagCatalog.Command

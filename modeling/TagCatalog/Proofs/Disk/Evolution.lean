import TagCatalog.Proofs.Disk.Anchored
import TagCatalog.Proofs.Store.Action

/-!
# How disks evolve

What is stable under the three ways to change a disk goes on to hold through every
change that is made of them.  No change takes a directory away, and every change leaves
a rooted disk rooted; so an anchored path stays anchored, and one that leads to a
directory goes on to lead to one.
-/

namespace TagCatalog.Disk

variable {disk altered last : Disk} {path : String} {content : ByteArray} {Holds : Disk → Prop}

/-- Whether what holds of a disk goes on to hold through a change. -/
def Preserves {Result : Type} (Holds : Disk → Prop) (change : Change Result) : Prop :=
  ∀ disk, Holds disk → Holds (change disk).2

theorem Preserves.bind {First Second : Type} {first : Change First}
    {next : First → Change Second} (preserves : Preserves Holds first)
    (nextPreserves : ∀ result, Preserves Holds (next result)) :
    Preserves Holds (first >>= next) := by
  intro disk holds
  have still := preserves disk holds
  cases step : first disk with
  | mk outcome middle =>
      rw [step] at still
      cases outcome with
      | error => rwa [Action.bind_of_error step]
      | ok result =>
          rw [Action.bind_of_ok step]
          exact nextPreserves result middle still

/-- Whether what holds of a disk goes on to hold when directories are made, files are
moved, and a content is written. -/
structure Stable (Holds : Disk → Prop) (content : ByteArray) : Prop where
  makeDirectories : ∀ path, Preserves Holds (makeDirectories path)
  written : ∀ {path disk altered}, Holds disk →
    writeBytes path content disk = (.ok (), altered) → Holds altered
  moved : ∀ {path target disk altered}, Holds disk →
    rename path target disk = (.ok (), altered) → Holds altered

theorem Stable.writeBytes (stable : Stable Holds content) (path : String) :
    Preserves Holds (writeBytes path content) := by
  intro disk holds
  cases step : Disk.writeBytes path content disk with
  | mk outcome altered =>
      cases outcome with
      | error => rwa [eq_of_writeBytes step]
      | ok => exact stable.written holds step

theorem Stable.rename (stable : Stable Holds content) (path target : String) :
    Preserves Holds (rename path target) := by
  intro disk holds
  cases step : Disk.rename path target disk with
  | mk outcome altered =>
      cases outcome with
      | error => rwa [eq_of_rename step]
      | ok => exact stable.moved holds step

/-- Whether a disk may come to be another by changes. -/
structure Evolves (disk altered : Disk) : Prop where
  keeps : KeepsDirectories disk altered
  rooted : disk.Rooted → altered.Rooted

theorem Evolves.refl (disk : Disk) : Evolves disk disk :=
  ⟨⟨rfl, fun _ => id⟩, id⟩

theorem Evolves.trans (first : Evolves disk altered) (second : Evolves altered last) :
    Evolves disk last := by
  refine ⟨⟨second.keeps.working.trans first.keeps.working, ?_⟩, second.rooted ∘ first.rooted⟩
  intro place isDirectory
  exact second.keeps.directory place (first.keeps.directory place isDirectory)

theorem Anchored.of_evolves (anchored : Anchored path disk) (evolves : Evolves disk altered) :
    Anchored path altered := by
  obtain ⟨front, rest, place, parts, walked, anchor⟩ := anchored
  refine ⟨front, rest, place, parts, ?_, anchor.imp_right (And.imp_left evolves.rooted)⟩
  rw [evolves.keeps.start_eq]
  exact evolves.keeps.walk walked

theorem evolves_of_writeBytes (written : writeBytes path content disk = (.ok (), altered)) :
    Evolves disk altered := by
  refine ⟨(sameDirectories_of_writeBytes written).keeps, fun rooted => ?_⟩
  obtain ⟨place, located, notDirectory, rfl⟩ := writeBytes_eq_ok_iff.mp written
  exact rooted.put notDirectory (rooted.dropLast_of_locate located) _

theorem evolves_of_rename {target : String}
    (moved : rename path target disk = (.ok (), altered)) : Evolves disk altered := by
  have keeps := (sameDirectories_of_rename moved).keeps
  refine ⟨keeps, fun rooted => rooted.of_keeps keeps ?_⟩
  obtain ⟨_, _, place, -, -, located, -, rfl⟩ := rename_eq_ok_iff.mp moved
  intro other node found
  by_cases isTarget : other = place
  · rw [isTarget]
    exact rooted.dropLast_of_locate located
  · rw [nodeAt?_put_of_ne isTarget] at found
    exact rooted.parent (nodeAt?_of_erase found)

theorem stable_evolves (start : Disk) (content : ByteArray) : Stable (Evolves start) content where
  makeDirectories path disk evolves := evolves.trans
    ⟨(grows_makeDirectories path disk).keeps, fun rooted => rooted.makeDirectories path⟩
  written evolves step := evolves.trans (evolves_of_writeBytes step)
  moved evolves step := evolves.trans (evolves_of_rename step)

end TagCatalog.Disk

import TagCatalog.Proofs.Disk.Evolution
import TagCatalog.Proofs.Store.Document
import TagCatalog.Settings.Command

/-!
# What requests to the settings do to a disk

A document of settings, read as the document of a database, is that of an empty one.
So where settings are written over a database, nothing false can be found in it.  To an
anchored path, a request brings nothing but that, or a directory.
-/

namespace TagCatalog.Settings

open Json Disk

variable {path directory : String} {disk : Disk} {settings : Settings}

/-- None of the members of settings is a field of a database. -/
theorem decode_document (settings : Settings) :
    Document.decode settings.encode = .ok .empty := by
  have level : TakesMembers Document.databaseFields.member none
      [Lines.member "log_level" (Quotation.write settings.logLevel)] none :=
    .cons rfl (takes_skipValue none settings.logLevel) (.nil none)
  unfold encode
  cases settings.databasePath with
  | none => exact Document.decode_object level
  | some path => exact Document.decode_object (.cons rfl (takes_skipValue none path) level)

theorem exists_grows_of_save (directory : String) (settings : Settings) (disk : Disk) :
    ∃ places grown, Grows places disk grown ∧
      ((save directory settings disk).2 = grown ∨
        (save directory settings disk).2 =
          (writeBytes (Settings.path directory) settings.encode.toUTF8 grown).2) := by
  rw [save, saveBy, get_bind_apply]
  cases disk.contains directory with
  | true => exact ⟨[], disk, .refl [] disk, .inr rfl⟩
  | false =>
      have grows := grows_makeDirectories directory disk
      refine ⟨_, _, grows, ?_⟩
      cases step : makeDirectories directory disk with
      | mk outcome grown =>
          cases outcome with
          | error => exact .inl (congrArg Prod.snd (Action.bind_of_error step))
          | ok => exact .inr (congrArg Prod.snd (Action.bind_of_ok step))

theorem preserves_save {Holds : Disk → Prop} (stable : Stable Holds settings.encode.toUTF8)
    (directory : String) : Preserves Holds (save directory settings) := by
  intro disk holds
  rw [save, saveBy, get_bind_apply]
  cases disk.contains directory with
  | true => exact stable.writeBytes _ disk holds
  | false => exact (stable.makeDirectories _).bind (fun _ => stable.writeBytes _) disk holds

theorem find_of_save (anchored : Anchored path disk) (directory : String) (settings : Settings) :
    (save directory settings disk).2.find path = .ok .directory ∨
      (∀ node, (save directory settings disk).2.find path = .ok node ↔
        disk.find path = .ok node) ∨
      (save directory settings disk).2.readBytes path = .ok settings.encode.toUTF8 := by
  obtain ⟨places, grown, grows, done⟩ := exists_grows_of_save directory settings disk
  have reached := anchored.find_eq_directory_or grows
  rcases done with done | saving
  · rw [done]
    exact reached.imp_right .inl
  · rw [saving]
    cases step : writeBytes (Settings.path directory) settings.encode.toUTF8 grown with
    | mk outcome altered =>
        cases outcome with
        | error =>
            rw [eq_of_writeBytes step]
            exact reached.imp_right .inl
        | ok =>
            rcases reached with isDirectory | same
            · exact .inl ((sameDirectories_of_writeBytes step).keeps.find isDirectory)
            · right
              exact (find_of_writeBytes step path).imp_left fun kept node =>
                (kept node).trans (same node)

theorem eq_or_exists_save_of_change (calls : Calls) (directory key value : String)
    (disk : Disk) :
    (change calls directory key value disk).2 = disk ∨
      ∃ settings, (change calls directory key value disk).2 =
        (saveBy calls directory settings disk).2 := by
  unfold Settings.change
  split
  next => exact .inl rfl
  next settings _ =>
    right
    refine ⟨settings, ?_⟩
    split <;> simp only [*]

theorem eq_or_exists_save_of_run (directory : String) (request : Request) (disk : Disk) :
    (run directory request disk).2 = disk ∨
      ∃ settings, (run directory request disk).2 = (save directory settings disk).2 := by
  cases request with
  | showAll => exact .inl rfl
  | showKey => exact .inl rfl
  | set key value => exact eq_or_exists_save_of_change Disk.calls directory key value disk

theorem evolves_run (directory : String) (request : Request) (disk : Disk) :
    Evolves disk (run directory request disk).2 := by
  rcases eq_or_exists_save_of_run directory request disk with same | ⟨settings, saved⟩
  · rw [same]
    exact .refl disk
  · rw [saved]
    exact preserves_save (stable_evolves disk _) directory disk (.refl disk)

end TagCatalog.Settings

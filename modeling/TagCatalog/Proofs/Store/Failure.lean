import TagCatalog.Proofs.Disk.Anchored
import TagCatalog.Proofs.Store.Asking
import TagCatalog.Proofs.Store.Saving

/-!
# What failed operations leave behind

A failed operation leaves a memory as it was.  On a disk, it may leave a draft and
new directories on the way to the document, whether it has failed because of the
disk or for another reason, and nothing else.  What the path of the document leads
to is the same as before, if that path is anchored.
-/

namespace TagCatalog.OnDisk

open Disk TagCatalog.Path

variable {path : String} {disk altered : Disk} {node : Node} {database : Database} {error : Error}

/-- The places of the directories that are made for a document. -/
def parentStations (path : String) (disk : Disk) : List Place :=
  match parent? path with
  | some parent => if parent.isEmpty then [] else stations (disk.start parent) (components parent)
  | none => []

theorem makeParent_apply (path : String) (disk : Disk) :
    makeParent path disk =
      match parent? path with
      | some parent =>
          if parent.isEmpty || disk.contains parent then (.ok (), disk)
          else makeDirectories parent disk
      | none => (.ok (), disk) := by
  rw [makeParent, get_bind_apply]
  cases parent? path with
  | none => rfl
  | some parent =>
      cases there : parent.isEmpty || disk.contains parent with
      | true =>
          simp only [there]
          rfl
      | false => simp [there]

theorem grows_makeParent (path : String) (disk : Disk) :
    Grows (parentStations path disk) disk (makeParent path disk).2 := by
  rw [makeParent_apply, parentStations]
  cases parent? path with
  | none => exact .refl _ disk
  | some parent =>
      cases empty : parent.isEmpty with
      | true => simpa [empty] using Grows.refl [] disk
      | false =>
          cases there : disk.contains parent with
          | true => simpa [empty, there] using Grows.refl _ disk
          | false => simpa [empty, there] using grows_makeDirectories parent disk

/-- No directory that is made for an anchored document stands in its place. -/
theorem not_mem_parentStations {place : Place} (anchored : Anchored path disk)
    (keeps : KeepsDirectories disk altered) (located : altered.locate path = .ok place)
    (missing : disk.nodeAt? place = none) : place ∉ parentStations path disk := by
  intro membership
  unfold parentStations at membership
  split at membership
  next parent isParent =>
    split at membership
    next => cases membership
    next empty =>
      have nonempty : parent ≠ "" := by simpa using empty
      obtain ⟨front, middle, goesOn⟩ := exists_goesOn isParent nonempty
      rw [start_of_front nonempty goesOn.text] at membership
      have apart : place ∉ stations (disk.start path) front :=
        anchored.not_mem_stations keeps goesOn.components goesOn.named located missing
      rcases goesOn.front with same | ⟨rfl, rfl⟩
      · rw [same] at membership
        exact apart membership
      · have root : components "/" = ["", ""] := rfl
        apply apart
        simpa [root, stations, descend] using membership
  next => cases membership

/-- To make the directory of an anchored document brings nothing to its path. -/
theorem find_makeParent (anchored : Anchored path disk) (node : Node) :
    (makeParent path disk).2.find path = .ok node ↔ disk.find path = .ok node := by
  have grows := grows_makeParent path disk
  constructor
  · intro found
    rcases anchored.find_of_grows grows found with before | ⟨place, membership, located, missing, -⟩
    · exact before
    · exact absurd membership (not_mem_parentStations anchored grows.keeps located missing)
  · exact grows.find

/-- Whether a disk differs from another at most by the draft of a document and by
new directories on the way to it. -/
structure Spared (path : String) (disk altered : Disk) : Prop where
  working : altered.working = disk.working
  node : ∀ place, altered.nodeAt? place = disk.nodeAt? place ∨
    altered.locate (draftPath path) = .ok place ∨
    place ∈ parentStations path disk ∧ disk.nodeAt? place = none ∧
      altered.nodeAt? place = some .directory
  document : Anchored path disk → ∀ node,
    altered.find path = .ok node ↔ disk.find path = .ok node

theorem Spared.refl (path : String) (disk : Disk) : Spared path disk disk :=
  ⟨rfl, fun _ => .inl rfl, fun _ _ => .rfl⟩

theorem spared_makeParent (path : String) (disk : Disk) :
    Spared path disk (makeParent path disk).2 := by
  have grows := grows_makeParent path disk
  refine ⟨grows.working, fun place => ?_, find_makeParent⟩
  exact (grows.node place).imp_right .inr

/-- The disk may fail when the directory is made, when the draft is written, or
when the draft is to take the place of the document. -/
theorem spared_of_writeOver {text : String} {fault : Fault}
    (failed : writeOver path text disk = (.error fault, altered)) : Spared path disk altered := by
  have spared := spared_makeParent path disk
  have grows := grows_makeParent path disk
  rcases Action.of_bind_eq_error failed with parentFailed | ⟨_, grown, made, failed⟩
  · rwa [parentFailed] at spared
  · rw [made] at spared grows
    rcases Action.of_bind_eq_error failed with draftFailed | ⟨_, drafted, drafting, failed⟩
    · rwa [eq_of_writeBytes draftFailed]
    · have kept := find_eq_ok_iff_of_rename drafting failed
      obtain rfl := eq_of_rename failed
      have same := sameDirectories_of_writeBytes drafting
      obtain ⟨draft, draftLocated, -, rfl⟩ := writeBytes_eq_ok_iff.mp drafting
      constructor
      · exact grows.working
      · intro place
        by_cases isDraft : place = draft
        · rw [isDraft]
          exact .inr (.inl (same.keeps.locate draftLocated))
        · rw [nodeAt?_put_of_ne isDraft]
          exact (grows.node place).imp_right .inr
      · intro anchored node
        exact (kept node).trans (spared.document anchored node)

theorem spared_of_save {error : Error}
    (failed : save path database disk = (.error error, altered)) : Spared path disk altered := by
  unfold save ofChange at failed
  split at failed
  next => cases failed
  next written =>
    cases failed
    exact spared_of_writeOver written

theorem spared_of_change {alter : Database → Except Error Database} {error : Error}
    (failed : change path alter disk = (.error error, altered)) : Spared path disk altered := by
  unfold change at failed
  split at failed
  next => exact spared_of_save failed
  next =>
    cases failed
    exact .refl path disk

theorem load_eq_of_find (same : ∀ node, altered.find path = .ok node ↔ disk.find path = .ok node) :
    load path altered = load path disk := by
  rcases find_of_same same with ⟨node, still, found⟩ | ⟨fault, other, missing, found⟩
  · simp only [load, contains, Disk.read, readBytes, found, still]
  · simp only [load, contains, found, missing]
    rfl

theorem Spared.alike (spared : Spared path disk altered) (anchored : Anchored path disk) :
    (store path).Alike altered disk :=
  alike_of_load (load_eq_of_find (spared.document anchored))

theorem spared_of_perform {operation : Store.Operation} {error : Error}
    (failed : (store path).perform operation disk = (.error error, altered)) :
    Spared path disk altered := by
  cases operation with
  | updateTag | removeTag | updateFile | removeFile =>
      exact spared_of_change (Action.eq_error_of_map failed)
  | file | fileAt | allFiles | tags | addedAt | listing | matching =>
      obtain ⟨-, rfl⟩ := Prod.mk.inj (Action.eq_error_of_map failed)
      exact .refl path disk

end TagCatalog.OnDisk

namespace TagCatalog.Memory

theorem eq_of_change {alter : Memory → Except Error Memory} {memory after : Memory} {error : Error}
    (failed : Store.change alter memory = (.error error, after)) : after = memory := by
  unfold Store.change at failed
  split at failed
  · cases failed
  · cases failed
    rfl

theorem eq_of_perform {operation : Store.Operation} {memory after : Memory} {error : Error}
    (failed : store.perform operation memory = (.error error, after)) : after = memory := by
  cases question : operation.isQuestion with
  | true =>
      have silent := asksSilently.perform question memory
      rwa [failed] at silent
  | false =>
      cases operation with
      | updateTag | removeTag | updateFile | removeFile =>
          exact eq_of_change (Action.eq_error_of_map failed)
      | file | fileAt | allFiles | tags | addedAt | listing | matching => cases question

end TagCatalog.Memory

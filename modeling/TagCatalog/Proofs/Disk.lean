import TagCatalog.Disk
import TagCatalog.Proofs.Table

/-!
# What is read from a disk after a change

A path is walked along directories only, so a change that leaves the directories
as they are leaves the place of every path.  Files are written and moved without
a change of the directories; what has been written to a path, or moved to it, is
read from it.
-/

namespace TagCatalog.Disk

variable {disk altered : Disk} {path target text : String} {place other : Place} {node : Node}
  {content : ByteArray}

/-- Whether a disk has all directories that another has, and paths start at the
same place. -/
structure KeepsDirectories (disk altered : Disk) : Prop where
  working : altered.working = disk.working
  directory : ∀ place, disk.nodeAt? place = some .directory →
    altered.nodeAt? place = some .directory

theorem KeepsDirectories.start_eq (keeps : KeepsDirectories disk altered) (path : String) :
    altered.start path = disk.start path := by
  rw [Disk.start, Disk.start, keeps.working]

theorem walk_cons_eq_ok_iff {component : String} {rest : List String} :
    disk.walk place (component :: rest) = .ok other ↔ disk.nodeAt? place = some .directory ∧
      fits component = true ∧ disk.walk (descend place component) rest = .ok other := by
  rw [Disk.walk]
  cases disk.nodeAt? place with
  | none => simp
  | some node =>
      cases node with
      | file => simp
      | directory => cases fits component <;> simp

theorem KeepsDirectories.walk (keeps : KeepsDirectories disk altered) {components : List String}
    (walked : disk.walk place components = .ok other) :
    altered.walk place components = .ok other := by
  induction components generalizing place with
  | nil => exact walked
  | cons component rest inductionHypothesis =>
      obtain ⟨isDirectory, fits, onward⟩ := walk_cons_eq_ok_iff.mp walked
      exact walk_cons_eq_ok_iff.mpr
        ⟨keeps.directory place isDirectory, fits, inductionHypothesis onward⟩

/-- Where directories are kept, so are the places of paths. -/
theorem KeepsDirectories.locate (keeps : KeepsDirectories disk altered)
    (located : disk.locate path = .ok place) : altered.locate path = .ok place := by
  unfold Disk.locate Disk.start at located ⊢
  rw [keeps.working]
  split at located
  next => cases located
  next valid =>
    split at located
    next => cases located
    next nonempty =>
      simp only [nonempty]
      exact keeps.walk located

/-- Whether two disks have the same directories, and paths start at the same
place. -/
structure SameDirectories (disk altered : Disk) : Prop where
  working : altered.working = disk.working
  directory : ∀ place, altered.nodeAt? place = some .directory ↔
    disk.nodeAt? place = some .directory

theorem SameDirectories.keeps (same : SameDirectories disk altered) :
    KeepsDirectories disk altered :=
  ⟨same.working, fun place => (same.directory place).mpr⟩

theorem SameDirectories.symm (same : SameDirectories disk altered) :
    SameDirectories altered disk :=
  ⟨same.working.symm, fun place => (same.directory place).symm⟩

theorem SameDirectories.trans {last : Disk} (first : SameDirectories disk altered)
    (second : SameDirectories altered last) : SameDirectories disk last :=
  ⟨second.working.trans first.working, fun place =>
    (second.directory place).trans (first.directory place)⟩

theorem nodeAt?_put_self (nonempty : place ≠ []) :
    (disk.put place node).nodeAt? place = some node := by
  have notRoot : place.isEmpty = false := List.isEmpty_eq_false_iff.mpr nonempty
  simp only [nodeAt?, notRoot, put]
  exact Table.get?_insert_self disk.nodes place node

theorem ne_root_of_nodeAt? (notDirectory : disk.nodeAt? place ≠ some .directory) : place ≠ [] := by
  rintro rfl
  exact notDirectory rfl

theorem nodeAt?_put_of_ne (differs : other ≠ place) :
    (disk.put place node).nodeAt? other = disk.nodeAt? other := by
  simp only [nodeAt?, put, Table.get?_insert_of_ne _ _ differs]

theorem sameDirectories_put (notDirectory : disk.nodeAt? place ≠ some .directory) :
    SameDirectories disk (disk.put place (.file content)) := by
  refine ⟨rfl, fun other => ?_⟩
  by_cases same : other = place
  · rw [same, nodeAt?_put_self (ne_root_of_nodeAt? notDirectory)]
    exact ⟨nofun, fun isDirectory => absurd isDirectory notDirectory⟩
  · rw [nodeAt?_put_of_ne same]

theorem nodeAt?_erase_of_ne (differs : other ≠ place) :
    nodeAt? { disk with nodes := disk.nodes.erase place } other = disk.nodeAt? other := by
  simp only [nodeAt?, Table.get?_erase_of_ne _ differs]

theorem nodeAt?_erase_self (nonempty : place ≠ []) :
    nodeAt? { disk with nodes := disk.nodes.erase place } place = none := by
  have notRoot : place.isEmpty = false := List.isEmpty_eq_false_iff.mpr nonempty
  simp only [nodeAt?, notRoot]
  exact Table.get?_erase_self disk.nodes place

theorem nodeAt?_of_erase
    (found : nodeAt? { disk with nodes := disk.nodes.erase place } other = some node) :
    disk.nodeAt? other = some node := by
  by_cases root : other = []
  · subst root
    exact found
  · by_cases same : other = place
    · rw [same, nodeAt?_erase_self (same ▸ root)] at found
      cases found
    · rwa [nodeAt?_erase_of_ne same] at found

theorem sameDirectories_erase (notDirectory : disk.nodeAt? place ≠ some .directory) :
    SameDirectories disk { disk with nodes := disk.nodes.erase place } := by
  refine ⟨rfl, fun other => ?_⟩
  by_cases same : other = place
  · rw [same, nodeAt?_erase_self (ne_root_of_nodeAt? notDirectory)]
    exact ⟨nofun, fun isDirectory => absurd isDirectory notDirectory⟩
  · rw [nodeAt?_erase_of_ne same]

theorem find_eq_ok_iff : disk.find path = .ok node ↔
    ∃ place, disk.locate path = .ok place ∧ disk.nodeAt? place = some node := by
  unfold Disk.find
  cases disk.locate path with
  | error => simp
  | ok place => cases found : disk.nodeAt? place <;> simp [found]

theorem KeepsDirectories.find (keeps : KeepsDirectories disk altered)
    (found : disk.find path = .ok .directory) : altered.find path = .ok .directory := by
  obtain ⟨place, located, isDirectory⟩ := find_eq_ok_iff.mp found
  exact find_eq_ok_iff.mpr ⟨place, keeps.locate located, keeps.directory place isDirectory⟩

theorem readBytes_eq_ok_iff : disk.readBytes path = .ok content ↔
    disk.find path = .ok (.file content) := by
  unfold readBytes
  split <;> simp_all

theorem readBytes_of_nodeAt? (located : disk.locate path = .ok place)
    (isFile : disk.nodeAt? place = some (.file content)) : disk.readBytes path = .ok content :=
  readBytes_eq_ok_iff.mpr (find_eq_ok_iff.mpr ⟨place, located, isFile⟩)

theorem get_bind_apply {Result : Type} (next : Disk → Change Result) (disk : Disk) :
    (get >>= next) disk = next disk disk := rfl

theorem putUnlessDirectory_eq_ok_iff {found : Option Node} {next : Disk} :
    (match found with
      | some .directory => throw .isDirectory
      | _ => set next : Change Unit) disk = (.ok (), altered) ↔
      found ≠ some .directory ∧ altered = next := by
  constructor
  · intro done
    cases found with
    | none =>
        cases done
        exact ⟨nofun, rfl⟩
    | some node =>
        cases node with
        | directory => cases done
        | file =>
            cases done
            exact ⟨nofun, rfl⟩
  · rintro ⟨notDirectory, rfl⟩
    cases found with
    | none => rfl
    | some node =>
        cases node with
        | directory => exact absurd rfl notDirectory
        | file => rfl

theorem eq_of_putUnlessDirectory {found : Option Node} {next : Disk} {fault : Fault}
    (failed : (match found with
      | some .directory => throw .isDirectory
      | _ => set next : Change Unit) disk = (.error fault, altered)) : altered = disk := by
  cases found with
  | none => cases failed
  | some node =>
      cases node with
      | directory =>
          cases failed
          rfl
      | file => cases failed

theorem writeBytes_eq_ok_iff : writeBytes path content disk = (.ok (), altered) ↔
    ∃ place, disk.locate path = .ok place ∧ disk.nodeAt? place ≠ some .directory ∧
      altered = disk.put place (.file content) := by
  rw [writeBytes, get_bind_apply]
  cases located : disk.locate path with
  | error => exact ⟨nofun, nofun⟩
  | ok place =>
      refine putUnlessDirectory_eq_ok_iff.trans ⟨fun done => ⟨place, rfl, done⟩, ?_⟩
      rintro ⟨_, same, done⟩
      cases same
      exact done

theorem eq_of_writeBytes {fault : Fault}
    (failed : writeBytes path content disk = (.error fault, altered)) : altered = disk := by
  rw [writeBytes, get_bind_apply] at failed
  cases located : disk.locate path with
  | error =>
      rw [located] at failed
      cases failed
      rfl
  | ok =>
      rw [located] at failed
      exact eq_of_putUnlessDirectory failed

theorem sameDirectories_of_writeBytes
    (written : writeBytes path content disk = (.ok (), altered)) :
    SameDirectories disk altered := by
  obtain ⟨place, -, notDirectory, rfl⟩ := writeBytes_eq_ok_iff.mp written
  exact sameDirectories_put notDirectory

theorem readBytes_of_writeBytes (written : writeBytes path content disk = (.ok (), altered)) :
    altered.readBytes path = .ok content := by
  have same := sameDirectories_of_writeBytes written
  obtain ⟨place, located, notDirectory, rfl⟩ := writeBytes_eq_ok_iff.mp written
  exact readBytes_of_nodeAt? (same.keeps.locate located)
    (nodeAt?_put_self (ne_root_of_nodeAt? notDirectory))

/-- Writing to one path changes what another leads to only if both lead to the same
place. -/
theorem find_of_writeBytes (written : writeBytes target content disk = (.ok (), altered))
    (path : String) : (∀ node, altered.find path = .ok node ↔ disk.find path = .ok node) ∨
      altered.readBytes path = .ok content := by
  have same := sameDirectories_of_writeBytes written
  obtain ⟨target, -, notDirectory, rfl⟩ := writeBytes_eq_ok_iff.mp written
  by_cases reached : disk.locate path = .ok target
  · right
    exact readBytes_of_nodeAt? (same.keeps.locate reached)
      (nodeAt?_put_self (ne_root_of_nodeAt? notDirectory))
  · left
    have elsewhere : ∀ place, disk.locate path = .ok place →
        (disk.put target (.file content)).nodeAt? place = disk.nodeAt? place := by
      intro place located
      apply nodeAt?_put_of_ne
      rintro rfl
      exact reached located
    intro node
    rw [find_eq_ok_iff, find_eq_ok_iff]
    constructor
    · rintro ⟨place, located, found⟩
      have before := same.symm.keeps.locate located
      exact ⟨place, before, (elsewhere place before).symm.trans found⟩
    · rintro ⟨place, located, found⟩
      exact ⟨place, same.keeps.locate located, (elsewhere place located).trans found⟩

theorem rename_eq_ok_iff : rename path target disk = (.ok (), altered) ↔
    ∃ source content place, disk.locate path = .ok source ∧ disk.readBytes path = .ok content ∧
      disk.locate target = .ok place ∧ disk.nodeAt? place ≠ some .directory ∧
      altered = { disk with nodes := disk.nodes.erase source }.put place (.file content) := by
  rw [rename, get_bind_apply]
  cases located : disk.locate path with
  | error => exact ⟨nofun, nofun⟩
  | ok source =>
      cases read : disk.readBytes path with
      | error => exact ⟨nofun, nofun⟩
      | ok content =>
          cases targetLocated : disk.locate target with
          | error => exact ⟨nofun, nofun⟩
          | ok place =>
              refine putUnlessDirectory_eq_ok_iff.trans
                ⟨fun done => ⟨source, content, place, rfl, rfl, rfl, done⟩, ?_⟩
              rintro ⟨_, _, _, same, sameContent, samePlace, done⟩
              cases same
              cases sameContent
              cases samePlace
              exact done

theorem eq_of_rename {fault : Fault} (failed : rename path target disk = (.error fault, altered)) :
    altered = disk := by
  rw [rename, get_bind_apply] at failed
  cases located : disk.locate path with
  | error =>
      rw [located] at failed
      cases failed
      rfl
  | ok source =>
      cases read : disk.readBytes path with
      | error =>
          rw [located, read] at failed
          cases failed
          rfl
      | ok content =>
          cases targetLocated : disk.locate target with
          | error =>
              rw [located, read, targetLocated] at failed
              cases failed
              rfl
          | ok place =>
              rw [located, read, targetLocated] at failed
              exact eq_of_putUnlessDirectory failed

theorem sameDirectories_of_rename (moved : rename path target disk = (.ok (), altered)) :
    SameDirectories disk altered := by
  obtain ⟨source, content, place, located, read, -, notDirectory, rfl⟩ := rename_eq_ok_iff.mp moved
  obtain ⟨_, sourceLocated, isFile⟩ := find_eq_ok_iff.mp (readBytes_eq_ok_iff.mp read)
  rw [located] at sourceLocated
  cases sourceLocated
  have sourceNotDirectory : disk.nodeAt? source ≠ some .directory := by
    rw [isFile]
    nofun
  have erased := sameDirectories_erase sourceNotDirectory
  exact erased.trans (sameDirectories_put (mt (erased.directory place).mp notDirectory))

theorem readBytes_of_rename (moved : rename path target disk = (.ok (), altered))
    (read : disk.readBytes path = .ok content) : altered.readBytes target = .ok content := by
  have same := sameDirectories_of_rename moved
  obtain ⟨source, moving, place, -, sameRead, located, notDirectory, rfl⟩ :=
    rename_eq_ok_iff.mp moved
  rw [read] at sameRead
  cases sameRead
  exact readBytes_of_nodeAt? (same.keeps.locate located)
    (nodeAt?_put_self (ne_root_of_nodeAt? notDirectory))

theorem read_of_readBytes (read : disk.readBytes path = .ok text.toUTF8) :
    disk.read path = .ok text := by
  have decoded : String.fromUTF8? text.toUTF8 = some text := dif_pos text.isValidUTF8
  simp only [Disk.read, read, decoded]

theorem contains_of_find (found : disk.find path = .ok node) : disk.contains path = true := by
  rw [contains, found]
  rfl

theorem find_of_same (same : ∀ node, altered.find path = .ok node ↔ disk.find path = .ok node) :
    (∃ node, altered.find path = .ok node ∧ disk.find path = .ok node) ∨
      ∃ fault other, altered.find path = .error fault ∧ disk.find path = .error other := by
  cases found : disk.find path with
  | ok node => exact .inl ⟨node, (same node).mpr found, rfl⟩
  | error other =>
      cases still : altered.find path with
      | error fault => exact .inr ⟨fault, other, rfl, rfl⟩
      | ok node =>
          rw [(same node).mp still] at found
          cases found

/-- A file that has been written can be moved, unless to a path that leads to no
place or to a directory; so where that fails, the writing has not changed what the
path leads to. -/
theorem find_eq_ok_iff_of_rename {fault : Fault} {written : Disk}
    (writing : writeBytes path content disk = (.ok (), written))
    (failed : rename path target written = (.error fault, altered)) (node : Node) :
    altered.find target = .ok node ↔ disk.find target = .ok node := by
  have same := sameDirectories_of_writeBytes writing
  obtain ⟨source, sourceLocated, -⟩ := writeBytes_eq_ok_iff.mp writing
  have blocked : ∀ place, written.locate target = .ok place →
      written.nodeAt? place = some .directory := by
    intro place located
    refine Decidable.byContradiction fun free => ?_
    have moved := rename_eq_ok_iff.mpr ⟨source, content, place, same.keeps.locate sourceLocated,
      readBytes_of_writeBytes writing, located, free, rfl⟩
    rw [moved] at failed
    cases failed
  obtain rfl := eq_of_rename failed
  rw [find_eq_ok_iff, find_eq_ok_iff]
  constructor
  · rintro ⟨place, located, found⟩
    rw [blocked place located] at found
    cases found
    exact ⟨place, same.symm.keeps.locate located, (same.directory place).mp (blocked place located)⟩
  · rintro ⟨place, located, found⟩
    have isDirectory := blocked place (same.keeps.locate located)
    rw [(same.directory place).mp isDirectory] at found
    cases found
    exact ⟨place, same.keeps.locate located, isDirectory⟩

end TagCatalog.Disk

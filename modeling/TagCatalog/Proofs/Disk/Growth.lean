import TagCatalog.Proofs.Disk
import TagCatalog.Proofs.Disk.Parent
import TagCatalog.Proofs.Store.Action

/-!
# Directories that are made

Making directories adds directories to a disk, on the way to the last of them,
and does nothing else.  So where a path led to something, it still leads there.
On a rooted disk every file and directory stands in a directory, and making
directories leaves it rooted.
-/

namespace TagCatalog.Disk

open TagCatalog.Path

variable {disk altered last : Disk} {place other : Place} {places more : List Place}
  {path : String} {route : List String} {node : Node}

/-- Whether a disk has grown to another by directories at some places. -/
structure Grows (places : List Place) (disk altered : Disk) : Prop where
  working : altered.working = disk.working
  node : ∀ place, altered.nodeAt? place = disk.nodeAt? place ∨
    place ∈ places ∧ disk.nodeAt? place = none ∧ altered.nodeAt? place = some .directory

namespace Grows

theorem refl (places : List Place) (disk : Disk) : Grows places disk disk :=
  ⟨rfl, fun _ => .inl rfl⟩

theorem mono (grows : Grows places disk altered) (subset : places ⊆ more) :
    Grows more disk altered := by
  refine ⟨grows.working, fun place => ?_⟩
  exact (grows.node place).imp_right fun added => ⟨subset added.1, added.2⟩

theorem trans (first : Grows places disk altered) (second : Grows places altered last) :
    Grows places disk last := by
  refine ⟨second.working.trans first.working, fun place => ?_⟩
  rcases second.node place with same | ⟨membership, missing, isDirectory⟩
  · rw [same]
    exact first.node place
  · rcases first.node place with same | ⟨-, -, made⟩
    · exact .inr ⟨membership, same.symm.trans missing, isDirectory⟩
    · rw [missing] at made
      cases made

theorem nodeAt? (grows : Grows places disk altered) (found : disk.nodeAt? place = some node) :
    altered.nodeAt? place = some node := by
  rcases grows.node place with same | ⟨-, missing, -⟩
  · exact same.trans found
  · rw [missing] at found
    cases found

theorem keeps (grows : Grows places disk altered) : KeepsDirectories disk altered :=
  ⟨grows.working, fun _ => grows.nodeAt?⟩

theorem find (grows : Grows places disk altered) (found : disk.find path = .ok node) :
    altered.find path = .ok node := by
  obtain ⟨place, located, present⟩ := find_eq_ok_iff.mp found
  exact find_eq_ok_iff.mpr ⟨place, grows.keeps.locate located, grows.nodeAt? present⟩

end Grows

theorem grows_put (missing : disk.nodeAt? place = none) :
    Grows [place] disk (disk.put place .directory) := by
  have notDirectory : disk.nodeAt? place ≠ some .directory := by
    rw [missing]
    nofun
  refine ⟨rfl, fun other => ?_⟩
  by_cases same : other = place
  · subst same
    right
    exact ⟨List.mem_singleton_self _, missing, nodeAt?_put_self (ne_root_of_nodeAt? notDirectory)⟩
  · exact .inl (nodeAt?_put_of_ne same)

/-- The places that components lead to, one after the other. -/
def stations (place : Place) : List String → List Place
  | [] => []
  | component :: rest => descend place component :: stations (descend place component) rest

theorem makeAlong_cons (place : Place) (component : String) (rest : List String) (disk : Disk) :
    makeAlong place (component :: rest) disk =
      if fits component then
        match disk.nodeAt? (descend place component) with
        | some .directory => makeAlong (descend place component) rest disk
        | some (.file _) => (.error .notDirectory, disk)
        | none => makeAlong (descend place component) rest
            (disk.put (descend place component) .directory)
      else (.error .tooLong, disk) := by
  rw [makeAlong]
  cases short : fits component with
  | false => rfl
  | true =>
      simp only [Bool.not_true, Bool.false_eq_true, if_false, if_true]
      rw [get_bind_apply]
      cases found : disk.nodeAt? (descend place component) with
      | none => rfl
      | some node => cases node <;> rfl

theorem grows_makeAlong (place : Place) (route : List String) (disk : Disk) :
    Grows (stations place route) disk (makeAlong place route disk).2 := by
  induction route generalizing place disk with
  | nil => exact .refl _ disk
  | cons component rest inductionHypothesis =>
      have others (disk : Disk) : Grows (stations place (component :: rest)) disk
          (makeAlong (descend place component) rest disk).2 :=
        (inductionHypothesis _ disk).mono (List.subset_cons_self _ _)
      have own : [descend place component] ⊆ stations place (component :: rest) :=
        List.cons_subset_cons _ (List.nil_subset _)
      rw [makeAlong_cons]
      split
      next =>
        split
        next => exact others disk
        next => exact .refl _ disk
        next missing => exact ((grows_put missing).mono own).trans (others _)
      next => exact .refl _ disk

theorem require_apply (path : String) (disk : Disk) :
    require path disk = ((disk.find path).map fun _ => (), disk) := by
  rw [require, get_bind_apply]
  cases disk.find path <;> rfl

theorem makeDirectories_apply (path : String) (disk : Disk) :
    makeDirectories path disk =
      match textFault? path with
      | some fault => (.error fault, disk)
      | none => (makeAlong (disk.start path) (makeable path) >>= fun _ =>
          if endsInDot path then require path else pure ()) disk := by
  rw [makeDirectories]
  cases textFault? path <;> rfl

theorem makeDirectories_snd (path : String) (disk : Disk) :
    (makeDirectories path disk).2 =
      match textFault? path with
      | some _ => disk
      | none => (makeAlong (disk.start path) (makeable path) disk).2 := by
  rw [makeDirectories_apply]
  cases textFault? path with
  | some => rfl
  | none =>
      cases step : makeAlong (disk.start path) (makeable path) disk with
      | mk outcome made =>
          cases outcome with
          | error => rw [Action.bind_of_error step]
          | ok =>
              rw [Action.bind_of_ok step]
              cases endsInDot path with
              | true =>
                  change (require path made).2 = made
                  rw [require_apply]
              | false => rfl

theorem stations_append_subset (place : Place) (front rest : List String) :
    stations place front ⊆ stations place (front ++ rest) := by
  induction front generalizing place with
  | nil => exact List.nil_subset _
  | cons component more inductionHypothesis =>
      exact List.cons_subset_cons _ (inductionHypothesis _)

theorem grows_makeDirectories (path : String) (disk : Disk) :
    Grows (stations (disk.start path) (components path)) disk (makeDirectories path disk).2 := by
  rw [makeDirectories_snd]
  cases textFault? path with
  | some => exact .refl _ disk
  | none =>
      obtain ⟨rest, parts⟩ := exists_components_eq_makeable_append path
      rw [parts]
      exact (grows_makeAlong _ _ disk).mono (stations_append_subset _ _ _)

/-- Whether every file and directory stands in a directory, and paths start in
one. -/
structure Rooted (disk : Disk) : Prop where
  working : disk.nodeAt? disk.working = some .directory
  parent : ∀ {place node}, disk.nodeAt? place = some node →
    disk.nodeAt? place.dropLast = some .directory

theorem rooted_empty : Rooted ⟨[], Table.empty⟩ := by
  refine ⟨rfl, ?_⟩
  intro place node found
  cases place with
  | nil => rfl
  | cons => cases found

namespace Rooted

/-- What stands below a place stands in a directory there. -/
theorem ancestor (rooted : disk.Rooted) {below : List String} (nonempty : below ≠ [])
    (found : disk.nodeAt? (place ++ below) = some node) :
    disk.nodeAt? place = some .directory := by
  induction below generalizing place with
  | nil => exact absurd rfl nonempty
  | cons name rest inductionHypothesis =>
      have next : ∃ node, disk.nodeAt? (place ++ [name]) = some node := by
        cases rest with
        | nil => exact ⟨node, found⟩
        | cons second more =>
            rw [List.append_cons] at found
            exact ⟨.directory, inductionHypothesis (List.cons_ne_nil _ _) found⟩
      obtain ⟨node, found⟩ := next
      have parent := rooted.parent found
      rwa [List.dropLast_concat] at parent

theorem of_keeps (rooted : disk.Rooted) (keeps : KeepsDirectories disk altered)
    (parent : ∀ {place node}, altered.nodeAt? place = some node →
      disk.nodeAt? place.dropLast = some .directory) : altered.Rooted := by
  constructor
  · rw [keeps.working]
    exact keeps.directory _ rooted.working
  · intro place node found
    exact keeps.directory _ (parent found)

theorem put (rooted : disk.Rooted) (notDirectory : disk.nodeAt? place ≠ some .directory)
    (parent : disk.nodeAt? place.dropLast = some .directory) (node : Node) :
    (disk.put place node).Rooted := by
  have keeps : KeepsDirectories disk (disk.put place node) := by
    refine ⟨rfl, fun other isDirectory => ?_⟩
    rw [nodeAt?_put_of_ne (ne_of_apply_ne disk.nodeAt? ?_)]
    · exact isDirectory
    · rw [isDirectory]
      exact notDirectory.symm
  apply rooted.of_keeps keeps
  intro other otherNode found
  by_cases same : other = place
  · rw [same]
    exact parent
  · rw [nodeAt?_put_of_ne same] at found
    exact rooted.parent found

theorem dropLast_descend (rooted : disk.Rooted) (isDirectory : disk.nodeAt? place = some .directory)
    (component : String) : disk.nodeAt? (descend place component).dropLast = some .directory := by
  unfold descend
  split
  · exact rooted.parent isDirectory
  · split
    · exact rooted.parent (rooted.parent isDirectory)
    · rw [List.dropLast_concat]
      exact isDirectory

theorem dropLast_of_walk (rooted : disk.Rooted)
    (parent : disk.nodeAt? place.dropLast = some .directory)
    (walked : disk.walk place route = .ok other) :
    disk.nodeAt? other.dropLast = some .directory := by
  induction route generalizing place with
  | nil =>
      cases walked
      exact parent
  | cons component rest inductionHypothesis =>
      obtain ⟨isDirectory, -, onward⟩ := walk_cons_eq_ok_iff.mp walked
      exact inductionHypothesis (rooted.dropLast_descend isDirectory component) onward

theorem start (rooted : disk.Rooted) (path : String) :
    disk.nodeAt? (disk.start path) = some .directory := by
  unfold Disk.start
  split
  · rfl
  · exact rooted.working

theorem dropLast_of_locate (rooted : disk.Rooted) (located : disk.locate path = .ok place) :
    disk.nodeAt? place.dropLast = some .directory := by
  unfold Disk.locate at located
  split at located
  next => cases located
  next =>
    split at located
    next => cases located
    next => exact rooted.dropLast_of_walk (rooted.parent (rooted.start path)) located

theorem makeAlong (rooted : disk.Rooted) (isDirectory : disk.nodeAt? place = some .directory)
    (route : List String) : (makeAlong place route disk).2.Rooted := by
  induction route generalizing place disk with
  | nil => exact rooted
  | cons component rest inductionHypothesis =>
      rw [makeAlong_cons]
      split
      next =>
        split
        next found => exact inductionHypothesis rooted found
        next => exact rooted
        next missing =>
          have notDirectory : disk.nodeAt? (descend place component) ≠ some .directory := by
            rw [missing]
            nofun
          apply inductionHypothesis
            (rooted.put notDirectory (rooted.dropLast_descend isDirectory component) _)
          exact nodeAt?_put_self (ne_root_of_nodeAt? notDirectory)
      next => exact rooted

theorem makeDirectories (rooted : disk.Rooted) (path : String) :
    (makeDirectories path disk).2.Rooted := by
  rw [makeDirectories_snd]
  cases textFault? path with
  | some => exact rooted
  | none => exact rooted.makeAlong (rooted.start path) _

end Rooted

end TagCatalog.Disk

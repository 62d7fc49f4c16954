import TagCatalog.Proofs.Disk.Growth
import TagCatalog.Proofs.Disk.Parent

/-!
# Paths that new directories leave alone

A path that led to nothing may come to lead to something that was there before,
once directories are made: if it goes through `..` behind a directory that was
missing.  An anchored path does not, so it comes to lead at most to one of the new
directories.
-/

namespace TagCatalog.Disk

open TagCatalog.Path

variable {disk altered : Disk} {place other : Place} {places : List Place}
  {path : String} {route : List String} {node : Node}

theorem exists_of_walk (plain : ".." ∉ route) (walked : disk.walk place route = .ok other) :
    ∃ below, other = place ++ below ∧ below.length = route.countP isNamed := by
  induction route generalizing place with
  | nil =>
      cases walked
      exact ⟨[], (List.append_nil _).symm, rfl⟩
  | cons component rest inductionHypothesis =>
      obtain ⟨notParent, restPlain⟩ : component ≠ ".." ∧ ".." ∉ rest := by
        simpa [eq_comm] using plain
      obtain ⟨-, -, onward⟩ := walk_cons_eq_ok_iff.mp walked
      obtain ⟨below, rfl, length⟩ := inductionHypothesis restPlain onward
      rw [List.countP_cons]
      unfold descend
      split
      next unnamed =>
        have notNamed : isNamed component = false := by
          rcases (Bool.or_eq_true _ _).mp unnamed with same | same <;>
            simp [isNamed, of_decide_eq_true same]
        exact ⟨below, rfl, by simp [notNamed, length]⟩
      next named =>
        have isNamed : isNamed component = true := by simpa [isNamed] using named
        refine ⟨component :: below, (List.append_cons _ _ _).symm, ?_⟩
        simp [isNamed, length]

theorem length_descend_le (place : Place) (component : String) :
    (descend place component).length ≤ place.length + if isNamed component then 1 else 0 := by
  unfold descend
  split
  next => exact Nat.le_add_right _ _
  next named =>
    split
    next =>
      rw [List.length_dropLast]
      omega
    next =>
      have isNamed : isNamed component = true := by simpa [isNamed] using named
      simp [isNamed]

theorem length_le_of_mem_stations (membership : other ∈ stations place route) :
    other.length ≤ place.length + route.countP isNamed := by
  induction route generalizing place with
  | nil => cases membership
  | cons component rest inductionHypothesis =>
      have first := length_descend_le place component
      rw [List.countP_cons]
      rcases List.mem_cons.mp membership with rfl | inRest
      · omega
      · have others := inductionHypothesis inRest
        omega

/-- On a disk whose nodes stand in directories, new directories are on the way to
nothing that was there before, unless by way of `..`. -/
theorem Rooted.walk_of_grows (rooted : disk.Rooted) (grows : Grows places disk altered)
    (plain : ".." ∉ route) (walked : altered.walk place route = .ok other)
    (found : disk.nodeAt? other = some node) : disk.walk place route = .ok other := by
  induction route generalizing place with
  | nil => exact walked
  | cons component rest inductionHypothesis =>
      obtain ⟨below, rfl, -⟩ := exists_of_walk plain walked
      have restPlain : ".." ∉ rest := fun inRest => plain (List.mem_cons_of_mem _ inRest)
      obtain ⟨isDirectory, fits, onward⟩ := walk_cons_eq_ok_iff.mp walked
      have before : disk.nodeAt? place = some .directory := by
        by_cases here : below = []
        · rw [here, List.append_nil] at found
          rwa [grows.nodeAt? found, ← found] at isDirectory
        · exact rooted.ancestor here found
      exact walk_cons_eq_ok_iff.mpr ⟨before, fits, inductionHypothesis restPlain onward⟩

theorem walk_append_eq_ok_iff {front rest : List String} :
    disk.walk place (front ++ rest) = .ok other ↔
      ∃ between, disk.walk place front = .ok between ∧ disk.walk between rest = .ok other := by
  induction front generalizing place with
  | nil => simp [Disk.walk]
  | cons component more inductionHypothesis =>
      simp only [List.cons_append, walk_cons_eq_ok_iff, inductionHypothesis]
      constructor
      · rintro ⟨isDirectory, fits, between, reached, onward⟩
        exact ⟨between, ⟨isDirectory, fits, reached⟩, onward⟩
      · rintro ⟨between, ⟨isDirectory, fits, reached⟩, onward⟩
        exact ⟨isDirectory, fits, between, reached, onward⟩

theorem KeepsDirectories.walk_behind (keeps : KeepsDirectories disk altered)
    {front rest : List String} {between : Place} (walked : disk.walk place front = .ok between)
    (whole : altered.walk place (front ++ rest) = .ok other) :
    altered.walk between rest = .ok other := by
  obtain ⟨reached, there, onward⟩ := walk_append_eq_ok_iff.mp whole
  rw [keeps.walk walked] at there
  cases there
  exact onward

theorem directory_of_walk (nonempty : route ≠ []) (walked : disk.walk place route = .ok other) :
    disk.nodeAt? place = some .directory := by
  obtain ⟨component, rest, rfl⟩ := List.exists_cons_of_ne_nil nonempty
  exact (walk_cons_eq_ok_iff.mp walked).1

theorem eq_or_directory_of_mem_stations (walked : disk.walk place route = .ok other)
    {station : Place} (membership : station ∈ stations place route) :
    station = other ∨ disk.nodeAt? station = some .directory := by
  induction route generalizing place with
  | nil => cases membership
  | cons component rest inductionHypothesis =>
      obtain ⟨-, -, onward⟩ := walk_cons_eq_ok_iff.mp walked
      rcases List.mem_cons.mp membership with rfl | later
      · by_cases last : rest = []
        · rw [last] at onward
          exact .inl (Except.ok.inj onward)
        · exact .inr (directory_of_walk last onward)
      · exact inductionHypothesis onward later

theorem mem_stations_append {front rest : List String} {station : Place}
    (walked : disk.walk place front = .ok other)
    (membership : station ∈ stations place (front ++ rest)) :
    station ∈ stations place front ∨ station ∈ stations other rest := by
  induction front generalizing place with
  | nil =>
      cases walked
      exact .inr membership
  | cons component more inductionHypothesis =>
      obtain ⟨-, -, onward⟩ := walk_cons_eq_ok_iff.mp walked
      rcases List.mem_cons.mp membership with rfl | later
      · exact .inl List.mem_cons_self
      · exact (inductionHypothesis onward later).imp_left (List.mem_cons_of_mem _)

theorem locate_eq_ok_iff : disk.locate path = .ok place ↔
    textFault? path = none ∧ path.isEmpty = false ∧
      disk.walk (disk.start path) (components path) = .ok place := by
  unfold Disk.locate
  cases textFault? path with
  | some fault => simp
  | none => cases path.isEmpty <;> simp

/-- Whether `..` stands in a path only as far as the directories are there.  Where it goes
on behind them, every node has to stand in a directory. -/
def Anchored (path : String) (disk : Disk) : Prop :=
  ∃ front rest place, components path = front ++ rest ∧
    disk.walk (disk.start path) front = .ok place ∧ (rest = [] ∨ disk.Rooted ∧ ".." ∉ rest)

theorem anchored_of_locate (located : disk.locate path = .ok place) : Anchored path disk :=
  ⟨components path, [], place, (List.append_nil _).symm, (locate_eq_ok_iff.mp located).2.2,
    .inl rfl⟩

theorem Rooted.anchored (rooted : disk.Rooted) (plain : ".." ∉ components path) :
    Anchored path disk :=
  ⟨[], components path, disk.start path, rfl, rfl, .inr ⟨rooted, plain⟩⟩

/-- An anchored path comes to lead at most to a new directory. -/
theorem Anchored.find_of_grows (anchored : Anchored path disk)
    (grows : Grows places disk altered) (found : altered.find path = .ok node) :
    disk.find path = .ok node ∨
      ∃ place ∈ places, altered.locate path = .ok place ∧ disk.nodeAt? place = none ∧
        node = .directory := by
  obtain ⟨target, located, present⟩ := find_eq_ok_iff.mp found
  rcases grows.node target with same | ⟨membership, missing, isDirectory⟩
  · left
    rw [same] at present
    obtain ⟨front, rest, place, parts, reached, anchor⟩ := anchored
    obtain ⟨faultless, nonempty, walked⟩ := locate_eq_ok_iff.mp located
    refine find_eq_ok_iff.mpr ⟨target, locate_eq_ok_iff.mpr ⟨faultless, nonempty, ?_⟩, present⟩
    rw [parts] at walked ⊢
    rw [grows.keeps.start_eq] at walked
    have onward := grows.keeps.walk_behind reached walked
    refine walk_append_eq_ok_iff.mpr ⟨place, reached, ?_⟩
    rcases anchor with rfl | ⟨rooted, plain⟩
    · exact onward
    · exact rooted.walk_of_grows grows plain onward present
  · right
    rw [isDirectory] at present
    exact ⟨target, membership, located, missing, (Option.some.inj present).symm⟩

theorem Anchored.find_eq_directory_or (anchored : Anchored path disk)
    (grows : Grows places disk altered) : altered.find path = .ok .directory ∨
      ∀ node, altered.find path = .ok node ↔ disk.find path = .ok node := by
  cases found : altered.find path with
  | error fault =>
      right
      intro node
      constructor
      · nofun
      · intro before
        rw [grows.find before] at found
        cases found
  | ok node =>
      rcases anchored.find_of_grows grows found with before | ⟨-, -, -, -, rfl⟩
      · right
        intro other
        rw [before]
      · exact .inl rfl

theorem start_of_front {front whole : String} (nonempty : front ≠ "")
    (isFront : ∃ rest, whole.toList = front.toList ++ rest) :
    disk.start front = disk.start whole := by
  obtain ⟨rest, parts⟩ := isFront
  have notNil : front.toList ≠ [] := mt String.toList_eq_nil_iff.mp nonempty
  obtain ⟨first, others, characters⟩ := List.exists_cons_of_ne_nil notNil
  simp [start, isAbsolute, parts, characters]

/-- An anchored path does not come to lead to one of the directories on the way to a front
of it: those that are on the walk as far as it goes are not new, and the others are not
as deep. -/
theorem Anchored.not_mem_stations (anchored : Anchored path disk)
    (keeps : KeepsDirectories disk altered) {before middle : List String}
    (parts : components path = before ++ middle)
    (named : ∃ component ∈ middle, isNamed component = true)
    (located : altered.locate path = .ok place) (missing : disk.nodeAt? place = none) :
    place ∉ stations (disk.start path) before := by
  intro membership
  obtain ⟨front, rest, reached, ownParts, walked, anchor⟩ := anchored
  have positive : 0 < middle.countP isNamed := List.countP_pos_iff.mpr named
  have behind : ∀ more, rest = more ++ middle →
      ∃ below, place = reached ++ below ∧ more.countP isNamed < below.length := by
    rintro more rfl
    rcases anchor with empty | ⟨-, plain⟩
    · obtain ⟨-, rfl⟩ := List.append_eq_nil_iff.mp empty
      cases positive
    · have whole := (locate_eq_ok_iff.mp located).2.2
      rw [ownParts, keeps.start_eq] at whole
      obtain ⟨below, rfl, length⟩ := exists_of_walk plain (keeps.walk_behind walked whole)
      rw [List.countP_append] at length
      exact ⟨below, rfl, by omega⟩
  have notEnd (more : List String) (parts : rest = more ++ middle) : place ≠ reached := by
    obtain ⟨below, rfl, length⟩ := behind more parts
    intro same
    rw [List.append_right_eq_self.mp same] at length
    cases length
  rcases List.append_eq_append_iff.mp (ownParts.symm.trans parts) with
    ⟨more, rfl, restParts⟩ | ⟨more, rfl, middleParts⟩
  · rcases mem_stations_append walked membership with onWalk | beyond
    · rcases eq_or_directory_of_mem_stations walked onWalk with same | isDirectory
      · exact notEnd more restParts same
      · rw [missing] at isDirectory
        cases isDirectory
    · obtain ⟨below, rfl, length⟩ := behind more restParts
      have short := length_le_of_mem_stations beyond
      rw [List.length_append] at short
      omega
  · obtain ⟨between, reachedBetween, onward⟩ := walk_append_eq_ok_iff.mp walked
    rcases eq_or_directory_of_mem_stations reachedBetween membership with rfl | isDirectory
    · by_cases last : more = []
      · subst last
        exact notEnd [] middleParts.symm (Except.ok.inj onward)
      · rw [directory_of_walk last onward] at missing
        cases missing
    · rw [missing] at isDirectory
      cases isDirectory

end TagCatalog.Disk

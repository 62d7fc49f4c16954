import TagCatalog.Proofs.Disk.Anchored

/-!
# Directories that are made again

To make directories a second time changes nothing.  If it has failed, it fails again in
the same way, and if it has succeeded, it succeeds as long as the directories are kept.
Where a walk goes through, all directories are there already.  A dot at the end of a path
asks for a directory and makes none, so nothing changes where it stands.
-/

namespace TagCatalog.Disk

open TagCatalog.Path

variable {disk grown altered : Disk} {place other : Place} {path component : String}
  {route rest : List String} {fault : Fault}

theorem makeAlong_of_directory (fit : fits component = true)
    (isDirectory : disk.nodeAt? (descend place component) = some .directory) :
    makeAlong place (component :: rest) disk = makeAlong (descend place component) rest disk := by
  rw [makeAlong_cons, if_pos fit, isDirectory]

/-- The first step fails and changes nothing, or goes on from a directory. -/
theorem makeAlong_cons_cases (place : Place) (component : String) (rest : List String)
    (disk : Disk) :
    (∃ fault, makeAlong place (component :: rest) disk = (.error fault, disk)) ∨
      fits component = true ∧ ∃ next, next.nodeAt? (descend place component) = some .directory ∧
        makeAlong place (component :: rest) disk =
          makeAlong (descend place component) rest next := by
  rw [makeAlong_cons]
  split
  next fit =>
    split
    next isDirectory => exact .inr ⟨fit, disk, isDirectory, rfl⟩
    next => exact .inl ⟨.notDirectory, rfl⟩
    next missing =>
      have notDirectory : disk.nodeAt? (descend place component) ≠ some .directory := by
        rw [missing]
        nofun
      exact .inr ⟨fit, _, nodeAt?_put_self (ne_root_of_nodeAt? notDirectory), rfl⟩
  next => exact .inl ⟨.tooLong, rfl⟩

theorem makeAlong_again_of_error (failed : makeAlong place route disk = (.error fault, altered)) :
    makeAlong place route altered = (.error fault, altered) := by
  induction route generalizing place disk with
  | nil => cases failed
  | cons component rest inductionHypothesis =>
      rcases makeAlong_cons_cases place component rest disk with
        ⟨_, stops⟩ | ⟨fit, next, isDirectory, onward⟩
      · rw [stops] at failed
        cases failed
        exact stops
      · rw [onward] at failed
        have grows := grows_makeAlong (descend place component) rest next
        rw [failed] at grows
        rw [makeAlong_of_directory fit (grows.nodeAt? isDirectory)]
        exact inductionHypothesis failed

theorem makeAlong_again_of_ok (made : makeAlong place route disk = (.ok (), grown))
    (keeps : KeepsDirectories grown altered) :
    makeAlong place route altered = (.ok (), altered) := by
  induction route generalizing place disk with
  | nil => rfl
  | cons component rest inductionHypothesis =>
      rcases makeAlong_cons_cases place component rest disk with
        ⟨_, stops⟩ | ⟨fit, next, isDirectory, onward⟩
      · rw [stops] at made
        cases made
      · rw [onward] at made
        have grows := grows_makeAlong (descend place component) rest next
        rw [made] at grows
        rw [makeAlong_of_directory fit (keeps.directory _ (grows.nodeAt? isDirectory))]
        exact inductionHypothesis made

theorem makeAlong_of_walk (walked : disk.walk place route = .ok other)
    (isDirectory : disk.nodeAt? other = some .directory) :
    makeAlong place route disk = (.ok (), disk) := by
  induction route generalizing place with
  | nil => rfl
  | cons component rest inductionHypothesis =>
      obtain ⟨-, fit, onward⟩ := walk_cons_eq_ok_iff.mp walked
      have next : disk.nodeAt? (descend place component) = some .directory := by
        by_cases last : rest = []
        · subst last
          cases onward
          exact isDirectory
        · exact directory_of_walk last onward
      rw [makeAlong_of_directory fit next]
      exact inductionHypothesis onward

theorem makeDirectories_of_textFault?_eq_none (faultless : textFault? path = none) (disk : Disk) :
    makeDirectories path disk =
      (makeAlong (disk.start path) (makeable path) >>= fun _ =>
        if endsInDot path then require path else pure ()) disk := by
  rw [makeDirectories_apply, faultless]

theorem require_eq_ok_iff :
    require path disk = (.ok (), altered) ↔ altered = disk ∧ ∃ node, disk.find path = .ok node := by
  rw [require_apply]
  cases disk.find path with
  | error => exact ⟨nofun, nofun⟩
  | ok node =>
      constructor
      · intro done
        cases done
        exact ⟨rfl, node, rfl⟩
      · rintro ⟨rfl, -⟩
        rfl

theorem eq_of_require (failed : require path disk = (.error fault, altered)) : altered = disk := by
  rw [require_apply] at failed
  exact (congrArg Prod.snd failed).symm

/-- What a dot at the end of a path stands behind is a directory. -/
theorem directory_of_endsInDot {node : Node} (ends : endsInDot path = true)
    (found : disk.find path = .ok node) : node = .directory := by
  obtain ⟨place, located, present⟩ := find_eq_ok_iff.mp found
  obtain ⟨front, unnamed, parts, empty⟩ := exists_components_of_endsInDot ends
  have walked := (locate_eq_ok_iff.mp located).2.2
  rw [parts] at walked
  obtain ⟨between, -, onward⟩ := walk_append_eq_ok_iff.mp walked
  have isDirectory := directory_of_walk (List.cons_ne_nil _ _) onward
  have notNamed : ∀ component ∈ "." :: unnamed, isNamed component = false := by
    refine List.forall_mem_cons.mpr ⟨rfl, fun component membership => ?_⟩
    rw [empty component membership]
    rfl
  have plain : ".." ∉ "." :: unnamed := by
    intro membership
    cases notNamed _ membership
  obtain ⟨below, rfl, length⟩ := exists_of_walk plain onward
  rw [List.countP_eq_zero.mpr (by simpa using notNamed), List.length_eq_zero_iff] at length
  rw [length, List.append_nil, isDirectory] at present
  exact (Option.some.inj present).symm

theorem makeDirectories_eq_ok_iff (faultless : textFault? path = none) :
    makeDirectories path disk = (.ok (), altered) ↔
      makeAlong (disk.start path) (makeable path) disk = (.ok (), altered) ∧
        (endsInDot path = true → ∃ node, altered.find path = .ok node) := by
  rw [makeDirectories_of_textFault?_eq_none faultless]
  constructor
  · intro made
    obtain ⟨_, _, done, there⟩ := Action.exists_of_bind_eq_ok made
    cases ends : endsInDot path with
    | false =>
        rw [ends] at there
        cases there
        exact ⟨done, nofun⟩
    | true =>
        rw [ends] at there
        obtain ⟨rfl, found⟩ := require_eq_ok_iff.mp there
        exact ⟨done, fun _ => found⟩
  · rintro ⟨done, there⟩
    rw [Action.bind_of_ok done]
    cases ends : endsInDot path with
    | false => rfl
    | true => exact require_eq_ok_iff.mpr ⟨rfl, there ends⟩

theorem makeDirectories_again_of_error
    (failed : makeDirectories path disk = (.error fault, altered)) :
    makeDirectories path altered = (.error fault, altered) := by
  have keeps := (grows_makeDirectories path disk).keeps
  rw [failed] at keeps
  cases wrong : textFault? path with
  | some =>
      rw [makeDirectories_apply, wrong] at failed ⊢
      cases failed
      rfl
  | none =>
      rw [makeDirectories_of_textFault?_eq_none wrong] at failed ⊢
      rw [keeps.start_eq]
      rcases Action.of_bind_eq_error failed with notMade | ⟨_, made, done, missing⟩
      · exact Action.bind_of_error (makeAlong_again_of_error notMade)
      · cases ends : endsInDot path with
        | false =>
            rw [ends] at missing
            cases missing
        | true =>
            rw [ends] at missing
            obtain rfl := eq_of_require missing
            rw [Action.bind_of_ok (makeAlong_again_of_ok done ⟨rfl, fun _ => id⟩)]
            exact missing

theorem makeDirectories_again_of_ok (made : makeDirectories path disk = (.ok (), grown))
    (keeps : KeepsDirectories grown altered) :
    makeDirectories path altered = (.ok (), altered) := by
  have grows := (grows_makeDirectories path disk).keeps
  rw [made] at grows
  cases wrong : textFault? path with
  | some =>
      rw [makeDirectories_apply, wrong] at made
      cases made
  | none =>
      obtain ⟨done, there⟩ := (makeDirectories_eq_ok_iff wrong).mp made
      refine (makeDirectories_eq_ok_iff wrong).mpr ⟨?_, fun ends => ?_⟩
      · rw [keeps.start_eq, grows.start_eq]
        exact makeAlong_again_of_ok done keeps
      · obtain ⟨node, found⟩ := there ends
        obtain rfl := directory_of_endsInDot ends found
        exact ⟨.directory, keeps.find found⟩

/-- Nothing has to be made where the components of a path lead to a directory. -/
theorem makeDirectories_of_walk (faultless : textFault? path = none)
    (walked : disk.walk (disk.start path) (components path) = .ok place)
    (isDirectory : disk.nodeAt? place = some .directory) :
    makeDirectories path disk = (.ok (), disk) := by
  obtain ⟨rest, parts⟩ := exists_components_eq_makeable_append path
  have split := walked
  rw [parts] at split
  obtain ⟨between, reached, onward⟩ := walk_append_eq_ok_iff.mp split
  have reachedDirectory : disk.nodeAt? between = some .directory := by
    by_cases whole : rest = []
    · subst whole
      cases onward
      exact isDirectory
    · exact directory_of_walk whole onward
  refine (makeDirectories_eq_ok_iff faultless).mpr
    ⟨makeAlong_of_walk reached reachedDirectory, fun ends => ?_⟩
  have nonempty : path.isEmpty = false := by
    rw [Bool.eq_false_iff]
    intro empty
    rw [String.isEmpty_iff.mp empty] at ends
    cases ends
  have located := locate_eq_ok_iff.mpr ⟨faultless, nonempty, walked⟩
  exact ⟨.directory, find_eq_ok_iff.mpr ⟨place, located, isDirectory⟩⟩

end TagCatalog.Disk

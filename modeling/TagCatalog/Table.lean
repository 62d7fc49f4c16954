/-!
Finite maps whose entries stand in increasing order of their keys.

The order is part of the type, so two tables with the same entries are equal
and a walk over a table meets the keys in order.  `get?_insert` and
`get?_erase` describe the two changes through look-up; `ext_get?` says that
look-up determines the table.
-/

namespace TagCatalog

/-- A finite map, listed in strictly increasing order of its keys. -/
structure Table (Key Value : Type) [Ord Key] where
  entries : List (Key × Value)
  increasing : entries.Pairwise fun first second => compare first.1 second.1 = .lt

namespace Table

section Entries

variable {Key Value : Type} [Ord Key]

def insertEntry (key : Key) (value : Value) :
    List (Key × Value) → List (Key × Value)
  | [] => [(key, value)]
  | (other, old) :: rest =>
      match compare key other with
      | .lt => (key, value) :: (other, old) :: rest
      | .eq => (key, value) :: rest
      | .gt => (other, old) :: insertEntry key value rest

def lookup (key : Key) : List (Key × Value) → Option Value
  | [] => none
  | (other, value) :: rest =>
      if compare key other = .eq then some value else lookup key rest

theorem mem_insertEntry {key : Key} {value : Value} {entry : Key × Value}
    {entries : List (Key × Value)}
    (membership : entry ∈ insertEntry key value entries) :
    entry = (key, value) ∨ entry ∈ entries := by
  induction entries with
  | nil => simpa [insertEntry] using membership
  | cons head rest inductionHypothesis =>
      obtain ⟨other, old⟩ := head
      simp only [insertEntry] at membership
      split at membership
      · simpa using membership
      · rcases List.mem_cons.mp membership with here | later
        · exact .inl here
        · exact .inr (List.mem_cons_of_mem _ later)
      · rcases List.mem_cons.mp membership with here | later
        · exact .inr (here ▸ List.mem_cons_self)
        · exact (inductionHypothesis later).imp id (List.mem_cons_of_mem _)

theorem lookup_eq_none_of_lt {key : Key} {entries : List (Key × Value)}
    (below : ∀ entry ∈ entries, compare key entry.1 = .lt) :
    lookup key entries = none := by
  induction entries with
  | nil => rfl
  | cons head rest inductionHypothesis =>
      have first := below head List.mem_cons_self
      simp only [lookup, first]
      exact inductionHypothesis fun entry membership =>
        below entry (List.mem_cons_of_mem _ membership)

variable [Std.TransOrd Key]

theorem insertEntry_increasing (key : Key) (value : Value)
    {entries : List (Key × Value)}
    (increasing : entries.Pairwise fun first second => compare first.1 second.1 = .lt) :
    (insertEntry key value entries).Pairwise
      fun first second => compare first.1 second.1 = .lt := by
  induction entries with
  | nil => simp [insertEntry]
  | cons head rest inductionHypothesis =>
      obtain ⟨other, old⟩ := head
      obtain ⟨first, later⟩ := List.pairwise_cons.mp increasing
      simp only [insertEntry]
      split
      next below =>
        refine List.pairwise_cons.mpr ⟨fun entry membership => ?_, increasing⟩
        rcases List.mem_cons.mp membership with here | there
        · subst here
          exact below
        · exact Std.TransCmp.lt_trans below (first entry there)
      next same =>
        exact List.pairwise_cons.mpr
          ⟨fun entry membership => Std.TransCmp.lt_of_eq_of_lt same (first entry membership),
            later⟩
      next above =>
        refine List.pairwise_cons.mpr ⟨fun entry membership => ?_, inductionHypothesis later⟩
        rcases mem_insertEntry membership with here | there
        · subst here
          exact Std.OrientedCmp.lt_of_gt above
        · exact first entry there

theorem lookup_insertEntry (key sought : Key) (value : Value)
    (entries : List (Key × Value)) :
    lookup sought (insertEntry key value entries) =
      if compare sought key = .eq then some value else lookup sought entries := by
  induction entries with
  | nil => simp [insertEntry, lookup]
  | cons head rest inductionHypothesis =>
      obtain ⟨other, old⟩ := head
      simp only [insertEntry]
      split
      next below => simp [lookup]
      next same =>
        simp only [lookup]
        by_cases found : compare sought key = .eq
        · simp [found]
        · have differs : ¬ compare sought other = .eq := fun equal =>
            found (Std.TransCmp.eq_trans equal (Std.OrientedCmp.eq_symm same))
          simp [found, differs]
      next above =>
        simp only [lookup, inductionHypothesis]
        by_cases found : compare sought key = .eq
        · have differs : ¬ compare sought other = .eq := fun equal => by
            have same := Std.TransCmp.eq_trans (Std.OrientedCmp.eq_symm found) equal
            rw [same] at above
            exact absurd above (by decide)
          simp [found, differs]
        · simp [found]

end Entries

variable {Key Value : Type} [Ord Key]

def empty : Table Key Value where
  entries := []
  increasing := .nil

def get? (table : Table Key Value) (key : Key) : Option Value :=
  lookup key table.entries

@[simp]
theorem get?_empty (key : Key) : (empty : Table Key Value).get? key = none := rfl

def contains (table : Table Key Value) (key : Key) : Bool :=
  (table.get? key).isSome

def size (table : Table Key Value) : Nat :=
  table.entries.length

def values (table : Table Key Value) : List Value :=
  table.entries.map Prod.snd

def erase (table : Table Key Value) (key : Key) : Table Key Value where
  entries := table.entries.filter fun entry => compare key entry.1 != .eq
  increasing := table.increasing.filter _

variable [Std.TransOrd Key]

def insert (table : Table Key Value) (key : Key) (value : Value) :
    Table Key Value where
  entries := insertEntry key value table.entries
  increasing := insertEntry_increasing key value table.increasing

/-- The table of a list of entries, of which the last one for a key counts. -/
def ofList (entries : List (Key × Value)) : Table Key Value :=
  entries.foldl (fun table entry => table.insert entry.1 entry.2) empty

theorem get?_insert (table : Table Key Value) (key sought : Key) (value : Value) :
    (table.insert key value).get? sought =
      if compare sought key = .eq then some value else table.get? sought :=
  lookup_insertEntry key sought value table.entries

theorem get?_erase (table : Table Key Value) (key sought : Key) :
    (table.erase key).get? sought =
      if compare sought key = .eq then none else table.get? sought := by
  simp only [get?, erase]
  generalize table.entries = entries
  induction entries with
  | nil => simp [lookup]
  | cons head rest inductionHypothesis =>
      obtain ⟨other, value⟩ := head
      by_cases removed : compare key other = .eq
      · rw [List.filter_cons_of_neg (by simp [removed]), inductionHypothesis]
        by_cases found : compare sought key = .eq
        · simp [found]
        · have differs : ¬ compare sought other = .eq := fun equal =>
            found (Std.TransCmp.eq_trans equal (Std.OrientedCmp.eq_symm removed))
          simp [found, lookup, differs]
      · rw [List.filter_cons_of_pos (by simp [removed])]
        simp only [lookup, inductionHypothesis]
        by_cases found : compare sought key = .eq
        · have differs : ¬ compare sought other = .eq := fun equal =>
            removed (Std.TransCmp.eq_trans (Std.OrientedCmp.eq_symm found) equal)
          simp [found, differs]
        · simp [found]

theorem ext_get? [Std.LawfulEqOrd Key] {first second : Table Key Value}
    (same : ∀ key, first.get? key = second.get? key) : first = second := by
  obtain ⟨firstEntries, firstIncreasing⟩ := first
  obtain ⟨secondEntries, secondIncreasing⟩ := second
  suffices entriesEqual : firstEntries = secondEntries by
    subst entriesEqual
    rfl
  simp only [get?] at same
  induction firstEntries generalizing secondEntries with
  | nil =>
      cases secondEntries with
      | nil => rfl
      | cons head rest =>
          have found := same head.1
          simp [lookup] at found
  | cons head rest inductionHypothesis =>
      obtain ⟨key, value⟩ := head
      obtain ⟨firstBelow, firstLater⟩ := List.pairwise_cons.mp firstIncreasing
      cases secondEntries with
      | nil =>
          have found := same key
          simp [lookup] at found
      | cons otherHead otherRest =>
          obtain ⟨otherKey, otherValue⟩ := otherHead
          obtain ⟨secondBelow, secondLater⟩ := List.pairwise_cons.mp secondIncreasing
          have atKey := same key
          have atOther := same otherKey
          have keysEqual : compare key otherKey = .eq := by
            cases order : compare key otherKey with
            | eq => rfl
            | lt =>
                have absent : lookup key otherRest = none :=
                  lookup_eq_none_of_lt fun entry membership =>
                    Std.TransCmp.lt_trans order (secondBelow entry membership)
                simp [lookup, order, absent] at atKey
            | gt =>
                have reversed : compare otherKey key = .lt := Std.OrientedCmp.lt_of_gt order
                have absent : lookup otherKey rest = none :=
                  lookup_eq_none_of_lt fun entry membership =>
                    Std.TransCmp.lt_trans reversed (firstBelow entry membership)
                simp [lookup, reversed, absent] at atOther
          have keyEqual : key = otherKey := Std.LawfulEqOrd.eq_of_compare keysEqual
          subst keyEqual
          have valuesEqual : value = otherValue := by
            simpa [lookup] using atKey
          subst valuesEqual
          have restEqual : rest = otherRest := by
            refine inductionHypothesis firstLater _ secondLater fun sought => ?_
            by_cases here : compare sought key = .eq
            · have soughtEqual : sought = key := Std.LawfulEqOrd.eq_of_compare here
              subst soughtEqual
              rw [lookup_eq_none_of_lt firstBelow, lookup_eq_none_of_lt secondBelow]
            · simpa [lookup, here] using same sought
          rw [restEqual]

end Table

end TagCatalog

import TagCatalog.Table

/-!
# Look-up in tables

Look-up finds exactly the entries of a table (`mem_entries_iff`), and it tells
what a change of the values does and what a list of entries comes to: the last
entry for a key counts (`get?_ofList`).
-/

namespace TagCatalog.Table

variable {Key Value Other : Type} [Ord Key]

instance [DecidableEq Key] [DecidableEq Value] : DecidableEq (Table Key Value)
  | ⟨first, _⟩, ⟨second, _⟩ => decidable_of_iff (first = second) (by simp)

def map (table : Table Key Value) (change : Value → Other) : Table Key Other where
  entries := table.entries.map fun entry => (entry.1, change entry.2)
  increasing := List.pairwise_map.mpr table.increasing

@[simp]
theorem get?_map (table : Table Key Value) (change : Value → Other) (key : Key) :
    (table.map change).get? key = (table.get? key).map change := by
  simp only [get?, map]
  generalize table.entries = entries
  induction entries with
  | nil => rfl
  | cons head rest inductionHypothesis =>
      simp only [List.map_cons, lookup]
      split
      · rfl
      · exact inductionHypothesis

@[simp]
theorem contains_map (table : Table Key Value) (change : Value → Other) (key : Key) :
    (table.map change).contains key = table.contains key := by
  simp [contains]

section Lookup

variable [Std.LawfulEqOrd Key]

theorem lookup_eq_some_iff {key : Key} {value : Value} {entries : List (Key × Value)}
    (increasing : entries.Pairwise fun first second => compare first.1 second.1 = .lt) :
    lookup key entries = some value ↔ (key, value) ∈ entries := by
  induction entries with
  | nil => simp [lookup]
  | cons head rest inductionHypothesis =>
      obtain ⟨other, old⟩ := head
      obtain ⟨below, later⟩ := List.pairwise_cons.mp increasing
      simp only [lookup]
      split
      next same =>
        obtain rfl := Std.LawfulEqOrd.eq_of_compare same
        have absent : (key, value) ∉ rest := by
          intro membership
          have order := below _ membership
          rw [Std.ReflOrd.compare_self] at order
          cases order
        simp [absent, eq_comm]
      next differs =>
        have other : key ≠ other := by
          rintro rfl
          exact differs Std.ReflOrd.compare_self
        simp [inductionHypothesis later, other]

theorem mem_entries_iff {table : Table Key Value} {key : Key} {value : Value} :
    (key, value) ∈ table.entries ↔ table.get? key = some value :=
  (lookup_eq_some_iff table.increasing).symm

end Lookup

theorem get?_of_get?_erase [Std.TransOrd Key] {table : Table Key Value} {key sought : Key}
    {value : Value} (found : (table.erase key).get? sought = some value) :
    table.get? sought = some value := by
  rw [get?_erase] at found
  split at found
  next => cases found
  next => exact found

variable [Std.TransOrd Key] [Std.LawfulEqOrd Key]

theorem map_insert (table : Table Key Value) (change : Value → Other) (key : Key) (value : Value) :
    (table.insert key value).map change = (table.map change).insert key (change value) := by
  refine ext_get? fun sought => ?_
  simp only [get?_map, get?_insert]
  split <;> simp

theorem map_erase (table : Table Key Value) (change : Value → Other) (key : Key) :
    (table.erase key).map change = (table.map change).erase key := by
  refine ext_get? fun sought => ?_
  simp only [get?_map, get?_erase]
  split <;> simp

theorem get?_insert_self (table : Table Key Value) (key : Key) (value : Value) :
    (table.insert key value).get? key = some value := by
  rw [get?_insert, if_pos Std.ReflOrd.compare_self]

theorem get?_insert_of_ne (table : Table Key Value) {key sought : Key} (value : Value)
    (other : sought ≠ key) : (table.insert key value).get? sought = table.get? sought := by
  rw [get?_insert, if_neg fun same => other (Std.LawfulEqOrd.eq_of_compare same)]

theorem get?_erase_self (table : Table Key Value) (key : Key) :
    (table.erase key).get? key = none := by
  rw [get?_erase, if_pos Std.ReflOrd.compare_self]

theorem get?_erase_of_ne (table : Table Key Value) {key sought : Key} (other : sought ≠ key) :
    (table.erase key).get? sought = table.get? sought := by
  rw [get?_erase, if_neg fun same => other (Std.LawfulEqOrd.eq_of_compare same)]

theorem insert_insert (table : Table Key Value) (key : Key) (first second : Value) :
    (table.insert key first).insert key second = table.insert key second := by
  refine ext_get? fun sought => ?_
  simp only [get?_insert]
  split <;> rfl

/-- Entries for different keys may be put in in either order. -/
theorem insert_comm (table : Table Key Value) {first second : Key} (differs : first ≠ second)
    (firstValue secondValue : Value) :
    (table.insert first firstValue).insert second secondValue =
      (table.insert second secondValue).insert first firstValue := by
  refine ext_get? fun sought => ?_
  by_cases isFirst : sought = first
  · subst isFirst
    rw [get?_insert_of_ne _ _ differs, get?_insert_self, get?_insert_self]
  · rw [get?_insert_of_ne _ _ isFirst, get?_insert, get?_insert_of_ne _ _ isFirst, get?_insert]

theorem insert_of_get? {table : Table Key Value} {key : Key} {value : Value}
    (found : table.get? key = some value) : table.insert key value = table := by
  refine ext_get? fun sought => ?_
  by_cases same : sought = key
  · rw [same, get?_insert_self, found]
  · exact get?_insert_of_ne table value same

theorem erase_insert {table : Table Key Value} {key : Key} (missing : table.get? key = none)
    (value : Value) : (table.insert key value).erase key = table := by
  refine ext_get? fun sought => ?_
  by_cases same : sought = key
  · rw [same, get?_erase_self, missing]
  · rw [get?_erase_of_ne _ same, get?_insert_of_ne _ _ same]

variable [DecidableEq Key]

theorem get?_foldl_insert (entries : List (Key × Value)) (table : Table Key Value) (key : Key) :
    (entries.foldl (fun table entry => table.insert entry.1 entry.2) table).get? key =
      ((entries.filter fun entry => entry.1 = key).getLast?.map Prod.snd).or
        (table.get? key) := by
  induction entries generalizing table with
  | nil => rfl
  | cons head rest inductionHypothesis =>
      rw [List.foldl_cons, inductionHypothesis]
      by_cases same : head.1 = key
      · rw [List.filter_cons_of_pos (by simpa using same), List.getLast?_cons, ← same,
          get?_insert_self]
        cases (rest.filter fun entry => entry.1 = head.1).getLast? <;> rfl
      · rw [List.filter_cons_of_neg (by simpa using same),
          get?_insert_of_ne _ _ (Ne.symm same)]

theorem get?_ofList (entries : List (Key × Value)) (key : Key) : (ofList entries).get? key =
    (entries.filter fun entry => entry.1 = key).getLast?.map Prod.snd := by
  rw [ofList, get?_foldl_insert, get?_empty, Option.or_none]

theorem mem_of_mem_ofList {entries : List (Key × Value)} {entry : Key × Value}
    (membership : entry ∈ (ofList entries).entries) : entry ∈ entries := by
  have found := mem_entries_iff.mp membership
  rw [get?_ofList] at found
  obtain ⟨last, isLast, value⟩ := Option.map_eq_some_iff.mp found
  obtain ⟨inEntries, key⟩ := List.mem_filter.mp (List.mem_of_getLast? isLast)
  rwa [← Prod.ext (of_decide_eq_true key) value]

/-- In a table, an entry is the only one for its key. -/
theorem ofList_entries (table : Table Key Value) : ofList table.entries = table := by
  refine ext_get? fun key => ?_
  rw [get?_ofList]
  cases last : (table.entries.filter fun entry => entry.1 = key).getLast? with
  | none =>
      cases found : table.get? key with
      | none => rfl
      | some value =>
          have membership : (key, value) ∈ table.entries.filter fun entry => entry.1 = key := by
            simpa using mem_entries_iff.mpr found
          rw [List.getLast?_eq_none_iff.mp last] at membership
          cases membership
  | some entry =>
      obtain ⟨membership, same⟩ := List.mem_filter.mp (List.mem_of_getLast? last)
      obtain rfl := of_decide_eq_true same
      exact (mem_entries_iff.mp membership).symm

end TagCatalog.Table

import TagCatalog.Proofs.Command.Soundness
import TagCatalog.Proofs.Filter.Firsts
import TagCatalog.Proofs.Filter.Naming

/-!
# Tags that are found again

A store `Finds` its tags if a name lists the files that hold a tag of that name, and a
comparison those that hold a valued one that compares as asked.  Every store does that
shows a sound database: names without a fault are parsed as names, a file has one tag of
each name, and files come in the order of their paths.
-/

namespace TagCatalog

namespace Filter

variable {name : String} {comparator : Comparator} {literal : Int64} {tag : Tag} {tags : List Tag}

theorem accepts_present_iff :
    (present name).accepts tags = true ↔ ∃ tag ∈ tags, tag.name = name := by
  simp [accepts, firstNamed]

theorem comparison_iff : comparison comparator literal tag = true ↔
    ∃ value, tag.value = some value ∧ comparator.holds value literal = true := by
  unfold comparison
  cases tag.value <;> simp

theorem accepts_compare_iff
    (distinct : tags.Pairwise fun first second => first.name ≠ second.name) :
    (compare name comparator literal).accepts tags = true ↔ ∃ tag ∈ tags, tag.name = name ∧
      ∃ value, tag.value = some value ∧ comparator.holds value literal = true := by
  rw [accepts, Option.any_eq_true]
  simp only [firstNamed_eq_some_iff distinct, comparison_iff, and_assoc]

end Filter

namespace Command

variable {State : Type} {store : Store State} {state : State} {database : Database}

/-- Whether a store has a file that holds a tag. -/
def Carries (store : Store State) (state : State) (file : File) (tag : Tag) : Prop :=
  ∃ files tags, (store.allFiles state).1 = .ok files ∧ file ∈ files ∧
    (store.tags file state).1 = .ok tags ∧ tag ∈ tags

def matched (strict : Bool) (found : List File) : Except Error Report :=
  if strict && found.isEmpty then .error .noMatches
  else .ok { listed := found.map fun file => ⟨file, none⟩ }

/-- Whether matching lists exactly the files of which something holds, in the order of
their paths and each only once. -/
def Lists (store : Store State) (state : State) (words : List String) (holds : File → Prop) :
    Prop :=
  ∃ found : List File, found.Pairwise (fun first second => first.path < second.path) ∧
    (∀ file, file ∈ found ↔ holds file) ∧
    ∀ strict, matchWords store words strict state = (matched strict found, state)

def comparisonWords (name : String) (comparator : Comparator) (literal : Int64) : List String :=
  [name, comparator.symbol, String.ofList (Text.Decimal.integer literal)]

/-- Whether every tag in a store is found, and only where it is. -/
structure Finds (store : Store State) (state : State) : Prop where
  readable : ∃ files, store.allFiles state = (.ok files, state) ∧
    ∀ file ∈ files, ∃ tags, store.tags file state = (.ok tags, state)
  free : ∀ file tag, Carries store state file tag → Tag.Name.fault? tag.name = none
  unique : ∀ file first second, Carries store state file first →
    Carries store state file second → first.name = second.name → first = second
  named : ∀ name, Tag.Name.fault? name = none → Lists store state [name] fun file =>
    ∃ tag, Carries store state file tag ∧ tag.name = name
  compared : ∀ name comparator literal, Tag.Name.fault? name = none →
    Lists store state (comparisonWords name comparator literal) fun file =>
      ∃ tag, Carries store state file tag ∧ tag.name = name ∧
        ∃ value, tag.value = some value ∧ comparator.holds value literal = true
  /-- A plain tag satisfies no comparison. -/
  plain : ∀ file tag comparator literal strict report after, Carries store state file tag →
    tag.value = none →
    matchWords store (comparisonWords tag.name comparator literal) strict state =
      (.ok report, after) →
    ∀ listed ∈ report.listed, listed.file ≠ file

/-- Whether a store answers as a database does. -/
structure Shows (store : Store State) (state : State) (database : Database) : Prop where
  asks : store.AsksSilently
  allFiles : (store.allFiles state).1 = .ok database.allFiles
  tags : ∀ file, (store.tags file state).1 = database.tags file.id
  matching : ∀ filter, (store.matching filter state).1 = database.matching filter

theorem shows_of_reflects (reflects : store.Reflects state database) :
    Shows store state database :=
  ⟨reflects.asks, reflects.allFiles, reflects.tags, reflects.matching⟩

theorem shows_memory (consistent : database.Consistent) :
    Shows Memory.store database.toMemory database :=
  shows_of_reflects (Store.reflects_memory consistent)

theorem shows_disk {path : String} {disk : Disk}
    (loaded : OnDisk.load path disk = .ok database) :
    Shows (OnDisk.store path) disk database :=
  shows_of_reflects (Store.reflects_disk loaded)

theorem distinct_carried (consistent : database.Consistent) {file : File}
    (membership : file ∈ database.allFiles) :
    (database.carried file).Pairwise fun first second => first.name ≠ second.name := by
  have found := consistent.tags_eq_ok membership
  obtain ⟨record, -, values⟩ := Database.exists_labels_of_tags consistent found
  rw [values]
  exact Database.distinct_values _

theorem carries_iff (shown : Shows store state database) (consistent : database.Consistent)
    {file : File} {tag : Tag} : Carries store state file tag ↔
      file ∈ database.allFiles ∧ tag ∈ database.carried file := by
  constructor
  · rintro ⟨files, tags, isListing, membership, areTags, carried⟩
    rw [shown.allFiles] at isListing
    cases isListing
    rw [shown.tags, consistent.tags_eq_ok membership] at areTags
    cases areTags
    exact ⟨membership, carried⟩
  · rintro ⟨membership, carried⟩
    have areTags := (shown.tags file).trans (consistent.tags_eq_ok membership)
    exact ⟨_, _, shown.allFiles, membership, areTags, carried⟩

theorem find_apply (asks : store.AsksSilently) {text : String} {filter : Filter}
    (parsed : Filter.parse text = .ok filter) (state : State) :
    find store text state = store.matching filter state := by
  have isFilter := ofExcept_of_ok (parseFilter_of_ok parsed) state
  rw [find, Action.bind_of_ok isFilter, Action.bind_of_ok (asks.announce _ state)]

theorem matchWords_apply (shown : Shows store state database) {words : List String}
    {filter : Filter} {found : List File}
    (parsed : Filter.parse (String.intercalate " " words) = .ok filter)
    (matching : database.matching filter = .ok found) (strict : Bool) :
    matchWords store words strict state = (matched strict found, state) := by
  have answer : find store (String.intercalate " " words) state = (.ok found, state) := by
    rw [find_apply shown.asks parsed, (shown.asks.matching filter).eq state, shown.matching,
      matching]
  rw [matchWords, Action.bind_of_ok answer, matched]
  split <;> rfl

theorem lists_of_parse (shown : Shows store state database) (consistent : database.Consistent)
    {words : List String} {filter : Filter}
    (parsed : Filter.parse (String.intercalate " " words) = .ok filter) :
    Lists store state words fun file =>
      file ∈ database.allFiles ∧ filter.accepts (database.carried file) = true := by
  refine ⟨database.allFiles.filter fun file => filter.accepts (database.carried file), ?_, ?_, ?_⟩
  · exact consistent.allFiles_increasing.filter _
  · exact fun file => List.mem_filter
  · exact matchWords_apply shown parsed (consistent.matching_eq_filter filter)

theorem Lists.congr {words : List String} {holds other : File → Prop}
    (lists : Lists store state words holds) (same : ∀ file, holds file ↔ other file) :
    Lists store state words other := by
  obtain ⟨found, increasing, exact, lists⟩ := lists
  exact ⟨found, increasing, fun file => (exact file).trans (same file), lists⟩

theorem lists_name (shown : Shows store state database) (consistent : database.Consistent)
    {name : String} (free : Tag.Name.fault? name = none) : Lists store state [name] fun file =>
      ∃ tag, Carries store state file tag ∧ tag.name = name := by
  have parsed : Filter.parse (String.intercalate " " [name]) = .ok (.present name) :=
    Filter.parse_of_items (Filter.items_of_fault?_eq_none free)
  apply (lists_of_parse shown consistent parsed).congr
  intro file
  simp only [carries_iff shown consistent, Filter.accepts_present_iff]
  constructor
  · rintro ⟨membership, tag, carried, named⟩
    exact ⟨tag, ⟨membership, carried⟩, named⟩
  · rintro ⟨tag, ⟨membership, carried⟩, named⟩
    exact ⟨membership, tag, carried, named⟩

theorem lists_comparison (shown : Shows store state database) (consistent : database.Consistent)
    {name : String} (free : Tag.Name.fault? name = none) (comparator : Comparator)
    (literal : Int64) : Lists store state (comparisonWords name comparator literal) fun file =>
      ∃ tag, Carries store state file tag ∧ tag.name = name ∧
        ∃ value, tag.value = some value ∧ comparator.holds value literal = true := by
  have blank : ∀ character ∈ " ".toList, Text.isBlank character = true :=
    List.all_eq_true.mp rfl
  have parsed : Filter.parse (String.intercalate " " (comparisonWords name comparator literal)) =
      .ok (.compare name comparator literal) :=
    Filter.parse_comparison free comparator literal blank blank
  apply (lists_of_parse shown consistent parsed).congr
  intro file
  simp only [carries_iff shown consistent]
  constructor
  · rintro ⟨membership, accepted⟩
    obtain ⟨tag, carried, compares⟩ :=
      (Filter.accepts_compare_iff (distinct_carried consistent membership)).mp accepted
    exact ⟨tag, ⟨membership, carried⟩, compares⟩
  · rintro ⟨tag, ⟨membership, carried⟩, compares⟩
    refine ⟨membership, ?_⟩
    exact (Filter.accepts_compare_iff (distinct_carried consistent membership)).mpr
      ⟨tag, carried, compares⟩

theorem unique_of_shows (shown : Shows store state database) (consistent : database.Consistent)
    {file : File} {first second : Tag} (firstCarried : Carries store state file first)
    (secondCarried : Carries store state file second) (same : first.name = second.name) :
    first = second := by
  obtain ⟨membership, firstIn⟩ := (carries_iff shown consistent).mp firstCarried
  obtain ⟨-, secondIn⟩ := (carries_iff shown consistent).mp secondCarried
  have distinct := distinct_carried consistent membership
  have isFirst := (Filter.firstNamed_eq_some_iff distinct).mpr ⟨firstIn, same⟩
  have isSecond := (Filter.firstNamed_eq_some_iff distinct).mpr ⟨secondIn, rfl⟩
  rw [isFirst] at isSecond
  exact Option.some.inj isSecond

theorem finds_of_shows (shown : Shows store state database) (sound : database.Sound) :
    Finds store state := by
  have consistent := sound.consistent
  have unique : ∀ file first second, Carries store state file first →
      Carries store state file second → first.name = second.name → first = second :=
    fun _ _ _ => unique_of_shows shown consistent
  have free : ∀ file tag, Carries store state file tag → Tag.Name.fault? tag.name = none := by
    intro file tag carries
    obtain ⟨membership, carried⟩ := (carries_iff shown consistent).mp carries
    exact sound.free_of_tags (consistent.tags_eq_ok membership) tag carried
  constructor
  · refine ⟨database.allFiles, ?_, fun file membership => ⟨database.carried file, ?_⟩⟩
    · rw [shown.asks.allFiles.eq state, shown.allFiles]
    · rw [(shown.asks.tags file).eq state, shown.tags, consistent.tags_eq_ok membership]
  · exact free
  · exact unique
  · exact fun name nameFree => lists_name shown consistent nameFree
  · exact fun name comparator literal nameFree =>
      lists_comparison shown consistent nameFree comparator literal
  · intro file tag comparator literal strict report after carries plain reported listed membership
    obtain ⟨found, -, exact, answer⟩ :=
      lists_comparison shown consistent (free file tag carries) comparator literal
    rw [answer, matched] at reported
    split at reported
    next => cases reported
    next =>
      cases reported
      obtain ⟨other, isFound, rfl⟩ := List.mem_map.mp membership
      rintro rfl
      obtain ⟨valued, valuedCarries, sameName, value, hasValue, -⟩ := (exact other).mp isFound
      have same := unique other tag valued carries valuedCarries sameName.symm
      rw [← same, plain] at hasValue
      cases hasValue

end Command

end TagCatalog

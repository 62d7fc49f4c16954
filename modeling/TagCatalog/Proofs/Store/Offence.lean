import TagCatalog.Proofs.Store.Attempts
import TagCatalog.Proofs.Store.Simulation
import TagCatalog.Proofs.Store.Snapshot
import TagCatalog.Store.Journal

/-!
# Documents that are refused

A record offends if a record with a smaller identifier has its path, or else if one of its
labels has no name.  The check of a document finds the offence of the least identifier
(`firstFault?_eq_some_iff`), and a document is loaded if and only if there is none.  Where
there is one, every call of the store fails with it and leaves the disk as it is.
-/

namespace TagCatalog

namespace Uuid

variable {first second : Uuid}

theorem compare_eq_lt_iff : compare first second = .lt ↔ first.number < second.number :=
  Nat.compare_eq_lt

theorem eq_of_not_lt (notBelow : ¬ first.number < second.number)
    (notAbove : ¬ second.number < first.number) : first = second := by
  have sameNumber : first.number = second.number := by omega
  cases first
  cases second
  simpa using sameNumber

end Uuid

namespace Database

/-- What is wrong with the record of an identifier.  Of records with the same path, the one
with the smallest identifier is not to blame, and a clash counts more than a label. -/
inductive Offends (database : Database) (id : Uuid) : StoreFault → Prop where
  | sharedPath {record otherRecord : Record} {other : Uuid} :
      database.records.get? id = some record →
      database.records.get? other = some otherRecord → other.number < id.number →
      otherRecord.path = record.path →
      Offends database id (.sharedPath record.path other id)
  | namelessTag {record : Record} {label : Label} : database.records.get? id = some record →
      (∀ other otherRecord, database.records.get? other = some otherRecord →
        other.number < id.number → otherRecord.path ≠ record.path) →
      label ∈ record.labels → label.name = "" → Offends database id .namelessTag

/-- Whether a fault is the offence of the smallest identifier that offends. -/
def FirstOffence (database : Database) (fault : StoreFault) : Prop :=
  ∃ id, database.Offends id fault ∧
    ∀ other : Uuid, other.number < id.number → ∀ fault, ¬ database.Offends other fault

variable {database : Database} {id : Uuid} {record : Record} {fault : StoreFault}

theorem mem_front_iff {front back : List (Uuid × Record)}
    (split : database.records.entries = front ++ (id, record) :: back) {other : Uuid}
    {otherRecord : Record} : (other, otherRecord) ∈ front ↔
      database.records.get? other = some otherRecord ∧ other.number < id.number := by
  have increasing := database.records.increasing
  rw [split, List.pairwise_append, List.pairwise_cons] at increasing
  obtain ⟨-, ⟨behind, -⟩, across⟩ := increasing
  rw [← Table.mem_entries_iff, split]
  constructor
  · intro inFront
    refine ⟨List.mem_append_left _ inFront, ?_⟩
    exact Uuid.compare_eq_lt_iff.mp (across _ inFront _ List.mem_cons_self)
  · rintro ⟨membership, smaller⟩
    rcases List.mem_append.mp membership with inFront | here
    · exact inFront
    · rcases List.mem_cons.mp here with same | inBack
      · cases same
        omega
      · exact absurd smaller (Nat.lt_asymm (Uuid.compare_eq_lt_iff.mp (behind _ inBack)))

theorem not_offends (present : database.records.get? id = some record)
    (noClash : ∀ other otherRecord, database.records.get? other = some otherRecord →
      other.number < id.number → otherRecord.path ≠ record.path)
    (named : ¬ (record.labels.any fun label => label.name = "") = true) :
    ¬ database.Offends id fault := by
  intro offends
  cases offends with
  | sharedPath found otherFound smaller samePath =>
      cases present.symm.trans found
      exact noClash _ _ otherFound smaller samePath
  | namelessTag found _ inLabels unnamed =>
      cases present.symm.trans found
      exact named (List.any_eq_true.mpr ⟨_, inLabels, decide_eq_true unnamed⟩)

/-- The walk over the records behind some that do not offend, when the paths that it has
seen are theirs, finds the first offence. -/
theorem firstOffence_of_firstFaultAfter? {seen : List (String × Uuid)}
    {front entries : List (Uuid × Record)}
    (split : database.records.entries = front ++ entries)
    (isSeen : ∀ path other, (path, other) ∈ seen ↔
      ∃ record, (other, record) ∈ front ∧ record.path = path)
    (blameless : ∀ entry ∈ front, ∀ fault, ¬ database.Offends entry.1 fault)
    (found : firstFaultAfter? seen entries = some fault) : database.FirstOffence fault := by
  induction entries generalizing seen front with
  | nil => cases found
  | cons entry rest inductionHypothesis =>
      obtain ⟨id, record⟩ := entry
      have present : database.records.get? id = some record := by
        rw [← Table.mem_entries_iff, split]
        exact List.mem_append_right _ List.mem_cons_self
      have first {offence : StoreFault} (offends : database.Offends id offence) :
          database.FirstOffence offence := by
        refine ⟨id, offends, fun other smaller otherFault otherOffends => ?_⟩
        have isRecord : ∃ otherRecord, database.records.get? other = some otherRecord := by
          cases otherOffends with
          | sharedPath found | namelessTag found => exact ⟨_, found⟩
        obtain ⟨otherRecord, found⟩ := isRecord
        exact blameless _ ((mem_front_iff split).mpr ⟨found, smaller⟩) otherFault otherOffends
      simp only [firstFaultAfter?] at found
      split at found
      next path other clash =>
        cases found
        have samePath : path = record.path := by simpa using List.find?_some clash
        obtain ⟨otherRecord, inFront, otherPath⟩ :=
          (isSeen path other).mp (List.mem_of_find?_eq_some clash)
        obtain ⟨otherFound, smaller⟩ := (mem_front_iff split).mp inFront
        rw [samePath] at otherPath ⊢
        exact first (.sharedPath present otherFound smaller otherPath)
      next fresh =>
        have noClash : ∀ other otherRecord, database.records.get? other = some otherRecord →
            other.number < id.number → otherRecord.path ≠ record.path := by
          intro other otherRecord otherFound smaller samePath
          have inFront := (mem_front_iff split).mpr ⟨otherFound, smaller⟩
          have inSeen := (isSeen record.path other).mpr ⟨otherRecord, inFront, samePath⟩
          simpa using List.find?_eq_none.mp fresh _ inSeen
        split at found
        next nameless =>
          cases found
          obtain ⟨label, membership, unnamed⟩ := List.any_eq_true.mp nameless
          exact first (.namelessTag present noClash membership (of_decide_eq_true unnamed))
        next named =>
          -- This record does not offend, so it joins those in front.
          have splitBehind : database.records.entries = front ++ [(id, record)] ++ rest := by
            rw [split, List.append_assoc, List.singleton_append]
          refine inductionHypothesis splitBehind ?_ ?_ found
          · intro path other
            rw [List.mem_cons, isSeen]
            simp only [List.mem_append, List.mem_singleton, Prod.mk.injEq]
            grind
          · intro entry membership offence offends
            rcases List.mem_append.mp membership with inFront | here
            · exact blameless entry inFront offence offends
            · rw [List.mem_singleton.mp here] at offends
              exact not_offends present noClash named offends

theorem FirstOffence.unique {other : StoreFault} (first : database.FirstOffence fault)
    (second : database.FirstOffence other) : fault = other := by
  obtain ⟨id, offends, least⟩ := first
  obtain ⟨otherId, otherOffends, otherLeast⟩ := second
  have sameId : id = otherId := Uuid.eq_of_not_lt
    (fun smaller => otherLeast id smaller fault offends)
    fun smaller => least otherId smaller other otherOffends
  subst sameId
  cases offends with
  | sharedPath found earlierFound smaller samePath =>
      cases otherOffends with
      | sharedPath otherFound otherEarlierFound otherSmaller otherSamePath =>
          cases found.symm.trans otherFound
          -- Of two earlier records with the path, the later one would offend itself.
          have sameEarlier := Uuid.eq_of_not_lt
            (fun below => least _ otherSmaller _ (.sharedPath otherEarlierFound earlierFound below
              (samePath.trans otherSamePath.symm)))
            fun below => least _ smaller _ (.sharedPath earlierFound otherEarlierFound below
              (otherSamePath.trans samePath.symm))
          rw [sameEarlier]
      | namelessTag otherFound noClash =>
          cases found.symm.trans otherFound
          exact absurd samePath (noClash _ _ earlierFound smaller)
  | namelessTag found noClash =>
      cases otherOffends with
      | sharedPath otherFound earlierFound smaller samePath =>
          cases found.symm.trans otherFound
          exact absurd samePath (noClash _ _ earlierFound smaller)
      | namelessTag => rfl

theorem firstOffence_of_firstFault? (found : database.firstFault? = some fault) :
    database.FirstOffence fault :=
  firstOffence_of_firstFaultAfter? (List.nil_append _).symm (by simp) (by simp) found

theorem FirstOffence.not_consistent (first : database.FirstOffence fault) :
    ¬ database.Consistent := by
  intro consistent
  obtain ⟨id, offends, -⟩ := first
  cases offends with
  | sharedPath found otherFound smaller samePath =>
      rw [consistent.path_injective otherFound found samePath] at smaller
      exact Nat.lt_irrefl _ smaller
  | namelessTag found _ membership unnamed => exact consistent.named found _ membership unnamed

/-- The check of a database finds its first offence. -/
theorem firstFault?_eq_some_iff : database.firstFault? = some fault ↔
    database.FirstOffence fault := by
  constructor
  · exact firstOffence_of_firstFault?
  · intro first
    cases found : database.firstFault? with
    | none => exact absurd (firstFault?_eq_none_iff.mp found) first.not_consistent
    | some other => rw [(firstOffence_of_firstFault? found).unique first]

end Database

namespace OnDisk

variable {path text : String} {disk : Disk} {database : Database} {error : Error}

theorem ofText_eq_ok_iff (decoded : Document.decode text = .ok database) {loaded : Database} :
    ofText text = .ok loaded ↔ database.Consistent ∧ loaded = database := by
  rw [ofText, decoded, ← Database.firstFault?_eq_none_iff]
  cases found : database.firstFault? with
  | none => simp [found, eq_comm]
  | some fault => simp [found]

theorem ofText_of_firstOffence (decoded : Document.decode text = .ok database)
    {fault : StoreFault} (first : database.FirstOffence fault) :
    ofText text = .error (.store fault) := by
  rw [ofText, decoded]
  simp only [Database.firstFault?_eq_some_iff.mpr first]

theorem perform_of_load_eq_error (failed : load path disk = .error error)
    (operation : Store.Operation) :
    (store path).perform operation disk = (.error error, disk) := by
  cases question : operation.isQuestion with
  | false =>
      apply perform_of_refusing question
      rw [failed]
      rfl
  | true =>
      cases operation with
      | file | fileAt | allFiles | tags | addedAt | listing | matching =>
          exact Action.map_of_error (query_of_load_eq_error failed _)
      | updateTag | removeTag | updateFile | removeFile => cases question

end OnDisk

/-- Whether every call of a store fails with an error and leaves the state as it is. -/
def Store.Refuses {State : Type} (store : Store State) (state : State) (error : Error) : Prop :=
  ∀ operation, store.perform operation state = (.error error, state)

namespace Workspace

variable {Result : Type} {path : String} {workspace : Workspace} {error : Error}

/-- A failure where nothing can be loaded leaves no event. -/
theorem noting_of_error {operation : Action Disk Result} (events : Result → List Log.Event)
    (failed : OnDisk.load path workspace.disk = .error error)
    (refused : operation workspace.disk = (.error error, workspace.disk)) :
    noting path operation events workspace = (.error error, workspace) := by
  have unread : finding path workspace.disk = [] := by rw [finding, failed]
  simp [noting, refused, unread, note]

theorem refuses_of_load_eq_error (failed : OnDisk.load path workspace.disk = .error error) :
    (store path).Refuses workspace error := by
  intro operation
  have silent := OnDisk.perform_of_load_eq_error failed operation
  cases operation with
  | file | fileAt | allFiles | tags | addedAt | listing | matching
  | updateTag | removeTag | updateFile | removeFile =>
      exact Action.map_of_error (noting_of_error _ failed (Action.eq_error_of_map silent))

end Workspace

namespace OnDisk

variable {path text : String} {disk : Disk} {database : Database}

/-- A document that can be decoded is loaded if and only if no two of its records have the
same path and no label is without a name.  Otherwise there is a first offence.  Every call,
whether it asks or changes something and whatever file it is about, fails with just that,
and leaves the disk as it is, with or without a journal.  A shared path is reported with
the smaller of the two identifiers first. -/
theorem loads_iff_consistent (read : disk.readBytes path = .ok text.toUTF8)
    (decoded : Document.decode text = .ok database) :
    ((∃ loaded, load path disk = .ok loaded) ↔ database.Consistent) ∧
    (database.Consistent → load path disk = .ok database) ∧
    (¬ database.Consistent → ∃ fault, database.FirstOffence fault) ∧
    ∀ fault, database.FirstOffence fault →
      load path disk = .error (.store fault) ∧
      (store path).Refuses disk (.store fault) ∧
      (∀ journal, (Workspace.store path).Refuses ⟨disk, journal⟩ (.store fault)) ∧
      ∀ shared earlier later, fault = .sharedPath shared earlier later →
        earlier.number < later.number ∧
        (Error.store fault).message = "Store error: " ++ ("path " ++ shared ++
          " is registered to both " ++ toString earlier ++ " and " ++ toString later) := by
  have loading : load path disk = ofText text := load_of_readBytes read
  refine ⟨?_, ?_, ?_, ?_⟩
  · rw [loading]
    simp [ofText_eq_ok_iff decoded]
  · intro consistent
    rw [loading]
    exact (ofText_eq_ok_iff decoded).mpr ⟨consistent, rfl⟩
  · intro inconsistent
    rw [← Database.firstFault?_eq_none_iff, ← ne_eq, Option.ne_none_iff_exists'] at inconsistent
    obtain ⟨fault, found⟩ := inconsistent
    exact ⟨fault, Database.firstFault?_eq_some_iff.mp found⟩
  · intro fault first
    have failed : load path disk = .error (.store fault) :=
      loading.trans (ofText_of_firstOffence decoded first)
    refine ⟨failed, perform_of_load_eq_error failed,
      fun _ => Workspace.refuses_of_load_eq_error failed, ?_⟩
    rintro shared earlier later rfl
    obtain ⟨id, offends, -⟩ := first
    cases offends with
    | sharedPath _ _ smaller => exact ⟨smaller, rfl⟩

section Clashing

/-- A document with two records of one path, of which the later has a label without a name
too.  So has the record behind them, which stands in front in the text. -/
def clashingText : String :=
  "\x7b\"files\":\x7b" ++
  "\"00000000000000000000000000000004\":[\"b\",\"1970-01-01T00:00:00Z\",[[\"\"]]]," ++
  "\"00000000000000000000000000000003\":[\"a\",\"1970-01-01T00:00:00Z\",[[\"\"]]]," ++
  "\"00000000000000000000000000000002\":[\"a\",\"1970-01-01T00:00:00Z\"]\x7d\x7d"

def clashing : Database :=
  ⟨Table.ofList [(⟨2, by decide⟩, ⟨"a", Instant.epoch, []⟩),
    (⟨3, by decide⟩, ⟨"a", Instant.epoch, [⟨"", none⟩]⟩),
    (⟨4, by decide⟩, ⟨"b", Instant.epoch, [⟨"", none⟩]⟩)]⟩

def clashingDisk : Disk :=
  ⟨[], Table.ofList [(["db.json"], .file clashingText.toUTF8)]⟩

/-- The clash is met before both of the labels, and hides the file behind it too. -/
theorem loads_iff_consistent_clashing :
    let error := Error.store (.sharedPath "a" ⟨2, by decide⟩ ⟨3, by decide⟩)
    clashingDisk.readBytes "db.json" = .ok clashingText.toUTF8 ∧
      Document.decode clashingText = .ok clashing ∧
      ¬ (∃ loaded, load "db.json" clashingDisk = .ok loaded) ∧
      (store "db.json").perform (.file ⟨4, by decide⟩) clashingDisk =
        (.error error, clashingDisk) ∧
      (store "db.json").perform (.removeFile ⟨3, by decide⟩) clashingDisk =
        (.error error, clashingDisk) := by
  have read : clashingDisk.readBytes "db.json" = .ok clashingText.toUTF8 := rfl
  have decoded : Document.decode clashingText = .ok clashing :=
    eq_ok_of_toOption (by decide +kernel)
  have first : clashing.FirstOffence (.sharedPath "a" ⟨2, by decide⟩ ⟨3, by decide⟩) :=
    Database.firstFault?_eq_some_iff.mp (by decide +kernel)
  obtain ⟨accepted, -, -, refused⟩ := loads_iff_consistent read decoded
  obtain ⟨-, refuses, -⟩ := refused _ first
  have notLoaded : ¬ ∃ loaded, load "db.json" clashingDisk = .ok loaded := fun loaded =>
    first.not_consistent (accepted.mp loaded)
  exact ⟨read, decoded, notLoaded, refuses (.file _), refuses (.removeFile _)⟩

end Clashing

end OnDisk

end TagCatalog

import TagCatalog.Proofs.Store.Saving
import TagCatalog.Proofs.Tag.Value

/-!
# Values in saved documents

A slot is a place for a value in a database: a label of one of its records.  Only the text
at one place of the document depends on the value there, and it is the text of the value.
-/

namespace TagCatalog

/-- A table shows an inserted value at one place. -/
theorem Table.exists_entries_insert {Key Value : Type} [Ord Key] [Std.TransOrd Key]
    (table : Table Key Value) (key : Key) : ∃ front behind, ∀ value,
      (table.insert key value).entries = front ++ (key, value) :: behind := by
  simp only [insert]
  generalize table.entries = entries
  induction entries with
  | nil => exact ⟨[], [], fun _ => rfl⟩
  | cons entry rest inductionHypothesis =>
      obtain ⟨other, old⟩ := entry
      obtain ⟨front, behind, split⟩ := inductionHypothesis
      cases order : compare key other with
      | lt => exact ⟨[], (other, old) :: rest, by simp [insertEntry, order]⟩
      | eq => exact ⟨[], rest, by simp [insertEntry, order]⟩
      | gt => exact ⟨(other, old) :: front, behind, by simp [insertEntry, order, split]⟩

namespace Json

variable {Index : Type} {part whole : Index → List Char}

def Surrounds (part whole : Index → List Char) : Prop :=
  ∃ front behind, ∀ index, whole index = front ++ (part index ++ behind)

namespace Lines

/-- An element of a bracket behind others stands in one place. -/
theorem exists_following (closing : Char) (depth : Nat) (former later : List (List Char)) :
    ∃ front behind, ∀ element, following closing depth (former ++ element :: later) =
      front ++ (element ++ behind) := by
  induction former with
  | nil =>
      exact ⟨',' :: start (depth + 1), following closing depth later, fun element => by
        simp [following]⟩
  | cons first rest inductionHypothesis =>
      obtain ⟨front, behind, split⟩ := inductionHypothesis
      exact ⟨',' :: start (depth + 1) ++ first ++ front, behind, fun element => by
        simp [following, split]⟩

theorem exists_bracket (opening closing : Char) (depth : Nat) (former later : List (List Char)) :
    ∃ front behind, ∀ element, bracket opening closing depth (former ++ element :: later) =
      front ++ (element ++ behind) := by
  cases former with
  | nil =>
      exact ⟨opening :: start (depth + 1), following closing depth later, fun element => by
        simp [bracket_cons]⟩
  | cons first rest =>
      obtain ⟨front, behind, split⟩ := exists_following closing depth rest later
      exact ⟨opening :: start (depth + 1) ++ first ++ front, behind, fun element => by
        simp [bracket_cons, split]⟩

end Lines

namespace Surrounds

theorem append (surrounds : Surrounds part whole) {larger : Index → List Char}
    (contains : ∃ front behind, ∀ index, larger index = front ++ (whole index ++ behind)) :
    Surrounds part larger := by
  obtain ⟨front, behind, split⟩ := contains
  obtain ⟨first, last, inner⟩ := surrounds
  exact ⟨front ++ first, last ++ behind, fun index => by simp [split, inner]⟩

theorem bracket (surrounds : Surrounds part whole) (opening closing : Char) (depth : Nat)
    (former later : List (List Char)) : Surrounds part fun index =>
      Lines.bracket opening closing depth (former ++ whole index :: later) := by
  obtain ⟨front, behind, split⟩ := Lines.exists_bracket opening closing depth former later
  exact surrounds.append ⟨front, behind, fun index => split (whole index)⟩

theorem member (surrounds : Surrounds part whole) (key : String) :
    Surrounds part fun index => Lines.member key (whole index) :=
  surrounds.append ⟨Quotation.write key ++ [':', ' '], [], fun index => by simp [Lines.member]⟩

end Surrounds

end Json

namespace Document

open Json Database

/-- A place for a value: a label of a record of a database. -/
structure Slot where
  database : Database
  id : Uuid
  path : String
  addedAt : Instant
  former : List Label
  name : String
  later : List Label

namespace Slot

variable (slot : Slot)

def record (value : Int64) : Record :=
  ⟨slot.path, slot.addedAt, slot.former ++ ⟨slot.name, some value⟩ :: slot.later⟩

def filled (value : Int64) : Database :=
  slot.database.put slot.id (slot.record value)

theorem surrounds_label (depth : Nat) : Surrounds Text.Decimal.integer fun value =>
    writeLabel depth ⟨slot.name, some value⟩ := by
  have value : Surrounds Text.Decimal.integer Text.Decimal.integer := ⟨[], [], by simp⟩
  exact (value.member "value").bracket '{' '}' depth
    [Lines.member "name" (Quotation.write slot.name)] []

theorem surrounds_record (depth : Nat) : Surrounds Text.Decimal.integer fun value =>
    writeRecord depth (slot.record value) := by
  have labels := (slot.surrounds_label (depth + 2)).bracket '[' ']' (depth + 1)
    (slot.former.map (writeLabel (depth + 2))) (slot.later.map (writeLabel (depth + 2)))
  have members := (labels.member "tags").bracket '{' '}' depth
    [Lines.member "path" (Quotation.write slot.path),
      Lines.member "added_at" ('"' :: slot.addedAt.text ++ ['"'])] []
  simpa [writeRecord, record, Lines.array, Lines.object] using members

theorem surrounds_encode : Surrounds Text.Decimal.integer fun value =>
    (encode (slot.filled value)).toList := by
  obtain ⟨front, behind, split⟩ := slot.database.records.exists_entries_insert slot.id
  let write (entry : Uuid × Record) := Lines.member (toString entry.1) (writeRecord 2 entry.2)
  have records := ((slot.surrounds_record 2).member (toString slot.id)).bracket '{' '}' 1
    (front.map write) (behind.map write)
  have document := (records.member "files").bracket '{' '}' 0 [] []
  simpa [encode, writeRecords, filled, Database.put, split, Lines.object, write] using document

/-- Whether the document with a value has its decimal text between two others, and is read
and loaded with that value. -/
structure Shows (front behind : String) (value : Int64) : Prop where
  encode : encode (slot.filled value) = front ++ toString value ++ behind
  decode : decode (front ++ toString value ++ behind) = .ok (slot.filled value)
  saved : ∀ (path : String) (disk altered : Disk),
    OnDisk.save path (slot.filled value) disk = (.ok (), altered) →
    altered.readBytes path = .ok (front ++ toString value ++ behind).toUTF8 ∧
      ((slot.filled value).Consistent → OnDisk.load path altered = .ok (slot.filled value))

theorem exists_shows : ∃ front behind, ∀ value, slot.Shows front behind value := by
  obtain ⟨front, behind, split⟩ := slot.surrounds_encode
  refine ⟨String.ofList front, String.ofList behind, fun value => ?_⟩
  have characters : (encode (slot.filled value)).toList =
      front ++ (Text.Decimal.integer value ++ behind) := split value
  have encoded : encode (slot.filled value) =
      String.ofList front ++ toString value ++ String.ofList behind := by
    rw [← String.toList_inj, characters, Text.Decimal.integer_eq_toString]
    simp
  constructor
  · exact encoded
  · rw [← encoded]
    exact decode_encode _
  · intro path disk altered saved
    rw [← encoded]
    exact ⟨OnDisk.readBytes_of_save saved, fun consistent => OnDisk.load_of_save consistent saved⟩

end Slot

end Document

end TagCatalog

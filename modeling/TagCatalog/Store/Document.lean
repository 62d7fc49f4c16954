import TagCatalog.Instant.Text
import TagCatalog.Json.Quotation
import TagCatalog.Json.Typed
import TagCatalog.Store.Database

/-!
Documents: databases as text.

`encode` writes a database as a JSON document and `decode` reads one.  The
document has the records under their identifiers, in order; a tag without value
is written without one.  In a document that is read, labels may be missing, and
of two members for the same identifier the later counts.
-/

namespace TagCatalog.Document

open Json Database

def labelMembers (label : Label) : List (List Char) :=
  Lines.member "name" (Quotation.write label.name) ::
    match label.value with
    | some value => [Lines.member "value" (Text.Decimal.integer value)]
    | none => []

def writeLabel (depth : Nat) (label : Label) : List Char :=
  Lines.object depth (labelMembers label)

def writeRecord (depth : Nat) (record : Record) : List Char :=
  Lines.object depth
    [Lines.member "path" (Quotation.write record.path),
      Lines.member "added_at" ('"' :: record.addedAt.text ++ ['"']),
      Lines.member "tags"
        (Lines.array (depth + 1) (record.labels.map (writeLabel (depth + 2))))]

def writeRecords (depth : Nat) (database : Database) : List Char :=
  Lines.object depth
    (database.records.entries.map fun entry =>
      Lines.member (toString entry.1) (writeRecord (depth + 1) entry.2))

def encode (database : Database) : String :=
  String.ofList (Lines.object 0 [Lines.member "files" (writeRecords 1 database)])

structure LabelDraft where
  name : Option String
  value : Option (Option Int64)

def labelFields : Fields LabelDraft Label where
  empty := ⟨none, none⟩
  field key draft :=
    if key = "name" then
      some (Fields.once draft.name string fun name => { draft with name := some name })
    else if key = "value" then
      some (Fields.once draft.value (optional integer) fun value =>
        { draft with value := some value })
    else
      none
  inOrder text := do
    let (name, rest) ← Fields.element true string text
    let (value, rest) ← Fields.element false (optional integer) rest
    return (⟨name, value⟩, rest)
  complete draft := draft.name.map fun name => ⟨name, draft.value.getD none⟩

structure RecordDraft where
  path : Option String
  addedAt : Option Instant
  labels : Option (List Label)

def recordFields : Fields RecordDraft Record where
  empty := ⟨none, none, none⟩
  field key draft :=
    if key = "path" then
      some (Fields.once draft.path string fun path => { draft with path := some path })
    else if key = "added_at" then
      some (Fields.once draft.addedAt (parsed Instant.ofText?) fun time =>
        { draft with addedAt := some time })
    else if key = "tags" then
      some (Fields.once draft.labels (list labelFields.read) fun labels =>
        { draft with labels := some labels })
    else
      none
  inOrder text := do
    let (path, rest) ← Fields.element true string text
    let (time, rest) ← Fields.element false (parsed Instant.ofText?) rest
    let (labels, rest) ← Fields.element false (list labelFields.read) rest
    return (⟨path, time, labels⟩, rest)
  complete draft := do
    let path ← draft.path
    let time ← draft.addedAt
    return ⟨path, time, draft.labels.getD []⟩

def records : Reader (List (Uuid × Record)) :=
  dictionary Uuid.ofText? recordFields.read

def databaseFields : Fields (Option (List (Uuid × Record))) Database where
  empty := none
  field key draft :=
    if key = "files" then some (Fields.once draft records some) else none
  inOrder text := Fields.element true records text
  complete draft := some ⟨Table.ofList (draft.getD [])⟩

def decode (text : String) : Except Fault Database :=
  document databaseFields.read text.toList

end TagCatalog.Document

import TagCatalog.Proofs.Instant.Text
import TagCatalog.Proofs.Json.Typed
import TagCatalog.Proofs.Table
import TagCatalog.Store.Document

/-!
# Documents are read as they were written

Labels, records and the table of records are each taken for what they were
written for, so the document of a database is that database (`decode_encode`).
-/

namespace TagCatalog.Document

open Json Database

variable {Draft Result Value : Type}

theorem writeCharacter_of_isDigit {character : Char} (isDigit : character.isDigit = true) :
    Quotation.writeCharacter character = [character] := by
  have unescaped : Quotation.escapeLetter? character = none := by
    unfold Quotation.escapeLetter?
    repeat' split
    all_goals first
      | rfl
      | subst_vars
        revert isDigit
        decide
  have printable : ¬character.toNat < 0x20 := by
    have lower := (Char.isDigit_iff_toNat.mp isDigit).1
    have code : '0'.toNat = 48 := rfl
    omega
  simp [Quotation.writeCharacter, unescaped, printable]

theorem takes_instant (instant : Instant) :
    Takes (parsed Instant.ofText?) ('"' :: instant.text ++ ['"']) instant := by
  have plain : ∀ character ∈ instant.text, Quotation.writeCharacter character = [character] := by
    intro character membership
    rcases Instant.isClockText_text instant character membership with isDigit | mark
    · exact writeCharacter_of_isDigit isDigit
    · have all : (['-', '+', 'T', ':', '.', 'Z'].all fun mark =>
          Quotation.writeCharacter mark = [mark]) = true := rfl
      exact of_decide_eq_true (List.all_eq_true.mp all character mark)
  refine (Takes.of_string (Quotation.body_of_plain plain)).parsed ?_
  rw [String.toList_ofList]
  exact Instant.ofText?_text instant

theorem takesMembers_once {fields : Fields Draft Result} {key : String} {before : Draft}
    {reader : Reader Value} {store : Value → Draft} {text : List Char} {value : Value}
    {rest : List (List Char)} {after : Draft}
    (field : fields.field key before = some (Fields.once none reader store))
    (takes : Takes reader text value)
    (others : TakesMembers fields.member (store value) rest after) :
    TakesMembers fields.member before (Lines.member key text :: rest) after := by
  refine .cons ?_ (takes.map store) others
  rw [Fields.member, field]
  rfl

theorem takes_label (depth : Nat) (label : Label) :
    Takes labelFields.read (writeLabel depth label) label := by
  obtain ⟨name, value⟩ := label
  cases value with
  | none =>
      have members : TakesMembers labelFields.member labelFields.empty
          [Lines.member "name" (Quotation.write name)] ⟨some name, none⟩ :=
        takesMembers_once rfl (takes_write name) (.nil _)
      exact takes_record depth members rfl
  | some value =>
      have members : TakesMembers labelFields.member labelFields.empty
          [Lines.member "name" (Quotation.write name),
            Lines.member "value" (Text.Decimal.integer value)] ⟨some name, some (some value)⟩ :=
        takesMembers_once rfl (takes_write name)
          (takesMembers_once rfl
            ((takes_integer value).optional (integer_head_ne (by decide) (by decide) value))
            (.nil _))
      exact takes_record depth members rfl

theorem takes_writeRecord (depth : Nat) (record : Record) :
    Takes recordFields.read (writeRecord depth record) record := by
  have labels : Takes (list labelFields.read)
      (Lines.array (depth + 1) (record.labels.map (writeLabel (depth + 2)))) record.labels :=
    takes_array fun label _ => takes_label (depth + 2) label
  have members : TakesMembers recordFields.member recordFields.empty
      [Lines.member "path" (Quotation.write record.path),
        Lines.member "added_at" ('"' :: record.addedAt.text ++ ['"']),
        Lines.member "tags"
          (Lines.array (depth + 1) (record.labels.map (writeLabel (depth + 2))))]
      ⟨some record.path, some record.addedAt, some record.labels⟩ :=
    takesMembers_once rfl (takes_write record.path)
      (takesMembers_once rfl (takes_instant record.addedAt)
        (takesMembers_once rfl labels (.nil _)))
  exact takes_record depth members rfl

theorem takes_records (depth : Nat) (database : Database) :
    Takes records (writeRecords depth database) database.records.entries := by
  refine takes_dictionary depth (fun id => ?_) fun entry _ => takes_writeRecord (depth + 1) entry.2
  exact (congrArg Uuid.ofText? String.toList_ofList).trans (Uuid.ofText?_text id)

/-- A document gives the records that its members are taken for, if any are. -/
theorem decode_object {texts : List (List Char)} {found : Option (List (Uuid × Record))}
    (takes : TakesMembers databaseFields.member databaseFields.empty texts found) :
    decode (String.ofList (Lines.object 0 texts)) = .ok ⟨Table.ofList (found.getD [])⟩ := by
  have complete : databaseFields.complete found = some ⟨Table.ofList (found.getD [])⟩ := rfl
  have ends : EndsNumber [] := nofun
  have read := (takes_record 0 takes complete).read_behind_nothing ends
  rw [List.append_nil] at read
  rw [decode, String.toList_ofList, document, read]
  rfl

theorem decode_encode (database : Database) : decode (encode database) = .ok database := by
  have members : TakesMembers databaseFields.member databaseFields.empty
      [Lines.member "files" (writeRecords 1 database)] (some database.records.entries) :=
    takesMembers_once rfl (takes_records 1 database) (.nil _)
  rw [encode, decode_object members, Option.getD_some, Table.ofList_entries]

end TagCatalog.Document

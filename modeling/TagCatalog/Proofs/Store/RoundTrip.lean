import TagCatalog.Proofs.Store.Simulation

/-!
# Documents are read, written and read again

What a store saves of a database that it has loaded is read as that database,
record by record and label by label.  A text that is read need not be in the form
in which it is written, but what is written of it is, so to read and to write it
again changes nothing more.
-/

namespace TagCatalog.OnDisk

open Document

/-- The document of a database is read as that database.  What is saved of a
loaded database is its document, and is loaded as the same database wherever it
was saved.  A document that can be read comes to the same database, and to the
same bytes, when it is written and read again. -/
theorem load_of_save_of_load :
    (∀ database : Database, decode (encode database) = .ok database) ∧
    (∀ (path target : String) (disk other altered : Disk) (database : Database),
      load path disk = .ok database → save target database other = (.ok (), altered) →
      altered.readBytes target = .ok (encode database).toUTF8 ∧
        load target altered = .ok database) ∧
    ∀ (text : String) (first : Database), decode text = .ok first →
      decode (encode first) = .ok first ∧
        (decode (encode first)).map (fun second => (encode second).toUTF8) =
          .ok (encode first).toUTF8 := by
  refine ⟨decode_encode, ?_, ?_⟩
  · intro path target disk other altered database loaded saved
    constructor
    · exact readBytes_of_save saved
    · exact load_of_save (consistent_of_load loaded) saved
  · intro text first _
    rw [decode_encode]
    exact ⟨rfl, rfl⟩

/-- A document whose strings are full of what is escaped, with a leap second, the
least value, a value that is null, and a name that comes back. -/
def awkwardText : String :=
  "\x7b\"files\":\x7b\"00000000-0000-0000-0000-000000000001\":" ++
  "\x7b\"added_at\":\"2016-12-31T23:59:60.123456789Z\",\"tags\":" ++
  "[\x7b\"value\":-9223372036854775808,\"name\":\"\\u0000\\n\"\x7d," ++
  "\x7b\"name\":\"\\u0000\\n\",\"value\":null\x7d]," ++
  "\"path\":\"\\ud83d\\ude00\\u2028\\\\\\\"\"\x7d\x7d\x7d"

def awkward : Database :=
  ⟨Table.ofList [(handwrittenId, ⟨"😀\u2028\\\"",
    ⟨⟨2016, 12, 31, by decide, by decide, by decide⟩, 86399, 1123456789, by decide,
      by decide, by decide⟩,
    [⟨"\x00\n", some Int64.minValue⟩, ⟨"\x00\n", none⟩]⟩)]⟩

def awkwardDisk : Disk :=
  ⟨[], Table.ofList [(["db.json"], .file awkwardText.toUTF8)]⟩

/-- The text is saved in another form, in which it stays. -/
theorem load_awkward :
    load "db.json" awkwardDisk = .ok awkward ∧
      (∃ altered, save "db.json" awkward awkwardDisk = (.ok (), altered) ∧
        altered.readBytes "db.json" = .ok (encode awkward).toUTF8 ∧
        load "db.json" altered = .ok awkward) ∧
      decode awkwardText = .ok awkward ∧
      (decode (encode awkward)).map (fun second => (encode second).toUTF8) =
        .ok (encode awkward).toUTF8 := by
  have decoded : decode awkwardText = .ok awkward := eq_ok_of_toOption (by decide +kernel)
  have read : awkwardDisk.readBytes "db.json" = .ok awkwardText.toUTF8 := rfl
  have faultless : awkward.firstFault? = none := rfl
  have loaded : load "db.json" awkwardDisk = .ok awkward := by
    rw [load_of_readBytes read, ofText, decoded]
    simp only [faultless]
  have saved : ∃ altered, save "db.json" awkward awkwardDisk = (.ok (), altered) := ⟨_, rfl⟩
  obtain ⟨altered, saved⟩ := saved
  have kept := load_of_save_of_load.2.1 _ _ _ _ _ _ loaded saved
  refine ⟨loaded, ⟨altered, saved, kept⟩, decoded, ?_⟩
  exact (load_of_save_of_load.2.2 _ _ decoded).2

end TagCatalog.OnDisk

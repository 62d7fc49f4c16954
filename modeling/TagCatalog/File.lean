import TagCatalog.Instant
import TagCatalog.Text.Character
import TagCatalog.Text.Decimal
import TagCatalog.Uuid

/-!
The files of a catalog and their tags.

A file is known by its identifier; the path says where it is and may change.  The
catalog never looks at what is in a file.

A tag is a name, which is not empty, and for some tags an integer value.  `text`
shows it as its name, followed by an equals sign and the value if there is one.  A
value is given in commands as a run of digits with a sign of either kind or none;
blanks around it do not count.
-/

namespace TagCatalog

structure File where
  id : Uuid
  path : String
deriving DecidableEq

/-- A file in a listing, with the time of its registration if that is known. -/
structure ListedFile where
  file : File
  addedAt : Option Instant
deriving DecidableEq

namespace File

def comesBefore (first second : File) : Bool :=
  first.path ≤ second.path

def text (file : File) : String :=
  toString file.id ++ " " ++ file.path

instance : ToString File := ⟨text⟩

end File

/-- A plain tag has no value, a valued tag has one. -/
structure Tag where
  name : String
  value : Option Int64
  name_ne : name ≠ ""
deriving DecidableEq

namespace Tag

def of? (name : String) (value : Option Int64) : Option Tag :=
  if named : name ≠ "" then some ⟨name, value, named⟩ else none

@[simp]
theorem of?_self (tag : Tag) : of? tag.name tag.value = some tag := by
  rw [of?, dif_pos tag.name_ne]

/-- What a plain tag counts as where a number is asked for. -/
def plainNumber : Int64 := -1

def number (tag : Tag) : Int64 :=
  tag.value.getD plainNumber

def text (tag : Tag) : String :=
  match tag.value with
  | none => tag.name
  | some value => tag.name ++ "=" ++ String.ofList (Text.Decimal.integer value)

instance : ToString Tag := ⟨text⟩

namespace Value

open TagCatalog.Text

def signAndDigits : List Char → Bool × List Char
  | '-' :: digits => (true, digits)
  | '+' :: digits => (false, digits)
  | digits => (false, digits)

/-- Reads a value, if the text is a number in the range of tag values. -/
def ofText? (text : String) : Option Int64 :=
  let (negative, digits) := signAndDigits (trim text.toList)
  if Decimal.isNumeral digits then Decimal.signed? negative digits else none

end Value

end Tag

end TagCatalog

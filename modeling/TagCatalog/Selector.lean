import TagCatalog.Error

/-!
How a command names a file.

A text that starts with `uuid:` gives the identifier of a file, any other text
its path.
-/

namespace TagCatalog

inductive Selector where
  | id (id : Uuid)
  | path (path : String)
deriving DecidableEq

namespace Selector

def marker : List Char := ['u', 'u', 'i', 'd', ':']

def afterMarker? (text : List Char) : Option (List Char) :=
  if text.take marker.length = marker then some (text.drop marker.length) else none

def ofText (text : String) : Except Error Selector :=
  match afterMarker? text.toList with
  | some rest =>
      match Uuid.ofText? rest with
      | some uuid => .ok (.id uuid)
      | none => .error (.invalidFileId (String.ofList rest))
  | none => .ok (.path text)

def text : Selector → String
  | id uuid => String.ofList (marker ++ uuid.text)
  | path location => location

instance : ToString Selector := ⟨text⟩

end Selector

end TagCatalog

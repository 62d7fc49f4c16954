import TagCatalog.Text.Divided

/-!
Paths as texts.

A path is a list of components with slashes between them.  Empty components and
single dots name nothing of their own.  `parent?` drops the last component that
does, `inFront` gives those before it, and `withExtension` gives the file that it
names another extension.
-/

namespace TagCatalog.Path

open Text

def isAbsolute (path : String) : Bool :=
  path.toList.head? = some '/'

def components (path : String) : List String :=
  (divide '/' path.toList).map String.ofList

def join (directory entry : String) : String :=
  if isAbsolute entry || directory.isEmpty then
    entry
  else if directory.toList.getLast? = some '/' then
    directory ++ entry
  else
    directory ++ "/" ++ entry

/-- Drops what stands behind the last component that names something, given the
components latest first. -/
def dropUnnamed : List (List Char) → List (List Char)
  | [] => []
  | [only] => [only]
  | [] :: earlier => dropUnnamed earlier
  | ['.'] :: earlier => dropUnnamed earlier
  | named :: earlier => named :: earlier

/-- The components of a path, latest first, without what names nothing at the
end. -/
def named (path : String) : List (List Char) :=
  dropUnnamed (divide '/' path.toList).reverse

/-- The components in front of the last one that names something. -/
def inFront (path : String) : List String :=
  (named path).tail.reverse.map String.ofList

def endsInDot (path : String) : Bool :=
  (components path).reverse.find? (fun component => component ≠ "") = some "."

/-- The components for which directories are made; none is made under the name of a dot
at the end. -/
def makeable (path : String) : List String :=
  if endsInDot path then inFront path else components path

/-- A path from its components, given latest first.  The root is the one whose
only component is empty. -/
def ofReversed (components : List (List Char)) : String :=
  if components = [[]] then "/" else String.ofList (Text.join '/' components.reverse)

/-- The path of the directory that holds what a path names; the root and the
empty path have none. -/
def parent? (path : String) : Option String :=
  match named path with
  | [] => none
  | [[]] => none
  | [_] => some ""
  | _ :: earlier => some (ofReversed (dropUnnamed earlier))

/-- A file name without its extension; a dot in front does not start one. -/
def stem (name : List Char) : List Char :=
  let reversed := name.reverse
  let extension := reversed.takeWhile fun character => character ≠ '.'
  match reversed.drop extension.length with
  | [] => name
  | [_] => name
  | _ :: rest => rest.reverse

/-- Whether nothing is left of a name but a dot once its extension is cut off,
the dot in front of the extension included. -/
def isDotted (name : List Char) : Bool :=
  stem name = ['.']

/-- The path with another extension; a path that names no file of its own stays
as it is.  The old extension is cut off first, so the path of a dotted name that
stands at its end becomes that of the directory above, which takes none. -/
def withExtension (path extension : String) : String :=
  match named path with
  | [] => path
  | last :: earlier =>
      if last = [] || last = ['.'] || last = ['.', '.'] then
        path
      else if isDotted last && (divide '/' path.toList).getLast? = some last then
        ofReversed (['.', '.'] :: earlier)
      else
        ofReversed ((stem last ++ '.' :: extension.toList) :: earlier)

end TagCatalog.Path

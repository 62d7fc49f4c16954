import TagCatalog.Disk.Path
import TagCatalog.Table

/-!
Disks: directories and files.

A disk is a table from places to nodes; the root is always a directory.  A path
is walked component by component, and every component needs a directory to
start from, so a path that ends in a slash names a directory.  Paths and their
components have a greatest length, and no path holds the character zero.
Reading and writing give a text in UTF-8; a change that fails in part keeps what
it has done before.

Links, permissions and disks that are full are left out.  Where they matter, the
calls that may meet them are a parameter (`Calls`).
-/

namespace TagCatalog

namespace Disk

/-- The names on the way from the root to a file or directory. -/
abbrev Place : Type := List String

inductive Node where
  | file (content : ByteArray)
  | directory

instance : DecidableEq Node
  | .directory, .directory => isTrue rfl
  | .directory, .file _ => isFalse nofun
  | .file _, .directory => isFalse nofun
  | .file first, .file second =>
      if same : first.data = second.data then
        isTrue (congrArg Node.file (ByteArray.ext same))
      else
        isFalse fun equal => same (congrArg ByteArray.data (Node.file.inj equal))

inductive Fault where
  | notFound
  | notDirectory
  | isDirectory
  | notText
  | invalidPath
  | tooLong
  | full
deriving DecidableEq

def Fault.message : Fault → String
  | notFound => "no such file or directory"
  | notDirectory => "not a directory"
  | isDirectory => "is a directory"
  | notText => "not a text in UTF-8"
  | invalidPath => "a path holds the character zero"
  | tooLong => "file name too long"
  | full => "no space left on device"

end Disk

/-- The nodes below the root, and the directory in which paths start that do not
start at the root. -/
structure Disk where
  working : Disk.Place
  nodes : Table Disk.Place Disk.Node

namespace Disk

/-- A change of a disk that may fail. -/
abbrev Change (Result : Type) : Type :=
  ExceptT Fault (StateM Disk) Result

def nodeAt? (disk : Disk) (place : Place) : Option Node :=
  if place.isEmpty then some .directory else disk.nodes.get? place

def put (disk : Disk) (place : Place) (node : Node) : Disk :=
  { disk with nodes := disk.nodes.insert place node }

def descend (place : Place) (component : String) : Place :=
  if component = "" || component = "." then
    place
  else if component = ".." then
    place.dropLast
  else
    place ++ [component]

/-- The greatest length of a component in bytes. -/
def componentLimit : Nat := 255

/-- The greatest length of a path in bytes. -/
def pathLimit : Nat := 4095

def fits (component : String) : Bool :=
  component.utf8ByteSize ≤ componentLimit

def textFault? (path : String) : Option Fault :=
  if path.toList.contains '\x00' then
    some .invalidPath
  else if path.utf8ByteSize ≤ pathLimit then
    none
  else
    some .tooLong

def walk (disk : Disk) (place : Place) : List String → Except Fault Place
  | [] => .ok place
  | component :: rest =>
      match disk.nodeAt? place with
      | some .directory =>
          if fits component then disk.walk (descend place component) rest else .error .tooLong
      | some (.file _) => .error .notDirectory
      | none => .error .notFound

def start (disk : Disk) (path : String) : Place :=
  if Path.isAbsolute path then [] else disk.working

/-- The place that a path leads to.  There need not be a node at it. -/
def locate (disk : Disk) (path : String) : Except Fault Place :=
  match textFault? path with
  | some fault => .error fault
  | none =>
      if path.isEmpty then
        .error .notFound
      else
        disk.walk (disk.start path) (Path.components path)

def find (disk : Disk) (path : String) : Except Fault Node :=
  match disk.locate path with
  | .error fault => .error fault
  | .ok place =>
      match disk.nodeAt? place with
      | some node => .ok node
      | none => .error .notFound

def contains (disk : Disk) (path : String) : Bool :=
  (disk.find path).toBool

def readBytes (disk : Disk) (path : String) : Except Fault ByteArray :=
  match disk.find path with
  | .ok (.file content) => .ok content
  | .ok .directory => .error .isDirectory
  | .error fault => .error fault

def read (disk : Disk) (path : String) : Except Fault String :=
  match disk.readBytes path with
  | .ok content =>
      match String.fromUTF8? content with
      | some text => .ok text
      | none => .error .notText
  | .error fault => .error fault

def writeBytes (path : String) (content : ByteArray) : Change Unit := do
  let disk ← get
  match disk.locate path with
  | .error fault => throw fault
  | .ok place =>
      match disk.nodeAt? place with
      | some .directory => throw .isDirectory
      | _ => set (disk.put place (.file content))

def write (path : String) (text : String) : Change Unit :=
  writeBytes path text.toUTF8

/-- Moves a file to another path, in place of the file that may be there. -/
def rename (path target : String) : Change Unit := do
  let disk ← get
  match disk.locate path, disk.readBytes path, disk.locate target with
  | .ok source, .ok content, .ok place =>
      match disk.nodeAt? place with
      | some .directory => throw .isDirectory
      | _ => set ({ disk with nodes := disk.nodes.erase source }.put place (.file content))
  | .error fault, _, _ => throw fault
  | _, .error fault, _ => throw fault
  | _, _, .error fault => throw fault

def makeAlong (place : Place) : List String → Change Unit
  | [] => pure ()
  | component :: rest => do
      if !fits component then throw .tooLong
      let disk ← get
      let next := descend place component
      match disk.nodeAt? next with
      | some .directory => makeAlong next rest
      | some (.file _) => throw .notDirectory
      | none => do
          set (disk.put next .directory)
          makeAlong next rest

def require (path : String) : Change Unit := do
  match (← get).find path with
  | .ok _ => pure ()
  | .error fault => throw fault

/-- Makes the directories on a path that are missing.  What a dot at its end stands behind
has to be there then. -/
def makeDirectories (path : String) : Change Unit := do
  match textFault? path with
  | some fault => throw fault
  | none =>
      makeAlong ((← get).start path) (Path.makeable path)
      if Path.endsInDot path then require path

/-- The calls by which a file is kept in a directory.  One that fails may leave anything
behind: a file that cannot be written whole is not what it was. -/
structure Calls where
  makeDirectories : String → Change Unit
  write : String → String → Change Unit

/-- The calls of a disk that has room for everything, and where everything may be changed. -/
def calls : Calls := ⟨makeDirectories, write⟩

end Disk

end TagCatalog

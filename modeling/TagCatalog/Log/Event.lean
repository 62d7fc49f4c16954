import TagCatalog.File
import TagCatalog.Filter
import TagCatalog.Log.Level
import TagCatalog.Text.Quoted

/-!
What a catalog says about its work.

An event is said at a level and by a part of the program, its target; `line`
writes it as a line of the log, with the time in front.  Texts that a user has
given stand in quotation marks.
-/

namespace TagCatalog.Log

open Terminal

inductive Event where
  | databaseChosen (path : String)
  | databaseMissing (path : String)
  | databaseLoaded (path : String) (files : Nat)
  | tagUpdated (id : Uuid) (tag : Tag)
  | tagRemoved (id : Uuid) (name : String)
  | fileUpdated (file : File)
  | fileRemoved (id : Uuid)
  | filesMatched (filter : Filter) (total found : Nat)
  | filterParsed (text : String) (filter : Filter)
  | fileRegistered (file : File)
  | fileMoved (file : File) (path : String)
  | tagSet (id : Uuid) (tag : Tag)
  | tagUnset (id : Uuid) (name : String)

namespace Event

/-- Reading is detail, changes are news. -/
def level : Event → Level
  | databaseChosen _ | databaseMissing _ | databaseLoaded _ _ | filesMatched _ _ _
  | filterParsed _ _ => .debug
  | tagUpdated _ _ | tagRemoved _ _ | fileUpdated _ | fileRemoved _ | fileRegistered _
  | fileMoved _ _ | tagSet _ _ | tagUnset _ _ => .info

/-- The part of the program that says it. -/
def target : Event → String
  | databaseChosen _ => "tagger::cli::commands"
  | databaseMissing _ | databaseLoaded _ _ | tagUpdated _ _ | tagRemoved _ _ | fileUpdated _
  | fileRemoved _ | filesMatched _ _ _ => "tagger::store::fs"
  | filterParsed _ _ => "tagger::filter::parser"
  | fileRegistered _ => "tagger::commands::add"
  | fileMoved _ _ => "tagger::commands::move_file"
  | tagSet _ _ | tagUnset _ _ => "tagger::commands::tagging"

def message : Event → String
  | databaseChosen _ => "using database"
  | databaseMissing _ => "no database yet, starting empty"
  | databaseLoaded _ _ => "database loaded"
  | tagUpdated _ _ => "tag updated"
  | tagRemoved _ _ => "tag removed"
  | fileUpdated _ => "file updated"
  | fileRemoved _ => "file removed"
  | filesMatched _ _ _ => "matched files"
  | filterParsed _ _ => "parsed filter"
  | fileRegistered _ => "registered file"
  | fileMoved _ _ => "moved file"
  | tagSet _ _ => "set tag"
  | tagUnset _ _ => "unset tag"

def fields : Event → List (String × String)
  | databaseChosen path => [("db", path)]
  | databaseMissing path => [("path", path)]
  | databaseLoaded path files => [("path", path), ("files", toString files)]
  | tagUpdated id tag => [("file", toString id), ("tag", tag.text)]
  | tagRemoved id name => [("file", toString id), ("tag", Text.quoted name)]
  | fileUpdated file => [("file", toString file.id), ("path", Text.quoted file.path)]
  | fileRemoved id => [("file", toString id)]
  | filesMatched filter total found =>
      [("filter", filter.display), ("total", toString total), ("matched", toString found)]
  | filterParsed text filter => [("input", Text.quoted text), ("filter", filter.display)]
  | fileRegistered file => [("id", toString file.id), ("path", Text.quoted file.path)]
  | fileMoved file path =>
      [("id", toString file.id), ("from", Text.quoted file.path), ("to", Text.quoted path)]
  | tagSet id tag => [("id", toString id), ("tag", tag.text)]
  | tagUnset id name => [("id", toString id), ("tag", Text.quoted name)]

def fieldText (name value : String) : StyledText :=
  .plain " " ++ .styled [.italic] name ++ .styled [.dimmed] "=" ++ .plain value

def line (event : Event) (time : String) : StyledText :=
  .styled [.dimmed] time ++ .plain " " ++
    .styled [event.level.colour] event.level.label ++ .plain " " ++
    .styled [.dimmed] event.target ++ .styled [.dimmed] ":" ++ .plain (" " ++ event.message) ++
    event.fields.flatMap fun (name, value) => fieldText name value

end Event

end TagCatalog.Log

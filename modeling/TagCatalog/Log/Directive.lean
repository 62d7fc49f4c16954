import TagCatalog.Log.Event
import TagCatalog.Log.Field
import TagCatalog.Text.Bytes
import TagCatalog.Text.Divided

/-!
Which events get into the log.

A directive is a level, a target, or a target and a level, as in `info`,
`tagger::store` and `tagger::store=debug`; it may also name a span, and a field
that an event has to have, as in `tagger[{file}]=info`.  `Directive.ofText` reads
one; directives are separated by commas.  Of the rules that apply to an event, the
one with the longest target decides.  As no event happens inside a span, a
directive for one, or for the value of a field, lets nothing through.
-/

namespace TagCatalog.Log

open Text

structure Rule where
  /-- What the target of the event has to start with. -/
  target : List Char
  /-- A field that the event has to have. -/
  field : Option String
  threshold : Threshold

namespace Rule

/-- The names of the fields of an event; its message counts as one. -/
def fieldNames (event : Event) : List String :=
  "message" :: event.fields.map Prod.fst

def appliesTo (rule : Rule) (event : Event) : Bool :=
  rule.target.isPrefixOf event.target.toList &&
    rule.field.all fun name => (fieldNames event).contains name

/-- Whether a rule gives way to a later one that applies to the same event. -/
def givesWayTo (rule later : Rule) : Bool :=
  match compare rule.target.length later.target.length with
  | .lt => true
  | .gt => false
  | .eq =>
      match rule.field, later.field with
      | none, _ => true
      | some _, none => false
      | some name, some laterName => name ≤ laterName

def deciding? (rules : List Rule) (event : Event) : Option Rule :=
  (rules.filter fun rule => rule.appliesTo event).foldl
    (fun best rule =>
      match best with
      | none => some rule
      | some other => if other.givesWayTo rule then some rule else some other)
    none

def allow (rules : List Rule) (event : Event) : Bool :=
  match deciding? rules event with
  | some rule => rule.threshold.allows event.level
  | none => false

def everything (threshold : Threshold) : Rule := ⟨[], none, threshold⟩

end Rule

def thresholdNames : List (String × Threshold) :=
  [("off", none), ("error", some .error), ("warn", some .warn), ("info", some .info),
    ("debug", some .debug), ("trace", some .trace)]

def Threshold.ofNumber? (number : Nat) : Option Threshold :=
  (thresholdNames[number]?).map Prod.snd

def Threshold.ofName? (name : List Char) : Option Threshold :=
  (thresholdNames.find? fun entry => entry.1.toList = name.map Char.toLower).map Prod.snd

def Threshold.ofText? (text : List Char) : Option Threshold :=
  let digits :=
    match text with
    | '+' :: rest => rest
    | _ => text
  if Decimal.isNumeral digits then ofNumber? (Decimal.value digits) else ofName? text

inductive DirectiveFault where
  | invalid
  | invalidField (fault : Pattern.Fault)
  | invalidLevel
deriving DecidableEq

def DirectiveFault.message : DirectiveFault → String
  | invalid => "invalid filter directive"
  | invalidField fault => "invalid field filter: " ++ fault.message
  | invalidLevel =>
      "error parsing level filter: expected one of \"off\", \"error\", \"warn\", \"info\", " ++
        "\"debug\", \"trace\", or a number 0-5"

/-- What a directive lets into the log; a directive for spans has no rule. -/
abbrev Directive : Type := Option Rule

namespace Directive

/-- A directive with the blanks around it.  A place in a directive is counted
without the blanks in front, but what is there is looked up with them, so blanks
in front shift all parts. -/
abbrev Source : Type := List Char

def Source.behind (source : Source) (read : List Char) : List Char :=
  dropBytes (byteLength read) source

def Source.part (source : Source) (read part : List Char) : List Char :=
  takeBytes (byteLength part) (source.behind read)

/-- Reads the level behind an equals sign.  No level is every level. -/
def level (source : Source) (read : List Char) : Except DirectiveFault Threshold :=
  let written := source.behind read
  if written.isEmpty then
    .ok (some .trace)
  else
    match Threshold.ofText? written with
    | some threshold => .ok threshold
    | none => .error .invalidLevel

def levelAfterSpan (source : Source) (read text : List Char) :
    Except DirectiveFault Threshold :=
  match text with
  | [] => .ok (some .trace)
  | '=' :: _ => level source (read ++ ['='])
  | _ => .error .invalid

/-- Reads what a directive demands of the fields behind an opening brace, and the
level behind it. -/
def demand (source : Source) (target : List Char) (named : Bool) (read text : List Char) :
    Except DirectiveFault Directive := do
  let field := text.takeWhile fun character => character ≠ '\x7d'
  match text.drop field.length with
  | '\x7d' :: rest => do
      if field.isEmpty then throw .invalid
      let demand ← (FieldDemand.ofText (source.part read field)).mapError .invalidField
      match rest with
      | ']' :: rest => do
          let threshold ← levelAfterSpan source (read ++ field ++ ['\x7d', ']']) rest
          if named || demand.valued then
            return none
          else
            return some ⟨target, some demand.name, threshold⟩
      | _ => throw .invalid
  | _ => throw .invalid

def span (source : Source) (target read text : List Char) :
    Except DirectiveFault Directive :=
  let name := text.takeWhile fun character => character ≠ ']' && character ≠ '\x7b'
  match text.drop name.length with
  | ']' :: rest => (levelAfterSpan source (read ++ name ++ [']']) rest).map fun _ => none
  | '\x7b' :: rest => demand source target (!name.isEmpty) (read ++ name ++ ['\x7b']) rest
  | _ => .error .invalid

/-- A text without an equals sign or a span: a level or else a target, of which
everything is let through. -/
def bare (source : Source) : Directive :=
  match Threshold.ofText? source with
  | some threshold => some (Rule.everything threshold)
  | none => some ⟨source, none, some .trace⟩

def startsTarget (character : Char) : Bool :=
  character = '-' || character = ':' || character = '_' || isAlphanumeric character

def ofTrimmed (source : Source) (text : List Char) : Except DirectiveFault Directive :=
  match text with
  | [] => .error .invalid
  | '[' :: rest => span source [] ['['] rest
  | first :: _ =>
      if startsTarget first then
        let name := text.takeWhile fun character => character ≠ '=' && character ≠ '['
        let target := source.part [] name
        match text.drop name.length with
        | [] => .ok (bare source)
        | '=' :: _ =>
            (level source (name ++ ['='])).map fun threshold => some ⟨target, none, threshold⟩
        | _ :: rest => span source target (name ++ ['[']) rest
      else
        .error .invalid

def ofText (text : List Char) : Except DirectiveFault Directive :=
  ofTrimmed text (trim text)

end Directive

/-- The parts of a list of directives; empty ones do not count. -/
def directiveParts (text : String) : List (List Char) :=
  (divide ',' text.toList).filter fun part => !part.isEmpty

/-- The rules of directives.  Without any directive, only errors are let
through. -/
def rulesOf (directives : List Directive) : List Rule :=
  if directives.isEmpty then
    [Rule.everything (some .error)]
  else
    directives.filterMap id

def readRules (text : String) : Except DirectiveFault (List Rule) :=
  ((directiveParts text).mapM Directive.ofText).map rulesOf

def ignoredLine (part : List Char) (fault : DirectiveFault) : String :=
  "ignoring `" ++ String.ofList part ++ "`: " ++ fault.message

/-- Reads those of a list of directives that are valid, and says which are not. -/
def readValidRules (text : String) : List String × List Rule :=
  let parts := (directiveParts text).map fun part => (part, Directive.ofText part)
  let ignored := parts.filterMap fun (part, result) =>
    match result with
    | .ok _ => none
    | .error fault => some (ignoredLine part fault)
  let directives := parts.filterMap fun (_, result) =>
    match result with
    | .ok directive => some directive
    | .error _ => none
  (ignored, rulesOf directives)

/-- The text of the directives: details if they are wanted, else those of the
environment unless they are blank, else those of the settings. -/
def chooseDirectives (verbose : Bool) (environment : Option String) (settings : String) :
    String :=
  if verbose then
    "debug"
  else
    match environment with
    | some text => if (trim text.toList).isEmpty then settings else text
    | none => settings

/-- The rules for the log, and what is said about directives of the settings that
are not valid.  Where the chosen directives are not valid, the settings count. -/
def setUp (verbose : Bool) (environment : Option String) (settings : String) :
    List String × List Rule :=
  match readRules (chooseDirectives verbose environment settings) with
  | .ok rules => ([], rules)
  | .error _ => readValidRules settings

end TagCatalog.Log

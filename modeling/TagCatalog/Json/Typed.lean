import TagCatalog.Json.Ignored

/-!
Values of an expected kind.

`string`, `integer`, `optional`, `list` and `dictionary` read values of one kind
each; `Fields` say how a record is read, which may be given as an object or, in
order, as an array.  A value of another kind is refused once its start has
been checked (`otherKind`).
-/

namespace TagCatalog.Json

/-- The fault of a value that is not of the expected kind: a problem in its first
token counts more than its kind. -/
def otherKind (text : List Char) : Fault :=
  let blame {Result : Type} : Except Fault Result → Fault
    | .ok _ => .mismatched
    | .error fault => fault
  match text with
  | [] => .ended
  | first :: rest =>
      if first = 'n' then blame (expect ['u', 'l', 'l'] rest)
      else if first = 't' then blame (expect ['r', 'u', 'e'] rest)
      else if first = 'f' then blame (expect ['a', 'l', 's', 'e'] rest)
      else if first = '"' then blame (Quotation.body false rest)
      else if first = '[' || first = '{' then .mismatched
      else if first = '-' || first.isDigit then blame (number text)
      else .malformed

def string : Reader String := fun text =>
  match skipSpace text with
  | '"' :: rest =>
      (Quotation.body false rest).map fun (characters, rest) =>
        (String.ofList characters, rest)
  | other => .error (otherKind other)

def parsed {Result : Type} (ofText? : List Char → Option Result) : Reader Result := fun text =>
  match string text with
  | .ok (content, rest) =>
      match ofText? content.toList with
      | some result => .ok (result, rest)
      | none => .error .mismatched
  | .error fault => .error fault

def startsNumber : List Char → Bool
  | [] => false
  | first :: _ => first = '-' || first.isDigit

def integer : Reader Int64 := fun text =>
  let start := skipSpace text
  if startsNumber start then
    match number start with
    | .ok (numeral, rest) =>
        match numeral.integer? with
        | some value => .ok (value, rest)
        | none => .error .mismatched
    | .error fault => .error fault
  else
    .error (otherKind start)

def optional {Result : Type} (value : Reader Result) : Reader (Option Result) := fun text =>
  match skipSpace text with
  | 'n' :: rest => (expect ['u', 'l', 'l'] rest).map fun rest => (none, rest)
  | start => (value start).map fun (result, rest) => (some result, rest)

/-- Finds out whether an array has a further element, and goes to its start or
to the closing bracket. -/
def nextElement (first : Bool) (text : List Char) : Except Fault (Bool × List Char) :=
  match skipSpace text with
  | [] => .error .ended
  | ']' :: rest => .ok (false, ']' :: rest)
  | ',' :: rest =>
      if first then
        .ok (true, ',' :: rest)
      else
        match skipSpace rest with
        | [] => .error .ended
        | ']' :: _ => .error .malformed
        | start => .ok (true, start)
  | start => if first then .ok (true, start) else .error .malformed

/-- Reads the key of a further member of an object, or passes its closing
bracket. -/
def nextKey (first : Bool) (text : List Char) :
    Except Fault (Option String × List Char) :=
  let key (text : List Char) : Except Fault (Option String × List Char) :=
    match text with
    | [] => .error .ended
    | '"' :: rest =>
        (Quotation.body false rest).map fun (characters, rest) =>
          (some (String.ofList characters), rest)
    | _ => .error .malformed
  match skipSpace text with
  | [] => .error .ended
  | '}' :: rest => .ok (none, rest)
  | ',' :: rest => if first then .error .malformed else key (skipSpace rest)
  | start => if first then key start else .error .malformed

def closeArray (text : List Char) : Except Fault (List Char) :=
  mark ']' text

/-- Reads the elements of an array up to its end.  An element takes at least one
character, so where none of the array's characters is left for a further one,
the text has ended. -/
def elements {Result : Type} (element : Reader Result) :
    List Char → Bool → List Char → Except Fault (List Result × List Char)
  | [], _, _ => .error .ended
  | _ :: characters, first, text =>
      match nextElement first text with
      | .error fault => .error fault
      | .ok (false, rest) => (closeArray rest).map fun rest => ([], rest)
      | .ok (true, rest) =>
          match element rest with
          | .error fault => .error fault
          | .ok (result, rest) =>
              (elements element characters false rest).map fun (results, rest) =>
                (result :: results, rest)

def list {Result : Type} (element : Reader Result) : Reader (List Result) := fun text =>
  match skipSpace text with
  | '[' :: rest => elements element rest true rest
  | other => .error (otherKind other)

/-- Reads the members of an object up to its end, changing a state by each.  What
a key means is decided before its value is looked at.  A member takes at least
one character, so where none of the object's characters is left for a further
one, the text has ended. -/
def members {State : Type} (member : String → State → Except Fault (Reader State)) :
    List Char → Bool → State → List Char → Except Fault (State × List Char)
  | [], _, _, _ => .error .ended
  | _ :: characters, first, state, text =>
      match nextKey first text with
      | .error fault => .error fault
      | .ok (none, rest) => .ok (state, rest)
      | .ok (some key, rest) =>
          match member key state with
          | .error fault => .error fault
          | .ok value =>
              match mark ':' rest with
              | .error fault => .error fault
              | .ok rest =>
                  match value rest with
                  | .error fault => .error fault
                  | .ok (state, rest) => members member characters false state rest

/-- Reads an object whose keys are not known beforehand, as the list of its
members. -/
def dictionary {Key Value : Type} (ofKey? : List Char → Option Key) (value : Reader Value) :
    Reader (List (Key × Value)) := fun text =>
  let member (key : String) (entries : List (Key × Value)) :
      Except Fault (Reader (List (Key × Value))) :=
    match ofKey? key.toList with
    | some key => .ok fun text => (value text).map fun (result, rest) =>
        ((key, result) :: entries, rest)
    | none => .error .mismatched
  match skipSpace text with
  | '{' :: rest =>
      (members member rest true [] rest).map fun (entries, rest) =>
        (entries.reverse, rest)
  | other => .error (otherKind other)

/-- How the fields of a record are read.  The draft collects them. -/
structure Fields (Draft Result : Type) where
  /-- The draft without any field. -/
  empty : Draft
  /-- What a key means, if the record has such a field. -/
  field : String → Draft → Option (Except Fault (Reader Draft))
  /-- Reads the fields in order from an array. -/
  inOrder : Reader Draft
  /-- The record, unless a field is missing. -/
  complete : Draft → Option Result

namespace Fields

/-- Reads a field that may come only once. -/
def once {Draft Value : Type} (present : Option Value) (value : Reader Value)
    (store : Value → Draft) : Except Fault (Reader Draft) :=
  if present.isSome then
    .error .mismatched
  else
    .ok fun text => (value text).map fun (result, rest) => (store result, rest)

/-- Reads a field of a record that is given as an array.  It may be missing at
the end. -/
def element {Value : Type} (first : Bool) (value : Reader Value) (text : List Char) :
    Except Fault (Option Value × List Char) :=
  match nextElement first text with
  | .error fault => .error fault
  | .ok (false, rest) => .ok (none, rest)
  | .ok (true, rest) => (value rest).map fun (result, rest) => (some result, rest)

variable {Draft Result : Type}

/-- What a key means; members that the record has not are passed over. -/
def member (fields : Fields Draft Result) (key : String) (draft : Draft) :
    Except Fault (Reader Draft) :=
  (fields.field key draft).getD
    (.ok fun text => (skipValue text).map fun rest => (draft, rest))

def finish (fields : Fields Draft Result) (draft : Draft) : Except Fault Result :=
  match fields.complete draft with
  | some result => .ok result
  | none => .error .mismatched

def read (fields : Fields Draft Result) : Reader Result := fun text =>
  match skipSpace text with
  | '{' :: rest => do
      let (draft, rest) ← members fields.member rest true fields.empty rest
      let result ← fields.finish draft
      return (result, rest)
  | '[' :: rest => do
      let (draft, rest) ← fields.inOrder rest
      let result ← fields.finish draft
      let rest ← closeArray rest
      return (result, rest)
  | other => .error (otherKind other)

end Fields

def document {Result : Type} (value : Reader Result) (text : List Char) :
    Except Fault Result := do
  let (result, rest) ← value text
  if (skipSpace rest).isEmpty then return result else throw .malformed

end TagCatalog.Json

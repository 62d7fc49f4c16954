/-!
Texts measured in bytes.

Offsets into a text count the bytes of its UTF-8 form.  `takeBytes` and
`dropBytes` cut a text at an offset; `dropBytes_append` says that only the bytes
in front of the offset are dropped.
-/

namespace TagCatalog.Text

def byteLength (text : List Char) : Nat :=
  text.foldl (fun total character => total + character.utf8Size) 0

/-- The characters that lie within the first `count` bytes. -/
def takeBytes (count : Nat) : List Char → List Char
  | [] => []
  | first :: rest =>
      if first.utf8Size ≤ count then
        first :: takeBytes (count - first.utf8Size) rest
      else
        []

def dropBytes (count : Nat) : List Char → List Char
  | [] => []
  | first :: rest =>
      if count = 0 then first :: rest else dropBytes (count - first.utf8Size) rest

theorem foldl_byteLength (text : List Char) (total : Nat) :
    text.foldl (fun total character => total + character.utf8Size) total =
      total + byteLength text := by
  induction text generalizing total with
  | nil => rfl
  | cons first rest inductionHypothesis =>
      rw [byteLength, List.foldl_cons, List.foldl_cons, inductionHypothesis,
        inductionHypothesis]
      omega

theorem byteLength_cons (first : Char) (rest : List Char) :
    byteLength (first :: rest) = first.utf8Size + byteLength rest := by
  rw [byteLength, List.foldl_cons, foldl_byteLength, Nat.zero_add]

theorem dropBytes_append (front behind : List Char) :
    dropBytes (byteLength front) (front ++ behind) = behind := by
  induction front with
  | nil => cases behind <;> rfl
  | cons first rest inductionHypothesis =>
      have positive : 0 < first.utf8Size := first.utf8Size_pos
      rw [byteLength_cons, List.cons_append, dropBytes, if_neg (by omega),
        Nat.add_sub_cancel_left, inductionHypothesis]

end TagCatalog.Text

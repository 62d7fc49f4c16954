/-!
Classes of characters.

`isBlank` is the Unicode property `White_Space`, and `trim` removes blank
characters at both ends of a text.  `isBlank_of_isWhitespace` says that the class
contains the ASCII class of the core library.  Larger classes are given as ranges
of code points (`inRanges`).
-/

namespace TagCatalog.Text

/-- Whether a character has the Unicode property `White_Space`. -/
def isBlank (character : Char) : Bool :=
  let code := character.toNat
  (0x09 ≤ code && code ≤ 0x0D) || code == 0x20 || code == 0x85 || code == 0xA0 ||
    code == 0x1680 || (0x2000 ≤ code && code ≤ 0x200A) || code == 0x2028 ||
    code == 0x2029 || code == 0x202F || code == 0x205F || code == 0x3000

theorem isBlank_of_isWhitespace {character : Char}
    (white : character.isWhitespace = true) : isBlank character = true := by
  simp only [Char.isWhitespace, Bool.or_eq_true, decide_eq_true_eq] at white
  rcases white with ((space | tab) | carriageReturn) | lineFeed <;> subst_vars <;> decide

def trimStart (text : List Char) : List Char :=
  text.dropWhile isBlank

def trim (text : List Char) : List Char :=
  (trimStart (trimStart text).reverse).reverse

/-- Whether a code point lies in one of some ranges, given by first and last
member. -/
def inRanges (ranges : List (Nat × Nat)) (code : Nat) : Bool :=
  ranges.any fun (first, last) => first ≤ code && code ≤ last

theorem inRanges_of_mem {ranges : List (Nat × Nat)} {range : Nat × Nat} {code : Nat}
    (membership : range ∈ ranges) (lower : range.1 ≤ code) (upper : code ≤ range.2) :
    inRanges ranges code = true :=
  List.any_eq_true.mpr ⟨range, membership, by simp [lower, upper]⟩

end TagCatalog.Text

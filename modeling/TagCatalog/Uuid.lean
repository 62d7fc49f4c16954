import TagCatalog.Text.Hexadecimal

/-!
Universally unique identifiers.

An identifier is a number that thirty-two hexadecimal digits can stand for.
`text` writes these digits in lower case, in groups of eight, four, four, four and
twelve; `ofText?` reads that form, the bare digits, the grouped form in braces
and the grouped form as a name of the `urn:uuid:` scheme, with letters of
either case.  `ofText?_text` says that reading undoes writing.  `ofChance` makes
an identifier that nothing else has from random bits.
-/

namespace TagCatalog

open Text

/-- A 128-bit identifier. -/
structure Uuid where
  number : Nat
  number_lt : number < Hexadecimal.capacity 32
deriving DecidableEq

namespace Uuid

instance : Ord Uuid where
  compare := compareOn Uuid.number

instance : Std.TransOrd Uuid where
  eq_swap {first second} :=
    Std.OrientedOrd.eq_swap (a := first.number) (b := second.number)
  isLE_trans {first second third} below above :=
    Std.TransOrd.isLE_trans (a := first.number) (b := second.number) (c := third.number)
      below above

instance : Std.LawfulEqOrd Uuid where
  compare_self {uuid} := Std.ReflOrd.compare_self (a := uuid.number)
  eq_of_compare {first second} same := by
    have numbers : first.number = second.number := Std.LawfulEqOrd.eq_of_compare same
    cases first
    cases second
    simpa using numbers

instance : Inhabited Uuid := ⟨⟨0, by decide⟩⟩

/-- The number of an identifier of the fourth version, with the given bits where
the version leaves a choice: in all digits but the thirteenth, which is a four,
and the start of the seventeenth. -/
def chanceNumber (bits : Nat) : Nat :=
  let last := bits % (Hexadecimal.capacity 16 / 4)
  let middle := bits / Hexadecimal.capacity 16 % Hexadecimal.capacity 3
  let first := bits / Hexadecimal.capacity 19 % Hexadecimal.capacity 12
  ((16 * first + 4) * Hexadecimal.capacity 3 + middle) * Hexadecimal.capacity 16 +
    (2 * (Hexadecimal.capacity 16 / 4) + last)

theorem chanceNumber_lt (bits : Nat) : chanceNumber bits < Hexadecimal.capacity 32 := by
  simp only [chanceNumber, Hexadecimal.capacity, Nat.reduceMul, Nat.reduceDiv]
  omega

def ofChance (bits : Nat) : Uuid := ⟨chanceNumber bits, chanceNumber_lt bits⟩

def grouped (digits : List Char) : List Char :=
  digits.take 8 ++ '-' :: (digits.drop 8).take 4 ++ '-' :: (digits.drop 12).take 4 ++
    '-' :: (digits.drop 16).take 4 ++ '-' :: digits.drop 20

def ofDigits? (digits : List Char) : Option Uuid :=
  if valid : digits.length = 32 ∧ digits.all Hexadecimal.isDigit = true then
    some
      { number := Hexadecimal.value digits
        number_lt := by
          have bound := Hexadecimal.value_lt digits
          rw [valid.1] at bound
          exact bound }
  else
    none

/-- Reads the grouped form: the digits left without hyphens, when grouped, give
back the text. -/
def ofGrouped? (text : List Char) : Option Uuid :=
  let digits := text.filter (· ≠ '-')
  if grouped digits = text then ofDigits? digits else none

/-- What stands before the grouped form in a name of the `urn:uuid:` scheme. -/
def scheme : List Char := ['u', 'r', 'n', ':', 'u', 'u', 'i', 'd', ':']

def ofText? (text : List Char) : Option Uuid :=
  if text.length = 32 then
    ofDigits? text
  else if text.length = 36 then
    ofGrouped? text
  else if text.head? = some '{' ∧ text.getLast? = some '}' then
    ofGrouped? text.tail.dropLast
  else if (text.take scheme.length).map Char.toLower = scheme then
    ofGrouped? (text.drop scheme.length)
  else
    none

def text (uuid : Uuid) : List Char :=
  grouped (Hexadecimal.lower 32 uuid.number)

theorem filter_grouped {digits : List Char} (noHyphen : ∀ digit ∈ digits, digit ≠ '-') :
    (grouped digits).filter (· ≠ '-') = digits := by
  have kept : ∀ part : List Char, (∀ digit ∈ part, digit ∈ digits) →
      part.filter (· ≠ '-') = part := fun part inside =>
    List.filter_eq_self.mpr fun digit membership => by
      simpa using noHyphen digit (inside digit membership)
  have parts : digits.take 8 ++ ((digits.drop 8).take 4 ++ ((digits.drop 12).take 4 ++
      ((digits.drop 16).take 4 ++ digits.drop 20))) = digits := by
    rw [← List.drop_drop (i := 4) (j := 16), List.take_append_drop,
      ← List.drop_drop (i := 4) (j := 12), List.take_append_drop,
      ← List.drop_drop (i := 4) (j := 8), List.take_append_drop, List.take_append_drop]
  simp only [grouped, List.filter_append, List.filter_cons, List.append_assoc,
    List.cons_append]
  rw [kept (digits.take 8) fun _ => List.mem_of_mem_take,
    kept ((digits.drop 8).take 4) fun _ h => List.mem_of_mem_drop (List.mem_of_mem_take h),
    kept ((digits.drop 12).take 4) fun _ h => List.mem_of_mem_drop (List.mem_of_mem_take h),
    kept ((digits.drop 16).take 4) fun _ h => List.mem_of_mem_drop (List.mem_of_mem_take h),
    kept (digits.drop 20) fun _ => List.mem_of_mem_drop]
  simpa using parts

theorem length_grouped {digits : List Char} (length : digits.length = 32) :
    (grouped digits).length = 36 := by
  simp [grouped, length]

theorem ofDigits?_lower (uuid : Uuid) :
    ofDigits? (Hexadecimal.lower 32 uuid.number) = some uuid := by
  have valid : (Hexadecimal.lower 32 uuid.number).length = 32 ∧
      (Hexadecimal.lower 32 uuid.number).all Hexadecimal.isDigit = true :=
    ⟨Hexadecimal.length_lower _ _,
      List.all_eq_true.mpr fun _ membership => Hexadecimal.isDigit_of_mem_lower membership⟩
  have value : Hexadecimal.value (Hexadecimal.lower 32 uuid.number) = uuid.number :=
    Hexadecimal.value_lower uuid.number_lt
  simp [ofDigits?, valid, value]

theorem ofText?_text (uuid : Uuid) : ofText? uuid.text = some uuid := by
  have length : uuid.text.length = 36 := length_grouped (Hexadecimal.length_lower _ _)
  have noHyphen : ∀ digit ∈ Hexadecimal.lower 32 uuid.number, digit ≠ '-' :=
    fun digit membership hyphen => by
      have isDigit := Hexadecimal.isDigit_of_mem_lower membership
      rw [hyphen] at isDigit
      exact absurd isDigit (by decide)
  rw [ofText?, if_neg (by omega), if_pos length, ofGrouped?, text,
    filter_grouped noHyphen, if_pos rfl, ofDigits?_lower]

instance : ToString Uuid where
  toString uuid := String.ofList uuid.text

end Uuid

end TagCatalog

import Mathlib.Data.List.Induction
import TagCatalog.Uuid

/-!
# Spellings of identifiers

The digits of an identifier stand alone or in groups, and the groups also in braces or behind
the name of a scheme.  `Spells` says which texts these are, with letters of either case.  They
are just the texts that are read as the identifier, and the one that is written is among them.
-/

namespace TagCatalog

namespace Text.Hexadecimal

variable {text : List Char} {character : Char}

theorem isDigit_iff : isDigit character = true ↔ character.toLower ∈ digits := by
  rw [isDigit, digitValue?, List.isSome_idxOf?]

theorem digit_digitValue (isHexadecimal : isDigit character = true) :
    digit ((digitValue? character).getD 0) = character.toLower := by
  obtain ⟨number, found⟩ := Option.isSome_iff_exists.mp isHexadecimal
  obtain ⟨bound, isLower, -⟩ := List.idxOf?_eq_some_iff.mp found
  rw [found, Option.getD_some, digit, ← isLower]
  simp [bound]

theorem mem_digits_of_mem_lower {count number : Nat}
    (membership : character ∈ lower count number) : character ∈ digits := by
  have small : ∀ number : Fin 16, digit number.val ∈ digits := by decide
  induction count generalizing number with
  | zero => cases membership
  | succ count inductionHypothesis =>
      rcases List.mem_append.mp membership with front | last
      · exact inductionHypothesis front
      · rw [List.mem_singleton.mp last]
        exact small ⟨number % 16, Nat.mod_lt _ (by decide)⟩

/-- Writing undoes reading, up to the case of letters. -/
theorem lower_value (hexadecimal : ∀ character ∈ text, isDigit character = true) :
    lower text.length (value text) = text.map Char.toLower := by
  -- The last digit is the remainder, so the induction goes backwards.
  induction text using List.reverseRecOn with
  | nil => rfl
  | append_singleton front last inductionHypothesis =>
      obtain ⟨isFront, isLast⟩ := List.forall_mem_append.mp hexadecimal
      have lastDigit := isLast last (List.mem_singleton_self last)
      have bound : (digitValue? last).getD 0 < 16 := by
        obtain ⟨number, found⟩ := Option.isSome_iff_exists.mp lastDigit
        rw [found]
        exact digitValue?_lt found
      have quotient : (16 * value front + (digitValue? last).getD 0) / 16 = value front := by
        omega
      have remainder : (16 * value front + (digitValue? last).getD 0) % 16 =
          (digitValue? last).getD 0 := by
        omega
      rw [List.length_append, List.length_singleton, lower, value_append_digit, quotient,
        remainder, inductionHypothesis isFront, digit_digitValue lastDigit, List.map_append]
      rfl

end Text.Hexadecimal

namespace Uuid

open Text

variable {id : Uuid} {digits text : List Char}

/-- Whether a text is the thirty-two digits of an identifier, with letters of either case. -/
def HasDigits (id : Uuid) (digits : List Char) : Prop :=
  digits.map Char.toLower = Hexadecimal.lower 32 id.number

/-- The texts that stand for an identifier. -/
inductive Spells (id : Uuid) : List Char → Prop where
  | plain {digits : List Char} : id.HasDigits digits → Spells id digits
  | hyphenated {digits : List Char} : id.HasDigits digits → Spells id (grouped digits)
  | braced {digits : List Char} :
      id.HasDigits digits → Spells id ('{' :: grouped digits ++ ['}'])
  | named {name digits : List Char} :
      name.map Char.toLower = scheme → id.HasDigits digits → Spells id (name ++ grouped digits)

theorem HasDigits.length_eq (has : id.HasDigits digits) : digits.length = 32 := by
  have same := congrArg List.length has
  rwa [List.length_map, Hexadecimal.length_lower] at same

theorem HasDigits.isDigit (has : id.HasDigits digits) :
    ∀ digit ∈ digits, Hexadecimal.isDigit digit = true := by
  intro digit membership
  have isLower : digit.toLower ∈ Hexadecimal.lower 32 id.number := by
    rw [← has]
    exact List.mem_map_of_mem membership
  exact Hexadecimal.isDigit_iff.mpr (Hexadecimal.mem_digits_of_mem_lower isLower)

theorem HasDigits.value_eq (has : id.HasDigits digits) :
    Hexadecimal.value digits = id.number := by
  have bound : Hexadecimal.value digits < Hexadecimal.capacity 32 :=
    has.length_eq ▸ Hexadecimal.value_lt digits
  calc
    Hexadecimal.value digits =
        Hexadecimal.value (Hexadecimal.lower 32 (Hexadecimal.value digits)) :=
      (Hexadecimal.value_lower bound).symm
    _ = Hexadecimal.value (Hexadecimal.lower 32 id.number) := by
      rw [← has.length_eq, Hexadecimal.lower_value has.isDigit, has.length_eq, has]
    _ = id.number := Hexadecimal.value_lower id.number_lt

theorem ofDigits?_eq_some_iff : ofDigits? digits = some id ↔ id.HasDigits digits := by
  unfold ofDigits?
  constructor
  · intro read
    split at read
    next valid =>
      cases read
      have written := Hexadecimal.lower_value (List.all_eq_true.mp valid.2)
      rw [valid.1] at written
      exact written.symm
    next => cases read
  · intro has
    have valid : digits.length = 32 ∧ digits.all Hexadecimal.isDigit = true :=
      ⟨has.length_eq, List.all_eq_true.mpr has.isDigit⟩
    rw [dif_pos valid]
    exact congrArg some (Uuid.mk.injEq _ _ _ _ ▸ has.value_eq)

theorem ofGrouped?_eq_some_iff : ofGrouped? text = some id ↔
    ∃ digits, id.HasDigits digits ∧ text = grouped digits := by
  simp only [ofGrouped?]
  constructor
  · intro read
    split at read
    next isGrouped => exact ⟨_, ofDigits?_eq_some_iff.mp read, isGrouped.symm⟩
    next => cases read
  · rintro ⟨digits, has, rfl⟩
    have noHyphen : ∀ digit ∈ digits, digit ≠ '-' := by
      rintro digit membership rfl
      exact absurd (has.isDigit _ membership) (by decide)
    rw [filter_grouped noHyphen, if_pos rfl]
    exact ofDigits?_eq_some_iff.mpr has

theorem exists_of_braces (starts : text.head? = some '{') (ends : text.getLast? = some '}') :
    ∃ inner, text = '{' :: inner ++ ['}'] := by
  obtain ⟨front, rfl⟩ := List.getLast?_eq_some_iff.mp ends
  cases front with
  | nil => cases starts
  | cons first inner =>
      cases starts
      exact ⟨inner, rfl⟩

theorem ofText?_eq_some_iff : ofText? text = some id ↔ id.Spells text := by
  unfold ofText?
  constructor
  · intro read
    split at read
    next => exact .plain (ofDigits?_eq_some_iff.mp read)
    next =>
      split at read
      next =>
        obtain ⟨digits, has, rfl⟩ := ofGrouped?_eq_some_iff.mp read
        exact .hyphenated has
      next =>
        split at read
        next braces =>
          obtain ⟨inner, rfl⟩ := exists_of_braces braces.1 braces.2
          rw [List.cons_append, List.tail_cons, List.dropLast_concat] at read
          obtain ⟨digits, has, rfl⟩ := ofGrouped?_eq_some_iff.mp read
          exact .braced has
        next =>
          split at read
          next isScheme =>
            obtain ⟨digits, has, behind⟩ := ofGrouped?_eq_some_iff.mp read
            rw [← List.take_append_drop scheme.length text, behind]
            exact .named isScheme has
          next => cases read
  · intro spells
    cases spells with
    | plain has => rw [if_pos has.length_eq, ofDigits?_eq_some_iff.mpr has]
    | hyphenated has =>
        have length := length_grouped has.length_eq
        rw [if_neg (by omega), if_pos length]
        exact ofGrouped?_eq_some_iff.mpr ⟨_, has, rfl⟩
    | @braced digits has =>
        have length : ('{' :: grouped digits ++ ['}']).length = 38 := by
          rw [List.length_append, List.length_cons, length_grouped has.length_eq]
          rfl
        rw [if_neg (by omega), if_neg (by omega), if_pos ⟨rfl, List.getLast?_concat⟩,
          List.cons_append, List.tail_cons, List.dropLast_concat]
        exact ofGrouped?_eq_some_iff.mpr ⟨_, has, rfl⟩
    | @named name digits isScheme has =>
        have nameLength : name.length = scheme.length := by
          rw [← isScheme, List.length_map]
        have length : (name ++ grouped digits).length = 45 := by
          rw [List.length_append, length_grouped has.length_eq, nameLength]
          rfl
        have noBrace : ¬ ((name ++ grouped digits).head? = some '{' ∧
            (name ++ grouped digits).getLast? = some '}') := by
          rintro ⟨starts, -⟩
          cases name with
          | nil => cases nameLength
          | cons first rest =>
              cases starts
              have isFirst : '{'.toLower = 'u' := (List.cons.inj isScheme).1
              exact absurd isFirst (by decide)
        rw [if_neg (by omega), if_neg (by omega), if_neg noBrace, List.take_left' nameLength,
          if_pos isScheme, List.drop_left' nameLength]
        exact ofGrouped?_eq_some_iff.mpr ⟨_, has, rfl⟩

theorem spells_text (id : Uuid) : id.Spells id.text :=
  ofText?_eq_some_iff.mp (ofText?_text id)

end Uuid

end TagCatalog

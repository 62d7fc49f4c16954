import TagCatalog.Json.Quotation

/-!
# Strings are read as they were written

Every character is read back from what is written for it
(`next_writeCharacter`), so a string is read back from its quotation.
-/

namespace TagCatalog.Json.Quotation

open Text

variable {loose : Bool} {text rest : List Char} {character : Char}

theorem body_of_next_none (step : next loose text = .ok (none, rest)) :
    body loose text = .ok ([], rest) := by
  rw [body]
  split <;> simp_all

theorem body_of_next_some (step : next loose text = .ok (some character, rest)) :
    body loose text =
      (body loose rest).map fun (characters, rest) => (character :: characters, rest) := by
  rw [body]
  split <;> simp_all

theorem ofEscapeLetter?_of_escapeLetter? {letter : Char}
    (escapes : escapeLetter? character = some letter) :
    letter ≠ 'u' ∧ ofEscapeLetter? letter = some character := by
  unfold escapeLetter? at escapes
  repeat' split at escapes
  all_goals cases escapes
  all_goals
    subst_vars
    decide

theorem unit_lower {number : Nat} (small : number < Hexadecimal.capacity 4)
    (rest : List Char) : unit (Hexadecimal.lower 4 number ++ rest) = .ok (number, rest) := by
  have value := Hexadecimal.value_lower small
  have areDigits : (Hexadecimal.lower 4 number).all Hexadecimal.isDigit = true :=
    List.all_eq_true.mpr fun _ membership => Hexadecimal.isDigit_of_mem_lower membership
  have length := Hexadecimal.length_lower 4 number
  generalize Hexadecimal.lower 4 number = digits at value areDigits length
  match digits, length with
  | [_, _, _, _], _ => simp [unit, areDigits, value]

/-- One character is read from what is written for a character, and unless the
reading is loose, it is that one. -/
theorem exists_next_writeCharacter (loose : Bool) (character : Char) (rest : List Char) :
    ∃ read, next loose (writeCharacter character ++ rest) = .ok (some read, rest) ∧
      (loose = false → read = character) := by
  unfold writeCharacter
  split
  next letter escapes =>
    obtain ⟨notUnit, stands⟩ := ofEscapeLetter?_of_escapeLetter? escapes
    exact ⟨character, by simp [next, escape, notUnit, stands, Except.map], fun _ => rfl⟩
  next unescaped =>
    split
    next control =>
      have small : character.toNat < Hexadecimal.capacity 4 :=
        Nat.lt_of_lt_of_le control (by decide)
      have read := unit_lower small rest
      cases loose with
      | true =>
          have any : anyUnit (Hexadecimal.lower 4 character.toNat ++ rest) =
              .ok ('\ufffd', rest) := by
            simp [anyUnit, read, bind, Except.bind, pure, Except.pure]
          exact ⟨'\ufffd', by simp [next, escape, any, Except.map], Bool.noConfusion⟩
      | false =>
          have notTrailing : isTrailing character.toNat = false := by
            simp only [isTrailing, Bool.and_eq_false_iff, decide_eq_false_iff_not]
            omega
          have notLeading : isLeading character.toNat = false := by
            simp only [isLeading, Bool.and_eq_false_iff, decide_eq_false_iff_not]
            omega
          have own : units (Hexadecimal.lower 4 character.toNat ++ rest) =
              .ok (character, rest) := by
            simp [units, read, notTrailing, notLeading, bind, Except.bind, pure, Except.pure]
          exact ⟨character, by simp [next, escape, own, Except.map], fun _ => rfl⟩
    next printable =>
      have notMark : character ≠ '"' := by
        rintro rfl
        cases unescaped
      have notBackslash : character ≠ '\\' := by
        rintro rfl
        cases unescaped
      exact ⟨character, by simp [next, notMark, notBackslash, printable], fun _ => rfl⟩

theorem next_writeCharacter (character : Char) (rest : List Char) :
    next false (writeCharacter character ++ rest) = .ok (some character, rest) := by
  obtain ⟨read, step, own⟩ := exists_next_writeCharacter false character rest
  rw [step, own rfl]

theorem body_flatMap_writeCharacter (text rest : List Char) :
    body false (text.flatMap writeCharacter ++ '"' :: rest) = .ok (text, rest) := by
  induction text with
  | nil => exact body_of_next_none rfl
  | cons first others inductionHypothesis =>
      rw [List.flatMap_cons, List.append_assoc,
        body_of_next_some (next_writeCharacter first _), inductionHypothesis]
      rfl

/-- Loose reading, too, comes to the end of a quotation. -/
theorem exists_body_flatMap_writeCharacter (loose : Bool) (text rest : List Char) :
    ∃ read, body loose (text.flatMap writeCharacter ++ '"' :: rest) = .ok (read, rest) := by
  induction text with
  | nil => exact ⟨[], body_of_next_none rfl⟩
  | cons first others inductionHypothesis =>
      obtain ⟨read, done⟩ := inductionHypothesis
      obtain ⟨character, step, -⟩ := exists_next_writeCharacter loose first
        (others.flatMap writeCharacter ++ '"' :: rest)
      refine ⟨character :: read, ?_⟩
      rw [List.flatMap_cons, List.append_assoc, body_of_next_some step, done]
      rfl

/-- A text without escapes is its own quotation. -/
theorem body_of_plain {text : List Char}
    (plain : ∀ character ∈ text, writeCharacter character = [character]) (rest : List Char) :
    body false (text ++ '"' :: rest) = .ok (text, rest) := by
  have written : text.flatMap writeCharacter = text := by
    induction text with
    | nil => rfl
    | cons first others inductionHypothesis =>
        obtain ⟨firstPlain, othersPlain⟩ := List.forall_mem_cons.mp plain
        rw [List.flatMap_cons, firstPlain, inductionHypothesis othersPlain]
        rfl
  rw [← body_flatMap_writeCharacter text rest, written]

end TagCatalog.Json.Quotation

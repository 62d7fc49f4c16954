/-!
Texts divided at a separator.

`divide` gives the parts between the separators, of which there is one more than
there are separators.  `join` puts parts together again.
-/

namespace TagCatalog.Text

def divide (separator : Char) : List Char → List (List Char)
  | [] => [[]]
  | first :: rest =>
      if first = separator then
        [] :: divide separator rest
      else
        match divide separator rest with
        | [] => [[first]]
        | part :: parts => (first :: part) :: parts

def join (separator : Char) : List (List Char) → List Char
  | [] => []
  | [last] => last
  | part :: parts => part ++ separator :: join separator parts

theorem divide_ne_nil (separator : Char) (text : List Char) : divide separator text ≠ [] := by
  cases text with
  | nil => simp [divide]
  | cons first rest =>
      simp only [divide]
      split
      · simp
      · split <;> simp

theorem join_divide (separator : Char) (text : List Char) :
    join separator (divide separator text) = text := by
  induction text with
  | nil => rfl
  | cons first rest inductionHypothesis =>
      simp only [divide]
      split
      next same =>
        cases parts : divide separator rest with
        | nil => exact absurd parts (divide_ne_nil separator rest)
        | cons part others =>
            rw [parts] at inductionHypothesis
            simp [join, inductionHypothesis, same]
      next different =>
        split
        next empty => exact absurd empty (divide_ne_nil separator rest)
        next part others found =>
          rw [found] at inductionHypothesis
          cases others with
          | nil => simpa [join] using inductionHypothesis
          | cons second more => simpa [join] using inductionHypothesis

end TagCatalog.Text

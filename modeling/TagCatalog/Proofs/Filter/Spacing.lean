import TagCatalog.Proofs.Filter.Failure

/-!
# Blanks between tokens

Tokens may touch unless both are words or both are comparators; a text that keeps these
apart divides into its tokens, whatever blanks it has otherwise (`Spacing.divides`).  A
parser then sees the tokens only: texts of the same tokens are the same filter, or have
the same error at the same token (`exists_outcome`).
-/

namespace TagCatalog.Filter

open Text

def TokenKind.isWord : TokenKind → Bool
  | identifier | integer | and | or => true
  | _ => false

/-- Whether a token runs together with the one behind it if no blank stands between them. -/
def NeedsBlank (first second : Token) : Prop :=
  first.kind.isWord = true ∧ second.kind.isWord = true ∨
    first.kind = .comparator ∧ second.kind = .comparator

/-- The texts that have blanks between tokens where these are needed, and wherever else
one likes. -/
inductive Spacing : List Token → List Char → Prop where
  | blank {gap : List Char} :
      (∀ character ∈ gap, isBlank character = true) → Spacing [] gap
  | token {gap behind : List Char} {token : Token} {rest : List Token} :
      (∀ character ∈ gap, isBlank character = true) →
      (∀ next ∈ rest.head?, NeedsBlank token next →
        ∃ character ∈ behind.head?, isBlank character = true) →
      Spacing rest behind → Spacing (token :: rest) (gap ++ (token.text ++ behind))

section Characters

variable {token : Token} {character : Char}

theorem Token.exists_text (lexable : token.IsLexable) :
    ∃ first rest, token.text = first :: rest ∧ isBlank first = false := by
  have ends : token.EndsBefore [] := token.endsBefore_of_blank (by simp)
  obtain ⟨first, rest, text, notBlank, -⟩ := Cursor.run_text lexable ends
  exact ⟨first, rest, text, notBlank⟩

/-- The text of a token starts with a character of words if and only if it is a word. -/
theorem Token.isWordCharacter_head (lexable : token.IsLexable)
    (head : character ∈ token.text.head?) :
    Word.isWordCharacter character = token.kind.isWord := by
  have membership : character ∈ token.text := List.mem_of_mem_head? head
  cases token with
  | identifier name => exact (isWord_identifier lexable).isWordCharacter _ membership
  | integer value => exact (isWord_integer value).isWordCharacter _ membership
  | and => exact isWord_and.isWordCharacter _ membership
  | or => exact isWord_or.isWordCharacter _ membership
  | openGroup =>
      cases head
      decide
  | closeGroup =>
      cases head
      decide
  | comparator operator => cases operator <;> cases head <;> decide

theorem Token.head_ne_equals (notComparator : token.kind ≠ .comparator)
    (lexable : token.IsLexable) : token.text.head? ≠ some '=' := by
  intro head
  have isWord := token.isWordCharacter_head lexable head
  cases token with
  | comparator => exact notComparator rfl
  | openGroup => simp [text] at head
  | closeGroup => simp [text] at head
  | _ => simp [kind, TokenKind.isWord, show Word.isWordCharacter '=' = false from rfl] at isWord

theorem Token.endsBefore_text {next : Token} {behind : List Char} (lexable : next.IsLexable)
    (free : ¬NeedsBlank token next) : token.EndsBefore (next.text ++ behind) := by
  obtain ⟨first, rest, text, -⟩ := next.exists_text lexable
  have head : first ∈ next.text.head? := by simp [text]
  have noWord : token.kind.isWord = true →
      ∀ character ∈ (next.text ++ behind).head?, Word.isWordCharacter character = false := by
    intro isWord character found
    rw [text] at found
    cases found
    rw [next.isWordCharacter_head lexable head]
    simpa [NeedsBlank, isWord] using fun nextWord => free (.inl ⟨isWord, nextWord⟩)
  cases token with
  | comparator =>
      have other : next.kind ≠ .comparator := fun same => free (.inr ⟨rfl, same⟩)
      have differs := next.head_ne_equals other lexable
      rw [text] at differs ⊢
      exact differs
  | openGroup => trivial
  | closeGroup => trivial
  | _ => exact noWord rfl

end Characters

section Spacing

variable {tokens : List Token} {text : List Char}

theorem Spacing.rendering (spacing : Spacing tokens text)
    (lexable : ∀ token ∈ tokens, token.IsLexable) : Rendering tokens text := by
  induction spacing with
  | blank blank => exact .blank blank
  | @token gap behind token rest blank apart spacing inductionHypothesis =>
      obtain ⟨-, others⟩ := List.forall_mem_cons.mp lexable
      refine .token blank ?_ (inductionHypothesis others)
      cases spacing with
      | blank behindBlank =>
          exact token.endsBefore_of_blank fun character head =>
            behindBlank character (List.mem_of_mem_head? head)
      | @token nextGap _ next _ nextBlank =>
          cases nextGap with
          | cons first _ =>
              exact token.endsBefore_of_blank
                (forall_head?_cons (nextBlank first List.mem_cons_self) _)
          | nil =>
              obtain ⟨nextLexable, -⟩ := List.forall_mem_cons.mp others
              refine token.endsBefore_text nextLexable fun needed => ?_
              obtain ⟨character, head, blank⟩ := apart next rfl needed
              obtain ⟨first, rest, text, notBlank⟩ := next.exists_text nextLexable
              simp only [text, List.nil_append, List.cons_append, List.head?_cons,
                Option.mem_def, Option.some.injEq] at head
              subst head
              rw [blank] at notBlank
              cases notBlank

theorem Spacing.cons_gap {gap : List Char} (blank : ∀ character ∈ gap, isBlank character = true)
    (spacing : Spacing tokens text) : Spacing tokens (gap ++ text) := by
  have joined : ∀ {other : List Char}, (∀ character ∈ other, isBlank character = true) →
      ∀ character ∈ gap ++ other, isBlank character = true :=
    fun otherBlank => List.forall_mem_append.mpr ⟨blank, otherBlank⟩
  cases spacing with
  | blank otherBlank => exact .blank (joined otherBlank)
  | token otherBlank apart spacing =>
      rw [← List.append_assoc]
      exact .token (joined otherBlank) apart spacing

theorem Spacing.append {others : List Token} {behind : List Char} {blank : Char}
    (spacing : Spacing tokens text) (separates : isBlank blank = true)
    (othersSpacing : Spacing others behind) :
    Spacing (tokens ++ others) (text ++ blank :: behind) := by
  induction spacing with
  | @blank gap gapBlank =>
      have joined : ∀ character ∈ gap ++ [blank], isBlank character = true :=
        List.forall_mem_append.mpr ⟨gapBlank, List.forall_mem_singleton.mpr separates⟩
      simpa using othersSpacing.cons_gap joined
  | @token gap after token rest gapBlank apart spacing inductionHypothesis =>
      rw [List.append_assoc, List.append_assoc]
      refine .token gapBlank (fun next head needed => ?_) inductionHypothesis
      cases spacing with
      | blank afterBlank =>
          cases after with
          | nil => exact ⟨blank, rfl, separates⟩
          | cons first _ => exact ⟨first, rfl, afterBlank first List.mem_cons_self⟩
      | token =>
          obtain ⟨character, found, isBlank⟩ := apart next head needed
          exact ⟨character, by rw [List.head?_append, Option.mem_def.mp found]; rfl, isBlank⟩

theorem Spacing.divides {text : String} (spacing : Spacing tokens text.toList)
    (lexable : ∀ token ∈ tokens, token.IsLexable) : Divides text tokens :=
  divides_iff.mpr ((spacing.rendering lexable).tokens? lexable 0)

end Spacing

def ParseError.moveTo (position : Nat) : ParseError → ParseError
  | lex error => .lex { error with position }
  | unexpected _ expected found => .unexpected position expected found
  | tooDeep _ => .tooDeep position

namespace State

variable {state last : State} {token : Token} {tokens : List Token}

theorem exists_steps (state : State) (tokens : List Token) : ∃ front last,
    Steps state front last ∧ (tokens = front ∨ ∃ token rest,
      tokens = front ++ token :: rest ∧ ∀ next, last.step token ≠ .shift next) := by
  induction tokens generalizing state with
  | nil => exact ⟨[], state, .nil state, .inl rfl⟩
  | cons token rest inductionHypothesis =>
      by_cases shifts : ∃ next, state.step token = .shift next
      · obtain ⟨next, shifted⟩ := shifts
        obtain ⟨front, last, steps, whole | ⟨other, others, parts, stuck⟩⟩ :=
          inductionHypothesis next
        · exact ⟨token :: front, last, .cons shifted steps, .inl (whole ▸ rfl)⟩
        · exact ⟨token :: front, last, .cons shifted steps,
            .inr ⟨other, others, by rw [parts]; rfl, stuck⟩⟩
      · exact ⟨[], state, .nil state, .inr ⟨token, rest, rfl, not_exists.mp shifts⟩⟩

/-- What is wrong with a token does not depend on its place. -/
theorem exists_reports (stuck : ∀ next, state.step token ≠ .shift next) :
    ∃ error : ParseError, ∀ position,
      Reports state (.lexeme ⟨position, token⟩) (error.moveTo position) := by
  cases step : state.step token with
  | shift next => exact absurd step (stuck next)
  | refuse => exact ⟨.unexpected 0 state.expected token.kind, fun _ => .refuse _ step⟩
  | tooDeep => exact ⟨.tooDeep 0, fun _ => .tooDeep _ step⟩

end State

/-- Texts of the same tokens are all the same filter, or they all have the same error at
the item in the same place. -/
theorem exists_outcome (tokens : List Token) :
    (∃ filter, ∀ text, Divides text tokens → parse text = .ok filter) ∨
    ∃ (error : ParseError) (index : Nat), ∀ text, Divides text tokens → ∃ item,
      (Lexer.ofText text).remaining[index]? = some item ∧
        parse text = .error (error.moveTo item.position) := by
  obtain ⟨front, last, steps, whole | ⟨token, others, parts, stuck⟩⟩ :=
    State.exists_steps .initial tokens
  · subst whole
    cases accepts : last.filter? with
    | some filter =>
        refine .inl ⟨filter, fun text divides => ?_⟩
        exact parse_eq_ok_iff_exists_state.mpr
          ⟨tokens, divides_iff.mp divides, last, steps, accepts⟩
    | none =>
        refine .inr ⟨.unexpected 0 last.expected .finish, tokens.length, ?_⟩
        rintro text ⟨lexemes, position, items, rfl⟩
        have reports := State.Reports.finish position accepts
        exact ⟨.finish position, by simp [items], reports.parse_eq steps items⟩
  · obtain ⟨error, reports⟩ := State.exists_reports stuck
    refine .inr ⟨error, front.length, ?_⟩
    rintro text ⟨lexemes, position, items, same⟩
    rw [parts] at same
    obtain ⟨taken, left, rfl, rfl, rest⟩ := List.map_eq_append_iff.mp same
    obtain ⟨lexeme, more, rfl, rfl, -⟩ := List.map_eq_cons_iff.mp rest
    rw [List.map_append, List.append_assoc] at items
    exact ⟨.lexeme lexeme, by simp [items], (reports lexeme.position).parse_eq steps items⟩

end TagCatalog.Filter

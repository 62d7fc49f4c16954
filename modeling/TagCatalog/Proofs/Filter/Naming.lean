import TagCatalog.Proofs.Filter.Parse
import TagCatalog.Proofs.Filter.Rendering

/-!
# Tag names in filter texts

The names that a tag may have are the texts that are lexed as that name and no
more, and the texts that are parsed as the filter for that name.  With a
comparator and an integer behind it, such a name makes a comparison, whether or
not blanks stand around the comparator.
-/

namespace TagCatalog.Filter

open Text

theorem present_mem_of_chain {operands : List Filter} {name : String}
    (connective : List Filter → Filter) (other : ∀ operands, connective operands ≠ .present name)
    (same : chain connective operands = .present name) : .present name ∈ operands := by
  match operands with
  | [] => exact absurd same (other _)
  | [only] => exact List.mem_singleton.mpr same.symm
  | _ :: _ :: _ => exact absurd same (other _)

theorem Derivation.identifier_mem_tokens {symbol : Symbol} {derivation : Derivation symbol}
    {name : String} (membership : .present name ∈ derivation.operands) :
    .identifier name ∈ derivation.tokens := by
  induction derivation with
  | name => simpa [operands, tokens] using membership
  | comparison => simp [operands] at membership
  | group inner inductionHypothesis =>
      have present := present_mem_of_chain .any (by simp) (List.mem_singleton.mp membership).symm
      simp [tokens, inductionHypothesis present]
  | condition only inductionHypothesis => exact inductionHypothesis membership
  | and front last frontHypothesis lastHypothesis =>
      rcases List.mem_append.mp membership with inFront | inLast
      · simp [tokens, frontHypothesis inFront]
      · simp [tokens, lastHypothesis inLast]
  | alternative only inductionHypothesis =>
      exact inductionHypothesis
        (present_mem_of_chain .all (by simp) (List.mem_singleton.mp membership).symm)
  | or front last frontHypothesis lastHypothesis =>
      rcases List.mem_append.mp membership with inFront | inLast
      · simp [tokens, frontHypothesis inFront]
      · have present := present_mem_of_chain .all (by simp) (List.mem_singleton.mp inLast).symm
        simp [tokens, lastHypothesis present]

theorem items_of_fault?_eq_none {name : String} (free : Tag.Name.fault? name = none) :
    (Lexed.ofText name).items =
      [.lexeme ⟨0, .identifier name⟩, .finish name.utf8ByteSize] := by
  have ends : (Token.identifier name).EndsBefore [] := nofun
  have first : (Cursor.start name.toList).next =
      (.lexeme ⟨0, .identifier name⟩, ⟨name.utf8ByteSize, []⟩) := by
    have lexable : (Token.identifier name).IsLexable := free
    have taken := @Cursor.next_token 0 [] [] _ nofun lexable ends
    simpa [Token.text, byteLength_toList, byteLength_nil, Cursor.start] using taken
  have last : (⟨name.utf8ByteSize, []⟩ : Cursor).next = (.finish name.utf8ByteSize, _) :=
    Cursor.next_finish nofun
  rw [Lexed.ofText, Lexed.ofCursor_lexeme first, Lexed.ofCursor_finish last]
  rfl

theorem parse_of_items {name : String} {position last : Nat}
    (items : (Lexed.ofText name).items =
      [.lexeme ⟨position, .identifier name⟩, .finish last]) :
    parse name = .ok (.present name) := by
  have split : (Lexed.ofText name).items =
      [⟨position, .identifier name⟩].map Item.lexeme ++ [.finish last] := items
  refine parse_eq_ok_iff_exists_derivation.mpr
    ⟨.alternative (.condition (.name name)), Lexed.tokens?_of_items split, ?_, rfl⟩
  exact nestsWithin_of_noGroup (by simp [Derivation.tokens])

theorem fault?_eq_none_of_parse {text name : String}
    (parsed : parse text = .ok (.present name)) : Tag.Name.fault? name = none := by
  obtain ⟨derivation, found, -, same⟩ := parse_eq_ok_iff_exists_derivation.mp parsed
  have membership : .identifier name ∈ derivation.tokens := by
    have present : Filter.present name ∈ (Derivation.group derivation).operands :=
      List.mem_singleton.mpr same.symm
    have inGroup := Derivation.identifier_mem_tokens present
    simpa [Derivation.tokens] using inGroup
  exact isLexable_of_tokens? found _ membership

/-- No character of a word and no equals sign stands at the start of an integer
behind blanks, and no character of a word at the start of a comparator. -/
theorem comparator_endsBefore_integer {gap : List Char}
    (blank : ∀ character ∈ gap, isBlank character = true) (comparator : Comparator)
    (literal : Int64) :
    (Token.comparator comparator).EndsBefore (gap ++ ((Token.integer literal).text ++ [])) := by
  cases gap with
  | nil =>
      intro head
      have membership : '=' ∈ Decimal.integer literal :=
        List.mem_of_head? (by simpa [Token.text] using head)
      exact absurd (Word.isWordCharacter_of_mem_integer membership) (by decide)
  | cons first rest =>
      exact Token.endsBefore_of_blank (forall_head?_cons (blank first List.mem_cons_self) _) _

theorem identifier_endsBefore_comparator {gap : List Char}
    (blank : ∀ character ∈ gap, isBlank character = true) (name : String)
    (comparator : Comparator) (behind : List Char) :
    (Token.identifier name).EndsBefore
      (gap ++ ((Token.comparator comparator).text ++ behind)) := by
  cases gap with
  | nil => cases comparator <;> rintro character ⟨⟩ <;> decide
  | cons first rest =>
      exact Token.endsBefore_of_blank (forall_head?_cons (blank first List.mem_cons_self) _) _

theorem parse_comparison {name : String} (free : Tag.Name.fault? name = none)
    (comparator : Comparator) (literal : Int64) {before after : String}
    (blankBefore : ∀ character ∈ before.toList, isBlank character = true)
    (blankAfter : ∀ character ∈ after.toList, isBlank character = true) :
    parse (name ++ before ++ comparator.symbol ++ after ++
      String.ofList (Decimal.integer literal)) = .ok (.compare name comparator literal) := by
  have noGap : ∀ character ∈ ([] : List Char), isBlank character = true := nofun
  have integerEnds : (Token.integer literal).EndsBefore [] := nofun
  have rendering := Rendering.token noGap
    (identifier_endsBefore_comparator blankBefore name comparator _)
    (.token blankBefore (comparator_endsBefore_integer blankAfter comparator literal)
      (.token blankAfter integerEnds (.blank noGap)))
  have lexable : ∀ token ∈
      [.identifier name, .comparator comparator, .integer literal], Token.IsLexable token := by
    intro token membership
    simp only [List.mem_cons, List.not_mem_nil, or_false] at membership
    rcases membership with rfl | rfl | rfl
    · exact free
    · trivial
    · trivial
  refine parse_eq_ok_iff_exists_derivation.mpr
    ⟨.alternative (.condition (.comparison name comparator literal)), ?_, ?_, rfl⟩
  · have found := rendering.tokens? lexable 0
    simpa [Lexed.ofText, Cursor.start, Token.text, Derivation.tokens] using found
  · exact nestsWithin_of_noGroup (by simp [Derivation.tokens])

/-- A name has no fault if and only if, as a text, it is lexed as that name and
nothing else, and if and only if it is parsed as the filter for that name.  With
any comparator and any integer behind it, it is parsed as a comparison. -/
theorem fault?_eq_none_iff_parse (name : String) :
    (Tag.Name.fault? name = none ↔ (Lexer.ofText name).remaining =
      [.lexeme ⟨0, .identifier name⟩, .finish name.utf8ByteSize]) ∧
    (Tag.Name.fault? name = none ↔ parse name = .ok (.present name)) ∧
    (Tag.Name.fault? name = none → ∀ (comparator : Comparator) (literal : Int64)
      (before after : String), (∀ character ∈ before.toList, isBlank character = true) →
      (∀ character ∈ after.toList, isBlank character = true) →
      parse (name ++ before ++ comparator.symbol ++ after ++
        String.ofList (Decimal.integer literal)) = .ok (.compare name comparator literal)) := by
  refine ⟨⟨items_of_fault?_eq_none, fun items => ?_⟩,
    ⟨fun free => parse_of_items (items_of_fault?_eq_none free), fault?_eq_none_of_parse⟩, ?_⟩
  · exact fault?_eq_none_of_parse (parse_of_items items)
  · intro free comparator literal before after blankBefore blankAfter
    exact parse_comparison free comparator literal blankBefore blankAfter

/-- The least integer has a minus sign, which belongs to it. -/
theorem parse_least_literal : Tag.Name.fault? "age" = none ∧
    parse ("age" ++ " " ++ "<=" ++ "\t" ++ "-9223372036854775808") =
      .ok (.compare "age" .lessOrEqual Int64.minValue) := by
  have free : Tag.Name.fault? "age" = none := by decide +kernel
  have literal : String.ofList (Decimal.integer Int64.minValue) = "-9223372036854775808" := by
    decide +kernel
  refine ⟨free, ?_⟩
  rw [← literal]
  exact (fault?_eq_none_iff_parse "age").2.2 free .lessOrEqual Int64.minValue " " "\t"
    (List.all_eq_true.mp rfl) (List.all_eq_true.mp rfl)

end TagCatalog.Filter

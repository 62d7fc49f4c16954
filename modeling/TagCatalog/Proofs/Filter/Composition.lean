import TagCatalog.Proofs.Filter.Prefix
import TagCatalog.Proofs.Filter.RoundTrip

/-!
# Filter texts put together

Two texts with a blank or a parenthesis between them divide as they do alone, so texts of
filters can be joined by connectives and put in parentheses.  Chains run together where no
parentheses keep them apart, which leaves what they accept as it is; between parentheses a
filter stays the same tree.
-/

namespace TagCatalog.Filter

open Text

/-- Whether a text divides into some tokens, wherever it starts. -/
def Lexes (text : List Char) (tokens : List Token) : Prop :=
  ∀ position, (Lexed.ofCursor ⟨position, text⟩).tokens? = some tokens

section Lexing

variable {front rest gap run behind more : List Char} {result : Except LexFault Token}
  {token : Token} {tokens others : List Token} {spans : List Span}

theorem IsRun.append_behind (isRun : IsRun front behind run result) (ends : EndsTokens more) :
    IsRun front (behind ++ more) run result := by
  have head : ∀ character ∈ (behind ++ more).head?,
      character ∈ behind.head? ∨ character = ' ' ∨ character = ')' := by
    intro character found
    cases behind with
    | nil => exact .inr (ends character found)
    | cons => exact .inl found
  cases isRun with
  | openGroup => exact .openGroup
  | closeGroup => exact .closeGroup
  | operator starts alone denotes =>
      refine .operator starts (fun found => ?_) denotes
      rcases head '=' found with inBehind | same | same
      · exact alone inBehind
      · exact absurd same (by decide)
      · exact absurd same (by decide)
  | extended starts denotes => exact .extended starts denotes
  | word nonempty isWord starts wordEnds denotes =>
      refine .word nonempty isWord starts (fun character found => ?_) denotes
      rcases head character found with inBehind | rfl | rfl
      · exact wordEnds character inBehind
      · decide
      · decide

theorem Cursor.skipBlanks_gap {position : Nat}
    (blank : ∀ character ∈ gap, isBlank character = true) (behind : List Char) :
    (⟨position, gap ++ behind⟩ : Cursor).skipBlanks =
      (⟨position + byteLength gap, behind⟩ : Cursor).skipBlanks := by
  have taken : (gap ++ behind).takeWhile isBlank = gap ++ behind.takeWhile isBlank :=
    List.takeWhile_append_of_pos blank
  simp only [Cursor.skipBlanks, Cursor.advance, taken, List.length_append,
    List.take_length_add_append, List.drop_length_add_append, byteLength_append, Nat.add_assoc]

theorem Lexes.behindBlanks (lexes : Lexes behind others)
    (blank : ∀ character ∈ gap, isBlank character = true) : Lexes (gap ++ behind) others := by
  intro position
  have same : (⟨position, gap ++ behind⟩ : Cursor).next =
      (⟨position + byteLength gap, behind⟩ : Cursor).next := by
    simp only [Cursor.next, Cursor.skipBlanks_gap blank]
  rw [Lexed.ofCursor, same, ← Lexed.ofCursor]
  exact lexes _

theorem Lexes.behindRun (lexes : Lexes behind others)
    (blank : ∀ character ∈ gap, isBlank character = true)
    (isRun : IsRun front behind run (.ok token)) :
    Lexes (gap ++ (run ++ behind)) (token :: others) := by
  intro position
  rw [Lexed.ofCursor_lexeme (Cursor.next_run blank isRun), Lexed.tokens?, lexes]
  rfl

theorem Lexes.behindToken (lexes : Lexes behind others) (lexable : token.IsLexable)
    (ends : token.EndsBefore behind) : Lexes (token.text ++ behind) (token :: others) := by
  intro position
  have noGap : ∀ character ∈ ([] : List Char), isBlank character = true := by simp
  have taken : (⟨position, token.text ++ behind⟩ : Cursor).next = _ :=
    Cursor.next_token noGap lexable ends
  rw [Lexed.ofCursor_lexeme taken, Lexed.tokens?, lexes]
  rfl

theorem Lexes.behindDivided (lexes : Lexes behind others) (ends : EndsTokens behind)
    (divided : Divided front rest spans)
    (found : (Lexed.ofCursor ⟨byteLength front, rest⟩).tokens? = some tokens) :
    Lexes (rest ++ behind) (tokens ++ others) := by
  induction divided generalizing tokens with
  | blank blank =>
      rw [Lexed.ofCursor_blank blank] at found
      cases found
      exact lexes.behindBlanks blank
  | @run front gap run rest result spans blank isRun _ inductionHypothesis =>
      cases result with
      | error =>
          rw [Lexed.ofCursor_no_run blank isRun] at found
          cases found
      | ok token =>
          rw [Lexed.ofCursor_run blank isRun] at found
          obtain ⟨later, laterFound, rfl⟩ := Option.map_eq_some_iff.mp found
          rw [List.append_assoc, List.append_assoc]
          exact (inductionHypothesis laterFound).behindRun blank (isRun.append_behind ends)

end Lexing

section Dividing

variable {text first second : String} {tokens others : List Token} {connective : Token}

theorem Divides.unique (divides : Divides text tokens) (othersDivide : Divides text others) :
    others = tokens :=
  Option.some.inj ((divides_iff.mp othersDivide).symm.trans (divides_iff.mp divides))

theorem Lexes.divides (lexes : Lexes text.toList tokens) : Divides text tokens :=
  divides_iff.mpr (lexes 0)

theorem Divides.lexes_append {behind : List Char} (divides : Divides text tokens)
    (ends : EndsTokens behind) (lexes : Lexes behind others) :
    Lexes (text.toList ++ behind) (tokens ++ others) := by
  obtain ⟨spans, divided⟩ := exists_divided [] text.toList (.inl (by simp))
  exact lexes.behindDivided ends divided (divides_iff.mp divides)

theorem lexes_nil : Lexes [] [] := by
  intro position
  have noGap : ∀ character ∈ ([] : List Char), isBlank character = true := by simp
  rw [Lexed.ofCursor_finish (Cursor.next_finish noGap)]
  rfl

theorem Divides.lexes (divides : Divides text tokens) : Lexes text.toList tokens := by
  have ends : EndsTokens [] := by simp [EndsTokens]
  simpa using divides.lexes_append ends lexes_nil

theorem Divides.join (divides : Divides first tokens) (secondDivides : Divides second others)
    (lexable : connective.IsLexable) {separator : String}
    (spelled : separator.toList = ' ' :: connective.text ++ [' ']) :
    Divides (first ++ separator ++ second) (tokens ++ connective :: others) := by
  have space : ∀ character ∈ [' '], isBlank character = true :=
    List.forall_mem_singleton.mpr rfl
  have ends : connective.EndsBefore (' ' :: second.toList) :=
    (endsTokens_cons (.inl rfl) _).endsBefore connective
  have behind := (secondDivides.lexes.behindBlanks space).behindToken lexable ends
  have joined := divides.lexes_append (endsTokens_cons (.inl rfl) _) (behind.behindBlanks space)
  apply Lexes.divides
  simpa [spelled] using joined

theorem Divides.group (divides : Divides text tokens) :
    Divides ("(" ++ text ++ ")") (.openGroup :: tokens ++ [.closeGroup]) := by
  have closing : Lexes [')'] [.closeGroup] :=
    lexes_nil.behindToken (show Token.closeGroup.IsLexable from trivial) trivial
  have inner := divides.lexes_append (endsTokens_cons (.inr rfl) _) closing
  apply Lexes.divides
  simpa [Token.text] using inner.behindToken (show Token.openGroup.IsLexable from trivial) trivial

end Dividing

namespace Derivation

/-- A conjunction that goes on with the operands of another. -/
def conjoin (front : Derivation .conjunction) : Derivation .conjunction → Derivation .conjunction
  | condition only => and front only
  | and middle last => and (front.conjoin middle) last

/-- An expression that goes on with the operands of another. -/
def disjoin (front : Derivation .expression) : Derivation .expression → Derivation .expression
  | alternative only => or front only
  | or middle last => or (front.disjoin middle) last

theorem tokens_conjoin (front : Derivation .conjunction) : ∀ back : Derivation .conjunction,
    (front.conjoin back).tokens = front.tokens ++ .and :: back.tokens
  | condition only => by simp [conjoin]
  | and middle last => by simp [conjoin, tokens_conjoin front middle]

theorem operands_conjoin (front : Derivation .conjunction) : ∀ back : Derivation .conjunction,
    (front.conjoin back).operands = front.operands ++ back.operands
  | condition only => by simp [conjoin, operands]
  | and middle last => by simp [conjoin, operands, operands_conjoin front middle]

theorem tokens_disjoin (front : Derivation .expression) : ∀ back : Derivation .expression,
    (front.disjoin back).tokens = front.tokens ++ .or :: back.tokens
  | alternative only => by simp [disjoin]
  | or middle last => by simp [disjoin, tokens_disjoin front middle]

theorem operands_disjoin (front : Derivation .expression) : ∀ back : Derivation .expression,
    (front.disjoin back).operands = front.operands ++ back.operands
  | alternative only => by simp [disjoin, operands]
  | or middle last => by simp [disjoin, operands, operands_disjoin front middle]

end Derivation

section Acceptance

variable {operands : List Filter} {tags : List Tag}

theorem accepts_chain_all (operands : List Filter) (tags : List Tag) :
    (chain .all operands).accepts tags = operands.all fun operand => operand.accepts tags := by
  match operands with
  | [only] => simp [chain]
  | [] | _ :: _ :: _ => simp [chain, accepts, allAccept_eq_all]

theorem accepts_chain_any (operands : List Filter) (tags : List Tag) :
    (chain .any operands).accepts tags = operands.any fun operand => operand.accepts tags := by
  match operands with
  | [only] => simp [chain]
  | [] | _ :: _ :: _ => simp [chain, accepts, anyAccepts_eq_any]

theorem Derivation.accepts_disjoin (front back : Derivation .expression) (tags : List Tag) :
    (front.disjoin back).filter.accepts tags =
      (front.filter.accepts tags || back.filter.accepts tags) := by
  simp only [filter, accepts_chain_any, operands_disjoin, List.any_append]

theorem Derivation.filter_alternative (only : Derivation .conjunction) :
    (alternative only).filter = chain .all only.operands := by
  rw [filter, operands, chain]

theorem Derivation.accepts_conjoin (front back : Derivation .conjunction) (tags : List Tag) :
    (alternative (front.conjoin back)).filter.accepts tags =
      ((alternative front).filter.accepts tags && (alternative back).filter.accepts tags) := by
  simp only [filter_alternative, accepts_chain_all, operands_conjoin, List.all_append]

end Acceptance

/-- Whether an `OR` of some tokens stands outside of all groups. -/
def HasOuterOr (tokens : List Token) : Prop :=
  ∃ front, openGroups front = 0 ∧ front ++ [.or] <+: tokens

instance (tokens : List Token) : Decidable (HasOuterOr tokens) :=
  decidable_of_iff (∃ front ∈ tokens.inits, openGroups front = 0 ∧ front ++ [.or] <+: tokens) <| by
    constructor
    · rintro ⟨front, -, outer⟩
      exact ⟨front, outer⟩
    · rintro ⟨front, closed, isPrefix⟩
      have inTokens := (List.prefix_append front [.or]).trans isPrefix
      exact ⟨front, (List.mem_inits front tokens).mpr inTokens, closed, isPrefix⟩

def TextHasOuterOr (text : String) : Prop :=
  ∃ tokens, Divides text tokens ∧ HasOuterOr tokens

theorem textHasOuterOr_iff {text : String} {tokens : List Token} (divides : Divides text tokens) :
    TextHasOuterOr text ↔ HasOuterOr tokens := by
  constructor
  · rintro ⟨others, othersDivide, outer⟩
    exact divides.unique othersDivide ▸ outer
  · exact fun outer => ⟨tokens, divides, outer⟩

/-- Without an outer `OR`, an expression is a single conjunction. -/
theorem Derivation.exists_eq_alternative {derivation : Derivation .expression}
    (noOuterOr : ¬HasOuterOr derivation.tokens) : ∃ only, derivation = alternative only := by
  cases derivation with
  | alternative only => exact ⟨only, rfl⟩
  | or front last =>
      have isPrefix : front.tokens ++ [.or] <+: (or front last).tokens := by
        simp [tokens]
      exact absurd ⟨front.tokens, front.openGroups_tokens, isPrefix⟩ noOuterOr

/-- Whether a text has the tokens of a derivation and nests within the limit. -/
structure Derivation.Derives {symbol : Symbol} (derivation : Derivation symbol) (text : String) :
    Prop where
  divides : Divides text derivation.tokens
  nests : NestsWithin maximalDepth derivation.tokens

section Derives

variable {first second text : String} {symbol firstSymbol secondSymbol : Symbol}
  {front : Derivation firstSymbol} {back : Derivation secondSymbol} {whole : Derivation symbol}

theorem parse_eq_ok_iff_derives {filter : Filter} : parse text = .ok filter ↔
    ∃ derivation : Derivation .expression, derivation.Derives text ∧ derivation.filter = filter := by
  rw [parse_eq_ok_iff_exists_derivation]
  constructor
  · rintro ⟨derivation, found, nests, same⟩
    exact ⟨derivation, ⟨divides_iff.mpr found, nests⟩, same⟩
  · rintro ⟨derivation, ⟨divides, nests⟩, same⟩
    exact ⟨derivation, divides_iff.mp divides, nests, same⟩

theorem Derivation.Derives.parse {derivation : Derivation .expression}
    (derives : derivation.Derives text) : Filter.parse text = .ok derivation.filter :=
  parse_eq_ok_iff_derives.mpr ⟨derivation, derives, rfl⟩

theorem Derivation.Derives.join {connective : Token} {separator : String}
    (derives : front.Derives first) (backDerives : back.Derives second)
    (lexable : connective.IsLexable) (notOpen : connective ≠ .openGroup)
    (spelled : separator.toList = ' ' :: connective.text ++ [' '])
    (tokens : whole.tokens = front.tokens ++ connective :: back.tokens) :
    whole.Derives (first ++ separator ++ second) := by
  constructor
  · rw [tokens]
    exact derives.divides.join backDerives.divides lexable spelled
  · rw [tokens]
    exact derives.nests.append front.openGroups_tokens (.cons notOpen backDerives.nests)

theorem Derivation.Derives.group {inner : Derivation .expression} (derives : inner.Derives text)
    (inside : TextNestsWithin (maximalDepth - 1) text) :
    (Derivation.group inner).Derives ("(" ++ text ++ ")") := by
  obtain ⟨tokens, divides, nests⟩ := inside
  obtain rfl : tokens = inner.tokens := derives.divides.unique divides
  exact ⟨divides.group, nestsWithin_group nests⟩

end Derives

/-- What becomes of the texts of two filters when they are put together. -/
structure Composes (first second : String) (firstFilter secondFilter : Filter) : Prop where
  or : ∃ filter, parse (first ++ " OR " ++ second) = .ok filter ∧ ∀ tags,
    filter.accepts tags = (firstFilter.accepts tags || secondFilter.accepts tags)
  group : TextNestsWithin (maximalDepth - 1) first → parse ("(" ++ first ++ ")") = .ok firstFilter
  groups : TextNestsWithin (maximalDepth - 1) first → TextNestsWithin (maximalDepth - 1) second →
    parse ("(" ++ first ++ ") AND (" ++ second ++ ")") = .ok (.all [firstFilter, secondFilter]) ∧
      parse ("(" ++ first ++ ") OR (" ++ second ++ ")") = .ok (.any [firstFilter, secondFilter])
  and : ¬TextHasOuterOr first → ¬TextHasOuterOr second →
    ∃ filter, parse (first ++ " AND " ++ second) = .ok filter ∧ ∀ tags,
      filter.accepts tags = (firstFilter.accepts tags && secondFilter.accepts tags)

/-- Filter texts compose: `OR` between two of them accepts what either of their
filters does, parentheses keep a filter the same tree, and `AND` accepts what
both of them do unless an `OR` stands bare in one of the texts. -/
theorem composes_of_parse {first second : String} {firstFilter secondFilter : Filter}
    (firstParsed : parse first = .ok firstFilter)
    (secondParsed : parse second = .ok secondFilter) :
    Composes first second firstFilter secondFilter := by
  obtain ⟨firstTree, firstDerives, rfl⟩ := parse_eq_ok_iff_derives.mp firstParsed
  obtain ⟨secondTree, secondDerives, rfl⟩ := parse_eq_ok_iff_derives.mp secondParsed
  refine ⟨?or, ?group, ?groups, ?and⟩
  case or =>
    have derives : (firstTree.disjoin secondTree).Derives (first ++ " OR " ++ second) :=
      firstDerives.join secondDerives (show Token.or.IsLexable from trivial) (by simp) rfl
        (firstTree.tokens_disjoin secondTree)
    exact ⟨_, derives.parse, firstTree.accepts_disjoin secondTree⟩
  case group =>
    intro inside
    have group := firstDerives.group inside
    have derives : (Derivation.alternative (.condition (.group firstTree))).Derives
        ("(" ++ first ++ ")") := ⟨group.divides, group.nests⟩
    exact derives.parse
  case groups =>
    intro firstInside secondInside
    have firstGroup := firstDerives.group firstInside
    have secondGroup := secondDerives.group secondInside
    constructor
    · let whole : Derivation .expression :=
        .alternative (.and (.condition (.group firstTree)) (.group secondTree))
      have text : "(" ++ first ++ ") AND (" ++ second ++ ")" =
          "(" ++ first ++ ")" ++ " AND " ++ ("(" ++ second ++ ")") := by
        apply String.toList_inj.mp
        simp
      have derives : whole.Derives ("(" ++ first ++ ") AND (" ++ second ++ ")") := by
        rw [text]
        exact firstGroup.join secondGroup (show Token.and.IsLexable from trivial) (by simp) rfl rfl
      exact derives.parse
    · let whole : Derivation .expression :=
        .or (.alternative (.condition (.group firstTree))) (.condition (.group secondTree))
      have text : "(" ++ first ++ ") OR (" ++ second ++ ")" =
          "(" ++ first ++ ")" ++ " OR " ++ ("(" ++ second ++ ")") := by
        apply String.toList_inj.mp
        simp
      have derives : whole.Derives ("(" ++ first ++ ") OR (" ++ second ++ ")") := by
        rw [text]
        exact firstGroup.join secondGroup (show Token.or.IsLexable from trivial) (by simp) rfl rfl
      exact derives.parse
  case and =>
    intro firstPlain secondPlain
    obtain ⟨firstOnly, rfl⟩ := Derivation.exists_eq_alternative
      fun outer => firstPlain ⟨_, firstDerives.divides, outer⟩
    obtain ⟨secondOnly, rfl⟩ := Derivation.exists_eq_alternative
      fun outer => secondPlain ⟨_, secondDerives.divides, outer⟩
    have derives : (Derivation.alternative (firstOnly.conjoin secondOnly)).Derives
        (first ++ " AND " ++ second) :=
      firstDerives.join secondDerives (show Token.and.IsLexable from trivial) (by simp) rfl
        (firstOnly.tokens_conjoin secondOnly)
    exact ⟨_, derives.parse, firstOnly.accepts_conjoin secondOnly⟩

theorem composes_bounds :
    let first := "(a OR b) AND c"
    let second := "d != 007"
    let firstFilter := all [any [present "a", present "b"], present "c"]
    let secondFilter := compare "d" .notEqual 7
    (parse first = .ok firstFilter ∧ parse second = .ok secondFilter) ∧
      (TextNestsWithin (maximalDepth - 1) first ∧ TextNestsWithin (maximalDepth - 1) second) ∧
      (¬TextHasOuterOr first ∧ ¬TextHasOuterOr second) ∧
      Composes first second firstFilter secondFilter ∧
      parse "((a OR b) AND c) OR (d != 007)" = .ok (.any [firstFilter, secondFilter]) := by
  intro first second firstFilter secondFilter
  let firstTree := Derivation.alternative (.and (.condition (.group (.or (.alternative
    (.condition (.name "a"))) (.condition (.name "b"))))) (.name "c"))
  let secondTree := Derivation.alternative (.condition (.comparison "d" .notEqual 7))
  have firstDivides : Divides first firstTree.tokens := divides_iff.mpr (by decide +kernel)
  have secondDivides : Divides second secondTree.tokens := divides_iff.mpr (by decide +kernel)
  have firstDerives : firstTree.Derives first := ⟨firstDivides, by decide +kernel⟩
  have secondDerives : secondTree.Derives second := ⟨secondDivides, by decide +kernel⟩
  have firstInside : TextNestsWithin (maximalDepth - 1) first :=
    ⟨_, firstDivides, by decide +kernel⟩
  have secondInside : TextNestsWithin (maximalDepth - 1) second :=
    ⟨_, secondDivides, by decide +kernel⟩
  have firstPlain : ¬TextHasOuterOr first := by
    rw [textHasOuterOr_iff firstDivides]
    decide +kernel
  have secondPlain : ¬TextHasOuterOr second := by
    rw [textHasOuterOr_iff secondDivides]
    decide +kernel
  have composes : Composes first second firstFilter secondFilter :=
    composes_of_parse firstDerives.parse secondDerives.parse
  exact ⟨⟨firstDerives.parse, secondDerives.parse⟩, ⟨firstInside, secondInside⟩,
    ⟨firstPlain, secondPlain⟩, composes, (composes.groups firstInside secondInside).2⟩

end TagCatalog.Filter

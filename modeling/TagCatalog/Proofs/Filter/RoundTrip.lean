import Mathlib.Data.List.Infix
import TagCatalog.Proofs.Filter.Unparse

/-!
# Parsing undoes unparsing

The text of a filter whose connectives join several operands has a derivation
with that filter, so it is parsed as the filter.  The filters that come from
texts are of this kind, and their texts nest within the limit.
-/

namespace TagCatalog.Filter

open Text

/-- Whether every token ends in front of a text: it is empty, or a space or a
closing parenthesis comes first. -/
def EndsTokens (behind : List Char) : Prop :=
  ∀ character ∈ behind.head?, character = ' ' ∨ character = ')'

theorem EndsTokens.endsBefore {behind : List Char} (ends : EndsTokens behind) (token : Token) :
    token.EndsBefore behind := by
  have noWord : ∀ character ∈ behind.head?, Word.isWordCharacter character = false := by
    intro character head
    rcases ends character head with rfl | rfl <;> decide
  cases token with
  | comparator =>
      intro head
      rcases ends '=' head with same | same <;> exact absurd same (by decide)
  | openGroup | closeGroup => trivial
  | identifier | integer | and | or => exact noWord

theorem endsTokens_cons {character : Char} (ends : character = ' ' ∨ character = ')')
    (rest : List Char) : EndsTokens (character :: rest) := by
  rintro _ ⟨⟩
  exact ends

theorem Rendering.space {tokens : List Token} {text : List Char}
    (rendering : Rendering tokens text) : Rendering tokens (' ' :: text) := by
  have blank : ∀ {gap : List Char}, (∀ character ∈ gap, isBlank character = true) →
      ∀ character ∈ ' ' :: gap, isBlank character = true := by
    intro gap gapBlank
    exact List.forall_mem_cons.mpr ⟨by decide, gapBlank⟩
  cases rendering with
  | blank gapBlank => exact .blank (blank gapBlank)
  | token gapBlank ends rest => exact .token (blank gapBlank) ends rest

/-- Whether a text goes in front of a rendering, where tokens end, as a rendering
of further tokens. -/
def Renders (tokens : List Token) (text : List Char) : Prop :=
  ∀ (rest : List Token) (behind : List Char), Rendering rest behind → EndsTokens behind →
    Rendering (tokens ++ rest) (text ++ behind)

theorem renders_token (token : Token) : Renders [token] token.text := by
  intro rest behind rendering ends
  have noGap : ∀ character ∈ ([] : List Char), isBlank character = true := nofun
  exact .token noGap (ends.endsBefore token) rendering

theorem Renders.append {front back : List Token} {text behindText : List Char}
    (frontRenders : Renders front text) (backRenders : Renders back behindText) :
    Renders (front ++ back) (text ++ ' ' :: behindText) := by
  intro rest behind rendering ends
  rw [List.append_assoc, List.append_assoc]
  exact frontRenders _ _ (backRenders _ _ rendering ends).space (endsTokens_cons (.inl rfl) _)

theorem Renders.group {tokens : List Token} {text : List Char} (renders : Renders tokens text) :
    Renders (.openGroup :: tokens ++ [.closeGroup]) ('(' :: text ++ [')']) := by
  intro rest behind rendering ends
  have noGap : ∀ character ∈ ([] : List Char), isBlank character = true := nofun
  have closed : Rendering (.closeGroup :: rest) (')' :: behind) := .token noGap trivial rendering
  have inner := renders _ _ closed (endsTokens_cons (.inr rfl) behind)
  have opened : Rendering (.openGroup :: (tokens ++ .closeGroup :: rest))
      ('(' :: (text ++ ')' :: behind)) := .token noGap trivial inner
  simpa using opened

theorem Renders.rendering {tokens : List Token} {text : List Char}
    (renders : Renders tokens text) : Rendering tokens text := by
  have noGap : ∀ character ∈ ([] : List Char), isBlank character = true := nofun
  have rendering := renders [] [] (.blank noGap) nofun
  simpa using rendering

/-- The connective whose chains a symbol derives; a chain of one atom is that atom. -/
def Symbol.connective : Symbol → List Filter → Filter
  | .expression => .any
  | .conjunction | .atom => .all

theorem toList_intercalate_cons (separator first : String) (rest : List String) :
    (String.intercalate separator (first :: rest)).toList =
      first.toList ++ rest.flatMap fun next => separator.toList ++ next.toList := by
  induction rest generalizing first with
  | nil => simp
  | cons second rest inductionHypothesis =>
      rw [String.intercalate_cons_cons, String.toList_append, inductionHypothesis]
      simp

namespace Derivation

variable {symbol part : Symbol} {filter : Filter}

/-- Whether a derivation is that of the text of a filter. -/
structure Prints (derivation : Derivation symbol) (filter : Filter) : Prop where
  filter_eq : chain symbol.connective derivation.operands = filter
  renders : Renders derivation.tokens (unparseAs symbol filter).toList
  nests : ∀ limit, depthAs symbol filter ≤ limit → NestsWithin limit derivation.tokens

theorem operands_atom (derivation : Derivation .atom) :
    derivation.operands = [chain .all derivation.operands] := by
  cases derivation <;> rfl

theorem Prints.condition {only : Derivation .atom} (prints : only.Prints filter)
    (same : needsGroup .conjunction filter = needsGroup .atom filter) :
    (condition only).Prints filter := by
  constructor
  · exact prints.filter_eq
  · rw [unparseAs, same]
    exact prints.renders
  · intro limit bounded
    rw [depthAs, same] at bounded
    exact prints.nests limit bounded

theorem Prints.alternative {only : Derivation .conjunction} (prints : only.Prints filter)
    (noGroup : needsGroup .conjunction filter = false) : (alternative only).Prints filter := by
  constructor
  · exact prints.filter_eq
  · have renders := prints.renders
    rw [unparseAs, noGroup] at renders
    exact renders
  · intro limit bounded
    apply prints.nests
    rw [depthAs, noGroup]
    exact bounded

theorem Prints.group {inner : Derivation .expression} (prints : inner.Prints filter)
    (needed : needsGroup .atom filter = true) : (group inner).Prints filter := by
  constructor
  · exact prints.filter_eq
  · rw [unparseAs, needed, if_pos rfl, String.toList_append, String.toList_append]
    exact prints.renders.group
  · intro limit bounded
    rw [depthAs, needed, if_pos rfl] at bounded
    obtain ⟨inside, rfl⟩ : ∃ inside, limit = inside + 1 := ⟨limit - 1, by omega⟩
    exact nestsWithin_group (prints.nests inside (Nat.le_of_succ_le_succ bounded))

/-- How the derivations of a symbol are rows of parts with a connective between
them. -/
structure Row (symbol : Symbol) (connective : Token) where
  start : Derivation symbol.operand → Derivation symbol
  join : Derivation symbol → Derivation symbol.operand → Derivation symbol
  tokens_start : ∀ part, (start part).tokens = part.tokens
  operands_start : ∀ part,
    (start part).operands = [chain symbol.operand.connective part.operands]
  tokens_join : ∀ front last,
    (join front last).tokens = front.tokens ++ connective :: last.tokens
  operands_join : ∀ front last, (join front last).operands =
    front.operands ++ [chain symbol.operand.connective last.operands]

def conditions : Row .conjunction .and where
  start := condition
  join := and
  tokens_start _ := rfl
  operands_start part := part.operands_atom
  tokens_join _ _ := rfl
  operands_join front last := congrArg (front.operands ++ ·) last.operands_atom

def alternatives : Row .expression .or where
  start := alternative
  join := or
  tokens_start _ := rfl
  operands_start _ := rfl
  tokens_join _ _ := rfl
  operands_join _ _ := rfl

section Row

variable {connective : Token} {filters : List Filter}

theorem Row.exists_append (row : Row symbol connective) (noGroup : connective ≠ .openGroup)
    (each : ∀ filter ∈ filters, ∃ part : Derivation symbol.operand, part.Prints filter)
    {text : List Char} (front : Derivation symbol) (renders : Renders front.tokens text) :
    ∃ whole : Derivation symbol, whole.operands = front.operands ++ filters ∧
      Renders whole.tokens (text ++ filters.flatMap fun filter =>
        ' ' :: connective.text ++ ' ' :: (unparseAs symbol.operand filter).toList) ∧
      ∀ limit, NestsWithin limit front.tokens →
        (∀ filter ∈ filters, depthAs symbol.operand filter ≤ limit) →
        NestsWithin limit whole.tokens := by
  induction filters generalizing front text with
  | nil => exact ⟨front, by simp, by simpa using renders, fun _ nests _ => nests⟩
  | cons filter rest inductionHypothesis =>
      obtain ⟨⟨part, prints⟩, others⟩ := List.forall_mem_cons.mp each
      have longer : Renders (row.join front part).tokens (text ++
          ' ' :: (connective.text ++ ' ' :: (unparseAs symbol.operand filter).toList)) := by
        rw [row.tokens_join]
        exact renders.append ((renders_token connective).append prints.renders)
      obtain ⟨whole, operands, wholeRenders, wholeNests⟩ :=
        inductionHypothesis others (row.join front part) longer
      refine ⟨whole, ?_, ?_, ?_⟩
      · rw [operands, row.operands_join, prints.filter_eq, List.append_assoc]
        rfl
      · simpa using wholeRenders
      · intro limit frontNests bounded
        obtain ⟨firstBounded, restBounded⟩ := List.forall_mem_cons.mp bounded
        apply wholeNests limit _ restBounded
        rw [row.tokens_join]
        exact frontNests.append front.openGroups_tokens
          (.cons noGroup (prints.nests limit firstBounded))

theorem Row.exists_intercalate (row : Row symbol connective) (noGroup : connective ≠ .openGroup)
    {separator : String} (spelled : separator.toList = ' ' :: connective.text ++ [' '])
    (nonempty : filters ≠ [])
    (each : ∀ filter ∈ filters, ∃ part : Derivation symbol.operand, part.Prints filter) :
    ∃ whole : Derivation symbol, whole.operands = filters ∧
      Renders whole.tokens
        (String.intercalate separator (unparsed symbol.operand filters)).toList ∧
      ∀ limit, depthOf symbol.operand filters ≤ limit → NestsWithin limit whole.tokens := by
  cases filters with
  | nil => exact absurd rfl nonempty
  | cons first rest =>
      obtain ⟨⟨part, prints⟩, others⟩ := List.forall_mem_cons.mp each
      have starts : Renders (row.start part).tokens (unparseAs symbol.operand first).toList := by
        rw [row.tokens_start]
        exact prints.renders
      obtain ⟨whole, operands, renders, nests⟩ :=
        row.exists_append noGroup others (row.start part) starts
      refine ⟨whole, ?_, ?_, ?_⟩
      · rw [operands, row.operands_start, prints.filter_eq]
        rfl
      · rw [unparsed_eq_map, List.map_cons, toList_intercalate_cons, List.flatMap_map]
        simpa [spelled] using renders
      · intro limit bounded
        obtain ⟨firstBounded, restBounded⟩ := List.forall_mem_cons.mp (depthOf_le_iff.mp bounded)
        apply nests limit _ restBounded
        rw [row.tokens_start]
        exact prints.nests limit firstBounded

end Row

/-- Whether a filter has a text at every place in the grammar. -/
structure Printable (filter : Filter) : Prop where
  atom : ∃ derivation : Derivation .atom, derivation.Prints filter
  conjunction : ∃ derivation : Derivation .conjunction, derivation.Prints filter
  expression : ∃ derivation : Derivation .expression, derivation.Prints filter

theorem Prints.printable_of_leaf {atom : Derivation .atom} (prints : atom.Prints filter)
    (leaf : ∀ symbol, needsGroup symbol filter = false) : Printable filter := by
  have conjunction : (Derivation.condition atom).Prints filter :=
    prints.condition ((leaf _).trans (leaf _).symm)
  exact ⟨⟨_, prints⟩, ⟨_, conjunction⟩, ⟨_, conjunction.alternative (leaf _)⟩⟩

theorem printable_present (name : String) : Printable (.present name) := by
  have prints : (Derivation.name name).Prints (.present name) := by
    refine ⟨rfl, renders_token (.identifier name), ?_⟩
    intro limit _
    exact nestsWithin_of_noGroup (by simp [tokens])
  apply prints.printable_of_leaf
  intro symbol
  cases symbol <;> rfl

theorem printable_compare (name : String) (comparator : Comparator) (literal : Int64) :
    Printable (.compare name comparator literal) := by
  have prints : (Derivation.comparison name comparator literal).Prints
      (.compare name comparator literal) := by
    refine ⟨rfl, ?_, ?_⟩
    · have renders := (renders_token (.identifier name)).append
        ((renders_token (.comparator comparator)).append (renders_token (.integer literal)))
      simpa [unparseAs, needsGroup, unparse, comparisonText, Token.text, tokens] using renders
    · intro limit _
      exact nestsWithin_of_noGroup (by simp [tokens])
  apply prints.printable_of_leaf
  intro symbol
  cases symbol <;> rfl

theorem printable_all {operands : List Filter} (several : 2 ≤ operands.length)
    (each : ∀ operand ∈ operands, Printable operand) : Printable (.all operands) := by
  have nonempty : operands ≠ [] :=
    List.ne_nil_of_length_pos (Nat.lt_of_lt_of_le Nat.two_pos several)
  obtain ⟨whole, same, renders, nests⟩ := conditions.exists_intercalate (by simp)
    (show " AND ".toList = _ from rfl) nonempty
      fun operand membership => (each operand membership).atom
  have conjunction : whole.Prints (.all operands) :=
    ⟨by rw [same]; exact chain_of_two_le several, renders, nests⟩
  have expression := conjunction.alternative rfl
  exact ⟨⟨_, expression.group rfl⟩, ⟨_, conjunction⟩, ⟨_, expression⟩⟩

theorem printable_any {operands : List Filter} (several : 2 ≤ operands.length)
    (each : ∀ operand ∈ operands, Printable operand) : Printable (.any operands) := by
  have nonempty : operands ≠ [] :=
    List.ne_nil_of_length_pos (Nat.lt_of_lt_of_le Nat.two_pos several)
  obtain ⟨whole, same, renders, nests⟩ := alternatives.exists_intercalate (by simp)
    (show " OR ".toList = _ from rfl) nonempty
    fun operand membership => (each operand membership).conjunction
  have expression : whole.Prints (.any operands) :=
    ⟨by rw [same]; exact chain_of_two_le several, renders, nests⟩
  have atom := expression.group rfl
  exact ⟨⟨_, atom⟩, ⟨_, atom.condition rfl⟩, ⟨_, expression⟩⟩

theorem printable_of_joinsSeveral (joins : filter.Everywhere JoinsSeveral) :
    Printable filter := by
  induction joins with
  | present => exact printable_present _
  | compare => exact printable_compare _ _ _
  | all several _ inductionHypothesis => exact printable_all several inductionHypothesis
  | any several _ inductionHypothesis => exact printable_any several inductionHypothesis

end Derivation

/-- The text of a filter is derivable, as that filter, and nests as deep as the
filter. -/
theorem exists_derivation_unparse {filter : Filter} (joins : filter.Everywhere JoinsSeveral)
    (asks : filter.Everywhere AsksForTag) : ∃ derivation : Derivation .expression,
      derivation.filter = filter ∧
      (Lexed.ofText (unparse filter)).tokens? = some derivation.tokens ∧
      ∀ limit, NestsWithin limit derivation.tokens ↔ depth filter ≤ limit := by
  obtain ⟨derivation, prints⟩ := (Derivation.printable_of_joinsSeveral joins).expression
  refine ⟨derivation, prints.filter_eq, ?_, ?_⟩
  · have operandsAsk : ∀ operand ∈ derivation.operands, Everywhere AsksForTag operand := by
      apply everywhere_of_chain Everywhere.of_any
      rw [← prints.filter_eq] at asks
      exact asks
    have lexable := Derivation.isLexable_of_everywhere operandsAsk
    exact prints.renders.rendering.tokens? lexable 0
  · intro limit
    constructor
    · intro nests
      rw [← prints.filter_eq]
      exact depth_chain_any_le (Derivation.depthAs_le_of_nestsWithin nests)
    · exact prints.nests limit

/-- Filters that come from texts join several operands, ask for tags, and nest
no deeper than the texts. -/
theorem Derivation.everywhere_filter {derivation : Derivation .expression} {text : String}
    (found : (Lexed.ofText text).tokens? = some derivation.tokens) :
    derivation.filter.Everywhere JoinsSeveral ∧ derivation.filter.Everywhere AsksForTag := by
  have lexable := isLexable_of_tokens? found
  constructor
  · apply everywhere_chain _ derivation.operands_ne_nil
    · exact Derivation.everywhere (fun _ _ => ⟨trivial, fun _ _ => trivial⟩)
        fun _ several => ⟨several, several⟩
    · exact fun several below => .any several below
  · apply everywhere_chain _ derivation.operands_ne_nil
    · apply Derivation.everywhere _ fun _ _ => ⟨trivial, trivial⟩
      intro name named
      exact ⟨lexable _ named, fun _ _ => lexable _ named⟩
    · exact fun _ below => .any trivial below

theorem textNestsWithin_unparse_iff {filter : Filter} (joins : filter.Everywhere JoinsSeveral)
    (asks : filter.Everywhere AsksForTag) (limit : Nat) :
    TextNestsWithin limit (unparse filter) ↔ depth filter ≤ limit := by
  obtain ⟨derivation, -, found, nestsIff⟩ := exists_derivation_unparse joins asks
  constructor
  · rintro ⟨tokens, divides, nests⟩
    obtain rfl : tokens = derivation.tokens :=
      Option.some.inj ((divides_iff.mp divides).symm.trans found)
    exact (nestsIff limit).mp nests
  · intro bounded
    exact ⟨derivation.tokens, divides_iff.mpr found, (nestsIff limit).mpr bounded⟩

/-- Parsing undoes unparsing: a filter is parsed from its text if each of its
connectives joins at least two operands, each name may be that of a tag and the
text nests within the limit.  Every filter that is parsed from a text is such a
filter, however many redundant groups that text has. -/
theorem parse_unparse :
    (∀ filter : Filter, filter.Everywhere JoinsSeveral → filter.Everywhere AsksForTag →
      TextNestsWithin maximalDepth (unparse filter) → parse (unparse filter) = .ok filter) ∧
    (∀ (text : String) (filter : Filter), parse text = .ok filter →
      filter.Everywhere JoinsSeveral ∧ filter.Everywhere AsksForTag ∧
        TextNestsWithin maximalDepth (unparse filter)) ∧
    ∀ filter : Filter, filter.Everywhere JoinsSeveral → filter.Everywhere AsksForTag →
      ∀ limit, TextNestsWithin limit (unparse filter) ↔ depth filter ≤ limit := by
  refine ⟨?_, ?_, fun _ => textNestsWithin_unparse_iff⟩
  · intro filter joins asks nestsWithin
    have bounded := (textNestsWithin_unparse_iff joins asks _).mp nestsWithin
    obtain ⟨derivation, same, found, nestsIff⟩ := exists_derivation_unparse joins asks
    apply parse_eq_ok_iff_exists_derivation.mpr
    exact ⟨derivation, found, (nestsIff _).mpr bounded, same⟩
  · intro text filter parsed
    obtain ⟨derivation, found, nests, rfl⟩ := parse_eq_ok_iff_exists_derivation.mp parsed
    obtain ⟨joins, asks⟩ := Derivation.everywhere_filter found
    refine ⟨joins, asks, ?_⟩
    apply (textNestsWithin_unparse_iff joins asks _).mpr
    exact depth_chain_any_le (Derivation.depthAs_le_of_nestsWithin nests)

instance (limit : Nat) (tokens : List Token) : Decidable (NestsWithin limit tokens) :=
  decidable_of_iff (∀ front ∈ tokens.inits, openGroups front ≤ limit)
    (forall_congr' fun front => imp_congr_left (List.mem_inits front tokens))

/-- The groups that are left stand below `AND`. -/
theorem parse_unparse_nested :
    let filter := any [all [present "a", any [present "b", compare "c" .equal Int64.minValue]],
      present "d"]
    parse "((a) AND ((b OR c==-9223372036854775808))) OR d" = .ok filter ∧
      unparse filter = "a AND (b OR c == -9223372036854775808) OR d" ∧
      parse (unparse filter) = .ok filter := by
  intro filter
  have parsed : parse "((a) AND ((b OR c==-9223372036854775808))) OR d" = .ok filter := by
    let group := Derivation.or (.alternative (.condition (.name "b")))
      (.condition (.comparison "c" .equal Int64.minValue))
    apply parse_eq_ok_iff_exists_derivation.mpr
    refine ⟨.or (.alternative (.condition (.group (.alternative (.and (.condition
      (.group (.alternative (.condition (.name "a"))))) (.group (.alternative (.condition
        (.group group))))))))) (.condition (.name "d")), ?_, ?_, rfl⟩
    · decide +kernel
    · decide +kernel
  obtain ⟨joins, asks, -⟩ := parse_unparse.2.1 _ filter parsed
  have shortest : TextNestsWithin maximalDepth (unparse filter) :=
    (parse_unparse.2.2 filter joins asks _).mpr (by decide +kernel)
  exact ⟨parsed, by decide +kernel, parse_unparse.1 filter joins asks shortest⟩

end TagCatalog.Filter

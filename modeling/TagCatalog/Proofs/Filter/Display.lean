import TagCatalog.Proofs.Filter.Failure
import TagCatalog.Proofs.Filter.Naming
import TagCatalog.Proofs.Filter.Partition
import TagCatalog.Proofs.Filter.RoundTrip

/-!
# What is displayed and what is read

The line that shows a filter is filter syntax for names and comparisons only.  The comma
behind the first operand of a connective is a character of words, so it makes another name
of a name and no integer of an integer.  Either way the parser comes to a token that it
refuses while a group is open (`refusedInGroup_display`), however deep the first operand is.
-/

namespace TagCatalog.Filter

open Text

/-- Whether a text starts like a filter in one line: with a name, or with a group. -/
def StartsAsOperand (text : List Char) : Prop :=
  ∃ (token : Token) (behind : List Char), text = token.text ++ behind ∧ token.IsLexable ∧
    token.EndsBefore behind ∧ (token = .openGroup ∨ ∃ name, token = .identifier name)

/-- What stands behind an operand: a further one, or the end of the group. -/
inductive FollowsOperand : List Char → Prop where
  | operand (rest : List Char) : FollowsOperand (',' :: ' ' :: rest)
  | closeGroup (rest : List Char) : FollowsOperand (')' :: rest)

/-- Whether no filter is read from a text in some state. -/
def State.Refuses (state : State) (text : List Char) : Prop :=
  ∀ position, ∃ error, state.run (Lexed.ofCursor ⟨position, text⟩) = .error error

/-- Whether a text cannot be read where an operand of a group has to come. -/
def RefusedInGroup (text : List Char) : Prop :=
  ∀ (outer : List Level) (level : Level), outer ≠ [] → State.Refuses ⟨outer, level, .start⟩ text

section Words

variable {name : String}

theorem IsNumber.comma_not_mem {word : List Char} {number : Int}
    (isNumber : IsNumber word number) : ',' ∉ word := by
  have digits : ∀ {digits : List Char}, Decimal.isNumeral digits = true → ',' ∉ digits := by
    intro digits numeral membership
    exact absurd ((Decimal.isNumeral_iff.mp numeral).2 _ membership) (by decide)
  cases isNumber with
  | unsigned numeral => exact digits numeral
  | signed numeral => simp [digits numeral]

theorem ofWord_ne_integer {word : List Char} (comma : ',' ∈ word) (value : Int64) :
    Token.ofWord word ≠ .ok (.integer value) := by
  intro read
  have denotes := wordDenotes_ofWord word
  rw [read] at denotes
  cases denotes with
  | integer isNumber => exact isNumber.comma_not_mem comma

theorem head?_ne_hyphen (free : Tag.Name.fault? name = none) :
    name.toList.head? ≠ some '-' := by
  intro hyphen
  simp only [Tag.Name.fault?, hyphen, if_true] at free
  split at free
  next => cases free
  next =>
    split at free
    next => cases free
    next => split at free <;> cases free

theorem fault?_append_comma (free : Tag.Name.fault? name = none) :
    Tag.Name.fault? (name ++ ",") = none := by
  have isWord := Token.isWord_identifier free
  have characters : (name ++ ",").toList = name.toList ++ [','] := String.toList_append
  have noKeyword : ∀ keyword : String, keyword.toList.getLast? ≠ some ',' →
      String.ofList (name ++ ",").toList ≠ keyword := by
    rintro keyword other rfl
    exact other (by simp)
  have noHyphen : (name ++ ",").toList.head? ≠ some '-' := by
    have nonempty : name.toList ≠ [] := isWord.nonempty
    rw [characters, List.head?_append_of_ne_nil _ nonempty]
    exact head?_ne_hyphen free
  have denotes := WordDenotes.identifier (noKeyword _ (by decide)) (noKeyword _ (by decide))
    (fun number isNumber => isNumber.comma_not_mem (by simp)) noHyphen
  rw [String.ofList_toList] at denotes
  refine (Token.ofWord_eq_identifier_iff (by simp) ?_).mp denotes.ofWord_eq
  rw [characters]
  exact List.forall_mem_append.mpr
    ⟨isWord.isWordCharacter, List.forall_mem_singleton.mpr (by decide)⟩

end Words

theorem Token.endsBefore_space (token : Token) (rest : List Char) :
    token.EndsBefore (' ' :: rest) :=
  token.endsBefore_of_blank (forall_head?_cons (by decide : isBlank ' ' = true) rest)

theorem Everywhere.here {holds : Filter → Prop} {filter : Filter}
    (everywhere : filter.Everywhere holds) : holds filter := by
  cases everywhere <;> assumption

section Operands

variable {filter : Filter} {behind : List Char}

theorem FollowsOperand.not_isWordCharacter_or (follows : FollowsOperand behind) :
    (∃ rest, behind = ',' :: rest ∧
      ∀ character ∈ rest.head?, Word.isWordCharacter character = false) ∨
    ∀ character ∈ behind.head?, Word.isWordCharacter character = false := by
  cases follows with
  | operand rest => exact .inl ⟨_, rfl, forall_head?_cons (by decide) rest⟩
  | closeGroup rest => exact .inr (forall_head?_cons (by decide) rest)

theorem startsAsOperand_present {name : String} (free : Tag.Name.fault? name = none)
    (follows : FollowsOperand behind) : StartsAsOperand (name.toList ++ behind) := by
  rcases follows.not_isWordCharacter_or with ⟨rest, rfl, ends⟩ | ends
  · exact ⟨.identifier (name ++ ","), rest, by simp [Token.text], fault?_append_comma free, ends,
      .inr ⟨_, rfl⟩⟩
  · exact ⟨.identifier name, behind, rfl, free, ends, .inr ⟨_, rfl⟩⟩

theorem toList_parenthesized_cons (first : Filter) (rest : List Filter) :
    (parenthesized (displays (first :: rest))).toList =
      '(' :: (first.display.toList ++
        ((rest.flatMap fun next => ',' :: ' ' :: next.display.toList) ++ [')'])) := by
  rw [parenthesized, displays_eq_map, List.map_cons, String.toList_append, String.toList_append,
    toList_intercalate_cons]
  simp [List.flatMap_map]

theorem startsAsOperand_parenthesized {operands : List Filter} :
    StartsAsOperand ((parenthesized (displays operands)).toList ++ behind) := by
  have text : (parenthesized (displays operands)).toList ++ behind = Token.openGroup.text ++
      ((String.intercalate ", " (displays operands)).toList ++ ')' :: behind) := by
    simp [parenthesized, Token.text]
  exact ⟨.openGroup, _, text, trivial, trivial, .inl rfl⟩

theorem toList_comparisonText (name : String) (comparator : Comparator) (literal : Int64) :
    (comparisonText name comparator literal).toList =
      name.toList ++ ' ' :: ((Token.comparator comparator).text ++
        ' ' :: Decimal.integer literal) := by
  simp [comparisonText, Token.text]

theorem startsAsOperand_display (asks : filter.AsksForTag) (follows : FollowsOperand behind) :
    StartsAsOperand (filter.display.toList ++ behind) := by
  cases filter with
  | present name => exact startsAsOperand_present asks follows
  | compare name comparator literal =>
      rw [display, toList_comparisonText, List.append_assoc]
      exact ⟨.identifier name, _, rfl, asks, Token.endsBefore_space _ _, .inr ⟨_, rfl⟩⟩
  | all conditions => exact startsAsOperand_parenthesized
  | any alternatives => exact startsAsOperand_parenthesized

end Operands

section Runs

variable {state next : State} {token : Token} {gap behind : List Char}

theorem State.Refuses.of_shift (blank : ∀ character ∈ gap, isBlank character = true)
    (lexable : token.IsLexable) (ends : token.EndsBefore behind)
    (shifted : state.step token = .shift next) (refuses : next.Refuses behind) :
    state.Refuses (gap ++ (token.text ++ behind)) := by
  intro position
  rw [Lexed.ofCursor_lexeme (Cursor.next_token blank lexable ends), State.run]
  simp only [shifted]
  exact refuses _

theorem State.refuses_of_step (blank : ∀ character ∈ gap, isBlank character = true)
    (lexable : token.IsLexable) (ends : token.EndsBefore behind) (inGroup : state.outer ≠ [])
    (refused : state.step token = .refuse) : state.Refuses (gap ++ (token.text ++ behind)) := by
  intro position
  have unfinished : state.filter? = none := by simp [State.filter?, inGroup]
  rw [Lexed.ofCursor_lexeme (Cursor.next_token blank lexable ends), State.run]
  simp [refused, State.stop, unfinished]

theorem State.refuses_of_tooDeep (deep : state.step .openGroup = .tooDeep) :
    state.Refuses ('(' :: behind) := by
  intro position
  have taken := @Cursor.next_token position [] behind .openGroup nofun trivial trivial
  rw [show '(' :: behind = [] ++ (Token.openGroup.text ++ behind) from rfl,
    Lexed.ofCursor_lexeme taken, State.run]
  simp [deep]

theorem refuses_of_isRun {outer : List Level} {level : Level} {name : String}
    {comparator : Comparator} {run : List Char} {result : Except LexFault Token}
    (blank : ∀ character ∈ gap, isBlank character = true) (inGroup : outer ≠ [])
    (isRun : IsRun [] behind run result) (noInteger : ∀ value, result ≠ .ok (.integer value)) :
    State.Refuses ⟨outer, level, .comparison name comparator⟩ (gap ++ (run ++ behind)) := by
  intro position
  have unfinished : State.filter? ⟨outer, level, .comparison name comparator⟩ = none := by
    simp [State.filter?, inGroup]
  cases result with
  | error reason =>
      rw [Lexed.ofCursor_fault (Cursor.next_run blank isRun)]
      exact ⟨_, rfl⟩
  | ok found =>
      have refused : State.step ⟨outer, level, .comparison name comparator⟩ found = .refuse := by
        cases found with
        | integer value => exact absurd rfl (noInteger value)
        | _ => rfl
      rw [Lexed.ofCursor_lexeme (Cursor.next_run blank isRun), State.run]
      simp [refused, State.stop, unfinished]

theorem blank_nil : ∀ character ∈ ([] : List Char), isBlank character = true := nofun

theorem blank_space : ∀ character ∈ [' '], isBlank character = true :=
  List.forall_mem_singleton.mpr rfl

/-- The name with the comma is complete, and the next operand cannot follow it. -/
theorem refusedInGroup_present {name : String} (free : Tag.Name.fault? name = none)
    (starts : StartsAsOperand behind) :
    RefusedInGroup (name.toList ++ ',' :: ' ' :: behind) := by
  obtain ⟨token, further, rfl, lexable, ends, isStart⟩ := starts
  intro outer level inGroup
  have word : (Token.identifier (name ++ ",")).IsLexable := fault?_append_comma free
  have refused : State.step ⟨outer, level, .name (name ++ ",")⟩ token = .refuse := by
    rcases isStart with rfl | ⟨other, rfl⟩ <;> rfl
  have text : name.toList ++ ',' :: ' ' :: (token.text ++ further) =
      [] ++ ((Token.identifier (name ++ ",")).text ++ ([' '] ++ (token.text ++ further))) := by
    simp [Token.text]
  rw [text]
  apply State.Refuses.of_shift blank_nil word (Token.endsBefore_space _ _) rfl
  exact State.refuses_of_step blank_space lexable ends inGroup refused

theorem refusedInGroup_compare {name : String} (free : Tag.Name.fault? name = none)
    (comparator : Comparator) (literal : Int64) :
    RefusedInGroup ((comparisonText name comparator literal).toList ++ ',' :: ' ' :: behind) := by
  intro outer level inGroup
  have comma : Word.isWordCharacter ',' = true := by decide
  have isRun : IsRun [] (' ' :: behind) (Decimal.integer literal ++ [','])
      (Token.ofWord (Decimal.integer literal ++ [','])) := by
    refine .word (by simp) ?_ nofun (forall_head?_cons (by decide) _) (wordDenotes_ofWord _)
    exact List.forall_mem_append.mpr ⟨fun _ => Word.isWordCharacter_of_mem_integer,
      List.forall_mem_singleton.mpr comma⟩
  have text : (comparisonText name comparator literal).toList ++ ',' :: ' ' :: behind =
      [] ++ ((Token.identifier name).text ++ ([' '] ++ ((Token.comparator comparator).text ++
        ([' '] ++ ((Decimal.integer literal ++ [',']) ++ ' ' :: behind))))) := by
    simp [toList_comparisonText, Token.text]
  have nameLexable : (Token.identifier name).IsLexable := free
  have comparatorLexable : (Token.comparator comparator).IsLexable := trivial
  rw [text]
  apply State.Refuses.of_shift blank_nil nameLexable (Token.endsBefore_space _ _) rfl
  apply State.Refuses.of_shift blank_space comparatorLexable (Token.endsBefore_space _ _) rfl
  exact refuses_of_isRun blank_space inGroup isRun (ofWord_ne_integer (by simp))

/-- In a group, the parser does not get past the first of several operands. -/
theorem refuses_parenthesized {operands : List Filter} (several : 2 ≤ operands.length)
    (asks : ∀ operand ∈ operands, operand.Everywhere AsksForTag)
    (refused : ∀ operand ∈ operands, operand.Everywhere AsksForTag → ∀ behind,
      StartsAsOperand behind → RefusedInGroup (operand.display.toList ++ ',' :: ' ' :: behind))
    (outer : List Level) (level : Level) : State.Refuses ⟨outer, level, .start⟩
      ((parenthesized (displays operands)).toList ++ behind) := by
  obtain ⟨first, second, rest, rfl⟩ : ∃ first second rest, operands = first :: second :: rest := by
    match operands, several with
    | first :: second :: rest, _ => exact ⟨first, second, rest, rfl⟩
  let others := (rest.flatMap fun next => ',' :: ' ' :: next.display.toList) ++ ')' :: behind
  have follows : FollowsOperand others := by
    cases rest with
    | nil => exact .closeGroup behind
    | cons => exact .operand _
  have starts : StartsAsOperand (second.display.toList ++ others) :=
    startsAsOperand_display (asks second (.tail _ (.head _))).here follows
  have text : (parenthesized (displays (first :: second :: rest))).toList ++ behind =
      [] ++ (Token.openGroup.text ++ (first.display.toList ++ ',' :: ' ' ::
        (second.display.toList ++ others))) := by
    simp [toList_parenthesized_cons, others, Token.text]
  rw [text]
  by_cases room : outer.length < maximalDepth
  · have shifted : State.step ⟨outer, level, .start⟩ .openGroup =
        .shift ⟨level :: outer, .empty, .start⟩ := if_pos room
    have lexable : Token.openGroup.IsLexable := trivial
    apply State.Refuses.of_shift blank_nil lexable trivial shifted
    exact refused first (.head _) (asks first (.head _)) _ starts _ _ (List.cons_ne_nil _ _)
  · exact State.refuses_of_tooDeep (if_neg room)

theorem refusedInGroup_display {filter : Filter} (joins : filter.Everywhere JoinsSeveral)
    (asks : filter.Everywhere AsksForTag) : ∀ behind, StartsAsOperand behind →
      RefusedInGroup (filter.display.toList ++ ',' :: ' ' :: behind) := by
  induction joins with
  | present => exact fun _ => refusedInGroup_present asks.here
  | compare => exact fun _ _ => refusedInGroup_compare asks.here _ _
  | all several _ inductionHypothesis =>
      exact fun _ _ outer level _ =>
        refuses_parenthesized several asks.of_all inductionHypothesis outer level
  | any several _ inductionHypothesis =>
      exact fun _ _ outer level _ =>
        refuses_parenthesized several asks.of_any inductionHypothesis outer level

theorem exists_parse_parenthesized_eq_error {operands : List Filter}
    (several : 2 ≤ operands.length)
    (joins : ∀ operand ∈ operands, operand.Everywhere JoinsSeveral)
    (asks : ∀ operand ∈ operands, operand.Everywhere AsksForTag) :
    ∃ error, parse (parenthesized (displays operands)) = .error error := by
  have refuses : State.initial.Refuses ((parenthesized (displays operands)).toList ++ []) :=
    refuses_parenthesized several asks
      (fun operand membership => refusedInGroup_display (joins operand membership)) [] .empty
  obtain ⟨error, run⟩ := refuses 0
  rw [List.append_nil] at run
  exact ⟨error, parse_eq_error_iff.mpr (.inl run)⟩

end Runs

def IsConnective : Filter → Prop
  | all _ | any _ => True
  | present _ | compare _ _ _ => False

/-- The line that shows a filter from a text is read as that filter if it is a name or a
comparison, and is no filter at all if it is a connective. -/
theorem parse_display {text : String} {filter : Filter} (parsed : parse text = .ok filter) :
    (¬filter.IsConnective → parse filter.display = .ok filter) ∧
    (filter.IsConnective → ∃ error, parse filter.display = .error error) := by
  obtain ⟨derivation, found, -, rfl⟩ := parse_eq_ok_iff_exists_derivation.mp parsed
  obtain ⟨joins, asks⟩ := Derivation.everywhere_filter found
  generalize derivation.filter = filter at joins asks
  cases joins with
  | present =>
      exact ⟨fun _ => parse_of_items (items_of_fault?_eq_none asks.here), False.elim⟩
  | compare =>
      have blank : ∀ character ∈ " ".toList, isBlank character = true := List.all_eq_true.mp rfl
      exact ⟨fun _ => parse_comparison asks.here _ _ blank blank, False.elim⟩
  | all several below =>
      exact ⟨(absurd trivial ·),
        fun _ => exists_parse_parenthesized_eq_error several below asks.of_all⟩
  | any several below =>
      exact ⟨(absurd trivial ·),
        fun _ => exists_parse_parenthesized_eq_error several below asks.of_any⟩

/-- A comparison is read back whatever stood around it, but no connective with one in front. -/
theorem parse_display_least :
    let least := compare "a" .greaterOrEqual Int64.minValue
    (parse "(a>=-9223372036854775808)" = .ok least ∧ parse least.display = .ok least) ∧
    parse "a>=-9223372036854775808 AND (b OR c)" =
      .ok (all [least, any [present "b", present "c"]]) ∧
    ∃ error, parse (all [least, any [present "b", present "c"]]).display = .error error := by
  intro least
  have single : parse "(a>=-9223372036854775808)" = .ok least :=
    parse_eq_ok_iff_exists_derivation.mpr ⟨.alternative (.condition (.group (.alternative
      (.condition (.comparison "a" .greaterOrEqual Int64.minValue))))), by decide +kernel,
        by decide +kernel, rfl⟩
  have joined : parse "a>=-9223372036854775808 AND (b OR c)" =
      .ok (all [least, any [present "b", present "c"]]) :=
    parse_eq_ok_iff_exists_derivation.mpr ⟨.alternative (.and (.condition
      (.comparison "a" .greaterOrEqual Int64.minValue)) (.group (.or (.alternative (.condition
        (.name "b"))) (.condition (.name "c"))))), by decide +kernel, by decide +kernel, rfl⟩
  exact ⟨⟨single, (parse_display single).1 id⟩, joined, (parse_display joined).2 trivial⟩

end TagCatalog.Filter

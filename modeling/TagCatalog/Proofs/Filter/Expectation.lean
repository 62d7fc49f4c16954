import TagCatalog.Proofs.Filter.Lexing
import TagCatalog.Proofs.Filter.Recognition

/-!
# What may come next

From every state some tokens lead to acceptance (`State.follows?_completion`), so
whatever the automaton takes can go on to a filter.  The kinds of token that a
state expects are those that may follow its tokens in the grammar
(`State.mem_expected_iff`).
-/

namespace TagCatalog.Filter

/-- Whether a token of a kind, or the end of the text, may follow some tokens in
the grammar, however many groups are open. -/
def MayFollow (front : List Token) : TokenKind → Prop
  | .finish => ∃ derivation : Derivation .expression, derivation.tokens = front
  | kind => ∃ (token : Token) (more : List Token) (derivation : Derivation .expression),
      token.kind = kind ∧ derivation.tokens = front ++ token :: more

theorem mayFollow_iff {front : List Token} {kind : TokenKind} (notEnd : kind ≠ .finish) :
    MayFollow front kind ↔
      ∃ (token : Token) (more : List Token) (derivation : Derivation .expression),
        token.kind = kind ∧ derivation.tokens = front ++ token :: more := by
  cases kind <;> first | rfl | exact absurd rfl notEnd

theorem exists_kind_eq {kind : TokenKind} (notEnd : kind ≠ .finish) :
    ∃ token : Token, token.kind = kind := by
  cases kind with
  | identifier => exact ⟨.identifier "a", rfl⟩
  | integer => exact ⟨.integer 0, rfl⟩
  | comparator => exact ⟨.comparator .equal, rfl⟩
  | and => exact ⟨.and, rfl⟩
  | or => exact ⟨.or, rfl⟩
  | openGroup => exact ⟨.openGroup, rfl⟩
  | closeGroup => exact ⟨.closeGroup, rfl⟩
  | finish => exact absurd rfl notEnd

/-- Tokens behind which a phase has its condition. -/
def Phase.completion : Phase → List Token
  | start => [.identifier "a"]
  | name _ => []
  | comparison _ _ => [.integer 0]
  | complete _ => []

namespace State

variable {state next : State} {token : Token} {front tokens : List Token}

/-- Tokens that lead to acceptance: a condition, if one is missing, and the
parentheses that close all groups. -/
def completion (state : State) : List Token :=
  state.phase.completion ++ List.replicate state.outer.length .closeGroup

theorem follows?_closing {outer : List Level} {level : Level} {phase : Phase}
    {condition : Filter} (complete : phase.condition? = some condition) :
    ∃ last filter, follows? ⟨outer, level, phase⟩ (List.replicate outer.length .closeGroup) =
      some last ∧ last.filter? = some filter := by
  induction outer generalizing level phase condition with
  | nil => exact ⟨_, level.close condition, rfl, by simp [filter?, complete]⟩
  | cons around outer inductionHypothesis =>
      have closing := (Transition.closeGroup outer around level phase complete).follow?
      obtain ⟨last, filter, followed, accepts⟩ :=
        @inductionHypothesis around (.complete (level.close condition)) _ rfl
      refine ⟨last, filter, ?_, accepts⟩
      rw [List.length_cons, List.replicate_succ, follows?, closing, Option.bind_some, followed]

theorem follows?_completion (state : State) :
    ∃ last filter, state.follows? state.completion = some last ∧ last.filter? = some filter := by
  obtain ⟨outer, level, phase⟩ := state
  cases phase with
  | start =>
      obtain ⟨last, filter, followed, accepts⟩ :=
        @follows?_closing outer level (.name "a") _ rfl
      exact ⟨last, filter, followed, accepts⟩
  | name tagName => exact @follows?_closing outer level (.name tagName) _ rfl
  | comparison tagName comparator =>
      obtain ⟨last, filter, followed, accepts⟩ :=
        @follows?_closing outer level (.complete (.compare tagName comparator 0)) _ rfl
      exact ⟨last, filter, followed, accepts⟩
  | complete condition => exact @follows?_closing outer level (.complete condition) _ rfl

theorem mem_completion (membership : token ∈ state.completion) :
    token ≠ .openGroup ∧ token.IsLexable := by
  rcases List.mem_append.mp membership with inPhase | closing
  · cases phase : state.phase <;> rw [phase] at inPhase <;>
      simp only [Phase.completion, List.mem_singleton, List.not_mem_nil] at inPhase <;>
      subst inPhase
    · have free : Tag.Name.fault? "a" = none := by decide
      exact ⟨nofun, free⟩
    · exact ⟨nofun, trivial⟩
  · obtain rfl := (List.mem_replicate.mp closing).2
    exact ⟨nofun, trivial⟩

/-- A text that the automaton has followed goes on to a derivable one. -/
theorem exists_derivation_of_follows? (followed : initial.follows? front = some state) :
    ∃ derivation : Derivation .expression, derivation.tokens = front ++ state.completion := by
  obtain ⟨last, filter, completed, accepts⟩ := state.follows?_completion
  have whole : initial.follows? (front ++ state.completion) = some last := by
    rw [follows?_append, followed, Option.bind_some, completed]
  obtain ⟨derivation, tokens, -⟩ := follows?_initial_iff.mp ⟨last, whole, accepts⟩
  exact ⟨derivation, tokens⟩

theorem mem_expected_of_condition {outer : List Level} {level : Level} {phase : Phase}
    {condition : Filter} (complete : phase.condition? = some condition) {kind : TokenKind}
    (membership : kind ∈ [.and, .or, closing ⟨outer, level, phase⟩]) :
    kind ∈ expected ⟨outer, level, phase⟩ := by
  cases phase with
  | start => cases complete
  | comparison => cases complete
  | name => exact List.mem_cons_of_mem _ membership
  | complete => exact membership

theorem Transition.kind_mem_expected (transition : Transition state token next) :
    token.kind ∈ state.expected := by
  cases transition with
  | name => simp [Token.kind, expected]
  | openGroup => simp [Token.kind, expected]
  | comparator => simp [Token.kind, expected]
  | literal => simp [Token.kind, expected]
  | and _ _ _ complete => exact mem_expected_of_condition complete (by simp [Token.kind])
  | or _ _ _ complete => exact mem_expected_of_condition complete (by simp [Token.kind])
  | closeGroup _ _ _ _ complete =>
      exact mem_expected_of_condition complete (by simp [Token.kind, closing])

theorem exists_transition_of_condition {outer : List Level} {level : Level} {phase : Phase}
    {condition : Filter} (complete : phase.condition? = some condition)
    (membership : token.kind ∈ [.and, .or, closing ⟨outer, level, phase⟩]) :
    ∃ next, Transition ⟨outer, level, phase⟩ token next := by
  cases token with
  | and => exact ⟨_, .and outer level phase complete⟩
  | or => exact ⟨_, .or outer level phase complete⟩
  | closeGroup =>
      cases outer with
      | nil => simp [Token.kind, closing] at membership
      | cons around outer => exact ⟨_, .closeGroup outer around level phase complete⟩
  | _ => cases outer <;> simp [Token.kind, closing] at membership

theorem exists_transition_of_mem_expected (membership : token.kind ∈ state.expected) :
    ∃ next, Transition state token next := by
  obtain ⟨outer, level, phase⟩ := state
  cases phase with
  | start =>
      cases token with
      | identifier tagName => exact ⟨_, .name outer level tagName⟩
      | openGroup => exact ⟨_, .openGroup outer level⟩
      | _ => simp [Token.kind, expected] at membership
  | name tagName =>
      rcases List.mem_cons.mp membership with compared | others
      · cases token with
        | comparator comparator => exact ⟨_, .comparator outer level tagName comparator⟩
        | _ => cases compared
      · exact exists_transition_of_condition rfl others
  | comparison tagName comparator =>
      cases token with
      | integer literal => exact ⟨_, .literal outer level tagName comparator literal⟩
      | _ => simp [Token.kind, expected] at membership
  | complete condition => exact exists_transition_of_condition rfl membership

theorem finish_mem_expected_iff :
    .finish ∈ state.expected ↔ ∃ filter, state.filter? = some filter := by
  obtain ⟨outer, level, phase⟩ := state
  cases phase <;> cases outer <;> simp [expected, closing, filter?, Phase.condition?]

/-- The kinds that a state expects are those that may follow its tokens. -/
theorem mem_expected_iff (followed : initial.follows? front = some state) {kind : TokenKind} :
    kind ∈ state.expected ↔ MayFollow front kind := by
  constructor
  · intro membership
    by_cases atEnd : kind = .finish
    · subst atEnd
      obtain ⟨filter, accepts⟩ := finish_mem_expected_iff.mp membership
      obtain ⟨derivation, tokens, -⟩ := follows?_initial_iff.mp ⟨state, followed, accepts⟩
      exact ⟨derivation, tokens⟩
    · obtain ⟨token, rfl⟩ := exists_kind_eq atEnd
      obtain ⟨next, transition⟩ := exists_transition_of_mem_expected membership
      have longer : initial.follows? (front ++ [token]) = some next := by
        rw [follows?_append, followed, Option.bind_some, follows?, transition.follow?]
        rfl
      obtain ⟨derivation, tokens⟩ := exists_derivation_of_follows? longer
      exact (mayFollow_iff atEnd).mpr ⟨token, _, derivation, rfl, by simpa using tokens⟩
  · intro follows
    by_cases atEnd : kind = .finish
    · subst atEnd
      obtain ⟨derivation, rfl⟩ := follows
      obtain ⟨last, same, accepts⟩ := derivation.exists_follows?
      rw [followed] at same
      cases same
      exact finish_mem_expected_iff.mpr ⟨_, accepts⟩
    · obtain ⟨token, more, derivation, rfl, tokens⟩ := (mayFollow_iff atEnd).mp follows
      obtain ⟨last, whole, -⟩ := derivation.exists_follows?
      rw [tokens, follows?_append, followed, Option.bind_some] at whole
      obtain ⟨next, taken, -⟩ := Option.bind_eq_some_iff.mp whole
      exact (Transition.of_follow? taken).kind_mem_expected

end State

end TagCatalog.Filter

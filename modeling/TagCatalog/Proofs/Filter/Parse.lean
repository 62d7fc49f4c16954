import TagCatalog.Proofs.Filter.Lexing
import TagCatalog.Proofs.Filter.Run

/-!
# Parsing is derivation

`parse` accepts exactly the texts whose tokens the grammar derives with at most
`maximalDepth` groups open, and gives the filter of the derivation.  A row of
groups opens no more groups at a time than the deepest of them.
-/

namespace TagCatalog.Filter

theorem Token.kind_ne_finish (token : Token) : token.kind ≠ .finish := by
  cases token <;> nofun

theorem State.stop_eq_ok_iff {state : State} {position : Nat} {found : TokenKind}
    {parsed : Parsed} : state.stop position found = .ok parsed ↔
      ∃ filter, state.filter? = some filter ∧
        parsed = ⟨filter, position, found, state.expected⟩ := by
  unfold State.stop
  split
  next filter accepts =>
    simp only [accepts, Option.some.injEq, Except.ok.injEq, exists_eq_left']
    exact eq_comm
  next refused => simp [refused]

theorem State.Stops.of_ok {state : State} {item : Item} {parsed : Parsed}
    (stops : State.Stops state item (.ok parsed)) :
    state.filter? = some parsed.filter ∧ item.position = parsed.position ∧
      (parsed.found = .finish ↔ ∃ position, item = .finish position) ∧
      ∀ lexeme, item = .lexeme lexeme → state.step lexeme.token = .refuse := by
  generalize outcome : Except.ok parsed = stopped at stops
  cases stops with
  | finish position =>
      obtain ⟨filter, accepts, rfl⟩ := State.stop_eq_ok_iff.mp outcome.symm
      exact ⟨accepts, rfl, by simp, nofun⟩
  | fault => cases outcome
  | refuse lexeme refused =>
      obtain ⟨filter, accepts, rfl⟩ := State.stop_eq_ok_iff.mp outcome.symm
      refine ⟨accepts, rfl, by simp [lexeme.token.kind_ne_finish], ?_⟩
      rintro _ ⟨⟩
      exact refused
  | tooDeep => cases outcome

theorem parse_eq_ok_iff {text : String} {filter : Filter} : parse text = .ok filter ↔
    ∃ parsed, State.initial.run (Lexed.ofText text) = .ok parsed ∧
      parsed.found = .finish ∧ parsed.filter = filter := by
  unfold parse
  split
  next parsed run =>
    rw [run]
    simp only [Except.ok.injEq, exists_eq_left']
    by_cases complete : parsed.found = .finish <;> simp [complete]
  next run => simp [run]

theorem parsePrefix_eq_ok_iff {text : String} {filter : Filter} {position : Nat} :
    parsePrefix text = .ok (filter, position) ↔ ∃ parsed,
      State.initial.run (Lexed.ofText text) = .ok parsed ∧ parsed.filter = filter ∧
        parsed.position = position := by
  unfold parsePrefix
  cases State.initial.run (Lexed.ofText text) with
  | ok => simp [Except.map]
  | error => simp [Except.map]

/-- Parsing goes along the derivable tokens of a text. -/
theorem parse_eq_ok_iff_exists_state {text : String} {filter : Filter} :
    parse text = .ok filter ↔ ∃ tokens, (Lexed.ofText text).tokens? = some tokens ∧
      ∃ state, State.Steps .initial tokens state ∧ state.filter? = some filter := by
  rw [parse_eq_ok_iff]
  constructor
  · rintro ⟨parsed, run, complete, rfl⟩
    obtain ⟨lexemes, item, rest, last, items, steps, stops⟩ :=
      State.run_stops .initial (Lexed.ofText text)
    rw [run] at stops
    obtain ⟨accepts, -, atEnd, -⟩ := stops.of_ok
    obtain ⟨position, rfl⟩ := atEnd.mp complete
    exact ⟨_, Lexed.tokens?_of_items items, last, steps, accepts⟩
  · rintro ⟨tokens, found, state, steps, accepts⟩
    obtain ⟨position, run⟩ := State.run_of_steps found steps
    exact ⟨_, run.trans (State.stop_eq_ok_iff.mpr ⟨filter, accepts, rfl⟩), rfl, rfl⟩

theorem parse_eq_ok_iff_exists_derivation {text : String} {filter : Filter} :
    parse text = .ok filter ↔ ∃ derivation : Derivation .expression,
      (Lexed.ofText text).tokens? = some derivation.tokens ∧
        NestsWithin maximalDepth derivation.tokens ∧ derivation.filter = filter := by
  rw [parse_eq_ok_iff_exists_state]
  constructor
  · rintro ⟨tokens, found, state, steps, accepts⟩
    obtain ⟨followed, nests⟩ := State.steps_initial_iff.mp steps
    obtain ⟨derivation, rfl, rfl⟩ := State.follows?_initial_iff.mp ⟨state, followed, accepts⟩
    exact ⟨derivation, found, nests, rfl⟩
  · rintro ⟨derivation, found, nests, rfl⟩
    obtain ⟨state, followed, accepts⟩ := derivation.exists_follows?
    exact ⟨_, found, state, State.steps_initial_iff.mpr ⟨followed, nests⟩, accepts⟩

def Divides (text : String) (tokens : List Token) : Prop :=
  ∃ (lexemes : List Lexeme) (position : Nat),
    (Lexer.ofText text).remaining = lexemes.map .lexeme ++ [.finish position] ∧
      lexemes.map Lexeme.token = tokens

theorem divides_iff {text : String} {tokens : List Token} :
    Divides text tokens ↔ (Lexed.ofText text).tokens? = some tokens := by
  constructor
  · rintro ⟨lexemes, position, items, rfl⟩
    exact Lexed.tokens?_of_items items
  · exact Lexed.exists_items_of_tokens?

/-- A text is a filter if and only if its tokens are derivable and nest within
the limit; the derivation, of which there is only one, prescribes the filter.
Any number of groups may stand side by side. -/
theorem parse_eq_ok_iff_derivable (text : String) :
    (∀ filter, parse text = .ok filter ↔ ∃ derivation : Derivation .expression,
      Divides text derivation.tokens ∧ NestsWithin maximalDepth derivation.tokens ∧
        derivation.filter = filter) ∧
    Function.Injective (Derivation.tokens : Derivation .expression → List Token) ∧
    ∀ first others, (∀ other ∈ others, other.1 = .and ∨ other.1 = .or) →
      NestsWithin (maximalDepth - 1) first.tokens →
      (∀ other ∈ others, NestsWithin (maximalDepth - 1) other.2.tokens) →
      Divides text (groupRow first others) →
      ∃ filter, parse text = .ok filter := by
  simp only [divides_iff]
  refine ⟨fun _ => parse_eq_ok_iff_exists_derivation, Derivation.tokens_injective, ?_⟩
  intro first others joined firstNests othersNest found
  obtain ⟨whole, nests, tokens⟩ := Derivation.exists_row joined othersNest
    (.alternative (.condition (.group first))) (Derivation.nestsWithin_group firstNests)
  refine ⟨whole.filter, parse_eq_ok_iff_exists_derivation.mpr ⟨whole, ?_, nests, rfl⟩⟩
  rw [found, tokens]
  rfl

theorem parse_groups :
    Divides "(a) AND (b) OR (a)" (groupRow (.alternative (.condition (.name "a")))
      [(.and, .alternative (.condition (.name "b"))),
        (.or, .alternative (.condition (.name "a")))]) ∧
      ∃ filter, parse "(a) AND (b) OR (a)" = .ok filter := by
  have divided : Divides "(a) AND (b) OR (a)"
      (groupRow (.alternative (.condition (.name "a")))
        [(.and, .alternative (.condition (.name "b"))),
          (.or, .alternative (.condition (.name "a")))]) :=
    divides_iff.mpr (by decide +kernel)
  refine ⟨divided, (parse_eq_ok_iff_derivable "(a) AND (b) OR (a)").2.2 _ _ ?_ ?_ ?_ divided⟩
  · simp
  · exact nestsWithin_of_noGroup (by simp [Derivation.tokens])
  · intro other membership
    refine nestsWithin_of_noGroup ?_
    simp only [List.mem_cons, List.not_mem_nil, or_false] at membership
    rcases membership with rfl | rfl <;> simp [Derivation.tokens]

end TagCatalog.Filter

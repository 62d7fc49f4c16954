import TagCatalog.Filter.Parse
import TagCatalog.Proofs.Filter.Recognition

/-!
# Runs over divided texts

A run takes the tokens of a text up to the first item at which it stops
(`run_stops`).  `Steps` are its steps; from the initial state they are the
transitions along tokens that nest within the limit (`steps_initial_iff`).
-/

namespace TagCatalog.Filter

namespace Lexed

def tokens? : Lexed → Option (List Token)
  | finish _ => some []
  | fault _ => none
  | token lexeme rest => rest.tokens?.map fun tokens => lexeme.token :: tokens

theorem tokens?_of_items {lexed : Lexed} {lexemes : List Lexeme} {position : Nat}
    {rest : List Item} (items : lexed.items = lexemes.map .lexeme ++ .finish position :: rest) :
    lexed.tokens? = some (lexemes.map Lexeme.token) := by
  induction lexed generalizing lexemes with
  | finish =>
      cases lexemes with
      | nil => rfl
      | cons => simp [Lexed.items] at items
  | fault => cases lexemes <;> simp [Lexed.items] at items
  | token lexeme lexed inductionHypothesis =>
      cases lexemes with
      | nil => simp [Lexed.items] at items
      | cons first others =>
          simp only [Lexed.items, List.map_cons, List.cons_append, List.cons.injEq,
            Item.lexeme.injEq] at items
          obtain ⟨rfl, restItems⟩ := items
          simp [tokens?, inductionHypothesis restItems]

theorem exists_items_of_tokens? {lexed : Lexed} {tokens : List Token}
    (found : lexed.tokens? = some tokens) : ∃ (lexemes : List Lexeme) (position : Nat),
      lexed.items = lexemes.map .lexeme ++ [.finish position] ∧
        lexemes.map Lexeme.token = tokens := by
  induction lexed generalizing tokens with
  | finish position =>
      cases found
      exact ⟨[], position, rfl, rfl⟩
  | fault => cases found
  | token lexeme rest inductionHypothesis =>
      obtain ⟨others, restTokens, rfl⟩ := Option.map_eq_some_iff.mp found
      obtain ⟨lexemes, position, items, rfl⟩ := inductionHypothesis restTokens
      exact ⟨lexeme :: lexemes, position, by simp [Lexed.items, items], rfl⟩

end Lexed

namespace State

variable {state next last : State} {token : Token} {tokens : List Token}

inductive Steps : State → List Token → State → Prop where
  | nil (state : State) : Steps state [] state
  | cons {state next last : State} {token : Token} {rest : List Token} :
      state.step token = .shift next → Steps next rest last → Steps state (token :: rest) last

theorem Steps.follows? (steps : Steps state tokens last) :
    state.follows? tokens = some last := by
  induction steps with
  | nil => rfl
  | cons shifted _ inductionHypothesis =>
      rw [State.follows?, (Transition.of_step shifted).follow?, Option.bind_some,
        inductionHypothesis]

theorem Steps.openGroups_le {front part : List Token} (steps : Steps state tokens last)
    (counted : Counts state front) (bounded : state.outer.length ≤ maximalDepth)
    (isPrefix : part <+: tokens) : openGroups (front ++ part) ≤ maximalDepth := by
  induction steps generalizing front part with
  | nil =>
      rw [List.prefix_nil.mp isPrefix, List.append_nil, counted.openGroups_eq]
      exact bounded
  | @cons _ _ _ token _ shifted _ inductionHypothesis =>
      cases part with
      | nil =>
          rw [List.append_nil, counted.openGroups_eq]
          exact bounded
      | cons first others =>
          obtain ⟨rfl, others⟩ := List.cons_prefix_cons.mp isPrefix
          rw [List.append_cons]
          exact inductionHypothesis (counted.transition (.of_step shifted))
            (outer_length_le_of_step bounded shifted) others

/-- Transitions are steps as long as the limit on open groups is kept. -/
theorem steps_of_follows? {front : List Token} (counted : Counts state front)
    (bounded : ∀ part, part <+: tokens → openGroups (front ++ part) ≤ maximalDepth)
    (followed : state.follows? tokens = some last) : Steps state tokens last := by
  induction tokens generalizing state front with
  | nil =>
      cases followed
      exact .nil _
  | cons token rest inductionHypothesis =>
      obtain ⟨next, follows, others⟩ := Option.bind_eq_some_iff.mp followed
      have transition := Transition.of_follow? follows
      have nextCounted := counted.transition transition
      have nextBounded : next.outer.length ≤ maximalDepth := by
        rw [← nextCounted.openGroups_eq]
        exact bounded [token] (List.prefix_append [token] rest)
      refine .cons (transition.step nextBounded)
        (inductionHypothesis nextCounted (fun part isPrefix => ?_) others)
      rw [List.append_assoc]
      exact bounded (token :: part) (List.cons_prefix_cons.mpr ⟨rfl, isPrefix⟩)

theorem steps_initial_iff : Steps initial tokens last ↔
    initial.follows? tokens = some last ∧ NestsWithin maximalDepth tokens :=
  ⟨fun steps => ⟨steps.follows?, fun _ isPrefix =>
      steps.openGroups_le counts_initial (Nat.zero_le _) isPrefix⟩,
    fun ⟨followed, nests⟩ => steps_of_follows? counts_initial nests followed⟩

/-- How a run stops in front of an item. -/
inductive Stops (state : State) : Item → Except ParseError Parsed → Prop where
  | finish (position : Nat) : Stops state (.finish position) (state.stop position .finish)
  | fault (error : LexError) : Stops state (.fault error) (.error (.lex error))
  | refuse (lexeme : Lexeme) : state.step lexeme.token = .refuse →
      Stops state (.lexeme lexeme) (state.stop lexeme.position lexeme.token.kind)
  | tooDeep (lexeme : Lexeme) : state.step lexeme.token = .tooDeep →
      Stops state (.lexeme lexeme) (.error (.tooDeep lexeme.position))

theorem run_stops (state : State) (lexed : Lexed) :
    ∃ (lexemes : List Lexeme) (item : Item) (rest : List Item) (last : State),
    lexed.items = lexemes.map Item.lexeme ++ item :: rest ∧
      Steps state (lexemes.map Lexeme.token) last ∧ Stops last item (state.run lexed) := by
  induction lexed generalizing state with
  | finish position => exact ⟨[], _, [], state, rfl, .nil state, .finish position⟩
  | fault error => exact ⟨[], _, [], state, rfl, .nil state, .fault error⟩
  | token lexeme rest inductionHypothesis =>
      cases step : state.step lexeme.token with
      | shift next =>
          obtain ⟨lexemes, item, others, last, items, steps, stops⟩ := inductionHypothesis next
          refine ⟨lexeme :: lexemes, item, others, last, by simp [Lexed.items, items],
            .cons step steps, ?_⟩
          simpa only [run, step] using stops
      | refuse =>
          refine ⟨[], _, rest.items, state, rfl, .nil state, ?_⟩
          simpa only [run, step] using Stops.refuse lexeme step
      | tooDeep =>
          refine ⟨[], _, rest.items, state, rfl, .nil state, ?_⟩
          simpa only [run, step] using Stops.tooDeep lexeme step

/-- A run that can step along the tokens in front of an item stops there if it has to. -/
theorem Stops.run_eq {lexed : Lexed} {lexemes : List Lexeme} {item : Item} {rest : List Item}
    {result : Except ParseError Parsed} (stops : Stops last item result)
    (steps : Steps state (lexemes.map Lexeme.token) last)
    (items : lexed.items = lexemes.map Item.lexeme ++ item :: rest) :
    state.run lexed = result := by
  induction lexed generalizing state lexemes with
  | finish position =>
      cases lexemes with
      | nil =>
          cases steps
          cases items
          cases stops
          rfl
      | cons => simp [Lexed.items] at items
  | fault error =>
      cases lexemes with
      | nil =>
          cases steps
          cases items
          cases stops
          rfl
      | cons => simp [Lexed.items] at items
  | token lexeme lexed inductionHypothesis =>
      cases lexemes with
      | nil =>
          cases steps
          cases items
          cases stops with
          | refuse _ refused => simp only [run, refused]
          | tooDeep _ deep => simp only [run, deep]
      | cons first others =>
          simp only [Lexed.items, List.map_cons, List.cons_append, List.cons.injEq,
            Item.lexeme.injEq] at items
          obtain ⟨rfl, items⟩ := items
          cases steps with
          | cons shifted steps =>
              simp only [run, shifted]
              exact inductionHypothesis steps items

theorem run_of_steps {lexed : Lexed} (found : lexed.tokens? = some tokens)
    (steps : Steps state tokens last) :
    ∃ position, state.run lexed = last.stop position .finish := by
  obtain ⟨lexemes, position, items, rfl⟩ := Lexed.exists_items_of_tokens? found
  exact ⟨position, (Stops.finish position).run_eq steps items⟩

end State

end TagCatalog.Filter

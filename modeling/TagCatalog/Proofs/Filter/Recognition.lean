import TagCatalog.Proofs.Filter.Automaton

/-!
# What the automaton recognizes

Forwards, the automaton follows the tokens of every derivation and builds its
filter (`Derivation.reads`).  Backwards, a state spells the tokens on the way to
it: each level is an expression and a conjunction that go on, and the phase is
the start of an atom.  From every state some tokens lead to acceptance.
-/

namespace TagCatalog.Filter

open State

/-- What the automaton does with a text of a symbol, started where the symbol may
start: it comes behind a condition and has noted the operands before it. -/
def Reads : Symbol → List Token → List Filter → Prop
  | .atom, tokens, operands => ∃ phase condition, phase.condition? = some condition ∧
      operands = [condition] ∧
      ∀ outer level, follows? ⟨outer, level, .start⟩ tokens = some ⟨outer, level, phase⟩
  | .conjunction, tokens, operands => ∃ earlier phase condition,
      phase.condition? = some condition ∧ operands.reverse = condition :: earlier ∧
      ∀ outer alternatives, follows? ⟨outer, ⟨alternatives, []⟩, .start⟩ tokens =
        some ⟨outer, ⟨alternatives, earlier⟩, phase⟩
  | .expression, tokens, operands => ∃ level phase condition,
      phase.condition? = some condition ∧
      operands.reverse = (level.addAlternative condition).alternatives ∧
      ∀ outer, follows? ⟨outer, .empty, .start⟩ tokens = some ⟨outer, level, phase⟩

theorem Derivation.reads {symbol : Symbol} (derivation : Derivation symbol) :
    Reads symbol derivation.tokens derivation.operands := by
  induction derivation with
  | name tagName => exact ⟨.name tagName, _, rfl, rfl, fun _ _ => rfl⟩
  | comparison tagName comparator literal => exact ⟨.complete _, _, rfl, rfl, fun _ _ => rfl⟩
  | group inner inductionHypothesis =>
      obtain ⟨level, phase, condition, complete, operands, reading⟩ := inductionHypothesis
      have closes : level.close condition = chain .any inner.operands := by
        rw [Level.close, disjunction_eq_chain, ← operands, List.reverse_reverse]
      refine ⟨.complete (level.close condition), _, rfl, by rw [closes, Derivation.operands],
        fun outer around => ?_⟩
      have opens := (Transition.openGroup outer around).follow?
      have closing := (Transition.closeGroup outer around level phase complete).follow?
      rw [Derivation.tokens, List.cons_append, follows?, opens, Option.bind_some, follows?_append,
        reading, Option.bind_some, follows?, closing]
      rfl
  | condition only inductionHypothesis =>
      obtain ⟨phase, condition, complete, operands, reading⟩ := inductionHypothesis
      exact ⟨[], phase, condition, complete, by rw [Derivation.operands, operands]; rfl,
        fun outer alternatives => reading _ _⟩
  | and front last frontHypothesis lastHypothesis =>
      obtain ⟨earlier, frontPhase, frontCondition, frontComplete, frontOperands, frontReading⟩ :=
        frontHypothesis
      obtain ⟨phase, condition, complete, operands, reading⟩ := lastHypothesis
      refine ⟨frontCondition :: earlier, phase, condition, complete,
        by simp [Derivation.operands, operands, frontOperands], fun outer alternatives => ?_⟩
      have joining :=
        (Transition.and outer ⟨alternatives, earlier⟩ frontPhase frontComplete).follow?
      rw [Derivation.tokens, follows?_append, frontReading, Option.bind_some, follows?, joining,
        Option.bind_some]
      exact reading _ _
  | alternative only inductionHypothesis =>
      obtain ⟨earlier, phase, condition, complete, operands, reading⟩ := inductionHypothesis
      refine ⟨⟨[], earlier⟩, phase, condition, complete, ?_, fun outer => reading outer []⟩
      rw [Derivation.operands, Level.addAlternative, conjunction_eq_chain, ← operands,
        List.reverse_reverse]
      rfl
  | or front last frontHypothesis lastHypothesis =>
      obtain ⟨level, frontPhase, frontCondition, frontComplete, frontOperands, frontReading⟩ :=
        frontHypothesis
      obtain ⟨earlier, phase, condition, complete, operands, reading⟩ := lastHypothesis
      refine ⟨⟨front.operands.reverse, earlier⟩, phase, condition, complete, ?_,
        fun outer => ?_⟩
      · rw [Derivation.operands, Level.addAlternative, conjunction_eq_chain, ← operands,
          List.reverse_reverse, List.reverse_append]
        rfl
      · have joining := (Transition.or outer level frontPhase frontComplete).follow?
        rw [Derivation.tokens, follows?_append, frontReading, Option.bind_some, follows?, joining,
          Option.bind_some, frontOperands]
        exact reading _ _

/-- The automaton accepts every derivable text with the filter of its
derivation. -/
theorem Derivation.exists_follows? (derivation : Derivation .expression) :
    ∃ state, initial.follows? derivation.tokens = some state ∧
      state.filter? = some derivation.filter := by
  obtain ⟨level, phase, condition, complete, operands, reading⟩ := derivation.reads
  refine ⟨⟨[], level, phase⟩, reading [], ?_⟩
  simp only [filter?, List.isEmpty_nil, if_true, complete, Option.map_some, Level.close,
    disjunction_eq_chain, ← operands, List.reverse_reverse, Derivation.filter]

/-- A chain that goes on: the operands so far, latest first, and their text with
the connective behind it. -/
inductive Pending (symbol : Symbol) (connective : Token) : List Filter → List Token → Prop where
  | none : Pending symbol connective [] []
  | some (front : Derivation symbol) :
      Pending symbol connective front.operands.reverse (front.tokens ++ [connective])

theorem Pending.conjunction {conditions : List Filter} {tokens : List Token}
    (pending : Pending .conjunction .and conditions tokens) (last : Derivation .atom) :
    ∃ whole : Derivation .conjunction, whole.tokens = tokens ++ last.tokens ∧
      whole.operands.reverse = last.operands.reverse ++ conditions := by
  cases pending with
  | none => exact ⟨.condition last, rfl, by simp [Derivation.operands]⟩
  | some front =>
      exact ⟨.and front last, by simp [Derivation.tokens], by simp [Derivation.operands]⟩

theorem Pending.expression {alternatives : List Filter} {tokens : List Token}
    (pending : Pending .expression .or alternatives tokens) (last : Derivation .conjunction) :
    ∃ whole : Derivation .expression, whole.tokens = tokens ++ last.tokens ∧
      whole.operands.reverse = chain .all last.operands :: alternatives := by
  cases pending with
  | none => exact ⟨.alternative last, rfl, rfl⟩
  | some front =>
      exact ⟨.or front last, by simp [Derivation.tokens], by simp [Derivation.operands]⟩

/-- The text of a level in front of its last condition. -/
inductive Level.Spells : Level → List Token → Prop where
  | intro {alternatives conditions : List Filter} {front back : List Token} :
      Pending .expression .or alternatives front →
      Pending .conjunction .and conditions back →
      Level.Spells ⟨alternatives, conditions⟩ (front ++ back)

/-- The text of the levels around the open groups. -/
inductive OuterSpells : List Level → List Token → Prop where
  | nil : OuterSpells [] []
  | cons {level : Level} {outer : List Level} {front back : List Token} :
      OuterSpells outer front → level.Spells back →
      OuterSpells (level :: outer) (front ++ back ++ [.openGroup])

inductive Phase.Spells : Phase → List Token → Prop where
  | start : Phase.Spells .start []
  | name (tagName : String) : Phase.Spells (.name tagName) [.identifier tagName]
  | comparison (tagName : String) (comparator : Comparator) :
      Phase.Spells (.comparison tagName comparator)
        [.identifier tagName, .comparator comparator]
  | complete {condition : Filter} (atom : Derivation .atom) :
      atom.operands = [condition] → Phase.Spells (.complete condition) atom.tokens

/-- The text on the way to a state. -/
inductive State.Spells : State → List Token → Prop where
  | intro {outer : List Level} {level : Level} {phase : Phase} {front middle last : List Token} :
      OuterSpells outer front → level.Spells middle → phase.Spells last →
      State.Spells ⟨outer, level, phase⟩ (front ++ middle ++ last)

theorem Level.spells_empty : Level.empty.Spells [] := .intro .none .none

theorem Phase.Spells.exists_atom {phase : Phase} {tokens : List Token} {condition : Filter}
    (spells : phase.Spells tokens) (complete : phase.condition? = some condition) :
    ∃ atom : Derivation .atom, atom.tokens = tokens ∧ atom.operands = [condition] := by
  cases spells with
  | start => cases complete
  | name tagName =>
      cases complete
      exact ⟨.name tagName, rfl, rfl⟩
  | comparison => cases complete
  | complete atom operands =>
      cases complete
      exact ⟨atom, rfl, operands⟩

section Level

variable {level : Level} {tokens : List Token} {condition : Filter} {atom : Derivation .atom}

theorem Level.Spells.addCondition (spells : level.Spells tokens)
    (operands : atom.operands = [condition]) :
    (level.addCondition condition).Spells (tokens ++ atom.tokens ++ [.and]) := by
  cases spells with
  | intro alternativesText conditionsText =>
      obtain ⟨whole, wholeTokens, wholeOperands⟩ := conditionsText.conjunction atom
      have pending : Pending .conjunction .and _ _ := .some whole
      rw [wholeTokens, wholeOperands, operands] at pending
      simpa [Level.addCondition] using Level.Spells.intro alternativesText pending

theorem Level.Spells.addAlternative (spells : level.Spells tokens)
    (operands : atom.operands = [condition]) :
    ∃ whole : Derivation .expression, whole.tokens = tokens ++ atom.tokens ∧
      whole.operands.reverse = (level.addAlternative condition).alternatives := by
  cases spells with
  | intro alternativesText conditionsText =>
      obtain ⟨last, lastTokens, lastOperands⟩ := conditionsText.conjunction atom
      obtain ⟨whole, wholeTokens, wholeOperands⟩ := alternativesText.expression last
      refine ⟨whole, by simp [wholeTokens, lastTokens], ?_⟩
      rw [wholeOperands, Level.addAlternative, conjunction_eq_chain, ← List.reverse_reverse
        last.operands, lastOperands, operands]
      rfl

theorem Level.Spells.close (spells : level.Spells tokens)
    (operands : atom.operands = [condition]) :
    ∃ whole : Derivation .expression, whole.tokens = tokens ++ atom.tokens ∧
      whole.filter = level.close condition := by
  obtain ⟨whole, wholeTokens, wholeOperands⟩ := spells.addAlternative operands
  refine ⟨whole, wholeTokens, ?_⟩
  rw [Level.close, disjunction_eq_chain, ← wholeOperands, List.reverse_reverse,
    Derivation.filter]

end Level

namespace State

variable {state next : State} {token : Token} {tokens : List Token}

theorem spells_initial : initial.Spells [] := .intro .nil Level.spells_empty .start

theorem Spells.transition (spells : state.Spells tokens)
    (transition : Transition state token next) : next.Spells (tokens ++ [token]) := by
  cases spells with
  | @intro outer level phase front middle last outerText levelText phaseText =>
      cases transition with
      | name _ _ tagName =>
          cases phaseText
          simpa using Spells.intro outerText levelText (.name tagName)
      | openGroup =>
          cases phaseText
          simpa using Spells.intro (.cons outerText levelText) Level.spells_empty .start
      | comparator _ _ tagName comparator =>
          cases phaseText
          simpa using Spells.intro outerText levelText (.comparison tagName comparator)
      | literal _ _ tagName comparator literal =>
          cases phaseText
          simpa [Derivation.tokens] using Spells.intro outerText levelText
            (.complete (.comparison tagName comparator literal) rfl)
      | and _ _ _ complete =>
          obtain ⟨atom, rfl, operands⟩ := phaseText.exists_atom complete
          simpa using Spells.intro outerText (levelText.addCondition operands) .start
      | or _ _ _ complete =>
          obtain ⟨atom, rfl, operands⟩ := phaseText.exists_atom complete
          obtain ⟨whole, wholeTokens, wholeOperands⟩ := levelText.addAlternative operands
          have pending : Pending .expression .or _ _ := .some whole
          rw [wholeTokens, wholeOperands] at pending
          have levelText : (level.addAlternative _).Spells _ := .intro pending .none
          simpa using Spells.intro outerText levelText .start
      | closeGroup _ _ _ _ complete =>
          obtain ⟨atom, rfl, operands⟩ := phaseText.exists_atom complete
          obtain ⟨whole, wholeTokens, wholeFilter⟩ := levelText.close operands
          -- The expression of the level is now an atom of the level around it.
          cases outerText with
          | cons outerText aroundText =>
              have group : (Phase.complete whole.filter).Spells _ := .complete (.group whole) rfl
              rw [wholeFilter] at group
              simpa [Derivation.tokens, wholeTokens] using
                Spells.intro outerText aroundText group

theorem Spells.follows? {rest : List Token} (spells : state.Spells tokens)
    (followed : state.follows? rest = some next) : next.Spells (tokens ++ rest) := by
  induction rest generalizing state tokens with
  | nil =>
      cases followed
      simpa using spells
  | cons token rest inductionHypothesis =>
      obtain ⟨middle, step, others⟩ := Option.bind_eq_some_iff.mp followed
      simpa using inductionHypothesis (spells.transition (.of_follow? step)) others

/-- Where the automaton accepts, the text of the state is derivable. -/
theorem Spells.exists_derivation {filter : Filter} (spells : state.Spells tokens)
    (accepts : state.filter? = some filter) :
    ∃ derivation : Derivation .expression,
      derivation.tokens = tokens ∧ derivation.filter = filter := by
  cases spells with
  | intro outerText levelText phaseText =>
      unfold filter? at accepts
      split at accepts
      next top =>
        simp only [List.isEmpty_iff] at top
        subst top
        cases outerText
        obtain ⟨condition, complete, rfl⟩ := Option.map_eq_some_iff.mp accepts
        obtain ⟨atom, rfl, operands⟩ := phaseText.exists_atom complete
        simpa using levelText.close operands
      next => cases accepts

/-- The automaton accepts the derivable texts, each with the filter of its
derivation. -/
theorem follows?_initial_iff {filter : Filter} :
    (∃ state, initial.follows? tokens = some state ∧ state.filter? = some filter) ↔
      ∃ derivation : Derivation .expression,
        derivation.tokens = tokens ∧ derivation.filter = filter := by
  constructor
  · rintro ⟨state, followed, accepts⟩
    exact (spells_initial.follows? followed).exists_derivation accepts
  · rintro ⟨derivation, rfl, rfl⟩
    exact derivation.exists_follows?

end State

end TagCatalog.Filter

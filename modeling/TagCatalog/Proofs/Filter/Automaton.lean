import TagCatalog.Proofs.Filter.Grammar

/-!
# The automaton and the grammar

`State.follow?` is a step without the limit on open groups, and `Transition`
lists what such a step can do.  A step with the limit does the same as long as
there is room for the group that it opens (`Transition.step`).  The levels
around a state count the groups that are open.
-/

namespace TagCatalog.Filter

theorem chain_of_two_le {connective : List Filter → Filter} {operands : List Filter}
    (long : 2 ≤ operands.length) : chain connective operands = connective operands := by
  cases operands with
  | nil => rfl
  | cons first rest =>
      cases rest with
      | nil => simp at long
      | cons => rfl

theorem conjunction_eq_chain (conditions : List Filter) :
    conjunction conditions = chain .all conditions.reverse := by
  match conditions with
  | [] => rfl
  | [_] => rfl
  | _ :: _ :: _ =>
      rw [chain_of_two_le]
      · rfl
      · simp

theorem disjunction_eq_chain (alternatives : List Filter) :
    disjunction alternatives = chain .any alternatives.reverse := by
  match alternatives with
  | [] => rfl
  | [_] => rfl
  | _ :: _ :: _ =>
      rw [chain_of_two_le]
      · rfl
      · simp

namespace State

variable {state next : State} {token : Token} {tokens : List Token}

/-- The state behind a token, however many groups are open. -/
def follow? (state : State) (token : Token) : Option State :=
  match state.step token with
  | .shift next => some next
  | .refuse => none
  | .tooDeep => some ⟨state.level :: state.outer, .empty, .start⟩

def follows? (state : State) : List Token → Option State
  | [] => some state
  | token :: rest => (state.follow? token).bind fun next => next.follows? rest

theorem follows?_append (state : State) (front back : List Token) :
    state.follows? (front ++ back) =
      (state.follows? front).bind fun next => next.follows? back := by
  induction front generalizing state with
  | nil => rfl
  | cons token rest inductionHypothesis =>
      simp only [List.cons_append, follows?]
      cases state.follow? token with
      | none => rfl
      | some next => exact inductionHypothesis next

inductive Transition : State → Token → State → Prop where
  | name (outer : List Level) (level : Level) (tagName : String) :
      Transition ⟨outer, level, .start⟩ (.identifier tagName) ⟨outer, level, .name tagName⟩
  | openGroup (outer : List Level) (level : Level) :
      Transition ⟨outer, level, .start⟩ .openGroup ⟨level :: outer, .empty, .start⟩
  | comparator (outer : List Level) (level : Level) (tagName : String)
      (comparator : Comparator) :
      Transition ⟨outer, level, .name tagName⟩ (.comparator comparator)
        ⟨outer, level, .comparison tagName comparator⟩
  | literal (outer : List Level) (level : Level) (tagName : String) (comparator : Comparator)
      (literal : Int64) :
      Transition ⟨outer, level, .comparison tagName comparator⟩ (.integer literal)
        ⟨outer, level, .complete (.compare tagName comparator literal)⟩
  | and (outer : List Level) (level : Level) (phase : Phase) {condition : Filter}
      (complete : phase.condition? = some condition) :
      Transition ⟨outer, level, phase⟩ .and ⟨outer, level.addCondition condition, .start⟩
  | or (outer : List Level) (level : Level) (phase : Phase) {condition : Filter}
      (complete : phase.condition? = some condition) :
      Transition ⟨outer, level, phase⟩ .or ⟨outer, level.addAlternative condition, .start⟩
  | closeGroup (outer : List Level) (around level : Level) (phase : Phase) {condition : Filter}
      (complete : phase.condition? = some condition) :
      Transition ⟨around :: outer, level, phase⟩ .closeGroup
        ⟨outer, around, .complete (level.close condition)⟩

theorem Transition.of_continueWith {outer : List Level} {level : Level} {phase : Phase}
    {condition : Filter} (complete : phase.condition? = some condition)
    (continued : continueWith outer level condition token = .shift next) :
    Transition ⟨outer, level, phase⟩ token next := by
  cases token with
  | and =>
      cases continued
      exact .and outer level phase complete
  | or =>
      cases continued
      exact .or outer level phase complete
  | closeGroup =>
      cases outer with
      | nil => simp [continueWith] at continued
      | cons around rest =>
          cases continued
          exact .closeGroup rest around level phase complete
  | identifier => simp [continueWith] at continued
  | integer => simp [continueWith] at continued
  | comparator => simp [continueWith] at continued
  | openGroup => simp [continueWith] at continued

theorem continueWith_ne_tooDeep (outer : List Level) (level : Level) (condition : Filter)
    (token : Token) : continueWith outer level condition token ≠ .tooDeep := by
  unfold continueWith
  split <;> try simp
  split <;> simp

/-- Behind a condition only a comparator behind a bare name does not go on with
the chain. -/
theorem step_of_condition {outer : List Level} {level : Level} {phase : Phase}
    {condition : Filter} (complete : phase.condition? = some condition)
    (noComparator : ∀ comparator, token ≠ .comparator comparator) :
    step ⟨outer, level, phase⟩ token = continueWith outer level condition token := by
  cases phase with
  | start => simp [Phase.condition?] at complete
  | comparison => simp [Phase.condition?] at complete
  | complete found =>
      cases complete
      rfl
  | name tagName =>
      cases complete
      cases token <;> first | rfl | exact absurd rfl (noComparator _)

theorem continueWith_of_follow? {outer : List Level} {level : Level} {phase : Phase}
    {condition : Filter} (complete : phase.condition? = some condition)
    (noComparator : ∀ comparator, token ≠ .comparator comparator)
    (followed : follow? ⟨outer, level, phase⟩ token = some next) :
    continueWith outer level condition token = .shift next := by
  unfold follow? at followed
  rw [step_of_condition complete noComparator] at followed
  split at followed
  next continued =>
    cases followed
    exact continued
  next => cases followed
  next tooDeep => exact absurd tooDeep (continueWith_ne_tooDeep _ _ _ _)

theorem Transition.of_follow? (followed : state.follow? token = some next) :
    Transition state token next := by
  obtain ⟨outer, level, phase⟩ := state
  cases phase with
  | start =>
      cases token with
      | identifier tagName =>
          cases followed
          exact .name outer level tagName
      | openGroup =>
          simp only [State.follow?, step, State.openGroup] at followed
          split at followed
          next opened =>
            split at opened <;> cases opened
            cases followed
            exact .openGroup outer level
          next refused => split at refused <;> cases refused
          next =>
            cases followed
            exact .openGroup outer level
      | _ => simp [State.follow?, step] at followed
  | comparison tagName comparator =>
      cases token with
      | integer literal =>
          cases followed
          exact .literal outer level tagName comparator literal
      | _ => simp [State.follow?, step] at followed
  | name tagName =>
      by_cases compared : ∃ comparator, token = .comparator comparator
      · obtain ⟨comparator, rfl⟩ := compared
        cases followed
        exact .comparator outer level tagName comparator
      · exact .of_continueWith rfl
          (continueWith_of_follow? rfl (by simpa using compared) followed)
  | complete condition =>
      by_cases compared : ∃ comparator, token = .comparator comparator
      · obtain ⟨comparator, rfl⟩ := compared
        cases followed
      · exact .of_continueWith rfl
          (continueWith_of_follow? rfl (by simpa using compared) followed)

theorem Transition.follow? (transition : Transition state token next) :
    state.follow? token = some next := by
  cases transition with
  | name => rfl
  | comparator => rfl
  | literal => rfl
  | openGroup outer level =>
      simp only [State.follow?, step, State.openGroup]
      split
      next opened => split at opened <;> cases opened; rfl
      next refused => split at refused <;> cases refused
      next => rfl
  | and outer level phase complete =>
      simp [State.follow?, step_of_condition complete, continueWith]
  | or outer level phase complete =>
      simp [State.follow?, step_of_condition complete, continueWith]
  | closeGroup outer around level phase complete =>
      simp [State.follow?, step_of_condition complete, continueWith]

theorem Transition.of_step (shifted : state.step token = .shift next) :
    Transition state token next :=
  .of_follow? (by rw [State.follow?, shifted])

theorem follow?_of_refuse (refused : state.step token = .refuse) :
    state.follow? token = none := by
  rw [follow?, refused]

/-- The limit concerns nothing but the opening of a group where an atom may
start. -/
theorem of_step_eq_tooDeep (deep : state.step token = .tooDeep) :
    token = .openGroup ∧ state.phase = .start ∧ maximalDepth ≤ state.outer.length := by
  have followed : state.follow? token = some ⟨state.level :: state.outer, .empty, .start⟩ := by
    rw [follow?, deep]
  cases Transition.of_follow? followed with
  | openGroup outer level =>
      simp only [step, State.openGroup] at deep
      split at deep
      next => cases deep
      next full => exact ⟨rfl, rfl, Nat.le_of_not_lt full⟩

theorem Transition.step (transition : Transition state token next)
    (bounded : next.outer.length ≤ maximalDepth) : state.step token = .shift next := by
  have followed := transition.follow?
  unfold State.follow? at followed
  split at followed
  next shifted =>
    cases followed
    exact shifted
  next => cases followed
  next deep =>
    obtain ⟨-, -, full⟩ := of_step_eq_tooDeep deep
    cases followed
    simp only [List.length_cons] at bounded
    omega

theorem outer_length_le_of_step (bounded : state.outer.length ≤ maximalDepth)
    (shifted : state.step token = .shift next) : next.outer.length ≤ maximalDepth := by
  cases Transition.of_step shifted with
  | openGroup outer level =>
      simp only [step, State.openGroup] at shifted
      split at shifted
      next room => exact room
      next => cases shifted
  | closeGroup outer around level phase complete =>
      exact Nat.le_of_succ_le bounded
  | _ => exact bounded

/-- The levels around a state are the groups that some tokens leave open. -/
def Counts (state : State) (tokens : List Token) : Prop :=
  tokens.count .openGroup = tokens.count .closeGroup + state.outer.length

theorem counts_initial : Counts initial [] := rfl

theorem Counts.openGroups_eq (counted : Counts state tokens) :
    openGroups tokens = state.outer.length := by
  unfold Counts at counted
  unfold openGroups
  omega

theorem Counts.transition (counted : Counts state tokens)
    (transition : Transition state token next) : Counts next (tokens ++ [token]) := by
  unfold Counts at counted ⊢
  cases transition <;> simp at counted ⊢ <;> omega

end State

end TagCatalog.Filter

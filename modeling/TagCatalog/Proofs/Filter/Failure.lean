import TagCatalog.Proofs.Filter.Expectation
import TagCatalog.Proofs.Filter.Parse
import TagCatalog.Proofs.Filter.Rendering

/-!
# Where and why parsing fails

A text that is not parsed is blamed at its leftmost item behind which nothing
can be parsed any more: the tokens before that item begin a text that is parsed,
and with it they do not.  The error says what that item is and what may stand in
its place (`exists_failure_of_parse`).
-/

namespace TagCatalog.Filter

open Text

/-- Whether some tokens are the first of a text that is parsed. -/
def Viable (tokens : List Token) : Prop :=
  ∃ text filter more, parse text = .ok filter ∧
    (Lexed.ofText text).tokens? = some (tokens ++ more)

/-- Whether an item stands behind some tokens in a text that is parsed. -/
def Continues (front : List Token) : Item → Prop
  | .lexeme found => Viable (front ++ [found.token])
  | .finish _ => ∃ text filter, parse text = .ok filter ∧
      (Lexed.ofText text).tokens? = some front
  | .fault _ => False

structure Expects (front : List Token) (expected : List TokenKind) : Prop where
  nodup : expected.Nodup
  mem_iff : ∀ kind, kind ∈ expected ↔ MayFollow front kind
  comparator : .comparator ∈ expected ↔ ∃ name, front.getLast? = some (.identifier name)
  closeGroup : .closeGroup ∈ expected → 0 < openGroups front
  finish : .finish ∈ expected → openGroups front = 0

/-- What an error says about the item behind some tokens. -/
inductive Blames (front : List Token) : Item → ParseError → Prop where
  | fault (error : LexError) : Blames front (.fault error) (.lex error)
  | tooDeep (position : Nat) :
      MayFollow front .openGroup → openGroups front = maximalDepth →
      Blames front (.lexeme ⟨position, .openGroup⟩) (.tooDeep position)
  | unexpected (found : Lexeme) {expected : List TokenKind} :
      Expects front expected → ¬MayFollow front found.token.kind →
      Blames front (.lexeme found) (.unexpected found.position expected found.token.kind)
  | unfinished (position : Nat) {expected : List TokenKind} :
      Expects front expected → ¬MayFollow front .finish →
      Blames front (.finish position) (.unexpected position expected .finish)

/-- The item of a text at which parsing fails with an error, and the tokens in
front of it. -/
structure Failure (text : String) (error : ParseError) (front : List Lexeme) (item : Item) :
    Prop where
  items : ∃ rest, (Lexer.ofText text).remaining = front.map .lexeme ++ item :: rest
  viable : Viable (front.map Lexeme.token)
  stuck : ¬Continues (front.map Lexeme.token) item
  blames : Blames (front.map Lexeme.token) item error
  position_eq : error.position = item.position
  position_le : error.position ≤ text.utf8ByteSize
  isBoundary : IsBoundary text error.position

theorem Blames.position_eq {front : List Token} {item : Item} {error : ParseError}
    (blames : Blames front item error) : error.position = item.position := by
  cases blames <;> rfl

theorem parse_eq_error_iff {text : String} {error : ParseError} :
    parse text = .error error ↔
      State.initial.run (Lexed.ofText text) = .error error ∨
      ∃ parsed, State.initial.run (Lexed.ofText text) = .ok parsed ∧ parsed.found ≠ .finish ∧
        error = .unexpected parsed.position parsed.expected parsed.found := by
  unfold parse
  split
  next parsed run =>
    rw [run]
    by_cases complete : parsed.found = .finish
    · simp [complete]
    · simp only [complete, if_false, Except.error.injEq, reduceCtorEq, Except.ok.injEq,
        exists_eq_left', false_or, ne_eq, not_false_eq_true, true_and]
      exact eq_comm
  next other run => simp [run]

namespace State

variable {state : State} {front : List Token}

theorem nodup_expected (state : State) : state.expected.Nodup := by
  obtain ⟨outer, level, phase⟩ := state
  cases phase <;> cases outer <;> simp [expected, closing]

theorem closeGroup_mem_expected (membership : .closeGroup ∈ state.expected) :
    0 < state.outer.length := by
  obtain ⟨outer, level, phase⟩ := state
  cases phase <;> cases outer <;> simp [expected, closing] at membership ⊢

theorem finish_mem_expected (membership : .finish ∈ state.expected) :
    state.outer.length = 0 := by
  obtain ⟨outer, level, phase⟩ := state
  cases phase <;> cases outer <;> simp [expected, closing] at membership ⊢

theorem comparator_mem_expected_iff :
    .comparator ∈ state.expected ↔ ∃ name, state.phase = .name name := by
  obtain ⟨outer, level, phase⟩ := state
  cases phase <;> cases outer <;> simp [expected, closing]

theorem Transition.phase_eq_name_iff {next : State} {token : Token} {name : String}
    (transition : Transition state token next) :
    next.phase = .name name ↔ token = .identifier name := by
  cases transition <;> simp

theorem phase_eq_name_iff (followed : initial.follows? front = some state) (name : String) :
    state.phase = .name name ↔ front.getLast? = some (.identifier name) := by
  cases reversed : front.reverse with
  | nil =>
      obtain rfl := List.reverse_eq_nil_iff.mp reversed
      cases followed
      simp [initial]
  | cons last earlier =>
      obtain rfl := List.reverse_eq_cons_iff.mp reversed
      rw [follows?_append] at followed
      obtain ⟨middle, -, step⟩ := Option.bind_eq_some_iff.mp followed
      obtain ⟨next, taken, stays⟩ := Option.bind_eq_some_iff.mp step
      cases stays
      simpa using (Transition.of_follow? taken).phase_eq_name_iff

theorem Counts.follows? {tokens : List Token} {last : State} (counted : Counts state front)
    (followed : state.follows? tokens = some last) : Counts last (front ++ tokens) := by
  induction tokens generalizing state front with
  | nil =>
      cases followed
      simpa using counted
  | cons token rest inductionHypothesis =>
      obtain ⟨next, step, others⟩ := Option.bind_eq_some_iff.mp followed
      simpa using inductionHypothesis (counted.transition (.of_follow? step)) others

theorem openGroups_of_follows? (followed : initial.follows? front = some state) :
    openGroups front = state.outer.length :=
  (counts_initial.follows? followed).openGroups_eq

theorem expects_of_follows? (followed : initial.follows? front = some state) :
    Expects front state.expected where
  nodup := state.nodup_expected
  mem_iff _ := mem_expected_iff followed
  comparator := by simp only [comparator_mem_expected_iff, phase_eq_name_iff followed]
  closeGroup membership := by
    rw [openGroups_of_follows? followed]
    exact closeGroup_mem_expected membership
  finish membership := by
    rw [openGroups_of_follows? followed]
    exact finish_mem_expected membership

/-- Tokens that the automaton takes within the limit begin a text that is
parsed: the limit is kept while all groups are closed. -/
theorem Steps.viable (steps : Steps initial front state)
    (lexable : ∀ token ∈ front, token.IsLexable) : Viable front := by
  obtain ⟨followed, nests⟩ := steps_initial_iff.mp steps
  obtain ⟨derivation, tokens⟩ := exists_derivation_of_follows? followed
  have allLexable : ∀ token ∈ front ++ state.completion, token.IsLexable := by
    intro token membership
    rcases List.mem_append.mp membership with inFront | inCompletion
    · exact lexable token inFront
    · exact (mem_completion inCompletion).2
  obtain ⟨text, found⟩ := exists_text_of_isLexable allLexable
  have wholeNests : NestsWithin maximalDepth (front ++ state.completion) :=
    nests.append_noGroup fun membership => (mem_completion membership).1 rfl
  refine ⟨text, derivation.filter, state.completion, ?_, found⟩
  refine parse_eq_ok_iff_exists_derivation.mpr ⟨derivation, ?_, ?_, rfl⟩
  · rw [found, tokens]
  · rw [tokens]
    exact wholeNests

/-- A token behind which parsing can go on is a step of the automaton. -/
theorem Steps.exists_shift_of_viable {token : Token} (steps : Steps initial front state)
    (viable : Viable (front ++ [token])) : ∃ next, state.step token = .shift next := by
  obtain ⟨text, filter, more, parsed, found⟩ := viable
  obtain ⟨tokens, sameFound, last, whole, -⟩ := parse_eq_ok_iff_exists_state.mp parsed
  rw [found] at sameFound
  cases sameFound
  obtain ⟨followed, nests⟩ := steps_initial_iff.mp whole
  rw [List.append_assoc, follows?_append, steps.follows?, Option.bind_some] at followed
  obtain ⟨next, taken, -⟩ := Option.bind_eq_some_iff.mp followed
  have transition := Transition.of_follow? taken
  refine ⟨next, transition.step ?_⟩
  have counted := (counts_initial.follows? steps.follows?).transition transition
  rw [← counted.openGroups_eq]
  exact nests _ ⟨more, by simp⟩

theorem Steps.accepts_of_continues {position : Nat} (steps : Steps initial front state)
    (continued : Continues front (.finish position)) :
    ∃ filter, state.filter? = some filter := by
  obtain ⟨text, filter, parsed, found⟩ := continued
  obtain ⟨tokens, sameFound, last, whole, accepts⟩ := parse_eq_ok_iff_exists_state.mp parsed
  rw [found] at sameFound
  cases sameFound
  have same := steps.follows?
  rw [whole.follows?] at same
  cases same
  exact ⟨filter, accepts⟩

theorem stop_eq_error {position : Nat} {found : TokenKind} {error : ParseError}
    (stopped : state.stop position found = .error error) :
    state.filter? = none ∧ error = .unexpected position state.expected found := by
  unfold stop at stopped
  split at stopped
  next => cases stopped
  next refused =>
    cases stopped
    exact ⟨refused, rfl⟩

/-- The error of a text whose run stops in front of an item. -/
inductive Reports (state : State) : Item → ParseError → Prop where
  | fault (error : LexError) : Reports state (.fault error) (.lex error)
  | finish (position : Nat) : state.filter? = none →
      Reports state (.finish position) (.unexpected position state.expected .finish)
  | refuse (found : Lexeme) : state.step found.token = .refuse →
      Reports state (.lexeme found)
        (.unexpected found.position state.expected found.token.kind)
  | tooDeep (found : Lexeme) : state.step found.token = .tooDeep →
      Reports state (.lexeme found) (.tooDeep found.position)

theorem Stops.reports {text : String} {item : Item} {error : ParseError}
    (stops : Stops state item (initial.run (Lexed.ofText text)))
    (failed : parse text = .error error) : Reports state item error := by
  have outcome := parse_eq_error_iff.mp failed
  -- A run that has stopped on a filter fails afterwards, for what is left.
  generalize initial.run (Lexed.ofText text) = result at stops outcome
  cases stops with
  | finish position =>
      rcases outcome with stopped | ⟨parsed, stopped, incomplete, -⟩
      · obtain ⟨refused, rfl⟩ := stop_eq_error stopped
        exact .finish position refused
      · obtain ⟨filter, -, rfl⟩ := stop_eq_ok_iff.mp stopped
        exact absurd rfl incomplete
  | fault found =>
      rcases outcome with stopped | ⟨parsed, stopped, -⟩ <;> cases stopped
      exact .fault found
  | refuse found refused =>
      rcases outcome with stopped | ⟨parsed, stopped, -, rfl⟩
      · obtain ⟨-, rfl⟩ := stop_eq_error stopped
        exact .refuse found refused
      · obtain ⟨filter, -, rfl⟩ := stop_eq_ok_iff.mp stopped
        exact .refuse found refused
  | tooDeep found deep =>
      rcases outcome with stopped | ⟨parsed, stopped, -⟩ <;> cases stopped
      exact .tooDeep found deep

theorem Reports.parse_eq {state : State} {text : String} {lexemes : List Lexeme} {item : Item}
    {rest : List Item} {error : ParseError} (reports : Reports state item error)
    (steps : Steps initial (lexemes.map Lexeme.token) state)
    (items : (Lexed.ofText text).items = lexemes.map .lexeme ++ item :: rest) :
    parse text = .error error := by
  apply parse_eq_error_iff.mpr
  cases reports with
  | fault error => exact .inl ((Stops.fault error).run_eq steps items)
  | finish position refused =>
      rw [(Stops.finish position).run_eq steps items]
      simp [stop, refused]
  | refuse found refused =>
      rw [(Stops.refuse found refused).run_eq steps items]
      cases accepts : state.filter? with
      | none => simp [stop, accepts]
      | some filter => simp [stop, accepts, found.token.kind_ne_finish]
  | tooDeep found deep => exact .inl ((Stops.tooDeep found deep).run_eq steps items)

/-- The item at which a run stops with an error is to blame for it. -/
theorem Steps.blames {item : Item} {error : ParseError} (steps : Steps initial front state)
    (reports : Reports state item error) : ¬Continues front item ∧ Blames front item error := by
  have followed := steps.follows?
  have expects := expects_of_follows? followed
  cases reports with
  | fault found => exact ⟨id, .fault found⟩
  | finish position refused =>
      constructor
      · intro continued
        obtain ⟨filter, accepts⟩ := steps.accepts_of_continues continued
        rw [refused] at accepts
        cases accepts
      · refine .unfinished position expects fun mayFollow => ?_
        obtain ⟨filter, accepts⟩ :=
          finish_mem_expected_iff.mp ((expects.mem_iff .finish).mpr mayFollow)
        rw [refused] at accepts
        cases accepts
  | refuse found refused =>
      constructor
      · intro continued
        obtain ⟨next, shifted⟩ := steps.exists_shift_of_viable continued
        rw [refused] at shifted
        cases shifted
      · refine .unexpected found expects fun mayFollow => ?_
        obtain ⟨next, transition⟩ :=
          exists_transition_of_mem_expected ((expects.mem_iff found.token.kind).mpr mayFollow)
        have taken := transition.follow?
        rw [follow?_of_refuse refused] at taken
        cases taken
  | tooDeep found deep =>
      constructor
      · intro continued
        obtain ⟨next, shifted⟩ := steps.exists_shift_of_viable continued
        rw [deep] at shifted
        cases shifted
      · obtain ⟨position, token⟩ := found
        obtain ⟨rfl, starts, full⟩ := of_step_eq_tooDeep deep
        have bound := (steps_initial_iff.mp steps).2 front (List.prefix_refl front)
        rw [openGroups_of_follows? followed] at bound
        refine .tooDeep position ((expects.mem_iff .openGroup).mp ?_) ?_
        · simp [expected, starts]
        · rw [openGroups_of_follows? followed]
          exact Nat.le_antisymm bound full

end State

/-- A text that is not parsed has a leftmost item behind which no text is
parsed, and the error is about that item. -/
theorem exists_failure_of_parse {text : String} {error : ParseError}
    (failed : parse text = .error error) : ∃ front item, Failure text error front item := by
  obtain ⟨front, item, rest, state, items, steps, stops⟩ :=
    State.run_stops .initial (Lexed.ofText text)
  have lexable : ∀ token ∈ front.map Lexeme.token, token.IsLexable := by
    intro token membership
    obtain ⟨lexeme, inFront, rfl⟩ := List.mem_map.mp membership
    have membership : .lexeme lexeme ∈ (Lexed.ofText text).items := by
      rw [items]
      exact List.mem_append_left _ (List.mem_map_of_mem inFront)
    exact Lexed.isLexable_of_mem_items membership
  obtain ⟨stuck, blames⟩ := steps.blames (stops.reports failed)
  have boundary : IsBoundary text error.position := by
    rw [blames.position_eq]
    exact Lexed.isBoundary_of_mem_items (by simp [items])
  exact ⟨front, item, ⟨rest, items⟩, steps.viable lexable, stuck, blames, blames.position_eq,
    boundary.le, boundary⟩

theorem exists_failure_unfinished :
    parse "a AND" = .error (.unexpected 5 [.identifier, .openGroup] .finish) ∧
      ∃ front item,
        Failure "a AND" (.unexpected 5 [.identifier, .openGroup] .finish) front item := by
  have decided : (match parse "a AND" with
      | .error error => decide (error = .unexpected 5 [.identifier, .openGroup] .finish)
      | .ok _ => false) = true := by
    decide +kernel
  have failed : parse "a AND" = .error (.unexpected 5 [.identifier, .openGroup] .finish) := by
    generalize parse "a AND" = outcome at decided
    cases outcome with
    | error => exact congrArg Except.error (of_decide_eq_true decided)
    | ok => cases decided
  exact ⟨failed, exists_failure_of_parse failed⟩

end TagCatalog.Filter

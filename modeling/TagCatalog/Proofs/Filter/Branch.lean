import TagCatalog.Proofs.Filter.RoundTrip

/-!
# How deep filters from texts are

A group of a text may be a disjunction with a conjunction below it, and nothing else stands
between two groups.  So the branches of a filter are at most twice as long as its groups
nest deep (`Branch.length_le`), and no text nests its groups less deep than the filter
that it gives.
-/

namespace TagCatalog.Filter

/-- The way from a filter down to a leaf, with the connectives that it passes. -/
inductive Branch : Filter → List Filter → Prop where
  | present {name : String} : Branch (.present name) []
  | compare {name : String} {comparator : Comparator} {literal : Int64} :
      Branch (.compare name comparator literal) []
  | all {conditions passed : List Filter} {condition : Filter} :
      condition ∈ conditions → Branch condition passed →
      Branch (.all conditions) (.all conditions :: passed)
  | any {alternatives passed : List Filter} {alternative : Filter} :
      alternative ∈ alternatives → Branch alternative passed →
      Branch (.any alternatives) (.any alternatives :: passed)

/-- Where a connective stands as an atom, it has a group of its own, which it shares with one
more connective at most. -/
theorem Branch.length_le_depthAs {filter : Filter} {passed : List Filter}
    (branch : Branch filter passed) : passed.length ≤ 2 * depthAs .atom filter ∧
      passed.length ≤ 2 * depthAs .conjunction filter + 1 ∧
      passed.length ≤ 2 * depth filter + 2 := by
  induction branch with
  | present | compare => simp
  | @all conditions passed condition membership _ inductionHypothesis =>
      have below : depthAs .atom condition ≤ depth (.all conditions) :=
        depthOf_le_iff.mp (Nat.le_refl _) condition membership
      have atom : depthAs .atom (.all conditions) = depth (.all conditions) + 1 := rfl
      have conjunction : depthAs .conjunction (.all conditions) = depth (.all conditions) := rfl
      have shorter := inductionHypothesis.1
      rw [List.length_cons, atom, conjunction]
      omega
  | @any alternatives passed alternative membership _ inductionHypothesis =>
      have below : depthAs .conjunction alternative ≤ depth (.any alternatives) :=
        depthOf_le_iff.mp (Nat.le_refl _) alternative membership
      have atom : depthAs .atom (.any alternatives) = depth (.any alternatives) + 1 := rfl
      have conjunction :
          depthAs .conjunction (.any alternatives) = depth (.any alternatives) + 1 := rfl
      have shorter := inductionHypothesis.2.1
      rw [List.length_cons, atom, conjunction]
      omega

/-- Whether the groups of some tokens, and the limit on them, bound the branches of a
filter. -/
structure IsShallow (filter : Filter) (tokens : List Token) : Prop where
  nests : NestsWithin maximalDepth tokens
  length_le : ∀ limit, NestsWithin limit tokens →
    ∀ passed, Branch filter passed → passed.length ≤ 2 * (limit + 1)
  length_le_maximal : ∀ passed, Branch filter passed → passed.length ≤ 402

theorem Derivation.isShallow {derivation : Derivation .expression}
    (nests : NestsWithin maximalDepth derivation.tokens) :
    IsShallow derivation.filter derivation.tokens := by
  have bound : ∀ limit, NestsWithin limit derivation.tokens →
      ∀ passed, Branch derivation.filter passed → passed.length ≤ 2 * (limit + 1) := by
    intro limit nests passed branch
    have shallow : depth derivation.filter ≤ limit :=
      depth_chain_any_le (depthAs_le_of_nestsWithin nests)
    have short := branch.length_le_depthAs.2.2
    omega
  exact ⟨nests, bound, bound maximalDepth nests⟩

/-- Whether a filter is derived from just these tokens at the start of a text. -/
structure IsDerivedFrom (text : String) (filter : Filter) (position : Nat)
    (consumed : List Lexeme) : Prop where
  items : ∃ item others, (Lexer.ofText text).remaining =
    consumed.map .lexeme ++ item :: others ∧ item.position = position
  derivation : ∃ derivation : Derivation .expression,
    derivation.tokens = consumed.map Lexeme.token ∧ derivation.filter = filter

theorem exists_isShallow_of_run {text : String} {parsed : Parsed}
    (run : State.initial.run (Lexed.ofText text) = .ok parsed) :
    ∃ consumed, IsDerivedFrom text parsed.filter parsed.position consumed ∧
      (parsed.found = .finish → Divides text (consumed.map Lexeme.token)) ∧
      IsShallow parsed.filter (consumed.map Lexeme.token) := by
  obtain ⟨consumed, item, others, last, items, steps, stops⟩ :=
    State.run_stops .initial (Lexed.ofText text)
  rw [run] at stops
  obtain ⟨accepts, position, atEnd, -⟩ := stops.of_ok
  obtain ⟨followed, nests⟩ := State.steps_initial_iff.mp steps
  obtain ⟨derivation, tokens, filter⟩ :=
    State.follows?_initial_iff.mp ⟨last, followed, accepts⟩
  refine ⟨consumed, ⟨⟨item, others, items, position⟩, derivation, tokens, filter⟩, ?_, ?_⟩
  · intro complete
    obtain ⟨place, rfl⟩ := atEnd.mp complete
    exact divides_iff.mpr (Lexed.tokens?_of_items items)
  · rw [← tokens] at nests ⊢
    rw [← filter]
    exact Derivation.isShallow nests

/-- However long a text is, the filter at its start is no deeper than the groups of its
tokens allow, and neither is that of the whole text. -/
theorem isShallow_of_parse (text : String) :
    (∀ filter position, parsePrefix text = .ok (filter, position) →
      ∃ consumed, IsDerivedFrom text filter position consumed ∧
        IsShallow filter (consumed.map Lexeme.token)) ∧
    ∀ filter, parse text = .ok filter → ∃ position consumed,
      IsDerivedFrom text filter position consumed ∧
        Divides text (consumed.map Lexeme.token) ∧
        IsShallow filter (consumed.map Lexeme.token) := by
  constructor
  · intro filter position found
    obtain ⟨parsed, run, rfl, rfl⟩ := parsePrefix_eq_ok_iff.mp found
    obtain ⟨consumed, derived, -, shallow⟩ := exists_isShallow_of_run run
    exact ⟨consumed, derived, shallow⟩
  · intro filter whole
    obtain ⟨parsed, run, complete, rfl⟩ := parse_eq_ok_iff.mp whole
    obtain ⟨consumed, derived, divides, shallow⟩ := exists_isShallow_of_run run
    exact ⟨parsed.position, consumed, derived, divides complete, shallow⟩

/-- With one group, four connectives on a branch are as many as there can be. -/
theorem isShallow_alternating :
    let filter := any [present "a", all [present "b", any [present "c", all
      [present "d", present "e"]]]]
    (∃ passed, Branch filter passed ∧ passed.length = 2 * (1 + 1)) ∧
    (parse "a OR b AND (c OR d AND e)" = .ok filter ∧ ∃ tokens,
      Divides "a OR b AND (c OR d AND e)" tokens ∧ NestsWithin 1 tokens ∧
        IsShallow filter tokens) ∧
    ∃ other consumed, parsePrefix "a OR b AND (c OR d AND e) f" = .ok (other, 26) ∧
      IsDerivedFrom "a OR b AND (c OR d AND e) f" other 26 consumed ∧
      IsShallow other (consumed.map Lexeme.token) := by
  intro filter
  refine ⟨⟨_, .any (.tail _ (.head _)) (.all (.tail _ (.head _)) (.any (.tail _ (.head _))
    (.all (.head _) .present))), rfl⟩, ?_, ?_⟩
  · let group := Derivation.or (.alternative (.condition (.name "c")))
      (.and (.condition (.name "d")) (.name "e"))
    let derivation := Derivation.or (.alternative (.condition (.name "a")))
      (.and (.condition (.name "b")) (.group group))
    have found : (Lexed.ofText "a OR b AND (c OR d AND e)").tokens? = some derivation.tokens := by
      decide +kernel
    have nests : NestsWithin 1 derivation.tokens := by decide +kernel
    have parsed : parse "a OR b AND (c OR d AND e)" = .ok filter :=
      parse_eq_ok_iff_exists_derivation.mpr ⟨derivation, found, by decide +kernel, rfl⟩
    obtain ⟨_, consumed, _, divides, shallow⟩ :=
      (isShallow_of_parse "a OR b AND (c OR d AND e)").2 filter parsed
    have same : consumed.map Lexeme.token = derivation.tokens :=
      Option.some.inj ((divides_iff.mp divides).symm.trans found)
    exact ⟨parsed, _, divides, same ▸ nests, shallow⟩
  · have decided : (parsePrefix "a OR b AND (c OR d AND e) f").toOption.map Prod.snd =
        some 26 := by decide +kernel
    cases found : parsePrefix "a OR b AND (c OR d AND e) f" with
    | error error => simp [found, Except.toOption] at decided
    | ok result =>
        obtain ⟨other, position⟩ := result
        obtain rfl : position = 26 := by simpa [found, Except.toOption] using decided
        obtain ⟨consumed, derived, shallow⟩ :=
          (isShallow_of_parse "a OR b AND (c OR d AND e) f").1 other 26 found
        exact ⟨other, consumed, rfl, derived, shallow⟩

end TagCatalog.Filter
